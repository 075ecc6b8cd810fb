/-
# Chip8.Proofs.Effect — what each act does to a machine

One law for each act. A law gives the value of the act and the machine behind it, or the
failure and the machine that stays; `on_bind_of_ok` and `on_bind_of_error` put acts
together. Acts on a register are stated for the sixteen numbers that registers have, and
there they never fail (`on_register`, `on_setRegister`); so are the two loops over
registers (`on_saveAll`, `on_setRegisters`).
-/
import Chip8.Machine.Execute

namespace Chip8

set_option autoImplicit false

namespace Registers

/-- Registers are equal if a program cannot tell them apart. -/
theorem ext_get {r s : Registers} (v : ∀ x, r.get x = s.get x) (i : r.i = s.i)
    (pc : r.pc = s.pc) : r = s := by
  obtain ⟨rv, ri, rpc⟩ := r
  obtain ⟨sv, si, spc⟩ := s
  simp only at i pc
  subst i pc
  congr 1
  apply Vector.ext
  intro k hk
  exact v ⟨k, hk⟩

theorem index_val (x : Nibble) : index (x.val : Int) = .ok x := by
  have := x.isLt
  rw [index, dif_pos (by omega)]
  rfl

theorem load_val (r : Registers) (x : Nibble) : r.load (x.val : Int) = .ok (r.get x) := by
  rw [load, index_val]
  rfl

theorem store_val (r : Registers) (x : Nibble) (value : Int) :
    r.store (x.val : Int) value = .ok (r.set x (BitVec.ofInt 8 value)) := by
  rw [store, index_val]
  rfl

end Registers

namespace Operation

variable (r : Registers) (values : List Byte)

theorem get_restored (x : Nibble) :
    (restored r values).get x = values.getD x.val (r.get x) := by
  simp [restored, Registers.get]

@[simp] theorem i_restored : (restored r values).i = r.i := by rw [restored]

@[simp] theorem pc_restored : (restored r values).pc = r.pc := by rw [restored]

end Operation

namespace Effect

variable {α β : Type}

/-! ## Putting acts together -/

@[simp] theorem on_pure (a : α) (m : Machine) : (pure a : Effect α).on m = (.ok a, m) := rfl

@[simp] theorem on_get (m : Machine) : (get : Effect Machine).on m = (.ok m, m) := rfl

@[simp] theorem on_modify (f : Machine → Machine) (m : Machine) :
    (modify f : Effect Unit).on m = (.ok (), f m) := rfl

@[simp] theorem on_ofFault (r : Except Fault α) (m : Machine) :
    (ofFault r).on m = (r.mapError .fault, m) := by
  cases r <;> rfl

@[simp] theorem on_ofRefusal (r : Except Refusal α) (m : Machine) :
    (ofRefusal r).on m = (r.mapError .refusal, m) := by
  cases r <;> rfl

/-- After acts that gave a value, the rest goes on from the machine they left. -/
theorem on_bind_of_ok {e : Effect α} {f : α → Effect β} {m m' : Machine} {a : α}
    (first : e.on m = (.ok a, m')) : (e >>= f).on m = (f a).on m' := by
  change (match e.on m with | (a, m') => ExceptT.bindCont f a m') = _
  rw [first]
  rfl

/-- After a failure nothing more happens. -/
theorem on_bind_of_error {e : Effect α} {f : α → Effect β} {m m' : Machine} {x : Failure}
    (first : e.on m = (.error x, m')) : (e >>= f).on m = (.error x, m') := by
  change (match e.on m with | (a, m') => ExceptT.bindCont f a m') = _
  rw [first]
  rfl

theorem on_bind (e : Effect α) (f : α → Effect β) (m : Machine) :
    (e >>= f).on m = match e.on m with
      | (.ok a, m') => (f a).on m'
      | (.error x, m') => (.error x, m') := by
  rcases h : e.on m with ⟨a | a, m'⟩
  · exact on_bind_of_error h
  · exact on_bind_of_ok h

/-! ## Acts on registers -/

@[simp] theorem on_register (x : Nibble) (m : Machine) :
    (register (x.val : Int)).on m = (.ok (m.registers.get x), m) := by
  rw [register, on_bind_of_ok (on_get m), on_ofFault, Registers.load_val]
  rfl

@[simp] theorem on_setRegister (x : Nibble) (value : Int) (m : Machine) :
    (setRegister (x.val : Int) value).on m = (.ok (), m.put x (BitVec.ofInt 8 value)) := by
  have stored : (ofFault (m.registers.store (x.val : Int) value)).on m =
      (.ok (m.registers.set x (BitVec.ofInt 8 value)), m) := by
    rw [on_ofFault, Registers.store_val]
    rfl
  rw [setRegister, on_bind_of_ok (on_get m), on_bind_of_ok stored]
  rfl

@[simp] theorem on_setFlag (flag : Bool) (m : Machine) :
    (setFlag flag).on m = (.ok (), { m with registers := m.registers.setFlag flag }) := rfl

@[simp] theorem on_jump (pc : Int) (m : Machine) : (jump pc).on m = (.ok (), m.jump pc) := rfl

@[simp] theorem on_point (i : Int) (m : Machine) : (point i).on m = (.ok (), m.point i) := rfl

@[simp] theorem on_skipIf (condition : Bool) (m : Machine) :
    (skipIf condition).on m = (.ok (), if condition then m.skip else m) := by
  cases condition <;> rfl

/-- The registers read one after another, as long as there are such registers. -/
theorem on_saveAll (m : Machine) (n : Nat) (few : n ≤ 16) :
    ((List.range n).mapM fun (k : Nat) => register k).on m =
      (.ok (m.registers.v.toList.take n), m) := by
  induction n with
  | zero => rfl
  | succ n ih =>
      have last : (register (n : Int)).on m = (.ok (m.registers.get ⟨n, few⟩), m) :=
        on_register ⟨n, few⟩ m
      have here : m.registers.v.toList[n]? = some (m.registers.get ⟨n, few⟩) := by
        simp [Registers.get, show n < 16 from few]
      rw [List.range_succ, List.mapM_append, on_bind_of_ok (ih (by omega)), List.mapM_cons,
        bind_assoc, on_bind_of_ok last, List.take_add_one, here]
      rfl

/-- The registers set one after another hold the given values; the others are as they were. -/
theorem on_setRegisters (values : List Byte) (k : Nat) (m : Machine)
    (few : k + values.length ≤ 16) :
    ∃ r : Registers, (setRegisters k values).on m = (.ok (), { m with registers := r }) ∧
      r.i = m.registers.i ∧ r.pc = m.registers.pc ∧
      ∀ x, r.get x =
        if k ≤ x.val then values.getD (x.val - k) (m.registers.get x) else m.registers.get x := by
  induction values generalizing k m with
  | nil => exact ⟨m.registers, rfl, rfl, rfl, fun x => by simp⟩
  | cons value rest ih =>
      rw [List.length_cons] at few
      have inside : k < 16 := by omega
      have first : (setRegister (k : Int) value.toNat).on m = (.ok (), m.put ⟨k, inside⟩ value) := by
        rw [on_setRegister ⟨k, inside⟩, BitVec.ofInt_natCast, BitVec.ofNat_toNat,
          BitVec.setWidth_eq]
      obtain ⟨r, run, i, pc, held⟩ := ih (k + 1) (m.put ⟨k, inside⟩ value) (by omega)
      simp only [Machine.put, Registers.i_set, Registers.pc_set] at i pc
      refine ⟨r, ?_, i, pc, fun x => ?_⟩
      · rw [setRegisters, on_bind_of_ok first, run, Machine.put]
      · rw [held x]
        simp only [Machine.put, Registers.get_set, Fin.ext_iff]
        rcases Nat.lt_trichotomy x.val k with before | same | after
        · rw [if_neg (by omega), if_neg (by omega), if_neg (by omega)]
        · rw [if_neg (by omega), if_pos same.symm, if_pos (by omega), same, Nat.sub_self]
          rfl
        · rw [if_pos (by omega), if_neg (by omega), if_pos (by omega),
            show x.val - k = x.val - (k + 1) + 1 by omega]
          rfl

/-- The registers restored from the first one on. -/
theorem on_restoreAll (values : List Byte) (m : Machine) (few : values.length ≤ 16) :
    (setRegisters 0 values).on m =
      (.ok (), { m with registers := Operation.restored m.registers values }) := by
  obtain ⟨r, run, i, pc, held⟩ := on_setRegisters values 0 m (by omega)
  have same : r = Operation.restored m.registers values := by
    apply Registers.ext_get
    · intro x
      rw [held x, if_pos (Nat.zero_le _), Nat.sub_zero, Operation.get_restored]
    · rw [i, Operation.i_restored]
    · rw [pc, Operation.pc_restored]
  rw [run, same]

/-! ## Acts on the other parts -/

@[simp] theorem on_requestRedraw (m : Machine) :
    requestRedraw.on m = (.ok (), { m with redraw := true }) := rfl

@[simp] theorem on_randomByte (m : Machine) :
    randomByte.on m = (.ok m.generator.byte.1, { m with generator := m.generator.byte.2 }) := rfl

theorem on_push (address : Int) (m : Machine) :
    (push address).on m = match m.stack.push address with
      | .ok stack => (.ok (), { m with stack })
      | .error f => (.error (.fault f), m) := by
  rw [push, on_bind_of_ok (on_get m), on_bind, on_ofFault]
  cases m.stack.push address <;> rfl

theorem on_pop (m : Machine) :
    pop.on m = match m.stack.pop with
      | .ok (address, stack) => (.ok address, { m with stack })
      | .error f => (.error (.fault f), m) := by
  rw [pop, on_bind_of_ok (on_get m), on_bind, on_ofFault]
  cases m.stack.pop <;> rfl

theorem on_readBlock_ok {length : Int} {m : Machine} {values : List Byte}
    (read : m.memory.readBlock m.registers.i length = .ok values) :
    (readBlock length).on m = (.ok values, m) := by
  rw [readBlock, on_bind_of_ok (on_get m), on_ofFault, read]
  rfl

theorem on_readBlock_error {length : Int} {m : Machine} {f : Fault}
    (refused : m.memory.readBlock m.registers.i length = .error f) :
    (readBlock length).on m = (.error (.fault f), m) := by
  rw [readBlock, on_bind_of_ok (on_get m), on_ofFault, refused]
  rfl

/-- A block is written as a whole or not at all. -/
theorem on_writeBlock (values : List Byte) (m : Machine) :
    (writeBlock values).on m = match m.memory.writeBlock m.registers.i values with
      | .ok memory => (.ok (), { m with memory })
      | .error f => (.error (.fault f), m) := by
  rw [writeBlock, on_bind_of_ok (on_get m), on_bind, on_ofFault, Memory.writeBlock]
  cases m.memory.check m.registers.i values.length <;> rfl

/-- A sprite that is not too tall is drawn. -/
theorem on_blit (x y : Int) (rows : List Byte) (m : Machine) (fits : rows.length ≤ 15) :
    (blit x y rows).on m =
      let drawn := m.display.draw (x % m.display.width).toNat y (m.display.column_lt x) rows
      (.ok drawn.1, { m with display := drawn.2 }) := by
  rw [blit, on_bind_of_ok (on_get m), on_bind, on_ofRefusal, Display.blit,
    if_neg (by rw [Display.spriteLimit]; omega)]
  rfl

theorem on_pressed (k : Int) (m : Machine) :
    (pressed k).on m = ((m.keypad.pressed k).mapError .fault, m) := by
  rw [pressed, on_bind_of_ok (on_get m), on_ofFault]

end Effect

end Chip8
