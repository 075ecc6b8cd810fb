/-
# Chip8.Proofs.Footprint — the memory that a step reads and writes

A step sees two cells at the program counter and at most sixteen from the index on, and writes at
most those from the index on. Both are said by one law (`exists_stored`): for a step there are a few
bytes such that, under every memory that looks the same in those cells, the step comes to the same
and leaves the bytes at the index. What is written is read off from the law for the machine's own
memory, and that nothing else is read from the law for all the others.

So two machines that differ in other cells only are not told apart by a step, and keep their
difference (`step_of_alike`).
-/
import Chip8.Proofs.Step

namespace Chip8

set_option autoImplicit false

namespace Memory

variable {m other : Memory}

theorem check_congr (size : other.size = m.size) (address length : Int) :
    other.check address length = m.check address length := by
  unfold check
  rw [size]

theorem peeks_congr {a n : Nat} (same : ∀ k < n, other.byte (a + k) = m.byte (a + k)) :
    other.peeks a n = m.peeks a n :=
  List.map_congr_left fun k inside => same k (List.mem_range.1 inside)

/-- A block is read alike from memories that agree on it. -/
theorem readBlock_congr (size : other.size = m.size) {address : Int} {n : Nat}
    (same : ∀ a : Nat, address ≤ a → a < address + n → other.byte a = m.byte a) :
    other.readBlock address n = m.readBlock address n := by
  rw [readBlock_eq, readBlock_eq, check_congr size]
  cases checked : m.check address n with
  | error f => rfl
  | ok _ =>
      obtain ⟨nonneg, -, -⟩ := (check_eq_ok_iff m address n).1 checked
      have cells : other.peeks address.toNat n = m.peeks address.toNat n :=
        peeks_congr fun k inside => same _ (by omega) (by omega)
      rw [cells]

end Memory

namespace Machine

def remember (m : Machine) (memory : Memory) : Machine := { m with memory }

def AtCounter (m : Machine) (a : Nat) : Prop := m.registers.pc ≤ a ∧ a < m.registers.pc + 2

/-- The sixteen cells from the index on. -/
def AtIndex (m : Machine) (a : Nat) : Prop := m.registers.i ≤ a ∧ a < m.registers.i + 16

/-- A memory that looks like the memory of a machine in some cells. -/
structure LooksLike (other : Memory) (m : Machine) (cells : Nat → Prop) : Prop where
  size : other.size = m.memory.size
  same : ∀ a, cells a → other.byte a = m.memory.byte a

end Machine

open Machine

namespace Operation

/-- The bytes that an operation writes at the index. -/
def stores (w : Opcode) (m : Machine) : Operation → List Byte
  | .decimalDigits => digits (m.registers.get (Opcode.x w))
  | .saveRegisters => saved m.registers (Opcode.x w)
  | _ => []

variable {dialect : Dialect} {w : Opcode} {m after : Machine}

theorem length_stores_le (w : Opcode) (m : Machine) (o : Operation) :
    (o.stores w m).length ≤ 16 := by
  cases o with
  | decimalDigits => exact (by decide : 3 ≤ 16)
  | saveRegisters =>
      rw [stores, length_saved]
      exact (Opcode.x w).isLt
  | _ => exact Nat.zero_le 16

/-- What follows a part of an operation may be put off. -/
theorem bind_eq_map {α : Type} {r r' : Except Fault α} (same : r' = r) {next next' : α → Machine}
    {f : Machine → Machine} (each : ∀ a, next' a = f (next a)) :
    (do let a ← r'; return next' a : Except Fault Machine) =
      (do let a ← r; return next a : Except Fault Machine).map f := by
  rw [same]
  cases r with
  | error g => rfl
  | ok a => exact congrArg Except.ok (each a)

/-- The same is written to another memory of the same size, or it does not fit there either. -/
theorem bind_writeBlock_remember {other : Memory} (size : other.size = m.memory.size)
    (values : List Byte) :
    (do let memory ← other.writeBlock m.registers.i values
        return m.remember memory : Except Fault Machine) =
      (do let memory ← m.memory.writeBlock m.registers.i values
          return m.remember memory : Except Fault Machine).map
        (·.remember (other.pokes m.registers.i.toNat values)) := by
  rw [Memory.writeBlock_eq, Memory.writeBlock_eq, Memory.check_congr size]
  cases m.memory.check m.registers.i values.length <;> rfl

/-- Under a memory that looks the same at the index, an operation does the same and writes the same
bytes there. -/
theorem apply_remember {other : Memory} (alike : LooksLike other m m.AtIndex) (o : Operation) :
    o.apply dialect w (m.remember other) =
      (o.apply dialect w m).map
        (·.remember (other.pokes m.registers.i.toNat (o.stores w m))) := by
  have read {n : Nat} (few : n ≤ 16) :
      other.readBlock m.registers.i n = m.memory.readBlock m.registers.i n :=
    Memory.readBlock_congr alike.size fun a low high => alike.same a ⟨low, by omega⟩
  have skipped (condition : Bool) : skippedIf condition (m.remember other) =
      (skippedIf condition m).remember other := by
    cases condition <;> rfl
  cases o with
  | ret => exact bind_eq_map (r := m.stack.pop) rfl fun _ => rfl
  | call => exact bind_eq_map (r := m.stack.push m.registers.pc) rfl fun _ => rfl
  | skipEqualByte => exact congrArg Except.ok (skipped _)
  | skipUnequalByte => exact congrArg Except.ok (skipped _)
  | skipEqual => exact congrArg Except.ok (skipped _)
  | skipUnequal => exact congrArg Except.ok (skipped _)
  | skipDown => exact bind_eq_map rfl skipped
  | skipUp => exact bind_eq_map rfl fun down => skipped !down
  | waitKey =>
      have keys : (m.remember other).keypad = m.keypad := rfl
      simp only [apply, keys]
      cases m.keypad.first? <;> rfl
  | draw => exact bind_eq_map (read (Nat.le_of_lt (Opcode.n w).isLt)) fun _ => rfl
  | restoreRegisters =>
      exact bind_eq_map (read (n := (Opcode.x w).val + 1) (Opcode.x w).isLt) fun _ => rfl
  | decimalDigits => exact bind_writeBlock_remember alike.size _
  | saveRegisters => exact bind_writeBlock_remember alike.size _
  | _ =>
      -- what is left does not ask for memory
      rfl

/-- What an operation writes lies in memory. -/
theorem stores_fit {o : Operation} (done : o.apply dialect w m = .ok after) :
    o.stores w m = [] ∨
      0 ≤ m.registers.i ∧ m.registers.i + (o.stores w m).length ≤ m.memory.size := by
  cases o with
  | decimalDigits =>
      obtain ⟨memory, written, -⟩ := decimalDigits_eq_ok done
      obtain ⟨nonneg, -, fits, -⟩ := Memory.writeBlock_eq_ok written
      exact .inr ⟨nonneg, fits⟩
  | saveRegisters =>
      obtain ⟨memory, written, -⟩ := saveRegisters_eq_ok done
      obtain ⟨nonneg, -, fits, -⟩ := Memory.writeBlock_eq_ok written
      exact .inr ⟨nonneg, fits⟩
  | _ => exact .inl rfl

end Operation

namespace Machine

variable {m m' : Machine}

/-- The opcode is fetched from the two cells at the program counter. -/
theorem fetch_remember {other : Memory} (alike : LooksLike other m m.AtCounter) :
    (m.remember other).fetch = m.fetch := by
  cases fetched : m.fetch with
  | error f =>
      obtain ⟨outside, blamed⟩ := (fetch_eq_error_iff m f).1 fetched
      refine (fetch_eq_error_iff (m.remember other) f).2 ⟨outside.imp_right fun above => ?_, blamed⟩
      exact alike.size ▸ above
  | ok w =>
      obtain ⟨nonneg, below, word⟩ := (fetch_eq_ok_iff m w).1 fetched
      refine (fetch_eq_ok_iff (m.remember other) w).2 ⟨nonneg, ?_, word.trans ?_⟩
      · exact alike.size ▸ below
      · have first := alike.same m.registers.pc.toNat ⟨by omega, by omega⟩
        have second := alike.same (m.registers.pc.toNat + 1) ⟨by omega, by omega⟩
        have same : other.word m.registers.pc.toNat = m.memory.word m.registers.pc.toNat := by
          rw [Memory.word, Memory.word, first, second]
        exact same.symm

def Sees (m : Machine) (a : Nat) : Prop := m.AtCounter a ∨ m.AtIndex a

/-- Bytes that a step may leave at the index: sixteen at most, all of them in memory. -/
structure Storable (m : Machine) (bytes : List Byte) : Prop where
  few : bytes.length ≤ 16
  fit : bytes = [] ∨ 0 ≤ m.registers.i ∧ m.registers.i + bytes.length ≤ m.memory.size

namespace Storable

variable {bytes : List Byte} (h : m.Storable bytes) {other : Memory}
  (size : other.size = m.memory.size) {a : Nat}

include h size

/-- Beside the sixteen cells at the index nothing changes. -/
theorem byte_pokes_of_beside (beside : ¬m.AtIndex a) :
    (other.pokes m.registers.i.toNat bytes).byte a = other.byte a := by
  obtain ⟨few, rfl | ⟨nonneg, inside⟩⟩ := h
  · rfl
  · unfold AtIndex at beside
    rw [Memory.byte_pokes _ _ _ _ (by omega), if_neg (by omega)]

/-- Cells that were equal are equal afterwards. -/
theorem byte_pokes_congr (same : other.byte a = m.memory.byte a) :
    (other.pokes m.registers.i.toNat bytes).byte a =
      (m.memory.pokes m.registers.i.toNat bytes).byte a := by
  obtain ⟨-, rfl | ⟨nonneg, inside⟩⟩ := h
  · exact same
  · rw [Memory.byte_pokes _ _ _ _ (by omega), Memory.byte_pokes _ _ _ _ (by omega), same]

end Storable

/-- Under every memory that looks the same, a step comes to the same and leaves the same bytes at
the index. -/
theorem exists_stored (s : Setting) (m : Machine) :
    ∃ bytes, m.Storable bytes ∧ ∀ other, LooksLike other m m.Sees →
      (m.remember other).step s =
        { m.step s with
          machine := (m.step s).machine.remember (other.pokes m.registers.i.toNat bytes) } := by
  -- the bytes are those that the operation stores; a step that executes none leaves no bytes
  have nothing : m.Storable [] := ⟨Nat.zero_le 16, .inl rfl⟩
  have again {other : Memory} (alike : LooksLike other m m.Sees) :
      (m.remember other).fetch = m.fetch :=
    fetch_remember ⟨alike.size, fun a here => alike.same a (.inl here)⟩
  cases fetched : m.fetch with
  | error f =>
      refine ⟨[], nothing, fun other alike => ?_⟩
      rw [step_of_unfetched fetched, step_of_unfetched ((again alike).trans fetched)]
      rfl
  | ok w =>
      rcases resolved : resolve s m.registers.pc w with ⟨printed, e | ⟨row, o⟩⟩
      · refine ⟨[], nothing, fun other alike => ?_⟩
        rw [step_of_unresolved fetched resolved,
          step_of_unresolved ((again alike).trans fetched) resolved]
        rfl
      · have acts {other : Memory} (alike : LooksLike other m m.Sees) :
            (o.apply s.dialect w (m.remember other).skip) = (o.apply s.dialect w m.skip).map
              (·.remember (other.pokes m.registers.i.toNat (o.stores w m.skip))) :=
          Operation.apply_remember (m := m.skip)
            ⟨alike.size, fun a here => alike.same a (.inr here)⟩ o
        cases applied : o.apply s.dialect w m.skip with
        | error f =>
            refine ⟨[], nothing, fun other alike => ?_⟩
            rw [step_of_resolved fetched resolved, applied,
              step_of_resolved ((again alike).trans fetched) resolved, acts alike, applied]
            rfl
        | ok after =>
            refine ⟨o.stores w m.skip, ⟨o.length_stores_le w m.skip, Operation.stores_fit applied⟩,
              fun other alike => ?_⟩
            rw [step_of_resolved fetched resolved, applied,
              step_of_resolved ((again alike).trans fetched) resolved, acts alike, applied]
            rfl

/-- Two machines are equal but for cells of memory that a step does not see. -/
structure Alike (m m' : Machine) : Prop where
  parts : m' = m.remember m'.memory
  memory : LooksLike m'.memory m m.Sees

/-- Of two machines that are alike, a step makes the same of both: the outcome, what is printed, and
all parts but memory are equal, so are the cells that the step sees, and beside the sixteen cells
at the index each machine keeps its memory. -/
theorem step_of_alike (s : Setting) (alike : m.Alike m') :
    (m'.step s).outcome = (m.step s).outcome ∧ (m'.step s).printed = (m.step s).printed ∧
    (m'.step s).machine = (m.step s).machine.remember (m'.step s).machine.memory ∧
    (m.step s).machine.memory.size = m.memory.size ∧
    (m'.step s).machine.memory.size = m'.memory.size ∧
    (∀ a, m.Sees a →
      (m'.step s).machine.memory.byte a = (m.step s).machine.memory.byte a) ∧
    (∀ a, ¬m.AtIndex a →
      (m.step s).machine.memory.byte a = m.memory.byte a ∧
      (m'.step s).machine.memory.byte a = m'.memory.byte a) := by
  obtain ⟨bytes, storable, law⟩ := exists_stored s m
  have first : (m.step s).machine.memory = m.memory.pokes m.registers.i.toNat bytes :=
    congrArg (fun r : Step => r.machine.memory) (law m.memory ⟨rfl, fun _ _ => rfl⟩)
  have second := law m'.memory alike.memory
  rw [← alike.parts] at second
  rw [second, first]
  have size := alike.memory.size
  exact ⟨rfl, rfl, rfl, Memory.size_pokes .., Memory.size_pokes ..,
    fun a seen => storable.byte_pokes_congr size (alike.memory.same a seen),
    fun a beside => ⟨storable.byte_pokes_of_beside rfl beside,
      storable.byte_pokes_of_beside size beside⟩⟩

/-- The decimal digits of a register are written at `0x300`, with two memories that differ in a cell
further on. -/
theorem step_of_alike_digits :
    let m := (primed 0xF0 0x33).point 0x300
    let m' := m.remember (m.memory.poke 0x400 7)
    m.Alike m' ∧ m'.memory.byte 0x400 = 7 ∧ (m'.step {}).outcome = (m.step {}).outcome ∧
      (m'.step {}).machine.memory.byte 0x400 = 7 ∧
      (m'.step {}).machine.memory.byte 0x302 = (m.step {}).machine.memory.byte 0x302 := by
  intro m m'
  have size : m.memory.size = 4096 := size_memory_primed 0xF0 0x33
  have poked (a : Nat) : m'.memory.byte a = if 0x400 = a ∧ 0x400 < m.memory.size then 7
      else m.memory.byte a := Memory.byte_poke ..
  have alike : m.Alike m' := by
    refine ⟨rfl, Memory.size_poke .., fun a seen => ?_⟩
    have near : (0 ≤ (a : Int) ∧ (a : Int) < 0 + 2) ∨
        (0x300 ≤ (a : Int) ∧ (a : Int) < 0x300 + 16) := seen
    rw [poked, if_neg (by omega)]
  have differs : m'.memory.byte 0x400 = 7 := by
    rw [poked, size]
    rfl
  obtain ⟨outcome, -, -, -, -, seen, beside⟩ := step_of_alike {} alike
  have far : ¬m.AtIndex 0x400 := by
    rintro ⟨-, below⟩
    exact absurd below (by decide)
  have near : m.Sees 0x302 := .inr ⟨by decide, by decide⟩
  exact ⟨alike, differs, outcome, (beside _ far).2.trans differs, seen _ near⟩

end Machine

end Chip8
