/-
# Chip8.Proofs.Transaction — an operation happens as a whole or not at all

An operation is executed act by act, and a failure in the middle would leave a machine
that is half changed. `apply` says the same operation in one piece: it gives the machine
afterwards or a fault, and with a fault no machine. `on_execute` is the law that ties the
two: wherever the acts fail, they have changed nothing yet, and the failure is a fault.

So of everything that could go wrong in an act, only the faults of `apply` ever do: a
register always has a number below sixteen, and a sprite at most fifteen rows.
-/
import Chip8.Proofs.Effect
import Chip8.Proofs.Memory

namespace Chip8

set_option autoImplicit false

namespace Operation

def shifted (dialect : Dialect) (w : Opcode) (m : Machine) : Byte :=
  m.registers.get (if dialect.shiftsVy then Opcode.y w else Opcode.x w)

def putThenFlag (m : Machine) (x : Nibble) (value : Byte) (flag : Bool) : Machine :=
  { m with registers := (m.registers.set x value).setFlag flag }

def flagThenPut (m : Machine) (x : Nibble) (value : Byte) (flag : Bool) : Machine :=
  { m with registers := (m.registers.setFlag flag).set x value }

def saved (r : Registers) (x : Nibble) : List Byte := r.v.toList.take (x.val + 1)

theorem length_saved (r : Registers) (x : Nibble) : (saved r x).length = x.val + 1 := by
  rw [saved, List.length_take, Vector.length_toList, Nat.min_eq_left (Nat.succ_le_of_lt x.isLt)]

theorem getElem?_saved (r : Registers) (x k : Nibble) :
    (saved r x)[k.val]? = if k ≤ x then some (r.get k) else none := by
  have place : k.val < x.val + 1 ↔ k ≤ x := Nat.lt_succ_iff
  rw [saved, List.getElem?_take]
  simp only [place]
  split
  · simp [Registers.get]
  · rfl

/-- A register after some were restored from memory. -/
theorem get_restored_peeks (r : Registers) (memory : Memory) (a : Nat) (x k : Nibble) :
    (restored r (memory.peeks a (x.val + 1))).get k =
      if k ≤ x then memory.byte (a + k.val) else r.get k := by
  have place : k.val < x.val + 1 ↔ k ≤ x := Nat.lt_succ_iff
  rw [get_restored, List.getD_eq_getElem?_getD, Memory.getElem?_peeks]
  simp only [place]
  split <;> rfl

/-- The machine with a sprite drawn at the place that two registers name. -/
def drawn (m : Machine) (vx vy : Byte) (rows : List Byte) : Machine :=
  let d := m.display
  let r := d.draw (vx.toNat % d.width : Int).toNat vy.toNat (d.column_lt vx.toNat) rows
  { m with display := r.2, registers := m.registers.setFlag r.1, redraw := true }

@[simp] theorem stride_drawn (m : Machine) (vx vy : Byte) (rows : List Byte) :
    (drawn m vx vy rows).display.stride = m.display.stride :=
  Display.stride_draw ..

@[simp] theorem height_drawn (m : Machine) (vx vy : Byte) (rows : List Byte) :
    (drawn m vx vy rows).display.height = m.display.height :=
  Display.height_draw ..

def skippedIf (condition : Bool) (m : Machine) : Machine := if condition then m.skip else m

/-- The machine after an operation with the operands of an opcode, or its fault. -/
def apply (dialect : Dialect) (w : Opcode) (m : Machine) : Operation → Except Fault Machine :=
  let x := Opcode.x w
  let vx := m.registers.get x
  let vy := m.registers.get (Opcode.y w)
  fun
  | .clear => .ok { m with display := m.display.clear, redraw := true }
  | .ret => do
      let (address, stack) ← m.stack.pop
      return { m with stack }.jump address.toNat
  | .sys => .ok m
  | .jump => .ok (m.jump (Opcode.nnn w))
  | .call => do
      let stack ← m.stack.push m.registers.pc
      return { m with stack }.jump (Opcode.nnn w)
  | .skipEqualByte => .ok (skippedIf (vx == Opcode.nn w) m)
  | .skipUnequalByte => .ok (skippedIf (vx != Opcode.nn w) m)
  | .skipEqual => .ok (skippedIf (vx == vy) m)
  | .skipUnequal => .ok (skippedIf (vx != vy) m)
  | .loadByte => .ok (m.put x (Opcode.nn w))
  | .addByte => .ok (m.put x (vx + Opcode.nn w))
  | .load => .ok (m.put x vy)
  | .or => .ok (m.put x (vx ||| vy))
  | .and => .ok (m.put x (vx &&& vy))
  | .xor => .ok (m.put x (vx ^^^ vy))
  | .add => .ok (putThenFlag m x (vx + vy) (decide (0xFF < vx.toNat + vy.toNat)))
  | .subtract => .ok (putThenFlag m x (vx - vy) (decide (vx < vy)))
  | .subtractFrom => .ok (putThenFlag m x (vy - vx) (decide (vy < vx)))
  | .shiftRight =>
      let value := shifted dialect w m
      .ok (flagThenPut m x (value >>> 1) (value &&& 0x01 != 0))
  | .shiftLeft =>
      let value := shifted dialect w m
      .ok (flagThenPut m x (value <<< 1) (value &&& 0x80 != 0))
  | .loadIndex => .ok (m.point (Opcode.nnn w))
  | .jumpOffset =>
      let v0 := m.registers.get Registers.offsetIndex
      .ok (m.jump ((Opcode.nnn w + v0.toNat : Int) % 0x10000))
  | .random =>
      .ok ({ m with generator := m.generator.byte.2 }.put x (m.generator.byte.1 &&& Opcode.nn w))
  | .draw => do
      let rows ← m.memory.readBlock m.registers.i (Opcode.n w).val
      return drawn m vx vy rows
  | .skipDown => do return skippedIf (← m.keypad.pressed vx.toNat) m
  | .skipUp => do return skippedIf (!(← m.keypad.pressed vx.toNat)) m
  | .readDelay => .ok (m.put x m.timers.delay)
  | .waitKey =>
      match m.keypad.first? with
      | none => .ok (m.jump ((m.registers.pc - 2) % 0x10000))
      | some key => .ok (m.put x (BitVec.ofNat 8 key.val))
  | .writeDelay => .ok { m with timers := { m.timers with delay := vx } }
  | .writeSound => .ok { m with timers := { m.timers with sound := vx } }
  | .addIndex => .ok (m.point ((m.registers.i + vx.toNat) % 0x10000))
  | .loadGlyph => .ok (m.point ((Font.base + vx.toNat * dialect.glyphStride : Int) % 0x10000))
  | .decimalDigits => do
      let memory ← m.memory.writeBlock m.registers.i (digits vx)
      return { m with memory }
  | .saveRegisters => do
      let memory ← m.memory.writeBlock m.registers.i (saved m.registers x)
      return { m with memory }
  | .restoreRegisters => do
      let values ← m.memory.readBlock m.registers.i (x.val + 1)
      return { m with registers := restored m.registers values }

/-- What acts on a machine come to when they happen as a whole or not at all. -/
def commit (m : Machine) : Except Fault Machine → Except Failure Unit × Machine
  | .ok after => (.ok (), after)
  | .error f => (.error (.fault f), m)

/-! ## Operations that may fault

What an operation did when it succeeded, for the operations that need not. -/

/-- What follows a part of an operation adds no fault to it. -/
theorem bind_eq_error_iff {α : Type} {r : Except Fault α} (next : α → Machine) (f : Fault) :
    (do let a ← r; return next a : Except Fault Machine) = .error f ↔ r = .error f := by
  cases r with
  | error g => exact ⟨fun h => by cases h; rfl, fun h => by cases h; rfl⟩
  | ok a => exact ⟨(nomatch ·), (nomatch ·)⟩

/-- What follows a part of an operation needs that part to succeed. -/
theorem bind_eq_ok {α : Type} {r : Except Fault α} (next : α → Machine) {after : Machine}
    (done : (do let a ← r; return next a : Except Fault Machine) = .ok after) :
    ∃ a, r = .ok a ∧ after = next a := by
  cases r with
  | error g => cases done
  | ok a =>
      cases done
      exact ⟨a, rfl, rfl⟩

section

variable {dialect : Dialect} {w : Opcode} {m after : Machine}

theorem ret_eq_ok (done : apply dialect w m .ret = .ok after) :
    ∃ address stack, m.stack.pop = .ok (address, stack) ∧
      after = Machine.jump { m with stack } address.toNat := by
  obtain ⟨⟨address, stack⟩, popped, rfl⟩ :=
    bind_eq_ok (fun r : Word × Stack => Machine.jump { m with stack := r.2 } r.1.toNat) done
  exact ⟨address, stack, popped, rfl⟩

theorem call_eq_ok (done : apply dialect w m .call = .ok after) :
    ∃ stack, m.stack.push m.registers.pc = .ok stack ∧
      after = Machine.jump { m with stack } (Opcode.nnn w) :=
  bind_eq_ok (fun stack : Stack => Machine.jump { m with stack } (Opcode.nnn w)) done

theorem skipDown_eq_ok (done : apply dialect w m .skipDown = .ok after) :
    ∃ down, m.keypad.pressed (m.registers.get (Opcode.x w)).toNat = .ok down ∧
      after = skippedIf down m :=
  bind_eq_ok (fun down => skippedIf down m) done

theorem skipUp_eq_ok (done : apply dialect w m .skipUp = .ok after) :
    ∃ down, m.keypad.pressed (m.registers.get (Opcode.x w)).toNat = .ok down ∧
      after = skippedIf (!down) m :=
  bind_eq_ok (fun down => skippedIf (!down) m) done

theorem draw_eq_ok (done : apply dialect w m .draw = .ok after) :
    ∃ rows, m.memory.readBlock m.registers.i (Opcode.n w).val = .ok rows ∧
      after = drawn m (m.registers.get (Opcode.x w)) (m.registers.get (Opcode.y w)) rows :=
  bind_eq_ok (drawn m (m.registers.get (Opcode.x w)) (m.registers.get (Opcode.y w))) done

theorem decimalDigits_eq_ok (done : apply dialect w m .decimalDigits = .ok after) :
    ∃ memory, m.memory.writeBlock m.registers.i (digits (m.registers.get (Opcode.x w))) =
      .ok memory ∧ after = { m with memory } :=
  bind_eq_ok (fun memory : Memory => { m with memory }) done

theorem saveRegisters_eq_ok (done : apply dialect w m .saveRegisters = .ok after) :
    ∃ memory, m.memory.writeBlock m.registers.i (saved m.registers (Opcode.x w)) = .ok memory ∧
      after = { m with memory } :=
  bind_eq_ok (fun memory : Memory => { m with memory }) done

theorem restoreRegisters_eq_ok (done : apply dialect w m .restoreRegisters = .ok after) :
    ∃ values, m.memory.readBlock m.registers.i ((Opcode.x w).val + 1) = .ok values ∧
      after = { m with registers := restored m.registers values } :=
  bind_eq_ok (fun values => { m with registers := restored m.registers values }) done

end

/-! ## Values that registers take modulo 256 -/

@[simp] theorem ofInt_toNat (b : Byte) : BitVec.ofInt 8 (b.toNat : Int) = b := by
  rw [BitVec.ofInt_natCast, BitVec.ofNat_toNat, BitVec.setWidth_eq]

@[simp] theorem ofInt_add (a b : Byte) : BitVec.ofInt 8 (a.toNat + b.toNat) = a + b := by
  rw [BitVec.ofInt_add, ofInt_toNat, ofInt_toNat]

@[simp] theorem ofInt_sub (a b : Byte) : BitVec.ofInt 8 (a.toNat - b.toNat) = a - b := by
  rw [Int.sub_eq_add_neg, BitVec.ofInt_add, BitVec.ofInt_neg, ofInt_toNat, ofInt_toNat,
    BitVec.sub_eq_add_neg]

@[simp] theorem ofInt_shiftRight (b : Byte) (k : Nat) :
    BitVec.ofInt 8 ((b.toNat : Int) >>> k) = b >>> k := by
  rw [← Int.natCast_shiftRight, ← BitVec.toNat_ushiftRight, ofInt_toNat]

@[simp] theorem ofInt_shiftLeft (b : Byte) (k : Nat) :
    BitVec.ofInt 8 ((b.toNat : Int) <<< k) = b <<< k := by
  rw [← Int.natCast_shiftLeft, BitVec.ofInt_natCast]
  exact BitVec.eq_of_toNat_eq (by rw [BitVec.toNat_ofNat, BitVec.toNat_shiftLeft])

/-! ## One operation -/

open Effect

/-- The acts of an operation come to what the operation is in one piece. -/
theorem on_execute (dialect : Dialect) (w : Opcode) (m : Machine) (o : Operation) :
    (o.execute dialect w).on m = commit m (o.apply dialect w m) := by
  cases o with
  | clear => rfl
  | ret =>
      simp only [execute, apply]
      rw [on_bind, on_pop]
      cases m.stack.pop <;> rfl
  | sys => rfl
  | jump => rfl
  | call =>
      simp only [execute, apply]
      rw [on_bind_of_ok (on_get m), on_bind, on_push]
      cases m.stack.push m.registers.pc <;> rfl
  | skipEqualByte => simp [execute, apply, on_bind, commit, skippedIf]
  | skipUnequalByte => simp [execute, apply, on_bind, commit, skippedIf]
  | skipEqual => simp [execute, apply, on_bind, commit, skippedIf]
  | skipUnequal => simp [execute, apply, on_bind, commit, skippedIf]
  | loadByte => simp [execute, apply, commit]
  | addByte => simp [execute, apply, on_bind, commit]
  | load => simp [execute, apply, on_bind, commit]
  | or => simp [execute, apply, on_bind, commit]
  | and => simp [execute, apply, on_bind, commit]
  | xor => simp [execute, apply, on_bind, commit]
  | add => simp [execute, apply, on_bind, commit, putThenFlag, Machine.put]
  | subtract => simp [execute, apply, on_bind, commit, putThenFlag, Machine.put]
  | subtractFrom => simp [execute, apply, on_bind, commit, putThenFlag, Machine.put]
  | shiftRight =>
      simp [execute, apply, on_bind, commit, flagThenPut, Machine.put, shiftSource, shifted]
  | shiftLeft =>
      simp [execute, apply, on_bind, commit, flagThenPut, Machine.put, shiftSource, shifted]
  | loadIndex => rfl
  | jumpOffset =>
      have v0 : (register 0).on m = (.ok (m.registers.get Registers.offsetIndex), m) :=
        on_register Registers.offsetIndex m
      simp only [execute, apply]
      rw [on_bind_of_ok v0]
      rfl
  | random => simp [execute, apply, on_bind, commit]
  | draw =>
      simp only [execute, apply]
      cases read : m.memory.readBlock m.registers.i (Opcode.n w).val with
      | error f =>
          rw [on_bind_of_error (on_readBlock_error read)]
          rfl
      | ok rows =>
          -- the digit `n` bounds the height of the sprite
          have few : rows.length ≤ 15 := by
            rw [Memory.length_of_readBlock read]
            exact Nat.lt_succ_iff.1 (Opcode.n w).isLt
          rw [on_bind_of_ok (on_readBlock_ok read), on_bind_of_ok (on_register _ m),
            on_bind_of_ok (on_register _ m), on_bind_of_ok (on_blit _ _ rows m few)]
          rfl
  | skipDown =>
      simp only [execute, apply]
      rw [on_bind_of_ok (on_register _ m), on_bind, on_pressed]
      cases m.keypad.pressed (m.registers.get (Opcode.x w)).toNat with
      | error f => rfl
      | ok down => exact on_skipIf down m
  | skipUp =>
      simp only [execute, apply]
      rw [on_bind_of_ok (on_register _ m), on_bind, on_pressed]
      cases m.keypad.pressed (m.registers.get (Opcode.x w)).toNat with
      | error f => rfl
      | ok down => exact on_skipIf (!down) m
  | readDelay => simp [execute, apply, on_bind, commit]
  | waitKey =>
      simp only [execute, apply]
      rw [on_bind_of_ok (on_get m)]
      cases m.keypad.first? with
      | none => rfl
      | some key => simp [commit]
  | writeDelay => simp [execute, apply, on_bind, commit]
  | writeSound => simp [execute, apply, on_bind, commit]
  | addIndex => simp [execute, apply, on_bind, commit]
  | loadGlyph => simp [execute, apply, on_bind, commit]
  | decimalDigits =>
      simp only [execute, apply]
      rw [on_bind_of_ok (on_register _ m), on_writeBlock]
      cases m.memory.writeBlock m.registers.i (digits (m.registers.get (Opcode.x w))) <;> rfl
  | saveRegisters =>
      simp only [execute, apply]
      rw [on_bind_of_ok (on_saveAll m _ (Opcode.x w).isLt), on_writeBlock, saved]
      cases m.memory.writeBlock m.registers.i
        (m.registers.v.toList.take ((Opcode.x w).val + 1)) <;> rfl
  | restoreRegisters =>
      simp only [execute, apply]
      cases read : m.memory.readBlock m.registers.i ((Opcode.x w).val + 1) with
      | error f =>
          rw [on_bind_of_error (on_readBlock_error read)]
          rfl
      | ok values =>
          have few : values.length ≤ 16 := by
            rw [Memory.length_of_readBlock (n := (Opcode.x w).val + 1) read]
            exact (Opcode.x w).isLt
          rw [on_bind_of_ok (on_readBlock_ok read)]
          exact on_restoreAll values m few

end Operation

end Chip8
