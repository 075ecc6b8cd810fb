/-
# Chip8.Proofs.Saving — registers that are written to memory and read back

One instruction writes the registers from `V0` through `Vx` into the cells at the index, and
another reads them from there. Done one after the other they take each other back
(`save_restore`). Writing first leaves the registers as they were, if the block does not meet the
second instruction. Reading first leaves memory as it was, wherever the block lies: what is
written are the bytes that stand there, and that is so for the code being executed, too.

Each comes from one fact: the registers restored from their own bytes are the same
(`restored_saved`), and so is memory with a block written where it was read (`pokes_peeks`).
-/
import Chip8.Machine.Run
import Chip8.Proofs.Untouched

namespace Chip8

set_option autoImplicit false

/-! ## Registers and their bytes -/

namespace Operation

theorem means_save (x : Nibble) : ofOpcode? (Opcode.fx x 0x55) = some .saveRegisters :=
  ofOpcode?_fx x (by decide)

theorem means_restore (x : Nibble) : ofOpcode? (Opcode.fx x 0x65) = some .restoreRegisters :=
  ofOpcode?_fx x (by decide)

/-- Registers that are restored from their own bytes are as they were. -/
theorem restored_saved (r : Registers) (x : Nibble) : restored r (saved r x) = r := by
  apply Registers.ext_get
  · intro k
    rw [get_restored, List.getD_eq_getElem?_getD, getElem?_saved]
    split <;> rfl
  · exact i_restored ..
  · exact pc_restored ..

/-- Registers give back the bytes from which they were restored. -/
theorem saved_restored (r : Registers) (x : Nibble) {values : List Byte}
    (length : values.length = x.val + 1) : saved (restored r values) x = values := by
  apply List.ext_getElem
  · rw [length_saved, length]
  · intro k inside inside'
    rw [length_saved] at inside
    have small : k < 16 := Nat.lt_of_lt_of_le inside x.isLt
    have below : (⟨k, small⟩ : Nibble) ≤ x := Nat.lt_succ_iff.1 inside
    have here := getElem?_saved (restored r values) x ⟨k, small⟩
    rw [if_pos below, get_restored, List.getD_eq_getElem?_getD, List.getElem?_eq_getElem inside',
      Option.getD_some] at here
    exact (List.getElem?_eq_some_iff.1 here).2

end Operation

open Operation (saved restored)

namespace Machine

variable (dialect : Dialect) (log : Log.Filter) {m : Machine} {x : Nibble}

/-! ## One instruction -/

theorem saved_jump (m : Machine) (pc : Int) (x : Nibble) :
    saved (m.jump pc).registers x = saved m.registers x := rfl

/-- The cells at the index have room for the registers from `V0` through `Vx`. -/
structure HasRoom (m : Machine) (x : Nibble) : Prop where
  nonneg : 0 ≤ m.registers.i
  fits : m.registers.i + x.val + 1 ≤ m.memory.size

/-- Registers for which there is room are written. -/
theorem step_of_save (room : m.HasRoom x) (small : m.registers.pc < 0xFFFE)
    (fetched : m.fetch = .ok (Opcode.fx x 0x55)) :
    ∃ row, (m.step { dialect, log }).outcome = .ok row ∧
      (m.step { dialect, log }).machine =
        { m with
          memory := m.memory.pokes m.registers.i.toNat (saved m.registers x)
          cycles := m.cycles + 1 }.jump (m.registers.pc + 2) := by
  obtain ⟨nonneg, -, -⟩ := (fetch_eq_ok_iff ..).1 fetched
  obtain ⟨index, fits⟩ := room
  have length := Operation.length_saved m.registers x
  have written : m.memory.writeBlock m.registers.i (saved m.registers x) =
      .ok (m.memory.pokes m.registers.i.toNat (saved m.registers x)) :=
    Memory.writeBlock_of_fits index (by omega) (by omega)
  have applied : Operation.saveRegisters.apply dialect (Opcode.fx x 0x55) m.skip =
      .ok { m.skip with
        memory := m.memory.pokes m.registers.i.toNat (saved m.registers x) } := by
    simp only [Operation.apply, Opcode.x_fx x (show 0x55 < 0x100 by decide)]
    exact congrArg (· >>= fun memory => .ok { m.skip with memory }) written
  obtain ⟨row, done, result⟩ := done_of_applied log fetched (Operation.means_save x) applied
  refine ⟨row, done, ?_⟩
  rw [result, skip_of_lt nonneg small]
  rfl

/-- Registers for which there is room are read. -/
theorem step_of_restore (room : m.HasRoom x) (small : m.registers.pc < 0xFFFE)
    (fetched : m.fetch = .ok (Opcode.fx x 0x65)) :
    ∃ row, (m.step { dialect, log }).outcome = .ok row ∧
      (m.step { dialect, log }).machine =
        { m with
          registers := restored m.registers (m.memory.peeks m.registers.i.toNat (x.val + 1))
          cycles := m.cycles + 1 }.jump (m.registers.pc + 2) := by
  obtain ⟨nonneg, -, -⟩ := (fetch_eq_ok_iff ..).1 fetched
  obtain ⟨index, fits⟩ := room
  have read : m.memory.readBlock m.registers.i (x.val + 1 : Nat) =
      .ok (m.memory.peeks m.registers.i.toNat (x.val + 1)) :=
    Memory.readBlock_of_fits index (by omega) (Nat.succ_pos _)
  have applied : Operation.restoreRegisters.apply dialect (Opcode.fx x 0x65) m.skip =
      .ok { m.skip with
        registers :=
          restored m.skip.registers (m.memory.peeks m.registers.i.toNat (x.val + 1)) } := by
    simp only [Operation.apply, Opcode.x_fx x (show 0x65 < 0x100 by decide)]
    exact congrArg
      (· >>= fun values => .ok { m.skip with registers := restored m.skip.registers values }) read
  obtain ⟨row, done, result⟩ := done_of_applied log fetched (Operation.means_restore x) applied
  refine ⟨row, done, ?_⟩
  rw [result, skip_of_lt nonneg small]
  rfl

/-! ## Two instructions -/

/-- Two opcodes stand at the program counter, one behind the other. -/
structure Holds (m : Machine) (first second : Opcode) : Prop where
  nonneg : 0 ≤ m.registers.pc
  below : m.registers.pc + 3 < m.memory.size
  first : m.memory.word m.registers.pc.toNat = first
  second : m.memory.word (m.registers.pc.toNat + 2) = second

theorem Holds.fetch {first second : Opcode} (h : m.Holds first second) :
    m.fetch = .ok first := by
  have below := h.below
  exact (fetch_eq_ok_iff ..).2 ⟨h.nonneg, by omega, h.first.symm⟩

/-- The second opcode is fetched behind the first if it still stands there. -/
theorem Holds.fetch_behind {first second : Opcode} (h : m.Holds first second) {after : Machine}
    (pc : after.registers.pc = m.registers.pc + 2) (size : after.memory.size = m.memory.size)
    (same : after.memory.word (m.registers.pc.toNat + 2) = m.memory.word (m.registers.pc.toNat + 2)) :
    after.fetch = .ok second := by
  have nonneg := h.nonneg
  have below := h.below
  have place : after.registers.pc.toNat = m.registers.pc.toNat + 2 := by omega
  rw [fetch_eq_ok_iff, place, same, h.second, size]
  exact ⟨by omega, by omega, rfl⟩

/-- Two instructions have written the registers from `V0` through `Vx` to the cells at the index,
and nothing else. -/
structure Saved (x : Nibble) (m after : Machine) : Prop where
  rest : after =
    { m with memory := after.memory, cycles := m.cycles + 2 }.jump (m.registers.pc + 4)
  size : after.memory.size = m.memory.size
  written : ∀ k ≤ x, after.memory.byte (m.registers.i.toNat + k.val) = m.registers.get k
  beside : ∀ a : Nat, ¬(m.registers.i ≤ a ∧ a ≤ m.registers.i + x.val) →
    after.memory.byte a = m.memory.byte a

/-- Two instructions have read the registers from `V0` through `Vx` from the cells at the index,
and nothing else. -/
structure Restored (x : Nibble) (m after : Machine) : Prop where
  rest : after = { m with registers := after.registers, cycles := m.cycles + 2 }
  counter : after.registers.pc = m.registers.pc + 4
  index : after.registers.i = m.registers.i
  read : ∀ k ≤ x, after.registers.get k = m.memory.byte (m.registers.i.toNat + k.val)
  others : ∀ k, x < k → after.registers.get k = m.registers.get k

/-- The machine with its registers written to memory and its program counter further on. -/
theorem saved_pokes (room : m.HasRoom x) :
    m.Saved x ({ m with
      memory := m.memory.pokes m.registers.i.toNat (saved m.registers x)
      cycles := m.cycles + 2 }.jump (m.registers.pc + 4)) := by
  obtain ⟨index, fits⟩ := room
  have length := Operation.length_saved m.registers x
  have inside : m.registers.i.toNat + (saved m.registers x).length ≤ m.memory.size := by omega
  refine ⟨rfl, Memory.size_pokes .., ?written, ?beside⟩
  case written =>
    intro k below
    have value := Operation.getElem?_saved m.registers x k
    rw [if_pos below] at value
    have place : k.val ≤ x.val := below
    change (m.memory.pokes m.registers.i.toNat (saved m.registers x)).byte _ = _
    rw [Memory.byte_pokes _ _ _ _ inside, if_pos (by omega), Nat.add_sub_cancel_left,
      List.getD_eq_getElem?_getD, value]
    rfl
  case beside =>
    intro a apart
    change (m.memory.pokes m.registers.i.toNat (saved m.registers x)).byte a = _
    rw [Memory.byte_pokes _ _ _ _ inside, if_neg (by omega)]

/-- Two instructions that are executed are a run of two. -/
theorem run_two {s : Setting} {row row' : Instruction} (done : (m.step s).outcome = .ok row)
    (done' : ((m.step s).machine.step s).outcome = .ok row') :
    (m.run s 2).failed = none ∧ (m.run s 2).machine = ((m.step s).machine.step s).machine := by
  obtain ⟨failed, machine⟩ := run_succ_of_done done 1
  obtain ⟨failed', machine'⟩ := run_succ_of_done done' 0
  exact ⟨failed.trans failed', machine.trans machine'⟩

/-- Registers that are written and then read are as they were. -/
theorem saved_run (room : m.HasRoom x) (small : m.registers.pc < 0xFFFC)
    (holds : m.Holds (Opcode.fx x 0x55) (Opcode.fx x 0x65))
    (apart : m.registers.i + x.val < m.registers.pc + 2 ∨ m.registers.pc + 3 < m.registers.i) :
    (m.run { dialect, log } 2).failed = none ∧ m.Saved x (m.run { dialect, log } 2).machine := by
  have nonneg := holds.nonneg
  have index := room.nonneg
  have fits := room.fits
  have length := Operation.length_saved m.registers x
  have inside : m.registers.i.toNat + (saved m.registers x).length ≤ m.memory.size := by omega
  let between : Machine :=
    { m with
      memory := m.memory.pokes m.registers.i.toNat (saved m.registers x)
      cycles := m.cycles + 1 }.jump (m.registers.pc + 2)
  obtain ⟨row, done, first⟩ := step_of_save dialect log room (by omega) holds.fetch
  change (m.step { dialect, log }).machine = between at first
  have size : between.memory.size = m.memory.size := Memory.size_pokes ..
  have next : between.fetch = .ok (Opcode.fx x 0x65) :=
    holds.fetch_behind rfl size (Memory.word_pokes m.memory inside (by omega))
  have pc : between.registers.pc = m.registers.pc + 2 := rfl
  have room' : between.HasRoom x := ⟨index, size ▸ fits⟩
  obtain ⟨row', done', second⟩ := step_of_restore dialect log room' (by omega) next
  have bytes : between.memory.peeks between.registers.i.toNat (x.val + 1) =
      saved between.registers x := by
    rw [← length]
    exact Memory.peeks_pokes _ _ _ inside
  rw [bytes, Operation.restored_saved, pc, Int.add_assoc] at second
  obtain ⟨failed, last⟩ := run_two done (first ▸ done')
  rw [last, first, second]
  exact ⟨failed, saved_pokes room⟩

/-- Memory from which registers are read and to which they are then written is as it was. -/
theorem restored_run (room : m.HasRoom x) (small : m.registers.pc < 0xFFFC)
    (holds : m.Holds (Opcode.fx x 0x65) (Opcode.fx x 0x55)) :
    (m.run { dialect, log } 2).failed = none ∧
      m.Restored x (m.run { dialect, log } 2).machine := by
  have nonneg := holds.nonneg
  have index := room.nonneg
  have fits := room.fits
  have bytes := Operation.saved_restored m.registers x
    (Memory.length_peeks m.memory m.registers.i.toNat (x.val + 1))
  have value := Operation.get_restored_peeks m.registers m.memory m.registers.i.toNat x
  have same := Operation.i_restored m.registers
    (m.memory.peeks m.registers.i.toNat (x.val + 1))
  obtain ⟨row, done, first⟩ := step_of_restore dialect log room (by omega) holds.fetch
  -- of the restored registers nothing else is needed
  generalize restored m.registers (m.memory.peeks m.registers.i.toNat (x.val + 1)) = r
    at bytes value same first
  let between : Machine := { m with registers := r, cycles := m.cycles + 1 }.jump (m.registers.pc + 2)
  change (m.step { dialect, log }).machine = between at first
  have next : between.fetch = .ok (Opcode.fx x 0x55) := holds.fetch_behind rfl rfl rfl
  have pc : between.registers.pc = m.registers.pc + 2 := rfl
  have still : between.registers.i = m.registers.i := same
  have room' : between.HasRoom x := ⟨still ▸ index, still ▸ fits⟩
  obtain ⟨row', done', second⟩ := step_of_save dialect log room' (by omega) next
  have memory : between.memory.pokes between.registers.i.toNat (saved between.registers x) =
      m.memory := by
    rw [saved_jump, bytes, still]
    exact Memory.pokes_peeks m.memory _ _ (by omega)
  rw [memory, pc, Int.add_assoc] at second
  obtain ⟨failed, last⟩ := run_two done (first ▸ done')
  rw [last, first, second]
  refine ⟨failed, rfl, rfl, same, fun k below => ?_, fun k above => ?_⟩
  · exact (value k).trans (if_pos below)
  · exact (value k).trans (if_neg (Fin.not_le.2 above))

/-- Saving registers and restoring them. In the standard memory, with room for the registers at the
index, two instructions that write the registers and read them back change nothing but those
cells, if the block does not meet the second instruction; and two that read them and write them
back change nothing but the registers. -/
theorem save_restore (dialect : Dialect) (log : Log.Filter) (m : Machine) (x : Nibble)
    (size : m.memory.size = 4096) (nonneg : 0 ≤ m.registers.pc) (below : m.registers.pc ≤ 4092)
    (index : 0 ≤ m.registers.i) (fits : m.registers.i + x.val + 1 ≤ 4096) :
    let word (a : Int) := m.memory.word a.toNat
    let both := m.run { dialect, log } 2
    (word m.registers.pc = Opcode.fx x 0x55 → word (m.registers.pc + 2) = Opcode.fx x 0x65 →
      m.registers.i + x.val < m.registers.pc + 2 ∨ m.registers.pc + 3 < m.registers.i →
      both.failed = none ∧ m.Saved x both.machine) ∧
    (word m.registers.pc = Opcode.fx x 0x65 → word (m.registers.pc + 2) = Opcode.fx x 0x55 →
      both.failed = none ∧ m.Restored x both.machine) := by
  intro word both
  have room : m.HasRoom x := ⟨index, by omega⟩
  have behind : (m.registers.pc + 2).toNat = m.registers.pc.toNat + 2 := by omega
  refine ⟨fun first second apart => ?save, fun first second => ?restore⟩
  case save =>
    exact saved_run dialect log room (by omega) ⟨nonneg, by omega, first, behind ▸ second⟩ apart
  case restore =>
    exact restored_run dialect log room (by omega) ⟨nonneg, by omega, first, behind ▸ second⟩

/-- Two registers are written over the first of two instructions and read back, and three are read
from the midst of two instructions and written back. -/
theorem save_restore_over_the_code :
    let code (bytes : List Byte) : Machine :=
      { standard with memory := Memory.standard.pokes 0 bytes }
    let m := ((code [0xF1, 0x55, 0xF1, 0x65]).put 0 0x12).put 1 0x34
    let m' := (code [0xF2, 0x65, 0xF2, 0x55]).point 1
    (m.memory.size = 4096 ∧ m.memory.word 0 = Opcode.fx 1 0x55 ∧
      m.memory.word 2 = Opcode.fx 1 0x65 ∧
      (m.run {} 2).failed = none ∧ m.Saved 1 (m.run {} 2).machine ∧
      (m.run {} 2).machine.memory.word 0 = 0x1234) ∧
    m'.memory.size = 4096 ∧ m'.memory.word 0 = Opcode.fx 2 0x65 ∧
      m'.memory.word 2 = Opcode.fx 2 0x55 ∧
      (m'.run {} 2).failed = none ∧ m'.Restored 2 (m'.run {} 2).machine := by
  intro code m m'
  have size (bytes : List Byte) : (code bytes).memory.size = 4096 :=
    (Memory.size_pokes ..).trans Array.size_replicate
  have save : m.memory.word 0 = Opcode.fx 1 0x55 := by decide +kernel
  have restore : m.memory.word 2 = Opcode.fx 1 0x65 := by decide +kernel
  have restore' : m'.memory.word 0 = Opcode.fx 2 0x65 := by decide +kernel
  have save' : m'.memory.word 2 = Opcode.fx 2 0x55 := by decide +kernel
  have written := (save_restore .standard .silent m 1 (size _) (by decide) (by decide) (by decide)
    (by decide)).1 save restore (.inl (by decide))
  have read := (save_restore .standard .silent m' 2 (size _) (by decide) (by decide) (by decide)
    (by decide)).2 restore' save'
  exact ⟨⟨size _, save, restore, written.1, written.2, by decide +kernel⟩, size _, restore', save',
    read⟩

end Machine

end Chip8
