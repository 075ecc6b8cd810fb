/-
# Chip8.Proofs.Blocks — which blocks memory gives and takes

A block is named by two integers, its address and its length, and memory admits it under two
comparisons only (`Memory.Admits`): it begins at a cell, and it does not end behind the last one.
That is to say that all of it lies in memory (`admits_iff`), but for two kinds of blocks. An empty
block needs a cell to begin at, so that there is none at the end of memory. And a negative length
is admitted at every cell: what is read then ends before it begins, or at a place counted from the
end of memory (`cut`).

`block_access` is the law of all reads and writes, and of sprites, whose rows are such a block.
-/
import Chip8.Proofs.Faults

namespace Chip8

set_option autoImplicit false

namespace Memory

/-- A block begins in memory and does not end behind it. -/
def Admits (m : Memory) (a n : Int) : Prop := 0 ≤ a ∧ a < m.size ∧ a + n ≤ m.size

/-- How many bytes are read of an admitted block. -/
def cut (m : Memory) (a n : Int) : Nat := (if a + n < 0 then n + m.size else n).toNat

variable {m : Memory} {a n : Int}

/-- Memory admits the blocks that lie in it, except an empty one at its end. -/
theorem admits_iff (length : 0 ≤ n) (apart : n ≠ 0 ∨ a ≠ m.size) :
    m.Admits a n ↔ 0 ≤ a ∧ a + n ≤ m.size := by
  constructor
  · rintro ⟨nonneg, -, fits⟩
    exact ⟨nonneg, fits⟩
  · rintro ⟨nonneg, fits⟩
    exact ⟨nonneg, by omega, fits⟩

/-- A length that is not negative is the number of bytes. -/
theorem cut_of_nonneg (nonneg : 0 ≤ a) (length : 0 ≤ n) : m.cut a n = n.toNat := by
  rw [cut, if_neg (by omega)]

/-- What is read of a block that passes its check. -/
theorem readBlock_eq_cut (m : Memory) (a n : Int) :
    m.readBlock a n = (m.check a n).map fun _ => m.peeks a.toNat (m.cut a n) := by
  unfold readBlock
  cases checked : m.check a n with
  | error f => rfl
  | ok _ =>
      obtain ⟨nonneg, -, -⟩ := (check_eq_ok_iff m a n).1 checked
      have length : (if a + n < 0 then a + n + m.size else a + n).toNat - a.toNat = m.cut a n := by
        unfold cut
        split <;> omega
      show Except.ok (m.peeks a.toNat _) = _
      rw [length]
      rfl

/-! ## Access after a check -/

section

variable {α : Type} (access : Unit → α)

/-- An admitted block is accessed. -/
theorem map_check_eq_ok_iff (v : α) :
    (m.check a n).map access = .ok v ↔ m.Admits a n ∧ v = access () := by
  rw [Admits, ← check_eq_ok_iff]
  cases m.check a n with
  | error f => simp [Except.map]
  | ok _ => simp [Except.map, eq_comm]

/-- There is one kind of fault for the others. -/
theorem address_of_map_check {f : Fault} (refused : (m.check a n).map access = .error f) :
    ∃ z, f = .illegalAddress z := by
  cases checked : m.check a n with
  | ok _ =>
      rw [checked] at refused
      cases refused
  | error g =>
      rw [checked] at refused
      cases refused
      rcases (check_eq_error_iff m a n f).1 checked with ⟨-, rfl⟩ | ⟨-, -, rfl⟩
      · exact ⟨a, rfl⟩
      · exact ⟨a + n, rfl⟩

end

end Memory

namespace Machine

variable {m : Machine} {w : Opcode}

/-- A sprite faults where memory refuses its rows. -/
theorem draw_fails_iff (dialect : Dialect) (log : Log.Filter) (fetched : m.fetch = .ok w)
    (draws : (Opcode.kind w).val = 0xD) :
    (∃ e, (m.step { dialect, log }).outcome = .error e) ↔
      ¬m.memory.Admits m.registers.i (Opcode.n w).val := by
  have known : Operation.ofOpcode? w = some .draw := by
    rw [Operation.ofOpcode?, draws]
    rfl
  obtain ⟨printed, row, resolved⟩ := resolve_standard_some known dialect log m.registers.pc
  have fault (f : Fault) : Operation.draw.apply dialect w m.skip = .error f ↔
      m.memory.check m.registers.i (Opcode.n w).val = .error f := by
    rw [Operation.apply_eq_error_iff]
    simp [Operation.block?, Operation.asksKey]
    rfl
  rw [step_of_resolved fetched resolved]
  cases applied : Operation.draw.apply dialect w m.skip with
  | ok after =>
      obtain ⟨rows, read, -⟩ := Operation.draw_eq_ok applied
      have inside : m.memory.Admits m.registers.i (Opcode.n w).val := by
        obtain ⟨nonneg, below, fits, -⟩ := Memory.readBlock_eq_ok read
        exact ⟨nonneg, below, fits⟩
      simp [inside]
  | error f =>
      have outside : ¬m.memory.Admits m.registers.i (Opcode.n w).val := by
        rw [Memory.Admits, ← Memory.check_eq_ok_iff, (fault f).1 applied]
        simp
      simp [outside]

/-- The law of block access. A read and a write succeed exactly on the blocks that memory admits;
then a read gives the bytes of the block and a write changes those and no others, and else the
fault is an illegal address. So a sprite in the standard memory faults beyond its last byte, and
at its end also without rows. -/
theorem block_access (m : Memory) (a n : Int) (data : List Int) (dialect : Dialect)
    (log : Log.Filter) (c : Machine) (w : Opcode) :
    (((∃ values, m.readBlock a n = .ok values) ↔ m.Admits a n) ∧
      (∀ values, m.readBlock a n = .ok values → values = m.peeks a.toNat (m.cut a n)) ∧
      (∀ f, m.readBlock a n = .error f → ∃ z, f = .illegalAddress z) ∧
      (0 ≤ a → 0 ≤ n → m.cut a n = n.toNat)) ∧
    (((∃ m', m.writeBlock a (data.map (BitVec.ofInt 8)) = .ok m') ↔ m.Admits a data.length) ∧
      (∀ m', m.writeBlock a (data.map (BitVec.ofInt 8)) = .ok m' → m'.size = m.size ∧
        ∀ b, m'.byte b =
          if a.toNat ≤ b ∧ b < a.toNat + data.length then
            (data.map (BitVec.ofInt 8)).getD (b - a.toNat) 0
          else m.byte b) ∧
      (∀ f, m.writeBlock a (data.map (BitVec.ofInt 8)) = .error f → ∃ z, f = .illegalAddress z)) ∧
    (0 ≤ n → n ≠ 0 ∨ a ≠ m.size → (m.Admits a n ↔ 0 ≤ a ∧ a + n ≤ m.size)) ∧
    (c.memory.size = 4096 → c.fetch = .ok w → (Opcode.kind w).val = 0xD →
      ((∃ e, (c.step { dialect, log }).outcome = .error e) ↔
        c.registers.i < 0 ∨ 4095 < c.registers.i ∨ 4096 < c.registers.i + (Opcode.n w).val)) := by
  refine ⟨?_, ?_, Memory.admits_iff, ?_⟩
  · simp only [Memory.readBlock_eq_cut, Memory.map_check_eq_ok_iff]
    refine ⟨by simp, ?_, ?_, Memory.cut_of_nonneg⟩
    · rintro values ⟨-, rfl⟩
      rfl
    · intro f refused
      exact Memory.address_of_map_check _ refused
  · have length : (data.map (BitVec.ofInt 8)).length = data.length := List.length_map ..
    simp only [Memory.writeBlock_eq, Memory.map_check_eq_ok_iff, length]
    refine ⟨by simp, ?_, ?_⟩
    · rintro m' ⟨⟨nonneg, -, fits⟩, rfl⟩
      refine ⟨Memory.size_pokes .., ?_⟩
      intro b
      rw [Memory.byte_pokes _ _ _ _ (by omega), length]
    · intro f refused
      exact Memory.address_of_map_check _ refused
  · intro size fetched draws
    rw [draw_fails_iff dialect log fetched draws, Memory.Admits, size]
    omega

/-- The last three of four cells, written and read, and a sprite without rows at the end of the
standard memory. -/
theorem block_access_up_to_the_end :
    let m : Memory := ⟨#[1, 2, 3, 4], by decide⟩
    let sprite := (primed 0xD0 0x00).point 4096
    m.Admits 1 3 ∧ (∃ values, m.readBlock 1 3 = .ok values) ∧ m.cut 1 3 = 3 ∧
    (∀ values, m.readBlock 1 3 = .ok values → values = m.peeks 1 (m.cut 1 3)) ∧
    (∃ m', m.writeBlock 1 [5, 6, 7] = .ok m' ∧ m'.byte 3 = 7) ∧
    sprite.memory.size = 4096 ∧ sprite.fetch = .ok 0xD000 ∧
      ∃ e, (sprite.step {}).outcome = .error e := by
  intro m sprite
  obtain ⟨⟨admitted, given, -, length⟩, ⟨accepted, changed, -⟩, within, faults⟩ :=
    block_access m 1 3 [5, 6, 7] .standard .silent sprite 0xD000
  have inside : m.Admits 1 3 := (within (by decide) (.inl (by decide))).2 ⟨by decide, by decide⟩
  have size : sprite.memory.size = 4096 := size_memory_primed _ _
  have fetched : sprite.fetch = .ok 0xD000 := fetch_primed 0xD0 0x00
  obtain ⟨m', written⟩ := accepted.2 inside
  refine ⟨inside, admitted.2 inside, length (by decide) (by decide), given, ⟨m', written, ?_⟩,
    size, fetched, ?_⟩
  · exact (changed m' written).2 3
  · exact (faults size fetched rfl).2 (.inr (.inl (by decide)))

/-- At the end of four cells there is no empty block, and at the end of the standard memory no
sprite without rows, but a block of length `-1` has three cells. -/
theorem empty_block_at_the_end :
    let m : Memory := ⟨#[1, 2, 3, 4], by decide⟩
    let sprite := (primed 0xD0 0x00).point 4096
    m.size = 4 ∧ m.readBlock 4 0 = .error (.illegalAddress 4) ∧
      m.writeBlock 4 [] = .error (.illegalAddress 4) ∧ m.readBlock 0 (-1) = .ok [1, 2, 3] ∧
      sprite.memory.size = 4096 ∧ sprite.fetch = .ok 0xD000 ∧
      sprite.registers.i + (Opcode.n 0xD000).val = 4096 ∧
      ∃ e, (sprite.step {}).outcome = .error e := by
  intro m sprite
  have size : sprite.memory.size = 4096 := size_memory_primed _ _
  have fetched : sprite.fetch = .ok 0xD000 := fetch_primed 0xD0 0x00
  refine ⟨rfl, rfl, rfl, rfl, size, fetched, rfl, ?_⟩
  rw [draw_fails_iff .standard .silent fetched rfl]
  rintro ⟨-, below, -⟩
  rw [size] at below
  exact absurd below (by decide)

end Machine

end Chip8
