/-
# Chip8.Proofs.Order — the order of the rows of a table

A table is tried row by row, so its order counts where two rows overlap, and nowhere else: a table
whose rows are put in another order decodes every opcode as before if overlapping rows keep their
order (`decode_arranged`). Among the standard rows only those for single opcodes, `CLS` and `RET`,
overlap with another, which is the row for all of `0nnn` (`overlaps_standard_iff`).

`decode_of_kept_order` puts this together with the test for overlapping rows.
-/
import Mathlib.Logic.Equiv.Fin.Rotate
import Chip8.Proofs.Matching

namespace Chip8

set_option autoImplicit false

/-- The first row is one of the two for a single opcode, and the second is the row for the group
that both opcodes lie in. -/
def Instruction.Excepts (a b : Instruction) : Prop :=
  (a.handler = Operation.clear.name ∨ a.handler = Operation.ret.name) ∧
    b.handler = Operation.sys.name

instance (a b : Instruction) : Decidable (a.Excepts b) :=
  inferInstanceAs (Decidable ((_ ∨ _) ∧ _))

namespace InstructionSet

/-- The table with each row at the place that it is given. -/
def arranged (table : InstructionSet) (place : Equiv.Perm (Fin table.length)) : InstructionSet :=
  List.ofFn fun k => table.get (place.symm k)

section

variable {table : InstructionSet} {place : Equiv.Perm (Fin table.length)} {w : Opcode}

/-- The same rows stand in a table that was arranged. -/
theorem mem_arranged (row : Instruction) : row ∈ table.arranged place ↔ row ∈ table := by
  rw [arranged, List.mem_ofFn, List.mem_iff_get]
  exact place.symm.exists_congr fun _ => Iff.rfl

/-- A row that decodes an opcode accepts it, and no row before it does. -/
theorem first_of_decode {row : Instruction} (decoded : table.decode w = some row) :
    row.accepts w = true ∧
      ∃ i : Fin table.length, table.get i = row ∧ ∀ j < i, (table.get j).accepts w = false := by
  obtain ⟨accepted, i, inside, found, first⟩ := List.find?_eq_some_iff_getElem.1 decoded
  exact ⟨accepted, ⟨i, inside⟩, found, fun j before => by simpa using first j before⟩

/-- A row decodes an opcode that it accepts if no row with a place before it does. -/
theorem decode_arranged_of_first {i : Fin table.length}
    (accepted : (table.get i).accepts w = true)
    (first : ∀ j, place j < place i → (table.get j).accepts w = false) :
    (table.arranged place).decode w = some (table.get i) := by
  refine List.find?_eq_some_iff_getElem.2 ⟨accepted, place i, ?_, ?_, ?_⟩
  · rw [arranged, List.length_ofFn]
    exact (place i).isLt
  · simp [arranged]
  · intro k before
    have inside : k < table.length := before.trans (place i).isLt
    have earlier : place (place.symm ⟨k, inside⟩) < place i := by
      rw [place.apply_symm_apply]
      exact before
    have refused := first _ earlier
    simp only [arranged, List.getElem_ofFn, refused, Bool.not_false]

/-- The row that decodes an opcode is still the first to accept it, for it keeps its place before
all rows that accept the opcode too. -/
theorem decode_arranged
    (kept : ∀ i j, i < j → (table.get i).Overlaps (table.get j) → place i < place j) :
    (table.arranged place).decode w = table.decode w := by
  cases decoded : table.decode w with
  | none =>
      rw [decode, List.find?_eq_none] at decoded ⊢
      exact fun row inside => decoded row ((mem_arranged row).1 inside)
  | some row =>
      obtain ⟨accepted, i, rfl, first⟩ := first_of_decode decoded
      refine decode_arranged_of_first accepted fun j earlier => ?_
      rcases lt_trichotomy i j with later | rfl | before
      · rw [← Bool.not_eq_true]
        intro also
        have overlap := (Instruction.overlaps_iff_words ..).2 ⟨w, accepted, also⟩
        exact (kept i j later overlap).not_gt earlier
      · exact absurd earlier (lt_irrefl _)
      · exact first j before

end

/-! ## The standard rows -/

/-- Two standard rows overlap if the first is excepted from the second. -/
theorem overlaps_standard_iff (i j : Fin standard.length) (before : i < j) :
    standard[i].Overlaps standard[j] ↔ standard[i].Excepts standard[j] := by
  revert i j
  decide +kernel

/-- The order of a table. Two rows have an opcode in common exactly if their patterns agree under
both masks. A table with its rows in another order decodes every opcode as before if rows with an
opcode in common keep their order. Of the standard rows only `CLS` and `RET` have opcodes in common
with another row, which is `SYS`, so any order decodes like theirs that keeps both before `SYS`. -/
theorem decode_of_kept_order :
    (∀ a b : Instruction,
      a.Overlaps b ↔ (a.pattern ^^^ b.pattern) &&& a.mask &&& b.mask = 0) ∧
    (∀ (table : InstructionSet) (place : Equiv.Perm (Fin table.length)),
      (∀ i j, i < j → table[i].Overlaps table[j] → place i < place j) →
        ∀ z : Int, (table.arranged place).decode (.ofInt z) = table.decode (.ofInt z)) ∧
    (∀ i j : Fin standard.length, i < j →
      (standard[i].Overlaps standard[j] ↔ standard[i].Excepts standard[j])) ∧
    ∀ place : Equiv.Perm (Fin standard.length),
      (∀ i j, standard[i].Excepts standard[j] → place i < place j) →
        ∀ z : Int, (standard.arranged place).decode (.ofInt z) = standard.decode (.ofInt z) := by
  refine ⟨Instruction.overlaps_iff, fun table place kept z => decode_arranged kept,
    overlaps_standard_iff, fun place kept z => decode_arranged fun i j before overlap => ?_⟩
  exact kept i j ((overlaps_standard_iff i j before).1 overlap)

/-- The standard rows one place further on, and the last row first. -/
theorem decode_of_kept_order_in_rotation :
    let place := finRotate standard.length
    (∀ i j, standard[i].Excepts standard[j] → place i < place j) ∧
      (standard.arranged place).head?.map (·.handler) = some Operation.restoreRegisters.name ∧
      ∀ z : Int, (standard.arranged place).decode (.ofInt z) = standard.decode (.ofInt z) := by
  intro place
  have kept : ∀ i j, standard[i].Excepts standard[j] → place i < place j := by decide +kernel
  obtain ⟨-, -, -, decodes⟩ := decode_of_kept_order
  exact ⟨kept, by decide +kernel, decodes place kept⟩

end InstructionSet

end Chip8
