/-
# Chip8.Proofs.Matching — the opcodes that a row stands for

An opcode may be any whole number, and a row stands for those whose bits under the mask are the
pattern (`Matches`). Of a number only the lowest 16 bits are looked at, so a row accepts an opcode
exactly if the number matches (`accepts_ofInt_iff`).

A row is accepted if some number matches it at all (`create_isOk_iff`). Two accepted rows stand for
the same opcodes only if they have the same mask and the same pattern (`sameOpcodes_iff`), and some
opcode belongs to both unless their patterns differ under both masks (`overlaps_iff`).
-/
import Mathlib.Data.Int.Bitwise
import Chip8.InstructionSet

namespace Chip8

set_option autoImplicit false

namespace Opcode

/-- An opcode has the lowest 16 bits of its number. -/
theorem getLsbD_ofInt (z : Int) {i : Nat} (inside : i < 16) :
    (ofInt z).getLsbD i = z.testBit i := by
  cases z with
  | ofNat n =>
      rw [ofInt, Int.ofNat_eq_natCast, BitVec.ofInt_natCast, BitVec.getLsbD_ofNat,
        decide_eq_true inside, Bool.true_and]
      rfl
  | negSucc n =>
      rw [ofInt, BitVec.ofInt_negSucc_eq_not_ofNat, BitVec.getLsbD_not, BitVec.getLsbD_ofNat,
        decide_eq_true inside, Bool.true_and, Bool.true_and]
      rfl

/-- Every opcode is that of some number. -/
theorem ofInt_toNat (w : Opcode) : ofInt w.toNat = w := by
  rw [ofInt, BitVec.ofInt_natCast, BitVec.ofNat_toNat, BitVec.setWidth_eq]

end Opcode

namespace Instruction

def Matches (mask pattern z : Int) : Prop := z.land mask = pattern

def SameOpcodes (a b : Instruction) : Prop :=
  ∀ z : Int, a.accepts (.ofInt z) = b.accepts (.ofInt z)

def Overlaps (a b : Instruction) : Prop :=
  ∃ z : Int, a.accepts (.ofInt z) = true ∧ b.accepts (.ofInt z) = true

/-! ## Bit by bit -/

/-- The bits of a pattern lie under its mask. -/
theorem bit_inside (row : Instruction) (i : Nat) :
    row.pattern.getLsbD i = true → row.mask.getLsbD i = true := by
  intro set
  have inside := congrArg (·.getLsbD i) row.pattern_in_mask
  have few : i < 16 := BitVec.lt_of_getLsbD set
  simpa [set, few] using inside

theorem accepts_iff_bits (row : Instruction) (w : Opcode) :
    row.accepts w = true ↔
      ∀ i < 16, (w.getLsbD i && row.mask.getLsbD i) = row.pattern.getLsbD i := by
  rw [accepts, beq_iff_eq, BitVec.eq_of_getLsbD_eq_iff]
  simp only [BitVec.getLsbD_and]

/-- A row accepts its pattern with all free bits set. -/
theorem accepts_filled (row : Instruction) : row.accepts (row.pattern ||| ~~~row.mask) = true := by
  rw [accepts_iff_bits]
  intro i inside
  have bit := row.bit_inside i
  revert bit
  simp only [BitVec.getLsbD_or, BitVec.getLsbD_not, inside]
  cases row.pattern.getLsbD i <;> cases row.mask.getLsbD i <;> simp

theorem sameOpcodes_iff_words (a b : Instruction) :
    a.SameOpcodes b ↔ ∀ w : Opcode, a.accepts w = b.accepts w := by
  constructor
  · intro same w
    have := same w.toNat
    rwa [Opcode.ofInt_toNat] at this
  · exact fun same z => same (.ofInt z)

theorem overlaps_iff_words (a b : Instruction) :
    a.Overlaps b ↔ ∃ w : Opcode, a.accepts w = true ∧ b.accepts w = true := by
  constructor
  · rintro ⟨z, both⟩
    exact ⟨_, both⟩
  · rintro ⟨w, both⟩
    exact ⟨w.toNat, by rwa [Opcode.ofInt_toNat]⟩

/-! ## Numbers that match -/

/-- Under a mask of 16 bits a number is as good as its opcode. -/
theorem land_toNat (z : Int) (m : Word) :
    z.land m.toNat = ((Opcode.ofInt z &&& m).toNat : Nat) := by
  have bits (n : Nat) (same : ∀ i, n.testBit i = (z.testBit i && m.getLsbD i)) :
      (n : Int) = ((Opcode.ofInt z &&& m).toNat : Nat) := by
    congr 1
    apply Nat.eq_of_testBit_eq
    intro i
    rw [same, BitVec.testBit_toNat, BitVec.getLsbD_and]
    by_cases inside : i < 16
    · rw [Opcode.getLsbD_ofInt z inside]
    · rw [BitVec.getLsbD_of_ge m i (Nat.le_of_not_lt inside), Bool.and_false, Bool.and_false]
  cases z with
  | ofNat n => exact bits _ fun i => by rw [Nat.testBit_and]; rfl
  | negSucc n => exact bits _ fun i => by rw [Nat.testBit_ldiff, Bool.and_comm]; rfl

theorem matches_iff (m p : Word) (z : Int) :
    Matches m.toNat p.toNat z ↔ Opcode.ofInt z &&& m = p := by
  rw [Matches, land_toNat, Int.natCast_inj, BitVec.toNat_inj]

/-- A row accepts the opcode of a number if the number matches. -/
theorem accepts_ofInt_iff (row : Instruction) (z : Int) :
    row.accepts (.ofInt z) = true ↔ Matches row.mask.toNat row.pattern.toNat z := by
  rw [matches_iff, accepts, beq_iff_eq]

/-- A number of 16 bits is that of its word. -/
theorem toNat_ofInt_of_word {z : Int} (nonneg : 0 ≤ z) (small : z ≤ 0xFFFF) :
    ((BitVec.ofInt 16 z).toNat : Int) = z := by
  rw [BitVec.toNat_ofInt]
  omega

/-- A row that was accepted has the mask, the pattern and the texts that were given. -/
theorem create_eq_ok {mask pattern : Int} {mnemonic handler : String} {row : Instruction}
    (made : create mask pattern mnemonic handler = .ok row) :
    (row.mask.toNat : Int) = mask ∧ (row.pattern.toNat : Int) = pattern ∧
      row.mnemonic = mnemonic ∧ row.handler = handler := by
  unfold create at made
  split at made
  · rename_i words
    obtain ⟨maskNonneg, maskSmall, patternNonneg, patternSmall⟩ := words
    split at made
    · cases made
      exact ⟨toNat_ofInt_of_word maskNonneg maskSmall,
        toNat_ofInt_of_word patternNonneg patternSmall, rfl, rfl⟩
    · cases made
  · cases made

/-- A row of two words is accepted if some number matches it. -/
theorem create_isOk_iff {mask pattern : Int} (maskNonneg : 0 ≤ mask) (maskSmall : mask ≤ 0xFFFF)
    (patternNonneg : 0 ≤ pattern) (patternSmall : pattern ≤ 0xFFFF) (mnemonic handler : String) :
    (∃ row, create mask pattern mnemonic handler = .ok row) ↔ ∃ z, Matches mask pattern z := by
  constructor
  · rintro ⟨row, made⟩
    obtain ⟨rfl, rfl, -, -⟩ := create_eq_ok made
    refine ⟨row.pattern.toNat, (accepts_ofInt_iff row _).1 ?_⟩
    rw [Opcode.ofInt_toNat]
    exact row.accepts_pattern
  · rintro ⟨z, found⟩
    rw [← toNat_ofInt_of_word maskNonneg maskSmall,
      ← toNat_ofInt_of_word patternNonneg patternSmall, matches_iff] at found
    have inside : BitVec.ofInt 16 pattern &&& ~~~BitVec.ofInt 16 mask = 0 := by
      rw [← found, BitVec.and_assoc, BitVec.and_not_self]
      exact BitVec.and_zero
    rw [create, if_pos ⟨maskNonneg, maskSmall, patternNonneg, patternSmall⟩, dif_pos inside]
    exact ⟨_, rfl⟩

/-! ## Two rows -/

/-- Two rows with the same opcodes have the same bits: a bit that is free in one is free in the
other. -/
theorem sameOpcodes_iff (a b : Instruction) :
    a.SameOpcodes b ↔ a.mask = b.mask ∧ a.pattern = b.pattern := by
  rw [sameOpcodes_iff_words]
  constructor
  · intro same
    -- an opcode of `a` with its free bits cleared, and with its free bits set
    have low := (accepts_iff_bits b a.pattern).1 ((same _).symm.trans a.accepts_pattern)
    have low' := (accepts_iff_bits a b.pattern).1 ((same _).trans b.accepts_pattern)
    have full := (accepts_iff_bits b _).1 ((same _).symm.trans a.accepts_filled)
    have full' := (accepts_iff_bits a _).1 ((same _).trans b.accepts_filled)
    have bits (i : Nat) (inside : i < 16) :
        a.mask.getLsbD i = b.mask.getLsbD i ∧ a.pattern.getLsbD i = b.pattern.getLsbD i := by
      have := low i inside
      have := low' i inside
      have := full i inside
      have := full' i inside
      simp only [BitVec.getLsbD_or, BitVec.getLsbD_not, inside] at *
      grind
    exact ⟨BitVec.eq_of_getLsbD_eq fun i inside => (bits i inside).1,
      BitVec.eq_of_getLsbD_eq fun i inside => (bits i inside).2⟩
  · rintro ⟨mask, pattern⟩ w
    rw [accepts, accepts, mask, pattern]

/-- Two rows overlap if their patterns agree where both masks are set. -/
theorem overlaps_iff (a b : Instruction) :
    a.Overlaps b ↔ (a.pattern ^^^ b.pattern) &&& a.mask &&& b.mask = 0 := by
  rw [overlaps_iff_words, BitVec.eq_of_getLsbD_eq_iff]
  simp only [accepts_iff_bits, BitVec.getLsbD_and, BitVec.getLsbD_xor]
  constructor
  · rintro ⟨w, first, second⟩ i inside
    have := first i inside
    have := second i inside
    grind
  · intro agree
    refine ⟨a.pattern ||| b.pattern, fun i inside => ?_, fun i inside => ?_⟩
    · have := agree i inside
      have := a.bit_inside i
      have := b.bit_inside i
      grind
    · have := agree i inside
      have := a.bit_inside i
      have := b.bit_inside i
      grind

instance (a b : Instruction) : Decidable (a.Overlaps b) := decidable_of_iff' _ (overlaps_iff a b)

instance (a b : Instruction) : Decidable (a.SameOpcodes b) :=
  decidable_of_iff' _ (sameOpcodes_iff a b)

end Instruction

end Chip8
