/-
# Chip8.Proofs.Pitch — a tone of the standard pitch can be built

The wave of a tone has as many samples as its rate holds periods of its pitch, a quotient of two
binary64 numbers. Building it fails only for a quotient that is no number, that has no bound, or
that asks for more samples than there is room for. None of the three happens to the standard pitch
at a rate of 32 bits (`Tone.Standard.build_eq`): a quotient has at most 53 bits in a unit that is
small if the quotient is (`unitOf_le`), and so the quotient, and the whole number nearest to it,
are small too.
-/
import Mathlib.Algebra.Ring.Int.Defs
import Chip8.Proofs.Opening

namespace Chip8

set_option autoImplicit false

namespace Magnitude

/-- The unit of a quotient that is below `2 ^ a / 2 ^ b`. -/
theorem unitOf_le {num den a b : Nat} (some : num ≠ 0) (above : num < 2 ^ a)
    (below : 2 ^ b ≤ den) : unitOf num den ≤ max leastExponent ((a : Int) - b - 53) := by
  have length : num.log2 < a := (Nat.log2_lt some).2 above
  have divisor : b ≤ den.log2 := by
    have pos : 0 < den := Nat.lt_of_lt_of_le (Nat.two_pow_pos b) below
    exact (Nat.le_log2 (Nat.ne_of_gt pos)).2 below
  unfold unitOf
  dsimp only
  split <;> omega

/-- A quotient that is not too large is a number of at most 53 bits in its unit, or in the next. -/
theorem ofRatio_of_lt {num den a b : Nat} (above : num < 2 ^ a) (below : 2 ^ b ≤ den)
    (bounded : a ≤ b + 1023) :
    ∃ m e, ofRatio num den = .finite m e ∧ m < 2 ^ 53 ∧
      e ≤ max leastExponent ((a : Int) - b - 53) + 1 := by
  by_cases zero : num = 0
  · exact ⟨0, leastExponent, if_pos zero, by decide, by omega⟩
  have unit := unitOf_le zero above below
  have least : leastExponent = -1074 := rfl
  rw [ofRatio, if_neg zero]
  generalize unitOf num den = e at unit
  dsimp only
  generalize halfEven _ _ = m
  by_cases short : m < Nat.pow 2 53
  · simp only [if_pos short]
    refine ⟨m, e, if_neg ?_, short, ?_⟩ <;> omega
  · simp only [if_neg short]
    refine ⟨2 ^ 52, e + 1, if_neg ?_, by decide, ?_⟩ <;> omega

/-- The whole number nearest to a number of 53 bits. -/
theorem nearest_le {m e : Int} (short : m < 2 ^ 53) (unit : e ≤ -20) :
    nearest m e ≤ 2 ^ 33 + 1 := by
  have large : 2 ^ 20 ≤ Nat.pow 2 (-e).toNat := Nat.pow_le_pow_right (by decide) (by omega)
  rw [nearest, if_neg (by omega)]
  generalize Nat.pow 2 (-e).toNat = d at large
  obtain ⟨near, -⟩ := halfEven_near m d (by omega)
  by_contra more
  have product : (2 ^ 33 + 2) * (d : Int) ≤ halfEven m d * d :=
    Int.mul_le_mul_of_nonneg_right (by omega) (by omega)
  omega

end Magnitude

/-- The standard pitch as a number: 220 is `0x1B800000000000` in units of `2 ^ -45`. -/
theorem Tone.magnitude_standardFrequency :
    standardFrequency.magnitude = .ok (.finite 0x1B800000000000 (-45)) := by
  decide +kernel

/-- A host whose mixer tells rates of 32 bits, as sound cards have them. -/
def Host.ShortRates (h : Host) : Prop := ∀ rate, some rate ∈ h.mixer → rate < 2 ^ 31

/-- A rate of 32 bits is a number. -/
theorem Number.magnitude_of_lt {rate : Int} (pos : 0 < rate) (short : rate < 2 ^ 31) :
    ∃ m e, magnitude (.whole rate) = .ok (.finite m e) ∧ m < 2 ^ 53 ∧ e ≤ -21 := by
  have dividend : rate.natAbs < 2 ^ 31 := by omega
  have divisor : 2 ^ 0 ≤ 1 := by decide
  obtain ⟨m, e, made, few, unit⟩ := Magnitude.ofRatio_of_lt dividend divisor (by decide)
  refine ⟨m, e, ?_, few, unit⟩
  rw [magnitude, if_neg (by omega), made]
  rfl

namespace Tone

/-- The samples that one period of the standard pitch takes at a rate of 32 bits. -/
theorem quotient_standardFrequency {rate : Int} (pos : 0 < rate) (short : rate < 2 ^ 31) :
    ∃ m e, (Number.whole rate).quotient standardFrequency = .ok (.finite m e) ∧
      m < 2 ^ 53 ∧ e ≤ -27 := by
  obtain ⟨m, e, whole, few, unit⟩ := Number.magnitude_of_lt pos short
  have same : (Number.whole rate).quotient standardFrequency =
      .ok (Magnitude.divide (.finite m e) (.finite 0x1B800000000000 (-45))) := by
    have split : (Number.whole rate).quotient standardFrequency =
        (do return (← (Number.whole rate).magnitude).divide (← standardFrequency.magnitude)) := rfl
    rw [split, whole, magnitude_standardFrequency]
    rfl
  have dividend : m.toNat * Nat.pow 2 (e - -45).toNat < 2 ^ 77 :=
    calc m.toNat * Nat.pow 2 (e - -45).toNat
        ≤ m.toNat * 2 ^ 24 :=
          Nat.mul_le_mul_left _ (Nat.pow_le_pow_right (by decide) (by omega))
      _ < 2 ^ 77 := by omega
  have divisor : 2 ^ 52 ≤ (0x1B800000000000 : Int).toNat * Nat.pow 2 (-45 - e).toNat :=
    calc 2 ^ 52 ≤ (0x1B800000000000 : Int).toNat * 1 := by decide
      _ ≤ _ := Nat.mul_le_mul_left _ (Nat.two_pow_pos _)
  obtain ⟨m', e', made, few', unit'⟩ := Magnitude.ofRatio_of_lt dividend divisor (by decide)
  exact ⟨m', e', same.trans (congrArg Except.ok made), few', unit'⟩

/-- A tone of the standard pitch can be built. -/
theorem Standard.build_eq {h : Host} {t : Tone} (fits : t.Standard h.mixer)
    (rates : h.ShortRates) : ∃ wave, t.build = .ok wave := by
  obtain ⟨rate, told, whole⟩ := fits.rate
  have pos : 0 < max 1 rate := by omega
  have short : max 1 rate < 2 ^ 31 := Int.max_lt.2 ⟨by decide, rates rate told⟩
  obtain ⟨m, e, quotient, few, unit⟩ := quotient_standardFrequency pos short
  have period := Magnitude.nearest_le few (show e ≤ -20 by omega)
  have room : Refusal.room (waveOf (Magnitude.nearest m e)).high 8 = .ok () := by
    have half : (waveOf (Magnitude.nearest m e)).high < 2 ^ 33 := by
      simp only [waveOf]
      omega
    have limit : Refusal.indexLimit = 2 ^ 63 := rfl
    rw [Refusal.room, if_neg (by omega)]
    rfl
  refine ⟨waveOf (Magnitude.nearest m e), ?_⟩
  have samples : (t.rate.quotient t.frequency) = .ok (.finite m e) := by
    rw [whole, fits.frequency, quotient]
  simp only [build, samples, bind, Except.bind, Number.wholeBy, room]
  rfl

end Tone

end Chip8
