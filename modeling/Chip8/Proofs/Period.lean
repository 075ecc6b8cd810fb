/-
# Chip8.Proofs.Period — the generator runs through all states

From every state but zero the generator comes to all others before it repeats itself: the period
is `2 ^ 32 - 1` (`minimalPeriod_next`). That is proved without running it. After so many steps
every state is back (`iterate_next_period`), and for every prime that divides the period, no state
but zero is back after the period divided by the prime (`eq_zero_of_short`). Both are a few
products of polynomials in the step.

`full_period` says what this means for a generator that gives bytes, and for its seeds.
-/
import Mathlib.Dynamics.PeriodicPts.Defs
import Mathlib.Data.Nat.Prime.Basic
import Mathlib.Order.Interval.Finset.Nat
import Mathlib.Tactic.NormNum.Prime
import Chip8.Proofs.Polynomials

namespace Chip8.Generator

set_option autoImplicit false

open Function

/-! ## The period of a step -/

/-- Every number of steps below `2 ^ 32` is a power of `x`. -/
theorem iterate_next_eq {n : Nat} (digits : n < 2 ^ 32) (s : BitVec 32) :
    next^[n] s = act (power 2 32 n) s := by
  have step : act 2 = next := funext act_two
  rw [act_power 2 digits, step]

/-- The powers of `x` repeat after `2 ^ 32 - 1`. -/
theorem power_period : power 2 32 (2 ^ 32 - 1) = 1 := by decide +kernel

theorem iterate_next_period (s : BitVec 32) : next^[2 ^ 32 - 1] s = s := by
  rw [iterate_next_eq (by decide), power_period, act_one]

/-- The prime divisors of the period. -/
theorem mem_of_prime {p : Nat} (prime : p.Prime) (divides : p ∣ 2 ^ 32 - 1) :
    p ∈ [3, 5, 17, 257, 65537] := by
  have factors : 2 ^ 32 - 1 = 3 * 5 * 17 * 257 * 65537 := by decide
  rw [factors] at divides
  have same {q : Nat} (prime' : q.Prime) (divides : p ∣ q) : p = q :=
    (Nat.prime_dvd_prime_iff_eq prime prime').1 divides
  simp only [prime.dvd_mul] at divides
  rcases divides with (((divides | divides) | divides) | divides) | divides
  · simp [same (by norm_num) divides]
  · simp [same (by norm_num) divides]
  · simp [same (by norm_num) divides]
  · simp [same (by norm_num) divides]
  · simp [same (by norm_num) divides]

/-- A shorter power of `x` less `1` has an inverse. -/
theorem power_short : ∀ p ∈ [3, 5, 17, 257, 65537],
    power (power 2 32 ((2 ^ 32 - 1) / p) ^^^ 1) 32 (2 ^ 32 - 1) = 1 := by decide +kernel

/-- So no state but zero is back after such a number of steps. -/
theorem eq_zero_of_short {p : Nat} (divisor : p ∈ [3, 5, 17, 257, 65537]) {s : BitVec 32}
    (back : next^[(2 ^ 32 - 1) / p] s = s) : s = 0 := by
  have digits : (2 ^ 32 - 1) / p < 2 ^ 32 :=
    Nat.lt_of_le_of_lt (Nat.div_le_self _ _) (by decide)
  let shorter := power 2 32 ((2 ^ 32 - 1) / p) ^^^ 1
  have killed : act shorter s = 0 := by
    rw [act_xor, ← iterate_next_eq digits, back, act_one]
    exact BitVec.xor_self
  -- The inverse of `shorter` is a power of `shorter` itself, one exponent lower.
  have stays : (act shorter)^[2 ^ 32 - 1] s = 0 := by
    rw [show 2 ^ 32 - 1 = (2 ^ 32 - 2) + 1 by decide, iterate_succ_apply, killed]
    exact ((linear_act shorter).iterate _).map_zero
  rwa [← act_power shorter (by decide : 2 ^ 32 - 1 < 2 ^ 32), power_short p divisor, act_one]
    at stays

/-- A period is minimal if no quotient of it by a prime is a period. -/
theorem minimalPeriod_eq_of_primes {α : Type} {f : α → α} {x : α} {n : Nat}
    (back : IsPeriodicPt f n x)
    (short : ∀ p : Nat, p.Prime → p ∣ n → ¬IsPeriodicPt f (n / p) x) : minimalPeriod f x = n := by
  obtain ⟨rest, factors⟩ := back.minimalPeriod_dvd
  by_contra other
  have composite : rest ≠ 1 := by
    rintro rfl
    exact other (by omega)
  obtain ⟨p, prime, rest', rfl⟩ := Nat.exists_prime_and_dvd composite
  refine short p prime ⟨minimalPeriod f x * rest', by rw [factors]; exact Nat.mul_left_comm ..⟩ ?_
  have quotient : n / p = minimalPeriod f x * rest' := by
    rw [factors, Nat.mul_left_comm, Nat.mul_div_cancel_left _ prime.pos]
  rw [quotient]
  exact (isPeriodicPt_minimalPeriod f x).mul_const rest'

/-- The period of a step. -/
theorem minimalPeriod_next {s : BitVec 32} (nonzero : s ≠ 0) :
    minimalPeriod next s = 2 ^ 32 - 1 := by
  refine minimalPeriod_eq_of_primes (iterate_next_period s) ?_
  intro p prime divides back
  exact nonzero (eq_zero_of_short (mem_of_prime prime divides) back)

/-! ## The states on the way -/

/-- The step before. -/
theorem next_iterate_next (s : BitVec 32) : next (next^[2 ^ 32 - 2] s) = s := by
  rw [← iterate_succ_apply' next (2 ^ 32 - 2) s]
  exact iterate_next_period s

theorem bijective_next : Bijective next := by
  refine ⟨?_, fun s => ⟨_, next_iterate_next s⟩⟩
  intro s t same
  have back (s : BitVec 32) : next^[2 ^ 32 - 2] (next s) = s := by
    rw [← iterate_succ_apply next (2 ^ 32 - 2) s]
    exact iterate_next_period s
  rw [← back s, same, back t]

theorem iterate_next_ne_zero {s : BitVec 32} (nonzero : s ≠ 0) (n : Nat) : next^[n] s ≠ 0 := by
  intro zero
  rw [← linear_next.iterate n |>.map_zero] at zero
  exact nonzero ((bijective_next.1.iterate n) zero)

/-- No two states within a period are the same, and there are as many states as steps, so every
state but zero is among them. -/
theorem existsUnique_iterate_next {s t : BitVec 32} (nonzero : s ≠ 0) (target : t ≠ 0) :
    ∃! n, n < 2 ^ 32 - 1 ∧ next^[n] s = t := by
  have distinct {m n : Nat} (below : m < 2 ^ 32 - 1) (below' : n < 2 ^ 32 - 1)
      (same : next^[m] s = next^[n] s) : m = n := by
    rw [← minimalPeriod_next nonzero] at below below'
    exact (iterate_eq_iterate_iff_of_lt_minimalPeriod below below').1 same
  have visits : Set.SurjOn (fun n => (next^[n] s).toNat) (Finset.range (2 ^ 32 - 1))
      (Finset.Ico 1 (2 ^ 32)) := by
    apply Finset.surjOn_of_injOn_of_card_le
    · intro n _
      have other := iterate_next_ne_zero nonzero n
      simp only [Finset.coe_Ico, Set.mem_Ico]
      exact ⟨Nat.pos_of_ne_zero fun zero => other (BitVec.eq_of_toNat_eq zero),
        (next^[n] s).isLt⟩
    · intro m below n below' same
      simp only [Finset.coe_range, Set.mem_Iio] at below below'
      exact distinct below below' (BitVec.eq_of_toNat_eq same)
    · rw [Nat.card_Ico, Finset.card_range]
  have inside : t.toNat ∈ (Finset.Ico 1 (2 ^ 32) : Set Nat) := by
    simp only [Finset.coe_Ico, Set.mem_Ico]
    exact ⟨Nat.pos_of_ne_zero fun zero => target (BitVec.eq_of_toNat_eq zero), t.isLt⟩
  obtain ⟨n, below, reached⟩ := visits inside
  simp only [Finset.coe_range, Set.mem_Iio] at below
  have reached : next^[n] s = t := BitVec.eq_of_toNat_eq reached
  refine ⟨n, ⟨below, reached⟩, ?_⟩
  rintro m ⟨below', reached'⟩
  exact distinct below' below (reached'.trans reached.symm)

/-! ## Bytes -/

/-- A byte takes one step. -/
theorem state_bytes (g : Generator) (n : Nat) : (g.bytes n).2.state = next^[n] g.state := by
  induction n generalizing g with
  | zero => rfl
  | succ n ih => exact ih g.byte.2

theorem bytes_eq_iff (g h : Generator) (n : Nat) :
    (g.bytes n).2 = h ↔ next^[n] g.state = h.state := by
  rw [← state_bytes]
  cases (g.bytes n).2
  cases h
  simp

/-- What the generator gives is the low byte of the state after each step. -/
theorem mem_bytes_iff (g : Generator) (n : Nat) (b : Byte) :
    b ∈ (g.bytes n).1 ↔ ∃ k < n, (next^[k + 1] g.state).setWidth 8 = b := by
  induction n generalizing g with
  | zero => simp [bytes]
  | succ n ih =>
      show b ∈ g.byte.1 :: (g.byte.2.bytes n).1 ↔ _
      rw [List.mem_cons, ih]
      constructor
      · rintro (rfl | ⟨k, below, rfl⟩)
        · exact ⟨0, by omega, rfl⟩
        · exact ⟨k + 1, by omega, rfl⟩
      · rintro ⟨k, below, rfl⟩
        cases k with
        | zero => exact .inl rfl
        | succ k => exact .inr ⟨k, by omega, rfl⟩

/-- Of a seed the state keeps what is left modulo `2 ^ 32`. -/
theorem ofSeed_eq_iff (a b : Int) : ofSeed a = ofSeed b ↔ a % 2 ^ 32 = b % 2 ^ 32 := by
  have value (seed : Int) : ((BitVec.ofInt 32 seed).toNat : Int) = seed % 2 ^ 32 := by
    rw [BitVec.toNat_ofInt]
    exact Int.toNat_of_nonneg (Int.emod_nonneg seed (by decide))
  rw [← value a, ← value b, ofSeed, ofSeed, Generator.mk.injEq, ← BitVec.toNat_inj]
  exact Int.ofNat_inj.symm

theorem state_ofSeed_eq_zero_iff (seed : Int) : (ofSeed seed).state = 0 ↔ 2 ^ 32 ∣ seed := by
  have zero : ofSeed seed = ofSeed 0 ↔ (ofSeed seed).state = 0 := by
    rw [ofSeed, ofSeed, Generator.mk.injEq]
    rfl
  rw [← zero, ofSeed_eq_iff, Int.zero_emod, Int.dvd_iff_emod_eq_zero]

/-- A generator that gives nothing but zeros stays at zero. -/
theorem bytes_eq_zero_iff (g : Generator) :
    (∀ n, ∀ b ∈ (g.bytes n).1, b = 0) ↔ g.state = 0 := by
  constructor
  · intro silent
    by_contra nonzero
    -- The byte after the state `1` is not zero.
    have one : (1 : BitVec 32) ≠ 0 := by decide
    obtain ⟨n, ⟨-, reached⟩, -⟩ := existsUnique_iterate_next nonzero one
    have given := silent (n + 1) _ ((mem_bytes_iff g (n + 1) _).2 ⟨n, by omega, rfl⟩)
    rw [iterate_succ_apply', reached] at given
    revert given
    decide
  · intro zero n b given
    obtain ⟨k, -, rfl⟩ := (mem_bytes_iff g n b).1 given
    rw [zero, (linear_next.iterate (k + 1)).map_zero]
    rfl

/-- The generator goes through all states but zero, each once, before it comes back, and it can
be run backwards. Of a seed it keeps what is left modulo `2 ^ 32`, and it gives nothing but zeros
only if that is zero. -/
theorem full_period :
    Bijective (fun g : Generator => g.byte.2) ∧
    (∀ g : Generator, g.state ≠ 0 →
      (g.bytes (2 ^ 32 - 1)).2 = g ∧
      (∀ n, 0 < n → n < 2 ^ 32 - 1 → (g.bytes n).2 ≠ g) ∧
      (∀ h : Generator, h.state ≠ 0 → ∃! n, n < 2 ^ 32 - 1 ∧ (g.bytes n).2 = h) ∧
      ∀ n, (g.bytes n).2.state ≠ 0) ∧
    (∀ a b : Int, a % 2 ^ 32 = b % 2 ^ 32 →
      ∀ n, ((ofSeed a).bytes n).1 = ((ofSeed b).bytes n).1) ∧
    ∀ seed : Int, (∀ n, ∀ b ∈ ((ofSeed seed).bytes n).1, b = 0) ↔ 2 ^ 32 ∣ seed := by
  refine ⟨⟨?_, ?_⟩, ?_, ?_, ?_⟩
  · rintro ⟨s⟩ ⟨t⟩ same
    exact congrArg mk (bijective_next.1 (congrArg state same))
  · rintro ⟨t⟩
    obtain ⟨s, rfl⟩ := bijective_next.2 t
    exact ⟨⟨s⟩, rfl⟩
  · intro g nonzero
    refine ⟨?_, ?_, ?_, ?_⟩
    · rw [bytes_eq_iff]
      exact iterate_next_period g.state
    · intro n pos short back
      rw [← minimalPeriod_next nonzero] at short
      exact not_isPeriodicPt_of_pos_of_lt_minimalPeriod pos.ne' short ((bytes_eq_iff g g n).1 back)
    · intro h nonzero'
      simp only [bytes_eq_iff]
      exact existsUnique_iterate_next nonzero nonzero'
    · intro n
      rw [state_bytes]
      exact iterate_next_ne_zero nonzero n
  · intro a b same n
    rw [(ofSeed_eq_iff a b).2 same]
  · intro seed
    rw [bytes_eq_zero_iff, state_ofSeed_eq_zero_iff]

/-- The standard generator is back after `2 ^ 32 - 1` bytes and not a byte earlier, and a seed
that is too large by `2 ^ 32` gives the same bytes. -/
theorem full_period_standard :
    standard.state ≠ 0 ∧ (standard.bytes (2 ^ 32 - 1)).2 = standard ∧
    (standard.bytes (2 ^ 32 - 2)).2 ≠ standard ∧
    (∃! n, n < 2 ^ 32 - 1 ∧ (standard.bytes n).2 = ofSeed 1) ∧
    (standardSeed + 2 ^ 32) % 2 ^ 32 = standardSeed % 2 ^ 32 ∧
    ((ofSeed (standardSeed + 2 ^ 32)).bytes 8).1 = ((ofSeed standardSeed).bytes 8).1 := by
  have nonzero : standard.state ≠ 0 := by decide
  have seeds : (standardSeed + 2 ^ 32) % 2 ^ 32 = standardSeed % 2 ^ 32 := by decide
  obtain ⟨-, periods, streams, -⟩ := full_period
  obtain ⟨back, short, visits, -⟩ := periods standard nonzero
  exact ⟨nonzero, back, short _ (by decide) (by decide), visits (ofSeed 1) (by decide), seeds,
    streams _ _ seeds 8⟩

end Chip8.Generator
