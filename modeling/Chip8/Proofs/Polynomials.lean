/-
# Chip8.Proofs.Polynomials — polynomials in a step of the generator

A step of the generator is linear, so its powers can be added and multiplied like the powers
of an unknown `x` over the field of two elements. Here a word stands for such a polynomial: bit
`k` is the coefficient of `x ^ k`, addition is `^^^`, and a product is reduced by the
characteristic polynomial of the step, whose part below `x ^ 32` is `residue`.

`act p s` is what the polynomial `p` in the step makes of the state `s`. The statements say that
it is a polynomial in the step indeed:

* `act_timesX`: times `x` is one step more;
* `act_product`: the product of two polynomials is one after the other;
* `act_power`: so a power, which takes a few products, is that many times the polynomial.

All sums are `weighted` sums of iterates, and linear functions are compared on the words with a
single bit (`Linear.eq_of_units`).
-/
import Mathlib.Logic.Function.Iterate
import Mathlib.Algebra.Group.Nat.Defs
import Chip8.Generator

namespace Chip8.Generator

set_option autoImplicit false

/-! ## Linear functions -/

/-- A function that respects addition without carry. -/
def Linear (f : BitVec 32 → BitVec 32) : Prop := ∀ a b, f (a ^^^ b) = f a ^^^ f b

theorem Linear.map_zero {f : BitVec 32 → BitVec 32} (linear : Linear f) : f 0 = 0 := by
  have twice := linear 0 0
  simpa using twice

theorem linear_next : Linear next := next_xor

theorem Linear.iterate {f : BitVec 32 → BitVec 32} (linear : Linear f) (n : Nat) :
    Linear f^[n] := by
  induction n with
  | zero => intro a b; rfl
  | succ n ih =>
      intro a b
      simp only [Function.iterate_succ_apply', ih a b, linear (f^[n] a) (f^[n] b)]

/-! ## Weighted sums of iterates -/

/-- Of the `k` words `s`, `f s`, `f (f s)` and so on, the sum of those for which `p` has a bit. -/
def weighted (f : BitVec 32 → BitVec 32) : Nat → BitVec 32 → BitVec 32 → BitVec 32
  | 0, _, _ => 0
  | k + 1, p, s => (if p.getLsbD 0 then s else 0) ^^^ weighted f k (p >>> 1) (f s)

variable {f g φ ψ : BitVec 32 → BitVec 32}

/-- The sum is linear in the weights. -/
theorem weighted_xor (f : BitVec 32 → BitVec 32) (k : Nat) (p q s : BitVec 32) :
    weighted f k (p ^^^ q) s = weighted f k p s ^^^ weighted f k q s := by
  induction k generalizing p q s with
  | zero => simp [weighted]
  | succ k ih =>
      have weight : (if (p ^^^ q).getLsbD 0 then s else 0) =
          (if p.getLsbD 0 then s else 0) ^^^ if q.getLsbD 0 then s else 0 := by
        rw [BitVec.getLsbD_xor]
        cases p.getLsbD 0 <;> cases q.getLsbD 0 <;> simp
      rw [weighted, weighted, weighted, weight, BitVec.ushiftRight_xor_distrib, ih]
      ac_rfl

/-- A linear function goes into the sum, past functions that it exchanges. -/
theorem Linear.map_weighted (linear : Linear φ) (exchange : ∀ a, φ (f a) = g (φ a)) (k : Nat)
    (p s : BitVec 32) : φ (weighted f k p s) = weighted g k p (φ s) := by
  induction k generalizing p s with
  | zero => exact linear.map_zero
  | succ k ih =>
      rw [weighted, weighted, linear, ih, exchange]
      congr 1
      split
      · rfl
      · exact linear.map_zero

/-- The sum is linear in the word, too. -/
theorem linear_weighted (linear : Linear f) (k : Nat) (p : BitVec 32) :
    Linear (weighted f k p) := by
  induction k generalizing p with
  | zero => simp [Linear, weighted]
  | succ k ih =>
      intro a b
      have weight : (if p.getLsbD 0 then a ^^^ b else 0) =
          (if p.getLsbD 0 then a else 0) ^^^ if p.getLsbD 0 then b else 0 := by
        split <;> simp
      rw [weighted, weighted, weighted, weight, linear a b, ih (p >>> 1) (f a) (f b)]
      ac_rfl

theorem weighted_zero (f : BitVec 32 → BitVec 32) (k : Nat) (s : BitVec 32) :
    weighted f k 0 s = 0 := by
  induction k generalizing s with
  | zero => rfl
  | succ k ih => simpa [weighted] using ih (f s)

/-- One weight picks one iterate. -/
theorem weighted_twoPow (f : BitVec 32 → BitVec 32) {i k : Nat} (inside : i < k) (few : k ≤ 32)
    (s : BitVec 32) : weighted f k (BitVec.twoPow 32 i) s = f^[i] s := by
  induction k generalizing i s with
  | zero => omega
  | succ k ih =>
      cases i with
      | zero =>
          have rest : BitVec.twoPow 32 0 >>> 1 = 0 := by decide
          rw [weighted, rest, weighted_zero]
          simp
      | succ i =>
          have low : (BitVec.twoPow 32 (i + 1)).getLsbD 0 = false := by simp
          have rest : BitVec.twoPow 32 (i + 1) >>> 1 = BitVec.twoPow 32 i := by
            apply BitVec.eq_of_getLsbD_eq
            intro j _
            simp only [BitVec.getLsbD_ushiftRight, BitVec.getLsbD_twoPow]
            simp [show i + 1 < 32 by omega, show i < 32 by omega, Nat.add_comm 1 j]
          rw [weighted, low, rest, ih (by omega) (by omega)]
          simp

/-! ## Words with a single bit -/

def low (k : Nat) (p : BitVec 32) : BitVec 32 := (p.setWidth k).setWidth 32

theorem getLsbD_low (k : Nat) (p : BitVec 32) {j : Nat} (inside : j < 32) :
    (low k p).getLsbD j = (decide (j < k) && p.getLsbD j) := by
  simp [low, BitVec.getLsbD_setWidth, inside]

theorem low_all (p : BitVec 32) : low 32 p = p := by
  simp [low]

/-- One bit more. -/
theorem low_succ (k : Nat) (p : BitVec 32) :
    low (k + 1) p = low k p ^^^ if p.getLsbD k then BitVec.twoPow 32 k else 0 := by
  apply BitVec.eq_of_getLsbD_eq
  intro j inside
  rw [BitVec.getLsbD_xor, getLsbD_low _ _ inside, getLsbD_low _ _ inside]
  rcases Nat.lt_trichotomy j k with before | rfl | after
  · have other : k ≠ j := by omega
    split <;> simp [before, other, Nat.lt_succ_of_lt before]
  · split <;> simp_all
  · have other : k ≠ j := by omega
    split <;> simp [other, show ¬j < k + 1 by omega, show ¬j < k by omega]

/-- Linear functions are equal if they agree on the words with a single bit. -/
theorem Linear.eq_of_units (left : Linear φ) (right : Linear ψ)
    (units : ∀ i < 32, φ (BitVec.twoPow 32 i) = ψ (BitVec.twoPow 32 i)) (p : BitVec 32) :
    φ p = ψ p := by
  have agree (k : Nat) (few : k ≤ 32) : φ (low k p) = ψ (low k p) := by
    induction k with
    | zero =>
        have none : low 0 p = 0 := by
          rw [low, BitVec.eq_nil (p.setWidth 0)]
          rfl
        rw [none, left.map_zero, right.map_zero]
    | succ k ih =>
        rw [low_succ, left, right, ih (by omega)]
        congr 1
        split
        · exact units k (by omega)
        · rw [left.map_zero, right.map_zero]
  have whole := agree 32 (Nat.le_refl 32)
  rwa [low_all] at whole

/-! ## Polynomials -/

/-- The part below `x ^ 32` of the characteristic polynomial of a step. -/
def residue : BitVec 32 := 0x3EC241

def timesX (p : BitVec 32) : BitVec 32 := p <<< 1 ^^^ if p.msb then residue else 0

def product (p q : BitVec 32) : BitVec 32 := weighted timesX 32 p q

/-- The power of a polynomial with an exponent of `k` binary digits. -/
def power (q : BitVec 32) : (k n : Nat) → BitVec 32
  | 0, _ => 1
  | k + 1, n =>
      let half := power q k (n / 2)
      if n % 2 = 1 then product q (product half half) else product half half

/-- What a polynomial in the step makes of a state. -/
def act (p s : BitVec 32) : BitVec 32 := weighted next 32 p s

theorem act_xor (p q s : BitVec 32) : act (p ^^^ q) s = act p s ^^^ act q s :=
  weighted_xor next 32 p q s

theorem linear_act (p : BitVec 32) : Linear (act p) := linear_weighted linear_next 32 p

theorem act_twoPow {i : Nat} (inside : i < 32) (s : BitVec 32) :
    act (BitVec.twoPow 32 i) s = next^[i] s :=
  weighted_twoPow next inside (Nat.le_refl 32) s

/-- The polynomial `1` changes nothing. -/
theorem act_one (s : BitVec 32) : act 1 s = s := by
  have unit : (1 : BitVec 32) = BitVec.twoPow 32 0 := by decide
  rw [unit, act_twoPow (by decide), Function.iterate_zero, id]

/-- The polynomial `x` is a step. -/
theorem act_two (s : BitVec 32) : act 2 s = next s := by
  have unit : (2 : BitVec 32) = BitVec.twoPow 32 1 := by decide
  rw [unit, act_twoPow (by decide), Function.iterate_one]

/-- A step is a root of its characteristic polynomial. -/
theorem act_residue (s : BitVec 32) : act residue s = next^[32] s := by
  have units : ∀ i < 32, act residue (BitVec.twoPow 32 i) = next^[32] (BitVec.twoPow 32 i) := by
    decide +kernel
  exact (linear_act residue).eq_of_units (linear_next.iterate 32) units s

theorem linear_timesX : Linear timesX := by
  intro p q
  have weight : (if (p ^^^ q).msb then residue else 0) =
      (if p.msb then residue else 0) ^^^ if q.msb then residue else 0 := by
    rw [BitVec.msb_xor]
    cases p.msb <;> cases q.msb <;> simp
  rw [timesX, timesX, timesX, weight, BitVec.shiftLeft_xor_distrib]
  ac_rfl

/-- Times `x` is one step more. -/
theorem act_timesX (p s : BitVec 32) : act (timesX p) s = next (act p s) := by
  have left : Linear fun p => act (timesX p) s := by
    intro p q
    simp only [linear_timesX p q, act_xor]
  have right : Linear fun p => next (act p s) := by
    intro p q
    simp only [act_xor, next_xor]
  refine left.eq_of_units right ?_ p
  intro i inside
  rw [act_twoPow inside, ← Function.iterate_succ_apply' next i s]
  by_cases top : i = 31
  · subst top
    exact act_residue s
  · have up : ∀ i < 31, timesX (BitVec.twoPow 32 i) = BitVec.twoPow 32 (i + 1) := by decide
    rw [up i (by omega), act_twoPow (by omega)]

/-- The product of two polynomials is one after the other. -/
theorem act_product (p q s : BitVec 32) : act (product p q) s = act p (act q s) := by
  have linear : Linear fun q => act q s := fun p q => act_xor p q s
  exact linear.map_weighted (fun q => act_timesX q s) 32 p q

/-- A power of a polynomial is the polynomial that many times. -/
theorem act_power (q : BitVec 32) {k n : Nat} (digits : n < 2 ^ k) (s : BitVec 32) :
    act (power q k n) s = (act q)^[n] s := by
  induction k generalizing n s with
  | zero =>
      obtain rfl : n = 0 := by simpa using digits
      exact act_one s
  | succ k ih =>
      have half : n / 2 < 2 ^ k := by
        rw [Nat.pow_succ] at digits
        omega
      have twice (s : BitVec 32) :
          act (product (power q k (n / 2)) (power q k (n / 2))) s = (act q)^[n / 2 + n / 2] s := by
        rw [act_product, ih half, ih half, ← Function.iterate_add_apply]
      rw [power]
      split
      · rename_i odd
        have count : n = n / 2 + n / 2 + 1 := by omega
        rw [act_product, twice, ← Function.iterate_succ_apply' (act q), Nat.succ_eq_add_one,
          ← count]
      · have count : n = n / 2 + n / 2 := by omega
        rw [twice, ← count]

end Chip8.Generator
