/-
# Chip8.Binary64 — whole numbers times powers of two

A finite binary64 number is a mantissa of at most 53 bits times a power of two
whose exponent is at least -1074. `truncate` cuts its fraction off; `nearest`
takes the nearest whole number. The other way, `ofRatio` takes the binary64 number
nearest to a quotient, or infinity where that would be `2 ^ 1024` or more.

All rounding is `halfEven`: the nearest whole number, and the even one of two that
are equally near. It is never more than half a unit off (`halfEven_near`).
-/
namespace Chip8

set_option autoImplicit false

/-- The nearest whole number to `m / d`, ties to even. -/
def halfEven (m : Int) (d : Nat) : Int :=
  let whole := m / d
  let twice := 2 * (m % d)
  if twice < d then whole
  else if d < twice then whole + 1
  else if whole % 2 = 0 then whole else whole + 1

theorem halfEven_near (m : Int) (d : Nat) (pos : 0 < d) :
    -(d : Int) ≤ 2 * (m - halfEven m d * d) ∧ 2 * (m - halfEven m d * d) ≤ d := by
  have split := Int.emod_add_mul_ediv m d
  have low := Int.emod_nonneg m (b := d) (by omega)
  have high := Int.emod_lt_of_pos m (b := d) (by omega)
  rw [Int.mul_comm] at split
  have next : (m / d + 1) * d = m / d * d + d := by rw [Int.add_mul, Int.one_mul]
  unfold halfEven
  dsimp only
  split
  · omega
  · split
    · omega
    · split <;> omega

inductive Magnitude where
  /-- The number `mantissa * 2 ^ exponent`. -/
  | finite (mantissa exponent : Int)
  | infinite (negative : Bool)
  | undefined
  deriving DecidableEq, Repr

namespace Magnitude

def leastExponent : Int := -1074

def ofBits (bits : UInt64) : Magnitude :=
  let n := bits.toNat
  let fraction : Nat := n % Nat.pow 2 52
  let exponent : Nat := n / Nat.pow 2 52 % 2048
  let negative := n / Nat.pow 2 63 != 0
  let signed (m : Nat) : Int := if negative then -m else m
  if exponent = 2047 then (if fraction = 0 then .infinite negative else .undefined)
  else if exponent = 0 then .finite (signed fraction) leastExponent
  else .finite (signed (Nat.pow 2 52 + fraction)) ((exponent : Int) - 1075)

/-! ## To whole numbers -/

def truncate (m e : Int) : Int :=
  if 0 ≤ e then m * Nat.pow 2 e.toNat else m.tdiv (Nat.pow 2 (-e).toNat)

def nearest (m e : Int) : Int :=
  if 0 ≤ e then m * Nat.pow 2 e.toNat else halfEven m (Nat.pow 2 (-e).toNat)

/-! ## From quotients -/

/-- The quotient `num / den` in units of `2 ^ e`, as numerator and denominator. -/
def inUnits (num den : Nat) (e : Int) : Nat × Nat :=
  (num * Nat.pow 2 (-e).toNat, den * Nat.pow 2 e.toNat)

/-- The exponent with which a quotient has 53 bits, or the least one. -/
def unitOf (num den : Nat) : Int :=
  let low : Int := (num.log2 : Int) - den.log2 - 53
  let scaled := inUnits num den low
  max leastExponent (if scaled.1 < Nat.pow 2 53 * scaled.2 then low else low + 1)

/-- The nearest number to `num / den`, with at most 53 bits. -/
def ofRatio (num den : Nat) : Magnitude :=
  if num = 0 then .finite 0 leastExponent
  else
    let e := unitOf num den
    let scaled := inUnits num den e
    let m := halfEven scaled.1 scaled.2
    let (m, e) := if m < Nat.pow 2 53 then (m, e) else (Nat.pow 2 52, e + 1)
    if 971 < e then .infinite false else .finite m e

/-- The nearest number to `digits * 10 ^ exponent`. Numerals far out of range are not multiplied
out. -/
def ofDecimal (digits : Nat) (exponent : Int) : Magnitude :=
  let size := exponent + (Nat.toDigits 10 digits).length
  if digits = 0 ∨ size < -330 then .finite 0 leastExponent
  else if 310 < size then .infinite false
  else ofRatio (digits * Nat.pow 10 exponent.toNat) (Nat.pow 10 (-exponent).toNat)

/-- The quotient of two numbers that are not negative, the divisor not zero. -/
def divide : Magnitude → Magnitude → Magnitude
  | .finite m e, .finite m' e' =>
      ofRatio (m.toNat * Nat.pow 2 (e - e').toNat) (m'.toNat * Nat.pow 2 (e' - e).toNat)
  | .infinite _, .finite _ _ => .infinite false
  | .finite _ _, .infinite _ => .finite 0 leastExponent
  | _, _ => .undefined

def negate : Magnitude → Magnitude
  | .finite m e => .finite (-m) e
  | .infinite negative => .infinite !negative
  | .undefined => .undefined

/-- The bits of a number that `ofRatio` made, with the sign given apart. -/
def bits (negative : Bool) (x : Magnitude) : UInt64 :=
  let body := match x with
    | .finite m e => (e - leastExponent).toNat * Nat.pow 2 52 + m.toNat
    | .infinite _ => 2047 * Nat.pow 2 52
    | .undefined => 2047 * Nat.pow 2 52 + Nat.pow 2 51
  UInt64.ofNat (if negative then Nat.pow 2 63 + body else body)

end Magnitude

end Chip8
