/-
# Chip8.Text.Decimal — quotients in decimal notation

A quotient of natural numbers is written with a given number of digits, rounded to
nearest and ties to even, in one of three notations: `fixed` has a given number of
digits behind the point, `scientific` has one digit before it and an exponent, and
`general` chooses between the two by the size of the number and drops the zeros
at the end. `shortest` has as many digits as it takes for the binary64 number to be
read back, and of those with so few digits the nearest one.
-/
import Chip8.Binary64

namespace Chip8.Text

set_option autoImplicit false

/-- The parts of a decimal numeral without sign. -/
structure Decimal where
  whole : List Char
  fraction : List Char := []
  exponent : List Char := []
  deriving DecidableEq, Repr

namespace Decimal

/-- The digits of a number, with zeros before them if there are fewer than `count`. -/
def digits (count n : Nat) : List Char :=
  let ds := Nat.toDigits 10 n
  List.replicate (count - ds.length) '0' ++ ds

/-- The part from the point on. A point with nothing behind it is written on demand. -/
def tail (d : Decimal) (point : Bool) : List Char :=
  (if d.fraction.isEmpty && !point then [] else '.' :: d.fraction) ++ d.exponent

def text (d : Decimal) (point : Bool) : List Char := d.whole ++ d.tail point

/-- The numeral without zeros at the end of its fraction. -/
def trim (d : Decimal) : Decimal :=
  { d with fraction := (d.fraction.reverse.dropWhile (· == '0')).reverse }

/-- The quotient `num / den` in units of `10 ^ e`, as numerator and denominator. -/
def inUnits (num den : Nat) (e : Int) : Nat × Nat :=
  (num * Nat.pow 10 (-e).toNat, den * Nat.pow 10 e.toNat)

/-- The exponent of the first digit of a quotient that is not zero. -/
def leading (num den : Nat) : Int :=
  let guess : Int := (Nat.toDigits 10 num).length - (Nat.toDigits 10 den).length
  let scaled := inUnits num den guess
  if scaled.2 ≤ scaled.1 then guess else guess - 1

/-- A quotient rounded to `places + 1` digits: the digits as a number, and the exponent of the
first one. -/
def rounded (places num den : Nat) : Nat × Int :=
  if num = 0 then (0, 0)
  else
    let k := leading num den
    let scaled := inUnits num den (k - places)
    let m := (halfEven scaled.1 scaled.2).toNat
    if m < Nat.pow 10 (places + 1) then (m, k) else (Nat.pow 10 places, k + 1)

/-- The notation with `places` digits behind the point. -/
def fixed (places num den : Nat) : Decimal :=
  let n := (halfEven (num * Nat.pow 10 places) den).toNat
  { whole := Nat.toDigits 10 (n / Nat.pow 10 places)
    fraction := if places = 0 then [] else digits places (n % Nat.pow 10 places) }

/-- An exponent behind its mark: a sign and at least two digits. -/
def exponentText (mark : Char) (k : Int) : List Char :=
  mark :: (if k < 0 then '-' else '+') :: digits 2 k.natAbs

def withExponent (mark : Char) (places m : Nat) (k : Int) : Decimal :=
  let ds := digits (places + 1) m
  { whole := ds.take 1, fraction := ds.drop 1, exponent := exponentText mark k }

def scientific (mark : Char) (places num den : Nat) : Decimal :=
  let (m, k) := rounded places num den
  withExponent mark places m k

/-- The notation with `precision` digits in all: fixed for a number of moderate size. -/
def general (mark : Char) (precision num den : Nat) : Decimal :=
  let places := precision - 1
  let (m, k) := rounded places num den
  if -4 ≤ k ∧ k ≤ places then fixed (places - k).toNat num den
  else withExponent mark places m k

/-! ## The shortest numeral that reads back -/

def ratio (m : Nat) (e : Int) : Nat × Nat := (m * Nat.pow 2 e.toNat, Nat.pow 2 (-e).toNat)

/-- The two numbers of `places + 1` digits around a quotient, the nearer one first, that read
back as the same binary64 number as the quotient does. -/
def candidates (places num den : Nat) (k : Int) : List Nat :=
  let scaled := inUnits num den (k - places)
  let low := scaled.1 / scaled.2
  let near := (halfEven scaled.1 scaled.2).toNat
  let both := if near = low then [low, low + 1] else [low + 1, low]
  both.filter fun m => Magnitude.ofDecimal m (k - places) = Magnitude.ofRatio num den

/-- The first number of digits from `places` on that has a candidate, with the candidate. -/
def search (num den : Nat) (k : Int) : (places fuel : Nat) → Nat × Nat
  | places, 0 => (places, (rounded places num den).1)
  | places, fuel + 1 =>
      match candidates places num den k with
      | m :: _ => (places, m)
      | [] => search num den k (places + 1) fuel

/-- A binary64 number with as few digits as it takes: positional from `0.0001` up to `10 ^ 16`,
and at least one digit behind the point there. -/
def shortest (m : Nat) (e : Int) : Decimal :=
  if m = 0 then { whole := ['0'], fraction := ['0'] }
  else
    let (num, den) := ratio m e
    let k := leading num den
    let (places, n) := search num den k 0 16
    let (n, k) := if n < Nat.pow 10 (places + 1) then (n, k) else (n / 10, k + 1)
    if -4 ≤ k ∧ k < 16 then
      let (num, den) := inUnits n 1 (places - k)
      let d := fixed (places - k).toNat num den
      if d.fraction.isEmpty then { d with fraction := ['0'] } else d
    else withExponent 'e' places n k

/-- The text of a number without sign: the given numeral of a finite one, or a word. -/
def ofMagnitude (numeral : Nat → Int → List Char) : Magnitude → List Char
  | .finite m e => numeral m.natAbs e
  | .infinite _ => ['i', 'n', 'f']
  | .undefined => ['n', 'a', 'n']

def sign (bits : UInt64) : List Char :=
  if bits.toNat / Nat.pow 2 63 = 0 ∨ Magnitude.ofBits bits = .undefined then [] else ['-']

def ofBits (bits : UInt64) : List Char :=
  sign bits ++ ofMagnitude (fun m e => (shortest m e).text false) (.ofBits bits)

end Decimal

end Chip8.Text
