/-
# Chip8.Number — whole and real numbers from a host

Where a host may give any number, it is either a whole number of any size or a
binary64 number. Two whole numbers are divided exactly and rounded once, by
`Magnitude.ofRatio`; as soon as one of the two is real, a whole number is first
rounded to binary64 itself, and one that is too large for that is a failure.
-/
import Chip8.Binary64
import Chip8.Failure

namespace Chip8

set_option autoImplicit false

inductive Number where
  | whole (z : Int)
  | real (x : Float)

namespace Number

/-- The real number nearest to `digits * 10 ^ exponent`, with a sign. -/
def ofDecimal (negative : Bool) (digits : Nat) (exponent : Int) : Number :=
  .real (Float.ofBits ((Magnitude.ofDecimal digits exponent).bits negative))

/-- The text cut in two at the first exponent mark. -/
def cutAtMark (text : List Char) : List Char × List Char :=
  let isMark (c : Char) : Bool := c = 'e' || c = 'E'
  (text.takeWhile fun c => !isMark c, text.dropWhile fun c => !isMark c)

def digitsOf (text : List Char) : Nat := Nat.ofDigitChars 10 (text.filter Char.isDigit) 0

/-- A real numeral without sign: digits with a point among them and an exponent, or a word for
what is infinite or no number. -/
def ofUnsigned (negative : Bool) (text : List Char) : Number :=
  match text with
  | 'N' :: _ => .real (Float.ofBits (Magnitude.undefined.bits negative))
  | 'I' :: _ => .real (Float.ofBits ((Magnitude.infinite negative).bits negative))
  | _ =>
      let (body, mark) := cutAtMark text
      let places := (body.dropWhile (· != '.')).length - 1
      let power : Int := if mark[1]? = some '-' then -(digitsOf mark) else digitsOf mark
      ofDecimal negative (digitsOf body) (power - places)

def ofText (text : String) : Number :=
  match text.toList with
  | '-' :: rest => ofUnsigned true rest
  | rest => ofUnsigned false rest

def notPositive : Number → Bool
  | .whole z => z ≤ 0
  | .real x => x ≤ 0.0

/-- The number, or one if it is not greater than one. -/
def atLeastOne : Number → Number
  | .whole z => .whole (max 1 z)
  | .real x => if 1.0 < x then .real x else .whole 1

/-- The number kept between zero and one; what is not a number counts as one. -/
def clamp : Number → Float
  | .whole z => if z ≤ 0 then 0.0 else 1.0
  | .real x =>
      let low := if x < 1.0 then x else 1.0
      if 0.0 < low then low else 0.0

def bounded : Magnitude → Except Failure Magnitude
  | .infinite _ => .error .unboundedNumber
  | x => .ok x

def magnitude : Number → Except Failure Magnitude
  | .real x => .ok (.ofBits x.toBits)
  | .whole z =>
      let size := Magnitude.ofRatio z.natAbs 1
      bounded (if z < 0 then size.negate else size)

/-- The quotient of two numbers that are positive or no numbers at all. -/
def quotient : Number → Number → Except Failure Magnitude
  | .whole a, .whole b => bounded (.ofRatio a.toNat b.toNat)
  | a, b => do return (← a.magnitude).divide (← b.magnitude)

/-- The whole number that is made of a magnitude by the given rule. -/
def wholeBy (cut : Int → Int → Int) : Magnitude → Except Failure Int
  | .finite m e => .ok (cut m e)
  | .infinite _ => .error .unboundedNumber
  | .undefined => .error (.refusal .notANumber)

def truncate : Number → Except Failure Int
  | .whole z => .ok z
  | .real x => wholeBy Magnitude.truncate (.ofBits x.toBits)

end Number

end Chip8
