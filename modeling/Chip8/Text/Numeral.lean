/-
# Chip8.Text.Numeral — whole numbers as text

A numeral is a sign, a mark such as `0x`, and digits. Zero padding goes between
the mark and the digits, and the width counts everything: `-1` at width 4 behind
the mark is `-0x1`, at width 6 it is `-0x001`. A numeral that is too wide is never
cut.
-/
namespace Chip8.Text

set_option autoImplicit false

inductive Radix where
  | binary
  | octal
  | decimal
  | hex
  | upperHex
  deriving DecidableEq, Repr

namespace Radix

def base : Radix → Nat
  | .binary => 2
  | .octal => 8
  | .decimal => 10
  | .hex => 16
  | .upperHex => 16

/-- The digits of a number, most significant first, `0` for zero. -/
def digits (r : Radix) (n : Nat) : List Char :=
  match r with
  | .upperHex => (Nat.toDigits 16 n).map Char.toUpper
  | r => Nat.toDigits r.base n

end Radix

namespace Numeral

/-- The most digits that a decimal numeral may have, where it is read and where it is shown to a
reader. -/
def digitLimit : Nat := 4300

def sign (z : Int) : List Char := if z < 0 then ['-'] else []

def plain (r : Radix) (z : Int) : List Char := sign z ++ r.digits z.natAbs

/-- Sign, mark, zeros up to `width` characters in all, and digits. -/
def zeroPadded (r : Radix) (width : Nat) (mark : List Char) (z : Int) : List Char :=
  let lead := sign z ++ mark
  let body := r.digits z.natAbs
  lead ++ List.replicate (width - lead.length - body.length) '0' ++ body

/-- Text at the left end of a field of `width` characters. -/
def alignLeft (width : Nat) (text : List Char) : List Char :=
  text ++ List.replicate (width - text.length) ' '

end Numeral

def decimal (z : Int) : String := String.ofList (Numeral.plain .decimal z)

/-- Capital hexadecimal text with at least `width` digits, as registers and opcodes are shown. -/
def upperHex (width : Nat) (z : Int) : String :=
  String.ofList (Numeral.zeroPadded .upperHex width [] z)

def lowerHex (width : Nat) (z : Int) : String :=
  String.ofList (Numeral.zeroPadded .hex width [] z)

/-- Hexadecimal text behind the mark `0x`, at least `width` characters in all. -/
def markedHex (width : Nat) (z : Int) : String :=
  String.ofList (Numeral.zeroPadded .hex width ['0', 'x'] z)

end Chip8.Text
