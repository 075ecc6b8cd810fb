/-
# Chip8.Text.WholeNumber — reading a whole number

A whole number is written as an optional sign and decimal digits, with single
underscores allowed between digits and blanks around the whole. Digits of every
script count, and so do all blanks but the information separators (0x1c to 0x1f).
A numeral of more than 4300 digits is refused.
-/
import Chip8.Text.Blank
import Chip8.Text.DecimalDigit
import Chip8.Text.Numeral

namespace Chip8.Text.WholeNumber

set_option autoImplicit false

/-- The blanks that may surround a numeral: of the information separators none. -/
def isSurround (c : Char) : Bool := isBlank c && !(0x1c ≤ c.toNat && c.toNat ≤ 0x1f)

/-- The digits after one digit: each may have one underscore before it. -/
def moreDigits : List Char → Option (List Nat)
  | [] => some []
  | '_' :: c :: rest => do return (← DecimalDigit.value? c) :: (← moreDigits rest)
  | c :: rest => do return (← DecimalDigit.value? c) :: (← moreDigits rest)

def digits? : List Char → Option (List Nat)
  | [] => none
  | c :: rest => do return (← DecimalDigit.value? c) :: (← moreDigits rest)

def value (ds : List Nat) : Nat := ds.foldl (fun n d => 10 * n + d) 0

def natural? (text : List Char) : Option Nat := do
  let ds ← digits? text
  if ds.length ≤ Numeral.digitLimit then some (value ds) else none

def signed? : List Char → Option Int
  | '-' :: rest => (natural? rest).map fun n => -(n : Int)
  | '+' :: rest => (natural? rest).map fun n => (n : Int)
  | text => (natural? text).map fun n => (n : Int)

def read? (text : String) : Option Int :=
  signed? ((text.toList.dropWhile isSurround).reverse.dropWhile isSurround).reverse

end Chip8.Text.WholeNumber
