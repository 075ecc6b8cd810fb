/-
# Chip8.Text.Argument — the arguments of a message

A message is logged with arguments of any kind. Each has two texts: `shown` is the
one that stands in a filled message, and `listed` the one that stands in a list,
where text is between quotes. `listedAll` is a whole list of arguments.

Not every argument can be shown. `check` goes through it from left to right and stops
at the first thing in it that cannot: a whole number of too many digits, or a list
that stands too deeply in others.
-/
import Chip8.Refusal
import Chip8.Text.Decimal
import Chip8.Text.Quoted

namespace Chip8.Text

set_option autoImplicit false

/-- What a message can be logged with. -/
inductive Argument where
  | text (s : String)
  | number (z : Int)
  | flag (b : Bool)
  /-- A binary64 number by its bits. -/
  | real (bits : UInt64)
  | nothing
  | list (items : List Argument)
  | record (fields : List (String × Argument))
  deriving Inhabited

namespace Argument

def joined (items : List (List Char)) : List Char := List.intercalate [',', ' '] items

mutual

def listed : Argument → List Char
  | .text s => Quoted.encode s.toList
  | .number z => Numeral.plain .decimal z
  | .flag true => ['T', 'r', 'u', 'e']
  | .flag false => ['F', 'a', 'l', 's', 'e']
  | .real bits => Decimal.ofBits bits
  | .nothing => ['N', 'o', 'n', 'e']
  | .list items => '[' :: joined (listedItems items) ++ [']']
  | .record fields => '\x7b' :: joined (listedFields fields) ++ ['\x7d']

def listedItems : List Argument → List (List Char)
  | [] => []
  | item :: rest => item.listed :: listedItems rest

def listedFields : List (String × Argument) → List (List Char)
  | [] => []
  | (name, value) :: rest =>
      (Quoted.encode name.toList ++ ':' :: ' ' :: value.listed) :: listedFields rest

end

/-- The argument as it stands in a message: text is left as it is. -/
def shown : Argument → List Char
  | .text s => s.toList
  | other => other.listed

def listedAscii (a : Argument) : List Char :=
  a.listed.flatMap fun c => if c.toNat < 0x80 then [c] else Quoted.code c

/-- The arguments in parentheses; a single one is followed by a comma. -/
def listedAll : List Argument → List Char
  | [a] => '(' :: a.listed ++ [',', ')']
  | args => '(' :: joined (args.map listed) ++ [')']

/-! ## What can be shown -/

/-- The least number that has too many digits. -/
def numberLimit : Nat := Nat.pow 10 Numeral.digitLimit

def checkNumber (z : Int) : Except Refusal Unit :=
  if z.natAbs < numberLimit then .ok () else .error .tooManyDigits

def checkLevel (limits : Limits) (level : Nat) : Except Refusal Unit :=
  if limits.depth.any (· < level) then .error .tooDeep else .ok ()

mutual

/-- An argument in a number of lists may be shown. -/
def check (limits : Limits) (level : Nat) : Argument → Except Refusal Unit
  | .number z => do
      checkLevel limits level
      checkNumber z
  | .list items => do
      checkLevel limits level
      checkItems limits (level + 1) items
  | .record fields => do
      checkLevel limits level
      checkFields limits (level + 1) fields
  | _ => checkLevel limits level

def checkItems (limits : Limits) (level : Nat) : List Argument → Except Refusal Unit
  | [] => .ok ()
  | item :: rest => do
      item.check limits level
      checkItems limits level rest

def checkFields (limits : Limits) (level : Nat) : List (String × Argument) → Except Refusal Unit
  | [] => .ok ()
  | (_, value) :: rest => do
      value.check limits level
      checkFields limits level rest

end

mutual

def numbers : Argument → List Int
  | .number z => [z]
  | .list items => numbersOfItems items
  | .record fields => numbersOfFields fields
  | _ => []

def numbersOfItems : List Argument → List Int
  | [] => []
  | item :: rest => item.numbers ++ numbersOfItems rest

def numbersOfFields : List (String × Argument) → List Int
  | [] => []
  | (_, value) :: rest => value.numbers ++ numbersOfFields rest

end

end Argument

end Chip8.Text
