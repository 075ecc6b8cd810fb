/-
# Chip8.Text.Form — forms of numbers and texts

A form says how a value is laid out in a field: a fill and an alignment, the sign of
numbers that are not negative, a mark for the radix, a width, a separator of groups
of digits, a precision, and a letter for the notation. `Form.ofText` reads one, part
by part from left to right; `Form.number` and `Form.text` apply it. What is wrong
with a form depends on the value it is for, and `FormError` names it.

Zeros that fill a number up stand between its sign and its digits and are grouped
like digits. A field that is too narrow never cuts a number.
-/
import Chip8.Refusal
import Chip8.Text.Decimal
import Chip8.Text.DecimalDigit
import Chip8.Text.Numeral

namespace Chip8.Text

set_option autoImplicit false

inductive Subject where
  | number
  | text
  deriving DecidableEq, Repr

def Subject.word : Subject → String
  | .number => "int"
  | .text => "str"

inductive FormError where
  | tooManyDigits
  | twoSeparators
  | precisionMissing
  | separator (mark letter : Char)
  | unreadable (text : String) (subject : Subject)
  | letter (letter : Char) (subject : Subject)
  | precisionOfNumber
  | precisionTooBig
  | plainZero (subject : Subject)
  | signOfCharacter
  | markOfCharacter
  | signOfText (blank : Bool)
  | markOfText
  | innerText
  | refused (reason : Refusal)
  deriving DecidableEq, Repr

namespace FormError

/-- A letter as errors show it: by its code if it is not a visible ASCII character. -/
def visible (c : Char) : String :=
  if 0x20 < c.toNat && c.toNat < 0x80 then c.toString else "\\x" ++ lowerHex 1 c.toNat

def message : FormError → String
  | .tooManyDigits => "Too many decimal digits in format string"
  | .twoSeparators => "Cannot specify both ',' and '_'."
  | .precisionMissing => "Format specifier missing precision"
  | .separator mark c =>
      "Cannot specify '" ++ mark.toString ++ "' with '" ++ visible c ++ "'."
  | .unreadable text subject =>
      "Invalid format specifier '" ++ text ++ "' for object of type '" ++ subject.word ++ "'"
  | .letter c subject =>
      "Unknown format code '" ++ visible c ++ "' for object of type '" ++ subject.word ++ "'"
  | .precisionOfNumber => "Precision not allowed in integer format specifier"
  | .precisionTooBig => "precision too big"
  | .plainZero .number => "Negative zero coercion (z) not allowed in integer format specifier"
  | .plainZero .text => "Negative zero coercion (z) not allowed in string format specifier"
  | .signOfCharacter => "Sign not allowed with integer format specifier 'c'"
  | .markOfCharacter => "Alternate form (#) not allowed with integer format specifier 'c'"
  | .signOfText true => "Space not allowed in string format specifier"
  | .signOfText false => "Sign not allowed in string format specifier"
  | .markOfText => "Alternate form (#) not allowed in string format specifier"
  | .innerText => "'=' alignment not allowed in string format specifier"
  | .refused reason => reason.message

end FormError

/-- Where the padding of a field goes; inner padding goes behind the sign and the mark. -/
inductive Align where
  | left
  | right
  | centre
  | inner
  deriving DecidableEq, Repr

def Align.ofMark? : Char → Option Align
  | '<' => some .left
  | '>' => some .right
  | '^' => some .centre
  | '=' => some .inner
  | _ => none

structure Form where
  fill : Char := ' '
  align : Align := .right
  sign : Option Char := none
  /-- A zero is written without sign. -/
  plainZero : Bool := false
  marked : Bool := false
  width : Nat := 0
  separator : Option Char := none
  precision : Option Nat := none
  letter : Char := 'd'
  deriving DecidableEq, Repr

namespace Form

/-! ## Reading -/

def plain : Subject → Form
  | .number => {}
  | .text => { align := .left, letter := 's' }

def numberLimit : Nat := Nat.pow 2 63 - 1

/-- The digits at the start of a text as a number behind the digits already read, and the rest. -/
def readDigits (n : Nat) : List Char → Except FormError (Nat × List Char)
  | [] => .ok (n, [])
  | c :: rest =>
      match DecimalDigit.value? c with
      | none => .ok (n, c :: rest)
      | some d =>
          if 10 * n + d ≤ numberLimit then readDigits (10 * n + d) rest
          else .error .tooManyDigits

def skip? (c : Char) : List Char → Option (List Char)
  | [] => none
  | d :: rest => if c = d then some rest else none

/-- The fill and the alignment. The flags tell which of them were given. -/
def readAlign (f : Form) (text : List Char) : Form × Bool × Bool × List Char :=
  match text with
  | fill :: mark :: rest =>
      match Align.ofMark? mark, Align.ofMark? fill with
      | some align, _ => ({ f with fill, align }, true, true, rest)
      | none, some align => ({ f with align }, false, true, mark :: rest)
      | none, none => (f, false, false, text)
  | [mark] =>
      match Align.ofMark? mark with
      | some align => ({ f with align }, false, true, [])
      | none => (f, false, false, text)
  | [] => (f, false, false, [])

def readSign (f : Form) : List Char → Form × List Char
  | [] => (f, [])
  | c :: rest =>
      if c = '+' || c = '-' || c = ' ' then ({ f with sign := some c }, rest) else (f, c :: rest)

def readSwitch (c : Char) (f : Form) (on : Form → Form) (text : List Char) : Form × List Char :=
  match skip? c text with
  | some rest => (on f, rest)
  | none => (f, text)

/-- The zero before a width: it fills numbers behind their sign. -/
def fillWithZeros (inner : Bool) (f : Form) : Form :=
  { f with fill := '0', align := if inner then .inner else f.align }

/-- The separator of groups; a second one of the other kind is refused. -/
def readSeparator (f : Form) : List Char → Except FormError (Form × List Char)
  | ',' :: '_' :: _ | '_' :: ',' :: _ => .error .twoSeparators
  | ',' :: rest => .ok ({ f with separator := some ',' }, rest)
  | '_' :: rest => .ok ({ f with separator := some '_' }, rest)
  | rest => .ok (f, rest)

def readPrecision (f : Form) : List Char → Except FormError (Form × List Char)
  | '.' :: rest => do
      let (n, left) ← readDigits 0 rest
      if left.length = rest.length then throw .precisionMissing
      return ({ f with precision := some n }, left)
  | rest => .ok (f, rest)

/-- A separator stands in decimal notations, the underscore also in those of other radices. -/
def separates (mark letter : Char) : Bool :=
  ['d', 'e', 'f', 'g', 'E', 'G', '%', 'F'].contains letter
    || (mark == '_' && ['b', 'o', 'x', 'X'].contains letter)

def ofText (subject : Subject) (text : List Char) : Except FormError Form := do
  let (f, filled, aligned, rest) := readAlign (plain subject) text
  let (f, rest) := readSign f rest
  let (f, rest) := readSwitch 'z' f (fun f => { f with plainZero := true }) rest
  let (f, rest) := readSwitch '#' f (fun f => { f with marked := true }) rest
  let (f, rest) :=
    if filled then (f, rest)
    else readSwitch '0' f (fillWithZeros (!aligned && subject == .number)) rest
  let (width, rest) ← readDigits 0 rest
  let (f, rest) ← readSeparator { f with width } rest
  let (f, rest) ← readPrecision f rest
  let f ← match rest with
    | [] => pure f
    | [letter] => pure { f with letter }
    | _ => throw (.unreadable (String.ofList text) subject)
  match f.separator with
  | none => return f
  | some mark => if separates mark f.letter then return f else throw (.separator mark f.letter)

/-! ## Applying -/

/-- Digits in groups of `size` from the right, with zeros before them up to `least` characters.
All texts are reversed. -/
def groups (size : Nat) (mark : Char) : (fuel : Nat) → (least : Int) → List Char → List Char
  | 0, _, _ => []
  | fuel + 1, least, digits =>
      let count := min size (max 1 (max digits.length least.toNat))
      let group := digits.take count ++ List.replicate (count - digits.length) '0'
      let rest := digits.drop count
      let least := least - count
      if rest.isEmpty && least ≤ 0 then group
      else group ++ mark :: groups size mark fuel (least - 1) rest

/-- Digits with the separators of a form and zeros up to `least` characters. -/
def grouped (f : Form) (least : Int) (digits : List Char) : List Char :=
  match f.separator with
  | none => List.replicate (least.toNat - digits.length) '0' ++ digits
  | some mark =>
      let size := if ['b', 'o', 'x', 'X'].contains f.letter then 4 else 3
      (groups size mark (digits.length + least.toNat + 1) least digits.reverse).reverse

/-- The parts of a number: its sign, its mark, the digits that can be grouped, and the rest. -/
structure Parts where
  negative : Bool := false
  mark : List Char := []
  digits : List Char := []
  tail : List Char := []

/-- Padding for a text of the given length: before it, behind its sign, and after it. -/
def padding (f : Form) (length : Nat) : List Char × List Char × List Char :=
  let n := f.width - length
  let fill (k : Nat) := List.replicate k f.fill
  match f.align with
  | .left => ([], [], fill n)
  | .right => (fill n, [], [])
  | .centre => (fill (n / 2), [], fill (n - n / 2))
  | .inner => ([], fill n, [])

def checkWidth (f : Form) (limits : Limits := {}) : Except FormError Unit :=
  (Refusal.room f.width 1 limits).mapError .refused

def lay (f : Form) (p : Parts) (limits : Limits := {}) : Except FormError (List Char) := do
  checkWidth f limits
  let sign := if p.negative then ['-'] else match f.sign with
    | some '+' => ['+']
    | some ' ' => [' ']
    | _ => []
  let rest := sign.length + p.mark.length + p.tail.length
  let least : Int := if f.fill = '0' ∧ f.align = .inner then f.width - rest else 0
  let digits := if p.digits.isEmpty then [] else f.grouped least p.digits
  let (before, inner, after) := f.padding (rest + digits.length)
  return before ++ sign ++ p.mark ++ inner ++ digits ++ p.tail ++ after

def radixParts (f : Form) (r : Radix) (mark : List Char) (z : Int) : Except FormError Parts :=
  if f.precision.isSome then .error .precisionOfNumber
  else if f.plainZero then .error (.plainZero .number)
  else .ok
    { negative := z < 0
      mark := if f.marked then mark else []
      digits := r.digits z.natAbs }

def characterParts (f : Form) (z : Int) : Except FormError Parts :=
  if f.precision.isSome then .error .precisionOfNumber
  else if f.plainZero then .error (.plainZero .number)
  else if f.sign.isSome then .error .signOfCharacter
  else if f.marked then .error .markOfCharacter
  else if 0 ≤ z ∧ z < 0x110000 then .ok { tail := [Char.ofNat z.toNat] }
  else .error (.refused .beyondIndex)

def nearestRatio (num den : Nat) : Except FormError (Nat × Nat) :=
  match Magnitude.ofRatio num den with
  | .finite m e => .ok (Decimal.ratio m.toNat e)
  | _ => .error (.refused .beyondIndex)

def realParts (f : Form) (write : Nat → Nat → Nat → Decimal) (z : Int) :
    Except FormError Parts := do
  let precision := f.precision.getD 6
  if Nat.pow 2 31 ≤ precision then throw .precisionTooBig
  let (num, den) ← nearestRatio z.natAbs 1
  let d := write precision num den
  return { negative := z < 0, digits := d.whole, tail := d.tail f.marked }

def percentParts (f : Form) (z : Int) : Except FormError Parts := do
  let precision := f.precision.getD 6
  if Nat.pow 2 31 ≤ precision then throw .precisionTooBig
  let (num, den) ← nearestRatio z.natAbs 1
  let (num, den) ← nearestRatio (100 * num) den
  let d := Decimal.fixed precision num den
  return { negative := z < 0, digits := d.whole, tail := d.tail f.marked ++ ['%'] }

/-- The general notation, with its zeros at the end only in a marked form. -/
def generalDecimal (f : Form) (mark : Char) (precision num den : Nat) : Decimal :=
  let d := Decimal.general mark precision num den
  if f.marked then d else d.trim

def parts (f : Form) (z : Int) : Except FormError Parts :=
  match f.letter with
  | 'd' | 'n' => f.radixParts .decimal [] z
  | 'b' => f.radixParts .binary ['0', 'b'] z
  | 'o' => f.radixParts .octal ['0', 'o'] z
  | 'x' => f.radixParts .hex ['0', 'x'] z
  | 'X' => f.radixParts .upperHex ['0', 'X'] z
  | 'c' => f.characterParts z
  | 'f' | 'F' => f.realParts Decimal.fixed z
  | 'e' => f.realParts (Decimal.scientific 'e') z
  | 'E' => f.realParts (Decimal.scientific 'E') z
  | 'g' => f.realParts (f.generalDecimal 'e') z
  | 'G' => f.realParts (f.generalDecimal 'E') z
  | '%' => f.percentParts z
  | c => .error (.letter c .number)

def number (f : Form) (z : Int) (limits : Limits := {}) : Except FormError (List Char) := do
  f.lay (← f.parts z) limits

/-- A text in a form, cut off at the precision. -/
def text (f : Form) (s : List Char) (limits : Limits := {}) : Except FormError (List Char) := do
  if f.letter ≠ 's' then throw (.letter f.letter .text)
  match f.sign with
  | some c => throw (.signOfText (c == ' '))
  | none => pure ()
  if f.plainZero then throw (.plainZero .text)
  if f.marked then throw .markOfText
  if f.align = .inner then throw .innerText
  let s := match f.precision with
    | some n => s.take n
    | none => s
  checkWidth f limits
  let (before, _, after) := f.padding s.length
  return before ++ s ++ after

end Form

end Chip8.Text
