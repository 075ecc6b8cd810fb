/-
# Chip8.Instruction.Template — assembler text with operands

The mnemonic of an instruction is a template: a brace pair holds the name of an
operand, perhaps a conversion into text behind an exclamation mark, and after a
colon the form in which the operand is shown. A doubled brace is a brace. A form may
hold operands of its own, but those in turn have plain forms.

`pieces` reads a template once, from left to right, with the open field as its only
state; what is wrong with a template is a piece too, so `render` reports the first
thing that is wrong and nothing behind it.
-/
import Chip8.Opcode
import Chip8.Text.Form

namespace Chip8

set_option autoImplicit false

inductive TemplateError where
  | loneOpenBrace
  | loneCloseBrace
  | openField
  | braceInName
  | openForm
  | openConversion
  | afterConversion
  | conversion (letter : Char)
  | tooDeep
  | partMissing
  | openBracket
  | form (error : Text.FormError)
  /-- There is no operand with the name. -/
  | unknownOperand (name : String)
  /-- An operand is asked for by its position. -/
  | unnamedOperand
  /-- An operand has no part with the name. -/
  | unknownPart (name : String)
  /-- An operand has no items. -/
  | noItems
  deriving DecidableEq, Repr

namespace TemplateError

def message : TemplateError → String
  | .loneOpenBrace => "Single '\x7b' encountered in format string"
  | .loneCloseBrace => "Single '\x7d' encountered in format string"
  | .openField => "expected '\x7d' before end of string"
  | .braceInName => "unexpected '\x7b' in field name"
  | .openForm => "unmatched '\x7b' in format spec"
  | .openConversion => "end of string while looking for conversion specifier"
  | .afterConversion => "expected ':' after conversion specifier"
  | .conversion c =>
      "Unknown conversion specifier "
        ++ (if c = '\x7f' then "\\x7f" else Text.FormError.visible c)
  | .tooDeep => "Max string recursion exceeded"
  | .partMissing => "Empty attribute in format string"
  | .openBracket => "Missing ']' in format string"
  | .form e => e.message
  | .unknownOperand name => name
  | .unnamedOperand => "Replacement index 0 out of range for positional args tuple"
  | .unknownPart name => "'int' object has no attribute '" ++ name ++ "'"
  | .noItems => "'int' object is not subscriptable"

end TemplateError

namespace Template

/-! ## Reading -/

/-- The inside of a brace pair. -/
structure Field where
  name : List Char
  conversion : Option Char := none
  form : List Char := []
  deriving DecidableEq, Repr

/-- A field that is open; its texts are reversed. -/
inductive OpenField where
  | name (name : List Char) (inBracket : Bool)
  | conversion (name : List Char)
  | converted (name : List Char) (letter : Char)
  | form (name : List Char) (conversion : Option Char) (form : List Char) (depth : Nat)
  deriving DecidableEq, Repr

/-- What a character makes of an open field. -/
inductive Next where
  | more (field : OpenField)
  | done (field : Field)
  | flawed (error : TemplateError)
  deriving DecidableEq, Repr

/-- One more character of an open field. A form ends with the brace that closes its field, after
those that close fields in the form. -/
def OpenField.next : OpenField → Char → Next
  | .name text true, c => .more (.name (c :: text) (c != ']'))
  | .name text false, c =>
      match c with
      | '\x7b' => .flawed .braceInName
      | '\x7d' => .done { name := text.reverse }
      | ':' => .more (.form text none [] 0)
      | '!' => .more (.conversion text)
      | c => .more (.name (c :: text) (c == '['))
  | .conversion text, c => .more (.converted text c)
  | .converted text letter, c =>
      match c with
      | '\x7d' => .done { name := text.reverse, conversion := some letter }
      | ':' => .more (.form text (some letter) [] 0)
      | _ => .flawed .afterConversion
  | .form text letter written depth, c =>
      match c, depth with
      | '\x7d', 0 =>
          .done { name := text.reverse, conversion := letter, form := written.reverse }
      | '\x7d', depth + 1 => .more (.form text letter (c :: written) depth)
      | '\x7b', depth => .more (.form text letter (c :: written) (depth + 1))
      | c, depth => .more (.form text letter (c :: written) depth)

/-- What is wrong when a template ends within a field. -/
def OpenField.atEnd : OpenField → TemplateError
  | .name _ _ => .openField
  | .conversion _ => .openConversion
  | .converted _ _ | .form _ _ _ _ => .openForm

/-- A character of the text, a place for an operand, or a flaw. -/
inductive Piece where
  | char (c : Char)
  | field (f : Field)
  | flaw (error : TemplateError)
  deriving DecidableEq, Repr

/-- The pieces of a template. The first argument is the field that is open, if one is. -/
def pieces : Option OpenField → List Char → List Piece
  | none, [] => []
  | some f, [] => [.flaw f.atEnd]
  | none, '\x7b' :: '\x7b' :: rest => .char '\x7b' :: pieces none rest
  | none, '\x7d' :: '\x7d' :: rest => .char '\x7d' :: pieces none rest
  | none, ['\x7b'] => [.flaw .loneOpenBrace]
  | none, '\x7b' :: rest => pieces (some (.name [] false)) rest
  | none, '\x7d' :: _ => [.flaw .loneCloseBrace]
  | none, c :: rest => .char c :: pieces none rest
  | some f, c :: rest =>
      match f.next c with
      | .more f => pieces (some f) rest
      | .done f => .field f :: pieces none rest
      | .flawed e => [.flaw e]

/-! ## Operands -/

inductive Operand where
  | x
  | y
  | n
  | nn
  | nnn
  deriving DecidableEq, Repr

namespace Operand

def ofName? : List Char → Option Operand
  | ['x'] => some .x
  | ['y'] => some .y
  | ['n'] => some .n
  | ['n', 'n'] => some .nn
  | ['n', 'n', 'n'] => some .nnn
  | _ => none

def value (w : Opcode) : Operand → Nat
  | .x => (Opcode.x w).val
  | .y => (Opcode.y w).val
  | .n => (Opcode.n w).val
  | .nn => (Opcode.nn w).toNat
  | .nnn => Opcode.nnn w

end Operand

def part (v : Nat) (name : List Char) : Except TemplateError Nat :=
  match String.ofList name with
  | "" => .error .partMissing
  | "real" | "numerator" => .ok v
  | "imag" => .ok 0
  | "denominator" => .ok 1
  | name => .error (.unknownPart name)

/-- The error for an item of a number, given the text behind the bracket. -/
def itemError (text : List Char) : TemplateError :=
  let name := text.takeWhile (· != ']')
  if name.length = text.length then .openBracket
  else match Text.Form.readDigits 0 name with
    | .error e => .form e
    | .ok _ => if name.isEmpty then .partMissing else .noItems

/-- Parts of parts of a number; the second argument is the name of the first part as far as it
has been read, reversed. -/
def parts (v : Nat) (name : List Char) : List Char → Except TemplateError Nat
  | [] => part v name.reverse
  | '.' :: rest => do parts (← part v name.reverse) [] rest
  | '[' :: rest => do
      let _ ← part v name.reverse
      throw (itemError rest)
  | c :: rest => parts v (c :: name) rest

/-- The operand that a name stands for. A number in place of a name is a position. -/
def operand (name : List Char) : Except TemplateError Operand :=
  match Text.Form.readDigits 0 name with
  | .error e => .error (.form e)
  | .ok (_, []) => .error .unnamedOperand
  | .ok _ =>
      match Operand.ofName? name with
      | some o => .ok o
      | none => .error (.unknownOperand (String.ofList name))

/-- The value of a field in an opcode: an operand, or a part of one behind a point. -/
def Field.value (f : Field) (w : Opcode) : Except TemplateError Nat := do
  let opens (c : Char) : Bool := c == '.' || c == '['
  let o ← operand (f.name.takeWhile fun c => !opens c)
  match f.name.dropWhile fun c => !opens c with
  | [] => return o.value w
  | '.' :: rest => parts (o.value w) [] rest
  | _ :: rest => throw (itemError rest)

/-! ## Rendering -/

def shownAs (limits : Limits) (conversion : Option Char) (form : List Char) (v : Nat) :
    Except Text.FormError (List Char) := do
  match conversion with
  | none => (← Text.Form.ofText .number form).number v limits
  | some _ => (← Text.Form.ofText .text form).text (Text.Numeral.plain .decimal v) limits

/-- A piece with the operand of an opcode in it; `expand` fills the form of a field. -/
def Piece.render (limits : Limits) (expand : List Char → Except TemplateError (List Char))
    (w : Opcode) : Piece → Except TemplateError (List Char)
  | .char c => .ok [c]
  | .flaw e => .error e
  | .field f => do
      let v ← f.value w
      match f.conversion with
      | some c => if c = 'r' || c = 's' || c = 'a' then pure () else throw (.conversion c)
      | none => pure ()
      let form ← if f.form.contains '\x7b' then expand f.form else pure f.form
      (shownAs limits f.conversion form v).mapError .form

/-- A template with the operands of an opcode in it, fields within fields up to a depth. -/
def fill (limits : Limits) : (depth : Nat) → Opcode → List Char →
    Except TemplateError (List Char)
  | 0, _, _ => .error .tooDeep
  | depth + 1, w, text => do
      let shown ← (pieces none text).mapM (Piece.render limits (fill limits depth w) w)
      return shown.flatten

def depth : Nat := 2

def render (text : String) (w : Opcode) (limits : Limits := {}) : Except TemplateError String :=
  (fill limits depth w text.toList).map String.ofList

end Template

end Chip8
