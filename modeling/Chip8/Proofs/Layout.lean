/-
# Chip8.Proofs.Layout — the assembler text of a row, character by character

A template shows each operand with all its digits and no more if its forms are those for the
operands (`Operand.form`). Such a template has a layout: a fixed number of cells, each of them a
character of its own or a digit of the opcode (`Cell`). What is written for an opcode is the layout
with the digits filled in (`render_of_layout`).
-/
import Chip8.Proofs.Assembly

namespace Chip8

set_option autoImplicit false

/-! ## Digits -/

namespace Text

def hexDigit (n : Nat) : Char := (Nat.digitChar n).toUpper

def hexDigits : (k v : Nat) → List Char
  | 0, _ => []
  | k + 1, v => hexDigits k (v / 16) ++ [hexDigit (v % 16)]

theorem hexDigit_inj {a b : Nibble} (same : hexDigit a.val = hexDigit b.val) : a = b := by
  revert a b
  decide

theorem hexDigits_append {k a d : Nat} (small : d < 16) :
    hexDigits (k + 1) (16 * a + d) = hexDigits k a ++ [hexDigit d] := by
  have front : (16 * a + d) / 16 = a := by omega
  have last : (16 * a + d) % 16 = d := by omega
  rw [hexDigits, front, last]

theorem hexDigits_one {d : Nat} (small : d < 16) : hexDigits 1 d = [hexDigit d] := by
  rw [hexDigits, Nat.mod_eq_of_lt small]
  rfl

theorem upperHex_ne_nil (v : Nat) : Radix.upperHex.digits v ≠ [] := by
  simp [Radix.digits, Nat.toDigits_ne_nil]

theorem length_upperHex {k v : Nat} (small : v < Nat.pow 16 (k + 1)) :
    (Radix.upperHex.digits v).length ≤ k + 1 := by
  rw [Radix.digits, List.length_map]
  exact (Nat.length_toDigits_le_iff (by decide) (Nat.succ_pos k)).2 small

/-- A number that is not too large has its last digits and no others, with zeros before them. -/
theorem pad_upperHex {k v : Nat} (small : v < Nat.pow 16 (k + 1)) :
    List.replicate (k + 1 - (Radix.upperHex.digits v).length) '0' ++ Radix.upperHex.digits v =
      hexDigits (k + 1) v := by
  rw [Nat.pow_eq] at small
  induction k generalizing v with
  | zero =>
      rw [Nat.zero_add, Nat.pow_one] at small
      rw [Radix.digits, Nat.toDigits_of_lt_base small, hexDigits_one small]
      rfl
  | succ k ih =>
      have small' : v / 16 < 16 ^ (k + 1) := by
        rw [Nat.pow_succ] at small
        exact Nat.div_lt_of_lt_mul (by omega)
      -- the last digit stands apart, and a number without digits before it has only zeros there
      rw [hexDigits, ← ih small', Radix.digits, Radix.digits]
      by_cases single : v < 16
      · rw [Nat.toDigits_of_lt_base single, Nat.div_eq_of_lt single, Nat.mod_eq_of_lt single,
          Nat.toDigits_zero]
        simp [hexDigit, List.replicate_succ']
      · rw [Nat.toDigits_of_base_le (by decide) (Nat.le_of_not_lt single)]
        simp [hexDigit]

/-- Text of at least as many digits as the number has. -/
theorem upperHex_eq {k : Nat} {v : Nat} (small : v < Nat.pow 16 (k + 1)) :
    upperHex (k + 1) v = String.ofList (hexDigits (k + 1) v) := by
  have unsigned : Numeral.sign (v : Int) = [] := if_neg (by omega)
  rw [upperHex, Numeral.zeroPadded, unsigned, ← pad_upperHex small]
  rfl

namespace Form

/-- A number in a form of capital hexadecimal digits, without anything else. -/
theorem number_hex {f : Form} (hex : f.letter = 'X') (whole : f.precision = none)
    (zero : f.plainZero = false) (unmarked : f.marked = false) (v : Nat) :
    f.number v = f.lay { digits := Radix.upperHex.digits v } := by
  have parts : f.parts v = .ok { digits := Radix.upperHex.digits v } := by
    unfold parts
    rw [hex]
    simp [radixParts, whole, zero, unmarked]
  rw [number, parts]
  rfl

/-- The digits alone. -/
theorem lay_plain {digits : List Char} (some : digits ≠ []) :
    lay { letter := 'X' } { digits } = .ok digits := by
  have shown : digits.isEmpty = false := by simpa using some
  have room : checkWidth { letter := 'X' } = .ok () := by rfl
  rw [lay, room]
  simp [shown, grouped, padding, bind, Except.bind, pure, Except.pure]

/-- Zeros before the digits fill a number up to the width of its form. -/
theorem lay_zeroFilled {k : Nat}
    (room : checkWidth { fill := '0', align := .inner, width := k + 1, letter := 'X' } = .ok ())
    {digits : List Char} (some : digits ≠ []) (fit : digits.length ≤ k + 1) :
    lay { fill := '0', align := .inner, width := k + 1, letter := 'X' } { digits } =
      .ok (List.replicate (k + 1 - digits.length) '0' ++ digits) := by
  have full : k + 1 - (k + 1 - digits.length + digits.length) = 0 := by omega
  have shown : digits.isEmpty = false := by simpa using some
  rw [lay, room]
  simp [shown, grouped, padding, full, bind, Except.bind, pure, Except.pure]

end Form

end Text

namespace Template

/-! ## Cells -/

/-- A place in a written instruction: a character of its own, or the digit of weight `16 ^ k`. -/
inductive Cell where
  | char (c : Char)
  | digit (k : Nat)
  deriving DecidableEq

def Cell.shown (w : Opcode) : Cell → Char
  | .char c => c
  | .digit k => Text.hexDigit (Opcode.digit w k).val

def Operand.cells : Operand → List Cell
  | .x => [.digit 2]
  | .y => [.digit 1]
  | .n => [.digit 0]
  | .nn => [.digit 1, .digit 0]
  | .nnn => [.digit 2, .digit 1, .digit 0]

/-- The form that shows all digits of an operand. -/
def Operand.form : Operand → List Char
  | .x | .y | .n => ['X']
  | .nn => ['0', '2', 'X']
  | .nnn => ['0', '3', 'X']

/-- The cells of a piece that is written with a fixed number of characters. -/
def Piece.cells? : Piece → Option (List Cell)
  | .char c => some [.char c]
  | .flaw _ => none
  | .field f =>
      match f.conversion, Operand.ofName? f.name with
      | none, some o => if f.form = o.form then some o.cells else none
      | _, _ => none

def layout? (text : String) : Option (List Cell) :=
  ((pieces none text.toList).mapM Piece.cells?).map List.flatten

/-! ## Filling in -/

theorem shownAs_of_read {form : List Char} {f : Text.Form}
    (read : Text.Form.ofText .number form = .ok f) (v : Nat) :
    shownAs {} none form v = f.number v := by
  rw [shownAs, read]
  rfl

theorem shownAs_plain {v : Nat} (small : v < 16) :
    shownAs {} none ['X'] v = .ok (Text.hexDigits 1 v) := by
  have read : Text.Form.ofText .number ['X'] = .ok { letter := 'X' } := by rfl
  rw [shownAs_of_read read, Text.Form.number_hex rfl rfl rfl rfl,
    Text.Form.lay_plain (Text.upperHex_ne_nil v), Text.Radix.digits, Nat.toDigits_of_lt_base small,
    Text.hexDigits_one small]
  rfl

theorem shownAs_zeroFilled {form : List Char} {k v : Nat}
    (read : Text.Form.ofText .number form =
      .ok { fill := '0', align := .inner, width := k + 1, letter := 'X' })
    (room : Text.Form.checkWidth
      { fill := '0', align := .inner, width := k + 1, letter := 'X' } = .ok ())
    (small : v < Nat.pow 16 (k + 1)) :
    shownAs {} none form v = .ok (Text.hexDigits (k + 1) v) := by
  rw [shownAs_of_read read, Text.Form.number_hex rfl rfl rfl rfl,
    Text.Form.lay_zeroFilled room (Text.upperHex_ne_nil v) (Text.length_upperHex small),
    Text.pad_upperHex small]

/-- An operand is shown by its digits. -/
theorem shownAs_operand (o : Operand) (w : Opcode) :
    shownAs {} none o.form (o.value w) = .ok (o.cells.map (Cell.shown w)) := by
  have single (d : Nibble) : shownAs {} none ['X'] d.val = .ok [Text.hexDigit d.val] := by
    rw [shownAs_plain d.isLt, Text.hexDigits_one d.isLt]
  cases o with
  | x => exact single _
  | y => exact single _
  | n => exact single _
  | nn =>
      have value : Operand.nn.value w = 16 * (Opcode.y w).val + (Opcode.n w).val :=
        Opcode.toNat_nn w
      have small : Operand.nn.value w < Nat.pow 16 2 := (Opcode.nn w).isLt
      rw [Operand.form, shownAs_zeroFilled (by rfl) (by rfl) small, value,
        Text.hexDigits_append (Opcode.n w).isLt, Text.hexDigits_one (Opcode.y w).isLt]
      rfl
  | nnn =>
      have value : Operand.nnn.value w =
          16 * (16 * (Opcode.x w).val + (Opcode.y w).val) + (Opcode.n w).val := by
        rw [Operand.value, Opcode.nnn_eq]
        omega
      have small : Operand.nnn.value w < Nat.pow 16 3 := Nat.mod_lt _ (by decide)
      rw [Operand.form, shownAs_zeroFilled (by rfl) (by rfl) small, value,
        Text.hexDigits_append (Opcode.n w).isLt, Text.hexDigits_append (Opcode.y w).isLt,
        Text.hexDigits_one (Opcode.x w).isLt]
      rfl

theorem render_of_cells {p : Piece} {cells : List Cell} (known : p.cells? = some cells)
    (expand : List Char → Except TemplateError (List Char)) (w : Opcode) :
    p.render {} expand w = .ok (cells.map (Cell.shown w)) := by
  cases p with
  | char c =>
      cases known
      rfl
  | flaw e => cases known
  | field f =>
      rw [Piece.cells?] at known
      split at known
      · rename_i o unconverted named
        split at known
        · rename_i form
          cases known
          have hex : f.form ∈ hexForms := by
            rw [form]
            cases o <;> decide
          rw [render_of_hex unconverted named hex, form, shownAs_operand]
          rfl
        · cases known
      · cases known

/-- The pieces of a template are written one after another. -/
theorem mapM_render {ps : List Piece} {cells : List (List Cell)}
    (known : ps.mapM Piece.cells? = some cells)
    (expand : List Char → Except TemplateError (List Char)) (w : Opcode) :
    ps.mapM (Piece.render {} expand w) = .ok (cells.map (List.map (Cell.shown w))) := by
  induction ps generalizing cells with
  | nil =>
      cases known
      rfl
  | cons p ps ih =>
      simp only [List.mapM_cons, Option.bind_eq_bind, Option.bind_eq_some_iff, Option.pure_def,
        Option.some.injEq] at known
      obtain ⟨first, here, rest, later, rfl⟩ := known
      rw [List.mapM_cons, render_of_cells here, ih later]
      rfl

/-- What is written for an opcode is the layout of the template with the digits of the opcode. -/
theorem render_of_layout {text : String} {cells : List Cell} (known : layout? text = some cells)
    (w : Opcode) : render text w = .ok (String.ofList (cells.map (Cell.shown w))) := by
  obtain ⟨each, found, rfl⟩ := Option.map_eq_some_iff.1 known
  rw [render, depth, fill, mapM_render found, List.map_flatten]
  rfl

end Template

end Chip8
