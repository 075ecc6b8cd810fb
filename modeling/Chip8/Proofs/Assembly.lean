/-
# Chip8.Proofs.Assembly — standard instructions can be written as text

A template can go wrong in many ways, and then an instruction that is logged fails before it
is executed. The templates of the standard rows hold only characters and operands in
hexadecimal forms (`plain_standard`), and such a template is filled for every opcode
(`format_of_plain`).
-/
import Chip8.InstructionSet

namespace Chip8

set_option autoImplicit false

namespace Template

/-- The forms of the standard templates: hexadecimal digits, at least one, two or three. -/
def hexForms : List (List Char) := [['X'], ['0', '2', 'X'], ['0', '3', 'X']]

/-- A character, or an operand in a hexadecimal form. -/
def Piece.plain : Piece → Bool
  | .char _ => true
  | .flaw _ => false
  | .field f =>
      f.conversion.isNone && (Operand.ofName? f.name).isSome && hexForms.contains f.form

def plain (text : String) : Bool := (pieces none text.toList).all Piece.plain

/-- A hexadecimal form shows every number. -/
theorem shownAs_hex {form : List Char} (hex : form ∈ hexForms) (v : Nat) :
    ∃ shown, shownAs {} none form v = .ok shown := by
  simp only [hexForms, List.mem_cons, List.not_mem_nil, or_false] at hex
  rcases hex with rfl | rfl | rfl
  · exact ⟨_, rfl⟩
  · exact ⟨_, rfl⟩
  · exact ⟨_, rfl⟩

/-- An operand that is named has a value in every opcode. -/
theorem value_of_named {f : Field} {o : Operand} (named : Operand.ofName? f.name = some o)
    (w : Opcode) : f.value w = .ok (o.value w) := by
  obtain ⟨name, conversion, form⟩ := f
  simp only at named
  unfold Operand.ofName? at named
  split at named <;> cases named <;> rfl

/-- An operand in a hexadecimal form is written as that form shows its value. -/
theorem render_of_hex {f : Field} {o : Operand} (unconverted : f.conversion = none)
    (named : Operand.ofName? f.name = some o) (hex : f.form ∈ hexForms)
    (expand : List Char → Except TemplateError (List Char)) (w : Opcode) :
    (Piece.field f).render {} expand w =
      (shownAs {} none f.form (o.value w)).mapError TemplateError.form := by
  have flat : f.form.contains '\x7b' = false := by
    revert hex
    generalize f.form = form
    revert form
    decide
  rw [Piece.render, value_of_named named w, unconverted, flat]
  rfl

theorem render_of_plain {p : Piece} (ok : p.plain = true)
    (expand : List Char → Except TemplateError (List Char)) (w : Opcode) :
    ∃ shown, p.render {} expand w = .ok shown := by
  cases p with
  | char c => exact ⟨[c], rfl⟩
  | flaw e => cases ok
  | field f =>
      simp only [Piece.plain, Bool.and_eq_true, Option.isNone_iff_eq_none, Option.isSome_iff_exists,
        List.contains_iff_mem] at ok
      obtain ⟨⟨unconverted, o, named⟩, hex⟩ := ok
      obtain ⟨shown, written⟩ := shownAs_hex hex (o.value w)
      refine ⟨shown, ?_⟩
      rw [render_of_hex unconverted named hex, written]
      rfl

/-- Pieces that can all be filled make a text. -/
theorem mapM_of_forall_ok {f : Piece → Except TemplateError (List Char)} {ps : List Piece}
    (each : ∀ p ∈ ps, ∃ shown, f p = .ok shown) : ∃ texts, ps.mapM f = .ok texts := by
  induction ps with
  | nil => exact ⟨[], rfl⟩
  | cons p ps ih =>
      obtain ⟨shown, here⟩ := each p List.mem_cons_self
      obtain ⟨texts, rest⟩ := ih fun q inside => each q (List.mem_cons_of_mem p inside)
      exact ⟨shown :: texts, by rw [List.mapM_cons, here, rest]; rfl⟩

theorem render_plain {text : String} (ok : plain text = true) (w : Opcode) :
    ∃ shown, render text w = .ok shown := by
  have each : ∀ p ∈ pieces none text.toList, ∃ shown, p.render {} (fill {} 1 w) w = .ok shown :=
    fun p inside => render_of_plain (List.all_eq_true.1 ok p inside) (fill {} 1 w) w
  obtain ⟨texts, filled⟩ := mapM_of_forall_ok each
  refine ⟨String.ofList texts.flatten, ?_⟩
  rw [render, depth, fill, filled]
  rfl

end Template

/-- A row with a plain template can be written as text for every opcode. -/
theorem Instruction.format_of_plain {row : Instruction}
    (ok : Template.plain row.mnemonic = true) (w : Opcode) :
    ∃ text, row.format w = .ok text := by
  obtain ⟨shown, rendered⟩ := Template.render_plain ok w
  exact ⟨shown, by rw [Instruction.format, rendered]; rfl⟩

/-- The standard templates are plain. -/
theorem InstructionSet.plain_standard {row : Instruction} (inside : row ∈ standard) :
    Template.plain row.mnemonic = true := by
  have all : standard.all (fun row => Template.plain row.mnemonic) = true := by decide +kernel
  exact List.all_eq_true.1 all row inside

namespace InstructionSet

def text (w : Opcode) (table : InstructionSet := .standard) (limits : Limits := {}) : String :=
  match table.disassemble w limits with
  | .ok text => text
  | .error _ => ""

/-- A table that has an assembler text for every opcode. -/
def Readable (table : InstructionSet) (limits : Limits := {}) : Prop :=
  ∀ w, ∃ text, table.disassemble w limits = .ok text

theorem Readable.disassemble {table : InstructionSet} {limits : Limits}
    (readable : table.Readable limits) (w : Opcode) :
    table.disassemble w limits = .ok (text w table limits) := by
  obtain ⟨shown, eq⟩ := readable w
  rw [text, eq]

/-- A row that decodes an opcode of a readable table can be written as text for it. -/
theorem Readable.format {table : InstructionSet} {limits : Limits}
    (readable : table.Readable limits) {w : Opcode} {row : Instruction}
    (found : table.decode w = some row) : ∃ text, row.format w limits = .ok text := by
  have shown := readable w
  rwa [InstructionSet.disassemble, found] at shown

/-- A table of plain templates is readable. -/
theorem readable_of_plain {table : InstructionSet}
    (ok : ∀ row ∈ table, Template.plain row.mnemonic = true) : table.Readable := by
  intro w
  unfold InstructionSet.disassemble
  cases found : table.decode w with
  | none => exact ⟨_, rfl⟩
  | some row => exact Instruction.format_of_plain (ok row (List.mem_of_find?_eq_some found)) w

theorem readable_standard : standard.Readable :=
  readable_of_plain fun _ inside => plain_standard inside

/-- Every opcode has an assembler text. -/
theorem disassemble_standard (w : Opcode) : standard.disassemble w = .ok (text w) :=
  readable_standard.disassemble w

end InstructionSet

end Chip8
