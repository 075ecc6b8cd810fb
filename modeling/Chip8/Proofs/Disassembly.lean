/-
# Chip8.Proofs.Disassembly — the assembler text tells the opcode

The text of an opcode is the layout of its row with the digits of the opcode filled in, and an
opcode without a row is written as a data word. A table is `Legible` if two of its layouts always
show different texts, and if each layout shows every digit of the opcode that its row leaves free.
Then the text tells the row, and the row with the text tells the opcode (`eq_of_disassemble_eq`).

The standard table is legible, which is a matter of its 35 layouts and not of the opcodes
(`legible_standard`).
-/
import Chip8.Proofs.Decoding
import Chip8.Proofs.Layout

namespace Chip8

set_option autoImplicit false

/-- Numbers with the same lowest 16 bits stand for the same opcode. -/
theorem Opcode.ofInt_eq_ofInt_iff (a b : Int) : ofInt a = ofInt b ↔ a % 65536 = b % 65536 := by
  rw [← BitVec.toNat_inj, ofInt, ofInt, BitVec.toNat_ofInt, BitVec.toNat_ofInt]
  omega

namespace Template

/-! ## Layouts that differ -/

def showsDigit (c : Char) : Bool := (List.range 16).any fun d => c == Text.hexDigit d

/-- Two cells never show the same character. -/
def Cell.differs : Cell → Cell → Bool
  | .char c, .char d => c != d
  | .char c, .digit _ => !showsDigit c
  | .digit _, .char d => !showsDigit d
  | .digit _, .digit _ => false

/-- Two layouts never show the same text: they differ in length or in some cell. -/
def differ : List Cell → List Cell → Bool
  | [], [] => false
  | c :: a, d :: b => c.differs d || differ a b
  | _, _ => true

theorem showsDigit_hexDigit (d : Nibble) : showsDigit (Text.hexDigit d.val) = true := by
  revert d
  decide

variable (v w : Opcode)

theorem shown_ne_of_differs {c d : Cell} (apart : c.differs d = true) : c.shown v ≠ d.shown w := by
  have free {c : Char} (other : (!showsDigit c) = true) (k : Nibble) : c ≠ Text.hexDigit k.val := by
    rintro rfl
    rw [showsDigit_hexDigit] at other
    cases other
  cases c with
  | char c =>
      cases d with
      | char d => exact bne_iff_ne.1 apart
      | digit k => exact free apart _
  | digit j =>
      cases d with
      | char d => exact (free apart _).symm
      | digit k => cases apart

/-- Layouts that differ never show the same text. -/
theorem map_shown_ne_of_differ {a b : List Cell} (apart : differ a b = true) :
    a.map (Cell.shown v) ≠ b.map (Cell.shown w) := by
  induction a, b using differ.induct with
  | case1 => cases apart
  | case2 c a d b ih =>
      rw [differ, Bool.or_eq_true] at apart
      rw [List.map_cons, List.map_cons, ne_eq, List.cons.injEq]
      rintro ⟨first, rest⟩
      exact apart.elim (fun here => shown_ne_of_differs v w here first) fun later => ih later rest
  | case3 a b empty both =>
      -- one of the layouts ends before the other
      intro same
      cases a with
      | nil =>
          cases b with
          | nil => exact empty rfl rfl
          | cons d b => cases same
      | cons c a =>
          cases b with
          | nil => cases same
          | cons d b => exact both _ _ _ _ rfl rfl

end Template

open Template

def Instruction.cells (row : Instruction) : List Cell := (layout? row.mnemonic).getD []

def dataCells : List Cell :=
  [.char 'D', .char 'W', .char ' ', .digit 3, .digit 2, .digit 1, .digit 0]

namespace InstructionSet

/-- The text of an opcode can be read back. -/
structure Legible (table : InstructionSet) : Prop where
  laidOut : ∀ row ∈ table, (layout? row.mnemonic).isSome = true
  /-- A digit that the row does not fix is shown. -/
  complete : ∀ row ∈ table, ∀ k < 4,
    (Opcode.digit row.mask k).val = 15 ∨ Cell.digit k ∈ row.cells
  data : ∀ row ∈ table, differ dataCells row.cells = true
  apart : table.Pairwise fun a b => differ a.cells b.cells = true

/-! ## Texts -/

/-- A data word is written with all its digits. -/
theorem upperHex_word (w : Opcode) :
    "DW " ++ Text.upperHex 4 w.toNat = String.ofList (dataCells.map (Cell.shown w)) := by
  have value : w.toNat =
      16 * (16 * (16 * (Opcode.kind w).val + (Opcode.x w).val) + (Opcode.y w).val) +
        (Opcode.n w).val := by
    rw [Opcode.toNat_eq, Opcode.nnn_eq]
    omega
  have small : w.toNat < Nat.pow 16 4 := w.isLt
  rw [Text.upperHex_eq small, value, Text.hexDigits_append (Opcode.n w).isLt,
    Text.hexDigits_append (Opcode.y w).isLt, Text.hexDigits_append (Opcode.x w).isLt,
    Text.hexDigits_one (Opcode.kind w).isLt]
  have front : "DW " = String.ofList ['D', 'W', ' '] := by rfl
  rw [front, ← String.ofList_append]
  rfl

variable {table : InstructionSet} {v w : Opcode}

/-- The row of an opcode is in the table and accepts the opcode. -/
theorem mem_and_accepts_of_decode {row : Instruction} (decoded : table.decode w = some row) :
    row ∈ table ∧ row.accepts w = true := by
  unfold decode at decoded
  exact ⟨List.mem_of_find?_eq_some decoded, by simpa using List.find?_some decoded⟩

def cellsOf (table : InstructionSet) (w : Opcode) : List Cell :=
  match table.decode w with
  | some row => row.cells
  | none => dataCells

theorem disassemble_eq (legible : table.Legible) (w : Opcode) :
    table.disassemble w = .ok (String.ofList ((table.cellsOf w).map (Cell.shown w))) := by
  unfold disassemble cellsOf
  cases decoded : table.decode w with
  | none => exact congrArg Except.ok (upperHex_word w)
  | some row =>
      obtain ⟨inside, -⟩ := mem_and_accepts_of_decode decoded
      obtain ⟨cells, found⟩ := Option.isSome_iff_exists.1 (legible.laidOut row inside)
      have same : row.cells = cells := by rw [Instruction.cells, found, Option.getD_some]
      show row.format w = .ok (String.ofList (row.cells.map (Cell.shown w)))
      rw [same, Instruction.format, render_of_layout found]
      rfl

/-- A row that fixes or shows every digit tells the opcode. -/
theorem eq_of_shown_eq {row : Instruction}
    (complete : ∀ k < 4, (Opcode.digit row.mask k).val = 15 ∨ Cell.digit k ∈ row.cells)
    (first : row.accepts v = true) (second : row.accepts w = true)
    (same : row.cells.map (Cell.shown v) = row.cells.map (Cell.shown w)) : v = w := by
  have fixed {u : Opcode} (accepted : row.accepts u = true) {k : Nat}
      (whole : (Opcode.digit row.mask k).val = 15) :
      (Opcode.digit u k).val = (Opcode.digit row.pattern k).val := by
    have masked := Opcode.val_digit_and u row.mask k
    have all : (Opcode.digit u k).val &&& 15 = (Opcode.digit u k).val :=
      Nat.and_two_pow_sub_one_of_lt_two_pow (n := 4) (Opcode.digit u k).isLt
    rw [beq_iff_eq.1 accepted, whole, all] at masked
    exact masked.symm
  have digit (k : Nat) (few : k < 4) : (Opcode.digit v k).val = (Opcode.digit w k).val := by
    rcases complete k few with whole | shown
    · rw [fixed first whole, fixed second whole]
    · exact congrArg Fin.val (Text.hexDigit_inj (List.map_inj_left.1 same _ shown))
  exact (Opcode.eq_iff v w).2
    ⟨digit 3 (by decide), digit 2 (by decide), digit 1 (by decide), digit 0 (by decide)⟩

/-- The text of a row belongs to no other row. -/
theorem row_eq_of_shown_eq (legible : table.Legible) {a b : Instruction} (inside : a ∈ table)
    (inside' : b ∈ table) (same : a.cells.map (Cell.shown v) = b.cells.map (Cell.shown w)) :
    a = b := by
  refine List.Pairwise.forall_of_forall_of_flip
    (R := fun a b => ∀ v w : Opcode,
      a.cells.map (Cell.shown v) = b.cells.map (Cell.shown w) → a = b)
    (fun _ _ _ _ _ => rfl) ?_ ?_ inside inside' v w same
  · exact legible.apart.imp fun apart v w same => absurd same (map_shown_ne_of_differ v w apart)
  · exact legible.apart.imp fun apart v w same =>
      absurd same.symm (map_shown_ne_of_differ w v apart)

theorem eq_of_dataCells_eq (same : dataCells.map (Cell.shown v) = dataCells.map (Cell.shown w)) :
    v = w := by
  have digit {k : Nat} (shown : Cell.digit k ∈ dataCells) :
      (Opcode.digit v k).val = (Opcode.digit w k).val :=
    congrArg Fin.val (Text.hexDigit_inj (List.map_inj_left.1 same _ shown))
  exact (Opcode.eq_iff v w).2
    ⟨digit (by decide), digit (by decide), digit (by decide), digit (by decide)⟩

/-- In a legible table a text belongs to one opcode. -/
theorem eq_of_disassemble_eq (legible : table.Legible)
    (same : table.disassemble v = table.disassemble w) : v = w := by
  rw [disassemble_eq legible, disassemble_eq legible] at same
  have texts := String.ofList_injective (Except.ok.inj same)
  have data_ne {row : Instruction} {u : Opcode} (decoded : table.decode u = some row)
      (v w : Opcode) : dataCells.map (Cell.shown v) ≠ row.cells.map (Cell.shown w) :=
    map_shown_ne_of_differ v w (legible.data row (mem_and_accepts_of_decode decoded).1)
  unfold cellsOf at texts
  cases first : table.decode v with
  | none =>
      cases second : table.decode w with
      | none =>
          rw [first, second] at texts
          exact eq_of_dataCells_eq texts
      | some b =>
          rw [first, second] at texts
          exact absurd texts (data_ne second v w)
  | some a =>
      cases second : table.decode w with
      | none =>
          rw [first, second] at texts
          exact absurd texts.symm (data_ne first w v)
      | some b =>
          rw [first, second] at texts
          obtain ⟨inside, accepted⟩ := mem_and_accepts_of_decode first
          obtain ⟨inside', accepted'⟩ := mem_and_accepts_of_decode second
          obtain rfl := row_eq_of_shown_eq legible inside inside' texts
          exact eq_of_shown_eq (legible.complete a inside) accepted accepted' texts

/-- The standard layouts show what their rows leave free, and no two of them show the same text. -/
theorem legible_standard : standard.Legible where
  laidOut := by decide +kernel
  complete := by decide +kernel
  data := by decide +kernel
  apart := by decide +kernel

/-- Every number has a text in the standard table, which is also what a step logs, and two numbers
have the same text exactly if they stand for the same opcode. -/
theorem disassemble_eq_iff (a b : Int) :
    (∃ text, standard.disassemble (.ofInt a) = .ok text) ∧
      (∀ row, standard.decode (.ofInt a) = some row →
        row.format (.ofInt a) = standard.disassemble (.ofInt a)) ∧
      (standard.disassemble (.ofInt a) = standard.disassemble (.ofInt b) ↔
        a % 65536 = b % 65536) := by
  refine ⟨⟨_, disassemble_eq legible_standard _⟩, fun row decoded => ?_, ?_⟩
  · rw [disassemble, decoded]
  · rw [← Opcode.ofInt_eq_ofInt_iff]
    exact ⟨eq_of_disassemble_eq legible_standard, fun same => by rw [same]⟩

end InstructionSet

end Chip8
