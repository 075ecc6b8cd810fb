/-
# Chip8.Proofs.Registration — which rows a table takes

A row is added to a table unless one of its rows stands for the same opcodes
(`clash?_eq_none_iff`). Rows that are added together are added one by one, so a row that is refused
leaves those before it in the table and keeps those behind it out. `registerAll_cases` says so for
every table and every list of rows: either all rows can be added (`Addable`), or there is a first
one that cannot.

`Addition` lists the two ways to add rows to a table, and a run of them keeps the rows of a table
apart, whatever fails in between (`apart_run`).
-/
import Chip8.Proofs.Calls
import Chip8.Proofs.Matching

namespace Chip8

set_option autoImplicit false

namespace InstructionSet

def Apart (table : InstructionSet) : Prop := table.Pairwise fun a b => ¬a.SameOpcodes b

/-- The rows stand for other opcodes than each other and than the rows of the table. -/
def Addable (table : InstructionSet) (rows : List Instruction) : Prop :=
  Apart rows ∧ ∀ old ∈ table, ∀ row ∈ rows, ¬old.SameOpcodes row

/-- The rows begin with some that can be added, and the next one cannot. -/
def AddableUpTo (table : InstructionSet) (rows before : List Instruction) : Prop :=
  ∃ row rest, rows = before ++ row :: rest ∧ Addable table before ∧
    ∃ old ∈ table ++ before, old.SameOpcodes row

variable {table : InstructionSet} {rows : List Instruction} {row : Instruction}

/-! ## One row -/

theorem clash?_eq_none_iff :
    table.clash? row = none ↔ ∀ old ∈ table, ¬old.SameOpcodes row := by
  simp only [clash?, List.find?_eq_none, Bool.and_eq_true, beq_iff_eq, Instruction.sameOpcodes_iff]

theorem register_of_addable (fresh : ∀ old ∈ table, ¬old.SameOpcodes row) :
    table.register row = .ok (table ++ [row]) := by
  rw [register, clash?_eq_none_iff.2 fresh]

theorem register_of_clash (clash : ∃ old ∈ table, old.SameOpcodes row) :
    ∃ reason, table.register row = .error reason := by
  unfold register
  cases found : table.clash? row with
  | some old => exact ⟨_, rfl⟩
  | none =>
      obtain ⟨old, inside, same⟩ := clash
      exact absurd same (clash?_eq_none_iff.1 found old inside)

/-! ## Rows one by one -/

theorem addable_nil : Addable table [] := ⟨.nil, nofun⟩

theorem addable_cons :
    Addable table (row :: rows) ↔
      (∀ old ∈ table, ¬old.SameOpcodes row) ∧ Addable (table ++ [row]) rows := by
  simp only [Addable, Apart, List.pairwise_cons, List.mem_append, List.mem_cons,
    List.not_mem_nil, or_false, or_imp, forall_and, forall_eq]
  constructor
  · rintro ⟨⟨later, apart⟩, first, rest⟩
    exact ⟨first, apart, rest, later⟩
  · rintro ⟨first, apart, rest, later⟩
    exact ⟨⟨later, apart⟩, first, rest⟩

/-- All rows are added, or those before the first that cannot be added. -/
theorem registerAll_cases (table : InstructionSet) (rows : List Instruction) :
    (Addable table rows ∧ table.registerAll rows = (.ok (), table ++ rows)) ∨
      ∃ before reason, AddableUpTo table rows before ∧
        table.registerAll rows = (.error reason, table ++ before) := by
  induction rows generalizing table with
  | nil => exact .inl ⟨addable_nil, by rw [registerAll, List.append_nil]⟩
  | cons row rows ih =>
      by_cases fresh : ∀ old ∈ table, ¬old.SameOpcodes row
      · rw [registerAll, register_of_addable fresh]
        rcases ih (table ++ [row]) with ⟨addable, added⟩ | ⟨before, reason, upTo, added⟩
        · exact .inl ⟨addable_cons.2 ⟨fresh, addable⟩, by simpa using added⟩
        · obtain ⟨next, rest, rfl, addable, clash⟩ := upTo
          refine .inr ⟨row :: before, reason, ⟨next, rest, rfl, ?_, ?_⟩, by simpa using added⟩
          · exact addable_cons.2 ⟨fresh, addable⟩
          · simpa using clash
      · have clash : ∃ old ∈ table, old.SameOpcodes row := by simpa using fresh
        obtain ⟨reason, refused⟩ := register_of_clash clash
        rw [registerAll, refused]
        exact .inr ⟨[], reason, ⟨row, rows, rfl, addable_nil, by simpa using clash⟩, by simp⟩

/-- Rows of which one cannot be added cannot be added together. -/
theorem not_addable_of_upTo {before : List Instruction} (upTo : AddableUpTo table rows before) :
    ¬Addable table rows := by
  obtain ⟨row, rest, rfl, -, old, inside, same⟩ := upTo
  rintro ⟨apart, fresh⟩
  rcases List.mem_append.1 inside with inTable | inBefore
  · exact fresh old inTable row (by simp) same
  · exact (List.pairwise_append.1 apart).2.2 old inBefore row List.mem_cons_self same

/-- Rows that can be added keep the rows of a table apart. -/
theorem Apart.append (apart : Apart table) (addable : Addable table rows) :
    Apart (table ++ rows) :=
  List.pairwise_append.2 ⟨apart, addable.1, addable.2⟩

/-- A table is made of rows that are apart, and of no others. -/
theorem build_eq_ok_iff (rows table : List Instruction) :
    build rows = .ok table ↔ Apart rows ∧ table = rows := by
  have all : Addable [] rows ↔ Apart rows := and_iff_left nofun
  unfold build
  rcases registerAll_cases [] rows with ⟨addable, added⟩ | ⟨before, reason, upTo, added⟩
  · rw [added]
    simp [all.1 addable, eq_comm]
  · rw [added]
    have doubled := not_addable_of_upTo upTo
    rw [all] at doubled
    simp [doubled]

end InstructionSet

/-! ## Additions -/

inductive Addition where
  | one (row : Instruction)
  | all (rows : List Instruction)

def Work.registerAll : List Instruction → Work Unit
  | [] => pure ()
  | row :: rest => do
      Work.register row
      Work.registerAll rest

def Bench.retable (b : Bench) (table : InstructionSet) : Bench := { b with table }

namespace Work

theorem on_registerAll (rows : List Instruction) (b : Bench) :
    (registerAll rows).on b =
      ((b.table.registerAll rows).1.mapError (.failure ∘ .refusal),
        b.retable (b.table.registerAll rows).2) := by
  induction rows generalizing b with
  | nil => rfl
  | cons row rest ih =>
      have first := on_register b row
      rw [registerAll, InstructionSet.registerAll]
      cases added : b.table.register row with
      | error reason =>
          rw [added] at first
          exact on_bind_of_error first
      | ok table =>
          rw [added] at first
          exact (on_bind_of_ok first).trans (ih (b.retable table))

end Work

namespace Addition

open InstructionSet

def rows : Addition → List Instruction
  | .one row => [row]
  | .all rows => rows

def perform : Addition → Work Unit
  | .one row => Work.register row
  | .all rows => Work.registerAll rows

/-- The bench after some additions. What an addition leaves is kept also when it fails. -/
def run (b : Bench) (additions : List Addition) : Bench :=
  additions.foldl (fun b addition => (addition.perform.on b).2) b

/-- One row is added as a list of one row is. -/
theorem perform_eq (addition : Addition) : addition.perform = Work.registerAll addition.rows := by
  cases addition with
  | one row => exact (bind_pure_unit (m := Work)).symm
  | all rows => rfl

/-- An addition adds all its rows, or fails and adds those before the first that it cannot add. -/
theorem on_perform (addition : Addition) (b : Bench) :
    (Addable b.table addition.rows ∧
        addition.perform.on b = (.ok (), b.retable (b.table ++ addition.rows))) ∨
      ∃ before e, AddableUpTo b.table addition.rows before ∧
        addition.perform.on b = (.error e, b.retable (b.table ++ before)) := by
  rw [perform_eq, Work.on_registerAll]
  rcases registerAll_cases b.table addition.rows with
    ⟨addable, added⟩ | ⟨before, reason, upTo, added⟩
  · rw [added]
    exact .inl ⟨addable, rfl⟩
  · rw [added]
    exact .inr ⟨before, _, upTo, rfl⟩

/-- What an addition that fails leaves. -/
theorem upTo_of_failed {addition : Addition} {b : Bench} {e : Trouble}
    (failed : (addition.perform.on b).1 = .error e) :
    ∃ before, AddableUpTo b.table addition.rows before ∧
      (addition.perform.on b).2 = b.retable (b.table ++ before) := by
  rcases on_perform addition b with ⟨-, done⟩ | ⟨before, _, upTo, done⟩
  · rw [done] at failed
    cases failed
  · rw [done]
    exact ⟨before, upTo, rfl⟩

/-- Of a single row there is nothing before the first that cannot be added. -/
theorem upTo_one {table : InstructionSet} {row : Instruction} {before : List Instruction}
    (upTo : AddableUpTo table (one row).rows before) :
    before = [] ∧ ∃ old ∈ table, old.SameOpcodes row := by
  obtain ⟨next, rest, split, -, clash⟩ := upTo
  cases before with
  | nil =>
      cases split
      rw [List.append_nil] at clash
      exact ⟨rfl, clash⟩
  | cons first before => simp [rows] at split

/-- An addition keeps the rows of the table apart, also when it fails. -/
theorem apart_perform {b : Bench} (apart : Apart b.table) (addition : Addition) :
    Apart (addition.perform.on b).2.table := by
  rcases on_perform addition b with ⟨addable, done⟩ | ⟨before, _, ⟨_, _, -, addable, -⟩, done⟩
  · rw [done]
    exact apart.append addable
  · rw [done]
    exact apart.append addable

theorem apart_run {b : Bench} (apart : Apart b.table) (additions : List Addition) :
    Apart (run b additions).table := by
  induction additions generalizing b with
  | nil => exact apart
  | cons addition rest ih => exact ih (apart_perform apart addition)

/-- What a table takes. A row of two words is accepted exactly if some number matches it, and then
it stands for the numbers that match. Two rows stand for the same opcodes exactly if they have the
same mask and the same pattern. A table is built of rows no two of which stand for the same opcodes,
in their order, and of no others. However rows are added to an empty table, its rows stay apart. A
row is refused exactly if a row of the table stands for its opcodes, and leaves the table as it was;
and of rows of which one is refused those before the first that clashes stay in the table. -/
theorem table_of_additions :
    (∀ (mask pattern : Int) (mnemonic handler : String),
      0 ≤ mask → mask ≤ 0xFFFF → 0 ≤ pattern → pattern ≤ 0xFFFF →
        ((∃ row, Instruction.create mask pattern mnemonic handler = .ok row) ↔
          ∃ z, Instruction.Matches mask pattern z) ∧
        ∀ row, Instruction.create mask pattern mnemonic handler = .ok row →
          ∀ z : Int, row.accepts (.ofInt z) = true ↔ Instruction.Matches mask pattern z) ∧
    (∀ a b : Instruction, a.SameOpcodes b ↔ a.mask = b.mask ∧ a.pattern = b.pattern) ∧
    (∀ rows table, build rows = .ok table ↔ Apart rows ∧ table = rows) ∧
    (∀ (machine : Machine) (additions : List Addition),
      Apart (run { machine, table := [] } additions).table) ∧
    (∀ (b : Bench) (row : Instruction),
      ((∃ e, ((one row).perform.on b).1 = .error e) ↔ ∃ old ∈ b.table, old.SameOpcodes row) ∧
        ∀ e, ((one row).perform.on b).1 = .error e → ((one row).perform.on b).2 = b) ∧
    ∀ (b : Bench) (rows : List Instruction) (e : Trouble),
      ((all rows).perform.on b).1 = .error e →
        ∃ before, AddableUpTo b.table rows before ∧
          ((all rows).perform.on b).2 = b.retable (b.table ++ before) := by
  refine ⟨?_, Instruction.sameOpcodes_iff, build_eq_ok_iff, ?_, ?_, ?_⟩
  · intro mask pattern mnemonic handler maskNonneg maskSmall patternNonneg patternSmall
    refine ⟨Instruction.create_isOk_iff maskNonneg maskSmall patternNonneg patternSmall _ _, ?_⟩
    intro row made z
    obtain ⟨rfl, rfl, -, -⟩ := Instruction.create_eq_ok made
    exact Instruction.accepts_ofInt_iff row z
  · exact fun machine additions => apart_run (b := { machine, table := [] }) .nil additions
  · intro b row
    refine ⟨⟨?_, ?_⟩, ?_⟩
    · rintro ⟨e, failed⟩
      obtain ⟨before, upTo, -⟩ := upTo_of_failed failed
      exact (upTo_one upTo).2
    · rintro ⟨old, inside, same⟩
      rcases on_perform (one row) b with ⟨addable, -⟩ | ⟨before, e, -, done⟩
      · exact absurd same (addable.2 old inside row List.mem_cons_self)
      · exact ⟨e, by rw [done]⟩
    · intro e failed
      obtain ⟨before, upTo, left⟩ := upTo_of_failed failed
      rw [left, (upTo_one upTo).1, List.append_nil]
      rfl
  · exact fun b rows e failed => upTo_of_failed failed

/-- Four rows for an empty table, of which the third stands for the opcodes of the first. -/
theorem table_of_additions_with_a_double :
    let jump : Instruction := ⟨0xF000, 0x1000, "JP", "op_jp", by decide⟩
    let clear : Instruction := ⟨0xFFFF, 0x00E0, "CLS", "op_cls", by decide⟩
    let again : Instruction := ⟨0xF000, 0x1000, "GOTO", "op_sys", by decide⟩
    let ret : Instruction := ⟨0xFFFF, 0x00EE, "RET", "op_ret", by decide⟩
    let b : Bench := { machine := .standard, table := [] }
    let rows := [jump, clear, again, ret]
    Instruction.create 0xF000 0x1000 "JP" "op_jp" = .ok jump ∧
      (∀ z : Int, jump.accepts (.ofInt z) = true ↔ Instruction.Matches 0xF000 0x1000 z) ∧
      (∃ e, ((all rows).perform.on b).1 = .error e) ∧
      ((all rows).perform.on b).2.table = [jump, clear] ∧
      (∃ before, AddableUpTo [] rows before ∧ ((all rows).perform.on b).2 = b.retable before) ∧
      Apart (run b [all rows, one ret, one clear]).table := by
  intro jump clear again ret b rows
  obtain ⟨accepted, -, -, apart, -, left⟩ := table_of_additions
  have made : Instruction.create 0xF000 0x1000 "JP" "op_jp" = .ok jump := by rfl
  have matched := (accepted 0xF000 0x1000 "JP" "op_jp" (by decide) (by decide) (by decide)
    (by decide)).2 jump made
  have failed : ((all rows).perform.on b).1 =
      .error (.failure (.refusal (.patternTaken 0x1000 "JP"))) := by rfl
  exact ⟨made, matched, ⟨_, failed⟩, rfl, left b rows _ failed, apart .standard _⟩

end Addition

end Chip8
