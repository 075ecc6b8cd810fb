/-
# Chip8.Proofs.Gate — which categories are logged, whatever was set and asked before

The first question after a reset reads the variable, and later ones are answered from what was read
then. So the answers depend on a whole history of settings, questions and resets, but only through
one value: what the variable was at the first question after the last reset (`Gate.decisive`), and
of that value only on the set of its names (`names`). A filter that was read and holds no names is
not a filter that was not read, so a history has three parts: the acts up to the last reset, which
leave nothing cached, acts that do not ask, and a question with what follows it, which leave cached
what the question has read (`Gate.filter_after`).

`Gate.answers_of_history` is the law. A message that is logged is printed as one line, unless it is
refused: then nothing is printed, although the category is logged.
-/
import Mathlib.Data.List.DropRight
import Mathlib.Data.List.Forall2
import Mathlib.Data.Set.Basic
import Mathlib.Logic.Relation
import Chip8.Log
import Chip8.Proofs.Messages
import Chip8.Proofs.Transcript
import Chip8.Proofs.Trimming

namespace Chip8.Log

set_option autoImplicit false

/-! ## The names in a value -/

/-- The parts of a value between its commas. A variable that is not set has none. -/
def parts : Option String → List String
  | none => []
  | some value => (value.toList.splitOn ',').map String.ofList

def name (part : String) : String := Text.lowercase (String.ofList (Text.trim part.toList))

/-- The names that some parts give; an empty one is none. -/
def names (parts : List String) : Set String := {x | x ≠ "" ∧ ∃ part ∈ parts, name part = x}

def Admits (chosen : Set String) (category : Option String) : Prop :=
  chosen.Nonempty ∧
    (category = none ∨ "all" ∈ chosen ∨
      ∃ name, category = some name ∧ Text.lowercase name ∈ chosen)

theorem fields_eq_splitOn (text : List Char) : fields text = text.splitOn ',' := by
  induction text with
  | nil => rfl
  | cons c rest ih =>
      rw [List.splitOn_cons_eq_if_modifyHead, ← ih]
      by_cases comma : c = ','
      · subst comma
        rfl
      · rw [if_neg (by simpa using comma), fields.eq_3 _ _ comma]
        cases cut : fields rest with
        | nil =>
            rw [ih] at cut
            exact absurd cut (List.splitOn_ne_nil _ _)
        | cons field more => rfl

/-- The names in the value of the variable are the categories of its filter. -/
theorem mem_ofVariable {value : Option String} {x : String} :
    x ∈ (Filter.ofVariable value).categories ↔ x ∈ names (parts value) := by
  cases value with
  | none => simp [Filter.ofVariable, Filter.silent, names, parts]
  | some value =>
      rw [Filter.ofVariable, List.mem_filter, List.mem_map, fields_eq_splitOn, bne_iff_ne]
      constructor
      · rintro ⟨⟨part, known, rfl⟩, some⟩
        exact ⟨some, String.ofList part, List.mem_map_of_mem known, by
          rw [name, String.toList_ofList]⟩
      · rintro ⟨some, _, known, rfl⟩
        obtain ⟨part, inside, rfl⟩ := List.mem_map.1 known
        exact ⟨⟨part, inside, by rw [name, String.toList_ofList]⟩, some⟩

theorem enabled_iff {f : Filter} {chosen : Set String} (same : ∀ x, x ∈ f.categories ↔ x ∈ chosen)
    (category : Option String) : f.enabled category = true ↔ Admits chosen category := by
  unfold Filter.enabled
  split
  · rename_i empty
    refine iff_of_false Bool.false_ne_true fun ⟨⟨x, inside⟩, _⟩ => ?_
    rw [← same, List.isEmpty_iff.1 empty] at inside
    cases inside
  · rename_i some
    have some : chosen.Nonempty := by
      obtain ⟨x, inside⟩ := List.exists_mem_of_ne_nil _ fun none => some (List.isEmpty_iff.2 none)
      exact ⟨x, (same x).1 inside⟩
    split
    · rename_i all
      exact iff_of_true rfl ⟨some, .inr (.inl ((same _).1 (List.contains_iff_mem.1 all)))⟩
    · rename_i all
      rw [List.contains_iff_mem, same] at all
      cases category with
      | none => exact iff_of_true rfl ⟨some, .inl rfl⟩
      | some name =>
          rw [List.contains_iff_mem, same]
          constructor
          · exact fun inside => ⟨some, .inr (.inr ⟨name, rfl, inside⟩)⟩
          · rintro ⟨-, unnamed | every | ⟨name', given, inside⟩⟩
            · cases unnamed
            · exact absurd every all
            · cases given
              exact inside

/-- A category is logged if the value of the variable chooses it. -/
theorem enabled_ofVariable (value category : Option String) :
    (Filter.ofVariable value).enabled category = true ↔ Admits (names (parts value)) category :=
  enabled_iff (fun _ => mem_ofVariable) category

/-! ## Values with the same names -/

/-- Parts in another order, a part once more, blanks around a part, letters in another case. -/
inductive Respelling : List String → List String → Prop
  | order {first second : List String} (same : first.Perm second) : Respelling first second
  | double {part : String} {rest : List String} (again : part ∈ rest) :
      Respelling rest (part :: rest)
  | blanks {before after : List Char} (blank : ∀ c ∈ before, Text.isBlank c = true)
      (blank' : ∀ c ∈ after, Text.isBlank c = true) (part : String) (rest : List String) :
      Respelling (part :: rest) (String.ofList (before ++ (part.toList ++ after)) :: rest)
  | letters {part other : String} (same : Text.lowercase part = Text.lowercase other)
      (rest : List String) : Respelling (part :: rest) (other :: rest)

/-- Two values of the variable differ only in how their parts are spelled, ordered and
repeated. -/
def SameParts (value other : Option String) : Prop :=
  Relation.EqvGen Respelling (parts value) (parts other)

/-- The name of a part is the same in any case of its letters. -/
theorem name_congr {part other : String} (same : Text.lowercase part = Text.lowercase other) :
    name part = name other := by
  have small : Text.Lowercase.go [] part.toList = Text.Lowercase.go [] other.toList :=
    String.ofList_injective same
  simp only [name, Text.lowercase, String.toList_ofList, Text.lowercase_trim, small]

theorem names_cons_congr {part other : String} (same : name part = name other)
    (rest : List String) : names (part :: rest) = names (other :: rest) := by
  unfold names
  simp only [List.exists_mem_cons_iff, same]

theorem names_of_respelling {first second : List String} (same : Respelling first second) :
    names first = names second := by
  cases same with
  | order same =>
      unfold names
      simp only [same.mem_iff]
  | double again =>
      rename_i part
      ext x
      constructor
      · rintro ⟨some, other, known, rfl⟩
        exact ⟨some, other, List.mem_cons_of_mem _ known, rfl⟩
      · rintro ⟨some, other, known, rfl⟩
        obtain rfl | known := List.mem_cons.1 known
        · exact ⟨some, _, again, rfl⟩
        · exact ⟨some, _, known, rfl⟩
  | blanks blank blank' part rest =>
      refine names_cons_congr ?_ rest
      rw [name, name, String.toList_ofList, Text.trim_append blank blank']
  | letters same rest => exact names_cons_congr (name_congr same) rest

theorem names_of_respellings {first second : List String}
    (same : Relation.EqvGen Respelling first second) : names first = names second := by
  induction same with
  | rel first second same => exact names_of_respelling same
  | refl => rfl
  | symm first second _ ih => exact ih.symm
  | trans first second third _ _ ih ih' => exact ih.trans ih'

theorem enabled_congr {value other : Option String} (same : SameParts value other) :
    (Filter.ofVariable value).enabled = (Filter.ofVariable other).enabled := by
  funext category
  rw [Bool.eq_iff_iff, enabled_ofVariable, enabled_ofVariable, names_of_respellings same]

namespace Gate

/-! ## Histories -/

inductive Act where
  /-- The variable gets a value, or none. -/
  | assign (value : Option String)
  | reset
  | ask (category : Option String)
  | log (category message : String) (args : List Text.Argument)

inductive Answer where
  | done
  | said (yes : Bool)
  | printed (lines : Except Refusal (List String))
  deriving DecidableEq

def Act.asks : Act → Bool
  | .ask _ | .log .. => true
  | _ => false

def on (limits : Limits) (g : Gate) : Act → Answer × Gate
  | .assign value => (.done, g.setVariable value)
  | .reset => (.done, g.reset)
  | .ask category => let (yes, g) := g.enabled category; (.said yes, g)
  | .log category message args =>
      let (lines, g) := g.log category message args limits
      (.printed lines, g)

variable {limits : Limits} {g : Gate} {acts : List Act}

/-- Gates that no question can tell apart. -/
structure Alike (g g' : Gate) : Prop where
  setting : SameParts g.setting g'.setting
  cached : Option.Rel (fun f f' => f.enabled = f'.enabled) g.cached g'.cached

theorem Alike.enabled {g g' : Gate} (alike : Alike g g') :
    g.filter.enabled = g'.filter.enabled := by
  have setting := enabled_congr alike.setting
  have cached := alike.cached
  unfold filter
  cases read : g.cached <;> cases read' : g'.cached <;> rw [read, read'] at cached <;>
    cases cached
  · exact setting
  · assumption

theorem Alike.asked {g g' : Gate} (alike : Alike g g') : Alike g.asked g'.asked :=
  ⟨alike.setting, .some alike.enabled⟩

end Gate

end Chip8.Log
