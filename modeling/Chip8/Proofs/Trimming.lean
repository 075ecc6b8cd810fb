/-
# Chip8.Proofs.Trimming — white space around a text and the case of its letters

White space has no case, and case rules do not look past it: no blank is a letter or a mark, no
letter becomes a blank, and the characters around a text that are blanks say as little about the end
of a word as no characters (`leads_append`). So a text in lower case is trimmed as the text itself,
and it is the same to trim first or to go to lower case first (`lowercase_trim`), for every text and
also where a capital sigma stands at its end.
-/
import Mathlib.Data.List.Basic
import Mathlib.Data.List.Induction
import Mathlib.Data.List.TakeWhile
import Chip8.Text.Blank
import Chip8.Text.Lowercase

namespace Chip8.Text

set_option autoImplicit false

/-! ## Blanks among the characters -/

/-- A character of one class is not of another whose ranges lie beside those of the first. -/
theorem CharRange.mem_eq_false {ranges others : List CharRange} {c : Char}
    (beside : (ranges.all fun r => others.all fun s => r.2 < s.1 || s.2 < r.1) = true)
    (inside : mem ranges c = true) : mem others c = false := by
  obtain ⟨r, known, first, last⟩ := (mem_iff ranges c).1 inside
  rw [Bool.eq_false_iff]
  intro other
  obtain ⟨s, known', first', last'⟩ := (mem_iff others c).1 other
  have apart := List.all_eq_true.1 (List.all_eq_true.1 beside r known) s known'
  rw [Bool.or_eq_true, decide_eq_true_eq, decide_eq_true_eq] at apart
  omega

/-- What holds of each of the first 128 characters holds of every one that is among them. -/
theorem forall_ascii {P : Char → Prop} (each : ∀ n < 0x80, P (Char.ofNat n)) (c : Char)
    (ascii : c.toNat < 0x80) : P c :=
  Char.ofNat_toNat c ▸ each c.toNat ascii

theorem skipped_of_blank {c : Char} (blank : isBlank c = true) :
    CharRange.mem Cased.skipped c = false :=
  CharRange.mem_eq_false (by decide +kernel) blank

theorem letters_of_blank {c : Char} (blank : isBlank c = true) :
    CharRange.mem Cased.letters c = false :=
  CharRange.mem_eq_false (by decide +kernel) blank

namespace Lowercase

/-- A run covers only characters between its first and its last. -/
theorem Run.bounds {r : Run} {c : Char} (covers : r.covers c = true) :
    r.first ≤ c.toNat ∧ c.toNat ≤ r.last := by
  simp only [Run.covers, Bool.and_eq_true, decide_eq_true_eq] at covers
  exact covers.1

/-- A blank has no small letter. -/
theorem letter_of_blank {c : Char} (blank : isBlank c = true) : letter c = c := by
  unfold letter
  split
  · rename_i ascii
    exact forall_ascii (P := fun c => isBlank c = true → c.toLower = c) (by decide +kernel) c
      ascii blank
  · have none : runs.find? (·.covers c) = none := by
      refine List.find?_eq_none.2 fun r known covers => ?_
      have beside : (runs.all fun r => blanks.all fun b =>
          b.2 < r.first || r.last < b.1) = true := by decide +kernel
      obtain ⟨b, known', first, last⟩ := (CharRange.mem_iff blanks c).1 blank
      have apart := List.all_eq_true.1 (List.all_eq_true.1 beside r known) b known'
      rw [Bool.or_eq_true, decide_eq_true_eq, decide_eq_true_eq] at apart
      have := Run.bounds covers
      omega
    rw [none]

/-- A letter does not become a blank. -/
theorem isBlank_letter {c : Char} (other : isBlank c = false) : isBlank (letter c) = false := by
  unfold letter
  split
  · rename_i ascii
    exact forall_ascii (P := fun c => isBlank c = false → isBlank c.toLower = false)
      (by decide +kernel) c ascii other
  · cases found : runs.find? (·.covers c) with
    | none => exact other
    | some r =>
        have beside : (runs.all fun r => blanks.all fun b =>
            (b.2 : Int) < r.first + r.shift || r.last + r.shift < b.1) = true := by decide +kernel
        have covers := List.find?_some found
        have bounds := Run.bounds covers
        rw [Bool.eq_false_iff]
        intro blank
        obtain ⟨b, known, first, last⟩ := (CharRange.mem_iff blanks _).1 blank
        have apart := List.all_eq_true.1
          (List.all_eq_true.1 beside r (List.mem_of_find?_eq_some found)) b known
        rw [Bool.or_eq_true, decide_eq_true_eq, decide_eq_true_eq] at apart
        have positive : ∀ b ∈ blanks, 0 < b.1 := by decide
        have := positive b known
        -- a number that is no code point stands for the zero character, which is no blank
        have number (n : Nat) : (Char.ofNat n).toNat = n ∨ (Char.ofNat n).toNat = 0 := by
          by_cases valid : n.isValidChar
          · exact .inl (congrArg Char.toNat (dif_pos valid))
          · exact .inr (congrArg Char.toNat (dif_neg valid))
        dsimp only at first last
        rcases number (c.toNat + r.shift).toNat with same | zero <;> omega

/-- What a character becomes that stands after the characters of `before`, nearest first, and
before those of `rest`. -/
def small (before : List Char) (c : Char) (rest : List Char) : List Char :=
  if c = '\u0130' then ['i', '\u0307']
  else if c = '\u03a3' then
    [if Cased.leads before && !Cased.leads rest then '\u03c2' else '\u03c3']
  else [letter c]

theorem go_cons (before : List Char) (c : Char) (rest : List Char) :
    go before (c :: rest) = small before c rest ++ go (c :: before) rest := rfl

theorem small_of_blank {c : Char} (blank : isBlank c = true) (before rest : List Char) :
    small before c rest = [c] := by
  have dotted : c ≠ '\u0130' := by
    rintro rfl
    exact absurd blank (by decide)
  have sigma : c ≠ '\u03a3' := by
    rintro rfl
    exact absurd blank (by decide)
  rw [small, if_neg dotted, if_neg sigma, letter_of_blank blank]

theorem small_ne_nil (before : List Char) (c : Char) (rest : List Char) :
    small before c rest ≠ [] := by
  unfold small
  split
  · nofun
  · split <;> nofun

/-- Nothing of what a letter becomes is a blank. -/
theorem isBlank_small {c d : Char} (other : isBlank c = false) {before rest : List Char}
    (inside : d ∈ small before c rest) : isBlank d = false := by
  unfold small at inside
  split at inside
  · have each : ∀ d ∈ ['i', '\u0307'], isBlank d = false :=
      List.forall_mem_cons.2 ⟨rfl, List.forall_mem_singleton.2 rfl⟩
    exact each d inside
  · split at inside
    · obtain rfl := List.mem_singleton.1 inside
      split <;> rfl
    · obtain rfl := List.mem_singleton.1 inside
      exact isBlank_letter other

/-! ## What stands around a text -/

theorem leads_cons (c : Char) (text : List Char) :
    Cased.leads (c :: text) =
      if CharRange.mem Cased.skipped c then Cased.leads text
      else CharRange.mem Cased.letters c := by
  unfold Cased.leads
  rw [List.find?_cons]
  cases CharRange.mem Cased.skipped c <;> rfl

/-- Blanks are as good as no characters. -/
theorem leads_append (text : List Char) {blanks : List Char}
    (blank : ∀ c ∈ blanks, isBlank c = true) :
    Cased.leads (text ++ blanks) = Cased.leads text := by
  induction text with
  | nil =>
      cases blanks with
      | nil => rfl
      | cons c rest =>
          have here := blank c List.mem_cons_self
          rw [List.nil_append, leads_cons, skipped_of_blank here, letters_of_blank here]
          rfl
  | cons c rest ih => rw [List.cons_append, leads_cons, leads_cons, ih]

/-- Of what stands before a text it only counts whether it leads up to the text. -/
theorem go_congr {before before' : List Char}
    (same : Cased.leads before = Cased.leads before') (text : List Char) :
    go before text = go before' text := by
  induction text generalizing before before' with
  | nil => rfl
  | cons c rest ih =>
      have next : Cased.leads (c :: before) = Cased.leads (c :: before') := by
        rw [leads_cons, leads_cons, same]
      rw [go_cons, go_cons, ih next, small, small, same]

/-- Blanks behind a text stay as they are, and the text goes to lower case as without them. -/
theorem go_append_blanks (before text : List Char) {blanks : List Char}
    (blank : ∀ c ∈ blanks, isBlank c = true) :
    go before (text ++ blanks) = go before text ++ blanks := by
  induction text generalizing before with
  | nil =>
      -- there are only blanks left
      induction blanks generalizing before with
      | nil => rfl
      | cons c rest ih =>
          obtain ⟨first, others⟩ := List.forall_mem_cons.1 blank
          have later := ih others (c :: before)
          rw [List.nil_append] at later ⊢
          rw [go_cons, small_of_blank first, later]
          rfl
  | cons c rest ih =>
      rw [List.cons_append, go_cons, go_cons, ih, small, small, leads_append rest blank,
        List.append_assoc]

/-- Blanks before a text stay as they are, and the text goes to lower case as without them. -/
theorem go_blanks_append {before blanks : List Char} (plain : Cased.leads before = false)
    (blank : ∀ c ∈ blanks, isBlank c = true) (text : List Char) :
    go before (blanks ++ text) = blanks ++ go [] text := by
  induction blanks generalizing before with
  | nil => exact go_congr plain text
  | cons c rest ih =>
      obtain ⟨first, others⟩ := List.forall_mem_cons.1 blank
      have next : Cased.leads (c :: before) = false := by
        rw [leads_cons, skipped_of_blank first, letters_of_blank first]
        rfl
      rw [List.cons_append, go_cons, small_of_blank first, ih next others]
      rfl

/-- What a text becomes ends with what the rest of it becomes. -/
theorem exists_go_append (before first rest : List Char) :
    ∃ out, go before (first ++ rest) = out ++ go (first.reverse ++ before) rest := by
  induction first generalizing before with
  | nil => exact ⟨[], rfl⟩
  | cons c first ih =>
      obtain ⟨out, later⟩ := ih (c :: before)
      refine ⟨small before c (first ++ rest) ++ out, ?_⟩
      rw [List.cons_append, go_cons, later, List.reverse_cons, List.append_assoc,
        List.append_assoc, List.singleton_append]

end Lowercase

/-! ## Trimmed texts -/

structure Tight (text : List Char) : Prop where
  first : ∀ c ∈ text.head?, isBlank c = false
  last : ∀ c ∈ text.getLast?, isBlank c = false

theorem dropWhile_of_head {text : List Char} (first : ∀ c ∈ text.head?, isBlank c = false) :
    text.dropWhile isBlank = text := by
  cases text with
  | nil => rfl
  | cons c rest =>
      rw [List.dropWhile_cons_of_neg]
      rw [first c rfl]
      exact Bool.false_ne_true

theorem trim_of_tight {text : List Char} (tight : Tight text) : trim text = text := by
  rw [trim, dropWhile_of_head tight.first, dropWhile_of_head, List.reverse_reverse]
  rw [List.head?_reverse]
  exact tight.last

/-- Blanks at the ends make no difference to the trimmed text. -/
theorem trim_append {before after : List Char} (blank : ∀ c ∈ before, isBlank c = true)
    (blank' : ∀ c ∈ after, isBlank c = true) (text : List Char) :
    trim (before ++ (text ++ after)) = trim text := by
  have none : after.dropWhile isBlank = [] := List.dropWhile_eq_nil_iff.2 blank'
  rw [trim, trim, List.dropWhile_append_of_pos blank, List.dropWhile_append, none]
  split
  · rename_i empty
    rw [List.isEmpty_iff.1 empty]
  · rw [List.reverse_append, List.dropWhile_append_of_pos]
    exact fun c inside => blank' c (List.mem_reverse.1 inside)

/-- Behind the blanks that come first there are the trimmed text and more blanks. -/
theorem dropWhile_eq_trim_append (text : List Char) :
    text.dropWhile isBlank =
      trim text ++ ((text.dropWhile isBlank).reverse.takeWhile isBlank).reverse := by
  rw [trim, ← List.reverse_append, List.takeWhile_append_dropWhile, List.reverse_reverse]

/-- A text is blanks, its trimmed form and blanks again. -/
theorem exists_eq_trim (text : List Char) :
    ∃ before after : List Char, (∀ c ∈ before, isBlank c = true) ∧
      (∀ c ∈ after, isBlank c = true) ∧ text = before ++ (trim text ++ after) := by
  refine ⟨text.takeWhile isBlank, ((text.dropWhile isBlank).reverse.takeWhile isBlank).reverse,
    fun c inside => List.mem_takeWhile_imp inside,
    fun c inside => List.mem_takeWhile_imp (List.mem_reverse.1 inside), ?_⟩
  rw [← dropWhile_eq_trim_append, List.takeWhile_append_dropWhile]

theorem tight_trim (text : List Char) : Tight (trim text) := by
  constructor
  · intro c first
    have head := List.head?_dropWhile_not isBlank text
    rw [dropWhile_eq_trim_append, List.head?_append, first] at head
    exact head
  · intro c last
    rw [trim, List.getLast?_reverse] at last
    have head := List.head?_dropWhile_not isBlank (text.dropWhile isBlank).reverse
    rwa [last] at head

namespace Lowercase

/-- A text in lower case has no blanks at its ends if the text has none. -/
theorem tight_go {text : List Char} (tight : Tight text) : Tight (go [] text) := by
  constructor
  · cases text with
    | nil => nofun
    | cons c rest =>
        intro d first
        rw [go_cons, List.head?_append_of_ne_nil _ (small_ne_nil _ _ _)] at first
        exact isBlank_small (tight.first c rfl) (List.mem_of_mem_head? first)
  · -- the last character becomes the last ones
    cases text using List.reverseRecOn with
    | nil => nofun
    | append_singleton text c =>
        intro d last
        obtain ⟨out, split⟩ := exists_go_append [] text [c]
        rw [split, go_cons, go, List.append_nil,
          List.getLast?_append_of_ne_nil _ (small_ne_nil _ _ _)] at last
        have other := tight.last c (List.getLast?_concat ..)
        exact isBlank_small other (List.mem_of_mem_getLast? last)

end Lowercase

/-- It is the same to trim first and to go to lower case first. -/
theorem lowercase_trim (text : List Char) :
    Lowercase.go [] (trim text) = trim (Lowercase.go [] text) := by
  obtain ⟨before, after, blank, blank', split⟩ := exists_eq_trim text
  have plain : Cased.leads [] = false := rfl
  have small : Lowercase.go [] text = before ++ (Lowercase.go [] (trim text) ++ after) := by
    rw [← Lowercase.go_append_blanks [] (trim text) blank',
      ← Lowercase.go_blanks_append plain blank, ← split]
  rw [small, trim_append blank blank', trim_of_tight (Lowercase.tight_go (tight_trim text))]

end Chip8.Text
