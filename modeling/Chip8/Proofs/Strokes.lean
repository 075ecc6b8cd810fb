/-
# Chip8.Proofs.Strokes — what is typed on a fresh keyboard

A stroke is a host key that goes down or up, by any name. Several names mean one key of the keypad,
and a name may mean none (`Means`). Whatever is typed, each key goes by its own strokes alone: they
are counted, up with a press and down with a release but never below zero (`tally`), and the key is
down and has an entry, with that count, exactly if the count is not zero (`holds_typed`).

So two lists of strokes that count alike for every key come to the same keyboard and the same keypad
(`typed_congr`). Of a key that ends up it can be told when it does: from every stroke on to the end
there are as many releases of it as presses (`tally_eq_zero_iff`). This holds if every press has a
release of its own behind it, in whatever order they come (`Released.countP_le`).

`law_of_strokes` puts these together.
-/
import Mathlib.Data.Finset.Card
import Mathlib.Data.Finset.Range
import Mathlib.Data.List.Induction
import Chip8.Keyboard

namespace Chip8.Keyboard

set_option autoImplicit false

/-! ## Names of keys -/

/-- The host keys in the places of the sixteen keys, in the order of the keypad. -/
def labels : List String :=
  ["x", "1", "2", "3", "q", "w", "e", "a", "s", "d", "z", "c", "4", "r", "f", "v"]

def label (k : Nibble) : String := labels.getD k.val ""

/-- The names of a key in lower case: its label and, for a digit, its label in brackets. -/
def names (k : Nibble) : List String :=
  if label k ∈ ["1", "2", "3", "4"] then [label k, "[" ++ label k ++ "]"] else [label k]

/-- A name means a key, in any case. -/
def Means (name : String) (k : Nibble) : Prop := Text.lowercase name ∈ names k

instance (name : String) (k : Nibble) : Decidable (Means name k) :=
  inferInstanceAs (Decidable (Text.lowercase name ∈ names k))

def allNames : List String := (List.finRange 16).flatMap names

theorem mem_allNames {small : String} {k : Nibble} (inside : small ∈ names k) :
    small ∈ allNames :=
  List.mem_flatMap.2 ⟨k, List.mem_finRange k, inside⟩

/-- A text that is no name of a key is not found. -/
theorem lookup_eq_none {small : String} (unknown : small ∉ allNames) :
    layout.lookup ((aliases.lookup small).getD small) = none := by
  have known : ∀ p ∈ layout, p.1 ∈ allNames := by decide +kernel
  have bracketed : ∀ p ∈ aliases, p.1 ∈ allNames := by decide +kernel
  have plain : aliases.lookup small = none := by
    refine List.lookup_eq_none_iff.2 fun p inside => bne_iff_ne.2 ?_
    rintro rfl
    exact unknown (bracketed p inside)
  rw [plain, Option.getD_none]
  refine List.lookup_eq_none_iff.2 fun p inside => bne_iff_ne.2 ?_
  rintro rfl
  exact unknown (known p inside)

/-- A key is found by its names and by nothing else. -/
theorem key?_eq_some_iff (name : String) (k : Nibble) : key? name = some k ↔ Means name k := by
  change layout.lookup ((aliases.lookup (Text.lowercase name)).getD (Text.lowercase name)) =
    some k ↔ Text.lowercase name ∈ names k
  generalize Text.lowercase name = small
  by_cases known : small ∈ allNames
  · have each : ∀ small ∈ allNames, ∀ k : Nibble,
        layout.lookup ((aliases.lookup small).getD small) = some k ↔ small ∈ names k := by
      decide +kernel
    exact each small known k
  · rw [lookup_eq_none known]
    exact iff_of_false nofun fun inside => known (mem_allNames inside)

/-- A name means one key at most. -/
theorem Means.unique {name : String} {j k : Nibble} (first : Means name j)
    (second : Means name k) : j = k := by
  rw [← key?_eq_some_iff] at first second
  exact Option.some.inj (first.symm.trans second)

/-! ## Strokes -/

inductive Stroke where
  | press (name : String)
  | release (name : String)

namespace Stroke

def name : Stroke → String
  | press name | release name => name

def isOf (k : Nibble) (s : Stroke) : Bool := decide (Means s.name k)

def presses (k : Nibble) : Stroke → Bool
  | press name => decide (Means name k)
  | release _ => false

def releases (k : Nibble) : Stroke → Bool
  | press _ => false
  | release name => decide (Means name k)

/-- A press counts up, and a release down, but never below zero. -/
def count (n : Nat) : Stroke → Nat
  | press _ => n + 1
  | release _ => n - 1

def on (keys : Keyboard × Keypad) : Stroke → Keyboard × Keypad
  | press name => keys.1.press keys.2 name
  | release name => keys.1.release keys.2 name

end Stroke

def typed (strokes : List Stroke) : Keyboard × Keypad := strokes.foldl Stroke.on ({}, {})

def tally (k : Nibble) (strokes : List Stroke) : Nat :=
  (strokes.filter (Stroke.isOf k)).foldl Stroke.count 0

theorem typed_concat (strokes : List Stroke) (s : Stroke) :
    typed (strokes ++ [s]) = s.on (typed strokes) := by
  rw [typed, List.foldl_append]
  rfl

theorem tally_append (k : Nibble) (strokes more : List Stroke) :
    tally k (strokes ++ more) =
      (more.filter (Stroke.isOf k)).foldl Stroke.count (tally k strokes) := by
  rw [tally, List.filter_append, List.foldl_append]
  rfl

/-! ## One key -/

/-- A key is down and has the entry `n`, or `n` is zero and it is up and has no entry. -/
structure Holds (keys : Keyboard × Keypad) (k : Nibble) (n : Nat) : Prop where
  entry : keys.1.held? k = if n = 0 then none else some n
  down : keys.2.isDown k = decide (0 < n)

variable {b : Keyboard} {pad : Keypad} {keys : Keyboard × Keypad} {k : Nibble} {n : Nat}

theorem Holds.count_eq (holds : Holds (b, pad) k n) : b.count k = n := by
  rw [count, holds.entry]
  split
  · rename_i zero
    exact zero.symm
  · rfl

theorem holds_empty (k : Nibble) : Holds ({}, {}) k 0 where
  entry := Vector.getElem_replicate (Registers.val_lt k)
  down := Vector.getElem_replicate (Registers.val_lt k)

theorem Holds.pressKey (holds : Holds (b, pad) k n) (j : Nibble) :
    Holds (b.pressKey pad j) k (if j = k then n + 1 else n) := by
  by_cases same : j = k
  · subst same
    rw [if_pos rfl]
    refine ⟨?_, ?_⟩
    · rw [Keyboard.pressKey, held?_setHeld, if_pos rfl, holds.count_eq, if_neg n.succ_ne_zero]
    · rw [Keyboard.pressKey, Keypad.isDown_put, if_pos rfl, decide_eq_true n.succ_pos]
  · rw [if_neg same]
    refine ⟨?_, ?_⟩
    · rw [Keyboard.pressKey, held?_setHeld, if_neg same]
      exact holds.entry
    · rw [Keyboard.pressKey, Keypad.isDown_put, if_neg same]
      exact holds.down

/-- The last release of a key takes its entry away, and an earlier one leaves it down. -/
theorem Holds.releaseKey (holds : Holds (b, pad) k n) (j : Nibble) :
    Holds (b.releaseKey pad j) k (if j = k then n - 1 else n) := by
  by_cases same : j = k
  · subst same
    rw [if_pos rfl, Keyboard.releaseKey, holds.count_eq]
    by_cases last : n ≤ 1
    · have none : n - 1 = 0 := by omega
      rw [if_pos last, none]
      refine ⟨?_, ?_⟩
      · rw [held?_setHeld, if_pos rfl, if_pos rfl]
      · rw [Keypad.isDown_put, if_pos rfl, decide_eq_false (Nat.lt_irrefl 0)]
    · rw [if_neg last]
      refine ⟨?_, ?_⟩
      · rw [held?_setHeld, if_pos rfl, if_neg (by omega)]
      · have still : (0 < n - 1) = (0 < n) := propext (by omega)
        simp only [still]
        exact holds.down
  · rw [if_neg same, Keyboard.releaseKey]
    by_cases last : b.count j ≤ 1
    · rw [if_pos last]
      refine ⟨?_, ?_⟩
      · rw [held?_setHeld, if_neg same]
        exact holds.entry
      · rw [Keypad.isDown_put, if_neg same]
        exact holds.down
    · rw [if_neg last]
      refine ⟨?_, holds.down⟩
      rw [held?_setHeld, if_neg same]
      exact holds.entry

/-- A stroke is counted by the key that it means, and by no other. -/
theorem Holds.on (holds : Holds keys k n) (s : Stroke) :
    Holds (s.on keys) k (if s.isOf k then s.count n else n) := by
  obtain ⟨b, pad⟩ := keys
  have found (name : String) : decide (Means name k) = decide (key? name = some k) :=
    decide_eq_decide.2 (key?_eq_some_iff name k).symm
  cases s with
  | press name =>
      rw [Stroke.on, Stroke.isOf, Stroke.name, found, Keyboard.press]
      cases key? name with
      | none => exact holds
      | some j => simpa [Stroke.count] using holds.pressKey j
  | release name =>
      rw [Stroke.on, Stroke.isOf, Stroke.name, found, Keyboard.release]
      cases key? name with
      | none => exact holds
      | some j => simpa [Stroke.count] using holds.releaseKey j

/-- What is typed leaves every key with the count of its strokes. -/
theorem holds_typed (strokes : List Stroke) (k : Nibble) :
    Holds (typed strokes) k (tally k strokes) := by
  induction strokes using List.reverseRecOn with
  | nil => exact holds_empty k
  | append_singleton strokes s ih =>
      rw [typed_concat, tally_append]
      have next := ih.on s
      cases mine : s.isOf k with
      | true => simpa [mine] using next
      | false => simpa [mine] using next

/-! ## All keys -/

/-- The entries and the states of all keys are all there is to a keyboard and its keypad. -/
theorem eq_of_holds {keys keys' : Keyboard × Keypad} {counts : Nibble → Nat}
    (holds : ∀ k, Holds keys k (counts k)) (holds' : ∀ k, Holds keys' k (counts k)) :
    keys = keys' := by
  obtain ⟨⟨entries⟩, ⟨states⟩⟩ := keys
  obtain ⟨⟨entries'⟩, ⟨states'⟩⟩ := keys'
  have sameEntries : entries = entries' := Vector.ext fun i inside =>
    (holds ⟨i, inside⟩).entry.trans (holds' ⟨i, inside⟩).entry.symm
  have sameStates : states = states' := Vector.ext fun i inside =>
    (holds ⟨i, inside⟩).down.trans (holds' ⟨i, inside⟩).down.symm
  rw [sameEntries, sameStates]

/-- Strokes that count alike for every key come to the same. -/
theorem typed_congr {strokes strokes' : List Stroke}
    (same : ∀ k, tally k strokes = tally k strokes') : typed strokes = typed strokes' :=
  eq_of_holds (holds_typed strokes) fun k => same k ▸ holds_typed strokes' k

/-- A stroke that does not change its count may be left out. -/
theorem typed_skip {strokes : List Stroke} {s : Stroke}
    (idle : ∀ k, s.isOf k = true → s.count (tally k strokes) = tally k strokes)
    (later : List Stroke) : typed (strokes ++ s :: later) = typed (strokes ++ later) := by
  refine typed_congr fun k => ?_
  rw [tally_append, tally_append]
  cases mine : s.isOf k with
  | true => rw [List.filter_cons_of_pos mine, List.foldl_cons, idle k mine]
  | false => rw [List.filter_cons_of_neg (by simp [mine])]

/-- Strokes of different keys may change places. -/
theorem typed_swap (strokes later : List Stroke) {s s' : Stroke}
    (apart : ∀ k, ¬(Means s.name k ∧ Means s'.name k)) :
    typed (strokes ++ s :: s' :: later) = typed (strokes ++ s' :: s :: later) := by
  refine typed_congr fun k => ?_
  rw [tally_append, tally_append]
  congr 1
  have other : s.isOf k = false ∨ s'.isOf k = false :=
    (Decidable.not_and_iff_not_or_not.1 (apart k)).imp decide_eq_false decide_eq_false
  rcases other with other | other <;> simp [List.filter_cons, other]

/-! ## Keys that end up -/

/-- What a stroke is to a key: a press, a release, or none of its strokes. -/
theorem Stroke.kinds (k : Nibble) (s : Stroke) :
    (s.presses k = true ∧ s.releases k = false ∧ s.isOf k = true ∧ ∀ n, s.count n = n + 1) ∨
    (s.presses k = false ∧ s.releases k = true ∧ s.isOf k = true ∧ ∀ n, s.count n = n - 1) ∨
    (s.presses k = false ∧ s.releases k = false ∧ s.isOf k = false) := by
  cases s with
  | press name =>
      by_cases mine : Means name k
      · exact .inl ⟨decide_eq_true mine, rfl, decide_eq_true mine, fun _ => rfl⟩
      · exact .inr (.inr ⟨decide_eq_false mine, rfl, decide_eq_false mine⟩)
  | release name =>
      by_cases mine : Means name k
      · exact .inr (.inl ⟨rfl, decide_eq_true mine, decide_eq_true mine, fun _ => rfl⟩)
      · exact .inr (.inr ⟨rfl, decide_eq_false mine, decide_eq_false mine⟩)

/-- A key that is held `n` times ends up if its releases make up for that and for its presses, and
do so for the presses from every later stroke on. -/
theorem foldl_count_eq_zero_iff (k : Nibble) (strokes : List Stroke) (n : Nat) :
    (strokes.filter (Stroke.isOf k)).foldl Stroke.count n = 0 ↔
      n + strokes.countP (Stroke.presses k) ≤ strokes.countP (Stroke.releases k) ∧
      ∀ later, later <:+ strokes →
        later.countP (Stroke.presses k) ≤ later.countP (Stroke.releases k) := by
  -- the first stroke is counted, and the rest is a list of strokes with another count before it
  induction strokes generalizing n with
  | nil => simp
  | cons s rest ih =>
      simp only [List.suffix_cons_iff, forall_eq_or_imp, List.countP_cons]
      rcases s.kinds k with ⟨press, release, mine, counts⟩ | ⟨press, release, mine, counts⟩ |
        ⟨press, release, other⟩
      · rw [List.filter_cons_of_pos mine, List.foldl_cons, counts, ih (n + 1), press, release]
        grind
      · rw [List.filter_cons_of_pos mine, List.foldl_cons, counts, ih (n - 1), press, release]
        grind
      · rw [List.filter_cons_of_neg (by simp [other]), ih n, press, release]
        grind

/-- A key ends up exactly if from every stroke on it is released as often as it is pressed. -/
theorem tally_eq_zero_iff (k : Nibble) (strokes : List Stroke) :
    tally k strokes = 0 ↔ ∀ later, later <:+ strokes →
      later.countP (Stroke.presses k) ≤ later.countP (Stroke.releases k) := by
  rw [tally, foldl_count_eq_zero_iff, Nat.zero_add]
  exact and_iff_right_of_imp fun each => each strokes (List.suffix_refl strokes)

/-- Every press of a key has a release of the same key behind it, and no two presses have the same
release. `own` tells the place of the release from the place of the press. -/
structure Released (strokes : List Stroke) (own : Nat → Nat) : Prop where
  behind : ∀ i name k, strokes[i]? = some (.press name) → Means name k →
    i < own i ∧ ∃ name', strokes[own i]? = some (.release name') ∧ Means name' k
  single : ∀ i j name name' k, strokes[i]? = some (.press name) → Means name k →
    strokes[j]? = some (.press name') → Means name' k → own i = own j → i = j

def places {α : Type} (p : α → Bool) (list : List α) : Finset Nat :=
  (Finset.range list.length).filter fun i => list[i]?.any p

theorem card_places {α : Type} (p : α → Bool) (list : List α) :
    (places p list).card = list.countP p := by
  induction list using List.reverseRecOn with
  | nil => rfl
  | append_singleton list a ih =>
      have earlier : (Finset.range list.length).filter (fun i => (list ++ [a])[i]?.any p) =
          places p list := by
        refine Finset.filter_congr fun i inside => ?_
        rw [List.getElem?_append_left (Finset.mem_range.1 inside)]
      rw [places, List.length_append, List.length_singleton, Finset.range_add_one,
        Finset.filter_insert, List.getElem?_concat_length, List.countP_append,
        List.countP_singleton, earlier, ← ih]
      cases kept : p a with
      | false => simp [kept]
      | true => simp [kept, places]

theorem mem_places {α : Type} {p : α → Bool} {list : List α} {i : Nat} :
    i ∈ places p list ↔ ∃ a, list[i]? = some a ∧ p a = true := by
  rw [places, Finset.mem_filter, Finset.mem_range, Option.any_eq_true]
  refine and_iff_right_of_imp ?_
  rintro ⟨a, here, -⟩
  exact (List.getElem?_eq_some_iff.1 here).1

/-- From every stroke on there are as many releases of a key as presses. -/
theorem Released.countP_le {strokes later : List Stroke} {own : Nat → Nat}
    (released : Released strokes own) (k : Nibble) (ends : later <:+ strokes) :
    later.countP (Stroke.presses k) ≤ later.countP (Stroke.releases k) := by
  obtain ⟨before, rfl⟩ := ends
  have shifted (i : Nat) : (before ++ later)[before.length + i]? = later[i]? := by
    rw [List.getElem?_append_right (Nat.le_add_right ..), Nat.add_sub_cancel_left]
  -- a press of the later strokes, by its place in all strokes
  have pressed {i : Nat} (here : i ∈ places (Stroke.presses k) later) :
      ∃ name, (before ++ later)[before.length + i]? = some (.press name) ∧ Means name k := by
    obtain ⟨s, at_, mine⟩ := mem_places.1 here
    cases s with
    | press name => exact ⟨name, (shifted i).trans at_, of_decide_eq_true mine⟩
    | release name => cases mine
  rw [← card_places, ← card_places]
  refine Finset.card_le_card_of_injOn (fun i => own (before.length + i) - before.length) ?_ ?_
  · intro i here
    obtain ⟨name, press, means⟩ := pressed here
    obtain ⟨behind, name', release, means'⟩ := released.behind _ name k press means
    have place : before.length + (own (before.length + i) - before.length) =
        own (before.length + i) := by omega
    refine mem_places.2 ⟨.release name', ?_, decide_eq_true means'⟩
    rw [← shifted, place, release]
  · intro i here j there same
    obtain ⟨name, press, means⟩ := pressed here
    obtain ⟨name', press', means'⟩ := pressed there
    have behind := (released.behind _ name k press means).1
    have behind' := (released.behind _ name' k press' means').1
    have owns : own (before.length + i) = own (before.length + j) := by
      simp only at same
      omega
    have whole := released.single _ _ name name' k press means press' means' owns
    omega

/-- The law of strokes, whatever names they have. After any strokes on a fresh keyboard a key is
down exactly if the count of its strokes is positive, and its entry is that count; a key whose count
is zero has no entry. So a stroke that means no key, and a release of a key that is up, have no
effect on what is typed with them; neighbours that mean different keys may change places; and if
every press has a release of its own behind it, nothing is held in the end and no key is down. -/
theorem law_of_strokes (strokes : List Stroke) :
    (∀ k, ((typed strokes).2.isDown k = true ↔ 0 < tally k strokes) ∧
      (typed strokes).1.held? k = if tally k strokes = 0 then none else some (tally k strokes)) ∧
    (∀ s later, (∀ k, ¬Means s.name k) →
      typed (strokes ++ s :: later) = typed (strokes ++ later)) ∧
    (∀ name k later, Means name k → (typed strokes).2.isDown k = false →
      typed (strokes ++ .release name :: later) = typed (strokes ++ later)) ∧
    (∀ s s' later, (∀ k, ¬(Means s.name k ∧ Means s'.name k)) →
      typed (strokes ++ s :: s' :: later) = typed (strokes ++ s' :: s :: later)) ∧
    (∀ own, Released strokes own → typed strokes = ({}, {})) := by
  refine ⟨fun k => ⟨?_, (holds_typed strokes k).entry⟩, ?_, ?_, ?_, ?_⟩
  · rw [(holds_typed strokes k).down, decide_eq_true_eq]
  · intro s later unmapped
    refine typed_skip (fun k mine => ?_) later
    exact absurd (of_decide_eq_true mine) (unmapped k)
  · intro name k later means up
    refine typed_skip (fun j mine => ?_) later
    obtain rfl := means.unique (of_decide_eq_true mine)
    rw [(holds_typed strokes k).down, decide_eq_false_iff_not] at up
    have zero : tally k strokes = 0 := by omega
    rw [zero]
    rfl
  · intro s s' later apart
    exact typed_swap strokes later apart
  · intro own released
    have none (k : Nibble) : tally k strokes = 0 :=
      (tally_eq_zero_iff k strokes).2 fun later ends => released.countP_le k ends
    exact eq_of_holds (holds_typed strokes) fun k => (none k).symm ▸ holds_empty k

/-- Two host keys hold the key 1 for a while. What is typed after them, a host key that means no key
and a release of a key that is up among it, comes to the same without these two and in any order. -/
theorem law_of_strokes_with_two_host_keys :
    let strokes : List Stroke := [.press "1", .press "[1]", .release "1", .release "[1]"]
    let later : List Stroke := [.press "Q", .press "w"]
    (∀ k, ¬Means (Stroke.press "F1").name k) ∧
      (Means "W" 5 ∧ (typed strokes).2.isDown 5 = false) ∧
      (∀ k, ¬(Means (Stroke.press "Q").name k ∧ Means (Stroke.press "w").name k)) ∧
      Released strokes (· + 2) ∧
      typed (strokes ++ .press "F1" :: later) = typed (strokes ++ later) ∧
      typed (strokes ++ .release "W" :: later) = typed (strokes ++ later) ∧
      typed (strokes ++ later) = typed (strokes ++ [.press "w", .press "Q"]) ∧
      typed strokes = ({}, {}) := by
  intro strokes later
  have unmapped : ∀ k, ¬Means (Stroke.press "F1").name k := by decide +kernel
  have means : Means "W" 5 := by decide +kernel
  have up : (typed strokes).2.isDown 5 = false := by decide +kernel
  have apart : ∀ k, ¬(Means (Stroke.press "Q").name k ∧ Means (Stroke.press "w").name k) := by
    decide +kernel
  have released : Released strokes (· + 2) := by
    refine ⟨fun i name k press means => ?_, fun i j _ _ _ _ _ _ _ same => Nat.add_right_cancel same⟩
    rcases i with _ | _ | _ | _ | i <;> simp [strokes] at press
    all_goals
      subst press
      exact ⟨Nat.lt_add_of_pos_right Nat.two_pos, _, rfl, means⟩
  obtain ⟨-, skips, lifts, swaps, empties⟩ := law_of_strokes strokes
  exact ⟨unmapped, ⟨means, up⟩, apart, released, skips _ later unmapped, lifts _ _ later means up,
    swaps _ _ [] apart, empties _ released⟩

end Chip8.Keyboard
