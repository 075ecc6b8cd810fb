/-
# Chip8.Proofs.Ring — the ring of a trace holds the newest records

The slots of a trace are read backwards from the next one: the record of age zero lies just
behind it, the record of age one behind that, and so on around the ring. `Holds t newest` says
that the slots in use hold the given entries in this order. One more record makes all of them
one older and drops the oldest if the ring is full (`holds_record`), so after many records the
ring holds as many of the newest ones as it has slots (`holds_foldl`), and reading it gives
them from the oldest to the newest (`entries_foldl`).

`newest_of_records` says so of whole records, under every limit, together with the number of
entries, the newest one, the lines that show them and the slots in which they stand.
-/
import Mathlib.Data.List.DropRight
import Chip8.Trace

namespace Chip8.Trace

set_option autoImplicit false

/-- The slot of the entry that has the given age. -/
def place (t : Trace) (age : Nat) : Nat := (t.next + t.capacity - 1 - age) % t.capacity

/-- The slots in use hold the given entries, the newest first. -/
structure Holds (t : Trace) (newest : List Entry) : Prop where
  count : t.count = newest.length
  slot : ∀ (age : Nat) (used : age < newest.length),
    t.slots[t.place age]? = some (some newest[age])

theorem holds_empty (capacity : Nat) (h : 0 < capacity) : (empty capacity h).Holds [] where
  count := rfl
  slot := fun _ used => absurd used (Nat.not_lt_zero _)

variable {t : Trace} {newest : List Entry}

theorem place_record_zero (t : Trace) (e : Entry) : (t.record e).place 0 = t.next := by
  have below : t.next < t.capacity := t.next_lt
  rw [place, capacity_record]
  change ((t.next + 1) % t.capacity + t.capacity - 1 - 0) % t.capacity = t.next
  by_cases wraps : t.next + 1 = t.capacity
  · rw [wraps, Nat.mod_self, Nat.zero_add, Nat.sub_zero, Nat.mod_eq_of_lt (by omega)]
    omega
  · rw [Nat.mod_eq_of_lt (by omega : t.next + 1 < t.capacity)]
    rw [show t.next + 1 + t.capacity - 1 - 0 = t.next + t.capacity by omega, Nat.add_mod_right,
      Nat.mod_eq_of_lt below]

/-- A record makes the older ones one older. -/
theorem place_record_succ (t : Trace) (e : Entry) {age : Nat} (used : age + 1 < t.capacity) :
    (t.record e).place (age + 1) = t.place age := by
  have below : t.next < t.capacity := t.next_lt
  rw [place, place, capacity_record]
  change ((t.next + 1) % t.capacity + t.capacity - 1 - (age + 1)) % t.capacity = _
  by_cases wraps : t.next + 1 = t.capacity
  · rw [wraps, Nat.mod_self, Nat.zero_add,
      show t.next + t.capacity - 1 - age = t.capacity - 1 - (age + 1) + t.capacity by omega,
      Nat.add_mod_right]
  · rw [Nat.mod_eq_of_lt (by omega : t.next + 1 < t.capacity)]
    congr 1
    omega

/-- A record that replaces no other keeps their places. -/
theorem place_ne_next (t : Trace) {age : Nat} (used : age + 1 < t.capacity) :
    t.place age ≠ t.next := by
  have below : t.next < t.capacity := t.next_lt
  rw [place]
  by_cases wraps : t.next < age + 1
  · rw [Nat.mod_eq_of_lt (by omega)]
    omega
  · rw [show t.next + t.capacity - 1 - age = t.next - 1 - age + t.capacity by omega,
      Nat.add_mod_right, Nat.mod_eq_of_lt (by omega)]
    omega

theorem holds_record (h : t.Holds newest) (e : Entry) :
    (t.record e).Holds ((e :: newest).take t.capacity) := by
  have pos := t.capacity_pos
  have room : newest.length ≤ t.capacity := h.count ▸ t.count_le
  constructor
  · rw [List.length_take, List.length_cons, ← h.count]
    change (if t.count < t.capacity then t.count + 1 else t.count) = _
    have := t.count_le
    unfold capacity
    split <;> omega
  · intro age used
    rw [List.length_take, List.length_cons] at used
    rw [List.getElem_take]
    change (t.slots.set t.next (some e) t.next_lt)[_]? = _
    cases age with
    | zero =>
        rw [place_record_zero, Array.getElem?_set_self]
        rfl
    | succ age =>
        rw [place_record_succ t e (by omega),
          Array.getElem?_set_ne t.next_lt (place_ne_next t (by omega)).symm,
          h.slot age (by omega)]
        rfl

theorem holds_foldl (h : t.Holds newest) (entries : List Entry) :
    (entries.foldl record t).Holds ((entries.reverse ++ newest).take t.capacity) := by
  induction entries generalizing t newest with
  | nil =>
      have room : newest.length ≤ t.capacity := h.count ▸ t.count_le
      rw [List.reverse_nil, List.nil_append, List.take_of_length_le room]
      exact h
  | cons e rest ih =>
      have later := ih (holds_record h e)
      rw [capacity_record] at later
      rw [List.reverse_cons, List.append_assoc, List.singleton_append]
      rw [List.take_append, List.take_take] at later
      rw [List.take_append]
      rwa [Nat.min_eq_left (Nat.sub_le _ _)] at later

/-- Reading gives the newest records, as many as are asked for, from the oldest on. -/
theorem entries_of_holds (h : t.Holds newest) (limit : Option Int) :
    t.entries limit = (match limit with
      | none => newest
      | some limit => newest.take limit.toNat).reverse := by
  -- both cases read a number of records that are in use
  have read {n : Nat} (used : n ≤ newest.length) :
      (List.range n).filterMap (t.entry? n) = (newest.take n).reverse := by
    have each : (List.range n).map (t.entry? n) = (newest.take n).reverse.map some := by
      refine List.ext_getElem (by simp [used]) fun k below _ => ?_
      have short : k < n := by simpa using below
      have slot := h.slot (n - 1 - k) (by omega)
      have room : newest.length ≤ t.capacity := h.count ▸ t.count_le
      have same : t.place (n - 1 - k) = (t.next + t.capacity - n + k) % t.capacity := by
        rw [place]
        congr 1
        omega
      rw [same] at slot
      simp [slot, used, entry?]
    calc (List.range n).filterMap (t.entry? n)
        = ((List.range n).map (t.entry? n)).filterMap id := by rw [List.filterMap_map]; rfl
      _ = (newest.take n).reverse := by rw [each, List.filterMap_map]; exact List.filterMap_some
  cases limit with
  | none =>
      change (List.range t.count).filterMap (t.entry? t.count) = _
      rw [h.count, read (Nat.le_refl _), List.take_length]
  | some limit =>
      change (List.range (min t.count limit.toNat)).filterMap
        (t.entry? (min t.count limit.toNat)) = _
      rw [h.count, read (Nat.min_le_left _ _), Nat.min_comm]
      change _ = (newest.take limit.toNat).reverse
      rw [List.take_eq_take_iff.2 (Nat.min_eq_left (Nat.min_le_right _ _))]

/-- After many records an empty trace holds the newest ones, as many as it has room for. -/
theorem entries_foldl (capacity : Nat) (h : 0 < capacity) (entries : List Entry) :
    (entries.foldl record (empty capacity h)).entries none = entries.rtake capacity := by
  rw [entries_of_holds (holds_foldl (holds_empty capacity h) entries), List.append_nil,
    List.rtake_eq_reverse_take_reverse]
  simp [empty, Trace.capacity]

/-! ## What is recorded -/

/-- What a record is made of: a state, the opcode of its instruction if one was fetched, and two
texts. -/
structure Record where
  state : Snapshot
  opcode : Option Int
  mnemonic : String
  note : String

def Record.entry (r : Record) : Entry := .ofSnapshot r.state r.opcode r.mnemonic r.note

def recordAll (t : Trace) (records : List Record) : Trace :=
  records.foldl (fun t r => t.record r.entry) t

/-- How many of `n` entries are within a limit, if one is given. -/
def within (limit : Option Int) (n : Nat) : Nat :=
  match limit with
  | none => n
  | some limit => min n (max limit 0).toNat

theorem within_le (limit : Option Int) (n : Nat) : within limit n ≤ n := by
  cases limit with
  | none => exact Nat.le_refl n
  | some limit => exact Nat.min_le_left _ _

theorem recordAll_eq (t : Trace) (records : List Record) :
    t.recordAll records = (records.map Record.entry).foldl record t :=
  List.foldl_map.symm

theorem capacity_recordAll (t : Trace) (records : List Record) :
    (t.recordAll records).capacity = t.capacity := by
  induction records generalizing t with
  | nil => rfl
  | cons r rest ih => exact (ih (t.record r.entry)).trans (capacity_record t r.entry)

/-- The slot of an entry, counted from the next one: a place below zero counts from the end. -/
theorem place_eq_emod (t : Trace) {n k : Nat} (small : n ≤ t.capacity) (inside : k < n) :
    t.place (n - 1 - k) = (((t.next : Int) - n + k) % t.capacity).toNat := by
  have turn : (t.next : Int) - n + k =
      (t.next + t.capacity - 1 - (n - 1 - k) : Nat) - (t.capacity : Int) := by omega
  rw [turn, Int.sub_emod_right, place, ← Int.natCast_emod, Int.toNat_natCast]

section

variable (capacity : Nat) (h : 0 < capacity) (records : List Record)

theorem holds_recordAll :
    ((empty capacity h).recordAll records).Holds
      ((records.map Record.entry).reverse.take capacity) := by
  have held := holds_foldl (holds_empty capacity h) (records.map Record.entry)
  have size : (empty capacity h).capacity = capacity := Array.size_replicate
  rwa [List.append_nil, ← recordAll_eq, size] at held

theorem count_recordAll :
    ((empty capacity h).recordAll records).count = min records.length capacity := by
  rw [(holds_recordAll capacity h records).count, List.length_take, List.length_reverse,
    List.length_map, Nat.min_comm]

/-- As many entries are read as there are, as there are slots, and as are within the limit. -/
theorem entries_recordAll (limit : Option Int) :
    ((empty capacity h).recordAll records).entries limit =
      (records.map Record.entry).rtake (within limit (min records.length capacity)) := by
  rw [entries_of_holds (holds_recordAll capacity h records), List.rtake_eq_reverse_take_reverse]
  congr 1
  cases limit with
  | none =>
      refine List.take_eq_take_iff.2 ?_
      rw [List.length_reverse, List.length_map]
      change min capacity records.length = min (min records.length capacity) records.length
      omega
  | some limit =>
      change (List.take capacity _).take limit.toNat = _
      rw [List.take_take, List.take_eq_take_iff, List.length_reverse, List.length_map]
      change _ = min (min (min records.length capacity) (max limit 0).toNat) records.length
      omega

theorem last?_recordAll :
    ((empty capacity h).recordAll records).last? = (records.map Record.entry).getLast? := by
  rcases List.eq_nil_or_concat records with rfl | ⟨earlier, newest, rfl⟩
  · rfl
  · rw [List.concat_eq_append, recordAll, List.foldl_concat, last?_record]
    simp

/-- The newest entries stand in the slots before the next one. -/
theorem slot_recordAll {n k : Nat} (used : n ≤ min records.length capacity) (inside : k < n) :
    let t := (empty capacity h).recordAll records
    t.slots[(((t.next : Int) - n + k) % capacity).toNat]? =
      some ((records.map Record.entry).rtake n)[k]? := by
  intro t
  have size : t.capacity = capacity :=
    (capacity_recordAll _ records).trans Array.size_replicate
  have age : n - 1 - k < ((records.map Record.entry).reverse.take capacity).length := by
    rw [List.length_take, List.length_reverse, List.length_map]
    omega
  have slot := (holds_recordAll capacity h records).slot _ age
  rw [place_eq_emod t (by omega) inside, size, List.getElem_take, List.getElem_reverse] at slot
  rw [slot, List.rtake, List.getElem?_drop,
    List.getElem?_eq_getElem (by rw [List.length_map]; omega)]
  congr 3
  rw [List.length_map]
  omega

end

/-- The law of the ring. After any records into an empty trace, reading gives the newest entries
from the oldest on, as many as there are, as the ring has slots, and as are within the limit. There
is a line for each of them, in the same order, and they stand in the slots before the next one. -/
theorem newest_of_records (capacity : Nat) (h : 0 < capacity) (records : List Record)
    (limit : Option Int) (limits : Limits) :
    let t := (empty capacity h).recordAll records
    let entries := records.map Record.entry
    let n := within limit (min records.length capacity)
    create capacity limits =
        (Refusal.room capacity 8 limits).map (fun _ => empty capacity h) ∧
      t.entries limit = entries.rtake n ∧ (t.entries limit).length = n ∧
      t.count = min records.length capacity ∧
      t.last? = entries.getLast? ∧
      t.lines limit = (entries.rtake n).map Entry.line ∧
      ∀ k < n, t.slots[(((t.next : Int) - n + k) % capacity).toNat]? =
        some (entries.rtake n)[k]? := by
  intro t entries n
  have few : n ≤ min records.length capacity := within_le limit _
  have read : t.entries limit = entries.rtake n := entries_recordAll capacity h records limit
  refine ⟨dif_pos (by omega), read, ?_, count_recordAll capacity h records,
    last?_recordAll capacity h records, congrArg _ read, ?_⟩
  · rw [read, List.rtake, List.length_drop, List.length_map]
    omega
  · intro k inside
    exact slot_recordAll capacity h records few inside

/-- Five records in three slots, of which two are read, or all, or none. -/
theorem newest_of_records_past_the_end :
    let seen (pc : Int) (note : String) : Record := ⟨{ pc }, some pc, "", note⟩
    let records := [seen 0x200 "a", seen 0x202 "b", seen 0x204 "c", seen (-2) "d", seen 0x206 "e"]
    let t := (empty 3 (Nat.succ_pos 2)).recordAll records
    0 < 3 ∧ t.count = 3 ∧
      t.entries (some 2) = [(seen 0xFFFE "d").entry, (seen 0x206 "e").entry] ∧
      t.entries (some 9) = [(seen 0x204 "c").entry, (seen (-2) "d").entry, (seen 0x206 "e").entry] ∧
      t.entries (some (-1)) = [] ∧ t.last? = some (seen 0x206 "e").entry := by
  intro seen records t
  have law := newest_of_records 3 (Nat.succ_pos 2) records
  obtain ⟨-, two, -, count, last, -⟩ := law (some 2) {}
  obtain ⟨-, all, -⟩ := law (some 9) {}
  obtain ⟨-, none, -⟩ := law (some (-1)) {}
  exact ⟨by decide, count, two, all, none, last⟩

end Chip8.Trace
