/-
# Chip8.Trace — the last instructions of a run

A trace is a ring of slots. Each record goes into the next slot and, once all are
in use, replaces the oldest one; `entries` reads the ring from the oldest record
to the newest. An entry keeps the state before its instruction, cut to the widths
of the machine, the opcode if one was fetched, and a note.
-/
import Chip8.Machine

namespace Chip8

set_option autoImplicit false

/-- The registers and timers of a machine, or what a host says they are. -/
structure Snapshot where
  pc : Int := 0
  i : Int := 0
  sp : Int := 0
  v : List Int := List.replicate 16 0
  delay : Int := 0
  sound : Int := 0
  deriving DecidableEq, Repr

def Machine.snapshot (m : Machine) : Snapshot where
  pc := m.registers.pc
  i := m.registers.i
  sp := m.stack.depth
  v := m.registers.v.toList.map fun b => (b.toNat : Int)
  delay := m.timers.delay.toNat
  sound := m.timers.sound.toNat

namespace Trace

structure Entry where
  pc : Word
  opcode : Option Word
  mnemonic : String
  v : List Byte
  i : Word
  sp : Int
  delay : Byte
  sound : Byte
  note : String
  deriving DecidableEq, Repr

namespace Entry

def ofSnapshot (s : Snapshot) (opcode : Option Int) (mnemonic note : String) : Entry where
  pc := BitVec.ofInt 16 s.pc
  opcode := opcode.map (BitVec.ofInt 16)
  mnemonic := mnemonic
  v := s.v.map (BitVec.ofInt 8)
  i := BitVec.ofInt 16 s.i
  sp := s.sp
  delay := BitVec.ofInt 8 s.delay
  sound := BitVec.ofInt 8 s.sound
  note := note

open Text in
def line (e : Entry) : String :=
  let mnemonic := if e.mnemonic = "" then "?" else e.mnemonic
  "pc=" ++ upperHex 4 e.pc.toNat
    ++ " opcode=" ++ (match e.opcode with | some w => upperHex 4 w.toNat | none => "----")
    ++ " " ++ String.ofList (Numeral.alignLeft 16 mnemonic.toList)
    ++ " V=[" ++ " ".intercalate (e.v.map fun b => upperHex 2 b.toNat)
    ++ "] I=" ++ upperHex 4 e.i.toNat
    ++ " SP=" ++ String.ofList (Numeral.zeroPadded .decimal 2 [] e.sp)
    ++ " DT=" ++ upperHex 2 e.delay.toNat
    ++ " ST=" ++ upperHex 2 e.sound.toNat
    ++ " note=" ++ (if e.note = "" then "-" else e.note)

end Entry

end Trace

/-- A ring of slots: `next` is the slot of the next record, `count` the number of slots in use. -/
structure Trace where
  slots : Array (Option Trace.Entry)
  next : Nat
  count : Nat
  next_lt : next < slots.size
  count_le : count ≤ slots.size
  deriving DecidableEq

namespace Trace

def empty (capacity : Nat) (h : 0 < capacity) : Trace :=
  ⟨Array.replicate capacity none, 0, 0, by simpa using h, by simp⟩

/-- An empty trace of any positive capacity that there is room for. -/
def create (capacity : Int) (limits : Limits := {}) : Except Refusal Trace :=
  if h : 0 < capacity then
    (Refusal.room capacity.toNat 8 limits).map fun _ => empty capacity.toNat (Refusal.toNat_pos h)
  else .error .capacity

def capacity (t : Trace) : Nat := t.slots.size

theorem capacity_pos (t : Trace) : 0 < t.capacity := Nat.lt_of_le_of_lt (Nat.zero_le _) t.next_lt

def record (t : Trace) (e : Entry) : Trace where
  slots := t.slots.set t.next (some e) t.next_lt
  next := (t.next + 1) % t.capacity
  count := if t.count < t.capacity then t.count + 1 else t.count
  next_lt := by rw [Array.size_set]; exact Nat.mod_lt _ t.capacity_pos
  count_le := by
    have := t.count_le
    rw [Array.size_set]
    unfold capacity
    split <;> omega

/-- The record `k` places after the oldest of the `n` newest ones. -/
def entry? (t : Trace) (n k : Nat) : Option Entry :=
  (t.slots[(t.next + t.capacity - n + k) % t.capacity]?).join

/-- The newest records from the oldest on, at most `limit` of them if a limit is given. -/
def entries (t : Trace) (limit : Option Int) : List Entry :=
  let n := match limit with
    | none => t.count
    | some limit => min t.count limit.toNat
  (List.range n).filterMap (t.entry? n)

def last? (t : Trace) : Option Entry := if t.count = 0 then none else t.entry? 1 0

def lines (t : Trace) (limit : Option Int) : List String := (t.entries limit).map Entry.line

def dump (t : Trace) (f : Log.Filter) (category : String) (limit : Option Int) : List String :=
  (t.lines limit).flatMap (f.write category)

@[simp] theorem capacity_record (t : Trace) (e : Entry) : (t.record e).capacity = t.capacity := by
  simp [record, capacity]

/-- The newest record is the one just added. -/
theorem last?_record (t : Trace) (e : Entry) : (t.record e).last? = some e := by
  have pos := t.capacity_pos
  have below : t.next < t.capacity := t.next_lt
  have used : (t.record e).count ≠ 0 := by
    simp only [record]
    split <;> omega
  have slot : ((t.record e).next + t.capacity - 1 + 0) % t.capacity = t.next := by
    show ((t.next + 1) % t.capacity + t.capacity - 1 + 0) % t.capacity = t.next
    by_cases wraps : t.next + 1 = t.capacity
    · rw [wraps, Nat.mod_self, Nat.zero_add, Nat.add_zero, Nat.mod_eq_of_lt (by omega)]
      omega
    · rw [Nat.mod_eq_of_lt (by omega : t.next + 1 < t.capacity)]
      rw [show t.next + 1 + t.capacity - 1 + 0 = t.next + t.capacity by omega, Nat.add_mod_right,
        Nat.mod_eq_of_lt below]
  rw [last?, if_neg used, entry?, capacity_record, slot]
  simp [record]

end Trace

end Chip8
