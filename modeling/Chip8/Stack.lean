/-
# Chip8.Stack — return addresses

A stack is a row of slots and the number of them in use. A push writes the first
free slot and a pop only lowers the count, so slots above it keep old values;
`live`, the list of the slots in use, is what a program can tell apart.
-/
import Chip8.Fault
import Chip8.Refusal

namespace Chip8

set_option autoImplicit false

/-- Slots for return addresses, the first `depth` of them in use. -/
structure Stack where
  slots : Array Word
  depth : Nat
  capacity_pos : 0 < slots.size
  depth_le : depth ≤ slots.size
  deriving DecidableEq

namespace Stack

def empty (capacity : Nat) (h : 0 < capacity) : Stack :=
  ⟨Array.replicate capacity 0, 0, by simpa using h, by simp⟩

/-- An empty stack of any positive capacity that there is room for. -/
def create (capacity : Int) (limits : Limits := {}) : Except Refusal Stack :=
  if h : 0 < capacity then
    (Refusal.room capacity.toNat 8 limits).map fun _ => empty capacity.toNat (Refusal.toNat_pos h)
  else .error .capacity

def standard : Stack := empty 16 (by decide)

instance : Inhabited Stack := ⟨standard⟩

def capacity (s : Stack) : Nat := s.slots.size

/-- The addresses on the stack, the oldest first. -/
def live (s : Stack) : List Word := s.slots.toList.take s.depth

/-- The address is added on top; it counts modulo 65536. -/
def push (s : Stack) (address : Int) : Except Fault Stack :=
  if h : s.depth < s.slots.size then
    .ok ⟨s.slots.set s.depth (BitVec.ofInt 16 address), s.depth + 1,
      by simpa using s.capacity_pos, by rw [Array.size_set]; exact h⟩
  else .error .stackOverflow

def peek (s : Stack) : Option Word :=
  if s.depth = 0 then none else s.slots[s.depth - 1]?

def pop (s : Stack) : Except Fault (Word × Stack) :=
  match s.peek with
  | none => .error .stackUnderflow
  | some top =>
      .ok (top, { s with
        depth := s.depth - 1, depth_le := Nat.le_trans (Nat.sub_le _ _) s.depth_le })

/-- All slots are zero and none is in use. -/
def reset (s : Stack) : Stack := empty s.capacity s.capacity_pos

@[simp] theorem length_live (s : Stack) : s.live.length = s.depth := by
  simp [live, Nat.min_eq_left s.depth_le]

@[simp] theorem capacity_reset (s : Stack) : s.reset.capacity = s.capacity := by
  simp [reset, empty, capacity]

@[simp] theorem live_reset (s : Stack) : s.reset.live = [] := rfl

end Stack

end Chip8
