/-
# Chip8.Proofs.Stack — slots and a pointer behave as a list

A push writes a slot and a pop only moves the pointer, so what a stack was used for stays in
its slots. On the addresses in use the two are the operations of a list (`live_of_push`,
`live_of_pop`), and they fail exactly when that list is full or empty
(`push_eq_error_iff`, `pop_eq_error_iff`). Slots hold nothing but what was pushed
(`mem_slots_of_push`).
-/
import Chip8.Stack

namespace Chip8.Stack

set_option autoImplicit false

/-! ## When they fail -/

theorem live_eq_nil_iff (s : Stack) : s.live = [] ↔ s.depth = 0 := by
  rw [← List.length_eq_zero_iff, length_live]

theorem pop_eq_error_iff (s : Stack) (f : Fault) :
    s.pop = .error f ↔ s.live = [] ∧ f = .stackUnderflow := by
  rw [live_eq_nil_iff]
  have inside := s.depth_le
  unfold pop peek
  by_cases empty : s.depth = 0
  · simp [empty, eq_comm]
  · have top : s.slots[s.depth - 1]? = some s.slots[s.depth - 1] :=
      Array.getElem?_eq_getElem (by omega)
    simp [empty, top]

theorem push_eq_error_iff (s : Stack) (address : Int) (f : Fault) :
    s.push address = .error f ↔ s.live.length = s.capacity ∧ f = .stackOverflow := by
  rw [length_live, capacity]
  have inside := s.depth_le
  unfold push
  by_cases room : s.depth < s.slots.size
  · simp [room, Nat.ne_of_lt room]
  · simp [Nat.le_antisymm inside (Nat.le_of_not_lt room), eq_comm]

/-! ## What they do -/

variable {s s' : Stack} {address : Int} {a b : Word}

/-- What a push that succeeds gives. -/
theorem push_eq_ok (pushed : s.push address = .ok s') :
    ∃ room : s.depth < s.slots.size,
      s'.slots = s.slots.set s.depth (BitVec.ofInt 16 address) ∧ s'.depth = s.depth + 1 := by
  unfold push at pushed
  split at pushed
  · rename_i room
    cases pushed
    exact ⟨room, rfl, rfl⟩
  · cases pushed

/-- What a pop that succeeds gives. -/
theorem pop_eq_ok (popped : s.pop = .ok (a, s')) :
    s'.slots = s.slots ∧ s'.depth = s.depth - 1 ∧ s.depth ≠ 0 ∧
      s.slots[s.depth - 1]? = some a := by
  unfold pop peek at popped
  split at popped
  · cases popped
  · rename_i top found
    cases popped
    split at found
    · cases found
    · rename_i nonempty
      exact ⟨rfl, rfl, nonempty, found⟩

theorem live_of_push (pushed : s.push address = .ok s') :
    s'.live = s.live ++ [BitVec.ofInt 16 address] := by
  obtain ⟨room, slots, depth⟩ := push_eq_ok pushed
  have inside : s.depth < s.slots.toList.length := room
  rw [live, live, slots, depth, Array.toList_set, List.take_succ_eq_append_getElem (by simpa),
    List.take_set_of_le (Nat.le_refl _), List.getElem_set_self]

theorem live_of_pop (popped : s.pop = .ok (a, s')) : s.live = s'.live ++ [a] := by
  obtain ⟨slots, depth, nonempty, top⟩ := pop_eq_ok popped
  have last : s.slots.toList[s.depth - 1]? = some a := by rw [Array.getElem?_toList, top]
  have count : s.depth = s.depth - 1 + 1 := by omega
  rw [live, live, slots, depth, count, List.take_add_one, Nat.add_sub_cancel, last]
  rfl

theorem capacity_of_push (pushed : s.push address = .ok s') : s'.capacity = s.capacity := by
  obtain ⟨room, slots, -⟩ := push_eq_ok pushed
  rw [capacity, capacity, slots, Array.size_set]

theorem capacity_of_pop (popped : s.pop = .ok (a, s')) : s'.capacity = s.capacity := by
  obtain ⟨slots, -⟩ := pop_eq_ok popped
  rw [capacity, capacity, slots]

/-- After a push the slots hold the pushed address and what they held before. -/
theorem mem_slots_of_push (pushed : s.push address = .ok s') (inside : b ∈ s'.slots) :
    b = BitVec.ofInt 16 address ∨ b ∈ s.slots := by
  obtain ⟨room, slots, -⟩ := push_eq_ok pushed
  rw [slots] at inside
  exact (Array.mem_or_eq_of_mem_set inside).symm

theorem mem_slots_of_pop (popped : s.pop = .ok (a, s')) : a ∈ s.slots := by
  obtain ⟨-, -, -, top⟩ := pop_eq_ok popped
  exact Array.mem_of_getElem? top

end Chip8.Stack
