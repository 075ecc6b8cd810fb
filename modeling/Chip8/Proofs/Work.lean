/-
# Chip8.Proofs.Work — stores into single cells, and calls made of them

A call stores cell by cell, and a store that was made stays made. An index inside a row means the
cell with that number, so a row of stores that begins inside and fits is carried out to its end
(`on_storeBytes`, `on_storeAll`). The checks of a call come before its first store and are enough
for this; what the call comes to is then what the operation of the part says, as a whole or not at
all (`commit`).
-/
import Chip8.Machine.Call
import Chip8.Proofs.Memory

namespace Chip8

set_option autoImplicit false

theorem Registers.val_of_index {k : Int} {x : Nibble} (named : index k = .ok x) : k = x.val := by
  unfold index at named
  split at named
  · cases named
    exact (Int.toNat_of_nonneg (by omega)).symm
  · cases named

theorem Keypad.val_of_index {k : Int} {x : Nibble} (named : index k = .ok x) : k = x.val := by
  unfold index at named
  split at named
  · cases named
    exact (Int.toNat_of_nonneg (by omega)).symm
  · cases named

theorem Display.cell_eq_getElem {d : Display} {k : Nat} (inside : k < d.cells.size) :
    d.cell k = d.cells[k] := by
  rw [cell, Array.getD_eq_getD_getElem?, Array.getElem?_eq_getElem inside]
  rfl

namespace Work

variable {α β : Type}

/-! ## Putting work together -/

@[simp] theorem on_pure (a : α) (b : Bench) : (pure a : Work α).on b = (.ok a, b) := rfl

@[simp] theorem on_get (b : Bench) : (get : Work Bench).on b = (.ok b, b) := rfl

/-- After work that was done, the rest goes on from the bench it left. -/
theorem on_bind_of_ok {work : Work α} {next : α → Work β} {b b' : Bench} {a : α}
    (first : work.on b = (.ok a, b')) : (work >>= next).on b = (next a).on b' := by
  change (match work.on b with | (a, b') => ExceptT.bindCont next a b') = _
  rw [first]
  rfl

/-- After trouble nothing more happens. -/
theorem on_bind_of_error {work : Work α} {next : α → Work β} {b b' : Bench} {e : Trouble}
    (first : work.on b = (.error e, b')) : (work >>= next).on b = (.error e, b') := by
  change (match work.on b with | (a, b') => ExceptT.bindCont next a b') = _
  rw [first]
  rfl

/-! ## Single cells -/

/-- An index inside a row means the cell with that number. -/
theorem cell?_natCast {size k : Nat} (inside : k < size) : cell? size k = some ⟨k, inside⟩ := by
  rw [cell?, dif_pos (by omega)]
  rfl

section

variable (b : Bench)

theorem on_storeByte {k : Nat} (v : Byte) (inside : k < b.machine.memory.size) :
    (storeByte k v).on b =
      (.ok (), b.exchange { b.machine with memory := b.machine.memory.poke k v }) := by
  rw [storeByte, on_bind_of_ok (on_get b), cell?_natCast inside]
  rfl

theorem on_storeSlot {k : Nat} (w : Word) (inside : k < b.machine.stack.slots.size) :
    (storeSlot k w).on b =
      (.ok (), b.exchange { b.machine with stack := b.machine.stack.put ⟨k, inside⟩ w }) := by
  rw [storeSlot, on_bind_of_ok (on_get b), cell?_natCast inside]
  rfl

theorem on_slot {k : Nat} (inside : k < b.machine.stack.slots.size) :
    (slot k).on b = (.ok b.machine.stack.slots[k], b) := by
  rw [slot, on_bind_of_ok (on_get b), cell?_natCast inside]
  rfl

theorem on_storeDepth {depth : Nat} (fits : depth ≤ b.machine.stack.slots.size) :
    (storeDepth depth).on b =
      (.ok (), b.exchange { b.machine with stack := b.machine.stack.reach depth fits }) := by
  rw [storeDepth, on_bind_of_ok (on_get b)]
  simp only [fits, dif_pos]
  rfl

theorem on_storeRegister (x : Nibble) (v : Byte) :
    (storeRegister x.val v).on b =
      (.ok (), b.exchange { b.machine with registers := b.machine.registers.set x v }) := by
  rw [storeRegister, on_bind_of_ok (on_get b), cell?_natCast x.isLt]
  rfl

theorem on_storeKey (k : Nibble) (down : Bool) :
    (storeKey k.val down).on b =
      (.ok (), b.exchange { b.machine with keypad := b.machine.keypad.put k down }) := by
  rw [storeKey, on_bind_of_ok (on_get b), cell?_natCast k.isLt]
  rfl

theorem on_pixels {k : Nat} (inside : k < b.machine.display.cells.size) :
    (pixels k).on b = (.ok (b.machine.display.cell k), b) := by
  rw [pixels, on_bind_of_ok (on_get b), cell?_natCast inside, Display.cell_eq_getElem inside]
  rfl

theorem on_storePixels {k : Nat} (v : Byte) (inside : k < b.machine.display.cells.size) :
    (storePixels k v).on b =
      (.ok (), b.exchange { b.machine with display := b.machine.display.put ⟨k, inside⟩ v }) := by
  rw [storePixels, on_bind_of_ok (on_get b), cell?_natCast inside]
  rfl

/-! ## Rows of cells -/

/-- A block that lies in memory is stored byte by byte. -/
theorem on_storeBytes {k : Nat} {values : List Byte}
    (fits : k + values.length ≤ b.machine.memory.size) :
    (storeAll storeByte k values).on b =
      (.ok (), b.exchange { b.machine with memory := b.machine.memory.pokes k values }) := by
  induction values generalizing b k with
  | nil => rfl
  | cons v rest ih =>
      rw [List.length_cons] at fits
      rw [storeAll, on_bind_of_ok (on_storeByte b v (by omega))]
      refine (ih _ (k := k + 1) ?_).trans rfl
      show k + 1 + rest.length ≤ (b.machine.memory.poke k v).size
      rw [Memory.size_poke]
      omega

/-- A row of cells is stored to its end, if each of its cells can be stored and nothing else is
touched (`Only`). -/
theorem on_storeAll {α : Type} {store : Int → α → Work Unit} (row : Bench → List α)
    (Only : Bench → Bench → Prop) (refl : ∀ b, Only b b)
    (trans : ∀ {b b' b''}, Only b b' → Only b' b'' → Only b b'')
    (stored : ∀ b (k : Nat) v, k < (row b).length →
      ∃ after, (store k v).on b = (.ok (), after) ∧ row after = (row b).set k v ∧ Only b after)
    {k : Nat} {values : List α} (ends : k + values.length = (row b).length) :
    ∃ after, (storeAll store k values).on b = (.ok (), after) ∧
      row after = (row b).take k ++ values ∧ Only b after := by
  induction values generalizing b k with
  | nil =>
      have whole : (row b).take k = row b := List.take_of_length_le (by simp at ends; omega)
      exact ⟨b, rfl, by rw [whole, List.append_nil], refl b⟩
  | cons v rest ih =>
      rw [List.length_cons] at ends
      obtain ⟨next, first, changed, only⟩ := stored b k v (by omega)
      obtain ⟨after, second, shown, only'⟩ := ih next (k := k + 1) (by
        rw [changed, List.length_set]
        omega)
      refine ⟨after, ?_, ?_, trans only only'⟩
      · rw [storeAll, on_bind_of_ok first]
        exact second
      · rw [shown, changed, List.take_add_one, List.take_set_of_le (Nat.le_refl k),
          List.getElem?_set_self (by omega), Option.toList_some, List.append_assoc]
        rfl

end

/-! ## Calls on memory, stack, registers and keys -/

/-- What work comes to that is done as a whole or not at all. -/
def commit {α : Type} (b : Bench) : Except Failure (α × Bench) → Except Trouble α × Bench
  | .ok (a, after) => (.ok a, after)
  | .error reason => (.error (.failure reason), b)

section

variable (b : Bench)

/-- Checked work comes to what follows the check, or to its fault. -/
theorem on_checked {check : Except Fault α} {next : α → Work β}
    {r : α → Except Failure (β × Bench)}
    (follows : ∀ a, check = .ok a → (next a).on b = commit b (r a)) :
    (ofFault check >>= next).on b = commit b (check.mapError Failure.fault >>= r) := by
  cases checked : check with
  | error f =>
      have stopped : (ofFault (.error f) : Work α).on b = (.error (.failure (.fault f)), b) := rfl
      exact on_bind_of_error stopped
  | ok a =>
      have passed : (ofFault (.ok a)).on b = (.ok a, b) := rfl
      rw [on_bind_of_ok passed]
      exact follows a checked

theorem on_store (address value : Int) :
    (store address value).on b =
      commit b (do
        let memory ← (b.machine.memory.store address value).mapError Failure.fault
        return ((), b.exchange { b.machine with memory })) := by
  rw [store, on_bind_of_ok (on_get b), Memory.store]
  refine (on_checked b (r := fun _ => .ok ((), b.exchange
    { b.machine with memory := b.machine.memory.poke address.toNat (BitVec.ofInt 8 value) }))
    fun _ checked => ?_).trans ?_
  · obtain ⟨nonneg, below, -⟩ := (Memory.check_eq_ok_iff ..).1 checked
    obtain ⟨a, rfl⟩ := Int.eq_ofNat_of_zero_le nonneg
    exact on_storeByte b _ (by omega)
  · cases b.machine.memory.check address 1 <;> rfl

theorem on_writeBlock (address : Int) (values : List Int) :
    (writeBlock address values).on b =
      commit b (do
        let bytes := values.map (BitVec.ofInt 8)
        let memory ← (b.machine.memory.writeBlock address bytes).mapError Failure.fault
        return ((), b.exchange { b.machine with memory })) := by
  rw [writeBlock, on_bind_of_ok (on_get b)]
  refine (on_checked b (r := fun _ => .ok ((), b.exchange
    { b.machine with
      memory := b.machine.memory.pokes address.toNat (values.map (BitVec.ofInt 8)) }))
    fun _ checked => ?_).trans ?_
  · obtain ⟨nonneg, -, fits⟩ := (Memory.check_eq_ok_iff ..).1 checked
    obtain ⟨a, rfl⟩ := Int.eq_ofNat_of_zero_le nonneg
    exact on_storeBytes b (by rw [List.length_map]; omega)
  · dsimp only
    rw [Memory.writeBlock_eq, List.length_map]
    cases b.machine.memory.check address values.length <;> rfl

theorem on_push (address : Int) :
    (push address).on b =
      commit b (do
        let stack ← (b.machine.stack.push address).mapError Failure.fault
        return ((), b.exchange { b.machine with stack })) := by
  rw [push, on_bind_of_ok (on_get b), Stack.push, Stack.capacity]
  by_cases room : b.machine.stack.depth < b.machine.stack.slots.size
  · have fits : b.machine.stack.depth + 1 ≤
        (b.machine.stack.put ⟨b.machine.stack.depth, room⟩ (BitVec.ofInt 16 address)).slots.size :=
      Nat.le_of_lt_succ (by simpa [Stack.put] using room)
    rw [if_neg (Nat.not_le.2 room), dif_pos room, on_bind_of_ok (on_storeSlot b _ room)]
    exact on_storeDepth (b.exchange _) fits
  · rw [if_pos (Nat.not_lt.1 room), dif_neg room]
    rfl

theorem on_pop :
    pop.on b =
      commit b (do
        let (address, stack) ← b.machine.stack.pop.mapError Failure.fault
        return (address, b.exchange { b.machine with stack })) := by
  have fits := b.machine.stack.depth_le
  rw [pop, on_bind_of_ok (on_get b), Stack.pop, Stack.peek]
  by_cases empty : b.machine.stack.depth = 0
  · rw [if_pos empty, if_pos empty]
    rfl
  · have inside : b.machine.stack.depth - 1 < b.machine.stack.slots.size := by omega
    rw [if_neg empty, if_neg empty, Array.getElem?_eq_getElem inside,
      on_bind_of_ok (on_storeDepth b (Nat.le_of_lt inside))]
    exact on_slot (b.exchange { b.machine with
      stack := b.machine.stack.reach (b.machine.stack.depth - 1) (Nat.le_of_lt inside) }) inside

theorem on_setRegister (k value : Int) :
    (setRegister k value).on b =
      commit b (do
        let registers ← (b.machine.registers.store k value).mapError Failure.fault
        return ((), b.exchange { b.machine with registers })) := by
  rw [setRegister, Registers.store]
  refine (on_checked b (r := fun x => .ok ((), b.exchange
    { b.machine with registers := b.machine.registers.set x (BitVec.ofInt 8 value) }))
    fun x named => ?_).trans ?_
  · rw [Registers.val_of_index named]
    exact on_storeRegister b x _
  · cases Registers.index k <;> rfl

theorem on_setKey (k : Int) (down : Bool) :
    (setKey k down).on b =
      commit b (do
        let keys := b.machine.keypad
        let keypad ← (if down then keys.press k else keys.release k).mapError Failure.fault
        return ((), b.exchange { b.machine with keypad })) := by
  rw [setKey]
  refine (on_checked b (r := fun x => .ok ((), b.exchange
    { b.machine with keypad := b.machine.keypad.put x down })) fun x named => ?_).trans ?_
  · rw [Keypad.val_of_index named]
    exact on_storeKey b x down
  · cases down <;> simp only [Keypad.press, Keypad.release] <;> cases Keypad.index k <;> rfl

/-- The sixteen keys are stored one after another. -/
theorem on_storeKeys {states : List Bool} (sixteen : states.length = 16) :
    (storeAll storeKey 0 states).on b =
      (.ok (), b.exchange { b.machine with
        keypad := ⟨⟨states.toArray, by simpa using sixteen⟩⟩ }) := by
  have stored (b : Bench) (k : Nat) (down : Bool)
      (inside : k < b.machine.keypad.keys.toList.length) :
      ∃ after, (storeKey k down).on b = (.ok (), after) ∧
        after.machine.keypad.keys.toList = b.machine.keypad.keys.toList.set k down ∧
        ∃ keypad, after = b.exchange { b.machine with keypad } := by
    rw [Vector.length_toList] at inside
    refine ⟨_, on_storeKey b ⟨k, inside⟩ down, ?_, _, rfl⟩
    exact Vector.toList_set inside
  have ends : 0 + states.length = b.machine.keypad.keys.toList.length := by
    rw [Vector.length_toList]
    omega
  obtain ⟨after, done, row, keypad, rfl⟩ := on_storeAll b
    (fun b => b.machine.keypad.keys.toList)
    (fun b after => ∃ keypad, after = b.exchange { b.machine with keypad })
    (fun b => ⟨b.machine.keypad, rfl⟩)
    (by
      rintro b _ _ ⟨_, rfl⟩ ⟨keypad, rfl⟩
      exact ⟨keypad, rfl⟩)
    stored ends
  refine done.trans ?_
  obtain ⟨⟨⟨shown⟩, size⟩⟩ := keypad
  obtain rfl : shown = states := row
  rfl

theorem on_setKeys (states : List Bool) :
    (setKeys states).on b =
      commit b (do
        let machine ← (b.machine.setKeys states).mapError Failure.refusal
        return ((), b.exchange machine)) := by
  rw [setKeys, Machine.setKeys, Keypad.ofStates]
  by_cases sixteen : states.length = 16
  · rw [if_neg (Decidable.not_not.2 sixteen), dif_pos sixteen]
    exact on_storeKeys b sixteen
  · rw [if_pos sixteen, dif_neg sixteen]
    rfl

/-! ## Pictures -/

/-- The bytes of a picture are stored one after another. -/
theorem on_storePicture {bytes : List Byte}
    (whole : bytes.length = b.machine.display.stride * b.machine.display.height) :
    (storeAll storePixels 0 bytes).on b =
      (.ok (), b.exchange { b.machine with
        display := { b.machine.display with
          cells := bytes.toArray, size_cells := by simpa using whole } }) := by
  have stored (b : Bench) (k : Nat) (v : Byte)
      (inside : k < b.machine.display.cells.toList.length) :
      ∃ after, (storePixels k v).on b = (.ok (), after) ∧
        after.machine.display.cells.toList = b.machine.display.cells.toList.set k v ∧
        ∃ d : Display, d.stride = b.machine.display.stride ∧ d.height = b.machine.display.height ∧
          after = b.exchange { b.machine with display := d } := by
    rw [Array.length_toList] at inside
    refine ⟨_, on_storePixels b v inside, ?_, b.machine.display.put ⟨k, inside⟩ v, rfl, rfl, rfl⟩
    exact Array.toList_set _ k v inside
  have ends : 0 + bytes.length = b.machine.display.cells.toList.length := by
    rw [Nat.zero_add, whole, ← b.machine.display.size_cells, Array.length_toList]
  obtain ⟨after, done, row, d, stride, height, rfl⟩ := on_storeAll b
    (fun b => b.machine.display.cells.toList)
    (fun b after => ∃ d : Display, d.stride = b.machine.display.stride ∧
      d.height = b.machine.display.height ∧ after = b.exchange { b.machine with display := d })
    (fun b => ⟨b.machine.display, rfl, rfl, rfl⟩)
    (by
      rintro b _ _ ⟨_, stride, height, rfl⟩ ⟨d, stride', height', rfl⟩
      exact ⟨d, stride'.trans stride, height'.trans height, rfl⟩)
    stored ends
  refine done.trans ?_
  obtain ⟨_, _, ⟨shown⟩, _, _, _⟩ := d
  obtain rfl : shown = bytes := row
  subst stride height
  rfl

theorem on_showBytes (values : List Int) :
    (showBytes values).on b =
      commit b (do
        let display ← (b.machine.display.loadValues values).mapError Failure.refusal
        return ((), b.exchange { b.machine with display })) := by
  have size := b.machine.display.size_cells
  have ranged : (values.any fun v => decide (v < 0 ∨ 256 ≤ v)) =
      !values.all fun v => decide (0 ≤ v ∧ v < 256) := by
    rw [List.not_all_eq_any_not]
    refine congrArg (List.any values) (funext fun v => ?_)
    by_cases byte : 0 ≤ v ∧ v < 256
    · rw [decide_eq_true byte, decide_eq_false (by omega)]
      rfl
    · rw [decide_eq_false byte, decide_eq_true (by omega)]
      rfl
  rw [showBytes, on_bind_of_ok (on_get b), Display.loadValues, ranged]
  cases values.all fun v => decide (0 ≤ v ∧ v < 256) with
  | false => rfl
  | true =>
      rw [if_neg (by decide), if_pos rfl, Display.load]
      by_cases whole : values.length = b.machine.display.cells.size
      · have counted : (values.map (BitVec.ofInt 8)).length =
            b.machine.display.stride * b.machine.display.height := by
          rw [List.length_map]
          omega
        rw [if_neg (Decidable.not_not.2 whole), dif_pos counted]
        exact on_storePicture b counted
      · rw [if_pos whole, dif_neg (by rw [List.length_map]; omega), List.length_map, size]
        rfl

end

end Work

end Chip8
