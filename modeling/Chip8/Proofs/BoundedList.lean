/-
# Chip8.Proofs.BoundedList — a stack behaves as a list of bounded length

A stack keeps what was pushed in slots, and popping only lowers the number of slots in use, so the
slots above it hold what was pushed before. What can be told from outside are the addresses in use
alone: acts on a stack are answered as acts on the list of these are (`Stack.Act.holds_on`),
whatever stands in the other slots. Acts are carried out store by store here, so that an act that
fails might have stored something before; none has.

`Stack.stack_of_list` is the law of all sequences of acts. On lists it is plain that pops give back
in reverse what was pushed before them (`Stack.Act.pushed_and_popped`), and so they do on stacks.
-/
import Mathlib.Data.List.Induction
import Chip8.Proofs.Calls
import Chip8.Proofs.Stack
import Chip8.Proofs.Transcript

namespace Chip8.Stack

set_option autoImplicit false

/-- The address on top is the last one on the stack. -/
theorem peek_eq_getLast? (s : Stack) : s.peek = s.live.getLast? := by
  have inside := s.depth_le
  unfold peek
  rw [List.getLast?_eq_getElem?, length_live, live, List.getElem?_take, Array.getElem?_toList]
  by_cases empty : s.depth = 0
  · simp [empty]
  · rw [if_neg empty, if_pos (by omega)]

/-! ## Acts -/

inductive Act where
  | push (address : Int)
  | pop
  | peek
  | reset

namespace Act

/-- An act is carried out on the stack of a bench. Popping answers with an address, and peeking with
the address on top, if there is one. -/
def perform : Act → Work (Option Word)
  | .push address => do Work.push address; return none
  | .pop => do return some (← Work.pop)
  | .peek => do return (← get).machine.stack.peek
  | .reset => do
      let b ← get
      set (b.exchange { b.machine with stack := b.machine.stack.reset })
      return none

def on (b : Bench) (act : Act) : Except Trouble (Option Word) × Bench := act.perform.on b

/-- What an act comes to on a list that has room for some addresses. -/
def onList (capacity : Nat) (held : List Word) : Act → Except Trouble (Option Word) × List Word
  | .push address =>
      if held.length = capacity then (.error (.failure (.fault .stackOverflow)), held)
      else (.ok none, held ++ [BitVec.ofInt 16 address])
  | .pop =>
      match held.getLast? with
      | none => (.error (.failure (.fault .stackUnderflow)), held)
      | some top => (.ok (some top), held.dropLast)
  | .peek => (.ok held.getLast?, held)
  | .reset => (.ok none, [])

/-! ## Acts on a list -/

variable {capacity : Nat} {held : List Word}

/-- The addresses of pushes that succeed are behind the others. -/
theorem pushed {addresses : List Int}
    (room : ∀ r ∈ (transcript (onList capacity) held (addresses.map .push)).1, ∃ w, r = .ok w) :
    transcript (onList capacity) held (addresses.map .push) =
      (List.replicate addresses.length (.ok none),
        held ++ addresses.map (BitVec.ofInt 16)) := by
  induction addresses generalizing held with
  | nil => exact congrArg (Prod.mk []) (List.append_nil held).symm
  | cons address rest ih =>
      rw [List.map_cons, transcript_cons] at room ⊢
      obtain ⟨first, others⟩ := List.forall_mem_cons.1 room
      by_cases full : held.length = capacity
      · simp [onList, full] at first
      · simp only [onList, if_neg full] at others ⊢
        rw [ih others, List.append_assoc]
        rfl

/-- Pops give the last addresses, the last one first. -/
theorem popped (words : List Word) :
    transcript (onList capacity) (held ++ words) (List.replicate words.length .pop) =
      (words.reverse.map fun w => .ok (some w), held) := by
  -- the first pop takes the last address
  induction words using List.reverseRecOn with
  | nil => exact congrArg (Prod.mk []) (List.append_nil held)
  | append_singleton words w ih =>
      have top : (held ++ (words ++ [w])).getLast? = some w := by
        rw [← List.append_assoc, List.getLast?_concat]
      have rest : (held ++ (words ++ [w])).dropLast = held ++ words := by
        rw [← List.append_assoc, List.dropLast_concat]
      rw [List.length_append, List.length_singleton, List.replicate_succ, transcript_cons]
      simp only [onList, top, rest, ih, List.reverse_append, List.reverse_singleton,
        List.singleton_append, List.map_cons]

/-- After pushes that succeed and as many pops the list is as it was. -/
theorem pushed_and_popped {addresses : List Int}
    (room : ∀ r ∈ (transcript (onList capacity) held (addresses.map .push)).1, ∃ w, r = .ok w) :
    transcript (onList capacity) held
        (addresses.map .push ++ List.replicate addresses.length .pop) =
      (List.replicate addresses.length (.ok none) ++
        addresses.reverse.map fun address => .ok (some (BitVec.ofInt 16 address)), held) := by
  have pops := @popped capacity held (addresses.map (BitVec.ofInt 16))
  rw [List.length_map, ← List.map_reverse, List.map_map] at pops
  rw [transcript_append, pushed room, pops]
  rfl

/-! ## Acts on a stack -/

/-- What an act comes to by the operations of the stack: an answer and another bench, or a
failure. -/
def result (b : Bench) : Act → Except Failure (Option Word × Bench)
  | .push address => do
      let stack ← (b.machine.stack.push address).mapError .fault
      return (none, b.exchange { b.machine with stack })
  | .pop => do
      let (address, stack) ← b.machine.stack.pop.mapError .fault
      return (some address, b.exchange { b.machine with stack })
  | .peek => .ok (b.machine.stack.peek, b)
  | .reset => .ok (none, b.exchange { b.machine with stack := b.machine.stack.reset })

/-- An act happens as a whole or not at all. -/
theorem on_eq (b : Bench) (act : Act) : on b act = Work.commit b (act.result b) := by
  cases act with
  | push address => exact Work.on_answer b (fun _ => none) (Work.on_push b address)
  | pop => exact Work.on_answer b some (Work.on_pop b)
  | peek => rfl
  | reset => rfl

/-- An act that fails has changed nothing. -/
theorem on_of_failed {b : Bench} {act : Act} {e : Trouble} (failed : (on b act).1 = .error e) :
    (on b act).2 = b := by
  rw [on_eq] at failed ⊢
  cases came : act.result b with
  | error reason => rfl
  | ok done =>
      rw [came] at failed
      cases failed

/-- The stack of a bench holds the given addresses, and has the given number of slots. -/
structure Holds (capacity : Nat) (b : Bench) (held : List Word) : Prop where
  slots : b.machine.stack.capacity = capacity
  live : b.machine.stack.live = held

/-- An act on a stack is answered as the act on the list of its addresses, and leaves it as the
act leaves that list. -/
theorem holds_on {b : Bench} (act : Act) (h : Holds capacity b held) :
    (on b act).1 = (act.onList capacity held).1 ∧
      Holds capacity (on b act).2 (act.onList capacity held).2 := by
  obtain ⟨rfl, rfl⟩ := h
  rw [on_eq]
  cases act with
  | push address =>
      cases pushed : b.machine.stack.push address with
      | error f =>
          obtain ⟨full, rfl⟩ := (push_eq_error_iff ..).1 pushed
          rw [result, pushed, onList, if_pos full]
          exact ⟨rfl, rfl, rfl⟩
      | ok stack =>
          have room : b.machine.stack.live.length ≠ b.machine.stack.capacity := by
            intro full
            rw [(push_eq_error_iff _ address .stackOverflow).2 ⟨full, rfl⟩] at pushed
            cases pushed
          rw [result, pushed, onList, if_neg room]
          exact ⟨rfl, capacity_of_push pushed, live_of_push pushed⟩
  | pop =>
      cases popped : b.machine.stack.pop with
      | error f =>
          obtain ⟨empty, rfl⟩ := (pop_eq_error_iff ..).1 popped
          rw [result, popped, onList, empty]
          exact ⟨rfl, rfl, empty⟩
      | ok top =>
          obtain ⟨address, stack⟩ := top
          have last := live_of_pop popped
          rw [result, popped, onList, last, List.getLast?_concat, List.dropLast_concat]
          exact ⟨rfl, capacity_of_pop popped, rfl⟩
  | peek => exact ⟨congrArg Except.ok (peek_eq_getLast? _), rfl, rfl⟩
  | reset => exact ⟨rfl, capacity_reset _, rfl⟩

theorem holds_transcript {b : Bench} (h : Holds capacity b held) (acts : List Act) :
    (transcript on b acts).1 = (transcript (onList capacity) held acts).1 ∧
      Holds capacity (transcript on b acts).2 (transcript (onList capacity) held acts).2 :=
  transcript_eq (fun act h => holds_on act h) h acts

/-- Slots that are not in use do not matter: stacks with the same addresses are answered alike. -/
theorem answers_congr {b c : Bench} (h : Holds capacity b held) (h' : Holds capacity c held)
    (acts : List Act) : (transcript on b acts).1 = (transcript on c acts).1 :=
  (holds_transcript h acts).1.trans (holds_transcript h' acts).1.symm

end Act

open Act in
/-- The law of the stack. Acts on an empty stack are answered as the same acts on an empty list of
bounded length, whose addresses are then on the stack; an act that fails changes nothing; the slots
that are not in use do not matter for later answers; and pops give back in reverse what as many
pushes have put on the stack, which is then as before. -/
theorem stack_of_list (capacity : Nat) (h : 0 < capacity) (b : Bench)
    (new : b.machine.stack = empty capacity h) (acts : List Act) :
    let after := transcript on b acts
    let held := transcript (onList capacity) [] acts
    (after.1 = held.1 ∧ after.2.machine.stack.live = held.2 ∧
      after.2.machine.stack.depth = held.2.length ∧ held.2.length ≤ capacity) ∧
    (∀ (act : Act) (e : Trouble), (on after.2 act).1 = .error e → (on after.2 act).2 = after.2) ∧
    (∀ other : Bench,
      other.machine.stack.capacity = capacity → other.machine.stack.live = held.2 →
        ∀ later, (transcript on other later).1 = (transcript on after.2 later).1) ∧
    ∀ addresses : List Int,
      (∀ r ∈ (transcript on after.2 (addresses.map .push)).1, ∃ w, r = .ok w) →
        let back := transcript on after.2
          (addresses.map .push ++ List.replicate addresses.length .pop)
        back.1 = List.replicate addresses.length (.ok none) ++
            addresses.reverse.map (fun address => .ok (some (BitVec.ofInt 16 address))) ∧
          back.2.machine.stack.live = held.2 ∧ back.2.machine.stack.depth = held.2.length ∧
          ∀ later, (transcript on back.2 later).1 = (transcript on after.2 later).1 := by
  intro after held
  have start : Holds capacity b [] := by
    refine ⟨?_, ?_⟩
    · rw [new]
      exact Array.size_replicate
    · rw [new]
      rfl
  obtain ⟨answers, holds⟩ := holds_transcript start acts
  have depth {c : Bench} (h : Holds capacity c held.2) :
      c.machine.stack.depth = held.2.length := by
    rw [← h.live, length_live]
  refine ⟨⟨answers, holds.live, depth holds, ?_⟩, ?_, ?_, ?_⟩
  · rw [← depth holds, ← holds.slots]
    exact after.2.machine.stack.depth_le
  · exact fun act e failed => on_of_failed failed
  · exact fun other slots live later => answers_congr ⟨slots, live⟩ holds later
  · intro addresses room back
    rw [(holds_transcript holds _).1] at room
    obtain ⟨given, left⟩ := holds_transcript holds
      (addresses.map .push ++ List.replicate addresses.length .pop)
    rw [pushed_and_popped room] at given left
    exact ⟨given, left.live, depth left, fun later => answers_congr left holds later⟩

open Act in
/-- A stack with two slots: a push too many, what is popped and peeked at, and an address that takes
the place of an old one. -/
theorem stack_of_list_with_two_slots :
    let machine : Machine := { Machine.standard with stack := empty 2 (Nat.succ_pos 1) }
    let b : Bench := { machine }
    let acts : List Act := [.push 0x10200, .push (-1), .push 7, .pop, .peek]
    let after := transcript on b acts
    0 < 2 ∧ b.machine.stack = empty 2 (Nat.succ_pos 1) ∧
    after.1 = [.ok none, .ok none, .error (.failure (.fault .stackOverflow)), .ok (some 0xFFFF),
      .ok (some 0x200)] ∧
    (∀ r ∈ (transcript on after.2 [.push 0x333]).1, ∃ w, r = .ok w) ∧
    (transcript on after.2 [.push 0x333, .pop]).1 = [.ok none, .ok (some 0x333)] ∧
    (on after.2 .reset).1 = .ok none ∧
    ∃ other : Bench, other.machine.stack.live = after.2.machine.stack.live ∧
      other.machine.stack.slots ≠ after.2.machine.stack.slots ∧
      (transcript on other [.pop, .pop]).1 = (transcript on after.2 [.pop, .pop]).1 := by
  intro machine b acts after
  obtain ⟨⟨answers, live, -, -⟩, -, stale, back⟩ := stack_of_list 2 (Nat.succ_pos 1) b rfl acts
  have room : ∀ r ∈ (transcript on after.2 [.push 0x333]).1, ∃ w, r = .ok w := by
    intro r inside
    obtain rfl := List.mem_singleton.1 inside
    exact ⟨none, rfl⟩
  let other := (on b (.push 0x200)).2
  have shown : other.machine.stack.live = after.2.machine.stack.live := rfl
  refine ⟨by decide, rfl, answers, room, (back [0x333] room).1, rfl, other, shown, ?_, ?_⟩
  · decide +kernel
  · exact stale other rfl (shown.trans live) [.pop, .pop]

end Chip8.Stack
