/-
# Chip8.Proofs.Waiting — the instruction that waits for a key

The instruction that waits for a key moves the program counter back when no key is down, and so is
executed again. A host that goes on executing it may let time pass and change keys in between. What
is left of all that are the timers, the keys and the number of executed instructions
(`run_of_waiting`): the program counter comes back to its place exactly, at the first byte of
memory as at the last word. When a key is down the instruction takes the lowest one and is passed.
-/
import Mathlib.Logic.Function.Iterate
import Chip8.Console.Session
import Chip8.Proofs.Untouched

namespace Chip8

set_option autoImplicit false

/-! ## One instruction -/

theorem Operation.means_wait (x : Nibble) : ofOpcode? (Opcode.fx x 0x0A) = some .waitKey :=
  ofOpcode?_fx x (by decide)

namespace Machine

variable (dialect : Dialect) (log : Log.Filter) {m : Machine} {x : Nibble}

/-- At the program counter stands the instruction that waits for a key, in the standard memory. -/
structure Awaits (m : Machine) (x : Nibble) : Prop where
  size : m.memory.size = 4096
  nonneg : 0 ≤ m.registers.pc
  below : m.registers.pc ≤ 4094
  word : m.memory.word m.registers.pc.toNat = Opcode.fx x 0x0A

namespace Awaits

theorem fetch (h : m.Awaits x) : m.fetch = .ok (Opcode.fx x 0x0A) := by
  have size := h.size
  have below := h.below
  exact (fetch_eq_ok_iff ..).2 ⟨h.nonneg, by omega, h.word.symm⟩

/-- When no key is down the instruction counts itself and is back at its place. -/
theorem step_of_up (h : m.Awaits x) (up : ∀ k, m.keypad.isDown k = false) :
    ∃ row, (m.step { dialect, log }).outcome = .ok row ∧
      (m.step { dialect, log }).machine = { m with cycles := m.cycles + 1 } := by
  have nonneg := h.nonneg
  have below := h.below
  have up' : m.skip.keypad.first? = none := (Keypad.first?_eq_none_iff _).2 up
  have rewound : (m.registers.pc + 2 - 2) % 0x10000 = m.registers.pc := by omega
  have back : m.skip.jump ((m.skip.registers.pc - 2) % 0x10000) = m := by
    rw [skip_of_lt nonneg (by omega)]
    change m.jump ((m.registers.pc + 2 - 2) % 0x10000) = m
    rw [rewound]
    rfl
  have applied : Operation.waitKey.apply dialect (Opcode.fx x 0x0A) m.skip = .ok m := by
    simp only [Operation.apply, up', back]
  exact done_of_applied log h.fetch (Operation.means_wait x) applied

/-- When a key is down the instruction writes the lowest one to its register and is passed. -/
theorem step_of_down (h : m.Awaits x) (down : ∃ k, m.keypad.isDown k = true) :
    ∃ k, m.keypad.isDown k = true ∧ (∀ j < k, m.keypad.isDown j = false) ∧
      ∃ row, (m.step { dialect, log }).outcome = .ok row ∧
        (m.step { dialect, log }).machine =
          ({ m with cycles := m.cycles + 1 }.put x (BitVec.ofNat 8 k.val)).jump
            (m.registers.pc + 2) := by
  have below := h.below
  cases found : m.keypad.first? with
  | none =>
      obtain ⟨k, held⟩ := down
      rw [(Keypad.first?_eq_none_iff _).1 found k] at held
      cases held
  | some k =>
      obtain ⟨held, lowest⟩ := (Keypad.first?_eq_some_iff _ k).1 found
      refine ⟨k, held, lowest, ?_⟩
      have applied : Operation.waitKey.apply dialect (Opcode.fx x 0x0A) m.skip =
          .ok (m.skip.put x (BitVec.ofNat 8 k.val)) := by
        have found' : m.skip.keypad.first? = some k := found
        simp only [Operation.apply, Opcode.x_fx x (show 0x0A < 0x100 by decide), found']
      obtain ⟨row, done, result⟩ := done_of_applied log h.fetch (Operation.means_wait x) applied
      refine ⟨row, done, ?_⟩
      rw [result, skip_of_lt h.nonneg (by omega)]
      rfl

end Awaits

end Machine

/-! ## Waiting -/

namespace Console

namespace Act

def waits : Act → Bool
  | .step | .tick | .setKeys _ | .press _ | .release _ | .liftKeys => true
  | _ => false

def isStep : Act → Bool
  | .step => true
  | _ => false

def isTick : Act → Bool
  | .tick => true
  | _ => false

/-- The keyboard and the keypad after an act of a host that waits. -/
def onKeys (keys : Keyboard × Keypad) : Act → Keyboard × Keypad
  | .setKeys states =>
      match Keypad.ofStates states with
      | .ok pad => (keys.1, pad)
      | .error _ => keys
  | .press name => keys.1.press keys.2 name
  | .release name => keys.1.release keys.2 name
  | .liftKeys => ({}, {})
  | _ => keys

end Act

/-- The console after a host has waited: the timers have run, the keys were changed, and the
instructions are counted. -/
def waited (c : Console) (acts : List Act) : Console :=
  let keys := acts.foldl Act.onKeys (c.keyboard, c.machine.keypad)
  { machine :=
      { c.machine with
        keypad := keys.2
        timers := Timers.tick^[acts.countP Act.isTick] c.machine.timers
        cycles := c.machine.cycles + acts.countP Act.isStep }
    keyboard := keys.1 }

variable {dialect : Dialect} {log : Log.Filter} {c : Console} {x : Nibble}

/-- Waiting moves neither the instruction nor the program counter. -/
theorem awaits_waited (h : c.machine.Awaits x) (acts : List Act) :
    (c.waited acts).machine.Awaits x :=
  ⟨h.size, h.nonneg, h.below, h.word⟩

/-- An instruction that finds no key down is counted. -/
theorem step_waited (h : c.machine.Awaits x) (up : ∀ k, c.machine.keypad.isDown k = false) :
    (∃ row, (c.machine.step { dialect, log }).outcome = .ok row) ∧
      c.act { dialect, log } .step = c.waited [.step] := by
  obtain ⟨row, done, result⟩ := h.step_of_up dialect log up
  refine ⟨⟨row, done⟩, ?_⟩
  rw [act, result]
  rfl

/-- Whatever else the host does is done to the timers and the keys. -/
theorem act_waited (s : Setting) (c : Console) {a : Act} (waits : a.waits = true)
    (other : a ≠ .step) : c.act s a = c.waited [a] := by
  cases a with
  | step => exact absurd rfl other
  | setKeys states =>
      cases given : Keypad.ofStates states with
      | error e =>
          simp only [act, Machine.setKeys, waited, List.foldl, Act.onKeys, given]
          rfl
      | ok pad =>
          simp only [act, Machine.setKeys, waited, List.foldl, Act.onKeys, given]
          rfl
  | tick => rfl
  | press name => rfl
  | release name => rfl
  | liftKeys => rfl
  | _ => cases waits

/-- Waiting can be taken up again. -/
theorem waited_waited (c : Console) (first second : List Act) :
    (c.waited first).waited second = c.waited (first ++ second) := by
  simp only [waited, List.foldl_append, List.countP_append, ← Function.iterate_add_apply,
    Nat.add_assoc, Nat.add_comm (List.countP Act.isTick second)]

/-- A host waits, and no key is down whenever the instruction is executed: the instructions succeed,
and the session leaves what waiting leaves. -/
theorem run_eq_waited {acts : List Act} (h : c.machine.Awaits x)
    (waits : ∀ a ∈ acts, a.waits = true)
    (up : c.EachStep { dialect, log } (fun m => ∀ k, m.keypad.isDown k = false) acts) :
    c.EachStep { dialect, log } (fun m => ∃ row, (m.step { dialect, log }).outcome = .ok row) acts ∧
      c.run { dialect, log } acts = c.waited acts := by
  induction acts generalizing c with
  | nil => exact ⟨eachStep_nil _ _ _, rfl⟩
  | cons a acts ih =>
      rw [List.forall_mem_cons] at waits
      rw [eachStep_cons] at up ⊢
      have first : c.act { dialect, log } a = c.waited [a] := by
        by_cases step : a = .step
        · subst step
          exact (step_waited h (up.1 rfl)).2
        · exact act_waited _ c waits.1 step
      rw [first] at up ⊢
      obtain ⟨each, rest⟩ := ih (awaits_waited h [a]) waits.2 up.2
      refine ⟨⟨fun step => (step_waited h (up.1 step)).1, each⟩, ?_⟩
      change (c.act { dialect, log } a).run { dialect, log } acts = c.waited ([a] ++ acts)
      rw [first, rest, waited_waited]

/-- Waiting for a key. In the standard memory, whose word at the program counter waits for a key, a
host may execute instructions, let time pass and change keys in any order. If no key is down
whenever an instruction is executed, each of them succeeds, and the console has waited and has done
nothing else. If then a key is down, the next instruction writes the lowest one to its register
and is passed. -/
theorem run_of_waiting (dialect : Dialect) (log : Log.Filter) (c : Console) (x : Nibble)
    (h : c.machine.Awaits x) (acts : List Act) (waits : ∀ a ∈ acts, a.waits = true)
    (up : c.EachStep { dialect, log } (fun m => ∀ k, m.keypad.isDown k = false) acts) :
    let s : Setting := { dialect, log }
    let last := (c.run s acts).machine
    c.EachStep s (fun m => ∃ row, (m.step s).outcome = .ok row) acts ∧
      c.run s acts = c.waited acts ∧
      ((∃ k, last.keypad.isDown k = true) →
        ∃ k, last.keypad.isDown k = true ∧ (∀ j < k, last.keypad.isDown j = false) ∧
          ∃ row, (last.step s).outcome = .ok row ∧
            (last.step s).machine =
              ({ last with cycles := last.cycles + 1 }.put x (BitVec.ofNat 8 k.val)).jump
                (c.machine.registers.pc + 2)) := by
  intro s last
  obtain ⟨each, whole⟩ := run_eq_waited h waits up
  refine ⟨each, whole, fun down => ?_⟩
  have machine : last = (c.waited acts).machine := congrArg Console.machine whole
  rw [machine] at down ⊢
  exact (awaits_waited h acts).step_of_down dialect log down

/-- The last word of memory waits for a key. Keys go down and up between the instructions, a wrong
number of states is refused, and at last two keys are down. -/
theorem run_of_waiting_at_the_last_word :
    let c : Console :=
      { machine := { Machine.standard with
          memory := Memory.standard.pokes 4094 [0xF5, 0x0A]
          timers := ⟨2, 1⟩ }.jump 4094 }
    let acts : List Act :=
      [.step, .tick, .press "q", .release "q", .step, .setKeys [true], .tick, .step, .press "v",
       .press "2"]
    let last := (c.run {} acts).machine
    c.machine.Awaits 5 ∧ (∀ a ∈ acts, a.waits = true) ∧
      c.EachStep {} (fun m => ∀ k, m.keypad.isDown k = false) acts ∧
      c.run {} acts = c.waited acts ∧ last.timers = ⟨0, 0⟩ ∧ last.cycles = 3 ∧
      ∃ row, (last.step {}).outcome = .ok row ∧
        (last.step {}).machine = ({ last with cycles := 4 }.put 5 2).jump 4096 := by
  intro c acts last
  have size : c.machine.memory.size = 4096 := (Memory.size_pokes ..).trans Array.size_replicate
  have awaits : c.machine.Awaits 5 := ⟨size, by decide, by decide, by decide +kernel⟩
  have waits : ∀ a ∈ acts, a.waits = true := by decide
  have up : c.EachStep {} (fun m => ∀ k, m.keypad.isDown k = false) acts := by
    simp only [acts, eachStep_cons, eachStep_nil, reduceCtorEq, false_implies, true_implies,
      true_and, and_true]
    decide +kernel
  obtain ⟨-, whole, next⟩ := run_of_waiting .standard .silent c 5 awaits acts waits up
  have machine : last = (c.waited acts).machine := congrArg Console.machine whole
  have found : last.keypad.first? = some 2 := by
    rw [machine]
    decide +kernel
  have cycles : last.cycles = 3 := by rw [machine]; rfl
  have timers : last.timers = ⟨0, 0⟩ := by rw [machine]; decide
  have held := ((Keypad.first?_eq_some_iff _ 2).1 found).1
  obtain ⟨k, down, lowest, done⟩ := next ⟨2, held⟩
  have again : last.keypad.first? = some k := (Keypad.first?_eq_some_iff _ k).2 ⟨down, lowest⟩
  obtain rfl : k = 2 := Option.some.inj (again.symm.trans found)
  rw [cycles] at done
  exact ⟨awaits, waits, up, whole, timers, cycles, done⟩

end Console

end Chip8
