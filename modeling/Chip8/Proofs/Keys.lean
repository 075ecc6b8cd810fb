/-
# Chip8.Proofs.Keys — the keyboard and the keypad

Which keys are down is known twice: the keypad of the machine knows it, and the keyboard counts
the host keys that hold each key. A `Key` is what both know of one key. `Act.onKey` says what an
act of a session makes of it, and `key_act` that nothing else is done to it: no instruction
touches the keypad, and no host key another key.

The two agree with one exception. A reset of the machine lifts the keys of the keypad and leaves
the counts of the keyboard, so a key that was held then is counted and not down, until it is
pressed again. `isDown_run_iff` is the law of sessions with this exception. It can be told from
outside: after such a reset a press with its own release leaves the key down
(`isDown_of_tap_after_reset`).
-/
import Mathlib.Data.List.Induction
import Chip8.Console.Session
import Chip8.Proofs.Untouched

namespace Chip8

set_option autoImplicit false

/-! ## One key -/

/-- What is known of a key: the keypad has it down, and the number of host keys that hold it. -/
structure Key where
  down : Bool
  held : Nat

namespace Key

/-- One more host key holds the key. -/
def press (key : Key) : Key := ⟨true, key.held + 1⟩

/-- One host key fewer holds the key, and the last one lets it up. -/
def release (key : Key) : Key := ⟨if key.held ≤ 1 then false else key.down, key.held - 1⟩

def idle : Key := ⟨false, 0⟩

end Key

namespace Keyboard

def key (keys : Keyboard × Keypad) (k : Nibble) : Key := ⟨keys.2.isDown k, keys.1.count k⟩

theorem key_pressKey (b : Keyboard) (pad : Keypad) (j k : Nibble) :
    key (b.pressKey pad j) k = if j = k then (key (b, pad) k).press else key (b, pad) k := by
  rw [key, pressKey, Keypad.isDown_put, count_setHeld]
  by_cases same : j = k
  · subst same
    simp only [if_true]
    rfl
  · simp only [if_neg same]
    rfl

theorem key_releaseKey (b : Keyboard) (pad : Keypad) (j k : Nibble) :
    key (b.releaseKey pad j) k = if j = k then (key (b, pad) k).release else key (b, pad) k := by
  by_cases last : b.count j ≤ 1
  · have gone : b.count j - 1 = 0 := by omega
    rw [key, releaseKey, if_pos last, Keypad.isDown_put, count_setHeld]
    by_cases same : j = k
    · subst same
      simp only [if_true, Key.release, key, last, gone]
      rfl
    · simp only [if_neg same]
      rfl
  · rw [key, releaseKey, if_neg last, count_setHeld]
    by_cases same : j = k
    · subst same
      simp only [if_true, Key.release, key, last, if_false]
      rfl
    · simp only [if_neg same]
      rfl

/-- A name presses the key that it means. -/
theorem key_press (b : Keyboard) (pad : Keypad) (name : String) (k : Nibble) :
    key (b.press pad name) k =
      if key? name = some k then (key (b, pad) k).press else key (b, pad) k := by
  unfold press
  cases key? name with
  | none => rfl
  | some j => simp only [key_pressKey, Option.some.injEq]

/-- A name lets go of the key that it means. -/
theorem key_release (b : Keyboard) (pad : Keypad) (name : String) (k : Nibble) :
    key (b.release pad name) k =
      if key? name = some k then (key (b, pad) k).release else key (b, pad) k := by
  unfold release
  cases key? name with
  | none => rfl
  | some j => simp only [key_releaseKey, Option.some.injEq]

theorem key_empty (k : Nibble) : key ({}, {}) k = .idle := by
  have up : ({} : Keypad).isDown k = false := Vector.getElem_replicate (Registers.val_lt k)
  have unheld : ({} : Keyboard).count k = 0 :=
    congrArg (Option.getD · 0) (Vector.getElem_replicate (Registers.val_lt k))
  rw [key, up, unheld]
  rfl

end Keyboard

namespace Machine

/-- No instruction presses a key or lifts one. -/
theorem keypad_step (s : Setting) (m : Machine) : (m.step s).machine.keypad = m.keypad := by
  have ends := step_ends s m
  generalize m.step s = r at ends ⊢
  cases ends with
  | unfetched _ => rfl
  | unresolved _ _ => rfl
  | faulted _ _ _ => rfl
  | executed _ _ applied => exact (Operation.leaves_of_apply applied).keypad

theorem keypad_of_load {m after : Machine} {address : Int} {data : List Byte}
    (loaded : m.load address data = .ok after) : after.keypad = m.keypad := by
  obtain ⟨memory, -, rfl⟩ := load_eq_ok loaded
  rfl

end Machine

namespace Console

/-! ## Acts -/

def key (c : Console) (k : Nibble) : Key := Keyboard.key (c.keyboard, c.machine.keypad) k

namespace Act

def presses (k : Nibble) : Act → Prop
  | .press name => Keyboard.key? name = some k
  | _ => False

/-- What an act makes of a key, unless it sets all keys of the keypad. -/
def onKey (k : Nibble) (key : Key) : Act → Key
  | .press name => if Keyboard.key? name = some k then key.press else key
  | .release name => if Keyboard.key? name = some k then key.release else key
  | .liftKeys => .idle
  | .reset => { key with down := false }
  | _ => key

end Act

variable {c : Console} {k : Nibble}

/-- A request that leaves the keypad alone leaves the keys alone. -/
theorem key_attempt {ε : Type} {r : Except ε Machine}
    (same : ∀ m, r = .ok m → m.keypad = c.machine.keypad) : (c.attempt r).key k = c.key k := by
  cases r with
  | error _ => rfl
  | ok m =>
      rw [attempt, key, same m rfl]
      rfl

theorem key_attempt_map {ε α : Type} {r : Except ε α} {f : α → Machine}
    (same : ∀ a, (f a).keypad = c.machine.keypad) : (c.attempt (r.map f)).key k = c.key k := by
  cases r with
  | error _ => rfl
  | ok a =>
      refine key_attempt fun m ok => ?_
      cases ok
      exact same a

theorem key_act (s : Setting) (c : Console) (k : Nibble) {a : Act}
    (single : ∀ states, a ≠ .setKeys states) : (c.act s a).key k = a.onKey k (c.key k) := by
  cases a with
  | setKeys states => exact absurd rfl (single states)
  | step =>
      rw [act, key, Machine.keypad_step]
      rfl
  | press name => exact Keyboard.key_press ..
  | release name => exact Keyboard.key_release ..
  | liftKeys => exact Keyboard.key_empty k
  | reset =>
      have up : c.machine.reset.keypad.isDown k = false :=
        Vector.getElem_replicate (Registers.val_lt k)
      rw [act, key, Keyboard.key, up]
      rfl
  | load address data => exact key_attempt fun m loaded => Machine.keypad_of_load loaded
  | store address value => exact key_attempt_map fun _ => rfl
  | writeBlock address values => exact key_attempt_map fun _ => rfl
  | showBytes values => exact key_attempt_map fun _ => rfl
  | _ => rfl

/-! ## Sessions -/

/-- A reset of the machine came after the last press of the key. -/
def ResetSincePress (k : Nibble) (acts : List Act) : Prop :=
  ∃ before after, acts = before ++ .reset :: after ∧ ∀ a ∈ after, ¬a.presses k

/-- The last act is the reset, or it is no press and the reset came before it. -/
theorem resetSincePress_concat (k : Nibble) (acts : List Act) (a : Act) :
    ResetSincePress k (acts ++ [a]) ↔
      a = .reset ∨ (ResetSincePress k acts ∧ ¬a.presses k) := by
  constructor
  · rintro ⟨before, after, same, unpressed⟩
    induction after using List.reverseRecOn with
    | nil => exact .inl (List.singleton_inj.1 (List.append_inj' same rfl).2)
    | append_singleton after last =>
        rw [← List.cons_append, ← List.append_assoc] at same
        obtain ⟨rfl, single⟩ := List.append_inj' same rfl
        obtain rfl := List.singleton_inj.1 single
        rw [List.forall_mem_append, List.forall_mem_singleton] at unpressed
        exact .inr ⟨⟨before, after, rfl, unpressed.1⟩, unpressed.2⟩
  · rintro (rfl | ⟨⟨before, after, rfl, unpressed⟩, other⟩)
    · exact ⟨acts, [], rfl, nofun⟩
    · refine ⟨before, after ++ [a], by simp, ?_⟩
      exact List.forall_mem_append.2 ⟨unpressed, List.forall_mem_singleton.2 other⟩

/-- No key is down or held on a console that was just made. -/
theorem key_of_create {seed start : Int} {program : List Byte}
    (made : create seed start program = .ok c) (k : Nibble) : c.key k = .idle := by
  have machine : ((Machine.standard.seed seed).jump start).keypad = {} := rfl
  simp only [create] at made
  generalize (Machine.standard.seed seed).jump start = m at machine made
  have fresh : c.keyboard = {} ∧ c.machine.keypad = {} := by
    split at made
    · cases made
      exact ⟨rfl, machine⟩
    · cases loaded : m.load start program with
      | error _ =>
          rw [loaded] at made
          cases made
      | ok after =>
          rw [loaded] at made
          cases made
          exact ⟨rfl, (Machine.keypad_of_load loaded).trans machine⟩
  rw [key, fresh.1, fresh.2]
  exact Keyboard.key_empty k

/-- What a session makes of a key: it is down if it is held, and was not last pressed before a
reset. -/
theorem down_key_run_iff (s : Setting) (fresh : c.key k = .idle) {acts : List Act}
    (single : ∀ a ∈ acts, ∀ states, a ≠ .setKeys states) :
    ((c.run s acts).key k).down = true ↔
      1 ≤ ((c.run s acts).key k).held ∧ ¬ResetSincePress k acts := by
  -- a session grows at its end, where the last press of the key is told from the earlier ones
  induction acts using List.reverseRecOn with
  | nil =>
      have start : (c.run s []).key k = .idle := fresh
      simp [start, Key.idle]
  | append_singleton acts a ih =>
      rw [List.forall_mem_append, List.forall_mem_singleton] at single
      have before := ih single.1
      rw [run_concat, key_act s _ k single.2, resetSincePress_concat]
      generalize (c.run s acts).key k = key at before ⊢
      cases a with
      | press name =>
          by_cases mine : Keyboard.key? name = some k
          · simp [Act.onKey, Act.presses, mine, Key.press]
          · simpa [Act.onKey, Act.presses, mine] using before
      | release name =>
          by_cases mine : Keyboard.key? name = some k
          · by_cases last : key.held ≤ 1
            · simp [Act.onKey, mine, Key.release, last]
            · have still : 1 ≤ key.held - 1 ↔ 1 ≤ key.held := by omega
              simpa [Act.onKey, Act.presses, mine, Key.release, last, still] using before
          · simpa [Act.onKey, Act.presses, mine] using before
      | liftKeys => simp [Act.onKey, Key.idle]
      | reset => simp [Act.onKey]
      | _ => simpa [Act.onKey, Act.presses] using before

/-- The law of the keys. In every session of a console that was just made, in which the host does
not set the keys of the keypad by itself, a key is down exactly if it is held and the machine was
not reset since it was last pressed. -/
theorem isDown_run_iff (s : Setting) {seed start : Int} {program : List Byte} {c : Console}
    (made : create seed start program = .ok c) (acts : List Act)
    (single : ∀ a ∈ acts, ∀ states, a ≠ .setKeys states) (k : Nibble) :
    (c.run s acts).machine.keypad.isDown k = true ↔
      1 ≤ (c.run s acts).keyboard.count k ∧ ¬ResetSincePress k acts :=
  down_key_run_iff s (key_of_create made k) single

/-- A key that is held by a second host key after a reset. -/
theorem isDown_run_of_second_press :
    let acts : List Act := [.press "1", .reset, .press "[1]", .step, .release "1"]
    ∃ c, create 7 0x200 [] = .ok c ∧ (∀ a ∈ acts, ∀ states, a ≠ .setKeys states) ∧
      (c.run {} acts).machine.keypad.isDown 1 = true := by
  intro acts
  have made : create 7 0x200 [] = .ok { machine := (Machine.standard.seed 7).jump 0x200 } := rfl
  have single : ∀ a ∈ acts, ∀ states, a ≠ .setKeys states := by simp [acts]
  refine ⟨_, made, single, (isDown_run_iff {} made acts single 1).2 ⟨by decide +kernel, ?_⟩⟩
  -- the acts after the reset, from the last one back to the press
  have pressed : Keyboard.key? "[1]" = some 1 := by decide +kernel
  change ¬ResetSincePress 1 ([.press "1", .reset] ++ [.press "[1]"] ++ [.step] ++ [.release "1"])
  simp only [resetSincePress_concat, Act.presses, pressed, reduceCtorEq, not_true, and_false,
    false_or, false_and, not_false_eq_true]

/-- A key that was held when the machine was reset: it is up and counted, and after it was pressed
again and let go it is down. -/
theorem isDown_of_tap_after_reset :
    let c : Console := { machine := (Machine.standard.seed Generator.standardSeed).jump 0x200 }
    let held := c.run {} [.press "q", .reset]
    let tapped := c.run {} [.press "q", .reset, .press "q", .release "q"]
    create Generator.standardSeed 0x200 [] = .ok c ∧
      ¬(held.machine.keypad.isDown 4 = true ↔ 1 ≤ held.keyboard.count 4) ∧
      tapped.machine.keypad.isDown 4 = true := by
  intro c held tapped
  exact ⟨rfl, by decide +kernel, by decide +kernel⟩

end Console

end Chip8
