/-
# Chip8.Proofs.Frames — what a frame comes to, and what a session comes to

A frame has three ways to go. A halted player does nothing. Otherwise the frame executes its
whole budget of instructions, or it executes some of them and meets a fault; either way time
passes once, and the fault halts the player. `FrameEnds` lists the three with the whole answer
of the frame in each, and `frame_ends` says that there is no other: with instructions that can
be read nothing but a fault ends a frame early, whatever is logged and traced.

Sessions are described by their history (`Course`): the instructions of each frame that was
played, the fault that ended the last of them, and the number of frames after it. Every session
has one (`tracks_run`), and only one (`Course.unique`), and `run_course` is the law of sessions.
What it says of counts and timers is proved of the history alone, by one lemma for a path of
instructions and one for a course.
-/
import Mathlib.Algebra.Ring.Nat
import Mathlib.Data.List.Induction
import Chip8.Player.Session
import Chip8.Proofs.Untouched

namespace Chip8

set_option autoImplicit false

inductive Timer where
  | delay
  | sound

namespace Timer

def value : Timer → Timers → Byte
  | delay => Timers.delay
  | sound => Timers.sound

def writer : Timer → Operation
  | delay => .writeDelay
  | sound => .writeSound

theorem value_tick (t : Timer) (timers : Timers) :
    t.value timers.tick = Timers.countdown (t.value timers) := by
  cases t <;> rfl

end Timer

/-! ## Paths of instructions -/

namespace Machine

/-- Instructions are executed one after another. The path lists the machine before each. -/
inductive Executes (s : Setting) : Machine → List Machine → Machine → Prop where
  | none (m : Machine) : Executes s m [] m
  | next {m last : Machine} {path : List Machine} {row : Instruction}
      (done : (m.step s).outcome = .ok row) (rest : Executes s (m.step s).machine path last) :
      Executes s m (m :: path) last

/-- The record of an instruction that is about to be executed. -/
def entry (m : Machine) (w : Opcode) (table : InstructionSet := .standard)
    (limits : Limits := {}) : Trace.Entry :=
  .ofSnapshot m.snapshot (some w.toNat) (InstructionSet.text w table limits) ""

/-- The record that a step leaves: its opcode is looked up in the memory that the step made. -/
def stepEntry (s : Setting) (m : Machine) : Trace.Entry :=
  m.entry ((m.step s).machine.memory.word m.registers.pc.toNat) s.table s.limits

def faultEntry (m : Machine) (f : Fault) : Trace.Entry := .ofSnapshot m.snapshot none "" f.message

variable {s : Setting} {m last : Machine} {path : List Machine}

/-- Every executed instruction is counted. -/
theorem Executes.cycles (h : Executes s m path last) :
    last.cycles = m.cycles + path.length := by
  induction h with
  | none m => rfl
  | next done rest ih =>
      obtain ⟨o, -, after, leaves, result⟩ := leaves_of_done done
      rw [ih, result, List.length_cons]
      change after.cycles + 1 + _ = _
      rw [leaves.cycles]
      omega

/-- Of two runs of instructions from one machine the second goes on where the first ends, if it is
not shorter. -/
theorem Executes.exists_rest {last' : Machine} {path' : List Machine} (h : Executes s m path last)
    (h' : Executes s m path' last') (shorter : path.length ≤ path'.length) :
    ∃ rest, path' = path ++ rest ∧ Executes s last rest last' := by
  induction h generalizing path' with
  | none m => exact ⟨path', rfl, h'⟩
  | next done rest ih =>
      cases h' with
      | none => simp at shorter
      | next done' rest' =>
          obtain ⟨more, rfl, further⟩ := ih rest' (Nat.le_of_succ_le_succ shorter)
          exact ⟨more, rfl, further⟩

/-- It does not go on if it is no longer, or if the first has met a failure. -/
theorem Executes.unique {last' : Machine} {path' : List Machine} (h : Executes s m path last)
    (h' : Executes s m path' last')
    (ends : path.length = path'.length ∨
      ∃ e, (last.step s).outcome = .error e ∧ path.length ≤ path'.length) :
    path' = path ∧ last' = last := by
  obtain ⟨rest, rfl, further⟩ := h.exists_rest h' (ends.elim Nat.le_of_eq fun ⟨_, _, le⟩ => le)
  cases further with
  | none => exact ⟨List.append_nil _, rfl⟩
  | next done _ =>
      rcases ends with same | ⟨e, failed, -⟩
      · simp at same
      · cases failed.symm.trans done

/-- A timer that no instruction writes stands still while instructions are executed. -/
theorem Executes.timer (h : Executes s m path last) (t : Timer)
    (unwritten : ∀ b ∈ path, ¬b.Means t.writer s.table) :
    t.value last.timers = t.value m.timers := by
  induction h with
  | none m => rfl
  | next done rest ih =>
      obtain ⟨o, means, after, leaves, result⟩ := leaves_of_done done
      have other : o ≠ t.writer := fun same =>
        unwritten _ List.mem_cons_self (same ▸ means)
      rw [ih fun b inside => unwritten b (List.mem_cons_of_mem _ inside), result]
      cases t with
      | delay => exact leaves.delay other
      | sound => exact leaves.sound other

end Machine

def Trace.extend (t : Option Trace) (entries : List Trace.Entry) : Option Trace :=
  t.map fun t => entries.foldl Trace.record t

theorem Trace.extend_nil (t : Option Trace) : Trace.extend t [] = t := by
  cases t <;> rfl

theorem Trace.extend_append (t : Option Trace) (before after : List Trace.Entry) :
    Trace.extend t (before ++ after) = Trace.extend (Trace.extend t before) after := by
  cases t with
  | none => rfl
  | some t => exact congrArg some (List.foldl_append ..)

namespace Player

/-! ## Bursts -/

namespace Burst

variable {s : Setting} {b : Burst}

/-- The burst after a path of instructions: they are counted and, if there is a trace,
recorded. -/
def through (b : Burst) (s : Setting) (path : List Machine) (last : Machine)
    (printed : Array String) : Burst where
  machine := last
  trace := Trace.extend b.trace (path.map (·.stepEntry s))
  executed := b.executed + path.length
  failed := b.failed
  printed := printed

theorem through_through (s : Setting) (path path' : List Machine) (mid last : Machine)
    (printed printed' : Array String) :
    (b.through s path mid printed).through s path' last printed' =
      b.through s (path ++ path') last printed' := by
  simp only [through, List.map_append, Trace.extend_append, List.length_append, Nat.add_assoc]

theorem advance_of_done (readable : s.table.Readable s.limits) {row : Instruction}
    (done : (b.machine.step s).outcome = .ok row) :
    ∃ printed, b.advance s = b.through s [b.machine] (b.machine.step s).machine printed := by
  simp only [advance, done]
  cases traced : b.trace with
  | none => exact ⟨_, by rw [through, traced]; rfl⟩
  | some t =>
      simp only [recordStep, readable.disassemble]
      exact ⟨_, by rw [through, traced]; rfl⟩

theorem advance_of_failed {e : Failure}
    (failed : (b.machine.step s).outcome = .error e) :
    ∃ printed, b.advance s =
      { b.through s [] (b.machine.step s).machine printed with failed := some e } := by
  simp only [advance, failed, through, List.map_nil, Trace.extend_nil]
  exact ⟨_, rfl⟩

inductive Ends (s : Setting) (b : Burst) (n : Nat) : Burst × Machine → Prop where
  /-- All instructions are executed. -/
  | whole {path : List Machine} {last : Machine} {printed : Array String}
      (executes : b.machine.Executes s path last) (full : path.length = n) :
      Ends s b n (b.through s path last printed, last)
  /-- Some instructions are executed, and the next one faults. -/
  | cut {path : List Machine} {last : Machine} {f : Fault} {printed : Array String}
      (executes : b.machine.Executes s path last) (short : path.length < n)
      (faults : (last.step s).outcome = .error (.fault f)) :
      Ends s b n
        ({ b.through s path (last.step s).machine printed with failed := some (.fault f) }, last)

theorem run_ends (readable : s.table.Readable s.limits) (n : Nat) (going : b.failed = none) :
    Ends s b n (run s n b) := by
  induction n generalizing b with
  | zero =>
      have ends : Ends s b 0 (b.through _ [] b.machine b.printed, b.machine) :=
        .whole (.none b.machine) rfl
      rwa [through, List.map_nil, Trace.extend_nil] at ends
  | succ n ih =>
      rw [run]
      cases outcome : (b.machine.step s).outcome with
      | error e =>
          obtain ⟨f, rfl⟩ := Machine.fault_of_failed readable outcome
          obtain ⟨printed, next⟩ := advance_of_failed outcome
          rw [next]
          exact .cut (.none b.machine) (Nat.succ_pos n) outcome
      | ok row =>
          obtain ⟨printed, next⟩ := advance_of_done readable outcome
          have goes : (b.advance s).failed = none := by rw [next]; exact going
          have rest := ih goes
          simp only [goes, Option.isSome_none, Bool.false_eq_true, if_false]
          generalize run s n (b.advance s) = r at rest ⊢
          rw [next] at rest
          cases rest with
          | whole executes full =>
              rw [through_through]
              exact .whole (.next outcome executes) (congrArg (· + 1) full)
          | cut executes short faults =>
              rw [through_through]
              exact .cut (.next outcome executes) (Nat.succ_lt_succ short) faults

end Burst

/-! ## Frames -/

/-- The player after a path of instructions, which it has recorded if it traces. -/
def through (p : Player) (table : InstructionSet) (path : List Machine) : Player :=
  { p with trace := Trace.extend p.trace (path.map (·.stepEntry (p.setting table))) }

/-- The ways in which a frame can go. -/
inductive FrameEnds (p : Player) (m : Machine) (table : InstructionSet) : FrameResult → Prop where
  /-- The player is halted: nothing happens. -/
  | idle {f : Fault} (halted : p.halt = some f) : FrameEnds p m table ⟨.ok 0, p, m, #[]⟩
  /-- All instructions of the frame are executed, and time passes. -/
  | whole {path : List Machine} {last : Machine} {printed : Array String}
      (going : p.halt = none) (executes : m.Executes (p.setting table) path last)
      (full : path.length = p.setup.budget) :
      FrameEnds p m table ⟨.ok path.length, p.through table path, last.tick, printed⟩
  /-- Some instructions of the frame are executed, the next one faults, and time passes. -/
  | cut {path : List Machine} {last : Machine} {f : Fault} {printed : Array String}
      (going : p.halt = none) (executes : m.Executes (p.setting table) path last)
      (short : path.length < p.setup.budget)
      (faults : (last.step (p.setting table)).outcome = .error (.fault f)) :
      FrameEnds p m table
        ⟨.ok path.length, (p.through table path).halted f last,
          (last.step (p.setting table)).machine.tick,
          printed⟩

theorem frame_ends (p : Player) (m : Machine) {table : InstructionSet}
    (readable : table.Readable) : FrameEnds p m table (p.frame m table) := by
  rcases Option.eq_none_or_eq_some p.halt with going | ⟨f, halted⟩
  · have ends : Burst.Ends (p.setting table) { machine := m, trace := p.trace } p.setup.budget
        (Burst.run (p.setting table) p.setup.budget { machine := m, trace := p.trace }) :=
      Burst.run_ends readable p.setup.budget rfl
    rw [frame, if_neg (by rw [going]; nofun)]
    generalize Burst.run (p.setting table) p.setup.budget { machine := m, trace := p.trace } = r
      at ends ⊢
    have counted (n : Nat) : 0 + n = n := Nat.zero_add n
    cases ends with
    | whole executes full =>
        simp only [Burst.through, counted]
        exact .whole going executes full
    | cut executes short faults =>
        simp only [Burst.through, counted]
        exact .cut going executes short faults
  · rw [frame, if_pos (by rw [halted]; rfl)]
    exact .idle halted

/-! ## Sessions -/

structure History where
  /-- The frames that were played, each with the machines before its executed instructions. -/
  played : List (List Machine) := []
  /-- The fault that ended the last of them, and the machine before its instruction. -/
  fault : Option (Machine × Fault) := none
  /-- The number of frames after the fault. -/
  idle : Nat := 0

namespace History

def counts (h : History) : List Nat :=
  h.played.map List.length ++ List.replicate h.idle 0

/-- No executed instruction was the given operation. -/
def Unwritten (h : History) (o : Operation) (table : InstructionSet := .standard) : Prop :=
  ∀ m ∈ h.played.flatten, ¬m.Means o table

def entries (h : History) (s : Setting) : List Trace.Entry :=
  h.played.flatten.map (·.stepEntry s) ++ (h.fault.map fun (m, f) => m.faultEntry f).toList

theorem counts_play (played : List (List Machine)) (path : List Machine)
    (fault : Option (Machine × Fault)) :
    counts { played := played ++ [path], fault } = counts { played } ++ [path.length] := by
  simp [counts]

theorem counts_idle (played : List (List Machine)) (fault : Option (Machine × Fault)) (n : Nat) :
    counts { played, fault, idle := n + 1 } = counts { played, fault, idle := n } ++ [0] := by
  simp [counts, List.replicate_succ']

theorem entries_play (s : Setting) (played : List (List Machine)) (path : List Machine)
    (fault : Option (Machine × Fault)) :
    entries { played := played ++ [path], fault } s = entries { played } s ++
      (path.map (·.stepEntry s) ++ (fault.map fun (m, f) => m.faultEntry f).toList) := by
  simp [entries]

theorem sum_counts (h : History) : h.counts.sum = h.played.flatten.length := by
  rw [counts, List.sum_append, List.sum_replicate_nat, Nat.mul_zero, List.length_flatten]
  rfl

end History

/-- What an act does to a session whose console is `d`: the history before it and after it, and the
console afterwards. -/
inductive Happens (s : Setting) (budget : Nat) (d : Console) :
    Act → History → History → Console → Prop where
  | press {h : History} (name : String) : Happens s budget d (.press name) h h (d.press name)
  | release {h : History} (name : String) : Happens s budget d (.release name) h h (d.release name)
  | liftKeys {h : History} : Happens s budget d .liftKeys h h d.liftKeys
  /-- A frame executes the whole budget, and time passes. -/
  | whole {played : List (List Machine)} {path : List Machine} {last : Machine}
      (executes : d.machine.Executes s path last) (full : path.length = budget) :
      Happens s budget d .frame { played } { played := played ++ [path] }
        { d with machine := last.tick }
  /-- A frame executes less than the budget, faults, and time passes. -/
  | cut {played : List (List Machine)} {path : List Machine} {last : Machine} {f : Fault}
      (executes : d.machine.Executes s path last) (short : path.length < budget)
      (faults : (last.step s).outcome = .error (.fault f)) :
      Happens s budget d .frame { played } { played := played ++ [path], fault := some (last, f) }
        { d with machine := (last.step s).machine.tick }
  /-- After a fault a frame does nothing. -/
  | idle {played : List (List Machine)} {fault : Machine × Fault} {n : Nat} :
      Happens s budget d .frame { played, fault := some fault, idle := n }
        { played, fault := some fault, idle := n + 1 } d

/-- A session that begins with the console `c`: what was done, what happened, and the console
afterwards. -/
inductive Course (s : Setting) (budget : Nat) (c : Console) :
    List Act → History → Console → Prop where
  | start : Course s budget c [] {} c
  | next {acts : List Act} {a : Act} {h h' : History} {d d' : Console}
      (course : Course s budget c acts h d) (happens : Happens s budget d a h h' d') :
      Course s budget c (acts ++ [a]) h' d'

variable {s : Setting} {budget : Nat} {c d d' : Console} {acts : List Act} {h h' : History}

/-- An act does one thing. -/
theorem Happens.unique {a : Act} {h'' : History} {d'' : Console}
    (happens : Happens s budget d a h h' d') (again : Happens s budget d a h h'' d'') :
    h'' = h' ∧ d'' = d' := by
  cases happens with
  | whole executes full =>
      cases again with
      | whole executes' full' =>
          obtain ⟨rfl, rfl⟩ := executes.unique executes' (.inl (full.trans full'.symm))
          exact ⟨rfl, rfl⟩
      | cut executes' short faults =>
          obtain ⟨rfl, -⟩ := executes'.unique executes (.inr ⟨_, faults, by omega⟩)
          omega
  | cut executes short faults =>
      cases again with
      | whole executes' full =>
          obtain ⟨rfl, -⟩ := executes.unique executes' (.inr ⟨_, faults, by omega⟩)
          omega
      | cut executes' short' faults' =>
          obtain ⟨rfl, rfl⟩ : _ ∧ _ :=
            (Nat.le_total _ _).elim
              (fun shorter => executes.unique executes' (.inr ⟨_, faults, shorter⟩))
              fun shorter => (executes'.unique executes (.inr ⟨_, faults', shorter⟩)).imp
                Eq.symm Eq.symm
          cases faults.symm.trans faults'
          exact ⟨rfl, rfl⟩
  | _ =>
      cases again
      exact ⟨rfl, rfl⟩

/-- A session has one history. -/
theorem Course.unique (course : Course s budget c acts h d) (again : Course s budget c acts h' d') :
    h' = h ∧ d' = d := by
  induction course generalizing h' d' with
  | start =>
      generalize none : [] = acts at again
      cases again with
      | start => exact ⟨rfl, rfl⟩
      | next => simp at none
  | next before happens ih =>
      generalize same : _ ++ [_] = acts at again
      cases again with
      | start => simp at same
      | next before' happens' =>
          obtain ⟨rfl, last⟩ := List.append_inj' same rfl
          obtain ⟨rfl, rfl⟩ := ih before'
          obtain rfl := List.head_eq_of_cons_eq last
          exact happens.unique happens'

/-- Frames after a fault need a fault. -/
theorem Course.idle_eq_zero (course : Course s budget c acts h d) (going : h.fault = none) :
    h.idle = 0 := by
  induction course with
  | start => rfl
  | next before happens ih =>
      cases happens with
      | press | release | liftKeys => exact ih going
      | whole | cut => rfl
      | idle => cases going

/-- The executed instructions are those that the machine has counted. -/
theorem Course.cycles (course : Course s budget c acts h d) :
    d.machine.cycles = c.machine.cycles + h.played.flatten.length := by
  have played {before : List (List Machine)} {d : Console} {path : List Machine} {last : Machine}
      (executes : d.machine.Executes s path last)
      (earlier : d.machine.cycles = c.machine.cycles + before.flatten.length) :
      last.cycles = c.machine.cycles + (before ++ [path]).flatten.length := by
    rw [List.flatten_concat, List.length_append, ← Nat.add_assoc, ← earlier]
    exact executes.cycles
  induction course with
  | start => rfl
  | next before happens ih =>
      cases happens with
      | press | release | liftKeys | idle => exact ih
      | whole executes _ => exact (played executes ih :)
      | cut executes _ faults =>
          obtain ⟨pc, same⟩ := Machine.jump_of_failed faults
          refine Eq.trans ?_ (played executes ih)
          rw [same]
          rfl

/-- A timer that no instruction writes counts the frames that were played. -/
theorem Course.timer (course : Course s budget c acts h d) (t : Timer)
    (unwritten : h.Unwritten t.writer s.table) :
    (t.value d.machine.timers).toNat =
      (t.value c.machine.timers).toNat - h.played.length := by
  -- a frame that is played counts one step down from where its instructions leave the timer
  have played {before : List (List Machine)} {d : Console} {path : List Machine} {last : Machine}
      (executes : d.machine.Executes s path last)
      (unwritten : ∀ m ∈ (before ++ [path]).flatten, ¬m.Means t.writer s.table)
      (earlier : (∀ m ∈ before.flatten, ¬m.Means t.writer s.table) →
        (t.value d.machine.timers).toNat = (t.value c.machine.timers).toNat - before.length) :
      (t.value last.timers.tick).toNat =
        (t.value c.machine.timers).toNat - (before ++ [path]).length := by
    rw [List.flatten_concat] at unwritten
    rw [Timer.value_tick, Timers.toNat_countdown,
      executes.timer t fun b inside => unwritten b (List.mem_append_right _ inside),
      earlier fun b inside => unwritten b (List.mem_append_left _ inside),
      List.length_append, List.length_singleton]
    omega
  induction course with
  | start => rfl
  | next before happens ih =>
      cases happens with
      | press | release | liftKeys | idle => exact ih unwritten
      | whole executes _ => exact played executes unwritten ih
      | cut executes _ faults =>
          obtain ⟨pc, same⟩ := Machine.jump_of_failed faults
          refine Eq.trans ?_ (played executes unwritten ih)
          rw [same]
          rfl

/-- What a session has done to its player, by its history. -/
structure Tracks (p : Player) (table : InstructionSet) (h : History) (g : Session) : Prop where
  setup : g.player.setup = p.setup
  log : g.player.log = p.log
  halt : g.player.halt = h.fault.map (·.2)
  trace : g.player.trace = Trace.extend p.trace (h.entries (p.setting table))
  answers : g.answers = h.counts.map .ok

/-- Every session of a player that is not halted has a history. -/
theorem tracks_run {p : Player} {table : InstructionSet} (readable : table.Readable)
    (going : p.halt = none) (c : Console) (acts : List Act) :
    ∃ h, Course (p.setting table) p.setup.budget c acts h
        (Session.run ⟨p, c, []⟩ acts table).console ∧
      Tracks p table h (Session.run ⟨p, c, []⟩ acts table) := by
  -- a session grows at its end, and its history with it
  induction acts using List.reverseRecOn with
  | nil => exact ⟨{}, .start, rfl, rfl, going, (Trace.extend_nil _).symm, rfl⟩
  | append_singleton acts a ih =>
      obtain ⟨h, course, tracks⟩ := ih
      rw [Session.run_concat]
      generalize Session.run ⟨p, c, []⟩ acts table = g at course tracks ⊢
      cases a with
      | press name => exact ⟨h, course.next (.press name), { tracks with }⟩
      | release name => exact ⟨h, course.next (.release name), { tracks with }⟩
      | liftKeys => exact ⟨h, course.next .liftKeys, { tracks with }⟩
      | frame =>
          have setting : g.player.setting table = p.setting table := by
            rw [Player.setting, tracks.setup, tracks.log, Player.setting]
          have ends := frame_ends g.player g.console.machine readable
          simp only [Session.act]
          generalize g.player.frame g.console.machine table = r at ends ⊢
          cases ends with
          | idle halted =>
              obtain ⟨played, fault, idle⟩ := h
              obtain ⟨fault, rfl, -⟩ := Option.map_eq_some_iff.1 (tracks.halt.symm.trans halted)
              refine ⟨_, course.next .idle, { tracks with answers := ?_ }⟩
              rw [tracks.answers, History.counts_idle, List.map_append, List.map_singleton]
          | whole going executes full =>
              obtain ⟨played, fault, idle⟩ := h
              obtain rfl := Option.map_eq_none_iff.1 (tracks.halt.symm.trans going)
              obtain rfl := course.idle_eq_zero rfl
              rw [setting] at executes
              rw [tracks.setup] at full
              refine ⟨_, course.next (.whole executes full),
                { tracks with trace := ?_, answers := ?_ }⟩
              · rw [through, setting, tracks.trace, ← Trace.extend_append, History.entries_play,
                  Option.map_none, Option.toList_none, List.append_nil]
              · rw [tracks.answers, History.counts_play, List.map_append, List.map_singleton]
          | cut going executes short faults =>
              obtain ⟨played, fault, idle⟩ := h
              obtain rfl := Option.map_eq_none_iff.1 (tracks.halt.symm.trans going)
              obtain rfl := course.idle_eq_zero rfl
              rw [setting] at executes faults ⊢
              rw [tracks.setup] at short
              refine ⟨_, course.next (.cut executes short faults),
                { tracks with halt := rfl, trace := ?_, answers := ?_ }⟩
              · rw [History.entries_play, Trace.extend_append, Trace.extend_append, ← tracks.trace,
                  ← setting]
                rfl
              · rw [tracks.answers, History.counts_play, List.map_append, List.map_singleton]

/-- The law of sessions, whatever instructions the machine has, if each can be read. A player that
is not halted goes through frames of its whole budget up to the first fault, and after it does
nothing and keeps that fault. Its answers are the numbers of executed instructions, which the
machine has counted, and a timer that no instruction writes counts the frames that were played. -/
theorem run_course (p : Player) {table : InstructionSet} (readable : table.Readable)
    (going : p.halt = none) (c : Console) (acts : List Act) :
    let g := Session.run ⟨p, c, []⟩ acts table
    ∃ h, Course (p.setting table) p.setup.budget c acts h g.console ∧
      g.answers = h.counts.map .ok ∧
      g.player.halt = h.fault.map (·.2) ∧
      g.console.machine.cycles = c.machine.cycles + h.counts.sum ∧
      ∀ t : Timer, h.Unwritten t.writer table →
        (t.value g.console.machine.timers).toNat =
          (t.value c.machine.timers).toNat - h.played.length := by
  intro g
  obtain ⟨h, course, tracks⟩ := tracks_run readable going c acts
  refine ⟨h, course, tracks.answers, tracks.halt, ?_, fun t unwritten => course.timer t unwritten⟩
  rw [h.sum_counts]
  exact course.cycles

/-- A program of two instructions, and no third. -/
theorem run_course_to_an_illegal_instruction :
    let p := Player.create { budget := 2 } .silent
    let c : Console := { machine := { Machine.standard with
      memory := Memory.standard.pokes 0 [0x60, 0x05, 0xF0, 0x18, 0xFF, 0xFF] } }
    let acts : List Act := [.frame, .press "q", .frame, .release "q", .frame]
    InstructionSet.Readable .standard ∧ p.halt = none ∧
      ∃ h, Course p.setting 2 c acts h (Session.run ⟨p, c, []⟩ acts).console ∧
        h.counts = [2, 0, 0] ∧ h.fault.map (·.2) = some (.illegalInstruction 0xFFFF) := by
  intro p c acts
  have readable := InstructionSet.readable_standard
  obtain ⟨h, course, answers, halt, -⟩ := run_course p readable rfl c acts
  have counted : (Session.run ⟨p, c, []⟩ acts).answers = [.ok 2, .ok 0, .ok 0] := by
    decide +kernel
  have halts : (Session.run ⟨p, c, []⟩ acts).player.halt = some (.illegalInstruction 0xFFFF) := by
    decide +kernel
  refine ⟨readable, rfl, h, course, ?_, halt.symm.trans halts⟩
  exact (List.map_inj_right fun _ _ => Except.ok.inj).1 (answers.symm.trans counted)

end Player

end Chip8
