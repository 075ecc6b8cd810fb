/-
# Chip8.Proofs.Redraw — nothing depends on the redraw flag

Instructions raise the flag that asks for a redraw, and the window takes it at the end of a frame.
Nobody else looks at it. So a machine whose flag was taken goes on as if it had not been: the two
do the same but for the flag itself, in one instruction (`step_calm`) and in a frame, which does
not look at picture and sound either (`frame_bare`). This is what lets a run in a window, where the
flag is taken between the frames, be compared with a session, where it is not.
-/
import Chip8.Player
import Chip8.Proofs.Transaction

namespace Chip8

set_option autoImplicit false

/-! ## Instructions -/

namespace Machine

def calm (m : Machine) : Machine := m.takeRedraw.2

end Machine

/-- A part of an operation may be followed by either of two things that differ in the flag. -/
theorem Operation.map_calm_congr {α : Type} {r : Except Fault α} {next next' : α → Machine}
    (same : ∀ a, (next a).calm = (next' a).calm) :
    (do let a ← r; return next a : Except Fault Machine).map Machine.calm =
      (do let a ← r; return next' a : Except Fault Machine).map Machine.calm := by
  cases r with
  | error _ => rfl
  | ok a => exact congrArg Except.ok (same a)

/-- No operation depends on the redraw flag. -/
theorem Operation.apply_calm (dialect : Dialect) (w : Opcode) (m : Machine) (o : Operation) :
    (o.apply dialect w m.calm).map Machine.calm = (o.apply dialect w m).map Machine.calm := by
  have skipped (condition : Bool) :
      (skippedIf condition m.calm).calm = (skippedIf condition m).calm := by
    cases condition <;> rfl
  cases o with
  | skipEqualByte => exact congrArg Except.ok (skipped _)
  | skipUnequalByte => exact congrArg Except.ok (skipped _)
  | skipEqual => exact congrArg Except.ok (skipped _)
  | skipUnequal => exact congrArg Except.ok (skipped _)
  | skipDown => exact map_calm_congr skipped
  | skipUp => exact map_calm_congr fun down => skipped !down
  | ret =>
      have jumps (r : Word × Stack) :
          (Machine.jump { m.calm with stack := r.2 } r.1.toNat).calm =
            (Machine.jump { m with stack := r.2 } r.1.toNat).calm := rfl
      exact map_calm_congr jumps
  | call => exact map_calm_congr fun _ => rfl
  | draw => exact map_calm_congr fun _ => rfl
  | decimalDigits => exact map_calm_congr fun _ => rfl
  | saveRegisters => exact map_calm_congr fun _ => rfl
  | restoreRegisters => exact map_calm_congr fun _ => rfl
  | waitKey =>
      simp only [apply, Machine.calm, Machine.takeRedraw]
      cases m.keypad.first? <;> rfl
  | _ => rfl

/-- No instruction depends on the redraw flag. -/
theorem Machine.step_calm (s : Setting) (m : Machine) :
    ∃ after, m.calm.step s = { m.step s with machine := after } ∧
      after.calm = (m.step s).machine.calm := by
  have fetches : m.calm.fetch = m.fetch := rfl
  have pc : m.calm.registers.pc = m.registers.pc := rfl
  have skips : m.calm.skip = m.skip.calm := rfl
  unfold step
  rw [fetches]
  cases m.fetch with
  | error _ => exact ⟨m.calm, rfl, rfl⟩
  | ok w =>
      dsimp only
      rw [pc, skips]
      rcases resolve s m.registers.pc w with ⟨printed, _ | ⟨row, operation⟩⟩
      · exact ⟨m.skip.calm, rfl, rfl⟩
      · have same := Operation.apply_calm s.dialect w m.skip operation
        dsimp only
        rw [Operation.on_execute, Operation.on_execute]
        cases first : operation.apply s.dialect w m.skip.calm <;>
          cases second : operation.apply s.dialect w m.skip <;>
            rw [first, second] at same
        · cases same
          exact ⟨m.skip.calm, rfl, rfl⟩
        · cases same
        · cases same
        · exact ⟨_, rfl, congrArg (fun m : Machine => { m with cycles := m.cycles + 1 })
            (Except.ok.inj same)⟩

namespace Player

/-! ## Frames -/

namespace Burst

def calm (b : Burst) : Burst := { b with machine := b.machine.calm }

theorem advance_calm (s : Setting) (b : Burst) : (b.calm.advance s).calm = (b.advance s).calm := by
  obtain ⟨after, stepped, same⟩ := Machine.step_calm s b.machine
  have start : b.calm.machine.step s = { b.machine.step s with machine := after } := stepped
  have memory : after.memory = (b.machine.step s).machine.memory := (congrArg Machine.memory same :)
  have recorded (t : Trace) : recordStep s b.calm.machine after t =
      recordStep s b.machine (b.machine.step s).machine t := by
    rw [recordStep, recordStep, memory]
    rfl
  simp only [advance, start]
  cases (b.machine.step s).outcome with
  | error _ => simp only [calm, same]
  | ok _ =>
      have trace : b.calm.trace = b.trace := rfl
      rw [trace]
      cases b.trace with
      | none => simp only [calm, same]
      | some t =>
          simp only [recorded]
          cases recordStep s b.machine (b.machine.step s).machine t <;> simp only [calm, same]

theorem run_calm (s : Setting) (n : Nat) (b : Burst) :
    (run s n b.calm).map calm Machine.calm = (run s n b).map calm Machine.calm := by
  induction n generalizing b with
  | zero => rfl
  | succ n ih =>
      have next := advance_calm s b
      have failed : (b.calm.advance s).failed = (b.advance s).failed :=
        (congrArg Burst.failed next :)
      rw [run, run, failed]
      split
      · exact congrArg (·, b.machine.calm) next
      · rw [← ih (b.calm.advance s), next, ih]

end Burst

/-- A player without its picture and its sound. -/
def bare (p : Player) : Player := { p with canvas := { palette := p.setup.palette }, tone := none }

def FrameResult.bare (r : FrameResult) : FrameResult :=
  { r with player := r.player.bare, machine := r.machine.calm }

/-- A frame depends neither on picture and sound nor on the redraw flag. -/
theorem frame_bare (p : Player) (m : Machine) :
    (p.bare.frame m.calm).bare = (p.frame m).bare := by
  have burst := Burst.run_calm p.setting p.setup.budget { machine := m, trace := p.trace }
  have halt : p.bare.halt = p.halt := rfl
  have start : Burst.run p.bare.setting p.bare.setup.budget
      { machine := m.calm, trace := p.bare.trace } =
      Burst.run p.setting p.setup.budget (Burst.calm { machine := m, trace := p.trace }) := rfl
  unfold frame
  rw [halt, start]
  split
  · rfl
  · generalize Burst.run p.setting p.setup.budget (Burst.calm _) = first at burst
    generalize Burst.run p.setting p.setup.budget _ = second at burst
    obtain ⟨b, before⟩ := first
    obtain ⟨b', before'⟩ := second
    obtain ⟨same, earlier⟩ := Prod.mk.inj burst
    obtain ⟨machine, trace, executed, failed, printed⟩ := b
    obtain ⟨machine', _, _, _, _⟩ := b'
    obtain ⟨machines, rfl, rfl, rfl, rfl⟩ := Burst.mk.inj same
    have ticks : machine.tick.calm = machine'.tick.calm := congrArg Machine.tick machines
    have told : before.snapshot = before'.snapshot := (congrArg Machine.snapshot earlier :)
    cases failed with
    | none => exact congrArg (FrameResult.mk _ _ · _) ticks
    | some e =>
        cases e with
        | fault f =>
            have halts (p : Player) : p.halted f before = p.halted f before' := by
              simp only [halted, told]
            dsimp only
            rw [halts]
            exact congrArg (FrameResult.mk _ _ · _) ticks
        | _ => exact congrArg (FrameResult.mk _ _ · _) machines

/-- Frames of players that differ in picture and sound, on machines that differ in the redraw
flag, do the same. -/
theorem frame_congr {p p' : Player} {m m' : Machine} (players : p.bare = p'.bare)
    (machines : m.calm = m'.calm) : (p.frame m).bare = (p'.frame m').bare :=
  calc (p.frame m).bare = (p.bare.frame m.calm).bare := (frame_bare p m).symm
    _ = (p'.bare.frame m'.calm).bare := by rw [players, machines]
    _ = (p'.frame m').bare := frame_bare p' m'

end Player

end Chip8
