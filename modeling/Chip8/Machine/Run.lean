/-
# Chip8.Machine.Run — many instructions

A run executes instructions one after another, up to a number of them, and stops
at the first that fails. It keeps the machine after every executed instruction.
-/
import Chip8.Machine.Step

namespace Chip8

set_option autoImplicit false

structure Run where
  machine : Machine
  /-- The machine after each executed instruction. -/
  visited : List Machine := []
  failed : Option Failure := none
  printed : List String := []

/-- A run with what came of going on from where it ended. -/
def Run.append (first second : Run) : Run where
  machine := second.machine
  visited := first.visited ++ second.visited
  failed := second.failed
  printed := first.printed ++ second.printed

namespace Machine

def run (s : Setting) (m : Machine) : Nat → Run
  | 0 => { machine := m }
  | n + 1 =>
      let r := m.step s
      match r.outcome with
      | .error e => { machine := r.machine, failed := some e, printed := r.printed }
      | .ok _ =>
          Run.append { machine := r.machine, visited := [r.machine], printed := r.printed }
            (run s r.machine n)

/-- After an instruction that was executed a run goes on from the machine it left. -/
theorem run_succ_of_done {s : Setting} {m : Machine} {row : Instruction}
    (done : (m.step s).outcome = .ok row) (n : Nat) :
    (m.run s (n + 1)).failed = ((m.step s).machine.run s n).failed ∧
      (m.run s (n + 1)).machine = ((m.step s).machine.run s n).machine := by
  simp only [run, done]
  exact ⟨rfl, rfl⟩

end Machine

end Chip8
