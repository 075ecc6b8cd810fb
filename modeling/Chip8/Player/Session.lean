/-
# Chip8.Player.Session — frames, and keys between them

A host that has a player and a console asks for one frame after another and passes keys on
in between. `Act` lists what it can do, a session keeps what the frames have answered, and
`run` carries out a list of acts.
-/
import Chip8.Player

namespace Chip8.Player

set_option autoImplicit false

inductive Act where
  | frame
  | press (name : String)
  | release (name : String)
  | liftKeys

/-- A player with the console it plays on, and the answers of its frames, in order. -/
structure Session where
  player : Player
  console : Console
  answers : List (Except Failure Nat) := []

namespace Session

def act (g : Session) (a : Act) (table : InstructionSet := .standard) : Session :=
  match a with
  | .frame =>
      let r := g.player.frame g.console.machine table
      { player := r.player
        console := { g.console with machine := r.machine }
        answers := g.answers ++ [r.outcome] }
  | .press name => { g with console := g.console.press name }
  | .release name => { g with console := g.console.release name }
  | .liftKeys => { g with console := g.console.liftKeys }

def run (g : Session) (acts : List Act) (table : InstructionSet := .standard) : Session :=
  acts.foldl (act · · table) g

theorem run_concat (g : Session) (acts : List Act) (a : Act) (table : InstructionSet) :
    g.run (acts ++ [a]) table = (g.run acts table).act a table := by
  rw [run, List.foldl_append]
  rfl

end Session

end Chip8.Player
