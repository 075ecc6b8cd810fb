/-
# Chip8.Program — the emulator as a program

The program reads its command line, checks it, and runs a player. It ends with
status 2 when the command line is refused or the guest program faults, with
status 1 when the frontend cannot start, and with status 0 otherwise.
-/
import Chip8.CommandLine
import Chip8.Player.Run

namespace Chip8.Program

set_option autoImplicit false

def name : String := "run.py"

structure Exit where
  status : Nat
  report : String := ""
  deriving DecidableEq, Repr

def Exit.usage (e : CommandLine.UsageError) : Exit := ⟨2, name ++ ": error: " ++ e.message⟩

/-- What came of the program: its exit, or a failure it has no report for. -/
structure Result where
  outcome : Except Failure Exit
  requests : Array Request := #[]
  printed : Array String := #[]

/-- Why a run does not begin: its command line is refused, or something has no report. -/
inductive Obstacle where
  | usage (error : CommandLine.UsageError)
  | failure (failure : Failure)
  deriving DecidableEq, Repr

def needed {α : Type} (value : CommandLine.Value α) : Except Obstacle α :=
  match value with
  | .given a => .ok a
  | .empty => .error (.failure .emptyOption)

def positive (flag : CommandLine.Flag) (value : CommandLine.Value Int) :
    Except Obstacle { n : Nat // 0 < n } := do
  let z ← needed value
  if h : 0 < z then return ⟨z.toNat, Refusal.toNat_pos h⟩ else throw (.usage (.notPositive flag))

def existing (look : Path → Path.Target) (value : CommandLine.Value Path) :
    Except Obstacle Path :=
  match value with
  | .empty => .error (.failure .emptyPath)
  | .given path =>
      match (look path).present with
      | .ok true => .ok path
      | .ok false => .error (.usage (.romNotFound path.text))
      | .error e => .error (.failure (.file e))

def player (look : Path → Path.Target) (path : CommandLine.Value Path) (o : CommandLine.Options)
    (log : Log.Filter) : Except Obstacle Player := do
  let path ← existing look path
  let scale ← positive .scale o.scale
  let ipf ← positive .ipf o.ipf
  let stride ← positive .glyphStride o.glyphStride
  let palette ← needed o.palette
  return .create
    { path := some path
      scale := scale.val
      fullscreen := o.fullscreen
      budget := ipf.val
      dialect := ⟨!o.shiftVx, stride.val, stride.property⟩
      palette := (Palette.named.lookup palette).getD .monochrome
      mute := o.mute
      budget_pos := ipf.property }
    log

def exitOf (r : Player.RunResult) : Except Failure Exit :=
  match r.outcome with
  | .error (.frontend e) => .ok ⟨1, name ++ ": " ++ e.message⟩
  | .error e => .error e
  | .ok () =>
      match r.player.halt with
      | some fault => .ok ⟨2, name ++ ": guest program halted: " ++ fault.message⟩
      | none => .ok ⟨0, ""⟩

def run (words : List String) (log : Log.Filter) (look : Path → Path.Target) (host : Host) :
    Result :=
  match CommandLine.parse words with
  | .error e => { outcome := .ok (.usage e) }
  | .ok none => { outcome := .ok ⟨0, ""⟩ }
  | .ok (some (path, o)) =>
      match player look path o log with
      | .error (.usage e) => { outcome := .ok (.usage e) }
      | .error (.failure e) => { outcome := .error e }
      | .ok p =>
          let r := p.run look host
          { outcome := exitOf r, requests := r.requests, printed := r.printed }

end Chip8.Program
