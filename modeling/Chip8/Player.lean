/-
# Chip8.Player — frames, and the halt on a fault

A player drives a machine by frames. A frame executes a budget of instructions and
then lets a sixtieth of a second pass; with tracing on, every instruction is
recorded. The first fault ends its frame early and halts the player: from then on
frames do nothing.
-/
import Chip8.Console
import Chip8.Machine.Step
import Chip8.Path
import Chip8.Tone
import Chip8.Trace

namespace Chip8

set_option autoImplicit false

structure Setup where
  path : Option Path := none
  scale : Int := 10
  fullscreen : Bool := false
  /-- The instructions of a frame. -/
  budget : Nat := 10
  dialect : Dialect := .standard
  palette : Palette := .monochrome
  mute : Bool := false
  budget_pos : 0 < budget := by decide

structure Player where
  setup : Setup
  log : Log.Filter := .silent
  halt : Option Fault := none
  trace : Option Trace := none
  canvas : Canvas
  tone : Option Tone := none

namespace Player

def traceCapacity : Nat := 512

/-- The number of entries that are logged when a player halts. -/
def traceTail : Int := 64

/-- A player that has not run yet. It traces if the log has the category for it. -/
def create (setup : Setup) (log : Log.Filter) : Player where
  setup := setup
  log := log
  trace := if log.enabled (some "trace") then some (.empty traceCapacity (by decide)) else none
  canvas := { palette := setup.palette }

def budget (instructions : Int) : Except Refusal { n : Nat // 0 < n } :=
  if h : 0 < instructions then .ok ⟨instructions.toNat, Refusal.toNat_pos h⟩
  else .error .frameBudget

/-- What a machine with the given instructions runs under when the player drives it. -/
def setting (p : Player) (table : InstructionSet := .standard) : Setting :=
  { dialect := p.setup.dialect, table, log := p.log }

/-! ## One frame -/

/-- Instructions of a frame: how many were executed, and the failure that ended them. -/
structure Burst where
  machine : Machine
  trace : Option Trace := none
  executed : Nat := 0
  failed : Option Failure := none
  printed : Array String := #[]

namespace Burst

/-- The trace with the record of an executed instruction. Its opcode is what stands in memory,
after the instruction, where the instruction was fetched. -/
def recordStep (s : Setting) (before after : Machine) (t : Trace) : Except Failure Trace := do
  let w := after.memory.word before.registers.pc.toNat
  let mnemonic ← s.table.disassemble w s.limits
  return t.record (.ofSnapshot before.snapshot (some w.toNat) mnemonic "")

def advance (s : Setting) (b : Burst) : Burst :=
  let r := b.machine.step s
  let b' := { b with machine := r.machine, printed := b.printed ++ r.printed }
  match r.outcome with
  | .error e => { b' with failed := some e }
  | .ok _ =>
      match b.trace with
      | none => { b' with executed := b.executed + 1 }
      | some t =>
          match recordStep s b.machine r.machine t with
          | .error e => { b' with failed := some e }
          | .ok t => { b' with trace := some t, executed := b.executed + 1 }

/-- Up to `n` more instructions, none after a failure. With the burst comes the machine before
the instruction that failed. -/
def run (s : Setting) : Nat → Burst → Burst × Machine
  | 0, b => (b, b.machine)
  | n + 1, b =>
      let next := b.advance s
      if next.failed.isSome then (next, b.machine) else run s n next

end Burst

structure FrameResult where
  outcome : Except Failure Nat
  player : Player
  machine : Machine
  printed : Array String := #[]

/-- The player after a fault: it is halted and, if it traces, the fault is the last record. -/
def halted (p : Player) (fault : Fault) (before : Machine) : Player :=
  { p with
    halt := some fault
    trace := p.trace.map fun t => t.record (.ofSnapshot before.snapshot none "" fault.message) }

def haltLog (p : Player) (fault : Fault) : List String :=
  p.log.write "cpu" ("halted: " ++ fault.message)
    ++ (match p.trace with | some t => t.dump p.log "trace" (some traceTail) | none => [])

def frame (p : Player) (m : Machine) (table : InstructionSet := .standard) : FrameResult :=
  if p.halt.isSome then ⟨.ok 0, p, m, #[]⟩
  else
    let (b, before) :=
      Burst.run (p.setting table) p.setup.budget { machine := m, trace := p.trace }
    let p := { p with trace := b.trace }
    match b.failed with
    | none => ⟨.ok b.executed, p, b.machine.tick, b.printed⟩
    | some (.fault fault) =>
        let p := p.halted fault before
        ⟨.ok b.executed, p, b.machine.tick, b.printed ++ p.haltLog fault⟩
    | some e => ⟨.error e, p, b.machine, b.printed⟩

end Player

end Chip8
