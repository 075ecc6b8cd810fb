/-
# Chip8.Machine — the state of the interpreter

A machine is all that a program can observe or change: memory, display, keypad,
registers, stack, timers and generator, with a count of executed instructions and
a flag that asks for a redraw. Here are the operations the host has on it; what
instructions do is in `Chip8.Machine.Execute`.
-/
import Chip8.Display
import Chip8.Font
import Chip8.Generator
import Chip8.Keypad
import Chip8.Log
import Chip8.Memory
import Chip8.Stack
import Chip8.Timers

namespace Chip8

set_option autoImplicit false

structure Machine where
  memory : Memory
  display : Display
  keypad : Keypad := {}
  registers : Registers := {}
  stack : Stack := .standard
  timers : Timers := {}
  generator : Generator := .standard
  cycles : Nat := 0
  redraw : Bool := false
  deriving DecidableEq

namespace Machine

/-- A machine that was just switched on: the font is in memory. -/
def powerOn (memory : Memory) (display : Display) : Except Fault Machine := do
  let memory ← memory.writeBlock Font.base Font.bytes
  return { memory, display }

/-- The standard machine: 4096 bytes of memory, 64 by 32 pixels. -/
def standard : Machine :=
  { memory := Memory.standard.pokes Font.base Font.bytes, display := .standard }

instance : Inhabited Machine := ⟨standard⟩

/-- The standard machine is what switching on gives. -/
theorem powerOn_standard : powerOn .standard .standard = .ok standard := by
  have size : Memory.standard.size = 4096 := Array.size_replicate
  have fits : Memory.standard.check Font.base Font.bytes.length = .ok () := by
    simp [Memory.check, size, Font.base]
  rw [powerOn, Memory.writeBlock, fits]
  rfl

/-! ## The host's operations -/

def jump (m : Machine) (pc : Int) : Machine := { m with registers := { m.registers with pc } }

def point (m : Machine) (i : Int) : Machine := { m with registers := { m.registers with i } }

def put (m : Machine) (x : Nibble) (value : Byte) : Machine :=
  { m with registers := m.registers.set x value }

def skip (m : Machine) : Machine := m.jump ((m.registers.pc + 2) % 0x10000)

/-- Everything is as it was when the machine was switched on, but the generator goes on. -/
def reset (m : Machine) : Machine :=
  { memory := (Memory.blank m.memory.size m.memory.size_pos).pokes Font.base Font.bytes
    display := m.display.clear
    stack := m.stack.reset
    generator := m.generator }

@[simp] theorem size_memory_reset (m : Machine) : m.reset.memory.size = m.memory.size := by
  rw [reset, Memory.size_pokes]
  exact Array.size_replicate

/-- A program is copied to an address, and execution starts there. -/
def load (m : Machine) (address : Int) (data : List Byte) : Except Fault Machine := do
  let memory ← m.memory.writeBlock address data
  return { m with memory }.jump address

/-- What loading a program leaves. -/
theorem load_eq_ok {m after : Machine} {address : Int} {data : List Byte}
    (loaded : m.load address data = .ok after) :
    ∃ memory, m.memory.writeBlock address data = .ok memory ∧
      after = { m with memory }.jump address := by
  unfold load at loaded
  cases written : m.memory.writeBlock address data with
  | error _ =>
      rw [written] at loaded
      cases loaded
  | ok memory =>
      rw [written] at loaded
      cases loaded
      exact ⟨memory, rfl, rfl⟩

def loadLog (f : Log.Filter) (address : Int) (data : List Byte) : List String :=
  f.write "loader" <|
    "rom loaded at " ++ Text.lowerHex 3 address ++ " length=" ++ Text.decimal data.length

/-- The redraw flag, and the machine with the flag cleared. -/
def takeRedraw (m : Machine) : Bool × Machine := (m.redraw, { m with redraw := false })

def tick (m : Machine) : Machine := { m with timers := m.timers.tick }

def setKeys (m : Machine) (states : List Bool) : Except Refusal Machine := do
  return { m with keypad := ← Keypad.ofStates states }

/-- Setting the keys leaves everything but the keypad. -/
theorem setKeys_eq_ok {m after : Machine} {states : List Bool}
    (set : m.setKeys states = .ok after) : ∃ keypad, after = { m with keypad } := by
  unfold setKeys at set
  cases given : Keypad.ofStates states with
  | error _ =>
      rw [given] at set
      cases set
  | ok keypad =>
      rw [given] at set
      cases set
      exact ⟨keypad, rfl⟩

def seed (m : Machine) (seed : Int) : Machine := { m with generator := .ofSeed seed }

def beeping (m : Machine) : Bool := m.timers.beeping

def fetch (m : Machine) : Except Fault Word :=
  if m.memory.size ≤ m.registers.pc + 1 then .error (.illegalAddress m.registers.pc)
  else m.memory.loadWord m.registers.pc

end Machine

end Chip8
