/-
# Chip8.Machine.Effect — acts on a machine, one after another

An instruction is a sequence of acts: it reads registers and memory, asks the keypad,
and writes what it found. An act may fail, and that ends the sequence; what the acts
before it wrote stays written, so that a failing instruction leaves whatever machine it
has come to.

Here are the acts of which all instructions are made. They check what they are asked for:
a register by its number, a block of memory by its address, the height of a sprite.
-/
import Chip8.Failure
import Chip8.Machine

namespace Chip8

set_option autoImplicit false

/-- Acts that give a value or fail. A failure keeps the machine as it is by then. -/
abbrev Effect (α : Type) := ExceptT Failure (StateM Machine) α

namespace Effect

variable {α : Type}

/-- What comes of the acts on a machine, and the machine they leave. -/
def on (e : Effect α) (m : Machine) : Except Failure α × Machine := StateT.run (ExceptT.run e) m

/-- The answer of a part of the machine, whose fault ends the instruction. -/
def ofFault : Except Fault α → Effect α
  | .ok a => pure a
  | .error f => throw (.fault f)

def ofRefusal : Except Refusal α → Effect α
  | .ok a => pure a
  | .error r => throw (.refusal r)

/-! ## Registers -/

def register (k : Int) : Effect Byte := do ofFault ((← get).registers.load k)

/-- The register with the given number is set; the value counts modulo 256. -/
def setRegister (k value : Int) : Effect Unit := do
  let registers ← ofFault ((← get).registers.store k value)
  modify fun m => { m with registers }

def setRegisters (k : Nat) : List Byte → Effect Unit
  | [] => pure ()
  | value :: rest => do
      setRegister k value.toNat
      setRegisters (k + 1) rest

def setFlag (flag : Bool) : Effect Unit :=
  modify fun m => { m with registers := m.registers.setFlag flag }

def jump (pc : Int) : Effect Unit := modify (·.jump pc)

def point (i : Int) : Effect Unit := modify (·.point i)

def skipIf (condition : Bool) : Effect Unit := if condition then modify (·.skip) else pure ()

/-! ## The other parts of the machine -/

def push (address : Int) : Effect Unit := do
  let stack ← ofFault ((← get).stack.push address)
  modify fun m => { m with stack }

def pop : Effect Word := do
  let (address, stack) ← ofFault (← get).stack.pop
  modify fun m => { m with stack }
  return address

def readBlock (length : Int) : Effect (List Byte) := do
  let m ← get
  ofFault (m.memory.readBlock m.registers.i length)

/-- The block of memory at the index register is replaced. The whole block is checked before a
byte of it is written. -/
def writeBlock (values : List Byte) : Effect Unit := do
  let m ← get
  ofFault (m.memory.check m.registers.i values.length)
  modify fun m => { m with memory := m.memory.pokes m.registers.i.toNat values }

def blit (x y : Int) (rows : List Byte) : Effect Bool := do
  let (hit, display) ← ofRefusal ((← get).display.blit x y rows)
  modify fun m => { m with display }
  return hit

def requestRedraw : Effect Unit := modify fun m => { m with redraw := true }

def pressed (k : Int) : Effect Bool := do ofFault ((← get).keypad.pressed k)

def randomByte : Effect Byte := do
  let (value, generator) := (← get).generator.byte
  modify fun m => { m with generator }
  return value

end Effect

end Chip8
