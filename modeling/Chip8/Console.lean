/-
# Chip8.Console — a machine and the keyboard in front of it

The keyboard presses the keypad of the machine. The machine does not know the
keyboard: resetting the machine lifts its keys and leaves the counts of the
keyboard as they are.
-/
import Chip8.Keyboard
import Chip8.Machine

namespace Chip8

set_option autoImplicit false

structure Console where
  machine : Machine
  keyboard : Keyboard := {}
  deriving DecidableEq

namespace Console

/-- The standard machine with a seed, a start address and a program, which is left out if it
is empty. -/
def create (seed start : Int) (program : List Byte) : Except Fault Console :=
  let machine := (Machine.standard.seed seed).jump start
  if program.isEmpty then .ok { machine }
  else do return { machine := ← machine.load start program }

/-- What is logged when a console was made. -/
def createLog (f : Log.Filter) (start : Int) (program : List Byte) : List String :=
  if program.isEmpty then [] else Machine.loadLog f start program

def withKeys (c : Console) (keys : Keyboard × Keypad) : Console :=
  { machine := { c.machine with keypad := keys.2 }, keyboard := keys.1 }

def press (c : Console) (name : String) : Console :=
  c.withKeys (c.keyboard.press c.machine.keypad name)

def release (c : Console) (name : String) : Console :=
  c.withKeys (c.keyboard.release c.machine.keypad name)

def liftKeys (c : Console) : Console := c.withKeys ({}, {})

end Console

end Chip8
