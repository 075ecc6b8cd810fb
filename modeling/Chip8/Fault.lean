/-
# Chip8.Fault — what a guest program can do wrong

A fault stops the instruction that caused it. Addresses and indices are carried
as they were asked for, so they may lie outside every range; the opcode of an
instruction that cannot be executed is a 16-bit word.
-/
import Chip8.Text.Numeral

namespace Chip8

set_option autoImplicit false

/-- A byte of memory, a register, or eight pixels. -/
abbrev Byte := BitVec 8

/-- An opcode or a return address. -/
abbrev Word := BitVec 16

inductive Fault where
  | illegalInstruction (opcode : Word)
  | illegalAddress (address : Int)
  | illegalRegister (index : Int)
  | illegalKey (index : Int)
  | stackOverflow
  | stackUnderflow
  /-- A fault that is known by its description alone. -/
  | described (text : String)
  deriving DecidableEq, Repr

namespace Fault

open Text in
def message : Fault → String
  | .illegalInstruction opcode => "illegal instruction " ++ markedHex 6 opcode.toNat
  | .illegalAddress address => "illegal address " ++ markedHex 6 address
  | .illegalRegister index => "illegal register index " ++ markedHex 4 index
  | .illegalKey index => "illegal key index " ++ markedHex 4 index
  | .stackOverflow => "stack overflow"
  | .stackUnderflow => "stack underflow"
  | .described text => text

end Fault

end Chip8
