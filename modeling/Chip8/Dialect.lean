/-
# Chip8.Dialect — where interpreters of the machine differ

Interpreters agree on all instructions but two kinds. The shifts take their
operand from `Vy` or from `Vx`, and the instruction that points at a glyph
multiplies the digit by one or by the height of a glyph. A `Setting` is a dialect
together with the instruction table and the log filter under which a machine
runs; none of the three changes while it runs.
-/
import Chip8.InstructionSet
import Chip8.Log

namespace Chip8

set_option autoImplicit false

structure Dialect where
  /-- The shifts read `Vy`; otherwise they read `Vx`. -/
  shiftsVy : Bool := true
  /-- The distance of two glyphs for the glyph instruction. -/
  glyphStride : Nat := 1
  stride_pos : 0 < glyphStride := by decide

namespace Dialect

def create (shiftsVy : Bool) (glyphStride : Int) : Except Refusal Dialect :=
  if h : 0 < glyphStride then .ok ⟨shiftsVy, glyphStride.toNat, Refusal.toNat_pos h⟩
  else .error .glyphStride

def standardStride : Int := 1

def standard : Dialect := {}

instance : Inhabited Dialect := ⟨standard⟩

end Dialect

/-- What a machine runs under. -/
structure Setting where
  dialect : Dialect := .standard
  table : InstructionSet := .standard
  log : Log.Filter := .silent
  limits : Limits := {}

end Chip8
