/-
# Chip8.Instruction — rows of an instruction table

A row stands for all opcodes that agree with its pattern on the bits of its mask.
A row is refused when no 16-bit opcode could agree with it (`Instruction.create`).
-/
import Chip8.Failure
import Chip8.Operation

namespace Chip8

set_option autoImplicit false

/-- A pattern of opcodes, its assembler text, and the name of its operation. -/
structure Instruction where
  mask : Word
  pattern : Word
  mnemonic : String
  handler : String
  pattern_in_mask : pattern &&& ~~~mask = 0
  deriving DecidableEq

namespace Instruction

/-- The row made of the given numbers, if they are 16-bit words and the pattern lies in the
mask. -/
def create (mask pattern : Int) (mnemonic handler : String) : Except Refusal Instruction :=
  if 0 ≤ mask ∧ mask ≤ 0xFFFF ∧ 0 ≤ pattern ∧ pattern ≤ 0xFFFF then
    if h : BitVec.ofInt 16 pattern &&& ~~~BitVec.ofInt 16 mask = 0 then
      .ok ⟨BitVec.ofInt 16 mask, BitVec.ofInt 16 pattern, mnemonic, handler, h⟩
    else .error (.patternOutsideMask pattern mask)
  else .error (.patternRange pattern mask)

def accepts (row : Instruction) (w : Opcode) : Bool := w &&& row.mask == row.pattern

def format (row : Instruction) (w : Opcode) (limits : Limits := {}) : Except Failure String :=
  (Template.render row.mnemonic w limits).mapError .template

/-- The row accepts its own pattern. -/
theorem accepts_pattern (row : Instruction) : row.accepts row.pattern = true := by
  have inside := row.pattern_in_mask
  simp only [accepts, beq_iff_eq]
  calc row.pattern &&& row.mask
      = row.pattern &&& row.mask ||| row.pattern &&& ~~~row.mask := by rw [inside]; simp
    _ = row.pattern := by
      rw [← BitVec.and_or_distrib_left, BitVec.or_not_self, BitVec.and_allOnes]

end Instruction

end Chip8
