/-
# Chip8.InstructionSet — instruction tables

A table is a list of rows; the first row that accepts an opcode decodes it, so
the rows for single opcodes (`00E0`, `00EE`) stand before the row for all of
`0nnn`. Rows are added one by one, and a row with the mask and the pattern of an
earlier one is refused.
-/
import Chip8.Instruction

namespace Chip8

set_option autoImplicit false

/-- Rows in the order in which they are tried. -/
abbrev InstructionSet := List Instruction

namespace InstructionSet

def decode (table : InstructionSet) (w : Opcode) : Option Instruction :=
  table.find? (·.accepts w)

/-- The assembler text of an opcode; a data word when no row accepts it. -/
def disassemble (table : InstructionSet) (w : Opcode) (limits : Limits := {}) :
    Except Failure String :=
  match decode table w with
  | some row => row.format w limits
  | none => .ok ("DW " ++ Text.upperHex 4 w.toNat)

/-- The row of the table with the same mask and pattern as another. -/
def clash? (table : InstructionSet) (row : Instruction) : Option Instruction :=
  table.find? fun old => old.mask == row.mask && old.pattern == row.pattern

def register (table : InstructionSet) (row : Instruction) : Except Refusal InstructionSet :=
  match clash? table row with
  | some old => .error (.patternTaken row.pattern.toNat old.mnemonic)
  | none => .ok (table ++ [row])

/-- Rows are added one by one up to the first that is refused; the rows before it stay. -/
def registerAll (table : InstructionSet) : List Instruction → Except Refusal Unit × InstructionSet
  | [] => (.ok (), table)
  | row :: rest =>
      match register table row with
      | .ok table => registerAll table rest
      | .error reason => (.error reason, table)

def build (rows : List Instruction) : Except Refusal InstructionSet :=
  match registerAll [] rows with
  | (.ok (), table) => .ok table
  | (.error reason, _) => .error reason

def standard : InstructionSet :=
  [⟨0xFFFF, 0x00E0, "CLS", Operation.clear.name, by decide⟩,
   ⟨0xFFFF, 0x00EE, "RET", Operation.ret.name, by decide⟩,
   ⟨0xF000, 0x0000, "SYS \x7bnnn:03X\x7d", Operation.sys.name, by decide⟩,
   ⟨0xF000, 0x1000, "JP \x7bnnn:03X\x7d", Operation.jump.name, by decide⟩,
   ⟨0xF000, 0x2000, "CALL \x7bnnn:03X\x7d", Operation.call.name, by decide⟩,
   ⟨0xF000, 0x3000, "SE V\x7bx:X\x7d, \x7bnn:02X\x7d", Operation.skipEqualByte.name, by decide⟩,
   ⟨0xF000, 0x4000, "SNE V\x7bx:X\x7d, \x7bnn:02X\x7d", Operation.skipUnequalByte.name, by decide⟩,
   ⟨0xF00F, 0x5000, "SE V\x7bx:X\x7d, V\x7by:X\x7d", Operation.skipEqual.name, by decide⟩,
   ⟨0xF000, 0x6000, "LD V\x7bx:X\x7d, \x7bnn:02X\x7d", Operation.loadByte.name, by decide⟩,
   ⟨0xF000, 0x7000, "ADD V\x7bx:X\x7d, \x7bnn:02X\x7d", Operation.addByte.name, by decide⟩,
   ⟨0xF00F, 0x8000, "LD V\x7bx:X\x7d, V\x7by:X\x7d", Operation.load.name, by decide⟩,
   ⟨0xF00F, 0x8001, "OR V\x7bx:X\x7d, V\x7by:X\x7d", Operation.or.name, by decide⟩,
   ⟨0xF00F, 0x8002, "AND V\x7bx:X\x7d, V\x7by:X\x7d", Operation.and.name, by decide⟩,
   ⟨0xF00F, 0x8003, "XOR V\x7bx:X\x7d, V\x7by:X\x7d", Operation.xor.name, by decide⟩,
   ⟨0xF00F, 0x8004, "ADD V\x7bx:X\x7d, V\x7by:X\x7d", Operation.add.name, by decide⟩,
   ⟨0xF00F, 0x8005, "SUB V\x7bx:X\x7d, V\x7by:X\x7d", Operation.subtract.name, by decide⟩,
   ⟨0xF00F, 0x8006, "SHR V\x7bx:X\x7d, V\x7by:X\x7d", Operation.shiftRight.name, by decide⟩,
   ⟨0xF00F, 0x8007, "SUBN V\x7bx:X\x7d, V\x7by:X\x7d", Operation.subtractFrom.name, by decide⟩,
   ⟨0xF00F, 0x800E, "SHL V\x7bx:X\x7d, V\x7by:X\x7d", Operation.shiftLeft.name, by decide⟩,
   ⟨0xF00F, 0x9000, "SNE V\x7bx:X\x7d, V\x7by:X\x7d", Operation.skipUnequal.name, by decide⟩,
   ⟨0xF000, 0xA000, "LD I, \x7bnnn:03X\x7d", Operation.loadIndex.name, by decide⟩,
   ⟨0xF000, 0xB000, "JP V0, \x7bnnn:03X\x7d", Operation.jumpOffset.name, by decide⟩,
   ⟨0xF000, 0xC000, "RND V\x7bx:X\x7d, \x7bnn:02X\x7d", Operation.random.name, by decide⟩,
   ⟨0xF000, 0xD000, "DRW V\x7bx:X\x7d, V\x7by:X\x7d, \x7bn:X\x7d", Operation.draw.name, by decide⟩,
   ⟨0xF0FF, 0xE09E, "SKP V\x7bx:X\x7d", Operation.skipDown.name, by decide⟩,
   ⟨0xF0FF, 0xE0A1, "SKNP V\x7bx:X\x7d", Operation.skipUp.name, by decide⟩,
   ⟨0xF0FF, 0xF007, "LD V\x7bx:X\x7d, DT", Operation.readDelay.name, by decide⟩,
   ⟨0xF0FF, 0xF00A, "LD V\x7bx:X\x7d, K", Operation.waitKey.name, by decide⟩,
   ⟨0xF0FF, 0xF015, "LD DT, V\x7bx:X\x7d", Operation.writeDelay.name, by decide⟩,
   ⟨0xF0FF, 0xF018, "LD ST, V\x7bx:X\x7d", Operation.writeSound.name, by decide⟩,
   ⟨0xF0FF, 0xF01E, "ADD I, V\x7bx:X\x7d", Operation.addIndex.name, by decide⟩,
   ⟨0xF0FF, 0xF029, "LD F, V\x7bx:X\x7d", Operation.loadGlyph.name, by decide⟩,
   ⟨0xF0FF, 0xF033, "LD B, V\x7bx:X\x7d", Operation.decimalDigits.name, by decide⟩,
   ⟨0xF0FF, 0xF055, "LD [I], V\x7bx:X\x7d", Operation.saveRegisters.name, by decide⟩,
   ⟨0xF0FF, 0xF065, "LD V\x7bx:X\x7d, [I]", Operation.restoreRegisters.name, by decide⟩]

/-- The standard rows differ from each other. -/
theorem build_standard : build standard = .ok standard := rfl

end InstructionSet

end Chip8
