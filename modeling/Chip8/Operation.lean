/-
# Chip8.Operation — what instructions do

The operations of the instruction set. A row of an instruction table refers to
its operation by name; a name that no operation has makes the row one that cannot
be executed.
-/
namespace Chip8

set_option autoImplicit false

inductive Operation where
  | clear
  | ret
  | sys
  | jump
  | call
  | skipEqualByte
  | skipUnequalByte
  | skipEqual
  | skipUnequal
  | loadByte
  | addByte
  | load
  | or
  | and
  | xor
  | add
  | subtract
  | subtractFrom
  | shiftRight
  | shiftLeft
  | loadIndex
  | jumpOffset
  | random
  | draw
  | skipDown
  | skipUp
  | readDelay
  | waitKey
  | writeDelay
  | writeSound
  | addIndex
  | loadGlyph
  | decimalDigits
  | saveRegisters
  | restoreRegisters
  deriving DecidableEq, Repr

namespace Operation

def name : Operation → String
  | .clear => "op_cls"
  | .ret => "op_ret"
  | .sys => "op_sys"
  | .jump => "op_jp"
  | .call => "op_call"
  | .skipEqualByte => "op_se_imm"
  | .skipUnequalByte => "op_sne_imm"
  | .skipEqual => "op_se_reg"
  | .skipUnequal => "op_sne_reg"
  | .loadByte => "op_ld_imm"
  | .addByte => "op_add_imm"
  | .load => "op_ld_reg"
  | .or => "op_or"
  | .and => "op_and"
  | .xor => "op_xor"
  | .add => "op_add_reg"
  | .subtract => "op_sub"
  | .subtractFrom => "op_subn"
  | .shiftRight => "op_shr"
  | .shiftLeft => "op_shl"
  | .loadIndex => "op_ld_i"
  | .jumpOffset => "op_jp_v0"
  | .random => "op_rnd"
  | .draw => "op_drw"
  | .skipDown => "op_skp"
  | .skipUp => "op_sknp"
  | .readDelay => "op_ld_vx_dt"
  | .waitKey => "op_ld_key"
  | .writeDelay => "op_ld_dt"
  | .writeSound => "op_ld_st"
  | .addIndex => "op_add_i"
  | .loadGlyph => "op_ld_font"
  | .decimalDigits => "op_bcd"
  | .saveRegisters => "op_store_regs"
  | .restoreRegisters => "op_load_regs"

def all : List Operation :=
  [.clear, .ret, .sys, .jump, .call, .skipEqualByte, .skipUnequalByte, .skipEqual, .skipUnequal,
   .loadByte, .addByte, .load, .or, .and, .xor, .add, .subtract, .subtractFrom, .shiftRight,
   .shiftLeft, .loadIndex, .jumpOffset, .random, .draw, .skipDown, .skipUp, .readDelay, .waitKey,
   .writeDelay, .writeSound, .addIndex, .loadGlyph, .decimalDigits, .saveRegisters,
   .restoreRegisters]

def ofName? (s : String) : Option Operation := all.find? (·.name == s)

/-- An operation is found by its name. -/
theorem ofName?_name (o : Operation) : ofName? o.name = some o := by cases o <;> decide +kernel

end Operation

end Chip8
