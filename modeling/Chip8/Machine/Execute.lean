/-
# Chip8.Machine.Execute — the effect of each operation

An operation acts on a machine whose program counter already points behind the
instruction. Its acts are listed in their order, which shows where registers coincide:
sums and differences set the flag after the register, shifts set it before, and a block
is read or written only when all of it lies in memory.
-/
import Chip8.Dialect
import Chip8.Machine.Effect

namespace Chip8.Operation

set_option autoImplicit false

open Effect

def shiftSource (dialect : Dialect) (w : Opcode) : Effect Byte :=
  register (if dialect.shiftsVy then Opcode.y w else Opcode.x w).val

def digits (value : Byte) : List Byte :=
  [BitVec.ofNat 8 (value.toNat / 100), BitVec.ofNat 8 (value.toNat % 100 / 10),
   BitVec.ofNat 8 (value.toNat % 10)]

def restored (r : Registers) (values : List Byte) : Registers :=
  { r with v := Vector.ofFn fun k => values.getD k.val r.v[k.val] }

/-- The acts of an operation with the operands of an opcode. -/
def execute (dialect : Dialect) (w : Opcode) : Operation → Effect Unit :=
  let x : Nat := (Opcode.x w).val
  let y : Nat := (Opcode.y w).val
  let nn : Byte := Opcode.nn w
  let nnn : Nat := Opcode.nnn w
  fun
  | .clear => do
      modify fun m => { m with display := m.display.clear }
      requestRedraw
  | .ret => do Effect.jump (← pop).toNat
  | .sys => pure ()
  | .jump => Effect.jump nnn
  | .call => do
      push (← get).registers.pc
      Effect.jump nnn
  | .skipEqualByte => do skipIf ((← register x) == nn)
  | .skipUnequalByte => do skipIf ((← register x) != nn)
  | .skipEqual => do skipIf ((← register x) == (← register y))
  | .skipUnequal => do skipIf ((← register x) != (← register y))
  | .loadByte => setRegister x nn.toNat
  | .addByte => do setRegister x ((← register x).toNat + nn.toNat)
  | .load => do setRegister x (← register y).toNat
  | .or => do setRegister x ((← register x) ||| (← register y)).toNat
  | .and => do setRegister x ((← register x) &&& (← register y)).toNat
  | .xor => do setRegister x ((← register x) ^^^ (← register y)).toNat
  | .add => do
      let total := (← register x).toNat + (← register y).toNat
      setRegister x total
      setFlag (decide (0xFF < total))
  | .subtract => do
      let vx ← register x
      let vy ← register y
      setRegister x (vx.toNat - vy.toNat)
      setFlag (decide (vx < vy))
  | .subtractFrom => do
      let vx ← register x
      let vy ← register y
      setRegister x (vy.toNat - vx.toNat)
      setFlag (decide (vy < vx))
  | .shiftRight => do
      let value ← shiftSource dialect w
      setFlag (value &&& 0x01 != 0)
      setRegister x (value.toNat >>> 1)
  | .shiftLeft => do
      let value ← shiftSource dialect w
      setFlag (value &&& 0x80 != 0)
      setRegister x (value.toNat <<< 1)
  | .loadIndex => point nnn
  | .jumpOffset => do Effect.jump ((nnn + (← register 0).toNat) % 0x10000)
  | .random => do setRegister x ((← randomByte) &&& nn).toNat
  | .draw => do
      let rows ← readBlock (Opcode.n w).val
      let hit ← blit (← register x).toNat (← register y).toNat rows
      setFlag hit
      requestRedraw
  | .skipDown => do skipIf (← pressed (← register x).toNat)
  | .skipUp => do skipIf (!(← pressed (← register x).toNat))
  | .readDelay => do setRegister x (← get).timers.delay.toNat
  | .waitKey => do
      match (← get).keypad.first? with
      | none => modify fun m => m.jump ((m.registers.pc - 2) % 0x10000)
      | some key => setRegister x key.val
  | .writeDelay => do
      let vx ← register x
      modify fun m => { m with timers := { m.timers with delay := vx } }
  | .writeSound => do
      let vx ← register x
      modify fun m => { m with timers := { m.timers with sound := vx } }
  | .addIndex => do
      let vx ← register x
      modify fun m => m.point ((m.registers.i + vx.toNat) % 0x10000)
  | .loadGlyph => do point ((Font.base + (← register x).toNat * dialect.glyphStride) % 0x10000)
  | .decimalDigits => do writeBlock (digits (← register x))
  | .saveRegisters => do
      let values ← (List.range (x + 1)).mapM fun (k : Nat) => register k
      writeBlock values
  | .restoreRegisters => do setRegisters 0 (← readBlock (x + 1))

end Chip8.Operation
