/-
# Chip8.Proofs.Ideal — the machine of the manual

A manual of the machine speaks of numbers and sets, not of bytes, packed pixels and slots.
`Ideal` is the machine as it would be described there: memory is a map from addresses to
numbers, the screen is the set of its lit pixels, the keypad the set of the keys that are
down, and the calls are a list of return addresses.

`next` is one instruction. The word at the program counter is read by its digits, every
operand is taken from the machine before the instruction, and what the instruction does not
name stays as it is. There is no next machine where the instruction goes wrong.
-/
import Mathlib.Data.Finset.SymmDiff
import Mathlib.Data.Finset.Max
import Mathlib.Data.Fintype.Prod
import Mathlib.Logic.Function.Basic
import Chip8.Proofs.Decoding

namespace Chip8

set_option autoImplicit false

abbrev Pixel := Fin 64 × Fin 32

/-- The machine of the manual. -/
@[ext] structure Ideal where
  memory : Nat → Nat
  /-- The lit pixels. -/
  screen : Finset Pixel
  /-- The keys that are down. -/
  keys : Finset Nibble
  v : Nibble → Nat
  i : Nat
  pc : Nat
  /-- The return addresses, the last one first. -/
  calls : List Nat
  delay : Nat
  sound : Nat
  generator : Nat
  cycles : Nat
  redraw : Bool

namespace Ideal

/-- The big-endian word at the program counter. -/
def word (a : Ideal) : Nat := 256 * a.memory a.pc + a.memory (a.pc + 1)

/-- The digit of weight `16 ^ k`. -/
def digit (w k : Nat) : Nibble := ⟨w / 16 ^ k % 16, Nat.mod_lt _ (by decide)⟩

def Inside (start length : Nat) : Prop := start < 4096 ∧ start + length ≤ 4096

instance (start length : Nat) : Decidable (Inside start length) := by
  unfold Inside
  infer_instance

/-! ## Parts of instructions -/

def pass (a : Ideal) : Ideal := { a with pc := a.pc + 2 }

/-- The instruction is passed, and the one after it if the condition holds. -/
def skipIf (a : Ideal) (condition : Bool) : Ideal :=
  { a with pc := if condition then a.pc + 4 else a.pc + 2 }

def put (a : Ideal) (x : Nibble) (value : Nat) : Ideal :=
  { a with v := Function.update a.v x value }

def flag (a : Ideal) (condition : Bool) : Ideal :=
  a.put Registers.flagIndex (if condition then 1 else 0)

def write (a : Ideal) (values : List Nat) : Ideal :=
  { a with memory := fun b =>
      if a.i ≤ b ∧ b < a.i + values.length then values.getD (b - a.i) 0 else a.memory b }

/-- The pixels of the sprite of `n` rows at the index, its corner at (`x`, `y`). The leftmost
pixel of a row is the highest bit. What lies beyond the screen is missing. -/
@[irreducible] def sprite (a : Ideal) (x y n : Nat) : Finset Pixel :=
  Finset.univ.filter fun p =>
    x ≤ p.1 ∧ p.1 < x + 8 ∧ y ≤ p.2 ∧ p.2 < y + n ∧
      (a.memory (a.i + (p.2 - y))).testBit (7 - (p.1 - x))

/-- A sprite of `n` rows is drawn. It toggles its pixels, and `VF` tells whether one was lit. -/
def draw (a : Ideal) (vx vy n : Nat) : Ideal :=
  let pixels := a.sprite (vx % 64) vy n
  { a with screen := symmDiff a.screen pixels, redraw := true }.flag (¬Disjoint a.screen pixels)

def shuffle (s : Nat) : Nat :=
  let s := s ^^^ (s <<< 13 % 2 ^ 32)
  let s := s ^^^ (s >>> 17)
  s ^^^ (s <<< 5 % 2 ^ 32)

/-! ## Instructions -/

/-- The machine after an operation with the operands of the word `w`. -/
def perform (dialect : Dialect) (w : Nat) (a : Ideal) : Operation → Option Ideal :=
  let x := digit w 2
  let n := w % 16
  let nn := w % 256
  let nnn := w % 4096
  let vx := a.v x
  let vy := a.v (digit w 1)
  let source := if dialect.shiftsVy then vy else vx
  fun
  | .clear => some { a.pass with screen := ∅, redraw := true }
  | .ret =>
      match a.calls with
      | [] => none
      | address :: rest => some { a with pc := address, calls := rest }
  | .sys => some a.pass
  | .jump => some { a with pc := nnn }
  | .call =>
      if a.calls.length < 16 then some { a with pc := nnn, calls := (a.pc + 2) :: a.calls }
      else none
  | .skipEqualByte => some (a.skipIf (vx = nn))
  | .skipUnequalByte => some (a.skipIf (vx ≠ nn))
  | .skipEqual => some (a.skipIf (vx = vy))
  | .skipUnequal => some (a.skipIf (vx ≠ vy))
  | .loadByte => some (a.pass.put x nn)
  | .addByte => some (a.pass.put x ((vx + nn) % 256))
  | .load => some (a.pass.put x vy)
  | .or => some (a.pass.put x (vx ||| vy))
  | .and => some (a.pass.put x (vx &&& vy))
  | .xor => some (a.pass.put x (vx ^^^ vy))
  | .add => some ((a.pass.put x ((vx + vy) % 256)).flag (255 < vx + vy))
  | .subtract => some ((a.pass.put x ((256 + vx - vy) % 256)).flag (vx < vy))
  | .subtractFrom => some ((a.pass.put x ((256 + vy - vx) % 256)).flag (vy < vx))
  | .shiftRight => some ((a.pass.flag (source % 2 = 1)).put x (source / 2))
  | .shiftLeft => some ((a.pass.flag (128 ≤ source)).put x (2 * source % 256))
  | .loadIndex => some { a.pass with i := nnn }
  | .jumpOffset => some { a with pc := nnn + a.v Registers.offsetIndex }
  | .random =>
      let next := shuffle a.generator
      some ({ a.pass with generator := next }.put x (next % 256 &&& nn))
  | .draw => if Inside a.i n then some (a.pass.draw vx vy n) else none
  | .skipDown => if vx < 16 then some (a.skipIf (∃ k ∈ a.keys, k.val = vx)) else none
  | .skipUp => if vx < 16 then some (a.skipIf (¬∃ k ∈ a.keys, k.val = vx)) else none
  | .readDelay => some (a.pass.put x a.delay)
  | .waitKey =>
      if down : a.keys.Nonempty then some (a.pass.put x (a.keys.min' down).val) else some a
  | .writeDelay => some { a.pass with delay := vx }
  | .writeSound => some { a.pass with sound := vx }
  | .addIndex => some { a.pass with i := (a.i + vx) % 65536 }
  | .loadGlyph => some { a.pass with i := (Font.base + vx * dialect.glyphStride) % 65536 }
  | .decimalDigits =>
      if Inside a.i 3 then some (a.pass.write [vx / 100, vx % 100 / 10, vx % 10]) else none
  | .saveRegisters =>
      if Inside a.i (x + 1) then some (a.pass.write (((List.finRange 16).take (x + 1)).map a.v))
      else none
  | .restoreRegisters =>
      if Inside a.i (x + 1) then
        some { a.pass with v := fun k => if k ≤ x then a.memory (a.i + k) else a.v k }
      else none

def operation? (w : Nat) : Option Operation :=
  Operation.ofDigits? (digit w 3) (digit w 2) (digit w 1) (digit w 0)

def next (dialect : Dialect) (a : Ideal) : Option Ideal :=
  if a.pc + 1 < 4096 then do
    let o ← operation? a.word
    let after ← a.perform dialect a.word o
    return { after with cycles := after.cycles + 1 }
  else none

def after (dialect : Dialect) (a : Ideal) : Nat → Option Ideal
  | 0 => some a
  | n + 1 => (a.next dialect).bind fun b => b.after dialect n

end Ideal

/-! ## What a machine stands for -/

@[irreducible] def Display.litPixels (d : Display) : Finset Pixel :=
  Finset.univ.filter fun p => d.lit p.1 p.2

def Keypad.downKeys (p : Keypad) : Finset Nibble := Finset.univ.filter fun k => p.isDown k

/-- The machine of the manual that a machine stands for. -/
def Machine.ideal (m : Machine) : Ideal where
  memory a := (m.memory.byte a).toNat
  screen := m.display.litPixels
  keys := m.keypad.downKeys
  v x := (m.registers.get x).toNat
  i := m.registers.i.toNat
  pc := m.registers.pc.toNat
  calls := (m.stack.live.map (·.toNat)).reverse
  delay := m.timers.delay.toNat
  sound := m.timers.sound.toNat
  generator := m.generator.state.toNat
  cycles := m.cycles
  redraw := m.redraw

end Chip8
