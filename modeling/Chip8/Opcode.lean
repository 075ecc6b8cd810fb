/-
# Chip8.Opcode — the fields of an opcode

An opcode is a 16-bit word, read as four hexadecimal digits: the kind, the
registers `x` and `y`, and `n`. The last two digits are the byte `nn`, the last
three the address `nnn`.
-/
import Chip8.Registers

namespace Chip8

set_option autoImplicit false

/-- A word that is read as an instruction. -/
abbrev Opcode := Word

namespace Opcode

/-- The opcode a number stands for: its lowest 16 bits. -/
def ofInt (z : Int) : Opcode := BitVec.ofInt 16 z

/-- The digit of weight `16 ^ k`. -/
def digit (w : Opcode) (k : Nat) : Nibble :=
  ⟨w.toNat / Nat.pow 16 k % 16, Nat.mod_lt _ (by decide)⟩

def kind (w : Opcode) : Nibble := digit w 3

def x (w : Opcode) : Nibble := digit w 2

def y (w : Opcode) : Nibble := digit w 1

def n (w : Opcode) : Nibble := digit w 0

def nn (w : Opcode) : Byte := w.setWidth 8

def nnn (w : Opcode) : Nat := w.toNat % 4096

theorem toNat_nn (w : Opcode) : (nn w).toNat = 16 * (y w).val + (n w).val := by
  simp only [nn, y, n, digit, Nat.pow_eq, BitVec.toNat_setWidth]
  omega

theorem nnn_eq (w : Opcode) : nnn w = 256 * (x w).val + 16 * (y w).val + (n w).val := by
  simp only [nnn, x, y, n, digit, Nat.pow_eq]
  omega

/-- An opcode is its four digits. -/
theorem toNat_eq (w : Opcode) : w.toNat = 4096 * (kind w).val + nnn w := by
  have := w.isLt
  simp only [nnn, kind, digit, Nat.pow_eq]
  omega

end Opcode

end Chip8
