/-
# Chip8.Registers — sixteen byte registers, the index and the program counter

`VF` is an ordinary register that arithmetic, shifts and drawing also use for
their flag. The index `i` and the program counter `pc` are integers, because the
host may set them to anything; instructions keep them to 16 bits.
-/
import Chip8.Fault

namespace Chip8

set_option autoImplicit false

/-- A register index, a key, or any other hexadecimal digit. -/
abbrev Nibble := Fin 16

structure Registers where
  v : Vector Byte 16 := Vector.replicate 16 0
  i : Int := 0
  pc : Int := 0
  deriving DecidableEq

namespace Registers

def flagIndex : Nibble := ⟨15, by decide⟩

theorem zero_lt : 0 < 16 := by decide

/-- The register that a jump with an offset adds. -/
def offsetIndex : Nibble := ⟨0, zero_lt⟩

theorem val_lt (x : Nibble) : x.val < 16 := x.isLt

theorem toNat_lt {k : Int} (h : 0 ≤ k ∧ k < 16) : k.toNat < 16 := by omega

def get (r : Registers) (x : Nibble) : Byte := r.v[x.val]

def set (r : Registers) (x : Nibble) (value : Byte) : Registers :=
  { r with v := r.v.set x.val value }

/-- The flag register holds 1 or 0. -/
def setFlag (r : Registers) (flag : Bool) : Registers :=
  r.set flagIndex (if flag then 1 else 0)

theorem get_set (r : Registers) (x y : Nibble) (value : Byte) :
    (r.set x value).get y = if x = y then value else r.get y := by
  simp only [get, set, Vector.getElem_set, Fin.ext_iff]

@[simp] theorem i_set (r : Registers) (x : Nibble) (value : Byte) : (r.set x value).i = r.i := rfl

@[simp] theorem pc_set (r : Registers) (x : Nibble) (value : Byte) : (r.set x value).pc = r.pc :=
  rfl

def index (k : Int) : Except Fault Nibble :=
  if h : 0 ≤ k ∧ k < 16 then .ok ⟨k.toNat, toNat_lt h⟩ else .error (.illegalRegister k)

def load (r : Registers) (k : Int) : Except Fault Byte := do
  return r.get (← index k)

/-- One register is replaced; the value counts modulo 256. -/
def store (r : Registers) (k value : Int) : Except Fault Registers := do
  return r.set (← index k) (BitVec.ofInt 8 value)

end Registers

end Chip8
