/-
# Chip8.Font — the hexadecimal glyphs in low memory

Sixteen glyphs of five rows each stand in memory from `base` on when the machine
is switched on. They are ordinary memory: a program can draw them and can
overwrite them.
-/
import Chip8.Fault
import Chip8.Refusal

namespace Chip8.Font

set_option autoImplicit false

/-- The address of the first glyph. -/
def base : Nat := 0x50

/-- The rows of all glyphs, from `0` to `F`. -/
def bytes : List Byte :=
  [0xF0, 0x90, 0x90, 0x90, 0xF0,
   0x20, 0x60, 0x20, 0x20, 0x70,
   0xF0, 0x10, 0xF0, 0x80, 0xF0,
   0xF0, 0x10, 0xF0, 0x10, 0xF0,
   0x90, 0x90, 0xF0, 0x10, 0x10,
   0xF0, 0x80, 0xF0, 0x10, 0xF0,
   0xF0, 0x80, 0xF0, 0x90, 0xF0,
   0xF0, 0x10, 0x20, 0x40, 0x40,
   0xF0, 0x90, 0xF0, 0x90, 0xF0,
   0xF0, 0x90, 0xF0, 0x10, 0xF0,
   0xF0, 0x90, 0xF0, 0x90, 0x90,
   0xE0, 0x90, 0xE0, 0x90, 0xE0,
   0xF0, 0x80, 0x80, 0x80, 0xF0,
   0xE0, 0x90, 0x90, 0x90, 0xE0,
   0xF0, 0x80, 0xF0, 0x80, 0xF0,
   0xF0, 0x80, 0xF0, 0x80, 0x80]

@[simp] theorem length_bytes : bytes.length = 80 := rfl

def glyph (digit : Int) : Except Refusal (List Byte) :=
  if 0 ≤ digit ∧ digit < 16 then .ok ((bytes.drop (5 * digit.toNat)).take 5)
  else .error (.glyphIndex digit)

end Chip8.Font
