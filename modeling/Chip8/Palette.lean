/-
# Chip8.Palette — the two colours of a picture

A palette has a colour for dark pixels and one for lit pixels. A host may give
colours as rows of numbers; a number stands for its lowest eight bits, after its
fraction is cut off.
-/
import Chip8.Number

namespace Chip8

set_option autoImplicit false

structure Rgb where
  red : Byte
  green : Byte
  blue : Byte
  deriving DecidableEq, Repr

/-- The colour of dark pixels and the colour of lit pixels. -/
structure Palette where
  background : Rgb
  foreground : Rgb
  deriving DecidableEq, Repr

namespace Palette

def monochrome : Palette := ⟨⟨0, 0, 0⟩, ⟨0xFF, 0xFF, 0xFF⟩⟩

def amber : Palette := ⟨⟨0x1A, 0x0F, 0x00⟩, ⟨0xFF, 0xB0, 0x00⟩⟩

instance : Inhabited Palette := ⟨monochrome⟩

/-- The palettes that have a name, in alphabetical order. -/
def named : List (String × Palette) := [("amber", amber), ("mono", monochrome)]

def colour (p : Palette) (lit : Bool) : Rgb := if lit then p.foreground else p.background

/-- The byte that a number stands for. -/
def level (x : Number) : Except Failure Byte := x.truncate.map (BitVec.ofInt 8)

def colourOf : List Number → Except Failure Rgb
  | [red, green, blue] => do return ⟨← level red, ← level green, ← level blue⟩
  | _ => .error (.refusal .paletteEntry)

def ofChannels : List (List Number) → Except Failure Palette
  | [background, foreground] =>
      if background.length = 3 ∧ foreground.length = 3 then do
        return ⟨← colourOf background, ← colourOf foreground⟩
      else .error (.refusal .paletteEntry)
  | _ => .error (.refusal .paletteLength)

end Palette

end Chip8
