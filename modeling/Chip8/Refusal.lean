/-
# Chip8.Refusal — arguments the host gets back

A host that hands over something unusable — a screen without pixels, a sprite
that is too tall, a palette of three colours — is refused, and nothing changes.
Each constructor is one reason and carries what its wording needs.
-/
import Chip8.Text.Numeral

namespace Chip8

set_option autoImplicit false

inductive Refusal where
  | memorySize
  | capacity
  | glyphStride
  | keypadLength (length : Nat)
  | displaySize
  | displayWidth
  | byteRange
  | framebufferLength (expected actual : Nat)
  | pixelOutside (x y : Int) (width height : Nat)
  | spriteHeight (rows : Nat)
  | glyphIndex (digit : Int)
  | paletteLength
  | paletteEntry
  | scale
  | frameLength (actual : Nat) (width height : Int)
  | patternRange (pattern mask : Int)
  | patternOutsideMask (pattern mask : Int)
  | patternTaken (pattern : Int) (mnemonic : String)
  | frameBudget
  | frequency
  | notANumber
  /-- More cells are asked for than an index can count. -/
  | beyondIndex
  /-- More bytes are asked for than there can be. -/
  | beyondMemory
  /-- Lists stand in lists too deeply to be shown. -/
  | tooDeep
  /-- A whole number has too many digits to be shown. -/
  | tooManyDigits
  /-- A text has half of a pair of code points that only stand for a character together. -/
  | halfCharacter
  | zeroCharacter
  deriving DecidableEq, Repr

/-- What the system can hold. Where no number is given there is no bound. -/
structure Limits where
  /-- What is made at once has fewer bytes than this number. -/
  memory : Option Nat := none
  /-- The lists that may stand around something that is shown. -/
  depth : Option Nat := none
  deriving DecidableEq, Repr

namespace Refusal

def indexLimit : Nat := Nat.pow 2 63

/-- A positive number counts something. -/
theorem toNat_pos {n : Int} (h : 0 < n) : 0 < n.toNat := by omega

/-- The request for `count` cells of `width` bytes each. -/
def room (count width : Nat) (limits : Limits := {}) : Except Refusal Unit :=
  if indexLimit ≤ count then .error .beyondIndex
  else if limits.memory.any (· ≤ count * width) then .error .beyondMemory
  else .ok ()

open Text in
def message : Refusal → String
  | .memorySize => "memory must have a positive size"
  | .capacity => "capacity must be positive"
  | .glyphStride => "font_glyph_stride must be positive"
  | .keypadLength n => "keypad state must have 16 entries, got " ++ decimal n
  | .displaySize => "display dimensions must be positive"
  | .displayWidth => "display width must be a multiple of 8"
  | .byteRange => "bytes must be in range(0, 256)"
  | .framebufferLength expected actual =>
      "framebuffer data must be exactly " ++ decimal expected ++ " bytes, got " ++ decimal actual
  | .pixelOutside x y width height =>
      "pixel (" ++ decimal x ++ ", " ++ decimal y ++ ") outside "
        ++ decimal width ++ "x" ++ decimal height ++ " display"
  | .spriteHeight n => "sprites are at most 15 rows, got " ++ decimal n
  | .glyphIndex digit => "glyph index out of range: " ++ decimal digit
  | .paletteLength => "palette must contain exactly two colours (background and foreground)"
  | .paletteEntry => "palette entries must be RGB tuples"
  | .scale => "scale must be positive"
  | .frameLength actual width height =>
      "buffer of " ++ decimal actual ++ " bytes does not match a "
        ++ decimal width ++ "x" ++ decimal height ++ " display"
  | .patternRange pattern mask =>
      "opcode pattern out of range: " ++ markedHex 0 pattern ++ "/" ++ markedHex 0 mask
  | .patternOutsideMask pattern mask =>
      "pattern " ++ markedHex 6 pattern ++ " has bits outside mask " ++ markedHex 6 mask
  | .patternTaken pattern mnemonic =>
      "pattern " ++ markedHex 6 pattern ++ " already registered as " ++ mnemonic
  | .frameBudget => "instructions_per_frame must be positive"
  | .frequency => "frequency must be positive"
  | .notANumber => "cannot convert float NaN to integer"
  | .beyondIndex => "cannot fit 'int' into an index-sized integer"
  | .beyondMemory => ""
  | .tooDeep => "maximum recursion depth exceeded while getting the repr of an object"
  | .tooManyDigits =>
      "Exceeds the limit (4300 digits) for integer string conversion; "
        ++ "use sys.set_int_max_str_digits() to increase the limit"
  | .halfCharacter => "surrogates not allowed"
  | .zeroCharacter => "embedded null byte"

end Refusal

end Chip8
