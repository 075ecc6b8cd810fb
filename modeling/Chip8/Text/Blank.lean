/-
# Chip8.Text.Blank — white space and how it is trimmed

`isBlank` is the white space of Unicode with the four information separators
(0x1c to 0x1f). `trim` drops it at both ends.
-/
import Chip8.Text.CharRange

namespace Chip8.Text

set_option autoImplicit false

def blanks : List CharRange :=
  [
    (0x9, 0xd), (0x1c, 0x20), (0x85, 0x85), (0xa0, 0xa0), (0x1680, 0x1680), (0x2000, 0x200a),
    (0x2028, 0x2029), (0x202f, 0x202f), (0x205f, 0x205f), (0x3000, 0x3000)
  ]

def isBlank (c : Char) : Bool := CharRange.mem blanks c

/-- The text without the blanks at its two ends. -/
def trim (text : List Char) : List Char :=
  ((text.dropWhile isBlank).reverse.dropWhile isBlank).reverse

end Chip8.Text
