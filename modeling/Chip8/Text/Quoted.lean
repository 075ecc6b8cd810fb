/-
# Chip8.Text.Quoted — text between quotes, every character visible

Text is quoted with `'`, or with `"` when it holds a `'` and no `"`. Inside, the
quote in use and the backslash are escaped with a backslash, line breaks and tabs
have their letters, and every other character that is not printable is written
by its code in two, four or eight hexadecimal digits.
-/
import Chip8.Text.Numeral
import Chip8.Text.Printable

namespace Chip8.Text.Quoted

set_option autoImplicit false

/-- The quote that needs the fewer escapes. -/
def mark (text : List Char) : Char :=
  if text.contains '\'' && !text.contains '"' then '"' else '\''

def code (c : Char) : List Char :=
  let digits (width : Nat) := Numeral.zeroPadded .hex width [] c.toNat
  if c.toNat < 0x100 then '\\' :: 'x' :: digits 2
  else if c.toNat < 0x10000 then '\\' :: 'u' :: digits 4
  else '\\' :: 'U' :: digits 8

def inside (quote c : Char) : List Char :=
  if c = quote || c = '\\' then ['\\', c]
  else if c = '\n' then ['\\', 'n']
  else if c = '\r' then ['\\', 'r']
  else if c = '\t' then ['\\', 't']
  else if isPrintable c then [c]
  else code c

/-- The whole text, quotes included. -/
def encode (text : List Char) : List Char :=
  let quote := mark text
  quote :: text.flatMap (inside quote) ++ [quote]

end Chip8.Text.Quoted

namespace Chip8.Text

def quoted (text : String) : String := String.ofList (Quoted.encode text.toList)

end Chip8.Text
