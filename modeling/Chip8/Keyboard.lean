/-
# Chip8.Keyboard — host keys that press the keypad

The keypad lies on the left-hand block of a keyboard:

    1 2 3 4        1 2 3 C
    q w e r   →    4 5 6 D
    a s d f        7 8 9 E
    z x c v        A 0 B F

Names are taken in any case, and the digits of the number block (`[1]` to `[4]`)
count as digits. Several host keys can name one key of the keypad, so a keyboard
counts the presses of each key that were not yet released, and lifts a key only
with its last release. A name that means no key does nothing.
-/
import Chip8.Keypad
import Chip8.Log

namespace Chip8

set_option autoImplicit false

/-- The number of host keys that hold each key down. A key that is not held has no entry. -/
structure Keyboard where
  entries : Vector (Option Nat) 16 := Vector.replicate 16 none
  deriving DecidableEq

namespace Keyboard

/-- The host keys in the places of the keypad. -/
def layout : List (String × Nibble) :=
  [("1", 0x1), ("2", 0x2), ("3", 0x3), ("4", 0xC),
   ("q", 0x4), ("w", 0x5), ("e", 0x6), ("r", 0xD),
   ("a", 0x7), ("s", 0x8), ("d", 0x9), ("f", 0xE),
   ("z", 0xA), ("x", 0x0), ("c", 0xB), ("v", 0xF)]

def aliases : List (String × String) :=
  [("[1]", "1"), ("[2]", "2"), ("[3]", "3"), ("[4]", "4")]

/-- The key of the keypad that a host key stands for. -/
def key? (name : String) : Option Nibble :=
  let small := Text.lowercase name
  layout.lookup ((aliases.lookup small).getD small)

def held? (b : Keyboard) (k : Nibble) : Option Nat := b.entries.get k

/-- The keyboard with another entry for one key, or without one. -/
def setHeld (b : Keyboard) (k : Nibble) (n : Option Nat) : Keyboard :=
  ⟨b.entries.set k.val n (Registers.val_lt k)⟩

theorem held?_setHeld (b : Keyboard) (k j : Nibble) (n : Option Nat) :
    (b.setHeld k n).held? j = if k = j then n else b.held? j := by
  simp only [Fin.ext_iff]
  exact Vector.getElem_set (Registers.val_lt k) (Registers.val_lt j)

/-- The presses of a key that were not yet released. -/
def count (b : Keyboard) (k : Nibble) : Nat := (b.held? k).getD 0

theorem count_setHeld (b : Keyboard) (k j : Nibble) (n : Option Nat) :
    (b.setHeld k n).count j = if k = j then n.getD 0 else b.count j := by
  rw [count, held?_setHeld]
  split <;> rfl

/-- The keys that are held, with their counts, in the order of the keypad. -/
def held (b : Keyboard) : List (Nibble × Nat) :=
  (List.finRange 16).filterMap fun k => (b.held? k).map (k, ·)

/-- One more host key holds `k` down. -/
def pressKey (b : Keyboard) (pad : Keypad) (k : Nibble) : Keyboard × Keypad :=
  (b.setHeld k (some (b.count k + 1)), pad.put k true)

/-- One host key fewer holds `k` down; the last one lets it up and takes its entry away. -/
def releaseKey (b : Keyboard) (pad : Keypad) (k : Nibble) : Keyboard × Keypad :=
  if b.count k ≤ 1 then (b.setHeld k none, pad.put k false)
  else (b.setHeld k (some (b.count k - 1)), pad)

def press (b : Keyboard) (pad : Keypad) (name : String) : Keyboard × Keypad :=
  match key? name with
  | some k => b.pressKey pad k
  | none => (b, pad)

def release (b : Keyboard) (pad : Keypad) (name : String) : Keyboard × Keypad :=
  match key? name with
  | some k => b.releaseKey pad k
  | none => (b, pad)

def pressLog (f : Log.Filter) (name : String) : List String :=
  f.write "input" <| match key? name with
    | some k => "key_press key=" ++ Text.upperHex 1 k.val
    | none => "unmapped_press=" ++ name

/-- What is logged when a host key has gone up and left the keyboard `b`. -/
def releaseLog (f : Log.Filter) (b : Keyboard) (name : String) : List String :=
  f.write "input" <| match key? name with
    | some k =>
        "key_release key=" ++ Text.upperHex 1 k.val ++ " count=" ++ Text.decimal (b.count k)
    | none => "unmapped_release=" ++ name

end Keyboard

end Chip8
