/-
# Chip8.Keypad — the sixteen keys of the machine

A key is down or up. The host sets keys between instructions; instructions only
ask about them.
-/
import Chip8.Registers
import Chip8.Refusal

namespace Chip8

set_option autoImplicit false

structure Keypad where
  keys : Vector Bool 16 := Vector.replicate 16 false
  deriving DecidableEq

namespace Keypad

def isDown (p : Keypad) (k : Nibble) : Bool := p.keys.get k

def put (p : Keypad) (k : Nibble) (down : Bool) : Keypad :=
  ⟨p.keys.set k.val down (Registers.val_lt k)⟩

/-- The lowest key that is down. -/
def first? (p : Keypad) : Option Nibble := (List.finRange 16).find? p.isDown

/-- No key is found exactly if all are up. -/
theorem first?_eq_none_iff (p : Keypad) : p.first? = none ↔ ∀ k, p.isDown k = false := by
  simp [first?, List.find?_eq_none]

/-- The key that is found is down, and those below it are up. -/
theorem first?_eq_some_iff (p : Keypad) (k : Nibble) :
    p.first? = some k ↔ p.isDown k = true ∧ ∀ j < k, p.isDown j = false := by
  rw [first?, List.find?_eq_some_iff_getElem]
  constructor
  · rintro ⟨down, i, inside, here, before⟩
    rw [List.getElem_finRange] at here
    refine ⟨down, fun j lower => ?_⟩
    have place : k.val = i := by rw [← here]; rfl
    have up := before j.val (place ▸ lower)
    rw [List.getElem_finRange] at up
    simpa using up
  · rintro ⟨down, before⟩
    refine ⟨down, k.val, by simp, by simp, fun j lower => ?_⟩
    rw [List.getElem_finRange, before _ lower]
    rfl

theorem isDown_put (p : Keypad) (k j : Nibble) (down : Bool) :
    (p.put k down).isDown j = if k = j then down else p.isDown j := by
  simp only [Fin.ext_iff]
  exact Vector.getElem_set (Registers.val_lt k) (Registers.val_lt j)

/-- A key that was asked for by number. -/
def index (k : Int) : Except Fault Nibble :=
  if h : 0 ≤ k ∧ k < 16 then .ok ⟨k.toNat, Registers.toNat_lt h⟩ else .error (.illegalKey k)

def pressed (p : Keypad) (k : Int) : Except Fault Bool := do
  return p.isDown (← index k)

def press (p : Keypad) (k : Int) : Except Fault Keypad := do
  return p.put (← index k) true

def release (p : Keypad) (k : Int) : Except Fault Keypad := do
  return p.put (← index k) false

/-- All keys at once; exactly sixteen states are accepted. -/
def ofStates (states : List Bool) : Except Refusal Keypad :=
  if h : states.length = 16 then .ok ⟨⟨states.toArray, by simpa using h⟩⟩
  else .error (.keypadLength states.length)

end Keypad

end Chip8
