/-
# Chip8.Timers — the two countdown timers

Both timers count down to zero, once for each tick the host gives; instructions
never make time pass. The machine beeps while the sound timer is not zero.
-/
import Chip8.Fault

namespace Chip8

set_option autoImplicit false

structure Timers where
  delay : Byte := 0
  sound : Byte := 0
  deriving DecidableEq, Repr

namespace Timers

/-- One step down, not below zero. -/
def countdown (t : Byte) : Byte := if t = 0 then 0 else t - 1

/-- A sixtieth of a second passes. -/
def tick (t : Timers) : Timers := ⟨countdown t.delay, countdown t.sound⟩

def beeping (t : Timers) : Bool := t.sound != 0

theorem toNat_countdown (t : Byte) : (countdown t).toNat = t.toNat - 1 := by
  unfold countdown
  split
  · rename_i h; subst h; rfl
  · rename_i h
    have : t.toNat ≠ 0 := fun zero => h (BitVec.eq_of_toNat_eq (by simpa using zero))
    rw [BitVec.toNat_sub]
    have := t.isLt
    simp
    omega

end Timers

end Chip8
