/-
# Chip8.Generator — pseudorandom bytes

The generator is a shift register of 32 bits: each step adds to the state its own
shifts by 13 to the left, 17 to the right and 5 to the left, and gives the lowest
byte. Only addition without carry is used, so a step is linear in the bits of the
state (`next_xor`) and zero stays zero (`next_zero`).
-/
import Chip8.Fault

namespace Chip8

set_option autoImplicit false

structure Generator where
  state : BitVec 32
  deriving DecidableEq, Repr

namespace Generator

def mixLeft (k : Nat) (s : BitVec 32) : BitVec 32 := s ^^^ s <<< k

def mixRight (k : Nat) (s : BitVec 32) : BitVec 32 := s ^^^ s >>> k

/-- One step of the shift register. -/
def next (s : BitVec 32) : BitVec 32 := mixLeft 5 (mixRight 17 (mixLeft 13 s))

/-- The generator with a seed, which counts modulo 2^32. -/
def ofSeed (seed : Int) : Generator := ⟨BitVec.ofInt 32 seed⟩

def standardSeed : Int := 0x5321A409

def standard : Generator := ofSeed standardSeed

instance : Inhabited Generator := ⟨standard⟩

def byte (g : Generator) : Byte × Generator :=
  let s := next g.state
  (s.setWidth 8, ⟨s⟩)

def bytes (g : Generator) : Nat → List Byte × Generator
  | 0 => ([], g)
  | n + 1 =>
      let first := g.byte
      let rest := first.2.bytes n
      (first.1 :: rest.1, rest.2)

@[simp] theorem next_zero : next 0 = 0 := by decide

theorem mixLeft_xor (k : Nat) (s t : BitVec 32) :
    mixLeft k (s ^^^ t) = mixLeft k s ^^^ mixLeft k t := by
  rw [mixLeft, mixLeft, mixLeft, BitVec.shiftLeft_xor_distrib]
  ac_rfl

theorem mixRight_xor (k : Nat) (s t : BitVec 32) :
    mixRight k (s ^^^ t) = mixRight k s ^^^ mixRight k t := by
  rw [mixRight, mixRight, mixRight, BitVec.ushiftRight_xor_distrib]
  ac_rfl

/-- A step is linear. -/
theorem next_xor (s t : BitVec 32) : next (s ^^^ t) = next s ^^^ next t := by
  rw [next, mixLeft_xor, mixRight_xor, mixLeft_xor, next, next]

@[simp] theorem length_bytes (g : Generator) (n : Nat) : (g.bytes n).1.length = n := by
  induction n generalizing g with
  | zero => rfl
  | succ n ih => simp [bytes, ih]

end Generator

end Chip8
