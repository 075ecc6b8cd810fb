/-
# Chip8.Image — program images

An image is the bytes of a program and the address where they belong. `Image.load`
accepts exactly the images that fit into the standard memory at their address and
are not empty (`load_eq_ok_iff`).
-/
import Chip8.Log
import Chip8.Memory

namespace Chip8

set_option autoImplicit false

inductive ImageError where
  | addressOutside (start : Int)
  | empty
  | tooLarge (length capacity : Nat) (start : Int)
  deriving DecidableEq, Repr

namespace ImageError

open Text in
def message : ImageError → String
  | .addressOutside start => "load address " ++ markedHex 5 start ++ " outside memory"
  | .empty => "ROM image is empty"
  | .tooLarge length capacity start =>
      "ROM too large: " ++ decimal length ++ " bytes, at most " ++ decimal capacity
        ++ " fit at " ++ markedHex 5 start

end ImageError

structure Image where
  data : List Byte
  start : Int := 0x200
  name : String := ""
  deriving DecidableEq, Repr

namespace Image

def standardStart : Int := 0x200

def last (image : Image) : Int := image.start + image.data.length - 1

def load (data : List Byte) (start : Int) (name : String) : Except ImageError Image :=
  if start < 0 ∨ (Memory.standardSize : Int) ≤ start then .error (.addressOutside start)
  else if data = [] then .error .empty
  else if Memory.standardSize - start.toNat < data.length then
    .error (.tooLarge data.length (Memory.standardSize - start.toNat) start)
  else .ok ⟨data, start, name⟩

/-- What is logged when an image was made. -/
def loadLog (f : Log.Filter) (image : Image) : List String :=
  f.write "loader" <|
    "rom name=" ++ (if image.name = "" then "-" else image.name)
      ++ " start=" ++ Text.lowerHex 3 image.start ++ " end=" ++ Text.lowerHex 3 image.last

theorem load_eq_ok_iff (data : List Byte) (start : Int) (name : String) (image : Image) :
    load data start name = .ok image ↔
      image = ⟨data, start, name⟩ ∧ 0 ≤ start ∧ data ≠ [] ∧
        start + data.length ≤ Memory.standardSize := by
  unfold load
  have size : Memory.standardSize = 4096 := rfl
  by_cases h₁ : start < 0 ∨ (Memory.standardSize : Int) ≤ start
  · rw [if_pos h₁]
    refine ⟨fun h => by simp at h, ?_⟩
    rintro ⟨-, nonneg, nonempty, fits⟩
    have := List.length_pos_iff.2 nonempty
    omega
  · rw [if_neg h₁]
    by_cases h₂ : data = []
    · simp [h₂]
    · rw [if_neg h₂]
      by_cases h₃ : Memory.standardSize - start.toNat < data.length
      · rw [if_pos h₃]
        refine ⟨fun h => by simp at h, ?_⟩
        rintro ⟨-, nonneg, nonempty, fits⟩
        omega
      · rw [if_neg h₃]
        constructor
        · intro h
          cases h
          exact ⟨rfl, by omega, h₂, by omega⟩
        · rintro ⟨rfl, -⟩
          rfl

end Image

end Chip8
