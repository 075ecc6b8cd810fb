/-
# Chip8.Picture — packed pixels as rows of colours

A frame is a packed buffer with a width, a height and a scale. It is accepted
when the scale is positive and the buffer has `width * height / 8` bytes. Its
picture shows every pixel as a square of `scale` by `scale` points; each row is
read from the `width / 8` whole bytes that belong to it.
-/
import Chip8.Palette

namespace Chip8

set_option autoImplicit false

/-- The frame has a positive scale and as many bytes as its size asks for. -/
def checkFrame (length : Nat) (width height scale : Int) : Except Refusal Unit :=
  if scale ≤ 0 then .error .scale
  else if (length : Int) ≠ width * height / 8 then .error (.frameLength length width height)
  else .ok ()

def pixels (b : Byte) : List Bool := (List.range 8).map b.getMsbD

@[simp] theorem length_pixels (b : Byte) : (pixels b).length = 8 := by simp [pixels]

/-- Rows of colours, with the size they are meant to have. -/
structure Picture where
  width : Int
  height : Int
  rows : List (List Rgb)
  deriving DecidableEq

namespace Picture

def row (p : Palette) (scale : Nat) (bytes : List Byte) : List Rgb :=
  bytes.flatMap fun b => (pixels b).flatMap fun lit => List.replicate scale (p.colour lit)

def grid (p : Palette) (buffer : List Byte) (stride height scale : Nat) : List (List Rgb) :=
  (List.range height).flatMap fun y =>
    List.replicate scale (row p scale ((buffer.drop (y * stride)).take stride))

def render (p : Palette) (buffer : List Byte) (width height scale : Int) :
    Except Refusal Picture := do
  checkFrame buffer.length width height scale
  return {
    width := width * scale
    height := height * scale
    rows := grid p buffer (width / 8).toNat height.toNat scale.toNat }

/-- The picture of a frame, if there is room for the points of a pixel. -/
def create (p : Palette) (buffer : List Byte) (width height scale : Int) (limits : Limits := {}) :
    Except Refusal Picture := do
  checkFrame buffer.length width height scale
  if !buffer.isEmpty ∧ 8 ≤ width then Refusal.room scale.toNat 8 limits
  render p buffer width height scale

/-- The element at a position; a negative one counts from the end. -/
def at? {α : Type} (list : List α) (k : Int) : Option α :=
  if 0 ≤ k then list[k.toNat]?
  else if 0 ≤ list.length + k then list[(list.length + k).toNat]?
  else none

def point? (picture : Picture) (x y : Int) : Option Rgb := do at? (← at? picture.rows y) x

/-- The channels of all points, row by row. -/
def bytes (picture : Picture) : List Byte :=
  picture.rows.flatMap fun row => row.flatMap fun c => [c.red, c.green, c.blue]

def byteCount (picture : Picture) : Nat :=
  (picture.rows.map fun row => 3 * row.length).foldr (· + ·) 0

theorem length_flatMap_of_length {α β : Type} (list : List α) (f : α → List β) (n : Nat)
    (each : ∀ a ∈ list, (f a).length = n) : (list.flatMap f).length = list.length * n := by
  induction list with
  | nil => simp
  | cons a rest ih =>
    obtain ⟨first, others⟩ := List.forall_mem_cons.1 each
    rw [List.flatMap_cons, List.length_append, ih others, first, List.length_cons, Nat.add_mul,
      Nat.one_mul, Nat.add_comm]

/-- A picture has three bytes for each of its points. -/
theorem length_bytes (picture : Picture) : picture.bytes.length = picture.byteCount := by
  rw [bytes, byteCount, List.length_flatMap, List.sum_eq_foldr]
  congr 1
  refine List.map_congr_left fun row _ => ?_
  rw [length_flatMap_of_length row _ 3 fun _ _ => rfl, Nat.mul_comm]

/-- A row of points is eight points of every byte, each `scale` wide. -/
theorem length_row (p : Palette) (scale : Nat) (bytes : List Byte) :
    (row p scale bytes).length = bytes.length * (8 * scale) := by
  refine length_flatMap_of_length _ _ _ fun b _ => ?_
  rw [length_flatMap_of_length _ _ scale fun _ _ => List.length_replicate, length_pixels]

/-- A picture has `scale` rows of points for every row of pixels. -/
theorem length_grid (p : Palette) (buffer : List Byte) (stride height scale : Nat) :
    (grid p buffer stride height scale).length = height * scale := by
  rw [grid, length_flatMap_of_length _ _ scale fun _ _ => List.length_replicate,
    List.length_range]

end Picture

end Chip8
