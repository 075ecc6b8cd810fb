/-
# Chip8.Display — the framebuffer and sprites

A display is rows of pixels, packed eight to a byte with the leftmost pixel in the
highest bit. It is `stride` bytes wide, so its width in pixels is `8 * stride`.
`lit` is the view of a display as a set of pixels.

A sprite is a column of byte rows that is added to the display without carry:
every set bit toggles its pixel. The start column wraps around the width; rows do
not wrap at the bottom, and what lies past the right edge is cut off.
-/
import Chip8.Fault
import Chip8.Refusal

namespace Chip8

set_option autoImplicit false

/-- A framebuffer of `height` rows, each `stride` bytes wide. -/
structure Display where
  stride : Nat
  height : Nat
  cells : Array Byte
  stride_pos : 0 < stride
  height_pos : 0 < height
  size_cells : cells.size = stride * height
  deriving DecidableEq

namespace Display

def dark (stride height : Nat) (hs : 0 < stride) (hh : 0 < height) : Display :=
  ⟨stride, height, Array.replicate (stride * height) 0, hs, hh, by simp⟩

/-- The screen of the machine, 64 pixels by 32. -/
def standard : Display := dark 8 32 (by decide) (by decide)

instance : Inhabited Display := ⟨standard⟩

/-- A dark display of the given size in pixels, whose bytes there is room for. -/
def create (width height : Int) (limits : Limits := {}) : Except Refusal Display :=
  if h : 0 < width ∧ 0 < height then
    if h' : width % 8 = 0 then
      (Refusal.room (width * height / 8).toNat 1 limits).map fun _ =>
        dark (width / 8).toNat height.toNat (by omega) (by omega)
    else .error .displayWidth
  else .error .displaySize

def width (d : Display) : Nat := 8 * d.stride

/-- The byte with the given number; zero outside. -/
def cell (d : Display) (k : Nat) : Byte := d.cells.getD k 0

def lit (d : Display) (x y : Nat) : Bool :=
  decide (x < d.width ∧ y < d.height) && (d.cell (y * d.stride + x / 8)).getMsbD (x % 8)

def clear (d : Display) : Display :=
  { d with cells := Array.replicate (d.stride * d.height) 0, size_cells := by simp }

/-- The pixels of one byte are toggled where `bits` is set. -/
def toggle (d : Display) (k : Nat) (bits : Byte) (inside : k < d.cells.size) : Display :=
  { d with
    cells := d.cells.set k (d.cells[k] ^^^ bits)
    size_cells := by rw [Array.size_set]; exact d.size_cells }

@[simp] theorem stride_toggle (d : Display) (k : Nat) (bits : Byte) (inside : k < d.cells.size) :
    (d.toggle k bits inside).stride = d.stride := rfl

@[simp] theorem height_toggle (d : Display) (k : Nat) (bits : Byte) (inside : k < d.cells.size) :
    (d.toggle k bits inside).height = d.height := rfl

theorem cell_toggle (d : Display) (k j : Nat) (bits : Byte) (inside : k < d.cells.size) :
    (d.toggle k bits inside).cell j = if k = j then d.cell k ^^^ bits else d.cell j := by
  simp only [toggle, cell, Array.getD_eq_getD_getElem?, Array.getElem?_set]
  by_cases same : k = j
  · subst same
    simp [inside]
  · simp [same]

/-! ## Sprites -/

/-- The byte of row `y` that holds column `x`. -/
def place (d : Display) (x y : Nat) : Nat := y * d.stride + x / 8

/-- The bytes of a row that begins inside lie in the buffer. -/
theorem place_lt (d : Display) {x y : Nat} (hx : x / 8 < d.stride) (hy : y < d.height) :
    d.place x y < d.cells.size := by
  have row : y * d.stride + d.stride ≤ d.height * d.stride := by
    rw [← Nat.succ_mul]
    exact Nat.mul_le_mul_right _ hy
  rw [d.size_cells, Nat.mul_comm, place]
  omega

/-- The part of a sprite row that falls into the byte of its first pixel. -/
def head (x : Nat) (row : Byte) : Byte := row >>> (x % 8)

/-- The part of a sprite row that falls into the byte after that; none past the right edge. -/
def tail (d : Display) (x : Nat) (row : Byte) : Byte :=
  if x / 8 + 1 < d.stride then row <<< (8 - x % 8) else 0

/-- A sprite row meets a lit pixel. -/
def hitsRow (d : Display) (x y : Nat) (row : Byte) : Bool :=
  d.cell (d.place x y) &&& head x row != 0 || d.cell (d.place x y + 1) &&& d.tail x row != 0

/-- A sprite row is added, its first pixel in column `x` of row `y`. -/
def drawRow (d : Display) (x y : Nat) (row : Byte) (hx : x / 8 < d.stride) (hy : y < d.height) :
    Display :=
  let drawn := d.toggle (d.place x y) (head x row) (d.place_lt hx hy)
  if next : x / 8 + 1 < d.stride then
    drawn.toggle (d.place (x + 8) y) (d.tail x row)
      (drawn.place_lt (show (x + 8) / 8 < d.stride by omega) hy)
  else drawn

@[simp] theorem stride_drawRow (d : Display) (x y : Nat) (row : Byte) (hx : x / 8 < d.stride)
    (hy : y < d.height) : (d.drawRow x y row hx hy).stride = d.stride := by
  simp only [drawRow]
  split <;> rfl

@[simp] theorem height_drawRow (d : Display) (x y : Nat) (row : Byte) (hx : x / 8 < d.stride)
    (hy : y < d.height) : (d.drawRow x y row hx hy).height = d.height := by
  simp only [drawRow]
  split <;> rfl

/-- Sprite rows are added from row `y` downwards; the flag tells whether one of them met a
lit pixel. -/
def draw (d : Display) (x : Nat) (y : Int) (hx : x / 8 < d.stride) : List Byte → Bool × Display
  | [] => (false, d)
  | row :: rest =>
      if hy : 0 ≤ y ∧ y < d.height then
        let drawn := d.drawRow x y.toNat row hx (by omega)
        let below := drawn.draw x (y + 1) (by rw [stride_drawRow]; exact hx) rest
        (d.hitsRow x y.toNat row || below.1, below.2)
      else d.draw x (y + 1) hx rest

@[simp] theorem stride_draw (d : Display) (x : Nat) (y : Int) (hx : x / 8 < d.stride)
    (rows : List Byte) : (d.draw x y hx rows).2.stride = d.stride := by
  induction rows generalizing d y with
  | nil => rfl
  | cons row rest ih =>
      rw [draw]
      split
      · exact (ih ..).trans (stride_drawRow ..)
      · exact ih ..

@[simp] theorem height_draw (d : Display) (x : Nat) (y : Int) (hx : x / 8 < d.stride)
    (rows : List Byte) : (d.draw x y hx rows).2.height = d.height := by
  induction rows generalizing d y with
  | nil => rfl
  | cons row rest ih =>
      rw [draw]
      split
      · exact (ih ..).trans (height_drawRow ..)
      · exact ih ..

def spriteLimit : Nat := 15

/-- A column counts modulo the width. -/
theorem column_lt (d : Display) (x : Int) : (x % d.width).toNat / 8 < d.stride := by
  have pos := d.stride_pos
  have := Int.emod_lt_of_pos x (show (0 : Int) < d.width by rw [width]; omega)
  have := Int.emod_nonneg x (show (d.width : Int) ≠ 0 by rw [width]; omega)
  rw [width] at *
  omega

/-- A sprite is added with its corner at (`x`, `y`), and the answer is whether it met a lit
pixel. -/
def blit (d : Display) (x y : Int) (rows : List Byte) : Except Refusal (Bool × Display) :=
  if spriteLimit < rows.length then .error (.spriteHeight rows.length)
  else .ok (d.draw (x % d.width).toNat y (d.column_lt x) rows)

/-! ## Whole contents -/

def load (d : Display) (bytes : List Byte) : Except Refusal Display :=
  if h : bytes.length = d.stride * d.height then
    .ok { d with cells := bytes.toArray, size_cells := by simpa using h }
  else .error (.framebufferLength (d.stride * d.height) bytes.length)

def loadValues (d : Display) (values : List Int) : Except Refusal Display :=
  if values.all fun v => decide (0 ≤ v ∧ v < 256) then d.load (values.map (BitVec.ofInt 8))
  else .error .byteRange

/-- A display keeps its size when other bytes are shown. -/
theorem size_of_loadValues {d d' : Display} {values : List Int}
    (loaded : d.loadValues values = .ok d') : d'.stride = d.stride ∧ d'.height = d.height := by
  unfold loadValues load at loaded
  split at loaded
  · split at loaded
    · cases loaded
      exact ⟨rfl, rfl⟩
    · cases loaded
  · cases loaded

def pixel (d : Display) (x y : Int) : Except Refusal Bool :=
  if 0 ≤ x ∧ x < d.width ∧ 0 ≤ y ∧ y < d.height then .ok (d.lit x.toNat y.toNat)
  else .error (.pixelOutside x y d.width d.height)

def buffer (d : Display) : List Byte := d.cells.toList

def rows (d : Display) : List (List Byte) :=
  (List.range d.height).map fun y => (d.cells.extract (y * d.stride) ((y + 1) * d.stride)).toList

@[simp] theorem length_buffer (d : Display) : d.buffer.length = d.stride * d.height := by
  simpa [buffer] using d.size_cells

end Display

end Chip8
