/-
# Chip8.Surface — pictures painted on a host surface

A surface is a rectangle with a ground colour on which single points are marked.
`Canvas` keeps one surface at scale one for the frames of a window: a frame of the
same size is painted over the old one, a frame of another size gets a new surface.
Painting begins with filling, which leaves nothing of an earlier frame
(`fill_eq_blank`). The frame that is shown is the surface, scaled by the host.
-/
import Chip8.Picture

namespace Chip8

set_option autoImplicit false

/-- A ground colour and marked points, row by row. -/
structure Surface where
  width : Int
  height : Int
  ground : Rgb
  marks : Array (Option Rgb)
  deriving DecidableEq

namespace Surface

def blank (width height : Int) (ground : Rgb) : Surface :=
  ⟨width, height, ground, Array.replicate (width * height).toNat none⟩

/-- The whole surface gets a ground colour and loses its marks. -/
def fill (s : Surface) (ground : Rgb) : Surface :=
  { s with ground, marks := Array.replicate (s.width * s.height).toNat none }

/-- A filled surface is a blank one of its size. -/
theorem fill_eq_blank (s : Surface) (ground : Rgb) :
    s.fill ground = blank s.width s.height ground := rfl

/-- A point gets a colour; a point outside is ignored. -/
def mark (s : Surface) (x y : Int) (colour : Rgb) : Surface :=
  if 0 ≤ x ∧ x < s.width ∧ 0 ≤ y ∧ y < s.height then
    { s with marks := s.marks.setIfInBounds (y * s.width + x).toNat (some colour) }
  else s

def mark? (s : Surface) (x y : Int) : Option Rgb :=
  if 0 ≤ x ∧ x < s.width ∧ 0 ≤ y ∧ y < s.height then
    (s.marks[(y * s.width + x).toNat]?).join
  else none

def point (s : Surface) (x y : Int) : Rgb := (s.mark? x y).getD s.ground

def markByte (s : Surface) (x y : Int) (colour : Rgb) (b : Byte) : Surface :=
  (List.range 8).foldl
    (fun s k => if b.getMsbD k then s.mark (x + k) y colour else s) s

/-- The lit pixels of a buffer are marked, beginning with its byte `index`. A row has `stride`
bytes; where it has none, a lit byte has no place. -/
def paint (stride : Int) (colour : Rgb) : (index : Nat) → List Byte → Surface →
    Except Failure Surface
  | _, [], s => .ok s
  | index, b :: rest, s =>
      if b = 0 then paint stride colour (index + 1) rest s
      else if stride = 0 then .error .narrowPicture
      else
        let y := (index : Int).fdiv stride
        let x := ((index : Int) - y * stride) * 8
        paint stride colour (index + 1) rest (s.markByte x y colour b)

end Surface

/-- A frame as it is handed to the window: the painted surface and the size it is scaled to. -/
structure Frame where
  width : Int
  height : Int
  base : Surface
  /-- Distinguishes the surfaces that a canvas has made. -/
  serial : Nat
  /-- The surface is shown as it is. -/
  unscaled : Bool
  deriving DecidableEq

/-- The palette of a window and the surface it paints on, once there is one. -/
structure Canvas where
  palette : Palette
  base : Option Surface := none
  serial : Nat := 0
  deriving DecidableEq

namespace Canvas

/-- The surface for frames of the given size, and its serial number: the old surface if its size
is right, and otherwise a new one. -/
def fit (c : Canvas) (width height : Int) : Surface × Nat :=
  match c.base with
  | some base =>
      if base.width = width ∧ base.height = height then (base, c.serial)
      else (.blank width height c.palette.background, c.serial + 1)
  | none => (.blank width height c.palette.background, c.serial + 1)

def draw (c : Canvas) (buffer : List Byte) (width height scale : Int) :
    Except Failure Frame × Canvas :=
  match checkFrame buffer.length width height scale with
  | .error reason => (.error (.refusal reason), c)
  | .ok () =>
      let (surface, serial) := c.fit width height
      let ground := surface.fill c.palette.background
      match Surface.paint (width / 8) c.palette.foreground 0 buffer ground with
      | .error e => (.error e, { c with base := some ground, serial })
      | .ok base =>
          (.ok ⟨width * scale, height * scale, base, serial, scale == 1⟩,
            { c with base := some base, serial })

end Canvas

end Chip8
