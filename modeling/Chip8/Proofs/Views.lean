/-
# Chip8.Proofs.Views — the ways to look at a display show one picture

The pixels of a display can be asked one by one, read from the packed bytes of its rows, rendered
as rows of colours at a scale, and painted on the surface of a canvas. Each way walks through the
packed bytes in its own order, and each is here reduced to `Display.lit`: a row is the pixels of
its bytes (`bits_line`), a rendered row is its pixels, each as wide as the scale (`row_line`), and
a rendered picture is its rows, each as high as the scale (`grid_buffer`). Both steps of enlarging
are one law of lists (`flatMap_replicate`).

`views_agree` puts them together, for a canvas that painted anything before.
-/
import Chip8.Proofs.Painting

namespace Chip8

set_option autoImplicit false

/-! ## Lists of equal lists -/

/-- Lists of length `k`, one after the other, are one list that is counted by quotient and
remainder. -/
theorem flatMap_range_map {α : Type} (f : Nat → Nat → α) (n : Nat) {k : Nat} (pos : 0 < k) :
    ((List.range n).flatMap fun a => (List.range k).map (f a)) =
      (List.range (n * k)).map fun i => f (i / k) (i % k) := by
  induction n with
  | zero => rw [Nat.zero_mul]; rfl
  | succ n ih =>
      have last : (List.range k).map (f n) =
          (List.range k).map fun j => f ((n * k + j) / k) ((n * k + j) % k) := by
        refine List.map_congr_left fun j inside => ?_
        have below := List.mem_range.1 inside
        rw [Nat.mul_comm, Nat.mul_add_div pos, Nat.mul_add_mod, Nat.div_eq_of_lt below,
          Nat.mod_eq_of_lt below, Nat.add_zero]
      rw [List.range_succ, List.flatMap_append, ih, Nat.succ_mul, List.range_add, List.map_append,
        List.flatMap_singleton, last, List.map_map]
      rfl

/-- A list with every element `k` times. -/
theorem flatMap_replicate {α : Type} (f : Nat → α) (n : Nat) {k : Nat} (pos : 0 < k) :
    ((List.range n).map f).flatMap (List.replicate k) =
      (List.range (n * k)).map fun i => f (i / k) := by
  rw [← flatMap_range_map (fun a _ => f a) n pos, List.flatMap_map]
  congr 1
  funext a
  rw [List.map_const', List.length_range]

namespace Display

/-! ## Rows of pixels -/

def line (d : Display) (y : Nat) : List Byte := (d.buffer.drop (y * d.stride)).take d.stride

theorem line_eq (d : Display) {y : Nat} (hy : y < d.height) :
    d.line y = (List.range d.stride).map fun k => d.cell (y * d.stride + k) := by
  refine List.ext_getElem? fun k => ?_
  rw [line, List.getElem?_take, List.getElem?_drop, List.getElem?_map]
  by_cases column : k < d.stride
  · have inside : y * d.stride + k < d.cells.size := by
      have := d.place_lt (x := 8 * k) (by omega) hy
      rwa [place, Nat.mul_div_cancel_left k (by decide)] at this
    rw [if_pos column, List.getElem?_range column, buffer, Array.getElem?_toList,
      Array.getElem?_eq_getElem inside, Option.map_some, cell, Array.getD_eq_getD_getElem?,
      Array.getElem?_eq_getElem inside]
    rfl
  · rw [if_neg column, List.getElem?_eq_none (by simpa using column)]
    rfl

theorem rows_eq (d : Display) : d.rows = (List.range d.height).map d.line := by
  refine List.map_congr_left fun y _ => ?_
  have length : (y + 1) * d.stride - y * d.stride = d.stride := by
    rw [Nat.succ_mul, Nat.add_sub_cancel_left]
  rw [Array.toList_extract, List.extract_eq_take_drop, length]
  rfl

/-- The bits of a row are its pixels. -/
theorem bits_line (d : Display) {y : Nat} (hy : y < d.height) :
    (d.line y).flatMap pixels = (List.range d.width).map fun x => d.lit x y := by
  rw [d.line_eq hy, List.flatMap_map]
  have width : d.stride * 8 = d.width := Nat.mul_comm ..
  refine (flatMap_range_map (fun k j => (d.cell (y * d.stride + k)).getMsbD j) d.stride
    (by decide)).trans ?_
  rw [width]
  exact List.map_congr_left fun x inside => (d.lit_eq (List.mem_range.1 inside) hy).symm

/-- The bits of all bytes, one after the other, are the pixels row by row. -/
theorem lit_eq_bit (d : Display) {x y : Nat} (hx : x < d.width) (hy : y < d.height) :
    d.lit x y = (d.buffer.getD ((x + y * d.width) / 8) 0).getMsbD ((x + y * d.width) % 8) := by
  have rest : y * d.width = 8 * (y * d.stride) := by rw [width, Nat.mul_left_comm]
  have byte : (x + y * d.width) / 8 = d.place x y := by rw [rest, place]; omega
  have offset : (x + y * d.width) % 8 = x % 8 := by rw [rest]; omega
  rw [d.lit_eq hx hy, byte, offset, cell, buffer, List.getD_eq_getElem?_getD,
    Array.getElem?_toList, Array.getD_eq_getD_getElem?]

end Display

/-! ## Rendered pictures -/

namespace Picture

theorem row_line (p : Palette) (d : Display) {scale y : Nat} (pos : 0 < scale)
    (hy : y < d.height) :
    row p scale (d.line y) =
      (List.range (d.width * scale)).map fun x => p.colour (d.lit (x / scale) y) := by
  have wide : row p scale (d.line y) =
      (((d.line y).flatMap pixels).map p.colour).flatMap (List.replicate scale) := by
    rw [List.flatMap_map, List.flatMap_assoc]
    rfl
  rw [wide, d.bits_line hy, List.map_map]
  exact flatMap_replicate _ d.width pos

theorem grid_buffer (p : Palette) (d : Display) {scale : Nat} (pos : 0 < scale) :
    grid p d.buffer d.stride d.height scale =
      (List.range (d.height * scale)).map fun y =>
        (List.range (d.width * scale)).map fun x => p.colour (d.lit (x / scale) (y / scale)) := by
  have high : grid p d.buffer d.stride d.height scale =
      ((List.range d.height).map fun y => row p scale (d.line y)).flatMap
        (List.replicate scale) := by
    rw [List.flatMap_map]
    rfl
  have rows : ((List.range d.height).map fun y => row p scale (d.line y)) =
      (List.range d.height).map fun y =>
        (List.range (d.width * scale)).map fun x => p.colour (d.lit (x / scale) y) :=
    List.map_congr_left fun y inside => row_line p d pos (List.mem_range.1 inside)
  rw [high, rows]
  exact flatMap_replicate _ d.height pos

def ofDisplay (p : Palette) (d : Display) (scale : Nat) : Picture where
  width := d.width * scale
  height := d.height * scale
  rows := (List.range (d.height * scale)).map fun y =>
    (List.range (d.width * scale)).map fun x => p.colour (d.lit (x / scale) (y / scale))

variable (p : Palette) (d : Display) (scale : Nat)

/-- Every display can be rendered. -/
theorem render_display {scale : Nat} (pos : 0 < scale) :
    render p d.buffer d.width d.height scale = .ok (ofDisplay p d scale) := by
  have stride : ((d.width : Int) / 8).toNat = d.stride := by
    rw [Display.width]
    omega
  rw [render, d.checkFrame_buffer (Int.natCast_pos.2 pos), stride, Int.toNat_natCast,
    Int.toNat_natCast, grid_buffer p d pos]
  rfl

/-- Nothing but room can be missing for a rendered display. -/
theorem create_display {scale : Nat} (pos : 0 < scale) (limits : Limits) :
    create p d.buffer d.width d.height scale limits =
      (Refusal.room scale 8 limits).map fun _ => ofDisplay p d scale := by
  have some : (!d.buffer.isEmpty) = true ∧ 8 ≤ (d.width : Int) := by
    have cells : 0 < d.buffer.length := by
      rw [d.length_buffer]
      exact Nat.mul_pos d.stride_pos d.height_pos
    have := d.stride_pos
    refine ⟨by simpa using List.length_pos_iff.1 cells, ?_⟩
    rw [Display.width]
    omega
  rw [create, d.checkFrame_buffer (Int.natCast_pos.2 pos), render_display p d pos,
    Int.toNat_natCast]
  simp only [if_pos some]
  cases Refusal.room scale 8 limits <;> rfl

theorem at?_range_map {α : Type} (f : Nat → α) {n k : Nat} (inside : k < n) :
    at? ((List.range n).map f) k = some (f k) := by
  rw [at?, if_pos (Int.natCast_nonneg k), Int.toNat_natCast, List.getElem?_map,
    List.getElem?_range inside]
  rfl

theorem point?_ofDisplay {x y : Nat} (hx : x < d.width * scale) (hy : y < d.height * scale) :
    (ofDisplay p d scale).point? x y = some (p.colour (d.lit (x / scale) (y / scale))) := by
  rw [point?, ofDisplay, at?_range_map _ hy]
  exact at?_range_map _ hx

theorem length_bytes_ofDisplay :
    (ofDisplay p d scale).bytes.length = 3 * d.width * d.height * (scale * scale) := by
  have points : (ofDisplay p d scale).bytes.length =
      d.height * scale * (d.width * scale * 3) := by
    rw [bytes, ofDisplay, List.flatMap_map, length_flatMap_of_length _ _ (d.width * scale * 3),
      List.length_range]
    intro y _
    rw [length_flatMap_of_length _ _ 3 fun _ _ => rfl, List.length_map, List.length_range]
  rw [points]
  ac_rfl

end Picture

/-! ## Painted frames -/

namespace Canvas

structure Call where
  buffer : List Byte
  width : Int
  height : Int
  scale : Int

/-- The canvas after it was asked for some frames, whether it could paint them or not. -/
def serve (c : Canvas) (calls : List Call) : Canvas :=
  calls.foldl (fun c call => (c.draw call.buffer call.width call.height call.scale).2) c

/-- No frame changes the colours of a canvas. -/
theorem palette_draw (c : Canvas) (buffer : List Byte) (width height scale : Int) :
    (c.draw buffer width height scale).2.palette = c.palette := by
  rw [draw]
  cases checkFrame buffer.length width height scale with
  | error _ => rfl
  | ok _ => dsimp only; split <;> rfl

theorem palette_serve (c : Canvas) (calls : List Call) :
    (c.serve calls).palette = c.palette := by
  induction calls generalizing c with
  | nil => rfl
  | cons call rest ih => exact (ih _).trans (palette_draw ..)

end Canvas

/-! ## All views -/

namespace Display

/-- A picture and a painted surface show a display in the colours of a palette, the picture at a
scale, and so do the ways to read its pixels from the display itself. -/
structure Views (d : Display) (p : Palette) (scale : Nat) (picture : Picture) (base : Surface) :
    Prop where
  /-- A pixel that is asked for is told. -/
  pixel : ∀ x y : Nat, x < d.width → y < d.height → d.pixel x y = .ok (d.lit x y)
  /-- The pixels stand row by row in the buffer, eight to a byte, the first in the highest bit. -/
  buffer : ∀ x y : Nat, x < d.width → y < d.height →
    d.lit x y = (d.buffer.getD ((x + y * d.width) / 8) 0).getMsbD ((x + y * d.width) % 8)
  /-- The packed rows are the rows of the display, and their bits its pixels. -/
  rows : d.rows.map (·.flatMap pixels) =
    (List.range d.height).map fun y => (List.range d.width).map fun x => d.lit x y
  /-- A point of the picture has the colour of the pixel that it belongs to. -/
  point : ∀ x y : Nat, x < d.width * scale → y < d.height * scale →
    picture.point? x y = some (p.colour (d.lit (x / scale) (y / scale)))
  size : picture.width = d.width * scale ∧ picture.height = d.height * scale
  height : picture.rows.length = d.height * scale
  width : ∀ row ∈ picture.rows, row.length = d.width * scale
  /-- The bytes of the picture are the channels of its points, row by row. -/
  bytes : picture.bytes =
    (List.range (d.height * scale)).flatMap fun y => (List.range (d.width * scale)).flatMap fun x =>
      let colour := p.colour (d.lit (x / scale) (y / scale))
      [colour.red, colour.green, colour.blue]
  length : picture.bytes.length = 3 * d.width * d.height * (scale * scale)
  /-- A point of the surface has the colour of its pixel. -/
  surface : base.width = d.width ∧ base.height = d.height ∧
    ∀ x y : Nat, x < d.width → y < d.height → base.point x y = p.colour (d.lit x y)

theorem pixel_eq_ok (d : Display) {x y : Nat} (hx : x < d.width) (hy : y < d.height) :
    d.pixel x y = .ok (d.lit x y) := by
  rw [pixel, if_pos (by omega)]
  rfl

/-- All views of a display agree. At every positive scale the display is rendered, for which only
room can be missing, and a canvas paints it, whatever frames it was asked for before; and all that
can be read from the display, the picture and the surface are the same pixels. -/
theorem views_agree (d : Display) (p : Palette) {scale : Nat} (pos : 1 ≤ scale)
    (calls : List Canvas.Call) :
    ∃ picture frame canvas,
      Picture.render p d.buffer d.width d.height scale = .ok picture ∧
      (∀ limits, Picture.create p d.buffer d.width d.height scale limits =
        (Refusal.room scale 8 limits).map fun _ => picture) ∧
      (Canvas.serve { palette := p } calls).draw d.buffer d.width d.height scale =
        (.ok frame, canvas) ∧
      canvas.base = some frame.base ∧ d.Views p scale picture frame.base := by
  obtain ⟨frame, drawn, -, -, surface⟩ := (Canvas.serve { palette := p } calls).draw_display d
    (Int.natCast_pos.2 pos)
  rw [Canvas.palette_serve] at surface
  refine ⟨.ofDisplay p d scale, frame, _, Picture.render_display p d pos,
    Picture.create_display p d pos, drawn, rfl, ?_⟩
  exact
    { pixel := fun _ _ hx hy => d.pixel_eq_ok hx hy
      buffer := fun _ _ hx hy => d.lit_eq_bit hx hy
      rows := by
        rw [d.rows_eq, List.map_map]
        exact List.map_congr_left fun y inside => d.bits_line (List.mem_range.1 inside)
      point := fun _ _ hx hy => Picture.point?_ofDisplay p d scale hx hy
      size := ⟨rfl, rfl⟩
      height := by rw [Picture.ofDisplay, List.length_map, List.length_range]
      width := by
        intro row shown
        obtain ⟨y, -, rfl⟩ := List.mem_map.1 shown
        rw [List.length_map, List.length_range]
      bytes := by
        rw [Picture.bytes, Picture.ofDisplay, List.flatMap_map]
        simp only [List.flatMap_map]
      length := Picture.length_bytes_ofDisplay p d scale
      surface := surface }

/-- The last pixel of the upper row, on a canvas that painted a frame of another size and was
asked for one without a scale. -/
theorem views_agree_after_refusal :
    ∃ d picture frame canvas,
      (dark 2 2 Nat.two_pos Nat.two_pos).load [0x80, 0x01, 0x00, 0x18] = .ok d ∧ 1 ≤ 3 ∧
      Picture.render .amber d.buffer d.width d.height 3 = .ok picture ∧
      (Canvas.serve { palette := .amber } [⟨[0xFF], 8, 1, 2⟩, ⟨[0xFF], 16, 2, 0⟩]).draw
        d.buffer d.width d.height 3 = (.ok frame, canvas) ∧
      picture.point? 47 2 = some Palette.amber.foreground ∧
      frame.base.point 15 0 = Palette.amber.foreground := by
  have shown : (dark 2 2 Nat.two_pos Nat.two_pos).load [0x80, 0x01, 0x00, 0x18] =
      .ok ⟨2, 2, #[0x80, 0x01, 0x00, 0x18], Nat.two_pos, Nat.two_pos, rfl⟩ := rfl
  have pos : 1 ≤ 3 := by decide
  obtain ⟨picture, frame, canvas, rendered, -, drawn, -, views⟩ :=
    views_agree ⟨2, 2, #[0x80, 0x01, 0x00, 0x18], Nat.two_pos, Nat.two_pos, rfl⟩ .amber pos
      [⟨[0xFF], 8, 1, 2⟩, ⟨[0xFF], 16, 2, 0⟩]
  refine ⟨_, picture, frame, canvas, shown, pos, rendered, drawn, ?_, ?_⟩
  · exact (views.point 47 2 (by decide) (by decide)).trans (by decide +kernel)
  · exact (views.surface.2.2 15 0 (by decide) (by decide)).trans (by decide +kernel)

end Display

end Chip8
