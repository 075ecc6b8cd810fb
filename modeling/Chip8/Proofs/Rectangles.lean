/-
# Chip8.Proofs.Rectangles — accepted frames, and the rectangles they declare

A frame is accepted if its buffer has one byte for every eight pixels of its rectangle. The bytes
are counted over the whole rectangle, but they are read row by row, and a row takes only the whole
bytes of its width. The two agree if the width is a multiple of eight (`length_of_multiple`).
Otherwise the rows of a picture are shorter than declared (`fills_render`), and the bytes that are
left over belong to no row: a lit one is painted below the surface (`inside_iff`), or, if a row has
no byte at all, nowhere (`paint_of_narrow`).

Painting is described by the points that it marks, in order and wherever they lie
(`Surface.points`, `paint_eq`). `frame_of_accepted` is the law for all sizes: an accepted frame is
what its rectangle declares exactly if the width is a multiple of eight.
-/
import Chip8.Proofs.Views

namespace Chip8

set_option autoImplicit false

/-! ## The size of a buffer -/

/-- A frame is accepted if it has a positive scale and the bytes of its rectangle. -/
theorem checkFrame_eq_ok {length width height scale : Nat}
    (accepted : checkFrame length width height scale = .ok ()) :
    0 < scale ∧ length = width * height / 8 := by
  unfold checkFrame at accepted
  split at accepted
  · cases accepted
  split at accepted
  · cases accepted
  · omega

/-- Whole rows of bytes are not more than the bytes of the rectangle. -/
theorem rows_le_length (width height : Nat) : width / 8 * height ≤ width * height / 8 := by
  rw [Nat.le_div_iff_mul_le (by decide), Nat.mul_right_comm]
  exact Nat.mul_le_mul_right height (Nat.div_mul_le_self width 8)

/-- They are as many if the width is a multiple of eight. -/
theorem length_of_multiple {width : Nat} (multiple : width % 8 = 0) (height : Nat) :
    width * height / 8 = width / 8 * height := by
  obtain ⟨stride, rfl⟩ := Nat.dvd_of_mod_eq_zero multiple
  rw [Nat.mul_div_cancel_left stride (by decide), Nat.mul_assoc,
    Nat.mul_div_cancel_left _ (by decide)]

/-! ## Pictures -/

namespace Picture

/-- A picture has a point for every place of a rectangle at a scale, and no others. -/
structure Fills (picture : Picture) (width height scale : Nat) : Prop where
  rows : picture.rows.length = height * scale
  row : ∀ row ∈ picture.rows, row.length = width * scale
  bytes : picture.bytes.length = 3 * width * height * (scale * scale)
  point : ∀ x y : Nat, (picture.point? x y).isSome = true ↔ x < width * scale ∧ y < height * scale

theorem at?_natCast {α : Type} (list : List α) (k : Nat) : at? list k = list[k]? := by
  rw [at?, if_pos (Int.natCast_nonneg k), Int.toNat_natCast]

/-- A picture fills a rectangle if its rows do. -/
theorem fills_of_rows {picture : Picture} {width height scale : Nat}
    (rows : picture.rows.length = height * scale)
    (row : ∀ row ∈ picture.rows, row.length = width * scale) :
    picture.Fills width height scale where
  rows := rows
  row := row
  bytes := by
    have each : ∀ r ∈ picture.rows,
        (r.flatMap fun c => [c.red, c.green, c.blue]).length = width * scale * 3 :=
      fun r inside => by rw [length_flatMap_of_length _ _ 3 fun _ _ => rfl, row r inside]
    rw [bytes, length_flatMap_of_length _ _ _ each, rows]
    ac_rfl
  point := by
    intro x y
    rw [point?, at?_natCast]
    by_cases high : y < picture.rows.length
    · have wide := row _ (List.getElem_mem high)
      have place : (at? picture.rows[y] x).isSome = true ↔ x < width * scale := by
        rw [at?_natCast, isSome_getElem?, wide]
      rw [List.getElem?_eq_getElem high, ← rows, and_iff_left high]
      exact place
    · rw [List.getElem?_eq_none (Nat.le_of_not_lt high), ← rows]
      simp [high]

/-- The rows of a rendered picture are as wide as the whole bytes of the width. -/
theorem fills_render (p : Palette) {buffer : List Byte} {width height scale : Nat}
    (accepted : checkFrame buffer.length width height scale = .ok ()) :
    ∃ picture, render p buffer width height scale = .ok picture ∧
      picture.width = width * scale ∧ picture.height = height * scale ∧
      picture.Fills (width - width % 8) height scale := by
  have length := (checkFrame_eq_ok accepted).2
  have stride : ((width : Int) / 8).toNat = width / 8 := by omega
  refine ⟨⟨width * scale, height * scale, grid p buffer (width / 8) height scale⟩, ?_, rfl, rfl,
    fills_of_rows (length_grid ..) ?_⟩
  · rw [render, accepted, stride]
    rfl
  · intro r inside
    obtain ⟨y, below, copies⟩ := List.mem_flatMap.1 inside
    obtain rfl := List.eq_of_mem_replicate copies
    have whole : (y + 1) * (width / 8) ≤ buffer.length := by
      rw [length]
      have rows := Nat.mul_le_mul_right (width / 8) (List.mem_range.1 below)
      rw [Nat.mul_comm height] at rows
      exact Nat.le_trans rows (rows_le_length width height)
    have taken : ((buffer.drop (y * (width / 8))).take (width / 8)).length = width / 8 := by
      rw [Nat.add_mul, Nat.one_mul] at whole
      rw [List.length_take, List.length_drop]
      omega
    have eights : width / 8 * 8 = width - width % 8 := by omega
    rw [length_row, taken, ← Nat.mul_assoc, eights]

/-- Only room can be missing for a picture, and only if it has points. -/
theorem create_of_render (p : Palette) {buffer : List Byte} {width height scale : Nat}
    {picture : Picture} (limits : Limits)
    (accepted : checkFrame buffer.length width height scale = .ok ())
    (rendered : render p buffer width height scale = .ok picture) :
    create p buffer width height scale limits =
      if buffer ≠ [] ∧ 8 ≤ width then (Refusal.room scale 8 limits).map fun _ => picture
      else .ok picture := by
  have points : ((!buffer.isEmpty) = true ∧ 8 ≤ (width : Int)) ↔ (buffer ≠ [] ∧ 8 ≤ width) := by
    have wide : 8 ≤ (width : Int) ↔ 8 ≤ width := by omega
    rw [Bool.not_eq_true', List.isEmpty_eq_false_iff, wide]
  rw [create, accepted, rendered, Int.toNat_natCast]
  by_cases some : buffer ≠ [] ∧ 8 ≤ width
  · simp only [if_pos (points.2 some), if_pos some]
    cases Refusal.room scale 8 limits <;> rfl
  · simp only [if_neg fun given => some (points.1 given), if_neg some]
    rfl

end Picture

/-! ## Surfaces -/

namespace Surface

/-- The points of the lit pixels of a byte, its first pixel at (`x`, `y`). -/
def bytePoints (x y : Int) (b : Byte) : List (Int × Int) :=
  ((List.range 8).filter b.getMsbD).map fun k : Nat => (x + k, y)

/-- The points of the lit pixels of a buffer, beginning with its byte `index`, in rows of `stride`
bytes. Nothing is said about where they lie. -/
def points (stride : Int) : (index : Nat) → List Byte → List (Int × Int)
  | _, [] => []
  | index, b :: rest =>
      let y := (index : Int).fdiv stride
      bytePoints (((index : Int) - y * stride) * 8) y b ++ points stride (index + 1) rest

def markAll (s : Surface) (colour : Rgb) (points : List (Int × Int)) : Surface :=
  points.foldl (fun s point => s.mark point.1 point.2 colour) s

theorem markByte_eq (s : Surface) (x y : Int) (colour : Rgb) (b : Byte) :
    s.markByte x y colour b = s.markAll colour (bytePoints x y b) := by
  rw [markAll, bytePoints, List.foldl_map, List.foldl_filter]
  rfl

theorem bytePoints_zero (x y : Int) : bytePoints x y 0 = [] := by
  rw [bytePoints, List.filter_eq_nil_iff.2 fun k _ => by simp]
  rfl

/-- To paint a buffer is to mark its points. -/
theorem paint_eq {stride : Int} (some : stride ≠ 0) (colour : Rgb) (index : Nat)
    (bytes : List Byte) (s : Surface) :
    paint stride colour index bytes s = .ok (s.markAll colour (points stride index bytes)) := by
  induction bytes generalizing index s with
  | nil => rfl
  | cons b rest ih =>
      by_cases dark : b = 0
      · rw [paint, points, if_pos dark, ih, dark, bytePoints_zero]
        rfl
      · simp only [paint, points, if_neg dark, if_neg some]
        rw [ih, markByte_eq, markAll, markAll, markAll, ← List.foldl_append]

/-- Where a row has no byte only dark bytes can be painted. -/
theorem paint_of_narrow (colour : Rgb) (index : Nat) (bytes : List Byte) (s : Surface) :
    paint 0 colour index bytes s =
      if ∀ b ∈ bytes, b = 0 then .ok s else .error .narrowPicture := by
  induction bytes generalizing index with
  | nil => rfl
  | cons b rest ih =>
      rw [paint]
      by_cases dark : b = 0
      · rw [if_pos dark, ih]
        simp [dark]
      · have lit : ¬∀ c ∈ b :: rest, c = 0 := fun all => dark (all b List.mem_cons_self)
        rw [if_neg dark, if_pos rfl, if_neg lit]

/-- A dark buffer has no points. -/
theorem points_of_dark (stride : Int) (index : Nat) {bytes : List Byte}
    (dark : ∀ b ∈ bytes, b = 0) : points stride index bytes = [] := by
  induction bytes generalizing index with
  | nil => rfl
  | cons b rest ih =>
      obtain ⟨rfl, others⟩ := List.forall_mem_cons.1 dark
      rw [points, bytePoints_zero, ih _ others]
      rfl

def Inside (width height : Nat) (point : Int × Int) : Prop :=
  0 ≤ point.1 ∧ point.1 < width ∧ 0 ≤ point.2 ∧ point.2 < height

/-- A byte that is not dark has a lit pixel. -/
theorem exists_lit {b : Byte} (lit : b ≠ 0) : ∃ k < 8, b.getMsbD k = true := by
  refine Classical.byContradiction fun dark => lit (BitVec.eq_of_getMsbD_eq fun k small => ?_)
  have unlit : b.getMsbD k ≠ true := fun lit => dark ⟨k, small, lit⟩
  rw [Bool.eq_false_iff.2 unlit]
  simp

/-- The points of a byte lie in a rectangle that has its columns, if it has its row or the byte is
dark. -/
theorem bytePoints_inside {width height column row : Nat} (columns : column * 8 + 8 ≤ width)
    (b : Byte) :
    (∀ point ∈ bytePoints ((column : Int) * 8) row b, Inside width height point) ↔
      row < height ∨ b = 0 := by
  constructor
  · intro inside
    by_cases dark : b = 0
    · exact .inr dark
    · obtain ⟨k, small, lit⟩ := exists_lit dark
      have mem : ((column : Int) * 8 + k, (row : Int)) ∈ bytePoints ((column : Int) * 8) row b :=
        List.mem_map.2 ⟨k, List.mem_filter.2 ⟨List.mem_range.2 small, lit⟩, rfl⟩
      have below := (inside _ mem).2.2.2
      exact .inl (by omega)
  · rintro (below | rfl) point mem
    · obtain ⟨k, counted, rfl⟩ := List.mem_map.1 mem
      have small := List.mem_range.1 (List.mem_filter.1 counted).1
      exact ⟨by omega, by omega, by omega, by omega⟩
    · rw [bytePoints_zero] at mem
      cases mem

/-- The points of a buffer lie in a rectangle that is `stride` bytes wide, if the bytes after its
rows are dark. -/
theorem inside_iff {width height stride : Nat} (pos : 0 < stride) (wide : stride * 8 ≤ width)
    (index : Nat) (bytes : List Byte) :
    (∀ point ∈ points stride index bytes, Inside width height point) ↔
      ∀ b ∈ bytes.drop (stride * height - index), b = 0 := by
  induction bytes generalizing index with
  | nil => simp [points]
  | cons b rest ih =>
      have row : (index : Int).fdiv stride = (index / stride : Nat) :=
        (Int.ofNat_fdiv index stride).symm
      have column : (index : Int) - (index / stride : Nat) * stride = (index % stride : Nat) := by
        have whole := Nat.div_add_mod' index stride
        omega
      have columns : index % stride * 8 + 8 ≤ width := by
        have below := Nat.mod_lt index pos
        omega
      have rows : index / stride < height ↔ index < stride * height :=
        by rw [Nat.div_lt_iff_lt_mul pos, Nat.mul_comm]
      simp only [points, row, column]
      rw [List.forall_mem_append, bytePoints_inside columns, ih, rows]
      by_cases inside : index < stride * height
      · have next : stride * height - index = stride * height - (index + 1) + 1 := by omega
        rw [next, List.drop_succ_cons]
        exact and_iff_right (.inl inside)
      · have all : stride * height - index = 0 := by omega
        have others : stride * height - (index + 1) = 0 := by omega
        rw [all, others, List.drop_zero, List.drop_zero, List.forall_mem_cons, or_iff_right inside]

end Surface

/-! ## Frames -/

namespace Canvas

variable {buffer : List Byte} {width height scale : Nat}

/-- A canvas paints an accepted frame unless its rows have no byte and its buffer is not dark. -/
theorem draw_of_accepted (c : Canvas)
    (accepted : checkFrame buffer.length width height scale = .ok ()) :
    (c.draw buffer width height scale).1 =
      if width < 8 ∧ ∃ b ∈ buffer, b ≠ 0 then .error .narrowPicture
      else .ok ⟨width * scale, height * scale,
        (Surface.blank width height c.palette.background).markAll c.palette.foreground
          (Surface.points (width / 8 : Nat) 0 buffer),
        (c.fit width height).2, (scale : Int) == 1⟩ := by
  have stride : (width : Int) / 8 = (width / 8 : Nat) := by omega
  simp only [draw, accepted, fill_fit, stride]
  by_cases narrow : width < 8
  · have none : width / 8 = 0 := by omega
    rw [none]
    simp only [Int.natCast_zero, Surface.paint_of_narrow]
    by_cases dark : ∀ b ∈ buffer, b = 0
    · rw [if_pos dark, if_neg (by simpa using fun _ => dark), Surface.points_of_dark 0 0 dark]
      rfl
    · rw [if_neg dark, if_pos ⟨narrow, by simpa using dark⟩]
  · have some : ((width / 8 : Nat) : Int) ≠ 0 := by omega
    rw [Surface.paint_eq some, if_neg fun both => narrow both.1]

/-- What a frame promises: the picture fills the rectangle that it declares, and on a canvas the
frame is painted with no point outside. -/
structure WellFormed (c : Canvas) (buffer : List Byte) (width height scale : Nat) : Prop where
  picture : ∃ picture, Picture.render c.palette buffer width height scale = .ok picture ∧
    picture.Fills width height scale
  drawn : ∃ frame, (c.draw buffer width height scale).1 = .ok frame
  inside : ∀ point ∈ Surface.points (width / 8 : Nat) 0 buffer, Surface.Inside width height point

/-- The points of an accepted frame lie on its surface if the bytes that belong to no row are
dark. -/
theorem inside_of_painted (painted : ¬(width < 8 ∧ ∃ b ∈ buffer, b ≠ 0)) :
    (∀ point ∈ Surface.points (width / 8 : Nat) 0 buffer, Surface.Inside width height point) ↔
      ∀ b ∈ buffer.drop (width / 8 * height), b = 0 := by
  by_cases narrow : width < 8
  · have dark : ∀ b ∈ buffer, b = 0 := fun b inside =>
      Decidable.of_not_not fun lit => painted ⟨narrow, b, inside, lit⟩
    rw [Surface.points_of_dark _ _ dark]
    exact iff_of_true nofun fun b later => dark b (List.mem_of_mem_drop later)
  · exact Surface.inside_iff (by omega) (Nat.div_mul_le_self width 8) 0 buffer

/-- The law of accepted frames. Every one is rendered, in rows as wide as the whole bytes of its
width; only room can be missing. It is painted unless its rows have no byte and its buffer is not
dark; what is painted lies on the surface exactly if the bytes that belong to no row are dark. So it
is well formed exactly if its width is a multiple of eight. -/
theorem frame_of_accepted (c : Canvas) (wide : 0 < width) (high : 0 < height)
    (accepted : checkFrame buffer.length width height scale = .ok ()) :
    (∃ picture, Picture.render c.palette buffer width height scale = .ok picture ∧
      (∀ limits, Picture.create c.palette buffer width height scale limits =
        if buffer ≠ [] ∧ 8 ≤ width then (Refusal.room scale 8 limits).map fun _ => picture
        else .ok picture) ∧
      picture.width = width * scale ∧ picture.height = height * scale ∧
      picture.Fills (width - width % 8) height scale) ∧
    (width < 8 ∧ (∃ b ∈ buffer, b ≠ 0) →
      (c.draw buffer width height scale).1 = .error .narrowPicture) ∧
    (¬(width < 8 ∧ ∃ b ∈ buffer, b ≠ 0) →
      (∃ frame, (c.draw buffer width height scale).1 = .ok frame ∧
        frame.width = width * scale ∧ frame.height = height * scale ∧
        frame.base = (Surface.blank width height c.palette.background).markAll
          c.palette.foreground (Surface.points (width / 8 : Nat) 0 buffer)) ∧
      ((∀ point ∈ Surface.points (width / 8 : Nat) 0 buffer, Surface.Inside width height point) ↔
        ∀ b ∈ buffer.drop (width / 8 * height), b = 0)) ∧
    (c.WellFormed buffer width height scale ↔ width % 8 = 0) := by
  obtain ⟨pos, length⟩ := checkFrame_eq_ok accepted
  obtain ⟨picture, rendered, declaredWidth, declaredHeight, fills⟩ :=
    Picture.fills_render c.palette accepted
  have drawn := c.draw_of_accepted accepted
  refine ⟨⟨picture, rendered, fun limits => Picture.create_of_render _ limits accepted rendered,
    declaredWidth, declaredHeight, fills⟩, ?_, ?_, ?_, ?_⟩
  · intro narrow
    rw [drawn, if_pos narrow]
  · intro painted
    rw [drawn, if_neg painted]
    exact ⟨⟨_, rfl, rfl, rfl, rfl⟩, inside_of_painted painted⟩
  · rintro ⟨⟨picture', rendered', whole⟩, -, -⟩
    obtain rfl := Except.ok.inj (rendered.symm.trans rendered')
    have some : 0 < picture.rows.length := by
      rw [fills.rows]
      exact Nat.mul_pos high pos
    have first := List.getElem_mem some
    have same := (whole.row _ first).symm.trans (fills.row _ first)
    have := Nat.eq_of_mul_eq_mul_right pos same
    omega
  · intro multiple
    have painted : ¬(width < 8 ∧ ∃ b ∈ buffer, b ≠ 0) := by omega
    have none : buffer.drop (width / 8 * height) = [] := by
      rw [← length_of_multiple multiple, ← length, List.drop_length]
    rw [multiple, Nat.sub_zero] at fills
    refine ⟨⟨picture, rendered, fills⟩, ⟨_, drawn.trans (if_neg painted)⟩, ?_⟩
    rw [inside_of_painted painted, none]
    exact nofun

/-- A frame of twelve by two pixels is accepted, but it is rendered in rows of eight, and its last
byte is painted below it. -/
theorem frame_of_accepted_twelve_wide :
    let c : Canvas := { palette := .amber }
    checkFrame 3 12 2 3 = .ok () ∧ ¬c.WellFormed [0xFF, 0x00, 0x80] 12 2 3 ∧
      Surface.points 1 0 [0x00, 0x00, 0x80] = [(0, 2)] ∧
      ∃ picture, Picture.render c.palette [0xFF, 0x00, 0x80] 12 2 3 = .ok picture ∧
        picture.Fills 8 2 3 := by
  intro c
  have accepted : checkFrame ([0xFF, 0x00, 0x80] : List Byte).length 12 2 3 = .ok () := rfl
  obtain ⟨⟨picture, rendered, -, -, -, fills⟩, -, -, whole⟩ :=
    frame_of_accepted c (by decide) (by decide) accepted
  refine ⟨accepted, fun formed => ?_, by decide, picture, rendered, fills⟩
  exact absurd (whole.1 formed) (by decide)

/-- Frames that are accepted and not what they declare: the rows of the first are narrower, and the
second is not painted at all. -/
theorem narrow_rectangles :
    checkFrame 3 12 2 1 = .ok () ∧
      (Picture.render .monochrome [0x00, 0x00, 0x00] 12 2 1).map
          (fun p => (p.width, p.rows.map List.length, p.bytes.length, p.point? 11 0)) =
        .ok (12, [8, 8], 48, none) ∧
      checkFrame 1 4 2 1 = .ok () ∧
      (draw { palette := .monochrome } [0x80] 4 2 1).1 = .error .narrowPicture :=
  ⟨rfl, rfl, rfl, rfl⟩

end Canvas

end Chip8
