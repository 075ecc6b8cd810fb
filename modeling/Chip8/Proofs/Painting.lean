/-
# Chip8.Proofs.Painting — a painted surface shows the pixels of a display

A surface is painted byte by byte and bit by bit, and what comes of it is said by points:
`Marked` relates a surface to the one before with the points that were marked on the way.
One mark, the marks of a byte and those of a whole buffer are three such sets, and for the
buffer of a display it is the set of lit pixels (`marked_paint`). So the colours of a painted
frame are those of the pixels, whatever the canvas painted before (`draw_display`).
-/
import Chip8.Proofs.Pixels
import Chip8.Surface

namespace Chip8

set_option autoImplicit false

namespace Surface

/-- There is room for the mark of every point. -/
def Sized (s : Surface) : Prop := s.marks.size = (s.width * s.height).toNat

/-- `s'` is `s` with the given points marked. -/
structure Marked (s s' : Surface) (colour : Rgb) (points : Nat → Nat → Bool) : Prop where
  width : s'.width = s.width
  height : s'.height = s.height
  ground : s'.ground = s.ground
  size : s'.marks.size = s.marks.size
  mark? : ∀ x y : Nat, x < s.width → y < s.height →
    s'.mark? x y = if points x y then some colour else s.mark? x y

theorem sized_blank (width height : Int) (ground : Rgb) : (blank width height ground).Sized :=
  Array.size_replicate

variable {s s' s'' : Surface} {colour : Rgb} {p q : Nat → Nat → Bool}

theorem Marked.sized (h : s.Marked s' colour p) (sized : s.Sized) : s'.Sized := by
  rw [Sized, h.size, h.width, h.height]
  exact sized

/-- Points with other points are the points of both. -/
theorem Marked.trans (first : s.Marked s' colour p) (second : s'.Marked s'' colour q) :
    s.Marked s'' colour fun x y => p x y || q x y where
  width := second.width.trans first.width
  height := second.height.trans first.height
  ground := second.ground.trans first.ground
  size := second.size.trans first.size
  mark? := fun x y hx hy => by
    rw [second.mark? x y (first.width ▸ hx) (first.height ▸ hy), first.mark? x y hx hy]
    cases p x y <;> cases q x y <;> rfl

theorem Marked.congr (h : s.Marked s' colour p)
    (same : ∀ x y : Nat, x < s.width → y < s.height → p x y = q x y) : s.Marked s' colour q where
  width := h.width
  height := h.height
  ground := h.ground
  size := h.size
  mark? := fun x y hx hy => by rw [h.mark? x y hx hy, same x y hx hy]

theorem marked_none (s : Surface) (colour : Rgb) : s.Marked s colour fun _ _ => false where
  width := rfl
  height := rfl
  ground := rfl
  size := rfl
  mark? := fun _ _ _ _ => rfl

/-- Points have their own places. -/
theorem place_inj {width x y x' y' : Int} (hx : 0 ≤ x ∧ x < width) (hx' : 0 ≤ x' ∧ x' < width)
    (hy : 0 ≤ y) (hy' : 0 ≤ y') :
    (y * width + x).toNat = (y' * width + x').toNat ↔ x = x' ∧ y = y' := by
  constructor
  · intro same
    have nonneg : 0 ≤ y * width := Int.mul_nonneg hy (by omega)
    have nonneg' : 0 ≤ y' * width := Int.mul_nonneg hy' (by omega)
    have whole : y * width + x = y' * width + x' := by omega
    have column := congrArg (· % width) whole
    simp only [Int.add_comm _ x, Int.add_comm _ x', Int.add_mul_emod_self_right,
      Int.emod_eq_of_lt hx.1 hx.2, Int.emod_eq_of_lt hx'.1 hx'.2] at column
    have row : y * width = y' * width := by omega
    exact ⟨column, Int.eq_of_mul_eq_mul_right (by omega) row⟩
  · rintro ⟨rfl, rfl⟩
    rfl

/-- The place of a point is one of the marks. -/
theorem place_lt (sized : s.Sized) {x y : Int} (hx : 0 ≤ x ∧ x < s.width)
    (hy : 0 ≤ y ∧ y < s.height) : (y * s.width + x).toNat < s.marks.size := by
  have row : (y + 1) * s.width ≤ s.height * s.width :=
    Int.mul_le_mul_of_nonneg_right (by omega) (by omega)
  have first : 0 ≤ y * s.width := Int.mul_nonneg hy.1 (by omega)
  rw [Int.add_mul, Int.one_mul, Int.mul_comm s.height] at row
  rw [sized]
  omega

theorem mark?_eq (s : Surface) {x y : Nat} (hx : x < s.width) (hy : y < s.height) :
    s.mark? x y = (s.marks[((y : Int) * s.width + x).toNat]?).join :=
  if_pos ⟨Int.natCast_nonneg x, hx, Int.natCast_nonneg y, hy⟩

theorem marked_mark (sized : s.Sized) (x y : Int) (colour : Rgb) :
    s.Marked (s.mark x y colour) colour fun px py => decide ((px : Int) = x ∧ (py : Int) = y) := by
  by_cases inside : 0 ≤ x ∧ x < s.width ∧ 0 ≤ y ∧ y < s.height
  · rw [mark, if_pos inside]
    refine ⟨rfl, rfl, rfl, Array.size_setIfInBounds, fun px py hx hy => ?_⟩
    have own := place_inj (x := px) (y := py) ⟨Int.natCast_nonneg px, hx⟩
      ⟨inside.1, inside.2.1⟩ (Int.natCast_nonneg py) inside.2.2.1
    have after := mark?_eq
      { s with marks := s.marks.setIfInBounds (y * s.width + x).toNat (some colour) } hx hy
    rw [after, mark?_eq s hx hy, Array.getElem?_setIfInBounds]
    by_cases here : (px : Int) = x ∧ (py : Int) = y
    · have room := place_lt sized ⟨Int.natCast_nonneg px, hx⟩ ⟨Int.natCast_nonneg py, hy⟩
      obtain ⟨rfl, rfl⟩ := here
      rw [if_pos rfl, if_pos room, if_pos (by simp)]
      rfl
    · rw [if_neg fun same => here (own.1 same.symm), if_neg (by simpa using here)]
  · rw [mark, if_neg inside]
    refine (marked_none s colour).congr fun px py hx hy => ?_
    rw [eq_comm, decide_eq_false_iff_not]
    rintro ⟨rfl, rfl⟩
    exact inside (by omega)

/-- Some of the pixels of a byte are marked. -/
theorem marked_bits (sized : s.Sized) (x y : Int) (colour : Rgb) (b : Byte) (bits : List Nat) :
    s.Marked (bits.foldl (fun s k => if b.getMsbD k then s.mark (x + k) y colour else s) s) colour
      fun px py =>
        bits.any fun k => b.getMsbD k && decide ((px : Int) = x + k ∧ (py : Int) = y) := by
  induction bits generalizing s with
  | nil => exact marked_none s colour
  | cons k rest ih =>
      rw [List.foldl_cons]
      have first : s.Marked (if b.getMsbD k then s.mark (x + k) y colour else s) colour
          fun px py => b.getMsbD k && decide ((px : Int) = x + k ∧ (py : Int) = y) := by
        cases b.getMsbD k with
        | true => exact (marked_mark sized (x + k) y colour).congr fun _ _ _ _ => by simp
        | false => exact (marked_none s colour).congr fun _ _ _ _ => by simp
      exact (first.trans (ih (first.sized sized))).congr fun px py _ _ => by rw [List.any_cons]

/-- The lit pixels of a byte are marked: they lie in one row and in the columns of the byte. -/
theorem marked_byte (sized : s.Sized) (column row : Nat) (colour : Rgb) (b : Byte) :
    s.Marked (s.markByte ((column : Int) * 8) row colour b) colour fun px py =>
      decide (py = row ∧ px / 8 = column) && b.getMsbD (px % 8) := by
  refine (marked_bits sized _ _ colour b (List.range 8)).congr fun px py _ _ => ?_
  rw [Bool.eq_iff_iff, List.any_eq_true, Bool.and_eq_true, decide_eq_true_eq]
  constructor
  · rintro ⟨k, inside, both⟩
    have small := List.mem_range.1 inside
    obtain ⟨lit, here⟩ := Bool.and_eq_true_iff.1 both
    have there := of_decide_eq_true here
    have : px % 8 = k := by omega
    exact ⟨by omega, this ▸ lit⟩
  · rintro ⟨here, lit⟩
    refine ⟨px % 8, List.mem_range.2 (by omega), ?_⟩
    rw [lit, Bool.true_and, decide_eq_true_eq]
    omega

/-- The bits of the byte number `k`, in bytes that are numbered from `index` on. -/
theorem lit_cons (index k bit : Nat) (b : Byte) (rest : List Byte) :
    (decide (index = k) && b.getMsbD bit ||
        decide (index + 1 ≤ k) && (rest.getD (k - (index + 1)) 0).getMsbD bit) =
      (decide (index ≤ k) && ((b :: rest).getD (k - index) 0).getMsbD bit) := by
  rcases Nat.lt_trichotomy index k with below | rfl | above
  · have next : k - index = k - (index + 1) + 1 := by omega
    rw [decide_eq_false (by omega : ¬index = k), decide_eq_true (by omega : index + 1 ≤ k),
      decide_eq_true (by omega : index ≤ k), next, List.getD_cons_succ]
    rfl
  · rw [decide_eq_false (Nat.not_succ_le_self index)]
    simp
  · rw [decide_eq_false (by omega : ¬index = k), decide_eq_false (by omega : ¬index + 1 ≤ k),
      decide_eq_false (by omega : ¬index ≤ k)]
    rfl

/-- A byte is the one in a row and a column if its number is. -/
theorem row_column_iff {stride index row column : Nat} (inside : column < stride) :
    (row = index / stride ∧ column = index % stride) ↔ index = row * stride + column := by
  constructor
  · rintro ⟨rfl, rfl⟩
    exact (Nat.div_add_mod' index stride).symm
  · rintro rfl
    rw [Nat.add_comm, Nat.add_mul_div_right _ _ (Nat.zero_lt_of_lt inside),
      Nat.add_mul_mod_self_right, Nat.div_eq_of_lt inside, Nat.mod_eq_of_lt inside, Nat.zero_add]
    exact ⟨rfl, rfl⟩

/-- The first byte of a buffer is painted, and then the others. The bytes of a row that is
`stride` bytes wide stand side by side. -/
theorem paint_cons {stride : Nat} (sized : s.Sized) (width : s.width = 8 * stride)
    (pos : 0 < stride) (colour : Rgb) (index : Nat) (b : Byte) (rest : List Byte) :
    ∃ s', paint stride colour index (b :: rest) s = paint stride colour (index + 1) rest s' ∧
      s.Marked s' colour fun px py =>
        decide (index = py * stride + px / 8) && b.getMsbD (px % 8) := by
  by_cases dark : b = 0
  · refine ⟨s, by rw [paint, if_pos dark], (marked_none s colour).congr fun _ _ _ _ => ?_⟩
    simp [dark]
  · have row : (index : Int).fdiv stride = (index / stride : Nat) :=
      (Int.ofNat_fdiv index stride).symm
    have column : (index : Int) - (index / stride : Nat) * stride = (index % stride : Nat) := by
      have whole := Nat.div_add_mod' index stride
      omega
    have some : (stride : Int) ≠ 0 := by omega
    refine ⟨s.markByte ((index % stride : Nat) * 8) (index / stride : Nat) colour b, ?_,
      (marked_byte sized (index % stride) (index / stride) colour b).congr fun px py hx _ => ?_⟩
    · simp only [paint, if_neg dark, if_neg some, row, column]
    · congr 1
      exact decide_eq_decide.2 (row_column_iff (by omega))

/-- The lit pixels of a buffer are marked. -/
theorem marked_paint {stride : Nat} (sized : s.Sized) (width : s.width = 8 * stride)
    (pos : 0 < stride) (colour : Rgb) (index : Nat) (bytes : List Byte) :
    ∃ s', paint stride colour index bytes s = .ok s' ∧ s.Marked s' colour fun px py =>
      decide (index ≤ py * stride + px / 8) &&
        (bytes.getD (py * stride + px / 8 - index) 0).getMsbD (px % 8) := by
  induction bytes generalizing s index with
  | nil => exact ⟨s, rfl, (marked_none s colour).congr fun _ _ _ _ => by simp⟩
  | cons b rest ih =>
      obtain ⟨s', same, first⟩ := paint_cons sized width pos colour index b rest
      obtain ⟨s'', painted, others⟩ := ih (first.sized sized) (first.width.trans width) (index + 1)
      exact ⟨s'', same.trans painted, (first.trans others).congr fun px py _ _ =>
        lit_cons index (py * stride + px / 8) (px % 8) b rest⟩

/-- The buffer of a display paints the lit pixels on a blank surface of its size. -/
theorem paint_buffer (d : Display) (palette : Palette) :
    ∃ s, paint ((d.width : Int) / 8) palette.foreground 0 d.buffer
        (blank d.width d.height palette.background) = .ok s ∧
      s.width = d.width ∧ s.height = d.height ∧
      ∀ x y : Nat, x < d.width → y < d.height → s.point x y = palette.colour (d.lit x y) := by
  have stride : (d.width : Int) / 8 = d.stride := by
    rw [Display.width]
    omega
  obtain ⟨s, painted, marked⟩ := marked_paint
    (sized_blank d.width d.height palette.background) (by rw [blank, Display.width]; simp)
    d.stride_pos palette.foreground 0 d.buffer
  refine ⟨s, stride ▸ painted, marked.width, marked.height, fun x y hx hy => ?_⟩
  have hx' : (x : Int) < d.width := by omega
  have hy' : (y : Int) < d.height := by omega
  have unmarked : (blank d.width d.height palette.background).mark? x y = none := by
    rw [mark?_eq (blank d.width d.height palette.background) hx' hy', blank,
      Array.getElem?_replicate]
    split <;> rfl
  rw [point, marked.mark? x y hx' hy', unmarked, marked.ground]
  have lit : (decide (0 ≤ y * d.stride + x / 8) &&
      (d.buffer.getD (y * d.stride + x / 8 - 0) 0).getMsbD (x % 8)) = d.lit x y := by
    rw [Display.lit_eq d hx hy]
    simp [Display.buffer, Display.cell, Display.place]
  rw [lit, Palette.colour]
  cases d.lit x y <;> rfl

end Surface

/-- The buffer of a display is a frame of its size. -/
theorem Display.checkFrame_buffer (d : Display) {scale : Int} (pos : 0 < scale) :
    checkFrame d.buffer.length d.width d.height scale = .ok () := by
  have bytes : (d.width : Int) * d.height / 8 = (d.stride * d.height : Nat) := by
    rw [width, Int.natCast_mul, Int.mul_assoc, ← Int.natCast_mul]
    exact Int.mul_ediv_cancel_left _ (by decide)
  rw [checkFrame, if_neg (by omega), d.length_buffer, bytes, if_neg (by simp)]

namespace Canvas

/-- Whatever a canvas painted before, it begins a frame on a blank surface of its size. -/
theorem fill_fit (c : Canvas) (width height : Int) (ground : Rgb) :
    (c.fit width height).1.fill ground = .blank width height ground := by
  rw [fit]
  split
  · split
    · rename_i same
      rw [Surface.fill_eq_blank, same.1, same.2]
    · exact Surface.fill_eq_blank ..
  · exact Surface.fill_eq_blank ..

/-- A canvas can paint every display, and the frame shows the display in the colours of the
canvas. -/
theorem draw_display (c : Canvas) (d : Display) {scale : Int} (pos : 0 < scale) :
    ∃ frame, c.draw d.buffer d.width d.height scale =
        (.ok frame, { c with base := some frame.base, serial := frame.serial }) ∧
      frame.width = d.width * scale ∧ frame.height = d.height * scale ∧
      frame.base.width = d.width ∧ frame.base.height = d.height ∧
      ∀ x y : Nat, x < d.width → y < d.height →
        frame.base.point x y = c.palette.colour (d.lit x y) := by
  obtain ⟨s, painted, width, height, points⟩ := Surface.paint_buffer d c.palette
  refine ⟨⟨d.width * scale, d.height * scale, s, (c.fit d.width d.height).2, scale == 1⟩, ?_, rfl,
    rfl, width, height, points⟩
  simp only [draw, d.checkFrame_buffer pos, fill_fit, painted]

end Canvas

end Chip8
