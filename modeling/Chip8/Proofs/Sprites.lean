/-
# Chip8.Proofs.Sprites — what a sprite does to the screen

A host draws a sprite with its corner at any point and with any numbers for its rows. `Stamps`
says in arithmetic, without bytes and shifts, which pixels the sprite has its set bits on: the
column counts modulo the width, the row does not, and of every number only the low eight bits are
used. `blit_toggles` is the law of drawing. Exactly these pixels change, and the answer is whether
one of them was lit.
-/
import Chip8.Proofs.Pixels

namespace Chip8.Display

set_option autoImplicit false

/-- A sprite at (`x`, `y`) on a screen of the given width has a set bit at the pixel
(`px`, `py`). -/
def Stamps (width : Nat) (x y : Int) (rows : List Int) (px py : Nat) : Prop :=
  0 ≤ (py : Int) - y ∧ (py : Int) - y < rows.length ∧
    x % width ≤ px ∧ px - x % width < 8 ∧
    (rows.getD (py - y).toNat 0 % 256).toNat.testBit (7 - (px - x % width).toNat)

instance (width : Nat) (x y : Int) (rows : List Int) (px py : Nat) :
    Decidable (Stamps width x y rows px py) :=
  inferInstanceAs (Decidable (_ ∧ _ ∧ _ ∧ _ ∧ _))

/-- The bits of a row are those of its number modulo 256, the first pixel in the highest. -/
theorem getMsbD_ofInt (row : Int) {k : Nat} (inside : k < 8) :
    (BitVec.ofInt 8 row).getMsbD k = (row % 256).toNat.testBit (7 - k) := by
  rw [BitVec.getMsbD_eq_getLsbD, decide_eq_true inside, Bool.true_and, ← BitVec.testBit_toNat,
    BitVec.toNat_ofInt]
  rfl

theorem bit_ofInt_iff {x px : Nat} (row : Int) :
    bit x (BitVec.ofInt 8 row) px = true ↔
      x ≤ px ∧ px - x < 8 ∧ (row % 256).toNat.testBit (7 - (px - x)) := by
  rw [bit, Bool.and_eq_true, decide_eq_true_iff]
  refine and_congr_right fun _ => ?_
  by_cases inside : px - x < 8
  · rw [getMsbD_ofInt row inside]
    exact (and_iff_right inside).symm
  · rw [BitVec.getMsbD_of_ge _ _ (by omega)]
    exact ⟨fun set => absurd set Bool.false_ne_true, fun h => absurd h.1 inside⟩

/-- `covers` and `Stamps` mean the same pixels: below its last row a sprite has no set bit. -/
theorem covers_iff_stamps (d : Display) (x y : Int) (rows : List Int) (px py : Nat) :
    covers (x % d.width).toNat y (rows.map (BitVec.ofInt 8)) px py = true ↔
      Stamps d.width x y rows px py := by
  have column : 0 ≤ x % (d.width : Int) := by
    have := d.stride_pos
    exact Int.emod_nonneg x (by rw [width]; omega)
  have row : (rows.map (BitVec.ofInt 8)).getD (py - y).toNat 0 =
      BitVec.ofInt 8 (rows.getD (py - y).toNat 0) := by
    rw [List.getD_eq_getElem?_getD, List.getD_eq_getElem?_getD, List.getElem?_map]
    cases rows[(py - y).toNat]? <;> rfl
  have offset : (px - x % (d.width : Int)).toNat = px - (x % (d.width : Int)).toNat := by omega
  rw [covers, row, Bool.and_eq_true, decide_eq_true_iff, bit_ofInt_iff, Stamps, offset]
  constructor
  · rintro ⟨below, right, near, set⟩
    have inside : (py - y).toNat < rows.length := by
      apply Decidable.by_contra
      intro beyond
      rw [List.getD_eq_getElem?_getD, List.getElem?_eq_none (Nat.le_of_not_lt beyond)] at set
      simp at set
    exact ⟨by omega, by omega, by omega, by omega, set⟩
  · rintro ⟨below, -, right, near, set⟩
    exact ⟨by omega, by omega, by omega, set⟩

/-- A sprite of at most fifteen rows is drawn as `draw` draws its bytes. -/
theorem blit_of_short (d : Display) (x y : Int) {rows : List Int} (short : rows.length ≤ 15) :
    d.blit x y (rows.map (BitVec.ofInt 8)) =
      .ok (d.draw (x % d.width).toNat y (d.column_lt x) (rows.map (BitVec.ofInt 8))) := by
  rw [blit, if_neg]
  rw [List.length_map, spriteLimit]
  omega

/-- The law of drawing. A sprite of at most fifteen rows is drawn wherever its corner is. It
changes the pixels where it has a set bit, and no other pixel of the screen, and the answer is
whether a lit pixel went dark. -/
theorem blit_toggles (d : Display) (x y : Int) (rows : List Int) (short : rows.length ≤ 15) :
    ∃ hit after, d.blit x y (rows.map (BitVec.ofInt 8)) = .ok (hit, after) ∧
      after.width = d.width ∧ after.height = d.height ∧
      after.buffer.length = d.buffer.length ∧
      (∀ px py, px < d.width → py < d.height →
        (after.lit px py ≠ d.lit px py ↔ Stamps d.width x y rows px py)) ∧
      (hit = true ↔ ∃ px py, d.lit px py = true ∧ after.lit px py = false) := by
  let bytes : List Byte := rows.map (BitVec.ofInt 8)
  let drawn := d.draw (x % d.width).toNat y (d.column_lt x) bytes
  have stride : drawn.2.stride = d.stride := stride_draw ..
  have height : drawn.2.height = d.height := height_draw ..
  have toggled {px py : Nat} (hpx : px < d.width) (hpy : py < d.height) :
      drawn.2.lit px py = (d.lit px py ^^ covers (x % d.width).toNat y bytes px py) :=
    lit_draw d y (d.column_lt x) bytes hpx hpy
  refine ⟨drawn.1, drawn.2, blit_of_short d x y short, ?_, height, ?_, ?_, ?_⟩
  · rw [width, width, stride]
  · rw [length_buffer, length_buffer, stride, height]
  · intro px py hpx hpy
    rw [← covers_iff_stamps, toggled hpx hpy]
    cases d.lit px py <;> cases covers (x % d.width).toNat y bytes px py <;> decide
  · refine (hit_draw_iff d y (d.column_lt x) bytes).trans ?_
    constructor
    · rintro ⟨px, py, hpx, hpy, set, meets⟩
      refine ⟨px, py, set, ?_⟩
      rw [toggled hpx hpy, set, meets]
      rfl
    · rintro ⟨px, py, set, dark⟩
      obtain ⟨hpx, hpy⟩ : px < d.width ∧ py < d.height := by
        rw [lit, Bool.and_eq_true, decide_eq_true_iff] at set
        exact set.1
      rw [toggled hpx hpy, set, Bool.true_xor, Bool.not_eq_false'] at dark
      exact ⟨px, py, hpx, hpy, set, dark⟩

/-- A sprite in the upper right corner: its first row lies above the screen, and its second row
is cut off behind the third pixel and does not come back on the left. -/
theorem blit_toggles_in_the_corner :
    let rows : List Int := [0xFF, -1, 0x181]
    rows.length ≤ 15 ∧
      ∃ hit after, standard.blit (-3) (-1) (rows.map (BitVec.ofInt 8)) = .ok (hit, after) ∧
        after.lit 61 0 ≠ standard.lit 61 0 ∧ after.lit 63 0 ≠ standard.lit 63 0 ∧
        after.lit 0 0 = standard.lit 0 0 ∧ after.lit 0 1 = standard.lit 0 1 ∧
        after.lit 61 1 ≠ standard.lit 61 1 ∧ after.lit 62 1 = standard.lit 62 1 := by
  intro rows
  have short : rows.length ≤ 15 := by decide
  obtain ⟨hit, after, drawn, -, -, -, toggles, -⟩ := blit_toggles standard (-3) (-1) rows short
  have kept {px py : Nat} (hpx : px < 64) (hpy : py < 32)
      (apart : ¬Stamps 64 (-3) (-1) rows px py) : after.lit px py = standard.lit px py :=
    Decidable.not_not.1 fun other => apart ((toggles px py hpx hpy).1 other)
  refine ⟨short, hit, after, drawn, ?_, ?_, ?_, ?_, ?_, ?_⟩
  · exact (toggles 61 0 (by decide) (by decide)).2 (by decide)
  · exact (toggles 63 0 (by decide) (by decide)).2 (by decide)
  · exact kept (by decide) (by decide) (by decide)
  · exact kept (by decide) (by decide) (by decide)
  · exact (toggles 61 1 (by decide) (by decide)).2 (by decide)
  · exact kept (by decide) (by decide) (by decide)

end Chip8.Display
