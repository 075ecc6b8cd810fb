/-
# Chip8.Proofs.Pixels — drawing toggles the pixels of the sprite

A display is packed eight pixels to a byte, and a sprite row that does not begin at a byte
is cut in two. None of that shows in the pixels: `covers` says without bytes where a sprite
has its set bits, and drawing toggles exactly these pixels (`lit_draw`) and reports a hit
exactly when one of them was lit (`hit_draw_iff`).

Both are first proved for one row (`lit_drawRow`, `hitsRow_iff`). There a column lies in the
byte where the row begins or in the byte after it, or else the row has no bit for it
(`bit_of_same`, `bit_of_next`, `bit_of_far`).
-/
import Chip8.Display

namespace Chip8.Display

set_option autoImplicit false

/-! ## Pixels and their bytes -/

/-- Pixels share a byte if they are in the same row and the same eight columns. -/
theorem place_eq_iff (d : Display) {px x : Nat} (py y : Nat) (hpx : px / 8 < d.stride)
    (hx : x / 8 < d.stride) : d.place px py = d.place x y ↔ py = y ∧ px / 8 = x / 8 := by
  constructor
  · intro same
    have row := congrArg (· / d.stride) same
    have column := congrArg (· % d.stride) same
    simp only [place, Nat.mul_comm _ d.stride, Nat.mul_add_div d.stride_pos, Nat.mul_add_mod,
      Nat.div_eq_of_lt hpx, Nat.div_eq_of_lt hx, Nat.mod_eq_of_lt hpx, Nat.mod_eq_of_lt hx,
      Nat.add_zero] at row column
    exact ⟨row, column⟩
  · rintro ⟨rfl, column⟩
    rw [place, place, column]

theorem lit_eq (d : Display) {px py : Nat} (hpx : px < d.width) (hpy : py < d.height) :
    d.lit px py = (d.cell (d.place px py)).getMsbD (px % 8) := by
  rw [lit, decide_eq_true ⟨hpx, hpy⟩, Bool.true_and, place]

theorem lit_clear (d : Display) (px py : Nat) : d.clear.lit px py = false := by
  have dark : d.clear.cell (py * d.stride + px / 8) = 0 := by
    rw [cell, clear, Array.getD_eq_getD_getElem?, Array.getElem?_replicate]
    split <;> rfl
  have row : py * d.clear.stride + px / 8 = py * d.stride + px / 8 := rfl
  rw [lit, row, dark]
  simp

/-- Toggling a byte toggles the pixels that its set bits stand for. -/
theorem lit_toggle (d : Display) {x y px py : Nat} (bits : Byte) (hx : x / 8 < d.stride)
    (hy : y < d.height) (hpx : px < d.width) (hpy : py < d.height) :
    (d.toggle (d.place x y) bits (d.place_lt hx hy)).lit px py =
      (d.lit px py ^^ (decide (py = y ∧ px / 8 = x / 8) && bits.getMsbD (px % 8))) := by
  have column : px / 8 < d.stride := by
    rw [width] at hpx
    omega
  have same := d.place_eq_iff py y column hx
  have place : (d.toggle (d.place x y) bits (d.place_lt hx hy)).place px py = d.place px py := rfl
  rw [lit_eq (d.toggle _ bits _) hpx hpy, lit_eq d hpx hpy, place, cell_toggle]
  by_cases here : d.place px py = d.place x y
  · rw [if_pos here.symm, decide_eq_true (same.1 here), Bool.true_and, BitVec.getMsbD_xor, here]
  · rw [if_neg (Ne.symm here), decide_eq_false (mt same.2 here), Bool.false_and, Bool.xor_false]

/-! ## One row of a sprite -/

/-- A sprite row that begins in column `x` has a set bit in column `px`. -/
def bit (x : Nat) (row : Byte) (px : Nat) : Bool := decide (x ≤ px) && row.getMsbD (px - x)

theorem bit_of_same {x px : Nat} (row : Byte) (same : px / 8 = x / 8) :
    (head x row).getMsbD (px % 8) = bit x row px := by
  rw [head, BitVec.getMsbD_ushiftRight, decide_eq_true (by omega), Bool.true_and, bit]
  by_cases before : x ≤ px
  · rw [decide_eq_false (by omega), decide_eq_true before, Bool.not_false,
      show px % 8 - x % 8 = px - x by omega]
  · rw [decide_eq_true (by omega), decide_eq_false before]
    rfl

theorem bit_of_next {x px : Nat} (row : Byte) (next : px / 8 = x / 8 + 1) :
    (row <<< (8 - x % 8)).getMsbD (px % 8) = bit x row px := by
  rw [BitVec.getMsbD_shiftLeft, bit, decide_eq_true (by omega), Bool.true_and,
    show px % 8 + (8 - x % 8) = px - x by omega]

theorem bit_of_far {x px : Nat} (row : Byte) (other : px / 8 ≠ x / 8)
    (beyond : px / 8 ≠ x / 8 + 1) : bit x row px = false := by
  rw [bit]
  by_cases before : x ≤ px
  · rw [BitVec.getMsbD_of_ge _ _ (by omega), Bool.and_false]
  · rw [decide_eq_false before, Bool.false_and]

theorem lit_drawRow (d : Display) {x y px py : Nat} (row : Byte) (hx : x / 8 < d.stride)
    (hy : y < d.height) (hpx : px < d.width) (hpy : py < d.height) :
    (d.drawRow x y row hx hy).lit px py = (d.lit px py ^^ (decide (py = y) && bit x row px)) := by
  have first := d.lit_toggle (head x row) hx hy hpx hpy
  have column : px / 8 < d.stride := by
    rw [width] at hpx
    omega
  rw [drawRow]
  by_cases next : x / 8 + 1 < d.stride
  · have second := (d.toggle (d.place x y) (head x row) (d.place_lt hx hy)).lit_toggle
      (x := x + 8) (d.tail x row) (by rw [stride_toggle]; omega) hy hpx hpy
    rw [dif_pos next]
    refine second.trans ?_
    rw [first, Bool.xor_assoc, tail, if_pos next]
    congr 1
    by_cases level : py = y
    · rcases Decidable.em (px / 8 = x / 8) with same | other
      · simp [level, same, bit_of_same row same]
      · rcases Decidable.em (px / 8 = x / 8 + 1) with after | beyond
        · simp [level, after, bit_of_next row after]
        · simp [level, other, beyond, bit_of_far row other beyond]
    · simp [level]
  · rw [dif_neg next, first]
    congr 1
    by_cases same : px / 8 = x / 8
    · simp [same, bit_of_same row same]
    · simp [same, bit_of_far row same (by omega)]

/-- Bytes meet where both have a bit. -/
theorem and_ne_zero_iff (a b : Byte) :
    (a &&& b != 0) = true ↔ ∃ k < 8, a.getMsbD k = true ∧ b.getMsbD k = true := by
  constructor
  · intro meet
    apply Decidable.by_contra
    intro apart
    have zero : a &&& b = 0 := by
      apply BitVec.eq_of_getMsbD_eq
      intro k hk
      rw [BitVec.getMsbD_and, BitVec.ofNat_eq_ofNat, BitVec.getMsbD_zero]
      cases ha : a.getMsbD k with
      | false => rfl
      | true =>
          cases hb : b.getMsbD k with
          | false => rfl
          | true => exact absurd ⟨k, hk, ha, hb⟩ apart
    simp [zero] at meet
  · rintro ⟨k, -, ha, hb⟩
    rw [bne_iff_ne]
    intro zero
    have none := congrArg (·.getMsbD k) zero
    simp [ha, hb] at none

theorem hitsRow_iff (d : Display) {x y : Nat} (row : Byte) (hx : x / 8 < d.stride)
    (hy : y < d.height) :
    d.hitsRow x y row = true ↔
      ∃ px < d.width, d.lit px y = true ∧ bit x row px = true := by
  have next : d.place x y + 1 = d.place (x + 8) y := by
    rw [place, place, Nat.add_div_right _ (by decide), Nat.add_succ, Nat.add_succ]
  rw [hitsRow, Bool.or_eq_true, and_ne_zero_iff, and_ne_zero_iff, next]
  constructor
  · rintro (⟨k, hk, set, meets⟩ | ⟨k, hk, set, meets⟩)
    · have byte : (8 * (x / 8) + k) / 8 = x / 8 := by omega
      have offset : (8 * (x / 8) + k) % 8 = k := by omega
      have inside : 8 * (x / 8) + k < d.width := by
        rw [width]
        omega
      refine ⟨8 * (x / 8) + k, inside, ?_, ?_⟩
      · rw [lit_eq d inside hy, (d.place_eq_iff y y (by omega) hx).2 ⟨rfl, byte⟩, offset, set]
      · rw [← bit_of_same row byte, offset, meets]
    · have more : x / 8 + 1 < d.stride := by
        apply Decidable.by_contra
        intro edge
        simp [tail, edge] at meets
      have byte : (8 * (x / 8 + 1) + k) / 8 = x / 8 + 1 := by omega
      have offset : (8 * (x / 8 + 1) + k) % 8 = k := by omega
      have inside : 8 * (x / 8 + 1) + k < d.width := by
        rw [width]
        omega
      rw [tail, if_pos more] at meets
      refine ⟨8 * (x / 8 + 1) + k, inside, ?_, ?_⟩
      · rw [lit_eq d inside hy, (d.place_eq_iff y y (x := x + 8) (by omega) (by omega)).2
          ⟨rfl, by omega⟩, offset, set]
      · rw [← bit_of_next row byte, offset, meets]
  · rintro ⟨px, inside, set, meets⟩
    have column : px / 8 < d.stride := by
      rw [width] at inside
      omega
    rw [lit_eq d inside hy] at set
    rcases Decidable.em (px / 8 = x / 8) with same | other
    · refine .inl ⟨px % 8, Nat.mod_lt _ (by decide), ?_, ?_⟩
      · rwa [← (d.place_eq_iff y y column hx).2 ⟨rfl, same⟩]
      · rwa [bit_of_same row same]
    · rcases Decidable.em (px / 8 = x / 8 + 1) with after | beyond
      · refine .inr ⟨px % 8, Nat.mod_lt _ (by decide), ?_, ?_⟩
        · rwa [← (d.place_eq_iff y y (x := x + 8) column (by omega)).2 ⟨rfl, by omega⟩]
        · rwa [tail, if_pos (by omega), bit_of_next row after]
      · rw [bit_of_far row other beyond] at meets
        cases meets

/-! ## Whole sprites -/

/-- A sprite with its corner in column `x` of row `y` has a set bit at a pixel. -/
def covers (x : Nat) (y : Int) (rows : List Byte) (px py : Nat) : Bool :=
  decide (y ≤ py) && bit x (rows.getD (py - y).toNat 0) px

theorem covers_nil (x : Nat) (y : Int) (px py : Nat) : covers x y [] px py = false := by
  simp [covers, bit]

/-- The first row is in row `y`, the others are below. -/
theorem covers_cons (x : Nat) (y : Int) (row : Byte) (rest : List Byte) (px py : Nat) :
    covers x y (row :: rest) px py =
      if (py : Int) = y then bit x row px else covers x (y + 1) rest px py := by
  by_cases level : (py : Int) = y
  · simp [covers, level]
  · rw [if_neg level, covers, covers]
    by_cases below : y + 1 ≤ py
    · rw [decide_eq_true below, decide_eq_true (by omega),
        show (py - y).toNat = (py - (y + 1)).toNat + 1 by omega, List.getD_cons_succ]
    · rw [decide_eq_false below, decide_eq_false (by omega), Bool.false_and, Bool.false_and]

theorem lit_draw (d : Display) {x : Nat} (y : Int) (hx : x / 8 < d.stride) (rows : List Byte)
    {px py : Nat} (hpx : px < d.width) (hpy : py < d.height) :
    (d.draw x y hx rows).2.lit px py = (d.lit px py ^^ covers x y rows px py) := by
  induction rows generalizing d y with
  | nil => rw [draw, covers_nil, Bool.xor_false]
  | cons row rest ih =>
      rw [draw, covers_cons]
      split
      · rename_i inside
        have width' : (d.drawRow x y.toNat row hx (by omega)).width = d.width := by
          rw [width, width, stride_drawRow]
        refine (ih (d.drawRow x y.toNat row hx (by omega)) (y + 1) _ (by rwa [width'])
          (by rwa [height_drawRow])).trans ?_
        rw [lit_drawRow d row hx (by omega) hpx hpy, Bool.xor_assoc]
        congr 1
        by_cases level : (py : Int) = y
        · have above : covers x (y + 1) rest px py = false := by
            rw [covers, decide_eq_false (by omega), Bool.false_and]
          rw [if_pos level, decide_eq_true (by omega), Bool.true_and, above, Bool.xor_false]
        · rw [if_neg level, decide_eq_false (by omega), Bool.false_and, Bool.false_xor]
      · rename_i outside
        rw [if_neg (by omega)]
        exact ih d (y + 1) hx hpx hpy

/-- A drawing hits when the sprite has a set bit at a lit pixel. -/
theorem hit_draw_iff (d : Display) {x : Nat} (y : Int) (hx : x / 8 < d.stride)
    (rows : List Byte) :
    (d.draw x y hx rows).1 = true ↔
      ∃ px py, px < d.width ∧ py < d.height ∧ d.lit px py = true ∧
        covers x y rows px py = true := by
  induction rows generalizing d y with
  | nil => simp [draw, covers_nil]
  | cons row rest ih =>
      rw [draw]
      split
      · rename_i inside
        have hy : y.toNat < d.height := by omega
        have level (py : Nat) : (py : Int) = y ↔ py = y.toNat := by omega
        have off {py : Nat} (other : ¬(py : Int) = y) : ¬py = y.toNat := by omega
        have beneath {py : Nat} (lower : y + 1 ≤ py) : ¬(py : Int) = y := by omega
        have width' : (d.drawRow x y.toNat row hx hy).width = d.width := by
          rw [width, width, stride_drawRow]
        have below := ih (d.drawRow x y.toNat row hx hy) (y + 1) (by rw [stride_drawRow]; exact hx)
        rw [width', height_drawRow] at below
        simp only [Bool.or_eq_true]
        rw [hitsRow_iff d row hx hy, below]
        constructor
        · rintro (⟨px, hpx, set, meets⟩ | ⟨px, py, hpx, hpy, set, meets⟩)
          · refine ⟨px, y.toNat, hpx, hy, set, ?_⟩
            rw [covers_cons, if_pos ((level _).2 rfl), meets]
          · -- the rows below are as they were before the first row was drawn
            have lower : y + 1 ≤ py := by
              apply Decidable.by_contra
              intro above
              simp [covers, above] at meets
            rw [lit_drawRow d row hx hy hpx hpy, decide_eq_false (off (beneath lower)),
              Bool.false_and, Bool.xor_false] at set
            exact ⟨px, py, hpx, hpy, set, by rw [covers_cons, if_neg (beneath lower), meets]⟩
        · rintro ⟨px, py, hpx, hpy, set, meets⟩
          rw [covers_cons] at meets
          split at meets
          · rename_i here
            exact .inl ⟨px, hpx, (level py).1 here ▸ set, meets⟩
          · rename_i other
            refine .inr ⟨px, py, hpx, hpy, ?_, meets⟩
            rw [lit_drawRow d row hx hy hpx hpy, decide_eq_false (off other), Bool.false_and,
              Bool.xor_false, set]
      · rename_i outside
        rw [ih d (y + 1) hx]
        refine exists_congr fun px => exists_congr fun py => ?_
        refine and_congr_right fun _ => and_congr_right fun hpy => and_congr_right fun _ => ?_
        rw [covers_cons, if_neg (by omega)]

end Chip8.Display
