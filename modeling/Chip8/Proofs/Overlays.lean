/-
# Chip8.Proofs.Overlays — sprites over sprites

A sprite is added to the screen without carry. So it does not matter in which order sprites are
drawn (`stamp_comm`), and a sprite drawn twice is as good as not drawn (`stamp_stamp`), however
the sprites overlap, wrap around or are cut off. Both hold pixel by pixel, and a display is no
more than its pixels (`eq_of_lit`).

`blits_overlay` says this for lists of sprites, drawn as the host draws them, one after another.
-/
import Chip8.Proofs.Sprites

namespace Chip8.Display

set_option autoImplicit false

/-! ## A display is its pixels -/

/-- The row of a byte. -/
theorem row_lt (d : Display) {k : Nat} (inside : k < d.cells.size) : k / d.stride < d.height := by
  rw [d.size_cells] at inside
  exact Nat.div_lt_of_lt_mul inside

/-- The columns of a byte. -/
theorem column_of_cell_lt (d : Display) (k : Nat) {j : Nat} (low : j < 8) :
    8 * (k % d.stride) + j < d.width := by
  have column : k % d.stride < d.stride := Nat.mod_lt k d.stride_pos
  rw [width]
  omega

/-- The pixels of a byte, from the left. -/
theorem getMsbD_cell (d : Display) {k j : Nat} (inside : k < d.cells.size) (low : j < 8) :
    d.lit (8 * (k % d.stride) + j) (k / d.stride) = (d.cell k).getMsbD j := by
  have byte : d.place (8 * (k % d.stride) + j) (k / d.stride) = k := by
    rw [place, show (8 * (k % d.stride) + j) / 8 = k % d.stride by omega]
    exact Nat.div_add_mod' k d.stride
  rw [d.lit_eq (d.column_of_cell_lt k low) (d.row_lt inside), byte,
    show (8 * (k % d.stride) + j) % 8 = j by omega]

/-- Displays of one size are equal if their pixels are. -/
theorem eq_of_lit {d e : Display} (stride : d.stride = e.stride) (height : d.height = e.height)
    (same : ∀ px py, px < d.width → py < d.height → d.lit px py = e.lit px py) : d = e := by
  have size : d.cells.size = e.cells.size := by rw [d.size_cells, e.size_cells, stride, height]
  have cells : d.cells = e.cells := by
    apply Array.ext size
    intro k hd he
    have bytes : d.cell k = e.cell k := by
      apply BitVec.eq_of_getMsbD_eq
      intro j low
      rw [← getMsbD_cell d hd low, ← getMsbD_cell e he low, ← stride]
      exact same _ _ (d.column_of_cell_lt k low) (d.row_lt hd)
    simpa [cell, hd, he] using bytes
  cases d
  cases e
  simp_all

/-! ## Sprites -/

structure Sprite where
  x : Int
  y : Int
  rows : List Int
  short : rows.length ≤ 15

namespace Sprite

def bytes (s : Sprite) : List Byte := s.rows.map (BitVec.ofInt 8)

/-- On a screen of the given width two sprites have the same bits at the same pixels. -/
structure Same (width : Nat) (s t : Sprite) : Prop where
  rows : s.rows = t.rows
  y : s.y = t.y
  column : s.x % width = t.x % width

end Sprite

def coveredBy (d : Display) (s : Sprite) (px py : Nat) : Bool :=
  covers (s.x % d.width).toNat s.y s.bytes px py

/-- The display with a sprite drawn, and whether it met a lit pixel. -/
def drawSprite (d : Display) (s : Sprite) : Bool × Display :=
  d.draw (s.x % d.width).toNat s.y (d.column_lt s.x) s.bytes

def stamp (d : Display) (s : Sprite) : Display := (d.drawSprite s).2

def blits (d : Display) (sprites : List Sprite) : Except Refusal Display :=
  sprites.foldlM (fun d s => (d.blit s.x s.y s.bytes).map (·.2)) d

theorem blit_eq (d : Display) (s : Sprite) : d.blit s.x s.y s.bytes = .ok (d.drawSprite s) :=
  blit_of_short d s.x s.y s.short

/-- Sprites are drawn without fail. -/
theorem blits_eq (d : Display) (sprites : List Sprite) :
    d.blits sprites = .ok (sprites.foldl stamp d) := by
  induction sprites generalizing d with
  | nil => rfl
  | cons s rest ih =>
      rw [blits, List.foldlM_cons, blit_eq]
      exact ih (d.stamp s)

variable (d : Display) (s t : Sprite)

@[simp] theorem stride_stamp : (d.stamp s).stride = d.stride := stride_draw ..

@[simp] theorem height_stamp : (d.stamp s).height = d.height := height_draw ..

@[simp] theorem width_stamp : (d.stamp s).width = d.width := by rw [width, width, stride_stamp]

/-- What was drawn before does not move a sprite. -/
@[simp] theorem coveredBy_stamp : (d.stamp t).coveredBy s = d.coveredBy s := by
  funext px py
  rw [coveredBy, coveredBy, width_stamp]

theorem coveredBy_congr {s t : Sprite} (same : s.Same d.width t) :
    d.coveredBy s = d.coveredBy t := by
  funext px py
  rw [coveredBy, coveredBy, Sprite.bytes, Sprite.bytes, same.rows, same.y, same.column]

theorem lit_stamp {px py : Nat} (hpx : px < d.width) (hpy : py < d.height) :
    (d.stamp s).lit px py = (d.lit px py ^^ d.coveredBy s px py) :=
  lit_draw d s.y (d.column_lt s.x) s.bytes hpx hpy

/-- The answer of a drawing. -/
theorem hit_drawSprite_iff :
    (d.drawSprite s).1 = true ↔ ∃ px py, px < d.width ∧ py < d.height ∧ d.lit px py = true ∧
      d.coveredBy s px py = true :=
  hit_draw_iff d s.y (d.column_lt s.x) s.bytes

/-! ## Two sprites -/

theorem lit_stamp_stamp {px py : Nat} (hpx : px < d.width) (hpy : py < d.height) :
    ((d.stamp s).stamp t).lit px py =
      ((d.lit px py ^^ d.coveredBy s px py) ^^ d.coveredBy t px py) := by
  rw [lit_stamp _ t (by simpa using hpx) (by simpa using hpy), lit_stamp d s hpx hpy,
    coveredBy_stamp]

/-- Sprites can be exchanged. -/
theorem stamp_comm : (d.stamp s).stamp t = (d.stamp t).stamp s := by
  apply eq_of_lit
  · simp
  · simp
  · intro px py hpx hpy
    simp only [width_stamp, height_stamp] at hpx hpy
    rw [lit_stamp_stamp d s t hpx hpy, lit_stamp_stamp d t s hpx hpy]
    exact Bool.xor_right_comm ..

/-- A sprite takes itself away. -/
theorem stamp_stamp {s t : Sprite} (same : s.Same d.width t) : (d.stamp s).stamp t = d := by
  apply eq_of_lit
  · simp
  · simp
  · intro px py hpx hpy
    simp only [width_stamp, height_stamp] at hpx hpy
    rw [lit_stamp_stamp d s t hpx hpy, d.coveredBy_congr same, Bool.xor_assoc, Bool.xor_self,
      Bool.xor_false]

/-- Of a sprite drawn twice, each pixel that it has on the screen is met once. -/
theorem hit_or_hit_iff :
    (d.drawSprite s).1 = true ∨ ((d.stamp s).drawSprite s).1 = true ↔
      ∃ px py, px < d.width ∧ py < d.height ∧ d.coveredBy s px py = true := by
  rw [hit_drawSprite_iff, hit_drawSprite_iff, width_stamp, height_stamp, coveredBy_stamp]
  constructor
  · rintro (⟨px, py, hpx, hpy, -, meets⟩ | ⟨px, py, hpx, hpy, -, meets⟩)
    · exact ⟨px, py, hpx, hpy, meets⟩
    · exact ⟨px, py, hpx, hpy, meets⟩
  · rintro ⟨px, py, hpx, hpy, meets⟩
    cases set : d.lit px py with
    | true => exact .inl ⟨px, py, hpx, hpy, set, meets⟩
    | false =>
        refine .inr ⟨px, py, hpx, hpy, ?_, meets⟩
        rw [lit_stamp d s hpx hpy, set, meets]
        rfl

/-! ## Lists of sprites -/

/-- The order of sprites does not matter. -/
theorem foldl_stamp_perm {ss ts : List Sprite} (perm : ss.Perm ts) :
    ss.foldl stamp d = ts.foldl stamp d := by
  apply perm.foldl_eq'
  intro s _ t _ e
  exact e.stamp_comm s t

/-- Two sprites that are the same can be left out, wherever they are in the list. -/
theorem foldl_stamp_pair {s t : Sprite} (same : s.Same d.width t)
    (before between behind : List Sprite) :
    (before ++ s :: (between ++ t :: behind)).foldl stamp d =
      (before ++ (between ++ behind)).foldl stamp d := by
  have front : (before ++ s :: (between ++ t :: behind)).Perm
      (s :: t :: (before ++ (between ++ behind))) := by
    refine List.perm_middle.trans (.cons s ?_)
    rw [← List.append_assoc before between (t :: behind), ← List.append_assoc before between behind]
    exact List.perm_middle
  rw [foldl_stamp_perm d front]
  show (before ++ (between ++ behind)).foldl stamp ((d.stamp s).stamp t) = _
  rw [stamp_stamp d same]

/-- The algebra of drawing. What a list of sprites makes of a display does not depend on their
order, and any two of them that are the same can be left out. A sprite drawn twice restores the
display, and one of the two drawings meets a lit pixel unless the sprite has no bit on the
screen. -/
theorem blits_overlay (d : Display) :
    (∀ ss ts : List Sprite, ss.Perm ts → ∃ after, d.blits ss = .ok after ∧ d.blits ts = .ok after) ∧
    (∀ (s t : Sprite) (before between behind : List Sprite), s.Same d.width t →
      ∃ after, d.blits (before ++ s :: (between ++ t :: behind)) = .ok after ∧
        d.blits (before ++ (between ++ behind)) = .ok after) ∧
    ∀ s : Sprite, ∃ hit hit' once, d.blit s.x s.y s.bytes = .ok (hit, once) ∧
      once.blit s.x s.y s.bytes = .ok (hit', d) ∧
      (hit = true ∨ hit' = true ↔
        ∃ px py, px < d.width ∧ py < d.height ∧ Stamps d.width s.x s.y s.rows px py) := by
  refine ⟨?_, ?_, ?_⟩
  · intro ss ts perm
    refine ⟨_, d.blits_eq ss, ?_⟩
    rw [blits_eq, foldl_stamp_perm d perm]
  · intro s t before between behind same
    refine ⟨_, d.blits_eq _, ?_⟩
    rw [blits_eq, foldl_stamp_pair d same]
  · intro s
    have restored : ((d.stamp s).drawSprite s).2 = d := stamp_stamp d ⟨rfl, rfl, rfl⟩
    refine ⟨(d.drawSprite s).1, ((d.stamp s).drawSprite s).1, d.stamp s, d.blit_eq s, ?_, ?_⟩
    · rw [blit_eq]
      exact congrArg (fun e => Except.ok (_, e)) restored
    · simp only [hit_or_hit_iff, coveredBy, Sprite.bytes, covers_iff_stamps]

/-- Two bars that wrap around to the same column, with a block between them that straddles two
bytes and meets both: the block alone remains, and the order does not matter. -/
theorem blits_overlay_of_bars :
    let left : Sprite := ⟨-3, 4, [0xE0, 0xE0], by decide⟩
    let right : Sprite := ⟨61, 4, [0xE0, 0xE0], by decide⟩
    let block : Sprite := ⟨60, 5, [0xFF], by decide⟩
    [left, block, right].Perm [block, right, left] ∧ left.Same standard.width right ∧
    (∃ after, standard.blits [left, block, right] = .ok after ∧
      standard.blits [block, right, left] = .ok after) ∧
    ∃ after, standard.blits [left, block, right] = .ok after ∧
      standard.blits [block] = .ok after := by
  intro left right block
  have perm : [left, block, right].Perm [block, right, left] :=
    @List.perm_append_comm _ [left] [block, right]
  have same : left.Same standard.width right := ⟨rfl, rfl, by decide⟩
  obtain ⟨orders, pairs, -⟩ := blits_overlay standard
  exact ⟨perm, same, orders _ _ perm, pairs left right [] [block] [] same⟩

end Chip8.Display
