/-
# Chip8.Proofs.Simulation — the machine does what the manual says

A step that succeeds takes the machine of the manual that a machine stands for to its next
one (`next_ideal`), and a step fails only where the manual has none (`isSome_next_ideal_iff`).
The parts come first: what bytes, bits, blocks, keys and pixels are as numbers and sets. Then
each operation is compared with its counterpart (`perform_ideal`).

What the two sides do not share is where the work is. A register may be `Vx`, `Vy` and `VF`
at once, so the order of the writes counts; a stack keeps old addresses in its slots; the
program counter is reduced modulo 65536, which the bound on fetched opcodes makes vanish.
-/
import Mathlib.Data.List.GetD
import Chip8.Machine.Run
import Chip8.Proofs.Bounds
import Chip8.Proofs.Faults
import Chip8.Proofs.Ideal
import Chip8.Proofs.Pixels
import Chip8.Proofs.Stack
import Chip8.Proofs.Step

namespace Chip8

set_option autoImplicit false

/-! ## Bytes and words -/

namespace Byte

variable (a b : Byte)

theorem beq_eq : (a == b) = decide (a.toNat = b.toNat) := by
  rw [Bool.eq_iff_iff, beq_iff_eq, decide_eq_true_iff, BitVec.toNat_inj]

theorem bne_eq : (a != b) = decide (a.toNat ≠ b.toNat) := by
  rw [bne, beq_eq, decide_not]

theorem toNat_sub : (a - b).toNat = (256 + a.toNat - b.toNat) % 256 := by
  have := b.isLt
  rw [BitVec.toNat_sub]
  congr 1
  omega

theorem toNat_half : (a >>> 1).toNat = a.toNat / 2 := by
  rw [BitVec.toNat_ushiftRight, Nat.shiftRight_eq_div_pow]

theorem toNat_double : (a <<< 1).toNat = 2 * a.toNat % 256 := by
  rw [BitVec.toNat_shiftLeft, Nat.shiftLeft_eq, Nat.mul_comm]

theorem lowBit_eq : (a &&& 0x01 != 0) = decide (a.toNat % 2 = 1) := by
  revert a
  decide +kernel

theorem highBit_eq : (a &&& 0x80 != 0) = decide (128 ≤ a.toNat) := by
  revert a
  decide +kernel

theorem toNat_digits : (Operation.digits a).map (·.toNat) =
    [a.toNat / 100, a.toNat % 100 / 10, a.toNat % 10] := by
  revert a
  decide +kernel

/-- The bits of a byte from the left are those of its number from the right. -/
theorem getMsbD_eq {k : Nat} (inside : k < 8) : a.getMsbD k = a.toNat.testBit (7 - k) := by
  rw [BitVec.getMsbD_eq_getLsbD, decide_eq_true inside, Bool.true_and, BitVec.testBit_toNat]

end Byte

theorem Generator.toNat_next (s : BitVec 32) : (next s).toNat = Ideal.shuffle s.toNat := by
  simp only [next, mixLeft, mixRight, Ideal.shuffle, BitVec.toNat_xor, BitVec.toNat_shiftLeft,
    BitVec.toNat_ushiftRight]

theorem Generator.toNat_byte (g : Generator) :
    g.byte.1.toNat = Ideal.shuffle g.state.toNat % 256 := by
  rw [← toNat_next]
  exact BitVec.toNat_setWidth ..

/-! ## Opcodes -/

namespace Opcode

variable (w : Opcode)

theorem toNat_nn' : w.toNat % 256 = (nn w).toNat := by
  rw [nn, BitVec.toNat_setWidth]

theorem n_eq : w.toNat % 16 = (n w).val := by
  change w.toNat % 16 = w.toNat / 16 ^ 0 % 16
  rw [Nat.pow_zero, Nat.div_one]

end Opcode

/-! ## Keys -/

namespace Keypad

theorem pressed_eq_ok {p : Keypad} {b : Byte} {down : Bool} (asked : p.pressed b.toNat = .ok down) :
    b.toNat < 16 ∧ down = decide (∃ k ∈ p.downKeys, k.val = b.toNat) := by
  unfold pressed index at asked
  split at asked
  · rename_i inside
    cases asked
    refine ⟨by omega, ?_⟩
    rw [Bool.eq_iff_iff, decide_eq_true_iff]
    constructor
    · intro held
      exact ⟨_, by simpa [downKeys] using held, by simp⟩
    · rintro ⟨k, held, same⟩
      have same' : k = ⟨(b.toNat : Int).toNat, by omega⟩ := Fin.ext (by simpa using same)
      rw [← same']
      simpa [downKeys] using held
  · cases asked

theorem first?_eq_none {p : Keypad} (up : p.first? = none) : ¬p.downKeys.Nonempty := by
  rintro ⟨k, held⟩
  have := (first?_eq_none_iff p).1 up k
  simp_all [downKeys]

/-- The key that is found is the lowest one. -/
theorem first?_eq_some {p : Keypad} {k : Nibble} (found : p.first? = some k) :
    ∃ held : p.downKeys.Nonempty, p.downKeys.min' held = k := by
  obtain ⟨down, before⟩ := (first?_eq_some_iff p k).1 found
  have mem : k ∈ p.downKeys := by simpa [downKeys] using down
  refine ⟨⟨k, mem⟩, le_antisymm (Finset.min'_le _ k mem) (Finset.le_min' _ _ _ ?_)⟩
  intro j held
  refine le_of_not_gt fun lower => ?_
  have := before j lower
  simp_all [downKeys]

end Keypad

/-! ## Pixels -/

namespace Display

structure Screen (d : Display) : Prop where
  stride : d.stride = 8
  height : d.height = 32

theorem Screen.width {d : Display} (h : d.Screen) : d.width = 64 := by
  rw [Display.width, h.stride]

theorem mem_litPixels {d : Display} {p : Pixel} : p ∈ d.litPixels ↔ d.lit p.1 p.2 = true := by
  unfold litPixels
  exact Finset.mem_filter_univ p

theorem litPixels_clear (d : Display) : d.clear.litPixels = ∅ := by
  ext p
  simp [mem_litPixels, lit_clear]

@[irreducible] def covered (x : Nat) (y : Int) (rows : List Byte) : Finset Pixel :=
  Finset.univ.filter fun p => covers x y rows p.1 p.2

theorem mem_covered {x : Nat} {y : Int} {rows : List Byte} {p : Pixel} :
    p ∈ covered x y rows ↔ covers x y rows p.1 p.2 = true := by
  unfold covered
  exact Finset.mem_filter_univ p

theorem litPixels_draw {d : Display} (h : d.Screen) {x : Nat} (y : Int) (hx : x / 8 < d.stride)
    (rows : List Byte) :
    (d.draw x y hx rows).2.litPixels = symmDiff d.litPixels (covered x y rows) := by
  ext p
  have column : p.1.val < d.width := by rw [h.width]; exact p.1.isLt
  have row : p.2.val < d.height := by rw [h.height]; exact p.2.isLt
  rw [Finset.mem_symmDiff, mem_litPixels, mem_litPixels, lit_draw d y hx rows column row,
    mem_covered]
  cases d.lit p.1 p.2 <;> cases covers x y rows p.1 p.2 <;> simp

theorem hit_draw {d : Display} (h : d.Screen) {x : Nat} (y : Int) (hx : x / 8 < d.stride)
    (rows : List Byte) :
    (d.draw x y hx rows).1 = decide (¬Disjoint d.litPixels (covered x y rows)) := by
  rw [Bool.eq_iff_iff, hit_draw_iff, decide_eq_true_iff, Finset.not_disjoint_iff, h.width, h.height]
  constructor
  · rintro ⟨px, py, hpx, hpy, set, meets⟩
    exact ⟨(⟨px, hpx⟩, ⟨py, hpy⟩), mem_litPixels.2 set, mem_covered.2 meets⟩
  · rintro ⟨p, set, meets⟩
    exact ⟨p.1, p.2, p.1.isLt, p.2.isLt, mem_litPixels.1 set, mem_covered.1 meets⟩

end Display

/-- The bytes of a block, and zero behind it. -/
theorem Memory.getD_peeks (m : Memory) (a n k : Nat) :
    (m.peeks a n).getD k 0 = if k < n then m.byte (a + k) else 0 := by
  rw [List.getD_eq_getElem?_getD, getElem?_peeks]
  split <;> rfl

theorem Ideal.mem_sprite {a : Ideal} {x y n : Nat} {p : Pixel} :
    p ∈ a.sprite x y n ↔
      x ≤ p.1 ∧ p.1 < x + 8 ∧ y ≤ p.2 ∧ p.2 < y + n ∧
        (a.memory (a.i + (p.2 - y))).testBit (7 - (p.1 - x)) = true := by
  unfold sprite
  exact Finset.mem_filter_univ p

/-- The sprite of the manual is the one in the memory of the machine. -/
theorem Machine.sprite_eq (m : Machine) (x y n : Nat) :
    m.ideal.sprite x y n = Display.covered x y (m.memory.peeks m.registers.i.toNat n) := by
  ext p
  rw [Ideal.mem_sprite, Display.mem_covered, Display.covers, Display.bit, Memory.getD_peeks]
  change _ ∧ _ ∧ _ ∧ _ ∧
    (m.memory.byte (m.registers.i.toNat + (p.2.val - y))).toNat.testBit _ = _ ↔ _
  by_cases left : x ≤ p.1.val
  · by_cases right : p.1.val < x + 8
    · by_cases above : y ≤ p.2.val
      · have offset : ((p.2.val : Int) - y).toNat = p.2.val - y := by omega
        rw [offset, Byte.getMsbD_eq _ (by omega)]
        by_cases below : p.2.val < y + n
        · simp [left, right, above, below, show p.2.val - y < n by omega]
        · simp [below, show ¬p.2.val - y < n by omega]
      · simp [above]
    · simp [right, BitVec.getMsbD_of_ge _ _ (show 8 ≤ p.1.val - x by omega)]
  · simp [left]

/-! ## Parts of machines -/

namespace Machine

variable {m : Machine}

theorem ideal_put (m : Machine) (x : Nibble) (value : Byte) :
    (m.put x value).ideal = m.ideal.put x value.toNat := by
  ext1 <;> try rfl
  funext k
  change ((m.registers.set x value).get k).toNat =
    Function.update (fun k => (m.registers.get k).toNat) x value.toNat k
  rw [Registers.get_set, Function.update_apply]
  by_cases same : x = k
  · rw [if_pos same, if_pos same.symm]
  · rw [if_neg same, if_neg (Ne.symm same)]

theorem ideal_setFlag (m : Machine) (flag : Bool) :
    { m with registers := m.registers.setFlag flag }.ideal = m.ideal.flag flag := by
  refine (ideal_put m Registers.flagIndex (if flag then 1 else 0)).trans ?_
  cases flag <;> rfl

theorem ideal_putThenFlag (m : Machine) (x : Nibble) (value : Byte) (flag : Bool) :
    (Operation.putThenFlag m x value flag).ideal = (m.ideal.put x value.toNat).flag flag := by
  rw [← ideal_put]
  exact ideal_setFlag (m.put x value) flag

theorem ideal_flagThenPut (m : Machine) (x : Nibble) (value : Byte) (flag : Bool) :
    (Operation.flagThenPut m x value flag).ideal = (m.ideal.flag flag).put x value.toNat := by
  rw [← ideal_setFlag]
  exact ideal_put { m with registers := m.registers.setFlag flag } x value

/-- The program counter is where an opcode can be fetched. -/
structure AtWord (m : Machine) : Prop where
  nonneg : 0 ≤ m.registers.pc
  below : m.registers.pc ≤ 4094

theorem ideal_jump (m : Machine) (pc : Int) :
    (m.jump pc).ideal = { m.ideal with pc := pc.toNat } := rfl

theorem AtWord.skip (h : m.AtWord) : m.skip = m.jump (m.registers.pc + 2) := by
  have below := h.below
  exact Machine.skip_of_lt h.nonneg (by omega)

theorem AtWord.ideal_skip (h : m.AtWord) : m.skip.ideal = m.ideal.pass := by
  have nonneg := h.nonneg
  have two : (m.registers.pc + 2).toNat = m.registers.pc.toNat + 2 := by omega
  rw [h.skip, ideal_jump, two]
  rfl

theorem AtWord.ideal_skippedIf (h : m.AtWord) (condition : Bool) :
    (Operation.skippedIf condition m.skip).ideal = m.ideal.skipIf condition := by
  cases condition with
  | false => exact h.ideal_skip
  | true =>
      have nonneg := h.nonneg
      have below := h.below
      have four : ((m.registers.pc + 2 + 2) % 0x10000).toNat = m.registers.pc.toNat + 4 := by omega
      rw [h.skip]
      change ((m.jump (m.registers.pc + 2)).jump ((m.registers.pc + 2 + 2) % 0x10000)).ideal = _
      rw [ideal_jump, four]
      rfl

theorem ideal_point (m : Machine) (i : Int) :
    (m.point i).ideal = { m.ideal with i := i.toNat } := rfl

theorem ideal_readBlock {n : Nat} {values : List Byte} (size : m.memory.size = 4096)
    (read : m.memory.readBlock m.registers.i n = .ok values) :
    Ideal.Inside m.ideal.i n ∧ values = m.memory.peeks m.registers.i.toNat n := by
  obtain ⟨nonneg, below, fits, rfl⟩ := Memory.readBlock_eq_ok read
  rw [size] at below fits
  have index : m.ideal.i = m.registers.i.toNat := rfl
  exact ⟨⟨by omega, by omega⟩, rfl⟩

/-- A block that is written changes the map of memory in its place only. -/
theorem ideal_writeBlock {memory : Memory} {values : List Byte} (size : m.memory.size = 4096)
    (written : m.memory.writeBlock m.registers.i values = .ok memory) :
    Ideal.Inside m.ideal.i values.length ∧
      { m with memory }.ideal = m.ideal.write (values.map (·.toNat)) := by
  obtain ⟨nonneg, below, fits, rfl⟩ := Memory.writeBlock_eq_ok written
  rw [size] at below fits
  have index : m.ideal.i = m.registers.i.toNat := rfl
  refine ⟨⟨by omega, by omega⟩, ?_⟩
  ext1 <;> try rfl
  funext b
  change ((m.memory.pokes m.registers.i.toNat values).byte b).toNat =
    if m.registers.i.toNat ≤ b ∧ b < m.registers.i.toNat + (values.map (·.toNat)).length
    then (values.map (·.toNat)).getD (b - m.registers.i.toNat) 0 else (m.memory.byte b).toNat
  rw [Memory.byte_pokes _ _ _ _ (by omega), List.length_map]
  split
  · exact (List.getD_map values (0 : Byte) BitVec.toNat).symm
  · rfl

/-- What a drawing leaves. -/
theorem ideal_drawn (screen : m.display.Screen) (vx vy : Byte) (n : Nat) :
    (Operation.drawn m vx vy (m.memory.peeks m.registers.i.toNat n)).ideal =
      m.ideal.draw vx.toNat vy.toNat n := by
  have column : (vx.toNat % m.display.width : Int).toNat = vx.toNat % 64 := by
    rw [screen.width]
    omega
  have pixels : m.ideal.sprite (vx.toNat % 64) vy.toNat n =
      Display.covered (vx.toNat % m.display.width : Int).toNat vy.toNat
        (m.memory.peeks m.registers.i.toNat n) := by
    rw [column, sprite_eq]
  rw [Ideal.draw, pixels]
  generalize m.memory.peeks m.registers.i.toNat n = rows
  have hx := m.display.column_lt vx.toNat
  have drawn := Display.litPixels_draw screen vy.toNat hx rows
  have hit := Display.hit_draw screen vy.toNat hx rows
  refine (ideal_setFlag { m with
    display := (m.display.draw _ vy.toNat hx rows).2, redraw := true } _).trans ?_
  rw [hit]
  congr 1
  ext1 <;> try rfl
  exact drawn

theorem ideal_calls_of_push {stack : Stack} {address : Int}
    (pushed : m.stack.push address = .ok stack) :
    { m with stack }.ideal.calls = (address % 65536).toNat :: m.ideal.calls := by
  change (stack.live.map (·.toNat)).reverse = _
  rw [Stack.live_of_push pushed, List.map_append, List.reverse_append]
  change (BitVec.ofInt 16 address).toNat :: _ = _
  rw [BitVec.toNat_ofInt]
  rfl

theorem ideal_calls_of_pop {stack : Stack} {address : Word}
    (popped : m.stack.pop = .ok (address, stack)) :
    m.ideal.calls = address.toNat :: { m with stack }.ideal.calls := by
  change (m.stack.live.map (·.toNat)).reverse = _
  rw [Stack.live_of_pop popped, List.map_append, List.reverse_append]
  rfl

/-- The registers that are saved, as numbers. -/
theorem map_saved (r : Registers) (x : Nibble) :
    (Operation.saved r x).map (·.toNat) =
      ((List.finRange 16).take (x.val + 1)).map fun k => (r.get k).toNat := by
  have all : r.v.toList = (List.finRange 16).map r.get := by
    apply List.ext_getElem
    · simp
    · intro k _ _
      simp [Registers.get]
  rw [Operation.saved, all, ← List.map_take, List.map_map]
  rfl

theorem get_restored (r : Registers) (memory : Memory) (a : Nat) (x k : Nibble) :
    ((Operation.restored r (memory.peeks a (x.val + 1))).get k).toNat =
      if k ≤ x then (memory.byte (a + k)).toNat else (r.get k).toNat := by
  rw [Operation.get_restored_peeks]
  split <;> rfl

/-- A machine of the standard sizes whose index is not negative. -/
structure Fits (m : Machine) : Prop where
  size : m.memory.size = 4096
  screen : m.display.Screen
  capacity : m.stack.capacity = 16
  index : 0 ≤ m.registers.i

end Machine

/-! ## Operations -/

theorem Operation.toNat_shifted (dialect : Dialect) (w : Opcode) (m : Machine) :
    (shifted dialect w m).toNat =
      if dialect.shiftsVy then m.ideal.v (Opcode.y w) else m.ideal.v (Opcode.x w) := by
  rw [shifted]
  split <;> rfl

/-- An operation on a machine is the operation of the manual on what it stands for. -/
theorem Operation.perform_ideal (dialect : Dialect) (w : Opcode) {m after : Machine}
    (h : m.Fits) (word : m.AtWord) {o : Operation}
    (done : o.apply dialect w m.skip = .ok after) :
    m.ideal.perform dialect w.toNat o = some after.ideal := by
  have pass := word.ideal_skip
  have put (x : Nibble) (value : Byte) :
      (m.skip.put x value).ideal = m.ideal.pass.put x value.toNat := by
    rw [Machine.ideal_put, pass]
  cases o with
  | clear =>
      cases done
      change some _ = some _
      rw [← pass, ← Display.litPixels_clear m.skip.display]
      rfl
  | ret =>
      obtain ⟨address, stack, popped, rfl⟩ := ret_eq_ok done
      have calls := Machine.ideal_calls_of_pop (m := m) popped
      simp only [Ideal.perform, calls]
      rfl
  | sys =>
      cases done
      exact congrArg some pass.symm
  | jump =>
      cases done
      rfl
  | skipEqualByte =>
      cases done
      rw [word.ideal_skippedIf, Byte.beq_eq, ← Opcode.toNat_nn']
      rfl
  | skipUnequalByte =>
      cases done
      rw [word.ideal_skippedIf, Byte.bne_eq, ← Opcode.toNat_nn']
      rfl
  | skipEqual =>
      cases done
      rw [word.ideal_skippedIf, Byte.beq_eq]
      rfl
  | skipUnequal =>
      cases done
      rw [word.ideal_skippedIf, Byte.bne_eq]
      rfl
  | loadByte =>
      cases done
      rw [put, ← Opcode.toNat_nn']
      rfl
  | addByte =>
      cases done
      rw [put, BitVec.toNat_add, ← Opcode.toNat_nn']
      rfl
  | load =>
      cases done
      rw [put]
      rfl
  | or =>
      cases done
      rw [put, BitVec.toNat_or]
      rfl
  | and =>
      cases done
      rw [put, BitVec.toNat_and]
      rfl
  | xor =>
      cases done
      rw [put, BitVec.toNat_xor]
      rfl
  | add =>
      cases done
      rw [Machine.ideal_putThenFlag, pass, BitVec.toNat_add]
      rfl
  | subtract =>
      cases done
      rw [Machine.ideal_putThenFlag, pass, Byte.toNat_sub]
      rfl
  | subtractFrom =>
      cases done
      rw [Machine.ideal_putThenFlag, pass, Byte.toNat_sub]
      rfl
  | call =>
      obtain ⟨stack, pushed, rfl⟩ := call_eq_ok done
      have nonneg := word.nonneg
      have below := word.below
      have calls := Machine.ideal_calls_of_push pushed
      have behind : (m.skip.registers.pc % 65536).toNat = m.ideal.pc + 2 := by
        rw [word.skip]
        change ((m.registers.pc + 2) % 65536).toNat = m.registers.pc.toNat + 2
        omega
      have room : m.ideal.calls.length < 16 := by
        obtain ⟨room, -⟩ := Stack.push_eq_ok pushed
        have capacity : m.stack.slots.size = 16 := h.capacity
        change (m.stack.live.map (·.toNat)).reverse.length < 16
        rw [List.length_reverse, List.length_map, Stack.length_live]
        exact capacity ▸ room
      rw [behind] at calls
      refine (if_pos room).trans (congrArg some ?_)
      rw [Machine.ideal_jump]
      ext1 <;> try rfl
      exact calls.symm
  | shiftRight =>
      cases done
      rw [Machine.ideal_flagThenPut, pass, Byte.toNat_half, Byte.lowBit_eq, toNat_shifted]
      rfl
  | shiftLeft =>
      cases done
      rw [Machine.ideal_flagThenPut, pass, Byte.toNat_double, Byte.highBit_eq, toNat_shifted]
      rfl
  | loadIndex =>
      cases done
      rw [Machine.ideal_point, pass]
      rfl
  | jumpOffset =>
      have small := Opcode.nnn_add_emod w (m.skip.registers.get Registers.offsetIndex)
      cases done
      rw [Machine.ideal_jump, small]
      rfl
  | random =>
      cases done
      rw [Machine.ideal_put, BitVec.toNat_and, ← Opcode.toNat_nn', Generator.toNat_byte]
      change _ = some ({ m.skip.ideal with generator := (Generator.next m.generator.state).toNat }.put
        _ _)
      rw [Generator.toNat_next, pass]
      rfl
  | draw =>
      obtain ⟨rows, read, rfl⟩ := draw_eq_ok done
      obtain ⟨inside, rfl⟩ := Machine.ideal_readBlock (m := m.skip) h.size read
      rw [Machine.ideal_drawn (m := m.skip) h.screen, pass]
      rw [← Opcode.n_eq] at inside ⊢
      exact if_pos inside
  | skipDown =>
      obtain ⟨down, asked, rfl⟩ := skipDown_eq_ok done
      obtain ⟨small, rfl⟩ := Keypad.pressed_eq_ok asked
      rw [word.ideal_skippedIf]
      exact if_pos small
  | skipUp =>
      obtain ⟨down, asked, rfl⟩ := skipUp_eq_ok done
      obtain ⟨small, rfl⟩ := Keypad.pressed_eq_ok asked
      rw [word.ideal_skippedIf, ← decide_not]
      exact if_pos small
  | readDelay =>
      cases done
      rw [put]
      rfl
  | waitKey =>
      simp only [apply] at done
      split at done
      · rename_i up
        have nonneg := word.nonneg
        have below := word.below
        have back : ((m.registers.pc + 2 - 2) % 65536).toNat = m.registers.pc.toNat := by omega
        cases done
        refine (dif_neg (Keypad.first?_eq_none up)).trans (congrArg some ?_)
        rw [Machine.ideal_jump, word.skip]
        change m.ideal = { m.ideal with pc := ((m.registers.pc + 2 - 2) % 65536).toNat }
        rw [back]
        rfl
      · rename_i key found
        obtain ⟨held, lowest⟩ := Keypad.first?_eq_some found
        cases done
        refine (dif_pos held).trans (congrArg some ?_)
        have small : key.val % 2 ^ 8 = key.val := Nat.mod_eq_of_lt (by omega)
        rw [put, BitVec.toNat_ofNat, small, ← lowest]
        rfl
  | writeDelay =>
      cases done
      change some _ = some _
      rw [← pass]
      rfl
  | writeSound =>
      cases done
      change some _ = some _
      rw [← pass]
      rfl
  | addIndex =>
      have nonneg := h.index
      have index : ((m.skip.registers.i + (m.skip.registers.get (Opcode.x w)).toNat) % 65536).toNat =
          (m.ideal.i + (m.registers.get (Opcode.x w)).toNat) % 65536 := by
        change ((m.registers.i + (m.registers.get (Opcode.x w)).toNat) % 65536).toNat =
          (m.registers.i.toNat + (m.registers.get (Opcode.x w)).toNat) % 65536
        omega
      cases done
      rw [Machine.ideal_point, index, pass]
      rfl
  | loadGlyph =>
      have index (offset : Nat) : (((Font.base : Int) + offset) % 65536).toNat =
          (Font.base + offset) % 65536 := by omega
      cases done
      rw [Machine.ideal_point, ← Int.natCast_mul, index, pass]
      rfl
  | decimalDigits =>
      obtain ⟨memory, written, rfl⟩ := decimalDigits_eq_ok done
      obtain ⟨inside, result⟩ := Machine.ideal_writeBlock (m := m.skip) h.size written
      rw [result, pass, Byte.toNat_digits]
      exact if_pos inside
  | saveRegisters =>
      obtain ⟨memory, written, rfl⟩ := saveRegisters_eq_ok done
      obtain ⟨inside, result⟩ := Machine.ideal_writeBlock (m := m.skip) h.size written
      rw [length_saved] at inside
      rw [result, pass, Machine.map_saved]
      exact if_pos inside
  | restoreRegisters =>
      obtain ⟨values, read, rfl⟩ := restoreRegisters_eq_ok done
      obtain ⟨inside, rfl⟩ :=
        Machine.ideal_readBlock (m := m.skip) (n := (Opcode.x w).val + 1) h.size read
      have v := funext (Machine.get_restored m.skip.registers m.skip.memory
        m.skip.registers.i.toNat (Opcode.x w))
      refine (if_pos inside).trans (congrArg some ?_)
      change _ = { m.skip.ideal with v := fun k => ((restored m.skip.registers
        (m.skip.memory.peeks m.skip.registers.i.toNat ((Opcode.x w).val + 1))).get k).toNat }
      rw [v, pass]
      rfl

/-- An operation that faults on a machine has no result in the manual. -/
theorem Operation.perform_ideal_eq_none (dialect : Dialect) (w : Opcode) {m : Machine}
    (h : m.Fits) {o : Operation} {f : Fault} (refused : o.apply dialect w m.skip = .error f) :
    m.ideal.perform dialect w.toNat o = none := by
  have calls : m.ideal.calls.length = m.stack.live.length := by
    change (m.stack.live.map (·.toNat)).reverse.length = _
    rw [List.length_reverse, List.length_map]
  rcases (apply_eq_error_iff dialect w m.skip o f).1 refused with
    ⟨rfl, empty, -⟩ | ⟨rfl, full, -⟩ | ⟨asks, large, -⟩ | ⟨n, block, blocked⟩
  · have nothing : m.ideal.calls = [] := by
      rw [← List.length_eq_zero_iff, calls]
      exact List.length_eq_zero_iff.2 empty
    simp only [Ideal.perform, nothing]
  · have full' : m.ideal.calls.length = 16 := by
      rw [calls, ← h.capacity]
      exact full
    exact if_neg (by omega)
  · have small : ¬(m.registers.get (Opcode.x w)).toNat < 16 := Nat.not_lt.2 large
    cases o with
    | skipDown => exact if_neg small
    | skipUp => exact if_neg small
    | _ => cases asks
  · have outside : ¬Ideal.Inside m.ideal.i n := by
      have nonneg := h.index
      have index : m.ideal.i = m.registers.i.toNat := rfl
      have why := (Memory.check_eq_error_iff ..).1 blocked
      have size : m.skip.memory.size = 4096 := h.size
      have same : m.skip.registers.i = m.registers.i := rfl
      rw [size, same] at why
      rintro ⟨start, stop⟩
      rcases why with ⟨before, -⟩ | ⟨-, long, -⟩ <;> omega
    cases o with
    | draw =>
        cases block
        rw [← Opcode.n_eq] at outside
        exact if_neg outside
    | decimalDigits =>
        cases block
        exact if_neg outside
    | saveRegisters =>
        cases block
        exact if_neg outside
    | restoreRegisters =>
        cases block
        exact if_neg outside
    | _ => cases block

/-! ## Steps -/

namespace Machine

/-- The word of the manual is the opcode. -/
theorem ideal_word {m : Machine} {w : Opcode} (fetched : m.fetch = .ok w) :
    m.ideal.word = w.toNat := by
  obtain ⟨-, -, rfl⟩ := (fetch_eq_ok_iff m w).1 fetched
  exact (Memory.toNat_word ..).symm

variable {dialect : Dialect} {log : Log.Filter} {m : Machine}

theorem next_of_ends (h : m.Fits) {r : Step} (ends : Ends { dialect, log } m r)
    {row : Instruction} (done : r.outcome = .ok row) :
    m.ideal.next dialect = some r.machine.ideal := by
  cases ends with
  | unfetched _ => cases done
  | unresolved _ _ => cases done
  | faulted _ _ _ => cases done
  | executed fetched resolved applied =>
      rename_i w printed row o after
      obtain ⟨nonneg, below, -⟩ := (fetch_eq_ok_iff m w).1 fetched
      rw [h.size] at below
      have word : m.AtWord := ⟨nonneg, by omega⟩
      have pc : m.ideal.pc = m.registers.pc.toNat := rfl
      have known : Ideal.operation? w.toNat = some o := operation_of_resolved resolved
      have performed := Operation.perform_ideal dialect w h word applied
      rw [Ideal.next, if_pos (by omega), ideal_word fetched, known, Option.bind_eq_bind,
        Option.bind_some, performed]
      rfl

theorem next_eq_none_of_ends (h : m.Fits) (nonneg : 0 ≤ m.registers.pc) {r : Step}
    (ends : Ends { dialect, log } m r) {e : Failure} (failed : r.outcome = .error e) :
    m.ideal.next dialect = none := by
  have pc : m.ideal.pc = m.registers.pc.toNat := rfl
  have small {w : Opcode} (fetched : m.fetch = .ok w) : m.ideal.pc + 1 < 4096 := by
    obtain ⟨-, below, -⟩ := (fetch_eq_ok_iff m w).1 fetched
    rw [h.size] at below
    omega
  cases ends with
  | unfetched refused =>
      obtain ⟨outside, -⟩ := (fetch_eq_error_iff ..).1 refused
      rw [h.size] at outside
      exact if_neg (by omega)
  | unresolved fetched missing =>
      have unknown : Ideal.operation? _ = none := unknown_of_unresolved missing
      rw [Ideal.next, if_pos (small fetched), ideal_word fetched, unknown]
      rfl
  | faulted fetched resolved refused =>
      have known : Ideal.operation? _ = some _ := operation_of_resolved resolved
      have nothing := Operation.perform_ideal_eq_none dialect _ h refused
      rw [Ideal.next, if_pos (small fetched), ideal_word fetched, known, Option.bind_eq_bind,
        Option.bind_some, nothing]
      rfl
  | executed _ _ _ => cases failed

/-- The manual has a next machine exactly when a step succeeds. -/
theorem isSome_next_ideal_iff (h : m.Fits) (nonneg : 0 ≤ m.registers.pc) :
    (m.ideal.next dialect).isSome ↔ ∃ row, (m.step { dialect, log }).outcome = .ok row := by
  have ends := step_ends { dialect, log } m
  cases done : (m.step { dialect, log }).outcome with
  | ok row => simp [next_of_ends h ends done]
  | error e => simp [next_eq_none_of_ends h nonneg ends done]

/-- A step that succeeds is the next instruction of the manual. -/
theorem next_ideal (dialect : Dialect) (log : Log.Filter) (m : Machine) (h : m.Fits)
    (row : Instruction) (done : (m.step { dialect, log }).outcome = .ok row) :
    m.ideal.next dialect = some (m.step { dialect, log }).machine.ideal :=
  next_of_ends h (step_ends _ m) done

/-- A call of a subroutine. -/
theorem next_ideal_of_call :
    let m := primed 0x2A 0xBC
    (∃ row, (m.step {}).outcome = .ok row) ∧
      m.ideal.next .standard = some (m.step {}).machine.ideal := by
  intro m
  have fits : m.Fits := ⟨size_memory_primed _ _, ⟨rfl, rfl⟩, rfl, Int.le_refl 0⟩
  have fetched : m.fetch = .ok 0x2ABC := fetch_primed 0x2A 0xBC
  obtain ⟨printed, row, resolved⟩ :=
    resolve_standard_some (w := 0x2ABC) rfl .standard .silent m.registers.pc
  have done : (m.step {}).outcome = .ok row := by
    rw [step_of_resolved fetched resolved]
    rfl
  exact ⟨⟨row, done⟩, next_ideal .standard .silent m fits row done⟩

theorem Bounded.fits (h : m.Bounded) : m.Fits :=
  ⟨h.size, ⟨h.stride, h.height⟩, h.capacity, h.index.1⟩

/-- A run of a machine in range that does not fail is a run of the manual. -/
theorem after_ideal (h : m.Bounded) (n : Nat)
    (lasting : (m.run { dialect, log } n).failed = none) :
    m.ideal.after dialect n = some (m.run { dialect, log } n).machine.ideal := by
  induction n generalizing m with
  | zero => rfl
  | succ n ih =>
      rw [run] at lasting ⊢
      cases done : (m.step { dialect, log }).outcome with
      | error e =>
          rw [done] at lasting
          cases lasting
      | ok row =>
          rw [done] at lasting
          rw [Ideal.after, next_of_ends h.fits (step_ends _ m) done, Option.bind_some]
          exact ih (bounded_step _ h) lasting

end Machine

end Chip8
