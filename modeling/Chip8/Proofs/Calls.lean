/-
# Chip8.Proofs.Calls — a call that fails has changed nothing

A sprite is the call with the longest way to go: each of its rows may lie outside, may be cut at the
right edge, and may straddle two cells, the second of which may lie behind the end of the picture.
Work on a row comes to `drawRow` all the same (`on_blitRow`), and work on all rows to `draw`. With
this every call happens as a whole or not at all (`Call.on_perform`): it comes to what the
operations of the parts say (`Call.result`), and if these refuse it, the bench is as it was.
-/
import Chip8.Proofs.Work

namespace Chip8

set_option autoImplicit false

/-! ## Sprite rows -/

namespace Display

/-- Masking out the low bits of a row does not change what is left after they are shifted out. -/
theorem shiftRight_masked (row : Byte) (k : Nat) :
    (row &&& (0xFF : Byte) <<< k) >>> k = row >>> k := by
  have ones : (0xFF : Byte) = BitVec.allOnes 8 := rfl
  apply BitVec.eq_of_getLsbD_eq
  intro i _
  rw [ones]
  simp only [BitVec.getLsbD_ushiftRight, BitVec.getLsbD_and, BitVec.getLsbD_shiftLeft,
    BitVec.getLsbD_allOnes]
  by_cases inside : k + i < 8
  · simp [inside, show i < 8 by omega]
  · simp [BitVec.getLsbD_of_ge row (k + i) (by omega)]

/-- Only the bits that were masked out would be left if the others are shifted out. -/
theorem shiftLeft_masked (row : Byte) {k : Nat} (few : k ≤ 8) :
    (row &&& (0xFF : Byte) <<< k) <<< (8 - k) = 0 := by
  apply BitVec.eq_of_getLsbD_eq
  intro i inside
  simp only [BitVec.getLsbD_and, BitVec.getLsbD_shiftLeft]
  simp
  omega

theorem size_toggle (d : Display) {k : Nat} (bits : Byte) (inside : k < d.cells.size) :
    (d.toggle k bits inside).cells.size = d.cells.size :=
  Array.size_set inside

theorem toggle_zero (d : Display) {k : Nat} (inside : k < d.cells.size) :
    d.toggle k 0 inside = d := by
  simp [toggle]

variable (d : Display) {x y : Nat} (row : Byte)

theorem tail_of_aligned (aligned : x % 8 = 0) : d.tail x row = 0 := by
  rw [tail, aligned]
  split
  · exact BitVec.shiftLeft_eq_zero (by decide)
  · rfl

theorem tail_of_last (last : ¬x / 8 + 1 < d.stride) : d.tail x row = 0 := if_neg last

/-- A sprite row that has nothing in a second byte is drawn into the first. -/
theorem drawRow_of_tail_zero (hx : x / 8 < d.stride) (hy : y < d.height)
    (single : d.tail x row = 0) :
    d.drawRow x y row hx hy = d.toggle (d.place x y) (head x row) (d.place_lt hx hy) := by
  simp only [drawRow, single]
  split
  · exact toggle_zero ..
  · rfl

theorem hitsRow_of_tail_zero (single : d.tail x row = 0) :
    d.hitsRow x y row = (d.cell (d.place x y) &&& head x row != 0) := by
  simp [hitsRow, single]

/-- A row that does not reach the right edge is not masked. -/
theorem masked_of_inside (inside : x + 8 ≤ d.width) : d.masked x row = row :=
  if_neg (by omega)

/-- A row that straddles the right edge keeps the pixels of the last byte of its line. -/
theorem masked_of_last (hx : x / 8 < d.stride) (last : ¬x / 8 + 1 < d.stride)
    (straddles : x % 8 ≠ 0) : d.masked x row = row &&& (0xFF : Byte) <<< (x % 8) := by
  have overflow : ((x : Int) + 8 - d.width).toNat = x % 8 := by
    rw [width]
    omega
  rw [masked]
  simp only [overflow]
  exact if_pos (by rw [width]; omega)

end Display

/-- Two bytes have a set bit together if one of them has. -/
theorem or_bne_zero (a b : Byte) : (a ||| b != 0) = (a != 0 || b != 0) := by
  have split : a ||| b = 0 ↔ a = 0 ∧ b = 0 := BitVec.or_eq_zero_iff
  rw [Bool.eq_iff_iff, Bool.or_eq_true, bne_iff_ne, bne_iff_ne, bne_iff_ne, ne_eq, split]
  exact Decidable.not_and_iff_not_or_not

def Bench.repaint (b : Bench) (display : Display) : Bench :=
  b.exchange { b.machine with display }

namespace Work

variable (b : Bench)

theorem on_toggle {d : Display} (shown : b.machine.display = d) {k : Nat} (bits : Byte)
    (inside : k < d.cells.size) :
    (toggle k bits).on b = (.ok (d.cell k &&& bits), b.repaint (d.toggle k bits inside)) := by
  subst shown
  have same : b.machine.display.put ⟨k, inside⟩ (b.machine.display.cell k ^^^ bits) =
      b.machine.display.toggle k bits inside := by
    simp only [Display.put, Display.toggle, Display.cell_eq_getElem inside]
  rw [toggle, on_bind_of_ok (on_pixels b inside), on_bind_of_ok (on_storePixels b _ inside), same]
  rfl

/-- A row that begins with a byte is all in this byte. -/
theorem on_toggleRow_of_aligned {d : Display} (shown : b.machine.display = d) {k : Nat}
    (bits : Byte) (inside : k < d.cells.size) :
    (toggleRow k 0 bits).on b = (.ok (d.cell k &&& bits), b.repaint (d.toggle k bits inside)) := by
  rw [toggleRow, on_bind_of_ok (on_get b), if_pos rfl]
  exact on_toggle b shown bits inside

/-- A row that straddles two bytes has its head in the first and its tail in the second. -/
theorem on_toggleRow_of_straddling {d : Display} (shown : b.machine.display = d) {k offset : Nat}
    (bits : Byte) (straddles : offset ≠ 0) (first : k < d.cells.size)
    (second : k + 1 < (d.toggle k (bits >>> offset) first).cells.size) :
    (toggleRow k offset bits).on b =
      (.ok (d.cell k &&& bits >>> offset ||| d.cell (k + 1) &&& bits <<< (8 - offset)),
        b.repaint ((d.toggle k (bits >>> offset) first).toggle (k + 1) (bits <<< (8 - offset))
          second)) := by
  let headed := d.toggle k (bits >>> offset) first
  have room : (k : Int) + 1 < b.machine.display.cells.size := by
    rw [Display.size_toggle] at second
    rw [shown]
    omega
  have kept : headed.cell (k + 1) = d.cell (k + 1) := by
    rw [Display.cell_toggle, if_neg (Nat.ne_of_lt (Nat.lt_succ_self k))]
  have now : (b.repaint headed).machine.display = headed := rfl
  have tailed := on_toggle (b.repaint headed) now (bits <<< (8 - offset)) second
  rw [kept] at tailed
  rw [toggleRow, on_bind_of_ok (on_get b), if_neg straddles,
    on_bind_of_ok (on_toggle b shown (bits >>> offset) first), if_pos room]
  exact on_bind_of_ok tailed

/-- A row without a tail leaves the second byte alone, be it there or not. -/
theorem on_toggleRow_of_tailless {d : Display} (shown : b.machine.display = d) {k offset : Nat}
    (bits : Byte) (straddles : offset ≠ 0) (tailless : bits <<< (8 - offset) = 0)
    (first : k < d.cells.size) :
    (toggleRow k offset bits).on b =
      (.ok (d.cell k &&& bits >>> offset), b.repaint (d.toggle k (bits >>> offset) first)) := by
  let headed := d.toggle k (bits >>> offset) first
  by_cases room : k + 1 < d.cells.size
  · have second : k + 1 < headed.cells.size := by
      rwa [Display.size_toggle]
    have nothing : d.cell (k + 1) &&& 0 = 0 := BitVec.and_zero
    have same : d.cell k &&& bits >>> offset ||| 0 = d.cell k &&& bits >>> offset := BitVec.or_zero
    rw [on_toggleRow_of_straddling b shown bits straddles first second, tailless,
      Display.toggle_zero, nothing, same]
  · have full : ¬(k : Int) + 1 < b.machine.display.cells.size := by
      rw [shown]
      omega
    rw [toggleRow, on_bind_of_ok (on_get b), if_neg straddles,
      on_bind_of_ok (on_toggle b shown (bits >>> offset) first), if_neg full]
    rfl

/-- A sprite row inside the picture goes to the bytes of its place. -/
theorem on_blitRow_of_visible {d : Display} (shown : b.machine.display = d) {x y : Nat}
    (hy : y < d.height) (data : Int) :
    (blitRow x y data).on b =
      (toggleRow (d.place x y) (x % 8) (d.masked x (BitVec.ofInt 8 data))).on b := by
  have line : (y : Int) * d.width = 8 * (y * d.stride : Nat) := by
    rw [Display.width]
    push_cast
    exact Int.mul_left_comm ..
  have index : ((x : Int) + y * d.width) / 8 = (d.place x y : Nat) := by
    rw [line, Display.place]
    omega
  have offset : (((x : Int) + y * d.width) % 8).toNat = x % 8 := by
    rw [line]
    omega
  have visible : ¬((y : Int) < 0 ∨ (d.height : Int) ≤ y) := by omega
  rw [blitRow, on_bind_of_ok (on_get b)]
  simp only [shown, if_neg visible, index, offset]

/-- A sprite row inside the picture is added as `drawRow` adds it. -/
theorem on_blitRow {x y : Nat} (hx : x / 8 < b.machine.display.stride)
    (hy : y < b.machine.display.height) (data : Int) :
    ∃ hit : Byte, (blitRow x y data).on b =
        (.ok hit, b.repaint (b.machine.display.drawRow x y (BitVec.ofInt 8 data) hx hy)) ∧
      (hit != 0) = b.machine.display.hitsRow x y (BitVec.ofInt 8 data) := by
  generalize shown : b.machine.display = d at hx hy
  have width : d.width = 8 * d.stride := rfl
  have first := d.place_lt hx hy
  rw [on_blitRow_of_visible b shown hy]
  generalize (BitVec.ofInt 8 data : Byte) = row
  by_cases aligned : x % 8 = 0
  · -- one byte, and no mask
    have single := d.tail_of_aligned row aligned
    have whole : Display.head x row = row := by
      rw [Display.head, aligned]
      rfl
    rw [d.masked_of_inside row (by omega), aligned, on_toggleRow_of_aligned b shown row first,
      d.drawRow_of_tail_zero row hx hy single, d.hitsRow_of_tail_zero row single, whole]
    exact ⟨_, rfl, rfl⟩
  by_cases next : x / 8 + 1 < d.stride
  · -- two bytes, and no mask
    have after : d.place (x + 8) y = d.place x y + 1 := by
      rw [Display.place, Display.place]
      omega
    have second : d.place x y + 1 < (d.toggle (d.place x y) (row >>> (x % 8)) first).cells.size := by
      rw [Display.size_toggle, ← after]
      exact d.place_lt (by omega) hy
    have tail : d.tail x row = row <<< (8 - x % 8) := if_pos next
    have drawn : d.drawRow x y row hx hy = (d.toggle (d.place x y) (row >>> (x % 8)) first).toggle
        (d.place x y + 1) (row <<< (8 - x % 8)) second := by
      simp only [Display.drawRow, next, dif_pos, tail, after]
      rfl
    rw [d.masked_of_inside row (by omega),
      on_toggleRow_of_straddling b shown row aligned first second, drawn]
    refine ⟨_, rfl, ?_⟩
    rw [or_bne_zero, Display.hitsRow, tail]
    rfl
  · -- the second byte would lie on the next line, and the mask leaves nothing for it
    have single := d.tail_of_last row next
    have tailless := Display.shiftLeft_masked row (show x % 8 ≤ 8 by omega)
    rw [d.masked_of_last row hx next aligned,
      on_toggleRow_of_tailless b shown _ aligned tailless first, Display.shiftRight_masked,
      d.drawRow_of_tail_zero row hx hy single, d.hitsRow_of_tail_zero row single]
    exact ⟨_, rfl, rfl⟩

/-- Sprite rows are added as `draw` adds them. -/
theorem on_blitRows {d : Display} (shown : b.machine.display = d) {x : Nat} (hx : x / 8 < d.stride)
    (y : Int) (collision : Byte) (rows : List Int) :
    ∃ met : Byte, (blitRows x y collision rows).on b =
        (.ok met, b.repaint (d.draw x y hx (rows.map (BitVec.ofInt 8))).2) ∧
      (met != 0) = (collision != 0 || (d.draw x y hx (rows.map (BitVec.ofInt 8))).1) := by
  induction rows generalizing b d y collision with
  | nil =>
      subst shown
      exact ⟨collision, rfl, (Bool.or_false _).symm⟩
  | cons data rest ih =>
      rw [List.map_cons, Display.draw]
      by_cases visible : 0 ≤ y ∧ y < d.height
      · obtain ⟨n, rfl⟩ := Int.eq_ofNat_of_zero_le visible.1
        have hy : n < d.height := by omega
        subst shown
        obtain ⟨hit, drawn, hits⟩ := on_blitRow b hx hy data
        let added := b.machine.display.drawRow x n (BitVec.ofInt 8 data) hx hy
        have column : x / 8 < added.stride := by rwa [Display.stride_drawRow]
        obtain ⟨met, below, meets⟩ := ih (b.repaint added) rfl column (n + 1) (collision ||| hit)
        refine ⟨met, ?_, ?_⟩
        · rw [blitRows, on_bind_of_ok drawn, below]
          simp only [visible, and_self, dif_pos]
          rfl
        · rw [meets, or_bne_zero, hits, Bool.or_assoc]
          simp only [visible, and_self, dif_pos]
          rfl
      · have hidden : (blitRow x y data).on b = (.ok 0, b) := by
          rw [blitRow, on_bind_of_ok (on_get b)]
          simp only [shown]
          rw [if_pos (by omega)]
          rfl
        obtain ⟨met, below, meets⟩ := ih b shown hx (y + 1) (collision ||| 0)
        refine ⟨met, ?_, ?_⟩
        · rw [blitRows, on_bind_of_ok hidden, below, dif_neg visible]
        · rw [meets, dif_neg visible, or_bne_zero]
          simp

theorem on_blit (x y : Int) (rows : List Int) :
    (blit x y rows).on b =
      commit b (do
        let bytes := rows.map (BitVec.ofInt 8)
        let (hit, display) ← (b.machine.display.blit x y bytes).mapError Failure.refusal
        return (hit, b.exchange { b.machine with display })) := by
  rw [blit, on_bind_of_ok (on_get b)]
  dsimp only
  rw [Display.blit, List.length_map]
  split
  · rfl
  · have column : x % (b.machine.display.width : Int) =
        ((x % (b.machine.display.width : Int)).toNat : Int) := by
      have pos := b.machine.display.stride_pos
      exact (Int.toNat_of_nonneg (Int.emod_nonneg x (by rw [Display.width]; omega))).symm
    obtain ⟨met, drawn, meets⟩ :=
      on_blitRows b rfl (b.machine.display.column_lt x) y 0 rows
    rw [← column] at drawn
    rw [on_bind_of_ok drawn, on_pure, meets]
    rfl

/-! ## Programs and tables -/

/-- A program that fits is written and then started; one that does not is neither. -/
theorem on_load (address : Int) (values : List Int) :
    (load address values).on b =
      commit b (do
        let machine ← (b.machine.load address (values.map (BitVec.ofInt 8))).mapError Failure.fault
        return ((), b.exchange machine)) := by
  have written := on_writeBlock b address values
  rw [load, Machine.load]
  cases block : b.machine.memory.writeBlock address (values.map (BitVec.ofInt 8)) with
  | error f =>
      simp only [block] at written
      exact on_bind_of_error written
  | ok memory =>
      simp only [block] at written
      exact on_bind_of_ok written

theorem on_register (row : Instruction) :
    (register row).on b =
      commit b (do
        let table ← (b.table.register row).mapError Failure.refusal
        return ((), { b with table })) := by
  rw [register, on_bind_of_ok (on_get b), InstructionSet.register]
  cases b.table.clash? row <;> rfl

/-! ## All calls -/

/-- Giving an answer after the work is no reason to fail. -/
theorem on_answer {α β ρ : Type} {work : Work α} {r : Except Failure ρ} {came : ρ → α × Bench}
    (answer : α → β) (done : work.on b = commit b (r >>= fun x => .ok (came x))) :
    (do return answer (← work) : Work β).on b =
      commit b (r >>= fun x => .ok (answer (came x).1, (came x).2)) := by
  cases r with
  | error reason => exact on_bind_of_error done
  | ok x => exact on_bind_of_ok done

end Work

namespace Call

open Work

/-- Every call comes to what the operations of the parts say, and happens as a whole or not at
all. -/
theorem on_perform (b : Bench) (call : Call) :
    call.perform.on b = commit b (call.result b) := by
  cases call with
  | store address value => exact on_answer b (fun _ => none) (on_store b address value)
  | writeBlock address values => exact on_answer b (fun _ => none) (on_writeBlock b address values)
  | push address => exact on_answer b (fun _ => none) (on_push b address)
  | pop => exact on_answer b (fun address => some address.toNat) (on_pop b)
  | setRegister k value => exact on_answer b (fun _ => none) (on_setRegister b k value)
  | setKeys states => exact on_answer b (fun _ => none) (on_setKeys b states)
  | setKey k down => exact on_answer b (fun _ => none) (on_setKey b k down)
  | showBytes values => exact on_answer b (fun _ => none) (on_showBytes b values)
  | blit x y rows => exact on_answer b (fun hit => some hit.toNat) (on_blit b x y rows)
  | load address values => exact on_answer b (fun _ => none) (on_load b address values)
  | register row => exact on_answer b (fun _ => none) (on_register b row)

/-- A program is refused for the fault of its block. -/
theorem result_load_of_check {b : Bench} {address : Int} {values : List Int} {f : Fault}
    (unfit : b.machine.memory.check address values.length = .error f) :
    (load address values).result b = .error (.fault f) := by
  simp only [result, Machine.load, Memory.writeBlock, List.length_map, unfit]
  rfl

/-- A call that the operations refuse fails for their reason, and the bench is as it was. -/
theorem on_perform_of_refused {b : Bench} {call : Call} {reason : Failure}
    (refused : call.result b = .error reason) :
    call.perform.on b = (.error (.failure reason), b) := by
  rw [on_perform, refused]
  rfl

/-- A call only fails if the operations refuse it. -/
theorem refused_of_failed {b : Bench} {call : Call} {e : Trouble}
    (failed : (call.perform.on b).1 = .error e) : ∃ reason, call.result b = .error reason := by
  rw [on_perform] at failed
  cases came : call.result b with
  | error reason => exact ⟨reason, rfl⟩
  | ok done =>
      rw [came] at failed
      cases failed

/-- The bench is what it was before a call that fails, whatever call it is. So it is with a program
that does not fit into memory, with a number of keys other than sixteen, and with a sprite of too
many rows, all of which fail. -/
theorem bench_of_failed (b : Bench) :
    (∀ (call : Call) (e : Trouble), (call.perform.on b).1 = .error e → (call.perform.on b).2 = b) ∧
    (∀ (address : Int) (values : List Int),
      address < 0 ∨ b.machine.memory.size ≤ address →
        (load address values).perform.on b =
          (.error (.failure (.fault (.illegalAddress address))), b)) ∧
    (∀ (address : Int) (values : List Int), 0 ≤ address → address < b.machine.memory.size →
      b.machine.memory.size < address + values.length →
        (load address values).perform.on b =
          (.error (.failure (.fault (.illegalAddress (address + values.length)))), b)) ∧
    (∀ states : List Bool, states.length ≠ 16 →
      (setKeys states).perform.on b =
        (.error (.failure (.refusal (.keypadLength states.length))), b)) ∧
    ∀ (x y : Int) (rows : List Int), 15 < rows.length →
      (blit x y rows).perform.on b =
        (.error (.failure (.refusal (.spriteHeight rows.length))), b) := by
  refine ⟨fun call e failed => ?_, fun address values outside => ?_,
    fun address values nonneg below long => ?_, fun states odd => ?_, fun x y rows tall => ?_⟩
  · obtain ⟨reason, refused⟩ := refused_of_failed failed
    rw [on_perform_of_refused refused]
  · refine on_perform_of_refused (result_load_of_check ?_)
    exact (Memory.check_eq_error_iff ..).2 (.inl ⟨outside, rfl⟩)
  · refine on_perform_of_refused (result_load_of_check ?_)
    exact (Memory.check_eq_error_iff ..).2 (.inr ⟨⟨nonneg, below⟩, long, rfl⟩)
  · refine on_perform_of_refused ?_
    simp only [result, Machine.setKeys, Keypad.ofStates, dif_neg odd]
    rfl
  · refine on_perform_of_refused ?_
    have limit : Display.spriteLimit < rows.length := tall
    simp only [result, Display.blit, List.length_map, if_pos limit]
    rfl

/-- A return without a call, a program with one byte too many, a program before the start of memory,
three keys, and a sprite of sixteen rows. -/
theorem bench_of_failed_on_the_standard_machine :
    let b : Bench := { machine := .standard }
    (pop.perform.on b).1 = .error (.failure (.fault .stackUnderflow)) ∧ (pop.perform.on b).2 = b ∧
    (load 0xFFE [1, 2, 3]).perform.on b = (.error (.failure (.fault (.illegalAddress 0x1001))), b) ∧
    (load (-1) [1]).perform.on b = (.error (.failure (.fault (.illegalAddress (-1)))), b) ∧
    (setKeys [true, false, true]).perform.on b =
      (.error (.failure (.refusal (.keypadLength 3))), b) ∧
    (blit 60 (-7) (List.replicate 16 255)).perform.on b =
      (.error (.failure (.refusal (.spriteHeight 16))), b) := by
  intro b
  have size : b.machine.memory.size = 4096 :=
    (Memory.size_pokes ..).trans Array.size_replicate
  have empty : (pop.perform.on b).1 = .error (.failure (.fault .stackUnderflow)) := rfl
  obtain ⟨kept, outside, long, odd, tall⟩ := bench_of_failed b
  refine ⟨empty, kept pop _ empty, ?_, ?_, odd _ (by decide), tall 60 (-7) _ (by decide)⟩
  · exact long 0xFFE [1, 2, 3] (by decide) (by rw [size]; decide) (by rw [size]; decide)
  · exact outside (-1) [1] (.inl (by decide))

end Call

end Chip8
