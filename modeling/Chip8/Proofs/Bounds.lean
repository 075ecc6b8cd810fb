/-
# Chip8.Proofs.Bounds — the ranges that no program and no host leaves

A machine that was made for a program with a start address inside of memory keeps its
numbers in range, whatever the program does and whatever the host asks for in between
(`inRange_run`).

Most of these ranges are carried by the types. The others are `Bounded`: the sizes, the
index, and the program counter, whose bound is `0x10FE`. An opcode is fetched at an even
or odd address up to `0xFFE`, so the program counter behind it is at most `0x1000`, and so is
every address that a call puts on the stack. From there a skip reaches `0x1002` and a jump
with an offset `0xFFF + 0xFF`. The bound on the slots has to be kept together with the one
on the program counter, because returns make the one into the other.

Instructions reduce the program counter modulo 65536 in many places. In these ranges that
never changes it (`Unreduced`).
-/
import Chip8.Console.Session
import Chip8.Proofs.Stack
import Chip8.Proofs.Step

namespace Chip8

set_option autoImplicit false

/-- What keeps a machine in range beside its types. -/
structure Machine.Bounded (m : Machine) : Prop where
  size : m.memory.size = 4096
  stride : m.display.stride = 8
  height : m.display.height = 32
  capacity : m.stack.capacity = 16
  slots : ∀ a ∈ m.stack.slots, a.toNat ≤ 0x1000
  index : 0 ≤ m.registers.i ∧ m.registers.i ≤ 0xFFFF
  counter : 0 ≤ m.registers.pc ∧ m.registers.pc ≤ 0x10FE

namespace Machine.Bounded

variable {m : Machine}

/-! ## Changes of one part -/

theorem jump (h : m.Bounded) {pc : Int} (nonneg : 0 ≤ pc) (below : pc ≤ 0x10FE) :
    (m.jump pc).Bounded :=
  { h with counter := ⟨nonneg, below⟩ }

theorem point (h : m.Bounded) {i : Int} (nonneg : 0 ≤ i) (below : i ≤ 0xFFFF) :
    (m.point i).Bounded :=
  { h with index := ⟨nonneg, below⟩ }

theorem put (h : m.Bounded) (x : Nibble) (value : Byte) : (m.put x value).Bounded :=
  { h with }

theorem withMemory (h : m.Bounded) {memory : Memory} (size : memory.size = m.memory.size) :
    { m with memory }.Bounded :=
  { h with size := size.trans h.size }

theorem withStack (h : m.Bounded) {stack : Stack} (capacity : stack.capacity = m.stack.capacity)
    (slots : ∀ a ∈ stack.slots, a.toNat ≤ 0x1000) : { m with stack }.Bounded :=
  { h with capacity := capacity.trans h.capacity, slots }

theorem withDisplay (h : m.Bounded) {display : Display} (stride : display.stride = m.display.stride)
    (height : display.height = m.display.height) : { m with display }.Bounded :=
  { h with stride := stride.trans h.stride, height := height.trans h.height }

theorem skippedIf (h : m.Bounded) (high : m.registers.pc ≤ 0x1000) (condition : Bool) :
    (Operation.skippedIf condition m).Bounded := by
  have nonneg := h.counter.1
  cases condition with
  | false => exact h
  | true => exact h.jump (by omega) (by omega)

end Machine.Bounded

/-! ## Instructions -/

theorem Opcode.nnn_lt (w : Opcode) : Opcode.nnn w < 4096 := Nat.mod_lt _ (by decide)

/-- An address with the offset of a register is too small to be reduced. -/
theorem Opcode.nnn_add_emod (w : Opcode) (offset : Byte) :
    (nnn w + offset.toNat : Int) % 0x10000 = nnn w + offset.toNat := by
  have nnn := nnn_lt w
  have small := offset.isLt
  exact Int.emod_eq_of_lt (by omega) (by omega)

/-- An operation keeps a machine in range whose program counter is behind the opcode. -/
theorem Operation.bounded_apply (dialect : Dialect) (w : Opcode) {m after : Machine}
    (h : m.Bounded) (low : 2 ≤ m.registers.pc) (high : m.registers.pc ≤ 0x1000) {o : Operation}
    (done : o.apply dialect w m = .ok after) : after.Bounded := by
  have nnn := Opcode.nnn_lt w
  cases o with
  | clear =>
      cases done
      exact { h with }
  | ret =>
      obtain ⟨address, stack, popped, rfl⟩ := ret_eq_ok done
      have top : address.toNat ≤ 0x1000 := h.slots address (Stack.mem_slots_of_pop popped)
      have slots : ∀ a ∈ stack.slots, a.toNat ≤ 0x1000 := by
        rw [(Stack.pop_eq_ok popped).1]
        exact h.slots
      exact (h.withStack (Stack.capacity_of_pop popped) slots).jump (by omega) (by omega)
  | call =>
      obtain ⟨stack, pushed, rfl⟩ := call_eq_ok done
      have slots : ∀ a ∈ stack.slots, a.toNat ≤ 0x1000 := by
        intro a inside
        rcases Stack.mem_slots_of_push pushed inside with rfl | before
        · rw [BitVec.toNat_ofInt]
          omega
        · exact h.slots a before
      exact (h.withStack (Stack.capacity_of_push pushed) slots).jump (by omega) (by omega)
  | jump =>
      cases done
      exact h.jump (by omega) (by omega)
  | skipEqualByte =>
      cases done
      exact h.skippedIf high _
  | skipUnequalByte =>
      cases done
      exact h.skippedIf high _
  | skipEqual =>
      cases done
      exact h.skippedIf high _
  | skipUnequal =>
      cases done
      exact h.skippedIf high _
  | skipDown =>
      obtain ⟨down, -, rfl⟩ := skipDown_eq_ok done
      exact h.skippedIf high down
  | skipUp =>
      obtain ⟨down, -, rfl⟩ := skipUp_eq_ok done
      exact h.skippedIf high _
  | loadIndex =>
      cases done
      exact h.point (by omega) (by omega)
  | addIndex =>
      cases done
      exact h.point (by omega) (by omega)
  | loadGlyph =>
      cases done
      exact h.point (by omega) (by omega)
  | jumpOffset =>
      have v0 := (m.registers.get Registers.offsetIndex).isLt
      cases done
      exact h.jump (by omega) (by omega)
  | draw =>
      obtain ⟨rows, -, rfl⟩ := draw_eq_ok done
      exact { h with
        stride := (stride_drawn ..).trans h.stride
        height := (height_drawn ..).trans h.height }
  | waitKey =>
      simp only [apply] at done
      split at done
      · cases done
        exact h.jump (by omega) (by omega)
      · cases done
        exact h.put _ _
  | decimalDigits =>
      obtain ⟨memory, written, rfl⟩ := decimalDigits_eq_ok done
      exact h.withMemory (Memory.size_of_writeBlock written)
  | saveRegisters =>
      obtain ⟨memory, written, rfl⟩ := saveRegisters_eq_ok done
      exact h.withMemory (Memory.size_of_writeBlock written)
  | restoreRegisters =>
      obtain ⟨values, -, rfl⟩ := restoreRegisters_eq_ok done
      exact { h with }
  | _ =>
      -- what is left writes registers, timers or the generator
      cases done
      exact { h with }

namespace Machine

/-- Behind an opcode the program counter is at most the size of memory. -/
theorem skip_of_fetch {m : Machine} (h : m.Bounded) {w : Word} (fetched : m.fetch = .ok w) :
    m.registers.pc ≤ 0xFFE ∧ m.skip = m.jump (m.registers.pc + 2) := by
  obtain ⟨nonneg, below, -⟩ := (fetch_eq_ok_iff m w).1 fetched
  have size := h.size
  exact ⟨by omega, skip_of_lt nonneg (by omega)⟩

theorem bounded_step (s : Setting) {m : Machine} (h : m.Bounded) :
    (m.step s).machine.Bounded := by
  have moved {w : Word} (fetched : m.fetch = .ok w) :
      m.skip.Bounded ∧ 2 ≤ m.skip.registers.pc ∧ m.skip.registers.pc ≤ 0x1000 := by
    obtain ⟨high, passed⟩ := skip_of_fetch h fetched
    have nonneg := h.counter.1
    rw [passed]
    exact ⟨h.jump (by omega) (by omega), by simp only [jump]; omega, by simp only [jump]; omega⟩
  have ends := step_ends s m
  generalize m.step s = r at ends ⊢
  cases ends with
  | unfetched _ => exact h
  | unresolved fetched _ => exact (moved fetched).1
  | faulted fetched _ _ => exact (moved fetched).1
  | executed fetched _ applied =>
      obtain ⟨bounded, low, high⟩ := moved fetched
      exact { Operation.bounded_apply s.dialect _ bounded low high applied with }

/-! ## What the host does -/

theorem bounded_load {m after : Machine} (h : m.Bounded) {address : Int} {data : List Byte}
    (done : m.load address data = .ok after) : after.Bounded := by
  obtain ⟨memory, written, rfl⟩ := load_eq_ok done
  obtain ⟨nonneg, below, -⟩ := Memory.writeBlock_eq_ok written
  rw [h.size] at below
  exact (h.withMemory (Memory.size_of_writeBlock written)).jump nonneg (by omega)

theorem bounded_reset {m : Machine} (h : m.Bounded) : m.reset.Bounded where
  size := (size_memory_reset m).trans h.size
  stride := h.stride
  height := h.height
  capacity := (Stack.capacity_reset _).trans h.capacity
  slots := by
    intro a inside
    rw [Array.eq_of_mem_replicate inside]
    decide
  index := by
    have zero : m.reset.registers.i = 0 := rfl
    omega
  counter := by
    have zero : m.reset.registers.pc = 0 := rfl
    omega

theorem bounded_standard : standard.Bounded where
  size := by
    rw [standard, Memory.size_pokes]
    exact Array.size_replicate
  stride := rfl
  height := rfl
  capacity := Array.size_replicate
  slots := by
    intro a inside
    rw [Array.eq_of_mem_replicate inside]
    decide
  index := ⟨Int.le_refl 0, by decide⟩
  counter := ⟨Int.le_refl 0, by decide⟩

end Machine

namespace Console

theorem bounded_act (s : Setting) {c : Console} (h : c.machine.Bounded) (a : Act) :
    (c.act s a).machine.Bounded := by
  cases a with
  | step => exact Machine.bounded_step s h
  | tick => exact { h with }
  | setKeys states =>
      refine attempt_keeps h fun machine set => ?_
      obtain ⟨keypad, rfl⟩ := Machine.setKeys_eq_ok set
      exact { h with }
  | press name => exact { h with }
  | release name => exact { h with }
  | liftKeys => exact { h with }
  | seed value => exact { h with }
  | takeRedraw => exact { h with }
  | load address data => exact attempt_keeps h fun machine loaded => Machine.bounded_load h loaded
  | store address value =>
      exact attempt_map_keeps h fun memory stored => h.withMemory (Memory.size_of_store stored)
  | writeBlock address values =>
      exact attempt_map_keeps h fun memory written =>
        h.withMemory (Memory.size_of_writeBlock written)
  | showBytes values =>
      refine attempt_map_keeps h fun display loaded => ?_
      obtain ⟨stride, height⟩ := Display.size_of_loadValues loaded
      exact h.withDisplay stride height
  | reset => exact Machine.bounded_reset h

end Console

/-! ## What the bounds say -/

structure Machine.InRange (m : Machine) : Prop where
  registers : ∀ x, (m.registers.get x).toNat ≤ 0xFF
  cells : ∀ a, (m.memory.byte a).toNat ≤ 0xFF
  index : 0 ≤ m.registers.i ∧ m.registers.i ≤ 0xFFFF
  counter : 0 ≤ m.registers.pc ∧ m.registers.pc ≤ 0x10FE
  depth : m.stack.depth ≤ 16
  slots : ∀ a ∈ m.stack.slots, a.toNat ≤ 0x1000
  delay : m.timers.delay.toNat ≤ 0xFF
  sound : m.timers.sound.toNat ≤ 0xFF
  generator : m.generator.state.toNat ≤ 0xFFFFFFFF
  size : m.memory.size = 4096
  framebuffer : m.display.cells.size = 256
  keys : m.keypad.keys.size = 16

/-- Nothing that is done to the program counter modulo 65536 changes it: passing an opcode,
skipping one, jumping with an offset, going back to wait for a key, and putting it on the
stack. -/
structure Machine.Unreduced (dialect : Dialect) (m : Machine) : Prop where
  passed : m.skip = m.jump (m.registers.pc + 2)
  skipped : m.skip.skip = m.jump (m.registers.pc + 4)
  offset : ∀ w, (Operation.jumpOffset.execute dialect w).on m.skip =
    (.ok (), m.jump (Opcode.nnn w + (m.registers.get Registers.offsetIndex).toNat))
  waiting : m.keypad.first? = none → ∀ w, (Operation.waitKey.execute dialect w).on m.skip =
    (.ok (), m)
  pushed : ∀ stack, m.skip.stack.push m.skip.registers.pc = .ok stack →
    ∃ a : Word, stack.live = m.stack.live ++ [a] ∧ (a.toNat : Int) = m.registers.pc + 2

namespace Machine

theorem Bounded.inRange {m : Machine} (h : m.Bounded) : m.InRange where
  registers x := Nat.le_of_lt_succ (m.registers.get x).isLt
  cells a := Nat.le_of_lt_succ (m.memory.byte a).isLt
  index := h.index
  counter := h.counter
  depth := by
    have room : m.stack.depth ≤ m.stack.capacity := m.stack.depth_le
    rwa [h.capacity] at room
  slots := h.slots
  delay := Nat.le_of_lt_succ m.timers.delay.isLt
  sound := Nat.le_of_lt_succ m.timers.sound.isLt
  generator := Nat.le_of_lt_succ m.generator.state.isLt
  size := h.size
  framebuffer := by rw [m.display.size_cells, h.stride, h.height]
  keys := rfl

theorem Bounded.unreduced {m : Machine} (h : m.Bounded) (dialect : Dialect) {w : Word}
    (fetched : m.fetch = .ok w) : m.Unreduced dialect := by
  have nonneg := h.counter.1
  obtain ⟨high, passed⟩ := skip_of_fetch h fetched
  have behind : m.skip.registers.pc = m.registers.pc + 2 := by rw [passed]; rfl
  refine ⟨passed, ?skipped, ?offset, ?waiting, ?pushed⟩
  case skipped =>
      have small : (m.skip.registers.pc + 2) % 0x10000 = m.registers.pc + 4 := by omega
      rw [skip, small]
      rfl
  case offset =>
      intro w
      have small := Opcode.nnn_add_emod w (m.registers.get Registers.offsetIndex)
      rw [Operation.on_execute, ← small]
      rfl
  case waiting =>
      intro none w
      have back : (m.skip.registers.pc - 2) % 0x10000 = m.registers.pc := by omega
      have none' : m.skip.keypad.first? = .none := none
      rw [Operation.on_execute]
      simp only [Operation.apply, none', back]
      rfl
  case pushed =>
      intro stack pushed
      refine ⟨_, Stack.live_of_push pushed, ?_⟩
      rw [BitVec.toNat_ofInt, behind]
      omega

end Machine

namespace Console

/-! ## Sessions -/

theorem bounded_create {value start : Int} {program : List Byte} {c : Console}
    (nonneg : 0 ≤ start) (below : start ≤ 0xFFF) (made : create value start program = .ok c) :
    c.machine.Bounded := by
  have machine : ((Machine.standard.seed value).jump start).Bounded :=
    (show (Machine.standard.seed value).Bounded from { Machine.bounded_standard with }).jump
      nonneg (by omega)
  simp only [create] at made
  generalize (Machine.standard.seed value).jump start = m at machine made
  split at made
  · cases made
    exact machine
  · cases loaded : m.load start program with
    | error _ =>
        rw [loaded] at made
        cases made
    | ok after =>
        rw [loaded] at made
        cases made
        exact Machine.bounded_load machine loaded

theorem bounded_run (s : Setting) {c : Console} (h : c.machine.Bounded) (acts : List Act) :
    (c.run s acts).machine.Bounded :=
  run_keeps (P := fun c => c.machine.Bounded) acts h fun _ a before => bounded_act s before a

/-- Whatever happens to a console that was made for a start address inside of memory, its
numbers stay in range, and no reduction modulo 65536 ever changes a program counter. -/
theorem inRange_run (s : Setting) (value start : Int) (program : List Byte) (c : Console)
    (nonneg : 0 ≤ start) (below : start ≤ 0xFFF) (made : create value start program = .ok c)
    (acts : List Act) :
    (c.run s acts).machine.InRange ∧
      ∀ w, (c.run s acts).machine.fetch = .ok w →
        (c.run s acts).machine.Unreduced s.dialect := by
  have bounded := bounded_run s (bounded_create nonneg below made) acts
  exact ⟨bounded.inRange, fun _ fetched => bounded.unreduced s.dialect fetched⟩

/-- Two instructions that jump as far as any can, behind the end of memory, where the next step
finds no opcode. Before it a program is refused, and a byte is stored, a key pressed and a seed
chosen. -/
theorem inRange_run_past_the_last_address :
    let acts : List Act := [.step, .step, .load 0x1000 [0x12], .store 0x300 0x1FF, .press "q",
      .seed (-1), .tick, .step]
    ∃ c, create 7 0xFFC [0x60, 0xFF, 0xBF, 0xFF] = .ok c ∧
      let after := (c.run {} acts).machine
      after.registers.pc = 0x10FE ∧ after.memory.byte 0x300 = 0xFF ∧
        after.keypad.isDown 4 = true ∧ after.cycles = 2 ∧ after.InRange := by
  intro acts
  have ends : (create 7 0xFFC [0x60, 0xFF, 0xBF, 0xFF]).toOption.map (fun c =>
      let after := (c.run {} acts).machine
      (after.registers.pc, after.memory.byte 0x300, after.keypad.isDown 4, after.cycles)) =
      some (0x10FE, 0xFF, true, 2) := by decide +kernel
  cases made : create 7 0xFFC [0x60, 0xFF, 0xBF, 0xFF] with
  | error f =>
      rw [made] at ends
      cases ends
  | ok c =>
      rw [made, Except.toOption, Option.map_some, Option.some_inj] at ends
      obtain ⟨pc, stored, pressed, counted⟩ : _ ∧ _ ∧ _ ∧ _ := by
        simpa only [Prod.mk.injEq] using ends
      exact ⟨c, rfl, pc, stored, pressed, counted,
        (inRange_run {} 7 0xFFC _ c (by decide) (by decide) made acts).1⟩

end Console

end Chip8
