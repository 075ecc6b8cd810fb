/-
# Chip8.Proofs.Reset — a reset machine is a new one

A machine is made with four sizes: of its memory, its picture (two) and its stack (`Make`). Nothing
that happens to it changes them, whether instructions, a host between two instructions, or a
host that calls its parts (`fits_of_reached`).

So a reset finds the sizes of the machine that was made, and gives all of it back but the generator
(`reset_of_reached`). `Initial` has it part by part: the font stands in a memory of zeros, and no
slot of the stack keeps what was once pushed. What a host then sees is what it sees of a new
machine with that generator.
-/
import Chip8.Console.Session
import Chip8.Proofs.Calls
import Chip8.Proofs.Stack
import Chip8.Proofs.Untouched

namespace Chip8

set_option autoImplicit false

/-- The sizes with which a machine is made. There is room for the font. -/
structure Make where
  size : Nat
  stride : Nat
  height : Nat
  capacity : Nat
  font : Font.base + Font.bytes.length ≤ size
  stride_pos : 0 < stride
  height_pos : 0 < height
  capacity_pos : 0 < capacity

namespace Make

theorem size_pos (k : Make) : 0 < k.size := Nat.lt_of_lt_of_le (by decide) k.font

/-- A new machine: it is switched on with a blank memory, a dark display and an empty stack. -/
def machine (k : Make) : Except Fault Machine := do
  let m ← Machine.powerOn (.blank k.size k.size_pos)
    (.dark k.stride k.height k.stride_pos k.height_pos)
  return { m with stack := .empty k.capacity k.capacity_pos }

structure Fits (k : Make) (m : Machine) : Prop where
  size : m.memory.size = k.size
  stride : m.display.stride = k.stride
  height : m.display.height = k.height
  capacity : m.stack.capacity = k.capacity

variable {k : Make} {m : Machine}

namespace Fits

theorem withMemory (h : k.Fits m) {memory : Memory} (size : memory.size = m.memory.size) :
    k.Fits { m with memory } :=
  { h with size := size.trans h.size }

theorem withDisplay (h : k.Fits m) {display : Display} (stride : display.stride = m.display.stride)
    (height : display.height = m.display.height) : k.Fits { m with display } :=
  { h with stride := stride.trans h.stride, height := height.trans h.height }

theorem withStack (h : k.Fits m) {stack : Stack} (capacity : stack.capacity = m.stack.capacity) :
    k.Fits { m with stack } :=
  { h with capacity := capacity.trans h.capacity }

end Fits

/-! ## What happens to a machine -/

theorem fits_of_apply {dialect : Dialect} {w : Opcode} {after : Machine} {o : Operation}
    (h : k.Fits m) (done : o.apply dialect w m = .ok after) : k.Fits after := by
  have leaves := Operation.leaves_of_apply done
  have size : after.memory.size = m.memory.size := by
    by_cases digits : o = .decimalDigits
    · subst digits
      obtain ⟨memory, written, rfl⟩ := Operation.decimalDigits_eq_ok done
      exact Memory.size_of_writeBlock written
    by_cases save : o = .saveRegisters
    · subst save
      obtain ⟨memory, written, rfl⟩ := Operation.saveRegisters_eq_ok done
      exact Memory.size_of_writeBlock written
    rw [leaves.memory digits save]
  have capacity : after.stack.capacity = m.stack.capacity := by
    by_cases call : o = .call
    · subst call
      obtain ⟨stack, pushed, rfl⟩ := Operation.call_eq_ok done
      exact Stack.capacity_of_push pushed
    by_cases ret : o = .ret
    · subst ret
      obtain ⟨address, stack, popped, rfl⟩ := Operation.ret_eq_ok done
      exact Stack.capacity_of_pop popped
    rw [leaves.stack call ret]
  exact ⟨size.trans h.size, leaves.size.1.trans h.stride, leaves.size.2.trans h.height,
    capacity.trans h.capacity⟩

theorem fits_of_step (s : Setting) (h : k.Fits m) : k.Fits (m.step s).machine := by
  have moved : k.Fits m.skip := { h with }
  have ends := Machine.step_ends s m
  generalize m.step s = r at ends ⊢
  cases ends with
  | unfetched _ => exact h
  | unresolved _ _ => exact moved
  | faulted _ _ _ => exact moved
  | executed _ _ applied => exact { fits_of_apply moved applied with }

theorem fits_of_reset (h : k.Fits m) : k.Fits m.reset where
  size := (Machine.size_memory_reset m).trans h.size
  stride := h.stride
  height := h.height
  capacity := (Stack.capacity_reset _).trans h.capacity

theorem fits_of_load (h : k.Fits m) {after : Machine} {address : Int} {data : List Byte}
    (loaded : m.load address data = .ok after) : k.Fits after := by
  obtain ⟨memory, written, rfl⟩ := Machine.load_eq_ok loaded
  exact { h.withMemory (Memory.size_of_writeBlock written) with }

theorem fits_of_setKeys (h : k.Fits m) {after : Machine} {states : List Bool}
    (set : m.setKeys states = .ok after) : k.Fits after := by
  obtain ⟨keypad, rfl⟩ := Machine.setKeys_eq_ok set
  exact { h with }

theorem fits_of_act (s : Setting) {c : Console} (h : k.Fits c.machine) (a : Console.Act) :
    k.Fits (c.act s a).machine := by
  cases a with
  | step => exact fits_of_step s h
  | setKeys states => exact Console.attempt_keeps h fun machine set => fits_of_setKeys h set
  | load address data => exact Console.attempt_keeps h fun machine loaded => fits_of_load h loaded
  | store address value =>
      exact Console.attempt_map_keeps h fun memory stored =>
        h.withMemory (Memory.size_of_store stored)
  | writeBlock address values =>
      exact Console.attempt_map_keeps h fun memory written =>
        h.withMemory (Memory.size_of_writeBlock written)
  | showBytes values =>
      refine Console.attempt_map_keeps h fun display loaded => ?_
      obtain ⟨stride, height⟩ := Display.size_of_loadValues loaded
      exact h.withDisplay stride height
  | reset => exact fits_of_reset h
  | _ => exact { h with }

/-- What a call that is done hands over comes from a part that did not refuse. -/
theorem exists_of_result {α ε β : Type} {r : Except ε α} {reason : ε → Failure}
    {next : α → β} {came : β}
    (done : (do let a ← r.mapError reason; return next a : Except Failure β) = .ok came) :
    ∃ a, r = .ok a ∧ came = next a := by
  cases r with
  | error e => cases done
  | ok a =>
      cases done
      exact ⟨a, rfl, rfl⟩

theorem fits_of_result {b after : Bench} {call : Call} {value : Option Nat}
    (h : k.Fits b.machine) (done : call.result b = .ok (value, after)) : k.Fits after.machine := by
  cases call with
  | store address value =>
      obtain ⟨memory, stored, came⟩ := exists_of_result done
      cases came
      exact h.withMemory (Memory.size_of_store stored)
  | writeBlock address values =>
      obtain ⟨memory, written, came⟩ := exists_of_result done
      cases came
      exact h.withMemory (Memory.size_of_writeBlock written)
  | push address =>
      obtain ⟨stack, pushed, came⟩ := exists_of_result done
      cases came
      exact h.withStack (Stack.capacity_of_push pushed)
  | pop =>
      obtain ⟨⟨address, stack⟩, popped, came⟩ := exists_of_result done
      cases came
      exact h.withStack (Stack.capacity_of_pop popped)
  | setRegister k value =>
      obtain ⟨registers, -, came⟩ := exists_of_result done
      cases came
      exact { h with }
  | setKeys states =>
      obtain ⟨machine, set, came⟩ := exists_of_result done
      cases came
      exact fits_of_setKeys h set
  | setKey k down =>
      obtain ⟨keypad, -, came⟩ := exists_of_result done
      cases came
      exact { h with }
  | showBytes values =>
      obtain ⟨display, loaded, came⟩ := exists_of_result done
      cases came
      obtain ⟨stride, height⟩ := Display.size_of_loadValues loaded
      exact h.withDisplay stride height
  | blit x y rows =>
      obtain ⟨result, drawn, came⟩ := exists_of_result done
      cases came
      unfold Display.blit at drawn
      split at drawn
      · cases drawn
      · cases drawn
        exact h.withDisplay (Display.stride_draw ..) (Display.height_draw ..)
  | load address values =>
      obtain ⟨machine, loaded, came⟩ := exists_of_result done
      cases came
      exact fits_of_load h loaded
  | register row =>
      obtain ⟨table, -, came⟩ := exists_of_result done
      cases came
      exact h

theorem fits_of_call {b : Bench} (h : k.Fits b.machine) (call : Call) :
    k.Fits (call.perform.on b).2.machine := by
  rw [Call.on_perform]
  cases came : call.result b with
  | error reason => exact h
  | ok done => exact fits_of_result h came

end Make

namespace Machine

/-- What can become of a new machine. A host does acts, with any keyboard and under any setting,
calls the parts of the machine, and assigns registers, timers, the number of executed instructions
and the redraw flag. -/
inductive Reached (fresh : Machine) : Machine → Prop where
  | fresh : Reached fresh fresh
  | act {m : Machine} (before : Reached fresh m) (s : Setting) (keyboard : Keyboard)
      (a : Console.Act) : Reached fresh (({ machine := m, keyboard } : Console).act s a).machine
  | call {m : Machine} (before : Reached fresh m) (table : InstructionSet) (call : Call) :
      Reached fresh (call.perform.on { machine := m, table }).2.machine
  | assign {m : Machine} (before : Reached fresh m) (registers : Registers) (timers : Timers)
      (cycles : Nat) (redraw : Bool) : Reached fresh { m with registers, timers, cycles, redraw }

/-- A session is one act after another. -/
theorem Reached.run {fresh : Machine} {c : Console} (before : Reached fresh c.machine) (s : Setting)
    (acts : List Console.Act) : Reached fresh (c.run s acts).machine :=
  Console.run_keeps (P := fun c => Reached fresh c.machine) acts before
    fun c a reached => reached.act s c.keyboard a

/-- Nothing changes the sizes of a machine. -/
theorem fits_of_reached {k : Make} {fresh m : Machine} (h : k.Fits fresh)
    (reached : Reached fresh m) : k.Fits m := by
  induction reached with
  | fresh => exact h
  | act _ s keyboard a before => exact Make.fits_of_act s before a
  | call _ table call before => exact Make.fits_of_call before call
  | assign _ registers timers cycles redraw before => exact { before with }

/-! ## A reset -/

/-- Everything in a machine but its generator is as it is in a new one. -/
structure Initial (m : Machine) : Prop where
  memory : ∀ a, m.memory.byte a =
    if 0x50 ≤ a ∧ a < 0xA0 then Font.bytes.getD (a - 0x50) 0 else 0
  display : ∀ c ∈ m.display.cells, c = 0
  keypad : ∀ k, m.keypad.isDown k = false
  registers : ∀ x, m.registers.get x = 0
  index : m.registers.i = 0
  counter : m.registers.pc = 0
  slots : ∀ w ∈ m.stack.slots, w = 0
  depth : m.stack.depth = 0
  delay : m.timers.delay = 0
  sound : m.timers.sound = 0
  cycles : m.cycles = 0
  redraw : m.redraw = false

theorem initial_reset {k : Make} {m : Machine} (h : k.Fits m) : m.reset.Initial where
  memory := Memory.byte_font m.memory.size_pos (Nat.le_trans k.font (Nat.le_of_eq h.size.symm))
  display := fun _ inside => Array.eq_of_mem_replicate inside
  keypad := fun j => Vector.getElem_replicate (Registers.val_lt j)
  registers := fun x => Vector.getElem_replicate (Registers.val_lt x)
  index := rfl
  counter := rfl
  slots := fun _ inside => Array.eq_of_mem_replicate inside
  depth := rfl
  delay := rfl
  sound := rfl
  cycles := rfl
  redraw := rfl

end Machine

namespace Make

variable {k : Make} {m : Machine}

/-- A machine is made whenever there is room for the font. -/
theorem machine_eq (k : Make) :
    k.machine = .ok
      { memory := (Memory.blank k.size k.size_pos).pokes Font.base Font.bytes
        display := .dark k.stride k.height k.stride_pos k.height_pos
        stack := .empty k.capacity k.capacity_pos } := by
  have room : (Font.base : Int) + Font.bytes.length ≤ (Memory.blank k.size k.size_pos).size := by
    have size : (Memory.blank k.size k.size_pos).size = k.size := Array.size_replicate
    have font := k.font
    omega
  have written := Memory.writeBlock_of_fits (by decide) room (by decide)
  rw [machine, Machine.powerOn, written]
  rfl

theorem fits_machine {fresh : Machine} (made : k.machine = .ok fresh) : k.Fits fresh := by
  rw [machine_eq] at made
  obtain rfl := Except.ok.inj made
  exact ⟨(Memory.size_pokes ..).trans Array.size_replicate, rfl, rfl, Array.size_replicate⟩

/-- A machine with the sizes is reset to the machine that is made with them. -/
theorem reset_of_fits {fresh : Machine} (made : k.machine = .ok fresh) (h : k.Fits m) :
    m.reset = { fresh with generator := m.generator } := by
  rw [machine_eq] at made
  obtain rfl := Except.ok.inj made
  obtain ⟨size, stride, height, capacity, font, stride_pos, height_pos, capacity_pos⟩ := k
  obtain ⟨rfl, rfl, rfl, rfl⟩ := h
  rfl

/-- A reset is what switching on is. A machine is made with any sizes that have room for the font.
Whatever then happens to it, a reset leaves the machine that was made, with the generator that
it has by then: its parts are those of a new machine, and a host sees in every session what it
sees of a new machine that is given the state of the generator as its seed. -/
theorem reset_of_reached (k : Make) :
    ∃ fresh, k.machine = .ok fresh ∧ ∀ m, Machine.Reached fresh m →
      m.reset = { fresh with generator := m.generator } ∧ m.reset.Initial ∧
      ∀ (s : Setting) (keyboard : Keyboard) (acts : List Console.Act),
        let again := fresh.seed m.generator.state.toNat
        Console.history s { machine := m.reset, keyboard } acts =
          Console.history s { machine := again, keyboard } acts := by
  refine ⟨_, machine_eq k, fun m reached => ?_⟩
  have fits : k.Fits m := Machine.fits_of_reached (fits_machine (machine_eq k)) reached
  have whole := reset_of_fits (machine_eq k) fits
  refine ⟨whole, Machine.initial_reset fits, ?_⟩
  intro s keyboard acts again
  have same : Generator.ofSeed m.generator.state.toNat = m.generator := by
    rw [Generator.ofSeed, BitVec.ofInt_natCast, BitVec.ofNat_toNat, BitVec.setWidth_eq]
  have equal : m.reset = again := by
    rw [whole]
    change _ = Machine.seed _ _
    rw [Machine.seed, same]
  rw [equal]

/-- A small machine whose font was written over, and whose stack keeps what was pushed and popped.
-/
theorem reset_of_reached_over_the_font :
    let k : Make := ⟨160, 1, 2, 3, by decide, by decide, by decide, by decide⟩
    ∃ fresh, k.machine = .ok fresh ∧
      let used := (({ machine := fresh } : Console).run {}
        [.writeBlock 0x50 [1, 2, 3], .showBytes [255, 1], .setKeys [true], .press "q", .seed 77,
         .step]).machine
      let pushed := ((Call.push 0x1234).perform.on { machine := used }).2.machine
      let m := (Call.pop.perform.on { machine := pushed }).2.machine
      Machine.Reached fresh m ∧ m.memory.byte 0x50 = 1 ∧ m.stack.slots[0]? = some 0x1234 ∧
        m.reset = { fresh with generator := .ofSeed 77 } ∧ m.reset.Initial := by
  intro k
  obtain ⟨fresh, made, law⟩ := reset_of_reached k
  refine ⟨fresh, made, ?_⟩
  intro used pushed m
  have reached : Machine.Reached fresh m :=
    .call (.call (Machine.Reached.run (c := { machine := fresh }) .fresh {} _) .standard _)
      .standard _
  obtain ⟨whole, initial, -⟩ := law m reached
  rw [machine_eq] at made
  obtain rfl := Except.ok.inj made
  have generator : m.generator = .ofSeed 77 := by decide +kernel
  rw [generator] at whole
  exact ⟨reached, by decide +kernel, by decide +kernel, whole, initial⟩

end Make

end Chip8
