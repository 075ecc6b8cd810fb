/-
# Chip8.Proofs.Loading — which programs are accepted, and what a new machine holds

A program is checked twice on its way into a machine. Its image is made if the program fits into
the room that is left above its address (`Image.load_isOk_iff`), and the machine takes it if its
address and its end lie in memory (`create_of_fits`, `create_of_unfit`). Both checks ask for
`Fits`, so an image that was made is never refused by the machine.

The program is laid over the font, and the rest of a new machine is zero: `Machine.Fresh` says so
cell by cell, and `load_iff_create` puts both together.
-/
import Chip8.Console
import Chip8.Image
import Chip8.Proofs.Memory

namespace Chip8

set_option autoImplicit false

/-- The bytes lie in the standard memory when they are put at an address. -/
def Fits (start : Int) (bytes : List Byte) : Prop := 0 ≤ start ∧ start + bytes.length ≤ 0x1000

def Covers (start : Int) (bytes : List Byte) (a : Nat) : Prop :=
  start ≤ a ∧ a < start + bytes.length

/-- A machine that was made for a program at an address and has not run yet. -/
structure Machine.Fresh (m : Machine) (start : Int) (bytes : List Byte) : Prop where
  counter : m.registers.pc = start
  size : m.memory.size = 0x1000
  /-- The program stands where it was put, also where the font would be. -/
  program : ∀ a : Nat, Covers start bytes a →
    bytes[(a - start).toNat]? = some (m.memory.byte a)
  font : ∀ a : Nat, ¬Covers start bytes a → 0x50 ≤ a → a < 0xA0 →
    Font.bytes[a - 0x50]? = some (m.memory.byte a)
  blank : ∀ a : Nat, ¬Covers start bytes a → ¬(0x50 ≤ a ∧ a < 0xA0) → m.memory.byte a = 0
  registers : ∀ x, m.registers.get x = 0
  index : m.registers.i = 0
  delay : m.timers.delay = 0
  sound : m.timers.sound = 0
  stack : m.stack = .empty 16 Registers.zero_lt
  framebuffer : m.display.buffer = List.replicate 256 0

/-! ## Images -/

/-- A program that is not empty makes an image if it fits. -/
theorem Image.load_isOk_iff {data : List Byte} (some : data ≠ []) (start : Int) (name : String) :
    (∃ image, load data start name = .ok image) ↔ Fits start data := by
  simp only [load_eq_ok_iff]
  constructor
  · rintro ⟨-, -, nonneg, -, fits⟩
    exact ⟨nonneg, fits⟩
  · rintro ⟨nonneg, fits⟩
    exact ⟨_, rfl, nonneg, some, fits⟩

/-- The last address of an image that was made is one of memory. -/
theorem Image.last_of_load {data : List Byte} {start : Int} {name : String} {image : Image}
    (made : load data start name = .ok image) :
    image.data = data ∧ image.start = start ∧ image.last ≤ 0xFFF := by
  obtain ⟨rfl, -, -, fits⟩ := (load_eq_ok_iff ..).1 made
  have size : (Memory.standardSize : Int) = 0x1000 := rfl
  exact ⟨rfl, rfl, show start + data.length - 1 ≤ 0xFFF by omega⟩

/-! ## The memory of a new machine -/

namespace Machine

theorem size_memory_standard : standard.memory.size = 0x1000 := by
  rw [standard, Memory.size_pokes]
  exact Array.size_replicate

/-- The standard machine holds the font and zeros. -/
theorem byte_standard (a : Nat) :
    standard.memory.byte a =
      if 0x50 ≤ a ∧ a < 0xA0 then Font.bytes.getD (a - 0x50) 0 else 0 :=
  Memory.byte_font (by decide) (by decide) a

variable {start : Int} {bytes : List Byte}

def holding (seed start : Int) (bytes : List Byte) : Machine :=
  ({ standard.seed seed with memory := standard.memory.pokes start.toNat bytes } : Machine).jump
    start

theorem byte_holding (seed : Int) (fits : Fits start bytes) (a : Nat) :
    (holding seed start bytes).memory.byte a =
      if start.toNat ≤ a ∧ a < start.toNat + bytes.length then bytes.getD (a - start.toNat) 0
      else standard.memory.byte a := by
  refine Memory.byte_pokes _ _ _ _ ?_
  rw [size_memory_standard]
  have := fits.1
  have := fits.2
  omega

theorem fresh_holding (seed : Int) (fits : Fits start bytes) :
    (holding seed start bytes).Fresh start bytes := by
  have nonneg := fits.1
  have cover (a : Nat) : (start.toNat ≤ a ∧ a < start.toNat + bytes.length) ↔
      Covers start bytes a := by
    rw [Covers]
    omega
  have entry {entries : List Byte} {k : Nat} (inside : k < entries.length) :
      entries[k]? = some (entries.getD k 0) := by
    rw [List.getD_eq_getElem?_getD, List.getElem?_eq_getElem inside]
    rfl
  exact
    { counter := rfl
      size := (Memory.size_pokes ..).trans size_memory_standard
      program := fun a covered => by
        have inside := covered
        rw [Covers] at inside
        rw [byte_holding seed fits, if_pos ((cover a).2 covered),
          show (a - start).toNat = a - start.toNat by omega]
        exact entry (by omega)
      font := fun a apart low high => by
        rw [byte_holding seed fits, if_neg (mt (cover a).1 apart), byte_standard,
          if_pos ⟨low, high⟩]
        have length : Font.bytes.length = 80 := by decide
        exact entry (by omega)
      blank := fun a apart other => by
        rw [byte_holding seed fits, if_neg (mt (cover a).1 apart), byte_standard, if_neg other]
      registers := fun x => Vector.getElem_replicate (Registers.val_lt x)
      index := rfl
      delay := rfl
      sound := rfl
      stack := rfl
      framebuffer := rfl }

end Machine

/-! ## New consoles -/

namespace Console

variable {start : Int} {bytes : List Byte}

/-- A program that is not empty is written into the memory of the standard machine. -/
theorem create_eq (seed : Int) (some : bytes ≠ []) :
    create seed start bytes = (Machine.standard.memory.check start bytes.length).map fun _ =>
      { machine := .holding seed start bytes } := by
  have memory : ((Machine.standard.seed seed).jump start).memory = Machine.standard.memory := rfl
  rw [create, if_neg (mt List.isEmpty_iff.1 some), Machine.load, memory, Memory.writeBlock_eq]
  cases Machine.standard.memory.check start bytes.length <;> rfl

theorem create_of_fits (seed : Int) (some : bytes ≠ []) (fits : Fits start bytes) :
    create seed start bytes = .ok { machine := .holding seed start bytes } := by
  have length := List.length_pos_iff.2 some
  have nonneg := fits.1
  have room := fits.2
  have checked : Machine.standard.memory.check start bytes.length = .ok () := by
    rw [Memory.check_eq_ok_iff, Machine.size_memory_standard]
    omega
  rw [create_eq seed some, checked]
  rfl

/-- What does not fit is refused for its address or its end. -/
theorem create_of_unfit (seed : Int) (some : bytes ≠ []) (unfit : ¬Fits start bytes) :
    ∃ a, create seed start bytes = .error (.illegalAddress a) := by
  rw [create_eq seed some]
  cases checked : Machine.standard.memory.check start bytes.length with
  | ok _ =>
      obtain ⟨nonneg, -, room⟩ := (Memory.check_eq_ok_iff ..).1 checked
      rw [Machine.size_memory_standard] at room
      exact absurd ⟨nonneg, room⟩ unfit
  | error f =>
      obtain ⟨-, rfl⟩ | ⟨-, -, rfl⟩ := (Memory.check_eq_error_iff ..).1 checked
      · exact ⟨_, rfl⟩
      · exact ⟨_, rfl⟩

theorem create_isOk_iff (seed : Int) (some : bytes ≠ []) :
    (∃ c, create seed start bytes = .ok c) ↔ Fits start bytes := by
  refine ⟨fun ⟨c, made⟩ => ?_, fun fits => ⟨_, create_of_fits seed some fits⟩⟩
  refine Classical.byContradiction fun unfit => ?_
  obtain ⟨a, refused⟩ := create_of_unfit seed some unfit
  rw [refused] at made
  cases made

/-- The two ways to take a program agree. For a program that is not empty and any address, an
image is made exactly if a console is, which is exactly if the program fits into memory there, and
otherwise the console is refused for an address. A console that is made holds the program over the
font, and is zero elsewhere. -/
theorem load_iff_create (seed start : Int) (name : String) {data : List Byte}
    (some : data ≠ []) :
    ((∃ image, Image.load data start name = .ok image) ↔ ∃ c, create seed start data = .ok c) ∧
      ((∃ c, create seed start data = .ok c) ↔ Fits start data) ∧
      (∀ reason, Image.load data start name = .error reason →
        ∃ a, create seed start data = .error (.illegalAddress a)) ∧
      ∀ image c, Image.load data start name = .ok image → create seed start data = .ok c →
        c.machine.Fresh start data ∧ image.data = data ∧ image.start = start ∧
          image.last ≤ 0xFFF := by
  have images := Image.load_isOk_iff some start name
  have consoles : (∃ c, create seed start data = .ok c) ↔ Fits start data :=
    create_isOk_iff seed some
  refine ⟨images.trans consoles.symm, consoles, fun reason refused => ?_,
    fun image c made created => ⟨?_, Image.last_of_load made⟩⟩
  · refine create_of_unfit seed some fun fits => ?_
    obtain ⟨image, made⟩ := images.2 fits
    rw [refused] at made
    cases made
  · have fits := consoles.1 ⟨c, created⟩
    rw [create_of_fits seed some fits] at created
    cases created
    exact Machine.fresh_holding seed fits

/-- A program of four bytes that begins in the last sprite of the font and ends behind it. -/
theorem load_iff_create_over_font :
    let data : List Byte := [0x12, 0x9E, 0xAB, 0xCD]
    let c : Console := { machine := .holding 7 0x9E data }
    data ≠ [] ∧ create 7 0x9E data = .ok c ∧ c.machine.Fresh 0x9E data ∧
      c.machine.memory.peeks 0x9C 7 = [0x80, 0xF0, 0x12, 0x9E, 0xAB, 0xCD, 0x00] := by
  intro data c
  have some : data ≠ [] := by decide
  have created : create 7 0x9E data = .ok c := create_of_fits 7 some ⟨by decide, by decide⟩
  obtain ⟨same, -, -, fresh⟩ := load_iff_create 7 0x9E "program" some
  obtain ⟨image, made⟩ := same.2 ⟨c, created⟩
  exact ⟨some, created, (fresh image c made created).1, by decide +kernel⟩

end Console

end Chip8
