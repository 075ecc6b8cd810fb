/-
# Chip8.Machine.Call — the calls of a host, store by store

A host may call the parts of a machine one by one: store into memory, push and pop, set keys, show
a picture, draw a sprite, load a program, and add rows to an instruction table. What comes of such a
call is said by `Memory.store` and its like, which give a new part or a refusal and leave open what
has been written when something is refused.

Here are the calls as they are carried out: checks, and stores into single cells, one after another.
A store that was made stays made, whatever fails after it. A cell is named by an index, one below
zero counts from the end of its row, and a cell that is not there is trouble too.
-/
import Chip8.InstructionSet
import Chip8.Machine

namespace Chip8

set_option autoImplicit false

def Stack.put (s : Stack) (k : Fin s.slots.size) (w : Word) : Stack :=
  { s with
    slots := s.slots.set k.val w k.isLt
    capacity_pos := by rw [Array.size_set]; exact s.capacity_pos
    depth_le := by rw [Array.size_set]; exact s.depth_le }

def Stack.reach (s : Stack) (depth : Nat) (fits : depth ≤ s.slots.size) : Stack :=
  { s with depth, depth_le := fits }

def Display.put (d : Display) (k : Fin d.cells.size) (v : Byte) : Display :=
  { d with
    cells := d.cells.set k.val v k.isLt
    size_cells := by rw [Array.size_set]; exact d.size_cells }

/-- A sprite row without the pixels that lie past the right edge when it begins in column `x`. -/
def Display.masked (d : Display) (x : Int) (row : Byte) : Byte :=
  let overflow := x + 8 - d.width
  if 0 < overflow then row &&& (0xFF : Byte) <<< overflow.toNat else row

/-- A machine, and a table that rows are added to. -/
structure Bench where
  machine : Machine
  table : InstructionSet := .standard
  deriving DecidableEq

def Bench.exchange (b : Bench) (machine : Machine) : Bench := { b with machine }

inductive Trouble where
  | failure (reason : Failure)
  /-- A cell that is not there. -/
  | noCell
  deriving DecidableEq, Repr

/-- Work on a bench. Trouble keeps the bench as it is by then. -/
abbrev Work (α : Type) := ExceptT Trouble (StateM Bench) α

namespace Work

variable {α : Type}

/-- What comes of the work on a bench, and the bench it leaves. -/
def on (work : Work α) (b : Bench) : Except Trouble α × Bench :=
  StateT.run (ExceptT.run work) b

/-- The answer of a check whose fault ends the call. -/
def ofFault : Except Fault α → Work α
  | .ok a => pure a
  | .error f => throw (.failure (.fault f))

def refuse (reason : Refusal) : Work α := throw (.failure (.refusal reason))

/-! ## Cells -/

/-- The cell that an index means in a row of cells. -/
def cell? (size : Nat) (k : Int) : Option (Fin size) :=
  if h : 0 ≤ k ∧ k < size then some ⟨k.toNat, by omega⟩
  else if h : k < 0 ∧ 0 ≤ k + size then some ⟨(k + size).toNat, by omega⟩
  else none

def found : Option α → Work α
  | some a => pure a
  | none => throw .noCell

def storeByte (k : Int) (v : Byte) : Work Unit := do
  let b ← get
  let n ← found (cell? b.machine.memory.size k)
  set (b.exchange { b.machine with memory := b.machine.memory.poke n.val v })

def storeSlot (k : Int) (w : Word) : Work Unit := do
  let b ← get
  let n ← found (cell? b.machine.stack.slots.size k)
  set (b.exchange { b.machine with stack := b.machine.stack.put n w })

def slot (k : Int) : Work Word := do
  let b ← get
  let n ← found (cell? b.machine.stack.slots.size k)
  return b.machine.stack.slots[n.val]

def storeDepth (depth : Nat) : Work Unit := do
  let b ← get
  if fits : depth ≤ b.machine.stack.slots.size then
    set (b.exchange { b.machine with stack := b.machine.stack.reach depth fits })
  else throw .noCell

def storeRegister (k : Int) (v : Byte) : Work Unit := do
  let b ← get
  let n ← found (cell? 16 k)
  set (b.exchange { b.machine with registers := b.machine.registers.set n v })

def storeCounter (pc : Int) : Work Unit := do
  let b ← get
  set (b.exchange (b.machine.jump pc))

def storeKey (k : Int) (down : Bool) : Work Unit := do
  let b ← get
  let n ← found (cell? 16 k)
  set (b.exchange { b.machine with keypad := b.machine.keypad.put n down })

def pixels (k : Int) : Work Byte := do
  let b ← get
  let n ← found (cell? b.machine.display.cells.size k)
  return b.machine.display.cells[n.val]

def storePixels (k : Int) (v : Byte) : Work Unit := do
  let b ← get
  let n ← found (cell? b.machine.display.cells.size k)
  set (b.exchange { b.machine with display := b.machine.display.put n v })

/-- Values are stored one after another, from a cell on. -/
def storeAll (store : Int → α → Work Unit) (k : Int) : List α → Work Unit
  | [] => pure ()
  | value :: rest => do
      store k value
      storeAll store (k + 1) rest

/-! ## Memory, stack, registers and keys -/

/-- One byte of memory is set; the number counts modulo 256. -/
def store (address value : Int) : Work Unit := do
  let b ← get
  ofFault (b.machine.memory.check address 1)
  storeByte address (BitVec.ofInt 8 value)

/-- A block of memory is written; the numbers count modulo 256. -/
def writeBlock (address : Int) (values : List Int) : Work Unit := do
  let b ← get
  ofFault (b.machine.memory.check address values.length)
  storeAll storeByte address (values.map (BitVec.ofInt 8))

def push (address : Int) : Work Unit := do
  let b ← get
  if b.machine.stack.capacity ≤ b.machine.stack.depth then ofFault (.error .stackOverflow)
  else
    storeSlot b.machine.stack.depth (BitVec.ofInt 16 address)
    storeDepth (b.machine.stack.depth + 1)

def pop : Work Word := do
  let b ← get
  if b.machine.stack.depth = 0 then ofFault (.error .stackUnderflow)
  else
    storeDepth (b.machine.stack.depth - 1)
    slot (b.machine.stack.depth - 1 : Nat)

def setRegister (k value : Int) : Work Unit := do
  let _ ← ofFault (Registers.index k)
  storeRegister k (BitVec.ofInt 8 value)

def setKey (k : Int) (down : Bool) : Work Unit := do
  let _ ← ofFault (Keypad.index k)
  storeKey k down

def setKeys (states : List Bool) : Work Unit :=
  if states.length ≠ 16 then refuse (.keypadLength states.length)
  else storeAll storeKey 0 states

/-! ## The picture -/

/-- The picture is replaced by numbers, each of which must be a byte. -/
def showBytes (values : List Int) : Work Unit := do
  let b ← get
  if values.any fun v => decide (v < 0 ∨ 256 ≤ v) then refuse .byteRange
  else if values.length ≠ b.machine.display.cells.size then
    refuse (.framebufferLength b.machine.display.cells.size values.length)
  else storeAll storePixels 0 (values.map (BitVec.ofInt 8))

/-- Some pixels of one byte are toggled. The answer has those of them that were lit. -/
def toggle (k : Int) (bits : Byte) : Work Byte := do
  let lit ← pixels k
  storePixels k (lit ^^^ bits)
  return lit &&& bits

/-- Eight pixels are toggled, `offset` pixels behind the beginning of a byte. They may straddle two
bytes, and the second of them may lie behind the end of the picture. -/
def toggleRow (index : Int) (offset : Nat) (bits : Byte) : Work Byte := do
  let d := (← get).machine.display
  if offset = 0 then toggle index bits
  else
    let hit ← toggle index (bits >>> offset)
    if index + 1 < d.cells.size then
      let hit' ← toggle (index + 1) (bits <<< (8 - offset))
      return hit ||| hit'
    else return hit

/-- A sprite row is added with its first pixel in column `x` of row `y`. What lies past the right
edge is masked out. -/
def blitRow (x y data : Int) : Work Byte := do
  let d := (← get).machine.display
  if y < 0 ∨ d.height ≤ y then return 0
  else
    let bits := d.masked x (BitVec.ofInt 8 data)
    toggleRow ((x + y * d.width) / 8) ((x + y * d.width) % 8).toNat bits

def blitRows (x y : Int) (collision : Byte) : List Int → Work Byte
  | [] => return collision
  | data :: rest => do
      let hit ← blitRow x y data
      blitRows x (y + 1) (collision ||| hit) rest

def blit (x y : Int) (rows : List Int) : Work Bool := do
  let b ← get
  if Display.spriteLimit < rows.length then refuse (.spriteHeight rows.length)
  else
    let collision ← blitRows (x % b.machine.display.width) y 0 rows
    return collision != 0

/-! ## Programs and tables -/

/-- A program is written into memory, and then execution is sent there. -/
def load (address : Int) (values : List Int) : Work Unit := do
  writeBlock address values
  storeCounter address

/-- A row is added to the table unless one of the rows has its mask and its pattern. -/
def register (row : Instruction) : Work Unit := do
  let b ← get
  match b.table.clash? row with
  | some old => refuse (.patternTaken row.pattern.toNat old.mnemonic)
  | none => set { b with table := b.table ++ [row] }

end Work

inductive Call where
  | store (address value : Int)
  | writeBlock (address : Int) (values : List Int)
  | push (address : Int)
  | pop
  | setRegister (k value : Int)
  | setKeys (states : List Bool)
  | setKey (k : Int) (down : Bool)
  | showBytes (values : List Int)
  | blit (x y : Int) (rows : List Int)
  | load (address : Int) (values : List Int)
  | register (row : Instruction)
  deriving DecidableEq

namespace Call

open Work

/-- A call is carried out. Popping answers with an address, and drawing with 1 or 0. -/
def perform : Call → Work (Option Nat)
  | .store address value => do Work.store address value; return none
  | .writeBlock address values => do Work.writeBlock address values; return none
  | .push address => do Work.push address; return none
  | .pop => do return some (← Work.pop).toNat
  | .setRegister k value => do Work.setRegister k value; return none
  | .setKeys states => do Work.setKeys states; return none
  | .setKey k down => do Work.setKey k down; return none
  | .showBytes values => do Work.showBytes values; return none
  | .blit x y rows => do return some (← Work.blit x y rows).toNat
  | .load address values => do Work.load address values; return none
  | .register row => do Work.register row; return none

/-- What comes of a call by the operations of the parts: an answer and another bench, or a
failure. -/
def result (b : Bench) : Call → Except Failure (Option Nat × Bench)
  | .store address value => do
      let memory ← (b.machine.memory.store address value).mapError .fault
      return (none, b.exchange { b.machine with memory })
  | .writeBlock address values => do
      let bytes := values.map (BitVec.ofInt 8)
      let memory ← (b.machine.memory.writeBlock address bytes).mapError .fault
      return (none, b.exchange { b.machine with memory })
  | .push address => do
      let stack ← (b.machine.stack.push address).mapError .fault
      return (none, b.exchange { b.machine with stack })
  | .pop => do
      let (address, stack) ← b.machine.stack.pop.mapError .fault
      return (some address.toNat, b.exchange { b.machine with stack })
  | .setRegister k value => do
      let registers ← (b.machine.registers.store k value).mapError .fault
      return (none, b.exchange { b.machine with registers })
  | .setKeys states => do
      let machine ← (b.machine.setKeys states).mapError .refusal
      return (none, b.exchange machine)
  | .setKey k down => do
      let keys := b.machine.keypad
      let keypad ← (if down then keys.press k else keys.release k).mapError .fault
      return (none, b.exchange { b.machine with keypad })
  | .showBytes values => do
      let display ← (b.machine.display.loadValues values).mapError .refusal
      return (none, b.exchange { b.machine with display })
  | .blit x y rows => do
      let bytes := rows.map (BitVec.ofInt 8)
      let (hit, display) ← (b.machine.display.blit x y bytes).mapError .refusal
      return (some hit.toNat, b.exchange { b.machine with display })
  | .load address values => do
      let machine ← (b.machine.load address (values.map (BitVec.ofInt 8))).mapError .fault
      return (none, b.exchange machine)
  | .register row => do
      let table ← (b.table.register row).mapError .refusal
      return (none, { b with table })

end Call

end Chip8
