/-
# Chip8.Memory — the address space of the interpreter

One array of bytes holds the font, the program and its data; nothing in it is
protected. Every access names an address, which may be any integer, and is
refused with `Fault.illegalAddress` instead of being wrapped or clamped: the
fault carries the address itself when that lies outside, and otherwise the end of
the block when that lies outside.

`byte` is the view of memory as a total map from addresses to bytes. Reads are
stated through it, and `byte_poke` and `byte_pokes` say what a write does to it.
-/
import Chip8.Fault
import Chip8.Refusal

namespace Chip8

set_option autoImplicit false

structure Memory where
  cells : Array Byte
  size_pos : 0 < cells.size
  deriving DecidableEq

namespace Memory

def standardSize : Nat := 0x1000

def blank (size : Nat) (h : 0 < size) : Memory := ⟨Array.replicate size 0, by simpa using h⟩

/-- Memory of any positive size that there is room for. -/
def create (size : Int) (limits : Limits := {}) : Except Refusal Memory :=
  if h : 0 < size then
    (Refusal.room size.toNat 1 limits).map fun _ => blank size.toNat (Refusal.toNat_pos h)
  else .error .memorySize

def standard : Memory := blank standardSize (by decide)

instance : Inhabited Memory := ⟨standard⟩

def size (m : Memory) : Nat := m.cells.size

/-- The byte at an address; zero outside. -/
def byte (m : Memory) (a : Nat) : Byte := m.cells.getD a 0

def poke (m : Memory) (a : Nat) (v : Byte) : Memory :=
  ⟨m.cells.setIfInBounds a v, by simpa using m.size_pos⟩

def pokes (m : Memory) (a : Nat) : List Byte → Memory
  | [] => m
  | v :: vs => (m.poke a v).pokes (a + 1) vs

def peeks (m : Memory) (a n : Nat) : List Byte := (List.range n).map fun k => m.byte (a + k)

@[simp] theorem size_poke (m : Memory) (a : Nat) (v : Byte) : (m.poke a v).size = m.size := by
  simp [poke, size]

@[simp] theorem size_pokes (m : Memory) (a : Nat) (vs : List Byte) :
    (m.pokes a vs).size = m.size := by
  induction vs generalizing m a with
  | nil => rfl
  | cons v vs ih => rw [pokes, ih, size_poke]

theorem byte_poke (m : Memory) (a b : Nat) (v : Byte) :
    (m.poke a v).byte b = if a = b ∧ a < m.size then v else m.byte b := by
  simp only [byte, poke, size, Array.getD_eq_getD_getElem?, Array.getElem?_setIfInBounds]
  by_cases same : a = b
  · subst same
    by_cases inside : a < m.cells.size <;> simp [inside]
  · simp [same]

theorem byte_pokes (m : Memory) (a b : Nat) (vs : List Byte) (fits : a + vs.length ≤ m.size) :
    (m.pokes a vs).byte b =
      if a ≤ b ∧ b < a + vs.length then vs.getD (b - a) 0 else m.byte b := by
  induction vs generalizing m a with
  | nil => rw [pokes, if_neg (by rw [List.length_nil]; omega)]
  | cons v vs ih =>
    simp only [List.length_cons] at fits
    rw [pokes, ih _ _ (by rw [size_poke]; omega), byte_poke]
    rcases Nat.lt_trichotomy b a with before | rfl | after
    · rw [if_neg (by omega), if_neg (by omega), if_neg (by omega)]
    · rw [if_neg (by omega), if_pos ⟨rfl, by omega⟩, if_pos ⟨Nat.le_refl b, by simp⟩]
      simp
    · by_cases inside : b < a + 1 + vs.length
      · obtain ⟨k, rfl⟩ : ∃ k, b = a + 1 + k := ⟨b - (a + 1), by omega⟩
        rw [if_pos ⟨by omega, inside⟩, if_pos ⟨by omega, by rw [List.length_cons]; omega⟩,
          show a + 1 + k - (a + 1) = k by omega, show a + 1 + k - a = k + 1 by omega]
        rfl
      · rw [if_neg (by omega), if_neg (by omega), if_neg (by rw [List.length_cons]; omega)]

@[simp] theorem length_peeks (m : Memory) (a n : Nat) : (m.peeks a n).length = n := by
  simp [peeks]

/-! ## Checked access -/

/-- A block of `length` cells at `address` lies in memory. -/
def check (m : Memory) (address length : Int) : Except Fault Unit :=
  if address < 0 ∨ m.size ≤ address then .error (.illegalAddress address)
  else if m.size < address + length then .error (.illegalAddress (address + length))
  else .ok ()

def load (m : Memory) (address : Int) : Except Fault Byte := do
  m.check address 1
  return m.byte address.toNat

/-- The big-endian word at an address. -/
def word (m : Memory) (a : Nat) : Word := m.byte a ++ m.byte (a + 1)

def loadWord (m : Memory) (address : Int) : Except Fault Word := do
  m.check address 2
  return m.word address.toNat

/-- One byte is replaced; the value counts modulo 256. -/
def store (m : Memory) (address value : Int) : Except Fault Memory := do
  m.check address 1
  return m.poke address.toNat (BitVec.ofInt 8 value)

/-- The block from `address` up to `address + length`. An end below zero counts
from the end of memory, and an end before the start leaves the block empty. -/
def readBlock (m : Memory) (address length : Int) : Except Fault (List Byte) := do
  m.check address length
  let stop := address + length
  let stop := if stop < 0 then stop + m.size else stop
  return m.peeks address.toNat (stop.toNat - address.toNat)

/-- A whole block is replaced, or nothing is. -/
def writeBlock (m : Memory) (address : Int) (values : List Byte) : Except Fault Memory := do
  m.check address values.length
  return m.pokes address.toNat values

end Memory

end Chip8
