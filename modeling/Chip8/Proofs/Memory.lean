/-
# Chip8.Proofs.Memory — which blocks lie in memory

A block access is decided by its check alone (`readBlock_eq`, `writeBlock_eq`), and the
check by two comparisons (`check_eq_ok_iff`). A refused block is blamed on its address
when that lies outside, and else on its end (`check_eq_error_iff`).

Writing a block and reading it take each other back: what was written is read (`peeks_pokes`),
and to write what was read changes nothing (`pokes_peeks`).
-/
import Chip8.Font
import Chip8.Memory

namespace Chip8.Memory

set_option autoImplicit false

theorem check_eq_ok_iff (m : Memory) (address length : Int) :
    m.check address length = .ok () ↔
      0 ≤ address ∧ address < m.size ∧ address + length ≤ m.size := by
  unfold check
  split
  · rename_i outside
    refine ⟨fun h => by simp at h, ?_⟩
    rintro ⟨nonneg, below, -⟩
    omega
  · split
    · rename_i long
      refine ⟨fun h => by simp at h, ?_⟩
      rintro ⟨-, -, fits⟩
      omega
    · exact ⟨fun _ => by omega, fun _ => rfl⟩

/-- Why a block is refused. -/
theorem check_eq_error_iff (m : Memory) (address length : Int) (f : Fault) :
    m.check address length = .error f ↔
      (address < 0 ∨ m.size ≤ address) ∧ f = .illegalAddress address ∨
      (0 ≤ address ∧ address < m.size) ∧ m.size < address + length ∧
        f = .illegalAddress (address + length) := by
  unfold check
  split
  · rename_i outside
    constructor
    · intro h
      cases h
      exact .inl ⟨outside, rfl⟩
    · rintro (⟨-, rfl⟩ | ⟨inside, -⟩)
      · rfl
      · omega
  · rename_i inside
    split
    · rename_i long
      constructor
      · intro h
        cases h
        exact .inr ⟨by omega, long, rfl⟩
      · rintro (⟨outside, -⟩ | ⟨-, -, rfl⟩)
        · omega
        · rfl
    · refine ⟨fun h => by simp at h, ?_⟩
      rintro (⟨outside, -⟩ | ⟨-, long, -⟩) <;> omega

/-- A block of `n` cells is read when it lies in memory. -/
theorem readBlock_eq (m : Memory) (address : Int) (n : Nat) :
    m.readBlock address n = (m.check address n).map fun _ => m.peeks address.toNat n := by
  unfold readBlock
  cases checked : m.check address n with
  | error f => rfl
  | ok _ =>
      obtain ⟨nonneg, -, -⟩ := (check_eq_ok_iff m address n).1 checked
      have cut : (address + n).toNat - address.toNat = n := by omega
      change Except.ok _ = _
      rw [if_neg (by omega), cut]
      rfl

/-- A block is written when it lies in memory. -/
theorem writeBlock_eq (m : Memory) (address : Int) (values : List Byte) :
    m.writeBlock address values =
      (m.check address values.length).map fun _ => m.pokes address.toNat values := by
  unfold writeBlock
  cases m.check address values.length <;> rfl

theorem readBlock_eq_error_iff (m : Memory) (address : Int) (n : Nat) (f : Fault) :
    m.readBlock address n = .error f ↔ m.check address n = .error f := by
  rw [readBlock_eq]
  cases m.check address n <;> simp [Except.map]

theorem writeBlock_eq_error_iff (m : Memory) (address : Int) (values : List Byte) (f : Fault) :
    m.writeBlock address values = .error f ↔ m.check address values.length = .error f := by
  rw [writeBlock_eq]
  cases m.check address values.length <;> simp [Except.map]

/-- A block that was read lay in memory. -/
theorem readBlock_eq_ok {m : Memory} {address : Int} {n : Nat} {values : List Byte}
    (read : m.readBlock address n = .ok values) :
    0 ≤ address ∧ address < m.size ∧ address + n ≤ m.size ∧
      values = m.peeks address.toNat n := by
  rw [readBlock_eq] at read
  cases checked : m.check address n with
  | error f => rw [checked] at read; cases read
  | ok _ =>
      obtain ⟨nonneg, below, fits⟩ := (check_eq_ok_iff ..).1 checked
      rw [checked] at read
      cases read
      exact ⟨nonneg, below, fits, rfl⟩

/-- A block that was written lay in memory. -/
theorem writeBlock_eq_ok {m m' : Memory} {address : Int} {values : List Byte}
    (written : m.writeBlock address values = .ok m') :
    0 ≤ address ∧ address < m.size ∧ address + values.length ≤ m.size ∧
      m' = m.pokes address.toNat values := by
  rw [writeBlock_eq] at written
  cases checked : m.check address values.length with
  | error f => rw [checked] at written; cases written
  | ok _ =>
      obtain ⟨nonneg, below, fits⟩ := (check_eq_ok_iff ..).1 checked
      rw [checked] at written
      cases written
      exact ⟨nonneg, below, fits, rfl⟩

theorem size_of_writeBlock {m m' : Memory} {address : Int} {values : List Byte}
    (written : m.writeBlock address values = .ok m') : m'.size = m.size := by
  obtain ⟨-, -, -, rfl⟩ := writeBlock_eq_ok written
  exact size_pokes ..

theorem size_of_store {m m' : Memory} {address value : Int}
    (stored : m.store address value = .ok m') : m'.size = m.size := by
  unfold store at stored
  cases checked : m.check address 1 with
  | error f => rw [checked] at stored; cases stored
  | ok _ =>
      rw [checked] at stored
      cases stored
      exact size_poke ..

theorem length_of_readBlock {m : Memory} {address : Int} {n : Nat} {values : List Byte}
    (read : m.readBlock address n = .ok values) : values.length = n := by
  obtain ⟨-, -, -, rfl⟩ := readBlock_eq_ok read
  exact length_peeks ..

/-- A block of some cells that lies in memory is read. -/
theorem readBlock_of_fits {m : Memory} {address : Int} {n : Nat} (nonneg : 0 ≤ address)
    (fits : address + n ≤ m.size) (nonempty : 0 < n) :
    m.readBlock address n = .ok (m.peeks address.toNat n) := by
  have checked : m.check address n = .ok () :=
    (check_eq_ok_iff ..).2 ⟨nonneg, by omega, fits⟩
  rw [readBlock_eq, checked]
  rfl

/-- A block of some cells that lies in memory is written. -/
theorem writeBlock_of_fits {m : Memory} {address : Int} {values : List Byte}
    (nonneg : 0 ≤ address) (fits : address + values.length ≤ m.size)
    (nonempty : 0 < values.length) :
    m.writeBlock address values = .ok (m.pokes address.toNat values) := by
  have checked : m.check address values.length = .ok () :=
    (check_eq_ok_iff ..).2 ⟨nonneg, by omega, fits⟩
  rw [writeBlock_eq, checked]
  rfl

/-! ## What stands in a block -/

/-- Memories of one size are equal if no address tells them apart. -/
theorem ext_byte {m m' : Memory} (size : m'.size = m.size) (same : ∀ a, m'.byte a = m.byte a) :
    m' = m := by
  obtain ⟨cells, pos⟩ := m
  obtain ⟨cells', pos'⟩ := m'
  congr 1
  refine Array.ext size fun a inside inside' => ?_
  have here := same a
  rw [byte, byte, Array.getD_eq_getD_getElem?, Array.getD_eq_getD_getElem?,
    Array.getElem?_eq_getElem inside, Array.getElem?_eq_getElem inside'] at here
  exact here

theorem getElem?_peeks (m : Memory) (a n k : Nat) :
    (m.peeks a n)[k]? = if k < n then some (m.byte (a + k)) else none := by
  rw [peeks, List.getElem?_map]
  by_cases inside : k < n
  · rw [List.getElem?_range inside, if_pos inside]
    rfl
  · rw [List.getElem?_eq_none (by simpa using inside), if_neg inside]
    rfl

/-- A block that was written is read back. -/
theorem peeks_pokes (m : Memory) (a : Nat) (vs : List Byte) (fits : a + vs.length ≤ m.size) :
    (m.pokes a vs).peeks a vs.length = vs := by
  apply List.ext_getElem?
  intro k
  rw [getElem?_peeks, byte_pokes _ _ _ _ fits]
  split
  · rename_i inside
    rw [if_pos ⟨by omega, by omega⟩, Nat.add_sub_cancel_left, List.getD_eq_getElem?_getD,
      List.getElem?_eq_getElem inside]
    rfl
  · rename_i outside
    rw [List.getElem?_eq_none (Nat.le_of_not_lt outside)]

/-- A block that is written where it was read changes nothing. -/
theorem pokes_peeks (m : Memory) (a n : Nat) (fits : a + n ≤ m.size) :
    m.pokes a (m.peeks a n) = m := by
  apply ext_byte (size_pokes ..)
  intro b
  rw [byte_pokes _ _ _ _ (by rw [length_peeks]; exact fits)]
  split
  · rename_i inside
    rw [length_peeks] at inside
    rw [List.getD_eq_getElem?_getD, getElem?_peeks, if_pos (by omega), Option.getD_some,
      Nat.add_sub_cancel' inside.1]
  · rfl

/-- The high byte of a word stands before the low one. -/
theorem toNat_word (m : Memory) (a : Nat) :
    (m.word a).toNat = 256 * (m.byte a).toNat + (m.byte (a + 1)).toNat := by
  have low := (m.byte (a + 1)).isLt
  rw [word, BitVec.toNat_append, Nat.shiftLeft_eq, Nat.mul_comm, ← Nat.two_pow_add_eq_or_of_lt low]

/-- A word keeps its value when a block beside it is written. -/
theorem word_pokes (m : Memory) {a b : Nat} {vs : List Byte} (fits : a + vs.length ≤ m.size)
    (beside : b + 2 ≤ a ∨ a + vs.length ≤ b) : (m.pokes a vs).word b = m.word b := by
  rw [word, word, byte_pokes _ _ _ _ fits, byte_pokes _ _ _ _ fits, if_neg (by omega),
    if_neg (by omega)]

/-! ## Memory of a new machine -/

theorem byte_blank {size : Nat} (positive : 0 < size) (a : Nat) :
    (blank size positive).byte a = 0 := by
  rw [byte, blank, Array.getD_eq_getD_getElem?, Array.getElem?_replicate]
  split <;> rfl

/-- A blank memory with the font holds the font and zeros. -/
theorem byte_font {size : Nat} (positive : 0 < size)
    (room : Font.base + Font.bytes.length ≤ size) (a : Nat) :
    ((blank size positive).pokes Font.base Font.bytes).byte a =
      if 0x50 ≤ a ∧ a < 0xA0 then Font.bytes.getD (a - 0x50) 0 else 0 := by
  have whole : Font.base + Font.bytes.length ≤ (blank size positive).size := by
    rw [Memory.size, blank, Array.size_replicate]
    exact room
  rw [byte_pokes _ _ _ _ whole, byte_blank]
  rfl

end Chip8.Memory
