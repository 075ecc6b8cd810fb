/-
# Chip8.Proofs.ByteMap — memory behaves as a map from addresses to bytes

Bytes, words and blocks are read and written at any integer addresses. What is read is what a map
from addresses to bytes holds at the cells that are covered, and what is written is put there and
nowhere else. An access is possible if its address and all the cells it covers are in memory
(`Memory.Access.Inside`), and an access that covers a cell is possible exactly if a byte can be
loaded from each of its cells (`Memory.Access.refused_iff`). Accesses are carried out store by store
here, so that one that is refused might have written something before; none has.

`Memory.accesses_of_map` is the law of all sequences of accesses.
-/
import Chip8.Proofs.Transcript
import Chip8.Proofs.Calls

namespace Chip8.Memory

set_option autoImplicit false

def bytes (m : Memory) (a : Int) : Byte := m.byte a.toNat

/-- An address has a cell in a memory of the given size. -/
def IsCell (size : Nat) (a : Int) : Prop := 0 ≤ a ∧ a < size

inductive Access where
  | load (a : Int)
  | loadWord (a : Int)
  | store (a value : Int)
  | read (a : Int) (n : Nat)
  | write (a : Int) (values : List Int)

inductive Answer where
  | byte (v : Byte)
  | word (w : Word)
  | bytes (vs : List Byte)
  | done
  deriving DecidableEq

namespace Access

def ask {α : Type} (read : Memory → Except Fault α) (answer : α → Answer) : Work Answer := do
  let b ← get
  return answer (← Work.ofFault (read b.machine.memory))

def perform : Access → Work Answer
  | .load a => ask (·.load a) .byte
  | .loadWord a => ask (·.loadWord a) .word
  | .store a value => do Work.store a value; return .done
  | .read a n => ask (·.readBlock a n) .bytes
  | .write a values => do Work.writeBlock a values; return .done

def on (b : Bench) (x : Access) : Except Trouble Answer × Bench := x.perform.on b

/-! ## Accesses to a map -/

def address : Access → Int
  | .load a | .loadWord a | .store a _ | .read a _ | .write a _ => a

def length : Access → Nat
  | .load _ | .store _ _ => 1
  | .loadWord _ => 2
  | .read _ n => n
  | .write _ values => values.length

def written : Access → List Byte
  | .store _ value => [BitVec.ofInt 8 value]
  | .write _ values => values.map (BitVec.ofInt 8)
  | _ => []

/-- The address of an access and all cells that it covers are in memory. -/
def Inside (size : Nat) (x : Access) : Prop :=
  IsCell size x.address ∧ ∀ k < x.length, IsCell size (x.address + k)

def answer (f : Int → Byte) : Access → Answer
  | .load a => .byte (f a)
  | .loadWord a => .word (BitVec.ofNat 16 (256 * (f a).toNat + (f (a + 1)).toNat))
  | .read a n => .bytes ((List.range n).map fun k : Nat => f (a + k))
  | .store _ _ | .write _ _ => .done

def update (x : Access) (f : Int → Byte) (a : Int) : Byte :=
  if x.address ≤ a ∧ a < x.address + x.written.length then
    x.written.getD (a - x.address).toNat 0
  else f a

/-- The address that is to blame for an access that is not possible. -/
def blamed (size : Nat) (x : Access) : Int :=
  if 0 ≤ x.address ∧ x.address < size then x.address + x.length else x.address

instance (size : Nat) (a : Int) : Decidable (IsCell size a) :=
  inferInstanceAs (Decidable (0 ≤ a ∧ a < size))

instance (size : Nat) (x : Access) : Decidable (x.Inside size) :=
  inferInstanceAs (Decidable (IsCell size x.address ∧ ∀ k < x.length, IsCell size (x.address + k)))

/-- What an access comes to on a map with as many cells as given. -/
def onMap (size : Nat) (f : Int → Byte) (x : Access) :
    Except Trouble Answer × (Int → Byte) :=
  if x.Inside size then (.ok (x.answer f), x.update f)
  else (.error (.failure (.fault (.illegalAddress (x.blamed size)))), f)

/-! ## Accesses to memory -/

theorem on_ask {α : Type} (read : Memory → Except Fault α) (answer : α → Answer) (b : Bench) :
    (ask read answer).on b =
      Work.commit b ((read b.machine.memory).mapError Failure.fault >>= fun a =>
        .ok (answer a, b)) := by
  rw [ask, Work.on_bind_of_ok (Work.on_get b)]
  cases read b.machine.memory <;> rfl

/-- The word at an address is made of the bytes at the address and behind it. -/
theorem word_eq (m : Memory) {a : Int} (nonneg : 0 ≤ a) :
    m.word a.toNat = BitVec.ofNat 16 (256 * (m.bytes a).toNat + (m.bytes (a + 1)).toNat) := by
  have next : (a + 1).toNat = a.toNat + 1 := by omega
  rw [bytes, bytes, next, ← toNat_word, BitVec.ofNat_toNat, BitVec.setWidth_eq]

/-- The bytes of a block stand at the addresses from the first one on. -/
theorem peeks_eq (m : Memory) {a : Int} (nonneg : 0 ≤ a) (n : Nat) :
    m.peeks a.toNat n = (List.range n).map fun k : Nat => m.bytes (a + k) := by
  refine List.map_congr_left fun k _ => ?_
  have place : (a + k).toNat = a.toNat + k := by omega
  rw [bytes, place]

/-- An access is carried out if its check is passed, and answers from the bytes of the memory. -/
theorem on_eq (b : Bench) (x : Access) :
    on b x = Work.commit b
      ((b.machine.memory.check x.address x.length).mapError Failure.fault >>= fun _ =>
        .ok (x.answer b.machine.memory.bytes,
          b.exchange { b.machine with
            memory := b.machine.memory.pokes x.address.toNat x.written })) := by
  have nonneg {a n : Int} {u : Unit} (passed : b.machine.memory.check a n = .ok u) : 0 ≤ a :=
    ((check_eq_ok_iff ..).1 passed).1
  cases x with
  | load a =>
      refine (on_ask (·.load a) .byte b).trans ?_
      simp only [Memory.load, address, length]
      cases b.machine.memory.check a 1 <;> rfl
  | loadWord a =>
      refine (on_ask (·.loadWord a) .word b).trans ?_
      simp only [Memory.loadWord, address, length]
      cases passed : b.machine.memory.check a 2 with
      | error f => rfl
      | ok _ =>
          rw [answer, ← word_eq _ (nonneg passed)]
          rfl
  | store a value =>
      refine (Work.on_answer b (fun _ => Answer.done) (Work.on_store b a value)).trans ?_
      simp only [Memory.store, address, length]
      cases b.machine.memory.check a 1 <;> rfl
  | read a n =>
      refine (on_ask (·.readBlock a n) .bytes b).trans ?_
      simp only [readBlock_eq, address, length]
      cases passed : b.machine.memory.check a n with
      | error f => rfl
      | ok _ =>
          rw [answer, ← peeks_eq _ (nonneg passed)]
          rfl
  | write a values =>
      refine (Work.on_answer b (fun _ => Answer.done) (Work.on_writeBlock b a values)).trans ?_
      simp only [writeBlock_eq, address, length, List.length_map]
      cases b.machine.memory.check a values.length <;> rfl

variable {size : Nat} {x : Access} {b : Bench} {f g : Int → Byte}

theorem inside_iff (size : Nat) (x : Access) :
    x.Inside size ↔ 0 ≤ x.address ∧ x.address < size ∧ x.address + x.length ≤ size := by
  constructor
  · rintro ⟨⟨nonneg, below⟩, cells⟩
    refine ⟨nonneg, below, ?_⟩
    rcases Nat.eq_zero_or_pos x.length with none | some
    · omega
    · have last := (cells (x.length - 1) (by omega)).2
      omega
  · rintro ⟨nonneg, below, fits⟩
    refine ⟨⟨nonneg, below⟩, fun k inside => ⟨by omega, by omega⟩⟩

theorem on_of_inside (inside : x.Inside b.machine.memory.size) :
    on b x = (.ok (x.answer b.machine.memory.bytes),
      b.exchange { b.machine with
        memory := b.machine.memory.pokes x.address.toNat x.written }) := by
  rw [on_eq, (check_eq_ok_iff ..).2 ((inside_iff ..).1 inside)]
  rfl

/-- An access that is not possible is refused for an address that has no cell, and changes
nothing. -/
theorem on_of_outside (outside : ¬x.Inside b.machine.memory.size) :
    on b x =
      (.error (.failure (.fault (.illegalAddress (x.blamed b.machine.memory.size)))), b) := by
  rw [on_eq]
  cases checked : b.machine.memory.check x.address x.length with
  | ok _ => exact absurd ((inside_iff ..).2 ((check_eq_ok_iff ..).1 checked)) outside
  | error f =>
      rcases (check_eq_error_iff ..).1 checked with ⟨out, rfl⟩ | ⟨cell, -, rfl⟩
      · rw [blamed, if_neg (by omega)]
        rfl
      · rw [blamed, if_pos cell]
        rfl

theorem length_written_le (x : Access) : x.written.length ≤ x.length := by
  cases x with
  | write a values => exact Nat.le_of_eq (List.length_map ..)
  | store a value => exact Nat.le_refl 1
  | _ => exact Nat.zero_le _

/-- Nothing is answered from other cells than the covered ones. -/
theorem answer_congr (inside : x.Inside size) (same : ∀ a, IsCell size a → f a = g a) :
    x.answer f = x.answer g := by
  obtain ⟨first, cells⟩ := inside
  cases x with
  | load a => exact congrArg Answer.byte (same a first)
  | loadWord a => rw [answer, answer, same a first, same (a + 1) (cells 1 Nat.one_lt_two)]
  | read a n =>
      refine congrArg Answer.bytes (List.map_congr_left fun k below => ?_)
      exact same _ (cells k (List.mem_range.1 below))
  | store a value => rfl
  | write a values => rfl

/-- What is written is found at its addresses, and all else is as it was. -/
theorem bytes_pokes (m : Memory) (inside : x.Inside m.size) {a : Int} (cell : IsCell m.size a) :
    (m.pokes x.address.toNat x.written).bytes a = x.update m.bytes a := by
  obtain ⟨nonneg, below, fits⟩ := (inside_iff ..).1 inside
  have short := length_written_le x
  obtain ⟨above, -⟩ := cell
  have covered : x.address.toNat ≤ a.toNat ∧ a.toNat < x.address.toNat + x.written.length ↔
      x.address ≤ a ∧ a < x.address + x.written.length := by omega
  have place : a.toNat - x.address.toNat = (a - x.address).toNat := by omega
  rw [bytes, byte_pokes _ _ _ _ (by omega), update, place]
  simp only [covered]
  rfl

/-- The memory of a bench has the given size, and holds what the map says. -/
structure Holds (size : Nat) (b : Bench) (f : Int → Byte) : Prop where
  cells : b.machine.memory.size = size
  same : ∀ a, IsCell size a → b.machine.memory.bytes a = f a

/-- An access to memory is answered as the access to its map, and leaves it as the access leaves
the map. -/
theorem holds_on (x : Access) (h : Holds size b f) :
    (on b x).1 = (x.onMap size f).1 ∧ Holds size (on b x).2 (x.onMap size f).2 := by
  obtain ⟨rfl, same⟩ := h
  by_cases inside : x.Inside b.machine.memory.size
  · rw [on_of_inside inside, onMap, if_pos inside]
    refine ⟨congrArg Except.ok (answer_congr inside same), size_pokes .., fun a cell => ?_⟩
    refine (bytes_pokes b.machine.memory inside cell).trans ?_
    simp only [update, same a cell]
  · rw [on_of_outside inside, onMap, if_neg inside]
    exact ⟨rfl, rfl, same⟩

/-! ## Single bytes -/

theorem load_eq_ok_iff (b : Bench) (a : Int) (v : Byte) :
    (on b (load a)).1 = .ok (.byte v) ↔
      IsCell b.machine.memory.size a ∧ v = b.machine.memory.bytes a := by
  by_cases cell : IsCell b.machine.memory.size a
  · have inside : (load a).Inside b.machine.memory.size := by
      obtain ⟨nonneg, below⟩ := cell
      exact (inside_iff ..).2 ⟨nonneg, below, Int.add_one_le_of_lt below⟩
    rw [on_of_inside inside]
    simp [answer, cell, eq_comm]
  · rw [on_of_outside fun inside => cell inside.1]
    simp [cell]

/-- A byte is not loaded exactly if its address has no cell. -/
theorem load_refused_iff (b : Bench) (a : Int) :
    (∃ e, (on b (load a)).1 = .error e) ↔ ¬IsCell b.machine.memory.size a := by
  constructor
  · rintro ⟨e, refused⟩ cell
    rw [(load_eq_ok_iff b a _).2 ⟨cell, rfl⟩] at refused
    cases refused
  · intro out
    exact ⟨_, congrArg Prod.fst (on_of_outside fun inside => out inside.1)⟩

/-- An access that covers a cell is refused exactly if one of its cells is not there. -/
theorem refused_iff (b : Bench) (covers : x.length ≠ 0) :
    (∃ e, (on b x).1 = .error e) ↔
      ∃ k < x.length, ¬IsCell b.machine.memory.size (x.address + k) := by
  constructor
  · rintro ⟨e, refused⟩
    by_contra cells
    push Not at cells
    have first := cells 0 (Nat.pos_of_ne_zero covers)
    rw [Int.natCast_zero, Int.add_zero] at first
    rw [on_of_inside ⟨first, cells⟩] at refused
    cases refused
  · rintro ⟨k, below, out⟩
    exact ⟨_, congrArg Prod.fst (on_of_outside fun inside => out (inside.2 k below))⟩

/-- There is one kind of fault. -/
theorem fault_of_refused {e : Trouble} (refused : (on b x).1 = .error e) :
    ∃ a, e = .failure (.fault (.illegalAddress a)) ∧ (on b x).2 = b := by
  by_cases inside : x.Inside b.machine.memory.size
  · rw [on_of_inside inside] at refused
    cases refused
  · rw [on_of_outside inside] at refused ⊢
    cases refused
    exact ⟨_, rfl, rfl⟩

/-- A word is loaded as its two bytes are, the first of which counts 256-fold. -/
theorem loadWord_iff (b : Bench) (a : Int) (w : Word) :
    (on b (loadWord a)).1 = .ok (.word w) ↔
      ∃ high low, (on b (load a)).1 = .ok (.byte high) ∧ (on b (load (a + 1))).1 = .ok (.byte low) ∧
        w.toNat = 256 * high.toNat + low.toNat := by
  simp only [load_eq_ok_iff]
  by_cases inside : (loadWord a).Inside b.machine.memory.size
  · have number (high low : Byte) : w = BitVec.ofNat 16 (256 * high.toNat + low.toNat) ↔
        w.toNat = 256 * high.toNat + low.toNat := by
      have := high.isLt
      have := low.isLt
      rw [← BitVec.toNat_inj, BitVec.toNat_ofNat, Nat.mod_eq_of_lt (by omega)]
    have first : IsCell b.machine.memory.size a := inside.1
    have second : IsCell b.machine.memory.size (a + 1) := inside.2 1 Nat.one_lt_two
    rw [on_of_inside inside]
    simp [answer, first, second, ← number, eq_comm]
  · rw [on_of_outside inside]
    refine iff_of_false nofun ?_
    rintro ⟨high, low, ⟨⟨nonneg, below⟩, -⟩, ⟨⟨-, next⟩, -⟩, -⟩
    have fits : a + 2 ≤ b.machine.memory.size := by omega
    exact inside ((inside_iff ..).2 ⟨nonneg, below, fits⟩)

/-- A block that is not empty is read as its bytes are loaded. -/
theorem read_iff (b : Bench) (a : Int) {n : Nat} (covers : n ≠ 0) (vs : List Byte) :
    (on b (read a n)).1 = .ok (.bytes vs) ↔
      (List.range n).map (fun k : Nat => (on b (load (a + k))).1) =
        vs.map fun v => .ok (.byte v) := by
  by_cases inside : (read a n).Inside b.machine.memory.size
  · have each : (List.range n).map (fun k : Nat => (on b (load (a + k))).1) =
        ((List.range n).map fun k : Nat => b.machine.memory.bytes (a + k)).map
          fun v => .ok (.byte v) := by
      rw [List.map_map]
      refine List.map_congr_left fun k below => ?_
      exact (load_eq_ok_iff b _ _).2 ⟨inside.2 k (List.mem_range.1 below), rfl⟩
    have apart : Function.Injective fun v : Byte => (.ok (.byte v) : Except Trouble Answer) := by
      intro v v' same
      cases same
      rfl
    rw [on_of_inside inside, each, (List.map_injective_iff.2 apart).eq_iff]
    simp [answer]
  · obtain ⟨k, below, out⟩ := (refused_iff (x := read a n) b covers).1
      ⟨_, congrArg Prod.fst (on_of_outside inside)⟩
    rw [on_of_outside inside]
    refine iff_of_false nofun fun same => ?_
    have loaded : (on b (load (a + k))).1 ∈ vs.map fun v => .ok (.byte v) :=
      same ▸ List.mem_map_of_mem (List.mem_range.2 below)
    obtain ⟨v, -, given⟩ := List.mem_map.1 loaded
    exact out ((load_eq_ok_iff b _ v).1 given.symm).1

end Access

open Access in
/-- The law of memory. Accesses to new memory are answered as the same accesses to a map from
addresses to bytes that are all zero, and memory then holds what the map says. A word and a block
are what is loaded byte by byte, and an access that covers a cell is refused exactly if one of its
cells is not there, which is to say that a byte of it cannot be loaded; the fault is an illegal
address, and nothing is changed. -/
theorem accesses_of_map (size : Nat) (h : 0 < size) (b : Bench)
    (new : b.machine.memory = blank size h) (accesses : List Access) :
    let after := transcript on b accesses
    let held := transcript (onMap size) (fun _ => 0) accesses
    let c := after.2
    after.1 = held.1 ∧ c.machine.memory.size = size ∧
    (∀ a, IsCell size a → c.machine.memory.bytes a = held.2 a) ∧
    (∀ a w, (on c (.loadWord a)).1 = .ok (.word w) ↔
      ∃ high low, (on c (.load a)).1 = .ok (.byte high) ∧
        (on c (.load (a + 1))).1 = .ok (.byte low) ∧
        w.toNat = 256 * high.toNat + low.toNat) ∧
    (∀ a n vs, n ≠ 0 →
      ((on c (.read a n)).1 = .ok (.bytes vs) ↔
        (List.range n).map (fun k : Nat => (on c (.load (a + k))).1) =
          vs.map fun v => .ok (.byte v))) ∧
    (∀ x : Access, x.length ≠ 0 →
      ((∃ e, (on c x).1 = .error e) ↔ ∃ k < x.length, ¬IsCell size (x.address + k)) ∧
      ((∃ e, (on c x).1 = .error e) ↔
        ∃ k < x.length, ∃ e, (on c (.load (x.address + k))).1 = .error e)) ∧
    ∀ (x : Access) (e : Trouble), (on c x).1 = .error e →
      ∃ a, e = .failure (.fault (.illegalAddress a)) ∧ (on c x).2 = c := by
  intro after held c
  have start : Holds size b fun _ => 0 := by
    refine ⟨?_, fun a _ => ?_⟩
    · rw [new]
      exact Array.size_replicate
    · rw [new]
      exact byte_blank h a.toNat
  obtain ⟨answers, holds⟩ := transcript_eq (fun x h => holds_on x h) start accesses
  have cells : c.machine.memory.size = size := holds.cells
  refine ⟨answers, cells, holds.same, loadWord_iff c, fun a n vs covers => read_iff c a covers vs,
    ?_, ?_⟩
  · intro x covers
    have refused := refused_iff c covers
    simp only [load_refused_iff, cells] at refused ⊢
    exact ⟨refused, refused⟩
  · exact fun x e refused => fault_of_refused refused

open Access in
/-- Four cells: blocks that overlap, a word across the border of one, and accesses at both ends. -/
theorem accesses_of_map_in_four_cells :
    let b : Bench := { machine := { Machine.standard with memory := blank 4 (Nat.succ_pos 3) } }
    let accesses : List Access :=
      [.write 0 [1, 2, 0x103], .store 1 (-1), .write 2 [7, 8, 9], .write (-1) [5], .loadWord 1,
        .loadWord 3, .read 1 3]
    let after := transcript on b accesses
    0 < 4 ∧ b.machine.memory = blank 4 (Nat.succ_pos 3) ∧
    after.1 =
      [.ok .done, .ok .done, .error (.failure (.fault (.illegalAddress 5))),
        .error (.failure (.fault (.illegalAddress (-1)))), .ok (.word 0xFF03),
        .error (.failure (.fault (.illegalAddress 5))), .ok (.bytes [0xFF, 3, 0])] ∧
    (∃ k < (Access.write 2 [7, 8, 9]).length, ∃ e, (on after.2 (.load (2 + k))).1 = .error e) ∧
    IsCell 4 3 ∧ after.2.machine.memory.bytes 3 = 0 := by
  intro b accesses after
  obtain ⟨answers, -, bytes, -, -, refused, -⟩ := accesses_of_map 4 (Nat.succ_pos 3) b rfl accesses
  have last : IsCell 4 3 := by decide
  refine ⟨by decide, rfl, answers.trans ?_, ?_, last, bytes 3 last⟩
  · decide +kernel
  · refine (refused (.write 2 [7, 8, 9]) (by decide)).2.1 ((refused _ (by decide)).1.2 ⟨2, ?_⟩)
    exact ⟨by decide, by decide⟩

end Chip8.Memory
