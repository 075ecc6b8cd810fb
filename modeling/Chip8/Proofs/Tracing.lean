/-
# Chip8.Proofs.Tracing — what the trace of a session tells

A player that traces records every instruction it executes, and the fault that halts it. The
registers and timers of a record are those before the instruction, but its opcode is looked up
after it. The two agree unless the instruction stores into its own two bytes
(`word_of_done`): then the trace shows an opcode that was never executed
(`entries_of_self_store`).

`entries_run` is the law of tracing: the last 512 records of a session, which are those of the
fetched opcodes as long as no instruction stores over itself.
-/
import Mathlib.Data.List.Forall2
import Chip8.Proofs.Faults
import Chip8.Proofs.Frames
import Chip8.Proofs.Ring

namespace Chip8

set_option autoImplicit false

/-! ## One instruction -/

namespace Memory

/-- A word keeps its value when a block beside it is written. -/
theorem word_of_writeBlock {m m' : Memory} {address : Int} {values : List Byte}
    (written : m.writeBlock address values = .ok m') {a : Nat}
    (beside : a + 2 ≤ address ∨ address + values.length ≤ a) : m'.word a = m.word a := by
  obtain ⟨nonneg, -, fits, rfl⟩ := writeBlock_eq_ok written
  exact word_pokes m (by omega) (by omega)

end Memory

structure Trace.Entry.Shows (table : InstructionSet) (w : Opcode) (e : Trace.Entry) :
    Prop where
  opcode : e.opcode = some w
  mnemonic : table.disassemble w = .ok e.mnemonic

namespace Machine

/-- The next instruction stores into the two bytes where it stands. -/
def StoresOverItself (m : Machine) (table : InstructionSet := .standard) : Prop :=
  ∃ w o n, m.fetch = .ok w ∧ table.operation? w = some o ∧
    (o = .decimalDigits ∨ o = .saveRegisters) ∧ o.block? w = some n ∧
    m.registers.i < m.registers.pc + 2 ∧ m.registers.pc < m.registers.i + n

variable {s : Setting} {m : Machine} {w : Opcode}

/-- An instruction that is no store, or that stores beside itself. -/
theorem not_storesOverItself {o : Operation} (fetched : m.fetch = .ok w)
    (means : Operation.ofOpcode? w = some o)
    (beside : ∀ n, o = .decimalDigits ∨ o = .saveRegisters → o.block? w = some n →
      m.registers.pc + 2 ≤ m.registers.i ∨ m.registers.i + n ≤ m.registers.pc) :
    ¬m.StoresOverItself := by
  rintro ⟨w', o', n, again, known, stores, block, below, above⟩
  obtain rfl : w = w' := Except.ok.inj (fetched.symm.trans again)
  obtain rfl : o = o' :=
    Option.some.inj (means.symm.trans ((InstructionSet.operation?_standard w).symm.trans known))
  have := beside n stores block
  omega

/-- After an instruction that does not store over itself, its opcode stands where it was. -/
theorem word_of_done {row : Instruction} (fetched : m.fetch = .ok w)
    (done : (m.step s).outcome = .ok row) (other : ¬m.StoresOverItself s.table) :
    (m.step s).machine.memory.word m.registers.pc.toNat = w := by
  obtain ⟨w', o, after, again, means, applied, result⟩ := operated_of_done done
  obtain rfl : w = w' := Except.ok.inj (fetched.symm.trans again)
  obtain ⟨nonneg, -, stands⟩ := (fetch_eq_ok_iff ..).1 fetched
  have beside {n : Nat} (store : o = .decimalDigits ∨ o = .saveRegisters)
      (block : o.block? w = some n) :
      (m.registers.pc.toNat : Int) + 2 ≤ m.registers.i ∨
        m.registers.i + n ≤ m.registers.pc.toNat := by
    by_contra overlap
    exact other ⟨w, o, n, fetched, means, store, block, by omega, by omega⟩
  rw [result, stands]
  by_cases digits : o = .decimalDigits
  · subst digits
    obtain ⟨memory, written, rfl⟩ := Operation.decimalDigits_eq_ok applied
    exact Memory.word_of_writeBlock written (beside (.inl rfl) rfl)
  by_cases save : o = .saveRegisters
  · subst save
    obtain ⟨memory, written, rfl⟩ := Operation.saveRegisters_eq_ok applied
    refine Memory.word_of_writeBlock written ?_
    rw [Operation.length_saved]
    exact beside (.inr rfl) rfl
  · exact congrArg (Memory.word · _) ((Operation.leaves_of_apply applied).memory digits save)

/-- A record tells the registers and timers of a machine, with the program counter and the index
reduced to words. -/
structure ToldBy (m : Machine) (e : Trace.Entry) : Prop where
  pc : (e.pc.toNat : Int) = m.registers.pc % 0x10000
  i : (e.i.toNat : Int) = m.registers.i % 0x10000
  sp : e.sp = m.stack.depth
  v : e.v = m.registers.v.toList
  delay : e.delay = m.timers.delay
  sound : e.sound = m.timers.sound

theorem toldBy_ofSnapshot (m : Machine) (opcode : Option Int) (mnemonic note : String) :
    m.ToldBy (.ofSnapshot m.snapshot opcode mnemonic note) := by
  have word (value : Int) : ((BitVec.ofInt 16 value).toNat : Int) = value % 0x10000 := by
    rw [BitVec.toNat_ofInt]
    omega
  have byte (b : Byte) : BitVec.ofInt 8 b.toNat = b := by
    rw [BitVec.ofInt_natCast, BitVec.ofNat_toNat, BitVec.setWidth_eq]
  have registers : (m.registers.v.toList.map fun b => (b.toNat : Int)).map (BitVec.ofInt 8) =
      m.registers.v.toList := by
    rw [List.map_map]
    exact List.map_id'' byte _
  exact ⟨word _, word _, rfl, registers, byte _, byte _⟩

theorem shows_entry {table : InstructionSet} (readable : table.Readable) (m : Machine)
    (w : Opcode) : (m.entry w table).Shows table w where
  opcode := congrArg some (by rw [BitVec.ofInt_natCast, BitVec.ofNat_toNat, BitVec.setWidth_eq])
  mnemonic := readable.disassemble w

/-- The instructions of a path are executed. -/
theorem Executes.done {last : Machine} {path : List Machine}
    (h : Executes s m path last) : ∀ b ∈ path, ∃ row, (b.step s).outcome = .ok row := by
  induction h with
  | none m => exact fun _ inside => (nomatch inside)
  | next done rest ih => exact List.forall_mem_cons.2 ⟨⟨_, done⟩, ih⟩

/-- The opcode of an instruction that is executed was fetched from where it stands. -/
theorem fetch_of_done {row : Instruction} (done : (m.step s).outcome = .ok row) :
    m.fetch = .ok (m.memory.word m.registers.pc.toNat) := by
  obtain ⟨w, -, -, fetched, -⟩ := operated_of_done done
  obtain ⟨-, -, rfl⟩ := (fetch_eq_ok_iff ..).1 fetched
  exact fetched

end Machine

/-! ## Sessions -/

namespace Player

variable {s : Setting} {budget : Nat} {c d : Console} {acts : List Act} {h : History}

theorem Course.done (course : Course s budget c acts h d) :
    ∀ m ∈ h.played.flatten, ∃ row, (m.step s).outcome = .ok row := by
  have played {before : List (List Machine)} {d : Console} {path : List Machine} {last : Machine}
      (executes : d.machine.Executes s path last)
      (earlier : ∀ m ∈ before.flatten, ∃ row, (m.step s).outcome = .ok row) :
      ∀ m ∈ (before ++ [path]).flatten, ∃ row, (m.step s).outcome = .ok row := by
    rw [List.flatten_concat]
    exact List.forall_mem_append.2 ⟨earlier, executes.done⟩
  induction course with
  | start => exact fun _ inside => (nomatch inside)
  | next before happens ih =>
      cases happens with
      | press | release | liftKeys | idle => exact ih
      | whole executes _ => exact played executes ih
      | cut executes _ _ => exact played executes ih

/-- The machines before the executed instructions, and before the one that faulted. -/
def History.attempted (h : History) : List Machine :=
  h.played.flatten ++ (h.fault.map (·.1)).toList

/-- Every record tells the state before its instruction, whatever the instruction stores. -/
theorem History.toldBy_entries (h : History) (s : Setting) :
    List.Forall₂ Machine.ToldBy h.attempted (h.entries s) := by
  have played : List.Forall₂ Machine.ToldBy h.played.flatten
      (h.played.flatten.map (·.stepEntry s)) :=
    List.forall₂_map_right_iff.2 (List.forall₂_same.2 fun m _ => m.toldBy_ofSnapshot _ _ _)
  refine List.rel_append played ?_
  cases h.fault with
  | none => exact .nil
  | some fault => exact .cons (fault.1.toldBy_ofSnapshot _ _ _) .nil

/-- The law of tracing, whatever instructions the machine has, if each can be read. A player that
traces holds the last 512 records of its session, one for each executed instruction and one for the
fault, and each tells the state before its instruction. As long as no instruction stores over
itself, these are the records of the opcodes that were fetched. -/
theorem entries_run (setup : Setup) (log : Log.Filter) {table : InstructionSet}
    (readable : table.Readable) (tracing : log.enabled (some "trace") = true) (c : Console)
    (acts : List Act) :
    let p := create setup log
    let g := Session.run ⟨p, c, []⟩ acts table
    ∃ (h : History) (words : List Opcode),
      Course (p.setting table) setup.budget c acts h g.console ∧
      h.played.flatten.map Machine.fetch = words.map .ok ∧
      g.player.trace.map (·.entries none) = some ((h.entries (p.setting table)).rtake 512) ∧
      List.Forall₂ Machine.ToldBy h.attempted (h.entries (p.setting table)) ∧
      ((∀ m ∈ h.played.flatten, ¬m.StoresOverItself table) →
        h.entries (p.setting table) =
            List.zipWith (Machine.entry · · table) h.played.flatten words ++
              (h.fault.map fun (m, f) => m.faultEntry f).toList ∧
          List.Forall₂ (Trace.Entry.Shows table) words
            ((h.entries (p.setting table)).take words.length)) := by
  intro p g
  obtain ⟨h, course, tracks⟩ := tracks_run (p := p) readable rfl c acts
  have done := course.done
  let fetched (m : Machine) : Opcode := m.memory.word m.registers.pc.toNat
  refine ⟨h, h.played.flatten.map fetched, course, ?_, ?_, h.toldBy_entries _, fun apart => ?_⟩
  · rw [List.map_map]
    refine List.map_congr_left fun m inside => ?_
    obtain ⟨row, executed⟩ := done m inside
    exact Machine.fetch_of_done executed
  · have fresh : p.trace = some (.empty traceCapacity (by decide)) := if_pos tracing
    rw [tracks.trace, fresh]
    exact congrArg some (Trace.entries_foldl ..)
  · have told : h.played.flatten.map (·.stepEntry (p.setting table)) =
        h.played.flatten.map fun m => m.entry (fetched m) table := by
      refine List.map_congr_left fun m inside => ?_
      obtain ⟨row, executed⟩ := done m inside
      exact congrArg (m.entry · table)
        (Machine.word_of_done (Machine.fetch_of_done executed) executed (apart m inside))
    rw [History.entries, told, List.zipWith_map_right, List.zipWith_self]
    refine ⟨rfl, ?_⟩
    rw [List.take_left' (by rw [List.length_map, List.length_map])]
    exact List.forall₂_map_left_iff.2 (List.forall₂_map_right_iff.2
      (List.forall₂_same.2 fun m _ => m.shows_entry readable (fetched m)))

/-- Two frames of a program that loads, points and stores, and ends with a word that is no
instruction, with a key in between; and a third frame. -/
theorem entries_run_up_to_a_fault :
    let log : Log.Filter := ⟨["trace"]⟩
    let c : Console := { machine := { Machine.standard with
      memory := Memory.standard.pokes 0 [0x60, 0x05, 0xA3, 0x00, 0xF0, 0x55, 0xFF, 0xFF] } }
    let acts : List Act := [.frame, .press "q", .frame, .frame]
    let g := Session.run ⟨create { budget := 2 } log, c, []⟩ acts
    let second := (c.machine.step { log }).machine
    let later := ({ c with machine := (second.step { log }).machine.tick } : Console).press "q"
    let fourth := (later.machine.step { log }).machine
    InstructionSet.Readable .standard ∧ log.enabled (some "trace") = true ∧
      (∃ h, Course { log } 2 c acts h g.console ∧
        h.attempted = [c.machine, second, later.machine, fourth]) ∧
      g.player.trace.map (·.entries none) =
        some [c.machine.entry 0x6005, second.entry 0xA300, later.machine.entry 0xF055,
          fourth.faultEntry (.illegalInstruction 0xFFFF)] := by
  intro log c acts g second later fourth
  have readable := InstructionSet.readable_standard
  have tracing : log.enabled (some "trace") = true := by decide +kernel
  obtain ⟨h, words, course, opcodes, trace, -, apart⟩ :=
    entries_run { budget := 2 } log readable tracing c acts
  obtain ⟨row₁, done₁⟩ : ∃ row, (c.machine.step { log }).outcome = .ok row :=
    Machine.executed_of_isOk (by decide +kernel)
  obtain ⟨row₂, done₂⟩ : ∃ row, (second.step { log }).outcome = .ok row :=
    Machine.executed_of_isOk (by decide +kernel)
  obtain ⟨row₃, done₃⟩ : ∃ row, (later.machine.step { log }).outcome = .ok row :=
    Machine.executed_of_isOk (by decide +kernel)
  have faults : (fourth.step { log }).outcome = .error (.fault (.illegalInstruction 0xFFFF)) := by
    decide +kernel
  -- what the frames do, step by step; a session has no other history
  have frames : Course { log } 2 c ([] ++ [.frame] ++ [.press "q"] ++ [.frame] ++ [.frame])
      { played := [[c.machine, second], [later.machine]]
        fault := some (fourth, .illegalInstruction 0xFFFF), idle := 1 } _ :=
    (((Course.start.next (.whole (.next done₁ (.next done₂ (.none _))) rfl)).next (.press "q")).next
      (.cut (.next done₃ (.none _)) (by decide) faults)).next .idle
  obtain ⟨rfl, -⟩ := frames.unique course
  have fetched : [c.machine, second, later.machine].map Machine.fetch =
      [(0x6005 : Opcode), 0xA300, 0xF055].map .ok := by decide +kernel
  obtain rfl : words = [0x6005, 0xA300, 0xF055] :=
    (List.map_inj_right fun _ _ => Except.ok.inj).1 (opcodes.symm.trans fetched)
  obtain ⟨load, point, store⟩ : c.machine.fetch = .ok 0x6005 ∧ second.fetch = .ok 0xA300 ∧
      later.machine.fetch = .ok 0xF055 := by simpa using fetched
  have ahead : later.machine.registers.pc = 4 ∧ later.machine.registers.i = 0x300 := by
    decide +kernel
  have beside (n : Nat) : later.machine.registers.pc + 2 ≤ later.machine.registers.i ∨
      later.machine.registers.i + n ≤ later.machine.registers.pc := by omega
  have alone : ∀ m ∈ [c.machine, second, later.machine], ¬m.StoresOverItself := by
    have first : ¬c.machine.StoresOverItself :=
      Machine.not_storesOverItself load rfl fun _ stores => stores.elim nofun nofun
    have next : ¬second.StoresOverItself :=
      Machine.not_storesOverItself point rfl fun _ stores => stores.elim nofun nofun
    have last : ¬later.machine.StoresOverItself :=
      Machine.not_storesOverItself store rfl fun n _ _ => beside n
    simp [first, next, last]
  refine ⟨readable, tracing, ⟨_, course, by simp [History.attempted]⟩, trace.trans ?_⟩
  rw [(apart alone).1]
  simp [List.rtake]

/-- An instruction that stores over itself: the trace shows the jump it has become. -/
theorem entries_of_self_store :
    let log : Log.Filter := ⟨["trace"]⟩
    let c : Console := { machine := { Machine.standard with
      memory := Memory.standard.pokes 0 [0x60, 0x12, 0xA0, 0x04, 0xF0, 0x55] } }
    let g := Session.run ⟨create { budget := 3 } log, c, []⟩ [.frame]
    let third := ((c.machine.step { log }).machine.step { log }).machine
    g.answers = [.ok 3] ∧ third.fetch = .ok 0xF055 ∧ third.entry 0xF055 ≠ third.entry 0x1255 ∧
      g.player.trace.map (·.entries none) =
        some [c.machine.entry 0x6012, (c.machine.step { log }).machine.entry 0xA004,
          third.entry 0x1255] := by
  intro log c g third
  refine ⟨?_, ?_, ?_, ?_⟩
  · decide +kernel
  · decide +kernel
  · decide +kernel
  · decide +kernel

end Player

end Chip8
