/-
# Chip8.Proofs.Faults — when a step fails, and what is left of it

`Faults` is the fault law of the standard instruction set: one constructor for each way in
which an instruction goes wrong, with the fault and all that it carries. The law is complete
(`outcome_eq_error_iff`): a step of the standard machine fails exactly as the law says,
whatever the host has put into the program counter and the index, and nothing but a fault
ever ends it, also when instructions are logged.

A step that fails changes nothing but the program counter (`machine_of_failed_step`), which
stays where it was if there was no opcode and stands behind the opcode otherwise. That holds
under every table and for memory and displays of every size.
-/
import Chip8.Proofs.Decoding
import Chip8.Proofs.Stack
import Chip8.Proofs.Step

namespace Chip8

set_option autoImplicit false

/-! ## Operations that refuse -/

theorem Keypad.pressed_eq_error_iff (p : Keypad) (b : Byte) (f : Fault) :
    p.pressed b.toNat = .error f ↔ 15 < b.toNat ∧ f = .illegalKey b.toNat := by
  unfold pressed index
  by_cases known : b.toNat < 16
  · have inside : 0 ≤ (b.toNat : Int) ∧ (b.toNat : Int) < 16 := by omega
    rw [dif_pos inside]
    exact ⟨(nomatch ·), by omega⟩
  · have outside : ¬(0 ≤ (b.toNat : Int) ∧ (b.toNat : Int) < 16) := by omega
    rw [dif_neg outside]
    exact ⟨fun h => by cases h; exact ⟨by omega, rfl⟩, by rintro ⟨-, rfl⟩; rfl⟩

namespace Operation

/-- The length of the block of memory that an operation reads or writes at the index. -/
def block? (w : Opcode) : Operation → Option Nat
  | .draw => some (Opcode.n w).val
  | .decimalDigits => some 3
  | .saveRegisters | .restoreRegisters => some ((Opcode.x w).val + 1)
  | _ => none

def asksKey : Operation → Prop
  | .skipDown | .skipUp => True
  | _ => False

/-- The operations that can fault, and when. -/
theorem apply_eq_error_iff (dialect : Dialect) (w : Opcode) (m : Machine) (o : Operation)
    (f : Fault) :
    o.apply dialect w m = .error f ↔
      (o = .ret ∧ m.stack.live = [] ∧ f = .stackUnderflow) ∨
      (o = .call ∧ m.stack.live.length = m.stack.capacity ∧ f = .stackOverflow) ∨
      (o.asksKey ∧ 15 < (m.registers.get (Opcode.x w)).toNat ∧
        f = .illegalKey (m.registers.get (Opcode.x w)).toNat) ∨
      (∃ n, o.block? w = some n ∧ m.memory.check m.registers.i n = .error f) := by
  cases o with
  | ret =>
      have refused : apply dialect w m .ret = .error f ↔
          m.stack.live = [] ∧ f = .stackUnderflow :=
        (bind_eq_error_iff (fun r : Word × Stack => Machine.jump { m with stack := r.2 } r.1.toNat)
          f).trans
          (Stack.pop_eq_error_iff m.stack f)
      simp [refused, asksKey, block?]
  | call =>
      have refused : apply dialect w m .call = .error f ↔
          m.stack.live.length = m.stack.capacity ∧ f = .stackOverflow :=
        (bind_eq_error_iff (fun stack : Stack => Machine.jump { m with stack } (Opcode.nnn w))
          f).trans
          (Stack.push_eq_error_iff m.stack m.registers.pc f)
      simp [refused, asksKey, block?]
  | skipDown =>
      have refused : apply dialect w m .skipDown = .error f ↔
          15 < (m.registers.get (Opcode.x w)).toNat ∧
            f = .illegalKey (m.registers.get (Opcode.x w)).toNat :=
        (bind_eq_error_iff (fun down => skippedIf down m) f).trans
          (Keypad.pressed_eq_error_iff m.keypad (m.registers.get (Opcode.x w)) f)
      simp [refused, asksKey, block?]
  | skipUp =>
      have refused : apply dialect w m .skipUp = .error f ↔
          15 < (m.registers.get (Opcode.x w)).toNat ∧
            f = .illegalKey (m.registers.get (Opcode.x w)).toNat :=
        (bind_eq_error_iff (fun down => skippedIf (!down) m) f).trans
          (Keypad.pressed_eq_error_iff m.keypad (m.registers.get (Opcode.x w)) f)
      simp [refused, asksKey, block?]
  | draw =>
      have refused : apply dialect w m .draw = .error f ↔
          m.memory.check m.registers.i (Opcode.n w).val = .error f :=
        (bind_eq_error_iff
          (drawn m (m.registers.get (Opcode.x w)) (m.registers.get (Opcode.y w))) f).trans
            (Memory.readBlock_eq_error_iff m.memory m.registers.i (Opcode.n w).val f)
      simp [refused, asksKey, block?]
  | decimalDigits =>
      have refused : apply dialect w m .decimalDigits = .error f ↔
          m.memory.check m.registers.i 3 = .error f :=
        (bind_eq_error_iff (fun memory => { m with memory }) f).trans
          (Memory.writeBlock_eq_error_iff m.memory m.registers.i
            (digits (m.registers.get (Opcode.x w))) f)
      simp [refused, asksKey, block?]
  | saveRegisters =>
      have length := length_saved m.registers (Opcode.x w)
      have refused : apply dialect w m .saveRegisters = .error f ↔
          m.memory.check m.registers.i (saved m.registers (Opcode.x w)).length = .error f :=
        (bind_eq_error_iff (fun memory => { m with memory }) f).trans
          (Memory.writeBlock_eq_error_iff m.memory m.registers.i (saved m.registers (Opcode.x w)) f)
      simp [refused, length, asksKey, block?]
  | restoreRegisters =>
      have refused : apply dialect w m .restoreRegisters = .error f ↔
          m.memory.check m.registers.i ((Opcode.x w).val + 1) = .error f :=
        (bind_eq_error_iff
          (fun values => { m with registers := restored m.registers values }) f).trans
            (Memory.readBlock_eq_error_iff m.memory m.registers.i ((Opcode.x w).val + 1) f)
      simp [refused, asksKey, block?]
  | waitKey =>
      simp only [apply, asksKey, block?]
      cases m.keypad.first? <;> simp
  | _ => simp [apply, asksKey, block?]

end Operation

namespace Machine

/-! ## The fault law -/

/-- The word at the program counter, if it lies in the standard memory. -/
def next? (m : Machine) : Option Opcode :=
  if 0 ≤ m.registers.pc ∧ m.registers.pc ≤ 4094 then some (m.memory.word m.registers.pc.toNat)
  else none

inductive Faults (m : Machine) : Fault → Prop where
  | noWord (outside : m.registers.pc < 0 ∨ 4094 < m.registers.pc) :
      Faults m (.illegalAddress m.registers.pc)
  | noRow {w : Opcode} (fetched : m.next? = some w)
      (unmatched : ∀ row ∈ InstructionSet.standard, row.accepts w = false) :
      Faults m (.illegalInstruction w)
  | emptyStack {w : Opcode} (fetched : m.next? = some w)
      (means : Operation.ofOpcode? w = some .ret) (empty : m.stack.live = []) :
      Faults m .stackUnderflow
  | fullStack {w : Opcode} (fetched : m.next? = some w)
      (means : Operation.ofOpcode? w = some .call) (full : m.stack.live.length = 16) :
      Faults m .stackOverflow
  | noKey {w : Opcode} {o : Operation} (fetched : m.next? = some w)
      (means : Operation.ofOpcode? w = some o) (asks : o.asksKey)
      (large : 15 < (m.registers.get (Opcode.x w)).toNat) :
      Faults m (.illegalKey (m.registers.get (Opcode.x w)).toNat)
  /-- The block begins outside of memory. -/
  | blockStart {w : Opcode} {o : Operation} {n : Nat} (fetched : m.next? = some w)
      (means : Operation.ofOpcode? w = some o) (block : o.block? w = some n)
      (outside : m.registers.i < 0 ∨ 4095 < m.registers.i) :
      Faults m (.illegalAddress m.registers.i)
  /-- The block begins in memory and ends outside. -/
  | blockEnd {w : Opcode} {o : Operation} {n : Nat} (fetched : m.next? = some w)
      (means : Operation.ofOpcode? w = some o) (block : o.block? w = some n)
      (inside : 0 ≤ m.registers.i ∧ m.registers.i ≤ 4095) (long : 4096 < m.registers.i + n) :
      Faults m (.illegalAddress (m.registers.i + n))

variable {m : Machine} {w : Opcode} {f : Fault}

theorem next?_eq_some_iff (size : m.memory.size = 4096) : m.next? = some w ↔ m.fetch = .ok w := by
  rw [fetch_eq_ok_iff, size, next?]
  by_cases inside : 0 ≤ m.registers.pc ∧ m.registers.pc ≤ 4094
  · rw [if_pos inside, Option.some.injEq]
    exact ⟨fun h => ⟨inside.1, by omega, h.symm⟩, fun h => h.2.2.symm⟩
  · rw [if_neg inside]
    refine ⟨(nomatch ·), ?_⟩
    rintro ⟨nonneg, below, -⟩
    omega

theorem next?_eq_none_iff : m.next? = none ↔ m.registers.pc < 0 ∨ 4094 < m.registers.pc := by
  rw [next?]
  split
  · exact ⟨(nomatch ·), by omega⟩
  · exact ⟨fun _ => by omega, fun _ => rfl⟩

/-- The next instruction is one operation with the operands of one opcode. -/
theorem operation_unique {w' : Opcode} {o o' : Operation} (fetched : m.next? = some w)
    (known : Operation.ofOpcode? w = some o) (again : m.next? = some w')
    (means : Operation.ofOpcode? w' = some o') : w = w' ∧ o = o' := by
  have word : w = w' := Option.some.inj (fetched.symm.trans again)
  rw [word] at known
  exact ⟨word, Option.some.inj (known.symm.trans means)⟩

/-- Without a word at the program counter there is one fault. -/
theorem faults_iff_of_next?_eq_none (missing : m.next? = none) :
    Faults m f ↔ f = .illegalAddress m.registers.pc := by
  constructor
  · intro h
    cases h with
    | noWord => rfl
    | _ => simp_all
  · rintro rfl
    exact .noWord (next?_eq_none_iff.1 missing)

/-- A word that means no operation is blamed itself. -/
theorem faults_iff_of_unknown (fetched : m.next? = some w)
    (unknown : Operation.ofOpcode? w = none) : Faults m f ↔ f = .illegalInstruction w := by
  constructor
  · intro h
    cases h with
    | noWord outside => rw [next?_eq_none_iff.2 outside] at fetched; cases fetched
    | noRow again => rw [fetched] at again; cases again; rfl
    | _ => simp_all
  · rintro rfl
    have unmatched := (InstructionSet.decode_standard_eq_none w).2 unknown
    exact .noRow fetched fun row inside => by
      simpa using List.find?_eq_none.1 unmatched row inside

/-- The faults of an instruction that means an operation are those of the operation. -/
theorem faults_iff_of_known {o : Operation} (dialect : Dialect) (size : m.memory.size = 4096)
    (capacity : m.stack.capacity = 16) (fetched : m.next? = some w)
    (known : Operation.ofOpcode? w = some o) :
    Faults m f ↔ o.apply dialect w m.skip = .error f := by
  have check (n : Nat) : m.memory.check m.registers.i n = .error f ↔
      (m.registers.i < 0 ∨ 4095 < m.registers.i) ∧ f = .illegalAddress m.registers.i ∨
      (0 ≤ m.registers.i ∧ m.registers.i ≤ 4095) ∧ 4096 < m.registers.i + n ∧
        f = .illegalAddress (m.registers.i + n) := by
    rw [Memory.check_eq_error_iff, size]
    simp only [show ((4096 : Nat) : Int) ≤ m.registers.i ↔ 4095 < m.registers.i by omega,
      show m.registers.i < ((4096 : Nat) : Int) ↔ m.registers.i ≤ 4095 by omega]
    rfl
  rw [Operation.apply_eq_error_iff]
  constructor
  · intro h
    cases h with
    | noWord outside => rw [next?_eq_none_iff.2 outside] at fetched; cases fetched
    | noRow again unmatched =>
        rw [fetched] at again
        cases again
        have missing : InstructionSet.standard.decode w = none :=
          List.find?_eq_none.2 fun row inside => by simp [unmatched row inside]
        rw [InstructionSet.decode_standard_eq_none, known] at missing
        cases missing
    | emptyStack again means empty =>
        obtain ⟨rfl, rfl⟩ := operation_unique fetched known again means
        exact .inl ⟨rfl, empty, rfl⟩
    | fullStack again means full =>
        obtain ⟨rfl, rfl⟩ := operation_unique fetched known again means
        exact .inr (.inl ⟨rfl, full.trans capacity.symm, rfl⟩)
    | noKey again means asks large =>
        obtain ⟨rfl, rfl⟩ := operation_unique fetched known again means
        exact .inr (.inr (.inl ⟨asks, large, rfl⟩))
    | blockStart again means block outside =>
        obtain ⟨rfl, rfl⟩ := operation_unique fetched known again means
        exact .inr (.inr (.inr ⟨_, block, (check _).2 (.inl ⟨outside, rfl⟩)⟩))
    | blockEnd again means block inside long =>
        obtain ⟨rfl, rfl⟩ := operation_unique fetched known again means
        exact .inr (.inr (.inr ⟨_, block, (check _).2 (.inr ⟨inside, long, rfl⟩)⟩))
  · rintro (⟨rfl, empty, rfl⟩ | ⟨rfl, full, rfl⟩ | ⟨asks, large, rfl⟩ | ⟨n, block, refused⟩)
    · exact .emptyStack fetched known empty
    · exact .fullStack fetched known (full.trans capacity)
    · exact .noKey fetched known asks large
    · rcases (check n).1 refused with ⟨outside, rfl⟩ | ⟨inside, long, rfl⟩
      · exact .blockStart fetched known block outside
      · exact .blockEnd fetched known block inside long

/-- A step fails exactly as the fault law says, and only with a fault of the guest program. -/
theorem outcome_eq_error_iff (dialect : Dialect) (log : Log.Filter) (m : Machine)
    (size : m.memory.size = 4096) (capacity : m.stack.capacity = 16) (e : Failure) :
    (m.step { dialect, log }).outcome = .error e ↔ ∃ f, Faults m f ∧ e = .fault f := by
  cases fetched : m.next? with
  | none =>
      have refused : m.fetch = .error (.illegalAddress m.registers.pc) := by
        rw [fetch_eq_error_iff, size]
        exact ⟨by have := next?_eq_none_iff.1 fetched; omega, rfl⟩
      rw [step_of_unfetched refused]
      simp [faults_iff_of_next?_eq_none fetched, eq_comm]
  | some w =>
      have word := (next?_eq_some_iff size).1 fetched
      cases known : Operation.ofOpcode? w with
      | none =>
          rw [step_of_unresolved word (resolve_standard_none known dialect log _)]
          simp [faults_iff_of_unknown fetched known, eq_comm]
      | some o =>
          obtain ⟨printed, row, resolved⟩ :=
            resolve_standard_some known dialect log m.registers.pc
          rw [step_of_resolved word resolved]
          simp only [faults_iff_of_known dialect size capacity fetched known]
          cases o.apply dialect w m.skip <;> simp [eq_comm]

/-- A sprite of five rows at the last two addresses of memory. -/
theorem outcome_of_sprite_across_the_end :
    let m := (primed 0xD0 0x05).point 0xFFE
    m.memory.size = 4096 ∧ m.stack.capacity = 16 ∧
      (m.step {}).outcome = .error (.fault (.illegalAddress 0x1003)) := by
  intro m
  have size : m.memory.size = 4096 := size_memory_primed _ _
  have fetched : m.next? = some 0xD005 := (next?_eq_some_iff size).2 (fetch_primed 0xD0 0x05)
  have long : 4096 < m.registers.i + (5 : Nat) := by decide
  have faults : Faults m (.illegalAddress 0x1003) :=
    .blockEnd (n := 5) fetched rfl rfl (by decide) long
  exact ⟨size, rfl, (outcome_eq_error_iff .standard .silent m size rfl _).2 ⟨_, faults, rfl⟩⟩

/-! ## What a failed step leaves -/

/-- A failed step changes the program counter at most, and that only if there was an opcode. -/
theorem machine_of_failed_step (s : Setting) (m : Machine) (e : Failure)
    (failed : (m.step s).outcome = .error e) :
    (m.step s).machine = match m.fetch with
      | .error _ => m
      | .ok _ => m.jump ((m.registers.pc + 2) % 0x10000) := by
  have ends := step_ends s m
  revert failed
  generalize m.step s = r at ends
  cases ends with
  | unfetched refused =>
      intro _
      rw [refused]
  | unresolved fetched _ =>
      intro _
      rw [fetched]
      rfl
  | faulted fetched _ _ =>
      intro _
      rw [fetched]
      rfl
  | executed _ _ _ =>
      intro failed
      cases failed

/-- A return with nothing to return to. -/
theorem machine_of_return_from_nowhere :
    let m := primed 0x00 0xEE
    (m.step {}).outcome = .error (.fault .stackUnderflow) ∧ (m.step {}).machine = m.jump 2 := by
  intro m
  have fetched : m.fetch = .ok 0x00EE := fetch_primed 0x00 0xEE
  obtain ⟨printed, row, resolved⟩ :=
    resolve_standard_some (w := 0x00EE) rfl .standard .silent m.registers.pc
  have failed : (m.step {}).outcome = .error (.fault .stackUnderflow) := by
    rw [step_of_resolved fetched resolved]
    rfl
  refine ⟨failed, (machine_of_failed_step {} m _ failed).trans ?_⟩
  rw [fetched]
  rfl

end Machine

end Chip8
