/-
# Chip8.Proofs.Step — what a step comes to

A step has four ways to end: there is no opcode, the opcode has no operation, the operation
faults, or it is executed. `Ends` lists them with the whole answer of the step in each, and
`step_ends` says that there is no other. All that is proved about steps starts from there.
-/
import Chip8.Machine.Step
import Chip8.Proofs.Transaction

namespace Chip8.Machine

set_option autoImplicit false

/-! ## The fetch -/

theorem fetch_eq_ok_iff (m : Machine) (w : Word) :
    m.fetch = .ok w ↔
      0 ≤ m.registers.pc ∧ m.registers.pc + 1 < m.memory.size ∧
        w = m.memory.word m.registers.pc.toNat := by
  unfold fetch Memory.loadWord
  split
  · refine ⟨fun h => by simp at h, ?_⟩
    rintro ⟨-, below, -⟩
    omega
  · rename_i below
    cases checked : m.memory.check m.registers.pc 2 with
    | error f =>
        refine ⟨(nomatch ·), ?_⟩
        rintro ⟨nonneg, -, -⟩
        have := (Memory.check_eq_error_iff ..).1 checked
        omega
    | ok _ =>
        obtain ⟨nonneg, -, -⟩ := (Memory.check_eq_ok_iff ..).1 checked
        constructor
        · intro h
          cases h
          exact ⟨nonneg, by omega, rfl⟩
        · rintro ⟨-, -, rfl⟩
          rfl

theorem fetch_eq_error_iff (m : Machine) (f : Fault) :
    m.fetch = .error f ↔
      (m.registers.pc < 0 ∨ m.memory.size ≤ m.registers.pc + 1) ∧
        f = .illegalAddress m.registers.pc := by
  unfold fetch Memory.loadWord
  split
  · rename_i above
    exact ⟨fun h => by cases h; exact ⟨.inr above, rfl⟩, by rintro ⟨-, rfl⟩; rfl⟩
  · rename_i below
    cases checked : m.memory.check m.registers.pc 2 with
    | error g =>
        have blamed := (Memory.check_eq_error_iff ..).1 checked
        have outside : m.registers.pc < 0 ∧ g = .illegalAddress m.registers.pc := by
          rcases blamed with ⟨outside, rfl⟩ | ⟨inside, long, -⟩
          · exact ⟨by omega, rfl⟩
          · omega
        obtain ⟨negative, rfl⟩ := outside
        exact ⟨fun h => by cases h; exact ⟨.inl negative, rfl⟩, by rintro ⟨-, rfl⟩; rfl⟩
    | ok _ =>
        obtain ⟨nonneg, -, -⟩ := (Memory.check_eq_ok_iff ..).1 checked
        refine ⟨(nomatch ·), ?_⟩
        rintro ⟨outside, -⟩
        omega

/-- A program counter below the last words is not reduced when an opcode is passed. -/
theorem skip_of_lt {m : Machine} (nonneg : 0 ≤ m.registers.pc) (small : m.registers.pc < 0xFFFE) :
    m.skip = m.jump (m.registers.pc + 2) := by
  rw [skip, Int.emod_eq_of_lt (by omega) (by omega)]

/-- The standard machine with one instruction where it starts. -/
def primed (first second : Byte) : Machine :=
  { standard with memory := standard.memory.pokes 0 [first, second] }

theorem size_memory_primed (first second : Byte) : (primed first second).memory.size = 4096 := by
  rw [primed, Memory.size_pokes, standard, Memory.size_pokes]
  exact Array.size_replicate

theorem fetch_primed (first second : Byte) :
    (primed first second).fetch = .ok (first ++ second) := by
  have size := size_memory_primed first second
  have room : 0 + [first, second].length ≤ standard.memory.size := by
    rw [primed, Memory.size_pokes] at size
    simp [size]
  have pc : (primed first second).registers.pc = 0 := rfl
  rw [fetch_eq_ok_iff, size, pc]
  refine ⟨Int.le_refl 0, by decide, ?_⟩
  change first ++ second = (primed first second).memory.word 0
  rw [Memory.word, primed, Memory.byte_pokes _ _ _ _ room, Memory.byte_pokes _ _ _ _ room]
  rfl

/-! ## The ends of a step -/

inductive Ends (s : Setting) (m : Machine) : Step → Prop where
  /-- There is no opcode at the program counter. -/
  | unfetched {f : Fault} (refused : m.fetch = .error f) :
      Ends s m ⟨.error (.fault f), m, []⟩
  /-- The opcode has no row, or a row that cannot be logged or executed. -/
  | unresolved {w : Opcode} {printed : List String} {e : Failure} (fetched : m.fetch = .ok w)
      (missing : resolve s m.registers.pc w = (printed, .error e)) :
      Ends s m ⟨.error e, m.skip, printed⟩
  /-- The operation faults. -/
  | faulted {w : Opcode} {printed : List String} {row : Instruction} {o : Operation} {f : Fault}
      (fetched : m.fetch = .ok w)
      (resolved : resolve s m.registers.pc w = (printed, .ok (row, o)))
      (refused : o.apply s.dialect w m.skip = .error f) :
      Ends s m ⟨.error (.fault f), m.skip, printed⟩
  /-- The operation is executed. -/
  | executed {w : Opcode} {printed : List String} {row : Instruction} {o : Operation}
      {after : Machine} (fetched : m.fetch = .ok w)
      (resolved : resolve s m.registers.pc w = (printed, .ok (row, o)))
      (applied : o.apply s.dialect w m.skip = .ok after) :
      Ends s m ⟨.ok row, { after with cycles := after.cycles + 1 }, printed⟩

/-- Without an opcode nothing moves. -/
theorem step_of_unfetched {s : Setting} {m : Machine} {f : Fault} (refused : m.fetch = .error f) :
    m.step s = ⟨.error (.fault f), m, []⟩ := by
  simp only [step, refused]

/-- An opcode that cannot be resolved is passed. -/
theorem step_of_unresolved {s : Setting} {m : Machine} {w : Opcode} {printed : List String}
    {e : Failure} (fetched : m.fetch = .ok w)
    (missing : resolve s m.registers.pc w = (printed, .error e)) :
    m.step s = ⟨.error e, m.skip, printed⟩ := by
  simp only [step, fetched, missing]

/-- A resolved opcode is passed, and then its operation happens or faults. -/
theorem step_of_resolved {s : Setting} {m : Machine} {w : Opcode} {printed : List String}
    {row : Instruction} {o : Operation} (fetched : m.fetch = .ok w)
    (resolved : resolve s m.registers.pc w = (printed, .ok (row, o))) :
    m.step s = match o.apply s.dialect w m.skip with
      | .error f => ⟨.error (.fault f), m.skip, printed⟩
      | .ok after => ⟨.ok row, { after with cycles := after.cycles + 1 }, printed⟩ := by
  simp only [step, fetched, resolved, Operation.on_execute]
  cases o.apply s.dialect w m.skip <;> rfl

theorem step_ends (s : Setting) (m : Machine) : Ends s m (m.step s) := by
  cases fetched : m.fetch with
  | error f =>
      rw [step_of_unfetched fetched]
      exact .unfetched fetched
  | ok w =>
      rcases resolved : resolve s m.registers.pc w with ⟨printed, e | ⟨row, o⟩⟩
      · rw [step_of_unresolved fetched resolved]
        exact .unresolved fetched resolved
      · rw [step_of_resolved fetched resolved]
        cases applied : o.apply s.dialect w m.skip with
        | error f => exact .faulted fetched resolved applied
        | ok after => exact .executed fetched resolved applied

end Chip8.Machine
