/-
# Chip8.Proofs.Untouched — what an operation leaves alone

Most operations write one part of the machine. `Leaves` says part by part which operations
write it at all, and `leaves_of_apply` is the law for all thirty-five of them. Whoever asks
about one part of a machine — its stack, its timers, its picture, its program — asks this law
and has only the few operations left that write that part.

`operated_of_done` takes a successful step apart: the opcode that was fetched, the operation that
the table finds for it, and what the operation made of the machine. With the standard
instructions it is the operation that the digits mean (`applied_of_done`). A failed step of
instructions that can be read fails by a fault (`fault_of_failed`), and leaves all but the program
counter alone (`jump_of_failed`).
-/
import Chip8.Proofs.Decoding
import Chip8.Proofs.Step

namespace Chip8

set_option autoImplicit false

namespace Operation

def paints : Operation → Bool
  | .clear | .draw => true
  | _ => false

/-- What an operation that made `after` of `m` has left alone. -/
structure Leaves (o : Operation) (m after : Machine) : Prop where
  keypad : after.keypad = m.keypad := by rfl
  cycles : after.cycles = m.cycles := by rfl
  memory : o ≠ .decimalDigits → o ≠ .saveRegisters → after.memory = m.memory := by intros; rfl
  size : after.display.stride = m.display.stride ∧ after.display.height = m.display.height := by
    exact ⟨rfl, rfl⟩
  display : o.paints = false → after.display = m.display := by intros; rfl
  /-- A changed picture is asked to be shown, and no request is taken back. -/
  redraw : after.redraw = (o.paints || m.redraw) := by rfl
  stack : o ≠ .call → o ≠ .ret → after.stack = m.stack := by intros; rfl
  delay : o ≠ .writeDelay → after.timers.delay = m.timers.delay := by intros; rfl
  sound : o ≠ .writeSound → after.timers.sound = m.timers.sound := by intros; rfl

/-- Skipping moves the program counter only. -/
theorem leaves_skippedIf {o : Operation} (quiet : o.paints = false) (condition : Bool)
    (m : Machine) : o.Leaves m (skippedIf condition m) := by
  cases condition <;> exact { redraw := by rw [quiet]; rfl }

theorem leaves_of_apply {dialect : Dialect} {w : Opcode} {m after : Machine} {o : Operation}
    (done : o.apply dialect w m = .ok after) : o.Leaves m after := by
  cases o with
  | clear =>
      cases done
      exact { display := nofun }
  | ret =>
      obtain ⟨address, stack, -, rfl⟩ := ret_eq_ok done
      exact { stack := fun _ other => absurd rfl other }
  | call =>
      obtain ⟨stack, -, rfl⟩ := call_eq_ok done
      exact { stack := fun other _ => absurd rfl other }
  | skipEqualByte =>
      cases done
      exact leaves_skippedIf rfl _ m
  | skipUnequalByte =>
      cases done
      exact leaves_skippedIf rfl _ m
  | skipEqual =>
      cases done
      exact leaves_skippedIf rfl _ m
  | skipUnequal =>
      cases done
      exact leaves_skippedIf rfl _ m
  | skipDown =>
      obtain ⟨down, -, rfl⟩ := skipDown_eq_ok done
      exact leaves_skippedIf rfl _ m
  | skipUp =>
      obtain ⟨down, -, rfl⟩ := skipUp_eq_ok done
      exact leaves_skippedIf rfl _ m
  | draw =>
      obtain ⟨rows, -, rfl⟩ := draw_eq_ok done
      exact { size := ⟨stride_drawn .., height_drawn ..⟩, display := nofun }
  | waitKey =>
      simp only [apply] at done
      split at done <;> cases done <;> exact {}
  | writeDelay =>
      cases done
      exact { delay := fun other => absurd rfl other }
  | writeSound =>
      cases done
      exact { sound := fun other => absurd rfl other }
  | decimalDigits =>
      obtain ⟨memory, -, rfl⟩ := decimalDigits_eq_ok done
      exact { memory := fun other _ => absurd rfl other }
  | saveRegisters =>
      obtain ⟨memory, -, rfl⟩ := saveRegisters_eq_ok done
      exact { memory := fun _ other => absurd rfl other }
  | restoreRegisters =>
      obtain ⟨values, -, rfl⟩ := restoreRegisters_eq_ok done
      exact {}
  | _ =>
      -- what is left writes registers, the index, the program counter or the generator
      cases done
      exact {}

end Operation

namespace Machine

variable {dialect : Dialect} {log : Log.Filter} {m : Machine}

/-- The machine is about to execute an operation. -/
def Means (m : Machine) (o : Operation) (table : InstructionSet := .standard) : Prop :=
  ∃ w, m.fetch = .ok w ∧ table.operation? w = some o

/-- A successful step has an operation, which acted behind its opcode. -/
theorem operated_of_done {s : Setting} {row : Instruction} (done : (m.step s).outcome = .ok row) :
    ∃ w o after, m.fetch = .ok w ∧ s.table.operation? w = some o ∧
      o.apply s.dialect w m.skip = .ok after ∧
      (m.step s).machine = { after with cycles := after.cycles + 1 } := by
  have ends := step_ends s m
  generalize m.step s = r at ends done ⊢
  cases ends with
  | unfetched _ => cases done
  | unresolved _ _ => cases done
  | faulted _ _ _ => cases done
  | executed fetched resolved applied =>
      exact ⟨_, _, _, fetched, operation?_of_resolved resolved, applied, rfl⟩

/-- The operation of a successful standard step is what the digits of its opcode mean. -/
theorem applied_of_done {row : Instruction}
    (done : (m.step { dialect, log }).outcome = .ok row) :
    ∃ w o after, m.fetch = .ok w ∧ Operation.ofOpcode? w = some o ∧
      o.apply dialect w m.skip = .ok after ∧
      (m.step { dialect, log }).machine = { after with cycles := after.cycles + 1 } := by
  obtain ⟨w, o, after, fetched, known, applied, result⟩ := operated_of_done done
  exact ⟨w, o, after, fetched, (InstructionSet.operation?_standard w).symm.trans known, applied,
    result⟩

/-- A step is successful when its operation can act behind the opcode. -/
theorem done_of_applied (log : Log.Filter) {w : Opcode} {o : Operation} {after : Machine}
    (fetched : m.fetch = .ok w) (means : Operation.ofOpcode? w = some o)
    (applied : o.apply dialect w m.skip = .ok after) :
    ∃ row, (m.step { dialect, log }).outcome = .ok row ∧
      (m.step { dialect, log }).machine = { after with cycles := after.cycles + 1 } := by
  obtain ⟨printed, row, resolved⟩ := resolve_standard_some means dialect log m.registers.pc
  rw [step_of_resolved fetched resolved, applied]
  exact ⟨row, rfl, rfl⟩

/-- What a successful step leaves alone, beside counting itself. -/
theorem leaves_of_done {s : Setting} {row : Instruction} (done : (m.step s).outcome = .ok row) :
    ∃ o, m.Means o s.table ∧
      ∃ after, o.Leaves m after ∧
        (m.step s).machine = { after with cycles := after.cycles + 1 } := by
  obtain ⟨w, o, after, fetched, means, applied, result⟩ := operated_of_done done
  exact ⟨o, ⟨w, fetched, means⟩, after, { Operation.leaves_of_apply applied with }, result⟩

/-- A step that did not fail has executed a row. -/
theorem executed_of_isOk {s : Setting} {m : Machine} (ok : (m.step s).outcome.isOk = true) :
    ∃ row, (m.step s).outcome = .ok row := by
  cases outcome : (m.step s).outcome with
  | error e =>
      rw [outcome] at ok
      cases ok
  | ok row => exact ⟨row, rfl⟩

/-- A failed step leaves everything but the program counter alone. -/
theorem jump_of_failed {s : Setting} {m : Machine} {e : Failure}
    (failed : (m.step s).outcome = .error e) : ∃ pc, (m.step s).machine = m.jump pc := by
  have ends := step_ends s m
  revert failed
  generalize m.step s = r at ends
  cases ends with
  | unfetched _ => exact fun _ => ⟨m.registers.pc, rfl⟩
  | unresolved _ _ => exact fun _ => ⟨_, rfl⟩
  | faulted _ _ _ => exact fun _ => ⟨_, rfl⟩
  | executed _ _ _ => exact (nomatch ·)

/-- An opcode of a readable table that is not resolved is an illegal instruction. -/
theorem illegal_of_unresolved {s : Setting} (readable : s.table.Readable s.limits) {pc : Int}
    {w : Opcode} {printed : List String} {e : Failure}
    (missing : resolve s pc w = (printed, .error e)) : e = .fault (.illegalInstruction w) := by
  unfold resolve at missing
  cases found : s.table.decode w with
  | none =>
      rw [found] at missing
      cases missing
      rfl
  | some row =>
      obtain ⟨lines, logged⟩ := stepLog_of_readable readable found s.log pc
      simp only [found, logged] at missing
      split at missing
      · cases missing
        rfl
      · cases missing

/-- With instructions that can be read a step fails by a fault of the guest program only. -/
theorem fault_of_failed {s : Setting} (readable : s.table.Readable s.limits) {e : Failure}
    (failed : (m.step s).outcome = .error e) : ∃ f, e = .fault f := by
  have ends := step_ends s m
  revert failed
  generalize m.step s = r at ends
  cases ends with
  | unfetched _ =>
      rintro ⟨⟩
      exact ⟨_, rfl⟩
  | unresolved fetched missing =>
      obtain rfl := illegal_of_unresolved readable missing
      rintro ⟨⟩
      exact ⟨_, rfl⟩
  | faulted _ _ _ =>
      rintro ⟨⟩
      exact ⟨_, rfl⟩
  | executed _ _ _ => exact (nomatch ·)

end Machine

end Chip8
