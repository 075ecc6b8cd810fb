/-
# Chip8.Machine.Step — the instruction cycle

One step fetches the opcode at the program counter, moves the program counter
behind it, decodes it, logs it, and executes its operation. A step that fails at
the fetch leaves the machine as it was; one that fails later leaves the machine that
the acts before the failure have made.
-/
import Chip8.Machine.Execute

namespace Chip8

set_option autoImplicit false

/-- What came of a step: the executed row or a failure, the machine afterwards, and what was
printed. -/
structure Step where
  outcome : Except Failure Instruction
  machine : Machine
  printed : List String := []

namespace Machine

/-- The log text of an instruction about to be executed at `pc`. -/
def stepLog (f : Log.Filter) (pc : Int) (w : Opcode) (row : Instruction) (limits : Limits := {}) :
    Except Failure (List String) :=
  if f.enabled (some "cpu") then do
    let text ← row.format w limits
    return f.write "cpu" <|
      "pc=" ++ Text.lowerHex 3 pc ++ " opcode=" ++ Text.lowerHex 4 w.toNat ++ " " ++ text
  else .ok []

/-- The row of an opcode, what is logged about it, and its operation. -/
def resolve (s : Setting) (pc : Int) (w : Opcode) :
    List String × Except Failure (Instruction × Operation) :=
  match s.table.decode w with
  | none => ([], .error (.fault (.illegalInstruction w)))
  | some row =>
      match stepLog s.log pc w row s.limits with
      | .error e => ([], .error e)
      | .ok printed =>
          match Operation.ofName? row.handler with
          | none => (printed, .error (.fault (.illegalInstruction w)))
          | some operation => (printed, .ok (row, operation))

def step (s : Setting) (m : Machine) : Step :=
  match m.fetch with
  | .error f => ⟨.error (.fault f), m, []⟩
  | .ok w =>
      let moved := m.skip
      match resolve s m.registers.pc w with
      | (printed, .error e) => ⟨.error e, moved, printed⟩
      | (printed, .ok (row, operation)) =>
          match (operation.execute s.dialect w).on moved with
          | (.error e, after) => ⟨.error e, after, printed⟩
          | (.ok (), after) => ⟨.ok row, { after with cycles := after.cycles + 1 }, printed⟩

end Machine

end Chip8
