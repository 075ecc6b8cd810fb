/-
# Chip8.Proofs.Flags — what arithmetic leaves in VF

Sums, differences and shifts compute a flag from the registers before the instruction, and VF can
be where they put their result, too. `flag?` is the flag of an opcode and `shifted?` the result of
a shift, both read off the digits of the opcode.

`flag_of_step` is the law of VF. It holds the flag after every such instruction, also where VF is
an operand, with one exception: a shift into VF writes its result over its flag
(`flag_lost_in_shift`). Sums and differences write the flag last.
-/
import Chip8.Proofs.Untouched

namespace Chip8

set_option autoImplicit false

/-! ## Flags by the digits -/

namespace Opcode

def source (shiftsVy : Bool) (w : Opcode) (r : Registers) : Byte :=
  r.get (if shiftsVy then y w else x w)

def flag? (shiftsVy : Bool) (w : Opcode) (r : Registers) : Option Bool :=
  let vx := r.get (x w)
  let vy := r.get (y w)
  match (kind w).val, (n w).val with
  | 0x8, 0x4 => some (255 < vx.toNat + vy.toNat)
  | 0x8, 0x5 => some (vx < vy)
  | 0x8, 0x6 => some ((source shiftsVy w r).getLsbD 0)
  | 0x8, 0x7 => some (vy < vx)
  | 0x8, 0xE => some (source shiftsVy w r).msb
  | _, _ => none

def shifted? (shiftsVy : Bool) (w : Opcode) (r : Registers) : Option Byte :=
  match (kind w).val, (n w).val with
  | 0x8, 0x6 => some (source shiftsVy w r >>> 1)
  | 0x8, 0xE => some (source shiftsVy w r <<< 1)
  | _, _ => none

end Opcode

/-! ## The order of the two writes -/

/-- The flag register holds 1 or 0. -/
theorem Registers.get_setFlag (r : Registers) (flag : Bool) :
    (r.setFlag flag).get flagIndex = if flag then 1 else 0 := by
  rw [setFlag, get_set, if_pos rfl]

namespace Operation

variable (m : Machine) (x : Nibble) (value : Byte) (flag : Bool)

/-- A flag written last stays. -/
theorem flag_putThenFlag : (putThenFlag m x value flag).registers.get Registers.flagIndex =
    if flag then 1 else 0 :=
  Registers.get_setFlag _ flag

/-- A flag written first stays unless the result goes to the same register. -/
theorem flag_flagThenPut : (flagThenPut m x value flag).registers.get Registers.flagIndex =
    if x = Registers.flagIndex then value else if flag then 1 else 0 := by
  rw [flagThenPut, Registers.get_set, Registers.get_setFlag]

theorem lowBit_ne_zero (b : Byte) : (b &&& 0x01 != 0) = b.getLsbD 0 := by
  revert b
  decide +kernel

theorem highBit_ne_zero (b : Byte) : (b &&& 0x80 != 0) = b.msb := by
  revert b
  decide +kernel

end Operation

namespace Machine

open Registers (flagIndex)

variable {m : Machine} {w : Opcode}

/-- An instruction that cannot fault is executed and leaves the registers of its operation. -/
theorem registers_of_apply {o : Operation} {after : Machine} (dialect : Dialect) (log : Log.Filter)
    (fetched : m.fetch = .ok w) (known : Operation.ofOpcode? w = some o)
    (applied : o.apply dialect w m.skip = .ok after) :
    (∃ row, (m.step { dialect, log }).outcome = .ok row) ∧
      (m.step { dialect, log }).machine.registers = after.registers := by
  obtain ⟨row, done, result⟩ := done_of_applied log fetched known applied
  exact ⟨⟨row, done⟩, by rw [result]⟩

/-- What the operation of such an opcode leaves in VF. -/
theorem exists_apply_of_flag (dialect : Dialect) {flag : Bool}
    (computes : w.flag? dialect.shiftsVy m.registers = some flag) :
    ∃ o after, Operation.ofOpcode? w = some o ∧ o.apply dialect w m.skip = .ok after ∧
      after.registers.get flagIndex =
        if Opcode.x w = flagIndex then
          (w.shifted? dialect.shiftsVy m.registers).getD (if flag then 1 else 0)
        else if flag then 1 else 0 := by
  have skipped : m.skip.registers.get = m.registers.get := rfl
  unfold Opcode.flag? at computes
  unfold Operation.ofOpcode? Opcode.shifted?
  split at computes
  · rename_i kind n
    cases computes
    rw [kind, n]
    refine ⟨.add, _, rfl, rfl, ?_⟩
    rw [Operation.flag_putThenFlag, skipped]
    simp
  · rename_i kind n
    cases computes
    rw [kind, n]
    refine ⟨.subtract, _, rfl, rfl, ?_⟩
    rw [Operation.flag_putThenFlag, skipped]
    simp
  · rename_i kind n
    cases computes
    rw [kind, n]
    refine ⟨.shiftRight, _, rfl, rfl, ?_⟩
    rw [Operation.flag_flagThenPut, Operation.shifted, skipped, Operation.lowBit_ne_zero]
    rfl
  · rename_i kind n
    cases computes
    rw [kind, n]
    refine ⟨.subtractFrom, _, rfl, rfl, ?_⟩
    rw [Operation.flag_putThenFlag, skipped]
    simp
  · rename_i kind n
    cases computes
    rw [kind, n]
    refine ⟨.shiftLeft, _, rfl, rfl, ?_⟩
    rw [Operation.flag_flagThenPut, Operation.shifted, skipped, Operation.highBit_ne_zero]
    rfl
  · cases computes

/-- The law of VF. -/
theorem flag_of_step (dialect : Dialect) (log : Log.Filter) (fetched : m.fetch = .ok w)
    {flag : Bool} (computes : w.flag? dialect.shiftsVy m.registers = some flag) :
    (∃ row, (m.step { dialect, log }).outcome = .ok row) ∧
    (Opcode.x w ≠ flagIndex ∨ w.shifted? dialect.shiftsVy m.registers = none →
      (m.step { dialect, log }).machine.registers.get flagIndex = if flag then 1 else 0) ∧
    ∀ result, Opcode.x w = flagIndex → w.shifted? dialect.shiftsVy m.registers = some result →
      (m.step { dialect, log }).machine.registers.get flagIndex = result := by
  obtain ⟨o, after, known, applied, left⟩ := exists_apply_of_flag dialect computes
  obtain ⟨done, registers⟩ := registers_of_apply dialect log fetched known applied
  rw [registers, left]
  refine ⟨done, ?_, ?_⟩
  · rintro (other | unshifted)
    · rw [if_neg other]
    · rw [unshifted, Option.getD_none, ite_self]
  · intro result same shifted
    rw [if_pos same, shifted, Option.getD_some]

/-- A sum that goes to VF leaves its carry there, and a shift its result. -/
theorem flag_of_step_into_the_flag_register :
    let m := (primed 0x8F 0x04).put 0 0xFF |>.put flagIndex 0x02
    let m' := (primed 0x8F 0x0E).put 0 0xC1
    (m.fetch = .ok 0x8F04 ∧ Opcode.flag? true 0x8F04 m.registers = some true ∧
      Opcode.shifted? true 0x8F04 m.registers = none ∧
      (m.step {}).machine.registers.get flagIndex = 1) ∧
    m'.fetch = .ok 0x8F0E ∧ Opcode.flag? true 0x8F0E m'.registers = some true ∧
      Opcode.x 0x8F0E = flagIndex ∧ Opcode.shifted? true 0x8F0E m'.registers = some 0x82 ∧
      (m'.step {}).machine.registers.get flagIndex = 0x82 := by
  intro m m'
  have sum : m.fetch = .ok 0x8F04 := fetch_primed 0x8F 0x04
  have carry : Opcode.flag? true 0x8F04 m.registers = some true := by decide +kernel
  have unshifted : Opcode.shifted? true 0x8F04 m.registers = none := by decide +kernel
  have shift : m'.fetch = .ok 0x8F0E := fetch_primed 0x8F 0x0E
  have bit : Opcode.flag? true 0x8F0E m'.registers = some true := by decide +kernel
  have result : Opcode.shifted? true 0x8F0E m'.registers = some 0x82 := by decide +kernel
  refine ⟨⟨sum, carry, unshifted, ?_⟩, shift, bit, rfl, result, ?_⟩
  · exact (flag_of_step .standard .silent sum carry).2.1 (.inr unshifted)
  · exact (flag_of_step .standard .silent shift bit).2.2 0x82 rfl result

/-- Half of 2 is 1, and no bit is lost, but VF holds 1. -/
theorem flag_lost_in_shift :
    let m := (primed 0x8F 0x06).put 0 0x02
    m.fetch = .ok 0x8F06 ∧ Opcode.flag? true 0x8F06 m.registers = some false ∧
      (∃ row, (m.step {}).outcome = .ok row) ∧
      (m.step {}).machine.registers.get flagIndex ≠ 0 := by
  intro m
  have fetched : m.fetch = .ok 0x8F06 := fetch_primed 0x8F 0x06
  obtain ⟨done, registers⟩ :=
    registers_of_apply (w := 0x8F06) (o := .shiftRight) .standard .silent fetched rfl rfl
  refine ⟨fetched, by decide +kernel, done, ?_⟩
  rw [registers]
  decide +kernel

end Machine

end Chip8
