/-
# Chip8.Proofs.Decoding — the standard instructions by their digits

The standard table finds the row of an opcode by masks. `ofDigits?` reads the operation
off the four digits of the opcode instead, without a table, and `operation?_standard` says
that the two agree on every word.

So an opcode of the standard set is either resolved to its row and operation, whatever is
logged, or is an illegal instruction (`resolve_standard_some`, `resolve_standard_none`).
-/
import Chip8.Machine.Step
import Chip8.Proofs.Assembly

namespace Chip8

set_option autoImplicit false

namespace Opcode

theorem val_digit (w : Opcode) (k : Nat) : (digit w k).val = w.toNat >>> (4 * k) % 16 := by
  rw [Nat.shiftRight_eq_div_pow, Nat.pow_mul]
  rfl

theorem val_digit_and (w m : Opcode) (k : Nat) :
    (digit (w &&& m) k).val = (digit w k).val &&& (digit m k).val := by
  have low (z i : Nat) : (z % 16).testBit i = (decide (i < 4) && z.testBit i) :=
    Nat.testBit_mod_two_pow z 4 i
  rw [val_digit, val_digit, val_digit, BitVec.toNat_and]
  apply Nat.eq_of_testBit_eq
  intro i
  simp only [low, Nat.testBit_shiftRight, Nat.testBit_and]
  by_cases inside : i < 4 <;> simp [inside]

/-- Words are equal if their digits are. -/
theorem eq_iff (w p : Opcode) :
    w = p ↔ (kind w).val = (kind p).val ∧ (x w).val = (x p).val ∧ (y w).val = (y p).val ∧
      (n w).val = (n p).val := by
  constructor
  · rintro rfl
    exact ⟨rfl, rfl, rfl, rfl⟩
  · rintro ⟨hk, hx, hy, hn⟩
    apply BitVec.eq_of_toNat_eq
    rw [toNat_eq w, toNat_eq p, nnn_eq, nnn_eq, hk, hx, hy, hn]

/-- A mask is applied digit by digit. -/
theorem and_eq_iff (w m p : Opcode) :
    w &&& m = p ↔
      (kind w).val &&& (kind m).val = (kind p).val ∧ (x w).val &&& (x m).val = (x p).val ∧
        (y w).val &&& (y m).val = (y p).val ∧ (n w).val &&& (n m).val = (n p).val := by
  simp only [eq_iff, kind, x, y, n, val_digit_and]

/-- The opcode `Fxnn`. -/
def fx (x : Nibble) (nn : Nat) : Opcode := BitVec.ofNat 16 (0xF000 + 0x100 * x.val + nn)

theorem toNat_fx (x : Nibble) {nn : Nat} (byte : nn < 0x100) :
    (fx x nn).toNat = 0xF000 + 0x100 * x.val + nn := by
  have := x.isLt
  exact Nat.mod_eq_of_lt (by omega)

theorem x_fx (x : Nibble) {nn : Nat} (byte : nn < 0x100) : Opcode.x (fx x nn) = x := by
  have := x.isLt
  apply Fin.ext
  change (fx x nn).toNat / Nat.pow 16 2 % 16 = x.val
  rw [toNat_fx x byte, Nat.pow_eq]
  omega

end Opcode

namespace Operation

/-- The operation of an opcode with the given digits. -/
def ofDigits? : (kind x y n : Nat) → Option Operation
  | 0x0, 0x0, 0xE, 0x0 => some .clear
  | 0x0, 0x0, 0xE, 0xE => some .ret
  | 0x0, _, _, _ => some .sys
  | 0x1, _, _, _ => some .jump
  | 0x2, _, _, _ => some .call
  | 0x3, _, _, _ => some .skipEqualByte
  | 0x4, _, _, _ => some .skipUnequalByte
  | 0x5, _, _, 0x0 => some .skipEqual
  | 0x6, _, _, _ => some .loadByte
  | 0x7, _, _, _ => some .addByte
  | 0x8, _, _, 0x0 => some .load
  | 0x8, _, _, 0x1 => some .or
  | 0x8, _, _, 0x2 => some .and
  | 0x8, _, _, 0x3 => some .xor
  | 0x8, _, _, 0x4 => some .add
  | 0x8, _, _, 0x5 => some .subtract
  | 0x8, _, _, 0x6 => some .shiftRight
  | 0x8, _, _, 0x7 => some .subtractFrom
  | 0x8, _, _, 0xE => some .shiftLeft
  | 0x9, _, _, 0x0 => some .skipUnequal
  | 0xA, _, _, _ => some .loadIndex
  | 0xB, _, _, _ => some .jumpOffset
  | 0xC, _, _, _ => some .random
  | 0xD, _, _, _ => some .draw
  | 0xE, _, 0x9, 0xE => some .skipDown
  | 0xE, _, 0xA, 0x1 => some .skipUp
  | 0xF, _, 0x0, 0x7 => some .readDelay
  | 0xF, _, 0x0, 0xA => some .waitKey
  | 0xF, _, 0x1, 0x5 => some .writeDelay
  | 0xF, _, 0x1, 0x8 => some .writeSound
  | 0xF, _, 0x1, 0xE => some .addIndex
  | 0xF, _, 0x2, 0x9 => some .loadGlyph
  | 0xF, _, 0x3, 0x3 => some .decimalDigits
  | 0xF, _, 0x5, 0x5 => some .saveRegisters
  | 0xF, _, 0x6, 0x5 => some .restoreRegisters
  | _, _, _, _ => none

def ofOpcode? (w : Opcode) : Option Operation :=
  ofDigits? (Opcode.kind w).val (Opcode.x w).val (Opcode.y w).val (Opcode.n w).val

/-- An opcode `Fxnn` means what its last byte says. -/
theorem ofOpcode?_fx (x : Nibble) {nn : Nat} (byte : nn < 0x100) :
    ofOpcode? (Opcode.fx x nn) = ofDigits? 0xF x.val (nn / 0x10) (nn % 0x10) := by
  have number := Opcode.toNat_fx x byte
  have digits := Opcode.toNat_eq (Opcode.fx x nn)
  have last := Opcode.nnn_eq (Opcode.fx x nn)
  rw [Opcode.x_fx x byte] at last
  have := x.isLt
  have y := (Opcode.y (Opcode.fx x nn)).isLt
  have n := (Opcode.n (Opcode.fx x nn)).isLt
  have kind : (Opcode.kind (Opcode.fx x nn)).val = 0xF := by omega
  have high : (Opcode.y (Opcode.fx x nn)).val = nn / 0x10 := by omega
  have low : (Opcode.n (Opcode.fx x nn)).val = nn % 0x10 := by omega
  rw [ofOpcode?, kind, Opcode.x_fx x byte, high, low]

end Operation

namespace InstructionSet

/-- The operation that a table finds for an opcode. -/
def operation? (table : InstructionSet) (w : Opcode) : Option Operation :=
  (table.decode w).bind fun row => Operation.ofName? row.handler

/-- The digits of a word agree with those of a pattern under the digits of a mask. -/
theorem accepts_eq (row : Instruction) (w : Opcode) :
    row.accepts w =
      (((Opcode.kind w).val &&& (Opcode.kind row.mask).val == (Opcode.kind row.pattern).val) &&
        ((Opcode.x w).val &&& (Opcode.x row.mask).val == (Opcode.x row.pattern).val) &&
        ((Opcode.y w).val &&& (Opcode.y row.mask).val == (Opcode.y row.pattern).val) &&
        ((Opcode.n w).val &&& (Opcode.n row.mask).val == (Opcode.n row.pattern).val)) := by
  rw [Bool.eq_iff_iff, Instruction.accepts, beq_iff_eq, Opcode.and_eq_iff]
  simp [and_assoc]

theorem operation?_cons (row : Instruction) (rest : InstructionSet) (w : Opcode) :
    operation? (row :: rest) w =
      bif row.accepts w then Operation.ofName? row.handler else operation? rest w := by
  cases accepted : row.accepts w <;> simp [operation?, decode, accepted]

theorem operation?_standard (w : Opcode) : operation? standard w = Operation.ofOpcode? w := by
  have whole (a : Nibble) : a.val &&& 15 = a.val := by revert a; decide
  simp only [standard, operation?_cons, Operation.ofName?_name, accepts_eq, Operation.ofOpcode?]
  generalize Opcode.kind w = k, Opcode.x w = x, Opcode.y w = y, Opcode.n w = n
  simp only [Opcode.kind, Opcode.x, Opcode.y, Opcode.n, Opcode.val_digit, BitVec.ofNat_eq_ofNat,
    BitVec.toNat_ofNat, Nat.reducePow, Nat.reduceMul, Nat.reduceMod, Nat.reduceShiftRight, whole,
    Nat.and_zero, BEq.rfl, Bool.and_true]
  -- what remains is a comparison of two case distinctions on numbers
  generalize k.val = k, x.val = x, y.val = y, n.val = n
  unfold Operation.ofDigits?
  split
  case h_36 =>
    -- the digits differ from those of every row
    have later {c : Prop} [Decidable c] {o : Operation} {rest : Option Operation} (no : ¬c)
        (none : rest = none) : (if c then some o else rest) = .none := (if_neg no).trans none
    simp only [cond_eq_ite, Bool.and_eq_true, beq_iff_eq, and_assoc]
    repeat refine later (by first | assumption | (simp only [not_and]; assumption)) ?_
    rfl
  all_goals grind

/-- Every standard row belongs to an operation. -/
theorem exists_operation {row : Instruction} (inside : row ∈ standard) :
    ∃ o : Operation, Operation.ofName? row.handler = some o := by
  have all : standard.all (fun row => (Operation.ofName? row.handler).isSome) = true := by
    decide +kernel
  exact Option.isSome_iff_exists.1 (List.all_eq_true.1 all row inside)

/-- No standard row accepts a word whose digits mean no operation. -/
theorem decode_standard_eq_none (w : Opcode) :
    standard.decode w = none ↔ Operation.ofOpcode? w = none := by
  rw [← operation?_standard, operation?]
  cases found : standard.decode w with
  | none => simp
  | some row =>
      obtain ⟨o, named⟩ := exists_operation (List.mem_of_find?_eq_some found)
      simp [named]

end InstructionSet

namespace Machine

open InstructionSet hiding standard

/-- A row of a readable table can be logged for the opcodes that it decodes. -/
theorem stepLog_of_readable {table : InstructionSet} {limits : Limits}
    (readable : table.Readable limits) {w : Opcode} {row : Instruction}
    (found : table.decode w = some row) (f : Log.Filter) (pc : Int) :
    ∃ printed, stepLog f pc w row limits = .ok printed := by
  obtain ⟨text, written⟩ := readable.format found
  unfold stepLog
  split
  · rw [written]
    exact ⟨_, rfl⟩
  · exact ⟨[], rfl⟩

theorem resolve_standard_none {w : Opcode} (unknown : Operation.ofOpcode? w = none)
    (dialect : Dialect) (log : Log.Filter) (pc : Int) :
    resolve { dialect, log } pc w = ([], .error (.fault (.illegalInstruction w))) := by
  have unmatched := (decode_standard_eq_none w).2 unknown
  simp only [resolve, unmatched]

theorem resolve_standard_some {w : Opcode} {o : Operation}
    (known : Operation.ofOpcode? w = some o) (dialect : Dialect) (log : Log.Filter) (pc : Int) :
    ∃ printed row, resolve { dialect, log } pc w = (printed, .ok (row, o)) := by
  rw [← operation?_standard, operation?, Option.bind_eq_some_iff] at known
  obtain ⟨row, found, named⟩ := known
  obtain ⟨printed, logged⟩ := stepLog_of_readable readable_standard found log pc
  exact ⟨printed, row, by simp only [resolve, found, logged, named]⟩

/-- What is executed is the operation that the table finds. -/
theorem operation?_of_resolved {s : Setting} {pc : Int} {w : Opcode} {printed : List String}
    {row : Instruction} {o : Operation} (resolved : resolve s pc w = (printed, .ok (row, o))) :
    s.table.operation? w = some o := by
  unfold resolve at resolved
  unfold InstructionSet.operation?
  cases found : s.table.decode w with
  | none =>
      rw [found] at resolved
      cases resolved
  | some row' =>
      simp only [found] at resolved
      rw [Option.bind_some]
      split at resolved
      · cases resolved
      · split at resolved
        · cases resolved
        · rename_i named
          cases resolved
          exact named

/-- What an opcode was resolved to is what its digits mean. -/
theorem operation_of_resolved {dialect : Dialect} {log : Log.Filter} {pc : Int} {w : Opcode}
    {printed : List String} {row : Instruction} {o : Operation}
    (resolved : resolve { dialect, log } pc w = (printed, .ok (row, o))) :
    Operation.ofOpcode? w = some o := by
  rw [← operation?_standard]
  exact operation?_of_resolved resolved

/-- An opcode that was not resolved means no operation. -/
theorem unknown_of_unresolved {dialect : Dialect} {log : Log.Filter} {pc : Int} {w : Opcode}
    {printed : List String} {e : Failure}
    (missing : resolve { dialect, log } pc w = (printed, .error e)) :
    Operation.ofOpcode? w = none := by
  cases known : Operation.ofOpcode? w with
  | none => rfl
  | some o =>
      obtain ⟨printed', row', resolved⟩ := resolve_standard_some known dialect log pc
      rw [missing] at resolved
      cases resolved

end Machine

end Chip8
