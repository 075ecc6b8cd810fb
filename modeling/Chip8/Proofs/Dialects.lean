/-
# Chip8.Proofs.Dialects — where dialects differ

A dialect is asked for by three operations only: the two shifts, and the one that finds a glyph.
`Operation.Undisputed` says when two dialects agree on such an operation nevertheless. The shifts
read the same register, or two that hold the same; the glyphs lie at the same place, once the
address is cut to sixteen bits.

Two machines in the same state that run under different dialects stay in the same state, and
answer the same to every act of their hosts, as long as no instruction is disputed
(`history_of_undisputed`). Each of them decides that by itself, since the other one is in the same
state.
-/
import Chip8.Console.Session
import Chip8.Proofs.Decoding
import Chip8.Proofs.Step

namespace Chip8

set_option autoImplicit false

variable {d d' : Dialect}

/-! ## One operation -/

namespace Operation

variable {w : Opcode}

/-- Two dialects agree on what an operation makes of some registers. -/
def Undisputed (d d' : Dialect) (w : Opcode) (r : Registers) : Operation → Prop
  | .shiftRight | .shiftLeft =>
      d.shiftsVy = d'.shiftsVy ∨ r.get (Opcode.x w) = r.get (Opcode.y w)
  | .loadGlyph =>
      (r.get (Opcode.x w)).toNat * d.glyphStride % 0x10000 =
        (r.get (Opcode.x w)).toNat * d'.glyphStride % 0x10000
  | _ => True

/-- The shifts and the glyphs have these digits; of other operations nothing is asked. -/
theorem forall_ofDigits?_iff (k x y n : Nat) {P : Operation → Prop}
    (others : ∀ o, o ≠ .shiftRight → o ≠ .shiftLeft → o ≠ .loadGlyph → P o) :
    (∀ o, ofDigits? k x y n = some o → P o) ↔
      (k = 8 ∧ n = 6 → P .shiftRight) ∧ (k = 8 ∧ n = 0xE → P .shiftLeft) ∧
        (k = 0xF ∧ y = 2 ∧ n = 9 → P .loadGlyph) := by
  unfold ofDigits?
  split <;> simp_all

theorem undisputed_of_others (r : Registers) (o : Operation) (right : o ≠ .shiftRight)
    (left : o ≠ .shiftLeft) (glyph : o ≠ .loadGlyph) : o.Undisputed d d' w r := by
  cases o with
  | shiftRight => exact absurd rfl right
  | shiftLeft => exact absurd rfl left
  | loadGlyph => exact absurd rfl glyph
  | _ => trivial

theorem shifted_congr {m : Machine}
    (agreed : d.shiftsVy = d'.shiftsVy ∨
      m.registers.get (Opcode.x w) = m.registers.get (Opcode.y w)) :
    shifted d w m = shifted d' w m := by
  rw [shifted, shifted]
  rcases agreed with same | same
  · rw [same]
  · rw [apply_ite m.registers.get, apply_ite m.registers.get, same, ite_self, ite_self]

theorem apply_congr {m : Machine} {o : Operation} (agreed : o.Undisputed d d' w m.registers) :
    o.apply d w m = o.apply d' w m := by
  cases o with
  | shiftRight => simp only [apply, shifted_congr agreed]
  | shiftLeft => simp only [apply, shifted_congr agreed]
  | loadGlyph =>
      -- the base of the font is added before the address is cut
      simp only [Undisputed] at agreed
      simp only [apply]
      congr 2
      omega
  | _ => rfl

end Operation

/-! ## One instruction -/

namespace Machine

variable {table : InstructionSet} {log : Log.Filter} {m : Machine}

/-- Two dialects agree on the instruction that a machine is about to execute. -/
def Undisputed (table : InstructionSet) (d d' : Dialect) (m : Machine) : Prop :=
  ∀ w o, m.fetch = .ok w → table.operation? w = some o → o.Undisputed d d' w m.registers

/-- Only one opcode stands at the program counter. -/
theorem undisputed_of_fetch {w : Opcode} {o : Operation} (fetched : m.fetch = .ok w)
    (means : table.operation? w = some o) (agreed : o.Undisputed d d' w m.registers) :
    m.Undisputed table d d' := by
  intro w' o' fetched' means'
  cases fetched.symm.trans fetched'
  cases means.symm.trans means'
  exact agreed

/-- An undisputed instruction does the same under both dialects. -/
theorem step_congr (agreed : m.Undisputed table d d') :
    m.step { dialect := d, table, log } = m.step { dialect := d', table, log } := by
  cases fetched : m.fetch with
  | error f => rw [step_of_unfetched fetched, step_of_unfetched fetched]
  | ok w =>
      rcases resolved : resolve { dialect := d, table, log } m.registers.pc w with
        ⟨printed, e | ⟨row, o⟩⟩
      · have resolved' : resolve { dialect := d', table, log } m.registers.pc w =
            (printed, .error e) := resolved
        rw [step_of_unresolved fetched resolved, step_of_unresolved fetched resolved']
      · have resolved' : resolve { dialect := d', table, log } m.registers.pc w =
            (printed, .ok (row, o)) := resolved
        have applied : o.apply d w m.skip = o.apply d' w m.skip :=
          Operation.apply_congr (agreed w o fetched (operation?_of_resolved resolved))
        rw [step_of_resolved fetched resolved, step_of_resolved fetched resolved', applied]

/-- The standard instructions that can be disputed, by their digits. -/
theorem undisputed_standard_iff (d d' : Dialect) (m : Machine) :
    m.Undisputed .standard d d' ↔
      ∀ w : Opcode, m.fetch = .ok w →
        let kind := (Opcode.kind w).val
        let vx := m.registers.get (Opcode.x w)
        let vy := m.registers.get (Opcode.y w)
        (kind = 8 ∧ ((Opcode.n w).val = 6 ∨ (Opcode.n w).val = 0xE) →
          d.shiftsVy = d'.shiftsVy ∨ vx = vy) ∧
        (kind = 0xF ∧ (Opcode.y w).val = 2 ∧ (Opcode.n w).val = 9 →
          vx.toNat * d.glyphStride % 0x10000 = vx.toNat * d'.glyphStride % 0x10000) := by
  unfold Undisputed
  refine forall_congr' fun w => ?_
  rw [forall_comm]
  refine forall_congr' fun fetched => ?_
  simp only [InstructionSet.operation?_standard, Operation.ofOpcode?]
  rw [Operation.forall_ofDigits?_iff _ _ _ _ (Operation.undisputed_of_others m.registers)]
  simp only [and_or_left, or_imp, and_assoc]
  rfl

end Machine

namespace Console

theorem act_congr {s s' : Setting} {c : Console} {a : Act}
    (agreed : a = .step → c.machine.step s = c.machine.step s') :
    c.answer s a = c.answer s' a ∧ c.act s a = c.act s' a := by
  cases a with
  | step =>
      rw [answer, act, agreed rfl]
      exact ⟨rfl, rfl⟩
  | _ => exact ⟨rfl, rfl⟩

theorem history_congr {s s' : Setting} {c : Console} {acts : List Act}
    (agreed : c.EachStep s (fun m => m.step s = m.step s') acts) :
    c.history s acts = c.history s' acts := by
  induction acts generalizing c with
  | nil => rfl
  | cons a acts ih =>
      rw [eachStep_cons] at agreed
      obtain ⟨answer, after⟩ := act_congr agreed.1
      rw [history, history, ih agreed.2, answer, after]

/-- Where dialects matter. Two consoles in the same state, one under each of two dialects, give the
same answers to the same acts and are in the same state after each of them, as long as no
instruction is disputed. Of the standard instructions the shifts are disputed if they read
different registers with different values, and the one that finds a glyph if the glyphs lie at
different places. -/
theorem history_of_undisputed (d d' : Dialect) (log : Log.Filter) :
    (∀ (table : InstructionSet) (c : Console) (acts : List Act),
      c.EachStep { dialect := d, table, log } (Machine.Undisputed table d d') acts →
        c.history { dialect := d, table, log } acts =
          c.history { dialect := d', table, log } acts) ∧
    ∀ m : Machine, m.Undisputed .standard d d' ↔
      ∀ w : Opcode, m.fetch = .ok w →
        let kind := (Opcode.kind w).val
        let vx := m.registers.get (Opcode.x w)
        let vy := m.registers.get (Opcode.y w)
        (kind = 8 ∧ ((Opcode.n w).val = 6 ∨ (Opcode.n w).val = 0xE) →
          d.shiftsVy = d'.shiftsVy ∨ vx = vy) ∧
        (kind = 0xF ∧ (Opcode.y w).val = 2 ∧ (Opcode.n w).val = 9 →
          vx.toNat * d.glyphStride % 0x10000 = vx.toNat * d'.glyphStride % 0x10000) := by
  refine ⟨fun table c acts undisputed => ?_, Machine.undisputed_standard_iff d d'⟩
  apply history_congr
  intro before inside
  exact Machine.step_congr (undisputed before inside)

/-- A shift of a register by one with the same value, and a glyph that both dialects find at the
same place since the address is cut. -/
theorem history_of_undisputed_shift_and_glyph :
    let d' : Dialect := { shiftsVy := false, glyphStride := 513 }
    let c : Console := { machine := ((Machine.standard.put 1 7).put 2 7).put 3 0x80 }
    let acts : List Act :=
      [.load 0x200 [0x81, 0x26, 0xF3, 0x29], .step, .tick, .step, .seed 9, .load 5000 [1], .reset]
    c.EachStep {} (Machine.Undisputed .standard .standard d') acts ∧
      c.history {} acts = c.history { dialect := d' } acts := by
  intro d' c acts
  have undisputed : c.EachStep {} (Machine.Undisputed .standard .standard d') acts := by
    simp only [acts, eachStep_cons, eachStep_nil, reduceCtorEq, false_implies, true_implies,
      true_and, and_true]
    constructor
    · have fetched := (Machine.fetch_eq_ok_iff (c.act {} acts[0]).machine 0x8126).2
        (by decide +kernel)
      exact Machine.undisputed_of_fetch (o := .shiftRight) fetched (by decide +kernel)
        (.inr (by decide +kernel))
    · have fetched := (Machine.fetch_eq_ok_iff (c.run {} (acts.take 3)).machine 0xF329).2
        (by decide +kernel)
      exact Machine.undisputed_of_fetch (o := .loadGlyph) fetched (by decide +kernel)
        (by unfold Operation.Undisputed; decide +kernel)
  exact ⟨undisputed, (history_of_undisputed .standard d' .silent).1 .standard c acts undisputed⟩

end Console

end Chip8
