/-
# Chip8.Proofs.Subroutines — a subroutine returns behind its call

A call puts an address on the stack and a return takes the newest one off; no other
instruction and no host touches what is below the top. So the stack is only ever extended or
cut (`live_act`), and as long as it is not cut below some depth, what it held up to there
stays (`live_prefix_run`).

From that follows how a program may use subroutines: a call and the return that brings the
stack back to where it was belong together (`return_of_subroutine`), whatever other calls and
returns, host acts and changes of the code lie between them.
-/
import Mathlib.Data.List.Infix
import Chip8.Console.Session
import Chip8.Proofs.Stack
import Chip8.Proofs.Untouched

namespace Chip8

set_option autoImplicit false

/-! ## Operations -/

namespace Operation

/-- Only one word means a return. -/
theorem eq_of_means_ret {w : Opcode} (means : ofOpcode? w = some .ret) : w = 0x00EE := by
  rw [Opcode.eq_iff]
  revert means
  rw [ofOpcode?]
  generalize (Opcode.kind w).val = k, (Opcode.x w).val = x, (Opcode.y w).val = y,
    (Opcode.n w).val = n
  unfold ofDigits?
  split <;> intro means <;> cases means
  decide

/-- The words whose first digit is 2 mean a call. -/
theorem means_call {w : Opcode} (kind : (Opcode.kind w).val = 2) : ofOpcode? w = some .call := by
  rw [ofOpcode?, kind]
  simp [ofDigits?]

/-- What an operation does to the stack: a return goes to the address it takes off, a call puts
the program counter on, and the others leave the stack alone. -/
theorem stack_cases {dialect : Dialect} {w : Opcode} {m after : Machine} {o : Operation}
    (done : o.apply dialect w m = .ok after) :
    (o = .ret ∧ ∃ a : Word, m.stack.live = after.stack.live ++ [a] ∧
        after.registers.pc = a.toNat) ∨
      (o = .call ∧ after.stack.live = m.stack.live ++ [BitVec.ofInt 16 m.registers.pc]) ∨
      (o ≠ .ret ∧ o ≠ .call ∧ after.stack = m.stack) := by
  by_cases ret : o = .ret
  · subst ret
    obtain ⟨address, stack, popped, rfl⟩ := ret_eq_ok done
    exact .inl ⟨rfl, address, Stack.live_of_pop popped, rfl⟩
  by_cases call : o = .call
  · subst call
    obtain ⟨stack, pushed, rfl⟩ := call_eq_ok done
    exact .inr (.inl ⟨rfl, Stack.live_of_push pushed⟩)
  · exact .inr (.inr ⟨ret, call, (leaves_of_apply done).stack call ret⟩)

end Operation

/-! ## Steps -/

namespace Machine

theorem live_step (s : Setting) (m : Machine) :
    (m.step s).machine.stack.live <+: m.stack.live ∨
      m.stack.live <+: (m.step s).machine.stack.live := by
  have ends := step_ends s m
  generalize m.step s = r at ends ⊢
  cases ends with
  | unfetched _ => exact .inl (List.prefix_refl _)
  | unresolved _ _ => exact .inl (List.prefix_refl _)
  | faulted _ _ _ => exact .inl (List.prefix_refl _)
  | executed _ _ applied =>
      rcases Operation.stack_cases applied with ⟨-, a, cut, -⟩ | ⟨-, extended⟩ | ⟨-, -, same⟩
      · exact .inl ⟨[a], cut.symm⟩
      · exact .inr ⟨_, extended.symm⟩
      · exact .inl (same ▸ List.prefix_refl _)

variable {dialect : Dialect} {log : Log.Filter} {m : Machine}

/-- A call puts the address behind itself on the stack. -/
theorem live_step_of_call {w : Opcode} {row : Instruction} (fetched : m.fetch = .ok w)
    (kind : (Opcode.kind w).val = 2) (done : (m.step { dialect, log }).outcome = .ok row) :
    (m.step { dialect, log }).machine.stack.live =
      m.stack.live ++ [BitVec.ofInt 16 ((m.registers.pc + 2) % 0x10000)] := by
  obtain ⟨w', o, after, again, means, applied, result⟩ := applied_of_done done
  cases fetched.symm.trans again
  cases (Operation.means_call kind).symm.trans means
  rw [result]
  rcases Operation.stack_cases applied with ⟨no, -⟩ | ⟨-, extended⟩ | ⟨-, no, -⟩
  · cases no
  · exact extended
  · exact absurd rfl no

/-- An instruction after which the stack is shorter is a return. -/
theorem return_of_shorter {row : Instruction}
    (done : (m.step { dialect, log }).outcome = .ok row)
    (shorter : (m.step { dialect, log }).machine.stack.depth < m.stack.depth) :
    m.fetch = .ok 0x00EE ∧ ∃ a : Word,
      m.stack.live = (m.step { dialect, log }).machine.stack.live ++ [a] ∧
        (m.step { dialect, log }).machine.registers.pc = a.toNat := by
  obtain ⟨w, o, after, fetched, means, applied, result⟩ := applied_of_done done
  rw [result] at shorter ⊢
  rcases Operation.stack_cases applied with ⟨rfl, cut⟩ | ⟨-, extended⟩ | ⟨-, -, same⟩
  · rw [Operation.eq_of_means_ret means] at fetched
    exact ⟨fetched, cut⟩
  · have longer := congrArg List.length extended
    rw [List.length_append, Stack.length_live, Stack.length_live] at longer
    change after.stack.depth = m.stack.depth + 1 at longer
    change after.stack.depth < m.stack.depth at shorter
    omega
  · exact absurd (same ▸ shorter : m.stack.depth < m.stack.depth) (Nat.lt_irrefl _)

end Machine

/-! ## Sessions -/

namespace Console

/-- Whatever happens extends the stack or cuts it. -/
theorem live_act (s : Setting) (c : Console) (a : Act) :
    (c.act s a).machine.stack.live <+: c.machine.stack.live ∨
      c.machine.stack.live <+: (c.act s a).machine.stack.live := by
  have same {after : Stack} (h : after = c.machine.stack) :
      after.live <+: c.machine.stack.live ∨ c.machine.stack.live <+: after.live :=
    .inl (h ▸ List.prefix_refl _)
  cases a with
  | step => exact Machine.live_step s c.machine
  | setKeys states =>
      refine same (attempt_keeps (P := fun m => m.stack = c.machine.stack) rfl ?_)
      intro machine set
      obtain ⟨keypad, rfl⟩ := Machine.setKeys_eq_ok set
      rfl
  | load address data =>
      refine same (attempt_keeps (P := fun m => m.stack = c.machine.stack) rfl ?_)
      intro machine loaded
      obtain ⟨memory, -, rfl⟩ := Machine.load_eq_ok loaded
      rfl
  | store address value =>
      exact same (attempt_map_keeps (P := fun m => m.stack = c.machine.stack) rfl
        fun memory _ => rfl)
  | writeBlock address values =>
      exact same (attempt_map_keeps (P := fun m => m.stack = c.machine.stack) rfl
        fun memory _ => rfl)
  | showBytes values =>
      exact same (attempt_map_keeps (P := fun m => m.stack = c.machine.stack) rfl
        fun display _ => rfl)
  | reset => exact .inl List.nil_prefix
  | _ => exact same rfl

/-- A session in which the stack never gets shorter than some of its addresses leaves them where
they are. -/
theorem live_prefix_run (s : Setting) {c : Console} {older : List Word} (acts : List Act)
    (first : older <+: c.machine.stack.live)
    (deep : ∀ before, before <+: acts → older.length ≤ (c.run s before).machine.stack.depth) :
    older <+: (c.run s acts).machine.stack.live := by
  induction acts generalizing c with
  | nil => exact first
  | cons a rest ih =>
      have enough : older.length ≤ (c.act s a).machine.stack.live.length := by
        rw [Stack.length_live]
        exact deep [a] (List.prefix_append [a] rest)
      have next : older <+: (c.act s a).machine.stack.live := by
        rcases live_act s c a with cut | extended
        · exact List.prefix_of_prefix_length_le first cut enough
        · exact first.trans extended
      exact ih next fun before inside => deep (a :: before) (List.cons_prefix_cons.2 ⟨rfl, inside⟩)

/-- A subroutine is called, many things happen while its return address is on the stack, and then
one instruction brings the stack back to its old depth. -/
structure Subroutine (s : Setting) (c : Console) (acts : List Act) : Prop where
  called : ∃ w row, c.machine.fetch = .ok w ∧ (Opcode.kind w).val = 2 ∧
    (c.machine.step s).outcome = .ok row
  inside : ∀ before, before <+: acts →
    c.machine.stack.depth + 1 ≤ (c.run s (.step :: before)).machine.stack.depth
  left : ∃ row, ((c.run s (.step :: acts)).machine.step s).outcome = .ok row
  back : (c.run s (.step :: acts ++ [.step])).machine.stack.depth = c.machine.stack.depth

/-- The instruction that leaves a subroutine is a return. It goes to the address behind the
call, and the older return addresses are as they were. -/
theorem return_of_subroutine (dialect : Dialect) (log : Log.Filter) (c : Console)
    (acts : List Act) (h : Subroutine { dialect, log } c acts) :
    let last := c.run { dialect, log } (.step :: acts)
    let after := c.run { dialect, log } (.step :: acts ++ [.step])
    last.machine.fetch = .ok 0x00EE ∧
      after.machine.registers.pc = (c.machine.registers.pc + 2) % 0x10000 ∧
      (c.machine.memory.size ≤ 0xFFFF →
        after.machine.registers.pc = c.machine.registers.pc + 2) ∧
      after.machine.stack.live = c.machine.stack.live := by
  intro last after
  obtain ⟨w, row, fetched, kind, called⟩ := h.called
  obtain ⟨row', left⟩ := h.left
  obtain ⟨nonneg, below, -⟩ := (Machine.fetch_eq_ok_iff ..).1 fetched
  have pushed := Machine.live_step_of_call fetched kind called
  -- all the time the return address stands on top of the older ones
  have stays : c.machine.stack.live ++ [BitVec.ofInt 16 ((c.machine.registers.pc + 2) % 0x10000)]
      <+: last.machine.stack.live := by
    refine live_prefix_run _ (c := c.act _ .step) acts ?_ fun before inside => ?_
    · exact pushed ▸ List.prefix_refl _
    · rw [List.length_append, Stack.length_live]
      exact h.inside before inside
  have final : after = last.act { dialect, log } .step := run_concat ..
  have back := h.back
  change after.machine.stack.depth = c.machine.stack.depth at back
  rw [final] at back ⊢
  have deep : c.machine.stack.depth < last.machine.stack.depth :=
    h.inside acts (List.prefix_refl _)
  obtain ⟨ret, a, cut, pc⟩ := Machine.return_of_shorter left (Nat.lt_of_le_of_lt back.le deep)
  have whole : c.machine.stack.live ++ [BitVec.ofInt 16 ((c.machine.registers.pc + 2) % 0x10000)] =
      (last.act { dialect, log } .step).machine.stack.live ++ [a] := by
    refine (stays.trans (cut ▸ List.prefix_refl _)).eq_of_length ?_
    rw [List.length_append, List.length_append, Stack.length_live, Stack.length_live, back]
    rfl
  obtain ⟨older, top⟩ := List.append_inj whole (by rw [Stack.length_live, Stack.length_live, back])
  have address : (last.act { dialect, log } .step).machine.registers.pc =
      (c.machine.registers.pc + 2) % 0x10000 := by
    refine pc.trans ?_
    rw [← List.head_eq_of_cons_eq top, BitVec.toNat_ofInt]
    omega
  refine ⟨ret, address, fun small => ?_, older.symm⟩
  rw [address]
  omega

/-- A subroutine that calls another one, with a tick and new keys in between. -/
theorem return_of_nested_subroutine :
    let c : Console := { machine := { Machine.standard with
      memory := Memory.standard.pokes 0 [0x20, 0x06, 0x00, 0x00, 0x00, 0xEE, 0x20, 0x04, 0x00,
        0xEE] } }
    let acts : List Act := [.step, .tick, .setKeys (List.replicate 16 true), .step]
    Subroutine {} c acts ∧
      (c.run {} (.step :: acts ++ [.step])).machine.registers.pc = 2 := by
  intro c acts
  have inside : ∀ before ∈ acts.inits, c.machine.stack.depth + 1 ≤
      (c.run {} (.step :: before)).machine.stack.depth := by decide +kernel
  obtain ⟨row, called⟩ : ∃ row, (c.machine.step {}).outcome = .ok row :=
    Machine.executed_of_isOk (by decide +kernel)
  have sub : Subroutine {} c acts :=
    { called := ⟨0x2006, row, by decide +kernel, rfl, called⟩
      inside := fun before started => inside before ((List.mem_inits before acts).2 started)
      left := Machine.executed_of_isOk (by decide +kernel)
      back := by decide +kernel }
  have small : c.machine.memory.size ≤ 0xFFFF := by decide +kernel
  exact ⟨sub, (return_of_subroutine .standard .silent c acts sub).2.2.1 small⟩

end Console

end Chip8
