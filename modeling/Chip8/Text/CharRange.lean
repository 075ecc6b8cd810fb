/-
# Chip8.Text.CharRange — character classes given as ranges of code points

The character properties this library consults (printable, blank, cased, …) are
data of the Unicode standard, version 14. Each is a list of closed ranges in
ascending order; `CharRange.mem` asks whether a character falls in one of them.
-/
namespace Chip8.Text

set_option autoImplicit false

/-- A closed range of code points, first to last. -/
abbrev CharRange := Nat × Nat

namespace CharRange

def mem (ranges : List CharRange) (c : Char) : Bool :=
  ranges.any fun r => r.1 ≤ c.toNat && c.toNat ≤ r.2

theorem mem_iff (ranges : List CharRange) (c : Char) :
    mem ranges c = true ↔ ∃ r ∈ ranges, r.1 ≤ c.toNat ∧ c.toNat ≤ r.2 := by
  simp [mem]

end CharRange

end Chip8.Text
