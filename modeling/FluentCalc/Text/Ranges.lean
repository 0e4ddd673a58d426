/-
# Tables of code points

A character class of the Unicode standard is written down as a list of closed
intervals of code points. This module holds membership in such a table and
nothing else; each class has a module of its own.
-/

namespace FluentCalc.Text

/-- A class of characters, given by closed intervals of code points. -/
abbrev Ranges := List (Nat × Nat)

namespace Ranges

/-- Whether a character lies in one of the intervals. -/
def contains (table : Ranges) (c : Char) : Bool :=
  table.any fun interval => interval.1 ≤ c.toNat && c.toNat ≤ interval.2

theorem contains_iff (table : Ranges) (c : Char) :
    table.contains c = true ↔
      ∃ interval ∈ table, interval.1 ≤ c.toNat ∧ c.toNat ≤ interval.2 := by
  simp [contains]

end Ranges

end FluentCalc.Text
