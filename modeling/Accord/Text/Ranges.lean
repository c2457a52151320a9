/-!
# `Accord.Text.Ranges`: character classes as tables of ranges

A class of characters is a list of closed ranges of code points. The properties of Unicode that
the library asks for (`Text.Blank`, `Text.Identifier`, `Text.Printable`) are such tables.
-/

set_option autoImplicit false

namespace Accord.Text

/-- Closed ranges of code points. -/
abbrev Ranges := List (Nat × Nat)

/-- Whether one of the ranges holds the character. -/
def Ranges.covers (ranges : Ranges) (c : Char) : Bool :=
  ranges.any fun range => decide (range.1 ≤ c.toNat) && decide (c.toNat ≤ range.2)

/-- `covers` holds of the characters between the ends of some range. -/
theorem Ranges.covers_iff {ranges : Ranges} {c : Char} :
    ranges.covers c = true ↔ ∃ range ∈ ranges, range.1 ≤ c.toNat ∧ c.toNat ≤ range.2 := by
  simp [Ranges.covers]

end Accord.Text
