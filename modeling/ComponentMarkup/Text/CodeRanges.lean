/-
  ComponentMarkup.Text.CodeRanges
  ────────────────────────────────
  **Sets of characters as ranges of code points.**

  The character classes of this library are tables of ranges, in ascending order; `has` looks a
  character up.
-/

namespace ComponentMarkup.Text

/-- A set of code points, as ranges with both ends included. -/
abbrev CodeRanges := List (Nat × Nat)

/-- Whether the character's code point lies in one of the ranges. -/
def CodeRanges.has (ranges : CodeRanges) (c : Char) : Bool :=
  ranges.any fun range => decide (range.1 ≤ c.toNat) && decide (c.toNat ≤ range.2)

end ComponentMarkup.Text
