/-!
This module contains sets of characters that are given by ranges of code points.
-/

namespace RangeTail.Text

/-- Ranges of code points with both ends. -/
abbrev CodeRanges := List (Nat × Nat)

/-- Whether one of the ranges holds a character. -/
def CodeRanges.has (ranges : CodeRanges) (c : Char) : Bool :=
  ranges.any fun (first, last) => first ≤ c.toNat && c.toNat ≤ last

end RangeTail.Text
