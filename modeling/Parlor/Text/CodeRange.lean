/-!
# Ranges of code points

A property of characters given by the ranges of the code points that have it.
-/

namespace Parlor.Text

/-- The first and the last code point of a range. -/
abbrev CodeRange := Nat × Nat

/-- Tests whether one of the ranges holds a character. -/
def inRanges (ranges : List CodeRange) (c : Char) : Bool :=
  ranges.any fun (first, last) => first ≤ c.toNat && c.toNat ≤ last

end Parlor.Text
