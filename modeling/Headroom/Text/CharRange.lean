/-!
# Ranges of characters

A property of characters is given by a list of ranges of code points.
-/

namespace Headroom.Text

/-- Whether the code point of a character lies in one of the ranges. -/
def inRanges (ranges : List (Nat × Nat)) (char : Char) : Bool :=
  ranges.any fun range => range.1 ≤ char.toNat && char.toNat ≤ range.2

end Headroom.Text
