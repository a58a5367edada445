/-!
# Sets of characters

A set of characters that a standard defines is given by the first and last code points
of its runs.
-/

namespace CardLimits.Text

/-- Whether the code point of a character lies in one of some ranges, both ends
included. -/
def isWithin (ranges : List (Nat × Nat)) (character : Char) : Bool :=
  let code := character.toNat
  ranges.any fun range => range.1 ≤ code && code ≤ range.2

end CardLimits.Text
