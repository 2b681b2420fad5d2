/-!
# Code point ranges

A set of characters given by the first and the last code point of each of its ranges.
-/

namespace DocTable.Text

/-- Membership of a code point in a list of closed ranges. -/
def inRanges (ranges : List (Nat × Nat)) (n : Nat) : Bool :=
  ranges.any fun (first, last) => first ≤ n && n ≤ last

end DocTable.Text
