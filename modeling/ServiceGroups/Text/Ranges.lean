/-!
# Sets of characters as ranges

A property of the character database is carried as a table of inclusive ranges
of code points, in increasing order.
-/

namespace ServiceGroups

namespace Text

/-- Membership of a code point in a table of inclusive ranges. -/
def inRanges (ranges : List (Nat × Nat)) (code : Nat) : Bool :=
  ranges.any fun range => range.1 ≤ code && code ≤ range.2

end Text

end ServiceGroups
