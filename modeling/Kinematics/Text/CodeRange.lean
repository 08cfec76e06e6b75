/-!
# Sets of characters as ranges

Properties of characters are tables of code point ranges, each with its first and its
last member.
-/

namespace Kinematics

namespace Text

/-- Whether a code point lies in one of the ranges. -/
def inRanges (ranges : List (Nat × Nat)) (code : Nat) : Bool :=
  ranges.any fun range => decide (range.1 ≤ code) && decide (code ≤ range.2)

end Text

end Kinematics
