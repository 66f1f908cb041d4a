/-!
# Ranges — a set of characters as a table

A property of characters is a list of ranges of code points in ascending order.  Membership stops
at the first range that begins after the code point.

1. `inRanges`, membership.
-/

namespace FleetLifecycle
namespace Text

/-- Whether a code point lies in one of the ranges, which are in ascending order. -/
def inRanges (n : Nat) : List (Nat × Nat) → Bool
  | [] => false
  | (first, last) :: ranges =>
    if n < first then false else if n ≤ last then true else inRanges n ranges

end Text
end FleetLifecycle
