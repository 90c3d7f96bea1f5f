/-!
# Sets of characters given by ranges

A property of characters that a standard lists is kept as ascending closed ranges of code points.
-/

namespace MemberAccess.Text

/-- Whether the code point of `c` lies in one of the closed ranges. -/
def inRanges (ranges : List (Nat × Nat)) (c : Char) : Bool :=
  ranges.any fun (lo, hi) => lo ≤ c.toNat && c.toNat ≤ hi

end MemberAccess.Text
