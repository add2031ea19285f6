/-
Sets of characters given as ascending, disjoint ranges of code points.
-/

namespace CatchAudit.Text

/-- Whether the code point `n` lies in one of the ranges, ends included. -/
def inRanges (ranges : List (Nat × Nat)) (n : Nat) : Bool :=
  ranges.any fun r => r.1 ≤ n && n ≤ r.2

end CatchAudit.Text
