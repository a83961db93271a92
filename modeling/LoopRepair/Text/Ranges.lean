/-!
# Ranges of characters

A set of characters given as closed ranges of code points.
-/

namespace LoopRepair.Text

/-- Whether a character lies in one of the ranges. -/
def inRanges (ranges : List (Nat × Nat)) (c : Char) : Bool :=
  ranges.any fun range => range.1 ≤ c.toNat && c.toNat ≤ range.2

end LoopRepair.Text
