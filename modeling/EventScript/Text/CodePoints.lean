/-!
# Sets of code points

Properties of characters are kept as lists of closed ranges of code points.
-/

namespace EventScript.Text

/-- Whether a character lies in one of the closed ranges. -/
def inRanges (ranges : List (Nat × Nat)) (c : Char) : Bool :=
  ranges.any fun (low, high) ↦ low ≤ c.toNat && c.toNat ≤ high

end EventScript.Text
