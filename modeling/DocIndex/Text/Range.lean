/-!
# Ranges of code points

A character property is given by the ranges of code points that have it.
-/

namespace DocIndex.Text

/-- The code points from the first to the second, both included. -/
abbrev Range := Nat × Nat

def inRanges (ranges : List Range) (c : Char) : Bool :=
  ranges.any fun r => r.1 ≤ c.toNat && c.toNat ≤ r.2

end DocIndex.Text
