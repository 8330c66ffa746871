/-!
# Character tables

A character property is a list of closed ranges of code points in ascending order.
-/

namespace GuardedSearch.Text

/-- Whether the character's code point lies in one of the ranges. -/
def inRanges (ranges : List (Nat × Nat)) (c : Char) : Bool :=
  ranges.any fun r => r.1 ≤ c.toNat && c.toNat ≤ r.2

end GuardedSearch.Text
