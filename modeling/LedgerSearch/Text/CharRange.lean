/-!
# Ranges of characters

A character class is given by its ranges of code points, in ascending order and
both ends included.
-/

namespace LedgerSearch.Text

/-- Whether a character lies in one of the ranges. -/
def inRanges (ranges : List (Nat × Nat)) (c : Char) : Bool :=
  ranges.any fun r => r.1 ≤ c.toNat && c.toNat ≤ r.2

end LedgerSearch.Text
