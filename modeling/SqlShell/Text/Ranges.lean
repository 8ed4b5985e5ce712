/-!
# Code point ranges

A class of characters is given by the code points it spans, as a list of inclusive ranges in ascending
order. The tables beside this module are the classes that SQL text is read by.
-/

namespace SqlShell.Text

/-- The code point of `c` lies in one of the inclusive ranges. -/
def inRanges (ranges : List (Nat × Nat)) (c : Char) : Bool :=
  ranges.any fun (first, last) => decide (first ≤ c.toNat) && decide (c.toNat ≤ last)

end SqlShell.Text
