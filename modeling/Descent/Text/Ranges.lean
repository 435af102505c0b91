/-!
# Code-point tables

A character class of the Unicode standard is given as a table of closed code-point ranges,
ascending, neither overlapping nor touching. `inRanges` is the membership test that every
table module of this folder uses: a character is in the class when its code point lies in one
of the ranges.
-/

namespace Descent.Text

/-- Whether the code point of `c` lies in one of the closed ranges of `table`. -/
def inRanges (table : Array (Nat × Nat)) (c : Char) : Bool :=
  table.any fun r => r.1 ≤ c.toNat && c.toNat ≤ r.2

end Descent.Text
