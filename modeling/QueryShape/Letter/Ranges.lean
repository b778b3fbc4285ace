/-!
# Sets of characters as ranges

A set of characters is a list of ranges of code points, both ends included.
-/

namespace QueryShape.Letter

/-- Ranges of code points, both ends included. -/
abbrev Ranges := List (Nat × Nat)

/-- Some range holds the character. -/
def Ranges.covers (ranges : Ranges) (c : Char) : Bool :=
  ranges.any fun r => r.1 ≤ c.toNat && c.toNat ≤ r.2

end QueryShape.Letter
