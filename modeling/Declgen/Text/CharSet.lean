/-!
# Sets of characters

A set of characters is given by ranges of code points.
-/

namespace Declgen.Text

structure CharSet where
  /-- The first and the last code point of each range. -/
  ranges : List (Nat × Nat)

def CharSet.contains (s : CharSet) (c : Char) : Bool :=
  s.ranges.any fun (first, last) => first ≤ c.toNat && c.toNat ≤ last

end Declgen.Text
