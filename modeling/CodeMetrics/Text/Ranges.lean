/-!
# Sets of characters given by ranges

A property of characters is written as a table of code point ranges, first and last included.
-/

namespace CodeMetrics

/-- Ranges of code points, each with its first and its last member. -/
abbrev CodeRanges := Array (Nat × Nat)

namespace CodeRanges

/-- The character lies in one of the ranges. -/
def has (ranges : CodeRanges) (c : Char) : Bool :=
  ranges.any fun (first, last) => first ≤ c.toNat && c.toNat ≤ last

end CodeRanges

end CodeMetrics
