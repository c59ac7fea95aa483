/-!
# Sets of characters

A set of characters is a list of ranges of code points, each with its first and last member.
-/

namespace TlvSchema.Text

/-- The character lies in one of the ranges. -/
def inRanges (ranges : List (Nat × Nat)) (c : Char) : Bool :=
  ranges.any fun range => range.1 ≤ c.toNat && c.toNat ≤ range.2

end TlvSchema.Text
