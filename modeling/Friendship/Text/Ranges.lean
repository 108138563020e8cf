/-!
# Sets of code points

A set of code points is given by its ranges in ascending order.
-/

namespace Friendship.Text

/-- The first and the last code point of each range. -/
abbrev Ranges := List (Nat × Nat)

namespace Ranges

def contains (ranges : Ranges) (c : Char) : Bool :=
  ranges.any fun (low, high) => low ≤ c.toNat && c.toNat ≤ high

end Ranges
end Friendship.Text
