/-!
# Sets of characters as ranges

A property of characters is tabulated by the ranges of code points that have it, in increasing order.
-/

namespace EdwardsSignature.Text

/-- Ranges of code points, each by its first and its last one. -/
abbrev Ranges := List (Nat × Nat)

/-- Each range ends before the next one begins. -/
def Ranges.increasing (rs : Ranges) : Bool := (rs.zip rs.tail).all fun rr => rr.1.2 < rr.2.1

/-- The code point `n` is in one of the ranges. -/
def Ranges.has (rs : Ranges) (n : Nat) : Bool := rs.any fun r => r.1 ≤ n && n ≤ r.2

end EdwardsSignature.Text
