/-!
# Ranges of code points

A property of characters is given by the ranges of the code points that have it,
in ascending order.
-/

namespace IntentWire.Text

/-- Ranges of code points, each by its ends, which belong to it. -/
abbrev CodeRanges := List (Nat × Nat)

/-- Whether a character lies in one of the ranges. As they ascend, the search ends
    at the first range that lies beyond the character. -/
def CodeRanges.contains : CodeRanges → Char → Bool
  | [], _ => false
  | (first, last) :: ranges, c =>
    if c.toNat < first then false else c.toNat ≤ last || contains ranges c

end IntentWire.Text
