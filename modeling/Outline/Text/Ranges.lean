/-!
# Sets of code points

A character class is a list of inclusive **ranges** of code points in ascending order.
-/

namespace Outline.Text

/-- Inclusive ranges of code points, in ascending order and without overlap. -/
abbrev Ranges := List (Nat × Nat)

/-- Membership; the search ends at the first range beyond the code point. -/
def Ranges.has : Ranges → Nat → Bool
  | [], _ => false
  | (lo, hi) :: rest, n => if n < lo then false else n ≤ hi || Ranges.has rest n

end Outline.Text
