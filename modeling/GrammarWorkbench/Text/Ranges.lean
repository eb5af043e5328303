/-!
# Tables of code points

A character class is a list of closed intervals of code points in ascending order. A search walks
the list and stops at the first interval that starts beyond the code point, so that the characters
with small code points are found after a few steps.
-/

set_option autoImplicit false

namespace GrammarWorkbench.Text

/-- Closed intervals of code points, in ascending order. -/
abbrev Ranges := List (Nat × Nat)

namespace Ranges

/-- The start of the interval that holds a code point. -/
def start? : Ranges → Nat → Option Nat
  | [], _ => none
  | (low, high) :: rest, n =>
    if n < low then none else if n ≤ high then some low else start? rest n

/-- Whether a code point lies in one of the intervals. -/
def covers (ranges : Ranges) (n : Nat) : Bool :=
  (ranges.start? n).isSome

end Ranges

end GrammarWorkbench.Text
