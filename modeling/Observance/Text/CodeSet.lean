/-! # Sets of code points

The character classes of Unicode are unions of a few hundred runs of code points. A `CodeSet`
stores such a union by its edges, the code points at which membership changes, in rising order.
A code point is a member exactly when the number of edges at or below it is odd.
-/

namespace Observance.Text

/-- A set of code points, stored as the rising sequence of the places where membership changes. -/
structure CodeSet where
  edges : Array Nat

namespace CodeSet

/-- The first position in `[low, high)` whose edge lies above `code`, or `high` if there is none;
halving the interval is right because the edges rise. -/
def firstAbove (edges : Array Nat) (code low high : Nat) : Nat :=
  if low < high then
    let middle := (low + high) / 2
    if edges.getD middle 0 ≤ code then firstAbove edges code (middle + 1) high
    else firstAbove edges code low middle
  else low
termination_by high - low

/-- The number of edges at or below a code point. -/
def edgesUpTo (set : CodeSet) (code : Nat) : Nat :=
  firstAbove set.edges code 0 set.edges.size

/-- Membership: an odd number of edges has been passed. -/
def contains (set : CodeSet) (code : Nat) : Bool :=
  set.edgesUpTo code % 2 == 1

end CodeSet

end Observance.Text
