/-!
# Sets of code points

A set of code points is kept as the sorted list of the places where membership changes: the first bound
enters the set, the second leaves it, and so on. A code point belongs to the set when an odd number of
bounds lie at or below it, which a binary search counts.
-/

namespace SignalGraph.Text

/-- A set of code points, given by the increasing bounds at which membership changes. -/
structure CodeRanges where
  /-- The first members and first non-members of the ranges, alternating. -/
  bounds : Array Nat

namespace CodeRanges

/--
The number of bounds at or below `n`, when all bounds before `lo` are and none from `hi` on is.
Each step halves the part that is still open.
-/
def countUpTo (r : CodeRanges) (n lo hi : Nat) : Nat :=
  if h : lo < hi then
    let mid := (lo + hi) / 2
    if r.bounds.getD mid 0 ≤ n then countUpTo r n (mid + 1) hi else countUpTo r n lo mid
  else lo
termination_by hi - lo

/-- Whether a character belongs to the set. -/
def contains (r : CodeRanges) (c : Char) : Bool :=
  r.countUpTo c.toNat 0 r.bounds.size % 2 == 1

end CodeRanges

end SignalGraph.Text
