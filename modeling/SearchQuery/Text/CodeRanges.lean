/-!
# Tables of code point ranges

A character property of the Unicode standard is a table of closed ranges in increasing
order.  Membership is decided by binary search.
-/

namespace SearchQuery

/-- A set of code points, written as closed ranges in increasing order. -/
structure CodeRanges where
  ranges : Array (Nat × Nat)

namespace CodeRanges

/-- Looks for `n` among the ranges with an index from `low` up to `high`, `high` excluded. -/
def search (table : CodeRanges) (n low high : Nat) : Bool :=
  if low < high then
    let middle := (low + high) / 2
    match table.ranges[middle]? with
    | none => false
    | some (first, last) =>
      if n < first then search table n low middle
      else if last < n then search table n (middle + 1) high
      else true
  else false
termination_by high - low

/-- Whether a code point lies in one of the ranges. -/
def contains (table : CodeRanges) (n : Nat) : Bool :=
  table.search n 0 table.ranges.size

/-- Whether a character lies in one of the ranges. -/
def holds (table : CodeRanges) (c : Char) : Bool :=
  table.contains c.toNat

end CodeRanges

end SearchQuery
