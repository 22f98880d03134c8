namespace Reminders

/-!
# Tables of code points

A property of characters is given by a list of ranges of code points, both ends included.  The
ranges of a list are disjoint and ascend, so that looking a code point up may stop at the first
range that begins after it.
-/

/-- Whether a code point lies in one of the ranges. -/
def inRanges (code : Nat) : List (Nat × Nat) -> Bool
  | [] => false
  | (first, last) :: rest => first ≤ code && (code ≤ last || inRanges code rest)

/-- The value of the range that holds a code point. -/
def rangeValue {α : Type} (code : Nat) : List (Nat × Nat × α) -> Option α
  | [] => none
  | (first, last, value) :: rest =>
      if code < first then none
      else if code ≤ last then some value
      else rangeValue code rest

end Reminders
