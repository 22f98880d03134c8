import Reminders.Text.Wrap.Fragment

namespace Reminders

/-!
# The best fit

Fragments are put on lines so that the total cost of the lines is least.  A line costs something by
itself, and more the further it falls short of the width or exceeds it.  Exceeding costs much more
per column than a gap, and a gap grows dear with its square, so a line may be made too wide where
that avoids a large gap.  The last line may be short, but not much so if it holds a single fragment.

The cost of the best arrangement up to each place is found from those of the places before it.
Among arrangements of equal cost the one whose last line is longest wins.
-/

/-- What one line costs by itself. -/
def lineCost : Nat := 1000

/-- What each column beyond the width costs. -/
def overflowCost : Nat := 2500

/-- What a short last line of a single fragment costs. -/
def shortLastLineCost : Nat := 25

/-- The cost of a line that fills `filled` columns of `width`.  A last line is short if it fills
less than a quarter. -/
def costOfLine (width filled : Nat) (isLast isSingle : Bool) : Nat :=
  lineCost +
    if width < filled then (filled - width) * overflowCost
    else if !isLast then (width - filled) * (width - filled)
    else if isSingle && 4 * filled < width then shortLastLineCost
    else 0

/-- The best arrangement of the first fragments of a text. -/
structure Arrangement where
  /-- The columns of all its fragments with their spaces. -/
  columns : Nat
  cost : Nat
  /-- How many fragments are on each line, the last line first. -/
  lines : List Nat
deriving DecidableEq, Repr

/-- The best way to put a fragment at the end of a line that begins after one of the given
arrangements.  These are the best arrangements of ever fewer fragments, and `count` is how many
fragments more than the first of them the new line holds. -/
def extendBest (width : Nat) (fragment : Fragment) (filled : Nat) (isLast : Bool) :
    (count : Nat) -> List Arrangement -> Option Arrangement
  | _, [] => none
  | count, start :: shorter =>
      let cost := start.cost +
        costOfLine width (filled - start.columns) isLast (count == 1)
      match extendBest width fragment filled isLast (count + 1) shorter with
      | some best =>
          if best.cost ≤ cost then some best
          else some ⟨filled + fragment.spaces, cost, count :: start.lines⟩
      | none => some ⟨filled + fragment.spaces, cost, count :: start.lines⟩

/-- Add fragments to the best arrangements of the fragments so far, the longest first. -/
def arrangeFrom (width : Nat) : List Arrangement -> List Fragment -> List Arrangement
  | reached, [] => reached
  | reached, fragment :: rest =>
      let before := (reached.head?.map Arrangement.columns).getD 0
      match extendBest width fragment (before + fragment.width) rest.isEmpty 1 reached with
      | some best => arrangeFrom width (best :: reached) rest
      | none => reached

/-- How many fragments the best fit puts on each line. -/
def bestFit (width : Nat) (fragments : List Fragment) : List Nat :=
  match arrangeFrom width [⟨0, 0, []⟩] fragments with
  | best :: _ => best.lines.reverse
  | [] => []

/-- Divide a list into parts of the given lengths. -/
def divide {α : Type} : List Nat -> List α -> List (List α)
  | [], _ => []
  | count :: counts, items => items.take count :: divide counts (items.drop count)

end Reminders
