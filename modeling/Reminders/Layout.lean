import Reminders.Reminder
import Reminders.Text.Wrap

namespace Reminders

/-!
# Layout

An entry is laid out in fixed columns.  Its first line begins with a head of 24 columns: a mark if
it is overdue, the priority, the date and the time window.  The text follows, wrapped to the width
that is left, and its further lines are indented by as much.
-/

/-- The column at which texts start. -/
def textColumn : Nat := 24

/-- The least width that a text is wrapped to, however narrow the output. -/
def leastTextWidth : Nat := 20

/-- The width of the output unless another one is asked for. -/
def standardWidth : Nat := 80

/-- A number of spaces. -/
def spaces (count : Nat) : String := String.ofList (List.replicate count ' ')

theorem toList_spaces (count : Nat) : (spaces count).toList = List.replicate count ' ' :=
  String.toList_ofList

theorem length_spaces (count : Nat) : (spaces count).length = count := by
  rw [← String.length_toList, toList_spaces, List.length_replicate]

/-- Fill a text up with spaces behind it. -/
def padRight (width : Nat) (text : String) : String := text ++ spaces (width - text.length)

/-- Fill a text up with spaces before it. -/
def padLeft (width : Nat) (text : String) : String := spaces (width - text.length) ++ text

namespace Entry

/-- What stands before the text of an entry.  An entry without a date or a window leaves their
columns blank. -/
def head (entry : Entry) : String :=
  let mark := if entry.overdue then "*" else " "
  let date := (entry.displayDate.map (Date.text ".")).getD ""
  let window := (entry.reminder.window.map TimeWindow.text).getD ""
  mark ++ numeral entry.reminder.priority ++ " " ++ padRight 10 date ++ " " ++ padLeft 9 window ++
    " "

/-- The width that texts are wrapped to in an output of the given width. -/
def textWidth (width : Nat) : Nat := max (width - textColumn) leastTextWidth

/-- The lines of an entry in an output of the given width. -/
def lines (width : Nat) (entry : Entry) : List String :=
  match (wrap (textWidth width) entry.reminder.text.toList).map String.ofList with
  | [] => []
  | first :: further => (entry.head ++ first) :: further.map (spaces textColumn ++ ·)

end Entry

/-- The line that says that there are more entries than the limit lets through. -/
def limitMarker (limit : Nat) : String :=
  spaces textColumn ++ "limit exceeded (" ++ numeral limit ++ ")"

/-- The lines of a list of entries, of which at most `limit` are laid out. -/
def listingLines (width : Nat) (limit : Option Nat) (entries : List Entry) : List String :=
  match limit with
  | none => entries.flatMap (Entry.lines width)
  | some limit =>
      (entries.take limit).flatMap (Entry.lines width) ++
        if limit < entries.length then [limitMarker limit] else []

end Reminders
