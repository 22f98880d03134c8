import Reminders.Calendar.Date

namespace Reminders

/-!
# Weekdays and weeks

Weeks run from Monday to Sunday.  A week belongs to the year that holds its Thursday, and is
numbered from the first such week of that year.
-/

/-- The days of the week. -/
inductive Weekday where
  | monday
  | tuesday
  | wednesday
  | thursday
  | friday
  | saturday
  | sunday
deriving DecidableEq, Repr

/-- The weekday so many days after a Monday, or before it for a negative count. -/
def Weekday.afterMonday (count : Int) : Weekday :=
  match (count % 7).toNat with
  | 0 => .monday
  | 1 => .tuesday
  | 2 => .wednesday
  | 3 => .thursday
  | 4 => .friday
  | 5 => .saturday
  | _ => .sunday

/-- The weekday of a date.  Day number 1 is a Monday. -/
def Date.weekday (date : Date) : Weekday := .afterMonday (date.dayNumber - 1)

/-- The number of the week that holds a date.  The Thursday of the week may lie in the year before
or after the date's own, also past the last supported year, so the week is found on day numbers. -/
def Date.isoWeek (date : Date) : Nat :=
  let monday := date.dayNumber - (date.dayNumber - 1) % 7
  let thursday := monday + 3
  let yearDay := thursday - daysBeforeYear (yearOfDayNumber thursday)
  ((yearDay - 1) / 7).toNat + 1

end Reminders
