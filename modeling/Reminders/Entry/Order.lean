import Reminders.Reminder

namespace Reminders

/-!
# The order of entries

Entries are listed overdue ones first, then by date, by priority and by the start of their window.
Entries without a window come after those with one.  Where all of these agree, entries keep the
order in which they were read.
-/

/-- The start under which entries without a window are ordered, later than any minute of a day. -/
def untimedStart : Nat := 4294967295

/-- What entries are ordered by. -/
structure OrderKey where
  /-- False for overdue entries, which come first. -/
  pending : Bool
  date : Option Date
  priority : Nat
  start : Nat
deriving DecidableEq

/-- Field by field; a missing date comes before every date. -/
def OrderKey.compare : OrderKey -> OrderKey -> Ordering :=
  compareLex (compareOn OrderKey.pending)
    (compareLex (compareOn fun key => key.date.map Date.dayNumber)
      (compareLex (compareOn OrderKey.priority) (compareOn OrderKey.start)))

namespace Entry

/-- What an entry is ordered by. -/
def orderKey (entry : Entry) : OrderKey :=
  ⟨!entry.overdue, entry.displayDate, entry.reminder.priority,
    (entry.reminder.window.map TimeWindow.start).getD untimedStart⟩

/-- Whether an entry may stand before another one. -/
def mayPrecede (first second : Entry) : Bool :=
  (OrderKey.compare first.orderKey second.orderKey).isLE

/-- Entries in the order in which they are listed. -/
def sort (entries : List Entry) : List Entry := entries.mergeSort mayPrecede

end Entry

end Reminders
