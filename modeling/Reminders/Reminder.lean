import Reminders.Calendar.Week
import Reminders.Text.Blank

namespace Reminders

/-!
# Reminders

A reminder is what one line of a data file says: how urgent it is, on which days and in which
hours it is due, and its text.  Whether it is due on a given day is not part of it; that verdict
is recorded in an `Entry`, which is a reminder as it is listed in a report.
-/

/-- One field of a written date: a fixed number, or a wildcard that stands for the field of today.
A fixed number is a 32-bit word, as a year is when it is exchanged with today's. -/
inductive DateField where
  | exact (value : UInt32)
  | wild
deriving DecidableEq, Repr

namespace DateField

def isWild : DateField -> Bool
  | exact _ => false
  | wild => true

/-- The number a field stands for when today's field is `current`. -/
def resolve (current : UInt32) : DateField -> UInt32
  | exact value => value
  | wild => current

end DateField

/-- A year as a 32-bit word, negative years in two's complement. -/
def wordOfYear (year : Int) : UInt32 := (Int32.ofInt year).toUInt32

/-- The year a 32-bit word stands for, negative years in two's complement. -/
def yearOfWord (word : UInt32) : Int := word.toInt32.toInt

/-- The weekdays on which a weekly reminder is active. -/
structure WeekMask where
  monday : Bool
  tuesday : Bool
  wednesday : Bool
  thursday : Bool
  friday : Bool
  saturday : Bool
  sunday : Bool
deriving DecidableEq, Repr

/-- Whether the mask is active on a weekday. -/
def WeekMask.includes (mask : WeekMask) : Weekday -> Bool
  | .monday => mask.monday
  | .tuesday => mask.tuesday
  | .wednesday => mask.wednesday
  | .thursday => mask.thursday
  | .friday => mask.friday
  | .saturday => mask.saturday
  | .sunday => mask.sunday

/-- A further condition on a weekly reminder. -/
inductive Qualifier where
  /-- Only in weeks whose number is divisible by `modulus`. -/
  | everyWeeks (modulus : Nat)
  /-- Only on the given occurrence of the weekday in the month. -/
  | nthInMonth (ordinal : Nat)
deriving DecidableEq, Repr

/-- The days on which a reminder is due. -/
inductive DatePattern where
  | specific (year month day : DateField)
  | weekly (mask : WeekMask) (qualifier : Option Qualifier)
deriving DecidableEq, Repr

/-- A span of a day, both ends in minutes after midnight. -/
structure TimeWindow where
  start : Nat
  finish : Nat
deriving DecidableEq, Repr

/-- A minute of the day as four digits, hours before minutes. -/
def clockText (minute : Nat) : String :=
  paddedNumeral 2 (minute / 60) ++ paddedNumeral 2 (minute % 60)

/-- Both ends of a window, as `HHMM-HHMM`. -/
def TimeWindow.text (window : TimeWindow) : String :=
  clockText window.start ++ "-" ++ clockText window.finish

/-- What one line of a data file says. -/
structure Reminder where
  /-- Lower numbers are more urgent. -/
  priority : Nat
  pattern : DatePattern
  window : Option TimeWindow
  text : String
  /-- The line as it was read, kept for messages. -/
  source : String
deriving DecidableEq, Repr

/-- A reminder with the blanks at the end of its text removed. -/
def Reminder.trimmed (priority : Nat) (pattern : DatePattern) (window : Option TimeWindow)
    (text source : String) : Reminder :=
  ⟨priority, pattern, window, String.ofList (trimEnd text.toList), source⟩

/-- A reminder as it is listed: whether it is overdue, and the date that it is listed under. -/
structure Entry where
  reminder : Reminder
  overdue : Bool
  displayDate : Option Date
deriving DecidableEq

/-- A reminder as it stands before it is judged: not overdue, and under no date. -/
def Entry.unjudged (reminder : Reminder) : Entry := ⟨reminder, false, none⟩

end Reminders
