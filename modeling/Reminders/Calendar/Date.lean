import Reminders.Text.Numeral

namespace Reminders

/-!
# Calendar dates

Dates of the proleptic Gregorian calendar, for the years that the calendar supports.  Every date
has a day number, counted from 1 January of the year 1, which has number 1.  Day numbers carry the
order of dates and all arithmetic on them; going back from a number to a date may leave the
supported years, and then there is no date.
-/

/-- The first supported year. -/
def firstYear : Int := -262143

/-- The last supported year. -/
def lastYear : Int := 262142

/-- Every fourth year is a leap year, except centuries not divisible by 400. -/
def isLeapYear (year : Int) : Bool :=
  year % 4 == 0 && (year % 100 != 0 || year % 400 == 0)

/-- The length of a month.  A number that names no month has no days. -/
def daysInMonth (year : Int) (month : Nat) : Nat :=
  match month with
  | 1 | 3 | 5 | 7 | 8 | 10 | 12 => 31
  | 4 | 6 | 9 | 11 => 30
  | 2 => if isLeapYear year then 29 else 28
  | _ => 0

/-- A day of a supported year. -/
structure Date where
  year : Int
  month : Nat
  day : Nat
  year_supported : firstYear ≤ year ∧ year ≤ lastYear
  day_exists : 1 ≤ day ∧ day ≤ daysInMonth year month
deriving DecidableEq

/-- The number of days before 1 January of a year, counted from the start of the year 1. -/
def daysBeforeYear (year : Int) : Int :=
  let past := year - 1
  365 * past + past / 4 - past / 100 + past / 400

/-- The number of days of a year before the first of a month. -/
def daysBeforeMonth (year : Int) : Nat -> Nat
  | 0 => 0
  | month + 1 => daysBeforeMonth year month + daysInMonth year month

/-- The year that holds a day number.  A year has 365.2425 days on average, so the estimate is at
most one year off on either side. -/
def yearOfDayNumber (number : Int) : Int :=
  let estimate := 400 * number / 146097
  if number ≤ daysBeforeYear (estimate + 1) then estimate
  else if number ≤ daysBeforeYear (estimate + 2) then estimate + 1
  else estimate + 2

/-- The month that holds the given day of a year, counted from 1, looked for from `month` on. -/
def monthOfYearDay (year : Int) (yearDay : Nat) : (remaining month : Nat) -> Nat
  | 0, month => month
  | remaining + 1, month =>
      if yearDay ≤ daysBeforeMonth year (month + 1) then month
      else monthOfYearDay year yearDay remaining (month + 1)

namespace Date

/-- The date with the given fields, if there is one. -/
def ofFields (year : Int) (month day : Nat) : Option Date :=
  if supported : firstYear ≤ year ∧ year ≤ lastYear then
    if existing : 1 ≤ day ∧ day ≤ daysInMonth year month then
      some ⟨year, month, day, supported, existing⟩
    else none
  else none

/-- The position of a date on the day line. -/
def dayNumber (date : Date) : Int :=
  daysBeforeYear date.year + daysBeforeMonth date.year date.month + date.day

/-- The date with the given day number, if it falls into a supported year. -/
def ofDayNumber (number : Int) : Option Date :=
  let year := yearOfDayNumber number
  let yearDay := (number - daysBeforeYear year).toNat
  let month := monthOfYearDay year yearDay 11 1
  ofFields year month (yearDay - daysBeforeMonth year month)

/-- The date so many days later, or earlier for a negative count. -/
def addDays (date : Date) (count : Int) : Option Date := ofDayNumber (date.dayNumber + count)

instance : LT Date := ⟨fun first second => first.dayNumber < second.dayNumber⟩

instance : LE Date := ⟨fun first second => first.dayNumber ≤ second.dayNumber⟩

instance (first second : Date) : Decidable (first < second) :=
  inferInstanceAs (Decidable (first.dayNumber < second.dayNumber))

instance (first second : Date) : Decidable (first ≤ second) :=
  inferInstanceAs (Decidable (first.dayNumber ≤ second.dayNumber))

end Date

/-! ## Written dates -/

/-- A year in at least four digits.  Years of other than four digits carry their sign. -/
def yearText (year : Int) : String :=
  if 0 ≤ year ∧ year ≤ 9999 then paddedNumeral 4 year.toNat
  else (if year < 0 then "-" else "+") ++ paddedNumeral 4 year.natAbs

/-- Year, month and day with a separator between them. -/
def Date.text (separator : String) (date : Date) : String :=
  yearText date.year ++ separator ++ paddedNumeral 2 date.month ++ separator ++
    paddedNumeral 2 date.day

/-- Year, month and day joined by hyphens, the form used outside the report. -/
def Date.isoText (date : Date) : String := date.text "-"

end Reminders
