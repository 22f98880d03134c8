import Reminders.Reminder

namespace Reminders

/-!
# Writing a reminder as a line

A reminder can be written in many ways, with more blanks between its parts or with more digits.
One of them is canonical: single spaces, date fields filled up with zeros, and all other numbers in
as few digits as they need.  The canonical line depends only on what the reminder says, and not on
the line that it was read from.
-/

/-- A field of a date: its number in at least `width` digits, or as many question marks. -/
def DateField.written (width : Nat) : DateField -> String
  | exact value => paddedNumeral width value.toNat
  | wild => String.ofList (List.replicate width '?')

/-- A column of a mask: the letter of its day, or a hyphen if the day is inactive. -/
def maskColumn (letter : Char) (active : Bool) : Char := if active then letter else '-'

/-- The seven columns of a mask, Sunday first. -/
def WeekMask.columns (mask : WeekMask) : List Char :=
  [maskColumn 'S' mask.sunday, maskColumn 'M' mask.monday, maskColumn 'T' mask.tuesday,
    maskColumn 'W' mask.wednesday, maskColumn 'T' mask.thursday, maskColumn 'F' mask.friday,
    maskColumn 'S' mask.saturday]

def Qualifier.written : Qualifier -> String
  | everyWeeks modulus => "%" ++ numeral modulus
  | nthInMonth ordinal => "[" ++ numeral ordinal ++ "]"

def DatePattern.written : DatePattern -> String
  | specific year month day => year.written 4 ++ "." ++ month.written 2 ++ "." ++ day.written 2
  | weekly mask qualifier => String.ofList mask.columns ++ (qualifier.map Qualifier.written).getD ""

/-- The canonical line of a reminder. -/
def Reminder.written (reminder : Reminder) : String :=
  numeral reminder.priority ++ " " ++ reminder.pattern.written ++
    (reminder.window.map fun window => ":" ++ window.text).getD "" ++ " " ++ reminder.text

end Reminders
