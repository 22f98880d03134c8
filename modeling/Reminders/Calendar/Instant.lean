import Reminders.Calendar.Date
import Reminders.Text.Blank

namespace Reminders

/-!
# Instants

An instant is a date with a time of day.  It is written as a date, or as a date and a time with the
letter T between them; a date alone stands for its midnight.

Each number may have blanks before it.  A year is either a sign with any number of digits or up to
four digits without one, the other numbers have one or two digits.  A number that its field cannot
take is refused as soon as it is read, a day that its month does not have only at the end.
-/

/-- A time of day on a date. -/
structure Instant where
  date : Date
  hour : Nat
  minute : Nat
deriving DecidableEq

namespace Instant

/-- Why a text is no instant. -/
inductive Problem where
  | tooShort
  | invalid
  | outOfRange
  | trailing
deriving DecidableEq, Repr

def Problem.message : Problem -> String
  | tooShort => "premature end of input"
  | invalid => "input contains invalid characters"
  | outOfRange => "input is out of range"
  | trailing => "trailing input"

/-- Read at least one and at most `most` digits, or as many as there are if there is no such bound.
Numbers of 64 bits and more are refused, even if fewer digits than are there would do. -/
def readNumber (most : Option Nat) (text : List Char) : Except Problem (Nat × List Char) :=
  let run := (match most with
    | some most => text.take most
    | none => text).takeWhile Char.isDigit
  match text, run with
  | [], _ => .error .tooShort
  | _, [] => .error .invalid
  | _, digits =>
      let value := Nat.ofDigitChars 10 digits 0
      if value < 0x8000000000000000 then .ok (value, text.drop digits.length)
      else .error .outOfRange

/-- Read a year, which has to be one of 32 bits. -/
def readYear (text : List Char) : Except Problem (Int × List Char) := do
  let (year, rest) ← (match trimStart text with
    | '-' :: rest => do
        let (value, rest) ← readNumber none rest
        .ok (-(value : Int), rest)
    | '+' :: rest => do
        let (value, rest) ← readNumber none rest
        .ok ((value : Int), rest)
    | unsigned => do
        let (value, rest) ← readNumber (some 4) unsigned
        .ok ((value : Int), rest))
  if -0x80000000 ≤ year ∧ year < 0x80000000 then .ok (year, rest) else .error .outOfRange

/-- Read a number of one or two digits that lies within the bounds. -/
def readShort (least greatest : Nat) (text : List Char) : Except Problem (Nat × List Char) := do
  let (value, rest) ← readNumber (some 2) (trimStart text)
  if least ≤ value ∧ value ≤ greatest then .ok (value, rest) else .error .outOfRange

/-- Read the given character. -/
def readMark (mark : Char) : List Char -> Except Problem (List Char)
  | [] => .error .tooShort
  | c :: rest => if c = mark then .ok rest else .error .invalid

/-- The end of the text. -/
def readEnd : List Char -> Except Problem Unit
  | [] => .ok ()
  | _ => .error .trailing

/-- Read year, month and day with hyphens between them. -/
def readDateFields (text : List Char) : Except Problem ((Int × Nat × Nat) × List Char) := do
  let (year, rest) ← readYear text
  let rest ← readMark '-' rest
  let (month, rest) ← readShort 1 12 rest
  let rest ← readMark '-' rest
  let (day, rest) ← readShort 1 31 rest
  .ok ((year, month, day), rest)

/-- The date with the given fields, or the refusal of a day that does not exist. -/
def existingDate (year : Int) (month day : Nat) : Except Problem Date :=
  match Date.ofFields year month day with
  | some date => .ok date
  | none => .error .outOfRange

/-- Read a date alone. -/
def readDate (text : List Char) : Except Problem Instant := do
  let ((year, month, day), rest) ← readDateFields text
  readEnd rest
  let date ← existingDate year month day
  .ok ⟨date, 0, 0⟩

/-- Read a date and a time. -/
def readDateAndTime (text : List Char) : Except Problem Instant := do
  let ((year, month, day), rest) ← readDateFields text
  let rest ← readMark 'T' rest
  let (hour, rest) ← readShort 0 23 rest
  let rest ← readMark ':' rest
  let (minute, rest) ← readShort 0 59 rest
  readEnd rest
  let date ← existingDate year month day
  .ok ⟨date, hour, minute⟩

/-- Read a date with or without a time.  If the text is neither, what is wrong with it as a date
alone is reported. -/
def read (text : String) : Except Problem Instant :=
  match readDateAndTime text.toList with
  | .ok instant => .ok instant
  | .error _ => readDate text.toList

/-- What is said of a text that is no instant. -/
def refusal (problem : Problem) : String :=
  "expected YYYY-MM-DD or YYYY-MM-DDTHH:MM: " ++ problem.message

/-- Date and time of day, with full seconds. -/
def text (instant : Instant) : String :=
  instant.date.isoText ++ " " ++ paddedNumeral 2 instant.hour ++ ":" ++
    paddedNumeral 2 instant.minute ++ ":00"

end Instant

end Reminders
