import Reminders.Reminder

namespace Reminders

/-!
# Reading a reminder from a line

A line holds a priority, a date pattern with an optional time window, and a text, with blanks
between these three parts:

    2 2021.03.04:0930-1100 Dentist
    3 --T----%2 Check status

There are two grammars, one for each kind of pattern.  They share everything but the pattern
itself.  A reader takes the rest of the line and returns what it read with what follows, or nothing
if the line does not go on as required.  Part of a pattern that is optional and does not match is
left in the rest, where it then stops the reading of the blanks that have to follow.
-/

/-- One decimal digit, the priority. -/
def readPriority (text : List Char) : Option (Nat × List Char) := readDigits 1 text

/-- One or more spaces and tabs.  Other blanks do not separate the parts of a line. -/
def skipSeparator : List Char -> Option (List Char)
  | ' ' :: rest | '\t' :: rest => some (rest.dropWhile fun c => c == ' ' || c == '\t')
  | _ => none

/-- The given character. -/
def skipChar (expected : Char) : List Char -> Option (List Char)
  | c :: rest => if c = expected then some rest else none
  | [] => none

/-- What an optional part yields, with the whole text as the rest if it does not match. -/
def readOptional {α : Type} (reader : List Char -> Option (α × List Char)) (text : List Char) :
    Option α × List Char :=
  match reader text with
  | some (value, rest) => (some value, rest)
  | none => (none, text)

/-! ## Specific dates -/

/-- A field of a written date: `width` question marks, or `width` digits whose value lies within
the bounds. -/
def readDateField (width least greatest : Nat) (text : List Char) :
    Option (DateField × List Char) :=
  if text.take width = List.replicate width '?' then some (.wild, text.drop width)
  else do
    let (value, rest) ← readDigits width text
    if least ≤ value ∧ value ≤ greatest then some (.exact (UInt32.ofNat value), rest) else none

/-- Year, month and day with a point between them.  Whether the day exists in its month is not
looked at here. -/
def readSpecificDate (text : List Char) : Option (DatePattern × List Char) := do
  let (year, rest) ← readDateField 4 2000 2199 text
  let rest ← skipChar '.' rest
  let (month, rest) ← readDateField 2 1 12 rest
  let rest ← skipChar '.' rest
  let (day, rest) ← readDateField 2 1 31 rest
  some (.specific year month day, rest)

/-! ## Weekly patterns -/

/-- One column of a written mask: the letter of its day, or a hyphen if the day is inactive. -/
def readMaskColumn (letter : Char) : List Char -> Option (Bool × List Char)
  | c :: rest =>
      if c = letter then some (true, rest) else if c = '-' then some (false, rest) else none
  | [] => none

/-- The seven columns of a mask, Sunday first. -/
def readWeekMask (text : List Char) : Option (WeekMask × List Char) := do
  let (sunday, rest) ← readMaskColumn 'S' text
  let (monday, rest) ← readMaskColumn 'M' rest
  let (tuesday, rest) ← readMaskColumn 'T' rest
  let (wednesday, rest) ← readMaskColumn 'W' rest
  let (thursday, rest) ← readMaskColumn 'T' rest
  let (friday, rest) ← readMaskColumn 'F' rest
  let (saturday, rest) ← readMaskColumn 'S' rest
  some (⟨monday, tuesday, wednesday, thursday, friday, saturday, sunday⟩, rest)

/-- A percent sign and a number of 1 to 53 in any number of digits, or one digit of 1 to 5 in square
brackets. -/
def readQualifier : List Char -> Option (Qualifier × List Char)
  | '%' :: rest =>
      let modulus := numeralValue (rest.takeWhile Char.isDigit)
      if 1 ≤ modulus ∧ modulus ≤ 53 then
        some (.everyWeeks modulus, rest.dropWhile Char.isDigit)
      else none
  | '[' :: rest => do
      let (ordinal, rest) ← readDigits 1 rest
      if 1 ≤ ordinal ∧ ordinal ≤ 5 then
        let rest ← skipChar ']' rest
        some (.nthInMonth ordinal, rest)
      else none
  | _ => none

/-- A mask with an optional qualifier. -/
def readWeekly (text : List Char) : Option (DatePattern × List Char) := do
  let (mask, rest) ← readWeekMask text
  let (qualifier, rest) := readOptional readQualifier rest
  some (.weekly mask qualifier, rest)

/-! ## Time windows -/

/-- A time of day in four digits, as minutes after midnight. -/
def readClock (text : List Char) : Option (Nat × List Char) := do
  let (hour, rest) ← readDigits 2 text
  let (minute, rest) ← readDigits 2 rest
  if hour < 24 ∧ minute < 60 then some (hour * 60 + minute, rest) else none

/-- A colon and two times of day with a hyphen between them.  The second may be the earlier one. -/
def readWindow (text : List Char) : Option (TimeWindow × List Char) := do
  let rest ← skipChar ':' text
  let (start, rest) ← readClock rest
  let rest ← skipChar '-' rest
  let (finish, rest) ← readClock rest
  some (⟨start, finish⟩, rest)

/-! ## Whole lines -/

/-- The two line grammars. -/
inductive Grammar where
  | specificDate
  | weekly
deriving DecidableEq, Repr

namespace Grammar

/-- All grammars, in the order in which they are tried. -/
def all : List Grammar := [specificDate, weekly]

/-- The name a grammar goes by in answers. -/
def name : Grammar -> String
  | specificDate => "specific-date"
  | weekly => "weekly"

def readPattern : Grammar -> List Char -> Option (DatePattern × List Char)
  | specificDate => readSpecificDate
  | weekly => readWeekly

/-- Read a whole line.  The text runs to the end of the line and has to hold a character that is
not blank; the blanks at its end are dropped. -/
def read (grammar : Grammar) (line : String) : Option Reminder := do
  let (priority, rest) ← readPriority line.toList
  let rest ← skipSeparator rest
  let (pattern, rest) ← grammar.readPattern rest
  let (window, rest) := readOptional readWindow rest
  let text ← skipSeparator rest
  if text.all isBlank then none
  else some (.trimmed priority pattern window (String.ofList text) line)

end Grammar

/-- Read a line by the first grammar that matches it. -/
def Reminder.read (line : String) : Option Reminder :=
  Grammar.all.findSome? fun grammar => grammar.read line

/-- Read a line as an entry that is still to be judged. -/
def Entry.read (line : String) : Option Entry := (Reminder.read line).map Entry.unjudged

end Reminders
