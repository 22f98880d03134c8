import Reminders.Reminder
import Reminders.Text.Quoted

namespace Reminders

/-!
# Evaluation

A reminder is judged as of one reference: today's date, the minute of the day and the number of
the current week.  The verdict says whether the reminder is to be listed, whether it is overdue,
and under which date.

A specific date is listed from the lookahead on, and from then on for good; once it is past it is
overdue.  A date with a wildcard is resolved against today and never overdue.  A weekly reminder
is listed when one of the days from today to the end of the lookahead is active, and always under
today's date.
-/

/-- The moment as of which reminders are judged. -/
structure Reference where
  today : Date
  minuteOfDay : Nat
  /-- The number of the week that holds `today`. -/
  week : Nat
deriving DecidableEq

namespace Reference

/-- The reference for a time of day on a date. -/
def ofTime (today : Date) (hour minute : Nat) : Reference :=
  ⟨today, hour * 60 + minute, today.isoWeek⟩

/-- Whether a window has closed.  Its last minute still belongs to it. -/
def isPast (reference : Reference) (window : TimeWindow) : Bool :=
  reference.minuteOfDay > window.finish

/-- Whether there is a window and it has closed. -/
def windowIsPast (reference : Reference) (window : Option TimeWindow) : Bool :=
  window.any reference.isPast

end Reference

/-- How many days after today still count as pending.  With at most six days no weekday comes
round twice. -/
structure Lookahead where
  days : Nat
  within_week : days ≤ 6
deriving DecidableEq

namespace Lookahead

/-- The lookahead that is used unless another one is asked for. -/
def standard : Lookahead := ⟨3, by decide⟩

/-- A lookahead of the given length, if it is within a week. -/
def ofDays (days : Nat) : Option Lookahead :=
  if within : days ≤ 6 then some ⟨days, within⟩ else none

/-- What is said of a lookahead that is too long. -/
def outOfRangeMessage (days : Nat) : String :=
  "lookahead of " ++ numeral days ++ " days is out of range (0..=6)"

end Lookahead

/-- The outcome for one reminder. -/
structure Verdict where
  keep : Bool
  overdue : Bool
  displayDate : Date
deriving DecidableEq

/-- The verdict on a reminder that is not listed today. -/
def Verdict.dropped (today : Date) : Verdict := ⟨false, false, today⟩

/-- Why a reminder has no verdict. -/
inductive EvaluationError where
  /-- No date agrees with the pattern.  The fields are those of the pattern, with wildcards
  resolved to today's. -/
  | noSuchDate (source : String) (year month day : UInt32)
  /-- A day after the last supported one had to be looked at. -/
  | pastCalendar
deriving DecidableEq, Repr

/-- What is said of a reminder without a verdict. -/
def EvaluationError.message : EvaluationError -> String
  | noSuchDate source year month day =>
      "invalid date " ++ paddedNumeral 4 year.toNat ++ "." ++ paddedNumeral 2 month.toNat ++ "." ++
        paddedNumeral 2 day.toNat ++ " in " ++ quoted source
  | pastCalendar => "the calendar ends before the day looked for"

/-! ## Specific dates -/

/-- The months a field allows. -/
def candidateMonths : DateField -> List Nat
  | .exact month => [month.toNat]
  | .wild => List.range' 1 12

/-- Whether month and day name a real day for some choice of the wildcards.  The year 2000 is a leap
year, so 29 February counts; a wild day is taken as the first, which every month has. -/
def occursInSomeMonth (month day : DateField) : Bool :=
  (candidateMonths month).any fun candidate =>
    (Date.ofFields 2000 candidate (day.resolve 1).toNat).isSome

/-- Judge a date, possibly with wildcards.  A date that today's fields do not complete to a real day
is dropped if other days complete it, and is an error if none can. -/
def evaluateSpecific (reminder : Reminder) (year month day : DateField) (reference : Reference)
    (lookahead : Lookahead) : Except EvaluationError Verdict :=
  let today := reference.today
  let isWild := year.isWild || month.isWild || day.isWild
  let resolvedYear := year.resolve (wordOfYear today.year)
  let resolvedMonth := month.resolve (UInt32.ofNat today.month)
  let resolvedDay := day.resolve (UInt32.ofNat today.day)
  match Date.ofFields (yearOfWord resolvedYear) resolvedMonth.toNat resolvedDay.toNat with
  | none =>
      if isWild && occursInSomeMonth month day then .ok (.dropped today)
      else .error (.noSuchDate reminder.source resolvedYear resolvedMonth resolvedDay)
  | some date =>
      match today.addDays lookahead.days with
      | none => .error .pastCalendar
      | some horizon =>
          let overdue := !isWild &&
            (decide (date < today) || (date == today && reference.windowIsPast reminder.window))
          let inReach := decide (today ≤ date) && decide (date ≤ horizon)
          .ok ⟨overdue || inReach, overdue, date⟩

/-! ## Weekly patterns -/

/-- Whether a day of the month lies in the given block of seven days, the first block being number
1.  There is no block 0. -/
def inBlock (block dayOfMonth : Nat) : Bool :=
  match block with
  | 0 => false
  | earlier + 1 => 1 + earlier * 7 ≤ dayOfMonth && dayOfMonth ≤ 7 + earlier * 7

/-- Whether the qualifier admits the day `offset` days after today.  Weeks are counted as of today,
also for days of the next week; an occurrence in the month counts only on the day itself.  No week
number is divisible by zero. -/
def Qualifier.admits (qualifier : Qualifier) (reference : Reference) (offset : Nat) : Bool :=
  match qualifier with
  | everyWeeks modulus => modulus != 0 && reference.week % modulus == 0
  | nthInMonth ordinal => offset == 0 && inBlock ordinal reference.today.day

/-- Whether a weekly pattern is due on `day`, which is `offset` days after today. -/
def isDueOn (mask : WeekMask) (qualifier : Option Qualifier) (reference : Reference) (offset : Nat)
    (day : Date) : Bool :=
  mask.includes day.weekday && qualifier.all fun q => q.admits reference offset

/-- Whether a weekly pattern is due on one of the days at the given offsets from today.  The days
are looked at in order, and no further than the first on which it is due. -/
def isDueWithin (mask : WeekMask) (qualifier : Option Qualifier) (reference : Reference) :
    List Nat -> Except EvaluationError Bool
  | [] => .ok false
  | offset :: later =>
      match reference.today.addDays offset with
      | none => .error .pastCalendar
      | some day =>
          if isDueOn mask qualifier reference offset day then .ok true
          else isDueWithin mask qualifier reference later

/-- Judge a weekly reminder.  Once its window has closed it is done for today, and the days ahead
are not looked at. -/
def evaluateWeekly (reminder : Reminder) (mask : WeekMask) (qualifier : Option Qualifier)
    (reference : Reference) (lookahead : Lookahead) : Except EvaluationError Verdict :=
  if reference.windowIsPast reminder.window then .ok (.dropped reference.today)
  else do
    let keep ← isDueWithin mask qualifier reference (List.range (lookahead.days + 1))
    .ok ⟨keep, false, reference.today⟩

/-- The verdict on a reminder as of a reference. -/
def Reminder.evaluate (reminder : Reminder) (reference : Reference) (lookahead : Lookahead) :
    Except EvaluationError Verdict :=
  match reminder.pattern with
  | .specific year month day => evaluateSpecific reminder year month day reference lookahead
  | .weekly mask qualifier => evaluateWeekly reminder mask qualifier reference lookahead

/-- A reminder listed by its verdict. -/
def Entry.ofVerdict (reminder : Reminder) (verdict : Verdict) : Entry :=
  ⟨reminder, verdict.overdue, some verdict.displayDate⟩

end Reminders
