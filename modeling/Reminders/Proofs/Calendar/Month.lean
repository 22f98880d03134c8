import Mathlib.Data.List.Count
import Reminders.Proofs.Calendar.Weekday

namespace Reminders

/-!
# Weekdays in a month

The days of a month on which a weekday falls are seven days apart, and the first of them is among
the first seven days.  So counting them comes down to dividing: a weekday falls on four or five days
of a month, and the number of a day in that row is the number of the block of seven days, counted
from the first of the month, in which it lies.
-/

/-- The days of a month in their order. -/
def daysOfMonth (year : Int) (month : Nat) : List Date :=
  (List.range' 1 (daysInMonth year month)).filterMap (Date.ofFields year month)

/-- How many days of a month fall on a weekday. -/
def weekdayCount (year : Int) (month : Nat) (weekday : Weekday) : Nat :=
  (daysOfMonth year month).countP fun day => decide (day.weekday = weekday)

/-- How many days of the month of a date, up to the date itself, fall on its weekday. -/
def Date.occurrence (date : Date) : Nat :=
  (daysOfMonth date.year date.month).countP fun day =>
    decide (day ≤ date ∧ day.weekday = date.weekday)

/-! ## Days -/

theorem mem_daysOfMonth {year : Int} {month : Nat} {date : Date} :
    date ∈ daysOfMonth year month ↔ date.year = year ∧ date.month = month := by
  simp only [daysOfMonth, List.mem_filterMap, List.mem_range'_1, Date.ofFields_eq_some_iff]
  constructor
  · rintro ⟨day, -, sameYear, sameMonth, -⟩
    exact ⟨sameYear, sameMonth⟩
  · rintro ⟨rfl, rfl⟩
    have existing := date.day_exists
    exact ⟨date.day, by omega, rfl, rfl, rfl⟩

/-- No month is shorter than four weeks. -/
theorem four_weeks_le_daysInMonth (year : Int) {month : Nat} (named : 1 ≤ month ∧ month ≤ 12) :
    28 ≤ daysInMonth year month := by
  unfold daysInMonth
  split <;> grind

/-- Counting days of a month comes down to counting numbers. -/
theorem countP_daysOfMonth {year : Int} {month : Nat}
    (supported : firstYear ≤ year ∧ year ≤ lastYear)
    {selects : Date -> Prop} {selectsDay : Nat -> Prop} [DecidablePred selects]
    [DecidablePred selectsDay]
    (agree : forall date : Date, date.year = year -> date.month = month ->
      (selects date ↔ selectsDay date.day)) :
    (daysOfMonth year month).countP (fun day => decide (selects day)) =
      (List.range' 1 (daysInMonth year month)).countP fun day => decide (selectsDay day) := by
  rw [daysOfMonth, List.countP_filterMap]
  apply List.countP_congr
  intro day member
  have within := List.mem_range'_1.mp member
  have existing : (Date.ofFields year month day).isSome :=
    Date.isSome_ofFields_iff.mpr ⟨supported, by omega, by omega⟩
  rcases Option.isSome_iff_exists.mp existing with ⟨date, found⟩
  rcases Date.ofFields_eq_some_iff.mp found with ⟨sameYear, sameMonth, sameDay⟩
  rw [found, Option.map_some, Option.getD_some, decide_eq_true_eq, decide_eq_true_eq,
    agree date sameYear sameMonth, sameDay]

/-- Of the numbers up to some number every seventh is counted, beginning with one of the first
seven. -/
theorem countP_every_seventh {first : Nat} (early : 1 ≤ first ∧ first ≤ 7) (last count : Nat) :
    (List.range' 1 count).countP (fun day => decide (day ≤ last ∧ day % 7 = first % 7)) =
      (min count last + 7 - first) / 7 := by
  induction count with
  | zero =>
      show 0 = _
      omega
  | succ count inductionHypothesis =>
      rw [List.range'_1_concat, List.countP_append, inductionHypothesis, List.countP_singleton]
      split
      · next selected =>
          have isSeventh := of_decide_eq_true selected
          omega
      · next notSelected =>
          have isOther : ¬ (1 + count ≤ last ∧ (1 + count) % 7 = first % 7) :=
            fun isSeventh => notSelected (decide_eq_true isSeventh)
          omega

/-! ## Weekdays -/

namespace Date

/-- Within a month days are ordered as their numbers are. -/
theorem le_iff_day_le {first second : Date} (sameYear : first.year = second.year)
    (sameMonth : first.month = second.month) : first ≤ second ↔ first.day ≤ second.day := by
  rw [le_iff_fields, sameYear, sameMonth]
  omega

/-- Within a month weekdays come round every seven days. -/
theorem weekday_eq_weekday_iff_day {first second : Date} (sameYear : first.year = second.year)
    (sameMonth : first.month = second.month) :
    first.weekday = second.weekday ↔ first.day % 7 = second.day % 7 := by
  rw [weekday_eq_weekday_iff]
  unfold dayNumber
  rw [sameYear, sameMonth]
  omega

theorem eq_of_day_eq {first second : Date} (sameYear : first.year = second.year)
    (sameMonth : first.month = second.month) (sameDay : first.day = second.day) :
    first = second := by
  apply dayNumber_injective
  unfold dayNumber
  rw [sameYear, sameMonth, sameDay]

/-- A date is as far on in the row of days with its weekday as the block of seven days is in which
it lies. -/
theorem occurrence_eq (date : Date) : date.occurrence = (date.day - 1) / 7 + 1 := by
  have existing := date.day_exists
  have early : 1 ≤ (date.day - 1) % 7 + 1 ∧ (date.day - 1) % 7 + 1 ≤ 7 := by omega
  have counted : date.occurrence = (List.range' 1 (daysInMonth date.year date.month)).countP
      fun day => decide (day ≤ date.day ∧ day % 7 = ((date.day - 1) % 7 + 1) % 7) := by
    apply countP_daysOfMonth date.year_supported
    intro day sameYear sameMonth
    rw [le_iff_day_le sameYear sameMonth, weekday_eq_weekday_iff_day sameYear sameMonth]
    omega
  rw [counted, countP_every_seventh early]
  omega

end Date

/-- The days of a month with a weekday have every seventh number from one of the first seven on. -/
theorem exists_first_of_weekday {year : Int} (supported : firstYear ≤ year ∧ year ≤ lastYear)
    (month : Nat) (weekday : Weekday) :
    Exists fun first : Nat => (1 ≤ first ∧ first ≤ 7) ∧
      (forall date : Date, date.year = year -> date.month = month ->
        (date.weekday = weekday ↔ date.day % 7 = first % 7)) ∧
      weekdayCount year month weekday = (daysInMonth year month + 7 - first) / 7 := by
  have fallsOn : Exists fun first : Nat => (1 ≤ first ∧ first ≤ 7) ∧
      (daysBeforeYear year + daysBeforeMonth year month + first) % 7 = weekday.sinceSunday % 7 :=
    ⟨((weekday.sinceSunday - daysBeforeYear year - daysBeforeMonth year month - 1) % 7 + 1).toNat,
      by omega, by omega⟩
  rcases fallsOn with ⟨first, early, isFirst⟩
  have weekdayIff (date : Date) (sameYear : date.year = year) (sameMonth : date.month = month) :
      date.weekday = weekday ↔ date.day % 7 = first % 7 := by
    have small := weekday.sinceSunday_lt
    rw [Date.weekday_eq_iff]
    unfold Date.dayNumber
    rw [sameYear, sameMonth]
    omega
  have counted : weekdayCount year month weekday = (List.range' 1 (daysInMonth year month)).countP
      fun day => decide (day ≤ daysInMonth year month ∧ day % 7 = first % 7) := by
    apply countP_daysOfMonth supported
    intro date sameYear sameMonth
    have existing := date.day_exists.2
    rw [weekdayIff date sameYear sameMonth, ← sameYear, ← sameMonth]
    exact (and_iff_right existing).symm
  rw [counted, countP_every_seventh early, Nat.min_self]
  exact ⟨first, early, weekdayIff, rfl⟩

/-- The days of a month with a weekday are numbered, without a gap, from 1 to the count of them. -/
theorem exists_occurrence_iff {year : Int} (supported : firstYear ≤ year ∧ year ≤ lastYear)
    (month : Nat) (weekday : Weekday) (ordinal : Nat) :
    (Exists fun date : Date => date ∈ daysOfMonth year month ∧
      date.weekday = weekday ∧ date.occurrence = ordinal) ↔
    1 ≤ ordinal ∧ ordinal ≤ weekdayCount year month weekday := by
  rcases exists_first_of_weekday supported month weekday with ⟨first, early, weekdayIff, counted⟩
  simp only [counted, mem_daysOfMonth]
  constructor
  · rintro ⟨date, ⟨sameYear, sameMonth⟩, isWeekday, rfl⟩
    have existing := date.day_exists
    rw [sameYear, sameMonth] at existing
    rw [weekdayIff date sameYear sameMonth] at isWeekday
    rw [Date.occurrence_eq]
    omega
  · rintro ⟨positive, inMonth⟩
    have existing : 1 ≤ first + 7 * (ordinal - 1) ∧
        first + 7 * (ordinal - 1) ≤ daysInMonth year month := by omega
    refine ⟨⟨year, month, first + 7 * (ordinal - 1), supported, existing⟩, ⟨rfl, rfl⟩, ?_, ?_⟩
    · rw [weekdayIff _ rfl rfl]
      show (first + 7 * (ordinal - 1)) % 7 = first % 7
      omega
    · rw [Date.occurrence_eq]
      show (first + 7 * (ordinal - 1) - 1) / 7 + 1 = ordinal
      omega

/-- A weekday falls on four or five days of a month. -/
theorem weekdayCount_bounds {year : Int} {month : Nat}
    (supported : firstYear ≤ year ∧ year ≤ lastYear) (named : 1 ≤ month ∧ month ≤ 12)
    (weekday : Weekday) :
    4 ≤ weekdayCount year month weekday ∧ weekdayCount year month weekday ≤ 5 := by
  have longest := daysInMonth_le year month
  have shortest := four_weeks_le_daysInMonth year named
  rcases exists_first_of_weekday supported month weekday with ⟨first, early, -, counted⟩
  omega

/-- No two days of a month with one weekday have the same number. -/
theorem Date.eq_of_occurrence_eq {first second : Date} (sameYear : first.year = second.year)
    (sameMonth : first.month = second.month) (sameWeekday : first.weekday = second.weekday)
    (sameOccurrence : first.occurrence = second.occurrence) : first = second := by
  have firstExists := first.day_exists.1
  have secondExists := second.day_exists.1
  rw [weekday_eq_weekday_iff_day sameYear sameMonth] at sameWeekday
  rw [occurrence_eq, occurrence_eq] at sameOccurrence
  exact eq_of_day_eq sameYear sameMonth (by omega)

end Reminders
