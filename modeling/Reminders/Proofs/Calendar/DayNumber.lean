import Reminders.Calendar.Date

namespace Reminders

/-!
# Dates and their day numbers

Day numbers are a faithful picture of the calendar: going from a date to its number and back gives
the date, and every number between the first and the last supported day belongs to a date.  So a
day can be looked up exactly if its number is between these two, and with a later day every day
from a supported one up to it can be looked up as well.

The year of a day number is found by an estimate and two corrections.  The rules for leap years are
only needed here; what follows uses the bounds that the year and the month of a number satisfy.
-/

/-! ## Years -/

/-- The length of a year. -/
def daysInYear (year : Int) : Nat := if isLeapYear year then 366 else 365

/-- A year begins where the year before it ends. -/
theorem daysBeforeYear_succ (year : Int) :
    daysBeforeYear (year + 1) = daysBeforeYear year + daysInYear year := by
  simp only [daysBeforeYear, daysInYear, isLeapYear, Bool.and_eq_true, Bool.or_eq_true,
    beq_iff_eq, bne_iff_ne]
  split <;> omega

/-- Later years begin later. -/
theorem daysBeforeYear_mono {first second : Int} (ordered : first ≤ second) :
    daysBeforeYear first ≤ daysBeforeYear second := by
  simp only [daysBeforeYear]
  omega

/-- The day is one of the days of the year found for it. -/
theorem yearOfDayNumber_bounds (number : Int) :
    daysBeforeYear (yearOfDayNumber number) < number ∧
      number ≤ daysBeforeYear (yearOfDayNumber number + 1) := by
  -- The estimate begins before the day, and the third year after it begins no earlier than the day.
  have early : daysBeforeYear (400 * number / 146097) < number := by
    simp only [daysBeforeYear]
    omega
  have late : number ≤ daysBeforeYear (400 * number / 146097 + 3) := by
    simp only [daysBeforeYear]
    omega
  simp only [yearOfDayNumber]
  split
  · next first => exact ⟨early, first⟩
  · next notFirst =>
      split
      · exact ⟨by omega, by rwa [Int.add_assoc]⟩
      · exact ⟨by omega, by rwa [Int.add_assoc]⟩

/-- No other year holds the day. -/
theorem yearOfDayNumber_eq {number year : Int} (after : daysBeforeYear year < number)
    (within : number ≤ daysBeforeYear (year + 1)) : yearOfDayNumber number = year := by
  have bounds := yearOfDayNumber_bounds number
  rcases Int.lt_trichotomy (yearOfDayNumber number) year with earlier | same | later
  · have := daysBeforeYear_mono (show yearOfDayNumber number + 1 ≤ year by omega)
    omega
  · exact same
  · have := daysBeforeYear_mono (show year + 1 ≤ yearOfDayNumber number by omega)
    omega

/-! ## Months -/

theorem daysInMonth_pos_iff (year : Int) (month : Nat) :
    0 < daysInMonth year month ↔ 1 ≤ month ∧ month ≤ 12 := by
  constructor
  · intro positive
    unfold daysInMonth at positive
    split at positive <;> omega
  · intro named
    unfold daysInMonth
    split <;> grind

theorem daysInMonth_le (year : Int) (month : Nat) : daysInMonth year month ≤ 31 := by
  unfold daysInMonth
  split <;> try omega
  split <;> omega

/-- Every month is at least as long in the year 2000, which is a leap year, as in any other. -/
theorem daysInMonth_le_leapYear (year : Int) (month : Nat) :
    daysInMonth year month ≤ daysInMonth 2000 month := by
  unfold daysInMonth
  split <;> try omega
  rw [if_pos (show isLeapYear 2000 = true by decide)]
  split <;> omega

theorem daysBeforeMonth_succ (year : Int) (month : Nat) :
    daysBeforeMonth year (month + 1) = daysBeforeMonth year month + daysInMonth year month := rfl

theorem daysBeforeMonth_mono (year : Int) {first second : Nat} (ordered : first ≤ second) :
    daysBeforeMonth year first ≤ daysBeforeMonth year second := by
  induction ordered with
  | refl => exact Nat.le_refl _
  | step _ inductionHypothesis =>
      exact Nat.le_trans inductionHypothesis (Nat.le_add_right _ _)

/-- The year ends with its twelfth month. -/
theorem daysBeforeMonth_thirteen (year : Int) : daysBeforeMonth year 13 = daysInYear year := by
  simp only [daysBeforeMonth, daysInMonth, daysInYear]
  split <;> rfl

/-- The day is one of the days of the month found for it, if it lies within the months searched. -/
theorem monthOfYearDay_bounds (year : Int) {yearDay month : Nat} (remaining : Nat)
    (after : daysBeforeMonth year month < yearDay)
    (within : yearDay ≤ daysBeforeMonth year (month + remaining + 1)) :
    daysBeforeMonth year (monthOfYearDay year yearDay remaining month) < yearDay ∧
      yearDay ≤ daysBeforeMonth year (monthOfYearDay year yearDay remaining month + 1) := by
  induction remaining generalizing month with
  | zero => exact ⟨after, within⟩
  | succ remaining inductionHypothesis =>
      rw [monthOfYearDay]
      split
      · next found => exact ⟨after, found⟩
      · next missed =>
          refine inductionHypothesis (by omega) ?_
          rwa [show month + 1 + remaining + 1 = month + (remaining + 1) + 1 by omega]

/-- The day is one of the days of the month found for its number. -/
theorem monthOfDayNumber_bounds (number : Int) :
    let year := yearOfDayNumber number
    let yearDay := (number - daysBeforeYear year).toNat
    let month := monthOfYearDay year yearDay 11 1
    daysBeforeMonth year month < yearDay ∧ yearDay ≤ daysBeforeMonth year (month + 1) := by
  have yearBounds := yearOfDayNumber_bounds number
  have length := daysBeforeYear_succ (yearOfDayNumber number)
  apply monthOfYearDay_bounds
  · simp only [daysBeforeMonth, daysInMonth]
    omega
  · rw [show 1 + 11 + 1 = 13 from rfl, daysBeforeMonth_thirteen]
    omega

namespace Date

/-! ## Dates -/

theorem month_bounds (date : Date) : 1 ≤ date.month ∧ date.month ≤ 12 :=
  (daysInMonth_pos_iff date.year date.month).mp (by have := date.day_exists; omega)

theorem day_le (date : Date) : date.day ≤ 31 :=
  Nat.le_trans date.day_exists.2 (daysInMonth_le date.year date.month)

/-- The day of the year of a date lies within the year, and within the date's own month. -/
theorem yearDay_bounds (date : Date) :
    daysBeforeMonth date.year date.month + date.day ≤ daysBeforeMonth date.year (date.month + 1) ∧
      daysBeforeMonth date.year (date.month + 1) ≤ daysInYear date.year := by
  refine ⟨Nat.add_le_add_left date.day_exists.2 _, ?_⟩
  rw [← daysBeforeMonth_thirteen]
  exact daysBeforeMonth_mono date.year (by have := date.month_bounds; omega)

theorem ofFields_eq_some_iff {year : Int} {month day : Nat} {date : Date} :
    ofFields year month day = some date ↔
      date.year = year ∧ date.month = month ∧ date.day = day := by
  constructor
  · intro found
    unfold ofFields at found
    split at found
    · split at found
      · cases found
        exact ⟨rfl, rfl, rfl⟩
      · cases found
    · cases found
  · rintro ⟨rfl, rfl, rfl⟩
    rw [ofFields, dif_pos date.year_supported, dif_pos date.day_exists]

theorem isSome_ofFields_iff {year : Int} {month day : Nat} :
    (ofFields year month day).isSome ↔
      (firstYear ≤ year ∧ year ≤ lastYear) ∧ 1 ≤ day ∧ day ≤ daysInMonth year month := by
  constructor
  · intro found
    rcases Option.isSome_iff_exists.mp found with ⟨date, isDate⟩
    rcases ofFields_eq_some_iff.mp isDate with ⟨rfl, rfl, rfl⟩
    exact ⟨date.year_supported, date.day_exists⟩
  · rintro ⟨supported, existing⟩
    rw [ofFields, dif_pos supported, dif_pos existing]
    rfl

theorem yearOfDayNumber_dayNumber (date : Date) : yearOfDayNumber date.dayNumber = date.year := by
  have bounds := date.yearDay_bounds
  have positive := date.day_exists.1
  apply yearOfDayNumber_eq
  · unfold dayNumber
    omega
  · rw [daysBeforeYear_succ]
    unfold dayNumber
    omega

theorem yearDay_dayNumber (date : Date) :
    (date.dayNumber - daysBeforeYear date.year).toNat =
      daysBeforeMonth date.year date.month + date.day := by
  unfold dayNumber
  omega

theorem monthOfYearDay_yearDay (date : Date) :
    monthOfYearDay date.year (daysBeforeMonth date.year date.month + date.day) 11 1 =
      date.month := by
  have bounds := date.yearDay_bounds
  have positive := date.day_exists.1
  have found := monthOfDayNumber_bounds date.dayNumber
  simp only [yearOfDayNumber_dayNumber, yearDay_dayNumber] at found
  generalize monthOfYearDay date.year _ 11 1 = month at found ⊢
  rcases Nat.lt_trichotomy month date.month with earlier | same | later
  · have := daysBeforeMonth_mono date.year (show month + 1 ≤ date.month from earlier)
    omega
  · exact same
  · have := daysBeforeMonth_mono date.year (show date.month + 1 ≤ month from later)
    omega

/-- Going to the day number and back gives the date. -/
theorem ofDayNumber_dayNumber (date : Date) : ofDayNumber date.dayNumber = some date := by
  simp only [ofDayNumber, yearOfDayNumber_dayNumber, yearDay_dayNumber, monthOfYearDay_yearDay]
  exact ofFields_eq_some_iff.mpr ⟨rfl, rfl, by omega⟩

/-- Dates with the same day number are the same. -/
theorem dayNumber_injective {first second : Date} (same : first.dayNumber = second.dayNumber) :
    first = second := by
  have := ofDayNumber_dayNumber first
  rw [same, ofDayNumber_dayNumber] at this
  exact (Option.some.inj this).symm

/-- A date that is found for a day number has that number. -/
theorem dayNumber_of_ofDayNumber {number : Int} {date : Date}
    (found : ofDayNumber number = some date) : date.dayNumber = number := by
  have yearBounds := yearOfDayNumber_bounds number
  rcases ofFields_eq_some_iff.mp found with ⟨year, month, day⟩
  have monthBounds := monthOfDayNumber_bounds number
  simp only [← year] at yearBounds monthBounds month day
  simp only [← month] at monthBounds day
  unfold dayNumber
  omega

/-- A day can be looked up if it is not before the first supported year nor after the last. -/
theorem isSome_ofDayNumber_iff (number : Int) :
    (ofDayNumber number).isSome ↔
      daysBeforeYear firstYear < number ∧ number ≤ daysBeforeYear (lastYear + 1) := by
  have yearBounds := yearOfDayNumber_bounds number
  constructor
  · intro found
    rcases Option.isSome_iff_exists.mp found with ⟨date, isDate⟩
    have supported := date.year_supported
    rw [(ofFields_eq_some_iff.mp isDate).1] at supported
    have := daysBeforeYear_mono supported.1
    have := daysBeforeYear_mono (show yearOfDayNumber number + 1 ≤ lastYear + 1 by omega)
    omega
  · rintro ⟨after, notAfter⟩
    have monthBounds := monthOfDayNumber_bounds number
    simp only [daysBeforeMonth_succ] at monthBounds
    refine isSome_ofFields_iff.mpr ⟨⟨?_, ?_⟩, ?_, ?_⟩
    · apply Int.not_lt.mp
      intro early
      have := daysBeforeYear_mono (show yearOfDayNumber number + 1 ≤ firstYear by omega)
      omega
    · apply Int.not_lt.mp
      intro late
      have := daysBeforeYear_mono (show lastYear + 1 ≤ yearOfDayNumber number by omega)
      omega
    · omega
    · omega

/-! ## The order of dates -/

/-- A date is one of the days of its year. -/
theorem dayNumber_bounds (date : Date) :
    daysBeforeYear date.year < date.dayNumber ∧
      date.dayNumber ≤ daysBeforeYear (date.year + 1) := by
  have bounds := yearOfDayNumber_bounds date.dayNumber
  rwa [yearOfDayNumber_dayNumber] at bounds

theorem lt_of_year_lt {first second : Date} (earlier : first.year < second.year) :
    first < second := by
  have yearEnds := first.dayNumber_bounds.2
  have yearBegins := second.dayNumber_bounds.1
  have between := daysBeforeYear_mono (show first.year + 1 ≤ second.year by omega)
  show first.dayNumber < second.dayNumber
  omega

theorem lt_of_month_lt {first second : Date} (sameYear : first.year = second.year)
    (earlier : first.month < second.month) : first < second := by
  have monthEnds := first.yearDay_bounds.1
  have monthBegins := second.day_exists.1
  have between :=
    daysBeforeMonth_mono second.year (show first.month + 1 ≤ second.month from earlier)
  rw [sameYear] at monthEnds
  show first.dayNumber < second.dayNumber
  unfold dayNumber
  rw [sameYear]
  omega

/-- Dates are ordered by their years, then by their months, then by their days. -/
theorem le_iff_fields {first second : Date} :
    first ≤ second ↔ first.year < second.year ∨ first.year = second.year ∧
      (first.month < second.month ∨ first.month = second.month ∧ first.day ≤ second.day) := by
  have withinMonth (sameYear : first.year = second.year) (sameMonth : first.month = second.month) :
      first ≤ second ↔ first.day ≤ second.day := by
    show first.dayNumber ≤ second.dayNumber ↔ _
    unfold dayNumber
    rw [sameYear, sameMonth]
    omega
  constructor
  · intro ordered
    rcases Int.lt_trichotomy first.year second.year with earlier | sameYear | later
    · exact Or.inl earlier
    · refine Or.inr ⟨sameYear, ?_⟩
      rcases Nat.lt_trichotomy first.month second.month with earlier | sameMonth | later
      · exact Or.inl earlier
      · exact Or.inr ⟨sameMonth, (withinMonth sameYear sameMonth).mp ordered⟩
      · exact absurd (lt_of_month_lt sameYear.symm later) (Int.not_lt.mpr ordered)
    · exact absurd (lt_of_year_lt later) (Int.not_lt.mpr ordered)
  · rintro (earlier | ⟨sameYear, earlier | ⟨sameMonth, ordered⟩⟩)
    · exact Int.le_of_lt (lt_of_year_lt earlier)
    · exact Int.le_of_lt (lt_of_month_lt sameYear earlier)
    · exact (withinMonth sameYear sameMonth).mpr ordered

/-! ## Days before and after -/

theorem dayNumber_of_addDays {date other : Date} {count : Int}
    (found : date.addDays count = some other) : other.dayNumber = date.dayNumber + count :=
  dayNumber_of_ofDayNumber found

theorem addDays_zero (date : Date) : date.addDays 0 = some date := by
  rw [addDays, Int.add_zero, ofDayNumber_dayNumber]

/-- A day that is no earlier than some date and no later than a supported day is supported. -/
theorem isSome_addDays_of_earlier {date other : Date} {count later : Int} (nonnegative : 0 ≤ count)
    (ordered : date.dayNumber + count ≤ other.dayNumber + later)
    (supported : (other.addDays later).isSome) : (date.addDays count).isSome := by
  have own := (isSome_ofDayNumber_iff date.dayNumber).mp (by rw [ofDayNumber_dayNumber]; rfl)
  have last := (isSome_ofDayNumber_iff _).mp supported
  exact (isSome_ofDayNumber_iff _).mpr ⟨by omega, by omega⟩

/-- A day between a date and a supported later day is supported. -/
theorem isSome_addDays_of_le {date : Date} {count later : Int} (nonnegative : 0 ≤ count)
    (ordered : count ≤ later) (supported : (date.addDays later).isSome) :
    (date.addDays count).isSome :=
  isSome_addDays_of_earlier nonnegative (Int.add_le_add_left ordered _) supported

end Date

end Reminders
