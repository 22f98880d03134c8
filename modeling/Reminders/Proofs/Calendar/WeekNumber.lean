import Reminders.Proofs.Calendar.Weekday

namespace Reminders

/-!
# Numbers of weeks

The seven days of a week share one number, also where the week straddles two years.  The number is
found on day numbers: the Thursday of the week decides which year the week belongs to, and the
Thursdays of a year before it are counted.  So the first week of a year is the one that holds its
first Thursday, and the number of the next week is one higher unless the next Thursday lies in
the next year; the year that ends then had 52 or 53 weeks.
-/

/-- A date is the first Thursday of a year. -/
structure Date.IsFirstThursday (date : Date) (year : Int) : Prop where
  year_eq : date.year = year
  weekday_eq : date.weekday = .thursday
  least : forall other : Date, other.year = year -> other.weekday = .thursday -> date ≤ other

/-- A Monday begins the week with the given number: its Thursday is so many weeks, counted from 1,
from the first Thursday of the same year. -/
def Date.BeginsWeek (monday : Date) (number : Nat) : Prop :=
  monday.weekday = .monday ∧ 1 ≤ number ∧
    Exists fun thursday : Date => Exists fun first : Date =>
      monday.addDays 3 = some thursday ∧ first.IsFirstThursday thursday.year ∧
        thursday.dayNumber = first.dayNumber + 7 * ((number : Int) - 1)

namespace Date

/-! ## The first Thursday -/

/-- One of the first seven days of a year is a Thursday. -/
theorem exists_early_thursday {year : Int} (supported : firstYear ≤ year ∧ year ≤ lastYear) :
    Exists fun early : Date => early.year = year ∧ early.weekday = .thursday ∧
      early.dayNumber ≤ daysBeforeYear year + 7 := by
  have inJanuary : Exists fun day : Nat => (1 ≤ day ∧ day ≤ 7) ∧
      (daysBeforeYear year + day) % 7 = 4 :=
    ⟨((3 - daysBeforeYear year) % 7 + 1).toNat, by omega, by omega⟩
  rcases inJanuary with ⟨day, ⟨positive, early⟩, isThursday⟩
  let date : Date := ⟨year, 1, day, supported, positive, Nat.le_trans early (by decide : 7 ≤ 31)⟩
  have number : date.dayNumber = daysBeforeYear year + day := by
    show daysBeforeYear year + (0 : Nat) + day = daysBeforeYear year + day
    omega
  exact ⟨date, rfl, weekday_eq_iff.mpr (by rw [number]; exact isThursday), by omega⟩

/-- No later day of a year than its seventh is the first Thursday. -/
theorem IsFirstThursday.dayNumber_le {first : Date} {year : Int}
    (isFirst : first.IsFirstThursday year) : first.dayNumber ≤ daysBeforeYear year + 7 := by
  have supported := first.year_supported
  rw [isFirst.year_eq] at supported
  rcases exists_early_thursday supported with ⟨early, sameYear, isThursday, inFirstWeek⟩
  exact Int.le_trans (isFirst.least early sameYear isThursday) inFirstWeek

theorem exists_isFirstThursday {year : Int} (supported : firstYear ≤ year ∧ year ≤ lastYear) :
    Exists fun first : Date => first.IsFirstThursday year := by
  rcases exists_early_thursday supported with ⟨early, sameYear, isThursday, inFirstWeek⟩
  refine ⟨early, sameYear, isThursday, ?_⟩
  intro other otherYear otherThursday
  have sameWeekday := weekday_eq_weekday_iff.mp (isThursday.trans otherThursday.symm)
  have afterNewYear := other.dayNumber_bounds.1
  rw [otherYear] at afterNewYear
  show early.dayNumber ≤ other.dayNumber
  omega

/-! ## Numbers -/

section

variable {monday thursday : Date}

/-- All days of a week have the number of its Monday. -/
theorem isoWeek_eq_of_week {day : Date} {offset : Nat} (isMonday : monday.weekday = .monday)
    (within : offset < 7) (isDay : monday.addDays offset = some day) :
    day.isoWeek = monday.isoWeek := by
  have position := dayNumber_of_addDays isDay
  have remainder : monday.dayNumber % 7 = 1 := weekday_eq_iff.mp isMonday
  have sameMonday : day.dayNumber - (day.dayNumber - 1) % 7 =
      monday.dayNumber - (monday.dayNumber - 1) % 7 := by omega
  simp only [isoWeek, sameMonday]

/-- The number of a week counts the blocks of seven days of a year up to its Thursday. -/
theorem isoWeek_eq (isMonday : monday.weekday = .monday)
    (isThursday : monday.addDays 3 = some thursday) :
    (monday.isoWeek : Int) = (thursday.dayNumber - daysBeforeYear thursday.year - 1) / 7 + 1 := by
  have position := dayNumber_of_addDays isThursday
  have remainder : monday.dayNumber % 7 = 1 := weekday_eq_iff.mp isMonday
  have ownMonday : monday.dayNumber - (monday.dayNumber - 1) % 7 + 3 = thursday.dayNumber := by
    omega
  have afterNewYear := thursday.dayNumber_bounds.1
  simp only [isoWeek, ownMonday, yearOfDayNumber_dayNumber]
  omega

/-- The week that begins with a Monday has one number. -/
theorem beginsWeek_iff (isMonday : monday.weekday = .monday)
    (isThursday : monday.addDays 3 = some thursday) {number : Nat} :
    monday.BeginsWeek number ↔ number = monday.isoWeek := by
  have counted := isoWeek_eq isMonday isThursday
  have position := dayNumber_of_addDays isThursday
  have remainder : monday.dayNumber % 7 = 1 := weekday_eq_iff.mp isMonday
  constructor
  · rintro ⟨-, positive, other, first, isOther, isFirst, distance⟩
    rw [isThursday] at isOther
    cases isOther
    have early := isFirst.dayNumber_le
    have afterNewYear := first.dayNumber_bounds.1
    rw [isFirst.year_eq] at afterNewYear
    omega
  · rintro rfl
    rcases exists_isFirstThursday thursday.year_supported with ⟨first, isFirst⟩
    have early := isFirst.dayNumber_le
    have afterNewYear := first.dayNumber_bounds.1
    rw [isFirst.year_eq] at afterNewYear
    have firstRemainder : first.dayNumber % 7 = 4 := weekday_eq_iff.mp isFirst.weekday_eq
    have notEarlier := thursday.dayNumber_bounds.1
    exact ⟨isMonday, by omega, thursday, first, isThursday, isFirst, by omega⟩

/-- After a week comes the week with the next number or, after 52 or 53 weeks, the first week of the
next year. -/
theorem isoWeek_of_nextMonday {following nextThursday : Date} (isMonday : monday.weekday = .monday)
    (isThursday : monday.addDays 3 = some thursday) (follows : monday.addDays 7 = some following)
    (isNextThursday : following.addDays 3 = some nextThursday) :
    following.isoWeek = monday.isoWeek + 1 ∨
      following.isoWeek = 1 ∧ (monday.isoWeek = 52 ∨ monday.isoWeek = 53) := by
  have place := dayNumber_of_addDays isThursday
  have followingPlace := dayNumber_of_addDays follows
  have nextPlace := dayNumber_of_addDays isNextThursday
  have followingMonday : following.weekday = .monday := by
    rw [← isMonday, weekday_eq_weekday_iff]
    omega
  have counted := isoWeek_eq isMonday isThursday
  have nextCounted := isoWeek_eq followingMonday isNextThursday
  have inYear := thursday.dayNumber_bounds
  have inNextYear := nextThursday.dayNumber_bounds
  have length := daysBeforeYear_succ thursday.year
  have bounds : 365 ≤ daysInYear thursday.year ∧ daysInYear thursday.year ≤ 366 := by
    unfold daysInYear
    split <;> decide
  rcases Int.lt_trichotomy nextThursday.year thursday.year with earlier | same | later
  · have ordered : nextThursday.dayNumber < thursday.dayNumber := lt_of_year_lt earlier
    omega
  · rw [same] at nextCounted
    omega
  · have between := daysBeforeYear_mono (show thursday.year + 1 ≤ nextThursday.year by omega)
    omega

end

end Date

end Reminders
