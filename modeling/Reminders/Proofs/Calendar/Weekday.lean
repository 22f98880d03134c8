import Reminders.Calendar.Week
import Reminders.Proofs.Calendar.DayNumber

namespace Reminders

/-!
# Weekdays and day numbers

The weekday of a date is its day number, counted in sevens.  Two days have the same weekday if their
numbers leave the same remainder, and among seven days in a row each weekday occurs once.  Day
number 0 is a Sunday, so the remainder is the number of days since the last Sunday.
-/

/-- The number of days from the last Sunday to a day of the given weekday. -/
def Weekday.sinceSunday : Weekday -> Nat
  | .sunday => 0
  | .monday => 1
  | .tuesday => 2
  | .wednesday => 3
  | .thursday => 4
  | .friday => 5
  | .saturday => 6

namespace Weekday

/-- Counting on from a Monday and counting back to a Sunday differ by the day between the two. -/
theorem sinceSunday_afterMonday (count : Int) :
    ((afterMonday count).sinceSunday : Int) = (count + 1) % 7 := by
  have remainder : Exists fun days : Nat => count % 7 = days ∧ days < 7 :=
    ⟨(count % 7).toNat, by omega, by omega⟩
  rcases remainder with ⟨days, isRemainder, within⟩
  have next : (count + 1) % 7 = ((days : Int) + 1) % 7 := by omega
  rw [next, afterMonday, isRemainder, Int.toNat_natCast]
  match days, within with
  | 0, _ | 1, _ | 2, _ | 3, _ | 4, _ | 5, _ | 6, _ => rfl

theorem sinceSunday_lt (weekday : Weekday) : weekday.sinceSunday < 7 := by
  cases weekday <;> decide

/-- Each weekday is the one so many days after a Sunday. -/
theorem afterMonday_sinceSunday (weekday : Weekday) :
    afterMonday ((weekday.sinceSunday : Int) - 1) = weekday := by
  cases weekday <;> rfl

theorem afterMonday_eq_iff {count : Int} {weekday : Weekday} :
    afterMonday count = weekday ↔ (count + 1) % 7 = weekday.sinceSunday := by
  rw [← sinceSunday_afterMonday]
  constructor
  · rintro rfl
    rfl
  · intro same
    rw [← afterMonday_sinceSunday weekday, ← same, afterMonday_sinceSunday]

/-- Whole weeks do not change the weekday. -/
theorem afterMonday_congr {first second : Int} (same : first % 7 = second % 7) :
    afterMonday first = afterMonday second := by
  rw [afterMonday_eq_iff, sinceSunday_afterMonday]
  omega

end Weekday

namespace Date

theorem weekday_eq_iff {date : Date} {weekday : Weekday} :
    date.weekday = weekday ↔ date.dayNumber % 7 = weekday.sinceSunday := by
  rw [Date.weekday, Weekday.afterMonday_eq_iff, Int.sub_add_cancel]

theorem sinceSunday_weekday (date : Date) : (date.weekday.sinceSunday : Int) = date.dayNumber % 7 :=
  (weekday_eq_iff.mp rfl).symm

/-- Days have the same weekday if a number of whole weeks lies between them. -/
theorem weekday_eq_weekday_iff {first second : Date} :
    first.weekday = second.weekday ↔ first.dayNumber % 7 = second.dayNumber % 7 := by
  rw [weekday_eq_iff, sinceSunday_weekday]

end Date

end Reminders
