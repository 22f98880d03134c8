import Reminders.Proofs.Calendar.Month
import Reminders.Proofs.Evaluation.Timeline
import Reminders.Proofs.Evaluation.Weekly

namespace Reminders

/-!
# Ordinals of weekdays

A weekly reminder with an ordinal is for one of the days of a month that have the same weekday: the
first of them, the second, and so on.  Evaluation does not count these days.  It looks at the
number of the day in its month, and at the day of judging only, however long the lookahead is.
Both come to the same, because the day lies in the block of seven days that its place in the row
of its weekday tells.
-/

/-- Every day of a month lies in one block of seven days. -/
theorem inBlock_iff {block : Nat} {date : Date} :
    inBlock block date.day = true ↔ date.occurrence = block := by
  have positive := date.day_exists.1
  rw [Date.occurrence_eq]
  cases block with
  | zero => simp [inBlock]
  | succ earlier =>
      simp only [inBlock, Bool.and_eq_true, decide_eq_true_eq]
      omega

section

variable {reminder : Reminder} {mask : WeekMask} {ordinal : Nat}

theorem admits_nthInMonth_iff {reference : Reference} {offset : Nat} :
    (Qualifier.nthInMonth ordinal).admits reference offset = true ↔
      offset = 0 ∧ reference.today.occurrence = ordinal := by
  simp only [Qualifier.admits, Bool.and_eq_true, beq_iff_eq, inBlock_iff]

/-- Only the day of judging can be due. -/
theorem isDueAfter_nthInMonth_iff {reference : Reference} {offset : Nat} :
    IsDueAfter mask (some (.nthInMonth ordinal)) reference offset ↔
      offset = 0 ∧ mask.includes reference.today.weekday = true ∧
        reference.today.occurrence = ordinal := by
  rw [IsDueAfter, Option.all_some, admits_nthInMonth_iff, Date.weekday]
  constructor
  · rintro ⟨active, rfl, isOccurrence⟩
    rw [Int.natCast_zero, Int.add_zero] at active
    exact ⟨rfl, active, isOccurrence⟩
  · rintro ⟨rfl, active, isOccurrence⟩
    rw [Int.natCast_zero, Int.add_zero]
    exact ⟨active, rfl, isOccurrence⟩

theorem keep_iff_occurrence {verdict : Verdict} {reference : Reference} {lookahead : Lookahead}
    (isOpen : reference.IsOpen reminder.window)
    (isFor : verdict.IsForWeek reference lookahead reminder.window mask
      (some (.nthInMonth ordinal))) :
    verdict.keep = true ↔ mask.includes reference.today.weekday = true ∧
      reference.today.occurrence = ordinal := by
  rw [isFor.keep_iff]
  simp only [isDueAfter_nthInMonth_iff]
  constructor
  · rintro ⟨-, offset, -, -, isListed⟩
    exact isListed
  · intro isListed
    exact ⟨isOpen, 0, Nat.zero_le _, rfl, isListed⟩

/-- Without a window every day of judging decides by its weekday and its place in the month. -/
theorem isKept_iff_occurrence
    (pattern : reminder.pattern = .weekly mask (some (.nthInMonth ordinal)))
    (untimed : reminder.window = none) {lookahead : Lookahead} {reference : Reference}
    (reaches : (reference.today.addDays lookahead.days).isSome) :
    reminder.IsKept lookahead reference ↔ mask.includes reference.today.weekday = true ∧
      reference.today.occurrence = ordinal := by
  have isOpen : reference.IsOpen reminder.window := reference.isOpen_of_untimed untimed
  rcases exists_verdict_of_weekly pattern reaches with ⟨verdict, judged, isFor⟩
  simp only [Reminder.IsKept, judged, Except.ok.injEq, exists_eq_left',
    keep_iff_occurrence isOpen isFor]

end

/-! ## Months -/

/-- A reminder is kept on one day of a month, judged day by day without a lookahead, and no
other. -/
def Reminder.IsKeptOnce (reminder : Reminder) (judgedOn : Date -> Reference) (year : Int)
    (month : Nat) : Prop :=
  ExistsUnique fun date : Date => date ∈ daysOfMonth year month ∧
    reminder.IsKept .todayOnly (judgedOn date)

/-- A reminder is kept on no day of a month, judged day by day without a lookahead. -/
def Reminder.IsNeverKept (reminder : Reminder) (judgedOn : Date -> Reference) (year : Int)
    (month : Nat) : Prop :=
  forall date : Date, date ∈ daysOfMonth year month ->
    ¬ reminder.IsKept .todayOnly (judgedOn date)

section

variable {reminder : Reminder} {mask : WeekMask} {ordinal : Nat} {weekday : Weekday}
  {judgedOn : Date -> Reference} {year : Int} {month : Nat}

/-- A reminder for one weekday is kept on the day of a month that its ordinal numbers. -/
theorem isKept_iff_of_single
    (pattern : reminder.pattern = .weekly mask (some (.nthInMonth ordinal)))
    (untimed : reminder.window = none)
    (single : forall other, mask.includes other = true ↔ other = weekday)
    (judges : forall date, (judgedOn date).today = date) (date : Date) :
    reminder.IsKept .todayOnly (judgedOn date) ↔
      date.weekday = weekday ∧ date.occurrence = ordinal := by
  rw [isKept_iff_occurrence pattern untimed (Date.isSome_addDays_todayOnly _), single, judges]

theorem isKeptOnce_iff (pattern : reminder.pattern = .weekly mask (some (.nthInMonth ordinal)))
    (untimed : reminder.window = none)
    (single : forall other, mask.includes other = true ↔ other = weekday)
    (judges : forall date, (judgedOn date).today = date)
    (supported : firstYear ≤ year ∧ year ≤ lastYear) :
    reminder.IsKeptOnce judgedOn year month ↔
      1 ≤ ordinal ∧ ordinal ≤ weekdayCount year month weekday := by
  rw [← exists_occurrence_iff supported, Reminder.IsKeptOnce]
  simp only [isKept_iff_of_single pattern untimed single judges]
  constructor
  · intro keptOnce
    exact keptOnce.exists
  · rintro ⟨date, inMonth, isWeekday, isOccurrence⟩
    refine ⟨date, ⟨inMonth, isWeekday, isOccurrence⟩, ?_⟩
    rintro other ⟨otherInMonth, otherWeekday, otherOccurrence⟩
    rcases mem_daysOfMonth.mp inMonth with ⟨sameYear, sameMonth⟩
    rcases mem_daysOfMonth.mp otherInMonth with ⟨otherYear, otherMonth⟩
    exact Date.eq_of_occurrence_eq (otherYear.trans sameYear.symm) (otherMonth.trans sameMonth.symm)
      (otherWeekday.trans isWeekday.symm) (otherOccurrence.trans isOccurrence.symm)

/-- A reminder for one weekday that is kept in a month at all is kept once. -/
theorem isNeverKept_iff (pattern : reminder.pattern = .weekly mask (some (.nthInMonth ordinal)))
    (untimed : reminder.window = none)
    (single : forall other, mask.includes other = true ↔ other = weekday)
    (judges : forall date, (judgedOn date).today = date)
    (supported : firstYear ≤ year ∧ year ≤ lastYear) :
    reminder.IsNeverKept judgedOn year month ↔
      ¬ (1 ≤ ordinal ∧ ordinal ≤ weekdayCount year month weekday) := by
  rw [← exists_occurrence_iff supported, Reminder.IsNeverKept]
  simp only [isKept_iff_of_single pattern untimed single judges]
  constructor
  · rintro never ⟨date, inMonth, isListed⟩
    exact never date inMonth isListed
  · intro none date inMonth isListed
    exact none ⟨date, inMonth, isListed⟩

end

/-- The ordinal of a weekly reminder counts the days of a month that have the same weekday.  While
its window is open the reminder is kept on an active day that is the one so counted, whatever the
lookahead.  So without a window a reminder for one weekday is kept once in every month for the
ordinals from 1 to 4, once for the ordinal 5 if the month has five such days and never otherwise,
and never for any other ordinal; and each day has one ordinal from 1 to 5. -/
theorem ordinal_counts_weekdays_of_month (reminder : Reminder) (mask : WeekMask) (ordinal : Nat)
    (pattern : reminder.pattern = .weekly mask (some (.nthInMonth ordinal))) :
    (forall (reference : Reference) (lookahead : Lookahead), reference.IsOpen reminder.window ->
      (reference.today.addDays lookahead.days).isSome ->
      Exists fun verdict : Verdict => reminder.evaluate reference lookahead = .ok verdict ∧
        verdict.overdue = false ∧ verdict.displayDate = reference.today ∧
        (verdict.keep = true ↔ mask.includes reference.today.weekday = true ∧
          reference.today.occurrence = ordinal)) ∧
    (reminder.window = none ->
      forall (weekday : Weekday) (judgedOn : Date -> Reference) (year : Int) (month : Nat),
        (forall other, mask.includes other = true ↔ other = weekday) ->
        (forall date, (judgedOn date).today = date) ->
        firstYear ≤ year ∧ year ≤ lastYear -> 1 ≤ month ∧ month ≤ 12 ->
        (1 ≤ ordinal ∧ ordinal ≤ 4 -> reminder.IsKeptOnce judgedOn year month) ∧
        (ordinal = 5 -> weekdayCount year month weekday = 5 ->
          reminder.IsKeptOnce judgedOn year month) ∧
        (ordinal = 5 -> weekdayCount year month weekday ≠ 5 ->
          reminder.IsNeverKept judgedOn year month) ∧
        (ordinal = 0 ∨ 6 ≤ ordinal -> reminder.IsNeverKept judgedOn year month)) ∧
    (forall reference : Reference, ExistsUnique fun other : Nat => (1 ≤ other ∧ other ≤ 5) ∧
      (Qualifier.nthInMonth other).admits reference 0 = true) := by
  refine ⟨?_, ?_, ?_⟩
  · intro reference lookahead isOpen reaches
    rcases exists_verdict_of_weekly pattern reaches with ⟨verdict, judged, isFor⟩
    exact ⟨verdict, judged, isFor.overdue_eq, isFor.displayDate_eq,
      keep_iff_occurrence isOpen isFor⟩
  · intro untimed weekday judgedOn year month single judges supported named
    have bounds := weekdayCount_bounds supported named weekday
    rw [isKeptOnce_iff pattern untimed single judges supported,
      isNeverKept_iff pattern untimed single judges supported]
    omega
  · intro reference
    have existing := reference.today.day_exists
    have longest := daysInMonth_le reference.today.year reference.today.month
    simp only [admits_nthInMonth_iff, true_and]
    refine ⟨reference.today.occurrence, ⟨?_, rfl⟩, ?_⟩
    · rw [Date.occurrence_eq]
      omega
    · rintro other ⟨-, isOccurrence⟩
      exact isOccurrence.symm

/-- In May 2021 there are five Sundays, in June four. -/
theorem fifth_sunday_of_may :
    let mask : WeekMask := ⟨false, false, false, false, false, false, true⟩
    let reminder : Reminder :=
      ⟨1, .weekly mask (some (.nthInMonth 5)), none, "Wind the clock",
        "1 S------[5] Wind the clock"⟩
    let judgedOn : Date -> Reference := fun date => ⟨date, 600, date.isoWeek⟩
    let sunday : Date := ⟨2021, 5, 30, by decide, by decide⟩
    Grammar.weekly.read "1 S------[5] Wind the clock" = some reminder ∧
      (judgedOn sunday).IsOpen reminder.window ∧ (sunday.addDays 4).isSome ∧
      (forall other, mask.includes other = true ↔ other = .sunday) ∧
      (forall date, (judgedOn date).today = date) ∧
      weekdayCount 2021 5 .sunday = 5 ∧ weekdayCount 2021 6 .sunday = 4 ∧
      (Exists fun verdict : Verdict =>
        reminder.evaluate (judgedOn sunday) ⟨4, by decide⟩ = .ok verdict ∧ verdict.keep = true) ∧
      reminder.IsKeptOnce judgedOn 2021 5 ∧ reminder.IsNeverKept judgedOn 2021 6 := by
  have found : Grammar.weekly.read "1 S------[5] Wind the clock" = some
      ⟨1, .weekly ⟨false, false, false, false, false, false, true⟩ (some (.nthInMonth 5)), none,
        "Wind the clock", "1 S------[5] Wind the clock"⟩ := by rfl
  intro mask reminder judgedOn sunday
  have isOpen : (judgedOn sunday).IsOpen reminder.window :=
    (judgedOn sunday).isOpen_of_untimed rfl
  have reaches : (sunday.addDays 4).isSome := by decide
  have single : forall other, mask.includes other = true ↔ other = .sunday := by
    intro other
    cases other <;> decide
  have inMay : weekdayCount 2021 5 .sunday = 5 := by decide
  have inJune : weekdayCount 2021 6 .sunday = 4 := by decide
  have counted : sunday.occurrence = 5 := by decide
  rcases ordinal_counts_weekdays_of_month reminder mask 5 rfl with ⟨judges, months, -⟩
  rcases judges (judgedOn sunday) ⟨4, by decide⟩ isOpen reaches with
    ⟨verdict, judged, -, -, keepIff⟩
  have may := months rfl .sunday judgedOn 2021 5 single (fun _ => rfl) (by decide) (by decide)
  have june := months rfl .sunday judgedOn 2021 6 single (fun _ => rfl) (by decide) (by decide)
  exact ⟨found, isOpen, reaches, single, fun _ => rfl, inMay, inJune,
    ⟨verdict, judged, keepIff.mpr ⟨by decide, counted⟩⟩, may.2.1 rfl inMay,
    june.2.2.1 rfl (by omega)⟩

end Reminders
