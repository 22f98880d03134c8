import Reminders.Proofs.Evaluation.Verdict

namespace Reminders

/-!
# Verdicts on weekly reminders

A weekly reminder always has a verdict, and it is for today.  The reminder is kept if its window has
not closed and one of the days of the lookahead is due.  Whether a day is due depends on how many
days after today it is, so the days are counted here and not looked up.
-/

/-- No window has closed: there is none, or its last minute is not past. -/
def Reference.IsOpen (reference : Reference) (window : Option TimeWindow) : Prop :=
  forall span, window = some span -> reference.minuteOfDay ≤ span.finish

/-- The lookahead that reaches no further than the day itself. -/
def Lookahead.todayOnly : Lookahead := ⟨0, Nat.zero_le 6⟩

/-- A weekly pattern is due so many days after today. -/
def IsDueAfter (mask : WeekMask) (qualifier : Option Qualifier) (reference : Reference)
    (offset : Nat) : Prop :=
  mask.includes (.afterMonday (reference.today.dayNumber + offset - 1)) = true ∧
    (qualifier.all fun condition => condition.admits reference offset) = true

/-- The verdict on a weekly pattern. -/
structure Verdict.IsForWeek (verdict : Verdict) (reference : Reference) (lookahead : Lookahead)
    (window : Option TimeWindow) (mask : WeekMask) (qualifier : Option Qualifier) : Prop where
  displayDate_eq : verdict.displayDate = reference.today
  overdue_eq : verdict.overdue = false
  keep_iff : verdict.keep = true ↔ reference.IsOpen window ∧
    Exists fun offset : Nat => offset ≤ lookahead.days ∧ IsDueAfter mask qualifier reference offset

section

variable {reference : Reference} {lookahead : Lookahead} {reminder : Reminder} {mask : WeekMask}
  {qualifier : Option Qualifier}

/-- The calendar has the day itself. -/
theorem Date.isSome_addDays_todayOnly (date : Date) :
    (date.addDays Lookahead.todayOnly.days).isSome :=
  Option.isSome_of_eq_some date.addDays_zero

theorem Reference.windowIsPast_eq_false_iff {window : Option TimeWindow} :
    reference.windowIsPast window = false ↔ reference.IsOpen window := by
  cases window with
  | none => simp [windowIsPast, IsOpen]
  | some span => simp [windowIsPast, isPast, IsOpen]

/-- Without a window nothing closes. -/
theorem Reference.isOpen_of_untimed (reference : Reference) {window : Option TimeWindow}
    (untimed : window = none) : reference.IsOpen window := by
  intro span present
  cases untimed.symm.trans present

/-- Looking a day up and counting it come to the same, if the calendar has the day. -/
theorem any_isDueOn_iff {offset : Nat} (reaches : (reference.today.addDays offset).isSome) :
    (reference.today.addDays offset).any (isDueOn mask qualifier reference offset) = true ↔
      IsDueAfter mask qualifier reference offset := by
  rcases Option.isSome_iff_exists.mp reaches with ⟨day, found⟩
  rw [found, Option.any_some, isDueOn, Bool.and_eq_true, Date.weekday,
    Date.dayNumber_of_addDays found]
  exact Iff.rfl

/-- A weekly reminder has a verdict wherever the calendar reaches to the end of the lookahead. -/
theorem exists_verdict_of_weekly (pattern : reminder.pattern = .weekly mask qualifier)
    (reaches : (reference.today.addDays lookahead.days).isSome) :
    Exists fun verdict : Verdict => reminder.evaluate reference lookahead = .ok verdict ∧
      verdict.IsForWeek reference lookahead reminder.window mask qualifier := by
  unfold Reminder.evaluate
  rw [pattern]
  refine ⟨_, evaluateWeekly_eq_ok reminder mask qualifier reaches, rfl, rfl, ?_⟩
  simp only [Bool.and_eq_true, Bool.not_eq_true', Reference.windowIsPast_eq_false_iff,
    List.any_eq_true, List.mem_range, Nat.lt_succ_iff]
  have dueIff (offset : Nat) (near : offset ≤ lookahead.days) :
      (reference.today.addDays offset).any (isDueOn mask qualifier reference offset) = true ↔
        IsDueAfter mask qualifier reference offset :=
    any_isDueOn_iff (Date.isSome_addDays_of_le (by omega) (by omega) reaches)
  exact and_congr_right fun _ => exists_congr fun offset => and_congr_right (dueIff offset)

/-- Whether a week is selected does not depend on the day that is looked at. -/
theorem isDueAfter_everyWeeks_iff {modulus : Option Nat}
    (positive : forall weeks, modulus = some weeks -> weeks ≠ 0) {offset : Nat} :
    IsDueAfter mask (modulus.map .everyWeeks) reference offset ↔
      mask.includes (.afterMonday (reference.today.dayNumber + offset - 1)) = true ∧
        forall weeks, modulus = some weeks -> reference.week % weeks = 0 := by
  refine and_congr_right fun _ => ?_
  cases modulus with
  | none => simp
  | some weeks => simp [Qualifier.admits, positive weeks rfl]

end

end Reminders
