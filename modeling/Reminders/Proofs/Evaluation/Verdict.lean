import Reminders.Proofs.Evaluation.Refusal

namespace Reminders

/-!
# What a verdict says

A specific date is judged in two steps.  Today's fields complete its pattern to a date, and if that
date exists it is compared with today and with the end of the lookahead.  A weekly pattern is judged
by the days of the lookahead, and its verdict is always for today.

The lookahead bears on one thing only, which is whether a reminder that is not overdue is kept.  So
a longer lookahead keeps whatever a shorter one keeps, and says the same of it.
-/

/-- The date that today completes a pattern to, if that date exists. -/
def completion (today : Date) (year month day : DateField) : Option Date :=
  Date.ofFields (yearOfWord (year.resolve (wordOfYear today.year)))
    (month.resolve (UInt32.ofNat today.month)).toNat (day.resolve (UInt32.ofNat today.day)).toNat

/-- A date is over once it is past, and on the day itself once its window has closed. -/
def Reference.isOver (reference : Reference) (window : Option TimeWindow) (date : Date) : Bool :=
  decide (date < reference.today) || (date == reference.today && reference.windowIsPast window)

/-- A date from today to the end of the lookahead. -/
def Lookahead.Covers (lookahead : Lookahead) (today date : Date) : Prop :=
  today ≤ date ∧ date.dayNumber ≤ today.dayNumber + lookahead.days

/-- The verdict on a pattern that is completed to a date.  Only a pattern without wildcards can be
overdue. -/
structure Verdict.IsFor (verdict : Verdict) (reference : Reference) (lookahead : Lookahead)
    (window : Option TimeWindow) (isWild : Bool) (date : Date) : Prop where
  displayDate_eq : verdict.displayDate = date
  overdue_eq : verdict.overdue = (!isWild && reference.isOver window date)
  keep_iff : verdict.keep = true ↔ verdict.overdue = true ∨ lookahead.Covers reference.today date

section

variable {reference : Reference} {lookahead : Lookahead} {reminder : Reminder}
  {year month day : DateField}

/-! ## Specific dates -/

/-- Where today completes the pattern to no date, the lookahead is not looked at. -/
theorem evaluateSpecific_of_completion_eq_none
    (unresolved : completion reference.today year month day = none) :
    evaluateSpecific reminder year month day reference lookahead =
      if (year.isWild || month.isWild || day.isWild) && occursInSomeMonth month day then
        .ok (.dropped reference.today)
      else .error (.noSuchDate reminder.source (year.resolve (wordOfYear reference.today.year))
        (month.resolve (UInt32.ofNat reference.today.month))
        (day.resolve (UInt32.ofNat reference.today.day))) := by
  unfold completion at unresolved
  simp only [evaluateSpecific, unresolved]

theorem evaluateSpecific_of_completion_eq_some {date horizon : Date}
    (resolved : completion reference.today year month day = some date)
    (reached : reference.today.addDays lookahead.days = some horizon) :
    Exists fun verdict : Verdict =>
      evaluateSpecific reminder year month day reference lookahead = .ok verdict ∧
        verdict.IsFor reference lookahead reminder.window
          (year.isWild || month.isWild || day.isWild) date := by
  unfold completion at resolved
  simp only [evaluateSpecific, resolved, reached]
  refine ⟨_, rfl, rfl, rfl, ?_⟩
  have end_eq := Date.dayNumber_of_addDays reached
  have inReach : date ≤ horizon ↔
      date.dayNumber ≤ reference.today.dayNumber + lookahead.days := by
    rw [← end_eq]
    exact Iff.rfl
  simp only [Bool.or_eq_true, Bool.and_eq_true, decide_eq_true_eq, inReach, Lookahead.Covers]

theorem evaluateSpecific_ok_cases {verdict : Verdict}
    (judged : evaluateSpecific reminder year month day reference lookahead = .ok verdict) :
    verdict = .dropped reference.today ∨
      Exists fun date => completion reference.today year month day = some date ∧
        verdict.IsFor reference lookahead reminder.window
          (year.isWild || month.isWild || day.isWild) date := by
  cases resolved : completion reference.today year month day with
  | none =>
      left
      rw [evaluateSpecific_of_completion_eq_none resolved] at judged
      split at judged
      · exact (Except.ok.inj judged).symm
      · cases judged
  | some date =>
      right
      cases reached : reference.today.addDays lookahead.days with
      | none =>
          unfold completion at resolved
          simp only [evaluateSpecific, resolved, reached] at judged
          cases judged
      | some horizon =>
          rcases evaluateSpecific_of_completion_eq_some resolved reached with ⟨other, same, isFor⟩
          rw [judged] at same
          cases same
          exact ⟨date, rfl, isFor⟩

/-! ## Weekly patterns -/

theorem evaluateWeekly_ok_cases {mask : WeekMask} {qualifier : Option Qualifier} {verdict : Verdict}
    (judged : evaluateWeekly reminder mask qualifier reference lookahead = .ok verdict) :
    verdict.overdue = false ∧ verdict.displayDate = reference.today := by
  unfold evaluateWeekly at judged
  split at judged
  · cases judged
    exact ⟨rfl, rfl⟩
  · cases found : isDueWithin mask qualifier reference (List.range (lookahead.days + 1)) with
    | error problem =>
        rw [found] at judged
        cases judged
    | ok keep =>
        rw [found] at judged
        cases judged
        exact ⟨rfl, rfl⟩

end

/-! ## Longer lookaheads -/

/-- The verdicts under a shorter and a longer lookahead. -/
structure Verdict.GrowsTo (first second : Verdict) : Prop where
  displayDate_eq : second.displayDate = first.displayDate
  overdue_eq : second.overdue = first.overdue
  keep_of_keep : first.keep = true -> second.keep = true
  keep_of_overdue : second.overdue = true -> first.keep = true

theorem Verdict.IsFor.growsTo {first second : Verdict} {reference : Reference}
    {shorter longer : Lookahead} {window : Option TimeWindow} {isWild : Bool} {date : Date}
    (ordered : shorter.days ≤ longer.days)
    (isFirst : first.IsFor reference shorter window isWild date)
    (isSecond : second.IsFor reference longer window isWild date) : first.GrowsTo second := by
  have sameOverdue : second.overdue = first.overdue :=
    isSecond.overdue_eq.trans isFirst.overdue_eq.symm
  refine ⟨isSecond.displayDate_eq.trans isFirst.displayDate_eq.symm, sameOverdue, ?_, ?_⟩
  · intro kept
    apply isSecond.keep_iff.mpr
    rcases isFirst.keep_iff.mp kept with overdue | covered
    · exact Or.inl (sameOverdue.trans overdue)
    · exact Or.inr ⟨covered.1, by have := covered.2; omega⟩
  · intro overdue
    exact isFirst.keep_iff.mpr (Or.inl (sameOverdue ▸ overdue))

/-- Under a longer lookahead a reminder is refused for the same reason, or has a verdict that says
the same and keeps no less. -/
theorem evaluate_growsTo {reference : Reference} {shorter longer : Lookahead}
    (reminder : Reminder) (ordered : shorter.days ≤ longer.days)
    (reaches : (reference.today.addDays longer.days).isSome) :
    (Exists fun problem : EvaluationError => reminder.evaluate reference shorter = .error problem ∧
      reminder.evaluate reference longer = .error problem) ∨
    (Exists fun first : Verdict => Exists fun second : Verdict =>
      reminder.evaluate reference shorter = .ok first ∧
        reminder.evaluate reference longer = .ok second ∧ first.GrowsTo second) := by
  have reachesShorter : (reference.today.addDays shorter.days).isSome :=
    Date.isSome_addDays_of_le (by omega) (by omega) reaches
  unfold Reminder.evaluate
  cases reminder.pattern with
  | specific year month day =>
      cases resolved : completion reference.today year month day with
      | none =>
          simp only [evaluateSpecific_of_completion_eq_none resolved]
          split
          · right
            refine ⟨_, _, rfl, rfl, rfl, rfl, id, ?_⟩
            intro impossible
            cases impossible
          · left
            exact ⟨_, rfl, rfl⟩
      | some date =>
          right
          rcases Option.isSome_iff_exists.mp reachesShorter with ⟨nearer, nearerReached⟩
          rcases Option.isSome_iff_exists.mp reaches with ⟨farther, fartherReached⟩
          rcases evaluateSpecific_of_completion_eq_some resolved nearerReached with
            ⟨first, judgedFirst, isFirst⟩
          rcases evaluateSpecific_of_completion_eq_some resolved fartherReached with
            ⟨second, judgedSecond, isSecond⟩
          exact ⟨first, second, judgedFirst, judgedSecond, isFirst.growsTo ordered isSecond⟩
  | weekly mask qualifier =>
      right
      refine ⟨_, _, evaluateWeekly_eq_ok reminder mask qualifier reachesShorter,
        evaluateWeekly_eq_ok reminder mask qualifier reaches, rfl, rfl, ?_, ?_⟩
      · -- The days of the shorter lookahead are among those of the longer one.
        simp only [Bool.and_eq_true, List.any_eq_true, List.mem_range]
        rintro ⟨isOpen, offset, near, due⟩
        exact ⟨isOpen, offset, by omega, due⟩
      · intro impossible
        cases impossible

end Reminders
