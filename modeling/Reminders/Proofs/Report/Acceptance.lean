import Reminders.Proofs.Evaluation.Refusal
import Reminders.Proofs.Report.Composition

namespace Reminders

/-!
# Files that stay accepted

Whether a line is refused does not depend on the day, the time, the week or the lookahead, so the
first refused line is the same on every day.  Files that make a report on one day therefore make one
on every day, and files that do not fail in the same place.
-/

/-- A line that is refused on one day is refused on every other day, with the same month and day of
the month in the message. -/
theorem Refuses.onEveryDay {first second : Reference} {firstLookahead secondLookahead : Lookahead}
    (firstReaches : (first.today.addDays firstLookahead.days).isSome)
    (secondReaches : (second.today.addDays secondLookahead.days).isSome)
    {line : String} {problem : EvaluationError}
    (refused : Refuses first firstLookahead line problem) :
    Exists fun firstYear => Exists fun secondYear => Exists fun month => Exists fun day =>
      problem = .noSuchDate line firstYear month day ∧
        Refuses second secondLookahead line (.noSuchDate line secondYear month day) := by
  rcases refused with ⟨reminder, found, judged⟩
  rcases Reminder.inBounds_of_read found with ⟨bounds, rfl⟩
  rcases (evaluate_eq_error_iff bounds firstReaches).mp judged with
    ⟨year, month, day, pattern, noneAgrees, rfl⟩
  refine ⟨_, year.resolve (wordOfYear second.today.year), month, day, rfl, reminder, found, ?_⟩
  exact (evaluate_eq_error_iff bounds secondReaches).mpr
    ⟨year, month, day, pattern, noneAgrees, rfl⟩

/-- The first refused line is the same on every day. -/
theorem FirstRefusal.onEveryDay {first second : Reference}
    {firstLookahead secondLookahead : Lookahead}
    (firstReaches : (first.today.addDays firstLookahead.days).isSome)
    (secondReaches : (second.today.addDays secondLookahead.days).isSome)
    {lines : List (String × String)} {group line : String} {problem : EvaluationError}
    (refusal : FirstRefusal first firstLookahead lines group line problem) :
    Exists fun firstYear => Exists fun secondYear => Exists fun month => Exists fun day =>
      problem = .noSuchDate line firstYear month day ∧
        FirstRefusal second secondLookahead lines group line
          (.noSuchDate line secondYear month day) := by
  rcases refusal with ⟨before, after, split, accepted, refused⟩
  rcases refused.onEveryDay firstReaches secondReaches with
    ⟨firstYear, secondYear, month, day, isProblem, refusedToo⟩
  refine ⟨firstYear, secondYear, month, day, isProblem, before, after, split, ?_, refusedToo⟩
  intro earlier member other otherRefused
  rcases otherRefused.onEveryDay secondReaches firstReaches with ⟨_, _, _, _, -, backRefused⟩
  exact accepted earlier member _ backRefused

theorem makeReport_error_onEveryDay {groups : List Group} {first second : Reference}
    {firstOptions secondOptions : ReportOptions}
    (firstReaches : (first.today.addDays firstOptions.lookahead.days).isSome)
    (secondReaches : (second.today.addDays secondOptions.lookahead.days).isSome)
    (failed : Exists fun problem => makeReport first firstOptions groups = .error problem) :
    Exists fun problem => makeReport second secondOptions groups = .error problem := by
  rcases failed with ⟨problem, failed⟩
  rcases makeReport_eq_error_iff.mp failed with ⟨line, refusal⟩
  rcases refusal.onEveryDay firstReaches secondReaches with ⟨_, year, month, day, -, refusalToo⟩
  exact ⟨⟨problem.group, .noSuchDate line year month day⟩,
    makeReport_eq_error_iff.mpr ⟨line, refusalToo⟩⟩

/-- Groups that make a report on one day make one on every day.  Where there is none, the same line
of the same group is to blame on both days, and only the year in the message may differ. -/
theorem makeReport_accepted_on_every_day (groups : List Group) (first second : Reference)
    (firstOptions secondOptions : ReportOptions)
    (firstReaches : (first.today.addDays firstOptions.lookahead.days).isSome)
    (secondReaches : (second.today.addDays secondOptions.lookahead.days).isSome) :
    ((Exists fun problem => makeReport first firstOptions groups = .error problem) ↔
      Exists fun problem => makeReport second secondOptions groups = .error problem) ∧
    forall firstProblem secondProblem,
      makeReport first firstOptions groups = .error firstProblem ->
      makeReport second secondOptions groups = .error secondProblem ->
      firstProblem.group = secondProblem.group ∧
        Exists fun line => Exists fun firstYear => Exists fun secondYear =>
          Exists fun month => Exists fun day =>
            (firstProblem.group, line) ∈ linesInOrder groups ∧
            firstProblem.cause = .noSuchDate line firstYear month day ∧
            secondProblem.cause = .noSuchDate line secondYear month day := by
  constructor
  · exact ⟨makeReport_error_onEveryDay firstReaches secondReaches,
      makeReport_error_onEveryDay secondReaches firstReaches⟩
  · intro firstProblem secondProblem firstFailed secondFailed
    rcases makeReport_eq_error_iff.mp firstFailed with ⟨line, refusal⟩
    rcases makeReport_eq_error_iff.mp secondFailed with ⟨otherLine, otherRefusal⟩
    rcases refusal.onEveryDay firstReaches secondReaches with
      ⟨firstYear, secondYear, month, day, isFirst, refusalToo⟩
    rcases refusalToo.unique otherRefusal with ⟨sameGroup, -, isSecond⟩
    refine ⟨sameGroup, line, firstYear, secondYear, month, day, ?_, isFirst, isSecond.symm⟩
    rcases refusal with ⟨before, after, split, -, -⟩
    rw [split]
    exact List.mem_append_right _ List.mem_cons_self

/-- 30 February is refused on a leap day, and therefore at any other time. -/
theorem thirtieth_of_february_refused :
    let groups : List Group := [⟨"home.txt", ["2 ????.02.29 Leap day", "1 ????.02.30 Never"]⟩]
    let leapDay : Reference := ⟨⟨2024, 2, 29, by decide, by decide⟩, 0, 9⟩
    let newYear : Reference := ⟨⟨2021, 1, 1, by decide, by decide⟩, 1439, 53⟩
    let today : ReportOptions := ⟨⟨0, by decide⟩, none, 80⟩
    let thisWeek : ReportOptions := ⟨⟨6, by decide⟩, some 1, 40⟩
    (leapDay.today.addDays today.lookahead.days).isSome ∧
      (newYear.today.addDays thisWeek.lookahead.days).isSome ∧
      Exists fun problem => makeReport newYear thisWeek groups = .error problem := by
  have failed : makeReport ⟨⟨2024, 2, 29, by decide, by decide⟩, 0, 9⟩ ⟨⟨0, by decide⟩, none, 80⟩
      [⟨"home.txt", ["2 ????.02.29 Leap day", "1 ????.02.30 Never"]⟩] =
      .error ⟨"home.txt", .noSuchDate "1 ????.02.30 Never" 2024 2 30⟩ := by rfl
  intro groups leapDay newYear today thisWeek
  have leapDayReaches : (leapDay.today.addDays today.lookahead.days).isSome := by decide
  have newYearReaches : (newYear.today.addDays thisWeek.lookahead.days).isSome := by decide
  have sameOutcome := makeReport_accepted_on_every_day groups leapDay newYear today thisWeek
    leapDayReaches newYearReaches
  exact ⟨leapDayReaches, newYearReaches, sameOutcome.1.mp ⟨_, failed⟩⟩

end Reminders
