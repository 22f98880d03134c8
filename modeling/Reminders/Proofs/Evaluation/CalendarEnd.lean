import Reminders.Proofs.Evaluation.Completion
import Reminders.Proofs.Evaluation.Weekly
import Reminders.Proofs.Report.Composition

namespace Reminders

/-!
# The end of the calendar

Judging a reminder takes days after today, and these may lie behind the last one of the calendar.  A
specific date takes the end of the lookahead, but only once the pattern has come to a date.  A
weekly pattern takes one day after the other and no further than to the first that is due.  So
whether the end of the calendar is noticed depends on the whole reminder, and the search is followed
here day by day: it fails at the first missing day exactly if no day before that is due.

Nothing else can fail.  Where numbers are words and the entries of a listing are cut off, this is
said of the step itself: the bounds of an ordinal's block fit into a word because a line can spell
no large ordinal, and no more entries are cut off than there are.
-/

/-- The last day of the calendar. -/
def Date.last : Date := ⟨262142, 12, 31, by decide, by decide⟩

/-- The calendar ends before so many days after a date. -/
def Date.Outruns (date : Date) (count : Nat) : Prop :=
  Date.last.dayNumber < date.dayNumber + count

/-- Among so many days, the first of them so many days after today, one is missing from the calendar
and a weekly pattern is due on none before it. -/
def RunsOut (mask : WeekMask) (qualifier : Option Qualifier) (reference : Reference)
    (first count : Nat) : Prop :=
  Exists fun offset : Nat => (first ≤ offset ∧ offset < first + count) ∧
    reference.today.Outruns offset ∧
    forall earlier : Nat, first ≤ earlier -> earlier < offset ->
      ¬ IsDueAfter mask qualifier reference earlier

/-- Judging a reminder takes a day behind the end of the calendar. -/
inductive Reminder.TakesMissingDay (reminder : Reminder) (reference : Reference)
    (lookahead : Lookahead) : Prop where
  | specific {year month day : DateField} {date : Date}
      (pattern : reminder.pattern = .specific year month day)
      (completes : date.Completes reference.today year month day)
      (outruns : reference.today.Outruns lookahead.days)
  | weekly {mask : WeekMask} {qualifier : Option Qualifier} {offset : Nat}
      (pattern : reminder.pattern = .weekly mask qualifier)
      (isOpen : reference.IsOpen reminder.window) (near : offset ≤ lookahead.days)
      (outruns : reference.today.Outruns offset)
      (noneDue : forall earlier : Nat, earlier < offset ->
        ¬ IsDueAfter mask qualifier reference earlier)

/-- A verdict, or the refusal of a date that does not exist. -/
def IsAnswer (source : String) (result : Except EvaluationError Verdict) : Prop :=
  (Exists fun verdict => result = .ok verdict) ∨
    Exists fun year => Exists fun month => Exists fun day =>
      result = .error (.noSuchDate source year month day)

/-- The calendar has ended if a day is missing, and otherwise there is an answer. -/
inductive AnswersUnless (source : String) (missing : Prop)
    (result : Except EvaluationError Verdict) : Prop where
  | ended (isMissing : missing) (failed : result = .error .pastCalendar)
  | answered (notMissing : ¬ missing) (isAnswer : IsAnswer source result)

namespace AnswersUnless

variable {source : String} {missing : Prop} {result : Except EvaluationError Verdict}

theorem isAnswer (answers : AnswersUnless source missing result) (notMissing : ¬ missing) :
    IsAnswer source result := by
  cases answers with
  | ended isMissing failed => exact absurd isMissing notMissing
  | answered notMissing isAnswer => exact isAnswer

theorem pastCalendar_iff (answers : AnswersUnless source missing result) :
    result = .error .pastCalendar ↔ missing := by
  cases answers with
  | ended isMissing failed => exact iff_of_true failed isMissing
  | answered notMissing isAnswer =>
      refine iff_of_false ?_ notMissing
      rcases isAnswer with ⟨verdict, rfl⟩ | ⟨year, month, day, rfl⟩
      all_goals
        intro impossible
        cases impossible

end AnswersUnless

/-! ## Missing days -/

theorem Date.dayNumber_last : Date.last.dayNumber = daysBeforeYear (lastYear + 1) := by decide

/-- Days ahead are missing only behind the last one. -/
theorem Date.addDays_eq_none_iff {date : Date} {count : Nat} :
    date.addDays count = none ↔ date.Outruns count := by
  have own := (isSome_ofDayNumber_iff date.dayNumber).mp (by rw [ofDayNumber_dayNumber]; rfl)
  have found := isSome_ofDayNumber_iff (date.dayNumber + count)
  rw [Outruns, dayNumber_last, ← Option.not_isSome_iff_eq_none, addDays, found]
  omega

theorem Date.not_outruns_of_found {date other : Date} {count : Nat}
    (found : date.addDays count = some other) : ¬ date.Outruns count := by
  rw [← addDays_eq_none_iff, found]
  intro impossible
  cases impossible

/-! ## Words and slices -/

/-- A number, if it is one of 32 bits. -/
def wordOf (number : Nat) : Option Nat := if number < 0x100000000 then some number else none

/-- The test for a block of days with its bounds worked out in words. -/
def inBlockOfWords (block dayOfMonth : Nat) : Option Bool :=
  match block with
  | 0 => some false
  | earlier + 1 => do
      let weeks ← wordOf (earlier * 7)
      let first ← wordOf (1 + weeks)
      let last ← wordOf (first + 6)
      some (first ≤ dayOfMonth && dayOfMonth ≤ last)

/-- The last of the bounds is the largest number on the way. -/
theorem inBlockOfWords_eq (block dayOfMonth : Nat) :
    inBlockOfWords block dayOfMonth =
      if 7 * block < 0x100000000 then some (inBlock block dayOfMonth) else none := by
  cases block with
  | zero => rfl
  | succ earlier =>
      by_cases small : 7 * (earlier + 1) < 0x100000000
      · have lastBound : 1 + earlier * 7 + 6 = 7 + earlier * 7 := by omega
        simp only [inBlockOfWords, wordOf, if_pos small, bind, Option.bind, inBlock,
          if_pos (show earlier * 7 < 0x100000000 by omega),
          if_pos (show 1 + earlier * 7 < 0x100000000 by omega),
          lastBound, if_pos (show 7 + earlier * 7 < 0x100000000 by omega)]
      · have tooLarge : ¬ 1 + earlier * 7 + 6 < 0x100000000 := by omega
        rw [if_neg small]
        simp only [inBlockOfWords, wordOf, Option.bind_eq_bind, Option.bind_eq_none_iff,
          Option.ite_none_right_eq_some, Option.some.injEq]
        rintro weeks ⟨-, rfl⟩ first ⟨-, rfl⟩ last ⟨impossible, -⟩
        exact absurd impossible tooLarge

/-- The first elements of a list, if it has so many. -/
def sliceOf {α : Type} (count : Nat) (items : List α) : Option (List α) :=
  if count ≤ items.length then some (items.take count) else none

/-- The lines of the entries that are cut off at the limit. -/
def listingOfSlice (width : Nat) (limit : Option Nat) (entries : List Entry) :
    Option (List String) := do
  let shown := limit.elim entries.length fun limit => min limit entries.length
  let slice ← sliceOf shown entries
  let marker := limit.elim [] fun limit =>
    if shown < entries.length then [limitMarker limit] else []
  some (slice.flatMap (Entry.lines width) ++ marker)

/-- No more entries are cut off than there are. -/
theorem listingOfSlice_eq (width : Nat) (limit : Option Nat) (entries : List Entry) :
    listingOfSlice width limit entries = some (listingLines width limit entries) := by
  cases limit with
  | none => simp [listingOfSlice, sliceOf, listingLines]
  | some limit =>
      have shownLe : min limit entries.length ≤ entries.length := Nat.min_le_right _ _
      have isTake : entries.take (min limit entries.length) = entries.take limit := by
        rw [← List.take_take, List.take_length]
      have isMore : min limit entries.length < entries.length ↔ limit < entries.length := by omega
      simp only [listingOfSlice, Option.elim, sliceOf, if_pos shownLe, isTake, isMore, listingLines,
        Option.bind_eq_bind, Option.bind_some]

section

variable {reference : Reference} {lookahead : Lookahead} {reminder : Reminder}

/-! ## Specific dates -/

theorem takesMissingDay_specific_iff {year month day : DateField}
    (pattern : reminder.pattern = .specific year month day) :
    reminder.TakesMissingDay reference lookahead ↔
      (Exists fun date : Date => date.Completes reference.today year month day) ∧
        reference.today.Outruns lookahead.days := by
  constructor
  · rintro (⟨same, completes, outruns⟩ | ⟨other⟩)
    · cases pattern.symm.trans same
      exact ⟨⟨_, completes⟩, outruns⟩
    · cases pattern.symm.trans other
  · rintro ⟨⟨date, completes⟩, outruns⟩
    exact .specific pattern completes outruns

/-- The end of the lookahead is taken for every date that today completes the pattern to, also for
one that is overdue or far ahead. -/
theorem evaluateSpecific_outcome (reminder : Reminder) (year month day : DateField)
    (reference : Reference) (lookahead : Lookahead) :
    AnswersUnless reminder.source
      ((Exists fun date : Date => date.Completes reference.today year month day) ∧
        reference.today.Outruns lookahead.days)
      (evaluateSpecific reminder year month day reference lookahead) := by
  cases resolved : completion reference.today year month day with
  | none =>
      refine .answered (fun missing => completion_eq_none_iff.mp resolved missing.1) ?_
      rw [evaluateSpecific_of_completion_eq_none resolved]
      split
      · exact .inl ⟨_, rfl⟩
      · exact .inr ⟨_, _, _, rfl⟩
  | some date =>
      have completes := completion_eq_some_iff.mp resolved
      cases reached : reference.today.addDays lookahead.days with
      | none =>
          refine .ended ⟨⟨date, completes⟩, Date.addDays_eq_none_iff.mp reached⟩ ?_
          unfold completion at resolved
          simp only [evaluateSpecific, resolved, reached]
      | some horizon =>
          have judgment : Exists fun verdict : Verdict =>
              evaluateSpecific reminder year month day reference lookahead = .ok verdict ∧ _ :=
            evaluateSpecific_of_completion_eq_some resolved reached
          rcases judgment with ⟨verdict, judged, -⟩
          exact .answered (fun missing => Date.not_outruns_of_found reached missing.2)
            (.inl ⟨verdict, judged⟩)

/-! ## Weekly patterns -/

/-- A series of days runs out at its first day or behind it. -/
theorem runsOut_succ_iff {mask : WeekMask} {qualifier : Option Qualifier} {first count : Nat} :
    RunsOut mask qualifier reference first (count + 1) ↔
      reference.today.Outruns first ∨ ¬ IsDueAfter mask qualifier reference first ∧
        RunsOut mask qualifier reference (first + 1) count := by
  constructor
  · rintro ⟨offset, bounds, outruns, noneDue⟩
    rcases Nat.lt_or_eq_of_le bounds.1 with behind | rfl
    · refine .inr ⟨noneDue first (Nat.le_refl _) behind, offset, by omega, outruns, ?_⟩
      intro earlier notBefore before
      exact noneDue earlier (by omega) before
    · exact .inl outruns
  · rintro (outruns | ⟨notDue, offset, bounds, outruns, noneDue⟩)
    · exact ⟨first, by omega, outruns, fun earlier notBefore before => by omega⟩
    · refine ⟨offset, by omega, outruns, fun earlier notBefore before => ?_⟩
      rcases Nat.lt_or_eq_of_le notBefore with behind | rfl
      · exact noneDue earlier behind before
      · exact notDue

/-- The search stops at the first day that is due or missing, whichever comes first. -/
theorem isDueWithin_outcome (mask : WeekMask) (qualifier : Option Qualifier) (reference : Reference)
    (first count : Nat) :
    (RunsOut mask qualifier reference first count ∧
      isDueWithin mask qualifier reference (List.range' first count) = .error .pastCalendar) ∨
    (¬ RunsOut mask qualifier reference first count ∧ Exists fun isDue =>
      isDueWithin mask qualifier reference (List.range' first count) = .ok isDue) := by
  induction count generalizing first with
  | zero =>
      refine .inr ⟨?_, false, rfl⟩
      rintro ⟨offset, bounds, -⟩
      omega
  | succ count inductionHypothesis =>
      rw [List.range'_succ, isDueWithin_cons, runsOut_succ_iff]
      cases looked : reference.today.addDays first with
      | none => exact .inl ⟨.inl (Date.addDays_eq_none_iff.mp looked), rfl⟩
      | some day =>
          have dueIff : (reference.today.addDays first).any
              (isDueOn mask qualifier reference first) = true ↔
                IsDueAfter mask qualifier reference first :=
            any_isDueOn_iff (Option.isSome_of_eq_some looked)
          rw [looked, Option.any_some] at dueIff
          simp only [Date.not_outruns_of_found looked, false_or, ← dueIff]
          cases isDueOn mask qualifier reference first day with
          | true => exact .inr ⟨fun runsOut => runsOut.1 rfl, true, rfl⟩
          | false => simpa using inductionHypothesis (first + 1)

theorem takesMissingDay_weekly_iff {mask : WeekMask} {qualifier : Option Qualifier}
    (pattern : reminder.pattern = .weekly mask qualifier) :
    reminder.TakesMissingDay reference lookahead ↔
      reference.IsOpen reminder.window ∧
        RunsOut mask qualifier reference 0 (lookahead.days + 1) := by
  constructor
  · rintro (⟨other⟩ | ⟨same, isOpen, near, outruns, noneDue⟩)
    · cases pattern.symm.trans other
    · cases pattern.symm.trans same
      exact ⟨isOpen, _, by omega, outruns, fun earlier _ before => noneDue earlier before⟩
  · rintro ⟨isOpen, offset, bounds, outruns, noneDue⟩
    exact .weekly pattern isOpen (by omega) outruns fun earlier => noneDue earlier (Nat.zero_le _)

/-- No day is looked up once the window has closed. -/
theorem evaluateWeekly_outcome (reminder : Reminder) (mask : WeekMask)
    (qualifier : Option Qualifier) (reference : Reference) (lookahead : Lookahead) :
    AnswersUnless reminder.source
      (reference.IsOpen reminder.window ∧ RunsOut mask qualifier reference 0 (lookahead.days + 1))
      (evaluateWeekly reminder mask qualifier reference lookahead) := by
  rw [← Reference.windowIsPast_eq_false_iff, evaluateWeekly, List.range_eq_range']
  cases reference.windowIsPast reminder.window with
  | true =>
      refine .answered ?_ (.inl ⟨_, rfl⟩)
      rintro ⟨impossible, -⟩
      cases impossible
  | false =>
      rcases isDueWithin_outcome mask qualifier reference 0 (lookahead.days + 1) with
        ⟨runsOut, searched⟩ | ⟨ends, isDue, searched⟩
      · refine .ended ⟨rfl, runsOut⟩ ?_
        rw [searched]
        rfl
      · refine .answered (fun missing => ends missing.2)
          (.inl ⟨⟨isDue, false, reference.today⟩, ?_⟩)
        rw [searched]
        rfl

/-! ## Reminders and reports -/

theorem evaluate_outcome (reminder : Reminder) (reference : Reference) (lookahead : Lookahead) :
    AnswersUnless reminder.source (reminder.TakesMissingDay reference lookahead)
      (reminder.evaluate reference lookahead) := by
  unfold Reminder.evaluate
  cases pattern : reminder.pattern with
  | specific year month day =>
      rw [takesMissingDay_specific_iff pattern]
      exact evaluateSpecific_outcome reminder year month day reference lookahead
  | weekly mask qualifier =>
      rw [takesMissingDay_weekly_iff pattern]
      exact evaluateWeekly_outcome reminder mask qualifier reference lookahead

/-- No day is missing if the calendar reaches to the end of the lookahead. -/
theorem Reminder.TakesMissingDay.outruns
    (missing : reminder.TakesMissingDay reference lookahead) :
    reference.today.Outruns lookahead.days := by
  cases missing with
  | specific pattern completes outruns => exact outruns
  | weekly pattern isOpen near outruns noneDue =>
      unfold Date.Outruns at outruns ⊢
      omega

/-- Where the calendar reaches to the end of the lookahead, only a date that does not exist can stop
a report. -/
theorem makeReport_isAnswer {options : ReportOptions}
    (reaches : ¬ reference.today.Outruns options.lookahead.days) (groups : List Group) :
    (Exists fun report => makeReport reference options groups = .ok report) ∨
      Exists fun group => Exists fun line => Exists fun year => Exists fun month =>
        Exists fun day => (group, line) ∈ linesInOrder groups ∧
          makeReport reference options groups =
            .error ⟨group, .noSuchDate line year month day⟩ := by
  rcases makeReport_outcome reference options groups with
    ⟨-, made⟩ | ⟨group, line, problem, ⟨before, after, split, -, reminder, found, judged⟩, made⟩
  · exact .inl ⟨_, made⟩
  · have isLine : reminder.source = line := (Reminder.inBounds_of_read found).2
    have answers := evaluate_outcome reminder reference options.lookahead
    rw [judged, isLine] at answers
    rcases answers.isAnswer fun missing => reaches missing.outruns with
      ⟨verdict, impossible⟩ | ⟨year, month, day, same⟩
    · cases impossible
    · cases same
      refine .inr ⟨group, line, year, month, day, ?_, made⟩
      rw [split]
      exact List.mem_append_right _ List.mem_cons_self

end

/-- Judging a line's reminder fails past the end of the calendar, exactly if it takes a day that is
missing there; otherwise there is a verdict, or the date of the line does not exist.  The bounds of
an ordinal's block fit into words.  So if the calendar reaches to the end of the lookahead, only a
line whose date does not exist keeps any groups from a report, whatever its width and limit. -/
theorem evaluation_fails_only_past_the_calendar (reference : Reference) (lookahead : Lookahead) :
    (forall (line : String) (reminder : Reminder), Reminder.read line = some reminder ->
      (reminder.evaluate reference lookahead = .error .pastCalendar ↔
        reminder.TakesMissingDay reference lookahead) ∧
      (¬ reminder.TakesMissingDay reference lookahead ->
        IsAnswer line (reminder.evaluate reference lookahead)) ∧
      forall (mask : WeekMask) (ordinal : Nat),
        reminder.pattern = .weekly mask (some (.nthInMonth ordinal)) ->
          inBlockOfWords ordinal reference.today.day = some (inBlock ordinal reference.today.day)) ∧
    (¬ reference.today.Outruns lookahead.days ->
      forall (groups : List Group) (limit : Option Nat) (width : Nat),
        (Exists fun report => makeReport reference ⟨lookahead, limit, width⟩ groups = .ok report) ∨
          Exists fun group => Exists fun line => Exists fun year => Exists fun month =>
            Exists fun day => (group, line) ∈ linesInOrder groups ∧
              makeReport reference ⟨lookahead, limit, width⟩ groups =
                .error ⟨group, .noSuchDate line year month day⟩) ∧
    forall (width : Nat) (limit : Option Nat) (entries : List Entry),
      listingOfSlice width limit entries = some (listingLines width limit entries) := by
  refine ⟨?_, fun reaches groups _ _ => makeReport_isAnswer reaches groups, listingOfSlice_eq⟩
  intro line reminder found
  rcases Reminder.inBounds_of_read found with ⟨bounds, rfl⟩
  have answers := evaluate_outcome reminder reference lookahead
  refine ⟨answers.pastCalendar_iff, answers.isAnswer, ?_⟩
  intro mask ordinal pattern
  have inBounds := bounds.pattern
  rw [pattern] at inBounds
  have ordinalBounds : 1 ≤ ordinal ∧ ordinal ≤ 5 := inBounds _ rfl
  rw [inBlockOfWords_eq, if_pos (by omega)]

/-- On the last Sunday of the calendar a lookahead of six days is too long for a date that is long
past, but not for a weekly pattern that is due on the day itself. -/
theorem last_sunday_of_the_calendar :
    let sunday : Reference := ⟨⟨262142, 12, 30, by decide, by decide⟩, 600, 52⟩
    let week : Lookahead := ⟨6, by decide⟩
    let tomorrow : Lookahead := ⟨1, by decide⟩
    let dentist : Reminder := ⟨2, .specific (.exact 2021) (.exact 3) (.exact 4), none, "Dentist",
      "2 2021.03.04 Dentist"⟩
    let review : Reminder := ⟨4, .weekly ⟨false, false, false, false, false, false, true⟩
      (some (.nthInMonth 5)), none, "Review", "4 S------[5] Review"⟩
    let groups : List Group := [⟨"home.txt", ["2 2021.03.04 Dentist", "4 S------[5] Review"]⟩]
    (Reminder.read "2 2021.03.04 Dentist" = some dentist ∧ dentist.TakesMissingDay sunday week ∧
      dentist.evaluate sunday week = .error .pastCalendar) ∧
    (Reminder.read "4 S------[5] Review" = some review ∧ ¬ review.TakesMissingDay sunday week ∧
      IsAnswer "4 S------[5] Review" (review.evaluate sunday week) ∧
      inBlockOfWords 5 30 = some (inBlock 5 30)) ∧
    ¬ sunday.today.Outruns tomorrow.days ∧
      ((Exists fun report => makeReport sunday ⟨tomorrow, none, 80⟩ groups = .ok report) ∨
        Exists fun group => Exists fun line => Exists fun year => Exists fun month =>
          Exists fun day => (group, line) ∈ linesInOrder groups ∧
            makeReport sunday ⟨tomorrow, none, 80⟩ groups =
              .error ⟨group, .noSuchDate line year month day⟩) := by
  intro sunday week tomorrow dentist review groups
  have foundDentist : Reminder.read "2 2021.03.04 Dentist" = some dentist := by rfl
  have foundReview : Reminder.read "4 S------[5] Review" = some review := by rfl
  rcases evaluation_fails_only_past_the_calendar sunday week with ⟨ofLines, -, -⟩
  rcases evaluation_fails_only_past_the_calendar sunday tomorrow with ⟨-, ofGroups, -⟩
  rcases ofLines _ _ foundDentist with ⟨dentistFails, -, -⟩
  rcases ofLines _ _ foundReview with ⟨-, reviewAnswers, reviewFits⟩
  have outruns : sunday.today.Outruns week.days := by
    show _ < _
    decide
  have resolved : completion sunday.today (.exact 2021) (.exact 3) (.exact 4) =
      some ⟨2021, 3, 4, by decide, by decide⟩ := by decide
  have dentistMissing : dentist.TakesMissingDay sunday week :=
    .specific rfl (completion_eq_some_iff.mp resolved) outruns
  have dueToday : IsDueAfter ⟨false, false, false, false, false, false, true⟩
      (some (.nthInMonth 5)) sunday 0 := by
    show _ ∧ _
    decide
  have reviewPresent : ¬ review.TakesMissingDay sunday week := by
    rw [takesMissingDay_weekly_iff rfl, runsOut_succ_iff]
    rintro ⟨-, missingToday | ⟨notDueToday, -⟩⟩
    · exact Date.not_outruns_of_found sunday.today.addDays_zero missingToday
    · exact notDueToday dueToday
  have reaches : ¬ sunday.today.Outruns tomorrow.days := by
    show ¬ _ < _
    decide
  exact ⟨⟨foundDentist, dentistMissing, dentistFails.mpr dentistMissing⟩,
    ⟨foundReview, reviewPresent, reviewAnswers reviewPresent, reviewFits _ _ rfl⟩,
    reaches, ofGroups reaches groups none 80⟩

end Reminders
