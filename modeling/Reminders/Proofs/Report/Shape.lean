import Reminders.Proofs.Evaluation.Verdict
import Reminders.Proofs.Report.Completeness

namespace Reminders

/-!
# What stands in a section

Every entry of a report is there for a reason that can be read off it.  An overdue entry names one
day, and that day is past or its window has closed today.  Any other entry stands under a day of the
lookahead that its pattern allows; for a weekly one this is always today.

The entries stand in order: overdue ones first, and in both blocks by date, priority and start of
the window, entries without a window last.  That these come last needs the windows to be ones that
were read from a line, since the number that stands in for a missing window is then out of reach.
-/

/-- Why an entry is overdue: it names one day, and that day is over. -/
structure Entry.IsOverdueOn (entry : Entry) (reference : Reference) (date : Date) : Prop where
  named : Exists fun year => Exists fun month => Exists fun day =>
    entry.reminder.pattern = .specific (.exact year) (.exact month) (.exact day) ∧
      date.Agrees (.exact year) (.exact month) (.exact day)
  isOver : date < reference.today ∨ date = reference.today ∧
    Exists fun window => entry.reminder.window = some window ∧
      window.finish < reference.minuteOfDay

/-- Why an entry that is not overdue is listed: it stands under a day of the lookahead that its
pattern allows. -/
structure Entry.IsPendingOn (entry : Entry) (reference : Reference) (lookahead : Lookahead)
    (date : Date) : Prop where
  covered : lookahead.Covers reference.today date
  weekly : forall mask qualifier, entry.reminder.pattern = .weekly mask qualifier ->
    date = reference.today
  specific : forall year month day, entry.reminder.pattern = .specific year month day ->
    date.Agrees year month day

/-- How two entries of a section stand to each other, the first one being in front. -/
structure Entry.StandsBefore (first second : Entry) : Prop where
  overdue_of_overdue : second.overdue = true -> first.overdue = true
  date_le : first.overdue = second.overdue ->
    forall date other, first.displayDate = some date -> second.displayDate = some other ->
      date ≤ other
  priority_le : first.overdue = second.overdue -> first.displayDate = second.displayDate ->
    first.reminder.priority ≤ second.reminder.priority
  window_le : first.overdue = second.overdue -> first.displayDate = second.displayDate ->
    first.reminder.priority = second.reminder.priority ->
      forall window, second.reminder.window = some window ->
        Exists fun earlier => first.reminder.window = some earlier ∧ earlier.start ≤ window.start

namespace Entry

variable {reference : Reference} {lookahead : Lookahead}

/-! ## Reasons -/

theorem exists_window_of_windowIsPast {window : Option TimeWindow}
    (past : reference.windowIsPast window = true) :
    Exists fun closed => window = some closed ∧ closed.finish < reference.minuteOfDay := by
  cases window with
  | none => cases past
  | some closed => exact ⟨closed, rfl, of_decide_eq_true past⟩

theorem isOverdueOn_of_isFor {entry : Entry} {verdict : Verdict} {year month day : DateField}
    {date : Date} (pattern : entry.reminder.pattern = .specific year month day)
    (agrees : date.Agrees year month day)
    (isFor : verdict.IsFor reference lookahead entry.reminder.window
      (year.isWild || month.isWild || day.isWild) date)
    (overdue : verdict.overdue = true) : entry.IsOverdueOn reference date := by
  rw [isFor.overdue_eq, Bool.and_eq_true, Bool.not_eq_true', Bool.or_eq_false_iff,
    Bool.or_eq_false_iff] at overdue
  rcases overdue with ⟨⟨⟨fixedYear, fixedMonth⟩, fixedDay⟩, isOver⟩
  constructor
  · cases year with
    | wild => cases fixedYear
    | exact year =>
        cases month with
        | wild => cases fixedMonth
        | exact month =>
            cases day with
            | wild => cases fixedDay
            | exact day => exact ⟨year, month, day, pattern, agrees⟩
  · simp only [Reference.isOver, Bool.or_eq_true, Bool.and_eq_true, decide_eq_true_eq,
      beq_iff_eq] at isOver
    exact isOver.imp_right fun closed => ⟨closed.1, exists_window_of_windowIsPast closed.2⟩

/-- Every entry that a line comes to is listed for a reason. -/
theorem exists_reason_of_ofLine {line : String} {entry : Entry}
    (listed : ofLine reference lookahead line = some entry) :
    Exists fun date => entry.displayDate = some date ∧
      (entry.overdue = true -> entry.IsOverdueOn reference date) ∧
      (entry.overdue = false -> entry.IsPendingOn reference lookahead date) := by
  rcases ofLine_eq_some_iff.mp listed with ⟨reminder, verdict, -, judged, kept, rfl⟩
  refine ⟨verdict.displayDate, rfl, ?_⟩
  unfold Reminder.evaluate at judged
  cases pattern : reminder.pattern with
  | specific year month day =>
      simp only [pattern] at judged
      rcases evaluateSpecific_ok_cases judged with rfl | ⟨date, resolved, isFor⟩
      · cases kept
      · have agrees : date.Agrees year month day := agrees_of_resolved resolved
        rw [isFor.displayDate_eq]
        constructor
        · exact isOverdueOn_of_isFor pattern agrees isFor
        · intro notOverdue
          have covered := (isFor.keep_iff.mp kept).resolve_left (Bool.eq_false_iff.mp notOverdue)
          refine ⟨covered, ?_, ?_⟩
          · intro mask qualifier impossible
            cases pattern.symm.trans impossible
          · intro otherYear otherMonth otherDay same
            cases pattern.symm.trans same
            exact agrees
  | weekly mask qualifier =>
      simp only [pattern] at judged
      rcases evaluateWeekly_ok_cases judged with ⟨notOverdue, isToday⟩
      rw [isToday]
      constructor
      · intro overdue
        cases notOverdue.symm.trans overdue
      · intro _
        refine ⟨⟨Int.le_refl _, by omega⟩, fun _ _ _ => rfl, ?_⟩
        intro year month day impossible
        cases pattern.symm.trans impossible

/-! ## Order -/

/-- Places are compared field by field, and a later field counts only where the earlier ones
agree. -/
theorem standsBefore_of_place_le {first second : Entry} (placed : first.place ≤ second.place) :
    first.StandsBefore second := by
  simp only [place, Prod.Lex.toLex_le_toLex'] at placed
  have dates (sameBlock : first.overdue = second.overdue) := placed.2 (congrArg not sameBlock)
  have priorities (sameBlock : first.overdue = second.overdue)
      (sameDate : first.displayDate = second.displayDate) :=
    (dates sameBlock).2 (congrArg (Option.map Date.dayNumber) sameDate)
  refine ⟨?_, ?_, fun sameBlock sameDate => (priorities sameBlock sameDate).1, ?_⟩
  · intro overdue
    have block := placed.1
    rw [overdue] at block
    cases ahead : first.overdue with
    | true => rfl
    | false =>
        rw [ahead] at block
        exact absurd block (by decide)
  · intro sameBlock date other isDate isOther
    have inOrder := (dates sameBlock).1
    rw [isDate, isOther] at inOrder
    show date.dayNumber ≤ other.dayNumber
    exact WithBot.coe_le_coe.mp inOrder
  · intro sameBlock sameDate samePriority window isWindow
    have starts := (priorities sameBlock sameDate).2 samePriority
    rw [isWindow] at starts
    cases isFirst : first.reminder.window with
    | none =>
        rw [isFirst] at starts
        exact absurd starts (WithTop.not_top_le_coe window.start)
    | some earlier =>
        rw [isFirst] at starts
        exact ⟨earlier, rfl, WithTop.coe_le_coe.mp starts⟩

end Entry

/-- Every entry of a section stands there for a reason, and the entries stand in order. -/
theorem makeReport_sections_in_order (groups : List Group) (reference : Reference)
    (options : ReportOptions) (report : Report)
    (made : makeReport reference options groups = .ok report) (part : Section)
    (member : part ∈ report.sections) :
    (forall entry, entry ∈ part.entries ->
      Exists fun date => entry.displayDate = some date ∧
        (entry.overdue = true -> entry.IsOverdueOn reference date) ∧
        (entry.overdue = false -> entry.IsPendingOn reference options.lookahead date)) ∧
    part.entries.Pairwise Entry.StandsBefore := by
  rcases makeReport_eq_ok_iff.mp made with ⟨-, rfl⟩
  rcases List.mem_map.mp member with ⟨group, -, rfl⟩
  have sorts : Entry.IsListing (group.lines.filterMap (Entry.ofLine reference options.lookahead))
      (Section.ofGroup reference options group).entries :=
    (Entry.isListing_iff_eq_sort fun _ => Entry.opensInTime_of_mem_filterMap).mpr rfl
  constructor
  · intro entry inSection
    have found := sorts.permutes.mem_iff.mp inSection
    rcases List.mem_filterMap.mp found with ⟨line, -, listed⟩
    exact Entry.exists_reason_of_ofLine listed
  · exact sorts.ordered.imp Entry.standsBefore_of_place_le

/-- A section with entries of each kind: one is overdue, two are for today and one is for
tomorrow. -/
theorem thursday_in_order :
    let home : Group := ⟨"home.txt", ["2 ????.03.05 Tomorrow", "2 ----T-- Some time",
      "2 ----T--:1100-1200 Noon", "3 2021.03.04:0800-0900 Missed"]⟩
    let reference : Reference := ⟨⟨2021, 3, 4, by decide, by decide⟩, 600, 9⟩
    let options : ReportOptions := ⟨⟨1, by decide⟩, none, 80⟩
    Exists fun report : Report => Exists fun part : Section =>
      makeReport reference options [home] = .ok report ∧ part ∈ report.sections ∧
        part.texts = ["Missed", "Noon", "Some time", "Tomorrow"] ∧
        part.entries.map Entry.overdue = [true, false, false, false] ∧
        (forall entry, entry ∈ part.entries ->
          Exists fun date => entry.displayDate = some date ∧
            (entry.overdue = true -> entry.IsOverdueOn reference date) ∧
            (entry.overdue = false -> entry.IsPendingOn reference options.lookahead date)) ∧
        part.entries.Pairwise Entry.StandsBefore := by
  intro home reference options
  have made : makeReport reference options [home] =
      .ok (Report.ofGroups reference options [home]) :=
    makeReport_eq_ok_of_isOk (by decide +kernel)
  have member : Section.ofGroup reference options home ∈
      (Report.ofGroups reference options [home]).sections := List.mem_cons_self
  refine ⟨_, _, made, member, ?_, ?_,
    makeReport_sections_in_order [home] reference options _ made _ member⟩
  · rw [Section.ofGroup_eq_insertionSort]
    decide +kernel
  · rw [Section.ofGroup_eq_insertionSort]
    decide +kernel

end Reminders
