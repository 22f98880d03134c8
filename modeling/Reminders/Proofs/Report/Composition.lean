import Reminders.Report

namespace Reminders

/-!
# What a report is made of

A report is read off its groups one line at a time, and no line looks at another.  So there are two
ways for it to come out.  If no line is refused, each section lists what the lines of its group
come to, and the unread lines stand beside the sections.  Otherwise the first refused line decides,
and nothing of the lines behind it shows.

The order in which lines are read is fixed once, by `linesInOrder`: group after group, and
inside a group line after line.
-/

/-- The lines of groups in the order in which they are read, each with the name of its group. -/
def linesInOrder (groups : List Group) : List (String × String) :=
  groups.flatMap fun group => group.lines.map (Prod.mk group.name)

/-! ## Single lines -/

/-- A line is a reminder, and the reminder has no verdict. -/
def Refuses (reference : Reference) (lookahead : Lookahead) (line : String)
    (problem : EvaluationError) : Prop :=
  Exists fun reminder : Reminder => Reminder.read line = some reminder ∧
    reminder.evaluate reference lookahead = .error problem

/-- The entry that a line comes to, if it is a reminder that is to be listed: the reminder as it was
read, with the two answers of its verdict. -/
def Entry.ofLine (reference : Reference) (lookahead : Lookahead) (line : String) : Option Entry :=
  (Reminder.read line).bind fun reminder =>
    match reminder.evaluate reference lookahead with
    | .ok verdict =>
        if verdict.keep then some ⟨reminder, verdict.overdue, some verdict.displayDate⟩ else none
    | .error _ => none

/-- Whether no grammar matches a line. -/
def isUnread (line : String) : Bool := (Reminder.read line).isNone

variable {reference : Reference} {lookahead : Lookahead}

theorem Entry.ofLine_eq_some_iff {line : String} {entry : Entry} :
    Entry.ofLine reference lookahead line = some entry ↔
      Exists fun reminder : Reminder => Exists fun verdict : Verdict =>
        Reminder.read line = some reminder ∧ reminder.evaluate reference lookahead = .ok verdict ∧
          verdict.keep = true ∧
          entry = ⟨reminder, verdict.overdue, some verdict.displayDate⟩ := by
  simp only [Entry.ofLine, Option.bind_eq_some_iff]
  constructor
  · rintro ⟨reminder, found, kept⟩
    cases judged : reminder.evaluate reference lookahead with
    | error problem =>
        rw [judged] at kept
        cases kept
    | ok verdict =>
        simp only [judged, Option.ite_none_right_eq_some, Option.some.injEq] at kept
        exact ⟨reminder, verdict, found, judged, kept.1, kept.2.symm⟩
  · rintro ⟨reminder, verdict, found, judged, kept, rfl⟩
    refine ⟨reminder, found, ?_⟩
    simp only [judged, kept, if_true]

theorem judgeLine_eq_error_iff {line : String} {problem : EvaluationError} :
    judgeLine reference lookahead line = .error problem ↔
      Refuses reference lookahead line problem := by
  unfold judgeLine Refuses
  cases found : Reminder.read line with
  | none =>
      constructor
      · intro impossible
        cases impossible
      · rintro ⟨_, impossible, _⟩
        cases impossible
  | some reminder =>
      cases judged : reminder.evaluate reference lookahead with
      | error other => simp [judged]
      | ok verdict => simp [judged]

/-- A line that is not refused has an outcome, and the outcome says of the line whether it is listed
and whether it was read. -/
theorem exists_judgeLine_eq_ok {line : String}
    (accepted : forall problem, ¬ Refuses reference lookahead line problem) :
    Exists fun outcome : LineOutcome => judgeLine reference lookahead line = .ok outcome ∧
      outcome.entry = Entry.ofLine reference lookahead line ∧
      outcome.unreadLine = if isUnread line then some line else none := by
  cases judged : judgeLine reference lookahead line with
  | error problem => exact absurd (judgeLine_eq_error_iff.mp judged) (accepted problem)
  | ok outcome =>
      refine ⟨outcome, rfl, ?_⟩
      unfold judgeLine at judged
      unfold Entry.ofLine isUnread
      cases found : Reminder.read line with
      | none =>
          rw [found] at judged
          cases judged
          exact ⟨rfl, rfl⟩
      | some reminder =>
          simp only [found] at judged
          simp only [Option.bind_some]
          cases evaluated : reminder.evaluate reference lookahead with
          | error problem =>
              simp only [evaluated] at judged
              cases judged
          | ok verdict =>
              simp only [evaluated] at judged
              cases judged
              cases keep : verdict.keep <;>
                simp only [keep, Bool.false_eq_true, if_false, if_true] <;> exact ⟨rfl, rfl⟩

/-! ## The first refused line -/

/-- A line is the first of a series that is refused. -/
def FirstRefusal (reference : Reference) (lookahead : Lookahead) (lines : List (String × String))
    (group line : String) (problem : EvaluationError) : Prop :=
  Exists fun before => Exists fun after => lines = before ++ (group, line) :: after ∧
    (forall earlier, earlier ∈ before ->
      forall other, ¬ Refuses reference lookahead earlier.2 other) ∧
    Refuses reference lookahead line problem

/-- No line of a series is refused. -/
def NoRefusal (reference : Reference) (lookahead : Lookahead) (lines : List (String × String)) :
    Prop :=
  forall entry, entry ∈ lines -> forall problem, ¬ Refuses reference lookahead entry.2 problem

namespace FirstRefusal

variable {first rest : List (String × String)} {group line : String} {problem : EvaluationError}

theorem not_noRefusal {lines : List (String × String)}
    (refusal : FirstRefusal reference lookahead lines group line problem) :
    ¬ NoRefusal reference lookahead lines := by
  rcases refusal with ⟨before, after, rfl, -, refused⟩
  intro accepted
  exact accepted (group, line) (List.mem_append_right _ List.mem_cons_self) problem refused

/-- Lines that follow do not matter. -/
theorem append (refusal : FirstRefusal reference lookahead first group line problem) :
    FirstRefusal reference lookahead (first ++ rest) group line problem := by
  rcases refusal with ⟨before, after, rfl, accepted, refused⟩
  exact ⟨before, after ++ rest, by rw [List.append_assoc, List.cons_append], accepted, refused⟩

/-- Lines that are not refused may come before. -/
theorem prepend (accepted : NoRefusal reference lookahead first)
    (refusal : FirstRefusal reference lookahead rest group line problem) :
    FirstRefusal reference lookahead (first ++ rest) group line problem := by
  rcases refusal with ⟨before, after, rfl, acceptedLater, refused⟩
  refine ⟨first ++ before, after, by rw [List.append_assoc], ?_, refused⟩
  intro earlier member
  rcases List.mem_append.mp member with inFirst | inBefore
  · exact accepted earlier inFirst
  · exact acceptedLater earlier inBefore

/-- Of two refused lines the one in front of the other is not skipped. -/
private theorem not_behind {lines before after between later : List (String × String)}
    (refused : Refuses reference lookahead line problem)
    (accepted : forall other, other ∈ before ->
      forall cause, ¬ Refuses reference lookahead other.2 cause)
    (longer : before = lines ++ between) (split : (group, line) :: after = between ++ later) :
    between = [] := by
  cases between with
  | nil => rfl
  | cons head tail =>
      cases split
      have member : (group, line) ∈ before := by
        rw [longer]
        exact List.mem_append_right _ List.mem_cons_self
      exact absurd refused (accepted (group, line) member problem)

/-- There is only one first refused line. -/
theorem unique {lines : List (String × String)} {otherGroup otherLine : String}
    {otherProblem : EvaluationError}
    (refusal : FirstRefusal reference lookahead lines group line problem)
    (other : FirstRefusal reference lookahead lines otherGroup otherLine otherProblem) :
    group = otherGroup ∧ line = otherLine ∧ problem = otherProblem := by
  rcases refusal with ⟨before, after, rfl, accepted, refused⟩
  rcases other with ⟨otherBefore, otherAfter, split, otherAccepted, otherRefused⟩
  have same : (group, line) = (otherGroup, otherLine) := by
    rcases List.append_eq_append_iff.mp split with ⟨between, longer, rest⟩ | ⟨between, longer, rest⟩
    · rw [not_behind refused otherAccepted longer rest] at rest
      exact (List.cons.inj rest).1
    · rw [not_behind otherRefused accepted longer rest] at rest
      exact (List.cons.inj rest).1.symm
  cases same
  refine ⟨rfl, rfl, ?_⟩
  rcases refused with ⟨reminder, found, judged⟩
  rcases otherRefused with ⟨otherReminder, otherFound, otherJudged⟩
  rw [found] at otherFound
  cases otherFound
  rw [judged] at otherJudged
  exact Except.error.inj otherJudged

end FirstRefusal

/-- What the lines of one group come to. -/
theorem judgeLines_outcome (reference : Reference) (lookahead : Lookahead) (name : String)
    (lines : List String) :
    (NoRefusal reference lookahead (lines.map (Prod.mk name)) ∧
      Exists fun outcomes : List LineOutcome =>
        judgeLines reference lookahead lines = .ok outcomes ∧
        outcomes.filterMap LineOutcome.entry = lines.filterMap (Entry.ofLine reference lookahead) ∧
        outcomes.filterMap LineOutcome.unreadLine = lines.filter isUnread) ∨
    (Exists fun line => Exists fun problem =>
      FirstRefusal reference lookahead (lines.map (Prod.mk name)) name line problem ∧
        judgeLines reference lookahead lines = .error problem) := by
  induction lines with
  | nil =>
      left
      refine ⟨?_, [], rfl, rfl, rfl⟩
      intro entry member
      cases member
  | cons line rest inductionHypothesis =>
      rw [List.map_cons, ← List.singleton_append]
      cases judged : judgeLine reference lookahead line with
      | error problem =>
          right
          refine ⟨line, problem, FirstRefusal.append ⟨[], [], rfl, ?_, ?_⟩, ?_⟩
          · intro earlier member
            cases member
          · exact judgeLine_eq_error_iff.mp judged
          · rw [judgeLines, judged]
      | ok outcome =>
          have accepted : forall problem, ¬ Refuses reference lookahead line problem := by
            intro problem refused
            rw [judgeLine_eq_error_iff.mpr refused] at judged
            cases judged
          have acceptedFirst : NoRefusal reference lookahead [(name, line)] := by
            intro entry member
            rw [List.mem_singleton.mp member]
            exact accepted
          rcases inductionHypothesis with
            ⟨acceptedRest, outcomes, judgedRest, listed, unread⟩ | refusal
          · left
            rcases exists_judgeLine_eq_ok accepted with ⟨same, isJudged, entry, unreadLine⟩
            rw [judged] at isJudged
            cases isJudged
            refine ⟨?_, outcome :: outcomes, by rw [judgeLines, judged, judgedRest], ?_, ?_⟩
            · intro other member
              rcases List.mem_append.mp member with isFirst | later
              · exact acceptedFirst other isFirst
              · exact acceptedRest other later
            · rw [List.filterMap_cons, List.filterMap_cons, entry, listed]
            · rw [List.filterMap_cons, List.filter_cons, unreadLine, unread]
              cases isUnread line <;> rfl
          · right
            rcases refusal with ⟨later, problem, refusal, judgedRest⟩
            refine ⟨later, problem, refusal.prepend acceptedFirst, ?_⟩
            rw [judgeLines, judged, judgedRest]

/-! ## Whole reports -/

/-- The section that lists the entries of a group. -/
def Section.ofGroup (reference : Reference) (options : ReportOptions) (group : Group) : Section :=
  let entries := Entry.sort (group.lines.filterMap (Entry.ofLine reference options.lookahead))
  ⟨group.name, listingLines options.width options.limit entries, entries⟩

/-- The texts of the reminders that a section lists. -/
def Section.texts (part : Section) : List String :=
  part.entries.map fun entry => entry.reminder.text

/-- The lines of a group that no grammar matches. -/
def UnreadLine.ofGroup (group : Group) : List UnreadLine :=
  (group.lines.filter isUnread).map (UnreadLine.mk group.name)

/-- The report on groups of which no line is refused. -/
def Report.ofGroups (reference : Reference) (options : ReportOptions) (groups : List Group) :
    Report :=
  ⟨groups.map (Section.ofGroup reference options), groups.flatMap UnreadLine.ofGroup⟩

/-- There is a section for each group, under the name of the group. -/
theorem Report.names_ofGroups (reference : Reference) (options : ReportOptions)
    (groups : List Group) :
    (Report.ofGroups reference options groups).sections.map Section.name =
      groups.map Group.name := by
  rw [Report.ofGroups, List.map_map]
  rfl

variable {options : ReportOptions}

/-- Either no line is refused and the report lists everything, or the first refused line stops
it. -/
theorem makeReport_outcome (reference : Reference) (options : ReportOptions)
    (groups : List Group) :
    (NoRefusal reference options.lookahead (linesInOrder groups) ∧
      makeReport reference options groups = .ok (Report.ofGroups reference options groups)) ∨
    (Exists fun group => Exists fun line => Exists fun problem =>
      FirstRefusal reference options.lookahead (linesInOrder groups) group line problem ∧
        makeReport reference options groups = .error ⟨group, problem⟩) := by
  induction groups with
  | nil =>
      left
      refine ⟨?_, rfl⟩
      intro entry member
      cases member
  | cons group rest inductionHypothesis =>
      rw [show linesInOrder (group :: rest) =
        group.lines.map (Prod.mk group.name) ++ linesInOrder rest from rfl]
      rcases judgeLines_outcome reference options.lookahead group.name group.lines with
        ⟨accepted, outcomes, judged, listed, unread⟩ | ⟨line, problem, refusal, judged⟩
      · rcases inductionHypothesis with ⟨acceptedRest, made⟩ | ⟨name, line, problem, refusal, made⟩
        · left
          constructor
          · intro other member
            rcases List.mem_append.mp member with inGroup | later
            · exact accepted other inGroup
            · exact acceptedRest other later
          · rw [makeReport, judged, made]
            simp only [sectionOf, listed, unread]
            rfl
        · right
          exact ⟨name, line, problem, refusal.prepend accepted, by rw [makeReport, judged, made]⟩
      · right
        exact ⟨group.name, line, problem, refusal.append, by rw [makeReport, judged]⟩

theorem makeReport_eq_ok_iff {groups : List Group} {report : Report} :
    makeReport reference options groups = .ok report ↔
      NoRefusal reference options.lookahead (linesInOrder groups) ∧
        report = Report.ofGroups reference options groups := by
  rcases makeReport_outcome reference options groups with
    ⟨accepted, made⟩ | ⟨group, line, problem, refusal, made⟩
  · simp only [made, accepted, true_and, Except.ok.injEq, eq_comm]
  · simp only [made, refusal.not_noRefusal, false_and, reduceCtorEq]

/-- Where there is a report, what it is made of can be told from its groups. -/
theorem makeReport_eq_ok_of_isOk {groups : List Group}
    (accepted : (makeReport reference options groups).isOk = true) :
    makeReport reference options groups = .ok (Report.ofGroups reference options groups) := by
  cases made : makeReport reference options groups with
  | error problem =>
      rw [made] at accepted
      cases accepted
  | ok report => rw [(makeReport_eq_ok_iff.mp made).2]

theorem makeReport_eq_error_iff {groups : List Group} {problem : ReportError} :
    makeReport reference options groups = .error problem ↔
      Exists fun line =>
        FirstRefusal reference options.lookahead (linesInOrder groups) problem.group line
          problem.cause := by
  rcases makeReport_outcome reference options groups with
    ⟨accepted, made⟩ | ⟨group, line, cause, refusal, made⟩
  · rw [made]
    constructor
    · intro impossible
      cases impossible
    · rintro ⟨line, refusal⟩
      exact absurd accepted refusal.not_noRefusal
  · rw [made]
    constructor
    · intro same
      cases same
      exact ⟨line, refusal⟩
    · rintro ⟨otherLine, otherRefusal⟩
      rcases refusal.unique otherRefusal with ⟨rfl, -, rfl⟩
      rfl

end Reminders
