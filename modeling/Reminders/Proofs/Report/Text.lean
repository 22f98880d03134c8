import Reminders.Proofs.Report.Limit

namespace Reminders

/-!
# Reading the text of a report back

The text of a report is cut back into its sections in two steps: into lines at its newlines, and
into sections at its blank lines.  The first step is safe because no line holds a newline, and the
second because neither the name line of a section nor a line under it is blank.  Which of the lines
of a section is the name line is settled by its place.

Names are the only part of a report that is not laid out, so the names of groups have to be on one
line.  They may look like anything else.
-/

/-! ## Cutting a text -/

/-- The lines of a text of which every line is ended. -/
def endedLines (text : String) : List String :=
  ((text.toList.splitOn '\n').dropLast).map String.ofList

/-- The runs of lines between blank lines. -/
def runsOfLines (lines : List String) : List (List String) :=
  if lines.isEmpty then [] else (lines.splitOn "")

/-- The lines of the sections that a text shows. -/
def cutReport (text : String) : List (List String) := runsOfLines (endedLines text)

theorem toList_join_endLine (lines : List String) :
    (String.join (lines.map endLine)).toList =
      ['\n'].intercalate (lines.map String.toList ++ [[]]) := by
  induction lines with
  | nil => rfl
  | cons line rest inductionHypothesis =>
      rw [List.map_cons, String.join_cons, String.toList_append, inductionHypothesis, List.map_cons,
        List.cons_append, List.intercalate_cons_of_ne_nil (by simp)]
      simp [endLine]

theorem endedLines_join {lines : List String}
    (free : forall line, line ∈ lines -> IsOneLine line) :
    endedLines (String.join (lines.map endLine)) = lines := by
  have freeParts : forall part, part ∈ lines.map String.toList ++ [[]] -> '\n' ∉ part := by
    intro part member
    rcases List.mem_append.mp member with isLine | isEnd
    · rcases List.mem_map.mp isLine with ⟨line, inLines, rfl⟩
      exact free line inLines
    · rw [List.mem_singleton.mp isEnd]
      exact List.not_mem_nil
  rw [endedLines, toList_join_endLine, List.splitOn_intercalate '\n' freeParts (by simp),
    List.dropLast_concat, List.map_map]
  simp [Function.comp_def]

/-- Printing runs of lines with blank lines between them is printing all these lines. -/
theorem intercalate_join_endLine (runs : List (List String)) :
    "\n".intercalate (runs.map fun run => String.join (run.map endLine)) =
      String.join (([""].intercalate runs).map endLine) := by
  induction runs with
  | nil => rfl
  | cons run rest inductionHypothesis =>
      cases rest with
      | nil => simp
      | cons second others =>
          rw [List.map_cons, List.intercalate_cons_of_ne_nil (by simp), List.map_append,
            String.join_append, ← inductionHypothesis, List.map_cons, String.intercalate_cons_cons]
          simp [endLine, String.append_assoc]

/-- Between runs there are only blank lines. -/
theorem mem_intercalate_blank {runs : List (List String)} {line : String}
    (member : line ∈ [""].intercalate runs) :
    line = "" ∨ Exists fun run => run ∈ runs ∧ line ∈ run := by
  induction runs with
  | nil => cases member
  | cons run rest inductionHypothesis =>
      by_cases noRest : rest = []
      · subst noRest
        rw [List.intercalate_singleton] at member
        exact Or.inr ⟨run, List.mem_cons_self, member⟩
      · rw [List.intercalate_cons_of_ne_nil noRest, List.append_assoc] at member
        rcases List.mem_append.mp member with inRun | later
        · exact Or.inr ⟨run, List.mem_cons_self, inRun⟩
        · rcases List.mem_cons.mp later with isBlank | inRest
          · exact Or.inl isBlank
          · refine (inductionHypothesis inRest).imp_right ?_
            rintro ⟨other, isOther, inOther⟩
            exact ⟨other, List.mem_cons_of_mem run isOther, inOther⟩

theorem runsOfLines_intercalate {runs : List (List String)}
    (nonempty : forall run, run ∈ runs -> run ≠ []) (solid : forall run, run ∈ runs -> "" ∉ run) :
    runsOfLines ([""].intercalate runs) = runs := by
  unfold runsOfLines
  cases runs with
  | nil => rfl
  | cons run rest =>
      have notEmpty : ([""].intercalate (run :: rest)).isEmpty = false := by
        rw [List.isEmpty_eq_false_iff]
        intro empty
        by_cases noRest : rest = []
        · subst noRest
          rw [List.intercalate_singleton] at empty
          exact nonempty run List.mem_cons_self empty
        · rw [List.intercalate_cons_of_ne_nil noRest, List.append_assoc] at empty
          exact nonempty run List.mem_cons_self (List.append_eq_nil_iff.mp empty).1
      rw [notEmpty, if_neg Bool.false_ne_true]
      exact List.splitOn_intercalate "" solid (List.cons_ne_nil run rest)

/-- Runs of lines are found again in their text if no line is blank or holds a newline. -/
theorem cutReport_intercalate {runs : List (List String)}
    (nonempty : forall run, run ∈ runs -> run ≠ [])
    (free : forall run, run ∈ runs -> forall line, line ∈ run -> IsOneLine line ∧ line ≠ "") :
    cutReport ("\n".intercalate (runs.map fun run => String.join (run.map endLine))) = runs := by
  have freeLines : forall line, line ∈ [""].intercalate runs -> IsOneLine line := by
    intro line member
    rcases mem_intercalate_blank member with rfl | ⟨run, isRun, inRun⟩
    · decide
    · exact (free run isRun line inRun).1
  rw [intercalate_join_endLine, cutReport, endedLines_join freeLines]
  exact runsOfLines_intercalate nonempty fun run isRun inRun => (free run isRun "" inRun).2 rfl

/-! ## Lines of a report -/

namespace Section

theorem exists_toList_nameLine (name : String) :
    Exists fun rest => (nameLine name).toList = '=' :: rest := by
  simp only [nameLine, String.toList_append, List.append_assoc]
  exact ⟨_, rfl⟩

theorem nameLine_injective {first second : String} (same : nameLine first = nameLine second) :
    first = second := by
  rw [nameLine, nameLine, String.append_left_inj, String.append_right_inj] at same
  exact same

theorem isOneLine_nameLine {name : String} (isOneLine : IsOneLine name) :
    IsOneLine (nameLine name) := by
  have opening : IsOneLine "== " := by decide
  have closing : IsOneLine " ==" := by decide
  simp only [nameLine, isOneLine_append, opening, isOneLine, closing, and_self]

theorem nameLine_ne_empty (name : String) : nameLine name ≠ "" := by
  rcases exists_toList_nameLine name with ⟨rest, opens⟩
  intro empty
  rw [empty] at opens
  cases opens

end Section

theorem IsListingLine.ne_empty {line : String} (isLine : IsListingLine line) : line ≠ "" := by
  rintro rfl
  rcases isLine.opens with ⟨rest, impossible | impossible⟩
  · cases impossible
  · cases impossible

/-- A line of a listing is not the name line of any section. -/
theorem IsListingLine.ne_nameLine {line : String} (isLine : IsListingLine line) (name : String) :
    line ≠ Section.nameLine name := by
  rintro rfl
  rcases Section.exists_toList_nameLine name with ⟨nameRest, begins⟩
  rcases isLine.opens with ⟨rest, opens | opens⟩
  · rw [begins] at opens
    cases opens
  · rw [begins] at opens
    cases opens

/-! ## Whole reports -/

section

variable {groups : List Group} {reference : Reference} {options : ReportOptions} {report : Report}

theorem isListingLine_of_makeReport (made : makeReport reference options groups = .ok report)
    {part : Section} (member : part ∈ report.sections) {line : String}
    (inPart : line ∈ part.lines) : IsListingLine line := by
  rcases makeReport_eq_ok_iff.mp made with ⟨-, rfl⟩
  rcases List.mem_map.mp member with ⟨group, -, rfl⟩
  exact isListingLine_of_mem_listingLines inPart

theorem isOneLine_name_of_makeReport (made : makeReport reference options groups = .ok report)
    (named : forall group, group ∈ groups -> IsOneLine group.name) {part : Section}
    (member : part ∈ report.sections) : IsOneLine part.name := by
  rcases makeReport_eq_ok_iff.mp made with ⟨-, rfl⟩
  rcases List.mem_map.mp member with ⟨group, inGroups, rfl⟩
  exact named group inGroups

/-- The text of a report is cut back into its sections. -/
theorem cutReport_text (made : makeReport reference options groups = .ok report)
    (named : forall group, group ∈ groups -> IsOneLine group.name) :
    cutReport report.text = report.pendingSections.map Section.printedLines := by
  have printed : report.text = "\n".intercalate ((report.pendingSections.map
      Section.printedLines).map fun run => String.join (run.map endLine)) := by
    rw [List.map_map]
    rcases makeReport_eq_ok_iff.mp made with ⟨-, rfl⟩
    exact Report.text_ofGroups reference options groups
  rw [printed]
  apply cutReport_intercalate
  · intro run isRun
    rcases List.mem_map.mp isRun with ⟨part, -, rfl⟩
    exact List.cons_ne_nil _ _
  · intro run isRun line inRun
    rcases List.mem_map.mp isRun with ⟨part, isPending, rfl⟩
    have inReport := List.mem_of_mem_filter isPending
    rcases List.mem_cons.mp inRun with rfl | inPart
    · exact ⟨Section.isOneLine_nameLine (isOneLine_name_of_makeReport made named inReport),
        Section.nameLine_ne_empty part.name⟩
    · have isLine := isListingLine_of_makeReport made inReport inPart
      exact ⟨isLine.isOneLine, isLine.ne_empty⟩

end

/-- What a section shows of itself: its name and its lines. -/
def Section.shown (part : Section) : String × List String := (part.name, part.lines)

/-- Sections that print the same lines have the same name and the same lines under it. -/
theorem Section.shown_eq_of_printedLines_eq {first second : List Section}
    (same : first.map printedLines = second.map printedLines) :
    first.map shown = second.map shown := by
  have injective : Function.Injective fun pair : String × List String =>
      nameLine pair.1 :: pair.2 := by
    intro pair other samePair
    rcases List.cons.inj samePair with ⟨sameName, sameLines⟩
    exact Prod.ext (nameLine_injective sameName) sameLines
  apply List.map_injective_iff.mpr injective
  rwa [List.map_map, List.map_map]

/-- Reports that print the same text show the same sections.  The text is cut back at its newlines
and blank lines, because no line under a name holds a newline, is blank or is the name line of a
section, whatever the names and the texts of reminders are. -/
theorem report_text_is_unambiguous (groups others : List Group)
    (reference otherReference : Reference) (options otherOptions : ReportOptions)
    (report other : Report)
    (made : makeReport reference options groups = .ok report)
    (madeOther : makeReport otherReference otherOptions others = .ok other)
    (named : forall group, group ∈ groups -> IsOneLine group.name)
    (namedOther : forall group, group ∈ others -> IsOneLine group.name) :
    (report.text = other.text ->
      report.pendingSections.map Section.shown = other.pendingSections.map Section.shown) ∧
    cutReport report.text = report.pendingSections.map Section.printedLines ∧
    (forall part, part ∈ report.sections -> forall line, line ∈ part.lines ->
      IsOneLine line ∧ line ≠ "" ∧ forall name, line ≠ Section.nameLine name) := by
  have cut := cutReport_text made named
  refine ⟨?_, cut, ?_⟩
  · intro same
    apply Section.shown_eq_of_printedLines_eq
    rw [← cut, same, cutReport_text madeOther namedOther]
  · intro part member line inPart
    have isLine := isListingLine_of_makeReport made member inPart
    exact ⟨isLine.isOneLine, isLine.ne_empty, isLine.ne_nameLine⟩

/-- A name and texts that look like name lines, a text with a blank line in it, and a further group
with nothing to show. -/
theorem lookalike_sections_shown :
    let home : Group := ⟨"home ==", ["1 2021.03.04 == work ==", "2 2021.03.04 Two\n\n== lines =="]⟩
    let work : Group := ⟨"work", ["== work =="]⟩
    let morning : Reference := ⟨⟨2021, 3, 4, by decide, by decide⟩, 480, 9⟩
    let evening : Reference := ⟨⟨2021, 3, 4, by decide, by decide⟩, 1200, 9⟩
    let today : ReportOptions := ⟨⟨0, by decide⟩, none, 80⟩
    let thisWeek : ReportOptions := ⟨⟨6, by decide⟩, none, 80⟩
    Exists fun report : Report => Exists fun other : Report =>
      makeReport morning today [home] = .ok report ∧
        makeReport evening thisWeek [home, work] = .ok other ∧
        report.text = other.text ∧
        report.pendingSections.map Section.shown = other.pendingSections.map Section.shown := by
  intro home work morning evening today thisWeek
  have made : makeReport morning today [home] = .ok (Report.ofGroups morning today [home]) :=
    makeReport_eq_ok_of_isOk (by decide +kernel)
  have madeOther : makeReport evening thisWeek [home, work] =
      .ok (Report.ofGroups evening thisWeek [home, work]) :=
    makeReport_eq_ok_of_isOk (by decide +kernel)
  have samePending : (Report.ofGroups morning today [home]).pendingSections =
      (Report.ofGroups evening thisWeek [home, work]).pendingSections := by
    simp only [Report.ofGroups, Section.ofGroup_eq_insertionSort]
    decide +kernel
  have same : (Report.ofGroups morning today [home]).text =
      (Report.ofGroups evening thisWeek [home, work]).text := by
    rw [Report.text_ofGroups, Report.text_ofGroups, samePending]
  have named : forall group, group ∈ [home] -> IsOneLine group.name := by decide
  have namedOther : forall group, group ∈ [home, work] -> IsOneLine group.name := by decide
  exact ⟨_, _, made, madeOther, same,
    (report_text_is_unambiguous [home] [home, work] morning evening today thisWeek _ _ made
      madeOther named namedOther).1 same⟩

end Reminders
