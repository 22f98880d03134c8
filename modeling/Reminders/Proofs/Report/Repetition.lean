import Reminders.Proofs.Report.Completeness

namespace Reminders

/-!
# Reports on what a report lists

An entry keeps the line that it was read from, and the line alone decides what it comes to.  So the
lines of listed entries are listed once more, as the same entries, and none of them is refused or
left unread.  The entries of a section are in order already, and sorting them again moves nothing.
Therefore a report on the lines that a report lists has the same sections and nothing beside them.
-/

/-- The group of the lines that the entries of a section were read from, in the order in which they
are listed. -/
def Section.listedGroup (part : Section) : Group :=
  ⟨part.name, part.entries.map fun entry => entry.reminder.source⟩

section

variable {reference : Reference} {lookahead : Lookahead}

/-! ## Listed lines -/

namespace Entry

/-- The line of an entry comes to the entry. -/
theorem ofLine_source {line : String} {entry : Entry}
    (listed : ofLine reference lookahead line = some entry) :
    ofLine reference lookahead entry.reminder.source = some entry := by
  rw [source_of_ofLine listed]
  exact listed

theorem not_refuses_of_ofLine {line : String} {entry : Entry}
    (listed : ofLine reference lookahead line = some entry) (problem : EvaluationError) :
    ¬ Refuses reference lookahead line problem := by
  rcases ofLine_eq_some_iff.mp listed with ⟨reminder, verdict, found, judged, -, -⟩
  rintro ⟨other, otherFound, refused⟩
  rw [found] at otherFound
  cases otherFound
  rw [judged] at refused
  cases refused

theorem isUnread_eq_false_of_ofLine {line : String} {entry : Entry}
    (listed : ofLine reference lookahead line = some entry) : isUnread line = false := by
  rcases ofLine_eq_some_iff.mp listed with ⟨reminder, verdict, found, -, -, -⟩
  rw [isUnread, found]
  rfl

/-- The lines of entries come to the entries, one after the other. -/
theorem filterMap_ofLine_sources {entries : List Entry}
    (listed : forall entry, entry ∈ entries ->
      ofLine reference lookahead entry.reminder.source = some entry) :
    (entries.map fun entry => entry.reminder.source).filterMap (ofLine reference lookahead) =
      entries := by
  induction entries with
  | nil => rfl
  | cons entry rest inductionHypothesis =>
      rw [List.map_cons, List.filterMap_cons_some (listed entry List.mem_cons_self),
        inductionHypothesis fun other member => listed other (List.mem_cons_of_mem entry member)]

/-- Entries in order stay as they are when they are sorted. -/
theorem sort_sort (entries : List Entry) : sort (sort entries) = sort entries :=
  List.mergeSort_of_pairwise (List.pairwise_mergeSort mayPrecede_trans mayPrecede_total entries)

end Entry

end

/-! ## Listed groups -/

section

variable {reference : Reference} {options : ReportOptions}

/-- The line of an entry of a section comes to the entry. -/
theorem Section.ofLine_source_of_mem {group : Group} {entry : Entry}
    (member : entry ∈ (Section.ofGroup reference options group).entries) :
    Entry.ofLine reference options.lookahead entry.reminder.source = some entry := by
  have found := (List.mergeSort_perm _ _).mem_iff.mp member
  rcases List.mem_filterMap.mp found with ⟨line, -, listed⟩
  exact Entry.ofLine_source listed

/-- A section is also the section of the lines that it lists. -/
theorem Section.ofGroup_listedGroup (group : Group) :
    Section.ofGroup reference options (Section.ofGroup reference options group).listedGroup =
      Section.ofGroup reference options group := by
  have listed : ((Section.ofGroup reference options group).listedGroup.lines.filterMap
      (Entry.ofLine reference options.lookahead)) =
      (Section.ofGroup reference options group).entries :=
    Entry.filterMap_ofLine_sources fun _ => Section.ofLine_source_of_mem
  have sorted : Entry.sort (Section.ofGroup reference options group).entries =
      (Section.ofGroup reference options group).entries := Entry.sort_sort _
  rw [Section.ofGroup, listed, sorted]
  rfl

/-- No listed line is unread. -/
theorem UnreadLine.ofGroup_listedGroup (group : Group) :
    UnreadLine.ofGroup (Section.ofGroup reference options group).listedGroup = [] := by
  have allRead :
      (Section.ofGroup reference options group).listedGroup.lines.filter isUnread = [] := by
    apply List.filter_eq_nil_iff.mpr
    intro line member
    rcases List.mem_map.mp member with ⟨entry, inSection, rfl⟩
    rw [Entry.isUnread_eq_false_of_ofLine (Section.ofLine_source_of_mem inSection)]
    exact Bool.false_ne_true
  rw [UnreadLine.ofGroup, allRead]
  rfl

/-- No listed line is refused. -/
theorem noRefusal_listedGroups (groups : List Group) :
    NoRefusal reference options.lookahead
      (linesInOrder
        ((groups.map (Section.ofGroup reference options)).map Section.listedGroup)) := by
  intro named member problem
  rcases List.mem_flatMap.mp member with ⟨listedGroup, isListed, inGroup⟩
  rcases List.mem_map.mp isListed with ⟨part, isSection, rfl⟩
  rcases List.mem_map.mp isSection with ⟨group, -, rfl⟩
  rcases List.mem_map.mp inGroup with ⟨line, isLine, rfl⟩
  rcases List.mem_map.mp isLine with ⟨entry, inSection, rfl⟩
  exact Entry.not_refuses_of_ofLine (Section.ofLine_source_of_mem inSection) problem

end

/-- Where groups make a report, the lines that it lists make a report with the same sections, in
which no line is unread. -/
theorem makeReport_of_listed_lines (groups : List Group) (reference : Reference)
    (options : ReportOptions) (report : Report)
    (made : makeReport reference options groups = .ok report) :
    makeReport reference options (report.sections.map Section.listedGroup) =
      .ok ⟨report.sections, []⟩ := by
  rcases makeReport_eq_ok_iff.mp made with ⟨-, rfl⟩
  refine makeReport_eq_ok_iff.mpr ⟨noRefusal_listedGroups groups, ?_⟩
  have sameSections :
      ((groups.map (Section.ofGroup reference options)).map Section.listedGroup).map
        (Section.ofGroup reference options) = groups.map (Section.ofGroup reference options) := by
    rw [List.map_map, List.map_map]
    apply List.map_congr_left
    intro group _
    exact Section.ofGroup_listedGroup group
  have noneUnread :
      ((groups.map (Section.ofGroup reference options)).map Section.listedGroup).flatMap
        UnreadLine.ofGroup = [] := by
    apply List.flatMap_eq_nil_iff.mpr
    intro listedGroup member
    rcases List.mem_map.mp member with ⟨part, isSection, rfl⟩
    rcases List.mem_map.mp isSection with ⟨group, -, rfl⟩
    exact UnreadLine.ofGroup_listedGroup group
  rw [Report.ofGroups, Report.ofGroups, sameSections, noneUnread]

/-- Of five lines two are listed, one of them beyond the limit.  The two that are unread and the one
that is dropped are not there to be read again. -/
theorem thursday_repeated :
    let groups : List Group := [⟨"home.txt", ["2 ????.03.05 Tomorrow", "Some day",
      "1 2021.04.01 Later", "3 2021.03.01:0800-0900 Missed"]⟩, ⟨"work.txt", ["None"]⟩]
    let reference : Reference := ⟨⟨2021, 3, 4, by decide, by decide⟩, 600, 9⟩
    let options : ReportOptions := ⟨⟨1, by decide⟩, some 1, 80⟩
    Exists fun report : Report =>
      makeReport reference options groups = .ok report ∧ report.unread.length = 2 ∧
        report.sections.map Section.listedGroup =
          [⟨"home.txt", ["3 2021.03.01:0800-0900 Missed", "2 ????.03.05 Tomorrow"]⟩,
            ⟨"work.txt", []⟩] ∧
        makeReport reference options (report.sections.map Section.listedGroup) =
          .ok ⟨report.sections, []⟩ := by
  intro groups reference options
  have made : makeReport reference options groups =
      .ok (Report.ofGroups reference options groups) :=
    makeReport_eq_ok_of_isOk (by decide +kernel)
  refine ⟨_, made, by decide +kernel, ?_,
    makeReport_of_listed_lines groups reference options _ made⟩
  rw [Report.ofGroups, Section.ofGroup_eq_insertionSort]
  decide +kernel

end Reminders
