import Mathlib.Data.List.Forall2
import Reminders.Proofs.Entry.Listing
import Reminders.Proofs.Reminder.Bounds
import Reminders.Proofs.Report.Composition

namespace Reminders

/-!
# Nothing is lost on the way to a report

Each line of each group has exactly one of four fates.  It is refused, and the first refused line
stops the report; or no grammar matches it, and it is reported as unread; or it is listed in the
section of its own group; or it is a reminder that is not due.  A section lists an entry as often as
its line stands in the group, and lines of one place keep their order.
-/

/-- A window that was read from a line opens within a day, and so before the start that stands in
for no window. -/
theorem Entry.opensInTime_of_ofLine {reference : Reference} {lookahead : Lookahead} {line : String}
    {entry : Entry} (listed : Entry.ofLine reference lookahead line = some entry) :
    entry.OpensInTime := by
  rcases Entry.ofLine_eq_some_iff.mp listed with ⟨reminder, verdict, found, -, -, rfl⟩
  intro start isStart
  rcases Option.map_eq_some_iff.mp isStart with ⟨window, present, rfl⟩
  have startBound := ((Reminder.inBounds_of_read found).1.window window present).start_lt
  unfold untimedStart
  omega

theorem Entry.opensInTime_of_mem_filterMap {reference : Reference} {lookahead : Lookahead}
    {lines : List String} {entry : Entry}
    (member : entry ∈ lines.filterMap (Entry.ofLine reference lookahead)) : entry.OpensInTime := by
  rcases List.mem_filterMap.mp member with ⟨line, -, listed⟩
  exact Entry.opensInTime_of_ofLine listed

/-- An entry keeps the line that it was read from. -/
theorem Entry.source_of_ofLine {reference : Reference} {lookahead : Lookahead} {line : String}
    {entry : Entry} (listed : Entry.ofLine reference lookahead line = some entry) :
    entry.reminder.source = line := by
  rcases Entry.ofLine_eq_some_iff.mp listed with ⟨reminder, verdict, found, -, -, rfl⟩
  exact (Reminder.inBounds_of_read found).2

/-- The unread lines of all groups, in the order in which they are read. -/
theorem flatMap_unread_ofGroup (groups : List Group) :
    groups.flatMap UnreadLine.ofGroup =
      ((linesInOrder groups).filter fun entry => isUnread entry.2).map fun entry =>
        UnreadLine.mk entry.1 entry.2 := by
  induction groups with
  | nil => rfl
  | cons group rest inductionHypothesis =>
      simp only [linesInOrder, List.flatMap_cons, List.filter_append, List.map_append] at *
      rw [inductionHypothesis, UnreadLine.ofGroup, List.filter_map, List.map_map]
      rfl

/-- A section can be worked out entry by entry. -/
theorem Section.ofGroup_eq_insertionSort (reference : Reference) (options : ReportOptions) :
    Section.ofGroup reference options = fun group =>
      let entries := (group.lines.filterMap
        (Entry.ofLine reference options.lookahead)).insertionSort
          fun first second => Entry.mayPrecede first second = true
      ⟨group.name, listingLines options.width options.limit entries, entries⟩ := by
  funext group
  rw [Section.ofGroup, Entry.sort_eq_insertionSort]

/-- Each section lists what the lines of its group come to, and nothing else. -/
theorem forall_section_ofGroup (reference : Reference) (options : ReportOptions)
    (groups : List Group) :
    List.Forall₂ (fun group part => part.name = group.name ∧
      forall listed, Entry.IsListing
        (group.lines.filterMap (Entry.ofLine reference options.lookahead)) listed ↔
          listed = part.entries)
      groups (groups.map (Section.ofGroup reference options)) := by
  rw [List.forall₂_map_right_iff, List.forall₂_same]
  intro group _
  exact ⟨rfl, fun listed =>
    Entry.isListing_iff_eq_sort fun _ => Entry.opensInTime_of_mem_filterMap⟩

/-- If no line is refused the report has one section for each group, which is the listing of the
entries of that group, and reports each unread line.  Otherwise the first refused line stops the
report, under the name of its group; that this name stands around the cause just once is settled by
the type of the error. -/
theorem makeReport_loses_nothing (groups : List Group) (reference : Reference)
    (options : ReportOptions) :
    (NoRefusal reference options.lookahead (linesInOrder groups) ->
      Exists fun report : Report => makeReport reference options groups = .ok report ∧
        List.Forall₂ (fun group part => part.name = group.name ∧
          forall listed, Entry.IsListing
            (group.lines.filterMap (Entry.ofLine reference options.lookahead)) listed ↔
              listed = part.entries)
          groups report.sections ∧
        report.unread = ((linesInOrder groups).filter fun entry => isUnread entry.2).map
          fun entry => UnreadLine.mk entry.1 entry.2) ∧
    (¬ NoRefusal reference options.lookahead (linesInOrder groups) ->
      Exists fun group => Exists fun line => Exists fun problem =>
        FirstRefusal reference options.lookahead (linesInOrder groups) group line problem ∧
          makeReport reference options groups = .error ⟨group, problem⟩) := by
  rcases makeReport_outcome reference options groups with ⟨accepted, made⟩ | stopped
  · constructor
    · intro _
      exact ⟨_, made, forall_section_ofGroup reference options groups,
        flatMap_unread_ofGroup groups⟩
    · intro refused
      exact absurd accepted refused
  · constructor
    · intro accepted
      rcases stopped with ⟨group, line, problem, refusal, -⟩
      exact absurd accepted refusal.not_noRefusal
    · intro _
      exact stopped

end Reminders
