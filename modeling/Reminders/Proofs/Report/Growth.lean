import Reminders.Proofs.Evaluation.Verdict
import Reminders.Proofs.Report.Completeness

namespace Reminders

/-!
# Reports under a longer lookahead

A longer lookahead lists more entries and changes nothing else.  The same lines are refused and the
same are unread; an entry that a shorter lookahead lists is listed by a longer one as well, in the
same words; and an overdue entry is listed under any lookahead.

So the entries under the shorter lookahead are those under the longer one with some left out.  Which
ones can be told from the entry, because an entry keeps its line, and therefore leaving out
commutes with sorting.
-/

section

variable {reference : Reference} {shorter longer : Lookahead}

/-! ## Single lines -/

theorem refuses_iff_of_longer (ordered : shorter.days ≤ longer.days)
    (reaches : (reference.today.addDays longer.days).isSome) {line : String}
    {problem : EvaluationError} :
    Refuses reference shorter line problem ↔ Refuses reference longer line problem := by
  unfold Refuses
  apply exists_congr
  intro reminder
  apply and_congr_right
  intro _
  rcases evaluate_growsTo reminder ordered reaches with
    ⟨other, refused, refusedToo⟩ | ⟨first, second, judged, judgedToo, -⟩
  · rw [refused, refusedToo]
  · rw [judged, judgedToo]
    constructor
    · intro impossible
      cases impossible
    · intro impossible
      cases impossible

namespace Entry

/-- What a shorter lookahead lists, a longer one lists as well. -/
theorem ofLine_of_shorter (ordered : shorter.days ≤ longer.days)
    (reaches : (reference.today.addDays longer.days).isSome) {line : String} {entry : Entry}
    (listed : ofLine reference shorter line = some entry) :
    ofLine reference longer line = some entry := by
  rcases ofLine_eq_some_iff.mp listed with ⟨reminder, verdict, found, judged, kept, rfl⟩
  rcases evaluate_growsTo reminder ordered reaches with
    ⟨other, refused, -⟩ | ⟨first, second, judgedFirst, judgedSecond, grows⟩
  · rw [judged] at refused
    cases refused
  · rw [judged] at judgedFirst
    cases judgedFirst
    refine ofLine_eq_some_iff.mpr
      ⟨reminder, second, found, judgedSecond, grows.keep_of_keep kept, ?_⟩
    rw [grows.overdue_eq, grows.displayDate_eq]

/-- What is overdue under a longer lookahead is listed by a shorter one as well. -/
theorem ofLine_of_overdue (ordered : shorter.days ≤ longer.days)
    (reaches : (reference.today.addDays longer.days).isSome) {line : String} {entry : Entry}
    (listed : ofLine reference longer line = some entry) (overdue : entry.overdue = true) :
    ofLine reference shorter line = some entry := by
  rcases ofLine_eq_some_iff.mp listed with ⟨reminder, verdict, found, judged, -, rfl⟩
  rcases evaluate_growsTo reminder ordered reaches with
    ⟨other, -, refused⟩ | ⟨first, second, judgedFirst, judgedSecond, grows⟩
  · rw [judged] at refused
    cases refused
  · rw [judged] at judgedSecond
    cases judgedSecond
    refine ofLine_eq_some_iff.mpr
      ⟨reminder, first, found, judgedFirst, grows.keep_of_overdue overdue, ?_⟩
    rw [grows.overdue_eq, grows.displayDate_eq]

/-- Whether a lookahead lists the line that an entry was read from. -/
def isListed (reference : Reference) (lookahead : Lookahead) (entry : Entry) : Bool :=
  (ofLine reference lookahead entry.reminder.source).isSome

theorem ofLine_eq_filter (ordered : shorter.days ≤ longer.days)
    (reaches : (reference.today.addDays longer.days).isSome) (line : String) :
    ofLine reference shorter line =
      (ofLine reference longer line).filter (isListed reference shorter) := by
  apply Option.ext
  intro entry
  rw [Option.filter_eq_some_iff]
  constructor
  · intro listed
    refine ⟨ofLine_of_shorter ordered reaches listed, ?_⟩
    rw [isListed, source_of_ofLine listed, listed]
    rfl
  · rintro ⟨listed, listedToo⟩
    rw [isListed, source_of_ofLine listed] at listedToo
    rcases Option.isSome_iff_exists.mp listedToo with ⟨other, isOther⟩
    have same := ofLine_of_shorter ordered reaches isOther
    rw [listed] at same
    cases same
    exact isOther

/-! ## Sections -/

theorem sort_ofLine_eq_filter (ordered : shorter.days ≤ longer.days)
    (reaches : (reference.today.addDays longer.days).isSome) (lines : List String) :
    sort (lines.filterMap (ofLine reference shorter)) =
      (sort (lines.filterMap (ofLine reference longer))).filter (isListed reference shorter) := by
  rw [← sort_filter fun _ => opensInTime_of_mem_filterMap, List.filter_filterMap]
  simp only [← ofLine_eq_filter ordered reaches]

/-- Leaving out what a shorter lookahead does not list leaves the overdue entries. -/
theorem filter_overdue_sort_ofLine (ordered : shorter.days ≤ longer.days)
    (reaches : (reference.today.addDays longer.days).isSome) (lines : List String) :
    (sort (lines.filterMap (ofLine reference shorter))).filter Entry.overdue =
      (sort (lines.filterMap (ofLine reference longer))).filter Entry.overdue := by
  rw [sort_ofLine_eq_filter ordered reaches, List.filter_filter]
  apply List.filter_congr
  intro entry member
  have found := (List.mergeSort_perm _ _).mem_iff.mp member
  rcases List.mem_filterMap.mp found with ⟨line, -, listed⟩
  cases overdue : entry.overdue with
  | false => rfl
  | true =>
      have listedToo := ofLine_of_overdue ordered reaches listed overdue
      rw [isListed, source_of_ofLine listed, listedToo]
      rfl

end Entry

end

/-- Under a longer lookahead the same line stops the report, or the report has the same unread
lines, and each section lists all entries of the shorter lookahead in the same order and no other
overdue ones. -/
theorem makeReport_grows_with_lookahead (groups : List Group) (reference : Reference)
    (shorter longer : Lookahead) (limit : Option Nat) (width : Nat)
    (ordered : shorter.days ≤ longer.days)
    (reaches : (reference.today.addDays longer.days).isSome) :
    (Exists fun problem : ReportError =>
      makeReport reference ⟨shorter, limit, width⟩ groups = .error problem ∧
        makeReport reference ⟨longer, limit, width⟩ groups = .error problem) ∨
    (Exists fun first : Report => Exists fun second : Report =>
      makeReport reference ⟨shorter, limit, width⟩ groups = .ok first ∧
        makeReport reference ⟨longer, limit, width⟩ groups = .ok second ∧
        first.unread = second.unread ∧
        first.sections.map Section.name = groups.map Group.name ∧
        List.Forall₂ (fun narrow wide => narrow.name = wide.name ∧
          narrow.entries.Sublist wide.entries ∧
          narrow.entries.filter Entry.overdue = wide.entries.filter Entry.overdue)
          first.sections second.sections) := by
  rcases makeReport_outcome reference ⟨shorter, limit, width⟩ groups with
    ⟨accepted, made⟩ | ⟨group, line, problem, refusal, stopped⟩
  · right
    have acceptedToo : NoRefusal reference longer (linesInOrder groups) := by
      intro entry member problem refused
      exact accepted entry member problem ((refuses_iff_of_longer ordered reaches).mpr refused)
    refine ⟨_, _, made, makeReport_eq_ok_iff.mpr ⟨acceptedToo, rfl⟩, rfl, ?_, ?_⟩
    · exact Report.names_ofGroups reference _ groups
    · rw [Report.ofGroups, Report.ofGroups, List.forall₂_map_left_iff, List.forall₂_map_right_iff,
        List.forall₂_same]
      intro group _
      refine ⟨rfl, ?_, Entry.filter_overdue_sort_ofLine ordered reaches group.lines⟩
      simp only [Section.ofGroup, Entry.sort_ofLine_eq_filter ordered reaches]
      exact List.filter_sublist
  · left
    refine ⟨_, stopped, makeReport_eq_error_iff.mpr ⟨line, ?_⟩⟩
    simp only [FirstRefusal, refuses_iff_of_longer ordered reaches] at refusal
    exact refusal

/-- What is due tomorrow joins what is overdue, and a line that is no reminder stays unread. -/
theorem tomorrow_is_added :
    let groups : List Group :=
      [⟨"home.txt", ["2 2021.03.05 Tomorrow", "Some day", "1 2021.03.03 Yesterday"]⟩]
    let reference : Reference := ⟨⟨2021, 3, 4, by decide, by decide⟩, 600, 9⟩
    let today : Lookahead := ⟨0, by decide⟩
    let tomorrow : Lookahead := ⟨1, by decide⟩
    today.days ≤ tomorrow.days ∧ (reference.today.addDays tomorrow.days).isSome ∧
      Exists fun first : Report => Exists fun second : Report =>
        makeReport reference ⟨today, none, 80⟩ groups = .ok first ∧
          makeReport reference ⟨tomorrow, none, 80⟩ groups = .ok second ∧
          first.sections.map Section.texts = [["Yesterday"]] ∧
          second.sections.map Section.texts = [["Yesterday", "Tomorrow"]] ∧
          second.unread = [⟨"home.txt", "Some day"⟩] ∧
          first.unread = second.unread ∧
          first.sections.map Section.name = groups.map Group.name ∧
          List.Forall₂ (fun narrow wide => narrow.name = wide.name ∧
            narrow.entries.Sublist wide.entries ∧
            narrow.entries.filter Entry.overdue = wide.entries.filter Entry.overdue)
            first.sections second.sections := by
  intro groups reference today tomorrow
  have made : makeReport reference ⟨today, none, 80⟩ groups =
      .ok (Report.ofGroups reference ⟨today, none, 80⟩ groups) :=
    makeReport_eq_ok_of_isOk (by decide +kernel)
  have ordered : today.days ≤ tomorrow.days := by decide
  have reaches : (reference.today.addDays tomorrow.days).isSome := by decide
  refine ⟨ordered, reaches, ?_⟩
  rcases makeReport_grows_with_lookahead groups reference today tomorrow none 80 ordered
    reaches with ⟨problem, stopped, -⟩ | ⟨first, second, isFirst, isSecond, grown⟩
  · rw [made] at stopped
    cases stopped
  · refine ⟨first, second, isFirst, isSecond, ?_, ?_, ?_, grown⟩
    · rw [(makeReport_eq_ok_iff.mp isFirst).2, Report.ofGroups, Section.ofGroup_eq_insertionSort]
      decide +kernel
    · rw [(makeReport_eq_ok_iff.mp isSecond).2, Report.ofGroups, Section.ofGroup_eq_insertionSort]
      decide +kernel
    · rw [(makeReport_eq_ok_iff.mp isSecond).2]
      decide +kernel

end Reminders
