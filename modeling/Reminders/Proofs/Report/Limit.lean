import Reminders.Proofs.Entry.Lines
import Reminders.Proofs.Report.Completeness

namespace Reminders

/-!
# Limit and width

The limit and the width bear on the lines of a section and on nothing else.  Whether there is a
report, which lines are unread, and which entries a section has are settled before any line is laid
out.

The limit counts entries while a section is printed by its lines, and entries come to different
numbers of lines.  Still a section is printed exactly if it has entries: every entry comes to at
least one line, and where the limit lets no entry through there is the line that says so.
-/

/-- The lines of the first entries of a list. -/
def linesOfFirst (width count : Nat) (entries : List Entry) : List String :=
  (entries.take count).flatMap (Entry.lines width)

/-- The sections of a report that have entries. -/
def Report.pendingSections (report : Report) : List Section :=
  report.sections.filter fun part => !part.entries.isEmpty

/-- The line that begins a section. -/
def Section.nameLine (name : String) : String := "== " ++ name ++ " =="

/-- The lines of a section as they are printed. -/
def Section.printedLines (part : Section) : List String := nameLine part.name :: part.lines

/-- What a section looks like in print: each of its lines is ended. -/
def Section.printed (part : Section) : String :=
  String.join (part.printedLines.map fun line => line ++ "\n")

/-! ## Listings -/

/-- A limit that lets all entries through makes no difference. -/
theorem listingLines_of_length_le {width limit : Nat} {entries : List Entry}
    (within : entries.length ≤ limit) :
    listingLines width (some limit) entries = listingLines width none entries := by
  simp only [listingLines, List.take_of_length_le within, if_neg (Nat.not_lt.mpr within),
    List.append_nil]

/-- Any other limit is marked after the entries that it lets through. -/
theorem listingLines_of_lt_length {width limit : Nat} {entries : List Entry}
    (exceeded : limit < entries.length) :
    listingLines width (some limit) entries =
      linesOfFirst width limit entries ++ [limitMarker limit] := by
  simp only [listingLines, linesOfFirst, if_pos exceeded]

/-- The lines of more entries begin with those of fewer. -/
theorem linesOfFirst_prefix_of_le {count more : Nat} (width : Nat) (entries : List Entry)
    (ordered : count ≤ more) :
    linesOfFirst width count entries <+: linesOfFirst width more entries := by
  rcases List.take_prefix_take_left (l := entries) ordered with ⟨between, split⟩
  refine ⟨between.flatMap (Entry.lines width), ?_⟩
  rw [linesOfFirst, linesOfFirst, ← List.flatMap_append, split]

/-- The lines of as many entries as the limit lets through, or of fewer, stand at the beginning. -/
theorem linesOfFirst_prefix_listingLines {count width : Nat} {limit : Option Nat}
    (entries : List Entry) (within : forall most, limit = some most -> count ≤ most) :
    linesOfFirst width count entries <+: listingLines width limit entries := by
  cases limit with
  | none =>
      have whole : linesOfFirst width entries.length entries = listingLines width none entries := by
        rw [linesOfFirst, List.take_length, listingLines]
      rcases Nat.le_total count entries.length with fewer | all
      · rw [← whole]
        exact linesOfFirst_prefix_of_le width entries fewer
      · have shown : linesOfFirst width count entries = listingLines width none entries := by
          rw [linesOfFirst, List.take_of_length_le all, listingLines]
        exact shown ▸ List.prefix_refl _
  | some most =>
      exact (linesOfFirst_prefix_of_le width entries (within most rfl)).trans
        (List.prefix_append _ _)

/-- A listing has lines if it has entries, under any limit. -/
theorem listingLines_eq_nil_iff {width : Nat} {limit : Option Nat} {entries : List Entry} :
    listingLines width limit entries = [] ↔ entries = [] := by
  constructor
  · intro noLines
    cases entries with
    | nil => rfl
    | cons entry rest =>
        have shownOnce : listingLines width limit (entry :: rest) ≠ [] := by
          rcases limit with _ | _ | limit
          · exact fun empty => entry.lines_ne_nil width (List.append_eq_nil_iff.mp empty).1
          · -- Nothing is let through, and the marker says so.
            exact List.cons_ne_nil _ _
          · intro empty
            have noShown := (List.append_eq_nil_iff.mp empty).1
            exact entry.lines_ne_nil width (List.append_eq_nil_iff.mp noShown).1
        exact absurd noLines shownOnce
  · rintro rfl
    cases limit with
    | none => rfl
    | some limit =>
        rw [listingLines_of_length_le (Nat.zero_le limit)]
        rfl

/-! ## Reports -/

/-- A section under a limit, compared with the same section under none. -/
structure Section.IsCutOf (width limit : Nat) (part whole : Section) : Prop where
  lines_of_le : part.entries.length ≤ limit -> part.lines = whole.lines
  lines_of_lt : limit < part.entries.length ->
    part.lines = linesOfFirst width limit part.entries ++ [limitMarker limit]
  shown_prefix : linesOfFirst width limit part.entries <+: whole.lines

theorem Section.name_ofGroup (reference : Reference) (options : ReportOptions) (group : Group) :
    (Section.ofGroup reference options group).name = group.name := rfl

theorem Report.unread_ofGroups (reference : Reference) (options : ReportOptions)
    (groups : List Group) :
    (Report.ofGroups reference options groups).unread = groups.flatMap UnreadLine.ofGroup := rfl

/-- The lines of a section are the listing of its entries. -/
theorem Section.lines_ofGroup (reference : Reference) (options : ReportOptions) (group : Group) :
    (Section.ofGroup reference options group).lines =
      listingLines options.width options.limit (Section.ofGroup reference options group).entries :=
  rfl

/-- Neither the limit nor the width bears on the entries of a section. -/
theorem Section.entries_ofGroup (reference : Reference) (lookahead : Lookahead)
    (limit : Option Nat) (width : Nat) (group : Group) :
    (Section.ofGroup reference ⟨lookahead, limit, width⟩ group).entries =
      Entry.sort (group.lines.filterMap (Entry.ofLine reference lookahead)) := rfl

theorem Section.isCutOf_ofGroup (reference : Reference) (lookahead : Lookahead)
    (limit width : Nat) (group : Group) :
    (Section.ofGroup reference ⟨lookahead, some limit, width⟩ group).IsCutOf width limit
      (Section.ofGroup reference ⟨lookahead, none, width⟩ group) := by
  constructor <;> simp only [Section.lines_ofGroup, Section.entries_ofGroup]
  · exact listingLines_of_length_le
  · exact listingLines_of_lt_length
  · refine linesOfFirst_prefix_listingLines _ ?_
    intro most impossible
    cases impossible

/-- A section has lines if it has entries. -/
theorem Section.lines_ofGroup_eq_nil_iff {reference : Reference} {options : ReportOptions}
    {group : Group} :
    (Section.ofGroup reference options group).lines = [] ↔
      (Section.ofGroup reference options group).entries = [] := by
  rw [Section.lines_ofGroup]
  exact listingLines_eq_nil_iff

theorem Section.text_eq_printed (part : Section) : part.text = part.printed := by
  rw [Section.printed, Section.printedLines, List.map_cons, String.join_cons]
  rfl

/-- Sections without entries are left out of the text of a report, and no others. -/
theorem Report.text_ofGroups (reference : Reference) (options : ReportOptions)
    (groups : List Group) :
    (Report.ofGroups reference options groups).text =
      "\n".intercalate
        ((Report.ofGroups reference options groups).pendingSections.map Section.printed) := by
  have sameShown : (Report.ofGroups reference options groups).sections.filter
        (fun part => !part.lines.isEmpty) =
      (Report.ofGroups reference options groups).pendingSections := by
    apply List.filter_congr
    intro part member
    rcases List.mem_map.mp member with ⟨group, -, rfl⟩
    apply congrArg not
    rw [Bool.eq_iff_iff, List.isEmpty_iff, List.isEmpty_iff]
    exact Section.lines_ofGroup_eq_nil_iff
  have samePrinted : Section.text = Section.printed := funext Section.text_eq_printed
  rw [Report.text, sameShown, samePrinted]

/-- Two ways of laying out sections agree as far as they agree on each group. -/
private theorem forall₂_sections {relation : Section -> Section -> Prop} {reference : Reference}
    {options otherOptions : ReportOptions} (groups : List Group)
    (related : forall group, relation (Section.ofGroup reference options group)
      (Section.ofGroup reference otherOptions group)) :
    List.Forall₂ relation (Report.ofGroups reference options groups).sections
      (Report.ofGroups reference otherOptions groups).sections := by
  rw [Report.ofGroups, Report.ofGroups, List.forall₂_map_left_iff, List.forall₂_map_right_iff,
    List.forall₂_same]
  intro group _
  exact related group

/-- The limit and the width decide neither whether there is a report nor what is unread or listed.
They only cut and mark the lines of sections.  There is a section for each group, under its name,
and it is printed if it has entries: its name between double equals signs and then its lines, of
which there is at least one. -/
theorem makeReport_limit_only_cuts (groups : List Group) (reference : Reference)
    (lookahead : Lookahead) :
    (Exists fun problem => forall limit width,
      makeReport reference ⟨lookahead, limit, width⟩ groups = .error problem) ∨
    (Exists fun report : Option Nat -> Nat -> Report =>
      (forall limit width,
        makeReport reference ⟨lookahead, limit, width⟩ groups = .ok (report limit width)) ∧
      (forall limit width,
        (report limit width).sections.map Section.name = groups.map Group.name) ∧
      (forall limit width otherLimit otherWidth,
        (report limit width).unread = (report otherLimit otherWidth).unread ∧
          List.Forall₂ (fun part other => part.name = other.name ∧ part.entries = other.entries)
            (report limit width).sections (report otherLimit otherWidth).sections) ∧
      (forall limit width, List.Forall₂ (Section.IsCutOf width limit)
        (report (some limit) width).sections (report none width).sections) ∧
      (forall limit larger width, limit ≤ larger ->
        List.Forall₂ (fun part wider => linesOfFirst width limit part.entries <+: wider.lines)
          (report (some limit) width).sections (report (some larger) width).sections) ∧
      (forall limit width part, part ∈ (report limit width).sections ->
        (part.lines = [] ↔ part.entries = [])) ∧
      (forall limit width, (report limit width).text =
        "\n".intercalate ((report limit width).pendingSections.map Section.printed))) := by
  rcases makeReport_outcome reference ⟨lookahead, none, 0⟩ groups with
    ⟨accepted, -⟩ | ⟨group, line, problem, refusal, -⟩
  · right
    refine ⟨fun limit width => Report.ofGroups reference ⟨lookahead, limit, width⟩ groups,
      ?_, ?_, ?_, ?_, ?_, ?_, ?_⟩
    · intro limit width
      exact makeReport_eq_ok_iff.mpr ⟨accepted, rfl⟩
    · intro limit width
      exact Report.names_ofGroups reference ⟨lookahead, limit, width⟩ groups
    · intro limit width otherLimit otherWidth
      constructor
      · rw [Report.unread_ofGroups, Report.unread_ofGroups]
      · refine forall₂_sections groups fun group => ⟨?_, ?_⟩
        · rw [Section.name_ofGroup, Section.name_ofGroup]
        · rw [Section.entries_ofGroup, Section.entries_ofGroup]
    · intro limit width
      exact forall₂_sections groups fun group =>
        Section.isCutOf_ofGroup reference lookahead limit width group
    · intro limit larger width ordered
      apply forall₂_sections groups
      intro group
      simp only [Section.lines_ofGroup, Section.entries_ofGroup]
      refine linesOfFirst_prefix_listingLines _ ?_
      rintro most ⟨⟩
      exact ordered
    · intro limit width part member
      rcases List.mem_map.mp member with ⟨group, -, rfl⟩
      exact Section.lines_ofGroup_eq_nil_iff
    · intro limit width
      exact Report.text_ofGroups reference ⟨lookahead, limit, width⟩ groups
  · left
    refine ⟨⟨group, problem⟩, fun limit width => makeReport_eq_error_iff.mpr ⟨line, refusal⟩⟩

/-- Two sections are printed although no entry is let through; the third has nothing to hide. -/
theorem hidden_entries_announced :
    let groups : List Group := [⟨"home.txt", ["2 2021.03.04 Dentist", "1 2021.03.03 Taxes"]⟩,
      ⟨"garden.txt", ["3 2021.04.01 Sow", "Some day"]⟩, ⟨"work.txt", ["2 SMTWTFS Mail"]⟩]
    let reference : Reference := ⟨⟨2021, 3, 4, by decide, by decide⟩, 600, 9⟩
    let options : ReportOptions := ⟨⟨0, by decide⟩, some 0, 80⟩
    Exists fun report : Report =>
      makeReport reference options groups = .ok report ∧
        report.sections.map Section.name = groups.map Group.name ∧
        report.sections.map Section.texts = [["Taxes", "Dentist"], [], ["Mail"]] ∧
        report.text =
          "== home.txt ==\n                        limit exceeded (0)\n\n" ++
            "== work.txt ==\n                        limit exceeded (0)\n" := by
  intro groups reference options
  have made : makeReport reference options groups =
      .ok (Report.ofGroups reference options groups) :=
    makeReport_eq_ok_of_isOk (by decide +kernel)
  rcases makeReport_limit_only_cuts groups reference options.lookahead with
    ⟨problem, stopped⟩ | ⟨report, madeAlways, names, -, -, -, -, text⟩
  · have refused : makeReport reference options groups = .error problem := stopped (some 0) 80
    rw [made] at refused
    cases refused
  · have same : report (some 0) 80 = Report.ofGroups reference options groups :=
      (makeReport_eq_ok_iff.mp (madeAlways (some 0) 80)).2
    refine ⟨report (some 0) 80, madeAlways (some 0) 80, names (some 0) 80, ?_, ?_⟩
    · rw [same, Report.ofGroups, Section.ofGroup_eq_insertionSort]
      decide +kernel
    · rw [text, same, Report.ofGroups, Section.ofGroup_eq_insertionSort]
      decide +kernel

end Reminders
