import Reminders.Proofs.Files.Folding
import Reminders.Proofs.Files.Merging
import Reminders.Proofs.Files.Steps
import Reminders.Proofs.Report.Composition

namespace Reminders

/-!
# What the reader hands on

Blank lines and comments are looked for only where a logical line may begin.  This is enough to keep
them out, since a line that has begun properly stays proper: it begins with a character that is
neither blank nor a number sign, and whatever goes on in it stands behind this character.

So the reader keeps, from one physical line to the next, nothing or the beginning of a proper line
that ends in a single space behind a character that is not blank.  There is something to hand on at
the end of the text whenever a line is open there.
-/

/-- A line as it is handed on: one line, trimmed at its end, whose first character that is not blank
exists and does not begin a comment. -/
structure IsProperLine (line : List Char) : Prop where
  nonempty : line ≠ []
  oneLine : '\n' ∉ line
  trimmed : Trimmed line
  begins : Exists fun first => line.find? (fun c => !isBlank c) = some first ∧ first ≠ '#'

/-! ## Lines that begin properly -/

theorem isBlankOrComment_eq_false_iff {line : List Char} :
    isBlankOrComment line = false ↔
      Exists fun first => line.find? (fun c => !isBlank c) = some first ∧ first ≠ '#' := by
  simp only [List.find?_eq_head?_dropWhile_not, Bool.not_not, isBlankOrComment, trimStart]
  cases line.dropWhile isBlank <;> simp

/-- Trimming brings in no characters. -/
theorem trimEnd_subset (text : List Char) : trimEnd text ⊆ text := by
  rcases trimEnd_append_blanks text with ⟨blanks, split, -⟩
  intro c member
  rw [split]
  exact List.mem_append_left blanks member

theorem IsProperLine.of_trimEnd {line : List Char} (oneLine : '\n' ∉ line)
    (proper : isBlankOrComment line = false) : IsProperLine (trimEnd line) := by
  have stillProper : isBlankOrComment (trimEnd line) = false := by
    rw [isBlankOrComment_trimEnd, proper]
  refine ⟨?_, fun member => oneLine (trimEnd_subset line member), trimmed_trimEnd line,
    isBlankOrComment_eq_false_iff.mp stillProper⟩
  intro none
  rw [none] at stillProper
  cases stillProper

/-! ## From one physical line to the next -/

/-- What the reader may keep of a line that is to be continued. -/
structure IsProperStart (part : List Char) : Prop where
  isBegun : IsBegun part
  oneLine : '\n' ∉ part
  proper : isBlankOrComment part = false

namespace IsProperStart

variable {begun : Option (List Char)} {physical line part : List Char}

/-- What goes on behind a proper start belongs to a proper line. -/
theorem proper_append (isStart : IsProperStart part) (more : List Char) :
    isBlankOrComment (part ++ more) = false := by
  rcases isStart.isBegun with ⟨front, c, rfl, notBlank⟩
  have proper := isStart.proper
  rw [isBlankOrComment_append_cons front notBlank] at proper
  rw [List.append_assoc]
  exact (isBlankOrComment_append_cons front notBlank _).trans proper

/-- The line in hand is proper. -/
theorem inHand (areStarts : forall part, begun = some part -> IsProperStart part)
    (oneLine : '\n' ∉ physical) (taken : lineInHand begun physical = some line) :
    '\n' ∉ line ∧ isBlankOrComment line = false := by
  have oneLineTrimmed : '\n' ∉ trimEnd physical := fun member =>
    oneLine (trimEnd_subset physical member)
  cases begun with
  | none =>
      simp only [lineInHand, Option.ite_none_left_eq_some, Option.some.injEq] at taken
      rcases taken with ⟨proper, rfl⟩
      exact ⟨oneLineTrimmed, Bool.eq_false_iff.mpr proper⟩
  | some part =>
      have isStart := areStarts part rfl
      cases taken
      refine ⟨?_, isStart.proper_append _⟩
      intro member
      rcases List.mem_append.mp member with old | new
      · exact isStart.oneLine old
      · exact oneLineTrimmed ((List.dropWhile_sublist isBlank).subset new)

/-- What is left open is a proper start. -/
theorem leftOpen (areStarts : forall part, begun = some part -> IsProperStart part)
    (oneLine : '\n' ∉ physical) (isOpen : leftOpen begun physical = some part) :
    IsProperStart part := by
  rcases Option.bind_eq_some_iff.mp isOpen with ⟨line, taken, continued⟩
  rcases inHand areStarts oneLine taken with ⟨oneLineInHand, proper⟩
  rcases continuedPart_eq_some_iff.mp continued with ⟨rfl, isBegun⟩
  refine ⟨isBegun, fun member => oneLineInHand (List.mem_append_left _ member), ?_⟩
  -- The backslash that is dropped stands behind the character that the start ends with.
  rcases isBegun with ⟨front, c, rfl, notBlank⟩
  rw [List.append_assoc] at proper
  exact (isBlankOrComment_append_cons front notBlank _).trans
    ((isBlankOrComment_append_cons front notBlank _).symm.trans proper)

/-- What ends is a proper line. -/
theorem endedLine (areStarts : forall part, begun = some part -> IsProperStart part)
    (oneLine : '\n' ∉ physical) (ended : endedLine begun physical = some line) :
    IsProperLine line := by
  rcases Option.bind_eq_some_iff.mp ended with ⟨inHandLine, taken, endsHere⟩
  rcases inHand areStarts oneLine taken with ⟨oneLineInHand, proper⟩
  rw [Option.ite_none_right_eq_some, Option.some.injEq] at endsHere
  rcases endsHere with ⟨-, rfl⟩
  exact .of_trimEnd oneLineInHand proper

end IsProperStart

/-! ## Whole texts -/

/-- All lines that are handed on are proper, from wherever the reader goes on. -/
theorem isProperLine_of_mem_joinLines {begun : Option (List Char)} {lines : List (List Char)}
    (areStarts : forall part, begun = some part -> IsProperStart part)
    (oneLine : forall physical, physical ∈ lines -> '\n' ∉ physical) {line : List Char}
    (handedOn : line ∈ joinLines begun lines) : IsProperLine line := by
  induction lines generalizing begun with
  | nil =>
      cases begun with
      | none => cases handedOn
      | some part =>
          have isStart := areStarts part rfl
          rw [isStart.isBegun.joinLines_nil, List.mem_singleton] at handedOn
          rw [handedOn]
          exact .of_trimEnd isStart.oneLine isStart.proper
  | cons physical rest inductionHypothesis =>
      have oneLineHere := oneLine physical List.mem_cons_self
      rw [joinLines_cons] at handedOn
      rcases List.mem_append.mp handedOn with here | later
      · exact IsProperStart.endedLine areStarts oneLineHere (Option.mem_toList.mp here)
      · exact inductionHypothesis (fun part => IsProperStart.leftOpen areStarts oneLineHere)
          (fun other member => oneLine other (List.mem_cons_of_mem physical member)) later

theorem isProperLine_of_mem_logicalLines {text line : String}
    (handedOn : line ∈ logicalLines text) : IsProperLine line.toList := by
  rw [logicalLines_eq] at handedOn
  rcases List.mem_map.mp handedOn with ⟨characters, joined, rfl⟩
  rw [String.toList_ofList]
  refine isProperLine_of_mem_joinLines ?_ (fun physical => not_mem_of_mem_splitAtChar) joined
  intro part impossible
  cases impossible

/-! ## Loaded groups -/

/-- What the steps of a walk keep of its groups holds of the groups that it comes to. -/
theorem Walk.finish_of_kept {tree : FileTree} (Kept : List Group -> Prop)
    (keeps : forall walk later : Walk, walk.next tree = some later -> Kept walk.groups ->
      Kept later.groups) {walk : Walk} (kept : Kept walk.groups) :
    Kept (Walk.finish tree walk) := by
  induction walk using (Walk.wellFounded_next tree).induction with
  | _ walk inductionHypothesis =>
      cases step : walk.next tree with
      | none =>
          rw [Walk.finish_of_next_eq_none step]
          exact kept
      | some later =>
          rw [Walk.finish_of_next_eq_some step]
          exact inductionHypothesis later step (keeps walk later step kept)

/-- The lines of the groups are logical lines of texts. -/
def AreFromTexts (groups : List Group) : Prop :=
  forall group : Group, group ∈ groups -> forall line : String, line ∈ group.lines ->
    Exists fun text : String => line ∈ logicalLines text

/-- A step of a walk adds logical lines of the file that is read. -/
theorem AreFromTexts.next {tree : FileTree} {walk later : Walk} (step : walk.next tree = some later)
    (areFromTexts : AreFromTexts walk.groups) : AreFromTexts later.groups := by
  intro group listed line member
  rcases Walk.next_cases step with ⟨path, pending, -, ⟨-, rfl⟩ | ⟨location, content, found, -, rfl⟩⟩
  · exact areFromTexts group listed line member
  · rcases mem_lines_of_mergeInto listed member with own | ⟨earlier, listedEarlier, old⟩
    · rw [FileTree.ownLines, FileTree.lines_of_read found] at own
      exact ⟨content, (List.mem_filter.mp own).1⟩
    · exact areFromTexts earlier listedEarlier line old

theorem areFromTexts_of_loadGroups {tree : FileTree} {root : Path} {groups : List Group}
    (loaded : loadGroups tree root = .ok groups) : AreFromTexts groups := by
  rw [(loadGroups_eq_ok_iff.mp loaded).2]
  refine Walk.finish_of_kept AreFromTexts (fun _ _ step => AreFromTexts.next step) ?_
  intro group impossible
  cases impossible

/-- Every line that is handed on is trimmed and has no newline, and its first character that is not
blank begins no comment.  A line that is open at the end of a text is not empty and is handed on.
So no blank line and no comment is ever reported as a line that was not read. -/
theorem handed_on_lines_are_proper :
    (forall text line : String, line ∈ logicalLines text -> IsProperLine line.toList) ∧
    (forall (text : String) (begun : List Char),
      openAfter none (physicalLines text.toList) = some begun ->
      trimEnd begun ≠ [] ∧
        logicalLines text = (linesEndedIn none (physicalLines text.toList)).map String.ofList ++
          [String.ofList (trimEnd begun)]) ∧
    (forall (tree : FileTree) (root : Path) (groups : List Group),
      loadGroups tree root = .ok groups ->
      forall (reference : Reference) (options : ReportOptions) (report : Report),
        makeReport reference options groups = .ok report ->
        forall unread, unread ∈ report.unread -> IsProperLine unread.line.toList) := by
  refine ⟨fun text line => isProperLine_of_mem_logicalLines, ?_, ?_⟩
  · intro text begun isOpen
    exact ⟨(isBegun_of_openAfter isOpen).trimEnd_ne_nil, logicalLines_of_openAfter isOpen⟩
  · intro tree root groups loaded reference options report made unread reported
    rw [(makeReport_eq_ok_iff.mp made).2] at reported
    rcases List.mem_flatMap.mp reported with ⟨group, listed, ofGroup⟩
    rcases List.mem_map.mp ofGroup with ⟨line, unreadLine, rfl⟩
    have inGroup := (List.mem_filter.mp unreadLine).1
    rcases areFromTexts_of_loadGroups loaded group listed line inGroup with
      ⟨text, handedOn⟩
    exact isProperLine_of_mem_logicalLines handedOn

/-- A text that ends in an open line, with a comment within it, and a file of which the only line
that is neither blank nor a comment is not read. -/
theorem open_and_unread_lines_are_proper :
    let text := "\t# head \\\n \n1 SMTWTFS water \\\r\n  # the \\"
    let tree : FileTree :=
      ⟨[(["w", "all.txt"], .text "# all \\\n\u3000\nnonsense \\\n # still\n")], ["w"], none⟩
    let groups : List Group := [⟨"all.txt", ["nonsense # still"]⟩]
    let reference : Reference := ⟨⟨2021, 3, 4, by decide, by decide⟩, 600, 9⟩
    "1 SMTWTFS water # the" ∈ logicalLines text ∧ IsProperLine "1 SMTWTFS water # the".toList ∧
      openAfter none (physicalLines text.toList) = some "1 SMTWTFS water # the ".toList ∧
      logicalLines text = (linesEndedIn none (physicalLines text.toList)).map String.ofList ++
        ["1 SMTWTFS water # the"] ∧
      loadGroups tree (.ofText "all.txt") = .ok groups ∧
      Exists fun report : Report =>
        makeReport reference ⟨.standard, none, 80⟩ groups = .ok report ∧
          report.unread = [⟨"all.txt", "nonsense # still"⟩] ∧
          IsProperLine "nonsense # still".toList := by
  intro text tree groups reference
  have handedOn : "1 SMTWTFS water # the" ∈ logicalLines text := by decide
  have isOpen : openAfter none (physicalLines text.toList) =
      some "1 SMTWTFS water # the ".toList := by decide
  have readable : tree.locationOf (.ofText "all.txt") = some ["w", "all.txt"] := by decide
  have loaded : loadGroups tree (.ofText "all.txt") = .ok groups :=
    loadGroups_eq_ok_of_leadsTo readable
      (.single (by decide : (Walk.start (.ofText "all.txt")).next tree = some
        ⟨(Path.ofText "all.txt").directory, [["w", "all.txt"]], groups, []⟩)) rfl
  have accepted : Exists fun report =>
      makeReport reference ⟨.standard, none, 80⟩ groups = .ok report := ⟨_, by rfl⟩
  rcases accepted with ⟨report, made⟩
  have unread : report.unread = [⟨"all.txt", "nonsense # still"⟩] := by
    rw [(makeReport_eq_ok_iff.mp made).2]
    rfl
  have reported : ⟨"all.txt", "nonsense # still"⟩ ∈ report.unread := by
    rw [unread]
    exact List.mem_cons_self
  rcases handed_on_lines_are_proper with ⟨areProper, openLine, unreadProper⟩
  exact ⟨handedOn, areProper text _ handedOn, isOpen, (openLine text _ isOpen).2, loaded, report,
    made, unread, unreadProper tree _ groups loaded reference _ report made _ reported⟩

end Reminders
