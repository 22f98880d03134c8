import Reminders.Proofs.Files.LineByLine

namespace Reminders

/-!
# Blank lines

What a physical line leaves open ends in a single space behind a character that is not blank.  A
blank line has nothing to add to it, and then there is no backslash at its end, so the line is ended
there and loses its space: the blank line does to it what the end of the text does.  Where nothing
is open, a blank line is passed over.

So whatever stands before a blank line, the reader begins anew behind it, and a text with a blank
line in it reads as its two parts read alone.  The empty line behind the last newline of a text is a
case of this: it may be read or not.
-/

/-! ## Blanks -/

/-- A run of blanks on one line. -/
structure IsBlankRun (text : List Char) : Prop where
  areBlank : text.all isBlank = true
  oneLine : '\n' ∉ text

theorem isBlankRun_nil : IsBlankRun [] := ⟨rfl, List.not_mem_nil⟩

/-- Blanks at the back are trimmed. -/
theorem IsBlankRun.trimEnd_append {blanks : List Char} (isRun : IsBlankRun blanks)
    (text : List Char) : trimEnd (text ++ blanks) = trimEnd text := by
  have blanksFirst : forall c, c ∈ blanks.reverse -> isBlank c = true := fun c member =>
    List.all_eq_true.mp isRun.areBlank c (List.mem_reverse.mp member)
  rw [trimEnd, List.reverse_append, List.dropWhile_append_of_pos blanksFirst, trimEnd]

theorem IsBlankRun.trimEnd_eq_nil {blanks : List Char} (isRun : IsBlankRun blanks) :
    trimEnd blanks = [] :=
  isRun.trimEnd_append []

/-! ## Open lines -/

/-- What is to be continued: it ends in a single space. -/
def IsBegun (part : List Char) : Prop :=
  Exists fun front => Exists fun c => part = front ++ [c, ' '] ∧ isBlank c = false

/-- A line goes on if a backslash stands behind a part that ends in a single space. -/
theorem continuedPart_eq_some_iff {line part : List Char} :
    continuedPart line = some part ↔ line = part ++ ['\\'] ∧ IsBegun part := by
  constructor
  · intro found
    unfold continuedPart at found
    split at found
    · next c rest reversed =>
        rw [Option.ite_none_left_eq_some, Option.some.injEq, Bool.not_eq_true] at found
        rcases found with ⟨notBlank, rfl⟩
        refine ⟨?_, rest.reverse, c, ?_, notBlank⟩
        · rw [← List.reverse_reverse line, reversed, List.reverse_cons]
        · simp
    · cases found
  · rintro ⟨rfl, front, c, rfl, notBlank⟩
    simp [continuedPart, notBlank]

namespace IsBegun

variable {part : List Char}

theorem continuedPart_eq_none (isBegun : IsBegun part) : continuedPart part = none := by
  rcases isBegun with ⟨front, c, rfl, -⟩
  simp [continuedPart]

/-- What is begun has characters that are not blank. -/
theorem trimEnd_ne_nil (isBegun : IsBegun part) : trimEnd part ≠ [] := by
  rcases isBegun with ⟨front, c, rfl, notBlank⟩
  rw [trimEnd_append_cons front [' '] notBlank]
  exact List.append_ne_nil_of_right_ne_nil _ (List.cons_ne_nil _ _)

/-- At the end of the text it is a logical line, without the space. -/
theorem joinLines_nil (isBegun : IsBegun part) : joinLines (some part) [] = [trimEnd part] := by
  have shown : (trimEnd part).isEmpty = false :=
    List.isEmpty_eq_false_iff.mpr isBegun.trimEnd_ne_nil
  rw [joinLines, shown, if_neg Bool.false_ne_true]

end IsBegun

theorem isBegun_of_leftOpen {begun : Option (List Char)} {physical part : List Char}
    (isOpen : leftOpen begun physical = some part) : IsBegun part := by
  rcases Option.bind_eq_some_iff.mp isOpen with ⟨line, -, continued⟩
  exact (continuedPart_eq_some_iff.mp continued).2

/-- Whatever lines were read, what they leave open ends in a single space. -/
theorem isBegun_of_openAfter {lines : List (List Char)} {part : List Char}
    (isOpen : openAfter none lines = some part) : IsBegun part := by
  -- Only the last of the lines decides what is open behind it.
  rcases List.eq_nil_or_concat lines with rfl | ⟨earlier, last, rfl⟩
  · cases isOpen
  · rw [openAfter, List.concat_eq_append, List.foldl_append] at isOpen
    exact isBegun_of_leftOpen isOpen

/-! ## Blank lines between lines -/

/-- A blank line does what the end of the text does, and then the reader begins anew. -/
theorem joinLines_blank_line {begun : Option (List Char)}
    (isBegun : forall part, begun = some part -> IsBegun part) {blanks : List Char}
    (isRun : IsBlankRun blanks) (rest : List (List Char)) :
    joinLines begun (blanks :: rest) = joinLines begun [] ++ joinLines none rest := by
  cases begun with
  | none =>
      have inHand : lineInHand none blanks = none := by
        rw [lineInHand, isRun.trimEnd_eq_nil]
        rfl
      rw [joinLines_of_passedOver inHand, joinLines, List.nil_append]
  | some part =>
      have isPart := isBegun part rfl
      have inHand : lineInHand (some part) blanks = some part := by
        rw [lineInHand, isRun.trimEnd_eq_nil]
        exact congrArg some (List.append_nil part)
      rw [joinLines_of_ended inHand isPart.continuedPart_eq_none, isPart.joinLines_nil,
        List.singleton_append]

/-- The lines around a blank one read as if they stood alone. -/
theorem joinLines_append_blank_line (front back : List (List Char)) {blanks : List Char}
    (isRun : IsBlankRun blanks) :
    joinLines none (front ++ blanks :: back) = joinLines none front ++ joinLines none back := by
  have alone := joinLines_append none front []
  rw [List.append_nil] at alone
  rw [joinLines_append, joinLines_blank_line (fun _ => isBegun_of_openAfter) isRun,
    ← List.append_assoc, ← alone]

/-- It makes no difference whether the empty line behind the last newline is read. -/
theorem joinLines_physicalLines (text : List Char) :
    joinLines none (physicalLines text) = joinLines none (splitAtChar '\n' text) := by
  simp only [physicalLines]
  split
  · next emptyEnd =>
      rcases List.getLast?_eq_some_iff.mp emptyEnd with ⟨front, isSplit⟩
      rw [isSplit, List.dropLast_concat, joinLines_append_blank_line front [] isBlankRun_nil]
      exact (List.append_nil _).symm
  · rfl

/-- The logical lines of a text are those of the parts between its newlines. -/
theorem logicalLines_eq (text : String) :
    logicalLines text = (joinLines none (splitAtChar '\n' text.toList)).map String.ofList := by
  rw [logicalLines, joinLines_physicalLines]

/-- A line that is open at the end of a text is handed on. -/
theorem logicalLines_of_openAfter {text : String} {begun : List Char}
    (isOpen : openAfter none (physicalLines text.toList) = some begun) :
    logicalLines text = (linesEndedIn none (physicalLines text.toList)).map String.ofList ++
      [String.ofList (trimEnd begun)] := by
  have lastLine := joinLines_append none (physicalLines text.toList) []
  rw [List.append_nil, isOpen, (isBegun_of_openAfter isOpen).joinLines_nil] at lastLine
  rw [logicalLines, lastLine, List.map_append, List.map_singleton]

/-- Two texts with a blank line between them have the logical lines of each.  If the first one
leaves a line open, the blank line ends it as the end of the text does, and nothing of the second
text goes into it. -/
theorem blank_line_begins_anew (first second blanks : String) (isRun : IsBlankRun blanks.toList) :
    logicalLines (first ++ "\n" ++ blanks ++ "\n" ++ second) =
        logicalLines first ++ logicalLines second ∧
      forall begun, openAfter none (physicalLines first.toList) = some begun ->
        Exists fun ended =>
          logicalLines first = ended ++ [String.ofList (trimEnd begun)] ∧
            logicalLines (first ++ "\n" ++ blanks ++ "\n" ++ second) =
              ended ++ String.ofList (trimEnd begun) :: logicalLines second := by
  have whole : logicalLines (first ++ "\n" ++ blanks ++ "\n" ++ second) =
      logicalLines first ++ logicalLines second := by
    have cut : (first ++ "\n" ++ blanks ++ "\n" ++ second).toList =
        first.toList ++ '\n' :: (blanks.toList ++ '\n' :: second.toList) := by
      simp [String.toList_append]
    rw [logicalLines_eq, cut, splitAtChar_append_cons, splitAtChar_append isRun.oneLine,
      joinLines_append_blank_line _ _ isRun, List.map_append, ← logicalLines_eq, ← logicalLines_eq]
  refine ⟨whole, fun begun isOpen => ?_⟩
  have firstLines := logicalLines_of_openAfter isOpen
  refine ⟨_, firstLines, ?_⟩
  rw [whole, firstLines, List.append_assoc, List.singleton_append]

/-- A line that is open twice over ends at a line of blanks, although a comment seems to follow
it. -/
theorem open_chores_end_at_blank_line :
    let first := "# chores \\\n1 SMTWTFS water \\\r\n  # the \\\nplants \\"
    let blanks := "\t\u3000\r"
    let second := "# next \\\n2 S-----S feed \\\nthe cat"
    IsBlankRun blanks.toList ∧
      logicalLines (first ++ "\n" ++ blanks ++ "\n" ++ second) =
        ["1 SMTWTFS water # the plants", "2 S-----S feed the cat"] ∧
      openAfter none (physicalLines first.toList) = some "1 SMTWTFS water # the plants ".toList ∧
      Exists fun ended =>
        logicalLines first = ended ++ ["1 SMTWTFS water # the plants"] ∧
          logicalLines (first ++ "\n" ++ blanks ++ "\n" ++ second) =
            ended ++ "1 SMTWTFS water # the plants" :: ["2 S-----S feed the cat"] := by
  intro first blanks second
  have isRun : IsBlankRun blanks.toList := ⟨by decide, by decide⟩
  have isOpen : openAfter none (physicalLines first.toList) =
      some "1 SMTWTFS water # the plants ".toList := by decide
  have firstLines : logicalLines first = ["1 SMTWTFS water # the plants"] := by decide
  have secondLines : logicalLines second = ["2 S-----S feed the cat"] := by decide
  have whole := (blank_line_begins_anew first second blanks isRun).1
  have lastLine := (blank_line_begins_anew first second blanks isRun).2 _ isOpen
  rw [firstLines, secondLines] at whole
  rw [secondLines] at lastLine
  exact ⟨isRun, whole, isOpen, lastLine⟩

end Reminders
