import Reminders.Files.Document
import Reminders.Proofs.Files.Spelling

namespace Reminders

/-!
# Physical lines, one after the other

When the reader of a text comes to a physical line, all that it keeps of the lines before is the
logical line that they have begun and not ended.  With each physical line it may end one logical
line and leave one to be continued.  So a series of physical lines can be read in two parts, the
second of which goes on from what the first has left open.

A physical line that stands alone, with nothing open before it and nothing to be continued after it,
makes up a logical line of its own or none.  Replacing one that makes up a logical line by a comment
takes this logical line out and changes no other.
-/

/-! ## Trimmed lines -/

theorem trimEnd_trimEnd (text : List Char) : trimEnd (trimEnd text) = trimEnd text := by
  simp only [trimEnd, List.reverse_reverse, List.dropWhile_idempotent]

/-- Only what stands behind the last character that is not blank is trimmed. -/
theorem trimEnd_append_cons (front rest : List Char) {c : Char} (notBlank : isBlank c = false) :
    trimEnd (front ++ c :: rest) = front ++ c :: trimEnd rest := by
  unfold trimEnd
  rw [List.reverse_append, List.reverse_cons, List.append_assoc, List.singleton_append,
    List.dropWhile_append, List.dropWhile_cons_of_neg (by simp [notBlank])]
  split
  · next allBlank => simp [List.isEmpty_iff.mp allBlank]
  · simp

/-- Whether a line is blank or a comment does not depend on what is trimmed at its end. -/
theorem isBlankOrComment_trimEnd (line : List Char) :
    isBlankOrComment (trimEnd line) = isBlankOrComment line := by
  have split : line.takeWhile isBlank ++ trimStart line = line := List.takeWhile_append_dropWhile
  cases begins : trimStart line with
  | nil =>
      have allBlank := List.dropWhile_eq_nil_iff.mp begins
      have noneLeft : trimEnd line = [] := by
        rw [trimEnd, List.dropWhile_eq_nil_iff.mpr fun c member =>
          allBlank c (List.mem_reverse.mp member)]
        rfl
      rw [isBlankOrComment, isBlankOrComment, noneLeft, begins]
      rfl
  | cons c rest =>
      have notBlank : isBlank c = false := by
        have notDropped := List.head?_dropWhile_not isBlank line
        rwa [show line.dropWhile isBlank = c :: rest from begins] at notDropped
      have trimmed : trimStart (trimEnd line) = c :: trimEnd rest := by
        rw [← split, begins, trimEnd_append_cons _ _ notBlank, trimStart,
          List.dropWhile_append_of_pos fun c member => List.mem_takeWhile_imp member,
          List.dropWhile_cons_of_neg (by simp [notBlank])]
      rw [isBlankOrComment, isBlankOrComment, trimmed, begins]

/-- The first character that is not blank begins a comment. -/
def IsComment (line : List Char) : Prop := (trimStart line).head? = some '#'

theorem IsComment.isBlankOrComment {line : List Char} (comment : IsComment line) :
    isBlankOrComment line = true := by
  rcases List.head?_eq_some_iff.mp comment with ⟨rest, begins⟩
  rw [Reminders.isBlankOrComment, begins]
  rfl

/-- A line that pulls in a file is neither blank nor a comment. -/
theorem isBlankOrComment_of_includeTarget {line : List Char} {target : String}
    (includes : includeTarget (String.ofList line) = some target) :
    isBlankOrComment line = false := by
  unfold includeTarget at includes
  dsimp only at includes
  rw [String.toList_ofList] at includes
  split at includes
  · next begins =>
      have split := List.take_append_drop includeWord.length line
      rw [begins] at split
      rw [← split]
      rfl
  · cases includes

/-! ## One physical line -/

/-- The line that the reader has in hand at a physical line.  What was begun before goes on in it;
otherwise it begins a line, unless it is blank or a comment. -/
def lineInHand (begun : Option (List Char)) (physical : List Char) : Option (List Char) :=
  match begun with
  | some begun => some (begun ++ trimStart (trimEnd physical))
  | none => if isBlankOrComment (trimEnd physical) then none else some (trimEnd physical)

/-- What a physical line leaves to be continued. -/
def leftOpen (begun : Option (List Char)) (physical : List Char) : Option (List Char) :=
  (lineInHand begun physical).bind continuedPart

/-- The logical line that ends with a physical line, if one does. -/
def endedLine (begun : Option (List Char)) (physical : List Char) : Option (List Char) :=
  (lineInHand begun physical).bind fun line =>
    if (continuedPart line).isNone then some (trimEnd line) else none

theorem joinLines_cons (begun : Option (List Char)) (physical : List Char)
    (rest : List (List Char)) :
    joinLines begun (physical :: rest) =
      (endedLine begun physical).toList ++ joinLines (leftOpen begun physical) rest := by
  cases begun with
  | none =>
      rw [joinLines, endedLine, leftOpen, lineInHand]
      split
      · rfl
      · simp only [Option.bind_some]
        cases continuedPart (trimEnd physical) <;> rfl
  | some begun =>
      rw [joinLines, endedLine, leftOpen, lineInHand]
      simp only [Option.bind_some]
      cases continuedPart (begun ++ trimStart (trimEnd physical)) <;> rfl

section OneLine

variable {begun : Option (List Char)} {physical line part : List Char}

/-- A physical line that is passed over leaves nothing. -/
theorem joinLines_of_passedOver (inHand : lineInHand begun physical = none)
    (rest : List (List Char)) : joinLines begun (physical :: rest) = joinLines none rest := by
  rw [joinLines_cons, endedLine, leftOpen, inHand]
  rfl

/-- A line in hand that is not continued is a logical line. -/
theorem joinLines_of_ended (inHand : lineInHand begun physical = some line)
    (endsHere : continuedPart line = none) (rest : List (List Char)) :
    joinLines begun (physical :: rest) = trimEnd line :: joinLines none rest := by
  simp only [joinLines_cons, endedLine, leftOpen, inHand, Option.bind_some, endsHere,
    Option.isNone_none, if_true, Option.toList_some, List.singleton_append]

/-- A line in hand that is continued goes on in the next physical line. -/
theorem joinLines_of_continued (inHand : lineInHand begun physical = some line)
    (continued : continuedPart line = some part) (rest : List (List Char)) :
    joinLines begun (physical :: rest) = joinLines (some part) rest := by
  simp only [joinLines_cons, endedLine, leftOpen, inHand, Option.bind_some, continued,
    Option.isNone_some, Bool.false_eq_true, if_false, Option.toList_none, List.nil_append]

end OneLine

/-! ## Series of physical lines -/

/-- What a series of physical lines leaves to be continued. -/
def openAfter (begun : Option (List Char)) (lines : List (List Char)) : Option (List Char) :=
  lines.foldl leftOpen begun

/-- The logical lines that end within a series of physical lines. -/
def linesEndedIn : (begun : Option (List Char)) -> List (List Char) -> List (List Char)
  | _, [] => []
  | begun, physical :: rest =>
      (endedLine begun physical).toList ++ linesEndedIn (leftOpen begun physical) rest

/-- The second part of a series goes on from what the first has left open. -/
theorem joinLines_append (begun : Option (List Char)) (front back : List (List Char)) :
    joinLines begun (front ++ back) =
      linesEndedIn begun front ++ joinLines (openAfter begun front) back := by
  induction front generalizing begun with
  | nil => rfl
  | cons physical rest inductionHypothesis =>
      rw [List.cons_append, joinLines_cons, inductionHypothesis, linesEndedIn, List.append_assoc]
      rfl

/-! ## Texts from their lines -/

/-- The text with the given lines between its newlines.  Each text is that of the lines that it is
cut into at its newlines. -/
def textOfLines (lines : List (List Char)) : String := String.ofList (['\n'].intercalate lines)

/-- Some lines without the last one, if that is empty. -/
def withoutEmptyEnd (lines : List (List Char)) : List (List Char) :=
  if lines.getLast? = some [] then lines.dropLast else lines

theorem withoutEmptyEnd_append_cons (before after : List (List Char)) {line : List Char}
    (nonempty : line ≠ []) :
    withoutEmptyEnd (before ++ line :: after) = before ++ line :: withoutEmptyEnd after := by
  unfold withoutEmptyEnd
  cases after with
  | nil => simp [nonempty]
  | cons next others =>
      have sameLast : (before ++ line :: next :: others).getLast? = (next :: others).getLast? := by
        simp [List.getLast?_append, List.getLast?_cons]
      rw [sameLast]
      split
      · rw [List.dropLast_append_cons, List.dropLast_cons_of_ne_nil (List.cons_ne_nil _ _)]
      · rfl

theorem physicalLines_textOfLines {lines : List (List Char)} (nonempty : lines ≠ [])
    (oneLine : forall line, line ∈ lines -> '\n' ∉ line) :
    physicalLines (textOfLines lines).toList = withoutEmptyEnd lines := by
  rw [physicalLines, textOfLines, String.toList_ofList, splitAtChar_intercalate nonempty oneLine]
  rfl

/-! ## Lines that stand alone -/

/-- A physical line goes on from no line before it and in no line after it. -/
structure StandsAlone (before : List (List Char)) (line : List Char) : Prop where
  opensNew : openAfter none before = none
  endsHere : continuedPart (trimEnd line) = none

/-- A line that stands alone and is neither blank nor a comment makes up a logical line, which comes
between those of the lines before it and those of the lines behind it. -/
theorem joinLines_of_standsAlone {before after : List (List Char)} {line : List Char}
    (alone : StandsAlone before line) (proper : isBlankOrComment (trimEnd line) = false) :
    joinLines none (before ++ line :: after) =
      linesEndedIn none before ++ trimEnd line :: joinLines none after := by
  have inHand : lineInHand none line = some (trimEnd line) := by
    simp only [lineInHand, proper, Bool.false_eq_true, if_false]
  rw [joinLines_append, alone.opensNew, joinLines_of_ended inHand alone.endsHere, trimEnd_trimEnd]

/-- A comment in its place makes up nothing. -/
theorem joinLines_of_comment {before after : List (List Char)} {comment : List Char}
    (opensNew : openAfter none before = none) (isComment : IsComment comment) :
    joinLines none (before ++ comment :: after) =
      linesEndedIn none before ++ joinLines none after := by
  have inHand : lineInHand none comment = none := by
    simp only [lineInHand, isBlankOrComment_trimEnd, isComment.isBlankOrComment, if_true]
  rw [joinLines_append, opensNew, joinLines_of_passedOver inHand]

/-- Where a line that stands alone pulls in a file, a comment in its place takes its logical line
out of the text and leaves the others. -/
theorem exists_logicalLines_of_commentedOut {before after : List (List Char)}
    {line comment : List Char} {target : String} (alone : StandsAlone before line)
    (includes : includeTarget (String.ofList (trimEnd line)) = some target)
    (isComment : IsComment comment)
    (oneLine : forall part, part ∈ before ++ line :: after -> '\n' ∉ part)
    (commentOneLine : '\n' ∉ comment) :
    Exists fun front => Exists fun back =>
      logicalLines (textOfLines (before ++ line :: after)) =
          front ++ String.ofList (trimEnd line) :: back ∧
        logicalLines (textOfLines (before ++ comment :: after)) = front ++ back := by
  have proper := isBlankOrComment_of_includeTarget includes
  have lineNonempty : line ≠ [] := by
    rintro rfl
    cases proper
  have commentNonempty : comment ≠ [] := by
    rintro rfl
    cases isComment
  have oneLineToo : forall part, part ∈ before ++ comment :: after -> '\n' ∉ part := by
    intro part member
    rcases List.mem_append.mp member with inBefore | later
    · exact oneLine part (List.mem_append_left _ inBefore)
    · rcases List.mem_cons.mp later with rfl | inAfter
      · exact commentOneLine
      · exact oneLine part (List.mem_append_right _ (List.mem_cons_of_mem _ inAfter))
  refine ⟨(linesEndedIn none before).map String.ofList,
    (joinLines none (withoutEmptyEnd after)).map String.ofList, ?_, ?_⟩
  · rw [logicalLines, physicalLines_textOfLines (by simp) oneLine,
      withoutEmptyEnd_append_cons before after lineNonempty,
      joinLines_of_standsAlone alone proper, List.map_append, List.map_cons]
  · rw [logicalLines, physicalLines_textOfLines (by simp) oneLineToo,
      withoutEmptyEnd_append_cons before after commentNonempty,
      joinLines_of_comment alone.opensNew isComment, List.map_append]

end Reminders
