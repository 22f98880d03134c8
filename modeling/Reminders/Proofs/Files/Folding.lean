import Reminders.Proofs.Files.BlankLine
import Reminders.Proofs.Reminder.RoundTrip

namespace Reminders

/-!
# Folded lines

A line can be folded at any single space between two characters that are not blank: a backslash
behind the space ends the physical line, and the rest of the line stands on the next one.  Blanks
may stand on both sides of the break.  A document is made of such lines, with blank lines and
comments in front of, between and behind them, and reading it gives the lines back.

Whether a physical line goes on is judged by all of the line that has been read so far, and not by
this physical line.  At a fold that is the line up to a space and a backslash, whatever its last
piece looks like: so after each fold the reader holds the line up to and with the space of the fold,
and nothing else.  At the end it holds the line itself, which is handed on if it does not ask for a
continuation of its own.
-/

/-! ## Trimming -/

/-- The first character is there and not blank. -/
def BeginsShown (text : List Char) : Prop :=
  Exists fun c => text.head? = some c ∧ isBlank c = false

theorem BeginsShown.ne_nil {text : List Char} (begins : BeginsShown text) : text ≠ [] := by
  rintro rfl
  rcases begins with ⟨c, isFirst, -⟩
  cases isFirst

/-- Blanks in front of a text that begins with another character are trimmed. -/
theorem trimStart_append {indent text : List Char} (isIndent : IsBlankRun indent)
    (begins : BeginsShown text) : trimStart (indent ++ text) = text := by
  rcases begins with ⟨c, isFirst, notBlank⟩
  rcases List.head?_eq_some_iff.mp isFirst with ⟨later, rfl⟩
  rw [trimStart, List.dropWhile_append_of_pos (List.all_eq_true.mp isIndent.areBlank),
    List.dropWhile_cons_of_neg (by rw [notBlank]; exact Bool.false_ne_true)]

theorem Trimmed.prepend {text : List Char} (trimmed : Trimmed text) (nonempty : text ≠ [])
    (front : List Char) : Trimmed (front ++ text) := by
  intro c isLast
  rw [List.getLast?_append_of_ne_nil front nonempty] at isLast
  exact trimmed c isLast

theorem Trimmed.of_append {front text : List Char} (nonempty : text ≠ [])
    (trimmed : Trimmed (front ++ text)) : Trimmed text := by
  intro c isLast
  apply trimmed
  rwa [List.getLast?_append_of_ne_nil front nonempty]

/-- What stands behind a character that is not blank does not make a line blank or a comment. -/
theorem isBlankOrComment_append_cons (front : List Char) {c : Char} (notBlank : isBlank c = false)
    (text : List Char) :
    isBlankOrComment (front ++ c :: text) = isBlankOrComment (front ++ [c]) := by
  have starts (text : List Char) : trimStart (front ++ c :: text) =
      if (trimStart front).isEmpty then c :: text else trimStart front ++ c :: text := by
    rw [trimStart, List.dropWhile_append, List.dropWhile_cons_of_neg (by simp [notBlank])]
    rfl
  unfold isBlankOrComment
  rw [starts, starts]
  cases trimStart front <;> rfl

/-! ## Lines and their foldings -/

/-- A line that the reader hands on as it stands. -/
structure IsClean (line : List Char) : Prop where
  oneLine : '\n' ∉ line
  proper : isBlankOrComment line = false
  trimmed : Trimmed line
  endsHere : continuedPart line = none

/-- The ways to write a line: it is folded at some single spaces between characters that are not
blank, or at none. -/
inductive Folded : (line written : List Char) -> Prop where
  | whole (line : List Char) : Folded line line
  | fold {front back written margin indent : List Char} {last next : Char}
      (lastShown : isBlank last = false) (nextShown : isBlank next = false)
      (isMargin : IsBlankRun margin) (isIndent : IsBlankRun indent)
      (further : Folded (next :: back) written) :
      Folded (front ++ last :: ' ' :: next :: back)
        (front ++ last :: ' ' :: '\\' :: (margin ++ '\n' :: (indent ++ written)))

/-- A document and the lines that it is made of, each folded in some way and ended by blanks and a
newline, which may be missing at the end.  Blank lines and comments stand wherever a line may
begin. -/
inductive DocumentOf : (lines : List (List Char)) -> (text : List Char) -> Prop where
  | ends {part : List Char} (isPassedOver : isBlankOrComment part = true) (oneLine : '\n' ∉ part) :
      DocumentOf [] part
  | passesOver {part text : List Char} {lines : List (List Char)}
      (isPassedOver : isBlankOrComment part = true) (oneLine : '\n' ∉ part)
      (further : DocumentOf lines text) : DocumentOf lines (part ++ '\n' :: text)
  | endsWith {line written margin : List Char} (clean : IsClean line) (folded : Folded line written)
      (isMargin : IsBlankRun margin) : DocumentOf [line] (written ++ margin)
  | line {line written margin text : List Char} {lines : List (List Char)} (clean : IsClean line)
      (folded : Folded line written) (isMargin : IsBlankRun margin)
      (further : DocumentOf lines text) :
      DocumentOf (line :: lines) (written ++ margin ++ '\n' :: text)

/-! ## Reading a physical line -/

variable {body margin indent : List Char}

/-- What begins a logical line is taken up without the blanks behind it. -/
theorem lineInHand_none (trimmed : Trimmed body) (proper : isBlankOrComment body = false)
    (isMargin : IsBlankRun margin) : lineInHand none (body ++ margin) = some body := by
  simp only [lineInHand, isMargin.trimEnd_append, trimEnd_of_trimmed trimmed, proper,
    Bool.false_eq_true, if_false]

/-- What goes on in a line is taken up without the blanks around it. -/
theorem lineInHand_some (begun : List Char) (begins : BeginsShown body) (trimmed : Trimmed body)
    (isIndent : IsBlankRun indent) (isMargin : IsBlankRun margin) :
    lineInHand (some begun) (indent ++ body ++ margin) = some (begun ++ body) := by
  simp only [lineInHand, isMargin.trimEnd_append,
    trimEnd_of_trimmed (trimmed.prepend begins.ne_nil indent), trimStart_append isIndent begins]

/-- A physical line with nothing but blanks or a comment is passed over. -/
theorem lineInHand_of_passedOver {part : List Char} (isPassedOver : isBlankOrComment part = true) :
    lineInHand none part = none := by
  rw [lineInHand, isBlankOrComment_trimEnd, isPassedOver, if_pos rfl]

/-! ## Reading a folded line -/

/-- What is left of a line of which a part was begun. -/
structure IsRest (begun line : List Char) : Prop where
  begins : BeginsShown line
  oneLine : '\n' ∉ line
  trimmed : Trimmed line
  endsHere : continuedPart (begun ++ line) = none

section Fold

variable {begun front back written foldMargin foldIndent : List Char} {last next : Char}

/-- What a fold leaves on the first physical line ends in the backslash. -/
theorem trimmed_fold (front : List Char) (last : Char) : Trimmed (front ++ [last, ' ', '\\']) := by
  have backslash : Trimmed [last, ' ', '\\'] := by
    intro c isLast
    cases isLast
    exact (by decide : isBlank '\\' = false)
  exact backslash.prepend (List.cons_ne_nil _ _) front

/-- Behind a fold the line goes on with the character behind its space. -/
theorem isRest_of_fold (nextShown : isBlank next = false)
    (oneLine : '\n' ∉ front ++ last :: ' ' :: next :: back)
    (trimmed : Trimmed (front ++ last :: ' ' :: next :: back))
    (endsHere : continuedPart (begun ++ (front ++ last :: ' ' :: next :: back)) = none) :
    IsRest (begun ++ (front ++ [last, ' '])) (next :: back) where
  begins := ⟨next, rfl, nextShown⟩
  oneLine := fun member => oneLine
    (List.mem_append_right _ (List.mem_cons_of_mem _ (List.mem_cons_of_mem _ member)))
  trimmed := by
    have whole : front ++ last :: ' ' :: next :: back = front ++ [last, ' '] ++ next :: back := by
      simp
    rw [whole] at trimmed
    exact trimmed.of_append (List.cons_ne_nil _ _)
  endsHere := by simpa using endsHere

/-- At a fold the reader keeps the line up to and with its space, and goes on behind the break. -/
theorem joinLines_fold {reached : Option (List Char)}
    (oneLine : '\n' ∉ front ++ last :: ' ' :: next :: back) (lastShown : isBlank last = false)
    (isIndent : IsBlankRun indent) (isFoldMargin : IsBlankRun foldMargin)
    (inHand : lineInHand reached (indent ++ (front ++ [last, ' ', '\\']) ++ foldMargin) =
      some (begun ++ (front ++ [last, ' ', '\\']))) (rest : List (List Char)) :
    joinLines reached (splitAtChar '\n' (indent ++ (front ++ last :: ' ' :: '\\' ::
        (foldMargin ++ '\n' :: (foldIndent ++ written))) ++ margin) ++ rest) =
      joinLines (some (begun ++ (front ++ [last, ' '])))
        (splitAtChar '\n' (foldIndent ++ written ++ margin) ++ rest) := by
  have free : '\n' ∉ indent ++ (front ++ [last, ' ', '\\']) ++ foldMargin := by
    have noIndent := isIndent.oneLine
    have noMargin := isFoldMargin.oneLine
    simp_all
  have cut : indent ++ (front ++ last :: ' ' :: '\\' ::
        (foldMargin ++ '\n' :: (foldIndent ++ written))) ++ margin =
      (indent ++ (front ++ [last, ' ', '\\']) ++ foldMargin) ++
        '\n' :: (foldIndent ++ written ++ margin) := by simp
  have continued : continuedPart (begun ++ (front ++ [last, ' ', '\\'])) =
      some (begun ++ (front ++ [last, ' '])) := by
    refine continuedPart_eq_some_iff.mpr ⟨by simp, begun ++ front, last, by simp, lastShown⟩
  rw [cut, splitAtChar_append free, List.cons_append, joinLines_of_continued inHand continued]

end Fold

/-- What is left of a line behind a fold is taken up to the end of the line, fold by fold. -/
theorem joinLines_of_folded {line written : List Char} (folded : Folded line written)
    {begun indent margin : List Char} (isRest : IsRest begun line) (isIndent : IsBlankRun indent)
    (isMargin : IsBlankRun margin) (rest : List (List Char)) :
    joinLines (some begun) (splitAtChar '\n' (indent ++ written ++ margin) ++ rest) =
      (begun ++ line) :: joinLines none rest := by
  -- The induction is on the folds; what was begun grows by a piece of the line at each.
  induction folded generalizing begun indent with
  | whole line =>
      have free : '\n' ∉ indent ++ line ++ margin := by
        have noNewline := isRest.oneLine
        have noIndent := isIndent.oneLine
        have noMargin := isMargin.oneLine
        simp_all
      have inHand := lineInHand_some begun isRest.begins isRest.trimmed isIndent isMargin
      rw [splitAtChar_of_not_mem free, List.singleton_append,
        joinLines_of_ended inHand isRest.endsHere,
        trimEnd_of_trimmed (isRest.trimmed.prepend isRest.begins.ne_nil begun)]
  | @fold front back _ _ _ last next lastShown nextShown isFoldMargin isFoldIndent _
      inductionHypothesis =>
      have beginsFold : BeginsShown (front ++ [last, ' ', '\\']) := by
        rcases isRest.begins with ⟨c, isFirst, notBlank⟩
        refine ⟨c, ?_, notBlank⟩
        rwa [List.head?_append, List.head?_cons] at isFirst ⊢
      have inHand :=
        lineInHand_some begun beginsFold (trimmed_fold front last) isIndent isFoldMargin
      have behind := isRest_of_fold nextShown isRest.oneLine isRest.trimmed isRest.endsHere
      rw [joinLines_fold isRest.oneLine lastShown isIndent isFoldMargin inHand,
        inductionHypothesis behind isFoldIndent]
      simp

/-- However a clean line is folded, it is read as the line. -/
theorem joinLines_of_clean {line written margin : List Char} (clean : IsClean line)
    (folded : Folded line written) (isMargin : IsBlankRun margin) (rest : List (List Char)) :
    joinLines none (splitAtChar '\n' (written ++ margin) ++ rest) =
      line :: joinLines none rest := by
  rcases clean with ⟨oneLine, proper, trimmed, endsHere⟩
  cases folded with
  | whole =>
      have free : '\n' ∉ line ++ margin := by
        have noMargin := isMargin.oneLine
        simp_all
      rw [splitAtChar_of_not_mem free, List.singleton_append,
        joinLines_of_ended (lineInHand_none trimmed proper isMargin) endsHere,
        trimEnd_of_trimmed trimmed]
  | @fold front back written foldMargin _ last next lastShown nextShown isFoldMargin isFoldIndent
      further =>
      have properFold : isBlankOrComment (front ++ [last, ' ', '\\']) = false := by
        rw [isBlankOrComment_append_cons front lastShown] at proper ⊢
        exact proper
      have inHand : lineInHand none ([] ++ (front ++ [last, ' ', '\\']) ++ foldMargin) =
          some ([] ++ (front ++ [last, ' ', '\\'])) :=
        lineInHand_none (trimmed_fold front last) properFold isFoldMargin
      have behind : IsRest ([] ++ (front ++ [last, ' '])) (next :: back) :=
        isRest_of_fold nextShown oneLine trimmed endsHere
      refine (joinLines_fold oneLine lastShown isBlankRun_nil isFoldMargin inHand rest).trans ?_
      rw [joinLines_of_folded further behind isFoldIndent isMargin]
      simp

/-- The physical lines of a document make up its lines. -/
theorem joinLines_of_document {lines : List (List Char)} {text : List Char}
    (isDocument : DocumentOf lines text) : joinLines none (splitAtChar '\n' text) = lines := by
  induction isDocument with
  | ends isPassedOver oneLine =>
      rw [splitAtChar_of_not_mem oneLine,
        joinLines_of_passedOver (lineInHand_of_passedOver isPassedOver), joinLines]
  | passesOver isPassedOver oneLine _ inductionHypothesis =>
      rw [splitAtChar_append oneLine,
        joinLines_of_passedOver (lineInHand_of_passedOver isPassedOver), inductionHypothesis]
  | endsWith clean folded isMargin =>
      have read := joinLines_of_clean clean folded isMargin []
      rwa [List.append_nil, joinLines] at read
  | line clean folded isMargin _ inductionHypothesis =>
      rw [splitAtChar_append_cons, joinLines_of_clean clean folded isMargin, inductionHypothesis]

/-- Reading a document gives back the lines that it is made of, in whatever way they are folded. -/
theorem folding_is_undone {lines : List String} {document : String}
    (isDocument : DocumentOf (lines.map String.toList) document.toList) :
    logicalLines document = lines := by
  have texts : lines.map (String.ofList ∘ String.toList) = lines := by
    simp [Function.comp_def]
  rw [logicalLines_eq, joinLines_of_document isDocument, List.map_map, texts]

/-- A line folded in front of a hash, around a lone backslash and behind another one, and one that
ends in a backslash, among comments that seem to go on. -/
theorem folded_hash_and_backslashes_read_back :
    let lines := ["1 SMTWTFS #a \\ b\\ c", "\t2 S-----S two  \\"]
    let document := "# head \\\n1 SMTWTFS \\\r\n\t#a \\\n\\ \\\n b\\ \\\nc\t\r\n\n  # again \\\n" ++
      "\t2 S-----S two  \\ \r"
    DocumentOf (lines.map String.toList) document.toList ∧ logicalLines document = lines := by
  intro lines document
  have isBlank_return : IsBlankRun ['\r'] := ⟨by decide, by decide⟩
  have isBlank_tab : IsBlankRun ['\t'] := ⟨by decide, by decide⟩
  have isBlank_space : IsBlankRun [' '] := ⟨by decide, by decide⟩
  have fromC : Folded "c".toList "c".toList := .whole _
  have fromB : Folded "b\\ c".toList "b\\ \\\nc".toList :=
    @Folded.fold "b".toList [] _ [] [] '\\' 'c' rfl rfl isBlankRun_nil isBlankRun_nil fromC
  have fromBackslash : Folded "\\ b\\ c".toList "\\ \\\n b\\ \\\nc".toList :=
    @Folded.fold [] "\\ c".toList _ [] [' '] '\\' 'b' rfl rfl isBlankRun_nil isBlank_space fromB
  have fromHash : Folded "#a \\ b\\ c".toList "#a \\\n\\ \\\n b\\ \\\nc".toList :=
    @Folded.fold "#".toList " b\\ c".toList _ [] [] 'a' '\\' rfl rfl isBlankRun_nil isBlankRun_nil
      fromBackslash
  have firstFolded : Folded "1 SMTWTFS #a \\ b\\ c".toList
      "1 SMTWTFS \\\r\n\t#a \\\n\\ \\\n b\\ \\\nc".toList :=
    @Folded.fold "1 SMTWTF".toList "a \\ b\\ c".toList _ ['\r'] ['\t'] 'S' '#' rfl rfl
      isBlank_return isBlank_tab fromHash
  have firstClean : IsClean "1 SMTWTFS #a \\ b\\ c".toList :=
    ⟨by decide, by decide, by intro c isLast; cases isLast; decide, by decide⟩
  have secondClean : IsClean "\t2 S-----S two  \\".toList :=
    ⟨by decide, by decide, by intro c isLast; cases isLast; decide, by decide⟩
  have cut : document.toList = "# head \\".toList ++ '\n' ::
      ("1 SMTWTFS \\\r\n\t#a \\\n\\ \\\n b\\ \\\nc".toList ++ "\t\r".toList ++ '\n' ::
        ([] ++ '\n' :: ("  # again \\".toList ++ '\n' ::
          ("\t2 S-----S two  \\".toList ++ " \r".toList)))) := by
    decide
  have isDocument : DocumentOf (lines.map String.toList) document.toList := by
    rw [cut]
    refine .passesOver (by decide) (by decide) (.line firstClean firstFolded ?_ ?_)
    · exact ⟨by decide, by decide⟩
    · refine .passesOver rfl (by decide) (.passesOver (by decide) (by decide) ?_)
      exact .endsWith secondClean (.whole _) ⟨by decide, by decide⟩
  exact ⟨isDocument, folding_is_undone isDocument⟩

end Reminders
