import Reminders.Proofs.Text.BestFit
import Reminders.Proofs.Text.Escapes
import Reminders.Proofs.Text.Wrapping

namespace Reminders

/-!
# How wide wrapped lines are

No fragment of a text is wider than a line, and a line fills no more columns than its fragments with
the spaces between them.  A text that is not cut has fewer bytes than the line has columns, and no
character fills more columns than it has bytes.  So lines exceed the width by no more than the best
fit lets them, unless a text hides hyphens in escape sequences: it may be cut there, and what passes
for part of a sequence when it is read from the cut on may be shown on the line.
-/

/-! ## Characters -/

theorem charWidth_le_three (c : Char) : charWidth c ≤ 3 := by
  unfold charWidth
  repeat' split
  all_goals omega

/-- The wide characters begin with the Hangul consonants. -/
theorem le_toNat_of_isWide {c : Char} (wide : isWide c = true) : 0x1100 ≤ c.toNat := by
  rw [isWide, wideRanges, inRanges, Bool.and_eq_true] at wide
  exact of_decide_eq_true wide.1

/-- No character of one or two bytes fills more than one column, and none fills more than three. -/
theorem charWidth_le_utf8Size (c : Char) : charWidth c ≤ c.utf8Size := by
  have positive := Char.utf8Size_pos c
  have long (large : 0x800 ≤ c.toNat) : 3 ≤ c.utf8Size := by
    have notOne : c.utf8Size ≠ 1 := fun one => by
      have small : c.toNat ≤ 127 := Char.utf8Size_eq_one_iff.mp one
      omega
    have notTwo : c.utf8Size ≠ 2 := fun two => by
      have small : c.toNat ≤ 2047 := (Char.utf8Size_eq_two_iff.mp two).2
      omega
    omega
  unfold charWidth
  split
  · omega
  · split
    · omega
    · split
      · omega
      · split
        · omega
        · split
          · next wide =>
              have large := le_toNat_of_isWide wide
              omega
          · omega

/-- A text fills no more columns than it has bytes. -/
theorem columnsFrom_le_byteLength (state : EscapeState) (text : List Char) :
    columnsFrom state text ≤ byteLength text := by
  induction text generalizing state with
  | nil => exact Nat.le_refl 0
  | cons c rest inductionHypothesis =>
      have further := inductionHypothesis (state.step c)
      have own := charWidth_le_utf8Size c
      rw [columnsFrom, byteLength]
      split <;> omega

/-! ## Fragments -/

/-- What is cut off for its width is no wider than the limit. -/
theorem columns_le_of_mem_cutAtWidth {limit : Nat} (wide : 3 ≤ limit) {state : EscapeState}
    {piece text : List Char} {width : Nat} (read : EscapeState.outside.after piece.reverse = state)
    (filled : columns piece.reverse = width) (fits : width ≤ limit) {part : List Char}
    (member : part ∈ cutAtWidth limit state piece width text) : columns part ≤ limit := by
  induction text generalizing state piece width with
  | nil =>
      rw [cutAtWidth] at member
      split at member
      · cases member
      · rw [List.mem_singleton.mp member]
        omega
  | cons c rest inductionHypothesis =>
      have narrow := charWidth_le_three c
      have further : EscapeState.outside.after (c :: piece).reverse = state.step c := by
        rw [List.reverse_cons, EscapeState.after_append, read]
        rfl
      have longer : columns (c :: piece).reverse =
          width + if state.shows c then charWidth c else 0 := by
        rw [columns, List.reverse_cons, columnsFrom_append, read, ← filled]
        rfl
      rw [cutAtWidth] at member
      split at member
      · next shown =>
          rw [if_pos shown] at longer
          split at member
          · have settled := (EscapeState.shows_iff.mp shown).1
            rcases List.mem_cons.mp member with rfl | later
            · omega
            · have single : columns [c].reverse = charWidth c := by
                rw [settled] at shown
                show (if EscapeState.outside.shows c then charWidth c else 0) + 0 = charWidth c
                rw [if_pos shown, Nat.add_zero]
              have ownState : EscapeState.outside.after [c].reverse = state.step c := by
                rw [settled]
                rfl
              exact inductionHypothesis ownState single (by omega) later
          · next notFull => exact inductionHypothesis further longer (by omega) member
      · next hidden =>
          rw [if_neg hidden, Nat.add_zero] at longer
          exact inductionHypothesis further longer fits member

theorem text_mem_of_mem_series {spaces : Nat} {texts : List (List Char)} {fragment : Fragment}
    (member : fragment ∈ Fragment.series spaces texts) : fragment.text ∈ texts := by
  fun_induction Fragment.series spaces texts with
  | case1 => cases member
  | case2 text =>
      rw [List.mem_singleton.mp member]
      exact List.mem_cons_self
  | case3 text rest several inductionHypothesis =>
      rcases List.mem_cons.mp member with rfl | later
      · exact List.mem_cons_self
      · exact List.mem_cons_of_mem text (inductionHypothesis later)

/-- No fragment is wider than a line. -/
theorem width_le_of_mem_fragments {limit : Nat} (wide : 3 ≤ limit) {text : List Char}
    {fragment : Fragment} (member : fragment ∈ fragments limit text) : fragment.width ≤ limit := by
  rcases List.mem_flatMap.mp member with ⟨part, -, isCut⟩
  rw [Fragment.splitAtWidth] at isCut
  split at isCut
  · have nothingRead : EscapeState.outside.after ([] : List Char).reverse = .outside := rfl
    exact columns_le_of_mem_cutAtWidth wide nothingRead rfl (Nat.zero_le limit)
      (text_mem_of_mem_series isCut)
  · next fits =>
      rw [List.mem_singleton.mp isCut]
      exact Nat.not_lt.mp fits

/-- Spaces behind a text fill at most one column each; they may end an escape sequence. -/
theorem columns_full_le (fragment : Fragment) :
    columns fragment.full ≤ fragment.width + fragment.spaces := by
  have trailing := columnsFrom_replicate_space_le
    (EscapeState.outside.after fragment.text) fragment.spaces
  rw [columns, Fragment.full, columnsFrom_append, Fragment.width, columns]
  omega

/-! ## Lines -/

/-- A line fills no more columns than its fragments and the spaces between them. -/
theorem columns_lineText_le {line : List Fragment}
    (areSettled : AreSettled .outside (line.map Fragment.full)) :
    columns (lineText line) ≤ filledBy line := by
  fun_induction lineText line with
  | case1 => exact Nat.le_refl 0
  | case2 fragment => exact Nat.le_refl fragment.width
  | case3 fragment rest several inductionHypothesis =>
      have nonempty : rest.map Fragment.full ≠ [] := fun empty =>
        several (List.map_eq_nil_iff.mp empty)
      have own := columns_full_le fragment
      have further := inductionHypothesis areSettled.tail
      rw [columns_append (areSettled.head nonempty),
        filledBy_cons fragment (fun empty => several empty)]
      omega

/-- A text that is not cut has as many bytes as it has columns, or more. -/
theorem columns_dropTrailingSpaces_le (text : List Char) :
    columns (dropTrailingSpaces text) ≤ byteLength text := by
  rcases exists_dropTrailingSpaces_append text with ⟨count, whole⟩
  have shorter := columns_le_columns_append (dropTrailingSpaces text) (List.replicate count ' ')
  rw [← whole] at shorter
  exact Nat.le_trans shorter (columnsFrom_le_byteLength .outside text)

/-- A line of the best fit exceeds the width by no more than the overhang. -/
theorem columns_le_of_mem_bestFit {width : Nat} (wide : 5 ≤ width) {text : List Char}
    (free : hidesHyphen .outside text = false) {line : List Fragment}
    (member : line ∈ divide (bestFit width (fragments width text)) (fragments width text)) :
    columns (lineText line) ≤ width + overhang width := by
  have nonempty : fragments width text ≠ [] := by
    intro empty
    rw [empty, bestFit, arrangeFrom] at member
    cases member
  rcases isUncut_of_mem_bestFit nonempty member with ⟨isLast, uncut⟩
  have whole := (bestFit_isLeast width nonempty).1.flatten_eq
  have fit : forall fragment, fragment ∈ line -> fragment.width ≤ width := by
    intro fragment inLine
    have isFragment : fragment ∈ fragments width text := by
      rw [← whole]
      exact List.mem_flatten.mpr ⟨line, member, inLine⟩
    exact width_le_of_mem_fragments (Nat.le_trans (by decide) wide) isFragment
  have areSettled := areSettled_fragments width free
  rcases List.append_of_mem member with ⟨before, after, isFit⟩
  rw [isFit] at whole
  simp only [← whole, List.flatten_append, List.flatten_cons, List.map_append] at areSettled
  exact Nat.le_trans (columns_lineText_le areSettled.of_append.2.of_append.1)
    (filledBy_le_of_isUncut wide uncut fit)

/-- A wrapped line exceeds the width by no more than the overhang. -/
theorem columns_le_of_mem_wrapLine {width : Nat} (wide : 5 ≤ width) {text line : List Char}
    (free : hidesHyphen .outside text = false) (member : line ∈ wrapLine width text) :
    columns line ≤ width + overhang width := by
  rw [wrapLine] at member
  split at member
  · next short =>
      rw [List.mem_singleton.mp member]
      have fewBytes := columns_dropTrailingSpaces_le text
      rcases Bool.or_eq_true_iff.mp short with isEmpty | isShort
      · rw [List.isEmpty_iff.mp isEmpty] at fewBytes ⊢
        exact Nat.le_trans fewBytes (Nat.zero_le _)
      · have short := of_decide_eq_true isShort
        omega
  · next long =>
      rcases List.mem_map.mp member with ⟨onLine, isLine, rfl⟩
      exact columns_le_of_mem_bestFit wide free isLine

end Reminders
