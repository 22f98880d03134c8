import Reminders.Text.Wrap.Fragment

namespace Reminders

/-!
# Reading escape sequences in parts

The columns of a text are those of its parts if the reading of a part goes on in the state in which
the part before it was left.  A part that is read by itself is read from outside of all sequences.
So widths of parts may be added up where no sequence is left unfinished between two of them.

Words begin behind characters that are shown, and what is cut off for its width is followed by one.
Only the cuts at hyphens do not look at sequences: a hyphen may stand inside of one.
-/

namespace EscapeState

/-- The state after a text. -/
def after (state : EscapeState) (text : List Char) : EscapeState := text.foldl step state

theorem after_append (state : EscapeState) (first second : List Char) :
    state.after (first ++ second) = (state.after first).after second :=
  List.foldl_append

theorem after_cons (state : EscapeState) (c : Char) (rest : List Char) :
    state.after (c :: rest) = (state.step c).after rest := rfl

/-- A character is shown outside of sequences, and it begins none. -/
theorem shows_iff {state : EscapeState} {c : Char} :
    state.shows c = true ↔ state = outside ∧ c ≠ escape := by
  simp [shows]

theorem step_of_shows {state : EscapeState} {c : Char} (shown : state.shows c = true) :
    state.step c = outside := by
  rcases shows_iff.mp shown with ⟨rfl, notEscape⟩
  rw [step, if_neg notEscape]

end EscapeState

/-- A part that is read on from where the one before it was left fills the same columns. -/
theorem columnsFrom_append (state : EscapeState) (first second : List Char) :
    columnsFrom state (first ++ second) =
      columnsFrom state first + columnsFrom (state.after first) second := by
  induction first generalizing state with
  | nil => rw [List.nil_append, columnsFrom, Nat.zero_add, EscapeState.after, List.foldl_nil]
  | cons c rest inductionHypothesis =>
      rw [List.cons_append, columnsFrom, columnsFrom, inductionHypothesis, EscapeState.after_cons,
        Nat.add_assoc]

theorem columns_append {first : List Char} (settled : EscapeState.outside.after first = .outside)
    (second : List Char) : columns (first ++ second) = columns first + columns second := by
  rw [columns, columnsFrom_append, settled, columns, columns]

/-- A text fills no more columns without its end. -/
theorem columns_le_columns_append (first second : List Char) :
    columns first ≤ columns (first ++ second) := by
  rw [columns, columns, columnsFrom_append]
  exact Nat.le_add_right _ _

theorem columnsFrom_replicate_space_le (state : EscapeState) (count : Nat) :
    columnsFrom state (List.replicate count ' ') ≤ count := by
  induction count generalizing state with
  | zero => exact Nat.le_refl 0
  | succ count inductionHypothesis =>
      have further := inductionHypothesis (state.step ' ')
      have single : (if state.shows ' ' then charWidth ' ' else 0) ≤ 1 := by
        split <;> decide
      rw [List.replicate_succ, columnsFrom]
      omega

/-! ## Cells -/

/-- The escape sequences before a character that is shown are finished. -/
theorem after_cell {state : EscapeState} {hidden text : List Char}
    (pending : EscapeState.outside.after hidden = state) {cell : Cell}
    (member : cell ∈ (cellsFrom state hidden text).1) :
    EscapeState.outside.after cell.text = .outside := by
  induction text generalizing state hidden with
  | nil => cases member
  | cons c rest inductionHypothesis =>
      have further : EscapeState.outside.after (hidden ++ [c]) = state.step c := by
        rw [EscapeState.after_append, pending]
        rfl
      rw [cellsFrom] at member
      split at member
      · next shown =>
          have settled := EscapeState.step_of_shows shown
          have nothingPending : EscapeState.outside.after [] = state.step c := settled.symm
          rcases List.mem_cons.mp member with rfl | later
          · exact further.trans settled
          · exact inductionHypothesis nothingPending later
      · exact inductionHypothesis further member

/-! ## Hyphens -/

/-- Whether a hyphen stands inside of an escape sequence. -/
def hidesHyphen (state : EscapeState) : List Char -> Bool
  | [] => false
  | c :: rest => (c == '-' && !state.shows c) || hidesHyphen (state.step c) rest

theorem hidesHyphen_append (state : EscapeState) (first second : List Char) :
    hidesHyphen state (first ++ second) =
      (hidesHyphen state first || hidesHyphen (state.after first) second) := by
  induction first generalizing state with
  | nil => rw [List.nil_append, hidesHyphen, Bool.false_or, EscapeState.after, List.foldl_nil]
  | cons c rest inductionHypothesis =>
      rw [List.cons_append, hidesHyphen, hidesHyphen, inductionHypothesis, EscapeState.after_cons,
        Bool.or_assoc]

/-! ## Parts -/

/-- Between two of the parts, read one after the other, no escape sequence is left unfinished. -/
def AreSettled (state : EscapeState) : List (List Char) -> Prop
  | [] => True
  | [_] => True
  | part :: rest => state.after part = .outside ∧ AreSettled .outside rest

theorem areSettled_cons {state : EscapeState} {part : List Char} {rest : List (List Char)}
    (settled : rest ≠ [] -> state.after part = .outside) (further : AreSettled .outside rest) :
    AreSettled state (part :: rest) := by
  cases rest with
  | nil => trivial
  | cons next later => exact ⟨settled (List.cons_ne_nil next later), further⟩

theorem AreSettled.tail {state : EscapeState} {part : List Char} {rest : List (List Char)}
    (areSettled : AreSettled state (part :: rest)) : AreSettled .outside rest := by
  cases rest with
  | nil => trivial
  | cons next later => exact areSettled.2

theorem AreSettled.head {state : EscapeState} {part : List Char} {rest : List (List Char)}
    (areSettled : AreSettled state (part :: rest)) (nonempty : rest ≠ []) :
    state.after part = .outside := by
  cases rest with
  | nil => exact absurd rfl nonempty
  | cons next later => exact areSettled.1

/-- What is appended to the last part is behind all the places that are looked at. -/
theorem areSettled_appendToLast {state : EscapeState} (trailing : List Char)
    {parts : List (List Char)} (areSettled : AreSettled state parts) :
    AreSettled state (appendToLast trailing parts) := by
  induction parts generalizing state with
  | nil =>
      rw [appendToLast]
      split <;> trivial
  | cons part rest inductionHypothesis =>
      cases rest with
      | nil => trivial
      | cons next later =>
          exact areSettled_cons (fun _ => areSettled.1) (inductionHypothesis areSettled.2)

theorem areSettled_of_forall {parts : List (List Char)}
    (settled : forall part, part ∈ parts -> EscapeState.outside.after part = .outside) :
    AreSettled .outside parts := by
  induction parts with
  | nil => trivial
  | cons part rest inductionHypothesis =>
      exact areSettled_cons (fun _ => settled part List.mem_cons_self)
        (inductionHypothesis fun other member => settled other (List.mem_cons_of_mem part member))

/-- Parts behind a text that is finished may be read on their own. -/
theorem areSettled_append {state : EscapeState} {first second : List (List Char)}
    (firstSettled : AreSettled state first) (settled : state.after first.flatten = .outside)
    (secondSettled : AreSettled .outside second) : AreSettled state (first ++ second) := by
  induction first generalizing state with
  | nil =>
      rw [List.flatten_nil, EscapeState.after, List.foldl_nil] at settled
      rw [settled]
      exact secondSettled
  | cons part rest inductionHypothesis =>
      rw [List.flatten_cons, EscapeState.after_append] at settled
      cases rest with
      | nil => exact areSettled_cons (fun _ => settled) secondSettled
      | cons next later =>
          rw [firstSettled.1] at settled
          exact areSettled_cons (fun _ => firstSettled.1)
            (inductionHypothesis firstSettled.2 settled)

/-- Parts in a row stay settled by themselves. -/
theorem AreSettled.of_append {first second : List (List Char)}
    (areSettled : AreSettled .outside (first ++ second)) :
    AreSettled .outside first ∧ AreSettled .outside second := by
  induction first with
  | nil => exact ⟨trivial, areSettled⟩
  | cons part rest inductionHypothesis =>
      rcases inductionHypothesis areSettled.tail with ⟨restSettled, secondSettled⟩
      refine ⟨areSettled_cons (fun nonempty => ?_) restSettled, secondSettled⟩
      exact areSettled.head (List.append_ne_nil_of_left_ne_nil nonempty second)

/-- Each part of a text without hidden hyphens has no hidden hyphens when it is read by itself. -/
theorem hidesHyphen_of_mem {parts : List (List Char)} (areSettled : AreSettled .outside parts)
    (free : hidesHyphen .outside parts.flatten = false) {part : List Char} (member : part ∈ parts) :
    hidesHyphen .outside part = false := by
  induction parts with
  | nil => cases member
  | cons first rest inductionHypothesis =>
      rw [List.flatten_cons, hidesHyphen_append, Bool.or_eq_false_iff] at free
      rcases List.mem_cons.mp member with rfl | later
      · exact free.1
      · have settled := areSettled.head (List.ne_nil_of_mem later)
        rw [settled] at free
        exact inductionHypothesis areSettled.tail free.2 later

/-! ## Fragments -/

/-- No cut between words lies inside of an escape sequence. -/
theorem areSettled_words (text : List Char) :
    AreSettled .outside ((words text).map Fragment.full) := by
  have nothingPending : EscapeState.outside.after [] = .outside := rfl
  have cellsSettled : forall cell, cell ∈ (cells text).1 ->
      EscapeState.outside.after cell.text = .outside :=
    fun cell member => after_cell nothingPending member
  have joined (stretch : List Cell)
      (settled : forall cell, cell ∈ stretch -> EscapeState.outside.after cell.text = .outside) :
      EscapeState.outside.after (stretch.flatMap Cell.text) = .outside := by
    induction stretch with
    | nil => rfl
    | cons cell rest inductionHypothesis =>
        rw [List.flatMap_cons, EscapeState.after_append, settled cell List.mem_cons_self]
        exact inductionHypothesis fun other member =>
          settled other (List.mem_cons_of_mem cell member)
  have fulls : forall texts : List (List Char),
      (texts.map Fragment.ofText).map Fragment.full = texts := fun texts => by
    rw [List.map_map]
    exact List.map_id'' Fragment.full_ofText texts
  simp only [words, fulls]
  refine areSettled_appendToLast _ (areSettled_of_forall ?_)
  intro part member
  rcases List.mem_map.mp member with ⟨stretch, isStretch, rfl⟩
  refine joined stretch fun cell inStretch => cellsSettled cell ?_
  rw [← flatten_wordStretches (cells text).1]
  exact List.mem_flatten.mpr ⟨stretch, isStretch, inStretch⟩

/-- Cuts at hyphens that are shown lie outside of escape sequences. -/
theorem areSettled_cutAtHyphens {state : EscapeState} (before : Option Char) {text : List Char}
    (free : hidesHyphen state text = false) : AreSettled state (cutAtHyphens before text) := by
  induction text generalizing state before with
  | nil => trivial
  | cons c rest inductionHypothesis =>
      rw [hidesHyphen, Bool.or_eq_false_iff] at free
      have further := inductionHypothesis (some c) free.2
      rw [cutAtHyphens]
      split
      · next isCut =>
          have shown : state.shows c = true := by
            simpa [isCut.1] using free.1
          have settled := EscapeState.step_of_shows shown
          rw [settled] at further
          exact areSettled_cons (fun _ => settled) further
      · split
        · next part later parts =>
            rw [parts] at further
            exact areSettled_cons (fun nonempty => further.head nonempty) further.tail
        · trivial

/-- What is cut off for its width ends before a character that is shown. -/
theorem areSettled_cutAtWidth (limit : Nat) {state : EscapeState} {piece : List Char} (width : Nat)
    {text : List Char} (read : EscapeState.outside.after piece.reverse = state) :
    AreSettled .outside (cutAtWidth limit state piece width text) := by
  induction text generalizing state piece width with
  | nil =>
      rw [cutAtWidth]
      split <;> trivial
  | cons c rest inductionHypothesis =>
      have further : EscapeState.outside.after (c :: piece).reverse = state.step c := by
        rw [List.reverse_cons, EscapeState.after_append, read]
        rfl
      rw [cutAtWidth]
      split
      · next shown =>
          split
          · have settled := (EscapeState.shows_iff.mp shown).1
            rw [settled] at read ⊢
            exact areSettled_cons (fun _ => read) (inductionHypothesis _ rfl)
          · exact inductionHypothesis _ further
      · exact inductionHypothesis _ further

theorem map_full_series (spaces : Nat) {texts : List (List Char)} (nonempty : texts ≠ []) :
    (Fragment.series spaces texts).map Fragment.full =
      appendToLast (List.replicate spaces ' ') texts := by
  fun_induction Fragment.series spaces texts with
  | case1 => exact absurd rfl nonempty
  | case2 text => rfl
  | case3 text rest several inductionHypothesis =>
      rw [List.map_cons, inductionHypothesis several, appendToLast, Fragment.full,
        List.replicate_zero, List.append_nil]
      exact several

theorem areSettled_series {state : EscapeState} (spaces : Nat) {texts : List (List Char)}
    (areSettled : AreSettled state texts) :
    AreSettled state ((Fragment.series spaces texts).map Fragment.full) := by
  cases texts with
  | nil => trivial
  | cons text rest =>
      rw [map_full_series spaces (List.cons_ne_nil text rest)]
      exact areSettled_appendToLast _ areSettled

/-- Fragments may be cut further where that cuts no escape sequence of theirs. -/
theorem areSettled_flatMap {cut : Fragment -> List Fragment}
    (keeps : forall fragment, (cut fragment).flatMap Fragment.full = fragment.full)
    {fragments : List Fragment} (areSettled : AreSettled .outside (fragments.map Fragment.full))
    (cutSettled : forall fragment, fragment ∈ fragments ->
      AreSettled .outside ((cut fragment).map Fragment.full)) :
    AreSettled .outside ((fragments.flatMap cut).map Fragment.full) := by
  induction fragments with
  | nil => trivial
  | cons fragment rest inductionHypothesis =>
      have own := cutSettled fragment List.mem_cons_self
      have further := inductionHypothesis areSettled.tail fun other member =>
        cutSettled other (List.mem_cons_of_mem fragment member)
      rw [List.flatMap_cons, List.map_append]
      cases rest with
      | nil =>
          rw [List.flatMap_nil, List.map_nil, List.append_nil]
          exact own
      | cons next later =>
          refine areSettled_append own ?_ further
          rw [← List.flatMap_def, keeps]
          exact areSettled.head (List.cons_ne_nil _ _)

/-- No cut between the fragments of a text lies inside of an escape sequence if no hyphen does. -/
theorem areSettled_fragments (limit : Nat) {text : List Char}
    (free : hidesHyphen .outside text = false) :
    AreSettled .outside ((fragments limit text).map Fragment.full) := by
  have whole : ((words text).map Fragment.full).flatten = text := by
    rw [← List.flatMap_def, flatMap_full_words]
  rw [← whole] at free
  refine areSettled_flatMap (Fragment.flatMap_full_splitAtWidth limit)
    (areSettled_flatMap Fragment.flatMap_full_splitAtHyphens (areSettled_words text) ?_) ?_
  · intro word member
    have wordFree := hidesHyphen_of_mem (areSettled_words text) free (List.mem_map_of_mem member)
    rw [Fragment.full, hidesHyphen_append, Bool.or_eq_false_iff] at wordFree
    exact areSettled_series word.spaces (areSettled_cutAtHyphens none wordFree.1)
  · intro part _
    rw [Fragment.splitAtWidth]
    split
    · have nothingRead : EscapeState.outside.after ([] : List Char).reverse = .outside := rfl
      exact areSettled_series part.spaces (areSettled_cutAtWidth limit 0 nothingRead)
    · trivial

end Reminders
