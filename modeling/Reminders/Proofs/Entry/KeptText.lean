import Reminders.Proofs.Entry.Lines

namespace Reminders

/-!
# What the lines keep of a text

A text that is set on lines loses nothing but spaces and newlines, and these only between the lines:
behind a line some spaces are lost, and then at most one newline.  The fragments of a part are the
part, however they are put on lines, and a line shows its fragments up to the spaces behind the
last one; so what remains to be followed is the newline behind the last line of a part.

All other characters are therefore shown, each once and in their order, whatever the width.
-/

/-! ## Losses between lines -/

/-- What may be lost behind a line: some spaces, and then a newline or nothing. -/
def IsLost (characters : List Char) : Prop :=
  Exists fun count => Exists fun ending => (ending = [] ∨ ending = ['\n']) ∧
    characters = List.replicate count ' ' ++ ending

/-- A text consists of the given lines and of what is lost behind each of them. -/
inductive IsSetOn : (text : List Char) -> (lines : List (List Char)) -> Prop where
  | nothing : IsSetOn [] []
  | line {line lost text : List Char} {lines : List (List Char)} (isLost : IsLost lost)
      (further : IsSetOn text lines) : IsSetOn (line ++ (lost ++ text)) (line :: lines)

theorem IsSetOn.append {first second : List Char} {firstLines secondLines : List (List Char)}
    (isFirst : IsSetOn first firstLines) (isSecond : IsSetOn second secondLines) :
    IsSetOn (first ++ second) (firstLines ++ secondLines) := by
  induction isFirst with
  | nothing => exact isSecond
  | line isLost _ inductionHypothesis =>
      rw [List.append_assoc, List.append_assoc, List.cons_append]
      exact .line isLost inductionHypothesis

/-- A line that loses nothing but spaces and its ending. -/
theorem isSetOn_singleton (line : List Char) (count : Nat) {ending : List Char}
    (ends : ending = [] ∨ ending = ['\n']) :
    IsSetOn (line ++ List.replicate count ' ' ++ ending) [line] := by
  have set : IsSetOn (line ++ (List.replicate count ' ' ++ ending ++ [])) [line] :=
    .line ⟨count, ending, ends, rfl⟩ .nothing
  rwa [List.append_nil, ← List.append_assoc] at set

/-- Neither a space nor a newline. -/
def isInk (c : Char) : Bool := c != ' ' && c != '\n'

theorem IsLost.filter_isInk {lost : List Char} (isLost : IsLost lost) : lost.filter isInk = [] := by
  rcases isLost with ⟨count, ending, ends, rfl⟩
  have noSpace : (List.replicate count ' ').filter isInk = [] :=
    List.filter_replicate_of_neg (by decide)
  rw [List.filter_append, noSpace]
  rcases ends with rfl | rfl <;> rfl

/-- Whatever is neither a space nor a newline stands on the lines. -/
theorem IsSetOn.filter_isInk {text : List Char} {lines : List (List Char)}
    (isSetOn : IsSetOn text lines) : text.filter isInk = lines.flatten.filter isInk := by
  induction isSetOn with
  | nothing => rfl
  | line isLost _ inductionHypothesis =>
      rw [List.filter_append, List.filter_append, isLost.filter_isInk, List.nil_append,
        inductionHypothesis, List.flatten_cons, List.filter_append]

/-! ## Wrapping -/

/-- Only behind the last of some lines of fragments the ending is lost, too. -/
theorem isSetOn_map_lineText {ending : List Char} (ends : ending = [] ∨ ending = ['\n'])
    {onLines : List (List Fragment)} (nonempty : onLines ≠ []) :
    IsSetOn (onLines.flatten.flatMap Fragment.full ++ ending) (onLines.map lineText) := by
  induction onLines with
  | nil => exact absurd rfl nonempty
  | cons onLine rest inductionHypothesis =>
      rcases exists_lineText_append onLine with ⟨count, shown⟩
      rw [List.flatten_cons, List.flatMap_append, shown, List.map_cons]
      cases rest with
      | nil =>
          rw [List.flatten_nil, List.flatMap_nil, List.append_nil]
          exact isSetOn_singleton _ count ends
      | cons next others =>
          have first := isSetOn_singleton (lineText onLine) count (Or.inl rfl)
          have set := first.append (inductionHypothesis (List.cons_ne_nil next others))
          rwa [List.append_nil, ← List.append_assoc] at set

/-- A line of a text is set on the lines that it is broken into, with its ending. -/
theorem isSetOn_wrapLine (width : Nat) (line : List Char) {ending : List Char}
    (ends : ending = [] ∨ ending = ['\n']) : IsSetOn (line ++ ending) (wrapLine width line) := by
  have someLine := wrapLine_ne_nil width line
  unfold wrapLine at someLine ⊢
  split
  · rcases exists_dropTrailingSpaces_append line with ⟨count, shown⟩
    have set := isSetOn_singleton (dropTrailingSpaces line) count ends
    rwa [← shown] at set
  · next wide =>
      rw [if_neg wide] at someLine
      have set := isSetOn_map_lineText ends (mt List.map_eq_nil_iff.mpr someLine)
      rwa [flatten_divide_bestFit, flatMap_full_fragments] at set

/-- The newlines between the parts of a text are lost behind the last lines of the parts. -/
theorem isSetOn_intercalate (width : Nat) {parts : List (List Char)} (nonempty : parts ≠ []) :
    IsSetOn (['\n'].intercalate parts) (parts.flatMap (wrapLine width)) := by
  induction parts with
  | nil => exact absurd rfl nonempty
  | cons part rest inductionHypothesis =>
      rw [List.flatMap_cons]
      cases rest with
      | nil => simpa using isSetOn_wrapLine width part (Or.inl rfl)
      | cons next others =>
          have first := isSetOn_wrapLine width part (Or.inr rfl)
          rw [List.intercalate_cons_cons]
          exact first.append (inductionHypothesis (List.cons_ne_nil next others))

theorem isSetOn_wrap (width : Nat) (text : List Char) : IsSetOn text (wrap width text) := by
  have set := isSetOn_intercalate width (splitAtChar_ne_nil '\n' text)
  rwa [intercalate_splitAtChar] at set

/-- An empty line of the text is kept, and so are spaces at the front of a line. -/
example : wrap 20 "one \n\n  two".toList = ["one".toList, [], "  two".toList] := by decide

/-! ## Entries -/

theorem drop_append_ofList (front : String) (part : List Char) :
    (front ++ String.ofList part).toList.drop front.length = part := by
  rw [String.toList_append, String.toList_ofList, ← String.length_toList, List.drop_left]

namespace Entry

/-- What the lines of an entry show of its text: the first one behind the head, the others behind
the indent. -/
def lineTexts (width : Nat) (entry : Entry) : List (List Char) :=
  match entry.lines width with
  | [] => []
  | first :: further =>
      first.toList.drop entry.head.length :: further.map fun line => line.toList.drop textColumn

/-- The texts of the lines are those that the text of the entry is wrapped to. -/
theorem lineTexts_eq (width : Nat) (entry : Entry) :
    entry.lineTexts width = wrap (textWidth width) entry.reminder.text.toList := by
  unfold lineTexts lines
  cases wrap (textWidth width) entry.reminder.text.toList with
  | nil => rfl
  | cons first further =>
      have behindIndent (part : List Char) :
          (spaces textColumn ++ String.ofList part).toList.drop textColumn = part := by
        have dropped := drop_append_ofList (spaces textColumn) part
        rwa [length_spaces] at dropped
      simp only [List.map_cons, List.map_map, drop_append_ofList, Function.comp_def, behindIndent,
        List.map_id']

/-- The lines of an entry begin with its head and then with the indent. -/
theorem exists_lineTexts (width : Nat) (entry : Entry) :
    Exists fun first => Exists fun further =>
      entry.lineTexts width = first :: further ∧
        entry.lines width = (entry.head ++ String.ofList first) ::
          further.map fun part => spaces textColumn ++ String.ofList part := by
  rw [lineTexts_eq]
  unfold lines
  cases wrapped : wrap (textWidth width) entry.reminder.text.toList with
  | nil => exact absurd wrapped (wrap_ne_nil _ _)
  | cons first further =>
      refine ⟨first, further, rfl, ?_⟩
      simp only [List.map_cons, List.map_map, Function.comp_def]

/-- Without spaces and newlines, the text is what the lines show of it without spaces. -/
theorem filter_lineTexts (width : Nat) (entry : Entry) :
    entry.reminder.text.toList.filter isInk =
      (entry.lineTexts width).flatten.filter (· != ' ') := by
  rw [(isSetOn_wrap (textWidth width) _).filter_isInk, ← lineTexts_eq]
  refine List.filter_congr fun c member => ?_
  rcases List.mem_flatten.mp member with ⟨part, isPart, inPart⟩
  rw [lineTexts_eq] at isPart
  have noNewline : c ≠ '\n' := by
    rintro rfl
    exact newline_notMem_of_mem_wrap isPart inPart
  rw [isInk, bne_iff_ne.mpr noNewline, Bool.and_true]

end Entry

/-- An entry is laid out on at least one line.  Its text is that of its lines, behind the head and
the indents, with nothing but spaces and at most one newline lost behind each; no newline is left on
a line.  So the lines show all the rest of the text in its order, and they do so at any width. -/
theorem lines_lose_only_spaces (entry : Entry) :
    (forall width : Nat,
      (Exists fun first => Exists fun further =>
        entry.lineTexts width = first :: further ∧
          entry.lines width = (entry.head ++ String.ofList first) ::
            further.map fun part => spaces textColumn ++ String.ofList part) ∧
      (forall part, part ∈ entry.lineTexts width -> '\n' ∉ part) ∧
      IsSetOn entry.reminder.text.toList (entry.lineTexts width) ∧
      entry.reminder.text.toList.filter isInk =
        (entry.lineTexts width).flatMap (List.filter (· != ' '))) ∧
    forall width other : Nat, (entry.lineTexts width).flatMap (List.filter (· != ' ')) =
      (entry.lineTexts other).flatMap (List.filter (· != ' ')) := by
  have shown (width : Nat) : entry.reminder.text.toList.filter isInk =
      (entry.lineTexts width).flatMap (List.filter (· != ' ')) := by
    rw [entry.filter_lineTexts width, List.filter_flatten, List.flatMap_def]
  refine ⟨fun width => ⟨entry.exists_lineTexts width, ?_, ?_, shown width⟩, ?_⟩
  · intro part isPart
    rw [Entry.lineTexts_eq] at isPart
    exact newline_notMem_of_mem_wrap isPart
  · rw [Entry.lineTexts_eq]
    exact isSetOn_wrap _ _
  · intro width other
    rw [← shown width, shown other]

end Reminders
