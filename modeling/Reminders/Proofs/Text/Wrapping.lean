import Mathlib.Algebra.GroupWithZero.Nat
import Mathlib.Data.List.SplitLengths
import Reminders.Text.Wrap

namespace Reminders

/-!
# What wrapping keeps

However a text is broken into lines, the fragments on the lines are the fragments of the text, each
on one line and in their order.  This is a property of the search for the best fit: whatever
the costs are, an arrangement of some fragments accounts for each of them once, because a line that
begins after a shorter arrangement holds just the fragments that are missing there.

So a text always comes to at least one line, and a line holds characters of the text only, and no
newline among them.
-/

/-! ## The best fit -/

/-- The arrangements of ever fewer fragments, of which the first lacks `count` fragments of `total`
and each further one a fragment more. -/
def AreShorter (total : Nat) : (count : Nat) -> List Arrangement -> Prop
  | _, [] => True
  | count, start :: shorter =>
      count + start.lines.sum = total ∧ AreShorter total (count + 1) shorter

/-- A fragment more is missing everywhere if one is added to the total. -/
theorem AreShorter.succ {total count : Nat} {reached : List Arrangement}
    (shorter : AreShorter total count reached) : AreShorter (total + 1) (count + 1) reached := by
  induction reached generalizing count with
  | nil => trivial
  | cons start rest inductionHypothesis =>
      rcases shorter with ⟨missing, further⟩
      exact ⟨by omega, inductionHypothesis further⟩

/-- A line that is put after a shorter arrangement completes it. -/
theorem sum_lines_of_extendBest {width total : Nat} {fragment : Fragment} {filled : Nat}
    {isLast : Bool} {count : Nat} {reached : List Arrangement} {best : Arrangement}
    (shorter : AreShorter total count reached)
    (found : extendBest width fragment filled isLast count reached = some best) :
    best.lines.sum = total := by
  induction reached generalizing count best with
  | nil => cases found
  | cons start rest inductionHypothesis =>
      rcases shorter with ⟨missing, further⟩
      simp only [extendBest] at found
      split at found
      · next other foundRest =>
          split at found
          · cases found
            exact inductionHypothesis further foundRest
          · cases found
            simpa using missing
      · cases found
        simpa using missing

/-- There is a best way to go on from any arrangements. -/
theorem isSome_extendBest (width : Nat) (fragment : Fragment) (filled : Nat) (isLast : Bool)
    (count : Nat) {reached : List Arrangement} (nonempty : reached ≠ []) :
    (extendBest width fragment filled isLast count reached).isSome := by
  cases reached with
  | nil => exact absurd rfl nonempty
  | cons start rest =>
      simp only [extendBest]
      split
      · split <;> rfl
      · rfl

/-- Adding fragments one by one leads from arrangements of the first fragments to arrangements of
all. -/
theorem areShorter_arrangeFrom (width : Nat) {total : Nat} {reached : List Arrangement}
    (fragments : List Fragment) (nonempty : reached ≠ []) (shorter : AreShorter total 0 reached) :
    arrangeFrom width reached fragments ≠ [] ∧
      AreShorter (total + fragments.length) 0 (arrangeFrom width reached fragments) := by
  induction fragments generalizing total reached with
  | nil => exact ⟨nonempty, shorter⟩
  | cons fragment rest inductionHypothesis =>
      rw [arrangeFrom]
      rcases Option.isSome_iff_exists.mp (isSome_extendBest width fragment
        ((reached.head?.map Arrangement.columns).getD 0 + fragment.width) rest.isEmpty 1 nonempty)
        with ⟨best, found⟩
      simp only [found]
      have complete := sum_lines_of_extendBest shorter.succ found
      have longer : AreShorter (total + 1) 0 (best :: reached) :=
        ⟨by rw [Nat.zero_add, complete], shorter.succ⟩
      rw [List.length_cons, Nat.add_comm rest.length, ← Nat.add_assoc]
      exact inductionHypothesis (List.cons_ne_nil best reached) longer

/-- The best fit puts every fragment on a line. -/
theorem sum_bestFit (width : Nat) (fragments : List Fragment) :
    (bestFit width fragments).sum = fragments.length := by
  have start : AreShorter 0 0 [⟨0, 0, []⟩] := ⟨rfl, trivial⟩
  rcases areShorter_arrangeFrom width fragments (List.cons_ne_nil _ _) start with
    ⟨nonempty, shorter⟩
  unfold bestFit
  split
  · next best others found =>
      rw [found] at shorter
      have complete := shorter.1
      rw [List.sum_reverse]
      omega
  · next empty => exact absurd empty nonempty

theorem divide_eq_splitLengths {α : Type} (counts : List Nat) (items : List α) :
    divide counts items = counts.splitLengths items := by
  induction counts generalizing items with
  | nil => rfl
  | cons count rest inductionHypothesis =>
      rw [divide, List.splitLengths_cons, inductionHypothesis]

/-- The fragments on the lines of a best fit, one line after the other, are all the fragments. -/
theorem flatten_divide_bestFit (width : Nat) (fragments : List Fragment) :
    (divide (bestFit width fragments) fragments).flatten = fragments := by
  rw [divide_eq_splitLengths]
  exact List.flatten_splitLengths _ _ (Nat.le_of_eq (sum_bestFit width fragments).symm)

/-! ## Lines -/

/-- Only spaces at the end of a text are dropped. -/
theorem exists_dropTrailingSpaces_append (text : List Char) :
    Exists fun count => text = dropTrailingSpaces text ++ List.replicate count ' ' :=
  ⟨_, (Fragment.full_ofText text).symm⟩

/-- A line shows its fragments up to the spaces after the last one. -/
theorem exists_lineText_append (fragments : List Fragment) :
    Exists fun count =>
      fragments.flatMap Fragment.full = lineText fragments ++ List.replicate count ' ' := by
  fun_induction lineText fragments with
  | case1 => exact ⟨0, rfl⟩
  | case2 fragment => exact ⟨fragment.spaces, by rw [List.flatMap_singleton, Fragment.full]⟩
  | case3 fragment rest several inductionHypothesis =>
      rcases inductionHypothesis with ⟨count, ends⟩
      exact ⟨count, by rw [List.flatMap_cons, ends, List.append_assoc]⟩

theorem wrapLine_ne_nil (width : Nat) (line : List Char) : wrapLine width line ≠ [] := by
  unfold wrapLine
  split
  · exact List.cons_ne_nil _ _
  · next wide =>
      intro empty
      have noLines := List.map_eq_nil_iff.mp empty
      have noFragments := flatten_divide_bestFit width (fragments width line)
      rw [noLines, List.flatten_nil] at noFragments
      have whole := flatMap_full_fragments width line
      rw [← noFragments, List.flatMap_nil] at whole
      rw [← whole] at wide
      exact wide rfl

theorem subset_of_mem_wrapLine {width : Nat} {line part : List Char}
    (member : part ∈ wrapLine width line) : part ⊆ line := by
  unfold wrapLine at member
  split at member
  · rw [List.mem_singleton.mp member]
    rcases exists_dropTrailingSpaces_append line with ⟨count, ends⟩
    intro c shown
    rw [ends]
    exact List.mem_append_left _ shown
  · rcases List.mem_map.mp member with ⟨onLine, isLine, rfl⟩
    rcases exists_lineText_append onLine with ⟨count, ends⟩
    intro c shown
    have inFragments : c ∈ onLine.flatMap Fragment.full := by
      rw [ends]
      exact List.mem_append_left _ shown
    rcases List.mem_flatMap.mp inFragments with ⟨fragment, inLine, inFragment⟩
    rw [← flatMap_full_fragments width line]
    refine List.mem_flatMap.mpr ⟨fragment, ?_, inFragment⟩
    rw [← flatten_divide_bestFit width (fragments width line)]
    exact List.mem_flatten.mpr ⟨onLine, isLine, inLine⟩

/-- Every text comes to at least one line. -/
theorem wrap_ne_nil (width : Nat) (text : List Char) : wrap width text ≠ [] := by
  unfold wrap
  intro empty
  cases parts : splitAtChar '\n' text with
  | nil => exact splitAtChar_ne_nil '\n' text parts
  | cons first rest =>
      rw [parts, List.flatMap_cons] at empty
      exact wrapLine_ne_nil width first (List.append_eq_nil_iff.mp empty).1

/-- No line holds a newline. -/
theorem newline_notMem_of_mem_wrap {width : Nat} {text line : List Char}
    (member : line ∈ wrap width text) : '\n' ∉ line := by
  rcases List.mem_flatMap.mp member with ⟨part, isPart, isLine⟩
  intro newline
  exact not_mem_of_mem_splitAtChar isPart (subset_of_mem_wrapLine isLine newline)

end Reminders
