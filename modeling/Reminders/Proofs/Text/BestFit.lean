import Reminders.Text.Wrap

namespace Reminders

/-!
# The best fit costs least

Of all ways to divide fragments into lines the best fit is one whose lines together cost least.  The
cost of an arrangement is found fragment by fragment: a best way to divide the first fragments ends
in some line, and what stands before this line is divided in a best way too.

In particular none of its lines would cost less if it were cut in two.  A line that exceeds the
width pays for each column beyond it, and cutting it pays for the gaps of the two parts, which cost
no more than the squares of the width.  So a line may be too wide, but only by so many columns that
two such gaps are dearer.
-/

/-! ## What lines fill and cost -/

/-- The columns of fragments with all their spaces. -/
def extent : List Fragment -> Nat
  | [] => 0
  | fragment :: rest => fragment.width + fragment.spaces + extent rest

/-- The columns that a line of fragments fills, without the spaces after the last one. -/
def filledBy : List Fragment -> Nat
  | [] => 0
  | [fragment] => fragment.width
  | fragment :: rest => fragment.width + fragment.spaces + filledBy rest

/-- What a line of fragments costs. -/
def costOf (width : Nat) (isLast : Bool) (line : List Fragment) : Nat :=
  costOfLine width (filledBy line) isLast (line.length == 1)

/-- What lines cost together.  The last of them is the last of the text if they end it. -/
def linesCost (width : Nat) (endsText : Bool) : List (List Fragment) -> Nat
  | [] => 0
  | line :: rest => costOf width (endsText && rest.isEmpty) line + linesCost width endsText rest

/-- Fragments are divided into lines, none of which is empty. -/
structure IsDivision (lines : List (List Fragment)) (fragments : List Fragment) : Prop where
  flatten_eq : lines.flatten = fragments
  nonempty : forall line, line ∈ lines -> line ≠ []

theorem extent_append (first second : List Fragment) :
    extent (first ++ second) = extent first + extent second := by
  induction first with
  | nil => rw [List.nil_append, extent, Nat.zero_add]
  | cons fragment rest inductionHypothesis =>
      rw [List.cons_append, extent, inductionHypothesis, extent]
      omega

theorem filledBy_cons (fragment : Fragment) {rest : List Fragment} (nonempty : rest ≠ []) :
    filledBy (fragment :: rest) = fragment.width + fragment.spaces + filledBy rest := by
  cases rest with
  | nil => exact absurd rfl nonempty
  | cons next further => rfl

/-- Only the spaces of the last fragment do not count. -/
theorem filledBy_append (first : List Fragment) {second : List Fragment} (nonempty : second ≠ []) :
    filledBy (first ++ second) = extent first + filledBy second := by
  induction first with
  | nil => rw [List.nil_append, extent, Nat.zero_add]
  | cons fragment rest inductionHypothesis =>
      have further := List.append_ne_nil_of_right_ne_nil rest nonempty
      rw [List.cons_append, filledBy_cons fragment further, inductionHypothesis, extent]
      omega

theorem filledBy_le_extent (line : List Fragment) : filledBy line ≤ extent line := by
  fun_induction filledBy line with
  | case1 => exact Nat.le_refl _
  | case2 fragment => exact Nat.le_add_right _ _
  | case3 fragment rest several inductionHypothesis =>
      rw [extent]
      exact Nat.add_le_add_left inductionHypothesis _

theorem linesCost_append (width : Nat) (endsText : Bool) (first : List (List Fragment))
    {second : List (List Fragment)} (nonempty : second ≠ []) :
    linesCost width endsText (first ++ second) =
      linesCost width false first + linesCost width endsText second := by
  induction first with
  | nil => rw [List.nil_append, linesCost, Nat.zero_add]
  | cons line rest inductionHypothesis =>
      have notLast : (rest ++ second).isEmpty = false :=
        List.isEmpty_eq_false_iff.mpr (List.append_ne_nil_of_right_ne_nil rest nonempty)
      rw [List.cons_append, linesCost, inductionHypothesis, linesCost, notLast, Bool.and_false,
        Bool.false_and, Nat.add_assoc]

theorem linesCost_concat (width : Nat) (endsText : Bool) (lines : List (List Fragment))
    (last : List Fragment) :
    linesCost width endsText (lines ++ [last]) =
      linesCost width false lines + costOf width endsText last := by
  rw [linesCost_append width endsText lines (List.cons_ne_nil last []), linesCost, linesCost,
    List.isEmpty_nil, Bool.and_true, Nat.add_zero]

/-! ## Least arrangements -/

/-- An arrangement of fragments that no division of them into lines undercuts. -/
structure Arrangement.IsLeast (arrangement : Arrangement) (width : Nat) (endsText : Bool)
    (fragments : List Fragment) : Prop where
  columns_eq : arrangement.columns = extent fragments
  attained : Exists fun lines : List (List Fragment) => IsDivision lines fragments ∧
    arrangement.lines = (lines.map List.length).reverse ∧
    arrangement.cost = linesCost width endsText lines
  least : forall lines, IsDivision lines fragments ->
    arrangement.cost ≤ linesCost width endsText lines

/-- Least arrangements of ever fewer fragments.  The fragments are given in reverse, as the longest
arrangement comes first. -/
inductive AreLeast (width : Nat) : List Fragment -> List Arrangement -> Prop where
  | none : AreLeast width [] [⟨0, 0, []⟩]
  | more {fragment : Fragment} {earlier : List Fragment} {best : Arrangement}
      {shorter : List Arrangement}
      (isLeast : best.IsLeast width false (fragment :: earlier).reverse)
      (areLeast : AreLeast width earlier shorter) :
      AreLeast width (fragment :: earlier) (best :: shorter)

theorem isDivision_nil_iff {lines : List (List Fragment)} : IsDivision lines [] ↔ lines = [] := by
  constructor
  · rintro ⟨isEmpty, nonempty⟩
    cases lines with
    | nil => rfl
    | cons line rest =>
        exact absurd (List.flatten_eq_nil_iff.mp isEmpty line List.mem_cons_self)
          (nonempty line List.mem_cons_self)
  · rintro rfl
    exact ⟨rfl, fun line member => absurd member List.not_mem_nil⟩

theorem isDivision_concat_iff {lines : List (List Fragment)} {last fragments : List Fragment} :
    IsDivision (lines ++ [last]) fragments ↔ last ≠ [] ∧
      Exists fun before => IsDivision lines before ∧ before ++ last = fragments := by
  constructor
  · rintro ⟨whole, nonempty⟩
    rw [List.flatten_append, List.flatten_singleton] at whole
    exact ⟨nonempty last (List.mem_append_right _ List.mem_cons_self), lines.flatten,
      ⟨rfl, fun line member => nonempty line (List.mem_append_left _ member)⟩, whole⟩
  · rintro ⟨lastNonempty, before, ⟨rfl, nonempty⟩, rfl⟩
    refine ⟨by rw [List.flatten_append, List.flatten_singleton], ?_⟩
    intro line member
    rcases List.mem_append.mp member with earlier | isLast
    · exact nonempty line earlier
    · rwa [List.mem_singleton.mp isLast]

/-- There is nothing to undercut where there are no fragments. -/
theorem isLeast_nil (width : Nat) : (⟨0, 0, []⟩ : Arrangement).IsLeast width false [] where
  columns_eq := rfl
  attained := ⟨[], isDivision_nil_iff.mpr rfl, rfl, rfl⟩
  least := fun _ _ => Nat.zero_le _

theorem AreLeast.exists_head {width : Nat} {earlier : List Fragment} {reached : List Arrangement}
    (areLeast : AreLeast width earlier reached) :
    Exists fun best : Arrangement => Exists fun shorter : List Arrangement =>
      reached = best :: shorter ∧ best.IsLeast width false earlier.reverse := by
  cases areLeast with
  | none => exact ⟨_, _, rfl, isLeast_nil width⟩
  | more isLeast _ => exact ⟨_, _, rfl, isLeast⟩

/-- An arrangement of the earlier fragments and a line behind them that no division undercuts whose
last line ends in that line. -/
structure Arrangement.IsLeastEndingIn (arrangement : Arrangement) (width : Nat) (endsText : Bool)
    (earlier line : List Fragment) : Prop where
  attained : Exists fun lines : List (List Fragment) => Exists fun start : List Fragment =>
    Exists fun before : List Fragment => IsDivision lines start ∧ start ++ before = earlier ∧
      arrangement.lines = (before ++ line).length :: (lines.map List.length).reverse ∧
      arrangement.cost = linesCost width false lines + costOf width endsText (before ++ line)
  least : forall lines start before, IsDivision lines start -> start ++ before = earlier ->
    arrangement.cost ≤ linesCost width false lines + costOf width endsText (before ++ line)

/-- The last line of a division holds nothing but a given line or also the fragment before it, so no
division undercuts the better of the two. -/
theorem Arrangement.IsLeastEndingIn.least_of_le {width : Nat} {endsText : Bool}
    {start other best : Arrangement} {last : Fragment} {earlier line : List Fragment}
    (endsInMore : other.IsLeastEndingIn width endsText earlier.reverse (last :: line))
    (isLeast : start.IsLeast width false (last :: earlier).reverse)
    (notAfter : best.cost ≤ start.cost + costOf width endsText line)
    (notOther : best.cost ≤ other.cost) (lines : List (List Fragment))
    (first before : List Fragment)
    (divides : IsDivision lines first) (together : first ++ before = (last :: earlier).reverse) :
    best.cost ≤ linesCost width false lines + costOf width endsText (before ++ line) := by
  rcases List.eq_nil_or_concat before with rfl | ⟨between, final, rfl⟩
  · rw [List.append_nil] at together
    rw [together] at divides
    exact Nat.le_trans notAfter (Nat.add_le_add_right (isLeast.least lines divides) _)
  · rw [List.reverse_cons, List.concat_eq_append, ← List.append_assoc] at together
    rcases List.append_inj' together rfl with ⟨sameEarlier, sameLast⟩
    cases sameLast
    have bound := endsInMore.least lines first between divides sameEarlier
    rw [List.concat_eq_append, List.append_assoc, List.singleton_append]
    exact Nat.le_trans notOther bound

/-- Looking at all the least arrangements before a line finds the best of them to go on from. -/
theorem exists_extendBest {width : Nat} {endsText : Bool} {fragment : Fragment}
    {earlier : List Fragment} {reached : List Arrangement}
    (areLeast : AreLeast width earlier reached)
    {line : List Fragment} (nonempty : line ≠ []) {filled : Nat}
    (isFilled : filled = extent earlier.reverse + filledBy line) :
    Exists fun best : Arrangement =>
      extendBest width fragment filled endsText line.length reached = some best ∧
      best.columns = filled + fragment.spaces ∧
      best.IsLeastEndingIn width endsText earlier.reverse line := by
  induction areLeast generalizing line with
  | none =>
      have ownCost : costOfLine width (filled - 0) endsText (line.length == 1) =
          costOf width endsText line := by
        rw [isFilled, List.reverse_nil, extent, Nat.zero_add, Nat.sub_zero, costOf]
      refine ⟨_, rfl, rfl, ⟨[], [], [], isDivision_nil_iff.mpr rfl, rfl, rfl, ?_⟩, ?_⟩
      · simp only [ownCost, linesCost, List.nil_append]
      · intro lines start before divides together
        rcases List.append_eq_nil_iff.mp together with ⟨rfl, rfl⟩
        simp only [ownCost, List.nil_append]
        omega
  | @more last earlier start shorter isLeast areLeast inductionHypothesis =>
      have further : filled = extent earlier.reverse + filledBy (last :: line) := by
        rw [isFilled, List.reverse_cons, extent_append, filledBy_cons last nonempty, extent, extent]
        omega
      have ownCost : costOfLine width (filled - start.columns) endsText (line.length == 1) =
          costOf width endsText line := by
        rw [isFilled, isLeast.columns_eq, Nat.add_sub_cancel_left, costOf]
      rcases inductionHypothesis (List.cons_ne_nil last line) further with
        ⟨other, found, otherColumns, endsInMore⟩
      simp only [extendBest]
      rw [show line.length + 1 = (last :: line).length from rfl, found, ownCost]
      simp only
      split
      · next cheaper =>
          rcases endsInMore.attained with ⟨lines, first, before, divides, together, counts, cost⟩
          have sameLine : before ++ last :: line = before ++ [last] ++ line := by
            rw [List.append_assoc, List.singleton_append]
          rw [sameLine] at counts cost
          refine ⟨other, rfl, otherColumns,
            ⟨lines, first, before ++ [last], divides, ?_, counts, cost⟩,
            endsInMore.least_of_le isLeast cheaper (Nat.le_refl _)⟩
          rw [← List.append_assoc, together, List.reverse_cons]
      · next dearer =>
          rcases isLeast.attained with ⟨lines, divides, counts, cost⟩
          refine ⟨_, rfl, rfl, ⟨lines, _, [], divides, List.append_nil _, ?_, ?_⟩,
            endsInMore.least_of_le isLeast (Nat.le_refl _) (Nat.le_of_not_le dearer)⟩
          · simp only [counts, List.nil_append]
          · simp only [cost, List.nil_append]

/-- Whatever is divided into lines that end in a single fragment is divided before it. -/
theorem Arrangement.IsLeastEndingIn.isLeast {arrangement : Arrangement} {width : Nat}
    {endsText : Bool} {earlier : List Fragment} {last : Fragment}
    (endsIn : arrangement.IsLeastEndingIn width endsText earlier [last])
    (columns : arrangement.columns = extent (earlier ++ [last])) :
    arrangement.IsLeast width endsText (earlier ++ [last]) where
  columns_eq := columns
  attained := by
    rcases endsIn.attained with ⟨lines, start, before, divides, rfl, counts, cost⟩
    have nonempty : before ++ [last] ≠ [] :=
      List.append_ne_nil_of_right_ne_nil before (List.cons_ne_nil last [])
    refine ⟨lines ++ [before ++ [last]], isDivision_concat_iff.mpr ⟨nonempty, start, divides, ?_⟩,
      ?_, ?_⟩
    · rw [List.append_assoc]
    · rw [counts, List.map_append, List.reverse_append]
      rfl
    · rw [cost, linesCost_concat]
  least := by
    intro lines divides
    rcases List.eq_nil_or_concat lines with rfl | ⟨init, final, rfl⟩
    · exact absurd divides.flatten_eq.symm
        (List.append_ne_nil_of_right_ne_nil earlier (List.cons_ne_nil last []))
    · rw [List.concat_eq_append] at divides ⊢
      rcases isDivision_concat_iff.mp divides with ⟨nonempty, start, startDivides, together⟩
      rcases List.eq_nil_or_concat final with rfl | ⟨before, fragment, rfl⟩
      · exact absurd rfl nonempty
      · rw [List.concat_eq_append, ← List.append_assoc] at together
        rcases List.append_inj' together rfl with ⟨sameEarlier, sameLast⟩
        cases sameLast
        rw [linesCost_concat, List.concat_eq_append]
        exact endsIn.least init start before startDivides sameEarlier

/-- Going on fragment by fragment leads to a least arrangement of them all. -/
theorem exists_arrangeFrom {width : Nat} {earlier rest : List Fragment} {reached : List Arrangement}
    (areLeast : AreLeast width earlier reached) (nonempty : rest ≠ []) :
    Exists fun best : Arrangement => Exists fun others : List Arrangement =>
      arrangeFrom width reached rest = best :: others ∧
        best.IsLeast width true (earlier.reverse ++ rest) := by
  induction rest generalizing earlier reached with
  | nil => exact absurd rfl nonempty
  | cons fragment rest inductionHypothesis =>
      rcases areLeast.exists_head with ⟨start, shorter, isReached, isLeast⟩
      have before : (reached.head?.map Arrangement.columns).getD 0 = extent earlier.reverse := by
        rw [isReached]
        exact isLeast.columns_eq
      have goesOn : Exists fun best : Arrangement =>
          extendBest width fragment (extent earlier.reverse + fragment.width) rest.isEmpty 1
              reached =
            some best ∧
          best.columns = extent earlier.reverse + fragment.width + fragment.spaces ∧
          best.IsLeastEndingIn width rest.isEmpty earlier.reverse [fragment] :=
        exists_extendBest areLeast (List.cons_ne_nil fragment []) rfl
      rcases goesOn with ⟨best, found, columns, endsIn⟩
      have isBest : best.IsLeast width rest.isEmpty (earlier.reverse ++ [fragment]) := by
        refine endsIn.isLeast ?_
        rw [columns, extent_append, extent, extent]
        omega
      rw [arrangeFrom, before, found]
      cases rest with
      | nil => exact ⟨best, reached, rfl, isBest⟩
      | cons next further =>
          have isNext : best.IsLeast width false (fragment :: earlier).reverse := by
            rw [List.reverse_cons]
            exact isBest
          rcases inductionHypothesis (AreLeast.more isNext areLeast) (List.cons_ne_nil next further)
            with ⟨whole, others, arranged, isWhole⟩
          rw [List.reverse_cons, List.append_assoc, List.singleton_append] at isWhole
          exact ⟨whole, others, arranged, isWhole⟩

theorem divide_flatten {α : Type} (parts : List (List α)) :
    divide (parts.map List.length) parts.flatten = parts := by
  induction parts with
  | nil => rfl
  | cons part rest inductionHypothesis =>
      rw [List.map_cons, List.flatten_cons, divide, List.take_left, List.drop_left,
        inductionHypothesis]

/-- The best fit divides fragments into lines, and no other division costs less. -/
theorem bestFit_isLeast (width : Nat) {fragments : List Fragment} (nonempty : fragments ≠ []) :
    IsDivision (divide (bestFit width fragments) fragments) fragments ∧
      forall lines, IsDivision lines fragments ->
        linesCost width true (divide (bestFit width fragments) fragments) ≤
          linesCost width true lines := by
  have start : AreLeast width [] [⟨0, 0, []⟩] := AreLeast.none
  rcases exists_arrangeFrom start nonempty with ⟨best, others, arranged, isLeast⟩
  rw [List.reverse_nil, List.nil_append] at isLeast
  rcases isLeast.attained with ⟨lines, divides, counts, cost⟩
  have isFit : divide (bestFit width fragments) fragments = lines := by
    rw [bestFit, arranged]
    simp only [counts, List.reverse_reverse, ← divides.flatten_eq, divide_flatten]
  rw [isFit, ← cost]
  exact ⟨divides, isLeast.least⟩

/-! ## Cutting a line in two -/

/-- A line is not undercut by its parts: cut in two anywhere, it would cost no less. -/
def IsUncut (width : Nat) (isLast : Bool) (line : List Fragment) : Prop :=
  forall first second, first ≠ [] -> second ≠ [] -> line = first ++ second ->
    costOf width isLast line ≤ costOf width false first + costOf width isLast second

/-- No line of the best fit would cost less if it were cut in two. -/
theorem isUncut_of_mem_bestFit {width : Nat} {fragments line : List Fragment}
    (nonempty : fragments ≠ []) (member : line ∈ divide (bestFit width fragments) fragments) :
    Exists fun isLast => IsUncut width isLast line := by
  rcases bestFit_isLeast width nonempty with ⟨divides, least⟩
  rcases List.append_of_mem member with ⟨before, after, isFit⟩
  rw [isFit] at divides least
  refine ⟨after.isEmpty, ?_⟩
  rintro first second hasFirst hasSecond rfl
  have otherDivision : IsDivision (before ++ first :: second :: after) fragments := by
    refine ⟨?_, ?_⟩
    · rw [← divides.flatten_eq]
      simp
    · intro part isPart
      have parts : forall part, part ∈ before ∨ part ∈ after -> part ≠ [] := fun part outside =>
        divides.nonempty part (by
          rcases outside with earlier | later
          · exact List.mem_append_left _ earlier
          · exact List.mem_append_right _ (List.mem_cons_of_mem _ later))
      simp only [List.mem_append, List.mem_cons] at isPart
      rcases isPart with earlier | rfl | rfl | later
      · exact parts part (Or.inl earlier)
      · exact hasFirst
      · exact hasSecond
      · exact parts part (Or.inr later)
  have notCheaper := least _ otherDivision
  rw [linesCost_append _ _ _ (List.cons_ne_nil _ _), linesCost_append _ _ _ (List.cons_ne_nil _ _)]
    at notCheaper
  simp only [linesCost, Bool.true_and, List.isEmpty_cons] at notCheaper
  omega

/-! ## Overhang -/

/-- How far a line of the best fit may reach beyond the width: as far as two gaps are dear, or twice
as far as one is. -/
def overhang (width : Nat) : Nat :=
  max ((lineCost + 2 * (width * width)) / overflowCost)
    (2 * ((lineCost + width * width) / overflowCost))

/-- A line that fits costs no more than an empty one. -/
theorem costOf_le_of_fits {width : Nat} (wide : 5 ≤ width) (isLast : Bool) {line : List Fragment}
    (fits : filledBy line ≤ width) : costOf width isLast line ≤ lineCost + width * width := by
  have gap : (width - filledBy line) * (width - filledBy line) ≤ width * width :=
    Nat.mul_le_mul (Nat.sub_le _ _) (Nat.sub_le _ _)
  have short : shortLastLineCost ≤ width * width := Nat.mul_le_mul wide wide
  rw [costOf, costOfLine, if_neg (Nat.not_lt.mpr fits)]
  refine Nat.add_le_add_left ?_ _
  split
  · exact gap
  · split
    · exact short
    · exact Nat.zero_le _

theorem costOf_of_exceeds {width : Nat} (isLast : Bool) {line : List Fragment}
    (exceeds : width < filledBy line) :
    costOf width isLast line = lineCost + (filledBy line - width) * overflowCost := by
  rw [costOf, costOfLine, if_pos exceeds]

/-- A line that grows too wide does so with some fragment. -/
theorem exists_exceeding_fragment {width : Nat} (rest : List Fragment) {first : List Fragment}
    (fits : filledBy first ≤ width) (exceeds : width < filledBy (first ++ rest)) :
    Exists fun more : List Fragment => Exists fun fragment : Fragment =>
      Exists fun later : List Fragment => rest = more ++ fragment :: later ∧
        filledBy (first ++ more) ≤ width ∧ width < filledBy (first ++ (more ++ [fragment])) := by
  induction rest generalizing first with
  | nil =>
      rw [List.append_nil] at exceeds
      omega
  | cons fragment rest inductionHypothesis =>
      rcases Nat.lt_or_ge width (filledBy (first ++ [fragment])) with here | notHere
      · exact ⟨[], fragment, rest, rfl, by rwa [List.append_nil], here⟩
      · rw [← List.singleton_append, ← List.append_assoc] at exceeds
        rcases inductionHypothesis notHere exceeds with ⟨more, next, later, rfl, before, after⟩
        rw [List.append_assoc] at before after
        exact ⟨fragment :: more, next, later, rfl, before, after⟩

section

variable {width : Nat} {isLast : Bool} {first second : List Fragment}

/-- Where both parts of a line fit, the columns beyond the width are no dearer than two gaps. -/
theorem overflow_le_of_parts_fit (wide : 5 ≤ width) (hasFirst : first ≠ [])
    (hasSecond : second ≠ []) (uncut : IsUncut width isLast (first ++ second))
    (exceeds : width < filledBy (first ++ second))
    (firstFits : filledBy first ≤ width) (secondFits : filledBy second ≤ width) :
    (filledBy (first ++ second) - width) * overflowCost ≤ lineCost + 2 * (width * width) := by
  have cut := uncut first second hasFirst hasSecond rfl
  have cheapFirst := costOf_le_of_fits wide false firstFits
  have cheapSecond := costOf_le_of_fits wide isLast secondFits
  rw [costOf_of_exceeds isLast exceeds] at cut
  omega

/-- A first part that fits is short if the second part exceeds the width by itself: its columns are
no dearer than the gap that it leaves. -/
theorem extent_le_of_second_exceeds (wide : 5 ≤ width) (hasFirst : first ≠ [])
    (hasSecond : second ≠ []) (uncut : IsUncut width isLast (first ++ second))
    (firstFits : filledBy first ≤ width) (secondExceeds : width < filledBy second) :
    extent first * overflowCost ≤ lineCost + width * width := by
  have cut := uncut first second hasFirst hasSecond rfl
  have cheapFirst := costOf_le_of_fits wide false firstFits
  have whole := filledBy_append first hasSecond
  rw [costOf_of_exceeds isLast (by omega), costOf_of_exceeds isLast secondExceeds, whole] at cut
  simp only [lineCost, overflowCost] at *
  omega

/-- The same holds of a second part behind one that exceeds the width.  It does fit, as two parts
that exceed the width save the columns of a whole line. -/
theorem filledBy_le_of_first_exceeds (wide : 5 ≤ width) (hasFirst : first ≠ [])
    (hasSecond : second ≠ []) (uncut : IsUncut width isLast (first ++ second))
    (firstExceeds : width < filledBy first) :
    (extent first - filledBy first + filledBy second) * overflowCost ≤
      lineCost + width * width := by
  have cut := uncut first second hasFirst hasSecond rfl
  have whole := filledBy_append first hasSecond
  have trailing := filledBy_le_extent first
  rw [costOf_of_exceeds isLast (by omega), costOf_of_exceeds false firstExceeds, whole] at cut
  have secondFits : filledBy second ≤ width := by
    rcases Nat.lt_or_ge width (filledBy second) with secondExceeds | secondFits
    · rw [costOf_of_exceeds isLast secondExceeds] at cut
      simp only [lineCost, overflowCost] at cut
      omega
    · exact secondFits
  have cheapSecond := costOf_le_of_fits wide isLast secondFits
  simp only [lineCost, overflowCost] at *
  omega

end

/-- A line that no cut undercuts exceeds the width by no more than the overhang if each of its
fragments fits.  It is cut before and after the fragment with which it grows too wide. -/
theorem filledBy_le_of_isUncut {width : Nat} (wide : 5 ≤ width) {isLast : Bool}
    {line : List Fragment} (uncut : IsUncut width isLast line)
    (fit : forall fragment, fragment ∈ line -> fragment.width ≤ width) :
    filledBy line ≤ width + overhang width := by
  rcases Nat.lt_or_ge width (filledBy line) with exceeds | fits
  · have empty : filledBy [] ≤ width := Nat.zero_le width
    rcases exists_exceeding_fragment line empty exceeds with
      ⟨first, fragment, rest, rfl, firstFits, throughExceeds⟩
    rw [List.nil_append] at firstFits throughExceeds
    have ownWidth := fit fragment (List.mem_append_right _ List.mem_cons_self)
    have through : filledBy (first ++ [fragment]) = extent first + fragment.width :=
      filledBy_append first (List.cons_ne_nil fragment [])
    have hasFirst : first ≠ [] := by
      rintro rfl
      rw [extent, Nat.zero_add] at through
      omega
    have hasSecond : fragment :: rest ≠ [] := List.cons_ne_nil fragment rest
    rcases Nat.lt_or_ge width (filledBy (fragment :: rest)) with secondExceeds | secondFits
    · have hasRest : rest ≠ [] := by
        rintro rfl
        rw [filledBy] at secondExceeds
        omega
      have before := extent_le_of_second_exceeds wide hasFirst hasSecond uncut firstFits
        secondExceeds
      rw [← List.singleton_append, ← List.append_assoc] at uncut ⊢
      have behind := filledBy_le_of_first_exceeds wide
        (List.append_ne_nil_of_left_ne_nil hasFirst _) hasRest uncut throughExceeds
      have whole := filledBy_append (first ++ [fragment]) hasRest
      have trailing := filledBy_le_extent (first ++ [fragment])
      simp only [overhang, overflowCost] at *
      omega
    · have beyond := overflow_le_of_parts_fit wide hasFirst hasSecond uncut exceeds firstFits
        secondFits
      simp only [overhang, overflowCost] at *
      omega
  · exact Nat.le_add_right_of_le fits

end Reminders
