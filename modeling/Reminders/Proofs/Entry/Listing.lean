import Mathlib
import Reminders.Entry.Order

namespace Reminders

/-!
# Entries in the order in which they are listed

Every entry has a place in a linear order: overdue entries come first, then dates, priorities and
starts are compared, a missing date before all dates and a missing window after all windows.
A listing of some entries holds the same entries in order of their places, and leaves entries of
one place as they were found.  There is exactly one such listing, and sorting yields it.

The sort itself compares 32-bit starts and stands a number in for a missing window.  As long as no
window starts that late, this is the same order.
-/

/-! ## Stable sortings -/

section

variable {α β : Type} [LinearOrder β] {rank : α -> β}

/-- A list holds the items of another one in order of their ranks, and leaves items of one rank in
the order in which they were found. -/
structure IsStableSorting (rank : α -> β) (found listed : List α) : Prop where
  permutes : listed.Perm found
  ordered : listed.Pairwise fun first second => rank first ≤ rank second
  stable : forall key, (listed.filter fun item => rank item = key) =
    found.filter fun item => rank item = key

/-- The first item of an ordered list has the least rank. -/
private theorem rank_head_le {head item : α} {rest : List α}
    (ordered : (head :: rest).Pairwise fun first second => rank first ≤ rank second)
    (member : item ∈ head :: rest) : rank head ≤ rank item := by
  rcases List.mem_cons.mp member with same | later
  · rw [same]
  · exact List.rel_of_pairwise_cons ordered later

private theorem mem_of_filter_eq {first second : List α} {item : α}
    (same : forall key, (first.filter fun other => rank other = key) =
      second.filter fun other => rank other = key) (member : item ∈ first) : item ∈ second := by
  have kept : item ∈ first.filter fun other => rank other = rank item :=
    List.mem_filter.mpr ⟨member, decide_eq_true rfl⟩
  rw [same] at kept
  exact (List.mem_filter.mp kept).1

/-- Ordered lists that agree on the items of each rank are the same. -/
theorem eq_of_ordered_of_filter_eq {first second : List α}
    (firstOrdered : first.Pairwise fun first second => rank first ≤ rank second)
    (secondOrdered : second.Pairwise fun first second => rank first ≤ rank second)
    (same : forall key, (first.filter fun item => rank item = key) =
      second.filter fun item => rank item = key) : first = second := by
  induction first generalizing second with
  | nil =>
      apply Eq.symm
      apply List.eq_nil_iff_forall_not_mem.mpr
      intro item member
      exact List.not_mem_nil (mem_of_filter_eq (fun key => (same key).symm) member)
  | cons head rest inductionHypothesis =>
      cases second with
      | nil => exact absurd (mem_of_filter_eq same List.mem_cons_self) List.not_mem_nil
      | cons other later =>
          have sameRank : rank head = rank other := by
            apply le_antisymm
            · exact rank_head_le firstOrdered
                (mem_of_filter_eq (fun key => (same key).symm) List.mem_cons_self)
            · exact rank_head_le secondOrdered (mem_of_filter_eq same List.mem_cons_self)
          have headFirst := same (rank head)
          simp only [List.filter_cons, sameRank, decide_true, if_true] at headFirst
          rcases List.cons.inj headFirst with ⟨rfl, sameRest⟩
          apply congrArg (List.cons head)
          apply inductionHypothesis firstOrdered.tail secondOrdered.tail
          intro key
          by_cases own : rank head = key
          · rw [← own, sameRank]
            exact sameRest
          · have others := same key
            rw [List.filter_cons_of_neg (by simpa using own),
              List.filter_cons_of_neg (by simpa using own)] at others
            exact others

theorem IsStableSorting.unique {found first second : List α}
    (firstSorts : IsStableSorting rank found first)
    (secondSorts : IsStableSorting rank found second) : first = second :=
  eq_of_ordered_of_filter_eq firstSorts.ordered secondSorts.ordered
    fun key => (firstSorts.stable key).trans (secondSorts.stable key).symm

/-- Leaving items out of a stable sorting leaves a stable sorting of the others. -/
theorem IsStableSorting.filter {found listed : List α} (sorts : IsStableSorting rank found listed)
    (keeps : α -> Bool) : IsStableSorting rank (found.filter keeps) (listed.filter keeps) := by
  refine ⟨sorts.permutes.filter keeps, sorts.ordered.filter keeps, ?_⟩
  intro key
  rw [List.filter_comm, sorts.stable key, List.filter_comm]

/-- Merge sort yields a stable sorting if its comparison is the order of ranks on the items
found. -/
theorem isStableSorting_mergeSort {mayPrecede : α -> α -> Bool} {found : List α}
    (transitive : forall first second third, mayPrecede first second = true ->
      mayPrecede second third = true -> mayPrecede first third = true)
    (total : forall first second, (mayPrecede first second || mayPrecede second first) = true)
    (byRank : forall first, first ∈ found -> forall second, second ∈ found ->
      (mayPrecede first second = true ↔ rank first ≤ rank second)) :
    IsStableSorting rank found (found.mergeSort mayPrecede) := by
  have permutes := List.mergeSort_perm found mayPrecede
  refine ⟨permutes, ?_, ?_⟩
  · refine (List.pairwise_mergeSort transitive total found).imp_of_mem ?_
    intro first second firstMember secondMember precedes
    exact (byRank first (permutes.mem_iff.mp firstMember) second
      (permutes.mem_iff.mp secondMember)).mp precedes
  · intro key
    -- The items of one rank are in order as they are, so sorting does not rearrange them.
    have inOrder : (found.filter fun item => rank item = key).Pairwise
        fun first second => mayPrecede first second = true := by
      apply List.pairwise_of_forall_mem_list
      intro first firstMember second secondMember
      rcases List.mem_filter.mp firstMember with ⟨firstFound, firstRank⟩
      rcases List.mem_filter.mp secondMember with ⟨secondFound, secondRank⟩
      refine (byRank first firstFound second secondFound).mpr (le_of_eq ?_)
      exact (of_decide_eq_true firstRank).trans (of_decide_eq_true secondRank).symm
    have kept := (List.sublist_mergeSort transitive total inOrder List.filter_sublist).filter
      fun item => decide (rank item = key)
    rw [List.filter_filter] at kept
    simp only [Bool.and_self] at kept
    exact (kept.eq_of_length (permutes.filter _).length_eq.symm).symm

end

/-! ## Places -/

namespace Entry

/-- The place of an entry in the order of entries. -/
def place (entry : Entry) : Bool ×ₗ WithBot Int ×ₗ Nat ×ₗ WithTop Nat :=
  toLex (!entry.overdue, toLex (entry.displayDate.map Date.dayNumber,
    toLex (entry.reminder.priority, entry.reminder.window.map TimeWindow.start)))

instance : Std.TransCmp OrderKey.compare := by
  unfold OrderKey.compare
  infer_instance

theorem mayPrecede_trans (first second third : Entry) (before : mayPrecede first second = true)
    (after : mayPrecede second third = true) : mayPrecede first third = true :=
  Std.TransCmp.isLE_trans before after

theorem mayPrecede_total (first second : Entry) :
    (mayPrecede first second || mayPrecede second first) = true := by
  have swapped : OrderKey.compare second.orderKey first.orderKey =
      (OrderKey.compare first.orderKey second.orderKey).swap := Std.OrientedCmp.eq_swap
  unfold mayPrecede
  rw [swapped]
  cases OrderKey.compare first.orderKey second.orderKey <;> rfl

/-! The comparisons of the four fields, in the terms of the orders that places are made of. -/

private theorem isLE_compareLex_iff {Key : Type} {first second : Key -> Key -> Ordering}
    {left right : Key} :
    (compareLex first second left right).isLE = true ↔
      first left right = .lt ∨ first left right = .eq ∧ (second left right).isLE = true := by
  unfold compareLex
  cases first left right <;> simp [Ordering.then]

private theorem compare_bool_eq_lt {left right : Bool} :
    compare left right = .lt ↔ left < right := by
  cases left <;> cases right <;> decide

private theorem compare_date_eq_lt {left right : Option Int} :
    compare left right = .lt ↔ @LT.lt (WithBot Int) _ left right := by
  cases left with
  | none =>
      cases right with
      | none => exact iff_of_false (by decide) (lt_irrefl (⊥ : WithBot Int))
      | some right => exact iff_of_true rfl (WithBot.bot_lt_coe right)
  | some left =>
      cases right with
      | none =>
          refine iff_of_false ?_ (WithBot.not_lt_bot (left : WithBot Int))
          intro impossible
          cases impossible
      | some right =>
          show compare left right = .lt ↔ (left : WithBot Int) < right
          exact compare_lt_iff_lt.trans WithBot.coe_lt_coe.symm

private theorem isLE_compare_start {left right : Option Nat}
    (leftBound : forall start, left = some start -> start < untimedStart)
    (rightBound : forall start, right = some start -> start < untimedStart) :
    (compare (left.getD untimedStart) (right.getD untimedStart)).isLE = true ↔
      @LE.le (WithTop Nat) _ left right := by
  rw [Nat.isLE_compare]
  cases right with
  | none =>
      refine iff_of_true ?_ (@le_top (WithTop Nat) _ _ left)
      cases left with
      | none => exact Nat.le_refl _
      | some left => exact Nat.le_of_lt (leftBound left rfl)
  | some right =>
      cases left with
      | none =>
          refine iff_of_false ?_ (WithTop.not_top_le_coe right)
          exact Nat.not_le_of_lt (rightBound right rfl)
      | some left => exact WithTop.coe_le_coe.symm

/-- An entry whose window, if it has one, opens before the start that stands in for no window. -/
def OpensInTime (entry : Entry) : Prop :=
  forall start, entry.reminder.window.map TimeWindow.start = some start -> start < untimedStart

/-- Entries are sorted by their places. -/
theorem mayPrecede_iff_place_le {first second : Entry} (firstOpens : first.OpensInTime)
    (secondOpens : second.OpensInTime) :
    mayPrecede first second = true ↔ first.place ≤ second.place := by
  unfold mayPrecede OrderKey.compare place
  simp only [isLE_compareLex_iff, compareOn, orderKey, compare_bool_eq_lt, compare_date_eq_lt,
    Nat.compare_eq_lt, Std.compare_eq_iff_eq, isLE_compare_start firstOpens secondOpens,
    Prod.Lex.toLex_le_toLex]
  -- What is left differs only in reading an optional field as a point of the order.
  exact Iff.rfl

/-- Some entries in the order in which they are listed. -/
abbrev IsListing (found listed : List Entry) : Prop := IsStableSorting place found listed

/-- Sorting yields the one listing that there is. -/
theorem isListing_iff_eq_sort {found listed : List Entry}
    (opens : forall entry, entry ∈ found -> entry.OpensInTime) :
    IsListing found listed ↔ listed = sort found := by
  have sorts : IsListing found (sort found) :=
    isStableSorting_mergeSort mayPrecede_trans mayPrecede_total
      fun first firstFound second secondFound =>
        mayPrecede_iff_place_le (opens first firstFound) (opens second secondFound)
  constructor
  · intro listing
    exact listing.unique sorts
  · rintro rfl
    exact sorts

/-- The first entry goes in front of the first of the others that may stand behind it. -/
theorem sort_cons (entry : Entry) (others : List Entry) :
    sort (entry :: others) =
      (sort others).orderedInsert (fun first second => mayPrecede first second = true) entry := by
  rcases List.mergeSort_cons mayPrecede_trans mayPrecede_total entry others with
    ⟨ahead, behind, whole, rest, strictlyAhead⟩
  have ordered := List.pairwise_mergeSort mayPrecede_trans mayPrecede_total (entry :: others)
  rw [whole] at ordered
  have follows (other : Entry) (member : other ∈ behind) : mayPrecede entry other = true :=
    List.rel_of_pairwise_cons (List.pairwise_append.mp ordered).2.1 member
  rw [sort, whole, sort, rest]
  clear whole rest ordered
  induction ahead with
  | nil =>
      cases behind with
      | nil => rfl
      | cons next later =>
          exact (List.orderedInsert_cons_of_le _ later (follows next List.mem_cons_self)).symm
  | cons first others inductionHypothesis =>
      have isAhead := strictlyAhead first List.mem_cons_self
      rw [Bool.not_eq_true'] at isAhead
      have later (other : Entry) (member : other ∈ others) : (!mayPrecede entry other) = true :=
        strictlyAhead other (List.mem_cons_of_mem first member)
      rw [List.cons_append, List.cons_append, List.orderedInsert_of_not_le,
        ← inductionHypothesis later]
      exact Bool.eq_false_iff.mp isAhead

/-- The order in which entries are listed can be worked out entry by entry. -/
theorem sort_eq_insertionSort (entries : List Entry) :
    sort entries = entries.insertionSort fun first second => mayPrecede first second = true := by
  induction entries with
  | nil => exact List.mergeSort_nil
  | cons entry others inductionHypothesis =>
      rw [sort_cons, inductionHypothesis, List.insertionSort_cons]

/-- It makes no difference whether entries are left out before sorting or afterwards. -/
theorem sort_filter {found : List Entry}
    (opens : forall entry, entry ∈ found -> entry.OpensInTime) (keeps : Entry -> Bool) :
    sort (found.filter keeps) = (sort found).filter keeps := by
  have sorts : IsListing found (sort found) := (isListing_iff_eq_sort opens).mpr rfl
  have opensToo (entry : Entry) (member : entry ∈ found.filter keeps) : entry.OpensInTime :=
    opens entry (List.mem_of_mem_filter member)
  exact ((isListing_iff_eq_sort opensToo).mp (sorts.filter keeps)).symm

end Entry

end Reminders
