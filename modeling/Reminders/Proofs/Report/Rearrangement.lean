import Reminders.Proofs.Calendar.DayNumber
import Reminders.Proofs.Report.Completeness

namespace Reminders

/-!
# Rearranged lines

The order of the lines of a group shows in a report only where listed lines tie, that is, where
their entries have one key.  Everything else may move: lines that are dropped or unread, and listed
lines of different keys.

The argument is that a section is determined by what it lists under each single key.  A permutation
that moves ties in order leaves the lines of each key as they are, because they are then two
increasing enumerations of the same places.
-/

/-! ## Permutations that keep some items in order -/

/-- Items that a permutation leaves in order are found in the same order as before. -/
theorem filter_ofFn_comp_perm {α : Type} {count : Nat} (items : Fin count -> α)
    (arrangement : Equiv.Perm (Fin count)) (chosen : α -> Bool)
    (inOrder : forall first second, first < second ->
      chosen (items (arrangement first)) = true -> chosen (items (arrangement second)) = true ->
        arrangement first < arrangement second) :
    (List.ofFn (items ∘ arrangement)).filter chosen = (List.ofFn items).filter chosen := by
  have samePlaces : ((List.finRange count).filter (chosen ∘ items ∘ arrangement)).map arrangement =
      (List.finRange count).filter (chosen ∘ items) := by
    have increasing : (((List.finRange count).filter (chosen ∘ items ∘ arrangement)).map
        arrangement).Pairwise (· < ·) := by
      rw [List.pairwise_map]
      refine ((List.pairwise_lt_finRange count).filter _).imp_of_mem ?_
      intro first second firstMember secondMember ordered
      exact inOrder first second ordered (List.mem_filter.mp firstMember).2
        (List.mem_filter.mp secondMember).2
    have permutes : (((List.finRange count).filter (chosen ∘ items ∘ arrangement)).map
        arrangement).Perm ((List.finRange count).filter (chosen ∘ items)) := by
      have places := (arrangement.map_finRange_perm).filter (chosen ∘ items)
      rwa [List.filter_map] at places
    apply List.Perm.eq_of_pairwise _ increasing ((List.pairwise_lt_finRange count).filter _)
      permutes
    intro first second _ _ before after
    exact absurd after (lt_asymm before)
  rw [List.ofFn_eq_map, List.ofFn_eq_map, List.filter_map, List.filter_map, ← samePlaces,
    List.map_map]

/-! ## Ties -/

section

variable {reference : Reference} {lookahead : Lookahead}

/-- The key under which a line is listed, if it is listed. -/
def listedKey (reference : Reference) (lookahead : Lookahead) (line : String) : Option OrderKey :=
  (Entry.ofLine reference lookahead line).map Entry.orderKey

/-- The lines with each place filled from the place that the permutation assigns to it. -/
def rearranged (lines : List String) (arrangement : Equiv.Perm (Fin lines.length)) : List String :=
  List.ofFn fun place => lines.get (arrangement place)

/-- Of listed lines with one key, those that were in front are still in front. -/
def KeepsTies (reference : Reference) (lookahead : Lookahead) (lines : List String)
    (arrangement : Equiv.Perm (Fin lines.length)) : Prop :=
  forall first second, first < second ->
    (listedKey reference lookahead (lines.get (arrangement first))).isSome ->
    listedKey reference lookahead (lines.get (arrangement first)) =
      listedKey reference lookahead (lines.get (arrangement second)) ->
    arrangement first < arrangement second

theorem rearranged_perm (lines : List String) (arrangement : Equiv.Perm (Fin lines.length)) :
    (rearranged lines arrangement).Perm lines := by
  have permutes := arrangement.ofFn_comp_perm lines.get
  rwa [List.ofFn_get] at permutes

namespace Entry

/-- The place of an entry is no coarser than its key. -/
theorem orderKey_eq_of_place_eq {first second : Entry} (same : first.place = second.place) :
    first.orderKey = second.orderKey := by
  rcases Prod.mk.inj (toLex_inj.mp same) with ⟨sameBlock, sameLater⟩
  rcases Prod.mk.inj (toLex_inj.mp sameLater) with ⟨sameDay, sameRest⟩
  rcases Prod.mk.inj (toLex_inj.mp sameRest) with ⟨samePriority, sameStart⟩
  have sameDate : first.displayDate = second.displayDate :=
    Option.map_injective (fun _ _ => Date.dayNumber_injective) sameDay
  unfold orderKey
  rw [sameBlock, sameDate, samePriority, sameStart]

/-- Whether a line is listed at the given place. -/
def isListedAt (reference : Reference) (lookahead : Lookahead)
    (key : Bool ×ₗ WithBot Int ×ₗ Nat ×ₗ WithTop Nat) (line : String) : Bool :=
  (ofLine reference lookahead line).any fun entry => decide (entry.place = key)

/-- The entries at one place come from the lines that are listed there. -/
theorem filter_place_filterMap_ofLine (key : Bool ×ₗ WithBot Int ×ₗ Nat ×ₗ WithTop Nat)
    (lines : List String) :
    (lines.filterMap (ofLine reference lookahead)).filter (fun entry => entry.place = key) =
      (lines.filter (isListedAt reference lookahead key)).filterMap
        (ofLine reference lookahead) := by
  rw [List.filter_filterMap, List.filterMap_filter]
  apply List.filterMap_congr
  intro line _
  unfold isListedAt
  cases ofLine reference lookahead line with
  | none => rfl
  | some entry => rfl

/-- Entries that are listed at one place before and after a rearrangement are the same, in the same
order. -/
theorem filter_place_rearranged {lines : List String} {arrangement : Equiv.Perm (Fin lines.length)}
    (keeps : KeepsTies reference lookahead lines arrangement)
    (key : Bool ×ₗ WithBot Int ×ₗ Nat ×ₗ WithTop Nat) :
    ((rearranged lines arrangement).filterMap (ofLine reference lookahead)).filter
        (fun entry => entry.place = key) =
      (lines.filterMap (ofLine reference lookahead)).filter fun entry => entry.place = key := by
  have sameLines : (rearranged lines arrangement).filter (isListedAt reference lookahead key) =
      lines.filter (isListedAt reference lookahead key) := by
    have kept := filter_ofFn_comp_perm lines.get arrangement (isListedAt reference lookahead key) ?_
    · rwa [List.ofFn_get] at kept
    · intro first second ordered firstListed secondListed
      rcases (Option.any_eq_true _ _).mp firstListed with ⟨entry, isEntry, atPlace⟩
      rcases (Option.any_eq_true _ _).mp secondListed with ⟨other, isOther, otherAtPlace⟩
      have samePlace := (of_decide_eq_true atPlace).trans (of_decide_eq_true otherAtPlace).symm
      apply keeps first second ordered
      · rw [listedKey, isEntry]
        rfl
      · rw [listedKey, listedKey, isEntry, isOther, Option.map_some, Option.map_some,
          orderKey_eq_of_place_eq samePlace]
  rw [filter_place_filterMap_ofLine, filter_place_filterMap_ofLine, sameLines]

/-- Lines that are rearranged without disturbing ties are listed as before. -/
theorem sort_rearranged {lines : List String} {arrangement : Equiv.Perm (Fin lines.length)}
    (keeps : KeepsTies reference lookahead lines arrangement) :
    sort ((rearranged lines arrangement).filterMap (ofLine reference lookahead)) =
      sort (lines.filterMap (ofLine reference lookahead)) := by
  have listing (found : List String) : IsListing (found.filterMap (ofLine reference lookahead))
      (sort (found.filterMap (ofLine reference lookahead))) :=
    (isListing_iff_eq_sort fun _ => opensInTime_of_mem_filterMap).mpr rfl
  apply eq_of_ordered_of_filter_eq (listing _).ordered (listing _).ordered
  intro key
  rw [(listing _).stable key, (listing _).stable key, filter_place_rearranged keeps key]

end Entry

end

/-- If the lines of a group are rearranged, and listed lines that tie stay in order, the section of
the group is the same, and the same lines are unread. -/
theorem makeReport_of_rearranged (name : String) (lines : List String)
    (arrangement : Equiv.Perm (Fin lines.length)) (reference : Reference) (options : ReportOptions)
    (report : Report) (made : makeReport reference options [⟨name, lines⟩] = .ok report)
    (keeps : KeepsTies reference options.lookahead lines arrangement) :
    Exists fun other : Report =>
      makeReport reference options [⟨name, rearranged lines arrangement⟩] = .ok other ∧
        other.sections = report.sections ∧ other.unread.Perm report.unread := by
  rcases makeReport_eq_ok_iff.mp made with ⟨accepted, rfl⟩
  have permutes := rearranged_perm lines arrangement
  have acceptedToo : NoRefusal reference options.lookahead
      (linesInOrder [⟨name, rearranged lines arrangement⟩]) := by
    intro entry member problem
    refine accepted entry ?_ problem
    simp only [linesInOrder, List.flatMap_cons, List.flatMap_nil, List.append_nil] at member ⊢
    exact (permutes.map (Prod.mk name)).mem_iff.mp member
  refine ⟨_, makeReport_eq_ok_iff.mpr ⟨acceptedToo, rfl⟩, ?_, ?_⟩
  · simp only [Report.ofGroups, List.map_cons, List.map_nil, Section.ofGroup,
      Entry.sort_rearranged keeps]
  · simp only [Report.ofGroups, List.flatMap_cons, List.flatMap_nil, List.append_nil,
      UnreadLine.ofGroup]
    exact (permutes.filter isUnread).map (UnreadLine.mk name)

/-- The two lines that tie stay in order.  A line of another key, one that is dropped and one that
is unread change places around them. -/
theorem errands_rearranged :
    let lines : List String := ["2 2021.03.04 Bread", "Some day", "2 2021.03.04 Milk",
      "2 2021.03.09 Later", "1 2021.03.04 Post"]
    let arrangement : Equiv.Perm (Fin lines.length) := (finRotate 5).symm.trans (Equiv.swap 1 3)
    let reference : Reference := ⟨⟨2021, 3, 4, by decide, by decide⟩, 480, 9⟩
    let options : ReportOptions := ⟨⟨0, by decide⟩, none, 80⟩
    rearranged lines arrangement = ["1 2021.03.04 Post", "2 2021.03.04 Bread", "2 2021.03.09 Later",
        "2 2021.03.04 Milk", "Some day"] ∧
      KeepsTies reference options.lookahead lines arrangement ∧
      Exists fun report : Report => Exists fun other : Report =>
        makeReport reference options [⟨"home.txt", lines⟩] = .ok report ∧
          makeReport reference options [⟨"home.txt", rearranged lines arrangement⟩] = .ok other ∧
          report.sections.map Section.texts = [["Post", "Bread", "Milk"]] ∧
          report.unread = [⟨"home.txt", "Some day"⟩] ∧
          other.sections = report.sections ∧ other.unread.Perm report.unread := by
  intro lines arrangement reference options
  have keeps : KeepsTies reference options.lookahead lines arrangement := by
    unfold KeepsTies
    decide +kernel
  have made : makeReport reference options [⟨"home.txt", lines⟩] =
      .ok (Report.ofGroups reference options [⟨"home.txt", lines⟩]) :=
    makeReport_eq_ok_of_isOk (by decide +kernel)
  rcases makeReport_of_rearranged "home.txt" lines arrangement reference options _ made keeps with
    ⟨other, madeOther, sameSections, sameUnread⟩
  refine ⟨by rfl, keeps, _, other, made, madeOther, ?_, ?_, sameSections, sameUnread⟩
  · rw [Report.ofGroups, Section.ofGroup_eq_insertionSort]
    decide +kernel
  · decide +kernel

end Reminders
