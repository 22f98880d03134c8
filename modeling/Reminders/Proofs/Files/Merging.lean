import Mathlib.Data.List.Induction
import Mathlib.Data.List.Nodup
import Reminders.Files.Group

namespace Reminders

/-!
# Merging groups

Groups are merged one after the other into a list that is empty at first.  Two things can be asked
of such a list: in which order its names stand, and which lines stand under a name.  A merge puts a
new name at the end and leaves the others where they are, and it adds its lines under its own name
and under no other.

These two answers settle the list, since no name stands in it twice.  They depend on the merged
groups only through the first occurrences of their names and through the lines that they hold under
each name together, so a series may be merged by itself first and its result afterwards.
-/

/-! ## First occurrences -/

/-- A name at the end is listed last if it is new. -/
theorem eraseDups_concat (names : List String) (name : String) :
    (names ++ [name]).eraseDups =
      if name ∈ names then names.eraseDups else names.eraseDups ++ [name] := by
  rw [List.eraseDups_append]
  split
  · next listed => simp [List.removeAll, listed]
  · next isNew => simp [List.removeAll, isNew, List.eraseDups_cons]

theorem nodup_eraseDups (names : List String) : names.eraseDups.Nodup := by
  induction names using List.reverseRecOn with
  | nil => exact List.nodup_nil
  | append_singleton earlier name inductionHypothesis =>
      rw [eraseDups_concat]
      split
      · exact inductionHypothesis
      · next isNew =>
          rw [← List.concat_eq_append]
          exact List.Nodup.concat (fun listed => isNew (List.mem_eraseDups.mp listed))
            inductionHypothesis

/-- Later names may be listed by themselves first. -/
theorem eraseDups_append_eraseDups (earlier later : List String) :
    (earlier ++ later.eraseDups).eraseDups = (earlier ++ later).eraseDups := by
  induction later using List.reverseRecOn with
  | nil => rfl
  | append_singleton before name inductionHypothesis =>
      rw [eraseDups_concat, ← List.append_assoc, eraseDups_concat (earlier ++ before)]
      split
      · next listed => rw [inductionHypothesis, if_pos (List.mem_append_right _ listed)]
      · simp only [← List.append_assoc, eraseDups_concat, inductionHypothesis, List.mem_append,
          List.mem_eraseDups]

/-! ## Lines under a name -/

/-- The lines that some groups hold under a name, in the order of the groups. -/
def linesUnder (name : String) (groups : List Group) : List String :=
  (groups.filter fun group => group.name = name).flatMap Group.lines

theorem linesUnder_append (name : String) (front back : List Group) :
    linesUnder name (front ++ back) = linesUnder name front ++ linesUnder name back := by
  simp only [linesUnder, List.filter_append, List.flatMap_append]

theorem linesUnder_nil (name : String) : linesUnder name [] = [] := rfl

theorem linesUnder_cons (name : String) (first : Group) (rest : List Group) :
    linesUnder name (first :: rest) =
      (if first.name = name then first.lines else []) ++ linesUnder name rest := by
  by_cases same : first.name = name <;> simp [linesUnder, same]

theorem linesUnder_of_not_mem {name : String} {groups : List Group}
    (isNew : name ∉ groups.map Group.name) : linesUnder name groups = [] := by
  have noneNamed : groups.filter (fun group => group.name = name) = [] := by
    rw [List.filter_eq_nil_iff]
    intro group listed named
    exact isNew (List.mem_map.mpr ⟨group, listed, of_decide_eq_true named⟩)
  rw [linesUnder, noneNamed, List.flatMap_nil]

/-- Where no name stands twice, the lines under the name of a group are its own. -/
theorem linesUnder_of_mem {group : Group} {groups : List Group}
    (distinct : (groups.map Group.name).Nodup) (listed : group ∈ groups) :
    linesUnder group.name groups = group.lines := by
  induction groups with
  | nil => cases listed
  | cons first rest inductionHypothesis =>
      rw [List.map_cons, List.nodup_cons] at distinct
      rw [linesUnder_cons]
      rcases List.mem_cons.mp listed with rfl | later
      · rw [if_pos rfl, linesUnder_of_not_mem distinct.1, List.append_nil]
      · have different : first.name ≠ group.name := fun same =>
          distinct.1 (same ▸ List.mem_map_of_mem later)
        rw [if_neg different, List.nil_append, inductionHypothesis distinct.2 later]

/-! ## One merge -/

/-- A new name goes to the end, and the names that are there keep their places. -/
theorem names_mergeInto (step : Group) (groups : List Group) :
    (step.mergeInto groups).map Group.name =
      if step.name ∈ groups.map Group.name then groups.map Group.name
      else groups.map Group.name ++ [step.name] := by
  induction groups with
  | nil => rfl
  | cons first rest inductionHypothesis =>
      rw [Group.mergeInto]
      split
      · next same => simp [same]
      · next different =>
          rw [List.map_cons, inductionHypothesis, List.map_cons]
          simp only [List.mem_cons, Ne.symm different, false_or]
          split <;> rfl

/-- A group whose name is new goes to the end. -/
theorem mergeInto_of_new {step : Group} {groups : List Group}
    (isNew : step.name ∉ groups.map Group.name) : step.mergeInto groups = groups ++ [step] := by
  induction groups with
  | nil => rfl
  | cons first rest inductionHypothesis =>
      rw [List.map_cons, List.mem_cons, not_or] at isNew
      rw [Group.mergeInto, if_neg (Ne.symm isNew.1), inductionHypothesis isNew.2]
      rfl

/-- A merge keeps the lines that are there and adds its own. -/
theorem perm_lines_mergeInto (step : Group) (groups : List Group) :
    ((step.mergeInto groups).flatMap Group.lines).Perm
      (groups.flatMap Group.lines ++ step.lines) := by
  induction groups with
  | nil => simp [Group.mergeInto]
  | cons first rest inductionHypothesis =>
      rw [Group.mergeInto, List.flatMap_cons, List.append_assoc]
      split
      · rw [List.flatMap_cons, List.append_assoc]
        exact List.perm_append_comm.append_left first.lines
      · rw [List.flatMap_cons]
        exact inductionHypothesis.append_left first.lines

/-- The lines of a merge go behind those that are there under its name, and under no other name. -/
theorem linesUnder_mergeInto (name : String) (step : Group) {groups : List Group}
    (distinct : (groups.map Group.name).Nodup) :
    linesUnder name (step.mergeInto groups) = linesUnder name groups ++ linesUnder name [step] := by
  induction groups with
  | nil => rfl
  | cons first rest inductionHypothesis =>
      rw [List.map_cons, List.nodup_cons] at distinct
      rw [Group.mergeInto]
      split
      · next same =>
          -- The lines go behind those of the first group, and no other group has its name.
          by_cases named : first.name = name
          · have noneLater : linesUnder name rest = [] :=
              linesUnder_of_not_mem (named ▸ distinct.1)
            simp only [linesUnder_cons, linesUnder_nil, noneLater, named, same ▸ named, if_true,
              List.append_nil]
          · simp only [linesUnder_cons, linesUnder_nil, named, same ▸ named, if_false,
              List.nil_append, List.append_nil]
      · rw [linesUnder_cons, inductionHypothesis distinct.2, linesUnder_cons name first rest,
          List.append_assoc]

/-- A merge brings in no lines but its own. -/
theorem mem_lines_of_mergeInto {step merged : Group} {groups : List Group} {line : String}
    (listed : merged ∈ step.mergeInto groups) (member : line ∈ merged.lines) :
    line ∈ step.lines ∨ Exists fun group => group ∈ groups ∧ line ∈ group.lines := by
  have inMerged := List.mem_flatMap.mpr ⟨merged, listed, member⟩
  rw [(perm_lines_mergeInto step groups).mem_iff, List.mem_append, List.mem_flatMap] at inMerged
  exact inMerged.symm

/-! ## Series of merges -/

/-- Merge groups into others, one after the other. -/
def mergeAll (groups steps : List Group) : List Group :=
  steps.foldl (fun merged step => step.mergeInto merged) groups

theorem mergeAll_concat (groups steps : List Group) (step : Group) :
    mergeAll groups (steps ++ [step]) = step.mergeInto (mergeAll groups steps) := by
  rw [mergeAll, List.foldl_append]
  rfl

/-- Groups of different names are left as they are. -/
theorem mergeAll_of_nodup {steps : List Group} (distinct : (steps.map Group.name).Nodup) :
    mergeAll [] steps = steps := by
  induction steps using List.reverseRecOn with
  | nil => rfl
  | append_singleton earlier step inductionHypothesis =>
      rw [List.map_append, List.map_singleton, ← List.concat_eq_append, List.nodup_concat]
        at distinct
      rw [mergeAll_concat, inductionHypothesis distinct.2, mergeInto_of_new distinct.1]

/-- No line is lost or made up when groups are merged. -/
theorem perm_lines_mergeAll (steps : List Group) :
    ((mergeAll [] steps).flatMap Group.lines).Perm (steps.flatMap Group.lines) := by
  induction steps using List.reverseRecOn with
  | nil => exact List.Perm.refl []
  | append_singleton earlier step inductionHypothesis =>
      rw [mergeAll_concat, List.flatMap_append, List.flatMap_singleton]
      exact (perm_lines_mergeInto step _).trans (inductionHypothesis.append_right step.lines)

/-- Some groups are what a series of merges comes to: a group for each name, in the order in which
the names first come up, with all the lines under the name. -/
structure IsUnionOf (groups steps : List Group) : Prop where
  names : groups.map Group.name = (steps.map Group.name).eraseDups
  lines : forall name, linesUnder name groups = linesUnder name steps

namespace IsUnionOf

variable {groups other steps : List Group}

theorem distinct (isUnion : IsUnionOf groups steps) : (groups.map Group.name).Nodup := by
  rw [isUnion.names]
  exact nodup_eraseDups _

/-- One more merge is taken up. -/
theorem mergeInto (isUnion : IsUnionOf groups steps) (step : Group) :
    IsUnionOf (step.mergeInto groups) (steps ++ [step]) where
  names := by
    rw [names_mergeInto, isUnion.names, List.map_append, List.map_singleton, eraseDups_concat]
    simp only [List.mem_eraseDups]
  lines := by
    intro name
    rw [linesUnder_mergeInto name step isUnion.distinct, isUnion.lines, linesUnder_append]

/-- And so is a whole series. -/
theorem mergeAll (isUnion : IsUnionOf groups steps) (later : List Group) :
    IsUnionOf (mergeAll groups later) (steps ++ later) := by
  induction later generalizing groups steps with
  | nil => simpa [Reminders.mergeAll] using isUnion
  | cons step rest inductionHypothesis =>
      have further := inductionHypothesis (isUnion.mergeInto step)
      rwa [List.append_assoc, List.singleton_append] at further

/-- The groups are settled by the names and the lines under them. -/
theorem eq_map (isUnion : IsUnionOf groups steps) :
    groups = (steps.map Group.name).eraseDups.map fun name => ⟨name, linesUnder name steps⟩ := by
  have rebuilt : forall group, group ∈ groups ->
      (⟨group.name, linesUnder group.name steps⟩ : Group) = group := by
    intro group listed
    rw [← isUnion.lines, linesUnder_of_mem isUnion.distinct listed]
  rw [← isUnion.names, List.map_map]
  exact ((List.map_congr_left rebuilt).trans (List.map_id groups)).symm

/-- Only one list of groups is the union of given steps. -/
theorem unique (isUnion : IsUnionOf groups steps) (isOther : IsUnionOf other steps) :
    groups = other :=
  isUnion.eq_map.trans isOther.eq_map.symm

/-- Later steps may be merged by themselves first. -/
theorem of_merged {later merged : List Group} (isMerged : IsUnionOf merged later)
    (isUnion : IsUnionOf groups (steps ++ merged)) : IsUnionOf groups (steps ++ later) where
  names := by
    rw [isUnion.names, List.map_append, isMerged.names, eraseDups_append_eraseDups,
      ← List.map_append]
  lines := by
    intro name
    rw [isUnion.lines, linesUnder_append, isMerged.lines, ← linesUnder_append]

/-- Later merges leave the groups in their places and add to each the lines under its name. -/
theorem take_mergeAll (isUnion : IsUnionOf groups steps) (later : List Group) :
    (Reminders.mergeAll groups later).take groups.length =
      groups.map fun group => ⟨group.name, group.lines ++ linesUnder group.name later⟩ := by
  have sameLength : groups.length = (steps.map Group.name).eraseDups.length := by
    rw [← isUnion.names, List.length_map]
  rw [(isUnion.mergeAll later).eq_map, List.map_append, List.eraseDups_append, List.map_append,
    List.take_left' (by rw [List.length_map, sameLength]), ← isUnion.names, List.map_map]
  apply List.map_congr_left
  intro group listed
  rw [Function.comp_apply, linesUnder_append, ← isUnion.lines,
    linesUnder_of_mem isUnion.distinct listed]

end IsUnionOf

theorem isUnionOf_mergeAll (steps : List Group) : IsUnionOf (mergeAll [] steps) steps := by
  have isEmpty : IsUnionOf [] [] := ⟨rfl, fun _ => rfl⟩
  exact isEmpty.mergeAll steps

/-- Merging a series of groups gives one group for each name, in the order in which the names first
come up, with the lines of all groups of that name one after the other.  Whatever is merged later,
the groups that are there stay in their places and take up the lines under their own names only.  A
later part of the series may be merged by itself first, and what it comes to is then merged in its
place. -/
theorem merging_is_ordered_union (steps : List Group) :
    mergeAll [] steps =
      (steps.map Group.name).eraseDups.map (fun name =>
        ⟨name, (steps.filter fun step => step.name = name).flatMap Group.lines⟩) ∧
    ((mergeAll [] steps).map Group.name).Nodup ∧
    (forall later : List Group,
      (mergeAll [] (steps ++ later)).take (mergeAll [] steps).length =
        (mergeAll [] steps).map fun group =>
          ⟨group.name, group.lines ++
            (later.filter fun step => step.name = group.name).flatMap Group.lines⟩) ∧
    forall later : List Group,
      mergeAll [] (steps ++ later) = mergeAll (mergeAll [] steps) later ∧
        mergeAll [] (steps ++ later) = mergeAll (mergeAll [] steps) (mergeAll [] later) := by
  have isUnion := isUnionOf_mergeAll steps
  have inTwoParts (later : List Group) :
      mergeAll [] (steps ++ later) = mergeAll (mergeAll [] steps) later := List.foldl_append
  refine ⟨isUnion.eq_map, isUnion.distinct, ?_, ?_⟩
  · intro later
    rw [inTwoParts]
    exact isUnion.take_mergeAll later
  · intro later
    refine ⟨inTwoParts later, (isUnionOf_mergeAll (steps ++ later)).unique ?_⟩
    exact (isUnionOf_mergeAll later).of_merged (isUnion.mergeAll _)

example : mergeAll [] [⟨"a", ["1"]⟩, ⟨"b", ["2"]⟩, ⟨"a", ["3"]⟩] =
    [⟨"a", ["1", "3"]⟩, ⟨"b", ["2"]⟩] := by
  decide

end Reminders
