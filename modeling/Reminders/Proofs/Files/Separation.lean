import Reminders.Proofs.Files.Reachability

namespace Reminders

/-!
# Each file has a group of its own

The names of groups go by the spelling of paths and files by their locations, and still no two files
share a group: at each visit of a load the name of the new group is not taken yet.
-/

variable {tree : FileTree}

/-- The groups of a load belong to the files it has visited, one to one and in the order of the
visits, the first file at the head.  Their names differ, as do the names for any two files that can
come up, and no visit finds the name of its group in use.

The names of files are Unicode texts here, and the home directory is assumed to be an absolute path:
with the home directory `b` and the first file in `a`, the files `~/x.txt` and `a/b/x.txt` share a
group. -/
theorem loadGroups_keeps_files_apart (wellFormed : tree.WellFormed) {root : String}
    {groups : List Group} (loaded : loadGroups tree (.ofText root) = .ok groups) :
    (Exists fun last : Walk => Exists fun visits : List Walk.Visited =>
      Walk.LeadsTo tree (Walk.start (.ofText root)) last ∧ last.next tree = none ∧
      last.visited = (visits.map Walk.Visited.location).reverse ∧ last.visited.Nodup ∧
      visits.head?.map Walk.Visited.path = some (.ofText root) ∧
      (forall visit, visit ∈ visits -> tree.locationOf visit.path = some visit.location) ∧
      groups = visits.map (Walk.Visited.group tree (Path.ofText root).directory) ∧
      groups.length = last.visited.length) ∧
    (groups.map Group.name).Nodup ∧
    (forall left right location other, Mentioned tree (.ofText root) left ->
      Mentioned tree (.ofText root) right -> tree.locationOf left = some location ->
      tree.locationOf right = some other ->
      Walk.groupName (Path.ofText root).directory left =
        Walk.groupName (Path.ofText root).directory right -> location = other) ∧
    (forall walk path pending location, Walk.LeadsTo tree (Walk.start (.ofText root)) walk ->
      walk.pending = path :: pending -> tree.locationOf path = some location ->
      location ∉ walk.visited ->
      forall group, group ∈ walk.groups -> group.name ≠ Walk.groupName walk.base path) := by
  have spelled := Path.spelled_ofText root
  rcases (loadGroups_eq_ok_iff.mp loaded).1 with ⟨first, readable⟩
  rcases Walk.IsHistory.exists_next_start readable with ⟨begun, step, history⟩
  rcases history.exists_last wellFormed.toWellShaped spelled.nonempty with
    ⟨last, more, run, stopped, atEnd, -⟩
  have whole : Walk.LeadsTo tree (Walk.start (.ofText root)) last := run.head step
  have same : last.groups = groups := by
    rw [loadGroups_eq_ok_of_leadsTo readable whole stopped] at loaded
    exact Except.ok.inj loaded
  subst same
  have groups := atEnd.groups_eq wellFormed spelled
  refine ⟨⟨last, _, whole, stopped, atEnd.visited, ?_, rfl,
    fun visit listed => (atEnd.reads visit listed).2, groups, ?_⟩, ?_, ?_, ?_⟩
  · rw [atEnd.visited]
    exact List.nodup_reverse.mpr atEnd.nodup
  · rw [groups, atEnd.visited]
    simp
  · rw [groups]
    exact atEnd.nodup_names wellFormed spelled
  · intro left right location other mentionedLeft mentionedRight foundLeft foundRight equal
    exact mentionedLeft.location_eq wellFormed spelled mentionedRight foundLeft foundRight equal
  · intro walk path pending location steps waiting found isNew group listed
    have history := Walk.isHistory_start tree (.ofText root)
    rcases history.run wellFormed.toWellShaped spelled.nonempty steps with ⟨visits, soFar⟩
    have mentioned := soFar.pending path (by simp [waiting])
    exact soFar.name_ne wellFormed spelled mentioned found isNew listed

/-- Two of three files are named from the directory of the first one, and the third is outside
it. -/
theorem household_keeps_files_apart :
    FileTree.household.WellFormed ∧ Exists fun groups : List Group =>
      loadGroups FileTree.household (.ofText "lists/sub/..//all.txt") = .ok groups ∧
      groups.map Group.name = ["all.txt", "work.txt", "/w/home/own.txt"] ∧
      (groups.map Group.name).Nodup := by
  have readable : FileTree.household.locationOf (.ofText "lists/sub/..//all.txt") =
      some ["w", "lists", "all.txt"] := by decide +kernel
  have sevenSteps : (fun later => Option.bind later (Walk.next FileTree.household))^[7]
      (some (Walk.start (.ofText "lists/sub/..//all.txt"))) =
        some ⟨.ofText "lists/sub/..",
          [["w", "home", "own.txt"], ["w", "lists", "work.txt"], ["w", "lists", "all.txt"]],
          [⟨"all.txt", ["1 2020.01.01 All"]⟩, ⟨"work.txt", ["1 SMTWTFS Work"]⟩,
            ⟨"/w/home/own.txt", ["2 SMTWTFS Own"]⟩], []⟩ := by decide +kernel
  have loaded := loadGroups_eq_ok_of_leadsTo readable (Walk.leadsTo_of_iterate sevenSteps) rfl
  exact ⟨FileTree.wellFormed_household, _, loaded, rfl,
    (loadGroups_keeps_files_apart FileTree.wellFormed_household loaded).2.1⟩

end Reminders
