import Reminders.Proofs.Files.Steps

namespace Reminders

/-!
# Loading reaches everything that is included

A load goes through the files that can be reached from the first one by includes, all of them and
nothing else, and through each of them once.  A file that has been visited is passed over together
with all that it includes; its visit has already seen to these.
-/

open Relation (ReflTransGen)

variable {tree : FileTree}

/-- The preorder from one file consists of what it reaches by includes. -/
theorem FileTree.mem_preorder_iff {first location : Location} {order : List Location}
    (preorder : Preorder tree.included [] [first] order) :
    location ∈ order ↔ ReflTransGen tree.Includes first location := by
  have edges : (fun left right => right ∈ tree.included left) = tree.Includes := by
    funext left right
    exact propext FileTree.mem_included_iff
  rw [preorder.mem_iff, edges]
  simp

theorem Walk.Visited.map_lines_group (base : Path) (visits : List Walk.Visited) :
    (visits.map (Walk.Visited.group tree base)).map Group.lines =
      (visits.map Walk.Visited.location).map tree.ownLines := by
  simp [Walk.Visited.group]

theorem Walk.Visited.flatMap_lines_group (base : Path) (visits : List Walk.Visited) :
    (visits.map (Walk.Visited.group tree base)).flatMap Group.lines =
      (visits.map Walk.Visited.location).flatMap tree.ownLines := by
  rw [List.flatMap_def, List.flatMap_def, map_lines_group]

/-- A load whose first file can be read comes to its end.  The files it has visited by then are
those that the first one reaches by includes.  Each is visited once, in depth-first preorder, and
its own lines are loaded once.

The names of files are Unicode texts here.  Only the last part, where there is a group for each file
in that order, assumes that the home directory is an absolute path: with the home directory `b` and
the first file in `a`, the files `~/x.txt` and `a/b/x.txt` share a group. -/
theorem loadGroups_visits_reachable_files (wellShaped : tree.WellShaped) {root : String}
    {first : Location} {content : String}
    (readable : tree.read (.ofText root) = .ok (first, content)) :
    Exists fun last : Walk => Exists fun order : List Location =>
      Walk.LeadsTo tree (Walk.start (.ofText root)) last ∧ last.next tree = none ∧
      loadGroups tree (.ofText root) = .ok last.groups ∧
      last.visited = order.reverse ∧ order.Nodup ∧
      (forall location, location ∈ order ↔ ReflTransGen tree.Includes first location) ∧
      (forall other, Preorder tree.included [] [first] other ↔ other = order) ∧
      (last.groups.flatMap Group.lines).Perm (order.flatMap tree.ownLines) ∧
      (tree.WellFormed -> last.groups.map Group.lines = order.map tree.ownLines) := by
  have located : tree.locationOf (.ofText root) = some first :=
    FileTree.locationOf_eq_some_iff.mpr ⟨content, readable⟩
  have spelled := Path.spelled_ofText root
  have history := Walk.isHistory_start tree (.ofText root)
  rcases history.exists_last wellShaped spelled.nonempty with
    ⟨last, visits, run, stopped, atEnd, preorder⟩
  have preorder : Preorder tree.included [] [first] (visits.map Walk.Visited.location) := by
    simpa [Walk.start, located] using preorder
  refine ⟨last, visits.map Walk.Visited.location, run, stopped,
    loadGroups_eq_ok_of_leadsTo located run stopped, atEnd.visited, atEnd.nodup,
    fun location => FileTree.mem_preorder_iff preorder, fun other => ⟨fun second => ?_, ?_⟩, ?_, ?_⟩
  · exact second.unique preorder
  · rintro rfl
    exact preorder
  · rw [atEnd.groups, ← Walk.Visited.flatMap_lines_group (Path.ofText root).directory]
    exact perm_lines_mergeAll _
  · intro wellFormed
    rw [atEnd.groups_eq wellFormed spelled]
    exact Walk.Visited.map_lines_group _ _

/-- A household in which two lists include each other, one of them by three spellings. -/
def FileTree.household : FileTree where
  nodes := [
    (["w", "lists", "all.txt"],
      .text "include ./work.txt\ninclude sub/../work.txt\ninclude ~/own.txt\n1 2020.01.01 All"),
    (["w", "lists", "work.txt"], .text "1 SMTWTFS Work\ninclude /w/lists//all.txt\ninclude none"),
    (["w", "lists", "sub"], .directory),
    (["w", "home", "own.txt"], .text "include ../lists/work.txt\n2 SMTWTFS Own")]
  workingDirectory := ["w"]
  home := some (.ofText "/w/home")

theorem FileTree.wellFormed_household : FileTree.household.WellFormed where
  properNames := by decide
  directoriesAbove := by decide
  homeAbsolute := by
    rintro home same
    cases same
    exact ⟨Path.spelled_ofText _, by decide⟩

theorem household_visits_reachable_files :
    FileTree.household.WellFormed ∧
      (FileTree.household.read (.ofText "lists/all.txt")).isOk = true ∧
      Exists fun last : Walk =>
        loadGroups FileTree.household (.ofText "lists/all.txt") = .ok last.groups ∧
        last.visited =
          [["w", "home", "own.txt"], ["w", "lists", "work.txt"], ["w", "lists", "all.txt"]] ∧
        last.groups.map Group.lines =
          [["1 2020.01.01 All"], ["1 SMTWTFS Work"], ["2 SMTWTFS Own"]] := by
  have fromAll : FileTree.household.included ["w", "lists", "all.txt"] =
      [["w", "lists", "work.txt"], ["w", "lists", "work.txt"], ["w", "home", "own.txt"]] := by
    decide +kernel
  have fromWork : FileTree.household.included ["w", "lists", "work.txt"] =
      [["w", "lists", "all.txt"]] := by decide +kernel
  have fromOwn : FileTree.household.included ["w", "home", "own.txt"] =
      [["w", "lists", "work.txt"]] := by decide +kernel
  have preorder : Preorder FileTree.household.included [] [["w", "lists", "all.txt"]]
      [["w", "lists", "all.txt"], ["w", "lists", "work.txt"], ["w", "home", "own.txt"]] := by
    refine .push (by decide) ?_
    rw [fromAll]
    refine .push (by decide) ?_
    rw [fromWork]
    refine .again (by decide) (.again (by decide) (.push (by decide) ?_))
    rw [fromOwn]
    exact .again (by decide) .done
  rcases loadGroups_visits_reachable_files FileTree.wellFormed_household.toWellShaped
    (rfl : FileTree.household.read (.ofText "lists/all.txt") = .ok (["w", "lists", "all.txt"], _))
    with ⟨last, order, -, -, loaded, visited, -, -, unique, -, lines⟩
  have inOrder := lines FileTree.wellFormed_household
  rw [← (unique _).mp preorder] at visited inOrder
  exact ⟨FileTree.wellFormed_household, by decide, last, loaded, visited,
    inOrder.trans (by decide +kernel)⟩

end Reminders
