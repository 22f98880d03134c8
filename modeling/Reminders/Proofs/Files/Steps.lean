import Mathlib.Logic.Function.Iterate
import Reminders.Proofs.Files.Inclusion
import Reminders.Proofs.Files.Merging
import Reminders.Proofs.Files.Naming
import Reminders.Proofs.Files.Preorder

namespace Reminders

/-!
# The steps of a walk

Each step of a walk takes the next path and either passes it over or visits a file that was not
visited before.  The history of a walk lists its visits.  A step adds at most one visit to it and
keeps three things: the groups are those of the visits, merged one after the other; the paths of the
walk are mentioned by files that are mentioned themselves; and what is still to come up in preorder
is what the pending paths lead to.

The home directory bears on the names of groups only.  If it is an absolute path, no two visits give
their groups one name, and each group is then the group of one visit.
-/

/-- A path is the first one or the target of an include in a file that such a path reads. -/
inductive Mentioned (tree : FileTree) (root : Path) : Path -> Prop
  | root : Mentioned tree root root
  | target {includer : Path} {location : Location} {content line target : String}
      (mentioned : Mentioned tree root includer)
      (found : tree.read includer = .ok (location, content))
      (listed : line ∈ logicalLines content) (includes : includeTarget line = some target) :
      Mentioned tree root (resolveInclude tree.home includer target)

theorem Mentioned.pieces_ne_nil {tree : FileTree} {root path : Path} (nonempty : root.pieces ≠ [])
    (mentioned : Mentioned tree root path) : path.pieces ≠ [] := by
  cases mentioned with
  | root => exact nonempty
  | target => exact pieces_resolveInclude_ne_nil _ _ _

theorem Mentioned.placed {tree : FileTree} {root path : Path} (wellFormed : tree.WellFormed)
    (spelled : root.Spelled) (mentioned : Mentioned tree root path) :
    Path.Placed root.directory path := by
  induction mentioned with
  | root => exact Path.placed_directory spelled
  | @target _ _ _ _ named _ _ _ _ inductionHypothesis =>
      exact inductionHypothesis.resolveInclude wellFormed.homeAbsolute named

/-- Mentioned paths that give one name to their groups read one file. -/
theorem Mentioned.location_eq {tree : FileTree} {root left right : Path} {location other : Location}
    (wellFormed : tree.WellFormed) (spelled : root.Spelled)
    (mentionedLeft : Mentioned tree root left) (mentionedRight : Mentioned tree root right)
    (foundLeft : tree.locationOf left = some location)
    (foundRight : tree.locationOf right = some other)
    (same : Walk.groupName root.directory left = Walk.groupName root.directory right) :
    location = other := by
  rcases FileTree.locationOf_eq_some_iff.mp foundLeft with ⟨content, readLeft⟩
  rcases FileTree.locationOf_eq_some_iff.mp foundRight with ⟨otherContent, readRight⟩
  exact Walk.location_eq_of_groupName_eq (mentionedLeft.placed wellFormed spelled)
    (mentionedRight.placed wellFormed spelled) readLeft readRight same

namespace Walk

variable {tree : FileTree} {root : Path}

/-- The walk that has not looked at anything yet. -/
def start (root : Path) : Walk := ⟨root.directory, [], [], [root]⟩

/-- Look at the next path. -/
def next (tree : FileTree) (walk : Walk) : Option Walk :=
  match walk.pending with
  | [] => none
  | path :: pending =>
      match tree.read path with
      | .error _ => some ⟨walk.base, walk.visited, walk.groups, pending⟩
      | .ok (location, content) =>
          some (visit tree.home path location content
            ⟨walk.base, walk.visited, walk.groups, pending⟩)

/-- Some number of steps of a walk. -/
def LeadsTo (tree : FileTree) : Walk -> Walk -> Prop :=
  Relation.ReflTransGen fun walk later => walk.next tree = some later

/-- Steps can be counted. -/
theorem leadsTo_of_iterate {tree : FileTree} {walk last : Walk} {count : Nat}
    (reached : (fun later => Option.bind later (next tree))^[count] (some walk) = some last) :
    LeadsTo tree walk last := by
  induction count generalizing last with
  | zero =>
      cases reached
      exact .refl
  | succ count inductionHypothesis =>
      rw [Function.iterate_succ_apply', Option.bind_eq_some_iff] at reached
      rcases reached with ⟨before, soFar, step⟩
      exact (inductionHypothesis soFar).tail step

theorem next_eq_none_iff {walk : Walk} : walk.next tree = none ↔ walk.pending = [] := by
  unfold next
  split
  · next none => simp [none]
  · next path pending waiting => split <;> simp [waiting]

/-- A step passes a path over, if it reads nothing or a file that was visited, or visits a file. -/
theorem next_cases {walk later : Walk} (step : walk.next tree = some later) :
    Exists fun path => Exists fun pending => walk.pending = path :: pending ∧
      ((forall location, tree.locationOf path = some location -> location ∈ walk.visited) ∧
          later = ⟨walk.base, walk.visited, walk.groups, pending⟩ ∨
        Exists fun location => Exists fun content =>
          tree.read path = .ok (location, content) ∧ location ∉ walk.visited ∧
            later = ⟨walk.base, location :: walk.visited,
              Group.mergeInto ⟨groupName walk.base path, tree.ownLines location⟩ walk.groups,
              ((logicalLines content).filterMap includeTarget).map
                (resolveInclude tree.home path) ++ pending⟩) := by
  unfold next at step
  split at step
  · cases step
  · next path pending waiting =>
      refine ⟨path, pending, waiting, ?_⟩
      split at step
      · next problem refused =>
          refine Or.inl ⟨fun location found => ?_, (Option.some.inj step).symm⟩
          simp [FileTree.locationOf, refused] at found
      · next location content found =>
          by_cases old : location ∈ walk.visited
          · refine Or.inl ⟨fun other same => ?_, ?_⟩
            · simp only [FileTree.locationOf, found, Option.some.injEq] at same
              exact same ▸ old
            · rw [visit, if_pos old] at step
              exact (Option.some.inj step).symm
          · refine Or.inr ⟨location, content, found, old, ?_⟩
            rw [visit, if_neg old] at step
            rw [FileTree.ownLines, FileTree.lines_of_read found]
            exact (Option.some.inj step).symm

/-- A walk cannot go on for ever. -/
theorem wellFounded_next (tree : FileTree) :
    WellFounded fun later walk : Walk => walk.next tree = some later := by
  have measure := (Prod.lex Nat.lt_wfRel Nat.lt_wfRel).wf
  refine Subrelation.wf (fun {later walk} step => ?_)
    (InvImage.wf (fun walk : Walk => ((walk.unvisited tree).length, walk.pending.length)) measure)
  rcases next_cases step with ⟨path, pending, waiting,
    ⟨-, rfl⟩ | ⟨location, content, found, isNew, rfl⟩⟩
  · have fewer : pending.length < walk.pending.length := by simp [waiting]
    exact Prod.Lex.right _ fewer
  · exact Prod.Lex.left _ _
      (length_unvisited_visit (FileTree.mem_locations_of_read found) isNew rfl)

theorem finish_of_next_eq_none {walk : Walk} (stopped : walk.next tree = none) :
    finish tree walk = walk.groups := by
  rcases walk with ⟨base, visited, groups, pending⟩
  cases next_eq_none_iff.mp stopped
  rw [finish]

theorem finish_of_next_eq_some {walk later : Walk} (step : walk.next tree = some later) :
    finish tree walk = finish tree later := by
  rcases walk with ⟨base, visited, groups, pending⟩
  cases pending with
  | nil => cases step
  | cons path pending =>
      rw [finish]
      split
      · next problem refused =>
          simp only [next, refused] at step
          rw [Option.some.inj step]
      · next location content found =>
          simp only [next, found] at step
          rw [Option.some.inj step]

theorem finish_of_leadsTo {walk last : Walk} (run : LeadsTo tree walk last) :
    finish tree walk = finish tree last := by
  induction run with
  | refl => rfl
  | tail _ step inductionHypothesis =>
      rw [inductionHypothesis, finish_of_next_eq_some step]

/-! ## Histories -/

/-- The visit of a file. -/
structure Visited where
  /-- The path that led there first. -/
  path : Path
  location : Location

/-- The group that a visit makes. -/
def Visited.group (tree : FileTree) (base : Path) (visit : Visited) : Group :=
  ⟨groupName base visit.path, tree.ownLines visit.location⟩

/-- What a walk has done so far. -/
structure IsHistory (tree : FileTree) (root : Path) (walk : Walk) (visits : List Visited) :
    Prop where
  base : walk.base = root.directory
  visited : walk.visited = (visits.map Visited.location).reverse
  groups : walk.groups = mergeAll [] (visits.map (Visited.group tree root.directory))
  nodup : (visits.map Visited.location).Nodup
  reads : forall visit, visit ∈ visits -> Mentioned tree root visit.path ∧
    tree.locationOf visit.path = some visit.location
  pending : forall path, path ∈ walk.pending -> Mentioned tree root path

theorem isHistory_start (tree : FileTree) (root : Path) : IsHistory tree root (start root) [] where
  base := rfl
  visited := rfl
  groups := rfl
  nodup := List.nodup_nil
  reads := by simp
  pending := by
    intro path listed
    rw [List.mem_singleton.mp listed]
    exact .root

namespace IsHistory

variable {walk later : Walk} {visits : List Visited}

theorem passOver (history : IsHistory tree root walk visits) {path : Path} {pending : List Path}
    (waiting : walk.pending = path :: pending) :
    IsHistory tree root ⟨walk.base, walk.visited, walk.groups, pending⟩ visits where
  base := history.base
  visited := history.visited
  groups := history.groups
  nodup := history.nodup
  reads := history.reads
  pending := by
    intro other listed
    apply history.pending
    rw [waiting]
    exact List.mem_cons_of_mem path listed

theorem visit (history : IsHistory tree root walk visits) {path : Path} {pending : List Path}
    {location : Location} {content : String} (waiting : walk.pending = path :: pending)
    (found : tree.read path = .ok (location, content)) (isNew : location ∉ walk.visited) :
    IsHistory tree root
      ⟨walk.base, location :: walk.visited,
        Group.mergeInto ⟨groupName walk.base path, tree.ownLines location⟩ walk.groups,
        ((logicalLines content).filterMap includeTarget).map (resolveInclude tree.home path) ++
          pending⟩
      (visits ++ [⟨path, location⟩]) := by
  have mentioned : Mentioned tree root path := history.pending path (by simp [waiting])
  have located : tree.locationOf path = some location :=
    FileTree.locationOf_eq_some_iff.mpr ⟨content, found⟩
  have absent : location ∉ visits.map Visited.location := by
    simpa [history.visited] using isNew
  refine ⟨history.base, ?_, ?_, ?_, ?_, ?_⟩
  · simp [history.visited]
  · rw [List.map_append, List.map_singleton, mergeAll_concat, ← history.groups, history.base]
    rfl
  · rw [List.map_append, List.map_singleton, ← List.concat_eq_append]
    exact history.nodup.concat absent
  · intro visit listed
    rcases List.mem_append.mp listed with earlier | last
    · exact history.reads visit earlier
    · rw [List.mem_singleton.mp last]
      exact ⟨mentioned, located⟩
  · intro other listed
    rcases List.mem_append.mp listed with pulledIn | later
    · rcases List.mem_map.mp pulledIn with ⟨target, named, rfl⟩
      rcases List.mem_filterMap.mp named with ⟨line, inContent, includes⟩
      exact .target mentioned found inContent includes
    · exact history.pending other (by simp [waiting, later])

/-- The first step of a walk visits the first file. -/
theorem exists_next_start {first : Location} (readable : tree.locationOf root = some first) :
    Exists fun later => (start root).next tree = some later ∧
      IsHistory tree root later [⟨root, first⟩] := by
  cases step : (start root).next tree with
  | none => cases next_eq_none_iff.mp step
  | some later =>
      refine ⟨later, rfl, ?_⟩
      rcases next_cases step with
        ⟨path, pending, waiting, ⟨old, -⟩ | ⟨location, content, found, isNew, rfl⟩⟩
      · cases waiting
        cases old first readable
      · have history := (isHistory_start tree root).visit waiting found isNew
        cases waiting
        rw [FileTree.locationOf_eq_some_iff.mpr ⟨content, found⟩] at readable
        cases readable
        exact history

/-- One step: at most one visit is added, and it comes first in the preorder that is left. -/
theorem step (wellShaped : tree.WellShaped) (nonempty : root.pieces ≠ [])
    (history : IsHistory tree root walk visits) (step : walk.next tree = some later) :
    Exists fun more => IsHistory tree root later (visits ++ more) ∧
      forall order,
        Preorder tree.included later.visited (later.pending.filterMap tree.locationOf) order ->
        Preorder tree.included walk.visited (walk.pending.filterMap tree.locationOf)
          (more.map Visited.location ++ order) := by
  rcases next_cases step with
    ⟨path, pending, waiting, ⟨old, rfl⟩ | ⟨location, content, found, isNew, rfl⟩⟩
  · refine ⟨[], by simpa using history.passOver waiting, fun order preorder => ?_⟩
    rw [waiting]
    cases located : tree.locationOf path with
    | none => rwa [List.filterMap_cons_none located]
    | some location =>
        rw [List.filterMap_cons_some located]
        exact .again (old location located) preorder
  · refine ⟨[⟨path, location⟩], history.visit waiting found isNew,
      fun order preorder => ?_⟩
    have mentioned : Mentioned tree root path := history.pending path (by simp [waiting])
    have located : tree.locationOf path = some location :=
      FileTree.locationOf_eq_some_iff.mpr ⟨content, found⟩
    rw [List.filterMap_append, wellShaped.filterMap_locationOf_resolveInclude
      (mentioned.pieces_ne_nil nonempty) found] at preorder
    rw [waiting, List.filterMap_cons_some located]
    exact preorder.push isNew

theorem run (wellShaped : tree.WellShaped) (nonempty : root.pieces ≠ [])
    (history : IsHistory tree root walk visits) (run : LeadsTo tree walk later) :
    Exists fun more => IsHistory tree root later (visits ++ more) := by
  induction run with
  | refl => exact ⟨[], by simpa using history⟩
  | tail _ step inductionHypothesis =>
      rcases inductionHypothesis with ⟨more, soFar⟩
      rcases soFar.step wellShaped nonempty step with ⟨further, extended, -⟩
      exact ⟨more ++ further, by simpa using extended⟩

/-- A walk comes to its end, and the files it visits on the way come up in preorder. -/
theorem exists_last (wellShaped : tree.WellShaped) (nonempty : root.pieces ≠ [])
    (history : IsHistory tree root walk visits) :
    Exists fun last => Exists fun more => LeadsTo tree walk last ∧ last.next tree = none ∧
      IsHistory tree root last (visits ++ more) ∧
      Preorder tree.included walk.visited (walk.pending.filterMap tree.locationOf)
        (more.map Visited.location) := by
  induction walk using (wellFounded_next tree).induction generalizing visits with
  | _ walk inductionHypothesis =>
      cases step : walk.next tree with
      | none =>
          refine ⟨walk, [], .refl, step, by simpa using history, ?_⟩
          rw [next_eq_none_iff.mp step]
          exact .done
      | some later =>
          rcases history.step wellShaped nonempty step with ⟨more, extended, preorder⟩
          rcases inductionHypothesis later step extended with
            ⟨last, further, run, stopped, whole, rest⟩
          refine ⟨last, more ++ further, run.head step, stopped, by simpa using whole, ?_⟩
          rw [List.map_append]
          exact preorder _ rest

/-! ### Names -/

section

variable (wellFormed : tree.WellFormed) (spelled : root.Spelled)
include wellFormed spelled

/-- No two visits give one name to their groups. -/
theorem nodup_names (history : IsHistory tree root walk visits) :
    ((visits.map (Visited.group tree root.directory)).map Group.name).Nodup := by
  rw [List.map_map]
  refine List.Nodup.map_on (fun left inLeft right inRight same => ?_)
    (List.Nodup.of_map Visited.location history.nodup)
  apply List.inj_on_of_nodup_map history.nodup inLeft inRight
  rcases history.reads left inLeft with ⟨mentionedLeft, foundLeft⟩
  rcases history.reads right inRight with ⟨mentionedRight, foundRight⟩
  exact mentionedLeft.location_eq wellFormed spelled mentionedRight foundLeft foundRight same

/-- Each group is the group of one visit. -/
theorem groups_eq (history : IsHistory tree root walk visits) :
    walk.groups = visits.map (Visited.group tree root.directory) :=
  history.groups.trans (mergeAll_of_nodup (history.nodup_names wellFormed spelled))

/-- No group has the name that the next new file gives to its own. -/
theorem name_ne (history : IsHistory tree root walk visits) {path : Path} {location : Location}
    (mentioned : Mentioned tree root path) (found : tree.locationOf path = some location)
    (isNew : location ∉ walk.visited) {group : Group} (listed : group ∈ walk.groups) :
    group.name ≠ groupName walk.base path := by
  intro same
  rw [history.groups_eq wellFormed spelled] at listed
  rcases List.mem_map.mp listed with ⟨visit, member, rfl⟩
  rcases history.reads visit member with ⟨earlier, earlierFound⟩
  rw [history.base] at same
  have equal := earlier.location_eq wellFormed spelled mentioned earlierFound found same
  apply isNew
  rw [history.visited, List.mem_reverse, ← equal]
  exact List.mem_map_of_mem member

end

end IsHistory

end Walk

/-! ## Loading -/

variable {tree : FileTree} {root : Path}

theorem loadGroups_eq_ok_iff {groups : List Group} :
    loadGroups tree root = .ok groups ↔
      (Exists fun location => tree.locationOf root = some location) ∧
        groups = Walk.finish tree (Walk.start root) := by
  unfold loadGroups FileTree.locationOf
  cases found : tree.read root with
  | error problem => simp
  | ok file =>
      have step : (Walk.start root).next tree =
          some (Walk.visit tree.home root file.1 file.2 ⟨root.directory, [], [], []⟩) := by
        simp only [Walk.next, Walk.start, found]
      rw [Walk.finish_of_next_eq_some step]
      simp [eq_comm]

/-- The groups of a load are those of the walk at its end. -/
theorem loadGroups_eq_ok_of_leadsTo {last : Walk} {location : Location}
    (readable : tree.locationOf root = some location)
    (run : Walk.LeadsTo tree (Walk.start root) last) (stopped : last.next tree = none) :
    loadGroups tree root = .ok last.groups := by
  refine loadGroups_eq_ok_iff.mpr ⟨⟨location, readable⟩, ?_⟩
  rw [Walk.finish_of_leadsTo run, Walk.finish_of_next_eq_none stopped]

end Reminders
