import Mathlib.Logic.Relation
import Reminders.Proofs.Files.Following

namespace Reminders

/-!
# Which files pull in which

One file includes another if one of its logical lines says so and the target leads there from the
file.  The file stands for itself here, as the way down from the root of the tree, and not as one of
the paths that lead to it.
-/

theorem includeTarget_ne_empty {line target : String}
    (includes : includeTarget line = some target) : target ≠ "" := by
  unfold includeTarget at includes
  dsimp only at includes
  split at includes
  · split at includes
    · split at includes
      · next something =>
          cases includes
          intro none
          simp_all
      · cases includes
    · cases includes
  · cases includes

theorem Path.pieces_join_ne_nil (directory : Path) {path : Path} (nonempty : path.pieces ≠ []) :
    (directory.join path).pieces ≠ [] := by
  unfold join
  split
  · exact nonempty
  · split
    · exact nonempty
    · split <;> exact List.append_ne_nil_of_right_ne_nil _ nonempty

theorem pieces_resolveInclude_ne_nil (home : Option Path) (includer : Path) (target : String) :
    (resolveInclude home includer target).pieces ≠ [] := by
  unfold resolveInclude
  split <;> exact Path.pieces_join_ne_nil _ (Path.spelled_ofText _).nonempty

namespace FileTree

/-- The logical lines of a file. -/
def lines (tree : FileTree) (location : Location) : List String :=
  match tree.nodes.lookup location with
  | some (.text content) => logicalLines content
  | _ => []

/-- The logical lines of a file that pull in nothing. -/
def ownLines (tree : FileTree) (location : Location) : List String :=
  (tree.lines location).filter fun line => (includeTarget line).isNone

/-- Some logical line of a file names the other, which can be read. -/
def Includes (tree : FileTree) (location other : Location) : Prop :=
  Exists fun line => line ∈ tree.lines location ∧
    Exists fun target => includeTarget line = some target ∧
      Exists fun content =>
        tree.read (resolveInclude tree.home (.ofLocation location) target) = .ok (other, content)

/-- The location of the file that a path reads. -/
def locationOf (tree : FileTree) (path : Path) : Option Location :=
  match tree.read path with
  | .ok (location, _) => some location
  | .error _ => none

/-- The files that a file includes, in the order of its lines. -/
def included (tree : FileTree) (location : Location) : List Location :=
  ((tree.lines location).filterMap includeTarget).filterMap fun target =>
    tree.locationOf (resolveInclude tree.home (.ofLocation location) target)

variable {tree : FileTree}

theorem locationOf_eq_some_iff {path : Path} {location : Location} :
    tree.locationOf path = some location ↔
      Exists fun content => tree.read path = .ok (location, content) := by
  unfold locationOf
  split
  · next other content found => simp [found]
  · next problem refused => simp [refused]

theorem mem_included_iff {location other : Location} :
    other ∈ tree.included location ↔ tree.Includes location other := by
  unfold included Includes
  simp only [List.mem_filterMap, locationOf_eq_some_iff]
  constructor
  · rintro ⟨target, ⟨line, listed, includes⟩, found⟩
    exact ⟨line, listed, target, includes, found⟩
  · rintro ⟨line, listed, target, includes, found⟩
    exact ⟨target, ⟨line, listed, includes⟩, found⟩

theorem lines_of_read {path : Path} {location : Location} {content : String}
    (found : tree.read path = .ok (location, content)) :
    tree.lines location = logicalLines content := by
  unfold lines
  rw [(read_eq_ok_iff.mp found).2]

namespace WellShaped

variable (wellShaped : tree.WellShaped)
include wellShaped

/-- A target leads to the same file from every path to the file that names it. -/
theorem read_resolveInclude {path : Path} {location : Location} {content target : String}
    (nonempty : path.pieces ≠ []) (found : tree.read path = .ok (location, content))
    (named : target ≠ "") :
    tree.read (resolveInclude tree.home path target) =
      tree.read (resolveInclude tree.home (.ofLocation location) target) := by
  unfold resolveInclude
  split
  · rfl
  · cases absolute : (Path.ofText target).isAbsolute with
    | true => simp only [Path.join, absolute, if_true]
    | false =>
        have canonical := wellShaped.read_ofLocation nonempty found
        have proper := Path.ofText_ne_empty named
        have spelled := Path.spelled_ofText target
        apply read_congr
        rw [wellShaped.locate_join_directory nonempty found absolute proper spelled.nonempty,
          wellShaped.locate_join_directory (by simp [Path.ofLocation]) canonical absolute proper
            spelled.nonempty]

/-- The paths that a visit adds lead to the files that the visited one includes. -/
theorem filterMap_locationOf_resolveInclude {path : Path} {location : Location} {content : String}
    (nonempty : path.pieces ≠ []) (found : tree.read path = .ok (location, content)) :
    (((logicalLines content).filterMap includeTarget).map
        (resolveInclude tree.home path)).filterMap tree.locationOf = tree.included location := by
  unfold included
  rw [lines_of_read found, List.filterMap_map]
  apply List.filterMap_congr
  intro target listed
  rcases List.mem_filterMap.mp listed with ⟨line, -, includes⟩
  simp only [Function.comp_apply, locationOf]
  rw [wellShaped.read_resolveInclude nonempty found (includeTarget_ne_empty includes)]

end WellShaped

end FileTree

end Reminders
