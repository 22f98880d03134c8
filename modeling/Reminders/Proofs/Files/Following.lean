import Reminders.Files.Walk
import Reminders.Proofs.Files.Spelling

namespace Reminders

/-!
# Where paths lead

In the tree of a file system everything above a file is a directory, and no file is called by one of
the two names that paths keep for themselves.  Then the last piece of a path to a file is the name
of the file, and what stands before it leads to the directory that holds the file.

So it does not matter by which path a file was reached when it pulls in another: the target leads to
the same place from each of them, and the way from the root of the tree may stand for all of them.
-/

namespace Path

/-- The path that goes down from the root of the tree. -/
def ofLocation (location : Location) : Path := ⟨"" :: location⟩

end Path

namespace FileTree

/-- What is promised of the tree of a file system: no name is idle or made of two points, and
whatever is above something is a directory. -/
structure WellShaped (tree : FileTree) : Prop where
  properNames : forall location, location ∈ tree.locations -> forall name, name ∈ location ->
    Path.isIdle name = false ∧ name ≠ ".."
  directoriesAbove : forall location, location ∈ tree.locations -> forall count,
    count < location.length -> tree.node (location.take count) = some .directory

/-- What is promised of the home directory as well: where there is one, it is an absolute path. -/
structure WellFormed (tree : FileTree) : Prop extends tree.WellShaped where
  homeAbsolute : forall home, tree.home = some home -> home.Spelled ∧ home.isAbsolute = true

variable {tree : FileTree}

/-! ## Following pieces one after another -/

theorem follow_append (here : Location) (front back : List String) :
    tree.follow here (front ++ back) =
      (tree.follow here front).bind fun there => tree.follow there back := by
  induction front generalizing here with
  | nil => rfl
  | cons piece rest inductionHypothesis =>
      simp only [List.cons_append, follow]
      split
      · rfl
      · split
        · exact inductionHypothesis here
        · split
          · exact inductionHypothesis here.dropLast
          · split
            · exact inductionHypothesis (here ++ [piece])
            · rfl
      · rfl

theorem follow_append_of_ok {here there : Location} {front : List String}
    (reached : tree.follow here front = .ok there) (back : List String) :
    tree.follow here (front ++ back) = tree.follow there back := by
  rw [follow_append, reached]
  rfl

theorem exists_follow_of_append {here there : Location} {front back : List String}
    (reached : tree.follow here (front ++ back) = .ok there) :
    Exists fun middle => tree.follow here front = .ok middle ∧
      tree.follow middle back = .ok there := by
  rw [follow_append] at reached
  cases first : tree.follow here front with
  | error problem =>
      rw [first] at reached
      cases reached
  | ok middle =>
      rw [first] at reached
      exact ⟨middle, rfl, reached⟩

/-- One more piece: it starts from a directory and is idle, goes up or names something. -/
theorem follow_cons_cases {here there : Location} {piece : String} {rest : List String}
    (reached : tree.follow here (piece :: rest) = .ok there) :
    tree.node here = some .directory ∧
      (Path.isIdle piece = true ∧ tree.follow here rest = .ok there ∨
        Path.isIdle piece = false ∧ piece = ".." ∧ tree.follow here.dropLast rest = .ok there ∨
        Path.isIdle piece = false ∧ piece ≠ ".." ∧ (tree.node (here ++ [piece])).isSome = true ∧
          tree.follow (here ++ [piece]) rest = .ok there) := by
  rw [follow] at reached
  split at reached
  · cases reached
  · next isDirectory =>
      refine ⟨isDirectory, ?_⟩
      split at reached
      · next idle => exact Or.inl ⟨idle, reached⟩
      · next moving =>
          have moving : Path.isIdle piece = false := Bool.eq_false_iff.mpr moving
          split at reached
          · next up => exact Or.inr (Or.inl ⟨moving, up, reached⟩)
          · next down =>
              split at reached
              · next present => exact Or.inr (Or.inr ⟨moving, down, present, reached⟩)
              · cases reached
  · cases reached

/-- Idle pieces may be left out of a path that leads somewhere. -/
theorem follow_moves {here there : Location} {pieces : List String}
    (reached : tree.follow here pieces = .ok there) :
    tree.follow here (Path.moves pieces) = .ok there := by
  induction pieces generalizing here with
  | nil => exact reached
  | cons piece rest inductionHypothesis =>
      rcases follow_cons_cases reached with ⟨isDirectory,
        ⟨idle, later⟩ | ⟨moving, up, later⟩ | ⟨moving, down, present, later⟩⟩
      · simpa [Path.moves, idle] using inductionHypothesis later
      · subst up
        rw [Path.moves_cons moving, follow, isDirectory]
        simpa [moving] using inductionHypothesis later
      · rw [Path.moves_cons moving, follow, isDirectory]
        simpa [moving, down, present] using inductionHypothesis later

theorem eq_of_follow_idle {here there : Location} {pieces : List String}
    (idle : forall piece, piece ∈ pieces -> Path.isIdle piece = true)
    (reached : tree.follow here pieces = .ok there) : there = here := by
  have still := follow_moves reached
  rw [Path.moves_of_idle idle] at still
  cases still
  rfl

/-! ## What is above a file -/

theorem isSome_node_of_prefix {location listed : Location} (member : listed ∈ tree.locations)
    (isPrefix : location <+: listed) : (tree.node location).isSome = true := by
  rcases List.mem_map.mp member with ⟨entry, inNodes, same⟩
  have above : (tree.nodes.any fun entry => location.isPrefixOf entry.1) = true :=
    List.any_eq_true.mpr ⟨entry, inNodes, by simpa [same] using isPrefix⟩
  unfold node
  split
  · rfl
  · simp [above]

theorem exists_listed_of_isSome_node {location : Location} (below : location ≠ [])
    (present : (tree.node location).isSome = true) :
    Exists fun listed => listed ∈ tree.locations ∧ location <+: listed := by
  unfold node at present
  split at present
  · next found =>
      rcases List.lookup_eq_some_iff.mp found with ⟨before, after, split, -⟩
      exact ⟨location, by simp [locations, split], List.prefix_refl location⟩
  · split at present
    · next above =>
        simp only [List.isEmpty_eq_false_iff.mpr below, Bool.false_or, List.any_eq_true] at above
        rcases above with ⟨entry, member, isPrefix⟩
        exact ⟨entry.1, List.mem_map_of_mem member, List.isPrefixOf_iff_prefix.mp isPrefix⟩
    · cases present

namespace WellShaped

variable (wellShaped : tree.WellShaped)
include wellShaped

/-- Above anything in the tree there is a directory. -/
theorem node_dropLast {location : Location} (below : location ≠ [])
    (present : (tree.node location).isSome = true) :
    tree.node location.dropLast = some .directory := by
  rcases exists_listed_of_isSome_node below present with ⟨listed, member, rest, rfl⟩
  have positive := List.length_pos_iff.mpr below
  have above := wellShaped.directoriesAbove _ member (location.length - 1)
    (by rw [List.length_append]; omega)
  rwa [List.take_append_of_le_length (by omega), ← List.dropLast_eq_take] at above

/-- What stands before the last piece of a path to a file leads to the directory that holds it. -/
theorem follow_parent {here location : Location} {front : List String} {last : String}
    (reached : tree.follow here (front ++ [last]) = .ok location)
    (isFile : tree.node location ≠ some .directory) :
    location ≠ [] ∧ tree.follow here front = .ok location.dropLast := by
  rcases exists_follow_of_append reached with ⟨middle, before, final⟩
  rcases follow_cons_cases final with
    ⟨isDirectory, ⟨_, later⟩ | ⟨_, _, later⟩ | ⟨_, _, _, later⟩⟩
  · cases later
    exact absurd isDirectory isFile
  · cases later
    by_cases top : middle = []
    · rw [top] at isFile isDirectory
      exact absurd isDirectory isFile
    · exact absurd (wellShaped.node_dropLast top (by rw [isDirectory]; rfl)) isFile
  · cases later
    exact ⟨by simp, by rw [List.dropLast_concat]; exact before⟩

/-- The way down to anything that is listed leads there. -/
theorem follow_listed {front back : Location} (listed : front ++ back ∈ tree.locations) :
    tree.follow front back = .ok (front ++ back) := by
  induction back generalizing front with
  | nil => rw [List.append_nil]; rfl
  | cons name rest inductionHypothesis =>
      have listed' : (front ++ [name]) ++ rest ∈ tree.locations := by simpa using listed
      have isDirectory := wellShaped.directoriesAbove _ listed front.length (by simp)
      rw [List.take_left] at isDirectory
      have proper := wellShaped.properNames _ listed name (by simp)
      have present : (tree.node (front ++ [name])).isSome = true :=
        isSome_node_of_prefix listed' (List.prefix_append _ rest)
      rw [follow, isDirectory]
      simpa [proper.1, proper.2, present] using inductionHypothesis listed'

end WellShaped

/-! ## Reading -/

/-- Where a path starts from. -/
def start (tree : FileTree) (path : Path) : Location :=
  if path.isAbsolute then [] else tree.workingDirectory

theorem locate_of_ne_empty {path : Path} (proper : path ≠ .empty) :
    tree.locate path = tree.follow (tree.start path) path.pieces := by
  unfold locate start
  rw [if_neg proper]
  split <;> rfl

theorem read_eq_ok_iff {path : Path} {location : Location} {content : String} :
    tree.read path = .ok (location, content) ↔
      tree.locate path = .ok location ∧ tree.nodes.lookup location = some (.text content) := by
  unfold read
  cases located : tree.locate path with
  | error problem => simp
  | ok there =>
      constructor
      · intro found
        dsimp only at found
        split at found
        · next listed =>
            cases found
            exact ⟨rfl, listed⟩
        · cases found
        · cases found
      · rintro ⟨same, listed⟩
        cases same
        simp [listed]

theorem read_congr {left right : Path} (same : tree.locate left = tree.locate right) :
    tree.read left = tree.read right := by
  unfold read
  rw [same]

theorem node_of_read {path : Path} {location : Location} {content : String}
    (found : tree.read path = .ok (location, content)) :
    tree.node location = some (.text content) := by
  unfold node
  rw [(read_eq_ok_iff.mp found).2]

/-- The pieces of a readable path lead to its location. -/
theorem follow_of_read {path : Path} {location : Location} {content : String}
    (found : tree.read path = .ok (location, content)) :
    path ≠ .empty ∧ tree.follow (tree.start path) path.pieces = .ok location := by
  have located := (read_eq_ok_iff.mp found).1
  by_cases none : path = .empty
  · rw [none] at located
    cases located
  · exact ⟨none, by rw [← locate_of_ne_empty none]; exact located⟩

namespace WellShaped

variable (wellShaped : tree.WellShaped)
include wellShaped

/-- A relative path that is joined to the directory of a file leads on from there. -/
theorem locate_join_directory {path target : Path} {location : Location} {content : String}
    (nonempty : path.pieces ≠ []) (found : tree.read path = .ok (location, content))
    (isRelative : target.isAbsolute = false) (proper : target ≠ .empty)
    (targetNonempty : target.pieces ≠ []) :
    tree.locate (path.directory.join target) =
      tree.follow location.dropLast target.pieces := by
  have isFile : tree.node location ≠ some .directory := by simp [node_of_read found]
  rcases follow_of_read found with ⟨-, reached⟩
  rcases Path.pieces_cases nonempty with ⟨last, pieces⟩ | ⟨first, middle, last, pieces⟩
  · have directory : path.directory = .empty := by simp [Path.directory, pieces]
    have joined : Path.empty.join target = target := by simp [Path.join, isRelative]
    have here : tree.start path = tree.start target := by
      have single : path.isAbsolute = false := by simp [Path.isAbsolute, pieces]
      simp [start, single, isRelative]
    rw [pieces, here] at reached
    have above : _ ∧ tree.follow _ [] = .ok location.dropLast :=
      wellShaped.follow_parent reached isFile
    rw [directory, joined, locate_of_ne_empty proper, Except.ok.inj above.2]
  · rcases Path.exists_join_directory pieces isRelative with ⟨kept, idle, split, isIdle, joined⟩
    have more : kept ++ target.pieces ≠ [] := by simp [targetNonempty]
    have here : tree.start (path.directory.join target) = tree.start path := by
      unfold start
      rw [Path.isAbsolute_eq_decide joined more, Path.isAbsolute_eq_decide pieces (by simp)]
    have joinedProper : path.directory.join target ≠ .empty := by
      intro same
      rw [same] at joined
      exact more (List.cons.inj joined).2.symm
    rw [pieces, ← List.cons_append] at reached
    have above := (wellShaped.follow_parent reached isFile).2
    rw [split, ← List.cons_append] at above
    rcases exists_follow_of_append above with ⟨there, before, still⟩
    rw [eq_of_follow_idle isIdle still, locate_of_ne_empty joinedProper, here, joined,
      ← List.cons_append, follow_append_of_ok before]

/-- The way down from the root of the tree reads the same file. -/
theorem read_ofLocation {path : Path} {location : Location} {content : String}
    (nonempty : path.pieces ≠ []) (found : tree.read path = .ok (location, content)) :
    tree.read (.ofLocation location) = .ok (location, content) := by
  have isFile : tree.node location ≠ some .directory := by simp [node_of_read found]
  have below : location ≠ [] := by
    rcases List.eq_nil_or_concat path.pieces with none | ⟨front, last, some⟩
    · exact absurd none nonempty
    · have reached := (follow_of_read found).2
      rw [some, List.concat_eq_append] at reached
      exact (wellShaped.follow_parent reached isFile).1
  have listed : location ∈ tree.locations := mem_locations_of_read found
  have top : tree.node [] = some .directory :=
    wellShaped.directoriesAbove location listed 0 (List.length_pos_iff.mpr below)
  have proper : Path.ofLocation location ≠ .empty := by
    simpa [Path.ofLocation, Path.empty] using below
  have shape : (Path.ofLocation location).pieces = "" :: location := rfl
  have absolute : (Path.ofLocation location).isAbsolute = true := by
    rw [Path.isAbsolute_eq_decide shape below]
    rfl
  refine read_eq_ok_iff.mpr ⟨?_, (read_eq_ok_iff.mp found).2⟩
  rw [locate_of_ne_empty proper, start, if_pos absolute, Path.ofLocation, follow, top]
  have down : tree.follow [] location = .ok ([] ++ location) := wellShaped.follow_listed listed
  exact down

end WellShaped

end FileTree

end Reminders
