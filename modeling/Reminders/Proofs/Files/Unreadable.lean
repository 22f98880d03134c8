import Reminders.Proofs.Files.LineByLine
import Reminders.Proofs.Files.Reachability
import Reminders.Proofs.Files.Rewriting

namespace Reminders

/-!
# Files that cannot be read

Only the first file has to be readable.  An include that leads to nothing readable is a path that
the walk passes over, and it has no effect wherever in the walk it comes up: the same files are
visited in the same order, and the groups are the same as if the line were not there.

The walk over a tree and the walk over the tree without the line are compared step by step.  They
agree on all that has been done, and on the pending paths up to those that cannot be read.
-/

namespace FileTree

/-- Whether a path reads a file. -/
def isReadable (tree : FileTree) (path : Path) : Bool := (tree.locationOf path).isSome

/-- The paths that a file adds to a walk that comes upon it by the given path. -/
def pulledIn (tree : FileTree) (path : Path) (location : Location) : List Path :=
  ((tree.lines location).filterMap includeTarget).map (resolveInclude tree.home path)

/-- Walks over two trees come to the same: paths read the same files in both, and each file holds
the same lines of its own and pulls in the same paths, apart from paths that cannot be read. -/
structure LoadsLike (tree other : FileTree) : Prop where
  read : forall path, (other.read path).map Prod.fst = (tree.read path).map Prod.fst
  ownLines : forall location, other.ownLines location = tree.ownLines location
  pulledIn : forall path location, path.pieces ≠ [] -> tree.locationOf path = some location ->
    (other.pulledIn path location).filter tree.isReadable =
      (tree.pulledIn path location).filter tree.isReadable

variable {tree other : FileTree}

theorem isReadable_eq_false_iff {path : Path} :
    tree.isReadable path = false ↔ Exists fun problem => tree.read path = .error problem := by
  unfold isReadable locationOf
  cases tree.read path with
  | error problem => simp
  | ok file => simp

theorem LoadsLike.exists_read_eq_ok (like : tree.LoadsLike other) {path : Path}
    {location : Location} {content : String} (found : tree.read path = .ok (location, content)) :
    Exists fun otherContent => other.read path = .ok (location, otherContent) := by
  have same := like.read path
  rw [found] at same
  cases reading : other.read path with
  | error problem =>
      rw [reading] at same
      cases same
  | ok file =>
      rw [reading] at same
      cases same
      exact ⟨file.2, rfl⟩

theorem LoadsLike.read_eq_error (like : tree.LoadsLike other) {path : Path} {problem : ReadError}
    (refused : tree.read path = .error problem) : other.read path = .error problem := by
  have same := like.read path
  rw [refused] at same
  cases reading : other.read path with
  | error otherProblem =>
      rw [reading] at same
      cases same
      rfl
  | ok file =>
      rw [reading] at same
      cases same

/-- The same paths can be read in both trees. -/
theorem LoadsLike.isReadable_eq (like : tree.LoadsLike other) :
    other.isReadable = tree.isReadable := by
  funext path
  cases found : tree.read path with
  | error problem =>
      rw [isReadable_eq_false_iff.mpr ⟨problem, found⟩,
        isReadable_eq_false_iff.mpr ⟨problem, like.read_eq_error found⟩]
  | ok file =>
      rcases like.exists_read_eq_ok found with ⟨content, foundToo⟩
      simp only [isReadable, locationOf, found, foundToo]

end FileTree

/-! ## Walks side by side -/

namespace Walk

variable {tree other : FileTree} {base : Path} {visited : List Location} {groups : List Group}
  {path : Path} {pending : List Path}

theorem next_cons_of_error {problem : ReadError} (refused : tree.read path = .error problem) :
    next tree ⟨base, visited, groups, path :: pending⟩ = some ⟨base, visited, groups, pending⟩ := by
  simp only [next, refused]

theorem next_cons_of_ok {location : Location} {content : String}
    (found : tree.read path = .ok (location, content)) :
    next tree ⟨base, visited, groups, path :: pending⟩ =
      some (if location ∈ visited then ⟨base, visited, groups, pending⟩
        else ⟨base, location :: visited,
          Group.mergeInto ⟨groupName base path, tree.ownLines location⟩ groups,
          tree.pulledIn path location ++ pending⟩) := by
  simp only [next, found, visit, FileTree.ownLines, FileTree.pulledIn, FileTree.lines_of_read found]

/-- Paths that cannot be read are passed over. -/
theorem finish_of_unreadable {front : List Path}
    (unreadable : forall path, path ∈ front -> ¬ tree.isReadable path = true) :
    finish tree ⟨base, visited, groups, front ++ pending⟩ =
      finish tree ⟨base, visited, groups, pending⟩ := by
  induction front with
  | nil => rfl
  | cons path rest inductionHypothesis =>
      have first := Bool.eq_false_iff.mpr (unreadable path List.mem_cons_self)
      rcases FileTree.isReadable_eq_false_iff.mp first with ⟨problem, refused⟩
      rw [List.cons_append, finish_of_next_eq_some (next_cons_of_error refused)]
      exact inductionHypothesis fun path later => unreadable path (List.mem_cons_of_mem _ later)

/-- Two walks have done the same and have the same readable paths before them. -/
structure KeepsUp (tree : FileTree) (walk later : Walk) : Prop where
  base : later.base = walk.base
  visited : later.visited = walk.visited
  groups : later.groups = walk.groups
  pending : later.pending.filter tree.isReadable = walk.pending.filter tree.isReadable
  nonempty : forall path, path ∈ walk.pending -> path.pieces ≠ []

/-- When both walks come upon one file, they still keep up with each other. -/
theorem keepsUp_of_read (like : tree.LoadsLike other) {location : Location} {content : String}
    {secondPending : List Path} (found : tree.read path = .ok (location, content))
    (samePending : secondPending.filter tree.isReadable = pending.filter tree.isReadable)
    (nonempty : forall next, next ∈ path :: pending -> next.pieces ≠ []) :
    KeepsUp tree
      (if location ∈ visited then ⟨base, visited, groups, pending⟩
        else ⟨base, location :: visited,
          Group.mergeInto ⟨groupName base path, tree.ownLines location⟩ groups,
          tree.pulledIn path location ++ pending⟩)
      (if location ∈ visited then ⟨base, visited, groups, secondPending⟩
        else ⟨base, location :: visited,
          Group.mergeInto ⟨groupName base path, other.ownLines location⟩ groups,
          other.pulledIn path location ++ secondPending⟩) := by
  have rest : forall next, next ∈ pending -> next.pieces ≠ [] := fun next member =>
    nonempty next (List.mem_cons_of_mem path member)
  by_cases old : location ∈ visited
  · rw [if_pos old, if_pos old]
    exact ⟨rfl, rfl, rfl, samePending, rest⟩
  · rw [if_neg old, if_neg old, like.ownLines]
    refine ⟨rfl, rfl, rfl, ?_, ?_⟩
    · have located : tree.locationOf path = some location :=
        FileTree.locationOf_eq_some_iff.mpr ⟨content, found⟩
      rw [List.filter_append, List.filter_append, samePending,
        like.pulledIn path location (nonempty path List.mem_cons_self) located]
    · intro next member
      rcases List.mem_append.mp member with added | waiting
      · rcases List.mem_map.mp added with ⟨target, -, rfl⟩
        exact pieces_resolveInclude_ne_nil _ _ _
      · exact rest next waiting

/-- Walks that keep up with each other come to the same end.  The induction is on the first walk;
the second one passes over what it cannot read until it comes to the path that the first one
reads. -/
theorem finish_eq_of_keepsUp (like : tree.LoadsLike other) {walk second : Walk}
    (keepsUp : KeepsUp tree walk second) : finish other second = finish tree walk := by
  induction walk using (wellFounded_next tree).induction generalizing second with
  | _ walk inductionHypothesis =>
      rcases walk with ⟨base, visited, groups, pending⟩
      rcases second with ⟨secondBase, secondVisited, secondGroups, secondPending⟩
      rcases keepsUp with ⟨sameBase, sameVisited, sameGroups, samePending, nonempty⟩
      dsimp only at sameBase sameVisited sameGroups samePending nonempty
      subst secondBase secondVisited secondGroups
      cases pending with
      | nil =>
          have unreadable := List.filter_eq_nil_iff.mp samePending
          rw [← like.isReadable_eq] at unreadable
          rw [← List.append_nil secondPending, finish_of_unreadable unreadable,
            finish_of_next_eq_none rfl, finish_of_next_eq_none rfl]
      | cons path pending =>
          cases found : tree.read path with
          | error problem =>
              have step : next tree ⟨base, visited, groups, path :: pending⟩ = _ :=
                next_cons_of_error found
              rw [finish_of_next_eq_some step]
              refine inductionHypothesis _ step ⟨rfl, rfl, rfl, ?_, fun next member =>
                nonempty next (List.mem_cons_of_mem path member)⟩
              have passedOver := FileTree.isReadable_eq_false_iff.mpr ⟨problem, found⟩
              rwa [List.filter_cons_of_neg (Bool.eq_false_iff.mp passedOver)] at samePending
          | ok file =>
              rcases file with ⟨location, content⟩
              have readable : tree.isReadable path = true := by
                simp only [FileTree.isReadable, FileTree.locationOf, found, Option.isSome_some]
              rw [List.filter_cons_of_pos readable] at samePending
              rcases List.filter_eq_cons_iff.mp samePending with
                ⟨front, back, rfl, unreadable, -, sameRest⟩
              rcases like.exists_read_eq_ok found with ⟨otherContent, foundToo⟩
              rw [← like.isReadable_eq] at unreadable
              have step : next tree ⟨base, visited, groups, path :: pending⟩ = _ :=
                next_cons_of_ok found
              rw [finish_of_unreadable unreadable,
                finish_of_next_eq_some (next_cons_of_ok foundToo), finish_of_next_eq_some step]
              exact inductionHypothesis _ step (keepsUp_of_read like found sameRest nonempty)

end Walk

/-- Two trees whose walks come to the same load the same. -/
theorem loadGroups_eq_of_loadsLike {tree other : FileTree} {root : Path}
    (like : tree.LoadsLike other) (nonempty : root.pieces ≠ []) :
    loadGroups other root = loadGroups tree root := by
  cases found : tree.read root with
  | error problem => simp only [loadGroups, found, like.read_eq_error found]
  | ok file =>
      rcases file with ⟨location, content⟩
      rcases like.exists_read_eq_ok found with ⟨otherContent, foundToo⟩
      have sameEnd : Walk.finish other (Walk.start root) = Walk.finish tree (Walk.start root) := by
        refine Walk.finish_eq_of_keepsUp like ⟨rfl, rfl, rfl, rfl, ?_⟩
        intro path member
        rw [List.mem_singleton.mp member]
        exact nonempty
      have located := FileTree.locationOf_eq_some_iff.mpr ⟨content, found⟩
      have locatedToo := FileTree.locationOf_eq_some_iff.mpr ⟨otherContent, foundToo⟩
      rw [loadGroups_eq_ok_iff.mpr ⟨⟨location, locatedToo⟩, rfl⟩, sameEnd]
      exact (loadGroups_eq_ok_iff.mpr ⟨⟨location, located⟩, rfl⟩).symm

/-! ## A line that leads nowhere -/

namespace FileTree

/-- A physical line of the file at a location stands alone and pulls in what cannot be read.  The
include is read from some path to the file, as it is when a walk comes to the file by that path. -/
structure LeadsNowhere (tree : FileTree) (location : Location) (before : List (List Char))
    (line : List Char) (after : List (List Char)) : Prop where
  oneLine : forall part, part ∈ before ++ line :: after -> '\n' ∉ part
  alone : StandsAlone before line
  unreadable : Exists fun includer : Path => Exists fun target : String =>
    Exists fun cause : ReadError =>
      includer.pieces ≠ [] ∧
        tree.read includer = .ok (location, textOfLines (before ++ line :: after)) ∧
        includeTarget (String.ofList (trimEnd line)) = some target ∧
        tree.read (resolveInclude tree.home includer target) = .error cause

variable {tree : FileTree} {location : Location} {before after : List (List Char)}
  {line comment : List Char}

/-- A walk over the tree in which a line that leads nowhere is commented out comes to the same. -/
theorem LeadsNowhere.loadsLike (leadsNowhere : tree.LeadsNowhere location before line after)
    (wellShaped : tree.WellShaped) (isComment : IsComment comment)
    (commentOneLine : '\n' ∉ comment) :
    tree.LoadsLike (tree.withText location (textOfLines (before ++ comment :: after))) := by
  rcases leadsNowhere.unreadable with
    ⟨includer, target, cause, nonempty, found, includes, refused⟩
  rcases exists_logicalLines_of_commentedOut leadsNowhere.alone includes isComment
    leadsNowhere.oneLine commentOneLine with ⟨front, back, lines, commentedLines⟩
  have listed := (read_eq_ok_iff.mp found).2
  rw [← lines_of_read found] at lines
  refine ⟨?_, ?_, ?_⟩
  · intro path
    rw [read_withText listed]
    cases tree.read path <;> rfl
  · intro other
    unfold ownLines
    rw [lines_withText listed]
    by_cases isOwn : other = location
    · rw [if_pos isOwn, isOwn, lines, commentedLines]
      simp [includes]
    · rw [if_neg isOwn]
  · intro path other pathNonempty located
    unfold pulledIn
    rw [lines_withText listed]
    by_cases isOwn : other = location
    · subst isOwn
      rcases locationOf_eq_some_iff.mp located with ⟨content, reached⟩
      have named := includeTarget_ne_empty includes
      have same : tree.read (resolveInclude tree.home path target) =
          tree.read (resolveInclude tree.home includer target) :=
        (wellShaped.read_resolveInclude pathNonempty reached named).trans
          (wellShaped.read_resolveInclude nonempty found named).symm
      have passedOver : tree.isReadable (resolveInclude tree.home path target) = false :=
        isReadable_eq_false_iff.mpr ⟨cause, same.trans refused⟩
      rw [if_pos rfl, lines, commentedLines]
      simp [includes, passedOver, withText]
    · rw [if_neg isOwn]
      rfl

end FileTree

/-- Loading fails exactly if the first file cannot be read as text, and then it names the first file
as it was given.  A line that pulls in what cannot be read leaves no trace, in whichever file it
stands: with a comment in its place the same groups are loaded. -/
theorem loadGroups_fails_only_at_first_file (tree : FileTree) (root : String) :
    ((Exists fun problem => loadGroups tree (.ofText root) = .error problem) ↔
      ¬ Exists fun location => Exists fun content =>
        tree.locate (.ofText root) = .ok location ∧
          tree.nodes.lookup location = some (.text content)) ∧
    (forall problem, loadGroups tree (.ofText root) = .error problem ->
      problem.path.text = root ∧ problem.message = "cannot open data file " ++ root ∧
        tree.read (.ofText root) = .error problem.cause) ∧
    (forall (location : Location) (before : List (List Char)) (line : List Char)
        (after : List (List Char)) (comment : List Char),
      tree.WellShaped -> tree.LeadsNowhere location before line after ->
      IsComment comment -> '\n' ∉ comment ->
      loadGroups (tree.withText location (textOfLines (before ++ comment :: after)))
          (.ofText root) =
        loadGroups tree (.ofText root)) := by
  refine ⟨?_, ?_, ?_⟩
  · simp only [← FileTree.read_eq_ok_iff]
    cases found : tree.read (.ofText root) with
    | error cause => simp [loadGroups, found]
    | ok file =>
        rcases file with ⟨location, content⟩
        simp [loadGroups, found]
  · intro problem failed
    cases found : tree.read (.ofText root) with
    | error cause =>
        simp only [loadGroups, found] at failed
        cases failed
        have given := Path.text_ofText root
        exact ⟨given, congrArg _ given, rfl⟩
    | ok file =>
        simp only [loadGroups, found] at failed
        cases failed
  · intro location before line after comment wellShaped leadsNowhere isComment commentOneLine
    have like := leadsNowhere.loadsLike wellShaped isComment commentOneLine
    exact loadGroups_eq_of_loadsLike like (Path.spelled_ofText root).nonempty

/-- The work list of the household may name a file that is not there or leave it out, and a
directory of lists cannot be loaded as a list. -/
theorem household_without_missing_file :
    let location : Location := ["w", "lists", "work.txt"]
    let before : List (List Char) := ["1 SMTWTFS Work".toList, "include /w/lists//all.txt".toList]
    let line : List Char := "include none".toList
    let comment : List Char := "  # include none \\".toList
    FileTree.household.WellShaped ∧
      FileTree.household.LeadsNowhere location before line [] ∧
      IsComment comment ∧ '\n' ∉ comment ∧
      loadGroups (FileTree.household.withText location (textOfLines (before ++ comment :: [])))
          (.ofText "lists/all.txt") =
        loadGroups FileTree.household (.ofText "lists/all.txt") ∧
      Exists fun problem => loadGroups FileTree.household (.ofText "lists/sub") = .error problem ∧
        problem.message = "cannot open data file lists/sub" ∧ problem.cause = .isDirectory := by
  intro location before line comment
  have wellShaped := FileTree.wellFormed_household.toWellShaped
  have leadsNowhere : FileTree.household.LeadsNowhere location before line [] := by
    refine ⟨by decide, ⟨by decide, by decide⟩, .ofText "lists/work.txt", "none", .notFound, ?_⟩
    exact ⟨by decide, by decide +kernel, by decide +kernel, by decide +kernel⟩
  have isComment : IsComment comment := by rfl
  have oneLine : '\n' ∉ comment := by decide
  have ofAll := loadGroups_fails_only_at_first_file FileTree.household "lists/all.txt"
  have ofDirectory := loadGroups_fails_only_at_first_file FileTree.household "lists/sub"
  have refused : FileTree.household.read (.ofText "lists/sub") = .error .isDirectory := by
    decide +kernel
  have notText : ¬ Exists fun there => Exists fun content =>
      FileTree.household.locate (.ofText "lists/sub") = .ok there ∧
        FileTree.household.nodes.lookup there = some (.text content) := by
    simp only [← FileTree.read_eq_ok_iff, refused]
    simp
  rcases ofDirectory.1.mpr notText with ⟨problem, failed⟩
  rcases ofDirectory.2.1 problem failed with ⟨-, message, cause⟩
  rw [refused] at cause
  exact ⟨wellShaped, leadsNowhere, isComment, oneLine,
    ofAll.2.2 location before line [] comment wellShaped leadsNowhere isComment oneLine,
    problem, failed, message, (Except.error.inj cause).symm⟩

end Reminders
