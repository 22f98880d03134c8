import Reminders.Files.Document
import Reminders.Files.Group
import Reminders.Files.Tree

namespace Reminders

/-!
# Walking the includes

A data file may pull in others, and these may pull in more.  The files are visited in the order in
which they are met when each file is followed by the files it pulls in, in the order of its lines.
A file that has been visited is passed over, whatever path leads to it, and so is one that cannot
be read.  Only the first file has to be readable.

Each step of the walk takes the next path and either passes it over or visits a new location.
There are finitely many locations, so the walk ends.
-/

/-- The path that an include names.  A leading tilde and slash stand for the home directory; other
relative paths start from the directory of the file that pulls them in. -/
def resolveInclude (home : Option Path) (includer : Path) (target : String) : Path :=
  match home, target.toList with
  | some home, '~' :: '/' :: rest => home.join (.ofText (String.ofList rest))
  | _, _ => includer.directory.join (.ofText target)

/-- A walk under way. -/
structure Walk where
  /-- The directory of the first file, relative to which files are named. -/
  base : Path
  visited : List Location
  groups : List Group
  /-- The paths that are still to be looked at, the next one first. -/
  pending : List Path
deriving DecidableEq, Repr

namespace Walk

/-- The name of the group for the file that a path leads to: the part of the path within the base,
or the whole path if it does not begin with the base. -/
def groupName (base path : Path) : String := ((Path.within base path).getD path).text

/-- Visit a file: its lines make up a group, and the files that it pulls in are looked at next.  A
location that was visited before is left alone. -/
def visit (home : Option Path) (path : Path) (location : Location) (content : String)
    (walk : Walk) : Walk :=
  if location ∈ walk.visited then walk
  else
    let lines := logicalLines content
    let group : Group :=
      ⟨groupName walk.base path, lines.filter fun line => (includeTarget line).isNone⟩
    let includes := (lines.filterMap includeTarget).map (resolveInclude home path)
    ⟨walk.base, location :: walk.visited, group.mergeInto walk.groups, includes ++ walk.pending⟩

/-- The listed locations of a tree that a walk has not visited. -/
def unvisited (tree : FileTree) (walk : Walk) : List Location :=
  tree.locations.filter fun location => !walk.visited.contains location

/-- A stricter filter keeps fewer items if it drops one that the other keeps. -/
theorem length_filter_lt {α : Type} {loose strict : α -> Bool} {items : List α} {item : α}
    (implies : forall other, strict other = true -> loose other = true) (listed : item ∈ items)
    (kept : loose item = true) (dropped : strict item = false) :
    (items.filter strict).length < (items.filter loose).length := by
  have atMost (others : List α) : (others.filter strict).length ≤ (others.filter loose).length := by
    simp only [← List.countP_eq_length_filter]
    exact List.countP_mono_left fun other _ => implies other
  induction items with
  | nil => cases listed
  | cons first rest inductionHypothesis =>
      cases List.mem_cons.mp listed with
      | inl same =>
          subst same
          have := atMost rest
          simp only [List.filter_cons, kept, dropped, if_true, Bool.false_eq_true, if_false,
            List.length_cons]
          omega
      | inr later =>
          have := inductionHypothesis later
          cases looseFirst : loose first with
          | true =>
              cases strictFirst : strict first <;>
                simp only [List.filter_cons, looseFirst, strictFirst, if_true, Bool.false_eq_true,
                  if_false, List.length_cons] <;> omega
          | false =>
              have strictFirst : strict first = false := by
                cases strictFirst : strict first with
                | true => rw [implies first strictFirst] at looseFirst; cases looseFirst
                | false => rfl
              simp only [List.filter_cons, looseFirst, strictFirst, Bool.false_eq_true, if_false]
              exact this

/-- Visiting a location that is listed and new leaves fewer to visit. -/
theorem length_unvisited_visit {tree : FileTree} {walk visited : Walk} {location : Location}
    (listed : location ∈ tree.locations) (isNew : location ∉ walk.visited)
    (added : visited.visited = location :: walk.visited) :
    (visited.unvisited tree).length < (walk.unvisited tree).length := by
  unfold unvisited
  refine length_filter_lt (fun other fresh => ?_) listed (by simpa using isNew) (by simp [added])
  simp only [added, List.contains_cons, Bool.not_or, Bool.and_eq_true] at fresh
  exact fresh.2

/-- Go on until no path is pending. -/
def finish (tree : FileTree) (walk : Walk) : List Group :=
  match walk with
  | ⟨_, _, groups, []⟩ => groups
  | ⟨base, visited, groups, path :: pending⟩ =>
      match _ : tree.read path with
      | .error _ => finish tree ⟨base, visited, groups, pending⟩
      | .ok (location, content) =>
          finish tree (visit tree.home path location content ⟨base, visited, groups, pending⟩)
termination_by ((unvisited tree walk).length, walk.pending.length)
decreasing_by
  · exact Prod.Lex.right _ (by simp)
  · unfold visit
    split
    · exact Prod.Lex.right _ (by simp)
    · next fresh =>
        refine Prod.Lex.left _ _ ?_
        exact length_unvisited_visit (FileTree.mem_locations_of_read (by assumption)) fresh rfl

end Walk

/-- Why nothing was loaded. -/
structure LoadError where
  path : Path
  cause : ReadError
deriving DecidableEq, Repr

/-- What is said of a first file that cannot be read. -/
def LoadError.message (problem : LoadError) : String :=
  "cannot open data file " ++ problem.path.text

/-- The groups of a file and of all files that it pulls in. -/
def loadGroups (tree : FileTree) (root : Path) : Except LoadError (List Group) :=
  match tree.read root with
  | .error problem => .error ⟨root, problem⟩
  | .ok (location, content) =>
      .ok (Walk.finish tree
        (Walk.visit tree.home root location content ⟨root.directory, [], [], []⟩))

end Reminders
