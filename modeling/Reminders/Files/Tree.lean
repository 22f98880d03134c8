import Reminders.Files.Path

namespace Reminders

/-!
# File trees

The files that can be read: a finite tree without links.  A location is the way to a file or
directory from the root of the tree.  Every file has exactly one location, but many paths lead to
it.
-/

/-- The names on the way from the root of the tree. -/
abbrev Location := List String

/-- Why a file cannot be read. -/
inductive ReadError where
  | notFound
  | isDirectory
  | notDirectory
  | notText
  | other (message : String)
deriving DecidableEq, Repr

/-- The wording of the operating system, where it is the one that refuses. -/
def ReadError.message : ReadError -> String
  | notFound => "No such file or directory (os error 2)"
  | isDirectory => "Is a directory (os error 21)"
  | notDirectory => "Not a directory (os error 20)"
  | notText => "stream did not contain valid UTF-8"
  | other message => message

/-- What stands at a location. -/
inductive Node where
  | text (content : String)
  /-- A file whose bytes are not the encoding of a text. -/
  | binary
  | directory
deriving DecidableEq, Repr

/-- A file tree, with the directory that relative paths start from and the home directory. -/
structure FileTree where
  nodes : List (Location × Node)
  workingDirectory : Location
  home : Option Path
deriving DecidableEq, Repr

namespace FileTree

/-- What stands at a location.  Directories need not be listed if anything is in them. -/
def node (tree : FileTree) (location : Location) : Option Node :=
  match tree.nodes.lookup location with
  | some node => some node
  | none =>
      if location.isEmpty || tree.nodes.any fun entry => location.isPrefixOf entry.1 then
        some .directory
      else none

/-- Follow pieces of a path from a location.  Each piece has to start from a directory, also an idle
one. -/
def follow (tree : FileTree) (here : Location) : List String -> Except ReadError Location
  | [] => .ok here
  | piece :: rest =>
      match tree.node here with
      | none => .error .notFound
      | some .directory =>
          if Path.isIdle piece then tree.follow here rest
          else if piece = ".." then tree.follow here.dropLast rest
          else if (tree.node (here ++ [piece])).isSome then tree.follow (here ++ [piece]) rest
          else .error .notFound
      | some _ => .error .notDirectory

/-- The location that a path leads to.  The empty path leads nowhere. -/
def locate (tree : FileTree) (path : Path) : Except ReadError Location :=
  if path = .empty then .error .notFound
  else if path.isAbsolute then tree.follow [] path.pieces
  else tree.follow tree.workingDirectory path.pieces

/-- The location and the text of the file that a path leads to. -/
def read (tree : FileTree) (path : Path) : Except ReadError (Location × String) :=
  match tree.locate path with
  | .error problem => .error problem
  | .ok location =>
      match tree.nodes.lookup location with
      | some (.text content) => .ok (location, content)
      | some .binary => .error .notText
      | _ => .error .isDirectory

/-- The locations that are listed. -/
def locations (tree : FileTree) : List Location := tree.nodes.map Prod.fst

/-- A file that can be read is listed. -/
theorem mem_locations_of_read {tree : FileTree} {path : Path} {location : Location}
    {content : String} (found : tree.read path = .ok (location, content)) :
    location ∈ tree.locations := by
  unfold read at found
  split at found
  · cases found
  · split at found
    · next listed =>
        cases found
        obtain ⟨before, after, split, _⟩ := List.lookup_eq_some_iff.mp listed
        simp [locations, split]
    · cases found
    · cases found

end FileTree

end Reminders
