import Reminders.Text.Split

namespace Reminders

/-!
# Paths

A path is kept as it is spelled, as the pieces between its slashes.  A leading slash makes a path
absolute and shows as an empty first piece.  Empty pieces further on and pieces that are a single
point do not change where the path leads, but they stay in its text.

Joining and shortening of paths go by the spelling alone; no file is looked at, and a piece of two
points cancels nothing.
-/

/-- A path as it is spelled. -/
structure Path where
  pieces : List String
deriving DecidableEq, Repr

namespace Path

/-- The path with the given text. -/
def ofText (text : String) : Path := ⟨(splitAtChar '/' text.toList).map String.ofList⟩

/-- The text of a path. -/
def text (path : Path) : String := "/".intercalate path.pieces

/-- The path of no characters, which leads from a directory to itself when paths are joined. -/
def empty : Path := ⟨[""]⟩

/-- Whether a piece leads nowhere. -/
def isIdle (piece : String) : Bool := piece == "" || piece == "."

def isAbsolute (path : Path) : Bool :=
  match path.pieces with
  | "" :: _ :: _ => true
  | _ => false

/-- The path of the second argument, read from the directory that the first one names. -/
def join (directory path : Path) : Path :=
  if path.isAbsolute then path
  else if directory = empty then path
  else if directory.pieces.getLast? = some "" then ⟨directory.pieces.dropLast ++ path.pieces⟩
  else ⟨directory.pieces ++ path.pieces⟩

/-- The directory of the file that a path names.  It is spelled as in the path, without slashes or
idle pieces at its end.  A path without a slash leaves the empty path. -/
def directory (path : Path) : Path :=
  match path.pieces.dropLast with
  | [] => empty
  | first :: rest =>
      let kept := (rest.reverse.dropWhile isIdle).reverse
      if first = "" ∧ kept = [] then ⟨["", ""]⟩ else ⟨first :: kept⟩

/-- The steps of a path: a slash for an absolute path, then the pieces that are not idle.  A point
at the very start counts as a step. -/
def steps (path : Path) : List String :=
  match path.pieces with
  | [] => []
  | first :: rest =>
      let further := rest.filter fun piece => !isIdle piece
      if path.isAbsolute then "/" :: further
      else if first = "" then further
      else first :: further

/-- Take the given steps from the front of some pieces, skipping idle ones. -/
def takeSteps : List String -> List String -> Option (List String)
  | [], pieces => some pieces
  | step :: steps, pieces =>
      match pieces.dropWhile isIdle with
      | piece :: rest => if piece = step then takeSteps steps rest else none
      | [] => none

/-- What is left of a path after the steps of a directory that it begins with.  The rest is spelled
as in the path, from its first piece that is not idle on. -/
def within (directory path : Path) : Option Path :=
  match directory.steps, path.steps, path.pieces with
  | [], _, _ => some path
  | first :: further, own :: _, _ :: rest =>
      if first = own then
        (takeSteps further rest).map fun pieces =>
          match pieces.dropWhile isIdle with
          | [] => empty
          | piece :: later => ⟨piece :: later⟩
      else none
  | _, _, _ => none

end Path

end Reminders
