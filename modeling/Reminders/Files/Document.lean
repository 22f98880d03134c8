import Reminders.Text.Blank
import Reminders.Text.Split

namespace Reminders

/-!
# Logical lines

A data file consists of logical lines.  A physical line that ends in a space and a backslash goes
on in the next one, whose leading blanks are dropped; the backslash is dropped too and the space
stays.  Blank lines and comments, which begin with a number sign, are left out, but only where a
logical line may begin: inside one they are ordinary text.
-/

/-- The physical lines of a text.  A newline ends a line, so there is no line after the last
newline unless it has characters. -/
def physicalLines (text : List Char) : List (List Char) :=
  let parts := splitAtChar '\n' text
  if parts.getLast? = some [] then parts.dropLast else parts

/-- Whether nothing but blanks stands before the end or a number sign. -/
def isBlankOrComment (line : List Char) : Bool :=
  match trimStart line with
  | [] => true
  | c :: _ => c == '#'

/-- The part of a line that goes on in the next one, with the space at its end.  There has to be
exactly one space before the backslash, and a character that is not blank before the space. -/
def continuedPart (line : List Char) : Option (List Char) :=
  match line.reverse with
  | '\\' :: ' ' :: c :: rest => if isBlank c then none else some ((' ' :: c :: rest).reverse)
  | _ => none

/-- The logical lines that the given physical lines make up.  `pending` is what a line before them
left to be continued. -/
def joinLines : (pending : Option (List Char)) -> List (List Char) -> List (List Char)
  | none, [] => []
  | some begun, [] => if (trimEnd begun).isEmpty then [] else [trimEnd begun]
  | none, physical :: rest =>
      let line := trimEnd physical
      if isBlankOrComment line then joinLines none rest
      else
        match continuedPart line with
        | some part => joinLines (some part) rest
        | none => trimEnd line :: joinLines none rest
  | some begun, physical :: rest =>
      let line := begun ++ trimStart (trimEnd physical)
      match continuedPart line with
      | some part => joinLines (some part) rest
      | none => trimEnd line :: joinLines none rest

/-- The logical lines of a text. -/
def logicalLines (text : String) : List String :=
  (joinLines none (physicalLines text.toList)).map String.ofList

/-! ## Includes -/

/-- The word that begins a line that pulls in another file. -/
def includeWord : List Char := ['i', 'n', 'c', 'l', 'u', 'd', 'e']

/-- The file that a line pulls in, if it is such a line: after the word there is a blank and then
something that is not blank. -/
def includeTarget (line : String) : Option String :=
  let text := line.toList
  if text.take includeWord.length = includeWord then
    match text.drop includeWord.length with
    | c :: rest =>
        if isBlank c && !(trim rest).isEmpty then some (String.ofList (trim rest)) else none
    | [] => none
  else none

end Reminders
