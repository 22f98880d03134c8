import Reminders.Text.Split
import Reminders.Text.Wrap.Fit

namespace Reminders

/-!
# Wrapping

A text is broken into lines at its newlines, and each line that is too wide is broken further.
Between the pieces of a line only spaces are lost.
-/

/-- The number of bytes of a text in UTF-8. -/
def byteLength : List Char -> Nat
  | [] => 0
  | c :: rest => c.utf8Size + byteLength rest

/-- Drop the spaces at the end of a text. -/
def dropTrailingSpaces (text : List Char) : List Char := (Fragment.ofText text).text

/-- The text of a line of fragments, without the spaces after the last one. -/
def lineText : List Fragment -> List Char
  | [] => []
  | [fragment] => fragment.text
  | fragment :: rest => fragment.full ++ lineText rest

/-- Break one line of a text into lines of the given width.  A line of fewer bytes than the width is
taken to fit as it is, and an empty one always does. -/
def wrapLine (width : Nat) (line : List Char) : List (List Char) :=
  if line.isEmpty || byteLength line < width then [dropTrailingSpaces line]
  else
    let pieces := fragments width line
    (divide (bestFit width pieces) pieces).map lineText

/-- Break a text into lines of the given width. -/
def wrap (width : Nat) (text : List Char) : List (List Char) :=
  (splitAtChar '\n' text).flatMap (wrapLine width)

end Reminders
