import Reminders.Text.Width

namespace Reminders

/-!
# Terminal escape sequences

A text may hold escape sequences that a terminal obeys and does not show.  A sequence begins with
the escape character.  An opening bracket after it begins a control sequence, which runs to its
final byte; a closing bracket begins a command, which runs to a bell or to an escape followed by a
backslash; any other character ends the sequence at once.  A sequence that is not finished runs to
the end of the text.
-/

/-- Where a reader of a text stands with respect to escape sequences. -/
inductive EscapeState where
  | outside
  | afterEscape
  | inControl
  | inCommand (afterEscape : Bool)
deriving DecidableEq, Repr

namespace EscapeState

def escape : Char := '\x1b'

def bell : Char := '\x07'

/-- Whether a character read in this state is shown. -/
def shows (state : EscapeState) (c : Char) : Bool := state == outside && c != escape

/-- The state after a character. -/
def step (state : EscapeState) (c : Char) : EscapeState :=
  match state with
  | outside => if c = escape then afterEscape else outside
  | afterEscape =>
      if c = '[' then inControl else if c = ']' then inCommand false else outside
  | inControl => if '@' ≤ c ∧ c ≤ '~' then outside else inControl
  | inCommand wasEscape =>
      if c = bell ∨ (c = '\\' ∧ wasEscape) then outside else inCommand (c == escape)

end EscapeState

/-- The columns that a text fills when it is read from the given state on. -/
def columnsFrom (state : EscapeState) : List Char -> Nat
  | [] => 0
  | c :: rest => (if state.shows c then charWidth c else 0) + columnsFrom (state.step c) rest

/-- The columns that a text fills on a terminal. -/
def columns (text : List Char) : Nat := columnsFrom .outside text

/-- A character that is shown, with the escape sequences just before it. -/
structure Cell where
  hidden : List Char
  glyph : Char
deriving DecidableEq, Repr

/-- The text of a cell. -/
def Cell.text (cell : Cell) : List Char := cell.hidden ++ [cell.glyph]

/-- Cut a text into its cells and the escape sequences after the last of them, reading from the
given state on with the hidden characters that are already pending. -/
def cellsFrom (state : EscapeState) (hidden : List Char) : List Char -> List Cell × List Char
  | [] => ([], hidden)
  | c :: rest =>
      if state.shows c then
        let (cells, trailing) := cellsFrom (state.step c) [] rest
        (⟨hidden, c⟩ :: cells, trailing)
      else cellsFrom (state.step c) (hidden ++ [c]) rest

/-- The hidden characters that were pending come first, and nothing of the text is lost. -/
theorem flatMap_text_cellsFrom (state : EscapeState) (hidden text : List Char) :
    (cellsFrom state hidden text).1.flatMap Cell.text ++ (cellsFrom state hidden text).2 =
      hidden ++ text := by
  induction text generalizing state hidden with
  | nil => simp [cellsFrom]
  | cons c rest inductionHypothesis =>
      rw [cellsFrom]
      split
      · simp [Cell.text, inductionHypothesis]
      · simp [inductionHypothesis]

/-- The cells of a text, and the escape sequences after the last of them. -/
def cells (text : List Char) : List Cell × List Char := cellsFrom .outside [] text

/-- A text is its cells and the escape sequences after the last of them. -/
theorem flatMap_text_cells (text : List Char) :
    (cells text).1.flatMap Cell.text ++ (cells text).2 = text :=
  flatMap_text_cellsFrom .outside [] text

end Reminders
