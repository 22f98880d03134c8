import Reminders.Text.Escape
import Reminders.Text.LineBreak.Opportunity
import Reminders.Text.Property.Alphanumeric

namespace Reminders

/-!
# Fragments of a text

A fragment is a stretch of a text that is set on one line, followed by spaces that vanish if a line
ends there.  The fragments of a text are found in three steps.  It is cut into words at its line
break opportunities, words are cut after the hyphens inside them, and what is still wider than a
line is cut wherever the line is full.

The fragments of a text, put one behind the other, are the text.
-/

/-- A stretch of text with the spaces after it. -/
structure Fragment where
  text : List Char
  spaces : Nat
deriving DecidableEq, Repr

namespace Fragment

/-- The columns that the text of a fragment fills. -/
def width (fragment : Fragment) : Nat := columns fragment.text

/-- The text of a fragment with its spaces. -/
def full (fragment : Fragment) : List Char :=
  fragment.text ++ List.replicate fragment.spaces ' '

/-- The fragment that a stretch of text makes up.  Only the ASCII space counts as a space here. -/
def ofText (text : List Char) : Fragment :=
  let trailing := text.reverse.takeWhile (· == ' ')
  ⟨text.take (text.length - trailing.length), trailing.length⟩

/-- A stretch of text is its fragment with the spaces. -/
theorem full_ofText (text : List Char) : (ofText text).full = text := by
  have parts := List.takeWhile_append_dropWhile (p := (· == ' ')) (l := text.reverse)
  have spaces : forall c, c ∈ text.reverse.takeWhile (· == ' ') -> c = ' ' := fun c member =>
    beq_iff_eq.mp (List.all_eq_true.mp List.all_takeWhile c member)
  simp only [full, ofText]
  generalize text.reverse.takeWhile (· == ' ') = trailing at parts spaces
  generalize text.reverse.dropWhile (· == ' ') = shown at parts
  have whole : text = shown.reverse ++ trailing.reverse := by
    rw [← List.reverse_append, parts, List.reverse_reverse]
  have sameLength : trailing.reverse.length = trailing.length := List.length_reverse
  rw [whole, ← sameLength, List.length_append, Nat.add_sub_cancel, List.take_left,
    List.append_cancel_left_eq, eq_comm, List.eq_replicate_iff]
  exact ⟨rfl, fun c member => spaces c (List.mem_reverse.mp member)⟩

/-- Fragments of the given texts, of which only the last is followed by spaces. -/
def series (spaces : Nat) : List (List Char) -> List Fragment
  | [] => []
  | [text] => [⟨text, spaces⟩]
  | text :: rest => ⟨text, 0⟩ :: series spaces rest

theorem flatMap_full_series (spaces : Nat) {texts : List (List Char)} (nonempty : texts ≠ []) :
    (series spaces texts).flatMap full = texts.flatten ++ List.replicate spaces ' ' := by
  fun_induction series spaces texts with
  | case1 => exact absurd rfl nonempty
  | case2 => simp [full]
  | case3 text rest several inductionHypothesis =>
      simp [full, inductionHypothesis (fun empty => several empty)]

end Fragment

/-! ## Words -/

/-- Whether a line is not broken after a character although an opportunity follows it.  Hyphens are
looked at later, with both their neighbours; soft hyphens are not supported. -/
def suppressesBreak (c : Char) : Bool := c == '-' || c == '\u00ad'

/-- Join the stretches that end in a character after which the line is not broken with the stretches
that follow them. -/
def joinSuppressed : List (List Cell) -> List (List Cell)
  | [] => []
  | stretch :: rest =>
      let joined := joinSuppressed rest
      if stretch.getLast?.any fun cell => suppressesBreak cell.glyph then
        match joined with
        | next :: later => (stretch ++ next) :: later
        | [] => [stretch]
      else stretch :: joined

theorem flatten_joinSuppressed (stretches : List (List Cell)) :
    (joinSuppressed stretches).flatten = stretches.flatten := by
  fun_induction joinSuppressed stretches with
  | case1 => rfl
  | case2 stretch rest joined _ next later found inductionHypothesis =>
      change joined.flatten = _ at inductionHypothesis
      rw [found] at inductionHypothesis
      simp [← inductionHypothesis]
  | case3 stretch rest joined _ found inductionHypothesis =>
      change joined.flatten = _ at inductionHypothesis
      rw [found] at inductionHypothesis
      simp [← inductionHypothesis]
  | case4 stretch rest joined _ inductionHypothesis =>
      change joined.flatten = _ at inductionHypothesis
      simp [inductionHypothesis]

/-- Join the last two stretches. -/
def joinLast : List (List Cell) -> List (List Cell)
  | [first, second] => [first ++ second]
  | first :: rest => first :: joinLast rest
  | [] => []

theorem flatten_joinLast (stretches : List (List Cell)) :
    (joinLast stretches).flatten = stretches.flatten := by
  fun_induction joinLast stretches <;> simp_all

/-- The stretches of a text between the places where it may be broken.  The last opportunity counts
as the end of the text and is not a place to break.  If the text ends in a hyphen the opportunity
there is suppressed, and then it is the one before it that is lost. -/
def wordStretches (cells : List Cell) : List (List Cell) :=
  let stretches := joinSuppressed (breakText Cell.glyph cells)
  if cells.getLast?.any fun cell => suppressesBreak cell.glyph then joinLast stretches
  else stretches

theorem flatten_wordStretches (cells : List Cell) : (wordStretches cells).flatten = cells := by
  simp only [wordStretches]
  split <;> simp [flatten_joinLast, flatten_joinSuppressed, flatten_breakText]

/-- Append a text to the last of the given texts. -/
def appendToLast (trailing : List Char) : List (List Char) -> List (List Char)
  | [] => if trailing.isEmpty then [] else [trailing]
  | [text] => [text ++ trailing]
  | text :: rest => text :: appendToLast trailing rest

theorem flatten_appendToLast (trailing : List Char) (texts : List (List Char)) :
    (appendToLast trailing texts).flatten = texts.flatten ++ trailing := by
  fun_induction appendToLast trailing texts <;> simp_all

/-- The words of a text, with the spaces after them. -/
def words (text : List Char) : List Fragment :=
  let (shown, trailing) := cells text
  let stretches := (wordStretches shown).map fun stretch => stretch.flatMap Cell.text
  (appendToLast trailing stretches).map Fragment.ofText

/-- The words of a text, one behind the other, are the text. -/
theorem flatMap_full_words (text : List Char) : (words text).flatMap Fragment.full = text := by
  have shown :
      ((wordStretches (cells text).1).map fun stretch => stretch.flatMap Cell.text).flatten =
      (cells text).1.flatMap Cell.text := by
    have joined := congrArg (List.flatMap Cell.text) (flatten_wordStretches (cells text).1)
    rwa [List.flatMap_def, List.map_flatten, List.flatten_flatten, List.map_map] at joined
  have whole : forall texts : List (List Char),
      (texts.map Fragment.ofText).flatMap Fragment.full = texts.flatten := fun texts => by
    simp only [List.flatMap_map, Fragment.full_ofText, List.flatMap_id']
  simp only [words, whole, flatten_appendToLast, shown, flatMap_text_cells]

/-! ## Parts of words -/

/-- Cut a text after each hyphen that stands between two alphanumeric characters.  The character
before the text is passed along. -/
def cutAtHyphens (before : Option Char) : List Char -> List (List Char)
  | [] => [[]]
  | c :: rest =>
      let parts := cutAtHyphens (some c) rest
      if c = '-' ∧ before.any isAlphanumeric ∧ rest.head?.any isAlphanumeric then [c] :: parts
      else
        match parts with
        | part :: later => (c :: part) :: later
        | [] => [[c]]

theorem flatten_cutAtHyphens (before : Option Char) (text : List Char) :
    (cutAtHyphens before text).flatten = text := by
  induction text generalizing before with
  | nil => rfl
  | cons c rest inductionHypothesis =>
      have further := inductionHypothesis (some c)
      rw [cutAtHyphens]
      split
      · simp [further]
      · split
        · next parts => simpa [parts] using further
        · next parts => simpa [parts] using further

theorem cutAtHyphens_ne_nil (before : Option Char) (text : List Char) :
    cutAtHyphens before text ≠ [] := by
  fun_cases cutAtHyphens before text <;> simp

/-- Cut a text into pieces that fill at most `limit` columns each.  A single character that is wider
makes up a piece of its own.  Passed along are the piece begun so far, reversed, its width, and the
state of escape sequences. -/
def cutAtWidth (limit : Nat) (state : EscapeState) (piece : List Char) (width : Nat) :
    List Char -> List (List Char)
  | [] => if piece.isEmpty then [] else [piece.reverse]
  | c :: rest =>
      if state.shows c then
        if 0 < width ∧ limit < width + charWidth c then
          piece.reverse :: cutAtWidth limit (state.step c) [c] (charWidth c) rest
        else cutAtWidth limit (state.step c) (c :: piece) (width + charWidth c) rest
      else cutAtWidth limit (state.step c) (c :: piece) width rest

theorem flatten_cutAtWidth (limit : Nat) (state : EscapeState) (piece : List Char) (width : Nat)
    (text : List Char) :
    (cutAtWidth limit state piece width text).flatten = piece.reverse ++ text := by
  fun_induction cutAtWidth limit state piece width text <;> simp_all

theorem cutAtWidth_ne_nil (limit : Nat) (state : EscapeState) {piece : List Char} (width : Nat)
    {text : List Char} (nonempty : piece.reverse ++ text ≠ []) :
    cutAtWidth limit state piece width text ≠ [] := by
  intro empty
  apply nonempty
  rw [← flatten_cutAtWidth limit state piece width text, empty, List.flatten_nil]

/-- The parts of a word between its hyphens. -/
def Fragment.splitAtHyphens (word : Fragment) : List Fragment :=
  series word.spaces (cutAtHyphens none word.text)

theorem Fragment.flatMap_full_splitAtHyphens (word : Fragment) :
    word.splitAtHyphens.flatMap full = word.full := by
  rw [splitAtHyphens, flatMap_full_series _ (cutAtHyphens_ne_nil none word.text),
    flatten_cutAtHyphens, full]

/-- A fragment, cut up if it is wider than a line. -/
def Fragment.splitAtWidth (limit : Nat) (fragment : Fragment) : List Fragment :=
  if limit < fragment.width then
    series fragment.spaces (cutAtWidth limit .outside [] 0 fragment.text)
  else [fragment]

theorem Fragment.flatMap_full_splitAtWidth (limit : Nat) (fragment : Fragment) :
    (fragment.splitAtWidth limit).flatMap full = fragment.full := by
  rw [splitAtWidth]
  split
  · next wide =>
      have nonempty : fragment.text ≠ [] := by
        intro empty
        simp [width, empty, columns, columnsFrom] at wide
      rw [flatMap_full_series _ (cutAtWidth_ne_nil limit .outside 0 (by simpa using nonempty)),
        flatten_cutAtWidth, full, List.reverse_nil, List.nil_append]
  · simp

/-- The fragments of a text for lines of the given width. -/
def fragments (limit : Nat) (text : List Char) : List Fragment :=
  ((words text).flatMap Fragment.splitAtHyphens).flatMap (Fragment.splitAtWidth limit)

/-- The fragments of a text, one behind the other, are the text. -/
theorem flatMap_full_fragments (limit : Nat) (text : List Char) :
    (fragments limit text).flatMap Fragment.full = text := by
  simp only [fragments, List.flatMap_assoc, Fragment.flatMap_full_splitAtWidth,
    Fragment.flatMap_full_splitAtHyphens, flatMap_full_words]

end Reminders
