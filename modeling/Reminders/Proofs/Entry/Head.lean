import Reminders.Layout
import Reminders.Proofs.Calendar.DayNumber
import Reminders.Proofs.Reminder.RoundTrip
import Reminders.Proofs.Text.Escapes

namespace Reminders

/-!
# The head of an entry

As long as its numbers need no more digits than their columns have, the head of an entry consists
of 24 printable ASCII characters, whatever the entry says and leaves out.  Each of them fills one
column of a terminal, and none begins an escape sequence.
-/

/-- A text of so many printable ASCII characters. -/
structure IsField (width : Nat) (text : String) : Prop where
  length_eq : text.length = width
  printable : forall c, c ∈ text.toList -> 0x20 ≤ c.toNat ∧ c.toNat ≤ 0x7E

/-- The numbers in the head of an entry need no more digits than their columns have. -/
structure Entry.FitsHead (entry : Entry) : Prop where
  priority_le : entry.reminder.priority ≤ 9
  window_lt : forall window, entry.reminder.window = some window ->
    window.start < 6000 ∧ window.finish < 6000
  year_bounds : forall date, entry.displayDate = some date -> 0 ≤ date.year ∧ date.year ≤ 9999

/-! ## Fields -/

theorem isField_append {firstWidth secondWidth : Nat} {first second : String}
    (isFirst : IsField firstWidth first) (isSecond : IsField secondWidth second) :
    IsField (firstWidth + secondWidth) (first ++ second) where
  length_eq := by rw [String.length_append, isFirst.length_eq, isSecond.length_eq]
  printable := by
    intro c member
    rw [String.toList_append] at member
    rcases List.mem_append.mp member with inFirst | inSecond
    · exact isFirst.printable c inFirst
    · exact isSecond.printable c inSecond

theorem isField_of_char {text : String} {c : Char} (isChar : text.toList = [c])
    (printable : 0x20 ≤ c.toNat ∧ c.toNat ≤ 0x7E) : IsField 1 text where
  length_eq := by rw [← String.length_toList, isChar, List.length_singleton]
  printable := by
    intro other member
    rw [isChar] at member
    rwa [List.mem_singleton.mp member]

theorem isField_spaces (count : Nat) : IsField count (spaces count) where
  length_eq := length_spaces count
  printable := by
    intro c member
    rw [toList_spaces] at member
    rw [List.eq_of_mem_replicate member]
    decide

theorem isField_of_spellsNumber {width value : Nat} {text : String}
    (spells : SpellsNumber width value text.toList) : IsField width text where
  length_eq := by rw [← String.length_toList, spells.length_eq]
  printable := by
    intro c member
    have isDigit := List.all_eq_true.mp spells.areDigits c member
    have bounds : 48 ≤ c.toNat ∧ c.toNat ≤ 57 := Char.isDigit_iff_toNat.mp isDigit
    omega

theorem isField_paddedNumeral {width value : Nat} (positive : 0 < width)
    (small : value < 10 ^ width) : IsField width (paddedNumeral width value) :=
  isField_of_spellsNumber (spellsNumber_paddedNumeral positive small)

/-- Month and day need no more than two digits. -/
theorem Date.twoDigits (date : Date) : date.month < 10 ^ 2 ∧ date.day < 10 ^ 2 := by
  have monthBounds := date.month_bounds
  have dayBound := date.day_le
  omega

theorem isField_dateText {date : Date} (bounds : 0 ≤ date.year ∧ date.year ≤ 9999) :
    IsField 10 (date.text ".") := by
  have point : IsField 1 "." := isField_of_char rfl (by decide)
  have year : IsField 4 (yearText date.year) := by
    rw [yearText, if_pos bounds]
    exact isField_paddedNumeral (by decide) (show date.year.toNat < 10 ^ 4 by omega)
  have month := isField_paddedNumeral (by decide) date.twoDigits.1
  have day := isField_paddedNumeral (by decide) date.twoDigits.2
  exact isField_append (isField_append (isField_append (isField_append year point) month) point) day

theorem isField_clockText {minute : Nat} (bound : minute < 6000) : IsField 4 (clockText minute) :=
  isField_append (isField_paddedNumeral (by decide) (show minute / 60 < 10 ^ 2 by omega))
    (isField_paddedNumeral (by decide) (show minute % 60 < 10 ^ 2 by omega))

theorem isField_windowText {window : TimeWindow} (startBound : window.start < 6000)
    (finishBound : window.finish < 6000) : IsField 9 window.text := by
  have hyphen : IsField 1 "-" := isField_of_char rfl (by decide)
  exact isField_append (isField_append (isField_clockText startBound) hyphen)
    (isField_clockText finishBound)

/-! ## The columns of a head -/

theorem padRight_getD {α : Type} {width : Nat} {text : α -> String} {field : Option α}
    (isField : forall value, field = some value -> IsField width (text value)) :
    padRight width ((field.map text).getD "") = (field.map text).getD (spaces width) := by
  cases field with
  | none => exact String.empty_append
  | some value =>
      show text value ++ spaces (width - (text value).length) = text value
      rw [(isField value rfl).length_eq, Nat.sub_self]
      exact String.append_empty

theorem padLeft_getD {α : Type} {width : Nat} {text : α -> String} {field : Option α}
    (isField : forall value, field = some value -> IsField width (text value)) :
    padLeft width ((field.map text).getD "") = (field.map text).getD (spaces width) := by
  cases field with
  | none => exact String.append_empty
  | some value =>
      show spaces (width - (text value).length) ++ text value = text value
      rw [(isField value rfl).length_eq, Nat.sub_self]
      exact String.empty_append

/-- A text that may be missing takes the columns that are left blank without it. -/
theorem isField_column {α : Type} {width : Nat} {text : α -> String} {field : Option α}
    (isField : forall value, field = some value -> IsField width (text value)) :
    IsField width ((field.map text).getD (spaces width)) := by
  cases field with
  | none => exact isField_spaces width
  | some value => exact isField value rfl

namespace Entry

/-- The columns of a date, blank without one. -/
def dateColumn (entry : Entry) : String := (entry.displayDate.map (Date.text ".")).getD (spaces 10)

/-- The columns of a window, blank without one. -/
def windowColumn (entry : Entry) : String :=
  (entry.reminder.window.map TimeWindow.text).getD (spaces 9)

/-- What stands before the columns of the window. -/
def beforeWindow (entry : Entry) : String :=
  (if entry.overdue then "*" else " ") ++ numeral entry.reminder.priority ++ " " ++
    entry.dateColumn ++ " "

theorem isField_mark (entry : Entry) : IsField 1 (if entry.overdue then "*" else " ") := by
  split
  · exact isField_of_char rfl (by decide)
  · exact isField_of_char rfl (by decide)

namespace FitsHead

variable {entry : Entry}

theorem isField_priority (fits : entry.FitsHead) : IsField 1 (numeral entry.reminder.priority) :=
  isField_of_spellsNumber (spellsNumber_digit (Nat.lt_succ_of_le fits.priority_le))

theorem isField_dateText (fits : entry.FitsHead) (date : Date)
    (present : entry.displayDate = some date) : IsField 10 (date.text ".") :=
  Reminders.isField_dateText (fits.year_bounds date present)

theorem isField_windowText (fits : entry.FitsHead) (window : TimeWindow)
    (present : entry.reminder.window = some window) : IsField 9 window.text :=
  Reminders.isField_windowText (fits.window_lt window present).1 (fits.window_lt window present).2

theorem isField_dateColumn (fits : entry.FitsHead) : IsField 10 entry.dateColumn :=
  isField_column fits.isField_dateText

theorem isField_windowColumn (fits : entry.FitsHead) : IsField 9 entry.windowColumn :=
  isField_column fits.isField_windowText

theorem isField_beforeWindow (fits : entry.FitsHead) : IsField 14 entry.beforeWindow := by
  have space : IsField 1 " " := isField_of_char rfl (by decide)
  exact isField_append (isField_append (isField_append (isField_append entry.isField_mark
    fits.isField_priority) space) fits.isField_dateColumn) space

theorem head_eq (fits : entry.FitsHead) :
    entry.head = entry.beforeWindow ++ entry.windowColumn ++ " " := by
  simp only [head, beforeWindow, dateColumn, windowColumn, padRight_getD fits.isField_dateText,
    padLeft_getD fits.isField_windowText]

/-- The head takes the columns before the text. -/
theorem isField_head (fits : entry.FitsHead) : IsField textColumn entry.head := by
  have space : IsField 1 " " := isField_of_char rfl (by decide)
  rw [fits.head_eq]
  exact isField_append (isField_append fits.isField_beforeWindow fits.isField_windowColumn) space

end FitsHead

end Entry

/-! ## Columns of a terminal -/

/-- Printable ASCII characters fill one column. -/
theorem charWidth_of_printable {c : Char} (printable : 0x20 ≤ c.toNat ∧ c.toNat ≤ 0x7E) :
    charWidth c = 1 := by
  have outOfRange {first last : Nat} {rest : List (Nat × Nat)} (beyond : c.toNat < first) :
      inRanges c.toNat ((first, last) :: rest) = false := by
    rw [inRanges, decide_eq_false (Nat.not_le.mpr beyond), Bool.false_and]
  have notControl : isControl c = false := by
    simp only [isControl, Bool.or_eq_false_iff, Bool.and_eq_false_iff, decide_eq_false_iff_not]
    omega
  have notExtending : isExtending c = false := outOfRange (by omega)
  have notIgnorable : inRanges c.toNat ignorableRanges = false := outOfRange (by omega)
  have notInner : inRanges c.toNat innerJamoRanges = false := outOfRange (by omega)
  have notJoining : inRanges c.toNat joiningSignRanges = false := outOfRange (by omega)
  have notWide : isWide c = false := outOfRange (by omega)
  have seen : isZeroWidth c = false := by
    simp only [isZeroWidth, notControl, notExtending, notIgnorable, notInner, notJoining,
      Bool.or_self]
  rw [charWidth, if_neg (by omega), if_neg (by omega), if_neg (by omega), seen, notWide]
  rfl

/-- Printable ASCII characters are shown, each in one column, and what stands behind them is read as
if it stood alone. -/
theorem columns_append_of_printable {text : List Char}
    (printable : forall c, c ∈ text -> 0x20 ≤ c.toNat ∧ c.toNat ≤ 0x7E) (rest : List Char) :
    columns (text ++ rest) = text.length + columns rest := by
  induction text with
  | nil => rw [List.nil_append, List.length_nil, Nat.zero_add]
  | cons c further inductionHypothesis =>
      have bounds := printable c List.mem_cons_self
      have shown : EscapeState.outside.shows c = true := by
        refine EscapeState.shows_iff.mpr ⟨rfl, ?_⟩
        rintro rfl
        exact absurd bounds (by decide)
      have later := inductionHypothesis fun other member =>
        printable other (List.mem_cons_of_mem c member)
      rw [columns] at later
      rw [List.cons_append, columns, columnsFrom, if_pos shown, EscapeState.step_of_shows shown,
        charWidth_of_printable bounds, later, List.length_cons]
      omega

theorem IsField.columns_append {width : Nat} {text : String} (isField : IsField width text)
    (rest : List Char) : columns (text.toList ++ rest) = width + columns rest := by
  rw [columns_append_of_printable isField.printable, String.length_toList, isField.length_eq]

end Reminders
