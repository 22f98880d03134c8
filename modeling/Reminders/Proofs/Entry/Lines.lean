import Reminders.Layout
import Reminders.Proofs.Text.Wrapping

namespace Reminders

/-!
# The lines of an entry

An entry is laid out on at least one line, whatever its text.  Each line begins with a mark or a
space and holds no newline, although texts may: numbers, dates and windows are written in digits
and separators, and wrapping breaks a text at its newlines.  The line that marks the limit is of
the same kind.  So in a report these lines cannot be taken for anything else.
-/

/-- A text without newlines, which stays on one line when it is printed. -/
def IsOneLine (text : String) : Prop := '\n' ∉ text.toList

instance (text : String) : Decidable (IsOneLine text) :=
  inferInstanceAs (Decidable ('\n' ∉ text.toList))

/-- A line under the name of a group: it begins with a space or with the mark of overdue entries. -/
structure IsListingLine (line : String) : Prop where
  isOneLine : IsOneLine line
  opens : Exists fun rest => line.toList = ' ' :: rest ∨ line.toList = '*' :: rest

/-! ## Texts on one line -/

@[simp]
theorem isOneLine_append {first second : String} :
    IsOneLine (first ++ second) ↔ IsOneLine first ∧ IsOneLine second := by
  simp only [IsOneLine, String.toList_append, List.mem_append, not_or]

@[simp]
theorem isOneLine_ofList {text : List Char} : IsOneLine (String.ofList text) ↔ '\n' ∉ text := by
  rw [IsOneLine, String.toList_ofList]

theorem newline_notMem_toDigits (value : Nat) : '\n' ∉ Nat.toDigits 10 value := by
  intro member
  have isDigit := Nat.isDigit_of_mem_toDigits (by decide) (by decide) member
  revert isDigit
  decide

@[simp]
theorem isOneLine_numeral (value : Nat) : IsOneLine (numeral value) :=
  isOneLine_ofList.mpr (newline_notMem_toDigits value)

@[simp]
theorem isOneLine_paddedNumeral (width value : Nat) : IsOneLine (paddedNumeral width value) := by
  refine isOneLine_ofList.mpr ?_
  rw [List.mem_append, not_or]
  refine ⟨?_, newline_notMem_toDigits value⟩
  intro member
  exact absurd (List.eq_of_mem_replicate member) (by decide)

@[simp]
theorem isOneLine_spaces (count : Nat) : IsOneLine (spaces count) := by
  refine isOneLine_ofList.mpr ?_
  intro member
  exact absurd (List.eq_of_mem_replicate member) (by decide)

theorem isOneLine_yearText (year : Int) : IsOneLine (yearText year) := by
  unfold yearText
  split
  · exact isOneLine_paddedNumeral 4 _
  · refine isOneLine_append.mpr ⟨?_, isOneLine_paddedNumeral 4 _⟩
    split <;> decide

theorem isOneLine_dateText {separator : String} (free : IsOneLine separator) (date : Date) :
    IsOneLine (date.text separator) := by
  simp only [Date.text, isOneLine_append, isOneLine_yearText, isOneLine_paddedNumeral, free,
    and_self]

theorem isOneLine_windowText (window : TimeWindow) : IsOneLine window.text := by
  have hyphen : IsOneLine "-" := by decide
  simp only [TimeWindow.text, clockText, isOneLine_append, isOneLine_paddedNumeral, hyphen,
    and_self]

/-- An optional text is on one line if it is there at all. -/
theorem isOneLine_getD {α : Type} {text : α -> String} (free : forall value, IsOneLine (text value))
    (field : Option α) : IsOneLine ((field.map text).getD "") := by
  cases field with
  | none =>
      show IsOneLine ""
      decide
  | some value => exact free value

namespace Entry

theorem isOneLine_head (entry : Entry) : IsOneLine entry.head := by
  have space : IsOneLine " " := by decide
  have mark : IsOneLine (if entry.overdue then "*" else " ") := by
    split <;> decide
  have point : IsOneLine "." := by decide
  have date := isOneLine_getD (isOneLine_dateText point) entry.displayDate
  have window := isOneLine_getD isOneLine_windowText entry.reminder.window
  simp only [head, padRight, padLeft, isOneLine_append, isOneLine_numeral, isOneLine_spaces, space,
    mark, date, window, and_self]

/-- The head begins with the mark. -/
theorem exists_toList_head (entry : Entry) :
    Exists fun rest => entry.head.toList = ' ' :: rest ∨ entry.head.toList = '*' :: rest := by
  simp only [head, String.toList_append, List.append_assoc]
  cases entry.overdue with
  | true => exact ⟨_, Or.inr rfl⟩
  | false => exact ⟨_, Or.inl rfl⟩

/-- The first line of an entry begins with its head and further ones with spaces. -/
theorem exists_lines_eq (width : Nat) (entry : Entry) :
    Exists fun first : String => Exists fun further : List String =>
      entry.lines width = (entry.head ++ first) :: further.map (spaces textColumn ++ ·) ∧
        IsOneLine first ∧ forall part, part ∈ further -> IsOneLine part := by
  have free : forall part,
      part ∈ (wrap (textWidth width) entry.reminder.text.toList).map String.ofList ->
      IsOneLine part := by
    intro part member
    rcases List.mem_map.mp member with ⟨characters, isLine, rfl⟩
    exact isOneLine_ofList.mpr (newline_notMem_of_mem_wrap isLine)
  unfold lines
  cases wrapped : (wrap (textWidth width) entry.reminder.text.toList).map String.ofList with
  | nil => exact absurd (List.map_eq_nil_iff.mp wrapped) (wrap_ne_nil _ _)
  | cons first further =>
      rw [wrapped] at free
      exact ⟨first, further, rfl, free first List.mem_cons_self,
        fun part member => free part (List.mem_cons_of_mem first member)⟩

theorem lines_ne_nil (width : Nat) (entry : Entry) : entry.lines width ≠ [] := by
  rcases entry.exists_lines_eq width with ⟨first, further, isLines, -⟩
  rw [isLines]
  exact List.cons_ne_nil _ _

end Entry

/-- What begins with at least one space and goes on without newlines is a line of a listing. -/
theorem isListingLine_spaces_append {count : Nat} {text : String} (isOneLine : IsOneLine text) :
    IsListingLine (spaces (count + 1) ++ text) where
  isOneLine := isOneLine_append.mpr ⟨isOneLine_spaces _, isOneLine⟩
  opens := by
    rw [String.toList_append, spaces, String.toList_ofList, List.replicate_succ]
    exact ⟨_, Or.inl rfl⟩

theorem Entry.isListingLine_of_mem_lines {width : Nat} {entry : Entry} {line : String}
    (member : line ∈ entry.lines width) : IsListingLine line := by
  rcases entry.exists_lines_eq width with ⟨first, further, isLines, freeFirst, freeFurther⟩
  rw [isLines] at member
  rcases List.mem_cons.mp member with rfl | later
  · refine ⟨isOneLine_append.mpr ⟨entry.isOneLine_head, freeFirst⟩, ?_⟩
    rw [String.toList_append]
    rcases entry.exists_toList_head with ⟨rest, opens | opens⟩
    · exact ⟨rest ++ first.toList, Or.inl (by rw [opens, List.cons_append])⟩
    · exact ⟨rest ++ first.toList, Or.inr (by rw [opens, List.cons_append])⟩
  · rcases List.mem_map.mp later with ⟨part, isPart, rfl⟩
    exact isListingLine_spaces_append (freeFurther part isPart)

theorem isListingLine_limitMarker (limit : Nat) : IsListingLine (limitMarker limit) := by
  have opening : IsOneLine "limit exceeded (" := by decide
  have closing : IsOneLine ")" := by decide
  rw [limitMarker, String.append_assoc, String.append_assoc]
  refine isListingLine_spaces_append ?_
  simp only [isOneLine_append, isOneLine_numeral, opening, closing, and_self]

/-- All lines of a listing are of one kind. -/
theorem isListingLine_of_mem_listingLines {width : Nat} {limit : Option Nat} {entries : List Entry}
    {line : String} (member : line ∈ listingLines width limit entries) : IsListingLine line := by
  cases limit with
  | none =>
      rcases List.mem_flatMap.mp member with ⟨entry, -, inEntry⟩
      exact Entry.isListingLine_of_mem_lines inEntry
  | some limit =>
      rcases List.mem_append.mp member with shown | marker
      · rcases List.mem_flatMap.mp shown with ⟨entry, -, inEntry⟩
        exact Entry.isListingLine_of_mem_lines inEntry
      · split at marker
        · rw [List.mem_singleton.mp marker]
          exact isListingLine_limitMarker limit
        · cases marker

end Reminders
