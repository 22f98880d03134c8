import Mathlib.Algebra.Group.Nat.Defs
import Reminders.Proofs.Reminder.Language

namespace Reminders

/-!
# What the grammars admit

Every number in a reminder that was read from a line lies within the bounds of its field, because
every number that a line can spell does.  The grammars look at each field alone, so a day that its
month does not have is still within bounds.
-/

/-- A fixed number lies within the bounds; a wildcard always does. -/
def DateField.Within (least greatest : Nat) : DateField -> Prop
  | exact value => least ≤ value.toNat ∧ value.toNat ≤ greatest
  | wild => True

/-- A recurrence that some day meets. -/
def Qualifier.InBounds : Qualifier -> Prop
  | everyWeeks modulus => 1 ≤ modulus ∧ modulus ≤ 53
  | nthInMonth ordinal => 1 ≤ ordinal ∧ ordinal ≤ 5

/-- The numbers of a pattern lie within the bounds of their fields. -/
def DatePattern.InBounds : DatePattern -> Prop
  | specific year month day => year.Within 2000 2199 ∧ month.Within 1 12 ∧ day.Within 1 31
  | weekly _ qualifier => forall condition, qualifier = some condition -> condition.InBounds

/-- Both ends are minutes of a day.  The second may be the earlier one. -/
structure TimeWindow.WithinDay (window : TimeWindow) : Prop where
  start_lt : window.start < 1440
  finish_lt : window.finish < 1440

/-- All numbers of a reminder lie within the bounds of their fields. -/
structure Reminder.InBounds (reminder : Reminder) : Prop where
  priority_le : reminder.priority ≤ 9
  pattern : reminder.pattern.InBounds
  window : forall window, reminder.window = some window -> window.WithinDay

/-! ## Numbers -/

/-- The first digit counts as many times as its place says. -/
theorem numeralValue_cons (digit : Char) (rest : List Char) :
    numeralValue (digit :: rest) =
      10 ^ rest.length * (digit.toNat - '0'.toNat) + numeralValue rest := by
  rw [numeralValue, Nat.ofDigitChars_cons, Nat.ofDigitChars_eq_ofDigitChars_zero, Nat.mul_zero,
    Nat.zero_add, numeralValue]

/-- A run of digits stands for a number that needs no more digits. -/
theorem numeralValue_lt {digits : List Char} (areDigits : digits.all Char.isDigit = true) :
    numeralValue digits < 10 ^ digits.length := by
  induction digits with
  | nil => simp [numeralValue]
  | cons digit rest inductionHypothesis =>
      simp only [List.all_cons, Bool.and_eq_true] at areDigits
      have tail := inductionHypothesis areDigits.2
      have head : digit.toNat - '0'.toNat ≤ 9 := by
        have bounds : 48 ≤ digit.toNat ∧ digit.toNat ≤ 57 := Char.isDigit_iff_toNat.mp areDigits.1
        show digit.toNat - 48 ≤ 9
        omega
      rw [numeralValue_cons, List.length_cons, Nat.pow_succ]
      have scaled := Nat.mul_le_mul_left (10 ^ rest.length) head
      omega

theorem SpellsNumber.lt {width value : Nat} {digits : List Char}
    (spelled : SpellsNumber width value digits) : value < 10 ^ width := by
  have bound := numeralValue_lt spelled.areDigits
  rwa [spelled.length_eq, spelled.value_eq] at bound

/-! ## Patterns -/

theorem DateField.Spells.within {width least greatest : Nat} {field : DateField}
    {text : List Char} (small : greatest < UInt32.size)
    (spells : field.Spells width least greatest text) : field.Within least greatest := by
  cases spells with
  | wild => trivial
  | exact _ bounds =>
      rw [DateField.Within, UInt32.toNat_ofNat_of_lt' (by omega)]
      exact bounds

theorem Qualifier.Spells.inBounds {qualifier : Qualifier} {text : List Char}
    (spells : qualifier.Spells text) : qualifier.InBounds := by
  cases spells with
  | everyWeeks _ bounds => exact bounds
  | nthInMonth _ bounds => exact bounds

namespace Grammar

theorem inBounds_of_spellsPattern {grammar : Grammar} {text : List Char} {pattern : DatePattern}
    (spells : grammar.SpellsPattern pattern text) : pattern.InBounds := by
  cases grammar with
  | specificDate =>
      rcases spells with ⟨spellsYear, spellsMonth, spellsDay⟩
      exact ⟨spellsYear.within (by decide), spellsMonth.within (by decide),
        spellsDay.within (by decide)⟩
  | weekly =>
      rcases spells with ⟨spelled⟩
      rintro condition rfl
      cases spelled with
      | present spellsCondition => exact spellsCondition.inBounds

end Grammar

/-! ## Windows and whole lines -/

theorem SpellsClock.lt {minute : Nat} {text : List Char} (spells : SpellsClock minute text) :
    minute < 1440 := by
  rcases spells with ⟨-, -, bounds⟩
  omega

theorem TimeWindow.Spells.withinDay {window : TimeWindow} {text : List Char}
    (spells : window.Spells text) : window.WithinDay := by
  rcases spells with ⟨spellsStart, spellsFinish⟩
  exact ⟨spellsStart.lt, spellsFinish.lt⟩

namespace Grammar

theorem SpellsLine.inBounds {grammar : Grammar} {reminder : Reminder} {text line : List Char}
    (spelled : grammar.SpellsLine reminder.priority reminder.pattern reminder.window text line) :
    reminder.InBounds := by
  rcases spelled with ⟨spellsPriority, -, spellsPattern, spellsWindow, -, -⟩
  refine ⟨Nat.le_of_lt_succ spellsPriority.lt, inBounds_of_spellsPattern spellsPattern, ?_⟩
  intro window present
  rw [present] at spellsWindow
  cases spellsWindow with
  | present spells => exact spells.withinDay

end Grammar

/-- A reminder that was read from a line has its numbers within bounds, and keeps the line. -/
theorem Reminder.inBounds_of_read {line : String} {reminder : Reminder}
    (found : Reminder.read line = some reminder) :
    reminder.InBounds ∧ reminder.source = line := by
  rcases Reminder.read_eq_some_iff.mp found with ⟨grammar, read⟩
  rcases Grammar.spellsLine_of_read read with ⟨text, spelled, -, isReminder⟩
  exact ⟨spelled.inBounds, by rw [isReminder]; rfl⟩

end Reminders
