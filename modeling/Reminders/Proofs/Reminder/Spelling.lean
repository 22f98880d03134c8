import Reminders.Reminder.Reader
import Reminders.Reminder.Writer

namespace Reminders

/-!
# How the parts of a line are spelled

The language of the data files is laid down here without the readers.  For each part of a line there
is a relation between what the part says and the texts that say it.  The relations know nothing of
what stands behind a part.

The readers decide these relations.  Most parts end by their width, and then a reader takes a
spelling off the front of any text.  Two do not: the number of weeks in a qualifier runs on as long
as there are digits, and an optional part is taken wherever it stands.  What may follow is
therefore a hypothesis where these two are read.
-/

/-! ## Numbers and single characters -/

/-- A number in exactly `width` digits. -/
structure SpellsNumber (width value : Nat) (text : List Char) : Prop where
  length_eq : text.length = width
  areDigits : text.all Char.isDigit = true
  value_eq : numeralValue text = value

theorem readDigits_eq_some_iff {count value : Nat} {text rest : List Char} :
    readDigits count text = some (value, rest) ↔
      Exists fun digits => text = digits ++ rest ∧ SpellsNumber count value digits := by
  simp only [readDigits, Option.ite_none_right_eq_some, Option.some.injEq, Prod.mk.injEq]
  constructor
  · rintro ⟨⟨length, areDigits⟩, isValue, rfl⟩
    exact ⟨text.take count, (List.take_append_drop count text).symm, length, areDigits, isValue⟩
  · rintro ⟨digits, rfl, rfl, areDigits, isValue⟩
    rw [List.take_left, List.drop_left]
    exact ⟨⟨rfl, areDigits⟩, isValue, rfl⟩

theorem SpellsNumber.readDigits {width value : Nat} {digits : List Char}
    (spelled : SpellsNumber width value digits) (rest : List Char) :
    readDigits width (digits ++ rest) = some (value, rest) :=
  readDigits_eq_some_iff.mpr ⟨digits, rfl, spelled⟩

theorem skipChar_eq_some_iff {expected : Char} {text rest : List Char} :
    skipChar expected text = some rest ↔ text = expected :: rest := by
  cases text with
  | nil => simp [skipChar]
  | cons c later =>
      simp only [skipChar, Option.ite_none_right_eq_some, Option.some.injEq, List.cons.injEq]

/-! ## Gaps between the parts -/

/-- The blanks that separate the parts of a line. -/
def isSeparator (c : Char) : Bool := c == ' ' || c == '\t'

/-- One or more separating blanks. -/
structure IsGap (text : List Char) : Prop where
  ne_nil : text ≠ []
  areSeparators : text.all isSeparator = true

/-- A gap begins with a blank. -/
theorem IsGap.exists_cons {gap : List Char} (isGap : IsGap gap) :
    Exists fun next => Exists fun later => gap = next :: later ∧ isSeparator next = true := by
  cases gap with
  | nil => exact absurd rfl isGap.ne_nil
  | cons next later =>
      have separators := isGap.areSeparators
      rw [List.all_cons, Bool.and_eq_true] at separators
      exact ⟨next, later, rfl, separators.1⟩

/-- A text that does not begin with a separating blank. -/
def Unpadded (text : List Char) : Prop := forall c, c ∈ text.head? -> isSeparator c = false

instance (text : List Char) : Decidable (Unpadded text) :=
  decidable_of_iff (text.head?.all fun c => !isSeparator c) (by
    simp [Unpadded, Option.all_eq_true])

theorem unpadded_dropWhile (text : List Char) : Unpadded (text.dropWhile isSeparator) := by
  intro c isHead
  have notDropped := List.head?_dropWhile_not isSeparator text
  rwa [Option.mem_def.mp isHead] at notDropped

theorem dropWhile_of_unpadded {text : List Char} (unpadded : Unpadded text) :
    text.dropWhile isSeparator = text := by
  cases text with
  | nil => rfl
  | cons c later => rw [List.dropWhile_cons, unpadded c rfl, if_neg Bool.false_ne_true]

theorem skipSeparator_cons (c : Char) (rest : List Char) :
    skipSeparator (c :: rest) =
      if isSeparator c = true then some (rest.dropWhile isSeparator) else none := by
  unfold skipSeparator
  split
  · next same =>
      cases same
      rfl
  · next same =>
      cases same
      rfl
  · next notSpace notTab =>
      have other : ¬ isSeparator c = true := by
        simp only [isSeparator, Bool.or_eq_true, beq_iff_eq, not_or]
        exact ⟨fun same => notSpace rest (by rw [same]), fun same => notTab rest (by rw [same])⟩
      rw [if_neg other]

/-- All blanks of a gap are taken, so what is left does not begin with another one. -/
theorem skipSeparator_eq_some_iff {text rest : List Char} :
    skipSeparator text = some rest ↔
      (Exists fun gap => text = gap ++ rest ∧ IsGap gap) ∧ Unpadded rest := by
  cases text with
  | nil =>
      constructor
      · intro impossible
        cases impossible
      · rintro ⟨⟨gap, split, isGap⟩, -⟩
        exact absurd (List.append_eq_nil_iff.mp split.symm).1 isGap.ne_nil
  | cons c later =>
      rw [skipSeparator_cons, Option.ite_none_right_eq_some, Option.some.injEq]
      constructor
      · rintro ⟨separates, rfl⟩
        refine ⟨⟨c :: later.takeWhile isSeparator, ?_, List.cons_ne_nil _ _, ?_⟩,
          unpadded_dropWhile later⟩
        · rw [List.cons_append, List.takeWhile_append_dropWhile]
        · rw [List.all_cons, separates, List.all_takeWhile, Bool.and_self]
      · rintro ⟨⟨gap, split, isGap⟩, unpadded⟩
        cases gap with
        | nil => exact absurd rfl isGap.ne_nil
        | cons first further =>
            rw [List.cons_append, List.cons.injEq] at split
            rcases split with ⟨rfl, rfl⟩
            have separators := isGap.areSeparators
            rw [List.all_cons, Bool.and_eq_true, List.all_eq_true] at separators
            refine ⟨separators.1, ?_⟩
            rw [List.dropWhile_append_of_pos separators.2, dropWhile_of_unpadded unpadded]

/-! ## Optional parts -/

/-- A part that may be missing. -/
inductive SpellsOptional {α : Type} (Spells : α -> List Char -> Prop) :
    Option α -> List Char -> Prop where
  | absent : SpellsOptional Spells none []
  | present {value : α} {text : List Char} (spelled : Spells value text) :
      SpellsOptional Spells (some value) text

theorem spelled_of_readOptional {α : Type} {Spells : α -> List Char -> Prop}
    {reader : List Char -> Option (α × List Char)}
    (sound : forall text rest value, reader text = some (value, rest) ->
      Exists fun spelled => text = spelled ++ rest ∧ Spells value spelled) (text : List Char) :
    Exists fun spelled => text = spelled ++ (readOptional reader text).2 ∧
      SpellsOptional Spells (readOptional reader text).1 spelled := by
  unfold readOptional
  split
  · next value rest read =>
      rcases sound _ _ _ read with ⟨spelled, split, spells⟩
      exact ⟨spelled, split, .present spells⟩
  · exact ⟨[], rfl, .absent⟩

theorem readOptional_append {α : Type} {Spells : α -> List Char -> Prop}
    {reader : List Char -> Option (α × List Char)} {spelled rest : List Char} {value : Option α}
    (complete : forall value, Spells value spelled -> reader (spelled ++ rest) = some (value, rest))
    (stops : reader rest = none) (spells : SpellsOptional Spells value spelled) :
    readOptional reader (spelled ++ rest) = (value, rest) := by
  cases spells with
  | absent => rw [List.nil_append, readOptional, stops]
  | present spells => rw [readOptional, complete _ spells]

/-! ## Specific dates -/

/-- A field of a date: question marks, or a number within the bounds. -/
inductive DateField.Spells (width least greatest : Nat) : DateField -> List Char -> Prop where
  | wild : Spells width least greatest .wild (List.replicate width '?')
  | exact {value : Nat} {digits : List Char} (spelled : SpellsNumber width value digits)
      (bounds : least ≤ value ∧ value ≤ greatest) :
      Spells width least greatest (.exact (UInt32.ofNat value)) digits

/-- Year, month and day with a point between them. -/
inductive SpellsSpecificDate : DatePattern -> List Char -> Prop where
  | date {year month day : DateField} {yearText monthText dayText : List Char}
      (spellsYear : year.Spells 4 2000 2199 yearText)
      (spellsMonth : month.Spells 2 1 12 monthText) (spellsDay : day.Spells 2 1 31 dayText) :
      SpellsSpecificDate (.specific year month day)
        (yearText ++ '.' :: (monthText ++ '.' :: dayText))

theorem readDateField_eq_some_iff {width least greatest : Nat} (positive : 0 < width)
    {field : DateField} {text rest : List Char} :
    readDateField width least greatest text = some (field, rest) ↔
      Exists fun spelled => text = spelled ++ rest ∧ field.Spells width least greatest spelled := by
  constructor
  · intro found
    unfold readDateField at found
    split at found
    · next isWild =>
        cases found
        exact ⟨_, by rw [← isWild, List.take_append_drop], .wild⟩
    · simp only [Option.bind_eq_bind, Option.bind_eq_some_iff, Prod.exists,
        Option.ite_none_right_eq_some, Option.some.injEq, Prod.mk.injEq,
        readDigits_eq_some_iff] at found
      rcases found with ⟨value, later, ⟨digits, rfl, spelled⟩, bounds, rfl, rfl⟩
      exact ⟨digits, rfl, .exact spelled bounds⟩
  · rintro ⟨spelled, rfl, spells⟩
    unfold readDateField
    cases spells with
    | wild =>
        have marks : (List.replicate width '?' ++ rest).take width = List.replicate width '?' :=
          List.take_left' List.length_replicate
        rw [if_pos marks, List.drop_left' List.length_replicate]
    | exact isNumber bounds =>
        -- A question mark is no digit, so the field is not taken for a wildcard.
        have notWild : (spelled ++ rest).take width ≠ List.replicate width '?' := by
          intro marks
          rw [List.take_left' isNumber.length_eq] at marks
          have areDigits := isNumber.areDigits
          rw [marks, List.all_replicate, if_neg (by omega)] at areDigits
          exact absurd areDigits (by decide)
        rw [if_neg notWild, isNumber.readDigits]
        exact if_pos bounds

theorem readSpecificDate_eq_some_iff {pattern : DatePattern} {text rest : List Char} :
    readSpecificDate text = some (pattern, rest) ↔
      Exists fun spelled => text = spelled ++ rest ∧ SpellsSpecificDate pattern spelled := by
  simp only [readSpecificDate, Option.bind_eq_bind, Option.bind_eq_some_iff, Prod.exists,
    readDateField_eq_some_iff (show 0 < 4 by decide),
    readDateField_eq_some_iff (show 0 < 2 by decide), skipChar_eq_some_iff, Option.some.injEq,
    Prod.mk.injEq]
  constructor
  · rintro ⟨year, _, ⟨yearText, rfl, spellsYear⟩, _, rfl, month, _, ⟨monthText, rfl, spellsMonth⟩,
      _, rfl, day, _, ⟨dayText, rfl, spellsDay⟩, rfl, rfl⟩
    exact ⟨_, by simp, .date spellsYear spellsMonth spellsDay⟩
  · rintro ⟨_, rfl, ⟨spellsYear, spellsMonth, spellsDay⟩⟩
    exact ⟨_, _, ⟨_, by simp, spellsYear⟩, _, rfl, _, _, ⟨_, rfl, spellsMonth⟩, _, rfl, _, _,
      ⟨_, rfl, spellsDay⟩, rfl, rfl⟩

/-! ## Weekly patterns -/

theorem readMaskColumn_eq_some_iff {letter : Char} (isLetter : letter ≠ '-') {active : Bool}
    {text rest : List Char} :
    readMaskColumn letter text = some (active, rest) ↔ text = maskColumn letter active :: rest := by
  cases text with
  | nil => simp [readMaskColumn]
  | cons c later =>
      unfold readMaskColumn maskColumn
      cases active <;> grind

/-- A mask has a single spelling. -/
theorem readWeekMask_eq_some_iff {mask : WeekMask} {text rest : List Char} :
    readWeekMask text = some (mask, rest) ↔ text = mask.columns ++ rest := by
  simp only [readWeekMask, Option.bind_eq_bind, Option.bind_eq_some_iff, Prod.exists,
    readMaskColumn_eq_some_iff (show 'S' ≠ '-' by decide),
    readMaskColumn_eq_some_iff (show 'M' ≠ '-' by decide),
    readMaskColumn_eq_some_iff (show 'T' ≠ '-' by decide),
    readMaskColumn_eq_some_iff (show 'W' ≠ '-' by decide),
    readMaskColumn_eq_some_iff (show 'F' ≠ '-' by decide), Option.some.injEq, Prod.mk.injEq]
  constructor
  · rintro ⟨sunday, _, rfl, monday, _, rfl, tuesday, _, rfl, wednesday, _, rfl, thursday, _, rfl,
      friday, _, rfl, saturday, _, rfl, rfl, rfl⟩
    rfl
  · rintro rfl
    exact ⟨_, _, rfl, _, _, rfl, _, _, rfl, _, _, rfl, _, _, rfl, _, _, rfl, _, _, rfl, rfl, rfl⟩

/-- A percent sign and any number of digits, or a single digit in square brackets. -/
inductive Qualifier.Spells : Qualifier -> List Char -> Prop where
  | everyWeeks {width modulus : Nat} {digits : List Char}
      (spelled : SpellsNumber (width + 1) modulus digits) (bounds : 1 ≤ modulus ∧ modulus ≤ 53) :
      Spells (.everyWeeks modulus) ('%' :: digits)
  | nthInMonth {ordinal : Nat} {digit : List Char} (spelled : SpellsNumber 1 ordinal digit)
      (bounds : 1 ≤ ordinal ∧ ordinal ≤ 5) :
      Spells (.nthInMonth ordinal) ('[' :: (digit ++ [']']))

/-- A mask, with a qualifier or without one. -/
inductive SpellsWeekly : DatePattern -> List Char -> Prop where
  | pattern {mask : WeekMask} {qualifier : Option Qualifier} {qualifierText : List Char}
      (spelled : SpellsOptional Qualifier.Spells qualifier qualifierText) :
      SpellsWeekly (.weekly mask qualifier) (mask.columns ++ qualifierText)

theorem spelled_of_readQualifier {qualifier : Qualifier} {text rest : List Char}
    (found : readQualifier text = some (qualifier, rest)) :
    Exists fun spelled => text = spelled ++ rest ∧ qualifier.Spells spelled := by
  unfold readQualifier at found
  split at found
  · next later =>
      simp only [Option.ite_none_right_eq_some, Option.some.injEq, Prod.mk.injEq] at found
      rcases found with ⟨bounds, rfl, rfl⟩
      refine ⟨'%' :: later.takeWhile Char.isDigit, ?_, ?_⟩
      · rw [List.cons_append, List.takeWhile_append_dropWhile]
      · -- No digits would stand for zero, which is out of bounds.
        cases digits : later.takeWhile Char.isDigit with
        | nil =>
            rw [digits] at bounds
            exact absurd bounds (by decide)
        | cons first further =>
            have areDigits := List.all_takeWhile (p := Char.isDigit) (l := later)
            rw [digits] at areDigits bounds
            exact .everyWeeks ⟨rfl, areDigits, rfl⟩ bounds
  · simp only [Option.bind_eq_bind, Option.bind_eq_some_iff, Prod.exists,
      Option.ite_none_right_eq_some, Option.some.injEq, Prod.mk.injEq, readDigits_eq_some_iff,
      skipChar_eq_some_iff] at found
    rcases found with ⟨ordinal, _, ⟨digit, rfl, spelled⟩, bounds, _, rfl, rfl, rfl⟩
    exact ⟨_, by simp, .nthInMonth spelled bounds⟩
  · cases found

/-- A qualifier is read to its end if no digit follows. -/
theorem readQualifier_append {qualifier : Qualifier} {spelled later : List Char} {next : Char}
    (ends : next.isDigit = false) (spells : qualifier.Spells spelled) :
    readQualifier (spelled ++ next :: later) = some (qualifier, next :: later) := by
  cases spells with
  | everyWeeks isNumber bounds =>
      rename_i width modulus digits
      have areDigits := List.all_eq_true.mp isNumber.areDigits
      have taken : (digits ++ next :: later).takeWhile Char.isDigit = digits := by
        rw [List.takeWhile_append_of_pos areDigits, List.takeWhile_cons, ends,
          if_neg Bool.false_ne_true, List.append_nil]
      have dropped : (digits ++ next :: later).dropWhile Char.isDigit = next :: later := by
        rw [List.dropWhile_append_of_pos areDigits, List.dropWhile_cons, ends,
          if_neg Bool.false_ne_true]
      simp only [List.cons_append, readQualifier, taken, dropped, isNumber.value_eq]
      exact if_pos bounds
  | nthInMonth isNumber bounds =>
      rename_i ordinal digit
      simp only [List.cons_append, List.append_assoc, List.nil_append, readQualifier,
        isNumber.readDigits, Option.bind_eq_bind, Option.bind_some, if_pos bounds, skipChar,
        if_true]

theorem readQualifier_eq_none {next : Char} (notPercent : next ≠ '%') (notBracket : next ≠ '[')
    (later : List Char) : readQualifier (next :: later) = none := by
  unfold readQualifier
  split
  · next same => exact absurd (List.cons.inj same).1 notPercent
  · next same => exact absurd (List.cons.inj same).1 notBracket
  · rfl

theorem spelled_of_readWeekly {pattern : DatePattern} {text rest : List Char}
    (found : readWeekly text = some (pattern, rest)) :
    Exists fun spelled => text = spelled ++ rest ∧ SpellsWeekly pattern spelled := by
  simp only [readWeekly, Option.bind_eq_bind, Option.bind_eq_some_iff, Prod.exists,
    readWeekMask_eq_some_iff, Option.some.injEq, Prod.mk.injEq] at found
  rcases found with ⟨mask, afterMask, rfl, rfl, rfl⟩
  rcases spelled_of_readOptional (fun _ _ _ => spelled_of_readQualifier) afterMask with
    ⟨qualifierText, split, spelled⟩
  refine ⟨mask.columns ++ qualifierText, ?_, .pattern spelled⟩
  rw [List.append_assoc, ← split]

/-- A weekly pattern is read to its end if neither a qualifier nor more of its digits can follow. -/
theorem readWeekly_append {pattern : DatePattern} {spelled later : List Char} {next : Char}
    (ends : next.isDigit = false) (notPercent : next ≠ '%') (notBracket : next ≠ '[')
    (spells : SpellsWeekly pattern spelled) :
    readWeekly (spelled ++ next :: later) = some (pattern, next :: later) := by
  rcases spells with ⟨spelledQualifier⟩
  rename_i mask qualifier qualifierText
  have readMask := readWeekMask_eq_some_iff.mpr
    (List.append_assoc mask.columns qualifierText (next :: later))
  have readCondition := readOptional_append (fun _ => readQualifier_append ends)
    (readQualifier_eq_none notPercent notBracket later) spelledQualifier
  simp only [readWeekly, readMask, Option.bind_eq_bind, Option.bind_some, readCondition]

/-! ## Time windows -/

/-- A time of day in four digits, as minutes after midnight. -/
inductive SpellsClock : Nat -> List Char -> Prop where
  | clock {hour minute : Nat} {hourText minuteText : List Char}
      (spellsHour : SpellsNumber 2 hour hourText) (spellsMinute : SpellsNumber 2 minute minuteText)
      (bounds : hour < 24 ∧ minute < 60) :
      SpellsClock (hour * 60 + minute) (hourText ++ minuteText)

/-- A colon and two times of day with a hyphen between them, in any order. -/
inductive TimeWindow.Spells : TimeWindow -> List Char -> Prop where
  | window {start finish : Nat} {startText finishText : List Char}
      (spellsStart : SpellsClock start startText) (spellsFinish : SpellsClock finish finishText) :
      Spells ⟨start, finish⟩ (':' :: (startText ++ '-' :: finishText))

theorem readClock_eq_some_iff {minute : Nat} {text rest : List Char} :
    readClock text = some (minute, rest) ↔
      Exists fun spelled => text = spelled ++ rest ∧ SpellsClock minute spelled := by
  simp only [readClock, Option.bind_eq_bind, Option.bind_eq_some_iff, Prod.exists,
    readDigits_eq_some_iff, Option.ite_none_right_eq_some, Option.some.injEq, Prod.mk.injEq]
  constructor
  · rintro ⟨hour, _, ⟨hourText, rfl, spellsHour⟩, minuteOfHour, _, ⟨minuteText, rfl, spellsMinute⟩,
      bounds, rfl, rfl⟩
    exact ⟨_, by simp, .clock spellsHour spellsMinute bounds⟩
  · rintro ⟨_, rfl, ⟨spellsHour, spellsMinute, bounds⟩⟩
    exact ⟨_, _, ⟨_, by simp, spellsHour⟩, _, _, ⟨_, rfl, spellsMinute⟩, bounds, rfl, rfl⟩

theorem readWindow_eq_some_iff {window : TimeWindow} {text rest : List Char} :
    readWindow text = some (window, rest) ↔
      Exists fun spelled => text = spelled ++ rest ∧ window.Spells spelled := by
  simp only [readWindow, Option.bind_eq_bind, Option.bind_eq_some_iff, Prod.exists,
    readClock_eq_some_iff, skipChar_eq_some_iff, Option.some.injEq, Prod.mk.injEq]
  constructor
  · rintro ⟨_, rfl, start, _, ⟨startText, rfl, spellsStart⟩, _, rfl, finish, _,
      ⟨finishText, rfl, spellsFinish⟩, rfl, rfl⟩
    exact ⟨_, by simp, .window spellsStart spellsFinish⟩
  · rintro ⟨_, rfl, ⟨spellsStart, spellsFinish⟩⟩
    exact ⟨_, rfl, _, _, ⟨_, by simp, spellsStart⟩, _, rfl, _, _, ⟨_, rfl, spellsFinish⟩, rfl, rfl⟩

end Reminders
