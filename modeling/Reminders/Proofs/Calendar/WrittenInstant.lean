import Mathlib.Data.List.TakeWhile
import Reminders.Calendar.Instant
import Reminders.Proofs.Calendar.DayNumber
import Reminders.Proofs.Reminder.RoundTrip

namespace Reminders

/-!
# Written instants

Every instant can be written so that reading gives it back, in each of the two forms that it has.
What needs care is the hyphen: it is the sign of a year and also the mark behind one.  A year with a
sign ends where its digits end, and behind them stands the mark.  All other numbers, the year
without a sign among them, are written in as many digits as their field can take, so that they end
by their width whatever stands behind them.

Both forms begin with the same three fields.  Reading these leaves one rest, which one form requires
to be empty and the other to begin with a T.  So no text has both forms, and the order in which
they are tried does not matter.
-/

namespace Instant

/-! ## Numbers -/

theorem isBlank_of_isDigit {c : Char} (isDigit : c.isDigit = true) : isBlank c = false := by
  have bounds := Char.isDigit_iff_toNat.mp isDigit
  change 48 ≤ c.toNat ∧ c.toNat ≤ 57 at bounds
  simp only [isBlank, Bool.or_eq_false_iff, Bool.and_eq_false_iff, decide_eq_false_iff_not,
    beq_eq_false_iff_ne]
  omega

/-- No blank is skipped in front of a number. -/
theorem trimStart_of_spellsNumber {width value : Nat} {digits : List Char}
    (spelled : SpellsNumber (width + 1) value digits) (rest : List Char) :
    trimStart (digits ++ rest) = digits ++ rest := by
  rcases spelled with ⟨length, areDigits, -⟩
  cases digits with
  | nil => cases length
  | cons first later =>
      rw [List.all_cons, Bool.and_eq_true] at areDigits
      rw [List.cons_append, trimStart, List.dropWhile_cons, isBlank_of_isDigit areDigits.1,
        if_neg Bool.false_ne_true]

/-- What is read is the run of digits at the beginning of as much of the text as may be read. -/
theorem readNumber_of_run {most : Option Nat} {width value : Nat} {digits rest : List Char}
    (spelled : SpellsNumber (width + 1) value digits) (small : value < 0x8000000000000000)
    (run : (most.elim (digits ++ rest) (digits ++ rest).take).takeWhile Char.isDigit = digits) :
    readNumber most (digits ++ rest) = .ok (value, rest) := by
  rcases spelled with ⟨length, -, isValue⟩
  rw [numeralValue] at isValue
  cases digits with
  | nil => cases length
  | cons first later =>
      have left : (first :: (later ++ rest)).drop (first :: later).length = rest := List.drop_left
      cases most
      all_goals
        simp only [Option.elim, List.cons_append] at run
        simp only [readNumber, List.cons_append, run, isValue, if_pos small, left]

/-- A number that fills its field ends there, even if digits follow. -/
theorem readNumber_by_width {width value : Nat} {digits : List Char}
    (spelled : SpellsNumber (width + 1) value digits) (small : value < 0x8000000000000000)
    (rest : List Char) :
    readNumber (some (width + 1)) (digits ++ rest) = .ok (value, rest) := by
  apply readNumber_of_run spelled small
  simp only [Option.elim, ← spelled.length_eq, List.take_left]
  exact List.takeWhile_eq_self_iff.mpr (List.all_eq_true.mp spelled.areDigits)

/-- A number of any width ends in front of a character that is not a digit. -/
theorem readNumber_by_mark {width value : Nat} {digits : List Char} {mark : Char}
    (spelled : SpellsNumber (width + 1) value digits) (small : value < 0x8000000000000000)
    (ends : mark.isDigit = false) (rest : List Char) :
    readNumber none (digits ++ mark :: rest) = .ok (value, mark :: rest) := by
  apply readNumber_of_run spelled small
  simp only [Option.elim, List.takeWhile_append_of_pos (List.all_eq_true.mp spelled.areDigits),
    List.takeWhile_cons, ends, if_neg Bool.false_ne_true, List.append_nil]

/-! ## Fields -/

/-- A number of at most two digits fills its field. -/
theorem readShort_paddedNumeral {least greatest value : Nat} (small : greatest < 100)
    (bounds : least ≤ value ∧ value ≤ greatest) (rest : List Char) :
    readShort least greatest ((paddedNumeral 2 value).toList ++ rest) = .ok (value, rest) := by
  have spelled : SpellsNumber 2 value (paddedNumeral 2 value).toList :=
    spellsNumber_paddedNumeral (by decide) (by omega)
  rw [readShort, trimStart_of_spellsNumber spelled, readNumber_by_width spelled (by omega)]
  exact if_pos bounds

/-- Four digits begin no sign, and more of them are left to what follows. -/
theorem readYear_unsigned {value : Nat} {digits : List Char}
    (spelled : SpellsNumber 4 value digits) (rest : List Char) :
    readYear (digits ++ rest) = .ok ((value : Int), rest) := by
  have bound := spelled.lt
  have read := readNumber_by_width spelled (by omega) rest
  have shown := trimStart_of_spellsNumber spelled rest
  have areDigits := spelled.areDigits
  cases digits with
  | nil => cases spelled.length_eq
  | cons first later =>
      rw [List.all_cons, Bool.and_eq_true] at areDigits
      have notSign (sign : Char) (isSign : sign.isDigit = false) : first ≠ sign := by
        rintro rfl
        cases areDigits.1.symm.trans isSign
      rw [readYear, shown]
      split
      · next same => exact absurd (List.cons.inj same).1 (notSign '-' (by decide))
      · next same => exact absurd (List.cons.inj same).1 (notSign '+' (by decide))
      · simp only [read, bind, Except.bind]
        rw [if_pos (by omega)]

/-- Either sign takes all digits up to the hyphen behind the year. -/
theorem readYear_signed {width value : Nat} {digits : List Char}
    (spelled : SpellsNumber (width + 1) value digits) (small : value < 0x80000000)
    (rest : List Char) :
    readYear ('-' :: (digits ++ '-' :: rest)) = .ok (-(value : Int), '-' :: rest) ∧
      readYear ('+' :: (digits ++ '-' :: rest)) = .ok ((value : Int), '-' :: rest) := by
  have read := readNumber_by_mark spelled (by omega) (show '-'.isDigit = false by decide) rest
  have shown (sign : Char) (isShown : isBlank sign = false) (later : List Char) :
      trimStart (sign :: later) = sign :: later := by
    rw [trimStart, List.dropWhile_cons, isShown, if_neg Bool.false_ne_true]
  constructor
  · simp only [readYear, shown '-' (by decide), read, bind, Except.bind]
    rw [if_pos (by omega)]
  · simp only [readYear, shown '+' (by decide), read, bind, Except.bind]
    rw [if_pos (by omega)]

theorem readYear_yearText {year : Int} (supported : firstYear ≤ year ∧ year ≤ lastYear)
    (rest : List Char) :
    readYear ((yearText year).toList ++ '-' :: rest) = .ok (year, '-' :: rest) := by
  rw [firstYear, lastYear] at supported
  rw [yearText]
  split
  · next unsigned =>
      rw [readYear_unsigned (spellsNumber_paddedNumeral (by decide) (by omega)),
        Int.toNat_of_nonneg unsigned.1]
  · have positive : 0 < (paddedNumeral 4 year.natAbs).toList.length := by
      have hasDigits := Nat.length_toDigits_pos (b := 10) (n := year.natAbs)
      rw [paddedNumeral, String.toList_ofList, List.length_append]
      omega
    have spelled := spellsNumber_filled 4 year.natAbs
    rw [← Nat.sub_add_cancel positive] at spelled
    have readSigned := readYear_signed spelled (by omega) rest
    rw [String.toList_append, List.append_assoc]
    by_cases negative : year < 0
    · have sameYear : -(year.natAbs : Int) = year := by omega
      rw [sameYear] at readSigned
      rw [if_pos negative, show "-".toList = ['-'] by decide, List.singleton_append]
      exact readSigned.1
    · have sameYear : (year.natAbs : Int) = year := by omega
      rw [sameYear] at readSigned
      rw [if_neg negative, show "+".toList = ['+'] by decide, List.singleton_append]
      exact readSigned.2

/-- What stands behind a written date is left as it is. -/
theorem readDateFields_isoText (date : Date) (rest : List Char) :
    readDateFields (date.isoText.toList ++ rest) =
      .ok ((date.year, date.month, date.day), rest) := by
  have isText : date.isoText.toList ++ rest = (yearText date.year).toList ++
      '-' :: ((paddedNumeral 2 date.month).toList ++
        '-' :: ((paddedNumeral 2 date.day).toList ++ rest)) := by
    simp [Date.isoText, Date.text]
  have readMonth := readShort_paddedNumeral (by decide : 12 < 100) date.month_bounds
  have readDay := readShort_paddedNumeral (by decide : 31 < 100) ⟨date.day_exists.1, date.day_le⟩
  rw [isText, readDateFields, readYear_yearText date.year_supported]
  simp only [bind, Except.bind, readMark, if_true, readMonth, readDay]

theorem existingDate_eq (date : Date) :
    existingDate date.year date.month date.day = .ok date := by
  rw [existingDate, Date.ofFields_eq_some_iff.mpr ⟨rfl, rfl, rfl⟩]

/-! ## Both forms -/

theorem readDate_isoText (date : Date) :
    readDate date.isoText.toList = .ok ⟨date, 0, 0⟩ := by
  have read := readDateFields_isoText date []
  rw [List.append_nil] at read
  simp only [readDate, read, bind, Except.bind, readEnd, existingDate_eq]

theorem readDateAndTime_isoText (date : Date) {hour minute : Nat} (inDay : hour < 24)
    (inHour : minute < 60) :
    readDateAndTime (date.isoText ++ "T" ++ paddedNumeral 2 hour ++ ":" ++
      paddedNumeral 2 minute).toList = .ok ⟨date, hour, minute⟩ := by
  have isText : (date.isoText ++ "T" ++ paddedNumeral 2 hour ++ ":" ++
      paddedNumeral 2 minute).toList = date.isoText.toList ++
        'T' :: ((paddedNumeral 2 hour).toList ++
          ':' :: ((paddedNumeral 2 minute).toList ++ [])) := by
    simp
  have readHour := readShort_paddedNumeral (by decide : 23 < 100) (by omega : 0 ≤ hour ∧ hour ≤ 23)
  have readMinute := readShort_paddedNumeral (by decide : 59 < 100)
    (by omega : 0 ≤ minute ∧ minute ≤ 59)
  rw [isText, readDateAndTime, readDateFields_isoText]
  simp only [bind, Except.bind, readMark, if_true, readHour, readMinute, readEnd, existingDate_eq]

/-- A text that is a date ends behind its three fields. -/
theorem rest_of_readDate {text : List Char} {instant : Instant}
    (found : readDate text = .ok instant) :
    Exists fun fields => readDateFields text = .ok (fields, []) := by
  rw [readDate] at found
  cases fieldsRead : readDateFields text with
  | error problem =>
      rw [fieldsRead] at found
      cases found
  | ok result =>
      rcases result with ⟨fields, rest⟩
      cases rest with
      | nil => exact ⟨fields, rfl⟩
      | cons next later =>
          rw [fieldsRead] at found
          cases found

/-- A text with a time goes on with a T behind its three fields. -/
theorem rest_of_readDateAndTime {text : List Char} {instant : Instant}
    (found : readDateAndTime text = .ok instant) :
    Exists fun fields => Exists fun later => readDateFields text = .ok (fields, 'T' :: later) := by
  rw [readDateAndTime] at found
  cases fieldsRead : readDateFields text with
  | error problem =>
      rw [fieldsRead] at found
      cases found
  | ok result =>
      rcases result with ⟨fields, rest⟩
      rw [fieldsRead] at found
      cases rest with
      | nil => cases found
      | cons next later =>
          by_cases isMark : next = 'T'
          · exact ⟨fields, later, by rw [isMark]⟩
          · simp only [bind, Except.bind, readMark, if_neg isMark] at found
            cases found

/-- What stands behind the day is the end of the text in one form and a T in the other. -/
theorem not_readDate_of_readDateAndTime {text : List Char} {instant other : Instant}
    (found : readDateAndTime text = .ok instant) : readDate text ≠ .ok other := by
  intro foundDate
  rcases rest_of_readDateAndTime found with ⟨fields, later, withTime⟩
  rcases rest_of_readDate foundDate with ⟨sameFields, alone⟩
  rw [withTime] at alone
  cases alone

theorem read_eq_ok_iff {text : String} {instant : Instant} :
    read text = .ok instant ↔
      readDateAndTime text.toList = .ok instant ∨ readDate text.toList = .ok instant := by
  unfold read
  cases withTime : readDateAndTime text.toList with
  | error problem => simp
  | ok found =>
      have notDate : readDate text.toList ≠ .ok instant := not_readDate_of_readDateAndTime withTime
      simp [notDate]

/-- Every instant can be written in the form of a date and a time, and every midnight also as a date
alone, so that reading gives it back.  No text is read in both forms, so what a text says
is what either form says of it. -/
theorem written_instants_have_one_reading :
    (forall date : Date, read date.isoText = .ok ⟨date, 0, 0⟩) ∧
    (forall (date : Date) (hour minute : Nat), hour < 24 -> minute < 60 ->
      read (date.isoText ++ "T" ++ paddedNumeral 2 hour ++ ":" ++ paddedNumeral 2 minute) =
        .ok ⟨date, hour, minute⟩) ∧
    (forall (text : List Char) (instant other : Instant),
      readDateAndTime text = .ok instant -> readDate text ≠ .ok other) ∧
    forall (text : String) (instant : Instant), read text = .ok instant ↔
      readDateAndTime text.toList = .ok instant ∨ readDate text.toList = .ok instant := by
  refine ⟨?_, ?_, fun _ _ _ => not_readDate_of_readDateAndTime, fun _ _ => read_eq_ok_iff⟩
  · intro date
    exact read_eq_ok_iff.mpr (.inr (readDate_isoText date))
  · intro date hour minute inDay inHour
    exact read_eq_ok_iff.mpr (.inl (readDateAndTime_isoText date inDay inHour))

/-- The hyphen before the first supported year is its sign, the one behind it a mark. -/
theorem first_day_read_back :
    let first : Date := ⟨-262143, 1, 1, by decide, by decide⟩
    first.isoText = "-262143-01-01" ∧ read "-262143-01-01" = .ok ⟨first, 0, 0⟩ ∧
      (23 < 24 ∧ 59 < 60 ∧ read "-262143-01-01T23:59" = .ok ⟨first, 23, 59⟩) ∧
      (readDateAndTime "-262143-01-01T23:59".toList = .ok ⟨first, 23, 59⟩ ∧
        readDate "-262143-01-01T23:59".toList ≠ .ok ⟨first, 23, 59⟩) ∧
      Instant.text ⟨first, 23, 59⟩ = "-262143-01-01 23:59:00" := by
  intro first
  rcases written_instants_have_one_reading with ⟨asDate, asDateAndTime, inOneForm, -⟩
  have isDate : first.isoText = "-262143-01-01" := by decide
  have isDateAndTime : first.isoText ++ "T" ++ paddedNumeral 2 23 ++ ":" ++ paddedNumeral 2 59 =
      "-262143-01-01T23:59" := by decide
  have withTime : readDateAndTime "-262143-01-01T23:59".toList = .ok ⟨first, 23, 59⟩ := by decide
  have readDay := asDate first
  have readMinute := asDateAndTime first 23 59 (by decide) (by decide)
  rw [isDate] at readDay
  rw [isDateAndTime] at readMinute
  exact ⟨isDate, readDay, ⟨by decide, by decide, readMinute⟩,
    ⟨withTime, inOneForm _ _ _ withTime⟩, by decide⟩

end Instant

end Reminders
