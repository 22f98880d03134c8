import Reminders.Proofs.Entry.KeptText
import Reminders.Proofs.Entry.Head

namespace Reminders

/-!
# What the head of an entry tells

Each field of a head fills its columns and no more, so where two heads are equal their fields are,
one by one.  A field is read back by its digits: a number that is filled up with zeros keeps its
value, a date and a minute of the day are told by the numbers they are written with, and a field
that is left blank has no digits at all.

A line of a data file spells the times of its window as the head does, because a time of day has a
single spelling in four digits.  So the head shows the window as it was written.
-/

/-! ## Numbers and their digits -/

/-- Digits of the same number are the same, if there are as many of them. -/
theorem eq_of_numeralValue_eq {first second : List Char} (areDigits : first.all Char.isDigit = true)
    (areDigitsToo : second.all Char.isDigit = true) (sameLength : first.length = second.length)
    (sameValue : numeralValue first = numeralValue second) : first = second := by
  induction first generalizing second with
  | nil => exact (List.length_eq_zero_iff.mp sameLength.symm).symm
  | cons digit rest inductionHypothesis =>
      cases second with
      | nil => cases sameLength
      | cons other further =>
          have sameLater : rest.length = further.length := Nat.succ.inj sameLength
          rw [List.all_cons, Bool.and_eq_true] at areDigits areDigitsToo
          have small := numeralValue_lt areDigits.2
          have smallToo := numeralValue_lt areDigitsToo.2
          rw [← sameLater] at smallToo
          rw [numeralValue_cons, numeralValue_cons, ← sameLater] at sameValue
          -- Division by the power of ten cuts the first digit off, and the remainder is the rest.
          have positive : 0 < 10 ^ rest.length := Nat.pow_pos (by decide)
          have sameFirst := congrArg (· / 10 ^ rest.length) sameValue
          have sameRest := congrArg (· % 10 ^ rest.length) sameValue
          simp only [Nat.mul_add_div positive, Nat.div_eq_of_lt small, Nat.div_eq_of_lt smallToo,
            Nat.add_zero] at sameFirst
          simp only [Nat.mul_add_mod, Nat.mod_eq_of_lt small, Nat.mod_eq_of_lt smallToo] at sameRest
          have least : 48 ≤ digit.toNat := (Char.isDigit_iff_toNat.mp areDigits.1).1
          have leastToo : 48 ≤ other.toNat := (Char.isDigit_iff_toNat.mp areDigitsToo.1).1
          have sameDigit : digit = other := by
            apply Char.toNat_inj.mp
            change digit.toNat - 48 = other.toNat - 48 at sameFirst
            omega
          rw [sameDigit, inductionHypothesis areDigits.2 areDigitsToo.2 sameLater sameRest]

/-- A number has one spelling in a given number of digits. -/
theorem SpellsNumber.unique {width value : Nat} {first second : List Char}
    (spelled : SpellsNumber width value first) (spelledToo : SpellsNumber width value second) :
    first = second :=
  eq_of_numeralValue_eq spelled.areDigits spelledToo.areDigits
    (spelled.length_eq.trans spelledToo.length_eq.symm)
    (spelled.value_eq.trans spelledToo.value_eq.symm)

theorem numeral_injective {first second : Nat} (same : numeral first = numeral second) :
    first = second := by
  have spelled := spellsNumber_numeral first
  rw [same] at spelled
  exact spelled.value_eq.symm.trans (spellsNumber_numeral second).value_eq

theorem paddedNumeral_injective {width first second : Nat} (positive : 0 < width)
    (small : first < 10 ^ width) (smallToo : second < 10 ^ width)
    (same : paddedNumeral width first = paddedNumeral width second) : first = second := by
  have spelled := spellsNumber_paddedNumeral positive small
  rw [same] at spelled
  exact spelled.value_eq.symm.trans (spellsNumber_paddedNumeral positive smallToo).value_eq

/-! ## Fields side by side -/

/-- Two texts that end in a field of the same width are cut before it. -/
theorem append_inj_of_isField {width : Nat} {front back otherFront otherBack : String}
    (isField : IsField width back) (isFieldToo : IsField width otherBack)
    (same : front ++ back = otherFront ++ otherBack) : front = otherFront ∧ back = otherBack := by
  have sameList := congrArg String.toList same
  rw [String.toList_append, String.toList_append] at sameList
  have sameLength : back.toList.length = otherBack.toList.length := by
    rw [String.length_toList, String.length_toList, isField.length_eq, isFieldToo.length_eq]
  have parts := List.append_inj' sameList sameLength
  exact ⟨String.toList_inj.mp parts.1, String.toList_inj.mp parts.2⟩

theorem yearText_injective {first second : Int} (bounds : 0 ≤ first ∧ first ≤ 9999)
    (boundsToo : 0 ≤ second ∧ second ≤ 9999) (same : yearText first = yearText second) :
    first = second := by
  rw [yearText, yearText, if_pos bounds, if_pos boundsToo] at same
  have sameNumber := paddedNumeral_injective (by decide) (show first.toNat < 10 ^ 4 by omega)
    (show second.toNat < 10 ^ 4 by omega) same
  omega

theorem dateText_injective {first second : Date} (bounds : 0 ≤ first.year ∧ first.year ≤ 9999)
    (boundsToo : 0 ≤ second.year ∧ second.year ≤ 9999) (same : first.text "." = second.text ".") :
    first = second := by
  have small := first.twoDigits
  have smallToo := second.twoDigits
  rcases append_inj_of_isField (isField_paddedNumeral (by decide) small.2)
    (isField_paddedNumeral (by decide) smallToo.2) same with ⟨sameFront, sameDay⟩
  rcases append_inj_of_isField (isField_paddedNumeral (by decide) small.1)
    (isField_paddedNumeral (by decide) smallToo.1) ((String.append_left_inj _).mp sameFront) with
    ⟨sameYear, sameMonth⟩
  have year := yearText_injective bounds boundsToo ((String.append_left_inj _).mp sameYear)
  have month := paddedNumeral_injective (by decide) small.1 smallToo.1 sameMonth
  have day := paddedNumeral_injective (by decide) small.2 smallToo.2 sameDay
  cases first
  cases second
  simp only at year month day
  subst year month day
  rfl

/-- A minute is told by its four digits, as long as its hour has two of them. -/
theorem clockText_injective {first second : Nat} (small : first < 6000) (smallToo : second < 6000)
    (same : clockText first = clockText second) : first = second := by
  have field (value : Nat) : IsField 2 (paddedNumeral 2 (value % 60)) :=
    isField_paddedNumeral (by decide) (show value % 60 < 10 ^ 2 by omega)
  rcases append_inj_of_isField (field first) (field second) same with ⟨sameHour, sameMinute⟩
  have hour := paddedNumeral_injective (by decide) (show first / 60 < 10 ^ 2 by omega)
    (show second / 60 < 10 ^ 2 by omega) sameHour
  have minute := paddedNumeral_injective (by decide) (show first % 60 < 10 ^ 2 by omega)
    (show second % 60 < 10 ^ 2 by omega) sameMinute
  omega

theorem windowText_injective {first second : TimeWindow}
    (small : first.start < 6000 ∧ first.finish < 6000)
    (smallToo : second.start < 6000 ∧ second.finish < 6000) (same : first.text = second.text) :
    first = second := by
  rcases append_inj_of_isField (isField_clockText small.2) (isField_clockText smallToo.2) same with
    ⟨sameFront, sameFinish⟩
  have start := clockText_injective small.1 smallToo.1 ((String.append_left_inj _).mp sameFront)
  have finish := clockText_injective small.2 smallToo.2 sameFinish
  cases first
  cases second
  simp only at start finish
  subst start finish
  rfl

/-! ## Heads -/

theorem ne_spaces_of_mem {c : Char} {text : String} (member : c ∈ text.toList) (notSpace : c ≠ ' ')
    (count : Nat) : text ≠ spaces count := by
  rintro rfl
  rw [toList_spaces] at member
  exact notSpace (List.eq_of_mem_replicate member)

theorem dateText_ne_spaces (date : Date) (count : Nat) : date.text "." ≠ spaces count := by
  have point : '.' ∈ (date.text ".").toList := by simp [Date.text]
  exact ne_spaces_of_mem point (by decide) count

theorem windowText_ne_spaces (window : TimeWindow) (count : Nat) : window.text ≠ spaces count := by
  have hyphen : '-' ∈ window.text.toList := by simp [TimeWindow.text]
  exact ne_spaces_of_mem hyphen (by decide) count

/-- What stands in a column tells the value, or that there is none. -/
theorem eq_of_column_eq {α : Type} {text : α -> String} {blank : String} {first second : Option α}
    (apart : forall value, text value ≠ blank)
    (injective : forall value other, first = some value -> second = some other ->
      text value = text other -> value = other)
    (same : (first.map text).getD blank = (second.map text).getD blank) : first = second := by
  cases first with
  | none =>
      cases second with
      | none => rfl
      | some other => exact absurd same.symm (apart other)
  | some value =>
      cases second with
      | none => exact absurd same (apart value)
      | some other => rw [injective value other rfl rfl same]

theorem mark_injective : forall {first second : Bool},
    (if first then "*" else " ") = (if second then "*" else " ") -> first = second := by
  decide

namespace Entry

namespace FitsHead

variable {entry other : Entry}

/-- Equal heads tell the same of the entries. -/
theorem eq_of_head_eq (fits : entry.FitsHead) (fitsToo : other.FitsHead)
    (same : entry.head = other.head) :
    entry.overdue = other.overdue ∧ entry.reminder.priority = other.reminder.priority ∧
      entry.displayDate = other.displayDate ∧ entry.reminder.window = other.reminder.window := by
  rw [fits.head_eq, fitsToo.head_eq] at same
  rcases append_inj_of_isField fits.isField_windowColumn fitsToo.isField_windowColumn
    ((String.append_left_inj _).mp same) with ⟨sameFront, sameWindow⟩
  rcases append_inj_of_isField fits.isField_dateColumn fitsToo.isField_dateColumn
    ((String.append_left_inj _).mp sameFront) with ⟨sameBegin, sameDate⟩
  rcases append_inj_of_isField fits.isField_priority fitsToo.isField_priority
    ((String.append_left_inj _).mp sameBegin) with ⟨sameMark, samePriority⟩
  have date := eq_of_column_eq (fun date => dateText_ne_spaces date 10)
    (fun date otherDate present presentToo => dateText_injective
      (fits.year_bounds date present) (fitsToo.year_bounds otherDate presentToo)) sameDate
  have window := eq_of_column_eq (fun window => windowText_ne_spaces window 9)
    (fun window otherWindow present presentToo => windowText_injective
      (fits.window_lt window present) (fitsToo.window_lt otherWindow presentToo)) sameWindow
  exact ⟨mark_injective sameMark, numeral_injective samePriority, date, window⟩

/-- The characters of the window stand behind the first fourteen of the head. -/
theorem clocks_of_head (fits : entry.FitsHead) {window : TimeWindow}
    (present : entry.reminder.window = some window) :
    (entry.head.toList.drop 14).take 9 = window.text.toList := by
  have column : entry.windowColumn = window.text := by
    rw [windowColumn, present]
    rfl
  have front : entry.beforeWindow.toList.length = 14 := by
    rw [String.length_toList, fits.isField_beforeWindow.length_eq]
  have clocks : window.text.toList.length = 9 := by
    rw [String.length_toList, (fits.isField_windowText window present).length_eq]
  rw [fits.head_eq, column, String.toList_append, String.toList_append, List.append_assoc,
    List.drop_left' front, List.take_left' clocks]

end FitsHead

end Entry

/-! ## Windows as they are written -/

/-- A time of day has one spelling. -/
theorem SpellsClock.eq_clockText {minute : Nat} {text : List Char}
    (spells : SpellsClock minute text) :
    text = (clockText minute).toList := by
  rcases spells with @⟨hour, rest, hourText, minuteText, spellsHour, spellsMinute, bounds⟩
  have isHour : (hour * 60 + rest) / 60 = hour := by omega
  have isMinute : (hour * 60 + rest) % 60 = rest := by omega
  have sameHour := spellsHour.unique (spellsNumber_paddedNumeral (by decide) spellsHour.lt)
  have sameMinute := spellsMinute.unique (spellsNumber_paddedNumeral (by decide) spellsMinute.lt)
  rw [clockText, isHour, isMinute, String.toList_append, ← sameHour, ← sameMinute]

theorem TimeWindow.Spells.eq_text {window : TimeWindow} {text : List Char}
    (spells : window.Spells text) : text = ':' :: window.text.toList := by
  rcases spells with ⟨spellsStart, spellsFinish⟩
  rw [spellsStart.eq_clockText, spellsFinish.eq_clockText]
  simp [TimeWindow.text]

/-- A line that has the window of its reminder written with the given characters: they stand behind
the priority, a gap, the pattern and a colon, and before the gap in front of the text. -/
inductive WritesWindow (reminder : Reminder) (window : TimeWindow) (clocks : List Char) :
    List Char -> Prop where
  | line {grammar : Grammar} {digit gap patternText secondGap text : List Char}
      (spellsPriority : SpellsNumber 1 reminder.priority digit) (isGap : IsGap gap)
      (spellsPattern : grammar.SpellsPattern reminder.pattern patternText)
      (spellsWindow : window.Spells (':' :: clocks)) (isSecondGap : IsGap secondGap) :
      WritesWindow reminder window clocks
        (digit ++ (gap ++ (patternText ++ (':' :: clocks ++ (secondGap ++ text)))))

/-- A line is read with a window only if it has the window written, in its one spelling. -/
theorem writesWindow_of_read {line : String} {reminder : Reminder} {window : TimeWindow}
    (found : Reminder.read line = some reminder) (present : reminder.window = some window) :
    WritesWindow reminder window window.text.toList line.toList := by
  rcases Reminder.read_eq_some_iff.mp found with ⟨grammar, read⟩
  rcases Grammar.spellsLine_of_read read with ⟨text, spelled, -, -⟩
  rw [present] at spelled
  generalize line.toList = characters at spelled ⊢
  rcases spelled with @⟨digit, gap, patternText, windowText, secondGap, spellsPriority, isGap,
    spellsPattern, spellsWindow, isSecondGap, -⟩
  cases spellsWindow with
  | present spells =>
      have isText := spells.eq_text
      subst isText
      exact .line spellsPriority isGap spellsPattern spells isSecondGap

/-- A reminder that was read from a line leaves its numbers room in the head. -/
theorem Entry.fitsHead_of_read {line : String} {entry : Entry}
    (found : Reminder.read line = some entry.reminder)
    (bounds : forall date, entry.displayDate = some date -> 0 ≤ date.year ∧ date.year ≤ 9999) :
    entry.FitsHead := by
  have inBounds := (Reminder.inBounds_of_read found).1
  refine ⟨inBounds.priority_le, fun window present => ?_, bounds⟩
  have withinDay := inBounds.window window present
  exact ⟨Nat.lt_trans withinDay.start_lt (by decide), Nat.lt_trans withinDay.finish_lt (by decide)⟩

/-- As long as the numbers of an entry fit their columns, its head has 24 ASCII characters, and its
text stands behind the head and behind as many spaces on the further lines.  Entries with equal
heads are both overdue or both not, and have the same priority, date and window.  And if the entry
was read from a line, its head has the nine characters of the window as they are written there. -/
theorem head_tells_fields :
    (forall entry : Entry, entry.FitsHead ->
      IsField textColumn entry.head ∧
        forall width : Nat, Exists fun first => Exists fun further =>
          wrap (Entry.textWidth width) entry.reminder.text.toList = first :: further ∧
            entry.lines width = (entry.head ++ String.ofList first) ::
              further.map fun part => spaces textColumn ++ String.ofList part) ∧
    (forall entry other : Entry, entry.FitsHead -> other.FitsHead -> entry.head = other.head ->
      entry.overdue = other.overdue ∧ entry.reminder.priority = other.reminder.priority ∧
        entry.displayDate = other.displayDate ∧ entry.reminder.window = other.reminder.window) ∧
    forall (line : String) (entry : Entry) (window : TimeWindow),
      Reminder.read line = some entry.reminder -> entry.reminder.window = some window ->
      (forall date, entry.displayDate = some date -> 0 ≤ date.year ∧ date.year ≤ 9999) ->
      Exists fun clocks => WritesWindow entry.reminder window clocks line.toList ∧
        clocks.length = 9 ∧ (entry.head.toList.drop 14).take 9 = clocks := by
  refine ⟨?_, ?_, ?_⟩
  · intro entry fits
    refine ⟨fits.isField_head, fun width => ?_⟩
    rw [← Entry.lineTexts_eq]
    exact entry.exists_lineTexts width
  · intro entry other fits fitsToo same
    exact fits.eq_of_head_eq fitsToo same
  · intro line entry window found present bounds
    have fits := Entry.fitsHead_of_read found bounds
    refine ⟨window.text.toList, writesWindow_of_read found present, ?_, fits.clocks_of_head present⟩
    rw [String.length_toList, (fits.isField_windowText window present).length_eq]

/-- Two reminders that share their hours share a head, and nothing but their texts can differ. -/
theorem shared_hours_told :
    let line := "3\t--T----%02:0800-0900  Check status"
    let days : WeekMask := ⟨false, true, false, false, false, false, false⟩
    let check : Reminder :=
      ⟨3, .weekly days (some (.everyWeeks 2)), some ⟨480, 540⟩, "Check status", line⟩
    let today : Date := ⟨2020, 1, 7, by decide, by decide⟩
    let entry : Entry := ⟨check, false, some today⟩
    let other : Entry := ⟨{ check with text := "0800-0900" }, false, some today⟩
    entry.FitsHead ∧ other.FitsHead ∧ Reminder.read line = some check ∧
      entry.head = other.head ∧ IsField 24 entry.head ∧
      (Exists fun first => Exists fun further =>
        wrap 20 "Check status".toList = first :: further ∧
          entry.lines 44 = (" 3 2020.01.07 0800-0900 " ++ String.ofList first) ::
            further.map fun part => spaces 24 ++ String.ofList part) ∧
      entry.displayDate = other.displayDate ∧ check.window = other.reminder.window ∧
      Exists fun clocks => WritesWindow check ⟨480, 540⟩ clocks line.toList ∧
        clocks.length = 9 ∧ (entry.head.toList.drop 14).take 9 = clocks := by
  have lineRead : Reminder.read "3\t--T----%02:0800-0900  Check status" =
      some ⟨3, .weekly ⟨false, true, false, false, false, false, false⟩ (some (.everyWeeks 2)),
        some ⟨480, 540⟩, "Check status", "3\t--T----%02:0800-0900  Check status"⟩ := by rfl
  intro line days check today entry other
  have bounds : forall date, some today = some date -> 0 ≤ date.year ∧ date.year ≤ 9999 := by
    rintro date isToday
    cases isToday
    exact ⟨by decide, by decide⟩
  have found : Reminder.read line = some check := lineRead
  have fits : entry.FitsHead := Entry.fitsHead_of_read found bounds
  have fitsToo : other.FitsHead := ⟨fits.priority_le, fits.window_lt, bounds⟩
  have isHead : entry.head = " 3 2020.01.07 0800-0900 " := by decide
  have same : entry.head = other.head := by decide
  have layout := head_tells_fields.1 entry fits
  have told := head_tells_fields.2.1 entry other fits fitsToo same
  have written := head_tells_fields.2.2 line entry ⟨480, 540⟩ found rfl bounds
  have lines := layout.2 44
  rw [isHead] at lines
  exact ⟨fits, fitsToo, found, same, layout.1, lines, told.2.2.1, told.2.2.2, written⟩

end Reminders
