import Reminders.Proofs.Reminder.Bounds

namespace Reminders

/-!
# Reading and writing

The canonical line of a reminder is a line of the language, so reading it gives the reminder back.
This needs the reminder to be one that a line can say: its numbers lie within their bounds, and its
text is not blank, does not end in a blank and does not begin with a separating one.  The
two sides of the text are judged by different classes of characters, and the text may otherwise
look like anything, also like a pattern or a window.

Every reminder that is read is of this kind.  So each line can be replaced by a canonical one, and
the canonical line says all there is to a reminder.
-/

/-! ## Trimmed texts -/

/-- A text that does not end in a blank. -/
def Trimmed (text : List Char) : Prop := forall c, c ∈ text.getLast? -> isBlank c = false

instance (text : List Char) : Decidable (Trimmed text) :=
  decidable_of_iff (text.getLast?.all fun c => !isBlank c) (by
    simp [Trimmed, Option.all_eq_true])

theorem trimEnd_of_trimmed {text : List Char} (trimmed : Trimmed text) : trimEnd text = text := by
  unfold trimEnd
  unfold Trimmed at trimmed
  rw [← List.head?_reverse] at trimmed
  cases reversed : text.reverse with
  | nil => rw [← List.reverse_reverse text, reversed]; rfl
  | cons last earlier =>
      rw [reversed] at trimmed
      rw [List.dropWhile_cons, trimmed last rfl, if_neg Bool.false_ne_true, ← reversed,
        List.reverse_reverse]

theorem trimmed_trimEnd (text : List Char) : Trimmed (trimEnd text) := by
  intro c isLast
  unfold trimEnd at isLast
  have notDropped := List.head?_dropWhile_not isBlank text.reverse
  rw [List.getLast?_reverse] at isLast
  rwa [Option.mem_def.mp isLast] at notDropped

/-- Only blanks are trimmed. -/
theorem trimEnd_append_blanks (text : List Char) :
    Exists fun blanks => text = trimEnd text ++ blanks ∧ blanks.all isBlank = true := by
  refine ⟨(text.reverse.takeWhile isBlank).reverse, ?_, ?_⟩
  · rw [trimEnd, ← List.reverse_append, List.takeWhile_append_dropWhile, List.reverse_reverse]
  · rw [List.all_reverse, List.all_takeWhile]

theorem HasWords.trimEnd {text : List Char} (words : HasWords text) : HasWords (trimEnd text) := by
  rcases words with ⟨c, member, notBlank⟩
  rcases trimEnd_append_blanks text with ⟨blanks, split, areBlank⟩
  rw [split] at member
  rcases List.mem_append.mp member with kept | trimmed
  · exact ⟨c, kept, notBlank⟩
  · rw [List.all_eq_true.mp areBlank c trimmed] at notBlank
    cases notBlank

theorem Unpadded.trimEnd {text : List Char} (unpadded : Unpadded text) :
    Unpadded (trimEnd text) := by
  intro c isHead
  rcases trimEnd_append_blanks text with ⟨blanks, split, -⟩
  apply unpadded c
  rw [split, List.head?_append, Option.mem_def.mp isHead]
  rfl

/-! ## Reminders that a line can say -/

/-- A reminder whose numbers lie within their bounds and whose text stands as it was read. -/
structure Reminder.WellFormed (reminder : Reminder) : Prop extends reminder.InBounds where
  words : HasWords reminder.text.toList
  trimmed : Trimmed reminder.text.toList
  unpadded : Unpadded reminder.text.toList

theorem Reminder.wellFormed_of_read {line : String} {reminder : Reminder}
    (found : Reminder.read line = some reminder) : reminder.WellFormed := by
  rcases Reminder.read_eq_some_iff.mp found with ⟨grammar, read⟩
  rcases Grammar.spellsLine_of_read read with ⟨text, spelled, unpadded, isReminder⟩
  have isText : reminder.text.toList = trimEnd text := by
    rw [isReminder]
    simp only [Reminder.trimmed, String.toList_ofList]
  refine ⟨spelled.inBounds, ?_, ?_, ?_⟩
  all_goals rw [isText]
  · exact spelled.words.trimEnd
  · exact trimmed_trimEnd text
  · exact unpadded.trimEnd

/-! ## Written numbers -/

theorem numeralValue_toDigits (value : Nat) : numeralValue (Nat.toDigits 10 value) = value :=
  Nat.ofDigitChars_ten_toDigits

theorem all_isDigit_toDigits (value : Nat) : (Nat.toDigits 10 value).all Char.isDigit = true :=
  List.all_eq_true.mpr fun _ member => Nat.isDigit_of_mem_toDigits (by decide) (by decide) member

theorem spellsNumber_numeral (value : Nat) :
    SpellsNumber (Nat.toDigits 10 value).length value (numeral value).toList := by
  rw [numeral, String.toList_ofList]
  exact ⟨rfl, all_isDigit_toDigits value, numeralValue_toDigits value⟩

/-- The zeros in front of a number do not count. -/
theorem spellsNumber_filled (width value : Nat) :
    SpellsNumber (paddedNumeral width value).toList.length value
      (paddedNumeral width value).toList := by
  refine ⟨rfl, ?_, ?_⟩
  all_goals rw [paddedNumeral, String.toList_ofList]
  · rw [List.all_append, all_isDigit_toDigits, Bool.and_true, List.all_replicate]
    split <;> rfl
  · rw [numeralValue, Nat.ofDigitChars_append, Nat.ofDigitChars_replicate_zero, Nat.mul_zero]
    exact numeralValue_toDigits value

/-- A number that needs no more digits than its field is filled up with zeros. -/
theorem spellsNumber_paddedNumeral {width value : Nat} (positive : 0 < width)
    (small : value < 10 ^ width) : SpellsNumber width value (paddedNumeral width value).toList := by
  have fits := (Nat.length_toDigits_le_iff (b := 10) (by decide) positive).mpr small
  have filled : (paddedNumeral width value).toList.length = width := by
    rw [paddedNumeral, String.toList_ofList, List.length_append, List.length_replicate]
    omega
  have spelled := spellsNumber_filled width value
  rwa [filled] at spelled

/-- A single digit is written in one place. -/
theorem spellsNumber_digit {value : Nat} (small : value < 10) :
    SpellsNumber 1 value (numeral value).toList := by
  have fits := (Nat.length_toDigits_le_iff (b := 10) (by decide) (show 0 < 1 by decide)).mpr small
  have positive := Nat.length_toDigits_pos (b := 10) (n := value)
  have spelled := spellsNumber_numeral value
  rwa [show (Nat.toDigits 10 value).length = 1 by omega] at spelled

/-! ## Written parts -/

theorem DateField.spells_written {width least greatest : Nat} {field : DateField}
    (positive : 0 < width) (small : greatest < 10 ^ width) (bounds : field.Within least greatest) :
    field.Spells width least greatest (field.written width).toList := by
  cases field with
  | wild =>
      rw [written, String.toList_ofList]
      exact .wild
  | exact value =>
      have spelled := spellsNumber_paddedNumeral positive (Nat.lt_of_le_of_lt bounds.2 small)
      have spells := DateField.Spells.exact spelled bounds
      rwa [UInt32.ofNat_toNat] at spells

theorem Qualifier.spells_written {qualifier : Qualifier} (bounds : qualifier.InBounds) :
    qualifier.Spells qualifier.written.toList := by
  cases qualifier with
  | everyWeeks modulus =>
      rw [written, String.toList_append]
      have spelled := spellsNumber_numeral modulus
      have positive := Nat.length_toDigits_pos (b := 10) (n := modulus)
      rw [← Nat.sub_add_cancel positive] at spelled
      exact .everyWeeks spelled bounds
  | nthInMonth ordinal =>
      rw [written, String.toList_append, String.toList_append]
      exact .nthInMonth (spellsNumber_digit (by have := bounds.2; omega)) bounds

/-- The grammar that a pattern is written in. -/
def DatePattern.grammar : DatePattern -> Grammar
  | specific .. => .specificDate
  | weekly .. => .weekly

theorem DatePattern.spells_written {pattern : DatePattern} (bounds : pattern.InBounds) :
    pattern.grammar.SpellsPattern pattern pattern.written.toList := by
  cases pattern with
  | specific year month day =>
      rcases bounds with ⟨yearBounds, monthBounds, dayBounds⟩
      have spells := SpellsSpecificDate.date
        (DateField.spells_written (by decide) (by decide) yearBounds)
        (DateField.spells_written (by decide) (by decide) monthBounds)
        (DateField.spells_written (by decide) (by decide) dayBounds)
      show SpellsSpecificDate _ _
      simpa [written] using spells
  | weekly mask qualifier =>
      rw [written, String.toList_append, String.toList_ofList]
      refine .pattern ?_
      cases qualifier with
      | none => exact .absent
      | some condition => exact .present (Qualifier.spells_written (bounds condition rfl))

theorem spellsClock_clockText {minute : Nat} (inDay : minute < 1440) :
    SpellsClock minute (clockText minute).toList := by
  have spells := SpellsClock.clock
    (spellsNumber_paddedNumeral (by decide) (show minute / 60 < 10 ^ 2 by omega))
    (spellsNumber_paddedNumeral (by decide) (show minute % 60 < 10 ^ 2 by omega)) (by omega)
  rw [clockText, String.toList_append]
  rwa [Nat.mul_comm, Nat.div_add_mod] at spells

theorem TimeWindow.spells_written {window : TimeWindow} (inDay : window.WithinDay) :
    window.Spells (":" ++ window.text).toList := by
  have spells := TimeWindow.Spells.window (spellsClock_clockText inDay.start_lt)
    (spellsClock_clockText inDay.finish_lt)
  simpa [text] using spells

theorem isGap_space : IsGap [' '] := ⟨List.cons_ne_nil _ _, rfl⟩

namespace Reminder

/-- The canonical line says what the reminder says. -/
theorem spellsLine_written {reminder : Reminder} (wellFormed : reminder.WellFormed) :
    reminder.pattern.grammar.SpellsLine reminder.priority reminder.pattern reminder.window
      reminder.text.toList reminder.written.toList := by
  have spellsWindow : SpellsOptional TimeWindow.Spells reminder.window
      ((reminder.window.map fun window => ":" ++ window.text).getD "").toList := by
    cases present : reminder.window with
    | none => exact .absent
    | some window => exact .present (TimeWindow.spells_written (wellFormed.window window present))
  have spelled := Grammar.SpellsLine.line
    (spellsNumber_digit (Nat.lt_succ_of_le wellFormed.priority_le)) isGap_space
    (DatePattern.spells_written wellFormed.pattern) spellsWindow isGap_space wellFormed.words
  simpa [written] using spelled

theorem read_written {reminder : Reminder} (wellFormed : reminder.WellFormed) :
    Reminder.read reminder.written = some { reminder with source := reminder.written } := by
  refine read_eq_some_iff.mpr ⟨reminder.pattern.grammar, ?_⟩
  rw [Grammar.read_of_spellsLine (spellsLine_written wellFormed) wellFormed.unpadded, trimmed,
    String.toList_ofList, trimEnd_of_trimmed wellFormed.trimmed, String.ofList_toList]

/-- Reading the canonical line of a well-formed reminder gives the reminder back, only that it keeps
the canonical line.  Every reminder that is read is well-formed, so a line and the canonical line of
its reminder say the same, and canonical lines are the same only if the reminders are. -/
theorem read_inverts_written :
    (forall entry : Entry, entry.reminder.WellFormed ->
      Entry.read entry.reminder.written =
        some ⟨{ entry.reminder with source := entry.reminder.written }, false, none⟩) ∧
    (forall (line : String) (entry : Entry), Entry.read line = some entry ->
      entry.reminder.WellFormed ∧ entry.reminder.source = line ∧
        Exists fun again : Entry => Entry.read entry.reminder.written = some again ∧
          again.reminder.priority = entry.reminder.priority ∧
          again.reminder.pattern = entry.reminder.pattern ∧
          again.reminder.window = entry.reminder.window ∧
          again.reminder.text = entry.reminder.text) ∧
    forall first second : Reminder, first.WellFormed -> second.WellFormed ->
      first.written = second.written -> { first with source := second.source } = second := by
  have readBack (entry : Entry) (wellFormed : entry.reminder.WellFormed) :
      Entry.read entry.reminder.written =
        some ⟨{ entry.reminder with source := entry.reminder.written }, false, none⟩ := by
    rw [Entry.read, read_written wellFormed]
    rfl
  refine ⟨readBack, ?_, ?_⟩
  · intro line entry found
    rcases Option.map_eq_some_iff.mp found with ⟨reminder, read, rfl⟩
    have wellFormed := wellFormed_of_read read
    exact ⟨wellFormed, (inBounds_of_read read).2, _, readBack _ wellFormed, rfl, rfl, rfl, rfl⟩
  · intro first second firstWellFormed secondWellFormed sameLine
    have sameRead := read_written firstWellFormed
    rw [sameLine, read_written secondWellFormed] at sameRead
    cases second
    cases Option.some.inj sameRead
    rfl

/-- A text may look like the parts in front of it, and the blanks around it make no difference. -/
theorem lookalike_read_back :
    let lookalike : Reminder :=
      ⟨2, .weekly ⟨true, false, false, false, false, false, true⟩ none, some ⟨570, 0⟩,
        "%2:0930-1100 [3]", ""⟩
    let canonical := "2 SM-----:0930-0000 %2:0930-1100 [3]"
    let spread := "2\tSM-----:0930-0000 \t%2:0930-1100 [3] "
    lookalike.WellFormed ∧
      Entry.read canonical = some ⟨{ lookalike with source := canonical }, false, none⟩ ∧
      Entry.read spread = some ⟨{ lookalike with source := spread }, false, none⟩ ∧
      (Exists fun again : Entry => Entry.read canonical = some again ∧
        again.reminder.priority = 2 ∧ again.reminder.pattern = lookalike.pattern ∧
        again.reminder.window = some ⟨570, 0⟩ ∧ again.reminder.text = "%2:0930-1100 [3]") ∧
      { { lookalike with source := canonical } with source := spread } =
        { lookalike with source := spread } := by
  have spreadRead : Entry.read "2\tSM-----:0930-0000 \t%2:0930-1100 [3] " =
      some ⟨⟨2, .weekly ⟨true, false, false, false, false, false, true⟩ none, some ⟨570, 0⟩,
        "%2:0930-1100 [3]", "2\tSM-----:0930-0000 \t%2:0930-1100 [3] "⟩, false, none⟩ := by rfl
  intro lookalike canonical spread
  have wellFormed : lookalike.WellFormed := by
    refine ⟨⟨by decide, ?_, ?_⟩, by decide, by decide, by decide⟩
    · intro condition impossible
      cases impossible
    · rintro window isWindow
      cases isWindow
      exact ⟨by decide, by decide⟩
  have isLine : lookalike.written = canonical := by decide
  have readBack := read_inverts_written.1 ⟨lookalike, true, none⟩ wellFormed
  have spreadBack := read_inverts_written.2.1 spread _ spreadRead
  have canonicalBack := read_inverts_written.2.1 canonical _ (isLine ▸ readBack)
  have same := read_inverts_written.2.2 _ _ canonicalBack.1 spreadBack.1 rfl
  rw [isLine] at readBack
  exact ⟨wellFormed, readBack, spreadRead, isLine ▸ spreadBack.2.2, same⟩

end Reminder

end Reminders
