import Reminders.Proofs.Reminder.Spelling

namespace Reminders

/-!
# The language of the data files

A line is a priority, a pattern and a text with blanks between them, and the pattern may have a time
window behind it.  The two grammars differ in the pattern alone.  A line can be cut in several
ways, because its text may begin with blanks of its own; with these moved into the gap in front of
the text there is only one way.

The readers never go back on a part that they have taken.  That no line is lost by this rests on
what may follow a part: a pattern is followed by a colon or a blank, which goes on neither the
digits of a qualifier nor the qualifier itself, and a missing window is followed by a blank.  That
the grammars never compete rests on the first character of the pattern.
-/

/-! ## Texts -/

theorem isBlank_of_isSeparator {c : Char} (separates : isSeparator c = true) :
    isBlank c = true := by
  simp only [isSeparator, Bool.or_eq_true, beq_iff_eq] at separates
  rcases separates with rfl | rfl <;> decide

/-- A text that says something: not all of it is blank. -/
def HasWords (text : List Char) : Prop := Exists fun c => c ∈ text ∧ isBlank c = false

theorem all_isBlank_eq_false_iff {text : List Char} : text.all isBlank = false ↔ HasWords text := by
  simp [HasWords]

instance (text : List Char) : Decidable (HasWords text) :=
  decidable_of_iff _ all_isBlank_eq_false_iff

/-- Separating blanks at the front are no words. -/
theorem HasWords.dropWhile {text : List Char} (words : HasWords text) :
    HasWords (text.dropWhile isSeparator) := by
  rcases words with ⟨c, member, notBlank⟩
  rw [← List.takeWhile_append_dropWhile (p := isSeparator) (l := text)] at member
  rcases List.mem_append.mp member with inFront | later
  · have separates := List.all_eq_true.mp List.all_takeWhile c inFront
    rw [isBlank_of_isSeparator separates] at notBlank
    cases notBlank
  · exact ⟨c, later, notBlank⟩

namespace Grammar

variable {grammar : Grammar} {priority : Nat} {pattern : DatePattern} {window : Option TimeWindow}
  {text : List Char}

/-! ## Patterns -/

/-- How a grammar spells its pattern. -/
def SpellsPattern : Grammar -> DatePattern -> List Char -> Prop
  | specificDate => SpellsSpecificDate
  | weekly => SpellsWeekly

/-- The characters that a pattern of a grammar may begin with. -/
def opens : Grammar -> Char -> Bool
  | specificDate, c => c == '?' || c.isDigit
  | weekly, c => c == 'S' || c == '-'

/-- No character opens a pattern of both grammars. -/
theorem eq_of_opens {first second : Grammar} {c : Char} (opensFirst : first.opens c = true)
    (opensSecond : second.opens c = true) : first = second := by
  have apart (opensSpecific : specificDate.opens c = true) (opensWeekly : weekly.opens c = true) :
      False := by
    simp only [opens, Bool.or_eq_true, beq_iff_eq] at opensWeekly
    rcases opensWeekly with rfl | rfl
    · exact absurd opensSpecific (by decide)
    · exact absurd opensSpecific (by decide)
  cases first with
  | specificDate =>
      cases second with
      | specificDate => rfl
      | weekly => exact (apart opensFirst opensSecond).elim
  | weekly =>
      cases second with
      | specificDate => exact (apart opensSecond opensFirst).elim
      | weekly => rfl

theorem opens_of_spellsPattern {spelled : List Char}
    (spells : grammar.SpellsPattern pattern spelled) :
    Exists fun c => Exists fun later => spelled = c :: later ∧ grammar.opens c = true := by
  cases grammar with
  | specificDate =>
      rcases spells with @⟨_, _, _, yearText, _, _, spellsYear, -, -⟩
      cases spellsYear with
      | wild => exact ⟨_, _, rfl, rfl⟩
      | exact isNumber =>
          cases yearText with
          | nil => exact absurd isNumber.length_eq (by decide)
          | cons digit further =>
              have areDigits := isNumber.areDigits
              rw [List.all_cons, Bool.and_eq_true] at areDigits
              exact ⟨_, _, rfl, Bool.or_eq_true_iff.mpr (Or.inr areDigits.1)⟩
  | weekly =>
      rcases spells with ⟨-⟩
      rename_i mask _ _
      refine ⟨_, _, rfl, ?_⟩
      unfold maskColumn
      cases mask.sunday <;> rfl

theorem not_isSeparator_of_opens {c : Char} (opensPattern : grammar.opens c = true) :
    isSeparator c = false := by
  apply Bool.eq_false_iff.mpr
  intro separates
  simp only [isSeparator, Bool.or_eq_true, beq_iff_eq] at separates
  cases grammar <;> rcases separates with rfl | rfl <;> exact absurd opensPattern (by decide)

/-- What may stand behind a pattern: the colon of a window, or the gap before the text. -/
def EndsPattern (rest : List Char) : Prop :=
  Exists fun next => Exists fun later => rest = next :: later ∧
    (next = ':' ∨ isSeparator next = true)

theorem spelled_of_readPattern {text rest : List Char}
    (found : grammar.readPattern text = some (pattern, rest)) :
    Exists fun spelled => text = spelled ++ rest ∧ grammar.SpellsPattern pattern spelled := by
  cases grammar with
  | specificDate => exact readSpecificDate_eq_some_iff.mp found
  | weekly => exact spelled_of_readWeekly found

theorem readPattern_append {spelled rest : List Char} (ends : EndsPattern rest)
    (spells : grammar.SpellsPattern pattern spelled) :
    grammar.readPattern (spelled ++ rest) = some (pattern, rest) := by
  cases grammar with
  | specificDate => exact readSpecificDate_eq_some_iff.mpr ⟨spelled, rfl, spells⟩
  | weekly =>
      rcases ends with ⟨next, later, rfl, isNext⟩
      simp only [isSeparator, Bool.or_eq_true, beq_iff_eq] at isNext
      apply readWeekly_append _ _ _ spells
      all_goals rcases isNext with rfl | rfl | rfl <;> decide

/-! ## Lines -/

/-- The lines of a grammar, with what they say.  The gaps may be cut short, so that the text begins
with a blank. -/
inductive SpellsLine (grammar : Grammar) (priority : Nat) (pattern : DatePattern)
    (window : Option TimeWindow) (text : List Char) : List Char -> Prop where
  | line {digit gap patternText windowText secondGap : List Char}
      (spellsPriority : SpellsNumber 1 priority digit) (isGap : IsGap gap)
      (spellsPattern : grammar.SpellsPattern pattern patternText)
      (spellsWindow : SpellsOptional TimeWindow.Spells window windowText)
      (isSecondGap : IsGap secondGap) (words : HasWords text) :
      SpellsLine grammar priority pattern window text
        (digit ++ (gap ++ (patternText ++ (windowText ++ (secondGap ++ text)))))

/-- The language of a grammar. -/
def Admits (grammar : Grammar) (line : String) : Prop :=
  Exists fun priority => Exists fun pattern => Exists fun window => Exists fun text =>
    grammar.SpellsLine priority pattern window text line.toList

theorem SpellsLine.words {line : List Char}
    (spelled : grammar.SpellsLine priority pattern window text line) : HasWords text := by
  rcases spelled with ⟨-, -, -, -, -, words⟩
  exact words

/-- The blanks in front of the text can be counted to the gap. -/
theorem SpellsLine.unpad {line : List Char}
    (spelled : grammar.SpellsLine priority pattern window text line) :
    grammar.SpellsLine priority pattern window (text.dropWhile isSeparator) line := by
  rcases spelled with @⟨digit, gap, patternText, windowText, secondGap, spellsPriority, isGap,
    spellsPattern, spellsWindow, isSecondGap, words⟩
  have widened : IsGap (secondGap ++ text.takeWhile isSeparator) := by
    refine ⟨List.append_ne_nil_of_left_ne_nil isSecondGap.ne_nil _, ?_⟩
    rw [List.all_append, isSecondGap.areSeparators, List.all_takeWhile, Bool.and_self]
  have same : secondGap ++ text =
      (secondGap ++ text.takeWhile isSeparator) ++ text.dropWhile isSeparator := by
    rw [List.append_assoc, List.takeWhile_append_dropWhile]
  rw [same]
  exact .line spellsPriority isGap spellsPattern spellsWindow widened words.dropWhile

theorem unpadded_of_spellsPattern {spelled : List Char}
    (spells : grammar.SpellsPattern pattern spelled) (rest : List Char) :
    Unpadded (spelled ++ rest) := by
  rcases opens_of_spellsPattern spells with ⟨c, later, rfl, opensPattern⟩
  intro first isFirst
  cases isFirst
  exact not_isSeparator_of_opens opensPattern

theorem endsPattern_of_spellsWindow {windowText gap : List Char}
    (spells : SpellsOptional TimeWindow.Spells window windowText) (isGap : IsGap gap)
    (text : List Char) : EndsPattern (windowText ++ (gap ++ text)) := by
  cases spells with
  | absent =>
      rcases isGap.exists_cons with ⟨next, later, rfl, separates⟩
      exact ⟨next, _, rfl, Or.inr separates⟩
  | present spells =>
      rcases spells with ⟨-, -⟩
      exact ⟨':', _, rfl, Or.inl rfl⟩

theorem readWindow_gap {gap : List Char} (isGap : IsGap gap) (text : List Char) :
    readWindow (gap ++ text) = none := by
  rcases isGap.exists_cons with ⟨next, later, rfl, separates⟩
  have notColon : next ≠ ':' := by
    rintro rfl
    cases separates
  simp only [readWindow, List.cons_append, skipChar, if_neg notColon, Option.bind_eq_bind,
    Option.bind_none]

/-- A line of a grammar is read as what it says. -/
theorem read_of_spellsLine {line : String}
    (spelled : grammar.SpellsLine priority pattern window text line.toList)
    (unpadded : Unpadded text) :
    grammar.read line = some (.trimmed priority pattern window (String.ofList text) line) := by
  generalize isLine : line.toList = characters at spelled
  rcases spelled with @⟨digit, gap, patternText, windowText, secondGap, spellsPriority, isGap,
    spellsPattern, spellsWindow, isSecondGap, words⟩
  have skipFirst := skipSeparator_eq_some_iff.mpr
    ⟨⟨gap, rfl, isGap⟩, unpadded_of_spellsPattern spellsPattern (windowText ++ (secondGap ++ text))⟩
  have readShape := readPattern_append
    (endsPattern_of_spellsWindow spellsWindow isSecondGap text) spellsPattern
  have readClocks := readOptional_append
    (fun _ spells => readWindow_eq_some_iff.mpr ⟨windowText, rfl, spells⟩)
    (readWindow_gap isSecondGap text) spellsWindow
  have skipSecond := skipSeparator_eq_some_iff.mpr ⟨⟨secondGap, rfl, isSecondGap⟩, unpadded⟩
  simp only [read, isLine, readPriority, spellsPriority.readDigits, skipFirst, readShape,
    readClocks, skipSecond, all_isBlank_eq_false_iff.mpr words, Option.bind_eq_bind,
    Option.bind_some, Bool.false_eq_true, if_false]

/-- What is read from a line is what the line says. -/
theorem spellsLine_of_read {line : String} {reminder : Reminder}
    (found : grammar.read line = some reminder) :
    Exists fun text => grammar.SpellsLine reminder.priority reminder.pattern reminder.window text
      line.toList ∧ Unpadded text ∧
      reminder = .trimmed reminder.priority reminder.pattern reminder.window (String.ofList text)
        line := by
  simp only [read, readPriority, Option.bind_eq_bind, Option.bind_eq_some_iff, Prod.exists,
    readDigits_eq_some_iff, skipSeparator_eq_some_iff, Option.ite_none_left_eq_some,
    Option.some.injEq, Bool.not_eq_true, all_isBlank_eq_false_iff] at found
  rcases found with ⟨priority, _, ⟨digit, isLine, spellsPriority⟩, _, ⟨⟨gap, rfl, isGap⟩, -⟩,
    pattern, afterPattern, patternRead, text, ⟨⟨secondGap, afterWindow, isSecondGap⟩, unpadded⟩,
    words, rfl⟩
  rcases spelled_of_readPattern patternRead with ⟨patternText, rfl, spellsPattern⟩
  rcases spelled_of_readOptional (fun _ _ _ => readWindow_eq_some_iff.mp) afterPattern with
    ⟨windowText, split, spellsWindow⟩
  have cut : line.toList =
      digit ++ (gap ++ (patternText ++ (windowText ++ (secondGap ++ text)))) := by
    rw [isLine, ← afterWindow, ← split]
  refine ⟨text, ?_, unpadded, rfl⟩
  rw [cut]
  exact .line spellsPriority isGap spellsPattern spellsWindow isSecondGap words

theorem isSome_read_iff {line : String} : (grammar.read line).isSome ↔ grammar.Admits line := by
  constructor
  · intro matched
    rcases Option.isSome_iff_exists.mp matched with ⟨reminder, found⟩
    rcases spellsLine_of_read found with ⟨text, spelled, -, -⟩
    exact ⟨_, _, _, _, spelled⟩
  · rintro ⟨priority, pattern, window, text, spelled⟩
    rw [read_of_spellsLine spelled.unpad (unpadded_dropWhile text)]
    rfl

/-- Both grammars come to the pattern in the same place, and its first character decides. -/
theorem eq_of_isSome_read {first second : Grammar} {line : String}
    (matched : (first.read line).isSome) (matchedToo : (second.read line).isSome) :
    first = second := by
  simp only [read, Option.bind_eq_bind, Option.isSome_iff_exists, Option.bind_eq_some_iff,
    Prod.exists] at matched matchedToo
  rcases matched with ⟨_, priority, rest, readFirst, start, skipped, pattern, later, patternRead, -⟩
  rcases matchedToo with ⟨_, _, _, readToo, _, skippedToo, otherPattern, otherLater, otherRead, -⟩
  cases readFirst.symm.trans readToo
  cases skipped.symm.trans skippedToo
  rcases spelled_of_readPattern patternRead with ⟨spelled, split, spells⟩
  rcases spelled_of_readPattern otherRead with ⟨otherSpelled, otherSplit, spellsToo⟩
  rcases opens_of_spellsPattern spells with ⟨c, _, rfl, opensFirst⟩
  rcases opens_of_spellsPattern spellsToo with ⟨other, _, rfl, opensSecond⟩
  rw [split, List.cons_append, List.cons_append, List.cons.injEq] at otherSplit
  exact eq_of_opens opensFirst (otherSplit.1 ▸ opensSecond)

end Grammar

/-! ## Reading -/

/-- If a grammar matches a line, its reminder is what any order of trying grammars comes to, as long
as it is among them. -/
theorem findSome_read_eq_some_iff {order : List Grammar} {line : String} {reminder : Reminder} :
    (order.findSome? fun grammar => grammar.read line) = some reminder ↔
      Exists fun grammar => grammar ∈ order ∧ grammar.read line = some reminder := by
  constructor
  · exact List.exists_of_findSome?_eq_some
  · rintro ⟨grammar, member, found⟩
    have matched : (order.findSome? fun grammar => grammar.read line).isSome :=
      List.findSome?_isSome_iff.mpr ⟨grammar, member, by rw [found]; rfl⟩
    rcases Option.isSome_iff_exists.mp matched with ⟨other, isOther⟩
    rcases List.exists_of_findSome?_eq_some isOther with ⟨winner, -, won⟩
    have same : winner = grammar :=
      Grammar.eq_of_isSome_read (by rw [won]; rfl) (by rw [found]; rfl)
    rw [isOther, ← won, same, found]

theorem Reminder.read_eq_some_iff {line : String} {reminder : Reminder} :
    Reminder.read line = some reminder ↔
      Exists fun grammar : Grammar => grammar.read line = some reminder := by
  rw [Reminder.read, findSome_read_eq_some_iff]
  constructor
  · rintro ⟨grammar, -, found⟩
    exact ⟨grammar, found⟩
  · rintro ⟨grammar, found⟩
    exact ⟨grammar, by cases grammar <;> decide, found⟩

/-- A line is read exactly if it is a line of one of the grammars.  It is then a line of that
grammar only, so the order in which the grammars are tried does not matter. -/
theorem read_accepts_language (line : String) :
    ((Reminder.read line).isSome ↔ Exists fun grammar : Grammar => grammar.Admits line) ∧
    (forall grammar : Grammar, (grammar.read line).isSome ↔ grammar.Admits line) ∧
    (forall first second : Grammar, first.Admits line -> second.Admits line -> first = second) ∧
    forall order : List Grammar, order.Perm Grammar.all ->
      (order.findSome? fun grammar => grammar.read line) = Reminder.read line := by
  refine ⟨?_, fun grammar => Grammar.isSome_read_iff, ?_, ?_⟩
  · simp only [← Grammar.isSome_read_iff, Option.isSome_iff_exists, Reminder.read_eq_some_iff]
    exact exists_comm
  · intro first second admits admitsToo
    exact Grammar.eq_of_isSome_read (Grammar.isSome_read_iff.mpr admits)
      (Grammar.isSome_read_iff.mpr admitsToo)
  · intro order permuted
    apply Option.ext
    intro reminder
    simp only [Reminder.read, findSome_read_eq_some_iff, permuted.mem_iff]

end Reminders
