import Reminders.Proofs.Calendar.Weekday
import Reminders.Proofs.Evaluation.Timeline
import Reminders.Proofs.Evaluation.Weekly

namespace Reminders

/-!
# Masks and the columns they show

In a line a mask has one column for each weekday, Sunday first, and a column shows the letter of its
day or a hyphen.  A weekly reminder is judged without the line, by the weekdays of the days from
today on.  The two meet in a count: a column shows its day as many days after a Sunday as its place,
so it stands for the day that is ahead of today by the difference of the two, counted in sevens.  As
a lookahead is shorter than a week, that day is the only one for which the column stands.
-/

/-- The letters of a mask that is active on all days. -/
def dayLetters : List Char := ['S', 'M', 'T', 'W', 'T', 'F', 'S']

/-- The seven columns behind the priority of a line and the blanks after it. -/
def writtenMask (line : String) : List Char := ((line.toList.drop 1).dropWhile isSeparator).take 7

/-- A column of the mask in a line shows the letter of its day. -/
def ShowsLetter (line : String) (column : Fin 7) : Prop :=
  (writtenMask line)[column.val]? = dayLetters[column.val]?

instance (line : String) (column : Fin 7) : Decidable (ShowsLetter line column) :=
  inferInstanceAs (Decidable ((writtenMask line)[column.val]? = dayLetters[column.val]?))

/-- How many days ahead of today the next day is for which a column of a mask stands, with today
itself counted as no day ahead. -/
def daysAhead (today : Date) (column : Fin 7) : Int :=
  ((column.val : Int) - today.weekday.sinceSunday) % 7

/-! ## Columns -/

/-- The mask that is read from a line is the one that the line shows. -/
theorem writtenMask_of_read {line : String} {reminder : Reminder} {mask : WeekMask}
    {qualifier : Option Qualifier} (found : Grammar.weekly.read line = some reminder)
    (pattern : reminder.pattern = .weekly mask qualifier) : writtenMask line = mask.columns := by
  rcases Grammar.spellsLine_of_read found with ⟨text, spelled, -, -⟩
  rw [pattern] at spelled
  unfold writtenMask
  generalize line.toList = characters at spelled
  rcases spelled with @⟨digit, gap, patternText, windowText, secondGap, spellsPriority, isGap,
    spellsPattern, -, -, -⟩
  have unpadded := Grammar.unpadded_of_spellsPattern spellsPattern
    (windowText ++ (secondGap ++ text))
  have separators := List.all_eq_true.mp isGap.areSeparators
  rw [List.drop_left' spellsPriority.length_eq, List.dropWhile_append_of_pos separators,
    dropWhile_of_unpadded unpadded]
  rcases spellsPattern with ⟨-⟩
  rw [List.append_assoc]
  exact List.take_left' rfl

/-- A column stands for the day as many days after a Sunday as its place. -/
theorem WeekMask.exists_column (mask : WeekMask) (column : Fin 7) :
    Exists fun letter => dayLetters[column.val]? = some letter ∧ letter ≠ '-' ∧
      mask.columns[column.val]? =
        some (maskColumn letter (mask.includes (.afterMonday ((column.val : Int) - 1)))) := by
  match column with
  | 0 | 1 | 2 | 3 | 4 | 5 | 6 => exact ⟨_, rfl, by decide, rfl⟩

/-- A column that does not show the letter of its day shows a hyphen. -/
theorem WeekMask.columns_cases (mask : WeekMask) (column : Fin 7) :
    mask.columns[column.val]? = dayLetters[column.val]? ∨
      mask.columns[column.val]? = some '-' := by
  rcases mask.exists_column column with ⟨letter, isLetter, -, isColumn⟩
  rw [isLetter, isColumn, maskColumn]
  split
  · exact Or.inl rfl
  · exact Or.inr rfl

theorem WeekMask.shows_iff_includes (mask : WeekMask) (column : Fin 7) :
    mask.columns[column.val]? = dayLetters[column.val]? ↔
      mask.includes (.afterMonday ((column.val : Int) - 1)) = true := by
  rcases mask.exists_column column with ⟨letter, isLetter, notHyphen, isColumn⟩
  rw [isLetter, isColumn, maskColumn, Option.some.injEq, ite_eq_left_iff]
  constructor
  · intro shown
    exact Bool.of_not_eq_false fun inactive =>
      notHyphen (shown (Bool.eq_false_iff.mp inactive)).symm
  · intro active inactive
    exact absurd active inactive

/-- The days of a lookahead on which a mask is active are those for which a column of it stands. -/
theorem exists_includes_iff (mask : WeekMask) (today : Date) (lookahead : Lookahead) :
    (Exists fun offset : Nat => offset ≤ lookahead.days ∧
        mask.includes (.afterMonday (today.dayNumber + offset - 1)) = true) ↔
      Exists fun column : Fin 7 => mask.includes (.afterMonday ((column.val : Int) - 1)) = true ∧
        daysAhead today column ≤ lookahead.days := by
  have within := lookahead.within_week
  simp only [daysAhead, Date.sinceSunday_weekday]
  constructor
  · rintro ⟨offset, near, active⟩
    have place : Exists fun column : Nat =>
        (column : Int) = (today.dayNumber + offset) % 7 ∧ column < 7 :=
      ⟨((today.dayNumber + offset) % 7).toNat, by omega, by omega⟩
    rcases place with ⟨column, isColumn, inMask⟩
    refine ⟨⟨column, inMask⟩, ?_, ?_⟩
    · have sameWeekday : Weekday.afterMonday ((column : Int) - 1) =
          .afterMonday (today.dayNumber + offset - 1) := Weekday.afterMonday_congr (by omega)
      rwa [sameWeekday]
    · show ((column : Int) - today.dayNumber % 7) % 7 ≤ lookahead.days
      omega
  · rintro ⟨column, active, near⟩
    have ahead : Exists fun offset : Nat =>
        (offset : Int) = ((column.val : Int) - today.dayNumber % 7) % 7 :=
      ⟨(((column.val : Int) - today.dayNumber % 7) % 7).toNat, by omega⟩
    rcases ahead with ⟨offset, isOffset⟩
    have sameWeekday : Weekday.afterMonday (today.dayNumber + offset - 1) =
        .afterMonday ((column.val : Int) - 1) := Weekday.afterMonday_congr (by omega)
    exact ⟨offset, by omega, by rwa [sameWeekday]⟩

/-! ## Verdicts on masks -/

section

variable {line : String} {reminder : Reminder} {mask : WeekMask} {modulus : Option Nat}

/-- A line names no multiple of zero weeks. -/
theorem ne_zero_of_read (found : Grammar.weekly.read line = some reminder)
    (pattern : reminder.pattern = .weekly mask (modulus.map .everyWeeks)) :
    forall weeks, modulus = some weeks -> weeks ≠ 0 := by
  rintro weeks rfl
  have bounds := (Reminder.inBounds_of_read (Reminder.read_eq_some_iff.mpr ⟨_, found⟩)).1.pattern
  rw [pattern] at bounds
  have weeksBounds : 1 ≤ weeks ∧ weeks ≤ 53 := bounds _ rfl
  omega

/-- What the line shows decides whether its reminder is kept. -/
theorem keep_iff_shows (found : Grammar.weekly.read line = some reminder)
    (pattern : reminder.pattern = .weekly mask (modulus.map .everyWeeks)) {verdict : Verdict}
    {reference : Reference} {lookahead : Lookahead}
    (isFor : verdict.IsForWeek reference lookahead reminder.window mask
      (modulus.map .everyWeeks)) :
    verdict.keep = true ↔ reference.IsOpen reminder.window ∧
      (forall weeks, modulus = some weeks -> reference.week % weeks = 0) ∧
      Exists fun column : Fin 7 => ShowsLetter line column ∧
        daysAhead reference.today column ≤ lookahead.days := by
  simp only [isFor.keep_iff, isDueAfter_everyWeeks_iff (ne_zero_of_read found pattern),
    ShowsLetter, writtenMask_of_read found pattern, WeekMask.shows_iff_includes,
    ← exists_includes_iff]
  constructor
  · rintro ⟨isOpen, offset, near, active, selected⟩
    exact ⟨isOpen, selected, offset, near, active⟩
  · rintro ⟨isOpen, selected, offset, near, active⟩
    exact ⟨isOpen, offset, near, active, selected⟩

/-- Every column stands for one of the seven days from today on. -/
theorem daysAhead_le (today : Date) (column : Fin 7) : daysAhead today column ≤ 6 := by
  unfold daysAhead
  omega

/-- A week later the columns are as far ahead. -/
theorem daysAhead_nextWeek {today later : Date} (isLater : today.addDays 7 = some later)
    (column : Fin 7) : daysAhead later column = daysAhead today column := by
  have following := Date.dayNumber_of_addDays isLater
  simp only [daysAhead, Date.sinceSunday_weekday]
  omega

end

/-- A weekly reminder without an ordinal is kept exactly if its window is open, the number of the
week is a multiple of its modulus, and some column of the mask in its line shows the letter of a day
that the lookahead covers.  It is never overdue, and it is listed for today.  So with a lookahead of
six days any letter will do, and without a window and a modulus the verdict comes round every
week. -/
theorem weekly_mask_means_its_columns (line : String) (reminder : Reminder)
    (found : Grammar.weekly.read line = some reminder) (mask : WeekMask) (modulus : Option Nat)
    (pattern : reminder.pattern = .weekly mask (modulus.map .everyWeeks)) :
    (forall column : Fin 7,
      ShowsLetter line column ∨ (writtenMask line)[column.val]? = some '-') ∧
    (forall (reference : Reference) (lookahead : Lookahead),
      (reference.today.addDays lookahead.days).isSome ->
      Exists fun verdict : Verdict => reminder.evaluate reference lookahead = .ok verdict ∧
        verdict.overdue = false ∧ verdict.displayDate = reference.today ∧
        (verdict.keep = true ↔ reference.IsOpen reminder.window ∧
          (forall weeks, modulus = some weeks -> reference.week % weeks = 0) ∧
          Exists fun column : Fin 7 => ShowsLetter line column ∧
            daysAhead reference.today column ≤ lookahead.days)) ∧
    (modulus = none -> forall reference : Reference, (reference.today.addDays 6).isSome ->
      reference.IsOpen reminder.window ->
      (reminder.IsKept ⟨6, Nat.le_refl 6⟩ reference ↔
        Exists fun column : Fin 7 => ShowsLetter line column)) ∧
    (modulus = none -> reminder.window = none ->
      forall (reference later : Reference) (lookahead : Lookahead),
        reference.today.addDays 7 = some later.today ->
        (later.today.addDays lookahead.days).isSome ->
        Exists fun first : Verdict => Exists fun second : Verdict =>
          reminder.evaluate reference lookahead = .ok first ∧
            reminder.evaluate later lookahead = .ok second ∧ second.keep = first.keep ∧
            second.overdue = first.overdue ∧
            first.displayDate.addDays 7 = some second.displayDate) := by
  refine ⟨?_, ?_, ?_, ?_⟩
  · intro column
    unfold ShowsLetter
    rw [writtenMask_of_read found pattern]
    exact mask.columns_cases column
  · intro reference lookahead reaches
    rcases exists_verdict_of_weekly pattern reaches with ⟨verdict, judged, isFor⟩
    exact ⟨verdict, judged, isFor.overdue_eq, isFor.displayDate_eq,
      keep_iff_shows found pattern isFor⟩
  · rintro rfl reference reaches isOpen
    have reachesWeek : (reference.today.addDays
      (⟨6, Nat.le_refl 6⟩ : Lookahead).days).isSome := reaches
    rcases exists_verdict_of_weekly pattern reachesWeek with ⟨verdict, judged, isFor⟩
    simp only [Reminder.IsKept, judged, Except.ok.injEq, exists_eq_left',
      keep_iff_shows found pattern isFor]
    constructor
    · rintro ⟨-, -, column, shown, -⟩
      exact ⟨column, shown⟩
    · rintro ⟨column, shown⟩
      exact ⟨isOpen, by simp, column, shown, daysAhead_le _ _⟩
  · rintro rfl untimed reference later lookahead isLater reaches
    have following := Date.dayNumber_of_addDays isLater
    have reachesSooner : (reference.today.addDays lookahead.days).isSome :=
      Date.isSome_addDays_of_earlier (by omega) (by omega) reaches
    rcases exists_verdict_of_weekly pattern reachesSooner with ⟨first, judgedFirst, isFirst⟩
    rcases exists_verdict_of_weekly pattern reaches with ⟨second, judgedSecond, isSecond⟩
    refine ⟨first, second, judgedFirst, judgedSecond, ?_,
      isSecond.overdue_eq.trans isFirst.overdue_eq.symm, ?_⟩
    · have alwaysOpen (reference : Reference) : reference.IsOpen reminder.window :=
        reference.isOpen_of_untimed untimed
      rw [Bool.eq_iff_iff, keep_iff_shows found pattern isFirst,
        keep_iff_shows found pattern isSecond]
      simp only [alwaysOpen, daysAhead_nextWeek isLater, reduceCtorEq, false_implies,
        implies_true, true_and]
    · rw [isFirst.displayDate_eq, isSecond.displayDate_eq, isLater]

/-- On a Thursday a reminder for the weekend is out of reach of a lookahead of one day and within
reach of two days, and so it is a week later. -/
theorem weekend_ahead_of_thursday :
    let line := "2 S-----S Water the plants"
    let mask : WeekMask := ⟨false, false, false, false, false, true, true⟩
    let reminder : Reminder := ⟨2, .weekly mask none, none, "Water the plants", line⟩
    let reference : Reference := ⟨⟨2021, 3, 4, by decide, by decide⟩, 600, 9⟩
    let later : Reference := ⟨⟨2021, 3, 11, by decide, by decide⟩, 1200, 10⟩
    Grammar.weekly.read line = some reminder ∧
      reminder.pattern = .weekly mask ((none : Option Nat).map .everyWeeks) ∧
      (reference.today.addDays 6).isSome ∧ reference.IsOpen reminder.window ∧
      reference.today.addDays 7 = some later.today ∧ (later.today.addDays 2).isSome ∧
      ShowsLetter line 6 ∧ daysAhead reference.today 6 = 2 ∧
      (Exists fun verdict : Verdict =>
        reminder.evaluate reference ⟨1, by decide⟩ = .ok verdict ∧ verdict.keep = false) ∧
      reminder.IsKept ⟨6, Nat.le_refl 6⟩ reference ∧
      Exists fun first : Verdict => Exists fun second : Verdict =>
        reminder.evaluate reference ⟨2, by decide⟩ = .ok first ∧
          reminder.evaluate later ⟨2, by decide⟩ = .ok second ∧ first.keep = true ∧
          second.keep = first.keep := by
  have found : Grammar.weekly.read "2 S-----S Water the plants" = some
      ⟨2, .weekly ⟨false, false, false, false, false, true, true⟩ none, none, "Water the plants",
        "2 S-----S Water the plants"⟩ := by rfl
  intro line mask reminder reference later
  have reaches : (reference.today.addDays 6).isSome := by decide
  have isLater : reference.today.addDays 7 = some later.today := by decide
  have reachesLater : (later.today.addDays 2).isSome := by decide
  have isOpen : reference.IsOpen reminder.window := reference.isOpen_of_untimed rfl
  have shown : ShowsLetter line 6 := by decide
  rcases weekly_mask_means_its_columns line reminder found mask none rfl with
    ⟨-, judges, week, repeats⟩
  rcases judges reference ⟨1, by decide⟩ (by decide) with ⟨nearer, judgedNearer, -, -, nearerIff⟩
  rcases judges reference ⟨2, by decide⟩ (by decide) with ⟨farther, judgedFarther, -, -, fartherIff⟩
  have outOfReach : forall column : Fin 7, ShowsLetter line column ->
      ¬ daysAhead reference.today column ≤ 1 := by decide
  have farOff : ¬ nearer.keep = true := by
    intro kept
    rcases nearerIff.mp kept with ⟨-, -, column, isShown, near⟩
    exact outOfReach column isShown near
  have near : farther.keep = true := fartherIff.mpr ⟨isOpen, by simp, 6, shown, by decide⟩
  rcases repeats rfl rfl reference later ⟨2, by decide⟩ isLater reachesLater with
    ⟨first, second, judgedFirst, judgedSecond, sameKeep, -, -⟩
  rw [judgedFarther] at judgedFirst
  cases judgedFirst
  exact ⟨found, rfl, reaches, isOpen, isLater, reachesLater, shown, by decide,
    ⟨nearer, judgedNearer, Bool.eq_false_iff.mpr farOff⟩,
    (week rfl reference reaches isOpen).mpr ⟨6, shown⟩,
    farther, second, judgedFarther, judgedSecond, near, sameKeep⟩

end Reminders
