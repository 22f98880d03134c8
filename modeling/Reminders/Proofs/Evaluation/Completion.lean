import Reminders.Proofs.Evaluation.Verdict

namespace Reminders

/-!
# Patterns that today completes

Only one date is ever tested for a pattern with wildcards: the one that takes its fixed fields from
the pattern and the others from today.  It need not exist, and then the pattern is dropped for
today, unless no day of the calendar agrees with it at all.

If any date of today's month agrees with the pattern, the tested date is the first that does so from
today on.  It differs from today at most in the day, and where the day is a wildcard it is
today.  Dates of other months are not found, however near they are.
-/

/-- A date is what a pattern comes to today: it has the fixed fields of the pattern, and in place of
the wildcards the fields of today. -/
structure Date.Completes (date today : Date) (year month day : DateField) : Prop where
  agrees : date.Agrees year month day
  year : year = .wild -> date.year = today.year
  month : month = .wild -> date.month = today.month
  day : day = .wild -> date.day = today.day

/-- Two dates lie in one month of one year. -/
structure Date.SharesMonth (first second : Date) : Prop where
  year : first.year = second.year
  month : first.month = second.month

/-- A date is the first of the lookahead that agrees with a pattern. -/
structure Lookahead.Finds (lookahead : Lookahead) (today : Date) (year month day : DateField)
    (date : Date) : Prop where
  covered : lookahead.Covers today date
  agrees : date.Agrees year month day
  isFirst : forall other : Date, lookahead.Covers today other -> other.Agrees year month day ->
    date ≤ other

/-! ## The date that is tested -/

/-- A supported year is kept as it is exchanged with a 32-bit word. -/
theorem yearOfWord_wordOfYear {year : Int} (supported : firstYear ≤ year ∧ year ≤ lastYear) :
    yearOfWord (wordOfYear year) = year := by
  unfold firstYear lastYear at supported
  unfold yearOfWord wordOfYear
  rw [Int32.toInt32_toUInt32]
  exact Int32.toInt_ofInt_of_le (by omega) (by omega)

variable {today date : Date} {year month day : DateField}

theorem eq_yearOfWord_resolve_iff :
    date.year = yearOfWord (year.resolve (wordOfYear today.year)) ↔
      (forall word, year = .exact word -> yearOfWord word = date.year) ∧
        (year = .wild -> date.year = today.year) := by
  cases year with
  | exact word => simp [DateField.resolve, eq_comm]
  | wild => simp [DateField.resolve, yearOfWord_wordOfYear today.year_supported]

/-- A month or a day is small enough to be kept as it is exchanged with a 32-bit word. -/
theorem eq_toNat_resolve_iff {field : DateField} {number current : Nat} (small : current ≤ 31) :
    number = (field.resolve (UInt32.ofNat current)).toNat ↔
      (forall word, field = .exact word -> word.toNat = number) ∧
        (field = .wild -> number = current) := by
  cases field with
  | exact word => simp [DateField.resolve, eq_comm]
  | wild =>
      have kept : (UInt32.ofNat current).toNat = current :=
        UInt32.toNat_ofNat_of_lt' (Nat.lt_of_le_of_lt small (by decide))
      simp [DateField.resolve, kept]

/-- The tested date is the one that today completes the pattern to. -/
theorem completion_eq_some_iff :
    completion today year month day = some date ↔ date.Completes today year month day := by
  have monthSmall : today.month ≤ 31 := by
    have := today.month_bounds
    omega
  rw [completion, Date.ofFields_eq_some_iff, eq_yearOfWord_resolve_iff,
    eq_toNat_resolve_iff monthSmall, eq_toNat_resolve_iff today.day_le]
  constructor
  · rintro ⟨⟨fixedYear, wildYear⟩, ⟨fixedMonth, wildMonth⟩, ⟨fixedDay, wildDay⟩⟩
    exact ⟨⟨fixedYear, fixedMonth, fixedDay⟩, wildYear, wildMonth, wildDay⟩
  · rintro ⟨⟨fixedYear, fixedMonth, fixedDay⟩, wildYear, wildMonth, wildDay⟩
    exact ⟨⟨fixedYear, wildYear⟩, ⟨fixedMonth, wildMonth⟩, ⟨fixedDay, wildDay⟩⟩

theorem completion_eq_none_iff :
    completion today year month day = none ↔
      ¬ Exists fun date : Date => date.Completes today year month day := by
  simp only [Option.eq_none_iff_forall_ne_some, ne_eq, completion_eq_some_iff, not_exists]

/-- A specific date is refused exactly if its pattern names no day of the calendar.  If it names one
but today does not complete it to one, it is dropped for today. -/
theorem evaluate_refuses_impossible_dates (reminder : Reminder) (year month day : DateField)
    (pattern : reminder.pattern = .specific year month day) (supported : year.YearSupported)
    (reference : Reference) (lookahead : Lookahead)
    (reaches : (reference.today.addDays lookahead.days).isSome) :
    (reminder.evaluate reference lookahead =
        .error (.noSuchDate reminder.source (year.resolve (wordOfYear reference.today.year))
          (month.resolve (UInt32.ofNat reference.today.month))
          (day.resolve (UInt32.ofNat reference.today.day))) ↔
      ¬ Exists fun date : Date => date.Agrees year month day) ∧
    (forall problem, reminder.evaluate reference lookahead = .error problem ->
      problem = .noSuchDate reminder.source (year.resolve (wordOfYear reference.today.year))
        (month.resolve (UInt32.ofNat reference.today.month))
        (day.resolve (UInt32.ofNat reference.today.day))) ∧
    ((Exists fun date : Date => date.Agrees year month day) ->
      (¬ Exists fun date : Date => date.Completes reference.today year month day) ->
      reminder.evaluate reference lookahead = .ok ⟨false, false, reference.today⟩) := by
  have judged : reminder.evaluate reference lookahead =
      evaluateSpecific reminder year month day reference lookahead := by
    unfold Reminder.evaluate
    rw [pattern]
  rw [judged]
  refine ⟨?_, ?_, ?_⟩
  · simp only [evaluateSpecific_eq_error_iff supported reaches, and_true]
  · intro problem refused
    exact ((evaluateSpecific_eq_error_iff supported reaches).mp refused).2
  · intro named notCompleted
    have unresolved : evaluateSpecific reminder year month day reference lookahead = _ :=
      evaluateSpecific_of_completion_eq_none (completion_eq_none_iff.mpr notCompleted)
    rw [unresolved]
    split
    · rfl
    · next notExcused =>
        rw [if_neg notExcused] at unresolved
        exact absurd named ((evaluateSpecific_eq_error_iff supported reaches).mp unresolved).1

/-- The fourth year before the year 0 is a leap year, so a pattern for its February is dropped on
the thirtieth of a month; the year before 0 is none, and a pattern for its leap day is refused. -/
theorem leap_days_before_year_zero :
    let anyDay : Reminder := ⟨1, .specific (.exact 4294967292) (.exact 2) .wild, none, "Any", "Any"⟩
    let leapDay : Reminder :=
      ⟨1, .specific (.exact 4294967295) (.exact 2) (.exact 29), none, "Leap", "Leap"⟩
    let reference : Reference := ⟨⟨2021, 3, 30, by decide, by decide⟩, 600, 13⟩
    let lookahead : Lookahead := ⟨6, by decide⟩
    (DateField.exact 4294967292).YearSupported ∧ (DateField.exact 4294967295).YearSupported ∧
      (reference.today.addDays lookahead.days).isSome ∧
      (Exists fun date : Date => date.Agrees (.exact 4294967292) (.exact 2) .wild) ∧
      (¬ Exists fun date : Date =>
        date.Completes reference.today (.exact 4294967292) (.exact 2) .wild) ∧
      anyDay.evaluate reference lookahead = .ok ⟨false, false, reference.today⟩ ∧
      (¬ Exists fun date : Date => date.Agrees (.exact 4294967295) (.exact 2) (.exact 29)) ∧
      leapDay.evaluate reference lookahead = .error (.noSuchDate "Leap" 4294967295 2 29) := by
  intro anyDay leapDay reference lookahead
  have reaches : (reference.today.addDays lookahead.days).isSome := by decide
  have agreeing : Exists fun date : Date => date.Agrees (.exact 4294967292) (.exact 2) .wild := by
    refine ⟨⟨-4, 2, 29, by decide, by decide⟩, ?_, ?_, ?_⟩
    · rintro word ⟨⟩
      decide
    · rintro word ⟨⟩
      decide
    · rintro word impossible
      cases impossible
  have notCompleted : ¬ Exists fun date : Date =>
      date.Completes reference.today (.exact 4294967292) (.exact 2) .wild :=
    completion_eq_none_iff.mp (by decide)
  have noLeapDay : ¬ Exists fun date : Date =>
      date.Agrees (.exact 4294967295) (.exact 2) (.exact 29) := by
    rintro ⟨date, agrees⟩
    have unresolved :
        completion reference.today (.exact 4294967295) (.exact 2) (.exact 29) = none :=
      by decide
    have resolved :
        completion reference.today (.exact 4294967295) (.exact 2) (.exact 29) = some date :=
      resolved_of_agrees rfl agrees
    rw [unresolved] at resolved
    cases resolved
  have supported : (DateField.exact 4294967292).YearSupported := by
    show _ ∧ _
    decide
  have supportedToo : (DateField.exact 4294967295).YearSupported := by
    show _ ∧ _
    decide
  exact ⟨supported, supportedToo, reaches, agreeing, notCompleted,
    (evaluate_refuses_impossible_dates anyDay _ _ _ rfl supported reference lookahead reaches).2.2
      agreeing notCompleted,
    noLeapDay,
    (evaluate_refuses_impossible_dates leapDay _ _ _ rfl supportedToo reference lookahead
      reaches).1.mpr noLeapDay⟩

/-! ## Dates of today's month -/

/-- If some date of today's month agrees with a pattern, then a date of that month is what the
pattern comes to today, and it is covered by a lookahead that covers the other one. -/
theorem exists_completes_of_agrees {lookahead : Lookahead} (covered : lookahead.Covers today date)
    (sharesMonth : date.SharesMonth today) (agrees : date.Agrees year month day) :
    Exists fun tested : Date => tested.Completes today year month day ∧
      tested.SharesMonth today ∧ lookahead.Covers today tested := by
  cases isDay : day with
  | wild =>
      refine ⟨today, ⟨⟨?_, ?_, ?_⟩, fun _ => rfl, fun _ => rfl, fun _ => rfl⟩, ⟨rfl, rfl⟩, ?_⟩
      · intro word fixed
        rw [agrees.year word fixed, sharesMonth.year]
      · intro word fixed
        rw [agrees.month word fixed, sharesMonth.month]
      · intro word impossible
        cases impossible
      · exact ⟨Int.le_refl _, by omega⟩
  | exact word =>
      rw [isDay] at agrees
      refine ⟨date, ⟨agrees, fun _ => sharesMonth.year, fun _ => sharesMonth.month, ?_⟩,
        sharesMonth, covered⟩
      intro impossible
      cases impossible

/-- What a pattern comes to in today's month is no later than any date that agrees with the pattern
and is not past. -/
theorem Date.Completes.le_of_agrees {other : Date} (completes : date.Completes today year month day)
    (sharesMonth : date.SharesMonth today) (notPast : today ≤ other)
    (agrees : other.Agrees year month day) : date ≤ other := by
  rw [Date.le_iff_fields, ← sharesMonth.year, ← sharesMonth.month] at notPast
  rw [Date.le_iff_fields]
  -- In the month of today the two dates have the same day, or the first is today.
  have dayOrdered (inMonth : today.day ≤ other.day) : date.day ≤ other.day := by
    cases isDay : day with
    | wild =>
        rw [completes.day isDay]
        exact inMonth
    | exact word =>
        exact Nat.le_of_eq ((completes.agrees.day word isDay).symm.trans (agrees.day word isDay))
  exact notPast.imp_right fun sameYear =>
    ⟨sameYear.1, sameYear.2.imp_right fun sameMonth => ⟨sameMonth.1, dayOrdered sameMonth.2⟩⟩

/-- A date between two dates of one month lies in that month. -/
theorem Date.SharesMonth.between {first last : Date} (sharesMonth : last.SharesMonth first)
    (notBefore : first ≤ date) (notAfter : date ≤ last) : date.SharesMonth first := by
  rw [Date.le_iff_fields] at notBefore notAfter
  rw [sharesMonth.year, sharesMonth.month] at notAfter
  exact ⟨by omega, by omega⟩

section

variable {reference : Reference} {lookahead : Lookahead} {reminder : Reminder}

/-- A pattern with wildcards is never overdue, and kept only under a date of the lookahead that
agrees with it. -/
theorem covers_and_agrees_of_keep (pattern : reminder.pattern = .specific year month day)
    (isWild : (year.isWild || month.isWild || day.isWild) = true) {verdict : Verdict}
    (judged : reminder.evaluate reference lookahead = .ok verdict) :
    verdict.overdue = false ∧ (verdict.keep = true ->
      lookahead.Covers reference.today verdict.displayDate ∧
        verdict.displayDate.Agrees year month day) := by
  simp only [Reminder.evaluate, pattern] at judged
  rcases evaluateSpecific_ok_cases judged with rfl | ⟨tested, resolved, isFor⟩
  · refine ⟨rfl, ?_⟩
    intro impossible
    cases impossible
  · have notOverdue : verdict.overdue = false := by
      rw [isFor.overdue_eq, isWild]
      rfl
    refine ⟨notOverdue, fun kept => ?_⟩
    rw [isFor.displayDate_eq]
    exact ⟨(isFor.keep_iff.mp kept).resolve_left (Bool.eq_false_iff.mp notOverdue),
      (completion_eq_some_iff.mp resolved).agrees⟩

/-- If a date of the lookahead in today's month agrees with a pattern, the pattern is kept under the
first such date. -/
theorem exists_verdict_of_agrees (pattern : reminder.pattern = .specific year month day)
    (reaches : (reference.today.addDays lookahead.days).isSome)
    (covered : lookahead.Covers reference.today date)
    (sharesMonth : date.SharesMonth reference.today) (agrees : date.Agrees year month day) :
    Exists fun verdict : Verdict => reminder.evaluate reference lookahead = .ok verdict ∧
      verdict.keep = true ∧ verdict.displayDate.SharesMonth reference.today ∧
      lookahead.Finds reference.today year month day verdict.displayDate := by
  rcases exists_completes_of_agrees covered sharesMonth agrees with
    ⟨tested, completes, inMonth, testedCovered⟩
  rcases Option.isSome_iff_exists.mp reaches with ⟨horizon, reached⟩
  have judgment : Exists fun verdict : Verdict =>
      evaluateSpecific reminder year month day reference lookahead = .ok verdict ∧ _ :=
    evaluateSpecific_of_completion_eq_some (completion_eq_some_iff.mpr completes) reached
  rcases judgment with ⟨verdict, judged, isFor⟩
  refine ⟨verdict, ?_, isFor.keep_iff.mpr (Or.inr testedCovered), ?_⟩
  · simp only [Reminder.evaluate, pattern, judged]
  · rw [isFor.displayDate_eq]
    exact ⟨inMonth, testedCovered, completes.agrees, fun other otherCovered otherAgrees =>
      completes.le_of_agrees inMonth otherCovered.1 otherAgrees⟩

end

/-- A pattern with wildcards is never overdue, and if it is kept it stands under a date of the
lookahead that agrees with it.  If such a date lies in today's month, the pattern is kept, under the
first one.  So if the whole lookahead lies in today's month, the pattern is kept exactly if one of
its dates agrees. -/
theorem wildcards_find_dates_of_this_month (reminder : Reminder) (year month day : DateField)
    (pattern : reminder.pattern = .specific year month day)
    (isWild : (year.isWild || month.isWild || day.isWild) = true) (reference : Reference)
    (lookahead : Lookahead) (reaches : (reference.today.addDays lookahead.days).isSome) :
    (forall verdict, reminder.evaluate reference lookahead = .ok verdict ->
      verdict.overdue = false ∧ (verdict.keep = true ->
        lookahead.Covers reference.today verdict.displayDate ∧
          verdict.displayDate.Agrees year month day)) ∧
    (forall date : Date, lookahead.Covers reference.today date ->
      date.SharesMonth reference.today -> date.Agrees year month day ->
      Exists fun verdict : Verdict => reminder.evaluate reference lookahead = .ok verdict ∧
        verdict.keep = true ∧ verdict.displayDate.SharesMonth reference.today ∧
        lookahead.Finds reference.today year month day verdict.displayDate) ∧
    (forall horizon, reference.today.addDays lookahead.days = some horizon ->
      horizon.SharesMonth reference.today ->
      forall verdict, reminder.evaluate reference lookahead = .ok verdict ->
        (verdict.keep = true ↔ Exists fun date : Date =>
          lookahead.Covers reference.today date ∧ date.Agrees year month day)) := by
  refine ⟨fun verdict judged => covers_and_agrees_of_keep pattern isWild judged,
    fun date covered sharesMonth agrees =>
      exists_verdict_of_agrees pattern reaches covered sharesMonth agrees, ?_⟩
  intro horizon reached sharesMonth verdict judged
  constructor
  · intro kept
    exact ⟨_, (covers_and_agrees_of_keep pattern isWild judged).2 kept⟩
  · rintro ⟨date, covered, agrees⟩
    have notAfter : date ≤ horizon := by
      show date.dayNumber ≤ horizon.dayNumber
      rw [Date.dayNumber_of_addDays reached]
      exact covered.2
    rcases exists_verdict_of_agrees pattern reaches covered
      (sharesMonth.between covered.1 notAfter) agrees with ⟨other, otherJudged, kept, -⟩
    rw [judged] at otherJudged
    cases otherJudged
    exact kept

/-- On the fourth of a month the fifth of any month is found, though its window has closed for
today. -/
theorem fifth_found_on_fourth :
    let fifth : Reminder :=
      ⟨2, .specific .wild .wild (.exact 5), some ⟨480, 540⟩, "Fifth",
        "2 ????.??.05:0800-0900 Fifth"⟩
    let reference : Reference := ⟨⟨2021, 3, 4, by decide, by decide⟩, 600, 9⟩
    let lookahead : Lookahead := ⟨3, by decide⟩
    let tomorrow : Date := ⟨2021, 3, 5, by decide, by decide⟩
    let horizon : Date := ⟨2021, 3, 7, by decide, by decide⟩
    (reference.today.addDays lookahead.days).isSome ∧
      lookahead.Covers reference.today tomorrow ∧ tomorrow.SharesMonth reference.today ∧
      tomorrow.Agrees .wild .wild (.exact 5) ∧
      reference.today.addDays lookahead.days = some horizon ∧ horizon.SharesMonth reference.today ∧
      Exists fun verdict : Verdict => fifth.evaluate reference lookahead = .ok verdict ∧
        verdict.keep = true ∧ verdict.overdue = false ∧
        lookahead.Finds reference.today .wild .wild (.exact 5) verdict.displayDate ∧
        Exists fun date : Date => lookahead.Covers reference.today date ∧
          date.Agrees .wild .wild (.exact 5) := by
  intro fifth reference lookahead tomorrow horizon
  have reaches : (reference.today.addDays lookahead.days).isSome := by decide
  have covered : lookahead.Covers reference.today tomorrow := by
    show _ ∧ _
    decide
  have sharesMonth : tomorrow.SharesMonth reference.today := ⟨rfl, rfl⟩
  have agrees : tomorrow.Agrees .wild .wild (.exact 5) := by
    refine ⟨?_, ?_, ?_⟩
    · rintro word impossible
      cases impossible
    · rintro word impossible
      cases impossible
    · rintro word ⟨⟩
      decide
  have reached : reference.today.addDays lookahead.days = some horizon := by decide
  rcases wildcards_find_dates_of_this_month fifth .wild .wild (.exact 5) rfl rfl reference lookahead
    reaches with ⟨neverOverdue, findsFirst, keptIff⟩
  rcases findsFirst tomorrow covered sharesMonth agrees with ⟨verdict, judged, kept, -, finds⟩
  exact ⟨reaches, covered, sharesMonth, agrees, reached, ⟨rfl, rfl⟩, verdict, judged, kept,
    (neverOverdue verdict judged).1, finds,
    (keptIff horizon reached ⟨rfl, rfl⟩ verdict judged).mp kept⟩

end Reminders
