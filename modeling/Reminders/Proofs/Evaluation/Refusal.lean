import Reminders.Evaluation
import Reminders.Proofs.Calendar.DayNumber
import Reminders.Proofs.Reminder.Bounds

namespace Reminders

/-!
# Which reminders have no verdict

A reminder is refused if its pattern names no day of the calendar at all.  This is a property of the
pattern: today's date completes the wildcards, but whether some completion exists is asked of
the year 2000, which has every day that any year has.  So the refusal of a reminder does not depend
on the day on which it is judged.

All of this holds as long as the calendar reaches to the end of the lookahead.
-/

/-- A date has the fixed fields of a pattern. -/
structure Date.Agrees (date : Date) (year month day : DateField) : Prop where
  year : forall word, year = .exact word -> yearOfWord word = date.year
  month : forall word, month = .exact word -> word.toNat = date.month
  day : forall word, day = .exact word -> word.toNat = date.day

/-- A fixed year is a year of the calendar. -/
def DateField.YearSupported : DateField -> Prop
  | exact word => firstYear ≤ yearOfWord word ∧ yearOfWord word ≤ lastYear
  | wild => True

/-- Years of fewer than 32 bits are not negative. -/
theorem yearOfWord_of_lt {word : UInt32} (small : word.toNat < 0x80000000) :
    yearOfWord word = word.toNat := by
  show word.toBitVec.toInt = (word.toBitVec.toNat : Int)
  exact BitVec.toInt_eq_toNat_of_lt (by show 2 * word.toNat < 4294967296; omega)

theorem DateField.yearSupported_of_within {year : DateField} (bounds : year.Within 2000 2199) :
    year.YearSupported := by
  cases year with
  | wild => trivial
  | exact word =>
      simp only [DateField.Within] at bounds
      have sameYear : yearOfWord word = word.toNat := yearOfWord_of_lt (by omega)
      simp only [DateField.YearSupported, sameYear, firstYear, lastYear]
      omega

/-! ## Days that some year has -/

theorem mem_candidateMonths {month : DateField} {number : Nat} :
    number ∈ candidateMonths month ↔
      (forall word, month = .exact word -> word.toNat = number) ∧
        (month = .wild -> 1 ≤ number ∧ number ≤ 12) := by
  cases month with
  | exact word => simp [candidateMonths, eq_comm]
  | wild =>
      simp only [candidateMonths, List.mem_range'_1]
      constructor
      · intro inRange
        exact ⟨(by intro word impossible; cases impossible), fun _ => by omega⟩
      · intro bounds
        have := bounds.2 trivial
        omega

/-- The day is found in the year 2000 if any year has it. -/
theorem occursInSomeMonth_iff {month day : DateField} :
    occursInSomeMonth month day = true ↔ Exists fun date : Date => date.Agrees .wild month day := by
  simp only [occursInSomeMonth, List.any_eq_true, mem_candidateMonths]
  constructor
  · rintro ⟨number, ⟨isMonth, -⟩, found⟩
    rcases Option.isSome_iff_exists.mp found with ⟨date, isDate⟩
    rcases Date.ofFields_eq_some_iff.mp isDate with ⟨-, sameMonth, sameDay⟩
    refine ⟨date, ?_, ?_, ?_⟩
    · intro word impossible
      cases impossible
    · intro word fixed
      rw [isMonth word fixed, sameMonth]
    · intro word fixed
      rw [sameDay, fixed, DateField.resolve]
  · rintro ⟨date, agrees⟩
    refine ⟨date.month, ⟨agrees.month, fun _ => date.month_bounds⟩, ?_⟩
    have longest := daysInMonth_le_leapYear date.year date.month
    have existing := date.day_exists
    refine Date.isSome_ofFields_iff.mpr ⟨by decide, ?_⟩
    cases day with
    | wild =>
        show 1 ≤ 1 ∧ 1 ≤ daysInMonth 2000 date.month
        omega
    | exact word =>
        have sameDay := agrees.day word rfl
        simp only [DateField.resolve]
        omega

/-- Fixing the year as well loses nothing if a wildcard is left: a wild month can be January, which
has every day, and a wild day the first, which every month has. -/
theorem exists_agrees_of_wild {year month day : DateField} (supported : year.YearSupported)
    (isWild : (year.isWild || month.isWild || day.isWild) = true)
    (occurs : Exists fun date : Date => date.Agrees .wild month day) :
    Exists fun date : Date => date.Agrees year month day := by
  rcases occurs with ⟨date, agrees⟩
  cases year with
  | wild => exact ⟨date, agrees⟩
  | exact word =>
      -- The date of the fixed year that has the given month and day.
      have inYear (month' day' : Nat) (existing : 1 ≤ day' ∧
          day' ≤ daysInMonth (yearOfWord word) month')
          (isMonth : forall word, month = .exact word -> word.toNat = month')
          (isDay : forall word, day = .exact word -> word.toNat = day') :
          Exists fun date : Date => date.Agrees (.exact word) month day := by
        refine ⟨⟨yearOfWord word, month', day', supported, existing⟩, ?_, isMonth, isDay⟩
        intro other same
        cases same
        rfl
      have dayBounds := date.day_exists.1
      have dayLe := date.day_le
      cases month with
      | wild =>
          refine inYear 1 date.day ⟨dayBounds, dayLe⟩ ?_ agrees.day
          intro other impossible
          cases impossible
      | exact fixedMonth =>
          cases day with
          | wild =>
              have positive := (daysInMonth_pos_iff (yearOfWord word) date.month).mpr
                date.month_bounds
              refine inYear date.month 1 ⟨Nat.le_refl 1, positive⟩ agrees.month ?_
              intro other impossible
              cases impossible
          | exact fixedDay => cases isWild

/-! ## Specific dates -/

section

variable {reference : Reference} {lookahead : Lookahead} {reminder : Reminder}
  {year month day : DateField}

/-- The date that today completes a pattern to agrees with the pattern. -/
theorem agrees_of_resolved {today date : Date}
    (found : Date.ofFields (yearOfWord (year.resolve (wordOfYear today.year)))
      (month.resolve (UInt32.ofNat today.month)).toNat
      (day.resolve (UInt32.ofNat today.day)).toNat = some date) :
    date.Agrees year month day := by
  rcases Date.ofFields_eq_some_iff.mp found with ⟨sameYear, sameMonth, sameDay⟩
  refine ⟨?_, ?_, ?_⟩
  · rintro word rfl
    exact sameYear.symm
  · rintro word rfl
    exact sameMonth.symm
  · rintro word rfl
    exact sameDay.symm

/-- Without wildcards there is nothing to complete. -/
theorem resolved_of_agrees {today date : Date}
    (isFixed : (year.isWild || month.isWild || day.isWild) = false)
    (agrees : date.Agrees year month day) :
    Date.ofFields (yearOfWord (year.resolve (wordOfYear today.year)))
      (month.resolve (UInt32.ofNat today.month)).toNat
      (day.resolve (UInt32.ofNat today.day)).toNat = some date := by
  simp only [Bool.or_eq_false_iff] at isFixed
  rcases isFixed with ⟨⟨fixedYear, fixedMonth⟩, fixedDay⟩
  cases year with
  | wild => cases fixedYear
  | exact year =>
      cases month with
      | wild => cases fixedMonth
      | exact month =>
          cases day with
          | wild => cases fixedDay
          | exact day =>
              exact Date.ofFields_eq_some_iff.mpr ⟨(agrees.year year rfl).symm,
                (agrees.month month rfl).symm, (agrees.day day rfl).symm⟩

/-- A specific date is refused if no date agrees with it, and then with today's completion of its
fields. -/
theorem evaluateSpecific_eq_error_iff (supported : year.YearSupported)
    (reaches : (reference.today.addDays lookahead.days).isSome) {problem : EvaluationError} :
    evaluateSpecific reminder year month day reference lookahead = .error problem ↔
      (¬ Exists fun date : Date => date.Agrees year month day) ∧
        problem = .noSuchDate reminder.source (year.resolve (wordOfYear reference.today.year))
          (month.resolve (UInt32.ofNat reference.today.month))
          (day.resolve (UInt32.ofNat reference.today.day)) := by
  rcases Option.isSome_iff_exists.mp reaches with ⟨horizon, reached⟩
  simp only [evaluateSpecific, reached]
  split
  · next unresolved =>
      split
      · next excused =>
          -- Other days complete the pattern, so it is not refused.
          have occurs := occursInSomeMonth_iff.mp (Bool.and_eq_true_iff.mp excused).2
          have agreeing :=
            exists_agrees_of_wild supported (Bool.and_eq_true_iff.mp excused).1 occurs
          constructor
          · intro impossible
            cases impossible
          · intro refused
            exact absurd agreeing refused.1
      · next notExcused =>
          have noneAgrees : ¬ Exists fun date : Date => date.Agrees year month day := by
            rintro ⟨date, agrees⟩
            cases isWild : (year.isWild || month.isWild || day.isWild) with
            | true =>
                apply notExcused
                rw [isWild, Bool.true_and]
                refine occursInSomeMonth_iff.mpr ⟨date, ?_, agrees.month, agrees.day⟩
                intro word impossible
                cases impossible
            | false =>
                rw [resolved_of_agrees isWild agrees] at unresolved
                cases unresolved
          simp only [noneAgrees, not_false_eq_true, true_and, Except.error.injEq, eq_comm]
  · next date resolved =>
      constructor
      · intro impossible
        cases impossible
      · intro refused
        exact absurd ⟨date, agrees_of_resolved resolved⟩ refused.1

/-- Within bounds, a pattern that no date agrees with fixes the month and the day. -/
theorem fixed_of_not_agrees (bounds : (DatePattern.specific year month day).InBounds)
    (noneAgrees : ¬ Exists fun date : Date => date.Agrees year month day) :
    Exists fun fixedMonth : UInt32 => Exists fun fixedDay : UInt32 =>
      month = .exact fixedMonth ∧ day = .exact fixedDay := by
  rcases bounds with ⟨yearBounds, monthBounds, dayBounds⟩
  have supported := DateField.yearSupported_of_within yearBounds
  -- A date of the year 2000 shows that the pattern is not impossible, whatever the year.
  have refute (month' day' : Nat) (existing : 1 ≤ day' ∧ day' ≤ daysInMonth 2000 month')
      (isMonth : forall word, month = .exact word -> word.toNat = month')
      (isDay : forall word, day = .exact word -> word.toNat = day')
      (isWild : (year.isWild || month.isWild || day.isWild) = true) : False := by
    refine noneAgrees (exists_agrees_of_wild supported isWild
      ⟨⟨2000, month', day', by decide, existing⟩, ?_, isMonth, isDay⟩)
    intro word impossible
    cases impossible
  cases month with
  | wild =>
      apply False.elim
      cases day with
      | wild =>
          exact refute 1 1 (by decide) (by simp) (by simp) (by simp [DateField.isWild])
      | exact fixedDay =>
          exact refute 1 fixedDay.toNat dayBounds (by simp) (by simp) (by simp [DateField.isWild])
  | exact fixedMonth =>
      cases day with
      | wild =>
          have positive := (daysInMonth_pos_iff 2000 fixedMonth.toNat).mpr monthBounds
          apply False.elim
          exact refute fixedMonth.toNat 1 ⟨Nat.le_refl 1, positive⟩ (by simp) (by simp)
            (by simp [DateField.isWild])
      | exact fixedDay => exact ⟨fixedMonth, fixedDay, rfl, rfl⟩

/-! ## Weekly patterns and whole reminders -/

/-- The search looks up the next day, and goes on if the pattern is not due on it. -/
theorem isDueWithin_cons (mask : WeekMask) (qualifier : Option Qualifier) (offset : Nat)
    (later : List Nat) :
    isDueWithin mask qualifier reference (offset :: later) =
      match reference.today.addDays offset with
      | none => .error .pastCalendar
      | some day =>
          if isDueOn mask qualifier reference offset day then .ok true
          else isDueWithin mask qualifier reference later := by
  rfl

/-- If all days can be looked up, the search ends with an answer. -/
theorem isDueWithin_eq_any {mask : WeekMask} {qualifier : Option Qualifier} {offsets : List Nat}
    (reaches : forall offset : Nat, offset ∈ offsets -> (reference.today.addDays offset).isSome) :
    isDueWithin mask qualifier reference offsets =
      .ok (offsets.any fun offset =>
        (reference.today.addDays offset).any (isDueOn mask qualifier reference offset)) := by
  induction offsets with
  | nil => rfl
  | cons offset later inductionHypothesis =>
      have first := reaches offset List.mem_cons_self
      have rest := inductionHypothesis fun other member =>
        reaches other (List.mem_cons_of_mem _ member)
      rw [isDueWithin_cons, rest, List.any_cons]
      generalize reference.today.addDays offset = looked at first
      cases looked with
      | none => cases first
      | some day =>
          simp only [Option.any_some]
          cases isDueOn mask qualifier reference offset day <;>
            simp only [Bool.false_eq_true, if_false, if_true, Bool.false_or, Bool.true_or]

/-- A weekly reminder always has a verdict.  It is kept if its window is open and one of the days of
the lookahead is due. -/
theorem evaluateWeekly_eq_ok (reminder : Reminder) (mask : WeekMask) (qualifier : Option Qualifier)
    (reaches : (reference.today.addDays lookahead.days).isSome) :
    evaluateWeekly reminder mask qualifier reference lookahead =
      .ok ⟨!reference.windowIsPast reminder.window &&
        (List.range (lookahead.days + 1)).any fun offset =>
          (reference.today.addDays offset).any (isDueOn mask qualifier reference offset),
        false, reference.today⟩ := by
  have allReach : forall offset : Nat, offset ∈ List.range (lookahead.days + 1) ->
      (reference.today.addDays offset).isSome := by
    intro offset member
    have := List.mem_range.mp member
    exact Date.isSome_addDays_of_le (by omega) (by omega) reaches
  unfold evaluateWeekly
  cases reference.windowIsPast reminder.window with
  | true => rfl
  | false =>
      rw [isDueWithin_eq_any allReach, Bool.not_false, Bool.true_and]
      rfl

/-- A reminder within bounds is refused if it is for a specific date that no date agrees with.  Of
the error only the year can depend on today. -/
theorem evaluate_eq_error_iff (bounds : reminder.InBounds)
    (reaches : (reference.today.addDays lookahead.days).isSome) {problem : EvaluationError} :
    reminder.evaluate reference lookahead = .error problem ↔
      Exists fun year : DateField => Exists fun month : UInt32 => Exists fun day : UInt32 =>
        reminder.pattern = .specific year (.exact month) (.exact day) ∧
          (¬ Exists fun date : Date => date.Agrees year (.exact month) (.exact day)) ∧
          problem = .noSuchDate reminder.source (year.resolve (wordOfYear reference.today.year))
            month day := by
  have inBounds := bounds.pattern
  unfold Reminder.evaluate
  cases pattern : reminder.pattern with
  | specific year month day =>
      rw [pattern] at inBounds
      have supported := DateField.yearSupported_of_within inBounds.1
      simp only [evaluateSpecific_eq_error_iff supported reaches]
      constructor
      · rintro ⟨noneAgrees, rfl⟩
        rcases fixed_of_not_agrees inBounds noneAgrees with ⟨fixedMonth, fixedDay, rfl, rfl⟩
        exact ⟨year, fixedMonth, fixedDay, rfl, noneAgrees, rfl⟩
      · rintro ⟨otherYear, fixedMonth, fixedDay, same, noneAgrees, rfl⟩
        cases same
        exact ⟨noneAgrees, rfl⟩
  | weekly mask qualifier =>
      simp only [evaluateWeekly_eq_ok reminder mask qualifier reaches]
      constructor
      · intro impossible
        cases impossible
      · rintro ⟨_, _, _, impossible, _⟩
        cases impossible

end

end Reminders
