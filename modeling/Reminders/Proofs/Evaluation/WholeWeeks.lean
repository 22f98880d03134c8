import Reminders.Proofs.Calendar.WeekNumber
import Reminders.Proofs.Evaluation.Timeline
import Reminders.Proofs.Evaluation.Weekly

namespace Reminders

/-!
# Every so many weeks

A weekly reminder with a modulus is for every week whose number the modulus divides.  The number is
the one of the week of the day of judging, and all days of a week have the same.  So on the active
days of a week the reminder is kept on all or on none, and as the number of the next week is one
higher or is 1 again, no modulus but 1 selects two weeks in a row.
-/

/-- Judged at some time of some day of the week that begins with a Monday, and without a lookahead,
the reminder is kept. -/
def Reminder.IsKeptInWeek (reminder : Reminder) (monday : Date) : Prop :=
  Exists fun offset : Nat => Exists fun day : Date => Exists fun hour : Nat =>
    Exists fun minute : Nat => offset < 7 ∧ monday.addDays offset = some day ∧
      reminder.IsKept .todayOnly (.ofTime day hour minute)

section

variable {reminder : Reminder} {mask : WeekMask} {modulus : Nat} {monday : Date}

/-- Without a lookahead the number of the week and the weekday decide. -/
theorem evaluate_everyWeeks (pattern : reminder.pattern = .weekly mask (some (.everyWeeks modulus)))
    (positive : 1 ≤ modulus) (untimed : reminder.window = none) (day : Date) (hour minute : Nat) :
    reminder.evaluate (.ofTime day hour minute) .todayOnly =
      .ok ⟨decide (modulus ∣ day.isoWeek) && mask.includes day.weekday, false, day⟩ := by
  let reference := Reference.ofTime day hour minute
  have reaches := reference.today.isSome_addDays_todayOnly
  rcases exists_verdict_of_weekly pattern reaches with
    ⟨⟨keep, overdue, displayDate⟩, judged, sameDate, sameOverdue, keepIff⟩
  have notZero : forall weeks, some modulus = some weeks -> weeks ≠ 0 := by
    rintro weeks ⟨⟩
    omega
  have dueIff (offset : Nat) : IsDueAfter mask (some (.everyWeeks modulus)) reference offset ↔
      mask.includes (.afterMonday (day.dayNumber + offset - 1)) = true ∧
        forall weeks, some modulus = some weeks -> day.isoWeek % weeks = 0 :=
    isDueAfter_everyWeeks_iff notZero
  have keepEq : keep = (decide (modulus ∣ day.isoWeek) && mask.includes day.weekday) := by
    rw [Bool.eq_iff_iff, Bool.and_eq_true, decide_eq_true_eq, Nat.dvd_iff_mod_eq_zero]
    refine keepIff.trans ?_
    simp only [dueIff]
    constructor
    · rintro ⟨-, offset, near, active, selected⟩
      cases Nat.le_zero.mp near
      rw [Int.natCast_zero, Int.add_zero] at active
      exact ⟨selected modulus rfl, active⟩
    · rintro ⟨selected, active⟩
      refine ⟨reference.isOpen_of_untimed untimed, 0, Nat.le_refl 0, ?_, ?_⟩
      · rw [Int.natCast_zero, Int.add_zero]
        exact active
      · rintro weeks ⟨⟩
        exact selected
  refine judged.trans ?_
  rw [keepEq, show overdue = false from sameOverdue, show displayDate = day from sameDate]

/-- A week is selected as a whole. -/
theorem isKeptInWeek_iff (pattern : reminder.pattern = .weekly mask (some (.everyWeeks modulus)))
    (positive : 1 ≤ modulus) (untimed : reminder.window = none)
    (nonempty : Exists fun weekday => mask.includes weekday = true)
    (isMonday : monday.weekday = .monday) (reaches : (monday.addDays 6).isSome) :
    reminder.IsKeptInWeek monday ↔ modulus ∣ monday.isoWeek := by
  simp only [Reminder.IsKeptInWeek, Reminder.IsKept,
    evaluate_everyWeeks pattern positive untimed, Except.ok.injEq, exists_eq_left',
    Bool.and_eq_true, decide_eq_true_eq]
  constructor
  · rintro ⟨offset, day, -, -, within, isDay, selected, -⟩
    rwa [Date.isoWeek_eq_of_week isMonday within isDay] at selected
  · intro selected
    rcases nonempty with ⟨weekday, active⟩
    have remainder : monday.dayNumber % 7 = 1 := Date.weekday_eq_iff.mp isMonday
    have early := weekday.sinceSunday_lt
    have isListed : Exists fun offset : Nat => offset < 7 ∧
        (monday.dayNumber + offset) % 7 = weekday.sinceSunday :=
      ⟨(weekday.sinceSunday + 6) % 7, by omega, by omega⟩
    rcases isListed with ⟨offset, within, isWeekday⟩
    have supported : (monday.addDays offset).isSome :=
      Date.isSome_addDays_of_le (by omega) (by omega) reaches
    rcases Option.isSome_iff_exists.mp supported with ⟨day, isDay⟩
    have dayWeekday : day.weekday = weekday := by
      rw [Date.weekday_eq_iff, Date.dayNumber_of_addDays isDay]
      exact isWeekday
    refine ⟨offset, day, 0, 0, within, isDay, ?_, ?_⟩
    · rwa [Date.isoWeek_eq_of_week isMonday within isDay]
    · rwa [dayWeekday]

end

/-- A weekly reminder with a modulus and without a window, judged without a lookahead, is kept on
the active days of every week whose number the modulus divides, at any time of day, and on no
other day.  A week and the next have successive numbers, except at the turn of the year, so a
modulus of 2 or more never selects two weeks in a row. -/
theorem modulus_selects_whole_weeks (reminder : Reminder) (mask : WeekMask) (modulus : Nat)
    (pattern : reminder.pattern = .weekly mask (some (.everyWeeks modulus)))
    (positive : 1 ≤ modulus) (untimed : reminder.window = none)
    (nonempty : Exists fun weekday => mask.includes weekday = true) (monday following : Date)
    (isMonday : monday.weekday = .monday) (follows : monday.addDays 7 = some following)
    (reaches : (monday.addDays 13).isSome) :
    Exists fun number : Nat => Exists fun nextNumber : Nat =>
      monday.BeginsWeek number ∧ following.BeginsWeek nextNumber ∧
      (nextNumber = number + 1 ∨ nextNumber = 1 ∧ (number = 52 ∨ number = 53)) ∧
      (forall (offset : Nat) (day : Date) (hour minute : Nat), offset < 7 ->
        monday.addDays offset = some day ->
        reminder.evaluate (.ofTime day hour minute) .todayOnly =
          .ok ⟨decide (modulus ∣ number) && mask.includes day.weekday, false, day⟩) ∧
      (reminder.IsKeptInWeek monday ↔ modulus ∣ number) ∧
      (2 ≤ modulus -> reminder.IsKeptInWeek monday -> ¬ reminder.IsKeptInWeek following) := by
  have place := Date.dayNumber_of_addDays follows
  have followingMonday : following.weekday = .monday := by
    rw [← isMonday, Date.weekday_eq_weekday_iff]
    omega
  have thisWeek : (monday.addDays 6).isSome :=
    Date.isSome_addDays_of_le (by omega) (by omega) reaches
  have nextWeek : (following.addDays 6).isSome :=
    Date.isSome_addDays_of_earlier (by omega) (by omega) reaches
  have hasThursday : (monday.addDays 3).isSome :=
    Date.isSome_addDays_of_le (by omega) (by omega) thisWeek
  have hasNextThursday : (following.addDays 3).isSome :=
    Date.isSome_addDays_of_le (by omega) (by omega) nextWeek
  rcases Option.isSome_iff_exists.mp hasThursday with ⟨thursday, isThursday⟩
  rcases Option.isSome_iff_exists.mp hasNextThursday with ⟨nextThursday, isNextThursday⟩
  have turn := Date.isoWeek_of_nextMonday isMonday isThursday follows isNextThursday
  have keptIff := isKeptInWeek_iff pattern positive untimed nonempty isMonday thisWeek
  have keptNextIff := isKeptInWeek_iff pattern positive untimed nonempty followingMonday nextWeek
  refine ⟨monday.isoWeek, following.isoWeek, (Date.beginsWeek_iff isMonday isThursday).mpr rfl,
    (Date.beginsWeek_iff followingMonday isNextThursday).mpr rfl, turn, ?_, keptIff, ?_⟩
  · intro offset day hour minute within isDay
    rw [evaluate_everyWeeks pattern positive untimed,
      Date.isoWeek_eq_of_week isMonday within isDay]
  · intro several kept keptNext
    rw [keptIff] at kept
    rw [keptNextIff] at keptNext
    have notDividing : ¬ modulus ∣ 1 := fun divides => by
      have := Nat.le_of_dvd Nat.one_pos divides
      omega
    rcases turn with succeeds | ⟨isFirst, -⟩
    · rw [succeeds, Nat.dvd_add_right kept] at keptNext
      exact notDividing keptNext
    · rw [isFirst] at keptNext
      exact notDividing keptNext

/-- The last week of 2020 has the number 53 and the week after it the number 1, so a reminder for
every second week is not kept in it. -/
theorem turn_of_2020 :
    let mask : WeekMask := ⟨false, true, false, false, false, false, false⟩
    let reminder : Reminder :=
      ⟨3, .weekly mask (some (.everyWeeks 2)), none, "Check status", "3 --T----%2 Check status"⟩
    let monday : Date := ⟨2020, 12, 28, by decide, by decide⟩
    let following : Date := ⟨2021, 1, 4, by decide, by decide⟩
    Grammar.weekly.read "3 --T----%2 Check status" = some reminder ∧
      (Exists fun weekday => mask.includes weekday = true) ∧ monday.weekday = .monday ∧
      monday.addDays 7 = some following ∧ (monday.addDays 13).isSome ∧
      monday.BeginsWeek 53 ∧ following.BeginsWeek 1 ∧ ¬ reminder.IsKeptInWeek monday := by
  have found : Grammar.weekly.read "3 --T----%2 Check status" = some
      ⟨3, .weekly ⟨false, true, false, false, false, false, false⟩ (some (.everyWeeks 2)), none,
        "Check status", "3 --T----%2 Check status"⟩ := by rfl
  intro mask reminder monday following
  have isMonday : monday.weekday = .monday := by decide
  have follows : monday.addDays 7 = some following := by decide
  have reaches : (monday.addDays 13).isSome := by decide
  have isThursday : monday.addDays 3 = some ⟨2020, 12, 31, by decide, by decide⟩ := by decide
  have isNextThursday : following.addDays 3 = some ⟨2021, 1, 7, by decide, by decide⟩ := by decide
  have nonempty : Exists fun weekday => mask.includes weekday = true := ⟨.tuesday, rfl⟩
  rcases modulus_selects_whole_weeks reminder mask 2 rfl (by decide) rfl nonempty monday following
    isMonday follows reaches with ⟨number, nextNumber, begins, beginsNext, -, -, keptIff, -⟩
  have isLast : number = 53 :=
    ((Date.beginsWeek_iff isMonday isThursday).mp begins).trans (by decide)
  have isFirst : nextNumber = 1 :=
    ((Date.beginsWeek_iff (by decide) isNextThursday).mp beginsNext).trans (by decide)
  subst isLast isFirst
  exact ⟨found, nonempty, isMonday, follows, reaches, begins, beginsNext,
    fun kept => absurd (keptIff.mp kept) (by decide)⟩

end Reminders
