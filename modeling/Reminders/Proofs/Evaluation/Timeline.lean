import Reminders.Proofs.Evaluation.Verdict

namespace Reminders

/-!
# Fixed dates in the course of time

A reminder for one fixed day is never dropped once it has been listed.  Its verdict compares the
passing time with two moments.  It is kept from the day on from which the lookahead reaches its
date, because on the date itself, and on every later day, it is either covered by the lookahead or
over.  It is overdue from the first moment at which the date is over.

Neither moment depends on the moment of judging, so both answers can only go from no to yes, and
the date that is shown is always the reminder's own.
-/

/-- A minute of a day. -/
structure Moment where
  date : Date
  minute : Nat
deriving DecidableEq

namespace Moment

/-- Earlier days come first, and on one day earlier minutes. -/
instance : LE Moment :=
  ⟨fun first second => first.date < second.date ∨
    first.date = second.date ∧ first.minute ≤ second.minute⟩

instance (first second : Moment) : Decidable (first ≤ second) :=
  inferInstanceAs (Decidable (first.date < second.date ∨
    first.date = second.date ∧ first.minute ≤ second.minute))

theorem date_le_of_le {first second : Moment} (ordered : first ≤ second) :
    first.date.dayNumber ≤ second.date.dayNumber := by
  rcases ordered with earlierDay | ⟨sameDay, -⟩
  · exact Int.le_of_lt earlierDay
  · exact Int.le_of_eq (congrArg Date.dayNumber sameDay)

/-- The first minute of a day comes before all moments of that day and of later ones. -/
theorem midnight_le_iff {date : Date} {moment : Moment} :
    (⟨date, 0⟩ : Moment) ≤ moment ↔ date.dayNumber ≤ moment.date.dayNumber := by
  constructor
  · exact date_le_of_le
  · intro ordered
    rcases Int.lt_or_eq_of_le ordered with earlier | same
    · exact Or.inl earlier
    · exact Or.inr ⟨Date.dayNumber_injective same, Nat.zero_le _⟩

end Moment

/-- The moment as of which reminders are judged. -/
def Reference.moment (reference : Reference) : Moment := ⟨reference.today, reference.minuteOfDay⟩

/-- A reminder is for one fixed day. -/
def Reminder.Names (reminder : Reminder) (date : Date) : Prop :=
  Exists fun year => Exists fun month => Exists fun day =>
    reminder.pattern = .specific (.exact year) (.exact month) (.exact day) ∧
      date.Agrees (.exact year) (.exact month) (.exact day)

/-- The first moment at which a date is over: the minute after its window if that is still on the
day, and otherwise the beginning of the day after it. -/
def overFrom (window : Option TimeWindow) (date next : Date) : Moment :=
  match window with
  | some window => if window.finish < 1439 then ⟨date, window.finish + 1⟩ else ⟨next, 0⟩
  | none => ⟨next, 0⟩

/-- The moments as of which reminders can be judged: minutes of a day from which the calendar
reaches to the end of the lookahead. -/
structure Lookahead.Reaches (lookahead : Lookahead) (moment : Moment) : Prop where
  minute_lt : moment.minute < 1440
  isSome_end : (moment.date.addDays lookahead.days).isSome

/-- In the course of time a condition begins to hold at one moment and holds ever after.  The moment
is one as of which reminders can be judged, and it is not the first of these. -/
structure SwitchesOnAt (lookahead : Lookahead) (holds : Reference -> Prop) (start : Moment) :
    Prop where
  reaches : lookahead.Reaches start
  notFirst : Exists fun earlier : Moment => lookahead.Reaches earlier ∧ ¬ start ≤ earlier
  holds_iff : forall reference : Reference, lookahead.Reaches reference.moment ->
    (holds reference ↔ start ≤ reference.moment)

/-- The verdict on a reminder is to list it. -/
def Reminder.IsKept (reminder : Reminder) (lookahead : Lookahead) (reference : Reference) : Prop :=
  Exists fun verdict => reminder.evaluate reference lookahead = .ok verdict ∧ verdict.keep = true

/-- The verdict on a reminder is that it is overdue. -/
def Reminder.IsOverdue (reminder : Reminder) (lookahead : Lookahead) (reference : Reference) :
    Prop :=
  Exists fun verdict => reminder.evaluate reference lookahead = .ok verdict ∧ verdict.overdue = true

/-- A window that closes before midnight sets a moment of its own day, and otherwise the day after
it begins with the moment. -/
theorem overFrom_bounds (window : Option TimeWindow) (date next : Date) :
    (overFrom window date next).minute < 1440 ∧
      ((overFrom window date next).date = date ∨ (overFrom window date next).date = next) := by
  cases window with
  | none => exact ⟨Nat.zero_lt_succ _, Or.inr rfl⟩
  | some window =>
      rw [overFrom]
      split
      · next closesEarly => exact ⟨Nat.succ_lt_succ closesEarly, Or.inl rfl⟩
      · exact ⟨Nat.zero_lt_succ _, Or.inr rfl⟩

/-! ## Dates that are over -/

namespace Reference

theorem today_le_of_le {earlier later : Reference} (ordered : earlier.moment ≤ later.moment) :
    earlier.today.dayNumber ≤ later.today.dayNumber := by
  have days := Moment.date_le_of_le ordered
  exact days

variable {reference : Reference} {window : Option TimeWindow} {date : Date}

theorem isOver_eq_true_iff :
    reference.isOver window date = true ↔
      date < reference.today ∨ date = reference.today ∧ reference.windowIsPast window = true := by
  simp only [isOver, Bool.or_eq_true, Bool.and_eq_true, decide_eq_true_eq, beq_iff_eq]

/-- Only a date that has come can be over. -/
theorem le_today_of_isOver (isOver : reference.isOver window date = true) :
    date.dayNumber ≤ reference.today.dayNumber := by
  rcases isOver_eq_true_iff.mp isOver with past | ⟨same, -⟩
  · exact Int.le_of_lt past
  · exact Int.le_of_eq (congrArg Date.dayNumber same)

/-- What is over stays over. -/
theorem isOver_of_le {later : Reference} (ordered : reference.moment ≤ later.moment)
    (isOver : reference.isOver window date = true) : later.isOver window date = true := by
  rw [isOver_eq_true_iff] at isOver ⊢
  rcases ordered with earlierDay | ⟨sameDay, earlierMinute⟩
  · left
    rcases isOver with past | ⟨same, -⟩
    · exact Int.lt_trans past earlierDay
    · rw [same]
      exact earlierDay
  · change reference.today = later.today at sameDay
    rw [← sameDay]
    refine isOver.imp_right fun closed => ⟨closed.1, ?_⟩
    cases window with
    | none => cases closed.2
    | some window =>
        have past : window.finish < reference.minuteOfDay := of_decide_eq_true closed.2
        exact decide_eq_true (Nat.lt_of_lt_of_le past earlierMinute)

/-- A date is over from the moment on that its window sets, or else from the day after it on. -/
theorem isOver_iff_overFrom_le {next : Date} (isNext : date.addDays 1 = some next)
    (minute_lt : reference.minuteOfDay < 1440) :
    reference.isOver window date = true ↔ overFrom window date next ≤ reference.moment := by
  have following := Date.dayNumber_of_addDays isNext
  -- Without a window that closes before midnight the date is over when its day has passed.
  have atMidnight : (⟨next, 0⟩ : Moment) ≤ reference.moment ↔ date < reference.today := by
    rw [Moment.midnight_le_iff, following]
    exact Iff.rfl
  rw [isOver_eq_true_iff]
  cases window with
  | none =>
      rw [overFrom, atMidnight]
      simp only [windowIsPast, Option.any_none, Bool.false_eq_true, and_false, or_false]
  | some window =>
      have isPast : reference.windowIsPast (some window) = true ↔
          window.finish < reference.minuteOfDay := decide_eq_true_iff
      rw [isPast, overFrom]
      split
      · exact Iff.rfl
      · next closesLate =>
          have stillOpen : ¬ window.finish < reference.minuteOfDay := by omega
          simp only [stillOpen, and_false, or_false, atMidnight]

end Reference

/-! ## Verdicts on fixed dates -/

namespace Verdict.IsFor

variable {verdict : Verdict} {reference : Reference} {lookahead : Lookahead}
  {window : Option TimeWindow} {date : Date}

theorem overdue_iff_isOver (isFor : verdict.IsFor reference lookahead window false date) :
    verdict.overdue = true ↔ reference.isOver window date = true := by
  rw [isFor.overdue_eq, Bool.not_false, Bool.true_and]

/-- A fixed date is kept as soon as the lookahead reaches it: behind today it is over, and from
today on it is covered. -/
theorem keep_iff_le (isFor : verdict.IsFor reference lookahead window false date) :
    verdict.keep = true ↔ date.dayNumber ≤ reference.today.dayNumber + lookahead.days := by
  rw [isFor.keep_iff, isFor.overdue_iff_isOver]
  constructor
  · rintro (isOver | covered)
    · have := Reference.le_today_of_isOver isOver
      omega
    · exact covered.2
  · intro reached
    by_cases past : date < reference.today
    · exact Or.inl (Reference.isOver_eq_true_iff.mpr (Or.inl past))
    · exact Or.inr ⟨Int.not_lt.mp past, reached⟩

end Verdict.IsFor

section

variable {reminder : Reminder} {date : Date}

/-- A reminder for a fixed day has a verdict on that day wherever the calendar reaches to the end of
the lookahead. -/
theorem evaluate_of_names (named : reminder.Names date) {reference : Reference}
    {lookahead : Lookahead} (reaches : (reference.today.addDays lookahead.days).isSome) :
    Exists fun verdict : Verdict => reminder.evaluate reference lookahead = .ok verdict ∧
      verdict.IsFor reference lookahead reminder.window false date := by
  rcases named with ⟨year, month, day, pattern, agrees⟩
  rcases Option.isSome_iff_exists.mp reaches with ⟨horizon, reached⟩
  have resolved :
      completion reference.today (.exact year) (.exact month) (.exact day) = some date :=
    resolved_of_agrees rfl agrees
  unfold Reminder.evaluate
  rw [pattern]
  exact evaluateSpecific_of_completion_eq_some resolved reached

/-- Between two moments, and under lookaheads that do not shrink, a verdict on a fixed day is not
taken back. -/
theorem Verdict.IsFor.persists {first second : Verdict} {earlier later : Reference}
    {shorter longer : Lookahead} {window : Option TimeWindow}
    (ordered : earlier.moment ≤ later.moment) (growing : shorter.days ≤ longer.days)
    (isFirst : first.IsFor earlier shorter window false date)
    (isSecond : second.IsFor later longer window false date) :
    (first.keep = true -> second.keep = true) ∧
      (first.overdue = true -> second.overdue = true) := by
  rw [isFirst.keep_iff_le, isSecond.keep_iff_le, isFirst.overdue_iff_isOver,
    isSecond.overdue_iff_isOver]
  constructor
  · intro reached
    have := Reference.today_le_of_le ordered
    omega
  · exact Reference.isOver_of_le ordered

/-! ## The two moments -/

theorem isKept_iff_le (named : reminder.Names date) {lookahead : Lookahead} {reference : Reference}
    (reaches : (reference.today.addDays lookahead.days).isSome) :
    reminder.IsKept lookahead reference ↔
      date.dayNumber ≤ reference.today.dayNumber + lookahead.days := by
  rcases evaluate_of_names named reaches with ⟨verdict, judged, isFor⟩
  simp only [Reminder.IsKept, judged, Except.ok.injEq, exists_eq_left', isFor.keep_iff_le]

theorem isOverdue_iff_isOver (named : reminder.Names date) {lookahead : Lookahead}
    {reference : Reference} (reaches : (reference.today.addDays lookahead.days).isSome) :
    reminder.IsOverdue lookahead reference ↔ reference.isOver reminder.window date = true := by
  rcases evaluate_of_names named reaches with ⟨verdict, judged, isFor⟩
  simp only [Reminder.IsOverdue, judged, Except.ok.injEq, exists_eq_left', isFor.overdue_iff_isOver]

/-- The days around a date that was read from a line belong to the calendar. -/
theorem isSome_ofDayNumber_of_read {line : String} (found : Reminder.read line = some reminder)
    (named : reminder.Names date) {number : Int} (after : date.dayNumber - 31 ≤ number)
    (before : number ≤ date.dayNumber + 31) : (Date.ofDayNumber number).isSome := by
  rcases named with ⟨year, month, day, pattern, agrees⟩
  have bounds := (Reminder.inBounds_of_read found).1.pattern
  rw [pattern] at bounds
  have yearBounds : 2000 ≤ year.toNat ∧ year.toNat ≤ 2199 := bounds.1
  have sameYear := agrees.year year rfl
  rw [yearOfWord_of_lt (by omega)] at sameYear
  have within := date.dayNumber_bounds
  have notEarly := daysBeforeYear_mono (show 2000 ≤ date.year by omega)
  have notLate := daysBeforeYear_mono (show date.year + 1 ≤ 2200 by omega)
  have calendarStart : daysBeforeYear firstYear + 31 < daysBeforeYear 2000 := by decide
  have calendarEnd : daysBeforeYear 2200 + 31 ≤ daysBeforeYear (lastYear + 1) := by decide
  exact (Date.isSome_ofDayNumber_iff number).mpr ⟨by omega, by omega⟩

/-- Near its date a reminder that was read from a line has room for a switch. -/
theorem switchesOnAt_of_near {line : String} (found : Reminder.read line = some reminder)
    (named : reminder.Names date) {lookahead : Lookahead} {holds : Reference -> Prop}
    {start : Moment} (minute_lt : start.minute < 1440)
    (after : date.dayNumber - lookahead.days ≤ start.date.dayNumber)
    (before : start.date.dayNumber ≤ date.dayNumber + 1)
    (holds_iff : forall reference : Reference, lookahead.Reaches reference.moment ->
      (holds reference ↔ start ≤ reference.moment)) : SwitchesOnAt lookahead holds start := by
  have within := lookahead.within_week
  have dayBefore : (Date.ofDayNumber (start.date.dayNumber - 1)).isSome :=
    isSome_ofDayNumber_of_read found named (by omega) (by omega)
  rcases Option.isSome_iff_exists.mp dayBefore with ⟨yesterday, isYesterday⟩
  have preceding := Date.dayNumber_of_ofDayNumber isYesterday
  have reaches : (start.date.addDays lookahead.days).isSome :=
    isSome_ofDayNumber_of_read found named (by omega) (by omega)
  have yesterdayReaches : (yesterday.addDays lookahead.days).isSome :=
    isSome_ofDayNumber_of_read found named (by omega) (by omega)
  refine ⟨⟨minute_lt, reaches⟩, ⟨⟨yesterday, 0⟩, ⟨Nat.zero_lt_succ _, yesterdayReaches⟩, ?_⟩,
    holds_iff⟩
  intro ordered
  have days := Moment.date_le_of_le ordered
  simp only at days
  omega

/-- A reminder that was read from a line is listed from the day on that is a lookahead ahead of its
date. -/
theorem isKept_switchesOnAt {line : String} (found : Reminder.read line = some reminder)
    (named : reminder.Names date) {lookahead : Lookahead} {shown : Date}
    (isShown : date.addDays (-lookahead.days) = some shown) :
    SwitchesOnAt lookahead (reminder.IsKept lookahead) ⟨shown, 0⟩ := by
  have ahead := Date.dayNumber_of_addDays isShown
  refine switchesOnAt_of_near found named (Nat.zero_lt_succ _) ?_ ?_ ?_
  · show date.dayNumber - lookahead.days ≤ shown.dayNumber
    omega
  · show shown.dayNumber ≤ date.dayNumber + 1
    omega
  · intro reference reaches
    rw [isKept_iff_le named reaches.isSome_end, Moment.midnight_le_iff]
    show _ ↔ shown.dayNumber ≤ reference.today.dayNumber
    omega

/-- A reminder that was read from a line is overdue from the moment on at which its date is over. -/
theorem isOverdue_switchesOnAt {line : String} (found : Reminder.read line = some reminder)
    (named : reminder.Names date) (lookahead : Lookahead) {next : Date}
    (isNext : date.addDays 1 = some next) :
    SwitchesOnAt lookahead (reminder.IsOverdue lookahead) (overFrom reminder.window date next) := by
  have following := Date.dayNumber_of_addDays isNext
  rcases overFrom_bounds reminder.window date next with ⟨minute_lt, onDay⟩
  have near : date.dayNumber ≤ (overFrom reminder.window date next).date.dayNumber ∧
      (overFrom reminder.window date next).date.dayNumber ≤ date.dayNumber + 1 := by
    rcases onDay with isDate | isNextDay
    · rw [isDate]
      omega
    · rw [isNextDay]
      omega
  refine switchesOnAt_of_near found named minute_lt (by omega) near.2 ?_
  intro reference reaches
  exact (isOverdue_iff_isOver named reaches.isSome_end).trans
    (Reference.isOver_iff_overFrom_le isNext reaches.minute_lt)

end

/-- Once a reminder for a fixed day has been listed it is listed ever after, and likewise once it is
overdue; what is overdue is listed, and always under its own date.  A reminder that was read from a
line is listed from the day on that is a lookahead ahead of its date, and overdue from the moment on
at which the date is over. -/
theorem fixed_date_stays_listed (reminder : Reminder) (date : Date) (named : reminder.Names date) :
    (forall (earlier later : Reference) (shorter longer : Lookahead),
      earlier.moment ≤ later.moment -> shorter.days ≤ longer.days ->
      (later.today.addDays longer.days).isSome ->
      Exists fun first : Verdict => Exists fun second : Verdict =>
        reminder.evaluate earlier shorter = .ok first ∧
          reminder.evaluate later longer = .ok second ∧
          (first.keep = true -> second.keep = true) ∧
          (first.overdue = true -> second.overdue = true) ∧
          (first.overdue = true -> first.keep = true) ∧
          (second.overdue = true -> second.keep = true) ∧
          first.displayDate = date ∧ second.displayDate = date) ∧
    (forall line, Reminder.read line = some reminder -> forall lookahead : Lookahead,
      Exists fun shown : Date => Exists fun next : Date =>
        date.addDays (-lookahead.days) = some shown ∧ date.addDays 1 = some next ∧
          SwitchesOnAt lookahead (reminder.IsKept lookahead) ⟨shown, 0⟩ ∧
          SwitchesOnAt lookahead (reminder.IsOverdue lookahead)
            (overFrom reminder.window date next)) := by
  constructor
  · intro earlier later shorter longer ordered growing reaches
    have laterDay := Reference.today_le_of_le ordered
    have reachesEarlier : (earlier.today.addDays shorter.days).isSome :=
      Date.isSome_addDays_of_earlier (by omega) (by omega) reaches
    rcases evaluate_of_names named reachesEarlier with ⟨first, judgedFirst, isFirst⟩
    rcases evaluate_of_names named reaches with ⟨second, judgedSecond, isSecond⟩
    rcases isFirst.persists ordered growing isSecond with ⟨keepStays, overdueStays⟩
    exact ⟨first, second, judgedFirst, judgedSecond, keepStays, overdueStays,
      fun overdue => isFirst.keep_iff.mpr (Or.inl overdue),
      fun overdue => isSecond.keep_iff.mpr (Or.inl overdue),
      isFirst.displayDate_eq, isSecond.displayDate_eq⟩
  · intro line found lookahead
    have within := lookahead.within_week
    have shownExists : (date.addDays (-lookahead.days)).isSome :=
      isSome_ofDayNumber_of_read found named (by omega) (by omega)
    have nextExists : (date.addDays 1).isSome :=
      isSome_ofDayNumber_of_read found named (by omega) (by omega)
    rcases Option.isSome_iff_exists.mp shownExists with ⟨shown, isShown⟩
    rcases Option.isSome_iff_exists.mp nextExists with ⟨next, isNext⟩
    exact ⟨shown, next, isShown, isNext, isKept_switchesOnAt found named isShown,
      isOverdue_switchesOnAt found named lookahead isNext⟩

/-- A window to the last minute of the year keeps its reminder from being overdue for the rest of
the day, so the reminder turns overdue with the new year. -/
theorem fireworks_stay_listed :
    let reminder : Reminder := ⟨1, .specific (.exact 2021) (.exact 12) (.exact 31),
      some ⟨1380, 1439⟩, "Fireworks", "1 2021.12.31:2300-2359 Fireworks"⟩
    let date : Date := ⟨2021, 12, 31, by decide, by decide⟩
    let newYear : Date := ⟨2022, 1, 1, by decide, by decide⟩
    let shown : Date := ⟨2021, 12, 28, by decide, by decide⟩
    let earlier : Reference := ⟨date, 1439, 52⟩
    let later : Reference := ⟨newYear, 0, 52⟩
    reminder.Names date ∧ earlier.moment ≤ later.moment ∧
      (Exists fun first : Verdict => Exists fun second : Verdict =>
        reminder.evaluate earlier ⟨3, by decide⟩ = .ok first ∧
          reminder.evaluate later ⟨4, by decide⟩ = .ok second ∧
          (first.keep = true -> second.keep = true) ∧
          (first.overdue = true -> second.overdue = true)) ∧
      SwitchesOnAt ⟨3, by decide⟩ (reminder.IsKept ⟨3, by decide⟩) ⟨shown, 0⟩ ∧
      SwitchesOnAt ⟨3, by decide⟩ (reminder.IsOverdue ⟨3, by decide⟩) ⟨newYear, 0⟩ := by
  intro reminder date newYear shown earlier later
  have named : reminder.Names date := by
    refine ⟨2021, 12, 31, rfl, ?_, ?_, ?_⟩
    · rintro word ⟨⟩
      decide
    · rintro word ⟨⟩
      decide
    · rintro word ⟨⟩
      decide
  have ordered : earlier.moment ≤ later.moment := by decide
  rcases fixed_date_stays_listed reminder date named with ⟨persists, switches⟩
  rcases persists earlier later ⟨3, by decide⟩ ⟨4, by decide⟩ ordered (by decide) (by decide) with
    ⟨first, second, judgedFirst, judgedSecond, keepStays, overdueStays, -⟩
  rcases switches "1 2021.12.31:2300-2359 Fireworks" (by rfl) ⟨3, by decide⟩ with
    ⟨firstDay, next, isFirstDay, isNext, keptFrom, overdueFrom⟩
  have sameFirstDay : shown = firstDay :=
    Option.some.inj ((show date.addDays (-3) = some shown by decide).symm.trans isFirstDay)
  have sameNext : newYear = next :=
    Option.some.inj ((show date.addDays 1 = some newYear by decide).symm.trans isNext)
  rw [← sameFirstDay] at keptFrom
  rw [← sameNext] at overdueFrom
  exact ⟨named, ordered, ⟨first, second, judgedFirst, judgedSecond, keepStays, overdueStays⟩,
    keptFrom, overdueFrom⟩

end Reminders
