import Antares.Data.Calendar

/-! The weeks of a calendar and the first days of its months. -/

set_option autoImplicit false

namespace Antares.Data

def DayOfTheWeek.index : DayOfTheWeek → Nat
  | monday => 0
  | tuesday => 1
  | wednesday => 2
  | thursday => 3
  | friday => 4
  | saturday => 5
  | sunday => 6

variable (day weekFirstDay : DayOfTheWeek)

/-- How many days of the current week are over, when weeks start on a given day. -/
def DayOfTheWeek.since : Nat := (day.index + 7 - weekFirstDay.index) % 7

theorem DayOfTheWeek.since_lt : day.since weekFirstDay < 7 :=
  Nat.mod_lt _ (by decide)

theorem DayOfTheWeek.since_next :
    if day.next = weekFirstDay then day.since weekFirstDay = 6 ∧ day.next.since weekFirstDay = 0
    else day.next.since weekFirstDay = day.since weekFirstDay + 1 := by
  cases day <;> cases weekFirstDay <;> decide

theorem DayOfTheWeek.since_previous :
    day.previous.since weekFirstDay = (day.since weekFirstDay + 6) % 7 := by
  cases day <;> cases weekFirstDay <;> decide

namespace Calendar

section Weeks
variable {settings : Settings} {pass : Pass}

/-- Weeks are counted in sevens from the weekday the year starts with. -/
structure Pass.Weeks (settings : Settings) (pass : Pass) : Prop where
  current : 7 * pass.currentWeek + pass.weekday.since settings.weekFirstDay =
    pass.dayYear + (firstWeekday settings).since settings.weekFirstDay
  days : ∀ day ≤ pass.dayYear,
    (pass.calendar.days day).week = (day + (firstWeekday settings).since settings.weekFirstDay) / 7
  hours : ∀ hour < pass.hourYear,
    (pass.calendar.hours hour).week = (hour / 24 + (firstWeekday settings).since settings.weekFirstDay) / 7

theorem Pass.Weeks.currentWeek_eq (weeks : pass.Weeks settings) :
    pass.currentWeek = (pass.dayYear + (firstWeekday settings).since settings.weekFirstDay) / 7 := by
  have current := weeks.current
  have offset := pass.weekday.since_lt settings.weekFirstDay
  omega

theorem Pass.Weeks.init : (Pass.init settings).Weeks settings where
  current := by simp [Pass.init]
  days day within := by
    have untouched (months : Nat) : ∀ calendar : Calendar,
        ((List.range months).foldl (resetMonth settings) calendar).days = calendar.days := by
      induction months with
      | zero => exact fun _ => rfl
      | succ months ih =>
        intro calendar
        rw [List.range_succ, List.foldl_append, List.foldl_cons, List.foldl_nil, resetMonth_days, ih]
    have months : (resetMonths settings).days = zero.days := by
      unfold resetMonths
      split <;> exact untouched 13 zero
    have offset := (firstWeekday settings).since_lt settings.weekFirstDay
    obtain rfl : day = 0 := Nat.le_zero.mp within
    rw [Nat.zero_add, Nat.div_eq_of_lt offset]
    simp [Pass.init, modifyMonth_days, modifyDay, months, zero]
  hours hour earlier := absurd earlier (Nat.not_lt_zero hour)

theorem Pass.turnMonth_week (pass : Pass) : pass.turnMonth.calendar.days = pass.calendar.days ∧
    pass.turnMonth.weekday = pass.weekday ∧ pass.turnMonth.currentWeek = pass.currentWeek ∧
    pass.turnMonth.dayYear = pass.dayYear := by
  unfold turnMonth
  split <;> exact ⟨rfl, rfl, rfl, rfl⟩

theorem Pass.turnDay_week (pass : Pass) (day : Nat) :
    (pass.markFirstHour.turnDay.calendar.days day).week = (pass.calendar.days day).week := by
  simp only [turnDay, markFirstHour, modifyDay, modifyHour_days, Function.update_apply]
  split_ifs <;> simp_all

theorem Pass.turnWeek_week (pass : Pass) :
    (pass.turnWeek settings).calendar.days = pass.calendar.days ∧ (pass.turnWeek settings).dayYear = pass.dayYear ∧
      7 * (pass.turnWeek settings).currentWeek + (pass.turnWeek settings).weekday.since settings.weekFirstDay =
        7 * pass.currentWeek + pass.weekday.since settings.weekFirstDay + 1 := by
  have rotation := pass.weekday.since_next settings.weekFirstDay
  unfold turnWeek
  split
  case isTrue first =>
    rw [if_pos first] at rotation
    refine ⟨rfl, rfl, ?_⟩
    simp only [startWeek]
    omega
  case isFalse within =>
    rw [if_neg within] at rotation
    refine ⟨rfl, rfl, ?_⟩
    dsimp only
    omega

theorem Pass.Weeks.startDay (weeks : pass.Weeks settings) (started : 0 < pass.hourYear) :
    (pass.startDay settings).Weeks settings := by
  have same : Pass.SameNumbers _ (pass.startDay settings) := startDay_sameNumbers started
  obtain ⟨monthDays, monthWeekday, monthWeek, monthDay⟩ := pass.markFirstHour.turnDay.turnMonth_week
  obtain ⟨weekDays, weekDay, count⟩ := @Pass.turnWeek_week settings pass.markFirstHour.turnDay.turnMonth
  have current := weeks.current
  have next : pass.markFirstHour.turnDay.dayYear = pass.dayYear + 1 := rfl
  have weekday : pass.markFirstHour.turnDay.weekday = pass.weekday := rfl
  have week : pass.markFirstHour.turnDay.currentWeek = pass.currentWeek := rfl
  rw [monthDay, next] at weekDay
  rw [monthWeekday, monthWeek, weekday, week, current] at count
  have described : (pass.startDay settings) = (pass.markFirstHour.turnDay.turnMonth.turnWeek settings).describeDay :=
    if_pos started
  have counted : 7 * (pass.startDay settings).currentWeek + (pass.startDay settings).weekday.since settings.weekFirstDay =
      (pass.startDay settings).dayYear + (firstWeekday settings).since settings.weekFirstDay := by
    rw [described]
    change _ = (pass.markFirstHour.turnDay.turnMonth.turnWeek settings).dayYear + _
    rw [weekDay]
    exact count.trans (by omega)
  refine ⟨counted, fun day within => ?_, fun hour earlier => ?_⟩
  · have offset := (pass.startDay settings).weekday.since_lt settings.weekFirstDay
    have today : (pass.startDay settings).dayYear = pass.dayYear + 1 := by
      rw [described]
      exact weekDay
    by_cases here : day = pass.dayYear + 1
    · have itself : ((pass.startDay settings).calendar.days day).week = (pass.startDay settings).currentWeek := by
        rw [described]
        simp only [Pass.describeDay, weekDay, here, modifyDay_days_self]
      omega
    · have apart : day ≠ (pass.markFirstHour.turnDay.turnMonth.turnWeek settings).dayYear := by
        rw [weekDay]
        exact here
      have kept : ((pass.startDay settings).calendar.days day).week = (pass.calendar.days day).week := by
        rw [described, Pass.describeDay, modifyDay_days_of_ne apart, weekDays, monthDays]
        exact pass.turnDay_week day
      rw [kept]
      exact weeks.days day (by omega)
  · have before : hour < pass.hourYear := same.hourYear ▸ earlier
    rw [same.hours hour before]
    exact weeks.hours hour before

theorem Pass.Weeks.describeHour {hours : Nat} (weeks : pass.Weeks settings) (numbered : pass.Numbered hours)
    (room : pass.hourDay < 24) :
    ({ pass.describeHour with hourYear := pass.hourYear + 1, hourDay := pass.hourDay + 1 } : Pass).Weeks settings := by
  have split := numbered.split
  have now := numbered.hourYear
  refine ⟨weeks.current, weeks.days, fun hour earlier => ?_⟩
  by_cases same : hour = pass.hourYear
  · have today : pass.hourYear / 24 = pass.dayYear := by omega
    rw [same, today]
    simp only [Pass.describeHour, modifyHour_hours_self]
    exact weeks.currentWeek_eq
  · simp only [Pass.describeHour, modifyHour_hours_of_ne same]
    exact weeks.hours hour (Nat.lt_of_le_of_ne (Nat.le_of_lt_succ earlier) same)

theorem Pass.Weeks.step {hours : Nat} (weeks : pass.Weeks settings) (numbered : pass.Numbered hours) :
    (pass.step settings).Weeks settings := by
  have split := numbered.split
  have hourDay := numbered.hourDay
  unfold Pass.step
  split
  case isTrue full =>
    -- a day that is full has hours before it
    have started : 0 < pass.hourYear := by
      have now := numbered.hourYear
      omega
    have same : Pass.SameNumbers _ (pass.startDay settings) := startDay_sameNumbers started
    refine (weeks.startDay started).describeHour ((numbered.turnDay (by omega)).congr same) ?_
    rw [same.hourDay]
    simp [Pass.turnDay]
  case isFalse room => exact weeks.describeHour numbered (by omega)

theorem Pass.after_weeks (hours : Nat) : (Pass.after settings hours).Weeks settings := by
  induction hours with
  | zero => exact .init
  | succ hours ih => exact ih.step (Pass.after_numbered settings hours)

theorem Pass.finalMarks_week (pass : Pass) (day : Nat) :
    (pass.finalMarks.days day).week = (pass.calendar.days day).week := by
  simp only [Pass.finalMarks, modifyMonth_days, modifyWeek_days, modifyDay, Function.update_apply]
  split_ifs <;> simp_all

variable (settings)

def weekOffset : Nat := (firstWeekday settings).since settings.weekFirstDay

theorem weekOffset_lt : weekOffset settings < 7 := DayOfTheWeek.since_lt _ _

theorem reset_days_week {day : Nat} (within : day < maxDaysInYear) :
    ((reset settings).days day).week = (day + weekOffset settings) / 7 := by
  have numbered := Pass.after_numbered settings maxHoursInYear
  have split := numbered.split
  have hourDay := numbered.hourDay
  unfold maxDaysInYear at within
  rw [reset, Pass.finalMarks_week]
  refine (@Pass.after_weeks settings maxHoursInYear).days day ?_
  unfold maxHoursInYear at split hourDay ⊢
  omega

theorem reset_hours_week {hour : Nat} (within : hour < maxHoursInYear) :
    ((reset settings).hours hour).week = (hour / 24 + weekOffset settings) / 7 :=
  (@Pass.after_weeks settings maxHoursInYear).hours hour
    (lt_of_lt_of_eq within (Pass.after_numbered settings maxHoursInYear).hourYear.symm)

theorem reset_days_week_lt {day : Nat} (within : day < 365) : ((reset settings).days day).week < 53 := by
  have offset := weekOffset_lt settings
  rw [reset_days_week settings (by unfold maxDaysInYear; omega)]
  omega

end Weeks

section Months
variable {settings : Settings} {pass : Pass}

def Pass.Started (settings : Settings) (pass : Pass) : Prop :=
  ∀ month ≤ pass.currentMonth, (pass.calendar.months month).daysYear.first = daysBefore settings month

theorem Pass.init_started : (Pass.init settings).Started settings := by
  have checked : ∀ leap : Bool, ∀ first : Fin 12,
      ((resetMonths ⟨.monday, .monday, first, first.isLt, leap⟩).months 0).daysYear.first = 0 := by
    decide +kernel
  intro month started
  obtain rfl : month = 0 := Nat.le_zero.mp started
  have zero := checked settings.leapYear ⟨settings.firstMonth, settings.firstMonth_lt⟩
  rw [show (⟨.monday, .monday, settings.firstMonth, settings.firstMonth_lt, settings.leapYear⟩ : Settings) =
    settings.months from rfl, resetMonths_months] at zero
  simpa [Pass.init, modifyMonth, modifyDay, daysBefore] using zero

theorem Pass.Started.startDay (begun : pass.Started settings) (dates : pass.Dates settings)
    (within : pass.dayYear + 1 < maxDaysInYear) : (pass.startDay settings).Started settings := by
  by_cases started : 0 < pass.hourYear
  · have date := dates.startDay_current started within
    have days := dates.monthDays pass.currentMonth
    have today := dates.current
    rw [Pass.startDay, if_pos started] at date ⊢
    have weeks (pass : Pass) : ((pass.turnWeek settings).describeDay.calendar.months = pass.calendar.months) ∧
        (pass.turnWeek settings).describeDay.currentMonth = pass.currentMonth := by
      unfold Pass.turnWeek
      split <;> exact ⟨rfl, rfl⟩
    intro month inYear
    rw [(weeks _).2] at inYear
    rw [(weeks _).1]
    unfold Pass.turnMonth at inYear ⊢
    split at inYear
    case isFalse room =>
      rw [if_neg room]
      exact begun month inYear
    case isTrue full =>
      rw [if_pos full]
      have past : monthDays settings pass.currentMonth ≤ pass.dayMonth + 1 := days ▸ full
      have next := daysBefore_succ settings pass.currentMonth
      have dayMonth := today.dayMonth_lt
      have dayYear := today.dayYear_eq
      by_cases same : month = pass.currentMonth + 1
      · subst same
        have first : (((pass.markFirstHour.turnDay).startMonth).calendar.months (pass.currentMonth + 1)).daysYear.first =
            pass.dayYear + 1 := by
          simp [Pass.startMonth, modifyMonth, Pass.turnDay, Pass.markFirstHour]
        rw [first]
        omega
      · have earlier : month ≤ pass.currentMonth := by
          change month ≤ pass.currentMonth + 1 at inYear
          omega
        rw [← begun month earlier]
        simp only [Pass.startMonth, modifyMonth, modifyHour, Function.update_apply]
        split_ifs <;> simp_all [Pass.turnDay, Pass.markFirstHour, modifyDay, modifyHour]
  · rw [Pass.startDay, if_neg started]
    exact begun

theorem Pass.Started.step (begun : pass.Started settings) (dates : pass.Dates settings)
    (within : pass.dayYear + 1 < maxDaysInYear ∨ pass.hourDay < 24) : (pass.step settings).Started settings := by
  unfold Pass.step
  split
  case isTrue full => exact begun.startDay dates (by omega)
  case isFalse => exact begun

theorem Pass.after_started {hours : Nat} (within : hours ≤ maxHoursInYear) :
    (Pass.after settings hours).Started settings := by
  induction hours with
  | zero => exact Pass.init_started
  | succ hours ih =>
    have numbered := Pass.after_numbered settings hours
    have split := numbered.split
    have hourDay := numbered.hourDay
    refine (ih (Nat.le_of_succ_le within)).step (Pass.after_dates (Nat.le_of_succ_le within)) ?_
    simp only [maxHoursInYear, maxDaysInYear] at within ⊢
    omega

/-- The ends of the months that are over, and the first hours of those that have started. -/
structure Pass.Turned (settings : Settings) (pass : Pass) : Prop where
  firstHour : ∀ month ≤ pass.currentMonth, (pass.calendar.months month).hours.first = 24 * daysBefore settings month
  endDay : ∀ month < pass.currentMonth, (pass.calendar.months month).daysYear.end = daysBefore settings (month + 1)
  endHour : ∀ month < pass.currentMonth, (pass.calendar.months month).hours.end = 24 * daysBefore settings (month + 1)

theorem Pass.init_turned : (Pass.init settings).Turned settings where
  firstHour := by
    have checked : ∀ leap : Bool, ∀ first : Fin 12,
        ((resetMonths ⟨.monday, .monday, first, first.isLt, leap⟩).months 0).hours.first = 0 := by
      decide +kernel
    intro month started
    obtain rfl : month = 0 := Nat.le_zero.mp started
    have zero := checked settings.leapYear ⟨settings.firstMonth, settings.firstMonth_lt⟩
    rw [show (⟨.monday, .monday, settings.firstMonth, settings.firstMonth_lt, settings.leapYear⟩ : Settings) =
      settings.months from rfl, resetMonths_months] at zero
    simpa [Pass.init, modifyMonth, modifyDay, daysBefore] using zero
  endDay month before := absurd before (Nat.not_lt_zero month)
  endHour month before := absurd before (Nat.not_lt_zero month)

theorem Pass.Turned.startDay (turned : pass.Turned settings) (dates : pass.Dates settings)
    (full : pass.hourYear = 24 * (pass.dayYear + 1)) : (pass.startDay settings).Turned settings := by
  have days := dates.monthDays pass.currentMonth
  have today := dates.current
  rw [Pass.startDay, if_pos (by omega)]
  have weeks (pass : Pass) : ((pass.turnWeek settings).describeDay.calendar.months = pass.calendar.months) ∧
      (pass.turnWeek settings).describeDay.currentMonth = pass.currentMonth := by
    unfold Pass.turnWeek
    split <;> exact ⟨rfl, rfl⟩
  have months (pass other : Pass) (same : other.calendar.months = pass.calendar.months)
      (current : other.currentMonth = pass.currentMonth) (turned : pass.Turned settings) : other.Turned settings := by
    constructor <;> rw [same, current]
    · exact turned.firstHour
    · exact turned.endDay
    · exact turned.endHour
  apply months _ _ (weeks _).1 (weeks _).2
  unfold Pass.turnMonth
  split
  case isFalse => exact ⟨turned.firstHour, turned.endDay, turned.endHour⟩
  case isTrue turns =>
    have past : monthDays settings pass.currentMonth ≤ pass.dayMonth + 1 := days ▸ turns
    have next := daysBefore_succ settings pass.currentMonth
    have dayMonth := today.dayMonth_lt
    have dayYear := today.dayYear_eq
    have turn : daysBefore settings (pass.currentMonth + 1) = pass.dayYear + 1 := by omega
    -- the month that ends, the one that starts, and those before, which are left
    have ended : (((pass.markFirstHour.turnDay).startMonth).calendar.months pass.currentMonth).daysYear.end =
        pass.dayYear + 1 ∧ (((pass.markFirstHour.turnDay).startMonth).calendar.months pass.currentMonth).hours.end =
        pass.hourYear ∧ (((pass.markFirstHour.turnDay).startMonth).calendar.months pass.currentMonth).hours.first =
        (pass.calendar.months pass.currentMonth).hours.first := by
      simp [Pass.startMonth, modifyMonth, modifyHour, Pass.turnDay, Pass.markFirstHour, modifyDay]
    have begun : (((pass.markFirstHour.turnDay).startMonth).calendar.months (pass.currentMonth + 1)).hours.first =
        pass.hourYear := by
      simp [Pass.startMonth, modifyMonth, Pass.turnDay, Pass.markFirstHour]
    have earlier (month : Nat) (before : month < pass.currentMonth) :
        ((pass.markFirstHour.turnDay).startMonth).calendar.months month = pass.calendar.months month := by
      have apart : month ≠ pass.currentMonth := by omega
      have other : month ≠ pass.currentMonth + 1 := by omega
      simp [Pass.startMonth, modifyMonth, modifyHour, Pass.turnDay, Pass.markFirstHour, modifyDay, apart, other]
    constructor
    · intro month started
      change month ≤ pass.currentMonth + 1 at started
      rcases Nat.lt_or_eq_of_le started with before | rfl
      · rcases Nat.lt_or_eq_of_le (Nat.le_of_lt_succ before) with before | rfl
        · rw [earlier month before]
          exact turned.firstHour month (Nat.le_of_lt before)
        · rw [ended.2.2]
          exact turned.firstHour _ (Nat.le_refl _)
      · rw [begun, turn, full]
    · intro month later
      change month < pass.currentMonth + 1 at later
      rcases Nat.lt_or_eq_of_le (Nat.le_of_lt_succ later) with before | rfl
      · rw [earlier month before]
        exact turned.endDay month before
      · rw [ended.1, turn]
    · intro month later
      change month < pass.currentMonth + 1 at later
      rcases Nat.lt_or_eq_of_le (Nat.le_of_lt_succ later) with before | rfl
      · rw [earlier month before]
        exact turned.endHour month before
      · rw [ended.2.1, turn, full]

theorem Pass.after_turned {hours : Nat} (within : hours ≤ maxHoursInYear) :
    (Pass.after settings hours).Turned settings := by
  induction hours with
  | zero => exact Pass.init_turned
  | succ hours ih =>
    have numbered := Pass.after_numbered settings hours
    have split := numbered.split
    have hourYear := numbered.hourYear
    have hourDay := numbered.hourDay
    have before := ih (Nat.le_of_succ_le within)
    have dates := @Pass.after_dates settings hours (Nat.le_of_succ_le within)
    change ((Pass.after settings hours).step settings).Turned settings
    unfold Pass.step
    split
    case isTrue full =>
      have started := before.startDay dates (by omega)
      exact ⟨started.firstHour, started.endDay, started.endHour⟩
    case isFalse => exact ⟨before.firstHour, before.endDay, before.endHour⟩

theorem Pass.finalMarks_months_of_ne (pass : Pass) {month : Nat} (apart : month ≠ pass.currentMonth) :
    pass.finalMarks.months month = pass.calendar.months month := by
  simp [Pass.finalMarks, modifyMonth, modifyWeek, modifyDay, apart]

theorem Pass.finalMarks_firstDay (pass : Pass) (month : Nat) :
    (pass.finalMarks.months month).daysYear.first = (pass.calendar.months month).daysYear.first := by
  simp only [Pass.finalMarks, modifyMonth, modifyWeek, modifyDay, Function.update_apply]
  split_ifs <;> simp_all

variable (settings)

theorem daysBefore_mono {earlier later : Nat} (before : earlier ≤ later) :
    daysBefore settings earlier ≤ daysBefore settings later := by
  induction before with
  | refl => exact Nat.le_refl _
  | step _ ih =>
    rw [Nat.succ_eq_add_one, daysBefore_succ]
    exact Nat.le_add_right_of_le ih

theorem Dated.month_eq {month dayMonth dayYear other : Nat} (dated : Dated settings month dayMonth dayYear)
    (from' : daysBefore settings other ≤ dayYear) (before : dayYear < daysBefore settings (other + 1)) :
    month = other := by
  have dayMonth_lt := dated.dayMonth_lt
  have dayYear_eq := dated.dayYear_eq
  have next := daysBefore_succ settings month
  rcases Nat.lt_trichotomy month other with earlier | same | later
  · have bound := daysBefore_mono settings (show month + 1 ≤ other from earlier)
    omega
  · exact same
  · have bound := daysBefore_mono settings (show other + 1 ≤ month from later)
    omega

theorem reset_months_first {month : Nat} (within : month < 12) :
    ((reset settings).months month).daysYear.first = daysBefore settings month := by
  have last := (@Pass.after_dates settings _ (Nat.le_refl maxHoursInYear)).current
  have numbered := Pass.after_numbered settings maxHoursInYear
  have split := numbered.split
  have hourDay := numbered.hourDay
  have year := daysBefore_twelve settings
  -- The last day of the calendar is in the twelfth or in the thirteenth month.
  have reached : month ≤ (Pass.after settings maxHoursInYear).currentMonth := by
    by_contra before
    have bound := daysBefore_mono settings (show (Pass.after settings maxHoursInYear).currentMonth + 1 ≤ 11 by omega)
    have next := daysBefore_succ settings (Pass.after settings maxHoursInYear).currentMonth
    have december : daysBefore settings 12 = _ := daysBefore_succ settings 11
    have length := (monthDays_bounds settings (show 11 < 13 by omega)).1
    have dayMonth_lt := last.dayMonth_lt
    have dayYear_eq := last.dayYear_eq
    have hours : maxHoursInYear = 24 * 366 := rfl
    split at year <;> omega
  rw [reset, Pass.finalMarks_firstDay]
  exact Pass.after_started (Nat.le_refl _) month reached

/-- In a common year a simulated month ends before the last day of the calendar, and its days and hours are those
between the ends of the month before and its own. -/
theorem reset_months_intervals (common : settings.leapYear = false) {month : Nat} (within : month < 12) :
    ((reset settings).months month).daysYear = ⟨daysBefore settings month, daysBefore settings (month + 1)⟩ ∧
      ((reset settings).months month).hours = ⟨24 * daysBefore settings month, 24 * daysBefore settings (month + 1)⟩ := by
  have last := (@Pass.after_dates settings _ (Nat.le_refl maxHoursInYear)).current
  have numbered := Pass.after_numbered settings maxHoursInYear
  have split := numbered.split
  have hourDay := numbered.hourDay
  have hours : maxHoursInYear = 24 * 366 := rfl
  have year : daysBefore settings 12 = 365 := by rw [daysBefore_twelve, common]; rfl
  have next := daysBefore_succ settings 12
  have some := (monthDays_bounds settings (show 12 < 13 by omega)).1
  -- the last day of the calendar is the first one of the thirteenth month
  have current : (Pass.after settings maxHoursInYear).currentMonth = 12 := last.month_eq settings (by omega) (by omega)
  have turned := @Pass.after_turned settings _ (Nat.le_refl maxHoursInYear)
  have first := reset_months_first settings within
  rw [reset, Pass.finalMarks_months_of_ne _ (by rw [current]; omega)] at first ⊢
  constructor
  · exact Interval.ext first (turned.endDay month (by omega))
  · exact Interval.ext (turned.firstHour month (by omega)) (turned.endHour month (by omega))

end Months

section Mapping
variable {settings : Settings} {pass : Pass}

theorem Pass.step_mappingMonths : (pass.step settings).calendar.mappingMonths = pass.calendar.mappingMonths := by
  have startDay : (pass.startDay settings).calendar.mappingMonths = pass.calendar.mappingMonths := by
    unfold Pass.startDay Pass.turnWeek Pass.turnMonth
    split_ifs <;> rfl
  unfold Pass.step
  split
  · exact startDay
  · rfl

theorem Pass.finalMarks_mappingMonths (pass : Pass) : pass.finalMarks.mappingMonths = pass.calendar.mappingMonths := rfl

theorem Pass.after_mappingMonths (hours : Nat) :
    (Pass.after settings hours).calendar.mappingMonths = (resetMonths settings).mappingMonths := by
  induction hours with
  | zero => rfl
  | succ hours ih => exact Pass.step_mappingMonths.trans ih

variable (settings)

theorem reset_mappingMonths {realmonth : Nat} (civil : realmonth < 12) :
    (reset settings).mappingMonths realmonth < 12 ∧
      ((reset settings).mappingMonths realmonth + settings.firstMonth) % 12 = realmonth := by
  have checked : ∀ leap : Bool, ∀ first realmonth : Fin 12,
      (resetMonths ⟨.monday, .monday, first, first.isLt, leap⟩).mappingMonths realmonth < 12 ∧
        ((resetMonths ⟨.monday, .monday, first, first.isLt, leap⟩).mappingMonths realmonth + first) % 12 =
          realmonth := by
    decide +kernel
  have mapping : (reset settings).mappingMonths = (resetMonths settings.months).mappingMonths := by
    rw [resetMonths_months, reset, Pass.finalMarks_mappingMonths, Pass.after_mappingMonths]
  rw [mapping]
  exact checked settings.leapYear ⟨settings.firstMonth, settings.firstMonth_lt⟩ ⟨realmonth, civil⟩

theorem mappingMonths_february : (reset settings).mappingMonths february = (13 - settings.firstMonth) % 12 := by
  obtain ⟨inYear, civil⟩ := reset_mappingMonths settings (show february < 12 by decide)
  have first := settings.firstMonth_lt
  generalize (reset settings).mappingMonths february = place at *
  have second : (place + settings.firstMonth) % 12 = 1 := civil
  omega

def Settings.withoutLeapDay : Settings := { settings with leapYear := false }

theorem daysBefore_leap {month : Nat} (within : month < 14) :
    daysBefore settings month = daysBefore settings.withoutLeapDay month +
      if settings.leapYear ∧ (reset settings).mappingMonths february < month then 1 else 0 := by
  have checked : ∀ leap : Bool, ∀ first : Fin 12, ∀ month : Fin 14,
      daysBefore ⟨.monday, .monday, first, first.isLt, leap⟩ month =
        daysBefore ⟨.monday, .monday, first, first.isLt, false⟩ month +
          if leap = true ∧ (13 - first.val) % 12 < month then 1 else 0 := by
    decide +kernel
  rw [mappingMonths_february, ← daysBefore_months settings, ← daysBefore_months settings.withoutLeapDay]
  exact checked settings.leapYear ⟨settings.firstMonth, settings.firstMonth_lt⟩ ⟨month, within⟩

def daysToJanuary : Nat :=
  (((List.range 12).filter fun month => settings.firstMonth ≤ month).map fun month =>
    ((resetMonths settings).months ((resetMonths settings).mappingMonths month)).days).sum

theorem daysToJanuary_leap : daysToJanuary settings = daysToJanuary settings.withoutLeapDay +
    if settings.leapYear ∧ settings.firstMonth ≤ february then 1 else 0 := by
  have checked : ∀ leap : Bool, ∀ first : Fin 12,
      daysToJanuary ⟨.monday, .monday, first, first.isLt, leap⟩ =
        daysToJanuary ⟨.monday, .monday, first, first.isLt, false⟩ + if leap = true ∧ first.val ≤ february then 1 else 0 := by
    decide +kernel
  have same (settings : Settings) : daysToJanuary settings = daysToJanuary settings.months := by
    unfold daysToJanuary
    rw [resetMonths_months]
    rfl
  rw [same settings, same settings.withoutLeapDay]
  exact checked settings.leapYear ⟨settings.firstMonth, settings.firstMonth_lt⟩

theorem weekOffset_leap : weekOffset settings =
    if settings.leapYear ∧ settings.firstMonth = february then (weekOffset settings.withoutLeapDay + 6) % 7
    else weekOffset settings.withoutLeapDay := by
  have weekday (settings : Settings) : firstWeekday settings =
      if settings.firstMonth ≠ january then DayOfTheWeek.previous^[daysToJanuary settings] settings.weekday1rstJanuary
      else settings.weekday1rstJanuary := rfl
  have days := daysToJanuary_leap settings
  have start : settings.withoutLeapDay.firstMonth = settings.firstMonth := rfl
  have first : settings.withoutLeapDay.weekday1rstJanuary = settings.weekday1rstJanuary := rfl
  have weekFirst : settings.withoutLeapDay.weekFirstDay = settings.weekFirstDay := rfl
  unfold weekOffset
  rw [weekday settings, weekday settings.withoutLeapDay, start, first, weekFirst]
  by_cases fromJanuary : settings.firstMonth = january
  · have notFebruary : settings.firstMonth ≠ february := by rw [fromJanuary]; decide
    rw [if_neg (not_not.mpr fromJanuary), if_neg (not_not.mpr fromJanuary), if_neg (fun both => notFebruary both.2)]
  · rw [if_pos fromJanuary, if_pos fromJanuary, days]
    unfold january at fromJanuary
    unfold february
    by_cases shifted : settings.leapYear = true ∧ settings.firstMonth = 1
    · rw [if_pos shifted, if_pos ⟨shifted.1, Nat.le_of_eq shifted.2⟩, Function.iterate_succ_apply', DayOfTheWeek.since_previous]
    · rw [if_neg shifted, if_neg fun both => shifted ⟨both.1, by omega⟩, Nat.add_zero]

end Mapping

end Calendar

end Antares.Data
