import Mathlib.Algebra.Order.Ring.Nat

/-! The calendar of a simulation: one pass over the hours of the year that numbers days, weeks and months as
it meets their first hour. The twelve simulated months take each civil month once, wherever the simulated
year starts.
-/

set_option autoImplicit false

namespace Antares.Data

inductive DayOfTheWeek where
  | monday
  | tuesday
  | wednesday
  | thursday
  | friday
  | saturday
  | sunday
  deriving DecidableEq, Repr

/-- `NextDayOfTheWeek` -/
def DayOfTheWeek.next : DayOfTheWeek → DayOfTheWeek
  | monday => tuesday
  | tuesday => wednesday
  | wednesday => thursday
  | thursday => friday
  | friday => saturday
  | saturday => sunday
  | sunday => monday

def DayOfTheWeek.previous : DayOfTheWeek → DayOfTheWeek
  | monday => sunday
  | tuesday => monday
  | wednesday => tuesday
  | thursday => wednesday
  | friday => thursday
  | saturday => friday
  | sunday => saturday

/-- `StandardDaysPerMonths`, from January. -/
def standardDaysPerMonths : Nat → Nat
  | 1 => 28
  | 3 | 5 | 8 | 10 => 30
  | _ => 31

def january : Nat := 0

theorem january_lt : january < 12 := by decide

def february : Nat := 1

/-- The hours or the days of a part of the year, the last one not included. -/
structure Interval where
  first : Nat
  «end» : Nat
  deriving DecidableEq, Repr

attribute [ext] Interval

def Interval.reset : Interval := ⟨0, 0⟩

structure HourOfYear where
  weekday : DayOfTheWeek
  dayYear : Nat
  dayMonth : Nat
  dayHour : Nat
  month : Nat
  week : Nat
  firstHourInDay : Bool
  firstHourInMonth : Bool

structure DayOfYear where
  weekday : DayOfTheWeek
  hours : Interval
  month : Nat
  dayMonth : Nat
  week : Nat

structure WeekOfYear where
  hours : Interval
  daysYear : Interval

structure MonthOfYear where
  hours : Interval
  days : Nat
  daysYear : Interval
  firstWeekday : DayOfTheWeek
  realmonth : Nat

structure Calendar where
  hours : Nat → HourOfYear
  days : Nat → DayOfYear
  weeks : Nat → WeekOfYear
  months : Nat → MonthOfYear
  /-- The place in the simulated year of each month of the civil one. -/
  mappingMonths : Nat → Nat

namespace Calendar

structure Settings where
  weekday1rstJanuary : DayOfTheWeek
  weekFirstDay : DayOfTheWeek
  firstMonth : Nat
  firstMonth_lt : firstMonth < 12
  leapYear : Bool

def maxHoursInYear : Nat := 24 * 366

def maxDaysInYear : Nat := 366

/-- The calendar after the calls of `memset`. -/
def zero : Calendar where
  hours _ := ⟨.monday, 0, 0, 0, 0, 0, false, false⟩
  days _ := ⟨.monday, .reset, 0, 0, 0⟩
  weeks _ := ⟨.reset, .reset⟩
  months _ := ⟨.reset, 0, .reset, .monday, 0⟩
  mappingMonths _ := 0

section Updates
variable (calendar : Calendar)

def modifyHour (hour : Nat) (change : HourOfYear → HourOfYear) : Calendar :=
  { calendar with hours := Function.update calendar.hours hour (change (calendar.hours hour)) }

def modifyDay (day : Nat) (change : DayOfYear → DayOfYear) : Calendar :=
  { calendar with days := Function.update calendar.days day (change (calendar.days day)) }

def modifyWeek (week : Nat) (change : WeekOfYear → WeekOfYear) : Calendar :=
  { calendar with weeks := Function.update calendar.weeks week (change (calendar.weeks week)) }

def modifyMonth (month : Nat) (change : MonthOfYear → MonthOfYear) : Calendar :=
  { calendar with months := Function.update calendar.months month (change (calendar.months month)) }

variable {calendar}

@[simp] theorem modifyWeek_hours (week : Nat) (change : WeekOfYear → WeekOfYear) :
    (calendar.modifyWeek week change).hours = calendar.hours := rfl

@[simp] theorem modifyWeek_days (week : Nat) (change : WeekOfYear → WeekOfYear) :
    (calendar.modifyWeek week change).days = calendar.days := rfl

@[simp] theorem modifyMonth_hours (month : Nat) (change : MonthOfYear → MonthOfYear) :
    (calendar.modifyMonth month change).hours = calendar.hours := rfl

@[simp] theorem modifyMonth_days (month : Nat) (change : MonthOfYear → MonthOfYear) :
    (calendar.modifyMonth month change).days = calendar.days := rfl

@[simp] theorem modifyDay_months (day : Nat) (change : DayOfYear → DayOfYear) :
    (calendar.modifyDay day change).months = calendar.months := rfl

variable (hour : Nat) (change : HourOfYear → HourOfYear)

@[simp] theorem modifyHour_months :
    (calendar.modifyHour hour change).months = calendar.months := rfl

@[simp] theorem modifyHour_days :
    (calendar.modifyHour hour change).days = calendar.days := rfl

@[simp] theorem modifyHour_hours_self :
    (calendar.modifyHour hour change).hours hour = change (calendar.hours hour) :=
  Function.update_self ..

theorem modifyHour_hours_of_ne {hour other : Nat} (apart : other ≠ hour) (change : HourOfYear → HourOfYear) :
    (calendar.modifyHour hour change).hours other = calendar.hours other :=
  Function.update_of_ne apart ..

@[simp] theorem modifyDay_hours (day : Nat) (change : DayOfYear → DayOfYear) :
    (calendar.modifyDay day change).hours = calendar.hours := rfl

@[simp] theorem modifyDay_days_self (day : Nat) (change : DayOfYear → DayOfYear) :
    (calendar.modifyDay day change).days day = change (calendar.days day) :=
  Function.update_self ..

theorem modifyDay_days_of_ne {day other : Nat} (apart : other ≠ day) (change : DayOfYear → DayOfYear) :
    (calendar.modifyDay day change).days other = calendar.days other :=
  Function.update_of_ne apart ..

end Updates

section Reset
variable (settings : Settings)

variable (calendar : Calendar)

/-- One of the thirteen months, the last of which starts the following year. -/
def resetMonth (month : Nat) : Calendar :=
  let realmonth := (month + settings.firstMonth) % 12
  let calendar :=
    if month < 12 then
      { calendar with mappingMonths := Function.update calendar.mappingMonths realmonth month }
    else calendar
  calendar.modifyMonth month fun info =>
    { info with days := standardDaysPerMonths realmonth, realmonth := realmonth }

def resetMonths : Calendar :=
  let calendar := (List.range 13).foldl (resetMonth settings) zero
  if settings.leapYear then
    calendar.modifyMonth (calendar.mappingMonths february) fun info => { info with days := info.days + 1 }
  else calendar

theorem resetMonth_days (month : Nat) :
    (resetMonth settings calendar month).days = calendar.days := by
  unfold resetMonth
  split <;> rfl

theorem resetMonths_days (day : Nat) : ((resetMonths settings).days day).hours.first = 0 := by
  have folded (months : List Nat) (calendar : Calendar) :
      (months.foldl (resetMonth settings) calendar).days = calendar.days := by
    induction months generalizing calendar with
    | nil => rfl
    | cons month months ih => rw [List.foldl_cons, ih, resetMonth_days]
  unfold resetMonths
  split <;> simp [folded, zero, Interval.reset]

/-- The weekday of the first day of the simulated year, counted back from the first of January. -/
def firstWeekday : DayOfTheWeek :=
  if settings.firstMonth ≠ january then
    let calendar := resetMonths settings
    let nbdays := ((List.range 12).filter fun month => settings.firstMonth ≤ month).map fun month =>
      (calendar.months (calendar.mappingMonths month)).days
    DayOfTheWeek.previous^[nbdays.sum] settings.weekday1rstJanuary
  else settings.weekday1rstJanuary

structure Pass where
  calendar : Calendar
  weekday : DayOfTheWeek
  hourYear : Nat
  hourDay : Nat
  dayYear : Nat
  dayMonth : Nat
  currentMonth : Nat
  currentWeek : Nat

def Pass.init : Pass where
  calendar :=
    ((resetMonths settings).modifyDay 0 fun info => { info with weekday := firstWeekday settings }).modifyMonth 0
      fun info => { info with firstWeekday := firstWeekday settings }
  weekday := firstWeekday settings
  hourYear := 0
  hourDay := 0
  dayYear := 0
  dayMonth := 0
  currentMonth := 0
  currentWeek := 0

variable (pass : Pass)

def Pass.startMonth : Pass :=
  let currentMonth := pass.currentMonth + 1
  { pass with
    calendar :=
      ((pass.calendar.modifyMonth pass.currentMonth fun info =>
        { info with
          daysYear := { info.daysYear with «end» := pass.dayYear }
          hours := { info.hours with «end» := pass.hourYear } }).modifyHour pass.hourYear fun info =>
        { info with firstHourInMonth := true }).modifyMonth currentMonth fun info =>
        { info with
          daysYear := ⟨pass.dayYear, pass.dayYear⟩
          hours := { info.hours with first := pass.hourYear }
          firstWeekday := pass.weekday.next }
    dayMonth := 0
    currentMonth := currentMonth }

/-- A new month, when the day that starts is past the last one of the current month. -/
def Pass.turnMonth : Pass :=
  if (pass.calendar.months pass.currentMonth).days ≤ pass.dayMonth then pass.startMonth else pass

def Pass.startWeek : Pass :=
  let currentWeek := pass.currentWeek + 1
  { pass with
    calendar :=
      (pass.calendar.modifyWeek pass.currentWeek fun info =>
        { info with
          hours := { info.hours with «end» := pass.hourYear }
          daysYear := { info.daysYear with «end» := pass.dayYear } }).modifyWeek currentWeek fun info =>
        { info with
          hours := { info.hours with first := pass.hourYear }
          daysYear := { info.daysYear with first := pass.dayYear } }
    currentWeek := currentWeek }

def Pass.turnWeek : Pass :=
  if pass.weekday.next = settings.weekFirstDay then ({ pass with weekday := pass.weekday.next } : Pass).startWeek
  else { pass with weekday := pass.weekday.next }

/-- What a new day starts with: the end of the day before and its own first hour. -/
def Pass.turnDay : Pass :=
  let dayYear := pass.dayYear + 1
  { pass with
    calendar :=
      (pass.calendar.modifyDay pass.dayYear fun info =>
        { info with hours := { info.hours with «end» := pass.hourYear } }).modifyDay dayYear fun info =>
        { info with hours := { info.hours with first := pass.hourYear } }
    dayYear := dayYear
    dayMonth := pass.dayMonth + 1 }

def Pass.describeDay : Pass :=
  { pass with
    calendar := pass.calendar.modifyDay pass.dayYear fun info =>
      { info with
        week := pass.currentWeek
        dayMonth := pass.dayMonth
        month := pass.currentMonth
        weekday := pass.weekday } }

def Pass.markFirstHour : Pass :=
  { pass with
    hourDay := 0
    calendar := pass.calendar.modifyHour pass.hourYear fun info => { info with firstHourInDay := true } }

def Pass.startDay : Pass :=
  if 0 < pass.hourYear then (pass.markFirstHour.turnDay.turnMonth.turnWeek settings).describeDay
  else pass.markFirstHour

def Pass.describeHour : Pass :=
  { pass with
    calendar := pass.calendar.modifyHour pass.hourYear fun info =>
      { info with
        weekday := pass.weekday
        dayYear := pass.dayYear
        dayMonth := pass.dayMonth
        month := pass.currentMonth
        week := pass.currentWeek
        dayHour := pass.hourDay } }

def Pass.step : Pass :=
  let pass := (if 24 ≤ pass.hourDay then pass.startDay settings else pass).describeHour
  { pass with hourYear := pass.hourYear + 1, hourDay := pass.hourDay + 1 }

def Pass.after : Nat → Pass
  | 0 => .init settings
  | hours + 1 => (Pass.after hours).step settings

def Pass.finalMarks : Calendar :=
  ((pass.calendar.modifyDay pass.dayYear fun info =>
    { info with hours := { info.hours with «end» := pass.hourYear } }).modifyWeek pass.currentWeek fun info =>
    { info with
      hours := { info.hours with «end» := pass.hourYear }
      daysYear := { info.daysYear with «end» := pass.dayYear } }).modifyMonth pass.currentMonth fun info =>
    { info with
      daysYear := { info.daysYear with «end» := pass.dayYear }
      hours := { info.hours with «end» := pass.hourYear } }

def reset : Calendar := (Pass.after settings maxHoursInYear).finalMarks

end Reset

section HoursAndDays
variable {settings : Settings} {pass : Pass}

structure Pass.Numbered (pass : Pass) (hours : Nat) : Prop where
  hourYear : pass.hourYear = hours
  hourDay : pass.hourDay ≤ 24
  split : 24 * pass.dayYear + pass.hourDay = hours
  first : ∀ day ≤ pass.dayYear, (pass.calendar.days day).hours.first = 24 * day
  «end» : ∀ day < pass.dayYear, (pass.calendar.days day).hours.end = 24 * (day + 1)
  dayYear : ∀ hour < hours, (pass.calendar.hours hour).dayYear = hour / 24
  dayHour : ∀ hour < hours, (pass.calendar.hours hour).dayHour = hour % 24

/-- The parts of a step that leave earlier hours, the hours of a day and the lengths of months. -/
structure Pass.SameNumbers (pass other : Pass) : Prop where
  hourYear : other.hourYear = pass.hourYear
  dayYear : other.dayYear = pass.dayYear
  hourDay : other.hourDay = pass.hourDay
  days : ∀ day, (other.calendar.days day).hours = (pass.calendar.days day).hours
  hours : ∀ hour < pass.hourYear, other.calendar.hours hour = pass.calendar.hours hour
  monthDays : ∀ month, (other.calendar.months month).days = (pass.calendar.months month).days

namespace Pass

theorem SameNumbers.refl (pass : Pass) : pass.SameNumbers pass :=
  ⟨rfl, rfl, rfl, fun _ => rfl, fun _ _ => rfl, fun _ => rfl⟩

theorem SameNumbers.trans {middle other : Pass} (before : pass.SameNumbers middle)
    (after : middle.SameNumbers other) : pass.SameNumbers other where
  hourYear := after.hourYear.trans before.hourYear
  dayYear := after.dayYear.trans before.dayYear
  hourDay := after.hourDay.trans before.hourDay
  days day := (after.days day).trans (before.days day)
  hours hour earlier := (after.hours hour (before.hourYear ▸ earlier)).trans (before.hours hour earlier)
  monthDays month := (after.monthDays month).trans (before.monthDays month)

theorem startMonth_sameNumbers : pass.SameNumbers pass.startMonth where
  hourYear := rfl
  dayYear := rfl
  hourDay := rfl
  days _ := rfl
  hours hour earlier := by
    simp only [startMonth, modifyMonth_hours]
    rw [modifyHour_hours_of_ne (Nat.ne_of_lt earlier), modifyMonth_hours]
  monthDays month := by
    simp only [startMonth, modifyMonth, modifyHour, Function.update_apply]
    split_ifs <;> simp_all

theorem startWeek_sameNumbers : pass.SameNumbers pass.startWeek :=
  ⟨rfl, rfl, rfl, fun _ => rfl, fun _ _ => rfl, fun _ => rfl⟩

theorem describeDay_sameNumbers : pass.SameNumbers pass.describeDay where
  hourYear := rfl
  dayYear := rfl
  hourDay := rfl
  days day := by
    by_cases same : day = pass.dayYear
    · simp [describeDay, same]
    · simp [describeDay, modifyDay_days_of_ne same]
  hours _ _ := rfl
  monthDays _ := rfl

theorem turnMonth_sameNumbers : pass.SameNumbers pass.turnMonth := by
  unfold turnMonth
  split
  · exact startMonth_sameNumbers
  · exact .refl pass

theorem turnWeek_sameNumbers : pass.SameNumbers (pass.turnWeek settings) := by
  have weekday : pass.SameNumbers { pass with weekday := pass.weekday.next } :=
    ⟨rfl, rfl, rfl, fun _ => rfl, fun _ _ => rfl, fun _ => rfl⟩
  unfold turnWeek
  split
  · exact weekday.trans startWeek_sameNumbers
  · exact weekday

theorem markFirstHour_turnDay_sameNumbers :
    ({ pass with hourDay := 0 } : Pass).turnDay.SameNumbers pass.markFirstHour.turnDay where
  hourYear := rfl
  dayYear := rfl
  hourDay := rfl
  days _ := rfl
  hours hour earlier := by
    have apart : hour ≠ pass.hourYear := Nat.ne_of_lt earlier
    simp only [turnDay, markFirstHour, modifyDay_hours, modifyHour_hours_of_ne apart]
  monthDays _ := rfl

theorem startDay_sameNumbers (started : 0 < pass.hourYear) :
    ({ pass with hourDay := 0 } : Pass).turnDay.SameNumbers (pass.startDay settings) := by
  rw [startDay, if_pos started]
  exact ((markFirstHour_turnDay_sameNumbers.trans turnMonth_sameNumbers).trans turnWeek_sameNumbers).trans
    describeDay_sameNumbers

theorem Numbered.turnDay {hours : Nat} (numbered : pass.Numbered hours) (full : pass.hourDay = 24) :
    ({ pass with hourDay := 0 } : Pass).turnDay.Numbered hours := by
  obtain ⟨hourYear, hourDay, split, first, «end», dayYear, dayHour⟩ := numbered
  have next : hours = 24 * (pass.dayYear + 1) := by omega
  refine ⟨hourYear, by simp [Pass.turnDay], by simp [Pass.turnDay, next], ?_, ?_, dayYear, dayHour⟩
  · intro day within
    by_cases same : day = pass.dayYear + 1
    · subst same
      simp [Pass.turnDay, hourYear, next]
    · have earlier : day ≤ pass.dayYear := by
        simp only [Pass.turnDay] at within
        omega
      simp only [Pass.turnDay, modifyDay_days_of_ne same]
      by_cases last : day = pass.dayYear
      · subst last
        simp [first]
      · rw [modifyDay_days_of_ne last, first day earlier]
  · intro day within
    have earlier : day ≤ pass.dayYear := by
      simp only [Pass.turnDay] at within
      omega
    have apart : day ≠ pass.dayYear + 1 := by omega
    simp only [Pass.turnDay, modifyDay_days_of_ne apart]
    by_cases last : day = pass.dayYear
    · subst last
      simp [hourYear, next]
    · rw [modifyDay_days_of_ne last, «end» day (by omega)]

theorem Numbered.congr {other : Pass} {hours : Nat} (numbered : pass.Numbered hours)
    (same : pass.SameNumbers other) : other.Numbered hours where
  hourYear := same.hourYear.trans numbered.hourYear
  hourDay := same.hourDay ▸ numbered.hourDay
  split := by rw [same.dayYear, same.hourDay, numbered.split]
  first day within := by rw [same.days, numbered.first day (same.dayYear ▸ within)]
  «end» day within := by rw [same.days, numbered.end day (same.dayYear ▸ within)]
  dayYear hour within := by
    rw [same.hours hour (numbered.hourYear ▸ within), numbered.dayYear hour within]
  dayHour hour within := by
    rw [same.hours hour (numbered.hourYear ▸ within), numbered.dayHour hour within]

theorem Numbered.describeHour {hours : Nat} (numbered : pass.Numbered hours) (room : pass.hourDay < 24) :
    ({ pass.describeHour with hourYear := pass.hourYear + 1, hourDay := pass.hourDay + 1 } : Pass).Numbered
      (hours + 1) := by
  obtain ⟨hourYear, hourDay, split, first, «end», dayYear, dayHour⟩ := numbered
  refine ⟨by simp [hourYear], room, ?_, first, «end», ?_, ?_⟩
  · have : pass.describeHour.dayYear = pass.dayYear := rfl
    simp only [this]
    omega
  · intro hour within
    by_cases same : hour = pass.hourYear
    · subst same
      simp only [Pass.describeHour, modifyHour_hours_self]
      omega
    · simp only [Pass.describeHour, modifyHour_hours_of_ne same]
      exact dayYear hour (by omega)
  · intro hour within
    by_cases same : hour = pass.hourYear
    · subst same
      simp only [Pass.describeHour, modifyHour_hours_self]
      omega
    · simp only [Pass.describeHour, modifyHour_hours_of_ne same]
      exact dayHour hour (by omega)

theorem Numbered.step {hours : Nat} (numbered : pass.Numbered hours) :
    (pass.step settings).Numbered (hours + 1) := by
  rw [Pass.step]
  by_cases full : 24 ≤ pass.hourDay
  · -- A day that is full has hours before it, so the rotation takes place.
    have filled : pass.hourDay = 24 := by have := numbered.hourDay; omega
    have started : 0 < pass.hourYear := by
      rw [numbered.hourYear, ← numbered.split, filled]
      omega
    have same : Pass.SameNumbers _ (pass.startDay settings) := startDay_sameNumbers started
    rw [if_pos full]
    refine ((numbered.turnDay filled).congr same).describeHour ?_
    rw [same.hourDay]
    simp [Pass.turnDay]
  · rw [if_neg full]
    exact numbered.describeHour (by omega)

theorem step_hourDay_pos : 0 < (pass.step settings).hourDay :=
  Nat.succ_pos _

theorem Numbered.finalMarks_days (numbered : pass.Numbered maxHoursInYear) (filled : 0 < pass.hourDay)
    {day : Nat} (within : day < maxDaysInYear) :
    (pass.finalMarks.days day).hours = ⟨24 * day, 24 * (day + 1)⟩ := by
  have split := numbered.split
  have hourDay := numbered.hourDay
  simp only [maxHoursInYear, maxDaysInYear] at split within
  have last : pass.dayYear = 365 := by omega
  have first := numbered.first day (by omega)
  simp only [finalMarks, modifyMonth_days, modifyWeek_days]
  by_cases same : day = pass.dayYear
  · subst same
    rw [modifyDay_days_self]
    refine Interval.ext first ?_
    simp [numbered.hourYear, maxHoursInYear, last]
  · rw [modifyDay_days_of_ne same]
    exact Interval.ext first (numbered.end day (by omega))

theorem init_numbered : (init settings).Numbered 0 where
  hourYear := rfl
  hourDay := by simp [init]
  split := rfl
  first day within := by
    have : day = 0 := by simpa [init] using within
    subst this
    simp only [init, modifyMonth_days, modifyDay_days_self, Nat.mul_zero]
    exact resetMonths_days settings 0
  «end» day within := by simp [init] at within
  dayYear hour within := by omega
  dayHour hour within := by omega

variable (settings) in
theorem after_numbered (hours : Nat) : (after settings hours).Numbered hours := by
  induction hours with
  | zero => exact init_numbered
  | succ hours ih => exact ih.step

end Pass

variable (settings)

theorem reset_hours_dayYear {hour : Nat} (within : hour < maxHoursInYear) :
    ((reset settings).hours hour).dayYear = hour / 24 :=
  (Pass.after_numbered settings maxHoursInYear).dayYear hour within

theorem reset_days_hours {day : Nat} (within : day < maxDaysInYear) :
    ((reset settings).days day).hours = ⟨24 * day, 24 * (day + 1)⟩ := by
  refine (Pass.after_numbered settings maxHoursInYear).finalMarks_days ?_ within
  exact Pass.step_hourDay_pos

end HoursAndDays

section Months
variable (settings : Settings)

variable (month : Nat)

def monthDays : Nat := ((resetMonths settings).months month).days

def daysBefore : Nat := ((List.range month).map (monthDays settings)).sum

theorem daysBefore_succ :
    daysBefore settings (month + 1) = daysBefore settings month + monthDays settings month := by
  simp [daysBefore, List.range_succ]

def Settings.months : Settings where
  weekday1rstJanuary := .monday
  weekFirstDay := .monday
  firstMonth := settings.firstMonth
  firstMonth_lt := settings.firstMonth_lt
  leapYear := settings.leapYear

theorem monthDays_months : monthDays settings.months = monthDays settings := by
  have same : resetMonth settings.months = resetMonth settings := rfl
  have leap : settings.months.leapYear = settings.leapYear := rfl
  funext month
  simp only [monthDays, resetMonths, same, leap]

theorem daysBefore_months : daysBefore settings.months month = daysBefore settings month := by
  rw [daysBefore, monthDays_months, daysBefore]

theorem monthDays_bounds {month : Nat} (within : month < 13) :
    28 ≤ monthDays settings month ∧ monthDays settings month ≤ 31 := by
  have checked : ∀ leap : Bool, ∀ first : Fin 12, ∀ month : Fin 13,
      28 ≤ monthDays ⟨.monday, .monday, first, first.isLt, leap⟩ month ∧
        monthDays ⟨.monday, .monday, first, first.isLt, leap⟩ month ≤ 31 := by
    decide +kernel
  rw [← monthDays_months]
  exact checked settings.leapYear ⟨settings.firstMonth, settings.firstMonth_lt⟩ ⟨month, within⟩

theorem daysBefore_twelve : daysBefore settings 12 = if settings.leapYear then 366 else 365 := by
  have checked : ∀ leap : Bool, ∀ first : Fin 12,
      daysBefore ⟨.monday, .monday, first, first.isLt, leap⟩ 12 = if leap then 366 else 365 := by
    decide +kernel
  rw [← daysBefore_months]
  exact checked settings.leapYear ⟨settings.firstMonth, settings.firstMonth_lt⟩

theorem month_lt_of_daysBefore {month : Nat} (within : daysBefore settings month < maxDaysInYear) : month < 13 := by
  by_contra beyond
  have shorter : daysBefore settings 13 ≤ daysBefore settings month := by
    obtain ⟨more, rfl⟩ := Nat.exists_eq_add_of_le (Nat.le_of_not_lt beyond)
    simp [daysBefore, List.range_add]
  have last := (monthDays_bounds settings (show 12 < 13 by omega)).1
  have year := daysBefore_twelve settings
  have next : daysBefore settings 13 = _ := daysBefore_succ settings 12
  simp only [maxDaysInYear] at within
  split at year <;> omega

structure Dated (month dayMonth dayYear : Nat) : Prop where
  month_lt : month < 13
  dayMonth_lt : dayMonth < monthDays settings month
  dayYear_eq : dayYear = daysBefore settings month + dayMonth

structure Pass.Dates (pass : Pass) : Prop where
  monthDays : ∀ month, (pass.calendar.months month).days = monthDays settings month
  current : Dated settings pass.currentMonth pass.dayMonth pass.dayYear
  hours : ∀ hour < pass.hourYear, Dated settings (pass.calendar.hours hour).month
    (pass.calendar.hours hour).dayMonth (pass.calendar.hours hour).dayYear

variable {settings} {pass : Pass}

theorem Pass.init_dates : (Pass.init settings).Dates settings where
  monthDays month := by
    simp only [Pass.init, modifyMonth, modifyDay, Function.update_apply, monthDays]
    split_ifs <;> simp_all
  current := by
    have first := (monthDays_bounds settings (show 0 < 13 by omega)).1
    refine ⟨?_, ?_, ?_⟩ <;> simp only [Pass.init, daysBefore, List.range_zero, List.map_nil, List.sum_nil]
    · omega
    · omega
  hours hour earlier := by simp [Pass.init] at earlier

theorem Pass.turnWeek_date : (pass.turnWeek settings).currentMonth = pass.currentMonth ∧
    (pass.turnWeek settings).dayMonth = pass.dayMonth := by
  unfold Pass.turnWeek
  split <;> exact ⟨rfl, rfl⟩

theorem Pass.Dates.startDay_current (dates : pass.Dates settings) (started : 0 < pass.hourYear)
    (within : pass.dayYear + 1 < maxDaysInYear) :
    Dated settings (pass.startDay settings).currentMonth (pass.startDay settings).dayMonth
      (pass.startDay settings).dayYear := by
  obtain ⟨month_lt, dayMonth_lt, dayYear_eq⟩ := dates.current
  have days := dates.monthDays pass.currentMonth
  have dayYear : (pass.startDay settings).dayYear = pass.dayYear + 1 := (startDay_sameNumbers started).dayYear
  rw [dayYear]
  rw [Pass.startDay, if_pos started]
  change Dated settings (pass.markFirstHour.turnDay.turnMonth.turnWeek settings).currentMonth
    (pass.markFirstHour.turnDay.turnMonth.turnWeek settings).dayMonth _
  rw [Pass.turnWeek_date.1, Pass.turnWeek_date.2, Pass.turnMonth]
  split
  case isTrue full =>
    have full : (pass.calendar.months pass.currentMonth).days ≤ pass.dayMonth + 1 := full
    change Dated settings (pass.currentMonth + 1) 0 _
    have next := daysBefore_succ settings pass.currentMonth
    have month : pass.currentMonth + 1 < 13 := month_lt_of_daysBefore settings (by omega)
    have days := (monthDays_bounds settings month).1
    exact ⟨month, by omega, by omega⟩
  case isFalse room =>
    have room : ¬ (pass.calendar.months pass.currentMonth).days ≤ pass.dayMonth + 1 := room
    change Dated settings pass.currentMonth (pass.dayMonth + 1) _
    exact ⟨month_lt, by omega, by omega⟩

theorem Pass.Dates.startDay (dates : pass.Dates settings) (started : 0 < pass.hourYear)
    (within : pass.dayYear + 1 < maxDaysInYear) : (pass.startDay settings).Dates settings := by
  have same : Pass.SameNumbers _ (pass.startDay settings) := startDay_sameNumbers started
  refine ⟨fun month => ?_, dates.startDay_current started within, fun hour earlier => ?_⟩
  · rw [same.monthDays]
    exact dates.monthDays month
  · have before : hour < pass.hourYear := same.hourYear ▸ earlier
    rw [same.hours hour before]
    exact dates.hours hour before

theorem Pass.Dates.step (dates : pass.Dates settings) (within : pass.dayYear + 1 < maxDaysInYear ∨ pass.hourDay < 24)
    (started : 24 ≤ pass.hourDay → 0 < pass.hourYear) : (pass.step settings).Dates settings := by
  have describe {pass : Pass} (dates : pass.Dates settings) :
      ({ pass.describeHour with hourYear := pass.hourYear + 1, hourDay := pass.hourDay + 1 } : Pass).Dates
        settings := by
    refine ⟨dates.monthDays, dates.current, fun hour earlier => ?_⟩
    by_cases same : hour = pass.hourYear
    · subst same
      simp only [Pass.describeHour, modifyHour_hours_self]
      exact dates.current
    · simp only [Pass.describeHour, modifyHour_hours_of_ne same]
      exact dates.hours hour (Nat.lt_of_le_of_ne (Nat.le_of_lt_succ earlier) same)
  rw [Pass.step]
  split
  case isTrue full => exact describe (dates.startDay (started full) (by omega))
  case isFalse => exact describe dates

theorem Pass.after_dates {hours : Nat} (within : hours ≤ maxHoursInYear) :
    (Pass.after settings hours).Dates settings := by
  induction hours with
  | zero => exact Pass.init_dates
  | succ hours ih =>
    have numbered := Pass.after_numbered settings hours
    have split := numbered.split
    have hourDay := numbered.hourDay
    refine (ih (Nat.le_of_succ_le within)).step ?_ ?_
    · simp only [maxHoursInYear, maxDaysInYear] at within ⊢
      omega
    · rw [numbered.hourYear]
      omega

theorem reset_hours_dated {hour : Nat} (within : hour < maxHoursInYear) :
    Dated settings ((reset settings).hours hour).month ((reset settings).hours hour).dayMonth (hour / 24) := by
  have dates : (Pass.after settings maxHoursInYear).Dates settings := Pass.after_dates (Nat.le_refl _)
  have numbered := Pass.after_numbered settings maxHoursInYear
  rw [← reset_hours_dayYear settings within]
  refine dates.hours hour ?_
  rw [numbered.hourYear]
  exact within

theorem Pass.finalMarks_monthDays (month : Nat) :
    (pass.finalMarks.months month).days = (pass.calendar.months month).days := by
  simp only [Pass.finalMarks, modifyMonth, modifyWeek, modifyDay, Function.update_apply]
  split_ifs <;> simp_all

theorem reset_months_days (month : Nat) : ((reset settings).months month).days = monthDays settings month := by
  have dates : (Pass.after settings maxHoursInYear).Dates settings := Pass.after_dates (Nat.le_refl _)
  exact (Pass.finalMarks_monthDays month).trans (dates.monthDays month)

end Months

end Calendar

end Antares.Data

namespace Antares.Data.Calendar

def Pass.SameMonths (pass other : Pass) : Prop :=
  ∀ month, (other.calendar.months month).realmonth = (pass.calendar.months month).realmonth

section
variable {settings : Settings} {pass : Pass}

theorem Pass.startMonth_sameMonths : pass.SameMonths pass.startMonth := by
  intro month
  simp only [startMonth, modifyMonth, modifyHour, Function.update_apply]
  split_ifs <;> simp_all

theorem Pass.step_sameMonths : pass.SameMonths (pass.step settings) := by
  have turnMonth (pass : Pass) : pass.SameMonths pass.turnMonth := by
    unfold turnMonth
    split
    · exact startMonth_sameMonths
    · exact fun _ => rfl
  have turnWeek (pass : Pass) : pass.SameMonths (pass.turnWeek settings) := by
    unfold turnWeek
    split <;> exact fun _ => rfl
  have startDay : pass.SameMonths (pass.startDay settings) := by
    unfold startDay
    split
    · exact fun month => (turnWeek _ month).trans (turnMonth pass.markFirstHour.turnDay month)
    · exact fun _ => rfl
  unfold step
  split
  · exact startDay
  · exact fun _ => rfl

variable (settings)

theorem resetMonths_months : resetMonths settings.months = resetMonths settings := by
  have same : resetMonth settings.months = resetMonth settings := rfl
  have leap : settings.months.leapYear = settings.leapYear := rfl
  simp only [resetMonths, same, leap]

theorem resetMonths_realmonth {month : Nat} (within : month < 13) :
    ((resetMonths settings).months month).realmonth = (month + settings.firstMonth) % 12 := by
  have checked : ∀ leap : Bool, ∀ first : Fin 12, ∀ month : Fin 13,
      ((resetMonths ⟨.monday, .monday, first, first.isLt, leap⟩).months month).realmonth = (month + first) % 12 := by
    decide +kernel
  rw [← resetMonths_months]
  exact checked settings.leapYear ⟨settings.firstMonth, settings.firstMonth_lt⟩ ⟨month, within⟩

variable {settings} in
theorem Pass.after_realmonth (hours month : Nat) : ((Pass.after settings hours).calendar.months month).realmonth =
    ((resetMonths settings).months month).realmonth := by
  induction hours with
  | zero =>
    simp only [Pass.after, Pass.init, modifyMonth, modifyDay, Function.update_apply]
    split_ifs <;> simp_all
  | succ hours ih => exact (Pass.step_sameMonths month).trans ih

omit settings in
theorem Pass.finalMarks_realmonth (pass : Pass) (month : Nat) :
    (pass.finalMarks.months month).realmonth = (pass.calendar.months month).realmonth := by
  simp only [Pass.finalMarks, modifyMonth, modifyWeek, modifyDay, Function.update_apply]
  split_ifs <;> simp_all

theorem reset_months_realmonth {month : Nat} (within : month < 13) :
    ((reset settings).months month).realmonth = (month + settings.firstMonth) % 12 := by
  rw [← resetMonths_realmonth settings within]
  exact (Pass.finalMarks_realmonth _ month).trans (Pass.after_realmonth maxHoursInYear month)

theorem exists_realmonth {realmonth : Nat} (within : realmonth < 12) :
    ∃ month < 12, ((reset settings).months month).realmonth = realmonth := by
  have first := settings.firstMonth_lt
  refine ⟨(realmonth + (12 - settings.firstMonth)) % 12, Nat.mod_lt _ (by omega), ?_⟩
  rw [reset_months_realmonth settings (by omega)]
  omega

end

end Antares.Data.Calendar
