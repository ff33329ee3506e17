import Antares.Data.Calendar

/-! The days of the simulation: the two keys of the general data, the limits of the run and the
periods that are refused.
-/

set_option autoImplicit false

namespace Antares.Data

/-- `simulation.start`: the key counts days from one, the study from zero. -/
def simulationStart (day : Nat) : Nat :=
  if day = 0 then 1 else (if 365 < day then 365 else day) - 1

/-- `simulation.end`: the first day that is not simulated. -/
def simulationEnd (day : Nat) : Nat :=
  if day = 0 then 1 else if 365 < day then 365 else day

variable (startKey endKey : Option Nat)

/-- `simulationDays` after the general data, in which either key may be missing. -/
def loadSimulationDays : Interval where
  first := (startKey.map simulationStart).getD 0
  «end» := (endKey.map simulationEnd).getD 365

theorem loadSimulationDays_end :
    1 ≤ (loadSimulationDays startKey endKey).end ∧ (loadSimulationDays startKey endKey).end ≤ 365 := by
  cases endKey with
  | none => simp [loadSimulationDays]
  | some day =>
    simp only [loadSimulationDays, simulationEnd, Option.map_some, Option.getD_some]
    split_ifs <;> omega

theorem loadSimulationDays_first :
    (loadSimulationDays startKey endKey).first ≤ 364 := by
  cases startKey with
  | none => simp [loadSimulationDays]
  | some day =>
    simp only [loadSimulationDays, simulationStart, Option.map_some, Option.getD_some]
    split_ifs <;> omega

/-- `DayInterval::numberOfWeeks`, where the difference is unsigned. -/
def Interval.numberOfWeeks (days : Interval) : Nat := (days.end + 2 ^ 32 - days.first) % 2 ^ 32 / 7

theorem Interval.numberOfWeeks_of_le {days : Interval} (ordered : days.first ≤ days.end)
    (small : days.end < 2 ^ 32) : days.numberOfWeeks = (days.end - days.first) / 7 := by
  have difference : days.end + 2 ^ 32 - days.first = days.end - days.first + 2 ^ 32 := by omega
  rw [numberOfWeeks, difference, Nat.add_mod_right, Nat.mod_eq_of_lt (by omega)]

structure Limits where
  rangeBegin : Nat
  rangeEnd : Nat
  rangeCount : Nat

def Limits.of (rangeBegin rangeEnd : Nat) : Limits := ⟨rangeBegin, rangeEnd, rangeEnd - rangeBegin + 1⟩

structure StudyRangeLimits where
  hour : Limits
  day : Limits
  week : Limits
  month : Limits
  year : Limits
  simulationDaysPerMonth : Nat → Nat
  simulationDaysPerWeek : Nat → Nat

inductive RangeError where
  /-- "Internal error when preparing the calendar" -/
  | preparingTheCalendar
  /-- "At least one week is required to run a simulation." -/
  | atLeastOneWeek
  deriving DecidableEq, Repr

/-- The last hour, brought back until the hours are a whole number of weeks. -/
def reduceToWeeks (a : Nat) : Nat → Nat
  | 0 => 0
  | b + 1 => if a < b + 1 ∧ (b + 1 - a + 1) % 168 ≠ 0 then reduceToWeeks a b else b + 1

theorem reduceToWeeks_of_short {a b : Nat} (ordered : a ≤ b) (short : b - a + 1 < 168) : reduceToWeeks a b = a := by
  induction b with
  | zero =>
    have : a = 0 := by omega
    rw [this, reduceToWeeks]
  | succ b ih =>
    unfold reduceToWeeks
    split
    case isTrue => exact ih (by omega) (by omega)
    case isFalse stop => omega

theorem reduceToWeeks_of_long {a b : Nat} (long : 168 ≤ b - a + 1) :
    reduceToWeeks a b = a + (b - a + 1) / 168 * 168 - 1 := by
  induction b with
  | zero => omega
  | succ b ih =>
    unfold reduceToWeeks
    split
    case isTrue more => rw [ih (by omega)]; omega
    case isFalse stop => omega

section
variable (calendar : Calendar) (simulationDays : Interval) (nbYears effectiveNbYears : Nat)

def firstHour : Nat := (calendar.days simulationDays.first).hours.first

/-- The last hour of the simulation, before and after the incomplete week is left out. -/
def lastHour : Nat :=
  let a := firstHour calendar simulationDays
  let b := (calendar.days (simulationDays.end - 1)).hours.end - 1
  if b < a then a else if (b - a + 1) % 168 ≠ 0 then reduceToWeeks a b else b

/-- The simulated days of each month, from those of the first and of the last hour. -/
def daysPerMonth (ca cb : HourOfYear) : Except RangeError (Nat → Nat) :=
  if ca.month = cb.month then
    let days := cb.dayYear - ca.dayYear + 1
    if (calendar.months ca.month).days < days then .error .preparingTheCalendar
    else .ok (Function.update (fun _ => 0) ca.month days)
  else
    let ends := Function.update
      (Function.update (fun _ => 0) ca.month ((calendar.months ca.month).days - ca.dayMonth))
      cb.month (cb.dayMonth + 1)
    .ok fun month =>
      if ca.month + 1 ≤ month ∧ month < cb.month then (calendar.months month).days else ends month

def daysPerWeek (first last : Nat) : Nat → Nat :=
  (List.range' first (last + 1 - first)).foldl
    (fun count day =>
      Function.update count (calendar.days day).week (count (calendar.days day).week + 1))
    fun _ => 0

/-- `StudyRuntimeInfos::initializeRangeLimits` -/
def initializeRangeLimits : Except RangeError StudyRangeLimits := do
  let a := firstHour calendar simulationDays
  let b := lastHour calendar simulationDays
  let ca := calendar.hours a
  let cb := calendar.hours b
  let hour := Limits.of a b
  let simulationDaysPerMonth ← daysPerMonth calendar ca cb
  if hour.rangeCount < 168 then throw .atLeastOneWeek
  return {
    hour := hour
    day := .of ca.dayYear cb.dayYear
    week := .of ca.week cb.week
    month := .of ca.month cb.month
    year := ⟨0, nbYears - 1, effectiveNbYears⟩
    simulationDaysPerMonth := simulationDaysPerMonth
    simulationDaysPerWeek := daysPerWeek calendar ca.dayYear cb.dayYear }

end

section Accepted
variable (settings : Calendar.Settings) {simulationDays : Interval}

theorem daysPerMonth_isOk {a b : Nat} (ordered : a ≤ b) (within : b < Calendar.maxHoursInYear) :
    ∃ days, daysPerMonth (.reset settings) ((Calendar.reset settings).hours a)
      ((Calendar.reset settings).hours b) = .ok days := by
  have before : a < Calendar.maxHoursInYear := Nat.lt_of_le_of_lt ordered within
  have first : Calendar.Dated settings _ _ (a / 24) := Calendar.reset_hours_dated before
  have last : Calendar.Dated settings _ _ (b / 24) := Calendar.reset_hours_dated within
  unfold daysPerMonth
  rw [Calendar.reset_months_days, Calendar.reset_hours_dayYear settings within,
    Calendar.reset_hours_dayYear settings before]
  split
  case isTrue same =>
    rw [if_neg]
    · exact ⟨_, rfl⟩
    · have firstDay := first.dayYear_eq
      have lastDay := last.dayYear_eq
      have length := last.dayMonth_lt
      rw [same] at firstDay ⊢
      omega
  case isFalse => exact ⟨_, rfl⟩

theorem firstHour_reset (within : simulationDays.first < Calendar.maxDaysInYear) :
    firstHour (.reset settings) simulationDays = 24 * simulationDays.first := by
  rw [firstHour, Calendar.reset_days_hours settings within]

theorem lastHour_reset (first : simulationDays.first < Calendar.maxDaysInYear)
    (started : 1 ≤ simulationDays.end) (last : simulationDays.end ≤ Calendar.maxDaysInYear) :
    lastHour (.reset settings) simulationDays =
      if simulationDays.first + 7 ≤ simulationDays.end then
        24 * simulationDays.first + (simulationDays.end - simulationDays.first) / 7 * 168 - 1
      else 24 * simulationDays.first := by
  have endOfLastDay : ((Calendar.reset settings).days (simulationDays.end - 1)).hours.end - 1 =
      24 * simulationDays.end - 1 := by
    rw [Calendar.reset_days_hours settings (by omega), Nat.sub_add_cancel started]
  simp only [lastHour, firstHour_reset settings first, endOfLastDay]
  by_cases ordered : 24 * simulationDays.end - 1 < 24 * simulationDays.first
  · rw [if_pos ordered, if_neg (by omega)]
  · rw [if_neg ordered]
    by_cases long : simulationDays.first + 7 ≤ simulationDays.end
    · rw [if_pos long, reduceToWeeks_of_long (by omega)]
      split <;> omega
    · rw [if_neg long, reduceToWeeks_of_short (by omega) (by omega)]
      split <;> omega

theorem initializeRangeLimits_isOk_iff (first : simulationDays.first < Calendar.maxDaysInYear)
    (started : 1 ≤ simulationDays.end) (last : simulationDays.end ≤ Calendar.maxDaysInYear)
    (nbYears effectiveNbYears : Nat) :
    (∃ limits, initializeRangeLimits (.reset settings) simulationDays nbYears effectiveNbYears = .ok limits) ↔
      simulationDays.first + 7 ≤ simulationDays.end := by
  have ends := lastHour_reset settings first started last
  have begins := firstHour_reset settings first
  simp only [Calendar.maxDaysInYear] at first last
  have ordered : firstHour (.reset settings) simulationDays ≤ lastHour (.reset settings) simulationDays := by
    rw [ends, begins]
    split <;> omega
  have within : lastHour (.reset settings) simulationDays < Calendar.maxHoursInYear := by
    rw [ends, Calendar.maxHoursInYear]
    split <;> omega
  obtain ⟨days, month⟩ := daysPerMonth_isOk settings ordered within
  by_cases long : simulationDays.first + 7 ≤ simulationDays.end
  · rw [begins, ends, if_pos long] at month
    have enough : ¬ 24 * simulationDays.first + (simulationDays.end - simulationDays.first) / 7 * 168 - 1 -
        24 * simulationDays.first + 1 < 168 := by omega
    refine ⟨fun _ => long, fun _ => ?_⟩
    simp only [initializeRangeLimits, Limits.of, begins, ends, if_pos long, month, if_neg enough]
    exact ⟨_, rfl⟩
  · rw [begins, ends, if_neg long] at month
    have short : 24 * simulationDays.first - 24 * simulationDays.first + 1 < 168 := by omega
    refine ⟨?_, fun accepted => absurd accepted long⟩
    simp only [initializeRangeLimits, Limits.of, begins, ends, if_neg long, month, if_pos short]
    rintro ⟨limits, refused⟩
    cases refused

end Accepted

end Antares.Data
