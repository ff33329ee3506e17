import Antares.Data.CalendarWeeks
import Antares.Data.SimulationPeriod
import Antares.Library.Blocks

/-! The simulated days, counted by hours, months and weeks, and the year that a hot start of the
reservoirs asks for.
-/

set_option autoImplicit false

namespace Antares.Data

open Finset Library

/-- The counts of the simulated days are those of a whole number of weeks. -/
structure StudyRangeLimits.Agree (limits : StudyRangeLimits) (simulationDays : Interval) : Prop where
  wholeWeeks : limits.hour.rangeCount % 168 = 0
  hours : limits.hour.rangeCount = 24 * limits.day.rangeCount
  months : ∑ month ∈ range 12, limits.simulationDaysPerMonth month = limits.day.rangeCount
  weeks : ∑ week ∈ range 53, limits.simulationDaysPerWeek week = limits.day.rangeCount
  days : limits.day.rangeCount = 7 * simulationDays.numberOfWeeks

section
variable {settings : Calendar.Settings}

theorem daysPerMonth_eq_cut {a b : Nat} (ordered : a ≤ b) (within : b < Calendar.maxHoursInYear) {days : Nat → Nat}
    (counted : daysPerMonth (.reset settings) ((Calendar.reset settings).hours a)
      ((Calendar.reset settings).hours b) = .ok days) (month : Nat) :
    days month = min (Calendar.daysBefore settings (month + 1)) (b / 24 + 1) -
      max (Calendar.daysBefore settings month) (a / 24) := by
  have before : a < Calendar.maxHoursInYear := Nat.lt_of_le_of_lt ordered within
  have first : Calendar.Dated settings _ _ (a / 24) := Calendar.reset_hours_dated before
  have last : Calendar.Dated settings _ _ (b / 24) := Calendar.reset_hours_dated within
  have inOrder : a / 24 ≤ b / 24 := Nat.div_le_div_right ordered
  have next := Calendar.daysBefore_succ settings month
  unfold daysPerMonth at counted
  rw [Calendar.reset_hours_dayYear settings within, Calendar.reset_hours_dayYear settings before] at counted
  simp only [Calendar.reset_months_days] at counted
  generalize ((Calendar.reset settings).hours a).month = firstMonth at first counted
  generalize ((Calendar.reset settings).hours b).month = lastMonth at last counted
  generalize ((Calendar.reset settings).hours a).dayMonth = firstDay at first counted
  generalize ((Calendar.reset settings).hours b).dayMonth = lastDay at last counted
  have firstDay_lt := first.dayMonth_lt
  have lastDay_lt := last.dayMonth_lt
  have firstDay_eq := first.dayYear_eq
  have lastDay_eq := last.dayYear_eq
  have afterFirst := Calendar.daysBefore_succ settings firstMonth
  have afterLast := Calendar.daysBefore_succ settings lastMonth
  -- Months before the first one end before the period and months after the last one start after it.
  have earlier : month < firstMonth → Calendar.daysBefore settings (month + 1) ≤ Calendar.daysBefore settings firstMonth :=
    fun earlier => Calendar.daysBefore_mono settings earlier
  have later : lastMonth < month → Calendar.daysBefore settings (lastMonth + 1) ≤ Calendar.daysBefore settings month :=
    fun later => Calendar.daysBefore_mono settings later
  have afterStart : firstMonth < month → Calendar.daysBefore settings (firstMonth + 1) ≤ Calendar.daysBefore settings month :=
    fun later => Calendar.daysBefore_mono settings later
  have beforeEnd : month < lastMonth → Calendar.daysBefore settings (month + 1) ≤ Calendar.daysBefore settings lastMonth :=
    fun earlier => Calendar.daysBefore_mono settings earlier
  have reversed : lastMonth < firstMonth → Calendar.daysBefore settings (lastMonth + 1) ≤ Calendar.daysBefore settings firstMonth :=
    fun reversed => Calendar.daysBefore_mono settings reversed
  split at counted
  case isTrue same =>
    split at counted
    case isTrue => cases counted
    case isFalse =>
      cases counted
      subst same
      rw [Function.update_apply]
      split
      case isTrue same => subst same; omega
      case isFalse apart => omega
  case isFalse apart =>
    cases counted
    simp only [Function.update_apply]
    split_ifs with between isLast isFirst
    · omega
    · subst isLast
      omega
    · subst isFirst
      omega
    · omega

theorem sum_daysPerMonth {a b : Nat} (ordered : a ≤ b) (inYear : b < 24 * 365) {days : Nat → Nat}
    (counted : daysPerMonth (.reset settings) ((Calendar.reset settings).hours a)
      ((Calendar.reset settings).hours b) = .ok days) :
    ∑ month ∈ range 12, days month = b / 24 - a / 24 + 1 := by
  have within : b < Calendar.maxHoursInYear := by
    unfold Calendar.maxHoursInYear
    omega
  have inOrder : a / 24 ≤ b / 24 := Nat.div_le_div_right ordered
  have bounds (month : Nat) : Calendar.daysBefore settings month ≤ Calendar.daysBefore settings (month + 1) :=
    Calendar.daysBefore_mono settings (Nat.le_succ month)
  have cut := sum_cut bounds (Nat.zero_le (a / 24)) (show a / 24 ≤ b / 24 + 1 by omega) 12
  have year := Calendar.daysBefore_twelve settings
  rw [sum_congr rfl fun month _ => daysPerMonth_eq_cut ordered within counted month, cut]
  split at year <;> omega

theorem sum_daysPerWeek {first last : Nat} (ordered : first ≤ last) (inYear : last < 365) :
    ∑ week ∈ range 53, daysPerWeek (.reset settings) first last week = last - first + 1 := by
  have inside : ∀ day ∈ List.range' first (last + 1 - first), ((Calendar.reset settings).days day).week < 53 := by
    intro day member
    have bounds := List.mem_range'_1.mp member
    exact Calendar.reset_days_week_lt settings (by omega)
  have counted := sum_tally inside fun _ => 0
  rw [sum_const_zero, List.length_range', Nat.zero_add] at counted
  refine Eq.trans counted ?_
  omega

variable {simulationDays : Interval} {nbYears effectiveNbYears : Nat} {limits : StudyRangeLimits}

theorem initializeRangeLimits_eq_ok {calendar : Calendar}
    (accepted : initializeRangeLimits calendar simulationDays nbYears effectiveNbYears = .ok limits) :
    ∃ days, daysPerMonth calendar (calendar.hours (firstHour calendar simulationDays))
        (calendar.hours (lastHour calendar simulationDays)) = .ok days ∧
      limits.hour = .of (firstHour calendar simulationDays) (lastHour calendar simulationDays) ∧
      limits.day = .of (calendar.hours (firstHour calendar simulationDays)).dayYear
        (calendar.hours (lastHour calendar simulationDays)).dayYear ∧
      limits.simulationDaysPerMonth = days ∧
      limits.simulationDaysPerWeek = daysPerWeek calendar (calendar.hours (firstHour calendar simulationDays)).dayYear
        (calendar.hours (lastHour calendar simulationDays)).dayYear := by
  unfold initializeRangeLimits at accepted
  cases counted : daysPerMonth calendar (calendar.hours (firstHour calendar simulationDays))
      (calendar.hours (lastHour calendar simulationDays)) with
  | error stop => simp [counted, bind, Except.bind] at accepted
  | ok days =>
    simp only [counted, bind, Except.bind] at accepted
    split at accepted
    · cases accepted
    · cases accepted
      exact ⟨days, rfl, rfl, rfl, rfl, rfl⟩

theorem initializeRangeLimits_agree (first : simulationDays.first < 365) (started : 1 ≤ simulationDays.end)
    (last : simulationDays.end ≤ 365)
    (accepted : initializeRangeLimits (.reset settings) simulationDays nbYears effectiveNbYears = .ok limits) :
    limits.Agree simulationDays ∧ limits.day.rangeBegin = simulationDays.first := by
  have long := (initializeRangeLimits_isOk_iff settings (by unfold Calendar.maxDaysInYear; omega) started
    (by unfold Calendar.maxDaysInYear; omega) nbYears effectiveNbYears).mp ⟨limits, accepted⟩
  have weeks : simulationDays.numberOfWeeks = (simulationDays.end - simulationDays.first) / 7 :=
    Interval.numberOfWeeks_of_le (by omega) (by omega)
  have inCalendar : simulationDays.first < Calendar.maxDaysInYear := by
    unfold Calendar.maxDaysInYear
    omega
  have begins := firstHour_reset settings inCalendar
  have ends := lastHour_reset settings inCalendar started (by unfold Calendar.maxDaysInYear; omega)
  rw [if_pos long] at ends
  obtain ⟨days, counted, hour, day, perMonth, perWeek⟩ := initializeRangeLimits_eq_ok accepted
  rw [begins, ends] at counted hour day perWeek
  have inYear : 24 * simulationDays.first + (simulationDays.end - simulationDays.first) / 7 * 168 - 1 <
      Calendar.maxHoursInYear := by
    unfold Calendar.maxHoursInYear
    omega
  rw [Calendar.reset_hours_dayYear settings (by omega), Calendar.reset_hours_dayYear settings inYear] at day perWeek
  have months := sum_daysPerMonth (by omega) (by omega) counted
  have week := @sum_daysPerWeek settings (24 * simulationDays.first / 24)
    ((24 * simulationDays.first + (simulationDays.end - simulationDays.first) / 7 * 168 - 1) / 24) (by omega) (by omega)
  have hourCount : limits.hour.rangeCount = 168 * ((simulationDays.end - simulationDays.first) / 7) := by
    simp only [hour, Limits.of]
    omega
  have dayCount : limits.day.rangeCount = 7 * ((simulationDays.end - simulationDays.first) / 7) := by
    simp only [day, Limits.of]
    omega
  have dayBegin : limits.day.rangeBegin = simulationDays.first := by
    simp only [day, Limits.of]
    omega
  refine ⟨⟨by omega, by omega, ?_, ?_, by rw [dayCount, weeks]⟩, dayBegin⟩
  · rw [perMonth, months, day, Limits.of]
  · rw [perWeek, week, day, Limits.of]

structure StudyRangeLimits.Of (limits : StudyRangeLimits) (settings : Calendar.Settings) (first weeks : Nat) : Prop where
  weeks_pos : 0 < weeks
  inYear : first + 7 * weeks ≤ 365
  hour : limits.hour = .of (24 * first) (24 * (first + 7 * weeks) - 1)
  day : limits.day = .of first (first + 7 * weeks - 1)
  week : limits.week = .of ((first + Calendar.weekOffset settings) / 7)
    ((first + 7 * weeks - 1 + Calendar.weekOffset settings) / 7)
  firstMonth : Calendar.Dated settings limits.month.rangeBegin ((Calendar.reset settings).hours (24 * first)).dayMonth first
  lastMonth : ∃ dayMonth, Calendar.Dated settings limits.month.rangeEnd dayMonth (first + 7 * weeks - 1)
  perMonth : ∀ month, limits.simulationDaysPerMonth month =
    min (Calendar.daysBefore settings (month + 1)) (first + 7 * weeks) - max (Calendar.daysBefore settings month) first
  perWeek : limits.simulationDaysPerWeek = daysPerWeek (.reset settings) first (first + 7 * weeks - 1)

theorem initializeRangeLimits_of (first : simulationDays.first < 365) (started : 1 ≤ simulationDays.end)
    (last : simulationDays.end ≤ 365)
    (accepted : initializeRangeLimits (.reset settings) simulationDays nbYears effectiveNbYears = .ok limits) :
    ∃ weeks, limits.Of settings simulationDays.first weeks := by
  have inCalendar : simulationDays.first < Calendar.maxDaysInYear := by
    unfold Calendar.maxDaysInYear
    omega
  have endInCalendar : simulationDays.end ≤ Calendar.maxDaysInYear := by
    unfold Calendar.maxDaysInYear
    omega
  have long := (initializeRangeLimits_isOk_iff settings inCalendar started endInCalendar nbYears effectiveNbYears).mp
    ⟨limits, accepted⟩
  have begins := firstHour_reset settings inCalendar
  have ends := lastHour_reset settings inCalendar started endInCalendar
  obtain ⟨weeks, whole⟩ : ∃ weeks, weeks = (simulationDays.end - simulationDays.first) / 7 := ⟨_, rfl⟩
  have lastHour_eq : 24 * simulationDays.first + (simulationDays.end - simulationDays.first) / 7 * 168 - 1 =
      24 * (simulationDays.first + 7 * weeks) - 1 := by omega
  rw [if_pos long, lastHour_eq] at ends
  have inHours : 24 * (simulationDays.first + 7 * weeks) - 1 < Calendar.maxHoursInYear := by
    unfold Calendar.maxHoursInYear
    omega
  have firstInHours : 24 * simulationDays.first < Calendar.maxHoursInYear := by
    unfold Calendar.maxHoursInYear
    omega
  have firstDay : 24 * simulationDays.first / 24 = simulationDays.first := by omega
  have lastDay : (24 * (simulationDays.first + 7 * weeks) - 1) / 24 = simulationDays.first + 7 * weeks - 1 := by omega
  have dayOfFirst := Calendar.reset_hours_dayYear settings firstInHours
  have dayOfLast := Calendar.reset_hours_dayYear settings inHours
  rw [firstDay] at dayOfFirst
  rw [lastDay] at dayOfLast
  have firstDated : Calendar.Dated settings _ _ _ := Calendar.reset_hours_dated firstInHours
  have lastDated : Calendar.Dated settings _ _ _ := Calendar.reset_hours_dated inHours
  rw [firstDay] at firstDated
  rw [lastDay] at lastDated
  unfold initializeRangeLimits at accepted
  rw [begins, ends] at accepted
  cases counted : daysPerMonth (.reset settings) ((Calendar.reset settings).hours (24 * simulationDays.first))
      ((Calendar.reset settings).hours (24 * (simulationDays.first + 7 * weeks) - 1)) with
  | error stop => simp [counted, bind, Except.bind] at accepted
  | ok days =>
    have perMonth := daysPerMonth_eq_cut (by omega) inHours counted
    rw [firstDay, lastDay] at perMonth
    simp only [counted, bind, Except.bind] at accepted
    split at accepted
    · cases accepted
    · cases accepted
      refine ⟨weeks, ?_⟩
      exact
        { weeks_pos := by omega
          inYear := by omega
          hour := rfl
          day := by rw [dayOfFirst, dayOfLast]
          week := by
            rw [Calendar.reset_hours_week settings firstInHours, Calendar.reset_hours_week settings inHours, firstDay,
              lastDay]
          firstMonth := firstDated
          lastMonth := ⟨_, lastDated⟩
          perMonth := fun month => (perMonth month).trans (by omega)
          perWeek := by rw [dayOfFirst, dayOfLast] }

end

namespace HotStart

/-- An area, as far as the reservoir level at the start of a simulation is concerned. -/
structure Area where
  reservoirManagement : Bool
  /-- A month of the civil calendar, from January. -/
  initializeReservoirLevelDate : Fin 12

structure Study where
  hydroHotStart : Bool
  maxNbYearsInParallel : Nat
  allSetsHaveSameSize : Bool
  areas : List Area

section Check
variable (study : Study) (calendar : Calendar) (simulationDays : Interval)

def Area.initLevelOnSimDay (area : Area) : Nat :=
  (calendar.months (calendar.mappingMonths area.initializeReservoirLevelDate)).daysYear.first

/-- `nbDaysInSimulation`, where the difference is unsigned. -/
def nbDaysInSimulation : Nat := (simulationDays.end + 2 ^ 32 - simulationDays.first + 1) % 2 ^ 32

def Study.checkHydroHotStart : Bool :=
  if !study.hydroHotStart then true
  else if decide (study.maxNbYearsInParallel ≠ 1) && !study.allSetsHaveSameSize then false
  else if nbDaysInSimulation simulationDays < 364 then false
  else study.areas.all fun area =>
    !area.reservoirManagement || decide (area.initLevelOnSimDay calendar = simulationDays.first)

/-- The day is the first one of the month in which the level of every managed reservoir is initialised. -/
def Study.StartsOn (day : Nat) : Prop :=
  ∀ area ∈ study.areas, area.reservoirManagement →
    (calendar.hours (24 * day)).dayMonth = 0 ∧
    (calendar.months (calendar.hours (24 * day)).month).realmonth = area.initializeReservoirLevelDate

/-- Parallel years leave the levels of one to the next only when they come in sets of one size. -/
def Study.SetsAllowed : Prop := study.maxNbYearsInParallel = 1 ∨ study.allSetsHaveSameSize

end Check

variable {settings : Calendar.Settings}

theorem initLevelOnSimDay_eq_iff (area : Area) {day : Nat} (inYear : day < 365) :
    area.initLevelOnSimDay (.reset settings) = day ↔
      ((Calendar.reset settings).hours (24 * day)).dayMonth = 0 ∧
      ((Calendar.reset settings).months ((Calendar.reset settings).hours (24 * day)).month).realmonth =
        area.initializeReservoirLevelDate := by
  have within : 24 * day < Calendar.maxHoursInYear := by
    unfold Calendar.maxHoursInYear
    omega
  have date : Calendar.Dated settings _ _ (24 * day / 24) := Calendar.reset_hours_dated within
  obtain ⟨simMonth_lt, simMonth_eq⟩ := Calendar.reset_mappingMonths settings area.initializeReservoirLevelDate.isLt
  have realmonth := Calendar.reset_months_realmonth settings date.month_lt
  have year := Calendar.daysBefore_twelve settings
  have next := Calendar.daysBefore_succ settings ((Calendar.reset settings).mappingMonths area.initializeReservoirLevelDate)
  have length := (Calendar.monthDays_bounds settings (Nat.lt_succ_of_lt simMonth_lt)).1
  have dayYear := date.dayYear_eq
  rw [Area.initLevelOnSimDay, Calendar.reset_months_first settings simMonth_lt, realmonth]
  constructor
  · intro same
    have month : ((Calendar.reset settings).hours (24 * day)).month =
        (Calendar.reset settings).mappingMonths area.initializeReservoirLevelDate :=
      date.month_eq settings (by omega) (by omega)
    rw [month] at dayYear ⊢
    refine ⟨?_, simMonth_eq⟩
    omega
  · rintro ⟨firstDay, sameMonth⟩
    have beforeYear : ((Calendar.reset settings).hours (24 * day)).month < 12 := by
      by_contra past
      have bound := Calendar.daysBefore_mono settings (Nat.le_of_not_lt past)
      split at year <;> omega
    have first := settings.firstMonth_lt
    have month : ((Calendar.reset settings).hours (24 * day)).month =
        (Calendar.reset settings).mappingMonths area.initializeReservoirLevelDate := by
      omega
    rw [← month]
    omega

theorem checkHydroHotStart_iff (study : Study) (hot : study.hydroHotStart) {simulationDays : Interval}
    (inYear : simulationDays.first < 365) :
    study.checkHydroHotStart (.reset settings) simulationDays ↔
      study.SetsAllowed ∧ 364 ≤ nbDaysInSimulation simulationDays ∧
        study.StartsOn (.reset settings) simulationDays.first := by
  have starts : (study.areas.all fun area =>
      !area.reservoirManagement || decide (area.initLevelOnSimDay (.reset settings) = simulationDays.first)) ↔
        study.StartsOn (.reset settings) simulationDays.first := by
    simp only [List.all_eq_true, Study.StartsOn, Bool.or_eq_true, Bool.not_eq_true', decide_eq_true_eq,
      initLevelOnSimDay_eq_iff _ inYear]
    refine forall₂_congr fun area _ => ?_
    cases area.reservoirManagement <;> simp
  unfold Study.checkHydroHotStart Study.SetsAllowed
  rw [← starts]
  by_cases one : study.maxNbYearsInParallel = 1 <;> cases study.allSetsHaveSameSize <;>
    by_cases short : nbDaysInSimulation simulationDays < 364 <;> simp [hot, one, short] <;> omega

/-- The simulation is a year of 52 weeks, from the day on which the levels are initialised. -/
def Study.CoversYear (study : Study) (calendar : Calendar) (simulationDays : Interval) (nbYears effectiveNbYears : Nat) :
    Prop :=
  ∃ limits, initializeRangeLimits calendar simulationDays nbYears effectiveNbYears = .ok limits ∧
    limits.day.rangeCount = 7 * 52 ∧ study.StartsOn calendar limits.day.rangeBegin

def januaryReservoir : Study := ⟨true, 1, true, [⟨true, 0⟩]⟩

def januaryYear : Calendar.Settings := ⟨.monday, .monday, january, january_lt, false⟩

theorem januaryReservoir_startsOn : januaryReservoir.StartsOn (.reset januaryYear) 0 := by
  have january (settings : Calendar.Settings) (first : settings.firstMonth = 0) (area : Area)
      (month : area.initializeReservoirLevelDate = 0) : area.initLevelOnSimDay (.reset settings) = 0 := by
    obtain ⟨simMonth_lt, simMonth_eq⟩ := Calendar.reset_mappingMonths settings area.initializeReservoirLevelDate.isLt
    have civil : (area.initializeReservoirLevelDate : Nat) = 0 := by rw [month]; rfl
    have here : (Calendar.reset settings).mappingMonths area.initializeReservoirLevelDate = 0 := by omega
    rw [Area.initLevelOnSimDay, here]
    exact Calendar.reset_months_first settings (by decide)
  intro area member _
  have same : area = ⟨true, 0⟩ := by simpa [januaryReservoir] using member
  exact (initLevelOnSimDay_eq_iff area (by decide)).mp (january januaryYear rfl area (by rw [same]))

theorem januaryReservoir_accepted :
    januaryReservoir.checkHydroHotStart (.reset januaryYear) (loadSimulationDays (some 1) (some 363)) = true ∧
    ¬ januaryReservoir.CoversYear (.reset januaryYear) (loadSimulationDays (some 1) (some 363)) 1 1 := by
  have days : loadSimulationDays (some 1) (some 363) = ⟨0, 363⟩ := by decide
  rw [days]
  constructor
  · exact (checkHydroHotStart_iff januaryReservoir rfl (by decide)).mpr
      ⟨.inl rfl, by decide, januaryReservoir_startsOn⟩
  · rintro ⟨limits, accepted, year, _⟩
    have weeks := (initializeRangeLimits_agree (by decide) (by decide) (by decide) accepted).1.days
    rw [year] at weeks
    exact absurd weeks (by decide)

/-- The counts agree, and a hot start is for a whole year, if and only if the period does not end 363 days
after its first day, nor before it, where everything else allows a hot start.
-/
theorem agree_and_coversYear_iff (settings : Calendar.Settings) (startKey endKey : Option Nat) (study : Study)
    (nbYears effectiveNbYears : Nat) :
    ((∀ limits, initializeRangeLimits (.reset settings) (loadSimulationDays startKey endKey) nbYears effectiveNbYears =
        .ok limits → limits.Agree (loadSimulationDays startKey endKey)) ∧
      (study.hydroHotStart → study.checkHydroHotStart (.reset settings) (loadSimulationDays startKey endKey) →
        study.CoversYear (.reset settings) (loadSimulationDays startKey endKey) nbYears effectiveNbYears)) ↔
    ¬ (study.hydroHotStart ∧ study.SetsAllowed ∧
      study.StartsOn (.reset settings) (loadSimulationDays startKey endKey).first ∧
      ((loadSimulationDays startKey endKey).end = (loadSimulationDays startKey endKey).first + 363 ∨
        (loadSimulationDays startKey endKey).end + 1 < (loadSimulationDays startKey endKey).first)) := by
  have ends := loadSimulationDays_end startKey endKey
  have starts := loadSimulationDays_first startKey endKey
  generalize loadSimulationDays startKey endKey = simulationDays at ends starts ⊢
  have inYear : simulationDays.first < 365 := by omega
  have accepts := @initializeRangeLimits_isOk_iff settings simulationDays
    (by unfold Calendar.maxDaysInYear; omega) ends.1 (by unfold Calendar.maxDaysInYear; omega) nbYears effectiveNbYears
  have agree (limits : StudyRangeLimits) (accepted : initializeRangeLimits (.reset settings) simulationDays nbYears
      effectiveNbYears = .ok limits) := initializeRangeLimits_agree inYear ends.1 ends.2 accepted
  have days : 364 ≤ nbDaysInSimulation simulationDays ↔
      simulationDays.first + 363 ≤ simulationDays.end ∨ simulationDays.end + 1 < simulationDays.first := by
    unfold nbDaysInSimulation
    omega
  constructor
  · rintro ⟨_, covers⟩ ⟨hot, sets, startsOn, bad⟩
    have accepted := (checkHydroHotStart_iff study hot inYear).mpr ⟨sets, days.mpr (by omega), startsOn⟩
    obtain ⟨limits, limited, year, _⟩ := covers hot accepted
    have long := accepts.mp ⟨limits, limited⟩
    have count := (agree limits limited).1.days
    rw [year, Interval.numberOfWeeks_of_le (by omega) (by omega)] at count
    omega
  · intro fine
    refine ⟨fun limits accepted => (agree limits accepted).1, fun hot accepted => ?_⟩
    obtain ⟨sets, enough, startsOn⟩ := (checkHydroHotStart_iff study hot inYear).mp accepted
    have whole : simulationDays.first + 364 ≤ simulationDays.end := by
      by_contra short
      exact fine ⟨hot, sets, startsOn, by have := days.mp enough; omega⟩
    obtain ⟨limits, limited⟩ := accepts.mpr (by omega)
    obtain ⟨counts, begins⟩ := agree limits limited
    refine ⟨limits, limited, ?_, begins ▸ startsOn⟩
    rw [counts.days, Interval.numberOfWeeks_of_le (by omega) (by omega)]
    omega

end HotStart

end Antares.Data
