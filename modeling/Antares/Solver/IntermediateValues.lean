import Antares.Data.SimulatedDays
import Mathlib.Data.Rat.Defs

/-! The values of a variable over a year, by hour, day, week and month: what is added up once the hours are known.
-/

set_option autoImplicit false

namespace Antares.Solver.Variable

open Finset Data Library

def maxHoursInAYear : Nat := 8785

def maxDaysInAYear : Nat := 7 * 53 + 1

def maxWeeksInAYear : Nat := 53

def maxMonths : Nat := 12

def maxHoursInADay : Nat := 24

structure IntermediateValues where
  hour : Nat → Rat
  day : Nat → Rat
  week : Nat → Rat
  month : Nat → Rat
  year : Rat

/-- The indexes from the begin of a range to its end, both included. -/
def each (range : Limits) : List Nat := List.range' range.rangeBegin (range.rangeEnd + 1 - range.rangeBegin)

namespace IntermediateValues

def zero : IntermediateValues where
  hour _ := 0
  day _ := 0
  week _ := 0
  month _ := 0
  year := 0

section
variable (pRange : StudyRangeLimits) (calendar : Calendar) (values : IntermediateValues)

/-- `x(d)`, and the year with them -/
def addDays : IntermediateValues :=
  let day := (fillBlocks values.hour (fun _ => maxHoursInADay) (fun _ d => d) (each pRange.day)
    (values.day, pRange.hour.rangeBegin)).1
  { values with
    day := day
    year := (each pRange.day).foldl (fun year i => year + day i) 0 }

def addWeeks : IntermediateValues :=
  { values with
    week := addByBlock (fun i => (calendar.days i).week) values.day
      (fun i => if i < maxWeeksInAYear then 0 else values.week i) (each pRange.day) }

/-- `x(m)`, whose days follow each other from the first one of the first month -/
def addMonths : IntermediateValues :=
  { values with
    month := (fillBlocks values.day (fun i => (calendar.months i).days) (fun _ d => d) (each pRange.month)
      (values.month, (calendar.months pRange.month.rangeBegin).daysYear.first)).1 }

def computeStatisticsForTheCurrentYear : IntermediateValues :=
  ((values.addDays pRange).addWeeks pRange calendar).addMonths pRange calendar

/-- The values after some years, one after the other in the same arrays. -/
def afterYears (years : List (Nat → Rat)) : IntermediateValues :=
  years.foldl
    (fun values hour => ({ values with hour := hour }).computeStatisticsForTheCurrentYear pRange calendar) zero

def simulated : Finset Nat := Icc pRange.day.rangeBegin pRange.day.rangeEnd

/-- Every index that the loops come to is one of the arrays and of the calendar. -/
structure InRange : Prop where
  hours : pRange.hour.rangeBegin + maxHoursInADay * #(simulated pRange) ≤ maxHoursInAYear
  days : ∀ i ∈ simulated pRange, i < maxDaysInAYear ∧ i < Calendar.maxDaysInYear
  weeks : ∀ i ∈ simulated pRange, (calendar.days i).week < maxWeeksInAYear
  months : pRange.month.rangeEnd < maxMonths
  daysOfMonths : (calendar.months pRange.month.rangeBegin).daysYear.first +
    ∑ i ∈ Icc pRange.month.rangeBegin pRange.month.rangeEnd, (calendar.months i).days ≤ maxDaysInAYear

/-- Days are sums of hours, weeks and months are sums of the simulated days that belong to them, and the year is the
sum of each of them.
-/
structure Statistics : Prop where
  inRange : InRange pRange calendar
  day : ∀ d < Calendar.maxDaysInYear,
    values.day d = ∑ h ∈ range maxHoursInADay, values.hour (maxHoursInADay * d + h)
  week : ∀ w < maxWeeksInAYear,
    values.week w = ∑ d ∈ simulated pRange with (calendar.days d).week = w, values.day d
  month : ∀ m < maxMonths,
    values.month m = ∑ d ∈ simulated pRange with (calendar.hours (maxHoursInADay * d)).month = m, values.day d
  yearOfHours : values.year = ∑ h ∈ Icc pRange.hour.rangeBegin pRange.hour.rangeEnd, values.hour h
  yearOfDays : values.year = ∑ d ∈ simulated pRange, values.day d
  yearOfWeeks : values.year = ∑ w ∈ range maxWeeksInAYear, values.week w
  yearOfMonths : values.year = ∑ m ∈ range maxMonths, values.month m

end

variable (settings : Calendar.Settings)

theorem month_eq_iff {d : Nat} (inYear : d < Calendar.maxDaysInYear) (m : Nat) :
    ((Calendar.reset settings).hours (maxHoursInADay * d)).month = m ↔
      Calendar.daysBefore settings m ≤ d ∧ d < Calendar.daysBefore settings (m + 1) := by
  have inHours : maxHoursInADay * d < Calendar.maxHoursInYear := by
    unfold maxHoursInADay Calendar.maxHoursInYear
    unfold Calendar.maxDaysInYear at inYear
    omega
  have dated : Calendar.Dated settings _ _ _ := Calendar.reset_hours_dated inHours
  have today : maxHoursInADay * d / 24 = d := Nat.mul_div_cancel_left d (by decide)
  rw [today] at dated
  constructor
  · rintro rfl
    have day := dated.dayYear_eq
    have length := dated.dayMonth_lt
    have next := Calendar.daysBefore_succ settings ((Calendar.reset settings).hours (maxHoursInADay * d)).month
    omega
  · rintro ⟨started, before⟩
    exact Calendar.Dated.month_eq settings dated started before

/-- The simulation starts with a month that comes after February, in a year whose output has a leap day. -/
def LateFirstDay (first : Nat) : Prop :=
  let day := (Calendar.reset settings.withoutLeapDay).hours (maxHoursInADay * first)
  settings.leapYear = true ∧ day.dayMonth = 0 ∧ (Calendar.reset settings).mappingMonths february < day.month

section
variable {settings : Calendar.Settings} {pRange : StudyRangeLimits} {first weeks : Nat}
  (ranges : pRange.Of settings.withoutLeapDay first weeks)
include ranges

theorem simulated_eq : simulated pRange = Ico first (first + 7 * weeks) := by
  have some := ranges.weeks_pos
  have last : first + 7 * weeks - 1 + 1 = first + 7 * weeks := by omega
  rw [simulated, ranges.day, ← last]
  exact (Ico_add_one_right_eq_Icc _ _).symm

theorem each_day : each pRange.day = List.range' first (7 * weeks) := by
  have some := ranges.weeks_pos
  rw [each, ranges.day]
  exact congrArg (List.range' first) (by simp only [Limits.of]; omega)

theorem month_bounds : pRange.month.rangeBegin ≤ pRange.month.rangeEnd ∧ pRange.month.rangeEnd < maxMonths := by
  obtain ⟨lastDay, last⟩ := ranges.lastMonth
  have start := ranges.firstMonth
  have some := ranges.weeks_pos
  have inYear := ranges.inYear
  have year := Calendar.daysBefore_twelve settings.withoutLeapDay
  rw [if_neg (by simp [Calendar.Settings.withoutLeapDay])] at year
  have startDay := start.dayYear_eq
  have lastDay_eq := last.dayYear_eq
  have startLength := start.dayMonth_lt
  have lastLength := last.dayMonth_lt
  have afterLast := Calendar.daysBefore_succ settings.withoutLeapDay pRange.month.rangeEnd
  constructor
  · by_contra reversed
    have bound := Calendar.daysBefore_mono settings.withoutLeapDay
      (show pRange.month.rangeEnd + 1 ≤ pRange.month.rangeBegin by omega)
    omega
  · by_contra beyond
    have bound := Calendar.daysBefore_mono settings.withoutLeapDay (not_lt.mp beyond)
    unfold maxMonths at bound
    omega

theorem month_first :
    ((Calendar.reset settings.withoutLeapDay).hours (maxHoursInADay * first)).month = pRange.month.rangeBegin := by
  have start := ranges.firstMonth
  have day := start.dayYear_eq
  have length := start.dayMonth_lt
  have next := Calendar.daysBefore_succ settings.withoutLeapDay pRange.month.rangeBegin
  have days := ranges.inYear
  have inCalendar : first < Calendar.maxDaysInYear := by
    unfold Calendar.maxDaysInYear
    omega
  exact (month_eq_iff settings.withoutLeapDay inCalendar pRange.month.rangeBegin).mpr ⟨by omega, by omega⟩

variable (values : IntermediateValues)

theorem addDays_day : (values.addDays pRange).day = fun i =>
    if first ≤ i ∧ i < first + 7 * weeks then
      ∑ j ∈ Ico (maxHoursInADay * i) (maxHoursInADay * (i + 1)), values.hour j
    else values.day i := by
  have start : pRange.hour.rangeBegin = maxHoursInADay * first := by rw [ranges.hour]; rfl
  unfold addDays
  dsimp only
  rw [each_day ranges, start]
  have next (i : Nat) : maxHoursInADay * (i + 1) = maxHoursInADay * i + maxHoursInADay := rfl
  exact congrArg Prod.fst (fillBlocks_range' next values.day first (7 * weeks))

theorem addDays_year :
    (values.addDays pRange).year = ∑ d ∈ simulated pRange, (values.addDays pRange).day d := by
  rw [simulated_eq ranges]
  unfold addDays
  dsimp only
  rw [each_day ranges, foldl_range'_add, zero_add]

theorem addWeeks_week (calendar : Calendar) (values : IntermediateValues) {w : Nat} (inYear : w < maxWeeksInAYear) :
    (values.addWeeks pRange calendar).week w =
      ∑ d ∈ simulated pRange with (calendar.days d).week = w, values.day d := by
  rw [simulated_eq ranges]
  unfold addWeeks
  dsimp only
  rw [each_day ranges, addByBlock_range', if_pos inYear, zero_add]

theorem addMonths_month : (values.addMonths pRange (.reset settings)).month = fun m =>
    if pRange.month.rangeBegin ≤ m ∧ m ≤ pRange.month.rangeEnd then
      ∑ d ∈ Ico (Calendar.daysBefore settings m) (Calendar.daysBefore settings (m + 1)), values.day d
    else values.month m := by
  obtain ⟨ordered, inYear⟩ := month_bounds ranges
  unfold addMonths each
  dsimp only
  rw [Calendar.reset_months_first settings (ordered.trans_lt inYear)]
  simp only [Calendar.reset_months_days]
  rw [fillBlocks_range' (fun m => Calendar.daysBefore_succ settings m)]
  funext m
  exact if_congr (by omega) rfl rfl

structure Untouched (pRange : StudyRangeLimits) (values : IntermediateValues) : Prop where
  day : ∀ d ∉ simulated pRange, values.day d = 0
  month : ∀ m, ¬ (pRange.month.rangeBegin ≤ m ∧ m ≤ pRange.month.rangeEnd) → values.month m = 0

theorem not_simulated {d : Nat} : d ∉ simulated pRange ↔ ¬ (first ≤ d ∧ d < first + 7 * weeks) := by
  rw [simulated_eq ranges, mem_Ico]

theorem Untouched.computed {values : IntermediateValues} (untouched : Untouched pRange values) (hour : Nat → Rat) :
    Untouched pRange (({ values with hour := hour }).computeStatisticsForTheCurrentYear pRange (.reset settings)) where
  day d outside := by
    change (addDays pRange _).day d = 0
    rw [addDays_day ranges]
    exact (if_neg ((not_simulated ranges).mp outside)).trans (untouched.day d outside)
  month m outside := by
    unfold computeStatisticsForTheCurrentYear
    rw [addMonths_month ranges]
    exact (if_neg outside).trans (untouched.month m outside)

theorem afterYears_untouched (years : List (Nat → Rat)) :
    Untouched pRange (afterYears pRange (.reset settings) years) := by
  induction years using List.reverseRecOn with
  | nil => exact ⟨fun _ _ => rfl, fun _ _ => rfl⟩
  | append_singleton years hour earlier =>
    rw [afterYears, List.foldl_append]
    exact earlier.computed ranges hour

variable {values : IntermediateValues} (untouched : ∀ d ∉ simulated pRange, values.day d = 0)
include untouched

theorem sum_month {m : Nat} (inYear : m < maxMonths) :
    ∑ d ∈ simulated pRange with ((Calendar.reset settings).hours (maxHoursInADay * d)).month = m, values.day d =
      ∑ d ∈ Ico (Calendar.daysBefore settings m) (Calendar.daysBefore settings (m + 1)), values.day d := by
  have days := ranges.inYear
  have end_le := Calendar.daysBefore_mono settings (show m + 1 ≤ 12 from inYear)
  have year := Calendar.daysBefore_twelve settings
  have inCalendar {d : Nat} (early : d < 366) := month_eq_iff settings (show d < Calendar.maxDaysInYear from early) m
  apply sum_subset
  · intro d listed
    obtain ⟨inside, month⟩ := mem_filter.mp listed
    rw [simulated_eq ranges, mem_Ico] at inside
    exact mem_Ico.mpr ((inCalendar (by omega)).mp month)
  · intro d inMonth notListed
    have bounds := mem_Ico.mp inMonth
    refine untouched d fun inside => notListed (mem_filter.mpr ⟨inside, ?_⟩)
    refine (inCalendar ?_).mpr bounds
    split at year <;> omega

theorem sum_months :
    ∑ m ∈ range maxMonths,
        ∑ d ∈ Ico (Calendar.daysBefore settings m) (Calendar.daysBefore settings (m + 1)), values.day d =
      ∑ d ∈ simulated pRange, values.day d := by
  have days := ranges.inYear
  have year := Calendar.daysBefore_twelve settings
  have whole := sum_blocks (fun m => Calendar.daysBefore_mono settings (Nat.le_succ m)) values.day 0 maxMonths
  rw [Nat.zero_add, ← range_eq_Ico] at whole
  rw [whole]
  symm
  apply sum_subset
  · intro d inside
    rw [simulated_eq ranges, mem_Ico] at inside
    refine mem_Ico.mpr ⟨Nat.zero_le d, ?_⟩
    change d < Calendar.daysBefore settings 12
    split at year <;> omega
  · exact fun d _ outside => untouched d outside

theorem sum_otherMonth {m : Nat} (inYear : m < maxMonths)
    (other : ¬ (pRange.month.rangeBegin ≤ m ∧ m ≤ pRange.month.rangeEnd))
    (fine : LateFirstDay settings first → values.day first = 0) :
    ∑ d ∈ Ico (Calendar.daysBefore settings m) (Calendar.daysBefore settings (m + 1)), values.day d = 0 := by
  have days := ranges.inYear
  have start := ranges.firstMonth
  obtain ⟨lastDay, last⟩ := ranges.lastMonth
  have startDay := start.dayYear_eq
  have lastDay_eq := last.dayYear_eq
  have lastLength := last.dayMonth_lt
  have afterLast := Calendar.daysBefore_succ settings.withoutLeapDay pRange.month.rangeEnd
  have shift := Calendar.daysBefore_leap settings (show m < 14 by unfold maxMonths at inYear; omega)
  have nextShift := Calendar.daysBefore_leap settings (show m + 1 < 14 by unfold maxMonths at inYear; omega)
  apply sum_eq_zero
  intro d inMonth
  obtain ⟨started, before⟩ := mem_Ico.mp inMonth
  by_cases inside : d ∈ simulated pRange
  · rw [simulated_eq ranges, mem_Ico] at inside
    rcases Nat.lt_or_ge pRange.month.rangeEnd m with later | notLater
    · -- months after the last one start after the last day
      have bound := Calendar.daysBefore_mono settings.withoutLeapDay (show pRange.month.rangeEnd + 1 ≤ m from later)
      omega
    · have earlier : m < pRange.month.rangeBegin := by omega
      have bound := Calendar.daysBefore_mono settings.withoutLeapDay
        (show m + 1 ≤ pRange.month.rangeBegin from earlier)
      split_ifs at nextShift with leap
      · -- the leap day puts off the end of the month, and the first day may be its last one
        have adjacent : m + 1 = pRange.month.rangeBegin := by
          by_contra apart
          have further := Calendar.daysBefore_mono settings.withoutLeapDay
            (show m + 1 + 1 ≤ pRange.month.rangeBegin by omega)
          have length := (Calendar.monthDays_bounds settings.withoutLeapDay
            (show m + 1 < 13 by unfold maxMonths at inYear; omega)).1
          have next := Calendar.daysBefore_succ settings.withoutLeapDay (m + 1)
          omega
        rw [adjacent] at bound before nextShift
        have itself : d = first := by omega
        have dayMonth : ((Calendar.reset settings.withoutLeapDay).hours (24 * first)).dayMonth = 0 := by omega
        rw [itself]
        exact fine ⟨leap.1, dayMonth, month_first ranges ▸ adjacent ▸ leap.2⟩
      · omega
  · exact untouched d inside

end

section
variable {settings : Calendar.Settings} {pRange : StudyRangeLimits} {first weeks : Nat}
  (ranges : pRange.Of settings.withoutLeapDay first weeks)
include ranges

theorem inRange : InRange pRange (.reset settings) := by
  obtain ⟨ordered, monthInYear⟩ := month_bounds ranges
  have inYear := ranges.inYear
  have year := Calendar.daysBefore_twelve settings
  have early {i : Nat} (inside : i ∈ simulated pRange) : i < 365 := by
    rw [simulated_eq ranges, mem_Ico] at inside
    omega
  constructor
  · rw [simulated_eq ranges, Nat.card_Ico, ranges.hour]
    unfold maxHoursInADay maxHoursInAYear Limits.of
    dsimp only
    omega
  · intro i inside
    have day := early inside
    unfold maxDaysInAYear Calendar.maxDaysInYear
    omega
  · exact fun i inside => Calendar.reset_days_week_lt settings (early inside)
  · exact monthInYear
  · have days (last : Nat) (after : pRange.month.rangeBegin ≤ last) :
        Calendar.daysBefore settings pRange.month.rangeBegin +
          ∑ i ∈ Ico pRange.month.rangeBegin last, Calendar.monthDays settings i = Calendar.daysBefore settings last := by
      induction last, after using Nat.le_induction with
      | base => simp
      | succ last after ih => rw [sum_Ico_succ_top after, ← add_assoc, ih, Calendar.daysBefore_succ]
    have bound := Calendar.daysBefore_mono settings (show pRange.month.rangeEnd + 1 ≤ 12 from monthInYear)
    have all := days (pRange.month.rangeEnd + 1) (Nat.le_succ_of_le ordered)
    rw [Ico_add_one_right_eq_Icc] at all
    rw [Calendar.reset_months_first settings (ordered.trans_lt monthInYear)]
    simp only [Calendar.reset_months_days]
    rw [all]
    unfold maxDaysInAYear
    split at year <;> omega

structure Computed (settings : Calendar.Settings) (pRange : StudyRangeLimits) (first weeks : Nat)
    (before : IntermediateValues) (hour : Nat → Rat) (values : IntermediateValues) : Prop where
  hours : values.hour = hour
  day : ∀ d, values.day d =
    if first ≤ d ∧ d < first + 7 * weeks then ∑ j ∈ Ico (maxHoursInADay * d) (maxHoursInADay * (d + 1)), hour j
    else before.day d
  week : ∀ w < maxWeeksInAYear,
    values.week w = ∑ d ∈ simulated pRange with ((Calendar.reset settings).days d).week = w, values.day d
  month : ∀ m, values.month m =
    if pRange.month.rangeBegin ≤ m ∧ m ≤ pRange.month.rangeEnd then
      ∑ d ∈ Ico (Calendar.daysBefore settings m) (Calendar.daysBefore settings (m + 1)), values.day d
    else before.month m
  year : values.year = ∑ d ∈ simulated pRange, values.day d

theorem computed (before : IntermediateValues) (hour : Nat → Rat) :
    Computed settings pRange first weeks before hour
      (({ before with hour := hour }).computeStatisticsForTheCurrentYear pRange (.reset settings)) where
  hours := rfl
  day := congrFun (addDays_day ranges { before with hour := hour })
  week _ inside := addWeeks_week ranges (.reset settings) (addDays pRange { before with hour := hour }) inside
  month := congrFun (addMonths_month ranges
    ((addDays pRange { before with hour := hour }).addWeeks pRange (.reset settings)))
  year := addDays_year ranges { before with hour := hour }

variable {before values : IntermediateValues}

theorem Computed.sums {hour : Nat → Rat}
    (computed : Computed settings pRange first weeks before hour values) (untouched : Untouched pRange before)
    (outside : ∀ h, h < pRange.hour.rangeBegin ∨ pRange.hour.rangeEnd < h → hour h = 0) :
    (∀ d, values.day d = ∑ h ∈ range maxHoursInADay, hour (maxHoursInADay * d + h)) ∧
      values.year = ∑ h ∈ Icc pRange.hour.rangeBegin pRange.hour.rangeEnd, hour h ∧
      values.year = ∑ w ∈ range maxWeeksInAYear, values.week w := by
  have inYear := ranges.inYear
  have some := ranges.weeks_pos
  have blocks (d : Nat) : ∑ j ∈ Ico (maxHoursInADay * d) (maxHoursInADay * (d + 1)), hour j =
      ∑ h ∈ range maxHoursInADay, hour (maxHoursInADay * d + h) := by
    rw [sum_Ico_eq_sum_range]
    exact sum_congr (congrArg range (by rw [Nat.mul_succ, Nat.add_sub_cancel_left])) fun _ _ => rfl
  refine ⟨fun d => ?_, ?_, ?_⟩
  · rw [computed.day d]
    split_ifs with inside
    · exact blocks d
    · rw [untouched.day d ((not_simulated ranges).mpr inside)]
      symm
      apply sum_eq_zero
      intro h ofDay
      have late := mem_range.mp ofDay
      apply outside
      rw [ranges.hour]
      unfold maxHoursInADay at late ⊢
      unfold Limits.of
      dsimp only
      omega
  · have all := sum_blocks (fun d => Nat.mul_le_mul_left maxHoursInADay (Nat.le_succ d)) hour first (7 * weeks)
    have last : 24 * (first + 7 * weeks) - 1 + 1 = maxHoursInADay * (first + 7 * weeks) := by
      unfold maxHoursInADay
      omega
    rw [computed.year, ranges.hour, simulated_eq ranges]
    unfold Limits.of
    dsimp only
    rw [← Ico_add_one_right_eq_Icc, last]
    refine Eq.trans (sum_congr rfl fun d inside => ?_) all
    rw [computed.day d, if_pos (mem_Ico.mp inside)]
  · rw [computed.year, sum_congr rfl fun w inside => computed.week w (mem_range.mp inside)]
    symm
    apply sum_fiberwise_of_maps_to
    intro d inside
    exact mem_range.mpr ((inRange ranges).weeks d inside)

theorem Computed.right_iff {hour : Nat → Rat}
    (computed : Computed settings pRange first weeks before hour values) (untouched : Untouched pRange before)
    (outside : ∀ h, h < pRange.hour.rangeBegin ∨ pRange.hour.rangeEnd < h → hour h = 0) :
    Statistics pRange (.reset settings) values ↔
      (LateFirstDay settings first → ∑ h ∈ range maxHoursInADay, hour (maxHoursInADay * first + h) = 0) := by
  obtain ⟨dayOfHours, yearOfHours, yearOfWeeks⟩ := computed.sums ranges untouched outside
  have inYear := ranges.inYear
  have some := ranges.weeks_pos
  have otherDays : ∀ d ∉ simulated pRange, values.day d = 0 := fun d notSimulated => by
    rw [computed.day d, if_neg ((not_simulated ranges).mp notSimulated)]
    exact untouched.day d notSimulated
  rw [← dayOfHours first]
  constructor
  · rintro statistics ⟨leap, dayMonth, late⟩
    -- the month before the first one has the first day, and is not filled
    obtain ⟨ordered, monthInYear⟩ := month_bounds ranges
    have start := ranges.firstMonth.dayYear_eq
    change first = _ + ((Calendar.reset settings.withoutLeapDay).hours (maxHoursInADay * first)).dayMonth at start
    rw [dayMonth, Nat.add_zero] at start
    rw [month_first ranges] at late
    obtain ⟨m, next⟩ : ∃ m, m + 1 = pRange.month.rangeBegin := ⟨pRange.month.rangeBegin - 1, by omega⟩
    have inside : m < maxMonths := by omega
    have notFilled := computed.month m
    rw [if_neg (by omega), untouched.month m (by omega), statistics.month m inside, sum_month ranges otherDays inside]
      at notFilled
    have shift := Calendar.daysBefore_leap settings (show m + 1 < 14 by unfold maxMonths at inside; omega)
    rw [if_pos ⟨leap, by omega⟩, next, ← start] at shift
    have length := (Calendar.monthDays_bounds settings (show m < 13 by unfold maxMonths at inside; omega)).1
    have following := Calendar.daysBefore_succ settings m
    rw [next] at following
    rw [← notFilled, next]
    symm
    apply sum_eq_single_of_mem first (mem_Ico.mpr ⟨by omega, by omega⟩)
    intro d inMonth apart
    have bounds := mem_Ico.mp inMonth
    exact otherDays d ((not_simulated ranges).mpr (by omega))
  · intro fine
    have monthOfDays (m : Nat) (inside : m < maxMonths) : values.month m =
        ∑ d ∈ Ico (Calendar.daysBefore settings m) (Calendar.daysBefore settings (m + 1)), values.day d := by
      rw [computed.month m]
      split_ifs with simulatedMonth
      · rfl
      · rw [untouched.month m simulatedMonth, sum_otherMonth ranges otherDays inside simulatedMonth fine]
    exact
      { inRange := inRange ranges
        day := fun d _ => by rw [computed.hours]; exact dayOfHours d
        week := computed.week
        month := fun m inside => by rw [sum_month ranges otherDays inside, monthOfDays m inside]
        yearOfHours := by rw [computed.hours]; exact yearOfHours
        yearOfDays := computed.year
        yearOfWeeks := yearOfWeeks
        yearOfMonths := by
          rw [computed.year, sum_congr rfl fun m inside => monthOfDays m (mem_range.mp inside),
            sum_months ranges otherDays] }

end

section
variable {settings : Calendar.Settings} {startKey endKey : Option Nat} {nbYears effectiveNbYears : Nat}
  {limits : StudyRangeLimits}

theorem accepted_of
    (accepted : initializeRangeLimits (.reset settings) (loadSimulationDays startKey endKey) nbYears effectiveNbYears =
      .ok limits) : ∃ weeks, limits.Of settings (loadSimulationDays startKey endKey).first weeks := by
  have starts := loadSimulationDays_first startKey endKey
  have ends := loadSimulationDays_end startKey endKey
  exact initializeRangeLimits_of (by omega) ends.1 ends.2 accepted

/-- After any years, the statistics of the last one are right exactly where its first day is not late, or has nothing
to add.
-/
theorem statistics_iff
    (accepted : initializeRangeLimits (.reset settings.withoutLeapDay) (loadSimulationDays startKey endKey) nbYears
      effectiveNbYears = .ok limits) (earlier : List (Nat → Rat)) {hour : Nat → Rat}
    (outside : ∀ h, h < limits.hour.rangeBegin ∨ limits.hour.rangeEnd < h → hour h = 0) :
    Statistics limits (.reset settings) (afterYears limits (.reset settings) (earlier ++ [hour])) ↔
      (LateFirstDay settings (loadSimulationDays startKey endKey).first →
        ∑ h ∈ range maxHoursInADay, hour (maxHoursInADay * (loadSimulationDays startKey endKey).first + h) = 0) := by
  obtain ⟨weeks, ranges⟩ := accepted_of accepted
  rw [afterYears, List.foldl_append]
  exact (computed ranges _ hour).right_iff ranges (afterYears_untouched ranges earlier) outside

end

def ones (limits : StudyRangeLimits) (h : Nat) : Rat :=
  if h < limits.hour.rangeBegin ∨ limits.hour.rangeEnd < h then 0 else 1

def leapYear : Calendar.Settings := ⟨.monday, .monday, january, january_lt, true⟩

/-- A simulation of the whole year has no late day. -/
theorem leapYear_statistics :
    ∃ limits,
      initializeRangeLimits (.reset leapYear.withoutLeapDay) (loadSimulationDays none none) 1 1 = .ok limits ∧
      Statistics limits (.reset leapYear) (afterYears limits (.reset leapYear) ([] ++ [ones limits])) := by
  obtain ⟨limits, accepted⟩ := (initializeRangeLimits_isOk_iff leapYear.withoutLeapDay
    (by decide : (loadSimulationDays none none).first < _) (by decide) (by decide) 1 1).mpr (by decide)
  refine ⟨limits, accepted, (statistics_iff accepted [] fun h apart => if_pos apart).mpr fun late => ?_⟩
  have month := (month_eq_iff leapYear.withoutLeapDay (by decide : 0 < Calendar.maxDaysInYear) 0).mpr
    (by decide +kernel)
  exact absurd (late.2.2.trans_eq month) (Nat.not_lt_zero _)

theorem leapYear_march : LateFirstDay leapYear 59 := by
  have month := (month_eq_iff leapYear.withoutLeapDay (by decide : 59 < Calendar.maxDaysInYear) 2).mpr
    (by decide +kernel)
  have dated : Calendar.Dated leapYear.withoutLeapDay _ _ 59 :=
    Calendar.reset_hours_dated (by decide : maxHoursInADay * 59 < Calendar.maxHoursInYear)
  have day := dated.dayYear_eq
  rw [month, show Calendar.daysBefore leapYear.withoutLeapDay 2 = 59 by decide +kernel] at day
  unfold LateFirstDay
  dsimp only
  rw [month, Calendar.mappingMonths_february]
  exact ⟨rfl, by omega, by decide⟩

/-- From the first of March on the statistics of that year are wrong: February has a day in its output, the first
simulated one, and is not filled.
-/
theorem leapYear_march_not_statistics :
    ∃ limits,
      initializeRangeLimits (.reset leapYear.withoutLeapDay) (loadSimulationDays (some 60) none) 1 1 = .ok limits ∧
      (∀ h, h < limits.hour.rangeBegin ∨ limits.hour.rangeEnd < h → ones limits h = 0) ∧
      ¬ Statistics limits (.reset leapYear) (afterYears limits (.reset leapYear) [ones limits]) := by
  obtain ⟨limits, accepted⟩ := (initializeRangeLimits_isOk_iff leapYear.withoutLeapDay
    (by decide : (loadSimulationDays (some 60) none).first < _) (by decide) (by decide) 1 1).mpr (by decide)
  have outside (h : Nat) (apart : h < limits.hour.rangeBegin ∨ limits.hour.rangeEnd < h) : ones limits h = 0 :=
    if_pos apart
  refine ⟨limits, accepted, outside, fun statistics => ?_⟩
  obtain ⟨weeks, ranges⟩ := accepted_of accepted
  have nothing := ((computed ranges _ _).right_iff ranges (afterYears_untouched ranges []) outside).mp statistics
    leapYear_march
  have long := ranges.weeks_pos
  have hours : ∀ h ∈ range maxHoursInADay, ones limits (maxHoursInADay * 59 + h) = 1 := by
    intro h inside
    have early := mem_range.mp inside
    refine if_neg ?_
    rw [ranges.hour]
    unfold maxHoursInADay at early ⊢
    unfold Limits.of
    dsimp only
    rw [show (loadSimulationDays (some 60) none).first = 59 from rfl]
    omega
  have sum : ∑ h ∈ range maxHoursInADay, ones limits (maxHoursInADay * 59 + h) = 0 := nothing
  rw [sum_congr rfl hours] at sum
  exact absurd sum (by decide +kernel)

end IntermediateValues

end Antares.Solver.Variable
