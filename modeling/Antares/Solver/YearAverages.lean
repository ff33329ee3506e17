import Antares.Solver.IntermediateValues
import Mathlib.Algebra.BigOperators.Field
import Mathlib.Algebra.Order.Field.Basic

/-! The averages of a variable over the days, weeks and months of a year, and over the year.
-/

set_option autoImplicit false

namespace Antares.Solver.Variable.IntermediateValues

open Finset Data Library

section
variable (pRange : StudyRangeLimits) (calendar : Calendar) (values : IntermediateValues)

def computeDailyAveragesForCurrentYear : IntermediateValues :=
  { values with
    day := (fillBlocks values.hour (fun _ => maxHoursInADay) (fun _ day_sum => day_sum / maxHoursInADay)
      (each pRange.day) (values.day, pRange.hour.rangeBegin)).1 }

/-- The days of a week are those of the calendar, and their number is the one of the simulation. -/
def computeWeeklyAveragesForCurrentYear : IntermediateValues :=
  let week := addByBlock (fun d => (calendar.days d).week) values.day
    (fun w => if w < maxWeeksInAYear then 0 else values.week w) (each pRange.day)
  { values with
    week := (each pRange.week).foldl
      (fun week w => Function.update week w (week w / pRange.simulationDaysPerWeek w)) week }

def computeMonthlyAveragesForCurrentYear : IntermediateValues :=
  { values with
    month := (fillBlocks values.day (fun m => (calendar.months m).days)
      (fun m month_sum => month_sum / pRange.simulationDaysPerMonth m) (each pRange.month)
      (values.month, (calendar.months pRange.month.rangeBegin).daysYear.first)).1 }

def computeYearlyAveragesForCurrentYear : IntermediateValues :=
  { values with
    year := (each pRange.week).foldl (fun year w => year + values.week w) 0 / pRange.week.rangeCount }

def computeAveragesForCurrentYearFromHourlyResults : IntermediateValues :=
  (((values.computeDailyAveragesForCurrentYear pRange).computeWeeklyAveragesForCurrentYear pRange
    calendar).computeMonthlyAveragesForCurrentYear pRange calendar).computeYearlyAveragesForCurrentYear pRange

/-- The averages after some years, one after the other in the same arrays. -/
def averagesAfterYears (years : List (Nat → Rat)) : IntermediateValues :=
  years.foldl
    (fun values hour =>
      ({ values with hour := hour }).computeAveragesForCurrentYearFromHourlyResults pRange calendar) zero

def simulatedHours : Finset Nat := Icc pRange.hour.rangeBegin pRange.hour.rangeEnd

def mean (hour : Nat → Rat) (hours : Finset Nat) : Rat := (∑ h ∈ hours, hour h) / hours.card

/-- The day, the week, the month and the year of a simulated hour have the mean of their simulated hours. -/
structure Averages : Prop where
  day : ∀ h ∈ simulatedHours pRange, values.day (calendar.hours h).dayYear =
    mean values.hour {other ∈ simulatedHours pRange | (calendar.hours other).dayYear = (calendar.hours h).dayYear}
  week : ∀ h ∈ simulatedHours pRange, values.week (calendar.hours h).week =
    mean values.hour {other ∈ simulatedHours pRange | (calendar.hours other).week = (calendar.hours h).week}
  month : ∀ h ∈ simulatedHours pRange, values.month (calendar.hours h).month =
    mean values.hour {other ∈ simulatedHours pRange | (calendar.hours other).month = (calendar.hours h).month}
  year : values.year = mean values.hour (simulatedHours pRange)

end

/-- The simulation starts with a week. Where the output has a leap day, the simulated year does not start with
February, and no month that comes after February starts in the simulation.
-/
structure AveragesFit (settings : Calendar.Settings) (pRange : StudyRangeLimits) : Prop where
  wholeWeeks : (pRange.day.rangeBegin + Calendar.weekOffset settings.withoutLeapDay) % 7 = 0
  leapDay : settings.leapYear = true → settings.firstMonth ≠ february ∧
    ∀ month < 12, (Calendar.reset settings).mappingMonths february < month →
      Calendar.daysBefore settings.withoutLeapDay month ∉ simulated pRange

section
variable {settings : Calendar.Settings} {pRange : StudyRangeLimits} {first weeks : Nat}
  (ranges : pRange.Of settings.withoutLeapDay first weeks)

def dayMean (hour : Nat → Rat) (d : Nat) : Rat :=
  (∑ j ∈ Ico (maxHoursInADay * d) (maxHoursInADay * (d + 1)), hour j) / maxHoursInADay

include ranges

theorem each_week : each pRange.week = List.range' pRange.week.rangeBegin pRange.week.rangeCount := by
  have some := ranges.weeks_pos
  rw [each, ranges.week]
  exact congrArg (List.range' _) (by simp only [Limits.of]; omega)

theorem week_count : pRange.week.rangeBegin + pRange.week.rangeCount = pRange.week.rangeEnd + 1 := by
  have some := ranges.weeks_pos
  rw [ranges.week]
  simp only [Limits.of]
  omega

theorem week_end_lt : pRange.week.rangeEnd < maxWeeksInAYear := by
  have inYear := ranges.inYear
  have offset := Calendar.weekOffset_lt settings.withoutLeapDay
  rw [ranges.week]
  unfold maxWeeksInAYear Limits.of
  dsimp only
  omega

variable (values : IntermediateValues)

theorem dailyAverages_day (d : Nat) :
    (values.computeDailyAveragesForCurrentYear pRange).day d =
      if d ∈ simulated pRange then dayMean values.hour d else values.day d := by
  have start : pRange.hour.rangeBegin = maxHoursInADay * first := by rw [ranges.hour]; rfl
  have next (i : Nat) : maxHoursInADay * (i + 1) = maxHoursInADay * i + maxHoursInADay := rfl
  unfold computeDailyAveragesForCurrentYear
  dsimp only
  rw [each_day ranges, start, fillBlocks_range' next, simulated_eq ranges]
  exact if_congr mem_Ico.symm rfl rfl

theorem weeklyAverages_week (calendar : Calendar) (values : IntermediateValues) {w : Nat} (inYear : w < maxWeeksInAYear) :
    (values.computeWeeklyAveragesForCurrentYear pRange calendar).week w =
      (∑ d ∈ simulated pRange with (calendar.days d).week = w, values.day d) /
        if pRange.week.rangeBegin ≤ w ∧ w ≤ pRange.week.rangeEnd then (pRange.simulationDaysPerWeek w : Rat) else 1 := by
  unfold computeWeeklyAveragesForCurrentYear
  dsimp only
  rw [each_week ranges, foldl_update_range' fun w (value : Rat) => value / (pRange.simulationDaysPerWeek w : Rat),
    week_count ranges, each_day ranges,
    addByBlock_range', if_pos inYear, zero_add, simulated_eq ranges]
  by_cases inside : pRange.week.rangeBegin ≤ w ∧ w ≤ pRange.week.rangeEnd
  · rw [if_pos ⟨inside.1, Nat.lt_succ_of_le inside.2⟩, if_pos inside]
  · rw [if_neg (by omega), if_neg inside, div_one]

theorem monthlyAverages_month (m : Nat) :
    (values.computeMonthlyAveragesForCurrentYear pRange (.reset settings)).month m =
      if pRange.month.rangeBegin ≤ m ∧ m ≤ pRange.month.rangeEnd then
        (∑ d ∈ Ico (Calendar.daysBefore settings m) (Calendar.daysBefore settings (m + 1)), values.day d) /
          pRange.simulationDaysPerMonth m
      else values.month m := by
  obtain ⟨ordered, inYear⟩ := month_bounds ranges
  unfold computeMonthlyAveragesForCurrentYear each
  dsimp only
  rw [Calendar.reset_months_first settings (ordered.trans_lt inYear)]
  simp only [Calendar.reset_months_days]
  rw [fillBlocks_range' (fun m => Calendar.daysBefore_succ settings m)]
  exact if_congr (by omega) rfl rfl

theorem yearlyAverages_year :
    (values.computeYearlyAveragesForCurrentYear pRange).year =
      (∑ w ∈ Icc pRange.week.rangeBegin pRange.week.rangeEnd, values.week w) / pRange.week.rangeCount := by
  unfold computeYearlyAveragesForCurrentYear
  dsimp only
  rw [each_week ranges, foldl_range'_add, zero_add, week_count ranges, Ico_add_one_right_eq_Icc]

structure Averaged (settings : Calendar.Settings) (pRange : StudyRangeLimits) (before : IntermediateValues)
    (hour : Nat → Rat) (values : IntermediateValues) : Prop where
  hours : values.hour = hour
  day : ∀ d, values.day d = if d ∈ simulated pRange then dayMean hour d else before.day d
  week : ∀ w < maxWeeksInAYear, values.week w =
    (∑ d ∈ simulated pRange with ((Calendar.reset settings).days d).week = w, values.day d) /
      if pRange.week.rangeBegin ≤ w ∧ w ≤ pRange.week.rangeEnd then (pRange.simulationDaysPerWeek w : Rat) else 1
  month : ∀ m, values.month m =
    if pRange.month.rangeBegin ≤ m ∧ m ≤ pRange.month.rangeEnd then
      (∑ d ∈ Ico (Calendar.daysBefore settings m) (Calendar.daysBefore settings (m + 1)), values.day d) /
        pRange.simulationDaysPerMonth m
    else before.month m
  year : values.year = (∑ w ∈ Icc pRange.week.rangeBegin pRange.week.rangeEnd, values.week w) / pRange.week.rangeCount

theorem averaged (before : IntermediateValues) (hour : Nat → Rat) :
    Averaged settings pRange before hour
      (({ before with hour := hour }).computeAveragesForCurrentYearFromHourlyResults pRange (.reset settings)) where
  hours := rfl
  day := dailyAverages_day ranges { before with hour := hour }
  week _ inYear := weeklyAverages_week ranges (.reset settings) _ inYear
  month := monthlyAverages_month ranges _
  year := yearlyAverages_year ranges _

theorem averagesAfterYears_untouched (years : List (Nat → Rat)) :
    Untouched pRange (averagesAfterYears pRange (.reset settings) years) := by
  induction years using List.reverseRecOn with
  | nil => exact ⟨fun _ _ => rfl, fun _ _ => rfl⟩
  | append_singleton years hour earlier =>
    rw [averagesAfterYears, List.foldl_append]
    have after := averaged ranges (averagesAfterYears pRange (.reset settings) years) hour
    exact
      { day := fun d outside => ((after.day d).trans (if_neg outside)).trans (earlier.day d outside)
        month := fun m outside => ((after.month m).trans (if_neg outside)).trans (earlier.month m outside) }

theorem simulatedHours_eq :
    simulatedHours pRange = Ico (maxHoursInADay * first) (maxHoursInADay * (first + 7 * weeks)) := by
  have some := ranges.weeks_pos
  have last : 24 * (first + 7 * weeks) - 1 + 1 = maxHoursInADay * (first + 7 * weeks) := by
    unfold maxHoursInADay
    omega
  rw [simulatedHours, ranges.hour, ← last]
  exact (Ico_add_one_right_eq_Icc _ _).symm

theorem sum_simulatedHours {M : Type} [AddCommMonoid M] (among : Nat → Prop) [DecidablePred among] (value : Nat → M) :
    ∑ h ∈ simulatedHours pRange with among (h / maxHoursInADay), value h =
      ∑ d ∈ simulated pRange with among d, ∑ j ∈ Ico (maxHoursInADay * d) (maxHoursInADay * (d + 1)), value j := by
  rw [sum_filter, sum_filter, simulatedHours_eq ranges, simulated_eq ranges,
    ← sum_blocks fun d => Nat.mul_le_mul_left maxHoursInADay (Nat.le_succ d)]
  refine sum_congr rfl fun d _ => ?_
  have sameDay : ∀ h ∈ Ico (maxHoursInADay * d) (maxHoursInADay * (d + 1)), h / maxHoursInADay = d := by
    intro h inside
    have bounds := mem_Ico.mp inside
    unfold maxHoursInADay at bounds ⊢
    omega
  by_cases counted : among d
  · rw [if_pos counted]
    exact sum_congr rfl fun h inside => if_pos (by rwa [sameDay h inside])
  · rw [if_neg counted]
    exact sum_eq_zero fun h inside => if_neg (by rwa [sameDay h inside])

theorem mean_days (hour : Nat → Rat) (among : Nat → Prop) [DecidablePred among] :
    mean hour {h ∈ simulatedHours pRange | among (h / maxHoursInADay)} =
      (∑ d ∈ simulated pRange with among d, dayMean hour d) / #{d ∈ simulated pRange | among d} := by
  have number : #{h ∈ simulatedHours pRange | among (h / maxHoursInADay)} =
      maxHoursInADay * #{d ∈ simulated pRange | among d} := by
    rw [card_eq_sum_ones, sum_simulatedHours ranges among, card_eq_sum_ones, mul_sum]
    refine sum_congr rfl fun d _ => ?_
    rw [← card_eq_sum_ones, Nat.card_Ico, Nat.mul_succ, Nat.add_sub_cancel_left, mul_one]
  have nonzero : (maxHoursInADay : Rat) ≠ 0 := by decide +kernel
  unfold mean dayMean
  rw [number, sum_simulatedHours ranges among, ← sum_div, div_div, Nat.cast_mul]

theorem averages_field_iff {label dayLabel : Nat → Nat}
    (agree : ∀ h ∈ simulatedHours pRange, label h = dayLabel (h / maxHoursInADay)) (hour value : Nat → Rat) :
    (∀ h ∈ simulatedHours pRange,
        value (label h) = mean hour {other ∈ simulatedHours pRange | label other = label h}) ↔
      ∀ d ∈ simulated pRange, value (dayLabel d) =
        (∑ other ∈ simulated pRange with dayLabel other = dayLabel d, dayMean hour other) /
          #{other ∈ simulated pRange | dayLabel other = dayLabel d} := by
  have same {h : Nat} (inside : h ∈ simulatedHours pRange) :
      mean hour {other ∈ simulatedHours pRange | label other = label h} =
        (∑ other ∈ simulated pRange with dayLabel other = dayLabel (h / maxHoursInADay), dayMean hour other) /
          #{other ∈ simulated pRange | dayLabel other = dayLabel (h / maxHoursInADay)} := by
    rw [← mean_days ranges hour fun d => dayLabel d = dayLabel (h / maxHoursInADay)]
    refine congrArg (mean hour) (filter_congr fun other listed => ?_)
    rw [agree other listed, agree h inside]
  constructor
  · intro means d inside
    have early : maxHoursInADay * d ∈ simulatedHours pRange := by
      rw [simulated_eq ranges, mem_Ico] at inside
      rw [simulatedHours_eq ranges, mem_Ico]
      unfold maxHoursInADay
      omega
    have today : maxHoursInADay * d / maxHoursInADay = d := Nat.mul_div_cancel_left d (by decide)
    have value := means _ early
    rw [same early, agree _ early, today] at value
    exact value
  · intro means h inside
    rw [same inside, agree h inside]
    apply means
    rw [simulatedHours_eq ranges, mem_Ico] at inside
    rw [simulated_eq ranges, mem_Ico]
    unfold maxHoursInADay at inside ⊢
    omega

structure AveragesByDay (settings : Calendar.Settings) (pRange : StudyRangeLimits) (hour : Nat → Rat)
    (values : IntermediateValues) : Prop where
  day : ∀ d ∈ simulated pRange, values.day d = dayMean hour d
  week : ∀ d ∈ simulated pRange, values.week ((Calendar.reset settings).days d).week =
    (∑ other ∈ simulated pRange with
        ((Calendar.reset settings).days other).week = ((Calendar.reset settings).days d).week, dayMean hour other) /
      #{other ∈ simulated pRange |
        ((Calendar.reset settings).days other).week = ((Calendar.reset settings).days d).week}
  month : ∀ d ∈ simulated pRange, values.month ((Calendar.reset settings).hours (maxHoursInADay * d)).month =
    (∑ other ∈ simulated pRange with
        ((Calendar.reset settings).hours (maxHoursInADay * other)).month =
          ((Calendar.reset settings).hours (maxHoursInADay * d)).month, dayMean hour other) /
      #{other ∈ simulated pRange | ((Calendar.reset settings).hours (maxHoursInADay * other)).month =
          ((Calendar.reset settings).hours (maxHoursInADay * d)).month}
  year : values.year = (∑ d ∈ simulated pRange, dayMean hour d) / #(simulated pRange)

theorem averages_iff {hour : Nat → Rat} {values : IntermediateValues} (hours : values.hour = hour) :
    Averages pRange (.reset settings) values ↔ AveragesByDay settings pRange hour values := by
  have inYear := ranges.inYear
  have early {h : Nat} (inside : h ∈ simulatedHours pRange) : h < Calendar.maxHoursInYear := by
    rw [simulatedHours_eq ranges, mem_Ico] at inside
    unfold maxHoursInADay at inside
    unfold Calendar.maxHoursInYear
    omega
  have inCalendar {h : Nat} (inside : h ∈ simulatedHours pRange) : h / maxHoursInADay < Calendar.maxDaysInYear := by
    have bound := early inside
    unfold Calendar.maxHoursInYear at bound
    unfold maxHoursInADay Calendar.maxDaysInYear
    omega
  have dayYear (h : Nat) (inside : h ∈ simulatedHours pRange) :
      ((Calendar.reset settings).hours h).dayYear = id (h / maxHoursInADay) :=
    Calendar.reset_hours_dayYear settings (early inside)
  have week (h : Nat) (inside : h ∈ simulatedHours pRange) :
      ((Calendar.reset settings).hours h).week = ((Calendar.reset settings).days (h / maxHoursInADay)).week := by
    rw [Calendar.reset_hours_week settings (early inside), Calendar.reset_days_week settings (inCalendar inside)]
    rfl
  have month (h : Nat) (inside : h ∈ simulatedHours pRange) : ((Calendar.reset settings).hours h).month =
      ((Calendar.reset settings).hours (maxHoursInADay * (h / maxHoursInADay))).month := by
    have dated : Calendar.Dated settings _ _ (h / maxHoursInADay) := Calendar.reset_hours_dated (early inside)
    have next := Calendar.daysBefore_succ settings ((Calendar.reset settings).hours h).month
    have day := dated.dayYear_eq
    have length := dated.dayMonth_lt
    exact ((month_eq_iff settings (inCalendar inside) _).mpr ⟨by omega, by omega⟩).symm
  have single (d : Nat) (inside : d ∈ simulated pRange) : (∑ other ∈ simulated pRange with id other = id d,
      dayMean hour other) / #{other ∈ simulated pRange | id other = id d} = dayMean hour d := by
    simp [filter_eq', inside]
  have days := averages_field_iff ranges dayYear hour values.day
  have year : mean hour (simulatedHours pRange) = (∑ d ∈ simulated pRange, dayMean hour d) / #(simulated pRange) := by
    have all := mean_days ranges hour fun _ => True
    rwa [filter_true, filter_true] at all
  constructor
  · rintro ⟨day, weekMeans, monthMeans, yearMean⟩
    rw [hours] at day weekMeans monthMeans yearMean
    exact
      { day := fun d inside => (days.mp day d inside).trans (single d inside)
        week := (averages_field_iff ranges week hour values.week).mp weekMeans
        month := (averages_field_iff ranges month hour values.month).mp monthMeans
        year := yearMean.trans year }
  · intro averages
    constructor
    · rw [hours]
      exact days.mpr fun d inside => (averages.day d inside).trans (single d inside).symm
    · rw [hours]
      exact (averages_field_iff ranges week hour values.week).mpr averages.week
    · rw [hours]
      exact (averages_field_iff ranges month hour values.month).mpr averages.month
    · rw [hours]
      exact averages.year.trans year.symm

variable (other : Calendar.Settings)

theorem card_week (w : Nat) :
    #{d ∈ simulated pRange | ((Calendar.reset other).days d).week = w} =
      min (7 * w + 7 - Calendar.weekOffset other) (first + 7 * weeks) - max (7 * w - Calendar.weekOffset other) first := by
  have inYear := ranges.inYear
  have offset := Calendar.weekOffset_lt other
  rw [← Nat.card_Ico]
  congr 1
  ext d
  rw [simulated_eq ranges, mem_filter, mem_Ico, mem_Ico]
  by_cases early : d < Calendar.maxDaysInYear
  · rw [Calendar.reset_days_week other early]
    omega
  · unfold Calendar.maxDaysInYear at early
    omega

theorem card_month (m : Nat) :
    #{d ∈ simulated pRange | ((Calendar.reset other).hours (maxHoursInADay * d)).month = m} =
      min (Calendar.daysBefore other (m + 1)) (first + 7 * weeks) - max (Calendar.daysBefore other m) first := by
  have inYear := ranges.inYear
  rw [← Nat.card_Ico]
  congr 1
  ext d
  rw [simulated_eq ranges, mem_filter, mem_Ico, mem_Ico]
  by_cases early : d < Calendar.maxDaysInYear
  · rw [month_eq_iff other early]
    omega
  · unfold Calendar.maxDaysInYear at early
    omega

theorem perWeek_eq (w : Nat) : pRange.simulationDaysPerWeek w =
    #{d ∈ simulated pRange | ((Calendar.reset settings.withoutLeapDay).days d).week = w} := by
  have some := ranges.weeks_pos
  have long : first + 7 * weeks - 1 + 1 - first = 7 * weeks := by omega
  have counted : daysPerWeek (.reset settings.withoutLeapDay) first (first + 7 * weeks - 1) w =
      addByBlock (fun d => ((Calendar.reset settings.withoutLeapDay).days d).week) (fun _ => 1) (fun _ => 0)
        (List.range' first (7 * weeks)) w := by
    unfold daysPerWeek
    rw [long]
    rfl
  rw [ranges.perWeek, counted, addByBlock_range', zero_add, card_eq_sum_ones, simulated_eq ranges]

omit ranges in
/-- The hours of one day only. -/
def ofDay (d h : Nat) : Rat := if h / maxHoursInADay = d then 1 else 0

omit ranges in
theorem dayMean_ofDay (d other : Nat) : dayMean (ofDay d) other = if other = d then 1 else 0 := by
  have nonzero : (maxHoursInADay : Rat) ≠ 0 := by decide +kernel
  have all : ∀ j ∈ Ico (maxHoursInADay * other) (maxHoursInADay * (other + 1)), ofDay d j = if other = d then 1 else 0 := by
    intro j inside
    have bounds := mem_Ico.mp inside
    have today : j / maxHoursInADay = other := by
      unfold maxHoursInADay at bounds ⊢
      omega
    rw [ofDay, today]
  unfold dayMean
  rw [sum_congr rfl all, sum_const, Nat.card_Ico, Nat.mul_succ, Nat.add_sub_cancel_left, nsmul_eq_mul,
    mul_div_cancel_left₀ _ nonzero]

omit ranges in
theorem eq_of_one_div_eq {left right : Nat} (same : (1 : Rat) / left = 1 / right) : left = right := by
  rw [one_div, one_div] at same
  exact_mod_cast inv_injective same

/-- What the averages of a single day say of its week and of its month. -/
structure DayFits (settings : Calendar.Settings) (pRange : StudyRangeLimits) (d : Nat) : Prop where
  perWeek : pRange.simulationDaysPerWeek ((Calendar.reset settings).days d).week =
    #{other ∈ simulated pRange | ((Calendar.reset settings).days other).week = ((Calendar.reset settings).days d).week}
  year : pRange.simulationDaysPerWeek ((Calendar.reset settings).days d).week * pRange.week.rangeCount = #(simulated pRange)
  perMonth : pRange.simulationDaysPerMonth ((Calendar.reset settings).hours (maxHoursInADay * d)).month =
    #{other ∈ simulated pRange | ((Calendar.reset settings).hours (maxHoursInADay * other)).month =
      ((Calendar.reset settings).hours (maxHoursInADay * d)).month}

theorem dayFits_of_averages {d : Nat} (inside : d ∈ simulated pRange) {values : IntermediateValues}
    (averaged : Averaged settings pRange zero (ofDay d) values)
    (right : AveragesByDay settings pRange (ofDay d) values) : DayFits settings pRange d := by
  have inYear := ranges.inYear
  have members := inside
  rw [simulated_eq ranges, mem_Ico] at members
  have days (other : Nat) : values.day other = if other = d then 1 else 0 := by
    rw [averaged.day other, dayMean_ofDay]
    split_ifs with listed same same
    · rfl
    · rfl
    · exact absurd inside (same ▸ listed)
    · rfl
  -- the sums over days that have the day among them, and over others
  have sums (among : Nat → Prop) [DecidablePred among] :
      ∑ other ∈ simulated pRange with among other, (if other = d then (1 : Rat) else 0) = if among d then 1 else 0 := by
    rw [sum_filter, sum_eq_single d]
    · rw [if_pos rfl]
    · intro other _ apart
      rw [if_neg apart, ite_self]
    · exact fun notSimulated => absurd inside notSimulated
  have weekIn := (inRange ranges).weeks d inside
  have weekOf (w : Nat) (early : w < maxWeeksInAYear) : values.week w =
      (if ((Calendar.reset settings).days d).week = w then 1 else 0) /
        if pRange.week.rangeBegin ≤ w ∧ w ≤ pRange.week.rangeEnd then (pRange.simulationDaysPerWeek w : Rat) else 1 := by
    rw [averaged.week w early]
    simp only [days]
    rw [sums]
  have endEarly := week_end_lt ranges
  have positive : 0 < #(simulated pRange) := card_pos.mpr ⟨d, inside⟩
  have weekMean := right.week d inside
  have monthMean := right.month d inside
  have yearMean := right.year
  simp only [dayMean_ofDay] at weekMean monthMean yearMean
  rw [sums, if_pos rfl] at weekMean monthMean
  rw [sum_eq_single_of_mem d inside fun _ _ apart => if_neg apart, if_pos rfl, averaged.year] at yearMean
  generalize weekEq : ((Calendar.reset settings).days d).week = week at *
  -- the week is one of the simulation, or the year has no part of the day
  have inWeeks : week ∈ Icc pRange.week.rangeBegin pRange.week.rangeEnd := by
    by_contra outside
    rw [sum_eq_zero, zero_div] at yearMean
    · exact (one_div_pos.mpr (Nat.cast_pos.mpr positive)).ne yearMean
    · intro w listed
      rw [weekOf w ((mem_Icc.mp listed).2.trans_lt endEarly), if_neg fun (same : week = w) => outside (same ▸ listed), zero_div]
  rw [sum_eq_single_of_mem week inWeeks fun w listed apart => by
    rw [weekOf w ((mem_Icc.mp listed).2.trans_lt endEarly), if_neg (Ne.symm apart), zero_div], weekOf week weekIn,
    if_pos rfl, if_pos (mem_Icc.mp inWeeks), div_div] at yearMean
  rw [weekOf week weekIn, if_pos rfl, if_pos (mem_Icc.mp inWeeks)] at weekMean
  have monthOf := averaged.month ((Calendar.reset settings).hours (maxHoursInADay * d)).month
  have inMonth : d ∈ Ico (Calendar.daysBefore settings ((Calendar.reset settings).hours (maxHoursInADay * d)).month)
      (Calendar.daysBefore settings (((Calendar.reset settings).hours (maxHoursInADay * d)).month + 1)) := by
    have inCalendar : d < Calendar.maxDaysInYear := by
      unfold Calendar.maxDaysInYear
      omega
    exact mem_Ico.mpr ((month_eq_iff settings inCalendar _).mp rfl)
  simp only [days] at monthOf
  rw [sum_eq_single_of_mem d inMonth fun _ _ apart => if_neg apart, if_pos rfl, monthMean] at monthOf
  refine ⟨?_, ?_, ?_⟩
  · rw [weekEq]
    exact eq_of_one_div_eq weekMean
  · rw [weekEq]
    exact eq_of_one_div_eq (by push_cast; exact yearMean)
  · split_ifs at monthOf
    · exact (eq_of_one_div_eq monthOf).symm
    · -- a month that is not filled has no mean
      have listed : d ∈ ({other ∈ simulated pRange | ((Calendar.reset settings).hours (maxHoursInADay * other)).month =
          ((Calendar.reset settings).hours (maxHoursInADay * d)).month} : Finset Nat) := mem_filter.mpr ⟨inside, rfl⟩
      exact absurd monthOf (one_div_pos.mpr (Nat.cast_pos.mpr (card_pos.mpr ⟨d, listed⟩))).ne'

theorem wholeWeeks_of_fits (fits : ∀ d ∈ simulated pRange, DayFits settings pRange d) :
    (first + Calendar.weekOffset settings) % 7 = 0 ∧ (first + Calendar.weekOffset settings.withoutLeapDay) % 7 = 0 := by
  have some := ranges.weeks_pos
  have inYear := ranges.inYear
  have offset := Calendar.weekOffset_lt settings
  have simulatedOffset := Calendar.weekOffset_lt settings.withoutLeapDay
  have first_mem : first ∈ simulated pRange := by
    rw [simulated_eq ranges, mem_Ico]
    omega
  have last_mem : first + 7 * weeks - 1 ∈ simulated pRange := by
    rw [simulated_eq ranges, mem_Ico]
    omega
  have firstWeek := Calendar.reset_days_week settings
    (show first < Calendar.maxDaysInYear by unfold Calendar.maxDaysInYear; omega)
  have lastWeek := Calendar.reset_days_week settings
    (show first + 7 * weeks - 1 < Calendar.maxDaysInYear by unfold Calendar.maxDaysInYear; omega)
  have number : #(simulated pRange) = 7 * weeks := by
    rw [simulated_eq ranges, Nat.card_Ico]
    omega
  have count : pRange.week.rangeCount = (first + 7 * weeks - 1 + Calendar.weekOffset settings.withoutLeapDay) / 7 -
      (first + Calendar.weekOffset settings.withoutLeapDay) / 7 + 1 := by
    rw [ranges.week]
    rfl
  obtain ⟨firstDays, firstYear, -⟩ := fits first first_mem
  obtain ⟨lastDays, lastYear, -⟩ := fits _ last_mem
  rw [card_week ranges, firstWeek] at firstDays
  rw [card_week ranges, lastWeek] at lastDays
  rw [firstWeek, number] at firstYear
  rw [lastWeek, number] at lastYear
  have same := Nat.eq_of_mul_eq_mul_right (by omega : 0 < pRange.week.rangeCount) (firstYear.trans lastYear.symm)
  rw [firstDays] at same firstYear
  rw [lastDays] at same
  have start : (first + Calendar.weekOffset settings) % 7 = 0 := by
    clear firstYear lastYear
    omega
  have seven : min (7 * ((first + Calendar.weekOffset settings) / 7) + 7 - Calendar.weekOffset settings)
      (first + 7 * weeks) - max (7 * ((first + Calendar.weekOffset settings) / 7) - Calendar.weekOffset settings) first =
        7 := by
    clear firstYear lastYear same
    omega
  rw [seven] at firstYear
  refine ⟨start, ?_⟩
  clear same seven start lastYear
  omega

theorem leapDay_of_fits (fits : ∀ d ∈ simulated pRange, DayFits settings pRange d) (leap : settings.leapYear = true) :
    ∀ month < 12, (Calendar.reset settings).mappingMonths february < month →
      Calendar.daysBefore settings.withoutLeapDay month ∉ simulated pRange := by
  intro month inYear late starts
  -- the first of these months
  induction month using Nat.strong_induction_on with
  | _ month earlier =>
    obtain ⟨before, rfl⟩ : ∃ before, month = before + 1 := ⟨month - 1, by omega⟩
    have shift := Calendar.daysBefore_leap settings (show before < 14 by omega)
    have nextShift := Calendar.daysBefore_leap settings (show before + 1 < 14 by omega)
    rw [if_pos ⟨leap, late⟩] at nextShift
    have next := Calendar.daysBefore_succ settings.withoutLeapDay before
    have length := (Calendar.monthDays_bounds settings.withoutLeapDay (show before < 13 by omega)).1
    have simulatedBefore := earlier before (Nat.lt_succ_self before) (by omega)
    have inside := starts
    rw [simulated_eq ranges, mem_Ico] at starts simulatedBefore
    have days := ranges.inYear
    have inCalendar : Calendar.daysBefore settings.withoutLeapDay (before + 1) < Calendar.maxDaysInYear := by
      unfold Calendar.maxDaysInYear
      omega
    have month : ((Calendar.reset settings).hours
        (maxHoursInADay * Calendar.daysBefore settings.withoutLeapDay (before + 1))).month = before := by
      refine (month_eq_iff settings inCalendar before).mpr ⟨?_, by omega⟩
      rw [shift]
      split_ifs <;> omega
    have perMonth := (fits _ inside).perMonth
    rw [month, card_month ranges, ranges.perMonth, nextShift, min_eq_left starts.2.le, min_eq_left starts.2] at perMonth
    by_cases after : settings.leapYear = true ∧ (Calendar.reset settings).mappingMonths february < before
    · have outside : ¬ (_ ∧ _) := simulatedBefore after.2
      rw [if_pos after] at shift
      rw [max_eq_right (by omega), max_eq_right (by omega)] at perMonth
      omega
    · rw [if_neg after, Nat.add_zero] at shift
      rw [shift] at perMonth
      have below : max (Calendar.daysBefore settings.withoutLeapDay before) first ≤
          Calendar.daysBefore settings.withoutLeapDay (before + 1) := max_le (by omega) starts.1
      omega

theorem averagesFit_of_fits (fits : ∀ d ∈ simulated pRange, DayFits settings pRange d) :
    AveragesFit settings pRange := by
  obtain ⟨outputWeeks, wholeWeeks⟩ := wholeWeeks_of_fits ranges fits
  have start : pRange.day.rangeBegin = first := by rw [ranges.day]; rfl
  refine ⟨by rw [start]; exact wholeWeeks, fun leap => ⟨fun february => ?_, leapDay_of_fits ranges fits leap⟩⟩
  have shifted := Calendar.weekOffset_leap settings
  rw [if_pos ⟨leap, february⟩] at shifted
  omega

theorem perMonth_of_fit (fit : AveragesFit settings pRange) {d : Nat} (inside : d ∈ simulated pRange) :
    let month := ((Calendar.reset settings).hours (maxHoursInADay * d)).month
    (pRange.month.rangeBegin ≤ month ∧ month ≤ pRange.month.rangeEnd) ∧
      pRange.simulationDaysPerMonth month =
        #{other ∈ simulated pRange | ((Calendar.reset settings).hours (maxHoursInADay * other)).month = month} := by
  have days := ranges.inYear
  have start := ranges.firstMonth
  obtain ⟨lastDay, last⟩ := ranges.lastMonth
  have startDay := start.dayYear_eq
  have startLength := start.dayMonth_lt
  have lastDay_eq := last.dayYear_eq
  have lastLength := last.dayMonth_lt
  have afterStart := Calendar.daysBefore_succ settings.withoutLeapDay pRange.month.rangeBegin
  have afterLast := Calendar.daysBefore_succ settings.withoutLeapDay pRange.month.rangeEnd
  have members := inside
  rw [simulated_eq ranges, mem_Ico] at members
  have inCalendar : d < Calendar.maxDaysInYear := by
    unfold Calendar.maxDaysInYear
    omega
  obtain ⟨started, before⟩ := (month_eq_iff settings inCalendar _).mp rfl
  dsimp only
  rw [card_month ranges, ranges.perMonth]
  generalize ((Calendar.reset settings).hours (maxHoursInADay * d)).month = month at *
  have year := Calendar.daysBefore_twelve settings.withoutLeapDay
  rw [if_neg (by simp [Calendar.Settings.withoutLeapDay])] at year
  have inYear : month < 12 := by
    by_contra beyond
    have bound := Calendar.daysBefore_mono settings (not_lt.mp beyond)
    have whole := Calendar.daysBefore_twelve settings
    split at whole <;> omega
  have shift := Calendar.daysBefore_leap settings (show month < 14 by omega)
  have nextShift := Calendar.daysBefore_leap settings (show month + 1 < 14 by omega)
  -- a month that is put off by the leap day starts before the simulation, or after it
  have apart {other : Nat} (early : other ≤ 12) (late : settings.leapYear = true ∧
      (Calendar.reset settings).mappingMonths february < other) :
      Calendar.daysBefore settings.withoutLeapDay other < first ∨
        first + 7 * weeks ≤ Calendar.daysBefore settings.withoutLeapDay other := by
    rcases Nat.lt_or_eq_of_le early with inside | rfl
    · have outside := (fit.leapDay late.1).2 other inside late.2
      rw [simulated_eq ranges, mem_Ico] at outside
      omega
    · omega
  have starts : Calendar.daysBefore settings.withoutLeapDay month ≤ d ∧
      max (Calendar.daysBefore settings month) first = max (Calendar.daysBefore settings.withoutLeapDay month) first := by
    split_ifs at shift with late
    · have outside := apart inYear.le late
      omega
    · omega
  have ends : d < Calendar.daysBefore settings.withoutLeapDay (month + 1) ∧
      min (Calendar.daysBefore settings (month + 1)) (first + 7 * weeks) =
        min (Calendar.daysBefore settings.withoutLeapDay (month + 1)) (first + 7 * weeks) := by
    split_ifs at nextShift with late
    · rcases apart (show month + 1 ≤ 12 from inYear) late with early | far
      · omega
      · exact ⟨by omega, by rw [min_eq_right far, min_eq_right (by omega)]⟩
    · rw [nextShift, Nat.add_zero] at before ⊢
      exact ⟨before, rfl⟩
  refine ⟨⟨?_, ?_⟩, by rw [starts.2, ends.2]⟩
  · by_contra earlier
    have bound := Calendar.daysBefore_mono settings.withoutLeapDay
      (show month + 1 ≤ pRange.month.rangeBegin by omega)
    omega
  · by_contra later
    have bound := Calendar.daysBefore_mono settings.withoutLeapDay (show pRange.month.rangeEnd + 1 ≤ month by omega)
    omega

omit ranges in
theorem weekOffset_of_fit (fit : AveragesFit settings pRange) :
    Calendar.weekOffset settings = Calendar.weekOffset settings.withoutLeapDay := by
  rw [Calendar.weekOffset_leap]
  exact if_neg fun both => (fit.leapDay both.1).1 both.2

theorem weeks_of_fit (fit : AveragesFit settings pRange) :
    pRange.week.rangeCount = weeks ∧
      (∀ d ∈ simulated pRange,
        ((Calendar.reset settings).days d).week ∈ Icc pRange.week.rangeBegin pRange.week.rangeEnd) ∧
      ∀ w ∈ Icc pRange.week.rangeBegin pRange.week.rangeEnd, pRange.simulationDaysPerWeek w = 7 := by
  have some := ranges.weeks_pos
  have inYear := ranges.inYear
  have offset := Calendar.weekOffset_lt settings.withoutLeapDay
  have whole := fit.wholeWeeks
  rw [show pRange.day.rangeBegin = first by rw [ranges.day]; rfl] at whole
  rw [ranges.week]
  unfold Limits.of
  dsimp only
  refine ⟨by omega, fun d inside => ?_, fun w inside => ?_⟩
  · rw [simulated_eq ranges, mem_Ico] at inside
    rw [Calendar.reset_days_week settings (by unfold Calendar.maxDaysInYear; omega), weekOffset_of_fit fit, mem_Icc]
    omega
  · have bounds := mem_Icc.mp inside
    rw [perWeek_eq ranges, card_week ranges]
    omega

theorem averagesByDay_of_fit (fit : AveragesFit settings pRange) {before values : IntermediateValues}
    {hour : Nat → Rat} (untouched : Untouched pRange before) (averaged : Averaged settings pRange before hour values) :
    AveragesByDay settings pRange hour values := by
  obtain ⟨count, inWeeks, seven⟩ := weeks_of_fit ranges fit
  have number : #(simulated pRange) = 7 * weeks := by
    rw [simulated_eq ranges, Nat.card_Ico]
    omega
  have otherDays : ∀ d ∉ simulated pRange, values.day d = 0 := fun d outside => by
    rw [averaged.day d, if_neg outside]
    exact untouched.day d outside
  have dayOf : ∀ d ∈ simulated pRange, values.day d = dayMean hour d := fun d inside => by
    rw [averaged.day d, if_pos inside]
  have sums (among : Nat → Prop) [DecidablePred among] : ∑ d ∈ simulated pRange with among d, values.day d =
      ∑ d ∈ simulated pRange with among d, dayMean hour d :=
    sum_congr rfl fun d listed => dayOf d (mem_filter.mp listed).1
  have weekOf (w : Nat) (inside : w ∈ Icc pRange.week.rangeBegin pRange.week.rangeEnd) : values.week w =
      (∑ d ∈ simulated pRange with ((Calendar.reset settings).days d).week = w, dayMean hour d) / 7 := by
    have bounds := mem_Icc.mp inside
    rw [averaged.week w (bounds.2.trans_lt (week_end_lt ranges)), if_pos bounds, seven w inside, sums]
    rfl
  constructor
  · exact dayOf
  · intro d inside
    have week := inWeeks d inside
    have perWeek := seven _ week
    have sameWeek : ∀ other : Nat, other ∈ simulated pRange →
        (((Calendar.reset settings.withoutLeapDay).days other).week = ((Calendar.reset settings).days d).week ↔
          ((Calendar.reset settings).days other).week = ((Calendar.reset settings).days d).week) := by
      intro other listed
      have days := ranges.inYear
      rw [simulated_eq ranges, mem_Ico] at listed
      have early : other < Calendar.maxDaysInYear := by
        unfold Calendar.maxDaysInYear
        omega
      rw [Calendar.reset_days_week settings.withoutLeapDay early, Calendar.reset_days_week settings early,
        weekOffset_of_fit fit]
    rw [perWeek_eq ranges, filter_congr sameWeek] at perWeek
    rw [weekOf _ week, perWeek]
    rfl
  · intro d inside
    obtain ⟨filled, perMonth⟩ := perMonth_of_fit ranges fit inside
    have inYear : ((Calendar.reset settings).hours (maxHoursInADay * d)).month < maxMonths :=
      filled.2.trans_lt (month_bounds ranges).2
    rw [averaged.month, if_pos filled, perMonth, ← sum_month ranges otherDays inYear, sums]
  · rw [averaged.year, sum_congr rfl weekOf, ← sum_div, sum_fiberwise_of_maps_to inWeeks, count, number]
    push_cast
    rw [div_div]

end

section
variable {settings : Calendar.Settings} {startKey endKey : Option Nat} {nbYears effectiveNbYears : Nat}
  {limits : StudyRangeLimits}

/-- The averages of all years are the means of the simulated hours, whatever the hours are, exactly where the calendars
fit.
-/
theorem averages_all_iff
    (accepted : initializeRangeLimits (.reset settings.withoutLeapDay) (loadSimulationDays startKey endKey) nbYears
      effectiveNbYears = .ok limits) :
    (∀ (earlier : List (Nat → Rat)) (hour : Nat → Rat),
        Averages limits (.reset settings) (averagesAfterYears limits (.reset settings) (earlier ++ [hour]))) ↔
      AveragesFit settings limits := by
  obtain ⟨weeks, ranges⟩ := accepted_of accepted
  have last (earlier : List (Nat → Rat)) (hour : Nat → Rat) :
      Averaged settings limits (averagesAfterYears limits (.reset settings) earlier) hour
        (averagesAfterYears limits (.reset settings) (earlier ++ [hour])) := by
    have run := averaged ranges (averagesAfterYears limits (.reset settings) earlier) hour
    unfold averagesAfterYears at run ⊢
    rwa [List.foldl_append]
  constructor
  · intro right
    refine averagesFit_of_fits ranges fun d inside => ?_
    exact dayFits_of_averages ranges inside (last [] (ofDay d))
      ((averages_iff ranges (last [] (ofDay d)).hours).mp (right [] (ofDay d)))
  · intro fit earlier hour
    have run := last earlier hour
    exact (averages_iff ranges run.hours).mpr
      (averagesByDay_of_fit ranges fit (averagesAfterYears_untouched ranges earlier) run)

end

def civilYear : Calendar.Settings := ⟨.monday, .monday, january, january_lt, false⟩

/-- The averages of a simulation from its first day, which is a Monday. -/
theorem civilYear_averages :
    ∃ limits,
      initializeRangeLimits (.reset civilYear.withoutLeapDay) (loadSimulationDays none none) 1 1 = .ok limits ∧
        ∀ (earlier : List (Nat → Rat)) (hour : Nat → Rat),
          Averages limits (.reset civilYear) (averagesAfterYears limits (.reset civilYear) (earlier ++ [hour])) := by
  obtain ⟨limits, accepted⟩ := (initializeRangeLimits_isOk_iff civilYear.withoutLeapDay
    (by decide : (loadSimulationDays none none).first < _) (by decide) (by decide) 1 1).mpr (by decide)
  obtain ⟨weeks, ranges⟩ := accepted_of accepted
  have start : limits.day.rangeBegin = 0 := by rw [ranges.day]; rfl
  have monday : Calendar.weekOffset civilYear.withoutLeapDay = 0 := by decide +kernel
  have fit : AveragesFit civilYear limits := ⟨by rw [start, monday], fun leap => absurd leap (by decide)⟩
  exact ⟨limits, accepted, (averages_all_iff accepted).mpr fit⟩

/-- The mean of February is 29/28 where the value is one in every hour of a year with a leap day. -/
theorem leapYear_not_averages :
    ∃ limits,
      initializeRangeLimits (.reset leapYear.withoutLeapDay) (loadSimulationDays none none) 1 1 = .ok limits ∧
        ¬ Averages limits (.reset leapYear) (averagesAfterYears limits (.reset leapYear) [fun _ => 1]) := by
  obtain ⟨limits, accepted⟩ := (initializeRangeLimits_isOk_iff leapYear.withoutLeapDay
    (by decide : (loadSimulationDays none none).first < _) (by decide) (by decide) 1 1).mpr (by decide)
  have days := (initializeRangeLimits_agree (by decide) (by decide) (by decide) accepted).1.days
  obtain ⟨weeks, ranges⟩ := accepted_of accepted
  refine ⟨limits, accepted, fun averages => ?_⟩
  have run := averaged ranges zero fun _ => 1
  have right := (averages_iff ranges run.hours).mp averages
  have first : (loadSimulationDays none none).first = 0 := rfl
  have length : weeks = 52 := by
    rw [ranges.day] at days
    have whole : (loadSimulationDays none none).numberOfWeeks = 52 := by decide
    rw [whole, first] at days
    unfold Limits.of at days
    dsimp only at days
    omega
  subst length
  have one (d : Nat) : dayMean (fun _ => 1) d = 1 := by
    rw [dayMean, sum_const, Nat.card_Ico, Nat.mul_succ, Nat.add_sub_cancel_left]
    decide +kernel
  have february : ((Calendar.reset leapYear).hours (maxHoursInADay * 31)).month = 1 :=
    (month_eq_iff leapYear (by decide : 31 < Calendar.maxDaysInYear) 1).mpr (by decide +kernel)
  have inside : 31 ∈ simulated limits := by
    rw [simulated_eq ranges, mem_Ico, first]
    omega
  -- what the definition asks for
  have mean := right.month 31 inside
  rw [february, sum_congr rfl fun d _ => one d, sum_const, nsmul_eq_mul, mul_one, card_month ranges,
    show Calendar.daysBefore leapYear 2 = 60 by decide +kernel, show Calendar.daysBefore leapYear 1 = 31 by decide +kernel,
    first] at mean
  -- what the loop computes
  have month := run.month 1
  have filled : limits.month.rangeBegin ≤ 1 ∧ 1 ≤ limits.month.rangeEnd := by
    have january := (month_eq_iff leapYear.withoutLeapDay (by decide : 0 < Calendar.maxDaysInYear) 0).mpr
      (by decide +kernel)
    have start : limits.month.rangeBegin = 0 := (month_first ranges).symm.trans january
    obtain ⟨lastDay, last⟩ := ranges.lastMonth
    have day := last.dayYear_eq
    have length := last.dayMonth_lt
    have bound := (Calendar.monthDays_bounds leapYear.withoutLeapDay last.month_lt).2
    refine ⟨by omega, Nat.one_le_iff_ne_zero.mpr fun none => ?_⟩
    rw [none, show Calendar.daysBefore leapYear.withoutLeapDay 0 = 0 from rfl, first] at day
    omega
  have simulatedFebruary : ∀ d ∈ Ico 31 60, d ∈ simulated limits := by
    intro d listed
    have bounds := mem_Ico.mp listed
    rw [simulated_eq ranges, mem_Ico, first]
    omega
  rw [if_pos filled, ranges.perMonth, first,
    show Calendar.daysBefore leapYear 2 = 60 by decide +kernel, show Calendar.daysBefore leapYear 1 = 31 by decide +kernel,
    show Calendar.daysBefore leapYear.withoutLeapDay 2 = 59 by decide +kernel,
    show Calendar.daysBefore leapYear.withoutLeapDay 1 = 31 by decide +kernel,
    sum_congr rfl fun d listed => (run.day d).trans ((if_pos (simulatedFebruary d listed)).trans (one d)), sum_const,
    Nat.card_Ico] at month
  exact absurd (month.symm.trans mean) (by decide +kernel)

end Antares.Solver.Variable.IntermediateValues
