import Antares.Data.CalendarWeeks
import Antares.Library.Shares
import Mathlib.Data.Rat.Floor

/-! The splitting of a month's hydro energy into hours of run-of-river and days of storage: each takes its rounded
share of what is left, and what is left of the inflow pattern shrinks with it.
-/

set_option autoImplicit false

namespace Antares.Solver.HydroSeries

open Data Library

def solverCalendar (settings : Calendar.Settings) : Calendar := .reset settings.withoutLeapDay

def quotient (dividend divisor : Rat) : Option Rat := if divisor = 0 then none else some (dividend / divisor)

/-- The variables of a loop; what is left of the energy may be no number. -/
structure Split where
  series : Nat → Option Rat
  remaining : Option Rat
  sumInflowPatterns : Rat

/-- A place takes its share, out of what the pattern of a day is divided into. -/
def Split.take (inflowPattern : Rat) (parts : Rat) (split : Split) (place : Nat) : Split :=
  let storage := do
    let remaining ← split.remaining
    let share ← quotient (remaining * inflowPattern) (parts * split.sumInflowPatterns)
    return (roundAway share : Rat)
  { series := Function.update split.series place storage
    remaining := do return (← split.remaining) - (← storage)
    sumInflowPatterns := split.sumInflowPatterns - inflowPattern / parts }

def Split.loop (pattern : Nat → Rat) (parts : Rat) (split : Split) (listed : List Nat) : Split :=
  listed.foldl (fun split place => Split.take (pattern place) parts split place) split

section
variable (inflowPattern : Nat → Rat)

structure Series where
  ror : Nat → Option Rat
  storage : Nat → Option Rat

def places (interval : Interval) : List Nat := List.range' interval.first (interval.end - interval.first)

def sip (days : Interval) : Rat := ((places days).map inflowPattern).sum

/-- Both loops of `GenerateHydroTimeSeries` over a month, once the sum of its pattern is known not to be zero. -/
def splitMonth (month : MonthOfYear) (energy powerOverWater : Rat) (series : Series) : Series where
  -- the pattern of an hour is that of its day, by the hour
  ror := (Split.loop (fun h => inflowPattern (h / 24)) 24
    ⟨series.ror, some (energy * powerOverWater), sip inflowPattern month.daysYear⟩ (places month.hours)).series
  storage := (Split.loop inflowPattern 1
    ⟨series.storage, some (energy * (1 - powerOverWater)), sip inflowPattern month.daysYear⟩ (places month.daysYear)).series

end

/-- The values of these places are non-negative integers, zero where the pattern is, and add up to the energy but
for one half.
-/
def Shared (series : Nat → Option Rat) (interval : Interval) (pattern : Nat → Rat) (energy : Rat) : Prop :=
  ∃ parts : List Nat, (places interval).map series = parts.map (fun part : Nat => some (part : Rat)) ∧
    List.Forall₂ (fun place part => pattern place = 0 → part = 0) (places interval) parts ∧
    |energy - (parts.sum : Rat)| ≤ 1 / 2

structure Series.Splits (series : Series) (month : MonthOfYear) (energy powerOverWater : Rat) (inflowPattern : Nat → Rat) :
    Prop where
  ror : Shared series.ror month.hours (fun h => inflowPattern (h / 24)) (energy * powerOverWater)
  storage : Shared series.storage month.daysYear inflowPattern (energy * (1 - powerOverWater))

section
variable {pattern : Nat → Rat} {parts : Rat}

theorem loop_sum (split : Split) (listed : List Nat) : (split.loop pattern parts listed).sumInflowPatterns =
    split.sumInflowPatterns - (listed.map fun place => pattern place / parts).sum := by
  induction listed generalizing split with
  | nil => exact (sub_zero _).symm
  | cons place listed ih =>
    rw [List.map_cons, List.sum_cons, ← sub_sub]
    exact ih (split.take (pattern place) parts place)

theorem take_eq (nonzero : parts ≠ 0) {sum : Rat} (some_left : sum ≠ 0) (series : Nat → Option Rat) (energy : Rat)
    (place : Nat) :
    Split.take (pattern place) parts ⟨series, some energy, sum⟩ place =
      ⟨Function.update series place (some (roundAway (energy * (pattern place / parts) / sum) : Rat)),
        some (energy - roundAway (energy * (pattern place / parts) / sum)), sum - pattern place / parts⟩ := by
  have share : energy * pattern place / (parts * sum) = energy * (pattern place / parts) / sum := by
    rw [mul_div_assoc', div_div]
  simp [Split.take, quotient, nonzero, some_left, share]

theorem loop_series (positive : 0 < parts) (nonneg : ∀ place, 0 ≤ pattern place) (first count : Nat)
    (last : 0 < pattern (first + count)) (series : Nat → Option Rat) (energy : Rat) :
    (Split.loop pattern parts
      ⟨series, some energy, ((List.range' first (count + 1)).map fun place => pattern place / parts).sum⟩
      (List.range' first (count + 1))).series =
      writeFrom series first ((roundedShares energy ((List.range' first (count + 1)).map fun place =>
        pattern place / parts)).map fun part : ℤ => some (part : Rat)) := by
  induction count generalizing first series energy with
  | zero =>
    have sum : (List.map (fun place => pattern place / parts) (List.range' first (0 + 1))).sum ≠ 0 := by
      simpa using ⟨last.ne', positive.ne'⟩
    rw [List.range'_succ, List.map_cons] at sum ⊢
    rw [Split.loop, List.foldl_cons, take_eq positive.ne' sum]
    rfl
  | succ count ih =>
    have sum : 0 < ((List.range' first (count + 1 + 1)).map fun place => pattern place / parts).sum := by
      apply @sum_pos_of_getLast _ _ _ _ _ (pattern (first + (count + 1)) / parts)
      · intro weight listed
        obtain ⟨place, _, rfl⟩ := List.mem_map.mp listed
        exact div_nonneg (nonneg place) positive.le
      · simp [List.range'_1_concat]
      · exact div_pos last positive
    have later : 0 < pattern (first + 1 + count) := by
      rw [Nat.add_right_comm, Nat.add_assoc]
      exact last
    rw [List.range'_succ, List.map_cons] at sum ⊢
    rw [Split.loop, List.foldl_cons, take_eq positive.ne' sum.ne', roundedShares, List.map_cons, writeFrom]
    rw [← ih (first + 1) later, List.sum_cons, add_sub_cancel_left]
    rfl

theorem sum_toNat {parts : List ℤ} (nonneg : ∀ part ∈ parts, 0 ≤ part) :
    (((parts.map Int.toNat).sum : Nat) : Rat) = (parts.sum : Rat) := by
  induction parts with
  | nil => rfl
  | cons part parts ih =>
    obtain ⟨first, rest⟩ := List.forall_mem_cons.mp nonneg
    have cast : ((part.toNat : ℤ) : Rat) = (part : Rat) := congrArg Int.cast (Int.toNat_of_nonneg first)
    rw [List.map_cons, List.sum_cons, List.sum_cons, Nat.cast_add, Int.cast_add, ih rest, ← cast, Int.cast_natCast]

theorem shared_of_last (positive : 0 < parts) (nonneg : ∀ place, 0 ≤ pattern place) (first count : Nat)
    (last : 0 < pattern (first + count)) (series : Nat → Option Rat) {energy : Rat} (some_energy : 0 ≤ energy)
    {sum : Rat} (total : sum = ((List.range' first (count + 1)).map fun place => pattern place / parts).sum) :
    Shared (Split.loop pattern parts ⟨series, some energy, sum⟩ (List.range' first (count + 1))).series
      ⟨first, first + (count + 1)⟩ pattern energy := by
  subst total
  rw [loop_series positive nonneg first count last]
  have listed : places ⟨first, first + (count + 1)⟩ = List.range' first (count + 1) :=
    congrArg (List.range' first) (Nat.add_sub_cancel_left ..)
  unfold Shared
  rw [listed]
  generalize weights_eq : (List.range' first (count + 1)).map (fun place => pattern place / parts) = weights
  have weights_nonneg : ∀ weight ∈ weights, 0 ≤ weight := by
    intro weight member
    rw [← weights_eq] at member
    obtain ⟨place, _, rfl⟩ := List.mem_map.mp member
    exact div_nonneg (nonneg place) positive.le
  have ends : weights.getLast? = some (pattern (first + count) / parts) := by
    simp [← weights_eq, List.range'_1_concat]
  obtain ⟨whole, zero, rest⟩ := @roundedShares_parts _ _ _ _ _ energy (by linarith) _ _ weights_nonneg ends
    (div_pos last positive)
  have length : ((roundedShares energy weights).map fun part : ℤ => some (part : Rat)).length = count + 1 := by
    rw [List.length_map, length_roundedShares, ← weights_eq, List.length_map, List.length_range']
  refine ⟨(roundedShares energy weights).map Int.toNat, ?_, ?_, ?_⟩
  · have read := writeFrom_read series first ((roundedShares energy weights).map fun part : ℤ => some (part : Rat))
    rw [length] at read
    rw [List.range'_eq_map_range, List.map_map, List.map_map]
    refine read.trans (List.map_congr_left fun part member => ?_)
    have cast : ((part.toNat : ℤ) : Rat) = (part : Rat) := congrArg Int.cast (Int.toNat_of_nonneg (whole part member))
    exact congrArg some (cast.symm.trans (Int.cast_natCast _))
  · rw [List.forall₂_map_right_iff]
    rw [← weights_eq, List.forall₂_map_left_iff] at zero
    rw [weights_eq] at zero
    exact zero.imp fun place part none pattern_zero => by rw [none (by rw [pattern_zero, zero_div]), Int.toNat_zero]
  · rw [sum_toNat whole]
    exact rest

theorem loop_none_of_last (first count : Nat) (last : pattern (first + count) = 0) (series : Nat → Option Rat)
    (energy : Rat) {sum : Rat} (total : sum = ((List.range' first (count + 1)).map fun place => pattern place / parts).sum) :
    (Split.loop pattern parts ⟨series, some energy, sum⟩ (List.range' first (count + 1))).series (first + count) = none := by
  rw [List.range'_1_concat, Split.loop, List.foldl_append]
  have left := @loop_sum pattern parts ⟨series, some energy, sum⟩ (List.range' first count)
  change (Split.take _ parts (Split.loop pattern parts ⟨series, some energy, sum⟩ (List.range' first count)) _).series _ = none
  generalize Split.loop pattern parts ⟨series, some energy, sum⟩ (List.range' first count) = before at left ⊢
  have zero : before.sumInflowPatterns = 0 := by
    rw [left, total, List.range'_1_concat, List.map_append, List.sum_append]
    simp [last]
  change Function.update before.series (first + count) _ (first + count) = none
  rw [Function.update_self, zero, mul_zero]
  cases before.remaining <;> rfl

theorem sum_hours (inflowPattern : Nat → Rat) (first days : Nat) :
    ((List.range' (24 * first) (24 * days)).map fun h => inflowPattern (h / 24) / 24).sum =
      ((List.range' first days).map inflowPattern).sum := by
  induction days with
  | zero => rfl
  | succ days ih =>
    have day : ((List.range' (24 * first + 24 * days) 24).map fun h => inflowPattern (h / 24) / 24) =
        List.replicate 24 (inflowPattern (first + days) / 24) := by
      rw [List.eq_replicate_iff]
      refine ⟨by rw [List.length_map, List.length_range'], fun share member => ?_⟩
      obtain ⟨h, within, rfl⟩ := List.mem_map.mp member
      have bounds := List.mem_range'_1.mp within
      rw [show h / 24 = first + days by omega]
    rw [Nat.mul_succ, ← List.range'_append_1, List.map_append, List.sum_append, ih, day, List.sum_replicate,
      List.range'_1_concat, List.map_append, List.sum_append, List.map_singleton, List.sum_singleton]
    congr 1
    rw [nsmul_eq_mul]
    exact mul_div_cancel₀ _ (by norm_num)

end

variable (settings : Calendar.Settings)

theorem solverCalendar_month {month : Nat} (within : month < 12) :
    ∃ first count, ((solverCalendar settings).months month).daysYear = ⟨first, first + (count + 1)⟩ ∧
      ((solverCalendar settings).months month).hours = ⟨24 * first, 24 * first + (24 * count + 23 + 1)⟩ := by
  have intervals := Calendar.reset_months_intervals settings.withoutLeapDay rfl within
  have next := Calendar.daysBefore_succ settings.withoutLeapDay month
  have some := (Calendar.monthDays_bounds settings.withoutLeapDay (Nat.lt_succ_of_lt within)).1
  refine ⟨Calendar.daysBefore settings.withoutLeapDay month,
    Calendar.monthDays settings.withoutLeapDay month - 1, ?_, ?_⟩
  · rw [solverCalendar, intervals.1]
    congr 1
    omega
  · rw [solverCalendar, intervals.2]
    congr 1
    omega

theorem splitMonth_splits {ofMonth : MonthOfYear} {first count : Nat} (days : ofMonth.daysYear = ⟨first, first + (count + 1)⟩)
    (hours : ofMonth.hours = ⟨24 * first, 24 * first + (24 * count + 23 + 1)⟩) {energy powerOverWater : Rat}
    (some_energy : 0 ≤ energy) (share : 0 ≤ powerOverWater ∧ powerOverWater ≤ 1) {inflowPattern : Nat → Rat}
    (nonneg : ∀ day, 0 ≤ inflowPattern day) (series : Series) :
    (splitMonth inflowPattern ofMonth energy powerOverWater series).Splits ofMonth energy powerOverWater inflowPattern ↔
      0 < inflowPattern (first + count) := by
  have days_listed : places ofMonth.daysYear = List.range' first (count + 1) := by
    rw [days]
    exact congrArg (List.range' first) (Nat.add_sub_cancel_left ..)
  have hours_listed : places ofMonth.hours = List.range' (24 * first) (24 * count + 23 + 1) := by
    rw [hours]
    exact congrArg (List.range' (24 * first)) (Nat.add_sub_cancel_left ..)
  have day_sum : sip inflowPattern ofMonth.daysYear =
      ((List.range' first (count + 1)).map fun day => inflowPattern day / 1).sum := by
    simp [sip, days_listed]
  have hour_sum : sip inflowPattern ofMonth.daysYear =
      ((List.range' (24 * first) (24 * count + 23 + 1)).map fun h => inflowPattern (h / 24) / 24).sum := by
    rw [sip, days_listed]
    exact (sum_hours inflowPattern first (count + 1)).symm
  constructor
  · intro splits
    by_contra empty
    have zero : inflowPattern (first + count) = 0 := le_antisymm (not_lt.mp empty) (nonneg _)
    obtain ⟨parts, written, _⟩ := splits.storage
    have lost := @loop_none_of_last _ 1 first count zero series.storage (energy * (1 - powerOverWater)) _ day_sum
    have listed : none ∈ (places ofMonth.daysYear).map
        (splitMonth inflowPattern ofMonth energy powerOverWater series).storage := by
      apply List.mem_map.mpr
      refine ⟨first + count, by rw [days_listed]; exact List.mem_range'_1.mpr ⟨by omega, by omega⟩, ?_⟩
      unfold splitMonth
      rw [days_listed]
      exact lost
    rw [written] at listed
    obtain ⟨part, _, number⟩ := List.mem_map.mp listed
    cases number
  · intro last
    constructor
    · have last_hour : 0 < inflowPattern ((24 * first + (24 * count + 23)) / 24) := by
        rw [show (24 * first + (24 * count + 23)) / 24 = first + count by omega]
        exact last
      have shared := @shared_of_last (fun h => inflowPattern (h / 24)) 24 (by norm_num)
        (fun h => nonneg (h / 24)) (24 * first) (24 * count + 23) last_hour series.ror _
        (mul_nonneg some_energy share.1) _ hour_sum
      rw [← hours_listed] at shared
      rw [hours]
      exact shared
    · have shared := @shared_of_last inflowPattern 1 one_pos nonneg first count last
        series.storage _ (mul_nonneg some_energy (sub_nonneg.mpr share.2)) _ day_sum
      rw [← days_listed] at shared
      rw [days]
      exact shared


/-- The loops share out the energy of every month of which the last day has an inflow pattern, and divide zero by
zero for the last day of any other.
-/
theorem splitMonth_splits_iff {month : Nat} (within : month < 12)
    {energy powerOverWater : Rat} (some_energy : 0 ≤ energy) (share : 0 ≤ powerOverWater ∧ powerOverWater ≤ 1)
    {inflowPattern : Nat → Rat} (nonneg : ∀ day, 0 ≤ inflowPattern day) (series : Series) :
    (splitMonth inflowPattern ((solverCalendar settings).months month) energy powerOverWater series).Splits
        ((solverCalendar settings).months month) energy powerOverWater inflowPattern ↔
      0 < inflowPattern (((solverCalendar settings).months month).daysYear.end - 1) := by
  obtain ⟨first, count, days, hours⟩ := solverCalendar_month settings within
  have last_day : ((solverCalendar settings).months month).daysYear.end - 1 = first + count := by
    rw [days]
    rfl
  rw [last_day]
  exact splitMonth_splits days hours some_energy share nonneg series

def common : Calendar.Settings := ⟨.monday, .monday, january, january_lt, false⟩

theorem january_days : ((solverCalendar common).months 0).daysYear = ⟨0, 31⟩ ∧
    ((solverCalendar common).months 0).hours = ⟨24 * 0, 24 * 31⟩ := by
  have none_before : Calendar.daysBefore common.withoutLeapDay 0 = 0 := by decide +kernel
  have january : Calendar.daysBefore common.withoutLeapDay (0 + 1) = 31 := by decide +kernel
  have intervals := @Calendar.reset_months_intervals common.withoutLeapDay rfl 0 (by decide)
  rw [none_before, january] at intervals
  exact intervals

theorem evenJanuary_splits :
    (splitMonth (fun _ => 1) ((solverCalendar common).months 0) 100 (1 / 2) ⟨fun _ => none, fun _ => none⟩).Splits
        ((solverCalendar common).months 0) 100 (1 / 2) (fun _ => 1) ↔
      0 < (1 : Rat) :=
  splitMonth_splits_iff common (by decide) (by norm_num) (by norm_num) (fun _ => zero_le_one) _

def firstDay (day : Nat) : Rat := if day = 0 then 1 else 0

/-- The second day of January divides zero by zero. -/
theorem firstDay_not_splits : 0 < sip firstDay ((solverCalendar common).months 0).daysYear ∧
    ¬ (splitMonth firstDay ((solverCalendar common).months 0) 100 0 ⟨fun _ => none, fun _ => none⟩).Splits
      ((solverCalendar common).months 0) 100 0 firstDay := by
  constructor
  · rw [january_days.1]
    decide +kernel
  · have nonneg (day : Nat) : 0 ≤ firstDay day := by
      unfold firstDay
      split <;> decide
    intro splits
    have last := (@splitMonth_splits _ 0 30 january_days.1 january_days.2 _ _ (by norm_num) (by norm_num)
      _ nonneg _).mp splits
    exact absurd last (by decide)

end Antares.Solver.HydroSeries
