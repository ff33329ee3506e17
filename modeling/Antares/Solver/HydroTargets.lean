import Antares.Data.Calendar
import Antares.Data.Matrix
import Antares.Library.Shares

/-! The hydro targets of an area that follow the load: the effective demand of each day and month, the
monthly targets that share the inflows of the year, and the daily ones that share the generation of a month.
-/

set_option autoImplicit false

namespace Antares.Solver

open Data Library

/-- `TmpDataByArea`: months are the civil ones, days those of the simulated year. -/
structure TmpDataByArea where
  mle : Nat → Rat
  mog : Nat → Rat
  mtg : Nat → Rat
  inflows : Nat → Rat
  dle : Nat → Rat

structure HydroArea where
  useHeuristicTarget : Bool
  followLoadModulations : Bool
  intermonthlyBreakdown : Rat
  interDailyBreakdown : Rat
  /-- The coefficients of `allocation.eachNonNull`, by area. -/
  allocation : List (Nat × Rat)

section EffectiveDemand
variable (calendar : Calendar) (dln : Nat → Nat → Rat) (area : HydroArea)

def effectiveDemand (day : Nat) : Rat := (area.allocation.map fun (areaindex, value) => dln areaindex day * value).sum

variable (data : TmpDataByArea)

def addEffectiveDemand (day : Nat) : TmpDataByArea :=
  let realmonth := (calendar.months (calendar.days day).month).realmonth
  let demand := effectiveDemand dln area day
  { data with
    dle := Function.update data.dle day (data.dle day + demand)
    mle := Function.update data.mle realmonth (data.mle realmonth + demand) }

def daysFrom (dayYear days : Nat) : List Nat := (List.range days).map fun day => dayYear + day

def shift : Rat := 1 / 10 ^ 4

/-- Progress over the months; there is no minimum before the first one. -/
structure ShiftState where
  data : TmpDataByArea
  minimumYear : Option Rat
  dayYear : Nat

def shiftDay (minimum : Rat) (data : TmpDataByArea) (day : Nat) : TmpDataByArea :=
  { data with dle := Function.update data.dle day (data.dle day - (minimum - shift)) }

def shiftMonth (state : ShiftState) (month : Nat) : ShiftState :=
  let info := calendar.months month
  let days := daysFrom state.dayYear info.days
  let minimumMonth := (days.map state.data.dle).min?
  let data :=
    match minimumMonth with
    | some minimum => if minimum < 0 then days.foldl (shiftDay minimum) state.data else state.data
    | none => state.data
  let monthly := data.mle info.realmonth
  { data
    minimumYear := some (match state.minimumYear with
      | some minimum => if monthly < minimum then monthly else minimum
      | none => monthly)
    dayYear := state.dayYear + info.days }

def shiftMonthlyDemand (minimum : Rat) (data : TmpDataByArea) (realmonth : Nat) : TmpDataByArea :=
  { data with mle := Function.update data.mle realmonth (data.mle realmonth - (minimum - shift)) }

/-- The second half of `prepareEffectiveDemand`: negative demands are moved above zero. -/
def shiftNegativeDemands : TmpDataByArea :=
  let shifted := (List.range 12).foldl (shiftMonth calendar) { data, minimumYear := none, dayYear := 0 }
  match shifted.minimumYear with
  | some minimum =>
    if minimum < 0 then (List.range 12).foldl (shiftMonthlyDemand minimum) shifted.data else shifted.data
  | none => shifted.data

def prepareEffectiveDemand : TmpDataByArea :=
  shiftNegativeDemands calendar ((List.range 365).foldl (addEffectiveDemand calendar dln area) data)

end EffectiveDemand

section Targets
variable (power : Rat → Rat → Rat) (area : HydroArea)

def monthlyTargets (total : Rat) (demands : List Rat) : List Rat :=
  match demands.max? with
  | some monthlyMaxDemand =>
    if mathZero monthlyMaxDemand then demands.map fun _ => total / 12
    else
      let weights := shape (power · area.intermonthlyBreakdown) monthlyMaxDemand demands
      -- a zero sum of weights is the coefficient itself
      if mathZero weights.sum then weights.map (weights.sum * ·) else shareOut total weights
  | none => []

def prepareMonthlyTargetGenerations (data : TmpDataByArea) : TmpDataByArea × Rat :=
  let total := ((List.range 12).map data.inflows).sum
  let targets :=
    if !area.followLoadModulations then (List.range 12).map data.inflows
    else monthlyTargets power area total ((List.range 12).map data.mle)
  ({ data with mtg := writeFrom data.mtg 0 targets }, total)

def monthTargets (mog : Rat) (demands : List Rat) : List Rat :=
  match demands.max? with
  | some demandMax =>
    if mathZero demandMax then demands.map fun _ => mog / demands.length
    else shareOut mog (shape (power · area.interDailyBreakdown) demandMax demands)
  | none => []

variable (calendar : Calendar) (srcinflows : Nat → Rat) (data : TmpDataByArea)

/-- One month of `dailyTargetGen`, and the first day of the next one. -/
def dailyTargetMonth (state : (Nat → Rat) × Nat)
    (month : Nat) : (Nat → Rat) × Nat :=
  let info := calendar.months month
  let days := daysFrom state.2 info.days
  let targets :=
    if !area.useHeuristicTarget || (area.useHeuristicTarget && !area.followLoadModulations) then days.map srcinflows
    else monthTargets power area (data.mog info.realmonth) (days.map data.dle)
  (writeFrom state.1 state.2 targets, state.2 + info.days)

/-- The part of `prepareDailyOptimalGenerations` that fills `dailyTargetGen`. -/
def dailyTargetGen : (Nat → Rat) × Nat :=
  (List.range 12).foldl (dailyTargetMonth power area calendar srcinflows data) (fun _ => 0, 0)

end Targets

theorem mem_daysFrom {dayYear days day : Nat} : day ∈ daysFrom dayYear days ↔ dayYear ≤ day ∧ day < dayYear + days := by
  unfold daysFrom
  rw [List.mem_map]
  constructor
  · rintro ⟨index, inside, rfl⟩
    exact ⟨Nat.le_add_right _ _, Nat.add_lt_add_left (List.mem_range.mp inside) dayYear⟩
  · intro ⟨from_, until_⟩
    exact ⟨day - dayYear, List.mem_range.mpr (by omega), by omega⟩

theorem nodup_daysFrom (dayYear days : Nat) : (daysFrom dayYear days).Nodup := by
  apply List.Nodup.map _ List.nodup_range
  intro first second same
  exact Nat.add_left_cancel same

section Shifting

theorem shiftDays_mle (minimum : Rat) (data : TmpDataByArea) (days : List Nat) :
    (days.foldl (shiftDay minimum) data).mle = data.mle := by
  induction days generalizing data with
  | nil => rfl
  | cons day days ih => exact (ih _).trans rfl

theorem shiftDays_dle (minimum : Rat) (data : TmpDataByArea) {days : List Nat} (distinct : days.Nodup) (day : Nat) :
    (days.foldl (shiftDay minimum) data).dle day =
      if day ∈ days then data.dle day - (minimum - shift) else data.dle day := by
  induction days generalizing data with
  | nil => rfl
  | cons first days ih =>
    obtain ⟨fresh, rest⟩ := List.nodup_cons.mp distinct
    rw [List.foldl_cons, ih _ rest]
    by_cases same : day = first
    · subst same
      rw [if_neg fresh, if_pos List.mem_cons_self]
      exact Function.update_self _ _ _
    · have other : (shiftDay minimum data first).dle day = data.dle day := Function.update_of_ne same _ _
      rw [other]
      simp only [List.mem_cons, same, false_or]

theorem shift_pos : 0 < shift := by
  unfold shift
  norm_num

variable (calendar : Calendar)

/-- The demands of the days before, and the minimum of the months before. -/
structure ShiftState.Shifted (mle : Nat → Rat) (days : Nat → Nat) (months : Nat) (state : ShiftState) : Prop where
  dayYear : state.dayYear = days months
  dle_nonneg : ∀ day < days months, 0 ≤ state.data.dle day
  unchanged : state.data.mle = mle
  minimum : ∀ month < months, ∃ minimum, state.minimumYear = some minimum ∧ minimum ≤ mle (calendar.months month).realmonth

theorem shiftMonth_data (state : ShiftState) (month : Nat) :
    (shiftMonth calendar state month).data.mle = state.data.mle ∧
      (∀ day, day ∉ daysFrom state.dayYear (calendar.months month).days →
        (shiftMonth calendar state month).data.dle day = state.data.dle day) ∧
      ∀ day ∈ daysFrom state.dayYear (calendar.months month).days, 0 ≤ (shiftMonth calendar state month).data.dle day := by
  unfold shiftMonth
  dsimp only
  cases least : ((daysFrom state.dayYear (calendar.months month).days).map state.data.dle).min? with
  | none =>
    rw [List.min?_eq_none_iff, List.map_eq_nil_iff] at least
    rw [least]
    exact ⟨rfl, fun _ _ => rfl, fun _ none => absurd none List.not_mem_nil⟩
  | some minimum =>
    have below (day : Nat) (listed : day ∈ daysFrom state.dayYear (calendar.months month).days) :
        minimum ≤ state.data.dle day := (List.min?_eq_some_iff.mp least).2 _ (List.mem_map_of_mem listed)
    dsimp only
    split_ifs with negative
    · refine ⟨shiftDays_mle _ _ _, fun day outside => ?_, fun day listed => ?_⟩
      · rw [shiftDays_dle _ _ (nodup_daysFrom _ _), if_neg outside]
      · have above := below day listed
        have positive := shift_pos
        rw [shiftDays_dle _ _ (nodup_daysFrom _ _), if_pos listed]
        linarith
    · exact ⟨rfl, fun _ _ => rfl, fun day listed => (not_lt.mp negative).trans (below day listed)⟩

theorem shiftMonth_shifted {mle : Nat → Rat} {days : Nat → Nat} {month : Nat} {state : ShiftState}
    (next : days (month + 1) = days month + (calendar.months month).days) (shifted : state.Shifted calendar mle days month) :
    (shiftMonth calendar state month).Shifted calendar mle days (month + 1) := by
  obtain ⟨same, outside, inside⟩ := shiftMonth_data calendar state month
  have monthly : (shiftMonth calendar state month).minimumYear = some (match state.minimumYear with
      | some minimum =>
        if (shiftMonth calendar state month).data.mle (calendar.months month).realmonth < minimum then
          (shiftMonth calendar state month).data.mle (calendar.months month).realmonth
        else minimum
      | none => (shiftMonth calendar state month).data.mle (calendar.months month).realmonth) := rfl
  rw [same, shifted.unchanged] at monthly
  constructor
  · rw [next, ← shifted.dayYear]
    rfl
  · intro day before
    by_cases listed : day ∈ daysFrom state.dayYear (calendar.months month).days
    · exact inside day listed
    · rw [outside day listed]
      apply shifted.dle_nonneg
      rw [mem_daysFrom, shifted.dayYear] at listed
      omega
  · exact same.trans shifted.unchanged
  · intro other before
    rcases Nat.lt_succ_iff_lt_or_eq.mp before with earlier | rfl
    · obtain ⟨minimum, found, least⟩ := shifted.minimum other earlier
      rw [found] at monthly
      refine ⟨_, monthly, ?_⟩
      dsimp only
      split_ifs with less
      · exact less.le.trans least
      · exact least
    · refine ⟨_, monthly, ?_⟩
      split
      · split_ifs with less
        · exact le_rfl
        · exact not_lt.mp less
      · exact le_rfl

theorem shiftMonths_shifted {mle : Nat → Rat} {days : Nat → Nat}
    (next : ∀ month, days (month + 1) = days month + (calendar.months month).days) (months : Nat) {state : ShiftState}
    (start : state.Shifted calendar mle days 0) :
    ((List.range months).foldl (shiftMonth calendar) state).Shifted calendar mle days months := by
  induction months with
  | zero => exact start
  | succ months ih =>
    rw [List.range_succ, List.foldl_append]
    exact shiftMonth_shifted calendar (next months) ih

end Shifting

section

variable (settings : Calendar.Settings)

theorem daysBefore_next (month : Nat) : Calendar.daysBefore settings (month + 1) =
    Calendar.daysBefore settings month + ((Calendar.reset settings).months month).days := by
  rw [Calendar.reset_months_days, Calendar.daysBefore_succ]

theorem shiftMonthlyDemands (minimum : Rat) (months : Nat) (data : TmpDataByArea) :
    ((List.range months).foldl (shiftMonthlyDemand minimum) data).dle = data.dle ∧
    ∀ realmonth, ((List.range months).foldl (shiftMonthlyDemand minimum) data).mle realmonth =
      if realmonth < months then data.mle realmonth - (minimum - shift) else data.mle realmonth := by
  induction months with
  | zero => exact ⟨rfl, fun _ => rfl⟩
  | succ months ih =>
    obtain ⟨sameDle, values⟩ := ih
    rw [List.range_succ, List.foldl_append]
    refine ⟨sameDle, fun realmonth => ?_⟩
    by_cases same : realmonth = months
    · subst same
      rw [if_pos (Nat.lt_succ_self _)]
      exact (Function.update_self _ _ _).trans (by rw [values, if_neg (lt_irrefl _)])
    · refine (Function.update_of_ne same _ _).trans ?_
      rw [values]
      simp only [Nat.lt_succ_iff_lt_or_eq, same, or_false]

theorem shiftNegativeDemands_nonneg {calendar : Calendar} {days : Nat → Nat} (first : days 0 = 0)
    (next : ∀ month, days (month + 1) = days month + (calendar.months month).days)
    (civil : ∀ realmonth < 12, ∃ month < 12, (calendar.months month).realmonth = realmonth) (data : TmpDataByArea) :
    (∀ day < days 12, 0 ≤ (shiftNegativeDemands calendar data).dle day) ∧
      ∀ realmonth < 12, 0 ≤ (shiftNegativeDemands calendar data).mle realmonth := by
  have start : ShiftState.Shifted calendar data.mle days 0 { data, minimumYear := none, dayYear := 0 } :=
    { dayYear := first.symm
      dle_nonneg := fun _ none => absurd (first ▸ none) (Nat.not_lt_zero _)
      unchanged := rfl
      minimum := fun _ none => absurd none (Nat.not_lt_zero _) }
  have shifted := shiftMonths_shifted calendar next 12 start
  unfold shiftNegativeDemands
  dsimp only
  generalize (List.range 12).foldl (shiftMonth calendar) { data, minimumYear := none, dayYear := 0 } = state at shifted
  obtain ⟨minimum, found, -⟩ := shifted.minimum 0 (by omega)
  have least (realmonth : Nat) (within : realmonth < 12) : minimum ≤ state.data.mle realmonth := by
    obtain ⟨month, inYear, rfl⟩ := civil realmonth within
    obtain ⟨same, sameFound, below⟩ := shifted.minimum month inYear
    obtain rfl := Option.some.inj (found.symm.trans sameFound)
    rwa [shifted.unchanged]
  rw [found]
  dsimp only
  split_ifs with negative
  · obtain ⟨sameDle, values⟩ := shiftMonthlyDemands minimum 12 state.data
    rw [sameDle]
    refine ⟨shifted.dle_nonneg, fun realmonth within => ?_⟩
    have below := least realmonth within
    have positive := shift_pos
    rw [values, if_pos within]
    linarith
  · exact ⟨shifted.dle_nonneg, fun realmonth within => (not_lt.mp negative).trans (least realmonth within)⟩

theorem prepareEffectiveDemand_nonneg (dln : Nat → Nat → Rat) (area : HydroArea) (data : TmpDataByArea) :
    (∀ day < Calendar.daysBefore settings 12, 0 ≤ (prepareEffectiveDemand (Calendar.reset settings) dln area data).dle day) ∧
      ∀ realmonth < 12, 0 ≤ (prepareEffectiveDemand (Calendar.reset settings) dln area data).mle realmonth := by
  have civil (realmonth : Nat) (within : realmonth < 12) := Calendar.exists_realmonth settings within
  have next := daysBefore_next settings
  generalize Calendar.reset settings = calendar at civil next
  obtain ⟨demanding, shifted⟩ : ∃ demanding, prepareEffectiveDemand calendar dln area data = shiftNegativeDemands calendar demanding :=
    ⟨_, rfl⟩
  rw [shifted]
  exact shiftNegativeDemands_nonneg rfl next civil demanding

theorem foldl_inflows {step : TmpDataByArea → Nat → TmpDataByArea} (kept : ∀ data index, (step data index).inflows = data.inflows)
    (indexes : List Nat) (data : TmpDataByArea) : (indexes.foldl step data).inflows = data.inflows := by
  induction indexes generalizing data with
  | nil => rfl
  | cons index indexes ih => exact (ih _).trans (kept data index)

variable (calendar : Calendar)

theorem shiftMonth_inflows (state : ShiftState) (month : Nat) :
    (shiftMonth calendar state month).data.inflows = state.data.inflows := by
  unfold shiftMonth
  dsimp only
  split
  · split_ifs
    · exact @foldl_inflows (shiftDay _) (fun _ _ => rfl) _ _
    · rfl
  · rfl

theorem prepareEffectiveDemand_inflows (dln : Nat → Nat → Rat) (area : HydroArea) (data : TmpDataByArea) :
    (prepareEffectiveDemand calendar dln area data).inflows = data.inflows := by
  have added : ((List.range 365).foldl (addEffectiveDemand calendar dln area) data).inflows = data.inflows :=
    @foldl_inflows (addEffectiveDemand calendar dln area) (fun _ _ => rfl) (List.range 365) data
  unfold prepareEffectiveDemand
  rw [← added]
  generalize (List.range 365).foldl (addEffectiveDemand calendar dln area) data = demanding
  have shifted (months : List Nat) (state : ShiftState) :
      (months.foldl (shiftMonth calendar) state).data.inflows = state.data.inflows := by
    induction months generalizing state with
    | nil => rfl
    | cons month months ih => exact (ih _).trans (shiftMonth_inflows calendar state month)
  have year := shifted (List.range 12) { data := demanding, minimumYear := none, dayYear := 0 }
  unfold shiftNegativeDemands
  dsimp only
  split
  · split_ifs
    · exact (@foldl_inflows (shiftMonthlyDemand _) (fun _ _ => rfl) (List.range 12) _).trans year
    · exact year
  · exact year

end

section
variable {power : Rat → Rat → Rat} (nonneg : ∀ exponent x, 0 ≤ x → 0 ≤ power x exponent) (one : ∀ exponent, power 1 exponent = 1)

theorem mathZero_eq_false {x : Rat} (least : 1 ≤ x) : mathZero x = false := by
  unfold mathZero
  rw [decide_eq_false_iff_not, not_lt, abs_of_nonneg (zero_le_one.trans least)]
  exact le_trans (by norm_num) least

include nonneg one

theorem one_le_weights {profile : List Rat} (profile_nonneg : ∀ value ∈ profile, 0 ≤ value) {top : Rat}
    (greatest : profile.max? = some top) (notZero : mathZero top = false) (exponent : Rat) :
    1 ≤ (shape (power · exponent) top profile).sum := by
  have reached := (List.max?_eq_some_iff.mp greatest).1
  have positive : 0 < top := by
    apply lt_of_le_of_ne (profile_nonneg top reached)
    rintro rfl
    simp [mathZero] at notZero
  exact one_le_sum_shape (nonneg exponent) (one exponent) positive profile_nonneg reached

theorem sum_monthTargets (area : HydroArea) (mog : Rat) {demands : List Rat} (some_day : demands ≠ [])
    (demands_nonneg : ∀ demand ∈ demands, 0 ≤ demand) : (monthTargets power area mog demands).sum = mog := by
  unfold monthTargets
  cases greatest : demands.max? with
  | none => exact absurd (List.max?_eq_none_iff.mp greatest) some_day
  | some demandMax =>
    dsimp only
    split_ifs with zero
    · rw [List.map_const']
      exact sum_equalShares mog fun none => some_day (List.length_eq_zero_iff.mp none)
    · apply sum_shareOut
      have weights := one_le_weights nonneg one demands_nonneg greatest (by simpa using zero) area.interDailyBreakdown
      exact (zero_lt_one.trans_le weights).ne'

theorem sum_monthlyTargets (area : HydroArea) (total : Rat) {demands : List Rat} (months : demands.length = 12)
    (demands_nonneg : ∀ demand ∈ demands, 0 ≤ demand) : (monthlyTargets power area total demands).sum = total := by
  unfold monthlyTargets
  cases greatest : demands.max? with
  | none =>
    rw [List.max?_eq_none_iff.mp greatest] at months
    cases months
  | some monthlyMaxDemand =>
    dsimp only
    split_ifs with zero weightless
    · rw [List.map_const', months]
      exact_mod_cast sum_equalShares total (show 12 ≠ 0 by decide)
    · have weights := one_le_weights nonneg one demands_nonneg greatest (by simpa using zero) area.intermonthlyBreakdown
      rw [mathZero_eq_false weights] at weightless
      cases weightless
    · have weights := one_le_weights nonneg one demands_nonneg greatest (by simpa using zero) area.intermonthlyBreakdown
      exact sum_shareOut total (zero_lt_one.trans_le weights).ne'

end

section
variable (power : Rat → Rat → Rat) (area : HydroArea)

theorem length_monthTargets (mog : Rat) (demands : List Rat) :
    (monthTargets power area mog demands).length = demands.length := by
  unfold monthTargets
  cases greatest : demands.max? with
  | none => rw [List.max?_eq_none_iff.mp greatest]
  | some demandMax =>
    dsimp only
    split_ifs
    · exact List.length_map _
    · rw [shareOut, shape, List.length_map, List.length_map]

theorem length_monthlyTargets (total : Rat) (demands : List Rat) :
    (monthlyTargets power area total demands).length = demands.length := by
  unfold monthlyTargets
  cases greatest : demands.max? with
  | none => rw [List.max?_eq_none_iff.mp greatest]
  | some monthlyMaxDemand =>
    dsimp only
    split_ifs
    · exact List.length_map _
    · rw [shape, List.length_map, List.length_map]
    · rw [shareOut, shape, List.length_map, List.length_map]

variable {area} (follows : area.followLoadModulations = true) (data : TmpDataByArea)
include follows

theorem monthlyTargets_read : (List.range 12).map (prepareMonthlyTargetGenerations power area data).1.mtg =
    monthlyTargets power area ((List.range 12).map data.inflows).sum ((List.range 12).map data.mle) := by
  have read := writeFrom_read data.mtg 0
    (monthlyTargets power area ((List.range 12).map data.inflows).sum ((List.range 12).map data.mle))
  simp only [length_monthlyTargets, List.length_map, List.length_range, Nat.zero_add] at read
  unfold prepareMonthlyTargetGenerations
  rw [follows]
  exact read

theorem dailyTargetMonth_read (heuristic : area.useHeuristicTarget = true) (calendar : Calendar) (srcinflows : Nat → Rat)
    (state : (Nat → Rat) × Nat) (month : Nat) :
    (∀ day < state.2, (dailyTargetMonth power area calendar srcinflows data state month).1 day = state.1 day) ∧
    (daysFrom state.2 (calendar.months month).days).map (dailyTargetMonth power area calendar srcinflows data state month).1 =
      monthTargets power area (data.mog (calendar.months month).realmonth)
        ((daysFrom state.2 (calendar.months month).days).map data.dle) := by
  unfold dailyTargetMonth
  rw [heuristic, follows]
  constructor
  · intro day before
    exact writeFrom_of_lt _ before _
  · have read := writeFrom_read state.1 state.2 (monthTargets power area (data.mog (calendar.months month).realmonth)
      ((daysFrom state.2 (calendar.months month).days).map data.dle))
    have length : (monthTargets power area (data.mog (calendar.months month).realmonth)
        ((daysFrom state.2 (calendar.months month).days).map data.dle)).length = (calendar.months month).days := by
      rw [length_monthTargets, daysFrom, List.length_map, List.length_map, List.length_range]
    rw [length] at read
    rw [daysFrom, List.map_map]
    exact read

theorem dailyTargetGen_read (heuristic : area.useHeuristicTarget = true) {calendar : Calendar} {days : Nat → Nat} (first : days 0 = 0)
    (next : ∀ month, days (month + 1) = days month + (calendar.months month).days) (srcinflows : Nat → Rat) {month : Nat}
    (within : month < 12) :
    (daysFrom (days month) (calendar.months month).days).map (dailyTargetGen power area calendar srcinflows data).1 =
      monthTargets power area (data.mog (calendar.months month).realmonth)
        ((daysFrom (days month) (calendar.months month).days).map data.dle) := by
  have grows : Monotone days := monotone_nat_of_le_succ fun month => by
    rw [next]
    exact Nat.le_add_right _ _
  have run (months : Nat) :
      ((List.range months).foldl (dailyTargetMonth power area calendar srcinflows data) (fun _ => 0, 0)).2 = days months ∧
      ∀ month < months, (daysFrom (days month) (calendar.months month).days).map
          ((List.range months).foldl (dailyTargetMonth power area calendar srcinflows data) (fun _ => 0, 0)).1 =
        monthTargets power area (data.mog (calendar.months month).realmonth)
          ((daysFrom (days month) (calendar.months month).days).map data.dle) := by
    induction months with
    | zero => exact ⟨first.symm, fun _ none => absurd none (Nat.not_lt_zero _)⟩
    | succ months ih =>
      rw [List.range_succ, List.foldl_append]
      generalize (List.range months).foldl (dailyTargetMonth power area calendar srcinflows data) (fun _ => 0, 0) = state at ih
      obtain ⟨dayYear, earlier⟩ := ih
      obtain ⟨unchanged, filled⟩ := dailyTargetMonth_read power follows data heuristic calendar srcinflows state months
      rw [dayYear] at unchanged filled
      constructor
      · rw [next, ← dayYear]
        rfl
      · intro month before
        rcases Nat.lt_succ_iff_lt_or_eq.mp before with inside | rfl
        · rw [← earlier month inside]
          apply List.map_congr_left
          intro day listed
          -- the month ends before this one starts
          have ends : days month + (calendar.months month).days ≤ days months := next month ▸ grows inside
          exact unchanged day ((mem_daysFrom.mp listed).2.trans_le ends)
        · exact filled
  exact (run 12).2 month within

end

/-- What the targets of a year keep: `demanding` are the effective demands they follow. -/
structure TargetsKept (settings : Calendar.Settings) (power : Rat → Rat → Rat) (area : HydroArea) (srcinflows mog inflows : Nat → Rat)
    (demanding : TmpDataByArea) : Prop where
  dle_nonneg : ∀ day < Calendar.daysBefore settings 12, 0 ≤ demanding.dle day
  mle_nonneg : ∀ realmonth < 12, 0 ≤ demanding.mle realmonth
  daily : ∀ month < 12, ((daysFrom (Calendar.daysBefore settings month) ((Calendar.reset settings).months month).days).map
    (dailyTargetGen power area (Calendar.reset settings) srcinflows { demanding with mog }).1).sum =
      mog ((Calendar.reset settings).months month).realmonth
  monthly : ((List.range 12).map (prepareMonthlyTargetGenerations power area demanding).1.mtg).sum =
    ((List.range 12).map inflows).sum

section
variable {power : Rat → Rat → Rat} (nonneg : ∀ exponent x, 0 ≤ x → 0 ≤ power x exponent) (one : ∀ exponent, power 1 exponent = 1)
include nonneg one

variable {area : HydroArea}

theorem targets_sum (heuristic : area.useHeuristicTarget = true) (follows : area.followLoadModulations = true)
    (settings : Calendar.Settings) (data : TmpDataByArea)
    (dle_nonneg : ∀ day < Calendar.daysBefore settings 12, 0 ≤ data.dle day)
    (mle_nonneg : ∀ realmonth < 12, 0 ≤ data.mle realmonth) (srcinflows : Nat → Rat) :
    (∀ month < 12, ((daysFrom (Calendar.daysBefore settings month) ((Calendar.reset settings).months month).days).map
        (dailyTargetGen power area (Calendar.reset settings) srcinflows data).1).sum =
          data.mog ((Calendar.reset settings).months month).realmonth) ∧
      ((List.range 12).map (prepareMonthlyTargetGenerations power area data).1.mtg).sum = ((List.range 12).map data.inflows).sum := by
  have next := daysBefore_next settings
  constructor
  · intro month within
    have some_day : 0 < ((Calendar.reset settings).months month).days := by
      rw [Calendar.reset_months_days]
      exact lt_of_lt_of_le (by decide) (Calendar.monthDays_bounds settings (Nat.lt_succ_of_lt within)).1
    have year : Calendar.daysBefore settings (month + 1) ≤ Calendar.daysBefore settings 12 := by
      apply monotone_nat_of_le_succ (fun other => ?_) within
      rw [next]
      exact Nat.le_add_right _ _
    rw [dailyTargetGen_read power follows data heuristic rfl next srcinflows within]
    apply sum_monthTargets nonneg one
    · intro none
      have length := congrArg List.length none
      rw [daysFrom, List.length_map, List.length_map, List.length_range] at length
      exact some_day.ne' length
    · intro demand listed
      obtain ⟨day, inside, rfl⟩ := List.mem_map.mp listed
      have before := (mem_daysFrom.mp inside).2
      rw [← next] at before
      exact dle_nonneg day (before.trans_le year)
  · rw [monthlyTargets_read power follows data]
    apply sum_monthlyTargets nonneg one
    · rw [List.length_map, List.length_range]
    · intro demand listed
      obtain ⟨realmonth, inside, rfl⟩ := List.mem_map.mp listed
      exact mle_nonneg realmonth (List.mem_range.mp inside)

theorem targetsKept (heuristic : area.useHeuristicTarget = true) (follows : area.followLoadModulations = true)
    (settings : Calendar.Settings) (srcinflows mog inflows : Nat → Rat) {demanding : TmpDataByArea}
    (demands : (∀ day < Calendar.daysBefore settings 12, 0 ≤ demanding.dle day) ∧ ∀ realmonth < 12, 0 ≤ demanding.mle realmonth)
    (same : demanding.inflows = inflows) : TargetsKept settings power area srcinflows mog inflows demanding := by
  have monthly := (targets_sum nonneg one heuristic follows settings demanding demands.1 demands.2 srcinflows).2
  rw [same] at monthly
  constructor
  · exact demands.1
  · exact demands.2
  · exact (targets_sum nonneg one heuristic follows settings { demanding with mog } demands.1 demands.2 srcinflows).1
  · exact monthly

/-- The effective demands are not negative, and the targets that follow them keep the generation of each month
and the inflows of the year. -/
theorem prepareEffectiveDemand_targetsKept (heuristic : area.useHeuristicTarget = true)
    (follows : area.followLoadModulations = true) (settings : Calendar.Settings) (dln : Nat → Nat → Rat) (data : TmpDataByArea)
    (srcinflows mog : Nat → Rat) : TargetsKept settings power area srcinflows mog data.inflows
      (prepareEffectiveDemand (Calendar.reset settings) dln area data) := by
  have demands := prepareEffectiveDemand_nonneg settings dln area data
  have same := prepareEffectiveDemand_inflows (Calendar.reset settings) dln area data
  exact targetsKept nonneg one heuristic follows settings srcinflows mog data.inflows demands same

end

def squaredLoadArea : HydroArea :=
  { useHeuristicTarget := true
    followLoadModulations := true
    intermonthlyBreakdown := 2
    interDailyBreakdown := 2
    allocation := [(0, 1)] }

def januaryFirst : Calendar.Settings := ⟨.monday, .monday, 0, january_lt, false⟩

def wholePower (x exponent : Rat) : Rat := x ^ exponent.num.toNat

theorem squaredLoadArea_targetsKept : TargetsKept januaryFirst wholePower squaredLoadArea (fun _ => 0) (fun _ => 7) (fun _ => 5)
    (prepareEffectiveDemand (Calendar.reset januaryFirst) (fun _ day => day - 100) squaredLoadArea
      ⟨fun _ => 0, fun _ => 0, fun _ => 0, fun _ => 5, fun _ => 0⟩) :=
  prepareEffectiveDemand_targetsKept (fun _ _ positive => pow_nonneg positive _) (fun _ => one_pow _) rfl rfl januaryFirst
    (fun _ day => day - 100) ⟨fun _ => 0, fun _ => 0, fun _ => 0, fun _ => 5, fun _ => 0⟩ (fun _ => 0) (fun _ => 7)

end Antares.Solver
