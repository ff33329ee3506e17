import Antares.Optimisation.Horizon
import Antares.Thermal.RunningUnits

/-! What a thermal cluster costs in each hour of a year: its production, the units that run and those that
start. The units that are reported are never more than the cluster has.
-/

set_option autoImplicit false

namespace Antares.Thermal

open Optimisation (UnitCommitmentMode)

section Source

structure YearEndCluster where
  fixedCost : ℚ
  startupCost : ℚ
  mustrun : Bool
  nominalCapacityWithSpinning : ℚ
  minStablePower : ℚ
  unitCount : ℕ
  pminOfAGroup : ℚ

structure YearEndResults where
  availableProduction : ℕ → ℚ
  production : ℕ → ℚ
  pMinOfTheCluster : ℕ → ℚ
  dispatchedUnitsCount : ℕ → ℕ
  operatingCost : ℕ → ℚ
  /-- The counts are unsigned. -/
  small : ∀ hour, dispatchedUnitsCount hour < 2 ^ 32

/-- The cast of a number without fraction; one that is too large is undefined, and is taken modulo. -/
def castUint (n : ℕ) : ℕ := n % 2 ^ 32

variable (cluster : YearEndCluster) (results : YearEndResults) (mode : UnitCommitmentMode) (hour : ℕ)

def clusterProduction : ℚ :=
  if cluster.mustrun then results.availableProduction hour else results.production hour

def unitsFor (power : ℚ) : ℕ := castUint ⌈power / cluster.nominalCapacityWithSpinning⌉₊

def unitsOnMin : ℕ :=
  if clusterProduction cluster results hour ≤ 0 then 0
  else
    match mode with
    | .ucHeuristicFast =>
      if 0 < cluster.pminOfAGroup then
        max (min (castUint ⌊results.pMinOfTheCluster hour / cluster.pminOfAGroup⌋₊)
          (unitsFor cluster (results.availableProduction hour))) (unitsFor cluster (clusterProduction cluster results hour))
      else unitsFor cluster (clusterProduction cluster results hour)
    | .ucHeuristicAccurate | .ucMILP =>
      max (unitsFor cluster (clusterProduction cluster results hour)) (results.dispatchedUnitsCount hour)

def unitsOnMax : ℕ :=
  if clusterProduction cluster results hour ≤ 0 then 0
  else
    let available := unitsFor cluster (results.availableProduction hour)
    let allowed :=
      if 0 < cluster.minStablePower then
        min available (castUint ⌊clusterProduction cluster results hour / cluster.minStablePower⌋₊)
      else available
    max allowed (unitsOnMin cluster results mode hour)

def productionCost : ℚ :=
  if clusterProduction cluster results hour ≤ 0 then 0
  else clusterProduction cluster results hour * results.operatingCost hour

structure YearEndCosts where
  nonProportionalCost : ℚ
  operatingCost : ℚ
  dispatchedUnitsCount : ℕ

section StartupCosts
variable (startHour maxDuration : ℕ) (onMin onOpt : ℕ → ℕ)

def unitsOn : ℕ := if maxDuration = 0 then onMin hour else onOpt hour

def startedUnits : ℤ :=
  Int.bmod (unitsOn hour maxDuration onMin onOpt - unitsOn (hour - 1) maxDuration onMin onOpt) (2 ^ 32)

def yearEndBuildThermalClusterCalculateStartupCosts : YearEndCosts :=
  let optimalCount := min (unitsOn hour maxDuration onMin onOpt) cluster.unitCount
  let fixedCost := cluster.fixedCost * optimalCount
  let startupCost :=
    if startHour + 1 ≤ hour then
      if 0 < startedUnits hour maxDuration onMin onOpt then
        cluster.startupCost * startedUnits hour maxDuration onMin onOpt
      else 0
    else 0
  { nonProportionalCost := startupCost + fixedCost
    operatingCost := productionCost cluster results hour + (startupCost + fixedCost)
    dispatchedUnitsCount := optimalCount }

end StartupCosts

variable (startHour endHour : ℕ)

/-- `ON_opt`, which stays zero where units are never kept for later hours. -/
def optimalUnits : Option (ℕ → ℕ) :=
  let maxDuration := maxDurationON cluster.startupCost cluster.fixedCost endHour
  if 0 < maxDuration then
    (computeEconomicallyOptimalNbClustersONforEachHour startHour endHour (unitsOnMin cluster results mode)
      (unitsOnMax cluster results mode) maxDuration (endHour - startHour)).map counts
  else some fun _ => 0

/-- The units of an hour before they are cut to those of the cluster. -/
def uncutUnits (onOpt : ℕ → ℕ) : ℕ :=
  unitsOn hour (maxDurationON cluster.startupCost cluster.fixedCost endHour) (unitsOnMin cluster results mode) onOpt

def yearEndBuildFromThermalClusterIndex : Option (ℕ → YearEndCosts) :=
  (optimalUnits cluster results mode startHour endHour).map fun onOpt hour =>
    yearEndBuildThermalClusterCalculateStartupCosts cluster results hour startHour
      (maxDurationON cluster.startupCost cluster.fixedCost endHour) (unitsOnMin cluster results mode) onOpt

end Source

section Reported
variable {cluster : YearEndCluster} {results : YearEndResults} {mode : UnitCommitmentMode} {startHour endHour : ℕ}

/-- The costs of an hour, by the units that are reported for it and for the hour before. -/
structure Reported (cluster : YearEndCluster) (results : YearEndResults) (startHour : ℕ) (costs : ℕ → YearEndCosts)
    (hour : ℕ) : Prop where
  nonProportional : (costs hour).nonProportionalCost =
    cluster.fixedCost * (costs hour).dispatchedUnitsCount + cluster.startupCost *
      (if hour = startHour then 0
        else max 0 ((costs hour).dispatchedUnitsCount - (costs (hour - 1)).dispatchedUnitsCount : ℤ) : ℤ)
  operating : (costs hour).operatingCost = productionCost cluster results hour + (costs hour).nonProportionalCost

/-- As many units start as the reported numbers tell: none when the number falls, and otherwise the number
stays within the units of the cluster. A step of half the unsigned numbers has the wrong sign.
-/
def StartsAgree (unitCount before after : ℕ) : Prop :=
  if after ≤ before then before - after ≤ 2 ^ 31
  else if after - before < 2 ^ 31 then after ≤ unitCount else unitCount ≤ before

instance (unitCount before after : ℕ) : Decidable (StartsAgree unitCount before after) :=
  inferInstanceAs (Decidable (if after ≤ before then before - after ≤ 2 ^ 31
    else if after - before < 2 ^ 31 then after ≤ unitCount else unitCount ≤ before))

theorem started_eq_iff {unitCount before after : ℕ} (smallBefore : before < 2 ^ 32) (smallAfter : after < 2 ^ 32) :
    max 0 (Int.bmod (after - before) (2 ^ 32)) = max 0 ((min after unitCount : ℕ) - (min before unitCount : ℕ) : ℤ) ↔
      StartsAgree unitCount before after := by
  have step : Int.bmod (after - before) (2 ^ 32) =
      if (after : ℤ) - before < -2 ^ 31 then (after : ℤ) - before + 2 ^ 32
      else if 2 ^ 31 ≤ (after : ℤ) - before then (after : ℤ) - before - 2 ^ 32 else (after : ℤ) - before := by
    rw [Int.bmod_def]
    omega
  rw [step]
  unfold StartsAgree
  split_ifs <;> omega

theorem castUint_lt (n : ℕ) : castUint n < 2 ^ 32 := Nat.mod_lt n (by decide)

variable (hour : ℕ)

theorem unitsOnMin_lt : unitsOnMin cluster results mode hour < 2 ^ 32 := by
  have production : unitsFor cluster (clusterProduction cluster results hour) < 2 ^ 32 := castUint_lt _
  have available : unitsFor cluster (results.availableProduction hour) < 2 ^ 32 := castUint_lt _
  have dispatched := results.small hour
  unfold unitsOnMin
  split
  · decide
  · cases mode with
    | ucHeuristicFast =>
      dsimp only
      split <;> omega
    | ucHeuristicAccurate => exact max_lt production dispatched
    | ucMILP => exact max_lt production dispatched

theorem unitsOnMax_lt : unitsOnMax cluster results mode hour < 2 ^ 32 := by
  have available : unitsFor cluster (results.availableProduction hour) < 2 ^ 32 := castUint_lt _
  have least : unitsOnMin cluster results mode hour < 2 ^ 32 := unitsOnMin_lt hour
  unfold unitsOnMax
  split
  · decide
  · dsimp only
    split <;> omega

theorem unitsOnMin_le : unitsOnMin cluster results mode hour ≤ unitsOnMax cluster results mode hour := by
  unfold unitsOnMax
  split
  · rename_i nothing
    unfold unitsOnMin
    rw [if_pos nothing]
  · exact le_max_right _ _

theorem exists_optimalUnits (some_hour : startHour < endHour) :
    ∃ onOpt, optimalUnits cluster results mode startHour endHour = some onOpt ∧
      (maxDurationON cluster.startupCost cluster.fixedCost endHour ≠ 0 → ∀ hour, startHour ≤ hour → hour < endHour →
        unitsOnMin cluster results mode hour ≤ onOpt hour ∧ onOpt hour ≤ unitsOnMax cluster results mode hour) := by
  unfold optimalUnits
  dsimp only
  by_cases never : maxDurationON cluster.startupCost cluster.fixedCost endHour = 0
  · rw [if_neg (by omega)]
    exact ⟨_, rfl, fun other => absurd never other⟩
  · rw [if_pos (Nat.pos_of_ne_zero never)]
    obtain ⟨table, computed, written⟩ := compute_written (fun hour _ _ => unitsOnMin_le hour) some_hour
      (endHour - startHour) le_rfl
    refine ⟨counts table, by rw [computed]; rfl, fun _ hour after before => ?_⟩
    have between := (written.schedule (unitsOnMin_le startHour)).between hour after before
    exact ⟨by exact_mod_cast between.1, by exact_mod_cast between.2⟩

variable {onOpt : ℕ → ℕ}

theorem reported_iff {hour : ℕ} (after : startHour ≤ hour)
    (smallBefore : startHour < hour → uncutUnits cluster results mode (hour - 1) endHour onOpt < 2 ^ 32)
    (smallHere : uncutUnits cluster results mode hour endHour onOpt < 2 ^ 32) :
    Reported cluster results startHour (fun hour => yearEndBuildThermalClusterCalculateStartupCosts cluster results hour
        startHour (maxDurationON cluster.startupCost cluster.fixedCost endHour) (unitsOnMin cluster results mode) onOpt) hour ↔
      hour = startHour ∨ cluster.startupCost = 0 ∨ StartsAgree cluster.unitCount
        (uncutUnits cluster results mode (hour - 1) endHour onOpt) (uncutUnits cluster results mode hour endHour onOpt) := by
  have started : ∀ started : ℤ, (if 0 < started then cluster.startupCost * started else 0) =
      cluster.startupCost * (max 0 started : ℤ) := by
    intro started
    split_ifs with some
    · rw [max_eq_right some.le]
    · rw [max_eq_left (not_lt.mp some), Int.cast_zero, mul_zero]
  rcases after.eq_or_lt with rfl | later
  · refine iff_of_true ⟨?_, rfl⟩ (.inl rfl)
    unfold yearEndBuildThermalClusterCalculateStartupCosts
    simp [add_comm]
  · have agree := @started_eq_iff cluster.unitCount _ _ (smallBefore later) smallHere
    have notFirst : hour ≠ startHour := later.ne'
    replace later : startHour + 1 ≤ hour := later
    unfold uncutUnits at agree ⊢
    unfold yearEndBuildThermalClusterCalculateStartupCosts startedUnits
    rw [← agree]
    constructor
    · intro reported
      have costs := reported.nonProportional
      dsimp only at costs
      rw [if_pos later, started, if_neg notFirst, add_comm, add_right_inj, mul_eq_mul_left_iff, Int.cast_inj] at costs
      exact .inr costs.symm
    · rintro (first | free | same)
      · exact absurd first notFirst
      · refine ⟨?_, rfl⟩
        dsimp only
        rw [free, zero_mul, zero_mul, ite_self, ite_self, zero_add, add_zero]
      · refine ⟨?_, rfl⟩
        dsimp only
        rw [if_pos later, started, if_neg notFirst, add_comm, same]

theorem uncutUnits_bounds {hour : ℕ} (after : startHour ≤ hour) (before : hour < endHour)
    (between : maxDurationON cluster.startupCost cluster.fixedCost endHour ≠ 0 → ∀ hour, startHour ≤ hour → hour < endHour →
      unitsOnMin cluster results mode hour ≤ onOpt hour ∧ onOpt hour ≤ unitsOnMax cluster results mode hour) :
    uncutUnits cluster results mode hour endHour onOpt ≤ unitsOnMax cluster results mode hour := by
  unfold uncutUnits unitsOn
  split
  · exact unitsOnMin_le hour
  · rename_i kept
    exact (between kept hour after before).2

end Reported

section Capacity
variable {cluster : YearEndCluster} {results : YearEndResults} {mode : UnitCommitmentMode} {startHour endHour : ℕ}

end Capacity

section Year
variable (cluster : YearEndCluster) (results : YearEndResults) (mode : UnitCommitmentMode) (startHour endHour : ℕ)

/-- The costs of each hour follow from the reported units exactly where starts cost nothing, or the units that start are
those that the reported numbers tell.
-/
theorem yearEndBuildFromThermalClusterIndex_reported_iff :
    (∀ hour, startHour ≤ hour → hour < endHour →
      ∃ costs, yearEndBuildFromThermalClusterIndex cluster results mode startHour endHour = some costs ∧
        Reported cluster results startHour costs hour) ↔
      cluster.startupCost = 0 ∨ ∀ hour, startHour < hour → hour < endHour →
        ∃ onOpt, optimalUnits cluster results mode startHour endHour = some onOpt ∧
          StartsAgree cluster.unitCount (uncutUnits cluster results mode (hour - 1) endHour onOpt)
            (uncutUnits cluster results mode hour endHour onOpt) := by
  rcases Nat.lt_or_ge startHour endHour with some_hour | none
  · obtain ⟨onOpt, computed, between⟩ := @exists_optimalUnits cluster results mode _ _ some_hour
    have small {hour : ℕ} (after : startHour ≤ hour) (before : hour < endHour) :
        uncutUnits cluster results mode hour endHour onOpt < 2 ^ 32 :=
      (uncutUnits_bounds after before between).trans_lt (unitsOnMax_lt hour)
    unfold yearEndBuildFromThermalClusterIndex
    rw [computed, Option.map_some]
    simp only [Option.some.injEq, exists_eq_left']
    constructor
    · intro reported
      by_cases free : cluster.startupCost = 0
      · exact .inl free
      · refine .inr fun hour after before => ?_
        have here := reported hour after.le before
        rw [reported_iff after.le (fun later => small (by omega) (by omega)) (small after.le before)] at here
        exact (here.resolve_left after.ne').resolve_left free
    · intro condition hour after before
      rw [reported_iff after (fun later => small (by omega) (by omega)) (small after before)]
      rcases after.eq_or_lt with first | later
      · exact .inl first.symm
      · exact .inr (condition.imp_right fun all => all hour later before)
  · refine iff_of_true (fun hour after before => ?_) (.inr fun hour after before => ?_) <;> omega

/-- Two units of a hundred, of which no one is kept for later hours. -/
def twoUnits : YearEndCluster where
  fixedCost := 10
  startupCost := 5
  mustrun := true
  nominalCapacityWithSpinning := 100
  minStablePower := 0
  unitCount := 2
  pminOfAGroup := 0

/-- In the second hour, the time-series has more than the two units. -/
def threeHundred : YearEndResults where
  availableProduction hour := if hour = 1 then 300 else 100
  production _ := 0
  pMinOfTheCluster _ := 0
  dispatchedUnitsCount _ := 0
  operatingCost _ := 1
  small _ := by decide

/-- The second hour reports one unit more than the first, and the cost of two starts. -/
theorem yearEndBuildFromThermalClusterIndex_threeHundred :
    ∃ costs, yearEndBuildFromThermalClusterIndex twoUnits threeHundred .ucHeuristicAccurate 0 2 = some costs ∧
      (costs 0).dispatchedUnitsCount = 1 ∧ (costs 1).dispatchedUnitsCount = 2 ∧
      (costs 1).nonProportionalCost = 10 * 2 + 5 * 2 ∧ ¬ Reported twoUnits threeHundred 0 costs 1 := by
  have never : maxDurationON twoUnits.startupCost twoUnits.fixedCost 2 = 0 := by decide +kernel
  have unkept : optimalUnits twoUnits threeHundred .ucHeuristicAccurate 0 2 = some fun _ => 0 := by
    unfold optimalUnits
    rw [never]
    rfl
  unfold yearEndBuildFromThermalClusterIndex
  rw [unkept]
  refine ⟨_, rfl, by decide +kernel, by decide +kernel, by decide +kernel, fun reported => ?_⟩
  exact absurd reported.nonProportional (by decide +kernel)

end Year

end Antares.Thermal
