import Antares.Data.Matrix
import Antares.Solver.ParallelYears

/-! The spinning of the thermal clusters over a run. The series are derated in place, by the
preparation of the study or at the end of the generator; the run is compared with the raw
series, loaded or last drawn, derated once.
-/

set_option autoImplicit false

namespace Antares.Solver.ThermalSpinning

open Data

/-- What the study knows of a cluster besides its generation; loading keeps the spinning in bounds. -/
structure ClusterData where
  spinning : Rat
  spinning_nonneg : 0 ≤ spinning
  spinning_le : spinning ≤ 100
  modulation : Nat → Rat
  /-- The series as they are loaded. -/
  series : Matrix

/-- What the simulation reads of a cluster and the derating changes. -/
structure ClusterSeries where
  series : Matrix
  nominalCapacityWithSpinning : Rat

/-- A study with the data of each cluster, by area and rank in the mapping of the area. -/
structure ThermalStudy extends Study where
  nbTimeSeries_pos : 0 < parameters.nbTimeSeries .thermal
  data : Nat → Nat → ClusterData

abbrev State : Type := Nat → Nat → ClusterSeries

/-- The available power of a cluster that the generator draws for each series and day. -/
abbrev Draw : Type := Nat → Nat → Nat → Nat → Rat

namespace ClusterData

variable (data : ClusterData) (cluster : ThermalCluster)

def coefficient : Rat := 1 - data.spinning / 100

def calculationOfSpinning (state : ClusterSeries) : ClusterSeries :=
  if mathZero data.spinning then { state with nominalCapacityWithSpinning := cluster.nominalCapacity }
  else
    { series := state.series.multiplyAllEntriesBy data.coefficient
      nominalCapacityWithSpinning := cluster.nominalCapacity * data.coefficient }

def writeSeries (nbThermalTimeseries : Nat) (avp : Nat → Nat → Rat) (matrix : Matrix) : Matrix :=
  { matrix with
    entry := fun tsIndex hour =>
      if tsIndex < nbThermalTimeseries ∧ hour < hoursPerYear then
        mathRound (avp tsIndex (hour / 24) * data.modulation hour)
      else matrix.entry tsIndex hour }

end ClusterData

variable (cluster : ThermalCluster)

/-- The clusters of the two lists of an area once the study is prepared. -/
def inList : Bool := cluster.enabled && !cluster.mustrun

def inMustrunList : Bool := cluster.enabled && cluster.mustrun

namespace ThermalStudy

variable (study : ThermalStudy)

def thermalCluster (area index : Nat) : Option ThermalCluster :=
  study.areas[area]?.bind fun area => area.thermalMapping[index]?

def loaded : State := fun area index =>
  { series := (study.data area index).series
    nominalCapacityWithSpinning := ((study.thermalCluster area index).map (·.nominalCapacity)).getD 0 }

/-- `StudyRuntimeInfosInitializeAllAreas` -/
def initializeAllAreas (state : State) : State := fun area index =>
  match study.thermalCluster area index with
  | some cluster =>
    if !study.parameters.timeSeriesToRefresh .thermal && (inList cluster || inMustrunList cluster) then
      (study.data area index).calculationOfSpinning cluster (state area index)
    else state area index
  | none => state area index

/-- `GeneratorTempData::operator()` -/
def generatorTempData (data : ClusterData) (cluster : ThermalCluster) (avp : Nat → Nat → Rat)
    (state : ClusterSeries) : ClusterSeries :=
  if !cluster.hasPrepro then state
  -- no derating of a cluster without capacity
  else if cluster.unitCount = 0 ∨ cluster.nominalCapacity = 0 then
    { state with series := state.series.reset 1 hoursPerYear }
  else
    let nbThermalTimeseries := study.parameters.nbTimeSeries .thermal
    let series := data.writeSeries nbThermalTimeseries avp (state.series.resize nbThermalTimeseries hoursPerYear)
    data.calculationOfSpinning cluster
      { state with series := if study.parameters.derated then series.averageTimeseries true else series }

def refreshTSonCurrentYear (year : Nat) : Bool := year % study.parameters.refreshInterval .thermal == 0

def globalThermalTSgeneration : Bool := haveToRefreshTS study.parameters.toParameters .thermal

/-- Every cluster of the mapping of an area, enabled or not and whatever its mode. -/
def generateThermalTimeSeries (draw : Draw) (year : Nat) (state : State) : State := fun area index =>
  match study.thermalCluster area index with
  | some cluster =>
    if cluster.doWeGenerateTS study.globalThermalTSgeneration && study.refreshTSonCurrentYear year then
      study.generatorTempData (study.data area index) cluster (draw area index) (state area index)
    else state area index
  | none => state area index

variable (draws : Nat → Draw)

def loopThroughYears : List SetOfParallelYears → State → List (Nat × State)
  | [], _ => []
  | set :: sets, state =>
    let state :=
      if set.regenerateTS then
        study.generateThermalTimeSeries (draws set.yearForTSgeneration) set.yearForTSgeneration state
      else state
    (set.yearsIndices.filter fun year => set.isYearPerformed year == some true).map (·, state) ++
      loopThroughYears sets state

def simulatedYears (maxPerformed : Nat) : List (Nat × State) :=
  study.loopThroughYears draws
    (buildSetsOfParallelYears study.toStudy maxPerformed 0 study.parameters.nbYears).sets
    (study.initializeAllAreas study.loaded)

variable (cluster : ThermalCluster)

/-- The generator is called for the cluster in front of the year, and has data to work on. -/
def generatesOn (year : Nat) : Bool :=
  refreshing study.toStudy year && study.refreshTSonCurrentYear year &&
    cluster.doWeGenerateTS study.globalThermalTSgeneration && cluster.hasPrepro

def drawnSeries (data : ClusterData) (cluster : ThermalCluster) (avp : Nat → Nat → Rat) : Matrix :=
  if cluster.unitCount = 0 ∨ cluster.nominalCapacity = 0 then
    { width := 1, height := hoursPerYear, entry := fun _ _ => 0 }
  else
    let series : Matrix :=
      { width := study.parameters.nbTimeSeries .thermal
        height := hoursPerYear
        entry := fun tsIndex hour => mathRound (avp tsIndex (hour / 24) * data.modulation hour) }
    if study.parameters.derated then series.averageTimeseries true else series

/-- The raw series of a cluster in a year: loaded from file, or what the generator drew last. -/
def rawSeries (area index year : Nat) : Matrix :=
  (List.range (year + 1)).foldl
    (fun raw year =>
      if study.generatesOn cluster year then
        study.drawnSeries (study.data area index) cluster (draws year area index)
      else raw)
    (study.data area index).series

/-- The raw series multiplied once by the coefficient, and the capacity alike. -/
structure DeratedOnce (data : ClusterData) (cluster : ThermalCluster) (raw : Matrix)
    (state : ClusterSeries) : Prop where
  series : state.series.Same (raw.scaled data.coefficient)
  capacity : state.nominalCapacityWithSpinning = cluster.nominalCapacity * data.coefficient

/-- Either the preparation derates the cluster, or every call of the generator does. -/
def derates : Bool :=
  !study.parameters.timeSeriesToRefresh .thermal || (study.generatesOn cluster 0 && cluster.unitCount != 0)

end ThermalStudy

/-- The null tests change neither the spinning nor the coefficient. -/
def ClusterData.ExactSpinning (data : ClusterData) : Prop :=
  1 / 1000000 ≤ data.spinning ∧ (data.spinning ≤ 100 - 1 / 10000 ∨ data.spinning = 100)

namespace ThermalStudy

variable {study : ThermalStudy} {cluster : ThermalCluster} {area index : Nat}

section

variable (study)

/-- What the raw series of a cluster become: derated, or left as they are. -/
def expected (data : ClusterData) (cluster : ThermalCluster) (raw : Matrix) : ClusterSeries :=
  if study.derates cluster then data.calculationOfSpinning cluster ⟨raw, cluster.nominalCapacity⟩
  else ⟨raw, cluster.nominalCapacity⟩

structure Follows (data : ClusterData) (cluster : ThermalCluster) (raw : Matrix) (state : ClusterSeries) :
    Prop where
  series : state.series.Same (study.expected data cluster raw).series
  capacity : state.nominalCapacityWithSpinning = (study.expected data cluster raw).nominalCapacityWithSpinning

/-- A cluster without capacity keeps the one that the preparation gave it. -/
def Prepared (data : ClusterData) (cluster : ThermalCluster) (state : ClusterSeries) : Prop :=
  cluster.unitCount = 0 ∨ cluster.nominalCapacity = 0 → ∀ raw,
    state.nominalCapacityWithSpinning = (study.expected data cluster raw).nominalCapacityWithSpinning

end

variable (data : ClusterData)

theorem calculationOfSpinning_capacity (cluster : ThermalCluster) (state other : ClusterSeries) :
    (data.calculationOfSpinning cluster state).nominalCapacityWithSpinning =
      (data.calculationOfSpinning cluster other).nominalCapacityWithSpinning := by
  unfold ClusterData.calculationOfSpinning
  split_ifs <;> rfl

theorem calculationOfSpinning_series (cluster : ThermalCluster) {state other : ClusterSeries}
    (same : state.series.Same other.series) :
    (data.calculationOfSpinning cluster state).series.Same (data.calculationOfSpinning cluster other).series := by
  unfold ClusterData.calculationOfSpinning
  split_ifs
  · exact same
  · exact same.multiplyAllEntriesBy _

theorem calculationOfSpinning_noCapacity {cluster : ThermalCluster}
    (none : cluster.nominalCapacity = 0) (state : ClusterSeries) :
    (data.calculationOfSpinning cluster state).nominalCapacityWithSpinning = 0 := by
  unfold ClusterData.calculationOfSpinning
  split_ifs
  · exact none
  · simp only [none, zero_mul]

theorem expected_capacity (raw other : Matrix) :
    (study.expected data cluster raw).nominalCapacityWithSpinning =
      (study.expected data cluster other).nominalCapacityWithSpinning := by
  unfold expected
  split_ifs
  · exact calculationOfSpinning_capacity ..
  · rfl

theorem Follows.prepared {data : ClusterData} {raw : Matrix} {state : ClusterSeries}
    (follows : study.Follows data cluster raw state) : study.Prepared data cluster state :=
  fun _ other => follows.capacity.trans (expected_capacity data raw other)

theorem generatesOn_zero {year : Nat} (generates : study.generatesOn cluster year = true) :
    study.generatesOn cluster 0 = true := by
  simp only [generatesOn, refreshing, refreshTSonCurrentYear, Bool.and_eq_true, Bool.or_eq_true, beq_iff_eq,
    List.any_eq_true, Nat.zero_mod] at generates ⊢
  obtain ⟨⟨⟨refresh, -⟩, behaviour⟩, prepro⟩ := generates
  refine ⟨⟨⟨?_, trivial⟩, behaviour⟩, prepro⟩
  refine refresh.imp ?_ fun thermal => ⟨thermal.1, trivial⟩
  rintro ⟨kind, member, flag, -⟩
  exact ⟨kind, member, flag, trivial⟩

variable (avp : Nat → Nat → Rat)

theorem drawnSeries_null
    (none : cluster.unitCount = 0 ∨ cluster.nominalCapacity = 0) :
    (study.drawnSeries data cluster avp).Null := by
  unfold drawnSeries
  rw [if_pos none]
  intro _ _ _ _
  rfl

theorem reset_same_drawn (matrix : Matrix)
    (none : cluster.unitCount = 0 ∨ cluster.nominalCapacity = 0) :
    (matrix.reset 1 hoursPerYear).Same (study.drawnSeries data cluster avp) := by
  unfold drawnSeries
  rw [if_pos none]
  exact ⟨Matrix.resize_width (by decide), Matrix.resize_height Nat.one_pos, fun _ _ _ _ => rfl⟩

theorem writeSeries_same_drawn (matrix : Matrix)
    (some : ¬(cluster.unitCount = 0 ∨ cluster.nominalCapacity = 0)) :
    Matrix.Same
      (let series := data.writeSeries (study.parameters.nbTimeSeries .thermal) avp
        (matrix.resize (study.parameters.nbTimeSeries .thermal) hoursPerYear)
      if study.parameters.derated then series.averageTimeseries true else series)
      (study.drawnSeries data cluster avp) := by
  have written : (data.writeSeries (study.parameters.nbTimeSeries .thermal) avp
      (matrix.resize (study.parameters.nbTimeSeries .thermal) hoursPerYear)).Same
      { width := study.parameters.nbTimeSeries .thermal
        height := hoursPerYear
        entry := fun tsIndex hour => mathRound (avp tsIndex (hour / 24) * data.modulation hour) } := by
    refine ⟨Matrix.resize_width (by decide), Matrix.resize_height study.nbTimeSeries_pos, ?_⟩
    intro column inWidth row inHeight
    have columns : column < study.parameters.nbTimeSeries .thermal := by
      have width : (matrix.resize (study.parameters.nbTimeSeries .thermal) hoursPerYear).width = _ :=
        Matrix.resize_width (by decide)
      exact width ▸ inWidth
    have rows : row < hoursPerYear := by
      have height : (matrix.resize (study.parameters.nbTimeSeries .thermal) hoursPerYear).height = _ :=
        Matrix.resize_height study.nbTimeSeries_pos
      exact height ▸ inHeight
    exact if_pos ⟨columns, rows⟩
  unfold drawnSeries
  rw [if_neg some]
  dsimp only
  split_ifs
  · exact written.averageTimeseries true
  · exact written

theorem generatorTempData_follows {data : ClusterData} {avp : Nat → Nat → Rat} {state : ClusterSeries}
    (generates : study.generatesOn cluster 0 = true) (prepared : study.Prepared data cluster state) :
    study.Follows data cluster (study.drawnSeries data cluster avp)
      (study.generatorTempData data cluster avp state) := by
  have prepro : cluster.hasPrepro = true := by
    simp only [generatesOn, Bool.and_eq_true] at generates
    exact generates.2
  unfold generatorTempData
  rw [prepro]
  simp only [Bool.not_true, Bool.false_eq_true, if_false]
  by_cases none : cluster.unitCount = 0 ∨ cluster.nominalCapacity = 0
  · rw [if_pos none]
    refine ⟨?_, prepared none _⟩
    have drawn : (state.series.reset 1 hoursPerYear).Same (study.drawnSeries data cluster avp) :=
      reset_same_drawn data avp state.series none
    unfold expected
    split_ifs
    · -- the derating of null series leaves them null
      refine drawn.trans ?_
      unfold ClusterData.calculationOfSpinning
      split_ifs
      · exact Matrix.Same.refl _
      · exact (drawnSeries_null data avp none).same_multiplyAllEntriesBy _
    · exact drawn
  · rw [if_neg none]
    have derates : study.derates cluster = true := by
      push Not at none
      simp [ThermalStudy.derates, generates, none.1]
    refine ⟨?_, ?_⟩
    · rw [expected, if_pos derates]
      exact calculationOfSpinning_series data cluster (writeSeries_same_drawn data avp state.series none)
    · rw [expected, if_pos derates]
      exact calculationOfSpinning_capacity ..

/-- The states of the clusters once the years before `year` are prepared. -/
def stateBefore (study : ThermalStudy) (draws : Nat → Draw) (year : Nat) : State :=
  (List.range year).foldl
    (fun state year =>
      if refreshing study.toStudy year then study.generateThermalTimeSeries (draws year) year state else state)
    (study.initializeAllAreas study.loaded)

variable {draws : Nat → Draw}

theorem stateBefore_succ (year : Nat) :
    study.stateBefore draws (year + 1) =
      if refreshing study.toStudy year then
        study.generateThermalTimeSeries (draws year) year (study.stateBefore draws year)
      else study.stateBefore draws year := by
  simp only [stateBefore, List.range_succ, List.foldl_append, List.foldl_cons, List.foldl_nil]

theorem rawSeries_succ (year : Nat) :
    study.rawSeries draws cluster area index (year + 1) =
      if study.generatesOn cluster (year + 1) then
        study.drawnSeries (study.data area index) cluster (draws (year + 1) area index)
      else study.rawSeries draws cluster area index year := by
  rw [rawSeries, List.range_succ, List.foldl_append]
  rfl

theorem rawSeries_zero :
    study.rawSeries draws cluster area index 0 =
      if study.generatesOn cluster 0 then
        study.drawnSeries (study.data area index) cluster (draws 0 area index)
      else (study.data area index).series := rfl

theorem stateBefore_succ_apply (known : study.thermalCluster area index = some cluster) (year : Nat) :
    study.stateBefore draws (year + 1) area index =
      if study.generatesOn cluster year then
        study.generatorTempData (study.data area index) cluster (draws year area index)
          (study.stateBefore draws year area index)
      else study.stateBefore draws year area index := by
  rw [stateBefore_succ]
  unfold generatesOn
  cases refreshing study.toStudy year with
  | false => simp
  | true =>
    simp only [if_true, Bool.true_and, generateThermalTimeSeries, known]
    cases cluster.doWeGenerateTS study.globalThermalTSgeneration <;>
      cases study.refreshTSonCurrentYear year <;> cases prepro : cluster.hasPrepro <;>
      simp [generatorTempData, prepro]

theorem stateBefore_zero (known : study.thermalCluster area index = some cluster)
    (enabled : cluster.enabled = true) :
    study.stateBefore draws 0 area index =
      if study.parameters.timeSeriesToRefresh .thermal then
        ⟨(study.data area index).series, cluster.nominalCapacity⟩
      else
        (study.data area index).calculationOfSpinning cluster
          ⟨(study.data area index).series, cluster.nominalCapacity⟩ := by
  have lists : (inList cluster || inMustrunList cluster) = true := by
    unfold inList inMustrunList
    rw [enabled]
    cases cluster.mustrun <;> rfl
  simp only [stateBefore, List.range_zero, List.foldl_nil, initializeAllAreas, loaded, known, lists,
    Bool.and_true, Option.map_some, Option.getD_some]
  by_cases refresh : study.parameters.timeSeriesToRefresh .thermal = true
  · rw [refresh, if_pos rfl]
    rfl
  · rw [if_neg refresh, if_pos (by simpa using refresh)]

theorem prepared_follows (known : study.thermalCluster area index = some cluster) (enabled : cluster.enabled = true)
    (never : study.generatesOn cluster 0 = false) :
    study.Follows (study.data area index) cluster (study.data area index).series
      (study.stateBefore draws 0 area index) := by
  have state : study.stateBefore draws 0 area index =
      study.expected (study.data area index) cluster (study.data area index).series := by
    rw [stateBefore_zero known enabled, expected]
    by_cases refresh : study.parameters.timeSeriesToRefresh .thermal = true
    · rw [if_pos refresh, if_neg (by simp [ThermalStudy.derates, refresh, never])]
    · rw [if_neg refresh, if_pos (by simp [ThermalStudy.derates, refresh])]
  rw [state]
  exact ⟨Matrix.Same.refl _, rfl⟩

theorem prepared_start (known : study.thermalCluster area index = some cluster) (enabled : cluster.enabled = true) :
    study.Prepared (study.data area index) cluster (study.stateBefore draws 0 area index) := by
  intro none raw
  rw [stateBefore_zero known enabled, expected]
  by_cases refresh : study.parameters.timeSeriesToRefresh .thermal = true
  · rw [if_pos refresh]
    split_ifs with derates
    · have units : cluster.unitCount ≠ 0 := by
        simp only [ThermalStudy.derates, refresh, Bool.not_true, Bool.false_or, Bool.and_eq_true, bne_iff_ne] at derates
        exact derates.2
      have capacity := none.resolve_left units
      rw [calculationOfSpinning_noCapacity _ capacity, capacity]
    · rfl
  · rw [if_neg refresh, if_pos (by simp [ThermalStudy.derates, refresh])]
    exact calculationOfSpinning_capacity ..

theorem stateBefore_follows (known : study.thermalCluster area index = some cluster)
    (enabled : cluster.enabled = true) (year : Nat) :
    study.Follows (study.data area index) cluster (study.rawSeries draws cluster area index year)
      (study.stateBefore draws (year + 1) area index) := by
  induction year with
  | zero =>
    rw [stateBefore_succ_apply known, rawSeries_zero]
    cases first : study.generatesOn cluster 0 with
    | false => exact prepared_follows known enabled first
    | true => exact generatorTempData_follows first (prepared_start known enabled)
  | succ year ih =>
    rw [stateBefore_succ_apply known, rawSeries_succ]
    cases generates : study.generatesOn cluster (year + 1) with
    | false => exact ih
    | true => exact generatorTempData_follows (generatesOn_zero generates) ih.prepared

theorem stateBefore_of_quiet {first year : Nat} (after : first ≤ year)
    (quiet : ∀ other, first < other → other ≤ year → refreshing study.toStudy other = false) :
    study.stateBefore draws (year + 1) = study.stateBefore draws (first + 1) := by
  induction year, after using Nat.le_induction with
  | base => rfl
  | succ year after ih =>
    rw [stateBefore_succ, if_neg (by simp [quiet (year + 1) (by omega) (Nat.le_refl _)])]
    exact ih fun other above below => quiet other above (Nat.le_succ_of_le below)

variable (sets : List SetOfParallelYears)

theorem loopThroughYears_state
    (refreshes : ∀ set ∈ sets, ∃ first rest, set.RefreshesFirst study.toStudy first rest) {start count : Nat}
    (years : (sets.map (·.yearsIndices)).flatten = List.range' start count) {year : Nat} {state : State}
    (member : (year, state) ∈ study.loopThroughYears draws sets (study.stateBefore draws start)) :
    state = study.stateBefore draws (year + 1) := by
  induction sets generalizing start count with
  | nil => simp [loopThroughYears] at member
  | cons set sets ih =>
    obtain ⟨first, rest, refresh⟩ := refreshes set (by simp)
    rw [List.map_cons, List.flatten_cons] at years
    obtain ⟨length, -, setYears, otherYears⟩ := List.range'_eq_append_iff.1 years.symm
    rw [refresh.yearsIndices] at setYears
    obtain ⟨size, rfl⟩ : ∃ size, length = size + 1 := Nat.exists_eq_succ_of_ne_zero (by rintro rfl; simp at setYears)
    rw [List.range'_succ, List.cons.injEq] at setYears
    obtain ⟨rfl, restYears⟩ := setYears
    have regenerated : (if set.regenerateTS then
          study.generateThermalTimeSeries (draws set.yearForTSgeneration) set.yearForTSgeneration
            (study.stateBefore draws first)
        else study.stateBefore draws first) = study.stateBefore draws (first + 1) := by
      rw [stateBefore_succ, refresh.regenerateTS]
      cases refreshed : refreshing study.toStudy first with
      | false => rfl
      | true => rw [refresh.yearForTSgeneration refreshed]
    -- the rest of the set refreshes nothing
    have same (last : Nat) (after : first ≤ last) (inside : last < first + (size + 1)) :
        study.stateBefore draws (last + 1) = study.stateBefore draws (first + 1) := by
      refine stateBefore_of_quiet after fun other above below => refresh.quiet other ?_
      rw [restYears, List.mem_range'_1]
      omega
    rw [loopThroughYears, regenerated, List.mem_append] at member
    rcases member with inSet | later
    · obtain ⟨listed, inYears, pair⟩ := List.mem_map.1 inSet
      obtain ⟨rfl, rfl⟩ := Prod.mk.inj pair
      have inside := (List.mem_filter.1 inYears).1
      rw [refresh.yearsIndices, restYears, ← List.range'_succ, List.mem_range'_1] at inside
      exact (same listed inside.1 inside.2).symm
    · refine ih (fun other earlier => refreshes other (List.mem_cons_of_mem _ earlier)) otherYears ?_
      rw [Nat.mul_one, ← Nat.add_assoc, same (first + size) (by omega) (by omega)]
      exact later

theorem loopThroughYears_years (start : State) (year : Nat) :
    (∃ state, (year, state) ∈ study.loopThroughYears draws sets start) ↔
      ∃ set ∈ sets, year ∈ set.yearsIndices ∧ set.isYearPerformed year = some true := by
  induction sets generalizing start with
  | nil => simp [loopThroughYears]
  | cons set sets ih =>
    simp only [loopThroughYears, List.mem_append, List.mem_map, List.mem_filter, beq_iff_eq, Prod.mk.injEq,
      exists_or, ih, List.mem_cons, or_and_right, exists_eq_left]
    refine or_congr_left ?_
    constructor
    · rintro ⟨state, listed, found, rfl, -⟩
      exact found
    · intro found
      exact ⟨_, year, found, rfl, rfl⟩

variable {maxPerformed : Nat}

variable (study draws maxPerformed) in
theorem simulatedYears_years (year : Nat) :
    (∃ state, (year, state) ∈ study.simulatedYears draws maxPerformed) ↔
      year < study.parameters.nbYears ∧ study.parameters.yearsFilter year = true := by
  have ordered := buildSetsOfParallelYears_ordered study.toStudy maxPerformed study.parameters.nbYears
  rw [simulatedYears, loopThroughYears_years, ← List.mem_range, ← ordered.years]
  simp only [List.mem_flatten, List.mem_map, exists_exists_and_eq_and]
  constructor
  · rintro ⟨set, inSets, inYears, performed⟩
    refine ⟨⟨set, inSets, inYears⟩, ?_⟩
    rw [ordered.performed set inSets year inYears] at performed
    exact Option.some.inj performed
  · rintro ⟨⟨set, inSets, inYears⟩, performed⟩
    refine ⟨set, inSets, inYears, ?_⟩
    rw [ordered.performed set inSets year inYears, performed]

theorem simulatedYears_follows {year : Nat} {state : State}
    (simulated : (year, state) ∈ study.simulatedYears draws maxPerformed)
    (known : study.thermalCluster area index = some cluster) (enabled : cluster.enabled = true) :
    study.Follows (study.data area index) cluster (study.rawSeries draws cluster area index year)
      (state area index) := by
  have ordered := buildSetsOfParallelYears_ordered study.toStudy maxPerformed study.parameters.nbYears
  have reached : state = study.stateBefore draws (year + 1) :=
    loopThroughYears_state _ (buildSetsOfParallelYears_refreshesFirst study.toStudy maxPerformed _)
      (ordered.years.trans (List.range_eq_range')) simulated
  rw [reached]
  exact stateBefore_follows known enabled year

end ThermalStudy

namespace ClusterData

variable {data : ClusterData}

theorem mathZero_spinning : mathZero data.spinning = true ↔ data.spinning < 1 / 1000000 := by
  rw [mathZero, decide_eq_true_iff, abs_of_nonneg data.spinning_nonneg]

theorem coefficient_eq_one : data.coefficient = 1 ↔ data.spinning = 0 := by
  rw [coefficient, sub_eq_self, div_eq_zero_iff]
  exact or_iff_left (by norm_num)

theorem coefficient_null : (data.coefficient = 0 ∨ mathZero data.coefficient = false) ↔
    data.spinning ≤ 100 - 1 / 10000 ∨ data.spinning = 100 := by
  have nonneg : 0 ≤ data.coefficient := by
    have := data.spinning_le
    unfold coefficient
    linarith
  rw [mathZero, decide_eq_false_iff_not, abs_of_nonneg nonneg, not_lt, or_comm]
  unfold coefficient
  refine or_congr ?_ ?_
  · constructor <;> intro bound <;> linarith
  · constructor <;> intro bound <;> linarith

end ClusterData

namespace ThermalStudy

variable {study : ThermalStudy} {cluster : ThermalCluster} {data : ClusterData} {raw : Matrix}
  {state : ClusterSeries}

/-- The derating of a cluster takes effect, unless there is nothing to derate. -/
structure Applies (study : ThermalStudy) (data : ClusterData) (cluster : ThermalCluster) (raw : Matrix) : Prop where
  series : raw.Null ∨ study.derates cluster = true ∧ data.ExactSpinning
  capacity : cluster.nominalCapacity = 0 ∨ study.derates cluster = true ∧ 1 / 1000000 ≤ data.spinning

theorem Follows.series_iff (follows : study.Follows data cluster raw state) (spins : data.spinning ≠ 0) :
    state.series.Same (raw.scaled data.coefficient) ↔
      raw.Null ∨ study.derates cluster = true ∧ data.ExactSpinning := by
  have changes : data.coefficient ≠ 1 := fun one => spins (ClusterData.coefficient_eq_one.1 one)
  have toExpected : state.series.Same (raw.scaled data.coefficient) ↔
      (study.expected data cluster raw).series.Same (raw.scaled data.coefficient) :=
    ⟨follows.series.symm.trans, follows.series.trans⟩
  rw [toExpected, expected]
  by_cases derates : study.derates cluster = true
  · rw [if_pos derates]
    unfold ClusterData.calculationOfSpinning ClusterData.ExactSpinning
    by_cases small : mathZero data.spinning = true
    · have below := ClusterData.mathZero_spinning.1 small
      rw [if_pos small]
      dsimp only
      rw [Matrix.same_scaled_iff changes]
      refine (or_iff_left ?_).symm
      rintro ⟨-, above, -⟩
      exact absurd below (not_lt.2 above)
    · have above := not_lt.1 fun below => small (ClusterData.mathZero_spinning.2 below)
      rw [if_neg small]
      dsimp only
      rw [Matrix.multiplyAllEntriesBy_same_iff, ClusterData.coefficient_null]
      simp only [derates, above, true_and]
  · rw [if_neg derates]
    dsimp only
    rw [Matrix.same_scaled_iff changes]
    exact (or_iff_left fun both => derates both.1).symm

theorem Follows.capacity_iff (follows : study.Follows data cluster raw state) (spins : data.spinning ≠ 0) :
    state.nominalCapacityWithSpinning = cluster.nominalCapacity * data.coefficient ↔
      cluster.nominalCapacity = 0 ∨ study.derates cluster = true ∧ 1 / 1000000 ≤ data.spinning := by
  have changes : data.coefficient ≠ 1 := fun one => spins (ClusterData.coefficient_eq_one.1 one)
  have unchanged : cluster.nominalCapacity = cluster.nominalCapacity * data.coefficient ↔
      cluster.nominalCapacity = 0 := by
    rw [eq_comm, mul_right_eq_self₀]
    exact or_iff_right changes
  rw [follows.capacity, expected]
  by_cases derates : study.derates cluster = true
  · rw [if_pos derates]
    unfold ClusterData.calculationOfSpinning
    by_cases small : mathZero data.spinning = true
    · have below := ClusterData.mathZero_spinning.1 small
      rw [if_pos small]
      dsimp only
      rw [unchanged]
      exact (or_iff_left fun both => absurd below (not_lt.2 both.2)).symm
    · have above := not_lt.1 fun below => small (ClusterData.mathZero_spinning.2 below)
      rw [if_neg small]
      exact ⟨fun _ => .inr ⟨derates, above⟩, fun _ => rfl⟩
  · rw [if_neg derates]
    dsimp only
    rw [unchanged]
    exact (or_iff_left fun both => derates both.1).symm

theorem Follows.deratedOnce_iff (follows : study.Follows data cluster raw state) :
    DeratedOnce data cluster raw state ↔ data.spinning = 0 ∨ study.Applies data cluster raw := by
  by_cases spins : data.spinning = 0
  · have one := ClusterData.coefficient_eq_one.2 spins
    have same : study.expected data cluster raw = ⟨raw, cluster.nominalCapacity⟩ := by
      have small : mathZero data.spinning = true := by
        rw [ClusterData.mathZero_spinning, spins]
        norm_num
      unfold expected ClusterData.calculationOfSpinning
      rw [if_pos small]
      exact ite_self _
    refine iff_of_true ⟨?_, ?_⟩ (.inl spins)
    · refine (same ▸ follows.series).trans ?_
      rw [one]
      refine ⟨rfl, rfl, fun column _ row _ => ?_⟩
      simp only [Matrix.scaled, mul_one]
    · rw [follows.capacity, same, one, mul_one]
  · constructor
    · intro derated
      exact .inr ⟨(follows.series_iff spins).1 derated.series, (follows.capacity_iff spins).1 derated.capacity⟩
    · rintro (none | applies)
      · exact absurd none spins
      · exact ⟨(follows.series_iff spins).2 applies.series, (follows.capacity_iff spins).2 applies.capacity⟩

/-- In every simulated year, the series and the capacity of the enabled clusters are derated once. -/
def AlwaysDeratedOnce (study : ThermalStudy) (draws : Nat → Draw) (maxPerformed : Nat) : Prop :=
  ∀ year state, (year, state) ∈ study.simulatedYears draws maxPerformed → ∀ area index cluster,
    study.thermalCluster area index = some cluster → cluster.enabled = true →
      DeratedOnce (study.data area index) cluster (study.rawSeries draws cluster area index year)
        (state area index)

/-- Whatever the flags, the local behaviours and the refreshes of the run. -/
theorem alwaysDeratedOnce_iff (study : ThermalStudy) (draws : Nat → Draw) (maxPerformed : Nat) :
    study.AlwaysDeratedOnce draws maxPerformed ↔
      ∀ year < study.parameters.nbYears, study.parameters.yearsFilter year = true → ∀ area index cluster,
        study.thermalCluster area index = some cluster → cluster.enabled = true →
          (study.data area index).spinning = 0 ∨
            study.Applies (study.data area index) cluster (study.rawSeries draws cluster area index year) := by
  constructor
  · intro always year inside performed area index cluster known enabled
    obtain ⟨state, simulated⟩ := (simulatedYears_years study draws maxPerformed year).2 ⟨inside, performed⟩
    exact (simulatedYears_follows simulated known enabled).deratedOnce_iff.1
      (always year state simulated area index cluster known enabled)
  · intro applies year state simulated area index cluster known enabled
    obtain ⟨inside, performed⟩ := (simulatedYears_years study draws maxPerformed year).1 ⟨state, simulated⟩
    exact (simulatedYears_follows simulated known enabled).deratedOnce_iff.2
      (applies year inside performed area index cluster known enabled)

end ThermalStudy

/-- The thermal series are generated, but not those of the only cluster, with a tenth of spinning. -/
def keptSeriesStudy : ThermalStudy where
  parameters :=
    { nbYears := 1
      derated := false
      userPlaylist := false
      yearsFilter := fun _ => true
      timeSeriesToGenerate := (· = .thermal)
      timeSeriesToRefresh := (· = .thermal)
      refreshInterval := fun _ => 1
      nbTimeSeries := fun _ => 1
      intraModal := fun _ => false
      interModal := fun _ => false
      renewableGeneration := .rgAggregated
      ncMode := .ncMin
      nbYears_le := one_le_maximumMCYears
      refreshInterval_pos := fun _ => Nat.one_pos
      filter_of_no_playlist := fun _ _ => rfl }
  areas :=
    [{ loadWidth := 1, solarWidth := 1, windWidth := 1, hydroWidth := 1
       thermalMapping := [⟨true, false, .forceNoGen, true, 1, 100, 1⟩]
       renewableList := [], links := [] }]
  groups := []
  nbTimeSeries_pos := Nat.one_pos
  data := fun _ _ =>
    { spinning := 10
      spinning_nonneg := by norm_num
      spinning_le := by norm_num
      modulation := fun _ => 1
      series := { width := 1, height := hoursPerYear, entry := fun _ _ => 100 } }

/-- The capacity of a cluster of 100 MW stays at 100 MW. -/
theorem keptSeriesStudy_not_derated : ¬keptSeriesStudy.AlwaysDeratedOnce (fun _ _ _ _ _ => 0) 1 := by
  intro always
  obtain ⟨state, simulated⟩ := (ThermalStudy.simulatedYears_years keptSeriesStudy (fun _ _ _ _ _ => 0) 1 0).2
    ⟨Nat.one_pos, rfl⟩
  have known : keptSeriesStudy.thermalCluster 0 0 = some ⟨true, false, .forceNoGen, true, 1, 100, 1⟩ := rfl
  have derated := always 0 state simulated 0 0 _ known rfl
  have follows := ThermalStudy.simulatedYears_follows simulated known rfl
  have kept : keptSeriesStudy.derates ⟨true, false, .forceNoGen, true, 1, 100, 1⟩ = false := by decide
  have capacity := follows.capacity.symm.trans derated.capacity
  rw [ThermalStudy.expected, kept, if_neg Bool.false_ne_true] at capacity
  norm_num [ClusterData.coefficient, keptSeriesStudy] at capacity

end Antares.Solver.ThermalSpinning
