import Antares.ScenarioBuilder.Apply
import Antares.Solver.ThermalSpinning

/-! The numbers that a ruleset gives to the thermal clusters, and the columns of their series in the
simulated years. The numbers are checked with the global flag alone; each cluster decides for itself
whether its series is generated.
-/

set_option autoImplicit false

namespace Antares.ScenarioBuilder

open Library Data Solver Solver.ThermalSpinning

/-- Reading a cell outside the matrix is `none`. -/
def readCell (matrix : Matrix) (column row : Nat) : Option Rat :=
  if column < matrix.width ∧ row < matrix.height then some (matrix.entry column row) else none

variable (timeSeries : Matrix)

def getSeriesIndex (timeseriesNumber : Nat) : Nat :=
  if timeSeries.width = 1 then 0 else timeseriesNumber

def getCoefficient (timeseriesNumber timestep : Nat) : Option Rat :=
  if timeSeries.width = 0 then some 0 else readCell timeSeries (getSeriesIndex timeSeries timeseriesNumber) timestep

/-- A study with a custom scenario; the derated mode would have switched it off. -/
structure CustomStudy extends ThermalStudy where
  notDerated : parameters.derated = false
  namedGroups : List (Text × Nat)
  groupsSorted : OrderedMap.Sorted Prod.fst namedGroups
  loadedWidth : ∀ {area index : Nat} {cluster : ThermalCluster},
    toThermalStudy.thermalCluster area index = some cluster → (data area index).series.width = cluster.seriesWidth
  loadedHeight : ∀ area index, (data area index).series.width ≠ 0 → (data area index).series.height = hoursPerYear

namespace CustomStudy

variable (study : CustomStudy)

/-- What the ruleset is applied to: the tables of numbers have every year. -/
def scenario : ScenarioStudy where
  areas := study.areas
  parameters := study.parameters
  groups := study.namedGroups
  groupsSorted := study.groupsSorted
  years := study.parameters.nbYears
  years_le := Nat.le_refl _

/-- `areaWideIndex`, from the rank of an enabled cluster in the mapping of its area. -/
def areaWideIndex (area index : Nat) : Nat :=
  (study.areas[area]?).elim 0 fun found => (found.thermalMapping.take index).countP (·.enabled)

def element (area index : Nat) : Element := .thermal area (study.areaWideIndex area index)

/-- The number of the ruleset replaces the drawn one, whatever the latter. -/
def Accepts (rules : Ruleset) (element : Element) (year : Nat) : Prop :=
  rules.numbers (element.cell year) ≠ 0 ∧
    ∀ drawn, (study.scenario.apply rules drawn).1.numbers element year = rules.numbers (element.cell year) - 1

/-- A series of a simulated year and the numbers that select in it. -/
structure SelectsColumns (element : Element) (year : Nat) (timeSeries : Matrix) : Prop where
  below : ∀ rules, study.Accepts rules element year → rules.numbers (element.cell year) - 1 < timeSeries.width
  inside : ∀ rules, study.Accepts rules element year → ∀ timestep < hoursPerYear,
    getCoefficient timeSeries (rules.numbers (element.cell year) - 1) timestep ≠ none
  accepts : ∀ rules, rules.numbers (element.cell year) ≠ 0 →
    rules.numbers (element.cell year) - 1 < timeSeries.width → study.Accepts rules element year

def NumbersSelectColumns (draws : Nat → Draw) (maxPerformed : Nat) : Prop :=
  ∀ year state, (year, state) ∈ study.simulatedYears draws maxPerformed → ∀ area index cluster,
    study.thermalCluster area index = some cluster → cluster.enabled = true →
      study.SelectsColumns (study.element area index) year (state area index).series

variable (cluster : ThermalCluster)

/-- The columns of a cluster once its series is generated, if it is. -/
def simulatedColumns : Nat :=
  if study.generatesOn cluster 0 then
    if cluster.unitCount = 0 ∨ cluster.nominalCapacity = 0 then 1 else study.parameters.nbTimeSeries .thermal
  else cluster.seriesWidth

/-- A cluster that generates its series goes with the global flag, or has loaded as many series; so
does one that keeps the loaded series without it. A cluster without capacity generates one series only.
-/
def GoesWithGlobalFlag : Prop :=
  if study.generatesOn cluster 0 then
    if cluster.unitCount = 0 ∨ cluster.nominalCapacity = 0 then
      (if study.parameters.timeSeriesToGenerate .thermal then study.parameters.nbTimeSeries .thermal
        else cluster.seriesWidth) = 1
    else study.parameters.timeSeriesToGenerate .thermal = true ∨
      cluster.seriesWidth = study.parameters.nbTimeSeries .thermal
  else study.parameters.timeSeriesToGenerate .thermal = false ∨
    cluster.seriesWidth = study.parameters.nbTimeSeries .thermal

section
variable {study : CustomStudy} {area index year : Nat} {cluster : ThermalCluster}

theorem thermalClusters_areaWideIndex (known : study.thermalCluster area index = some cluster)
    (enabled : cluster.enabled = true) :
    ∃ found, study.areas[area]? = some found ∧ found.thermalClusters[study.areaWideIndex area index]? = some cluster := by
  obtain ⟨found, there, listed⟩ := Option.bind_eq_some_iff.mp known
  have ranked : ∀ {mapping : List ThermalCluster} {index : Nat}, mapping[index]? = some cluster →
      (mapping.filter fun cluster => cluster.enabled)[(mapping.take index).countP (·.enabled)]? = some cluster := by
    intro mapping
    induction mapping with
    | nil => simp
    | cons head mapping ih =>
      intro index listed
      cases index with
      | zero =>
        rw [List.getElem?_cons_zero, Option.some.injEq] at listed
        simp [listed, enabled]
      | succ index =>
        have tail := ih (List.getElem?_cons_succ ▸ listed)
        by_cases counted : head.enabled = true
        · simpa [counted] using tail
        · simpa [counted] using tail
  refine ⟨found, there, ?_⟩
  unfold areaWideIndex Area.thermalClusters
  rw [there]
  exact ranked listed

theorem target_mem (known : study.thermalCluster area index = some cluster) (enabled : cluster.enabled = true) :
    ⟨study.element area index, cluster.seriesWidth, study.scenario.tsGenCount .thermal⟩ ∈ study.scenario.targetsOfAreas := by
  obtain ⟨found, there, listed⟩ := thermalClusters_areaWideIndex known enabled
  have inArea : (⟨study.element area index, cluster.seriesWidth, study.scenario.tsGenCount .thermal⟩ :
      ScenarioStudy.Target) ∈ study.scenario.thermals (found, area) :=
    List.mem_map.mpr ⟨(cluster, study.areaWideIndex area index), List.mem_zipIdx_iff_getElem?.mpr listed, rfl⟩
  refine List.mem_append_right _ (List.mem_flatMap.mpr ⟨(found, area), List.mem_zipIdx_iff_getElem?.mpr there, ?_⟩)
  exact List.mem_append_left _ (List.mem_append_left _ inArea)

theorem accepts_iff (known : study.thermalCluster area index = some cluster) (enabled : cluster.enabled = true)
    (inside : year < study.parameters.nbYears) (rules : Ruleset) :
    study.Accepts rules (study.element area index) year ↔ study.scenario.Gives rules (study.element area index) year := by
  have areas : study.scenario.areas ≠ [] := by
    intro none
    obtain ⟨found, there, -⟩ := thermalClusters_areaWideIndex known enabled
    have empty : study.areas = [] := none
    simp [empty] at there
  have laid : study.element area index ∈ study.scenario.laid rules :=
    List.mem_append_left _ (List.mem_map_of_mem (f := ScenarioStudy.Target.element) (target_mem known enabled))
  have applied (drawn : ScenarioState) := congrFun (congrFun (study.scenario.apply_of_areas rules areas drawn).1
    (study.element area index)) year
  constructor
  · intro accepts
    by_contra free
    -- a drawn number that is not the given one
    have kept := accepts.2 ⟨fun _ _ => rules.numbers ((study.element area index).cell year), fun _ _ => none⟩
    rw [applied, ScenarioStudy.overlay_written_of_mem laid _ inside, if_neg free] at kept
    dsimp only at kept
    have given := accepts.1
    omega
  · intro given
    refine ⟨given.1, fun drawn => ?_⟩
    rw [applied, ScenarioStudy.overlay_written_of_mem laid _ inside, if_pos given]

theorem rawSeries_dimensions (known : study.thermalCluster area index = some cluster) (draws : Nat → Draw) (year : Nat) :
    (study.rawSeries draws cluster area index year).width = study.simulatedColumns cluster ∧
      ((study.rawSeries draws cluster area index year).width ≠ 0 →
        (study.rawSeries draws cluster area index year).height = hoursPerYear) := by
  have drawn (avp : Nat → Nat → Rat) (generates : study.generatesOn cluster 0 = true) :
      (study.drawnSeries (study.data area index) cluster avp).width = study.simulatedColumns cluster ∧
        (study.drawnSeries (study.data area index) cluster avp).height = hoursPerYear := by
    unfold ThermalStudy.drawnSeries simulatedColumns
    simp only [generates, study.notDerated, Bool.false_eq_true, if_true, if_false]
    split_ifs <;> exact ⟨rfl, rfl⟩
  induction year with
  | zero =>
    rw [ThermalStudy.rawSeries_zero]
    split_ifs with generates
    · exact (drawn _ generates).imp_right fun height _ => height
    · refine ⟨?_, study.loadedHeight area index⟩
      rw [study.loadedWidth known, simulatedColumns, if_neg generates]
  | succ year ih =>
    rw [ThermalStudy.rawSeries_succ]
    split_ifs with generates
    · exact (drawn _ (ThermalStudy.generatesOn_zero generates)).imp_right fun height _ => height
    · exact ih

variable {draws : Nat → Draw} {maxPerformed : Nat} {state : State}

theorem series_dimensions (simulated : (year, state) ∈ study.simulatedYears draws maxPerformed)
    (known : study.thermalCluster area index = some cluster) (enabled : cluster.enabled = true) :
    (state area index).series.width = study.simulatedColumns cluster ∧
      ((state area index).series.width ≠ 0 → (state area index).series.height = hoursPerYear) := by
  have same := (ThermalStudy.simulatedYears_follows simulated known enabled).series
  have spinning (raw : Matrix) : (study.expected (study.data area index) cluster raw).series.width = raw.width ∧
      (study.expected (study.data area index) cluster raw).series.height = raw.height := by
    unfold ThermalStudy.expected ClusterData.calculationOfSpinning Matrix.multiplyAllEntriesBy
    split_ifs <;> exact ⟨rfl, rfl⟩
  rw [same.width, same.height, (spinning _).1, (spinning _).2]
  exact rawSeries_dimensions known draws year

def checkedColumns (study : CustomStudy) (cluster : ThermalCluster) : Nat :=
  if study.parameters.timeSeriesToGenerate .thermal then study.parameters.nbTimeSeries .thermal else cluster.seriesWidth

theorem checkValidity_tsGenCount (study : CustomStudy) (cluster : ThermalCluster) (value : Nat) :
    checkValidity cluster.seriesWidth (study.scenario.tsGenCount .thermal) value =
      decide (value < study.checkedColumns cluster) := by
  have count : study.scenario.tsGenCount .thermal =
      if study.parameters.timeSeriesToGenerate .thermal then study.parameters.nbTimeSeries .thermal else 0 := rfl
  unfold checkValidity checkedColumns
  rw [count]
  by_cases flag : study.parameters.timeSeriesToGenerate .thermal = true
  · simp only [if_pos flag, if_neg study.nbTimeSeries_pos.ne']
  · simp only [if_neg flag, if_true]

theorem gives_iff (known : study.thermalCluster area index = some cluster) (enabled : cluster.enabled = true)
    (rules : Ruleset) : study.scenario.Gives rules (study.element area index) year ↔
      rules.numbers ((study.element area index).cell year) ≠ 0 ∧
        rules.numbers ((study.element area index).cell year) - 1 < study.checkedColumns cluster := by
  have valid := study.scenario.valid_of_mem (List.mem_append_left _ (target_mem known enabled))
  unfold ScenarioStudy.Gives
  rw [← valid, ScenarioStudy.Target.valid, checkValidity_tsGenCount, decide_eq_true_eq]

theorem checkedColumns_eq_iff (study : CustomStudy) (cluster : ThermalCluster) :
    study.checkedColumns cluster = study.simulatedColumns cluster ↔ study.GoesWithGlobalFlag cluster := by
  unfold checkedColumns simulatedColumns GoesWithGlobalFlag
  by_cases generates : study.generatesOn cluster 0 = true
  · rw [if_pos generates, if_pos generates]
    by_cases null : cluster.unitCount = 0 ∨ cluster.nominalCapacity = 0
    · rw [if_pos null, if_pos null]
    · rw [if_neg null, if_neg null]
      by_cases flag : study.parameters.timeSeriesToGenerate .thermal = true
      · simp [flag]
      · simp [flag]
  · rw [if_neg generates, if_neg generates]
    by_cases flag : study.parameters.timeSeriesToGenerate .thermal = true
    · simp [flag, eq_comm]
    · simp [flag]

def constantNumber (value : Nat) : Ruleset where
  numbers := fun _ => value + 1
  hydroLevels := fun _ _ => none

theorem selectsColumns_iff (simulated : (year, state) ∈ study.simulatedYears draws maxPerformed)
    (known : study.thermalCluster area index = some cluster) (enabled : cluster.enabled = true) :
    study.SelectsColumns (study.element area index) year (state area index).series ↔
      study.checkedColumns cluster = study.simulatedColumns cluster := by
  obtain ⟨width, height⟩ := series_dimensions simulated known enabled
  have inside := ((ThermalStudy.simulatedYears_years study.toThermalStudy draws maxPerformed year).mp ⟨state, simulated⟩).1
  have accepted (rules : Ruleset) := (accepts_iff known enabled inside rules).trans (gives_iff known enabled rules)
  constructor
  · intro selects
    apply le_antisymm
    · by_contra more
      -- the first number after the columns would be accepted
      have below := selects.below (constantNumber (study.simulatedColumns cluster))
        ((accepted _).mpr ⟨Nat.succ_ne_zero _, not_le.mp more⟩)
      exact absurd (width ▸ below) (lt_irrefl _)
    · by_contra less
      have given := selects.accepts (constantNumber (study.checkedColumns cluster)) (Nat.succ_ne_zero _)
        (width ▸ not_le.mp less)
      exact absurd ((accepted _).mp given).2 (lt_irrefl _)
  · intro same
    constructor
    · intro rules accepts
      rw [width, ← same]
      exact ((accepted rules).mp accepts).2
    · intro rules accepts timestep inHeight
      have below : rules.numbers ((study.element area index).cell year) - 1 < (state area index).series.width := by
        rw [width, ← same]
        exact ((accepted rules).mp accepts).2
      have nonempty : (state area index).series.width ≠ 0 := Nat.ne_zero_of_lt below
      have column : getSeriesIndex (state area index).series (rules.numbers ((study.element area index).cell year) - 1) <
          (state area index).series.width := by
        unfold getSeriesIndex
        split_ifs with single
        · exact Nat.pos_of_ne_zero nonempty
        · exact below
      unfold getCoefficient readCell
      rw [if_neg nonempty, if_pos ⟨column, (height nonempty).symm ▸ inHeight⟩]
      exact Option.some_ne_none _
    · intro rules given below
      refine (accepted rules).mpr ⟨given, ?_⟩
      rw [same, ← width]
      exact below

end

/-- The numbers select columns exactly when, if any year is simulated, the clusters go with the flag. -/
theorem numbersSelectColumns_iff (study : CustomStudy) (draws : Nat → Draw) (maxPerformed : Nat) :
    study.NumbersSelectColumns draws maxPerformed ↔
      ∀ year < study.parameters.nbYears, study.parameters.yearsFilter year = true → ∀ area index cluster,
        study.thermalCluster area index = some cluster → cluster.enabled = true → study.GoesWithGlobalFlag cluster := by
  have simulated := ThermalStudy.simulatedYears_years study.toThermalStudy draws maxPerformed
  constructor
  · intro selects year inside performed area index cluster known enabled
    obtain ⟨state, member⟩ := (simulated year).mpr ⟨inside, performed⟩
    exact (study.checkedColumns_eq_iff cluster).mp
      ((selectsColumns_iff member known enabled).mp (selects year state member area index cluster known enabled))
  · intro agrees year state member area index cluster known enabled
    obtain ⟨inside, performed⟩ := (simulated year).mp ⟨state, member⟩
    exact (selectsColumns_iff member known enabled).mpr
      ((study.checkedColumns_eq_iff cluster).mpr (agrees year inside performed area index cluster known enabled))

/-- The thermal series are generated, ten of them, but not those of the only cluster, which has two. -/
def keptColumns : CustomStudy where
  parameters :=
    { nbYears := 1
      derated := false
      userPlaylist := false
      yearsFilter := fun _ => true
      timeSeriesToGenerate := (· = .thermal)
      timeSeriesToRefresh := (· = .thermal)
      refreshInterval := fun _ => 1
      nbTimeSeries := fun _ => 10
      intraModal := fun _ => false
      interModal := fun _ => false
      renewableGeneration := .rgAggregated
      ncMode := .ncMin
      nbYears_le := one_le_maximumMCYears
      refreshInterval_pos := fun _ => Nat.one_pos
      filter_of_no_playlist := fun _ _ => rfl }
  areas :=
    [{ loadWidth := 1, solarWidth := 1, windWidth := 1, hydroWidth := 1
       thermalMapping := [⟨true, false, .forceNoGen, true, 1, 100, 2⟩]
       renewableList := [], links := [] }]
  groups := []
  nbTimeSeries_pos := by decide
  data := fun _ _ =>
    { spinning := 0
      spinning_nonneg := by norm_num
      spinning_le := by norm_num
      modulation := fun _ => 1
      series := { width := 2, height := hoursPerYear, entry := fun _ _ => 100 } }
  notDerated := rfl
  namedGroups := []
  groupsSorted := by decide
  loadedWidth := by
    intro area index cluster known
    obtain ⟨found, there, listed⟩ := Option.bind_eq_some_iff.mp known
    have onlyArea := List.mem_singleton.mp (List.mem_of_getElem? there)
    subst onlyArea
    have onlyCluster := List.mem_singleton.mp (List.mem_of_getElem? listed)
    subst onlyCluster
    rfl
  loadedHeight := fun _ _ _ => rfl

/-- The fifth series is accepted for the two columns, and is read outside of them. -/
theorem keptColumns_reads_outside : ¬keptColumns.NumbersSelectColumns (fun _ _ _ _ _ => 0) 1 := by
  intro selects
  obtain ⟨state, simulated⟩ := (ThermalStudy.simulatedYears_years keptColumns.toThermalStudy (fun _ _ _ _ _ => 0) 1 0).mpr
    ⟨Nat.one_pos, rfl⟩
  have known : keptColumns.thermalCluster 0 0 = some ⟨true, false, .forceNoGen, true, 1, 100, 2⟩ := rfl
  have accepted := (accepts_iff known rfl Nat.one_pos (constantNumber 4)).mpr
    ((gives_iff known rfl _).mpr ⟨by decide, by decide⟩)
  have read := (selects 0 state simulated 0 0 _ known rfl).inside (constantNumber 4) accepted 0 (by decide)
  have width : (state 0 0).series.width = 2 := (series_dimensions simulated known rfl).1.trans (by decide)
  have outside : getCoefficient (state 0 0).series 4 0 = none := by
    unfold getCoefficient getSeriesIndex readCell
    simp [width]
  exact read outside

end CustomStudy

end Antares.ScenarioBuilder
