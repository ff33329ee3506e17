import Antares.Data.Matrix

/-! The hourly costs of a thermal cluster: computed once for each series of the costs, then read for the
series of the availability and for the years.
-/

set_option autoImplicit false

namespace Antares.Thermal

open Data

inductive CostGeneration
  | setManually
  | useCostTimeseries
  deriving DecidableEq

structure CostsTimeSeries where
  productionCostTs : Nat → ℚ := fun _ => 0
  marketBidCostTS : Nat → ℚ := fun _ => 0
  marginalCostTS : Nat → ℚ := fun _ => 0

def thermalModulationCost : Nat := 0

def thermalModulationMarketBid : Nat := 1

def thermalModulationMax : Nat := 4

/-- What the costs of a cluster are computed from, and the computed ones. -/
structure ThermalCluster where
  costgeneration : CostGeneration
  marginalCost : ℚ
  marketBidCost : ℚ
  variableomcost : ℚ
  fuelEfficiency : ℚ
  co2EmissionFactor : ℚ
  modulation : Matrix
  fuelcost : Matrix
  co2cost : Matrix
  timeSeries : Matrix
  timeseriesNumbers : Nat → Nat
  costsTimeSeries : List CostsTimeSeries := [{}]

namespace ThermalCluster

variable (cluster : ThermalCluster)

def modulationAt (column row : Nat) : Option ℚ :=
  if column < cluster.modulation.width ∧ row < cluster.modulation.height then some (cluster.modulation.entry column row)
  else none

def getSeriesIndex (year : Nat) : Nat := if cluster.timeSeries.width = 1 then 0 else cluster.timeseriesNumbers year

def computeMarketBidCost (fuelCost co2cost : ℚ) : ℚ :=
  fuelCost * 360 / cluster.fuelEfficiency + cluster.co2EmissionFactor * co2cost + cluster.variableomcost

/-- `std::min(width - 1, tsIndex)`, with the difference of unsigned numbers. -/
def clampColumn (width tsIndex : Nat) : Nat := min (if width = 0 then 2 ^ 32 - 1 else width - 1) tsIndex

def fillMarketBidCostTS : ThermalCluster :=
  { cluster with costsTimeSeries :=
      cluster.costsTimeSeries.modify 0 fun costs => { costs with marketBidCostTS := fun _ => cluster.marketBidCost } }

def fillMarginalCostTS : ThermalCluster :=
  { cluster with costsTimeSeries :=
      cluster.costsTimeSeries.modify 0 fun costs => { costs with marginalCostTS := fun _ => cluster.marginalCost } }

def resizeCostTS : ThermalCluster :=
  let tsCount := max cluster.fuelcost.width cluster.co2cost.width
  { cluster with costsTimeSeries := (List.range tsCount).map fun tsIndex => cluster.costsTimeSeries[tsIndex]?.getD {} }

def computeMarketBidTS : ThermalCluster :=
  { cluster with costsTimeSeries := cluster.costsTimeSeries.mapIdx fun tsIndex costs =>
      let tsIndexFuel := clampColumn cluster.fuelcost.width tsIndex
      let tsIndexCo2 := clampColumn cluster.co2cost.width tsIndex
      { costs with marketBidCostTS := fun hour =>
          cluster.computeMarketBidCost (cluster.fuelcost.entry tsIndexFuel hour) (cluster.co2cost.entry tsIndexCo2 hour) } }

def marginalCostEqualsMarketBid : ThermalCluster :=
  { cluster with costsTimeSeries :=
      cluster.costsTimeSeries.map fun costs => { costs with marginalCostTS := costs.marketBidCostTS } }

def computeProductionCostTS : ThermalCluster :=
  if cluster.modulation.width = 0 then cluster
  else
    { cluster with costsTimeSeries := cluster.costsTimeSeries.map fun costs =>
        { costs with productionCostTs := fun hour =>
            costs.marginalCostTS hour * cluster.modulation.entry thermalModulationCost hour } }

def computeCostTimeSeries : ThermalCluster :=
  match cluster.costgeneration with
  | .setManually => cluster.fillMarketBidCostTS.fillMarginalCostTS
  | .useCostTimeseries =>
    cluster.resizeCostTS.computeMarketBidTS.marginalCostEqualsMarketBid.computeProductionCostTS

/-- The costs of a series of the availability; there may be fewer series of costs. -/
def costsOf (serieIndex : Nat) : Option CostsTimeSeries :=
  cluster.costsTimeSeries[min serieIndex (cluster.costsTimeSeries.length - 1)]?

variable (serieIndex hourInTheYear : Nat)

def getOperatingCost : Option ℚ :=
  match cluster.costgeneration with
  | .setManually => do
    let modCost ← cluster.modulationAt thermalModulationCost hourInTheYear
    return cluster.marginalCost * modCost
  | .useCostTimeseries => do
    let costs ← cluster.costsOf serieIndex
    return costs.productionCostTs hourInTheYear

def getMarginalCost : Option ℚ := do
  let mod ← cluster.modulationAt thermalModulationCost hourInTheYear
  match cluster.costgeneration with
  | .setManually => return cluster.marginalCost * mod
  | .useCostTimeseries =>
    let costs ← cluster.costsOf serieIndex
    return costs.marginalCostTS hourInTheYear * mod

def getMarketBidCost (hourInTheYear year : Nat) : Option ℚ := do
  let serieIndex := cluster.getSeriesIndex year
  let mod ← cluster.modulationAt thermalModulationMarketBid serieIndex
  match cluster.costgeneration with
  | .setManually => return cluster.marketBidCost * mod
  | .useCostTimeseries =>
    let costs ← cluster.costsOf serieIndex
    return costs.marketBidCostTS hourInTheYear * mod

/-- `checkThermalColumnNumber`, for one cluster. -/
def checkThermalColumnNumber (matrix : Matrix) : Bool :=
  cluster.costgeneration = .setManually || matrix.width = 1 || matrix.width = cluster.timeSeries.width

/-- The column of a series in a matrix with one column, or one for each series. -/
def columnOf (matrix : Matrix) (serieIndex : Nat) : Nat := if matrix.width = 1 then 0 else serieIndex

variable (serieIndex hour : Nat)

def seriesCost : ℚ :=
  cluster.fuelcost.entry (columnOf cluster.fuelcost serieIndex) hour * 360 / cluster.fuelEfficiency +
    cluster.co2EmissionFactor * cluster.co2cost.entry (columnOf cluster.co2cost serieIndex) hour + cluster.variableomcost

def baseCost : ℚ :=
  match cluster.costgeneration with
  | .setManually => cluster.marginalCost
  | .useCostTimeseries => cluster.seriesCost serieIndex hour

def baseBidCost : ℚ :=
  match cluster.costgeneration with
  | .setManually => cluster.marketBidCost
  | .useCostTimeseries => cluster.seriesCost serieIndex hour

/-- The modulation of every hour is there, and the costs have passed the check of their columns. -/
structure Loaded : Prop where
  modulationWidth : cluster.modulation.width = thermalModulationMax
  modulationHeight : cluster.modulation.height = hoursPerYear
  fuelColumns : cluster.checkThermalColumnNumber cluster.fuelcost = true
  co2Columns : cluster.checkThermalColumnNumber cluster.co2cost = true

/-- What the three costs of an hour should be, for the series of a year. -/
structure CostsAgree (hour year : Nat) : Prop where
  same : cluster.computeCostTimeSeries.getOperatingCost (cluster.getSeriesIndex year) hour =
    cluster.computeCostTimeSeries.getMarginalCost (cluster.getSeriesIndex year) hour
  marginal : cluster.computeCostTimeSeries.getMarginalCost (cluster.getSeriesIndex year) hour =
    some (cluster.modulation.entry thermalModulationCost hour * cluster.baseCost (cluster.getSeriesIndex year) hour)
  marketBid : cluster.computeCostTimeSeries.getMarketBidCost hour year =
    some (cluster.modulation.entry thermalModulationMarketBid hour * cluster.baseBidCost (cluster.getSeriesIndex year) hour)

/-- The index of the series is an hour with the modulation of the one asked for, or nothing is modulated. -/
def BidModulationAgrees (hour year : Nat) : Prop :=
  cluster.getSeriesIndex year < hoursPerYear ∧
    (cluster.modulation.entry thermalModulationMarketBid (cluster.getSeriesIndex year) =
        cluster.modulation.entry thermalModulationMarketBid hour ∨
      cluster.baseBidCost (cluster.getSeriesIndex year) hour = 0)

variable {cluster}

theorem computeCostTimeSeries_frame : cluster.computeCostTimeSeries =
    { cluster with costsTimeSeries := cluster.computeCostTimeSeries.costsTimeSeries } := by
  unfold computeCostTimeSeries
  split
  · rfl
  · unfold computeProductionCostTS
    split_ifs <;> rfl

theorem costgeneration_computeCostTimeSeries : cluster.computeCostTimeSeries.costgeneration = cluster.costgeneration := by
  rw [computeCostTimeSeries_frame]

theorem modulationAt_computeCostTimeSeries (column row : Nat) :
    cluster.computeCostTimeSeries.modulationAt column row = cluster.modulationAt column row := by
  rw [computeCostTimeSeries_frame]
  rfl

theorem getSeriesIndex_computeCostTimeSeries (year : Nat) :
    cluster.computeCostTimeSeries.getSeriesIndex year = cluster.getSeriesIndex year := by
  rw [computeCostTimeSeries_frame]
  rfl

namespace Loaded

variable (loaded : cluster.Loaded)
include loaded

theorem modulationAt {column row : Nat} (isColumn : column < thermalModulationMax) (inYear : row < hoursPerYear) :
    cluster.modulationAt column row = some (cluster.modulation.entry column row) :=
  if_pos ⟨loaded.modulationWidth ▸ isColumn, loaded.modulationHeight ▸ inYear⟩

theorem modulationAt_of_le {column row : Nat} (outside : hoursPerYear ≤ row) : cluster.modulationAt column row = none :=
  if_neg fun inside => outside.not_gt (loaded.modulationHeight ▸ inside.2)

end Loaded

theorem width_of_check {matrix : Matrix} (mode : cluster.costgeneration = .useCostTimeseries)
    (checked : cluster.checkThermalColumnNumber matrix = true) : matrix.width = 1 ∨ matrix.width = cluster.timeSeries.width := by
  simpa [checkThermalColumnNumber, mode] using checked

theorem clampColumn_min {matrix : Matrix} {serieIndex total tsCount : Nat} (columns : matrix.width = 1 ∨ matrix.width = total)
    (below : serieIndex < total) (fits : matrix.width ≤ tsCount) (bound : tsCount ≤ total) :
    clampColumn matrix.width (min serieIndex (tsCount - 1)) = columnOf matrix serieIndex := by
  unfold clampColumn columnOf
  rcases columns with one | all
  · simp [one]
  · have same : tsCount = matrix.width := le_antisymm (all ▸ bound) fits
    have nonzero : matrix.width ≠ 0 := all ▸ (Nat.zero_lt_of_lt below).ne'
    rw [same, if_neg nonzero]
    split_ifs <;> omega

theorem costsOf_computeCostTimeSeries (loaded : cluster.Loaded) (mode : cluster.costgeneration = .useCostTimeseries)
    {serieIndex : Nat} (below : serieIndex < cluster.timeSeries.width) :
    cluster.computeCostTimeSeries.costsOf serieIndex = some
      { productionCostTs := fun hour => cluster.seriesCost serieIndex hour * cluster.modulation.entry thermalModulationCost hour
        marketBidCostTS := cluster.seriesCost serieIndex
        marginalCostTS := cluster.seriesCost serieIndex } := by
  have fuel := width_of_check mode loaded.fuelColumns
  have co2 := width_of_check mode loaded.co2Columns
  set tsCount := max cluster.fuelcost.width cluster.co2cost.width with count
  have bound : tsCount ≤ cluster.timeSeries.width := by omega
  have fuelColumn := clampColumn_min fuel below (le_max_left _ cluster.co2cost.width) bound
  have co2Column := clampColumn_min co2 below (le_max_right cluster.fuelcost.width _) bound
  have modulated : cluster.modulation.width ≠ 0 := by
    rw [loaded.modulationWidth]
    decide
  have inside : min serieIndex (tsCount - 1) < tsCount := by omega
  have costs : cluster.computeCostTimeSeries =
      cluster.resizeCostTS.computeMarketBidTS.marginalCostEqualsMarketBid.computeProductionCostTS := by
    unfold computeCostTimeSeries
    rw [mode]
  have production : cluster.resizeCostTS.computeMarketBidTS.marginalCostEqualsMarketBid.modulation.width ≠ 0 := modulated
  rw [costs, costsOf, computeProductionCostTS, if_neg production]
  simp only [marginalCostEqualsMarketBid, computeMarketBidTS, resizeCostTS, List.length_map, List.length_mapIdx,
    List.length_range, List.getElem?_map, List.getElem?_mapIdx, ← count]
  rw [List.getElem?_range inside]
  simp only [Option.map_some]
  rw [fuelColumn, co2Column]
  rfl

theorem costs_of_manual (loaded : cluster.Loaded) (mode : cluster.costgeneration = .setManually) {hour : Nat}
    (inYear : hour < hoursPerYear) (serieIndex : Nat) :
    cluster.computeCostTimeSeries.getOperatingCost serieIndex hour =
        some (cluster.modulation.entry thermalModulationCost hour * cluster.marginalCost) ∧
      cluster.computeCostTimeSeries.getMarginalCost serieIndex hour =
        some (cluster.modulation.entry thermalModulationCost hour * cluster.marginalCost) := by
  have manual := costgeneration_computeCostTimeSeries.trans mode
  have cost : cluster.computeCostTimeSeries.marginalCost = cluster.marginalCost := by rw [computeCostTimeSeries_frame]
  have read := (modulationAt_computeCostTimeSeries thermalModulationCost hour).trans (loaded.modulationAt (by decide) inYear)
  constructor
  · simp [getOperatingCost, manual, read, cost, mul_comm]
  · simp [getMarginalCost, manual, read, cost, mul_comm]

theorem costs_of_timeseries (loaded : cluster.Loaded) (mode : cluster.costgeneration = .useCostTimeseries) {hour : Nat}
    (inYear : hour < hoursPerYear) {serieIndex : Nat} (below : serieIndex < cluster.timeSeries.width) :
    cluster.computeCostTimeSeries.getOperatingCost serieIndex hour =
        some (cluster.modulation.entry thermalModulationCost hour * cluster.seriesCost serieIndex hour) ∧
      cluster.computeCostTimeSeries.getMarginalCost serieIndex hour =
        some (cluster.modulation.entry thermalModulationCost hour * cluster.seriesCost serieIndex hour) := by
  have series := costgeneration_computeCostTimeSeries.trans mode
  have costs := costsOf_computeCostTimeSeries loaded mode below
  have read := (modulationAt_computeCostTimeSeries thermalModulationCost hour).trans (loaded.modulationAt (by decide) inYear)
  constructor
  · simp [getOperatingCost, series, costs, mul_comm]
  · simp [getMarginalCost, series, costs, read, mul_comm]

theorem costs_eq (loaded : cluster.Loaded) {hour serieIndex : Nat} (inYear : hour < hoursPerYear)
    (below : serieIndex < cluster.timeSeries.width) :
    cluster.computeCostTimeSeries.getOperatingCost serieIndex hour =
        some (cluster.modulation.entry thermalModulationCost hour * cluster.baseCost serieIndex hour) ∧
      cluster.computeCostTimeSeries.getMarginalCost serieIndex hour =
        some (cluster.modulation.entry thermalModulationCost hour * cluster.baseCost serieIndex hour) := by
  unfold baseCost
  split
  case h_1 mode => exact costs_of_manual loaded mode inYear serieIndex
  case h_2 mode => exact costs_of_timeseries loaded mode inYear below

theorem getMarketBidCost_eq (loaded : cluster.Loaded) {hour year : Nat}
    (below : cluster.getSeriesIndex year < cluster.timeSeries.width) :
    cluster.computeCostTimeSeries.getMarketBidCost hour year =
      (cluster.modulationAt thermalModulationMarketBid (cluster.getSeriesIndex year)).map
        (· * cluster.baseBidCost (cluster.getSeriesIndex year) hour) := by
  have read := @modulationAt_computeCostTimeSeries cluster thermalModulationMarketBid (cluster.getSeriesIndex year)
  unfold getMarketBidCost baseBidCost
  dsimp only
  rw [getSeriesIndex_computeCostTimeSeries, read, costgeneration_computeCostTimeSeries]
  cases cluster.modulationAt thermalModulationMarketBid (cluster.getSeriesIndex year) with
  | none => rfl
  | some mod =>
    rw [Option.map_some, Option.bind_eq_bind, Option.bind_some]
    cases mode : cluster.costgeneration with
    | setManually =>
      have cost : cluster.computeCostTimeSeries.marketBidCost = cluster.marketBidCost := by rw [computeCostTimeSeries_frame]
      simp [cost, mul_comm]
    | useCostTimeseries =>
      have costs := costsOf_computeCostTimeSeries loaded mode below
      simp [costs, mul_comm]

/-- The costs of an hour are the modulated ones exactly where the modulation of the bid agrees. -/
theorem costs_agree_iff (cluster : ThermalCluster) (loaded : cluster.Loaded) (hour year : Nat) (inYear : hour < hoursPerYear)
    (below : cluster.getSeriesIndex year < cluster.timeSeries.width) :
    cluster.CostsAgree hour year ↔ cluster.BidModulationAgrees hour year := by
  obtain ⟨operating, marginal⟩ := costs_eq loaded inYear below
  have bid := @getMarketBidCost_eq cluster loaded hour year below
  have bidIff : cluster.computeCostTimeSeries.getMarketBidCost hour year = some
        (cluster.modulation.entry thermalModulationMarketBid hour * cluster.baseBidCost (cluster.getSeriesIndex year) hour) ↔
      cluster.BidModulationAgrees hour year := by
    unfold BidModulationAgrees
    rw [bid]
    rcases lt_or_ge (cluster.getSeriesIndex year) hoursPerYear with isHour | outside
    · rw [loaded.modulationAt (by decide) isHour, Option.map_some, Option.some.injEq, mul_eq_mul_right_iff]
      exact (and_iff_right isHour).symm
    · rw [loaded.modulationAt_of_le outside, Option.map_none]
      exact iff_of_false (fun none => by cases none) fun agrees => outside.not_gt agrees.1
  rw [← bidIff]
  exact ⟨CostsAgree.marketBid, fun marketBid => ⟨operating.trans marginal.symm, marginal, marketBid⟩⟩

end ThermalCluster

/-- Two series with fuel costs of their own and one CO2 cost; the bid is modulated by the parity of the hour. -/
def alternatingBid : ThermalCluster where
  costgeneration := .useCostTimeseries
  marginalCost := 0
  marketBidCost := 0
  variableomcost := 3
  fuelEfficiency := 36
  co2EmissionFactor := 1
  modulation :=
    { width := thermalModulationMax
      height := hoursPerYear
      entry := fun column row => if column = thermalModulationMarketBid ∧ row % 2 = 1 then 2 else 1 }
  fuelcost := { width := 2, height := hoursPerYear, entry := fun column _ => if column = 0 then 1 else 2 }
  co2cost := { width := 1, height := hoursPerYear, entry := fun _ _ => 7 }
  timeSeries := { width := 2, height := hoursPerYear, entry := fun _ _ => 100 }
  timeseriesNumbers := fun year => year % 2

theorem alternatingBid_loaded : alternatingBid.Loaded := ⟨rfl, rfl, by decide, by decide⟩

theorem costs_agree_at_odd_hour : alternatingBid.CostsAgree 3 1 :=
  (alternatingBid.costs_agree_iff alternatingBid_loaded 3 1 (by decide) (by decide)).mpr ⟨by decide, Or.inl rfl⟩

/-- The second series bids at an even hour with the modulation of the first one. -/
theorem bid_of_another_hour : alternatingBid.Loaded ∧
    alternatingBid.computeCostTimeSeries.getMarketBidCost 2 1 = some 60 ∧
    alternatingBid.modulation.entry thermalModulationMarketBid 2 * alternatingBid.baseBidCost 1 2 = 30 ∧
    ¬ alternatingBid.CostsAgree 2 1 := by
  have read : alternatingBid.computeCostTimeSeries.getMarketBidCost 2 1 = some 60 := by decide +kernel
  have bid : alternatingBid.modulation.entry thermalModulationMarketBid 2 * alternatingBid.baseBidCost 1 2 = 30 := by
    decide +kernel
  refine ⟨alternatingBid_loaded, read, bid, fun agree => ?_⟩
  have marketBid := agree.marketBid
  rw [read, show alternatingBid.getSeriesIndex 1 = 1 from rfl, bid] at marketBid
  exact absurd marketBid (by decide +kernel)

end Antares.Thermal
