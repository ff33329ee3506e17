import Mathlib.Algebra.Order.Ring.Nat
import Mathlib.Data.Rat.Defs

/-! General data of a study (`generalData.ini`) as far as the simulation loop, the cores sizing, the
time-series numbers and the adequacy patch read it, and what loading leaves of them.
-/

set_option autoImplicit false

namespace Antares.Data

inductive AdqPatchPTO where
  | isDens
  | isLoad
  deriving DecidableEq, Repr

structure LocalMatching where
  enabled : Bool
  setToZeroOutsideInsideLinks : Bool
  setToZeroOutsideOutsideLinks : Bool
  deriving DecidableEq, Repr

structure CurtailmentSharing where
  priceTakingOrder : AdqPatchPTO
  thresholdRun : ℚ
  thresholdDisplayViolations : ℚ
  thresholdVarBoundsRelaxation : Int
  includeHurdleCost : Bool
  checkCsrCostFunction : Bool
  deriving DecidableEq, Repr

structure AdqPatchParams where
  enabled : Bool
  localMatching : LocalMatching
  curtailmentSharing : CurtailmentSharing
  deriving DecidableEq, Repr

/-- The kinds of time-series of the bit masks `timeSeriesToGenerate`, `intraModal`, ... -/
inductive TimeSeriesType where
  | load
  | hydro
  | wind
  | thermal
  | solar
  | renewable
  | transmissionCapacities
  deriving DecidableEq, Repr

inductive RenewableGeneration where
  | rgAggregated
  | rgClusters
  | rgUnknown
  deriving DecidableEq, Repr

variable (generation : RenewableGeneration)

def RenewableGeneration.isAggregated : Bool :=
  generation = .rgAggregated

def RenewableGeneration.isClusters : Bool :=
  generation = .rgClusters

inductive NumberOfCoresMode where
  | ncMin
  | ncLow
  | ncAvg
  | ncHigh
  | ncMax
  deriving DecidableEq, Repr

/-- Bit masks are read as predicates on the kinds; years are counted from zero. -/
structure Parameters where
  nbYears : Nat
  derated : Bool
  userPlaylist : Bool
  yearsFilter : Nat → Bool
  timeSeriesToGenerate : TimeSeriesType → Bool
  timeSeriesToRefresh : TimeSeriesType → Bool
  refreshInterval : TimeSeriesType → Nat
  nbTimeSeries : TimeSeriesType → Nat
  intraModal : TimeSeriesType → Bool
  interModal : TimeSeriesType → Bool
  renewableGeneration : RenewableGeneration
  ncMode : NumberOfCoresMode

def maximumMCYears : Nat := 100000

theorem one_le_maximumMCYears : 1 ≤ maximumMCYears := by decide

def uintMax : Nat := 2 ^ 32 - 1

/-- The five kinds that have a generator, hence a refresh interval. -/
def generatedKinds : List TimeSeriesType := [.load, .solar, .hydro, .wind, .thermal]

variable (parameters : Parameters)

def Parameters.resetPlayedYears (nbOfYears : Nat) : Parameters :=
  { parameters with
    nbYears := min nbOfYears maximumMCYears
    yearsFilter := fun _ => true }

def Parameters.fixBadValues : Parameters :=
  let years :=
    if parameters.derated then parameters.resetPlayedYears 1
    else if maximumMCYears < parameters.nbYears then { parameters with nbYears := maximumMCYears }
    else parameters
  { years with
    nbTimeSeries := fun kind =>
      if kind ∈ generatedKinds ∧ years.nbTimeSeries kind = 0 then 1 else years.nbTimeSeries kind }

theorem Parameters.fixBadValues_nbTimeSeries_pos {kind : TimeSeriesType}
    (generated : kind ∈ generatedKinds) : 0 < parameters.fixBadValues.nbTimeSeries kind := by
  have atLeastOne (number : Nat) : 0 < if kind ∈ generatedKinds ∧ number = 0 then 1 else number := by
    split_ifs with zero
    · exact Nat.one_pos
    · exact Nat.pos_of_ne_zero fun none => zero ⟨generated, none⟩
  exact atLeastOne _

theorem Parameters.fixBadValues_nbYears_of_derated {parameters : Parameters}
    (derated : parameters.fixBadValues.derated = true) : parameters.fixBadValues.nbYears = 1 := by
  simp only [fixBadValues, resetPlayedYears] at derated ⊢
  split_ifs at derated ⊢ <;> simp_all [maximumMCYears]

/-- General data as the simulation finds them once loaded for the solver. -/
structure SimulationParameters extends Parameters where
  nbYears_le : nbYears ≤ maximumMCYears
  refreshInterval_pos : ∀ kind, 0 < refreshInterval kind
  filter_of_no_playlist : userPlaylist = false → ∀ year, yearsFilter year = true

end Antares.Data
