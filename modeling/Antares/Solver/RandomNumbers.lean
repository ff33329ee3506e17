import Antares.Library.DrawLoop
import Antares.Solver.ParallelYears
import Mathlib.Algebra.Order.Ring.Rat

/-! `ISimulation::computeRandomNumbers` over the sets of `loopThroughYears`. Every year
consumes the same share of the five generators, performed or not, while the numbers of a
performed year are stored at an index that depends on the playlist.
-/

set_option autoImplicit false

namespace Antares.Solver

open Data Library

abbrev RandomStream := Nat → Rat

def RandomStream.next (stream : RandomStream) : Rat × RandomStream :=
  (stream 0, fun position => stream (position + 1))

/-- The functions of the C library that the drawing of reservoir levels calls. -/
structure MathFunctions where
  sqrt : Rat → Rat
  log : Rat → Rat

/-- The rejection loop of `GammaVariable`; `fuel` bounds its number of turns. -/
def gammaVariable (math : MathFunctions) (r : Rat) : Nat → RandomStream → Option (Rat × RandomStream)
  | 0, _ => none
  | fuel + 1, random =>
    let s := r - 1
    let (u, random) := random.next
    let (v, random) := random.next
    let w := u * (1 - u)
    let y := math.sqrt (3 * (r - 1 / 4) / w) * (u - 1 / 2)
    let x := y + s
    if v < 1 / 10 ^ 12 then some (x, random)
    else
      let w := w * 4
      let v := v * w
      let z := w * v * v
      if math.log z ≤ 2 * (s * math.log (x / s) - y) then some (x, random)
      else gammaVariable math r fuel random

variable (math : MathFunctions)

def betaVariable (a b : Rat) (fuel : Nat) (random : RandomStream) :
    Option (Rat × RandomStream) := do
  let (y, random) ← gammaVariable math a fuel random
  let (z, random) ← gammaVariable math b fuel random
  some (y / (y + z), random)

/-- `Yuni::Math::Equals` on doubles -/
def mathEquals (a b : Rat) : Bool := |a - b| < 1 / 10 ^ 6

def randomReservoirLevel (fuel : Nat) (min avg max : Rat)
    (random : RandomStream) : Option (Rat × RandomStream) :=
  if mathEquals min max then some (avg, random)
  else if mathEquals avg min || mathEquals avg max then some (avg, random)
  else do
    let e := (avg - min) / (max - min)
    let re := 1 - e
    let v1 := e * e * re / (1 + e)
    let v2 := e * re * re / (2 - e)
    let v := (if v1 < v2 then v1 else v2) / 2
    let a := e * (e * re / v - 1)
    let b := re * (e * re / v - 1)
    let (x, random) ← betaVariable math a b fuel random
    some (x * max + (1 - x) * min, random)

inductive PowerFluctuations where
  | lssFreeModulations
  | lssMinimizeRamping
  | lssMinimizeExcursions
  | lssUnknown
  deriving DecidableEq, Repr

/-- An area as `computeRandomNumbers` reads it; `areaWideIndices` follows `thermal.list.mapping`. -/
structure RandomArea where
  areaWideIndices : List Nat
  reservoirManagement : Bool
  minimumLevel : Nat → Rat
  averageLevel : Nat → Rat
  maximumLevel : Nat → Rat
  initializeReservoirLevelDate : Nat

structure RandomSettings where
  areas : List RandomArea
  calendarMappingMonths : Nat → Nat
  firstDayOfMonth : Nat → Nat
  useCustomScenario : Bool
  scenarioHydroLevels : Nat → Nat → Rat
  seedSpilledEnergyCosts : Nat
  powerFluctuations : PowerFluctuations
  hydroHotStart : Bool

/-- `antaresSeedDefaultValue + seedSpilledEnergyCosts * antaresSeedIncrement` -/
def defaultSpilledEnergySeed : Nat := 5489 + 7 * 1000000

variable (settings : RandomSettings)

def RandomSettings.spilledEnergySeedIsDefault : Bool :=
  settings.seedSpilledEnergyCosts == defaultSpilledEnergySeed

/-- The numbers of one year. Two-dimensional tables are indexed by pairs. -/
structure YearRandomNumbers where
  nbClustersByArea : Nat → Nat
  thermalNoisesByArea : Nat × Nat → Rat
  reservoirLevels : Nat → Rat
  unsuppliedEnergy : Nat → Rat
  spilledEnergy : Nat → Rat
  hydroCostsByArea_freeMod : Nat → Nat → Rat
  hydroCosts_rampingOrExcursion : Nat → Rat

structure Generators where
  thermalCosts : RandomStream
  hydroManagement : RandomStream
  unsuppliedEnergyCosts : RandomStream
  spilledEnergyCosts : RandomStream
  hydroCosts : RandomStream

/-- The thermal clusters in the order of the loops: areas, then clusters. -/
def RandomSettings.clusterPlaces : List (Nat × Nat) :=
  settings.areas.zipIdx.flatMap fun area => area.1.areaWideIndices.map fun index => (area.2, index)

def drawNext (random : RandomStream) : Option (Rat × RandomStream) := some random.next

def storeThermalNoise (place : Nat × Nat) (noise : Rat) (numbers : YearRandomNumbers) :
    YearRandomNumbers :=
  { numbers with
    thermalNoisesByArea := Function.update numbers.thermalNoisesByArea place noise }

variable (fuel : Nat)

def drawReservoirLevel
    (area : RandomArea × Nat) (random : RandomStream) : Option (Rat × RandomStream) :=
  let initResLevelOnSimMonth := settings.calendarMappingMonths area.1.initializeReservoirLevelDate
  let firstDayOfMonth := settings.firstDayOfMonth initResLevelOnSimMonth
  randomReservoirLevel math fuel (area.1.minimumLevel firstDayOfMonth)
    (area.1.averageLevel firstDayOfMonth) (area.1.maximumLevel firstDayOfMonth) random

variable (firstSetWasRun : Bool)

/-- The level of the scenario builder replaces the drawn one. In hot start mode an unused level
is marked by -1, at the index the next performed year will take when the year is skipped. -/
def storeReservoirLevel (year : Nat)
    (isPerformed : Bool) (area : RandomArea × Nat) (drawn : Rat) (numbers : YearRandomNumbers) :
    YearRandomNumbers :=
  let levelFromScenarioBuilder := settings.scenarioHydroLevels area.2 year
  let randomLevel :=
    if settings.useCustomScenario && decide (0 ≤ levelFromScenarioBuilder)
    then levelFromScenarioBuilder else drawn
  let stored (level : Rat) :=
    { numbers with reservoirLevels := Function.update numbers.reservoirLevels area.2 level }
  if settings.hydroHotStart then
    if !isPerformed || !area.1.reservoirManagement then stored (-1)
    else if !firstSetWasRun then stored randomLevel
    else numbers
  else if isPerformed then stored randomLevel
  else numbers

/-- Both noises of an area; performed and skipped years draw alike. -/
def drawEnergyCosts (random : RandomStream × RandomStream) :
    Option ((Rat × Rat) × (RandomStream × RandomStream)) :=
  let (unsupplied, randomUnsupplied) := random.1.next
  if settings.spilledEnergySeedIsDefault then
    some ((unsupplied, unsupplied), (randomUnsupplied, random.2))
  else
    let (spilled, randomSpilled) := random.2.next
    some ((unsupplied, spilled), (randomUnsupplied, randomSpilled))

variable (area : Nat)

def storeEnergyCosts (noises : Rat × Rat) (numbers : YearRandomNumbers) :
    YearRandomNumbers :=
  { numbers with
    unsuppliedEnergy := Function.update numbers.unsuppliedEnergy area noises.1
    spilledEnergy := Function.update numbers.spilledEnergy area noises.2 }

structure HydroCostNoise where
  value : Rat
  index : Nat

/-- Insertion in a set ordered by absolute values: an equivalent noise is not inserted. -/
def insertHydroCostNoise (noise : HydroCostNoise) : List HydroCostNoise → List HydroCostNoise
  | [] => [noise]
  | other :: others =>
    if |noise.value| < |other.value| then noise :: other :: others
    else if |other.value| < |noise.value| then other :: insertHydroCostNoise noise others
    else other :: others

variable (draws : List (Nat × Rat))

/-- From the hourly draws of an area to noises spread by rank over
[-1.e-3, -5*1.e-4] U [+5*1.e-4, +1.e-3]. -/
def spreadHydroCostNoises (noise : Nat → Rat) : Nat → Rat :=
  let noises := draws.map fun draw => HydroCostNoise.mk (draw.2 - 1 / 2) draw.1
  let centered := storeAll (fun (hour : Nat) (value : Rat) memory => Function.update memory hour value)
    (noises.map fun noise => (noise.index, noise.value)) noise
  let setHydroCostsNoises := noises.foldl (fun set noise => insertHydroCostNoise noise set) []
  storeAll (fun (noise : HydroCostNoise) (rank : Nat) memory =>
      Function.update memory noise.index
        (if noise.value < 0 then -5 * (1 / 10 ^ 4) * (1 + (rank : Rat) / 8784)
        else 5 * (1 / 10 ^ 4) * (1 + (rank : Rat) / 8784)))
    setHydroCostsNoises.zipIdx centered

def drawHydroCostsOfArea (random : RandomStream) : Option (List (Nat × Rat) × RandomStream) :=
  drawAll (fun _ => drawNext) (List.range 8784) random

variable (numbers : YearRandomNumbers)

def storeFreeModulations :
    YearRandomNumbers :=
  { numbers with
    hydroCostsByArea_freeMod := Function.update numbers.hydroCostsByArea_freeMod area
      (spreadHydroCostNoises draws (numbers.hydroCostsByArea_freeMod area)) }

def storeRampingOrExcursion (noise : Rat) (numbers : YearRandomNumbers) :
    YearRandomNumbers :=
  { numbers with
    hydroCosts_rampingOrExcursion :=
      Function.update numbers.hydroCosts_rampingOrExcursion area noise }

def computeHydroCosts (isPerformed : Bool) (numbers : YearRandomNumbers)
    (random : RandomStream) : Option (YearRandomNumbers × RandomStream) :=
  let areas := List.range settings.areas.length
  match settings.powerFluctuations with
  | .lssFreeModulations =>
    drawLoop (fun _ => drawHydroCostsOfArea) storeFreeModulations isPerformed areas numbers random
  | .lssMinimizeRamping | .lssMinimizeExcursions =>
    drawLoop (fun _ => drawNext) storeRampingOrExcursion isPerformed areas numbers random
  | .lssUnknown => some (numbers, random)

/-- One year of `computeRandomNumbers`, on the numbers at the current index. -/
def computeYear (year : Nat) (isPerformed : Bool) (numbers : YearRandomNumbers)
    (random : Generators) : Option (YearRandomNumbers × Generators) := do
  let (numbers, thermalCosts) ← drawLoop (fun _ => drawNext) storeThermalNoise isPerformed
    settings.clusterPlaces numbers random.thermalCosts
  -- levels are drawn and stored for skipped years too: what is stored depends on the mode
  let (numbers, hydroManagement) ← drawLoop (drawReservoirLevel math settings fuel)
    (storeReservoirLevel settings firstSetWasRun year isPerformed) true
    settings.areas.zipIdx numbers random.hydroManagement
  let (numbers, unsuppliedEnergyCosts, spilledEnergyCosts) ←
    drawLoop (fun _ => drawEnergyCosts settings) storeEnergyCosts isPerformed
      (List.range settings.areas.length) numbers
      (random.unsuppliedEnergyCosts, random.spilledEnergyCosts)
  let (numbers, hydroCosts) ← computeHydroCosts settings isPerformed numbers random.hydroCosts
  some (numbers,
    { thermalCosts, hydroManagement, unsuppliedEnergyCosts, spilledEnergyCosts, hydroCosts })

structure RandomNumbers where
  maxNbPerformedYears : Nat
  years : Nat → YearRandomNumbers
  yearNumberToIndex : Nat → Option Nat

structure ComputeState where
  table : RandomNumbers
  indexYear : Nat
  random : Generators

def computeStep (isYearPerformed : Nat → Bool) (state : ComputeState) (year : Nat) :
    Option ComputeState := do
  let isPerformed := isYearPerformed year
  let (numbers, random) ← computeYear math settings fuel firstSetWasRun year isPerformed
    (state.table.years state.indexYear) state.random
  some
    { table :=
        { state.table with
          years := Function.update state.table.years state.indexYear numbers
          yearNumberToIndex :=
            if isPerformed then
              Function.update state.table.yearNumberToIndex year (some state.indexYear)
            else state.table.yearNumberToIndex }
      indexYear := if isPerformed then state.indexYear + 1 else state.indexYear
      random }

def computeRandomNumbers (years : List Nat) (isYearPerformed : Nat → Bool)
    (table : RandomNumbers) (random : Generators) : Option ComputeState :=
  years.foldlM (computeStep math settings fuel firstSetWasRun isYearPerformed) ⟨table, 0, random⟩

/-- The number of clusters is zeroed first, so that no thermal noise is. -/
def YearRandomNumbers.reset :
    YearRandomNumbers :=
  let nbAreas := settings.areas.length
  let nbClustersByArea area := if area < nbAreas then 0 else numbers.nbClustersByArea area
  { nbClustersByArea
    thermalNoisesByArea := fun place =>
      if place.1 < nbAreas ∧ place.2 < nbClustersByArea place.1 then 0
      else numbers.thermalNoisesByArea place
    reservoirLevels := fun area => if area < nbAreas then 0 else numbers.reservoirLevels area
    unsuppliedEnergy := fun area => if area < nbAreas then 0 else numbers.unsuppliedEnergy area
    spilledEnergy := fun area => if area < nbAreas then 0 else numbers.spilledEnergy area
    hydroCostsByArea_freeMod := fun area hour =>
      if settings.powerFluctuations = .lssFreeModulations ∧ area < nbAreas ∧ hour < 8784 then 0
      else numbers.hydroCostsByArea_freeMod area hour
    hydroCosts_rampingOrExcursion := fun area =>
      if (settings.powerFluctuations = .lssMinimizeRamping ∨
          settings.powerFluctuations = .lssMinimizeExcursions) ∧ area < nbAreas then 0
      else numbers.hydroCosts_rampingOrExcursion area }

def RandomNumbers.reset (settings : RandomSettings) (table : RandomNumbers) : RandomNumbers :=
  { table with
    years := fun index =>
      if index < table.maxNbPerformedYears then (table.years index).reset settings
      else table.years index
    yearNumberToIndex := fun _ => none }

/-- Progress of `loopThroughYears`; `stored` keeps the numbers each performed year was given. -/
structure LoopState where
  table : RandomNumbers
  random : Generators
  firstSetWasRun : Bool
  stored : Nat → Option YearRandomNumbers

/-- The numbers `computeRandomNumbers` has just stored for the performed years of a set. -/
def RandomNumbers.record (table : RandomNumbers) (set : SetOfParallelYears)
    (isYearPerformed : Nat → Bool) (stored : Nat → Option YearRandomNumbers) :
    Nat → Option YearRandomNumbers := fun year =>
  if year ∈ set.yearsIndices ∧ isYearPerformed year = true then
    (table.yearNumberToIndex year).map table.years
  else stored year

def SetOfParallelYears.performs (set : SetOfParallelYears) (year : Nat) : Bool :=
  (set.isYearPerformed year).getD false

/-- One set: the year jobs may change the table as they like before it is reset. -/
def loopStep
    (yearJobs : SetOfParallelYears → RandomNumbers → RandomNumbers) (state : LoopState)
    (set : SetOfParallelYears) : Option LoopState := do
  let computed ← computeRandomNumbers math settings fuel state.firstSetWasRun set.yearsIndices
    set.performs state.table state.random
  some
    { table := (yearJobs set computed.table).reset settings
      random := computed.random
      firstSetWasRun := state.firstSetWasRun || set.yearsIndices.any set.performs
      stored := computed.table.record set set.performs state.stored }

structure RunChoice where
  userPlaylist : Bool
  yearsFilter : Nat → Bool
  filter_of_no_playlist : userPlaylist = false → ∀ year, yearsFilter year = true
  maxPerformed : Nat
  initialTable : RandomNumbers
  yearJobs : SetOfParallelYears → RandomNumbers → RandomNumbers
  fuel : Nat

def Study.play (study : Study) (choice : RunChoice) : Study :=
  { study with
    parameters :=
      { study.parameters with
        userPlaylist := choice.userPlaylist
        yearsFilter := choice.yearsFilter
        filter_of_no_playlist := choice.filter_of_no_playlist } }

def loopThroughYears (random : Generators)
    (study : Study) (choice : RunChoice) : Option LoopState :=
  let sets :=
    (buildSetsOfParallelYears (Study.play study choice) choice.maxPerformed 0 study.parameters.nbYears).sets
  sets.foldlM (loopStep math settings choice.fuel choice.yearJobs)
    ⟨choice.initialTable, random, false, fun _ => none⟩

end Antares.Solver
