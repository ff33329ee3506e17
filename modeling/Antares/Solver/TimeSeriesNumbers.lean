import Antares.Solver.ParallelYears

/-! `TimeSeriesNumbers::Generate`: the column each series of each area uses in each year.
The copy made by the inter-modal mode is parametric in what it copies, so that the number
of columns behind a draw can be followed along with the draw.
-/

set_option autoImplicit false

namespace Antares.Solver

open Data

/-- One value for each series of an area. Thermal values follow `thermal.list.mapping`,
renewable ones `renewable.list` and link ones the links of the area. -/
structure PerSeries (β : Type) where
  load : β
  solar : β
  wind : β
  hydro : β
  thermal : List β
  renewable : List β
  links : List β
  deriving DecidableEq

section
variable (study : Study)

def isTSintramodal : TimeSeriesType → Bool
  | .wind => study.parameters.intraModal .wind && study.parameters.renewableGeneration.isAggregated
  | .solar => study.parameters.intraModal .solar && study.parameters.renewableGeneration.isAggregated
  | .renewable =>
    study.parameters.intraModal .renewable && study.parameters.renewableGeneration.isClusters
  | kind => study.parameters.intraModal kind

def isTSgenerated : TimeSeriesType → Bool
  | .renewable => false
  | .transmissionCapacities => false
  | kind => study.parameters.timeSeriesToRefresh kind

def isTSintermodal : TimeSeriesType → Bool
  | .wind => study.parameters.interModal .wind && study.parameters.renewableGeneration.isAggregated
  | .solar => study.parameters.interModal .solar && study.parameters.renewableGeneration.isAggregated
  | .renewable =>
    study.parameters.interModal .renewable && study.parameters.renewableGeneration.isClusters
  | .transmissionCapacities => false
  | kind => study.parameters.interModal kind

/-- The kinds in the order of `ts_to_tsIndex`. -/
def tsKinds : List TimeSeriesType :=
  [.load, .hydro, .wind, .thermal, .solar, .renewable, .transmissionCapacities]

def getAreaTimeSeriesNumber (area : Area) : TimeSeriesType → List Nat
  | .load => [area.loadWidth]
  | .hydro => [area.hydroWidth]
  | .wind => [area.windWidth]
  | .solar => [area.solarWidth]
  | .thermal => area.thermalClusters.map (·.seriesWidth)
  | .renewable => area.renewableClusters.map (·.seriesWidth)
  | .transmissionCapacities => area.links.flatMap fun link => [link.directWidth, link.indirectWidth]

def getGeneratedTimeSeriesNumber : TimeSeriesType → Nat
  | .renewable => 1
  | .transmissionCapacities => 1
  | kind => study.parameters.nbTimeSeries kind

def allAdjacentEqual : List Nat → Bool
  | first :: second :: rest => first == second && allAdjacentEqual (second :: rest)
  | _ => true

def checkAllElementsIdenticalOrOne (numbers : List Nat) : Bool :=
  allAdjacentEqual (numbers.filter (· != 1))

variable (kind : TimeSeriesType)

def checkTSconsistency : Option Nat :=
  let listNumberTS := study.areas.flatMap fun area => getAreaTimeSeriesNumber area kind
  if checkAllElementsIdenticalOrOne listNumberTS then
    some ((listNumberTS.find? (· != 1)).getD 1)
  else none

def intraModalCheck : Option Nat :=
  if isTSintramodal study kind && !isTSgenerated study kind then checkTSconsistency study kind
  else some (getGeneratedTimeSeriesNumber study kind)

def nbTimeseriesByMode : Nat := (intraModalCheck study kind).getD 0

/-- The numbers of time-series by mode, when every kind passes its check. -/
def checkIntraModalConsistency : Option (TimeSeriesType → Nat) :=
  if tsKinds.all fun kind => (intraModalCheck study kind).isSome then some (nbTimeseriesByMode study)
  else none

/-- The numbers of time-series of every inter-modal mode of an area. -/
def interModalNumbers (area : Area) : List Nat :=
  let single (kind : TimeSeriesType) (width : Nat) :=
    if isTSintermodal study kind then
      [if isTSgenerated study kind then study.parameters.nbTimeSeries kind else width]
    else []
  single .load area.loadWidth ++ single .solar area.solarWidth ++ single .wind area.windWidth ++
    single .hydro area.hydroWidth ++
    area.thermalClusters.flatMap (fun cluster => single .thermal cluster.seriesWidth) ++
    (if isTSintermodal study .renewable then area.renewableClusters.map (·.seriesWidth) else [])

def checkInterModalConsistencyForArea (area : Area) : Bool :=
  checkAllElementsIdenticalOrOne (interModalNumbers study area)

/-- 32-bit words still to come from the generator of the time-series numbers. -/
abbrev WordStream := Nat → Nat

/-- `floor(next() * nbTimeSeries)`, where `next` divides a word by 2^32 - 1. -/
def drawNumber (nbTimeSeries : Nat) (random : WordStream) : Nat × WordStream :=
  (random 0 * nbTimeSeries / (2 ^ 32 - 1), fun position => random (position + 1))

/-- A single column needs no draw: the generator must not be called. -/
def drawUnlessSingle (nbTimeSeries : Nat) (random : WordStream) : Nat × WordStream :=
  if nbTimeSeries = 1 then (0, random) else drawNumber nbTimeSeries random

variable (nbByMode : TimeSeriesType → Nat)

def drawTSnumberForKind
    (state : (TimeSeriesType → Nat) × WordStream) (kind : TimeSeriesType) :
    (TimeSeriesType → Nat) × WordStream :=
  if isTSintramodal study kind then
    let drawn :=
      if kind = .transmissionCapacities then drawUnlessSingle (nbByMode kind) state.2
      else drawNumber (nbByMode kind) state.2
    (Function.update state.1 kind drawn.1, drawn.2)
  else state

def drawTSnumbersForIntraModal (random : WordStream) :
    (TimeSeriesType → Nat) × WordStream :=
  tsKinds.foldl (drawTSnumberForKind study nbByMode) (fun _ => 0, random)

def storeTSnumbersForIntraModal (intramodalDraws : TimeSeriesType → Nat) (area : Area)
    (numbers : PerSeries Nat) : PerSeries Nat :=
  let stored (kind : TimeSeriesType) (old : Nat) :=
    if isTSintramodal study kind then intramodalDraws kind else old
  { load := stored .load numbers.load
    solar := stored .solar numbers.solar
    wind := stored .wind numbers.wind
    hydro := stored .hydro numbers.hydro
    thermal := (area.thermalMapping.zip numbers.thermal).map fun entry =>
      if entry.1.enabled then stored .thermal entry.2 else entry.2
    renewable := (area.renewableList.zip numbers.renewable).map fun entry =>
      if entry.1.enabled then stored .renewable entry.2 else entry.2
    links := numbers.links.map (stored .transmissionCapacities) }

/-- A number of its own for a series whose kind is not intra-modal. -/
def drawForSeries (nbTimeSeries old : Nat) (random : WordStream) :
    Nat × WordStream :=
  if isTSintramodal study kind then (old, random) else drawNumber nbTimeSeries random

/-- Clusters in order: a disabled one consumes a draw, an enabled one only if it is not intra-modal. -/
def drawForClusters (kind : TimeSeriesType) :
    List (Bool × Nat) → List Nat → WordStream → List Nat × WordStream
  | (enabled, nbTimeSeries) :: clusters, old :: numbers, random =>
    if enabled then
      let (number, random) := drawForSeries study kind nbTimeSeries old random
      let (rest, random) := drawForClusters kind clusters numbers random
      (number :: rest, random)
    else
      let (_, random) := drawNumber 1 random
      let (rest, random) := drawForClusters kind clusters numbers random
      (old :: rest, random)
  | _, _, random => ([], random)

def drawForLinks : List AreaLink → List Nat → WordStream → List Nat × WordStream
  | link :: links, old :: numbers, random =>
    let (number, random) :=
      if isTSintramodal study .transmissionCapacities then (old, random)
      else drawUnlessSingle link.directWidth random
    let (rest, random) := drawForLinks links numbers random
    (number :: rest, random)
  | _, _, random => ([], random)

section
variable (nbByMode : TimeSeriesType → Nat)

/-- The number of columns a generated series will have, else the loaded one. -/
def nbTimeSeriesOf (kind : TimeSeriesType) (width : Nat) : Nat :=
  if isTSgenerated study kind then nbByMode kind else width

def drawAndStoreForArea (area : Area) (numbers : PerSeries Nat) (random : WordStream) :
    PerSeries Nat × WordStream :=
  let nbTimeSeries := nbTimeSeriesOf study nbByMode
  let (load, random) := drawForSeries study .load (nbTimeSeries .load area.loadWidth) numbers.load random
  let (solar, random) :=
    drawForSeries study .solar (nbTimeSeries .solar area.solarWidth) numbers.solar random
  let (wind, random) := drawForSeries study .wind (nbTimeSeries .wind area.windWidth) numbers.wind random
  let (hydro, random) :=
    drawForSeries study .hydro (nbTimeSeries .hydro area.hydroWidth) numbers.hydro random
  let (thermal, random) := drawForClusters study .thermal
    (area.thermalMapping.map fun cluster => (cluster.enabled, nbTimeSeries .thermal cluster.seriesWidth))
    numbers.thermal random
  let (renewable, random) := drawForClusters study .renewable
    (area.renewableList.map fun cluster => (cluster.enabled, cluster.seriesWidth))
    numbers.renewable random
  let (links, random) := drawForLinks study area.links numbers.links random
  ({ load, solar, wind, hydro, thermal, renewable, links }, random)

def drawAndStoreForAreas : List Area → List (PerSeries Nat) → WordStream →
    List (PerSeries Nat) × WordStream
  | area :: areas, numbers :: rest, random =>
    let (drawn, random) := drawAndStoreForArea study nbByMode area numbers random
    let (others, random) := drawAndStoreForAreas areas rest random
    (drawn :: others, random)
  | _, _, random => ([], random)

def drawForGroups : List Nat → WordStream → List Nat × WordStream
  | [], random => ([], random)
  | nbTimeSeries :: groups, random =>
    let (value, random) := drawUnlessSingle nbTimeSeries random
    let (rest, random) := drawForGroups groups random
    (value :: rest, random)

structure YearNumbers where
  areas : List (PerSeries Nat)
  groups : List Nat

/-- `resizeAllTimeseriesNumbers` -/
def resizedNumbers (area : Area) : PerSeries Nat :=
  { load := 0, solar := 0, wind := 0, hydro := 0
    thermal := area.thermalMapping.map fun _ => 0
    renewable := area.renewableList.map fun _ => 0
    links := area.links.map fun _ => 0 }

def generateYear (random : WordStream) : YearNumbers × WordStream :=
  let (intramodalDraws, random) := drawTSnumbersForIntraModal study nbByMode random
  let stored := study.areas.map fun area =>
    storeTSnumbersForIntraModal study intramodalDraws area (resizedNumbers area)
  let (areas, random) := drawAndStoreForAreas study nbByMode study.areas stored random
  let (groups, random) := drawForGroups study.groups random
  ({ areas, groups }, random)

def generateYears : Nat → WordStream → List YearNumbers
  | 0, _ => []
  | years + 1, random =>
    let (year, random) := generateYear study nbByMode random
    year :: generateYears years random

end

section
variable {β : Type}

def firstEnabled (enabled : List Bool) (values : List β) : Option β :=
  ((enabled.zip values).find? (·.1)).map (·.2)

variable (area : Area) (values : PerSeries β)

/-- The first inter-modal mode of an area, in the order load, solar, wind, hydro, thermal,
renewable; the clusters' modes only where the area has such a cluster. -/
def getFirstTSnumberInterModalMatrixFoundInArea : Option β :=
  if isTSintermodal study .load then some values.load
  else if isTSintermodal study .solar then some values.solar
  else if isTSintermodal study .wind then some values.wind
  else if isTSintermodal study .hydro then some values.hydro
  else if isTSintermodal study .thermal && !area.thermalClusters.isEmpty then
    firstEnabled (area.thermalMapping.map (·.enabled)) values.thermal
  else if isTSintermodal study .renewable && !area.renewableClusters.isEmpty then
    firstEnabled (area.renewableList.map (·.enabled)) values.renewable
  else none

def applyMatrixDrawsToInterModalModesInArea (draw : β) (values : PerSeries β) :
    PerSeries β :=
  let stored (kind : TimeSeriesType) (old : β) := if isTSintermodal study kind then draw else old
  { load := stored .load values.load
    solar := stored .solar values.solar
    wind := stored .wind values.wind
    hydro := stored .hydro values.hydro
    thermal := (area.thermalMapping.zip values.thermal).map fun entry =>
      if entry.1.enabled then stored .thermal entry.2 else entry.2
    renewable := (area.renewableList.zip values.renewable).map fun entry =>
      if entry.1.enabled then stored .renewable entry.2 else entry.2
    links := values.links }

/-- An area without any series of an inter-modal mode has nothing to copy (`assert(tsNumbersMtx)`). -/
def interModalArea : Option (PerSeries β) :=
  (getFirstTSnumberInterModalMatrixFoundInArea study area values).map fun draw =>
    applyMatrixDrawsToInterModalModesInArea study area draw values

end

def anyInterModal : Bool := tsKinds.any (isTSintermodal study)

def interModalAreas : List Area → List (PerSeries Nat) → Option (List (PerSeries Nat))
  | area :: areas, numbers :: rest => do
    let changed ← interModalArea study area numbers
    let others ← interModalAreas areas rest
    some (changed :: others)
  | _, _ => some []

def interModalYear (year : YearNumbers) : Option YearNumbers :=
  (interModalAreas study study.areas year.areas).map fun areas => { year with areas }

def generateDeratedMode : List YearNumbers :=
  (List.range study.parameters.nbYears).map fun _ =>
    { areas := study.areas.map resizedNumbers, groups := study.groups.map fun _ => 0 }

/-- `TimeSeriesNumbers::Generate`: the numbers of every year, where it returns true. -/
def generate (random : WordStream) : Option (List YearNumbers) :=
  if study.parameters.derated then some (generateDeratedMode study)
  else
    (checkIntraModalConsistency study).bind fun nbByMode =>
      let years := generateYears study nbByMode study.parameters.nbYears random
      if anyInterModal study then
        if study.areas.all (checkInterModalConsistencyForArea study) then
          years.mapM (interModalYear study)
        else none
      else some years

end

end Antares.Solver
