import Antares.Data.SimulationPeriod
import Antares.GeneralData.Values

/-! The parameters of a study and what a new study starts with. Loading the general data: the keys of each
section, and what follows once all are read.
-/

set_option autoImplicit false

namespace Antares.GeneralData

open Library Data

deriving instance Inhabited for DayOfTheWeek, Data.Interval, RenewableGeneration, NumberOfCoresMode, AdqPatchPTO, Text.Double

/-- The floats of the machine: read from a text, cut to an unsigned integer and compared with zero. -/
structure Floats (F : Type) where
  read : Text → F
  toUint : F → Nat
  isNegative : F → Bool
  one : F

structure Reserve where
  dayAhead : Bool
  strategic : Bool
  spinning : Bool
  primary : Bool
  deriving Inhabited

structure ThermalOptions where
  minStablePower : Bool
  minUPTime : Bool
  deriving Inhabited

structure IncludeOptions where
  constraints : Bool
  hurdleCosts : Bool
  reserve : Reserve
  thermal : ThermalOptions
  exportMPS : MpsExportStatus
  exportStructure : Bool
  unfeasibleProblemBehavior : UnfeasibleProblemBehavior
  deriving Inhabited

structure LocalMatching where
  enabled : Bool
  setToZeroOutsideInsideLinks : Bool
  setToZeroOutsideOutsideLinks : Bool
  deriving Inhabited

structure CurtailmentSharing where
  priceTakingOrder : AdqPatchPTO
  thresholdRun : Text.Double
  thresholdDisplayViolations : Text.Double
  thresholdVarBoundsRelaxation : Int
  includeHurdleCost : Bool
  checkCsrCostFunction : Bool
  deriving Inhabited

structure AdqPatchParams where
  enabled : Bool
  localMatching : LocalMatching
  curtailmentSharing : CurtailmentSharing
  deriving Inhabited

/-- An output variable, in capital letters, and the files it has a place in. -/
structure Variable where
  name : Text
  onAreas : Bool
  onLinks : Bool

structure VariablePrintInfo extends Variable where
  isPrinted : Bool

structure AllVariablesPrintInfo where
  allVarsPrintInfo : List VariablePrintInfo
  totalMaxColumnsCount : Nat
  numberSelectedAreaVariables : Nat
  numberSelectedLinkVariables : Nat
  deriving Inhabited

structure Parameters (F : Type) where
  mode : StudyMode
  expansion : Bool
  horizon : Text
  nbYears : Nat
  simulationDays : Interval
  dayOfThe1stJanuary : DayOfTheWeek
  firstWeekday : DayOfTheWeek
  firstMonthInYear : Nat
  leapYear : Bool
  yearByYear : Bool
  derated : Bool
  useCustomScenario : Bool
  userPlaylist : Bool
  yearsFilter : List Bool
  thematicTrimming : Bool
  variablesPrintInfo : AllVariablesPrintInfo
  effectiveNbYears : Nat
  geographicTrimming : Bool
  nbTimeSeriesLoad : Nat
  nbTimeSeriesHydro : Nat
  nbTimeSeriesWind : Nat
  nbTimeSeriesThermal : Nat
  nbTimeSeriesSolar : Nat
  timeSeriesToRefresh : TimeSeriesSet
  refreshIntervalLoad : Nat
  refreshIntervalHydro : Nat
  refreshIntervalWind : Nat
  refreshIntervalThermal : Nat
  refreshIntervalSolar : Nat
  timeSeriesToArchive : TimeSeriesSet
  timeSeriesToGenerate : TimeSeriesSet
  exportTimeSeriesInInput : TimeSeriesSet
  intraModal : TimeSeriesSet
  interModal : TimeSeriesSet
  storeTimeseriesNumbers : Bool
  readonly : Bool
  synthesis : Bool
  spillageBound : Bool
  improveUnitsStartup : Bool
  timeSeriesAccuracyOnCorrelation : TimeSeriesSet
  «include» : IncludeOptions
  sheddingPolicy : SheddingPolicy
  powerFluctuations : PowerFluctuations
  ucMode : UnitCommitmentMode
  ncMode : NumberOfCoresMode
  renewableGeneration : RenewableGeneration
  iniLevels : InitialReservoirLevels
  hhPolicy : HydroHeuristicPolicy
  hpMode : HydroPricingMode
  allSetsHaveSameSize : Bool
  transmissionCapacities : GlobalTransmissionCapacities
  simplexOptimizationRange : SimplexOptimization
  adqPatchParams : AdqPatchParams
  activeRulesScenario : Text
  noOutput : Bool
  hydroDebug : Bool
  seed : SeedIndex → Nat
  ortoolsUsed : Bool
  ortoolsSolver : Text
  resultFormat : ResultFormat
  namedProblems : Bool
  solverLogs : Bool
  yearsWeight : List F
  deriving Inhabited

namespace AllVariablesPrintInfo

variable (info : AllVariablesPrintInfo)

def toUpper (text : Text) : Text := text.map Char.toUpper

def «exists» (name : Text) : Bool := info.allVarsPrintInfo.any fun entry => entry.name = toUpper name

def add (entry : Variable) : AllVariablesPrintInfo :=
  if info.exists entry.name then info
  else
    { info with
      allVarsPrintInfo := info.allVarsPrintInfo ++
        [{ name := toUpper entry.name, onAreas := entry.onAreas, onLinks := entry.onLinks, isPrinted := true }] }

def clear : AllVariablesPrintInfo := { info with allVarsPrintInfo := [] }

def setPrintStatus (varname : Text) (printStatus : Bool) : AllVariablesPrintInfo :=
  { info with
    allVarsPrintInfo := info.allVarsPrintInfo.map fun entry =>
      if entry.name = toUpper varname then { entry with isPrinted := printStatus } else entry }

def setAllPrintStatusesTo (b : Bool) : AllVariablesPrintInfo :=
  { info with allVarsPrintInfo := info.allVarsPrintInfo.map fun entry => { entry with isPrinted := b } }

def countSelectedAreaVars : AllVariablesPrintInfo :=
  { info with
    numberSelectedAreaVariables := info.allVarsPrintInfo.countP fun entry => entry.isPrinted && entry.onAreas }

def countSelectedLinkVars : AllVariablesPrintInfo :=
  { info with
    numberSelectedLinkVariables := info.allVarsPrintInfo.countP fun entry => entry.isPrinted && entry.onLinks }

def prepareForSimulation (isThematicTrimmingEnabled : Bool) (excludedVars : List String) : AllVariablesPrintInfo :=
  let info := if isThematicTrimmingEnabled then info else info.setAllPrintStatusesTo true
  (excludedVars.foldl (fun info name => info.setPrintStatus name.toList false) info).countSelectedAreaVars
    |>.countSelectedLinkVars

end AllVariablesPrintInfo

section ExcludedVariables

def renewableExcludedVariables : RenewableGeneration → List String
  | .rgAggregated =>
    ["WIND OFFSHORE", "WIND ONSHORE", "SOLAR CONCRT.", "SOLAR PV", "SOLAR ROOFT", "RENW. 1", "RENW. 2", "RENW. 3",
      "RENW. 4"]
  | .rgClusters => ["WIND", "SOLAR"]
  | .rgUnknown => []

/-- Without local matching there is no `DENS` either. -/
def AdqPatchParams.excludedVariables (params : AdqPatchParams) : List String :=
  if params.enabled then (if params.localMatching.enabled then [] else ["DENS"])
  else ["DENS", "LMR VIOL.", "SPIL. ENRG. CSR", "DTG MRG CSR"]

def ucExcludedVariables : UnitCommitmentMode → List String
  | .milp =>
    ["MARG. COST", "BC. MARG. COST", "CONG. FEE (ALG.)", "CONG. FEE (ABS.)", "MRG. PRICE", "STS Cashflow By Cluster",
      "Profit by plant"]
  | _ => []

end ExcludedVariables

namespace Parameters

section Reset
variable {F : Type} (floats : Floats F) (d : Parameters F)

/-- `antaresSeedDefaultValue`, and `antaresSeedIncrement` more for each seed after the first. -/
def defaultSeed : SeedIndex → Nat
  | .tsGenWind => 5489
  | .tsGenLoad => 1005489
  | .tsGenHydro => 2005489
  | .tsGenThermal => 3005489
  | .tsGenSolar => 4005489
  | .timeseriesNumbers => 5005489
  | .unsuppliedEnergyCosts => 6005489
  | .spilledEnergyCosts => 7005489
  | .thermalCosts => 8005489
  | .hydroCosts => 9005489
  | .hydroManagement => 10005489

def resetPlayedYears (nbOfYears : Nat) : Parameters F :=
  { d with
    nbYears := min nbOfYears maximumMCYears
    yearsFilter := List.replicate (min nbOfYears maximumMCYears) true }

def resetYearsWeigth : Parameters F := { d with yearsWeight := List.replicate d.nbYears floats.one }

def resetPlaylist (nbOfYears : Nat) : Parameters F := (d.resetPlayedYears nbOfYears).resetYearsWeigth floats

end Reset

end Parameters

/-- `LocalMatching::reset`: two of the three flags. -/
def LocalMatching.reset (matching : LocalMatching) : LocalMatching :=
  { matching with setToZeroOutsideInsideLinks := true, setToZeroOutsideOutsideLinks := true }

def CurtailmentSharing.defaults : CurtailmentSharing where
  priceTakingOrder := .isDens
  thresholdRun := .finite 0
  thresholdDisplayViolations := .finite 0
  thresholdVarBoundsRelaxation := 3
  includeHurdleCost := false
  checkCsrCostFunction := false

def AdqPatchParams.reset (params : AdqPatchParams) : AdqPatchParams where
  enabled := false
  localMatching := params.localMatching.reset
  curtailmentSharing := .defaults

def noTimeSeries : TimeSeriesSet := fun _ => false

/-- `Parameters::reset`, with the variables of the solver in their order. -/
def Parameters.reset {F : Type} (floats : Floats F) (variableList : List Variable) (d : Parameters F) : Parameters F :=
  let d := { d with
    mode := .economy
    expansion := false
    horizon := []
    variablesPrintInfo := variableList.foldl AllVariablesPrintInfo.add d.variablesPrintInfo.clear
    thematicTrimming := false }
  let d := (d.resetPlayedYears 1).resetYearsWeigth floats
  { d with
    yearByYear := false
    derated := false
    useCustomScenario := false
    userPlaylist := false
    geographicTrimming := false
    simulationDays := ⟨0, 365⟩
    dayOfThe1stJanuary := .monday
    firstWeekday := .monday
    firstMonthInYear := january
    leapYear := false
    effectiveNbYears := 0
    nbTimeSeriesLoad := 1
    nbTimeSeriesSolar := 1
    nbTimeSeriesHydro := 1
    nbTimeSeriesWind := 1
    nbTimeSeriesThermal := 1
    timeSeriesToRefresh := noTimeSeries
    refreshIntervalLoad := 100
    refreshIntervalSolar := 100
    refreshIntervalHydro := 100
    refreshIntervalWind := 100
    refreshIntervalThermal := 100
    timeSeriesToArchive := noTimeSeries
    timeSeriesToGenerate := noTimeSeries
    exportTimeSeriesInInput := noTimeSeries
    intraModal := noTimeSeries
    interModal := noTimeSeries
    storeTimeseriesNumbers := false
    readonly := false
    synthesis := true
    iniLevels := .coldStart
    hhPolicy := .accommodateRuleCurves
    hpMode := .heuristic
    allSetsHaveSameSize := true
    powerFluctuations := .freeModulations
    sheddingPolicy := .shavePeaks
    ucMode := .heuristicFast
    ncMode := .ncAvg
    renewableGeneration := .rgAggregated
    improveUnitsStartup := false
    «include» := {
      constraints := true
      hurdleCosts := true
      reserve := ⟨true, true, true, true⟩
      thermal := ⟨true, true⟩
      exportMPS := .noExport
      exportStructure := false
      unfeasibleProblemBehavior := .errorMps }
    transmissionCapacities := .localValuesForAllLinks
    simplexOptimizationRange := .week
    namedProblems := false
    solverLogs := false
    timeSeriesAccuracyOnCorrelation := noTimeSeries
    activeRulesScenario := []
    hydroDebug := false
    ortoolsUsed := false
    ortoolsSolver := "sirius".toList
    resultFormat := .legacyFilesDirectories
    adqPatchParams := d.adqPatchParams.reset
    seed := defaultSeed }

/-- What a key does with its value in small letters and as it is written; it may be refused, and nothing is
left where a year is out of the tables of the years.
-/
abbrev Handler (F : Type) : Type := Text → Text → Parameters F → Option (Parameters F × Bool)

section Settings
variable {F : Type}

def setBool (set : Bool → Parameters F → Parameters F) : Handler F :=
  fun value _ d => some (set (IniFile.toBool value) d, true)

def setUint (set : Nat → Parameters F → Parameters F) : Handler F :=
  fun value _ d => some (set (toUint value).1 d, (toUint value).2)

def setInt (set : Int → Parameters F → Parameters F) : Handler F :=
  fun value _ d => some (set (toInt value).1 d, (toInt value).2)

def setDouble (set : Text.Double → Parameters F → Parameters F) : Handler F :=
  fun value _ d => some (set (IniFile.toDouble value).1 d, (IniFile.toDouble value).2)

def setTimeSeries (set : TimeSeriesSet → Parameters F → Parameters F) : Handler F :=
  fun value _ d => some (set (convertCStrToListTimeSeries value) d, true)

def setDay (set : DayOfTheWeek → Parameters F → Parameters F) : Handler F :=
  fun value _ d => some (set (stringToDayOfTheWeek value).1 d, (stringToDayOfTheWeek value).2)

def setIfKnown {α : Type} (convert : Text → Option α) (set : α → Parameters F → Parameters F) : Handler F :=
  fun value _ d =>
    match convert value with
    | some known => some (set known d, true)
    | none => some (d, false)

def setOrReset {α : Type} (convert : Text → Option α) (default : α) (set : α → Parameters F → Parameters F) :
    Handler F :=
  fun value _ d => some (set ((convert value).getD default) d, (convert value).isSome)

def ignored : Handler F := fun _ _ d => some (d, true)

end Settings

section Sections
variable {F : Type} (floats : Floats F)

/-- `nbyears`: a value that is not read stands for one year. -/
def setNbYears : Handler F := fun value _ d =>
  if (toUint value).2 then some (d.resetPlaylist floats (toUint value).1, true)
  else some (d.resetPlaylist floats 1, false)

/-- `simulation.start` and `simulation.end` -/
def setSimulationDay (set : Nat → Parameters F → Parameters F) : Handler F := fun value _ d =>
  if (toUint value).2 then some (set (toUint value).1 d, true) else some (d, false)

def SGDIntLoadFamily_General : List (String × Handler F) := [
  ("active-rules-scenario", fun value _ d => some ({ d with activeRulesScenario := value.take 64 }, true)),
  ("custom-scenario", setBool fun b d => { d with useCustomScenario := b }),
  ("derated", setBool fun b d => { d with derated := b }),
  ("first-month-in-year", setIfKnown stringToMonth fun month d => { d with firstMonthInYear := month }),
  ("first.weekday", setDay fun day d => { d with firstWeekday := day }),
  ("geographic-trimming", setBool fun b d => { d with geographicTrimming := b }),
  ("generate", setTimeSeries fun v d => { d with timeSeriesToGenerate := v }),
  ("horizon", fun _ rawvalue d => some ({ d with horizon := Text.trim isBlank rawvalue }, true)),
  ("intra-modal", setTimeSeries fun v d => { d with intraModal := v }),
  ("inter-modal", setTimeSeries fun v d => { d with interModal := v }),
  ("improveunitsstartup", ignored),
  ("january.1st", setDay fun day d => { d with dayOfThe1stJanuary := day }),
  ("leapyear", setBool fun b d => { d with leapYear := b }),
  ("mode", setIfKnown stringToStudyMode fun mode d => { d with mode := mode }),
  ("nbyears", setNbYears floats),
  ("nbtimeseriesload", setUint fun n d => { d with nbTimeSeriesLoad := n }),
  ("nbtimeserieshydro", setUint fun n d => { d with nbTimeSeriesHydro := n }),
  ("nbtimeserieswind", setUint fun n d => { d with nbTimeSeriesWind := n }),
  ("nbtimeseriesthermal", setUint fun n d => { d with nbTimeSeriesThermal := n }),
  ("nbtimeseriessolar", setUint fun n d => { d with nbTimeSeriesSolar := n }),
  ("refreshintervalload", setUint fun n d => { d with refreshIntervalLoad := n }),
  ("refreshintervalhydro", setUint fun n d => { d with refreshIntervalHydro := n }),
  ("refreshintervalwind", setUint fun n d => { d with refreshIntervalWind := n }),
  ("refreshintervalthermal", setUint fun n d => { d with refreshIntervalThermal := n }),
  ("refreshintervalsolar", setUint fun n d => { d with refreshIntervalSolar := n }),
  ("refreshtimeseries", setTimeSeries fun v d => { d with timeSeriesToRefresh := v }),
  ("readonly", setBool fun b d => { d with readonly := b }),
  ("simulation.start", setSimulationDay fun day d =>
    { d with simulationDays := { d.simulationDays with first := simulationStart day } }),
  ("simulation.end", setSimulationDay fun day d =>
    { d with simulationDays := { d.simulationDays with «end» := simulationEnd day } }),
  ("thematic-trimming", setBool fun b d => { d with thematicTrimming := b }),
  ("user-playlist", setBool fun b d => { d with userPlaylist := b }),
  ("year-by-year", setBool fun b d => { d with yearByYear := b })]

def SGDIntLoadFamily_Input : List (String × Handler F) := [
  ("import", setTimeSeries fun v d => { d with exportTimeSeriesInInput := v })]

def SGDIntLoadFamily_Output : List (String × Handler F) := [
  ("archives", setTimeSeries fun v d => { d with timeSeriesToArchive := v }),
  ("storenewset", setBool fun b d => { d with storeTimeseriesNumbers := b }),
  ("synthesis", setBool fun b d => { d with synthesis := b }),
  ("hydro-debug", setBool fun b d => { d with hydroDebug := b }),
  ("result-format", setOrReset convertCStrToResultFormat .legacyFilesDirectories fun format d =>
    { d with resultFormat := format })]

def setInclude (set : Bool → IncludeOptions → IncludeOptions) : Handler F :=
  setBool fun b d => { d with «include» := set b d.include }

def setReserve (set : Bool → Reserve → Reserve) : Handler F :=
  setInclude fun b options => { options with reserve := set b options.reserve }

def SGDIntLoadFamily_Optimization : List (String × Handler F) := [
  ("include-constraints", setInclude fun b options => { options with constraints := b }),
  ("include-hurdlecosts", setInclude fun b options => { options with hurdleCosts := b }),
  ("include-loopflowfee", ignored),
  ("include-tc-minstablepower", setInclude fun b options =>
    { options with thermal := { options.thermal with minStablePower := b } }),
  ("include-tc-min-ud-time", setInclude fun b options =>
    { options with thermal := { options.thermal with minUPTime := b } }),
  ("include-dayahead", setReserve fun b reserve => { reserve with dayAhead := b }),
  ("include-strategicreserve", setReserve fun b reserve => { reserve with strategic := b }),
  ("include-spinningreserve", setReserve fun b reserve => { reserve with spinning := b }),
  ("include-primaryreserve", setReserve fun b reserve => { reserve with primary := b }),
  ("include-exportmps", setOrReset stringToMPSexportStatus .unknownExport fun status d =>
    { d with «include» := { d.include with exportMPS := status } }),
  ("include-exportstructure", setInclude fun b options => { options with exportStructure := b }),
  ("include-unfeasible-problem-behavior", setOrReset unfeasibleProblemBehaviorFromString .errorMps fun behavior d =>
    { d with «include» := { d.include with unfeasibleProblemBehavior := behavior } }),
  ("simplex-range", fun value _ d => some ({ d with simplexOptimizationRange := toSimplexOptimization value }, true)),
  ("transmission-capacities", setIfKnown stringToGlobalTransmissionCapacities fun capacities d =>
    { d with transmissionCapacities := capacities }),
  ("solver-logs", setBool fun b d => { d with solverLogs := b })]

def setMatching (set : Bool → LocalMatching → LocalMatching) : Handler F :=
  setBool fun b d =>
    { d with adqPatchParams := { d.adqPatchParams with localMatching := set b d.adqPatchParams.localMatching } }

def setSharing {α : Type} (set : α → CurtailmentSharing → CurtailmentSharing) (a : α) (d : Parameters F) :
    Parameters F :=
  { d with adqPatchParams := { d.adqPatchParams with curtailmentSharing := set a d.adqPatchParams.curtailmentSharing } }

/-- `AdqPatchParams::updateFromKeyValue`: no key belongs to both the sharing and the matching. -/
def SGDIntLoadFamily_AdqPatch : List (String × Handler F) := [
  ("include-adq-patch", setBool fun b d => { d with adqPatchParams := { d.adqPatchParams with enabled := b } }),
  ("price-taking-order", setIfKnown stringToPriceTakingOrder (setSharing fun order sharing =>
    { sharing with priceTakingOrder := order })),
  ("include-hurdle-cost-csr", setBool (setSharing fun b sharing => { sharing with includeHurdleCost := b })),
  ("check-csr-cost-function", setBool (setSharing fun b sharing => { sharing with checkCsrCostFunction := b })),
  ("threshold-initiate-curtailment-sharing-rule", setDouble (setSharing fun v sharing =>
    { sharing with thresholdRun := v })),
  ("threshold-display-local-matching-rule-violations", setDouble (setSharing fun v sharing =>
    { sharing with thresholdDisplayViolations := v })),
  ("threshold-csr-variable-bounds-relaxation", setInt (setSharing fun v sharing =>
    { sharing with thresholdVarBoundsRelaxation := v })),
  ("set-to-null-ntc-from-physical-out-to-physical-in-for-first-step", setMatching fun b matching =>
    { matching with setToZeroOutsideInsideLinks := b }),
  ("set-to-null-ntc-between-physical-out-for-first-step", setMatching fun b matching =>
    { matching with setToZeroOutsideOutsideLinks := b }),
  ("enable-first-step", setMatching fun b matching => { matching with enabled := b })]

def SGDIntLoadFamily_OtherPreferences : List (String × Handler F) := [
  ("hydro-heuristic-policy", setOrReset stringToHydroHeuristicPolicy .accommodateRuleCurves fun policy d =>
    { d with hhPolicy := policy }),
  ("hydro-pricing-mode", setOrReset stringToHydroPricingMode .heuristic fun mode d => { d with hpMode := mode }),
  ("initial-reservoir-levels", setOrReset stringToInitialReservoirLevels .coldStart fun levels d =>
    { d with iniLevels := levels }),
  ("number-of-cores-mode", setOrReset stringToNumberOfCoresMode .ncMin fun mode d => { d with ncMode := mode }),
  ("power-fluctuations", setOrReset stringToPowerFluctuations .freeModulations fun fluctuations d =>
    { d with powerFluctuations := fluctuations }),
  ("shedding-policy", setIfKnown stringToSheddingPolicy fun policy d => { d with sheddingPolicy := policy }),
  ("unit-commitment-mode", setOrReset stringToUnitCommitmentMode .heuristicFast fun mode d =>
    { d with ucMode := mode }),
  ("renewable-generation-modelling", setOrReset convertStringToRenewableGenerationModelling .rgUnknown
    fun modelling d => { d with renewableGeneration := modelling })]

def SGDIntLoadFamily_AdvancedParameters : List (String × Handler F) := [
  ("accuracy-on-correlation", setTimeSeries fun v d => { d with timeSeriesAccuracyOnCorrelation := v })]

def setAt {α : Type} (table : List α) (year : Nat) (value : α) : Option (List α) :=
  if year < table.length then some (table.set year value) else none

/-- `playlist_reset`, for the years from the first one on. -/
def resetFilter (yearsFilter : List Bool) (mode : Bool) (nbYears : Nat) : Option (List Bool) :=
  if nbYears ≤ yearsFilter.length then some (List.replicate nbYears mode ++ yearsFilter.drop nbYears) else none

/-- `playlist_year +` and `playlist_year -` -/
def selectYear (selected : Bool) : Handler F := fun value _ d =>
  if (toUint value).2 then
    if (toUint value).1 < d.nbYears then
      (setAt d.yearsFilter (toUint value).1 selected).map fun yearsFilter => ({ d with yearsFilter }, true)
    else some (d, true)
  else some (d, false)

def yearAndWeight (value : Text) : Option (Nat × F) :=
  match words (· = ',') value |>.map (Text.trim isBlank) |>.filter (· ≠ []) with
  | [year, weight] => some (floats.toUint (floats.read year), floats.read weight)
  | _ => none

/-- `playlist_year_weight` -/
def weighYear : Handler F := fun value _ d =>
  match yearAndWeight floats value with
  | none => some (d, false)
  | some (y, weight) =>
    if d.nbYears < y ∨ floats.isNegative weight then some (d, true)
    else (setAt d.yearsWeight y weight).map fun yearsWeight => ({ d with yearsWeight }, true)

def SGDIntLoadFamily_Playlist : List (String × Handler F) := [
  ("playlist_reset", fun value _ d =>
    (resetFilter d.yearsFilter (IniFile.toBool value) d.nbYears).map fun yearsFilter => ({ d with yearsFilter }, true)),
  ("playlist_year +", selectYear true),
  ("playlist_year -", selectYear false),
  ("playlist_year_weight", weighYear floats)]

/-- `select_var +` and `select_var -` -/
def selectVariable (selected : Bool) : Handler F := fun value _ d =>
  if d.variablesPrintInfo.exists value then
    some ({ d with variablesPrintInfo := d.variablesPrintInfo.setPrintStatus value selected }, true)
  else some (d, false)

def SGDIntLoadFamily_VariablesSelection : List (String × Handler F) := [
  ("selected_vars_reset", setBool fun b d =>
    { d with variablesPrintInfo := d.variablesPrintInfo.setAllPrintStatusesTo b }),
  ("select_var +", selectVariable true),
  ("select_var -", selectVariable false)]

def setSeed (index : SeedIndex) : Handler F :=
  setUint fun n d => { d with seed := Function.update d.seed index n }

/-- The seeds of very old studies, then those of `SeedToID`. -/
def SGDIntLoadFamily_SeedsMersenneTwister : List (String × Handler F) := [
  ("seed_load", setSeed .tsGenLoad),
  ("seed_wind", setSeed .tsGenWind),
  ("seed_hydro", setSeed .tsGenHydro),
  ("seed_thermal", setSeed .tsGenThermal),
  ("seed_solar", setSeed .tsGenSolar),
  ("seed_timeseriesnumbers", setSeed .timeseriesNumbers),
  ("seed-tsgen-wind", setSeed .tsGenWind),
  ("seed-tsgen-load", setSeed .tsGenLoad),
  ("seed-tsgen-hydro", setSeed .tsGenHydro),
  ("seed-tsgen-thermal", setSeed .tsGenThermal),
  ("seed-tsgen-solar", setSeed .tsGenSolar),
  ("seed-tsnumbers", setSeed .timeseriesNumbers),
  ("seed-unsupplied-energy-costs", setSeed .unsuppliedEnergyCosts),
  ("seed-spilled-energy-costs", setSeed .spilledEnergyCosts),
  ("seed-thermal-costs", setSeed .thermalCosts),
  ("seed-hydro-costs", setSeed .hydroCosts),
  ("seed-initial-reservoir-levels", setSeed .hydroManagement)]

def SGDIntLoadFamily_Legacy (version : Nat) : List (String × Handler F) := [
  ("correlateddraws", setTimeSeries fun v d => { d with intraModal := v }),
  ("custom-ts-numbers", setBool fun b d => { d with useCustomScenario := b }),
  ("filtering", fun value rawvalue d =>
    if version < 710 then setBool (fun b d => { d with geographicTrimming := b }) value rawvalue d
    else some (d, false)),
  ("customset", ignored),
  ("shedding-strategy", ignored),
  ("day-ahead-reserve-management", ignored),
  ("link-type", ignored),
  ("adequacy-block-size", ignored),
  ("include-split-exported-mps", ignored)]

def sectionAssociatedToKeysProcess : List (String × List (String × Handler F)) := [
  ("general", SGDIntLoadFamily_General floats),
  ("input", SGDIntLoadFamily_Input),
  ("output", SGDIntLoadFamily_Output),
  ("optimization", SGDIntLoadFamily_Optimization),
  ("adequacy patch", SGDIntLoadFamily_AdqPatch),
  ("other preferences", SGDIntLoadFamily_OtherPreferences),
  ("advanced parameters", SGDIntLoadFamily_AdvancedParameters),
  ("playlist", SGDIntLoadFamily_Playlist floats),
  ("variables selection", SGDIntLoadFamily_VariablesSelection),
  ("seeds - mersenne twister", SGDIntLoadFamily_SeedsMersenneTwister)]

end Sections

def find {α : Type} (table : List (String × α)) (name : Text) : Option α :=
  (table.find? fun entry => entry.1.toList = name).map Prod.snd

section Load
variable {F : Type} (floats : Floats F) (version : Nat)

variable (table : List (String × Handler F))

def handle (key : Text) : Handler F :=
  (find table key).getD fun _ _ d => some (d, false)

def firstKeyLetterIsValid (name : Text) : Bool :=
  name.head?.any fun c => decide ('a' ≤ c) && decide (c ≤ 'z')

/-- One property: what its section does not know may be a legacy key. -/
def loadProperty (d : Parameters F) (p : IniFile.Property) :
    Option (Parameters F) :=
  if firstKeyLetterIsValid p.key then do
    let handled ← handle table p.key (toLower p.value) p.value d
    if handled.2 then some handled.1
    else (handle (SGDIntLoadFamily_Legacy version) p.key (toLower p.value) p.value handled.1).map Prod.fst
  else some d

def loadSection (d : Parameters F) (section' : IniFile.Section) : Option (Parameters F) :=
  match find (sectionAssociatedToKeysProcess floats) (toLower section'.name) with
  | none => some d
  | some table => section'.properties.foldlM (loadProperty version table) d

structure StudyLoadOptions where
  nbYears : Nat
  forceYearByYear : Bool
  forceDerated : Bool
  noTimeseriesImportIntoInput : Bool
  mpsToExport : Bool
  namedProblems : Bool
  solverLogs : Bool
  forceMode : StudyMode
  usedByTheSolver : Bool
  ortoolsUsed : Bool
  ortoolsSolver : Text

end Load

namespace Parameters

section Finish
variable {F : Type} (floats : Floats F) (options : StudyLoadOptions) (d : Parameters F)

/-- `resize`, with what new places get. -/
def resize {α : Type} (table : List α) (size : Nat) (value : α) : List α :=
  table.take size ++ List.replicate (size - table.length) value

def forceYears : Parameters F :=
  if options.nbYears = 0 then d
  else
    { d with
      yearsFilter := if d.nbYears < options.nbYears then resize d.yearsFilter options.nbYears false else d.yearsFilter
      nbYears := options.nbYears
      yearsWeight := resize d.yearsWeight options.nbYears floats.one }

def setMode (mode : StudyMode) : Parameters F :=
  if mode = .expansion then { d with mode := .economy, expansion := true } else { d with mode := mode }

def forceMode : Parameters F :=
  if options.forceMode = .unknown then d.setMode d.mode else (d.setMode d.mode).setMode options.forceMode

def applyOptions : Parameters F :=
  { d with
    derated := d.derated || options.forceDerated
    ortoolsUsed := options.ortoolsUsed
    ortoolsSolver := options.ortoolsSolver
    namedProblems := options.namedProblems
    solverLogs := options.solverLogs || d.solverLogs }

def atLeastOne (number : Nat) : Nat := if number = 0 then 1 else number

def fixBadValues : Parameters F :=
  let d :=
    if d.derated then (d.resetPlayedYears 1).resetYearsWeigth floats
    else if maximumMCYears < d.nbYears then { d with nbYears := maximumMCYears }
    else d
  { d with
    nbTimeSeriesLoad := atLeastOne d.nbTimeSeriesLoad
    nbTimeSeriesThermal := atLeastOne d.nbTimeSeriesThermal
    nbTimeSeriesHydro := atLeastOne d.nbTimeSeriesHydro
    nbTimeSeriesWind := atLeastOne d.nbTimeSeriesWind
    nbTimeSeriesSolar := atLeastOne d.nbTimeSeriesSolar }

def fixRefreshIntervals : Parameters F :=
  let fix (kind : TimeSeriesType) (interval : Nat) : Nat :=
    if d.timeSeriesToRefresh kind && interval = 0 then 1 else interval
  { d with
    refreshIntervalLoad := fix .load d.refreshIntervalLoad
    refreshIntervalSolar := fix .solar d.refreshIntervalSolar
    refreshIntervalHydro := fix .hydro d.refreshIntervalHydro
    refreshIntervalWind := fix .wind d.refreshIntervalWind
    refreshIntervalThermal := fix .thermal d.refreshIntervalThermal }

def fixGenRefreshForNTC : Parameters F :=
  { d with
    timeSeriesToGenerate := Function.update d.timeSeriesToGenerate .transmissionCapacities false
    timeSeriesToRefresh := Function.update d.timeSeriesToRefresh .transmissionCapacities false
    interModal := Function.update d.interModal .transmissionCapacities false }

/-- Derated studies have neither a playlist nor a custom scenario, which needs an active rule set. -/
def prepareModes : Parameters F :=
  { d with
    horizon := []
    userPlaylist := d.userPlaylist && !d.derated
    useCustomScenario := d.useCustomScenario && !d.derated && !d.activeRulesScenario.isEmpty }

/-- The years of the playlist are counted, and the largest of their weights is looked for. -/
def prepareYears : Option (Parameters F) :=
  if d.userPlaylist then
    if d.nbYears ≤ d.yearsFilter.length ∧ d.yearsWeight ≠ [] then
      some { d with effectiveNbYears := (d.yearsFilter.take d.nbYears).count true }
    else none
  else
    some { d with
      yearsFilter := List.replicate d.yearsFilter.length true
      effectiveNbYears := d.nbYears }

def prepareVariables : Parameters F :=
  { d with
    variablesPrintInfo := d.variablesPrintInfo.prepareForSimulation d.thematicTrimming
      (renewableExcludedVariables d.renewableGeneration ++ d.adqPatchParams.excludedVariables ++
        ucExcludedVariables d.ucMode) }

def prepareYearByYear : Parameters F :=
  { d with
    yearByYear :=
      if d.mode = .economy ∨ d.mode = .adequacy then d.yearByYear || options.forceYearByYear else false }

def allKinds : List TimeSeriesType :=
  [.load, .hydro, .wind, .thermal, .solar, .renewable, .transmissionCapacities]

def isSingle (set : TimeSeriesSet) : Bool :=
  [TimeSeriesType.load, .solar, .wind, .hydro, .thermal, .renewable].any fun kind =>
    allKinds.all fun other => set other == decide (other = kind)

/-- What is generated is refreshed, once where that is not asked for. -/
def prepareSeries : Parameters F :=
  let d := { d with interModal := if isSingle d.interModal then noTimeSeries else d.interModal }
  if allKinds.any d.timeSeriesToGenerate then
    let interval (kind : TimeSeriesType) (interval : Nat) : Nat :=
      if d.timeSeriesToGenerate kind && !d.timeSeriesToRefresh kind then uintMax else interval
    { d with
      timeSeriesToRefresh := fun kind =>
        if kind ∈ generatedKinds then d.timeSeriesToGenerate kind else d.timeSeriesToRefresh kind
      refreshIntervalLoad := interval .load d.refreshIntervalLoad
      refreshIntervalSolar := interval .solar d.refreshIntervalSolar
      refreshIntervalWind := interval .wind d.refreshIntervalWind
      refreshIntervalHydro := interval .hydro d.refreshIntervalHydro
      refreshIntervalThermal := interval .thermal d.refreshIntervalThermal }
  else { d with timeSeriesToRefresh := noTimeSeries }

def prepareImport : Parameters F :=
  { d with
    exportTimeSeriesInInput :=
      if options.noTimeseriesImportIntoInput && allKinds.any d.timeSeriesToArchive then noTimeSeries
      else d.exportTimeSeriesInInput }

def prepareForSimulation : Option (Parameters F) :=
  d.prepareModes.prepareYears.map fun d =>
    ((d.prepareVariables.prepareYearByYear options).prepareSeries).prepareImport options

def finish : Option (Parameters F) :=
  let d := ((d.forceYears floats options).forceMode options).applyOptions options
  let d := ((d.fixBadValues floats).fixRefreshIntervals).fixGenRefreshForNTC
  let d := if options.usedByTheSolver then d.prepareForSimulation options else some d
  d.map fun d =>
    if options.mpsToExport || options.namedProblems then
      { d with «include» := { d.include with exportMPS := .exportBothOptims } }
    else d

end Finish

/-- `Parameters::loadFromINI` -/
def loadFromINI {F : Type} (floats : Floats F) (variableList : List Variable) (ini : List IniFile.Section)
    (version : Nat) (options : StudyLoadOptions) (d : Parameters F) : Option (Parameters F) := do
  let read ← ini.foldlM (loadSection floats version) (d.reset floats variableList)
  read.finish floats options

end Parameters

end Antares.GeneralData
