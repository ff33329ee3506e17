import Antares.Data.Parameters
import Antares.Data.Calendar
import Antares.Data.IniValues

/-! The values of the general data: what each kind of setting may be, and how it is read from a text. -/

set_option autoImplicit false

namespace Antares.GeneralData

open Library Data

inductive StudyMode where
  | unknown
  | economy
  | adequacy
  | expansion
  | max
  deriving DecidableEq, Repr, Inhabited

inductive InitialReservoirLevels where
  | coldStart
  | hotStart
  deriving DecidableEq, Repr, Inhabited

inductive HydroHeuristicPolicy where
  | accommodateRuleCurves
  | maximizeGeneration
  deriving DecidableEq, Repr, Inhabited

inductive HydroPricingMode where
  | heuristic
  | milp
  deriving DecidableEq, Repr, Inhabited

inductive PowerFluctuations where
  | freeModulations
  | minimizeRamping
  | minimizeExcursions
  deriving DecidableEq, Repr, Inhabited

inductive SheddingPolicy where
  | shavePeaks
  | minimizeDuration
  deriving DecidableEq, Repr, Inhabited

inductive UnitCommitmentMode where
  | heuristicFast
  | heuristicAccurate
  | milp
  deriving DecidableEq, Repr, Inhabited

inductive MpsExportStatus where
  | noExport
  | exportFirstOptim
  | exportSecondOptim
  | exportBothOptims
  | unknownExport
  deriving DecidableEq, Repr, Inhabited

inductive UnfeasibleProblemBehavior where
  | warningDry
  | warningMps
  | errorDry
  | errorMps
  deriving DecidableEq, Repr, Inhabited

inductive GlobalTransmissionCapacities where
  | localValuesForAllLinks
  | nullForAllLinks
  | infiniteForAllLinks
  | nullForPhysicalLinks
  | infiniteForPhysicalLinks
  deriving DecidableEq, Repr, Inhabited

inductive SimplexOptimization where
  | day
  | week
  deriving DecidableEq, Repr, Inhabited

inductive ResultFormat where
  | legacyFilesDirectories
  | zipArchive
  deriving DecidableEq, Repr, Inhabited

inductive SeedIndex where
  | tsGenWind
  | tsGenLoad
  | tsGenHydro
  | tsGenThermal
  | tsGenSolar
  | timeseriesNumbers
  | unsuppliedEnergyCosts
  | spilledEnergyCosts
  | thermalCosts
  | hydroCosts
  | hydroManagement
  deriving DecidableEq, Repr, Inhabited

abbrev TimeSeriesSet : Type := TimeSeriesType → Bool

section Numbers

/-- `AutoDetectBaseNumber`: the base, and the text behind the mark that tells it. -/
def autoDetectBase : Text → Nat × Text
  | '#' :: rest => (16, rest)
  | '0' :: mark :: next :: rest =>
    if mark = 'x' ∨ mark = 'X' then (16, next :: rest) else (10, '0' :: mark :: next :: rest)
  | text => (10, text)

variable (text : Text)

/-- The conversion ends with the text. A mark in front of the digits is not counted, so that no text with
one does.
-/
def readToTheEnd : Bool :=
  let number := Text.digits 10 (Text.sign (text.dropWhile Text.isSpace)).2 0 0
  decide ((autoDetectBase text).1 = 10) && decide (number.count ≠ 0) && number.rest.isEmpty

/-- `to<uint>`: the value is set in any case. -/
def toUint : Nat × Bool :=
  if text = [] then (0, true)
  else (Text.strtoul (autoDetectBase text).1 (autoDetectBase text).2 % 2 ^ 32, readToTheEnd text)

/-- `strtol`, for a long of 64 bits: a number that is too large is the nearest one. -/
def strtol (base : Nat) (text : Text) : Int :=
  let signed := Text.sign (text.dropWhile Text.isSpace)
  let unsigned := if base = 16 then Text.withoutBase signed.2 else signed.2
  let value : Int := (Text.digits base unsigned 0 0).value
  if signed.1 then max (-2 ^ 63) (-value) else min (2 ^ 63 - 1) value

/-- `to<int>` -/
def toInt : Int × Bool :=
  if text = [] then (0, true)
  else (Int.bmod (strtol (autoDetectBase text).1 (autoDetectBase text).2) (2 ^ 32), readToTheEnd text)

end Numbers

section Words

def words (separator : Char → Bool) (text : Text) : List Text :=
  (text.splitOnP separator).filter (· ≠ [])

def isSeparator (c : Char) : Bool := c ∈ [' ', ',', ';', '\t', '\r', '\n']

def timeSeriesWord : TimeSeriesType → String
  | .load => "load"
  | .wind => "wind"
  | .hydro => "hydro"
  | .thermal => "thermal"
  | .solar => "solar"
  | .renewable => "renewables"
  | .transmissionCapacities => "ntc"

/-- `ConvertCStrToListTimeSeries`: unknown words are passed over. -/
def convertCStrToListTimeSeries (value : Text) : TimeSeriesSet := fun kind =>
  (words isSeparator value).any fun word => toLower (word.take 16) = (timeSeriesWord kind).toList

/-- The value that a table has for a text, as a buffer of that size holds it. -/
def choose {α : Type} (size : Nat) (table : List (String × α)) (text : Text) : Option α :=
  (table.find? fun entry => entry.1.toList = toLower (Text.trim isBlank (text.take size))).map Prod.snd

def stringToInitialReservoirLevels : Text → Option InitialReservoirLevels :=
  choose 24 [("cold start", .coldStart), ("hot start", .hotStart)]

def stringToHydroHeuristicPolicy : Text → Option HydroHeuristicPolicy :=
  choose 24 [("accommodate rule curves", .accommodateRuleCurves), ("maximize generation", .maximizeGeneration)]

def stringToHydroPricingMode : Text → Option HydroPricingMode :=
  choose 24 [("fast", .heuristic), ("accurate", .milp)]

def stringToPowerFluctuations : Text → Option PowerFluctuations :=
  choose 24 [("minimize ramping", .minimizeRamping), ("free modulations", .freeModulations),
    ("minimize excursions", .minimizeExcursions)]

def stringToSheddingPolicy : Text → Option SheddingPolicy :=
  choose 24 [("shave peaks", .shavePeaks), ("minimize duration", .minimizeDuration)]

def stringToUnitCommitmentMode : Text → Option UnitCommitmentMode :=
  choose 24 [("fast", .heuristicFast), ("accurate", .heuristicAccurate), ("milp", .milp)]

def stringToNumberOfCoresMode : Text → Option NumberOfCoresMode :=
  choose 24 [("minimum", .ncMin), ("low", .ncLow), ("medium", .ncAvg), ("high", .ncHigh), ("maximum", .ncMax)]

def convertStringToRenewableGenerationModelling : Text → Option RenewableGeneration :=
  choose 24 [("aggregated", .rgAggregated), ("clusters", .rgClusters)]

def convertCStrToResultFormat : Text → Option ResultFormat :=
  choose 24 [("txt-files", .legacyFilesDirectories), ("zip", .zipArchive)]

def stringToMPSexportStatus : Text → Option MpsExportStatus :=
  choose 24 [("both-optims", .exportBothOptims), ("true", .exportBothOptims), ("none", .noExport),
    ("false", .noExport), ("optim-1", .exportFirstOptim), ("optim-2", .exportSecondOptim)]

def stringToGlobalTransmissionCapacities : Text → Option GlobalTransmissionCapacities :=
  choose 64 [("local-values", .localValuesForAllLinks), ("true", .localValuesForAllLinks),
    ("enabled", .localValuesForAllLinks), ("null-for-all-links", .nullForAllLinks), ("false", .nullForAllLinks),
    ("disabled", .nullForAllLinks), ("infinite-for-all-links", .infiniteForAllLinks),
    ("infinite", .infiniteForAllLinks), ("infinite-for-physical-links", .infiniteForPhysicalLinks),
    ("null-for-physical-links", .nullForPhysicalLinks)]

def stringToPriceTakingOrder : Text → Option AdqPatchPTO :=
  choose 24 [("dens", .isDens), ("load", .isLoad)]

variable (text : Text)

def unfeasibleProblemBehaviorFromString : Option UnfeasibleProblemBehavior :=
  ([("warning-dry", .warningDry), ("warning-verbose", .warningMps), ("error-dry", .errorDry),
    ("error-verbose", .errorMps)].find? fun entry => entry.1.toList = text).map Prod.snd

/-- `StringToStudyMode`: nothing is trimmed. -/
def stringToStudyMode : Option StudyMode :=
  ([("economy", .economy), ("economic", .economy), ("adequacy", .adequacy), ("expansion", .expansion)].find?
    fun entry => entry.1.toList = toLower (text.take 20)).map Prod.snd

def toSimplexOptimization : SimplexOptimization :=
  if "day".toList.isPrefixOf (toLower text) then .day else .week

end Words

section Dates

def monthNamesLower : List String :=
  ["january", "february", "march", "april", "may", "june", "july", "august", "september", "october", "november",
    "december"]

def monthShortLowerNames : List String :=
  ["jan", "feb", "mar", "apr", "may", "jun", "jul", "aug", "sep", "oct", "nov", "dec"]

/-- `StringToMonth`: the number of the month, from January. -/
def stringToMonth (text : Text) : Option Nat :=
  let name := toLower ((Text.trim isBlank text).take 12)
  let names := if name.length = 3 then monthShortLowerNames else monthNamesLower
  names.findIdx? fun month => month.toList = name

def dayNames : List (String × DayOfTheWeek) :=
  [("monday", .monday), ("mardi", .tuesday), ("mercredi", .wednesday), ("tuesday", .tuesday),
    ("thursday", .thursday), ("friday", .friday), ("lundi", .monday), ("saturday", .saturday), ("sunday", .sunday),
    ("samedi", .saturday), ("wednesday", .wednesday), ("jeudi", .thursday), ("vendredi", .friday),
    ("dimanche", .sunday)]

def dayOfNumber : Nat → Option DayOfTheWeek
  | 0 => some .monday
  | 1 => some .tuesday
  | 2 => some .wednesday
  | 3 => some .thursday
  | 4 => some .friday
  | 5 => some .saturday
  | 6 => some .sunday
  | _ => none

/-- `StringToDayOfTheWeek`: Monday, unless the text is a day or the number of one. -/
def stringToDayOfTheWeek (text : Text) : DayOfTheWeek × Bool :=
  let str := Text.trim isBlank (text.take 64)
  let day :=
    if str = [] then none
    else if (toUint str).2 then dayOfNumber (toUint str).1
    else (dayNames.find? fun entry => entry.1.toList = toLower str).map Prod.snd
  (day.getD .monday, day.isSome)

end Dates

end Antares.GeneralData
