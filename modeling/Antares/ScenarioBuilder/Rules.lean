import Antares.Data.IniFile
import Antares.Data.Names
import Antares.Data.Parameters
import Antares.Library.OrderedMaps
import Antares.Library.SignificantDigits

/-! A ruleset of the scenario builder: the parts of a study that its rules speak about, its numbers and
levels, the lines that the savers write, and the readers of those lines. The rulesets of a study and the
file that keeps them come last.
-/

set_option autoImplicit false

namespace Antares.ScenarioBuilder

open Library Data

def areaNameSize : Nat := 128

structure Cluster where
  name : Text
  named : name ≠ []
  deriving DecidableEq

def Cluster.id (cluster : Cluster) : Text := transformNameIntoID cluster.name

/-- Lists are in the order of identifiers. The place of a cluster is its area-wide index; a link is
known by the area at its other end, and its place is its index for the area.
-/
structure Area where
  id : Text
  isId : IsId id
  id_le : id.length ≤ areaNameSize
  thermal : List Cluster
  thermalSorted : OrderedMap.Sorted Cluster.id thermal
  renewable : List Cluster
  renewableSorted : OrderedMap.Sorted Cluster.id renewable
  links : List Text
  linksSorted : OrderedMap.Sorted (fun link : Text => link) links
  noLinkToItself : id ∉ links

theorem noTexts_sorted : OrderedMap.Sorted (fun text : Text => text) [] := List.Pairwise.nil

/-- A study in the editor: every thermal cluster is in the first list of its area. -/
structure Study where
  areas : List Area
  areasSorted : OrderedMap.Sorted Area.id areas
  linksToAreas : ∀ area ∈ areas, ∀ link ∈ area.links, ∃ other ∈ areas, other.id = link
  groups : List Text
  groupsSorted : OrderedMap.Sorted (fun group : Text => group) groups
  nbYears : Nat
  nbYears_le : nbYears ≤ maximumMCYears
  renewableClusters : Bool

def Study.find (study : Study) (areaname : Text) : Option (Area × Nat) := OrderedMap.find Area.id study.areas areaname

/-- The link between two areas, as the index of the area it is from and its own index there. -/
def findExistingLinkWith (area with' : Area × Nat) : Option (Nat × Nat) :=
  if area.2 = with'.2 then none
  else
    match OrderedMap.find (fun link : Text => link) area.1.links with'.1.id with
    | some link => some (area.2, link.2)
    | none => (OrderedMap.find (fun link : Text => link) with'.1.links area.1.id).map fun link => (with'.2, link.2)

def maxTSnumber : Nat := 10000

/-- The number of a time series, from one on; zero leaves the choice to the draws. -/
abbrev TSNumber : Type := { n : Nat // n ≤ maxTSnumber }

def TSNumber.auto : TSNumber := ⟨0, Nat.zero_le _⟩

def TSNumber.last : TSNumber := ⟨maxTSnumber, le_refl _⟩

abbrev Level : Type := { v : ℚ // 0 ≤ v ∧ v ≤ 1 }

def Level.of (v : ℚ) : Level :=
  if negative : v < 0 then ⟨0, le_refl _, zero_le_one⟩
  else if above : 1 < v then ⟨1, zero_le_one, le_refl _⟩
  else ⟨v, not_lt.mp negative, not_lt.mp above⟩

/-- A place of one of the matrices: indexes of the area, of the cluster or link, and the year. -/
inductive Cell where
  | load (area year : Nat)
  | solar (area year : Nat)
  | hydro (area year : Nat)
  | wind (area year : Nat)
  | thermal (area cluster year : Nat)
  | renewable (area cluster year : Nat)
  | linksNTC (area link year : Nat)
  | bindingConstraints (group : Text) (year : Nat)
  deriving DecidableEq

def rulesNameSize : Nat := 64

abbrev RulesScenarioName : Type := { name : Text // name.length ≤ rulesNameSize }

def RulesScenarioName.of (name : Text) : RulesScenarioName := ⟨name.take rulesNameSize, List.length_take_le _ _⟩

def isTabOrSpace (c : Char) : Bool := c == ' ' || c == '\t'

def RulesScenarioName.trim (name : RulesScenarioName) : RulesScenarioName :=
  ⟨Text.trim isTabOrSpace name.val, (Text.length_trim_le _ _).trans name.property⟩

@[ext] structure Rules where
  name : RulesScenarioName
  numbers : Cell → TSNumber
  hydroLevels : Nat → Nat → Option Level

/-- A key in parts, and a value; the equals sign is between blanks or not. -/
structure Entry where
  parts : List Text
  spaced : Bool
  value : Text
  deriving DecidableEq, Repr

namespace Entry

variable (entry : Entry)

def blank : Text := if entry.spaced then [' '] else []

def key : Text := [','].intercalate entry.parts ++ entry.blank

def line : Text := entry.key ++ '=' :: (entry.blank ++ entry.value ++ ['\n'])

end Entry

namespace Rules

variable (study : Study) (rules : Rules)

def empty (name : RulesScenarioName) : Rules where
  name := name
  numbers := fun _ => TSNumber.auto
  hydroLevels := fun _ _ => none

def id : Text := toLower rules.name.val

def set (cell : Cell) (value : TSNumber) : Rules := { rules with numbers := Function.update rules.numbers cell value }

def setLevel (area year : Nat) (level : Option Level) : Rules :=
  { rules with
    hydroLevels := fun otherArea otherYear =>
      if otherArea = area ∧ otherYear = year then level else rules.hydroLevels otherArea otherYear }

section
variable (entries : Nat → List Entry)

def eachYear : List Entry := (List.range study.nbYears).flatMap entries

end

def numberEntry (parts : List Text) (spaced : Bool) (value : TSNumber) : List Entry :=
  if value.val = 0 then [] else [{ parts := parts, spaced := spaced, value := Text.decimal value.val }]

def saveAreas (mark : Text) (cell : Nat → Nat → Cell) : List Entry :=
  study.areas.zipIdx.flatMap fun area => eachYear study fun year =>
    numberEntry [mark, area.1.id, Text.decimal year] true (rules.numbers (cell area.2 year))

def saveLoad : List Entry := saveAreas study rules ['l'] Cell.load

def saveSolar : List Entry := saveAreas study rules ['s'] Cell.solar

def saveHydro : List Entry := saveAreas study rules ['h'] Cell.hydro

def saveWind : List Entry := saveAreas study rules ['w'] Cell.wind

def saveClusters (mark : Text) (clusters : Area → List Cluster) (cell : Nat → Nat → Nat → Cell) (area : Area × Nat) :
    List Entry :=
  (clusters area.1).zipIdx.flatMap fun cluster => eachYear study fun year =>
    numberEntry [mark, area.1.id, Text.decimal year, cluster.1.id] true (rules.numbers (cell area.2 cluster.2 year))

variable (area : Area × Nat)

def saveThermal : List Entry := saveClusters study rules ['t'] Area.thermal Cell.thermal area

def saveRenewable : List Entry := saveClusters study rules ['r'] Area.renewable Cell.renewable area

def saveLinksNTC : List Entry :=
  area.1.links.zipIdx.flatMap fun link => eachYear study fun year =>
    numberEntry [['n', 't', 'c'], area.1.id, link.1, Text.decimal year] true (rules.numbers (.linksNTC area.2 link.2 year))

def levelPlaces : Nat := 3

def saveHydroLevels : List Entry :=
  study.areas.zipIdx.flatMap fun area => eachYear study fun year =>
    match rules.hydroLevels area.2 year with
    | none => []
    | some level =>
      [{ parts := [['h', 'l'], area.1.id, Text.decimal year], spaced := true, value := Significant.print levelPlaces level }]

def saveBindingConstraints : List Entry :=
  study.groups.flatMap fun group => eachYear study fun year =>
    numberEntry [['b', 'c'], group, Text.decimal year] false (rules.numbers (.bindingConstraints group year))

def entries : List Entry :=
  saveLoad study rules ++ saveSolar study rules ++ saveHydro study rules ++ saveWind study rules ++
    (study.areas.zipIdx.flatMap fun area =>
      saveThermal study rules area ++ saveRenewable study rules area ++ saveLinksNTC study rules area) ++
    saveHydroLevels study rules ++ saveBindingConstraints study rules

def saveToINIFile : Text :=
  '[' :: rules.name.val ++ ']' :: '\n' :: ((entries study rules).flatMap Entry.line ++ ['\n'])

end Rules

def toUInt (text : Text) : Nat :=
  match text with
  | [] => 0
  | first :: rest =>
    if first = '#' then Text.strtoul 16 rest % 2 ^ 32
    else if 2 < text.length ∧ Text.withoutBase text ≠ text then Text.strtoul 16 (Text.withoutBase text) % 2 ^ 32
    else Text.strtoul 10 text % 2 ^ 32

/-- Nothing when the number is not one, which leaves the conversion undefined, or when an exception
is thrown.
-/
def fromStringToTSnumber (value : Text) : Option TSNumber :=
  match Text.stod value with
  | .error .invalidArgument => some TSNumber.auto
  | .error .outOfRange => none
  | .ok .nan => none
  | .ok (.infinite negative) => some (if negative then TSNumber.auto else TSNumber.last)
  | .ok (.finite result) =>
    if result < 0 then some TSNumber.auto
    else if above : maxTSnumber < result then some TSNumber.last
    else some ⟨⌊result⌋₊, Nat.floor_le_of_le (not_lt.mp above)⟩

def fromStringToHydroLevel (value : Text) : Option (Option Level) :=
  match Text.stod value with
  | .error .invalidArgument => some none
  | .error .outOfRange => none
  | .ok .nan => some none
  | .ok (.infinite negative) => some (some (if negative then Level.of 0 else Level.of 1))
  | .ok (.finite result) => some (some (Level.of result))

/-- The parts of a key; each goes into the name of an area, and loses what is too long for one. -/
def splitKey (key : Text) : List Text := if key = [] then [] else (key.splitOn ',').map fun part => part.take areaNameSize

/-! The readers of a line. There is no result where the code reads out of the bounds of a vector, or
where an exception leaves it.
-/

namespace Rules

variable (study : Study) (rules : Rules)

def setTSnumber (cell : Cell) (year : Nat) (value : TSNumber) : Rules :=
  if year < study.nbYears then rules.set cell value else rules

def readArea (cell : Nat → Nat → Cell) (areaname yearText value : Text) : Option Rules :=
  match study.find areaname with
  | none => some rules
  | some area => (fromStringToTSnumber value).map (rules.setTSnumber study (cell area.2 (toUInt yearText)) (toUInt yearText))

def readCluster (clusters : Area → List Cluster) (cell : Nat → Nat → Nat → Cell)
    (areaname yearText clustername value : Text) : Option Rules :=
  if clustername = [] then some rules
  else
    match study.find areaname with
    | none => some rules
    | some area =>
      match OrderedMap.find Cluster.id (clusters area.1) clustername with
      | none => some rules
      | some cluster =>
        (fromStringToTSnumber value).map
          (rules.setTSnumber study (cell area.2 cluster.2 (toUInt yearText)) (toUInt yearText))

variable (areaname yearText clustername value : Text)

def readThermalCluster : Option Rules :=
  readCluster study rules Area.thermal Cell.thermal areaname yearText clustername value

def readRenewableCluster : Option Rules :=
  if study.renewableClusters then
    readCluster study rules Area.renewable Cell.renewable areaname yearText clustername value
  else some rules

def readHydroLevels (areaname yearText value : Text) : Option Rules :=
  match study.find areaname with
  | none => some rules
  | some area =>
    (fromStringToHydroLevel value).map fun level =>
      if toUInt yearText < study.nbYears then rules.setLevel area.2 (toUInt yearText) level else rules

def readLink (fromAreaName toAreaName yearText value : Text) : Option Rules :=
  match study.find fromAreaName, study.find toAreaName with
  | some fromArea, some toArea =>
    match findExistingLinkWith fromArea toArea with
    | none => some rules
    | some link =>
      (fromStringToTSnumber value).map
        (rules.setTSnumber study (.linksNTC link.1 link.2 (toUInt yearText)) (toUInt yearText))
  | _, _ => some rules

def readBindingConstraints (areaname yearText value : Text) : Option Rules :=
  match Text.stoi yearText with
  | none => none
  | some year =>
    let group := areaname.takeWhile fun c => c != Char.ofNat 0
    if group ∈ study.groups then
      match fromStringToTSnumber value with
      | none => none
      | some tsNumber =>
        if 0 ≤ year ∧ year < study.nbYears then some (rules.set (.bindingConstraints group year.toNat) tsNumber)
        else none
    else some rules

def readLine (parts : List Text) (value : Text) : Option Rules :=
  match parts with
  | kind :: second :: third :: rest =>
    if 3 < kind.length then some rules
    else if kind = ['t'] then rest.head?.bind fun fourth => readThermalCluster study rules second third fourth value
    else if kind = ['r'] then rest.head?.bind fun fourth => readRenewableCluster study rules second third fourth value
    else if kind = ['l'] then readArea study rules Cell.load second third value
    else if kind = ['w'] then readArea study rules Cell.wind second third value
    else if kind = ['h'] then readArea study rules Cell.hydro second third value
    else if kind = ['s'] then readArea study rules Cell.solar second third value
    else if kind = ['h', 'l'] then readHydroLevels study rules second third value
    else if kind = ['n', 't', 'c'] then rest.head?.bind fun fourth => readLink study rules second third fourth value
    else if kind = ['b', 'c'] then readBindingConstraints study rules second third value
    else some rules
  | _ => some rules

end Rules

/-- Identifiers are in lower case, and no two rulesets have the same one. -/
@[ext] structure Sets where
  rules : List Rules
  sorted : OrderedMap.Sorted Rules.id rules

namespace Sets

variable (study : Study) (sets : Sets)

def empty : Sets where
  rules := []
  sorted := List.Pairwise.nil

/-- A ruleset under a new identifier. Where the identifier is taken no ruleset is returned, and the
code goes on with it all the same.
-/
def createNew (rules : Rules) : Option Sets :=
  if fresh : rules.id ∈ sets.rules.map Rules.id then none
  else some { rules := OrderedMap.insert Rules.id rules sets.rules, sorted := sets.sorted.insert fresh }

def saveToINIFile : Text := sets.rules.flatMap (Rules.saveToINIFile study)

def readLines (rules : Rules) (properties : List IniFile.Property) : Option Rules :=
  properties.foldlM (fun rules property => Rules.readLine study rules (splitKey property.key) property.value) rules

def readSection (read : IniFile.Section) : Option Sets :=
  if read.name = [] then some sets
  else
    let name := (RulesScenarioName.of read.name).trim
    if name.val = [] then some sets else (readLines study (Rules.empty name) read.properties).bind sets.createNew

def internalLoadFromINIFile (text : Text) : Option Sets := (IniFile.loaded text).foldlM (readSection study) empty

def defaultRuleset : RulesScenarioName := RulesScenarioName.of "Default Ruleset".toList

def loadFromINIFile (text : Text) : Option Sets :=
  (internalLoadFromINIFile study text).map fun sets =>
    if sets.rules = [] then { rules := [Rules.empty defaultRuleset], sorted := List.pairwise_singleton _ _ } else sets

end Sets

end Antares.ScenarioBuilder
