import Antares.Library.FixedNumbers
import Antares.Library.StoppedRuns
import Antares.ScenarioBuilder.Rules

/-! The reading of a scenario builder file with what ends it early: a ruleset that was not created, a part
that the key does not have, a year that the matrix of a group does not have, or an exception. A malformed
line may stop the reader where it reads what is not there, or write in the place of another line.
-/

set_option autoImplicit false

namespace Antares.ScenarioBuilder

open Library Data

inductive Stop where
  | missingRuleset
  | missingField
  | yearOutside
  | exception
  deriving DecidableEq, Repr

/-- What a line writes to; only the year of a group is not compared with the height of its matrix. -/
inductive Target where
  | number (cell : Cell) (year : Nat)
  | level (area year : Nat)
  | group (group : Text) (year : Int)
  deriving DecidableEq

section
variable (study : Study)

def areaTarget (cell : Nat → Nat → Cell) (areaname yearText : Text) : Option Target :=
  (study.find areaname).map fun area => .number (cell area.2 (toUInt yearText)) (toUInt yearText)

def clusterTarget (clusters : Area → List Cluster) (cell : Nat → Nat → Nat → Cell)
    (areaname yearText clustername : Text) : Option Target :=
  if clustername = [] then none
  else
    (study.find areaname).bind fun area =>
      (OrderedMap.find Cluster.id (clusters area.1) clustername).map fun cluster =>
        .number (cell area.2 cluster.2 (toUInt yearText)) (toUInt yearText)

def renewableTarget (areaname yearText clustername : Text) : Option Target :=
  if study.renewableClusters then clusterTarget study Area.renewable Cell.renewable areaname yearText clustername else none

def levelTarget (areaname yearText : Text) : Option Target :=
  (study.find areaname).map fun area => .level area.2 (toUInt yearText)

def linkTarget (fromAreaName toAreaName yearText : Text) : Option Target :=
  (study.find fromAreaName).bind fun fromArea => (study.find toAreaName).bind fun toArea =>
    (findExistingLinkWith fromArea toArea).map fun link =>
      .number (.linksNTC link.1 link.2 (toUInt yearText)) (toUInt yearText)

/-- The conversion of the year throws before the group is looked for. -/
def groupTarget (groupName yearText : Text) : Except Stop (Option Target) :=
  match Text.stoi yearText with
  | none => .error .exception
  | some year =>
    let group := groupName.takeWhile fun c => c != Char.ofNat 0
    .ok (if group ∈ study.groups then some (.group group year) else none)

def fourPartKinds : List Text := [['t'], ['r'], ['n', 't', 'c']]

/-- The part after the third one is not looked for before it is read. -/
def withFourth (rest : List Text) (target : Text → Option Target) : Except Stop (Option Target) :=
  match rest with
  | [] => .error .missingField
  | fourth :: _ => .ok (target fourth)

def lineTarget (parts : List Text) : Except Stop (Option Target) :=
  match parts with
  | kind :: second :: third :: rest =>
    if 3 < kind.length then .ok none
    else if kind = ['t'] then withFourth rest (clusterTarget study Area.thermal Cell.thermal second third)
    else if kind = ['r'] then withFourth rest (renewableTarget study second third)
    else if kind = ['l'] then .ok (areaTarget study Cell.load second third)
    else if kind = ['w'] then .ok (areaTarget study Cell.wind second third)
    else if kind = ['h'] then .ok (areaTarget study Cell.hydro second third)
    else if kind = ['s'] then .ok (areaTarget study Cell.solar second third)
    else if kind = ['h', 'l'] then .ok (levelTarget study second third)
    else if kind = ['n', 't', 'c'] then withFourth rest (linkTarget study second third)
    else if kind = ['b', 'c'] then groupTarget study second third
    else .ok none
  | _ => .ok none

end

/-- The conversion of what is not a number to an unsigned int is left undefined by the language:
`undefinedNumber` is what it gives.
-/
def convertNumber (undefinedNumber : TSNumber) (value : Text) : Except Stop TSNumber :=
  if Text.stod value = .ok .nan then .ok undefinedNumber
  else (fromStringToTSnumber value).elim (.error .exception) .ok

def convertLevel (value : Text) : Except Stop (Option Level) :=
  (fromStringToHydroLevel value).elim (.error .exception) .ok

section
variable (study : Study) (undefinedNumber : TSNumber) (rules : Rules)

def Rules.write (target : Target) (value : Text) : Except Stop Rules :=
  match target with
  | .number cell year => (convertNumber undefinedNumber value).map (rules.setTSnumber study cell year)
  | .level area year =>
    (convertLevel value).map fun level => if year < study.nbYears then rules.setLevel area year level else rules
  | .group group year => (convertNumber undefinedNumber value).bind fun tsNumber =>
    if 0 ≤ year ∧ year < study.nbYears then .ok (rules.set (.bindingConstraints group year.toNat) tsNumber)
    else .error .yearOutside

def Rules.writeAt (value : Text) (target : Option Target) : Except Stop Rules :=
  target.elim (.ok rules) fun target => rules.write study undefinedNumber target value

def Rules.readOrStop (parts : List Text) (value : Text) : Except Stop Rules :=
  (lineTarget study parts).bind (rules.writeAt study undefinedNumber value)

end

namespace Rules

variable {study : Study} {undefinedNumber : TSNumber} {rules : Rules} {value : Text}

section
variable (number : Text.stod value ≠ .ok .nan)
include number

end

end Rules

namespace Sets

def rulesetName (read : IniFile.Section) : Option RulesScenarioName :=
  if read.name = [] then none
  else
    let name := (RulesScenarioName.of read.name).trim
    if name.val = [] then none else some name

section
variable (study : Study) (undefinedNumber : TSNumber)

def readProperty (rules : Rules) (property : IniFile.Property) : Except Stop Rules :=
  rules.readOrStop study undefinedNumber (splitKey property.key) property.value

def sectionOrStop (sets : Sets) (read : IniFile.Section) : Except Stop Sets :=
  match rulesetName read with
  | none => .ok sets
  | some name =>
    match sets.createNew (Rules.empty name) with
    | none => .error .missingRuleset
    | some _ => (read.properties.foldlM (readProperty study undefinedNumber) (Rules.empty name)).bind fun rules =>
      (sets.createNew rules).elim (.error .missingRuleset) .ok

variable (text : Text)

def loadOrStop : Except Stop Sets :=
  (IniFile.loaded text).foldlM (sectionOrStop study undefinedNumber) empty

def visitedSections : List (Sets × IniFile.Section) :=
  visited (sectionOrStop study undefinedNumber) empty (IniFile.loaded text)

/-- The lines of a section that are read, each with its ruleset before it. -/
def linesOf (visit : Sets × IniFile.Section) : List (Rules × IniFile.Property) :=
  match rulesetName visit.2 with
  | none => []
  | some name =>
    if (visit.1.createNew (Rules.empty name)).isSome then
      visited (readProperty study undefinedNumber) (Rules.empty name) visit.2.properties
    else []

def visitedLines : List (Rules × IniFile.Property) :=
  (visitedSections study undefinedNumber text).flatMap (linesOf study undefinedNumber)

end

end Sets

/-! What a line should be. -/

def yearOf (text : Text) : Option Nat :=
  if text ≠ [] ∧ text.all Char.isDigit = true then some (Nat.ofDigitChars 10 text 0) else none

def IsNumber (value : Text) : Prop := value ≠ [] ∧ ∃ number, Text.strtod value = (.finite number, [])

/-- Keys with exactly the parts of their kind, which name elements of the study and have this text as
a year.
-/
inductive Refers (study : Study) : List Text → Text → Prop
  | area {mark areaname yearText : Text} (kind : mark ∈ [['l'], ['s'], ['h'], ['w'], ['h', 'l']])
      (known : (study.find areaname).isSome = true) : Refers study [mark, areaname, yearText] yearText
  | thermal {areaname yearText clustername : Text} {area : Area × Nat} (known : study.find areaname = some area)
      (listed : (OrderedMap.find Cluster.id area.1.thermal clustername).isSome = true) :
      Refers study [['t'], areaname, yearText, clustername] yearText
  | renewable {areaname yearText clustername : Text} {area : Area × Nat} (known : study.find areaname = some area)
      (listed : (OrderedMap.find Cluster.id area.1.renewable clustername).isSome = true) :
      Refers study [['r'], areaname, yearText, clustername] yearText
  | link {fromAreaName toAreaName yearText : Text} {fromArea toArea : Area × Nat}
      (knownFrom : study.find fromAreaName = some fromArea) (knownTo : study.find toAreaName = some toArea)
      (linked : (findExistingLinkWith fromArea toArea).isSome = true) :
      Refers study [['n', 't', 'c'], fromAreaName, toAreaName, yearText] yearText
  | group {groupName yearText : Text} (known : groupName ∈ study.groups) :
      Refers study [['b', 'c'], groupName, yearText] yearText

/-- A line that is not malformed and refers to elements and a year of the study. -/
def WellFormed (study : Study) (parts : List Text) (value : Text) : Prop :=
  ∃ yearText year, Refers study parts yearText ∧ yearOf yearText = some year ∧ year < study.nbYears ∧ IsNumber value

section
variable (study : Study) (undefinedNumber : TSNumber)

/-- Nothing is read or written that does not exist, and a line that is not well-formed changes nothing. -/
structure Robust (text : Text) : Prop where
  stops : ∀ stop, Sets.loadOrStop study undefinedNumber text = .error stop → stop = .exception
  unchanged : ∀ visit ∈ Sets.visitedLines study undefinedNumber text,
    ¬WellFormed study (splitKey visit.2.key) visit.2.value →
      ∀ after, Sets.readProperty study undefinedNumber visit.1 visit.2 = .ok after → after = visit.1

def Target.Holds (rules : Rules) (value : Text) : Target → Prop
  | .number cell year =>
    year < study.nbYears → ∀ tsNumber, convertNumber undefinedNumber value = .ok tsNumber → rules.numbers cell = tsNumber
  | .level area year =>
    year < study.nbYears → ∀ level, convertLevel value = .ok level → rules.hydroLevels area year = level
  | .group name year =>
    0 ≤ year ∧ year < study.nbYears → ∀ tsNumber, convertNumber undefinedNumber value = .ok tsNumber →
      rules.numbers (.bindingConstraints name year.toNat) = tsNumber

/-- The kinds with four parts have a fourth one, the year of a known group is one of the study, and a
line that is not well-formed leads to a place that holds its value, if it leads anywhere.
-/
structure LineMeets (rules : Rules) (parts : List Text) (value : Text) : Prop where
  fourth : ∀ kind second third, parts = [kind, second, third] → kind ∉ fourPartKinds
  years : ∀ group year, lineTarget study parts = .ok (some (.group group year)) →
    ∀ tsNumber, convertNumber undefinedNumber value = .ok tsNumber → 0 ≤ year ∧ year < study.nbYears
  held : ¬WellFormed study parts value → ∀ target, lineTarget study parts = .ok (some target) →
    target.Holds study undefinedNumber rules value

/-- No section that is read has the identifier of an earlier one, and its lines meet their conditions. -/
structure LoadMeets (text : Text) : Prop where
  rulesets : ∀ visit ∈ Sets.visitedSections study undefinedNumber text, ∀ name, Sets.rulesetName visit.2 = some name →
    (Rules.empty name).id ∉ visit.1.rules.map Rules.id
  lines : ∀ visit ∈ Sets.visitedLines study undefinedNumber text,
    LineMeets study undefinedNumber visit.1 (splitKey visit.2.key) visit.2.value

end

section
variable {study : Study} {undefinedNumber : TSNumber} {rules : Rules} {parts : List Text} {value : Text}

theorem withFourth_error {rest : List Text} {target : Text → Option Target} {stop : Stop}
    (stopped : withFourth rest target = .error stop) : stop = .missingField ∧ rest = [] := by
  cases rest with
  | nil => exact ⟨(Except.error.inj stopped).symm, rfl⟩
  | cons fourth rest => exact absurd stopped (by simp [withFourth])

theorem stops_of_ite {goal test : Prop} [Decidable test] {one other : Except Stop (Option Target)} {stop : Stop}
    (chosen : test → one = .error stop → goal) (others : other = .error stop → goal) :
    (if test then one else other) = .error stop → goal := by
  intro stopped
  by_cases holds : test
  · rw [if_pos holds] at stopped
    exact chosen holds stopped
  · rw [if_neg holds] at stopped
    exact others stopped

theorem groupTarget_error {second third : Text} {stop : Stop} (stopped : groupTarget study second third = .error stop) :
    stop = .exception := by
  unfold groupTarget at stopped
  cases year : Text.stoi third with
  | none =>
    rw [year] at stopped
    exact (Except.error.inj stopped).symm
  | some year' =>
    rw [year] at stopped
    exact absurd stopped (by simp)

variable {stop : Stop}

theorem lineTarget_error (stopped : lineTarget study parts = .error stop) :
    stop = .exception ∨ stop = .missingField ∧ ∃ kind second third, parts = [kind, second, third] ∧ kind ∈ fourPartKinds := by
  match parts with
  | [] | [_] | [_, _] => exact absurd stopped (by simp [lineTarget])
  | kind :: second :: third :: rest =>
    have missing {target : Text → Option Target} (marked : kind ∈ fourPartKinds)
        (stopped : withFourth rest target = .error stop) : stop = .exception ∨ stop = .missingField ∧
          ∃ first second' third', kind :: second :: third :: rest = [first, second', third'] ∧ first ∈ fourPartKinds := by
      obtain ⟨rfl, rfl⟩ := withFourth_error stopped
      exact .inr ⟨rfl, kind, second, third, rfl, marked⟩
    have goesOn {goal : Prop} {target : Option Target} (stopped : (.ok target : Except Stop (Option Target)) = .error stop) :
        goal := nomatch stopped
    -- one step for each kind of line
    refine stops_of_ite (fun _ => goesOn) ?_ stopped
    refine stops_of_ite (fun same => missing (by simp [same, fourPartKinds])) ?_
    refine stops_of_ite (fun same => missing (by simp [same, fourPartKinds])) ?_
    refine stops_of_ite (fun _ => goesOn) (stops_of_ite (fun _ => goesOn) ?_)
    refine stops_of_ite (fun _ => goesOn) (stops_of_ite (fun _ => goesOn) ?_)
    refine stops_of_ite (fun _ => goesOn) ?_
    refine stops_of_ite (fun same => missing (by simp [same, fourPartKinds])) ?_
    exact stops_of_ite (fun _ stopped => .inl (groupTarget_error stopped)) goesOn

theorem lineTarget_missing {kind second third : Text} (marked : kind ∈ fourPartKinds) :
    lineTarget study [kind, second, third] = .error .missingField := by
  simp only [fourPartKinds, List.mem_cons, List.not_mem_nil, or_false] at marked
  rcases marked with rfl | rfl | rfl <;> rfl

theorem convertNumber_error (stopped : convertNumber undefinedNumber value = .error stop) :
    stop = .exception := by
  unfold convertNumber at stopped
  split_ifs at stopped
  cases read : fromStringToTSnumber value with
  | none =>
    rw [read] at stopped
    exact (Except.error.inj stopped).symm
  | some tsNumber =>
    rw [read] at stopped
    exact absurd stopped (by simp)

theorem convertLevel_error (stopped : convertLevel value = .error stop) : stop = .exception := by
  unfold convertLevel at stopped
  cases read : fromStringToHydroLevel value with
  | none =>
    rw [read] at stopped
    exact (Except.error.inj stopped).symm
  | some level =>
    rw [read] at stopped
    exact absurd stopped (by simp)

theorem Rules.set_eq_iff {cell : Cell} {tsNumber : TSNumber} : rules.set cell tsNumber = rules ↔ rules.numbers cell = tsNumber := by
  constructor
  · intro same
    have there := congrFun (congrArg Rules.numbers same) cell
    simpa [Rules.set] using there.symm
  · intro held
    rw [Rules.set, ← held, Function.update_eq_self]

theorem Rules.setLevel_eq_iff {area year : Nat} {level : Option Level} :
    rules.setLevel area year level = rules ↔ rules.hydroLevels area year = level := by
  constructor
  · intro same
    have there := congrFun (congrFun (congrArg Rules.hydroLevels same) area) year
    simpa [Rules.setLevel] using there.symm
  · intro held
    have levels : (rules.setLevel area year level).hydroLevels = rules.hydroLevels := by
      funext otherArea otherYear
      by_cases here : otherArea = area ∧ otherYear = year
      · obtain ⟨rfl, rfl⟩ := here
        simp [Rules.setLevel, held]
      · simp [Rules.setLevel, here]
    exact Rules.ext rfl rfl levels

theorem Rules.write_stops_iff (target : Target) :
    (∀ stop, rules.write study undefinedNumber target value = .error stop → stop = .exception) ↔
      ∀ group year, target = .group group year → ∀ tsNumber, convertNumber undefinedNumber value = .ok tsNumber →
        0 ≤ year ∧ year < study.nbYears := by
  unfold Rules.write
  cases target with
  | number cell year =>
    refine iff_of_true (fun stop stopped => ?_) fun group year same => by cases same
    cases converted : convertNumber undefinedNumber value with
    | error first =>
      rw [converted] at stopped
      exact Except.error.inj stopped ▸ convertNumber_error converted
    | ok tsNumber =>
      rw [converted] at stopped
      cases stopped
  | level area year =>
    refine iff_of_true (fun stop stopped => ?_) fun group year same => by cases same
    cases converted : convertLevel value with
    | error first =>
      rw [converted] at stopped
      exact Except.error.inj stopped ▸ convertLevel_error converted
    | ok level =>
      rw [converted] at stopped
      cases stopped
  | group name year =>
    dsimp only
    cases converted : convertNumber undefinedNumber value with
    | error first =>
      refine iff_of_true (fun stop stopped => ?_) fun group year _ tsNumber same => by cases same
      exact Except.error.inj stopped ▸ convertNumber_error converted
    | ok tsNumber =>
      dsimp only [Except.bind]
      by_cases inYears : 0 ≤ year ∧ year < study.nbYears
      · rw [if_pos inYears]
        refine iff_of_true (fun stop stopped => nomatch stopped) fun group other same _ _ => ?_
        cases same
        exact inYears
      · rw [if_neg inYears]
        refine iff_of_false (fun stops => ?_) fun years => inYears (years name year rfl tsNumber rfl)
        cases stops .yearOutside rfl

theorem Rules.write_unchanged_iff (target : Target) :
    (∀ after, rules.write study undefinedNumber target value = .ok after → after = rules) ↔
      target.Holds study undefinedNumber rules value := by
  unfold Rules.write Target.Holds
  cases target with
  | number cell year =>
    dsimp only
    cases convertNumber undefinedNumber value with
    | error stop => simp [Except.map]
    | ok tsNumber =>
      by_cases inYears : year < study.nbYears
      · simp [Except.map, Rules.setTSnumber, inYears, Rules.set_eq_iff]
      · simp [Except.map, Rules.setTSnumber, inYears]
  | level area year =>
    dsimp only
    cases convertLevel value with
    | error stop => simp [Except.map]
    | ok level =>
      by_cases inYears : year < study.nbYears
      · simp [Except.map, inYears, Rules.setLevel_eq_iff]
      · simp [Except.map, inYears]
  | group name year =>
    dsimp only
    cases convertNumber undefinedNumber value with
    | error stop => simp [Except.bind]
    | ok tsNumber =>
      by_cases inYears : 0 ≤ year ∧ year < study.nbYears
      · simp [Except.bind, inYears, Rules.set_eq_iff]
      · simp [Except.bind, inYears]

theorem readOrStop_iff :
    (∀ stop, rules.readOrStop study undefinedNumber parts value = .error stop → stop = .exception) ∧
        (¬WellFormed study parts value →
          ∀ after, rules.readOrStop study undefinedNumber parts value = .ok after → after = rules) ↔
      LineMeets study undefinedNumber rules parts value := by
  unfold Rules.readOrStop
  cases leads : lineTarget study parts with
  | error stop =>
    constructor
    · rintro ⟨stops, -⟩
      have thrown := stops stop rfl
      constructor
      · rintro kind second third rfl marked
        rw [lineTarget_missing marked, Except.error.injEq] at leads
        rw [← leads] at thrown
        cases thrown
      · intro group year target
        cases leads.symm.trans target
      · intro _ target led
        cases leads.symm.trans led
    · intro lineMeets
      refine ⟨fun other stopped => ?_, fun _ after result => nomatch result⟩
      obtain rfl : stop = other := Except.error.inj stopped
      rcases lineTarget_error leads with thrown | ⟨-, kind, second, third, same, marked⟩
      · exact thrown
      · exact absurd marked (lineMeets.fourth kind second third same)
  | ok target =>
    have fourth : ∀ kind second third, parts = [kind, second, third] → kind ∉ fourPartKinds := by
      rintro kind second third rfl marked
      cases (lineTarget_missing marked).symm.trans leads
    cases target with
    | none =>
      refine iff_of_true ⟨fun stop stopped => (nomatch stopped), fun _ after result => (Except.ok.inj result).symm⟩ ?_
      constructor
      · exact fourth
      · intro group year led
        cases leads.symm.trans led
      · intro _ target led
        cases leads.symm.trans led
    | some target =>
      change (∀ stop, rules.write study undefinedNumber target value = .error stop → stop = .exception) ∧
        (_ → ∀ after, rules.write study undefinedNumber target value = .ok after → after = rules) ↔ _
      rw [Rules.write_stops_iff, Rules.write_unchanged_iff]
      constructor
      · intro ⟨years, held⟩
        constructor
        · exact fourth
        · intro group year led
          exact years group year (Option.some.inj (Except.ok.inj (leads.symm.trans led)))
        · intro malformed other led
          exact Option.some.inj (Except.ok.inj (leads.symm.trans led)) ▸ held malformed
      · intro lineMeets
        exact ⟨fun group year same => lineMeets.years group year (same ▸ leads), fun malformed => lineMeets.held malformed target leads⟩

theorem Sets.createNew_eq_none_iff {sets : Sets} : sets.createNew rules = none ↔ rules.id ∈ sets.rules.map Rules.id := by
  unfold Sets.createNew
  split_ifs with taken <;> simp [taken]

section
variable {α β : Type} {result : Except Stop α}

theorem ok_of_map {f : α → β} {b : β} (ends : result.map f = .ok b) : ∃ a, result = .ok a ∧ f a = b := by
  cases result with
  | error stop => cases ends
  | ok a => exact ⟨a, rfl, Except.ok.inj ends⟩

theorem ok_of_bind {f : α → Except Stop β} {b : β} (ends : result.bind f = .ok b) : ∃ a, result = .ok a ∧ f a = .ok b := by
  cases result with
  | error stop => cases ends
  | ok a => exact ⟨a, rfl, ends⟩

end

theorem readProperty_name {property : IniFile.Property} {after : Rules}
    (result : Sets.readProperty study undefinedNumber rules property = .ok after) : after.name = rules.name := by
  obtain ⟨target, -, result⟩ := ok_of_bind result
  cases target with
  | none => exact Except.ok.inj result ▸ rfl
  | some target =>
    cases target with
    | number cell year =>
      obtain ⟨tsNumber, -, rfl⟩ := ok_of_map result
      unfold Rules.setTSnumber
      split_ifs <;> rfl
    | level area year =>
      obtain ⟨level, -, rfl⟩ := ok_of_map result
      split_ifs <;> rfl
    | group name year =>
      obtain ⟨tsNumber, -, result⟩ := ok_of_bind result
      split_ifs at result
      exact Except.ok.inj result ▸ rfl

theorem foldlM_readProperty_name {properties : List IniFile.Property} {after : Rules}
    (result : properties.foldlM (Sets.readProperty study undefinedNumber) rules = .ok after) : after.name = rules.name := by
  induction properties generalizing rules with
  | nil => exact Except.ok.inj result ▸ rfl
  | cons property properties later =>
    rw [List.foldlM_cons] at result
    obtain ⟨next, read, result⟩ := ok_of_bind result
    exact (later result).trans (readProperty_name read)

theorem sectionOrStop_error_iff {sets : Sets} {read : IniFile.Section} {stop : Stop} :
    Sets.sectionOrStop study undefinedNumber sets read = .error stop ↔
      (stop = .missingRuleset ∧ ∃ name, Sets.rulesetName read = some name ∧
        (Rules.empty name).id ∈ sets.rules.map Rules.id) ∨
      ∃ visit ∈ Sets.linesOf study undefinedNumber (sets, read),
        Sets.readProperty study undefinedNumber visit.1 visit.2 = .error stop := by
  unfold Sets.sectionOrStop Sets.linesOf
  cases named : Sets.rulesetName read with
  | none => simp
  | some name =>
    dsimp only
    cases created : sets.createNew (Rules.empty name) with
    | none =>
      have taken := Sets.createNew_eq_none_iff.mp created
      simp [-List.mem_map, taken, eq_comm]
    | some first =>
      have fresh : (Rules.empty name).id ∉ sets.rules.map Rules.id := fun taken => by
        cases created.symm.trans (Sets.createNew_eq_none_iff.mpr taken)
      have none : ¬∃ other, some name = some other ∧ (Rules.empty other).id ∈ sets.rules.map Rules.id := by
        rintro ⟨other, same, taken⟩
        exact fresh (Option.some.inj same ▸ taken)
      dsimp only [Option.isSome_some]
      rw [if_pos rfl, ← foldlM_eq_error_iff, or_iff_right fun both => none both.2]
      cases lines : read.properties.foldlM (Sets.readProperty study undefinedNumber) (Rules.empty name) with
      | error other => simp [Except.bind]
      | ok rules =>
        -- the ruleset that was filled keeps the identifier that was free
        have same : rules.id = (Rules.empty name).id := 
          congrArg (fun name : RulesScenarioName => toLower name.val) (foldlM_readProperty_name lines)
        obtain ⟨sets', listed⟩ := Option.ne_none_iff_exists'.mp fun taken =>
          fresh (same ▸ Sets.createNew_eq_none_iff.mp taken : (Rules.empty name).id ∈ sets.rules.map Rules.id)
        simp [Except.bind, listed]

theorem loadOrStop_error_iff {text : Text} {stop : Stop} :
    Sets.loadOrStop study undefinedNumber text = .error stop ↔
      (stop = .missingRuleset ∧ ∃ visit ∈ Sets.visitedSections study undefinedNumber text, ∃ name,
        Sets.rulesetName visit.2 = some name ∧ (Rules.empty name).id ∈ visit.1.rules.map Rules.id) ∨
      ∃ visit ∈ Sets.visitedLines study undefinedNumber text,
        Sets.readProperty study undefinedNumber visit.1 visit.2 = .error stop := by
  unfold Sets.loadOrStop Sets.visitedLines
  rw [foldlM_eq_error_iff]
  simp only [sectionOrStop_error_iff, List.mem_flatMap]
  constructor
  · rintro ⟨visit, member, ⟨rfl, taken⟩ | ⟨line, inSection, stopped⟩⟩
    · exact .inl ⟨rfl, visit, member, taken⟩
    · exact .inr ⟨line, ⟨visit, member, inSection⟩, stopped⟩
  · rintro (⟨rfl, visit, member, taken⟩ | ⟨line, ⟨visit, member, inSection⟩, stopped⟩)
    · exact ⟨visit, member, .inl ⟨rfl, taken⟩⟩
    · exact ⟨visit, member, .inr ⟨line, inSection, stopped⟩⟩

end

def emptyStudy : Study where
  areas := []
  areasSorted := by decide
  linksToAreas := by simp
  groups := []
  groupsSorted := noTexts_sorted
  nbYears := 1
  nbYears_le := one_le_maximumMCYears
  renewableClusters := false

end Antares.ScenarioBuilder
