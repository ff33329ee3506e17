import Antares.Data.Areas
import Antares.Library.Overlays
import Antares.ScenarioBuilder.Rules

/-! `Rules::apply`: the numbers of a ruleset laid over the drawn ones. The loops over the series go on after an
invalid number; the one over the groups stops at the first group that has one, and nothing is applied to a
study without areas.
-/

set_option autoImplicit false

namespace Antares.ScenarioBuilder

open Library Data

/-- A series with numbers: of an area, of a cluster or link of an area, of a group. -/
inductive Element where
  | load (area : Nat)
  | solar (area : Nat)
  | hydro (area : Nat)
  | wind (area : Nat)
  | thermal (area cluster : Nat)
  | renewable (area cluster : Nat)
  | linksNTC (area link : Nat)
  | bindingConstraints (group : Text)
  deriving DecidableEq

def Element.cell (element : Element) (year : Nat) : Cell :=
  match element with
  | .load area => .load area year
  | .solar area => .solar area year
  | .hydro area => .hydro area year
  | .wind area => .wind area year
  | .thermal area cluster => .thermal area cluster year
  | .renewable area cluster => .renewable area cluster year
  | .linksNTC area link => .linksNTC area link year
  | .bindingConstraints group => .bindingConstraints group year

/-- The numbers of a ruleset, from one on; zero keeps the drawn one. -/
structure Ruleset where
  numbers : Cell → Nat
  hydroLevels : Nat → Nat → Option Level

/-- A study in the simulation: the enabled clusters have their numbers, and the groups, each with
its number of time-series, are in the order of their names. `years` is the height of the tables of
numbers.
-/
structure ScenarioStudy where
  areas : List Data.Area
  parameters : SimulationParameters
  groups : List (Text × Nat)
  groupsSorted : OrderedMap.Sorted Prod.fst groups
  years : Nat
  years_le : years ≤ parameters.nbYears

/-- The numbers of each series and year, from zero on, and the initial levels of the reservoirs. -/
structure ScenarioState where
  numbers : Element → Nat → Nat
  scenarioHydroLevels : Nat → Nat → Option Level

def checkValidity (columns tsGenMax value : Nat) : Bool :=
  if tsGenMax = 0 then decide (value < columns) else decide (value < tsGenMax)

def applyToMatrix (valid : Nat → Bool) (nbYears : Nat) (years target : Nat → Nat) : (Nat → Nat) × Bool :=
  (List.range nbYears).foldl (fun state y =>
    if years y ≠ 0 then
      if valid (years y - 1) then (Function.update state.1 y (years y - 1), state.2) else (state.1, false)
    else state) (target, true)

section
variable (valid : Nat → Bool) (years target : Nat → Nat)

theorem applyToMatrix_eq (nbYears : Nat) :
    applyToMatrix valid nbYears years target =
      (fun y => if y < nbYears ∧ years y ≠ 0 ∧ valid (years y - 1) = true then years y - 1 else target y,
        (List.range nbYears).all fun y => !decide (years y ≠ 0 ∧ valid (years y - 1) = false)) := by
  induction nbYears with
  | zero => simp [applyToMatrix]
  | succ nbYears ih =>
    have ends {y : Nat} : y < nbYears + 1 ↔ y < nbYears ∨ y = nbYears := by omega
    unfold applyToMatrix at ih ⊢
    rw [List.range_succ, List.foldl_append, ih, List.foldl_cons, List.foldl_nil, List.all_append]
    split_ifs with given isValid
    · apply Prod.ext
      · funext y
        by_cases last : y = nbYears
        · subst last
          simp [given, isValid]
        · simp [ends, last]
      · simp [isValid]
    · rw [Bool.not_eq_true] at isValid
      apply Prod.ext
      · funext y
        by_cases last : y = nbYears
        · subst last
          simp [isValid]
        · simp [ends, last]
      · simp [given, isValid]
    · rw [ne_eq, not_not] at given
      apply Prod.ext
      · funext y
        by_cases last : y = nbYears
        · subst last
          simp [given]
        · simp [ends, last]
      · simp [given]

end

namespace ScenarioStudy

variable (study : ScenarioStudy) (rules : Ruleset)

/-- The number of generated series of a kind, zero if they are not generated. -/
def tsGenCount (kind : TimeSeriesType) : Nat :=
  if study.parameters.timeSeriesToGenerate kind then study.parameters.nbTimeSeries kind else 0

def tsGenCountRenewable : Nat := if study.parameters.timeSeriesToGenerate .renewable then 1 else 0

/-- A loaded series, and the number of generated ones that takes the place of its own. -/
structure Target where
  element : Element
  columns : Nat
  tsGenMax : Nat

def Target.valid (target : Target) (value : Nat) : Bool := checkValidity target.columns target.tsGenMax value

def applyTarget (target : Target) : Laying Element Nat Nat := fun numbers =>
  let applied := applyToMatrix target.valid study.years (fun y => rules.numbers (target.element.cell y))
    (numbers target.element)
  (Function.update numbers target.element applied.1, applied.2)

def loads : List Target := study.areas.zipIdx.map fun area => ⟨.load area.2, area.1.loadWidth, study.tsGenCount .load⟩

def solars : List Target := study.areas.zipIdx.map fun area => ⟨.solar area.2, area.1.solarWidth, study.tsGenCount .solar⟩

def hydros : List Target := study.areas.zipIdx.map fun area => ⟨.hydro area.2, area.1.hydroWidth, study.tsGenCount .hydro⟩

def winds : List Target := study.areas.zipIdx.map fun area => ⟨.wind area.2, area.1.windWidth, study.tsGenCount .wind⟩

variable (area : Data.Area × Nat)

def thermals : List Target :=
  area.1.thermalClusters.zipIdx.map fun cluster =>
    ⟨.thermal area.2 cluster.2, cluster.1.seriesWidth, study.tsGenCount .thermal⟩

def renewables : List Target :=
  area.1.renewableClusters.zipIdx.map fun cluster =>
    ⟨.renewable area.2 cluster.2, cluster.1.seriesWidth, study.tsGenCountRenewable⟩

def linksNTC (area : Data.Area × Nat) : List Target :=
  area.1.links.zipIdx.map fun link => ⟨.linksNTC area.2 link.2, link.1.directWidth, 0⟩

def bindingConstraints : List Target := study.groups.map fun group => ⟨.bindingConstraints group.1, group.2, 0⟩

def applyTargets (targets : List Target) : Laying Element Nat Nat := accumulate (targets.map (study.applyTarget rules))

def loadApply : Laying Element Nat Nat := study.applyTargets rules study.loads

def solarApply : Laying Element Nat Nat := study.applyTargets rules study.solars

def hydroApply : Laying Element Nat Nat := study.applyTargets rules study.hydros

def windApply : Laying Element Nat Nat := study.applyTargets rules study.winds

def thermalApply : Laying Element Nat Nat := study.applyTargets rules (study.thermals area)

def renewableApply : Laying Element Nat Nat := study.applyTargets rules (study.renewables area)

def ntcApply : Laying Element Nat Nat := study.applyTargets rules (linksNTC area)

/-- `std::all_of` over the groups of the ruleset. -/
def bindingConstraintsApply : Laying Element Nat Nat :=
  untilFailure (study.bindingConstraints.map (study.applyTarget rules))

def apply (state : ScenarioState) : ScenarioState × Bool :=
  if study.areas = [] then (state, false)
  else
    let applied := accumulate
      ([study.loadApply rules, study.solarApply rules, study.hydroApply rules, study.windApply rules] ++
        (study.areas.zipIdx.flatMap fun area =>
          [study.thermalApply rules area, study.renewableApply rules area, study.ntcApply rules area]) ++
        [study.bindingConstraintsApply rules]) state.numbers
    ({ numbers := applied.1, scenarioHydroLevels := rules.hydroLevels }, applied.2)

def targetsOfAreas : List Target :=
  study.loads ++ study.solars ++ study.hydros ++ study.winds ++
    study.areas.zipIdx.flatMap fun area => study.thermals area ++ study.renewables area ++ linksNTC area

def targets : List Target := study.targetsOfAreas ++ study.bindingConstraints

def elements : List Element := study.targets.map Target.element

def columns : Element → Nat
  | .load area => (study.areas[area]?).elim 0 Data.Area.loadWidth
  | .solar area => (study.areas[area]?).elim 0 Data.Area.solarWidth
  | .hydro area => (study.areas[area]?).elim 0 Data.Area.hydroWidth
  | .wind area => (study.areas[area]?).elim 0 Data.Area.windWidth
  | .thermal area cluster =>
    ((study.areas[area]?).bind fun found => found.thermalClusters[cluster]?).elim 0 ThermalCluster.seriesWidth
  | .renewable area cluster =>
    ((study.areas[area]?).bind fun found => found.renewableClusters[cluster]?).elim 0 RenewableCluster.seriesWidth
  | .linksNTC area link => ((study.areas[area]?).bind fun found => found.links[link]?).elim 0 Data.AreaLink.directWidth
  | .bindingConstraints group => (OrderedMap.find Prod.fst study.groups group).elim 0 fun found => found.1.2

def tsGenMax : Element → Nat
  | .load _ => study.tsGenCount .load
  | .solar _ => study.tsGenCount .solar
  | .hydro _ => study.tsGenCount .hydro
  | .wind _ => study.tsGenCount .wind
  | .thermal _ _ => study.tsGenCount .thermal
  | .renewable _ _ => study.tsGenCountRenewable
  | _ => 0

def valid (element : Element) (value : Nat) : Bool := checkValidity (study.columns element) (study.tsGenMax element) value

section
variable (element : Element) (year : Nat)

def Gives : Prop :=
  rules.numbers (element.cell year) ≠ 0 ∧ study.valid element (rules.numbers (element.cell year) - 1) = true

def GivesInvalid : Prop :=
  rules.numbers (element.cell year) ≠ 0 ∧ study.valid element (rules.numbers (element.cell year) - 1) = false

instance : Decidable (study.Gives rules element year) := inferInstanceAs (Decidable (_ ∧ _))

instance : Decidable (study.GivesInvalid rules element year) := inferInstanceAs (Decidable (_ ∧ _))

end

def written (element : Element) (year : Nat) : Option Nat :=
  if year < study.years ∧ study.Gives rules element year then some (rules.numbers (element.cell year) - 1) else none

def fine (element : Element) : Bool := (List.range study.years).all fun year => !study.GivesInvalid rules element year

theorem fine_eq_false_iff {element : Element} :
    study.fine rules element = false ↔ ∃ year < study.years, study.GivesInvalid rules element year := by
  simp [fine]

theorem valid_of_mem {target : Target} (member : target ∈ study.targets) : target.valid = study.valid target.element := by
  have same {element : Element} {columns tsGenMax : Nat} (width : study.columns element = columns)
      (generated : study.tsGenMax element = tsGenMax) : (⟨element, columns, tsGenMax⟩ : Target).valid = study.valid element := by
    funext value
    unfold Target.valid valid
    rw [width, generated]
  unfold targets targetsOfAreas loads solars hydros winds at member
  simp only [List.mem_append, List.mem_map, List.mem_flatMap, thermals, renewables, linksNTC, bindingConstraints] at member
  rcases member with ((((⟨⟨area, index⟩, found, rfl⟩ | ⟨⟨area, index⟩, found, rfl⟩) | ⟨⟨area, index⟩, found, rfl⟩) |
      ⟨⟨area, index⟩, found, rfl⟩) | ⟨⟨area, index⟩, found, inArea⟩) | ⟨group, listed, rfl⟩
  · exact same (by simp [columns, List.mem_zipIdx_iff_getElem?.mp found]) rfl
  · exact same (by simp [columns, List.mem_zipIdx_iff_getElem?.mp found]) rfl
  · exact same (by simp [columns, List.mem_zipIdx_iff_getElem?.mp found]) rfl
  · exact same (by simp [columns, List.mem_zipIdx_iff_getElem?.mp found]) rfl
  · have there : study.areas[index]? = some area := List.mem_zipIdx_iff_getElem?.mp found
    rcases inArea with (⟨⟨cluster, place⟩, listed, rfl⟩ | ⟨⟨cluster, place⟩, listed, rfl⟩) | ⟨⟨link, place⟩, listed, rfl⟩
    · exact same (by simp [columns, there, List.mem_zipIdx_iff_getElem?.mp listed]) rfl
    · exact same (by simp [columns, there, List.mem_zipIdx_iff_getElem?.mp listed]) rfl
    · exact same (by simp [columns, there, List.mem_zipIdx_iff_getElem?.mp listed]) rfl
  · obtain ⟨place, stands⟩ := List.mem_iff_getElem?.mp listed
    exact same (by simp [columns, OrderedMap.find_of_getElem? study.groupsSorted.distinct stands]) rfl

theorem lays_applyTarget {target : Target} (member : target ∈ study.targets) :
    Lays (study.written rules) (study.fine rules) (study.applyTarget rules target) [target.element] [target.element] := by
  have valid := study.valid_of_mem member
  constructor
  · intro table
    unfold applyTarget
    dsimp only
    rw [applyToMatrix_eq, valid]
    funext element year
    by_cases same : element = target.element
    · subst same
      rw [Function.update_self, overlay, if_pos List.mem_cons_self, written]
      by_cases given : year < study.years ∧ study.Gives rules target.element year
      · rw [if_pos given]
        exact if_pos given
      · rw [if_neg given]
        exact if_neg given
    · rw [Function.update_of_ne same, overlay, if_neg fun listed => same (List.mem_singleton.mp listed)]
  · intro table
    unfold applyTarget
    dsimp only
    rw [applyToMatrix_eq, valid, List.all_cons, List.all_nil, Bool.and_true]
    rfl

theorem lays_applyTargets {targets : List Target} (listed : targets ⊆ study.targets) :
    Lays (study.written rules) (study.fine rules) (study.applyTargets rules targets) (targets.map Target.element)
      (targets.map Target.element) := by
  have laid := @Lays.accumulate _ _ _ _ (study.written rules) (study.fine rules) _ (study.applyTarget rules)
    (fun target => [target.element]) (fun target => [target.element]) targets
    fun target member => study.lays_applyTarget rules (listed member)
  rwa [← List.map_eq_flatMap] at laid

end ScenarioStudy

namespace ScenarioStudy

variable (study : ScenarioStudy) (rules : Ruleset)

/-- Each given number is written where it is valid and nowhere else, and an invalid one is reported. -/
structure Applied (before after : Element → Nat → Nat) (status : Bool) : Prop where
  written : ∀ element ∈ study.elements, ∀ year < study.years, study.Gives rules element year →
    after element year = rules.numbers (element.cell year) - 1
  kept : ∀ element ∈ study.elements, ∀ year < study.years, ¬study.Gives rules element year →
    after element year = before element year
  status : status = false ↔ ∃ element ∈ study.elements, ∃ year < study.years, study.GivesInvalid rules element year

def HasGiven (numbers : Element → Nat → Nat) (element : Element) : Prop :=
  ∀ year < study.years, study.Gives rules element year → numbers element year = rules.numbers (element.cell year) - 1

/-- No group with a number to write follows a group with an invalid number; a study without areas
has an invalid number and no number to write.
-/
structure NothingSkipped (numbers : Element → Nat → Nat) : Prop where
  groups : (study.bindingConstraints.map Target.element).Pairwise fun first second =>
    study.fine rules first = false → study.HasGiven rules numbers second
  areas : study.areas = [] → (∃ element ∈ study.elements, study.fine rules element = false) ∧
    ∀ element ∈ study.elements, study.HasGiven rules numbers element

theorem bindingConstraints_nodup : (study.bindingConstraints.map Target.element).Nodup := by
  have names := study.groupsSorted.distinct
  unfold bindingConstraints
  rw [List.map_map]
  rw [List.Nodup, List.pairwise_map] at names ⊢
  apply names.imp
  intro first second different same
  exact different (Element.bindingConstraints.inj same)

theorem elements_eq : study.elements = study.targetsOfAreas.map Target.element ++
    study.bindingConstraints.map Target.element := List.map_append

def laid : List Element :=
  study.targetsOfAreas.map Target.element ++ reached (study.fine rules) (study.bindingConstraints.map Target.element)

theorem subset_targets {targets : List Target} (listed : targets ⊆ study.targetsOfAreas) : targets ⊆ study.targets :=
  List.Subset.trans listed (List.subset_append_left _ _)

theorem subset_targetsOfArea {area : Data.Area × Nat} (known : area ∈ study.areas.zipIdx) {targets : List Target}
    (listed : targets ⊆ study.thermals area ++ study.renewables area ++ linksNTC area) : targets ⊆ study.targets :=
  study.subset_targets fun _ member =>
    List.mem_append_right _ (List.mem_flatMap.mpr ⟨area, known, listed member⟩)

theorem lays_bindingConstraintsApply :
    Lays (study.written rules) (study.fine rules) (study.bindingConstraintsApply rules)
      (reached (study.fine rules) (study.bindingConstraints.map Target.element))
      (study.bindingConstraints.map Target.element) :=
  Lays.untilFailure fun _ listed => study.lays_applyTarget rules (List.mem_append_right _ listed)

theorem apply_of_areas (some : study.areas ≠ []) (state : ScenarioState) :
    (study.apply rules state).1.numbers = overlay (study.written rules) (study.laid rules) state.numbers ∧
      (study.apply rules state).2 = study.elements.all (study.fine rules) := by
  have each {targets : List Target} (listed : targets ⊆ study.targets) := study.lays_applyTargets rules listed
  have ofAreas {targets : List Target} (listed : targets ⊆ study.targetsOfAreas) := each (study.subset_targets listed)
  -- each loop of the function with the series it lays and checks
  let ofArea (area : Data.Area × Nat) : List (Laying Element Nat Nat × List Element × List Element) :=
    [(study.thermalApply rules area, (study.thermals area).map Target.element, (study.thermals area).map Target.element),
      (study.renewableApply rules area, (study.renewables area).map Target.element,
        (study.renewables area).map Target.element),
      (study.ntcApply rules area, (linksNTC area).map Target.element, (linksNTC area).map Target.element)]
  let loops : List (Laying Element Nat Nat × List Element × List Element) :=
    [(study.loadApply rules, study.loads.map Target.element, study.loads.map Target.element),
      (study.solarApply rules, study.solars.map Target.element, study.solars.map Target.element),
      (study.hydroApply rules, study.hydros.map Target.element, study.hydros.map Target.element),
      (study.windApply rules, study.winds.map Target.element, study.winds.map Target.element)] ++
      study.areas.zipIdx.flatMap ofArea ++
      [(study.bindingConstraintsApply rules,
        reached (study.fine rules) (study.bindingConstraints.map Target.element),
        study.bindingConstraints.map Target.element)]
  have allLoops : Lays (study.written rules) (study.fine rules) (accumulate (loops.map Prod.fst))
      (loops.flatMap fun loop => loop.2.1) (loops.flatMap fun loop => loop.2.2) := by
    apply Lays.accumulate
    intro loop member
    simp only [loops, ofArea, List.mem_append, List.mem_cons, List.not_mem_nil, or_false, List.mem_flatMap] at member
    rcases member with ((rfl | rfl | rfl | rfl) | ⟨area, known, rfl | rfl | rfl⟩) | rfl
    · exact ofAreas fun _ listed => by simp [targetsOfAreas, listed]
    · exact ofAreas fun _ listed => by simp [targetsOfAreas, listed]
    · exact ofAreas fun _ listed => by simp [targetsOfAreas, listed]
    · exact ofAreas fun _ listed => by simp [targetsOfAreas, listed]
    · exact each (study.subset_targetsOfArea known fun _ listed => by simp [listed])
    · exact each (study.subset_targetsOfArea known fun _ listed => by simp [listed])
    · exact each (study.subset_targetsOfArea known fun _ listed => by simp [listed])
    · exact study.lays_bindingConstraintsApply rules
  have parts : loops.map Prod.fst =
      [study.loadApply rules, study.solarApply rules, study.hydroApply rules, study.windApply rules] ++
        (study.areas.zipIdx.flatMap fun area =>
          [study.thermalApply rules area, study.renewableApply rules area, study.ntcApply rules area]) ++
        [study.bindingConstraintsApply rules] := by
    simp [loops, ofArea, List.map_flatMap]
  have series : (loops.flatMap fun loop => loop.2.1) = study.laid rules := by
    simp [loops, ofArea, laid, targetsOfAreas, List.flatMap_assoc, List.map_flatMap]
  have checked : (loops.flatMap fun loop => loop.2.2) = study.elements := by
    rw [elements_eq]
    simp [loops, ofArea, targetsOfAreas, List.flatMap_assoc, List.map_flatMap]
  unfold apply
  rw [if_neg some]
  dsimp only
  rw [← parts, allLoops.table, allLoops.status, series, checked]
  exact ⟨rfl, rfl⟩

section
variable {study rules}

variable {laid : List Element}

theorem overlay_written_of_mem {element : Element} (listed : element ∈ laid)
    (before : Element → Nat → Nat) {year : Nat} (inside : year < study.years) :
    overlay (study.written rules) laid before element year =
      if study.Gives rules element year then rules.numbers (element.cell year) - 1 else before element year := by
  unfold overlay written
  rw [if_pos listed]
  by_cases given : study.Gives rules element year
  · rw [if_pos ⟨inside, given⟩, if_pos given]
    rfl
  · rw [if_neg fun both => given both.2, if_neg given]
    rfl

theorem overlay_written_of_not_mem {element : Element} (absent : element ∉ laid)
    (before : Element → Nat → Nat) (year : Nat) : overlay (study.written rules) laid before element year = before element year :=
  if_neg absent

theorem status_iff {status : Bool} (checked : status = study.elements.all (study.fine rules)) :
    status = false ↔ ∃ element ∈ study.elements, ∃ year < study.years, study.GivesInvalid rules element year := by
  rw [checked, List.all_eq_false]
  constructor
  · intro ⟨element, listed, fails⟩
    exact ⟨element, listed, (study.fine_eq_false_iff rules).mp (Bool.not_eq_true _ ▸ fails)⟩
  · intro ⟨element, listed, invalid⟩
    exact ⟨element, listed, by rw [(study.fine_eq_false_iff rules).mpr invalid]; exact Bool.false_ne_true⟩

theorem applied_overlay_iff (before : Element → Nat → Nat) {status : Bool}
    (checked : status = study.elements.all (study.fine rules)) :
    study.Applied rules before (overlay (study.written rules) laid before) status ↔
      ∀ element ∈ study.elements, element ∉ laid → study.HasGiven rules before element := by
  constructor
  · intro applied element listed absent year inside given
    exact (overlay_written_of_not_mem absent before year).symm.trans (applied.written element listed year inside given)
  · intro missed
    constructor
    · intro element listed year inside given
      by_cases member : element ∈ laid
      · rw [overlay_written_of_mem member before inside, if_pos given]
      · rw [overlay_written_of_not_mem member]
        exact missed element listed member year inside given
    · intro element listed year inside free
      by_cases member : element ∈ laid
      · rw [overlay_written_of_mem member before inside, if_neg free]
      · exact overlay_written_of_not_mem member before year
    · exact status_iff checked

end

theorem ne_bindingConstraints {target : Target} (listed : target ∈ study.targetsOfAreas) (group : Text) :
    target.element ≠ .bindingConstraints group := by
  simp only [targetsOfAreas, loads, solars, hydros, winds, thermals, renewables, linksNTC, List.mem_append, List.mem_map,
    List.mem_flatMap] at listed
  rcases listed with (((⟨_, _, rfl⟩ | ⟨_, _, rfl⟩) | ⟨_, _, rfl⟩) | ⟨_, _, rfl⟩) |
    ⟨_, _, (⟨_, _, rfl⟩ | ⟨_, _, rfl⟩) | ⟨_, _, rfl⟩⟩ <;> exact Element.noConfusion

theorem missed_iff (numbers : Element → Nat → Nat) :
    (∀ element ∈ study.elements, element ∉ study.laid rules → study.HasGiven rules numbers element) ↔
      (study.bindingConstraints.map Target.element).Pairwise fun first second =>
        study.fine rules first = false → study.HasGiven rules numbers second := by
  rw [← reached_or_iff study.bindingConstraints_nodup, elements_eq, laid]
  constructor
  · intro missed element listed absent
    have ofAreas : element ∉ study.targetsOfAreas.map Target.element := by
      intro member
      obtain ⟨target, inAreas, rfl⟩ := List.mem_map.mp member
      obtain ⟨group, inGroups, same⟩ := List.mem_map.mp listed
      obtain ⟨named, -, rfl⟩ := List.mem_map.mp inGroups
      exact study.ne_bindingConstraints inAreas named.1 same.symm
    exact missed element (List.mem_append_right _ listed) fun member => (List.mem_append.mp member).elim ofAreas absent
  · intro missed element listed absent
    obtain ⟨outside, notReached⟩ := not_or.mp (List.mem_append.not.mp absent)
    exact missed element ((List.mem_append.mp listed).resolve_left outside) notReached

/-- The ruleset is applied exactly when nothing that it gives is skipped. -/
theorem apply_applied_iff (state : ScenarioState) :
    study.Applied rules state.numbers (study.apply rules state).1.numbers (study.apply rules state).2 ↔
      study.NothingSkipped rules state.numbers := by
  by_cases none : study.areas = []
  · have nothing : study.apply rules state = (state, false) := if_pos none
    rw [nothing]
    constructor
    · intro applied
      have given (element : Element) (listed : element ∈ study.elements) : study.HasGiven rules state.numbers element :=
        fun year inside gives => applied.written element listed year inside gives
      obtain ⟨element, listed, invalid⟩ := applied.status.mp rfl
      constructor
      · have groups (element : Element) (listed : element ∈ study.bindingConstraints.map Target.element) :=
          given element (study.elements_eq ▸ List.mem_append_right _ listed)
        exact List.pairwise_of_forall_mem_list fun first _ second listed _ => groups second listed
      · exact fun _ => ⟨⟨element, listed, (study.fine_eq_false_iff rules).mpr invalid⟩, given⟩
    · intro skipped
      obtain ⟨⟨element, listed, fails⟩, given⟩ := skipped.areas none
      constructor
      · exact fun element listed year inside gives => given element listed year inside gives
      · exact fun _ _ _ _ _ => rfl
      · exact iff_of_true rfl ⟨element, listed, (study.fine_eq_false_iff rules).mp fails⟩
  · obtain ⟨numbers, status⟩ := study.apply_of_areas rules none state
    rw [numbers, applied_overlay_iff state.numbers status, missed_iff]
    exact ⟨fun groups => ⟨groups, fun empty => absurd empty none⟩, NothingSkipped.groups⟩

def twoGroups : ScenarioStudy where
  areas :=
    [{ loadWidth := 0, solarWidth := 0, windWidth := 0, hydroWidth := 0
       thermalMapping := [], renewableList := [], links := [] }]
  parameters :=
    { nbYears := 1, derated := false, userPlaylist := false, yearsFilter := fun _ => true
      timeSeriesToGenerate := fun _ => false, timeSeriesToRefresh := fun _ => false, refreshInterval := fun _ => 1
      nbTimeSeries := fun _ => 1, intraModal := fun _ => false, interModal := fun _ => false
      renewableGeneration := .rgAggregated, ncMode := .ncMin
      nbYears_le := one_le_maximumMCYears
      refreshInterval_pos := fun _ => Nat.one_pos
      filter_of_no_playlist := fun _ _ => rfl }
  groups := [(['a'], 1), (['b'], 2)]
  groupsSorted := by decide
  years := 1
  years_le := Nat.le_refl 1

def secondSeries : Ruleset where
  numbers
    | .bindingConstraints _ _ => 2
    | _ => 0
  hydroLevels := fun _ _ => none

/-- An invalid number of the first group keeps the second one from its own. -/
theorem apply_skips_secondGroup : ¬twoGroups.Applied secondSeries (fun _ _ => 0)
    (twoGroups.apply secondSeries ⟨fun _ _ => 0, fun _ _ => none⟩).1.numbers
    (twoGroups.apply secondSeries ⟨fun _ _ => 0, fun _ _ => none⟩).2 := by
  intro applied
  have listed : Element.bindingConstraints ['b'] ∈ twoGroups.elements := by decide +kernel
  have given : twoGroups.Gives secondSeries (.bindingConstraints ['b']) 0 := by decide +kernel
  have written := applied.written _ listed 0 Nat.one_pos given
  exact absurd written (by decide +kernel)

end ScenarioStudy

end Antares.ScenarioBuilder
