import Antares.GeneralData.Load

/-! What the keys of the general data leave as it was: the size of the tables of the years, and the fields
that no key sets.
-/

set_option autoImplicit false

namespace Antares.GeneralData

open Library Data

variable {F : Type}

structure Leftovers where
  noOutput : Bool
  spillageBound : Bool
  totalMaxColumnsCount : Nat
  numberSelectedAreaVariables : Nat
  numberSelectedLinkVariables : Nat
  /-- `enable-first-step` -/
  firstStep : Bool

namespace Parameters

variable (d : Parameters F)

def leftovers : Leftovers where
  noOutput := d.noOutput
  spillageBound := d.spillageBound
  totalMaxColumnsCount := d.variablesPrintInfo.totalMaxColumnsCount
  numberSelectedAreaVariables := d.variablesPrintInfo.numberSelectedAreaVariables
  numberSelectedLinkVariables := d.variablesPrintInfo.numberSelectedLinkVariables
  firstStep := d.adqPatchParams.localMatching.enabled

def withLeftovers (leftovers : Leftovers) : Parameters F :=
  { d with
    noOutput := leftovers.noOutput
    spillageBound := leftovers.spillageBound
    variablesPrintInfo := {
      allVarsPrintInfo := d.variablesPrintInfo.allVarsPrintInfo
      totalMaxColumnsCount := leftovers.totalMaxColumnsCount
      numberSelectedAreaVariables := leftovers.numberSelectedAreaVariables
      numberSelectedLinkVariables := leftovers.numberSelectedLinkVariables }
    adqPatchParams := { d.adqPatchParams with
      localMatching := { d.adqPatchParams.localMatching with enabled := leftovers.firstStep } } }

/-- What decides the years of a simulation, with the sizes of their tables. -/
def playlistShape : Nat × Nat × Nat × Bool × Bool :=
  (d.nbYears, d.yearsFilter.length, d.yearsWeight.length, d.derated, d.userPlaylist)

structure Sized (d : Parameters F) : Prop where
  filter : d.yearsFilter.length = d.nbYears
  weight : d.yearsWeight.length = d.nbYears

end Parameters

variable (handler : Handler F)

def Handler.Blind : Prop :=
  ∀ (leftovers : Leftovers) (value rawvalue : Text) (d : Parameters F),
    handler value rawvalue (d.withLeftovers leftovers) =
      (handler value rawvalue d).map fun after => (after.1.withLeftovers leftovers, after.2)

def Handler.Keeps : Prop :=
  ∀ (value rawvalue : Text) (d : Parameters F), d.Sized →
    ∃ after, handler value rawvalue d = some after ∧ after.1.playlistShape = d.playlistShape

structure Handler.Ordinary (handler : Handler F) : Prop where
  blind : handler.Blind
  keeps : handler.Keeps

structure Local {α : Type} (set : α → Parameters F → Parameters F) : Prop where
  blind : ∀ (leftovers : Leftovers) (a : α) (d : Parameters F),
    set a (d.withLeftovers leftovers) = (set a d).withLeftovers leftovers
  keeps : ∀ (a : α) (d : Parameters F), (set a d).playlistShape = d.playlistShape

section Ordinary
variable {α : Type}

theorem ordinary_of_local {set : α → Parameters F → Parameters F} (field : Local set) (read : Text → Text → α)
    (ok : Text → Text → Bool) :
    Handler.Ordinary (fun value rawvalue d => some (set (read value rawvalue) d, ok value rawvalue) : Handler F) where
  blind leftovers value rawvalue _ := by
    dsimp only
    rw [field.blind]
    rfl
  keeps _ _ d _ := ⟨_, rfl, field.keeps _ d⟩

theorem ordinary_setBool {set : Bool → Parameters F → Parameters F}
    (field : Local set) : Handler.Ordinary (setBool set) :=
  ordinary_of_local field (fun value _ => IniFile.toBool value) fun _ _ => true

variable {set : Nat → Parameters F → Parameters F}

theorem ordinary_setUint
    (field : Local set) : Handler.Ordinary (setUint set) :=
  ordinary_of_local field (fun value _ => (toUint value).1) fun value _ => (toUint value).2

theorem ordinary_setInt {set : Int → Parameters F → Parameters F}
    (field : Local set) : Handler.Ordinary (setInt set) :=
  ordinary_of_local field (fun value _ => (toInt value).1) fun value _ => (toInt value).2

theorem ordinary_setDouble {set : Text.Double → Parameters F → Parameters F}
    (field : Local set) : Handler.Ordinary (setDouble set) :=
  ordinary_of_local field (fun value _ => (IniFile.toDouble value).1) fun value _ => (IniFile.toDouble value).2

theorem ordinary_setTimeSeries {set : TimeSeriesSet → Parameters F → Parameters F}
    (field : Local set) : Handler.Ordinary (setTimeSeries set) :=
  ordinary_of_local field (fun value _ => convertCStrToListTimeSeries value) fun _ _ => true

theorem ordinary_setDay {set : DayOfTheWeek → Parameters F → Parameters F}
    (field : Local set) : Handler.Ordinary (setDay set) :=
  ordinary_of_local field (fun value _ => (stringToDayOfTheWeek value).1) fun value _ => (stringToDayOfTheWeek value).2

variable {convert : Text → Option α}

theorem ordinary_setOrReset {default : α} {set : α → Parameters F → Parameters F}
    (field : Local set) : Handler.Ordinary (setOrReset convert default set) :=
  ordinary_of_local field (fun value _ => (convert value).getD default) fun value _ => (convert value).isSome

theorem ordinary_unchanged (ok : Bool) : Handler.Ordinary (fun _ _ d => some (d, ok) : Handler F) where
  blind _ _ _ _ := rfl
  keeps _ _ _ _ := ⟨_, rfl, rfl⟩

theorem ordinary_setIfKnown {set : α → Parameters F → Parameters F}
    (field : Local set) : Handler.Ordinary (setIfKnown convert set) where
  blind leftovers value rawvalue d := by
    unfold setIfKnown
    cases convert value with
    | none => rfl
    | some known =>
      dsimp only
      rw [field.blind]
      rfl
  keeps value rawvalue d _ := by
    unfold setIfKnown
    cases convert value with
    | none => exact ⟨_, rfl, rfl⟩
    | some known => exact ⟨_, rfl, field.keeps known d⟩

theorem ordinary_setSimulationDay (field : Local set) :
    Handler.Ordinary (setSimulationDay set) where
  blind leftovers value rawvalue d := by
    unfold setSimulationDay
    split
    · rw [field.blind]
      rfl
    · rfl
  keeps value rawvalue d _ := by
    unfold setSimulationDay
    split
    · exact ⟨_, rfl, field.keeps _ d⟩
    · exact ⟨_, rfl, rfl⟩

end Ordinary

section Tables

def yearsKeys : List (String × String) :=
  [("general", "nbyears"), ("general", "derated"), ("general", "user-playlist"), ("playlist", "playlist_year_weight")]

def firstStepKey : String × String := ("adequacy patch", "enable-first-step")

/-- A key of a section is like the others, unless it is one of the five. -/
structure Regular (name : String × String) (handler : Handler F) : Prop where
  blind : name = firstStepKey ∨ handler.Blind
  keeps : name ∈ yearsKeys ∨ handler.Keeps

theorem Regular.of_ordinary {handler : Handler F} (ordinary : handler.Ordinary) {name : String × String} :
    Regular name handler :=
  ⟨.inr ordinary.blind, .inr ordinary.keeps⟩

theorem ordinary_input : ∀ entry ∈ (SGDIntLoadFamily_Input : List (String × Handler F)), entry.2.Ordinary := by
  simp only [SGDIntLoadFamily_Input, List.forall_mem_cons]
  exact ⟨ordinary_setTimeSeries ⟨fun _ _ _ => rfl, fun _ _ => rfl⟩, fun _ none => absurd none List.not_mem_nil⟩

theorem ordinary_output : ∀ entry ∈ (SGDIntLoadFamily_Output : List (String × Handler F)), entry.2.Ordinary := by
  simp only [SGDIntLoadFamily_Output, List.forall_mem_cons]
  refine ⟨ordinary_setTimeSeries ?_, ordinary_setBool ?_, ordinary_setBool ?_, ordinary_setBool ?_, ordinary_setOrReset ?_,
    fun _ none => absurd none List.not_mem_nil⟩ <;>
    exact ⟨fun _ _ _ => rfl, fun _ _ => rfl⟩

theorem ordinary_setInclude {set : Bool → IncludeOptions → IncludeOptions} :
    Handler.Ordinary (F := F) (setInclude set) :=
  ordinary_setBool ⟨fun _ _ _ => rfl, fun _ _ => rfl⟩

theorem ordinary_setReserve {set : Bool → Reserve → Reserve} : Handler.Ordinary (F := F) (setReserve set) :=
  ordinary_setInclude

theorem ordinary_simplexRange : Handler.Ordinary (fun value _ d =>
    some ({ d with simplexOptimizationRange := toSimplexOptimization value }, true) : Handler F) :=
  @ordinary_of_local F SimplexOptimization (fun range d => { d with simplexOptimizationRange := range })
    ⟨fun _ _ _ => rfl, fun _ _ => rfl⟩ (fun value _ => toSimplexOptimization value) fun _ _ => true

theorem ordinary_optimization :
    ∀ entry ∈ (SGDIntLoadFamily_Optimization : List (String × Handler F)), entry.2.Ordinary := by
  simp only [SGDIntLoadFamily_Optimization, List.forall_mem_cons]
  refine ⟨ordinary_setInclude, ordinary_setInclude, ordinary_unchanged true, ordinary_setInclude, ordinary_setInclude,
    ordinary_setReserve, ordinary_setReserve, ordinary_setReserve, ordinary_setReserve, ordinary_setOrReset ?_,
    ordinary_setInclude, ordinary_setOrReset ?_, ordinary_simplexRange, ordinary_setIfKnown ?_, ordinary_setBool ?_,
    fun _ none => absurd none List.not_mem_nil⟩ <;>
    exact ⟨fun _ _ _ => rfl, fun _ _ => rfl⟩

theorem ordinary_otherPreferences :
    ∀ entry ∈ (SGDIntLoadFamily_OtherPreferences : List (String × Handler F)), entry.2.Ordinary := by
  simp only [SGDIntLoadFamily_OtherPreferences, List.forall_mem_cons]
  refine ⟨ordinary_setOrReset ?_, ordinary_setOrReset ?_, ordinary_setOrReset ?_, ordinary_setOrReset ?_, ordinary_setOrReset ?_,
    ordinary_setIfKnown ?_, ordinary_setOrReset ?_, ordinary_setOrReset ?_, fun _ none => absurd none List.not_mem_nil⟩ <;>
    exact ⟨fun _ _ _ => rfl, fun _ _ => rfl⟩

theorem ordinary_advancedParameters :
    ∀ entry ∈ (SGDIntLoadFamily_AdvancedParameters : List (String × Handler F)), entry.2.Ordinary := by
  simp only [SGDIntLoadFamily_AdvancedParameters, List.forall_mem_cons]
  exact ⟨ordinary_setTimeSeries ⟨fun _ _ _ => rfl, fun _ _ => rfl⟩, fun _ none => absurd none List.not_mem_nil⟩

theorem ordinary_selectVariable (selected : Bool) : Handler.Ordinary (F := F) (selectVariable selected) where
  blind leftovers value rawvalue d := by
    have same : (d.withLeftovers leftovers).variablesPrintInfo.exists value = d.variablesPrintInfo.exists value := rfl
    unfold selectVariable
    rw [same]
    split <;> rfl
  keeps value rawvalue d _ := by
    unfold selectVariable
    split <;> exact ⟨_, rfl, rfl⟩

theorem ordinary_variablesSelection :
    ∀ entry ∈ (SGDIntLoadFamily_VariablesSelection : List (String × Handler F)), entry.2.Ordinary := by
  simp only [SGDIntLoadFamily_VariablesSelection, List.forall_mem_cons]
  exact ⟨ordinary_setBool ⟨fun _ _ _ => rfl, fun _ _ => rfl⟩, ordinary_selectVariable true, ordinary_selectVariable false,
    fun _ none => absurd none List.not_mem_nil⟩

theorem ordinary_setSeed (index : SeedIndex) : Handler.Ordinary (F := F) (setSeed index) :=
  ordinary_setUint ⟨fun _ _ _ => rfl, fun _ _ => rfl⟩

theorem ordinary_seeds :
    ∀ entry ∈ (SGDIntLoadFamily_SeedsMersenneTwister : List (String × Handler F)), entry.2.Ordinary := by
  simp only [SGDIntLoadFamily_SeedsMersenneTwister, List.forall_mem_cons]
  exact ⟨ordinary_setSeed _, ordinary_setSeed _, ordinary_setSeed _, ordinary_setSeed _, ordinary_setSeed _,
    ordinary_setSeed _, ordinary_setSeed _, ordinary_setSeed _, ordinary_setSeed _, ordinary_setSeed _,
    ordinary_setSeed _, ordinary_setSeed _, ordinary_setSeed _, ordinary_setSeed _, ordinary_setSeed _,
    ordinary_setSeed _, ordinary_setSeed _, fun _ none => absurd none List.not_mem_nil⟩

theorem ordinary_legacy (version : Nat) :
    ∀ entry ∈ (SGDIntLoadFamily_Legacy version : List (String × Handler F)), entry.2.Ordinary := by
  simp only [SGDIntLoadFamily_Legacy, List.forall_mem_cons]
  refine ⟨ordinary_setTimeSeries ?_, ordinary_setBool ?_, ?_, ordinary_unchanged true, ordinary_unchanged true,
    ordinary_unchanged true, ordinary_unchanged true, ordinary_unchanged true, ordinary_unchanged true,
    fun _ none => absurd none List.not_mem_nil⟩
  · exact ⟨fun _ _ _ => rfl, fun _ _ => rfl⟩
  · exact ⟨fun _ _ _ => rfl, fun _ _ => rfl⟩
  split
  · exact ordinary_setBool ⟨fun _ _ _ => rfl, fun _ _ => rfl⟩
  · exact ordinary_unchanged false

theorem regular_adqPatch : ∀ entry ∈ (SGDIntLoadFamily_AdqPatch : List (String × Handler F)),
    Regular ("adequacy patch", entry.1) entry.2 := by
  simp only [SGDIntLoadFamily_AdqPatch, List.forall_mem_cons]
  refine ⟨.of_ordinary (ordinary_setBool ?_), .of_ordinary (ordinary_setIfKnown ?_), .of_ordinary (ordinary_setBool ?_),
    .of_ordinary (ordinary_setBool ?_), .of_ordinary (ordinary_setDouble ?_), .of_ordinary (ordinary_setDouble ?_),
    .of_ordinary (ordinary_setInt ?_), .of_ordinary (ordinary_setBool ?_), .of_ordinary (ordinary_setBool ?_),
    ⟨.inl rfl, .inr fun _ _ _ _ => ⟨_, rfl, rfl⟩⟩, fun _ none => absurd none List.not_mem_nil⟩ <;>
    exact ⟨fun _ _ _ => rfl, fun _ _ => rfl⟩

theorem blind_of_setBool {set : Bool → Parameters F → Parameters F}
    (field : ∀ (leftovers : Leftovers) (b : Bool) (d : Parameters F),
      set b (d.withLeftovers leftovers) = (set b d).withLeftovers leftovers) : Handler.Blind (setBool set) := by
  intro leftovers value rawvalue d
  unfold setBool
  rw [field]
  rfl

variable (floats : Floats F)

theorem blind_setNbYears : Handler.Blind (setNbYears floats) := by
  intro leftovers value rawvalue d
  unfold setNbYears
  split <;> rfl

theorem regular_general : ∀ entry ∈ SGDIntLoadFamily_General floats,
    Regular ("general", entry.1) entry.2 := by
  simp only [SGDIntLoadFamily_General, List.forall_mem_cons]
  refine ⟨.of_ordinary ?activeRules, .of_ordinary (ordinary_setBool ?_), ⟨.inr ?derated, .inl (by decide)⟩,
    .of_ordinary (ordinary_setIfKnown ?_), .of_ordinary (ordinary_setDay ?_), .of_ordinary (ordinary_setBool ?_),
    .of_ordinary (ordinary_setTimeSeries ?_), .of_ordinary ?horizon, .of_ordinary (ordinary_setTimeSeries ?_),
    .of_ordinary (ordinary_setTimeSeries ?_), .of_ordinary (ordinary_unchanged true), .of_ordinary (ordinary_setDay ?_),
    .of_ordinary (ordinary_setBool ?_), .of_ordinary (ordinary_setIfKnown ?_), ⟨.inr (blind_setNbYears floats), .inl (by decide)⟩,
    .of_ordinary (ordinary_setUint ?_), .of_ordinary (ordinary_setUint ?_), .of_ordinary (ordinary_setUint ?_),
    .of_ordinary (ordinary_setUint ?_), .of_ordinary (ordinary_setUint ?_), .of_ordinary (ordinary_setUint ?_),
    .of_ordinary (ordinary_setUint ?_), .of_ordinary (ordinary_setUint ?_), .of_ordinary (ordinary_setUint ?_),
    .of_ordinary (ordinary_setUint ?_), .of_ordinary (ordinary_setTimeSeries ?_), .of_ordinary (ordinary_setBool ?_),
    .of_ordinary (ordinary_setSimulationDay ?_), .of_ordinary (ordinary_setSimulationDay ?_), .of_ordinary (ordinary_setBool ?_),
    ⟨.inr ?userPlaylist, .inl (by decide)⟩, .of_ordinary (ordinary_setBool ?_), fun _ none => absurd none List.not_mem_nil⟩
  case activeRules =>
    exact @ordinary_of_local F Text (fun name d => { d with activeRulesScenario := name })
      ⟨fun _ _ _ => rfl, fun _ _ => rfl⟩ (fun value _ => value.take 64) fun _ _ => true
  case derated => exact blind_of_setBool fun _ _ _ => rfl
  case horizon =>
    exact @ordinary_of_local F Text (fun text d => { d with horizon := text }) ⟨fun _ _ _ => rfl, fun _ _ => rfl⟩
      (fun _ rawvalue => Text.trim isBlank rawvalue) fun _ _ => true
  case userPlaylist => exact blind_of_setBool fun _ _ _ => rfl
  all_goals exact ⟨fun _ _ _ => rfl, fun _ _ => rfl⟩

theorem setAt_eq_some {α : Type} {table : List α} {year : Nat} (value : α) (inside : year < table.length) :
    setAt table year value = some (table.set year value) := if_pos inside

theorem ordinary_selectYear (selected : Bool) : Handler.Ordinary (F := F) (selectYear selected) where
  blind leftovers value rawvalue d := by
    have years : (d.withLeftovers leftovers).nbYears = d.nbYears := rfl
    have filter : (d.withLeftovers leftovers).yearsFilter = d.yearsFilter := rfl
    unfold selectYear
    rw [years, filter]
    split_ifs
    · rw [Option.map_map]
      rfl
    · rfl
    · rfl
  keeps value rawvalue d sized := by
    unfold selectYear
    split_ifs with read within
    · have place : setAt d.yearsFilter (toUint value).1 selected = _ := setAt_eq_some selected (by rw [sized.filter]; exact within)
      rw [place]
      exact ⟨_, rfl, by simp [Parameters.playlistShape]⟩
    · exact ⟨_, rfl, rfl⟩
    · exact ⟨_, rfl, rfl⟩

theorem ordinary_playlistReset : Handler.Ordinary (fun value _ d =>
    (resetFilter d.yearsFilter (IniFile.toBool value) d.nbYears).map fun yearsFilter =>
      ({ d with yearsFilter }, true) : Handler F) where
  blind leftovers value rawvalue d := by
    have years : (d.withLeftovers leftovers).nbYears = d.nbYears := rfl
    have filter : (d.withLeftovers leftovers).yearsFilter = d.yearsFilter := rfl
    dsimp only
    rw [years, filter, Option.map_map]
    rfl
  keeps value rawvalue d sized := by
    have whole : resetFilter d.yearsFilter (IniFile.toBool value) d.nbYears = _ := if_pos sized.filter.ge
    dsimp only
    rw [whole]
    exact ⟨_, rfl, by simp [Parameters.playlistShape, sized.filter]⟩

theorem blind_weighYear : Handler.Blind (weighYear floats) := by
  intro leftovers value rawvalue d
  have years : (d.withLeftovers leftovers).nbYears = d.nbYears := rfl
  have weight : (d.withLeftovers leftovers).yearsWeight = d.yearsWeight := rfl
  unfold weighYear
  rw [years, weight]
  cases yearAndWeight floats value with
  | none => rfl
  | some read =>
    dsimp only
    split_ifs
    · rfl
    · rw [Option.map_map]
      rfl

theorem regular_playlist : ∀ entry ∈ SGDIntLoadFamily_Playlist floats,
    Regular ("playlist", entry.1) entry.2 := by
  simp only [SGDIntLoadFamily_Playlist, List.forall_mem_cons]
  exact ⟨.of_ordinary ordinary_playlistReset, .of_ordinary (ordinary_selectYear true),
    .of_ordinary (ordinary_selectYear false), ⟨.inr (blind_weighYear floats), .inl (by decide)⟩,
    fun _ none => absurd none List.not_mem_nil⟩

theorem regular_sections : ∀ entry ∈ sectionAssociatedToKeysProcess floats,
    ∀ handler ∈ entry.2, Regular (entry.1, handler.1) handler.2 := by
  have ordinary {table : List (String × Handler F)} (all : ∀ entry ∈ table, entry.2.Ordinary) (name : String) :
      ∀ handler ∈ table, Regular (name, handler.1) handler.2 := fun handler member => .of_ordinary (all handler member)
  simp only [sectionAssociatedToKeysProcess, List.forall_mem_cons]
  exact ⟨regular_general floats, ordinary ordinary_input _, ordinary ordinary_output _,
    ordinary ordinary_optimization _, regular_adqPatch, ordinary ordinary_otherPreferences _,
    ordinary ordinary_advancedParameters _, regular_playlist floats, ordinary ordinary_variablesSelection _,
    ordinary ordinary_seeds _, fun _ none => absurd none List.not_mem_nil⟩

end Tables

end Antares.GeneralData
