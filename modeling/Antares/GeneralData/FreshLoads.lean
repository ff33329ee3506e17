import Antares.GeneralData.LoadedYears

/-! The same general data loaded into two objects: what the object held before. -/

set_option autoImplicit false

namespace Antares.GeneralData

open Library Data

variable {F : Type}

section Reset

def AllVariablesPrintInfo.withCounts (info counts : AllVariablesPrintInfo) : AllVariablesPrintInfo :=
  { counts with allVarsPrintInfo := info.allVarsPrintInfo }

theorem foldl_add_withCounts (variableList : List Variable) (info counts : AllVariablesPrintInfo) :
    variableList.foldl .add (info.withCounts counts) = (variableList.foldl .add info).withCounts counts := by
  induction variableList generalizing info with
  | nil => rfl
  | cons entry others ih =>
    have one : (info.withCounts counts).add entry = (info.add entry).withCounts counts := by
      have same : (info.withCounts counts).exists entry.name = info.exists entry.name := rfl
      unfold AllVariablesPrintInfo.add
      rw [same]
      split <;> rfl
    rw [List.foldl_cons, List.foldl_cons, one, ih]

theorem reset_eq (floats : Floats F) (variableList : List Variable) (first second : Parameters F) :
    second.reset floats variableList =
      (first.reset floats variableList).withLeftovers (second.reset floats variableList).leftovers := by
  have list : variableList.foldl .add second.variablesPrintInfo.clear =
      (variableList.foldl .add first.variablesPrintInfo.clear).withCounts second.variablesPrintInfo :=
    foldl_add_withCounts variableList first.variablesPrintInfo.clear second.variablesPrintInfo
  unfold Parameters.reset
  rw [list]
  rfl

end Reset

section Lines
variable {floats : Floats F} {version : Nat}

def Leftovers.after (leftovers : Leftovers) (lines : List Line) : Leftovers :=
  lines.foldl (fun left line =>
    if line.Is firstStepKey then { left with firstStep := IniFile.toBool (toLower line.value) } else left) leftovers

theorem loadLine_firstStep {line : Line} (here : line.Is firstStepKey) (d : Parameters F) :
    loadLine floats version d line = some { d with
      adqPatchParams := { d.adqPatchParams with
        localMatching := { d.adqPatchParams.localMatching with enabled := IniFile.toBool (toLower line.value) } } } := by
  have inSection : find (sectionAssociatedToKeysProcess floats) "adequacy patch".toList = some SGDIntLoadFamily_AdqPatch := by
    rw [find_toList]
    simp [sectionAssociatedToKeysProcess]
  have found : find (SGDIntLoadFamily_AdqPatch : List (String × Handler F)) "enable-first-step".toList =
      some (setMatching fun b matching => { matching with enabled := b }) := by
    rw [find_toList]
    simp [SGDIntLoadFamily_AdqPatch]
  exact loadLine_eq_of_is here inSection found (by decide) ((find_toList _ _).trans (by simp [SGDIntLoadFamily_Legacy, firstStepKey])) d

theorem loadLine_after (line : Line) (leftovers : Leftovers) (d : Parameters F) :
    loadLine floats version (d.withLeftovers leftovers) line =
      (loadLine floats version d line).map fun read => read.withLeftovers (leftovers.after [line]) := by
  unfold Leftovers.after
  rw [List.foldl_cons, List.foldl_nil]
  split_ifs with here
  · rw [loadLine_firstStep here, loadLine_firstStep here]
    rfl
  · exact loadLine_withLeftovers version here leftovers d

theorem run_withLeftovers (floats : Floats F) (version : Nat) (lines : List Line) (leftovers : Leftovers) (d : Parameters F) :
    lines.foldlM (loadLine floats version) (d.withLeftovers leftovers) =
      (lines.foldlM (loadLine floats version) d).map fun read => read.withLeftovers (leftovers.after lines) := by
  induction lines generalizing leftovers d with
  | nil => rfl
  | cons line lines ih =>
    rw [List.foldlM_cons, List.foldlM_cons, loadLine_after]
    cases loadLine floats version d line with
    | none => rfl
    | some read =>
      simp only [Option.map_some, bind, Option.bind]
      rw [ih]
      rfl

variable {lines : List Line}

theorem run_leftovers {d read : Parameters F}
    (ran : lines.foldlM (loadLine floats version) d = some read) : read.leftovers = d.leftovers.after lines := by
  have again := run_withLeftovers floats version lines d.leftovers d
  have same : d.withLeftovers d.leftovers = d := rfl
  rw [same, ran, Option.map_some, Option.some_inj] at again
  rw [again]
  rfl

theorem firstStep_after_of_some (some_line : ∃ line ∈ lines, line.Is firstStepKey)
    (first second : Leftovers) : (first.after lines).firstStep = (second.after lines).firstStep := by
  induction lines using List.reverseRecOn with
  | nil => simp at some_line
  | append_singleton lines line ih =>
    simp only [Leftovers.after, List.foldl_append, List.foldl_cons, List.foldl_nil]
    split_ifs with here
    · rfl
    · refine ih ?_
      obtain ⟨other, member, isFirst⟩ := some_line
      rcases List.mem_append.mp member with earlier | last
      · exact ⟨other, earlier, isFirst⟩
      · rw [List.mem_singleton.mp last] at isFirst
        exact absurd isFirst here

theorem after_of_none (none_line : ∀ line ∈ lines, ¬ line.Is firstStepKey) (leftovers : Leftovers) :
    leftovers.after lines = leftovers := by
  induction lines with
  | nil => rfl
  | cons line lines ih =>
    rw [List.forall_mem_cons] at none_line
    unfold Leftovers.after
    rw [List.foldl_cons, if_neg none_line.1]
    exact ih none_line.2

end Lines

theorem AllVariablesPrintInfo.prepareForSimulation_withCounts (info counts : AllVariablesPrintInfo) (trimming : Bool)
    (names : List String) : (info.withCounts counts).prepareForSimulation trimming names =
      (info.prepareForSimulation trimming names).withCounts { counts with
        numberSelectedAreaVariables := (info.prepareForSimulation trimming names).numberSelectedAreaVariables
        numberSelectedLinkVariables := (info.prepareForSimulation trimming names).numberSelectedLinkVariables } := by
  have fold (info : AllVariablesPrintInfo) :
      names.foldl (fun info name => info.setPrintStatus name.toList false) (info.withCounts counts) =
        (names.foldl (fun info name => info.setPrintStatus name.toList false) info).withCounts counts := by
    induction names generalizing info with
    | nil => rfl
    | cons name names ih => exact ih (info.setPrintStatus name.toList false)
  unfold prepareForSimulation
  cases trimming with
  | true =>
    dsimp only
    rw [if_pos rfl, if_pos rfl, fold]
    rfl
  | false =>
    have all : (info.withCounts counts).setAllPrintStatusesTo true = (info.setAllPrintStatusesTo true).withCounts counts := rfl
    dsimp only
    rw [if_neg Bool.false_ne_true, if_neg Bool.false_ne_true, all, fold]
    rfl

namespace Parameters

section Finish
variable (floats : Floats F) (options : StudyLoadOptions) (leftovers : Leftovers) (d : Parameters F)

/-- The fields that loading or saving touches, with nothing in the place of the others: only the solver has
the selected variables counted.
-/
def touched : Parameters F :=
  d.withLeftovers { d.leftovers with
    noOutput := false
    spillageBound := false
    totalMaxColumnsCount := 0
    numberSelectedAreaVariables :=
      if options.usedByTheSolver then d.variablesPrintInfo.numberSelectedAreaVariables else 0
    numberSelectedLinkVariables :=
      if options.usedByTheSolver then d.variablesPrintInfo.numberSelectedLinkVariables else 0 }

theorem touched_withLeftovers {leftovers : Leftovers} {d : Parameters F}
    (firstStep : leftovers.firstStep = d.leftovers.firstStep)
    (counted : options.usedByTheSolver = true →
      leftovers.numberSelectedAreaVariables = d.leftovers.numberSelectedAreaVariables ∧
        leftovers.numberSelectedLinkVariables = d.leftovers.numberSelectedLinkVariables) :
    (d.withLeftovers leftovers).touched options = d.touched options := by
  dsimp only [touched, Parameters.leftovers, withLeftovers] at *
  rw [firstStep]
  split_ifs with used
  · rw [(counted used).1, (counted used).2]
  · rfl

theorem settle_withLeftovers : (d.withLeftovers leftovers).settle floats options =
    (d.settle floats options).withLeftovers leftovers := by
  have years (d : Parameters F) : (d.withLeftovers leftovers).forceYears floats options =
      (d.forceYears floats options).withLeftovers leftovers := by
    unfold forceYears
    split <;> rfl
  have set (d : Parameters F) (mode : StudyMode) : (d.withLeftovers leftovers).setMode mode =
      (d.setMode mode).withLeftovers leftovers := by
    unfold setMode
    split <;> rfl
  have mode (d : Parameters F) : (d.withLeftovers leftovers).forceMode options =
      (d.forceMode options).withLeftovers leftovers := by
    unfold forceMode
    have same : (d.withLeftovers leftovers).mode = d.mode := rfl
    rw [same, set]
    split
    · rfl
    · exact set _ _
  have bad (d : Parameters F) : (d.withLeftovers leftovers).fixBadValues floats =
      (d.fixBadValues floats).withLeftovers leftovers := by
    have derated : (d.withLeftovers leftovers).derated = d.derated := rfl
    have number : (d.withLeftovers leftovers).nbYears = d.nbYears := rfl
    unfold fixBadValues
    rw [derated, number]
    split_ifs <;> rfl
  have options_eq (d : Parameters F) : (d.withLeftovers leftovers).applyOptions options =
      (d.applyOptions options).withLeftovers leftovers := rfl
  unfold settle force
  rw [years, mode, options_eq, bad]
  rfl

theorem prepareYears_withLeftovers : (d.withLeftovers leftovers).prepareModes.prepareYears =
    d.prepareModes.prepareYears.map fun played => played.withLeftovers leftovers := by
  have modes : (d.withLeftovers leftovers).prepareModes = d.prepareModes.withLeftovers leftovers := rfl
  rw [modes]
  generalize d.prepareModes = d
  have playlist : (d.withLeftovers leftovers).userPlaylist = d.userPlaylist := rfl
  have number : (d.withLeftovers leftovers).nbYears = d.nbYears := rfl
  have filter : (d.withLeftovers leftovers).yearsFilter = d.yearsFilter := rfl
  have weight : (d.withLeftovers leftovers).yearsWeight = d.yearsWeight := rfl
  unfold prepareYears
  rw [playlist, number, filter, weight]
  split_ifs <;> rfl

def prepareRest : Parameters F := ((d.prepareVariables.prepareYearByYear options).prepareSeries).prepareImport options

theorem prepareForSimulation_eq : d.prepareForSimulation options =
    d.prepareModes.prepareYears.map fun played => played.prepareRest options := rfl

theorem prepareRest_adqPatchParams : (d.prepareRest options).adqPatchParams = d.adqPatchParams := by
  dsimp only [prepareRest, prepareImport, prepareSeries]
  split <;> rfl

theorem prepareVariables_withLeftovers (firstStep : leftovers.firstStep = d.leftovers.firstStep) :
    (d.withLeftovers leftovers).prepareVariables = d.prepareVariables.withLeftovers { leftovers with
      numberSelectedAreaVariables := d.prepareVariables.leftovers.numberSelectedAreaVariables
      numberSelectedLinkVariables := d.prepareVariables.leftovers.numberSelectedLinkVariables } := by
  -- `DENS` is excluded where there is no first step
  have excluded : (d.withLeftovers leftovers).adqPatchParams.excludedVariables = d.adqPatchParams.excludedVariables := by
    dsimp only [withLeftovers, AdqPatchParams.excludedVariables]
    rw [firstStep]
    rfl
  have info (names : List String) := AllVariablesPrintInfo.prepareForSimulation_withCounts d.variablesPrintInfo
    (d.withLeftovers leftovers).variablesPrintInfo d.thematicTrimming names
  have list : d.variablesPrintInfo.withCounts (d.withLeftovers leftovers).variablesPrintInfo =
    (d.withLeftovers leftovers).variablesPrintInfo := rfl
  rw [list] at info
  have trimming : (d.withLeftovers leftovers).thematicTrimming = d.thematicTrimming := rfl
  unfold prepareVariables
  rw [excluded, trimming, info]
  rfl

theorem touched_prepareRest (firstStep : leftovers.firstStep = d.leftovers.firstStep) :
    ((d.withLeftovers leftovers).prepareRest options).touched options = (d.prepareRest options).touched options := by
  have series (d : Parameters F) (leftovers : Leftovers) : (d.withLeftovers leftovers).prepareSeries =
      d.prepareSeries.withLeftovers leftovers := by
    cases generated : allKinds.any d.timeSeriesToGenerate with
    | true =>
      simp only [prepareSeries, withLeftovers, generated, if_true]
      rfl
    | false =>
      simp only [prepareSeries, withLeftovers, generated, Bool.false_eq_true, if_false]
      rfl
  have rest (d : Parameters F) (leftovers : Leftovers) :
      (((d.withLeftovers leftovers).prepareYearByYear options).prepareSeries).prepareImport options =
        (((d.prepareYearByYear options).prepareSeries).prepareImport options).withLeftovers leftovers := by
    have yearByYear : (d.withLeftovers leftovers).prepareYearByYear options =
      (d.prepareYearByYear options).withLeftovers leftovers := rfl
    rw [yearByYear, series]
    rfl
  have counts (d : Parameters F) :
      (((d.prepareYearByYear options).prepareSeries).prepareImport options).variablesPrintInfo = d.variablesPrintInfo := by
    dsimp only [prepareImport, prepareSeries]
    split <;> rfl
  unfold prepareRest
  rw [prepareVariables_withLeftovers leftovers d firstStep, rest]
  refine touched_withLeftovers options ?_ fun _ => ?_
  · have kept := prepareRest_adqPatchParams options d
    dsimp only [Parameters.leftovers, prepareRest] at *
    rw [firstStep, kept]
  · dsimp only [Parameters.leftovers]
    rw [counts]
    exact ⟨rfl, rfl⟩

theorem settle_adqPatchParams : (d.settle floats options).adqPatchParams = d.adqPatchParams := by
  have years (d : Parameters F) : (d.forceYears floats options).adqPatchParams = d.adqPatchParams := by
    unfold forceYears
    split <;> rfl
  have set (d : Parameters F) (mode : StudyMode) : (d.setMode mode).adqPatchParams = d.adqPatchParams := by
    unfold setMode
    split <;> rfl
  have mode (d : Parameters F) : (d.forceMode options).adqPatchParams = d.adqPatchParams := by
    unfold forceMode
    split
    · exact set _ _
    · rw [set, set]
  have bad (d : Parameters F) : (d.fixBadValues floats).adqPatchParams = d.adqPatchParams := by
    unfold fixBadValues
    split_ifs <;> rfl
  have fixed : (d.settle floats options).adqPatchParams = ((d.force floats options).fixBadValues floats).adqPatchParams := rfl
  have applied : (d.force floats options).adqPatchParams = ((d.forceYears floats options).forceMode options).adqPatchParams := rfl
  rw [fixed, bad, applied, mode, years]

theorem exportMPS_adqPatchParams : (d.exportMPS options).adqPatchParams = d.adqPatchParams := by
  unfold exportMPS
  split <;> rfl

theorem touched_exportMPS : (d.exportMPS options).touched options = (d.touched options).exportMPS options := by
  unfold exportMPS
  split <;> rfl

theorem prepareYears_adqPatchParams {d played : Parameters F} (counted : d.prepareModes.prepareYears = some played) :
    played.adqPatchParams = d.adqPatchParams := by
  unfold prepareYears at counted
  split_ifs at counted <;> (cases counted; rfl)

theorem finish_adqPatchParams {d result : Parameters F} (finished : d.finish floats options = some result) :
    result.adqPatchParams = d.adqPatchParams := by
  rw [finish_eq] at finished
  obtain ⟨prepared, ready, rfl⟩ := Option.map_eq_some_iff.mp finished
  rw [exportMPS_adqPatchParams, ← settle_adqPatchParams floats options d]
  split at ready
  · obtain ⟨played, counted, rfl⟩ := Option.map_eq_some_iff.mp ready
    exact (prepareRest_adqPatchParams options played).trans (prepareYears_adqPatchParams counted)
  · cases ready
    rfl

theorem touched_finish (firstStep : leftovers.firstStep = d.leftovers.firstStep) :
    ((d.withLeftovers leftovers).finish floats options).map (touched options) =
      (d.finish floats options).map (touched options) := by
  have kept : leftovers.firstStep = (d.settle floats options).leftovers.firstStep := by
    have same := settle_adqPatchParams floats options d
    dsimp only [Parameters.leftovers] at *
    rw [firstStep, same]
  rw [finish_eq, finish_eq, settle_withLeftovers]
  generalize d.settle floats options = d at *
  rw [Option.map_map, Option.map_map]
  cases used : options.usedByTheSolver with
  | false =>
    simp only [Bool.false_eq_true, if_false, Option.map_some, Function.comp_apply, touched_exportMPS]
    rw [touched_withLeftovers options kept fun on => by simp [used] at on]
  | true =>
    simp only [if_true, prepareForSimulation_eq]
    rw [prepareYears_withLeftovers, Option.map_map, Option.map_map, Option.map_map]
    cases counted : d.prepareModes.prepareYears with
    | none => rfl
    | some played =>
      have still : leftovers.firstStep = played.leftovers.firstStep := by
        have same := prepareYears_adqPatchParams counted
        dsimp only [Parameters.leftovers] at *
        rw [kept, same]
      simp only [Option.map_some, Function.comp_apply, touched_exportMPS]
      rw [touched_prepareRest options leftovers played still]

theorem prepareYears_isSome_iff : d.prepareYears.isSome ↔
    (d.userPlaylist = true → d.nbYears ≤ d.yearsFilter.length ∧ d.yearsWeight ≠ []) := by
  unfold prepareYears
  split_ifs with playlist inside
  · simp [inside]
  · simp only [Option.isSome_none, Bool.false_eq_true, playlist, forall_true_left, false_iff]
    exact inside
  · simp [playlist]

theorem finish_isSome_iff {d : Parameters F} (sized : d.Sized) : (d.finish floats options).isSome ↔
    (options.usedByTheSolver = true → d.userPlaylist = true → (d.derated || options.forceDerated) = false →
      d.requested options ≠ 0) := by
  rw [finish_eq, Option.isSome_map]
  cases used : options.usedByTheSolver with
  | false => simp
  | true =>
    simp only [if_true, forall_true_left]
    rw [prepareForSimulation_eq, Option.isSome_map, prepareYears_isSome_iff]
    dsimp only [prepareModes]
    cases derated : d.derated || options.forceDerated with
    | true =>
      obtain ⟨still, -⟩ := settle_derated floats options d derated
      simp [still]
    | false =>
      obtain ⟨still, playlist, number, filter, weight⟩ := settle_other floats options d derated sized
      have weighed : (d.settle floats options).yearsWeight ≠ [] ↔ d.requested options ≠ 0 := by
        rw [← weight, Ne, Ne, List.length_eq_zero_iff]
      have inside : (d.settle floats options).nbYears ≤ (d.settle floats options).yearsFilter.length := by omega
      rw [still, playlist, weighed]
      simp [inside]

end Finish

section Load
variable (floats : Floats F) (variableList : List Variable) (ini : List IniFile.Section) (version : Nat)
  (options : StudyLoadOptions)

def LoadsWithin (lines : List Line) : Prop :=
  WeighWithin floats lines ∧
    (options.usedByTheSolver = true → lastFlag ("general", "user-playlist") lines = true →
      isDerated options lines = false → requestedYears options lines ≠ 0)

theorem loadFromINI_isSome_iff (d : Parameters F) :
    (d.loadFromINI floats variableList ini version options).isSome ↔ LoadsWithin floats options (linesOf ini) := by
  have start := follows_reset floats variableList d
  unfold loadFromINI LoadsWithin
  rw [foldlM_loadSection]
  constructor
  · intro loaded
    obtain ⟨result, loaded⟩ := Option.isSome_iff_exists.mp loaded
    obtain ⟨read, ran, finished⟩ := Option.bind_eq_some_iff.mp loaded
    have within := start.weighWithin_of_run ran
    obtain ⟨same, ran', follows⟩ := start.run version within
    obtain rfl : read = same := by simpa [ran] using ran'
    have some_years := (finish_isSome_iff floats options follows.sized).mp (by rw [finished]; rfl)
    unfold isDerated requestedYears
    rw [← follows.derated, ← follows.userPlaylist, ← follows.nbYears]
    exact ⟨within, some_years⟩
  · rintro ⟨within, some_years⟩
    obtain ⟨read, ran, follows⟩ := start.run version within
    unfold isDerated requestedYears at some_years
    rw [← follows.derated, ← follows.userPlaylist, ← follows.nbYears] at some_years
    rw [ran]
    exact (finish_isSome_iff floats options follows.sized).mpr some_years

/-- Two loads of the same file end alike, whatever the objects held before, if and only if the file says whether
there is a first step, or has them both leave the tables of the years.
-/
theorem loads_agree_iff :
    (∀ first second : Parameters F,
      (first.loadFromINI floats variableList ini version options).map (touched options) =
        (second.loadFromINI floats variableList ini version options).map (touched options)) ↔
      (∃ line ∈ linesOf ini, line.Is firstStepKey) ∨ ¬ LoadsWithin floats options (linesOf ini) := by
  constructor
  · intro agree
    by_contra neither
    rw [not_or, not_not] at neither
    obtain ⟨none_line, within⟩ := neither
    -- the first step of a loaded object is the one that it had before
    have kept (d result : Parameters F) (loaded : d.loadFromINI floats variableList ini version options = some result) :
        (result.touched options).leftovers.firstStep = d.leftovers.firstStep := by
      unfold loadFromINI at loaded
      rw [foldlM_loadSection] at loaded
      obtain ⟨read, ran, finished⟩ := Option.bind_eq_some_iff.mp loaded
      have left := congrArg Leftovers.firstStep (run_leftovers ran)
      rw [after_of_none fun line member here => none_line ⟨line, member, here⟩] at left
      have same := finish_adqPatchParams floats options finished
      calc (result.touched options).leftovers.firstStep = result.leftovers.firstStep := rfl
        _ = read.leftovers.firstStep := by
          dsimp only [Parameters.leftovers]
          rw [same]
        _ = d.leftovers.firstStep := left
    have : Inhabited F := ⟨floats.one⟩
    have loaded (flag : Bool) : ∃ result, ((default : Parameters F).withLeftovers
        { (default : Parameters F).leftovers with firstStep := flag }).loadFromINI floats variableList ini version options =
          some result :=
      Option.isSome_iff_exists.mp ((loadFromINI_isSome_iff floats variableList ini version options _).mpr within)
    obtain ⟨without, loadedWithout⟩ := loaded false
    obtain ⟨having, loadedWith⟩ := loaded true
    have same := agree (Parameters.withLeftovers default { (default : Parameters F).leftovers with firstStep := false })
      (Parameters.withLeftovers default { (default : Parameters F).leftovers with firstStep := true })
    rw [loadedWithout, loadedWith, Option.map_some, Option.map_some, Option.some_inj] at same
    have off := kept _ _ loadedWithout
    rw [same, kept _ _ loadedWith] at off
    cases off
  · rintro (some_line | outside) first second
    · unfold loadFromINI
      rw [foldlM_loadSection, foldlM_loadSection, reset_eq floats variableList first second, run_withLeftovers]
      cases ran : (linesOf ini).foldlM (loadLine floats version) (first.reset floats variableList) with
      | none => rfl
      | some read =>
        refine (touched_finish floats options _ read ?_).symm
        rw [run_leftovers ran]
        exact firstStep_after_of_some some_line _ _
    · have undefined (d : Parameters F) : d.loadFromINI floats variableList ini version options = none := by
        rw [← Option.not_isSome_iff_eq_none, loadFromINI_isSome_iff]
        exact outside
      rw [undefined, undefined]

/-- Two objects that differ by the first step. -/
theorem emptyFile_keeps_firstStep :
    ¬ ((default : Parameters Nat).loadFromINI wholeNumbers [] [] 870 noOptions).map (touched noOptions) =
      ((default : Parameters Nat).withLeftovers { (default : Parameters Nat).leftovers with firstStep := true }
        |>.loadFromINI wholeNumbers [] [] 870 noOptions).map (touched noOptions) := by
  intro same
  have flags := congrArg (Option.map fun d => d.leftovers.firstStep) same
  have off : (Option.map fun d => d.leftovers.firstStep) (((default : Parameters Nat).loadFromINI wholeNumbers [] [] 870
    noOptions).map (touched noOptions)) = some false := rfl
  rw [off] at flags
  cases flags

end Load

end Parameters

end Antares.GeneralData
