import Antares.GeneralData.Playlist

/-! The years that loading ends with, whatever the lines and the options are. -/

set_option autoImplicit false

namespace Antares.GeneralData

open Library Data

variable {F : Type}

structure Parameters.Valid (d : Parameters F) (options : StudyLoadOptions) : Prop where
  bounded : d.nbYears ≤ maximumMCYears
  filter : d.nbYears ≤ d.yearsFilter.length
  weight : d.yearsWeight.length = d.nbYears
  effective : options.usedByTheSolver = true →
    d.effectiveNbYears = (d.yearsFilter.take d.nbYears).count true

def Parameters.years (d : Parameters F) : Nat × List Bool × List F × Nat :=
  (d.nbYears, d.yearsFilter, d.yearsWeight, d.effectiveNbYears)

theorem Parameters.Valid.of_years {d after : Parameters F} {options : StudyLoadOptions} (same : after.years = d.years) :
    after.Valid options ↔ d.Valid options := by
  simp only [Parameters.years, Prod.mk.injEq] at same
  obtain ⟨nbYears, filter, weight, effective⟩ := same
  constructor
  · rintro ⟨bounded, inside, sized, counted⟩
    rw [nbYears, filter, weight, effective] at *
    exact ⟨bounded, inside, sized, counted⟩
  · rintro ⟨bounded, inside, sized, counted⟩
    rw [← nbYears, ← filter, ← weight, ← effective] at *
    exact ⟨bounded, inside, sized, counted⟩

namespace Parameters

section Finish
variable (floats : Floats F) (options : StudyLoadOptions) (d : Parameters F)

def force : Parameters F := ((d.forceYears floats options).forceMode options).applyOptions options

def settle : Parameters F := (((d.force floats options).fixBadValues floats).fixRefreshIntervals).fixGenRefreshForNTC

def exportMPS : Parameters F :=
  if options.mpsToExport || options.namedProblems then
    { d with «include» := { d.include with exportMPS := .exportBothOptims } }
  else d

theorem finish_eq : d.finish floats options =
    (if options.usedByTheSolver then (d.settle floats options).prepareForSimulation options
      else some (d.settle floats options)).map fun d => d.exportMPS options := rfl

theorem exportMPS_years : (d.exportMPS options).years = d.years := by
  unfold exportMPS
  split <;> rfl

theorem forceMode_shape : (d.forceMode options).years = d.years ∧ (d.forceMode options).derated = d.derated ∧
    (d.forceMode options).userPlaylist = d.userPlaylist := by
  have set (d : Parameters F) (mode : StudyMode) : (d.setMode mode).years = d.years ∧
      (d.setMode mode).derated = d.derated ∧ (d.setMode mode).userPlaylist = d.userPlaylist := by
    unfold setMode
    split <;> exact ⟨rfl, rfl, rfl⟩
  unfold forceMode
  split
  · exact set d d.mode
  · obtain ⟨years, derated, playlist⟩ := set (d.setMode d.mode) options.forceMode
    obtain ⟨years', derated', playlist'⟩ := set d d.mode
    exact ⟨years.trans years', derated.trans derated', playlist.trans playlist'⟩

def requested : Nat := if options.nbYears = 0 then d.nbYears else options.nbYears

theorem force_derated : (d.force floats options).derated = (d.derated || options.forceDerated) := by
  have same : (d.forceYears floats options).derated = d.derated := by
    unfold forceYears
    split <;> rfl
  dsimp only [force, applyOptions]
  rw [(forceMode_shape options _).2.1, same]

theorem force_userPlaylist : (d.force floats options).userPlaylist = d.userPlaylist := by
  have same : (d.forceYears floats options).userPlaylist = d.userPlaylist := by
    unfold forceYears
    split <;> rfl
  dsimp only [force, applyOptions]
  rw [(forceMode_shape options _).2.2, same]

theorem length_resize {α : Type} (table : List α) (size : Nat) (value : α) : (resize table size value).length = size := by
  simp only [resize, List.length_append, List.length_take, List.length_replicate]
  omega

theorem force_sized {d : Parameters F} (sized : d.Sized) :
    (d.force floats options).nbYears = d.requested options ∧
      d.requested options ≤ (d.force floats options).yearsFilter.length ∧
      (d.force floats options).yearsWeight.length = d.requested options := by
  have same : (d.force floats options).years = (d.forceYears floats options).years :=
    (forceMode_shape options (d.forceYears floats options)).1
  simp only [years, Prod.mk.injEq] at same
  rw [same.1, same.2.1, same.2.2.1]
  unfold forceYears requested
  split
  · exact ⟨rfl, sized.filter.ge, sized.weight⟩
  · refine ⟨rfl, ?_, length_resize _ _ _⟩
    dsimp only
    split
    · rw [length_resize]
    · rw [sized.filter]
      omega

theorem settle_derated (derated : (d.derated || options.forceDerated) = true) :
    (d.settle floats options).derated = true ∧ (d.settle floats options).nbYears = 1 ∧
      (d.settle floats options).yearsFilter = [true] ∧ (d.settle floats options).yearsWeight = [floats.one] := by
  rw [← force_derated floats] at derated
  dsimp only [settle, fixGenRefreshForNTC, fixRefreshIntervals, fixBadValues]
  rw [if_pos derated]
  exact ⟨derated, rfl, rfl, rfl⟩

theorem settle_other (other : (d.derated || options.forceDerated) = false) (sized : d.Sized) :
    (d.settle floats options).derated = false ∧ (d.settle floats options).userPlaylist = d.userPlaylist ∧
      (d.settle floats options).nbYears = min (d.requested options) maximumMCYears ∧
      d.requested options ≤ (d.settle floats options).yearsFilter.length ∧
      (d.settle floats options).yearsWeight.length = d.requested options := by
  obtain ⟨number, filter, weight⟩ := force_sized floats options sized
  rw [← force_derated floats] at other
  have playlist := force_userPlaylist floats options d
  dsimp only [settle, fixGenRefreshForNTC, fixRefreshIntervals, fixBadValues]
  rw [if_neg (by simp [other]), number]
  split_ifs with above
  · exact ⟨other, playlist, (Nat.min_eq_right above.le).symm, filter, weight⟩
  · refine ⟨other, playlist, ?_, filter, weight⟩
    rw [number, Nat.min_eq_left (Nat.le_of_not_lt above)]

theorem prepareForSimulation_years {prepared : Parameters F} :
    d.prepareForSimulation options = some prepared →
      ∃ played, d.prepareModes.prepareYears = some played ∧ prepared.years = played.years := by
  intro done
  obtain ⟨played, counted, rfl⟩ := Option.map_eq_some_iff.mp done
  refine ⟨played, counted, ?_⟩
  dsimp only [prepareImport, prepareSeries, years]
  split <;> rfl

/-- The tables have a place for each year, and no more years than there may be. -/
structure Inside : Prop where
  bounded : d.nbYears ≤ maximumMCYears
  filter : d.nbYears ≤ d.yearsFilter.length
  weight : d.yearsWeight.length = d.nbYears

theorem valid_prepareYears_iff : (∃ played, d.prepareYears = some played ∧ played.Valid options) ↔
    d.Inside ∧ (d.userPlaylist = true → d.yearsWeight ≠ []) := by
  unfold prepareYears
  constructor
  · rintro ⟨played, counted, valid⟩
    split_ifs at counted with playlist inside
    · cases counted
      exact ⟨⟨valid.bounded, valid.filter, valid.weight⟩, fun _ => inside.2⟩
    · cases counted
      have filter := valid.filter
      dsimp only at filter
      rw [List.length_replicate] at filter
      exact ⟨⟨valid.bounded, filter, valid.weight⟩, fun on => absurd on playlist⟩
  · rintro ⟨inside, some_weight⟩
    split_ifs with playlist all
    · exact ⟨_, rfl, inside.bounded, inside.filter, inside.weight, fun _ => rfl⟩
    · exact absurd ⟨inside.filter, some_weight playlist⟩ all
    · refine ⟨_, rfl, inside.bounded, ?_, inside.weight, fun _ => ?_⟩
      · dsimp only
        rw [List.length_replicate]
        exact inside.filter
      · dsimp only
        rw [List.take_replicate, List.count_replicate_self, Nat.min_eq_left inside.filter]

theorem valid_settled_iff :
    (∃ result, ((if options.usedByTheSolver then d.prepareForSimulation options else some d).map
        fun d => d.exportMPS options) = some result ∧ result.Valid options) ↔
      d.Inside ∧ (options.usedByTheSolver = true → (d.userPlaylist && !d.derated) = true → d.yearsWeight ≠ []) := by
  cases used : options.usedByTheSolver with
  | false =>
    simp only [Bool.false_eq_true, if_false, Option.map_some, Option.some.injEq, exists_eq_left', false_implies, and_true]
    rw [Valid.of_years (exportMPS_years options d)]
    exact ⟨fun valid => ⟨valid.bounded, valid.filter, valid.weight⟩, fun inside =>
      ⟨inside.bounded, inside.filter, inside.weight, fun on => by simp [used] at on⟩⟩
  | true =>
    have played := valid_prepareYears_iff options d.prepareModes
    have inside : d.prepareModes.Inside ↔ d.Inside := ⟨fun ⟨a, b, c⟩ => ⟨a, b, c⟩, fun ⟨a, b, c⟩ => ⟨a, b, c⟩⟩
    rw [inside] at played
    simp only [forall_true_left, if_true]
    refine Iff.trans ?_ played
    constructor
    · rintro ⟨result, done, valid⟩
      obtain ⟨prepared, ready, rfl⟩ := Option.map_eq_some_iff.mp done
      obtain ⟨played, counted, same⟩ := prepareForSimulation_years options d ready
      exact ⟨played, counted, (Valid.of_years ((exportMPS_years options prepared).trans same)).mp valid⟩
    · rintro ⟨played, counted, valid⟩
      obtain ⟨prepared, done⟩ : ∃ prepared, d.prepareForSimulation options = some prepared := by
        unfold prepareForSimulation
        rw [counted]
        exact ⟨_, rfl⟩
      obtain ⟨same_played, counted', same⟩ := prepareForSimulation_years options d done
      obtain rfl : played = same_played := by simpa [counted] using counted'
      rw [done]
      refine ⟨_, rfl, ?_⟩
      exact (Valid.of_years ((exportMPS_years options _).trans same)).mpr valid

theorem valid_finish_iff {d : Parameters F} (sized : d.Sized) (bounded : d.nbYears ≤ maximumMCYears) :
    (∃ result, d.finish floats options = some result ∧ result.Valid options) ↔
      (d.derated || options.forceDerated) = true ∨ (options.nbYears ≤ maximumMCYears ∧
        (options.usedByTheSolver = true → d.userPlaylist = true → d.requested options ≠ 0)) := by
  simp only [finish_eq]
  rw [valid_settled_iff]
  cases derated : d.derated || options.forceDerated with
  | true =>
    obtain ⟨still, number, filter, weight⟩ := settle_derated floats options d derated
    refine iff_of_true ⟨⟨?_, ?_, ?_⟩, fun _ _ => ?_⟩ (.inl rfl)
    · rw [number]
      decide
    · rw [number, filter]
      rfl
    · rw [number, weight]
      rfl
    · rw [weight]
      exact List.cons_ne_nil _ _
  | false =>
    obtain ⟨still, playlist, number, filter, weight⟩ := settle_other floats options d derated sized
    have inside : (d.settle floats options).Inside ↔ options.nbYears ≤ maximumMCYears := by
      have few : d.requested options ≤ maximumMCYears ↔ options.nbYears ≤ maximumMCYears := by
        unfold requested
        split <;> omega
      rw [← few]
      constructor
      · rintro ⟨_, _, same⟩
        rw [number, weight] at same
        omega
      · intro le
        refine ⟨?_, ?_, ?_⟩ <;> omega
    have weighed : (d.settle floats options).yearsWeight ≠ [] ↔ d.requested options ≠ 0 := by
      rw [← weight, Ne, Ne, List.length_eq_zero_iff]
    rw [inside, weighed, still, playlist]
    simp

end Finish

section Load
variable (floats : Floats F) (variableList : List Variable) (ini : List IniFile.Section) (version : Nat)
  (options : StudyLoadOptions) (d : Parameters F)

def isDerated (lines : List Line) : Bool := lastFlag ("general", "derated") lines || options.forceDerated

def requestedYears (lines : List Line) : Nat := if options.nbYears = 0 then yearsInForce lines else options.nbYears

/-- Loading ends with years that a simulation can rely on, and never leaves the tables of the years, if and only
if every weight is for a year that has a place when it is read and, unless the study is derated, no more years
are forced than there may be and a playlist that the solver prepares has some year.
-/
theorem loadFromINI_valid_iff :
    (∃ result, d.loadFromINI floats variableList ini version options = some result ∧ result.Valid options) ↔
      WeighWithin floats (linesOf ini) ∧
        (isDerated options (linesOf ini) = true ∨
          (options.nbYears ≤ maximumMCYears ∧
            (options.usedByTheSolver = true → lastFlag ("general", "user-playlist") (linesOf ini) = true →
              requestedYears options (linesOf ini) ≠ 0))) := by
  have start := follows_reset floats variableList d
  unfold loadFromINI
  rw [foldlM_loadSection]
  have finished (read : Parameters F) (follows : read.Follows (linesOf ini)) :
      (∃ result, read.finish floats options = some result ∧ result.Valid options) ↔
        isDerated options (linesOf ini) = true ∨ (options.nbYears ≤ maximumMCYears ∧
          (options.usedByTheSolver = true → lastFlag ("general", "user-playlist") (linesOf ini) = true →
            requestedYears options (linesOf ini) ≠ 0)) := by
    have bounded : read.nbYears ≤ maximumMCYears := by
      rw [follows.nbYears]
      exact yearsInForce_le _
    rw [valid_finish_iff floats options follows.sized bounded]
    unfold isDerated requestedYears requested
    rw [follows.derated, follows.userPlaylist, follows.nbYears]
  constructor
  · rintro ⟨result, loaded, valid⟩
    obtain ⟨read, ran, done⟩ := Option.bind_eq_some_iff.mp loaded
    have within := start.weighWithin_of_run ran
    obtain ⟨same, ran', follows⟩ := start.run version within
    obtain rfl : read = same := by simpa [ran] using ran'
    exact ⟨within, (finished read follows).mp ⟨result, done, valid⟩⟩
  · rintro ⟨within, condition⟩
    obtain ⟨read, ran, follows⟩ := start.run version within
    rw [ran]
    exact (finished read follows).mpr condition

def wholeNumbers : Floats Nat where
  read text := (Text.digits 10 text 0 0).value
  toUint n := n
  isNegative _ := false
  one := 1

def noOptions : StudyLoadOptions where
  nbYears := 0
  forceYearByYear := false
  forceDerated := false
  noTimeseriesImportIntoInput := false
  mpsToExport := false
  namedProblems := false
  solverLogs := false
  forceMode := .unknown
  usedByTheSolver := false
  ortoolsUsed := false
  ortoolsSolver := []

def secondYearWeighed : List IniFile.Section :=
  [⟨"playlist".toList, [⟨"playlist_year_weight".toList, "1,2".toList⟩]⟩]

theorem secondYearWeighed_leaves :
    (default : Parameters Nat).loadFromINI wholeNumbers [] secondYearWeighed 870 noOptions = none ∧
      ¬ ∃ result, (default : Parameters Nat).loadFromINI wholeNumbers [] secondYearWeighed 870 noOptions = some result ∧
        result.Valid noOptions := by
  have past : ¬ WeighWithin wholeNumbers (linesOf secondYearWeighed) := by
    intro within
    refine within [] _ [] rfl ⟨by decide, 2, ?_, rfl⟩
    decide
  have undefined : (default : Parameters Nat).loadFromINI wholeNumbers [] secondYearWeighed 870 noOptions = none := by
    unfold loadFromINI
    rw [foldlM_loadSection]
    cases ran : (linesOf secondYearWeighed).foldlM (loadLine wholeNumbers 870) ((default : Parameters Nat).reset wholeNumbers []) with
    | none => rfl
    | some after => exact absurd ((follows_reset wholeNumbers [] default).weighWithin_of_run ran) past
  refine ⟨undefined, fun ⟨result, loaded, _⟩ => ?_⟩
  rw [undefined] at loaded
  cases loaded

end Load

end Parameters

end Antares.GeneralData
