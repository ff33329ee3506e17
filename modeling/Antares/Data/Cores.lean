import Antares.Library.Batching
import Antares.Data.Areas
import Mathlib.Data.List.ModifyLast

/-! `Study::getNumberOfCores`: how many years the study lets run in parallel. The loop
that sizes the sets is compared with greedy batching at the refresh years.
-/

set_option autoImplicit false

namespace Antares.Data

open Library

structure NumberCoresPerLevel where
  min : Nat
  low : Nat
  med : Nat
  high : Nat
  max : Nat
  deriving DecidableEq

/-- `Study::getRawNumberCoresPerLevel`, as a function of the number of logical cores. -/
def getRawNumberCoresPerLevel : Nat → NumberCoresPerLevel
  | 1 => ⟨1, 1, 1, 1, 1⟩
  | 2 => ⟨1, 1, 1, 2, 2⟩
  | 3 => ⟨1, 2, 2, 2, 3⟩
  | 4 => ⟨1, 2, 2, 3, 4⟩
  | 5 => ⟨1, 2, 3, 4, 5⟩
  | 6 => ⟨1, 2, 3, 4, 6⟩
  | 7 => ⟨1, 2, 3, 5, 7⟩
  | 8 => ⟨1, 2, 4, 6, 8⟩
  | 9 => ⟨1, 3, 5, 7, 8⟩
  | 10 => ⟨1, 3, 5, 8, 9⟩
  | 11 => ⟨1, 3, 6, 8, 10⟩
  | 12 => ⟨1, 3, 6, 9, 11⟩
  -- integer forms of ceil(n / 4.), ceil(n / 2.) and ceil(3 * n / 4.)
  | n => ⟨1, (n + 3) / 4, (n + 1) / 2, (3 * n + 3) / 4, n - 1⟩

/-- The machine and the command line: `--force-parallel 0` does not force anything. -/
structure StudyLoadOptions where
  nbLogicalCores : Nat
  forceParallel : Bool
  maxNbYearsInParallel : Nat
  nbLogicalCores_pos : 0 < nbLogicalCores
  forced_pos : forceParallel = true → 0 < maxNbYearsInParallel

variable (mode : NumberOfCoresMode)

def nbYearsParallelRaw (nbLogicalCores : Nat) : Nat :=
  let table := getRawNumberCoresPerLevel nbLogicalCores
  match mode with
  | .ncMin => table.min
  | .ncLow => table.low
  | .ncAvg => table.med
  | .ncHigh => table.high
  | .ncMax => table.max

theorem nbYearsParallelRaw_pos {nbLogicalCores : Nat}
    (positive : 0 < nbLogicalCores) : 0 < nbYearsParallelRaw mode nbLogicalCores := by
  cases mode with
  | ncMax =>
    by_cases single : nbLogicalCores = 1
    · subst single
      decide
    · simp only [nbYearsParallelRaw, getRawNumberCoresPerLevel]
      -- past twelve cores the excluded values are of no use to the arithmetic
      split <;> first | decide | (clear * - positive single; dsimp only; omega)
  | _ =>
    simp only [nbYearsParallelRaw, getRawNumberCoresPerLevel]
    split <;> first | decide | (clear * - positive; dsimp only; omega)

variable (parameters : Parameters)

def Parameters.generatedAndRefreshed (kind : TimeSeriesType) : Bool :=
  parameters.timeSeriesToGenerate kind && parameters.timeSeriesToRefresh kind

/-- The smallest refresh span over the generated and refreshed kinds. -/
def Parameters.tsLimit : Nat :=
  generatedKinds.foldl (fun limit kind =>
    if parameters.generatedAndRefreshed kind ∧ parameters.refreshInterval kind < limit
    then parameters.refreshInterval kind else limit) uintMax

variable (options : StudyLoadOptions)

/-- The bound on the years in parallel that holds before the years are put in sets. -/
def Parameters.parallelYearsLimit : Nat :=
  let raw :=
    if options.forceParallel then options.maxNbYearsInParallel
    else nbYearsParallelRaw parameters.ncMode options.nbLogicalCores
  let spanned := if parameters.tsLimit < raw then parameters.tsLimit else raw
  if parameters.nbYears < spanned then parameters.nbYears else spanned

theorem SimulationParameters.tsLimit_pos (parameters : SimulationParameters) :
    0 < parameters.tsLimit := by
  have step (kinds : List TimeSeriesType) (limit : Nat) (positive : 0 < limit) :
      0 < kinds.foldl (fun limit kind =>
        if parameters.generatedAndRefreshed kind ∧ parameters.refreshInterval kind < limit
        then parameters.refreshInterval kind else limit) limit := by
    induction kinds generalizing limit with
    | nil => exact positive
    | cons kind kinds ih =>
      refine ih _ ?_
      dsimp only
      split_ifs
      · exact parameters.refreshInterval_pos kind
      · exact positive
  exact step generatedKinds uintMax (by decide)

theorem SimulationParameters.parallelYearsLimit_pos (parameters : SimulationParameters)
    (options : StudyLoadOptions) (someYear : 0 < parameters.nbYears) :
    0 < parameters.parallelYearsLimit options := by
  have spanPositive := parameters.tsLimit_pos
  have rawPositive := nbYearsParallelRaw_pos parameters.ncMode options.nbLogicalCores_pos
  have forcedPositive := options.forced_pos
  simp only [Parameters.parallelYearsLimit]
  split_ifs <;> simp_all

theorem Parameters.parallelYearsLimit_le_nbYears : parameters.parallelYearsLimit options ≤ parameters.nbYears := by
  simp only [parallelYearsLimit]
  split_ifs <;> omega

def Parameters.performCalculations (year : Nat) : Bool :=
  if parameters.userPlaylist then parameters.yearsFilter year else true

def Parameters.refreshing (year : Nat) : Bool :=
  [TimeSeriesType.load, .solar, .wind, .hydro, .thermal].any fun kind =>
    parameters.generatedAndRefreshed kind &&
      (year == 0 || year % parameters.refreshInterval kind == 0)

/-- Progress of the loop over the years; `set` of the source is the last of the sets. -/
structure ParallelSets where
  setsOfParallelYears : List (List Nat)
  buildNewSet : Bool

def Parameters.addYear (limit : Nat) (state : ParallelSets) (year : Nat) :
    ParallelSets :=
  let buildNewSet := state.buildNewSet || parameters.refreshing year
  let opened :=
    if buildNewSet then state.setsOfParallelYears ++ [[]] else state.setsOfParallelYears
  let filled :=
    if parameters.performCalculations year then opened.modifyLast (· ++ [year]) else opened
  { setsOfParallelYears := filled
    buildNewSet := (filled.getLast?.getD []).length == limit }

def Parameters.parallelSets (limit nbYears : Nat) : ParallelSets :=
  (List.range nbYears).foldl (parameters.addYear limit) ⟨[], true⟩

/-- `Study::getNumberOfCores` stores the size of the largest set. -/
def Parameters.getNumberOfCores : Nat :=
  let sets :=
    (parameters.parallelSets (parameters.parallelYearsLimit options) parameters.nbYears).setsOfParallelYears
  sets.foldl (fun largest set => if largest < set.length then set.length else largest) 0

section
variable (parameters : Parameters) (limit : Nat)

theorem Parameters.parallelSets_succ (nbYears : Nat) :
    parameters.parallelSets limit (nbYears + 1) =
      parameters.addYear limit (parameters.parallelSets limit nbYears) nbYears := by
  simp [parallelSets, List.range_succ]

theorem Parameters.addYear_opens (state : ParallelSets) (year : Nat)
    (opens : (state.buildNewSet || parameters.refreshing year) = true) :
    parameters.addYear limit state year =
      { setsOfParallelYears :=
          state.setsOfParallelYears ++ [[year].filter parameters.performCalculations]
        buildNewSet := [year].countP parameters.performCalculations == limit } := by
  cases performed : parameters.performCalculations year <;>
    simp [addYear, opens, performed, List.modifyLast_concat]

theorem Parameters.addYear_extends {state : ParallelSets} {front : List (List Nat)}
    {set : List Nat} (year : Nat) (same : state.setsOfParallelYears = front ++ [set])
    (keeps : (state.buildNewSet || parameters.refreshing year) = false) :
    parameters.addYear limit state year =
      { setsOfParallelYears := front ++ [set ++ [year].filter parameters.performCalculations]
        buildNewSet := set.length + [year].countP parameters.performCalculations == limit } := by
  cases performed : parameters.performCalculations year <;>
    simp [addYear, keeps, performed, same, List.modifyLast_concat]

theorem Parameters.parallelSets_batches (nbYears : Nat) :
    ∃ done current,
      Batches parameters.refreshing parameters.performCalculations limit
        (List.range (nbYears + 1)) done current ∧
      parameters.parallelSets limit (nbYears + 1) =
        { setsOfParallelYears := (done ++ [current]).map (List.filter parameters.performCalculations)
          buildNewSet := current.countP parameters.performCalculations == limit } := by
  induction nbYears with
  | zero =>
    refine ⟨[], [0], .first 0, ?_⟩
    exact parameters.addYear_opens limit ⟨[], true⟩ 0 rfl
  | succ nbYears ih =>
    obtain ⟨done, current, batches, same⟩ := ih
    rw [parallelSets_succ, same, List.range_succ]
    by_cases opened : current.countP parameters.performCalculations = limit ∨
        parameters.refreshing (nbYears + 1) = true
    · refine ⟨_, _, .opens (nbYears + 1) batches opened, ?_⟩
      rw [addYear_opens]
      · simp
      · simpa using opened
    · push Not at opened
      have kept : parameters.refreshing (nbYears + 1) = false := by simpa using opened.2
      refine ⟨_, _, .grows (nbYears + 1) batches opened.1 kept, ?_⟩
      rw [addYear_extends parameters limit (nbYears + 1) (List.map_append ..)]
      · simp [List.countP_eq_length_filter]
      · simpa [kept] using opened.1

theorem foldl_largest_le_iff (sets : List (List Nat)) (start bound : Nat) :
    sets.foldl (fun largest set => if largest < set.length then set.length else largest) start ≤ bound ↔
      start ≤ bound ∧ ∀ set ∈ sets, set.length ≤ bound := by
  induction sets generalizing start with
  | nil => simp
  | cons set sets ih =>
    rw [List.foldl_cons, ih, List.forall_mem_cons]
    split_ifs with larger
    · constructor
      · rintro ⟨first, rest⟩
        exact ⟨by omega, first, rest⟩
      · rintro ⟨_, first, rest⟩
        exact ⟨first, rest⟩
    · constructor
      · rintro ⟨first, rest⟩
        exact ⟨first, by omega, rest⟩
      · rintro ⟨first, _, rest⟩
        exact ⟨first, rest⟩

end

/-- The refresh periods `Study::getNumberOfCores` sees. -/
def Parameters.refreshPeriods (parameters : Parameters) : List (List Nat) :=
  segments parameters.refreshing (List.range parameters.nbYears)

theorem SimulationParameters.getNumberOfCores_le_iff (parameters : SimulationParameters)
    (options : StudyLoadOptions) (bound : Nat) :
    parameters.getNumberOfCores options ≤ bound ↔
      parameters.parallelYearsLimit options ≤ bound ∨
        ∀ period ∈ parameters.refreshPeriods,
          period.countP parameters.performCalculations ≤ bound := by
  simp only [Parameters.getNumberOfCores, Parameters.refreshPeriods, foldl_largest_le_iff]
  cases years : parameters.nbYears with
  | zero => simp [Parameters.parallelSets, segments]
  | succ last =>
    have room := parameters.parallelYearsLimit_pos options (by omega)
    obtain ⟨done, current, batches, same⟩ :=
      parameters.parallelSets_batches (parameters.parallelYearsLimit options) last
    rw [same, ← batches.all_le_iff room]
    simp only [List.forall_mem_map, List.countP_eq_length_filter, Nat.zero_le, true_and]

theorem SimulationParameters.getNumberOfCores_le_nbYears (parameters : SimulationParameters)
    (options : StudyLoadOptions) : parameters.getNumberOfCores options ≤ parameters.nbYears :=
  (parameters.getNumberOfCores_le_iff options _).mpr
    (.inl (parameters.parallelYearsLimit_le_nbYears options))

theorem SimulationParameters.not_performed_of_getNumberOfCores_eq_zero
    (parameters : SimulationParameters) (options : StudyLoadOptions)
    (none : parameters.getNumberOfCores options = 0) {year : Nat} (inside : year < parameters.nbYears) :
    parameters.performCalculations year = false := by
  have room := parameters.parallelYearsLimit_pos options (Nat.zero_lt_of_lt inside)
  have empty := ((parameters.getNumberOfCores_le_iff options 0).mp none.le).resolve_left
    (Nat.not_le.mpr room)
  have member : year ∈ parameters.refreshPeriods.flatten := by
    rw [Parameters.refreshPeriods, flatten_segments]
    exact List.mem_range.mpr inside
  obtain ⟨period, inPeriods, inPeriod⟩ := List.mem_flatten.mp member
  have notCounted := List.countP_eq_zero.mp (Nat.le_zero.mp (empty period inPeriods)) year inPeriod
  simpa using notCounted

end Antares.Data
