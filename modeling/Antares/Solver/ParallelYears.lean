import Antares.Data.Cores

/-! `ISimulation::buildSetsOfParallelYears`: the simulation cuts its years into sets that
run in parallel. The loop is compared with greedy batching at the solver's own refresh
years, and its sizes with the ones `Study::getNumberOfCores` stored.
-/

set_option autoImplicit false

namespace Antares.Solver

open Data Library

/-- `CacheData`: which kinds the simulation itself refreshes. -/
def haveToRefreshTS (parameters : Parameters) : TimeSeriesType → Bool
  | .solar => parameters.generatedAndRefreshed .solar && parameters.renewableGeneration.isAggregated
  | .wind => parameters.generatedAndRefreshed .wind && parameters.renewableGeneration.isAggregated
  | kind => parameters.generatedAndRefreshed kind

/-- Do we refresh just before this year? Some thermal clusters override the global parameter. -/
def refreshing (study : Study) (year : Nat) : Bool :=
  ([TimeSeriesType.load, .solar, .wind, .hydro].any fun kind =>
    haveToRefreshTS study.parameters.toParameters kind &&
      year % study.parameters.refreshInterval kind == 0) ||
  ((haveToRefreshTS study.parameters.toParameters .thermal || study.thermalTSRefresh) &&
    year % study.parameters.refreshInterval .thermal == 0)

/-- Years to run together; the maps are empty outside the years of the set. -/
structure SetOfParallelYears where
  yearsIndices : List Nat
  yearFailed : Nat → Option Bool
  performedYearToSpace : Nat → Option Nat
  spaceToPerformedYear : Nat → Option Nat
  isFirstPerformedYearOfASet : Nat → Option Bool
  isYearPerformed : Nat → Option Bool
  nbPerformedYears : Nat
  nbYears : Nat
  regenerateTS : Bool
  yearForTSgeneration : Nat

def unset : Nat := 999999

def SetOfParallelYears.create (refresh : Bool) (year : Nat) : SetOfParallelYears where
  yearsIndices := []
  yearFailed := fun _ => none
  performedYearToSpace := fun _ => none
  spaceToPerformedYear := fun _ => none
  isFirstPerformedYearOfASet := fun _ => none
  isYearPerformed := fun _ => none
  nbPerformedYears := 0
  nbYears := 0
  regenerateTS := refresh
  yearForTSgeneration := if refresh then year else unset

def SetOfParallelYears.addYear (set : SetOfParallelYears) (year : Nat) (performed first : Bool) :
    SetOfParallelYears :=
  let listed : SetOfParallelYears := { set with
    yearsIndices := set.yearsIndices ++ [year]
    nbYears := set.nbYears + 1
    yearFailed := Function.update set.yearFailed year (some true)
    isFirstPerformedYearOfASet := Function.update set.isFirstPerformedYearOfASet year (some false) }
  if performed then
    { listed with
      nbPerformedYears := set.nbPerformedYears + 1
      isYearPerformed := Function.update set.isYearPerformed year (some true)
      performedYearToSpace :=
        Function.update set.performedYearToSpace year (some set.nbPerformedYears)
      spaceToPerformedYear :=
        Function.update set.spaceToPerformedYear set.nbPerformedYears (some year)
      isFirstPerformedYearOfASet :=
        Function.update set.isFirstPerformedYearOfASet year (some first) }
  else
    { listed with isYearPerformed := Function.update set.isYearPerformed year (some false) }

/-- Progress of the loop; `set` of the source is the last of the sets. -/
structure BuildState where
  sets : List SetOfParallelYears
  buildNewSet : Bool
  foundFirstPerformedYearOfCurrentSet : Bool
  maxNbYearsPerformed : Nat
  nbYearsReallyPerformed : Nat

def BuildState.start : BuildState := ⟨[], true, false, 0, 0⟩

/-- `pNbMaxPerformedYearsInParallel - 1` in 32-bit arithmetic. -/
def lastSpace (maxPerformed : Nat) : Nat := (maxPerformed + 2 ^ 32 - 1) % 2 ^ 32

def lastNbPerformedYears (sets : List SetOfParallelYears) : Nat :=
  sets.getLast?.elim 0 SetOfParallelYears.nbPerformedYears

def buildStep (study : Study) (maxPerformed endYear : Nat) (state : BuildState) (year : Nat) :
    BuildState :=
  let performCalculations := study.parameters.yearsFilter year
  let refresh := refreshing study year
  let opened :=
    if state.buildNewSet || refresh then state.sets ++ [.create refresh year] else state.sets
  let indexSpace := if performCalculations then lastNbPerformedYears opened else unset
  let sets := opened.modifyLast
    (·.addYear year performCalculations !state.foundFirstPerformedYearOfCurrentSet)
  let found := state.foundFirstPerformedYearOfCurrentSet || performCalculations
  let performed :=
    if performCalculations then state.nbYearsReallyPerformed + 1 else state.nbYearsReallyPerformed
  -- only a set closed here is counted in the maximum, not one that a refresh closes
  if indexSpace == lastSpace maxPerformed || year == endYear - 1 then
    { sets
      buildNewSet := true
      foundFirstPerformedYearOfCurrentSet := false
      maxNbYearsPerformed :=
        if state.maxNbYearsPerformed < lastNbPerformedYears sets then lastNbPerformedYears sets
        else state.maxNbYearsPerformed
      nbYearsReallyPerformed := performed }
  else
    { sets
      buildNewSet := false
      foundFirstPerformedYearOfCurrentSet := found
      maxNbYearsPerformed := state.maxNbYearsPerformed
      nbYearsReallyPerformed := performed }

/-- The sets and the returned maximum are read off the final state. -/
def buildSetsOfParallelYears (study : Study) (maxPerformed firstYear endYear : Nat) : BuildState :=
  (List.range' firstYear (endYear - firstYear)).foldl (buildStep study maxPerformed endYear) .start

/-- The two maps are inverse bijections between the performed years of the set and its spaces. -/
structure SetOfParallelYears.SpacesInverse (set : SetOfParallelYears) (performed : Nat → Bool) :
    Prop where
  inverse : ∀ year space,
    set.performedYearToSpace year = some space ↔ set.spaceToPerformedYear space = some year
  year_iff : ∀ year, (∃ space, set.performedYearToSpace year = some space) ↔
    year ∈ set.yearsIndices ∧ performed year = true
  space_iff : ∀ space, (∃ year, set.spaceToPerformedYear space = some year) ↔
    space < set.nbPerformedYears

structure SetOfParallelYears.Records (set : SetOfParallelYears) (study : Study) : Prop where
  nbPerformedYears : set.nbPerformedYears = set.yearsIndices.countP study.parameters.yearsFilter
  spaces : set.SpacesInverse study.parameters.yearsFilter
  regenerateTS : ∀ year ∈ set.yearsIndices.head?, set.regenerateTS = refreshing study year
  yearForTSgeneration : ∀ year ∈ set.yearsIndices.head?, refreshing study year = true →
    set.yearForTSgeneration = year

section
variable {set : SetOfParallelYears} {study : Study}

@[simp] theorem SetOfParallelYears.addYear_yearsIndices (year : Nat) (performed first : Bool) :
    (set.addYear year performed first).yearsIndices = set.yearsIndices ++ [year] := by
  cases performed <;> rfl

@[simp] theorem SetOfParallelYears.addYear_nbPerformedYears (year : Nat) (performed first : Bool) :
    (set.addYear year performed first).nbPerformedYears =
      if performed then set.nbPerformedYears + 1 else set.nbPerformedYears := by
  cases performed <;> rfl

@[simp] theorem SetOfParallelYears.addYear_regenerateTS (year : Nat) (performed first : Bool) :
    (set.addYear year performed first).regenerateTS = set.regenerateTS := by
  cases performed <;> rfl

@[simp] theorem SetOfParallelYears.addYear_yearForTSgeneration (year : Nat) (performed first : Bool) :
    (set.addYear year performed first).yearForTSgeneration = set.yearForTSgeneration := by
  cases performed <;> rfl

theorem SetOfParallelYears.SpacesInverse.add {performed : Nat → Bool} (year : Nat) (first : Bool)
    (spaces : set.SpacesInverse performed) (fresh : year ∉ set.yearsIndices) :
    (set.addYear year (performed year) first).SpacesInverse performed := by
  have noSpace : set.performedYearToSpace year = none := by
    cases space : set.performedYearToSpace year with
    | none => rfl
    | some _ => exact absurd ((spaces.year_iff year).mp ⟨_, space⟩).1 fresh
  have noYear : set.spaceToPerformedYear set.nbPerformedYears = none := by
    cases old : set.spaceToPerformedYear set.nbPerformedYears with
    | none => rfl
    | some _ => exact absurd ((spaces.space_iff _).mp ⟨_, old⟩) (Nat.lt_irrefl _)
  cases run : performed year with
  | false =>
    refine ⟨spaces.inverse, ?_, spaces.space_iff⟩
    intro other
    simp only [addYear, Bool.false_eq_true, ↓reduceIte, List.mem_append, List.mem_singleton]
    rw [spaces.year_iff other]
    constructor
    · rintro ⟨inside, isPerformed⟩
      exact ⟨.inl inside, isPerformed⟩
    · rintro ⟨inside | rfl, isPerformed⟩
      · exact ⟨inside, isPerformed⟩
      · simp [run] at isPerformed
  | true =>
    refine ⟨?_, ?_, ?_⟩
    · intro other space
      simp only [addYear, ↓reduceIte, Function.update_apply]
      by_cases sameYear : other = year <;> by_cases sameSpace : space = set.nbPerformedYears
      · simp [sameYear, sameSpace]
      · have old : set.spaceToPerformedYear space ≠ some year := by
          rw [Ne, ← spaces.inverse, noSpace]
          simp
        simp [sameYear, sameSpace, old, Ne.symm sameSpace]
      · have old : set.performedYearToSpace other ≠ some set.nbPerformedYears := by
          rw [Ne, spaces.inverse, noYear]
          simp
        simp [sameYear, sameSpace, old, Ne.symm sameYear]
      · simp [sameYear, sameSpace, spaces.inverse]
    · intro other
      simp only [addYear, ↓reduceIte, Function.update_apply, List.mem_append, List.mem_singleton]
      by_cases sameYear : other = year
      · simp [sameYear, run]
      · simp [sameYear, spaces.year_iff]
    · intro space
      simp only [addYear, ↓reduceIte, Function.update_apply]
      by_cases sameSpace : space = set.nbPerformedYears
      · simp [sameSpace]
      · simp only [sameSpace, ↓reduceIte, spaces.space_iff]
        omega

theorem SetOfParallelYears.Records.add (year : Nat) (first : Bool)
    (records : set.Records study) (nonempty : set.yearsIndices ≠ [])
    (fresh : year ∉ set.yearsIndices) :
    (set.addYear year (study.parameters.yearsFilter year) first).Records study := by
  have head : (set.yearsIndices ++ [year]).head? = set.yearsIndices.head? :=
    List.head?_append_of_ne_nil _ nonempty
  refine ⟨?_, records.spaces.add year first fresh, ?_, ?_⟩
  · cases run : study.parameters.yearsFilter year <;> simp [records.nbPerformedYears, run]
  · simpa [head] using records.regenerateTS
  · simpa [head] using records.yearForTSgeneration

theorem SetOfParallelYears.Records.first (study : Study) (year : Nat) (first : Bool) :
    ((create (refreshing study year) year).addYear year (study.parameters.yearsFilter year)
      first).Records study := by
  have empty : (create (refreshing study year) year).SpacesInverse study.parameters.yearsFilter := by
    constructor <;> simp [create]
  refine ⟨?_, empty.add year first (by simp [create]), ?_, ?_⟩
  · cases run : study.parameters.yearsFilter year <;> simp [create, run]
  · simp [create]
  · simp +contextual [create]

end

theorem lastNbPerformedYears_concat (front : List SetOfParallelYears) (set : SetOfParallelYears) :
    lastNbPerformedYears (front ++ [set]) = set.nbPerformedYears := by
  simp [lastNbPerformedYears]

variable (study : Study)

theorem buildStep_eq (maxPerformed endYear : Nat) (state : BuildState) (year : Nat)
    {front : List SetOfParallelYears} {set : SetOfParallelYears}
    (opened : (if (state.buildNewSet || refreshing study year) = true
      then state.sets ++ [.create (refreshing study year) year] else state.sets) = front ++ [set]) :
    let next := set.addYear year (study.parameters.yearsFilter year)
      !state.foundFirstPerformedYearOfCurrentSet
    let closes := (if study.parameters.yearsFilter year then set.nbPerformedYears else unset) ==
      lastSpace maxPerformed || year == endYear - 1
    (buildStep study maxPerformed endYear state year).sets = front ++ [next] ∧
    (buildStep study maxPerformed endYear state year).buildNewSet = closes ∧
    (buildStep study maxPerformed endYear state year).maxNbYearsPerformed =
      if closes then max state.maxNbYearsPerformed next.nbPerformedYears
      else state.maxNbYearsPerformed := by
  intro next closes
  have larger (old new : Nat) : (if old < new then new else old) = max old new := by
    split <;> omega
  simp only [buildStep, opened, List.modifyLast_concat, lastNbPerformedYears_concat, larger]
  cases closing : closes <;> simp only [closes] at closing <;> simp [closing, next]

/-- Whatever bound is put on a set, the sets list the years in order and know which are performed. -/
structure OrderedSets (study : Study) (nbYears : Nat) (sets : List SetOfParallelYears) : Prop where
  years : (sets.map (·.yearsIndices)).flatten = List.range nbYears
  performed : ∀ set ∈ sets, ∀ year ∈ set.yearsIndices,
    set.isYearPerformed year = some (study.parameters.yearsFilter year)

theorem SetOfParallelYears.addYear_isYearPerformed (set : SetOfParallelYears) (year : Nat)
    (performed first : Bool) :
    (set.addYear year performed first).isYearPerformed =
      Function.update set.isYearPerformed year (some performed) := by
  cases performed <;> rfl

theorem OrderedSets.add {study : Study} {year : Nat} {front : List SetOfParallelYears}
    {set : SetOfParallelYears} (first : Bool)
    (years : ((front ++ [set]).map (·.yearsIndices)).flatten = List.range year)
    (performed : ∀ other ∈ front ++ [set], ∀ old ∈ other.yearsIndices,
      other.isYearPerformed old = some (study.parameters.yearsFilter old)) :
    OrderedSets study (year + 1)
      (front ++ [set.addYear year (study.parameters.yearsFilter year) first]) := by
  refine ⟨?_, ?_⟩
  · rw [List.range_succ, ← years]
    simp
  · intro other member old inside
    rcases List.mem_append.mp member with earlier | isLast
    · exact performed other (List.mem_append_left _ earlier) old inside
    · obtain rfl := List.mem_singleton.mp isLast
      rw [SetOfParallelYears.addYear_yearsIndices] at inside
      rw [SetOfParallelYears.addYear_isYearPerformed]
      by_cases same : old = year
      · rw [same, Function.update_self]
      · rw [Function.update_of_ne same]
        apply performed set (by simp)
        simpa [same] using inside

variable (maxPerformed endYear : Nat)

/-- Induction over the loop, on the sets alone: a year opens a set of its own, or it is one that
refreshes nothing and joins the last set. -/
theorem buildSteps_induction
    {motive : Nat → List SetOfParallelYears → Prop} (start : motive 0 [])
    (opens : ∀ year sets first, motive year sets →
      motive (year + 1) (sets ++ [(SetOfParallelYears.create (refreshing study year) year).addYear year
        (study.parameters.yearsFilter year) first]))
    (grows : ∀ year front set first, refreshing study year = false → motive year (front ++ [set]) →
      motive (year + 1) (front ++ [set.addYear year (study.parameters.yearsFilter year) first]))
    (nbYears : Nat) :
    motive nbYears ((List.range nbYears).foldl (buildStep study maxPerformed endYear) .start).sets := by
  suffices both : motive nbYears
        ((List.range nbYears).foldl (buildStep study maxPerformed endYear) .start).sets ∧
      (((List.range nbYears).foldl (buildStep study maxPerformed endYear) .start).sets = [] →
        ((List.range nbYears).foldl (buildStep study maxPerformed endYear) .start).buildNewSet = true) from
    both.1
  induction nbYears with
  | zero => exact ⟨start, fun _ => rfl⟩
  | succ year ih =>
    rw [List.range_succ, List.foldl_append]
    generalize (List.range year).foldl (buildStep study maxPerformed endYear) .start = state at ih
    obtain ⟨holds, startsOpen⟩ := ih
    by_cases newSet : (state.buildNewSet || refreshing study year) = true
    · obtain ⟨sets, -, -⟩ := buildStep_eq study maxPerformed endYear state year (if_pos newSet)
      rw [List.foldl_cons, List.foldl_nil, sets]
      exact ⟨opens year _ _ holds, by simp⟩
    · have nonempty : state.sets ≠ [] := by
        intro empty
        rw [startsOpen empty, Bool.true_or] at newSet
        exact newSet rfl
      have kept : refreshing study year = false := by
        rw [Bool.not_eq_true, Bool.or_eq_false_iff] at newSet
        exact newSet.2
      obtain ⟨front, set, split⟩ : ∃ front set, state.sets = front ++ [set] :=
        ⟨_, _, (List.dropLast_append_getLast nonempty).symm⟩
      obtain ⟨sets, -, -⟩ := buildStep_eq study maxPerformed endYear state year
        ((if_neg newSet).trans split)
      rw [List.foldl_cons, List.foldl_nil, sets]
      rw [split] at holds
      exact ⟨grows year _ _ _ kept holds, by simp⟩

theorem buildSteps_ordered (maxPerformed endYear nbYears : Nat) :
    OrderedSets study nbYears
      ((List.range nbYears).foldl (buildStep study maxPerformed endYear) .start).sets := by
  refine buildSteps_induction study maxPerformed endYear ⟨rfl, by simp⟩ ?_ ?_ nbYears
  · intro year sets first ordered
    refine .add _ (by simpa [SetOfParallelYears.create] using ordered.years) ?_
    intro other member old inside
    rcases List.mem_append.mp member with earlier | isNew
    · exact ordered.performed other earlier old inside
    · obtain rfl := List.mem_singleton.mp isNew
      simp [SetOfParallelYears.create] at inside
  · intro year front set first _ ordered
    exact .add _ ordered.years ordered.performed

theorem buildSetsOfParallelYears_ordered :
    OrderedSets study endYear (buildSetsOfParallelYears study maxPerformed 0 endYear).sets := by
  rw [buildSetsOfParallelYears, Nat.sub_zero, ← List.range_eq_range']
  exact buildSteps_ordered study maxPerformed endYear endYear

/-- Whatever bound is put on a set, it regenerates in front of its first year or not at all. -/
structure SetOfParallelYears.RefreshesFirst (study : Study) (set : SetOfParallelYears) (first : Nat)
    (rest : List Nat) : Prop where
  yearsIndices : set.yearsIndices = first :: rest
  regenerateTS : set.regenerateTS = refreshing study first
  yearForTSgeneration : refreshing study first = true → set.yearForTSgeneration = first
  quiet : ∀ year ∈ rest, refreshing study year = false

theorem SetOfParallelYears.RefreshesFirst.add {study : Study} {set : SetOfParallelYears} {first : Nat}
    {rest : List Nat} (refreshes : set.RefreshesFirst study first rest) {year : Nat}
    (quiet : refreshing study year = false) (performed isFirst : Bool) :
    (set.addYear year performed isFirst).RefreshesFirst study first (rest ++ [year]) where
  yearsIndices := by rw [addYear_yearsIndices, refreshes.yearsIndices, List.cons_append]
  regenerateTS := by rw [addYear_regenerateTS, refreshes.regenerateTS]
  yearForTSgeneration refresh := by rw [addYear_yearForTSgeneration, refreshes.yearForTSgeneration refresh]
  quiet other member := by
    rcases List.mem_append.mp member with earlier | isLast
    · exact refreshes.quiet other earlier
    · rw [List.mem_singleton.mp isLast]
      exact quiet

theorem buildSetsOfParallelYears_refreshesFirst :
    ∀ set ∈ (buildSetsOfParallelYears study maxPerformed 0 endYear).sets,
      ∃ first rest, set.RefreshesFirst study first rest := by
  rw [buildSetsOfParallelYears, Nat.sub_zero, ← List.range_eq_range']
  refine buildSteps_induction study maxPerformed endYear
    (motive := fun _ sets => ∀ set ∈ sets, ∃ first rest, set.RefreshesFirst study first rest) (by simp) ?_ ?_ endYear
  · intro year sets first known set member
    rcases List.mem_append.mp member with earlier | isNew
    · exact known set earlier
    · rw [List.mem_singleton.mp isNew]
      refine ⟨year, [], ?_, ?_, ?_, by simp⟩
      · simp [SetOfParallelYears.create]
      · simp [SetOfParallelYears.create]
      · intro refresh
        simp [SetOfParallelYears.create, refresh]
  · intro year front last first quiet known set member
    rcases List.mem_append.mp member with earlier | isLast
    · exact known set (List.mem_append_left _ earlier)
    · rw [List.mem_singleton.mp isLast]
      obtain ⟨opening, rest, refreshes⟩ := known last (by simp)
      exact ⟨opening, rest ++ [year], refreshes.add quiet _ _⟩

/-- What holds of the loop after the years below `year`, up to the end of the simulation. -/
structure BuildInvariant (study : Study) (capacity endYear year : Nat) (state : BuildState)
    (done : List (List Nat)) (current : List Nat) : Prop where
  batches : Batches (refreshing study) study.parameters.yearsFilter capacity
    (List.range year) done current
  years : state.sets.map (·.yearsIndices) = done ++ [current]
  records : ∀ set ∈ state.sets, set.Records study
  buildNewSet : state.buildNewSet =
    (current.countP study.parameters.yearsFilter == capacity || year == endYear)
  max_of_full :
    (∃ batch ∈ done ++ [current], batch.countP study.parameters.yearsFilter = capacity) →
      state.maxNbYearsPerformed = capacity
  max_of_none :
    (∀ batch ∈ done ++ [current], batch.countP study.parameters.yearsFilter ≠ capacity) →
      state.maxNbYearsPerformed =
        if year = endYear then current.countP study.parameters.yearsFilter else 0

section
variable {study : Study} {maxPerformed endYear : Nat}

theorem closes_iff (bounded : maxPerformed ≤ maximumMCYears) {year before : Nat}
    (performs : study.parameters.yearsFilter year = true → 0 < maxPerformed)
    (below : before < max maxPerformed 1) :
    ((if study.parameters.yearsFilter year then before else unset) == lastSpace maxPerformed) =
      (before + [year].countP study.parameters.yearsFilter == max maxPerformed 1) := by
  have small : maxPerformed ≤ 100000 := bounded
  cases run : study.parameters.yearsFilter year with
  | true =>
    have positive := performs run
    simp only [↓reduceIte, List.countP_singleton, run, lastSpace]
    rw [Bool.eq_iff_iff, beq_iff_eq, beq_iff_eq]
    omega
  | false =>
    simp only [Bool.false_eq_true, ↓reduceIte, List.countP_singleton, run, lastSpace, unset]
    rw [Bool.eq_iff_iff, beq_iff_eq, beq_iff_eq]
    omega

/-- The invariant after a turn, whether the year opened a set (`kept` is empty) or not. -/
theorem BuildInvariant.of_turn (bounded : maxPerformed ≤ maximumMCYears) {year : Nat}
    (performs : study.parameters.yearsFilter year = true → 0 < maxPerformed)
    {state : BuildState} (front : List SetOfParallelYears) {set : SetOfParallelYears}
    {done : List (List Nat)} (kept : List Nat) (inside : year < endYear)
    (opened : (if (state.buildNewSet || refreshing study year) = true
      then state.sets ++ [.create (refreshing study year) year] else state.sets) = front ++ [set])
    (batches : Batches (refreshing study) study.parameters.yearsFilter (max maxPerformed 1)
      (List.range (year + 1)) done (kept ++ [year]))
    (frontYears : front.map (·.yearsIndices) = done) (setYears : set.yearsIndices = kept)
    (frontRecords : ∀ set ∈ front, set.Records study)
    (setRecords : (set.addYear year (study.parameters.yearsFilter year)
      !state.foundFirstPerformedYearOfCurrentSet).Records study)
    (before : set.nbPerformedYears = kept.countP study.parameters.yearsFilter)
    (below : set.nbPerformedYears < max maxPerformed 1)
    (max_of_full :
      (∃ batch ∈ done, batch.countP study.parameters.yearsFilter = max maxPerformed 1) →
        state.maxNbYearsPerformed = max maxPerformed 1)
    (max_of_none :
      (∀ batch ∈ done, batch.countP study.parameters.yearsFilter ≠ max maxPerformed 1) →
        state.maxNbYearsPerformed = 0) :
    BuildInvariant study (max maxPerformed 1) endYear (year + 1)
      (buildStep study maxPerformed endYear state year) done (kept ++ [year]) := by
  have room : 0 < max maxPerformed 1 := by omega
  have atEnd : (year == endYear - 1) = (year + 1 == endYear) := by
    rw [Bool.eq_iff_iff, beq_iff_eq, beq_iff_eq]
    omega
  obtain ⟨sets, newSet, best⟩ := buildStep_eq study maxPerformed endYear state year opened
  rw [closes_iff bounded performs below, before, ← List.countP_append, atEnd] at newSet best
  rw [setRecords.nbPerformedYears, SetOfParallelYears.addYear_yearsIndices, setYears] at best
  have limited := batches.count_le room (List.mem_append_right done (List.mem_singleton_self _))
  refine ⟨batches, ?_, ?_, newSet, ?_, ?_⟩
  · simp [sets, frontYears, setYears]
  · rw [sets]
    intro other member
    rcases List.mem_append.mp member with earlier | isCurrent
    · exact frontRecords other earlier
    · rw [List.mem_singleton.mp isCurrent]
      exact setRecords
  · -- the greatest number is that of a full set, as soon as there is one
    rintro ⟨batch, member, full⟩
    rw [best]
    rcases List.mem_append.mp member with earlier | isCurrent
    · rw [max_of_full ⟨batch, earlier, full⟩, max_eq_left limited, ite_self]
    · obtain rfl := List.mem_singleton.mp isCurrent
      have old : state.maxNbYearsPerformed ≤ max maxPerformed 1 := by
        by_cases reached : ∃ batch ∈ done,
            batch.countP study.parameters.yearsFilter = max maxPerformed 1
        · exact (max_of_full reached).le
        · push Not at reached
          rw [max_of_none reached]
          exact Nat.zero_le _
      simp only [full, beq_self_eq_true, Bool.true_or, ↓reduceIte]
      exact max_eq_right old
  · intro none
    have open_ := none _ (List.mem_append_right done (List.mem_singleton_self _))
    rw [best, max_of_none fun batch member => none batch (List.mem_append_left _ member)]
    simp only [beq_eq_false_iff_ne.mpr open_, Bool.false_or, beq_iff_eq, Nat.zero_max]

theorem BuildInvariant.step (bounded : maxPerformed ≤ maximumMCYears)
    (performs : ∀ year < endYear, study.parameters.yearsFilter year = true → 0 < maxPerformed)
    {year : Nat} {state : BuildState} {done : List (List Nat)} {current : List Nat}
    (invariant : BuildInvariant study (max maxPerformed 1) endYear year state done current)
    (inside : year < endYear) :
    ∃ done' current', BuildInvariant study (max maxPerformed 1) endYear (year + 1)
      (buildStep study maxPerformed endYear state year) done' current' := by
  have room : 0 < max maxPerformed 1 := by omega
  have notEnd : (year == endYear) = false := by simpa using inside.ne
  have flag := invariant.buildNewSet
  rw [notEnd, Bool.or_false] at flag
  have none := invariant.max_of_none
  rw [if_neg inside.ne] at none
  -- a set opens when the last one is full or when the year refreshes the series
  by_cases reason : current.countP study.parameters.yearsFilter = max maxPerformed 1 ∨
      refreshing study year = true
  · have opens : (state.buildNewSet || refreshing study year) = true := by
      simpa [flag] using reason
    have batches := List.range_succ ▸ invariant.batches.opens year reason
    exact ⟨_, _, .of_turn bounded (performs year inside) state.sets [] inside (if_pos opens)
      batches invariant.years rfl invariant.records (.first study year _) rfl room
      invariant.max_of_full none⟩
  · push Not at reason
    have kept : refreshing study year = false := by simpa using reason.2
    have keeps : ¬(state.buildNewSet || refreshing study year) = true := by
      simpa [flag, kept] using reason.1
    have batches := List.range_succ ▸ invariant.batches.grows year reason.1 kept
    obtain ⟨front, lasts, sets, frontYears, lastsYears⟩ := List.map_eq_append_iff.mp invariant.years
    obtain ⟨last, rfl, lastYears⟩ := List.map_eq_singleton_iff.mp lastsYears
    have records := invariant.records
    rw [sets] at records
    have lastRecords := records last (by simp)
    have count : last.nbPerformedYears = current.countP study.parameters.yearsFilter := by
      rw [lastRecords.nbPerformedYears, lastYears]
    have isCurrent : current ∈ done ++ [current] := by simp
    have fresh : year ∉ current := by
      intro member
      have listed : year ∈ (done ++ [current]).flatten := List.mem_flatten.mpr ⟨_, isCurrent, member⟩
      rw [invariant.batches.flatten_eq, List.mem_range] at listed
      exact Nat.lt_irrefl _ listed
    have added := lastRecords.add year (!state.foundFirstPerformedYearOfCurrentSet)
      (lastYears ▸ invariant.batches.current_ne_nil) (lastYears ▸ fresh)
    have below : last.nbPerformedYears < max maxPerformed 1 := by
      rw [count]
      exact lt_of_le_of_ne (invariant.batches.count_le room isCurrent) reason.1
    refine ⟨_, _, .of_turn bounded (performs year inside) front current inside ((if_neg keeps).trans sets)
      batches frontYears lastYears (fun set member => records set (List.mem_append_left _ member))
      added count below ?_ ?_⟩
    · rintro ⟨batch, member, full⟩
      exact invariant.max_of_full ⟨batch, List.mem_append_left _ member, full⟩
    · intro open_
      apply none
      intro batch member
      rcases List.mem_append.mp member with earlier | isLast
      · exact open_ batch earlier
      · rw [List.mem_singleton.mp isLast]
        exact reason.1

theorem BuildInvariant.run (bounded : maxPerformed ≤ maximumMCYears)
    (performs : ∀ year < endYear, study.parameters.yearsFilter year = true → 0 < maxPerformed)
    {year : Nat} (inside : year < endYear) :
    ∃ done current, BuildInvariant study (max maxPerformed 1) endYear (year + 1)
      ((List.range (year + 1)).foldl (buildStep study maxPerformed endYear) .start) done current := by
  induction year with
  | zero =>
    refine ⟨_, _, .of_turn bounded (performs 0 inside) [] [] inside rfl
      (.first 0) rfl rfl (by simp) (.first study 0 _) rfl (lt_of_lt_of_le Nat.zero_lt_one (le_max_right _ _)) ?_ ?_⟩
    · simp
    · intro _
      rfl
  | succ year ih =>
    obtain ⟨done, current, invariant⟩ := ih (Nat.lt_of_succ_lt inside)
    rw [List.range_succ, List.foldl_append]
    exact invariant.step bounded performs inside

end

/-- What `loopThroughYears` relies on: the sets follow the years in order, time-series are
refreshed in front of a set, spaces are numbered without holes, and the returned maximum
bounds the number of performed years of every set. -/
structure ParallelYearsContract (study : Study) (maxPerformed : Nat) (result : BuildState) : Prop where
  years : (result.sets.map (·.yearsIndices)).flatten = List.range study.parameters.nbYears
  refreshed : ∀ set ∈ result.sets, ∀ year ∈ set.yearsIndices, refreshing study year = true →
    set.yearsIndices.head? = some year ∧ set.regenerateTS = true ∧ set.yearForTSgeneration = year
  limited : ∀ set ∈ result.sets, set.nbPerformedYears ≤ maxPerformed
  spaces : ∀ set ∈ result.sets, set.SpacesInverse study.parameters.yearsFilter
  covered : ∀ set ∈ result.sets, set.nbPerformedYears ≤ result.maxNbYearsPerformed

def refreshPeriods (study : Study) : List (List Nat) :=
  segments (refreshing study) (List.range study.parameters.nbYears)

def performedIn (study : Study) (period : List Nat) : Nat :=
  period.countP study.parameters.yearsFilter

/-- Some refresh period performs as many years as the study allows in parallel (by its limit
or by its own refresh periods), or no refresh period performs more years than the last one. -/
def MaximumIsSeen (study : Study) (options : StudyLoadOptions) : Prop :=
  (∃ period ∈ refreshPeriods study,
    study.parameters.parallelYearsLimit options ≤ performedIn study period ∨
      ∀ other ∈ study.parameters.refreshPeriods,
        performedIn study other ≤ performedIn study period) ∨
  ∀ period ∈ refreshPeriods study,
    performedIn study period ≤ (refreshPeriods study).getLast?.elim 0 (performedIn study)

theorem performCalculations_eq (parameters : SimulationParameters) :
    parameters.performCalculations = parameters.yearsFilter := by
  funext year
  unfold Parameters.performCalculations
  cases playlist : parameters.userPlaylist with
  | true => rfl
  | false => exact (parameters.filter_of_no_playlist playlist year).symm

theorem getNumberOfCores_le_performedIn (study : Study) (options : StudyLoadOptions)
    (period : List Nat) :
    study.parameters.getNumberOfCores options ≤ performedIn study period ↔
      study.parameters.parallelYearsLimit options ≤ performedIn study period ∨
        ∀ other ∈ study.parameters.refreshPeriods,
          performedIn study other ≤ performedIn study period := by
  rw [study.parameters.getNumberOfCores_le_iff, performCalculations_eq]
  rfl

section
variable {study : Study} {options : StudyLoadOptions}

theorem performs_pos {year : Nat} (inside : year < study.parameters.nbYears)
    (performed : study.parameters.yearsFilter year = true) :
    0 < study.parameters.getNumberOfCores options := by
  apply Nat.pos_of_ne_zero
  intro none
  have skipped := study.parameters.not_performed_of_getNumberOfCores_eq_zero options none inside
  rw [performCalculations_eq, performed] at skipped
  cases skipped

theorem BuildInvariant.performedIn_le {maxPerformed endYear : Nat} {state : BuildState}
    {done : List (List Nat)} {current : List Nat}
    (performs : ∀ year < endYear, study.parameters.yearsFilter year = true → 0 < maxPerformed)
    (invariant : BuildInvariant study (max maxPerformed 1) endYear endYear state done current)
    {batch : List Nat} (member : batch ∈ done ++ [current]) :
    performedIn study batch ≤ maxPerformed := by
  cases Nat.eq_zero_or_pos maxPerformed with
  | inr positive =>
    have limited := invariant.batches.count_le (by omega) member
    rwa [max_eq_left positive] at limited
  | inl none =>
    rw [none, Nat.le_zero, performedIn, List.countP_eq_zero]
    intro other inside performed
    have listed : other ∈ (done ++ [current]).flatten := List.mem_flatten.mpr ⟨_, member, inside⟩
    rw [invariant.batches.flatten_eq, List.mem_range] at listed
    have positive := performs other listed performed
    omega

theorem BuildInvariant.contract_iff {maxPerformed : Nat} {state : BuildState}
    {done : List (List Nat)} {current : List Nat}
    (performs : ∀ year < study.parameters.nbYears, study.parameters.yearsFilter year = true →
      0 < maxPerformed)
    (invariant : BuildInvariant study (max maxPerformed 1) study.parameters.nbYears
      study.parameters.nbYears state done current) :
    ParallelYearsContract study maxPerformed state ↔
      ∀ batch ∈ done ++ [current], performedIn study batch ≤ state.maxNbYearsPerformed := by
  have listed {set : SetOfParallelYears} (member : set ∈ state.sets) :
      set.yearsIndices ∈ done ++ [current] := by
    rw [← invariant.years]
    exact List.mem_map_of_mem member
  have counted {set : SetOfParallelYears} (member : set ∈ state.sets) :
      set.nbPerformedYears = performedIn study set.yearsIndices :=
    (invariant.records set member).nbPerformedYears
  constructor
  · intro contract
    rw [← invariant.years, List.forall_mem_map]
    intro set member
    rw [← counted member]
    exact contract.covered set member
  · intro covered
    refine ⟨?_, ?_, ?_, ?_, ?_⟩
    · rw [invariant.years, invariant.batches.flatten_eq]
    · intro set member year inside refresh
      have head := invariant.batches.head?_of_cut (listed member) inside refresh
      exact ⟨head, ((invariant.records set member).regenerateTS year head).trans refresh,
        (invariant.records set member).yearForTSgeneration year head refresh⟩
    · intro set member
      rw [counted member]
      exact invariant.performedIn_le performs (listed member)
    · exact fun set member => (invariant.records set member).spaces
    · intro set member
      rw [counted member]
      exact covered _ (listed member)

theorem buildSetsOfParallelYears_invariant (options : StudyLoadOptions)
    (someYear : 0 < study.parameters.nbYears) :
    ∃ done current, BuildInvariant study (max (study.parameters.getNumberOfCores options) 1)
      study.parameters.nbYears study.parameters.nbYears
      (buildSetsOfParallelYears study (study.parameters.getNumberOfCores options) 0
        study.parameters.nbYears) done current := by
  have bounded : study.parameters.getNumberOfCores options ≤ maximumMCYears :=
    (study.parameters.getNumberOfCores_le_nbYears options).trans study.parameters.nbYears_le
  have run := BuildInvariant.run bounded (fun _ inside performed => performs_pos inside performed)
    (Nat.sub_one_lt_of_lt someYear)
  rw [Nat.sub_one_add_one someYear.ne'] at run
  rw [buildSetsOfParallelYears, Nat.sub_zero, ← List.range_eq_range']
  exact run

theorem BuildInvariant.covered_iff {state : BuildState} {done : List (List Nat)} {current : List Nat}
    (invariant : BuildInvariant study (max (study.parameters.getNumberOfCores options) 1)
      study.parameters.nbYears study.parameters.nbYears state done current) :
    (∀ batch ∈ done ++ [current], performedIn study batch ≤ state.maxNbYearsPerformed) ↔
      MaximumIsSeen study options := by
  have room : 0 < max (study.parameters.getNumberOfCores options) 1 := by omega
  have full_iff := invariant.batches.full_iff room
  by_cases reached : ∃ batch ∈ done ++ [current], batch.countP study.parameters.yearsFilter =
      max (study.parameters.getNumberOfCores options) 1
  · obtain ⟨period, inPeriods, large⟩ := full_iff.mp reached
    refine iff_of_true ?_ (.inl ⟨period, inPeriods, ?_⟩)
    · intro batch member
      rw [invariant.max_of_full reached]
      exact invariant.batches.count_le room member
    · rw [← getNumberOfCores_le_performedIn]
      exact (le_max_left _ _).trans large
  · have none := reached
    push Not at none
    have periods : done ++ [current] = refreshPeriods study :=
      invariant.batches.eq_segments fun batch member => none batch (List.mem_append_left _ member)
    have returned : state.maxNbYearsPerformed =
        (refreshPeriods study).getLast?.elim 0 (performedIn study) := by
      rw [invariant.max_of_none none, if_pos rfl, ← periods]
      simp [performedIn]
    rw [periods, returned]
    constructor
    · exact .inr
    · rintro (⟨period, inPeriods, large⟩ | below)
      · -- without a full set this happens only when no year is performed at all
        rw [← getNumberOfCores_le_performedIn] at large
        intro other inOthers
        rw [← periods] at inOthers
        have limited := invariant.performedIn_le (fun _ => performs_pos) inOthers
        cases Nat.eq_zero_or_pos (study.parameters.getNumberOfCores options) with
        | inl empty => omega
        | inr positive =>
          rw [max_eq_left positive] at full_iff reached
          exact absurd (full_iff.mpr ⟨period, inPeriods, large⟩) reached
      · exact below

end

theorem buildSetsOfParallelYears_contract_iff (study : Study) (options : StudyLoadOptions) :
    ParallelYearsContract study (study.parameters.getNumberOfCores options)
      (buildSetsOfParallelYears study (study.parameters.getNumberOfCores options) 0
        study.parameters.nbYears) ↔ MaximumIsSeen study options := by
  cases Nat.eq_zero_or_pos study.parameters.nbYears with
  | inl none =>
    refine iff_of_true ?_ (.inr ?_)
    · rw [none]
      constructor <;> simp [buildSetsOfParallelYears, BuildState.start, none]
    · simp [refreshPeriods, none, segments]
  | inr someYear =>
    obtain ⟨done, current, invariant⟩ := buildSetsOfParallelYears_invariant options someYear
    rw [invariant.contract_iff fun _ => performs_pos]
    exact invariant.covered_iff

/-- Five years on four cores; only one cluster generates its series, every two years. -/
def forcedGenerationStudy : Study where
  parameters :=
    { nbYears := 5
      derated := false
      userPlaylist := false
      yearsFilter := fun _ => true
      timeSeriesToGenerate := fun _ => false
      timeSeriesToRefresh := fun _ => false
      refreshInterval := fun _ => 2
      nbTimeSeries := fun _ => 1
      intraModal := fun _ => false
      interModal := fun _ => false
      renewableGeneration := .rgAggregated
      ncMode := .ncMax
      nbYears_le := by decide
      refreshInterval_pos := fun _ => Nat.two_pos
      filter_of_no_playlist := fun _ _ => rfl }
  areas :=
    [{ loadWidth := 1, solarWidth := 1, windWidth := 1, hydroWidth := 1
       thermalMapping := [⟨true, false, .forceGen, true, 1, 100, 1⟩]
       renewableList := [], links := [] }]
  groups := []

def fourCores : StudyLoadOptions where
  nbLogicalCores := 4
  forceParallel := false
  maxNbYearsInParallel := 0
  nbLogicalCores_pos := by decide
  forced_pos := by decide

/-- The sets {0, 1}, {2, 3}, {4} are built and the returned maximum is one. -/
theorem forcedGenerationStudy_contract_fails :
    ¬ParallelYearsContract forcedGenerationStudy
      (forcedGenerationStudy.parameters.getNumberOfCores fourCores)
      (buildSetsOfParallelYears forcedGenerationStudy
        (forcedGenerationStudy.parameters.getNumberOfCores fourCores) 0
        forcedGenerationStudy.parameters.nbYears) := by
  intro contract
  have covered : ∀ count ∈ ((buildSetsOfParallelYears forcedGenerationStudy
      (forcedGenerationStudy.parameters.getNumberOfCores fourCores) 0
      forcedGenerationStudy.parameters.nbYears).sets.map (·.nbPerformedYears)), count ≤ 1 :=
    List.forall_mem_map.mpr contract.covered
  exact absurd (covered 2 (by decide)) (by decide)

end Antares.Solver
