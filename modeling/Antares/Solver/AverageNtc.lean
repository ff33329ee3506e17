import Antares.Data.Matrix
import Antares.GeneralData.LoadedYears
import Antares.Library.KeyedMaps
import Antares.Optimisation.FlowQuad

/-! The mean capacities of a link over the years: the weights of the years are added up by drawn series
before the series are averaged.
-/

set_option autoImplicit false

namespace Antares.Solver

open Data GeneralData Library

section Source
variable (parameters : Parameters ℚ)

def getYearsWeight : List ℚ :=
  if parameters.userPlaylist then parameters.yearsWeight else List.replicate parameters.nbYears 1

/-- `none` where a year has no place in a table. -/
def getYearsWeightSum : Option ℚ :=
  if parameters.userPlaylist then
    ((List.range parameters.nbYears).foldlM (fun (result : ℚ) (i : ℕ) => do
      let performed ← parameters.yearsFilter[i]?
      if performed then return result + (← parameters.yearsWeight[i]?) else return result) 0).map
      fun result => if result = 0 then 1 else result
  else some parameters.nbYears

variable (capacities : Matrix) (tsNumbers : List ℕ)

/-- `tsNumbers` is the first column of the matrix of the drawn series. -/
def tsIndex (y : ℕ) : Option ℕ := if capacities.width = 1 then some 0 else tsNumbers[y]?

def weightOfTS : Option (List (ℕ × ℚ)) :=
  (List.range parameters.nbYears).foldlM (fun (weightOfTS : List (ℕ × ℚ)) (y : ℕ) => do
    let performed ← parameters.yearsFilter[y]?
    if performed then
      return KeyedMap.add weightOfTS (← tsIndex capacities tsNumbers y) (← (getYearsWeight parameters)[y]?)
    else return weightOfTS) []

def addSeries (avg : ℕ → ℚ) (it : ℕ × ℚ) : Option (ℕ → ℚ) :=
  if it.1 < capacities.width ∧ hoursPerYear ≤ capacities.height then
    some fun h => avg h + capacities.entry it.1 h * it.2
  else none

/-- The hours of `avg`; `none` also stands for the quotients by zero. -/
def retrieveAverageNTC : Option (ℕ → ℚ) := do
  let yearsWeightSum ← getYearsWeightSum parameters
  let avg ← (← weightOfTS parameters capacities tsNumbers).foldlM (addSeries capacities) fun _ => 0
  if yearsWeightSum = 0 then none else return fun h => avg h / yearsWeightSum

end Source

section Loops
variable {σ ι : Type}

theorem foldlM_some {step : σ → ι → Option σ} {update : σ → ι → σ} {performed : ι → Bool} {items : List ι}
    (read : ∀ state, ∀ item ∈ items, step state item = some (if performed item then update state item else state))
    (start : σ) : items.foldlM step start = some ((items.filter performed).foldl update start) := by
  induction items generalizing start with
  | nil => rfl
  | cons item items ih =>
    have later := ih fun state other inside => read state other (List.mem_cons_of_mem item inside)
    rw [List.foldlM_cons, read start item List.mem_cons_self, Option.bind_eq_bind, Option.bind_some, later]
    cases kept : performed item with
    | false => rw [List.filter_cons_of_neg (by simp [kept])]; rfl
    | true => rw [List.filter_cons_of_pos kept]; rfl

theorem foldl_add_sum (weight : ι → ℚ) (items : List ι) (start : ℚ) :
    items.foldl (fun result item => result + weight item) start = start + (items.map weight).sum := by
  induction items generalizing start with
  | nil => exact (add_zero start).symm
  | cons item items ih => rw [List.foldl_cons, ih, List.map_cons, List.sum_cons, add_assoc]

end Loops

section Means
variable (d : Parameters ℚ)

def followsPlaylist : Bool := d.userPlaylist && !d.derated

/-- The years that are simulated: those of the playlist, or all of them. -/
def performedYears : List ℕ :=
  (List.range d.nbYears).filter fun year => !followsPlaylist d || d.yearsFilter.getD year false

def weightOfYear (year : ℕ) : ℚ := if followsPlaylist d then d.yearsWeight.getD year 0 else 1

def seriesOfYear (capacities : Matrix) (tsNumbers : List ℕ) (year : ℕ) : ℕ :=
  if capacities.width = 1 then 0 else tsNumbers.getD year 0

structure Weighed : Prop where
  positive : 0 < d.nbYears
  filter : d.nbYears ≤ d.yearsFilter.length
  weight : followsPlaylist d = true → d.nbYears ≤ d.yearsWeight.length
  nonneg : ∀ weight ∈ d.yearsWeight, 0 ≤ weight

structure Drawn (years : List ℕ) (capacities : Matrix) (tsNumbers : List ℕ) : Prop where
  hours : hoursPerYear ≤ capacities.height
  series : ∀ year ∈ years, capacities.width = 1 ∨ ∃ number, tsNumbers[year]? = some number ∧ number < capacities.width

variable {d} {prepared : Parameters ℚ} {options : GeneralData.StudyLoadOptions}

theorem prepareForSimulation_playlist (ready : d.prepareForSimulation options = some prepared) :
    prepared.userPlaylist = followsPlaylist d ∧ prepared.nbYears = d.nbYears ∧ prepared.yearsWeight = d.yearsWeight ∧
      prepared.yearsFilter =
        if followsPlaylist d then d.yearsFilter else List.replicate d.yearsFilter.length true := by
  obtain ⟨played, counted, rfl⟩ := Option.map_eq_some_iff.mp ready
  have kept : ((played.prepareVariables.prepareYearByYear options).prepareSeries.prepareImport options).userPlaylist =
      played.userPlaylist := by
    dsimp only [Parameters.prepareImport, Parameters.prepareSeries]
    split <;> rfl
  have years : ((played.prepareVariables.prepareYearByYear options).prepareSeries.prepareImport options).years =
      played.years := by
    dsimp only [Parameters.prepareImport, Parameters.prepareSeries, Parameters.years]
    split <;> rfl
  simp only [Parameters.years, Prod.mk.injEq] at years
  rw [kept, years.1, years.2.1, years.2.2.1]
  unfold Parameters.prepareYears at counted
  cases follows : followsPlaylist d with
  | true =>
    have on : d.prepareModes.userPlaylist = true := follows
    rw [if_pos on] at counted
    split_ifs at counted
    cases counted
    exact ⟨follows, rfl, rfl, rfl⟩
  | false =>
    have off : ¬ d.prepareModes.userPlaylist = true := by
      intro on
      exact Bool.false_ne_true (follows.symm.trans on)
    rw [if_neg off] at counted
    cases counted
    exact ⟨follows, rfl, rfl, rfl⟩

variable (ready : d.prepareForSimulation options = some prepared) (weighed : Weighed d)
include ready weighed

theorem yearsFilter_read {year : ℕ} (inside : year < d.nbYears) :
    prepared.yearsFilter[year]? = some (!followsPlaylist d || d.yearsFilter.getD year false) := by
  obtain ⟨-, -, -, filter⟩ := prepareForSimulation_playlist ready
  have place : year < d.yearsFilter.length := lt_of_lt_of_le inside weighed.filter
  rw [filter]
  cases followsPlaylist d with
  | true => simp [place]
  | false => simp [place]

theorem getYearsWeight_read {year : ℕ} (inside : year < d.nbYears) :
    (getYearsWeight prepared)[year]? = some (weightOfYear d year) := by
  obtain ⟨playlist, number, weight, -⟩ := prepareForSimulation_playlist ready
  rw [getYearsWeight, weightOfYear, playlist, number, weight]
  cases follows : followsPlaylist d with
  | true =>
    have place : year < d.yearsWeight.length := lt_of_lt_of_le inside (weighed.weight follows)
    simp [place]
  | false => simp [inside]

omit weighed in
/-- A loop over the years does its work for the performed ones. -/
theorem foldlM_years {σ : Type} {step : σ → ℕ → Option σ} {update : σ → ℕ → σ}
    (read : ∀ state, ∀ year ∈ List.range d.nbYears, step state year =
      some (if !followsPlaylist d || d.yearsFilter.getD year false then update state year else state)) (start : σ) :
    (List.range prepared.nbYears).foldlM step start = some ((performedYears d).foldl update start) := by
  rw [(prepareForSimulation_playlist ready).2.1]
  exact foldlM_some read start

theorem getYearsWeightSum_eq : getYearsWeightSum prepared =
    some (if ((performedYears d).map (weightOfYear d)).sum = 0 then 1
      else ((performedYears d).map (weightOfYear d)).sum) := by
  obtain ⟨playlist, number, -, -⟩ := prepareForSimulation_playlist ready
  have weights (year : ℕ) (inside : year < d.nbYears) := getYearsWeight_read ready weighed inside
  unfold getYearsWeightSum
  unfold getYearsWeight at weights
  rw [playlist]
  rw [playlist] at weights
  cases follows : followsPlaylist d with
  | true =>
    rw [follows] at weights
    rw [if_pos rfl]
    have added : (List.range prepared.nbYears).foldlM (fun (result : ℚ) (i : ℕ) => do
        let performed ← prepared.yearsFilter[i]?
        if performed then return result + (← prepared.yearsWeight[i]?) else return result) 0 =
        some ((performedYears d).foldl (fun result year => result + weightOfYear d year) 0) := by
      apply foldlM_years ready
      intro result year inside
      have within := List.mem_range.mp inside
      have read : prepared.yearsWeight[year]? = some (weightOfYear d year) := weights year within
      rw [yearsFilter_read ready weighed within, read]
      cases (!followsPlaylist d || d.yearsFilter.getD year false) <;> rfl
    rw [added, foldl_add_sum, zero_add, Option.map_some]
  | false =>
    -- every year counts for one
    have all : performedYears d = List.range d.nbYears := by
      simp [performedYears, follows]
    have ones : weightOfYear d = fun _ => 1 := by
      funext year
      simp [weightOfYear, follows]
    have some_year : (d.nbYears : ℚ) ≠ 0 := Nat.cast_ne_zero.mpr weighed.positive.ne'
    rw [all, ones, number]
    simp [some_year]

variable {capacities : Matrix} {tsNumbers : List ℕ} (drawn : Drawn (performedYears d) capacities tsNumbers)
include drawn

theorem weightOfTS_eq : weightOfTS prepared capacities tsNumbers =
    some (KeyedMap.tally (seriesOfYear capacities tsNumbers) (weightOfYear d) (performedYears d)) := by
  apply foldlM_years ready
  intro entries year inside
  have within := List.mem_range.mp inside
  rw [yearsFilter_read ready weighed within, getYearsWeight_read ready weighed within]
  cases performed : !followsPlaylist d || d.yearsFilter.getD year false with
  | false => rfl
  | true =>
    have series : tsIndex capacities tsNumbers year = some (seriesOfYear capacities tsNumbers year) := by
      unfold tsIndex seriesOfYear
      by_cases one : capacities.width = 1
      · rw [if_pos one, if_pos one]
      · obtain ⟨number, read, -⟩ := (drawn.series year (List.mem_filter.mpr ⟨inside, performed⟩)).resolve_left one
        rw [if_neg one, if_neg one, read, List.getD_eq_getElem?_getD, read, Option.getD_some]
    rw [series]
    rfl

omit ready weighed in
theorem seriesOfYear_lt {year : ℕ} (performed : year ∈ performedYears d) :
    seriesOfYear capacities tsNumbers year < capacities.width := by
  unfold seriesOfYear
  by_cases one : capacities.width = 1
  · rw [if_pos one, one]
    exact Nat.one_pos
  · obtain ⟨number, read, less⟩ := (drawn.series year performed).resolve_left one
    rw [if_neg one, List.getD_eq_getElem?_getD, read]
    exact less

end Means

section Columns
variable {capacities : Matrix} (hours : hoursPerYear ≤ capacities.height)
include hours

theorem foldlM_addSeries {entries : List (ℕ × ℚ)} (inside : ∀ entry ∈ entries, entry.1 < capacities.width) (avg : ℕ → ℚ) :
    entries.foldlM (addSeries capacities) avg =
      some fun h => avg h + KeyedMap.total (fun series => capacities.entry series h) entries := by
  induction entries generalizing avg with
  | nil =>
    simp [KeyedMap.total]
  | cons entry entries ih =>
    have added : addSeries capacities avg entry = some fun h => avg h + capacities.entry entry.1 h * entry.2 :=
      if_pos ⟨inside entry List.mem_cons_self, hours⟩
    rw [List.foldlM_cons, added, Option.bind_eq_bind, Option.bind_some,
      ih fun other member => inside other (List.mem_cons_of_mem entry member)]
    congr 1
    funext h
    rw [KeyedMap.total_cons, add_assoc]

end Columns

theorem sum_eq_zero_of_weights {weight value : ℕ → ℚ} {years : List ℕ} (nonneg : ∀ year ∈ years, 0 ≤ weight year)
    (zero : (years.map weight).sum = 0) : (years.map fun year => value year * weight year).sum = 0 := by
  apply List.sum_eq_zero
  intro term listed
  obtain ⟨year, inside, rfl⟩ := List.mem_map.mp listed
  have null : weight year = 0 := by
    apply List.all_zero_of_le_zero_le_of_sum_eq_zero _ zero
    · exact List.mem_map_of_mem inside
    · exact List.forall_mem_map.mpr nonneg
  rw [null, mul_zero]

section Result
variable {d prepared : Parameters ℚ} {options : GeneralData.StudyLoadOptions}

theorem weightOfYear_nonneg (weighed : Weighed d) (year : ℕ) : 0 ≤ weightOfYear d year := by
  unfold weightOfYear
  split
  · rw [List.getD_eq_getElem?_getD]
    cases read : d.yearsWeight[year]? with
    | none => exact le_refl 0
    | some weight => exact weighed.nonneg weight (List.mem_of_getElem? read)
  · exact zero_le_one

theorem retrieveAverageNTC_sums (ready : d.prepareForSimulation options = some prepared) (weighed : Weighed d)
    (capacities : Matrix) (tsNumbers : List ℕ) (drawn : Drawn (performedYears d) capacities tsNumbers) :
    retrieveAverageNTC prepared capacities tsNumbers = some fun h =>
      ((performedYears d).map fun year =>
          capacities.entry (seriesOfYear capacities tsNumbers year) h * weightOfYear d year).sum /
        (if ((performedYears d).map (weightOfYear d)).sum = 0 then 1 else ((performedYears d).map (weightOfYear d)).sum) := by
  have inside : ∀ entry ∈ KeyedMap.tally (seriesOfYear capacities tsNumbers) (weightOfYear d) (performedYears d),
      entry.1 < capacities.width := by
    intro entry member
    obtain ⟨year, performed, same⟩ := KeyedMap.key_of_mem_tally member
    rw [← same]
    exact seriesOfYear_lt drawn performed
  have averaged := retrieveAverageNTC.eq_def prepared capacities tsNumbers
  simp only [getYearsWeightSum_eq ready weighed, weightOfTS_eq ready weighed drawn, foldlM_addSeries drawn.hours inside,
    KeyedMap.total_tally, Option.bind_eq_bind, Option.bind_some, zero_add] at averaged
  have divisor : (if ((performedYears d).map (weightOfYear d)).sum = 0 then 1
      else ((performedYears d).map (weightOfYear d)).sum) ≠ 0 := by
    split_ifs with zero
    · exact one_ne_zero
    · exact zero
  rwa [if_neg divisor] at averaged

/-- Three years of which the second one is not played; the other two have different series. -/
def threeYears : Parameters ℚ :=
  { (default : Parameters ℚ) with
    nbYears := 3
    userPlaylist := true
    yearsFilter := [true, false, true]
    yearsWeight := [1, 5, 3] }

def twoSeries : Matrix where
  width := 2
  height := hoursPerYear
  entry series _ := if series = 0 then 400 else 0

section FlowQuad
open Optimisation

variable {study : FlowQuadStudy} (number : study.nbYears = d.nbYears) (playlist : study.userPlaylist = followsPlaylist d)
  (filter : study.yearsFilter = fun year => !followsPlaylist d || d.yearsFilter.getD year false)
  (weights : study.yearsWeight = fun year => d.yearsWeight.getD year 0)
include number playlist filter weights

theorem retrieveAverageNTC_flowQuad (ready : d.prepareForSimulation options = some prepared) (weighed : Weighed d)
    (capacities : Matrix) (tsNumbers : List ℕ) (drawn : Drawn (performedYears d) capacities tsNumbers) :
    retrieveAverageNTC prepared capacities tsNumbers = some fun h =>
      study.retrieveAverageNTC ⟨capacities.width, capacities.entry⟩ (fun year => tsNumbers.getD year 0) h := by
  have years : study.performedYears = performedYears d := by
    rw [FlowQuadStudy.performedYears, number, filter, performedYears]
  have weight : study.getYearsWeight = weightOfYear d := by
    funext year
    rw [FlowQuadStudy.getYearsWeight, playlist, weights, weightOfYear]
  have total := study.totalWeight_pos
  rw [FlowQuadStudy.totalWeight, years, weight] at total
  rw [retrieveAverageNTC_sums ready weighed capacities tsNumbers drawn]
  congr 1
  funext h
  rw [FlowQuadStudy.retrieveAverageNTC_eq, FlowQuadStudy.yearlyMean, years, weight, if_neg total.ne', weightedMean]
  simp only [mul_comm]
  rfl

end FlowQuad

end Result

end Antares.Solver
