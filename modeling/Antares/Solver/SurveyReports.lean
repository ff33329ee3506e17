import Antares.Solver.IntermediateValues
import Antares.Library.Means
import Mathlib.Algebra.Order.Ring.Rat
import Mathlib.Data.List.GetD

/-! The synthesis of an area: the years of the playlist are merged one by one, reports are written at each level of
time that the area asks for, and the digest comes last. The extrema over the years come with their year.
-/

set_option autoImplicit false

namespace Antares.Solver.Variable

open Data Library

/-- The years of a study and their weights, as they are when the simulation begins. -/
structure Playlist where
  nbYears : Nat
  userPlaylist : Bool
  yearsFilter : List Bool
  yearsWeight : List Rat
  filtered : yearsFilter.length = nbYears
  weighted : yearsWeight.length = nbYears
  /-- The solver plays every year where no playlist is asked for. -/
  played : userPlaylist = false → ∀ isPlayed ∈ yearsFilter, isPlayed = true

namespace Playlist
variable (playlist : Playlist)

def isPerformed (year : Nat) : Bool := playlist.yearsFilter.getD year false

def getYearsWeight : List Rat :=
  if playlist.userPlaylist then playlist.yearsWeight else List.replicate playlist.nbYears 1

def getYearsWeightSum : Rat :=
  if playlist.userPlaylist then
    let result := (List.range playlist.nbYears).foldl
      (fun result i => if playlist.isPerformed i then result + playlist.yearsWeight.getD i 0 else result) 0
    if result = 0 then 1 else result
  else playlist.nbYears

def performed : List Nat := (List.range playlist.nbYears).filter playlist.isPerformed

def weight (year : Nat) : Rat := playlist.getYearsWeight.getD year 0

end Playlist

inductive Precision where
  | hourly | daily | weekly | monthly | annual
  deriving DecidableEq, Repr

def Precision.all : List Precision := [.hourly, .daily, .weekly, .monthly, .annual]

def Precision.size : Precision → Nat
  | .hourly => maxHoursInAYear
  | .daily => maxDaysInAYear
  | .weekly => maxWeeksInAYear
  | .monthly => maxMonths
  | .annual => 1

inductive FileLevel where
  | va | id | de | deRes | bc | deSts
  deriving DecidableEq, Repr

def FileLevel.all : List FileLevel := [.va, .id, .de, .deRes, .bc, .deSts]

def IntermediateValues.at (values : IntermediateValues) : Precision → Nat → Rat
  | .hourly => values.hour
  | .daily => values.day
  | .weekly => values.week
  | .monthly => values.month
  | .annual => fun _ => values.year

structure AverageData where
  monthly : Nat → Rat
  weekly : Nat → Rat
  daily : Nat → Rat
  hourly : Nat → Rat
  year : Nat → Rat
  nbYearsCapacity : Nat
  allYears : Rat
  yearsWeight : List Rat
  yearsWeightSum : Rat

structure StdDeviation where
  stdDeviationMonthly : Nat → Rat
  stdDeviationWeekly : Nat → Rat
  stdDeviationDaily : Nat → Rat
  stdDeviationHourly : Nat → Rat
  stdDeviationYear : Rat
  yearsWeight : List Rat
  yearsWeightSum : Rat

structure Results where
  avgdata : AverageData
  deviation : Option StdDeviation

def addTo (size : Nat) (array more : Nat → Rat) (i : Nat) : Rat :=
  if i < size then array i + more i else array i

namespace AverageData

/-- The constructor, `initializeFromStudy` and `reset` -/
def initializeFromStudy (playlist : Playlist) : AverageData where
  monthly _ := 0
  weekly _ := 0
  daily _ := 0
  hourly _ := 0
  year _ := 0
  nbYearsCapacity := playlist.nbYears
  allYears := 0
  yearsWeight := playlist.getYearsWeight
  yearsWeightSum := playlist.getYearsWeightSum

variable (data : AverageData)

def merge (y : Nat) (rhs : IntermediateValues) : AverageData :=
  let ratio := data.yearsWeight.getD y 0 / data.yearsWeightSum
  { data with
    hourly := addTo maxHoursInAYear data.hourly fun i => rhs.hour i * ratio
    daily := addTo maxDaysInAYear data.daily fun i => rhs.day i * ratio
    weekly := addTo maxWeeksInAYear data.weekly fun i => rhs.week i * ratio
    monthly := addTo maxMonths data.monthly fun i => rhs.month i * ratio
    year := Function.update data.year y (data.year y + rhs.year * ratio) }

def array : Precision → Nat → Rat
  | .hourly => data.hourly
  | .daily => data.daily
  | .weekly => data.weekly
  | .monthly => data.monthly
  | .annual => data.year

end AverageData

namespace StdDeviation

def initializeFromStudy (playlist : Playlist) : StdDeviation where
  stdDeviationMonthly _ := 0
  stdDeviationWeekly _ := 0
  stdDeviationDaily _ := 0
  stdDeviationHourly _ := 0
  stdDeviationYear := 0
  yearsWeight := playlist.getYearsWeight
  yearsWeightSum := playlist.getYearsWeightSum

variable (data : StdDeviation)

def merge (year : Nat) (rhs : IntermediateValues) : StdDeviation :=
  let pRatio := data.yearsWeight.getD year 0 / data.yearsWeightSum
  { data with
    stdDeviationHourly := addTo maxHoursInAYear data.stdDeviationHourly fun i => rhs.hour i * rhs.hour i * pRatio
    stdDeviationDaily := addTo maxDaysInAYear data.stdDeviationDaily fun i => rhs.day i * rhs.day i * pRatio
    stdDeviationWeekly := addTo maxWeeksInAYear data.stdDeviationWeekly fun i => rhs.week i * rhs.week i * pRatio
    stdDeviationMonthly := addTo maxMonths data.stdDeviationMonthly fun i => rhs.month i * rhs.month i * pRatio
    stdDeviationYear := data.stdDeviationYear + rhs.year * rhs.year * pRatio }

def array : Precision → Nat → Rat
  | .hourly => data.stdDeviationHourly
  | .daily => data.stdDeviationDaily
  | .weekly => data.stdDeviationWeekly
  | .monthly => data.stdDeviationMonthly
  | .annual => fun _ => data.stdDeviationYear

end StdDeviation

def Results.merge (results : Results) (year : Nat) (rhs : IntermediateValues) : Results where
  avgdata := results.avgdata.merge year rhs
  deviation := results.deviation.map fun deviation => deviation.merge year rhs

inductive FileCategory where
  /-- `id | va` -/
  | valuesAndYears
  | values
  | thermal
  | renewable
  | storage
  deriving DecidableEq, Repr

def FileCategory.has : FileCategory → FileLevel → Bool
  | .valuesAndYears, .va | .valuesAndYears, .id | .values, .va => true
  | .thermal, .de | .renewable, .deRes | .storage, .deSts => true
  | _, _ => false

/-- A variable of an area, or one of its columns, with its values at the end of each year. -/
structure OutputVariable where
  caption : String
  unit : String
  decimal : Nat
  categoryFileLevel : FileCategory
  hasDeviation : Bool
  isPrinted : Bool
  isNonApplicable : Bool
  valuesForTheYear : Nat → IntermediateValues

inductive Written where
  | number (x : Rat)
  | squareRoot (x : Rat)
  deriving DecidableEq, Repr

structure ReportColumn where
  captions : String × String × String
  precision : Nat
  nonApplicable : Bool
  values : List Written

structure SurveyReport where
  fileLevel : FileLevel
  precision : Precision
  columns : List ReportColumn

namespace OutputVariable
variable (item : OutputVariable)

variable (playlist : Playlist)

def initializeResults : Results where
  avgdata := .initializeFromStudy playlist
  deviation := if item.hasDeviation then some (.initializeFromStudy playlist) else none

/-- The results of the simulation, for the order in which the years were merged -/
def computeSummary (order : List Nat) : Results :=
  order.foldl (fun results year => results.merge year (item.valuesForTheYear year))
    (item.initializeResults playlist)

def expectation : String := if item.caption = "LOLP" then "values" else "EXP"

def column (kind : String) (values : List Written) : ReportColumn where
  captions := (item.caption, item.unit, kind)
  precision := item.decimal
  nonApplicable := item.isNonApplicable
  values := values

variable (avgdata : AverageData)

/-- `Average::InternalExportValues`: the annual mean is summed up here, and kept. -/
def exportAverage : Precision → AverageData × ReportColumn
  | .annual =>
    let target := (List.range' 0 avgdata.nbYearsCapacity).foldl (fun target i => target + avgdata.year i) 0
    ({ avgdata with allYears := target }, item.column item.expectation [.number target])
  | precision =>
    (avgdata, item.column item.expectation
      ((List.range precision.size).map fun i => .number (avgdata.array precision i)))

/-- `StdDeviation::InternalExportValues` -/
def exportDeviation (deviation : StdDeviation) : Precision → ReportColumn
  | .annual => item.column "std"
    [.squareRoot (deviation.stdDeviationYear - avgdata.allYears * avgdata.allYears)]
  | precision => item.column "std" ((List.range precision.size).map fun i =>
    .squareRoot (deviation.array precision i - avgdata.array precision i * avgdata.array precision i))

def buildSurveyReport (fileLevel : FileLevel) (precision : Precision) (results : Results) :
    Results × List ReportColumn :=
  if item.categoryFileLevel.has fileLevel && item.isPrinted && fileLevel != .id then
    let (avgdata, average) := item.exportAverage results.avgdata precision
    ({ results with avgdata := avgdata },
      average :: (results.deviation.map fun deviation => item.exportDeviation avgdata deviation precision).toList)
  else (results, [])

inductive DigestCell where
  | notApplicable
  | value (x : Rat)
  deriving DecidableEq, Repr

def isCluster : Bool :=
  item.categoryFileLevel == .thermal || item.categoryFileLevel == .renewable ||
    item.categoryFileLevel == .storage

def isInDigest : Bool := item.isPrinted && !item.isCluster

def digestColumn (x : Rat) : (String × String × String) × DigestCell :=
  ((item.caption, item.unit, item.expectation),
    if item.isNonApplicable then .notApplicable else .value x)

end OutputVariable

structure Area where
  filterSynthesis : Precision → Bool
  outputs : List OutputVariable

namespace Area
variable (area : Area)

def getNbSelectedZonalVars : Nat := area.outputs.countP fun item => item.isPrinted

abbrev Stored := List (OutputVariable × Results)

def buildSurveyReport (fileLevel : FileLevel) (precision : Precision) (stored : Stored) :
    Stored × List ReportColumn :=
  if area.filterSynthesis precision then
    (stored.map fun one => (one.1, (one.1.buildSurveyReport fileLevel precision one.2).1),
      stored.flatMap fun one => (one.1.buildSurveyReport fileLevel precision one.2).2)
  else (stored, [])

def runReport (state : Stored × List SurveyReport) (at' : FileLevel × Precision) : Stored × List SurveyReport :=
  let (stored, columns) := area.buildSurveyReport at'.1 at'.2 state.1
  (stored, state.2 ++ if columns.isEmpty then [] else [⟨at'.1, at'.2, columns⟩])

def steps : List (FileLevel × Precision) :=
  FileLevel.all.flatMap fun fileLevel => Precision.all.map fun precision => (fileLevel, precision)

def skipDirectory : Bool :=
  !(Precision.all.any area.filterSynthesis) || area.getNbSelectedZonalVars == 0

def runForEachArea (stored : Stored) : Stored × List SurveyReport :=
  if area.skipDirectory then (stored, []) else steps.foldl area.runReport (stored, [])

def computeSummary (playlist : Playlist) (order : List Nat) : Stored :=
  area.outputs.map fun item => (item, item.computeSummary playlist order)

def exportSurveyResults (playlist : Playlist) (order : List Nat) :
    List SurveyReport × List ((String × String × String) × OutputVariable.DigestCell) :=
  let (stored, reports) := area.runForEachArea (area.computeSummary playlist order)
  (reports, (stored.filter fun one => one.1.isInDigest).map fun one =>
    one.1.digestColumn one.2.avgdata.allYears)

end Area

namespace Playlist
variable (playlist : Playlist)

theorem weight_of_user (user : playlist.userPlaylist = true) (year : Nat) :
    playlist.weight year = playlist.yearsWeight.getD year 0 := by
  unfold weight getYearsWeight
  rw [if_pos user]

theorem isPerformed_of_not_user (none_asked : playlist.userPlaylist = false) {year : Nat}
    (inside : year < playlist.nbYears) : playlist.isPerformed year = true := by
  unfold isPerformed
  rw [List.getD_eq_getElem _ _ (playlist.filtered.symm ▸ inside)]
  exact playlist.played none_asked _ (List.getElem_mem _)

theorem weight_of_not_user (none_asked : playlist.userPlaylist = false) {year : Nat}
    (inside : year < playlist.nbYears) : playlist.weight year = 1 := by
  unfold weight getYearsWeight
  simp [none_asked, inside]

theorem foldl_performed (isPerformed : Nat → Bool) (weight : Nat → Rat) (years : List Nat) (result : Rat) :
    years.foldl (fun result i => if isPerformed i then result + weight i else result) result =
      result + ((years.filter isPerformed).map weight).sum := by
  induction years generalizing result with
  | nil => simp
  | cons year years ih =>
    rw [List.foldl_cons, ih, List.filter_cons]
    split
    · rw [List.map_cons, List.sum_cons, add_assoc]
    · rfl

theorem getYearsWeightSum_eq (positive : 0 < (playlist.performed.map playlist.weight).sum) :
    playlist.getYearsWeightSum = (playlist.performed.map playlist.weight).sum := by
  unfold getYearsWeightSum
  cases user : playlist.userPlaylist with
  | true =>
    have same : playlist.weight = fun year => playlist.yearsWeight.getD year 0 :=
      funext (playlist.weight_of_user user)
    rw [same] at positive ⊢
    rw [if_pos rfl, foldl_performed, zero_add]
    exact if_neg positive.ne'
  | false =>
    have all : playlist.performed = List.range playlist.nbYears := by
      apply List.filter_eq_self.mpr
      intro year listed
      exact playlist.isPerformed_of_not_user user (List.mem_range.mp listed)
    have ones : (List.range playlist.nbYears).map playlist.weight = List.replicate playlist.nbYears 1 := by
      rw [List.eq_replicate_iff, List.length_map, List.length_range]
      refine ⟨rfl, fun x listed => ?_⟩
      obtain ⟨year, inside, rfl⟩ := List.mem_map.mp listed
      exact playlist.weight_of_not_user user (List.mem_range.mp inside)
    rw [all, ones, List.sum_replicate]
    simp

end Playlist

def AverageData.ratio (data : AverageData) (y : Nat) : Rat := data.yearsWeight.getD y 0 / data.yearsWeightSum

def StdDeviation.ratio (data : StdDeviation) (y : Nat) : Rat := data.yearsWeight.getD y 0 / data.yearsWeightSum

section
variable {precision : Precision} {i : Nat}

theorem AverageData.merge_array (below : precision ≠ .annual) (inside : i < precision.size) (data : AverageData)
    (y : Nat) (rhs : IntermediateValues) :
    (data.merge y rhs).array precision i = data.array precision i + rhs.at precision i * data.ratio y := by
  cases precision with
  | annual => exact absurd rfl below
  | hourly | daily | weekly | monthly => exact if_pos inside

theorem StdDeviation.merge_array (inside : i < precision.size) (data : StdDeviation) (y : Nat)
    (rhs : IntermediateValues) : (data.merge y rhs).array precision i =
      data.array precision i + rhs.at precision i ^ 2 * data.ratio y := by
  rw [sq]
  cases precision with
  | annual => rfl
  | hourly | daily | weekly | monthly => exact if_pos inside

variable (values : Nat → IntermediateValues) (order : List Nat)

theorem AverageData.foldl_merge_array (below : precision ≠ .annual) (inside : i < precision.size)
    (data : AverageData) : (order.foldl (fun data y => data.merge y (values y)) data).array precision i =
      data.array precision i + (order.map fun y => (values y).at precision i * data.ratio y).sum := by
  induction order generalizing data with
  | nil => simp
  | cons y order ih =>
    rw [List.foldl_cons, ih, merge_array below inside, List.map_cons, List.sum_cons, add_assoc]
    rfl

theorem StdDeviation.foldl_merge_array (inside : i < precision.size) (data : StdDeviation) :
    (order.foldl (fun data y => data.merge y (values y)) data).array precision i =
      data.array precision i + (order.map fun y => (values y).at precision i ^ 2 * data.ratio y).sum := by
  induction order generalizing data with
  | nil => simp
  | cons y order ih =>
    rw [List.foldl_cons, ih, merge_array inside, List.map_cons, List.sum_cons, add_assoc]
    rfl

variable (data : AverageData)

/-- The annual value of all years, as the annual report sums it up. -/
def AverageData.total : Rat :=
  (List.range' 0 data.nbYearsCapacity).foldl (fun target i => target + data.year i) 0

theorem AverageData.total_eq :
    data.total = ∑ y ∈ Finset.range data.nbYearsCapacity, data.year y := by
  unfold total
  rw [foldl_range'_add, zero_add, zero_add, Finset.range_eq_Ico]

theorem AverageData.foldl_merge_nbYearsCapacity :
    (order.foldl (fun data y => data.merge y (values y)) data).nbYearsCapacity = data.nbYearsCapacity := by
  induction order generalizing data with
  | nil => rfl
  | cons y order ih => exact ih (data.merge y (values y))

theorem AverageData.foldl_merge_total (played : ∀ y ∈ order, y < data.nbYearsCapacity) :
    (order.foldl (fun data y => data.merge y (values y)) data).total =
      data.total + (order.map fun y => (values y).year * data.ratio y).sum := by
  induction order generalizing data with
  | nil => simp
  | cons y order ih =>
    have inside : y < data.nbYearsCapacity := played y List.mem_cons_self
    have merged : (data.merge y (values y)).total = data.total + (values y).year * data.ratio y := by
      rw [total_eq, total_eq]
      have apart (year : Nat) : (data.merge y (values y)).year year =
          data.year year + if year = y then (values y).year * data.ratio y else 0 := by
        by_cases same : year = y
        · subst same
          rw [if_pos rfl]
          exact Function.update_self year _ data.year
        · rw [if_neg same, add_zero]
          exact Function.update_of_ne same _ data.year
      simp only [apart, Finset.sum_add_distrib]
      congr 1
      exact (Finset.sum_ite_eq' _ _ _).trans (if_pos (Finset.mem_range.mpr inside))
    rw [List.foldl_cons, ih (data.merge y (values y)) fun year listed => played year (List.mem_cons_of_mem y listed),
      merged, List.map_cons, List.sum_cons, add_assoc]
    rfl

end

namespace OutputVariable
variable (item : OutputVariable) (playlist : Playlist) (order : List Nat)

variable (values : Nat → IntermediateValues)

theorem foldl_merge_avgdata (results : Results) :
    (order.foldl (fun results year => results.merge year (values year)) results).avgdata =
      order.foldl (fun data year => data.merge year (values year)) results.avgdata := by
  induction order generalizing results with
  | nil => rfl
  | cons year order ih => exact ih (results.merge year (values year))

theorem foldl_merge_deviation (results : Results) :
    (order.foldl (fun results year => results.merge year (values year)) results).deviation =
      results.deviation.map fun deviation =>
        order.foldl (fun data year => data.merge year (values year)) deviation := by
  induction order generalizing results with
  | nil => exact (Option.map_id' ..).symm
  | cons year order ih =>
    rw [List.foldl_cons, ih]
    exact Option.map_map ..

variable (precision : Precision)

def mean (i : Nat) : Rat :=
  weightedMean playlist.performed playlist.weight fun y => (item.valuesForTheYear y).at precision i

def variance (i : Nat) : Rat :=
  weightedVariance playlist.performed playlist.weight fun y => (item.valuesForTheYear y).at precision i

def expectedColumns : List ReportColumn :=
  item.column item.expectation ((List.range precision.size).map fun i => .number (item.mean playlist precision i)) ::
    if item.hasDeviation then
      [item.column "std" ((List.range precision.size).map fun i => .squareRoot (item.variance playlist precision i))]
    else []

section
variable {playlist order} (perm : order.Perm playlist.performed)
  (positive : 0 < (playlist.performed.map playlist.weight).sum)
include perm positive

theorem sum_ratio (value : Nat → Rat) :
    (order.map fun y => value y * (playlist.getYearsWeight.getD y 0 / playlist.getYearsWeightSum)).sum =
      weightedMean playlist.performed playlist.weight value := by
  rw [playlist.getYearsWeightSum_eq positive, (perm.map _).sum_eq]
  unfold weightedMean
  rw [div_eq_mul_inv, ← List.sum_map_mul_right]
  congr 1
  apply List.map_congr_left
  intro y _
  change value y * (playlist.weight y / _) = _
  rw [mul_div_assoc', mul_comm (value y), div_eq_mul_inv]

theorem computeSummary_average {precision : Precision} (below : precision ≠ .annual) {i : Nat}
    (inside : i < precision.size) :
    (item.computeSummary playlist order).avgdata.array precision i = item.mean playlist precision i := by
  unfold computeSummary
  rw [foldl_merge_avgdata, AverageData.foldl_merge_array _ _ below inside]
  have empty : (item.initializeResults playlist).avgdata.array precision i = 0 := by cases precision <;> rfl
  rw [empty, zero_add]
  exact sum_ratio perm positive fun y => (item.valuesForTheYear y).at precision i

theorem computeSummary_total : (item.computeSummary playlist order).avgdata.total = item.mean playlist .annual 0 := by
  unfold computeSummary
  rw [foldl_merge_avgdata, AverageData.foldl_merge_total]
  · have empty : (item.initializeResults playlist).avgdata.total = 0 := by
      rw [AverageData.total_eq]
      exact Finset.sum_const_zero
    rw [empty, zero_add]
    exact sum_ratio perm positive fun y => (item.valuesForTheYear y).year
  · intro y listed
    exact List.mem_range.mp (List.mem_of_mem_filter (perm.subset listed))

theorem computeSummary_deviation {deviation : StdDeviation}
    (there : (item.computeSummary playlist order).deviation = some deviation) {precision : Precision} {i : Nat}
    (inside : i < precision.size) :
    deviation.array precision i - item.mean playlist precision i ^ 2 = item.variance playlist precision i := by
  unfold computeSummary at there
  rw [foldl_merge_deviation] at there
  obtain ⟨before, initial, rfl⟩ := Option.map_eq_some_iff.mp there
  have fresh : before = .initializeFromStudy playlist := by
    unfold initializeResults at initial
    split at initial
    · exact (Option.some.inj initial).symm
    · cases initial
  subst fresh
  rw [StdDeviation.foldl_merge_array _ _ inside]
  have empty : (StdDeviation.initializeFromStudy playlist).array precision i = 0 := by cases precision <;> rfl
  rw [empty, zero_add]
  unfold variance
  rw [weightedVariance_eq positive.ne']
  exact congrArg (· - item.mean playlist precision i ^ 2)
    (sum_ratio perm positive fun y => (item.valuesForTheYear y).at precision i ^ 2)

end

def columns (precision : Precision) (results : Results) : List ReportColumn :=
  (item.exportAverage results.avgdata precision).2 ::
    (results.deviation.map fun deviation =>
      item.exportDeviation (item.exportAverage results.avgdata precision).1 deviation precision).toList

theorem columns_computeSummary {playlist : Playlist} {order : List Nat} (perm : order.Perm playlist.performed)
    (positive : 0 < (playlist.performed.map playlist.weight).sum) (precision : Precision) :
    item.columns precision (item.computeSummary playlist order) = item.expectedColumns playlist precision := by
  have average : (item.exportAverage (item.computeSummary playlist order).avgdata precision).2 =
      item.column item.expectation
        ((List.range precision.size).map fun i => .number (item.mean playlist precision i)) := by
    have copied (below : precision ≠ .annual) : ((List.range precision.size).map fun i =>
        Written.number ((item.computeSummary playlist order).avgdata.array precision i)) =
        (List.range precision.size).map fun i => .number (item.mean playlist precision i) := by
      apply List.map_congr_left
      intro i listed
      rw [item.computeSummary_average perm positive below (List.mem_range.mp listed)]
    cases precision with
    | annual =>
      exact congrArg (fun x => item.column item.expectation [.number x]) (item.computeSummary_total perm positive)
    | hourly | daily | weekly | monthly =>
      exact congrArg (item.column item.expectation) (copied (by decide))
  have deviations (deviation : StdDeviation) (there : (item.computeSummary playlist order).deviation = some deviation) :
      item.exportDeviation (item.exportAverage (item.computeSummary playlist order).avgdata precision).1 deviation
        precision = item.column "std"
          ((List.range precision.size).map fun i => .squareRoot (item.variance playlist precision i)) := by
    have copied (below : precision ≠ .annual) : ((List.range precision.size).map fun i => Written.squareRoot
        (deviation.array precision i - (item.computeSummary playlist order).avgdata.array precision i *
          (item.computeSummary playlist order).avgdata.array precision i)) =
        (List.range precision.size).map fun i => .squareRoot (item.variance playlist precision i) := by
      apply List.map_congr_left
      intro i listed
      have inside := List.mem_range.mp listed
      rw [item.computeSummary_average perm positive below inside, ← sq,
        item.computeSummary_deviation perm positive there inside]
    cases precision with
    | annual =>
      have total := item.computeSummary_total perm positive
      have variance := item.computeSummary_deviation perm positive there (show 0 < Precision.annual.size by decide)
      rw [← total, sq] at variance
      exact congrArg (fun x => item.column "std" [.squareRoot x]) variance
    | hourly | daily | weekly | monthly => exact congrArg (item.column "std") (copied (by decide))
  unfold columns expectedColumns
  rw [average]
  congr 1
  cases has : item.hasDeviation with
  | false =>
    have none : (item.computeSummary playlist order).deviation = none := by
      unfold computeSummary initializeResults
      rw [foldl_merge_deviation, has]
      rfl
    rw [none]
    rfl
  | true =>
    have some_deviation : ∃ deviation, (item.computeSummary playlist order).deviation = some deviation := by
      unfold computeSummary initializeResults
      rw [foldl_merge_deviation, has]
      exact ⟨_, rfl⟩
    obtain ⟨deviation, there⟩ := some_deviation
    have same := deviations deviation there
    rw [there, if_pos rfl, ← same]
    rfl

end OutputVariable

def Results.withAllYears (results : Results) (x : Rat) : Results :=
  { results with avgdata := { results.avgdata with allYears := x } }

namespace OutputVariable
variable (item : OutputVariable) (results : Results)

variable (fileLevel : FileLevel)

def writes : Bool :=
  item.categoryFileLevel.has fileLevel && item.isPrinted && fileLevel != .id

theorem buildSurveyReport_withAllYears (precision : Precision) (x : Rat) :
    item.buildSurveyReport fileLevel precision (results.withAllYears x) =
      (results.withAllYears (if item.writes fileLevel ∧ precision = .annual then results.avgdata.total else x),
        if item.writes fileLevel then item.columns precision results else []) := by
  unfold buildSurveyReport
  change (if item.writes fileLevel then _ else _) = _
  cases item.writes fileLevel with
  | false => rfl
  | true => cases precision <;> rfl

end OutputVariable

namespace Area
variable (area : Area) (playlist : Playlist) (order : List Nat)

variable (kept : OutputVariable → Rat)

/-- The results after the reports, for what each variable then keeps. -/
def keeping : Stored :=
  area.outputs.map fun item => (item, (item.computeSummary playlist order).withAllYears (kept item))

theorem keeping_zero : area.computeSummary playlist order = area.keeping playlist order fun _ => 0 := by
  apply List.map_congr_left
  intro item _
  have unset : (item.computeSummary playlist order).avgdata.allYears = 0 := by
    unfold OutputVariable.computeSummary
    rw [OutputVariable.foldl_merge_avgdata]
    exact List.foldlRecOn order _ (motive := fun data : AverageData => data.allYears = 0) rfl fun _ zero _ _ => zero
  rw [Results.withAllYears, ← unset]

variable (at' : FileLevel × Precision)

def reportAt : List SurveyReport :=
  let columns := if area.filterSynthesis at'.2 then (area.outputs.filter fun item => item.writes at'.1).flatMap
    fun item => item.columns at'.2 (item.computeSummary playlist order) else []
  if columns.isEmpty then [] else [⟨at'.1, at'.2, columns⟩]

def setsAllYears (item : OutputVariable) : Prop :=
  area.filterSynthesis at'.2 ∧ item.writes at'.1 ∧ at'.2 = .annual

instance (at' : FileLevel × Precision) (item : OutputVariable) : Decidable (area.setsAllYears at' item) :=
  inferInstanceAs (Decidable (_ ∧ _))

theorem flatMap_filter_eq {α β : Type} (p : α → Bool) (f : α → List β) (items : List α) :
    (items.flatMap fun item => if p item then f item else []) = (items.filter p).flatMap f := by
  induction items with
  | nil => rfl
  | cons item items ih =>
    rw [List.flatMap_cons, ih, List.filter_cons]
    cases p item <;> rfl

theorem runReport_keeping (reports : List SurveyReport) (at' : FileLevel × Precision) :
    area.runReport (area.keeping playlist order kept, reports) at' =
      (area.keeping playlist order fun item => if area.setsAllYears at' item then
        (item.computeSummary playlist order).avgdata.total else kept item,
      reports ++ area.reportAt playlist order at') := by
  unfold runReport reportAt buildSurveyReport setsAllYears
  by_cases asked : area.filterSynthesis at'.2
  · simp only [asked, if_true, keeping, List.map_map, List.flatMap_map, Function.comp_def,
      OutputVariable.buildSurveyReport_withAllYears, flatMap_filter_eq, true_and]
  · simp [asked]

theorem foldl_runReport (todo : List (FileLevel × Precision)) (kept : OutputVariable → Rat)
    (reports : List SurveyReport) :
    todo.foldl area.runReport (area.keeping playlist order kept, reports) =
      (area.keeping playlist order fun item => if ∃ at' ∈ todo, area.setsAllYears at' item then
        (item.computeSummary playlist order).avgdata.total else kept item,
      reports ++ todo.flatMap (area.reportAt playlist order)) := by
  induction todo generalizing kept reports with
  | nil => simp
  | cons at' todo ih =>
    rw [List.foldl_cons, runReport_keeping, ih, List.flatMap_cons, List.append_assoc]
    congr 2
    funext item
    simp only [List.exists_mem_cons_iff]
    by_cases later : ∃ at' ∈ todo, area.setsAllYears at' item
    · simp [later]
    · simp [later]

end Area

namespace Area
variable (area : Area) (playlist : Playlist) (order : List Nat)

/-- The synthesis is that of weighted means and deviations, in whatever order the years came. -/
structure Synthesis : Prop where
  averages : ∀ item ∈ area.outputs, ∀ precision ≠ Precision.annual, ∀ i < precision.size,
    (item.computeSummary playlist order).avgdata.array precision i = item.mean playlist precision i
  years : ∀ item ∈ area.outputs,
    ∑ y ∈ Finset.range playlist.nbYears, (item.computeSummary playlist order).avgdata.year y =
      item.mean playlist .annual 0
  /-- Every report that is asked for is there, if a variable has a column in it. -/
  complete : ∀ precision, area.filterSynthesis precision = true → ∀ item ∈ area.outputs, ∀ fileLevel,
    item.writes fileLevel = true → ∃ report ∈ (area.exportSurveyResults playlist order).1,
      report.fileLevel = fileLevel ∧ report.precision = precision
  reports : ∀ report ∈ (area.exportSurveyResults playlist order).1, report.columns =
    (area.outputs.filter fun item => item.writes report.fileLevel).flatMap fun item =>
      item.expectedColumns playlist report.precision
  deviations : ∀ report ∈ (area.exportSurveyResults playlist order).1, ∀ column ∈ report.columns, ∀ x,
    Written.squareRoot x ∈ column.values → 0 ≤ x
  digest : (area.exportSurveyResults playlist order).2 = (area.outputs.filter fun item => item.isInDigest).map
    fun item => item.digestColumn (item.mean playlist .annual 0)

variable (item : OutputVariable)

def digested : Rat :=
  if area.filterSynthesis .annual then (item.computeSummary playlist order).avgdata.total else 0

theorem mem_steps (fileLevel : FileLevel) (precision : Precision) : (fileLevel, precision) ∈ steps := by
  cases fileLevel <;> cases precision <;> decide

variable {precision : Precision}

theorem not_skipDirectory (asked : area.filterSynthesis precision = true)
    {item : OutputVariable} (listed : item ∈ area.outputs) (printed : item.isPrinted = true) :
    area.skipDirectory = false := by
  have filtered : Precision.all.any area.filterSynthesis = true := by
    rw [List.any_eq_true]
    exact ⟨precision, by cases precision <;> decide, asked⟩
  have selected : area.getNbSelectedZonalVars ≠ 0 :=
    (List.countP_pos_iff.mpr ⟨item, listed, printed⟩).ne'
  simp [skipDirectory, filtered, selected]

theorem exportSurveyResults_reports : (area.exportSurveyResults playlist order).1 =
    if area.skipDirectory then [] else steps.flatMap (area.reportAt playlist order) := by
  change (area.runForEachArea (area.computeSummary playlist order)).2 = _
  unfold runForEachArea
  split
  · rfl
  · rw [keeping_zero, foldl_runReport]
    exact List.nil_append _

theorem isInDigest_writes {item : OutputVariable} (here : item.isInDigest = true) : item.writes .va = true := by
  unfold OutputVariable.isInDigest OutputVariable.isCluster at here
  unfold OutputVariable.writes
  cases printed : item.isPrinted with
  | false => simp [printed] at here
  | true => cases category : item.categoryFileLevel <;> simp_all [FileCategory.has]

theorem exportSurveyResults_digest : (area.exportSurveyResults playlist order).2 =
    (area.outputs.filter fun item => item.isInDigest).map fun item =>
      item.digestColumn (area.digested playlist order item) := by
  -- what the reports left, for a variable that the digest has
  have left : ∃ kept : OutputVariable → Rat, (area.runForEachArea (area.computeSummary playlist order)).1 =
      area.keeping playlist order kept ∧ ∀ item ∈ area.outputs, item.isInDigest = true →
        kept item = area.digested playlist order item := by
    rw [keeping_zero]
    unfold runForEachArea
    by_cases skipped : area.skipDirectory
    · refine ⟨fun _ => 0, by rw [if_pos skipped], fun item listed here => ?_⟩
      have off : ¬area.filterSynthesis .annual = true := fun asked => by
        have printed : item.isPrinted = true := (Bool.and_eq_true_iff.mp here).1
        rw [area.not_skipDirectory asked listed printed] at skipped
        cases skipped
      exact (if_neg off).symm
    · rw [if_neg skipped, foldl_runReport]
      refine ⟨_, rfl, fun item listed here => ?_⟩
      unfold digested
      congr 1
      apply propext
      constructor
      · rintro ⟨at', _, asked, _, annual⟩
        exact annual ▸ asked
      · intro asked
        exact ⟨_, mem_steps .va .annual, asked, isInDigest_writes here, rfl⟩
  obtain ⟨kept, stored, same⟩ := left
  change ((area.runForEachArea (area.computeSummary playlist order)).1.filter _).map _ = _
  rw [stored]
  unfold keeping
  rw [List.filter_map, List.map_map]
  apply List.map_congr_left
  intro item listed
  obtain ⟨there, here⟩ := List.mem_filter.mp listed
  exact congrArg item.digestColumn (same item there here)

theorem mean_eq_zero_iff (positive : 0 < (playlist.performed.map playlist.weight).sum) :
    item.mean playlist .annual 0 = 0 ↔
      (playlist.performed.map fun y => playlist.weight y * (item.valuesForTheYear y).year).sum = 0 := by
  unfold OutputVariable.mean weightedMean
  rw [div_eq_zero_iff]
  exact or_iff_left positive.ne'

theorem digest_iff {playlist : Playlist} {order : List Nat} (perm : order.Perm playlist.performed)
    (positive : 0 < (playlist.performed.map playlist.weight).sum) :
    (area.exportSurveyResults playlist order).2 = ((area.outputs.filter fun item => item.isInDigest).map fun item =>
        item.digestColumn (item.mean playlist .annual 0)) ↔
      area.filterSynthesis .annual = true ∨ ∀ item ∈ area.outputs, item.isInDigest = true →
        item.isNonApplicable = false →
          (playlist.performed.map fun y => playlist.weight y * (item.valuesForTheYear y).year).sum = 0 := by
  rw [exportSurveyResults_digest, List.map_inj_left]
  by_cases asked : area.filterSynthesis .annual = true
  · simp [digested, asked, OutputVariable.computeSummary_total _ perm positive]
  · simp only [digested, asked, List.mem_filter, and_imp]
    rw [or_iff_right (by simp)]
    apply forall₃_congr
    intro item _ _
    rw [← mean_eq_zero_iff playlist item positive]
    unfold OutputVariable.digestColumn
    cases item.isNonApplicable with
    | true => simp
    | false => simp [eq_comm]

theorem reports_eq {playlist : Playlist} {order : List Nat} (perm : order.Perm playlist.performed)
    (positive : 0 < (playlist.performed.map playlist.weight).sum) :
    ∀ report ∈ (area.exportSurveyResults playlist order).1, report.columns =
      (area.outputs.filter fun item => item.writes report.fileLevel).flatMap fun item =>
        item.expectedColumns playlist report.precision := by
  intro report listed
  rw [exportSurveyResults_reports] at listed
  split at listed
  · cases listed
  · obtain ⟨at', _, written⟩ := List.mem_flatMap.mp listed
    unfold reportAt at written
    simp only [OutputVariable.columns_computeSummary _ perm positive] at written
    by_cases asked : area.filterSynthesis at'.2
    · simp only [asked, if_true] at written
      split at written
      · cases written
      · rw [List.mem_singleton.mp written]
    · simp [asked] at written

theorem reports_complete (asked : area.filterSynthesis precision = true)
    {item : OutputVariable} (listed : item ∈ area.outputs) {fileLevel : FileLevel}
    (writes : item.writes fileLevel = true) : ∃ report ∈ (area.exportSurveyResults playlist order).1,
      report.fileLevel = fileLevel ∧ report.precision = precision := by
  have printed : item.isPrinted = true := by
    unfold OutputVariable.writes at writes
    simp only [Bool.and_eq_true] at writes
    exact writes.1.2
  let columns := (area.outputs.filter fun item => item.writes fileLevel).flatMap
    fun item => item.columns precision (item.computeSummary playlist order)
  have nonempty : ¬columns.isEmpty = true := by
    rw [List.isEmpty_iff]
    apply List.ne_nil_of_mem
    exact List.mem_flatMap.mpr ⟨item, List.mem_filter.mpr ⟨listed, writes⟩, List.head_mem (List.cons_ne_nil _ _)⟩
  have written : area.reportAt playlist order (fileLevel, precision) = [⟨fileLevel, precision, columns⟩] := by
    unfold reportAt
    simp only [asked, if_true]
    exact if_neg nonempty
  rw [exportSurveyResults_reports, area.not_skipDirectory asked listed printed, if_neg Bool.false_ne_true]
  refine ⟨⟨fileLevel, precision, columns⟩, ?_, rfl, rfl⟩
  exact List.mem_flatMap.mpr ⟨_, mem_steps fileLevel precision, written ▸ List.mem_singleton_self _⟩

theorem expectedColumns_nonneg
    (nonneg : ∀ year ∈ playlist.performed, 0 ≤ playlist.weight year) :
    ∀ column ∈ item.expectedColumns playlist precision, ∀ x, Written.squareRoot x ∈ column.values → 0 ≤ x := by
  intro column listed x root
  unfold OutputVariable.expectedColumns at listed
  rcases List.mem_cons.mp listed with rfl | listed
  · obtain ⟨i, _, other⟩ := List.mem_map.mp root
    cases other
  · split at listed
    · rw [List.mem_singleton.mp listed] at root
      obtain ⟨i, _, same⟩ := List.mem_map.mp root
      cases same
      exact weightedVariance_nonneg nonneg _
    · cases listed

/-- The synthesis is right wherever the annual report is asked for, as only that one leaves a mean to the digest. -/
theorem synthesis_iff (nonneg : ∀ year ∈ playlist.performed, 0 ≤ playlist.weight year)
    (positive : 0 < (playlist.performed.map playlist.weight).sum) (perm : order.Perm playlist.performed) :
    area.Synthesis playlist order ↔
      area.filterSynthesis .annual = true ∨ ∀ item ∈ area.outputs, item.isInDigest = true →
        item.isNonApplicable = false →
          (playlist.performed.map fun y => playlist.weight y * (item.valuesForTheYear y).year).sum = 0 := by
  rw [← area.digest_iff perm positive]
  constructor
  · exact Synthesis.digest
  · intro digest
    constructor
    · intro item _ precision below i inside
      exact item.computeSummary_average perm positive below inside
    · intro item _
      rw [← item.computeSummary_total perm positive, AverageData.total_eq]
      congr 2
      unfold OutputVariable.computeSummary
      rw [OutputVariable.foldl_merge_avgdata, AverageData.foldl_merge_nbYearsCapacity]
      rfl
    · intro precision asked item listed fileLevel writes
      exact area.reports_complete playlist order asked listed writes
    · exact area.reports_eq perm positive
    · intro report there column listed
      rw [area.reports_eq perm positive report there] at listed
      obtain ⟨item, _, inColumns⟩ := List.mem_flatMap.mp listed
      exact expectedColumns_nonneg playlist item nonneg column inColumns
    · exact digest

end Area

def twoYears : Playlist where
  nbYears := 2
  userPlaylist := true
  yearsFilter := [true, true]
  yearsWeight := [1, 3]
  filtered := rfl
  weighted := rfl
  played asked := by cases asked

def balance : OutputVariable where
  caption := "BALANCE"
  unit := "MWh"
  decimal := 0
  categoryFileLevel := .valuesAndYears
  hasDeviation := true
  isPrinted := true
  isNonApplicable := false
  valuesForTheYear y := { IntermediateValues.zero with year := 4 + 4 * y }

theorem annualReports_synthesis :
    (Area.mk (fun precision => precision == .annual) [balance]).Synthesis twoYears [1, 0] :=
  (Area.synthesis_iff _ twoYears [1, 0] (by decide +kernel) (by decide +kernel) (by decide +kernel)).mpr (.inl rfl)

/-- With daily reports only, the digest has 0 for a mean of 7. -/
theorem dailyReports_not_synthesis :
    ¬(Area.mk (fun precision => precision == .daily) [balance]).Synthesis twoYears [1, 0] := by
  intro synthesis
  have right := (Area.digest_iff _ (by decide +kernel) (by decide +kernel)).mp synthesis.digest
  rcases right with asked | zero
  · cases asked
  · exact absurd (zero balance List.mem_cons_self rfl rfl) (by decide +kernel)

section MinMax

/-- `MinMaxData::Data`; years are numbered from one on. -/
structure Extremum where
  value : Rat
  indice : Option Nat

abbrev MinMaxData := Precision → Nat → Extremum

def dblMax : Rat := 2 ^ 1024 - 2 ^ 971

def eps : Rat := 1 / 10 ^ 7

variable (opInferior : Bool)

/-- Whether a value replaces another one. -/
def beats (value other : Rat) : Bool := if opInferior then value < other - eps else other + eps < value

/-- `resetInf` and `resetSup` -/
def resetMinMax : MinMaxData := fun _ _ => ⟨if opInferior then dblMax else -dblMax, none⟩

def mergeExtremum (year : Nat) (data : Extremum) (value : Rat) : Extremum :=
  if beats opInferior value data.value then ⟨value, some (year + 1)⟩ else data

/-- `mergeInf` and `mergeSup` -/
def mergeMinMax (data : MinMaxData) (year : Nat) (rhs : IntermediateValues) : MinMaxData := fun precision i =>
  if i < precision.size then mergeExtremum opInferior year (data precision i) (rhs.at precision i) else data precision i

/-- What is kept of the years that were merged -/
structure Extremum.Of (value : Nat → Rat) (years : List Nat) (data : Extremum) : Prop where
  unbeaten : ∀ year ∈ years, beats opInferior (value year) data.value = false
  reached : ∀ indice ∈ data.indice, ∃ year ∈ years, indice = year + 1 ∧ data.value = value year
  sentinel : data.indice = none → data.value = if opInferior then dblMax else -dblMax

variable {opInferior}

theorem beats_trans {value last other : Rat} (past : beats opInferior last other = true)
    (kept : beats opInferior value other = false) : beats opInferior value last = false := by
  unfold beats eps at *
  cases opInferior <;> grind

theorem Extremum.Of.merge {value : Nat → Rat} {years : List Nat} {data : Extremum} (of : data.Of opInferior value years)
    (year : Nat) : (mergeExtremum opInferior year data (value year)).Of opInferior value (years ++ [year]) := by
  unfold mergeExtremum
  split
  next past =>
    refine ⟨fun other merged => ?_, by simp, nofun⟩
    rcases List.mem_append.mp merged with earlier | last
    · exact beats_trans past (of.unbeaten other earlier)
    · rw [List.mem_singleton.mp last]
      unfold beats eps
      cases opInferior <;> grind
  next within =>
    refine ⟨fun other merged => ?_, fun indice kept => ?_, of.sentinel⟩
    · rcases List.mem_append.mp merged with earlier | last
      · exact of.unbeaten other earlier
      · simpa [List.mem_singleton.mp last] using within
    · obtain ⟨other, merged, same⟩ := of.reached indice kept
      exact ⟨other, by simp [merged], same⟩

theorem resetMinMax_of (value : Nat → Rat) (precision : Precision) (i : Nat) :
    (resetMinMax opInferior precision i).Of opInferior value [] := ⟨nofun, nofun, fun _ => rfl⟩

theorem Extremum.Of.foldl {precision : Precision} {i : Nat} {before : List Nat} {data : MinMaxData}
    (inside : i < precision.size) (values : Nat → IntermediateValues)
    (of : (data precision i).Of opInferior (fun year => (values year).at precision i) before) (years : List Nat) :
    (years.foldl (fun data year => mergeMinMax opInferior data year (values year)) data precision i).Of opInferior
      (fun year => (values year).at precision i) (before ++ years) := by
  induction years generalizing before data with
  | nil => simpa using of
  | cons year years ih =>
    rw [List.append_cons]
    exact ih (by simpa [mergeMinMax, inside] using of.merge year)

/-- In whatever order the years are merged, each extremum is the value of the year that is kept with it, and no merged
year beats it.
-/
theorem minMax_of (opInferior : Bool) (years : List Nat) (values : Nat → IntermediateValues) (precision : Precision)
    (i : Fin precision.size) :
    (years.foldl (fun data year => mergeMinMax opInferior data year (values year)) (resetMinMax opInferior) precision i).Of
      opInferior (fun year => (values year).at precision i) years :=
  (resetMinMax_of _ precision i).foldl i.2 values years

/-- The least or the greatest values, in `computeSummary` -/
def OutputVariable.minMax (item : OutputVariable) (opInferior : Bool) (order : List Nat) : MinMaxData :=
  order.foldl (fun data year => mergeMinMax opInferior data year (item.valuesForTheYear year)) (resetMinMax opInferior)

end MinMax
end Antares.Solver.Variable
