import Antares.Optimisation.WeeklyVariables
import Antares.ShortTermStorage.Storages

/-! The bounds of the short-term storages in a weekly problem: what the checks of a storage promise of them. -/

set_option autoImplicit false

namespace Antares.Library.Text.Double

def mul : Double → Double → Double
  | .finite a, .finite b => .finite (a * b)
  | .finite a, .infinite negative | .infinite negative, .finite a =>
    if a = 0 then .nan else .infinite (xor negative (decide (a < 0)))
  | .infinite first, .infinite second => .infinite (xor first second)
  | .nan, _ => .nan
  | _, .nan => .nan

def Regular : Double → Double → Prop
  | .finite c, .finite share => c = 0 ∨ 0 ≤ share
  | .infinite _, .finite share => 0 < share
  | _, _ => False

def Ordered (capacity lower upper : Double) : Prop :=
  atMost (.finite 0) lower = true ∧ lower.atMost upper = true ∧ upper.atMost capacity = true

@[simp] theorem atMost_finite (a b : ℚ) : atMost (.finite a) (.finite b) = true ↔ a ≤ b := by
  simp [atMost, less, le_iff_lt_or_eq]

@[simp] theorem not_atMost_nan (d : Double) : atMost d .nan = false := by
  cases d <;> simp [atMost, less]

@[simp] theorem not_nan_atMost (d : Double) : atMost .nan d = false := by
  cases d <;> simp [atMost, less]

@[simp] theorem atMost_infinite (a : ℚ) (negative : Bool) : atMost (.finite a) (.infinite negative) = !negative := by
  cases negative <;> simp [atMost, less]

@[simp] theorem infinite_atMost (negative : Bool) (a : ℚ) : atMost (.infinite negative) (.finite a) = negative := by
  cases negative <;> simp [atMost, less]

@[simp] theorem infinite_atMost_infinite (first second : Bool) :
    atMost (.infinite first) (.infinite second) = (first || !second) := by
  cases first <;> cases second <;> simp [atMost, less]

theorem finite_of_between {d : Double} (least : atMost (.finite 0) d = true) (most : d.atMost (.finite 1) = true) :
    ∃ a, d = .finite a ∧ 0 ≤ a ∧ a ≤ 1 := by
  cases d with
  | finite a => exact ⟨a, rfl, by simpa using least, by simpa using most⟩
  | infinite negative => cases negative <;> simp at least most
  | nan => simp at least

section
variable {capacity share upper : Double} (positive : capacity.less (.finite 0) = false)
include positive

theorem ordered_mul_iff (least : atMost (.finite 0) upper = true) (most : upper.atMost (.finite 1) = true)
    (apart : upper.less share = false) : Ordered capacity (capacity.mul share) (capacity.mul upper) ↔ Regular capacity share := by
  obtain ⟨u, rfl, some, within⟩ := finite_of_between least most
  cases capacity with
  | finite c =>
    have large : 0 ≤ c := by simpa [less] using positive
    cases share with
    | finite a =>
      have before : a ≤ u := by simpa [less] using apart
      simp only [Ordered, mul, Regular, atMost_finite]
      constructor
      · rintro ⟨first, -, -⟩
        rcases large.eq_or_lt with rfl | large
        · exact .inl rfl
        · exact .inr ((mul_nonneg_iff_of_pos_left large).mp first)
      · rintro (rfl | notNegative)
        · simp
        · exact ⟨mul_nonneg large notNegative, mul_le_mul_of_nonneg_left before large, mul_le_of_le_one_right large within⟩
    | infinite negative =>
      cases negative
      · simp [less] at apart
      · by_cases none : c = 0 <;> simp [Ordered, mul, Regular, none, large.not_gt]
    | nan => simp [Ordered, mul, Regular]
  | infinite negative =>
    cases negative
    · cases share with
      | finite a =>
        have before : a ≤ u := by simpa [less] using apart
        rcases lt_trichotomy a 0 with low | rfl | high
        · simp [Ordered, mul, Regular, low.ne, low, low.not_gt]
        · simp [Ordered, mul, Regular]
        · simp [Ordered, mul, Regular, high.ne', high, high.not_gt, (high.trans_le before).ne', some.not_gt]
      | infinite other =>
        cases other
        · simp [less] at apart
        · simp [Ordered, mul, Regular]
      | nan => simp [Ordered, mul, Regular]
    · simp [less] at positive
  | nan => simp [Ordered, mul, Regular]

theorem ordered_zero_mul_iff (least : atMost (.finite 0) share = true) (most : share.atMost (.finite 1) = true) :
    Ordered capacity (.finite 0) (capacity.mul share) ↔ Regular capacity share := by
  obtain ⟨u, rfl, some, within⟩ := finite_of_between least most
  cases capacity with
  | finite c =>
    have large : 0 ≤ c := by simpa [less] using positive
    simp [Ordered, mul, Regular, some, mul_nonneg large some, mul_le_of_le_one_right large within]
  | infinite negative =>
    cases negative
    · rcases some.eq_or_lt with rfl | high
      · simp [Ordered, mul, Regular]
      · simp [Ordered, mul, Regular, high, high.ne', some.not_gt]
    · simp [less] at positive
  | nan => simp [Ordered, mul, Regular]

theorem ordered_level_iff (between : share = .nan ∨ atMost (.finite 0) share = true ∧ share.atMost (.finite 1) = true) :
    Ordered capacity (capacity.mul share) (capacity.mul share) ↔ Regular capacity share := by
  rcases between with rfl | ⟨least, most⟩
  · cases capacity <;> simp [Ordered, mul, Regular]
  · refine ordered_mul_iff positive least most ?_
    cases share <;> simp [less]

end

end Antares.Library.Text.Double

namespace Antares.ShortTermStorage

open Library Library.Text Data Optimisation

/-- `PROPERTIES` of a storage, as the weekly problem has them. -/
structure WeeklyStorage where
  reservoirCapacity : Text.Double
  injectionNominalCapacity : Text.Double
  withdrawalNominalCapacity : Text.Double
  efficiency : Text.Double
  initialLevel : Text.Double
  initialLevelOptim : Bool
  series : Series

def importStorage (storage : STStorageCluster) : Option WeeklyStorage := do
  return {
    reservoirCapacity := ← storage.properties.reservoirCapacity
    injectionNominalCapacity := ← storage.properties.injectionNominalCapacity
    withdrawalNominalCapacity := ← storage.properties.withdrawalNominalCapacity
    efficiency := storage.properties.efficiencyFactor
    initialLevel := storage.properties.initialLevel
    initialLevelOptim := storage.properties.initialLevelOptim
    series := storage.series }

/-- The storages of an area for `importShortTermStorages`. -/
def importShortTermStorages (storages : STStorageInput) : Option (List WeeklyStorage) := storages.mapM importStorage

/-- The storages are checked, and put right, one after the other until one is refused. -/
def STStorageInput.validate : STStorageInput → STStorageInput × Bool
  | [] => ([], true)
  | storage :: rest =>
    let checked := storage.validate
    if checked.2 then
      let others := validate rest
      (checked.1 :: others.1, others.2)
    else (checked.1 :: rest, false)

/-- `Xmin` and `Xmax` of a variable -/
structure Bounds where
  xmin : Text.Double
  xmax : Text.Double

section
variable (problem : WeeklyProblem) (storages : Nat → List WeeklyStorage) (weekInTheYear intervalle : Nat)

variable (storage : WeeklyStorage)

/-- The last hour of an interval has the initial level, unless it is optimised. -/
def levelBounds (hourInTheYear : Nat) (last : Bool) : Option Bounds :=
  if last && !storage.initialLevelOptim then
    let level := storage.reservoirCapacity.mul storage.initialLevel
    some ⟨level, level⟩
  else do
    return ⟨storage.reservoirCapacity.mul (← storage.series.lowerRuleCurve[hourInTheYear]?),
      storage.reservoirCapacity.mul (← storage.series.upperRuleCurve[hourInTheYear]?)⟩

def injectionBounds (hourInTheYear : Nat) : Option Bounds := do
  return ⟨.finite 0, storage.injectionNominalCapacity.mul (← storage.series.maxInjectionModulation[hourInTheYear]?)⟩

def withdrawalBounds (hourInTheYear : Nat) : Option Bounds := do
  return ⟨.finite 0, storage.withdrawalNominalCapacity.mul (← storage.series.maxWithdrawalModulation[hourInTheYear]?)⟩

def hourInTheYear (pdtJour : Nat) : Nat := weekInTheYear * nbHoursInWeek + (intervalle * problem.pas + pdtJour)

/-- The bounds of a storage at a time step of the interval; none for a series that is too short. -/
def storageBounds (pdtJour pays index : Nat) (storage : WeeklyStorage) : List (Variable × Option Bounds) :=
  let hour := hourInTheYear problem weekInTheYear intervalle pdtJour
  let cluster := problem.clusterGlobalIndex pays index
  [(.shortTermStorageInjection pdtJour cluster, injectionBounds storage hour),
    (.shortTermStorageWithdrawal pdtJour cluster, withdrawalBounds storage hour),
    (.shortTermStorageLevel pdtJour cluster, levelBounds storage hour (pdtJour = problem.pas - 1))]

/-- The bounds in the order in which the loops over the hours, the areas and their storages write them. -/
def writtenBounds : List (Variable × Option Bounds) :=
  (List.range problem.pas).flatMap fun pdtJour =>
    (List.range problem.network.nombreDePays).flatMap fun pays =>
      (storages pays).zipIdx.flatMap fun storage =>
        storageBounds problem weekInTheYear intervalle pdtJour pays storage.2 storage.1

/-- A variable without number is the -1 of the source. -/
def writeBounds (table : Nat → Bounds) (write : Variable × Option Bounds) : Option (Nat → Bounds) := do
  return Function.update table (← problem.construireLaListeDesVariables.numero write.1) (← write.2)

def setBoundsForShortTermStorage (table : Nat → Bounds) : Option (Nat → Bounds) :=
  (writtenBounds problem storages weekInTheYear intervalle).foldlM (writeBounds problem) table

end

variable {problem : WeeklyProblem} {storages : Nat → List WeeklyStorage} {weekInTheYear intervalle : Nat}

/-- The bounds of a variable are there, in order, between zero and a capacity. -/
def Consistent (problem : WeeklyProblem) (table : Nat → Bounds) (variable_ : Variable) (capacity : Text.Double) : Prop :=
  ∃ number, problem.construireLaListeDesVariables.numero variable_ = some number ∧
    Double.Ordered capacity (table number).xmin (table number).xmax

structure Checked (storage : WeeklyStorage) : Prop where
  injection : storage.injectionNominalCapacity.less (.finite 0) = false
  withdrawal : storage.withdrawalNominalCapacity.less (.finite 0) = false
  reservoir : storage.reservoirCapacity.less (.finite 0) = false
  level : storage.initialLevel = .nan ∨
    Double.atMost (.finite 0) storage.initialLevel = true ∧ storage.initialLevel.atMost (.finite 1) = true
  series : storage.series.validate = true

/-- The storages of the areas are checked, and the weekly problem has as many. -/
structure Prepared (problem : WeeklyProblem) (storages : Nat → List WeeklyStorage) : Prop where
  checked : ∀ pays < problem.network.nombreDePays, ∀ storage ∈ storages pays, Checked storage
  sizes : ∀ pays < problem.network.nombreDePays, (problem.shortTermStorage pays).length = (storages pays).length

theorem exists_of_checkCapacity {capacity : Option Text.Double} (checked : Properties.checkCapacity capacity = true) :
    ∃ number, capacity = some number ∧ number.less (.finite 0) = false := by
  obtain ⟨number, rfl⟩ := Properties.isSome_of_checkCapacity checked
  exact ⟨number, rfl, by simpa [Properties.checkCapacity] using checked⟩

theorem level_of_validate (level : Text.Double) :
    let put := if level.less (.finite 0) then initialLevelDefault
      else if Double.less (.finite 1) level then initialLevelDefault else level
    put = .nan ∨ Double.atMost (.finite 0) put = true ∧ put.atMost (.finite 1) = true := by
  cases level with
  | finite a =>
    right
    by_cases low : a < 0
    · simp [Double.less, low, initialLevelDefault]
      norm_num
    · by_cases high : 1 < a
      · simp [Double.less, low, high, initialLevelDefault]
        norm_num
      · simp [Double.less, low, high, not_lt.mp low, not_lt.mp high]
  | infinite negative =>
    right
    cases negative <;> simp [Double.less, initialLevelDefault] <;> norm_num
  | nan => exact .inl rfl

theorem imported_of_validate {storage : STStorageCluster} (accepted : storage.validate.2 = true) :
    ∃ weekly, importStorage storage.validate.1 = some weekly ∧ Checked weekly := by
  obtain ⟨properties, series⟩ := Bool.and_eq_true_iff.mp accepted
  have put := level_of_validate storage.properties.initialLevel
  unfold STStorageCluster.validate
  unfold Properties.validate at properties ⊢
  split at properties
  case isFalse => exact absurd properties Bool.false_ne_true
  case isTrue checked =>
    rw [if_pos checked]
    rw [Bool.and_eq_true, Bool.and_eq_true] at checked
    obtain ⟨injection, first, notNegative⟩ := exists_of_checkCapacity checked.1.1
    obtain ⟨withdrawal, second, alsoNot⟩ := exists_of_checkCapacity checked.1.2
    obtain ⟨reservoir, third, neither⟩ := exists_of_checkCapacity checked.2
    simp only [importStorage, first, second, third, Option.bind_eq_bind, Option.bind_some, Option.pure_def,
      Option.some.injEq, exists_eq_left']
    exact ⟨notNegative, alsoNot, neither, put, series⟩

theorem import_cons (storage : STStorageCluster) (rest : STStorageInput) : importShortTermStorages (storage :: rest) =
    (importStorage storage).bind fun first => (importShortTermStorages rest).map (first :: ·) := by
  simp only [importShortTermStorages, List.mapM_cons, Option.bind_eq_bind, Option.pure_def, Option.map_eq_bind,
    Function.comp_def]

theorem import_of_validate {area : STStorageInput} (accepted : area.validate.2 = true) :
    ∃ storages, importShortTermStorages area.validate.1 = some storages ∧ storages.length = area.length ∧
      ∀ storage ∈ storages, Checked storage := by
  induction area with
  | nil => exact ⟨[], rfl, rfl, by simp⟩
  | cons storage rest ih =>
    unfold STStorageInput.validate at accepted ⊢
    by_cases valid : storage.validate.2 = true
    · simp only [valid, if_true] at accepted ⊢
      obtain ⟨weekly, imported, checked⟩ := imported_of_validate valid
      obtain ⟨others, importedOthers, many, checkedOthers⟩ := ih accepted
      refine ⟨weekly :: others, ?_, congrArg (· + 1) many, List.forall_mem_cons.mpr ⟨checked, checkedOthers⟩⟩
      rw [import_cons, imported, importedOthers]
      rfl
    · simp [valid] at accepted

section
variable {storage : WeeklyStorage} {hour : Nat}

theorem between_of_check {series : List Text.Double} (checked : Series.checkVectBetweenZeroOne series = true)
    (size : series.length = hoursPerYear) (inYear : hour < hoursPerYear) : ∃ share, series[hour]? = some share ∧
      Double.atMost (.finite 0) share = true ∧ share.atMost (.finite 1) = true := by
  have inside : hour < series.length := size ▸ inYear
  exact ⟨series[hour], List.getElem?_eq_getElem inside,
    Bool.and_eq_true_iff.mp (List.all_eq_true.mp checked _ (List.getElem_mem inside))⟩

theorem injectionBounds_ordered (checked : Checked storage) (inYear : hour < hoursPerYear) :
    ∃ bounds, injectionBounds storage hour = some bounds ∧
      (Double.Ordered storage.injectionNominalCapacity bounds.xmin bounds.xmax ↔
        ∀ share ∈ storage.series.maxInjectionModulation[hour]?, Double.Regular storage.injectionNominalCapacity share) := by
  have series := checked.series
  simp only [Series.validate, Series.validateSizes, Bool.and_eq_true, decide_eq_true_eq] at series
  obtain ⟨share, read, least, most⟩ := between_of_check series.1.1.2 series.1.1.1.1.1.1.1 inYear
  refine ⟨⟨.finite 0, storage.injectionNominalCapacity.mul share⟩, by simp [injectionBounds, read], ?_⟩
  simp only [read, Option.mem_some_iff, forall_eq']
  exact Double.ordered_zero_mul_iff checked.injection least most

theorem withdrawalBounds_ordered (checked : Checked storage) (inYear : hour < hoursPerYear) :
    ∃ bounds, withdrawalBounds storage hour = some bounds ∧
      (Double.Ordered storage.withdrawalNominalCapacity bounds.xmin bounds.xmax ↔
        ∀ share ∈ storage.series.maxWithdrawalModulation[hour]?, Double.Regular storage.withdrawalNominalCapacity share) := by
  have series := checked.series
  simp only [Series.validate, Series.validateSizes, Bool.and_eq_true, decide_eq_true_eq] at series
  obtain ⟨share, read, least, most⟩ := between_of_check series.1.2 series.1.1.1.1.1.1.2 inYear
  refine ⟨⟨.finite 0, storage.withdrawalNominalCapacity.mul share⟩, by simp [withdrawalBounds, read], ?_⟩
  simp only [read, Option.mem_some_iff, forall_eq']
  exact Double.ordered_zero_mul_iff checked.withdrawal least most

def lowerShare (storage : WeeklyStorage) (hourInTheYear : Nat) (last : Bool) : Option Text.Double :=
  if last && !storage.initialLevelOptim then some storage.initialLevel else storage.series.lowerRuleCurve[hourInTheYear]?

theorem levelBounds_ordered (checked : Checked storage) (inYear : hour < hoursPerYear) (last : Bool) :
    ∃ bounds, levelBounds storage hour last = some bounds ∧
      (Double.Ordered storage.reservoirCapacity bounds.xmin bounds.xmax ↔
        ∀ share ∈ lowerShare storage hour last, Double.Regular storage.reservoirCapacity share) := by
  unfold levelBounds lowerShare
  split
  · refine ⟨_, rfl, ?_⟩
    simp only [Option.mem_some_iff, forall_eq']
    exact Double.ordered_level_iff checked.reservoir checked.level
  · have series := checked.series
    simp only [Series.validate, Series.validateSizes, Series.validateRuleCurves, Series.validateUpperRuleCurve,
      Bool.and_eq_true, decide_eq_true_eq] at series
    obtain ⟨⟨⟨⟨-, lowerSize⟩, upperSize⟩, -⟩, ⟨upperChecked, -⟩, ordered⟩ := And.intro series.1.1 series.2
    obtain ⟨upper, readUpper, least, most⟩ := between_of_check upperChecked upperSize inYear
    have inside : hour < storage.series.lowerRuleCurve.length := lowerSize ▸ inYear
    have readLower := List.getElem?_eq_getElem inside
    refine ⟨_, by rw [readLower, readUpper]; rfl, ?_⟩
    simp only [readLower, Option.mem_some_iff, forall_eq']
    refine Double.ordered_mul_iff checked.reservoir least most ?_
    have pair : (storage.series.lowerRuleCurve[hour], upper) ∈
        storage.series.lowerRuleCurve.zip storage.series.upperRuleCurve := by
      refine List.mem_iff_getElem?.mpr ⟨hour, ?_⟩
      rw [List.getElem?_zip_eq_some]
      exact ⟨readLower, readUpper⟩
    simpa using List.all_eq_true.mp ordered _ pair

end

structure Sound (storage : WeeklyStorage) (hour : Nat) (last : Bool) : Prop where
  injection : ∀ share ∈ storage.series.maxInjectionModulation[hour]?, Double.Regular storage.injectionNominalCapacity share
  withdrawal : ∀ share ∈ storage.series.maxWithdrawalModulation[hour]?, Double.Regular storage.withdrawalNominalCapacity share
  level : ∀ share ∈ lowerShare storage hour last, Double.Regular storage.reservoirCapacity share

structure ConsistentStorage (problem : WeeklyProblem) (table : Nat → Bounds) (pdtJour pays index : Nat)
    (storage : WeeklyStorage) : Prop where
  injection : Consistent problem table (.shortTermStorageInjection pdtJour (problem.clusterGlobalIndex pays index))
    storage.injectionNominalCapacity
  withdrawal : Consistent problem table (.shortTermStorageWithdrawal pdtJour (problem.clusterGlobalIndex pays index))
    storage.withdrawalNominalCapacity
  level : Consistent problem table (.shortTermStorageLevel pdtJour (problem.clusterGlobalIndex pays index))
    storage.reservoirCapacity

theorem foldlM_writeBounds {writes : List (Variable × Option Bounds)} (table : Nat → Bounds)
    (defined : ∀ write ∈ writes, ∃ number bounds,
      problem.construireLaListeDesVariables.numero write.1 = some number ∧ write.2 = some bounds) :
    ∃ after, writes.foldlM (writeBounds problem) table = some after ∧ ∀ number bounds,
      (∀ write ∈ writes, problem.construireLaListeDesVariables.numero write.1 = some number → write.2 = some bounds) →
      (∃ write ∈ writes, problem.construireLaListeDesVariables.numero write.1 = some number) ∨ table number = bounds →
      after number = bounds := by
  induction writes generalizing table with
  | nil => exact ⟨table, rfl, fun number bounds _ already => already.resolve_left (by simp)⟩
  | cons write writes ih =>
    obtain ⟨⟨place, written, numbered, same⟩, others⟩ := List.forall_mem_cons.mp defined
    obtain ⟨after, done, values⟩ := ih (Function.update table place written) others
    refine ⟨after, by simp [writeBounds, numbered, same, done], fun number bounds agree already => ?_⟩
    obtain ⟨first, rest⟩ := List.forall_mem_cons.mp agree
    apply values number bounds rest
    by_cases here : place = number
    · subst here
      rw [Function.update_self]
      exact .inr (Option.some.inj (same.symm.trans (first numbered)))
    · rw [Function.update_of_ne (Ne.symm here)]
      refine already.imp_left fun ⟨other, found, at_⟩ => ?_
      rcases List.mem_cons.mp found with rfl | found
      · exact absurd (Option.some.inj (numbered.symm.trans at_)) here
      · exact ⟨other, found, at_⟩

theorem mem_writtenBounds {write : Variable × Option Bounds} :
    write ∈ writtenBounds problem storages weekInTheYear intervalle ↔
      ∃ pdtJour < problem.pas, ∃ pays < problem.network.nombreDePays, ∃ index storage,
        (storages pays)[index]? = some storage ∧
          write ∈ storageBounds problem weekInTheYear intervalle pdtJour pays index storage := by
  simp only [writtenBounds, List.mem_flatMap, List.mem_range, Prod.exists, List.mk_mem_zipIdx_iff_getElem?]
  constructor
  · rintro ⟨pdtJour, hourly, pays, bound, storage, index, at_, listed⟩
    exact ⟨pdtJour, hourly, pays, bound, index, storage, at_, listed⟩
  · rintro ⟨pdtJour, hourly, pays, bound, index, storage, at_, listed⟩
    exact ⟨pdtJour, hourly, pays, bound, storage, index, at_, listed⟩

theorem placed_of_mem {variable_ : Variable} {bounds : Option Bounds} {pdtJour pays index : Nat} {storage : WeeklyStorage}
    (listed : (variable_, bounds) ∈ storageBounds problem weekInTheYear intervalle pdtJour pays index storage) :
    variable_.pasDeTemps = some (pdtJour : Int) ∧ variable_.indice = problem.clusterGlobalIndex pays index := by
  simp only [storageBounds, List.mem_cons, List.not_mem_nil, or_false, Prod.mk.injEq] at listed
  rcases listed with ⟨rfl, -⟩ | ⟨rfl, -⟩ | ⟨rfl, -⟩ <;> exact ⟨rfl, rfl⟩

section
variable (prepared : Prepared problem storages)
include prepared

theorem index_lt {pays index : Nat} {storage : WeeklyStorage} (bound : pays < problem.network.nombreDePays)
    (at_ : (storages pays)[index]? = some storage) : index < (problem.shortTermStorage pays).length := by
  rw [prepared.sizes pays bound]
  exact (List.getElem?_eq_some_iff.mp at_).1

theorem listed_of_written {write : Variable × Option Bounds}
    (written : write ∈ writtenBounds problem storages weekInTheYear intervalle) : write.1 ∈ problem.listeDesVariables := by
  obtain ⟨pdtJour, hourly, pays, bound, index, storage, at_, listed⟩ := mem_writtenBounds.mp written
  apply problem.mem_of_mem_variablesDuPays hourly bound
  have inside := index_lt prepared bound at_
  simp only [storageBounds, List.mem_cons, List.not_mem_nil, or_false] at listed
  simp only [WeeklyProblem.variablesDuPays, List.mem_append, List.mem_flatMap, List.mem_range, List.mem_cons,
    List.not_mem_nil, or_false]
  refine .inl (.inr ⟨index, inside, ?_⟩)
  rcases listed with rfl | rfl | rfl
  · exact .inl rfl
  · exact .inr (.inl rfl)
  · exact .inr (.inr rfl)

theorem written_unique {variable_ : Variable} {first second : Option Bounds}
    (one : (variable_, first) ∈ writtenBounds problem storages weekInTheYear intervalle)
    (other : (variable_, second) ∈ writtenBounds problem storages weekInTheYear intervalle) : first = second := by
  obtain ⟨pdtJour, -, pays, bound, index, storage, at_, listed⟩ := mem_writtenBounds.mp one
  obtain ⟨pdtAutre, -, autre, autreBound, autreIndex, autreStorage, autreAt, autreListed⟩ := mem_writtenBounds.mp other
  obtain ⟨moment, cluster⟩ := placed_of_mem listed
  obtain ⟨autreMoment, autreCluster⟩ := placed_of_mem autreListed
  -- the variable tells its time step, its area and its storage
  obtain rfl : pdtJour = pdtAutre := Int.ofNat_inj.mp (Option.some.inj (moment.symm.trans autreMoment))
  obtain ⟨rfl, rfl⟩ := problem.clusterGlobalIndex_unique (index_lt prepared bound at_)
    (index_lt prepared autreBound autreAt) (cluster.symm.trans autreCluster)
  obtain rfl : storage = autreStorage := Option.some.inj (at_.symm.trans autreAt)
  simp only [storageBounds, List.mem_cons, List.not_mem_nil, or_false, Prod.mk.injEq] at listed autreListed
  rcases listed with ⟨rfl, rfl⟩ | ⟨rfl, rfl⟩ | ⟨rfl, rfl⟩ <;> symm <;> simpa using autreListed

theorem consistent_iff {table after : Nat → Bounds}
    (values : ∀ number bounds, (∀ write ∈ writtenBounds problem storages weekInTheYear intervalle,
      problem.construireLaListeDesVariables.numero write.1 = some number → write.2 = some bounds) →
      (∃ write ∈ writtenBounds problem storages weekInTheYear intervalle,
        problem.construireLaListeDesVariables.numero write.1 = some number) ∨ table number = bounds →
      after number = bounds)
    {variable_ : Variable} {bounds : Bounds}
    (written : (variable_, some bounds) ∈ writtenBounds problem storages weekInTheYear intervalle) (capacity : Text.Double) :
    Consistent problem after variable_ capacity ↔ Double.Ordered capacity bounds.xmin bounds.xmax := by
  have exact_ := problem.construireLaListeDesVariables_exact
  have listed := listed_of_written prepared written
  obtain ⟨number, -, numbered⟩ := exact_.numbered variable_ listed
  have reached : after number = bounds := by
    refine values number bounds (fun write found same => ?_) (.inl ⟨_, written, numbered⟩)
    obtain ⟨other, others⟩ := write
    obtain rfl : other = variable_ :=
      exact_.distinct _ (listed_of_written prepared found) _ listed (same.trans numbered.symm)
    exact written_unique prepared found written
  unfold Consistent
  constructor
  · rintro ⟨other, same, ordered⟩
    rw [show other = number from Option.some.inj (same.symm.trans numbered), reached] at ordered
    exact ordered
  · intro ordered
    exact ⟨number, numbered, reached.symm ▸ ordered⟩

end

theorem hourInTheYear_lt (week : weekInTheYear < 52) (inWeek : intervalle < problem.range.nbIntervallesOptimises)
    {pdtJour : Nat} (hourly : pdtJour < problem.pas) :
    hourInTheYear problem weekInTheYear intervalle pdtJour < hoursPerYear := by
  unfold hourInTheYear hoursPerYear nbHoursInWeek
  unfold WeeklyProblem.pas at *
  cases range : problem.range with
  | sorDay =>
    simp only [range] at inWeek hourly
    change intervalle < 7 at inWeek
    change pdtJour < 24 at hourly
    show weekInTheYear * 168 + (intervalle * 24 + pdtJour) < 8760
    omega
  | sorWeek =>
    simp only [range] at inWeek hourly
    change intervalle < 1 at inWeek
    change pdtJour < 168 at hourly
    show weekInTheYear * 168 + (intervalle * 168 + pdtJour) < 8760
    omega

theorem Prepared.consistent_iff (prepared : Prepared problem storages) (week : weekInTheYear < 52)
    (inWeek : intervalle < problem.range.nbIntervallesOptimises) (table : Nat → Bounds) :
    ∃ after, setBoundsForShortTermStorage problem storages weekInTheYear intervalle table = some after ∧
      ∀ pdtJour < problem.pas, ∀ pays < problem.network.nombreDePays, ∀ index storage,
        (storages pays)[index]? = some storage →
          (ConsistentStorage problem after pdtJour pays index storage ↔
            Sound storage (hourInTheYear problem weekInTheYear intervalle pdtJour) (pdtJour = problem.pas - 1)) := by
  have defined : ∀ write ∈ writtenBounds problem storages weekInTheYear intervalle, ∃ number bounds,
      problem.construireLaListeDesVariables.numero write.1 = some number ∧ write.2 = some bounds := by
    intro write written
    obtain ⟨number, -, numbered⟩ :=
      problem.construireLaListeDesVariables_exact.numbered _ (listed_of_written prepared written)
    obtain ⟨pdtJour, hourly, pays, bound, index, storage, at_, listed⟩ := mem_writtenBounds.mp written
    have checked := prepared.checked pays bound storage (List.mem_of_getElem? at_)
    have inYear := @hourInTheYear_lt problem weekInTheYear intervalle week inWeek pdtJour hourly
    simp only [storageBounds, List.mem_cons, List.not_mem_nil, or_false] at listed
    rcases listed with rfl | rfl | rfl
    · obtain ⟨bounds, same, -⟩ := injectionBounds_ordered checked inYear
      exact ⟨number, bounds, numbered, same⟩
    · obtain ⟨bounds, same, -⟩ := withdrawalBounds_ordered checked inYear
      exact ⟨number, bounds, numbered, same⟩
    · obtain ⟨bounds, same, -⟩ := levelBounds_ordered checked inYear (pdtJour = problem.pas - 1)
      exact ⟨number, bounds, numbered, same⟩
  obtain ⟨after, done, values⟩ := foldlM_writeBounds table defined
  refine ⟨after, done, fun pdtJour hourly pays bound index storage at_ => ?_⟩
  have checked := prepared.checked pays bound storage (List.mem_of_getElem? at_)
  have inYear := @hourInTheYear_lt problem weekInTheYear intervalle week inWeek pdtJour hourly
  have written {write : Variable × Option Bounds}
      (listed : write ∈ storageBounds problem weekInTheYear intervalle pdtJour pays index storage) :
      write ∈ writtenBounds problem storages weekInTheYear intervalle :=
    mem_writtenBounds.mpr ⟨pdtJour, hourly, pays, bound, index, storage, at_, listed⟩
  obtain ⟨injection, sameInjection, injectionIff⟩ := injectionBounds_ordered checked inYear
  obtain ⟨withdrawal, sameWithdrawal, withdrawalIff⟩ := withdrawalBounds_ordered checked inYear
  obtain ⟨level, sameLevel, levelIff⟩ := levelBounds_ordered checked inYear (pdtJour = problem.pas - 1)
  have three : storageBounds problem weekInTheYear intervalle pdtJour pays index storage =
      [(.shortTermStorageInjection pdtJour (problem.clusterGlobalIndex pays index), some injection),
        (.shortTermStorageWithdrawal pdtJour (problem.clusterGlobalIndex pays index), some withdrawal),
        (.shortTermStorageLevel pdtJour (problem.clusterGlobalIndex pays index), some level)] := by
    rw [← sameInjection, ← sameWithdrawal, ← sameLevel]
    rfl
  rw [three] at written
  have first := ShortTermStorage.consistent_iff prepared values (written List.mem_cons_self)
    storage.injectionNominalCapacity
  have second := ShortTermStorage.consistent_iff prepared values (written (List.mem_cons_of_mem _ List.mem_cons_self))
    storage.withdrawalNominalCapacity
  have third := ShortTermStorage.consistent_iff prepared values
    (written (List.mem_cons_of_mem _ (List.mem_cons_of_mem _ List.mem_cons_self))) storage.reservoirCapacity
  constructor
  · intro consistent
    exact ⟨injectionIff.mp (first.mp consistent.injection), withdrawalIff.mp (second.mp consistent.withdrawal),
      levelIff.mp (third.mp consistent.level)⟩
  · intro sound
    exact ⟨first.mpr (injectionIff.mpr sound.injection), second.mpr (withdrawalIff.mpr sound.withdrawal),
      third.mpr (levelIff.mpr sound.level)⟩

/-- The storages that `STStorageInput.validate` accepts are imported, and their bounds are written at every hour; they
are consistent just where the storages are sound.
-/
theorem setBoundsForShortTermStorage_consistent_iff (problem : WeeklyProblem) (areas : Nat → STStorageInput)
    (accepted : ∀ pays < problem.network.nombreDePays, (areas pays).validate.2 = true)
    (sizes : ∀ pays < problem.network.nombreDePays, (problem.shortTermStorage pays).length = (areas pays).length)
    {weekInTheYear intervalle : Nat} (week : weekInTheYear < 52)
    (inWeek : intervalle < problem.range.nbIntervallesOptimises) (table : Nat → Bounds) :
    ∃ storages, (∀ pays < problem.network.nombreDePays,
        importShortTermStorages (areas pays).validate.1 = some (storages pays)) ∧
      ∃ after, setBoundsForShortTermStorage problem storages weekInTheYear intervalle table = some after ∧
        ∀ pdtJour < problem.pas, ∀ pays < problem.network.nombreDePays, ∀ index storage,
          (storages pays)[index]? = some storage →
            (ConsistentStorage problem after pdtJour pays index storage ↔
              Sound storage (hourInTheYear problem weekInTheYear intervalle pdtJour) (pdtJour = problem.pas - 1)) := by
  have imports (pays : Nat) : ∃ storages : List WeeklyStorage, pays < problem.network.nombreDePays →
      importShortTermStorages (areas pays).validate.1 = some storages ∧ storages.length = (areas pays).length ∧
        ∀ storage ∈ storages, Checked storage := by
    by_cases bound : pays < problem.network.nombreDePays
    · obtain ⟨storages, imported⟩ := import_of_validate (accepted pays bound)
      exact ⟨storages, fun _ => imported⟩
    · exact ⟨[], fun inside => absurd inside bound⟩
  choose storages imported using imports
  refine ⟨storages, fun pays bound => (imported pays bound).1, Prepared.consistent_iff ⟨?_, ?_⟩ week inWeek table⟩
  · exact fun pays bound => (imported pays bound).2.2
  · exact fun pays bound => (sizes pays bound).trans (imported pays bound).2.1.symm

def storageWeek : WeeklyProblem where
  network := {
    nombreDePays := 1
    nombreDInterconnexions := 0
    paysOrigineDeLInterconnexion := fun _ => 0
    paysExtremiteDeLInterconnexion := fun _ => 0
    origine_lt := Network.sansInterco_lt
    extremite_lt := Network.sansInterco_lt }
  nomsDesPays := fun _ => "area"
  range := .sorWeek
  ucMode := .ucHeuristicFast
  typeDeLissageHydraulique := .pasDeLissageHydraulique
  intercoGereeAvecDesCouts := fun _ => false
  defaillanceNegativeUtiliserHydro := fun _ => false
  caracteristiquesHydrauliques := fun _ => {
    presenceDHydrauliqueModulable := false
    presenceDePompageModulable := false
    turbinageEntreBornes := false
    suiviNiveauHoraire := false
    accurateWaterValue := false
    directLevelAccess := false
    pumpingRatio := 1 }
  paliersThermiques := fun _ => []
  shortTermStorage := fun _ => [1]
  contraintesCouplantes := []

def noBounds : Nat → Bounds := fun _ => ⟨.nan, .nan⟩

theorem validate_singleton {storage : STStorageCluster} (accepted : storage.validate.2 = true) :
    STStorageInput.validate [storage] = ([storage.validate.1], true) := by
  simp [STStorageInput.validate, accepted]

theorem bare_consistent_iff : ∃ storages : Nat → List WeeklyStorage, (∀ pays < storageWeek.network.nombreDePays,
      importShortTermStorages (STStorageInput.validate [STStorageInput.bare ['a']]).1 = some (storages pays)) ∧
    ∃ after, setBoundsForShortTermStorage storageWeek storages 51 0 noBounds = some after ∧
      ∀ pdtJour < storageWeek.pas, ∀ pays < storageWeek.network.nombreDePays, ∀ index storage,
        (storages pays)[index]? = some storage →
          (ConsistentStorage storageWeek after pdtJour pays index storage ↔
            Sound storage (hourInTheYear storageWeek 51 0 pdtJour) (pdtJour = storageWeek.pas - 1)) :=
  setBoundsForShortTermStorage_consistent_iff storageWeek (fun _ => [STStorageInput.bare ['a']])
    (fun _ _ => congrArg Prod.snd (validate_singleton (STStorageInput.validate_bare ['a']))) (fun _ _ => rfl) (by decide) (by decide) noBounds

def sunken : WeeklyStorage where
  reservoirCapacity := .finite 1
  injectionNominalCapacity := .finite 0
  withdrawalNominalCapacity := .finite 0
  efficiency := .finite 1
  initialLevel := .finite (1 / 2)
  initialLevelOptim := false
  series := { Series.fillDefaultSeriesIfEmpty {} with lowerRuleCurve := List.replicate hoursPerYear (.finite (-1)) }

def sunkenCluster : STStorageCluster where
  id := ['a']
  series := sunken.series
  properties :=
    { injectionNominalCapacity := some (.finite 0)
      withdrawalNominalCapacity := some (.finite 0)
      reservoirCapacity := some (.finite 1)
      name := ['a'] }

theorem sunken_validate : sunken.series.validate = true := by
  have default := Series.validate_default
  have below : (sunken.series.lowerRuleCurve.zip sunken.series.upperRuleCurve).all
      (fun hour => !hour.2.less hour.1) = true := by
    apply List.all_eq_true.mpr
    intro hour member
    obtain ⟨lower, upper⟩ := List.of_mem_zip member
    have filled : Series.fillIfEmpty (.finite 1) [] = List.replicate hoursPerYear (.finite 1) := if_pos rfl
    change hour.2 ∈ Series.fillIfEmpty (.finite 1) [] at upper
    rw [filled] at upper
    rw [List.eq_of_mem_replicate lower, List.eq_of_mem_replicate upper]
    decide
  simp only [Series.validate, Series.validateSizes, Series.validateRuleCurves, Series.validateUpperRuleCurve,
    Series.validateLowerRuleCurve, Bool.and_eq_true, decide_eq_true_eq] at default ⊢
  exact ⟨⟨⟨⟨⟨default.1.1.1.1.1, List.length_replicate⟩, default.1.1.1.2⟩, default.1.1.2⟩, default.1.2⟩, default.2.1, below⟩

/-- The lower bound of the level is below zero at the first hour of the week, although the storage is accepted. -/
theorem sunken_not_consistent : (STStorageInput.validate [sunkenCluster]).2 = true ∧
    importShortTermStorages (STStorageInput.validate [sunkenCluster]).1 = some [sunken] ∧
      ∃ after, setBoundsForShortTermStorage storageWeek (fun _ => [sunken]) 0 0 noBounds = some after ∧
        ¬ ConsistentStorage storageWeek after 0 0 0 sunken := by
  have properties : sunkenCluster.properties.validate = (sunkenCluster.properties, true) := by decide +kernel
  have accepted : sunkenCluster.validate = (sunkenCluster, true) := by
    have series : sunkenCluster.series.validate = true := sunken_validate
    simp only [STStorageCluster.validate, properties, series]
    rfl
  have validated := validate_singleton (congrArg Prod.snd accepted)
  rw [accepted] at validated
  have checked : Checked sunken :=
    ⟨by decide +kernel, by decide +kernel, by decide +kernel, .inr ⟨by decide +kernel, by decide +kernel⟩, sunken_validate⟩
  have prepared : Prepared storageWeek (fun _ => [sunken]) :=
    ⟨fun _ _ storage found => List.mem_singleton.mp found ▸ checked, fun _ _ => rfl⟩
  obtain ⟨after, done, iffs⟩ := @Prepared.consistent_iff storageWeek _ 0 0 prepared (by decide) (by decide) noBounds
  refine ⟨congrArg Prod.snd validated, ?_, after, done, fun consistent => ?_⟩
  · rw [validated]
    rfl
  · have sound := (iffs 0 (by decide) 0 (by decide) 0 sunken rfl).mp consistent
    have early : decide (0 = storageWeek.pas - 1) = false := by decide
    have least : lowerShare sunken (hourInTheYear storageWeek 0 0 0) (decide (0 = storageWeek.pas - 1)) =
        some (.finite (-1)) := by
      rw [early]
      show (List.replicate hoursPerYear (Text.Double.finite (-1)))[0]? = some (.finite (-1))
      rw [List.getElem?_replicate, if_pos (by decide)]
    have low := sound.level _ least
    norm_num [Double.Regular, sunken] at low

end Antares.ShortTermStorage
