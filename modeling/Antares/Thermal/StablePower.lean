import Antares.Data.Matrix
import Antares.Library.StoppedRuns

/-! The stable power of a thermal cluster: the series of its availability are lifted to it, and the least
quotient of its modulations is kept while they are edited.
-/

set_option autoImplicit false

namespace Antares.Thermal

open Data Library

/-- The least quotient found; `none` is what is not a number. -/
structure DivModulation where
  value : Option ℚ := some 0
  border : Option ℚ := none
  index : Nat := 0
  isCalculated : Bool := false
  isValidated : Bool := false

/-- The capacities of a cluster, and how many hours its modulation has. -/
structure StableCluster where
  nominalCapacity : ℚ
  nominalCapacityWithSpinning : ℚ
  minStablePower : ℚ
  spinning : ℚ
  height : Nat
  height_pos : 0 < height

/-- The capacity modulation of a cluster while it is edited, with every ceiling that has been divided by. -/
structure ModulationState where
  capacity : Nat → ℚ
  minDivModulation : DivModulation := {}
  divisors : List Int := []

structure ModulationEdit where
  index : Nat
  value : ℚ

/-- `value / ceil(value)`, for values that are not negative. -/
def divCeil (value : ℚ) : Option ℚ := if ⌈value⌉ = 0 then none else some (value / ⌈value⌉)

def divLess : Option ℚ → Option ℚ → Bool
  | some first, some second => first < second
  | _, _ => false

namespace StableCluster

variable (cluster : StableCluster)

def pmin : ℚ :=
  if cluster.nominalCapacityWithSpinning < cluster.minStablePower then cluster.nominalCapacityWithSpinning
  else cluster.minStablePower

def correctAvailability (entry : ℚ) : ℚ :=
  let rightpart := cluster.pmin * ⌈entry / cluster.nominalCapacityWithSpinning⌉
  if entry < rightpart then rightpart else entry

def checkAndCorrectAvailability (timeSeries : Matrix) : Matrix :=
  { timeSeries with entry := fun x y =>
      if x < timeSeries.width ∧ y < timeSeries.height then cluster.correctAvailability (timeSeries.entry x y)
      else timeSeries.entry x y }

/-- The first hour of the least quotient among the first ones, by strict comparisons. -/
def leastDiv (capacity : Nat → ℚ) (hours : Nat) : Option ℚ × Nat :=
  (List.range' 1 (hours - 1)).foldl
    (fun least t => if divLess (divCeil (capacity t)) least.1 then (divCeil (capacity t), t) else least)
    (divCeil (capacity 0), 0)

variable (state : ModulationState)

def calculatMinDivModulation : ModulationState :=
  let least := leastDiv state.capacity cluster.height
  { state with
    minDivModulation := { state.minDivModulation with value := least.1, index := least.2, isCalculated := true }
    divisors := state.divisors ++ (List.range cluster.height).map fun t => ⌈state.capacity t⌉ }

/-- `minDivModulation.border`; nothing is below the quotient by a null capacity. -/
def border : Option ℚ :=
  let nomCapacityWithSpinning := cluster.nominalCapacity * (1 - cluster.spinning / 101)
  if mathZero (1 - cluster.spinning / 101) then some 0
  else if nomCapacityWithSpinning = 0 then none
  else some (min nomCapacityWithSpinning cluster.minStablePower / nomCapacityWithSpinning)

def checkMinStablePower : ModulationState × Bool :=
  let state := if state.minDivModulation.isCalculated then state else cluster.calculatMinDivModulation state
  let validated (div : DivModulation) (valid : Bool) : ModulationState × Bool :=
    ({ state with minDivModulation := { div with isValidated := valid } }, valid)
  if divLess state.minDivModulation.value (some 0) then validated state.minDivModulation false
  else
    let div := { state.minDivModulation with border := cluster.border }
    validated div (!divLess div.value div.border)

def withNewModulation (index : Nat) (value : ℚ) (state : ModulationState) : ModulationState :=
  if !state.minDivModulation.isCalculated || index = state.minDivModulation.index then
    cluster.calculatMinDivModulation state
  else
    let div := divCeil value
    let minDivModulation :=
      if divLess div state.minDivModulation.value then { state.minDivModulation with value := div, index := index }
      else state.minDivModulation
    { state with minDivModulation, divisors := state.divisors ++ [⌈value⌉] }

def checkMinStablePowerWithNewModulation (index : Nat) (value : ℚ) (state : ModulationState) : ModulationState × Bool :=
  cluster.checkMinStablePower (cluster.withNewModulation index value state)

end StableCluster

def ModulationEdit.apply (capacity : Nat → ℚ) (edit : ModulationEdit) : Nat → ℚ :=
  Function.update capacity edit.index edit.value

/-- One edit of `cellValue`, and the check that follows. -/
def StableCluster.edited (cluster : StableCluster) (state : ModulationState) (edit : ModulationEdit) : ModulationState :=
  (cluster.checkMinStablePowerWithNewModulation edit.index edit.value
    { state with capacity := edit.apply state.capacity }).1

/-- `m / ceil(m)` -/
def quotient (value : ℚ) : ℚ := value / ⌈value⌉

theorem ceil_ne_zero_iff {value : ℚ} (nonneg : 0 ≤ value) : ⌈value⌉ ≠ 0 ↔ value ≠ 0 := by
  rw [not_iff_not]
  constructor
  · intro null
    exact le_antisymm (Int.ceil_le.mp null.le |>.trans Int.cast_zero.le) nonneg
  · rintro rfl
    exact Int.ceil_zero

theorem divCeil_of_ne_zero {value : ℚ} (ceil : ⌈value⌉ ≠ 0) : divCeil value = some (quotient value) := if_neg ceil

namespace StableCluster

/-- The least quotient of some hours and the first of them that has it. -/
structure LeastOf (capacity : Nat → ℚ) (hours : Set Nat) (least : Option ℚ × Nat) : Prop where
  index : least.2 ∈ hours
  value : least.1 = some (quotient (capacity least.2))
  lowest : ∀ hour ∈ hours, quotient (capacity least.2) ≤ quotient (capacity hour)

theorem LeastOf.insert {capacity : Nat → ℚ} {hours : Set Nat} {least : Option ℚ × Nat} (found : LeastOf capacity hours least)
    {t : Nat} (ceil : ⌈capacity t⌉ ≠ 0) : LeastOf capacity (insert t hours)
      (if divLess (divCeil (capacity t)) least.1 then (divCeil (capacity t), t) else least) := by
  have compared : divLess (divCeil (capacity t)) least.1 = decide (quotient (capacity t) < quotient (capacity least.2)) := by
    rw [divCeil_of_ne_zero ceil, found.value]
    rfl
  rw [compared]
  by_cases less : quotient (capacity t) < quotient (capacity least.2)
  · rw [if_pos (decide_eq_true less)]
    refine ⟨Set.mem_insert _ _, divCeil_of_ne_zero ceil, fun hour member => ?_⟩
    rcases member with rfl | earlier
    · exact le_rfl
    · exact less.le.trans (found.lowest hour earlier)
  · rw [if_neg (by simpa using less)]
    refine ⟨Set.mem_insert_of_mem _ found.index, found.value, fun hour member => ?_⟩
    rcases member with rfl | earlier
    · exact not_lt.mp less
    · exact found.lowest hour earlier

theorem leastDiv_leastOf {capacity : Nat → ℚ} {hours : Nat} (some : 0 < hours) (ceils : ∀ t < hours, ⌈capacity t⌉ ≠ 0) :
    LeastOf capacity (Set.Iio hours) (leastDiv capacity hours) := by
  unfold leastDiv
  induction hours with
  | zero => exact absurd some (lt_irrefl 0)
  | succ hours later =>
    cases hours with
    | zero =>
      refine ⟨some, divCeil_of_ne_zero (ceils 0 some), fun hour member => ?_⟩
      rw [Nat.lt_one_iff.mp member]
      exact le_rfl
    | succ hours =>
      have before := later hours.succ_pos fun t below => ceils t (below.trans (Nat.lt_succ_self _))
      have last : List.range' 1 (hours + 1 + 1 - 1) = List.range' 1 (hours + 1 - 1) ++ [hours + 1] := by
        rw [Nat.add_sub_cancel, Nat.add_sub_cancel, List.range'_1_concat, Nat.add_comm 1 hours]
      have all : Set.Iio (hours + 1 + 1) = insert (hours + 1) (Set.Iio (hours + 1)) := by
        ext hour
        simp only [Set.mem_Iio, Set.mem_insert_iff]
        omega
      rw [last, List.foldl_append, all]
      exact before.insert (ceils _ (Nat.lt_succ_self _))

variable (cluster : StableCluster)

def NoNullModulation (capacity : Nat → ℚ) : Prop := ∀ t < cluster.height, capacity t ≠ 0

instance (capacity : Nat → ℚ) : Decidable (cluster.NoNullModulation capacity) := Nat.decidableBallLT _ _

/-- The stored minimum is the one of all hours, and nothing has been divided by zero. -/
structure MinimumKept (state : ModulationState) : Prop where
  minimum : ∃ least, state.minDivModulation.value = some least ∧
    IsLeast ((fun t => state.capacity t / ⌈state.capacity t⌉) '' Set.Iio cluster.height) least
  divisors : ∀ divisor ∈ state.divisors, divisor ≠ 0

structure Held (state : ModulationState) : Prop where
  calculated : state.minDivModulation.isCalculated = true
  least : LeastOf state.capacity (Set.Iio cluster.height) (state.minDivModulation.value, state.minDivModulation.index)
  noNull : cluster.NoNullModulation state.capacity
  divisors : ∀ divisor ∈ state.divisors, divisor ≠ 0

variable {cluster} {state : ModulationState}

theorem Held.kept (held : cluster.Held state) : cluster.MinimumKept state where
  minimum := ⟨_, held.least.value, Set.mem_image_of_mem _ held.least.index,
    Set.forall_mem_image.mpr fun hour inside => held.least.lowest hour inside⟩
  divisors := held.divisors

variable {capacity : Nat → ℚ}

theorem noNull_iff (nonneg : ∀ t < cluster.height, 0 ≤ capacity t) :
    cluster.NoNullModulation capacity ↔ ∀ t < cluster.height, ⌈capacity t⌉ ≠ 0 :=
  forall₂_congr fun t inside => (ceil_ne_zero_iff (nonneg t inside)).symm

theorem held_calculatMinDivModulation (nonneg : ∀ t < cluster.height, 0 ≤ state.capacity t)
    (noNull : cluster.NoNullModulation state.capacity) (divisors : ∀ divisor ∈ state.divisors, divisor ≠ 0) :
    cluster.Held (cluster.calculatMinDivModulation state) := by
  have ceils := (noNull_iff nonneg).mp noNull
  refine ⟨rfl, leastDiv_leastOf cluster.height_pos ceils, noNull, fun divisor member => ?_⟩
  rcases List.mem_append.mp member with earlier | now
  · exact divisors divisor earlier
  · obtain ⟨t, inside, rfl⟩ := List.mem_map.mp now
    exact ceils t (List.mem_range.mp inside)

theorem checkMinStablePower_eq (calculated : state.minDivModulation.isCalculated = true) :
    ∃ border valid, (cluster.checkMinStablePower state).1 =
      { state with minDivModulation := { state.minDivModulation with border := border, isValidated := valid } } := by
  unfold checkMinStablePower
  rw [if_pos calculated]
  dsimp only
  split_ifs
  · exact ⟨state.minDivModulation.border, false, rfl⟩
  · exact ⟨cluster.border, _, rfl⟩

theorem held_checkMinStablePower (calculated : state.minDivModulation.isCalculated = true) :
    cluster.Held (cluster.checkMinStablePower state).1 ↔ cluster.Held state := by
  obtain ⟨border, valid, same⟩ := @checkMinStablePower_eq cluster state calculated
  rw [same]
  exact ⟨fun held => ⟨held.calculated, held.least, held.noNull, held.divisors⟩,
    fun held => ⟨held.calculated, held.least, held.noNull, held.divisors⟩⟩

theorem divisors_checkMinStablePower (calculated : state.minDivModulation.isCalculated = true) :
    (cluster.checkMinStablePower state).1.divisors = state.divisors := by
  obtain ⟨border, valid, same⟩ := @checkMinStablePower_eq cluster state calculated
  rw [same]

variable (cluster) in
/-- An edit of an hour of the modulation, with a value that may be one. -/
structure Allowed (edit : ModulationEdit) : Prop where
  inside : edit.index < cluster.height
  nonneg : 0 ≤ edit.value

variable (cluster) in
/-- The states of a run that has met no null modulation, with its modulation. -/
structure FollowsModulation (state : ModulationState) (capacity : Nat → ℚ) : Prop where
  same : state.capacity = capacity
  nonneg : ∀ t < cluster.height, 0 ≤ capacity t
  started : state.minDivModulation.isCalculated = false ∧ state.divisors = [] ∨ cluster.Held state

theorem nonneg_apply (nonneg : ∀ t < cluster.height, 0 ≤ capacity t) {edit : ModulationEdit}
    (allowed : 0 ≤ edit.value) : ∀ t < cluster.height, 0 ≤ edit.apply capacity t := by
  intro t inside
  unfold ModulationEdit.apply
  by_cases same : t = edit.index
  · rwa [same, Function.update_self]
  · rw [Function.update_of_ne same]
    exact nonneg t inside

theorem Held.edited_apart (held : cluster.Held state) {edit : ModulationEdit} (allowed : cluster.Allowed edit)
    (apart : edit.index ≠ state.minDivModulation.index) (nonzero : edit.value ≠ 0) :
    cluster.Held (cluster.withNewModulation edit.index edit.value { state with capacity := edit.apply state.capacity }) := by
  have ceil : ⌈edit.value⌉ ≠ 0 := (ceil_ne_zero_iff allowed.nonneg).mpr nonzero
  have written : edit.apply state.capacity edit.index = edit.value := Function.update_self ..
  have others {t : Nat} (other : t ≠ edit.index) : edit.apply state.capacity t = state.capacity t :=
    Function.update_of_ne other _ _
  -- The minimum of the other hours is the one that is stored.
  have rest : LeastOf (edit.apply state.capacity) (Set.Iio cluster.height \ {edit.index})
      (state.minDivModulation.value, state.minDivModulation.index) := by
    refine ⟨⟨held.least.index, apart.symm⟩, ?_, fun hour member => ?_⟩
    · rw [others apart.symm]
      exact held.least.value
    · rw [others apart.symm, others member.2]
      exact held.least.lowest hour member.1
  have least := rest.insert (t := edit.index) (written.symm ▸ ceil)
  rw [Set.insert_sdiff_singleton, Set.insert_eq_of_mem (Set.mem_Iio.mpr allowed.inside), written] at least
  unfold withNewModulation
  rw [held.calculated, if_neg (by simpa using apart)]
  refine ⟨?_, ?_, fun t inside => ?_, fun divisor member => ?_⟩
  · dsimp only
    split_ifs <;> exact held.calculated
  · dsimp only
    split_ifs at least ⊢ <;> exact least
  · dsimp only
    by_cases same : t = edit.index
    · rwa [same, written]
    · rw [others same]
      exact held.noNull t inside
  · rcases List.mem_append.mp member with earlier | now
    · exact held.divisors divisor earlier
    · rwa [List.mem_singleton.mp now]

theorem capacity_withNewModulation (index : Nat) (value : ℚ) (state : ModulationState) :
    (cluster.withNewModulation index value state).capacity = state.capacity := by
  unfold withNewModulation
  split_ifs <;> rfl

theorem calculated_withNewModulation (index : Nat) (value : ℚ) (state : ModulationState) :
    (cluster.withNewModulation index value state).minDivModulation.isCalculated = true := by
  unfold withNewModulation
  split_ifs with again
  · rfl
  · have calculated : state.minDivModulation.isCalculated = true := by
      cases found : state.minDivModulation.isCalculated with
      | false => exact absurd (by simp [found]) again
      | true => rfl
    dsimp only
    split_ifs <;> exact calculated

theorem noNull_of_divisors (follows : cluster.FollowsModulation state capacity)
    {edit : ModulationEdit} (allowed : cluster.Allowed edit)
    (nonzero : ∀ divisor ∈ (cluster.edited state edit).divisors, divisor ≠ 0) :
    cluster.NoNullModulation (edit.apply capacity) := by
  obtain ⟨rfl, nonneg, started⟩ := follows
  rw [edited, checkMinStablePowerWithNewModulation, divisors_checkMinStablePower (calculated_withNewModulation _ _ _)]
    at nonzero
  unfold withNewModulation at nonzero
  split_ifs at nonzero with again
  · refine (noNull_iff (nonneg_apply nonneg allowed.nonneg)).mpr fun t inside => ?_
    exact nonzero _ (List.mem_append_right _ (List.mem_map_of_mem (List.mem_range.mpr inside)))
  · have held : cluster.Held state := by
      refine started.resolve_left fun fresh => ?_
      exact again (by simp [fresh.1])
    have ceil : ⌈edit.value⌉ ≠ 0 := nonzero _ (List.mem_append_right _ List.mem_cons_self)
    intro t inside
    unfold ModulationEdit.apply
    by_cases same : t = edit.index
    · rw [same, Function.update_self]
      exact (ceil_ne_zero_iff allowed.nonneg).mp ceil
    · rw [Function.update_of_ne same]
      exact held.noNull t inside

theorem held_edited (follows : cluster.FollowsModulation state capacity) {edit : ModulationEdit}
    (allowed : cluster.Allowed edit) (noNull : cluster.NoNullModulation (edit.apply capacity)) :
    cluster.Held (cluster.edited state edit) := by
  obtain ⟨rfl, nonneg, started⟩ := follows
  refine (held_checkMinStablePower (calculated_withNewModulation _ _ _)).mpr ?_
  have divisors : ∀ divisor ∈ state.divisors, divisor ≠ 0 := by
    rcases started with ⟨-, empty⟩ | held
    · rw [empty]
      exact fun divisor member => absurd member List.not_mem_nil
    · exact held.divisors
  by_cases again : (!state.minDivModulation.isCalculated || edit.index = state.minDivModulation.index) = true
  · rw [withNewModulation, if_pos again]
    exact held_calculatMinDivModulation (nonneg_apply nonneg allowed.nonneg) noNull divisors
  · have held : cluster.Held state := started.resolve_left fun fresh => again (by simp [fresh.1])
    have nonzero : edit.value ≠ 0 := by
      have here := noNull edit.index allowed.inside
      rwa [ModulationEdit.apply, Function.update_self] at here
    exact held.edited_apart allowed (fun same => again (by simp [same])) nonzero

theorem capacity_edited (edit : ModulationEdit) : (cluster.edited state edit).capacity = edit.apply state.capacity := by
  have calculated := @calculated_withNewModulation cluster edit.index edit.value
    { state with capacity := edit.apply state.capacity }
  obtain ⟨border, valid, same⟩ := @checkMinStablePower_eq cluster _ calculated
  rw [edited, checkMinStablePowerWithNewModulation, same]
  exact capacity_withNewModulation _ _ _

theorem edited_kept_iff (follows : cluster.FollowsModulation state capacity) {edit : ModulationEdit}
    (allowed : cluster.Allowed edit) :
    (cluster.MinimumKept (cluster.edited state edit) ↔ cluster.NoNullModulation (edit.apply capacity)) ∧
      (cluster.MinimumKept (cluster.edited state edit) →
        cluster.FollowsModulation (cluster.edited state edit) (edit.apply capacity)) := by
  have null (kept : cluster.MinimumKept (cluster.edited state edit)) := noNull_of_divisors follows allowed kept.divisors
  refine ⟨⟨null, fun noNull => (held_edited follows allowed noNull).kept⟩, fun kept => ⟨?_, ?_, ?_⟩⟩
  · rw [← follows.same]
    exact capacity_edited edit
  · exact nonneg_apply follows.nonneg allowed.nonneg
  · exact Or.inr (held_edited follows allowed (null kept))

theorem afterEach_kept_iff (nonneg : ∀ t < cluster.height, 0 ≤ capacity t)
    {edits : List ModulationEdit} (allowed : ∀ edit ∈ edits, cluster.Allowed edit) :
    AfterEach cluster.edited cluster.MinimumKept { capacity } edits ↔
      AfterEach ModulationEdit.apply cluster.NoNullModulation capacity edits :=
  @afterEach_congr _ _ _ cluster.edited cluster.MinimumKept ModulationEdit.apply cluster.NoNullModulation cluster.Allowed
    cluster.FollowsModulation (fun _ _ follows _ allowed => edited_kept_iff follows allowed) _ _ _
    ⟨rfl, nonneg, Or.inl ⟨rfl, rfl⟩⟩ allowed

section Availability

theorem pmin_eq : cluster.pmin = min cluster.minStablePower cluster.nominalCapacityWithSpinning := by
  unfold pmin
  split_ifs with less
  · rw [min_eq_right less.le]
  · rw [min_eq_left (not_lt.mp less)]

theorem pmin_le : cluster.pmin ≤ cluster.nominalCapacityWithSpinning := pmin_eq.le.trans (min_le_right _ _)

theorem le_correctAvailability (entry : ℚ) : entry ≤ cluster.correctAvailability entry := by
  unfold correctAvailability
  dsimp only
  split_ifs with less
  · exact less.le
  · exact le_rfl

theorem rightpart_le (entry : ℚ) : cluster.pmin * ⌈entry / cluster.nominalCapacityWithSpinning⌉ ≤
    cluster.correctAvailability entry := by
  unfold correctAvailability
  dsimp only
  split_ifs with less
  · exact le_rfl
  · exact not_lt.mp less

variable (pos : 0 < cluster.nominalCapacityWithSpinning) {entry : ℚ}
include pos

theorem ceil_correctAvailability (nonneg : 0 ≤ entry) :
    ⌈cluster.correctAvailability entry / cluster.nominalCapacityWithSpinning⌉ =
      ⌈entry / cluster.nominalCapacityWithSpinning⌉ := by
  have units : (0 : ℚ) ≤ ⌈entry / cluster.nominalCapacityWithSpinning⌉ := by
    exact_mod_cast Int.ceil_nonneg (div_nonneg nonneg pos.le)
  have enough : entry ≤ cluster.nominalCapacityWithSpinning * ⌈entry / cluster.nominalCapacityWithSpinning⌉ := by
    rw [← div_le_iff₀' pos]
    exact Int.le_ceil _
  have bounded : cluster.correctAvailability entry ≤
      cluster.nominalCapacityWithSpinning * ⌈entry / cluster.nominalCapacityWithSpinning⌉ := by
    unfold correctAvailability
    dsimp only
    split_ifs
    · exact mul_le_mul_of_nonneg_right pmin_le units
    · exact enough
  apply le_antisymm
  · rw [Int.ceil_le, div_le_iff₀' pos]
    exact bounded
  · exact Int.ceil_mono (div_le_div_of_nonneg_right (le_correctAvailability entry) pos.le)

theorem correctAvailability_stable (nonneg : 0 ≤ entry) :
    cluster.pmin * ⌈cluster.correctAvailability entry / cluster.nominalCapacityWithSpinning⌉ ≤
      cluster.correctAvailability entry := by
  rw [ceil_correctAvailability pos nonneg]
  exact rightpart_le entry

theorem correctAvailability_again (nonneg : 0 ≤ entry) :
    cluster.correctAvailability (cluster.correctAvailability entry) = cluster.correctAvailability entry := by
  rw [correctAvailability.eq_def cluster (cluster.correctAvailability entry)]
  exact if_neg (correctAvailability_stable pos nonneg).not_gt

end Availability

variable (cluster) in
/-- The series that the correction is for: not lowered, with enough for the started units, whose number
does not change, and not corrected again.
-/
structure AvailabilityCorrected (timeSeries : Matrix) : Prop where
  notLowered : ∀ x < timeSeries.width, ∀ y < timeSeries.height,
    timeSeries.entry x y ≤ (cluster.checkAndCorrectAvailability timeSeries).entry x y
  stable : ∀ x < timeSeries.width, ∀ y < timeSeries.height,
    min cluster.minStablePower cluster.nominalCapacityWithSpinning *
        ⌈(cluster.checkAndCorrectAvailability timeSeries).entry x y / cluster.nominalCapacityWithSpinning⌉ ≤
      (cluster.checkAndCorrectAvailability timeSeries).entry x y
  units : ∀ x < timeSeries.width, ∀ y < timeSeries.height,
    ⌈(cluster.checkAndCorrectAvailability timeSeries).entry x y / cluster.nominalCapacityWithSpinning⌉ =
      ⌈timeSeries.entry x y / cluster.nominalCapacityWithSpinning⌉
  again : cluster.checkAndCorrectAvailability (cluster.checkAndCorrectAvailability timeSeries) =
    cluster.checkAndCorrectAvailability timeSeries

theorem availability_corrected (pos : 0 < cluster.nominalCapacityWithSpinning) {timeSeries : Matrix}
    (available : ∀ x < timeSeries.width, ∀ y < timeSeries.height, 0 ≤ timeSeries.entry x y) :
    cluster.AvailabilityCorrected timeSeries := by
  have cell {x y : Nat} (inWidth : x < timeSeries.width) (inHeight : y < timeSeries.height) :
      (cluster.checkAndCorrectAvailability timeSeries).entry x y = cluster.correctAvailability (timeSeries.entry x y) :=
    if_pos ⟨inWidth, inHeight⟩
  constructor
  case notLowered =>
    intro x inWidth y inHeight
    rw [cell inWidth inHeight]
    exact le_correctAvailability _
  case stable =>
    intro x inWidth y inHeight
    rw [cell inWidth inHeight, ← pmin_eq]
    exact correctAvailability_stable pos (available x inWidth y inHeight)
  case units =>
    intro x inWidth y inHeight
    rw [cell inWidth inHeight]
    exact ceil_correctAvailability pos (available x inWidth y inHeight)
  case again =>
    unfold checkAndCorrectAvailability
    congr 1
    funext x y
    dsimp only
    split_ifs with inside
    · exact correctAvailability_again pos (available x inside.1 y inside.2)
    · rfl

/-- The availability is corrected in every case, and the minimum is kept by the edits exactly where none
leaves a null modulation.
-/
theorem stablePower_iff (cluster : StableCluster) (pos : 0 < cluster.nominalCapacityWithSpinning) (timeSeries : Matrix)
    (available : ∀ x < timeSeries.width, ∀ y < timeSeries.height, 0 ≤ timeSeries.entry x y) (capacity : Nat → ℚ)
    (nonneg : ∀ t < cluster.height, 0 ≤ capacity t) (edits : List ModulationEdit)
    (allowed : ∀ edit ∈ edits, cluster.Allowed edit) :
    (cluster.AvailabilityCorrected timeSeries ∧ AfterEach cluster.edited cluster.MinimumKept { capacity } edits) ↔
      AfterEach ModulationEdit.apply cluster.NoNullModulation capacity edits := by
  rw [← afterEach_kept_iff nonneg allowed]
  exact and_iff_right (availability_corrected pos available)

end StableCluster

def smallCluster : StableCluster where
  nominalCapacity := 100
  nominalCapacityWithSpinning := 100
  minStablePower := 40
  spinning := 0
  height := 2
  height_pos := by decide

theorem stablePower_of_halves :
    smallCluster.AvailabilityCorrected { width := 1, height := 1, entry := fun _ _ => 110 } ∧
      AfterEach smallCluster.edited smallCluster.MinimumKept { capacity := fun _ => 1 } [⟨1, 1 / 2⟩, ⟨1, 3 / 4⟩] :=
  (smallCluster.stablePower_iff (by decide +kernel) { width := 1, height := 1, entry := fun _ _ => 110 }
    (fun _ _ _ _ => (by decide +kernel : (0 : ℚ) ≤ 110)) (fun _ => 1) (fun _ _ => zero_le_one) [⟨1, 1 / 2⟩, ⟨1, 3 / 4⟩]
    (by
      rw [List.forall_mem_cons, List.forall_mem_singleton]
      exact ⟨⟨by decide, by decide +kernel⟩, ⟨by decide, by decide +kernel⟩⟩)).mpr (by decide +kernel)

/-- The first hour is edited to zero: its ceiling is divided by, and no minimum is found for the other hours. -/
theorem stablePower_of_null :
    (∀ edit ∈ [ModulationEdit.mk 0 0], smallCluster.Allowed edit) ∧
      0 ∈ (smallCluster.edited { capacity := fun _ => 1 } ⟨0, 0⟩).divisors ∧
      (smallCluster.edited { capacity := fun _ => 1 } ⟨0, 0⟩).minDivModulation.value = none ∧
      ¬ AfterEach smallCluster.edited smallCluster.MinimumKept { capacity := fun _ => 1 } [⟨0, 0⟩] := by
  have divided : 0 ∈ (smallCluster.edited { capacity := fun _ => 1 } ⟨0, 0⟩).divisors := by decide +kernel
  refine ⟨?_, divided, by decide +kernel, fun kept => kept.1.divisors 0 divided rfl⟩
  exact List.forall_mem_singleton.mpr ⟨by decide, le_rfl⟩

end Antares.Thermal
