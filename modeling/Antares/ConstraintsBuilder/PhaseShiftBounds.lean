import Mathlib.Algebra.Order.Group.Pointwise.Interval
import Mathlib.Algebra.Order.Interval.Set.Instances
import Antares.ConstraintsBuilder.Cycles
import Antares.Library.CappedSums

/-! The constraints of a cycle that has two bounds: which of them an hour belongs to, its weights, and its
bounds as the extremes over the phase shifts.
-/

set_option autoImplicit false

namespace Antares.ConstraintsBuilder

open Library Data

namespace CBuilder

variable (builder : CBuilder) (memory : Nat → Nat → Rat)

variable (hour : Nat) (line : LinkInfo × Rat)

def signedTerm (shift : Rat) : Rat :=
  (line.1.ptr.impedances hour * line.1.ptr.loopFlow hour * builder.loopFlowFactor +
    shift * builder.phaseShiftFactor) * line.2

def phaseShifts : Set Rat :=
  Set.uIcc (line.1.ptr.pShiftMinus hour) (line.1.ptr.pShiftPlus hour)

variable (loop : List LinkInfo)

def signedSums : Set Rat :=
  chosenSums (phaseShifts hour) (builder.signedTerm hour) (signedLines loop)

theorem image_phaseShifts :
    builder.signedTerm hour line '' phaseShifts hour line =
      Set.Icc (builder.leastOf hour line) (builder.greatestOf hour line) := by
  have affine : builder.signedTerm hour line =
      (fun value => line.1.ptr.impedances hour * line.1.ptr.loopFlow hour * builder.loopFlowFactor * line.2 + value) ∘
        fun shift => shift * (builder.phaseShiftFactor * line.2) := by
    funext shift
    unfold signedTerm
    rw [Function.comp_apply]
    ring
  unfold phaseShifts leastOf greatestOf
  rw [affine, Set.image_comp, Set.image_mul_const_uIcc, Set.image_const_add_uIcc, Set.uIcc, min_add_add_left,
    max_add_add_left, mul_assoc (line.1.ptr.pShiftMinus hour), mul_assoc (line.1.ptr.pShiftPlus hour)]

theorem leastOf_le_greatestOf :
    builder.leastOf hour line ≤ builder.greatestOf hour line :=
  add_le_add_right (min_le_max) _

theorem isGreatest_signedSums :
    IsGreatest (builder.signedSums hour loop) ((signedLines loop).map (builder.greatestOf hour)).sum := by
  apply isGreatest_chosenSums
  intro line _
  rw [image_phaseShifts]
  exact isGreatest_Icc (builder.leastOf_le_greatestOf hour line)

theorem isLeast_signedSums :
    IsLeast (builder.signedSums hour loop) ((signedLines loop).map (builder.leastOf hour)).sum := by
  apply isLeast_chosenSums
  intro line _
  rw [image_phaseShifts]
  exact isLeast_Icc (builder.leastOf_le_greatestOf hour line)

section
variable (loop : List LinkInfo)

def bothStates : List State :=
  builder.statesOf memory loop .both (List.range hoursPerYear)
    [State.make memory builder.infiniteSecondMember (impedancesAt loop 0)]

variable {loop}

variable {state : State}

theorem mem_bothStates (member : state ∈ builder.bothStates memory loop) :
    state = writeHours (builder.sumsAt loop .both)
      ((List.range hoursPerYear).filter fun hour => impedancesAt loop hour = state.impedances)
      (State.make memory builder.infiniteSecondMember state.impedances) :=
  (builder.collects_states memory loop .both (List.range hoursPerYear)).content state member

theorem upper_bothStates (member : state ∈ builder.bothStates memory loop) {hour : Nat}
    (inside : hour < hoursPerYear) :
    state.secondMember.entry 0 hour =
      if impedancesAt loop hour = state.impedances then
        max (builder.sumsAt loop .both hour).lb (builder.sumsAt loop .both hour).ub
      else builder.infiniteSecondMember := by
  rw [builder.mem_bothStates memory member,
    entry_writeHours _ _ _ (fun state hour sums other => upper_atHour state hour sums other)]
  simp only [List.mem_filter, List.mem_range, inside, true_and, decide_eq_true_eq]
  rw [← builder.mem_bothStates memory member]
  rfl

theorem lower_bothStates (member : state ∈ builder.bothStates memory loop) {hour : Nat}
    (inside : hour < hoursPerYear) :
    state.secondMember.entry 1 hour =
      if impedancesAt loop hour = state.impedances then
        min (builder.sumsAt loop .both hour).ub (builder.sumsAt loop .both hour).lb
      else -1 * builder.infiniteSecondMember := by
  rw [builder.mem_bothStates memory member,
    entry_writeHours _ _ _ (fun state hour sums other => lower_atHour state hour sums other)]
  simp only [List.mem_filter, List.mem_range, inside, true_and, decide_eq_true_eq]
  rw [← builder.mem_bothStates memory member]
  rfl

variable (loop) in
theorem sumsAt_bounds (open' : builder.calendarIsDefault = true) {hour : Nat} (inside : hour < hoursPerYear) :
    (builder.sumsAt loop .both hour).lb = ((signedLines loop).map (builder.greatestOf hour)).sum ∧
      (builder.sumsAt loop .both hour).ub = ((signedLines loop).map (builder.leastOf hour)).sum := by
  have days : builder.calendarStart = 1 ∧ builder.calendarEnd = 8760 := of_decide_eq_true open'
  have inCalendar : builder.inCalendar hour = true := by
    unfold inCalendar
    rw [days.1, days.2, Bool.and_eq_true, decide_eq_true_eq, decide_eq_true_eq]
    exact ⟨inside, Nat.le_add_left 1 hour⟩
  have both := builder.bounds_foldl inCalendar (signedLines loop)
    { impedanceVector := [], wm := fun _ => none, lb := 0, ub := 0 }
  rw [zero_add, zero_add] at both
  exact both

theorem sumsAt_extremes (open' : builder.calendarIsDefault = true) {hour : Nat} (inside : hour < hoursPerYear) :
    IsGreatest (builder.signedSums hour loop)
        (max (builder.sumsAt loop .both hour).lb (builder.sumsAt loop .both hour).ub) ∧
      IsLeast (builder.signedSums hour loop)
        (min (builder.sumsAt loop .both hour).ub (builder.sumsAt loop .both hour).lb) := by
  have greatest := builder.isGreatest_signedSums hour loop
  have least := builder.isLeast_signedSums hour loop
  have ordered := least.2 greatest.1
  have bounds := builder.sumsAt_bounds loop open' inside
  rw [bounds.1, bounds.2, max_eq_left ordered, min_eq_left ordered]
  exact ⟨greatest, least⟩

theorem height_bothStates (member : state ∈ builder.bothStates memory loop) :
    state.secondMember.height = hoursPerYear := by
  rw [builder.mem_bothStates memory member, height_writeHours]
  rfl

variable (loop)

/-- The constraint of an hour: its weights, where null ones are left out, and its two bounds. -/
structure Carries (hour : Nat) (constraint : BindingConstraint) : Prop where
  weights : ∀ line ∈ signedLines loop, constraint.weight line.1.ptr =
    if mathZero (line.2 * line.1.ptr.impedances hour) then 0 else line.2 * line.1.ptr.impedances hour
  upper : IsGreatest (builder.signedSums hour loop) (constraint.rhsTimeSeries.entry 0 hour)
  lower : IsLeast (builder.signedSums hour loop) (constraint.rhsTimeSeries.entry 1 hour)

structure Idle (hour : Nat) (constraint : BindingConstraint) : Prop where
  upper : constraint.rhsTimeSeries.entry 0 hour = builder.infiniteSecondMember
  lower : constraint.rhsTimeSeries.entry 1 hour = -builder.infiniteSecondMember

def constraintOf (nCount : Nat) (state : State) (place : Nat) : BindingConstraint :=
  addConstraint (builder.pPrefix ++ paddedNumber nCount ++ '.' :: Text.decimal (place + 1)) .both state.weightMap
    (withRows state.secondMember 8784)

variable {loop}

theorem constraintsOf_both (both : loop.any LinkInfo.varies = true) (nCount : Nat) :
    builder.constraintsOf nCount (builder.completeCycle memory loop) =
      (builder.bothStates memory loop).zipIdx.map fun state => builder.constraintOf nCount state.1 state.2 := by
  have operator : operatorOf loop = .both := if_pos both
  rw [completeCycle_eq, operator]
  unfold constraintsOf
  have opType : (Cycle.make memory builder.infiniteSecondMember loop).opType = .both := operator
  dsimp only
  rw [opType]
  simp only [if_true]
  rfl

theorem entry_constraintOf {state : State} (member : state ∈ builder.bothStates memory loop) {hour : Nat}
    (inside : hour < hoursPerYear) (nCount place column : Nat) :
    (builder.constraintOf nCount state place).rhsTimeSeries.entry column hour =
      state.secondMember.entry column hour :=
  if_pos (builder.height_bothStates memory member ▸ inside)

theorem carries_constraintOf (open' : builder.calendarIsDefault = true)
    (distinct : (loop.map fun info => info.ptr.ends).Nodup) {state : State}
    (member : state ∈ builder.bothStates memory loop) {hour : Nat} (inside : hour < hoursPerYear)
    (own : impedancesAt loop hour = state.impedances) (nCount place : Nat) :
    builder.Carries loop hour (builder.constraintOf nCount state place) where
  weights line among := by
    have weights := builder.weightMap_of_mem_statesOf memory loop .both member (List.mem_range.mpr inside) own
    exact builder.hasWeights_of_state loop .both distinct weights _ _ _ line among
  upper := by
    rw [builder.entry_constraintOf memory member inside, builder.upper_bothStates memory member inside, if_pos own]
    exact (builder.sumsAt_extremes open' inside).1
  lower := by
    rw [builder.entry_constraintOf memory member inside, builder.lower_bothStates memory member inside, if_pos own]
    exact (builder.sumsAt_extremes open' inside).2

theorem idle_constraintOf {state : State} (member : state ∈ builder.bothStates memory loop) {hour : Nat}
    (inside : hour < hoursPerYear) (other : impedancesAt loop hour ≠ state.impedances) (nCount place : Nat) :
    builder.Idle hour (builder.constraintOf nCount state place) where
  upper := by
    rw [builder.entry_constraintOf memory member inside, builder.upper_bothStates memory member inside, if_neg other]
  lower := by
    rw [builder.entry_constraintOf memory member inside, builder.lower_bothStates memory member inside, if_neg other, neg_one_mul]

variable (loop) in
theorem exists_owner {hour : Nat} (inside : hour < hoursPerYear) :
    ∃ owner state, (builder.bothStates memory loop)[owner]? = some state ∧
      impedancesAt loop hour = state.impedances ∧
      ∀ (place : Nat) (other : State), (builder.bothStates memory loop)[place]? = some other → place ≠ owner →
        impedancesAt loop hour ≠ other.impedances := by
  have collects := builder.collects_states memory loop .both (List.range hoursPerYear)
  obtain ⟨state, member, own⟩ := List.mem_map.mp (collects.found hour (List.mem_range.mpr inside))
  obtain ⟨owner, there⟩ := List.mem_iff_getElem?.mp member
  refine ⟨owner, state, there, own.symm, fun place other found different same => different ?_⟩
  have distinct := collects.distinct
  have first : ((builder.bothStates memory loop).map State.impedances)[owner]? = some (impedancesAt loop hour) := by
    rw [List.getElem?_map]
    exact (congrArg (Option.map State.impedances) there).trans (congrArg some own)
  have second : ((builder.bothStates memory loop).map State.impedances)[place]? = some (impedancesAt loop hour) := by
    rw [List.getElem?_map, found]
    exact congrArg some same.symm
  obtain ⟨ownerInside, _⟩ := List.getElem?_eq_some_iff.mp first
  exact ((List.getElem?_inj ownerInside distinct).mp (first.trans second.symm)).symm

end

/-- An hour belongs to one constraint of a cycle with two bounds: it has the weights and the bounds of the
hour, and every other constraint of the cycle has none.
-/
theorem createConstraints_both {names : List Text} {mesh : List (List LinkInfo)} {result : List (List BindingConstraint)}
    (created : builder.createConstraints memory names mesh = some result) {turn : Nat} {loop : List LinkInfo}
    (listed : mesh[turn]? = some loop) (distinct : (loop.map fun info => info.ptr.ends).Nodup)
    (both : loop.any LinkInfo.varies = true) {hour : Nat} (inside : hour < hoursPerYear) :
    ∃ constraints, result[turn]? = some constraints ∧ ∃ owner < constraints.length,
      ∀ (place : Nat) (constraint : BindingConstraint), constraints[place]? = some constraint →
        if place = owner then builder.Carries loop hour constraint else builder.Idle hour constraint := by
  obtain ⟨open', nCount, found⟩ := builder.getElem?_of_createConstraints memory created listed
  refine ⟨_, found, ?_⟩
  rw [builder.constraintsOf_both memory both]
  obtain ⟨owner, state, there, own, others⟩ := builder.exists_owner memory loop inside
  refine ⟨owner, ?_, ?_⟩
  · rw [List.length_map, List.length_zipIdx]
    exact (List.getElem?_eq_some_iff.mp there).1
  · intro place constraint found
    rw [List.getElem?_map, List.getElem?_zipIdx, Option.map_map] at found
    obtain ⟨other, at', rfl⟩ := Option.map_eq_some_iff.mp found
    have member := List.mem_of_getElem? at'
    split_ifs with same
    · have equal : other = state := by
        rw [same, there] at at'
        exact (Option.some.inj at').symm
      exact builder.carries_constraintOf memory open' distinct member inside (equal ▸ own) _ _
    · exact builder.idle_constraintOf memory member inside (others place other at' same) _ _

theorem weight_addConstraint_ne {weight : Rat} (null : mathZero weight = true) (some : weight ≠ 0) (name : Text)
    (operatorType : Operator) (weights : WeightMap) (rhs : Matrix) (link : AreaLink) :
    (addConstraint name operatorType weights rhs).weight link ≠ weight := by
  unfold BindingConstraint.weight addConstraint
  dsimp only
  cases weights link.ends with
  | none => exact fun same => some same.symm
  | some kept =>
    rw [Option.filter_some]
    cases zero : mathZero kept with
    | true => exact fun same => some same.symm
    | false =>
      rintro rfl
      exact Bool.false_ne_true (zero.symm.trans null)

theorem weight_constraintsOf_ne {weight : Rat} (null : mathZero weight = true) (some : weight ≠ 0) {nCount : Nat}
    {cycle : Cycle} {constraint : BindingConstraint} (member : constraint ∈ builder.constraintsOf nCount cycle)
    (link : AreaLink) : constraint.weight link ≠ weight := by
  obtain ⟨state, _, rfl⟩ := List.mem_map.mp member
  dsimp only
  split_ifs
  · exact weight_addConstraint_ne null some _ _ _ _ link
  · exact weight_addConstraint_ne null some _ _ _ _ link

end CBuilder

/-- A line with a phase shifter, and the same impedance in every hour. -/
def shiftedLine (first second : Char) (impedance : Rat) : LinkInfo where
  ptr :=
    { from' := [first]
      with' := [second]
      impedances := fun _ => impedance
      loopFlow := fun _ => 0
      pShiftMinus := fun _ => -1
      pShiftPlus := fun _ => 1
      directCapacities := [fun _ => 1]
      indirectCapacities := [fun _ => 1]
      useLoopFlow := true
      usePST := true }
  type := .ac
  enabled := true
  hasPShiftsEqual := false
  nImpedanceChanges := 0
  avgImpedance := 1
  weight := 11

def shiftedTriangle (impedance : Rat) : List LinkInfo :=
  [shiftedLine 'a' 'b' impedance, shiftedLine 'b' 'c' impedance, shiftedLine 'c' 'a' impedance]

def triangleBuilder (impedance : Rat) : CBuilder where
  pLink := shiftedTriangle impedance
  pPrefix := "@UTO_".toList
  areaToLinks := fun _ => []
  includeLoopFlow := true
  includePhaseShift := true
  checkNodalLoopFlow := true
  infiniteSecondMember := 1000000
  calendarStart := 1
  calendarEnd := 8760

theorem createConstraints_both_triangle : ∃ constraints,
    ((triangleBuilder 1).createConstraints (fun _ _ => 0) [] [shiftedTriangle 1]).bind (·[0]?) = some constraints ∧
      ∃ owner < constraints.length, ∀ (place : Nat) (constraint : BindingConstraint), constraints[place]? = some constraint →
        if place = owner then (triangleBuilder 1).Carries (shiftedTriangle 1) 5 constraint
        else (triangleBuilder 1).Idle 5 constraint := by
  obtain ⟨result, created⟩ : ∃ result,
      (triangleBuilder 1).createConstraints (fun _ _ => 0) [] [shiftedTriangle 1] = some result :=
    ⟨_, if_neg (by decide)⟩
  have listed : [shiftedTriangle 1][0]? = some (shiftedTriangle 1) := rfl
  rw [created]
  exact (triangleBuilder 1).createConstraints_both (fun _ _ => 0) created listed (by decide) rfl (by decide)

/-- With impedances of a ten-millionth, no constraint of the triangle has the weight of its first line. -/
theorem createConstraints_weights_lost : ∃ constraints,
    ((triangleBuilder (1 / 10000000)).createConstraints (fun _ _ => 0) []
      [shiftedTriangle (1 / 10000000)]).bind (·[0]?) = some constraints ∧
    ¬∃ (owner : Nat) (constraint : BindingConstraint), constraints[owner]? = some constraint ∧
      ∀ line ∈ CBuilder.signedLines (shiftedTriangle (1 / 10000000)),
        constraint.weight line.1.ptr = line.2 * line.1.ptr.impedances 0 := by
  obtain ⟨result, created⟩ : ∃ result, (triangleBuilder (1 / 10000000)).createConstraints (fun _ _ => 0) []
      [shiftedTriangle (1 / 10000000)] = some result := ⟨_, if_neg (by decide)⟩
  have listed : [shiftedTriangle (1 / 10000000)][0]? = some (shiftedTriangle (1 / 10000000)) := rfl
  obtain ⟨_, nCount, found⟩ := CBuilder.getElem?_of_createConstraints _ _ created listed
  rw [created]
  refine ⟨_, found, ?_⟩
  rintro ⟨owner, constraint, there, weights⟩
  have first := weights (shiftedLine 'a' 'b' (1 / 10000000), 1) List.mem_cons_self
  have member := List.mem_of_getElem? there
  exact CBuilder.weight_constraintsOf_ne _ (by decide +kernel) (by decide +kernel) member _ first

end Antares.ConstraintsBuilder
