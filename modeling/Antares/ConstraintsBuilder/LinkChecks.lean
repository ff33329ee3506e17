import Antares.ConstraintsBuilder.Cycles
import Antares.ConstraintsBuilder.Links

/-! What the update of the links has checked, and how it classifies them, when it succeeds: this is about the
whole year, but for its last hour, which they do not read.
-/

set_option autoImplicit false

namespace Antares.ConstraintsBuilder

open Library Data

namespace AreaLink

variable (link : AreaLink) (hour : Nat)

/-- The loop flow against the capacities of a series; a series that is not there sets no bound. -/
structure WithinNtc (tsIndex : Nat) : Prop where
  indirect : ∀ capacity ∈ link.indirectCapacities[tsIndex]?, -capacity hour ≤ link.loopFlow hour
  direct : ∀ capacity ∈ link.directCapacities[tsIndex]?, link.loopFlow hour ≤ capacity hour

theorem checkSeries_eq_ok_iff {tsIndex : Nat} (inside : tsIndex < link.indirectCapacities.length) :
    link.checkSeries hour tsIndex = .ok () ↔
      tsIndex < link.directCapacities.length ∧ link.WithinNtc hour tsIndex := by
  have indirect : link.indirectCapacities[tsIndex]? = some link.indirectCapacities[tsIndex] :=
    List.getElem?_eq_getElem inside
  unfold checkSeries
  rw [indirect]
  dsimp only
  rw [neg_one_mul]
  split_ifs with low
  · -- the indirect capacity is too small
    constructor
    · intro same
      cases same
    · rintro ⟨_, within⟩
      exact absurd (within.indirect _ indirect) (not_le.mpr low)
  · rcases Nat.lt_or_ge tsIndex link.directCapacities.length with there | missing
    · have direct : link.directCapacities[tsIndex]? = some link.directCapacities[tsIndex] :=
        List.getElem?_eq_getElem there
      rw [direct]
      dsimp only
      split_ifs with high
      · constructor
        · intro same
          cases same
        · rintro ⟨_, within⟩
          exact absurd (within.direct _ direct) (not_le.mpr high)
      · refine ⟨fun _ => ⟨there, ⟨?_, ?_⟩⟩, fun _ => rfl⟩
        · intro capacity found
          rw [indirect] at found
          obtain rfl := Option.some.inj found
          exact not_lt.mp low
        · intro capacity found
          rw [direct] at found
          obtain rfl := Option.some.inj found
          exact not_lt.mp high
    · rw [List.getElem?_eq_none missing]
      constructor
      · intro same
        cases same
      · rintro ⟨there, _⟩
        exact absurd there (not_lt.mpr missing)

theorem checkLinkPhaseShift_eq_ok_iff :
    link.checkLinkPhaseShift hour = .ok () ↔ link.pShiftMinus hour ≤ link.pShiftPlus hour := by
  unfold checkLinkPhaseShift
  split_ifs with wrong
  · constructor
    · intro same
      cases same
    · exact fun right => absurd right (not_le.mpr wrong)
  · exact ⟨fun _ => not_lt.mp wrong, fun _ => rfl⟩

end AreaLink

namespace CBuilder

variable (builder : CBuilder) (link : AreaLink) (hour : Nat)

structure Accepts : Prop where
  series : builder.includeLoopFlow = true → ∀ tsIndex < link.indirectCapacities.length,
    tsIndex < link.directCapacities.length ∧ link.WithinNtc hour tsIndex
  sums : builder.includeLoopFlow = true → builder.checkNodalLoopFlow = true →
    builder.nodalSum hour link.from' = 0 ∧ builder.nodalSum hour link.with' = 0
  phaseShift : builder.includePhaseShift = true → link.pShiftMinus hour ≤ link.pShiftPlus hour

theorem checkNodalSum_eq_ok_iff (area : Text) :
    builder.checkNodalSum hour area = .ok () ↔ builder.nodalSum hour area = 0 := by
  unfold checkNodalSum
  split_ifs with wrong
  · constructor
    · intro same
      cases same
    · exact fun right => absurd right wrong
  · exact ⟨fun _ => not_not.mp wrong, fun _ => rfl⟩

theorem checkValidityOfNodalLoopFlow_eq_ok_iff :
    builder.checkValidityOfNodalLoopFlow link hour = .ok () ↔
      (∀ tsIndex < link.indirectCapacities.length,
        tsIndex < link.directCapacities.length ∧ link.WithinNtc hour tsIndex) ∧
      (builder.checkNodalLoopFlow = true →
        builder.nodalSum hour link.from' = 0 ∧ builder.nodalSum hour link.with' = 0) := by
  have series : (List.range link.indirectCapacities.length).forM (link.checkSeries hour) = .ok () ↔
      ∀ tsIndex < link.indirectCapacities.length,
        tsIndex < link.directCapacities.length ∧ link.WithinNtc hour tsIndex := by
    rw [forM_eq_ok_iff]
    constructor
    · exact fun all tsIndex inside =>
        (link.checkSeries_eq_ok_iff hour inside).mp (all tsIndex (List.mem_range.mpr inside))
    · exact fun all tsIndex member =>
        (link.checkSeries_eq_ok_iff hour (List.mem_range.mp member)).mpr (all tsIndex (List.mem_range.mp member))
  unfold checkValidityOfNodalLoopFlow
  rw [seq_eq_ok_iff, checkIf_eq_ok_iff, seq_eq_ok_iff, checkNodalSum_eq_ok_iff, checkNodalSum_eq_ok_iff, series]

def checkHour : Except Failure Unit := do
  checkIf builder.includeLoopFlow (builder.checkValidityOfNodalLoopFlow link hour)
  checkIf builder.includePhaseShift (link.checkLinkPhaseShift hour)

theorem checkHour_eq_ok_iff : builder.checkHour link hour = .ok () ↔ builder.Accepts link hour := by
  unfold checkHour
  rw [seq_eq_ok_iff, checkIf_eq_ok_iff, checkIf_eq_ok_iff, checkValidityOfNodalLoopFlow_eq_ok_iff,
    AreaLink.checkLinkPhaseShift_eq_ok_iff]
  constructor
  · rintro ⟨loopFlow, phaseShift⟩
    exact ⟨fun asked => (loopFlow asked).1, fun asked => (loopFlow asked).2, phaseShift⟩
  · rintro ⟨series, sums, phaseShift⟩
    exact ⟨fun asked => ⟨series asked, sums asked⟩, phaseShift⟩

/-- What one turn keeps: the impedances found so far, and the flag of the line. -/
def keptByHour (state : Finset Rat × Bool) (hour : Nat) : Finset Rat × Bool :=
  (link.impedanceChange hour state.1,
    if builder.includePhaseShift then link.updateLinkPhaseShift hour state.2 else state.2)

theorem updateHour_eq_ok_iff (state result : Finset Rat × Bool) :
    builder.updateHour link state hour = .ok result ↔
      builder.checkHour link hour = .ok () ∧ builder.keptByHour link state hour = result := by
  unfold updateHour checkHour keptByHour
  rw [seq_eq_ok_iff, seq_eq_ok_iff, and_assoc]
  apply and_congr_right
  intro _
  cases builder.includePhaseShift with
  | false =>
    simp only [Bool.false_eq_true, false_implies, true_and, if_false, checkIf_eq_ok_iff]
    exact Except.ok.injEq _ result ▸ Iff.rfl
  | true =>
    simp only [if_true, true_implies, seq_eq_ok_iff, checkIf_eq_ok_iff]
    exact and_congr_right fun _ => Except.ok.injEq _ result ▸ Iff.rfl

theorem mem_foldl_keptByHour (hours : Nat) (start : Finset Rat × Bool) (value : Rat) :
    value ∈ ((List.range hours).foldl (builder.keptByHour link) start).1 ↔
      value ∈ start.1 ∨ ∃ hour < hours, link.impedances (hour + 1) ≠ link.impedances hour ∧
        link.impedances (hour + 1) = value := by
  induction hours with
  | zero => simp
  | succ hours ih =>
    rw [List.range_succ, List.foldl_append, List.foldl_cons, List.foldl_nil]
    dsimp only [keptByHour, AreaLink.impedanceChange]
    have turns (p : Nat → Prop) : (∃ hour < hours + 1, p hour) ↔ (∃ hour < hours, p hour) ∨ p hours :=
      Nat.exists_lt_succ_right
    rw [turns]
    split_ifs with changed
    · rw [Finset.mem_insert, ih, eq_comm, or_comm, or_assoc, and_iff_right changed]
    · rw [ih]
      simp only [changed, false_and, or_false]

theorem foldl_keptByHour_snd (hours : Nat) (start : Finset Rat × Bool) :
    ((List.range hours).foldl (builder.keptByHour link) start).2 = true ↔
      start.2 = true ∧ (builder.includePhaseShift = true → ∀ hour < hours,
        link.pShiftMinus hour = link.pShiftPlus hour) := by
  induction hours with
  | zero => simp
  | succ hours ih =>
    rw [List.range_succ, List.foldl_append, List.foldl_cons, List.foldl_nil]
    dsimp only [keptByHour, AreaLink.updateLinkPhaseShift]
    simp only [Nat.forall_lt_succ_right]
    split_ifs with asked other
    · exact ⟨fun wrong => wrong.elim, fun right => absurd (right.2 asked).2 other⟩
    · rw [ih]
      exact and_congr_right fun _ => imp_congr_right fun _ => (and_iff_left (not_not.mp other)).symm
    · rw [ih]
      exact and_congr_right fun _ => ⟨fun _ wrong => absurd wrong asked, fun _ wrong => absurd wrong asked⟩

theorem accepts_flagged : builder.Accepts (builder.flagged link) hour ↔ builder.Accepts link hour := by
  constructor
  · rintro ⟨series, sums, phaseShift⟩
    exact ⟨fun asked ts inside => ⟨(series asked ts inside).1, (series asked ts inside).2.1, (series asked ts inside).2.2⟩,
      sums, phaseShift⟩
  · rintro ⟨series, sums, phaseShift⟩
    exact ⟨fun asked ts inside => ⟨(series asked ts inside).1, (series asked ts inside).2.1, (series asked ts inside).2.2⟩,
      sums, phaseShift⟩

variable (info : LinkInfo)

def updated : LinkInfo :=
  builder.classify info
    ((List.range (hoursPerYear - 1)).foldl (builder.keptByHour (builder.flagged info.ptr)) (∅, info.hasPShiftsEqual))

theorem updateLink_eq_ok_iff (result : LinkInfo) :
    builder.updateLink info = .ok result ↔
      (List.range (hoursPerYear - 1)).forM (builder.checkHour (builder.flagged info.ptr)) = .ok () ∧
        builder.updated info = result := by
  have loop := foldlM_eq_ok_iff
    (fun state hour kept => builder.updateHour_eq_ok_iff (builder.flagged info.ptr) hour state kept)
    (List.range (hoursPerYear - 1)) (∅, info.hasPShiftsEqual)
  unfold updateLink
  rw [bind_eq_ok_iff, forM_eq_ok_iff]
  constructor
  · rintro ⟨kept, found, same⟩
    obtain ⟨passed, rfl⟩ := (loop kept).mp found
    exact ⟨passed, Except.ok.inj same⟩
  · rintro ⟨passed, rfl⟩
    exact ⟨_, (loop _).mpr ⟨passed, rfl⟩, rfl⟩

theorem updateLinks_eq_ok_iff (result : CBuilder) :
    builder.updateLinks = .ok result ↔
      (∀ info ∈ builder.pLink, ∀ hour < hoursPerYear - 1, builder.Accepts info.ptr hour) ∧
        { builder with pLink := builder.pLink.map builder.updated } = result := by
  have lines := mapM_eq_ok_iff builder.updateLink_eq_ok_iff builder.pLink
  have accepted (info : LinkInfo) :
      (List.range (hoursPerYear - 1)).forM (builder.checkHour (builder.flagged info.ptr)) = .ok () ↔
        ∀ hour < hoursPerYear - 1, builder.Accepts info.ptr hour := by
    rw [forM_eq_ok_iff]
    simp only [List.mem_range, checkHour_eq_ok_iff, accepts_flagged]
  simp only [accepted] at lines
  unfold updateLinks
  rw [bind_eq_ok_iff]
  constructor
  · rintro ⟨pLink, found, same⟩
    obtain ⟨passed, rfl⟩ := (lines pLink).mp found
    exact ⟨passed, Except.ok.inj same⟩
  · rintro ⟨passed, rfl⟩
    exact ⟨_, (lines _).mpr ⟨passed, rfl⟩, rfl⟩

theorem classify_eq (kept : Finset Rat × Bool) : builder.classify info kept =
    let next :=
      { info with
        ptr := builder.flagged info.ptr
        hasPShiftsEqual := kept.2
        nImpedanceChanges := kept.1.card
        avgImpedance := 1 }
    { next with weight := next.getWeightWithImpedance } := by
  unfold classify
  dsimp only
  rw [if_neg fun wrong => one_ne_zero wrong.2]

theorem updated_ptr : (builder.updated info).ptr = builder.flagged info.ptr := by
  unfold updated
  rw [classify_eq]

theorem updated_type : (builder.updated info).type = info.type := by
  unfold updated
  rw [classify_eq]

theorem updated_enabled : (builder.updated info).enabled = info.enabled := by
  unfold updated
  rw [classify_eq]

theorem updated_hasPShiftsEqual :
    (builder.updated info).hasPShiftsEqual = true ↔
      info.hasPShiftsEqual = true ∧ (builder.includePhaseShift = true → ∀ hour < hoursPerYear - 1,
        info.ptr.pShiftMinus hour = info.ptr.pShiftPlus hour) := by
  unfold updated
  rw [classify_eq]
  dsimp only
  rw [foldl_keptByHour_snd]
  rfl

theorem updated_nImpedanceChanges :
    (builder.updated info).nImpedanceChanges = 0 ↔
      ∀ hour < hoursPerYear, info.ptr.impedances hour = info.ptr.impedances 0 := by
  unfold updated
  rw [classify_eq]
  dsimp only
  rw [Finset.card_eq_zero, Finset.eq_empty_iff_forall_notMem]
  simp only [mem_foldl_keptByHour, Finset.notMem_empty, false_or]
  have impedances : (builder.flagged info.ptr).impedances = info.ptr.impedances := rfl
  rw [impedances]
  constructor
  · intro none hour inside
    induction hour with
    | zero => rfl
    | succ hour ih =>
      rw [← ih (by omega)]
      by_contra changed
      exact none _ ⟨hour, by omega, changed, rfl⟩
  · rintro constant value ⟨hour, inside, changed, _⟩
    exact changed ((constant (hour + 1) (by omega)).trans (constant hour (by omega)).symm)

end CBuilder

namespace CBuilder

variable (builder : CBuilder) (memory : Nat → Nat → Rat) (names : List Text) (meshIndexMatrix : List (List Nat))

/-- The cycles of `update`, from the places of their lines among those that are kept. -/
def pMesh : List (List LinkInfo) :=
  meshIndexMatrix.map fun places => places.filterMap fun place => builder.enabledACLines[place]?

/-- Every line is checked over the whole year, and a cycle has one equality for its constraint only if its
lines have the same impedances and one phase shift in every hour.
-/
structure CheckedAllYear : Prop where
  lines : ∀ info ∈ builder.pLink, ∀ hour < hoursPerYear,
    (∀ tsIndex, info.ptr.WithinNtc hour tsIndex) ∧ info.ptr.pShiftMinus hour ≤ info.ptr.pShiftPlus hour
  cycles : ∀ result, builder.createConstraints memory names (builder.pMesh meshIndexMatrix) = some result →
    ∀ (turn : Nat) (loop : List LinkInfo) (constraints : List BindingConstraint),
      (builder.pMesh meshIndexMatrix)[turn]? = some loop → result[turn]? = some constraints →
      (∃ constraint ∈ constraints, constraint.operatorType = .equality) →
      ∀ info ∈ loop, ∀ hour < hoursPerYear,
        info.ptr.impedances hour = info.ptr.impedances 0 ∧ info.ptr.pShiftMinus hour = info.ptr.pShiftPlus hour

structure QuietBeforeLastHour (info : LinkInfo) : Prop where
  flag : info.hasPShiftsEqual = true
  impedances : ∀ hour < hoursPerYear, info.ptr.impedances hour = info.ptr.impedances 0
  phaseShift : ∀ hour < hoursPerYear - 1, info.ptr.pShiftMinus hour = info.ptr.pShiftPlus hour

/-- What the checks take for granted: the last hour, and the direct series that face no indirect one. -/
structure UncheckedHold : Prop where
  lastHour : ∀ info ∈ builder.pLink, (∀ tsIndex, info.ptr.WithinNtc (hoursPerYear - 1) tsIndex) ∧
    info.ptr.pShiftMinus (hoursPerYear - 1) ≤ info.ptr.pShiftPlus (hoursPerYear - 1)
  directOnly : ∀ info ∈ builder.pLink, ∀ tsIndex ≥ info.ptr.indirectCapacities.length, ∀ hour < hoursPerYear - 1,
    info.ptr.WithinNtc hour tsIndex
  lastPhaseShift : builder.calendarStart = 1 → builder.calendarEnd = 8760 →
    ∀ loop ∈ builder.pMesh meshIndexMatrix, (∀ info ∈ loop, QuietBeforeLastHour info) →
      ∀ info ∈ loop, info.ptr.pShiftMinus (hoursPerYear - 1) = info.ptr.pShiftPlus (hoursPerYear - 1)

/-- An hour before the last is refused, or what is not checked holds. -/
def ChecksSuffice : Prop :=
  (∀ info ∈ builder.pLink, ∀ hour < hoursPerYear - 1, builder.Accepts info.ptr hour) →
    builder.UncheckedHold meshIndexMatrix

def afterUpdate : CBuilder := { builder with pLink := builder.pLink.map builder.updated }

theorem enabledACLines_afterUpdate :
    builder.afterUpdate.enabledACLines = builder.enabledACLines.map builder.updated := by
  unfold enabledACLines afterUpdate
  dsimp only
  have same : (fun info : LinkInfo => decide (info.enabled ∧ info.type = .ac)) ∘ builder.updated =
      fun info => decide (info.enabled ∧ info.type = .ac) := by
    funext info
    rw [Function.comp_apply, updated_enabled, updated_type]
  rw [List.filter_map, same]

theorem pMesh_afterUpdate :
    builder.afterUpdate.pMesh meshIndexMatrix = (builder.pMesh meshIndexMatrix).map (List.map builder.updated) := by
  unfold pMesh
  rw [enabledACLines_afterUpdate, List.map_map]
  apply List.map_congr_left
  intro places _
  rw [Function.comp_apply, List.map_filterMap]
  simp only [List.getElem?_map]

theorem type_of_mem_pMesh {loop : List LinkInfo} (listed : loop ∈ builder.pMesh meshIndexMatrix) {info : LinkInfo}
    (member : info ∈ loop) : info.type = .ac := by
  obtain ⟨places, _, rfl⟩ := List.mem_map.mp listed
  obtain ⟨place, _, found⟩ := List.mem_filterMap.mp member
  have kept := List.of_mem_filter (List.mem_of_getElem? found)
  exact (of_decide_eq_true kept).2

theorem varies_updated (phaseShift : builder.includePhaseShift = true) {info : LinkInfo} (type : info.type = .ac) :
    (builder.updated info).varies = false ↔ QuietBeforeLastHour info := by
  have flag := builder.updated_hasPShiftsEqual info
  have changes := builder.updated_nImpedanceChanges info
  have varies : (builder.updated info).varies = false ↔
      (builder.updated info).nImpedanceChanges = 0 ∧ (builder.updated info).hasPShiftsEqual = true := by
    unfold LinkInfo.varies
    rw [updated_type, type, decide_eq_true rfl, Bool.true_and, Bool.or_eq_false_iff, decide_eq_false_iff_not,
      Nat.pos_iff_ne_zero, not_not, Bool.not_eq_false']
  rw [varies, flag, changes]
  exact ⟨fun ⟨constant, before, equal⟩ => ⟨before, constant, equal phaseShift⟩,
    fun quiet => ⟨quiet.impedances, quiet.flag, fun _ => quiet.phaseShift⟩⟩

theorem operatorOf_afterUpdate (phaseShift : builder.includePhaseShift = true) {loop : List LinkInfo}
    (listed : loop ∈ builder.pMesh meshIndexMatrix) :
    operatorOf (loop.map builder.updated) = .equality ↔ ∀ info ∈ loop, QuietBeforeLastHour info := by
  unfold operatorOf
  rw [List.any_map]
  have quiet : loop.any (LinkInfo.varies ∘ builder.updated) = false ↔ ∀ info ∈ loop, QuietBeforeLastHour info := by
    rw [List.any_eq_false]
    apply forall_congr'
    intro info
    apply imp_congr_right
    intro member
    rw [Function.comp_apply, Bool.not_eq_true]
    exact builder.varies_updated phaseShift (builder.type_of_mem_pMesh meshIndexMatrix listed member)
  rw [← quiet]
  cases loop.any (LinkInfo.varies ∘ builder.updated) with
  | true => simp
  | false => simp

theorem exists_equality_iff (nCount : Nat) (loop : List LinkInfo) :
    (∃ constraint ∈ builder.constraintsOf nCount (builder.completeCycle memory loop),
      constraint.operatorType = .equality) ↔ operatorOf loop = .equality := by
  have opType : (builder.completeCycle memory loop).opType = operatorOf loop := by
    rw [completeCycle_eq]
    rfl
  unfold constraintsOf
  rw [opType]
  constructor
  · rintro ⟨_, member, operator⟩
    obtain ⟨state, _, rfl⟩ := List.mem_map.mp member
    by_contra other
    have both : operatorOf loop = .both := by
      unfold operatorOf at other ⊢
      split_ifs at other ⊢
      · rfl
      · exact absurd rfl other
    dsimp only at operator
    rw [if_pos both] at operator
    cases operator
  · intro equality
    have collects := builder.collects_states memory loop (operatorOf loop) (List.range hoursPerYear)
    have first := collects.found 0 (List.mem_range.mpr (by unfold hoursPerYear; omega))
    obtain ⟨state, member, _⟩ := List.mem_map.mp first
    have listed : state ∈ (builder.completeCycle memory loop).states := by
      rw [completeCycle_eq]
      dsimp only
      exact member
    obtain ⟨place, there⟩ := List.mem_iff_getElem?.mp listed
    have numbered : (state, place) ∈ (builder.completeCycle memory loop).states.zipIdx :=
      List.mk_mem_zipIdx_iff_getElem?.mpr there
    refine ⟨_, List.mem_map.mpr ⟨_, numbered, rfl⟩, ?_⟩
    dsimp only
    rw [equality, if_neg (by decide)]
    rfl

theorem checkedAllYear_afterUpdate (loopFlow : builder.includeLoopFlow = true)
    (phaseShift : builder.includePhaseShift = true)
    (accepted : ∀ info ∈ builder.pLink, ∀ hour < hoursPerYear - 1, builder.Accepts info.ptr hour)
    (rest : builder.UncheckedHold meshIndexMatrix) :
    builder.afterUpdate.CheckedAllYear memory names meshIndexMatrix where
  lines updatedInfo member hour inside := by
    obtain ⟨info, listed, rfl⟩ := List.mem_map.mp member
    rw [updated_ptr]
    obtain ⟨lastNtc, lastShift⟩ := rest.lastHour info listed
    rcases Nat.lt_or_ge hour (hoursPerYear - 1) with before | last
    · refine ⟨fun tsIndex => ?_, (accepted info listed hour before).phaseShift phaseShift⟩
      rcases Nat.lt_or_ge tsIndex info.ptr.indirectCapacities.length with there | beyond
      · obtain ⟨_, within⟩ := (accepted info listed hour before).series loopFlow tsIndex there
        exact ⟨within.indirect, within.direct⟩
      · have within := rest.directOnly info listed tsIndex beyond hour before
        exact ⟨within.indirect, within.direct⟩
    · obtain rfl : hour = hoursPerYear - 1 := by omega
      exact ⟨fun tsIndex => ⟨(lastNtc tsIndex).indirect, (lastNtc tsIndex).direct⟩, lastShift⟩
  cycles result created turn loop constraints listed found equality := by
    obtain ⟨open', nCount, same⟩ := getElem?_of_createConstraints _ memory created listed
    rw [Option.some.inj (found.symm.trans same)] at equality
    have days : builder.calendarStart = 1 ∧ builder.calendarEnd = 8760 := of_decide_eq_true open'
    have member := List.mem_of_getElem? listed
    rw [pMesh_afterUpdate] at member
    obtain ⟨lines, own, rfl⟩ := List.mem_map.mp member
    have quiet := (builder.operatorOf_afterUpdate meshIndexMatrix phaseShift own).mp
      ((exists_equality_iff _ memory nCount _).mp equality)
    intro updatedInfo among hour inside
    obtain ⟨info, there, rfl⟩ := List.mem_map.mp among
    rw [updated_ptr]
    refine ⟨(quiet info there).impedances hour inside, ?_⟩
    rcases Nat.lt_or_ge hour (hoursPerYear - 1) with before | last
    · exact (quiet info there).phaseShift hour before
    · obtain rfl : hour = hoursPerYear - 1 := by omega
      exact rest.lastPhaseShift days.1 days.2 lines own quiet info there

theorem uncheckedHold_of_checkedAllYear (phaseShift : builder.includePhaseShift = true)
    (checked : builder.afterUpdate.CheckedAllYear memory names meshIndexMatrix) :
    builder.UncheckedHold meshIndexMatrix where
  lastHour info listed := by
    have line := checked.lines _ (List.mem_map.mpr ⟨info, listed, rfl⟩) (hoursPerYear - 1)
      (by unfold hoursPerYear; omega)
    rw [updated_ptr] at line
    exact ⟨fun tsIndex => ⟨(line.1 tsIndex).indirect, (line.1 tsIndex).direct⟩, line.2⟩
  directOnly info listed tsIndex _ hour before := by
    have line := checked.lines _ (List.mem_map.mpr ⟨info, listed, rfl⟩) hour (by omega)
    rw [updated_ptr] at line
    exact ⟨(line.1 tsIndex).indirect, (line.1 tsIndex).direct⟩
  lastPhaseShift start finish loop own quiet info there := by
    have member : loop.map builder.updated ∈ builder.afterUpdate.pMesh meshIndexMatrix := by
      rw [pMesh_afterUpdate]
      exact List.mem_map.mpr ⟨loop, own, rfl⟩
    obtain ⟨turn, listed⟩ := List.mem_iff_getElem?.mp member
    obtain ⟨result, created⟩ : ∃ result, builder.afterUpdate.createConstraints memory names
        (builder.afterUpdate.pMesh meshIndexMatrix) = some result :=
      ⟨_, if_neg fun wrong => wrong.2.elim (fun other => other finish) fun other => other start⟩
    obtain ⟨_, nCount, found⟩ := getElem?_of_createConstraints _ memory created listed
    have equality := (exists_equality_iff builder.afterUpdate memory nCount _).mpr
      ((builder.operatorOf_afterUpdate meshIndexMatrix phaseShift own).mpr quiet)
    have line := checked.cycles result created turn _ _ listed found equality _
      (List.mem_map.mpr ⟨info, there, rfl⟩) (hoursPerYear - 1) (by unfold hoursPerYear; omega)
    rw [updated_ptr] at line
    exact line.2

/-- An update that succeeds has checked the whole year exactly when what it does not read is right: the last
hour, and the direct capacities of series that have no indirect ones.
-/
theorem updateLinks_checksAllYear_iff (loopFlow : builder.includeLoopFlow = true)
    (phaseShift : builder.includePhaseShift = true) :
    (∀ next, builder.updateLinks = .ok next → next.CheckedAllYear memory names meshIndexMatrix) ↔
      builder.ChecksSuffice meshIndexMatrix := by
  constructor
  · intro checked accepted
    have succeeds := (builder.updateLinks_eq_ok_iff builder.afterUpdate).mpr ⟨accepted, rfl⟩
    exact builder.uncheckedHold_of_checkedAllYear memory names meshIndexMatrix phaseShift (checked _ succeeds)
  · intro suffice next succeeds
    obtain ⟨accepted, rfl⟩ := (builder.updateLinks_eq_ok_iff next).mp succeeds
    exact builder.checkedAllYear_afterUpdate memory names meshIndexMatrix loopFlow phaseShift accepted
      (suffice accepted)

end CBuilder

variable (loopFlow : Rat)

/-- A line between two areas, with capacities of one, and a loop flow in the last hour only. -/
def lastHourLine : LinkInfo where
  ptr :=
    { from' := ['a']
      with' := ['b']
      impedances := fun _ => 1
      loopFlow := fun hour => if hour = 8759 then loopFlow else 0
      pShiftMinus := fun _ => 0
      pShiftPlus := fun _ => 0
      directCapacities := [fun _ => 1]
      indirectCapacities := [fun _ => 1]
      useLoopFlow := false
      usePST := false }
  type := .ac
  enabled := true
  hasPShiftsEqual := true
  nImpedanceChanges := 0
  avgImpedance := 0
  weight := 0

def lastHourBuilder : CBuilder where
  pLink := [lastHourLine loopFlow]
  pPrefix := "@UTO_".toList
  areaToLinks := fun _ => [lastHourLine loopFlow]
  includeLoopFlow := true
  includePhaseShift := true
  checkNodalLoopFlow := true
  infiniteSecondMember := 1000000
  calendarStart := 1
  calendarEnd := 8760

theorem accepts_lastHourBuilder {hour : Nat} (before : hour < hoursPerYear - 1) :
    (lastHourBuilder loopFlow).Accepts (lastHourLine loopFlow).ptr hour := by
  have other : hour ≠ 8759 := by
    unfold hoursPerYear at before
    omega
  have none : (lastHourLine loopFlow).ptr.loopFlow hour = 0 := if_neg other
  have sum (area : Text) : (lastHourBuilder loopFlow).nodalSum hour area = 0 := by
    unfold CBuilder.nodalSum AreaLink.loopFlowInto lastHourBuilder
    rw [List.map_singleton, List.sum_singleton, none, mul_zero, ite_self]
  refine ⟨fun _ tsIndex inside => ?_, fun _ _ => ⟨sum _, sum _⟩, fun _ => le_rfl⟩
  obtain rfl : tsIndex = 0 := Nat.lt_one_iff.mp inside
  refine ⟨Nat.one_pos, ⟨?_, ?_⟩⟩
  · rintro capacity found
    obtain rfl := Option.some.inj found
    rw [none]
    exact neg_nonpos.mpr zero_le_one
  · rintro capacity found
    obtain rfl := Option.some.inj found
    rw [none]
    exact zero_le_one

theorem checksSuffice_lastHourBuilder : (lastHourBuilder 0).ChecksSuffice [] := by
  intro _
  have none (hour : Nat) : (lastHourLine 0).ptr.loopFlow hour = 0 := ite_self 0
  have within (hour tsIndex : Nat) : (lastHourLine 0).ptr.WithinNtc hour tsIndex := by
    constructor
    · intro capacity found
      obtain rfl := List.mem_singleton.mp (List.mem_of_getElem? found)
      rw [none]
      exact neg_nonpos.mpr zero_le_one
    · intro capacity found
      obtain rfl := List.mem_singleton.mp (List.mem_of_getElem? found)
      rw [none]
      exact zero_le_one
  constructor
  · intro info member
    obtain rfl := List.mem_singleton.mp member
    exact ⟨within _, le_rfl⟩
  · intro info member tsIndex _ hour _
    obtain rfl := List.mem_singleton.mp member
    exact within hour tsIndex
  · intro _ _ loop member
    exact absurd member List.not_mem_nil

theorem updateLinks_checksAllYear_quiet : ∃ next, (lastHourBuilder 0).updateLinks = .ok next ∧
    next.CheckedAllYear (fun _ _ => 0) [] [] := by
  have accepted : (lastHourBuilder 0).updateLinks = .ok (lastHourBuilder 0).afterUpdate := by
    apply ((lastHourBuilder 0).updateLinks_eq_ok_iff _).mpr ⟨?_, rfl⟩
    intro info member hour before
    obtain rfl := List.mem_singleton.mp member
    exact accepts_lastHourBuilder 0 before
  exact ⟨_, accepted, ((lastHourBuilder 0).updateLinks_checksAllYear_iff (fun _ _ => 0) [] [] rfl rfl).mpr
    checksSuffice_lastHourBuilder _ accepted⟩

/-- A loop flow of two in the last hour passes the update, against capacities of one. -/
theorem updateLinks_passes_lastHour : ∃ next, (lastHourBuilder 2).updateLinks = .ok next ∧
    ¬next.CheckedAllYear (fun _ _ => 0) [] [] := by
  refine ⟨_, ((lastHourBuilder 2).updateLinks_eq_ok_iff _).mpr ⟨?_, rfl⟩, ?_⟩
  · intro info member hour before
    obtain rfl := List.mem_singleton.mp member
    exact accepts_lastHourBuilder 2 before
  · intro checked
    have line := checked.lines _ List.mem_cons_self 8759 (by unfold hoursPerYear; omega)
    rw [CBuilder.updated_ptr] at line
    have within := (line.1 0).direct _ rfl
    exact absurd within (by decide +kernel)

end Antares.ConstraintsBuilder
