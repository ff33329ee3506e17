import Antares.AdequacyPatch.CsrAdmitsLmr
import Antares.Data.Parameters
import Antares.Library.InPlace
import Antares.Library.Numbering

/-! The costs of the curtailment-sharing problem of one hour, and the cost that its solution is kept or
discarded by.
-/

set_option autoImplicit false

namespace Antares.AdequacyPatch

open Library

structure CsrHour where
  valeursHorairesDENS : Nat → Rat
  consommationAbattueDuPays : Nat → Rat
  allMustRunGenerationOfArea : Nat → Rat
  intercoGereeAvecDesCouts : Nat → Bool
  coutDeTransportOrigineVersExtremite : Nat → Rat
  coutDeTransportExtremiteVersOrigine : Nat → Rat
  hurdleCostCoefficients : Nat → Rat

/-- The numbers of the two parts of a flow; -1 where there is none. -/
structure LinkVariable where
  directVar : Int
  indirectVar : Int

def LinkVariable.check (link : LinkVariable) : Bool := 0 ≤ link.directVar && 0 ≤ link.indirectVar

section
variable (study : CsrStudy) (params : Data.CurtailmentSharing) (hour : CsrHour)

def calculateQuadraticCost (area : Nat) : Rat :=
  let priceTakingOrders :=
    match params.priceTakingOrder with
    | .isLoad => hour.consommationAbattueDuPays area + hour.allMustRunGenerationOfArea area
    | .isDens => hour.valeursHorairesDENS area
  if priceTakingOrders ≤ 0 then 0 else 1 / priceTakingOrders

variable (costs : Nat → Rat) (variable_ : CsrVariable)

def assign (cost : Rat) : Nat → Rat :=
  match numeroDeVariable study variable_ with
  | some numero => Function.update costs numero cost
  | none => costs

def setQuadraticCost (coutQuadratique : Nat → Rat) : Nat → Rat :=
  (List.range study.network.nombreDePays).foldl
    (fun costs area =>
      if study.data.inside area then assign study costs (.ens area) (calculateQuadraticCost params hour area) else costs)
    coutQuadratique

variable (interco : Nat)

def transportDirect : Rat :=
  if hour.intercoGereeAvecDesCouts interco then
    hour.coutDeTransportOrigineVersExtremite interco * hour.hurdleCostCoefficients interco
  else 0

def transportIndirect : Rat :=
  if hour.intercoGereeAvecDesCouts interco then
    hour.coutDeTransportExtremiteVersOrigine interco * hour.hurdleCostCoefficients interco
  else 0

def setLinearCostOfLink : Nat → Rat :=
  assign study
    (assign study (assign study costs (.flow interco) 0) (.flowDirect interco) (transportDirect hour interco))
    (.flowIndirect interco) (transportIndirect hour interco)

def setLinearCost (coutLineaire : Nat → Rat) : Nat → Rat :=
  (List.range study.network.nombreDInterconnexions).foldl
    (fun costs interco => if study.data.linkInside interco then setLinearCostOfLink study hour costs interco else costs)
    coutLineaire

/-- The costs of the variables, by number: `CoutLineaire` and `CoutQuadratique`. -/
structure CsrCosts where
  coutLineaire : Nat → Rat
  coutQuadratique : Nat → Rat

def setProblemCost : CsrCosts where
  coutLineaire := if params.includeHurdleCost then setLinearCost study hour (fun _ => 0) else fun _ => 0
  coutQuadratique := setQuadraticCost study params hour fun _ => 0

def ensVariablesInsideAdqPatch (numero : Nat) : Bool :=
  match (buildProblemVariables study)[numero]? with
  | some (.ens _) => true
  | _ => false

def numeroOuMoinsUn : Int :=
  match numeroDeVariable study variable_ with
  | some numero => numero
  | none => -1

def linkInsideAdqPatch (numero : Nat) : Option LinkVariable :=
  match (buildProblemVariables study)[numero]? with
  | some (.flow interco) =>
    some
      { directVar := numeroOuMoinsUn study (.flowDirect interco)
        indirectVar := numeroOuMoinsUn study (.flowIndirect interco) }
  | _ => none

variable (costs : CsrCosts) (x : Nat → Rat)

def addCSRcost (cost : Rat) (i : Nat) : Rat :=
  let cost := if ensVariablesInsideAdqPatch study i then cost + x i * x i * costs.coutQuadratique i else cost
  match linkInsideAdqPatch study i with
  | none => cost
  | some link =>
    -- The hurdle costs are left out where they are included in the problem.
    if params.includeHurdleCost || !link.check then cost
    else if 0 ≤ x i then
      if link.directVar < 0 then cost else cost + x i * costs.coutLineaire link.directVar.toNat
    else if link.indirectVar < 0 then cost
    else cost - x i * costs.coutLineaire link.indirectVar.toNat

def calculateCSRcost : Rat :=
  if params.checkCsrCostFunction then
    (List.range (buildProblemVariables study).length).foldl (addCSRcost study params costs x) 0
  else 0

def csrObjective : Rat :=
  ((List.range (buildProblemVariables study).length).map fun i =>
    costs.coutQuadratique i * (x i * x i) + costs.coutLineaire i * x i).sum

def valueOf (variable_ : CsrVariable) : Rat :=
  match numeroDeVariable study variable_ with
  | some numero => x numero
  | none => 0

def splitFlows (numero : Nat) : Rat :=
  match (buildProblemVariables study)[numero]? with
  | some (.flowDirect interco) => max (valueOf study x (.flow interco)) 0
  | some (.flowIndirect interco) => max (-valueOf study x (.flow interco)) 0
  | _ => x numero

/-- The energy not served of the areas inside the patch, at its cost. -/
def ensCost : Rat :=
  (((List.range study.network.nombreDePays).filter study.data.inside).map fun area =>
    calculateQuadraticCost params hour area * (valueOf study x (.ens area) * valueOf study x (.ens area))).sum

def hurdleCost : Rat :=
  (((List.range study.network.nombreDInterconnexions).filter study.data.linkInside).map fun interco =>
    transportDirect hour interco * max (valueOf study x (.flow interco)) 0 +
      transportIndirect hour interco * max (-valueOf study x (.flow interco)) 0).sum

end

section
variable (study : CsrStudy)

theorem nodup_constructVariableFlows : (constructVariableFlows study).Nodup := by
  refine nodup_flatMap_of_owner (fun variable_ interco =>
      variable_ = .flow interco ∨ variable_ = .flowDirect interco ∨ variable_ = .flowIndirect interco) ?_ ?_ ?_ ?_
  · rintro variable_ left right (rfl | rfl | rfl) (same | same | same) <;> simp_all
  · intro interco _ variable_ member
    simpa using member
  · exact List.nodup_range.filter _
  · intro interco _
    simp

theorem nodup_buildProblemVariables : (buildProblemVariables study).Nodup := by
  have areas : ((List.range study.network.nombreDePays).filter study.data.inside).Nodup := List.nodup_range.filter _
  unfold buildProblemVariables constructVariableENS constructVariableSpilledEnergy
  refine List.Nodup.append (List.Nodup.append ?_ ?_ ?_) (nodup_constructVariableFlows study) ?_
  · exact areas.map fun first second same => CsrVariable.ens.inj same
  · exact areas.map fun first second same => CsrVariable.spilledEnergy.inj same
  · intro variable_ first second
    simp only [List.mem_map] at first second
    obtain ⟨_, -, rfl⟩ := first
    obtain ⟨_, -, same⟩ := second
    cases same
  · intro variable_ first second
    simp only [constructVariableFlows, List.mem_append, List.mem_map, List.mem_flatMap, List.mem_cons, List.not_mem_nil,
      or_false] at first second
    rcases first with ⟨_, -, rfl⟩ | ⟨_, -, rfl⟩ <;> obtain ⟨_, -, same | same | same⟩ := second <;> cases same

variable {study}

variable {variable_ : CsrVariable}

theorem numeroDeVariable_of_getElem? {numero : Nat}
    (stands : (buildProblemVariables study)[numero]? = some variable_) : numeroDeVariable study variable_ = some numero := by
  obtain ⟨bound, same⟩ := List.getElem?_eq_some_iff.mp stands
  unfold numeroDeVariable
  refine List.idxOf?_eq_some_iff.mpr ⟨bound, same, fun before less again => ?_⟩
  have places := ((nodup_buildProblemVariables study).getElem_inj_iff).mp (again.trans same.symm)
  exact absurd places less.ne

theorem assign_apply {other : CsrVariable} {numero : Nat} (stands : (buildProblemVariables study)[numero]? = some other)
    (costs : Nat → Rat) (variable_ : CsrVariable) (cost : Rat) :
    assign study costs variable_ cost numero = if variable_ = other then cost else costs numero := by
  unfold assign
  by_cases same : variable_ = other
  · subst same
    rw [numeroDeVariable_of_getElem? stands, if_pos rfl]
    exact Function.update_self _ _ _
  · rw [if_neg same]
    cases numbered : numeroDeVariable study variable_ with
    | none => rfl
    | some place =>
      refine Function.update_of_ne ?_ _ _
      rintro rfl
      exact same (Option.some.inj ((getElem?_numeroDeVariable study numbered).symm.trans stands))

theorem of_ens_mem {area : Nat} (member : .ens area ∈ buildProblemVariables study) :
    area < study.network.nombreDePays ∧ study.data.inside area = true := by
  simpa [buildProblemVariables, constructVariableENS, constructVariableSpilledEnergy, constructVariableFlows] using member

theorem of_flow_mem {interco : Nat} {variable_ : CsrVariable} (member : variable_ ∈ buildProblemVariables study)
    (ofLink : variable_ = .flow interco ∨ variable_ = .flowDirect interco ∨ variable_ = .flowIndirect interco) :
    interco < study.network.nombreDInterconnexions ∧ study.data.linkInside interco = true := by
  rcases ofLink with rfl | rfl | rfl <;>
    simpa [buildProblemVariables, constructVariableENS, constructVariableSpilledEnergy, constructVariableFlows] using member

variable (params : Data.CurtailmentSharing) (hour : CsrHour)

def quadraticCostOf : CsrVariable → Rat
  | .ens area => calculateQuadraticCost params hour area
  | _ => 0

/-- The linear cost of each variable, where hurdle costs are included. -/
def linearCostOf : CsrVariable → Rat
  | .flowDirect interco => transportDirect hour interco
  | .flowIndirect interco => transportIndirect hour interco
  | _ => 0

theorem setQuadraticCost_apply {variable_ : CsrVariable} {numero : Nat}
    (stands : (buildProblemVariables study)[numero]? = some variable_) :
    setQuadraticCost study params hour (fun _ => 0) numero = quadraticCostOf params hour variable_ := by
  have elsewhere (area : Nat) (other : CsrVariable.ens area ≠ variable_) (costs : Nat → Rat) :
      (if study.data.inside area then assign study costs (.ens area) (calculateQuadraticCost params hour area) else costs)
        numero = costs numero := by
    split_ifs
    · rw [assign_apply stands, if_neg other]
    · rfl
  unfold setQuadraticCost
  cases variable_ with
  | ens area =>
    obtain ⟨bound, inside⟩ := of_ens_mem (List.mem_of_getElem? stands)
    refine foldl_apply_of_sets area (fun costs => ?_) (fun other _ different => elsewhere other ?_)
      (List.mem_range.mpr bound) _
    · rw [if_pos inside, assign_apply stands, if_pos rfl]
      rfl
    · exact fun same => different (CsrVariable.ens.inj same)
  | spilledEnergy area => exact foldl_apply_of_skips (fun other _ => elsewhere other CsrVariable.noConfusion) _
  | flow interco => exact foldl_apply_of_skips (fun other _ => elsewhere other CsrVariable.noConfusion) _
  | flowDirect interco => exact foldl_apply_of_skips (fun other _ => elsewhere other CsrVariable.noConfusion) _
  | flowIndirect interco => exact foldl_apply_of_skips (fun other _ => elsewhere other CsrVariable.noConfusion) _

theorem setLinearCostOfLink_apply {variable_ : CsrVariable} {numero : Nat}
    (stands : (buildProblemVariables study)[numero]? = some variable_) (costs : Nat → Rat) (interco : Nat) :
    setLinearCostOfLink study hour costs interco numero =
      if variable_ = .flow interco ∨ variable_ = .flowDirect interco ∨ variable_ = .flowIndirect interco then
        linearCostOf hour variable_
      else costs numero := by
  unfold setLinearCostOfLink
  rw [assign_apply stands, assign_apply stands, assign_apply stands]
  cases variable_ with
  | ens area => rfl
  | spilledEnergy area => rfl
  | flow other => simp [linearCostOf, eq_comm]
  | flowDirect other =>
    by_cases same : interco = other
    · simp [linearCostOf, same]
    · simp [same, Ne.symm same]
  | flowIndirect other =>
    by_cases same : interco = other
    · simp [linearCostOf, same]
    · simp [same, Ne.symm same]

theorem setLinearCost_apply {variable_ : CsrVariable} {numero : Nat}
    (stands : (buildProblemVariables study)[numero]? = some variable_) :
    setLinearCost study hour (fun _ => 0) numero = linearCostOf hour variable_ := by
  have member := List.mem_of_getElem? stands
  unfold setLinearCost
  by_cases ofLink : ∃ interco, variable_ = .flow interco ∨ variable_ = .flowDirect interco ∨ variable_ = .flowIndirect interco
  · obtain ⟨interco, ofLink⟩ := ofLink
    obtain ⟨bound, inside⟩ := of_flow_mem member ofLink
    refine foldl_apply_of_sets interco (fun costs => ?_) (fun other _ different costs => ?_) (List.mem_range.mpr bound) _
    · rw [if_pos inside, setLinearCostOfLink_apply hour stands, if_pos ofLink]
    · split_ifs
      · rw [setLinearCostOfLink_apply hour stands, if_neg]
        rcases ofLink with rfl | rfl | rfl <;> simp [Ne.symm different]
      · rfl
  · have none : linearCostOf hour variable_ = 0 := by
      cases variable_ with
      | flowDirect interco => exact absurd ⟨interco, Or.inr (Or.inl rfl)⟩ ofLink
      | flowIndirect interco => exact absurd ⟨interco, Or.inr (Or.inr rfl)⟩ ofLink
      | ens area => rfl
      | spilledEnergy area => rfl
      | flow interco => rfl
    rw [none]
    refine foldl_apply_of_skips (fun interco _ costs => ?_) _
    split_ifs
    · rw [setLinearCostOfLink_apply hour stands, if_neg fun found => ofLink ⟨interco, found⟩]
    · rfl

theorem valueOf_of_getElem? {numero : Nat} (x : Nat → Rat)
    (stands : (buildProblemVariables study)[numero]? = some variable_) : valueOf study x variable_ = x numero := by
  unfold valueOf
  rw [numeroDeVariable_of_getElem? stands]

theorem sum_range_eq {value : Nat → Rat} {ofVariable : CsrVariable → Rat}
    (same : ∀ numero variable_, (buildProblemVariables study)[numero]? = some variable_ → value numero = ofVariable variable_) :
    ((List.range (buildProblemVariables study).length).map value).sum =
      ((buildProblemVariables study).map ofVariable).sum := by
  congr 1
  refine List.ext_getElem (by simp) fun numero bound bound' => ?_
  rw [List.length_map] at bound'
  rw [List.getElem_map, List.getElem_map, List.getElem_range]
  exact same numero _ (List.getElem?_eq_getElem bound')

theorem sum_buildProblemVariables (ofVariable : CsrVariable → Rat) :
    ((buildProblemVariables study).map ofVariable).sum =
      (((List.range study.network.nombreDePays).filter study.data.inside).map fun area =>
          ofVariable (.ens area)).sum +
        (((List.range study.network.nombreDePays).filter study.data.inside).map fun area =>
          ofVariable (.spilledEnergy area)).sum +
        (((List.range study.network.nombreDInterconnexions).filter study.data.linkInside).map fun interco =>
          ofVariable (.flow interco) + ofVariable (.flowDirect interco) + ofVariable (.flowIndirect interco)).sum := by
  unfold buildProblemVariables constructVariableENS constructVariableSpilledEnergy constructVariableFlows
  rw [List.map_append, List.map_append, List.sum_append, List.sum_append, List.map_map, List.map_map, List.map_flatMap,
    List.flatMap_def, List.sum_flatten, List.map_map]
  congr 2
  refine List.map_congr_left fun interco _ => ?_
  simp [add_assoc]

variable (x : Nat → Rat)

def splitValue : CsrVariable → Rat
  | .flowDirect interco => max (valueOf study x (.flow interco)) 0
  | .flowIndirect interco => max (-valueOf study x (.flow interco)) 0
  | variable_ => valueOf study x variable_

theorem splitFlows_of_getElem? {variable_ : CsrVariable} {numero : Nat}
    (stands : (buildProblemVariables study)[numero]? = some variable_) :
    splitFlows study x numero = @splitValue study x variable_ := by
  unfold splitFlows
  rw [stands]
  cases variable_ with
  | ens area => exact (valueOf_of_getElem? x stands).symm
  | spilledEnergy area => exact (valueOf_of_getElem? x stands).symm
  | flow interco => exact (valueOf_of_getElem? x stands).symm
  | flowDirect interco => rfl
  | flowIndirect interco => rfl

theorem coutLineaire_apply {variable_ : CsrVariable} {numero : Nat}
    (stands : (buildProblemVariables study)[numero]? = some variable_) :
    (setProblemCost study params hour).coutLineaire numero =
      if params.includeHurdleCost then linearCostOf hour variable_ else 0 := by
  unfold setProblemCost
  dsimp only
  split_ifs
  · exact setLinearCost_apply hour stands
  · rfl

theorem csrObjective_splitFlows :
    csrObjective study (setProblemCost study params hour) (splitFlows study x) =
      ensCost study params hour x + if params.includeHurdleCost then hurdleCost study hour x else 0 := by
  unfold csrObjective
  have ofVariable := @sum_range_eq study
    (fun i => (setProblemCost study params hour).coutQuadratique i * (splitFlows study x i * splitFlows study x i) +
      (setProblemCost study params hour).coutLineaire i * splitFlows study x i)
    (fun variable_ => quadraticCostOf params hour variable_ * (@splitValue study x variable_ * @splitValue study x variable_) +
      (if params.includeHurdleCost then linearCostOf hour variable_ else 0) * @splitValue study x variable_)
    (by
      intro numero variable_ stands
      rw [splitFlows_of_getElem? x stands, coutLineaire_apply params hour stands]
      rw [show (setProblemCost study params hour).coutQuadratique numero = quadraticCostOf params hour variable_ from
        setQuadraticCost_apply params hour stands])
  rw [ofVariable, sum_buildProblemVariables]
  have spilled : ((List.range study.network.nombreDePays).filter study.data.inside).map (fun area =>
      quadraticCostOf params hour (.spilledEnergy area) *
        (@splitValue study x (.spilledEnergy area) * @splitValue study x (.spilledEnergy area)) +
      (if params.includeHurdleCost then linearCostOf hour (.spilledEnergy area) else 0) *
        @splitValue study x (.spilledEnergy area)) =
      ((List.range study.network.nombreDePays).filter study.data.inside).map fun _ => 0 := by
    refine List.map_congr_left fun area _ => ?_
    simp [quadraticCostOf, linearCostOf]
  rw [spilled]
  cases included : params.includeHurdleCost with
  | true => simp [ensCost, hurdleCost, quadraticCostOf, linearCostOf, splitValue]
  | false => simp [ensCost, quadraticCostOf, splitValue]

theorem addCSRcost_eq {variable_ : CsrVariable} {numero : Nat}
    (stands : (buildProblemVariables study)[numero]? = some variable_) (cost : Rat) :
    addCSRcost study params (setProblemCost study params hour) x cost numero =
      cost + quadraticCostOf params hour variable_ * (valueOf study x variable_ * valueOf study x variable_) := by
  have quadratic : (setProblemCost study params hour).coutQuadratique numero = quadraticCostOf params hour variable_ :=
    setQuadraticCost_apply params hour stands
  unfold addCSRcost ensVariablesInsideAdqPatch linkInsideAdqPatch
  rw [stands, valueOf_of_getElem? x stands, quadratic]
  cases variable_ with
  | ens area =>
    dsimp only
    rw [if_pos rfl, mul_comm (quadraticCostOf _ _ _)]
  | spilledEnergy area => simp [quadraticCostOf]
  | flowDirect interco => simp [quadraticCostOf]
  | flowIndirect interco => simp [quadraticCostOf]
  | flow interco =>
    dsimp only [quadraticCostOf]
    rw [if_neg Bool.false_ne_true, zero_mul, add_zero]
    have linear (place : Nat) (excluded : params.includeHurdleCost = false) :
        (setProblemCost study params hour).coutLineaire place = 0 := by
      unfold setProblemCost
      dsimp only
      rw [excluded, if_neg Bool.false_ne_true]
    split_ifs with left positive noDirect noIndirect
    · rfl
    · rfl
    · rw [linear _ (by simp_all), mul_zero, add_zero]
    · rfl
    · rw [linear _ (by simp_all), mul_zero, sub_zero]

theorem calculateCSRcost_eq :
    calculateCSRcost study params (setProblemCost study params hour) x =
      if params.checkCsrCostFunction then ensCost study params hour x else 0 := by
  unfold calculateCSRcost
  split_ifs
  · have turns : (List.range (buildProblemVariables study).length).foldl (addCSRcost study params (setProblemCost study params hour) x) 0 =
        (List.range (buildProblemVariables study).length).foldl (fun cost i => cost +
          (match (buildProblemVariables study)[i]? with
          | some variable_ => quadraticCostOf params hour variable_ * (valueOf study x variable_ * valueOf study x variable_)
          | none => 0)) 0 := by
      refine List.foldl_ext _ _ _ fun cost i member => ?_
      have stands := List.getElem?_eq_getElem (List.mem_range.mp member)
      rw [addCSRcost_eq params hour x stands, stands]
    rw [turns, foldl_add_eq, zero_add, sum_range_eq (fun numero variable_ stands => by rw [stands]),
      sum_buildProblemVariables]
    simp [ensCost, quadraticCostOf]
  · rfl

/-- The cost that is checked is the objective exactly when no hurdle cost is in it. A cost that is not
checked is zero.
-/
theorem calculateCSRcost_eq_objective_iff :
    calculateCSRcost study params (setProblemCost study params hour) x =
        csrObjective study (setProblemCost study params hour) (splitFlows study x) ↔
      (params.checkCsrCostFunction = true → params.includeHurdleCost = true → hurdleCost study hour x = 0) ∧
        (params.checkCsrCostFunction = false →
          ensCost study params hour x + (if params.includeHurdleCost then hurdleCost study hour x else 0) = 0) := by
  rw [calculateCSRcost_eq, csrObjective_splitFlows]
  cases params.checkCsrCostFunction with
  | true =>
    cases params.includeHurdleCost with
    | true => simp
    | false => simp
  | false =>
    rw [if_neg Bool.false_ne_true, eq_comm]
    simp only [Bool.false_eq_true, false_implies, true_and, forall_const]

end

/-! A flow of 10 over a link between two areas inside the patch, at a cost of 2. -/

def oneLinkHour : CsrHour where
  valeursHorairesDENS := fun _ => 5
  consommationAbattueDuPays := fun _ => 0
  allMustRunGenerationOfArea := fun _ => 0
  intercoGereeAvecDesCouts := fun _ => true
  coutDeTransportOrigineVersExtremite := fun _ => 2
  coutDeTransportExtremiteVersOrigine := fun _ => 3
  hurdleCostCoefficients := fun _ => 1

def hurdleParams : Data.CurtailmentSharing where
  priceTakingOrder := .isDens
  thresholdRun := 0
  thresholdDisplayViolations := 0
  thresholdVarBoundsRelaxation := 3
  includeHurdleCost := true
  checkCsrCostFunction := true

/-- The hurdle cost of 20 is in the objective, and not in the cost that is checked. -/
theorem hurdleCost_not_checked :
    calculateCSRcost nextHourStudy hurdleParams (setProblemCost nextHourStudy hurdleParams oneLinkHour) (fun _ => 10) +
        20 =
      csrObjective nextHourStudy (setProblemCost nextHourStudy hurdleParams oneLinkHour)
        (splitFlows nextHourStudy fun _ => 10) ∧
    calculateCSRcost nextHourStudy hurdleParams (setProblemCost nextHourStudy hurdleParams oneLinkHour) (fun _ => 10) ≠
      csrObjective nextHourStudy (setProblemCost nextHourStudy hurdleParams oneLinkHour)
        (splitFlows nextHourStudy fun _ => 10) := by
  have links : (List.range nextHourStudy.network.nombreDInterconnexions).filter nextHourStudy.data.linkInside = [0] := by decide
  have flow : valueOf nextHourStudy (fun _ => 10) (.flow 0) = 10 := rfl
  have hurdle : hurdleCost nextHourStudy oneLinkHour (fun _ => 10) = 20 := by
    unfold hurdleCost
    rw [links]
    norm_num [flow, transportDirect, transportIndirect, oneLinkHour]
  rw [calculateCSRcost_eq, csrObjective_splitFlows, hurdle]
  constructor
  · rfl
  · intro same
    exact absurd (left_eq_add.mp same) (by norm_num [hurdleParams])

end Antares.AdequacyPatch
