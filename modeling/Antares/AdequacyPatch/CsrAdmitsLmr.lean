import Antares.AdequacyPatch.RuntimeData
import Mathlib.Tactic.Ring

/-! The rows of the curtailment-sharing problem of one hour, and the hourly binding constraints of the weekly
problem that the same links appear in. With the local-matching solution, flow and balance rows always hold,
binding rows whenever no term of the weekly constraint reads another hour.
-/

set_option autoImplicit false

namespace Antares.AdequacyPatch

open Optimisation Library

/-- What does not depend on a solution: the areas and links, the modes of the areas, the
binding constraints (on links of the network) and the optimisation range. -/
structure CsrStudy where
  network : Network
  adequacyPatchMode : Nat → AdequacyPatchMode
  contraintesCouplantes : List ContrainteCouplante
  range : SimplexOptimization
  /-- `thresholdVarBoundsRelaxation` -/
  thresholdVarBoundsRelaxation : Int
  interconnexions_lt : ∀ contrainte ∈ contraintesCouplantes, ∀ terme ∈ contrainte.interconnexions,
    terme.numeroDeLInterconnexion < network.nombreDInterconnexions

section
variable (study : CsrStudy)

def CsrStudy.data : AdequacyPatchRuntimeData := .new study.network study.adequacyPatchMode

/-- The variables of the weekly problem that binding constraints bear on, for every
optimisation of the week and every time step in it, and the energies of the areas. A time
step below zero would be a place before the variables of the optimisation. -/
structure WeeklyVariables where
  flux : Nat → Int → Nat → Rat
  productionThermique : Nat → Int → Nat → Nat → Rat
  defaillancePositive : Nat → Nat → Rat
  defaillanceNegative : Nat → Nat → Rat

variable (weekly : WeeklyVariables)

variable (contrainte : ContrainteCouplante)

/-- Left-hand side of `BindingConstraintHour`, at a time step of an optimisation. -/
def bindingConstraintHour
    (interval pdt : Nat) : Rat :=
  let pas (offset : Int) :=
    getShiftedTimeStep study.range.nombreDePasDeTempsPourUneOptimisation pdt offset nbHoursInWeek
  (contrainte.interconnexions.map fun terme =>
      terme.poids * weekly.flux interval (pas terme.offsetTemporel) terme.numeroDeLInterconnexion).sum +
    (contrainte.paliers.map fun terme => terme.poids * weekly.productionThermique interval
      (pas terme.offsetTemporel) terme.pays terme.numeroDuPalierDispatch).sum

/-- The weekly solution satisfies every hourly binding constraint. Right-hand sides are by
constraint and hour of the week. -/
def SatisfiesHourlyBindingConstraints
    (secondMembre : Nat → Nat → Rat) : Prop :=
  let steps := study.range.nombreDePasDeTempsPourUneOptimisation
  ∀ (index : Nat) (contrainte : ContrainteCouplante),
    study.contraintesCouplantes[index]? = some contrainte →
    contrainte.typeDeContrainteCouplante = .horaire →
    ∀ interval pdt, pdt < steps → interval * steps + pdt < nbHoursInWeek →
      contrainte.sens.Holds (bindingConstraintHour study weekly contrainte interval pdt)
        (secondMembre index (interval * steps + pdt))

/-- The results that the weekly optimisation leaves for an hour of the week. -/
def lmrProblem : ProblemeHebdo where
  network := study.network
  adequacyPatchRuntimeData := study.data
  resultatsHoraires := fun area =>
    { valeursHorairesDeDefaillancePositive := weekly.defaillancePositive area
      valeursHorairesDeDefaillanceNegative := weekly.defaillanceNegative area
      valeursHorairesSpilledEnergyAfterCSR := fun _ => 0
      valeursHorairesDENS := fun _ => 0
      valeursHorairesLmrViolations := fun _ => false
      valeursHorairesDtgMrgCsr := fun _ => 0
      coutsMarginauxHoraires := fun _ => 0
      productionThermiqueDuPalier := fun hour palier =>
        let steps := study.range.nombreDePasDeTempsPourUneOptimisation
        weekly.productionThermique (hour / steps) (hour % steps : Nat) area palier }
  valeurDuFlux := fun hour =>
    let steps := study.range.nombreDePasDeTempsPourUneOptimisation
    weekly.flux (hour / steps) (hour % steps : Nat)
  dispatchableGenerationMargin := fun _ _ => 0

inductive CsrVariable where
  | ens (area : Nat)
  | spilledEnergy (area : Nat)
  | flow (interco : Nat)
  | flowDirect (interco : Nat)
  | flowIndirect (interco : Nat)
  deriving DecidableEq, Repr

def constructVariableENS : List CsrVariable :=
  ((List.range study.network.nombreDePays).filter study.data.inside).map .ens

def constructVariableSpilledEnergy : List CsrVariable :=
  ((List.range study.network.nombreDePays).filter study.data.inside).map .spilledEnergy

def constructVariableFlows : List CsrVariable :=
  ((List.range study.network.nombreDInterconnexions).filter study.data.linkInside).flatMap fun interco =>
    [.flow interco, .flowDirect interco, .flowIndirect interco]

def buildProblemVariables : List CsrVariable :=
  constructVariableENS study ++ constructVariableSpilledEnergy study ++ constructVariableFlows study

/-- The number of a variable; -1 in the source where there is none. -/
def numeroDeVariable (variable_ : CsrVariable) : Option Nat :=
  (buildProblemVariables study).idxOf? variable_

def terme (coefficient : Rat) (variable_ : CsrVariable) : Terms Nat Rat :=
  match numeroDeVariable study variable_ with
  | some numero => [(numero, coefficient)]
  | none => []

/-- The rows are found again by the maps `numberOfConstraintCsr...`. -/
inductive CsrConstraint where
  | flowDissociation (interco : Nat)
  | areaBalance (area : Nat)
  | hourlyBinding (index : Nat)
  deriving DecidableEq, Repr

structure CsrRow where
  constraint : CsrConstraint
  terms : Terms Nat Rat
  sens : Sense

def setConstraintsOnFlows : List CsrRow :=
  ((List.range study.network.nombreDInterconnexions).filter study.data.linkInside).map fun interco =>
    { constraint := .flowDissociation interco
      terms := terme study 1 (.flow interco) ++ terme study (-1) (.flowDirect interco) ++
        terme study 1 (.flowIndirect interco)
      sens := .eq }

def nodeBalanceTerms (area : Nat) : Terms Nat Rat :=
  terme study 1 (.ens area) ++
    (((study.network.intercosOrigine area).filter fun interco =>
        study.data.extremityAreaMode interco = .physicalAreaInsideAdqPatch).flatMap fun interco =>
      terme study (-1) (.flow interco)) ++
    (((study.network.intercosExtremite area).filter fun interco =>
        study.data.originAreaMode interco = .physicalAreaInsideAdqPatch).flatMap fun interco =>
      terme study 1 (.flow interco)) ++
    terme study (-1) (.spilledEnergy area)

def setNodeBalanceConstraints : List CsrRow :=
  ((List.range study.network.nombreDePays).filter study.data.inside).map fun area =>
    { constraint := .areaBalance area, terms := nodeBalanceTerms study area, sens := .eq }

def bindingTerms : Terms Nat Rat :=
  (contrainte.interconnexions.filter fun lien =>
      study.data.linkInside lien.numeroDeLInterconnexion).flatMap fun lien =>
    terme study lien.poids (.flow lien.numeroDeLInterconnexion)

/-- Only the hourly constraints with a link between two areas inside the patch. -/
def setBindingConstraints : List CsrRow :=
  study.contraintesCouplantes.zipIdx.filterMap fun (contrainte, index) =>
    if contrainte.typeDeContrainteCouplante = .horaire ∧ bindingTerms study contrainte ≠ [] then
      some
        { constraint := .hourlyBinding index
          terms := bindingTerms study contrainte
          sens := contrainte.sens }
    else none

def buildConstraintMatrix : List CsrRow :=
  setConstraintsOnFlows study ++ setNodeBalanceConstraints study ++ setBindingConstraints study

def belowThisThresholdSetToZero : Rat := min ((10 : Rat) ^ (-study.thresholdVarBoundsRelaxation)) (1 / 10)

section
variable (problem : ProblemeHebdo) (hour : Nat)

/-- The area part of `calculateCsrParameters`. -/
def rhsAreaBalanceValues (area : Nat) : Rat :=
  let results := problem.resultatsHoraires area
  results.valeursHorairesDeDefaillancePositive hour + (areaFlows problem area hour).1 -
    results.valeursHorairesDeDefaillanceNegative hour

variable (secondMembre : Nat → Nat → Rat)

def setRHSbindingConstraintsValue (contrainte : ContrainteCouplante)
    (index : Nat) : Rat :=
  let initial := secondMembre index hour
  let otherFlows := contrainte.interconnexions.foldl (fun second terme =>
    if problem.adequacyPatchRuntimeData.linkInside terme.numeroDeLInterconnexion then second
    else second - problem.valeurDuFlux hour terme.numeroDeLInterconnexion * terme.poids) initial
  let clusters := contrainte.paliers.foldl (fun second terme =>
    second - (problem.resultatsHoraires terme.pays).productionThermiqueDuPalier hour
      terme.numeroDuPalierDispatch * terme.poids) otherFlows
  contrainte.sens.relax (belowThisThresholdSetToZero study) clusters

/-- `setRHSvalueOnFlows`, `setRHSnodeBalanceValue` and `setRHSbindingConstraintsValue` -/
def buildProblemConstraintsRHS : CsrConstraint → Rat
  | .flowDissociation _ => 0
  | .areaBalance area => rhsAreaBalanceValues problem hour area
  | .hourlyBinding index =>
    match study.contraintesCouplantes[index]? with
    | some contrainte =>
      setRHSbindingConstraintsValue study problem hour secondMembre contrainte index
    | none => 0

def hourlyCsrRows : List (Row Nat Rat) :=
  (buildConstraintMatrix study).map fun row =>
    { terms := row.terms
      sense := row.sens
      rhs := buildProblemConstraintsRHS study problem hour secondMembre row.constraint }

/-- The initial energies and flows, each flow in its direct and indirect parts. -/
def lmrValue : CsrVariable → Rat
  | .ens area => (problem.resultatsHoraires area).valeursHorairesDeDefaillancePositive hour
  | .spilledEnergy area => (problem.resultatsHoraires area).valeursHorairesDeDefaillanceNegative hour
  | .flow interco => problem.valeurDuFlux hour interco
  | .flowDirect interco => max (problem.valeurDuFlux hour interco) 0
  | .flowIndirect interco => max (-problem.valeurDuFlux hour interco) 0

def lmrPoint (numero : Nat) : Rat :=
  ((buildProblemVariables study)[numero]?.map (lmrValue problem hour)).getD 0

end

/-- Whatever the weekly solution, if it satisfies the hourly binding constraints then it
satisfies every row of the curtailment-sharing problem of the hour. -/
def CsrAdmitsLmr (hour : Fin nbHoursInWeek) : Prop :=
  ∀ (weekly : WeeklyVariables) (secondMembre : Nat → Nat → Rat),
    SatisfiesHourlyBindingConstraints study weekly secondMembre →
      ∀ row ∈ hourlyCsrRows study (lmrProblem study weekly) hour secondMembre,
        row.Holds (lmrPoint study (lmrProblem study weekly) hour)

/-- The time step that a term of an hourly constraint reads at an hour is the hour itself. -/
def ReadsItsHour (hour : Nat) (offset : Int) : Prop :=
  let steps := study.range.nombreDePasDeTempsPourUneOptimisation
  getShiftedTimeStep steps (hour % steps) offset nbHoursInWeek = (hour % steps : Nat)

/-- Every hourly constraint with a link inside the patch reads only the hour. -/
def OffsetsAreWholeTurns (hour : Nat) : Prop :=
  ∀ contrainte ∈ study.contraintesCouplantes, contrainte.typeDeContrainteCouplante = .horaire →
    (∃ lien ∈ contrainte.interconnexions, study.data.linkInside lien.numeroDeLInterconnexion = true) →
    (∀ lien ∈ contrainte.interconnexions, ReadsItsHour study hour lien.offsetTemporel) ∧
      ∀ palier ∈ contrainte.paliers, ReadsItsHour study hour palier.offsetTemporel

end

section
variable (study : CsrStudy)

variable {variable_ : CsrVariable}

theorem getElem?_numeroDeVariable {numero : Nat}
    (numbered : numeroDeVariable study variable_ = some numero) :
    (buildProblemVariables study)[numero]? = some variable_ := by
  unfold numeroDeVariable at numbered
  obtain ⟨bound, same, -⟩ := List.idxOf?_eq_some_iff.mp numbered
  rw [List.getElem?_eq_getElem bound, same]

theorem numeroDeVariable_isSome
    (listed : variable_ ∈ buildProblemVariables study) :
    ∃ numero, numeroDeVariable study variable_ = some numero :=
  Option.isSome_iff_exists.mp (List.isSome_idxOf?.mpr listed)

theorem ens_mem {area : Nat} (bound : area < study.network.nombreDePays)
    (inside : study.data.inside area = true) : .ens area ∈ buildProblemVariables study := by
  simp [buildProblemVariables, constructVariableENS, bound, inside]

theorem spilledEnergy_mem {area : Nat} (bound : area < study.network.nombreDePays)
    (inside : study.data.inside area = true) : .spilledEnergy area ∈ buildProblemVariables study := by
  simp [buildProblemVariables, constructVariableSpilledEnergy, bound, inside]

theorem flows_mem {interco : Nat} (bound : interco < study.network.nombreDInterconnexions)
    (inside : study.data.linkInside interco = true) :
    .flow interco ∈ buildProblemVariables study ∧ .flowDirect interco ∈ buildProblemVariables study ∧
      .flowIndirect interco ∈ buildProblemVariables study := by
  simp [buildProblemVariables, constructVariableFlows, bound, inside]

variable (problem : ProblemeHebdo) (hour : Nat)

theorem terme_value {variable_ : CsrVariable} (coefficient : Rat)
    (listed : variable_ ∈ buildProblemVariables study) :
    (terme study coefficient variable_).value (lmrPoint study problem hour) =
      coefficient * lmrValue problem hour variable_ := by
  obtain ⟨numero, numbered⟩ := numeroDeVariable_isSome study listed
  have placed := getElem?_numeroDeVariable study numbered
  unfold terme lmrPoint
  simp [numbered, placed]

theorem flatMap_terme_value {ι : Type} (items : List ι) (coefficient : ι → Rat) (interco : ι → Nat)
    (listed : ∀ item ∈ items, .flow (interco item) ∈ buildProblemVariables study) :
    Terms.value (items.flatMap fun item => terme study (coefficient item) (.flow (interco item)))
        (lmrPoint study problem hour) =
      (items.map fun item => coefficient item * problem.valeurDuFlux hour (interco item)).sum := by
  induction items with
  | nil => rfl
  | cons item items ih =>
    rw [List.forall_mem_cons] at listed
    rw [List.flatMap_cons, Terms.value_append, ih listed.2, List.map_cons, List.sum_cons,
      terme_value study problem hour _ listed.1]
    rfl

theorem setConstraintsOnFlows_value {interco : Nat} (bound : interco < study.network.nombreDInterconnexions)
    (inside : study.data.linkInside interco = true) :
    Terms.value (terme study 1 (.flow interco) ++ terme study (-1) (.flowDirect interco) ++
      terme study 1 (.flowIndirect interco)) (lmrPoint study problem hour) = 0 := by
  obtain ⟨flow, direct, indirect⟩ := flows_mem study bound inside
  simp only [Terms.value_append, terme_value study problem hour _ flow,
    terme_value study problem hour _ direct, terme_value study problem hour _ indirect, lmrValue]
  change 1 * problem.valeurDuFlux hour interco + -1 * max (problem.valeurDuFlux hour interco) 0 +
    1 * max (-problem.valeurDuFlux hour interco) 0 = 0
  -- f = max(f, 0) - max(-f, 0)
  cases le_total 0 (problem.valeurDuFlux hour interco) with
  | inl positive =>
    rw [max_eq_left positive, max_eq_right (neg_nonpos.mpr positive)]
    ring
  | inr negative =>
    rw [max_eq_right negative, max_eq_left (neg_nonneg.mpr negative)]
    ring

variable (intercos : List Nat)

theorem foldl_addFlowOrigine_fst (start : FlowSums) :
    (intercos.foldl (addFlowOrigine problem hour) start).1 = start.1 +
      ((intercos.filter fun interco => problem.adequacyPatchRuntimeData.extremityAreaMode interco =
        .physicalAreaInsideAdqPatch).map fun interco => -1 * problem.valeurDuFlux hour interco).sum := by
  induction intercos generalizing start with
  | nil => simp
  | cons interco intercos ih =>
    rw [List.foldl_cons, ih]
    unfold addFlowOrigine
    cases mode : problem.adequacyPatchRuntimeData.extremityAreaMode interco with
    | virtualArea => simp [mode]
    | physicalAreaOutsideAdqPatch => simp [mode]
    | physicalAreaInsideAdqPatch => simp [mode, sub_eq_add_neg, add_assoc]

theorem foldl_addFlowExtremite_fst (start : FlowSums) :
    (intercos.foldl (addFlowExtremite problem hour) start).1 = start.1 +
      ((intercos.filter fun interco => problem.adequacyPatchRuntimeData.originAreaMode interco =
        .physicalAreaInsideAdqPatch).map fun interco => 1 * problem.valeurDuFlux hour interco).sum := by
  induction intercos generalizing start with
  | nil => simp
  | cons interco intercos ih =>
    rw [List.foldl_cons, ih]
    unfold addFlowExtremite
    cases mode : problem.adequacyPatchRuntimeData.originAreaMode interco with
    | virtualArea => simp [mode]
    | physicalAreaOutsideAdqPatch => simp [mode]
    | physicalAreaInsideAdqPatch => simp [mode, add_assoc]

theorem areaFlows_fst (area : Nat) :
    (areaFlows problem area hour).1 =
      (((problem.network.intercosOrigine area).filter fun interco =>
        problem.adequacyPatchRuntimeData.extremityAreaMode interco = .physicalAreaInsideAdqPatch).map
          fun interco => -1 * problem.valeurDuFlux hour interco).sum +
      (((problem.network.intercosExtremite area).filter fun interco =>
        problem.adequacyPatchRuntimeData.originAreaMode interco = .physicalAreaInsideAdqPatch).map
          fun interco => 1 * problem.valeurDuFlux hour interco).sum := by
  unfold areaFlows
  rw [foldl_addFlowExtremite_fst, foldl_addFlowOrigine_fst, zero_add]

end

section
variable (study : CsrStudy)

theorem CsrStudy.inside_iff {area : Nat} :
    study.data.inside area = true ↔
      study.adequacyPatchMode area = .physicalAreaInsideAdqPatch :=
  decide_eq_true_iff

theorem CsrStudy.linkInside_iff {interco : Nat} :
    study.data.linkInside interco = true ↔
      study.data.originAreaMode interco = .physicalAreaInsideAdqPatch ∧
        study.data.extremityAreaMode interco = .physicalAreaInsideAdqPatch := by
  unfold AdequacyPatchRuntimeData.linkInside
  rw [Bool.and_eq_true, decide_eq_true_iff, decide_eq_true_iff]

variable (weekly : WeeklyVariables) (hour : Nat)

theorem nodeBalanceTerms_value {area : Nat} (bound : area < study.network.nombreDePays)
    (inside : study.data.inside area = true) :
    (nodeBalanceTerms study area).value (lmrPoint study (lmrProblem study weekly) hour) =
      rhsAreaBalanceValues (lmrProblem study weekly) hour area := by
  rw [study.inside_iff] at inside
  -- a link of the area whose other end is inside is a link inside the patch
  have origine : ∀ interco ∈ (study.network.intercosOrigine area).filter fun interco =>
      study.data.extremityAreaMode interco = .physicalAreaInsideAdqPatch,
      .flow interco ∈ buildProblemVariables study := by
    intro interco listed
    rw [List.mem_filter, Network.mem_intercosOrigine, decide_eq_true_eq] at listed
    obtain ⟨⟨link, start⟩, other⟩ := listed
    have linkInside : study.data.linkInside interco = true := study.linkInside_iff.mpr
      ⟨(congrArg study.adequacyPatchMode start).trans inside, other⟩
    exact (flows_mem study link linkInside).1
  have extremite : ∀ interco ∈ (study.network.intercosExtremite area).filter fun interco =>
      study.data.originAreaMode interco = .physicalAreaInsideAdqPatch,
      .flow interco ∈ buildProblemVariables study := by
    intro interco listed
    rw [List.mem_filter, Network.mem_intercosExtremite, decide_eq_true_eq] at listed
    obtain ⟨⟨link, stop⟩, other⟩ := listed
    have linkInside : study.data.linkInside interco = true := study.linkInside_iff.mpr
      ⟨other, (congrArg study.adequacyPatchMode stop).trans inside⟩
    exact (flows_mem study link linkInside).1
  rw [← study.inside_iff] at inside
  unfold nodeBalanceTerms rhsAreaBalanceValues
  rw [Terms.value_append, Terms.value_append, Terms.value_append,
    terme_value study _ hour _ (ens_mem study bound inside),
    terme_value study _ hour _ (spilledEnergy_mem study bound inside),
    flatMap_terme_value study _ hour _ (fun _ => -1) (fun interco => interco) origine,
    flatMap_terme_value study _ hour _ (fun _ => 1) (fun interco => interco) extremite,
    areaFlows_fst]
  unfold lmrValue lmrProblem
  dsimp only
  ring

variable (problem : ProblemeHebdo)

/-- The part of a binding constraint that the problem leaves to its right-hand side. -/
def fixedPart (contrainte : ContrainteCouplante) : Rat :=
  ((contrainte.interconnexions.filter fun lien =>
      !problem.adequacyPatchRuntimeData.linkInside lien.numeroDeLInterconnexion).map fun lien =>
    lien.poids * problem.valeurDuFlux hour lien.numeroDeLInterconnexion).sum +
  (contrainte.paliers.map fun palier => palier.poids *
    (problem.resultatsHoraires palier.pays).productionThermiqueDuPalier hour
      palier.numeroDuPalierDispatch).sum

theorem setRHSbindingConstraintsValue_eq (secondMembre : Nat → Nat → Rat)
    (contrainte : ContrainteCouplante) (index : Nat) :
    setRHSbindingConstraintsValue study problem hour secondMembre contrainte index =
      contrainte.sens.relax (belowThisThresholdSetToZero study)
        (secondMembre index hour - fixedPart hour problem contrainte) := by
  have flows (liens : List TermeDInterconnexion) (start : Rat) :
      liens.foldl (fun second terme =>
        if problem.adequacyPatchRuntimeData.linkInside terme.numeroDeLInterconnexion then second
        else second - problem.valeurDuFlux hour terme.numeroDeLInterconnexion * terme.poids) start =
      start - ((liens.filter fun lien =>
          !problem.adequacyPatchRuntimeData.linkInside lien.numeroDeLInterconnexion).map fun lien =>
        lien.poids * problem.valeurDuFlux hour lien.numeroDeLInterconnexion).sum := by
    induction liens generalizing start with
    | nil => simp
    | cons lien liens ih =>
      rw [List.foldl_cons, ih]
      cases here : problem.adequacyPatchRuntimeData.linkInside lien.numeroDeLInterconnexion with
      | true => simp [here]
      | false =>
        simp only [here, Bool.false_eq_true, ↓reduceIte, List.filter_cons, Bool.not_false,
          List.map_cons, List.sum_cons]
        ring
  have clusters (paliers : List TermeDePalier) (start : Rat) :
      paliers.foldl (fun second terme =>
        second - (problem.resultatsHoraires terme.pays).productionThermiqueDuPalier hour
          terme.numeroDuPalierDispatch * terme.poids) start =
      start - (paliers.map fun palier => palier.poids *
        (problem.resultatsHoraires palier.pays).productionThermiqueDuPalier hour
          palier.numeroDuPalierDispatch).sum := by
    induction paliers generalizing start with
    | nil => simp
    | cons palier paliers ih =>
      rw [List.foldl_cons, ih, List.map_cons, List.sum_cons]
      ring
  unfold setRHSbindingConstraintsValue fixedPart
  dsimp only
  rw [flows, clusters, sub_sub]

variable {contrainte : ContrainteCouplante}

theorem bindingTerms_value
    (listed : contrainte ∈ study.contraintesCouplantes) :
    (bindingTerms study contrainte).value (lmrPoint study (lmrProblem study weekly) hour) +
        fixedPart hour (lmrProblem study weekly) contrainte =
      (contrainte.interconnexions.map fun lien =>
        lien.poids * (lmrProblem study weekly).valeurDuFlux hour lien.numeroDeLInterconnexion).sum +
      (contrainte.paliers.map fun palier => palier.poids *
        ((lmrProblem study weekly).resultatsHoraires palier.pays).productionThermiqueDuPalier hour
          palier.numeroDuPalierDispatch).sum := by
  have numbered : ∀ lien ∈ contrainte.interconnexions.filter fun lien =>
      study.data.linkInside lien.numeroDeLInterconnexion,
      .flow lien.numeroDeLInterconnexion ∈ buildProblemVariables study := by
    intro lien inside
    rw [List.mem_filter] at inside
    exact (flows_mem study (study.interconnexions_lt contrainte listed lien inside.1) inside.2).1
  have flows := flatMap_terme_value study (lmrProblem study weekly) hour _ TermeDInterconnexion.poids
    TermeDInterconnexion.numeroDeLInterconnexion numbered
  unfold bindingTerms fixedPart
  rw [flows, ← add_assoc]
  congr 1
  exact sum_map_filter_add _ _ _

theorem bindingTerms_ne_nil_iff
    (listed : contrainte ∈ study.contraintesCouplantes) :
    bindingTerms study contrainte ≠ [] ↔
      ∃ lien ∈ contrainte.interconnexions,
        study.data.linkInside lien.numeroDeLInterconnexion = true := by
  unfold bindingTerms
  rw [ne_eq, List.flatMap_eq_nil_iff, not_forall]
  constructor
  · rintro ⟨lien, present⟩
    rw [Classical.not_imp, List.mem_filter] at present
    exact ⟨lien, present.1⟩
  · rintro ⟨lien, inConstraint, inside⟩
    refine ⟨lien, fun empty => ?_⟩
    have numbered := numeroDeVariable_isSome study
      (flows_mem study (study.interconnexions_lt contrainte listed lien inConstraint) inside).1
    obtain ⟨numero, numbered⟩ := numbered
    have none_ := empty (List.mem_filter.mpr ⟨inConstraint, inside⟩)
    unfold terme at none_
    rw [numbered] at none_
    cases none_

theorem forall_setBindingConstraints_iff {property : CsrRow → Prop} :
    (∀ row ∈ setBindingConstraints study, property row) ↔
      ∀ (index : Nat) (contrainte : ContrainteCouplante),
        study.contraintesCouplantes[index]? = some contrainte →
        contrainte.typeDeContrainteCouplante = .horaire → bindingTerms study contrainte ≠ [] →
        property
          { constraint := .hourlyBinding index
            terms := bindingTerms study contrainte
            sens := contrainte.sens } := by
  unfold setBindingConstraints
  simp only [List.mem_filterMap, Prod.exists, List.mem_zipIdx_iff_getElem?, Option.ite_none_right_eq_some,
    Option.some.injEq]
  constructor
  · intro rows index contrainte listed hourly terms
    exact rows _ ⟨contrainte, index, listed, ⟨hourly, terms⟩, rfl⟩
  · rintro rows row ⟨contrainte, index, listed, ⟨hourly, terms⟩, rfl⟩
    exact rows index contrainte listed hourly terms

theorem hourlyCsrRows_hold_iff (secondMembre : Nat → Nat → Rat) :
    (∀ row ∈ hourlyCsrRows study (lmrProblem study weekly) hour secondMembre,
        row.Holds (lmrPoint study (lmrProblem study weekly) hour)) ↔
      ∀ (index : Nat) (contrainte : ContrainteCouplante),
        study.contraintesCouplantes[index]? = some contrainte →
        contrainte.typeDeContrainteCouplante = .horaire → bindingTerms study contrainte ≠ [] →
        contrainte.sens.Holds
          ((bindingTerms study contrainte).value (lmrPoint study (lmrProblem study weekly) hour))
          (contrainte.sens.relax (belowThisThresholdSetToZero study)
            (secondMembre index hour - fixedPart hour (lmrProblem study weekly) contrainte)) := by
  unfold hourlyCsrRows buildConstraintMatrix
  rw [List.forall_mem_map, List.forall_mem_append, List.forall_mem_append,
    forall_setBindingConstraints_iff]
  constructor
  · rintro ⟨-, binding⟩ index contrainte listed hourly terms
    have row := binding index contrainte listed hourly terms
    unfold Row.Holds buildProblemConstraintsRHS at row
    simp only [listed, setRHSbindingConstraintsValue_eq] at row
    exact row
  · intro binding
    refine ⟨⟨?_, ?_⟩, ?_⟩
    · intro row listed
      unfold setConstraintsOnFlows at listed
      obtain ⟨interco, inLinks, rfl⟩ := List.mem_map.mp listed
      rw [List.mem_filter, List.mem_range] at inLinks
      exact setConstraintsOnFlows_value study _ hour inLinks.1 inLinks.2
    · intro row listed
      unfold setNodeBalanceConstraints at listed
      obtain ⟨area, inAreas, rfl⟩ := List.mem_map.mp listed
      rw [List.mem_filter, List.mem_range] at inAreas
      exact nodeBalanceTerms_value study weekly hour inAreas.1 inAreas.2
    · intro index contrainte listed hourly terms
      unfold Row.Holds buildProblemConstraintsRHS
      simp only [listed, setRHSbindingConstraintsValue_eq]
      exact binding index contrainte listed hourly terms

theorem belowThisThresholdSetToZero_nonneg : 0 ≤ belowThisThresholdSetToZero study := by
  unfold belowThisThresholdSetToZero
  exact le_min (zpow_nonneg (by norm_num) _) (by norm_num)

theorem bindingConstraintHour_eq
    (listed : contrainte ∈ study.contraintesCouplantes)
    (liens : ∀ lien ∈ contrainte.interconnexions, ReadsItsHour study hour lien.offsetTemporel)
    (paliers : ∀ palier ∈ contrainte.paliers, ReadsItsHour study hour palier.offsetTemporel) :
    bindingConstraintHour study weekly contrainte
        (hour / study.range.nombreDePasDeTempsPourUneOptimisation)
        (hour % study.range.nombreDePasDeTempsPourUneOptimisation) =
      (bindingTerms study contrainte).value (lmrPoint study (lmrProblem study weekly) hour) +
        fixedPart hour (lmrProblem study weekly) contrainte := by
  rw [bindingTerms_value study weekly hour listed]
  unfold bindingConstraintHour lmrProblem
  dsimp only
  congr 2
  · apply List.map_congr_left
    intro lien inConstraint
    rw [liens lien inConstraint]
  · apply List.map_congr_left
    intro palier inConstraint
    rw [paliers palier inConstraint]

theorem interval_step (range : SimplexOptimization) (hour : Nat) :
    hour / range.nombreDePasDeTempsPourUneOptimisation * range.nombreDePasDeTempsPourUneOptimisation +
      hour % range.nombreDePasDeTempsPourUneOptimisation = hour :=
  Nat.div_add_mod' _ _

theorem csrAdmitsLmr_of_wholeTurns (hour : Fin nbHoursInWeek)
    (turns : OffsetsAreWholeTurns study hour) : CsrAdmitsLmr study hour := by
  intro weekly secondMembre satisfied
  rw [hourlyCsrRows_hold_iff]
  intro index contrainte place hourly terms
  have listed := List.mem_of_getElem? place
  rw [bindingTerms_ne_nil_iff study listed] at terms
  obtain ⟨liens, paliers⟩ := turns contrainte listed hourly terms
  have step := Nat.mod_lt hour.val study.range.steps_pos
  have row := satisfied index contrainte place hourly _ _ step
    (by rw [interval_step]; exact hour.isLt)
  rw [interval_step, bindingConstraintHour_eq study weekly hour listed liens paliers,
    Sense.holds_add_iff] at row
  exact row.relax (belowThisThresholdSetToZero_nonneg study)

theorem not_csrAdmitsLmr (hour : Fin nbHoursInWeek) {contrainte : ContrainteCouplante}
    (listed : contrainte ∈ study.contraintesCouplantes)
    (hourly : contrainte.typeDeContrainteCouplante = .horaire)
    (linked : ∃ lien ∈ contrainte.interconnexions,
      study.data.linkInside lien.numeroDeLInterconnexion = true)
    (weekly : WeeklyVariables)
    (noFlow : ∀ interco, (lmrProblem study weekly).valeurDuFlux hour interco = 0)
    (noProduction : ∀ pays palier,
      ((lmrProblem study weekly).resultatsHoraires pays).productionThermiqueDuPalier hour palier = 0)
    (moved : bindingConstraintHour study weekly contrainte
        (hour / study.range.nombreDePasDeTempsPourUneOptimisation)
        (hour % study.range.nombreDePasDeTempsPourUneOptimisation) =
      contrainte.sens.unreached (belowThisThresholdSetToZero study)) :
    ¬CsrAdmitsLmr study hour := by
  intro admits
  let steps := study.range.nombreDePasDeTempsPourUneOptimisation
  -- right-hand sides that the weekly solution meets exactly
  let secondMembre (index hour : Nat) : Rat :=
    study.contraintesCouplantes[index]?.elim 0 fun contrainte =>
      bindingConstraintHour study weekly contrainte (hour / steps) (hour % steps)
  have satisfied : SatisfiesHourlyBindingConstraints study weekly secondMembre := by
    intro index other place _ interval pdt step _
    have exact_ : secondMembre index (interval * steps + pdt) =
        bindingConstraintHour study weekly other interval pdt := by
      simp only [secondMembre, place, Option.elim_some]
      rw [Nat.mul_add_mod_of_lt step, Nat.add_comm, Nat.add_mul_div_right _ _ study.range.steps_pos,
        Nat.div_eq_of_lt step, Nat.zero_add]
    rw [exact_]
    exact other.sens.holds_self _
  obtain ⟨index, place⟩ := List.mem_iff_getElem?.mp listed
  have row := (hourlyCsrRows_hold_iff study weekly hour secondMembre).mp
    (admits weekly secondMembre satisfied) index contrainte place hourly
    ((bindingTerms_ne_nil_iff study listed).mpr linked)
  have fixed : fixedPart hour (lmrProblem study weekly) contrainte = 0 := by
    unfold fixedPart
    simp [noFlow, noProduction]
  have terms : (bindingTerms study contrainte).value
      (lmrPoint study (lmrProblem study weekly) hour) = 0 := by
    simpa [noFlow, noProduction, fixed] using bindingTerms_value study weekly hour listed
  have exact_ : secondMembre index hour =
      contrainte.sens.unreached (belowThisThresholdSetToZero study) := by
    simp only [secondMembre, place, Option.elim_some]
    exact moved
  rw [terms, fixed, sub_zero, exact_] at row
  exact Sense.not_holds_unreached _ _ row

theorem wholeTurns_of_csrAdmitsLmr (hour : Fin nbHoursInWeek) (admits : CsrAdmitsLmr study hour) :
    OffsetsAreWholeTurns study hour := by
  intro contrainte listed hourly linked
  let steps := study.range.nombreDePasDeTempsPourUneOptimisation
  let target := contrainte.sens.unreached (belowThisThresholdSetToZero study)
  constructor
  · intro lien inConstraint
    by_contra elsewhere
    let pas := getShiftedTimeStep steps (hour % steps) lien.offsetTemporel nbHoursInWeek
    -- one flow at the shifted hour fits the week and breaks the row of the hour
    let weekly : WeeklyVariables :=
      { flux := fun _ pdt interco =>
          if pdt = pas ∧ interco = lien.numeroDeLInterconnexion then target / lien.poids else 0
        productionThermique := fun _ _ _ _ => 0
        defaillancePositive := fun _ _ => 0
        defaillanceNegative := fun _ _ => 0 }
    refine not_csrAdmitsLmr study hour listed hourly linked weekly ?_ (fun _ _ => rfl) ?_ admits
    · intro interco
      exact if_neg fun here => elsewhere here.1.symm
    · have liens := sum_map_eq_of_unique TermeDInterconnexion.numeroDeLInterconnexion
        (fun terme => terme.poids * weekly.flux (hour / steps)
          (getShiftedTimeStep steps (hour % steps) terme.offsetTemporel nbHoursInWeek)
          terme.numeroDeLInterconnexion) inConstraint contrainte.interconnexions_nodup (by
            intro other _ different
            exact mul_eq_zero_of_right _ (if_neg fun same => different same.2))
      have moved : weekly.flux (hour / steps)
          (getShiftedTimeStep steps (hour % steps) lien.offsetTemporel nbHoursInWeek)
          lien.numeroDeLInterconnexion = target / lien.poids := if_pos ⟨rfl, rfl⟩
      rw [moved, mul_div_cancel₀ _ (contrainte.interconnexions_poids lien inConstraint)] at liens
      have paliers : (contrainte.paliers.map fun terme => terme.poids * weekly.productionThermique
          (hour / steps) (getShiftedTimeStep steps (hour % steps) terme.offsetTemporel nbHoursInWeek)
          terme.pays terme.numeroDuPalierDispatch).sum = 0 := by
        simp [weekly]
      exact (congrArg₂ (· + ·) liens paliers).trans (add_zero target)
  · intro palier inConstraint
    by_contra elsewhere
    let pas := getShiftedTimeStep steps (hour % steps) palier.offsetTemporel nbHoursInWeek
    -- the same with one thermal production
    let weekly : WeeklyVariables :=
      { flux := fun _ _ _ => 0
        productionThermique := fun _ pdt pays numero =>
          if pdt = pas ∧ (pays, numero) = (palier.pays, palier.numeroDuPalierDispatch) then
            target / palier.poids
          else 0
        defaillancePositive := fun _ _ => 0
        defaillanceNegative := fun _ _ => 0 }
    refine not_csrAdmitsLmr study hour listed hourly linked weekly (fun _ => rfl) ?_ ?_ admits
    · intro pays numero
      exact if_neg fun here => elsewhere here.1.symm
    · have paliers := sum_map_eq_of_unique
        (fun terme : TermeDePalier => (terme.pays, terme.numeroDuPalierDispatch))
        (fun terme => terme.poids * weekly.productionThermique (hour / steps)
          (getShiftedTimeStep steps (hour % steps) terme.offsetTemporel nbHoursInWeek)
          terme.pays terme.numeroDuPalierDispatch) inConstraint contrainte.paliers_nodup (by
            intro other _ different
            exact mul_eq_zero_of_right _ (if_neg fun same => different same.2))
      have moved : weekly.productionThermique (hour / steps)
          (getShiftedTimeStep steps (hour % steps) palier.offsetTemporel nbHoursInWeek)
          palier.pays palier.numeroDuPalierDispatch = target / palier.poids := if_pos ⟨rfl, rfl⟩
      rw [moved, mul_div_cancel₀ _ (contrainte.paliers_poids palier inConstraint)] at paliers
      have liens : (contrainte.interconnexions.map fun terme => terme.poids * weekly.flux (hour / steps)
          (getShiftedTimeStep steps (hour % steps) terme.offsetTemporel nbHoursInWeek)
          terme.numeroDeLInterconnexion).sum = 0 := by
        simp [weekly]
      exact (congrArg₂ (· + ·) liens paliers).trans (zero_add target)

theorem csrAdmitsLmr_iff (hour : Fin nbHoursInWeek) :
    CsrAdmitsLmr study hour ↔ OffsetsAreWholeTurns study hour :=
  ⟨wholeTurns_of_csrAdmitsLmr study hour, csrAdmitsLmr_of_wholeTurns study hour⟩

end

/-- The flow of the next hour on the only link, bounded by an hourly constraint. -/
def nextHourConstraint : ContrainteCouplante where
  typeDeContrainteCouplante := .horaire
  interconnexions := [⟨0, 1, 1⟩]
  paliers := []
  sens := .le
  interconnexions_nodup := by decide
  interconnexions_poids := by decide
  paliers_nodup := by decide
  paliers_poids := by decide

def nextHourStudy : CsrStudy where
  network :=
    { nombreDePays := 2
      nombreDInterconnexions := 1
      paysOrigineDeLInterconnexion := fun _ => 0
      paysExtremiteDeLInterconnexion := fun _ => 1
      origine_lt := by decide
      extremite_lt := by decide }
  adequacyPatchMode := fun _ => .physicalAreaInsideAdqPatch
  contraintesCouplantes := [nextHourConstraint]
  range := .sorWeek
  thresholdVarBoundsRelaxation := 3
  interconnexions_lt := by decide

/-- The problem of hour 5 bounds the flow of hour 5, the weekly problem that of hour 6. -/
theorem nextHourStudy_not_csrAdmitsLmr : ¬CsrAdmitsLmr nextHourStudy ⟨5, by decide⟩ := by
  intro admits
  have turns := wholeTurns_of_csrAdmitsLmr nextHourStudy _ admits nextHourConstraint (.head _) rfl
    ⟨⟨0, 1, 1⟩, .head _, by decide⟩
  have reads := turns.1 ⟨0, 1, 1⟩ (.head _)
  unfold ReadsItsHour at reads
  revert reads
  decide +kernel

end Antares.AdequacyPatch
