import Antares.AdequacyPatch.RuntimeData
import Antares.Library.Overlays

/-! The post-processing commands of an adequacy-patch simulation, in the order of `AdqPatchPostProcessList`, and
the weeks that run on one `PROBLEME_HEBDO`. What the solvers and the hydro remix give is an input of the
week. The sets of triggered hours only grow, over all the weeks and years of a problem.
-/

set_option autoImplicit false

namespace Antares.AdequacyPatch

open Optimisation Library

structure WeeklySolution where
  defaillancePositive : Nat → Nat → Rat
  defaillanceNegative : Nat → Nat → Rat
  coutsMarginaux : Nat → Nat → Rat
  productionThermique : Nat → Nat → Nat → Rat
  flux : Nat → Nat → Rat

structure CsrSolution where
  ens : Nat → Rat
  spilledEnergy : Nat → Rat
  flow : Nat → Rat

/-- One week: `none` is an optimisation or a remix that throws, and an hour whose
curtailment-sharing problem has no solution or one that is disregarded. -/
structure WeekInputs where
  weeklySolution : Option WeeklySolution
  thermalList : Nat → List Nat
  availableProduction : Nat → Nat → Nat → Rat
  csrSolution : Nat → Option CsrSolution
  remixedDefaillancePositive : Option (Nat → Nat → Rat)

section
variable (params : AdqPatchParams) (unsuppliedEnergyCost : Nat → Rat) (inputs : WeekInputs)
  (problem : ProblemeHebdo)

def storeWeeklySolution (solution : WeeklySolution) : ProblemeHebdo :=
  { problem with
    resultatsHoraires := fun area =>
      { problem.resultatsHoraires area with
        valeursHorairesDeDefaillancePositive := solution.defaillancePositive area
        valeursHorairesDeDefaillanceNegative := solution.defaillanceNegative area
        coutsMarginauxHoraires := solution.coutsMarginaux area
        productionThermiqueDuPalier := solution.productionThermique area }
    valeurDuFlux := solution.flux }

/-- `DispatchableMarginPostProcessCmd` -/
def dispatchableMargin : ProblemeHebdo :=
  { problem with
    dispatchableGenerationMargin := fun area hour =>
      ((inputs.thermalList area).map fun cluster => inputs.availableProduction area cluster hour -
        (problem.resultatsHoraires area).productionThermiqueDuPalier hour cluster).sum }

def lmrViolationAreaHour (totalNodeBalance : Rat) (area hour : Nat) : Bool :=
  let ensInit := (problem.resultatsHoraires area).valeursHorairesDeDefaillancePositive hour
  0 < ensInit && totalNodeBalance < 0 &&
    ensInit + |params.thresholdDisplayViolations| < |totalNodeBalance|

def calculateDensNewAndTotalLmrViolation : ProblemeHebdo :=
  { problem with
    resultatsHoraires := fun area =>
      let results := problem.resultatsHoraires area
      if area < problem.network.nombreDePays && problem.adequacyPatchRuntimeData.inside area then
        let balance := calculateAreaFlowBalance problem params.setToZeroOutsideInsideLinks area
        { results with
          valeursHorairesDENS := fun hour =>
            max 0 ((balance hour).2.1 - problem.dispatchableGenerationMargin area hour)
          valeursHorairesSpilledEnergyAfterCSR := results.valeursHorairesDeDefaillanceNegative
          valeursHorairesLmrViolations := fun hour =>
            lmrViolationAreaHour params problem (balance hour).2.2 area hour }
      else results }

variable (hour : Nat)

def calculateENSoverAllAreasForEachHour : Rat :=
  (List.range problem.network.nombreDePays).foldl (fun sum area =>
    if problem.adequacyPatchRuntimeData.inside area then
      sum + (problem.resultatsHoraires area).valeursHorairesDeDefaillancePositive hour
    else sum) 0

def identifyHoursForCurtailmentSharing (sumENS : Nat → Rat) : List Nat :=
  (List.range nbHoursInWeek).filter fun hour => params.thresholdRun < sumENS hour

def getHoursRequiringCurtailmentSharing : List Nat :=
  identifyHoursForCurtailmentSharing params (calculateENSoverAllAreasForEachHour problem)

/-- The triggered hour is recorded for every area inside the patch. -/
def recordTriggeredHour (data : AdequacyPatchRuntimeData) (area : Nat) :
    AdequacyPatchRuntimeData :=
  if data.inside area then data.addCSRTriggeredAtAreaHour area hour else data

/-- The right-hand sides of the area balances are left to the problem that uses them. -/
def calculateCsrParameters : ProblemeHebdo :=
  { problem with
    adequacyPatchRuntimeData := (List.range problem.network.nombreDePays).foldl
      (recordTriggeredHour hour) problem.adequacyPatchRuntimeData }

/-- Energies are stored for the areas inside the patch, flows for the links between them. -/
def storeInteriorPointResults (solution : CsrSolution) : ProblemeHebdo :=
  { problem with
    resultatsHoraires := fun area =>
      let results := problem.resultatsHoraires area
      if problem.adequacyPatchRuntimeData.inside area then
        { results with
          valeursHorairesDeDefaillancePositive :=
            Function.update results.valeursHorairesDeDefaillancePositive hour (solution.ens area)
          valeursHorairesSpilledEnergyAfterCSR :=
            Function.update results.valeursHorairesSpilledEnergyAfterCSR hour
              (solution.spilledEnergy area) }
      else results
    valeurDuFlux := Function.update problem.valeurDuFlux hour fun interco =>
      if problem.adequacyPatchRuntimeData.linkInside interco then solution.flow interco
      else problem.valeurDuFlux hour interco }

/-- `HourlyCSRProblem::run` -/
def runHourlyCsr : ProblemeHebdo :=
  let calculated := calculateCsrParameters problem hour
  match inputs.csrSolution hour with
  | some solution => storeInteriorPointResults calculated hour solution
  | none => calculated

/-- `CurtailmentSharingPostProcessCmd`: the hours of the runs, and what they leave. -/
def curtailmentSharing : List Nat × ProblemeHebdo :=
  let dens := calculateDensNewAndTotalLmrViolation params problem
  let hours := getHoursRequiringCurtailmentSharing params dens
  (hours, hours.foldl (runHourlyCsr inputs) dens)

def storeRemix (defaillancePositive : Nat → Nat → Rat) : ProblemeHebdo :=
  { problem with
    resultatsHoraires := fun area =>
      { problem.resultatsHoraires area with
        valeursHorairesDeDefaillancePositive := defaillancePositive area } }

/-- One hour of `DTGmarginForAdqPatchPostProcessCmd`: margin after curtailment sharing,
unsupplied energy and marginal price. -/
def dtgMarginAt (area hour : Nat) : Rat × Rat × Rat :=
  let results := problem.resultatsHoraires area
  let dtgMrg := problem.dispatchableGenerationMargin area hour
  let ens := results.valeursHorairesDeDefaillancePositive hour
  let mrgCost := results.coutsMarginauxHoraires hour
  if problem.adequacyPatchRuntimeData.wasCSRTriggeredAtAreaHour area hour then
    let adjusted := max 0 (ens - dtgMrg)
    (max 0 (dtgMrg - ens), adjusted, if 1 / 2 < adjusted then -unsuppliedEnergyCost area else mrgCost)
  else (dtgMrg, ens, mrgCost)

/-- `DTGmarginForAdqPatchPostProcessCmd` -/
def dtgMarginForAdqPatch : ProblemeHebdo :=
  { problem with
    resultatsHoraires := fun area =>
      let results := problem.resultatsHoraires area
      if area < problem.network.nombreDePays && problem.adequacyPatchRuntimeData.inside area then
        let computed := dtgMarginAt unsuppliedEnergyCost problem area
        { results with
          valeursHorairesDtgMrgCsr := fun hour => (computed hour).1
          valeursHorairesDeDefaillancePositive := fun hour => (computed hour).2.1
          coutsMarginauxHoraires := fun hour => (computed hour).2.2 }
      else results }

/-- A week as the commands saw it: the hours for which a curtailment-sharing problem was run,
the problem when `DTGmarginForAdqPatchPostProcessCmd` started, if it did, and what is left. -/
structure WeekTrace where
  csrHours : List Nat
  beforeDtgMargin : Option ProblemeHebdo
  final : ProblemeHebdo

/-- The commands up to the margin for the patch; those after it only read water values and
hydro levels. -/
def runWeek : WeekTrace :=
  match inputs.weeklySolution with
  | none => { csrHours := [], beforeDtgMargin := none, final := problem }
  | some solution =>
    let margin := dispatchableMargin inputs (storeWeeklySolution problem solution)
    let (csrHours, shared) := curtailmentSharing params inputs margin
    match inputs.remixedDefaillancePositive with
    | none => { csrHours, beforeDtgMargin := none, final := shared }
    | some defaillancePositive =>
      let remixed := storeRemix shared defaillancePositive
      { csrHours
        beforeDtgMargin := some remixed
        final := dtgMarginForAdqPatch unsuppliedEnergyCost remixed }

end

def runWeeks (params : AdqPatchParams) (unsuppliedEnergyCost : Nat → Rat) :
    ProblemeHebdo → List WeekInputs → List WeekTrace
  | _, [] => []
  | problem, week :: weeks =>
    let trace := runWeek params unsuppliedEnergyCost week problem
    trace :: runWeeks params unsuppliedEnergyCost trace.final weeks

/-- The same areas, links and modes, and some more hours recorded inside the patch. -/
structure Records (hours : List Nat) (before after : ProblemeHebdo) : Prop where
  network : after.network = before.network
  areaMode : after.adequacyPatchRuntimeData.areaMode = before.adequacyPatchRuntimeData.areaMode
  hours : ∀ area hour, area < before.network.nombreDePays →
    (after.adequacyPatchRuntimeData.wasCSRTriggeredAtAreaHour area hour = true ↔
      before.adequacyPatchRuntimeData.wasCSRTriggeredAtAreaHour area hour = true ∨
        before.adequacyPatchRuntimeData.inside area = true ∧ hour ∈ hours)

section
variable {before middle after : ProblemeHebdo} {hours others : List Nat}

theorem Records.inside (records : Records hours before after) (area : Nat) :
    after.adequacyPatchRuntimeData.inside area = before.adequacyPatchRuntimeData.inside area := by
  unfold AdequacyPatchRuntimeData.inside
  rw [records.areaMode]

theorem Records.of_eq (network : after.network = before.network)
    (data : after.adequacyPatchRuntimeData = before.adequacyPatchRuntimeData) :
    Records [] before after where
  network := network
  areaMode := by rw [data]
  hours := fun area hour _ => by simp [data]

theorem Records.trans (first : Records hours before middle) (second : Records others middle after) :
    Records (hours ++ others) before after where
  network := second.network.trans first.network
  areaMode := second.areaMode.trans first.areaMode
  hours := fun area hour bound => by
    rw [second.hours area hour (first.network.symm ▸ bound), first.hours area hour bound,
      first.inside, List.mem_append]
    tauto

variable (hour : Nat) (data : AdequacyPatchRuntimeData)

theorem recordTriggeredHour_inside (area other : Nat) :
    (recordTriggeredHour hour data area).inside other = data.inside other := by
  unfold recordTriggeredHour
  split_ifs <;> rfl

theorem recordTriggeredHour_areaMode (area : Nat) :
    (recordTriggeredHour hour data area).areaMode = data.areaMode := by
  unfold recordTriggeredHour
  split_ifs <;> rfl

theorem recordTriggeredHour_hours (area : Nat)
    (other otherHour : Nat) :
    (recordTriggeredHour hour data area).wasCSRTriggeredAtAreaHour other otherHour = true ↔
      data.wasCSRTriggeredAtAreaHour other otherHour = true ∨
        data.inside other = true ∧ other = area ∧ otherHour = hour := by
  unfold recordTriggeredHour AdequacyPatchRuntimeData.wasCSRTriggeredAtAreaHour
    AdequacyPatchRuntimeData.addCSRTriggeredAtAreaHour
  split_ifs with inside
  · by_cases same : other = area
    · subst same
      simp [inside, or_comm]
    · simp [same]
  · by_cases same : other = area
    · subst same
      simp [inside]
    · simp [same]

theorem foldl_recordTriggeredHour (areas : List Nat) (data : AdequacyPatchRuntimeData) :
    (areas.foldl (recordTriggeredHour hour) data).areaMode = data.areaMode ∧
    ∀ area otherHour,
      (areas.foldl (recordTriggeredHour hour) data).wasCSRTriggeredAtAreaHour area otherHour = true ↔
        data.wasCSRTriggeredAtAreaHour area otherHour = true ∨
          data.inside area = true ∧ area ∈ areas ∧ otherHour = hour := by
  induction areas generalizing data with
  | nil => simp
  | cons first areas ih =>
    obtain ⟨modes, triggered⟩ := ih (recordTriggeredHour hour data first)
    refine ⟨modes.trans (recordTriggeredHour_areaMode hour data first), ?_⟩
    intro area otherHour
    rw [List.foldl_cons, triggered, recordTriggeredHour_hours, recordTriggeredHour_inside,
      List.mem_cons]
    tauto

theorem calculateCsrParameters_records (problem : ProblemeHebdo) (hour : Nat) :
    Records [hour] problem (calculateCsrParameters problem hour) := by
  obtain ⟨modes, triggered⟩ := foldl_recordTriggeredHour hour
    (List.range problem.network.nombreDePays) problem.adequacyPatchRuntimeData
  refine ⟨rfl, modes, ?_⟩
  intro area otherHour bound
  unfold calculateCsrParameters
  rw [triggered, List.mem_range, List.mem_singleton]
  tauto

variable (inputs : WeekInputs) (problem : ProblemeHebdo)

theorem runHourlyCsr_records (hour : Nat) :
    Records [hour] problem (runHourlyCsr inputs problem hour) := by
  have calculated := calculateCsrParameters_records problem hour
  unfold runHourlyCsr
  cases inputs.csrSolution hour with
  | none => exact calculated
  | some solution => exact calculated.trans (.of_eq rfl rfl)

theorem runHourlyCsrs_records (hours : List Nat) :
    Records hours problem (hours.foldl (runHourlyCsr inputs) problem) := by
  induction hours generalizing problem with
  | nil => exact .of_eq rfl rfl
  | cons hour hours ih => exact (runHourlyCsr_records inputs problem hour).trans (ih _)

theorem curtailmentSharing_records (params : AdqPatchParams) (inputs : WeekInputs)
    (problem : ProblemeHebdo) :
    Records (curtailmentSharing params inputs problem).1 problem
      (curtailmentSharing params inputs problem).2 := by
  have dens : Records [] problem (calculateDensNewAndTotalLmrViolation params problem) :=
    .of_eq rfl rfl
  exact dens.trans (runHourlyCsrs_records inputs _ _)

end

section
variable (params : AdqPatchParams) (unsuppliedEnergyCost : Nat → Rat)

variable (problem : ProblemeHebdo) (week : WeekInputs)

def triggeredHours : List Nat :=
  match week.weeklySolution with
  | none => []
  | some solution =>
    getHoursRequiringCurtailmentSharing params (storeWeeklySolution problem solution)

/-- The week gets to the margin command: neither the optimisation nor the remix throws. -/
def WeekInputs.reachesDtgMargin : Prop :=
  week.weeklySolution.isSome = true ∧ week.remixedDefaillancePositive.isSome = true

variable {left right : ProblemeHebdo}

theorem ensOverAllAreas_congr (hour : Nat)
    (network : left.network = right.network)
    (modes : left.adequacyPatchRuntimeData.areaMode = right.adequacyPatchRuntimeData.areaMode)
    (ens : ∀ area, (left.resultatsHoraires area).valeursHorairesDeDefaillancePositive =
      (right.resultatsHoraires area).valeursHorairesDeDefaillancePositive) :
    calculateENSoverAllAreasForEachHour left hour = calculateENSoverAllAreasForEachHour right hour := by
  unfold calculateENSoverAllAreasForEachHour AdequacyPatchRuntimeData.inside
  rw [network, modes]
  simp only [ens]

theorem triggeredHours_congr (week : WeekInputs)
    (network : left.network = right.network)
    (modes : left.adequacyPatchRuntimeData.areaMode = right.adequacyPatchRuntimeData.areaMode) :
    triggeredHours params left week = triggeredHours params right week := by
  unfold triggeredHours getHoursRequiringCurtailmentSharing
  cases week.weeklySolution with
  | none => rfl
  | some solution =>
    dsimp only
    congr 1
    funext hour
    exact ensOverAllAreas_congr hour network modes fun _ => rfl

theorem dens_defaillancePositive (area : Nat) :
    ((calculateDensNewAndTotalLmrViolation params problem).resultatsHoraires
      area).valeursHorairesDeDefaillancePositive =
      (problem.resultatsHoraires area).valeursHorairesDeDefaillancePositive := by
  unfold calculateDensNewAndTotalLmrViolation
  dsimp only
  split_ifs <;> rfl

theorem curtailmentSharing_hours
    (solution : WeeklySolution) :
    (curtailmentSharing params week
        (dispatchableMargin week (storeWeeklySolution problem solution))).1 =
      getHoursRequiringCurtailmentSharing params (storeWeeklySolution problem solution) := by
  let margin := dispatchableMargin week (storeWeeklySolution problem solution)
  have sums : calculateENSoverAllAreasForEachHour (calculateDensNewAndTotalLmrViolation params margin) =
      calculateENSoverAllAreasForEachHour (storeWeeklySolution problem solution) := by
    funext hour
    exact ensOverAllAreas_congr hour rfl rfl (dens_defaillancePositive params margin)
  exact congrArg (identifyHoursForCurtailmentSharing params) sums

theorem csrHours_eq :
    (runWeek params unsuppliedEnergyCost week problem).csrHours = triggeredHours params problem week := by
  unfold runWeek triggeredHours
  cases week.weeklySolution with
  | none => rfl
  | some solution =>
    have hours := curtailmentSharing_hours params problem week solution
    cases week.remixedDefaillancePositive <;> exact hours

theorem storeRemix_records (remix : Nat → Nat → Rat) :
    Records [] problem (storeRemix problem remix) :=
  .of_eq rfl rfl

theorem dtgMarginForAdqPatch_records :
    Records [] problem (dtgMarginForAdqPatch unsuppliedEnergyCost problem) :=
  .of_eq rfl rfl

theorem runWeek_records :
    Records (runWeek params unsuppliedEnergyCost week problem).csrHours problem
        (runWeek params unsuppliedEnergyCost week problem).final ∧
      ∀ before, (runWeek params unsuppliedEnergyCost week problem).beforeDtgMargin = some before →
        Records (runWeek params unsuppliedEnergyCost week problem).csrHours problem before ∧
          (runWeek params unsuppliedEnergyCost week problem).final =
            dtgMarginForAdqPatch unsuppliedEnergyCost before := by
  unfold runWeek
  cases week.weeklySolution with
  | none =>
    refine ⟨.of_eq rfl rfl, ?_⟩
    intro before none_
    cases none_
  | some solution =>
    have margin : Records [] problem (dispatchableMargin week (storeWeeklySolution problem solution)) :=
      .of_eq rfl rfl
    have shared := margin.trans (curtailmentSharing_records params week
      (dispatchableMargin week (storeWeeklySolution problem solution)))
    cases week.remixedDefaillancePositive with
    | none =>
      refine ⟨shared, ?_⟩
      intro before none_
      cases none_
    | some remix =>
      have remixed := shared.trans (storeRemix_records _ remix)
      have final := remixed.trans (dtgMarginForAdqPatch_records unsuppliedEnergyCost _)
      simp only [List.nil_append, List.append_nil] at remixed final
      refine ⟨final, ?_⟩
      intro before same
      cases same
      exact ⟨remixed, rfl⟩

end

section
variable (params : AdqPatchParams) (unsuppliedEnergyCost : Nat → Rat)

/-- The margin command sees exactly the hours of its own week, and leaves the others alone. -/
structure WeekTrace.MarginOfWeek (trace : WeekTrace) (before : ProblemeHebdo) : Prop where
  triggered : ∀ area hour, area < before.network.nombreDePays →
    (before.adequacyPatchRuntimeData.wasCSRTriggeredAtAreaHour area hour = true ↔
      before.adequacyPatchRuntimeData.inside area = true ∧ hour ∈ trace.csrHours)
  ens : ∀ area hour, area < before.network.nombreDePays →
    ¬(before.adequacyPatchRuntimeData.inside area = true ∧ hour ∈ trace.csrHours) →
      (trace.final.resultatsHoraires area).valeursHorairesDeDefaillancePositive hour =
        (before.resultatsHoraires area).valeursHorairesDeDefaillancePositive hour
  price : ∀ area hour, area < before.network.nombreDePays →
    ¬(before.adequacyPatchRuntimeData.inside area = true ∧ hour ∈ trace.csrHours) →
      (trace.final.resultatsHoraires area).coutsMarginauxHoraires hour =
        (before.resultatsHoraires area).coutsMarginauxHoraires hour
  margin : ∀ area hour, area < before.network.nombreDePays →
    before.adequacyPatchRuntimeData.inside area = true → hour ∉ trace.csrHours →
      (trace.final.resultatsHoraires area).valeursHorairesDtgMrgCsr hour =
        before.dispatchableGenerationMargin area hour

theorem WeekTrace.MarginOfWeek.of_triggered {trace : WeekTrace} {before : ProblemeHebdo}
    (final : trace.final = dtgMarginForAdqPatch unsuppliedEnergyCost before)
    (triggered : ∀ area hour, area < before.network.nombreDePays →
      (before.adequacyPatchRuntimeData.wasCSRTriggeredAtAreaHour area hour = true ↔
        before.adequacyPatchRuntimeData.inside area = true ∧ hour ∈ trace.csrHours)) :
    trace.MarginOfWeek before := by
  have untouched (area hour : Nat) (bound : area < before.network.nombreDePays)
      (other : ¬(before.adequacyPatchRuntimeData.inside area = true ∧ hour ∈ trace.csrHours)) :
      dtgMarginAt unsuppliedEnergyCost before area hour =
        (before.dispatchableGenerationMargin area hour,
          (before.resultatsHoraires area).valeursHorairesDeDefaillancePositive hour,
          (before.resultatsHoraires area).coutsMarginauxHoraires hour) := by
    unfold dtgMarginAt
    rw [← triggered area hour bound] at other
    exact if_neg other
  constructor
  · exact triggered
  · intro area hour bound other
    rw [final]
    unfold dtgMarginForAdqPatch
    dsimp only
    split_ifs
    · exact congrArg (fun computed => computed.2.1) (untouched area hour bound other)
    · rfl
  · intro area hour bound other
    rw [final]
    unfold dtgMarginForAdqPatch
    dsimp only
    split_ifs
    · exact congrArg (fun computed => computed.2.2) (untouched area hour bound other)
    · rfl
  · intro area hour bound inside other
    rw [final]
    unfold dtgMarginForAdqPatch
    dsimp only
    rw [if_pos (by simp [bound, inside])]
    exact congrArg Prod.fst (untouched area hour bound fun both => other both.2)

variable (problem : ProblemeHebdo)

def logStep (week : WeekInputs) : LogStep Nat where
  written := {hour | hour ∈ triggeredHours params problem week}
  reads := week.reachesDtgMargin

/-- The recorded hours of every area inside the patch are those of the log. -/
def LogHolds (log : Set Nat) (problem : ProblemeHebdo) : Prop :=
  ∀ area hour, area < problem.network.nombreDePays →
    (problem.adequacyPatchRuntimeData.wasCSRTriggeredAtAreaHour area hour = true ↔
      problem.adequacyPatchRuntimeData.inside area = true ∧ hour ∈ log)

theorem LogHolds.after {log : Set Nat} {hours : List Nat} {before after : ProblemeHebdo}
    (holds : LogHolds log before) (records : Records hours before after) :
    LogHolds (log ∪ {hour | hour ∈ hours}) after := by
  intro area hour bound
  rw [records.network] at bound
  rw [records.hours area hour bound, holds area hour bound, records.inside, Set.mem_union,
    Set.mem_ofPred_eq, ← and_or_left]

theorem beforeDtgMargin_isSome (week : WeekInputs) :
    (runWeek params unsuppliedEnergyCost week problem).beforeDtgMargin.isSome = true ↔
      week.reachesDtgMargin := by
  unfold runWeek WeekInputs.reachesDtgMargin
  cases week.weeklySolution with
  | none => simp
  | some solution => cases week.remixedDefaillancePositive <;> simp

def MarginsOfTheirWeeks (traces : List WeekTrace) : Prop :=
  ∀ trace ∈ traces, ∀ before, trace.beforeDtgMargin = some before → trace.MarginOfWeek before

theorem marginsOfTheirWeeks_cons {trace : WeekTrace} {traces : List WeekTrace} :
    MarginsOfTheirWeeks (trace :: traces) ↔
      (∀ before, trace.beforeDtgMargin = some before → trace.MarginOfWeek before) ∧
        MarginsOfTheirWeeks traces :=
  List.forall_mem_cons

theorem runWeek_marginOfWeek_iff {log : Set Nat} {problem : ProblemeHebdo} (week : WeekInputs)
    (holds : LogHolds log problem)
    (someInside : ∃ area < problem.network.nombreDePays,
      problem.adequacyPatchRuntimeData.inside area = true) :
    (∀ before, (runWeek params unsuppliedEnergyCost week problem).beforeDtgMargin = some before →
      (runWeek params unsuppliedEnergyCost week problem).MarginOfWeek before) ↔
    ((logStep params problem week).reads →
      log ∪ (logStep params problem week).written = (logStep params problem week).written) := by
  have hours := csrHours_eq params unsuppliedEnergyCost problem week
  obtain ⟨-, reached⟩ := runWeek_records params unsuppliedEnergyCost problem week
  constructor
  · intro margins reads
    obtain ⟨before, same⟩ := Option.isSome_iff_exists.mp
      ((beforeDtgMargin_isSome params unsuppliedEnergyCost problem week).mpr reads)
    obtain ⟨records, -⟩ := reached before same
    obtain ⟨area, bound, inside⟩ := someInside
    have triggered := (margins before same).triggered
    have logged := holds.after records
    rw [← records.network] at bound
    rw [← records.inside] at inside
    ext hour
    have both := (logged area hour bound).symm.trans (triggered area hour bound)
    simpa [inside, hours, logStep] using both
  · intro repeated before same
    obtain ⟨records, final⟩ := reached before same
    have reads := (beforeDtgMargin_isSome params unsuppliedEnergyCost problem week).mp
      (by rw [same]; rfl)
    have logged := holds.after records
    rw [hours] at logged
    change LogHolds (log ∪ (logStep params problem week).written) before at logged
    rw [repeated reads] at logged
    apply WeekTrace.MarginOfWeek.of_triggered unsuppliedEnergyCost final
    rw [hours]
    exact logged

theorem logStep_congr {before after : ProblemeHebdo} {hours : List Nat}
    (records : Records hours before after) : logStep params after = logStep params before := by
  funext week
  unfold logStep
  rw [triggeredHours_congr params week records.network records.areaMode]

theorem runWeeks_readsOwn_iff {log : Set Nat} {problem : ProblemeHebdo} (weeks : List WeekInputs)
    (holds : LogHolds log problem)
    (someInside : ∃ area < problem.network.nombreDePays,
      problem.adequacyPatchRuntimeData.inside area = true) :
    MarginsOfTheirWeeks (runWeeks params unsuppliedEnergyCost problem weeks) ↔
      ReadsOwn log (weeks.map (logStep params problem)) := by
  induction weeks generalizing log problem with
  | nil => simp [MarginsOfTheirWeeks, runWeeks, ReadsOwn]
  | cons week weeks ih =>
    obtain ⟨records, -⟩ := runWeek_records params unsuppliedEnergyCost problem week
    have next := holds.after records
    rw [csrHours_eq] at next
    have stillInside : ∃ area < (runWeek params unsuppliedEnergyCost week problem).final.network.nombreDePays,
        (runWeek params unsuppliedEnergyCost week problem).final.adequacyPatchRuntimeData.inside area =
          true := by
      obtain ⟨area, bound, inside⟩ := someInside
      exact ⟨area, records.network ▸ bound, records.inside area ▸ inside⟩
    have rest := ih next stillInside
    rw [logStep_congr params records] at rest
    unfold runWeeks
    rw [marginsOfTheirWeeks_cons, rest,
      runWeek_marginOfWeek_iff params unsuppliedEnergyCost week holds someInside]
    rfl

theorem runWeeks_outside {problem : ProblemeHebdo} (weeks : List WeekInputs)
    (holds : LogHolds ∅ problem)
    (outside : ∀ area < problem.network.nombreDePays,
      problem.adequacyPatchRuntimeData.inside area = false) :
    MarginsOfTheirWeeks (runWeeks params unsuppliedEnergyCost problem weeks) := by
  induction weeks generalizing problem with
  | nil => simp [MarginsOfTheirWeeks, runWeeks]
  | cons week weeks ih =>
    obtain ⟨records, reached⟩ := runWeek_records params unsuppliedEnergyCost problem week
    have carried {hours : List Nat} {after : ProblemeHebdo} (records : Records hours problem after) :
        (∀ area < after.network.nombreDePays, after.adequacyPatchRuntimeData.inside area = false) ∧
          LogHolds ∅ after := by
      have stillOutside : ∀ area < after.network.nombreDePays,
          after.adequacyPatchRuntimeData.inside area = false := by
        intro area bound
        rw [records.inside]
        exact outside area (records.network ▸ bound)
      refine ⟨stillOutside, ?_⟩
      intro area hour bound
      rw [(holds.after records) area hour bound, stillOutside area bound]
      simp
    unfold runWeeks
    rw [marginsOfTheirWeeks_cons]
    refine ⟨?_, ih (carried records).2 (carried records).1⟩
    intro before same
    obtain ⟨recordsBefore, final⟩ := reached before same
    obtain ⟨outsideBefore, logged⟩ := carried recordsBefore
    apply WeekTrace.MarginOfWeek.of_triggered unsuppliedEnergyCost final
    intro area hour bound
    rw [logged area hour bound, outsideBefore area bound]
    simp

end

/-- A problem as `SIM_InitialisationProblemeHebdo` leaves it, whatever its results hold. -/
def simInitialisationProblemeHebdo (network : Network) (adequacyPatchMode : Nat → AdequacyPatchMode)
    (resultatsHoraires : Nat → ResultatsHoraires) : ProblemeHebdo where
  network := network
  adequacyPatchRuntimeData := .new network adequacyPatchMode
  resultatsHoraires := resultatsHoraires
  valeurDuFlux := fun _ _ => 0
  dispatchableGenerationMargin := fun _ _ => 0

variable (params : AdqPatchParams)

/-- No area is inside the patch, or every week that gets to the margin command triggers
again all the hours triggered in an earlier week. -/
def TriggersRepeat (problem : ProblemeHebdo) (weeks : List WeekInputs) :
    Prop :=
  (∀ area < problem.network.nombreDePays, problem.adequacyPatchRuntimeData.inside area = false) ∨
    weeks.Pairwise fun earlier later => later.reachesDtgMargin →
      ∀ hour ∈ triggeredHours params problem earlier, hour ∈ triggeredHours params problem later

theorem runWeeks_marginsOfTheirWeeks_iff (unsuppliedEnergyCost : Nat → Rat)
    (network : Network) (adequacyPatchMode : Nat → AdequacyPatchMode)
    (resultatsHoraires : Nat → ResultatsHoraires) (weeks : List WeekInputs) :
    MarginsOfTheirWeeks (runWeeks params unsuppliedEnergyCost
        (simInitialisationProblemeHebdo network adequacyPatchMode resultatsHoraires) weeks) ↔
      TriggersRepeat params
        (simInitialisationProblemeHebdo network adequacyPatchMode resultatsHoraires) weeks := by
  let problem := simInitialisationProblemeHebdo network adequacyPatchMode resultatsHoraires
  have empty : LogHolds ∅ problem := by
    intro area hour _
    simp [problem, simInitialisationProblemeHebdo, AdequacyPatchRuntimeData.new,
      AdequacyPatchRuntimeData.wasCSRTriggeredAtAreaHour]
  unfold TriggersRepeat
  by_cases someInside : ∃ area < problem.network.nombreDePays,
      problem.adequacyPatchRuntimeData.inside area = true
  · rw [runWeeks_readsOwn_iff params unsuppliedEnergyCost weeks empty someInside, readsOwn_empty_iff,
      or_iff_right]
    · unfold Repeats
      rw [List.pairwise_map]
      rfl
    · intro outside
      obtain ⟨area, bound, inside⟩ := someInside
      exact Bool.false_ne_true ((outside area bound).symm.trans inside)
  · have outside : ∀ area < problem.network.nombreDePays,
        problem.adequacyPatchRuntimeData.inside area = false := by
      simpa using someInside
    exact iff_of_true (runWeeks_outside params unsuppliedEnergyCost weeks empty outside) (.inl outside)

def loneArea : Network where
  nombreDePays := 1
  nombreDInterconnexions := 0
  paysOrigineDeLInterconnexion := fun _ => 0
  paysExtremiteDeLInterconnexion := fun _ => 0
  origine_lt := fun _ none_ => absurd none_ (Nat.not_lt_zero _)
  extremite_lt := fun _ none_ => absurd none_ (Nat.not_lt_zero _)

def noResults : ResultatsHoraires where
  valeursHorairesDeDefaillancePositive := fun _ => 0
  valeursHorairesDeDefaillanceNegative := fun _ => 0
  valeursHorairesSpilledEnergyAfterCSR := fun _ => 0
  valeursHorairesDENS := fun _ => 0
  valeursHorairesLmrViolations := fun _ => false
  valeursHorairesDtgMrgCsr := fun _ => 0
  coutsMarginauxHoraires := fun _ => 0
  productionThermiqueDuPalier := fun _ _ => 0

/-- A week with this unsupplied energy, kept by the curtailment sharing and by the remix. -/
def weekWith (ens : Nat → Rat) : WeekInputs where
  weeklySolution := some
    { defaillancePositive := fun _ => ens
      defaillanceNegative := fun _ _ => 0
      coutsMarginaux := fun _ _ => 0
      productionThermique := fun _ _ _ => 0
      flux := fun _ _ => 0 }
  thermalList := fun _ => []
  availableProduction := fun _ _ _ => 0
  csrSolution := fun _ => none
  remixedDefaillancePositive := some fun _ => ens

def zeroThresholds : AdqPatchParams where
  setToZeroOutsideInsideLinks := true
  thresholdRun := 0
  thresholdDisplayViolations := 0

/-- Hour 5 is short of energy in the first week only; it still counts in the second. -/
theorem shortWeekThenPlentiful_margins :
    ¬MarginsOfTheirWeeks (runWeeks zeroThresholds (fun _ => 0)
      (simInitialisationProblemeHebdo loneArea (fun _ => .physicalAreaInsideAdqPatch) fun _ => noResults)
      [weekWith fun hour => if hour = 5 then 10 else 0, weekWith fun _ => 0]) := by
  intro margins
  have second := margins _ (.tail _ (.head _)) _ rfl
  have triggered := (second.triggered 0 5 (by decide +kernel)).mp (by decide +kernel)
  exact absurd triggered.2 (by decide +kernel)

end Antares.AdequacyPatch
