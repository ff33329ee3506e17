import Antares.Optimisation.Network

/-! What the adequacy patch keeps next to the weekly problem, and the hourly results that
its post-processing commands read and write.
-/

set_option autoImplicit false

namespace Antares.AdequacyPatch

open Optimisation

inductive AdequacyPatchMode where
  | virtualArea
  | physicalAreaOutsideAdqPatch
  | physicalAreaInsideAdqPatch
  deriving DecidableEq, Repr

structure AdqPatchParams where
  setToZeroOutsideInsideLinks : Bool
  thresholdRun : Rat
  thresholdDisplayViolations : Rat

/-- `csrTriggeredHoursPerArea` is a set of hours of the week for each area. -/
structure AdequacyPatchRuntimeData where
  areaMode : Nat → AdequacyPatchMode
  originAreaMode : Nat → AdequacyPatchMode
  extremityAreaMode : Nat → AdequacyPatchMode
  csrTriggeredHoursPerArea : Nat → Finset Nat

namespace AdequacyPatchRuntimeData

def new (network : Network) (adequacyPatchMode : Nat → AdequacyPatchMode) :
    AdequacyPatchRuntimeData where
  areaMode := adequacyPatchMode
  originAreaMode := fun interco => adequacyPatchMode (network.paysOrigineDeLInterconnexion interco)
  extremityAreaMode := fun interco => adequacyPatchMode (network.paysExtremiteDeLInterconnexion interco)
  csrTriggeredHoursPerArea := fun _ => ∅

variable (data : AdequacyPatchRuntimeData)

def wasCSRTriggeredAtAreaHour (area hour : Nat) : Bool := hour ∈ data.csrTriggeredHoursPerArea area

def addCSRTriggeredAtAreaHour (area hour : Nat) : AdequacyPatchRuntimeData :=
  { data with
    csrTriggeredHoursPerArea := Function.update data.csrTriggeredHoursPerArea area
      (insert hour (data.csrTriggeredHoursPerArea area)) }

def inside (area : Nat) : Bool := data.areaMode area = .physicalAreaInsideAdqPatch

def linkInside (interco : Nat) : Bool :=
  data.originAreaMode interco = .physicalAreaInsideAdqPatch &&
    data.extremityAreaMode interco = .physicalAreaInsideAdqPatch

end AdequacyPatchRuntimeData

structure ResultatsHoraires where
  valeursHorairesDeDefaillancePositive : Nat → Rat
  valeursHorairesDeDefaillanceNegative : Nat → Rat
  valeursHorairesSpilledEnergyAfterCSR : Nat → Rat
  valeursHorairesDENS : Nat → Rat
  valeursHorairesLmrViolations : Nat → Bool
  valeursHorairesDtgMrgCsr : Nat → Rat
  coutsMarginauxHoraires : Nat → Rat
  productionThermiqueDuPalier : Nat → Nat → Rat

/-- The part of `PROBLEME_HEBDO` and of the scratchpads that the commands work on. -/
structure ProblemeHebdo where
  network : Network
  adequacyPatchRuntimeData : AdequacyPatchRuntimeData
  resultatsHoraires : Nat → ResultatsHoraires
  valeurDuFlux : Nat → Nat → Rat
  dispatchableGenerationMargin : Nat → Nat → Rat

/-- The net position of an area inside the patch, and what it receives from outside. -/
abbrev FlowSums := Rat × Rat

section
variable (problem : ProblemeHebdo)

def addFlowOrigine (hour : Nat) (sums : FlowSums) (interco : Nat) : FlowSums :=
  match problem.adequacyPatchRuntimeData.extremityAreaMode interco with
  | .physicalAreaInsideAdqPatch => (sums.1 - problem.valeurDuFlux hour interco, sums.2)
  | .physicalAreaOutsideAdqPatch => (sums.1, sums.2 - min 0 (problem.valeurDuFlux hour interco))
  | .virtualArea => sums

def addFlowExtremite (hour : Nat) (sums : FlowSums) (interco : Nat) : FlowSums :=
  match problem.adequacyPatchRuntimeData.originAreaMode interco with
  | .physicalAreaInsideAdqPatch => (sums.1 + problem.valeurDuFlux hour interco, sums.2)
  | .physicalAreaOutsideAdqPatch => (sums.1, sums.2 + max 0 (problem.valeurDuFlux hour interco))
  | .virtualArea => sums

def areaFlows (area hour : Nat) : FlowSums :=
  (problem.network.intercosExtremite area).foldl (addFlowExtremite problem hour)
    ((problem.network.intercosOrigine area).foldl (addFlowOrigine problem hour) (0, 0))

/-- `netPositionInit`, `densNew` and the total node balance. -/
def calculateAreaFlowBalance (setNTCOutsideToInsideToZero : Bool) (area hour : Nat) :
    Rat × Rat × Rat :=
  let (netPositionInit, flowsNode1toNodeA) := areaFlows problem area hour
  let ensInit := (problem.resultatsHoraires area).valeursHorairesDeDefaillancePositive hour
  if setNTCOutsideToInsideToZero then
    (netPositionInit, max 0 (ensInit + netPositionInit), netPositionInit)
  else
    (netPositionInit, max 0 (ensInit + netPositionInit + flowsNode1toNodeA),
      netPositionInit + flowsNode1toNodeA)

end

end Antares.AdequacyPatch
