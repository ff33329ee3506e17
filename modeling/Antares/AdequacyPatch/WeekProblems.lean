import Antares.AdequacyPatch.RuntimeData
import Antares.Optimisation.HydroIntervals
import Antares.Optimisation.ThermalHeuristic
import Antares.Optimisation.WeeklyProblem

/-! The linear problems of a week of the adequacy patch with local matching: the bounds and
right-hand sides that each step and each optimisation give to the rows of the weekly problem.
-/

set_option autoImplicit false

namespace Antares.AdequacyPatch

open Optimisation Library

/-- `LocalMatching`, enabled. -/
structure LocalMatching where
  setToZeroOutsideInsideLinks : Bool
  setToZeroOutsideOutsideLinks : Bool

inductive NtcSetToZeroStatusAdqPatchStep1 where
  | leaveLocalValues
  | setToZero
  | setOriginExtremityToZero
  | setExtremityOriginToZero
  deriving DecidableEq, Repr

section Links

def setNTCForAdequacyFirstStepOriginNodeInsideAdq (extremity : AdequacyPatchMode) :
    NtcSetToZeroStatusAdqPatchStep1 :=
  match extremity with
  | .physicalAreaInsideAdqPatch | .physicalAreaOutsideAdqPatch => .setToZero
  | .virtualArea => .leaveLocalValues

variable (localMatching : LocalMatching)

def getNTCtoZeroStatusOriginNodeOutsideAdq (extremity : AdequacyPatchMode) :
    NtcSetToZeroStatusAdqPatchStep1 :=
  match extremity with
  | .physicalAreaInsideAdqPatch =>
    if localMatching.setToZeroOutsideInsideLinks then .setToZero else .setExtremityOriginToZero
  | .physicalAreaOutsideAdqPatch =>
    if localMatching.setToZeroOutsideOutsideLinks then .setToZero else .leaveLocalValues
  | .virtualArea => .leaveLocalValues

def getNTCtoZeroStatus (origin extremity : AdequacyPatchMode) :
    NtcSetToZeroStatusAdqPatchStep1 :=
  match origin with
  | .physicalAreaInsideAdqPatch => setNTCForAdequacyFirstStepOriginNodeInsideAdq extremity
  | .physicalAreaOutsideAdqPatch => getNTCtoZeroStatusOriginNodeOutsideAdq localMatching extremity
  | .virtualArea => .leaveLocalValues

/-- `setNTCbounds` from the two capacities of a link, which may be infinite. -/
def setNTCbounds (adequacyFirstStep : Bool) (status : NtcSetToZeroStatusAdqPatchStep1)
    (direct indirect : Option Rat) : Bounds Rat :=
  let default : Bounds Rat := { lower := indirect.map fun capacity => -capacity, upper := direct }
  if adequacyFirstStep then
    match status with
    | .setToZero => { lower := some 0, upper := some 0 }
    | .setOriginExtremityToZero => { default with upper := some 0 }
    | .setExtremityOriginToZero => { default with lower := some 0 }
    | .leaveLocalValues => default
  else default

end Links

inductive OptimizationNumber where
  | premiereOptimisation
  | deuxiemeOptimisation
  deriving DecidableEq, Repr

/-- What the weeks of a study share: its areas, how it is solved, and the day-ahead reserves. -/
structure WeekSettings where
  nombreDePays : Nat
  ucMode : UnitCommitmentMode
  expansion : Bool
  areaMode : Nat → AdequacyPatchMode
  reserveHoraireJMoins1 : Nat → Nat → Rat
  reserve_nonneg : ∀ pays pdtHebdo, 0 ≤ reserveHoraireJMoins1 pays pdtHebdo

namespace WeekSettings

variable (settings : WeekSettings)

def inside (pays : Nat) : Bool := settings.areaMode pays = .physicalAreaInsideAdqPatch

def zeroReserveJMoins1 : Rat := 1 / 100

/-- `YaDeLaReserveJmoins1` as `OPT_VerifierPresenceReserveJmoins1` leaves it. -/
def yaDeLaReserveJmoins1 : Bool :=
  (List.range settings.nombreDePays).any fun pays => (List.range nbHoursInWeek).any fun pdt =>
    zeroReserveJMoins1 < |settings.reserveHoraireJMoins1 pays pdt|

/-- Continuous unit commitment is optimised twice, but in the expansion mode. -/
def deuxOptimisations : Bool := !settings.expansion && !settings.ucMode.optimisationAvecVariablesEntieres

def reserveComptee (optimizationNumber : OptimizationNumber) (pays pdtHebdo : Nat) : Rat :=
  if settings.yaDeLaReserveJmoins1 && optimizationNumber = .premiereOptimisation then
    settings.reserveHoraireJMoins1 pays pdtHebdo
  else 0

/-- `VariablesEntieres`: the numbers of units, when they are to be whole. -/
def variablesEntieres : Variable → Bool
  | .numberOfDispatchableUnits _ _ | .numberStartingDispatchableUnits _ _
  | .numberStoppingDispatchableUnits _ _ | .numberBreakingDownDispatchableUnits _ _ =>
    settings.ucMode.optimisationAvecVariablesEntieres
  | _ => false

end WeekSettings

structure StockageHebdo where
  injectionNominalCapacity : Rat
  withdrawalNominalCapacity : Rat
  reservoirCapacity : Rat
  initialLevel : Rat
  initialLevelOptim : Bool
  maxInjectionModulation : Nat → Rat
  maxWithdrawalModulation : Nat → Rat
  lowerRuleCurve : Nat → Rat
  upperRuleCurve : Nat → Rat
  inflows : Nat → Rat

/-- The data of a week: areas and links by number, clusters and storages by their number among
all areas, then the hour of the week. -/
structure Week (settings : WeekSettings) where
  problem : WeeklyProblem
  nombreDePays_eq : problem.network.nombreDePays = settings.nombreDePays
  ucMode_eq : problem.ucMode = settings.ucMode
  localMatching : LocalMatching
  consommationAbattueDuPays : Nat → Nat → Rat
  allMustRunGenerationOfArea : Nat → Nat → Rat
  defaillanceNegativeUtiliserConsoAbattue : Nat → Bool
  defaillanceNegativeUtiliserPMinThermique : Nat → Bool
  valeurDeNTCOrigineVersExtremite : Nat → Nat → Option Rat
  valeurDeNTCExtremiteVersOrigine : Nat → Nat → Option Rat
  ntcDirect_nonneg : ∀ interco pdtHebdo, ∀ capacity ∈ valeurDeNTCOrigineVersExtremite interco pdtHebdo,
    0 ≤ capacity
  ntcIndirect_nonneg : ∀ interco pdtHebdo, ∀ capacity ∈ valeurDeNTCExtremiteVersOrigine interco pdtHebdo,
    0 ≤ capacity
  intercoGereeAvecLoopFlow : Nat → Bool
  valeurDeLoopFlowOrigineVersExtremite : Nat → Nat → Rat
  /-- The clusters as the data of the week leave them. -/
  paliers : Nat → PalierThermique
  paliers_renseignes : ∀ palier, (paliers palier).Renseigne
  /-- The energies and powers of the areas, before they are summed over intervals. -/
  hydrauliques : Nat → EnergiesEtPuissancesHydrauliques
  mingenHoraire : Nat → Nat → Rat
  apportNaturelHoraire : Nat → Nat → Rat
  niveauHoraireInf : Nat → Nat → Rat
  niveauHoraireSup : Nat → Nat → Rat
  niveauInitialReservoir : Nat → Rat
  tailleReservoir : Nat → Rat
  stockages : Nat → StockageHebdo
  secondMembreDeLaContrainteCouplante : Nat → Nat → Rat

structure Passage where
  adequacyFirstStep : Bool
  optimizationNumber : OptimizationNumber
  /-- The thermal data at that moment. -/
  paliers : Nat → PalierThermique
  /-- `ValeursHorairesDENS`, which the first step does not read. -/
  valeursHorairesDENS : Nat → Nat → Rat

namespace Week

variable {settings : WeekSettings} (week : Week settings)

def hydro (pays : Nat) : EnergiesEtPuissancesHydrauliques := (week.hydrauliques pays).preparer week.problem.range

section Bornes
variable (passage : Passage) (premierPdt : Nat)

/-- The residual load of an area with a small margin, all of which may be unsupplied. -/
def xmaxDeLaDefaillance (optimizationNumber : OptimizationNumber) (pays pdtHebdo : Nat) : Rat :=
  let residualLoadInArea := week.consommationAbattueDuPays pays pdtHebdo +
    settings.reserveComptee optimizationNumber pays pdtHebdo
  let maxAllMustRunGenerationOfArea :=
    if 0 < week.allMustRunGenerationOfArea pays pdtHebdo then week.allMustRunGenerationOfArea pays pdtHebdo else 0
  let residualLoadInArea := residualLoadInArea + maxAllMustRunGenerationOfArea
  if 0 ≤ residualLoadInArea then residualLoadInArea + 1 / 100000 else 0

/-- `setBoundsForUnsuppliedEnergy` -/
def bornesDeLaDefaillancePositive (pays pdtHebdo : Nat) : Bounds Rat :=
  let xmax := week.xmaxDeLaDefaillance passage.optimizationNumber pays pdtHebdo
  { lower := some 0
    upper := some <|
      if !passage.adequacyFirstStep && settings.inside pays then
        min xmax (passage.valeursHorairesDENS pays pdtHebdo)
      else xmax }

theorem bornesDeLaDefaillancePositive_contains {pays pdtHebdo : Nat} {value : Rat} :
    (week.bornesDeLaDefaillancePositive passage pays pdtHebdo).Contains value ↔
      0 ≤ value ∧ value ≤ week.xmaxDeLaDefaillance passage.optimizationNumber pays pdtHebdo ∧
        (passage.adequacyFirstStep = false → settings.inside pays = true →
          value ≤ passage.valeursHorairesDENS pays pdtHebdo) := by
  unfold bornesDeLaDefaillancePositive Bounds.Contains
  cases passage.adequacyFirstStep <;> cases settings.inside pays <;> simp [Option.mem_def]

variable (interco pdtHebdo : Nat)

def bornesDeLInterconnexion : Bounds Rat :=
  setNTCbounds passage.adequacyFirstStep
    (getNTCtoZeroStatus week.localMatching
      (settings.areaMode (week.problem.network.paysOrigineDeLInterconnexion interco))
      (settings.areaMode (week.problem.network.paysExtremiteDeLInterconnexion interco)))
    (week.valeurDeNTCOrigineVersExtremite interco pdtHebdo)
    (week.valeurDeNTCExtremiteVersOrigine interco pdtHebdo)

theorem bornesDeLInterconnexion_contains_zero :
    (week.bornesDeLInterconnexion passage interco pdtHebdo).Contains 0 := by
  have direct := week.ntcDirect_nonneg interco pdtHebdo
  have indirect : ∀ capacity ∈ (week.valeurDeNTCExtremiteVersOrigine interco pdtHebdo).map fun capacity => -capacity,
      capacity ≤ 0 := by
    intro capacity listed
    obtain ⟨given, present, rfl⟩ := Option.mem_map.mp listed
    exact neg_nonpos.mpr (week.ntcIndirect_nonneg interco pdtHebdo given present)
  have zero : ∀ capacity ∈ some (0 : Rat), 0 ≤ capacity ∧ capacity ≤ 0 := by simp
  unfold bornesDeLInterconnexion setNTCbounds
  generalize getNTCtoZeroStatus _ _ _ = status
  cases passage.adequacyFirstStep with
  | false => exact ⟨indirect, direct⟩
  | true =>
    cases status with
    | leaveLocalValues => exact ⟨indirect, direct⟩
    | setToZero => exact ⟨fun capacity listed => (zero capacity listed).2, fun capacity listed => (zero capacity listed).1⟩
    | setOriginExtremityToZero => exact ⟨indirect, fun capacity listed => (zero capacity listed).1⟩
    | setExtremityOriginToZero => exact ⟨fun capacity listed => (zero capacity listed).2, direct⟩

def loopFlow : Rat :=
  if week.intercoGereeAvecLoopFlow interco then week.valeurDeLoopFlowOrigineVersExtremite interco pdtHebdo else 0

/-- The units of a cluster that leave between two hours, when their greatest number drops. -/
def groupesPerdus (palier pdtHebdo : Nat) : Int :=
  let nombreMax := (passage.paliers palier).nombreMaxDeGroupesEnMarche
  let t1moins1 := if pdtHebdo = 0 then week.problem.pas - 1 else pdtHebdo - 1
  if 0 < nombreMax t1moins1 - nombreMax pdtHebdo then nombreMax t1moins1 - nombreMax pdtHebdo else 0

theorem groupesPerdus_nonneg (palier pdtHebdo : Nat) : 0 ≤ week.groupesPerdus passage palier pdtHebdo := by
  unfold groupesPerdus
  dsimp only
  generalize (if pdtHebdo = 0 then _ else _) = t1moins1
  split_ifs with lost
  · exact lost.le
  · exact le_rfl

def bornesDuNiveau (index pdtHebdo : Nat) : Bounds Rat :=
  let storage := week.stockages index
  if pdtHebdo = premierPdt + week.problem.pas - 1 ∧ !storage.initialLevelOptim then
    { lower := some (storage.reservoirCapacity * storage.initialLevel)
      upper := some (storage.reservoirCapacity * storage.initialLevel) }
  else
    { lower := some (storage.reservoirCapacity * storage.lowerRuleCurve pdtHebdo)
      upper := some (storage.reservoirCapacity * storage.upperRuleCurve pdtHebdo) }

/-- The variations of hydro generation: open above, or below the greatest power. -/
def bornesDeVariation (pays : Nat) : Bounds Rat :=
  match week.problem.typeDeLissageHydraulique with
  | .lissageHydrauliqueSurVariationMax =>
    { lower := some 0, upper := some (week.hydro pays).maxDesPmaxHydrauliques }
  | _ => { lower := some 0, upper := none }

/-- `OPT_InitialiserLesBornesDesVariablesDuProblemeLineaire`, with
`OPT_InitialiserLesBornesDesVariablesDuProblemeLineaireCoutsDeDemarrage`. -/
def bornes : Variable → Bounds Rat
  | .ntcDirect pdt interco => week.bornesDeLInterconnexion passage interco (premierPdt + pdt.toNat)
  | .intercoDirectCost pdt interco =>
    { lower := some 0
      upper := (week.valeurDeNTCOrigineVersExtremite interco (premierPdt + pdt.toNat)).map fun capacity =>
        capacity - week.loopFlow interco (premierPdt + pdt.toNat) + 1 / 100 }
  | .intercoIndirectCost pdt interco =>
    { lower := some 0
      upper := (week.valeurDeNTCExtremiteVersOrigine interco (premierPdt + pdt.toNat)).map fun capacity =>
        capacity + week.loopFlow interco (premierPdt + pdt.toNat) + 1 / 100 }
  | .dispatchableProduction pdt palier =>
    { lower := some ((passage.paliers palier).puissanceMin (premierPdt + pdt.toNat))
      upper := some ((passage.paliers palier).puissanceDisponible (premierPdt + pdt.toNat)) }
  | .shortTermStorageInjection pdt index =>
    { lower := some 0
      upper := some ((week.stockages index).injectionNominalCapacity *
        (week.stockages index).maxInjectionModulation (premierPdt + pdt.toNat)) }
  | .shortTermStorageWithdrawal pdt index =>
    { lower := some 0
      upper := some ((week.stockages index).withdrawalNominalCapacity *
        (week.stockages index).maxWithdrawalModulation (premierPdt + pdt.toNat)) }
  | .shortTermStorageLevel pdt index => week.bornesDuNiveau premierPdt index (premierPdt + pdt.toNat)
  | .positiveUnsuppliedEnergy pdt pays =>
    week.bornesDeLaDefaillancePositive passage pays (premierPdt + pdt.toNat)
  | .negativeUnsuppliedEnergy _ _ => { lower := some 0, upper := none }
  | .hydProd pdt pays =>
    { lower := some (week.mingenHoraire pays (premierPdt + pdt.toNat))
      upper := some ((week.hydro pays).contrainteDePmaxHydrauliqueHoraire (premierPdt + pdt.toNat)) }
  | .hydProdDown _ pays | .hydProdUp _ pays => week.bornesDeVariation pays
  | .pumping pdt pays =>
    { lower := some 0
      upper := some ((week.hydro pays).contrainteDePmaxPompageHoraire (premierPdt + pdt.toNat)) }
  | .hydroLevel pdt pays =>
    { lower := some (week.niveauHoraireInf pays (premierPdt + pdt.toNat))
      upper := some (week.niveauHoraireSup pays (premierPdt + pdt.toNat)) }
  | .overflow pdt pays =>
    { lower := some 0, upper := some (week.apportNaturelHoraire pays (premierPdt + pdt.toNat)) }
  | .finalStorage _ => { lower := none, upper := none }
  | .layerStorage pays _ =>
    { lower := some 0, upper := some (week.tailleReservoir pays / WeeklyProblem.nombreDeTranches) }
  | .numberOfDispatchableUnits pdt palier =>
    { lower := some ((passage.paliers palier).nombreMinDeGroupesEnMarche (premierPdt + pdt.toNat))
      upper := some ((passage.paliers palier).nombreMaxDeGroupesEnMarche (premierPdt + pdt.toNat)) }
  | .numberStartingDispatchableUnits _ _ | .numberStoppingDispatchableUnits _ _ =>
    { lower := some 0, upper := none }
  | .numberBreakingDownDispatchableUnits pdt palier =>
    { lower := some 0, upper := some (week.groupesPerdus passage palier (premierPdt + pdt.toNat)) }

end Bornes

section SecondMembre
variable (passage : Passage) (premierPdt : Nat)

variable (pays pdtHebdo : Nat)

/-- `OPT_SommeDesPminThermiques` -/
def sommeDesPminThermiques : Rat :=
  ((List.range (week.problem.nombreDePaliersThermiques pays)).map fun index =>
    (passage.paliers (week.problem.numeroDuPalier pays index)).puissanceMin pdtHebdo).sum

def secondMembreDeLaChargeFictive : Rat :=
  let consommation := week.consommationAbattueDuPays pays pdtHebdo
  let mustRun := week.allMustRunGenerationOfArea pays pdtHebdo
  let maxAllMustRunGeneration := if 0 < mustRun then mustRun else 0
  let maxMoinsConsommationBrute := if 0 < -(consommation + mustRun) then -(consommation + mustRun) else 0
  (if week.defaillanceNegativeUtiliserConsoAbattue pays then maxAllMustRunGeneration + maxMoinsConsommationBrute
    else 0) -
    if week.defaillanceNegativeUtiliserPMinThermique pays then 0
    else week.sommeDesPminThermiques passage pays pdtHebdo

def dureeMinimaleDArret (palier : Nat) : Nat :=
  let groupes := (List.range week.problem.network.nombreDePays).flatMap week.problem.groupesDuPays
  match groupes.find? fun couple => couple.2 = palier with
  | some couple => couple.1.dureeMinimaleDArret
  | none => 0

def heureCyclique (k : Int) : Nat := (if k < 0 then week.problem.pas + k else k).toNat

def secondMembreDeLaDureeMinDArret (palier pdtHebdo : Nat) : Rat :=
  let nombreMax := (passage.paliers palier).nombreMaxDeGroupesEnMarche
  let duree := week.dureeMinimaleDArret palier
  let depart := nombreMax (week.heureCyclique (pdtHebdo - duree))
  let ajouts := (week.problem.dernieresHeures pdtHebdo duree).map fun t1 =>
    let gain := nombreMax t1.toNat - nombreMax (week.heureCyclique (t1 - 1))
    if 0 < gain then gain else 0
  depart + ajouts.sum

/-- `OPT_InitialiserLeSecondMembreDuProblemeLineaire`, with
`OPT_InitialiserLeSecondMembreDuProblemeLineaireCoutsDeDemarrage`. -/
def secondMembre : Contrainte → Rat
  | .areaBalance pdt pays =>
    -week.consommationAbattueDuPays pays (premierPdt + pdt) -
      settings.reserveComptee passage.optimizationNumber pays (premierPdt + pdt)
  | .fictitiousLoad pdt pays => week.secondMembreDeLaChargeFictive passage pays (premierPdt + pdt)
  | .shortTermStorageLevel pdt index => (week.stockages index).inflows (premierPdt + pdt)
  | .flowDissociation pdt interco => week.loopFlow interco (premierPdt + pdt)
  | .bindingConstraintHour pdt cntCouplante =>
    week.secondMembreDeLaContrainteCouplante cntCouplante (premierPdt + pdt)
  | .bindingConstraintDay jour cntCouplante =>
    week.secondMembreDeLaContrainteCouplante cntCouplante (numeroDeJourDuPasDeTemps premierPdt + jour)
  | .bindingConstraintWeek cntCouplante => week.secondMembreDeLaContrainteCouplante cntCouplante 0
  | .hydroPower pays => (week.hydro pays).cntEnergieH2OParIntervalleOptimise (premierPdt / week.problem.pas)
  | .minHydroPower pays => (week.hydro pays).minEnergieHydrauParIntervalleOptimise (premierPdt / week.problem.pas)
  | .maxHydroPower pays => (week.hydro pays).maxEnergieHydrauParIntervalleOptimise (premierPdt / week.problem.pas)
  | .maxPumping pays => (week.hydro pays).maxEnergiePompageParIntervalleOptimise (premierPdt / week.problem.pas)
  | .areaHydroLevel pdt pays =>
    week.apportNaturelHoraire pays (premierPdt + pdt) +
      if premierPdt + pdt = 0 then week.niveauInitialReservoir pays else 0
  | .minDownTime pdt palier => week.secondMembreDeLaDureeMinDArret passage palier (premierPdt + pdt)
  | .hydroPowerSmoothingUsingVariationSum _ _ | .hydroPowerSmoothingUsingVariationMaxDown _ _
  | .hydroPowerSmoothingUsingVariationMaxUp _ _ | .finalStockEquivalent _ | .finalStockExpression _
  | .pMaxDispatchableGeneration _ _ | .pMinDispatchableGeneration _ _
  | .consistenceNumberOfDispatchableUnits _ _ | .nbUnitsOutageLessThanNbUnitsStop _ _
  | .nbDispUnitsMinBoundSinceMinUpTime _ _ => 0

end SecondMembre

def problemeDeLIntervalle (passage : Passage) (intervalle : Nat) :
    LinearProblem Variable Contrainte Rat where
  columns := week.problem.listeDesVariables
  bounds := week.bornes passage (intervalle * week.problem.pas)
  integral := settings.variablesEntieres
  rows := week.problem.construireLaMatriceDesContraintes.map fun ligne =>
    { label := ligne.contrainte, sense := ligne.sens, terms := ligne.termes }
  rhs := week.secondMembre passage (intervalle * week.problem.pas)

end Week

end Antares.AdequacyPatch
