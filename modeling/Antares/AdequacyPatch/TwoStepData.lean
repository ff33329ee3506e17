import Antares.Optimisation.HydroIntervals
import Antares.Optimisation.ThermalHeuristic

/-! The two steps of the adequacy patch with local matching run the same preparation on one
weekly structure. What the second run reads is what the first run and the heuristic left there.
-/

set_option autoImplicit false

namespace Antares.AdequacyPatch

open Optimisation

structure WeekOptions where
  nombreDePays : Nat
  nombreDInterconnexions : Nat
  nombreDePaliersThermiques : Fin nombreDePays → Nat
  range : SimplexOptimization
  ucMode : UnitCommitmentMode
  expansion : Bool
  typeDeLissageHydraulique : TypeDeLissageHydraulique

structure CoutsDeTransport where
  intercoGereeAvecDesCouts : Bool
  coutDeTransportOrigineVersExtremite : Nat → Rat
  coutDeTransportOrigineVersExtremiteRef : Nat → Rat
  coutDeTransportExtremiteVersOrigine : Nat → Rat
  coutDeTransportExtremiteVersOrigineRef : Nat → Rat

variable (couts : CoutsDeTransport)

/-- The link part of `OPT_RestaurerLesDonnees`. -/
def CoutsDeTransport.restaurer : CoutsDeTransport :=
  if couts.intercoGereeAvecDesCouts then
    { couts with
      coutDeTransportOrigineVersExtremite := couts.coutDeTransportOrigineVersExtremiteRef
      coutDeTransportExtremiteVersOrigine := couts.coutDeTransportExtremiteVersOrigineRef }
  else couts

theorem CoutsDeTransport.restaurer_twice : couts.restaurer.restaurer = couts.restaurer := by
  unfold restaurer
  split_ifs <;> rfl

variable {options : WeekOptions}

/-- The arrays of `PROBLEME_HEBDO` that a call of the solver writes before it builds the
problem, with what they are computed from. -/
structure WeeklyData (options : WeekOptions) where
  caracteristiquesHydrauliques : Fin options.nombreDePays → EnergiesEtPuissancesHydrauliques
  paliersThermiques (pays : Fin options.nombreDePays) :
    Fin (options.nombreDePaliersThermiques pays) → PalierThermique
  coutDeTransport : Fin options.nombreDInterconnexions → CoutsDeTransport

/-- What the solver returns for the first optimisation of a step, cluster by cluster. -/
def Solution (options : WeekOptions) : Type :=
  (pays : Fin options.nombreDePays) → Fin (options.nombreDePaliersThermiques pays) →
    PalierThermique.Solution

namespace WeeklyData

/-- `OPT_PilotageOptimisationLineaire`, then `OPT_OptimisationLineaire` up to
`OPT_RestaurerLesDonnees`. Areas, clusters and links do not read one another here. -/
def preparer (week : WeeklyData options) : WeeklyData options where
  caracteristiquesHydrauliques := fun pays => (week.caracteristiquesHydrauliques pays).preparer options.range
  paliersThermiques := fun pays palier => (week.paliersThermiques pays palier).preparer options.ucMode
  coutDeTransport := fun interco => (week.coutDeTransport interco).restaurer

/-- The rest of a solved step: the solutions it stores are none of these arrays, the thermal
heuristic writes in those of the clusters. -/
def apresUnPas (week : WeeklyData options) (solution : Solution options) : WeeklyData options :=
  { week with
    paliersThermiques := fun pays palier =>
      (week.paliersThermiques pays palier).apresUnPas options.ucMode options.expansion
        (solution pays palier) }

/-- What the problem of a step is built from, apart from the link bounds, the bounds on
unsupplied energy and what no step ever writes. -/
structure SameData (first second : WeeklyData options) : Prop where
  hydro : ∀ pays, EnergiesEtPuissancesHydrauliques.SameData options.range options.typeDeLissageHydraulique
    (first.caracteristiquesHydrauliques pays) (second.caracteristiquesHydrauliques pays)
  paliers : ∀ pays palier,
    PalierThermique.SameData (first.paliersThermiques pays palier) (second.paliersThermiques pays palier)
  couts : second.coutDeTransport = first.coutDeTransport

end WeeklyData

/-- A week as its data are entered: hourly powers and available powers equal their references. -/
structure EnteredWeek (options : WeekOptions) extends WeeklyData options where
  hydro_entered : ∀ pays, (caracteristiquesHydrauliques pays).presenceDHydrauliqueModulable = true →
    (caracteristiquesHydrauliques pays).contrainteDePmaxHydrauliqueHoraire =
      (caracteristiquesHydrauliques pays).contrainteDePmaxHydrauliqueHoraireRef
  paliers_entered : ∀ pays palier, (paliersThermiques pays palier).Renseigne

namespace EnteredWeek

variable (week : EnteredWeek options) (solution : Solution options)

/-- The data of the first step of `AdequacyPatchOptimization::solve`. -/
def firstStepData : WeeklyData options := week.preparer

/-- The data of its second step. The loop in between fills `ValeursHorairesDENS`, which only
the bounds on unsupplied energy read. -/
def secondStepData : WeeklyData options := (week.firstStepData.apresUnPas solution).preparer

/-- The data survive the first step: in the week range nothing is summed into the first day
of any area, the greatest hydro power bounds a variation only if the cut keeps it, and the
fast heuristic finds no minimum power to raise. -/
structure DataSurvive : Prop where
  firstDay : options.range = .sorWeek → ∀ pays, (week.caracteristiquesHydrauliques pays).FirstDayOnly
  greatestPower : options.typeDeLissageHydraulique = .lissageHydrauliqueSurVariationMax → ∀ pays,
    (week.caracteristiquesHydrauliques pays).presenceDHydrauliqueModulable = true →
      (week.caracteristiquesHydrauliques pays).GreatestPowerKept
  pmin : options.ucMode = .ucHeuristicFast → options.expansion = false → ∀ pays palier,
    (week.paliersThermiques pays palier).PminKept (solution pays palier).productionThermique

theorem secondStep_sameData_iff :
    (week.firstStepData).SameData (week.secondStepData solution) ↔ week.DataSurvive solution := by
  have hydro (pays : Fin options.nombreDePays) :=
    EnergiesEtPuissancesHydrauliques.sameData_preparer_iff options.range
      options.typeDeLissageHydraulique (week.hydro_entered pays)
  have thermal (pays : Fin options.nombreDePays) (palier : Fin (options.nombreDePaliersThermiques pays)) :=
    PalierThermique.sameData_preparer_iff options.ucMode options.expansion (solution pays palier)
      (week.paliers_entered pays palier)
  constructor
  · intro same
    constructor
    · intro range pays
      exact ((hydro pays).mp (same.hydro pays)).1 range
    · intro lissage pays
      exact ((hydro pays).mp (same.hydro pays)).2 lissage
    · intro fast expansion pays palier
      exact (thermal pays palier).mp (same.paliers pays palier) fast expansion
  · intro survive
    constructor
    · intro pays
      exact (hydro pays).mpr ⟨fun range => survive.firstDay range pays,
        fun lissage => survive.greatestPower lissage pays⟩
    · intro pays palier
      exact (thermal pays palier).mpr fun fast expansion => survive.pmin fast expansion pays palier
    · funext interco
      exact (week.coutDeTransport interco).restaurer_twice

section Example

/-- One area whose hydro generation follows a daily target, optimised over the week. -/
def targetOptions : WeekOptions where
  nombreDePays := 1
  nombreDInterconnexions := 0
  nombreDePaliersThermiques := fun _ => 0
  range := .sorWeek
  ucMode := .ucHeuristicFast
  expansion := false
  typeDeLissageHydraulique := .pasDeLissageHydraulique

def targetHydro : EnergiesEtPuissancesHydrauliques where
  presenceDHydrauliqueModulable := true
  presenceDePompageModulable := false
  turbinageEntreBornes := false
  sansHeuristique := false
  coefficientEcretementPMaxHydraulique := 2
  cntEnergieH2OParIntervalleOptimise := fun _ => 24
  cntEnergieH2OParJour := fun _ => 0
  minEnergieHydrauParIntervalleOptimise := fun _ => 0
  maxEnergieHydrauParIntervalleOptimise := fun _ => 0
  maxEnergiePompageParIntervalleOptimise := fun _ => 0
  inflowForTimeInterval := fun _ => 24
  contrainteDePmaxHydrauliqueHoraire := fun _ => 10
  contrainteDePmaxHydrauliqueHoraireRef := fun _ => 10
  contrainteDePmaxPompageHoraire := fun _ => 0
  maxDesPmaxHydrauliques := 0

def targetWeek : EnteredWeek targetOptions where
  caracteristiquesHydrauliques := fun _ => targetHydro
  paliersThermiques := fun _ => Fin.elim0
  coutDeTransport := Fin.elim0
  hydro_entered := fun _ _ => rfl
  paliers_entered := fun _ palier => palier.elim0

def onlyArea : Fin targetOptions.nombreDePays := ⟨0, by decide⟩

def noCluster : Solution targetOptions := fun _ => Fin.elim0

/-- The second step asks for 312 MWh where the week had 168. -/
theorem targetWeek_sums_twice :
    (targetWeek.firstStepData.caracteristiquesHydrauliques onlyArea).cntEnergieH2OParIntervalleOptimise 0 =
      168 ∧
    ((targetWeek.secondStepData noCluster).caracteristiquesHydrauliques
      onlyArea).cntEnergieH2OParIntervalleOptimise 0 = 312 ∧
    ¬ targetWeek.firstStepData.SameData (targetWeek.secondStepData noCluster) := by
  have first : (targetWeek.firstStepData.caracteristiquesHydrauliques
      onlyArea).cntEnergieH2OParIntervalleOptimise 0 = 168 := by decide +kernel
  have second : ((targetWeek.secondStepData noCluster).caracteristiquesHydrauliques
      onlyArea).cntEnergieH2OParIntervalleOptimise 0 = 312 := by decide +kernel
  refine ⟨first, second, ?_⟩
  intro same
  have target := (same.hydro onlyArea).cible 0 (by decide)
  rw [first, second] at target
  norm_num at target

end Example

end EnteredWeek

end Antares.AdequacyPatch
