import Antares.Library.Numbering
import Antares.Optimisation.Network

/-! What decides which variables and rows a weekly problem has, the numbering of its variables, and its rows in
the order in which `OPT_ConstruireLaMatriceDesContraintesDuProblemeLineaire` emits them. A term whose
variable has no number is left out, and a row left without terms is not emitted.
-/

set_option autoImplicit false

namespace Antares.Optimisation

open Library

structure ConfigurationHydraulique where
  presenceDHydrauliqueModulable : Bool
  presenceDePompageModulable : Bool
  turbinageEntreBornes : Bool
  suiviNiveauHoraire : Bool
  accurateWaterValue : Bool
  directLevelAccess : Bool
  pumpingRatio : Rat

structure GroupeThermique where
  pmaxDUnGroupe : Rat
  pminDUnGroupe : Rat
  dureeMinimaleDeMarche : Nat
  dureeMinimaleDArret : Nat

/-- Areas and links, and what each of them brings into the problem. Lists are by area. -/
structure WeeklyProblem where
  network : Network
  nomsDesPays : Nat → String
  range : SimplexOptimization
  ucMode : UnitCommitmentMode
  typeDeLissageHydraulique : TypeDeLissageHydraulique
  intercoGereeAvecDesCouts : Nat → Bool
  defaillanceNegativeUtiliserHydro : Nat → Bool
  caracteristiquesHydrauliques : Nat → ConfigurationHydraulique
  paliersThermiques : Nat → List GroupeThermique
  /-- The efficiencies of the short-term storages. -/
  shortTermStorage : Nat → List Rat
  contraintesCouplantes : List ContrainteCouplante

inductive Variable where
  | ntcDirect (pdt : Int) (interco : Nat)
  | intercoDirectCost (pdt : Int) (interco : Nat)
  | intercoIndirectCost (pdt : Int) (interco : Nat)
  | dispatchableProduction (pdt : Int) (palier : Nat)
  | shortTermStorageInjection (pdt : Int) (index : Nat)
  | shortTermStorageWithdrawal (pdt : Int) (index : Nat)
  | shortTermStorageLevel (pdt : Int) (index : Nat)
  | positiveUnsuppliedEnergy (pdt : Int) (pays : Nat)
  | negativeUnsuppliedEnergy (pdt : Int) (pays : Nat)
  | hydProd (pdt : Int) (pays : Nat)
  | hydProdDown (pdt : Int) (pays : Nat)
  | hydProdUp (pdt : Int) (pays : Nat)
  | pumping (pdt : Int) (pays : Nat)
  | hydroLevel (pdt : Int) (pays : Nat)
  | overflow (pdt : Int) (pays : Nat)
  | finalStorage (pays : Nat)
  | layerStorage (pays layer : Nat)
  | numberOfDispatchableUnits (pdt : Int) (palier : Nat)
  | numberStartingDispatchableUnits (pdt : Int) (palier : Nat)
  | numberStoppingDispatchableUnits (pdt : Int) (palier : Nat)
  | numberBreakingDownDispatchableUnits (pdt : Int) (palier : Nat)
  deriving DecidableEq, Repr

namespace WeeklyProblem

variable (problem : WeeklyProblem)

def pas : Nat := problem.range.nombreDePasDeTempsPourUneOptimisation

def nombreDePaliersThermiques (pays : Nat) : Nat := (problem.paliersThermiques pays).length

/-- `NumeroDuPalierDansLEnsembleDesPaliersThermiques`: the clusters of the areas before come
first. -/
def numeroDuPalier (pays index : Nat) : Nat :=
  blockStart problem.nombreDePaliersThermiques pays + index

/-- `clusterGlobalIndex` of a storage. -/
def clusterGlobalIndex (pays index : Nat) : Nat :=
  blockStart (fun autre => (problem.shortTermStorage autre).length) pays + index

/-- `NombreDeTranchesDeStock` -/
def nombreDeTranches : Nat := 100

section Variables

variable (pdt : Int)

def variablesDesLiens : List Variable :=
  (List.range problem.network.nombreDInterconnexions).flatMap fun interco =>
    .ntcDirect pdt interco ::
      if problem.intercoGereeAvecDesCouts interco then
        [.intercoDirectCost pdt interco, .intercoIndirectCost pdt interco]
      else []

variable (pays : Nat)

def variablesDuPays : List Variable :=
  ((List.range (problem.nombreDePaliersThermiques pays)).map fun index =>
      Variable.dispatchableProduction pdt (problem.numeroDuPalier pays index)) ++
    ((List.range (problem.shortTermStorage pays).length).flatMap fun index =>
      [Variable.shortTermStorageInjection pdt (problem.clusterGlobalIndex pays index),
        Variable.shortTermStorageWithdrawal pdt (problem.clusterGlobalIndex pays index),
        Variable.shortTermStorageLevel pdt (problem.clusterGlobalIndex pays index)]) ++
    [.positiveUnsuppliedEnergy pdt pays, .negativeUnsuppliedEnergy pdt pays]

/-- The variables of the variations of hydro generation: every hour, or once. -/
def variablesDeVariation : List Variable :=
  match problem.typeDeLissageHydraulique with
  | .lissageHydrauliqueSurSommeDesVariations =>
    if (problem.caracteristiquesHydrauliques pays).presenceDHydrauliqueModulable then
      [.hydProdDown pdt pays, .hydProdUp pdt pays]
    else []
  | .lissageHydrauliqueSurVariationMax =>
    if (problem.caracteristiquesHydrauliques pays).presenceDHydrauliqueModulable && pdt = 0 then
      [.hydProdDown pdt pays, .hydProdUp pdt pays]
    else []
  | .pasDeLissageHydraulique => []

def variablesHydrauliques : List Variable :=
  let hydro := problem.caracteristiquesHydrauliques pays
  (if hydro.presenceDHydrauliqueModulable then [.hydProd pdt pays] else []) ++
    problem.variablesDeVariation pdt pays ++
    (if hydro.presenceDePompageModulable then [.pumping pdt pays] else []) ++
    if hydro.suiviNiveauHoraire then [.hydroLevel pdt pays, .overflow pdt pays] else []

def variablesDuPasDeTemps : List Variable :=
  problem.variablesDesLiens pdt ++
    (List.range problem.network.nombreDePays).flatMap (problem.variablesDuPays pdt) ++
    (List.range problem.network.nombreDePays).flatMap (problem.variablesHydrauliques pdt)

def variablesDeStock : List Variable :=
  if (problem.caracteristiquesHydrauliques pays).accurateWaterValue then
    .finalStorage pays :: (List.range nombreDeTranches).map (.layerStorage pays)
  else []

/-- `OPT_ConstruireLaListeDesVariablesOptimiseesDuProblemeLineaireCoutsDeDemarrage` for an area. -/
def variablesDeDemarrage : List Variable :=
  (List.range (problem.nombreDePaliersThermiques pays)).flatMap fun index =>
    (List.range problem.pas).flatMap fun pdt : Nat =>
      let palier := problem.numeroDuPalier pays index
      [.numberOfDispatchableUnits pdt palier, .numberStartingDispatchableUnits pdt palier,
        .numberStoppingDispatchableUnits pdt palier, .numberBreakingDownDispatchableUnits pdt palier]

def listeDesVariables : List Variable :=
  ((List.range problem.pas).flatMap fun pdt : Nat => problem.variablesDuPasDeTemps pdt) ++
    (List.range problem.network.nombreDePays).flatMap problem.variablesDeStock ++
    if problem.ucMode.optimisationAvecCoutsDeDemarrage then
      (List.range problem.network.nombreDePays).flatMap problem.variablesDeDemarrage
    else []

/-- `NombreDeVariables` and the numbers once the variables are constructed. A number that is
not given stands for the -1 of the source. -/
def construireLaListeDesVariables : Numbering Variable := Numbering.empty.addAll problem.listeDesVariables

end Variables

end WeeklyProblem

inductive Famille where
  | liens
  | bilans
  | hydraulique
  | stocks
  | demarrages
  deriving DecidableEq

namespace Variable

def famille : Variable → Famille
  | .ntcDirect .. | .intercoDirectCost .. | .intercoIndirectCost .. => .liens
  | .dispatchableProduction .. | .shortTermStorageInjection .. | .shortTermStorageWithdrawal ..
  | .shortTermStorageLevel .. | .positiveUnsuppliedEnergy .. | .negativeUnsuppliedEnergy .. => .bilans
  | .hydProd .. | .hydProdDown .. | .hydProdUp .. | .pumping .. | .hydroLevel .. | .overflow .. => .hydraulique
  | .finalStorage .. | .layerStorage .. => .stocks
  | .numberOfDispatchableUnits .. | .numberStartingDispatchableUnits ..
  | .numberStoppingDispatchableUnits .. | .numberBreakingDownDispatchableUnits .. => .demarrages

def pasDeTemps : Variable → Option Int
  | .ntcDirect pdt _ | .intercoDirectCost pdt _ | .intercoIndirectCost pdt _
  | .dispatchableProduction pdt _ | .shortTermStorageInjection pdt _ | .shortTermStorageWithdrawal pdt _
  | .shortTermStorageLevel pdt _ | .positiveUnsuppliedEnergy pdt _ | .negativeUnsuppliedEnergy pdt _
  | .hydProd pdt _ | .hydProdDown pdt _ | .hydProdUp pdt _ | .pumping pdt _ | .hydroLevel pdt _
  | .overflow pdt _ | .numberOfDispatchableUnits pdt _ | .numberStartingDispatchableUnits pdt _
  | .numberStoppingDispatchableUnits pdt _ | .numberBreakingDownDispatchableUnits pdt _ => some pdt
  | .finalStorage _ | .layerStorage _ _ => none

/-- The index of a variable among those of its kind: a link, a cluster, a storage or an area. -/
def indice : Variable → Nat
  | .ntcDirect _ indice | .intercoDirectCost _ indice | .intercoIndirectCost _ indice
  | .dispatchableProduction _ indice | .shortTermStorageInjection _ indice
  | .shortTermStorageWithdrawal _ indice | .shortTermStorageLevel _ indice
  | .positiveUnsuppliedEnergy _ indice | .negativeUnsuppliedEnergy _ indice
  | .hydProd _ indice | .hydProdDown _ indice | .hydProdUp _ indice | .pumping _ indice
  | .hydroLevel _ indice | .overflow _ indice | .numberOfDispatchableUnits _ indice
  | .numberStartingDispatchableUnits _ indice | .numberStoppingDispatchableUnits _ indice
  | .numberBreakingDownDispatchableUnits _ indice | .finalStorage indice | .layerStorage indice _ => indice

end Variable

/-- What a row is for. Days and hours are those of the optimisation. -/
inductive Contrainte where
  | areaBalance (pdt pays : Nat)
  | fictitiousLoad (pdt pays : Nat)
  | shortTermStorageLevel (pdt index : Nat)
  | flowDissociation (pdt interco : Nat)
  | bindingConstraintHour (pdt cntCouplante : Nat)
  | bindingConstraintDay (jour cntCouplante : Nat)
  | bindingConstraintWeek (cntCouplante : Nat)
  | hydroPower (pays : Nat)
  | hydroPowerSmoothingUsingVariationSum (pdt pays : Nat)
  | hydroPowerSmoothingUsingVariationMaxDown (pdt pays : Nat)
  | hydroPowerSmoothingUsingVariationMaxUp (pdt pays : Nat)
  | minHydroPower (pays : Nat)
  | maxHydroPower (pays : Nat)
  | maxPumping (pays : Nat)
  | areaHydroLevel (pdt pays : Nat)
  | finalStockEquivalent (pays : Nat)
  | finalStockExpression (pays : Nat)
  | pMaxDispatchableGeneration (pdt palier : Nat)
  | pMinDispatchableGeneration (pdt palier : Nat)
  | consistenceNumberOfDispatchableUnits (pdt palier : Nat)
  | nbUnitsOutageLessThanNbUnitsStop (pdt palier : Nat)
  | nbDispUnitsMinBoundSinceMinUpTime (pdt palier : Nat)
  | minDownTime (pdt palier : Nat)
  deriving DecidableEq, Repr

/-- The sense of each kind of row. Binding constraints have their own. -/
def Contrainte.sensDuGenre : Contrainte → Option Sense
  | .areaBalance .. | .shortTermStorageLevel .. | .flowDissociation .. | .hydroPower ..
  | .hydroPowerSmoothingUsingVariationSum .. | .areaHydroLevel .. | .finalStockEquivalent ..
  | .finalStockExpression .. | .consistenceNumberOfDispatchableUnits .. => some .eq
  | .fictitiousLoad .. | .hydroPowerSmoothingUsingVariationMaxDown .. | .maxHydroPower .. | .maxPumping ..
  | .pMaxDispatchableGeneration .. | .nbUnitsOutageLessThanNbUnitsStop .. | .minDownTime .. => some .le
  | .hydroPowerSmoothingUsingVariationMaxUp .. | .minHydroPower .. | .pMinDispatchableGeneration ..
  | .nbDispUnitsMinBoundSinceMinUpTime .. => some .ge
  | .bindingConstraintHour .. | .bindingConstraintDay .. | .bindingConstraintWeek .. => none

def Contrainte.palierDesGroupes : Contrainte → Option Nat
  | .consistenceNumberOfDispatchableUnits _ palier | .nbUnitsOutageLessThanNbUnitsStop _ palier
  | .nbDispUnitsMinBoundSinceMinUpTime _ palier | .minDownTime _ palier => some palier
  | _ => none

structure Ligne where
  contrainte : Contrainte
  sens : Sense
  termes : Terms Variable Rat

def Ligne.SensDuGenre (ligne : Ligne) : Prop := ∀ sens ∈ ligne.contrainte.sensDuGenre, ligne.sens = sens

structure ConstraintBuilder where
  termes : Terms Variable Rat
  lignes : List Ligne

namespace WeeklyProblem

variable (problem : WeeklyProblem)

/-- `AddVariable` on each term. -/
def addVariables (termes : Terms Variable Rat) : Terms Variable Rat :=
  termes.filter fun terme => (problem.construireLaListeDesVariables.numero terme.1).isSome

def build (contrainte : Contrainte) (sens : Sense) (termes : Terms Variable Rat) : List Ligne :=
  let gardes := problem.addVariables termes
  if gardes.isEmpty then [] else [{ contrainte, sens, termes := gardes }]

section Bilans

def exportPaliers (pdt : Int) (pays : Nat) : Terms Variable Rat :=
  (List.range (problem.nombreDePaliersThermiques pays)).map fun index =>
    (.dispatchableProduction pdt (problem.numeroDuPalier pays index), -1)

def shortTermStorageBalance (pdt : Int) (pays : Nat) : Terms Variable Rat :=
  (List.range (problem.shortTermStorage pays).length).flatMap fun index =>
    [(.shortTermStorageInjection pdt (problem.clusterGlobalIndex pays index), 1),
      (.shortTermStorageWithdrawal pdt (problem.clusterGlobalIndex pays index), -1)]

def areaBalance (pdt pays : Nat) : List Ligne :=
  problem.build (.areaBalance pdt pays) .eq
    (((problem.network.intercosOrigine pays).map fun interco => (Variable.ntcDirect pdt interco, 1)) ++
      ((problem.network.intercosExtremite pays).map fun interco => (Variable.ntcDirect pdt interco, -1)) ++
      problem.exportPaliers pdt pays ++
      [(.hydProd pdt pays, -1), (.pumping pdt pays, 1), (.positiveUnsuppliedEnergy pdt pays, -1),
        (.negativeUnsuppliedEnergy pdt pays, 1)] ++
      problem.shortTermStorageBalance pdt pays)

def fictitiousLoad (pdt pays : Nat) : List Ligne :=
  problem.build (.fictitiousLoad pdt pays) .le
    (problem.exportPaliers pdt pays ++
      [(.hydProd pdt pays, if problem.defaillanceNegativeUtiliserHydro pays then -1 else 0),
        (.negativeUnsuppliedEnergy pdt pays, 1)])

/-- The level of the hour before comes from the end of the optimisation at the first hour. -/
def shortTermStorageLevel (pdt pays : Nat) : List Ligne :=
  (problem.shortTermStorage pays).zipIdx.flatMap fun (efficiency, rang) =>
    let index := problem.clusterGlobalIndex pays rang
    problem.build (.shortTermStorageLevel pdt index) .eq
      [(.shortTermStorageLevel pdt index, 1),
        (.shortTermStorageLevel (getShiftedTimeStep problem.pas pdt (-1) problem.pas) index, -1),
        (.shortTermStorageInjection pdt index, -efficiency), (.shortTermStorageWithdrawal pdt index, 1)]

def flowDissociation (pdt interco : Nat) : List Ligne :=
  if problem.intercoGereeAvecDesCouts interco then
    problem.build (.flowDissociation pdt interco) .eq
      [(.ntcDirect pdt interco, 1), (.intercoDirectCost pdt interco, -1),
        (.intercoIndirectCost pdt interco, 1)]
  else []

end Bilans

section Couplages

/-- The terms of a binding constraint over the hours that it adds up. -/
def termesDesHeures (contrainte : ContrainteCouplante) (heures : List Nat) : Terms Variable Rat :=
  (contrainte.interconnexions.flatMap fun terme => heures.map fun pdt =>
      (.ntcDirect (getShiftedTimeStep problem.pas pdt terme.offsetTemporel nbHoursInWeek)
        terme.numeroDeLInterconnexion, terme.poids)) ++
    contrainte.paliers.flatMap fun terme => heures.map fun pdt =>
      (.dispatchableProduction (getShiftedTimeStep problem.pas pdt terme.offsetTemporel nbHoursInWeek)
        (problem.numeroDuPalier terme.pays terme.numeroDuPalierDispatch), terme.poids)

def bindingConstraintHour (pdt : Nat) (contrainte : ContrainteCouplante) (cntCouplante : Nat) : List Ligne :=
  if contrainte.typeDeContrainteCouplante = .horaire then
    problem.build (.bindingConstraintHour pdt cntCouplante) contrainte.sens
      (problem.termesDesHeures contrainte [pdt])
  else []

/-- The values of `pdtDebut`. -/
def debutsDesJours : List Nat :=
  (List.range problem.range.nombreDeJoursParIntervalle).map (· * nombreDePasDeTempsDUneJournee)

def bindingConstraintDay (contrainte : ContrainteCouplante) (cntCouplante : Nat) : List Ligne :=
  if contrainte.typeDeContrainteCouplante = .journaliere then
    problem.debutsDesJours.flatMap fun pdtDebut =>
      problem.build (.bindingConstraintDay (numeroDeJourDuPasDeTemps pdtDebut) cntCouplante) contrainte.sens
        (problem.termesDesHeures contrainte (List.range' pdtDebut nombreDePasDeTempsDUneJournee))
  else []

def bindingConstraintWeek (contrainte : ContrainteCouplante) (cntCouplante : Nat) : List Ligne :=
  if contrainte.typeDeContrainteCouplante = .hebdomadaire then
    problem.build (.bindingConstraintWeek cntCouplante) contrainte.sens
      (problem.termesDesHeures contrainte (List.range problem.pas))
  else []

end Couplages

section Hydraulique

def hydroPower (pays : Nat) : List Ligne :=
  let hydro := problem.caracteristiquesHydrauliques pays
  if hydro.presenceDHydrauliqueModulable && !hydro.turbinageEntreBornes then
    problem.build (.hydroPower pays) .eq <|
      if hydro.presenceDePompageModulable then
        (List.range problem.pas).flatMap fun pdt : Nat =>
          [(.hydProd pdt pays, 1), (.pumping pdt pays, -hydro.pumpingRatio)]
      else (List.range problem.pas).map fun pdt : Nat => (.hydProd pdt pays, 1)
  else []

def hydroPowerSmoothingUsingVariationSum (pays : Nat) : List Ligne :=
  if (problem.caracteristiquesHydrauliques pays).presenceDHydrauliqueModulable then
    (List.range problem.pas).flatMap fun pdt =>
      let pdt1 := if problem.pas ≤ pdt + 1 then 0 else pdt + 1
      problem.build (.hydroPowerSmoothingUsingVariationSum pdt pays) .eq
        [(.hydProd pdt pays, 1), (.hydProd pdt1 pays, -1), (.hydProdDown pdt pays, -1),
          (.hydProdUp pdt pays, 1)]
  else []

def hydroPowerSmoothingUsingVariationMaxDown (pays pdt : Nat) : List Ligne :=
  if (problem.caracteristiquesHydrauliques pays).presenceDHydrauliqueModulable then
    problem.build (.hydroPowerSmoothingUsingVariationMaxDown pdt pays) .le
      [(.hydProd pdt pays, 1), (.hydProdDown 0 pays, -1)]
  else []

def hydroPowerSmoothingUsingVariationMaxUp (pays pdt : Nat) : List Ligne :=
  if (problem.caracteristiquesHydrauliques pays).presenceDHydrauliqueModulable then
    problem.build (.hydroPowerSmoothingUsingVariationMaxUp pdt pays) .ge
      [(.hydProd pdt pays, 1), (.hydProdUp 0 pays, -1)]
  else []

def lignesDeLissage (pays : Nat) : List Ligne :=
  match problem.typeDeLissageHydraulique with
  | .lissageHydrauliqueSurSommeDesVariations => problem.hydroPowerSmoothingUsingVariationSum pays
  | .lissageHydrauliqueSurVariationMax =>
    (List.range problem.pas).flatMap fun pdt =>
      problem.hydroPowerSmoothingUsingVariationMaxDown pays pdt ++
        problem.hydroPowerSmoothingUsingVariationMaxUp pays pdt
  | .pasDeLissageHydraulique => []

/-- The energy of an area over the optimisation is bounded by two rows. -/
def energieEntreBornes (pays : Nat) : Bool :=
  let hydro := problem.caracteristiquesHydrauliques pays
  hydro.presenceDHydrauliqueModulable && (hydro.turbinageEntreBornes || hydro.presenceDePompageModulable)

def minHydroPower (pays : Nat) : List Ligne :=
  if problem.energieEntreBornes pays then
    problem.build (.minHydroPower pays) .ge
      ((List.range problem.pas).map fun pdt : Nat => (.hydProd pdt pays, 1))
  else []

def maxHydroPower (pays : Nat) : List Ligne :=
  if problem.energieEntreBornes pays then
    problem.build (.maxHydroPower pays) .le
      ((List.range problem.pas).map fun pdt : Nat => (.hydProd pdt pays, 1))
  else []

def maxPumping (pays : Nat) : List Ligne :=
  if (problem.caracteristiquesHydrauliques pays).presenceDePompageModulable then
    problem.build (.maxPumping pays) .le
      ((List.range problem.pas).map fun pdt : Nat => (.pumping pdt pays, 1))
  else []

def areaHydroLevel (pays pdt : Nat) : List Ligne :=
  let hydro := problem.caracteristiquesHydrauliques pays
  if hydro.suiviNiveauHoraire then
    problem.build (.areaHydroLevel pdt pays) .eq
      ((Variable.hydroLevel pdt pays, 1) ::
        (if 0 < pdt then [(Variable.hydroLevel (pdt - 1 : Int) pays, -1)] else []) ++
        [(.hydProd pdt pays, 1), (.pumping pdt pays, -hydro.pumpingRatio), (.overflow pdt pays, 1)])
  else []

def finalStockEquivalent (pays : Nat) : List Ligne :=
  let hydro := problem.caracteristiquesHydrauliques pays
  if hydro.accurateWaterValue && hydro.directLevelAccess then
    problem.build (.finalStockEquivalent pays) .eq
      [(.finalStorage pays, 1), (.hydroLevel (problem.pas - 1 : Int) pays, -1)]
  else []

def finalStockExpression (pays : Nat) : List Ligne :=
  if (problem.caracteristiquesHydrauliques pays).accurateWaterValue then
    problem.build (.finalStockExpression pays) .eq
      ((.finalStorage pays, -1) :: (List.range nombreDeTranches).map fun layer => (.layerStorage pays layer, 1))
  else []

end Hydraulique

section Demarrages

def pMaxDispatchableGeneration (groupe : GroupeThermique) (palier pdt : Nat) : List Ligne :=
  problem.build (.pMaxDispatchableGeneration pdt palier) .le
    [(.dispatchableProduction pdt palier, 1), (.numberOfDispatchableUnits pdt palier, -groupe.pmaxDUnGroupe)]

def pMinDispatchableGeneration (groupe : GroupeThermique) (palier pdt : Nat) : List Ligne :=
  problem.build (.pMinDispatchableGeneration pdt palier) .ge
    [(.dispatchableProduction pdt palier, 1), (.numberOfDispatchableUnits pdt palier, -groupe.pminDUnGroupe)]

def consistenceNumberOfDispatchableUnits (palier pdt : Nat) : List Ligne :=
  let pdtmoins1 : Int := if (pdt : Int) - 1 < 0 then problem.pas + ((pdt : Int) - 1) else (pdt : Int) - 1
  problem.build (.consistenceNumberOfDispatchableUnits pdt palier) .eq
    [(.numberOfDispatchableUnits pdt palier, 1), (.numberOfDispatchableUnits pdtmoins1 palier, -1),
      (.numberStartingDispatchableUnits pdt palier, -1), (.numberStoppingDispatchableUnits pdt palier, 1)]

def nbUnitsOutageLessThanNbUnitsStop (palier pdt : Nat) : List Ligne :=
  problem.build (.nbUnitsOutageLessThanNbUnitsStop pdt palier) .le
    [(.numberBreakingDownDispatchableUnits pdt palier, 1), (.numberStoppingDispatchableUnits pdt palier, -1)]

/-- The hours `t1` of a loop over the last hours of a duration. -/
def dernieresHeures (pdt duree : Nat) : List Int :=
  (List.range duree).map fun rang : Nat =>
    let k : Int := (pdt : Int) - duree + 1 + rang
    if k < 0 then problem.pas + k else k

/-- A row that is emitted only with several terms. Otherwise its terms stay in the builder,
which goes on to the next row. -/
def buildIfSeveral (contrainte : Contrainte) (sens : Sense) (termes : Terms Variable Rat)
    (builder : ConstraintBuilder) : ConstraintBuilder :=
  let presents := builder.termes ++ problem.addVariables termes
  if 1 < presents.length then
    { termes := [], lignes := builder.lignes ++ [{ contrainte, sens, termes := presents }] }
  else { builder with termes := presents }

def nbDispUnitsMinBoundSinceMinUpTime (groupe : GroupeThermique) (palier pdt : Nat)
    (builder : ConstraintBuilder) : ConstraintBuilder :=
  problem.buildIfSeveral (.nbDispUnitsMinBoundSinceMinUpTime pdt palier) .ge
    ((.numberOfDispatchableUnits pdt palier, 1) ::
      (problem.dernieresHeures pdt groupe.dureeMinimaleDeMarche).flatMap fun t1 =>
        [(.numberStartingDispatchableUnits t1 palier, -1), (.numberBreakingDownDispatchableUnits t1 palier, 1)])
    builder

def minDownTime (groupe : GroupeThermique) (palier pdt : Nat) (builder : ConstraintBuilder) :
    ConstraintBuilder :=
  problem.buildIfSeveral (.minDownTime pdt palier) .le
    ((.numberOfDispatchableUnits pdt palier, 1) ::
      (problem.dernieresHeures pdt groupe.dureeMinimaleDArret).map fun t1 =>
        (.numberStoppingDispatchableUnits t1 palier, 1))
    builder

def groupesDuPays (pays : Nat) : List (GroupeThermique × Nat) :=
  (problem.paliersThermiques pays).zipIdx.map fun (groupe, index) => (groupe, problem.numeroDuPalier pays index)

def parGroupeEtHeure (pays : Nat) (ligne : GroupeThermique → Nat → Nat → List Ligne) : List Ligne :=
  (problem.groupesDuPays pays).flatMap fun (groupe, palier) =>
    (List.range problem.pas).flatMap (ligne groupe palier)

def parGroupeEtHeureAvec (groupes : List (GroupeThermique × Nat))
    (ligne : GroupeThermique → Nat → Nat → ConstraintBuilder → ConstraintBuilder) : List Ligne :=
  (groupes.foldl (fun builder (groupe, palier) =>
    (List.range problem.pas).foldl (fun builder pdt => ligne groupe palier pdt builder) builder)
    { termes := [], lignes := [] }).lignes

/-- `OPT_ConstruireLaMatriceDesContraintesDuProblemeLineaireCoutsDeDemarrage` -/
def lignesDeDemarrage : List Ligne :=
  let pays := List.range problem.network.nombreDePays
  (pays.flatMap fun pays => problem.parGroupeEtHeure pays fun groupe palier pdt =>
      problem.pMaxDispatchableGeneration groupe palier pdt ++
        problem.pMinDispatchableGeneration groupe palier pdt) ++
    (pays.flatMap fun pays => problem.parGroupeEtHeure pays fun _ =>
      problem.consistenceNumberOfDispatchableUnits) ++
    (pays.flatMap fun pays => problem.parGroupeEtHeure pays fun _ =>
      problem.nbUnitsOutageLessThanNbUnitsStop) ++
    (pays.flatMap fun pays => problem.parGroupeEtHeureAvec
      -- the clusters without a minimum up time are skipped
      ((problem.groupesDuPays pays).filter fun (groupe, _) => 0 < groupe.dureeMinimaleDeMarche)
      problem.nbDispUnitsMinBoundSinceMinUpTime) ++
    pays.flatMap fun pays =>
      problem.parGroupeEtHeureAvec (problem.groupesDuPays pays) problem.minDownTime

end Demarrages

def lignesDuPasDeTemps (pdt : Nat) : List Ligne :=
  ((List.range problem.network.nombreDePays).flatMap fun pays =>
      problem.areaBalance pdt pays ++ problem.fictitiousLoad pdt pays ++
        problem.shortTermStorageLevel pdt pays) ++
    (List.range problem.network.nombreDInterconnexions).flatMap (problem.flowDissociation pdt) ++
    problem.contraintesCouplantes.zipIdx.flatMap fun couplage =>
      problem.bindingConstraintHour pdt couplage.1 couplage.2

def lignesDeLaPeriode : List Ligne :=
  let pays := List.range problem.network.nombreDePays
  (problem.contraintesCouplantes.zipIdx.flatMap fun couplage =>
      problem.bindingConstraintDay couplage.1 couplage.2) ++
    (if nombreDePasDeTempsDUneJournee < problem.pas then
      problem.contraintesCouplantes.zipIdx.flatMap fun couplage =>
        problem.bindingConstraintWeek couplage.1 couplage.2
    else []) ++
    pays.flatMap problem.hydroPower ++
    pays.flatMap problem.lignesDeLissage ++
    (pays.flatMap fun pays => problem.minHydroPower pays ++ problem.maxHydroPower pays) ++
    pays.flatMap problem.maxPumping ++
    ((List.range problem.pas).flatMap fun pdt => pays.flatMap fun pays => problem.areaHydroLevel pays pdt) ++
    pays.flatMap fun pays => problem.finalStockEquivalent pays ++ problem.finalStockExpression pays

def construireLaMatriceDesContraintes : List Ligne :=
  (List.range problem.pas).flatMap problem.lignesDuPasDeTemps ++ problem.lignesDeLaPeriode ++
    if problem.ucMode.optimisationAvecCoutsDeDemarrage then problem.lignesDeDemarrage else []

section Emises

theorem mem_build {contrainte : Contrainte} {sens : Sense} {termes : Terms Variable Rat} {ligne : Ligne}
    (listed : ligne ∈ problem.build contrainte sens termes) :
    ligne.contrainte = contrainte ∧ ligne.sens = sens ∧ ligne.termes = problem.addVariables termes := by
  unfold build at listed
  dsimp only at listed
  split_ifs at listed
  · cases listed
  · obtain rfl := List.mem_singleton.mp listed
    exact ⟨rfl, rfl, rfl⟩

theorem forall_mem_ite {P : Ligne → Prop} {condition : Prop} [Decidable condition] {lignes : List Ligne}
    (each : condition → ∀ ligne ∈ lignes, P ligne) : ∀ ligne ∈ (if condition then lignes else []), P ligne := by
  split_ifs with present
  · exact each present
  · exact List.forall_mem_nil P

theorem parGroupeEtHeureAvec_invariant {Inv : ConstraintBuilder → Prop} {groupes : List (GroupeThermique × Nat)}
    {emettre : GroupeThermique → Nat → Nat → ConstraintBuilder → ConstraintBuilder}
    (start : Inv { termes := [], lignes := [] })
    (kept : ∀ couple ∈ groupes, ∀ pdt < problem.pas, ∀ builder, Inv builder →
      Inv (emettre couple.1 couple.2 pdt builder)) :
    ∃ builder, Inv builder ∧ problem.parGroupeEtHeureAvec groupes emettre = builder.lignes := by
  refine ⟨_, ?_, rfl⟩
  apply List.foldlRecOn groupes _ start
  intro builder holds couple listed
  apply List.foldlRecOn (List.range problem.pas) _ holds
  intro builder holds pdt inRange
  exact kept couple listed pdt (List.mem_range.mp inRange) builder holds

theorem parGroupeEtHeureAvec_forall {P : Ligne → Prop} {groupes : List (GroupeThermique × Nat)}
    {emettre : GroupeThermique → Nat → Nat → ConstraintBuilder → ConstraintBuilder}
    (kept : ∀ groupe palier pdt builder, (∀ ligne ∈ builder.lignes, P ligne) →
      ∀ ligne ∈ (emettre groupe palier pdt builder).lignes, P ligne) :
    ∀ ligne ∈ problem.parGroupeEtHeureAvec groupes emettre, P ligne := by
  obtain ⟨builder, holds, same⟩ := problem.parGroupeEtHeureAvec_invariant
    (List.forall_mem_nil P) fun couple (_ : couple ∈ groupes) pdt _ builder => kept couple.1 couple.2 pdt builder
  rw [same]
  exact holds

end Emises

section Sens

variable {contrainte : Contrainte}

theorem build_sensDuGenre {sens : Sense} {termes : Terms Variable Rat}
    (genre : ∀ autre ∈ contrainte.sensDuGenre, sens = autre) :
    ∀ ligne ∈ problem.build contrainte sens termes, ligne.SensDuGenre := by
  intro ligne listed
  obtain ⟨rfl, rfl, -⟩ := problem.mem_build listed
  exact genre

theorem buildIfSeveral_sensDuGenre {sens : Sense} {termes : Terms Variable Rat}
    {builder : ConstraintBuilder} (genre : ∀ autre ∈ contrainte.sensDuGenre, sens = autre)
    (before : ∀ ligne ∈ builder.lignes, ligne.SensDuGenre) :
    ∀ ligne ∈ (problem.buildIfSeveral contrainte sens termes builder).lignes, ligne.SensDuGenre := by
  unfold buildIfSeveral
  dsimp only
  split_ifs
  · intro ligne listed
    rcases List.mem_append.mp listed with old | new
    · exact before ligne old
    · obtain rfl := List.mem_singleton.mp new
      exact genre
  · exact before

theorem lignesDeDemarrage_sensDuGenre : ∀ ligne ∈ problem.lignesDeDemarrage, ligne.SensDuGenre := by
  unfold lignesDeDemarrage parGroupeEtHeure
  simp only [List.forall_mem_append, List.forall_mem_flatMap]
  refine ⟨⟨⟨⟨?_, ?_⟩, ?_⟩, ?_⟩, ?_⟩
  · intro pays _ couple _ pdt _
    exact ⟨problem.build_sensDuGenre fun _ same => Option.some.inj same,
      problem.build_sensDuGenre fun _ same => Option.some.inj same⟩
  · intro pays _ couple _ pdt _
    exact problem.build_sensDuGenre fun _ same => Option.some.inj same
  · intro pays _ couple _ pdt _
    exact problem.build_sensDuGenre fun _ same => Option.some.inj same
  · intro pays _
    exact problem.parGroupeEtHeureAvec_forall fun _ _ _ _ before =>
      problem.buildIfSeveral_sensDuGenre (fun _ same => Option.some.inj same) before
  · intro pays _
    exact problem.parGroupeEtHeureAvec_forall fun _ _ _ _ before =>
      problem.buildIfSeveral_sensDuGenre (fun _ same => Option.some.inj same) before

section
variable {P : Ligne → Prop}
  (built : ∀ contrainte sens termes, contrainte.palierDesGroupes = none →
    (∀ autre ∈ contrainte.sensDuGenre, sens = autre) → ∀ ligne ∈ problem.build contrainte sens termes, P ligne)

include built

theorem lignesDuPasDeTemps_forall (pdt : Nat) : ∀ ligne ∈ problem.lignesDuPasDeTemps pdt, P ligne := by
  unfold lignesDuPasDeTemps shortTermStorageLevel flowDissociation bindingConstraintHour
  simp only [List.forall_mem_append, List.forall_mem_flatMap]
  refine ⟨⟨?_, ?_⟩, ?_⟩
  · intro pays _
    refine ⟨⟨built _ _ _ rfl fun _ same => Option.some.inj same, built _ _ _ rfl fun _ same => Option.some.inj same⟩, ?_⟩
    intro storage _
    exact built _ _ _ rfl fun _ same => Option.some.inj same
  · intro interco _
    exact forall_mem_ite fun _ => built _ _ _ rfl fun _ same => Option.some.inj same
  · intro couplage _
    exact forall_mem_ite fun _ => built _ _ _ rfl nofun

theorem lignesDeLissage_forall (pays : Nat) : ∀ ligne ∈ problem.lignesDeLissage pays, P ligne := by
  unfold lignesDeLissage hydroPowerSmoothingUsingVariationSum hydroPowerSmoothingUsingVariationMaxDown
    hydroPowerSmoothingUsingVariationMaxUp
  cases problem.typeDeLissageHydraulique with
  | pasDeLissageHydraulique => exact List.forall_mem_nil _
  | lissageHydrauliqueSurSommeDesVariations =>
    apply forall_mem_ite
    simp only [List.forall_mem_flatMap]
    intro _ pdt _
    exact built _ _ _ rfl fun _ same => Option.some.inj same
  | lissageHydrauliqueSurVariationMax =>
    simp only [List.forall_mem_append, List.forall_mem_flatMap]
    intro pdt _
    exact ⟨forall_mem_ite fun _ => built _ _ _ rfl fun _ same => Option.some.inj same,
      forall_mem_ite fun _ => built _ _ _ rfl fun _ same => Option.some.inj same⟩

theorem lignesDeLaPeriode_forall : ∀ ligne ∈ problem.lignesDeLaPeriode, P ligne := by
  have lissage := problem.lignesDeLissage_forall built
  unfold lignesDeLaPeriode bindingConstraintDay bindingConstraintWeek hydroPower minHydroPower maxHydroPower
    maxPumping areaHydroLevel finalStockEquivalent finalStockExpression
  have fixed {condition : Prop} [Decidable condition] {contrainte : Contrainte} {sens : Sense}
      {termes : Terms Variable Rat} (kind : contrainte.palierDesGroupes = none)
      (genre : ∀ autre ∈ contrainte.sensDuGenre, sens = autre) :
      ∀ ligne ∈ (if condition then problem.build contrainte sens termes else []), P ligne :=
    forall_mem_ite fun _ => built _ _ _ kind genre
  simp only [List.forall_mem_append, List.forall_mem_flatMap]
  refine ⟨⟨⟨⟨⟨⟨⟨?_, ?_⟩, ?_⟩, ?_⟩, ?_⟩, ?_⟩, ?_⟩, ?_⟩
  · intro couplage _
    apply forall_mem_ite
    simp only [List.forall_mem_flatMap]
    intro _ pdtDebut _
    exact built _ _ _ rfl nofun
  · apply forall_mem_ite
    simp only [List.forall_mem_flatMap]
    intro _ couplage _
    exact fixed rfl nofun
  · intro pays _
    exact fixed rfl fun _ same => Option.some.inj same
  · intro pays _
    exact lissage pays
  · intro pays _
    exact ⟨fixed rfl fun _ same => Option.some.inj same, fixed rfl fun _ same => Option.some.inj same⟩
  · intro pays _
    exact fixed rfl fun _ same => Option.some.inj same
  · intro pdt _ pays _
    exact fixed rfl fun _ same => Option.some.inj same
  · intro pays _
    exact ⟨fixed rfl fun _ same => Option.some.inj same, fixed rfl fun _ same => Option.some.inj same⟩

end

theorem construireLaMatriceDesContraintes_sensDuGenre :
    ∀ ligne ∈ problem.construireLaMatriceDesContraintes, ligne.SensDuGenre := by
  unfold construireLaMatriceDesContraintes
  simp only [List.forall_mem_append, List.forall_mem_flatMap]
  have built (contrainte : Contrainte) (sens : Sense) (termes : Terms Variable Rat)
      (_ : contrainte.palierDesGroupes = none) (genre : ∀ autre ∈ contrainte.sensDuGenre, sens = autre) :
      ∀ ligne ∈ problem.build contrainte sens termes, ligne.SensDuGenre := problem.build_sensDuGenre genre
  refine ⟨⟨?_, problem.lignesDeLaPeriode_forall built⟩, ?_⟩
  · intro pdt _
    exact problem.lignesDuPasDeTemps_forall built pdt
  · exact forall_mem_ite fun _ => problem.lignesDeDemarrage_sensDuGenre

end Sens

end WeeklyProblem

end Antares.Optimisation
