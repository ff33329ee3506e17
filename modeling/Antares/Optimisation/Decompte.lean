import Antares.Optimisation.WeeklyVariables
import Mathlib.Algebra.BigOperators.Ring.Finset
import Mathlib.Algebra.Module.Defs
import Mathlib.Algebra.Order.BigOperators.Group.Finset

/-! `OPT_DecompteDesVariablesEtDesContraintesDuProblemeAOptimiser` counts the variables and the
rows of a weekly problem for the arrays to be allocated; the constructions that write to these
arrays have loops and conditions of their own and stay within the counts.
-/

set_option autoImplicit false

namespace Antares.Optimisation

open Library

structure Decompte where
  nombreDeVariables : Nat
  nombreDeContraintes : Nat
  mxPaliers : Nat
  deriving DecidableEq, Repr

namespace WeeklyProblem

variable (problem : WeeklyProblem)

section Comptes

def pays : Finset Nat := Finset.range problem.network.nombreDePays

def mxPaliers : Nat := ∑ pays ∈ problem.pays, problem.nombreDePaliersThermiques pays

variable (pays : Nat)

def variablesDuPaysParPasDeTemps : Nat :=
  let hydro := problem.caracteristiquesHydrauliques pays
  problem.nombreDePaliersThermiques pays + (if hydro.presenceDHydrauliqueModulable then 1 else 0) +
    (if hydro.presenceDePompageModulable then 1 else 0) + (if hydro.suiviNiveauHoraire then 1 + 1 else 0) + 2

def numberOfShortTermStorages : Nat := ∑ pays ∈ problem.pays, (problem.shortTermStorage pays).length

def contraintesDeType (type : TypeDeContrainteCouplante) : Nat :=
  (problem.contraintesCouplantes.map fun contrainte =>
    if contrainte.typeDeContrainteCouplante = type then 1 else 0).sum

def nombreDeJoursDansUnIntervalleOptimise : Nat :=
  if nombreDePasDeTempsDUneJournee < problem.pas then nbHoursInWeek / nombreDePasDeTempsDUneJournee else 1

/-- The eight combinations of pumping, generation within bounds and hourly levels. -/
def contraintesHydrauliques : Except String Nat :=
  let hydro := problem.caracteristiquesHydrauliques pays
  match hydro.presenceDePompageModulable, hydro.turbinageEntreBornes, hydro.suiviNiveauHoraire with
  | false, false, false => .ok (if hydro.presenceDHydrauliqueModulable then 1 else 0)
  | true, false, false => .ok (2 + 1 + 1)
  | false, true, false => .ok (1 + 1)
  | true, true, false => .ok (1 + 1 + 1)
  | false, true, true => .ok (1 + 1 + problem.pas)
  | true, true, true => .ok (1 + 1 + 1 + problem.pas)
  | true, false, true => .ok (2 + 1 + 1 + problem.pas)
  | false, false, true =>
    .error ("Level explicit modeling requires flexible generation in area " ++ problem.nomsDesPays pays)

def variablesDuLissage : Nat :=
  if (problem.caracteristiquesHydrauliques pays).presenceDHydrauliqueModulable then
    match problem.typeDeLissageHydraulique with
    | .lissageHydrauliqueSurSommeDesVariations => problem.pas * 2
    | .lissageHydrauliqueSurVariationMax => 2
    | .pasDeLissageHydraulique => 0
  else 0

def contraintesDuLissage : Nat :=
  if (problem.caracteristiquesHydrauliques pays).presenceDHydrauliqueModulable then
    match problem.typeDeLissageHydraulique with
    | .lissageHydrauliqueSurSommeDesVariations => problem.pas
    | .lissageHydrauliqueSurVariationMax => problem.pas * 2
    | .pasDeLissageHydraulique => 0
  else 0

/-- The construction of the start-up variables with `Simulation`. -/
def variablesDesCoutsDeDemarrage : Nat :=
  if problem.ucMode.optimisationAvecCoutsDeDemarrage then
    ∑ pays ∈ problem.pays, problem.nombreDePaliersThermiques pays * (problem.pas * 4)
  else 0

/-- The construction of the start-up rows with `Simulation`, loop by loop. -/
def contraintesDesCoutsDeDemarrage : Nat :=
  if problem.ucMode.optimisationAvecCoutsDeDemarrage then
    (∑ pays ∈ problem.pays, problem.nombreDePaliersThermiques pays * (problem.pas * (1 + 1))) +
      (∑ pays ∈ problem.pays, problem.nombreDePaliersThermiques pays * problem.pas) +
      (∑ pays ∈ problem.pays, problem.nombreDePaliersThermiques pays * problem.pas) +
      (∑ pays ∈ problem.pays, ((problem.paliersThermiques pays).filter fun groupe =>
        0 < groupe.dureeMinimaleDeMarche).length * problem.pas) +
      ∑ pays ∈ problem.pays, problem.nombreDePaliersThermiques pays * problem.pas
  else 0

def decompteDesVariables : Nat :=
  (problem.network.nombreDInterconnexions + 2 * problem.network.nombreDInterconnexions +
      ∑ pays ∈ problem.pays, problem.variablesDuPaysParPasDeTemps pays) * problem.pas +
    (∑ pays ∈ problem.pays,
      if (problem.caracteristiquesHydrauliques pays).accurateWaterValue then 1 + nombreDeTranches else 0) +
    3 * problem.numberOfShortTermStorages * problem.pas +
    (∑ pays ∈ problem.pays, problem.variablesDuLissage pays) + problem.variablesDesCoutsDeDemarrage

def decompteDesContraintes (hydrauliques : Nat) : Nat :=
  (problem.network.nombreDePays + problem.network.nombreDePays + problem.network.nombreDInterconnexions +
      problem.contraintesDeType .horaire) * problem.pas +
    problem.contraintesDeType .journaliere * problem.nombreDeJoursDansUnIntervalleOptimise +
    (if nombreDePasDeTempsDUneJournee < problem.pas then problem.contraintesDeType .hebdomadaire else 0) +
    hydrauliques + problem.numberOfShortTermStorages * problem.pas +
    (∑ pays ∈ problem.pays, problem.contraintesDuLissage pays) +
    (∑ pays ∈ problem.pays,
      if (problem.caracteristiquesHydrauliques pays).accurateWaterValue then 2 else 0) +
    problem.contraintesDesCoutsDeDemarrage

def decompteDesVariablesEtDesContraintes : Except String Decompte := do
  let hydrauliques ← (List.range problem.network.nombreDePays).mapM problem.contraintesHydrauliques
  return {
    nombreDeVariables := problem.decompteDesVariables
    nombreDeContraintes := problem.decompteDesContraintes hydrauliques.sum
    mxPaliers := problem.mxPaliers }

end Comptes

section VariablesComptees

variable (pdt : Int)

theorem length_variablesDesLiens_le :
    (problem.variablesDesLiens pdt).length ≤
      problem.network.nombreDInterconnexions + 2 * problem.network.nombreDInterconnexions := by
  unfold variablesDesLiens
  rw [length_flatMap_range]
  calc ∑ interco ∈ Finset.range problem.network.nombreDInterconnexions, _
      ≤ ∑ interco ∈ Finset.range problem.network.nombreDInterconnexions, 3 := by
        apply Finset.sum_le_sum
        intro interco _
        split_ifs <;> simp
    _ = problem.network.nombreDInterconnexions + 2 * problem.network.nombreDInterconnexions := by
        rw [Finset.sum_const, Finset.card_range, smul_eq_mul]
        omega

variable (pays : Nat)

theorem length_variablesDuPays :
    (problem.variablesDuPays pdt pays).length =
      problem.nombreDePaliersThermiques pays + 3 * (problem.shortTermStorage pays).length + 2 := by
  unfold variablesDuPays
  simp only [List.length_append, List.length_map, List.length_range, length_flatMap_range, List.length_cons,
    List.length_nil, Finset.sum_const, Finset.card_range, smul_eq_mul]
  omega

theorem length_variablesHydrauliques :
    problem.nombreDePaliersThermiques pays + 2 + (problem.variablesHydrauliques pdt pays).length =
      problem.variablesDuPaysParPasDeTemps pays + (problem.variablesDeVariation pdt pays).length := by
  unfold variablesHydrauliques variablesDuPaysParPasDeTemps
  simp only [List.length_append]
  split_ifs <;> simp only [List.length_cons, List.length_nil] <;> omega

theorem sum_length_variablesDeVariation_le :
    ∑ pdt ∈ Finset.range problem.pas, (problem.variablesDeVariation pdt pays).length ≤
      problem.variablesDuLissage pays := by
  unfold variablesDeVariation variablesDuLissage
  cases problem.typeDeLissageHydraulique with
  | pasDeLissageHydraulique => simp
  | lissageHydrauliqueSurSommeDesVariations => split_ifs <;> simp
  | lissageHydrauliqueSurVariationMax =>
    cases (problem.caracteristiquesHydrauliques pays).presenceDHydrauliqueModulable with
    | false => simp
    | true =>
      have onlyFirst (pdt : Nat) :
          (if (true && decide ((pdt : Int) = 0)) = true then
            [Variable.hydProdDown pdt pays, .hydProdUp pdt pays] else []).length =
            if pdt = 0 then 2 else 0 := by
        cases pdt with
        | zero => rfl
        | succ pdt => rfl
      simp only [onlyFirst, Finset.sum_ite_eq']
      split_ifs <;> omega

theorem length_variablesDuPasDeTemps_le :
    (problem.variablesDuPasDeTemps pdt).length ≤
      problem.network.nombreDInterconnexions + 2 * problem.network.nombreDInterconnexions +
        (∑ pays ∈ problem.pays, problem.variablesDuPaysParPasDeTemps pays) +
        3 * problem.numberOfShortTermStorages +
        ∑ pays ∈ problem.pays, (problem.variablesDeVariation pdt pays).length := by
  have liens := problem.length_variablesDesLiens_le pdt
  have parPays : ∀ pays ∈ problem.pays,
      (problem.variablesDuPays pdt pays).length + (problem.variablesHydrauliques pdt pays).length =
        problem.variablesDuPaysParPasDeTemps pays + 3 * (problem.shortTermStorage pays).length +
          (problem.variablesDeVariation pdt pays).length := by
    intro pays _
    have hydro := problem.length_variablesHydrauliques pdt pays
    rw [length_variablesDuPays]
    omega
  have allPays := Finset.sum_congr rfl parPays
  simp only [Finset.sum_add_distrib, ← Finset.mul_sum] at allPays
  unfold variablesDuPasDeTemps
  rw [List.length_append, List.length_append, length_flatMap_range, length_flatMap_range]
  unfold numberOfShortTermStorages
  unfold WeeklyProblem.pays at *
  omega

theorem length_variablesDeStock :
    (problem.variablesDeStock pays).length =
      if (problem.caracteristiquesHydrauliques pays).accurateWaterValue then 1 + nombreDeTranches else 0 := by
  unfold variablesDeStock
  split_ifs
  · rw [List.length_cons, List.length_map, List.length_range, Nat.add_comm]
  · rfl

theorem length_variablesDeDemarrage :
    (problem.variablesDeDemarrage pays).length =
      problem.nombreDePaliersThermiques pays * (problem.pas * 4) := by
  unfold variablesDeDemarrage
  simp

theorem length_listeDesVariables_le : problem.listeDesVariables.length ≤ problem.decompteDesVariables := by
  have hourly : ∑ pdt ∈ Finset.range problem.pas, (problem.variablesDuPasDeTemps pdt).length ≤
      problem.pas * (problem.network.nombreDInterconnexions + 2 * problem.network.nombreDInterconnexions +
        (∑ pays ∈ problem.pays, problem.variablesDuPaysParPasDeTemps pays) +
        3 * problem.numberOfShortTermStorages) + ∑ pays ∈ problem.pays, problem.variablesDuLissage pays := by
    calc ∑ pdt ∈ Finset.range problem.pas, (problem.variablesDuPasDeTemps pdt).length
        ≤ ∑ pdt ∈ Finset.range problem.pas, _ :=
          Finset.sum_le_sum fun pdt _ => problem.length_variablesDuPasDeTemps_le pdt
      _ = problem.pas * _ + ∑ pays ∈ problem.pays, ∑ pdt ∈ Finset.range problem.pas,
            (problem.variablesDeVariation pdt pays).length := by
          rw [Finset.sum_add_distrib, Finset.sum_const, Finset.card_range, smul_eq_mul, Finset.sum_comm]
      _ ≤ _ := Nat.add_le_add_left
          (Finset.sum_le_sum fun pays _ => problem.sum_length_variablesDeVariation_le pays) _
  unfold listeDesVariables decompteDesVariables variablesDesCoutsDeDemarrage
  rw [List.length_append, List.length_append, length_flatMap_range, length_flatMap_range]
  simp only [length_variablesDeStock]
  rw [apply_ite List.length, length_flatMap_range, List.length_nil]
  simp only [length_variablesDeDemarrage]
  unfold WeeklyProblem.pays at *
  -- the products by the number of time steps, apart
  rw [Nat.mul_add, Nat.mul_comm problem.pas, Nat.mul_comm problem.pas] at hourly
  omega

end VariablesComptees

section LignesComptees

theorem length_build_le (contrainte : Contrainte) (sens : Sense) (termes : Terms Variable Rat) :
    (problem.build contrainte sens termes).length ≤ 1 := by
  unfold build
  dsimp only
  split_ifs <;> simp

theorem length_ite_le {condition : Prop} [Decidable condition] {lignes : List Ligne} {bound : Nat}
    (bounded : lignes.length ≤ bound) :
    (if condition then lignes else []).length ≤ if condition then bound else 0 := by
  split_ifs
  · exact bounded
  · exact Nat.le_refl 0

theorem length_shortTermStorageLevel_le (pdt pays : Nat) :
    (problem.shortTermStorageLevel pdt pays).length ≤ (problem.shortTermStorage pays).length := by
  unfold shortTermStorageLevel
  apply (length_flatMap_le (fun _ => 1) fun storage _ => problem.length_build_le _ _ _).trans_eq
  simp

theorem length_couplages_le (type : TypeDeContrainteCouplante) (tours : Nat)
    {lignes : ContrainteCouplante → Nat → List Ligne}
    (bounded : ∀ contrainte cntCouplante,
      (lignes contrainte cntCouplante).length ≤ if contrainte.typeDeContrainteCouplante = type then tours else 0) :
    (problem.contraintesCouplantes.zipIdx.flatMap fun couplage => lignes couplage.1 couplage.2).length ≤ problem.contraintesDeType type * tours := by
  apply (length_flatMap_zipIdx_le _ bounded).trans_eq
  unfold contraintesDeType
  rw [← List.sum_map_mul_right]
  simp only [ite_mul, Nat.one_mul, Nat.zero_mul]

theorem length_bindingConstraintHour_le (pdt : Nat) (contrainte : ContrainteCouplante) (cntCouplante : Nat) :
    (problem.bindingConstraintHour pdt contrainte cntCouplante).length ≤
      if contrainte.typeDeContrainteCouplante = .horaire then 1 else 0 := by
  unfold bindingConstraintHour
  exact length_ite_le (problem.length_build_le _ _ _)

variable (contrainte : ContrainteCouplante)

theorem length_bindingConstraintWeek_le (cntCouplante : Nat) :
    (problem.bindingConstraintWeek contrainte cntCouplante).length ≤
      if contrainte.typeDeContrainteCouplante = .hebdomadaire then 1 else 0 := by
  unfold bindingConstraintWeek
  exact length_ite_le (problem.length_build_le _ _ _)

theorem length_lignesDuPasDeTemps_le (pdt : Nat) :
    (problem.lignesDuPasDeTemps pdt).length ≤
      problem.network.nombreDePays + problem.network.nombreDePays + problem.network.nombreDInterconnexions +
        problem.contraintesDeType .horaire + problem.numberOfShortTermStorages := by
  have bilans : ∑ pays ∈ problem.pays, (problem.areaBalance pdt pays ++ problem.fictitiousLoad pdt pays ++
        problem.shortTermStorageLevel pdt pays).length ≤
      problem.network.nombreDePays + problem.network.nombreDePays + problem.numberOfShortTermStorages := by
    calc ∑ pays ∈ problem.pays, _
        ≤ ∑ pays ∈ problem.pays, (1 + 1 + (problem.shortTermStorage pays).length) := by
          apply Finset.sum_le_sum
          intro pays _
          rw [List.length_append, List.length_append]
          have balance := problem.length_build_le
          have storages := problem.length_shortTermStorageLevel_le pdt pays
          exact Nat.add_le_add (Nat.add_le_add (balance _ _ _) (balance _ _ _)) storages
      _ = _ := by
          unfold numberOfShortTermStorages WeeklyProblem.pays
          rw [Finset.sum_add_distrib, Finset.sum_const, Finset.card_range, smul_eq_mul, Nat.mul_two]
  have flux : ∑ interco ∈ Finset.range problem.network.nombreDInterconnexions,
      (problem.flowDissociation pdt interco).length ≤ problem.network.nombreDInterconnexions := by
    apply (Finset.sum_le_card_nsmul _ _ 1 _).trans_eq
    · rw [Finset.card_range, smul_eq_mul, Nat.mul_one]
    · intro interco _
      unfold flowDissociation
      split_ifs
      · exact problem.length_build_le _ _ _
      · exact Nat.zero_le 1
  have couplages := problem.length_couplages_le .horaire 1 (problem.length_bindingConstraintHour_le pdt)
  unfold lignesDuPasDeTemps
  rw [List.length_append, List.length_append, length_flatMap_range, length_flatMap_range]
  have total := Nat.add_le_add (Nat.add_le_add bilans flux) couplages
  apply total.trans_eq
  omega

theorem debutsDesJours_length : problem.debutsDesJours.length = problem.nombreDeJoursDansUnIntervalleOptimise := by
  unfold debutsDesJours nombreDeJoursDansUnIntervalleOptimise pas
  rw [List.length_map, List.length_range]
  cases problem.range <;> rfl

theorem length_bindingConstraintDay_le (cntCouplante : Nat) :
    (problem.bindingConstraintDay contrainte cntCouplante).length ≤
      if contrainte.typeDeContrainteCouplante = .journaliere then
        problem.nombreDeJoursDansUnIntervalleOptimise else 0 := by
  unfold bindingConstraintDay
  apply length_ite_le
  apply (length_flatMap_le (fun _ => 1) fun pdtDebut _ => problem.length_build_le _ _ _).trans_eq
  rw [← debutsDesJours_length]
  simp

theorem length_lignesDeLissage_le (pays : Nat) :
    (problem.lignesDeLissage pays).length ≤ problem.contraintesDuLissage pays := by
  unfold lignesDeLissage contraintesDuLissage hydroPowerSmoothingUsingVariationSum
    hydroPowerSmoothingUsingVariationMaxDown hydroPowerSmoothingUsingVariationMaxUp
  cases problem.typeDeLissageHydraulique with
  | pasDeLissageHydraulique => exact Nat.zero_le _
  | lissageHydrauliqueSurSommeDesVariations =>
    apply length_ite_le
    rw [length_flatMap_range]
    apply (Finset.sum_le_card_nsmul _ _ 1 fun pdt _ => problem.length_build_le _ _ _).trans_eq
    rw [Finset.card_range, smul_eq_mul, Nat.mul_one]
  | lissageHydrauliqueSurVariationMax =>
    dsimp only
    rw [length_flatMap_range]
    split_ifs
    · apply (Finset.sum_le_card_nsmul _ _ 2 _).trans_eq
      · rw [Finset.card_range, smul_eq_mul]
      · intro pdt _
        rw [List.length_append]
        exact Nat.add_le_add (problem.length_build_le _ _ _) (problem.length_build_le _ _ _)
    · simp

theorem length_lignesDeStock_le (pays : Nat) :
    (problem.finalStockEquivalent pays ++ problem.finalStockExpression pays).length ≤
      if (problem.caracteristiquesHydrauliques pays).accurateWaterValue then 2 else 0 := by
  unfold finalStockEquivalent finalStockExpression
  rw [List.length_append]
  dsimp only
  generalize problem.caracteristiquesHydrauliques pays = hydro
  have equivalent := problem.length_build_le (.finalStockEquivalent pays) .eq
    [(.finalStorage pays, 1), (.hydroLevel (problem.pas - 1 : Int) pays, -1)]
  have expression := problem.length_build_le (.finalStockExpression pays) .eq
    ((.finalStorage pays, -1) :: (List.range nombreDeTranches).map fun layer => (.layerStorage pays layer, 1))
  cases hydro.accurateWaterValue with
  | false => exact Nat.le_refl 0
  | true => exact Nat.add_le_add ((length_ite_le equivalent).trans (by split_ifs <;> decide)) expression

section Hydraulique
variable (pays : Nat)

theorem length_hydroPower_le :
    (problem.hydroPower pays).length ≤
      if (problem.caracteristiquesHydrauliques pays).presenceDHydrauliqueModulable &&
        !(problem.caracteristiquesHydrauliques pays).turbinageEntreBornes then 1 else 0 := by
  unfold hydroPower
  exact length_ite_le (problem.length_build_le _ _ _)

theorem length_minHydroPower_le :
    (problem.minHydroPower pays).length ≤ if problem.energieEntreBornes pays then 1 else 0 := by
  unfold minHydroPower
  exact length_ite_le (problem.length_build_le _ _ _)

theorem length_maxHydroPower_le :
    (problem.maxHydroPower pays).length ≤ if problem.energieEntreBornes pays then 1 else 0 := by
  unfold maxHydroPower
  exact length_ite_le (problem.length_build_le _ _ _)

theorem length_maxPumping_le :
    (problem.maxPumping pays).length ≤
      if (problem.caracteristiquesHydrauliques pays).presenceDePompageModulable then 1 else 0 := by
  unfold maxPumping
  exact length_ite_le (problem.length_build_le _ _ _)

theorem sum_length_areaHydroLevel_le :
    ∑ pdt ∈ Finset.range problem.pas, (problem.areaHydroLevel pays pdt).length ≤
      if (problem.caracteristiquesHydrauliques pays).suiviNiveauHoraire then problem.pas else 0 := by
  unfold areaHydroLevel
  dsimp only
  split_ifs
  · apply (Finset.sum_le_card_nsmul _ _ 1 fun pdt _ => problem.length_build_le _ _ _).trans_eq
    rw [Finset.card_range, smul_eq_mul, Nat.mul_one]
  · simp

/-- The rows of an area that the eight combinations count together. -/
def lignesHydrauliques : Nat :=
  (problem.hydroPower pays).length +
    ((problem.minHydroPower pays).length + (problem.maxHydroPower pays).length) +
    (problem.maxPumping pays).length +
    ∑ pdt ∈ Finset.range problem.pas, (problem.areaHydroLevel pays pdt).length

variable {pays} in
theorem lignesHydrauliques_le {contraintes : Nat}
    (counted : problem.contraintesHydrauliques pays = .ok contraintes) :
    problem.lignesHydrauliques pays ≤ contraintes := by
  have power := problem.length_hydroPower_le pays
  have lower := problem.length_minHydroPower_le pays
  have upper := problem.length_maxHydroPower_le pays
  have pumping := problem.length_maxPumping_le pays
  have levels := problem.sum_length_areaHydroLevel_le pays
  unfold energieEntreBornes at lower upper
  unfold contraintesHydrauliques at counted
  unfold lignesHydrauliques
  dsimp only at counted lower upper
  revert counted power lower upper pumping levels
  generalize problem.caracteristiquesHydrauliques pays = hydro
  obtain ⟨presence, pompage, turbinage, niveau, accurate, direct, ratio⟩ := hydro
  -- one case for each combination, with and without generation
  cases pompage <;> cases turbinage <;> cases niveau <;> cases presence <;>
    intro power lower upper pumping levels counted <;>
    simp [-List.length_eq_zero_iff, -Finset.sum_eq_zero_iff] at power lower upper pumping levels counted <;>
    omega

end Hydraulique

theorem sum_lignesHydrauliques_le {areas contraintes : List Nat}
    (counted : areas.mapM problem.contraintesHydrauliques = .ok contraintes) :
    (areas.map problem.lignesHydrauliques).sum ≤ contraintes.sum := by
  induction areas generalizing contraintes with
  | nil => exact Nat.zero_le _
  | cons area areas ih =>
    rw [List.mapM_cons] at counted
    cases first : problem.contraintesHydrauliques area with
    | error message => rw [first] at counted; cases counted
    | ok contraintesDuPays =>
      cases rest : areas.mapM problem.contraintesHydrauliques with
      | error message => rw [first, rest] at counted; cases counted
      | ok autres =>
        rw [first, rest] at counted
        cases counted
        rw [List.map_cons, List.sum_cons, List.sum_cons]
        exact Nat.add_le_add (problem.lignesHydrauliques_le first) (ih rest)

section Demarrages
variable (pays : Nat)

theorem groupesDuPays_length : (problem.groupesDuPays pays).length = problem.nombreDePaliersThermiques pays := by
  unfold groupesDuPays nombreDePaliersThermiques
  rw [List.length_map, List.length_zipIdx]

theorem groupesDuPays_filter_length (test : GroupeThermique → Bool) :
    ((problem.groupesDuPays pays).filter fun (groupe, _) => test groupe).length =
      ((problem.paliersThermiques pays).filter test).length := by
  have groupes : (problem.groupesDuPays pays).map Prod.fst = problem.paliersThermiques pays := by
    unfold groupesDuPays
    rw [List.map_map]
    exact List.zipIdx_map_fst 0 (problem.paliersThermiques pays)
  rw [← groupes, List.filter_map, List.length_map]
  rfl

theorem length_parGroupeEtHeure_le (parHeure : Nat) {ligne : GroupeThermique → Nat → Nat → List Ligne}
    (bounded : ∀ groupe palier pdt, (ligne groupe palier pdt).length ≤ parHeure) :
    (problem.parGroupeEtHeure pays ligne).length ≤
      problem.nombreDePaliersThermiques pays * (problem.pas * parHeure) := by
  unfold parGroupeEtHeure
  have parGroupe (couple : GroupeThermique × Nat) (_ : couple ∈ problem.groupesDuPays pays) :
      ((List.range problem.pas).flatMap (ligne couple.1 couple.2)).length ≤ problem.pas * parHeure := by
    apply (length_flatMap_le (fun _ => parHeure) fun pdt _ => bounded couple.1 couple.2 pdt).trans_eq
    simp
  apply (length_flatMap_le (fun _ => problem.pas * parHeure) parGroupe).trans_eq
  rw [← groupesDuPays_length]
  simp

theorem length_buildIfSeveral_le (contrainte : Contrainte) (sens : Sense) (termes : Terms Variable Rat)
    (builder : ConstraintBuilder) :
    (problem.buildIfSeveral contrainte sens termes builder).lignes.length ≤ builder.lignes.length + 1 := by
  unfold buildIfSeveral
  dsimp only
  split_ifs
  · rw [List.length_append, List.length_singleton]
  · exact Nat.le_succ _

theorem length_parGroupeEtHeureAvec_le (groupes : List (GroupeThermique × Nat))
    {ligne : GroupeThermique → Nat → Nat → ConstraintBuilder → ConstraintBuilder}
    (bounded : ∀ groupe palier pdt builder,
      (ligne groupe palier pdt builder).lignes.length ≤ builder.lignes.length + 1) :
    (problem.parGroupeEtHeureAvec groupes ligne).length ≤ groupes.length * problem.pas := by
  unfold parGroupeEtHeureAvec
  have parGroupe (builder : ConstraintBuilder) (couple : GroupeThermique × Nat) :
      ((List.range problem.pas).foldl (fun builder pdt => ligne couple.1 couple.2 pdt builder)
        builder).lignes.length ≤ builder.lignes.length + problem.pas := by
    have heures := measure_foldl_le (fun builder : ConstraintBuilder => builder.lignes.length)
      (fun builder pdt => bounded couple.1 couple.2 pdt builder) (List.range problem.pas) builder
    rwa [List.length_range, Nat.mul_one] at heures
  have total := measure_foldl_le (fun builder : ConstraintBuilder => builder.lignes.length) parGroupe groupes
    { termes := [], lignes := [] }
  simpa using total

end Demarrages

theorem length_lignesDeDemarrage_le (couts : problem.ucMode.optimisationAvecCoutsDeDemarrage = true) :
    problem.lignesDeDemarrage.length ≤ problem.contraintesDesCoutsDeDemarrage := by
  have paliers (pays : Nat) : (problem.parGroupeEtHeure pays fun groupe palier pdt =>
      problem.pMaxDispatchableGeneration groupe palier pdt ++
        problem.pMinDispatchableGeneration groupe palier pdt).length ≤
      problem.nombreDePaliersThermiques pays * (problem.pas * (1 + 1)) := by
    apply length_parGroupeEtHeure_le
    intro groupe palier pdt
    rw [List.length_append]
    exact Nat.add_le_add (problem.length_build_le _ _ _) (problem.length_build_le _ _ _)
  have consistence (pays : Nat) : (problem.parGroupeEtHeure pays fun _ =>
      problem.consistenceNumberOfDispatchableUnits).length ≤ _ :=
    problem.length_parGroupeEtHeure_le pays 1 fun _ _ _ => problem.length_build_le _ _ _
  have outages (pays : Nat) : (problem.parGroupeEtHeure pays fun _ =>
      problem.nbUnitsOutageLessThanNbUnitsStop).length ≤ _ :=
    problem.length_parGroupeEtHeure_le pays 1 fun _ _ _ => problem.length_build_le _ _ _
  have minUp (pays : Nat) : (problem.parGroupeEtHeureAvec
      ((problem.groupesDuPays pays).filter fun (groupe, _) => 0 < groupe.dureeMinimaleDeMarche)
      problem.nbDispUnitsMinBoundSinceMinUpTime).length ≤
        ((problem.paliersThermiques pays).filter fun groupe => 0 < groupe.dureeMinimaleDeMarche).length *
          problem.pas := by
    rw [← groupesDuPays_filter_length]
    exact problem.length_parGroupeEtHeureAvec_le _ fun _ _ _ => problem.length_buildIfSeveral_le _ _ _
  have minDown (pays : Nat) : (problem.parGroupeEtHeureAvec (problem.groupesDuPays pays)
      problem.minDownTime).length ≤ _ :=
    problem.length_parGroupeEtHeureAvec_le _ fun _ _ _ => problem.length_buildIfSeveral_le _ _ _
  simp only [groupesDuPays_length, Nat.mul_one] at consistence outages minDown
  unfold lignesDeDemarrage contraintesDesCoutsDeDemarrage
  rw [if_pos couts]
  simp only [List.length_append, length_flatMap_range]
  refine Nat.add_le_add (Nat.add_le_add (Nat.add_le_add (Nat.add_le_add ?_ ?_) ?_) ?_) ?_
  · exact Finset.sum_le_sum fun pays _ => paliers pays
  · exact Finset.sum_le_sum fun pays _ => consistence pays
  · exact Finset.sum_le_sum fun pays _ => outages pays
  · exact Finset.sum_le_sum fun pays _ => minUp pays
  · exact Finset.sum_le_sum fun pays _ => minDown pays

theorem length_lignesDeLaPeriode_le :
    problem.lignesDeLaPeriode.length ≤
      problem.contraintesDeType .journaliere * problem.nombreDeJoursDansUnIntervalleOptimise +
        (if nombreDePasDeTempsDUneJournee < problem.pas then problem.contraintesDeType .hebdomadaire else 0) +
        (∑ pays ∈ problem.pays, problem.lignesHydrauliques pays) +
        (∑ pays ∈ problem.pays, problem.contraintesDuLissage pays) +
        ∑ pays ∈ problem.pays,
          if (problem.caracteristiquesHydrauliques pays).accurateWaterValue then 2 else 0 := by
  have jours := problem.length_couplages_le .journaliere _ problem.length_bindingConstraintDay_le
  have semaines := problem.length_couplages_le .hebdomadaire 1 problem.length_bindingConstraintWeek_le
  have lissage : ∑ pays ∈ problem.pays, (problem.lignesDeLissage pays).length ≤ _ :=
    Finset.sum_le_sum fun pays _ => problem.length_lignesDeLissage_le pays
  have stocks : ∑ pays ∈ problem.pays,
      (problem.finalStockEquivalent pays ++ problem.finalStockExpression pays).length ≤ _ :=
    Finset.sum_le_sum fun pays _ => problem.length_lignesDeStock_le pays
  have levels : ∑ pdt ∈ Finset.range problem.pas, ∑ pays ∈ problem.pays, (problem.areaHydroLevel pays pdt).length =
      ∑ pays ∈ problem.pays, ∑ pdt ∈ Finset.range problem.pas, (problem.areaHydroLevel pays pdt).length :=
    Finset.sum_comm
  have weekly : (if nombreDePasDeTempsDUneJournee < problem.pas then
        problem.contraintesCouplantes.zipIdx.flatMap fun couplage =>
          problem.bindingConstraintWeek couplage.1 couplage.2
      else []).length ≤
      if nombreDePasDeTempsDUneJournee < problem.pas then problem.contraintesDeType .hebdomadaire else 0 :=
    length_ite_le (semaines.trans_eq (Nat.mul_one _))
  unfold lignesDeLaPeriode lignesHydrauliques
  simp only [List.length_append, length_flatMap_range, Finset.sum_add_distrib]
  simp only [List.length_append, Finset.sum_add_distrib] at stocks
  unfold WeeklyProblem.pays at *
  -- the same sums in another order
  have total := Nat.add_le_add (Nat.add_le_add jours weekly) (Nat.add_le_add lissage stocks)
  omega

theorem length_construireLaMatriceDesContraintes_le {contraintes : List Nat}
    (counted : (List.range problem.network.nombreDePays).mapM problem.contraintesHydrauliques = .ok contraintes) :
    problem.construireLaMatriceDesContraintes.length ≤ problem.decompteDesContraintes contraintes.sum := by
  have hours : ∑ pdt ∈ Finset.range problem.pas, (problem.lignesDuPasDeTemps pdt).length ≤ _ :=
    Finset.sum_le_card_nsmul _ _ _ fun pdt _ => problem.length_lignesDuPasDeTemps_le pdt
  rw [Finset.card_range, smul_eq_mul, Nat.mul_add, Nat.mul_comm problem.pas, Nat.mul_comm problem.pas] at hours
  have period := problem.length_lignesDeLaPeriode_le
  have hydro : ∑ pays ∈ problem.pays, problem.lignesHydrauliques pays ≤ contraintes.sum :=
    problem.sum_lignesHydrauliques_le counted
  have demarrages : (if problem.ucMode.optimisationAvecCoutsDeDemarrage then problem.lignesDeDemarrage
      else []).length ≤ problem.contraintesDesCoutsDeDemarrage := by
    split_ifs with couts
    · exact problem.length_lignesDeDemarrage_le couts
    · exact Nat.zero_le _
  unfold construireLaMatriceDesContraintes decompteDesContraintes
  rw [List.length_append, List.length_append, length_flatMap_range]
  omega

end LignesComptees

/-- Neither the variables that are numbered nor the rows that are emitted exceed the counts, and
the numbers of the variables are distinct and cover everything below `NombreDeVariables`. -/
theorem decompte_suffit {decompte : Decompte}
    (counted : problem.decompteDesVariablesEtDesContraintes = .ok decompte) :
    problem.construireLaListeDesVariables.next ≤ decompte.nombreDeVariables ∧
      problem.construireLaMatriceDesContraintes.length ≤ decompte.nombreDeContraintes ∧
      problem.construireLaListeDesVariables.Exact problem.listeDesVariables := by
  unfold decompteDesVariablesEtDesContraintes at counted
  cases hydrauliques : (List.range problem.network.nombreDePays).mapM problem.contraintesHydrauliques with
  | error message => rw [hydrauliques] at counted; cases counted
  | ok contraintes =>
    rw [hydrauliques] at counted
    cases counted
    refine ⟨?_, problem.length_construireLaMatriceDesContraintes_le hydrauliques,
      problem.construireLaListeDesVariables_exact⟩
    unfold construireLaListeDesVariables
    rw [Numbering.addAll_next]
    exact (Nat.zero_add _).trans_le problem.length_listeDesVariables_le

/-- A day of two areas and a link with costs: one area has a cluster, a storage and a reservoir with
pumping, the other one nothing, and a daily constraint limits the link. -/
def milpDayStudy : WeeklyProblem where
  network := {
    nombreDePays := 2
    nombreDInterconnexions := 1
    paysOrigineDeLInterconnexion := fun _ => 0
    paysExtremiteDeLInterconnexion := fun _ => 1
    origine_lt := Network.nord_lt
    extremite_lt := Network.sud_lt }
  nomsDesPays := fun pays => if pays = 0 then "north" else "south"
  range := .sorDay
  ucMode := .ucMILP
  typeDeLissageHydraulique := .lissageHydrauliqueSurVariationMax
  intercoGereeAvecDesCouts := fun _ => true
  defaillanceNegativeUtiliserHydro := fun _ => false
  caracteristiquesHydrauliques := fun pays => {
    presenceDHydrauliqueModulable := pays = 0
    presenceDePompageModulable := pays = 0
    turbinageEntreBornes := false
    suiviNiveauHoraire := pays = 0
    accurateWaterValue := pays = 0
    directLevelAccess := pays = 0
    pumpingRatio := 3 / 4 }
  paliersThermiques := fun pays =>
    if pays = 0 then
      [{ pmaxDUnGroupe := 100, pminDUnGroupe := 40, dureeMinimaleDeMarche := 8, dureeMinimaleDArret := 8 }]
    else []
  shortTermStorage := fun pays => if pays = 0 then [9 / 10] else []
  contraintesCouplantes := [{
    typeDeContrainteCouplante := .journaliere
    interconnexions := [{ numeroDeLInterconnexion := 0, poids := 1, offsetTemporel := 0 }]
    paliers := []
    sens := .le
    interconnexions_nodup := by decide
    interconnexions_poids := by decide
    paliers_nodup := ContrainteCouplante.sansPalier_nodup
    paliers_poids := ContrainteCouplante.sansPalier_poids }]

theorem milpDayStudy_decompte_suffit :
    milpDayStudy.construireLaListeDesVariables.next ≤ 559 ∧
      milpDayStudy.construireLaMatriceDesContraintes.length ≤ 367 ∧
      milpDayStudy.construireLaListeDesVariables.Exact milpDayStudy.listeDesVariables := by
  have counted : milpDayStudy.decompteDesVariablesEtDesContraintes =
      .ok { nombreDeVariables := 559, nombreDeContraintes := 367, mxPaliers := 1 } := rfl
  exact milpDayStudy.decompte_suffit counted

end WeeklyProblem

end Antares.Optimisation
