import Antares.AdequacyPatch.DensCap

/-! Weeks with nothing but loads, links and units of one kind, optimised at once. What the rows
of their problems say, and which supplies of their loads are feasible.
-/

set_option autoImplicit false

namespace Antares.AdequacyPatch

open Optimisation Library

/-- A unit of 4 MW with a stable minimum of 2 MW, of which 1 MW is available. -/
def partialUnit : PalierThermique where
  minUpDownTime := 1
  tailleUnitaireDUnGroupe := 4
  pminPendantUneHeure := 2
  pminDUnGroupe := 2
  puissanceDisponible := fun _ => 1
  puissanceDisponibleRef := fun _ => 1
  puissanceMin := fun _ => 0
  puissanceMinRef := fun _ => 0
  nombreMaxDeGroupesEnMarche := fun _ => 0
  nombreMinDeGroupesEnMarche := fun _ => 0
  minUpDownTime_pos := Nat.one_pos
  minUpDownTime_le := by decide

theorem partialUnit_renseigne : partialUnit.Renseigne where
  disponible := rfl
  pmin_le := fun _ => zero_le_one

def partialGroup : GroupeThermique where
  pmaxDUnGroupe := 4
  pminDUnGroupe := 2
  dureeMinimaleDeMarche := 1
  dureeMinimaleDArret := 1

def noHydro : ConfigurationHydraulique where
  presenceDHydrauliqueModulable := false
  presenceDePompageModulable := false
  turbinageEntreBornes := false
  suiviNiveauHoraire := false
  accurateWaterValue := false
  directLevelAccess := false
  pumpingRatio := 1

def noEnergy : EnergiesEtPuissancesHydrauliques where
  presenceDHydrauliqueModulable := false
  presenceDePompageModulable := false
  turbinageEntreBornes := false
  sansHeuristique := false
  coefficientEcretementPMaxHydraulique := 1
  cntEnergieH2OParIntervalleOptimise := fun _ => 0
  cntEnergieH2OParJour := fun _ => 0
  minEnergieHydrauParIntervalleOptimise := fun _ => 0
  maxEnergieHydrauParIntervalleOptimise := fun _ => 0
  maxEnergiePompageParIntervalleOptimise := fun _ => 0
  inflowForTimeInterval := fun _ => 0
  contrainteDePmaxHydrauliqueHoraire := fun _ => 0
  contrainteDePmaxHydrauliqueHoraireRef := fun _ => 0
  contrainteDePmaxPompageHoraire := fun _ => 0
  maxDesPmaxHydrauliques := 0

def noStorage : StockageHebdo where
  injectionNominalCapacity := 0
  withdrawalNominalCapacity := 0
  reservoirCapacity := 0
  initialLevel := 0
  initialLevelOptim := true
  maxInjectionModulation := fun _ => 0
  maxWithdrawalModulation := fun _ => 0
  lowerRuleCurve := fun _ => 0
  upperRuleCurve := fun _ => 0
  inflows := fun _ => 0

theorem BareWeek.sansCapacite : (0 : Rat) ≤ 0 := le_rfl

/-- The loads of the areas, which of them have the unit, and links with a capacity from their
origin only. -/
structure BareWeek (settings : WeekSettings) where
  network : Network
  nombreDePays_eq : network.nombreDePays = settings.nombreDePays
  hasUnit : Nat → Bool
  charge : Nat → Nat → Rat
  capacite : Rat
  capacite_nonneg : 0 ≤ capacite

namespace BareWeek

variable {settings : WeekSettings} (bare : BareWeek settings)

def problem : WeeklyProblem where
  network := bare.network
  nomsDesPays := fun _ => "area"
  range := .sorWeek
  ucMode := settings.ucMode
  typeDeLissageHydraulique := .pasDeLissageHydraulique
  intercoGereeAvecDesCouts := fun _ => false
  defaillanceNegativeUtiliserHydro := fun _ => false
  caracteristiquesHydrauliques := fun _ => noHydro
  paliersThermiques := fun pays => if bare.hasUnit pays then [partialGroup] else []
  shortTermStorage := fun _ => []
  contraintesCouplantes := []

/-- Links are not cut in the first step when their origin is outside the patch. -/
def week : Week settings where
  problem := bare.problem
  nombreDePays_eq := bare.nombreDePays_eq
  ucMode_eq := rfl
  localMatching := { setToZeroOutsideInsideLinks := false, setToZeroOutsideOutsideLinks := false }
  consommationAbattueDuPays := bare.charge
  allMustRunGenerationOfArea := fun _ _ => 0
  defaillanceNegativeUtiliserConsoAbattue := fun _ => false
  defaillanceNegativeUtiliserPMinThermique := fun _ => true
  valeurDeNTCOrigineVersExtremite := fun _ _ => some bare.capacite
  valeurDeNTCExtremiteVersOrigine := fun _ _ => some 0
  ntcDirect_nonneg := by
    intro interco pdtHebdo capacity same
    obtain rfl := Option.some.inj same
    exact bare.capacite_nonneg
  ntcIndirect_nonneg := by
    intro interco pdtHebdo capacity same
    obtain rfl := Option.some.inj same
    exact le_rfl
  intercoGereeAvecLoopFlow := fun _ => false
  valeurDeLoopFlowOrigineVersExtremite := fun _ _ => 0
  paliers := fun _ => partialUnit
  paliers_renseignes := fun _ => partialUnit_renseigne
  hydrauliques := fun _ => noEnergy
  mingenHoraire := fun _ _ => 0
  apportNaturelHoraire := fun _ _ => 0
  niveauHoraireInf := fun _ _ => 0
  niveauHoraireSup := fun _ _ => 0
  niveauInitialReservoir := fun _ => 0
  tailleReservoir := fun _ => 0
  stockages := fun _ => noStorage
  secondMembreDeLaContrainteCouplante := fun _ _ => 0

/-- One production for all the units, running at the same number of units at all hours. -/
structure Supply where
  flow : Nat → Nat → Rat
  production : Rat
  units : Rat
  unsupplied : Nat → Nat → Rat

/-- The point of a supply: nothing is spilled, no unit starts or stops. -/
def Supply.point (supply : Supply) : Variable → Rat
  | .ntcDirect pdt interco => supply.flow interco pdt.toNat
  | .dispatchableProduction _ _ => supply.production
  | .numberOfDispatchableUnits _ _ => supply.units
  | .positiveUnsuppliedEnergy pdt pays => supply.unsupplied pays pdt.toNat
  | _ => 0

def export_ (flow : Nat → Rat) (pays : Nat) : Rat :=
  ((bare.network.intercosOrigine pays).map flow).sum - ((bare.network.intercosExtremite pays).map flow).sum

section Rows
variable {bare}

theorem lignesDeLaPeriode_eq : bare.problem.lignesDeLaPeriode = [] := by
  simp [WeeklyProblem.lignesDeLaPeriode, WeeklyProblem.hydroPower, WeeklyProblem.lignesDeLissage,
    WeeklyProblem.minHydroPower, WeeklyProblem.maxHydroPower, WeeklyProblem.energieEntreBornes,
    WeeklyProblem.maxPumping, WeeklyProblem.areaHydroLevel, WeeklyProblem.finalStockEquivalent,
    WeeklyProblem.finalStockExpression, problem, noHydro]

theorem lignesDuPasDeTemps_eq (pdt : Nat) :
    bare.problem.lignesDuPasDeTemps pdt =
      (List.range bare.network.nombreDePays).flatMap fun pays =>
        bare.problem.areaBalance pdt pays ++ bare.problem.fictitiousLoad pdt pays := by
  simp [WeeklyProblem.lignesDuPasDeTemps, WeeklyProblem.shortTermStorageLevel,
    WeeklyProblem.flowDissociation, problem]

theorem famille_of_mem {variable_ : Variable} (listed : variable_ ∈ bare.problem.listeDesVariables) :
    variable_.famille = .liens ∨ variable_.famille = .bilans ∨ variable_.famille = .demarrages := by
  rcases bare.problem.mem_listeDesVariables.mp listed with ⟨hour, -, lien⟩ | ⟨hour, -, pays, -, bilan⟩ |
    ⟨hour, -, pays, -, hydraulique⟩ | ⟨pays, -, stock⟩ | ⟨-, pays, -, demarrage⟩
  · exact .inl (bare.problem.mem_variablesDesLiens lien).1
  · exact .inr (.inl (bare.problem.mem_variablesDuPays bilan).1)
  · simp [WeeklyProblem.variablesHydrauliques, WeeklyProblem.variablesDeVariation, problem, noHydro]
      at hydraulique
  · simp [WeeklyProblem.variablesDeStock, problem, noHydro] at stock
  · exact .inr (.inr (bare.problem.mem_variablesDeDemarrage demarrage).1)

theorem restreint_hydraulique {point : Variable → Rat} {variable_ : Variable}
    (famille : variable_.famille = .hydraulique) : bare.problem.restreint point variable_ = 0 := by
  apply bare.problem.restreint_of_not_mem
  intro listed
  rcases famille_of_mem listed with same | same | same <;> exact Famille.noConfusion (famille.symm.trans same)

variable (point : Variable → Rat)

theorem exportPaliers_value (pdt : Int) (pays : Nat) :
    (bare.problem.exportPaliers pdt pays).value point =
      -(if bare.hasUnit pays then point (.dispatchableProduction pdt (bare.problem.numeroDuPalier pays 0)) else 0) := by
  unfold WeeklyProblem.exportPaliers WeeklyProblem.nombreDePaliersThermiques
  cases unit : bare.hasUnit pays <;> simp [problem, unit]

variable (pdt pays : Nat)

def ofBalance : Rat :=
  bare.export_ (fun interco => point (.ntcDirect pdt interco)) pays -
    (if bare.hasUnit pays then point (.dispatchableProduction pdt (bare.problem.numeroDuPalier pays 0)) else 0) -
    point (.positiveUnsuppliedEnergy pdt pays) + point (.negativeUnsuppliedEnergy pdt pays)

variable (bare) in
theorem areaBalance_value :
    ∃ termes : Terms Variable Rat,
      bare.problem.areaBalance pdt pays = bare.problem.build (.areaBalance pdt pays) .eq termes ∧
      (.positiveUnsuppliedEnergy pdt pays, -1) ∈ termes ∧
      termes.value (bare.problem.restreint point) = bare.ofBalance (bare.problem.restreint point) pdt pays := by
  refine ⟨_, rfl, by simp, ?_⟩
  have production : bare.problem.restreint point (.hydProd pdt pays) = 0 := restreint_hydraulique rfl
  have pumping : bare.problem.restreint point (.pumping pdt pays) = 0 := restreint_hydraulique rfl
  have storages : bare.problem.shortTermStorageBalance pdt pays = [] := rfl
  rw [storages]
  simp only [Terms.value_append, Terms.value_cons, Terms.value_nil, Terms.value_map, exportPaliers_value,
    production, pumping]
  unfold ofBalance export_
  rw [List.sum_map_mul_left, List.sum_map_mul_left]
  change 1 * ((bare.network.intercosOrigine pays).map _).sum + -1 * ((bare.network.intercosExtremite pays).map _).sum
    + _ + _ + _ = _
  ring

variable (bare) in
theorem fictitiousLoad_value :
    ∃ termes : Terms Variable Rat,
      bare.problem.fictitiousLoad pdt pays = bare.problem.build (.fictitiousLoad pdt pays) .le termes ∧
      termes.value (bare.problem.restreint point) =
        bare.problem.restreint point (.negativeUnsuppliedEnergy pdt pays) -
          if bare.hasUnit pays then
            bare.problem.restreint point (.dispatchableProduction pdt (bare.problem.numeroDuPalier pays 0))
          else 0 := by
  refine ⟨_, rfl, ?_⟩
  have production : bare.problem.restreint point (.hydProd pdt pays) = 0 := restreint_hydraulique rfl
  simp only [Terms.value_append, Terms.value_cons, Terms.value_nil, exportPaliers_value, production]
  ring

variable {pdt pays : Nat} (inRange : pdt < nbHoursInWeek) (bound : pays < settings.nombreDePays)
include inRange bound

theorem mem_of_bilan {variable_ : Variable} (listed : variable_ ∈ bare.problem.variablesDuPays pdt pays) :
    variable_ ∈ bare.problem.listeDesVariables :=
  bare.problem.mem_of_mem_variablesDuPays inRange (bare.nombreDePays_eq ▸ bound) listed

theorem positive_mem : .positiveUnsuppliedEnergy pdt pays ∈ bare.problem.listeDesVariables :=
  mem_of_bilan inRange bound (by simp [WeeklyProblem.variablesDuPays])

theorem negative_mem : .negativeUnsuppliedEnergy pdt pays ∈ bare.problem.listeDesVariables :=
  mem_of_bilan inRange bound (by simp [WeeklyProblem.variablesDuPays])

theorem production_mem (unit : bare.hasUnit pays = true) :
    .dispatchableProduction pdt (bare.problem.numeroDuPalier pays 0) ∈ bare.problem.listeDesVariables := by
  apply mem_of_bilan inRange bound
  simp [WeeklyProblem.variablesDuPays, WeeklyProblem.nombreDePaliersThermiques, problem, unit]

omit bound in
theorem ntcDirect_mem {interco : Nat} (link : interco < bare.network.nombreDInterconnexions) :
    .ntcDirect pdt interco ∈ bare.problem.listeDesVariables := by
  apply bare.problem.mem_listeDesVariables.mpr
  refine .inl ⟨pdt, inRange, ?_⟩
  exact List.mem_flatMap.mpr ⟨interco, List.mem_range.mpr link, List.mem_cons_self⟩

theorem ofBalance_restreint (point : Variable → Rat) :
    bare.ofBalance (bare.problem.restreint point) pdt pays = bare.ofBalance point pdt pays := by
  unfold ofBalance export_
  rw [bare.problem.restreint_of_mem (positive_mem inRange bound),
    bare.problem.restreint_of_mem (negative_mem inRange bound)]
  have origine : (bare.network.intercosOrigine pays).map (fun interco =>
      bare.problem.restreint point (.ntcDirect pdt interco)) =
      (bare.network.intercosOrigine pays).map fun interco => point (.ntcDirect pdt interco) := by
    apply List.map_congr_left
    intro interco listed
    exact bare.problem.restreint_of_mem (ntcDirect_mem inRange (Network.mem_intercosOrigine.mp listed).1)
  have extremite : (bare.network.intercosExtremite pays).map (fun interco =>
      bare.problem.restreint point (.ntcDirect pdt interco)) =
      (bare.network.intercosExtremite pays).map fun interco => point (.ntcDirect pdt interco) := by
    apply List.map_congr_left
    intro interco listed
    exact bare.problem.restreint_of_mem (ntcDirect_mem inRange (Network.mem_intercosExtremite.mp listed).1)
  rw [origine, extremite]
  split_ifs with unit
  · rw [bare.problem.restreint_of_mem (production_mem inRange bound unit)]
  · rfl

variable {passage : Passage} {point : Variable → Rat}
  (feasible : (bare.week.problemeDeLIntervalle passage 0).Feasible point)
include feasible

theorem balance_of_feasible :
    bare.ofBalance point pdt pays =
      -bare.charge pays pdt - settings.reserveComptee passage.optimizationNumber pays pdt := by
  obtain ⟨termes, emitted, present, value⟩ := areaBalance_value bare point pdt pays
  have holds : Sense.eq.Holds (termes.value (bare.problem.restreint point))
      (bare.week.secondMembre passage (0 * bare.week.problem.pas) (.areaBalance pdt pays)) := by
    apply bare.problem.holds_of_forall_mem_build _ present (positive_mem inRange bound)
    rw [← emitted]
    intro ligne listed
    apply feasible.rows { label := ligne.contrainte, sense := ligne.sens, terms := ligne.termes }
    apply List.mem_map.mpr
    refine ⟨ligne, ?_, rfl⟩
    apply List.mem_append_left
    apply List.mem_append_left
    apply List.mem_flatMap.mpr
    refine ⟨pdt, List.mem_range.mpr inRange, ?_⟩
    change ligne ∈ bare.problem.lignesDuPasDeTemps pdt
    rw [lignesDuPasDeTemps_eq]
    apply List.mem_flatMap.mpr
    exact ⟨pays, List.mem_range.mpr (bare.nombreDePays_eq ▸ bound), List.mem_append_left _ listed⟩
  rw [value, ofBalance_restreint inRange bound] at holds
  simpa [Week.secondMembre, Sense.Holds, week] using holds

theorem served_of_feasible :
    bare.charge pays pdt + settings.reserveComptee passage.optimizationNumber pays pdt +
        bare.export_ (fun interco => point (.ntcDirect pdt interco)) pays ≤
      (if bare.hasUnit pays then point (.dispatchableProduction pdt (bare.problem.numeroDuPalier pays 0)) else 0) +
        point (.positiveUnsuppliedEnergy pdt pays) := by
  have balance := balance_of_feasible inRange bound feasible
  have spilled : 0 ≤ point (.negativeUnsuppliedEnergy pdt pays) :=
    (feasible.within _ (negative_mem inRange bound)).1 0 rfl
  unfold ofBalance at balance
  linarith

theorem unsupplied_of_feasible :
    0 ≤ point (.positiveUnsuppliedEnergy pdt pays) ∧
    point (.positiveUnsuppliedEnergy pdt pays) ≤
      bare.week.xmaxDeLaDefaillance passage.optimizationNumber pays pdt ∧
    (passage.adequacyFirstStep = false → settings.inside pays = true →
      point (.positiveUnsuppliedEnergy pdt pays) ≤ passage.valeursHorairesDENS pays pdt) := by
  have within := feasible.within _ (positive_mem inRange bound)
  simp only [Week.problemeDeLIntervalle, Week.bornes, Nat.zero_mul, Nat.zero_add, Int.toNat_natCast] at within
  exact (bare.week.bornesDeLaDefaillancePositive_contains passage).mp within

theorem production_of_feasible (unit : bare.hasUnit pays = true) :
    point (.dispatchableProduction pdt (bare.problem.numeroDuPalier pays 0)) ≤
      (passage.paliers (bare.problem.numeroDuPalier pays 0)).puissanceDisponible pdt := by
  have within := feasible.within _ (production_mem inRange bound unit)
  simp only [Week.problemeDeLIntervalle, Week.bornes, Nat.zero_mul, Nat.zero_add, Int.toNat_natCast] at within
  exact within.2 _ rfl

end Rows

section Starts
variable {bare}

theorem mem_groupesDuPays {pays : Nat} {couple : GroupeThermique × Nat}
    (listed : couple ∈ bare.problem.groupesDuPays pays) :
    bare.hasUnit pays = true ∧ couple = (partialGroup, bare.problem.numeroDuPalier pays 0) := by
  unfold WeeklyProblem.groupesDuPays at listed
  cases unit : bare.hasUnit pays with
  | false => simp [problem, unit] at listed
  | true => simpa [problem, unit] using listed

theorem dernieresHeures_eq (pdt : Nat) : bare.problem.dernieresHeures pdt 1 = [(pdt : Int)] := by
  simp [WeeklyProblem.dernieresHeures]

variable {pdt pays : Nat} (starts : settings.ucMode.optimisationAvecCoutsDeDemarrage = true)
  (inRange : pdt < nbHoursInWeek) (bound : pays < settings.nombreDePays) (unit : bare.hasUnit pays = true)
include starts inRange bound unit

theorem mem_of_demarrage {variable_ : Variable}
    (listed : variable_ ∈ [Variable.numberOfDispatchableUnits pdt (bare.problem.numeroDuPalier pays 0),
      .numberStartingDispatchableUnits pdt (bare.problem.numeroDuPalier pays 0),
      .numberStoppingDispatchableUnits pdt (bare.problem.numeroDuPalier pays 0),
      .numberBreakingDownDispatchableUnits pdt (bare.problem.numeroDuPalier pays 0)]) :
    variable_ ∈ bare.problem.listeDesVariables := by
  apply bare.problem.mem_listeDesVariables.mpr
  refine .inr (.inr (.inr (.inr ⟨starts, pays, bare.nombreDePays_eq ▸ bound, ?_⟩)))
  apply List.mem_flatMap.mpr
  refine ⟨0, ?_, ?_⟩
  · simp [WeeklyProblem.nombreDePaliersThermiques, problem, unit]
  · exact List.mem_flatMap.mpr ⟨pdt, List.mem_range.mpr inRange, listed⟩

end Starts

section Points

def RowHolds (passage : Passage) (point : Variable → Rat) (ligne : Ligne) : Prop :=
  ligne.sens.Holds (ligne.termes.value point) (bare.week.secondMembre passage 0 ligne.contrainte)

/-- What a supply keeps to for its point to solve a problem of the week. -/
structure Supply.Fits (supply : Supply) (passage : Passage) : Prop where
  flow : ∀ interco pdt, (bare.week.bornesDeLInterconnexion passage interco pdt).Contains (supply.flow interco pdt)
  unsupplied : ∀ pays < settings.nombreDePays, ∀ pdt,
    (bare.week.bornesDeLaDefaillancePositive passage pays pdt).Contains (supply.unsupplied pays pdt)
  production : ∀ pays, bare.hasUnit pays = true → ∀ palier pdt,
    (passage.paliers palier).puissanceMin pdt ≤ supply.production ∧
      supply.production ≤ (passage.paliers palier).puissanceDisponible pdt
  units : ∀ pays, bare.hasUnit pays = true → ∀ palier pdt,
    (passage.paliers palier).nombreMinDeGroupesEnMarche pdt ≤ supply.units ∧
      supply.units ≤ (passage.paliers palier).nombreMaxDeGroupesEnMarche pdt
  nonneg : 0 ≤ supply.production
  pmin : 2 * supply.units ≤ supply.production
  pmax : supply.production ≤ 4 * supply.units
  balance : ∀ pays < settings.nombreDePays, ∀ pdt < nbHoursInWeek,
    bare.export_ (fun interco => supply.flow interco pdt) pays -
        (if bare.hasUnit pays then supply.production else 0) - supply.unsupplied pays pdt =
      -bare.charge pays pdt - settings.reserveComptee passage.optimizationNumber pays pdt

variable {bare} {supply : Supply} {passage : Passage} (fits : supply.Fits bare passage)
include fits

theorem Supply.Fits.within {column : Variable} (listed : column ∈ bare.problem.listeDesVariables) :
    (bare.week.bornes passage 0 column).Contains (supply.point column) := by
  have unit {palier : Nat} (dansLePays : ∃ pays < bare.network.nombreDePays,
      ∃ index < bare.problem.nombreDePaliersThermiques pays, palier = bare.problem.numeroDuPalier pays index) :
      ∃ pays, bare.hasUnit pays = true := by
    obtain ⟨pays, -, index, inside, -⟩ := dansLePays
    refine ⟨pays, ?_⟩
    by_contra absent
    simp [WeeklyProblem.nombreDePaliersThermiques, problem, absent] at inside
  have famille := famille_of_mem listed
  cases column with
  | ntcDirect pdt interco =>
    simp only [Week.bornes, Nat.zero_add]
    exact fits.flow interco pdt.toNat
  | intercoDirectCost pdt interco =>
    have above := bare.capacite_nonneg
    simp only [Week.bornes, Week.loopFlow, week, Supply.point, Option.map_some, Bounds.contains_between, le_refl,
      true_and, reduceCtorEq, if_false]
    linarith
  | intercoIndirectCost pdt interco =>
    simp only [Week.bornes, Week.loopFlow, week, Supply.point, Option.map_some, Bounds.contains_between, le_refl,
      true_and, reduceCtorEq, if_false]
    norm_num
  | dispatchableProduction pdt palier =>
    obtain ⟨pays, here⟩ := unit (bare.problem.dansLePays_of_mem listed (.inl rfl))
    exact Bounds.contains_between.mpr (fits.production pays here palier (0 + pdt.toNat))
  | shortTermStorageInjection pdt index => simp [Week.bornes, week, noStorage, Supply.point]
  | shortTermStorageWithdrawal pdt index => simp [Week.bornes, week, noStorage, Supply.point]
  | shortTermStorageLevel pdt index => simp [Week.bornes, Week.bornesDuNiveau, week, noStorage, Supply.point]
  | positiveUnsuppliedEnergy pdt pays =>
    have bound := bare.nombreDePays_eq ▸ bare.problem.pays_lt_of_mem listed
    simp only [Week.bornes, Nat.zero_add]
    exact fits.unsupplied pays bound pdt.toNat
  | negativeUnsuppliedEnergy pdt pays => simp [Week.bornes, Supply.point]
  | numberOfDispatchableUnits pdt palier =>
    obtain ⟨pays, here⟩ := unit (bare.problem.dansLePays_of_mem listed (.inr rfl))
    exact Bounds.contains_between.mpr (fits.units pays here palier (0 + pdt.toNat))
  | numberStartingDispatchableUnits pdt palier => simp [Week.bornes, Supply.point]
  | numberStoppingDispatchableUnits pdt palier => simp [Week.bornes, Supply.point]
  | numberBreakingDownDispatchableUnits pdt palier =>
    simp only [Week.bornes, Supply.point, Bounds.contains_between, le_refl, true_and]
    exact_mod_cast bare.week.groupesPerdus_nonneg passage palier (0 + pdt.toNat)
  | _ => simp [Variable.famille] at famille

variable {pdt pays : Nat} (inRange : pdt < nbHoursInWeek) (bound : pays < settings.nombreDePays)
include inRange bound

theorem Supply.Fits.areaBalance :
    ∀ ligne ∈ bare.problem.areaBalance pdt pays, bare.RowHolds passage supply.point ligne := by
  obtain ⟨termes, emitted, -, value⟩ := areaBalance_value bare supply.point pdt pays
  rw [emitted]
  apply bare.problem.forall_mem_build_holds
  rw [value, ofBalance_restreint inRange bound]
  have balance := fits.balance pays bound pdt inRange
  simp only [Sense.Holds, ofBalance, Supply.point, Week.secondMembre, Nat.zero_add, Int.toNat_natCast, add_zero]
  exact balance

theorem Supply.Fits.fictitiousLoad :
    ∀ ligne ∈ bare.problem.fictitiousLoad pdt pays, bare.RowHolds passage supply.point ligne := by
  obtain ⟨termes, emitted, value⟩ := fictitiousLoad_value bare supply.point pdt pays
  rw [emitted]
  apply bare.problem.forall_mem_build_holds
  rw [value, bare.problem.restreint_of_mem (negative_mem inRange bound)]
  have nothing : bare.week.secondMembre passage 0 (.fictitiousLoad pdt pays) = 0 := by
    simp [Week.secondMembre, Week.secondMembreDeLaChargeFictive, week]
  rw [nothing]
  split_ifs with unit
  · rw [bare.problem.restreint_of_mem (production_mem inRange bound unit)]
    simpa [Sense.Holds, Supply.point] using fits.nonneg
  · simp [Sense.Holds, Supply.point]

variable (starts : settings.ucMode.optimisationAvecCoutsDeDemarrage = true) (unit : bare.hasUnit pays = true)
include starts unit

theorem Supply.Fits.pMaxDispatchableGeneration :
    ∀ ligne ∈ bare.problem.pMaxDispatchableGeneration partialGroup (bare.problem.numeroDuPalier pays 0) pdt,
      bare.RowHolds passage supply.point ligne := by
  apply bare.problem.forall_mem_build_holds
  have pmax := fits.pmax
  simp only [Terms.value_cons, Terms.value_nil,
    bare.problem.restreint_of_mem (production_mem inRange bound unit),
    bare.problem.restreint_of_mem (mem_of_demarrage starts inRange bound unit List.mem_cons_self)]
  simp only [Sense.Holds, Supply.point, partialGroup, Week.secondMembre]
  linarith

theorem Supply.Fits.pMinDispatchableGeneration :
    ∀ ligne ∈ bare.problem.pMinDispatchableGeneration partialGroup (bare.problem.numeroDuPalier pays 0) pdt,
      bare.RowHolds passage supply.point ligne := by
  apply bare.problem.forall_mem_build_holds
  have pmin := fits.pmin
  simp only [Terms.value_cons, Terms.value_nil,
    bare.problem.restreint_of_mem (production_mem inRange bound unit),
    bare.problem.restreint_of_mem (mem_of_demarrage starts inRange bound unit List.mem_cons_self)]
  simp only [Sense.Holds, Supply.point, partialGroup, Week.secondMembre]
  linarith

omit fits in
theorem Supply.consistenceNumberOfDispatchableUnits (supply : Supply) :
    ∀ ligne ∈ bare.problem.consistenceNumberOfDispatchableUnits (bare.problem.numeroDuPalier pays 0) pdt,
      bare.RowHolds passage supply.point ligne := by
  apply bare.problem.forall_mem_build_holds
  -- the hour before is one of the week, at the first hour too
  obtain ⟨before, beforeInRange, same⟩ : ∃ before < nbHoursInWeek,
      (if (pdt : Int) - 1 < 0 then (bare.problem.pas : Int) + ((pdt : Int) - 1) else (pdt : Int) - 1) =
        (before : Nat) := by
    have pas : bare.problem.pas = nbHoursInWeek := rfl
    split_ifs with first
    · exact ⟨nbHoursInWeek - 1, by decide, by omega⟩
    · exact ⟨pdt - 1, by omega, by omega⟩
  have starting : bare.problem.restreint supply.point
      (.numberStartingDispatchableUnits pdt (bare.problem.numeroDuPalier pays 0)) = 0 :=
    bare.problem.restreint_of_eq_zero rfl
  have stopping : bare.problem.restreint supply.point
      (.numberStoppingDispatchableUnits pdt (bare.problem.numeroDuPalier pays 0)) = 0 :=
    bare.problem.restreint_of_eq_zero rfl
  rw [same]
  simp only [Terms.value_cons, Terms.value_nil, starting, stopping,
    bare.problem.restreint_of_mem (mem_of_demarrage starts inRange bound unit List.mem_cons_self),
    bare.problem.restreint_of_mem (mem_of_demarrage starts beforeInRange bound unit List.mem_cons_self)]
  simp [Sense.Holds, Supply.point, Week.secondMembre]

omit fits inRange bound starts unit in
theorem Supply.nbUnitsOutageLessThanNbUnitsStop (supply : Supply) (palier : Nat) :
    ∀ ligne ∈ bare.problem.nbUnitsOutageLessThanNbUnitsStop palier pdt,
      bare.RowHolds passage supply.point ligne := by
  apply bare.problem.forall_mem_build_holds
  have breaking : bare.problem.restreint supply.point (.numberBreakingDownDispatchableUnits pdt palier) = 0 :=
    bare.problem.restreint_of_eq_zero rfl
  have stopping : bare.problem.restreint supply.point (.numberStoppingDispatchableUnits pdt palier) = 0 :=
    bare.problem.restreint_of_eq_zero rfl
  simp [Sense.Holds, Week.secondMembre, breaking, stopping]

theorem Supply.Fits.nbDispUnitsMinBoundSinceMinUpTime {builder : ConstraintBuilder}
    (before : WeeklyProblem.Satisfied supply.point (bare.week.secondMembre passage 0) builder) :
    WeeklyProblem.Satisfied supply.point (bare.week.secondMembre passage 0)
      (bare.problem.nbDispUnitsMinBoundSinceMinUpTime partialGroup (bare.problem.numeroDuPalier pays 0) pdt
        builder) := by
  have hours : bare.problem.dernieresHeures pdt partialGroup.dureeMinimaleDeMarche = [(pdt : Int)] :=
    dernieresHeures_eq pdt
  unfold WeeklyProblem.nbDispUnitsMinBoundSinceMinUpTime
  rw [hours]
  apply before.buildIfSeveral
  · exact mem_of_demarrage starts inRange bound unit (by simp)
  · exact mem_of_demarrage starts inRange bound unit (by simp)
  · have running : 0 ≤ supply.units := by linarith [fits.nonneg, fits.pmax]
    have starting : bare.problem.restreint supply.point
        (.numberStartingDispatchableUnits pdt (bare.problem.numeroDuPalier pays 0)) = 0 :=
      bare.problem.restreint_of_eq_zero rfl
    have breaking : bare.problem.restreint supply.point
        (.numberBreakingDownDispatchableUnits pdt (bare.problem.numeroDuPalier pays 0)) = 0 :=
      bare.problem.restreint_of_eq_zero rfl
    rw [Terms.value_cons,
      bare.problem.restreint_of_mem (mem_of_demarrage starts inRange bound unit List.mem_cons_self)]
    simpa [Sense.Holds, Supply.point, Week.secondMembre, starting, breaking] using running

omit inRange bound starts in
theorem Supply.Fits.units_le (palier pdt : Nat) :
    supply.units ≤ bare.week.secondMembreDeLaDureeMinDArret passage palier pdt := by
  unfold Week.secondMembreDeLaDureeMinDArret
  dsimp only
  have gained : 0 ≤ ((bare.week.problem.dernieresHeures pdt (bare.week.dureeMinimaleDArret palier)).map fun t1 =>
      let gain := (passage.paliers palier).nombreMaxDeGroupesEnMarche t1.toNat -
        (passage.paliers palier).nombreMaxDeGroupesEnMarche (bare.week.heureCyclique (t1 - 1))
      if 0 < gain then gain else 0).sum := by
    apply List.sum_nonneg
    intro gain listed
    obtain ⟨t1, -, rfl⟩ := List.mem_map.mp listed
    dsimp only
    split_ifs with more
    · exact more.le
    · exact le_rfl
  apply (fits.units pays unit palier _).2.trans
  exact_mod_cast le_add_of_nonneg_right gained

theorem Supply.Fits.minDownTime {builder : ConstraintBuilder}
    (before : WeeklyProblem.Satisfied supply.point (bare.week.secondMembre passage 0) builder) :
    WeeklyProblem.Satisfied supply.point (bare.week.secondMembre passage 0)
      (bare.problem.minDownTime partialGroup (bare.problem.numeroDuPalier pays 0) pdt builder) := by
  have hours : bare.problem.dernieresHeures pdt partialGroup.dureeMinimaleDArret = [(pdt : Int)] :=
    dernieresHeures_eq pdt
  unfold WeeklyProblem.minDownTime
  rw [hours]
  apply before.buildIfSeveral
  · exact mem_of_demarrage starts inRange bound unit (by simp)
  · exact mem_of_demarrage starts inRange bound unit (by simp)
  · have allowed := fits.units_le unit (bare.problem.numeroDuPalier pays 0) (0 + pdt)
    simp only [Terms.value_cons, Terms.value_nil, List.map_nil,
      bare.problem.restreint_of_mem (mem_of_demarrage starts inRange bound unit List.mem_cons_self),
      bare.problem.restreint_of_eq_zero (show supply.point (.numberStoppingDispatchableUnits _ _) = 0 from rfl)]
    simpa [Sense.Holds, Supply.point, Week.secondMembre] using allowed

omit inRange bound unit in
theorem Supply.Fits.lignesDeDemarrage :
    ∀ ligne ∈ bare.problem.lignesDeDemarrage, bare.RowHolds passage supply.point ligne := by
  have empty : WeeklyProblem.Satisfied supply.point (bare.week.secondMembre passage 0)
      { termes := [], lignes := [] } := ⟨rfl, List.forall_mem_nil _⟩
  unfold WeeklyProblem.lignesDeDemarrage WeeklyProblem.parGroupeEtHeure
  simp only [List.forall_mem_append, List.forall_mem_flatMap, List.mem_range]
  have area {pays : Nat} (bound : pays < bare.problem.network.nombreDePays) : pays < settings.nombreDePays :=
    bare.nombreDePays_eq ▸ bound
  refine ⟨⟨⟨⟨?_, ?_⟩, ?_⟩, ?_⟩, ?_⟩
  · intro pays bound couple listed pdt inRange
    obtain ⟨unit, rfl⟩ := mem_groupesDuPays listed
    exact ⟨fits.pMaxDispatchableGeneration inRange (area bound) starts unit,
      fits.pMinDispatchableGeneration inRange (area bound) starts unit⟩
  · intro pays bound couple listed pdt inRange
    obtain ⟨unit, rfl⟩ := mem_groupesDuPays listed
    exact supply.consistenceNumberOfDispatchableUnits inRange (area bound) starts unit
  · intro pays bound couple listed pdt inRange
    exact supply.nbUnitsOutageLessThanNbUnitsStop couple.2
  · intro pays bound
    obtain ⟨builder, satisfied, same⟩ := bare.problem.parGroupeEtHeureAvec_invariant empty
      fun couple listed pdt inRange builder before => by
        obtain ⟨unit, rfl⟩ := mem_groupesDuPays (List.mem_of_mem_filter listed)
        exact fits.nbDispUnitsMinBoundSinceMinUpTime inRange (area bound) starts unit before
    rw [same]
    exact satisfied.lignes
  · intro pays bound
    obtain ⟨builder, satisfied, same⟩ := bare.problem.parGroupeEtHeureAvec_invariant empty
      fun couple listed pdt inRange builder before => by
        obtain ⟨unit, rfl⟩ := mem_groupesDuPays listed
        exact fits.minDownTime inRange (area bound) starts unit before
    rw [same]
    exact satisfied.lignes

omit inRange bound starts unit in
/-- A supply that fits is a feasible point, where numbers of units need not be whole. -/
theorem Supply.Fits.feasible (continuous : settings.ucMode.optimisationAvecVariablesEntieres = false) :
    (bare.week.problemeDeLIntervalle passage 0).Feasible supply.point := by
  constructor
  · intro column listed
    have within := fits.within listed
    rwa [← Nat.zero_mul bare.week.problem.pas] at within
  · intro column _ whole
    have never : settings.variablesEntieres column = false := by
      cases column <;> first | rfl | exact continuous
    rw [show (bare.week.problemeDeLIntervalle passage 0).integral = settings.variablesEntieres from rfl, never] at whole
    cases whole
  · intro row listed
    obtain ⟨ligne, emitted, rfl⟩ := List.mem_map.mp listed
    have holds : bare.RowHolds passage supply.point ligne := by
      change ligne ∈ bare.problem.construireLaMatriceDesContraintes at emitted
      unfold WeeklyProblem.construireLaMatriceDesContraintes at emitted
      rw [lignesDeLaPeriode_eq, List.append_nil] at emitted
      rcases List.mem_append.mp emitted with hourly | start
      · obtain ⟨pdt, inRange, here⟩ := List.mem_flatMap.mp hourly
        rw [lignesDuPasDeTemps_eq] at here
        obtain ⟨pays, bound, here⟩ := List.mem_flatMap.mp here
        have area : pays < settings.nombreDePays := bare.nombreDePays_eq ▸ List.mem_range.mp bound
        rcases List.mem_append.mp here with balance | fictitious
        · exact fits.areaBalance (List.mem_range.mp inRange) area ligne balance
        · exact fits.fictitiousLoad (List.mem_range.mp inRange) area ligne fictitious
      · split_ifs at start with starts
        · exact fits.lignesDeDemarrage starts ligne start
        · cases start
    unfold RowHolds at holds
    rwa [← Nat.zero_mul bare.week.problem.pas] at holds

end Points

end BareWeek

end Antares.AdequacyPatch
