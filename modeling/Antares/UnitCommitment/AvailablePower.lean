import Antares.UnitCommitment.AvailableUnits
import Mathlib.Algebra.Order.Group.MinMax

/-! A week without constraints of the user, at its available power: no flow, every cluster at its available
power with all its available units on, and any hydro schedule. When energy can be left unsupplied
or spilled, and units started, so that every row and bound of the two optimisations holds.
-/

set_option autoImplicit false

namespace Antares.Optimisation

open Library

def Contrainte.hydraulique : Contrainte → Bool
  | .hydroPower .. | .hydroPowerSmoothingUsingVariationSum .. | .hydroPowerSmoothingUsingVariationMaxDown ..
  | .hydroPowerSmoothingUsingVariationMaxUp .. | .minHydroPower .. | .maxHydroPower .. | .maxPumping ..
  | .areaHydroLevel .. | .finalStockEquivalent .. | .finalStockExpression .. => true
  | _ => false

def Variable.hydraulique : Variable → Bool
  | .hydProd .. | .hydProdDown .. | .hydProdUp .. | .pumping .. | .hydroLevel .. | .overflow .. | .finalStorage ..
  | .layerStorage .. => true
  | _ => false

def Ligne.Hydraulique (ligne : Ligne) : Prop :=
  ligne.contrainte.hydraulique = true ∧ ∀ terme ∈ ligne.termes, terme.1.hydraulique = true

namespace WeeklyProblem

variable {problem : WeeklyProblem}

theorem build_hydraulique {contrainte : Contrainte} {sens : Sense} {termes : Terms Variable Rat}
    (kind : contrainte.hydraulique = true) (terms : ∀ terme ∈ termes, terme.1.hydraulique = true) :
    ∀ ligne ∈ problem.build contrainte sens termes, ligne.Hydraulique := by
  intro ligne listed
  obtain ⟨rfl, -, same⟩ := problem.mem_build listed
  refine ⟨kind, fun terme present => terms terme ?_⟩
  rw [same] at present
  exact List.mem_of_mem_filter present

theorem lignesDeLaPeriode_hydraulique (couplages : problem.contraintesCouplantes = []) :
    ∀ ligne ∈ problem.lignesDeLaPeriode, ligne.Hydraulique := by
  unfold lignesDeLaPeriode hydroPower minHydroPower maxHydroPower maxPumping areaHydroLevel finalStockEquivalent
    finalStockExpression
  rw [couplages]
  simp only [List.zipIdx_nil, List.flatMap_nil, ite_self, List.nil_append, List.forall_mem_append, List.forall_mem_flatMap]
  refine ⟨⟨⟨⟨⟨?_, ?_⟩, ?_⟩, ?_⟩, ?_⟩, ?_⟩
  · intro pays _
    exact forall_mem_ite fun _ => build_hydraulique rfl <| by
      split_ifs
      · simp only [List.forall_mem_flatMap, List.forall_mem_cons, List.not_mem_nil, false_imp_iff, implies_true,
          Variable.hydraulique, and_true]
      · simp [Variable.hydraulique]
  · intro pays _
    unfold lignesDeLissage hydroPowerSmoothingUsingVariationSum hydroPowerSmoothingUsingVariationMaxDown
      hydroPowerSmoothingUsingVariationMaxUp
    split
    · apply forall_mem_ite
      simp only [List.forall_mem_flatMap]
      intro _ pdt _
      exact build_hydraulique rfl (by simp [Variable.hydraulique])
    · simp only [List.forall_mem_append, List.forall_mem_flatMap]
      intro pdt _
      exact ⟨forall_mem_ite fun _ => build_hydraulique rfl (by simp [Variable.hydraulique]),
        forall_mem_ite fun _ => build_hydraulique rfl (by simp [Variable.hydraulique])⟩
    · exact List.forall_mem_nil _
  · intro pays _
    exact ⟨forall_mem_ite fun _ => build_hydraulique rfl (by simp [Variable.hydraulique]),
      forall_mem_ite fun _ => build_hydraulique rfl (by simp [Variable.hydraulique])⟩
  · intro pays _
    exact forall_mem_ite fun _ => build_hydraulique rfl (by simp [Variable.hydraulique])
  · intro pdt _ pays _
    exact forall_mem_ite fun _ => build_hydraulique rfl (by split_ifs <;> simp [Variable.hydraulique])
  · intro pays _
    exact ⟨forall_mem_ite fun _ => build_hydraulique rfl (by simp [Variable.hydraulique]),
      forall_mem_ite fun _ => build_hydraulique rfl (by simp [Variable.hydraulique])⟩

end WeeklyProblem

end Antares.Optimisation

namespace Antares.AdequacyPatch

open Optimisation Library Thermal

def WeekSettings.optimisations (settings : WeekSettings) : List OptimizationNumber :=
  if settings.deuxOptimisations then [.premiereOptimisation, .deuxiemeOptimisation] else [.premiereOptimisation]

namespace Week

variable {settings : WeekSettings} (week : Week settings)

/-- A week optimised at once without constraints of the user, in whose areas all energy can be spilled,
with clusters that are written from those of the study. -/
structure SansContrainte (clusters : Nat → StableCluster) : Prop where
  semaine : week.problem.range = .sorWeek
  couplages : week.problem.contraintesCouplantes = []
  stockages : ∀ pays, week.problem.shortTermStorage pays = []
  loopFlow_le : ∀ interco pdtHebdo, ∀ capacity ∈ week.valeurDeNTCOrigineVersExtremite interco pdtHebdo,
    week.loopFlow interco pdtHebdo ≤ capacity
  neg_le_loopFlow : ∀ interco pdtHebdo, ∀ capacity ∈ week.valeurDeNTCExtremiteVersOrigine interco pdtHebdo,
    -capacity ≤ week.loopFlow interco pdtHebdo
  hydro : ∀ pays < week.problem.network.nombreDePays, week.problem.defaillanceNegativeUtiliserHydro pays = true
  consommation : ∀ pays < week.problem.network.nombreDePays,
    week.defaillanceNegativeUtiliserConsoAbattue pays = true
  pmin : ∀ pays < week.problem.network.nombreDePays, week.defaillanceNegativeUtiliserPMinThermique pays = true
  durees : DureesMinimales week.problem
  issus : ∀ pays < week.problem.network.nombreDePays, ∀ couple ∈ week.problem.groupesDuPays pays,
    IssuDe (clusters couple.2) couple.1 (week.paliers couple.2)

/-- A schedule of the hydro variables that fits their bounds and rows, and pumps nothing. -/
structure SuitLHydraulique (passage : Passage) (schedule : Variable → Rat) : Prop where
  bornes : ∀ column ∈ week.problem.listeDesVariables, column.hydraulique = true →
    (week.bornes passage 0 column).Contains (schedule column)
  /-- Without binding constraints, these rows are those of hydro. -/
  lignes : ∀ ligne ∈ week.problem.lignesDeLaPeriode,
    ligne.sens.Holds (ligne.termes.value schedule) (week.secondMembre passage 0 ligne.contrainte)
  sansPompage : ∀ pdt pays, schedule (.pumping pdt pays) = 0

section Disponible
variable (passage : Passage) (schedule point : Variable → Rat)

/-- No flow, every cluster at its available power with all its available units on, and the schedule. -/
structure ADisponibilite : Prop where
  flux : ∀ pdt interco, point (.ntcDirect pdt interco) = 0
  production : ∀ pdt palier : Nat,
    point (.dispatchableProduction pdt palier) = (passage.paliers palier).puissanceDisponible pdt
  groupes : ∀ palier, week.ToutesEnMarche passage palier point
  hydraulique : ∀ variable_, variable_.hydraulique = true → point variable_ = schedule variable_

/-- What the clusters and the hydro plants of an area generate; an area without hydro has no variable for it. -/
def generation (pays pdt : Nat) : Rat :=
  ((List.range (week.problem.nombreDePaliersThermiques pays)).map fun index =>
    (passage.paliers (week.problem.numeroDuPalier pays index)).puissanceDisponible pdt).sum +
    week.problem.restreint schedule (.hydProd pdt pays)

def charge (pays pdt : Nat) : Rat :=
  week.consommationAbattueDuPays pays pdt + settings.reserveComptee passage.optimizationNumber pays pdt

/-- A negative generation is no more than must-run units and a negative load make up for. -/
structure Servi (pays pdt : Nat) : Prop where
  fictive : -week.generation passage schedule pays pdt ≤ max (week.allMustRunGenerationOfArea pays pdt) 0 +
    max (-(week.consommationAbattueDuPays pays pdt + week.allMustRunGenerationOfArea pays pdt)) 0
  defaillance : -week.generation passage schedule pays pdt ≤
    if 0 ≤ week.charge passage pays pdt + max (week.allMustRunGenerationOfArea pays pdt) 0 then
      max (week.allMustRunGenerationOfArea pays pdt) 0 + 1 / 100000
    else -week.charge passage pays pdt
  /-- The cap of local matching, in its second step only. -/
  dens : passage.adequacyFirstStep = false → settings.inside pays = true →
    0 ≤ passage.valeursHorairesDENS pays pdt ∧
      week.charge passage pays pdt ≤ week.generation passage schedule pays pdt + passage.valeursHorairesDENS pays pdt

variable {week passage schedule point}

theorem servi_of_nonneg {pays pdt : Nat} (nonneg : 0 ≤ week.generation passage schedule pays pdt)
    (outside : settings.inside pays = false) : week.Servi passage schedule pays pdt := by
  have mustRun := le_max_right (week.allMustRunGenerationOfArea pays pdt) 0
  have load := le_max_right (-(week.consommationAbattueDuPays pays pdt + week.allMustRunGenerationOfArea pays pdt)) 0
  constructor
  · linarith
  · split_ifs <;> linarith
  · intro _ inside
    rw [outside] at inside
    cases inside

theorem ite_pos_eq_max (value : Rat) : (if 0 < value then value else 0) = max value 0 := by
  split_ifs with positive
  · exact (max_eq_left positive.le).symm
  · exact (max_eq_right (not_lt.mp positive)).symm

variable {clusters : Nat → StableCluster} {pays pdt : Nat}

theorem SansContrainte.chargeFictive_eq (libre : week.SansContrainte clusters)
    (bound : pays < week.problem.network.nombreDePays) :
    week.secondMembreDeLaChargeFictive passage pays pdt = max (week.allMustRunGenerationOfArea pays pdt) 0 +
      max (-(week.consommationAbattueDuPays pays pdt + week.allMustRunGenerationOfArea pays pdt)) 0 := by
  unfold secondMembreDeLaChargeFictive
  dsimp only
  rw [if_pos (libre.consommation pays bound), if_pos (libre.pmin pays bound), ite_pos_eq_max, ite_pos_eq_max, sub_zero]

theorem xmaxDeLaDefaillance_eq (pays pdt : Nat) :
    week.xmaxDeLaDefaillance passage.optimizationNumber pays pdt =
      if 0 ≤ week.charge passage pays pdt + max (week.allMustRunGenerationOfArea pays pdt) 0 then
        week.charge passage pays pdt + max (week.allMustRunGenerationOfArea pays pdt) 0 + 1 / 100000
      else 0 := by
  unfold xmaxDeLaDefaillance charge
  dsimp only
  rw [ite_pos_eq_max]

theorem Servi.energies (servi : week.Servi passage schedule pays pdt) (libre : week.SansContrainte clusters)
    (bound : pays < week.problem.network.nombreDePays) :
    (week.bornesDeLaDefaillancePositive passage pays pdt).Contains
        (max (week.charge passage pays pdt - week.generation passage schedule pays pdt) 0) ∧
      max (week.generation passage schedule pays pdt - week.charge passage pays pdt) 0 ≤
        week.generation passage schedule pays pdt + week.secondMembreDeLaChargeFictive passage pays pdt := by
  have reserve : 0 ≤ settings.reserveComptee passage.optimizationNumber pays pdt := by
    unfold WeekSettings.reserveComptee
    split_ifs
    · exact settings.reserve_nonneg pays pdt
    · exact le_rfl
  have load : week.charge passage pays pdt =
    week.consommationAbattueDuPays pays pdt + settings.reserveComptee passage.optimizationNumber pays pdt := rfl
  have mustRun := le_max_left (week.allMustRunGenerationOfArea pays pdt) 0
  have spare := le_max_left (-(week.consommationAbattueDuPays pays pdt + week.allMustRunGenerationOfArea pays pdt)) 0
  obtain ⟨fictive, defaillance, dens⟩ := servi
  rw [bornesDeLaDefaillancePositive_contains, xmaxDeLaDefaillance_eq, libre.chargeFictive_eq bound]
  refine ⟨⟨le_max_right _ _, ?_, fun second inside => ?_⟩, max_le ?_ ?_⟩
  · have nonneg := le_max_right (week.allMustRunGenerationOfArea pays pdt) 0
    split_ifs at defaillance ⊢ with residual
    · exact max_le (by linarith) (by linarith)
    · exact max_le (by linarith) le_rfl
  · obtain ⟨nonneg, enough⟩ := dens second inside
    exact max_le (by linarith) nonneg
  · linarith
  · linarith

theorem SansContrainte.servi (libre : week.SansContrainte clusters) (bound : pays < week.problem.network.nombreDePays)
    {unsupplied spilled : Rat} (within : (week.bornesDeLaDefaillancePositive passage pays pdt).Contains unsupplied)
    (nonneg : 0 ≤ spilled)
    (balance : unsupplied - spilled = week.charge passage pays pdt - week.generation passage schedule pays pdt)
    (spillable : spilled ≤
      week.generation passage schedule pays pdt + week.secondMembreDeLaChargeFictive passage pays pdt) :
    week.Servi passage schedule pays pdt := by
  rw [bornesDeLaDefaillancePositive_contains, xmaxDeLaDefaillance_eq] at within
  rw [libre.chargeFictive_eq bound] at spillable
  obtain ⟨positive, below, cap⟩ := within
  constructor
  · linarith
  · split_ifs at below ⊢ <;> linarith
  · intro second inside
    have capped := cap second inside
    exact ⟨positive.trans capped, by linarith⟩

section Bilans
variable (libre : week.SansContrainte clusters) (suit : week.SuitLHydraulique passage schedule)
  (disponible : week.ADisponibilite passage schedule point) (inRange : pdt < week.problem.pas)
  (bound : pays < week.problem.network.nombreDePays)
include disponible inRange bound

theorem ADisponibilite.generation_eq :
    Terms.value (week.problem.exportPaliers pdt pays) (week.problem.restreint point) -
        week.problem.restreint point (.hydProd pdt pays) = -week.generation passage schedule pays pdt := by
  have hydraulique : week.problem.restreint point (.hydProd pdt pays) =
      week.problem.restreint schedule (.hydProd pdt pays) := by
    unfold WeeklyProblem.restreint
    rw [disponible.hydraulique _ rfl]
  have paliers : ((List.range (week.problem.nombreDePaliersThermiques pays)).map fun index =>
      (-1 : Rat) * week.problem.restreint point (.dispatchableProduction pdt (week.problem.numeroDuPalier pays index))) =
      (List.range (week.problem.nombreDePaliersThermiques pays)).map fun index =>
        (-1) * (passage.paliers (week.problem.numeroDuPalier pays index)).puissanceDisponible pdt := by
    refine List.map_congr_left fun index listed => congrArg _ ?_
    rw [week.problem.restreint_of_mem, disponible.production]
    apply week.problem.mem_of_mem_variablesDuPays inRange bound
    exact List.mem_append_left _ (List.mem_append_left _ (List.mem_map_of_mem listed))
  unfold WeeklyProblem.exportPaliers generation
  rw [Terms.value_map, paliers, List.sum_map_mul_left, hydraulique]
  ring

omit disponible in
theorem energies_mem : .positiveUnsuppliedEnergy pdt pays ∈ week.problem.listeDesVariables ∧
    .negativeUnsuppliedEnergy pdt pays ∈ week.problem.listeDesVariables :=
  ⟨week.problem.mem_of_mem_variablesDuPays inRange bound (List.mem_append_right _ (by simp)),
    week.problem.mem_of_mem_variablesDuPays inRange bound (List.mem_append_right _ (by simp))⟩

include libre suit in
theorem ADisponibilite.areaBalance_iff :
    (∀ ligne ∈ week.problem.areaBalance pdt pays,
        ligne.sens.Holds (ligne.termes.value point) (week.secondMembre passage 0 ligne.contrainte)) ↔
      point (.positiveUnsuppliedEnergy pdt pays) - point (.negativeUnsuppliedEnergy pdt pays) =
        week.charge passage pays pdt - week.generation passage schedule pays pdt := by
  obtain ⟨unsupplied, spilled⟩ := energies_mem inRange bound
  have generated := disponible.generation_eq inRange bound
  have noStorage : week.problem.shortTermStorageBalance pdt pays = [] := by
    unfold WeeklyProblem.shortTermStorageBalance
    rw [libre.stockages]
    rfl
  have noFlow (links : List Nat) (sign : Rat) : Terms.value (links.map fun interco => (Variable.ntcDirect pdt interco, sign))
      (week.problem.restreint point) = 0 := by
    rw [Terms.value_map]
    refine List.sum_eq_zero fun term listed => ?_
    obtain ⟨interco, -, rfl⟩ := List.mem_map.mp listed
    rw [week.problem.restreint_of_eq_zero (disponible.flux pdt interco), mul_zero]
  have noPumping : week.problem.restreint point (.pumping pdt pays) = 0 := by
    apply week.problem.restreint_of_eq_zero
    rw [disponible.hydraulique _ rfl]
    exact suit.sansPompage pdt pays
  unfold WeeklyProblem.areaBalance
  rw [noStorage]
  set termes := _ ++ _ ++ _ ++ _ ++ [] with same
  have value : Terms.value termes (week.problem.restreint point) = -week.generation passage schedule pays pdt -
      point (.positiveUnsuppliedEnergy pdt pays) + point (.negativeUnsuppliedEnergy pdt pays) := by
    simp only [same, Terms.value_append, Terms.value_cons, Terms.value_nil, noFlow, noPumping,
      week.problem.restreint_of_mem unsupplied, week.problem.restreint_of_mem spilled]
    linarith
  have rest : week.secondMembre passage 0 (.areaBalance pdt pays) = -week.charge passage pays pdt := by
    rw [secondMembre, Nat.zero_add, charge]
    ring
  constructor
  · intro rows
    have present : (Variable.positiveUnsuppliedEnergy pdt pays, (-1 : Rat)) ∈ termes := by simp [same]
    have holds := week.problem.holds_of_forall_mem_build rows present unsupplied
    rw [value, rest] at holds
    have equal : -week.generation passage schedule pays pdt - point (.positiveUnsuppliedEnergy pdt pays) +
      point (.negativeUnsuppliedEnergy pdt pays) = -week.charge passage pays pdt := holds
    linarith
  · intro balance
    apply week.problem.forall_mem_build_holds
    rw [value, rest]
    change _ = _
    linarith

include libre in
theorem ADisponibilite.fictitiousLoad_iff :
    (∀ ligne ∈ week.problem.fictitiousLoad pdt pays,
        ligne.sens.Holds (ligne.termes.value point) (week.secondMembre passage 0 ligne.contrainte)) ↔
      point (.negativeUnsuppliedEnergy pdt pays) ≤
        week.generation passage schedule pays pdt + week.secondMembreDeLaChargeFictive passage pays pdt := by
  have spilled := (energies_mem inRange bound).2
  have generated := disponible.generation_eq inRange bound
  have value : Terms.value (week.problem.exportPaliers pdt pays ++ [(.hydProd pdt pays,
      if week.problem.defaillanceNegativeUtiliserHydro pays then -1 else 0), (.negativeUnsuppliedEnergy pdt pays, 1)])
      (week.problem.restreint point) =
        -week.generation passage schedule pays pdt + point (.negativeUnsuppliedEnergy pdt pays) := by
    rw [if_pos (libre.hydro pays bound)]
    simp only [Terms.value_append, Terms.value_cons, Terms.value_nil, week.problem.restreint_of_mem spilled]
    linarith
  have rest : week.secondMembre passage 0 (.fictitiousLoad pdt pays) =
      week.secondMembreDeLaChargeFictive passage pays pdt := by
    rw [secondMembre, Nat.zero_add]
  unfold WeeklyProblem.fictitiousLoad
  constructor
  · intro rows
    have holds := week.problem.holds_of_forall_mem_build rows
      (List.mem_append_right _ (List.mem_cons_of_mem _ List.mem_cons_self)) spilled
    rw [value, rest] at holds
    have below : -week.generation passage schedule pays pdt + point (.negativeUnsuppliedEnergy pdt pays) ≤
      week.secondMembreDeLaChargeFictive passage pays pdt := holds
    linarith
  · intro spillable
    apply week.problem.forall_mem_build_holds
    rw [value, rest]
    change _ ≤ _
    linarith

end Bilans

section Point

variable (week passage schedule) in
/-- Everything at the available power: the loop flow of a link is the difference of its two costs. -/
def pointDisponible : Variable → Rat
  | .ntcDirect _ _ => 0
  | .intercoDirectCost pdt interco => max (-week.loopFlow interco pdt.toNat) 0
  | .intercoIndirectCost pdt interco => max (week.loopFlow interco pdt.toNat) 0
  | .dispatchableProduction pdt palier => (passage.paliers palier).puissanceDisponible pdt.toNat
  | .positiveUnsuppliedEnergy pdt pays =>
    max (week.charge passage pays pdt.toNat - week.generation passage schedule pays pdt.toNat) 0
  | .negativeUnsuppliedEnergy pdt pays =>
    max (week.generation passage schedule pays pdt.toNat - week.charge passage pays pdt.toNat) 0
  | .numberOfDispatchableUnits pdt palier => (passage.paliers palier).nombreMaxDeGroupesEnMarche pdt.toNat
  | .numberStartingDispatchableUnits pdt palier => week.groupesRevenus passage palier pdt.toNat
  | .numberStoppingDispatchableUnits pdt palier | .numberBreakingDownDispatchableUnits pdt palier =>
    week.groupesPerdus passage palier pdt.toNat
  | autre => schedule autre

theorem pointDisponible_tousDemarres (palier : Nat) :
    week.TousDemarres passage palier (week.pointDisponible passage schedule) :=
  ⟨⟨fun _ _ => rfl, fun _ _ => rfl, fun _ _ => rfl⟩, fun _ _ => rfl⟩

theorem pointDisponible_hydraulique {variable_ : Variable} (hydraulique : variable_.hydraulique = true) :
    week.pointDisponible passage schedule variable_ = schedule variable_ := by
  cases variable_ <;> first | rfl | cases hydraulique

theorem pointDisponible_aDisponibilite :
    week.ADisponibilite passage schedule (week.pointDisponible passage schedule) where
  flux _ _ := rfl
  production _ _ := rfl
  groupes palier := (pointDisponible_tousDemarres palier).toToutesEnMarche
  hydraulique _ := pointDisponible_hydraulique

theorem SansContrainte.couts_within (libre : week.SansContrainte clusters) (interco pdtHebdo : Nat) :
    (∀ capacity ∈ week.valeurDeNTCOrigineVersExtremite interco pdtHebdo,
        max (-week.loopFlow interco pdtHebdo) 0 ≤ capacity - week.loopFlow interco pdtHebdo + 1 / 100) ∧
      ∀ capacity ∈ week.valeurDeNTCExtremiteVersOrigine interco pdtHebdo,
        max (week.loopFlow interco pdtHebdo) 0 ≤ capacity + week.loopFlow interco pdtHebdo + 1 / 100 := by
  constructor
  · intro capacity present
    have nonneg := week.ntcDirect_nonneg interco pdtHebdo capacity present
    have loop := libre.loopFlow_le interco pdtHebdo capacity present
    exact max_le (by linarith) (by linarith)
  · intro capacity present
    have nonneg := week.ntcIndirect_nonneg interco pdtHebdo capacity present
    have loop := libre.neg_le_loopFlow interco pdtHebdo capacity present
    exact max_le (by linarith) (by linarith)

variable (week passage schedule) in
structure Servie : Prop where
  pays : ∀ pays < week.problem.network.nombreDePays, ∀ pdt < nbHoursInWeek, week.Servi passage schedule pays pdt
  paliers : settings.ucMode.optimisationAvecCoutsDeDemarrage = true →
    ∀ pays < week.problem.network.nombreDePays, ∀ couple ∈ week.problem.groupesDuPays pays, ∀ pdt < nbHoursInWeek,
      (passage.paliers couple.2).Tenue couple.1 pdt

theorem exists_groupe_of_mem {pdt : Int} {palier : Nat}
    (listed : .numberOfDispatchableUnits pdt palier ∈ week.problem.listeDesVariables) :
    settings.ucMode.optimisationAvecCoutsDeDemarrage = true ∧
      ∃ pays < week.problem.network.nombreDePays, ∃ couple ∈ week.problem.groupesDuPays pays, palier = couple.2 := by
  constructor
  · rcases week.problem.mem_listeDesVariables.mp listed with ⟨hour, -, lien⟩ | ⟨hour, -, pays, -, bilan⟩ |
      ⟨hour, -, pays, -, hydraulique⟩ | ⟨pays, -, stock⟩ | ⟨starts, -⟩
    · cases (week.problem.mem_variablesDesLiens lien).1
    · cases (week.problem.mem_variablesDuPays bilan).1
    · cases (week.problem.mem_variablesHydrauliques hydraulique).1
    · cases (week.problem.mem_variablesDeStock stock).1
    · rwa [week.ucMode_eq] at starts
  · obtain ⟨pays, bound, index, inside, number⟩ := week.problem.dansLePays_of_mem listed (.inr rfl)
    exact ⟨pays, bound, ((week.problem.paliersThermiques pays)[index], palier),
      week.problem.mem_groupesDuPays.mpr ⟨index, List.getElem?_eq_getElem inside, number⟩, rfl⟩

theorem SansContrainte.within (libre : week.SansContrainte clusters) (suit : week.SuitLHydraulique passage schedule)
    (servie : week.Servie passage schedule)
    (bounded : ∀ palier pdt, (passage.paliers palier).puissanceMin pdt ≤ (passage.paliers palier).puissanceDisponible pdt)
    {column : Variable} (listed : column ∈ week.problem.listeDesVariables) :
    (week.bornes passage 0 column).Contains (week.pointDisponible passage schedule column) := by
  have noStorage {index : Nat} (ofArea : ∃ pays < week.problem.network.nombreDePays,
      ∃ rang < (week.problem.shortTermStorage pays).length, index = week.problem.clusterGlobalIndex pays rang) : False := by
    obtain ⟨pays, -, rang, inside, -⟩ := ofArea
    rw [libre.stockages] at inside
    exact Nat.not_lt_zero _ inside
  by_cases hydraulique : column.hydraulique = true
  · rw [pointDisponible_hydraulique hydraulique]
    exact suit.bornes column listed hydraulique
  · cases column with
    | ntcDirect pdt interco =>
      simp only [bornes, Nat.zero_add]
      exact week.bornesDeLInterconnexion_contains_zero passage interco pdt.toNat
    | intercoDirectCost pdt interco =>
      refine ⟨fun lower same => ?_, fun upper same => ?_⟩
      · obtain rfl := Option.some.inj same
        exact le_max_right _ _
      · simp only [bornes, Nat.zero_add] at same
        obtain ⟨capacity, present, rfl⟩ := Option.mem_map.mp same
        exact (libre.couts_within interco pdt.toNat).1 capacity present
    | intercoIndirectCost pdt interco =>
      refine ⟨fun lower same => ?_, fun upper same => ?_⟩
      · obtain rfl := Option.some.inj same
        exact le_max_right _ _
      · simp only [bornes, Nat.zero_add] at same
        obtain ⟨capacity, present, rfl⟩ := Option.mem_map.mp same
        exact (libre.couts_within interco pdt.toNat).2 capacity present
    | dispatchableProduction pdt palier =>
      simp only [bornes, Nat.zero_add]
      exact Bounds.contains_between.mpr ⟨bounded palier pdt.toNat, le_rfl⟩
    | shortTermStorageInjection pdt index =>
      exact (noStorage (week.problem.dansLePays_of_mem listed (.inl rfl))).elim
    | shortTermStorageWithdrawal pdt index =>
      exact (noStorage (week.problem.dansLePays_of_mem listed (.inl rfl))).elim
    | shortTermStorageLevel pdt index =>
      exact (noStorage (week.problem.dansLePays_of_mem listed (.inl rfl))).elim
    | positiveUnsuppliedEnergy pdt pays =>
      have bound := week.problem.pays_lt_of_mem listed
      obtain ⟨hour, inRange, rfl⟩ := week.problem.hour_of_mem listed rfl
      rw [pas_eq libre.semaine] at inRange
      simp only [bornes, Nat.zero_add]
      exact ((servie.pays pays bound hour inRange).energies libre bound).1
    | negativeUnsuppliedEnergy pdt pays => exact Bounds.contains_above.mpr (le_max_right _ _)
    | numberOfDispatchableUnits pdt palier =>
      obtain ⟨hour, inRange, rfl⟩ := week.problem.hour_of_mem listed rfl
      rw [pas_eq libre.semaine] at inRange
      obtain ⟨starts, pays, bound, couple, member, rfl⟩ := exists_groupe_of_mem listed
      have tenue := servie.paliers starts pays bound couple member hour inRange
      simp only [bornes, Nat.zero_add, Int.toNat_natCast]
      exact Bounds.contains_between.mpr ⟨Int.cast_le.mpr tenue.nombreMin_le, le_rfl⟩
    | numberStartingDispatchableUnits pdt palier =>
      exact Bounds.contains_above.mpr (Int.cast_nonneg (le_max_right _ _))
    | numberStoppingDispatchableUnits pdt palier =>
      exact Bounds.contains_above.mpr (Int.cast_nonneg (week.groupesPerdus_nonneg passage palier _))
    | numberBreakingDownDispatchableUnits pdt palier =>
      simp only [bornes, Nat.zero_add]
      exact Bounds.contains_between.mpr
        ⟨Int.cast_nonneg (week.groupesPerdus_nonneg passage palier _), le_rfl⟩
    | _ => exact absurd rfl hydraulique

theorem pointDisponible_flowDissociation {interco : Nat}
    (inRange : pdt < week.problem.pas) (link : interco < week.problem.network.nombreDInterconnexions) :
    ∀ ligne ∈ week.problem.flowDissociation pdt interco, ligne.sens.Holds
      (ligne.termes.value (week.pointDisponible passage schedule)) (week.secondMembre passage 0 ligne.contrainte) := by
  unfold WeeklyProblem.flowDissociation
  refine WeeklyProblem.forall_mem_ite fun couts => ?_
  apply week.problem.forall_mem_build_holds
  have listed : ∀ variable_ ∈ [Variable.ntcDirect pdt interco, .intercoDirectCost pdt interco,
      .intercoIndirectCost pdt interco], variable_ ∈ week.problem.listeDesVariables := by
    intro variable_ present
    refine week.problem.mem_listeDesVariables.mpr (.inl ⟨pdt, inRange, ?_⟩)
    refine List.mem_flatMap.mpr ⟨interco, List.mem_range.mpr link, ?_⟩
    rwa [if_pos couts]
  have difference := max_zero_sub_max_neg_zero_eq_self (week.loopFlow interco pdt)
  rw [Terms.value_cons, Terms.value_cons, Terms.value_cons, Terms.value_nil,
    week.problem.restreint_of_mem (listed _ (by simp)), week.problem.restreint_of_mem (listed _ (by simp)),
    week.problem.restreint_of_mem (listed _ (by simp)), secondMembre, Nat.zero_add]
  simp only [pointDisponible, Int.toNat_natCast]
  change _ = _
  linarith

theorem SansContrainte.forall_mem_matrice (libre : week.SansContrainte clusters) {P : Ligne → Prop}
    (areas : ∀ pdt < week.problem.pas, ∀ pays < week.problem.network.nombreDePays,
      (∀ ligne ∈ week.problem.areaBalance pdt pays, P ligne) ∧ ∀ ligne ∈ week.problem.fictitiousLoad pdt pays, P ligne)
    (links : ∀ pdt < week.problem.pas, ∀ interco < week.problem.network.nombreDInterconnexions,
      ∀ ligne ∈ week.problem.flowDissociation pdt interco, P ligne)
    (period : ∀ ligne ∈ week.problem.lignesDeLaPeriode, P ligne)
    (startUps : settings.ucMode.optimisationAvecCoutsDeDemarrage = true →
      ∀ ligne ∈ week.problem.lignesDeDemarrage, P ligne) :
    ∀ ligne ∈ week.problem.construireLaMatriceDesContraintes, P ligne := by
  unfold WeeklyProblem.construireLaMatriceDesContraintes WeeklyProblem.lignesDuPasDeTemps
    WeeklyProblem.shortTermStorageLevel
  rw [libre.couplages, week.ucMode_eq]
  simp only [libre.stockages, List.zipIdx_nil, List.flatMap_nil, List.append_nil, List.forall_mem_append,
    List.forall_mem_flatMap, List.mem_range]
  exact ⟨⟨fun pdt inRange => ⟨areas pdt inRange, links pdt inRange⟩, period⟩, WeeklyProblem.forall_mem_ite startUps⟩

/-- In an optimisation whose minimum powers are below the available ones, the available power is feasible
exactly when areas and clusters are served. -/
theorem SansContrainte.feasible_iff (libre : week.SansContrainte clusters) (suit : week.SuitLHydraulique passage schedule)
    (bounded : ∀ palier pdt, (passage.paliers palier).puissanceMin pdt ≤ (passage.paliers palier).puissanceDisponible pdt) :
    (∃ point, week.ADisponibilite passage schedule point ∧ (week.problemeDeLIntervalle passage 0).Feasible point) ↔
      week.Servie passage schedule := by
  have start : 0 * week.problem.pas = 0 := Nat.zero_mul _
  have width := pas_eq libre.semaine
  constructor
  · rintro ⟨point, disponible, within, -, rows⟩
    simp only [problemeDeLIntervalle, start, List.forall_mem_map] at within rows
    have inMatrix {pdt : Nat} (inRange : pdt < week.problem.pas) {ligne : Ligne}
        (listed : ligne ∈ week.problem.lignesDuPasDeTemps pdt) :
        ligne ∈ week.problem.construireLaMatriceDesContraintes :=
      List.mem_append_left _ (List.mem_append_left _ (List.mem_flatMap.mpr ⟨pdt, List.mem_range.mpr inRange, listed⟩))
    constructor
    · intro pays bound pdt inWeek
      have inRange : pdt < week.problem.pas := width ▸ inWeek
      have ofArea {ligne : Ligne} (listed : ligne ∈ week.problem.areaBalance pdt pays ++ week.problem.fictitiousLoad pdt pays) :
          ligne ∈ week.problem.construireLaMatriceDesContraintes :=
        inMatrix inRange (List.mem_append_left _ (List.mem_append_left _
          (List.mem_flatMap.mpr ⟨pays, List.mem_range.mpr bound, List.mem_append_left _ listed⟩)))
      have balance := (disponible.areaBalance_iff libre suit inRange bound).mp fun ligne listed =>
        rows ligne (ofArea (List.mem_append_left _ listed))
      have spillable := (disponible.fictitiousLoad_iff libre inRange bound).mp fun ligne listed =>
        rows ligne (ofArea (List.mem_append_right _ listed))
      obtain ⟨unsupplied, spilled⟩ := energies_mem inRange bound
      have unsuppliedWithin := within _ unsupplied
      simp only [bornes, Nat.zero_add] at unsuppliedWithin
      exact libre.servi bound unsuppliedWithin ((within _ spilled).1 0 rfl) balance spillable
    · intro starts pays bound couple member pdt inWeek
      have inRange : pdt < week.problem.pas := width ▸ inWeek
      have comptes := libre.durees.comptes libre.semaine starts
      have toutes := disponible.groupes couple.2
      obtain ⟨⟨-, marche⟩, -, arret⟩ := libre.durees pays _ (WeeklyProblem.DemarragesComptes.groupe_mem member)
      have group := (toutes.lignes_iff libre.semaine bound member marche arret).mp fun pdt inRange ligne listed =>
        rows ligne ((comptes.mem_matrice_iff bound member).mpr ⟨pdt, inRange, listed⟩).1
      have generated := (lignesDeGeneration_iff comptes bound member inRange).mp fun ligne listed => by
        refine rows ligne ?_
        unfold WeeklyProblem.construireLaMatriceDesContraintes
        rw [if_pos comptes.couts]
        exact List.mem_append_right _
          (comptes.mem_lignesDeDemarrage.mpr ⟨pays, bound, couple, member, pdt, inRange, .inl listed⟩)
      rw [disponible.production, toutes.enMarche pdt inWeek] at generated
      have units := within _ (comptes.listed bound member pdt ⟨pdt, inRange, rfl⟩).1
      simp only [bornes, Nat.zero_add, Int.toNat_natCast, Bounds.contains_between, toutes.enMarche pdt inWeek] at units
      exact ⟨Int.cast_le.mp units.1, group.2 pdt inWeek, generated.1, generated.2⟩
  · intro servie
    refine ⟨week.pointDisponible passage schedule, pointDisponible_aDisponibilite, ?_, ?_, ?_⟩
    · intro column listed
      simp only [problemeDeLIntervalle, start] at listed ⊢
      exact libre.within suit servie bounded listed
    · intro column _ whole
      -- only numbers of units are to be whole
      cases column with
      | numberOfDispatchableUnits | numberStartingDispatchableUnits | numberStoppingDispatchableUnits
      | numberBreakingDownDispatchableUnits => exact ⟨_, rfl⟩
      | _ => cases whole
    · simp only [problemeDeLIntervalle, start, List.forall_mem_map]
      have disponible : week.ADisponibilite passage schedule (week.pointDisponible passage schedule) :=
        pointDisponible_aDisponibilite
      have balanced (value : Rat) : max value 0 - max (-value) 0 = value := max_zero_sub_max_neg_zero_eq_self value
      refine libre.forall_mem_matrice ?_ ?_ ?_ ?_
      · intro pdt inRange pays bound
        have energies := (servie.pays pays bound pdt (width ▸ inRange)).energies libre bound
        rw [disponible.areaBalance_iff libre suit inRange bound, disponible.fictitiousLoad_iff libre inRange bound]
        refine ⟨?_, energies.2⟩
        rw [← balanced (week.charge passage pays pdt - _), neg_sub]
        rfl
      · intro pdt inRange interco link
        exact pointDisponible_flowDissociation inRange link
      · intro ligne listed
        have terms := (WeeklyProblem.lignesDeLaPeriode_hydraulique libre.couplages ligne listed).2
        have same : ligne.termes.value (week.pointDisponible passage schedule) = ligne.termes.value schedule := by
          refine congrArg List.sum (List.map_congr_left fun terme present => ?_)
          rw [pointDisponible_hydraulique (terms terme present)]
        rw [same]
        exact suit.lignes ligne listed
      · intro starts ligne listed
        have comptes := libre.durees.comptes libre.semaine starts
        obtain ⟨pays, bound, couple, member, pdt, inRange, power | group⟩ := comptes.mem_lignesDeDemarrage.mp listed
        · have tenue := servie.paliers starts pays bound couple member pdt (width ▸ inRange)
          exact (lignesDeGeneration_iff comptes bound member inRange).mpr ⟨tenue.le_pmax, tenue.pmin_le⟩ ligne power
        · have nonneg (hour : Nat) (inWeek : hour < nbHoursInWeek) :=
            (servie.paliers starts pays bound couple member hour inWeek).nombreMax_nonneg
          obtain ⟨⟨-, marche⟩, -, arret⟩ := libre.durees pays _ (WeeklyProblem.DemarragesComptes.groupe_mem member)
          exact ((disponible.groupes couple.2).lignes_iff libre.semaine bound member marche arret).mpr
            ⟨pointDisponible_tousDemarres couple.2, nonneg⟩ pdt inRange ligne group

end Point

theorem SuitLHydraulique.autrePassage (suit : week.SuitLHydraulique passage schedule)
    (couplages : week.problem.contraintesCouplantes = []) (autre : Passage) : week.SuitLHydraulique autre schedule where
  bornes column listed hydraulique := by
    have within := suit.bornes column listed hydraulique
    cases column <;> first | exact within | cases hydraulique
  lignes ligne listed := by
    have holds := suit.lignes ligne listed
    have kind := (WeeklyProblem.lignesDeLaPeriode_hydraulique couplages ligne listed).1
    revert kind holds
    generalize ligne.contrainte = contrainte
    intro holds kind
    cases contrainte <;> first | exact holds | cases kind
  sansPompage := suit.sansPompage

end Disponible

section Optimisations
variable (clusters : Nat → StableCluster) (solutions : Solutions) (adequacyFirstStep : Bool)
  (schedule : Variable → Rat)

/-- Every optimisation of the step is feasible at the available power. -/
def FaisableADisponibilite : Prop :=
  ∀ optimizationNumber ∈ settings.optimisations, ∃ point,
    week.ADisponibilite (week.passage solutions adequacyFirstStep optimizationNumber) schedule point ∧
      week.Solves solutions adequacyFirstStep optimizationNumber 0 point

/-- Units can have the available power of their cluster, where units are counted, and no area is left with
a negative generation that nothing makes up for. -/
structure DisponibiliteTenable : Prop where
  paliers : settings.ucMode.optimisationAvecCoutsDeDemarrage = true →
    ∀ pays < week.problem.network.nombreDePays, ∀ couple ∈ week.problem.groupesDuPays pays, ∀ pdt < nbHoursInWeek,
      Tenable (clusters couple.2) ((week.paliers couple.2).puissanceDisponible pdt)
  pays : ∀ optimizationNumber ∈ settings.optimisations, ∀ pays < week.problem.network.nombreDePays,
    ∀ pdt < nbHoursInWeek,
      week.Servi (week.passage solutions adequacyFirstStep optimizationNumber) schedule pays pdt

variable {week clusters}

theorem premiersPaliers_bounded (palier pdt : Nat) :
    (week.premiersPaliers palier).puissanceMin pdt ≤ (week.premiersPaliers palier).puissanceDisponible pdt := by
  unfold premiersPaliers
  rw [PalierThermique.preparer_puissanceMin, PalierThermique.preparer_puissanceDisponible]
  exact min_le_right _ _

theorem passage_bounded (optimizationNumber : OptimizationNumber) (palier pdt : Nat) :
    ((week.passage solutions adequacyFirstStep optimizationNumber).paliers palier).puissanceMin pdt ≤
      ((week.passage solutions adequacyFirstStep optimizationNumber).paliers palier).puissanceDisponible pdt := by
  cases optimizationNumber with
  | premiereOptimisation => exact premiersPaliers_bounded palier pdt
  | deuxiemeOptimisation => exact PalierThermique.apresUnPas_puissanceMin_le _ _ _ (premiersPaliers_bounded palier) pdt

theorem SansContrainte.tenue (libre : week.SansContrainte clusters)
    (starts : settings.ucMode.optimisationAvecCoutsDeDemarrage = true) {pays : Nat}
    (bound : pays < week.problem.network.nombreDePays) {couple : GroupeThermique × Nat}
    (member : couple ∈ week.problem.groupesDuPays pays) {pdt : Nat} (inWeek : pdt < nbHoursInWeek)
    (tenable : Tenable (clusters couple.2) ((week.paliers couple.2).puissanceDisponible pdt))
    (optimizationNumber : OptimizationNumber) :
    ((week.passage solutions adequacyFirstStep optimizationNumber).paliers couple.2).Tenue couple.1 pdt := by
  have issu := libre.issus pays bound couple member
  have first : (week.premiersPaliers couple.2).Tenue couple.1 pdt :=
    (PalierThermique.tenue_preparer_iff issu (week.paliers_renseignes couple.2) starts inWeek).mpr tenable
  cases optimizationNumber with
  | premiereOptimisation => exact first
  | deuxiemeOptimisation =>
    apply first.apresUnPas _ _ _ starts
    · rw [issu.pminDUnGroupe, issu.pmaxDUnGroupe]
      exact pmin_le _
    · rw [issu.pmaxDUnGroupe]
      exact issu.capacity_nonneg
    · rw [issu.pminDUnGroupe, ← issu.pminDuPalier]
      unfold premiersPaliers
      cases settings.ucMode <;> rfl

/-- Where nothing is generated below zero and no cap comes from another step, only units without size are
left to have no power. -/
theorem disponibiliteTenable_of_nonneg (nonneg : ∀ palier pdt, 0 ≤ (week.paliers palier).puissanceDisponible pdt)
    (sized : ∀ palier pdt, (clusters palier).nominalCapacityWithSpinning = 0 →
      (week.paliers palier).puissanceDisponible pdt = 0)
    (hydro : ∀ pdt pays, 0 ≤ schedule (.hydProd pdt pays)) (outside : ∀ pays, settings.inside pays = false) :
    week.DisponibiliteTenable clusters solutions adequacyFirstStep schedule := by
  have first (palier pdt : Nat) : 0 ≤ (week.premiersPaliers palier).puissanceDisponible pdt := by
    unfold premiersPaliers
    rw [PalierThermique.preparer_puissanceDisponible, ← (week.paliers_renseignes palier).disponible]
    exact nonneg palier pdt
  have available (optimizationNumber : OptimizationNumber) (palier pdt : Nat) :
      0 ≤ ((week.passage solutions adequacyFirstStep optimizationNumber).paliers palier).puissanceDisponible pdt := by
    cases optimizationNumber with
    | premiereOptimisation => exact first palier pdt
    | deuxiemeOptimisation =>
      exact (first palier pdt).trans (PalierThermique.le_apresUnPas_puissanceDisponible _ _ _ pdt)
  constructor
  · intro _ pays _ couple _ pdt _
    exact ⟨nonneg couple.2 pdt, sized couple.2 pdt⟩
  · intro optimizationNumber _ pays _ pdt _
    refine servi_of_nonneg (add_nonneg (List.sum_nonneg ?_) ?_) (outside pays)
    · intro power listed
      obtain ⟨index, -, rfl⟩ := List.mem_map.mp listed
      exact available optimizationNumber _ pdt
    · unfold WeeklyProblem.restreint
      split_ifs
      · exact hydro pdt pays
      · exact le_rfl

end Optimisations

end Week

variable (taille : Rat)

def soleCluster : StableCluster where
  nominalCapacity := taille
  nominalCapacityWithSpinning := taille
  minStablePower := 2
  spinning := 0
  height := 1
  height_pos := Nat.one_pos

def soleGroup : GroupeThermique :=
  { partialGroup with pmaxDUnGroupe := taille, pminDUnGroupe := (soleCluster taille).pmin }

def soleUnit (taille disponible : Rat) : PalierThermique :=
  { partialUnit with
    tailleUnitaireDUnGroupe := taille
    pminDUnGroupe := (soleCluster taille).pmin
    puissanceDisponible := fun _ => disponible
    puissanceDisponibleRef := fun _ => disponible }

def soleProblem : WeeklyProblem :=
  { accurateWeek.problem with
    defaillanceNegativeUtiliserHydro := fun _ => true
    paliersThermiques := fun _ => [soleGroup taille] }

/-- A week without load of an area with that unit and all energies to spill. -/
def soleWeek (taille disponible : Rat) (nonneg : 0 ≤ disponible) : Week accurateSettings :=
  { accurateWeek.week with
    problem := soleProblem taille
    nombreDePays_eq := rfl
    ucMode_eq := rfl
    defaillanceNegativeUtiliserConsoAbattue := fun _ => true
    defaillanceNegativeUtiliserPMinThermique := fun _ => true
    paliers := fun _ => soleUnit taille disponible
    paliers_renseignes := fun _ => ⟨rfl, fun _ => nonneg⟩ }

def noSolution : Solutions where
  premiere := fun _ _ => 0
  deuxieme := fun _ _ => 0
  auxiliaire := fun _ => none

section SoleUnit
variable {taille disponible : Rat} {nonneg : 0 ≤ disponible}

theorem soleWeek_couple {pays : Nat} {couple : GroupeThermique × Nat}
    (member : couple ∈ (soleProblem taille).groupesDuPays pays) : couple.1 = soleGroup taille := by
  obtain ⟨index, found, -⟩ := (soleProblem taille).mem_groupesDuPays.mp member
  exact List.mem_singleton.mp (List.mem_of_getElem? found)

theorem soleWeek_sansContrainte (size : 0 ≤ taille)
    (lifted : taille ≠ 0 → (soleCluster taille).correctAvailability disponible = disponible) :
    (soleWeek taille disponible nonneg).SansContrainte fun _ => soleCluster taille where
  semaine := rfl
  couplages := rfl
  stockages _ := rfl
  loopFlow_le interco pdtHebdo := (soleWeek taille disponible nonneg).ntcDirect_nonneg interco pdtHebdo
  neg_le_loopFlow interco pdtHebdo capacity present :=
    neg_nonpos.mpr ((soleWeek taille disponible nonneg).ntcIndirect_nonneg interco pdtHebdo capacity present)
  hydro _ _ := rfl
  consommation _ _ := rfl
  pmin _ _ := rfl
  durees pays groupe listed := by
    obtain rfl := List.mem_singleton.mp listed
    have short : 1 ≤ nbHoursInWeek := by decide
    exact ⟨⟨le_rfl, short⟩, le_rfl, short⟩
  issus pays _ couple member := by
    rw [soleWeek_couple member]
    exact ⟨size, rfl, rfl, rfl, rfl, fun _ _ => lifted⟩

theorem soleWeek_suit (passage : Passage) :
    (soleWeek taille disponible nonneg).SuitLHydraulique passage fun _ => 0 where
  bornes column listed hydraulique := by
    have famille : column.famille = .hydraulique ∨ column.famille = .stocks := by
      cases column <;> first | exact .inl rfl | exact .inr rfl | cases hydraulique
    rcases (soleProblem taille).mem_listeDesVariables.mp listed with ⟨hour, -, lien⟩ | ⟨hour, -, pays, -, bilan⟩ |
      ⟨hour, -, pays, -, hydro⟩ | ⟨pays, -, stock⟩ | ⟨-, pays, -, demarrage⟩
    · rw [((soleProblem taille).mem_variablesDesLiens lien).1] at famille
      simp at famille
    · rw [((soleProblem taille).mem_variablesDuPays bilan).1] at famille
      simp at famille
    · simp [WeeklyProblem.variablesHydrauliques, WeeklyProblem.variablesDeVariation, soleProblem, BareWeek.problem,
        noHydro] at hydro
    · simp [WeeklyProblem.variablesDeStock, soleProblem, BareWeek.problem, noHydro] at stock
    · rw [((soleProblem taille).mem_variablesDeDemarrage demarrage).1] at famille
      simp at famille
  lignes ligne listed := by
    have none : (soleProblem taille).lignesDeLaPeriode = [] := by
      simp [WeeklyProblem.lignesDeLaPeriode, WeeklyProblem.hydroPower, WeeklyProblem.lignesDeLissage,
        WeeklyProblem.minHydroPower, WeeklyProblem.maxHydroPower, WeeklyProblem.energieEntreBornes,
        WeeklyProblem.maxPumping, WeeklyProblem.areaHydroLevel, WeeklyProblem.finalStockEquivalent,
        WeeklyProblem.finalStockExpression, soleProblem, BareWeek.problem, noHydro]
    exact absurd (none ▸ listed) List.not_mem_nil
  sansPompage _ _ := rfl

end SoleUnit

end Antares.AdequacyPatch
