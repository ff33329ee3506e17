import Antares.Optimisation.WeeklyProblem

/-! No variable of the weekly problem is numbered twice: each one tells the loops that number
it, by its family, its time step and the place of its index among the areas.
-/

set_option autoImplicit false

namespace Antares.Optimisation

open Library

namespace WeeklyProblem

variable (problem : WeeklyProblem)

/-- The variable belongs to an area, for clusters and storages through their global index. -/
def DansLePays (variable_ : Variable) (pays : Nat) : Prop :=
  match variable_ with
  | .dispatchableProduction _ palier | .numberOfDispatchableUnits _ palier
  | .numberStartingDispatchableUnits _ palier | .numberStoppingDispatchableUnits _ palier
  | .numberBreakingDownDispatchableUnits _ palier =>
    ∃ index < problem.nombreDePaliersThermiques pays, palier = problem.numeroDuPalier pays index
  | .shortTermStorageInjection _ storage | .shortTermStorageWithdrawal _ storage
  | .shortTermStorageLevel _ storage =>
    ∃ index < (problem.shortTermStorage pays).length, storage = problem.clusterGlobalIndex pays index
  | autre => autre.indice = pays

variable {pays autre index autreIndex : Nat}

theorem numeroDuPalier_unique
    (inside : index < problem.nombreDePaliersThermiques pays)
    (autreInside : autreIndex < problem.nombreDePaliersThermiques autre)
    (same : problem.numeroDuPalier pays index = problem.numeroDuPalier autre autreIndex) :
    pays = autre ∧ index = autreIndex :=
  place_unique problem.nombreDePaliersThermiques inside autreInside same

theorem clusterGlobalIndex_unique
    (inside : index < (problem.shortTermStorage pays).length)
    (autreInside : autreIndex < (problem.shortTermStorage autre).length)
    (same : problem.clusterGlobalIndex pays index = problem.clusterGlobalIndex autre autreIndex) :
    pays = autre ∧ index = autreIndex :=
  place_unique (fun autre => (problem.shortTermStorage autre).length) inside autreInside same

theorem dansLePays_unique (variable_ : Variable) (pays autre : Nat)
    (left : problem.DansLePays variable_ pays) (right : problem.DansLePays variable_ autre) : pays = autre := by
  cases variable_ <;> simp only [DansLePays] at left right <;>
    first
    | exact left.symm.trans right
    | obtain ⟨index, inside, rfl⟩ := left
      obtain ⟨autreIndex, autreInside, same⟩ := right
      first
      | exact (problem.numeroDuPalier_unique inside autreInside same).1
      | exact (problem.clusterGlobalIndex_unique inside autreInside same).1

variable {pdt : Int} {variable_ : Variable}

theorem mem_variablesDesLiens
    (listed : variable_ ∈ problem.variablesDesLiens pdt) :
    variable_.famille = .liens ∧ variable_.pasDeTemps = some pdt := by
  simp only [variablesDesLiens, List.mem_flatMap, List.mem_cons] at listed
  obtain ⟨interco, -, rfl | listed⟩ := listed
  · exact ⟨rfl, rfl⟩
  · split_ifs at listed
    · simp only [List.mem_cons, List.not_mem_nil, or_false] at listed
      rcases listed with rfl | rfl <;> exact ⟨rfl, rfl⟩
    · simp at listed

theorem variablesDesLiens_nodup (pdt : Int) : (problem.variablesDesLiens pdt).Nodup := by
  apply nodup_flatMap_of_owner fun variable_ interco => variable_.indice = interco
  · intro variable_ left right isLeft isRight
    exact isLeft.symm.trans isRight
  · intro interco _ variable_ listed
    rw [List.mem_cons] at listed
    rcases listed with rfl | listed
    · rfl
    · split_ifs at listed
      · simp only [List.mem_cons, List.not_mem_nil, or_false] at listed
        rcases listed with rfl | rfl <;> rfl
      · simp at listed
  · exact List.nodup_range
  · intro interco _
    split_ifs <;> simp

variable {pays : Nat}

theorem mem_variablesDuPays {variable_ : Variable}
    (listed : variable_ ∈ problem.variablesDuPays pdt pays) :
    variable_.famille = .bilans ∧ variable_.pasDeTemps = some pdt ∧ problem.DansLePays variable_ pays := by
  simp only [variablesDuPays, List.mem_append, List.mem_map, List.mem_flatMap, List.mem_range,
    List.mem_cons, List.not_mem_nil, or_false] at listed
  rcases listed with (⟨index, inside, rfl⟩ | ⟨index, inside, rfl | rfl | rfl⟩) | rfl | rfl
  · exact ⟨rfl, rfl, index, inside, rfl⟩
  · exact ⟨rfl, rfl, index, inside, rfl⟩
  · exact ⟨rfl, rfl, index, inside, rfl⟩
  · exact ⟨rfl, rfl, index, inside, rfl⟩
  · exact ⟨rfl, rfl, rfl⟩
  · exact ⟨rfl, rfl, rfl⟩

theorem variablesDuPays_nodup (pdt : Int) (pays : Nat) : (problem.variablesDuPays pdt pays).Nodup := by
  unfold variablesDuPays
  rw [List.nodup_append', List.nodup_append']
  refine ⟨⟨?_, ?_, ?_⟩, by simp, ?_⟩
  · apply List.Nodup.map _ List.nodup_range
    intro left right same
    exact Nat.add_left_cancel (Variable.dispatchableProduction.inj same).2
  · apply nodup_flatMap_of_owner fun variable_ index => variable_.indice = problem.clusterGlobalIndex pays index
    · intro variable_ left right isLeft isRight
      exact Nat.add_left_cancel (isLeft.symm.trans isRight)
    · intro index _ variable_ listed
      simp only [List.mem_cons, List.not_mem_nil, or_false] at listed
      rcases listed with rfl | rfl | rfl <;> rfl
    · exact List.nodup_range
    · intro index _
      simp
  · intro variable_ cluster storage
    obtain ⟨index, -, rfl⟩ := List.mem_map.mp cluster
    simp at storage
  · intro variable_ listed energy
    simp only [List.mem_cons, List.not_mem_nil, or_false] at energy
    rcases energy with rfl | rfl <;> simp at listed

theorem mem_variablesDeVariation {variable_ : Variable}
    (listed : variable_ ∈ problem.variablesDeVariation pdt pays) :
    variable_ = .hydProdDown pdt pays ∨ variable_ = .hydProdUp pdt pays := by
  unfold variablesDeVariation at listed
  split at listed
  · split_ifs at listed
    · simpa using listed
    · simp at listed
  · split_ifs at listed
    · simpa using listed
    · simp at listed
  · simp at listed

theorem variablesDeVariation_nodup (pdt : Int) (pays : Nat) : (problem.variablesDeVariation pdt pays).Nodup := by
  unfold variablesDeVariation
  split
  · split_ifs <;> simp
  · split_ifs <;> simp
  · simp

theorem mem_variablesHydrauliques {variable_ : Variable}
    (listed : variable_ ∈ problem.variablesHydrauliques pdt pays) :
    variable_.famille = .hydraulique ∧ variable_.pasDeTemps = some pdt ∧ variable_.indice = pays := by
  simp only [variablesHydrauliques, List.mem_append] at listed
  rcases listed with ((listed | listed) | listed) | listed
  · split_ifs at listed
    · rw [List.mem_singleton.mp listed]
      exact ⟨rfl, rfl, rfl⟩
    · simp at listed
  · rcases problem.mem_variablesDeVariation listed with rfl | rfl <;> exact ⟨rfl, rfl, rfl⟩
  · split_ifs at listed
    · rw [List.mem_singleton.mp listed]
      exact ⟨rfl, rfl, rfl⟩
    · simp at listed
  · split_ifs at listed
    · simp only [List.mem_cons, List.not_mem_nil, or_false] at listed
      rcases listed with rfl | rfl <;> exact ⟨rfl, rfl, rfl⟩
    · simp at listed

theorem variablesHydrauliques_nodup (pdt : Int) (pays : Nat) : (problem.variablesHydrauliques pdt pays).Nodup := by
  unfold variablesHydrauliques
  dsimp only
  have variations := problem.variablesDeVariation_nodup pdt pays
  have named (variable_ : Variable) (listed : variable_ ∈ problem.variablesDeVariation pdt pays) :=
    problem.mem_variablesDeVariation listed
  generalize problem.variablesDeVariation pdt pays = deVariation at *
  -- every configuration of the area lists its own kinds of variables
  simp only [List.nodup_append']
  refine ⟨⟨⟨?_, variations, ?_⟩, ?_, ?_⟩, ?_, ?_⟩
  · split_ifs <;> simp
  · intro variable_ production variation
    split_ifs at production
    · rcases named variable_ variation with rfl | rfl <;> simp at production
    · simp at production
  · split_ifs <;> simp
  · intro variable_ before pumped
    split_ifs at pumped
    · rw [List.mem_singleton] at pumped
      subst pumped
      rcases List.mem_append.mp before with production | variation
      · split_ifs at production <;> simp at production
      · rcases named _ variation with same | same <;> simp at same
    · simp at pumped
  · split_ifs <;> simp
  · intro variable_ before level
    split_ifs at level
    · simp only [List.mem_cons, List.not_mem_nil, or_false] at level
      rcases List.mem_append.mp before with earlier | pumped
      · rcases List.mem_append.mp earlier with production | variation
        · rcases level with rfl | rfl <;> split_ifs at production <;> simp at production
        · rcases level with rfl | rfl <;> rcases named _ variation with same | same <;> simp at same
      · rcases level with rfl | rfl <;> split_ifs at pumped <;> simp at pumped
    · simp at level

theorem mem_variablesDuPasDeTemps
    (listed : variable_ ∈ problem.variablesDuPasDeTemps pdt) :
    variable_.famille ≠ .stocks ∧ variable_.famille ≠ .demarrages ∧ variable_.pasDeTemps = some pdt := by
  simp only [variablesDuPasDeTemps, List.mem_append, List.mem_flatMap] at listed
  rcases listed with (listed | ⟨pays, -, listed⟩) | ⟨pays, -, listed⟩
  · obtain ⟨famille, pas⟩ := problem.mem_variablesDesLiens listed
    simp [famille, pas]
  · obtain ⟨famille, pas, -⟩ := problem.mem_variablesDuPays listed
    simp [famille, pas]
  · obtain ⟨famille, pas, -⟩ := problem.mem_variablesHydrauliques listed
    simp [famille, pas]

theorem variablesDuPasDeTemps_nodup (pdt : Int) : (problem.variablesDuPasDeTemps pdt).Nodup := by
  unfold variablesDuPasDeTemps
  rw [List.nodup_append', List.nodup_append']
  refine ⟨⟨problem.variablesDesLiens_nodup pdt, ?_, ?_⟩, ?_, ?_⟩
  · apply nodup_flatMap_of_owner problem.DansLePays problem.dansLePays_unique
    · intro pays _ variable_ listed
      exact (problem.mem_variablesDuPays listed).2.2
    · exact List.nodup_range
    · intro pays _
      exact problem.variablesDuPays_nodup pdt pays
  · intro variable_ lien bilan
    obtain ⟨pays, -, listed⟩ := List.mem_flatMap.mp bilan
    have same := (problem.mem_variablesDesLiens lien).1.symm.trans (problem.mem_variablesDuPays listed).1
    exact Famille.noConfusion same
  · apply nodup_flatMap_of_owner fun variable_ pays => variable_.indice = pays
    · intro variable_ left right isLeft isRight
      exact isLeft.symm.trans isRight
    · intro pays _ variable_ listed
      exact (problem.mem_variablesHydrauliques listed).2.2
    · exact List.nodup_range
    · intro pays _
      exact problem.variablesHydrauliques_nodup pdt pays
  · intro variable_ before hydraulique
    obtain ⟨pays, -, listed⟩ := List.mem_flatMap.mp hydraulique
    have famille := (problem.mem_variablesHydrauliques listed).1
    rcases List.mem_append.mp before with lien | bilan
    · exact Famille.noConfusion ((problem.mem_variablesDesLiens lien).1.symm.trans famille)
    · obtain ⟨autre, -, autreListed⟩ := List.mem_flatMap.mp bilan
      exact Famille.noConfusion ((problem.mem_variablesDuPays autreListed).1.symm.trans famille)

theorem mem_variablesDeStock {variable_ : Variable}
    (listed : variable_ ∈ problem.variablesDeStock pays) :
    variable_.famille = .stocks ∧ variable_.indice = pays := by
  unfold variablesDeStock at listed
  split_ifs at listed
  · rw [List.mem_cons, List.mem_map] at listed
    rcases listed with rfl | ⟨layer, -, rfl⟩ <;> exact ⟨rfl, rfl⟩
  · simp at listed

theorem variablesDeStock_nodup (pays : Nat) : (problem.variablesDeStock pays).Nodup := by
  unfold variablesDeStock
  split_ifs
  · rw [List.nodup_cons]
    refine ⟨by simp, ?_⟩
    apply List.Nodup.map _ List.nodup_range
    intro left right same
    exact (Variable.layerStorage.inj same).2
  · simp

theorem mem_variablesDeDemarrage {variable_ : Variable}
    (listed : variable_ ∈ problem.variablesDeDemarrage pays) :
    variable_.famille = .demarrages ∧ problem.DansLePays variable_ pays := by
  simp only [variablesDeDemarrage, List.mem_flatMap, List.mem_range, List.mem_cons, List.not_mem_nil,
    or_false] at listed
  obtain ⟨index, inside, pdt, -, rfl | rfl | rfl | rfl⟩ := listed <;> exact ⟨rfl, index, inside, rfl⟩

theorem variablesDeDemarrage_nodup (pays : Nat) : (problem.variablesDeDemarrage pays).Nodup := by
  apply nodup_flatMap_of_owner fun variable_ index => variable_.indice = problem.numeroDuPalier pays index
  · intro variable_ left right isLeft isRight
    exact Nat.add_left_cancel (isLeft.symm.trans isRight)
  · intro index _ variable_ listed
    simp only [List.mem_flatMap, List.mem_cons, List.not_mem_nil, or_false] at listed
    obtain ⟨pdt, -, rfl | rfl | rfl | rfl⟩ := listed <;> rfl
  · exact List.nodup_range
  · intro index _
    apply nodup_flatMap_of_owner fun variable_ (pdt : Nat) => variable_.pasDeTemps = some (pdt : Int)
    · intro variable_ left right isLeft isRight
      exact Int.ofNat_inj.mp (Option.some.inj (isLeft.symm.trans isRight))
    · intro pdt _ variable_ listed
      simp only [List.mem_cons, List.not_mem_nil, or_false] at listed
      rcases listed with rfl | rfl | rfl | rfl <;> rfl
    · exact List.nodup_range
    · intro pdt _
      simp

theorem listeDesVariables_nodup : problem.listeDesVariables.Nodup := by
  have hourly : ((List.range problem.pas).flatMap fun pdt : Nat => problem.variablesDuPasDeTemps pdt).Nodup := by
    apply nodup_flatMap_of_owner fun variable_ (pdt : Nat) => variable_.pasDeTemps = some (pdt : Int)
    · intro variable_ left right isLeft isRight
      exact Int.ofNat_inj.mp (Option.some.inj (isLeft.symm.trans isRight))
    · intro pdt _ variable_ listed
      exact (problem.mem_variablesDuPasDeTemps listed).2.2
    · exact List.nodup_range
    · intro pdt _
      exact problem.variablesDuPasDeTemps_nodup pdt
  have stocks : ((List.range problem.network.nombreDePays).flatMap problem.variablesDeStock).Nodup := by
    apply nodup_flatMap_of_owner fun variable_ pays => variable_.indice = pays
    · intro variable_ left right isLeft isRight
      exact isLeft.symm.trans isRight
    · intro pays _ variable_ listed
      exact (problem.mem_variablesDeStock listed).2
    · exact List.nodup_range
    · intro pays _
      exact problem.variablesDeStock_nodup pays
  have demarrages : ((List.range problem.network.nombreDePays).flatMap problem.variablesDeDemarrage).Nodup := by
    apply nodup_flatMap_of_owner problem.DansLePays problem.dansLePays_unique
    · intro pays _ variable_ listed
      exact (problem.mem_variablesDeDemarrage listed).2
    · exact List.nodup_range
    · intro pays _
      exact problem.variablesDeDemarrage_nodup pays
  unfold listeDesVariables
  rw [List.nodup_append', List.nodup_append']
  refine ⟨⟨hourly, stocks, ?_⟩, ?_, ?_⟩
  · intro variable_ hourlyListed stock
    obtain ⟨pdt, -, listed⟩ := List.mem_flatMap.mp hourlyListed
    obtain ⟨pays, -, stockListed⟩ := List.mem_flatMap.mp stock
    exact (problem.mem_variablesDuPasDeTemps listed).1 (problem.mem_variablesDeStock stockListed).1
  · split_ifs
    · exact demarrages
    · exact List.nodup_nil
  · intro variable_ before demarrage
    split_ifs at demarrage
    · obtain ⟨pays, -, listed⟩ := List.mem_flatMap.mp demarrage
      have famille := (problem.mem_variablesDeDemarrage listed).1
      rcases List.mem_append.mp before with hourlyListed | stock
      · obtain ⟨pdt, -, hourListed⟩ := List.mem_flatMap.mp hourlyListed
        exact (problem.mem_variablesDuPasDeTemps hourListed).2.1 famille
      · obtain ⟨autre, -, stockListed⟩ := List.mem_flatMap.mp stock
        exact Famille.noConfusion ((problem.mem_variablesDeStock stockListed).1.symm.trans famille)
    · simp at demarrage

theorem mem_listeDesVariables :
    variable_ ∈ problem.listeDesVariables ↔
      (∃ hour < problem.pas, variable_ ∈ problem.variablesDesLiens hour) ∨
      (∃ hour < problem.pas, ∃ pays < problem.network.nombreDePays, variable_ ∈ problem.variablesDuPays hour pays) ∨
      (∃ hour < problem.pas, ∃ pays < problem.network.nombreDePays,
        variable_ ∈ problem.variablesHydrauliques hour pays) ∨
      (∃ pays < problem.network.nombreDePays, variable_ ∈ problem.variablesDeStock pays) ∨
      problem.ucMode.optimisationAvecCoutsDeDemarrage = true ∧
        ∃ pays < problem.network.nombreDePays, variable_ ∈ problem.variablesDeDemarrage pays := by
  unfold listeDesVariables variablesDuPasDeTemps
  cases problem.ucMode.optimisationAvecCoutsDeDemarrage <;>
    simp only [List.mem_append, List.mem_flatMap, List.mem_range, and_or_left, exists_or, if_true, if_false,
      true_and, false_and, List.not_mem_nil, or_false, or_assoc, reduceCtorEq]

theorem hour_of_mem (listed : variable_ ∈ problem.listeDesVariables) {pdt : Int}
    (hourly : variable_.pasDeTemps = some pdt) : ∃ hour < problem.pas, pdt = (hour : Nat) := by
  have here {hour : Nat} (inRange : hour < problem.pas) (same : variable_.pasDeTemps = some (hour : Int)) :
      ∃ hour < problem.pas, pdt = (hour : Nat) :=
    ⟨hour, inRange, Option.some.inj (hourly.symm.trans same)⟩
  rcases problem.mem_listeDesVariables.mp listed with ⟨hour, inRange, lien⟩ | ⟨hour, inRange, pays, -, bilan⟩ |
    ⟨hour, inRange, pays, -, hydraulique⟩ | ⟨pays, -, stock⟩ | ⟨-, pays, -, demarrage⟩
  · exact here inRange (problem.mem_variablesDesLiens lien).2
  · exact here inRange (problem.mem_variablesDuPays bilan).2.1
  · exact here inRange (problem.mem_variablesHydrauliques hydraulique).2.1
  · have famille := (problem.mem_variablesDeStock stock).1
    cases variable_ <;> first | (cases famille; done) | cases hourly
  · simp only [variablesDeDemarrage, List.mem_flatMap, List.mem_range, List.mem_cons, List.not_mem_nil,
      or_false] at demarrage
    obtain ⟨index, -, hour, inRange, rfl | rfl | rfl | rfl⟩ := demarrage <;> exact here inRange rfl

theorem mem_of_mem_variablesDuPays {hour pays : Nat} (inRange : hour < problem.pas)
    (bound : pays < problem.network.nombreDePays) {variable_ : Variable}
    (listed : variable_ ∈ problem.variablesDuPays hour pays) : variable_ ∈ problem.listeDesVariables :=
  problem.mem_listeDesVariables.mpr (.inr (.inl ⟨hour, inRange, pays, bound, listed⟩))

theorem dansLePays_of_mem (listed : variable_ ∈ problem.listeDesVariables)
    (notLien : variable_.famille = .bilans ∨ variable_.famille = .demarrages) :
    ∃ pays < problem.network.nombreDePays, problem.DansLePays variable_ pays := by
  rcases problem.mem_listeDesVariables.mp listed with ⟨hour, -, lien⟩ | ⟨hour, -, pays, bound, bilan⟩ |
    ⟨hour, -, pays, -, hydraulique⟩ | ⟨pays, -, stock⟩ | ⟨-, pays, bound, demarrage⟩
  · rw [(problem.mem_variablesDesLiens lien).1] at notLien
    simp at notLien
  · exact ⟨pays, bound, (problem.mem_variablesDuPays bilan).2.2⟩
  · rw [(problem.mem_variablesHydrauliques hydraulique).1] at notLien
    simp at notLien
  · rw [(problem.mem_variablesDeStock stock).1] at notLien
    simp at notLien
  · exact ⟨pays, bound, (problem.mem_variablesDeDemarrage demarrage).2⟩

theorem pays_lt_of_mem
    (listed : .positiveUnsuppliedEnergy pdt pays ∈ problem.listeDesVariables) :
    pays < problem.network.nombreDePays := by
  obtain ⟨autre, bound, same⟩ := problem.dansLePays_of_mem listed (.inl rfl)
  exact lt_of_eq_of_lt same bound

/-- Every variable has a number of its own and no number below `NombreDeVariables` is lost. -/
theorem construireLaListeDesVariables_exact :
    problem.construireLaListeDesVariables.Exact problem.listeDesVariables :=
  Numbering.exact_addAll_empty problem.listeDesVariables_nodup

section Valeurs
variable (point : Variable → Rat)

def restreint (variable_ : Variable) : Rat := if variable_ ∈ problem.listeDesVariables then point variable_ else 0

theorem numero_isSome_iff {variable_ : Variable} :
    (problem.construireLaListeDesVariables.numero variable_).isSome ↔ variable_ ∈ problem.listeDesVariables := by
  constructor
  · intro numbered
    by_contra absent
    unfold construireLaListeDesVariables at numbered
    rw [Numbering.addAll_numero_of_not_mem _ absent] at numbered
    cases numbered
  · intro listed
    obtain ⟨number, -, numbered⟩ := problem.construireLaListeDesVariables_exact.numbered variable_ listed
    rw [numbered]
    rfl

theorem addVariables_value (termes : Terms Variable Rat) :
    (problem.addVariables termes).value point = termes.value (problem.restreint point) := by
  induction termes with
  | nil => rfl
  | cons terme termes ih =>
    unfold addVariables at *
    rw [List.filter_cons, Terms.value_cons, ← ih, restreint]
    simp only [numero_isSome_iff]
    split_ifs
    · exact Terms.value_cons terme _ point
    · rw [mul_zero, zero_add]

variable {point}

theorem restreint_of_mem {variable_ : Variable} (listed : variable_ ∈ problem.listeDesVariables) :
    problem.restreint point variable_ = point variable_ := if_pos listed

theorem restreint_of_not_mem {variable_ : Variable} (absent : variable_ ∉ problem.listeDesVariables) :
    problem.restreint point variable_ = 0 := if_neg absent

theorem restreint_of_eq_zero {variable_ : Variable} (zero : point variable_ = 0) :
    problem.restreint point variable_ = 0 := by
  unfold restreint
  split_ifs
  · exact zero
  · rfl

variable {contrainte : Contrainte}

theorem forall_mem_build_holds {sens : Sense} {termes : Terms Variable Rat}
    {secondMembre : Contrainte → Rat}
    (holds : sens.Holds (termes.value (problem.restreint point)) (secondMembre contrainte)) :
    ∀ ligne ∈ problem.build contrainte sens termes,
      ligne.sens.Holds (ligne.termes.value point) (secondMembre ligne.contrainte) := by
  intro ligne listed
  obtain ⟨rfl, rfl, same⟩ := problem.mem_build listed
  rwa [same, addVariables_value]

/-- A row with a numbered variable is emitted, so that its terms hold. -/
theorem holds_of_forall_mem_build {sens : Sense} {termes : Terms Variable Rat}
    {secondMembre : Contrainte → Rat}
    (emitted : ∀ ligne ∈ problem.build contrainte sens termes,
      ligne.sens.Holds (ligne.termes.value point) (secondMembre ligne.contrainte))
    {terme : Variable × Rat} (present : terme ∈ termes) (listed : terme.1 ∈ problem.listeDesVariables) :
    sens.Holds (termes.value (problem.restreint point)) (secondMembre contrainte) := by
  have kept : terme ∈ problem.addVariables termes :=
    List.mem_filter.mpr ⟨present, problem.numero_isSome_iff.mpr listed⟩
  rw [← addVariables_value]
  refine emitted { contrainte, sens, termes := problem.addVariables termes } ?_
  unfold build
  rw [if_neg]
  · exact List.mem_singleton.mpr rfl
  · intro empty
    rw [List.isEmpty_iff] at empty
    rw [empty] at kept
    cases kept

structure Satisfied (point : Variable → Rat) (secondMembre : Contrainte → Rat) (builder : ConstraintBuilder) :
    Prop where
  termes : builder.termes = []
  lignes : ∀ ligne ∈ builder.lignes, ligne.sens.Holds (ligne.termes.value point) (secondMembre ligne.contrainte)

theorem Satisfied.buildIfSeveral {contrainte : Contrainte} {sens : Sense} {first second : Variable × Rat}
    {termes : Terms Variable Rat} {secondMembre : Contrainte → Rat} {builder : ConstraintBuilder}
    (before : Satisfied point secondMembre builder) (firstListed : first.1 ∈ problem.listeDesVariables)
    (secondListed : second.1 ∈ problem.listeDesVariables)
    (holds : sens.Holds (Terms.value (first :: second :: termes) (problem.restreint point))
      (secondMembre contrainte)) :
    Satisfied point secondMembre (problem.buildIfSeveral contrainte sens (first :: second :: termes) builder) := by
  rw [← addVariables_value] at holds
  have several : 1 < (problem.addVariables (first :: second :: termes)).length := by
    simp [addVariables, problem.numero_isSome_iff.mpr firstListed, problem.numero_isSome_iff.mpr secondListed]
  unfold WeeklyProblem.buildIfSeveral
  rw [before.termes, List.nil_append, if_pos several]
  constructor
  · rfl
  · intro ligne listed
    rcases List.mem_append.mp listed with old | new
    · exact before.lignes ligne old
    · obtain rfl := List.mem_singleton.mp new
      exact holds

end Valeurs

end WeeklyProblem

end Antares.Optimisation
