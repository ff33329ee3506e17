import Antares.Optimisation.WeeklyVariables

/-! The rows of the weekly problem that tie the numbers of units of one thermal cluster: units
on, starting, stopping and failing in every hour, over a week that closes on itself.
-/

set_option autoImplicit false

namespace Antares.Optimisation

open Library

namespace WeeklyProblem

variable (problem : WeeklyProblem)

/-- Start-ups are counted, and loading keeps the minimum durations within one optimisation. -/
structure DemarragesComptes : Prop where
  couts : problem.ucMode.optimisationAvecCoutsDeDemarrage = true
  marche_pos : ∀ pays, ∀ groupe ∈ problem.paliersThermiques pays, 0 < groupe.dureeMinimaleDeMarche
  marche_le : ∀ pays, ∀ groupe ∈ problem.paliersThermiques pays, groupe.dureeMinimaleDeMarche ≤ problem.pas
  arret_pos : ∀ pays, ∀ groupe ∈ problem.paliersThermiques pays, 0 < groupe.dureeMinimaleDArret
  arret_le : ∀ pays, ∀ groupe ∈ problem.paliersThermiques pays, groupe.dureeMinimaleDArret ≤ problem.pas

def heurePrecedente (pdt : Nat) : Int :=
  if (pdt : Int) - 1 < 0 then problem.pas + ((pdt : Int) - 1) else (pdt : Int) - 1

section Lignes
variable (groupe : GroupeThermique) (palier pdt : Nat)

def ligneDeCoherence : Ligne where
  contrainte := .consistenceNumberOfDispatchableUnits pdt palier
  sens := .eq
  termes :=
    [(.numberOfDispatchableUnits pdt palier, 1), (.numberOfDispatchableUnits (problem.heurePrecedente pdt) palier, -1),
      (.numberStartingDispatchableUnits pdt palier, -1), (.numberStoppingDispatchableUnits pdt palier, 1)]

def ligneDePanne : Ligne where
  contrainte := .nbUnitsOutageLessThanNbUnitsStop pdt palier
  sens := .le
  termes :=
    [(.numberBreakingDownDispatchableUnits pdt palier, 1), (.numberStoppingDispatchableUnits pdt palier, -1)]

def ligneDeMarche : Ligne where
  contrainte := .nbDispUnitsMinBoundSinceMinUpTime pdt palier
  sens := .ge
  termes :=
    (.numberOfDispatchableUnits pdt palier, 1) ::
      (problem.dernieresHeures pdt groupe.dureeMinimaleDeMarche).flatMap fun t1 =>
        [(.numberStartingDispatchableUnits t1 palier, -1), (.numberBreakingDownDispatchableUnits t1 palier, 1)]

def ligneDArret : Ligne where
  contrainte := .minDownTime pdt palier
  sens := .le
  termes :=
    (.numberOfDispatchableUnits pdt palier, 1) ::
      (problem.dernieresHeures pdt groupe.dureeMinimaleDArret).map fun t1 =>
        (.numberStoppingDispatchableUnits t1 palier, 1)

def lignesDuGroupe : List Ligne :=
  [problem.ligneDeCoherence palier pdt, ligneDePanne palier pdt, problem.ligneDeMarche groupe palier pdt,
    problem.ligneDArret groupe palier pdt]

theorem palierDesGroupes_of_mem {ligne : Ligne} (listed : ligne ∈ problem.lignesDuGroupe groupe palier pdt) :
    ligne.contrainte.palierDesGroupes = some palier := by
  simp only [lignesDuGroupe, List.mem_cons, List.not_mem_nil, or_false] at listed
  rcases listed with rfl | rfl | rfl | rfl <;> rfl

end Lignes

section Emises

theorem mem_groupesDuPays {pays : Nat} {couple : GroupeThermique × Nat} :
    couple ∈ problem.groupesDuPays pays ↔
      ∃ index, (problem.paliersThermiques pays)[index]? = some couple.1 ∧
        couple.2 = problem.numeroDuPalier pays index := by
  unfold groupesDuPays
  simp only [List.mem_map, Prod.exists, List.mem_zipIdx_iff_getElem?]
  constructor
  · rintro ⟨groupe, index, found, rfl⟩
    exact ⟨index, found, rfl⟩
  · rintro ⟨index, found, same⟩
    exact ⟨couple.1, index, found, Prod.ext rfl same.symm⟩

theorem exists_heure_of_mem_dernieresHeures {pdt duree : Nat} (inRange : pdt < problem.pas)
    (short : duree ≤ problem.pas) {t1 : Int} (listed : t1 ∈ problem.dernieresHeures pdt duree) :
    ∃ hour < problem.pas, t1 = (hour : Nat) := by
  unfold dernieresHeures at listed
  obtain ⟨rang, inDuree, rfl⟩ := List.mem_map.mp listed
  rw [List.mem_range] at inDuree
  dsimp only
  split_ifs
  · exact ⟨(problem.pas + ((pdt : Int) - duree + 1 + rang)).toNat, by omega, by omega⟩
  · exact ⟨((pdt : Int) - duree + 1 + rang).toNat, by omega, by omega⟩

theorem exists_heure_precedente {pdt : Nat} (inRange : pdt < problem.pas) :
    ∃ hour < problem.pas, problem.heurePrecedente pdt = (hour : Nat) := by
  unfold heurePrecedente
  split_ifs
  · exact ⟨(problem.pas + ((pdt : Int) - 1)).toNat, by omega, by omega⟩
  · exact ⟨((pdt : Int) - 1).toNat, by omega, by omega⟩

theorem addVariables_of_listed {termes : Terms Variable Rat}
    (listed : ∀ terme ∈ termes, terme.1 ∈ problem.listeDesVariables) : problem.addVariables termes = termes := by
  unfold addVariables
  rw [List.filter_eq_self]
  intro terme present
  exact problem.numero_isSome_iff.mpr (listed terme present)

variable {problem}
variable {pays pdt : Nat} {couple : GroupeThermique × Nat}

theorem DemarragesComptes.listed (comptes : problem.DemarragesComptes) (bound : pays < problem.network.nombreDePays)
    (member : couple ∈ problem.groupesDuPays pays) (t1 : Int) (hours : ∃ hour < problem.pas, t1 = (hour : Nat)) :
    .numberOfDispatchableUnits t1 couple.2 ∈ problem.listeDesVariables ∧
      .numberStartingDispatchableUnits t1 couple.2 ∈ problem.listeDesVariables ∧
      .numberStoppingDispatchableUnits t1 couple.2 ∈ problem.listeDesVariables ∧
      .numberBreakingDownDispatchableUnits t1 couple.2 ∈ problem.listeDesVariables := by
  obtain ⟨hour, inRange, rfl⟩ := hours
  obtain ⟨index, found, number⟩ := problem.mem_groupesDuPays.mp member
  have all : ∀ variable_ ∈ [Variable.numberOfDispatchableUnits hour couple.2,
      .numberStartingDispatchableUnits hour couple.2, .numberStoppingDispatchableUnits hour couple.2,
      .numberBreakingDownDispatchableUnits hour couple.2], variable_ ∈ problem.listeDesVariables := by
    intro variable_ listed
    refine problem.mem_listeDesVariables.mpr (.inr (.inr (.inr (.inr ⟨comptes.couts, pays, bound, ?_⟩))))
    refine List.mem_flatMap.mpr ⟨index, List.mem_range.mpr (List.getElem?_eq_some_iff.mp found).1, ?_⟩
    refine List.mem_flatMap.mpr ⟨hour, List.mem_range.mpr inRange, ?_⟩
    rw [number] at listed
    exact listed
  exact ⟨all _ (by simp), all _ (by simp), all _ (by simp), all _ (by simp)⟩

theorem DemarragesComptes.groupe_mem (member : couple ∈ problem.groupesDuPays pays) :
    couple.1 ∈ problem.paliersThermiques pays := by
  obtain ⟨index, found, -⟩ := problem.mem_groupesDuPays.mp member
  exact List.mem_of_getElem? found

theorem DemarragesComptes.termes_listed (comptes : problem.DemarragesComptes)
    (bound : pays < problem.network.nombreDePays) (member : couple ∈ problem.groupesDuPays pays)
    (inRange : pdt < problem.pas) :
    ∀ ligne ∈ problem.lignesDuGroupe couple.1 couple.2 pdt, ∀ terme ∈ ligne.termes,
      terme.1 ∈ problem.listeDesVariables := by
  have group := DemarragesComptes.groupe_mem member
  have now := comptes.listed bound member pdt ⟨pdt, inRange, rfl⟩
  have before := comptes.listed bound member _ (problem.exists_heure_precedente inRange)
  have last {duree : Nat} (short : duree ≤ problem.pas) {t1 : Int} (late : t1 ∈ problem.dernieresHeures pdt duree) :=
    comptes.listed bound member t1 (problem.exists_heure_of_mem_dernieresHeures inRange short late)
  intro ligne emitted terme present
  simp only [lignesDuGroupe, List.mem_cons, List.not_mem_nil, or_false] at emitted
  rcases emitted with rfl | rfl | rfl | rfl
  · simp only [ligneDeCoherence, List.mem_cons, List.not_mem_nil, or_false] at present
    rcases present with rfl | rfl | rfl | rfl
    · exact now.1
    · exact before.1
    · exact now.2.1
    · exact now.2.2.1
  · simp only [ligneDePanne, List.mem_cons, List.not_mem_nil, or_false] at present
    rcases present with rfl | rfl
    · exact now.2.2.2
    · exact now.2.2.1
  · simp only [ligneDeMarche, List.mem_cons, List.mem_flatMap, List.not_mem_nil, or_false] at present
    rcases present with rfl | ⟨t1, late, rfl | rfl⟩
    · exact now.1
    · exact (last (comptes.marche_le pays _ group) late).2.1
    · exact (last (comptes.marche_le pays _ group) late).2.2.2
  · simp only [ligneDArret, List.mem_cons, List.mem_map] at present
    rcases present with rfl | ⟨t1, late, rfl⟩
    · exact now.1
    · exact (last (comptes.arret_le pays _ group) late).2.2.1

theorem build_of_listed {ligne : Ligne} (listed : ∀ terme ∈ ligne.termes, terme.1 ∈ problem.listeDesVariables)
    (nonempty : ligne.termes ≠ []) : problem.build ligne.contrainte ligne.sens ligne.termes = [ligne] := by
  unfold build
  rw [problem.addVariables_of_listed listed, if_neg (by simpa using nonempty)]

theorem buildIfSeveral_of_listed {ligne : Ligne}
    (listed : ∀ terme ∈ ligne.termes, terme.1 ∈ problem.listeDesVariables) (several : 1 < ligne.termes.length)
    (lignes : List Ligne) :
    problem.buildIfSeveral ligne.contrainte ligne.sens ligne.termes { termes := [], lignes } =
      { termes := [], lignes := lignes ++ [ligne] } := by
  unfold buildIfSeveral
  rw [problem.addVariables_of_listed listed, List.nil_append, if_pos several]

theorem foldl_emit {ι : Type} {emettre : ConstraintBuilder → ι → ConstraintBuilder} {ligne : ι → List Ligne}
    (items : List ι) (single : ∀ item ∈ items, ∀ lignes,
      emettre { termes := [], lignes } item = { termes := [], lignes := lignes ++ ligne item })
    (lignes : List Ligne) :
    items.foldl emettre { termes := [], lignes } = { termes := [], lignes := lignes ++ items.flatMap ligne } := by
  induction items generalizing lignes with
  | nil => rw [List.foldl_nil, List.flatMap_nil, List.append_nil]
  | cons item items ih =>
    rw [List.foldl_cons, single item (List.mem_cons_self), ih fun other later => single other (.tail _ later),
      List.flatMap_cons, List.append_assoc]

theorem parGroupeEtHeureAvec_eq {groupes : List (GroupeThermique × Nat)}
    {emettre : GroupeThermique → Nat → Nat → ConstraintBuilder → ConstraintBuilder}
    {ligne : GroupeThermique → Nat → Nat → Ligne}
    (single : ∀ couple ∈ groupes, ∀ pdt < problem.pas, ∀ lignes,
      emettre couple.1 couple.2 pdt { termes := [], lignes } =
        { termes := [], lignes := lignes ++ [ligne couple.1 couple.2 pdt] }) :
    problem.parGroupeEtHeureAvec groupes emettre =
      groupes.flatMap fun couple => (List.range problem.pas).flatMap fun pdt => [ligne couple.1 couple.2 pdt] := by
  unfold parGroupeEtHeureAvec
  rw [foldl_emit groupes]
  · rfl
  · intro couple member lignes
    exact foldl_emit _ (fun pdt inRange => single couple member pdt (List.mem_range.mp inRange)) lignes

@[simp] theorem length_dernieresHeures (duree : Nat) : (problem.dernieresHeures pdt duree).length = duree := by
  simp [dernieresHeures]

section Boucles
variable (comptes : problem.DemarragesComptes) (bound : pays < problem.network.nombreDePays)
include comptes bound

theorem DemarragesComptes.lignesDeCoherence :
    (problem.parGroupeEtHeure pays fun _ => problem.consistenceNumberOfDispatchableUnits) =
      (problem.groupesDuPays pays).flatMap fun couple => (List.range problem.pas).flatMap fun pdt =>
        [problem.ligneDeCoherence couple.2 pdt] := by
  refine List.flatMap_congr fun couple member => List.flatMap_congr fun pdt inRange => ?_
  exact build_of_listed (comptes.termes_listed bound member (List.mem_range.mp inRange) _
    (List.mem_cons_self)) (List.cons_ne_nil _ _)

theorem DemarragesComptes.lignesDePanne :
    (problem.parGroupeEtHeure pays fun _ => problem.nbUnitsOutageLessThanNbUnitsStop) =
      (problem.groupesDuPays pays).flatMap fun couple => (List.range problem.pas).flatMap fun pdt =>
        [ligneDePanne couple.2 pdt] := by
  refine List.flatMap_congr fun couple member => List.flatMap_congr fun pdt inRange => ?_
  exact build_of_listed (comptes.termes_listed bound member (List.mem_range.mp inRange) _
    (.tail _ List.mem_cons_self)) (List.cons_ne_nil _ _)

theorem DemarragesComptes.lignesDeMarche :
    problem.parGroupeEtHeureAvec
        ((problem.groupesDuPays pays).filter fun (groupe, _) => 0 < groupe.dureeMinimaleDeMarche)
        problem.nbDispUnitsMinBoundSinceMinUpTime =
      (problem.groupesDuPays pays).flatMap fun couple => (List.range problem.pas).flatMap fun pdt =>
        [problem.ligneDeMarche couple.1 couple.2 pdt] := by
  have positive (couple : GroupeThermique × Nat) (member : couple ∈ problem.groupesDuPays pays) :
      0 < couple.1.dureeMinimaleDeMarche := comptes.marche_pos pays _ (groupe_mem member)
  have all : ((problem.groupesDuPays pays).filter fun (groupe, _) => 0 < groupe.dureeMinimaleDeMarche) =
      problem.groupesDuPays pays := by
    rw [List.filter_eq_self]
    intro couple member
    exact decide_eq_true (positive couple member)
  rw [all]
  refine parGroupeEtHeureAvec_eq fun couple member pdt inRange lignes => ?_
  refine buildIfSeveral_of_listed (comptes.termes_listed bound member inRange _
    (.tail _ (.tail _ List.mem_cons_self))) ?_ lignes
  have several := positive couple member
  simp only [ligneDeMarche, List.length_cons, List.length_nil, List.length_flatMap, List.map_const',
    length_dernieresHeures, List.sum_replicate_nat]
  omega

theorem DemarragesComptes.lignesDArret :
    problem.parGroupeEtHeureAvec (problem.groupesDuPays pays) problem.minDownTime =
      (problem.groupesDuPays pays).flatMap fun couple => (List.range problem.pas).flatMap fun pdt =>
        [problem.ligneDArret couple.1 couple.2 pdt] := by
  refine parGroupeEtHeureAvec_eq fun couple member pdt inRange lignes => ?_
  refine buildIfSeveral_of_listed (comptes.termes_listed bound member inRange _
    (.tail _ (.tail _ (.tail _ List.mem_cons_self)))) ?_ lignes
  have several := comptes.arret_pos pays _ (groupe_mem member)
  simp only [ligneDArret, List.length_cons, List.length_map, length_dernieresHeures]
  omega

end Boucles

theorem DemarragesComptes.mem_lignesDeDemarrage (comptes : problem.DemarragesComptes) {ligne : Ligne} :
    ligne ∈ problem.lignesDeDemarrage ↔
      ∃ pays < problem.network.nombreDePays, ∃ couple ∈ problem.groupesDuPays pays, ∃ pdt < problem.pas,
        ligne ∈ problem.pMaxDispatchableGeneration couple.1 couple.2 pdt ++
            problem.pMinDispatchableGeneration couple.1 couple.2 pdt ∨
          ligne ∈ problem.lignesDuGroupe couple.1 couple.2 pdt := by
  have parts : problem.lignesDeDemarrage =
      ((List.range problem.network.nombreDePays).flatMap fun pays =>
        problem.parGroupeEtHeure pays fun groupe palier pdt =>
          problem.pMaxDispatchableGeneration groupe palier pdt ++
            problem.pMinDispatchableGeneration groupe palier pdt) ++
      ((List.range problem.network.nombreDePays).flatMap fun pays => (problem.groupesDuPays pays).flatMap fun couple =>
        (List.range problem.pas).flatMap fun pdt => [problem.ligneDeCoherence couple.2 pdt]) ++
      ((List.range problem.network.nombreDePays).flatMap fun pays => (problem.groupesDuPays pays).flatMap fun couple =>
        (List.range problem.pas).flatMap fun pdt => [ligneDePanne couple.2 pdt]) ++
      ((List.range problem.network.nombreDePays).flatMap fun pays => (problem.groupesDuPays pays).flatMap fun couple =>
        (List.range problem.pas).flatMap fun pdt => [problem.ligneDeMarche couple.1 couple.2 pdt]) ++
      ((List.range problem.network.nombreDePays).flatMap fun pays => (problem.groupesDuPays pays).flatMap fun couple =>
        (List.range problem.pas).flatMap fun pdt => [problem.ligneDArret couple.1 couple.2 pdt]) := by
    unfold lignesDeDemarrage
    refine congrArg₂ (· ++ ·) (congrArg₂ (· ++ ·) (congrArg₂ (· ++ ·) (congrArg _ ?_) ?_) ?_) ?_
    · exact List.flatMap_congr fun pays bound => comptes.lignesDeCoherence (List.mem_range.mp bound)
    · exact List.flatMap_congr fun pays bound => comptes.lignesDePanne (List.mem_range.mp bound)
    · exact List.flatMap_congr fun pays bound => comptes.lignesDeMarche (List.mem_range.mp bound)
    · exact List.flatMap_congr fun pays bound => comptes.lignesDArret (List.mem_range.mp bound)
  rw [parts]
  simp only [parGroupeEtHeure, lignesDuGroupe, List.mem_append, List.mem_flatMap, List.mem_range, List.mem_cons,
    List.not_mem_nil, or_false, and_or_left, exists_or, or_assoc]

theorem pMax_pMin_palierDesGroupes {groupe : GroupeThermique} {palier : Nat} {ligne : Ligne}
    (listed : ligne ∈ problem.pMaxDispatchableGeneration groupe palier pdt ++
      problem.pMinDispatchableGeneration groupe palier pdt) : ligne.contrainte.palierDesGroupes = none := by
  rcases List.mem_append.mp listed with first | second
  · rw [(problem.mem_build first).1]
    rfl
  · rw [(problem.mem_build second).1]
    rfl

theorem DemarragesComptes.mem_matrice_iff (comptes : problem.DemarragesComptes)
    (bound : pays < problem.network.nombreDePays) (member : couple ∈ problem.groupesDuPays pays) {ligne : Ligne} :
    (ligne ∈ problem.construireLaMatriceDesContraintes ∧ ligne.contrainte.palierDesGroupes = some couple.2) ↔
      ∃ pdt < problem.pas, ligne ∈ problem.lignesDuGroupe couple.1 couple.2 pdt := by
  have other (contrainte : Contrainte) (sens : Sense) (termes : Terms Variable Rat)
      (kind : contrainte.palierDesGroupes = none) (_ : ∀ autre ∈ contrainte.sensDuGenre, sens = autre) :
      ∀ ligne ∈ problem.build contrainte sens termes, ligne.contrainte.palierDesGroupes = none := by
    intro ligne emitted
    rw [(problem.mem_build emitted).1]
    exact kind
  constructor
  · rintro ⟨emitted, isGroup⟩
    unfold construireLaMatriceDesContraintes at emitted
    rw [if_pos comptes.couts] at emitted
    rcases List.mem_append.mp emitted with before | starts
    · have none : ligne.contrainte.palierDesGroupes = none := by
        rcases List.mem_append.mp before with hourly | period
        · obtain ⟨pdt, -, step⟩ := List.mem_flatMap.mp hourly
          exact problem.lignesDuPasDeTemps_forall other pdt ligne step
        · exact problem.lignesDeLaPeriode_forall other ligne period
      rw [none] at isGroup
      cases isGroup
    · obtain ⟨autre, -, autreCouple, autreMember, pdt, inRange, power | group⟩ :=
        comptes.mem_lignesDeDemarrage.mp starts
      · rw [pMax_pMin_palierDesGroupes power] at isGroup
        cases isGroup
      · -- the number of a cluster tells its area and its rank
        have number := (problem.palierDesGroupes_of_mem _ _ _ group).symm.trans isGroup
        obtain ⟨index, found, place⟩ := problem.mem_groupesDuPays.mp member
        obtain ⟨autreIndex, autreFound, autrePlace⟩ := problem.mem_groupesDuPays.mp autreMember
        have same : problem.numeroDuPalier autre autreIndex = problem.numeroDuPalier pays index := by
          rw [← place, ← autrePlace]
          exact Option.some.inj number
        obtain ⟨rfl, rfl⟩ := problem.numeroDuPalier_unique (List.getElem?_eq_some_iff.mp autreFound).1
          (List.getElem?_eq_some_iff.mp found).1 same
        have couples : autreCouple = couple :=
          Prod.ext (Option.some.inj (autreFound.symm.trans found)) (Option.some.inj number)
        exact ⟨pdt, inRange, couples ▸ group⟩
  · rintro ⟨pdt, inRange, group⟩
    refine ⟨?_, problem.palierDesGroupes_of_mem _ _ _ group⟩
    unfold construireLaMatriceDesContraintes
    rw [if_pos comptes.couts]
    exact List.mem_append_right _
      (comptes.mem_lignesDeDemarrage.mpr ⟨pays, bound, couple, member, pdt, inRange, .inr group⟩)

end Emises

end WeeklyProblem

end Antares.Optimisation
