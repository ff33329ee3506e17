import Antares.Thermal.StablePower
import Antares.UnitCommitment.UnitSchedules

/-! A thermal cluster at its available power with all its available units on, where every drop of
its availability is failures. What the heuristics leave of it, and the rows that it fits over a
week that closes on itself.
-/

set_option autoImplicit false

namespace Antares.Optimisation

open Library Thermal

/-- The weekly data of a cluster are written from its data in the study, whose availability has
been lifted. -/
structure IssuDe (cluster : StableCluster) (groupe : GroupeThermique) (palier : PalierThermique) : Prop where
  capacity_nonneg : 0 ≤ cluster.nominalCapacityWithSpinning
  pmaxDUnGroupe : groupe.pmaxDUnGroupe = cluster.nominalCapacityWithSpinning
  pminDUnGroupe : groupe.pminDUnGroupe = cluster.pmin
  tailleUnitaire : palier.tailleUnitaireDUnGroupe = cluster.nominalCapacityWithSpinning
  pminDuPalier : palier.pminDUnGroupe = cluster.pmin
  /-- Nothing is ever lifted for a null capacity, by which the power cannot be divided. -/
  lifted : ∀ pdt < nbHoursInWeek, cluster.nominalCapacityWithSpinning ≠ 0 →
    cluster.correctAvailability (palier.puissanceDisponible pdt) = palier.puissanceDisponible pdt

/-- The units can have the power: it is not negative, and units without size have none. -/
structure Tenable (cluster : StableCluster) (puissance : Rat) : Prop where
  nonneg : 0 ≤ puissance
  nothing : cluster.nominalCapacityWithSpinning = 0 → puissance = 0

variable (cluster : StableCluster)

theorem pmin_le : cluster.pmin ≤ cluster.nominalCapacityWithSpinning := by
  unfold StableCluster.pmin
  split_ifs with small
  · exact le_rfl
  · exact not_lt.mp small

theorem correctAvailability_eq_iff (puissance : Rat) :
    cluster.correctAvailability puissance = puissance ↔
      cluster.pmin * ⌈puissance / cluster.nominalCapacityWithSpinning⌉ ≤ puissance := by
  unfold StableCluster.correctAvailability
  dsimp only
  split_ifs with lifted
  · exact iff_of_false lifted.ne' (not_le.mpr lifted)
  · exact iff_of_true rfl (not_lt.mp lifted)

namespace PalierThermique

/-- In an hour, all the units are within the bounds and the rows of generation take the available power. -/
structure Tenue (palier : PalierThermique) (groupe : GroupeThermique) (pdt : Nat) : Prop where
  nombreMin_le : palier.nombreMinDeGroupesEnMarche pdt ≤ palier.nombreMaxDeGroupesEnMarche pdt
  nombreMax_nonneg : 0 ≤ palier.nombreMaxDeGroupesEnMarche pdt
  le_pmax : palier.puissanceDisponible pdt ≤ groupe.pmaxDUnGroupe * palier.nombreMaxDeGroupesEnMarche pdt
  pmin_le : groupe.pminDUnGroupe * palier.nombreMaxDeGroupesEnMarche pdt ≤ palier.puissanceDisponible pdt

variable {cluster : StableCluster} {groupe : GroupeThermique} {palier : PalierThermique}
  {ucMode : UnitCommitmentMode} {pdt : Nat}

theorem Renseigne.preparer_eq (renseigne : palier.Renseigne)
    (starts : ucMode.optimisationAvecCoutsDeDemarrage = true) (pdt : Nat) :
    (palier.preparer ucMode).puissanceDisponible pdt = palier.puissanceDisponible pdt ∧
      (palier.preparer ucMode).nombreMaxDeGroupesEnMarche pdt =
        palier.nombreDeGroupes palier.puissanceDisponible pdt ∧
      (palier.preparer ucMode).nombreMinDeGroupesEnMarche pdt = palier.nombreDeGroupes palier.puissanceMin pdt := by
  rw [preparer_puissanceDisponible, preparer_nombreMax, preparer_nombreMin, if_pos starts, if_pos starts,
    renseigne.disponible]
  exact ⟨rfl, rfl, rfl⟩

theorem tenue_preparer_iff (issu : IssuDe cluster groupe palier) (renseigne : palier.Renseigne)
    (starts : ucMode.optimisationAvecCoutsDeDemarrage = true) (inRange : pdt < nbHoursInWeek) :
    (palier.preparer ucMode).Tenue groupe pdt ↔ Tenable cluster (palier.puissanceDisponible pdt) := by
  obtain ⟨disponible, nombreMax, nombreMin⟩ := renseigne.preparer_eq starts pdt
  have lower : palier.puissanceMin pdt ≤ palier.puissanceDisponible pdt := by
    rw [renseigne.disponible]
    exact renseigne.pmin_le pdt
  rcases issu.capacity_nonneg.eq_or_lt with null | positive
  · -- units without size: the number of units is zero, whatever the power
    have noUnit (puissance : Nat → Rat) : palier.nombreDeGroupes puissance pdt = 0 := by
      rw [nombreDeGroupes, issu.tailleUnitaire, ← null, if_neg (by simp)]
    rw [noUnit] at nombreMax nombreMin
    constructor
    · rintro ⟨-, -, above, below⟩
      rw [disponible, nombreMax, Int.cast_zero, mul_zero] at above below
      exact ⟨below, fun _ => le_antisymm above below⟩
    · rintro ⟨-, nothing⟩
      constructor <;> simp [disponible, nombreMax, nombreMin, nothing null.symm]
  · have units (puissance : Nat → Rat) : palier.nombreDeGroupes puissance pdt =
        ⌈puissance pdt / cluster.nominalCapacityWithSpinning⌉ := by
      rw [nombreDeGroupes, issu.tailleUnitaire, if_pos positive.ne']
    rw [units] at nombreMax nombreMin
    have enough : palier.puissanceDisponible pdt ≤
        cluster.nominalCapacityWithSpinning * ⌈palier.puissanceDisponible pdt / cluster.nominalCapacityWithSpinning⌉ := by
      rw [mul_comm, ← div_le_iff₀ positive]
      exact Int.le_ceil _
    constructor
    · rintro ⟨-, nonneg, -, below⟩
      refine ⟨?_, fun null => absurd null positive.ne'⟩
      rw [disponible, nombreMax] at below
      rw [nombreMax] at nonneg
      rcases nonneg.eq_or_lt with zero | some_
      · rwa [← zero, Int.cast_zero, mul_zero] at below
      · exact ((div_pos_iff_of_pos_right positive).mp (Int.ceil_pos.mp some_)).le
    · rintro ⟨nonneg, -⟩
      constructor
      · rw [nombreMin, nombreMax]
        exact Int.ceil_le_ceil (div_le_div_of_nonneg_right lower positive.le)
      · rw [nombreMax]
        exact Int.ceil_nonneg (div_nonneg nonneg positive.le)
      · rw [disponible, nombreMax, issu.pmaxDUnGroupe]
        exact enough
      · rw [disponible, nombreMax, issu.pminDUnGroupe]
        exact (correctAvailability_eq_iff cluster _).mp (issu.lifted pdt inRange positive.ne')

theorem Tenue.ajusterLeNombreMinDeGroupes (tenue : palier.Tenue groupe pdt)
    (pmin_le : groupe.pminDUnGroupe ≤ groupe.pmaxDUnGroupe) (pmax_nonneg : 0 ≤ groupe.pmaxDUnGroupe)
    (same : palier.pminDUnGroupe = groupe.pminDUnGroupe) (nombres : Nat → Rat) (auxiliaire : Option (Nat → Rat)) :
    (palier.ajusterLeNombreMinDeGroupes nombres auxiliaire).Tenue groupe pdt := by
  have more : palier.nombreMaxDeGroupesEnMarche pdt ≤
      max (palier.nombreMaxDeGroupesEnMarche pdt) ⌈auxiliaire.getD nombres pdt⌉ := le_max_left _ _
  have nonneg := tenue.nombreMax_nonneg.trans more
  unfold PalierThermique.ajusterLeNombreMinDeGroupes
  constructor
  · exact le_max_right _ _
  · exact nonneg
  · dsimp only
    rw [same]
    have casted : (palier.nombreMaxDeGroupesEnMarche pdt : Rat) ≤
        (max (palier.nombreMaxDeGroupesEnMarche pdt) ⌈auxiliaire.getD nombres pdt⌉ : Int) := Int.cast_le.mpr more
    split_ifs
    · exact mul_le_mul_of_nonneg_right pmin_le (Int.cast_nonneg nonneg)
    · exact tenue.le_pmax.trans (mul_le_mul_of_nonneg_left casted pmax_nonneg)
  · dsimp only
    rw [same]
    split_ifs with below
    · exact le_rfl
    · exact not_lt.mp below

theorem Tenue.apresUnPas (tenue : palier.Tenue groupe pdt) (pmin_le : groupe.pminDUnGroupe ≤ groupe.pmaxDUnGroupe)
    (pmax_nonneg : 0 ≤ groupe.pmaxDUnGroupe) (same : palier.pminDUnGroupe = groupe.pminDUnGroupe)
    (starts : ucMode.optimisationAvecCoutsDeDemarrage = true) (expansion : Bool) (solution : Solution) :
    (palier.apresUnPas ucMode expansion solution).Tenue groupe pdt := by
  unfold PalierThermique.apresUnPas runThermalHeuristic
  rw [if_pos starts]
  split_ifs
  · exact tenue.ajusterLeNombreMinDeGroupes pmin_le pmax_nonneg same _ _
  · exact tenue

variable (ucMode : UnitCommitmentMode)

theorem apresUnPas_puissanceMin_le (expansion : Bool) (solution : Solution)
    (bounded : ∀ pdt, palier.puissanceMin pdt ≤ palier.puissanceDisponible pdt) (pdt : Nat) :
    (palier.apresUnPas ucMode expansion solution).puissanceMin pdt ≤
      (palier.apresUnPas ucMode expansion solution).puissanceDisponible pdt := by
  unfold PalierThermique.apresUnPas runThermalHeuristic
  split_ifs
  · unfold PalierThermique.ajusterLeNombreMinDeGroupes
    dsimp only
    split_ifs with raised
    · exact (bounded pdt).trans raised.le
    · exact bounded pdt
  · rw [calculerLesPmin_puissanceDisponible]
    exact calculerLesPmin_le _ bounded pdt
  · exact bounded pdt

theorem le_apresUnPas_puissanceDisponible (expansion : Bool) (solution : Solution)
    (pdt : Nat) :
    palier.puissanceDisponible pdt ≤ (palier.apresUnPas ucMode expansion solution).puissanceDisponible pdt := by
  unfold PalierThermique.apresUnPas runThermalHeuristic
  split_ifs
  · unfold PalierThermique.ajusterLeNombreMinDeGroupes
    dsimp only
    split_ifs with raised
    · exact raised.le
    · exact le_rfl
  · rw [calculerLesPmin_puissanceDisponible]
  · exact le_rfl

end PalierThermique

end Antares.Optimisation

namespace Antares.AdequacyPatch

open Optimisation Library

namespace Week

variable {settings : WeekSettings} (week : Week settings) (passage : Passage)

/-- All the available units are on, and those that leave are failing. -/
structure ToutesEnMarche (palier : Nat) (point : Variable → Rat) : Prop where
  enMarche : ∀ pdt < nbHoursInWeek, point (.numberOfDispatchableUnits pdt palier) =
    (passage.paliers palier).nombreMaxDeGroupesEnMarche pdt
  arretent : ∀ pdt < nbHoursInWeek,
    point (.numberStoppingDispatchableUnits pdt palier) = week.groupesPerdus passage palier pdt
  enPanne : ∀ pdt < nbHoursInWeek,
    point (.numberBreakingDownDispatchableUnits pdt palier) = week.groupesPerdus passage palier pdt

structure TousDemarres (palier : Nat) (point : Variable → Rat) : Prop extends
    ToutesEnMarche week passage palier point where
  demarrent : ∀ pdt < nbHoursInWeek,
    point (.numberStartingDispatchableUnits pdt palier) = week.groupesRevenus passage palier pdt

variable {week}
variable (hours : week.problem.range = .sorWeek)
include hours

theorem groupesPerdus_eq (palier : Nat) (hour : Int) :
    week.groupesPerdus passage palier (heureDeLaSemaine hour) =
      max (nombreMaxRepete passage palier (hour - 1) - nombreMaxRepete passage palier hour) 0 := by
  unfold groupesPerdus
  dsimp only
  rw [nombreMax_veille passage hours]
  unfold nombreMaxRepete
  split_ifs with lost
  · exact (max_eq_left lost.le).symm
  · exact (max_eq_right (not_lt.mp lost)).symm

theorem sum_revenus_sub_perdus (palier : Nat) (hour : Int) (duree : Nat) :
    ∑ earlier ∈ Finset.range duree, (week.groupesRevenus passage palier (heureDeLaSemaine (hour - earlier)) -
        week.groupesPerdus passage palier (heureDeLaSemaine (hour - earlier))) =
      nombreMaxRepete passage palier hour - nombreMaxRepete passage palier (hour - duree) := by
  have step (later : Int) : nombreMaxRepete passage palier later - nombreMaxRepete passage palier (later - 1) =
      week.groupesRevenus passage palier (heureDeLaSemaine later) -
        week.groupesPerdus passage palier (heureDeLaSemaine later) := by
    rw [groupesRevenus_eq passage hours, groupesPerdus_eq passage hours]
    omega
  exact UnitCounts.sum_window step hour duree

variable {pays pdt : Nat} {couple : GroupeThermique × Nat}

theorem exists_revenus_sub_perdus (palier : Nat) (inRange : pdt < nbHoursInWeek) :
    ∃ before < nbHoursInWeek, week.problem.heurePrecedente pdt = (before : Nat) ∧
      (week.groupesRevenus passage palier pdt : Rat) - week.groupesPerdus passage palier pdt =
        (passage.paliers palier).nombreMaxDeGroupesEnMarche pdt -
          (passage.paliers palier).nombreMaxDeGroupesEnMarche before := by
  obtain ⟨before, inWeek, previous⟩ := week.problem.exists_heure_precedente (by rwa [pas_eq hours] : pdt < week.problem.pas)
  rw [pas_eq hours] at inWeek
  refine ⟨before, inWeek, previous, ?_⟩
  have veille : heureDeLaSemaine (pdt - 1) = before := by
    have same := congrArg Int.toNat previous
    rw [WeeklyProblem.heurePrecedente, pas_eq hours, Int.toNat_natCast] at same
    rw [← same]
    have start : pdt < 168 := inRange
    unfold heureDeLaSemaine nbHoursInWeek
    split_ifs <;> omega
  have window := sum_revenus_sub_perdus passage hours palier pdt 1
  rw [Finset.sum_range_one, Int.natCast_zero, sub_zero, heureDeLaSemaine_natCast inRange] at window
  unfold nombreMaxRepete at window
  rw [heureDeLaSemaine_natCast inRange, Nat.cast_one, veille] at window
  exact_mod_cast window

section Lignes
variable {passage} {point : Variable → Rat} (tous : week.TousDemarres passage couple.2 point) (inRange : pdt < nbHoursInWeek)
include tous inRange

omit hours in
theorem TousDemarres.enMarche_eq :
    point (.numberOfDispatchableUnits pdt couple.2) = (nombreMaxRepete passage couple.2 pdt : Rat) := by
  rw [tous.enMarche pdt inRange, nombreMaxRepete, heureDeLaSemaine_natCast inRange]

theorem TousDemarres.ligneDeCoherence :
    Terms.value (week.problem.ligneDeCoherence couple.2 pdt).termes point = 0 := by
  obtain ⟨before, inWeek, previous, change⟩ := exists_revenus_sub_perdus passage hours couple.2 inRange
  simp only [WeeklyProblem.ligneDeCoherence, previous, Terms.value_cons, Terms.value_nil, tous.enMarche pdt inRange,
    tous.enMarche before inWeek, tous.demarrent pdt inRange, tous.arretent pdt inRange]
  linarith

theorem TousDemarres.ligneDeMarche (marche : couple.1.dureeMinimaleDeMarche ≤ nbHoursInWeek) :
    Terms.value (week.problem.ligneDeMarche couple.1 couple.2 pdt).termes point =
      (nombreMaxRepete passage couple.2 (pdt - couple.1.dureeMinimaleDeMarche) : Rat) := by
  have window := sum_revenus_sub_perdus passage hours couple.2 pdt couple.1.dureeMinimaleDeMarche
  rw [← sum_dernieresHeures hours inRange marche fun hour =>
    week.groupesRevenus passage couple.2 hour - week.groupesPerdus passage couple.2 hour] at window
  have terms : ((week.problem.dernieresHeures pdt couple.1.dureeMinimaleDeMarche).map fun t1 =>
      Terms.value [(Variable.numberStartingDispatchableUnits t1 couple.2, (-1 : Rat)),
        (Variable.numberBreakingDownDispatchableUnits t1 couple.2, 1)] point) =
      (week.problem.dernieresHeures pdt couple.1.dureeMinimaleDeMarche).map fun t1 =>
        -1 * ((week.groupesRevenus passage couple.2 t1.toNat - week.groupesPerdus passage couple.2 t1.toNat : Int) : Rat) := by
    refine List.map_congr_left fun t1 late => ?_
    obtain ⟨hour, inWeek, rfl⟩ := week.problem.exists_heure_of_mem_dernieresHeures
      (by rwa [pas_eq hours]) (by rwa [pas_eq hours]) late
    rw [pas_eq hours] at inWeek
    simp only [Terms.value_cons, Terms.value_nil, tous.demarrent hour inWeek, tous.enPanne hour inWeek,
      Int.toNat_natCast]
    push_cast
    ring
  rw [WeeklyProblem.ligneDeMarche, Terms.value_cons, Terms.value_flatMap, terms, sum_map_intCast, window,
    tous.enMarche_eq inRange]
  push_cast
  ring

theorem TousDemarres.ligneDArret (bound : pays < week.problem.network.nombreDePays)
    (member : couple ∈ week.problem.groupesDuPays pays) (arret : couple.1.dureeMinimaleDArret ≤ nbHoursInWeek) :
    Terms.value (week.problem.ligneDArret couple.1 couple.2 pdt).termes point =
      week.secondMembreDeLaDureeMinDArret passage couple.2 pdt := by
  have window := sum_revenus_sub_perdus passage hours couple.2 pdt couple.1.dureeMinimaleDArret
  rw [Finset.sum_sub_distrib] at window
  have terms : ((week.problem.dernieresHeures pdt couple.1.dureeMinimaleDArret).map fun t1 =>
      (1 : Rat) * point (.numberStoppingDispatchableUnits t1 couple.2)) =
      (week.problem.dernieresHeures pdt couple.1.dureeMinimaleDArret).map fun t1 =>
        1 * ((week.groupesPerdus passage couple.2 t1.toNat : Int) : Rat) := by
    refine List.map_congr_left fun t1 late => ?_
    obtain ⟨hour, inWeek, rfl⟩ := week.problem.exists_heure_of_mem_dernieresHeures
      (by rwa [pas_eq hours]) (by rwa [pas_eq hours]) late
    rw [pas_eq hours] at inWeek
    rw [tous.arretent hour inWeek, Int.toNat_natCast]
  rw [WeeklyProblem.ligneDArret, Terms.value_cons, Terms.value_map, terms, sum_map_intCast,
    sum_dernieresHeures hours inRange arret fun hour => week.groupesPerdus passage couple.2 hour,
    secondMembreDeLaDureeMinDArret_eq hours bound member arret inRange, tous.enMarche_eq inRange, one_mul, one_mul,
    ← Int.cast_add]
  exact congrArg _ (by omega)

end Lignes

section Groupe
variable {passage} {point : Variable → Rat}

theorem ToutesEnMarche.demarrent_of_coherence (toutes : week.ToutesEnMarche passage couple.2 point)
    (inRange : pdt < nbHoursInWeek)
    (holds : Terms.value (week.problem.ligneDeCoherence couple.2 pdt).termes point = 0) :
    point (.numberStartingDispatchableUnits pdt couple.2) = week.groupesRevenus passage couple.2 pdt := by
  obtain ⟨before, inWeek, previous, change⟩ := exists_revenus_sub_perdus passage hours couple.2 inRange
  simp only [WeeklyProblem.ligneDeCoherence, previous, Terms.value_cons, Terms.value_nil, toutes.enMarche pdt inRange,
    toutes.enMarche before inWeek, toutes.arretent pdt inRange] at holds
  linarith

/-- With all the available units on, the rows of the cluster ask for the starts of the units that come
back, and for no more than an availability that is not negative. -/
theorem ToutesEnMarche.lignes_iff (toutes : week.ToutesEnMarche passage couple.2 point)
    (bound : pays < week.problem.network.nombreDePays) (member : couple ∈ week.problem.groupesDuPays pays)
    (marche : couple.1.dureeMinimaleDeMarche ≤ nbHoursInWeek) (arret : couple.1.dureeMinimaleDArret ≤ nbHoursInWeek) :
    (∀ pdt < week.problem.pas, ∀ ligne ∈ week.problem.lignesDuGroupe couple.1 couple.2 pdt,
        ligne.sens.Holds (ligne.termes.value point) (week.secondMembre passage 0 ligne.contrainte)) ↔
      week.TousDemarres passage couple.2 point ∧
        ∀ pdt < nbHoursInWeek, 0 ≤ (passage.paliers couple.2).nombreMaxDeGroupesEnMarche pdt := by
  rw [pas_eq hours]
  unfold WeeklyProblem.lignesDuGroupe
  simp only [List.forall_mem_cons, List.not_mem_nil, false_imp_iff, implies_true, and_true]
  constructor
  · intro rows
    have tous : week.TousDemarres passage couple.2 point :=
      ⟨toutes, fun pdt inRange => toutes.demarrent_of_coherence hours inRange (rows pdt inRange).1⟩
    refine ⟨tous, fun pdt inRange => ?_⟩
    -- the hour whose window of the minimum up time starts just after this one
    have later := heureDeLaSemaine_lt (pdt + couple.1.dureeMinimaleDeMarche)
    have row := (rows _ later).2.2.1
    rw [WeeklyProblem.ligneDeMarche] at row
    have counted := tous.ligneDeMarche hours later marche
    rw [WeeklyProblem.ligneDeMarche] at counted
    have kept : (0 : Rat) ≤ nombreMaxRepete passage couple.2
        (heureDeLaSemaine (pdt + couple.1.dureeMinimaleDeMarche) - couple.1.dureeMinimaleDeMarche) := counted ▸ row
    rwa [nombreMaxRepete, heureDeLaSemaine_sub, add_sub_cancel_right, heureDeLaSemaine_natCast inRange,
      Int.cast_nonneg_iff] at kept
  · rintro ⟨tous, nonneg⟩ pdt inRange
    refine ⟨tous.ligneDeCoherence hours inRange, ?_, ?_, ?_⟩
    · simp [WeeklyProblem.ligneDePanne, Sense.Holds, secondMembre, toutes.enPanne pdt inRange,
        toutes.arretent pdt inRange]
    · have kept : (0 : Rat) ≤ nombreMaxRepete passage couple.2 (pdt - couple.1.dureeMinimaleDeMarche) :=
        Int.cast_nonneg (nonneg _ (heureDeLaSemaine_lt _))
      exact kept.trans_eq (tous.ligneDeMarche hours inRange marche).symm
    · have rest : week.secondMembre passage 0 (.minDownTime pdt couple.2) =
          week.secondMembreDeLaDureeMinDArret passage couple.2 pdt := by rw [secondMembre, Nat.zero_add]
      exact ((tous.ligneDArret hours inRange bound member arret).trans rest.symm).le

omit hours

theorem production_mem (bound : pays < week.problem.network.nombreDePays)
    (member : couple ∈ week.problem.groupesDuPays pays) (inRange : pdt < week.problem.pas) :
    .dispatchableProduction pdt couple.2 ∈ week.problem.listeDesVariables := by
  obtain ⟨index, found, number⟩ := week.problem.mem_groupesDuPays.mp member
  apply week.problem.mem_of_mem_variablesDuPays inRange bound
  apply List.mem_append_left
  apply List.mem_append_left
  rw [number]
  exact List.mem_map_of_mem (List.mem_range.mpr (List.getElem?_eq_some_iff.mp found).1)

theorem lignesDeGeneration_iff (comptes : week.problem.DemarragesComptes)
    (bound : pays < week.problem.network.nombreDePays) (member : couple ∈ week.problem.groupesDuPays pays)
    (inRange : pdt < week.problem.pas) :
    (∀ ligne ∈ week.problem.pMaxDispatchableGeneration couple.1 couple.2 pdt ++
        week.problem.pMinDispatchableGeneration couple.1 couple.2 pdt,
        ligne.sens.Holds (ligne.termes.value point) (week.secondMembre passage 0 ligne.contrainte)) ↔
      point (.dispatchableProduction pdt couple.2) ≤
          couple.1.pmaxDUnGroupe * point (.numberOfDispatchableUnits pdt couple.2) ∧
        couple.1.pminDUnGroupe * point (.numberOfDispatchableUnits pdt couple.2) ≤
          point (.dispatchableProduction pdt couple.2) := by
  have produced := production_mem bound member inRange
  have units := (comptes.listed bound member pdt ⟨pdt, inRange, rfl⟩).1
  have value (bound : Rat) : Terms.value [(Variable.dispatchableProduction pdt couple.2, (1 : Rat)),
      (.numberOfDispatchableUnits pdt couple.2, -bound)] (week.problem.restreint point) =
      point (.dispatchableProduction pdt couple.2) - bound * point (.numberOfDispatchableUnits pdt couple.2) := by
    simp only [Terms.value_cons, Terms.value_nil, week.problem.restreint_of_mem produced,
      week.problem.restreint_of_mem units]
    ring
  rw [List.forall_mem_append]
  constructor
  · rintro ⟨above, below⟩
    have pmax := week.problem.holds_of_forall_mem_build above List.mem_cons_self produced
    have pmin := week.problem.holds_of_forall_mem_build below List.mem_cons_self produced
    rw [value] at pmax pmin
    exact ⟨sub_nonpos.mp pmax, sub_nonneg.mp pmin⟩
  · rintro ⟨pmax, pmin⟩
    constructor
    · apply week.problem.forall_mem_build_holds
      rw [value]
      exact sub_nonpos.mpr pmax
    · apply week.problem.forall_mem_build_holds
      rw [value]
      exact sub_nonneg.mpr pmin

end Groupe

end Week

end Antares.AdequacyPatch
