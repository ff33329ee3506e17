import Antares.Library.Schedules
import Antares.UnitCommitment.AuxiliaryProblem

/-! The numbers of units of a thermal cluster as counts of individual units over the week that is
repeated without end: which whole numbers the rows of the cluster admit.
-/

set_option autoImplicit false

namespace Antares.AdequacyPatch

open Optimisation Library

def heureDeLaSemaine (hour : Int) : Nat := (hour % nbHoursInWeek).toNat

structure GroupesEntiers where
  enMarche : Nat → Int
  demarrent : Nat → Int
  arretent : Nat → Int

namespace GroupesEntiers

variable (groupes : GroupesEntiers)

/-- The values of the variables of a cluster of which no unit fails. -/
def point (palier : Nat) : Variable → Rat
  | .numberOfDispatchableUnits pdt autre => if autre = palier then groupes.enMarche pdt.toNat else 0
  | .numberStartingDispatchableUnits pdt autre => if autre = palier then groupes.demarrent pdt.toNat else 0
  | .numberStoppingDispatchableUnits pdt autre => if autre = palier then groupes.arretent pdt.toNat else 0
  | _ => 0

def repetes : UnitCounts where
  on hour := groupes.enMarche (heureDeLaSemaine hour)
  starting hour := groupes.demarrent (heureDeLaSemaine hour)
  stopping hour := groupes.arretent (heureDeLaSemaine hour)

end GroupesEntiers

namespace Week

variable {settings : WeekSettings}

/-- Whole numbers within the bounds of starts and stops that fit the rows of the cluster. -/
structure SolutionEntiere (week : Week settings) (passage : Passage) (palier : Nat) (groupes : GroupesEntiers) :
    Prop where
  demarrent_nonneg : ∀ pdt < nbHoursInWeek, 0 ≤ groupes.demarrent pdt
  arretent_nonneg : ∀ pdt < nbHoursInWeek, 0 ≤ groupes.arretent pdt
  lignes : ∀ row ∈ (week.problemeDeLIntervalle passage 0).rows, row.label.palierDesGroupes = some palier →
    row.sense.Holds (row.terms.value (groupes.point palier)) ((week.problemeDeLIntervalle passage 0).rhs row.label)

end Week

theorem heureDeLaSemaine_lt (hour : Int) : heureDeLaSemaine hour < nbHoursInWeek := by
  unfold heureDeLaSemaine nbHoursInWeek
  omega

theorem heureDeLaSemaine_natCast {pdt : Nat} (inRange : pdt < nbHoursInWeek) : heureDeLaSemaine pdt = pdt := by
  unfold heureDeLaSemaine nbHoursInWeek at *
  omega

theorem heureDeLaSemaine_sub (hour earlier : Int) :
    heureDeLaSemaine (heureDeLaSemaine hour - earlier) = heureDeLaSemaine (hour - earlier) := by
  unfold heureDeLaSemaine nbHoursInWeek
  omega

namespace GroupesEntiers

variable {groupes : GroupesEntiers} {m minOn minOff : Nat}

theorem fitsWindows_iff_semaine :
    groupes.repetes.FitsWindows m minOn minOff ↔
      ∀ pdt < nbHoursInWeek, (0 ≤ groupes.demarrent pdt ∧ 0 ≤ groupes.arretent pdt) ∧
        groupes.enMarche pdt = groupes.enMarche (heureDeLaSemaine (pdt - 1)) + groupes.demarrent pdt -
          groupes.arretent pdt ∧
        ∑ earlier ∈ Finset.range minOn, groupes.demarrent (heureDeLaSemaine (pdt - earlier)) ≤ groupes.enMarche pdt ∧
        groupes.enMarche pdt + ∑ earlier ∈ Finset.range minOff, groupes.arretent (heureDeLaSemaine (pdt - earlier)) ≤
          m := by
  constructor
  · intro fits pdt inRange
    have balance := fits.balance pdt
    have minOn := fits.minOn pdt
    have minOff := fits.minOff pdt
    have starting := fits.starting_nonneg pdt
    have stopping := fits.stopping_nonneg pdt
    simp only [repetes, heureDeLaSemaine_natCast inRange] at balance minOn minOff starting stopping
    exact ⟨⟨starting, stopping⟩, balance, minOn, minOff⟩
  · intro week
    have hourly (hour : Int) := week (heureDeLaSemaine hour) (heureDeLaSemaine_lt hour)
    simp only [heureDeLaSemaine_sub] at hourly
    exact
      { starting_nonneg := fun hour => (hourly hour).1.1
        stopping_nonneg := fun hour => (hourly hour).1.2
        balance := fun hour => (hourly hour).2.1
        minOn := fun hour => (hourly hour).2.2.1
        minOff := fun hour => (hourly hour).2.2.2 }

end GroupesEntiers

theorem sum_map_intCast {ι : Type} (items : List ι) (numbers : ι → Int) (coefficient : Rat) :
    (items.map fun item => coefficient * (numbers item : Rat)).sum = coefficient * ((items.map numbers).sum : Int) := by
  rw [List.sum_map_mul_left, Int.cast_list_sum, List.map_map]
  rfl

namespace Week

variable {settings : WeekSettings} {week : Week settings} {passage : Passage} {pays : Nat}
  {couple : GroupeThermique × Nat} {groupes : GroupesEntiers}

section
variable (week : Week settings) (passage : Passage)

def nombreMaxRepete (palier : Nat) (hour : Int) : Int :=
  (passage.paliers palier).nombreMaxDeGroupesEnMarche (heureDeLaSemaine hour)

/-- The units of a cluster that come back between two hours, when their greatest number grows. -/
def groupesRevenus (palier pdtHebdo : Nat) : Int :=
  let nombreMax := (passage.paliers palier).nombreMaxDeGroupesEnMarche
  let t1moins1 := if pdtHebdo = 0 then week.problem.pas - 1 else pdtHebdo - 1
  max (nombreMax pdtHebdo - nombreMax t1moins1) 0

end

section
variable (hours : week.problem.range = .sorWeek)
include hours

theorem sum_dernieresHeures {pdt duree : Nat} (inRange : pdt < nbHoursInWeek) (short : duree ≤ nbHoursInWeek)
    (numbers : Nat → Int) :
    ((week.problem.dernieresHeures pdt duree).map fun t1 => numbers t1.toNat).sum =
      ∑ earlier ∈ Finset.range duree, numbers (heureDeLaSemaine (pdt - earlier)) := by
  have steps : (week.problem.pas : Int) = 168 := by
    rw [pas_eq hours]
    rfl
  have listed (value : Nat → Int) : ((List.range duree).map value).sum = ∑ rang ∈ Finset.range duree, value rang :=
    (Multiset.sum_coe _).symm
  rw [← Finset.sum_range_reflect, WeeklyProblem.dernieresHeures, List.map_map, listed]
  refine Finset.sum_congr rfl fun rang inDuree => congrArg numbers ?_
  rw [Finset.mem_range] at inDuree
  dsimp only
  rw [steps]
  unfold heureDeLaSemaine nbHoursInWeek at *
  split_ifs <;> omega

section
variable (passage)

theorem nombreMax_veille (palier : Nat) (hour : Int) :
    (passage.paliers palier).nombreMaxDeGroupesEnMarche
        (if heureDeLaSemaine hour = 0 then week.problem.pas - 1 else heureDeLaSemaine hour - 1) =
      nombreMaxRepete passage palier (hour - 1) := by
  have width : week.problem.pas = 168 := pas_eq hours
  refine congrArg _ ?_
  rw [width]
  unfold heureDeLaSemaine nbHoursInWeek
  split_ifs <;> omega

theorem groupesRevenus_eq (palier : Nat) (hour : Int) :
    week.groupesRevenus passage palier (heureDeLaSemaine hour) =
      max (nombreMaxRepete passage palier hour - nombreMaxRepete passage palier (hour - 1)) 0 := by
  unfold groupesRevenus
  dsimp only
  rw [nombreMax_veille passage hours]
  rfl

end

section
variable (bound : pays < week.problem.network.nombreDePays) (member : couple ∈ week.problem.groupesDuPays pays)
  (short : couple.1.dureeMinimaleDArret ≤ nbHoursInWeek) {pdt : Nat} (inRange : pdt < nbHoursInWeek)
include bound member short inRange

theorem secondMembreDeLaDureeMinDArret_eq :
    week.secondMembreDeLaDureeMinDArret passage couple.2 pdt =
      ((nombreMaxRepete passage couple.2 (pdt - couple.1.dureeMinimaleDArret) +
        ∑ earlier ∈ Finset.range couple.1.dureeMinimaleDArret,
          week.groupesRevenus passage couple.2 (heureDeLaSemaine (pdt - earlier)) : Int) : Rat) := by
  have cyclic {k : Int} (after : -168 ≤ k) (before : k < 168) : week.heureCyclique k = heureDeLaSemaine k := by
    unfold heureCyclique heureDeLaSemaine nbHoursInWeek
    rw [pas_eq hours, show nbHoursInWeek = 168 from rfl]
    split_ifs <;> omega
  have gains : ((week.problem.dernieresHeures pdt couple.1.dureeMinimaleDArret).map fun t1 =>
      let gain := (passage.paliers couple.2).nombreMaxDeGroupesEnMarche t1.toNat -
        (passage.paliers couple.2).nombreMaxDeGroupesEnMarche (week.heureCyclique (t1 - 1))
      if 0 < gain then gain else 0) =
      (week.problem.dernieresHeures pdt couple.1.dureeMinimaleDArret).map fun t1 =>
        week.groupesRevenus passage couple.2 t1.toNat := by
    refine List.map_congr_left fun t1 late => ?_
    obtain ⟨hour, inWeek, rfl⟩ := week.problem.exists_heure_of_mem_dernieresHeures
      (by rwa [pas_eq hours]) (by rwa [pas_eq hours]) late
    rw [pas_eq hours] at inWeek
    have inside : hour < 168 := inWeek
    have same := groupesRevenus_eq passage hours couple.2 hour
    rw [heureDeLaSemaine_natCast inWeek] at same
    dsimp only
    rw [cyclic (by omega) (by omega), Int.toNat_natCast, same]
    unfold nombreMaxRepete
    rw [heureDeLaSemaine_natCast inWeek]
    split_ifs with gain
    · exact (max_eq_left gain.le).symm
    · exact (max_eq_right (not_lt.mp gain)).symm
  have start : pdt < 168 := inRange
  have length : couple.1.dureeMinimaleDArret ≤ 168 := short
  rw [secondMembreDeLaDureeMinDArret, dureeMinimaleDArret_eq bound member]
  dsimp only at gains ⊢
  rw [gains, cyclic (by omega) (by omega),
    sum_dernieresHeures hours inRange short fun hour => week.groupesRevenus passage couple.2 hour]
  exact (Int.cast_add _ _).symm

theorem secondMembreDeLaDureeMinDArret_constant {nombreMax : Nat}
    (constant : ∀ pdt < nbHoursInWeek, (passage.paliers couple.2).nombreMaxDeGroupesEnMarche pdt = nombreMax) :
    week.secondMembreDeLaDureeMinDArret passage couple.2 pdt = nombreMax := by
  have repeated (hour : Int) : nombreMaxRepete passage couple.2 hour = nombreMax := constant _ (heureDeLaSemaine_lt hour)
  have noGain (hour : Int) : week.groupesRevenus passage couple.2 (heureDeLaSemaine hour) = 0 := by
    rw [groupesRevenus_eq passage hours, repeated, repeated, sub_self, max_self]
  rw [secondMembreDeLaDureeMinDArret_eq hours bound member short inRange, repeated,
    Finset.sum_eq_zero fun earlier _ => noGain _, add_zero, Int.cast_natCast]

end

section Valeurs
variable (groupes) (palier : Nat) {pdt : Nat}

theorem value_ligneDeCoherence (inRange : pdt < nbHoursInWeek) :
    Terms.value (week.problem.ligneDeCoherence palier pdt).termes (groupes.point palier) =
      ((groupes.enMarche pdt - groupes.enMarche (heureDeLaSemaine (pdt - 1)) - groupes.demarrent pdt +
        groupes.arretent pdt : Int) : Rat) := by
  have previous : (week.problem.heurePrecedente pdt).toNat = heureDeLaSemaine (pdt - 1) := by
    have start : pdt < 168 := inRange
    rw [WeeklyProblem.heurePrecedente, pas_eq hours]
    unfold heureDeLaSemaine nbHoursInWeek
    split_ifs <;> omega
  simp only [WeeklyProblem.ligneDeCoherence, Terms.value_cons, Terms.value_nil, GroupesEntiers.point, if_true,
    Int.toNat_natCast, previous]
  push_cast
  ring

variable {groupe : GroupeThermique}

theorem value_ligneDeMarche (inRange : pdt < nbHoursInWeek)
    (short : groupe.dureeMinimaleDeMarche ≤ nbHoursInWeek) :
    Terms.value (week.problem.ligneDeMarche groupe palier pdt).termes (groupes.point palier) =
      ((groupes.enMarche pdt - ∑ earlier ∈ Finset.range groupe.dureeMinimaleDeMarche,
        groupes.demarrent (heureDeLaSemaine (pdt - earlier)) : Int) : Rat) := by
  simp only [WeeklyProblem.ligneDeMarche, Terms.value_cons, Terms.value_nil, Terms.value_flatMap,
    GroupesEntiers.point, if_true, Int.toNat_natCast, mul_zero, add_zero, one_mul]
  rw [sum_map_intCast, sum_dernieresHeures hours inRange short]
  push_cast
  ring

theorem value_ligneDArret (inRange : pdt < nbHoursInWeek)
    (short : groupe.dureeMinimaleDArret ≤ nbHoursInWeek) :
    Terms.value (week.problem.ligneDArret groupe palier pdt).termes (groupes.point palier) =
      ((groupes.enMarche pdt + ∑ earlier ∈ Finset.range groupe.dureeMinimaleDArret,
        groupes.arretent (heureDeLaSemaine (pdt - earlier)) : Int) : Rat) := by
  simp only [WeeklyProblem.ligneDArret, Terms.value_cons, Terms.value_map,
    GroupesEntiers.point, if_true, Int.toNat_natCast]
  rw [sum_map_intCast, sum_dernieresHeures hours inRange short]
  push_cast
  ring

end Valeurs

theorem solutionEntiere_iff_fitsWindows {nombreMax : Nat} (comptes : week.problem.DemarragesComptes)
    (bound : pays < week.problem.network.nombreDePays) (member : couple ∈ week.problem.groupesDuPays pays)
    (constant : ∀ pdt < nbHoursInWeek, (passage.paliers couple.2).nombreMaxDeGroupesEnMarche pdt = nombreMax) :
    week.SolutionEntiere passage couple.2 groupes ↔
      groupes.repetes.FitsWindows nombreMax couple.1.dureeMinimaleDeMarche couple.1.dureeMinimaleDArret := by
  have group := WeeklyProblem.DemarragesComptes.groupe_mem member
  have shortOn : couple.1.dureeMinimaleDeMarche ≤ nbHoursInWeek := pas_eq hours ▸ comptes.marche_le pays _ group
  have shortOff : couple.1.dureeMinimaleDArret ≤ nbHoursInWeek := pas_eq hours ▸ comptes.arret_le pays _ group
  have rows {pdt : Nat} (inRange : pdt < nbHoursInWeek) (stops : 0 ≤ groupes.arretent pdt) :
      (∀ ligne ∈ week.problem.lignesDuGroupe couple.1 couple.2 pdt,
        ligne.sens.Holds (ligne.termes.value (groupes.point couple.2)) (week.secondMembre passage 0 ligne.contrainte)) ↔
      groupes.enMarche pdt = groupes.enMarche (heureDeLaSemaine (pdt - 1)) + groupes.demarrent pdt -
          groupes.arretent pdt ∧
        ∑ earlier ∈ Finset.range couple.1.dureeMinimaleDeMarche,
          groupes.demarrent (heureDeLaSemaine (pdt - earlier)) ≤ groupes.enMarche pdt ∧
        groupes.enMarche pdt + ∑ earlier ∈ Finset.range couple.1.dureeMinimaleDArret,
          groupes.arretent (heureDeLaSemaine (pdt - earlier)) ≤ nombreMax := by
    have failures : Terms.value (WeeklyProblem.ligneDePanne couple.2 pdt).termes (groupes.point couple.2) ≤ 0 := by
      simp only [WeeklyProblem.ligneDePanne, Terms.value_cons, Terms.value_nil, GroupesEntiers.point, if_true,
        Int.toNat_natCast, mul_zero, zero_add, add_zero, neg_one_mul, neg_nonpos]
      exact_mod_cast stops
    have rest : week.secondMembre passage 0 (.minDownTime pdt couple.2) = ((nombreMax : Int) : Rat) := by
      rw [secondMembre, Nat.zero_add, Int.cast_natCast]
      exact secondMembreDeLaDureeMinDArret_constant hours bound member shortOff inRange constant
    have coherence := value_ligneDeCoherence groupes hours couple.2 inRange
    have marche := value_ligneDeMarche groupes hours couple.2 inRange shortOn
    have arret := value_ligneDArret groupes hours couple.2 inRange shortOff
    unfold WeeklyProblem.lignesDuGroupe
    rw [List.forall_mem_cons, List.forall_mem_cons, List.forall_mem_cons, List.forall_mem_singleton,
      coherence, marche, arret]
    constructor
    · rintro ⟨balance, -, on, off⟩
      replace balance := Int.cast_eq_zero.mp balance
      replace on := Int.cast_nonneg_iff.mp on
      replace off := Int.cast_le.mp (le_of_le_of_eq off rest)
      exact ⟨by omega, by omega, off⟩
    · rintro ⟨balance, on, off⟩
      refine ⟨Int.cast_eq_zero.mpr (by omega), failures, Int.cast_nonneg (by omega), ?_⟩
      exact le_of_le_of_eq (Int.cast_le.mpr off) rest.symm
  -- the windows of the unbounded time are those of the hours of the week
  rw [GroupesEntiers.fitsWindows_iff_semaine]
  constructor
  · rintro ⟨starting, stopping, lignes⟩ pdt inRange
    have hourly := (lignes_iff comptes bound member).mp lignes pdt (by rwa [pas_eq hours])
    exact ⟨⟨starting pdt inRange, stopping pdt inRange⟩, (rows inRange (stopping pdt inRange)).mp hourly⟩
  · intro weekly
    refine ⟨fun pdt inRange => (weekly pdt inRange).1.1, fun pdt inRange => (weekly pdt inRange).1.2, ?_⟩
    refine (lignes_iff comptes bound member).mpr fun pdt inRange => ?_
    rw [pas_eq hours] at inRange
    exact (rows inRange (weekly pdt inRange).1.2).mpr (weekly pdt inRange).2

end

/-- With a constant availability and no failure, the whole numbers that fit the rows of a cluster
are the counts of units that stop in the order in which they started, start again in the order in
which they stopped, and keep the minimum durations in every hour of the repeated week. -/
theorem solutionEntiere_iff_realisable (week : Week settings) (passage : Passage)
    (hours : week.problem.range = .sorWeek) (starts : settings.ucMode.optimisationAvecCoutsDeDemarrage = true)
    (durees : DureesMinimales week.problem) {pays index : Nat} (bound : pays < week.problem.network.nombreDePays)
    {groupe : GroupeThermique} (found : (week.problem.paliersThermiques pays)[index]? = some groupe) {nombreMax : Nat}
    (constant : ∀ pdt < nbHoursInWeek,
      (passage.paliers (week.problem.numeroDuPalier pays index)).nombreMaxDeGroupesEnMarche pdt = nombreMax)
    (groupes : GroupesEntiers) :
    week.SolutionEntiere passage (week.problem.numeroDuPalier pays index) groupes ↔
      ∃ schedule : Schedule (Fin nombreMax),
        schedule.Admissible groupe.dureeMinimaleDeMarche groupe.dureeMinimaleDArret ∧
          groupes.repetes.RealisedBy schedule := by
  have member : (groupe, week.problem.numeroDuPalier pays index) ∈ week.problem.groupesDuPays pays :=
    week.problem.mem_groupesDuPays.mpr ⟨index, found, rfl⟩
  obtain ⟨marche, arret⟩ := durees pays groupe (List.mem_of_getElem? found)
  rw [solutionEntiere_iff_fitsWindows hours (durees.comptes hours starts) bound member constant]
  exact UnitCounts.fitsWindows_iff marche.1 arret.1

end Week

def threeUnitsPassage : Passage :=
  { firstPassage with paliers := fun _ => { partialUnit with nombreMaxDeGroupesEnMarche := fun _ => 3 } }

def deuxGroupes : GroupesEntiers where
  enMarche := fun _ => 2
  demarrent := fun _ => 0
  arretent := fun _ => 0

theorem accurateWeek_solutionEntiere :
    accurateWeek.week.SolutionEntiere threeUnitsPassage (accurateWeek.week.problem.numeroDuPalier 0 0) deuxGroupes ↔
      ∃ schedule : Schedule (Fin 3), schedule.Admissible partialGroup.dureeMinimaleDeMarche
        partialGroup.dureeMinimaleDArret ∧ deuxGroupes.repetes.RealisedBy schedule :=
  accurateWeek.week.solutionEntiere_iff_realisable threeUnitsPassage rfl rfl accurateWeek_durees Nat.one_pos rfl
    (fun _ _ => rfl) deuxGroupes

end Antares.AdequacyPatch
