import Antares.UnitCommitment.AuxiliaryProblem

/-! The hours that the rows and right-hand sides of the minimum durations read, in each interval of the
week. The left-hand sides count the hours of their interval, the right-hand sides those of the week,
and both come back by the length of one interval.
-/

set_option autoImplicit false

namespace Antares.AdequacyPatch

open Optimisation Library

def checkSimplexRangeUnitCommitmentMode (optRange : SimplexOptimization) (ucMode : UnitCommitmentMode) : Bool :=
  !(optRange = .sorDay && ucMode = .ucMILP)

namespace Week

variable {settings : WeekSettings} (week : Week settings)

/-- Start-up costs count, with a range that the checks accept and minimum durations of 1 to 168 hours. -/
structure AvecDemarrages : Prop where
  couts : settings.ucMode.optimisationAvecCoutsDeDemarrage = true
  accepte : checkSimplexRangeUnitCommitmentMode week.problem.range settings.ucMode = true
  durees : DureesMinimales week.problem

/-- `t1` of the loops of the right-hand side, before it is an index. -/
def heureLue (k : Int) : Int := if k < 0 then week.problem.pas + k else k

/-- The hours whose availability the right-hand side of a row reads. -/
def heuresDuSecondMembre (duree pdtHebdo : Nat) : List Int :=
  week.heureLue (pdtHebdo - duree) ::
    (week.problem.dernieresHeures pdtHebdo duree).flatMap fun t1 => [t1, week.heureLue (t1 - 1)]

def heuresDesLignes (groupe : GroupeThermique) (pdt : Nat) : List Int :=
  pdt :: (week.problem.dernieresHeures pdt groupe.dureeMinimaleDeMarche ++
    week.problem.dernieresHeures pdt groupe.dureeMinimaleDArret)

/-- The last hours of a duration in an interval that closes on itself. -/
def fenetre (duree pdt : Nat) : List Int :=
  (List.range duree).map fun rang : Nat => ((pdt : Int) - duree + 1 + rang) % week.problem.pas

/-- The availability before the window, and what it gains in the window, all within one interval. -/
def secondMembreDeLaFenetre (passage : Passage) (palier intervalle duree pdt : Nat) : Rat :=
  let nombreMax (heure : Int) : Int := (passage.paliers palier).nombreMaxDeGroupesEnMarche
    (intervalle * week.problem.pas + (heure % week.problem.pas).toNat)
  nombreMax (pdt - duree) + ((week.fenetre duree pdt).map fun t1 => max (nombreMax t1 - nombreMax (t1 - 1)) 0).sum

structure ResteDansLIntervalle (passage : Passage) (groupe : GroupeThermique) (palier intervalle pdt : Nat) : Prop where
  lignes : ∀ t1 ∈ week.heuresDesLignes groupe pdt, 0 ≤ t1 ∧ t1 < week.problem.pas
  secondMembre : ∀ t1 ∈ week.heuresDuSecondMembre groupe.dureeMinimaleDArret (intervalle * week.problem.pas + pdt),
    intervalle * week.problem.pas ≤ t1 ∧ t1 < (intervalle + 1) * week.problem.pas
  fenetre : week.problem.dernieresHeures pdt groupe.dureeMinimaleDArret = week.fenetre groupe.dureeMinimaleDArret pdt
  valeur : week.secondMembreDeLaDureeMinDArret passage palier (intervalle * week.problem.pas + pdt) =
    week.secondMembreDeLaFenetre passage palier intervalle groupe.dureeMinimaleDArret pdt

def ResteDansLesIntervalles (passage : Passage) : Prop :=
  ∀ intervalle < week.problem.range.nbIntervallesOptimises, ∀ pays < week.problem.network.nombreDePays,
    ∀ couple ∈ week.problem.groupesDuPays pays, ∀ pdt < week.problem.pas,
      week.ResteDansLIntervalle passage couple.1 couple.2 intervalle pdt

section
variable {week} (hours : week.problem.range = .sorWeek)
include hours

theorem heureLue_eq_mod {k : Int} (after : -168 ≤ k) (before : k < 168) : week.heureLue k = k % week.problem.pas := by
  unfold heureLue
  rw [pas_eq hours, show nbHoursInWeek = 168 from rfl]
  split_ifs <;> omega

theorem dernieresHeures_eq_fenetre {duree pdt : Nat} (short : duree ≤ nbHoursInWeek) (inRange : pdt < nbHoursInWeek) :
    week.problem.dernieresHeures pdt duree = week.fenetre duree pdt := by
  apply List.map_congr_left
  intro rang listed
  have inDuree := List.mem_range.mp listed
  unfold nbHoursInWeek at short inRange
  exact heureLue_eq_mod hours (by omega) (by omega)

theorem mem_fenetre {duree pdt : Nat} {t1 : Int} (listed : t1 ∈ week.fenetre duree pdt) : 0 ≤ t1 ∧ t1 < week.problem.pas := by
  obtain ⟨rang, -, rfl⟩ := List.mem_map.mp listed
  rw [pas_eq hours, show nbHoursInWeek = 168 from rfl]
  omega

theorem secondMembre_eq_fenetre (passage : Passage) {palier duree pdt : Nat} (same : week.dureeMinimaleDArret palier = duree)
    (short : duree ≤ nbHoursInWeek) (inRange : pdt < nbHoursInWeek) :
    week.secondMembreDeLaDureeMinDArret passage palier pdt = week.secondMembreDeLaFenetre passage palier 0 duree pdt := by
  unfold secondMembreDeLaDureeMinDArret secondMembreDeLaFenetre
  dsimp only
  rw [same, dernieresHeures_eq_fenetre hours short inRange]
  unfold nbHoursInWeek at short inRange
  have before : week.heureCyclique (pdt - duree) = 0 * week.problem.pas + (((pdt : Int) - duree) % week.problem.pas).toNat := by
    rw [Nat.zero_mul, Nat.zero_add, ← heureLue_eq_mod hours (by omega) (by omega)]
    rfl
  have gains : ((week.fenetre duree pdt).map fun t1 : Int =>
        if 0 < (passage.paliers palier).nombreMaxDeGroupesEnMarche t1.toNat -
            (passage.paliers palier).nombreMaxDeGroupesEnMarche (week.heureCyclique (t1 - 1)) then
          (passage.paliers palier).nombreMaxDeGroupesEnMarche t1.toNat -
            (passage.paliers palier).nombreMaxDeGroupesEnMarche (week.heureCyclique (t1 - 1))
        else 0) =
      (week.fenetre duree pdt).map fun t1 : Int =>
        max ((passage.paliers palier).nombreMaxDeGroupesEnMarche (0 * week.problem.pas + (t1 % week.problem.pas).toNat) -
          (passage.paliers palier).nombreMaxDeGroupesEnMarche
            (0 * week.problem.pas + ((t1 - 1) % week.problem.pas).toNat)) 0 := by
    apply List.map_congr_left
    intro t1 listed
    have inside := mem_fenetre hours listed
    have width : (week.problem.pas : Int) = 168 := by
      rw [pas_eq hours]
      rfl
    rw [width] at inside
    have present : 0 * week.problem.pas + (t1 % week.problem.pas).toNat = t1.toNat := by
      rw [Nat.zero_mul, Nat.zero_add, width]
      omega
    have earlier : 0 * week.problem.pas + ((t1 - 1) % week.problem.pas).toNat = week.heureCyclique (t1 - 1) := by
      rw [Nat.zero_mul, Nat.zero_add, ← heureLue_eq_mod hours (by omega) (by omega)]
      rfl
    rw [present, earlier]
    split_ifs with gain
    · exact (max_eq_left gain.le).symm
    · exact (max_eq_right (not_lt.mp gain)).symm
  rw [before, gains]

theorem reste_de_la_semaine (durees : DureesMinimales week.problem) (passage : Passage) : week.ResteDansLesIntervalles passage := by
  intro intervalle one pays bound couple member pdt inRange
  have width : week.problem.pas = nbHoursInWeek := pas_eq hours
  obtain rfl : intervalle = 0 := by
    rw [hours] at one
    exact Nat.lt_one_iff.mp one
  have group : couple.1 ∈ week.problem.paliersThermiques pays := WeeklyProblem.DemarragesComptes.groupe_mem member
  obtain ⟨marche, arret⟩ := durees pays couple.1 group
  rw [width] at inRange
  have windows {duree : Nat} (short : duree ≤ nbHoursInWeek) {t1 : Int} (listed : t1 ∈ week.problem.dernieresHeures pdt duree) :
      0 ≤ t1 ∧ t1 < week.problem.pas := by
    rw [dernieresHeures_eq_fenetre hours short inRange] at listed
    exact mem_fenetre hours listed
  constructor
  · intro t1 listed
    rcases List.mem_cons.mp listed with rfl | listed
    · exact ⟨Int.natCast_nonneg pdt, by rw [width]; exact_mod_cast inRange⟩
    · rcases List.mem_append.mp listed with up | down
      · exact windows marche.2 up
      · exact windows arret.2 down
  · rw [Nat.zero_mul, Nat.zero_add]
    have read (k : Int) (after : -168 ≤ k) (before : k < 168) :
        0 ≤ week.heureLue k ∧ week.heureLue k < week.problem.pas := by
      rw [heureLue_eq_mod hours after before, width, show nbHoursInWeek = 168 from rfl]
      omega
    have all : ∀ t1 ∈ week.heuresDuSecondMembre couple.1.dureeMinimaleDArret pdt, 0 ≤ t1 ∧ t1 < week.problem.pas := by
      unfold nbHoursInWeek at inRange arret
      intro t1 listed
      rcases List.mem_cons.mp listed with rfl | listed
      · exact read _ (by omega) (by omega)
      · obtain ⟨late, inWindow, here⟩ := List.mem_flatMap.mp listed
        have inside := windows arret.2 inWindow
        rcases List.mem_pair.mp here with rfl | rfl
        · exact inside
        · rw [width, show nbHoursInWeek = 168 from rfl] at inside
          exact read _ (by omega) (by omega)
    simpa using all
  · exact dernieresHeures_eq_fenetre hours arret.2 inRange
  · rw [Nat.zero_mul, Nat.zero_add]
    exact secondMembre_eq_fenetre hours passage (week.dureeMinimaleDArret_eq bound member) arret.2 inRange

end

theorem not_reste_du_jour (hours : week.problem.range = .sorDay) (durees : DureesMinimales week.problem) (passage : Passage)
    {pays : Nat} (bound : pays < week.problem.network.nombreDePays) (listed : week.problem.paliersThermiques pays ≠ []) :
    ¬week.ResteDansLesIntervalles passage := by
  intro stays
  obtain ⟨groupe, rest, groups⟩ := List.exists_cons_of_ne_nil listed
  have member : (groupe, week.problem.numeroDuPalier pays 0) ∈ week.problem.groupesDuPays pays :=
    week.problem.mem_groupesDuPays.mpr ⟨0, by rw [groups]; rfl, rfl⟩
  have arret := (durees pays groupe (groups ▸ List.mem_cons_self)).2
  have width : week.problem.pas = 24 := by
    unfold WeeklyProblem.pas
    rw [hours]
    rfl
  have second : 1 < week.problem.range.nbIntervallesOptimises := by
    rw [hours]
    decide
  have first := (stays 1 second pays bound _ member 0 (by rw [width]; omega)).secondMembre _ List.mem_cons_self
  unfold heureLue at first
  rw [width] at first
  dsimp only at first
  split_ifs at first <;> omega

/-- In every interval the rows and right-hand sides of the minimum durations read their interval only,
exactly when the week is optimised at once or has no cluster.
-/
theorem resteDansLesIntervalles_iff (week : Week settings) (passage : Passage) (demarrages : week.AvecDemarrages) :
    week.ResteDansLesIntervalles passage ↔ week.problem.range = .sorWeek ∨
      ∀ pays < week.problem.network.nombreDePays, week.problem.paliersThermiques pays = [] := by
  cases hours : week.problem.range with
  | sorWeek => exact iff_of_true (reste_de_la_semaine hours demarrages.durees passage) (.inl rfl)
  | sorDay =>
    constructor
    · intro stays
      refine .inr fun pays bound => ?_
      by_contra listed
      exact not_reste_du_jour week hours demarrages.durees passage bound listed stays
    · intro noCluster
      have none := noCluster.resolve_left (by decide)
      intro intervalle _ pays bound couple member
      have group : couple.1 ∈ week.problem.paliersThermiques pays := WeeklyProblem.DemarragesComptes.groupe_mem member
      rw [none pays bound] at group
      exact absurd group List.not_mem_nil

end Week

def dailyWeek : Week accurateSettings :=
  { accurateWeek.week with problem := { accurateWeek.problem with range := .sorDay } }

theorem dailyWeek_avecDemarrages : dailyWeek.AvecDemarrages where
  couts := rfl
  accepte := rfl
  durees := accurateWeek_durees

theorem dailyWeek_reste_iff : dailyWeek.ResteDansLesIntervalles firstPassage ↔ dailyWeek.problem.range = .sorWeek ∨
    ∀ pays < dailyWeek.problem.network.nombreDePays, dailyWeek.problem.paliersThermiques pays = [] :=
  dailyWeek.resteDansLesIntervalles_iff firstPassage dailyWeek_avecDemarrages

/-- At the first hour of the second day the right-hand side reads the last hour of the first one. -/
theorem dailyWeek_lit_la_veille :
    checkSimplexRangeUnitCommitmentMode dailyWeek.problem.range accurateSettings.ucMode = true ∧
      ¬dailyWeek.ResteDansLesIntervalles firstPassage := by
  constructor
  · decide
  · intro stays
    have step := stays 1 (by decide) 0 (by decide) (partialGroup, 0) List.mem_cons_self 0 (by decide)
    exact absurd (step.secondMembre 23 (by decide)) (by decide)

end Antares.AdequacyPatch
