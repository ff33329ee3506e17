import Antares.AdequacyPatch.BareWeeks
import Antares.Solver.HydroLevels

/-! The level of a reservoir has rows of its own in the weekly problem, with a variable for the
overflow, and is computed again from the generation and pumping of the solution. What the
second computation keeps of the first one.
-/

set_option autoImplicit false

namespace Antares.Solver

open AdequacyPatch Data Library Optimisation

/-- `reservoirLevel`: rule curves by day of the year in parts of the capacity, as the loader of
the hydro data accepts them. -/
structure ReservoirLevel where
  minimum : Nat → Rat
  average : Nat → Rat
  maximum : Nat → Rat
  accepted : ∀ day, ¬(minimum day < 0 ∨ average day < 0 ∨ maximum day < minimum day ∨ 100 < average day ∨
    100 < maximum day)

structure CourbesGuides where
  hardBoundsOnRuleCurves : Bool
  reservoirLevel : ReservoirLevel

section Courbes
variable (calendar : Calendar) (hydro : HydroDuPays) (pasDeTempsDebut : Nat)

def weekDayIndex (day : Nat) : Nat := (calendar.hours (pasDeTempsDebut + day * 24)).dayYear

def interpolerLaCourbe (courbe : Nat → Rat) (pdt : Nat) : Rat :=
  let levelInterpolBeg := courbe (weekDayIndex calendar pasDeTempsDebut (pdt / 24)) * hydro.reservoirCapacity
  let levelInterpolEnd := courbe (weekDayIndex calendar pasDeTempsDebut (pdt / 24 + 1)) * hydro.reservoirCapacity
  let delta := (levelInterpolEnd - levelInterpolBeg) / 24
  levelInterpolBeg + (pdt % 24 : Nat) * delta

variable (courbes : CourbesGuides)

variable (pdt : Nat)

/-- `NiveauHoraireInf` -/
def niveauHoraireInf : Rat :=
  if hydro.presenceDHydrauliqueModulable && courbes.hardBoundsOnRuleCurves then
    interpolerLaCourbe calendar hydro pasDeTempsDebut courbes.reservoirLevel.minimum pdt
  else 0

/-- `NiveauHoraireSup` -/
def niveauHoraireSup : Rat :=
  if hydro.presenceDHydrauliqueModulable && courbes.hardBoundsOnRuleCurves then
    interpolerLaCourbe calendar hydro pasDeTempsDebut courbes.reservoirLevel.maximum pdt
  else hydro.reservoirCapacity

variable {calendar hydro pasDeTempsDebut courbes}

theorem interpolerLaCourbe_eq (courbe : Nat → Rat) (pdt : Nat) :
    interpolerLaCourbe calendar hydro pasDeTempsDebut courbe pdt =
      ((1 - ((pdt % 24 : Nat) : Rat) / 24) * courbe (weekDayIndex calendar pasDeTempsDebut (pdt / 24)) +
        ((pdt % 24 : Nat) : Rat) / 24 * courbe (weekDayIndex calendar pasDeTempsDebut (pdt / 24 + 1))) *
        hydro.reservoirCapacity := by
  unfold interpolerLaCourbe
  dsimp only
  ring

theorem hour_part : 0 ≤ ((pdt % 24 : Nat) : Rat) / 24 ∧ 0 ≤ 1 - ((pdt % 24 : Nat) : Rat) / 24 := by
  have inDay : ((pdt % 24 : Nat) : Rat) ≤ 24 := by exact_mod_cast (Nat.mod_lt pdt (by norm_num)).le
  constructor
  · positivity
  · linarith

theorem niveauHoraireInf_nonneg (pdt : Nat) : 0 ≤ niveauHoraireInf calendar hydro pasDeTempsDebut courbes pdt := by
  have nonneg (day : Nat) : 0 ≤ courbes.reservoirLevel.minimum day := by
    have accepted := courbes.reservoirLevel.accepted day
    push Not at accepted
    exact accepted.1
  unfold niveauHoraireInf
  split_ifs
  · rw [interpolerLaCourbe_eq]
    have part := hour_part pdt
    exact mul_nonneg (add_nonneg (mul_nonneg part.2 (nonneg _)) (mul_nonneg part.1 (nonneg _)))
      hydro.reservoirCapacity_pos.le
  · exact le_rfl

end Courbes

section Semaine
variable {settings : WeekSettings}

/-- The weekly problem of an area whose level is followed by the hour, over the whole week, and
what the area keeps from one week to the next. -/
structure SuiviHoraire (week : Week settings) (pays : Nat) (hydro : HydroDuPays) (calendar : Calendar)
    (pasDeTempsDebut : Nat) (courbes : CourbesGuides) (etat : EtatHydro) : Prop where
  pays_lt : pays < week.problem.network.nombreDePays
  range : week.problem.range = .sorWeek
  suiviNiveauHoraire : (week.problem.caracteristiquesHydrauliques pays).suiviNiveauHoraire = true
  presenceDHydrauliqueModulable : (week.problem.caracteristiquesHydrauliques pays).presenceDHydrauliqueModulable =
    hydro.presenceDHydrauliqueModulable
  presenceDePompageModulable : (week.problem.caracteristiquesHydrauliques pays).presenceDePompageModulable = true →
    hydro.presenceDHydrauliqueModulable = true
  pumpingRatio : (week.problem.caracteristiquesHydrauliques pays).pumpingRatio = hydro.pumpingEfficiency
  apportNaturelHoraire : week.apportNaturelHoraire pays = etat.apportNaturelHoraire
  niveauInitialReservoir : week.niveauInitialReservoir pays = etat.niveauInitialReservoir
  niveauInitial_within : 0 ≤ etat.niveauInitialReservoir ∧ etat.niveauInitialReservoir ≤ hydro.reservoirCapacity
  niveauHoraireInf : week.niveauHoraireInf pays = niveauHoraireInf calendar hydro pasDeTempsDebut courbes
  niveauHoraireSup : week.niveauHoraireSup pays = niveauHoraireSup calendar hydro pasDeTempsDebut courbes

/-- A point that satisfies the rows of the levels of an area and the bounds of their variables. -/
structure RespecteLesNiveaux (week : Week settings) (passage : Passage) (pays : Nat) (point : Variable → Rat) :
    Prop where
  lignes : ∀ pdt < nbHoursInWeek, ∀ ligne ∈ week.problem.areaHydroLevel pays pdt,
    ligne.sens.Holds (ligne.termes.value point) (week.secondMembre passage 0 ligne.contrainte)
  bornes : ∀ pdt < nbHoursInWeek, ∀ variable_ ∈ [Variable.hydroLevel (pdt : Nat) pays, .overflow (pdt : Nat) pays,
      .hydProd (pdt : Nat) pays, .pumping (pdt : Nat) pays],
    variable_ ∈ week.problem.listeDesVariables → (week.bornes passage 0 variable_).Contains (point variable_)

theorem RespecteLesNiveaux.of_feasible {week : Week settings} {passage : Passage} {pays : Nat}
    {point : Variable → Rat} (pays_lt : pays < week.problem.network.nombreDePays)
    (range : week.problem.range = .sorWeek) (feasible : (week.problemeDeLIntervalle passage 0).Feasible point) :
    RespecteLesNiveaux week passage pays point := by
  have start : 0 * week.problem.pas = 0 := zero_mul _
  have hours : week.problem.pas = nbHoursInWeek := by
    rw [WeeklyProblem.pas, range]
    rfl
  constructor
  · intro pdt inWeek ligne listed
    have emitted : ligne ∈ week.problem.construireLaMatriceDesContraintes := by
      unfold WeeklyProblem.construireLaMatriceDesContraintes WeeklyProblem.lignesDeLaPeriode
      simp only [List.mem_append, List.mem_flatMap, List.mem_range]
      exact .inl (.inr (.inl (.inr ⟨pdt, hours ▸ inWeek, pays, pays_lt, listed⟩)))
    have holds := feasible.rows _ (List.mem_map_of_mem emitted)
    dsimp only [Week.problemeDeLIntervalle] at holds
    rwa [start] at holds
  · intro pdt _ variable_ _ numbered
    have contains := feasible.within variable_ numbered
    dsimp only [Week.problemeDeLIntervalle] at contains
    rwa [start] at contains

variable {week : Week settings} {passage : Passage} {pays : Nat} {hydro : HydroDuPays} {calendar : Calendar}
  {pasDeTempsDebut : Nat} {courbes : CourbesGuides} {etat : EtatHydro} {point : Variable → Rat}

namespace SuiviHoraire

variable (suivi : SuiviHoraire week pays hydro calendar pasDeTempsDebut courbes etat)
include suivi

theorem pas_eq : week.problem.pas = nbHoursInWeek := by
  rw [WeeklyProblem.pas, suivi.range]
  rfl

variable {pdt : Nat}

theorem mem_of_mem_variablesHydrauliques (inWeek : pdt < nbHoursInWeek) {variable_ : Variable}
    (listed : variable_ ∈ week.problem.variablesHydrauliques pdt pays) :
    variable_ ∈ week.problem.listeDesVariables :=
  week.problem.mem_listeDesVariables.mpr
    (.inr (.inr (.inl ⟨pdt, suivi.pas_eq ▸ inWeek, pays, suivi.pays_lt, listed⟩)))

theorem niveau_numbered (inWeek : pdt < nbHoursInWeek) :
    Variable.hydroLevel pdt pays ∈ week.problem.listeDesVariables := by
  apply suivi.mem_of_mem_variablesHydrauliques inWeek
  simp [WeeklyProblem.variablesHydrauliques, suivi.suiviNiveauHoraire]

theorem debordement_numbered (inWeek : pdt < nbHoursInWeek) :
    Variable.overflow pdt pays ∈ week.problem.listeDesVariables := by
  apply suivi.mem_of_mem_variablesHydrauliques inWeek
  simp [WeeklyProblem.variablesHydrauliques, suivi.suiviNiveauHoraire]

theorem not_numbered (absent : hydro.presenceDHydrauliqueModulable = false) {pdt : Nat} {variable_ : Variable}
    (kind : variable_ = .hydProd pdt pays ∨ variable_ = .pumping pdt pays) :
    variable_ ∉ week.problem.listeDesVariables := by
  have noPumping : (week.problem.caracteristiquesHydrauliques pays).presenceDePompageModulable = false := by
    by_contra present
    rw [suivi.presenceDePompageModulable (Bool.not_eq_false _ ▸ present)] at absent
    cases absent
  have noHydro := suivi.presenceDHydrauliqueModulable.trans absent
  have famille : variable_.famille = .hydraulique := by rcases kind with rfl | rfl <;> rfl
  have indice : variable_.indice = pays := by rcases kind with rfl | rfl <;> rfl
  intro listed
  rcases week.problem.mem_listeDesVariables.mp listed with ⟨hour, -, lien⟩ | ⟨hour, -, autre, -, bilan⟩ |
    ⟨hour, -, autre, -, hydraulique⟩ | ⟨autre, -, stock⟩ | ⟨-, autre, -, demarrage⟩
  · cases famille.symm.trans (week.problem.mem_variablesDesLiens lien).1
  · cases famille.symm.trans (week.problem.mem_variablesDuPays bilan).1
  · obtain rfl := indice.symm.trans (week.problem.mem_variablesHydrauliques hydraulique).2.2
    simp only [WeeklyProblem.variablesHydrauliques, noHydro, noPumping, suivi.suiviNiveauHoraire, List.mem_append]
      at hydraulique
    rcases hydraulique with ((none | variation) | none) | level
    · exact absurd none (by simp)
    · rcases week.problem.mem_variablesDeVariation variation with rfl | rfl <;> simp at kind
    · exact absurd none (by simp)
    · rcases kind with rfl | rfl <;> simp at level
  · cases famille.symm.trans (week.problem.mem_variablesDeStock stock).1
  · cases famille.symm.trans (week.problem.mem_variablesDeDemarrage demarrage).1

variable (point) in
/-- The generation and pumping that the solution leaves in the results of the week. -/
def semaine : SemaineHydro hydro where
  pasDeTempsDebut := pasDeTempsDebut
  turbinage pdt := week.problem.restreint point (.hydProd (pdt : Nat) pays)
  pompage pdt := week.problem.restreint point (.pumping (pdt : Nat) pays)
  turbinage_absent := fun absent _ => week.problem.restreint_of_not_mem (suivi.not_numbered absent (.inl rfl))
  pompage_absent := fun absent _ => week.problem.restreint_of_not_mem (suivi.not_numbered absent (.inr rfl))

variable (point) in
/-- The data of the area after the optimisation of the week and the second computation. -/
def recalcule : EtatHydro :=
  computingHydroLevels hydro (suivi.semaine point) (initialiserLesDebordements etat)

end SuiviHoraire

def niveauxDeLaSolution (pays : Nat) (etat : EtatHydro) (point : Variable → Rat) : Nat → Rat
  | 0 => etat.niveauInitialReservoir
  | pdt + 1 => point (.hydroLevel (pdt : Nat) pays)

theorem SuiviHoraire.niveaux_balance (suivi : SuiviHoraire week pays hydro calendar pasDeTempsDebut courbes etat)
    (solution : RespecteLesNiveaux week passage pays point) : ∀ pdt < nbHoursInWeek,
    niveauxDeLaSolution pays etat point (pdt + 1) = niveauxDeLaSolution pays etat point pdt +
      apportNet hydro.pumpingEfficiency (suivi.semaine point).turbinage (suivi.semaine point).pompage
        etat.apportNaturelHoraire pdt - point (.overflow (pdt : Nat) pays) := by
  intro pdt inWeek
  have emitted := solution.lignes pdt inWeek
  unfold WeeklyProblem.areaHydroLevel at emitted
  simp only [suivi.suiviNiveauHoraire, if_true] at emitted
  have row := week.problem.holds_of_forall_mem_build emitted (List.mem_append_left _ List.mem_cons_self)
    (suivi.niveau_numbered inWeek)
  have level := @WeeklyProblem.restreint_of_mem week.problem point _ (suivi.niveau_numbered inWeek)
  have overflow := @WeeklyProblem.restreint_of_mem week.problem point _
    (suivi.debordement_numbered inWeek)
  simp only [Sense.Holds, Terms.value_append, Terms.value_cons, Terms.value_nil, Week.secondMembre,
    suivi.pumpingRatio, suivi.apportNaturelHoraire, suivi.niveauInitialReservoir, level, overflow, zero_add] at row
  simp only [apportNet, SuiviHoraire.semaine]
  cases pdt with
  | zero =>
    simp only [lt_irrefl, if_false, if_true, Terms.value_nil] at row
    simp only [niveauxDeLaSolution]
    linarith
  | succ pdt =>
    have before := @WeeklyProblem.restreint_of_mem week.problem point _
      (suivi.niveau_numbered (Nat.lt_of_succ_lt inWeek))
    have previous : ((pdt + 1 : Nat) : Int) - 1 = (pdt : Nat) := by omega
    simp only [Nat.succ_pos, if_true, Nat.succ_ne_zero, if_false, Terms.value_cons, Terms.value_nil, previous,
      before] at row
    simp only [niveauxDeLaSolution]
    linarith

structure Rejoue (hydro : HydroDuPays) (pays : Nat) (point : Variable → Rat) (etat recalcule : EtatHydro) : Prop where
  apports : recalcule.apportNaturelHoraire = etat.apportNaturelHoraire
  niveau_le : ∀ pdt < nbHoursInWeek,
    point (.hydroLevel (pdt : Nat) pays) ≤ recalcule.niveauxHoraires pdt * hydro.reservoirCapacity / 100
  le_capacity : ∀ pdt < nbHoursInWeek,
    recalcule.niveauxHoraires pdt * hydro.reservoirCapacity / 100 ≤ hydro.reservoirCapacity
  debordements : ∀ hours ≤ nbHoursInWeek, ∑ pdt ∈ Finset.range hours, recalcule.debordementsHoraires pdt ≤
    ∑ pdt ∈ Finset.range hours, point (.overflow (pdt : Nat) pays)
  niveaux : (∀ pdt < nbHoursInWeek, 0 < point (.overflow (pdt : Nat) pays) →
      point (.hydroLevel (pdt : Nat) pays) = hydro.reservoirCapacity) →
    ∀ pdt < nbHoursInWeek, recalcule.niveauxHoraires pdt * hydro.reservoirCapacity / 100 =
      point (.hydroLevel (pdt : Nat) pays)

section Bornes
variable (suivi : SuiviHoraire week pays hydro calendar pasDeTempsDebut courbes etat)
  (solution : RespecteLesNiveaux week passage pays point)
include suivi solution

theorem debordement_nonneg : ∀ pdt < nbHoursInWeek, 0 ≤ point (.overflow (pdt : Nat) pays) := by
  intro pdt inWeek
  have contains := solution.bornes pdt inWeek (.overflow (pdt : Nat) pays) (by simp) (suivi.debordement_numbered inWeek)
  exact (Bounds.contains_between.mp contains).1

theorem niveau_within : ∀ pdt < nbHoursInWeek, 0 ≤ point (.hydroLevel (pdt : Nat) pays) ∧
    point (.hydroLevel (pdt : Nat) pays) ≤ niveauHoraireSup calendar hydro pasDeTempsDebut courbes pdt := by
  intro pdt inWeek
  have contains := solution.bornes pdt inWeek (.hydroLevel (pdt : Nat) pays) (by simp) (suivi.niveau_numbered inWeek)
  obtain ⟨above, below⟩ := Bounds.contains_between.mp contains
  rw [suivi.niveauHoraireInf] at above
  rw [suivi.niveauHoraireSup, zero_add, Int.toNat_natCast] at below
  exact ⟨(niveauHoraireInf_nonneg _).trans above, below⟩

theorem rejoue_of_le_capacity (below : ∀ pdt < nbHoursInWeek,
      point (.hydroLevel (pdt : Nat) pays) ≤ hydro.reservoirCapacity) :
    Rejoue hydro pays point etat (suivi.recalcule point) := by
  have balance := suivi.niveaux_balance solution
  have nonneg := debordement_nonneg suivi solution
  have dominated := @le_cappedSum_of_balance _ _ _ _ hydro.reservoirCapacity _ _ _ _ _ rfl balance nonneg below
  have enough (pdt : Nat) (inWeek : pdt ≤ nbHoursInWeek) :
      0 ≤ soldeDeLEtat (suivi.semaine point) (initialiserLesDebordements etat) pdt := by
    refine le_trans ?_ (dominated pdt inWeek)
    cases pdt with
    | zero => exact suivi.niveauInitial_within.1
    | succ pdt => exact (niveau_within suivi solution pdt inWeek).1
  obtain ⟨niveaux, debordements, apports⟩ := @computingHydroLevels_spec hydro (suivi.semaine point)
    (initialiserLesDebordements etat) suivi.niveauInitial_within fun pdt inWeek => if_pos inWeek
  have level (pdt : Nat) (inWeek : pdt < nbHoursInWeek) :
      (suivi.recalcule point).niveauxHoraires pdt * hydro.reservoirCapacity / 100 =
        soldeDeLEtat (suivi.semaine point) (initialiserLesDebordements etat) (pdt + 1) := by
    have positive := hydro.reservoirCapacity_pos.ne'
    rw [SuiviHoraire.recalcule, niveaux pdt inWeek, max_eq_right (enough (pdt + 1) inWeek)]
    field_simp
  constructor
  · funext pdt
    rw [SuiviHoraire.recalcule, apports pdt]
    split_ifs with inWeek
    · -- no hour owes anything
      rw [deficit_eq_zero_iff.mpr (enough pdt inWeek.le), deficit_eq_zero_iff.mpr (enough (pdt + 1) inWeek),
        sub_zero, add_zero]
      rfl
    · rfl
  · intro pdt inWeek
    rw [level pdt inWeek]
    exact dominated (pdt + 1) inWeek
  · intro pdt inWeek
    rw [level pdt inWeek]
    exact cappedSum_le_cap suivi.niveauInitial_within.2 (pdt + 1)
  · intro hours inWeek
    have cut : ∑ pdt ∈ Finset.range hours, (suivi.recalcule point).debordementsHoraires pdt = _ :=
      Finset.sum_congr rfl fun pdt listed => debordements pdt ((Finset.mem_range.mp listed).trans_le inWeek)
    rw [cut]
    exact sum_cutOff_le_of_balance rfl (fun pdt earlier => balance pdt (earlier.trans_le inWeek))
      (fun pdt earlier => nonneg pdt (earlier.trans_le inWeek)) fun pdt earlier => below pdt (earlier.trans_le inWeek)
  · intro atCapacity pdt inWeek
    rw [level pdt inWeek]
    exact cappedSum_eq_of_balance rfl balance nonneg below atCapacity (pdt + 1) inWeek

end Bornes

/-- The second computation agrees with the rows for the solutions that stay in the reservoir. -/
theorem SuiviHoraire.rejoue_iff (suivi : SuiviHoraire week pays hydro calendar pasDeTempsDebut courbes etat)
    (solution : RespecteLesNiveaux week passage pays point) :
    Rejoue hydro pays point etat (suivi.recalcule point) ↔
      ∀ pdt < nbHoursInWeek, point (.hydroLevel (pdt : Nat) pays) ≤ hydro.reservoirCapacity := by
  constructor
  · intro rejoue pdt inWeek
    exact (rejoue.niveau_le pdt inWeek).trans (rejoue.le_capacity pdt inWeek)
  · exact rejoue_of_le_capacity suivi solution

end Semaine

def reservoirSettings : WeekSettings where
  nombreDePays := 1
  ucMode := .ucHeuristicFast
  expansion := false
  areaMode := fun _ => .virtualArea
  reserveHoraireJMoins1 := fun _ _ => 0
  reserve_nonneg := fun _ _ => le_rfl

def fedReservoir : HydroDuPays :=
  { smallReservoir with storage := fun _ => 24, storage_absent := fun absent => by cases absent }

/-- Rule curves written in percent are accepted as parts of the capacity. -/
def curvesInPercent : CourbesGuides where
  hardBoundsOnRuleCurves := true
  reservoirLevel :=
    { minimum := fun _ => 0
      average := fun _ => 50
      maximum := fun _ => 100
      accepted := fun _ => by norm_num }

def emptyAtFirst : EtatHydro := { EtatHydro.alloue 0 with apportNaturelHoraire := fun _ => 1 }

def fedWeek : Week reservoirSettings :=
  let bare : BareWeek reservoirSettings :=
    { network :=
        { nombreDePays := 1
          nombreDInterconnexions := 0
          paysOrigineDeLInterconnexion := fun _ => 0
          paysExtremiteDeLInterconnexion := fun _ => 0
          origine_lt := Network.sansInterco_lt
          extremite_lt := Network.sansInterco_lt }
      nombreDePays_eq := rfl
      hasUnit := fun _ => false
      charge := fun _ _ => 0
      capacite := 0
      capacite_nonneg := BareWeek.sansCapacite }
  { bare.week with
    problem :=
      { bare.problem with
        caracteristiquesHydrauliques := fun _ =>
          { noHydro with
            presenceDHydrauliqueModulable := true
            turbinageEntreBornes := true
            suiviNiveauHoraire := true } }
    nombreDePays_eq := rfl
    ucMode_eq := rfl
    hydrauliques := fun _ =>
      { noEnergy with
        presenceDHydrauliqueModulable := true
        turbinageEntreBornes := true
        sansHeuristique := true }
    apportNaturelHoraire := fun _ => emptyAtFirst.apportNaturelHoraire
    niveauHoraireInf := fun _ => niveauHoraireInf .zero fedReservoir 0 curvesInPercent
    niveauHoraireSup := fun _ => niveauHoraireSup .zero fedReservoir 0 curvesInPercent
    niveauInitialReservoir := fun _ => emptyAtFirst.niveauInitialReservoir
    tailleReservoir := fun _ => fedReservoir.reservoirCapacity }

def anyPassage : Passage where
  adequacyFirstStep := false
  optimizationNumber := .deuxiemeOptimisation
  paliers := fun _ => partialUnit
  valeursHorairesDENS := fun _ _ => 0

def keepingAll : Variable → Rat
  | .hydroLevel pdt _ => pdt + 1
  | _ => 0

theorem fedWeek_suivi : SuiviHoraire fedWeek 0 fedReservoir .zero 0 curvesInPercent emptyAtFirst where
  pays_lt := Nat.one_pos
  range := rfl
  suiviNiveauHoraire := rfl
  presenceDHydrauliqueModulable := rfl
  presenceDePompageModulable := fun _ => rfl
  pumpingRatio := rfl
  apportNaturelHoraire := rfl
  niveauInitialReservoir := rfl
  niveauInitial_within := ⟨le_rfl, fedReservoir.reservoirCapacity_pos.le⟩
  niveauHoraireInf := rfl
  niveauHoraireSup := rfl

theorem keepingAll_respecte : RespecteLesNiveaux fedWeek anyPassage 0 keepingAll := by
  constructor
  · intro pdt inWeek
    unfold WeeklyProblem.areaHydroLevel
    simp only [fedWeek_suivi.suiviNiveauHoraire, if_true]
    apply fedWeek.problem.forall_mem_build_holds
    have others {variable_ : Variable} (zero : keepingAll variable_ = 0) :
        fedWeek.problem.restreint keepingAll variable_ = 0 := fedWeek.problem.restreint_of_eq_zero zero
    have level {pdt : Nat} (inWeek : pdt < nbHoursInWeek) :
        fedWeek.problem.restreint keepingAll (.hydroLevel (pdt : Nat) 0) = pdt + 1 := by
      rw [fedWeek.problem.restreint_of_mem (fedWeek_suivi.niveau_numbered inWeek)]
      simp [keepingAll]
    simp only [Sense.Holds, Terms.value_append, Terms.value_cons, Terms.value_nil, Week.secondMembre, zero_add,
      level inWeek, @others (.hydProd pdt 0) rfl, @others (.pumping pdt 0) rfl, @others (.overflow pdt 0) rfl]
    cases pdt with
    | zero =>
      simp only [lt_irrefl, if_false, if_true, Terms.value_nil]
      norm_num [fedWeek, emptyAtFirst, EtatHydro.alloue]
    | succ pdt =>
      have previous : ((pdt + 1 : Nat) : Int) - 1 = (pdt : Nat) := by omega
      simp only [Nat.succ_pos, if_true, Nat.succ_ne_zero, if_false, Terms.value_cons, Terms.value_nil, previous,
        level (Nat.lt_of_succ_lt inWeek)]
      norm_num [fedWeek, emptyAtFirst]
  · intro pdt inWeek variable_ listed _
    simp only [List.mem_cons, List.not_mem_nil, or_false] at listed
    rcases listed with rfl | rfl | rfl | rfl
    · have hour : (pdt : Rat) + 1 ≤ 168 := by exact_mod_cast inWeek
      simp only [Week.bornes, Bounds.contains_between, keepingAll, zero_add, Int.toNat_natCast, Int.cast_natCast]
      simp only [fedWeek, niveauHoraireInf, niveauHoraireSup, interpolerLaCourbe, curvesInPercent, fedReservoir,
        smallReservoir]
      norm_num
      constructor
      · positivity
      · linarith
    · simp [Week.bornes, keepingAll, fedWeek, emptyAtFirst]
    · have power := EnergiesEtPuissancesHydrauliques.preparer_contrainteDePmaxHydrauliqueHoraire
        fedWeek.problem.range (fedWeek.hydrauliques 0) rfl inWeek
      simp only [Week.bornes, Bounds.contains_between, keepingAll, zero_add, Int.toNat_natCast, Week.hydro, power]
      exact ⟨le_rfl, le_rfl⟩
    · have power := (EnergiesEtPuissancesHydrauliques.preparer_settings fedWeek.problem.range
        (fedWeek.hydrauliques 0)).2.2.2.2.2.2
      simp only [Week.bornes, Bounds.contains_between, keepingAll, zero_add, Int.toNat_natCast, Week.hydro, power]
      exact ⟨le_rfl, le_rfl⟩

theorem keepingAll_rejoue_iff :
    Rejoue fedReservoir 0 keepingAll emptyAtFirst (fedWeek_suivi.recalcule keepingAll) ↔
      ∀ pdt < nbHoursInWeek, keepingAll (.hydroLevel (pdt : Nat) 0) ≤ fedReservoir.reservoirCapacity :=
  fedWeek_suivi.rejoue_iff keepingAll_respecte

/-- The last level of the solution is above the capacity, where the computed one cannot be. -/
theorem keepingAll_not_rejoue : RespecteLesNiveaux fedWeek anyPassage 0 keepingAll ∧
    ¬Rejoue fedReservoir 0 keepingAll emptyAtFirst (fedWeek_suivi.recalcule keepingAll) := by
  refine ⟨keepingAll_respecte, fun rejoue => ?_⟩
  have last := (rejoue.niveau_le 167 (by decide)).trans (rejoue.le_capacity 167 (by decide))
  norm_num [keepingAll, fedReservoir, smallReservoir] at last

end Antares.Solver
