import Antares.Solver.HydroLevels

/-! The weeks of an adequacy year: those whose residual load the hydro covers are not optimised, and their
hourly results are rebuilt by hand from the week itself.
-/

set_option autoImplicit false

namespace Antares.Solver

open Data Library Optimisation

/-- The hydro data of an area are read where its reservoir is managed. -/
structure AdequacyStudy where
  nbAreas : Nat
  interconnectionsCount : Nat
  reservoirManagement : Fin nbAreas → Bool
  hydro : Fin nbAreas → HydroDuPays

/-- The data of a week, by area and hour, and the ventilation of the hydro by area and day. -/
structure SemaineAdequacy (study : AdequacyStudy) where
  hourInTheYear : Nat
  loadSeries : Fin study.nbAreas → Nat → Rat
  mustRunGen : Fin study.nbAreas → Nat → Rat
  strategicReserve : Fin study.nbAreas → Nat → Rat
  hydrauliqueModulableQuotidien : Fin study.nbAreas → Nat → Rat
  ventilation_absent : ∀ area, (study.hydro area).presenceDHydrauliqueModulable = false →
    ∀ day, hydrauliqueModulableQuotidien area day = 0

structure ResultatsHoraires where
  defaillancePositive : Nat → Rat
  defaillanceNegative : Nat → Rat
  coutsMarginaux : Nat → Rat
  pompage : Nat → Rat
  turbinage : Nat → Rat

/-- The weekly problem and the state, as far as the weeks share them. -/
structure ProblemeAdequacy (study : AdequacyStudy) where
  consommationsAbattues : Nat → Fin study.nbAreas → Rat
  valeurDuFlux : Nat → List Rat
  flux_length : ∀ pdt, (valeurDuFlux pdt).length = study.interconnectionsCount
  variableDuale : Nat → Fin study.interconnectionsCount → Rat
  resultatsHoraires : Fin study.nbAreas → ResultatsHoraires
  /-- Overflows, levels and inflows of each area. -/
  hydro : Fin study.nbAreas → EtatHydro
  resSpilled : Fin study.nbAreas → Nat → Rat

structure SemaineOptimisee (study : AdequacyStudy) where
  valeurDuFlux : Nat → List Rat
  flux_length : ∀ pdt, (valeurDuFlux pdt).length = study.interconnectionsCount
  variableDuale : Nat → Fin study.interconnectionsCount → Rat
  resultatsHoraires : Fin study.nbAreas → ResultatsHoraires
  /-- The generation and pumping that the levels are computed from, before the remix or after it. -/
  hydroDesNiveaux : (area : Fin study.nbAreas) → SemaineHydro (study.hydro area)

/-- How the optimisation of a week ends: an unfeasible week may leave any levels and overflows. -/
inductive Issue (study : AdequacyStudy) where
  | resolue (optimisee : SemaineOptimisee study)
  | infaisable (optimisee : SemaineOptimisee study) (debordements niveaux : Fin study.nbAreas → Nat → Rat)
  | arret

/-- `std::vector::resize` -/
def resizeVector (values : List Rat) (count : Nat) (fill : Rat) : List Rat :=
  values.take count ++ List.replicate (count - values.length) fill

theorem length_resizeVector (values : List Rat) (count : Nat) (fill : Rat) : (resizeVector values count fill).length = count := by
  unfold resizeVector
  rw [List.length_append, List.length_take, List.length_replicate]
  omega

theorem resizeVector_of_length {values : List Rat} {count : Nat} (sized : values.length = count) (fill : Rat) :
    resizeVector values count fill = values := by
  unfold resizeVector
  rw [sized, Nat.sub_self, List.replicate_zero, List.append_nil, ← sized, List.take_length]

section Semaine
variable {study : AdequacyStudy} (calendar : Calendar) (semaine : SemaineAdequacy study)

variable (area : Fin study.nbAreas)

def SemaineAdequacy.hydroVentile : SemaineHydro (study.hydro area) where
  pasDeTempsDebut := semaine.hourInTheYear
  turbinage pdt := semaine.hydrauliqueModulableQuotidien area (calendar.hours (semaine.hourInTheYear + pdt)).dayYear / 24
  pompage _ := 0
  turbinage_absent absent pdt := by
    rw [semaine.ventilation_absent area absent, zero_div]
  pompage_absent _ _ := rfl

def renseignerArea (etat : EtatHydro) : Option EtatHydro :=
  if study.reservoirManagement area then renseignerHydro calendar (study.hydro area) (semaine.hydroVentile calendar area) etat
  else some { etat with
    apportNaturelHoraire :=
      if (study.hydro area).presenceDHydrauliqueModulable then
        fun pdt => (semaine.hydroVentile calendar area).srcinflows calendar (pdt / 24) / 24
      else etat.apportNaturelHoraire }

variable (probleme : ProblemeAdequacy study)

/-- `SIM_RenseignementProblemeHebdo`: the residual loads and the hydro states; a level outside its reservoir stops the run. -/
def renseigner : Option (ProblemeAdequacy study) :=
  if (List.finRange study.nbAreas).all fun area => (renseignerArea calendar semaine area (probleme.hydro area)).isSome then
    some { probleme with
      consommationsAbattues := fun pdt area => semaine.loadSeries area pdt - semaine.mustRunGen area pdt
      hydro := fun area => (renseignerArea calendar semaine area (probleme.hydro area)).getD (probleme.hydro area) }
  else none

def simplexIsRequired : Bool :=
  (List.range nbHoursInWeek).any fun pdt => (List.finRange study.nbAreas).any fun area =>
    probleme.consommationsAbattues pdt area - (semaine.hydroVentile calendar area).turbinage pdt > 0

/-- Before the optimisation a load below zero is spilled, down to the strategic reserve. -/
def spillLoad : ProblemeAdequacy study :=
  { probleme with
    consommationsAbattues := fun pdt area =>
      let conso := probleme.consommationsAbattues pdt area
      let stratReserve := semaine.strategicReserve area pdt
      if conso < -stratReserve then conso + stratReserve else if conso < 0 then 0 else conso
    resSpilled := fun area pdt =>
      let conso := probleme.consommationsAbattues pdt area
      let stratReserve := semaine.strategicReserve area pdt
      if conso < -stratReserve then stratReserve else if conso < 0 then -conso else 0 }

/-- The results of the optimisation; `hydro` is what becomes of the hydro states. -/
def ecrireOptimisee (optimisee : SemaineOptimisee study) (hydro : Fin study.nbAreas → EtatHydro) (probleme : ProblemeAdequacy study) :
    ProblemeAdequacy study :=
  { probleme with
    valeurDuFlux := optimisee.valeurDuFlux
    flux_length := optimisee.flux_length
    variableDuale := optimisee.variableDuale
    resultatsHoraires := optimisee.resultatsHoraires
    hydro }

/-- The levels of the areas that manage a reservoir, with the overflows that go with them. -/
def calculerNiveaux (hydroDesNiveaux : (area : Fin study.nbAreas) → SemaineHydro (study.hydro area))
    (etats : Fin study.nbAreas → EtatHydro) (area : Fin study.nbAreas) : EtatHydro :=
  if study.reservoirManagement area then
    computingHydroLevels (study.hydro area) (hydroDesNiveaux area) (initialiserLesDebordements (etats area))
  else initialiserLesDebordements (etats area)

variable (optimiser : SemaineAdequacy study → ProblemeAdequacy study → Issue study)

/-- The branch of a week that is optimised; the levels of an area are computed before the remix or after it. -/
def optimiserSemaine (probleme : ProblemeAdequacy study) :
    Option (ProblemeAdequacy study) :=
  let prepare := spillLoad semaine probleme
  match optimiser semaine prepare with
  | .resolue optimisee => some (ecrireOptimisee optimisee (calculerNiveaux optimisee.hydroDesNiveaux prepare.hydro) prepare)
  | .infaisable optimisee debordements niveaux =>
    some (ecrireOptimisee optimisee (fun area => { prepare.hydro area with
      debordementsHoraires := debordements area
      niveauxHoraires := niveaux area }) prepare)
  | .arret => none

def remettreAZero (etat : EtatHydro) : EtatHydro :=
  { etat with niveauxHoraires := fun pdt => if pdt < nbHoursInWeek then 0 else etat.niveauxHoraires pdt }

def passerSemaine : ProblemeAdequacy study :=
  { probleme with
    variableDuale := fun pdt link => if pdt < nbHoursInWeek then 0 else probleme.variableDuale pdt link
    valeurDuFlux := fun pdt =>
      if pdt < nbHoursInWeek then resizeVector (probleme.valeurDuFlux pdt) study.interconnectionsCount 0 else probleme.valeurDuFlux pdt
    flux_length := fun pdt => by
      split_ifs
      · exact length_resizeVector _ _ _
      · exact probleme.flux_length pdt
    resultatsHoraires := fun area =>
      { defaillancePositive := fun _ => 0
        defaillanceNegative := fun _ => 0
        coutsMarginaux := fun _ => 0
        pompage := fun _ => 0
        turbinage := fun pdt =>
          if pdt < nbHoursInWeek then (semaine.hydroVentile calendar area).turbinage pdt
          else (probleme.resultatsHoraires area).turbinage pdt }
    hydro := calculerNiveaux (semaine.hydroVentile calendar) fun area => remettreAZero (probleme.hydro area)
    resSpilled := fun area pdt =>
      if pdt < nbHoursInWeek then
        (semaine.hydroVentile calendar area).turbinage pdt - probleme.consommationsAbattues pdt area
      else 0 }

/-- `updatingWeeklyFinalHydroLevel`, in the areas that manage a reservoir. -/
def niveauxFinaux : ProblemeAdequacy study :=
  { probleme with
    hydro := fun area =>
      if study.reservoirManagement area then updatingWeeklyFinalHydroLevel (study.hydro area) (probleme.hydro area)
      else probleme.hydro area }

/-- A week of a run: whether it was optimised, what it started from and what it left. -/
structure SemaineSimulee (study : AdequacyStudy) where
  semaine : SemaineAdequacy study
  simplexRunNeeded : Bool
  depart : ProblemeAdequacy study
  probleme : ProblemeAdequacy study

def simulerSemaine (premiere : Bool)
    (depart : ProblemeAdequacy study) : Option (SemaineSimulee study) :=
  (renseigner calendar semaine depart).bind fun probleme =>
    let simplexRunNeeded := premiere || simplexIsRequired calendar semaine probleme
    let simulee := if simplexRunNeeded then optimiserSemaine semaine optimiser probleme else some (passerSemaine calendar semaine probleme)
    simulee.map fun simule => ⟨semaine, simplexRunNeeded, depart, niveauxFinaux simule⟩

/-- The weeks of a year, up to the one that stops it, and what the year leaves. -/
def simulerAnnee (optimiser : SemaineAdequacy study → ProblemeAdequacy study → Issue study) (premiere : Bool) :
    List (SemaineAdequacy study) → ProblemeAdequacy study → List (SemaineSimulee study) × Option (ProblemeAdequacy study)
  | [], depart => ([], some depart)
  | semaine :: semaines, depart =>
    match simulerSemaine calendar semaine optimiser premiere depart with
    | none => ([], none)
    | some simulee =>
      let suite := simulerAnnee optimiser false semaines simulee.probleme
      (simulee :: suite.1, suite.2)

/-- The weeks of a year and the levels that the hydro management starts it from. -/
structure AnneeAdequacy (study : AdequacyStudy) where
  semaines : List (SemaineAdequacy study)
  niveauInitial : Fin study.nbAreas → Rat

/-- The level of the first day is kept of a managed reservoir only. -/
def AnneeAdequacy.commencer (annee : AnneeAdequacy study) (probleme : ProblemeAdequacy study) : ProblemeAdequacy study :=
  { probleme with
    hydro := fun area =>
      if study.reservoirManagement area then { probleme.hydro area with previousSimulationFinalLevel := annee.niveauInitial area }
      else probleme.hydro area }

def simulerAnnees (optimiser : SemaineAdequacy study → ProblemeAdequacy study → Issue study) :
    List (AnneeAdequacy study) → ProblemeAdequacy study → List (SemaineSimulee study)
  | [], _ => []
  | annee :: annees, depart =>
    let (simulees, fin) := simulerAnnee calendar optimiser true annee.semaines (annee.commencer depart)
    match fin with
    | none => simulees
    | some probleme => simulees ++ simulerAnnees optimiser annees probleme

def ProblemeAdequacy.alloue (study : AdequacyStudy) : ProblemeAdequacy study where
  consommationsAbattues _ _ := 0
  valeurDuFlux _ := List.replicate study.interconnectionsCount 0
  flux_length _ := List.length_replicate
  variableDuale _ _ := 0
  resultatsHoraires _ := ⟨fun _ => 0, fun _ => 0, fun _ => 0, fun _ => 0, fun _ => 0⟩
  hydro _ := EtatHydro.alloue (-1)
  resSpilled _ _ := 0

end Semaine

section Passage
variable {study : AdequacyStudy} {calendar : Calendar} {semaine : SemaineAdequacy study}

def ProblemeAdequacy.SansApport (probleme : ProblemeAdequacy study) : Prop :=
  ∀ area, (probleme.hydro area).SansApport (study.hydro area)

theorem renseignerHydro_congr {hydro : HydroDuPays} {first second : SemaineHydro hydro}
    (same : first.pasDeTempsDebut = second.pasDeTempsDebut) (etat : EtatHydro) :
    renseignerHydro calendar hydro first etat = renseignerHydro calendar hydro second etat := by
  unfold renseignerHydro SemaineHydro.srcinflows
  rw [same]

variable {area : Fin study.nbAreas}

variable {etat renseigne : EtatHydro}

theorem renseignerArea_sansApport (sansApport : etat.SansApport (study.hydro area))
    (renseigner : renseignerArea calendar semaine area etat = some renseigne) : renseigne.SansApport (study.hydro area) := by
  intro absent
  unfold renseignerArea renseignerHydro at renseigner
  simp only [absent, Bool.false_eq_true, if_false] at renseigner
  split_ifs at renseigner
  · cases renseigner
    exact sansApport absent
  · cases renseigner
    exact sansApport absent

theorem calculerNiveaux_laisse (managed : study.reservoirManagement area = true) {etat renseigne : EtatHydro}
    (sansApport : etat.SansApport (study.hydro area)) (renseigner : renseignerArea calendar semaine area etat = some renseigne)
    (hydroDesNiveaux : SemaineHydro (study.hydro area)) :
    SemaineHydro.Laisse calendar { hydroDesNiveaux with pasDeTempsDebut := semaine.hourInTheYear } etat.previousSimulationFinalLevel
      (updatingWeeklyFinalHydroLevel (study.hydro area)
        (computingHydroLevels (study.hydro area) hydroDesNiveaux (initialiserLesDebordements renseigne))) := by
  apply semaineSuivante_laisse sansApport
  unfold renseignerArea at renseigner
  rw [if_pos managed] at renseigner
  unfold semaineSuivante
  have prepared : renseignerHydro calendar (study.hydro area) { hydroDesNiveaux with pasDeTempsDebut := semaine.hourInTheYear } etat =
      some renseigne := (renseignerHydro_congr rfl etat).trans renseigner
  rw [prepared]
  rfl

theorem renseignerArea_remettreAZero
    (renseigner : renseignerArea calendar semaine area etat = some renseigne) :
    renseignerArea calendar semaine area (remettreAZero etat) = some (remettreAZero renseigne) := by
  unfold renseignerArea renseignerHydro at renseigner ⊢
  unfold remettreAZero
  dsimp only at renseigner ⊢
  split_ifs at renseigner ⊢ <;> cases renseigner <;> rfl

theorem renseigner_some {depart renseigne : ProblemeAdequacy study} (prepared : renseigner calendar semaine depart = some renseigne) :
    renseigne.valeurDuFlux = depart.valeurDuFlux ∧
    (∀ pdt area, renseigne.consommationsAbattues pdt area = semaine.loadSeries area pdt - semaine.mustRunGen area pdt) ∧
    ∀ area, renseignerArea calendar semaine area (depart.hydro area) = some (renseigne.hydro area) := by
  unfold renseigner at prepared
  split_ifs at prepared with valid
  cases prepared
  refine ⟨rfl, fun _ _ => rfl, fun area => ?_⟩
  obtain ⟨etat, found⟩ := Option.isSome_iff_exists.mp (List.all_eq_true.mp valid area (List.mem_finRange area))
  dsimp only
  rw [found]
  rfl

variable {optimiser : SemaineAdequacy study → ProblemeAdequacy study → Issue study}

variable {premiere : Bool} {depart : ProblemeAdequacy study} {simulee : SemaineSimulee study}

theorem simulerSemaine_some
    (simulated : simulerSemaine calendar semaine optimiser premiere depart = some simulee) :
    ∃ renseigne, renseigner calendar semaine depart = some renseigne ∧ simulee.semaine = semaine ∧ simulee.depart = depart ∧
      (simulee.simplexRunNeeded = true ∧
          (∃ simule, optimiserSemaine semaine optimiser renseigne = some simule ∧ simulee.probleme = niveauxFinaux simule) ∨
        simulee.simplexRunNeeded = false ∧ simulee.probleme = niveauxFinaux (passerSemaine calendar semaine renseigne)) := by
  obtain ⟨renseigne, prepared, rest⟩ := Option.bind_eq_some_iff.mp simulated
  obtain ⟨simule, reached, rfl⟩ := Option.map_eq_some_iff.mp rest
  refine ⟨renseigne, prepared, rfl, rfl, ?_⟩
  dsimp only
  cases needed : premiere || simplexIsRequired calendar semaine renseigne with
  | true =>
    rw [needed, if_pos rfl] at reached
    exact .inl ⟨rfl, simule, reached, rfl⟩
  | false =>
    rw [needed, if_neg Bool.false_ne_true] at reached
    cases reached
    exact .inr ⟨rfl, rfl⟩

theorem niveauxFinaux_sansApport {departs etats : Fin study.nbAreas → EtatHydro} (sansApport : ∀ area, (departs area).SansApport (study.hydro area))
    (prepared : ∀ area, renseignerArea calendar semaine area (departs area) = some (etats area))
    {hydroDesNiveaux : (area : Fin study.nbAreas) → SemaineHydro (study.hydro area)} {simule : ProblemeAdequacy study}
    (computed : simule.hydro = calculerNiveaux hydroDesNiveaux etats) : (niveauxFinaux simule).SansApport := by
  intro area
  have levels : simule.hydro area = calculerNiveaux hydroDesNiveaux etats area := congrFun computed area
  unfold niveauxFinaux
  dsimp only
  rw [levels]
  unfold calculerNiveaux
  split_ifs with managed
  · exact (calculerNiveaux_laisse managed (sansApport area) (prepared area) (hydroDesNiveaux area)).sansApport
  · have kept := renseignerArea_sansApport (sansApport area) (prepared area)
    exact kept

theorem simulerSemaine_sansApport (sansApport : depart.SansApport) (simulated : simulerSemaine calendar semaine optimiser premiere depart = some simulee) :
    simulee.probleme.SansApport := by
  obtain ⟨renseigne, prepared, _, _, branch⟩ := simulerSemaine_some simulated
  have areas := (renseigner_some prepared).2.2
  rcases branch with ⟨_, simule, reached, left⟩ | ⟨_, left⟩
  · rw [left]
    unfold optimiserSemaine at reached
    dsimp only at reached
    split at reached
    · cases reached
      exact niveauxFinaux_sansApport sansApport areas rfl
    · cases reached
      intro area absent
      have kept := renseignerArea_sansApport (sansApport area) (areas area) absent
      unfold niveauxFinaux
      dsimp only
      split_ifs
      · exact kept
      · exact kept
    · cases reached
  · rw [left]
    have zeroed : ∀ area, (remettreAZero (depart.hydro area)).SansApport (study.hydro area) := sansApport
    exact niveauxFinaux_sansApport zeroed (fun area => renseignerArea_remettreAZero (areas area)) rfl

/-- The results of a week that was not optimised, in what does not come from the weeks before. -/
structure Reconstruite (calendar : Calendar) (simulee : SemaineSimulee study) : Prop where
  defaillancePositive : ∀ area, (simulee.probleme.resultatsHoraires area).defaillancePositive = fun _ => 0
  defaillanceNegative : ∀ area, (simulee.probleme.resultatsHoraires area).defaillanceNegative = fun _ => 0
  pompage : ∀ area, (simulee.probleme.resultatsHoraires area).pompage = fun _ => 0
  turbinage : ∀ area, ∀ pdt < nbHoursInWeek,
    (simulee.probleme.resultatsHoraires area).turbinage pdt = (simulee.semaine.hydroVentile calendar area).turbinage pdt
  resSpilled : ∀ area, ∀ pdt < nbHoursInWeek, simulee.probleme.resSpilled area pdt =
    (simulee.semaine.hydroVentile calendar area).turbinage pdt - (simulee.semaine.loadSeries area pdt - simulee.semaine.mustRunGen area pdt)
  variableDuale : ∀ pdt < nbHoursInWeek, ∀ link, simulee.probleme.variableDuale pdt link = 0
  /-- From the level that the week starts from. -/
  reservoir : ∀ area, study.reservoirManagement area = true → SemaineHydro.Laisse calendar (simulee.semaine.hydroVentile calendar area)
    (simulee.depart.hydro area).previousSimulationFinalLevel (simulee.probleme.hydro area)
  sansReservoir : ∀ area, study.reservoirManagement area = false → ∀ pdt < nbHoursInWeek,
    (simulee.probleme.hydro area).niveauxHoraires pdt = 0 ∧ (simulee.probleme.hydro area).debordementsHoraires pdt = 0
  /-- The flows are those of the week before. -/
  valeurDuFlux : simulee.probleme.valeurDuFlux = simulee.depart.valeurDuFlux

theorem simulerSemaine_reconstruite (sansApport : depart.SansApport)
    (simulated : simulerSemaine calendar semaine optimiser premiere depart = some simulee) (passed : simulee.simplexRunNeeded = false) :
    Reconstruite calendar simulee := by
  obtain ⟨renseigne, prepared, sameWeek, from_, branch⟩ := simulerSemaine_some simulated
  obtain ⟨flows, loads, areas⟩ := renseigner_some prepared
  obtain ⟨week, needed, start, probleme⟩ := simulee
  dsimp only at sameWeek from_ passed branch
  subst sameWeek from_
  -- a week that is not optimised only took the branch that fills in the results
  rcases branch with ⟨needed, _⟩ | ⟨_, rfl⟩
  · rw [passed] at needed
    cases needed
  · constructor
    · exact fun _ => rfl
    · exact fun _ => rfl
    · exact fun _ => rfl
    · exact fun area pdt inWeek => if_pos inWeek
    · intro area pdt inWeek
      rw [← loads pdt area]
      exact if_pos inWeek
    · exact fun pdt inWeek link => if_pos inWeek
    · intro area managed
      have zeroed : (remettreAZero (start.hydro area)).SansApport (study.hydro area) := sansApport area
      have laisse := calculerNiveaux_laisse managed zeroed (renseignerArea_remettreAZero (areas area)) (week.hydroVentile calendar area)
      have state : (niveauxFinaux (passerSemaine calendar week renseigne)).hydro area =
          updatingWeeklyFinalHydroLevel (study.hydro area) (computingHydroLevels (study.hydro area) (week.hydroVentile calendar area)
            (initialiserLesDebordements (remettreAZero (renseigne.hydro area)))) := by
        unfold niveauxFinaux passerSemaine calculerNiveaux
        dsimp only
        rw [if_pos managed, if_pos managed]
      dsimp only
      rw [state]
      exact laisse
    · intro area unmanaged pdt inWeek
      have state : (niveauxFinaux (passerSemaine calendar week renseigne)).hydro area =
          initialiserLesDebordements (remettreAZero (renseigne.hydro area)) := by
        unfold niveauxFinaux passerSemaine calculerNiveaux
        dsimp only
        rw [unmanaged, if_neg Bool.false_ne_true, if_neg Bool.false_ne_true]
      dsimp only
      rw [state]
      exact ⟨if_pos inWeek, if_pos inWeek⟩
    · funext pdt
      rw [← flows]
      unfold niveauxFinaux passerSemaine
      dsimp only
      split_ifs
      · exact resizeVector_of_length (renseigne.flux_length pdt) 0
      · rfl

theorem simulerAnnee_reconstruite (premiere : Bool)
    (semaines : List (SemaineAdequacy study)) {depart : ProblemeAdequacy study} (sansApport : depart.SansApport) :
    (∀ simulee ∈ (simulerAnnee calendar optimiser premiere semaines depart).1, simulee.simplexRunNeeded = false →
        Reconstruite calendar simulee) ∧
      ∀ fin, (simulerAnnee calendar optimiser premiere semaines depart).2 = some fin → fin.SansApport := by
  induction semaines generalizing premiere depart with
  | nil =>
    constructor
    · exact fun _ none => absurd none List.not_mem_nil
    · intro fin same
      cases same
      exact sansApport
  | cons semaine semaines ih =>
    unfold simulerAnnee
    cases simulated : simulerSemaine calendar semaine optimiser premiere depart with
    | none =>
      constructor
      · exact fun _ none => absurd none List.not_mem_nil
      · intro fin none
        cases none
    | some premiereSimulee =>
      obtain ⟨later, final⟩ := ih false (simulerSemaine_sansApport sansApport simulated)
      constructor
      · intro simulee listed passed
        rcases List.mem_cons.mp listed with rfl | listed
        · exact simulerSemaine_reconstruite sansApport simulated passed
        · exact later simulee listed passed
      · exact final

theorem commencer_sansApport (annee : AnneeAdequacy study) {probleme : ProblemeAdequacy study} (sansApport : probleme.SansApport) :
    (annee.commencer probleme).SansApport := by
  intro area absent
  have kept := sansApport area absent
  unfold AnneeAdequacy.commencer
  dsimp only
  split_ifs
  · exact kept
  · exact kept

theorem simulerAnnees_reconstruite
    (annees : List (AnneeAdequacy study)) {depart : ProblemeAdequacy study} (sansApport : depart.SansApport) :
    ∀ simulee ∈ simulerAnnees calendar optimiser annees depart, simulee.simplexRunNeeded = false → Reconstruite calendar simulee := by
  induction annees generalizing depart with
  | nil => exact fun _ none => absurd none List.not_mem_nil
  | cons annee annees ih =>
    obtain ⟨weeks, final⟩ := @simulerAnnee_reconstruite study calendar optimiser true annee.semaines _ (commencer_sansApport annee sansApport)
    unfold simulerAnnees
    dsimp only
    cases left : (simulerAnnee calendar optimiser true annee.semaines (annee.commencer depart)).2 with
    | none => exact weeks
    | some probleme =>
      intro simulee listed
      rcases List.mem_append.mp listed with inYear | later
      · exact weeks simulee inYear
      · exact ih (final probleme left) simulee later

theorem alloue_sansApport : (ProblemeAdequacy.alloue study).SansApport := fun _ _ => rfl

end Passage

section Independance
variable {study : AdequacyStudy}

structure MemesResultats (simulee autre : SemaineSimulee study) : Prop where
  unsupplied : ∀ area, ∀ pdt < nbHoursInWeek, (simulee.probleme.resultatsHoraires area).defaillancePositive pdt =
    (autre.probleme.resultatsHoraires area).defaillancePositive pdt
  spilled : ∀ area, ∀ pdt < nbHoursInWeek, (simulee.probleme.resultatsHoraires area).defaillanceNegative pdt =
    (autre.probleme.resultatsHoraires area).defaillanceNegative pdt ∧
    simulee.probleme.resSpilled area pdt = autre.probleme.resSpilled area pdt
  hydro : ∀ area, ∀ pdt < nbHoursInWeek, (simulee.probleme.resultatsHoraires area).turbinage pdt =
    (autre.probleme.resultatsHoraires area).turbinage pdt
  pumping : ∀ area, ∀ pdt < nbHoursInWeek, (simulee.probleme.resultatsHoraires area).pompage pdt =
    (autre.probleme.resultatsHoraires area).pompage pdt
  duals : ∀ pdt < nbHoursInWeek, ∀ link, simulee.probleme.variableDuale pdt link = autre.probleme.variableDuale pdt link

def MemesNiveaux (simulee autre : SemaineSimulee study) (area : Fin study.nbAreas) : Prop :=
  ∀ pdt < nbHoursInWeek,
    (simulee.probleme.hydro area).niveauxHoraires pdt = (autre.probleme.hydro area).niveauxHoraires pdt ∧
    (simulee.probleme.hydro area).debordementsHoraires pdt = (autre.probleme.hydro area).debordementsHoraires pdt

def Equilibree (simulee : SemaineSimulee study) : Prop :=
  ∀ area, ∀ pdt < nbHoursInWeek, (simulee.probleme.resultatsHoraires area).turbinage pdt - simulee.probleme.resSpilled area pdt =
    simulee.semaine.loadSeries area pdt - simulee.semaine.mustRunGen area pdt

variable {calendar : Calendar} {simulee autre : SemaineSimulee study}

theorem Reconstruite.equilibree (reconstruite : Reconstruite calendar simulee) : Equilibree simulee := by
  intro area pdt inWeek
  rw [reconstruite.turbinage area pdt inWeek, reconstruite.resSpilled area pdt inWeek, sub_sub_cancel]

section
variable (first : Reconstruite calendar simulee) (second : Reconstruite calendar autre) (same : simulee.semaine = autre.semaine)
include first second same

theorem Reconstruite.memesResultats : MemesResultats simulee autre := by
  constructor
  · intro area pdt inWeek
    rw [first.defaillancePositive, second.defaillancePositive]
  · intro area pdt inWeek
    rw [first.defaillanceNegative, second.defaillanceNegative, first.resSpilled area pdt inWeek, second.resSpilled area pdt inWeek, same]
    exact ⟨rfl, rfl⟩
  · intro area pdt inWeek
    rw [first.turbinage area pdt inWeek, second.turbinage area pdt inWeek, same]
  · intro area pdt inWeek
    rw [first.pompage, second.pompage]
  · intro pdt inWeek link
    rw [first.variableDuale pdt inWeek, second.variableDuale pdt inWeek]

theorem Reconstruite.memesNiveaux {area : Fin study.nbAreas} (start : study.reservoirManagement area = true →
      (simulee.depart.hydro area).previousSimulationFinalLevel = (autre.depart.hydro area).previousSimulationFinalLevel) :
    MemesNiveaux simulee autre area := by
  intro pdt inWeek
  cases managed : study.reservoirManagement area with
  | true =>
    have one := first.reservoir area managed
    have other := second.reservoir area managed
    rw [same, start managed] at one
    constructor
    · rw [one.niveaux pdt inWeek, other.niveaux pdt inWeek]
    · rw [one.debordements pdt inWeek, other.debordements pdt inWeek]
  | false =>
    have one := first.sansReservoir area managed pdt inWeek
    have other := second.sansReservoir area managed pdt inWeek
    rw [one.1, one.2, other.1, other.2]
    exact ⟨rfl, rfl⟩

end

/-- Two simulations, whatever the optimisations of each, agree in a week that neither optimises: the weeks before count
through the levels that the managed reservoirs start from only. -/
theorem simulerAnnees_independantes (calendar : Calendar) (optimiser autreOptimiser : SemaineAdequacy study → ProblemeAdequacy study → Issue study)
    (annees autresAnnees : List (AnneeAdequacy study)) :
    ∀ simulee ∈ simulerAnnees calendar optimiser annees (.alloue study), simulee.simplexRunNeeded = false →
      Equilibree simulee ∧
      ∀ autre ∈ simulerAnnees calendar autreOptimiser autresAnnees (.alloue study), autre.simplexRunNeeded = false →
        simulee.semaine = autre.semaine →
          MemesResultats simulee autre ∧
          ∀ area, (study.reservoirManagement area = true →
              (simulee.depart.hydro area).previousSimulationFinalLevel = (autre.depart.hydro area).previousSimulationFinalLevel) →
            MemesNiveaux simulee autre area := by
  intro simulee listed passed
  have first := simulerAnnees_reconstruite annees alloue_sansApport simulee listed passed
  refine ⟨first.equilibree, ?_⟩
  intro autre otherListed otherPassed same
  have second := simulerAnnees_reconstruite autresAnnees alloue_sansApport autre otherListed otherPassed
  exact ⟨first.memesResultats second same, fun area start => first.memesNiveaux second same start⟩

end Independance

section
variable {study : AdequacyStudy} {calendar : Calendar} {optimiser : SemaineAdequacy study → ProblemeAdequacy study → Issue study}
  {depart : ProblemeAdequacy study}

theorem simulerAnnee_cons {premiere : Bool} {semaine : SemaineAdequacy study} {simulee : SemaineSimulee study}
    (simulated : simulerSemaine calendar semaine optimiser premiere depart = some simulee) (semaines : List (SemaineAdequacy study)) :
    (simulerAnnee calendar optimiser premiere (semaine :: semaines) depart).1 =
      simulee :: (simulerAnnee calendar optimiser false semaines simulee.probleme).1 := by
  rw [simulerAnnee, simulated]

theorem mem_simulerAnnees {annee : AnneeAdequacy study} {annees : List (AnneeAdequacy study)} {simulee : SemaineSimulee study}
    (listed : simulee ∈ (simulerAnnee calendar optimiser true annee.semaines (annee.commencer depart)).1) :
    simulee ∈ simulerAnnees calendar optimiser (annee :: annees) depart := by
  unfold simulerAnnees
  dsimp only
  split
  · exact listed
  · exact List.mem_append_left _ listed

end

section DeuxSemaines

theorem sansApport : true = false → ∀ day : Nat, (0 : Rat) = 0 := fun _ _ => rfl

def unReservoir : AdequacyStudy where
  nbAreas := 1
  interconnectionsCount := 1
  reservoirManagement _ := true
  hydro _ :=
    { reservoirCapacity := 100
      reservoirCapacity_pos := by decide
      pumpingEfficiency := 1
      presenceDHydrauliqueModulable := true
      storage := fun _ => 0
      storage_absent := sansApport }

def semaineVide (hourInTheYear : Nat) : SemaineAdequacy unReservoir where
  hourInTheYear := hourInTheYear
  loadSeries _ _ := 0
  mustRunGen _ _ := 0
  strategicReserve _ _ := 0
  hydrauliqueModulableQuotidien _ _ := 0
  ventilation_absent _ _ _ := rfl

def deuxSemaines : AnneeAdequacy unReservoir := ⟨[semaineVide 0, semaineVide 168], fun _ => 50⟩

/-- The optimisation of the first week: a flow of one, and generation in the first hour. -/
def turbinerAuDebut (turbinage : Rat) (semaine : SemaineAdequacy unReservoir) (_ : ProblemeAdequacy unReservoir) : Issue unReservoir :=
  .resolue
    { valeurDuFlux := fun _ => [1]
      flux_length := fun _ => rfl
      variableDuale := fun _ _ => 0
      resultatsHoraires := fun _ => ⟨fun _ => 0, fun _ => 0, fun _ => 0, fun _ => 0, fun pdt => if pdt = 0 then turbinage else 0⟩
      hydroDesNiveaux := fun _ =>
        { pasDeTempsDebut := semaine.hourInTheYear
          turbinage := fun pdt => if pdt = 0 then turbinage else 0
          pompage := fun _ => 0
          turbinage_absent := fun absent => absurd (show true = false from absent) (by decide)
          pompage_absent := fun _ _ => rfl } }

theorem solde_turbine {calendar : Calendar} {area : Fin unReservoir.nbAreas} {semaine : SemaineHydro (unReservoir.hydro area)} {turbinage : Rat}
    (generation : semaine.turbinage = fun pdt => if pdt = 0 then turbinage else 0) (pumping : semaine.pompage = fun _ => 0) {start : Rat}
    (room : start - turbinage ≤ 100) (hours : Nat) : semaine.solde calendar start (hours + 1) = start - turbinage := by
  have apport (pdt : Nat) : semaine.apports calendar pdt = if pdt = 0 then -turbinage else 0 := by
    have natural : semaine.naturel calendar pdt = 0 := zero_div _
    unfold SemaineHydro.apports apportNet
    rw [natural, generation, pumping]
    dsimp only
    split_ifs <;> ring
  unfold SemaineHydro.solde
  induction hours with
  | zero =>
    rw [cappedSum, cappedSum, apport, if_pos rfl, ← sub_eq_add_neg]
    exact min_eq_right room
  | succ hours ih =>
    rw [cappedSum, ih, apport, if_neg (Nat.succ_ne_zero hours), add_zero]
    exact min_eq_right room

section
variable {turbinage : Rat} (generates : 0 ≤ turbinage) (enough : turbinage ≤ 50)
include generates enough

theorem premiereSemaine : ∃ simulee,
    simulerSemaine Calendar.zero (semaineVide 0) (turbinerAuDebut turbinage) true (deuxSemaines.commencer (.alloue unReservoir)) = some simulee ∧
      (∀ area, (simulee.probleme.hydro area).previousSimulationFinalLevel = 50 - turbinage) ∧ simulee.probleme.valeurDuFlux 0 = [1] := by
  obtain ⟨renseigne, prepared⟩ : ∃ renseigne, renseigner Calendar.zero (semaineVide 0) (deuxSemaines.commencer (.alloue unReservoir)) =
      some renseigne := ⟨_, if_pos (by decide +kernel)⟩
  have areas := (renseigner_some prepared).2.2
  have sansApport := commencer_sansApport deuxSemaines (@alloue_sansApport unReservoir)
  unfold simulerSemaine
  rw [prepared]
  refine ⟨_, rfl, fun area => ?_, rfl⟩
  have levels := (calculerNiveaux_laisse rfl (sansApport area) (areas area)
    { pasDeTempsDebut := 0
      turbinage := fun pdt => if pdt = 0 then turbinage else 0
      pompage := fun _ => 0
      turbinage_absent := fun absent => absurd (show true = false from absent) (by decide)
      pompage_absent := fun _ _ => rfl }).final
  have week : nbHoursInWeek = 167 + 1 := rfl
  have start : ((deuxSemaines.commencer (.alloue unReservoir)).hydro area).previousSimulationFinalLevel = 50 := rfl
  rw [start, week, solde_turbine rfl rfl (show (50 : Rat) - turbinage ≤ 100 by linarith), max_eq_right (by linarith)] at levels
  exact levels

theorem secondeSemaine {depart : ProblemeAdequacy unReservoir}
    (level : ∀ area, (depart.hydro area).previousSimulationFinalLevel = 50 - turbinage) : ∃ simulee,
    simulerSemaine Calendar.zero (semaineVide 168) (turbinerAuDebut turbinage) false depart = some simulee ∧
      simulee.simplexRunNeeded = false ∧ simulee.semaine = semaineVide 168 ∧ simulee.depart = depart := by
  have valid (area : Fin unReservoir.nbAreas) : ∃ etat, renseignerArea Calendar.zero (semaineVide 168) area (depart.hydro area) = some etat := by
    have within : ¬ ((depart.hydro area).previousSimulationFinalLevel < 0 ∨ (100 : Rat) < (depart.hydro area).previousSimulationFinalLevel) := by
      rw [level area]
      rintro (below | above) <;> linarith
    exact ⟨_, if_neg within⟩
  obtain ⟨renseigne, prepared⟩ : ∃ renseigne, renseigner Calendar.zero (semaineVide 168) depart = some renseigne :=
    ⟨_, if_pos (List.all_eq_true.mpr fun area _ => Option.isSome_iff_exists.mpr (valid area))⟩
  have loads := (renseigner_some prepared).2.1
  have covered : simplexIsRequired Calendar.zero (semaineVide 168) renseigne = false := by
    unfold simplexIsRequired
    rw [List.any_eq_false]
    intro pdt _
    rw [Bool.not_eq_true, List.any_eq_false]
    intro area _
    rw [loads]
    simp [semaineVide, SemaineAdequacy.hydroVentile]
  unfold simulerSemaine
  rw [prepared]
  refine ⟨⟨semaineVide 168, false, depart, niveauxFinaux (passerSemaine Calendar.zero (semaineVide 168) renseigne)⟩, ?_, rfl, rfl, rfl⟩
  rw [Option.bind_some, covered]
  rfl

theorem deuxSemaines_simulees : ∃ simulee ∈ simulerAnnees Calendar.zero (turbinerAuDebut turbinage) [deuxSemaines] (.alloue unReservoir),
    simulee.simplexRunNeeded = false ∧ simulee.semaine = semaineVide 168 ∧ simulee.probleme.valeurDuFlux 0 = [1] ∧
      ∀ area, (simulee.probleme.hydro area).niveauxHoraires 0 = 50 - turbinage := by
  obtain ⟨premiere, first, level, flows⟩ := premiereSemaine generates enough
  obtain ⟨seconde, second, passed, week, start⟩ := secondeSemaine generates enough level
  have listed : seconde ∈ (simulerAnnee Calendar.zero (turbinerAuDebut turbinage) true [semaineVide 0, semaineVide 168]
      (deuxSemaines.commencer (.alloue unReservoir))).1 := by
    rw [simulerAnnee_cons first, simulerAnnee_cons second]
    exact List.mem_cons_of_mem _ List.mem_cons_self
  have sansApport := simulerSemaine_sansApport (commencer_sansApport deuxSemaines alloue_sansApport) first
  have reconstruite := simulerSemaine_reconstruite sansApport second passed
  refine ⟨seconde, mem_simulerAnnees listed, passed, week, ?_, fun area => ?_⟩
  · rw [reconstruite.valeurDuFlux, start, flows]
  · have laisse := reconstruite.reservoir area rfl
    rw [start, level, week] at laisse
    have idle : ((semaineVide 168).hydroVentile Calendar.zero area).turbinage = fun pdt => if pdt = 0 then 0 else 0 := by
      funext pdt
      simp [SemaineAdequacy.hydroVentile, semaineVide]
    have capacity : (unReservoir.hydro area).reservoirCapacity = 100 := rfl
    rw [laisse.niveaux 0 (by decide), solde_turbine idle rfl (show 50 - turbinage - 0 ≤ (100 : Rat) by linarith) 0, capacity, sub_zero,
      max_eq_right (by linarith)]
    ring

end

/-- What the weeks before leave is seen in the levels of a week that is not optimised, and in its flows. -/
theorem deuxSemaines_dependantes : ¬ ∀ simulee ∈ simulerAnnees Calendar.zero (turbinerAuDebut 0) [deuxSemaines] (.alloue unReservoir),
    ∀ autre ∈ simulerAnnees Calendar.zero (turbinerAuDebut 10) [deuxSemaines] (.alloue unReservoir),
      simulee.simplexRunNeeded = false → autre.simplexRunNeeded = false → simulee.semaine = autre.semaine →
        MemesResultats simulee autre ∧ (∀ area, MemesNiveaux simulee autre area) ∧ Equilibree simulee ∧
          ∀ pdt < nbHoursInWeek, ∀ flow ∈ simulee.probleme.valeurDuFlux pdt, flow = 0 := by
  intro claimed
  obtain ⟨simulee, listed, passed, week, _, level⟩ := @deuxSemaines_simulees 0 (by norm_num) (by norm_num)
  obtain ⟨autre, otherListed, otherPassed, otherWeek, _, otherLevel⟩ := @deuxSemaines_simulees 10 (by norm_num) (by norm_num)
  have levels := (claimed simulee listed autre otherListed passed otherPassed (week.trans otherWeek.symm)).2.1 ⟨0, by decide⟩ 0 (by decide)
  rw [level, otherLevel] at levels
  norm_num at levels

theorem deuxSemaines_independantes :
    ∃ simulee ∈ simulerAnnees Calendar.zero (turbinerAuDebut 0) [deuxSemaines] (.alloue unReservoir), Equilibree simulee ∧
      ∃ autre ∈ simulerAnnees Calendar.zero (turbinerAuDebut 10) [deuxSemaines] (.alloue unReservoir), MemesResultats simulee autre := by
  obtain ⟨simulee, listed, passed, week, _, _⟩ := @deuxSemaines_simulees 0 (by norm_num) (by norm_num)
  obtain ⟨autre, otherListed, otherPassed, otherWeek, _, _⟩ := @deuxSemaines_simulees 10 (by norm_num) (by norm_num)
  obtain ⟨balanced, agree⟩ := simulerAnnees_independantes Calendar.zero (turbinerAuDebut 0) (turbinerAuDebut 10) [deuxSemaines] [deuxSemaines]
    simulee listed passed
  exact ⟨simulee, listed, balanced, autre, otherListed, (agree autre otherListed otherPassed (week.trans otherWeek.symm)).1⟩

end DeuxSemaines

end Antares.Solver
