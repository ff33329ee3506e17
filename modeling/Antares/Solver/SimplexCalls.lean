import Mathlib.Logic.Function.Basic

/-! The calls of the simplex over the weeks of a year. A problem of the solver is kept for each interval of the week and
solved again from where it was, unless the optimisation starts anew; none is used after it was freed, and what a year
gets does not depend on the problems that earlier years have left.
-/

set_option autoImplicit false

namespace Antares.Solver.Simplexe

inductive ExistenceDUneSolution where
  | ouiSpx
  | nonSpx
  | erreurInterne
  deriving DecidableEq

/-- A solver that always leaves a problem. A basis is given and taken by those that support warm starts. -/
structure Solveur (P S B R : Type) where
  warmStart : Bool
  /-- `ModifierLeVecteurCouts`, `ModifierLeVecteurSecondMembre` and `CorrigerLesBornes` -/
  modifier : P → S → S
  /-- The solver's own problem is converted first when there is none. -/
  resoudre : (scaling : Bool) → P → Option B → Option S → S × ExistenceDUneSolution × R
  base : S → B

/-- A pointer of `ProblemesSpx`: null, to a live problem, or to one that was freed. -/
inductive Emplacement (S : Type) where
  | vide
  | occupe (problemeSpx : S)
  | libere

inductive Tentative (R : Type) where
  | terminee (existence : ExistenceDUneSolution) (resultat : R)
  | echouee
  | fatale

inductive Appel (R : Type) where
  | resolu (resultat : R)
  | infaisable
  | fatal

inductive OptimizationNumber where
  | premiere
  | deuxieme
  deriving DecidableEq

section Calls
variable {P S B R : Type} (solveur : Solveur P S B R) (optimisation : OptimizationNumber) (probleme : P) (reinitOptimisation : Bool)

/-- The problem to start from, once the one that was kept is freed or updated. A freed one can be neither. -/
def problemeDeDepart (premierPassage : Bool) (emplacement : Emplacement S) : Option (Emplacement S × Option S) :=
  match premierPassage, emplacement with
  | false, _ => some (emplacement, none)
  | true, .vide => some (.vide, none)
  | true, .occupe garde =>
    if reinitOptimisation then some (.vide, none) else some (emplacement, some (solveur.modifier probleme garde))
  | true, .libere => none

/-- A problem that is not the one to start from would be lost. -/
def rangerLeProbleme (emplacement : Emplacement S) (depart : Option S) (problemeSpx : S) : Option (Emplacement S) :=
  match emplacement, depart with
  | .occupe _, none => none
  | _, _ => some (.occupe problemeSpx)

/-- The basis that the solver is given. -/
def baseDeDepart (statuts : Option B) : Option B := if solveur.warmStart then statuts else none

/-- The final basis of the first optimisation is kept. -/
def statutsFinaux (statuts : Option B) (problemeSpx : S) (existence : ExistenceDUneSolution) : Option B :=
  if solveur.warmStart && existence = .ouiSpx && optimisation = .premiere then some (solveur.base problemeSpx) else statuts

/-- A failure of the first pass frees its problem, and leaves the pointer, unless it is an internal error. -/
def conclure (premierPassage : Bool) (existence : ExistenceDUneSolution) (resultat : R) (emplacement : Emplacement S) :
    Emplacement S × Tentative R :=
  if existence ≠ .ouiSpx ∧ premierPassage = true then
    if existence ≠ .erreurInterne then (.libere, .echouee) else (emplacement, .fatale)
  else (emplacement, .terminee existence resultat)

/-- `OPT_TryToCallSimplex`; there is no result when a problem is used or freed again after it was freed, or lost. -/
def tryToCallSimplex (premierPassage : Bool) (emplacement : Emplacement S) (statuts : Option B) :
    Option (Emplacement S × Option B × Tentative R) :=
  (problemeDeDepart solveur probleme reinitOptimisation premierPassage emplacement).bind fun (emplacement, depart) =>
    let (problemeSpx, existence, resultat) := solveur.resoudre premierPassage probleme (baseDeDepart solveur statuts) depart
    (rangerLeProbleme emplacement depart problemeSpx).map fun emplacement =>
      let (emplacement, tentative) := conclure premierPassage existence resultat emplacement
      (emplacement, statutsFinaux solveur optimisation statuts problemeSpx existence, tentative)

/-- The second attempt of `OPT_AppelDuSimplexe`, without scaling -/
def reessayer : Emplacement S × Option B × Tentative R → Option (Emplacement S × Option B × Tentative R)
  | (emplacement, statuts, .echouee) => tryToCallSimplex solveur optimisation probleme reinitOptimisation false emplacement statuts
  | tentative => some tentative

def Tentative.appel : Tentative R → Appel R
  | .terminee .ouiSpx resultat => .resolu resultat
  | .fatale => .fatal
  | _ => .infaisable

/-- `OPT_AppelDuSimplexe` -/
def appelDuSimplexe (emplacement : Emplacement S) (statuts : Option B) : Option (Emplacement S × Option B × Appel R) :=
  ((tryToCallSimplex solveur optimisation probleme reinitOptimisation true emplacement statuts).bind
    (reessayer solveur optimisation probleme reinitOptimisation)).map
      fun (emplacement, statuts, tentative) => (emplacement, statuts, tentative.appel)

variable {solveur optimisation probleme reinitOptimisation}

/-- What is left for a call of the problem before it. -/
def Emplacement.ancien (reinitOptimisation : Bool) : Emplacement S → Option S
  | .occupe garde => if reinitOptimisation then none else some garde
  | _ => none

section
variable {emplacement : Emplacement S} {problemeSpx : S} {existence : ExistenceDUneSolution} {resultat : R}

theorem tryToCallSimplex_first (sain : emplacement ≠ .libere) {statuts : Option B}
    (reponse : solveur.resoudre true probleme (baseDeDepart solveur statuts)
      ((emplacement.ancien reinitOptimisation).map (solveur.modifier probleme)) = (problemeSpx, existence, resultat)) :
    tryToCallSimplex solveur optimisation probleme reinitOptimisation true emplacement statuts =
      some ((conclure true existence resultat (.occupe problemeSpx)).1,
        statutsFinaux solveur optimisation statuts problemeSpx existence,
        (conclure true existence resultat (.occupe problemeSpx)).2) := by
  cases emplacement with
  | vide => simp_all [tryToCallSimplex, problemeDeDepart, rangerLeProbleme, Emplacement.ancien]
  | occupe garde =>
    cases reinitOptimisation <;> simp_all [tryToCallSimplex, problemeDeDepart, rangerLeProbleme, Emplacement.ancien]
  | libere => exact absurd rfl sain

/-- The second attempt does not look at the pointer, which still leads to the problem that was freed. -/
theorem tryToCallSimplex_second {statuts : Option B}
    (reponse : solveur.resoudre false probleme (baseDeDepart solveur statuts) none = (problemeSpx, existence, resultat)) :
    tryToCallSimplex solveur optimisation probleme reinitOptimisation false .libere statuts =
      some (.occupe problemeSpx, statutsFinaux solveur optimisation statuts problemeSpx existence,
        .terminee existence resultat) := by
  simp [tryToCallSimplex, problemeDeDepart, rangerLeProbleme, conclure, reponse]

end

theorem baseDeDepart_statutsFinaux {statuts autresStatuts : Option B}
    (base : baseDeDepart solveur statuts = baseDeDepart solveur autresStatuts) (problemeSpx : S) (existence : ExistenceDUneSolution) :
    baseDeDepart solveur (statutsFinaux solveur optimisation statuts problemeSpx existence) =
      baseDeDepart solveur (statutsFinaux solveur optimisation autresStatuts problemeSpx existence) := by
  unfold statutsFinaux
  split
  · rfl
  · exact base

/-- A call that finds no pointer to a freed problem leaves a live one; what it gives is decided by the basis and by what
is left of the problem before.
-/
theorem appelDuSimplexe_memes {emplacement autre : Emplacement S} {statuts autresStatuts : Option B}
    (sain : emplacement ≠ .libere) (autre_sain : autre ≠ .libere)
    (ancien : emplacement.ancien reinitOptimisation = autre.ancien reinitOptimisation)
    (base : baseDeDepart solveur statuts = baseDeDepart solveur autresStatuts) :
    ∃ problemeSpx finaux autresFinaux appel,
      appelDuSimplexe solveur optimisation probleme reinitOptimisation emplacement statuts =
        some (.occupe problemeSpx, finaux, appel) ∧
      appelDuSimplexe solveur optimisation probleme reinitOptimisation autre autresStatuts =
        some (.occupe problemeSpx, autresFinaux, appel) ∧
      baseDeDepart solveur finaux = baseDeDepart solveur autresFinaux := by
  obtain ⟨⟨premier, existence, resultat⟩, first⟩ : ∃ reponse, solveur.resoudre true probleme (baseDeDepart solveur statuts)
    ((emplacement.ancien reinitOptimisation).map (solveur.modifier probleme)) = reponse := ⟨_, rfl⟩
  have autre_first := first
  rw [base, ancien] at autre_first
  have memes := @baseDeDepart_statutsFinaux P S B R solveur optimisation statuts autresStatuts base premier existence
  simp only [appelDuSimplexe, tryToCallSimplex_first sain first, tryToCallSimplex_first autre_sain autre_first]
  cases existence with
  | ouiSpx => exact ⟨_, _, _, _, rfl, rfl, memes⟩
  | erreurInterne => exact ⟨_, _, _, _, rfl, rfl, memes⟩
  | nonSpx =>
    obtain ⟨⟨dernier, existence, resultat⟩, second⟩ : ∃ reponse, solveur.resoudre false probleme
      (baseDeDepart solveur (statutsFinaux solveur optimisation statuts premier .nonSpx)) none = reponse := ⟨_, rfl⟩
    have autre_second := second
    rw [memes] at autre_second
    refine ⟨dernier, _, _, (Tentative.terminee existence resultat).appel, ?_, ?_,
      @baseDeDepart_statutsFinaux P S B R solveur optimisation _ _ memes dernier existence⟩
    · simp [conclure, reessayer, tryToCallSimplex_second second]
    · simp [conclure, reessayer, tryToCallSimplex_second autre_second]

end Calls

/-- How a week or a year ends. -/
inductive Sortie where
  | reussie
  | echec
  | fatale
  deriving DecidableEq

structure Reglages where
  optimisationAuPasHebdomadaire : Bool
  expansion : Bool
  optimisationAvecVariablesEntieres : Bool
  stopSimulation : Bool
  nbWeeks : Nat

/-- One per week, or one per day -/
def Reglages.nbIntervalles (reglages : Reglages) : Nat := if reglages.optimisationAuPasHebdomadaire then 1 else 7

/-- The problem of an interval, from its week, its optimisation, its number, and the answers of the year so far. -/
abbrev Deroulement (P R : Type) := Nat → OptimizationNumber → Nat → List (Appel R) → P

structure Cours (S B R : Type) where
  problemesSpx : Nat → Emplacement S
  statuts : Option B
  reponses : List (Appel R)

section Years
variable {P S B R : Type} (solveur : Solveur P S B R) (reglages : Reglages) (deroulement : Deroulement P R)

/-- The loop of `runWeeklyOptimization`, from an interval on -/
def runWeeklyOptimization (semaine : Nat) (optimisation : OptimizationNumber) (reinitOptimisation : Bool) :
    (numIntervalle restants : Nat) → Cours S B R → Option (Cours S B R × Sortie)
  | _, 0, cours => some (cours, .reussie)
  | numIntervalle, restants + 1, cours =>
    (appelDuSimplexe solveur optimisation (deroulement semaine optimisation numIntervalle cours.reponses) reinitOptimisation
      (cours.problemesSpx numIntervalle) cours.statuts).bind fun (emplacement, statuts, appel) =>
      let cours := ⟨Function.update cours.problemesSpx numIntervalle emplacement, statuts, cours.reponses ++ [appel]⟩
      match appel with
      | .resolu _ => runWeeklyOptimization semaine optimisation reinitOptimisation (numIntervalle + 1) restants cours
      | .infaisable => some (cours, .echec)
      | .fatal => some (cours, .fatale)

/-- `OPT_OptimisationLineaire` -/
def optimisationLineaire (semaine : Nat) (reinitOptimisation : Bool) (cours : Cours S B R) : Option (Cours S B R × Sortie) :=
  (runWeeklyOptimization solveur deroulement semaine .premiere reinitOptimisation 0 reglages.nbIntervalles cours).bind
    fun (cours, sortie) =>
      if sortie = .reussie && !reglages.expansion && !reglages.optimisationAvecVariablesEntieres then
        runWeeklyOptimization solveur deroulement semaine .deuxieme reinitOptimisation 0 reglages.nbIntervalles cours
      else some (cours, sortie)

/-- The weeks of `Economy::year` that are left; the one after a failure starts anew. -/
def semaines : (w restantes : Nat) → (reinitOptim : Bool) → List Nat → Cours S B R → Option (Cours S B R × List Nat × Sortie)
  | _, 0, _, failedWeekList, cours => some (cours, failedWeekList, .reussie)
  | w, restantes + 1, reinitOptim, failedWeekList, cours =>
    (optimisationLineaire solveur reglages deroulement w reinitOptim cours).bind fun (cours, sortie) =>
      match sortie with
      | .reussie => semaines (w + 1) restantes false failedWeekList cours
      | .echec =>
        if reglages.stopSimulation then some (cours, failedWeekList ++ [w + 1], .echec)
        else semaines (w + 1) restantes true (failedWeekList ++ [w + 1]) cours
      | .fatale => some (cours, failedWeekList, .fatale)

/-- `Economy::year`, on what the years before have left -/
def year (cours : Cours S B R) : Option (Cours S B R × List Nat × Sortie) :=
  semaines solveur reglages deroulement 0 reglages.nbWeeks true [] { cours with reponses := [] }

/-- Before the first year -/
def coursInitial : Cours S B R := ⟨fun _ => .vide, none, []⟩

/-- The years that a space solves one after the other -/
def years (deroulements : List (Deroulement P R)) : Option (Cours S B R) :=
  deroulements.foldlM (fun cours deroulement => (year solveur reglages deroulement cours).map Prod.fst) coursInitial

end Years

section Runs
variable {P S B R : Type} {solveur : Solveur P S B R} {reglages : Reglages} {deroulement : Deroulement P R}
variable {optimisation : OptimizationNumber} {nombre connus semaine : Nat} {reinitOptimisation : Bool}
variable {cours autre fin : Cours S B R} {sortie : Sortie}

/-- No pointer is left to a freed problem, and only those of intervals are used. -/
structure Cours.Tenu (nombre : Nat) (cours : Cours S B R) : Prop where
  sain : ∀ numIntervalle, cours.problemesSpx numIntervalle ≠ .libere
  vide : ∀ numIntervalle, nombre ≤ numIntervalle → cours.problemesSpx numIntervalle = .vide

/-- Two runs with the same answers so far, that give the same to the intervals below a number. -/
structure Memes (solveur : Solveur P S B R) (nombre connus : Nat) (cours autre : Cours S B R) : Prop where
  tenu : cours.Tenu nombre
  autre_tenu : autre.Tenu nombre
  base : baseDeDepart solveur cours.statuts = baseDeDepart solveur autre.statuts
  reponses : cours.reponses = autre.reponses
  problemesSpx : ∀ numIntervalle < connus, cours.problemesSpx numIntervalle = autre.problemesSpx numIntervalle

theorem Memes.mono {moins : Nat} (memes : Memes solveur nombre connus cours autre) (fewer : moins ≤ connus) :
    Memes solveur nombre moins cours autre :=
  { memes with problemesSpx := fun numIntervalle below => memes.problemesSpx numIntervalle (by omega) }

theorem Cours.Tenu.update (tenu : cours.Tenu nombre) {numIntervalle : Nat} (inside : numIntervalle < nombre)
    (problemeSpx : S) (statuts : Option B) (reponses : List (Appel R)) :
    Cours.Tenu nombre ⟨Function.update cours.problemesSpx numIntervalle (.occupe problemeSpx), statuts, reponses⟩ where
  sain other := by
    rcases eq_or_ne other numIntervalle with rfl | apart
    · simp
    · simpa [apart] using tenu.sain other
  vide other outside := by
    have apart : other ≠ numIntervalle := by omega
    simpa [apart] using tenu.vide other outside

/-- Two runs that end alike; after a success they agree on every interval. -/
def MemeFin (solveur : Solveur P S B R) (nombre : Nat) (gauche droite : Option (Cours S B R × Sortie)) : Prop :=
  ∃ cours autre sortie, gauche = some (cours, sortie) ∧ droite = some (autre, sortie) ∧
    Memes solveur nombre (if sortie = .reussie then nombre else 0) cours autre

/-- An optimisation that starts anew gets to know its intervals one by one; another one has to know them all. -/
theorem runWeeklyOptimization_memes {restants numIntervalle : Nat} (bound : numIntervalle + restants = nombre)
    (memes : Memes solveur nombre (if reinitOptimisation then numIntervalle else nombre) cours autre) :
    MemeFin solveur nombre
      (runWeeklyOptimization solveur deroulement semaine optimisation reinitOptimisation numIntervalle restants cours)
      (runWeeklyOptimization solveur deroulement semaine optimisation reinitOptimisation numIntervalle restants autre) := by
  induction restants generalizing numIntervalle cours autre with
  | zero =>
    refine ⟨cours, autre, .reussie, rfl, rfl, memes.mono ?_⟩
    cases reinitOptimisation <;> simp <;> omega
  | succ restants ih =>
    have ancien : (cours.problemesSpx numIntervalle).ancien reinitOptimisation =
        (autre.problemesSpx numIntervalle).ancien reinitOptimisation := by
      cases reinitOptimisation with
      | true => cases cours.problemesSpx numIntervalle <;> cases autre.problemesSpx numIntervalle <;> rfl
      | false => rw [memes.problemesSpx numIntervalle (by simp; omega)]
    obtain ⟨problemeSpx, finaux, autresFinaux, appel, done, autre_done, base⟩ :=
      @appelDuSimplexe_memes P S B R solveur optimisation (deroulement semaine optimisation numIntervalle cours.reponses)
        reinitOptimisation _ _ _ _ (memes.tenu.sain numIntervalle) (memes.autre_tenu.sain numIntervalle) ancien memes.base
    have next : Memes solveur nombre (if reinitOptimisation then numIntervalle + 1 else nombre)
        ⟨Function.update cours.problemesSpx numIntervalle (.occupe problemeSpx), finaux, cours.reponses ++ [appel]⟩
        ⟨Function.update autre.problemesSpx numIntervalle (.occupe problemeSpx), autresFinaux, autre.reponses ++ [appel]⟩ := by
      refine ⟨memes.tenu.update (by omega) _ _ _, memes.autre_tenu.update (by omega) _ _ _, base, by rw [memes.reponses],
        fun other below => ?_⟩
      rcases eq_or_ne other numIntervalle with rfl | apart
      · simp
      · simp only [Function.update_of_ne apart]
        refine memes.problemesSpx other ?_
        cases reinitOptimisation <;> simp at below ⊢ <;> omega
    rw [memes.reponses] at autre_done
    simp only [runWeeklyOptimization, done, autre_done, Option.bind_some]
    cases appel with
    | resolu resultat => exact ih (by omega) next
    | infaisable => exact ⟨_, _, .echec, rfl, rfl, next.mono (Nat.zero_le _)⟩
    | fatal => exact ⟨_, _, .fatale, rfl, rfl, next.mono (Nat.zero_le _)⟩

theorem optimisationLineaire_memes
    (memes : Memes solveur reglages.nbIntervalles (if reinitOptimisation then 0 else reglages.nbIntervalles) cours autre) :
    MemeFin solveur reglages.nbIntervalles (optimisationLineaire solveur reglages deroulement semaine reinitOptimisation cours)
      (optimisationLineaire solveur reglages deroulement semaine reinitOptimisation autre) := by
  obtain ⟨middle, autre_middle, sortie, done, autre_done, kept⟩ :=
    @runWeeklyOptimization_memes P S B R solveur deroulement .premiere _ semaine reinitOptimisation cours autre
      reglages.nbIntervalles 0 (Nat.zero_add _) memes
  simp only [optimisationLineaire, done, autre_done, Option.bind_some]
  split
  · next again =>
    have reussie : sortie = .reussie := by simp_all
    rw [if_pos reussie] at kept
    refine runWeeklyOptimization_memes (Nat.zero_add _) (kept.mono ?_)
    cases reinitOptimisation <;> simp
  · exact ⟨middle, autre_middle, sortie, rfl, rfl, kept⟩

theorem semaines_memes {restantes w : Nat} {reinitOptim : Bool} (failedWeekList : List Nat)
    (memes : Memes solveur reglages.nbIntervalles (if reinitOptim then 0 else reglages.nbIntervalles) cours autre) :
    ∃ fin autre_fin issue,
      semaines solveur reglages deroulement w restantes reinitOptim failedWeekList cours = some (fin, issue) ∧
      semaines solveur reglages deroulement w restantes reinitOptim failedWeekList autre = some (autre_fin, issue) ∧
      Memes solveur reglages.nbIntervalles 0 fin autre_fin := by
  induction restantes generalizing w reinitOptim cours autre failedWeekList with
  | zero => exact ⟨cours, autre, _, rfl, rfl, memes.mono (Nat.zero_le _)⟩
  | succ restantes ih =>
    obtain ⟨middle, autre_middle, sortie, done, autre_done, kept⟩ :=
      @optimisationLineaire_memes P S B R solveur reglages deroulement w reinitOptim cours autre memes
    simp only [semaines, done, autre_done, Option.bind_some]
    cases sortie with
    | reussie => exact @ih middle autre_middle (w + 1) false _ kept
    | echec =>
      cases reglages.stopSimulation with
      | true => exact ⟨middle, autre_middle, _, rfl, rfl, kept⟩
      | false => exact @ih middle autre_middle (w + 1) true _ kept
    | fatale => exact ⟨middle, autre_middle, _, rfl, rfl, kept⟩

theorem year_memes (tenu : cours.Tenu reglages.nbIntervalles) (autre_tenu : autre.Tenu reglages.nbIntervalles)
    (base : baseDeDepart solveur cours.statuts = baseDeDepart solveur autre.statuts) :
    ∃ fin autre_fin issue, year solveur reglages deroulement cours = some (fin, issue) ∧
      year solveur reglages deroulement autre = some (autre_fin, issue) ∧ Memes solveur reglages.nbIntervalles 0 fin autre_fin :=
  semaines_memes [] ⟨⟨tenu.sain, tenu.vide⟩, ⟨autre_tenu.sain, autre_tenu.vide⟩, base, rfl, nofun⟩

theorem coursInitial_tenu : (coursInitial : Cours S B R).Tenu nombre where
  sain _ := nofun
  vide _ _ := rfl

theorem foldlM_year_tenu (deroulements : List (Deroulement P R)) (tenu : cours.Tenu reglages.nbIntervalles) :
    ∃ fin, deroulements.foldlM (fun cours deroulement => (year solveur reglages deroulement cours).map Prod.fst) cours =
      some fin ∧ fin.Tenu reglages.nbIntervalles := by
  induction deroulements generalizing cours with
  | nil => exact ⟨cours, rfl, tenu⟩
  | cons deroulement deroulements ih =>
    obtain ⟨next, _, issue, done, -, kept⟩ := @year_memes P S B R solveur reglages deroulement cours cours tenu tenu rfl
    obtain ⟨fin, rest, fin_tenu⟩ := ih kept.tenu
    exact ⟨fin, by simpa [done] using rest, fin_tenu⟩

section Failures

def Appel.aEchoue : Appel R → Bool
  | .infaisable => true
  | _ => false

def Cours.echecs (cours : Cours S B R) : Nat := cours.reponses.countP Appel.aEchoue

theorem runWeeklyOptimization_echecs {restants numIntervalle : Nat}
    (done : runWeeklyOptimization solveur deroulement semaine optimisation reinitOptimisation numIntervalle restants cours =
      some (fin, sortie)) : fin.echecs = cours.echecs + if sortie = .echec then 1 else 0 := by
  induction restants generalizing numIntervalle cours with
  | zero =>
    cases done
    rfl
  | succ restants ih =>
    obtain ⟨⟨emplacement, statuts, appel⟩, -, rest⟩ := Option.bind_eq_some_iff.mp done
    cases appel with
    | resolu resultat =>
      have later := ih rest
      simpa [Cours.echecs, Appel.aEchoue] using later
    | infaisable =>
      cases rest
      simp [Cours.echecs, Appel.aEchoue]
    | fatal =>
      cases rest
      simp [Cours.echecs, Appel.aEchoue]

theorem optimisationLineaire_echecs
    (done : optimisationLineaire solveur reglages deroulement semaine reinitOptimisation cours = some (fin, sortie)) :
    fin.echecs = cours.echecs + if sortie = .echec then 1 else 0 := by
  obtain ⟨⟨middle, premiere⟩, first, rest⟩ := Option.bind_eq_some_iff.mp done
  have before := runWeeklyOptimization_echecs first
  dsimp only at rest
  split at rest
  · next again =>
    have reussie : premiere = .reussie := by simp_all
    rw [runWeeklyOptimization_echecs rest, before, reussie]
    simp
  · cases rest
    exact before

/-- The weeks that fail are numbered from one on, in their order, and each has one call that found nothing. -/
structure Signale (reglages : Reglages) (w restantes : Nat) (avant apres : Nat) (failed : List Nat) (sortie : Sortie) : Prop where
  ordre : failed.Pairwise (· < ·)
  semaines : ∀ semaine ∈ failed, w < semaine ∧ semaine ≤ w + restantes
  echecs : apres = avant + failed.length
  echec : sortie = .echec ↔ reglages.stopSimulation = true ∧ failed ≠ []

theorem semaines_signale {restantes w : Nat} {reinitOptim : Bool} {failedWeekList finale : List Nat}
    (done : semaines solveur reglages deroulement w restantes reinitOptim failedWeekList cours =
      some (fin, finale, sortie)) :
    ∃ failed, finale = failedWeekList ++ failed ∧ Signale reglages w restantes cours.echecs fin.echecs failed sortie := by
  induction restantes generalizing w reinitOptim failedWeekList cours with
  | zero =>
    cases done
    exact ⟨[], by simp, .nil, nofun, rfl, by simp⟩
  | succ restantes ih =>
    obtain ⟨⟨middle, issue⟩, first, rest⟩ := Option.bind_eq_some_iff.mp done
    have before := optimisationLineaire_echecs first
    cases issue with
    | reussie =>
      obtain ⟨failed, same, signale⟩ := ih rest
      refine ⟨failed, same, signale.ordre, fun semaine listed => ?_, by rw [signale.echecs, before]; rfl, signale.echec⟩
      have within := signale.semaines semaine listed
      omega
    | echec =>
      dsimp only at rest
      split at rest
      · next stop =>
        cases rest
        exact ⟨[w + 1], rfl, by simp, by simp, before, by simp [stop]⟩
      · next goOn =>
        obtain ⟨failed, same, signale⟩ := ih rest
        refine ⟨(w + 1) :: failed, by simp [same], ?_, fun semaine listed => ?_, ?_, ?_⟩
        · exact List.pairwise_cons.mpr ⟨fun semaine listed => (signale.semaines semaine listed).1, signale.ordre⟩
        · rcases List.mem_cons.mp listed with rfl | later
          · omega
          · have within := signale.semaines semaine later
            omega
        · simp [signale.echecs, before]
          omega
        · simp [signale.echec, goOn]
    | fatale =>
      cases rest
      exact ⟨[], by simp, .nil, nofun, before, by simp⟩

end Failures

end Runs

end Antares.Solver.Simplexe
