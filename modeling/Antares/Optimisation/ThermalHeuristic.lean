import Antares.Library.InPlace
import Antares.Optimisation.Horizon
import Mathlib.Data.Rat.Floor

/-! The thermal clusters of the weekly problem: what each optimisation of the week restores
from references, and what the heuristics between two optimisations write.
-/

set_option autoImplicit false

namespace Antares.Optimisation

open Library

/-- A cluster: `PALIERS_THERMIQUES` at one index with its hourly arrays. Loading the cluster
keeps `minUpDownTime` between one hour and one week. -/
structure PalierThermique where
  minUpDownTime : Nat
  tailleUnitaireDUnGroupe : Rat
  pminPendantUneHeure : Rat
  pminDUnGroupe : Rat
  puissanceDisponible : Nat → Rat
  puissanceDisponibleRef : Nat → Rat
  puissanceMin : Nat → Rat
  puissanceMinRef : Nat → Rat
  nombreMaxDeGroupesEnMarche : Nat → Int
  nombreMinDeGroupesEnMarche : Nat → Int
  minUpDownTime_pos : 0 < minUpDownTime
  minUpDownTime_le : minUpDownTime ≤ nbHoursInWeek

def zeroPmin : Rat := 1 / 100

def linfiniAntares : Rat := 10 ^ 80

/-- Hours that receive the same number of units, and what this exceeds the guide by. -/
def retenir (nbGrpCourbeGuide : Nat → Int) (nbMx : Int) (hours : List Nat) (state : Int × (Nat → Int)) :
    Int × (Nat → Int) :=
  hours.foldl (fun state hour =>
    (state.1 + (nbMx - nbGrpCourbeGuide hour), Function.update state.2 hour nbMx)) state

/-- The hours of one turn of the `while` loop. -/
def blocAPartirDe (dernierPdt mutEtMdt hour : Nat) : List Nat :=
  List.range' hour (min mutEtMdt (dernierPdt - hour))

/-- The `while` loop, by blocks of `mutEtMdt` hours; it ends because that is not zero. -/
def retenirBlocs (nbGrpCourbeGuide : Nat → Int) (dernierPdt mutEtMdt hour : Nat) (state : Int × (Nat → Int)) :
    Int × (Nat → Int) :=
  if _running : hour < dernierPdt ∧ 0 < mutEtMdt then
    let bloc := blocAPartirDe dernierPdt mutEtMdt hour
    retenirBlocs nbGrpCourbeGuide dernierPdt mutEtMdt (hour + min mutEtMdt (dernierPdt - hour))
      (retenir nbGrpCourbeGuide (runningMax nbGrpCourbeGuide 0 bloc) bloc state)
  else state
termination_by dernierPdt - hour
decreasing_by omega

/-- The hours before the first block and after the last one share one number of units. -/
def heuresDeBord (premierPdt dernierPdt : Nat) : List Nat :=
  List.range premierPdt ++ List.range' dernierPdt (nbHoursInWeek - dernierPdt)

/-- The excess and the numbers of units. Every entry of `NbGrpOpt` is written, so that what it
held before is of no account. -/
def calculerAireMaxPminJour (premierPdt dernierPdt mutEtMdt : Nat) (nbGrpCourbeGuide : Nat → Int) :
    Int × (Nat → Int) :=
  let bord := heuresDeBord premierPdt dernierPdt
  retenirBlocs nbGrpCourbeGuide dernierPdt mutEtMdt premierPdt
    (retenir nbGrpCourbeGuide (runningMax nbGrpCourbeGuide 0 bord) bord (0, fun _ => 0))

theorem retenir_snd (nbGrpCourbeGuide : Nat → Int) (nbMx : Int) (hours : List Nat) (state : Int × (Nat → Int))
    (pdt : Nat) :
    (retenir nbGrpCourbeGuide nbMx hours state).2 pdt = if pdt ∈ hours then nbMx else state.2 pdt := by
  unfold retenir
  induction hours generalizing state with
  | nil => simp
  | cons hour hours ih =>
    rw [List.foldl_cons, ih]
    simp only [List.mem_cons, Function.update_apply]
    by_cases same : pdt = hour <;> simp [same]

theorem mem_blocAPartirDe {dernierPdt mutEtMdt hour pdt : Nat} :
    pdt ∈ blocAPartirDe dernierPdt mutEtMdt hour ↔ hour ≤ pdt ∧ pdt < hour + min mutEtMdt (dernierPdt - hour) := by
  unfold blocAPartirDe
  exact List.mem_range'_1

def blocInterieur (premierPdt dernierPdt mutEtMdt pdt : Nat) : List Nat :=
  blocAPartirDe dernierPdt mutEtMdt (premierPdt + mutEtMdt * ((pdt - premierPdt) / mutEtMdt))

theorem retenirBlocs_snd (nbGrpCourbeGuide : Nat → Int) (dernierPdt : Nat) {mutEtMdt : Nat}
    (positive : 0 < mutEtMdt) (hour : Nat) (state : Int × (Nat → Int)) (pdt : Nat) :
    (retenirBlocs nbGrpCourbeGuide dernierPdt mutEtMdt hour state).2 pdt =
      if hour ≤ pdt ∧ pdt < dernierPdt then
        runningMax nbGrpCourbeGuide 0 (blocInterieur hour dernierPdt mutEtMdt pdt)
      else state.2 pdt := by
  fun_induction retenirBlocs with
  | case1 hour state running bloc ih =>
    rw [ih, retenir_snd]
    by_cases here : pdt < hour + min mutEtMdt (dernierPdt - hour)
    · rw [if_neg (by omega)]
      by_cases after : hour ≤ pdt
      · -- the block that starts here
        have index : (pdt - hour) / mutEtMdt = 0 := Nat.div_eq_of_lt (by omega)
        rw [if_pos (mem_blocAPartirDe.mpr ⟨after, here⟩), if_pos (by omega)]
        simp only [blocInterieur, index, Nat.mul_zero, Nat.add_zero]
        rfl
      · rw [if_neg (by rw [mem_blocAPartirDe]; omega), if_neg (by omega)]
    · rw [if_neg (show ¬ pdt ∈ bloc by rw [mem_blocAPartirDe]; omega)]
      by_cases inside : pdt < dernierPdt
      · -- a later block: the block that starts here is full
        have full : min mutEtMdt (dernierPdt - hour) = mutEtMdt := by omega
        rw [full] at here ⊢
        have index : (pdt - hour) / mutEtMdt = (pdt - (hour + mutEtMdt)) / mutEtMdt + 1 := by
          rw [← Nat.add_div_right _ positive]
          congr 1
          omega
        rw [if_pos (by omega), if_pos (by omega)]
        simp only [blocInterieur, index, Nat.mul_succ]
        congr 2
        omega
      · rw [if_neg (by omega), if_neg (by omega)]
  | case2 hour state stopped => rw [if_neg (by omega)]

def blocDe (premierPdt dernierPdt mutEtMdt pdt : Nat) : List Nat :=
  if premierPdt ≤ pdt ∧ pdt < dernierPdt then blocInterieur premierPdt dernierPdt mutEtMdt pdt
  else heuresDeBord premierPdt dernierPdt

theorem calculerAireMaxPminJour_snd (premierPdt dernierPdt : Nat) {mutEtMdt : Nat} (positive : 0 < mutEtMdt)
    (nbGrpCourbeGuide : Nat → Int) {pdt : Nat} (inWeek : pdt < nbHoursInWeek) :
    (calculerAireMaxPminJour premierPdt dernierPdt mutEtMdt nbGrpCourbeGuide).2 pdt =
      runningMax nbGrpCourbeGuide 0 (blocDe premierPdt dernierPdt mutEtMdt pdt) := by
  unfold calculerAireMaxPminJour blocDe
  rw [retenirBlocs_snd _ _ positive]
  split_ifs with inside
  · rfl
  · have bord : pdt ∈ heuresDeBord premierPdt dernierPdt := by
      simp only [heuresDeBord, List.mem_append, List.mem_range, List.mem_range'_1]
      omega
    rw [retenir_snd, if_pos bord]

def intervalleDAjustement (mutEtMdt : Nat) : Nat := min mutEtMdt (nbHoursInWeek - mutEtMdt)

/-- `DernierPdt` for a shift of the blocks. -/
def dernierPdt (mutEtMdt hour : Nat) : Nat := nbHoursInWeek - intervalleDAjustement mutEtMdt + hour

def decalageOptimal (mutEtMdt : Nat) (nbGrpCourbeGuide : Nat → Int) : Option Nat :=
  let (_, iOpt) := (List.range (intervalleDAjustement mutEtMdt + 1)).foldl
    (fun (state : Rat × Option Nat) hour =>
      let ecart := (calculerAireMaxPminJour hour (dernierPdt mutEtMdt hour) mutEtMdt nbGrpCourbeGuide).1
      if ecart < state.1 then ((ecart : Rat), some hour) else state)
    (linfiniAntares, none)
  iOpt

namespace PalierThermique

variable (palier : PalierThermique)

/-- The units that the production of the first optimisation takes in an hour. -/
def nbGrpCourbeGuide (productionThermique : Nat → Rat) (pdt : Nat) : Int :=
  let p := productionThermique pdt
  if |p| < zeroPmin then 0
  else if zeroPmin < palier.tailleUnitaireDUnGroupe then ⌈p / palier.tailleUnitaireDUnGroupe⌉
  else ⌈p⌉

/-- The minimum power of an hour, raised to that of the units kept and capped. -/
def pminReleve (nbGrpOpt : Nat → Int) (pdt : Nat) : Rat :=
  let releve :=
    if palier.puissanceMin pdt < palier.pminPendantUneHeure * nbGrpOpt pdt then
      palier.pminPendantUneHeure * nbGrpOpt pdt
    else palier.puissanceMin pdt
  if palier.puissanceDisponible pdt < releve then palier.puissanceDisponible pdt else releve

/-- `OPT_CalculerLesPminThermiquesEnFonctionDeMUTetMDT` for one cluster. -/
def calculerLesPmin (productionThermique : Nat → Rat) : PalierThermique :=
  if |palier.pminPendantUneHeure| < zeroPmin then palier
  else
    let guide := palier.nbGrpCourbeGuide productionThermique
    match decalageOptimal palier.minUpDownTime guide with
    | none => palier
    | some iOpt =>
      let nbGrpOpt := (calculerAireMaxPminJour iOpt (dernierPdt palier.minUpDownTime iOpt)
        palier.minUpDownTime guide).2
      { palier with puissanceMin := palier.pminReleve nbGrpOpt }

/-- `OPT_AjusterLeNombreMinDeGroupesDemarresCoutsDeDemarrage` for one cluster, outside the
expansion mode and without integer variables. The auxiliary linear problem may have no
solution, and the rounded numbers then stay. -/
def ajusterLeNombreMinDeGroupes (nombreDeGroupesEnMarche : Nat → Rat) (auxiliaire : Option (Nat → Rat)) :
    PalierThermique :=
  let nombreMin : Nat → Int := fun pdt => ⌈auxiliaire.getD nombreDeGroupesEnMarche pdt⌉
  let nombreMax : Nat → Int := fun pdt => max (palier.nombreMaxDeGroupesEnMarche pdt) (nombreMin pdt)
  { palier with
    nombreMinDeGroupesEnMarche := nombreMin
    nombreMaxDeGroupesEnMarche := nombreMax
    puissanceDisponible := fun pdt =>
      if palier.puissanceDisponible pdt < palier.pminDUnGroupe * nombreMax pdt then
        palier.pminDUnGroupe * nombreMax pdt
      else palier.puissanceDisponible pdt }

/-- `OPT_InitialiserLesPminHebdo`: the references are whatever the minimum powers are now. -/
def initialiserLesPminHebdo : PalierThermique := { palier with puissanceMinRef := palier.puissanceMin }

/-- `OPT_InitialiserNombreMinEtMaxDeGroupesCoutsDeDemarrage` -/
def initialiserNombreMinEtMaxDeGroupes : PalierThermique :=
  let nombre (puissance : Nat → Rat) (pdt : Nat) : Int :=
    if palier.tailleUnitaireDUnGroupe ≠ 0 then ⌈puissance pdt / palier.tailleUnitaireDUnGroupe⌉ else 0
  { palier with
    nombreMaxDeGroupesEnMarche := nombre palier.puissanceDisponibleRef
    nombreMinDeGroupesEnMarche := nombre palier.puissanceMinRef }

/-- The thermal part of `OPT_RestaurerLesDonnees`. -/
def restaurer : PalierThermique :=
  let bornes (pdt : Nat) : Rat × Rat :=
    let pmin := palier.puissanceMinRef pdt
    let disponible := palier.puissanceDisponibleRef pdt
    if disponible < pmin then
      if palier.puissanceDisponibleRef pdt < pmin then
        (palier.puissanceDisponibleRef pdt, palier.puissanceDisponibleRef pdt)
      else (pmin, pmin)
    else (pmin, disponible)
  { palier with
    puissanceMin := fun pdt => (bornes pdt).1
    puissanceDisponible := fun pdt => (bornes pdt).2 }

/-- What one call of the solver prepares, up to the construction of the problem. -/
def preparer (ucMode : UnitCommitmentMode) : PalierThermique :=
  let palier := palier.initialiserLesPminHebdo
  let palier :=
    if ucMode.optimisationAvecCoutsDeDemarrage then palier.initialiserNombreMinEtMaxDeGroupes else palier
  palier.restaurer

section
variable {palier} (ucMode : UnitCommitmentMode)

@[simp]
theorem preparer_minUpDownTime : (palier.preparer ucMode).minUpDownTime = palier.minUpDownTime := by
  cases ucMode <;> rfl

@[simp]
theorem preparer_tailleUnitaireDUnGroupe :
    (palier.preparer ucMode).tailleUnitaireDUnGroupe = palier.tailleUnitaireDUnGroupe := by
  cases ucMode <;> rfl

@[simp]
theorem preparer_pminPendantUneHeure :
    (palier.preparer ucMode).pminPendantUneHeure = palier.pminPendantUneHeure := by
  cases ucMode <;> rfl

theorem restaurer_puissanceMin :
    palier.restaurer.puissanceMin = fun pdt => min (palier.puissanceMinRef pdt) (palier.puissanceDisponibleRef pdt) := by
  funext pdt
  unfold restaurer
  dsimp only
  split_ifs with below
  · exact (min_eq_right below.le).symm
  · exact (min_eq_left (not_lt.mp below)).symm

/-- Restoring gives back the reference in every case: the branch that raises the available power
to the minimum power is undone at once. -/
theorem restaurer_puissanceDisponible : palier.restaurer.puissanceDisponible = palier.puissanceDisponibleRef := by
  funext pdt
  unfold restaurer
  dsimp only
  split_ifs <;> rfl

@[simp]
theorem preparer_puissanceMin (pdt : Nat) :
    (palier.preparer ucMode).puissanceMin pdt =
      min (palier.puissanceMin pdt) (palier.puissanceDisponibleRef pdt) := by
  unfold preparer
  rw [restaurer_puissanceMin]
  cases ucMode <;> rfl

@[simp]
theorem preparer_puissanceDisponible :
    (palier.preparer ucMode).puissanceDisponible = palier.puissanceDisponibleRef := by
  unfold preparer
  rw [restaurer_puissanceDisponible]
  cases ucMode <;> rfl

end

/-- `NbMin` and `NbMax` when start-up costs are in the problem. -/
def nombreDeGroupes (puissance : Nat → Rat) (pdt : Nat) : Int :=
  if palier.tailleUnitaireDUnGroupe ≠ 0 then ⌈puissance pdt / palier.tailleUnitaireDUnGroupe⌉ else 0

theorem preparer_nombreMax (ucMode : UnitCommitmentMode) :
    (palier.preparer ucMode).nombreMaxDeGroupesEnMarche =
      if ucMode.optimisationAvecCoutsDeDemarrage then palier.nombreDeGroupes palier.puissanceDisponibleRef
      else palier.nombreMaxDeGroupesEnMarche := by
  cases ucMode <;> rfl

theorem preparer_nombreMin (ucMode : UnitCommitmentMode) :
    (palier.preparer ucMode).nombreMinDeGroupesEnMarche =
      if ucMode.optimisationAvecCoutsDeDemarrage then palier.nombreDeGroupes palier.puissanceMin
      else palier.nombreMinDeGroupesEnMarche := by
  cases ucMode <;> rfl

structure Solution where
  productionThermique : Nat → Rat
  nombreDeGroupesEnMarche : Nat → Rat
  auxiliaire : Option (Nat → Rat)

/-- `runThermalHeuristic` -/
def runThermalHeuristic (ucMode : UnitCommitmentMode) (solution : Solution) : PalierThermique :=
  if ucMode.optimisationAvecCoutsDeDemarrage then
    palier.ajusterLeNombreMinDeGroupes solution.nombreDeGroupesEnMarche solution.auxiliaire
  else palier.calculerLesPmin solution.productionThermique

/-- A solved step, from what was prepared: the heuristic is run before a second optimisation. -/
def apresUnPas (ucMode : UnitCommitmentMode) (expansion : Bool) (solution : Solution) : PalierThermique :=
  if !expansion && !ucMode.optimisationAvecVariablesEntieres then
    palier.runThermalHeuristic ucMode solution
  else palier

structure SameData (first second : PalierThermique) : Prop where
  puissanceMin : ∀ pdt < nbHoursInWeek, second.puissanceMin pdt = first.puissanceMin pdt
  puissanceDisponible : ∀ pdt < nbHoursInWeek, second.puissanceDisponible pdt = first.puissanceDisponible pdt
  nombreMin : ∀ pdt < nbHoursInWeek,
    second.nombreMinDeGroupesEnMarche pdt = first.nombreMinDeGroupesEnMarche pdt
  nombreMax : ∀ pdt < nbHoursInWeek,
    second.nombreMaxDeGroupesEnMarche pdt = first.nombreMaxDeGroupesEnMarche pdt

structure Renseigne : Prop where
  disponible : palier.puissanceDisponible = palier.puissanceDisponibleRef
  pmin_le : ∀ pdt, palier.puissanceMin pdt ≤ palier.puissanceDisponibleRef pdt

/-- The solution never asks an hour with room above its minimum power for more: the units that
the most demanding hour of its block takes do not need more than that minimum. -/
def PminKept (productionThermique : Nat → Rat) : Prop :=
  zeroPmin ≤ |palier.pminPendantUneHeure| →
    ∀ decalage ∈ decalageOptimal palier.minUpDownTime (palier.nbGrpCourbeGuide productionThermique),
      ∀ pdt < nbHoursInWeek, palier.puissanceMin pdt < palier.puissanceDisponible pdt →
        palier.pminPendantUneHeure * runningMax (palier.nbGrpCourbeGuide productionThermique) 0
          (blocDe decalage (dernierPdt palier.minUpDownTime decalage) palier.minUpDownTime pdt) ≤
            palier.puissanceMin pdt

section
variable {palier}

theorem pminReleve_eq_iff (nbGrpOpt : Nat → Int) {pdt : Nat}
    (bounded : palier.puissanceMin pdt ≤ palier.puissanceDisponible pdt) :
    palier.pminReleve nbGrpOpt pdt = palier.puissanceMin pdt ↔
      (palier.puissanceMin pdt < palier.puissanceDisponible pdt →
        palier.pminPendantUneHeure * nbGrpOpt pdt ≤ palier.puissanceMin pdt) := by
  unfold pminReleve
  dsimp only
  split_ifs with above capped capped <;> grind

theorem calculerLesPmin_puissanceMin_iff (productionThermique : Nat → Rat)
    (bounded : ∀ pdt, palier.puissanceMin pdt ≤ palier.puissanceDisponible pdt) :
    (∀ pdt < nbHoursInWeek,
      (palier.calculerLesPmin productionThermique).puissanceMin pdt = palier.puissanceMin pdt) ↔
      palier.PminKept productionThermique := by
  unfold calculerLesPmin PminKept
  split_ifs with small
  · simp [not_le.mpr small]
  · simp only [not_lt.mp small, true_implies]
    cases decalageOptimal palier.minUpDownTime (palier.nbGrpCourbeGuide productionThermique) with
    | none => simp
    | some decalage =>
      simp only [Option.mem_some_iff, forall_eq']
      apply forall₂_congr
      intro pdt inWeek
      rw [pminReleve_eq_iff _ (bounded pdt),
        calculerAireMaxPminJour_snd _ _ palier.minUpDownTime_pos _ inWeek]

variable (palier) in
theorem calculerLesPmin_frame (productionThermique : Nat → Rat) :
    (palier.calculerLesPmin productionThermique).puissanceDisponibleRef = palier.puissanceDisponibleRef ∧
    (palier.calculerLesPmin productionThermique).tailleUnitaireDUnGroupe = palier.tailleUnitaireDUnGroupe ∧
    (palier.calculerLesPmin productionThermique).nombreMinDeGroupesEnMarche =
      palier.nombreMinDeGroupesEnMarche ∧
    (palier.calculerLesPmin productionThermique).nombreMaxDeGroupesEnMarche =
      palier.nombreMaxDeGroupesEnMarche := by
  unfold calculerLesPmin
  split_ifs
  · exact ⟨rfl, rfl, rfl, rfl⟩
  · dsimp only
    split <;> exact ⟨rfl, rfl, rfl, rfl⟩

theorem calculerLesPmin_le (productionThermique : Nat → Rat)
    (bounded : ∀ pdt, palier.puissanceMin pdt ≤ palier.puissanceDisponible pdt) (pdt : Nat) :
    (palier.calculerLesPmin productionThermique).puissanceMin pdt ≤ palier.puissanceDisponible pdt := by
  unfold calculerLesPmin
  split_ifs
  · exact bounded pdt
  · dsimp only
    split
    · exact bounded pdt
    · change palier.pminReleve _ pdt ≤ _
      unfold pminReleve
      dsimp only
      split_ifs with _ _ capped
      · exact le_rfl
      · exact not_lt.mp ‹_›
      · exact le_rfl
      · exact not_lt.mp capped

theorem le_calculerLesPmin (productionThermique : Nat → Rat)
    (bounded : ∀ pdt, palier.puissanceMin pdt ≤ palier.puissanceDisponible pdt) (pdt : Nat) :
    palier.puissanceMin pdt ≤ (palier.calculerLesPmin productionThermique).puissanceMin pdt := by
  unfold calculerLesPmin
  split_ifs
  · exact le_rfl
  · dsimp only
    split
    · exact le_rfl
    · change _ ≤ palier.pminReleve _ pdt
      unfold pminReleve
      dsimp only
      split_ifs with above
      · exact bounded pdt
      · exact above.le
      · exact bounded pdt
      · exact le_rfl

theorem calculerLesPmin_puissanceDisponible (productionThermique : Nat → Rat) :
    (palier.calculerLesPmin productionThermique).puissanceDisponible = palier.puissanceDisponible := by
  unfold calculerLesPmin
  split_ifs
  · rfl
  · dsimp only
    split <;> rfl

theorem Renseigne.preparer_puissanceMin (renseigne : palier.Renseigne) (ucMode : UnitCommitmentMode) :
    (palier.preparer ucMode).puissanceMin = palier.puissanceMin := by
  funext pdt
  rw [PalierThermique.preparer_puissanceMin, min_eq_left (renseigne.pmin_le pdt)]

theorem preparer_apresUnPas {ucMode : UnitCommitmentMode} (expansion : Bool) (solution : Solution)
    (accurate : ucMode ≠ .ucHeuristicFast ∨ expansion = true) (renseigne : palier.Renseigne) :
    SameData (palier.preparer ucMode)
      (((palier.preparer ucMode).apresUnPas ucMode expansion solution).preparer ucMode) := by
  have pmin := renseigne.preparer_puissanceMin ucMode
  have after : ((palier.preparer ucMode).apresUnPas ucMode expansion solution).puissanceMin =
        palier.puissanceMin ∧
      ((palier.preparer ucMode).apresUnPas ucMode expansion solution).puissanceDisponibleRef =
        palier.puissanceDisponibleRef ∧
      ((palier.preparer ucMode).apresUnPas ucMode expansion solution).tailleUnitaireDUnGroupe =
        palier.tailleUnitaireDUnGroupe ∧
      (ucMode = .ucHeuristicFast →
        (palier.preparer ucMode).apresUnPas ucMode expansion solution = palier.preparer ucMode) := by
    unfold apresUnPas runThermalHeuristic
    cases ucMode with
    | ucHeuristicFast =>
      obtain rfl : expansion = true := accurate.resolve_left (fun other => other rfl)
      exact ⟨pmin, rfl, rfl, fun _ => rfl⟩
    | ucHeuristicAccurate =>
      cases expansion with
      | true => exact ⟨pmin, rfl, rfl, nofun⟩
      | false => exact ⟨pmin, rfl, rfl, nofun⟩
    | ucMILP =>
      cases expansion with
      | true => exact ⟨pmin, rfl, rfl, nofun⟩
      | false => exact ⟨pmin, rfl, rfl, nofun⟩
  obtain ⟨afterMin, afterRef, afterTaille, fast⟩ := after
  constructor
  · intro pdt _
    rw [preparer_puissanceMin, afterMin, afterRef, pmin, min_eq_left (renseigne.pmin_le pdt)]
  · intro pdt _
    rw [preparer_puissanceDisponible, afterRef, preparer_puissanceDisponible]
  · intro pdt _
    rw [preparer_nombreMin, preparer_nombreMin]
    split_ifs with startUp
    · simp only [nombreDeGroupes, afterMin, afterTaille]
    · rw [fast (by simpa [UnitCommitmentMode.optimisationAvecCoutsDeDemarrage] using startUp),
        preparer_nombreMin, if_neg startUp]
  · intro pdt _
    rw [preparer_nombreMax, preparer_nombreMax]
    split_ifs with startUp
    · simp only [nombreDeGroupes, afterRef, afterTaille]
    · rw [fast (by simpa [UnitCommitmentMode.optimisationAvecCoutsDeDemarrage] using startUp),
        preparer_nombreMax, if_neg startUp]

theorem pminKept_preparer_iff (ucMode : UnitCommitmentMode) (renseigne : palier.Renseigne)
    (productionThermique : Nat → Rat) :
    (palier.preparer ucMode).PminKept productionThermique ↔ palier.PminKept productionThermique := by
  have pmin := renseigne.preparer_puissanceMin ucMode
  have guide : (palier.preparer ucMode).nbGrpCourbeGuide productionThermique =
      palier.nbGrpCourbeGuide productionThermique := by
    funext pdt
    simp only [nbGrpCourbeGuide, preparer_tailleUnitaireDUnGroupe]
  unfold PminKept
  rw [guide, pmin, preparer_puissanceDisponible, preparer_pminPendantUneHeure, preparer_minUpDownTime,
    renseigne.disponible]

theorem sameData_preparer_iff (ucMode : UnitCommitmentMode) (expansion : Bool) (solution : Solution)
    (renseigne : palier.Renseigne) :
    SameData (palier.preparer ucMode)
        (((palier.preparer ucMode).apresUnPas ucMode expansion solution).preparer ucMode) ↔
      (ucMode = .ucHeuristicFast → expansion = false → palier.PminKept solution.productionThermique) := by
  by_cases fast : ucMode = .ucHeuristicFast ∧ expansion = false
  · obtain ⟨rfl, rfl⟩ := fast
    have ran : (palier.preparer .ucHeuristicFast).apresUnPas .ucHeuristicFast false solution =
        (palier.preparer .ucHeuristicFast).calculerLesPmin solution.productionThermique := rfl
    have bounded (pdt : Nat) : (palier.preparer .ucHeuristicFast).puissanceMin pdt ≤
        (palier.preparer .ucHeuristicFast).puissanceDisponible pdt := by
      rw [preparer_puissanceMin, preparer_puissanceDisponible]
      exact min_le_right _ _
    obtain ⟨ref, -, nombreMin, nombreMax⟩ :=
      calculerLesPmin_frame (palier.preparer .ucHeuristicFast) solution.productionThermique
    have restored (pdt : Nat) :
        (((palier.preparer .ucHeuristicFast).calculerLesPmin solution.productionThermique).preparer
          .ucHeuristicFast).puissanceMin pdt =
        ((palier.preparer .ucHeuristicFast).calculerLesPmin solution.productionThermique).puissanceMin pdt := by
      rw [preparer_puissanceMin, ref]
      apply min_eq_left
      have capped := calculerLesPmin_le solution.productionThermique bounded pdt
      rwa [preparer_puissanceDisponible] at capped
    rw [ran, ← pminKept_preparer_iff .ucHeuristicFast renseigne,
      ← calculerLesPmin_puissanceMin_iff _ bounded]
    constructor
    · intro same _ _ pdt inWeek
      rw [← restored]
      exact same.puissanceMin pdt inWeek
    · intro kept
      constructor
      · intro pdt inWeek
        rw [restored]
        exact kept rfl rfl pdt inWeek
      · intro pdt _
        rw [preparer_puissanceDisponible, ref, preparer_puissanceDisponible]
        rfl
      · intro pdt _
        exact congrFun nombreMin pdt
      · intro pdt _
        exact congrFun nombreMax pdt
  · have accurate : ucMode ≠ .ucHeuristicFast ∨ expansion = true := by
      cases expansion with
      | true => exact .inr rfl
      | false => exact .inl fun mode => fast ⟨mode, rfl⟩
    constructor
    · intro _ mode kept
      exact absurd ⟨mode, kept⟩ fast
    · intro _
      exact preparer_apresUnPas expansion solution accurate renseigne

end

end PalierThermique

end Antares.Optimisation
