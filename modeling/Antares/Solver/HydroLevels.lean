import Antares.Data.Calendar
import Antares.Library.CappedSums
import Antares.Optimisation.Horizon
import Mathlib.Algebra.BigOperators.Ring.Finset
import Mathlib.Tactic.FieldSimp
import Mathlib.Tactic.Linarith
import Mathlib.Tactic.Ring

/-! The levels of a managed reservoir over the weeks of a year: the pass over the hours of a
week, which repays a deficit from the inflows of the next hour, and the level handed from one
week to the next as a percentage of the capacity.
-/

set_option autoImplicit false

namespace Antares.Solver

open Data Library Optimisation

structure HydroDuPays where
  reservoirCapacity : Rat
  reservoirCapacity_pos : 0 < reservoirCapacity
  pumpingEfficiency : Rat
  presenceDHydrauliqueModulable : Bool
  /-- The column of natural inflows of the year, by day. -/
  storage : Nat → Rat
  /-- An area with inflows has modulable hydro. -/
  storage_absent : presenceDHydrauliqueModulable = false → ∀ day, storage day = 0

/-- The hourly generation and pumping that the optimisation of a week returns. -/
structure SemaineHydro (hydro : HydroDuPays) where
  pasDeTempsDebut : Nat
  turbinage : Nat → Rat
  pompage : Nat → Rat
  turbinage_absent : hydro.presenceDHydrauliqueModulable = false → ∀ pdt, turbinage pdt = 0
  pompage_absent : hydro.presenceDHydrauliqueModulable = false → ∀ pdt, pompage pdt = 0

/-- What a weekly problem keeps for an area, from one week to the next. -/
structure EtatHydro where
  apportNaturelHoraire : Nat → Rat
  debordementsHoraires : Nat → Rat
  /-- In percent of the capacity. -/
  niveauxHoraires : Nat → Rat
  niveauInitialReservoir : Rat
  previousSimulationFinalLevel : Rat

/-- The weekly problem when it is allocated, with the level that the year starts from. -/
def EtatHydro.alloue (initialLevel : Rat) : EtatHydro := ⟨fun _ => 0, fun _ => 0, fun _ => 0, 0, initialLevel⟩

/-- `computeTimeStepLevel` -/
structure ComputeTimeStepLevel where
  step : Nat
  level : Rat
  inflows : Nat → Rat
  ovf : Nat → Rat
  excessDown : Rat

section Pass
variable (capacity pumpRatio : Rat) (turb pump : Nat → Rat)

variable (compute : ComputeTimeStepLevel)

def ComputeTimeStepLevel.run : ComputeTimeStepLevel :=
  let level := compute.level + compute.inflows compute.step - turb compute.step + pumpRatio * pump compute.step
  let compute := { compute with excessDown := 0, level := level }
  let compute :=
    if capacity < compute.level then
      { compute with
        ovf := Function.update compute.ovf compute.step (compute.level - capacity)
        level := capacity }
    else compute
  if compute.level < 0 then
    let excessDown := -compute.level
    { compute with
      excessDown := excessDown
      level := 0
      inflows := Function.update compute.inflows compute.step (compute.inflows compute.step + excessDown) }
  else compute

def ComputeTimeStepLevel.prepareNextStep : ComputeTimeStepLevel :=
  let step := compute.step + 1
  { compute with
    step := step
    inflows := Function.update compute.inflows step (compute.inflows step - compute.excessDown) }

def hoursBeforeLast (compute : ComputeTimeStepLevel) (niv : Nat → Rat) : Nat → ComputeTimeStepLevel × (Nat → Rat)
  | 0 => (compute, niv)
  | hours + 1 =>
    let before := hoursBeforeLast compute niv hours
    let compute := before.1.run capacity pumpRatio turb pump
    (compute.prepareNextStep, Function.update before.2 hours (compute.level * 100 / capacity))

/-- What the hours of a week bring to the reservoir, before any is full or empty. -/
def apportNet (inflows : Nat → Rat) (pdt : Nat) : Rat := inflows pdt - turb pdt + pumpRatio * pump pdt

/-- The pass after that many hours: its level and what it owes are the two sides of the sum of
what came in, cut at the capacity. -/
structure ComputeTimeStepLevel.After (start : Rat) (inflows : Nat → Rat) (hours : Nat)
    (compute : ComputeTimeStepLevel) : Prop where
  step : compute.step = hours
  level : compute.level = max 0 (cappedSum capacity start (apportNet pumpRatio turb pump inflows) hours)
  excessDown : compute.excessDown = deficit (cappedSum capacity start (apportNet pumpRatio turb pump inflows) hours)
  inflows_before : ∀ pdt < hours, compute.inflows pdt = inflows pdt -
    deficit (cappedSum capacity start (apportNet pumpRatio turb pump inflows) pdt) +
    deficit (cappedSum capacity start (apportNet pumpRatio turb pump inflows) (pdt + 1))
  inflows_now : compute.inflows hours = inflows hours - compute.excessDown
  inflows_later : ∀ pdt, hours < pdt → compute.inflows pdt = inflows pdt
  ovf_before : ∀ pdt < hours, compute.ovf pdt = cutOff capacity start (apportNet pumpRatio turb pump inflows) pdt
  ovf_later : ∀ pdt, hours ≤ pdt → pdt < nbHoursInWeek → compute.ovf pdt = 0

variable {capacity pumpRatio turb pump} {start : Rat} {inflows : Nat → Rat} {hours : Nat}
  {compute : ComputeTimeStepLevel}

structure ComputeTimeStepLevel.Ran (capacity pumpRatio : Rat) (turb pump : Nat → Rat) (start : Rat)
    (inflows : Nat → Rat) (hours : Nat) (compute : ComputeTimeStepLevel) : Prop where
  step : compute.step = hours
  level : compute.level = max 0 (cappedSum capacity start (apportNet pumpRatio turb pump inflows) (hours + 1))
  excessDown :
    compute.excessDown = deficit (cappedSum capacity start (apportNet pumpRatio turb pump inflows) (hours + 1))
  inflows_before : ∀ pdt < hours + 1, compute.inflows pdt = inflows pdt -
    deficit (cappedSum capacity start (apportNet pumpRatio turb pump inflows) pdt) +
    deficit (cappedSum capacity start (apportNet pumpRatio turb pump inflows) (pdt + 1))
  inflows_later : ∀ pdt, hours < pdt → compute.inflows pdt = inflows pdt
  ovf_before : ∀ pdt < hours + 1,
    compute.ovf pdt = cutOff capacity start (apportNet pumpRatio turb pump inflows) pdt
  ovf_later : ∀ pdt, hours + 1 ≤ pdt → pdt < nbHoursInWeek → compute.ovf pdt = 0

theorem ComputeTimeStepLevel.After.run (positive : 0 < capacity)
    (after : compute.After capacity pumpRatio turb pump start inflows hours) (inWeek : hours < nbHoursInWeek) :
    Ran capacity pumpRatio turb pump start inflows hours (compute.run capacity pumpRatio turb pump) := by
  obtain ⟨step, level, excessDown, earlierInflows, now, later, before, free⟩ := after
  set sums := cappedSum capacity start (apportNet pumpRatio turb pump inflows) with sums_def
  have reached : compute.level + compute.inflows compute.step - turb compute.step + pumpRatio * pump compute.step =
      sums hours + apportNet pumpRatio turb pump inflows hours := by
    rw [step, level, now, excessDown, apportNet]
    linarith [level_sub_deficit (sums hours)]
  have next : sums (hours + 1) = min capacity (sums hours + apportNet pumpRatio turb pump inflows hours) := rfl
  have cut : cutOff capacity start (apportNet pumpRatio turb pump inflows) hours =
      max 0 (sums hours + apportNet pumpRatio turb pump inflows hours - capacity) := rfl
  have kept (pdt : Nat) (earlier : pdt < hours + 1) (apart : pdt ≠ hours) : pdt < hours := by omega
  -- without a deficit of its own, the hour only pays that of the hour before
  have unpaid (none : deficit (sums (hours + 1)) = 0) (pdt : Nat) (earlier : pdt < hours + 1) :
      compute.inflows pdt = inflows pdt - deficit (sums pdt) + deficit (sums (pdt + 1)) := by
    by_cases same : pdt = hours
    · rw [same, now, excessDown, none, add_zero]
    · exact earlierInflows pdt (kept pdt earlier same)
  unfold ComputeTimeStepLevel.run
  simp only [reached]
  rcases lt_or_ge capacity (sums hours + apportNet pumpRatio turb pump inflows hours) with full | room
  · have stays : sums (hours + 1) = capacity := by rw [next, min_eq_left full.le]
    simp only [if_pos full, if_neg positive.not_gt]
    -- the level is cut to the capacity and the rest overflows
    have none : deficit (sums (hours + 1)) = 0 := by rw [stays, deficit_eq_zero_iff.2 positive.le]
    refine ⟨step, ?_, none.symm, unpaid none, later, fun pdt earlier => ?_, fun pdt above small => ?_⟩
    · change capacity = max 0 (sums (hours + 1))
      rw [stays, max_eq_right positive.le]
    · dsimp only
      by_cases same : pdt = hours
      · rw [same, step, Function.update_self, cut, max_eq_right (sub_nonneg.2 full.le)]
      · rw [step, Function.update_of_ne same, before pdt (kept pdt earlier same)]
    · dsimp only
      rw [step, Function.update_of_ne (by omega), free pdt (by omega) small]
  · have grows : sums (hours + 1) = sums hours + apportNet pumpRatio turb pump inflows hours := by
      rw [next, min_eq_right room]
    have uncut (pdt : Nat) (earlier : pdt < hours + 1) :
        compute.ovf pdt = cutOff capacity start (apportNet pumpRatio turb pump inflows) pdt := by
      by_cases same : pdt = hours
      · rw [same, cut, max_eq_left (sub_nonpos.2 room), free hours le_rfl inWeek]
      · exact before pdt (kept pdt earlier same)
    have below : ¬ capacity < sums (hours + 1) := by rwa [grows, not_lt]
    simp only [← grows, if_neg below]
    rcases lt_or_ge (sums (hours + 1)) 0 with short | enough
    · -- The deficit is put back in this hour and owed to the next one.
      simp only [if_pos short]
      have owed : -sums (hours + 1) = deficit (sums (hours + 1)) := by
        rw [deficit, max_eq_right (neg_nonneg.2 short.le)]
      refine ⟨step, ?_, owed, fun pdt earlier => ?_, fun pdt above => ?_, uncut,
        fun pdt above small => free pdt (by omega) small⟩
      · change 0 = max 0 (sums (hours + 1))
        rw [max_eq_left short.le]
      · dsimp only
        by_cases same : pdt = hours
        · rw [same, step, Function.update_self, now, excessDown, owed]
        · rw [step, Function.update_of_ne same]
          exact earlierInflows pdt (kept pdt earlier same)
      · dsimp only
        rw [step, Function.update_of_ne (by omega), later pdt above]
    · simp only [if_neg enough.not_gt]
      have none : deficit (sums (hours + 1)) = 0 := deficit_eq_zero_iff.2 enough
      refine ⟨step, ?_, none.symm, unpaid none, later, uncut, fun pdt above small => free pdt (by omega) small⟩
      change sums (hours + 1) = max 0 (sums (hours + 1))
      rw [max_eq_right enough]

theorem ComputeTimeStepLevel.Ran.prepareNextStep
    (ran : compute.Ran capacity pumpRatio turb pump start inflows hours) :
    compute.prepareNextStep.After capacity pumpRatio turb pump start inflows (hours + 1) := by
  obtain ⟨step, level, excessDown, earlierInflows, later, before, free⟩ := ran
  refine ⟨congrArg Nat.succ step, level, excessDown, fun pdt earlier => ?_, ?_, fun pdt above => ?_, before, free⟩
  · simp only [ComputeTimeStepLevel.prepareNextStep, step]
    rw [Function.update_of_ne (by omega), earlierInflows pdt earlier]
  · simp only [ComputeTimeStepLevel.prepareNextStep, step, Function.update_self, later (hours + 1) hours.lt_succ_self]
  · simp only [ComputeTimeStepLevel.prepareNextStep, step]
    rw [Function.update_of_ne (by omega), later pdt (by omega)]

theorem hoursBeforeLast_after (positive : 0 < capacity) {niv : Nat → Rat}
    (started : compute.After capacity pumpRatio turb pump start inflows 0) (inWeek : hours ≤ nbHoursInWeek) :
    (hoursBeforeLast capacity pumpRatio turb pump compute niv hours).1.After capacity pumpRatio turb pump start
        inflows hours ∧
      ∀ pdt < hours, (hoursBeforeLast capacity pumpRatio turb pump compute niv hours).2 pdt =
        max 0 (cappedSum capacity start (apportNet pumpRatio turb pump inflows) (pdt + 1)) * 100 / capacity := by
  induction hours with
  | zero => exact ⟨started, fun pdt none => absurd none pdt.not_lt_zero⟩
  | succ hours ih =>
    obtain ⟨after, written⟩ := ih (by omega)
    have ran := after.run positive (by omega)
    refine ⟨ran.prepareNextStep, fun pdt earlier => ?_⟩
    simp only [hoursBeforeLast]
    by_cases last : pdt = hours
    · rw [last, Function.update_self, ran.level]
    · rw [Function.update_of_ne last, written pdt (by omega)]

end Pass

section Week
variable (calendar : Calendar) (hydro : HydroDuPays) (semaine : SemaineHydro hydro)

variable {hydro} in
def SemaineHydro.srcinflows (jour : Nat) : Rat :=
  hydro.storage (calendar.hours (semaine.pasDeTempsDebut + jour * 24)).dayYear

variable (etat : EtatHydro)

/-- The part of `SIM_RenseignementProblemeHebdo` about levels and inflows, which stops the
simulation at a level outside the reservoir. -/
def renseignerHydro : Option EtatHydro :=
  let nivInit := etat.previousSimulationFinalLevel
  if nivInit < 0 ∨ hydro.reservoirCapacity < nivInit then none
  else some { etat with
    niveauInitialReservoir := nivInit
    apportNaturelHoraire :=
      if hydro.presenceDHydrauliqueModulable then fun pdt => semaine.srcinflows calendar (pdt / 24) / 24
      else etat.apportNaturelHoraire }

def initialiserLesDebordements : EtatHydro :=
  { etat with
    debordementsHoraires := fun pdt => if pdt < nbHoursInWeek then 0 else etat.debordementsHoraires pdt }

def computingHydroLevels : EtatHydro :=
  let computeLvlObj : ComputeTimeStepLevel :=
    { step := 0
      level := etat.niveauInitialReservoir
      inflows := etat.apportNaturelHoraire
      ovf := etat.debordementsHoraires
      excessDown := 0 }
  let before := hoursBeforeLast hydro.reservoirCapacity hydro.pumpingEfficiency semaine.turbinage semaine.pompage
    computeLvlObj etat.niveauxHoraires (nbHoursInWeek - 1)
  let last := before.1.run hydro.reservoirCapacity hydro.pumpingEfficiency semaine.turbinage semaine.pompage
  { etat with
    apportNaturelHoraire := last.inflows
    debordementsHoraires := last.ovf
    niveauxHoraires := Function.update before.2 (nbHoursInWeek - 1) (last.level * 100 / hydro.reservoirCapacity) }

def updatingWeeklyFinalHydroLevel : EtatHydro :=
  { etat with
    previousSimulationFinalLevel := etat.niveauxHoraires (nbHoursInWeek - 1) * hydro.reservoirCapacity / 100 }

def semaineSuivante : Option EtatHydro :=
  (renseignerHydro calendar hydro semaine etat).map fun etat =>
    updatingWeeklyFinalHydroLevel hydro (computingHydroLevels hydro semaine (initialiserLesDebordements etat))

def parcourirLesSemaines : List (SemaineHydro hydro) → EtatHydro → Option (List (SemaineHydro hydro × EtatHydro))
  | [], _ => some []
  | semaine :: semaines, etat =>
    (semaineSuivante calendar hydro semaine etat).bind fun etat =>
      (parcourirLesSemaines semaines etat).map fun suite => (semaine, etat) :: suite

end Week

section WaterLaw
variable {calendar : Calendar} {hydro : HydroDuPays} {semaine : SemaineHydro hydro} {etat suivant : EtatHydro}

variable (calendar) in
def SemaineHydro.naturel (semaine : SemaineHydro hydro) (pdt : Nat) : Rat := semaine.srcinflows calendar (pdt / 24) / 24

variable (calendar) in
/-- What the hours of a week bring, natural inflows and pumping less generation. -/
def SemaineHydro.apports (semaine : SemaineHydro hydro) : Nat → Rat :=
  apportNet hydro.pumpingEfficiency semaine.turbinage semaine.pompage (semaine.naturel calendar)

variable (calendar) in
def SemaineHydro.solde (semaine : SemaineHydro hydro) (start : Rat) : Nat → Rat :=
  cappedSum hydro.reservoirCapacity start (semaine.apports calendar)

/-- The balances of a week from the inflows that its problem holds. -/
def soldeDeLEtat (semaine : SemaineHydro hydro) (etat : EtatHydro) : Nat → Rat :=
  cappedSum hydro.reservoirCapacity etat.niveauInitialReservoir
    (apportNet hydro.pumpingEfficiency semaine.turbinage semaine.pompage etat.apportNaturelHoraire)

theorem computingHydroLevels_spec (within : 0 ≤ etat.niveauInitialReservoir ∧
      etat.niveauInitialReservoir ≤ hydro.reservoirCapacity)
    (noOverflow : ∀ pdt < nbHoursInWeek, etat.debordementsHoraires pdt = 0) :
    (∀ pdt < nbHoursInWeek, (computingHydroLevels hydro semaine etat).niveauxHoraires pdt =
      max 0 (soldeDeLEtat semaine etat (pdt + 1)) * 100 / hydro.reservoirCapacity) ∧
    (∀ pdt < nbHoursInWeek, (computingHydroLevels hydro semaine etat).debordementsHoraires pdt =
      cutOff hydro.reservoirCapacity etat.niveauInitialReservoir
        (apportNet hydro.pumpingEfficiency semaine.turbinage semaine.pompage etat.apportNaturelHoraire) pdt) ∧
    ∀ pdt, (computingHydroLevels hydro semaine etat).apportNaturelHoraire pdt =
      if pdt < nbHoursInWeek then
        etat.apportNaturelHoraire pdt - deficit (soldeDeLEtat semaine etat pdt) +
          deficit (soldeDeLEtat semaine etat (pdt + 1))
      else etat.apportNaturelHoraire pdt := by
  have started : ComputeTimeStepLevel.After hydro.reservoirCapacity hydro.pumpingEfficiency semaine.turbinage
      semaine.pompage etat.niveauInitialReservoir etat.apportNaturelHoraire 0
      { step := 0
        level := etat.niveauInitialReservoir
        inflows := etat.apportNaturelHoraire
        ovf := etat.debordementsHoraires
        excessDown := 0 } := by
    refine ⟨rfl, (max_eq_right within.1).symm, (deficit_eq_zero_iff.2 within.1).symm, fun pdt none => ?_,
      (sub_zero _).symm, fun pdt _ => rfl, fun pdt none => ?_, fun pdt _ inWeek => noOverflow pdt inWeek⟩
    · exact absurd none pdt.not_lt_zero
    · exact absurd none pdt.not_lt_zero
  obtain ⟨after, written⟩ := hoursBeforeLast_after hydro.reservoirCapacity_pos started
    (show nbHoursInWeek - 1 ≤ nbHoursInWeek by decide)
  have ran := after.run hydro.reservoirCapacity_pos (by decide)
  refine ⟨fun pdt inWeek => ?_, fun pdt inWeek => ran.ovf_before pdt inWeek, fun pdt => ?_⟩
  · simp only [computingHydroLevels]
    by_cases last : pdt = nbHoursInWeek - 1
    · rw [last, Function.update_self, ran.level]
      rfl
    · rw [Function.update_of_ne last]
      exact written pdt (by omega)
  · split_ifs with inWeek
    · exact ran.inflows_before pdt inWeek
    · exact ran.inflows_later pdt (by unfold nbHoursInWeek at *; omega)

def EtatHydro.SansApport (hydro : HydroDuPays) (etat : EtatHydro) : Prop :=
  hydro.presenceDHydrauliqueModulable = false → etat.apportNaturelHoraire = fun _ => 0

theorem SemaineHydro.naturel_absent (semaine : SemaineHydro hydro)
    (absent : hydro.presenceDHydrauliqueModulable = false) : semaine.naturel calendar = fun _ => 0 := by
  funext pdt
  simp [SemaineHydro.naturel, SemaineHydro.srcinflows, hydro.storage_absent absent]

theorem SemaineHydro.apports_absent (semaine : SemaineHydro hydro)
    (absent : hydro.presenceDHydrauliqueModulable = false) : semaine.apports calendar = fun _ => 0 := by
  funext pdt
  simp [SemaineHydro.apports, apportNet, semaine.naturel_absent absent, semaine.turbinage_absent absent,
    semaine.pompage_absent absent]

theorem SemaineHydro.solde_absent (semaine : SemaineHydro hydro)
    (absent : hydro.presenceDHydrauliqueModulable = false) {start : Rat}
    (within : start ≤ hydro.reservoirCapacity) (pdt : Nat) : semaine.solde calendar start pdt = start := by
  rw [SemaineHydro.solde, semaine.apports_absent absent]
  induction pdt with
  | zero => rfl
  | succ pdt ih => rw [cappedSum, ih, add_zero, min_eq_right within]

structure SemaineHydro.Laisse (calendar : Calendar) (semaine : SemaineHydro hydro) (start : Rat)
    (suivant : EtatHydro) : Prop where
  start_within : 0 ≤ start ∧ start ≤ hydro.reservoirCapacity
  niveaux : ∀ pdt < nbHoursInWeek, suivant.niveauxHoraires pdt =
    max 0 (semaine.solde calendar start (pdt + 1)) * 100 / hydro.reservoirCapacity
  debordements : ∀ pdt < nbHoursInWeek, suivant.debordementsHoraires pdt =
    cutOff hydro.reservoirCapacity start (semaine.apports calendar) pdt
  final : suivant.previousSimulationFinalLevel = max 0 (semaine.solde calendar start nbHoursInWeek)
  sansApport : suivant.SansApport hydro

theorem semaineSuivante_laisse (sansApport : etat.SansApport hydro)
    (next : semaineSuivante calendar hydro semaine etat = some suivant) :
    semaine.Laisse calendar etat.previousSimulationFinalLevel suivant := by
  obtain ⟨renseigne, checked, rfl⟩ := Option.map_eq_some_iff.1 next
  unfold renseignerHydro at checked
  dsimp only at checked
  split at checked
  case isTrue => cases checked
  case isFalse within =>
    obtain ⟨notBelow, notAbove⟩ := not_or.1 within
    have within : 0 ≤ etat.previousSimulationFinalLevel ∧
        etat.previousSimulationFinalLevel ≤ hydro.reservoirCapacity := ⟨not_lt.1 notBelow, not_lt.1 notAbove⟩
    have natural : (initialiserLesDebordements renseigne).apportNaturelHoraire = semaine.naturel calendar := by
      cases checked
      dsimp only [initialiserLesDebordements]
      cases present : hydro.presenceDHydrauliqueModulable with
      | true => rfl
      | false =>
        rw [semaine.naturel_absent present]
        exact sansApport present
    have level :
        (initialiserLesDebordements renseigne).niveauInitialReservoir = etat.previousSimulationFinalLevel := by
      cases checked
      rfl
    obtain ⟨niveaux, debordements, apports⟩ := @computingHydroLevels_spec hydro semaine
      (initialiserLesDebordements renseigne) (by rwa [level]) fun pdt inWeek => if_pos inWeek
    have solde : soldeDeLEtat semaine (initialiserLesDebordements renseigne) =
        semaine.solde calendar etat.previousSimulationFinalLevel := by
      rw [soldeDeLEtat, natural, level]
      rfl
    rw [solde] at niveaux apports
    rw [natural, level] at debordements
    rw [natural] at apports
    refine ⟨within, niveaux, debordements, ?_, fun absent => ?_⟩
    · have last := niveaux (nbHoursInWeek - 1) (by decide)
      have positive := hydro.reservoirCapacity_pos.ne'
      have hours : nbHoursInWeek - 1 + 1 = nbHoursInWeek := rfl
      rw [updatingWeeklyFinalHydroLevel]
      dsimp only
      rw [last, hours]
      field_simp
    · funext pdt
      refine (apports pdt).trans ?_
      rw [semaine.naturel_absent absent, semaine.solde_absent absent within.2, semaine.solde_absent absent within.2,
        deficit_eq_zero_iff.2 within.1]
      split_ifs <;> simp

/-- Natural inflows of a week and what pumping brings, less generation and reported overflow. -/
def bilanDeLaSemaine (calendar : Calendar) (semaine : SemaineHydro hydro) (suivant : EtatHydro) : Rat :=
  ∑ jour ∈ Finset.range 7, semaine.srcinflows calendar jour -
    ∑ pdt ∈ Finset.range nbHoursInWeek, semaine.turbinage pdt +
    hydro.pumpingEfficiency * ∑ pdt ∈ Finset.range nbHoursInWeek, semaine.pompage pdt -
    ∑ pdt ∈ Finset.range nbHoursInWeek, suivant.debordementsHoraires pdt

theorem sum_naturel (semaine : SemaineHydro hydro) (jours : Nat) :
    ∑ pdt ∈ Finset.range (24 * jours), semaine.naturel calendar pdt =
      ∑ jour ∈ Finset.range jours, semaine.srcinflows calendar jour := by
  induction jours with
  | zero => simp
  | succ jours ih =>
    have ofTheDay : ∀ hour ∈ Finset.range 24, semaine.naturel calendar (24 * jours + hour) =
        semaine.srcinflows calendar jours / 24 := by
      intro hour inDay
      have day : (24 * jours + hour) / 24 = jours := by have := Finset.mem_range.1 inDay; omega
      rw [SemaineHydro.naturel, day]
    rw [Nat.mul_succ, Finset.sum_range_add, ih, Finset.sum_congr rfl ofTheDay, Finset.sum_const,
      Finset.card_range, nsmul_eq_mul, Finset.sum_range_succ]
    push_cast
    ring

variable {start : Rat}

theorem SemaineHydro.Laisse.final_eq (laisse : semaine.Laisse calendar start suivant) :
    suivant.previousSimulationFinalLevel =
      start + bilanDeLaSemaine calendar semaine suivant + deficit (semaine.solde calendar start nbHoursInWeek) := by
  have split := level_sub_deficit (semaine.solde calendar start nbHoursInWeek)
  have sums : semaine.solde calendar start nbHoursInWeek = _ := cappedSum_eq nbHoursInWeek
  have overflow : ∑ pdt ∈ Finset.range nbHoursInWeek, suivant.debordementsHoraires pdt =
      ∑ pdt ∈ Finset.range nbHoursInWeek, cutOff hydro.reservoirCapacity start (semaine.apports calendar) pdt :=
    Finset.sum_congr rfl fun pdt mem => laisse.debordements pdt (Finset.mem_range.1 mem)
  have apports : ∑ pdt ∈ Finset.range nbHoursInWeek, semaine.apports calendar pdt =
      ∑ jour ∈ Finset.range 7, semaine.srcinflows calendar jour -
        ∑ pdt ∈ Finset.range nbHoursInWeek, semaine.turbinage pdt +
        hydro.pumpingEfficiency * ∑ pdt ∈ Finset.range nbHoursInWeek, semaine.pompage pdt := by
    simp only [SemaineHydro.apports, apportNet]
    rw [Finset.sum_add_distrib, Finset.sum_sub_distrib, ← Finset.mul_sum, ← sum_naturel semaine 7]
    rfl
  rw [laisse.final, bilanDeLaSemaine, overflow]
  rw [apports] at sums
  linarith

/-- What the generation and pumping of a week must respect from its starting level: the whole
week, and any end of the week from a full reservoir, leave enough water. -/
def SemaineHydro.Suffisante (calendar : Calendar) (semaine : SemaineHydro hydro) (start : Rat) : Prop :=
  0 ≤ start + ∑ pdt ∈ Finset.range nbHoursInWeek, semaine.apports calendar pdt ∧
    ∀ hour < nbHoursInWeek,
      0 ≤ hydro.reservoirCapacity + ∑ pdt ∈ Finset.Ico (hour + 1) nbHoursInWeek, semaine.apports calendar pdt

theorem SemaineHydro.Laisse.conserved_iff (laisse : semaine.Laisse calendar start suivant) :
    suivant.previousSimulationFinalLevel = start + bilanDeLaSemaine calendar semaine suivant ↔
      semaine.Suffisante calendar start := by
  rw [laisse.final_eq, add_eq_left, deficit_eq_zero_iff, SemaineHydro.solde, le_cappedSum_iff]
  rfl

theorem SemaineHydro.Laisse.niveaux_within (laisse : semaine.Laisse calendar start suivant)
    {pdt : Nat} (inWeek : pdt < nbHoursInWeek) :
    0 ≤ suivant.niveauxHoraires pdt * hydro.reservoirCapacity / 100 ∧
      suivant.niveauxHoraires pdt * hydro.reservoirCapacity / 100 ≤ hydro.reservoirCapacity := by
  have positive := hydro.reservoirCapacity_pos
  have level : suivant.niveauxHoraires pdt * hydro.reservoirCapacity / 100 =
      max 0 (semaine.solde calendar start (pdt + 1)) := by
    have nonzero := positive.ne'
    rw [laisse.niveaux pdt inWeek]
    field_simp
  rw [level]
  exact ⟨le_max_left _ _, max_le positive.le (cappedSum_le_cap laisse.start_within.2 _)⟩

/-- Levels inside the reservoir, and no water created or lost over any number of weeks. -/
structure WaterLaw (calendar : Calendar) (start : Rat) (passees : List (SemaineHydro hydro × EtatHydro)) : Prop where
  within : ∀ passee ∈ passees, ∀ pdt < nbHoursInWeek,
    0 ≤ passee.2.niveauxHoraires pdt * hydro.reservoirCapacity / 100 ∧
      passee.2.niveauxHoraires pdt * hydro.reservoirCapacity / 100 ≤ hydro.reservoirCapacity
  conserved : ∀ (weeks : Nat) (passed : weeks < passees.length),
    passees[weeks].2.previousSimulationFinalLevel =
      start + ((passees.take (weeks + 1)).map fun passee => bilanDeLaSemaine calendar passee.1 passee.2).sum

def SemainesSuffisantes (calendar : Calendar) : Rat → List (SemaineHydro hydro × EtatHydro) → Prop
  | _, [] => True
  | start, passee :: passees =>
    passee.1.Suffisante calendar start ∧
      SemainesSuffisantes calendar passee.2.previousSimulationFinalLevel passees

theorem WaterLaw.cons_iff {passee : SemaineHydro hydro × EtatHydro}
    {passees : List (SemaineHydro hydro × EtatHydro)} :
    WaterLaw calendar start (passee :: passees) ↔
      ((∀ pdt < nbHoursInWeek, 0 ≤ passee.2.niveauxHoraires pdt * hydro.reservoirCapacity / 100 ∧
          passee.2.niveauxHoraires pdt * hydro.reservoirCapacity / 100 ≤ hydro.reservoirCapacity) ∧
        passee.2.previousSimulationFinalLevel = start + bilanDeLaSemaine calendar passee.1 passee.2) ∧
        WaterLaw calendar passee.2.previousSimulationFinalLevel passees := by
  constructor
  · rintro ⟨within, conserved⟩
    have first : passee.2.previousSimulationFinalLevel = start + bilanDeLaSemaine calendar passee.1 passee.2 := by
      have first := conserved 0 (Nat.succ_pos _)
      rw [List.take_succ_cons, List.take_zero, List.map_singleton, List.sum_singleton] at first
      exact first
    refine ⟨⟨within passee (by simp), first⟩, fun other mem => within other (by simp [mem]), fun weeks passed => ?_⟩
    have later := conserved (weeks + 1) (by simpa using passed)
    rw [List.take_succ_cons, List.map_cons, List.sum_cons] at later
    rw [first, add_assoc]
    exact later
  · rintro ⟨⟨within, first⟩, withinLater, later⟩
    refine ⟨fun other mem => ?_, fun weeks passed => ?_⟩
    · rcases List.mem_cons.1 mem with rfl | mem
      · exact within
      · exact withinLater other mem
    · rw [List.take_succ_cons, List.map_cons, List.sum_cons]
      cases weeks with
      | zero => simpa using first
      | succ weeks =>
        rw [← add_assoc, ← first]
        exact later weeks (by simpa using passed)

theorem waterLaw_iff_from {semaines : List (SemaineHydro hydro)} {passees : List (SemaineHydro hydro × EtatHydro)}
    (sansApport : etat.SansApport hydro) (ran : parcourirLesSemaines calendar hydro semaines etat = some passees) :
    WaterLaw calendar etat.previousSimulationFinalLevel passees ↔
      SemainesSuffisantes calendar etat.previousSimulationFinalLevel passees := by
  induction semaines generalizing etat passees with
  | nil =>
    cases ran
    exact iff_of_true ⟨by simp, by simp⟩ trivial
  | cons semaine semaines ih =>
    obtain ⟨next, week, ran⟩ := Option.bind_eq_some_iff.1 ran
    obtain ⟨later, rest, rfl⟩ := Option.map_eq_some_iff.1 ran
    have laisse := semaineSuivante_laisse sansApport week
    have inside : ∀ pdt < nbHoursInWeek, 0 ≤ next.niveauxHoraires pdt * hydro.reservoirCapacity / 100 ∧
        next.niveauxHoraires pdt * hydro.reservoirCapacity / 100 ≤ hydro.reservoirCapacity :=
      fun pdt inWeek => laisse.niveaux_within inWeek
    rw [WaterLaw.cons_iff, SemainesSuffisantes, ih laisse.sansApport rest, laisse.conserved_iff]
    exact and_congr_left fun _ => and_iff_right inside

end WaterLaw

/-- Over the weeks of a year, levels stay in the reservoir and water is neither created nor lost
exactly when no week ends on a deficit. -/
theorem waterLaw_iff (calendar : Calendar) (hydro : HydroDuPays) (semaines : List (SemaineHydro hydro))
    (initialLevel : Rat) (passees : List (SemaineHydro hydro × EtatHydro))
    (ran : parcourirLesSemaines calendar hydro semaines (.alloue initialLevel) = some passees) :
    WaterLaw calendar initialLevel passees ↔ SemainesSuffisantes calendar initialLevel passees :=
  waterLaw_iff_from (fun _ => rfl) ran

def smallReservoir : HydroDuPays where
  reservoirCapacity := 100
  reservoirCapacity_pos := by norm_num
  pumpingEfficiency := 1
  presenceDHydrauliqueModulable := true
  storage _ := 0
  storage_absent := fun absent => by cases absent

def lastHourWeek (generation : Rat) : SemaineHydro smallReservoir where
  pasDeTempsDebut := 0
  turbinage pdt := if pdt = 167 then generation else 0
  pompage _ := 0
  turbinage_absent := fun absent => by cases absent
  pompage_absent := fun absent => by cases absent

theorem waterLaw_iff_enoughWater : ∃ passees,
    parcourirLesSemaines .zero smallReservoir [lastHourWeek 10] (.alloue 50) = some passees ∧
      (WaterLaw .zero 50 passees ↔ SemainesSuffisantes .zero 50 passees) := by
  obtain ⟨passees, ran⟩ := Option.isSome_iff_exists.1
    (show (parcourirLesSemaines .zero smallReservoir [lastHourWeek 10] (.alloue 50)).isSome = true
      by decide +kernel)
  exact ⟨passees, ran, waterLaw_iff .zero smallReservoir _ 50 passees ran⟩

/-- From an empty reservoir, the generation of the last hour comes from nowhere. -/
theorem lastHourWeek_creates_water : ∃ passees,
    parcourirLesSemaines .zero smallReservoir [lastHourWeek 10] (.alloue 0) = some passees ∧
      ¬ WaterLaw .zero 0 passees := by
  obtain ⟨passees, ran⟩ := Option.isSome_iff_exists.1
    (show (parcourirLesSemaines .zero smallReservoir [lastHourWeek 10] (.alloue 0)).isSome = true by decide +kernel)
  refine ⟨passees, ran, fun law => ?_⟩
  have enough := (waterLaw_iff_from (fun _ => rfl) ran).1 law
  obtain ⟨next, week, ran⟩ := Option.bind_eq_some_iff.1 ran
  obtain ⟨later, rest, rfl⟩ := Option.map_eq_some_iff.1 ran
  have whole : ¬ 0 ≤ (0 : Rat) + ∑ pdt ∈ Finset.range nbHoursInWeek, (lastHourWeek 10).apports .zero pdt := by
    decide +kernel
  exact whole enough.1.1

end Antares.Solver
