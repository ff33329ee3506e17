import Antares.Optimisation.HydroIntervals
import Antares.Solver.ReservoirYears
import Mathlib.Order.Interval.Finset.Nat

/-! The minimum generation of hydro areas: what `HydroManagement::checkMinGeneration` accepts for
a year, and the bounds and energies that the problem of a week sets against it.
-/

set_option autoImplicit false

namespace Antares.Solver.MinGenerations

open Data Library Optimisation

/-- What the check of a year and the data of a week read of an area with hydro generation. Days
and hours are those of the year. -/
structure MinGenerationArea where
  reservoirManagement : Bool
  useHeuristicTarget : Bool
  followLoadModulations : Bool
  useLeeway : Bool
  hardBoundsOnRuleCurves : Bool
  presenceDePompageModulable : Bool
  leewayLowerBound : Rat
  leewayUpperBound : Rat
  reservoirCapacity : Rat
  intraDailyModulation : Rat
  genMaxP : Nat → Rat
  genMaxE : Nat → Rat
  pumpMaxP : Nat → Rat
  minLvl : Nat → Rat
  srcinflows : Nat → Rat
  srcmingen : Nat → Rat
  /-- The loader raises it to one. -/
  intraDailyModulation_ge : 1 ≤ intraDailyModulation
  presenceDePompageModulable_managed : presenceDePompageModulable = true → reservoirManagement = true

section Check
variable (calendar : Calendar) (area : MinGenerationArea)

/-- The totals that are compared, those of the months by their number in the civil year. -/
structure TmpDataByArea where
  totalMonthInflows : Nat → Rat
  totalYearInflows : Rat
  totalMonthMingen : Nat → Rat
  totalYearMingen : Rat

/-- After the call of `memset`. -/
def TmpDataByArea.zero : TmpDataByArea := ⟨fun _ => 0, 0, fun _ => 0, 0⟩

variable (data : TmpDataByArea)

def inflowsOfMonth (month : Nat) : TmpDataByArea :=
  let info := calendar.months month
  let totalMonthInflows := ∑ day ∈ Finset.Ico info.daysYear.first info.daysYear.end, area.srcinflows day
  { data with
    totalMonthInflows := Function.update data.totalMonthInflows info.realmonth totalMonthInflows
    totalYearInflows := data.totalYearInflows + totalMonthInflows }

def prepareInflowsScaling : TmpDataByArea :=
  (List.range 12).foldl (inflowsOfMonth calendar area) data

def mingenOfMonth (month : Nat) : TmpDataByArea :=
  let info := calendar.months month
  let totalMonthMingen :=
    ∑ hour ∈ Finset.Ico (info.daysYear.first * 24) (info.daysYear.end * 24), area.srcmingen hour
  { data with
    totalMonthMingen := Function.update data.totalMonthMingen info.realmonth totalMonthMingen
    totalYearMingen := data.totalYearMingen + totalMonthMingen }

def minGenerationScaling : TmpDataByArea :=
  (List.range 12).foldl (mingenOfMonth calendar area) data

def checkMonthlyMinGeneration : Bool :=
  (List.range 12).all fun month =>
    let realmonth := (calendar.months month).realmonth
    !decide (data.totalMonthInflows realmonth < data.totalMonthMingen realmonth)

def checkYearlyMinGeneration : Bool :=
  !decide (data.totalYearInflows < data.totalYearMingen)

/-- `maxWeeksInYear` -/
def maxWeeksInYear : Nat := 54

def checkWeeklyMinGeneration : Bool :=
  (List.range (maxWeeksInYear - 1)).all fun week =>
    let info := calendar.weeks week
    let totalWeekMingen := ∑ hour ∈ Finset.Ico info.hours.first (min info.hours.end 8760), area.srcmingen hour
    let totalWeekInflows := ∑ day ∈ Finset.Ico info.daysYear.first info.daysYear.end, area.srcinflows day
    !decide (totalWeekInflows < totalWeekMingen)

def checkHourlyMinGeneration : Bool :=
  (List.range 12).all fun month =>
    let realmonth := (calendar.months month).realmonth
    let info := calendar.months (calendar.mappingMonths realmonth)
    (daysFrom info.daysYear.first info.days).all fun day =>
      (List.range 24).all fun h => !decide (area.genMaxP day < area.srcmingen (day * 24 + h))

def checkMinGenerationOf : Bool :=
  let ret := checkHourlyMinGeneration calendar area
  if !area.useHeuristicTarget then ret
  else if !area.followLoadModulations then checkWeeklyMinGeneration calendar area && ret
  else if area.reservoirManagement then checkYearlyMinGeneration data && ret
  else checkMonthlyMinGeneration calendar data && ret

/-- `HydroManagement::checkMinGeneration`, on the data that `makeVentilation` scales before. -/
def checkMinGeneration (areas : List MinGenerationArea) : Bool :=
  areas.foldl (fun ret area =>
    checkMinGenerationOf calendar area
      (minGenerationScaling calendar area (prepareInflowsScaling calendar area .zero)) && ret) true

variable {calendar area}

theorem checkHourly_of_checkMinGenerationOf {data : TmpDataByArea}
    (accepted : checkMinGenerationOf calendar area data = true) : checkHourlyMinGeneration calendar area = true := by
  unfold checkMinGenerationOf at accepted
  dsimp only at accepted
  split_ifs at accepted
  · exact accepted
  all_goals exact (Bool.and_eq_true_iff.mp accepted).2

theorem checkMinGeneration_iff {areas : List MinGenerationArea} :
    checkMinGeneration calendar areas = true ↔ ∀ area ∈ areas, checkMinGenerationOf calendar area
      (minGenerationScaling calendar area (prepareInflowsScaling calendar area .zero)) = true := by
  have from_ (ret : Bool) : areas.foldl (fun ret area => checkMinGenerationOf calendar area
      (minGenerationScaling calendar area (prepareInflowsScaling calendar area .zero)) && ret) ret = true ↔
        ret = true ∧ ∀ area ∈ areas, checkMinGenerationOf calendar area
          (minGenerationScaling calendar area (prepareInflowsScaling calendar area .zero)) = true := by
    induction areas generalizing ret with
    | nil => simp
    | cons area areas ih =>
      rw [List.foldl_cons, ih, Bool.and_eq_true, List.forall_mem_cons]
      tauto
  exact (from_ true).trans (and_iff_right rfl)

theorem exists_month (partitions : PartitionsYear calendar) {day : Nat} (inYear : day < 365) :
    ∃ month < 12, daysUntil calendar month ≤ day ∧ day < daysUntil calendar (month + 1) := by
  have reached (months : Nat) (within : months ≤ 12) (before : day < daysUntil calendar months) :
      ∃ month < 12, daysUntil calendar month ≤ day ∧ day < daysUntil calendar (month + 1) := by
    induction months with
    | zero => exact absurd before (Nat.not_lt_zero day)
    | succ months ih =>
      rcases lt_or_ge day (daysUntil calendar months) with earlier | here
      · exact ih (by omega) earlier
      · exact ⟨months, by omega, here, before⟩
  exact reached 12 le_rfl (partitions.total.symm ▸ inYear)

theorem mappingMonths_realmonth (settings : Calendar.Settings) {month : Nat} (within : month < 12) :
    (Calendar.reset settings).mappingMonths ((Calendar.reset settings).months month).realmonth = month := by
  have civil := Calendar.reset_months_realmonth settings (show month < 13 by omega)
  obtain ⟨mapped, back⟩ := Calendar.reset_mappingMonths settings
    (show ((Calendar.reset settings).months month).realmonth < 12 by rw [civil]; exact Nat.mod_lt _ (by decide))
  rw [civil] at back mapped ⊢
  have first := settings.firstMonth_lt
  omega

theorem mingen_le_genMaxP {settings : Calendar.Settings} (common : settings.leapYear = false)
    {data : TmpDataByArea} (accepted : checkMinGenerationOf (Calendar.reset settings) area data = true) {hour : Nat}
    (inYear : hour < 8760) : area.srcmingen hour ≤ area.genMaxP (hour / 24) := by
  have partitions := reset_partitions common
  have day : hour / 24 < 365 := by omega
  obtain ⟨month, within, after, before⟩ := exists_month partitions day
  have hourly := List.all_eq_true.mp (checkHourly_of_checkMinGenerationOf accepted) month (List.mem_range.mpr within)
  dsimp only at hourly
  rw [mappingMonths_realmonth settings within, List.all_eq_true] at hourly
  have inMonth : hour / 24 ∈ daysFrom ((Calendar.reset settings).months month).daysYear.first
      ((Calendar.reset settings).months month).days := by
    rw [partitions.first month within, daysFrom, List.mem_map]
    rw [daysUntil_succ] at before
    exact ⟨hour / 24 - daysUntil (Calendar.reset settings) month, List.mem_range.mpr (by omega), by omega⟩
  have covered := List.all_eq_true.mp (hourly (hour / 24) inMonth) (hour % 24) (List.mem_range.mpr (by omega))
  rw [Nat.div_add_mod'] at covered
  simpa using covered

end Check

structure MinGenerationWeek (area : MinGenerationArea) where
  pasDeTempsDebut : Nat
  niveauInitialReservoir : Rat
  weeklyGeneratingModulation : Rat
  weeklyPumpingModulation : Rat
  /-- The daily targets of the year. -/
  hydrauliqueModulableQuotidien : Nat → Rat
  weeklyGeneratingModulation_nonneg : 0 ≤ weeklyGeneratingModulation
  weeklyGeneratingModulation_le : weeklyGeneratingModulation ≤ 1

namespace MinGenerationWeek

section Renseignement
variable (calendar : Calendar) (range : SimplexOptimization) {area : MinGenerationArea} (week : MinGenerationWeek area)

variable (j : Nat)

/-- The day of the year of a day of the week, the eighth being the first of the next one. -/
def day : Nat := (calendar.hours (week.pasDeTempsDebut + j * 24)).dayYear

def dayInTheYear (hourInWeek : Nat) : Nat := (calendar.hours (week.pasDeTempsDebut + hourInWeek)).dayYear

def mingenHoraire : Rat := area.srcmingen (week.pasDeTempsDebut + j)

/-- `DGC * DGM` -/
def generatingCapacity : Rat :=
  area.genMaxP (week.day calendar j) * area.genMaxE (week.day calendar j) * week.weeklyGeneratingModulation

/-- `DGU_tmp`, then `DGL_tmp` -/
def cappedTargets : Rat × Rat :=
  let LUB := if area.useLeeway then area.leewayUpperBound else 1
  let LLB := if area.useLeeway then area.leewayLowerBound else 1
  let DNT := week.hydrauliqueModulableQuotidien (week.day calendar j)
  let DGCxDGM := week.generatingCapacity calendar j
  let targets := if DGCxDGM < DNT * LLB then (DGCxDGM, DGCxDGM) else (DNT * LUB, DNT * LLB)
  if targets.2 < DGCxDGM ∧ DGCxDGM < targets.1 then (DGCxDGM, targets.2) else targets

def WNI : Rat := ∑ j ∈ Finset.range 7, area.srcinflows (week.day calendar j)

def WGU : Rat := ∑ j ∈ Finset.range 7, (week.cappedTargets calendar j).1

def DGU : Rat :=
  let V :=
    if area.hardBoundsOnRuleCurves then
      max 0 (week.niveauInitialReservoir - area.minLvl (week.day calendar 7) * area.reservoirCapacity +
        week.WNI calendar)
    else week.niveauInitialReservoir + week.WNI calendar
  if mathZero (week.WGU calendar) then 0
  else (week.cappedTargets calendar j).1 * min (week.WGU calendar) V / week.WGU calendar

def DGL : Rat := min (week.DGU calendar j) (week.cappedTargets calendar j).2

/-- The energy of a day follows its target, which is cut back to the level of the reservoir. -/
def cible : Rat :=
  let weekTarget := ∑ j ∈ Finset.range 7, week.hydrauliqueModulableQuotidien (week.day calendar j)
  let counted := area.reservoirManagement && area.useHeuristicTarget && !area.useLeeway
  let weekGenerationTarget := if counted ∧ weekTarget ≠ 0 then weekTarget else 1
  let marginGen :=
    if counted ∧ week.niveauInitialReservoir < weekTarget then week.niveauInitialReservoir
    else weekGenerationTarget
  week.hydrauliqueModulableQuotidien (week.day calendar j) * week.weeklyGeneratingModulation * marginGen /
    weekGenerationTarget

def turbinageEntreBornes (area : MinGenerationArea) : Bool :=
  area.reservoirManagement && (!area.useHeuristicTarget || area.useLeeway)

def ofDay (values before : Nat → Rat) (j : Nat) : Rat := if j < 7 then values j else before j

variable (hydro : EnergiesEtPuissancesHydrauliques)

def renseignerPuissances : EnergiesEtPuissancesHydrauliques :=
  { hydro with
    presenceDHydrauliqueModulable := true
    presenceDePompageModulable := area.presenceDePompageModulable
    turbinageEntreBornes := turbinageEntreBornes area
    sansHeuristique := area.reservoirManagement && !area.useHeuristicTarget
    coefficientEcretementPMaxHydraulique := area.intraDailyModulation
    contrainteDePmaxHydrauliqueHoraire := fun pdt =>
      area.genMaxP (week.dayInTheYear calendar pdt) * week.weeklyGeneratingModulation
    contrainteDePmaxPompageHoraire := fun pdt =>
      if area.presenceDePompageModulable then
        area.pumpMaxP (week.dayInTheYear calendar pdt) * week.weeklyPumpingModulation
      else hydro.contrainteDePmaxPompageHoraire pdt }

def borneesParLaPuissance (area : MinGenerationArea) : Bool :=
  area.reservoirManagement &&
    (!area.useHeuristicTarget || (area.presenceDePompageModulable && range = .sorWeek))

def borneesParLesCibles (area : MinGenerationArea) : Bool :=
  area.reservoirManagement &&
    (area.useHeuristicTarget && (area.useLeeway || (area.presenceDePompageModulable && range ≠ .sorWeek)))

/-- The two bounds of the energies: the second test writes over the first one. -/
def renseignerBornes : EnergiesEtPuissancesHydrauliques :=
  let hydro :=
    if borneesParLaPuissance range area then
      { hydro with
        minEnergieHydrauParIntervalleOptimise := ofDay (fun _ => 0) hydro.minEnergieHydrauParIntervalleOptimise
        maxEnergieHydrauParIntervalleOptimise :=
          ofDay (week.generatingCapacity calendar) hydro.maxEnergieHydrauParIntervalleOptimise }
    else hydro
  if borneesParLesCibles range area then
    { hydro with
      minEnergieHydrauParIntervalleOptimise := ofDay (week.DGL calendar) hydro.minEnergieHydrauParIntervalleOptimise
      maxEnergieHydrauParIntervalleOptimise := ofDay (week.DGU calendar) hydro.maxEnergieHydrauParIntervalleOptimise }
  else hydro

def renseignerCibles : EnergiesEtPuissancesHydrauliques :=
  if !hydro.turbinageEntreBornes then
    { hydro with
      cntEnergieH2OParIntervalleOptimise := ofDay (week.cible calendar) hydro.cntEnergieH2OParIntervalleOptimise }
  else hydro

/-- What `SIM_RenseignementProblemeHebdo` leaves, for an area with hydro generation, of what the
bounds and energies of its generation are made of; the rest is as before. -/
def caracteristiques (before : EnergiesEtPuissancesHydrauliques) : EnergiesEtPuissancesHydrauliques :=
  let hydro := week.renseignerCibles calendar (week.renseignerBornes calendar range
    (week.renseignerPuissances calendar before))
  { hydro with
    inflowForTimeInterval := ofDay (fun j => area.srcinflows (week.day calendar j)) hydro.inflowForTimeInterval
    contrainteDePmaxHydrauliqueHoraireRef := hydro.contrainteDePmaxHydrauliqueHoraire }

end Renseignement

end MinGenerationWeek

/-- The bounds of an area in the problem of a week leave room for its minimum generation: at
every hour, and over every interval for the energy that its generation follows or is bounded by. -/
structure BornesCoherentes (range : SimplexOptimization) (mingenHoraire : Nat → Rat)
    (hydro : EnergiesEtPuissancesHydrauliques) : Prop where
  horaire : ∀ pdt < nbHoursInWeek, mingenHoraire pdt ≤ hydro.contrainteDePmaxHydrauliqueHoraire pdt
  energie : ∀ intervalle < range.nbIntervallesOptimises,
    blockSum range.nombreDePasDeTempsPourUneOptimisation mingenHoraire intervalle ≤
      if hydro.estBorne then hydro.maxEnergieHydrauParIntervalleOptimise intervalle
      else hydro.cntEnergieH2OParIntervalleOptimise intervalle

section Preparations
variable (range : SimplexOptimization) {hydro : EnergiesEtPuissancesHydrauliques}

/-- The energies that the preparation sums and the hourly powers are cut back to. -/
def energiesDeGeneration (hydro : EnergiesEtPuissancesHydrauliques) : Nat → Rat :=
  if hydro.estBorne then hydro.maxEnergieHydrauParIntervalleOptimise else hydro.cntEnergieH2OParIntervalleOptimise

theorem suitUneCible_of_not_estBorne (present : hydro.presenceDHydrauliqueModulable = true)
    (free : hydro.estBorne = false) : hydro.suitUneCible = true := by
  unfold EnergiesEtPuissancesHydrauliques.estBorne at free
  unfold EnergiesEtPuissancesHydrauliques.suitUneCible
  rw [present, Bool.true_and] at *
  rw [(Bool.or_eq_false_iff.mp free).1]
  rfl

theorem energieDuJour_eq (present : hydro.presenceDHydrauliqueModulable = true) (jour : Nat) :
    hydro.energieDuJour jour = energiesDeGeneration hydro jour := by
  unfold EnergiesEtPuissancesHydrauliques.energieDuJour energiesDeGeneration
  cases bounded : hydro.estBorne with
  | true => rfl
  | false => simp [suitUneCible_of_not_estBorne present bounded]

theorem energiesDeGeneration_preparer (present : hydro.presenceDHydrauliqueModulable = true) :
    energiesDeGeneration (hydro.preparer range) =
      EnergiesEtPuissancesHydrauliques.parIntervalle range (energiesDeGeneration hydro) := by
  unfold energiesDeGeneration
  rw [EnergiesEtPuissancesHydrauliques.preparer_estBorne,
    EnergiesEtPuissancesHydrauliques.preparer_maxEnergieHydrauParIntervalleOptimise,
    EnergiesEtPuissancesHydrauliques.preparer_cntEnergieH2OParIntervalleOptimise]
  cases bounded : hydro.estBorne with
  | true => simp
  | false => simp [suitUneCible_of_not_estBorne present bounded]

structure SameSettings (first second : EnergiesEtPuissancesHydrauliques) : Prop where
  presence : second.presenceDHydrauliqueModulable = first.presenceDHydrauliqueModulable
  pompage : second.presenceDePompageModulable = first.presenceDePompageModulable
  sansHeuristique : second.sansHeuristique = first.sansHeuristique
  coefficient : second.coefficientEcretementPMaxHydraulique = first.coefficientEcretementPMaxHydraulique
  pmaxRef : second.contrainteDePmaxHydrauliqueHoraireRef = first.contrainteDePmaxHydrauliqueHoraireRef
  pmaxPompage : second.contrainteDePmaxPompageHoraire = first.contrainteDePmaxPompageHoraire

theorem preparer_sameSettings (hydro : EnergiesEtPuissancesHydrauliques) : SameSettings hydro (hydro.preparer range) := by
  obtain ⟨presence, pompage, -, sansHeuristique, coefficient, pmaxRef, pmaxPompage⟩ := hydro.preparer_settings range
  exact ⟨presence, pompage, sansHeuristique, coefficient, pmaxRef, pmaxPompage⟩

theorem SameSettings.trans {first second third : EnergiesEtPuissancesHydrauliques} (left : SameSettings first second)
    (right : SameSettings second third) : SameSettings first third where
  presence := right.presence.trans left.presence
  pompage := right.pompage.trans left.pompage
  sansHeuristique := right.sansHeuristique.trans left.sansHeuristique
  coefficient := right.coefficient.trans left.coefficient
  pmaxRef := right.pmaxRef.trans left.pmaxRef
  pmaxPompage := right.pmaxPompage.trans left.pmaxPompage

theorem preparations (present : hydro.presenceDHydrauliqueModulable = true) (deja : Nat) :
    SameSettings hydro ((fun hydro => hydro.preparer range)^[deja] hydro) ∧
      energiesDeGeneration ((fun hydro => hydro.preparer range)^[deja] hydro) =
        (EnergiesEtPuissancesHydrauliques.parIntervalle range)^[deja] (energiesDeGeneration hydro) := by
  induction deja with
  | zero => exact ⟨⟨rfl, rfl, rfl, rfl, rfl, rfl⟩, rfl⟩
  | succ deja ih =>
    obtain ⟨settings, energies⟩ := ih
    rw [Function.iterate_succ_apply', Function.iterate_succ_apply',
      energiesDeGeneration_preparer range (settings.presence.trans present), energies]
    exact ⟨settings.trans (preparer_sameSettings range _), rfl⟩

/-- The allowance of an hour from the energy of its day, uplifted to the power of the pumps. -/
def puissanceEcretee (hydro : EnergiesEtPuissancesHydrauliques) (energies : Nat → Rat) (pdt : Nat) : Rat :=
  let ecretee := energies (numeroDeJourDuPasDeTemps pdt) * hydro.coefficientEcretementPMaxHydraulique /
    nombreDePasDeTempsDUneJournee
  if hydro.presenceDePompageModulable then
    max ecretee (hydro.contrainteDePmaxPompageHoraire pdt * hydro.coefficientEcretementPMaxHydraulique)
  else ecretee

theorem limiteHoraire_eq (present : hydro.presenceDHydrauliqueModulable = true) (pdt : Nat) :
    hydro.limiteHoraire pdt = puissanceEcretee hydro (energiesDeGeneration hydro) pdt := by
  unfold EnergiesEtPuissancesHydrauliques.limiteHoraire EnergiesEtPuissancesHydrauliques.pmaxHydEcretee puissanceEcretee
  dsimp only
  rw [energieDuJour_eq present]
  split_ifs with pumping below
  · exact (max_eq_right below.le).symm
  · exact (max_eq_left (not_lt.mp below)).symm
  · rfl

theorem bornesCoherentes_iff (present : hydro.presenceDHydrauliqueModulable = true) (deja : Nat)
    (mingenHoraire : Nat → Rat) :
    BornesCoherentes range mingenHoraire ((fun hydro => hydro.preparer range)^[deja + 1] hydro) ↔
      (∀ pdt < nbHoursInWeek, mingenHoraire pdt ≤ hydro.contrainteDePmaxHydrauliqueHoraireRef pdt) ∧
      (hydro.sansHeuristique = false → ∀ pdt < nbHoursInWeek, mingenHoraire pdt ≤ puissanceEcretee hydro
        ((EnergiesEtPuissancesHydrauliques.parIntervalle range)^[deja] (energiesDeGeneration hydro)) pdt) ∧
      ∀ intervalle < range.nbIntervallesOptimises,
        blockSum range.nombreDePasDeTempsPourUneOptimisation mingenHoraire intervalle ≤
          blockSum range.nombreDeJoursParIntervalle
            ((EnergiesEtPuissancesHydrauliques.parIntervalle range)^[deja] (energiesDeGeneration hydro)) intervalle := by
  obtain ⟨settings, energies⟩ := preparations range present deja
  rw [Function.iterate_succ_apply']
  generalize (fun hydro => EnergiesEtPuissancesHydrauliques.preparer range hydro)^[deja] hydro = before at *
  rw [← energies]
  have beforePresent := settings.presence.trans present
  have summed (intervalle : Nat) (inRange : intervalle < range.nbIntervallesOptimises) :
      (if (before.preparer range).estBorne then (before.preparer range).maxEnergieHydrauParIntervalleOptimise intervalle
        else (before.preparer range).cntEnergieH2OParIntervalleOptimise intervalle) =
        blockSum range.nombreDeJoursParIntervalle (energiesDeGeneration before) intervalle := by
    have sums := congrFun (energiesDeGeneration_preparer range beforePresent) intervalle
    rw [EnergiesEtPuissancesHydrauliques.parIntervalle, sumInPlace_apply _ range.nombreDeJoursParIntervalle_pos,
      if_pos inRange] at sums
    rw [← sums, energiesDeGeneration]
    split_ifs <;> rfl
  have hourly (pdt : Nat) (inWeek : pdt < nbHoursInWeek) :
      mingenHoraire pdt ≤ (before.preparer range).contrainteDePmaxHydrauliqueHoraire pdt ↔
        mingenHoraire pdt ≤ hydro.contrainteDePmaxHydrauliqueHoraireRef pdt ∧
          (hydro.sansHeuristique = false →
            mingenHoraire pdt ≤ puissanceEcretee hydro (energiesDeGeneration before) pdt) := by
    have cut : puissanceEcretee before (energiesDeGeneration before) pdt =
        puissanceEcretee hydro (energiesDeGeneration before) pdt := by
      unfold puissanceEcretee
      rw [settings.coefficient, settings.pompage, settings.pmaxPompage]
    rw [before.preparer_contrainteDePmaxHydrauliqueHoraire range beforePresent inWeek,
      EnergiesEtPuissancesHydrauliques.plafondHoraire, limiteHoraire_eq beforePresent, cut, settings.sansHeuristique,
      settings.pmaxRef]
    cases hydro.sansHeuristique with
    | true => simp
    | false => simp [and_comm]
  constructor
  · rintro ⟨horaire, energie⟩
    refine ⟨fun pdt inWeek => ((hourly pdt inWeek).mp (horaire pdt inWeek)).1,
      fun heuristique pdt inWeek => ((hourly pdt inWeek).mp (horaire pdt inWeek)).2 heuristique,
      fun intervalle inRange => ?_⟩
    rw [← summed intervalle inRange]
    exact energie intervalle inRange
  · rintro ⟨puissance, ecretement, energie⟩
    constructor
    · intro pdt inWeek
      exact (hourly pdt inWeek).mpr ⟨puissance pdt inWeek, fun heuristique => ecretement heuristique pdt inWeek⟩
    · intro intervalle inRange
      rw [summed intervalle inRange]
      exact energie intervalle inRange

end Preparations

namespace MinGenerationWeek

section Condition
variable (calendar : Calendar) (range : SimplexOptimization) {area : MinGenerationArea} (week : MinGenerationWeek area)

/-- The energy of generation of a day: the upper bound of the day where there are two bounds, or
its target. -/
def energieDuJour (j : Nat) : Rat :=
  if turbinageEntreBornes area || area.presenceDePompageModulable then
    if area.useHeuristicTarget && (area.useLeeway || (area.presenceDePompageModulable && range ≠ .sorWeek)) then
      week.DGU calendar j
    else week.generatingCapacity calendar j
  else week.cible calendar j

/-- Those energies before an optimisation: the earlier ones of the week have summed them. -/
def energies (deja : Nat) : Nat → Rat :=
  (EnergiesEtPuissancesHydrauliques.parIntervalle range)^[deja] (week.energieDuJour calendar range)

def plafond (energies : Nat → Rat) (pdt : Nat) : Rat :=
  let plafond := energies (numeroDeJourDuPasDeTemps pdt) * area.intraDailyModulation / nombreDePasDeTempsDUneJournee
  if area.presenceDePompageModulable then
    max plafond (area.pumpMaxP (week.dayInTheYear calendar pdt) * week.weeklyPumpingModulation *
      area.intraDailyModulation)
  else plafond

/-- The minimum generation of a week is covered: by the powers once they are modulated, by the
energy of each day where hourly powers are cut back to it, and by the energies of the intervals. -/
structure MingenCouvert (deja : Nat) : Prop where
  puissance : week.weeklyGeneratingModulation = 1 ∨ ∀ pdt < nbHoursInWeek, week.mingenHoraire pdt ≤
    area.genMaxP (week.dayInTheYear calendar pdt) * week.weeklyGeneratingModulation
  ecretement : (area.reservoirManagement && !area.useHeuristicTarget) = false → ∀ pdt < nbHoursInWeek,
    week.mingenHoraire pdt ≤ week.plafond calendar (week.energies calendar range deja) pdt
  energie : ∀ intervalle < range.nbIntervallesOptimises,
    blockSum range.nombreDePasDeTempsPourUneOptimisation week.mingenHoraire intervalle ≤
      blockSum range.nombreDeJoursParIntervalle (week.energies calendar range deja) intervalle

end Condition

section
variable {range : SimplexOptimization}

variable {first second : Nat → Rat}

theorem blockSum_congr_week (same : ∀ j < 7, first j = second j) {intervalle : Nat}
    (inRange : intervalle < range.nbIntervallesOptimises) :
    blockSum range.nombreDeJoursParIntervalle first intervalle =
      blockSum range.nombreDeJoursParIntervalle second intervalle := by
  unfold blockSum
  congr 1
  apply List.map_congr_left
  intro k inBlock
  have inside := List.mem_range.mp inBlock
  apply same
  calc intervalle * range.nombreDeJoursParIntervalle + k
      < (intervalle + 1) * range.nombreDeJoursParIntervalle := by rw [Nat.succ_mul]; omega
    _ ≤ range.nbIntervallesOptimises * range.nombreDeJoursParIntervalle := Nat.mul_le_mul_right _ inRange
    _ = 7 := range.intervalles_mul_jours

theorem parIntervalle_congr (same : ∀ j < 7, first j = second j) :
    ∀ j < 7, EnergiesEtPuissancesHydrauliques.parIntervalle range first j =
      EnergiesEtPuissancesHydrauliques.parIntervalle range second j := by
  intro j inWeek
  have days := range.intervalles_mul_jours
  unfold EnergiesEtPuissancesHydrauliques.parIntervalle
  rw [sumInPlace_apply _ range.nombreDeJoursParIntervalle_pos, sumInPlace_apply _ range.nombreDeJoursParIntervalle_pos]
  split_ifs with inRange
  · exact blockSum_congr_week same inRange
  · exact same j inWeek

theorem parIntervalle_iterate_congr (same : ∀ j < 7, first j = second j) (deja : Nat) :
    ∀ j < 7, (EnergiesEtPuissancesHydrauliques.parIntervalle range)^[deja] first j =
      (EnergiesEtPuissancesHydrauliques.parIntervalle range)^[deja] second j := by
  induction deja with
  | zero => exact same
  | succ deja ih =>
    rw [Function.iterate_succ_apply', Function.iterate_succ_apply']
    exact parIntervalle_congr ih

variable {calendar : Calendar} {area : MinGenerationArea} (week : MinGenerationWeek area)
  (before : EnergiesEtPuissancesHydrauliques)

variable (hydro : EnergiesEtPuissancesHydrauliques)

theorem renseignerBornes_eq :
    week.renseignerBornes calendar range hydro =
      { hydro with
        minEnergieHydrauParIntervalleOptimise :=
          (week.renseignerBornes calendar range hydro).minEnergieHydrauParIntervalleOptimise
        maxEnergieHydrauParIntervalleOptimise :=
          if borneesParLesCibles range area then
            ofDay (week.DGU calendar) (if borneesParLaPuissance range area then
                ofDay (week.generatingCapacity calendar) hydro.maxEnergieHydrauParIntervalleOptimise
              else hydro.maxEnergieHydrauParIntervalleOptimise)
          else if borneesParLaPuissance range area then
            ofDay (week.generatingCapacity calendar) hydro.maxEnergieHydrauParIntervalleOptimise
          else hydro.maxEnergieHydrauParIntervalleOptimise } := by
  unfold renseignerBornes
  cases borneesParLesCibles range area <;> cases borneesParLaPuissance range area <;> rfl

theorem renseignerCibles_eq :
    week.renseignerCibles calendar hydro =
      { hydro with
        cntEnergieH2OParIntervalleOptimise :=
          if !hydro.turbinageEntreBornes then ofDay (week.cible calendar) hydro.cntEnergieH2OParIntervalleOptimise
          else hydro.cntEnergieH2OParIntervalleOptimise } := by
  unfold renseignerCibles
  split_ifs <;> rfl

theorem caracteristiques_settings :
    (week.caracteristiques calendar range before).presenceDHydrauliqueModulable = true ∧
    (week.caracteristiques calendar range before).presenceDePompageModulable = area.presenceDePompageModulable ∧
    (week.caracteristiques calendar range before).turbinageEntreBornes = turbinageEntreBornes area ∧
    (week.caracteristiques calendar range before).sansHeuristique =
      (area.reservoirManagement && !area.useHeuristicTarget) ∧
    (week.caracteristiques calendar range before).coefficientEcretementPMaxHydraulique = area.intraDailyModulation ∧
    (week.caracteristiques calendar range before).contrainteDePmaxHydrauliqueHoraireRef = (fun pdt =>
      area.genMaxP (week.dayInTheYear calendar pdt) * week.weeklyGeneratingModulation) ∧
    (week.caracteristiques calendar range before).contrainteDePmaxPompageHoraire = fun pdt =>
      if area.presenceDePompageModulable then
        area.pumpMaxP (week.dayInTheYear calendar pdt) * week.weeklyPumpingModulation
      else before.contrainteDePmaxPompageHoraire pdt := by
  rw [caracteristiques, renseignerCibles_eq, renseignerBornes_eq]
  exact ⟨rfl, rfl, rfl, rfl, rfl, rfl, rfl⟩

theorem estBorne_caracteristiques : (week.caracteristiques calendar range before).estBorne =
    (borneesParLaPuissance range area || borneesParLesCibles range area) := by
  obtain ⟨presence, pompage, turbinage, -⟩ := @caracteristiques_settings range calendar area week before
  have managed := area.presenceDePompageModulable_managed
  unfold EnergiesEtPuissancesHydrauliques.estBorne borneesParLaPuissance borneesParLesCibles
  rw [presence, pompage, turbinage, turbinageEntreBornes]
  revert managed
  cases area.reservoirManagement <;> cases area.useHeuristicTarget <;> cases area.useLeeway <;>
    cases area.presenceDePompageModulable <;> cases range <;> simp

theorem energiesDeGeneration_caracteristiques : ∀ j < 7,
    energiesDeGeneration (week.caracteristiques calendar range before) j = week.energieDuJour calendar range j := by
  intro j inWeek
  have managed := area.presenceDePompageModulable_managed
  have max : (week.caracteristiques calendar range before).maxEnergieHydrauParIntervalleOptimise =
      (week.renseignerBornes calendar range
        (week.renseignerPuissances calendar before)).maxEnergieHydrauParIntervalleOptimise := by
    rw [caracteristiques, renseignerCibles_eq]
  have cible : (week.caracteristiques calendar range before).cntEnergieH2OParIntervalleOptimise =
      if !turbinageEntreBornes area then ofDay (week.cible calendar) before.cntEnergieH2OParIntervalleOptimise
      else before.cntEnergieH2OParIntervalleOptimise := by
    rw [caracteristiques, renseignerCibles_eq, renseignerBornes_eq]
    rfl
  unfold energiesDeGeneration energieDuJour
  rw [estBorne_caracteristiques, max, cible, renseignerBornes_eq]
  unfold borneesParLaPuissance borneesParLesCibles turbinageEntreBornes
  revert managed
  -- the options of the area decide which of the arrays are written
  cases area.reservoirManagement <;> cases area.useHeuristicTarget <;> cases area.useLeeway <;>
    cases area.presenceDePompageModulable <;> cases range <;> simp [ofDay, inWeek]

theorem puissanceEcretee_caracteristiques (energies : Nat → Rat) (pdt : Nat) :
    puissanceEcretee (week.caracteristiques calendar range before) energies pdt = week.plafond calendar energies pdt := by
  obtain ⟨-, pompage, -, -, coefficient, -, pmaxPompage⟩ := @caracteristiques_settings range calendar area week before
  unfold puissanceEcretee plafond
  rw [pompage, coefficient, pmaxPompage]
  cases area.presenceDePompageModulable <;> rfl

theorem bornesCoherentes_caracteristiques_iff (deja : Nat) :
    BornesCoherentes range week.mingenHoraire
        ((fun hydro => hydro.preparer range)^[deja + 1] (week.caracteristiques calendar range before)) ↔
      (∀ pdt < nbHoursInWeek, week.mingenHoraire pdt ≤
        area.genMaxP (week.dayInTheYear calendar pdt) * week.weeklyGeneratingModulation) ∧
      ((area.reservoirManagement && !area.useHeuristicTarget) = false → ∀ pdt < nbHoursInWeek,
        week.mingenHoraire pdt ≤ week.plafond calendar (week.energies calendar range deja) pdt) ∧
      ∀ intervalle < range.nbIntervallesOptimises,
        blockSum range.nombreDePasDeTempsPourUneOptimisation week.mingenHoraire intervalle ≤
          blockSum range.nombreDeJoursParIntervalle (week.energies calendar range deja) intervalle := by
  obtain ⟨presence, -, -, sansHeuristique, -, pmaxRef, -⟩ := @caracteristiques_settings range calendar area week before
  have energies := @parIntervalle_iterate_congr range _ _
    (@energiesDeGeneration_caracteristiques range calendar area week before) deja
  rw [bornesCoherentes_iff range presence, sansHeuristique, pmaxRef]
  refine and_congr_right fun _ => and_congr (forall_congr' fun _ => forall₂_congr fun pdt inWeek => ?_)
    (forall₂_congr fun intervalle inRange => ?_)
  · have jour : numeroDeJourDuPasDeTemps pdt < 7 := Nat.div_lt_of_lt_mul inWeek
    rw [puissanceEcretee_caracteristiques]
    unfold plafond
    rw [energies _ jour]
    rfl
  · rw [blockSum_congr_week energies inRange]
    rfl

/-- In a week of an accepted year, the bounds leave room for the minimum generation exactly when
the modulated powers and the energies cover it. -/
theorem bornesCoherentes_iff_mingenCouvert {settings : Calendar.Settings} (common : settings.leapYear = false)
    {areas : List MinGenerationArea} (accepted : checkMinGeneration (Calendar.reset settings) areas = true)
    (listed : area ∈ areas) (week : MinGenerationWeek area) (inYear : week.pasDeTempsDebut + nbHoursInWeek ≤ 8760)
    (range : SimplexOptimization) (before : EnergiesEtPuissancesHydrauliques) (deja : Nat) :
    BornesCoherentes range week.mingenHoraire ((fun hydro => hydro.preparer range)^[deja + 1]
        (week.caracteristiques (Calendar.reset settings) range before)) ↔
      week.MingenCouvert (Calendar.reset settings) range deja := by
  rw [bornesCoherentes_caracteristiques_iff]
  constructor
  · rintro ⟨puissance, ecretement, energie⟩
    exact ⟨.inr puissance, ecretement, energie⟩
  · rintro ⟨puissance, ecretement, energie⟩
    refine ⟨fun pdt inWeek => ?_, ecretement, energie⟩
    rcases puissance with whole | covered
    · -- the check has compared the raw powers
      have hour : week.pasDeTempsDebut + pdt < 8760 := by omega
      have day := Calendar.reset_hours_dayYear settings (show week.pasDeTempsDebut + pdt < Calendar.maxHoursInYear from
        hour.trans (by decide))
      rw [whole, mul_one, dayInTheYear, day]
      exact mingen_le_genMaxP common (checkMinGeneration_iff.mp accepted area listed) hour
    · exact covered pdt inWeek

end

end MinGenerationWeek

/-- A reservoir without heuristic target that has to generate all the power it has. -/
def fullPower : MinGenerationArea where
  reservoirManagement := true
  useHeuristicTarget := false
  followLoadModulations := true
  useLeeway := false
  hardBoundsOnRuleCurves := false
  presenceDePompageModulable := false
  leewayLowerBound := 1
  leewayUpperBound := 1
  reservoirCapacity := 1000
  intraDailyModulation := 1
  genMaxP := fun _ => 1
  genMaxE := fun _ => 24
  pumpMaxP := fun _ => 0
  minLvl := fun _ => 0
  srcinflows := fun _ => 24
  srcmingen := fun _ => 1
  intraDailyModulation_ge := le_rfl
  presenceDePompageModulable_managed := fun absent => by cases absent

theorem fullPower_accepted (calendar : Calendar) : checkMinGeneration calendar [fullPower] = true := by
  have hourly : checkHourlyMinGeneration calendar fullPower = true := by
    simp [checkHourlyMinGeneration, fullPower]
  rw [checkMinGeneration_iff]
  intro area listed
  rw [List.mem_singleton.mp listed]
  exact hourly

def halfModulation : MinGenerationWeek fullPower where
  pasDeTempsDebut := 0
  niveauInitialReservoir := 100
  weeklyGeneratingModulation := 1 / 2
  weeklyPumpingModulation := 1
  hydrauliqueModulableQuotidien := fun _ => 24
  weeklyGeneratingModulation_nonneg := by norm_num
  weeklyGeneratingModulation_le := by norm_num

def januarySettings : Calendar.Settings where
  weekday1rstJanuary := .monday
  weekFirstDay := .monday
  firstMonth := 0
  firstMonth_lt := january_lt
  leapYear := false

def allocated : EnergiesEtPuissancesHydrauliques where
  presenceDHydrauliqueModulable := false
  presenceDePompageModulable := false
  turbinageEntreBornes := false
  sansHeuristique := false
  coefficientEcretementPMaxHydraulique := 0
  cntEnergieH2OParIntervalleOptimise := fun _ => 0
  cntEnergieH2OParJour := fun _ => 0
  minEnergieHydrauParIntervalleOptimise := fun _ => 0
  maxEnergieHydrauParIntervalleOptimise := fun _ => 0
  maxEnergiePompageParIntervalleOptimise := fun _ => 0
  inflowForTimeInterval := fun _ => 0
  contrainteDePmaxHydrauliqueHoraire := fun _ => 0
  contrainteDePmaxHydrauliqueHoraireRef := fun _ => 0
  contrainteDePmaxPompageHoraire := fun _ => 0
  maxDesPmaxHydrauliques := 0

theorem halfModulation_coherent_iff :
    BornesCoherentes .sorWeek halfModulation.mingenHoraire ((fun hydro => hydro.preparer .sorWeek)^[0 + 1]
        (halfModulation.caracteristiques (Calendar.reset januarySettings) .sorWeek allocated)) ↔
      halfModulation.MingenCouvert (Calendar.reset januarySettings) .sorWeek 0 :=
  MinGenerationWeek.bornesCoherentes_iff_mingenCouvert rfl (fullPower_accepted _) List.mem_cons_self halfModulation
    (by decide) .sorWeek allocated 0

/-- The check accepts the year, and every hour of the week has less power than it must generate. -/
theorem halfModulation_not_coherent :
    checkMinGeneration (Calendar.reset januarySettings) [fullPower] = true ∧
      ¬BornesCoherentes .sorWeek halfModulation.mingenHoraire ((fun hydro => hydro.preparer .sorWeek)^[0 + 1]
        (halfModulation.caracteristiques (Calendar.reset januarySettings) .sorWeek allocated)) := by
  refine ⟨fullPower_accepted _, fun coherent => ?_⟩
  rw [MinGenerationWeek.bornesCoherentes_caracteristiques_iff] at coherent
  have first := coherent.1 0 (by decide)
  norm_num [MinGenerationWeek.mingenHoraire, fullPower, halfModulation] at first

end Antares.Solver.MinGenerations
