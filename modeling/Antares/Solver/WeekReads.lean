import Antares.Data.SimulationPeriod
import Mathlib.Algebra.Order.Field.Rat
import Mathlib.Data.List.Basic

/-! The rows of the yearly tables that filling the problem of a week reads, among them those of the
day after the week.
-/

set_option autoImplicit false

namespace Antares.Solver.WeekReads

open Data

/-- The tables with a row for each day of the year, then those with a row for each hour. -/
inductive Table where
  | minimumLevel
  | maximumLevel
  | waterValues
  | genMaxP
  | genMaxE
  | pumpMaxP
  | pumpMaxE
  | storage
  | hydrauliqueModulableQuotidien
  | optimalMaxPower
  | pumpingMaxPower
  | hurdlesCostDirect
  | hurdlesCostIndirect
  | directCapacities
  | indirectCapacities
  | loopFlow
  | hourlyConstraint
  | load
  | wind
  | solar
  | ror
  | miscGenSum
  | mustrunSum
  | renewableCluster
  | dayBefore
  | mingen
  deriving DecidableEq, Repr

/-- `DAYS_PER_YEAR` and `HOURS_PER_YEAR` -/
def Table.rows : Table → Nat
  | minimumLevel | maximumLevel | waterValues | genMaxP | genMaxE | pumpMaxP | pumpMaxE | storage
  | hydrauliqueModulableQuotidien | optimalMaxPower | pumpingMaxPower => 365
  | _ => 8760

structure Access where
  table : Table
  row : Nat
  deriving DecidableEq, Repr

def Access.InTable (access : Access) : Prop := access.row < access.table.rows

def reads (tables : List Table) (rows : List Nat) : List Access :=
  rows.flatMap fun row => tables.map fun table => ⟨table, row⟩

def Inside (accesses : List Access) : Prop := ∀ access ∈ accesses, access.InTable

@[simp] theorem inside_nil : Inside [] := by simp [Inside]

@[simp] theorem inside_append {first second : List Access} :
    Inside (first ++ second) ↔ Inside first ∧ Inside second := List.forall_mem_append

@[simp] theorem inside_flatMap {ι : Type} {items : List ι} {accesses : ι → List Access} :
    Inside (items.flatMap accesses) ↔ ∀ item ∈ items, Inside (accesses item) := by
  simp only [Inside, List.mem_flatMap]
  constructor
  · exact fun inside item member access read => inside access ⟨item, member, read⟩
  · rintro inside access ⟨item, member, read⟩
    exact inside item member access read

theorem inside_ite {condition : Prop} [Decidable condition] {accesses : List Access} :
    Inside (if condition then accesses else []) ↔ (condition → Inside accesses) := by
  split
  case isTrue holds => simp [holds]
  case isFalse fails => simp [fails]

theorem inside_reads {rows : List Nat} {height : Nat} (low : ∀ row ∈ rows, row < height) (tables : List Table)
    (tall : ∀ table ∈ tables, table.rows = height) : Inside (reads tables rows) := by
  intro access member
  obtain ⟨row, inRows, member⟩ := List.mem_flatMap.mp member
  obtain ⟨table, inTables, rfl⟩ := List.mem_map.mp member
  show row < table.rows
  rw [tall table inTables]
  exact low row inRows

structure Link where
  useHurdlesCost : Bool

inductive RenewableGenerationModelling where
  | aggregated
  | clusters
  | unknown
  deriving DecidableEq, Repr

structure Area where
  reservoirManagement : Bool
  useWaterValue : Bool
  hardBoundsOnRuleCurves : Bool
  useHeuristicTarget : Bool
  useLeeway : Bool
  pumpingEfficiency : ℚ
  reservoirCapacity : ℚ
  hydroHasMod : Bool
  pumpHasMod : Bool
  renewableClusters : Nat
  /-- What the simulation has left in the reservoir before each week. -/
  previousSimulationFinalLevel : Nat → ℚ

structure Study where
  links : List Link
  areas : List Area
  hourlyConstraints : Nat
  optimisationAuPasHebdomadaire : Bool
  waterValueAccurate : Bool
  renewableGeneration : RenewableGenerationModelling

section Characteristics
variable (study : Study) (area : Area)

/-! What `SIM_InitialisationProblemeHebdo` derives from the area, before the first week. -/

def presenceDePompageModulable : Bool :=
  area.reservoirManagement && area.pumpHasMod && decide (0 < area.pumpingEfficiency) && area.hydroHasMod

def turbinageEntreBornes : Bool :=
  area.reservoirManagement && (!area.useHeuristicTarget || area.useLeeway)

def accurateWaterValue : Bool := study.waterValueAccurate && area.useWaterValue

def suiviNiveauHoraire : Bool :=
  accurateWaterValue study area || (area.reservoirManagement && study.optimisationAuPasHebdomadaire &&
    (!area.useHeuristicTarget || presenceDePompageModulable area))

end Characteristics

section Week
variable (calendar : Calendar) (study : Study) (pasDeTempsDebut : Nat)

def hours : List Nat := List.range' pasDeTempsDebut 168

/-- `weekDayIndex` -/
def weekDayIndex (day : Nat) : Nat := (calendar.hours (pasDeTempsDebut + day * 24)).dayYear

def days : List Nat := (List.range 7).map (weekDayIndex calendar pasDeTempsDebut)

def nextWeekFirstDay : Nat := weekDayIndex calendar pasDeTempsDebut 7

def hurdlesCosts (link : Link) : List Access :=
  if link.useHurdlesCost then reads [.hurdlesCostDirect, .hurdlesCostIndirect] (hours pasDeTempsDebut) else []

variable (weekInTheYear : Nat)

/-- The initial level is neither negative nor over the capacity, otherwise the simulation stops. -/
def acceptsLevel (area : Area) : Bool :=
  !area.reservoirManagement || (!decide (area.previousSimulationFinalLevel weekInTheYear < 0) &&
    !decide (area.reservoirCapacity < area.previousSimulationFinalLevel weekInTheYear))

variable (area : Area)

/-- Levels and water values: of each day and of the next, of the first day and of the same day a week later. -/
def reservoirReads : List Access :=
  if area.reservoirManagement then
    let weekFirstDay := weekDayIndex calendar pasDeTempsDebut 0
    (if area.useWaterValue then [⟨.waterValues, weekFirstDay⟩] else []) ++
    (if area.hydroHasMod && (area.hardBoundsOnRuleCurves && suiviNiveauHoraire study area) then
      (List.range 7).flatMap fun day => reads [.minimumLevel, .maximumLevel]
        [weekDayIndex calendar pasDeTempsDebut day, weekDayIndex calendar pasDeTempsDebut (day + 1)]
    else []) ++
    (if accurateWaterValue study area then [⟨.waterValues, weekFirstDay + 7⟩] else [])
  else []

/-- The areas in their order, until the level of one of them stops the simulation. -/
def reservoirsRead (weekInTheYear : Nat) : List Area → List Access × Bool
  | [] => ([], true)
  | area :: areas =>
    if acceptsLevel weekInTheYear area then
      let rest := reservoirsRead weekInTheYear areas
      (reservoirReads calendar study pasDeTempsDebut area ++ rest.1, rest.2)
    else ([], false)

def capacitiesReads : List Access :=
  study.links.flatMap fun _ => reads [.directCapacities, .indirectCapacities, .loopFlow] (hours pasDeTempsDebut)

def hourReads (hourInYear : Nat) : List Access :=
  let dayInTheYear := (calendar.hours hourInYear).dayYear
  reads [.load, .wind, .solar, .ror] [hourInYear] ++
  (match study.renewableGeneration with
  | .aggregated => reads [.miscGenSum, .mustrunSum] [hourInYear]
  | .clusters =>
    reads ([.miscGenSum, .mustrunSum] ++ List.replicate area.renewableClusters .renewableCluster) [hourInYear]
  | .unknown => []) ++
  (if area.hydroHasMod then [⟨.optimalMaxPower, dayInTheYear⟩] else []) ++
  (if presenceDePompageModulable area then [⟨.pumpingMaxPower, dayInTheYear⟩] else []) ++
  [⟨.dayBefore, hourInYear⟩]

def hoursReads : List Access :=
  (hours pasDeTempsDebut).flatMap fun hourInYear =>
    reads (List.replicate study.hourlyConstraints .hourlyConstraint) [hourInYear] ++
    study.areas.flatMap fun area => hourReads calendar study area hourInYear

/-- Daily energies: with hard bounds, the water that may be used is over the rule curve of the next week. -/
def generationReads : List Access :=
  (if !area.useHeuristicTarget || (presenceDePompageModulable area && study.optimisationAuPasHebdomadaire) then
    reads [.genMaxP, .genMaxE] (days calendar pasDeTempsDebut)
  else []) ++
  if area.useHeuristicTarget &&
      (area.useLeeway || (presenceDePompageModulable area && !study.optimisationAuPasHebdomadaire)) then
    reads [.storage] (days calendar pasDeTempsDebut) ++
    reads [.genMaxP, .genMaxE, .hydrauliqueModulableQuotidien] (days calendar pasDeTempsDebut) ++
    if area.hardBoundsOnRuleCurves then
      List.replicate 7 ⟨.minimumLevel, nextWeekFirstDay calendar pasDeTempsDebut⟩
    else []
  else []

def pumpingReads : List Access :=
  if suiviNiveauHoraire study area then reads [.pumpMaxP, .pumpMaxE] (days calendar pasDeTempsDebut)
  else
    reads [.storage] (days calendar pasDeTempsDebut) ++
    reads [.pumpMaxP, .pumpMaxE] (days calendar pasDeTempsDebut) ++
    reads [.pumpMaxP, .pumpMaxE] (days calendar pasDeTempsDebut) ++
    if area.hardBoundsOnRuleCurves then
      List.replicate 7 ⟨.maximumLevel, nextWeekFirstDay calendar pasDeTempsDebut⟩
    else []

def hydroReads : List Access :=
  if area.hydroHasMod then
    reads [.mingen] (hours pasDeTempsDebut) ++
    (if area.reservoirManagement then generationReads calendar study pasDeTempsDebut area else []) ++
    (if area.reservoirManagement && area.useHeuristicTarget && !area.useLeeway then
      reads [.hydrauliqueModulableQuotidien] (days calendar pasDeTempsDebut)
    else []) ++
    (if !turbinageEntreBornes area then reads [.hydrauliqueModulableQuotidien] (days calendar pasDeTempsDebut)
    else []) ++
    reads [.storage] (days calendar pasDeTempsDebut) ++
    (if presenceDePompageModulable area && area.reservoirManagement then
      pumpingReads calendar study pasDeTempsDebut area
    else [])
  else []

/-- `SIM_RenseignementProblemeHebdo` -/
def renseignementProblemeHebdo : List Access :=
  let reservoirs := reservoirsRead calendar study pasDeTempsDebut weekInTheYear study.areas
  study.links.flatMap (hurdlesCosts pasDeTempsDebut) ++ reservoirs.1 ++
  if reservoirs.2 then
    capacitiesReads study pasDeTempsDebut ++ hoursReads calendar study pasDeTempsDebut ++
    study.areas.flatMap (hydroReads calendar study pasDeTempsDebut)
  else []

end Week

variable (study : Study)

/-- The levels and the water values of the area are read a week ahead. -/
def Area.looksAheadForLevels (area : Area) : Bool :=
  area.reservoirManagement && ((area.hydroHasMod && (area.hardBoundsOnRuleCurves && suiviNiveauHoraire study area)) ||
    accurateWaterValue study area)

/-- The water or the room of the week is counted from the rule curve of the next week. -/
def Area.looksAheadForEnergies (area : Area) : Bool :=
  area.hydroHasMod && area.reservoirManagement && area.hardBoundsOnRuleCurves &&
    ((area.useHeuristicTarget &&
      (area.useLeeway || (presenceDePompageModulable area && !study.optimisationAuPasHebdomadaire))) ||
    (presenceDePompageModulable area && !suiviNiveauHoraire study area))

/-- Some area reads the day after the week before the level of an area stops the simulation. -/
def Study.LooksAhead (weekInTheYear : Nat) : Prop :=
  (∃ area ∈ study.areas.takeWhile (acceptsLevel weekInTheYear), area.looksAheadForLevels study) ∨
  ((∀ area ∈ study.areas, acceptsLevel weekInTheYear area) ∧ ∃ area ∈ study.areas, area.looksAheadForEnergies study)

def hourInTheYear (pStartTime : Nat) : Nat → Nat
  | 0 => pStartTime
  | w + 1 => hourInTheYear pStartTime w + 168

theorem hourInTheYear_eq (day w : Nat) : hourInTheYear (24 * day) w = 24 * (day + 7 * w) := by
  induction w with
  | zero => rfl
  | succ w ih =>
    rw [hourInTheYear, ih]
    omega

section InTable
variable {settings : Calendar.Settings} {study : Study} {day : Nat}

theorem weekDayIndex_reset (within : day + 7 ≤ 365) {j : Nat} (inWeek : j ≤ 7) :
    weekDayIndex (.reset settings) (24 * day) j = day + j := by
  have hour : 24 * day + j * 24 < Calendar.maxHoursInYear := by
    unfold Calendar.maxHoursInYear
    omega
  rw [weekDayIndex, Calendar.reset_hours_dayYear settings hour]
  omega

/-- The hours of the week are in the year, so that the tables with a row for each of them have theirs. -/
theorem inside_hours (within : day + 7 ≤ 365) (tables : List Table) (hourly : ∀ table ∈ tables, table.rows = 8760) :
    Inside (reads tables (hours (24 * day))) := by
  refine inside_reads (fun row member => ?_) tables hourly
  have bounds := List.mem_range'_1.mp member
  omega

theorem inside_days (within : day + 7 ≤ 365) (tables : List Table) (daily : ∀ table ∈ tables, table.rows = 365) :
    Inside (reads tables (days (.reset settings) (24 * day))) := by
  refine inside_reads (fun row member => ?_) tables daily
  obtain ⟨j, inWeek, rfl⟩ := List.mem_map.mp member
  have bound := List.mem_range.mp inWeek
  rw [weekDayIndex_reset within (by omega)]
  omega

theorem inside_reservoirReads_iff (within : day + 7 ≤ 365) (area : Area) :
    Inside (reservoirReads (.reset settings) study (24 * day) area) ↔
      (area.looksAheadForLevels study → day + 7 < 365) := by
  have first : weekDayIndex (.reset settings) (24 * day) 0 = day := weekDayIndex_reset within (by omega)
  have sameDay : Inside [⟨.waterValues, day⟩] ↔ True := by
    simp [Inside, Access.InTable, Table.rows]
    omega
  have weekLater : Inside [⟨.waterValues, day + 7⟩] ↔ day + 7 < 365 := by
    simp [Inside, Access.InTable, Table.rows]
  -- The seventh day is interpolated with the first one of the next week.
  have levels : Inside ((List.range 7).flatMap fun j => reads [.minimumLevel, .maximumLevel]
      [weekDayIndex (.reset settings) (24 * day) j, weekDayIndex (.reset settings) (24 * day) (j + 1)]) ↔
        day + 7 < 365 := by
    rw [inside_flatMap]
    constructor
    · intro inside
      have last := inside 6 (by simp) ⟨.minimumLevel, weekDayIndex (.reset settings) (24 * day) 7⟩ (by simp [reads])
      rwa [Access.InTable, weekDayIndex_reset within (by omega)] at last
    · intro before j inWeek
      have bound := List.mem_range.mp inWeek
      rw [weekDayIndex_reset within (by omega), weekDayIndex_reset within (by omega)]
      refine inside_reads (?_ : ∀ row ∈ _, row < 365) _ (by simp [Table.rows])
      simp
      omega
  unfold reservoirReads Area.looksAheadForLevels
  simp only [inside_ite, inside_append, first, levels, sameDay, weekLater, Bool.and_eq_true, Bool.or_eq_true]
  grind

theorem inside_reservoirsRead_iff (within : day + 7 ≤ 365) (w : Nat) (areas : List Area) :
    Inside (reservoirsRead (.reset settings) study (24 * day) w areas).1 ↔
      ((∃ area ∈ areas.takeWhile (acceptsLevel w), area.looksAheadForLevels study) → day + 7 < 365) := by
  induction areas with
  | nil => simp [reservoirsRead]
  | cons area areas later =>
    cases accepted : acceptsLevel w area with
    | false => simp [reservoirsRead, accepted]
    | true =>
      have one := @inside_reservoirReads_iff settings study day within area
      simp only [reservoirsRead, accepted, if_true, List.takeWhile_cons, inside_append, one, later,
        List.exists_mem_cons_iff, or_imp]

theorem reservoirsRead_snd_iff {calendar : Calendar} {pasDeTempsDebut : Nat} (w : Nat) (areas : List Area) :
    (reservoirsRead calendar study pasDeTempsDebut w areas).2 = true ↔ ∀ area ∈ areas, acceptsLevel w area := by
  induction areas with
  | nil => simp [reservoirsRead]
  | cons area areas later =>
    cases accepted : acceptsLevel w area with
    | false => simp [reservoirsRead, accepted]
    | true => simp [reservoirsRead, accepted, later]

theorem inside_nextWeek_iff (within : day + 7 ≤ 365) (table : Table) (daily : table.rows = 365) :
    Inside (List.replicate 7 ⟨table, nextWeekFirstDay (.reset settings) (24 * day)⟩) ↔ day + 7 < 365 := by
  have next : nextWeekFirstDay (.reset settings) (24 * day) = day + 7 := weekDayIndex_reset within (by omega)
  simp [Inside, Access.InTable, daily, next]

theorem inside_generationReads_iff (within : day + 7 ≤ 365) (area : Area) :
    Inside (generationReads (.reset settings) study (24 * day) area) ↔
      (area.useHeuristicTarget && (area.useLeeway ||
        (presenceDePompageModulable area && !study.optimisationAuPasHebdomadaire)) →
      area.hardBoundsOnRuleCurves → day + 7 < 365) := by
  have ahead := @inside_nextWeek_iff settings day within .minimumLevel rfl
  have powers := @inside_days settings day within [.genMaxP, .genMaxE] (by simp [Table.rows])
  have inflows := @inside_days settings day within [.storage] (by simp [Table.rows])
  have targets := @inside_days settings day within [.genMaxP, .genMaxE, .hydrauliqueModulableQuotidien]
    (by simp [Table.rows])
  unfold generationReads
  simp only [inside_ite, inside_append, ahead, powers, inflows, targets]
  grind

theorem inside_pumpingReads_iff (within : day + 7 ≤ 365) (area : Area) :
    Inside (pumpingReads (.reset settings) study (24 * day) area) ↔
      (¬ suiviNiveauHoraire study area → area.hardBoundsOnRuleCurves → day + 7 < 365) := by
  have ahead := @inside_nextWeek_iff settings day within .maximumLevel rfl
  have powers := @inside_days settings day within [.pumpMaxP, .pumpMaxE] (by simp [Table.rows])
  have inflows := @inside_days settings day within [.storage] (by simp [Table.rows])
  unfold pumpingReads
  cases suiviNiveauHoraire study area with
  | true => simpa using powers
  | false => simp only [Bool.false_eq_true, if_false, inside_ite, inside_append, ahead, powers, inflows, true_and,
      not_false_eq_true, true_imp_iff]

theorem inside_hydroReads_iff (within : day + 7 ≤ 365) (area : Area) :
    Inside (hydroReads (.reset settings) study (24 * day) area) ↔
      (area.looksAheadForEnergies study → day + 7 < 365) := by
  have hourly := inside_hours within [.mingen] (by simp [Table.rows])
  have targets := @inside_days settings day within [.hydrauliqueModulableQuotidien] (by simp [Table.rows])
  have inflows := @inside_days settings day within [.storage] (by simp [Table.rows])
  unfold hydroReads Area.looksAheadForEnergies
  simp only [inside_ite, inside_append, inside_generationReads_iff within, inside_pumpingReads_iff within, hourly,
    targets, inflows, Bool.and_eq_true, Bool.or_eq_true, Bool.not_eq_true', Bool.not_eq_true]
  have managed : presenceDePompageModulable area = true → area.reservoirManagement = true := by
    simp only [presenceDePompageModulable, Bool.and_eq_true]
    tauto
  grind

theorem inside_hourReads (within : day + 7 ≤ 365) (area : Area) {hour : Nat} (inWeek : hour ∈ hours (24 * day)) :
    Inside (hourReads (.reset settings) study area hour) := by
  have bounds := List.mem_range'_1.mp inWeek
  have inYear : ∀ row ∈ [hour], row < 8760 := by
    simp
    omega
  have dayYear : ((Calendar.reset settings).hours hour).dayYear < 365 := by
    rw [Calendar.reset_hours_dayYear settings (by unfold Calendar.maxHoursInYear; omega)]
    omega
  have series := inside_reads inYear [.load, .wind, .solar, .ror] (by simp [Table.rows])
  have sums := inside_reads inYear [.miscGenSum, .mustrunSum] (by simp [Table.rows])
  have clusters := inside_reads inYear
    ([.miscGenSum, .mustrunSum] ++ List.replicate area.renewableClusters .renewableCluster) (by
      simp [Table.rows])
  unfold hourReads
  simp only [inside_append, inside_ite, series]
  refine ⟨⟨⟨⟨trivial, ?_⟩, ?_⟩, ?_⟩, ?_⟩
  · cases study.renewableGeneration with
    | aggregated => exact sums
    | clusters => exact clusters
    | unknown => exact inside_nil
  all_goals simp [Inside, Access.InTable, Table.rows, dayYear, inYear]

theorem inside_renseignementProblemeHebdo_iff (within : day + 7 ≤ 365) (w : Nat) :
    Inside (renseignementProblemeHebdo (.reset settings) study (24 * day) w) ↔
      (study.LooksAhead w → day + 7 < 365) := by
  have costs : ∀ link ∈ study.links, Inside (hurdlesCosts (24 * day) link) := by
    intro link _
    have inside := inside_hours within [.hurdlesCostDirect, .hurdlesCostIndirect] (by simp [Table.rows])
    exact inside_ite.mpr fun _ => inside
  have capacities : Inside (capacitiesReads study (24 * day)) :=
    inside_flatMap.mpr fun _ _ =>
      inside_hours within [.directCapacities, .indirectCapacities, .loopFlow] (by simp [Table.rows])
  have series : Inside (hoursReads (.reset settings) study (24 * day)) := by
    refine inside_flatMap.mpr fun hour inWeek => inside_append.mpr ⟨?_, ?_⟩
    · have bounds := List.mem_range'_1.mp inWeek
      refine inside_reads (?_ : ∀ row ∈ _, row < 8760) _ (by simp [Table.rows])
      simp
      omega
    · exact inside_flatMap.mpr fun area _ => inside_hourReads within area inWeek
  have energies : Inside (study.areas.flatMap (hydroReads (.reset settings) study (24 * day))) ↔
      ((∃ area ∈ study.areas, area.looksAheadForEnergies study) → day + 7 < 365) := by
    simp only [inside_flatMap, inside_hydroReads_iff within, forall_exists_index, and_imp]
  unfold renseignementProblemeHebdo Study.LooksAhead
  simp only [inside_append, inside_ite, inside_flatMap.mpr costs, capacities, series, energies,
    inside_reservoirsRead_iff within, reservoirsRead_snd_iff, true_and, or_imp, and_imp]

end InTable

/-- A study without data, but for one reservoir with hard bounds in a weekly optimisation. -/
def hardBoundsStudy : Study where
  links := []
  areas := [{
    reservoirManagement := true
    useWaterValue := false
    hardBoundsOnRuleCurves := true
    useHeuristicTarget := false
    useLeeway := false
    pumpingEfficiency := 1
    reservoirCapacity := 1
    hydroHasMod := true
    pumpHasMod := false
    renewableClusters := 0
    previousSimulationFinalLevel := fun _ => 0 }]
  hourlyConstraints := 0
  optimisationAuPasHebdomadaire := true
  waterValueAccurate := false
  renewableGeneration := .aggregated

theorem hardBoundsStudy_looksAhead (w : Nat) : hardBoundsStudy.LooksAhead w := by
  simp [Study.LooksAhead, hardBoundsStudy, acceptsLevel, Area.looksAheadForLevels, suiviNiveauHoraire,
    accurateWaterValue]

def januaryYear : Calendar.Settings := ⟨.monday, .monday, january, january_lt, false⟩

theorem fromSecondDay_accepted : ∃ limits, initializeRangeLimits (.reset januaryYear) ⟨1, 365⟩ 1 1 = .ok limits :=
  (initializeRangeLimits_isOk_iff januaryYear (by decide) (by decide) (by decide) 1 1).mpr (by decide)

/-- The rows that the weeks of a simulation read are all there, if and only if the last week ends before the
last day of the year or no area looks ahead in it.
-/
theorem weeks_inside_iff (settings : Calendar.Settings) {simulationDays : Interval}
    (ordered : simulationDays.first < simulationDays.end) (last : simulationDays.end ≤ 365)
    {nbYears effectiveNbYears : Nat}
    (accepted : ∃ limits, initializeRangeLimits (.reset settings) simulationDays nbYears effectiveNbYears = .ok limits)
    (study : Study) :
    (∀ w < simulationDays.numberOfWeeks,
      Inside (renseignementProblemeHebdo (.reset settings) study
        (hourInTheYear (firstHour (.reset settings) simulationDays) w) w)) ↔
      (simulationDays.first + 7 * simulationDays.numberOfWeeks < 365 ∨
        ¬ study.LooksAhead (simulationDays.numberOfWeeks - 1)) := by
  have long := (initializeRangeLimits_isOk_iff settings (by unfold Calendar.maxDaysInYear; omega) (by omega)
    (by unfold Calendar.maxDaysInYear; omega) nbYears effectiveNbYears).mp accepted
  have weeks := Interval.numberOfWeeks_of_le ordered.le (by omega)
  have start : firstHour (.reset settings) simulationDays = 24 * simulationDays.first :=
    firstHour_reset settings (by unfold Calendar.maxDaysInYear; omega)
  have week {w : Nat} (simulated : w < simulationDays.numberOfWeeks) :=
    @inside_renseignementProblemeHebdo_iff settings study (simulationDays.first + 7 * w) (by omega) w
  simp only [start, hourInTheYear_eq]
  constructor
  · intro inside
    have final := (week (by omega)).mp (inside (simulationDays.numberOfWeeks - 1) (by omega))
    by_cases ahead : study.LooksAhead (simulationDays.numberOfWeeks - 1)
    · have before := final ahead
      left
      omega
    · exact .inr ahead
  · intro condition w simulated
    refine (week simulated).mpr fun ahead => ?_
    rcases condition with before | never
    · omega
    · have notLast : w ≠ simulationDays.numberOfWeeks - 1 := fun same => never (same ▸ ahead)
      omega

/-- From the first day of the year the last week ends a day before the year. -/
theorem fromFirstDay_inside : (⟨0, 365⟩ : Interval).numberOfWeeks = 52 ∧
    ∀ w < (⟨0, 365⟩ : Interval).numberOfWeeks,
      Inside (renseignementProblemeHebdo (.reset januaryYear) hardBoundsStudy
        (hourInTheYear (firstHour (.reset januaryYear) ⟨0, 365⟩) w) w) :=
  ⟨by decide, (weeks_inside_iff januaryYear (by decide) (by decide)
    ((initializeRangeLimits_isOk_iff januaryYear (by decide) (by decide) (by decide) 1 1).mpr (by decide))
    hardBoundsStudy).mpr (.inl (by decide))⟩

/-- From the second day of the year its last week ends with the year. -/
theorem fromSecondDay_not_inside : loadSimulationDays (some 2) (some 365) = ⟨1, 365⟩ ∧
    (∃ limits, initializeRangeLimits (.reset januaryYear) ⟨1, 365⟩ 1 1 = .ok limits) ∧
    ¬ ∀ w < (⟨1, 365⟩ : Interval).numberOfWeeks,
      Inside (renseignementProblemeHebdo (.reset januaryYear) hardBoundsStudy
        (hourInTheYear (firstHour (.reset januaryYear) ⟨1, 365⟩) w) w) := by
  refine ⟨by decide, fromSecondDay_accepted, fun inside => ?_⟩
  have start : firstHour (.reset januaryYear) ⟨1, 365⟩ = 24 * 1 := firstHour_reset januaryYear (by decide)
  have last := inside 51 (by decide)
  rw [start, hourInTheYear_eq] at last
  have before := (inside_renseignementProblemeHebdo_iff (by decide) 51).mp last (hardBoundsStudy_looksAhead 51)
  exact absurd before (by decide)

end Antares.Solver.WeekReads
