import Antares.Library.BoundedTables
import Antares.Solver.HydroTargets

/-! The daily optimal generations of a hydro area, on the tables they read and fill. They stay within their
tables when no debug file is asked for, and always leave them when one is: the days of its copy are counted
on from the end of the year.
-/

set_option autoImplicit false

namespace Antares.Solver

open Data Library

/-- The tables; those of `DebugData` have `debug` in front where their name is taken or short. -/
inductive HydroTable where
  | optimalMaxPower
  | genMaxP
  | genMaxE
  | lowLevel
  | srcinflows
  | dle
  | dln
  | dailyMinGen
  | mog
  | mol
  | dailyTargetGen
  | hydrauliqueModulableQuotidien
  | niveauxReservoirsDebutJours
  | niveauxReservoirsFinJours
  | debugOPP
  | debugDailyTargetGen
  | debugOverflow
  | debugDeviation
  | debugViolation
  | deviationMax
  | violationMax
  | waste
  | coutTotal
  | previousMonthWaste
  deriving DecidableEq, Repr

structure DailyHydroArea extends HydroArea where
  reservoirManagement : Bool
  reservoirCapacity : Rat
  initializeReservoirLevelDate : Nat
  initializeReservoirLevelDate_lt : initializeReservoirLevelDate < 12

structure DailySettings where
  hydroDebug : Bool
  /-- The first of the simulated days. -/
  firstDaySimu : Nat
  firstDaySimu_lt : firstDaySimu < 365

namespace DailyHydroArea
variable (area : DailyHydroArea)

/-- The entries of each table; the levels are kept for a managed reservoir only. -/
def size : HydroTable → Nat
  | .optimalMaxPower | .genMaxP | .genMaxE | .lowLevel | .srcinflows => 365
  | .dle | .dln | .dailyMinGen => 366
  | .mog | .mol => 12
  | .dailyTargetGen => 12 * 32
  | .hydrauliqueModulableQuotidien => 365
  | .niveauxReservoirsDebutJours | .niveauxReservoirsFinJours => if area.reservoirManagement then 365 else 0
  | .debugOPP | .debugDailyTargetGen => 366
  | .debugOverflow | .debugDeviation | .debugViolation => 365
  | .deviationMax | .violationMax | .waste | .coutTotal | .previousMonthWaste => 12

end DailyHydroArea

inductive ResultatsValides where
  | oui
  | non
  | emergencyShutDown

structure DonneesMensuelles where
  nombreDeJoursDuMois : Nat
  turbineDuMois : Rat
  turbineMax : List Rat
  turbineMin : List Rat
  turbineCible : List Rat

structure SolutionMensuelle where
  resultatsValides : ResultatsValides
  turbine : Nat → Rat

structure DonneesMensuellesEtendues extends DonneesMensuelles where
  reservoirCapacity : Rat
  niveauInitialDuMois : Rat
  niveauBas : List Rat
  apports : List Rat

structure SolutionMensuelleEtendue extends SolutionMensuelle where
  niveauxFinJours : Nat → Rat
  overflows : Nat → Rat
  deviations : Nat → Rat
  violations : Nat → Rat
  deviationMax : Rat
  violationMax : Rat
  waste : Rat
  coutSolution : Rat

inductive HydroError where
  | solutionNotFound
  | fatalError

abbrev HydroTables := Tables HydroTable Rat

abbrev HydroRun := Run HydroTable HydroError

/-- The tables, the final level of a managed reservoir and the lines of the debug file. -/
structure DailyGenerations where
  tables : HydroTables
  previousSimulationFinalLevel : Option Rat
  debugLines : List (List Rat)

section
variable (calendar : Calendar) (area : DailyHydroArea)

/-- The optimisers of a month, without and with a managed reservoir. -/
structure MonthOptimisers where
  h2oJ : DonneesMensuelles → SolutionMensuelle
  h2o2J : DonneesMensuellesEtendues → SolutionMensuelleEtendue

def readHydro (tables : HydroTables) (table : HydroTable) (index : Nat) : HydroRun Rat := readTable area.size tables table index

def writeHydro (table : HydroTable) (index : Nat) (value : Rat) (tables : HydroTables) : HydroRun HydroTables :=
  writeTable area.size tables table index value

/-- The twelve months, with the first day of each counted on the way. -/
def overMonths (turn : Nat → Nat → HydroTables → HydroRun HydroTables) (tables : HydroTables) : HydroRun (HydroTables × Nat) :=
  (List.range 12).foldlM (fun (tables, dayYear) month => do
    let tables ← turn month dayYear tables
    return (tables, dayYear + (calendar.months month).days)) (tables, 0)

def maxPowerOfMonth (hydroDebug : Bool) (month dayYear : Nat) (tables : HydroTables) : HydroRun HydroTables :=
  (List.range (calendar.months month).days).foldlM (fun tables day => do
    let dYear := day + dayYear
    let tables ← writeHydro area .optimalMaxPower dYear (← readHydro area tables .genMaxP dYear) tables
    if hydroDebug then
      writeHydro area .debugOPP dYear ((← readHydro area tables .genMaxP dYear) * (← readHydro area tables .genMaxE dYear)) tables
    else return tables) tables

def inflowsOfMonth (month dayYear : Nat) (tables : HydroTables) : HydroRun HydroTables :=
  (List.range (calendar.months month).days).foldlM (fun tables day => do
    writeHydro area .dailyTargetGen (dayYear + day) (← readHydro area tables .srcinflows (dayYear + day)) tables) tables

def targetsOfMonth (power : Rat → Rat → Rat) (month dayYear : Nat) (tables : HydroTables) : HydroRun HydroTables := do
  let info := calendar.months month
  if area.followLoadModulations then
    let demands ← (List.range info.days).mapM fun day => readHydro area tables .dle (day + dayYear)
    let mog ← readHydro area tables .mog info.realmonth
    let targets := monthTargets power area.toHydroArea mog demands
    (List.range info.days).foldlM (fun tables day => writeHydro area .dailyTargetGen (day + dayYear) (targets.getD day 0) tables) tables
  else return tables

/-- The copy for the debug file: the day the months are counted from is left where it was. -/
def copyTargets (dayYear : Nat) (tables : HydroTables) : HydroRun HydroTables :=
  (List.range 12).foldlM (fun tables month =>
    (List.range (calendar.months month).days).foldlM (fun tables day => do
      let dYear := day + dayYear
      writeHydro area .debugDailyTargetGen dYear (← readHydro area tables .dailyTargetGen dYear) tables) tables) tables

section Months
variable (optimisers : MonthOptimisers)

/-- One month without managed reservoir; `realmonth` is the civil one. -/
def turbineMonth (realmonth : Nat) (tables : HydroTables) : HydroRun HydroTables := do
  let info := calendar.months (calendar.mappingMonths realmonth)
  let days := daysFrom info.daysYear.first info.days
  let problem : DonneesMensuelles := {
    nombreDeJoursDuMois := info.days
    turbineDuMois := ← readHydro area tables .mog realmonth
    turbineMax := ← days.mapM fun day => do return (← readHydro area tables .genMaxP day) * (← readHydro area tables .genMaxE day)
    turbineMin := ← days.mapM fun day => readHydro area tables .dailyMinGen day
    turbineCible := ← days.mapM fun day => readHydro area tables .dailyTargetGen day }
  let solution := optimisers.h2oJ problem
  match solution.resultatsValides with
  | .oui => (List.range info.days).foldlM (fun tables dayMonth =>
      writeHydro area .hydrauliqueModulableQuotidien (info.daysYear.first + dayMonth) (solution.turbine dayMonth) tables) tables
  | .non => throw (.thrown .solutionNotFound)
  | .emergencyShutDown => throw (.thrown .fatalError)

structure ReservoirState where
  tables : HydroTables
  monthInitialLevel : Rat
  wasteFromPreviousMonth : Rat

def problemOfMonth (realmonth : Nat) (state : ReservoirState) : HydroRun DonneesMensuellesEtendues := do
  let capacity := area.reservoirCapacity
  let waste := state.wasteFromPreviousMonth
  let tables := state.tables
  let info := calendar.months (calendar.mappingMonths realmonth)
  let days := daysFrom info.daysYear.first info.days
  return {
    nombreDeJoursDuMois := info.days
    turbineDuMois := ((← readHydro area tables .mog realmonth) + waste) / capacity
    turbineMax := ← days.mapM fun day =>
      do return (← readHydro area tables .genMaxP day) * (← readHydro area tables .genMaxE day) / capacity
    turbineMin := ← days.mapM fun day => do return (← readHydro area tables .dailyMinGen day) / capacity
    turbineCible := ← days.mapM fun day => do return ((← readHydro area tables .dailyTargetGen day) + waste / info.days) / capacity
    reservoirCapacity := capacity
    niveauInitialDuMois := state.monthInitialLevel
    niveauBas := ← days.mapM fun day => readHydro area tables .lowLevel ((day + 1) % 365)
    apports := ← days.mapM fun day => do return (← readHydro area tables .srcinflows day) / capacity }

variable (hydroDebug : Bool) (solution : SolutionMensuelleEtendue)

def keepDay (firstDay : Nat) (tables : HydroTables) (dayMonth : Nat) :
    HydroRun HydroTables := do
  let day := firstDay + dayMonth
  let tables ← writeHydro area .hydrauliqueModulableQuotidien day (solution.turbine dayMonth * area.reservoirCapacity) tables
  let tables ← writeHydro area .niveauxReservoirsFinJours day (solution.niveauxFinJours dayMonth) tables
  if hydroDebug then
    let tables ← writeHydro area .debugOverflow day (solution.overflows dayMonth) tables
    let tables ← writeHydro area .debugDeviation day (solution.deviations dayMonth) tables
    writeHydro area .debugViolation day (solution.violations dayMonth) tables
  else return tables

def startDay (firstDay : Nat) (tables : HydroTables) (dayMonth : Nat) : HydroRun HydroTables := do
  let day := firstDay + 1 + dayMonth
  writeHydro area .niveauxReservoirsDebutJours day (← readHydro area tables .niveauxReservoirsFinJours (day - 1)) tables

def debugMonth (realmonth : Nat) (tables : HydroTables) : HydroRun HydroTables := do
  if hydroDebug then
    let tables ← writeHydro area .deviationMax realmonth solution.deviationMax tables
    let tables ← writeHydro area .violationMax realmonth solution.violationMax tables
    let tables ← writeHydro area .waste realmonth solution.waste tables
    writeHydro area .coutTotal realmonth solution.coutSolution tables
  else return tables

def reservoirMonth (realmonth : Nat) (state : ReservoirState) : HydroRun ReservoirState := do
  let info := calendar.months (calendar.mappingMonths realmonth)
  let firstDay := info.daysYear.first
  let tables ← if hydroDebug then
      writeHydro area .previousMonthWaste realmonth (state.wasteFromPreviousMonth / area.reservoirCapacity) state.tables
    else pure state.tables
  let solution := optimisers.h2o2J (← problemOfMonth calendar area realmonth { state with tables })
  match solution.resultatsValides with
  | .oui =>
    let tables ← debugMonth area hydroDebug solution realmonth tables
    let tables ← (List.range info.days).foldlM (keepDay area hydroDebug solution firstDay) tables
    let tables ← writeHydro area .niveauxReservoirsDebutJours firstDay state.monthInitialLevel tables
    let tables ← (List.range (info.days - 1)).foldlM (startDay area firstDay) tables
    return {
      tables
      monthInitialLevel := solution.niveauxFinJours (info.days - 1)
      wasteFromPreviousMonth := solution.waste * area.reservoirCapacity }
  | .non => throw (.thrown .solutionNotFound)
  | .emergencyShutDown => throw (.thrown .fatalError)

end Months

section DebugFiles

variable (tables : HydroTables)

/-- The lines of `writeTurb`, without their day. -/
def writeTurb : HydroRun (List (List Rat)) :=
  (List.range 365).mapM fun day =>
    [HydroTable.hydrauliqueModulableQuotidien, .debugOPP, .debugDailyTargetGen, .dle, .dln].mapM fun table =>
      readHydro area tables table day

/-- What `writeDailyDebugData` reads for a day, and more for the first one of a month. -/
def dailyDebugLine (realmonth dayMonth day : Nat) (tables : HydroTables) : HydroRun (List Rat) := do
  let daily ← [HydroTable.hydrauliqueModulableQuotidien, .niveauxReservoirsDebutJours, .niveauxReservoirsFinJours, .srcinflows,
    .genMaxP, .genMaxE, .dailyTargetGen, .lowLevel, .debugOverflow, .debugDeviation, .debugViolation].mapM fun table => readHydro area tables table day
  let waste ← readHydro area tables .previousMonthWaste realmonth
  let monthly ←
    if dayMonth = 0 then
      [HydroTable.deviationMax, .violationMax, .waste, .coutTotal, .mog].mapM fun table => readHydro area tables table realmonth
    else pure []
  return daily ++ waste :: monthly

/-- The values of `writeDailyDebugData`, before they are divided by the capacity. -/
def writeDailyDebugData : HydroRun (List (List Rat)) := do
  let initial ← readHydro area tables .mol area.initializeReservoirLevelDate
  let months ← (List.range 12).mapM fun month => do
    let realmonth := (area.initializeReservoirLevelDate + month) % 12
    let info := calendar.months (calendar.mappingMonths realmonth)
    (List.range info.days).mapM fun dayMonth => dailyDebugLine area realmonth dayMonth (info.daysYear.first + dayMonth) tables
  return [initial] :: months.flatten

end DebugFiles

section
variable (power : Rat → Rat → Rat) (optimisers : MonthOptimisers) (settings : DailySettings)

variable (tables : HydroTables)

/-- The parts of `prepareDailyOptimalGenerations` before its months are optimised, with the day they end at. -/
def prepareTargets : HydroRun (HydroTables × Nat) := do
  let (tables, _) ← overMonths calendar (maxPowerOfMonth calendar area settings.hydroDebug) tables
  if !area.useHeuristicTarget || (area.useHeuristicTarget && !area.followLoadModulations) then
    overMonths calendar (inflowsOfMonth calendar area) tables
  else overMonths calendar (targetsOfMonth calendar area power) tables

def optimiseWithoutReservoir : HydroRun DailyGenerations := do
  let tables ← (List.range 12).foldlM (fun tables month =>
    turbineMonth calendar area optimisers ((area.initializeReservoirLevelDate + month) % 12) tables) tables
  let debugLines ← if settings.hydroDebug then writeTurb area tables else pure []
  return { tables, previousSimulationFinalLevel := none, debugLines }

def optimiseReservoir : HydroRun DailyGenerations := do
  let monthInitialLevel ← readHydro area tables .mol area.initializeReservoirLevelDate
  let state ← (List.range 12).foldlM (fun state month =>
    reservoirMonth calendar area optimisers settings.hydroDebug ((area.initializeReservoirLevelDate + month) % 12) state)
    { tables, monthInitialLevel, wasteFromPreviousMonth := 0 }
  let level ← readHydro area state.tables .niveauxReservoirsDebutJours settings.firstDaySimu
  let debugLines ← if settings.hydroDebug then writeDailyDebugData calendar area state.tables else pure []
  return { tables := state.tables, previousSimulationFinalLevel := some (level * area.reservoirCapacity), debugLines }

def prepareDailyOptimalGenerations : HydroRun DailyGenerations := do
  let (tables, dayYear) ← prepareTargets calendar area power settings tables
  let tables ← if settings.hydroDebug then copyTargets calendar area dayYear tables else pure tables
  if area.reservoirManagement then optimiseReservoir calendar area optimisers settings tables
  else optimiseWithoutReservoir calendar area optimisers settings tables

end

end

def daysUntil (calendar : Calendar) (month : Nat) : Nat := ((List.range month).map fun earlier => (calendar.months earlier).days).sum

structure PartitionsYear (calendar : Calendar) : Prop where
  days_pos : ∀ month < 12, 0 < (calendar.months month).days
  total : daysUntil calendar 12 = 365
  first : ∀ month < 12, (calendar.months month).daysYear.first = daysUntil calendar month
  realmonth_lt : ∀ month < 12, (calendar.months month).realmonth < 12
  mapping_lt : ∀ realmonth < 12, calendar.mappingMonths realmonth < 12

section
variable {calendar : Calendar}

theorem daysUntil_succ (month : Nat) : daysUntil calendar (month + 1) = daysUntil calendar month + (calendar.months month).days := by
  simp [daysUntil, List.range_succ]

theorem daysUntil_mono : Monotone (daysUntil calendar) := by
  apply monotone_nat_of_le_succ
  intro month
  rw [daysUntil_succ]
  exact Nat.le_add_right _ _

variable (partitions : PartitionsYear calendar)
include partitions

theorem PartitionsYear.day_lt {month day : Nat} (within : month < 12) (inside : day < (calendar.months month).days) :
    daysUntil calendar month + day < 365 := by
  have grows : daysUntil calendar (month + 1) ≤ daysUntil calendar 12 := daysUntil_mono within
  rw [daysUntil_succ, partitions.total] at grows
  omega

theorem PartitionsYear.exists_longer : ∃ month < 12, 1 < (calendar.months month).days := by
  by_contra none
  push Not at none
  have short (months : Nat) (within : months ≤ 12) : daysUntil calendar months ≤ months := by
    induction months with
    | zero => exact le_rfl
    | succ months ih =>
      rw [daysUntil_succ]
      exact Nat.add_le_add (ih (by omega)) (none months (by omega))
  have year := short 12 le_rfl
  rw [partitions.total] at year
  omega

end

section
variable {area : DailyHydroArea} {thrown : Prop}

@[simp] theorem satisfies_readHydro {post : Rat → Prop} (tables : HydroTables) (table : HydroTable) (index : Nat) :
    (readHydro area tables table index).Satisfies thrown post ↔ index < area.size table ∧ post (tables table index) :=
  satisfies_readTable tables table index

@[simp] theorem satisfies_writeHydro {post : HydroTables → Prop} (table : HydroTable) (index : Nat) (value : Rat) (tables : HydroTables) :
    (writeHydro area table index value tables).Satisfies thrown post ↔
      index < area.size table ∧ post (Function.update tables table (Function.update (tables table) index value)) :=
  satisfies_writeTable tables table index value

variable {calendar : Calendar} (partitions : PartitionsYear calendar)

theorem satisfies_overMonths {turn : Nat → Nat → HydroTables → HydroRun HydroTables}
    (each : ∀ month < 12, ∀ tables, (turn month (daysUntil calendar month) tables).Satisfies thrown fun _ => True) (tables : HydroTables) :
    (overMonths calendar turn tables).Satisfies thrown fun result => result.2 = daysUntil calendar 12 := by
  apply satisfies_foldlM_range fun month (state : HydroTables × Nat) => state.2 = daysUntil calendar month
  · rintro month within ⟨tables, dayYear⟩ running
    dsimp only at running
    rw [satisfies_bind, running]
    apply (each month within tables).mono id
    intro result _
    exact (daysUntil_succ month).symm
  · rfl

include partitions

theorem maxPowerOfMonth_satisfies (hydroDebug : Bool) (month : Nat) (within : month < 12) (tables : HydroTables) :
    (maxPowerOfMonth calendar area hydroDebug month (daysUntil calendar month) tables).Satisfies thrown fun _ => True := by
  apply satisfies_foldlM
  intro day listed state
  have inside := partitions.day_lt within (List.mem_range.mp listed)
  rw [Nat.add_comm] at inside
  cases hydroDebug <;> simp [DailyHydroArea.size, inside]
  omega

theorem inflowsOfMonth_satisfies (month : Nat) (within : month < 12) (tables : HydroTables) :
    (inflowsOfMonth calendar area month (daysUntil calendar month) tables).Satisfies thrown fun _ => True := by
  apply satisfies_foldlM
  intro day listed state
  have inside := partitions.day_lt within (List.mem_range.mp listed)
  simp [DailyHydroArea.size, inside]
  omega

variable (power : Rat → Rat → Rat)

theorem targetsOfMonth_satisfies (month : Nat) (within : month < 12) (tables : HydroTables) :
    (targetsOfMonth calendar area power month (daysUntil calendar month) tables).Satisfies thrown fun _ => True := by
  have inside (day : Nat) (listed : day ∈ List.range (calendar.months month).days) : day + daysUntil calendar month < 365 := by
    rw [Nat.add_comm]
    exact partitions.day_lt within (List.mem_range.mp listed)
  unfold targetsOfMonth
  split_ifs
  · rw [satisfies_bind]
    apply (satisfies_mapM fun day listed => ?_).mono id
    · intro demands _
      rw [satisfies_bind, satisfies_readHydro]
      refine ⟨partitions.realmonth_lt month within, ?_⟩
      apply satisfies_foldlM
      intro day listed state
      have := inside day listed
      simp [DailyHydroArea.size]
      omega
    · have := inside day listed
      simp [DailyHydroArea.size]
      omega
  · trivial

theorem prepareTargets_satisfies (settings : DailySettings) (tables : HydroTables) :
    (prepareTargets calendar area power settings tables).Satisfies thrown fun result => result.2 = 365 := by
  rw [← partitions.total]
  unfold prepareTargets
  rw [satisfies_bind]
  apply (satisfies_overMonths (maxPowerOfMonth_satisfies partitions settings.hydroDebug) tables).mono id
  rintro ⟨filled, _⟩ _
  dsimp only
  split_ifs
  · exact satisfies_overMonths (inflowsOfMonth_satisfies partitions) filled
  · exact satisfies_overMonths (targetsOfMonth_satisfies partitions power) filled

section
variable {realmonth : Nat} (within : realmonth < 12)
include within

theorem mapped_day_lt {dayMonth : Nat} (inside : dayMonth < (calendar.months (calendar.mappingMonths realmonth)).days) :
    (calendar.months (calendar.mappingMonths realmonth)).daysYear.first + dayMonth < 365 := by
  have mapped := partitions.mapping_lt realmonth within
  rw [partitions.first _ mapped]
  exact partitions.day_lt mapped inside

theorem mem_days_within {day : Nat} (listed : day ∈ daysFrom (calendar.months (calendar.mappingMonths realmonth)).daysYear.first
    (calendar.months (calendar.mappingMonths realmonth)).days) : day < 365 ∧ day < 366 ∧ day < 12 * 32 := by
  obtain ⟨after, before⟩ := mem_daysFrom.mp listed
  have year := @mapped_day_lt calendar partitions realmonth within
    (day - (calendar.months (calendar.mappingMonths realmonth)).daysYear.first) (by omega)
  omega

theorem turbineMonth_satisfies (optimisers : MonthOptimisers) (tables : HydroTables) :
    (turbineMonth calendar area optimisers realmonth tables).Satisfies True fun _ => True := by
  have inYear := @mem_days_within calendar partitions realmonth within
  unfold turbineMonth
  apply satisfies_andThen (by simpa [DailyHydroArea.size] using within)
  intro mog
  apply satisfies_andThen (satisfies_mapM fun day listed => by simp [DailyHydroArea.size, inYear listed])
  intro turbineMax
  apply satisfies_andThen (satisfies_mapM fun day listed => by simp [DailyHydroArea.size, inYear listed])
  intro turbineMin
  apply satisfies_andThen (satisfies_mapM fun day listed => by simpa [DailyHydroArea.size] using (inYear listed).2.2)
  intro turbineCible
  dsimp only
  split
  · apply satisfies_foldlM
    intro dayMonth inside state
    simpa [DailyHydroArea.size] using mapped_day_lt partitions within (List.mem_range.mp inside)
  · trivial
  · trivial

theorem problemOfMonth_satisfies (state : ReservoirState) :
    (problemOfMonth calendar area realmonth state).Satisfies thrown fun _ => True := by
  have inYear := @mem_days_within calendar partitions realmonth within
  unfold problemOfMonth
  apply satisfies_andThen (by simpa [DailyHydroArea.size] using within)
  intro mog
  apply satisfies_andThen (satisfies_mapM fun day listed => by simp [DailyHydroArea.size, inYear listed])
  intro turbineMax
  apply satisfies_andThen (satisfies_mapM fun day listed => by simp [DailyHydroArea.size, inYear listed])
  intro turbineMin
  apply satisfies_andThen (satisfies_mapM fun day listed => by simpa [DailyHydroArea.size] using (inYear listed).2.2)
  intro turbineCible
  -- the level at the end of a day is the one of the next day, and of the first day after the last
  apply satisfies_andThen (satisfies_mapM fun day listed => by simp [DailyHydroArea.size, Nat.mod_lt])
  intro niveauBas
  apply satisfies_andThen (satisfies_mapM fun day listed => by simp [DailyHydroArea.size, inYear listed])
  intro apports
  trivial

theorem reservoirMonth_satisfies (managed : area.reservoirManagement = true) (optimisers : MonthOptimisers) (state : ReservoirState) :
    (reservoirMonth calendar area optimisers false realmonth state).Satisfies True fun _ => True := by
  have some_day := partitions.days_pos _ (partitions.mapping_lt realmonth within)
  unfold reservoirMonth
  apply satisfies_andThen (by simp)
  intro tables
  apply satisfies_andThen (problemOfMonth_satisfies partitions within _)
  intro problem
  dsimp only
  split
  · apply satisfies_andThen (by simp [debugMonth])
    intro tables
    apply satisfies_andThen
    · apply satisfies_foldlM
      intro dayMonth inside state
      simpa [keepDay, DailyHydroArea.size, managed] using mapped_day_lt partitions within (List.mem_range.mp inside)
    intro tables
    apply satisfies_andThen
    · simpa [DailyHydroArea.size, managed] using mapped_day_lt partitions within some_day
    intro tables
    apply satisfies_andThen
    · apply satisfies_foldlM
      intro dayMonth inside state
      have next : dayMonth + 1 < (calendar.months (calendar.mappingMonths realmonth)).days := by
        have := List.mem_range.mp inside
        omega
      have inYear := mapped_day_lt partitions within next
      simp [startDay, DailyHydroArea.size, managed]
      omega
    intro tables
    trivial
  · trivial
  · trivial

end

theorem prepareDailyOptimalGenerations_satisfies (power : Rat → Rat → Rat) (optimisers : MonthOptimisers) {settings : DailySettings}
    (quiet : settings.hydroDebug = false) (tables : HydroTables) :
    (prepareDailyOptimalGenerations calendar area power optimisers settings tables).Satisfies True fun _ => True := by
  have civil (month : Nat) : (area.initializeReservoirLevelDate + month) % 12 < 12 := Nat.mod_lt _ (by decide)
  unfold prepareDailyOptimalGenerations
  apply satisfies_andThen ((prepareTargets_satisfies partitions power settings tables).mono id fun _ _ => trivial)
  rintro ⟨prepared, dayYear⟩
  rw [quiet]
  apply satisfies_andThen (by simp)
  intro copied
  split_ifs with managed
  · unfold optimiseReservoir
    apply satisfies_andThen
    · simpa [DailyHydroArea.size] using area.initializeReservoirLevelDate_lt
    intro level
    rw [quiet]
    apply satisfies_andThen (satisfies_foldlM (fun month _ state => reservoirMonth_satisfies partitions (civil month) managed optimisers state) _)
    intro state
    apply satisfies_andThen
    · simpa [DailyHydroArea.size, managed] using settings.firstDaySimu_lt
    intro final
    apply satisfies_andThen (by simp)
    intro lines
    trivial
  · unfold optimiseWithoutReservoir
    apply satisfies_andThen (satisfies_foldlM (fun month _ state => turbineMonth_satisfies partitions (civil month) optimisers state) _)
    intro state
    rw [quiet]
    apply satisfies_andThen (by simp)
    intro lines
    trivial

omit partitions in
/-- A day is copied, or one of the two tables is left. -/
theorem copyDay_ok_or_outOfRange (dYear : Nat) (tables : HydroTables) :
    (∃ copied, (readHydro area tables .dailyTargetGen dYear >>= fun value =>
      writeHydro area .debugDailyTargetGen dYear value tables) = .ok copied) ∨
    Run.OutOfRange (readHydro area tables .dailyTargetGen dYear >>= fun value =>
      writeHydro area .debugDailyTargetGen dYear value tables) := by
  by_cases read : dYear < area.size .dailyTargetGen
  · have found : readHydro area tables .dailyTargetGen dYear = .ok (tables .dailyTargetGen dYear) := if_pos read
    rw [found]
    by_cases written : dYear < area.size .debugDailyTargetGen
    · exact .inl ⟨_, if_pos written⟩
    · exact .inr ⟨_, _, if_neg written⟩
  · have left : readHydro area tables .dailyTargetGen dYear = .error (.outOfRange .dailyTargetGen dYear) := if_neg read
    rw [left]
    exact .inr ⟨_, _, rfl⟩

omit partitions in
theorem copyDay_outOfRange {dYear : Nat} (past : 366 ≤ dYear) (tables : HydroTables) :
    Run.OutOfRange (readHydro area tables .dailyTargetGen dYear >>= fun value =>
      writeHydro area .debugDailyTargetGen dYear value tables) := by
  rcases @copyDay_ok_or_outOfRange area dYear tables with ⟨copied, ends⟩ | stopped
  · have satisfies : Run.Satisfies (readHydro area tables .dailyTargetGen dYear >>= fun value =>
        writeHydro area .debugDailyTargetGen dYear value tables) False fun _ => True := by
      rw [ends]
      trivial
    rw [satisfies_bind, satisfies_readHydro, satisfies_writeHydro] at satisfies
    exact absurd satisfies.2.1 past.not_gt
  · exact stopped

theorem copyTargets_outOfRange (tables : HydroTables) : (copyTargets calendar area 365 tables).OutOfRange := by
  obtain ⟨month, within, longer⟩ := partitions.exists_longer
  apply outOfRange_foldlM _ (List.mem_range.mpr within)
  · intro tables
    apply outOfRange_foldlM _ (List.mem_range.mpr longer)
    · intro tables
      exact copyDay_outOfRange (Nat.le_refl 366) tables
    · intro day _ tables
      exact copyDay_ok_or_outOfRange (day + 365) tables
  · intro other _ tables
    apply foldlM_ok_or_outOfRange
    intro day _ tables
    exact copyDay_ok_or_outOfRange (day + 365) tables

theorem prepareDailyOptimalGenerations_outOfRange (power : Rat → Rat → Rat) (optimisers : MonthOptimisers) {settings : DailySettings}
    (debug : settings.hydroDebug = true) (tables : HydroTables) :
    (prepareDailyOptimalGenerations calendar area power optimisers settings tables).OutOfRange := by
  obtain ⟨⟨prepared, dayYear⟩, ends, rfl⟩ := (@prepareTargets_satisfies area False calendar partitions power settings tables).exists_ok
  obtain ⟨table, index, stopped⟩ := @copyTargets_outOfRange area calendar partitions prepared
  unfold prepareDailyOptimalGenerations
  rw [ends, debug]
  refine ⟨table, index, ?_⟩
  change (copyTargets calendar area 365 prepared >>= _) = _
  rw [stopped]
  rfl

end

/-- Every access is in range, and the copy of the debug file is the targets. -/
def WithinTables (settings : DailySettings) (run : HydroRun DailyGenerations) : Prop :=
  run.InRange ∧ (settings.hydroDebug = true → ∀ result, run = .ok result →
    ∀ day < 365, result.tables .debugDailyTargetGen day = result.tables .dailyTargetGen day)

theorem withinTables_iff {calendar : Calendar} (partitions : PartitionsYear calendar) (area : DailyHydroArea)
    (power : Rat → Rat → Rat) (optimisers : MonthOptimisers) (settings : DailySettings) (tables : HydroTables) :
    WithinTables settings (prepareDailyOptimalGenerations calendar area power optimisers settings tables) ↔ settings.hydroDebug = false := by
  constructor
  · intro within
    by_contra debug
    rw [Bool.not_eq_false] at debug
    exact (prepareDailyOptimalGenerations_outOfRange partitions power optimisers debug tables).not_inRange within.1
  · intro quiet
    constructor
    · exact (prepareDailyOptimalGenerations_satisfies partitions power optimisers quiet tables).inRange
    · intro debug
      rw [quiet] at debug
      cases debug

section

def civilCalendar : Calendar :=
  let days := fun month => [31, 28, 31, 30, 31, 30, 31, 31, 30, 31, 30, 31].getD month 0
  let first := fun month => ((List.range month).map days).sum
  { Calendar.zero with
    months := fun month => ⟨.reset, days month, ⟨first month, first month + days month⟩, .monday, month⟩
    mappingMonths := fun realmonth => realmonth }

theorem civilCalendar_partitions : PartitionsYear civilCalendar where
  days_pos := by decide
  total := by decide
  first _ _ := rfl
  realmonth_lt _ within := within
  mapping_lt _ within := within

/-- An area that takes its inflows as targets, without managed reservoir. -/
def inflowArea : DailyHydroArea :=
  { useHeuristicTarget := false
    followLoadModulations := false
    intermonthlyBreakdown := 1
    interDailyBreakdown := 1
    allocation := []
    reservoirManagement := false
    reservoirCapacity := 1
    initializeReservoirLevelDate := 0
    initializeReservoirLevelDate_lt := by decide }

def idleOptimisers : MonthOptimisers :=
  { h2oJ := fun _ => ⟨.oui, fun _ => 0⟩
    h2o2J := fun _ => ⟨⟨.oui, fun _ => 0⟩, fun _ => 0, fun _ => 0, fun _ => 0, fun _ => 0, 0, 0, 0, 0⟩ }

theorem civilCalendar_withinTables_iff :
    WithinTables ⟨true, 0, by decide⟩ (prepareDailyOptimalGenerations civilCalendar inflowArea wholePower idleOptimisers
      ⟨true, 0, by decide⟩ fun _ _ => 1) ↔ true = false :=
  withinTables_iff civilCalendar_partitions inflowArea wholePower idleOptimisers ⟨true, 0, by decide⟩ fun _ _ => 1

/-- With the debug file, the copy of the targets leaves the table on the second day. -/
theorem civilCalendar_outOfRange :
    ¬ WithinTables ⟨true, 0, by decide⟩ (prepareDailyOptimalGenerations civilCalendar inflowArea wholePower idleOptimisers
      ⟨true, 0, by decide⟩ fun _ _ => 1) := by
  intro within
  exact (prepareDailyOptimalGenerations_outOfRange civilCalendar_partitions wholePower idleOptimisers rfl _).not_inRange within.1

end

end Antares.Solver
