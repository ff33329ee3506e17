import Antares.Data.CalendarWeeks
import Antares.Library.LinearRows
import Antares.Solver.DailyGenerations
import Mathlib.Data.List.GetD

/-! A year of a managed reservoir: the linear problem of each month, and what its solutions make of the twelve months
in a row.
-/

set_option autoImplicit false

namespace Antares.Solver

open Finset Data Library

/-- The numbers of the variables, which are counted on from one group to the next one. -/
structure CorrespondanceDesVariables where
  numeroVarTurbine : Nat → Nat
  numeroVarNiveauxFinJours : Nat → Nat
  numeroVarWaste : Nat
  numeroVarOverflow : Nat → Nat
  numeroVarDeviations : Nat → Nat
  numeroVarViolations : Nat → Nat
  numeroVarDeviationMax : Nat
  numeroVarViolationMax : Nat

/-- `H2O2_j_ConstruireLesVariables` -/
def construireLesVariables (nbPdt : Nat) : CorrespondanceDesVariables where
  numeroVarTurbine pdt := pdt
  numeroVarNiveauxFinJours pdt := nbPdt + pdt
  numeroVarWaste := 2 * nbPdt
  numeroVarOverflow pdt := 2 * nbPdt + 1 + pdt
  numeroVarDeviations pdt := 3 * nbPdt + 1 + pdt
  numeroVarViolations pdt := 4 * nbPdt + 1 + pdt
  numeroVarDeviationMax := 5 * nbPdt + 1
  numeroVarViolationMax := 5 * nbPdt + 2

structure ProblemeEtendu where
  nombreDeVariables : Nat
  coutLineaire : Nat → Rat
  bornes : Nat → Bounds Rat
  contraintes : SparseRows Nat Rat

def ProblemeEtendu.Feasible (probleme : ProblemeEtendu) (x : Nat → Rat) : Prop :=
  (∀ var < probleme.nombreDeVariables, (probleme.bornes var).Contains (x var)) ∧
    ∀ ligne ∈ probleme.contraintes.read, ligne.Holds x

namespace DonneesMensuellesEtendues
variable (donnees : DonneesMensuellesEtendues)

/-- The bounds of the turbines are set for each month, the levels are between 0 and 1, the others not negative. -/
def bornes (var : Nat) : Bounds Rat :=
  let nbPdt := donnees.nombreDeJoursDuMois
  if var < nbPdt then ⟨some (donnees.turbineMin.getD var 0), some (donnees.turbineMax.getD var 0)⟩
  else if var < 2 * nbPdt then ⟨some 0, some 1⟩
  else ⟨some 0, none⟩

/-- `H2O2_J_ConstruireLesContraintes`, for a month that is not empty -/
def construireLesContraintes : List (Terms Nat Rat × Sense) :=
  let nbPdt := donnees.nombreDeJoursDuMois
  let c := construireLesVariables nbPdt
  [([(c.numeroVarTurbine 0, 1), (c.numeroVarNiveauxFinJours 0, 1), (c.numeroVarOverflow 0, 1)], .eq)] ++
  (List.range' 1 (nbPdt - 1)).map (fun pdt => ([(c.numeroVarTurbine pdt, 1), (c.numeroVarNiveauxFinJours pdt, 1),
    (c.numeroVarNiveauxFinJours (pdt - 1), -1), (c.numeroVarOverflow pdt, 1)], .eq)) ++
  [((List.range nbPdt).map (fun pdt => (c.numeroVarTurbine pdt, 1)) ++ [(c.numeroVarWaste, 1)], .eq)] ++
  (List.range nbPdt).map (fun pdt => ([(c.numeroVarTurbine pdt, 1), (c.numeroVarDeviations pdt, -1)], .le)) ++
  (List.range nbPdt).map (fun pdt => ([(c.numeroVarTurbine pdt, 1), (c.numeroVarDeviations pdt, 1)], .ge)) ++
  (List.range nbPdt).map (fun pdt => ([(c.numeroVarDeviations pdt, 1), (c.numeroVarDeviationMax, -1)], .le)) ++
  (List.range nbPdt).map (fun pdt => ([(c.numeroVarNiveauxFinJours pdt, 1), (c.numeroVarViolations pdt, 1)], .ge)) ++
  (List.range nbPdt).map (fun pdt => ([(c.numeroVarViolations pdt, 1), (c.numeroVarViolationMax, -1)], .le))

/-- `H2O2_J_InitialiserLeSecondMembre`, counted on its own -/
def initialiserLeSecondMembre : List Rat :=
  let nbPdt := donnees.nombreDeJoursDuMois
  [donnees.niveauInitialDuMois + donnees.apports.getD 0 0] ++
  (List.range' 1 (nbPdt - 1)).map (fun pdt => donnees.apports.getD pdt 0) ++
  [donnees.turbineDuMois] ++
  (List.range nbPdt).map (fun pdt => donnees.turbineCible.getD pdt 0) ++
  (List.range nbPdt).map (fun pdt => donnees.turbineCible.getD pdt 0) ++
  (List.range nbPdt).map (fun _ => 0) ++
  (List.range nbPdt).map (fun pdt => donnees.niveauBas.getD pdt 0) ++
  (List.range nbPdt).map (fun _ => 0)

def lignes : List (Row Nat Rat) :=
  List.zipWith (fun contrainte secondMembre => ⟨contrainte.1, contrainte.2, secondMembre⟩)
    donnees.construireLesContraintes donnees.initialiserLeSecondMembre

def probleme (couts : Nat → Rat) : ProblemeEtendu where
  nombreDeVariables := 5 * donnees.nombreDeJoursDuMois + 3
  coutLineaire := couts
  bornes := donnees.bornes
  contraintes := SparseRows.empty.pushAll donnees.lignes

end DonneesMensuellesEtendues

inductive ReponseSimplexe where
  | solution (x : Nat → Rat)
  | pasDeSolution
  | erreurInterne

/-- `H2O2_J_OptimiserUnMois`, with the costs that were drawn for the month -/
def optimiserUnMois (simplexe : ProblemeEtendu → ReponseSimplexe) (couts : Nat → Rat)
    (donnees : DonneesMensuellesEtendues) : SolutionMensuelleEtendue :=
  let sans (resultatsValides : ResultatsValides) : SolutionMensuelleEtendue :=
    ⟨⟨resultatsValides, fun _ => 0⟩, fun _ => 0, fun _ => 0, fun _ => 0, fun _ => 0, 0, 0, 0, 0⟩
  if donnees.nombreDeJoursDuMois ∈ [28, 29, 30, 31] then
    let probleme := donnees.probleme couts
    let c := construireLesVariables donnees.nombreDeJoursDuMois
    match simplexe probleme with
    | .solution x => {
        resultatsValides := .oui
        turbine := fun pdt => x (c.numeroVarTurbine pdt)
        niveauxFinJours := fun pdt => x (c.numeroVarNiveauxFinJours pdt)
        overflows := fun pdt => x (c.numeroVarOverflow pdt)
        deviations := fun pdt => x (c.numeroVarDeviations pdt)
        violations := fun pdt => x (c.numeroVarViolations pdt)
        deviationMax := x c.numeroVarDeviationMax
        violationMax := x c.numeroVarViolationMax
        waste := x c.numeroVarWaste
        coutSolution := (List.range probleme.nombreDeVariables).foldl
          (fun cout var => cout + probleme.coutLineaire var * x var) 0 }
    | .pasDeSolution => sans .non
    | .erreurInterne => sans .emergencyShutDown
  else sans .emergencyShutDown

structure SolutionMensuelleEtendue.Meets (solution : SolutionMensuelleEtendue) (donnees : DonneesMensuellesEtendues) :
    Prop where
  turbine : ∀ pdt < donnees.nombreDeJoursDuMois,
    donnees.turbineMin.getD pdt 0 ≤ solution.turbine pdt ∧ solution.turbine pdt ≤ donnees.turbineMax.getD pdt 0
  niveaux : ∀ pdt < donnees.nombreDeJoursDuMois, 0 ≤ solution.niveauxFinJours pdt ∧ solution.niveauxFinJours pdt ≤ 1
  overflows : ∀ pdt < donnees.nombreDeJoursDuMois, 0 ≤ solution.overflows pdt
  waste : 0 ≤ solution.waste
  chained : ∀ pdt < donnees.nombreDeJoursDuMois, solution.niveauxFinJours pdt =
    (if pdt = 0 then donnees.niveauInitialDuMois else solution.niveauxFinJours (pdt - 1)) + donnees.apports.getD pdt 0 -
      solution.turbine pdt - solution.overflows pdt
  budget : ∑ pdt ∈ range donnees.nombreDeJoursDuMois, solution.turbine pdt + solution.waste = donnees.turbineDuMois
  deviations : ∀ pdt < donnees.nombreDeJoursDuMois,
    |solution.turbine pdt - donnees.turbineCible.getD pdt 0| ≤ solution.deviations pdt
  deviationMax : ∀ pdt < donnees.nombreDeJoursDuMois, solution.deviations pdt ≤ solution.deviationMax

section
variable {donnees : DonneesMensuellesEtendues} {x : Nat → Rat}

theorem DonneesMensuellesEtendues.lignes_eq : donnees.lignes =
    let nbPdt := donnees.nombreDeJoursDuMois
    let c := construireLesVariables nbPdt
    [⟨[(c.numeroVarTurbine 0, 1), (c.numeroVarNiveauxFinJours 0, 1), (c.numeroVarOverflow 0, 1)], .eq,
      donnees.niveauInitialDuMois + donnees.apports.getD 0 0⟩] ++
    (List.range' 1 (nbPdt - 1)).map (fun pdt => ⟨[(c.numeroVarTurbine pdt, 1), (c.numeroVarNiveauxFinJours pdt, 1),
      (c.numeroVarNiveauxFinJours (pdt - 1), -1), (c.numeroVarOverflow pdt, 1)], .eq, donnees.apports.getD pdt 0⟩) ++
    [⟨(List.range nbPdt).map (fun pdt => (c.numeroVarTurbine pdt, 1)) ++ [(c.numeroVarWaste, 1)], .eq,
      donnees.turbineDuMois⟩] ++
    (List.range nbPdt).map (fun pdt => ⟨[(c.numeroVarTurbine pdt, 1), (c.numeroVarDeviations pdt, -1)], .le,
      donnees.turbineCible.getD pdt 0⟩) ++
    (List.range nbPdt).map (fun pdt => ⟨[(c.numeroVarTurbine pdt, 1), (c.numeroVarDeviations pdt, 1)], .ge,
      donnees.turbineCible.getD pdt 0⟩) ++
    (List.range nbPdt).map (fun pdt => ⟨[(c.numeroVarDeviations pdt, 1), (c.numeroVarDeviationMax, -1)], .le, 0⟩) ++
    (List.range nbPdt).map (fun pdt => ⟨[(c.numeroVarNiveauxFinJours pdt, 1), (c.numeroVarViolations pdt, 1)], .ge,
      donnees.niveauBas.getD pdt 0⟩) ++
    (List.range nbPdt).map (fun pdt => ⟨[(c.numeroVarViolations pdt, 1), (c.numeroVarViolationMax, -1)], .le, 0⟩) := by
  unfold lignes construireLesContraintes initialiserLeSecondMembre
  simp only [List.zipWith_append, List.length_append, List.length_map, List.length_singleton, List.length_range,
    List.length_range', List.zipWith_map, List.zipWith_self, List.zipWith_cons_cons, List.zipWith_nil_right]

theorem meets_of_feasible (some_day : 0 < donnees.nombreDeJoursDuMois) {couts : Nat → Rat}
    (feasible : (donnees.probleme couts).Feasible x) {solution : SolutionMensuelleEtendue}
    (turbine : ∀ pdt, solution.turbine pdt = x pdt)
    (niveaux : ∀ pdt, solution.niveauxFinJours pdt = x (donnees.nombreDeJoursDuMois + pdt))
    (waste : solution.waste = x (2 * donnees.nombreDeJoursDuMois))
    (overflows : ∀ pdt, solution.overflows pdt = x (2 * donnees.nombreDeJoursDuMois + 1 + pdt))
    (deviations : ∀ pdt, solution.deviations pdt = x (3 * donnees.nombreDeJoursDuMois + 1 + pdt))
    (deviationMax : solution.deviationMax = x (5 * donnees.nombreDeJoursDuMois + 1)) :
    solution.Meets donnees := by
  obtain ⟨within, rows⟩ := feasible
  simp only [DonneesMensuellesEtendues.probleme, SparseRows.read_pushAll, DonneesMensuellesEtendues.lignes_eq,
    List.forall_mem_append, List.forall_mem_map, List.forall_mem_singleton, List.mem_range, Row.Holds, Sense.Holds,
    Terms.value_cons, Terms.value_nil, Terms.value_append, construireLesVariables, one_mul, neg_one_mul, add_zero] at rows
  obtain ⟨⟨⟨⟨⟨⟨⟨first, days⟩, month⟩, above⟩, below⟩, largest⟩, _⟩, _⟩ := rows
  change ∀ var < 5 * donnees.nombreDeJoursDuMois + 3, (donnees.bornes var).Contains (x var) at within
  have unbounded {var : Nat} (late : 2 * donnees.nombreDeJoursDuMois ≤ var)
      (inside : var < 5 * donnees.nombreDeJoursDuMois + 3) : 0 ≤ x var := by
    have bounds := within var inside
    unfold DonneesMensuellesEtendues.bornes at bounds
    rw [if_neg (by omega), if_neg (by omega)] at bounds
    exact Bounds.contains_above.mp bounds
  constructor
  · intro pdt inside
    have bounds := within pdt (by omega)
    unfold DonneesMensuellesEtendues.bornes at bounds
    rw [if_pos inside] at bounds
    rw [turbine]
    exact Bounds.contains_between.mp bounds
  · intro pdt inside
    have bounds := within (donnees.nombreDeJoursDuMois + pdt) (by omega)
    unfold DonneesMensuellesEtendues.bornes at bounds
    rw [if_neg (by omega), if_pos (by omega)] at bounds
    rw [niveaux]
    exact Bounds.contains_between.mp bounds
  · intro pdt inside
    rw [overflows]
    exact unbounded (by omega) (by omega)
  · rw [waste]
    exact unbounded (by omega) (by omega)
  · intro pdt inside
    rw [niveaux, turbine, overflows]
    split_ifs with start
    · subst start
      rw [add_zero, add_zero]
      linarith
    · rw [niveaux]
      have day := days pdt (List.mem_range'_1.mpr (by omega))
      linarith
  · have sum : Terms.value ((List.range donnees.nombreDeJoursDuMois).map fun pdt => (pdt, (1 : Rat))) x =
        ∑ pdt ∈ range donnees.nombreDeJoursDuMois, x pdt := by
      rw [Terms.value_map]
      simp only [one_mul]
      rfl
    simp only [turbine]
    rw [waste, ← sum]
    exact month
  · intro pdt inside
    rw [turbine, deviations, abs_le]
    constructor
    · linarith [below pdt inside]
    · linarith [above pdt inside]
  · intro pdt inside
    rw [deviations, deviationMax]
    linarith [largest pdt inside]

theorem optimiserUnMois_meets {simplexe : ProblemeEtendu → ReponseSimplexe}
    (feasible : ∀ probleme x, simplexe probleme = .solution x → probleme.Feasible x) (couts : Nat → Rat)
    (solved : (optimiserUnMois simplexe couts donnees).resultatsValides = .oui) :
    (optimiserUnMois simplexe couts donnees).Meets donnees := by
  unfold optimiserUnMois at solved ⊢
  by_cases length : donnees.nombreDeJoursDuMois ∈ [28, 29, 30, 31]
  · have some_day : 0 < donnees.nombreDeJoursDuMois := by
      simp only [List.mem_cons, List.not_mem_nil, or_false] at length
      omega
    simp only [if_pos length] at solved ⊢
    cases answer : simplexe (donnees.probleme couts) with
    | solution x =>
      exact meets_of_feasible some_day (feasible _ x answer) (fun _ => rfl) (fun _ => rfl) rfl (fun _ => rfl)
        (fun _ => rfl) rfl
    | pasDeSolution | erreurInterne =>
      rw [answer] at solved
      cases solved
  · rw [if_neg length] at solved
    cases solved

end

section Months
variable (calendar : Calendar) (area : DailyHydroArea)

def monthProblem (tables : HydroTables) (realmonth : Nat) (level waste : Rat) : DonneesMensuellesEtendues :=
  let info := calendar.months (calendar.mappingMonths realmonth)
  let days := daysFrom info.daysYear.first info.days
  { nombreDeJoursDuMois := info.days
    turbineDuMois := (tables .mog realmonth + waste) / area.reservoirCapacity
    turbineMax := days.map fun day => tables .genMaxP day * tables .genMaxE day / area.reservoirCapacity
    turbineMin := days.map fun day => tables .dailyMinGen day / area.reservoirCapacity
    turbineCible := days.map fun day => (tables .dailyTargetGen day + waste / info.days) / area.reservoirCapacity
    reservoirCapacity := area.reservoirCapacity
    niveauInitialDuMois := level
    niveauBas := days.map fun day => tables .lowLevel ((day + 1) % 365)
    apports := days.map fun day => tables .srcinflows day / area.reservoirCapacity }

def HydroTable.isInput : HydroTable → Bool
  | .genMaxP | .genMaxE | .lowLevel | .srcinflows | .dailyMinGen | .mog | .mol | .dailyTargetGen => true
  | _ => false

theorem monthProblem_congr {tables others : HydroTables}
    (same : ∀ table, HydroTable.isInput table = true → tables table = others table) (realmonth : Nat) (level waste : Rat) :
    monthProblem calendar area tables realmonth level waste = monthProblem calendar area others realmonth level waste := by
  simp only [monthProblem, same .genMaxP rfl, same .genMaxE rfl, same .lowLevel rfl, same .srcinflows rfl,
    same .dailyMinGen rfl, same .mog rfl, same .dailyTargetGen rfl]

variable {calendar area} {thrown : Prop}

theorem problemOfMonth_spec (partitions : PartitionsYear calendar) {realmonth : Nat} (within : realmonth < 12)
    (state : ReservoirState) : (problemOfMonth calendar area realmonth state).Satisfies thrown fun donnees =>
      donnees = monthProblem calendar area state.tables realmonth state.monthInitialLevel state.wasteFromPreviousMonth := by
  have inYear := @mem_days_within calendar partitions realmonth within
  unfold problemOfMonth
  rw [satisfies_bind, satisfies_readHydro]
  refine ⟨within, ?_⟩
  rw [satisfies_bind]
  apply (satisfies_mapM_eq fun day listed => by
    simp only [satisfies_bind, satisfies_readHydro, satisfies_pure]
    exact ⟨(inYear listed).1, (inYear listed).1, rfl⟩).mono id
  rintro _ rfl
  rw [satisfies_bind]
  apply (satisfies_mapM_eq fun day listed => by
    simp only [satisfies_bind, satisfies_readHydro, satisfies_pure]
    exact ⟨(inYear listed).2.1, rfl⟩).mono id
  rintro _ rfl
  rw [satisfies_bind]
  apply (satisfies_mapM_eq fun day listed => by
    simp only [satisfies_bind, satisfies_readHydro, satisfies_pure]
    exact ⟨(inYear listed).2.2, rfl⟩).mono id
  rintro _ rfl
  rw [satisfies_bind]
  apply (satisfies_mapM_eq fun day listed => by
    simp only [satisfies_readHydro]
    exact ⟨Nat.mod_lt _ (by decide), rfl⟩).mono id
  rintro _ rfl
  rw [satisfies_bind]
  apply (satisfies_mapM_eq fun day listed => by
    simp only [satisfies_bind, satisfies_readHydro, satisfies_pure]
    exact ⟨(inYear listed).1, rfl⟩).mono id
  rintro _ rfl
  rfl

def filled (first count : Nat) (value : Nat → Rat) (table : Nat → Rat) (day : Nat) : Rat :=
  if first ≤ day ∧ day < first + count then value (day - first) else table day

theorem filled_zero (first : Nat) (value table : Nat → Rat) : filled first 0 value table = table := by
  funext day
  exact if_neg (by omega)

theorem filled_succ (first count : Nat) (value table : Nat → Rat) :
    Function.update (filled first count value table) (first + count) (value count) =
      filled first (count + 1) value table := by
  funext day
  unfold filled
  by_cases last : day = first + count
  · subst last
    rw [Function.update_self, if_pos (by omega), Nat.add_sub_cancel_left]
  · rw [Function.update_of_ne last]
    by_cases inside : first ≤ day ∧ day < first + count
    · rw [if_pos inside, if_pos (by omega)]
    · rw [if_neg inside, if_neg (by omega)]

theorem filled_inside {first count index : Nat} (inside : index < count) (value table : Nat → Rat) :
    filled first count value table (first + index) = value index := by
  unfold filled
  rw [if_pos (by omega), Nat.add_sub_cancel_left]

theorem filled_outside {first count day : Nat} (outside : day < first ∨ first + count ≤ day) (value table : Nat → Rat) :
    filled first count value table day = table day := if_neg (by omega)

structure DaysKept (area : DailyHydroArea) (solution : SolutionMensuelleEtendue) (firstDay days : Nat)
    (start tables : HydroTables) : Prop where
  inputs : ∀ table, HydroTable.isInput table = true → tables table = start table
  starts : tables .niveauxReservoirsDebutJours = start .niveauxReservoirsDebutJours
  turbine : tables .hydrauliqueModulableQuotidien = filled firstDay days
    (fun dayMonth => solution.turbine dayMonth * area.reservoirCapacity) (start .hydrauliqueModulableQuotidien)
  niveaux : tables .niveauxReservoirsFinJours =
    filled firstDay days solution.niveauxFinJours (start .niveauxReservoirsFinJours)

theorem keepDay_spec (managed : area.reservoirManagement = true) (hydroDebug : Bool) (solution : SolutionMensuelleEtendue)
    {firstDay dayMonth : Nat} (inYear : firstDay + dayMonth < 365) {start tables : HydroTables}
    (kept : DaysKept area solution firstDay dayMonth start tables) :
    (keepDay area hydroDebug solution firstDay tables dayMonth).Satisfies thrown
      (DaysKept area solution firstDay (dayMonth + 1) start) := by
  have done (after : HydroTables) (inputs : ∀ table, HydroTable.isInput table = true → after table = tables table)
      (starts : after .niveauxReservoirsDebutJours = tables .niveauxReservoirsDebutJours)
      (turbine : after .hydrauliqueModulableQuotidien = Function.update (tables .hydrauliqueModulableQuotidien)
        (firstDay + dayMonth) (solution.turbine dayMonth * area.reservoirCapacity))
      (niveaux : after .niveauxReservoirsFinJours = Function.update (tables .niveauxReservoirsFinJours)
        (firstDay + dayMonth) (solution.niveauxFinJours dayMonth)) :
      DaysKept area solution firstDay (dayMonth + 1) start after := by
    constructor
    · intro table isInput
      rw [inputs table isInput, kept.inputs table isInput]
    · rw [starts, kept.starts]
    · rw [turbine, kept.turbine]
      exact filled_succ firstDay dayMonth (fun dayMonth => solution.turbine dayMonth * area.reservoirCapacity) _
    · rw [niveaux, kept.niveaux, filled_succ]
  have inputs (table : HydroTable) (isInput : HydroTable.isInput table = true) :
      table ≠ .hydrauliqueModulableQuotidien ∧ table ≠ .niveauxReservoirsFinJours ∧ table ≠ .debugOverflow ∧
        table ≠ .debugDeviation ∧ table ≠ .debugViolation := by
    cases table <;> simp_all [HydroTable.isInput]
  unfold keepDay
  cases hydroDebug with
  | false =>
    simp only [satisfies_bind, satisfies_writeHydro, DailyHydroArea.size, managed, if_true, Bool.false_eq_true, if_false,
      satisfies_pure]
    refine ⟨inYear, inYear, done _ ?_ rfl rfl rfl⟩
    intro table isInput
    obtain ⟨first, second, _⟩ := inputs table isInput
    rw [Function.update_of_ne second, Function.update_of_ne first]
  | true =>
    simp only [satisfies_bind, satisfies_writeHydro, DailyHydroArea.size, managed, if_true]
    refine ⟨inYear, inYear, inYear, inYear, inYear, done _ ?_ rfl rfl rfl⟩
    intro table isInput
    obtain ⟨first, second, third, fourth, fifth⟩ := inputs table isInput
    rw [Function.update_of_ne fifth, Function.update_of_ne fourth, Function.update_of_ne third,
      Function.update_of_ne second, Function.update_of_ne first]

structure StartsKept (firstDay days : Nat) (levels : Nat → Rat) (start tables : HydroTables) : Prop where
  others : ∀ table ≠ .niveauxReservoirsDebutJours, tables table = start table
  starts : tables .niveauxReservoirsDebutJours = filled firstDay days levels (start .niveauxReservoirsDebutJours)

theorem StartsKept.write {firstDay days : Nat} {levels : Nat → Rat} {start tables : HydroTables}
    (kept : StartsKept firstDay days levels start tables) : StartsKept firstDay (days + 1) levels start
      (Function.update tables .niveauxReservoirsDebutJours
        (Function.update (tables .niveauxReservoirsDebutJours) (firstDay + days) (levels days))) where
  others table other := by rw [Function.update_of_ne other, kept.others table other]
  starts := by rw [Function.update_self, kept.starts, filled_succ]

theorem startDay_spec (managed : area.reservoirManagement = true) {firstDay dayMonth : Nat}
    (inYear : firstDay + (dayMonth + 1) < 365) {levels : Nat → Rat} {start tables : HydroTables}
    (left : start .niveauxReservoirsFinJours (firstDay + dayMonth) = levels (dayMonth + 1))
    (kept : StartsKept firstDay (dayMonth + 1) levels start tables) :
    (startDay area firstDay tables dayMonth).Satisfies thrown (StartsKept firstDay (dayMonth + 1 + 1) levels start) := by
  have before : firstDay + 1 + dayMonth - 1 = firstDay + dayMonth := by omega
  have day : firstDay + 1 + dayMonth = firstDay + (dayMonth + 1) := by omega
  unfold startDay
  simp only [satisfies_bind, satisfies_readHydro, satisfies_writeHydro, DailyHydroArea.size, managed, if_true]
  rw [before, day, kept.others .niveauxReservoirsFinJours (by decide), left]
  exact ⟨by omega, inYear, kept.write⟩

/-- The level of a reservoir at the beginning of each day of a month -/
def startLevels (level : Rat) (solution : SolutionMensuelleEtendue) (dayMonth : Nat) : Rat :=
  if dayMonth = 0 then level else solution.niveauxFinJours (dayMonth - 1)

structure MonthKept (area : DailyHydroArea) (solution : SolutionMensuelleEtendue) (firstDay days : Nat)
    (before after : ReservoirState) : Prop where
  level : after.monthInitialLevel = solution.niveauxFinJours (days - 1)
  waste : after.wasteFromPreviousMonth = solution.waste * area.reservoirCapacity
  inputs : ∀ table, HydroTable.isInput table = true → after.tables table = before.tables table
  starts : after.tables .niveauxReservoirsDebutJours =
    filled firstDay days (startLevels before.monthInitialLevel solution) (before.tables .niveauxReservoirsDebutJours)
  turbine : after.tables .hydrauliqueModulableQuotidien = filled firstDay days
    (fun dayMonth => solution.turbine dayMonth * area.reservoirCapacity) (before.tables .hydrauliqueModulableQuotidien)
  niveaux : after.tables .niveauxReservoirsFinJours =
    filled firstDay days solution.niveauxFinJours (before.tables .niveauxReservoirsFinJours)

theorem keepMonth_spec (managed : area.reservoirManagement = true) (hydroDebug : Bool) (solution : SolutionMensuelleEtendue)
    {firstDay days : Nat} (some_day : 0 < days) (inYear : firstDay + days ≤ 365) {state : ReservoirState}
    {tables : HydroTables} (same : ∀ table, HydroTable.isInput table = true ∨ table = .niveauxReservoirsDebutJours ∨
      table = .hydrauliqueModulableQuotidien ∨ table = .niveauxReservoirsFinJours → tables table = state.tables table) :
    Run.Satisfies (do
      let tables ← (List.range days).foldlM (keepDay area hydroDebug solution firstDay) tables
      let tables ← writeHydro area .niveauxReservoirsDebutJours firstDay state.monthInitialLevel tables
      let tables ← (List.range (days - 1)).foldlM (startDay area firstDay) tables
      return {
        tables
        monthInitialLevel := solution.niveauxFinJours (days - 1)
        wasteFromPreviousMonth := solution.waste * area.reservoirCapacity } : HydroRun ReservoirState) thrown
      (MonthKept area solution firstDay days state) := by
  rw [satisfies_bind]
  have started : DaysKept area solution firstDay 0 state.tables tables := by
    constructor
    · exact fun table isInput => same table (.inl isInput)
    · exact same _ (by simp)
    · rw [filled_zero]
      exact same _ (by simp)
    · rw [filled_zero]
      exact same _ (by simp)
  apply (satisfies_foldlM_range (fun count => DaysKept area solution firstDay count state.tables)
    (fun index inside kept => keepDay_spec managed hydroDebug solution (by omega)) started).mono id
  intro filledTables kept
  simp only [satisfies_bind, satisfies_writeHydro, DailyHydroArea.size, managed, if_true, satisfies_pure]
  refine ⟨by omega, ?_⟩
  have first : StartsKept firstDay (0 + 1) (startLevels state.monthInitialLevel solution) filledTables
      (Function.update filledTables .niveauxReservoirsDebutJours (Function.update
        (filledTables .niveauxReservoirsDebutJours) firstDay state.monthInitialLevel)) := by
    apply StartsKept.write
    exact ⟨fun _ _ => rfl, by rw [filled_zero]⟩
  apply (satisfies_foldlM_range
    (fun count => StartsKept firstDay (count + 1) (startLevels state.monthInitialLevel solution) filledTables)
    (fun index inside tables startsKept => startDay_spec managed (by omega) (by
      rw [kept.niveaux, filled_inside (by omega)]
      rfl) startsKept) first).mono id
  intro after startsKept
  rw [Nat.sub_add_cancel some_day] at startsKept
  constructor
  · rfl
  · rfl
  · intro table isInput
    have other : table ≠ .niveauxReservoirsDebutJours := by
      rintro rfl
      cases isInput
    dsimp only
    rw [startsKept.others table other, kept.inputs table isInput]
  · dsimp only
    rw [startsKept.starts, kept.starts]
  · dsimp only
    rw [startsKept.others _ (by decide), kept.turbine]
  · dsimp only
    rw [startsKept.others _ (by decide), kept.niveaux]

theorem reservoirMonth_spec (partitions : PartitionsYear calendar) (managed : area.reservoirManagement = true)
    (optimisers : MonthOptimisers) (hydroDebug : Bool) {realmonth : Nat} (within : realmonth < 12)
    (state : ReservoirState) {solution : SolutionMensuelleEtendue} (solved : solution = optimisers.h2o2J
      (monthProblem calendar area state.tables realmonth state.monthInitialLevel state.wasteFromPreviousMonth)) :
    (reservoirMonth calendar area optimisers hydroDebug realmonth state).Satisfies (solution.resultatsValides ≠ .oui)
      fun after => solution.resultatsValides = .oui ∧ MonthKept area solution
        (calendar.months (calendar.mappingMonths realmonth)).daysYear.first
        (calendar.months (calendar.mappingMonths realmonth)).days state after := by
  have mapped := partitions.mapping_lt realmonth within
  have some_day := partitions.days_pos _ mapped
  have inYear := mapped_day_lt partitions within (Nat.sub_lt some_day Nat.one_pos)
  unfold reservoirMonth
  -- the waste of the month before goes to the debug data only
  have debug : Run.Satisfies (if hydroDebug then
      writeHydro area .previousMonthWaste realmonth (state.wasteFromPreviousMonth / area.reservoirCapacity) state.tables
    else pure state.tables : HydroRun HydroTables) (solution.resultatsValides ≠ .oui) fun tables =>
      ∀ table ≠ .previousMonthWaste, tables table = state.tables table := by
    cases hydroDebug with
    | false => exact fun _ _ => rfl
    | true =>
      rw [if_pos rfl, satisfies_writeHydro]
      exact ⟨within, fun table other => Function.update_of_ne other _ _⟩
  apply satisfies_join debug
  intro tables noted
  have apart (table : HydroTable) (isInput : HydroTable.isInput table = true) : table ≠ .previousMonthWaste := by
    rintro rfl
    cases isInput
  apply (problemOfMonth_spec partitions within { state with tables }).bind
  rintro _ rfl
  dsimp only
  rw [monthProblem_congr calendar area (fun table isInput => noted table (apart table isInput)), ← solved]
  cases answer : solution.resultatsValides with
  | non | emergencyShutDown => exact ResultatsValides.noConfusion
  | oui =>
    have debugged : (debugMonth area hydroDebug solution realmonth tables).Satisfies (ResultatsValides.oui ≠ .oui) fun after =>
        ∀ table, table ≠ .deviationMax → table ≠ .violationMax → table ≠ .waste → table ≠ .coutTotal →
          after table = tables table := by
      unfold debugMonth
      cases hydroDebug with
      | false => exact fun _ _ _ _ _ => rfl
      | true =>
        simp only [if_true, satisfies_bind, satisfies_writeHydro, DailyHydroArea.size]
        refine ⟨within, within, within, within, ?_⟩
        intro table first second third fourth
        rw [Function.update_of_ne fourth, Function.update_of_ne third, Function.update_of_ne second,
          Function.update_of_ne first]
    apply debugged.bind
    intro after unchanged
    apply (keepMonth_spec managed hydroDebug solution some_day (by omega) _).mono id fun _ kept => ⟨rfl, kept⟩
    intro table kind
    have others : table ≠ .deviationMax ∧ table ≠ .violationMax ∧ table ≠ .waste ∧ table ≠ .coutTotal ∧
        table ≠ .previousMonthWaste := by
      cases table <;> simp_all [HydroTable.isInput]
    obtain ⟨first, second, third, fourth, fifth⟩ := others
    rw [unchanged table first second third fourth, noted table fifth]

end Months

variable (settings : Calendar.Settings)

theorem daysUntil_reset (month : Nat) :
    daysUntil (Calendar.reset settings) month = Calendar.daysBefore settings month := by
  simp only [daysUntil, Calendar.daysBefore, Calendar.reset_months_days]

theorem reset_partitions {settings : Calendar.Settings} (common : settings.leapYear = false) :
    PartitionsYear (Calendar.reset settings) where
  days_pos month within := by
    rw [Calendar.reset_months_days]
    have bounds := Calendar.monthDays_bounds settings (show month < 13 by omega)
    omega
  total := by
    rw [daysUntil_reset, Calendar.daysBefore_twelve, common]
    rfl
  first month within := by rw [Calendar.reset_months_first settings within, daysUntil_reset]
  realmonth_lt month within := by
    rw [Calendar.reset_months_realmonth settings (by omega)]
    exact Nat.mod_lt _ (by decide)
  mapping_lt realmonth within := (Calendar.reset_mappingMonths settings within).1

theorem reset_mappingMonths_injective {first second : Nat} (civil : first < 12)
    (other : second < 12) (same : (Calendar.reset settings).mappingMonths first =
      (Calendar.reset settings).mappingMonths second) : first = second := by
  have left := (Calendar.reset_mappingMonths settings civil).2
  have right := (Calendar.reset_mappingMonths settings other).2
  rw [same] at left
  exact left.symm.trans right

def optimisersOfMonth (simplexe : Nat → ProblemeEtendu → ReponseSimplexe) (couts : Nat → Nat → Rat)
    (h2oJ : DonneesMensuelles → SolutionMensuelle) (month : Nat) : MonthOptimisers where
  h2oJ := h2oJ
  h2o2J := optimiserUnMois (simplexe month) (couts month)

section
variable (calendar : Calendar) (area : DailyHydroArea) (optimisers : Nat → MonthOptimisers)

/-- `optimiseReservoir`, with optimisers that may change from month to month. -/
def optimiseReservoirBy (settings : DailySettings) (tables : HydroTables) : HydroRun DailyGenerations := do
  let monthInitialLevel ← readHydro area tables .mol area.initializeReservoirLevelDate
  let state ← (List.range 12).foldlM (fun state month => reservoirMonth calendar area (optimisers month)
    settings.hydroDebug ((area.initializeReservoirLevelDate + month) % 12) state)
    { tables, monthInitialLevel, wasteFromPreviousMonth := 0 }
  let level ← readHydro area state.tables .niveauxReservoirsDebutJours settings.firstDaySimu
  let debugLines ← if settings.hydroDebug then writeDailyDebugData calendar area state.tables else pure []
  return { tables := state.tables, previousSimulationFinalLevel := some (level * area.reservoirCapacity), debugLines }

variable (month : Nat)

def realmonthAt : Nat := (area.initializeReservoirLevelDate + month) % 12

theorem realmonthAt_lt : realmonthAt area month < 12 := Nat.mod_lt _ (by decide)

theorem realmonthAt_injective {first second : Nat} (within : first < 12) (other : second < 12)
    (same : realmonthAt area first = realmonthAt area second) : first = second := by
  unfold realmonthAt at same
  omega

theorem sum_realmonthAt (value : Nat → Rat) :
    ∑ month ∈ range 12, value (realmonthAt area month) = ∑ realmonth ∈ range 12, value realmonth := by
  have start := area.initializeReservoirLevelDate_lt
  apply sum_nbij (realmonthAt area)
  · intro month _
    exact mem_range.mpr (realmonthAt_lt area month)
  · intro first within second other same
    rw [mem_coe, mem_range] at within other
    exact realmonthAt_injective area within other same
  · intro realmonth within
    rw [mem_coe, mem_range] at within
    refine ⟨(realmonth + 12 - area.initializeReservoirLevelDate) % 12, ?_, ?_⟩
    · rw [mem_coe, mem_range]
      exact Nat.mod_lt _ (by decide)
    · unfold realmonthAt
      omega
  · exact fun _ _ => rfl

def monthAt : MonthOfYear := calendar.months (calendar.mappingMonths (realmonthAt area month))

def firstDayAt : Nat := (monthAt calendar area month).daysYear.first

def daysAt : Nat := (monthAt calendar area month).days

variable (tables : HydroTables)

/-- The level that a month starts at, and the waste of the month before. -/
def handedOn : Nat → Rat × Rat
  | 0 => (tables .mol area.initializeReservoirLevelDate, 0)
  | month + 1 =>
    let (level, waste) := handedOn month
    let solution := (optimisers month).h2o2J (monthProblem calendar area tables (realmonthAt area month) level waste)
    (solution.niveauxFinJours (daysAt calendar area month - 1), solution.waste * area.reservoirCapacity)

def problemAt (month : Nat) : DonneesMensuellesEtendues :=
  monthProblem calendar area tables (realmonthAt area month) (handedOn calendar area optimisers tables month).1
    (handedOn calendar area optimisers tables month).2

def solutionAt (month : Nat) : SolutionMensuelleEtendue :=
  (optimisers month).h2o2J (problemAt calendar area optimisers tables month)

structure MonthsKept (months : Nat) (state : ReservoirState) : Prop where
  level : state.monthInitialLevel = (handedOn calendar area optimisers tables months).1
  waste : state.wasteFromPreviousMonth = (handedOn calendar area optimisers tables months).2
  inputs : ∀ table, HydroTable.isInput table = true → state.tables table = tables table
  solved : ∀ month < months, (solutionAt calendar area optimisers tables month).resultatsValides = .oui
  starts : ∀ month < months, ∀ dayMonth < daysAt calendar area month,
    state.tables .niveauxReservoirsDebutJours (firstDayAt calendar area month + dayMonth) =
      startLevels (handedOn calendar area optimisers tables month).1 (solutionAt calendar area optimisers tables month) dayMonth
  turbine : ∀ month < months, ∀ dayMonth < daysAt calendar area month,
    state.tables .hydrauliqueModulableQuotidien (firstDayAt calendar area month + dayMonth) =
      (solutionAt calendar area optimisers tables month).turbine dayMonth * area.reservoirCapacity
  niveaux : ∀ month < months, ∀ dayMonth < daysAt calendar area month,
    state.tables .niveauxReservoirsFinJours (firstDayAt calendar area month + dayMonth) =
      (solutionAt calendar area optimisers tables month).niveauxFinJours dayMonth

section
variable {calendar area optimisers tables} {thrown : Prop}

theorem handedOn_succ (month : Nat) : handedOn calendar area optimisers tables (month + 1) =
    ((solutionAt calendar area optimisers tables month).niveauxFinJours (daysAt calendar area month - 1),
      (solutionAt calendar area optimisers tables month).waste * area.reservoirCapacity) := rfl

theorem firstDayAt_apart (partitions : PartitionsYear calendar) (injective : ∀ first < 12, ∀ second < 12,
    calendar.mappingMonths first = calendar.mappingMonths second → first = second) {month other : Nat}
    (within : month < 12) (inYear : other < 12) (different : month ≠ other) {dayMonth : Nat}
    (inside : dayMonth < daysAt calendar area month) :
    firstDayAt calendar area month + dayMonth < firstDayAt calendar area other ∨
      firstDayAt calendar area other + daysAt calendar area other ≤ firstDayAt calendar area month + dayMonth := by
  have places : calendar.mappingMonths (realmonthAt area month) ≠ calendar.mappingMonths (realmonthAt area other) :=
    fun same => different (realmonthAt_injective area within inYear
      (injective _ (realmonthAt_lt area month) _ (realmonthAt_lt area other) same))
  unfold firstDayAt daysAt monthAt at *
  rw [partitions.first _ (partitions.mapping_lt _ (realmonthAt_lt area month)),
    partitions.first _ (partitions.mapping_lt _ (realmonthAt_lt area other))]
  rcases Nat.lt_or_gt_of_ne places with before | after
  · have grows := @daysUntil_mono calendar _ _ (Nat.succ_le_of_lt before)
    rw [Nat.succ_eq_add_one, daysUntil_succ] at grows
    omega
  · have grows := @daysUntil_mono calendar _ _ (Nat.succ_le_of_lt after)
    rw [Nat.succ_eq_add_one, daysUntil_succ] at grows
    omega

theorem monthsKept_zero : MonthsKept calendar area optimisers tables 0
    ⟨tables, tables .mol area.initializeReservoirLevelDate, 0⟩ where
  level := rfl
  waste := rfl
  inputs _ _ := rfl
  solved _ none := absurd none (Nat.not_lt_zero _)
  starts _ none := absurd none (Nat.not_lt_zero _)
  turbine _ none := absurd none (Nat.not_lt_zero _)
  niveaux _ none := absurd none (Nat.not_lt_zero _)

theorem MonthsKept.succ (partitions : PartitionsYear calendar) (injective : ∀ first < 12, ∀ second < 12,
    calendar.mappingMonths first = calendar.mappingMonths second → first = second) {months : Nat} (within : months < 12)
    {before after : ReservoirState} (kept : MonthsKept calendar area optimisers tables months before)
    (solved : (solutionAt calendar area optimisers tables months).resultatsValides = .oui)
    (month : MonthKept area (solutionAt calendar area optimisers tables months) (firstDayAt calendar area months)
      (daysAt calendar area months) before after) :
    MonthsKept calendar area optimisers tables (months + 1) after := by
  have outside {earlier dayMonth : Nat} (early : earlier < months) (inside : dayMonth < daysAt calendar area earlier) :=
    firstDayAt_apart partitions injective (by omega) within (Nat.ne_of_lt early) inside
  constructor
  · rw [month.level, handedOn_succ]
  · rw [month.waste, handedOn_succ]
  · intro table isInput
    rw [month.inputs table isInput, kept.inputs table isInput]
  · intro other early
    rcases Nat.lt_succ_iff_lt_or_eq.mp early with earlier | rfl
    · exact kept.solved other earlier
    · exact solved
  · intro other early dayMonth inside
    rw [month.starts]
    rcases Nat.lt_succ_iff_lt_or_eq.mp early with earlier | rfl
    · rw [filled_outside (outside earlier inside), kept.starts other earlier dayMonth inside]
    · rw [filled_inside inside, kept.level]
  · intro other early dayMonth inside
    rw [month.turbine]
    rcases Nat.lt_succ_iff_lt_or_eq.mp early with earlier | rfl
    · rw [filled_outside (outside earlier inside), kept.turbine other earlier dayMonth inside]
    · rw [filled_inside inside]
  · intro other early dayMonth inside
    rw [month.niveaux]
    rcases Nat.lt_succ_iff_lt_or_eq.mp early with earlier | rfl
    · rw [filled_outside (outside earlier inside), kept.niveaux other earlier dayMonth inside]
    · rw [filled_inside inside]

theorem months_spec (partitions : PartitionsYear calendar) (injective : ∀ first < 12, ∀ second < 12,
    calendar.mappingMonths first = calendar.mappingMonths second → first = second)
    (managed : area.reservoirManagement = true) (hydroDebug : Bool) :
    Run.Satisfies ((List.range 12).foldlM (fun state month => reservoirMonth calendar area (optimisers month) hydroDebug
        ((area.initializeReservoirLevelDate + month) % 12) state)
      { tables, monthInitialLevel := tables .mol area.initializeReservoirLevelDate, wasteFromPreviousMonth := 0 } :
        HydroRun ReservoirState)
      (∃ month < 12, (solutionAt calendar area optimisers tables month).resultatsValides ≠ .oui)
      (MonthsKept calendar area optimisers tables 12) := by
  apply satisfies_foldlM_range (MonthsKept calendar area optimisers tables) _ monthsKept_zero
  intro month within state kept
  have solution : solutionAt calendar area optimisers tables month = (optimisers month).h2o2J (monthProblem calendar area
      state.tables (realmonthAt area month) state.monthInitialLevel state.wasteFromPreviousMonth) := by
    rw [monthProblem_congr calendar area kept.inputs, kept.level, kept.waste]
    rfl
  apply (reservoirMonth_spec partitions managed (optimisers month) hydroDebug (realmonthAt_lt area month) state
    solution).mono
  · exact fun unsolved => ⟨month, within, unsolved⟩
  · exact fun after ⟨solved, monthKept⟩ => kept.succ partitions injective within solved monthKept

theorem dailyDebugLine_satisfies {thrown : Prop} (managed : area.reservoirManagement = true) {realmonth dayMonth day : Nat}
    (civil : realmonth < 12) (inYear : day < 365) :
    (dailyDebugLine area realmonth dayMonth day tables).Satisfies thrown fun _ => True := by
  unfold dailyDebugLine
  apply satisfies_andThen
  · apply satisfies_mapM
    intro table listed
    rw [satisfies_readHydro]
    refine ⟨?_, trivial⟩
    cases table <;> simp_all [DailyHydroArea.size]
    omega
  intro daily
  apply satisfies_andThen
  · rw [satisfies_readHydro]
    exact ⟨civil, trivial⟩
  intro waste
  have monthly : Run.Satisfies (if dayMonth = 0 then
      [HydroTable.deviationMax, .violationMax, .waste, .coutTotal, .mog].mapM fun table => readHydro area tables table realmonth
    else pure [] : HydroRun (List Rat)) thrown fun _ => True := by
    split_ifs
    · apply satisfies_mapM
      intro table listed
      rw [satisfies_readHydro]
      refine ⟨?_, trivial⟩
      cases table <;> simp_all [DailyHydroArea.size]
    · trivial
  exact satisfies_join monthly fun _ _ => trivial

theorem writeDailyDebugData_satisfies {thrown : Prop} (partitions : PartitionsYear calendar)
    (managed : area.reservoirManagement = true) :
    (writeDailyDebugData calendar area tables).Satisfies thrown fun _ => True := by
  unfold writeDailyDebugData
  apply satisfies_andThen
  · rw [satisfies_readHydro]
    exact ⟨area.initializeReservoirLevelDate_lt, trivial⟩
  intro initial
  apply satisfies_andThen
  · apply satisfies_mapM
    intro month _
    apply satisfies_mapM
    intro dayMonth listed
    exact dailyDebugLine_satisfies managed (realmonthAt_lt area month)
      (mapped_day_lt partitions (realmonthAt_lt area month) (List.mem_range.mp listed))
  exact fun _ => trivial

def wasteBefore (area : DailyHydroArea) (solutions : Nat → SolutionMensuelleEtendue) : Nat → Rat
  | 0 => 0
  | month + 1 => (solutions month).waste * area.reservoirCapacity

/-- What the year of a managed reservoir makes of the solutions of its months: `result` are the tables after it. -/
structure ReservoirYear (calendar : Calendar) (area : DailyHydroArea) (tables : HydroTables)
    (solutions : Nat → SolutionMensuelleEtendue) (result : HydroTables) : Prop where
  balance : ∀ month < 12, ∀ dayMonth < daysAt calendar area month,
    let day := firstDayAt calendar area month + dayMonth
    result .niveauxReservoirsFinJours day = result .niveauxReservoirsDebutJours day +
      tables .srcinflows day / area.reservoirCapacity -
      result .hydrauliqueModulableQuotidien day / area.reservoirCapacity - (solutions month).overflows dayMonth
  overflows : ∀ month < 12, ∀ dayMonth < daysAt calendar area month, 0 ≤ (solutions month).overflows dayMonth
  levels : ∀ month < 12, ∀ dayMonth < daysAt calendar area month,
    let day := firstDayAt calendar area month + dayMonth
    0 ≤ result .niveauxReservoirsFinJours day ∧ result .niveauxReservoirsFinJours day ≤ 1
  firstLevel : result .niveauxReservoirsDebutJours (firstDayAt calendar area 0) =
    tables .mol area.initializeReservoirLevelDate
  days : ∀ month < 12, ∀ dayMonth, dayMonth + 1 < daysAt calendar area month →
    result .niveauxReservoirsDebutJours (firstDayAt calendar area month + (dayMonth + 1)) =
      result .niveauxReservoirsFinJours (firstDayAt calendar area month + dayMonth)
  months : ∀ month, month + 1 < 12 → result .niveauxReservoirsDebutJours (firstDayAt calendar area (month + 1)) =
    result .niveauxReservoirsFinJours (firstDayAt calendar area month + (daysAt calendar area month - 1))
  generation : ∀ month < 12, ∀ dayMonth < daysAt calendar area month,
    let day := firstDayAt calendar area month + dayMonth
    tables .dailyMinGen day ≤ result .hydrauliqueModulableQuotidien day ∧
      result .hydrauliqueModulableQuotidien day ≤ tables .genMaxP day * tables .genMaxE day
  deviations : ∀ month < 12, ∀ dayMonth < daysAt calendar area month,
    let day := firstDayAt calendar area month + dayMonth
    |result .hydrauliqueModulableQuotidien day / area.reservoirCapacity - (tables .dailyTargetGen day +
      wasteBefore area solutions month / daysAt calendar area month) / area.reservoirCapacity| ≤
        (solutions month).deviations dayMonth ∧ (solutions month).deviations dayMonth ≤ (solutions month).deviationMax
  waste : ∀ month < 12, 0 ≤ (solutions month).waste
  budget : ∑ month ∈ range 12, ∑ dayMonth ∈ range (daysAt calendar area month),
      result .hydrauliqueModulableQuotidien (firstDayAt calendar area month + dayMonth) + wasteBefore area solutions 12 =
    ∑ realmonth ∈ range 12, tables .mog realmonth

theorem handedOn_waste (month : Nat) : (handedOn calendar area optimisers tables month).2 =
    wasteBefore area (solutionAt calendar area optimisers tables) month := by
  cases month <;> rfl

theorem getD_map_daysFrom {first days index : Nat} (inside : index < days) (value : Nat → Rat) :
    ((daysFrom first days).map value).getD index 0 = value (first + index) := by
  unfold daysFrom
  rw [List.map_map, List.getD_eq_getElem _ _ (by simpa using inside), List.getElem_map, List.getElem_range]
  rfl

theorem month_budget (capacity : 0 < area.reservoirCapacity) {month : Nat}
    (meets : (solutionAt calendar area optimisers tables month).Meets (problemAt calendar area optimisers tables month)) :
    ∑ dayMonth ∈ range (daysAt calendar area month),
        (solutionAt calendar area optimisers tables month).turbine dayMonth * area.reservoirCapacity +
      wasteBefore area (solutionAt calendar area optimisers tables) (month + 1) =
    tables .mog (realmonthAt area month) + wasteBefore area (solutionAt calendar area optimisers tables) month := by
  have budget : ∑ dayMonth ∈ range (daysAt calendar area month),
      (solutionAt calendar area optimisers tables month).turbine dayMonth +
        (solutionAt calendar area optimisers tables month).waste =
      (tables .mog (realmonthAt area month) + (handedOn calendar area optimisers tables month).2) /
        area.reservoirCapacity := meets.budget
  rw [eq_div_iff capacity.ne', add_mul, sum_mul, handedOn_waste] at budget
  exact budget

theorem year_budget (capacity : 0 < area.reservoirCapacity) (meets : ∀ month < 12,
    (solutionAt calendar area optimisers tables month).Meets (problemAt calendar area optimisers tables month)) :
    ∑ month ∈ range 12, ∑ dayMonth ∈ range (daysAt calendar area month),
        (solutionAt calendar area optimisers tables month).turbine dayMonth * area.reservoirCapacity +
      wasteBefore area (solutionAt calendar area optimisers tables) 12 =
    ∑ realmonth ∈ range 12, tables .mog realmonth := by
  have months (count : Nat) (within : count ≤ 12) : ∑ month ∈ range count, ∑ dayMonth ∈ range (daysAt calendar area month),
        (solutionAt calendar area optimisers tables month).turbine dayMonth * area.reservoirCapacity +
      wasteBefore area (solutionAt calendar area optimisers tables) count =
      ∑ month ∈ range count, tables .mog (realmonthAt area month) := by
    induction count with
    | zero => simp [wasteBefore]
    | succ count ih =>
      rw [sum_range_succ, sum_range_succ, add_assoc, month_budget capacity (meets count (by omega)), ← ih (by omega)]
      ring
  rw [months 12 le_rfl]
  exact sum_realmonthAt area (tables .mog)

theorem solutionAt_meets {simplexe : Nat → ProblemeEtendu → ReponseSimplexe} {couts : Nat → Nat → Rat}
    {h2oJ : DonneesMensuelles → SolutionMensuelle} {month : Nat}
    (feasible : ∀ probleme x, simplexe month probleme = .solution x → probleme.Feasible x)
    (solved : (solutionAt calendar area (optimisersOfMonth simplexe couts h2oJ) tables month).resultatsValides = .oui) :
    (solutionAt calendar area (optimisersOfMonth simplexe couts h2oJ) tables month).Meets
      (problemAt calendar area (optimisersOfMonth simplexe couts h2oJ) tables month) :=
  optimiserUnMois_meets feasible (couts month) solved

theorem reservoirYear_of_kept (partitions : PartitionsYear calendar) (capacity : 0 < area.reservoirCapacity)
    {state : ReservoirState} (kept : MonthsKept calendar area optimisers tables 12 state) (meets : ∀ month < 12,
      (solutionAt calendar area optimisers tables month).Meets (problemAt calendar area optimisers tables month)) :
    ReservoirYear calendar area tables (solutionAt calendar area optimisers tables) state.tables := by
  have some_day (month : Nat) : 0 < daysAt calendar area month :=
    partitions.days_pos _ (partitions.mapping_lt _ (realmonthAt_lt area month))
  have capacity_ne := capacity.ne'
  constructor
  case balance =>
    intro month within dayMonth inside day
    have chained := (meets month within).chained dayMonth inside
    have inflow : (problemAt calendar area optimisers tables month).apports.getD dayMonth 0 =
        tables .srcinflows day / area.reservoirCapacity := getD_map_daysFrom inside _
    rw [kept.niveaux month within dayMonth inside, kept.starts month within dayMonth inside,
      kept.turbine month within dayMonth inside, mul_div_cancel_right₀ _ capacity_ne, chained, inflow]
    rfl
  case overflows => exact fun month within dayMonth inside => (meets month within).overflows dayMonth inside
  case levels =>
    intro month within dayMonth inside day
    rw [kept.niveaux month within dayMonth inside]
    exact (meets month within).niveaux dayMonth inside
  case firstLevel => exact kept.starts 0 (by decide) 0 (some_day 0)
  case days =>
    intro month within dayMonth inside
    rw [kept.starts month within _ inside, kept.niveaux month within _ (by omega)]
    rfl
  case months =>
    intro month within
    have last : daysAt calendar area month - 1 < daysAt calendar area month := Nat.sub_lt (some_day month) Nat.one_pos
    rw [kept.niveaux month (by omega) _ last]
    exact kept.starts (month + 1) within 0 (some_day (month + 1))
  case generation =>
    intro month within dayMonth inside day
    have least : (problemAt calendar area optimisers tables month).turbineMin.getD dayMonth 0 =
        tables .dailyMinGen day / area.reservoirCapacity := getD_map_daysFrom inside _
    have most : (problemAt calendar area optimisers tables month).turbineMax.getD dayMonth 0 =
        tables .genMaxP day * tables .genMaxE day / area.reservoirCapacity := getD_map_daysFrom inside _
    have turbine := (meets month within).turbine dayMonth inside
    rw [least, most, div_le_iff₀ capacity, le_div_iff₀ capacity] at turbine
    rw [kept.turbine month within dayMonth inside]
    exact turbine
  case deviations =>
    intro month within dayMonth inside day
    have target : (problemAt calendar area optimisers tables month).turbineCible.getD dayMonth 0 =
        (tables .dailyTargetGen day + (handedOn calendar area optimisers tables month).2 / daysAt calendar area month) /
          area.reservoirCapacity := getD_map_daysFrom inside _
    have deviation := (meets month within).deviations dayMonth inside
    rw [target, handedOn_waste] at deviation
    rw [kept.turbine month within dayMonth inside, mul_div_cancel_right₀ _ capacity_ne]
    exact ⟨deviation, (meets month within).deviationMax dayMonth inside⟩
  case waste => exact fun month within => (meets month within).waste
  case budget =>
    rw [← year_budget capacity meets]
    congr 1
    apply sum_congr rfl
    intro month within
    apply sum_congr rfl
    intro dayMonth inside
    exact kept.turbine month (mem_range.mp within) dayMonth (mem_range.mp inside)

variable (calendar area optimisers) in
/-- The run stops only at a month without solution, and else its tables are a year of the reservoir. -/
structure EndsInReservoirYear (settings : DailySettings) (tables : HydroTables) : Prop where
  satisfies : (optimiseReservoirBy calendar area optimisers settings tables).Satisfies
    (∃ month < 12, (solutionAt calendar area optimisers tables month).resultatsValides ≠ .oui)
    fun result => (∀ month < 12, (solutionAt calendar area optimisers tables month).resultatsValides = .oui) ∧
      ReservoirYear calendar area tables (solutionAt calendar area optimisers tables) result.tables

theorem endsInReservoirYear_of_meets (partitions : PartitionsYear calendar) (injective : ∀ first < 12, ∀ second < 12,
    calendar.mappingMonths first = calendar.mappingMonths second → first = second)
    (managed : area.reservoirManagement = true) (capacity : 0 < area.reservoirCapacity)
    (meets : ∀ month < 12, (solutionAt calendar area optimisers tables month).resultatsValides = .oui →
      (solutionAt calendar area optimisers tables month).Meets (problemAt calendar area optimisers tables month))
    (settings : DailySettings) : EndsInReservoirYear calendar area optimisers settings tables := by
  constructor
  unfold optimiseReservoirBy
  rw [satisfies_bind, satisfies_readHydro]
  refine ⟨area.initializeReservoirLevelDate_lt, ?_⟩
  apply (months_spec partitions injective managed settings.hydroDebug).bind
  intro state kept
  have year := reservoirYear_of_kept partitions capacity kept fun month within =>
    meets month within (kept.solved month within)
  rw [satisfies_bind, satisfies_readHydro]
  refine ⟨by simpa [DailyHydroArea.size, managed] using settings.firstDaySimu_lt, ?_⟩
  have debug : Run.Satisfies (if settings.hydroDebug then writeDailyDebugData calendar area state.tables
      else pure [] : HydroRun (List (List Rat)))
      (∃ month < 12, (solutionAt calendar area optimisers tables month).resultatsValides ≠ .oui) fun _ => True := by
    split_ifs
    · exact writeDailyDebugData_satisfies partitions managed
    · trivial
  exact satisfies_join debug fun _ _ => ⟨kept.solved, year⟩

end

end

/-- Whatever feasible points the simplex answers, and in whatever order the months come -/
theorem optimiseReservoirBy_reservoirYear {calendarSettings : Calendar.Settings} (common : calendarSettings.leapYear = false)
    {area : DailyHydroArea} (managed : area.reservoirManagement = true) (capacity : 0 < area.reservoirCapacity)
    {simplexe : Nat → ProblemeEtendu → ReponseSimplexe}
    (feasible : ∀ month probleme x, simplexe month probleme = .solution x → probleme.Feasible x)
    (couts : Nat → Nat → Rat) (h2oJ : DonneesMensuelles → SolutionMensuelle) (settings : DailySettings)
    (tables : HydroTables) :
    EndsInReservoirYear (Calendar.reset calendarSettings) area (optimisersOfMonth simplexe couts h2oJ) settings tables := by
  have partitions := reset_partitions common
  have injective (first : Nat) (civil : first < 12) (second : Nat) (other : second < 12)
      (same : (Calendar.reset calendarSettings).mappingMonths first =
        (Calendar.reset calendarSettings).mappingMonths second) : first = second :=
    reset_mappingMonths_injective calendarSettings civil other same
  generalize Calendar.reset calendarSettings = calendar at *
  apply endsInReservoirYear_of_meets partitions injective managed capacity
  intro month _ solved
  exact solutionAt_meets (feasible month) solved

instance (bounds : Bounds Rat) (value : Rat) : Decidable (bounds.Contains value) := inferInstanceAs (Decidable (_ ∧ _))

instance (ligne : Row Nat Rat) (x : Nat → Rat) : Decidable (ligne.Holds x) :=
  inferInstanceAs (Decidable (ligne.sense.Holds _ _))

instance (probleme : ProblemeEtendu) (x : Nat → Rat) : Decidable (probleme.Feasible x) :=
  inferInstanceAs (Decidable (_ ∧ _))

def restingSimplexe (probleme : ProblemeEtendu) : ReponseSimplexe :=
  if probleme.Feasible fun _ => 0 then .solution fun _ => 0 else .pasDeSolution

theorem restingSimplexe_feasible (month : Nat) (probleme : ProblemeEtendu) (x : Nat → Rat)
    (answer : (fun _ => restingSimplexe) month probleme = .solution x) : probleme.Feasible x := by
  change restingSimplexe probleme = .solution x at answer
  unfold restingSimplexe at answer
  split_ifs at answer with feasible
  cases answer
  exact feasible

def reservoirArea : DailyHydroArea :=
  { useHeuristicTarget := true
    followLoadModulations := true
    intermonthlyBreakdown := 1
    interDailyBreakdown := 1
    allocation := []
    reservoirManagement := true
    reservoirCapacity := 1000
    initializeReservoirLevelDate := 8
    initializeReservoirLevelDate_lt := by decide }

def julyYear : Calendar.Settings := ⟨.monday, .sunday, 6, by decide, false⟩

/-- An empty reservoir without inflows, from September on in a year that starts in July -/
theorem reservoirArea_reservoirYear :
    EndsInReservoirYear (Calendar.reset julyYear) reservoirArea
      (optimisersOfMonth (fun _ => restingSimplexe) (fun _ _ => 1) fun _ => ⟨.oui, fun _ => 0⟩) ⟨true, 0, by decide⟩
      fun _ _ => 0 :=
  optimiseReservoirBy_reservoirYear rfl rfl (by decide) restingSimplexe_feasible _ _ _ _

end Antares.Solver
