import Antares.AdequacyPatch.WeekProblems
import Antares.Data.SimulationPeriod

/-! The weeks of a simulated year and the hours at which each of them reads the hourly data of
the study: those of areas and links from the first simulated hour, those of short-term storages
from the rank of the week.
-/

set_option autoImplicit false

namespace Antares.Solver

open Data Optimisation AdequacyPatch

structure SeriesDuPays where
  load : Nat → Rat
  wind : Nat → Rat
  solar : Nat → Rat
  ror : Nat → Rat
  miscGenSum : Nat → Rat
  mustrunSum : Nat → Rat
  renewableClusters : List (Nat → Rat)
  dayBeforeReserve : Nat → Rat
  mingen : Nat → Rat

/-- The hourly data of a link for one year, its capacities infinite where there is none. -/
structure SeriesDuLien where
  directCapacities : Nat → Option Rat
  indirectCapacities : Nat → Option Rat
  loopFlow : Nat → Rat

structure SeriesDeLAnnee where
  aggregated : Bool
  pays : Nat → SeriesDuPays
  liens : Nat → SeriesDuLien
  /-- The storages, their series over the hours of the year. -/
  stockages : Nat → StockageHebdo

structure ProblemeHebdo where
  weekInTheYear : Nat
  heureDansLAnnee : Nat
  allMustRunGenerationOfArea : Nat → Nat → Rat
  consommationAbattueDuPays : Nat → Nat → Rat
  reserveHoraireJMoins1 : Nat → Nat → Rat
  mingenHoraire : Nat → Nat → Rat
  valeurDeNTCOrigineVersExtremite : Nat → Nat → Option Rat
  valeurDeNTCExtremiteVersOrigine : Nat → Nat → Option Rat
  valeurDeLoopFlowOrigineVersExtremite : Nat → Nat → Rat

section Reading
variable (series : SeriesDeLAnnee)

def mustRunGen (pays hourInYear : Nat) : Rat :=
  let area := series.pays pays
  if series.aggregated then
    area.wind hourInYear + area.solar hourInYear + area.miscGenSum hourInYear + area.ror hourInYear +
      area.mustrunSum hourInYear
  else
    area.miscGenSum hourInYear + area.ror hourInYear + area.mustrunSum hourInYear +
      (area.renewableClusters.map fun cluster => cluster hourInYear).sum

/-- `SIM_RenseignementProblemeHebdo`, as far as it reads hourly data. -/
def renseignementProblemeHebdo (weekInTheYear pasDeTempsDebut : Nat) : ProblemeHebdo where
  weekInTheYear := weekInTheYear
  heureDansLAnnee := pasDeTempsDebut
  allMustRunGenerationOfArea pays hourInWeek := mustRunGen series pays (pasDeTempsDebut + hourInWeek)
  consommationAbattueDuPays pays hourInWeek :=
    (series.pays pays).load (pasDeTempsDebut + hourInWeek) - mustRunGen series pays (pasDeTempsDebut + hourInWeek)
  reserveHoraireJMoins1 pays hourInWeek := (series.pays pays).dayBeforeReserve (pasDeTempsDebut + hourInWeek)
  mingenHoraire pays hourInWeek := (series.pays pays).mingen (pasDeTempsDebut + hourInWeek)
  valeurDeNTCOrigineVersExtremite interco hourInWeek :=
    (series.liens interco).directCapacities (pasDeTempsDebut + hourInWeek)
  valeurDeNTCExtremiteVersOrigine interco hourInWeek :=
    (series.liens interco).indirectCapacities (pasDeTempsDebut + hourInWeek)
  valeurDeLoopFlowOrigineVersExtremite interco hourInWeek :=
    (series.liens interco).loopFlow (pasDeTempsDebut + hourInWeek)

variable (probleme : ProblemeHebdo)

/-- `hourInTheYear` of `setBoundsForShortTermStorage` and `shortTermStorageLevelsRHS`. -/
def ProblemeHebdo.hourInTheYear (pdtHebdo : Nat) : Nat :=
  probleme.weekInTheYear * 168 + pdtHebdo

end Reading

inductive IssueDeLaSemaine where
  | solved
  | assertionError
  | unfeasibleProblemError
  deriving DecidableEq, Repr

/-- What decides how a year goes on: which weeks need the solver (all of them in the economy
mode), what comes out of it, and whether an unfeasible week stops the simulation. -/
structure DeroulementDeLAnnee where
  simplexIsRequired : ProblemeHebdo → Bool
  issue : ProblemeHebdo → IssueDeLaSemaine
  stopSimulation : Bool

section Year
variable (series : SeriesDeLAnnee) (deroulement : DeroulementDeLAnnee)

/-- The problems that the weeks of `Economy::year` or `Adequacy::year` hand to the solver. -/
def problemesDesSemaines : Nat → Nat → Nat → List ProblemeHebdo
  | 0, _, _ => []
  | remaining + 1, w, hourInTheYear =>
    let probleme := renseignementProblemeHebdo series w hourInTheYear
    let suite := problemesDesSemaines remaining (w + 1) (hourInTheYear + 168)
    if w = 0 || deroulement.simplexIsRequired probleme then
      probleme :: match deroulement.issue probleme with
        | .solved => suite
        | .assertionError => []
        | .unfeasibleProblemError => if deroulement.stopSimulation then [] else suite
    else suite

variable {series deroulement} in
theorem mem_problemesDesSemaines {remaining w hourInTheYear : Nat} {probleme : ProblemeHebdo}
    (mem : probleme ∈ problemesDesSemaines series deroulement remaining w hourInTheYear) :
    ∃ k < remaining, probleme = renseignementProblemeHebdo series (w + k) (hourInTheYear + 168 * k) := by
  induction remaining generalizing w hourInTheYear with
  | zero => simp [problemesDesSemaines] at mem
  | succ remaining ih =>
    have later (mem : probleme ∈ problemesDesSemaines series deroulement remaining (w + 1) (hourInTheYear + 168)) :
        ∃ k < remaining + 1, probleme = renseignementProblemeHebdo series (w + k) (hourInTheYear + 168 * k) := by
      obtain ⟨k, small, same⟩ := ih mem
      refine ⟨k + 1, by omega, ?_⟩
      rw [same]
      congr 1 <;> omega
    simp only [problemesDesSemaines] at mem
    split at mem
    · rcases List.mem_cons.1 mem with same | mem
      · exact ⟨0, by omega, same⟩
      · -- An error may end the year here, otherwise the rest of the weeks follows.
        split at mem
        · exact later mem
        · cases mem
        · split at mem
          · cases mem
          · exact later mem
    · exact later mem

theorem first_mem_problemesDesSemaines {remaining : Nat} (some : 0 < remaining) (hourInTheYear : Nat) :
    renseignementProblemeHebdo series 0 hourInTheYear ∈
      problemesDesSemaines series deroulement remaining 0 hourInTheYear := by
  obtain ⟨remaining, rfl⟩ := Nat.exists_eq_succ_of_ne_zero some.ne'
  simp [problemesDesSemaines]

/-- The problems of a year, from `pStartTime` and for `pNbWeeks`. -/
def problemesDeLAnnee (calendar : Calendar) (simulationDays : Interval) : List ProblemeHebdo :=
  problemesDesSemaines series deroulement simulationDays.numberOfWeeks 0
    (calendar.days simulationDays.first).hours.first

variable {series deroulement} in
theorem firstHour_of_same {settings : Calendar.Settings} {simulationDays : Interval}
    (inYear : simulationDays.first < Calendar.maxDaysInYear) (weeks : 0 < simulationDays.numberOfWeeks)
    (same : ∀ probleme ∈ problemesDeLAnnee series deroulement (.reset settings) simulationDays,
      ∀ pdtHebdo < nbHoursInWeek, probleme.hourInTheYear pdtHebdo = probleme.heureDansLAnnee + pdtHebdo) :
    simulationDays.first = 0 := by
  have firstWeek := first_mem_problemesDesSemaines series deroulement weeks
    ((Calendar.reset settings).days simulationDays.first).hours.first
  have firstHour := same _ firstWeek 0 (by decide)
  rw [Calendar.reset_days_hours settings inYear] at firstHour
  simp only [ProblemeHebdo.hourInTheYear, renseignementProblemeHebdo] at firstHour
  omega

/-- In every week, storages are read at the hours of the other data when the simulation starts
on the first day of the year, and only then. -/
theorem hourInTheYear_eq_iff (settings : Calendar.Settings) (startKey endKey : Option Nat)
    (nbYears effectiveNbYears : Nat)
    (accepted : ∃ limits, initializeRangeLimits (.reset settings) (loadSimulationDays startKey endKey) nbYears
      effectiveNbYears = .ok limits) :
    (∀ probleme ∈ problemesDeLAnnee series deroulement (.reset settings) (loadSimulationDays startKey endKey),
        ∀ pdtHebdo < nbHoursInWeek,
          probleme.hourInTheYear pdtHebdo = probleme.heureDansLAnnee + pdtHebdo) ↔
      (loadSimulationDays startKey endKey).first = 0 := by
  obtain ⟨started, last⟩ := loadSimulationDays_end startKey endKey
  have first := loadSimulationDays_first startKey endKey
  generalize loadSimulationDays startKey endKey = simulationDays at *
  have inYear : simulationDays.first < Calendar.maxDaysInYear := by
    rw [Calendar.maxDaysInYear]
    omega
  have startTime : ((Calendar.reset settings).days simulationDays.first).hours.first = 24 * simulationDays.first := by
    rw [Calendar.reset_days_hours settings inYear]
  have long := (initializeRangeLimits_isOk_iff settings inYear started (by rw [Calendar.maxDaysInYear]; omega)
    nbYears effectiveNbYears).1 accepted
  have weeks : 0 < simulationDays.numberOfWeeks := by
    rw [Interval.numberOfWeeks_of_le (by omega) (by omega)]
    omega
  refine ⟨firstHour_of_same inYear weeks, ?_⟩
  intro january probleme mem pdtHebdo _
  rw [problemesDeLAnnee, startTime] at mem
  obtain ⟨k, -, rfl⟩ := mem_problemesDesSemaines mem
  simp only [ProblemeHebdo.hourInTheYear, renseignementProblemeHebdo, january]
  omega

def emptySeries : SeriesDeLAnnee where
  aggregated := true
  pays _ := ⟨fun _ => 0, fun _ => 0, fun _ => 0, fun _ => 0, fun _ => 0, fun _ => 0, [], fun _ => 0, fun _ => 0⟩
  liens _ := ⟨fun _ => none, fun _ => none, fun _ => 0⟩
  stockages _ := ⟨0, 0, 0, 0, true, fun _ => 1, fun _ => 1, fun _ => 0, fun _ => 1, fun _ => 0⟩

def economyRun : DeroulementDeLAnnee := ⟨fun _ => true, fun _ => .solved, true⟩

def defaultSettings : Calendar.Settings := ⟨.monday, .monday, january, january_lt, false⟩

theorem hourInTheYear_eq_iff_wholeYear :
    (∀ probleme ∈ problemesDeLAnnee emptySeries economyRun (.reset defaultSettings) (loadSimulationDays none none),
        ∀ pdtHebdo < nbHoursInWeek,
          probleme.hourInTheYear pdtHebdo = probleme.heureDansLAnnee + pdtHebdo) ↔
      (loadSimulationDays none none).first = 0 :=
  hourInTheYear_eq_iff emptySeries economyRun defaultSettings none none 1 1
    ((initializeRangeLimits_isOk_iff defaultSettings (by decide) (by decide) (by decide) 1 1).2 (by decide))

/-- A simulation of one week from the eighth of January reads the storages a week too early. -/
theorem secondWeek_reads_firstWeek :
    (∃ limits, initializeRangeLimits (.reset defaultSettings) (loadSimulationDays (some 8) (some 14)) 1 1 =
      .ok limits) ∧
    ¬ ∀ probleme ∈ problemesDeLAnnee emptySeries economyRun (.reset defaultSettings)
          (loadSimulationDays (some 8) (some 14)),
        ∀ pdtHebdo < nbHoursInWeek,
          probleme.hourInTheYear pdtHebdo = probleme.heureDansLAnnee + pdtHebdo := by
  refine ⟨(initializeRangeLimits_isOk_iff defaultSettings (by decide) (by decide) (by decide) 1 1).2 (by decide),
    fun same => ?_⟩
  have first := firstHour_of_same (by decide) (by decide) same
  exact absurd first (by decide)

end Year

end Antares.Solver
