import Mathlib.Data.Nat.Notation

/-! The week, the intervals it is optimised in, and the options of a study that decide what
a weekly problem contains.
-/

set_option autoImplicit false

namespace Antares.Optimisation

/-- `NombreDePasDeTemps` of a weekly problem. -/
def nbHoursInWeek : Nat := 168

def nombreDePasDeTempsDUneJournee : Nat := nbHoursInWeek / 7

inductive SimplexOptimization where
  | sorDay
  | sorWeek
  deriving DecidableEq, Repr

namespace SimplexOptimization

def nombreDePasDeTempsPourUneOptimisation : SimplexOptimization → Nat
  | .sorDay => nombreDePasDeTempsDUneJournee
  | .sorWeek => nbHoursInWeek

variable (range : SimplexOptimization)

theorem steps_pos : 0 < range.nombreDePasDeTempsPourUneOptimisation := by
  cases range <;> decide

def nbIntervallesOptimises : Nat := nbHoursInWeek / range.nombreDePasDeTempsPourUneOptimisation

def nombreDeJoursParIntervalle : Nat :=
  range.nombreDePasDeTempsPourUneOptimisation / nombreDePasDeTempsDUneJournee

theorem nombreDeJoursParIntervalle_pos : 0 < range.nombreDeJoursParIntervalle := by
  cases range <;> decide

theorem intervalles_mul_jours : range.nbIntervallesOptimises * range.nombreDeJoursParIntervalle = 7 := by
  cases range <;> decide

end SimplexOptimization

inductive UnitCommitmentMode where
  | ucHeuristicFast
  | ucHeuristicAccurate
  | ucMILP
  deriving DecidableEq, Repr

namespace UnitCommitmentMode

variable (ucMode : UnitCommitmentMode)

def optimisationAvecCoutsDeDemarrage : Bool := ucMode ≠ .ucHeuristicFast

def optimisationAvecVariablesEntieres : Bool := ucMode = .ucMILP

end UnitCommitmentMode

inductive TypeDeLissageHydraulique where
  | pasDeLissageHydraulique
  | lissageHydrauliqueSurSommeDesVariations
  | lissageHydrauliqueSurVariationMax
  deriving DecidableEq, Repr

def numeroDeJourDuPasDeTemps (pdt : Nat) : Nat := pdt / nombreDePasDeTempsDUneJournee

end Antares.Optimisation
