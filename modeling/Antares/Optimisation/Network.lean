import Antares.Library.Chains
import Antares.Library.LinearRows
import Antares.Optimisation.Horizon

/-! The areas and links of `PROBLEME_HEBDO`. Each area reaches the links that start or end
there through the chains of `OPT_ChainagesDesIntercoPartantDUnNoeud`. Binding constraints on links
and thermal clusters, and the time steps that their offsets reach.
-/

set_option autoImplicit false

namespace Antares.Optimisation

open Library

structure Network where
  nombreDePays : Nat
  nombreDInterconnexions : Nat
  paysOrigineDeLInterconnexion : Nat → Nat
  paysExtremiteDeLInterconnexion : Nat → Nat
  origine_lt : ∀ interco < nombreDInterconnexions, paysOrigineDeLInterconnexion interco < nombreDePays
  extremite_lt : ∀ interco < nombreDInterconnexions,
    paysExtremiteDeLInterconnexion interco < nombreDePays

namespace Network

variable (network : Network)

theorem sansInterco_lt : ∀ interco < 0, 0 < 1 := fun _ none => absurd none (Nat.not_lt_zero _)

theorem nord_lt : ∀ interco < 1, 0 < 2 := fun _ _ => Nat.two_pos

theorem sud_lt : ∀ interco < 1, 1 < 2 := fun _ _ => Nat.one_lt_two

/-- The loop along `IndexDebutIntercoOrigine` and `IndexSuivantIntercoOrigine`. -/
def intercosOrigine (pays : Nat) : List Nat :=
  (Chains.build network.paysOrigineDeLInterconnexion network.nombreDInterconnexions).visited
    network.nombreDInterconnexions pays

/-- The loop along `IndexDebutIntercoExtremite` and `IndexSuivantIntercoExtremite`. -/
def intercosExtremite (pays : Nat) : List Nat :=
  (Chains.build network.paysExtremiteDeLInterconnexion network.nombreDInterconnexions).visited
    network.nombreDInterconnexions pays

variable {network}

@[simp] theorem mem_intercosOrigine {pays interco : Nat} :
    interco ∈ network.intercosOrigine pays ↔
      interco < network.nombreDInterconnexions ∧ network.paysOrigineDeLInterconnexion interco = pays := by
  unfold intercosOrigine
  rw [Chains.visited_build, Chains.mem_itemsOf]

@[simp] theorem mem_intercosExtremite {pays interco : Nat} :
    interco ∈ network.intercosExtremite pays ↔
      interco < network.nombreDInterconnexions ∧
        network.paysExtremiteDeLInterconnexion interco = pays := by
  unfold intercosExtremite
  rw [Chains.visited_build, Chains.mem_itemsOf]

end Network

inductive TypeDeContrainteCouplante where
  | horaire
  | journaliere
  | hebdomadaire
  deriving DecidableEq, Repr

structure TermeDInterconnexion where
  numeroDeLInterconnexion : Nat
  poids : Rat
  offsetTemporel : Int
  deriving DecidableEq

structure TermeDePalier where
  pays : Nat
  numeroDuPalierDispatch : Nat
  poids : Rat
  offsetTemporel : Int
  deriving DecidableEq

/-- A binding constraint without its right-hand sides. Weights are kept by link and by
cluster, and only those that are not zero. -/
structure ContrainteCouplante where
  typeDeContrainteCouplante : TypeDeContrainteCouplante
  interconnexions : List TermeDInterconnexion
  paliers : List TermeDePalier
  sens : Sense
  interconnexions_nodup : (interconnexions.map (·.numeroDeLInterconnexion)).Nodup
  interconnexions_poids : ∀ terme ∈ interconnexions, terme.poids ≠ 0
  paliers_nodup : (paliers.map fun terme => (terme.pays, terme.numeroDuPalierDispatch)).Nodup
  paliers_poids : ∀ terme ∈ paliers, terme.poids ≠ 0

theorem ContrainteCouplante.sansPalier_nodup :
    (([] : List TermeDePalier).map fun terme => (terme.pays, terme.numeroDuPalierDispatch)).Nodup := List.nodup_nil

theorem ContrainteCouplante.sansPalier_poids : ∀ terme ∈ ([] : List TermeDePalier), terme.poids ≠ 0 := by decide

/-- `GetShiftedTimeStep`, a time step of the optimisation. Sums are those of 32-bit integers, and
remainders have the sign of the sum. -/
def getShiftedTimeStep (nbTimeSteps : Nat) (hourInWeek : Nat) (offset delta : Int) : Int :=
  let pdt := Int.bmod (hourInWeek + offset) (2 ^ 32)
  if offset = 0 then pdt
  else if 0 ≤ offset then pdt.tmod nbTimeSteps
  else (Int.bmod (pdt + delta) (2 ^ 32)).tmod nbTimeSteps

end Antares.Optimisation
