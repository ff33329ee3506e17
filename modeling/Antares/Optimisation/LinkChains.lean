import Antares.Optimisation.Network

/-! `OPT_ChainagesDesIntercoPartantDUnNoeud`: the arrays through which an area finds the links that
start there and those that end there. They keep what earlier calls left in the cells that are not
written.
-/

set_option autoImplicit false

namespace Antares.Optimisation

open Library

/-- `IndexDebutInterco` by area and `IndexSuivantInterco` by link, for one end of the links. -/
structure Chainage where
  indexDebut : Nat → Int
  indexSuivant : Nat → Int

namespace Chainage

variable (chainage : Chainage)

def effacer (pays : Nat) : Chainage :=
  { chainage with indexDebut := Function.update chainage.indexDebut pays (-1) }

def inserer (noeud interco : Nat) : Chainage :=
  let index := chainage.indexDebut noeud
  { indexDebut := Function.update chainage.indexDebut noeud interco
    indexSuivant := Function.update chainage.indexSuivant interco index }

/-- `while (interco >= 0)` with `interco = IndexSuivantInterco[interco]` at the end of the body. -/
def Parcours {σ : Type} (chainage : Chainage) (corps : Nat → σ → σ) (pays : Nat) (avant apres : σ) : Prop :=
  Chains.Loop chainage.indexSuivant corps (chainage.indexDebut pays) avant apres

end Chainage

structure Chainages where
  origine : Chainage
  extremite : Chainage

namespace Chainages

def effacer (chainages : Chainages) (pays : Nat) : Chainages where
  origine := chainages.origine.effacer pays
  extremite := chainages.extremite.effacer pays

def inserer (chainages : Chainages) (noeudOrigine noeudExtremite interco : Nat) : Chainages where
  origine := chainages.origine.inserer noeudOrigine interco
  extremite := chainages.extremite.inserer noeudExtremite interco

end Chainages

namespace Network

variable (network : Network)

def chainagesDesIntercoPartantDUnNoeud (chainages : Chainages) : Chainages :=
  (List.range network.nombreDInterconnexions).foldl
    (fun chainages interco => chainages.inserer (network.paysOrigineDeLInterconnexion interco)
      (network.paysExtremiteDeLInterconnexion interco) interco)
    ((List.range network.nombreDePays).foldl Chainages.effacer chainages)

end Network

section Cellules

structure Chainage.Tient (chainage : Chainage) (noeud : Nat → Nat) (pays intercos : Nat) : Prop where
  debut : ∀ autre < pays, chainage.indexDebut autre = Chains.cell ((Chains.build noeud intercos).first autre)
  suivant : ∀ interco < intercos, chainage.indexSuivant interco = Chains.cell ((Chains.build noeud intercos).next interco)

variable {chainage : Chainage} {noeud : Nat → Nat} {pays : Nat}

theorem tient_effacer : ((List.range pays).foldl Chainage.effacer chainage).Tient noeud pays 0 := by
  refine ⟨?_, fun interco inside => absurd inside (Nat.not_lt_zero interco)⟩
  change ∀ autre < pays, _ = (-1 : Int)
  induction pays with
  | zero => exact fun autre inside => absurd inside (Nat.not_lt_zero autre)
  | succ pays ih =>
    intro autre inside
    rw [List.range_succ, List.foldl_append]
    change Function.update _ pays (-1) autre = -1
    by_cases last : autre = pays
    · rw [last, Function.update_self]
    · rw [Function.update_of_ne last]
      exact ih autre (by omega)

theorem Chainage.Tient.inserer {interco : Nat} (tient : chainage.Tient noeud pays interco) (noeud_lt : noeud interco < pays) :
    (chainage.inserer (noeud interco) interco).Tient noeud pays (interco + 1) := by
  constructor
  · intro autre inside
    change Function.update chainage.indexDebut (noeud interco) interco autre =
      Chains.cell (Function.update (Chains.build noeud interco).first (noeud interco) (some interco) autre)
    by_cases same : autre = noeud interco
    · rw [same, Function.update_self, Function.update_self]
      rfl
    · rw [Function.update_of_ne same, Function.update_of_ne same]
      exact tient.debut autre inside
  · intro autre inside
    change Function.update chainage.indexSuivant interco (chainage.indexDebut (noeud interco)) autre =
      Chains.cell (Function.update (Chains.build noeud interco).next interco ((Chains.build noeud interco).first (noeud interco)) autre)
    by_cases same : autre = interco
    · rw [same, Function.update_self, Function.update_self]
      exact tient.debut _ noeud_lt
    · rw [Function.update_of_ne same, Function.update_of_ne same]
      exact tient.suivant autre (by omega)

def intercosDuNoeud (noeud : Nat → Nat) (intercos autre : Nat) : Finset Nat :=
  (Finset.range intercos).filter fun interco => noeud interco = autre

/-- What the chains are for: from the first cell of every area a loop goes once through each of its
links, and through no other one.
-/
structure Chainage.VisiteChacun (chainage : Chainage) (noeud : Nat → Nat) (pays intercos : Nat) : Prop where
  /-- The chains cannot come back to a link. -/
  acyclique : ∀ interco < intercos, -1 ≤ chainage.indexSuivant interco ∧ chainage.indexSuivant interco < interco
  /-- The links visited, in order. -/
  visite : ∀ autre < pays, ∃ items : List Nat, items.Nodup ∧
    (∀ interco, interco ∈ items ↔ interco < intercos ∧ noeud interco = autre) ∧
    ∀ (σ : Type) (corps : Nat → σ → σ) (avant apres : σ),
      chainage.Parcours corps autre avant apres ↔ apres = items.foldl (fun etat interco => corps interco etat) avant
  /-- A loop that adds up values of the links adds up those of the area. -/
  somme : ∀ autre < pays, ∀ (R : Type) [AddCommMonoid R] (valeur : Nat → R) (avant apres : R),
    chainage.Parcours (fun interco somme => somme + valeur interco) autre avant apres ↔
      apres = avant + ∑ interco ∈ intercosDuNoeud noeud intercos autre, valeur interco

theorem foldl_add_eq_sum {R : Type} [AddCommMonoid R] (valeur : Nat → R) (items : List Nat) (avant : R) :
    items.foldl (fun somme interco => somme + valeur interco) avant = avant + (items.map valeur).sum := by
  induction items generalizing avant with
  | nil => simp
  | cons interco items ih => simp only [List.foldl_cons, ih, List.map_cons, List.sum_cons, add_assoc]

theorem Chainage.Tient.visiteChacun {intercos : Nat} (tient : chainage.Tient noeud pays intercos) :
    chainage.VisiteChacun noeud pays intercos := by
  have parcours {autre : Nat} (inside : autre < pays) {σ : Type} (corps : Nat → σ → σ) (avant apres : σ) :
      chainage.Parcours corps autre avant apres ↔
        apres = (Chains.itemsOf noeud intercos autre).foldl (fun etat interco => corps interco etat) avant := by
    have linked := Chains.build_linked noeud intercos autre
    have held : ∀ interco ∈ Chains.itemsOf noeud intercos autre,
        chainage.indexSuivant interco = Chains.cell ((Chains.build noeud intercos).next interco) :=
      fun interco listed => tient.suivant interco (Chains.mem_itemsOf.mp listed).1
    have run := linked.loop held corps avant
    unfold Chainage.Parcours
    rw [tient.debut autre inside]
    constructor
    · exact run.unique
    · rintro rfl
      exact run
  refine ⟨?_, ?_, ?_⟩
  · intro interco inside
    rw [tient.suivant interco inside]
    cases successor : (Chains.build noeud intercos).next interco with
    | none => exact ⟨le_rfl, lt_of_lt_of_le (by decide) (Int.natCast_nonneg interco)⟩
    | some later =>
      have earlier := Chains.lt_of_mem_next inside (Option.mem_def.mpr successor)
      change -1 ≤ (later : Int) ∧ (later : Int) < interco
      omega
  · intro autre inside
    exact ⟨Chains.itemsOf noeud intercos autre, Chains.itemsOf_nodup noeud intercos autre,
      fun interco => Chains.mem_itemsOf, fun σ => parcours inside⟩
  · intro autre inside R _ valeur avant apres
    rw [parcours inside, foldl_add_eq_sum, Chains.sum_itemsOf, intercosDuNoeud, Finset.sum_filter]

end Cellules

namespace Network

variable (network : Network)

variable (chainages : Chainages)

/-- The areas are reset before any link is chained, so that the arrays may hold anything. -/
theorem tient_chainages :
    (network.chainagesDesIntercoPartantDUnNoeud chainages).origine.Tient network.paysOrigineDeLInterconnexion
        network.nombreDePays network.nombreDInterconnexions ∧
      (network.chainagesDesIntercoPartantDUnNoeud chainages).extremite.Tient network.paysExtremiteDeLInterconnexion
        network.nombreDePays network.nombreDInterconnexions := by
  have effaces (pays : Nat) : (List.range pays).foldl Chainages.effacer chainages =
      { origine := (List.range pays).foldl Chainage.effacer chainages.origine
        extremite := (List.range pays).foldl Chainage.effacer chainages.extremite } := by
    induction pays with
    | zero => rfl
    | succ pays ih =>
      simp only [List.range_succ, List.foldl_append, ih]
      rfl
  have chaines (intercos : Nat) (inside : intercos ≤ network.nombreDInterconnexions) :
      let apres := (List.range intercos).foldl
        (fun chainages interco => chainages.inserer (network.paysOrigineDeLInterconnexion interco)
          (network.paysExtremiteDeLInterconnexion interco) interco)
        ((List.range network.nombreDePays).foldl Chainages.effacer chainages)
      apres.origine.Tient network.paysOrigineDeLInterconnexion network.nombreDePays intercos ∧
        apres.extremite.Tient network.paysExtremiteDeLInterconnexion network.nombreDePays intercos := by
    induction intercos with
    | zero =>
      rw [effaces]
      exact ⟨tient_effacer, tient_effacer⟩
    | succ interco ih =>
      obtain ⟨origine, extremite⟩ := ih (Nat.le_of_succ_le inside)
      rw [List.range_succ, List.foldl_append]
      exact ⟨origine.inserer (network.origine_lt interco inside), extremite.inserer (network.extremite_lt interco inside)⟩
  exact chaines network.nombreDInterconnexions le_rfl

/-- Whatever the arrays held before, the chains of every area go once through each of the links that
start there, and once through each of those that end there.
-/
theorem chainages_visitentChacun :
    (network.chainagesDesIntercoPartantDUnNoeud chainages).origine.VisiteChacun network.paysOrigineDeLInterconnexion
        network.nombreDePays network.nombreDInterconnexions ∧
      (network.chainagesDesIntercoPartantDUnNoeud chainages).extremite.VisiteChacun network.paysExtremiteDeLInterconnexion
        network.nombreDePays network.nombreDInterconnexions :=
  ⟨(network.tient_chainages chainages).1.visiteChacun, (network.tient_chainages chainages).2.visiteChacun⟩

end Network

end Antares.Optimisation
