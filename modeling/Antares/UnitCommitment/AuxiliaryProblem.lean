import Antares.AdequacyPatch.BareWeeks
import Antares.Library.LinearRows
import Antares.UnitCommitment.StartUpRows

/-! The linear problem of one thermal cluster that
`OPT_PbLineairePourAjusterLeNombreMinDeGroupesDemarresCoutsDeDemarrage` writes between the two
optimisations of a week, compared with the rows and bounds of the same cluster in the weekly problem.
-/

set_option autoImplicit false

namespace Antares.Optimisation

open Library AdequacyPatch

/-- What the auxiliary problem is built from: the bounds on the number of units on, by hour, and
the minimum durations of the cluster. -/
structure GroupesDemarres where
  nombreDePasDeTemps : Nat
  nbMinOptDeGroupesEnMarche : Nat → Int
  nombreMaxDeGroupesEnMarche : Nat → Int
  dureeMinimaleDeMarche : Nat
  dureeMinimaleDArret : Nat

inductive TypeDeVariable where
  | variableBorneeDesDeuxCotes
  | variableBorneeInferieurement
  deriving DecidableEq

structure Colonne where
  coutLineaire : Rat
  bornes : Bounds Rat
  typeDeVariable : TypeDeVariable

namespace GroupesDemarres

variable (groupes : GroupesDemarres)

variable (pdt : Nat)

def numeroDeVariableDeM : Nat := 4 * pdt

def numeroDeVariableDeMMoinsMoins : Nat := 4 * pdt + 1

def numeroDeVariableDeMPlus : Nat := 4 * pdt + 2

def numeroDeVariableDeMMoins : Nat := 4 * pdt + 3

def heure (k : Int) : Nat := (if k < 0 then groupes.nombreDePasDeTemps + k else k).toNat

def dernieresHeures (pdt duree : Nat) : List Nat :=
  (List.range duree).map fun rang : Nat => groupes.heure ((pdt : Int) - duree + 1 + rang)

/-- The positive part of the change of the greatest number of units between two hours. -/
def gain (depuis jusque : Nat) : Int :=
  if 0 < groupes.nombreMaxDeGroupesEnMarche jusque - groupes.nombreMaxDeGroupesEnMarche depuis then
    groupes.nombreMaxDeGroupesEnMarche jusque - groupes.nombreMaxDeGroupesEnMarche depuis
  else 0

/-- The variables of an hour: units on, failing, starting and stopping. -/
def colonnesDuPasDeTemps : List Colonne :=
  [{ coutLineaire := 1
     bornes :=
       { lower := some (groupes.nbMinOptDeGroupesEnMarche pdt)
         upper := some (groupes.nombreMaxDeGroupesEnMarche pdt) }
     typeDeVariable := .variableBorneeDesDeuxCotes },
    { coutLineaire := 0
      bornes := { lower := some 0, upper := some (groupes.gain pdt (groupes.heure ((pdt : Int) - 1))) }
      typeDeVariable := .variableBorneeDesDeuxCotes },
    { coutLineaire := 0
      bornes := { lower := some 0, upper := none }
      typeDeVariable := .variableBorneeInferieurement },
    { coutLineaire := 0
      bornes := { lower := some 0, upper := none }
      typeDeVariable := .variableBorneeInferieurement }]

def colonnes : List Colonne := (List.range groupes.nombreDePasDeTemps).flatMap groupes.colonnesDuPasDeTemps

def secondMembreDArret : Int :=
  groupes.nombreMaxDeGroupesEnMarche (groupes.heure ((pdt : Int) - groupes.dureeMinimaleDArret)) +
    ((groupes.dernieresHeures pdt groupes.dureeMinimaleDArret).map fun t1 : Nat =>
      groupes.gain (groupes.heure ((t1 : Int) - 1)) t1).sum

def lignesDuPasDeTemps : List (Row Nat Rat) :=
  [{ terms :=
       [(numeroDeVariableDeM pdt, 1), (numeroDeVariableDeM (groupes.heure ((pdt : Int) - 1)), -1),
         (numeroDeVariableDeMPlus pdt, -1), (numeroDeVariableDeMMoins pdt, 1)]
     sense := .eq
     rhs := 0 },
    { terms := [(numeroDeVariableDeMMoinsMoins pdt, 1), (numeroDeVariableDeMMoins pdt, -1)]
      sense := .le
      rhs := 0 },
    { terms :=
        (numeroDeVariableDeM pdt, 1) ::
          (groupes.dernieresHeures pdt groupes.dureeMinimaleDeMarche).flatMap fun tmp =>
            [(numeroDeVariableDeMPlus tmp, -1), (numeroDeVariableDeMMoinsMoins tmp, 1)]
      sense := .ge
      rhs := 0 },
    { terms :=
        (numeroDeVariableDeM pdt, 1) ::
          (groupes.dernieresHeures pdt groupes.dureeMinimaleDArret).map fun tmp =>
            (numeroDeVariableDeMMoins tmp, 1)
      sense := .le
      rhs := groupes.secondMembreDArret pdt }]

def lignes : List (Row Nat Rat) := (List.range groupes.nombreDePasDeTemps).flatMap groupes.lignesDuPasDeTemps

/-- The arrays once all rows are written. The tests in front of their construction never lead to
the early return: `ResoudreLeProblemeLineaire` is true from the start. -/
def matrice : SparseRows Nat Rat := SparseRows.empty.pushAll groupes.lignes

def nombreDeVariables : Nat := 4 * groupes.nombreDePasDeTemps

def nombreDeContraintes : Nat := 5 * groupes.nombreDePasDeTemps

def nbTermesMatrice : Nat :=
  4 * groupes.nombreDePasDeTemps + 2 * groupes.nombreDePasDeTemps + 1 * groupes.nombreDePasDeTemps +
    groupes.nombreDePasDeTemps * (1 + 2 * groupes.dureeMinimaleDeMarche) +
    groupes.nombreDePasDeTemps * (1 + groupes.dureeMinimaleDArret)

structure Alloue : Prop where
  nombreDeVariables : groupes.colonnes.length ≤ groupes.nombreDeVariables
  indicesColonnes : ∀ row ∈ groupes.matrice.read, ∀ terme ∈ row.terms, terme.1 < groupes.nombreDeVariables
  contraintes : groupes.matrice.headers.length ≤ groupes.nombreDeContraintes
  termes : groupes.matrice.terms.length ≤ groupes.nbTermesMatrice

structure Faisable (x : Nat → Rat) : Prop where
  bornes : ∀ (numero : Nat) (colonne : Colonne), groupes.colonnes[numero]? = some colonne → colonne.bornes.Contains (x numero)
  lignes : ∀ row ∈ groupes.matrice.read, row.Holds x

variable {groupes}

theorem matrice_read : groupes.matrice.read = groupes.lignes := SparseRows.read_pushAll _

@[simp] theorem length_dernieresHeures (pdt duree : Nat) : (groupes.dernieresHeures pdt duree).length = duree := by
  simp [dernieresHeures]

theorem colonnes_getElem? {pdt : Nat} (inRange : pdt < groupes.nombreDePasDeTemps) {rang : Nat} (kind : rang < 4) :
    groupes.colonnes[4 * pdt + rang]? = (groupes.colonnesDuPasDeTemps pdt)[rang]? := by
  have uniform (pdt : Nat) : (groupes.colonnesDuPasDeTemps pdt).length = 4 := rfl
  exact getElem?_flatMap_range uniform inRange kind

theorem length_colonnes : groupes.colonnes.length = groupes.nombreDeVariables := by
  simp [colonnes, colonnesDuPasDeTemps, List.length_flatMap, nombreDeVariables, Nat.mul_comm]

theorem faisable_iff {x : Nat → Rat} :
    groupes.Faisable x ↔
      ∀ pdt < groupes.nombreDePasDeTemps,
        (∀ (rang : Nat) (colonne : Colonne), (groupes.colonnesDuPasDeTemps pdt)[rang]? = some colonne →
          colonne.bornes.Contains (x (4 * pdt + rang))) ∧
        ∀ row ∈ groupes.lignesDuPasDeTemps pdt, row.Holds x := by
  constructor
  · rintro ⟨bornes, rows⟩ pdt inRange
    refine ⟨fun rang colonne found => bornes _ _ ?_, fun row listed => rows row ?_⟩
    · rw [colonnes_getElem? inRange (List.getElem?_eq_some_iff.mp found).1]
      exact found
    · rw [matrice_read]
      exact List.mem_flatMap.mpr ⟨pdt, List.mem_range.mpr inRange, listed⟩
  · intro hours
    refine ⟨?_, ?_⟩
    · intro numero colonne found
      have inside := (List.getElem?_eq_some_iff.mp found).1
      rw [length_colonnes, nombreDeVariables] at inside
      have inRange : numero / 4 < groupes.nombreDePasDeTemps := by omega
      have place : 4 * (numero / 4) + numero % 4 = numero := Nat.div_add_mod numero 4
      have contained := (hours (numero / 4) inRange).1 (numero % 4) colonne
      rw [← colonnes_getElem? inRange (Nat.mod_lt _ (by decide)), place] at contained
      exact contained found
    · rw [matrice_read]
      intro row listed
      obtain ⟨pdt, inRange, hourly⟩ := List.mem_flatMap.mp listed
      exact (hours pdt (List.mem_range.mp inRange)).2 row hourly

theorem heure_lt {k : Int} (after : -(groupes.nombreDePasDeTemps : Int) ≤ k) (before : k < groupes.nombreDePasDeTemps) :
    groupes.heure k < groupes.nombreDePasDeTemps := by
  unfold heure
  split_ifs <;> omega

theorem dernieresHeures_lt {pdt duree : Nat} (inRange : pdt < groupes.nombreDePasDeTemps)
    (short : duree ≤ groupes.nombreDePasDeTemps) :
    ∀ t1 ∈ groupes.dernieresHeures pdt duree, t1 < groupes.nombreDePasDeTemps := by
  intro t1 listed
  obtain ⟨rang, inDuree, rfl⟩ := List.mem_map.mp listed
  rw [List.mem_range] at inDuree
  exact heure_lt (by omega) (by omega)

theorem alloue (marche : groupes.dureeMinimaleDeMarche ≤ groupes.nombreDePasDeTemps)
    (arret : groupes.dureeMinimaleDArret ≤ groupes.nombreDePasDeTemps) : groupes.Alloue where
  nombreDeVariables := length_colonnes.le
  indicesColonnes := by
    rw [matrice_read]
    intro row listed terme present
    obtain ⟨pdt, hour, hourly⟩ := List.mem_flatMap.mp listed
    have inRange := List.mem_range.mp hour
    have lastUp := dernieresHeures_lt inRange marche
    have lastDown := dernieresHeures_lt inRange arret
    have before : groupes.heure ((pdt : Int) - 1) < groupes.nombreDePasDeTemps :=
      heure_lt (by omega) (by omega)
    unfold nombreDeVariables
    simp only [lignesDuPasDeTemps, List.mem_cons, List.not_mem_nil, or_false] at hourly
    -- each row of the hour names variables of hours within the horizon
    rcases hourly with rfl | rfl | rfl | rfl
    · simp only [List.mem_cons, List.not_mem_nil, or_false] at present
      rcases present with rfl | rfl | rfl | rfl <;>
        simp only [numeroDeVariableDeM, numeroDeVariableDeMPlus, numeroDeVariableDeMMoins] <;> omega
    · simp only [List.mem_cons, List.not_mem_nil, or_false] at present
      rcases present with rfl | rfl <;> simp only [numeroDeVariableDeMMoinsMoins, numeroDeVariableDeMMoins] <;> omega
    · simp only [List.mem_cons, List.mem_flatMap, List.not_mem_nil, or_false] at present
      rcases present with rfl | ⟨tmp, late, rfl | rfl⟩
      · simp only [numeroDeVariableDeM]
        omega
      · have := lastUp tmp late
        simp only [numeroDeVariableDeMPlus]
        omega
      · have := lastUp tmp late
        simp only [numeroDeVariableDeMMoinsMoins]
        omega
    · simp only [List.mem_cons, List.mem_map] at present
      rcases present with rfl | ⟨tmp, late, rfl⟩
      · simp only [numeroDeVariableDeM]
        omega
      · have := lastDown tmp late
        simp only [numeroDeVariableDeMMoins]
        omega
  contraintes := by
    rw [matrice, SparseRows.pushAll_headers_length]
    simp [SparseRows.empty, lignes, lignesDuPasDeTemps, List.length_flatMap, nombreDeContraintes]
    omega
  termes := by
    have hourly (pdt : Nat) : ((groupes.lignesDuPasDeTemps pdt).flatMap (·.terms)).length =
        8 + 2 * groupes.dureeMinimaleDeMarche + groupes.dureeMinimaleDArret := by
      simp [lignesDuPasDeTemps, List.length_flatMap]
      omega
    rw [matrice, SparseRows.pushAll_terms, lignes, List.flatMap_assoc]
    simp only [SparseRows.empty, List.nil_append, List.length_flatMap, hourly, List.map_const', List.length_range,
      List.sum_replicate_nat, nbTermesMatrice]
    ring_nf
    omega

end GroupesDemarres

/-- The number in the auxiliary problem of a variable of the cluster. -/
def Variable.numeroAuxiliaire : Variable → Nat
  | .numberOfDispatchableUnits pdt _ => GroupesDemarres.numeroDeVariableDeM pdt.toNat
  | .numberBreakingDownDispatchableUnits pdt _ => GroupesDemarres.numeroDeVariableDeMMoinsMoins pdt.toNat
  | .numberStartingDispatchableUnits pdt _ => GroupesDemarres.numeroDeVariableDeMPlus pdt.toNat
  | .numberStoppingDispatchableUnits pdt _ => GroupesDemarres.numeroDeVariableDeMMoins pdt.toNat
  | _ => 0

/-- The values of the variables of a cluster, as the auxiliary problem numbers them. -/
def valeursAuxiliaires (palier : Nat) (point : Variable → Rat) (numero : Nat) : Rat :=
  match numero % 4 with
  | 0 => point (.numberOfDispatchableUnits (numero / 4 : Nat) palier)
  | 1 => point (.numberBreakingDownDispatchableUnits (numero / 4 : Nat) palier)
  | 2 => point (.numberStartingDispatchableUnits (numero / 4 : Nat) palier)
  | _ => point (.numberStoppingDispatchableUnits (numero / 4 : Nat) palier)

section Valeurs
variable (palier : Nat) (point : Variable → Rat) (pdt : Nat)

theorem valeursAuxiliaires_M :
    valeursAuxiliaires palier point (4 * pdt) = point (.numberOfDispatchableUnits pdt palier) := by
  unfold valeursAuxiliaires
  rw [show 4 * pdt % 4 = 0 by omega, show 4 * pdt / 4 = pdt by omega]
  rfl

theorem valeursAuxiliaires_MMoinsMoins :
    valeursAuxiliaires palier point (4 * pdt + 1) = point (.numberBreakingDownDispatchableUnits pdt palier) := by
  unfold valeursAuxiliaires
  rw [show (4 * pdt + 1) % 4 = 1 by omega, show (4 * pdt + 1) / 4 = pdt by omega]
  rfl

theorem valeursAuxiliaires_MPlus :
    valeursAuxiliaires palier point (4 * pdt + 2) = point (.numberStartingDispatchableUnits pdt palier) := by
  unfold valeursAuxiliaires
  rw [show (4 * pdt + 2) % 4 = 2 by omega, show (4 * pdt + 2) / 4 = pdt by omega]
  rfl

theorem valeursAuxiliaires_MMoins :
    valeursAuxiliaires palier point (4 * pdt + 3) = point (.numberStoppingDispatchableUnits pdt palier) := by
  unfold valeursAuxiliaires
  rw [show (4 * pdt + 3) % 4 = 3 by omega, show (4 * pdt + 3) / 4 = pdt by omega]
  rfl

end Valeurs

theorem valeursAuxiliaires_surjective (palier : Nat) : Function.Surjective (valeursAuxiliaires palier) := by
  intro x
  refine ⟨fun variable_ => x variable_.numeroAuxiliaire, ?_⟩
  funext numero
  have place := Nat.div_add_mod numero 4
  have small := Nat.mod_lt numero (show 0 < 4 by decide)
  unfold valeursAuxiliaires
  generalize numero % 4 = kind at *
  match kind, small with
  | 0, _ | 1, _ | 2, _ | 3, _ => exact congrArg x place

def variablesDuGroupe (palier pdt : Nat) : List Variable :=
  [.numberOfDispatchableUnits pdt palier, .numberBreakingDownDispatchableUnits pdt palier,
    .numberStartingDispatchableUnits pdt palier, .numberStoppingDispatchableUnits pdt palier]

theorem valeursAuxiliaires_numero {palier pdt : Nat} (point : Variable → Rat) {variable_ : Variable}
    (ofGroup : variable_ ∈ variablesDuGroupe palier pdt) :
    valeursAuxiliaires palier point variable_.numeroAuxiliaire = point variable_ := by
  simp only [variablesDuGroupe, List.mem_cons, List.not_mem_nil, or_false] at ofGroup
  rcases ofGroup with rfl | rfl | rfl | rfl
  · exact valeursAuxiliaires_M palier point pdt
  · exact valeursAuxiliaires_MMoinsMoins palier point pdt
  · exact valeursAuxiliaires_MPlus palier point pdt
  · exact valeursAuxiliaires_MMoins palier point pdt

theorem valeursAuxiliaires_getElem? {palier pdt rang : Nat} (point : Variable → Rat) {variable_ : Variable}
    (found : (variablesDuGroupe palier pdt)[rang]? = some variable_) :
    valeursAuxiliaires palier point (4 * pdt + rang) = point variable_ := by
  match rang, found with
  | 0, rfl => exact valeursAuxiliaires_M palier point pdt
  | 1, rfl => exact valeursAuxiliaires_MMoinsMoins palier point pdt
  | 2, rfl => exact valeursAuxiliaires_MPlus palier point pdt
  | 3, rfl => exact valeursAuxiliaires_MMoins palier point pdt

namespace WeeklyProblem

variable {problem : WeeklyProblem}

theorem lignesDuGroupe_variables {groupe : GroupeThermique} {palier pdt : Nat} :
    ∀ ligne ∈ problem.lignesDuGroupe groupe palier pdt, ∀ terme ∈ ligne.termes,
      terme.1.famille = .demarrages ∧ terme.1.indice = palier := by
  intro ligne emitted terme present
  simp only [lignesDuGroupe, List.mem_cons, List.not_mem_nil, or_false] at emitted
  rcases emitted with rfl | rfl | rfl | rfl
  · simp only [ligneDeCoherence, List.mem_cons, List.not_mem_nil, or_false] at present
    rcases present with rfl | rfl | rfl | rfl <;> exact ⟨rfl, rfl⟩
  · simp only [ligneDePanne, List.mem_cons, List.not_mem_nil, or_false] at present
    rcases present with rfl | rfl <;> exact ⟨rfl, rfl⟩
  · simp only [ligneDeMarche, List.mem_cons, List.mem_flatMap, List.not_mem_nil, or_false] at present
    rcases present with rfl | ⟨t1, -, rfl | rfl⟩ <;> exact ⟨rfl, rfl⟩
  · simp only [ligneDArret, List.mem_cons, List.mem_map] at present
    rcases present with rfl | ⟨t1, -, rfl⟩ <;> exact ⟨rfl, rfl⟩

theorem DemarragesComptes.mem_variables_iff (comptes : problem.DemarragesComptes) {pays : Nat}
    (bound : pays < problem.network.nombreDePays) {couple : GroupeThermique × Nat}
    (member : couple ∈ problem.groupesDuPays pays) {variable_ : Variable} :
    (variable_ ∈ problem.listeDesVariables ∧ variable_.famille = .demarrages ∧ variable_.indice = couple.2) ↔
      ∃ pdt < problem.pas, variable_ ∈ variablesDuGroupe couple.2 pdt := by
  simp only [variablesDuGroupe, List.mem_cons, List.not_mem_nil, or_false]
  constructor
  · rintro ⟨listed, starts, ofGroup⟩
    cases variable_ with
    | numberOfDispatchableUnits pdt autre =>
      obtain ⟨hour, inRange, rfl⟩ := problem.hour_of_mem listed rfl
      obtain rfl : autre = couple.2 := ofGroup
      exact ⟨hour, inRange, .inl rfl⟩
    | numberBreakingDownDispatchableUnits pdt autre =>
      obtain ⟨hour, inRange, rfl⟩ := problem.hour_of_mem listed rfl
      obtain rfl : autre = couple.2 := ofGroup
      exact ⟨hour, inRange, .inr (.inl rfl)⟩
    | numberStartingDispatchableUnits pdt autre =>
      obtain ⟨hour, inRange, rfl⟩ := problem.hour_of_mem listed rfl
      obtain rfl : autre = couple.2 := ofGroup
      exact ⟨hour, inRange, .inr (.inr (.inl rfl))⟩
    | numberStoppingDispatchableUnits pdt autre =>
      obtain ⟨hour, inRange, rfl⟩ := problem.hour_of_mem listed rfl
      obtain rfl : autre = couple.2 := ofGroup
      exact ⟨hour, inRange, .inr (.inr (.inr rfl))⟩
    | _ => cases starts
  · rintro ⟨pdt, inRange, kind⟩
    obtain ⟨units, starting, stopping, failing⟩ := comptes.listed bound member pdt ⟨pdt, inRange, rfl⟩
    rcases kind with rfl | rfl | rfl | rfl
    · exact ⟨units, rfl, rfl⟩
    · exact ⟨failing, rfl, rfl⟩
    · exact ⟨starting, rfl, rfl⟩
    · exact ⟨stopping, rfl, rfl⟩

end WeeklyProblem

end Antares.Optimisation

namespace Antares.AdequacyPatch

open Optimisation Library

/-- What `OPT_AjusterLeNombreMinDeGroupesDemarresCoutsDeDemarrage` gives to the auxiliary problem
of a cluster. -/
def Passage.groupesDemarres (passage : Passage) (groupe : GroupeThermique) (palier : Nat) : GroupesDemarres where
  nombreDePasDeTemps := nbHoursInWeek
  nbMinOptDeGroupesEnMarche := (passage.paliers palier).nombreMinDeGroupesEnMarche
  nombreMaxDeGroupesEnMarche := (passage.paliers palier).nombreMaxDeGroupesEnMarche
  dureeMinimaleDeMarche := groupe.dureeMinimaleDeMarche
  dureeMinimaleDArret := groupe.dureeMinimaleDArret

namespace Week

variable {settings : WeekSettings} (week : Week settings) (passage : Passage)

/-- The values of the variables of a cluster that fit its bounds and the rows that tie its numbers
of units, in the problem of the first interval of the week. -/
structure GroupeFaisable (palier : Nat) (point : Variable → Rat) : Prop where
  bornes : ∀ column ∈ (week.problemeDeLIntervalle passage 0).columns, column.famille = .demarrages →
    column.indice = palier → ((week.problemeDeLIntervalle passage 0).bounds column).Contains (point column)
  lignes : ∀ row ∈ (week.problemeDeLIntervalle passage 0).rows, row.label.palierDesGroupes = some palier →
    row.sense.Holds (row.terms.value point) ((week.problemeDeLIntervalle passage 0).rhs row.label)

variable {week passage}
variable {pays : Nat} {couple : GroupeThermique × Nat} {point : Variable → Rat}

theorem lignes_iff (comptes : week.problem.DemarragesComptes)
    (bound : pays < week.problem.network.nombreDePays) (member : couple ∈ week.problem.groupesDuPays pays) :
    (∀ row ∈ (week.problemeDeLIntervalle passage 0).rows, row.label.palierDesGroupes = some couple.2 →
        row.sense.Holds (row.terms.value point) ((week.problemeDeLIntervalle passage 0).rhs row.label)) ↔
      ∀ pdt < week.problem.pas, ∀ ligne ∈ week.problem.lignesDuGroupe couple.1 couple.2 pdt,
        ligne.sens.Holds (ligne.termes.value point) (week.secondMembre passage 0 ligne.contrainte) := by
  have start : 0 * week.problem.pas = 0 := Nat.zero_mul _
  simp only [problemeDeLIntervalle, start, List.forall_mem_map]
  constructor
  · intro rows pdt inRange ligne emitted
    obtain ⟨inMatrix, ofGroup⟩ := (comptes.mem_matrice_iff bound member).mpr ⟨pdt, inRange, emitted⟩
    exact rows ligne inMatrix ofGroup
  · intro hours ligne inMatrix ofGroup
    obtain ⟨pdt, inRange, emitted⟩ := (comptes.mem_matrice_iff bound member).mp ⟨inMatrix, ofGroup⟩
    exact hours pdt inRange ligne emitted

theorem groupeFaisable_iff (comptes : week.problem.DemarragesComptes)
    (bound : pays < week.problem.network.nombreDePays) (member : couple ∈ week.problem.groupesDuPays pays) :
    week.GroupeFaisable passage couple.2 point ↔
      ∀ pdt < week.problem.pas,
        (∀ variable_ ∈ variablesDuGroupe couple.2 pdt,
          (week.bornes passage 0 variable_).Contains (point variable_)) ∧
        ∀ ligne ∈ week.problem.lignesDuGroupe couple.1 couple.2 pdt,
          ligne.sens.Holds (ligne.termes.value point) (week.secondMembre passage 0 ligne.contrainte) := by
  have start : 0 * week.problem.pas = 0 := Nat.zero_mul _
  constructor
  · rintro ⟨bornes, lignes⟩ pdt inRange
    refine ⟨fun variable_ listed => ?_, (lignes_iff comptes bound member).mp lignes pdt inRange⟩
    obtain ⟨column, starts, ofGroup⟩ := (comptes.mem_variables_iff bound member).mpr ⟨pdt, inRange, listed⟩
    have within := bornes variable_ column starts ofGroup
    simp only [problemeDeLIntervalle, start] at within
    exact within
  · intro hours
    refine ⟨fun column listed starts ofGroup => ?_, (lignes_iff comptes bound member).mpr fun pdt inRange =>
      (hours pdt inRange).2⟩
    obtain ⟨pdt, inRange, inGroup⟩ := (comptes.mem_variables_iff bound member).mp ⟨listed, starts, ofGroup⟩
    simp only [problemeDeLIntervalle, start]
    exact (hours pdt inRange).1 column inGroup

/-- The clusters have numbers of their own, so that the minimum down time is the one of the cluster. -/
theorem dureeMinimaleDArret_eq (bound : pays < week.problem.network.nombreDePays)
    (member : couple ∈ week.problem.groupesDuPays pays) :
    week.dureeMinimaleDArret couple.2 = couple.1.dureeMinimaleDArret := by
  unfold dureeMinimaleDArret
  dsimp only
  cases found : ((List.range week.problem.network.nombreDePays).flatMap week.problem.groupesDuPays).find?
      fun autre => autre.2 = couple.2 with
  | none =>
    have absent := List.find?_eq_none.mp found couple
      (List.mem_flatMap.mpr ⟨pays, List.mem_range.mpr bound, member⟩)
    simp at absent
  | some autre =>
    have number : autre.2 = couple.2 := by simpa using List.find?_some found
    obtain ⟨autrePays, -, autreMember⟩ := List.mem_flatMap.mp (List.mem_of_find?_eq_some found)
    obtain ⟨index, inside, place⟩ := week.problem.mem_groupesDuPays.mp member
    obtain ⟨autreIndex, autreInside, autrePlace⟩ := week.problem.mem_groupesDuPays.mp autreMember
    rw [place, autrePlace] at number
    obtain ⟨rfl, rfl⟩ := week.problem.numeroDuPalier_unique (List.getElem?_eq_some_iff.mp autreInside).1
      (List.getElem?_eq_some_iff.mp inside).1 number
    have same : autre.1 = couple.1 := Option.some.inj (autreInside.symm.trans inside)
    simp only [same]

section Semaine
variable (hours : week.problem.range = .sorWeek)
include hours

theorem pas_eq : week.problem.pas = nbHoursInWeek := by
  rw [WeeklyProblem.pas, hours]
  rfl

theorem heurePrecedente_toNat (pdt : Nat) :
    (week.problem.heurePrecedente pdt).toNat =
      (passage.groupesDemarres couple.1 couple.2).heure ((pdt : Int) - 1) := by
  rw [WeeklyProblem.heurePrecedente, pas_eq hours]
  rfl

theorem dernieresHeures_toNat (pdt duree : Nat) :
    (passage.groupesDemarres couple.1 couple.2).dernieresHeures pdt duree =
      (week.problem.dernieresHeures pdt duree).map Int.toNat := by
  rw [WeeklyProblem.dernieresHeures, pas_eq hours, List.map_map]
  rfl

theorem secondMembreDArret_eq (bound : pays < week.problem.network.nombreDePays)
    (member : couple ∈ week.problem.groupesDuPays pays) {pdt : Nat} (inRange : pdt < nbHoursInWeek)
    (short : couple.1.dureeMinimaleDArret ≤ nbHoursInWeek) :
    ((passage.groupesDemarres couple.1 couple.2).secondMembreDArret pdt : Rat) =
      week.secondMembreDeLaDureeMinDArret passage couple.2 pdt := by
  have cyclic (k : Int) : week.heureCyclique k = (passage.groupesDemarres couple.1 couple.2).heure k := by
    rw [heureCyclique, pas_eq hours]
    rfl
  have gains : (((passage.groupesDemarres couple.1 couple.2).dernieresHeures pdt
      couple.1.dureeMinimaleDArret).map fun t1 : Nat =>
        (passage.groupesDemarres couple.1 couple.2).gain
          ((passage.groupesDemarres couple.1 couple.2).heure ((t1 : Int) - 1)) t1) =
      (week.problem.dernieresHeures pdt couple.1.dureeMinimaleDArret).map fun t1 =>
        let gain := (passage.paliers couple.2).nombreMaxDeGroupesEnMarche t1.toNat -
          (passage.paliers couple.2).nombreMaxDeGroupesEnMarche (week.heureCyclique (t1 - 1))
        if 0 < gain then gain else 0 := by
    rw [dernieresHeures_toNat hours, List.map_map]
    refine List.map_congr_left fun t1 late => ?_
    obtain ⟨hour, -, rfl⟩ := week.problem.exists_heure_of_mem_dernieresHeures
      (by rwa [pas_eq hours]) (by rwa [pas_eq hours]) late
    rw [cyclic]
    rfl
  rw [secondMembreDeLaDureeMinDArret, dureeMinimaleDArret_eq bound member, cyclic]
  dsimp only
  rw [← gains]
  exact Int.cast_add _ _

theorem lignesDuPasDeTemps_eq (bound : pays < week.problem.network.nombreDePays)
    (member : couple ∈ week.problem.groupesDuPays pays) {pdt : Nat} (inRange : pdt < nbHoursInWeek)
    (short : couple.1.dureeMinimaleDArret ≤ nbHoursInWeek) :
    (passage.groupesDemarres couple.1 couple.2).lignesDuPasDeTemps pdt =
      (week.problem.lignesDuGroupe couple.1 couple.2 pdt).map fun ligne =>
        { terms := ligne.termes.map fun terme => (terme.1.numeroAuxiliaire, terme.2)
          sense := ligne.sens
          rhs := week.secondMembre passage 0 ligne.contrainte } := by
  have rhs : ((passage.groupesDemarres couple.1 couple.2).secondMembreDArret pdt : Rat) =
      week.secondMembreDeLaDureeMinDArret passage couple.2 pdt :=
    secondMembreDArret_eq hours bound member inRange short
  have previous : (week.problem.heurePrecedente pdt).toNat =
      (passage.groupesDemarres couple.1 couple.2).heure ((pdt : Int) - 1) := heurePrecedente_toNat hours pdt
  have last (duree : Nat) : (passage.groupesDemarres couple.1 couple.2).dernieresHeures pdt duree =
      (week.problem.dernieresHeures pdt duree).map Int.toNat := dernieresHeures_toNat hours pdt duree
  unfold GroupesDemarres.lignesDuPasDeTemps WeeklyProblem.lignesDuGroupe
  rw [← previous, last, last, rhs]
  simp only [List.map_cons, List.map_nil, List.cons.injEq, Row.mk.injEq, and_true, true_and,
    WeeklyProblem.ligneDeCoherence, WeeklyProblem.ligneDePanne, WeeklyProblem.ligneDeMarche,
    WeeklyProblem.ligneDArret, List.map_flatMap, List.flatMap_map, List.map_map]
  have arret : week.secondMembre passage 0 (.minDownTime pdt couple.2) =
      week.secondMembreDeLaDureeMinDArret passage couple.2 pdt := by
    rw [secondMembre, Nat.zero_add]
  exact ⟨⟨⟨rfl, rfl, rfl, rfl⟩, rfl⟩, ⟨⟨rfl, rfl⟩, rfl⟩, ⟨⟨rfl, rfl⟩, rfl⟩, ⟨rfl, rfl⟩, arret.symm⟩

theorem colonnesDuPasDeTemps_eq (pdt : Nat) :
    ((passage.groupesDemarres couple.1 couple.2).colonnesDuPasDeTemps pdt).map (·.bornes) =
      (variablesDuGroupe couple.2 pdt).map (week.bornes passage 0) := by
  have hour : 0 + (pdt : Int).toNat = pdt := by rw [Nat.zero_add, Int.toNat_natCast]
  have lost : (passage.groupesDemarres couple.1 couple.2).gain pdt
      ((passage.groupesDemarres couple.1 couple.2).heure ((pdt : Int) - 1)) =
        week.groupesPerdus passage couple.2 pdt := by
    have before : (passage.groupesDemarres couple.1 couple.2).heure ((pdt : Int) - 1) =
        if pdt = 0 then week.problem.pas - 1 else pdt - 1 := by
      rw [pas_eq hours]
      have steps : (passage.groupesDemarres couple.1 couple.2).nombreDePasDeTemps = 168 := rfl
      unfold GroupesDemarres.heure nbHoursInWeek
      rw [steps]
      split_ifs <;> omega
    rw [before]
    rfl
  simp only [GroupesDemarres.colonnesDuPasDeTemps, variablesDuGroupe, List.map_cons, List.map_nil,
    bornes, hour, lost]
  rfl

theorem groupeFaisable_iff_faisable (comptes : week.problem.DemarragesComptes)
    (bound : pays < week.problem.network.nombreDePays) (member : couple ∈ week.problem.groupesDuPays pays) :
    week.GroupeFaisable passage couple.2 point ↔
      (passage.groupesDemarres couple.1 couple.2).Faisable (valeursAuxiliaires couple.2 point) := by
  have short : couple.1.dureeMinimaleDArret ≤ nbHoursInWeek := by
    have := comptes.arret_le pays _ (WeeklyProblem.DemarragesComptes.groupe_mem member)
    rwa [pas_eq hours] at this
  rw [groupeFaisable_iff comptes bound member, GroupesDemarres.faisable_iff, pas_eq hours]
  refine forall₂_congr fun pdt inRange => and_congr ?_ ?_
  · have bornes : ((passage.groupesDemarres couple.1 couple.2).colonnesDuPasDeTemps pdt).map (·.bornes) =
        (variablesDuGroupe couple.2 pdt).map (week.bornes passage 0) := colonnesDuPasDeTemps_eq hours pdt
    constructor
    · intro within rang colonne found
      have same : ((variablesDuGroupe couple.2 pdt).map (week.bornes passage 0))[rang]? = some colonne.bornes := by
        rw [← bornes, List.getElem?_map, found]
        rfl
      rw [List.getElem?_map] at same
      obtain ⟨variable_, place, equal⟩ := Option.map_eq_some_iff.mp same
      rw [valeursAuxiliaires_getElem? point place, ← equal]
      exact within variable_ (List.mem_of_getElem? place)
    · intro within variable_ listed
      obtain ⟨rang, place⟩ := List.mem_iff_getElem?.mp listed
      have same : (((passage.groupesDemarres couple.1 couple.2).colonnesDuPasDeTemps pdt).map (·.bornes))[rang]? =
          some (week.bornes passage 0 variable_) := by
        rw [bornes, List.getElem?_map, place]
        rfl
      rw [List.getElem?_map] at same
      obtain ⟨colonne, found, equal⟩ := Option.map_eq_some_iff.mp same
      rw [← equal, ← valeursAuxiliaires_getElem? point place]
      exact within rang colonne found
  · rw [lignesDuPasDeTemps_eq hours bound member inRange short, List.forall_mem_map]
    refine forall₂_congr fun ligne emitted => ?_
    have value : Terms.value (ligne.termes.map fun terme => (terme.1.numeroAuxiliaire, terme.2))
        (valeursAuxiliaires couple.2 point) = ligne.termes.value point := by
      rw [Terms.value_map, Terms.value]
      refine congrArg List.sum (List.map_congr_left fun terme present => ?_)
      obtain ⟨starts, ofGroup⟩ := WeeklyProblem.lignesDuGroupe_variables ligne emitted terme present
      have listed := comptes.termes_listed bound member (by rwa [pas_eq hours]) ligne emitted terme present
      obtain ⟨hour, -, inGroup⟩ := (comptes.mem_variables_iff bound member).mp ⟨listed, starts, ofGroup⟩
      exact congrArg (terme.2 * ·) (valeursAuxiliaires_numero point inGroup)
    rw [Row.Holds, value]

end Semaine

/-- Loading keeps the minimum durations between one hour and one week. -/
def DureesMinimales (problem : WeeklyProblem) : Prop :=
  ∀ pays, ∀ groupe ∈ problem.paliersThermiques pays,
    (1 ≤ groupe.dureeMinimaleDeMarche ∧ groupe.dureeMinimaleDeMarche ≤ nbHoursInWeek) ∧
      1 ≤ groupe.dureeMinimaleDArret ∧ groupe.dureeMinimaleDArret ≤ nbHoursInWeek

theorem DureesMinimales.comptes (durees : DureesMinimales week.problem) (hours : week.problem.range = .sorWeek)
    (starts : settings.ucMode.optimisationAvecCoutsDeDemarrage = true) : week.problem.DemarragesComptes where
  couts := by rw [week.ucMode_eq, starts]
  marche_pos pays groupe listed := (durees pays groupe listed).1.1
  marche_le pays groupe listed := (pas_eq hours).symm ▸ (durees pays groupe listed).1.2
  arret_pos pays groupe listed := (durees pays groupe listed).2.1
  arret_le pays groupe listed := (pas_eq hours).symm ▸ (durees pays groupe listed).2.2

/-- For every cluster, availability and minimum durations: the auxiliary problem has the points of
the rows and bounds of the cluster in the weekly problem, no more and no less, and its arrays hold
what is written. -/
theorem auxiliaryProblem_equivalent (week : Week settings) (passage : Passage)
    (hours : week.problem.range = .sorWeek) (starts : settings.ucMode.optimisationAvecCoutsDeDemarrage = true)
    (durees : DureesMinimales week.problem) {pays index : Nat} (bound : pays < week.problem.network.nombreDePays)
    {groupe : GroupeThermique} (found : (week.problem.paliersThermiques pays)[index]? = some groupe) :
    (∀ point, week.GroupeFaisable passage (week.problem.numeroDuPalier pays index) point ↔
      (passage.groupesDemarres groupe (week.problem.numeroDuPalier pays index)).Faisable
        (valeursAuxiliaires (week.problem.numeroDuPalier pays index) point)) ∧
      Function.Surjective (valeursAuxiliaires (week.problem.numeroDuPalier pays index)) ∧
      (passage.groupesDemarres groupe (week.problem.numeroDuPalier pays index)).Alloue := by
  have comptes := durees.comptes hours starts
  have member : (groupe, week.problem.numeroDuPalier pays index) ∈ week.problem.groupesDuPays pays :=
    week.problem.mem_groupesDuPays.mpr ⟨index, found, rfl⟩
  obtain ⟨marche, arret⟩ := durees pays groupe (List.mem_of_getElem? found)
  refine ⟨fun point => groupeFaisable_iff_faisable hours comptes bound member, valeursAuxiliaires_surjective _, ?_⟩
  exact GroupesDemarres.alloue marche.2 arret.2

end Week

/-- One area with one cluster, started and stopped at no cost of time. -/
def accurateSettings : WeekSettings where
  nombreDePays := 1
  ucMode := .ucHeuristicAccurate
  expansion := false
  areaMode := fun _ => .virtualArea
  reserveHoraireJMoins1 := fun _ _ => 0
  reserve_nonneg := fun _ _ => BareWeek.sansCapacite

def accurateWeek : BareWeek accurateSettings where
  network :=
    { nombreDePays := 1
      nombreDInterconnexions := 0
      paysOrigineDeLInterconnexion := fun _ => 0
      paysExtremiteDeLInterconnexion := fun _ => 0
      origine_lt := Network.sansInterco_lt
      extremite_lt := Network.sansInterco_lt }
  nombreDePays_eq := by decide
  hasUnit := fun _ => true
  charge := fun _ _ => 0
  capacite := 0
  capacite_nonneg := BareWeek.sansCapacite

def firstPassage : Passage where
  adequacyFirstStep := false
  optimizationNumber := .premiereOptimisation
  paliers := fun _ => partialUnit
  valeursHorairesDENS := fun _ _ => 0

theorem accurateWeek_durees : Week.DureesMinimales accurateWeek.week.problem := by
  intro pays groupe listed
  obtain rfl := List.mem_singleton.mp listed
  decide

theorem accurateWeek_auxiliaryProblem :
    (∀ point, accurateWeek.week.GroupeFaisable firstPassage (accurateWeek.week.problem.numeroDuPalier 0 0) point ↔
      (firstPassage.groupesDemarres partialGroup (accurateWeek.week.problem.numeroDuPalier 0 0)).Faisable
        (valeursAuxiliaires (accurateWeek.week.problem.numeroDuPalier 0 0) point)) ∧
      Function.Surjective (valeursAuxiliaires (accurateWeek.week.problem.numeroDuPalier 0 0)) ∧
      (firstPassage.groupesDemarres partialGroup (accurateWeek.week.problem.numeroDuPalier 0 0)).Alloue :=
  accurateWeek.week.auxiliaryProblem_equivalent firstPassage rfl rfl accurateWeek_durees Nat.one_pos rfl

end Antares.AdequacyPatch
