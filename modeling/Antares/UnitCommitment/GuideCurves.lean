import Antares.Library.Blocks
import Mathlib.Algebra.BigOperators.Intervals
import Mathlib.Algebra.Order.BigOperators.Group.Finset
import Mathlib.Data.Rat.Floor

/-! The minimum power of the thermal clusters of a week under their minimum up and down time: the numbers of
running units are raised to a curve that is constant on blocks of hours, for the shift of the blocks that costs least.
-/

set_option autoImplicit false

namespace Antares.UnitCommitment

open Library

structure AireMax where
  nbGrpOpt : Nat → Int
  cout : Int

section
variable (nbGrpCourbeGuide : Nat → Int)

def nbMx (hours : List Nat) : Int :=
  hours.foldl (fun greatest hour => if nbGrpCourbeGuide hour > greatest then nbGrpCourbeGuide hour else greatest) 0

def remplir (value : Int) (hours : List Nat) (aire : AireMax) : AireMax :=
  hours.foldl (fun aire hour =>
    { nbGrpOpt := Function.update aire.nbGrpOpt hour value
      cout := aire.cout + (value - nbGrpCourbeGuide hour) }) aire

def remplirBloc (hours : List Nat) (aire : AireMax) : AireMax := remplir nbGrpCourbeGuide (nbMx nbGrpCourbeGuide hours) hours aire

/-- The loop over the blocks between the first and the last hour; a block has `mutMdt` hours at most. -/
def remplirBlocs (mutMdt dernierPdt : Nat) : (fuel : Nat) → (hour : Nat) → AireMax → AireMax
  | 0, _, aire => aire
  | fuel + 1, hour, aire =>
    if hour < dernierPdt then
      let countMUT := min mutMdt (dernierPdt - hour)
      remplirBlocs mutMdt dernierPdt fuel (hour + countMUT) (remplirBloc nbGrpCourbeGuide (List.range' hour countMUT) aire)
    else aire

def bouts (premierPdt dernierPdt nombreDePasDeTemps : Nat) : List Nat :=
  List.range premierPdt ++ List.range' dernierPdt (nombreDePasDeTemps - dernierPdt)

/-- `OPT_CalculerAireMaxPminJour`: both ends of the week are one block. -/
def aireMaxPminJour (premierPdt dernierPdt mutMdt nombreDePasDeTemps : Nat) (nbGrpOpt : Nat → Int) : AireMax :=
  remplirBlocs nbGrpCourbeGuide mutMdt dernierPdt nombreDePasDeTemps premierPdt
    (remplirBloc nbGrpCourbeGuide (bouts premierPdt dernierPdt nombreDePasDeTemps) ⟨nbGrpOpt, 0⟩)

def intervalleDAjustement (mutMdt nombreDePasDeTemps : Nat) : Nat := min mutMdt (nombreDePasDeTemps - mutMdt)

def dernierPdt (mutMdt nombreDePasDeTemps hour : Nat) : Nat :=
  nombreDePasDeTemps - intervalleDAjustement mutMdt nombreDePasDeTemps + hour

def aireDuDecalage (mutMdt nombreDePasDeTemps hour : Nat) (nbGrpOpt : Nat → Int) : AireMax :=
  aireMaxPminJour nbGrpCourbeGuide hour (dernierPdt mutMdt nombreDePasDeTemps hour) mutMdt nombreDePasDeTemps nbGrpOpt

/-- `LINFINI_ANTARES` -/
def linfiniAntares : Int := 10 ^ 80

structure Recherche where
  nbGrpOpt : Nat → Int
  ecartOpt : Int
  iOpt : Option Nat

def essayer (mutMdt nombreDePasDeTemps : Nat) (recherche : Recherche) (hour : Nat) : Recherche :=
  let aire := aireDuDecalage nbGrpCourbeGuide mutMdt nombreDePasDeTemps hour recherche.nbGrpOpt
  if aire.cout < recherche.ecartOpt then ⟨aire.nbGrpOpt, aire.cout, some hour⟩
  else { recherche with nbGrpOpt := aire.nbGrpOpt }

def chercher (mutMdt nombreDePasDeTemps : Nat) (nbGrpOpt : Nat → Int) : Recherche :=
  (List.range (intervalleDAjustement mutMdt nombreDePasDeTemps + 1)).foldl
    (essayer nbGrpCourbeGuide mutMdt nombreDePasDeTemps) ⟨nbGrpOpt, linfiniAntares, none⟩

end

section Paliers

def zeroPmin : Rat := 1 / 100

def nbGrpDeLaProduction (tailleUnitaire production : Rat) : Int :=
  if |production| < zeroPmin then 0
  else if tailleUnitaire > zeroPmin then ⌈production / tailleUnitaire⌉ else ⌈production⌉

/-- A thermal cluster: its minimum time is one hour at least, and its numbers of units are of the type `int`. -/
structure Palier where
  pminPendantUneHeure : Rat
  tailleUnitaire : Rat
  minUpDownTime : Nat
  minUpDownTime_pos : 0 < minUpDownTime
  production : Nat → Rat
  production_nonneg : ∀ pdt, 0 ≤ production pdt
  nbGrp_lt : ∀ pdt, nbGrpDeLaProduction tailleUnitaire (production pdt) < 2 ^ 31
  puissanceDisponible : Nat → Rat
  puissanceMin : Nat → Rat

/-- What a cluster is given: the guide and the curve of the others are left where the cluster is passed over. -/
structure PalierTraite where
  nbGrpCourbeGuide : Nat → Int
  nbGrpOpt : Nat → Int
  ecartOpt : Int
  puissanceMin : Nat → Rat

def Palier.nbGrpCourbeGuide (palier : Palier) (pdt : Nat) : Int := nbGrpDeLaProduction palier.tailleUnitaire (palier.production pdt)

def Palier.puissanceMinAjustee (palier : Palier) (nbGrpOpt : Nat → Int) (pdt : Nat) : Rat :=
  let puissance :=
    if palier.pminPendantUneHeure * nbGrpOpt pdt > palier.puissanceMin pdt then palier.pminPendantUneHeure * nbGrpOpt pdt
    else palier.puissanceMin pdt
  if puissance > palier.puissanceDisponible pdt then palier.puissanceDisponible pdt else puissance

/-- A cluster whose minimum power is not zero; there is no result where no shift was found. -/
def Palier.traiter (nombreDePasDeTemps : Nat) (palier : Palier) (nbGrpOpt : Nat → Int) : (Nat → Int) × Option PalierTraite :=
  let guide := palier.nbGrpCourbeGuide
  let recherche := chercher guide palier.minUpDownTime nombreDePasDeTemps nbGrpOpt
  match recherche.iOpt with
  | none => (recherche.nbGrpOpt, none)
  | some iOpt =>
    let aire := aireDuDecalage guide palier.minUpDownTime nombreDePasDeTemps iOpt recherche.nbGrpOpt
    (aire.nbGrpOpt, some ⟨guide, aire.nbGrpOpt, recherche.ecartOpt, fun pdt =>
      if pdt < nombreDePasDeTemps then palier.puissanceMinAjustee aire.nbGrpOpt pdt else palier.puissanceMin pdt⟩)

def Palier.passer (nombreDePasDeTemps : Nat) (nbGrpOpt : Nat → Int) (palier : Palier) : (Nat → Int) × Option PalierTraite :=
  if |palier.pminPendantUneHeure| < zeroPmin then (nbGrpOpt, none) else palier.traiter nombreDePasDeTemps nbGrpOpt

/-- `OPT_CalculerLesPminThermiquesEnFonctionDeMUTetMDT`, on the clusters of all areas: what each of them is given. -/
def pminThermiques (nombreDePasDeTemps : Nat) : (nbGrpOpt : Nat → Int) → List Palier → List (Palier × Option PalierTraite)
  | _, [] => []
  | nbGrpOpt, palier :: paliers =>
    let (filled, traite) := palier.passer nombreDePasDeTemps nbGrpOpt
    (palier, traite) :: pminThermiques nombreDePasDeTemps filled paliers

end Paliers

section
variable {guide : Nat → Int}

theorem le_nbMx {hours : List Nat} {hour : Nat} (listed : hour ∈ hours) : guide hour ≤ nbMx guide hours := by
  have grows (hours : List Nat) (greatest : Int) : greatest ≤ hours.foldl (fun greatest hour => if guide hour > greatest then guide hour else greatest) greatest ∧
      ∀ hour ∈ hours, guide hour ≤ hours.foldl (fun greatest hour => if guide hour > greatest then guide hour else greatest) greatest := by
    induction hours generalizing greatest with
    | nil => exact ⟨le_rfl, fun _ none => absurd none List.not_mem_nil⟩
    | cons first hours ih =>
      rw [List.foldl_cons]
      obtain ⟨kept, others⟩ := ih (if guide first > greatest then guide first else greatest)
      have both : greatest ≤ (if guide first > greatest then guide first else greatest) ∧
          guide first ≤ (if guide first > greatest then guide first else greatest) := by
        split_ifs <;> omega
      constructor
      · exact both.1.trans kept
      · intro hour listed
        rcases List.mem_cons.mp listed with rfl | later
        · exact both.2.trans kept
        · exact others hour later
  exact (grows hours 0).2 hour listed

theorem nbMx_le {bound : Int} (positive : 0 ≤ bound) {hours : List Nat} (below : ∀ hour ∈ hours, guide hour ≤ bound) :
    nbMx guide hours ≤ bound := by
  have kept (hours : List Nat) (greatest : Int) (start : greatest ≤ bound) (below : ∀ hour ∈ hours, guide hour ≤ bound) :
      hours.foldl (fun greatest hour => if guide hour > greatest then guide hour else greatest) greatest ≤ bound := by
    induction hours generalizing greatest with
    | nil => exact start
    | cons first hours ih =>
      rw [List.foldl_cons]
      apply ih
      · have first := below first List.mem_cons_self
        split_ifs <;> assumption
      · exact fun hour listed => below hour (List.mem_cons_of_mem _ listed)
  exact kept hours 0 positive below

theorem remplir_nbGrpOpt (value : Int) (hours : List Nat) (aire : AireMax) (hour : Nat) :
    (remplir guide value hours aire).nbGrpOpt hour = if hour ∈ hours then value else aire.nbGrpOpt hour := by
  induction hours generalizing aire with
  | nil => rfl
  | cons first hours ih =>
    refine (ih _).trans ?_
    by_cases same : hour = first
    · subst same
      simp
    · simp [same]

theorem remplir_cout (value : Int) (hours : List Nat) (aire : AireMax) :
    (remplir guide value hours aire).cout = aire.cout + (hours.map fun hour => value - guide hour).sum := by
  induction hours generalizing aire with
  | nil => exact (Int.add_zero _).symm
  | cons first hours ih =>
    rw [List.map_cons, List.sum_cons, ← Int.add_assoc]
    exact ih _

theorem sum_range' (excess : Nat → Int) (first count : Nat) :
    ((List.range' first count).map excess).sum = ∑ hour ∈ Finset.Ico first (first + count), excess hour := by
  induction count generalizing first with
  | zero => simp
  | succ count ih =>
    rw [List.range'_succ, List.map_cons, List.sum_cons, ih, Finset.sum_eq_sum_Ico_succ_bot (show first < first + (count + 1) by omega),
      show first + 1 + count = first + (count + 1) by omega]

variable (guide) in
def bloc (mutMdt premierPdt dernierPdt hour : Nat) : List Nat :=
  let start := premierPdt + (hour - premierPdt) / mutMdt * mutMdt
  List.range' start (min mutMdt (dernierPdt - start))

theorem mem_bloc {mutMdt premierPdt dernierPdt hour : Nat} (positive : 0 < mutMdt) (after : premierPdt ≤ hour) (before : hour < dernierPdt) :
    hour ∈ bloc mutMdt premierPdt dernierPdt hour := by
  have rest := Nat.mod_lt (hour - premierPdt) positive
  have whole := Nat.div_add_mod' (hour - premierPdt) mutMdt
  unfold bloc
  rw [List.mem_range'_1]
  omega

theorem bloc_first {mutMdt premierPdt dernierPdt hour : Nat} (inside : hour - premierPdt < mutMdt) :
    bloc mutMdt premierPdt dernierPdt hour = List.range' premierPdt (min mutMdt (dernierPdt - premierPdt)) := by
  unfold bloc
  rw [Nat.div_eq_of_lt inside, Nat.zero_mul, Nat.add_zero]

theorem bloc_next {mutMdt premierPdt dernierPdt hour : Nat} (positive : 0 < mutMdt) (after : premierPdt + mutMdt ≤ hour) :
    bloc mutMdt (premierPdt + mutMdt) dernierPdt hour = bloc mutMdt premierPdt dernierPdt hour := by
  have quotient : (hour - premierPdt) / mutMdt = (hour - (premierPdt + mutMdt)) / mutMdt + 1 := by
    rw [show hour - premierPdt = hour - (premierPdt + mutMdt) + mutMdt by omega, Nat.add_div_right _ positive]
  have start : premierPdt + mutMdt + (hour - (premierPdt + mutMdt)) / mutMdt * mutMdt =
      premierPdt + (hour - premierPdt) / mutMdt * mutMdt := by
    rw [quotient, Nat.add_mul, Nat.one_mul]
    omega
  unfold bloc
  rw [start]

theorem remplirBlocs_spec {mutMdt dernierPdt : Nat} (positive : 0 < mutMdt) {fuel hour : Nat} (enough : dernierPdt ≤ hour + fuel) (aire : AireMax) :
    (∀ other, (remplirBlocs guide mutMdt dernierPdt fuel hour aire).nbGrpOpt other =
      if hour ≤ other ∧ other < dernierPdt then nbMx guide (bloc mutMdt hour dernierPdt other) else aire.nbGrpOpt other) ∧
    (remplirBlocs guide mutMdt dernierPdt fuel hour aire).cout = aire.cout +
      ∑ other ∈ Finset.Ico hour dernierPdt, (nbMx guide (bloc mutMdt hour dernierPdt other) - guide other) := by
  induction fuel generalizing hour aire with
  | zero =>
    constructor
    · intro other
      rw [if_neg (by omega)]
      rfl
    · rw [Finset.Ico_eq_empty_of_le (by omega), Finset.sum_empty, Int.add_zero]
      rfl
  | succ fuel ih =>
    unfold remplirBlocs
    split_ifs with inside
    · obtain ⟨values, cost⟩ := @ih (hour + min mutMdt (dernierPdt - hour)) (by omega)
        (remplirBloc guide (List.range' hour (min mutMdt (dernierPdt - hour))) aire)
      -- the hour lies in the block just filled or in those of the later turns
      have block (other : Nat) (early : hour ≤ other ∧ other < hour + min mutMdt (dernierPdt - hour)) :
          bloc mutMdt hour dernierPdt other = List.range' hour (min mutMdt (dernierPdt - hour)) := bloc_first (by omega)
      have later (other : Nat) (late : hour + min mutMdt (dernierPdt - hour) ≤ other ∧ other < dernierPdt) :
          bloc mutMdt (hour + min mutMdt (dernierPdt - hour)) dernierPdt other = bloc mutMdt hour dernierPdt other := by
        rw [show min mutMdt (dernierPdt - hour) = mutMdt by omega] at late ⊢
        exact bloc_next positive late.1
      constructor
      · intro other
        dsimp only
        rw [values, remplirBloc, remplir_nbGrpOpt]
        simp only [List.mem_range'_1]
        by_cases late : hour + min mutMdt (dernierPdt - hour) ≤ other ∧ other < dernierPdt
        · rw [if_pos late, if_pos (by omega), later other late]
        · rw [if_neg late]
          by_cases early : hour ≤ other ∧ other < hour + min mutMdt (dernierPdt - hour)
          · rw [if_pos early, if_pos (by omega), block other early]
          · rw [if_neg early, if_neg (by omega)]
      · dsimp only
        rw [cost, remplirBloc, remplir_cout, sum_range', Int.add_assoc, ← Finset.sum_Ico_consecutive _ (show hour ≤ hour + min mutMdt (dernierPdt - hour) by omega)
          (show hour + min mutMdt (dernierPdt - hour) ≤ dernierPdt by omega)]
        congr 2
        · apply Finset.sum_congr rfl
          intro other early
          rw [block other (Finset.mem_Ico.mp early)]
        · apply Finset.sum_congr rfl
          intro other late
          rw [later other (Finset.mem_Ico.mp late)]
    · constructor
      · intro other
        rw [if_neg (by omega)]
      · rw [Finset.Ico_eq_empty_of_le (by omega), Finset.sum_empty, Int.add_zero]

section
variable {mutMdt nombreDePasDeTemps shift : Nat} (positive : 0 < mutMdt) (within : shift ≤ intervalleDAjustement mutMdt nombreDePasDeTemps)

include within in
theorem dernierPdt_bounds : shift ≤ dernierPdt mutMdt nombreDePasDeTemps shift ∧
    dernierPdt mutMdt nombreDePasDeTemps shift ≤ nombreDePasDeTemps := by
  have shorter : intervalleDAjustement mutMdt nombreDePasDeTemps ≤ nombreDePasDeTemps - mutMdt := Nat.min_le_right _ _
  unfold dernierPdt
  omega

include positive within

theorem aireDuDecalage_nbGrpOpt (nbGrpOpt : Nat → Int) {hour : Nat} (inWeek : hour < nombreDePasDeTemps) :
    (aireDuDecalage guide mutMdt nombreDePasDeTemps shift nbGrpOpt).nbGrpOpt hour =
      if shift ≤ hour ∧ hour < dernierPdt mutMdt nombreDePasDeTemps shift then
        nbMx guide (bloc mutMdt shift (dernierPdt mutMdt nombreDePasDeTemps shift) hour)
      else nbMx guide (bouts shift (dernierPdt mutMdt nombreDePasDeTemps shift) nombreDePasDeTemps) := by
  have bounds := dernierPdt_bounds within
  unfold aireDuDecalage aireMaxPminJour
  rw [(remplirBlocs_spec positive (by omega) _).1, remplirBloc, remplir_nbGrpOpt]
  split_ifs with middle ends
  · rfl
  · rfl
  · simp [bouts, List.mem_range'_1] at ends
    omega

theorem guide_le_nbGrpOpt (nbGrpOpt : Nat → Int) {hour : Nat} (inWeek : hour < nombreDePasDeTemps) :
    guide hour ≤ (aireDuDecalage guide mutMdt nombreDePasDeTemps shift nbGrpOpt).nbGrpOpt hour := by
  rw [aireDuDecalage_nbGrpOpt positive within nbGrpOpt inWeek]
  split_ifs with middle
  · exact le_nbMx (mem_bloc positive middle.1 middle.2)
  · apply le_nbMx
    simp [bouts, List.mem_range'_1]
    omega

omit positive within in
theorem bouts_cout {premierPdt dernierPdt : Nat} (last : dernierPdt ≤ nombreDePasDeTemps) (nbGrpOpt : Nat → Int) :
    (remplirBloc guide (bouts premierPdt dernierPdt nombreDePasDeTemps) ⟨nbGrpOpt, 0⟩).cout =
      ∑ hour ∈ Finset.Ico 0 premierPdt, (nbMx guide (bouts premierPdt dernierPdt nombreDePasDeTemps) - guide hour) +
      ∑ hour ∈ Finset.Ico dernierPdt nombreDePasDeTemps, (nbMx guide (bouts premierPdt dernierPdt nombreDePasDeTemps) - guide hour) := by
  rw [remplirBloc, remplir_cout, Int.zero_add]
  generalize nbMx guide (bouts premierPdt dernierPdt nombreDePasDeTemps) = greatest
  rw [bouts, List.map_append, List.sum_append, List.range_eq_range', sum_range', sum_range', Nat.zero_add, Nat.add_sub_cancel' last]

theorem aireDuDecalage_cout (nbGrpOpt : Nat → Int) : (aireDuDecalage guide mutMdt nombreDePasDeTemps shift nbGrpOpt).cout =
    ∑ hour ∈ Finset.range nombreDePasDeTemps, ((aireDuDecalage guide mutMdt nombreDePasDeTemps shift nbGrpOpt).nbGrpOpt hour - guide hour) := by
  obtain ⟨first, last⟩ := dernierPdt_bounds within
  have values (hour : Nat) (inWeek : hour < nombreDePasDeTemps) := @aireDuDecalage_nbGrpOpt guide _ _ _ positive within nbGrpOpt hour inWeek
  have cost : (aireDuDecalage guide mutMdt nombreDePasDeTemps shift nbGrpOpt).cout = _ :=
    (@remplirBlocs_spec guide mutMdt (dernierPdt mutMdt nombreDePasDeTemps shift) positive nombreDePasDeTemps shift (by omega)
      (remplirBloc guide (bouts shift (dernierPdt mutMdt nombreDePasDeTemps shift) nombreDePasDeTemps) ⟨nbGrpOpt, 0⟩)).2
  rw [bouts_cout last] at cost
  rw [cost, Finset.range_eq_Ico, ← Finset.sum_Ico_consecutive _ (Nat.zero_le shift) (first.trans last),
    ← Finset.sum_Ico_consecutive _ first last, Int.add_assoc, Int.add_comm (∑ hour ∈ Finset.Ico (dernierPdt _ _ _) _, _)]
  congr 1
  · apply Finset.sum_congr rfl
    intro hour listed
    have before := (Finset.mem_Ico.mp listed).2
    rw [values hour (by omega), if_neg (by omega)]
  · congr 1
    · apply Finset.sum_congr rfl
      intro hour listed
      have middle := Finset.mem_Ico.mp listed
      rw [values hour (by omega), if_pos middle]
    · apply Finset.sum_congr rfl
      intro hour listed
      have after := Finset.mem_Ico.mp listed
      rw [values hour (by omega), if_neg (by omega)]

theorem nbGrpOpt_middle (nbGrpOpt : Nat → Int) {offset : Nat}
    (middle : offset < nombreDePasDeTemps - intervalleDAjustement mutMdt nombreDePasDeTemps) :
    (aireDuDecalage guide mutMdt nombreDePasDeTemps shift nbGrpOpt).nbGrpOpt ((shift + offset) % nombreDePasDeTemps) =
      nbMx guide (bloc mutMdt shift (dernierPdt mutMdt nombreDePasDeTemps shift) (shift + offset)) := by
  obtain ⟨first, last⟩ := dernierPdt_bounds within
  have before : shift + offset < dernierPdt mutMdt nombreDePasDeTemps shift := by
    unfold dernierPdt
    omega
  rw [Nat.mod_eq_of_lt (by omega), aireDuDecalage_nbGrpOpt positive within nbGrpOpt (by omega), if_pos ⟨by omega, before⟩]

theorem nbGrpOpt_bouts (nbGrpOpt : Nat → Int) {offset : Nat} (inWeek : offset < nombreDePasDeTemps)
    (past : nombreDePasDeTemps - intervalleDAjustement mutMdt nombreDePasDeTemps ≤ offset) :
    (aireDuDecalage guide mutMdt nombreDePasDeTemps shift nbGrpOpt).nbGrpOpt ((shift + offset) % nombreDePasDeTemps) =
      nbMx guide (bouts shift (dernierPdt mutMdt nombreDePasDeTemps shift) nombreDePasDeTemps) := by
  have outside : ¬ (shift ≤ (shift + offset) % nombreDePasDeTemps ∧
      (shift + offset) % nombreDePasDeTemps < dernierPdt mutMdt nombreDePasDeTemps shift) := by
    unfold dernierPdt
    rcases Nat.lt_or_ge (shift + offset) nombreDePasDeTemps with before | after
    · rw [Nat.mod_eq_of_lt before]
      omega
    · have shorter : intervalleDAjustement mutMdt nombreDePasDeTemps ≤ nombreDePasDeTemps - mutMdt := Nat.min_le_right _ _
      rw [Nat.mod_eq_sub_mod after, Nat.mod_eq_of_lt (by omega)]
      omega
  rw [aireDuDecalage_nbGrpOpt positive within nbGrpOpt (Nat.mod_lt _ (by omega)), if_neg outside]

theorem nbGrpOpt_blockAt (nbGrpOpt : Nat → Int) {place : Nat} (inWeek : place < nombreDePasDeTemps) :
    (aireDuDecalage guide mutMdt nombreDePasDeTemps shift nbGrpOpt).nbGrpOpt ((shift + place) % nombreDePasDeTemps) =
      (aireDuDecalage guide mutMdt nombreDePasDeTemps shift nbGrpOpt).nbGrpOpt
        ((shift + blockAt nombreDePasDeTemps mutMdt place) % nombreDePasDeTemps) := by
  have wrapped : wrappedLength nombreDePasDeTemps mutMdt = intervalleDAjustement mutMdt nombreDePasDeTemps := rfl
  unfold blockAt
  rw [wrapped]
  split_ifs with middle
  · have start := Nat.div_mul_le_self place mutMdt
    have same : bloc mutMdt shift (dernierPdt mutMdt nombreDePasDeTemps shift) (shift + place / mutMdt * mutMdt) =
        bloc mutMdt shift (dernierPdt mutMdt nombreDePasDeTemps shift) (shift + place) := by
      unfold bloc
      rw [Nat.add_sub_cancel_left, Nat.add_sub_cancel_left, Nat.mul_div_cancel _ positive]
    rw [nbGrpOpt_middle positive within nbGrpOpt middle, nbGrpOpt_middle positive within nbGrpOpt (start.trans_lt middle), same]
  · have past := Nat.le_of_not_lt middle
    rw [nbGrpOpt_bouts positive within nbGrpOpt inWeek past, nbGrpOpt_bouts positive within nbGrpOpt (past.trans_lt inWeek) le_rfl]

theorem nbGrpOpt_changements (nbGrpOpt : Nat → Int) {hour distance : Nat} (inWeek : hour < nombreDePasDeTemps) (short : 0 < distance)
    (close : distance < mutMdt) (apart : distance < nombreDePasDeTemps)
    (changes : ChangesAt nombreDePasDeTemps (aireDuDecalage guide mutMdt nombreDePasDeTemps shift nbGrpOpt).nbGrpOpt hour)
    (again : ChangesAt nombreDePasDeTemps (aireDuDecalage guide mutMdt nombreDePasDeTemps shift nbGrpOpt).nbGrpOpt
      ((hour + distance) % nombreDePasDeTemps)) :
    hour = (shift + shortBlock nombreDePasDeTemps mutMdt) % nombreDePasDeTemps ∧ distance = nombreDePasDeTemps % mutMdt := by
  have shorter : shift ≤ nombreDePasDeTemps := (dernierPdt_bounds within).1.trans (dernierPdt_bounds within).2
  apply close_changes_shifted positive shorter _ inWeek short close apart changes again
  intro place inside
  exact nbGrpOpt_blockAt positive within nbGrpOpt inside

theorem cout_congr (nbGrpOpt other : Nat → Int) : (aireDuDecalage guide mutMdt nombreDePasDeTemps shift nbGrpOpt).cout =
    (aireDuDecalage guide mutMdt nombreDePasDeTemps shift other).cout := by
  rw [aireDuDecalage_cout positive within, aireDuDecalage_cout positive within]
  apply Finset.sum_congr rfl
  intro hour listed
  have inWeek := Finset.mem_range.mp listed
  rw [aireDuDecalage_nbGrpOpt positive within nbGrpOpt inWeek, aireDuDecalage_nbGrpOpt positive within other inWeek]

theorem cout_le {bound : Int} (guide_nonneg : ∀ hour, 0 ≤ guide hour) (guide_le : ∀ hour, guide hour ≤ bound) (nbGrpOpt : Nat → Int) :
    (aireDuDecalage guide mutMdt nombreDePasDeTemps shift nbGrpOpt).cout ≤ nombreDePasDeTemps * bound := by
  have bound_nonneg : 0 ≤ bound := (guide_nonneg 0).trans (guide_le 0)
  rw [aireDuDecalage_cout positive within]
  have each : ∀ hour ∈ Finset.range nombreDePasDeTemps,
      (aireDuDecalage guide mutMdt nombreDePasDeTemps shift nbGrpOpt).nbGrpOpt hour - guide hour ≤ bound := by
    intro hour listed
    have least := guide_nonneg hour
    have greatest (hours : List Nat) : nbMx guide hours ≤ bound := nbMx_le bound_nonneg fun other _ => guide_le other
    rw [aireDuDecalage_nbGrpOpt positive within nbGrpOpt (Finset.mem_range.mp listed)]
    split_ifs
    · exact (sub_le_self _ least).trans (greatest _)
    · exact (sub_le_self _ least).trans (greatest _)
  have total := Finset.sum_le_card_nsmul (Finset.range nombreDePasDeTemps) _ bound each
  rwa [Finset.card_range, nsmul_eq_mul] at total

end

section
variable (guide) (mutMdt nombreDePasDeTemps : Nat)

def coutDuDecalage (shift : Nat) : Int := (aireDuDecalage guide mutMdt nombreDePasDeTemps shift fun _ => 0).cout

structure Recherche.Meilleure (shifts best : Nat) (recherche : Recherche) : Prop where
  found : recherche.iOpt = some best
  best_lt : best < shifts
  ecartOpt : recherche.ecartOpt = coutDuDecalage guide mutMdt nombreDePasDeTemps best
  least : ∀ shift < shifts, recherche.ecartOpt ≤ coutDuDecalage guide mutMdt nombreDePasDeTemps shift

variable {guide mutMdt nombreDePasDeTemps} (positive : 0 < mutMdt)
include positive

theorem essayer_meilleure {recherche : Recherche} {shift : Nat} (within : shift ≤ intervalleDAjustement mutMdt nombreDePasDeTemps)
    (best : shift = 0 ∧ coutDuDecalage guide mutMdt nombreDePasDeTemps 0 < recherche.ecartOpt ∨
      ∃ iOpt, recherche.Meilleure guide mutMdt nombreDePasDeTemps shift iOpt) :
    ∃ iOpt, (essayer guide mutMdt nombreDePasDeTemps recherche shift).Meilleure guide mutMdt nombreDePasDeTemps (shift + 1) iOpt := by
  have cost : (aireDuDecalage guide mutMdt nombreDePasDeTemps shift recherche.nbGrpOpt).cout = coutDuDecalage guide mutMdt nombreDePasDeTemps shift :=
    cout_congr positive within _ _
  unfold essayer
  dsimp only
  rw [cost]
  split_ifs with better
  · refine ⟨shift, rfl, Nat.lt_succ_self shift, rfl, fun other before => ?_⟩
    rcases Nat.lt_succ_iff_lt_or_eq.mp before with earlier | rfl
    · rcases best with ⟨rfl, _⟩ | ⟨iOpt, best⟩
      · omega
      · exact better.le.trans (best.least other earlier)
    · exact le_rfl
  · rcases best with ⟨rfl, less⟩ | ⟨iOpt, best⟩
    · exact absurd less better
    · refine ⟨iOpt, best.found, Nat.lt_succ_of_lt best.best_lt, best.ecartOpt, fun other before => ?_⟩
      rcases Nat.lt_succ_iff_lt_or_eq.mp before with earlier | rfl
      · exact best.least other earlier
      · exact not_lt.mp better

theorem chercher_meilleure (finite : ∀ shift ≤ intervalleDAjustement mutMdt nombreDePasDeTemps,
      coutDuDecalage guide mutMdt nombreDePasDeTemps shift < linfiniAntares) (nbGrpOpt : Nat → Int) :
    ∃ iOpt, (chercher guide mutMdt nombreDePasDeTemps nbGrpOpt).Meilleure guide mutMdt nombreDePasDeTemps
      (intervalleDAjustement mutMdt nombreDePasDeTemps + 1) iOpt := by
  have scan (shifts : Nat) (within : shifts ≤ intervalleDAjustement mutMdt nombreDePasDeTemps) :
      ∃ iOpt, ((List.range (shifts + 1)).foldl (essayer guide mutMdt nombreDePasDeTemps) ⟨nbGrpOpt, linfiniAntares, none⟩).Meilleure
        guide mutMdt nombreDePasDeTemps (shifts + 1) iOpt := by
    induction shifts with
    | zero =>
      apply essayer_meilleure positive within
      exact .inl ⟨rfl, finite 0 within⟩
    | succ shifts ih =>
      rw [List.range_succ, List.foldl_append]
      apply essayer_meilleure positive within
      exact .inr (ih (Nat.le_of_succ_le within))
  exact scan _ le_rfl

end

end

section
variable (palier : Palier)

theorem Palier.guide_nonneg (pdt : Nat) : 0 ≤ palier.nbGrpCourbeGuide pdt := by
  unfold Palier.nbGrpCourbeGuide nbGrpDeLaProduction
  have production := palier.production_nonneg pdt
  split_ifs with idle large
  · exact le_rfl
  · apply Int.ceil_nonneg
    apply div_nonneg production
    exact le_trans (by unfold zeroPmin; norm_num) large.le
  · exact Int.ceil_nonneg production

def pasDeTempsDeLaSemaine : Nat := 168

theorem Palier.coutDuDecalage_lt {shift : Nat} (within : shift ≤ intervalleDAjustement palier.minUpDownTime pasDeTempsDeLaSemaine) :
    coutDuDecalage palier.nbGrpCourbeGuide palier.minUpDownTime pasDeTempsDeLaSemaine shift < linfiniAntares := by
  have bounded := @cout_le palier.nbGrpCourbeGuide _ _ _ palier.minUpDownTime_pos within (2 ^ 31) palier.guide_nonneg
    (fun hour => (palier.nbGrp_lt hour).le) fun _ => 0
  exact bounded.trans_lt (by unfold pasDeTempsDeLaSemaine linfiniAntares; norm_num)

/-- What a cluster is given keeps to its guide curve and to the power it had. -/
structure PalierTraite.Conforme (traite : PalierTraite) (palier : Palier) : Prop where
  guide : traite.nbGrpCourbeGuide = palier.nbGrpCourbeGuide
  courbe : ∀ hour < pasDeTempsDeLaSemaine, traite.nbGrpCourbeGuide hour ≤ traite.nbGrpOpt hour
  ecartOpt : traite.ecartOpt = ∑ hour ∈ Finset.range pasDeTempsDeLaSemaine, (traite.nbGrpOpt hour - traite.nbGrpCourbeGuide hour)
  minimal : ∀ shift ≤ intervalleDAjustement palier.minUpDownTime pasDeTempsDeLaSemaine,
    traite.ecartOpt ≤ coutDuDecalage traite.nbGrpCourbeGuide palier.minUpDownTime pasDeTempsDeLaSemaine shift
  /-- Two changes within less than the minimum time are the ends of one block, of what is left of the week. -/
  changements : ∃ place, ∀ hour < pasDeTempsDeLaSemaine, ∀ distance, 0 < distance → distance < palier.minUpDownTime →
    distance < pasDeTempsDeLaSemaine → ChangesAt pasDeTempsDeLaSemaine traite.nbGrpOpt hour →
    ChangesAt pasDeTempsDeLaSemaine traite.nbGrpOpt ((hour + distance) % pasDeTempsDeLaSemaine) →
    hour = place ∧ distance = pasDeTempsDeLaSemaine % palier.minUpDownTime
  puissance : ∀ pdt, palier.puissanceMin pdt ≤ traite.puissanceMin pdt ∨ traite.puissanceMin pdt = palier.puissanceDisponible pdt

theorem Palier.le_puissanceMinAjustee (nbGrpOpt : Nat → Int) (pdt : Nat) :
    palier.puissanceMin pdt ≤ palier.puissanceMinAjustee nbGrpOpt pdt ∨
      palier.puissanceMinAjustee nbGrpOpt pdt = palier.puissanceDisponible pdt := by
  unfold Palier.puissanceMinAjustee
  dsimp only
  split_ifs with more above above
  · exact .inr rfl
  · exact .inl more.le
  · exact .inr rfl
  · exact .inl le_rfl

theorem Palier.traiter_conforme (nbGrpOpt : Nat → Int) :
    ∃ traite, (palier.traiter pasDeTempsDeLaSemaine nbGrpOpt).2 = some traite ∧ traite.Conforme palier := by
  have positive := palier.minUpDownTime_pos
  obtain ⟨iOpt, best⟩ := chercher_meilleure positive (fun _ within => palier.coutDuDecalage_lt within) nbGrpOpt
  have within : iOpt ≤ intervalleDAjustement palier.minUpDownTime pasDeTempsDeLaSemaine := Nat.le_of_lt_succ best.best_lt
  unfold Palier.traiter
  dsimp only
  rw [best.found]
  refine ⟨_, rfl, ?_⟩
  constructor
  · rfl
  · exact fun hour inWeek => guide_le_nbGrpOpt positive within _ inWeek
  · have cost := best.ecartOpt
    rw [coutDuDecalage, cout_congr positive within _ (chercher palier.nbGrpCourbeGuide palier.minUpDownTime pasDeTempsDeLaSemaine nbGrpOpt).nbGrpOpt,
      aireDuDecalage_cout positive within] at cost
    exact cost
  · exact fun shift inside => best.least shift (Nat.lt_succ_of_le inside)
  · refine ⟨(iOpt + shortBlock pasDeTempsDeLaSemaine palier.minUpDownTime) % pasDeTempsDeLaSemaine, ?_⟩
    intro hour inWeek distance short close apart changes again
    exact nbGrpOpt_changements positive within _ inWeek short close apart changes again
  · intro pdt
    dsimp only
    split_ifs
    · exact palier.le_puissanceMinAjustee _ pdt
    · exact .inl le_rfl

/-- In every run each cluster with a minimum power is treated, and keeps to its guide curve. -/
theorem pminThermiques_conforme (nbGrpOpt : Nat → Int) (paliers : List Palier) :
    ∀ entry ∈ pminThermiques pasDeTempsDeLaSemaine nbGrpOpt paliers,
      (|entry.1.pminPendantUneHeure| < zeroPmin ∧ entry.2 = none) ∨ ∃ traite, entry.2 = some traite ∧ traite.Conforme entry.1 := by
  induction paliers generalizing nbGrpOpt with
  | nil => exact fun _ none => absurd none List.not_mem_nil
  | cons palier paliers ih =>
    have turn : pminThermiques pasDeTempsDeLaSemaine nbGrpOpt (palier :: paliers) =
        (palier, (palier.passer pasDeTempsDeLaSemaine nbGrpOpt).2) ::
          pminThermiques pasDeTempsDeLaSemaine (palier.passer pasDeTempsDeLaSemaine nbGrpOpt).1 paliers := rfl
    intro entry listed
    rw [turn] at listed
    rcases List.mem_cons.mp listed with same | later
    · rw [same]
      by_cases idle : |palier.pminPendantUneHeure| < zeroPmin
      · have passed : palier.passer pasDeTempsDeLaSemaine nbGrpOpt = (nbGrpOpt, none) := if_pos idle
        exact .inl ⟨idle, by rw [passed]⟩
      · have treated : palier.passer pasDeTempsDeLaSemaine nbGrpOpt = palier.traiter pasDeTempsDeLaSemaine nbGrpOpt := if_neg idle
        rw [treated]
        exact .inr (palier.traiter_conforme nbGrpOpt)
    · exact ih _ entry later

end

section

def PalierTraite.Espace (traite : PalierTraite) (palier : Palier) : Prop :=
  ∀ hour < pasDeTempsDeLaSemaine, ∀ distance, 0 < distance → distance < palier.minUpDownTime → distance < pasDeTempsDeLaSemaine →
    ChangesAt pasDeTempsDeLaSemaine traite.nbGrpOpt hour →
    ¬ ChangesAt pasDeTempsDeLaSemaine traite.nbGrpOpt ((hour + distance) % pasDeTempsDeLaSemaine)

/-- One unit in the last hour of the week, and 167 hours of minimum time. -/
def dernierePointe : Palier where
  pminPendantUneHeure := 1
  tailleUnitaire := 1
  minUpDownTime := 167
  minUpDownTime_pos := by decide
  production pdt := if pdt = 167 then 1 else 0
  production_nonneg pdt := by
    split_ifs <;> norm_num
  nbGrp_lt pdt := by
    split_ifs <;> norm_num [nbGrpDeLaProduction, zeroPmin]
  puissanceDisponible _ := 1
  puissanceMin _ := 0

theorem dernierePointe_conforme :
    (|dernierePointe.pminPendantUneHeure| < zeroPmin ∧ (dernierePointe.passer pasDeTempsDeLaSemaine fun _ => 0).2 = none) ∨
      ∃ traite, (dernierePointe.passer pasDeTempsDeLaSemaine fun _ => 0).2 = some traite ∧ traite.Conforme dernierePointe :=
  pminThermiques_conforme (fun _ => 0) [dernierePointe] (dernierePointe, (dernierePointe.passer pasDeTempsDeLaSemaine fun _ => 0).2)
    List.mem_cons_self

theorem dernierePointe_courbe : (dernierePointe.passer pasDeTempsDeLaSemaine fun _ => 0).2.map
    (fun traite => (traite.nbGrpOpt 166, traite.nbGrpOpt 167, traite.nbGrpOpt 0)) = some (0, 1, 0) := by
  decide +kernel

/-- The unit runs for one hour of the week that is repeated. -/
theorem dernierePointe_not_espace : ¬ ∀ entry ∈ pminThermiques pasDeTempsDeLaSemaine (fun _ => 0) [dernierePointe],
    ∀ traite, entry.2 = some traite → traite.Espace entry.1 := by
  intro spaced
  have curve := dernierePointe_courbe
  cases treated : (dernierePointe.passer pasDeTempsDeLaSemaine fun _ => 0).2 with
  | none =>
    rw [treated] at curve
    cases curve
  | some traite =>
    rw [treated, Option.map_some, Option.some_inj, Prod.mk.injEq, Prod.mk.injEq] at curve
    obtain ⟨before, peak, after⟩ := curve
    apply spaced (dernierePointe, (dernierePointe.passer pasDeTempsDeLaSemaine fun _ => 0).2) List.mem_cons_self traite treated
      167 (by decide) 1 (by decide) (by decide) (by decide)
    · change traite.nbGrpOpt 167 ≠ traite.nbGrpOpt 166
      rw [before, peak]
      decide
    · change traite.nbGrpOpt 0 ≠ traite.nbGrpOpt 167
      rw [after, peak]
      decide

end

end Antares.UnitCommitment
