import Antares.Library.Means
import Antares.Optimisation.Network

/-! The quadratic problem of `ComputeFlowQuad`, hour by hour: balances and capacities are averaged over the
performed years, and the flows looked for keep the averaged balances within the averaged capacities. They
are averaged by different code, with the same weights: both are weighted means over the performed years.
-/

set_option autoImplicit false

namespace Antares.Optimisation

open Library

/-- The time-series of a capacity of a link: `entry` is by column and hour of the year. -/
structure Capacities where
  width : Nat
  entry : Nat → Nat → Rat

def Capacities.column (capacities : Capacities) (timeseriesNumber : Nat) : Nat :=
  if capacities.width = 1 then 0 else timeseriesNumber

/-- The network, its capacities and the years of the simulation. Loading rejects negative
weights; without a playlist every year is performed. Some performed year has a weight. -/
structure FlowQuadStudy where
  network : Network
  nbYears : Nat
  userPlaylist : Bool
  yearsFilter : Nat → Bool
  yearsWeight : Nat → Rat
  directCapacities : Nat → Capacities
  indirectCapacities : Nat → Capacities
  timeseriesNumbers : Nat → Nat → Nat
  someYear : ∃ year < nbYears, yearsFilter year = true ∧ (userPlaylist = true → 0 < yearsWeight year)
  filter_of_no_playlist : userPlaylist = false → ∀ year < nbYears, yearsFilter year = true
  yearsWeight_nonneg : ∀ year, 0 ≤ yearsWeight year
  directCapacities_nonneg : ∀ interco column hour, 0 ≤ (directCapacities interco).entry column hour
  indirectCapacities_nonneg : ∀ interco column hour, 0 ≤ (indirectCapacities interco).entry column hour

namespace FlowQuadStudy

variable (study : FlowQuadStudy)

def getYearsWeight (year : Nat) : Rat := if study.userPlaylist then study.yearsWeight year else 1

def getYearsWeightSum : Rat :=
  if study.userPlaylist then
    let result := (List.range study.nbYears).foldl (fun result year =>
      if study.yearsFilter year then result + study.yearsWeight year else result) 0
    if result = 0 then 1 else result
  else study.nbYears

def performedYears : List Nat := (List.range study.nbYears).filter study.yearsFilter

def addWeight (tsIndex : Nat) (weight : Rat) : List (Nat × Rat) → List (Nat × Rat)
  | [] => [(tsIndex, weight)]
  | (key, old) :: weights =>
    if tsIndex = key then (key, old + weight) :: weights
    else if tsIndex < key then (tsIndex, weight) :: (key, old) :: weights
    else (key, old) :: addWeight tsIndex weight weights

def retrieveAverageNTC (capacities : Capacities) (tsNumbers : Nat → Nat) (hour : Nat) : Rat :=
  let weightOfTS := (List.range study.nbYears).foldl (fun weights year =>
    if study.yearsFilter year then
      addWeight (capacities.column (tsNumbers year)) (study.getYearsWeight year) weights
    else weights) []
  weightOfTS.foldl (fun average weight => average + capacities.entry weight.1 hour * weight.2) 0 /
    study.getYearsWeightSum

abbrev YearlyFlows := Nat → Nat → Nat → Rat

/-- `Balance::hourForEachArea` -/
def bilanPays (flux : Nat → Rat) (pays : Nat) : Rat :=
  (study.network.intercosExtremite pays).foldl (fun bilan interco => bilan - flux interco)
    ((study.network.intercosOrigine pays).foldl (fun bilan interco => bilan + flux interco) 0)

variable (flows : YearlyFlows)

/-- `AverageData::merge` over the performed years. -/
def averageBalance (pays hour : Nat) : Rat :=
  study.performedYears.foldl (fun hourly year => hourly +
    study.bilanPays (flows year hour) pays * (study.getYearsWeight year / study.getYearsWeightSum)) 0

inductive TypeDeVariable where
  | variableFixe
  | variableBorneeDesDeuxCotes
  deriving DecidableEq, Repr

structure VariableQuadratique where
  xmin : Rat
  xmax : Rat
  type : TypeDeVariable
  /-- The value given to the solver where the variable is fixed. -/
  x : Rat

def zeroPourLesVariablesFixes : Rat := 1 / 1000000

def initialiserLesBornes (ntcOrigineVersExtremite ntcExtremiteVersOrigine : Rat) :
    VariableQuadratique :=
  let xmax := ntcOrigineVersExtremite
  let xmin := -ntcExtremiteVersOrigine
  if xmax - xmin < zeroPourLesVariablesFixes then
    { xmin, xmax, type := .variableFixe, x := 1 / 2 * (xmax - xmin) }
  else { xmin, xmax, type := .variableBorneeDesDeuxCotes, x := 0 }

def variableQuadratique (hour interco : Nat) : VariableQuadratique :=
  initialiserLesBornes
    (study.retrieveAverageNTC (study.directCapacities interco) (study.timeseriesNumbers interco) hour)
    (study.retrieveAverageNTC (study.indirectCapacities interco) (study.timeseriesNumbers interco) hour)

def termesDeSolde (pays : Nat) : Terms Nat Rat :=
  (study.network.intercosOrigine pays).map (fun interco => (interco, 1)) ++
    (study.network.intercosExtremite pays).map fun interco => (interco, -1)

def soldeRow (hour pays : Nat) : Row Nat Rat where
  terms := study.termesDeSolde pays
  sense := .eq
  rhs := study.averageBalance flows pays hour

variable (hour : Nat)

def quadraticRows : List (Row Nat Rat) :=
  (List.range (study.network.nombreDePays - 1)).map (study.soldeRow flows hour)

def drawnDirect (hour interco year : Nat) : Rat :=
  let capacities := study.directCapacities interco
  capacities.entry (capacities.column (study.timeseriesNumbers interco year)) hour

def drawnIndirect (hour interco year : Nat) : Rat :=
  let capacities := study.indirectCapacities interco
  capacities.entry (capacities.column (study.timeseriesNumbers interco year)) hour

/-- The flows of every performed year keep within the capacities drawn for it. -/
def WithinCapacities : Prop :=
  ∀ year ∈ study.performedYears, ∀ interco < study.network.nombreDInterconnexions,
    -study.drawnIndirect hour interco year ≤ flows year hour interco ∧
      flows year hour interco ≤ study.drawnDirect hour interco year

/-- The average of a yearly quantity, by the weights of the performed years. -/
def yearlyMean (value : Nat → Rat) : Rat :=
  weightedMean study.performedYears study.getYearsWeight value

/-- The problem of an hour has the averaged flows for a point, needs no row for its last area
and gives its fixed variables values within their bounds. -/
structure Feasible (flows : YearlyFlows) (hour : Nat) : Prop where
  bounds : ∀ interco < study.network.nombreDInterconnexions,
    (study.variableQuadratique hour interco).xmin ≤ study.yearlyMean (fun year => flows year hour interco) ∧
      study.yearlyMean (fun year => flows year hour interco) ≤ (study.variableQuadratique hour interco).xmax
  rows : ∀ row ∈ study.quadraticRows flows hour,
    row.Holds fun interco => study.yearlyMean fun year => flows year hour interco
  omitted : ∀ point : Nat → Rat, (∀ row ∈ study.quadraticRows flows hour, row.Holds point) →
    (study.soldeRow flows hour (study.network.nombreDePays - 1)).Holds point
  fixed : ∀ interco < study.network.nombreDInterconnexions,
    (study.variableQuadratique hour interco).type = .variableFixe →
      (study.variableQuadratique hour interco).xmin ≤ (study.variableQuadratique hour interco).x ∧
        (study.variableQuadratique hour interco).x ≤ (study.variableQuadratique hour interco).xmax

/-- No link is both almost closed and opener backwards than forwards, on average. -/
def NarrowLinksLeanForwards : Prop :=
  ∀ interco < study.network.nombreDInterconnexions,
    zeroPourLesVariablesFixes ≤ study.yearlyMean (study.drawnDirect hour interco) +
        study.yearlyMean (study.drawnIndirect hour interco) ∨
      study.yearlyMean (study.drawnIndirect hour interco) ≤
        study.yearlyMean (study.drawnDirect hour interco)

end FlowQuadStudy

end Antares.Optimisation

namespace Antares.Optimisation.FlowQuadStudy

open Library

section
variable (study : FlowQuadStudy)

theorem getYearsWeight_nonneg (year : Nat) : 0 ≤ study.getYearsWeight year := by
  unfold getYearsWeight
  split_ifs
  · exact study.yearsWeight_nonneg year
  · exact zero_le_one

theorem foldl_filtered_add (test : Nat → Bool) (value : Nat → Rat) (items : List Nat) (start : Rat) :
    items.foldl (fun sum item => if test item then sum + value item else sum) start =
      start + ((items.filter test).map value).sum := by
  induction items generalizing start with
  | nil => simp
  | cons item items ih =>
    rw [List.foldl_cons, ih]
    cases here : test item with
    | false => simp [here]
    | true => simp [here, add_assoc]

def totalWeight : Rat := (study.performedYears.map study.getYearsWeight).sum

theorem totalWeight_pos : 0 < study.totalWeight := by
  obtain ⟨year, bound, performed, positive⟩ := study.someYear
  have listed : year ∈ study.performedYears :=
    List.mem_filter.mpr ⟨List.mem_range.mpr bound, performed⟩
  have weight : 0 < study.getYearsWeight year := by
    unfold getYearsWeight
    split_ifs with playlist
    · exact positive playlist
    · exact zero_lt_one
  have below : study.getYearsWeight year ≤ study.totalWeight :=
    List.single_le_sum (List.forall_mem_map.mpr fun other _ => study.getYearsWeight_nonneg other) _
      (List.mem_map_of_mem listed)
  exact lt_of_lt_of_le weight below

theorem getYearsWeightSum_eq : study.getYearsWeightSum = study.totalWeight := by
  have positive := study.totalWeight_pos
  unfold getYearsWeightSum
  unfold totalWeight performedYears getYearsWeight at *
  cases playlist : study.userPlaylist with
  | false =>
    have all : (List.range study.nbYears).filter study.yearsFilter = List.range study.nbYears := by
      rw [List.filter_eq_self]
      intro year listed
      exact study.filter_of_no_playlist playlist year (List.mem_range.mp listed)
    rw [all]
    simp
  | true =>
    simp only [playlist, ↓reduceIte] at positive ⊢
    rw [foldl_filtered_add, zero_add, if_neg positive.ne']

variable (entry : Nat → Rat)

theorem sum_addWeight (tsIndex : Nat) (weight : Rat) (weights : List (Nat × Rat)) :
    ((addWeight tsIndex weight weights).map fun pair => entry pair.1 * pair.2).sum =
      entry tsIndex * weight + (weights.map fun pair => entry pair.1 * pair.2).sum := by
  induction weights with
  | nil => simp [addWeight]
  | cons pair weights ih =>
    unfold addWeight
    split_ifs with same before
    · subst same
      simp only [List.map_cons, List.sum_cons]
      ring
    · rfl
    · simp only [List.map_cons, List.sum_cons, ih]
      ring

theorem sum_weightOfTS (column : Nat → Nat) (weight : Nat → Rat) (test : Nat → Bool)
    (years : List Nat) (weights : List (Nat × Rat)) :
    ((years.foldl (fun weights year =>
        if test year then addWeight (column year) (weight year) weights else weights) weights).map
          fun pair => entry pair.1 * pair.2).sum =
      (weights.map fun pair => entry pair.1 * pair.2).sum +
        ((years.filter test).map fun year => weight year * entry (column year)).sum := by
  induction years generalizing weights with
  | nil => simp
  | cons year years ih =>
    rw [List.foldl_cons, ih]
    cases here : test year with
    | false => simp [here]
    | true =>
      simp only [here, ↓reduceIte, sum_addWeight, List.filter_cons, List.map_cons, List.sum_cons]
      ring

theorem retrieveAverageNTC_eq (capacities : Capacities) (tsNumbers : Nat → Nat) (hour : Nat) :
    study.retrieveAverageNTC capacities tsNumbers hour =
      study.yearlyMean fun year => capacities.entry (capacities.column (tsNumbers year)) hour := by
  unfold retrieveAverageNTC yearlyMean weightedMean
  dsimp only
  rw [foldl_add_eq, zero_add, getYearsWeightSum_eq]
  have grouped := sum_weightOfTS (fun column => capacities.entry column hour)
    (fun year => capacities.column (tsNumbers year)) study.getYearsWeight study.yearsFilter
    (List.range study.nbYears) []
  rw [List.map_nil, List.sum_nil, zero_add] at grouped
  rw [grouped]
  rfl

theorem bilanPays_eq (flux : Nat → Rat) (pays : Nat) :
    study.bilanPays flux pays = ((study.network.intercosOrigine pays).map flux).sum -
      ((study.network.intercosExtremite pays).map flux).sum := by
  have subtracted (intercos : List Nat) (start : Rat) :
      intercos.foldl (fun bilan interco => bilan - flux interco) start =
        start - (intercos.map flux).sum := by
    induction intercos generalizing start with
    | nil => simp
    | cons interco intercos ih =>
      rw [List.foldl_cons, ih, List.map_cons, List.sum_cons, sub_sub]
  unfold bilanPays
  rw [subtracted, foldl_add_eq, zero_add]

theorem termesDeSolde_value (point : Nat → Rat) (pays : Nat) :
    (study.termesDeSolde pays).value point = study.bilanPays point pays := by
  rw [bilanPays_eq]
  unfold termesDeSolde
  rw [Terms.value_append, Terms.value_map, Terms.value_map]
  dsimp only
  rw [List.sum_map_mul_left, List.sum_map_mul_left]
  ring

theorem averageBalance_eq (flows : YearlyFlows) (pays hour : Nat) :
    study.averageBalance flows pays hour =
      study.bilanPays (fun interco => study.yearlyMean fun year => flows year hour interco) pays := by
  have mean : study.averageBalance flows pays hour =
      study.yearlyMean fun year => study.bilanPays (flows year hour) pays := by
    unfold averageBalance yearlyMean weightedMean
    rw [foldl_add_eq, zero_add, getYearsWeightSum_eq, div_eq_mul_inv, ← List.sum_map_mul_right]
    congr 1
    apply List.map_congr_left
    intro year _
    unfold totalWeight
    ring
  rw [mean, bilanPays_eq]
  simp only [bilanPays_eq]
  unfold yearlyMean
  rw [weightedMean_sub, weightedMean_sum, weightedMean_sum]

theorem sum_bilanPays (flux : Nat → Rat) :
    ∑ pays ∈ Finset.range study.network.nombreDePays, study.bilanPays flux pays = 0 := by
  simp only [bilanPays_eq, Finset.sum_sub_distrib]
  unfold Network.intercosOrigine Network.intercosExtremite
  simp only [Chains.visited_build]
  rw [Chains.sum_sum_itemsOf study.network.origine_lt, Chains.sum_sum_itemsOf study.network.extremite_lt,
    sub_self]

theorem variableQuadratique_bounds (hour interco : Nat) :
    (study.variableQuadratique hour interco).xmin = -study.yearlyMean (study.drawnIndirect hour interco) ∧
      (study.variableQuadratique hour interco).xmax =
        study.yearlyMean (study.drawnDirect hour interco) := by
  unfold variableQuadratique initialiserLesBornes
  rw [retrieveAverageNTC_eq, retrieveAverageNTC_eq]
  dsimp only
  split_ifs <;> exact ⟨rfl, rfl⟩

theorem variableQuadratique_fixe_iff (hour interco : Nat) :
    (study.variableQuadratique hour interco).type = .variableFixe ↔
      study.yearlyMean (study.drawnDirect hour interco) +
        study.yearlyMean (study.drawnIndirect hour interco) < zeroPourLesVariablesFixes := by
  unfold variableQuadratique initialiserLesBornes
  rw [retrieveAverageNTC_eq, retrieveAverageNTC_eq]
  dsimp only
  rw [sub_neg_eq_add]
  split_ifs with fixed
  · exact iff_of_true rfl fixed
  · exact iff_of_false (by simp) fixed

theorem variableQuadratique_x {hour interco : Nat}
    (fixed : (study.variableQuadratique hour interco).type = .variableFixe) :
    (study.variableQuadratique hour interco).x =
      1 / 2 * (study.yearlyMean (study.drawnDirect hour interco) +
        study.yearlyMean (study.drawnIndirect hour interco)) := by
  rw [variableQuadratique_fixe_iff] at fixed
  unfold variableQuadratique initialiserLesBornes
  rw [retrieveAverageNTC_eq, retrieveAverageNTC_eq]
  dsimp only
  rw [sub_neg_eq_add]
  exact congrArg VariableQuadratique.x (if_pos fixed)

theorem yearlyMean_nonneg {value : Nat → Rat} (nonneg : ∀ year, 0 ≤ value year) :
    0 ≤ study.yearlyMean value :=
  weightedMean_nonneg (fun year _ => study.getYearsWeight_nonneg year) fun year _ => nonneg year

variable {flows : YearlyFlows} {hour : Nat}

theorem yearlyMean_within (within : study.WithinCapacities flows hour)
    {interco : Nat} (bound : interco < study.network.nombreDInterconnexions) :
    (study.variableQuadratique hour interco).xmin ≤ study.yearlyMean (fun year => flows year hour interco) ∧
      study.yearlyMean (fun year => flows year hour interco) ≤
        (study.variableQuadratique hour interco).xmax := by
  obtain ⟨xmin, xmax⟩ := study.variableQuadratique_bounds hour interco
  rw [xmin, xmax]
  unfold yearlyMean
  constructor
  · rw [← weightedMean_neg]
    apply weightedMean_mono fun year _ => study.getYearsWeight_nonneg year
    intro year performed
    exact (within year performed interco bound).1
  · apply weightedMean_mono fun year _ => study.getYearsWeight_nonneg year
    intro year performed
    exact (within year performed interco bound).2

theorem soldeRow_holds_iff (flows : YearlyFlows) (hour pays : Nat) (point : Nat → Rat) :
    (study.soldeRow flows hour pays).Holds point ↔
      study.bilanPays point pays =
        study.bilanPays (fun interco => study.yearlyMean fun year => flows year hour interco) pays := by
  unfold soldeRow Row.Holds
  dsimp only
  rw [termesDeSolde_value, averageBalance_eq]
  rfl

theorem bilanPays_no_area (none_ : study.network.nombreDePays = 0) (flux : Nat → Rat) (pays : Nat) :
    study.bilanPays flux pays = 0 := by
  have origine : study.network.intercosOrigine pays = [] := by
    apply List.eq_nil_iff_forall_not_mem.mpr
    intro interco listed
    have bound := study.network.origine_lt interco (Network.mem_intercosOrigine.mp listed).1
    exact Nat.not_lt_zero _ (none_ ▸ bound)
  have extremite : study.network.intercosExtremite pays = [] := by
    apply List.eq_nil_iff_forall_not_mem.mpr
    intro interco listed
    have bound := study.network.extremite_lt interco (Network.mem_intercosExtremite.mp listed).1
    exact Nat.not_lt_zero _ (none_ ▸ bound)
  rw [bilanPays_eq, origine, extremite, sub_self]

theorem soldeRow_last {point : Nat → Rat}
    (rows : ∀ row ∈ study.quadraticRows flows hour, row.Holds point) :
    (study.soldeRow flows hour (study.network.nombreDePays - 1)).Holds point := by
  rw [soldeRow_holds_iff]
  have others : ∀ pays ∈ Finset.range (study.network.nombreDePays - 1), study.bilanPays point pays =
      study.bilanPays (fun interco => study.yearlyMean fun year => flows year hour interco) pays := by
    intro pays listed
    rw [← soldeRow_holds_iff]
    exact rows _ (List.mem_map_of_mem (List.mem_range.mpr (Finset.mem_range.mp listed)))
  cases Nat.eq_zero_or_pos study.network.nombreDePays with
  | inl none_ => rw [study.bilanPays_no_area none_, study.bilanPays_no_area none_]
  | inr some_ =>
    have left := study.sum_bilanPays point
    have right := study.sum_bilanPays fun interco => study.yearlyMean fun year => flows year hour interco
    rw [← Nat.sub_add_cancel some_, Finset.sum_range_succ] at left right
    rw [Finset.sum_congr rfl others] at left
    exact add_left_cancel (left.trans right.symm)

theorem feasible_iff (within : study.WithinCapacities flows hour) :
    study.Feasible flows hour ↔ study.NarrowLinksLeanForwards hour := by
  have direct_nonneg (interco : Nat) : 0 ≤ study.yearlyMean (study.drawnDirect hour interco) :=
    study.yearlyMean_nonneg fun year => study.directCapacities_nonneg _ _ _
  have indirect_nonneg (interco : Nat) : 0 ≤ study.yearlyMean (study.drawnIndirect hour interco) :=
    study.yearlyMean_nonneg fun year => study.indirectCapacities_nonneg _ _ _
  constructor
  · intro feasible interco bound
    by_cases wide : zeroPourLesVariablesFixes ≤ study.yearlyMean (study.drawnDirect hour interco) +
        study.yearlyMean (study.drawnIndirect hour interco)
    · exact .inl wide
    · have fixed := (study.variableQuadratique_fixe_iff hour interco).mpr (not_le.mp wide)
      have below := (feasible.fixed interco bound fixed).2
      rw [study.variableQuadratique_x fixed, (study.variableQuadratique_bounds hour interco).2] at below
      right
      linarith
  · intro lean
    refine ⟨fun interco bound => study.yearlyMean_within within bound, ?_,
      fun point rows => study.soldeRow_last rows, ?_⟩
    · intro row listed
      obtain ⟨pays, -, rfl⟩ := List.mem_map.mp listed
      rw [soldeRow_holds_iff]
    · intro interco bound fixed
      obtain ⟨xmin, xmax⟩ := study.variableQuadratique_bounds hour interco
      have narrow := (study.variableQuadratique_fixe_iff hour interco).mp fixed
      rw [study.variableQuadratique_x fixed, xmin, xmax]
      have direct := direct_nonneg interco
      have indirect := indirect_nonneg interco
      cases lean interco bound with
      | inl wide => exact absurd wide (not_le.mpr narrow)
      | inr forwards => constructor <;> linarith

theorem zero_withinCapacities (hour : Nat) : study.WithinCapacities (fun _ _ _ => 0) hour := by
  intro year _ interco _
  exact ⟨neg_nonpos.mpr (study.indirectCapacities_nonneg _ _ _), study.directCapacities_nonneg _ _ _⟩

end

def narrowStudy : FlowQuadStudy where
  network :=
    { nombreDePays := 2
      nombreDInterconnexions := 1
      paysOrigineDeLInterconnexion := fun _ => 0
      paysExtremiteDeLInterconnexion := fun _ => 1
      origine_lt := Network.nord_lt
      extremite_lt := Network.sud_lt }
  nbYears := 1
  userPlaylist := false
  yearsFilter := fun _ => true
  yearsWeight := fun _ => 1
  directCapacities := fun _ => ⟨1, fun _ _ => 0⟩
  indirectCapacities := fun _ => ⟨1, fun _ _ => 1 / 2000000⟩
  timeseriesNumbers := fun _ _ => 0
  someYear := ⟨0, by decide, rfl, nofun⟩
  filter_of_no_playlist := fun _ _ _ => rfl
  yearsWeight_nonneg := fun _ => by decide
  directCapacities_nonneg := fun _ _ _ => le_refl 0
  indirectCapacities_nonneg := fun _ _ _ => by norm_num

end Antares.Optimisation.FlowQuadStudy
