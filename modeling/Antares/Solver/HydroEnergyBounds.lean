import Antares.Data.Matrix
import Antares.Library.Shares

/-! The energy that a reservoir may generate and pump on each day of a week: the daily targets between
their leeways, capped by the power of the day, then all reduced to the water of the week.
-/

set_option autoImplicit false

namespace Antares.Solver.HydroEnergyBounds

open Finset Library Data

/-- What the bounds of an area with a reservoir and modulable hydro power are made of. Loading and the
hydro management leave no negative value in them.
-/
structure HydroWeek where
  useHeuristicTarget : Bool
  useLeeway : Bool
  hardBoundsOnRuleCurves : Bool
  presenceDePompageModulable : Bool
  optimisationAuPasHebdomadaire : Bool
  suiviNiveauHoraire : Bool
  leewayLowerBound : ℚ
  leewayUpperBound : ℚ
  reservoirCapacity : ℚ
  pumpingEfficiency : ℚ
  genMaxP : Nat → ℚ
  genMaxE : Nat → ℚ
  pumpMaxP : Nat → ℚ
  pumpMaxE : Nat → ℚ
  minLvl : Nat → ℚ
  maxLvl : Nat → ℚ
  srcinflows : Nat → ℚ
  hydrauliqueModulableQuotidien : Nat → ℚ
  niveauInitialReservoir : ℚ
  weeklyGeneratingModulation : ℚ
  weeklyPumpingModulation : ℚ
  /-- The day of the year at a number of days from the start of the week. -/
  dayYear : Nat → Nat
  leewayLowerBound_nonneg : 0 ≤ leewayLowerBound
  leeway_le : leewayLowerBound ≤ leewayUpperBound
  pumpingEfficiency_nonneg : 0 ≤ pumpingEfficiency
  genMaxP_nonneg : ∀ day, 0 ≤ genMaxP day
  genMaxE_nonneg : ∀ day, 0 ≤ genMaxE day
  pumpMaxP_nonneg : ∀ day, 0 ≤ pumpMaxP day
  pumpMaxE_nonneg : ∀ day, 0 ≤ pumpMaxE day
  srcinflows_nonneg : ∀ day, 0 ≤ srcinflows day
  target_nonneg : ∀ day, 0 ≤ hydrauliqueModulableQuotidien day
  niveau_nonneg : 0 ≤ niveauInitialReservoir
  generatingModulation_nonneg : 0 ≤ weeklyGeneratingModulation
  pumpingModulation_nonneg : 0 ≤ weeklyPumpingModulation

structure EnergyBounds where
  minEnergieHydrau : Nat → ℚ
  maxEnergieHydrau : Nat → ℚ
  maxEnergiePompage : Nat → ℚ

namespace HydroWeek

variable (week : HydroWeek)

variable (j : Nat)

/-- `DGC * DGM` -/
def generatingCapacity : ℚ :=
  week.genMaxP (week.dayYear j) * week.genMaxE (week.dayYear j) * week.weeklyGeneratingModulation

def LUB : ℚ := if week.useLeeway then week.leewayUpperBound else 1

def LLB : ℚ := if week.useLeeway then week.leewayLowerBound else 1

/-- Upper and lower target of a day: the second test sees what the first one has changed. -/
def cappedTargets : ℚ × ℚ :=
  let targets := (week.hydrauliqueModulableQuotidien (week.dayYear j) * week.LUB,
    week.hydrauliqueModulableQuotidien (week.dayYear j) * week.LLB)
  let targets := if week.generatingCapacity j < targets.2 then (week.generatingCapacity j, week.generatingCapacity j) else targets
  if targets.2 < week.generatingCapacity j ∧ week.generatingCapacity j < targets.1 then (week.generatingCapacity j, targets.2)
  else targets

def WNI : ℚ := ∑ j ∈ range 7, week.srcinflows (week.dayYear j)

def WGU : ℚ := ∑ j ∈ range 7, (week.cappedTargets j).1

/-- The water of the week, over the rule curve at its end if that one is a hard bound. -/
def waterOfTheWeek : ℚ :=
  if week.hardBoundsOnRuleCurves then
    max 0 (week.niveauInitialReservoir - week.minLvl (week.dayYear 7) * week.reservoirCapacity + week.WNI)
  else week.niveauInitialReservoir + week.WNI

def DGU : ℚ :=
  if mathZero week.WGU then 0 else (week.cappedTargets j).1 * min week.WGU week.waterOfTheWeek / week.WGU

def DGL : ℚ := min (week.DGU j) (week.cappedTargets j).2

def DPC : ℚ := week.pumpMaxP (week.dayYear j) * week.pumpMaxE (week.dayYear j)

def WPU : ℚ := ∑ j ∈ range 7, week.DPC j

def U : ℚ := week.WPU * week.weeklyPumpingModulation * week.pumpingEfficiency

/-- The room left in the reservoir, under the rule curve at the end of the week if that one is a hard bound. -/
def roomLeft : ℚ :=
  if week.hardBoundsOnRuleCurves then
    max 0 (week.maxLvl (week.dayYear 7) * week.reservoirCapacity - (week.WNI + week.niveauInitialReservoir))
  else max 0 (week.reservoirCapacity - (week.WNI + week.niveauInitialReservoir))

def DPU : ℚ :=
  if mathZero week.U then 0 else week.DPC j * week.weeklyPumpingModulation * min week.U week.roomLeft / week.U

/-- The heuristic target is followed with a leeway, or with pumping and daily optimisations. -/
def boundedByTargets : Bool :=
  week.useHeuristicTarget && (week.useLeeway || (week.presenceDePompageModulable && !week.optimisationAuPasHebdomadaire))

def renseignement (bounds : EnergyBounds) : EnergyBounds :=
  let bounds :=
    if !week.useHeuristicTarget || (week.presenceDePompageModulable && week.optimisationAuPasHebdomadaire) then
      { bounds with
        minEnergieHydrau := fun j => if j < 7 then 0 else bounds.minEnergieHydrau j
        maxEnergieHydrau := fun j => if j < 7 then week.generatingCapacity j else bounds.maxEnergieHydrau j }
    else bounds
  let bounds :=
    if week.boundedByTargets then
      { bounds with
        minEnergieHydrau := fun j => if j < 7 then week.DGL j else bounds.minEnergieHydrau j
        maxEnergieHydrau := fun j => if j < 7 then week.DGU j else bounds.maxEnergieHydrau j }
    else bounds
  if week.presenceDePompageModulable then
    { bounds with
      maxEnergiePompage := fun j =>
        if j < 7 then
          if week.suiviNiveauHoraire then week.DPC j * week.weeklyPumpingModulation else week.DPU j
        else bounds.maxEnergiePompage j }
  else bounds

structure Physical (bounds : EnergyBounds) : Prop where
  generating : week.boundedByTargets = true → ∀ j < 7,
    0 ≤ bounds.minEnergieHydrau j ∧ bounds.minEnergieHydrau j ≤ bounds.maxEnergieHydrau j ∧
      bounds.maxEnergieHydrau j ≤ week.generatingCapacity j
  water : week.boundedByTargets = true → ∑ j ∈ range 7, bounds.maxEnergieHydrau j ≤ week.waterOfTheWeek
  pumping : week.presenceDePompageModulable = true → week.suiviNiveauHoraire = false → ∀ j < 7,
    bounds.maxEnergiePompage j ≤ week.DPC j * week.weeklyPumpingModulation
  room : week.presenceDePompageModulable = true → week.suiviNiveauHoraire = false →
    week.pumpingEfficiency * ∑ j ∈ range 7, bounds.maxEnergiePompage j ≤ week.roomLeft

/-! The condition, from the targets and the capacities alone. -/

def upperTarget : ℚ := week.hydrauliqueModulableQuotidien (week.dayYear j) * week.LUB

def lowerTarget : ℚ := week.hydrauliqueModulableQuotidien (week.dayYear j) * week.LLB

/-- The upper targets within the capacities, but for the days whose capacity is the lower target. -/
def upperTargets : ℚ :=
  ∑ j ∈ range 7, if week.generatingCapacity j = week.lowerTarget j then week.upperTarget j
    else min (week.generatingCapacity j) (week.upperTarget j)

/-- On a day whose capacity is its lower target, the upper one is within the capacity once it is reduced
to the water of the week.
-/
def UpperTargetsFit : Prop :=
  week.boundedByTargets = true → ∀ j < 7, week.generatingCapacity j = week.lowerTarget j →
    mathZero week.upperTargets = true ∨
      share week.upperTargets week.waterOfTheWeek (week.upperTarget j) ≤ week.generatingCapacity j

section
variable {week : HydroWeek}

variable (j : Nat)

theorem generatingCapacity_nonneg : 0 ≤ week.generatingCapacity j :=
  mul_nonneg (mul_nonneg (week.genMaxP_nonneg _) (week.genMaxE_nonneg _)) week.generatingModulation_nonneg

theorem lowerTarget_nonneg : 0 ≤ week.lowerTarget j := by
  refine mul_nonneg (week.target_nonneg _) ?_
  unfold LLB
  split_ifs
  · exact week.leewayLowerBound_nonneg
  · exact zero_le_one

theorem lowerTarget_le : week.lowerTarget j ≤ week.upperTarget j := by
  refine mul_le_mul_of_nonneg_left ?_ (week.target_nonneg _)
  unfold LLB LUB
  split_ifs
  · exact week.leeway_le
  · exact le_refl 1

theorem cappedTargets_eq : week.cappedTargets j =
    (if week.generatingCapacity j = week.lowerTarget j then week.upperTarget j
      else min (week.generatingCapacity j) (week.upperTarget j), min (week.generatingCapacity j) (week.lowerTarget j)) := by
  have ordered := @lowerTarget_le week j
  have lower : week.hydrauliqueModulableQuotidien (week.dayYear j) * week.LLB = week.lowerTarget j := rfl
  have upper : week.hydrauliqueModulableQuotidien (week.dayYear j) * week.LUB = week.upperTarget j := rfl
  unfold cappedTargets
  dsimp only
  rw [lower, upper]
  rcases lt_trichotomy (week.generatingCapacity j) (week.lowerTarget j) with below | same | above
  · rw [if_pos below, if_neg fun both => lt_irrefl _ both.1, if_neg below.ne, min_eq_left below.le,
      min_eq_left (below.le.trans ordered)]
  · rw [if_neg same.not_lt, if_neg fun both => both.1.ne same.symm, if_pos same, same, min_self]
  · rw [if_neg above.not_gt, if_neg above.ne', min_eq_right above.le]
    by_cases under : week.generatingCapacity j < week.upperTarget j
    · rw [if_pos ⟨above, under⟩, min_eq_left under.le]
    · rw [if_neg fun both => under both.2, min_eq_right (not_lt.mp under)]

theorem WGU_eq : week.WGU = week.upperTargets := by
  unfold WGU upperTargets
  exact Finset.sum_congr rfl fun j _ => congrArg Prod.fst (cappedTargets_eq j)

theorem cappedTargets_fst_nonneg : 0 ≤ (week.cappedTargets j).1 := by
  have upper := (lowerTarget_nonneg j).trans (@lowerTarget_le week j)
  rw [cappedTargets_eq]
  dsimp only
  split_ifs
  · exact upper
  · exact le_min (generatingCapacity_nonneg j) upper

theorem WGU_nonneg : 0 ≤ week.WGU := Finset.sum_nonneg fun j _ => cappedTargets_fst_nonneg j

theorem WNI_nonneg : 0 ≤ week.WNI := Finset.sum_nonneg fun _ _ => week.srcinflows_nonneg _

theorem waterOfTheWeek_nonneg : 0 ≤ week.waterOfTheWeek := by
  unfold waterOfTheWeek
  split_ifs
  · exact le_max_left _ _
  · exact add_nonneg week.niveau_nonneg WNI_nonneg

theorem pos_of_mathZero {value : ℚ} (some : mathZero value = false) (nonneg : 0 ≤ value) : 0 < value := by
  refine lt_of_le_of_ne nonneg fun none => ?_
  rw [← none] at some
  exact absurd some (by decide +kernel)

theorem DGU_nonneg : 0 ≤ week.DGU j := by
  unfold DGU
  split_ifs
  · exact le_refl 0
  · exact share_nonneg (cappedTargets_fst_nonneg j) WGU_nonneg waterOfTheWeek_nonneg

theorem DGL_nonneg : 0 ≤ week.DGL j := by
  refine le_min (DGU_nonneg j) ?_
  rw [cappedTargets_eq]
  exact le_min (generatingCapacity_nonneg j) (lowerTarget_nonneg j)

theorem sum_DGU_le : ∑ j ∈ range 7, week.DGU j ≤ week.waterOfTheWeek := by
  unfold DGU
  cases null : mathZero week.WGU with
  | true =>
    simp only [if_true, Finset.sum_const_zero]
    exact waterOfTheWeek_nonneg
  | false =>
    have total := pos_of_mathZero null WGU_nonneg
    have shares := sum_share (range 7) (fun j => (week.cappedTargets j).1) 1 week.waterOfTheWeek total.ne'
      (one_mul _)
    simp only [Bool.false_eq_true, if_false]
    rw [one_mul] at shares
    exact shares.trans_le (min_le_right _ _)

/-- The upper bound of a day is within its capacity, or is the reduced upper target of a day without a
capacity over the lower one.
-/
theorem DGU_le_iff : week.DGU j ≤ week.generatingCapacity j ↔
    (week.generatingCapacity j = week.lowerTarget j → mathZero week.upperTargets = true ∨
      share week.upperTargets week.waterOfTheWeek (week.upperTarget j) ≤ week.generatingCapacity j) := by
  have capacity := @generatingCapacity_nonneg week j
  unfold DGU
  rw [WGU_eq]
  cases null : mathZero week.upperTargets with
  | true => simp [capacity]
  | false =>
    have total := pos_of_mathZero null (WGU_eq ▸ WGU_nonneg)
    simp only [Bool.false_eq_true, if_false, false_or]
    change share week.upperTargets week.waterOfTheWeek (week.cappedTargets j).1 ≤ _ ↔ _
    by_cases same : week.generatingCapacity j = week.lowerTarget j
    · rw [cappedTargets_eq, forall_prop_of_true same]
      dsimp only
      rw [if_pos same]
    · refine iff_of_true ?_ fun equal => absurd equal same
      refine (share_le (cappedTargets_fst_nonneg j) total).trans ?_
      rw [cappedTargets_eq]
      dsimp only
      rw [if_neg same]
      exact min_le_left _ _

theorem DPC_nonneg : 0 ≤ week.DPC j := mul_nonneg (week.pumpMaxP_nonneg _) (week.pumpMaxE_nonneg _)

theorem U_nonneg : 0 ≤ week.U :=
  mul_nonneg (mul_nonneg (Finset.sum_nonneg fun j _ => DPC_nonneg j) week.pumpingModulation_nonneg) week.pumpingEfficiency_nonneg

theorem roomLeft_nonneg : 0 ≤ week.roomLeft := by
  unfold roomLeft
  split_ifs <;> exact le_max_left _ _

theorem DPU_le : week.DPU j ≤ week.DPC j * week.weeklyPumpingModulation := by
  have capacity := mul_nonneg (@DPC_nonneg week j) week.pumpingModulation_nonneg
  unfold DPU
  cases null : mathZero week.U with
  | true => exact capacity
  | false => exact share_le capacity (pos_of_mathZero null U_nonneg)

theorem efficiency_mul_sum_DPU_le : week.pumpingEfficiency * ∑ j ∈ range 7, week.DPU j ≤ week.roomLeft := by
  unfold DPU
  cases null : mathZero week.U with
  | true =>
    simp only [if_true, Finset.sum_const_zero, mul_zero]
    exact roomLeft_nonneg
  | false =>
    have adds : week.pumpingEfficiency * ∑ j ∈ range 7, week.DPC j * week.weeklyPumpingModulation = week.U := by
      rw [← Finset.sum_mul, mul_comm]
      rfl
    have shares := sum_share (range 7) (fun j => week.DPC j * week.weeklyPumpingModulation) week.pumpingEfficiency
      week.roomLeft (pos_of_mathZero null U_nonneg).ne' adds
    exact shares.trans_le (min_le_right _ _)

end

/-- The bounds are physical exactly when the upper targets fit, whatever the options. -/
theorem renseignement_physical_iff (bounds : EnergyBounds) :
    week.Physical (week.renseignement bounds) ↔ week.UpperTargetsFit := by
  have generating (followed : week.boundedByTargets = true) {j : Nat} (inWeek : j < 7) :
      (week.renseignement bounds).minEnergieHydrau j = week.DGL j ∧
        (week.renseignement bounds).maxEnergieHydrau j = week.DGU j := by
    unfold renseignement
    dsimp only
    rw [if_pos followed]
    constructor <;> split_ifs <;> exact if_pos inWeek
  have pumping (pumps : week.presenceDePompageModulable = true) (notHourly : week.suiviNiveauHoraire = false) {j : Nat}
      (inWeek : j < 7) : (week.renseignement bounds).maxEnergiePompage j = week.DPU j := by
    unfold renseignement
    dsimp only
    rw [if_pos pumps]
    simp only [inWeek, if_true, notHourly, Bool.false_eq_true, if_false]
  constructor
  · intro physical followed j inWeek
    have upper := (physical.generating followed j inWeek).2.2
    rw [(generating followed inWeek).2] at upper
    exact (DGU_le_iff j).mp upper
  · intro fit
    constructor
    · intro followed j inWeek
      rw [(generating followed inWeek).1, (generating followed inWeek).2]
      exact ⟨DGL_nonneg j, min_le_left _ _, (DGU_le_iff j).mpr (fit followed j inWeek)⟩
    · intro followed
      rw [Finset.sum_congr rfl fun j member => (generating followed (Finset.mem_range.mp member)).2]
      exact sum_DGU_le
    · intro pumps notHourly j inWeek
      rw [pumping pumps notHourly inWeek]
      exact DPU_le j
    · intro pumps notHourly
      rw [Finset.sum_congr rfl fun j member => pumping pumps notHourly (Finset.mem_range.mp member)]
      exact efficiency_mul_sum_DPU_le

/-- Ten units of capacity and of lower target on every day, twice as much above, and water enough. -/
def wideLeeway : HydroWeek where
  useHeuristicTarget := true
  useLeeway := true
  hardBoundsOnRuleCurves := false
  presenceDePompageModulable := false
  optimisationAuPasHebdomadaire := true
  suiviNiveauHoraire := false
  leewayLowerBound := 1
  leewayUpperBound := 2
  reservoirCapacity := 1000
  pumpingEfficiency := 1
  genMaxP := fun _ => 10
  genMaxE := fun _ => 1
  pumpMaxP := fun _ => 0
  pumpMaxE := fun _ => 0
  minLvl := fun _ => 0
  maxLvl := fun _ => 1
  srcinflows := fun _ => 0
  hydrauliqueModulableQuotidien := fun _ => 10
  niveauInitialReservoir := 1000
  weeklyGeneratingModulation := 1
  weeklyPumpingModulation := 1
  dayYear := fun j => j
  leewayLowerBound_nonneg := by decide +kernel
  leeway_le := by decide +kernel
  pumpingEfficiency_nonneg := by decide +kernel
  genMaxP_nonneg := fun _ => by decide +kernel
  genMaxE_nonneg := fun _ => by decide +kernel
  pumpMaxP_nonneg := fun _ => le_refl 0
  pumpMaxE_nonneg := fun _ => le_refl 0
  srcinflows_nonneg := fun _ => le_refl 0
  target_nonneg := fun _ => by decide +kernel
  niveau_nonneg := by decide +kernel
  generatingModulation_nonneg := by decide +kernel
  pumpingModulation_nonneg := by decide +kernel

/-- Twenty units may be generated on a day with a capacity of ten. -/
theorem wideLeeway_over_capacity :
    ¬wideLeeway.Physical (wideLeeway.renseignement ⟨fun _ => 0, fun _ => 0, fun _ => 0⟩) := by
  intro physical
  have upper := (physical.generating rfl 0 (by decide)).2.2
  exact absurd upper (by decide +kernel)

end HydroWeek

end Antares.Solver.HydroEnergyBounds
