import Antares.Library.Ranks
import Antares.Solver.RandomNumbers
import Mathlib.Algebra.Order.Ring.Abs
import Mathlib.Tactic.Linarith
import Mathlib.Tactic.Positivity
import Mathlib.Tactic.Ring

/-! The noises that are added to the costs of unsupplied and spilled energy and of thermal production, from the draws of a
year; and the hourly hydro noises of free modulations, where each draw gets the noise of its rank, except one whose
distance to the middle was drawn before.
-/

set_option autoImplicit false

namespace Antares.Solver

def noiseWithoutSpread (rnd : Rat) : Rat :=
  if rnd < 1 / 2 then 1 / 10 ^ 4 * (5 + 2 * rnd) else -(1 / 10 ^ 4) * (5 + 2 * (rnd - 1 / 2))

/-- The noise of unsupplied and of spilled energy: a small one is moved away from zero. -/
def energyNoise (spread rnd : Rat) : Rat :=
  if spread = 0 then noiseWithoutSpread rnd
  else
    let alea := (rnd - 1 / 2) * spread
    if |alea| < 5 / 10 ^ 4 then if 0 ≤ alea then alea + 5 / 10 ^ 4 else alea - 5 / 10 ^ 4
    else alea

/-- The noise of a cluster: it is the size of a small one that is compared with zero, not its sign. -/
def thermalNoise (spreadCost rnd : Rat) : Rat :=
  if spreadCost = 0 then noiseWithoutSpread rnd
  else
    let randomClusterProdCost := (rnd - 1 / 2) * spreadCost
    if |randomClusterProdCost| < 5 / 10 ^ 4 then
      if 0 ≤ |randomClusterProdCost| then randomClusterProdCost + 5 / 10 ^ 4 else randomClusterProdCost - 5 / 10 ^ 4
    else randomClusterProdCost

structure NoiseCluster where
  enabled : Bool
  areaWideIndex : Nat
  spreadCost : Rat

/-- An area as `PrepareRandomNumbers` reads it, its clusters in the order of `thermal.list.mapping`. -/
structure NoiseArea where
  spreadUnsuppliedEnergyCost : Rat
  unsuppliedEnergyCost : Rat
  spreadSpilledEnergyCost : Rat
  spilledEnergyCost : Rat
  clusters : List NoiseCluster

/-- What is written to `PROBLEME_HEBDO`, area by area. -/
structure NoiseProblem where
  coutDeDefaillancePositive : Nat → Rat
  coutDeDefaillanceNegative : Nat → Rat
  bruitSurCoutHydraulique : Nat → Nat → Rat
  penalisationSurSommeDesVariations : Nat → Rat
  penalisationSurVariationMax : Nat → Rat

def prepareCluster (area : Nat) (noises : Nat × Nat → Rat) (cluster : NoiseCluster) : Nat × Nat → Rat :=
  if cluster.enabled then
    Function.update noises (area, cluster.areaWideIndex)
      (thermalNoise cluster.spreadCost (noises (area, cluster.areaWideIndex)))
  else noises

variable (powerFluctuations : PowerFluctuations)

def hydroNoises (numbers : YearRandomNumbers) (area : Nat) : (Nat → Rat) × Rat × Rat :=
  match powerFluctuations with
  | .lssFreeModulations => (numbers.hydroCostsByArea_freeMod area, 5 / 10 ^ 4, 5 / 10 ^ 4)
  | .lssMinimizeRamping | .lssMinimizeExcursions =>
    let rnd := numbers.hydroCosts_rampingOrExcursion area
    (fun _ => 0, 1 / 100 * (1 + rnd / 10), 1 / 10 * (1 + rnd / 100))
  | .lssUnknown => (fun _ => 0, 1 / 10 ^ 4, 1 / 10 ^ 4)

def prepareArea (state : NoiseProblem × YearRandomNumbers) (area : NoiseArea × Nat) :
    NoiseProblem × YearRandomNumbers :=
  let (problem, numbers) := state
  let hydro := hydroNoises powerFluctuations numbers area.2
  ({ coutDeDefaillancePositive := Function.update problem.coutDeDefaillancePositive area.2
       (area.1.unsuppliedEnergyCost + energyNoise area.1.spreadUnsuppliedEnergyCost (numbers.unsuppliedEnergy area.2))
     coutDeDefaillanceNegative := Function.update problem.coutDeDefaillanceNegative area.2
       (area.1.spilledEnergyCost + energyNoise area.1.spreadSpilledEnergyCost (numbers.spilledEnergy area.2))
     bruitSurCoutHydraulique := Function.update problem.bruitSurCoutHydraulique area.2
       (fun hour => if hour < 8784 then hydro.1 hour else problem.bruitSurCoutHydraulique area.2 hour)
     penalisationSurSommeDesVariations := Function.update problem.penalisationSurSommeDesVariations area.2 hydro.2.1
     penalisationSurVariationMax := Function.update problem.penalisationSurVariationMax area.2 hydro.2.2 },
    { numbers with
      thermalNoisesByArea := area.1.clusters.foldl (prepareCluster area.2) numbers.thermalNoisesByArea })

def prepareRandomNumbers (areas : List NoiseArea) (problem : NoiseProblem)
    (numbers : YearRandomNumbers) : NoiseProblem × YearRandomNumbers :=
  areas.zipIdx.foldl (prepareArea powerFluctuations) (problem, numbers)

/-- The bounds that keep costs apart without moving them further than their spread asks for. -/
structure Apart (spread noise : Rat) : Prop where
  least : 5 / 10 ^ 4 ≤ |noise|
  most : |noise| ≤ max (6 / 10 ^ 4) (spread / 2 + 5 / 10 ^ 4)

section
variable {spread rnd : Rat} (drawn : 0 ≤ rnd ∧ rnd < 1)
include drawn

theorem noiseWithoutSpread_apart : Apart spread (noiseWithoutSpread rnd) := by
  unfold noiseWithoutSpread
  split_ifs with low
  · have size : |1 / 10 ^ 4 * (5 + 2 * rnd)| = 1 / 10 ^ 4 * (5 + 2 * rnd) := abs_of_pos (by linarith)
    constructor
    · rw [size]
      linarith
    · rw [size]
      exact le_max_of_le_left (by linarith)
  · have size : |-(1 / 10 ^ 4) * (5 + 2 * (rnd - 1 / 2))| = 1 / 10 ^ 4 * (5 + 2 * (rnd - 1 / 2)) := by
      rw [abs_of_neg (by linarith)]
      ring
    constructor
    · rw [size]
      linarith
    · rw [size]
      exact le_max_of_le_left (by linarith)

variable (nonneg : 0 ≤ spread)
include nonneg

theorem abs_alea_le : |(rnd - 1 / 2) * spread| ≤ spread / 2 := by
  have centred : |rnd - 1 / 2| ≤ 1 / 2 := abs_le.mpr ⟨by linarith, by linarith⟩
  calc |(rnd - 1 / 2) * spread| = |rnd - 1 / 2| * spread := by rw [abs_mul, abs_of_nonneg nonneg]
    _ ≤ 1 / 2 * spread := mul_le_mul_of_nonneg_right centred nonneg
    _ = spread / 2 := by ring

theorem energyNoise_apart : Apart spread (energyNoise spread rnd) := by
  have size := abs_alea_le drawn nonneg
  unfold energyNoise
  dsimp only
  split_ifs with none small positive
  · exact noiseWithoutSpread_apart drawn
  · have moved : |(rnd - 1 / 2) * spread + 5 / 10 ^ 4| = (rnd - 1 / 2) * spread + 5 / 10 ^ 4 := abs_of_pos (by linarith)
    rw [abs_of_nonneg positive] at size
    constructor
    · rw [moved]
      linarith
    · rw [moved]
      exact le_max_of_le_right (by linarith)
  · have negative := not_le.mp positive
    have moved : |(rnd - 1 / 2) * spread - 5 / 10 ^ 4| = -((rnd - 1 / 2) * spread) + 5 / 10 ^ 4 := by
      rw [abs_of_neg (by linarith)]
      ring
    rw [abs_of_neg negative] at size
    constructor
    · rw [moved]
      linarith
    · rw [moved]
      exact le_max_of_le_right (by linarith)
  · exact ⟨not_lt.mp small, le_max_of_le_right (by linarith)⟩

theorem thermalNoise_apart_iff : Apart spread (thermalNoise spread rnd) ↔
    ¬(-(5 / 10 ^ 4) < (rnd - 1 / 2) * spread ∧ (rnd - 1 / 2) * spread < 0) := by
  have size := abs_alea_le drawn nonneg
  unfold thermalNoise
  dsimp only
  split_ifs with none small positive
  · rw [none, mul_zero]
    exact iff_of_true (noiseWithoutSpread_apart drawn) fun both => lt_irrefl _ both.2
  · obtain ⟨low, high⟩ := abs_lt.mp small
    have moved : |(rnd - 1 / 2) * spread + 5 / 10 ^ 4| = (rnd - 1 / 2) * spread + 5 / 10 ^ 4 := abs_of_pos (by linarith)
    constructor
    · intro apart both
      have least := apart.least
      rw [moved] at least
      linarith
    · intro either
      have nonneg' : 0 ≤ (rnd - 1 / 2) * spread := not_lt.mp fun negative => either ⟨low, negative⟩
      rw [abs_of_nonneg nonneg'] at size
      constructor
      · rw [moved]
        linarith
      · rw [moved]
        exact le_max_of_le_right (by linarith)
  · exact absurd (abs_nonneg _) positive
  · refine iff_of_true ⟨not_lt.mp small, le_max_of_le_right (by linarith)⟩ fun both => small ?_
    exact abs_lt.mpr ⟨both.1, both.2.trans (by norm_num)⟩

end

theorem prepareClusters_other (area : Nat) (clusters : List NoiseCluster) (noises : Nat × Nat → Rat) {place : Nat × Nat}
    (other : ∀ cluster ∈ clusters, place ≠ (area, cluster.areaWideIndex)) :
    clusters.foldl (prepareCluster area) noises place = noises place := by
  induction clusters generalizing noises with
  | nil => rfl
  | cons cluster clusters later =>
    obtain ⟨first, rest⟩ := List.forall_mem_cons.mp other
    rw [List.foldl_cons, later _ rest]
    unfold prepareCluster
    split_ifs
    · exact Function.update_of_ne first _ _
    · rfl

theorem prepareClusters_apply (area : Nat) {clusters : List NoiseCluster}
    (distinct : (clusters.map NoiseCluster.areaWideIndex).Nodup) (noises : Nat × Nat → Rat) {cluster : NoiseCluster}
    (member : cluster ∈ clusters) (enabled : cluster.enabled = true) :
    clusters.foldl (prepareCluster area) noises (area, cluster.areaWideIndex) =
      thermalNoise cluster.spreadCost (noises (area, cluster.areaWideIndex)) := by
  induction clusters generalizing noises with
  | nil => exact absurd member List.not_mem_nil
  | cons first clusters later =>
    obtain ⟨absent, rest⟩ := List.nodup_cons.mp distinct
    rw [List.foldl_cons]
    rcases List.mem_cons.mp member with rfl | member
    · have kept : ∀ other ∈ clusters, (area, cluster.areaWideIndex) ≠ (area, other.areaWideIndex) := fun other inside same =>
        absent (List.mem_map.mpr ⟨other, inside, (congrArg Prod.snd same).symm⟩)
      rw [prepareClusters_other area clusters _ kept]
      unfold prepareCluster
      rw [if_pos enabled, Function.update_self]
    · have different : (area, cluster.areaWideIndex) ≠ (area, first.areaWideIndex) := fun same =>
        absent (List.mem_map.mpr ⟨cluster, member, congrArg Prod.snd same⟩)
      have before : prepareCluster area noises first (area, cluster.areaWideIndex) = noises (area, cluster.areaWideIndex) := by
        unfold prepareCluster
        split_ifs
        · exact Function.update_of_ne different _ _
        · rfl
      rw [later rest _ member, before]

section
variable {powerFluctuations : PowerFluctuations} {area : NoiseArea × Nat} {listed : List (NoiseArea × Nat)}
  {problem : NoiseProblem} {numbers : YearRandomNumbers}

structure Prepared (area : NoiseArea × Nat) (numbers : YearRandomNumbers) (result : NoiseProblem × YearRandomNumbers) : Prop where
  unsupplied : result.1.coutDeDefaillancePositive area.2 = area.1.unsuppliedEnergyCost +
    energyNoise area.1.spreadUnsuppliedEnergyCost (numbers.unsuppliedEnergy area.2)
  spilled : result.1.coutDeDefaillanceNegative area.2 = area.1.spilledEnergyCost +
    energyNoise area.1.spreadSpilledEnergyCost (numbers.spilledEnergy area.2)
  thermal : ∀ cluster ∈ area.1.clusters, cluster.enabled = true →
    result.2.thermalNoisesByArea (area.2, cluster.areaWideIndex) =
      thermalNoise cluster.spreadCost (numbers.thermalNoisesByArea (area.2, cluster.areaWideIndex))

theorem prepareArea_prepared (distinct : (area.1.clusters.map NoiseCluster.areaWideIndex).Nodup) :
    Prepared area numbers (prepareArea powerFluctuations (problem, numbers) area) where
  unsupplied := Function.update_self _ _ _
  spilled := Function.update_self _ _ _
  thermal := fun _ member enabled => prepareClusters_apply area.2 distinct numbers.thermalNoisesByArea member enabled

theorem thermal_prepareArea_other {other : NoiseArea × Nat} (different : area.2 ≠ other.2) (index : Nat) :
    (prepareArea powerFluctuations (problem, numbers) other).2.thermalNoisesByArea (area.2, index) =
      numbers.thermalNoisesByArea (area.2, index) :=
  prepareClusters_other other.2 other.1.clusters numbers.thermalNoisesByArea
    fun _ _ same => different (congrArg Prod.fst same)

theorem foldl_prepareArea_prepared (absent : area.2 ∉ listed.map Prod.snd) {start : YearRandomNumbers}
    (prepared : Prepared area start (problem, numbers)) :
    Prepared area start (listed.foldl (prepareArea powerFluctuations) (problem, numbers)) := by
  induction listed generalizing problem numbers with
  | nil => exact prepared
  | cons other listed later =>
    obtain ⟨different, rest⟩ := not_or.mp (fun either => absent (List.mem_cons.mpr either))
    apply later rest
    constructor
    · exact (Function.update_of_ne different _ _).trans prepared.unsupplied
    · exact (Function.update_of_ne different _ _).trans prepared.spilled
    · intro cluster member enabled
      exact (thermal_prepareArea_other different _).trans (prepared.thermal cluster member enabled)

theorem prepared_of_mem (places : (listed.map Prod.snd).Nodup) (member : area ∈ listed)
    (distinct : (area.1.clusters.map NoiseCluster.areaWideIndex).Nodup) :
    Prepared area numbers (listed.foldl (prepareArea powerFluctuations) (problem, numbers)) := by
  induction listed generalizing problem numbers with
  | nil => exact absurd member List.not_mem_nil
  | cons first listed later =>
    obtain ⟨absent, rest⟩ := List.nodup_cons.mp places
    rw [List.foldl_cons]
    rcases List.mem_cons.mp member with rfl | member
    · exact foldl_prepareArea_prepared absent (prepareArea_prepared distinct)
    · have different : area.2 ≠ first.2 := fun same => absent (same ▸ List.mem_map_of_mem member)
      have prepared := @later (prepareArea powerFluctuations (problem, numbers) first).1
        (prepareArea powerFluctuations (problem, numbers) first).2 rest member
      constructor
      · exact prepared.unsupplied
      · exact prepared.spilled
      · intro cluster inside enabled
        have same := @thermal_prepareArea_other powerFluctuations area problem numbers first different cluster.areaWideIndex
        rw [← same]
        exact prepared.thermal cluster inside enabled

end

structure NoiseArea.WellFormed (area : NoiseArea) : Prop where
  unsupplied : 0 ≤ area.spreadUnsuppliedEnergyCost
  spilled : 0 ≤ area.spreadSpilledEnergyCost
  thermal : ∀ cluster ∈ area.clusters, 0 ≤ cluster.spreadCost
  distinct : (area.clusters.map NoiseCluster.areaWideIndex).Nodup

/-- The draws of a year, all of them in `[0, 1)`. -/
structure YearRandomNumbers.Drawn (numbers : YearRandomNumbers) : Prop where
  unsupplied : ∀ area, 0 ≤ numbers.unsuppliedEnergy area ∧ numbers.unsuppliedEnergy area < 1
  spilled : ∀ area, 0 ≤ numbers.spilledEnergy area ∧ numbers.spilledEnergy area < 1
  thermal : ∀ place, 0 ≤ numbers.thermalNoisesByArea place ∧ numbers.thermalNoisesByArea place < 1

structure NoisesApart (area : NoiseArea × Nat) (result : NoiseProblem × YearRandomNumbers) : Prop where
  unsupplied : Apart area.1.spreadUnsuppliedEnergyCost
    (result.1.coutDeDefaillancePositive area.2 - area.1.unsuppliedEnergyCost)
  spilled : Apart area.1.spreadSpilledEnergyCost (result.1.coutDeDefaillanceNegative area.2 - area.1.spilledEnergyCost)
  thermal : ∀ cluster ∈ area.1.clusters, cluster.enabled = true →
    Apart cluster.spreadCost (result.2.thermalNoisesByArea (area.2, cluster.areaWideIndex))

/-- The draw of an enabled cluster falls in the stretch below zero that is moved the wrong way. -/
def MovedPastZero (area : NoiseArea × Nat) (numbers : YearRandomNumbers) : Prop :=
  ∃ cluster ∈ area.1.clusters, cluster.enabled = true ∧
    -(5 / 10 ^ 4) < (numbers.thermalNoisesByArea (area.2, cluster.areaWideIndex) - 1 / 2) * cluster.spreadCost ∧
    (numbers.thermalNoisesByArea (area.2, cluster.areaWideIndex) - 1 / 2) * cluster.spreadCost < 0

def areaOfCluster (cluster : NoiseCluster) : NoiseArea where
  spreadUnsuppliedEnergyCost := 0
  unsuppliedEnergyCost := 0
  spreadSpilledEnergyCost := 0
  spilledEnergyCost := 0
  clusters := [cluster]

theorem wellFormed_areaOfCluster {cluster : NoiseCluster} (nonneg : 0 ≤ cluster.spreadCost) :
    ∀ area ∈ [areaOfCluster cluster], area.WellFormed := by
  intro area member
  rw [List.mem_singleton.mp member]
  refine ⟨le_rfl, le_rfl, fun other inside => ?_, List.nodup_cons.mpr ⟨List.not_mem_nil, List.nodup_nil⟩⟩
  rwa [List.mem_singleton.mp inside]

def noNoises : NoiseProblem where
  coutDeDefaillancePositive := 0
  coutDeDefaillanceNegative := 0
  bruitSurCoutHydraulique := 0
  penalisationSurSommeDesVariations := 0
  penalisationSurVariationMax := 0

def sameDraws (rnd : Rat) : YearRandomNumbers where
  nbClustersByArea := 0
  thermalNoisesByArea := fun _ => rnd
  reservoirLevels := 0
  unsuppliedEnergy := fun _ => rnd
  spilledEnergy := fun _ => rnd
  hydroCostsByArea_freeMod := 0
  hydroCosts_rampingOrExcursion := 0

end Antares.Solver

namespace Antares.Solver

open Library

section
variable (hours : Nat) (draws : Nat → Rat)

def distance (hour : Nat) : Rat := |draws hour - 1 / 2|

def distances : Finset Rat := (Finset.range hours).image (distance draws)

def noiseOfRank (rank : Nat) : Rat := 5 * (1 / 10 ^ 4) * (1 + (rank : Rat) / 8784)

/-- The noises are spread by rank, away from zero and on the side of their draws. -/
structure Spread (noise : Nat → Rat) : Prop where
  bounds : ∀ hour < hours, 5 / 10 ^ 4 ≤ |noise hour| ∧ |noise hour| < 1 / 10 ^ 3
  sign : ∀ hour < hours, noise hour < 0 ↔ draws hour < 1 / 2
  order : ∀ hour < hours, ∀ other < hours, distance draws hour < distance draws other → |noise hour| < |noise other|
  ranks : Set.InjOn (distance draws) (Set.Iio hours) →
    ∃ rank : Nat → Nat, Set.BijOn rank (Set.Iio hours) (Set.Iio hours) ∧ ∀ hour < hours, |noise hour| = noiseOfRank (rank hour)

/-- A distance that lies where its rank would put it: between the noises of the smaller and of the
larger distances.
-/
structure InPlace (x : Rat) : Prop where
  least : 5 / 10 ^ 4 ≤ x
  most : x < 1 / 10 ^ 3
  above : ∀ y ∈ distances hours draws, y < x → noiseOfRank (Ranks.rank (distances hours draws) y) < x
  below : ∀ y ∈ distances hours draws, x < y → x < noiseOfRank (Ranks.rank (distances hours draws) y)

/-- What has the distance of an earlier draw is in its place by chance. -/
def RepeatsInPlace : Prop :=
  ∀ hour < hours, (∃ earlier < hour, distance draws earlier = distance draws hour) → InPlace hours draws (distance draws hour)

end

theorem noiseOfRank_lt {rank rank' : Nat} (less : rank < rank') : noiseOfRank rank < noiseOfRank rank' := by
  have : (rank : Rat) < rank' := by exact_mod_cast less
  unfold noiseOfRank
  linarith

theorem noiseOfRank_bounds {rank : Nat} (bound : rank < 8784) :
    5 / 10 ^ 4 ≤ noiseOfRank rank ∧ noiseOfRank rank < 1 / 10 ^ 3 := by
  have upper : (rank : Rat) < 8784 := by exact_mod_cast bound
  have lower : (0 : Rat) ≤ rank := Nat.cast_nonneg rank
  unfold noiseOfRank
  constructor
  · linarith
  · linarith

theorem noiseOfRank_pos (rank : Nat) : 0 < noiseOfRank rank := by
  have lower : (0 : Rat) ≤ rank := Nat.cast_nonneg rank
  unfold noiseOfRank
  positivity

theorem insertHydroCostNoise_eq (noise : HydroCostNoise) (set : List HydroCostNoise) :
    insertHydroCostNoise noise set = Ranks.insertNew (fun noise => |noise.value|) noise set := by
  induction set with
  | nil => rfl
  | cons other others later => rw [insertHydroCostNoise, Ranks.insertNew, later]

section
variable {hours : Nat} {draws : Nat → Rat} (noise : Nat → Rat)

def HydroCostNoise.ofDraw (draws : Nat → Rat) (hour : Nat) : HydroCostNoise := ⟨draws hour - 1 / 2, hour⟩

theorem spreadHydroCostNoises_eq : ∃ set, set = Ranks.collected (fun noise : HydroCostNoise => |noise.value|)
      ((List.range hours).map (HydroCostNoise.ofDraw draws)) ∧
    spreadHydroCostNoises ((List.range hours).map fun hour => (hour, draws hour)) noise =
      storeAll (fun (noise : HydroCostNoise) (rank : Nat) memory => Function.update memory noise.index
        (if noise.value < 0 then -noiseOfRank rank else noiseOfRank rank)) set.zipIdx
        (storeAll (fun (hour : Nat) (value : Rat) memory => Function.update memory hour value)
          ((List.range hours).map fun hour => (hour, draws hour - 1 / 2)) noise) := by
  have insert : (fun set noise => insertHydroCostNoise noise set) =
      fun set noise => Ranks.insertNew (fun noise : HydroCostNoise => |noise.value|) noise set := by
    funext set noise
    exact insertHydroCostNoise_eq noise set
  have centred : ((List.range hours).map fun hour => (hour, draws hour)).map (fun draw => HydroCostNoise.mk (draw.2 - 1 / 2) draw.1) =
      (List.range hours).map (HydroCostNoise.ofDraw draws) := by
    rw [List.map_map]
    rfl
  have spread : (fun (noise : HydroCostNoise) (rank : Nat) (memory : Nat → Rat) => Function.update memory noise.index
      (if noise.value < 0 then -5 * (1 / 10 ^ 4) * (1 + (rank : Rat) / 8784) else 5 * (1 / 10 ^ 4) * (1 + (rank : Rat) / 8784))) =
      fun noise rank memory => Function.update memory noise.index
        (if noise.value < 0 then -noiseOfRank rank else noiseOfRank rank) := by
    funext noise rank memory
    have negative : -5 * (1 / 10 ^ 4) * (1 + (rank : Rat) / 8784) = -noiseOfRank rank := by
      unfold noiseOfRank
      ring
    rw [negative]
    rfl
  refine ⟨_, rfl, ?_⟩
  unfold spreadHydroCostNoises
  dsimp only
  rw [insert, centred, spread, List.map_map]
  rfl

variable {hour : Nat}

theorem mem_zipIdx_collected (inside : hour < hours)
    (first : ∀ earlier < hour, distance draws earlier ≠ distance draws hour) :
    (HydroCostNoise.ofDraw draws hour, Ranks.rank (distances hours draws) (distance draws hour)) ∈
      (Ranks.collected (fun noise : HydroCostNoise => |noise.value|)
        ((List.range hours).map (HydroCostNoise.ofDraw draws))).zipIdx := by
  have member := (@Ranks.mem_collected _ _ _ (fun noise : HydroCostNoise => |noise.value|) (HydroCostNoise.ofDraw draws) hours
    (HydroCostNoise.ofDraw draws hour)).mpr ⟨hour, inside, rfl, first⟩
  obtain ⟨place, stands⟩ := List.mem_iff_getElem?.mp member
  have listed := (@List.mem_zipIdx_iff_getElem? _ (HydroCostNoise.ofDraw draws hour, place) _).mpr stands
  have keys : (((List.range hours).map (HydroCostNoise.ofDraw draws)).map fun noise => |noise.value|).toFinset = distances hours draws := by
    ext k
    simp [distances, distance, HydroCostNoise.ofDraw]
  have rank := Ranks.rank_of_mem_zipIdx listed
  rw [keys] at rank
  rw [← rank] at listed
  exact listed

theorem spreadHydroCostNoises_apply (inside : hour < hours) :
    spreadHydroCostNoises ((List.range hours).map fun hour => (hour, draws hour)) noise hour =
      if ∃ earlier < hour, distance draws earlier = distance draws hour then draws hour - 1 / 2
      else if draws hour < 1 / 2 then -noiseOfRank (Ranks.rank (distances hours draws) (distance draws hour))
      else noiseOfRank (Ranks.rank (distances hours draws) (distance draws hour)) := by
  obtain ⟨set, kept, spread⟩ := @spreadHydroCostNoises_eq hours draws noise
  have members {other : HydroCostNoise} (member : other ∈ set) : ∃ place < hours, other = HydroCostNoise.ofDraw draws place ∧
      ∀ earlier < place, distance draws earlier ≠ distance draws place := Ranks.mem_collected.mp (kept ▸ member)
  rw [spread]
  by_cases repeated : ∃ earlier < hour, distance draws earlier = distance draws hour
  · have absent : ∀ pair ∈ set.zipIdx, pair.1.index ≠ hour := by
      intro pair member same
      obtain ⟨place, -, shape, first⟩ := members (List.fst_mem_of_mem_zipIdx member)
      rw [shape] at same
      obtain rfl : place = hour := same
      obtain ⟨earlier, before, equal⟩ := repeated
      exact first earlier before equal
    have nodup : (((List.range hours).map fun hour => (hour, draws hour - 1 / 2)).map fun pair => pair.1).Nodup := by
      rw [List.map_map]
      exact (List.map_id (List.range hours)).symm ▸ List.nodup_range
    have centred := @storeAll_update_of_mem _ _ _ _ _ (fun hour : Nat => hour) (fun (_ : Nat) (value : Rat) => value) _ noise
      nodup hour (draws hour - 1 / 2) (List.mem_map.mpr ⟨hour, List.mem_range.mpr inside, rfl⟩)
    rw [if_pos repeated]
    exact (storeAll_update_of_not_mem _ absent).trans centred
  · have first : ∀ earlier < hour, distance draws earlier ≠ distance draws hour := fun earlier before equal =>
      repeated ⟨earlier, before, equal⟩
    have member := @mem_zipIdx_collected hours draws hour inside first
    rw [← kept] at member
    have distinct : (set.zipIdx.map fun pair => pair.1.index).Nodup := by
      have sorted : Ranks.Sorted (fun noise : HydroCostNoise => |noise.value|) set := kept ▸ Ranks.sorted_collected _
      have indices : (set.map HydroCostNoise.index).Nodup := by
        apply List.Nodup.map_on _ (sorted.imp fun less same => absurd (congrArg (fun noise => |noise.value|) same) less.ne)
        intro x inside y inside' same
        obtain ⟨place, -, rfl, -⟩ := members inside
        obtain ⟨place', -, rfl, -⟩ := members inside'
        exact congrArg (HydroCostNoise.ofDraw draws) same
      have shape : (set.zipIdx.map fun pair => pair.1.index) = (set.zipIdx.map Prod.fst).map HydroCostNoise.index := by
        rw [List.map_map]
        rfl
      rwa [shape, List.zipIdx_map_fst]
    rw [if_neg repeated]
    have side : draws hour - 1 / 2 < 0 ↔ draws hour < 1 / 2 := sub_neg
    have stored (memory : Nat → Rat) := @storeAll_update_of_mem _ _ _ _ _ HydroCostNoise.index
      (fun (noise : HydroCostNoise) (rank : Nat) => if noise.value < 0 then -noiseOfRank rank else noiseOfRank rank)
      _ memory distinct _ _ member
    refine (stored _).trans ?_
    simp only [HydroCostNoise.ofDraw, side]

theorem spread_abs (inside : hour < hours)
    (first : ¬∃ earlier < hour, distance draws earlier = distance draws hour) :
    |spreadHydroCostNoises ((List.range hours).map fun hour => (hour, draws hour)) noise hour| =
      noiseOfRank (Ranks.rank (distances hours draws) (distance draws hour)) := by
  rw [spreadHydroCostNoises_apply noise inside, if_neg first]
  split_ifs
  · rw [abs_neg, abs_of_pos (noiseOfRank_pos _)]
  · exact abs_of_pos (noiseOfRank_pos _)

theorem spread_abs_of_repeated (inside : hour < hours)
    (repeated : ∃ earlier < hour, distance draws earlier = distance draws hour) :
    |spreadHydroCostNoises ((List.range hours).map fun hour => (hour, draws hour)) noise hour| = distance draws hour := by
  rw [spreadHydroCostNoises_apply noise inside, if_pos repeated]
  rfl

theorem mem_distances (inside : hour < hours) : distance draws hour ∈ distances hours draws :=
  Finset.mem_image_of_mem _ (Finset.mem_range.mpr inside)

theorem rank_lt_hours (inside : hour < hours) :
    Ranks.rank (distances hours draws) (distance draws hour) < hours := by
  have few : (distances hours draws).card ≤ hours := Finset.card_image_le.trans (Finset.card_range hours).le
  exact (Ranks.rank_lt_card (mem_distances inside)).trans_le few

theorem exists_first (draws : Nat → Rat) (hour : Nat) : ∃ first ≤ hour, distance draws first = distance draws hour ∧
    ¬∃ earlier < first, distance draws earlier = distance draws first := by
  classical
  have some : ∃ first, distance draws first = distance draws hour := ⟨hour, rfl⟩
  refine ⟨Nat.find some, Nat.find_le rfl, Nat.find_spec some, fun ⟨earlier, before, same⟩ => ?_⟩
  exact Nat.find_min some before (same.trans (Nat.find_spec some))

/-- Noises by rank where a distance is first drawn, and the distance itself where it is drawn again. -/
structure RankedAtFirst (hours : Nat) (draws spread : Nat → Rat) : Prop where
  ofFirst : ∀ hour < hours, (¬∃ earlier < hour, distance draws earlier = distance draws hour) →
    |spread hour| = noiseOfRank (Ranks.rank (distances hours draws) (distance draws hour))
  ofRepeated : ∀ hour < hours, (∃ earlier < hour, distance draws earlier = distance draws hour) →
    |spread hour| = distance draws hour

theorem spread_rankedAtFirst :
    RankedAtFirst hours draws (spreadHydroCostNoises ((List.range hours).map fun hour => (hour, draws hour)) noise) where
  ofFirst _ := spread_abs noise
  ofRepeated _ := spread_abs_of_repeated noise

section
variable {spread : Nat → Rat} (ranked : RankedAtFirst hours draws spread)
include ranked

theorem RankedAtFirst.repeatsInPlace (isSpread : Spread hours draws spread) : RepeatsInPlace hours draws := by
  intro hour inside repeated
  have size := ranked.ofRepeated hour inside repeated
  obtain ⟨least, most⟩ := isSpread.bounds hour inside
  rw [size] at least most
  have between {y : Rat} (member : y ∈ distances hours draws) : ∃ other < hours, distance draws other = y ∧
      |spread other| = noiseOfRank (Ranks.rank (distances hours draws) y) := by
    obtain ⟨any, listed, rfl⟩ := Finset.mem_image.mp member
    obtain ⟨first, before, same, isFirst⟩ := exists_first draws any
    have firstInside := before.trans_lt (Finset.mem_range.mp listed)
    refine ⟨first, firstInside, same, ?_⟩
    rw [ranked.ofFirst first firstInside isFirst, same]
  refine ⟨least, most, fun y member less => ?_, fun y member less => ?_⟩
  · obtain ⟨other, otherInside, same, otherSize⟩ := between member
    have ordered := isSpread.order other otherInside hour inside (same ▸ less)
    rwa [otherSize, size] at ordered
  · obtain ⟨other, otherInside, same, otherSize⟩ := between member
    have ordered := isSpread.order hour inside other otherInside (same ▸ less)
    rwa [otherSize, size] at ordered

variable (inPlace : RepeatsInPlace hours draws)
include inPlace

theorem RankedAtFirst.bounds (few : hours ≤ 8784) {hour : Nat} (inside : hour < hours) :
    5 / 10 ^ 4 ≤ |spread hour| ∧ |spread hour| < 1 / 10 ^ 3 := by
  by_cases repeated : ∃ earlier < hour, distance draws earlier = distance draws hour
  · rw [ranked.ofRepeated hour inside repeated]
    exact ⟨(inPlace hour inside repeated).least, (inPlace hour inside repeated).most⟩
  · rw [ranked.ofFirst hour inside repeated]
    exact noiseOfRank_bounds ((rank_lt_hours inside).trans_le few)

theorem RankedAtFirst.order {hour other : Nat} (inside : hour < hours) (otherInside : other < hours)
    (less : distance draws hour < distance draws other) : |spread hour| < |spread other| := by
  by_cases repeated : ∃ earlier < hour, distance draws earlier = distance draws hour
  · rw [ranked.ofRepeated hour inside repeated]
    by_cases again : ∃ earlier < other, distance draws earlier = distance draws other
    · rwa [ranked.ofRepeated other otherInside again]
    · rw [ranked.ofFirst other otherInside again]
      exact (inPlace hour inside repeated).below _ (mem_distances otherInside) less
  · rw [ranked.ofFirst hour inside repeated]
    by_cases again : ∃ earlier < other, distance draws earlier = distance draws other
    · rw [ranked.ofRepeated other otherInside again]
      exact (inPlace other otherInside again).above _ (mem_distances inside) less
    · rw [ranked.ofFirst other otherInside again]
      exact noiseOfRank_lt (Ranks.rank_lt_rank (mem_distances inside) less)

end

theorem spread_iff (few : hours ≤ 8784) :
    Spread hours draws (spreadHydroCostNoises ((List.range hours).map fun hour => (hour, draws hour)) noise) ↔
      RepeatsInPlace hours draws := by
  have ranked := @spread_rankedAtFirst hours draws noise
  constructor
  · exact ranked.repeatsInPlace
  · intro inPlace
    constructor
    · exact fun hour inside => ranked.bounds inPlace few inside
    · intro hour inside
      rw [spreadHydroCostNoises_apply noise inside]
      split_ifs with repeated negative
      · exact sub_neg
      · exact iff_of_true (neg_lt_zero.mpr (noiseOfRank_pos _)) negative
      · exact iff_of_false (noiseOfRank_pos _).not_gt negative
    · exact fun hour inside other otherInside => ranked.order inPlace inside otherInside
    · intro distinct
      -- distances that all differ are all first draws, so their ranks run through the hours
      have maps : Set.MapsTo (fun hour => Ranks.rank (distances hours draws) (distance draws hour)) (Set.Iio hours) (Set.Iio hours) :=
        fun hour inside => rank_lt_hours inside
      have injective : Set.InjOn (fun hour => Ranks.rank (distances hours draws) (distance draws hour)) (Set.Iio hours) :=
        fun hour inside other otherInside same =>
          distinct inside otherInside (Ranks.rank_injOn (mem_distances inside) (mem_distances otherInside) same)
      refine ⟨_, ⟨maps, injective, ?_⟩, fun hour inside => ranked.ofFirst hour inside ?_⟩
      · rw [← Finset.coe_range] at maps injective ⊢
        exact Finset.surjOn_of_injOn_of_card_le _ maps injective le_rfl
      · intro ⟨earlier, before, same⟩
        exact before.ne (distinct (before.trans inside) inside same)

end

theorem drawAll_range' {β : Type} {draw : RandomStream → Option (β × RandomStream)} {width : Nat} {drawn : RandomStream → β}
    (draws : ∀ random, draw random = some (drawn random, fun position => random (position + width))) (start count : Nat)
    (random : RandomStream) : drawAll (fun _ : Nat => draw) (List.range' start count) random =
      some ((List.range' start count).map fun item => (item, drawn fun position => random (position + width * (item - start))),
        fun position => random (position + width * count)) := by
  induction count generalizing start random with
  | zero => rfl
  | succ count later =>
    have shifted : ∀ item ∈ List.range' (start + 1) count, (item, drawn fun position => random (position + width * (item - (start + 1)) + width)) =
        (item, drawn fun position => random (position + width * (item - start))) := by
      intro item member
      have bound := (List.mem_range'_1.mp member).1
      have step : item - start = item - (start + 1) + 1 := by omega
      simp only [step, Nat.mul_succ, Nat.add_assoc]
    rw [List.range'_succ, drawAll, draws, Option.bind_some, later, Option.map_some, List.map_cons, Nat.sub_self, Nat.mul_zero,
      List.map_congr_left shifted]
    refine congrArg some (Prod.ext rfl (funext fun position => ?_))
    show random (position + width * count + width) = random (position + width * (count + 1))
    rw [Nat.mul_succ, Nat.add_assoc]

variable (random : RandomStream)

theorem drawHydroCostsOfArea_eq : drawHydroCostsOfArea random =
    some ((List.range 8784).map fun hour => (hour, random hour), fun position => random (position + 8784)) := by
  have next : ∀ random : RandomStream, drawNext random = some (random 0, fun position => random (position + 1)) := fun random => rfl
  unfold drawHydroCostsOfArea
  rw [List.range_eq_range', drawAll_range' next 0 8784 random]
  simp

theorem storeAll_freeModulations {drawn : List (Nat × List (Nat × Rat))} (distinct : (drawn.map Prod.fst).Nodup) {area : Nat}
    {draws : List (Nat × Rat)} (member : (area, draws) ∈ drawn) (numbers : YearRandomNumbers) :
    ∃ noise, (storeAll storeFreeModulations drawn numbers).hydroCostsByArea_freeMod area = spreadHydroCostNoises draws noise := by
  induction drawn generalizing numbers with
  | nil => exact absurd member List.not_mem_nil
  | cons pair drawn later =>
    obtain ⟨absent, rest⟩ := List.nodup_cons.mp distinct
    rcases List.mem_cons.mp member with rfl | member
    · use numbers.hydroCostsByArea_freeMod area
      have kept : ∀ numbers : YearRandomNumbers,
          (storeAll storeFreeModulations drawn numbers).hydroCostsByArea_freeMod area = numbers.hydroCostsByArea_freeMod area := by
        clear later member distinct rest
        induction drawn with
        | nil => exact fun numbers => rfl
        | cons other drawn later =>
          intro numbers
          obtain ⟨different, absent⟩ := not_or.mp (fun either => absent (List.mem_cons.mpr either))
          exact (later absent _).trans (Function.update_of_ne different _ _)
      exact (kept _).trans (Function.update_self _ _ _)
    · exact later rest member _

/-- The draws of an area, which come after those of the areas before. -/
def areaDraws (area hour : Nat) : Rat := random (hour + 8784 * area)

theorem computeHydroCosts_free {settings : RandomSettings} (free : settings.powerFluctuations = .lssFreeModulations)
    (numbers : YearRandomNumbers) (random : RandomStream) : ∃ result, computeHydroCosts settings true numbers random = some result ∧
      ∀ area < settings.areas.length, ∃ noise, result.1.hydroCostsByArea_freeMod area =
        spreadHydroCostNoises ((List.range 8784).map fun hour => (hour, areaDraws random area hour)) noise := by
  obtain ⟨drawn, same⟩ : ∃ drawn, drawn = (List.range settings.areas.length).map fun area =>
      (area, (List.range 8784).map fun hour => (hour, areaDraws random area hour)) := ⟨_, rfl⟩
  have all : drawAll (fun _ => drawHydroCostsOfArea) (List.range settings.areas.length) random =
      some (drawn, fun position => random (position + 8784 * settings.areas.length)) := by
    have draws := drawAll_range' drawHydroCostsOfArea_eq 0 settings.areas.length random
    rw [← List.range_eq_range'] at draws
    rw [same]
    exact draws
  have run := @drawLoop_eq _ _ _ _ (fun _ => drawHydroCostsOfArea) storeFreeModulations true (List.range settings.areas.length)
    numbers random
  rw [all, Option.map_some, if_pos rfl] at run
  refine ⟨(storeAll storeFreeModulations drawn numbers, fun position => random (position + 8784 * settings.areas.length)), ?_,
    fun area inside => ?_⟩
  · unfold computeHydroCosts
    dsimp only
    rw [free]
    exact run
  · have distinct : (drawn.map Prod.fst).Nodup := by
      rw [same, List.map_map]
      exact (List.map_id (List.range settings.areas.length)).symm ▸ List.nodup_range
    apply storeAll_freeModulations distinct
    rw [same]
    exact List.mem_map.mpr ⟨area, List.mem_range.mpr inside, rfl⟩

/-- In a performed year with free modulations, the hourly noises of an area are spread exactly when
the repeated distances of its draws are in their places by chance.
-/
theorem computeHydroCosts_spread_iff (settings : RandomSettings) (free : settings.powerFluctuations = .lssFreeModulations)
    (numbers : YearRandomNumbers) (random : RandomStream) {area : Nat} (inside : area < settings.areas.length) :
    ∃ result, computeHydroCosts settings true numbers random = some result ∧
      (Spread 8784 (areaDraws random area) (result.1.hydroCostsByArea_freeMod area) ↔
        RepeatsInPlace 8784 (areaDraws random area)) := by
  obtain ⟨result, run, noises⟩ := computeHydroCosts_free free numbers random
  obtain ⟨noise, stored⟩ := noises area inside
  refine ⟨result, run, ?_⟩
  rw [stored]
  exact spread_iff noise le_rfl

def plainArea : RandomArea where
  areaWideIndices := []
  reservoirManagement := false
  minimumLevel := 0
  averageLevel := 0
  maximumLevel := 0
  initializeReservoirLevelDate := 0

def plainSettings : RandomSettings where
  areas := [plainArea]
  calendarMappingMonths := id
  firstDayOfMonth := 0
  useCustomScenario := false
  scenarioHydroLevels := 0
  seedSpilledEnergyCosts := 0
  powerFluctuations := .lssFreeModulations
  hydroHotStart := false

def plainNumbers : YearRandomNumbers where
  nbClustersByArea := 0
  thermalNoisesByArea := 0
  reservoirLevels := 0
  unsuppliedEnergy := 0
  spilledEnergy := 0
  hydroCostsByArea_freeMod := 0
  hydroCosts_rampingOrExcursion := 0

/-- Growing draws below the middle are all at different distances. -/
theorem computeHydroCosts_spread_growing : ∃ result,
    computeHydroCosts plainSettings true plainNumbers (fun position => position / 20000) = some result ∧
      Spread 8784 (areaDraws (fun position => position / 20000) 0) (result.1.hydroCostsByArea_freeMod 0) := by
  obtain ⟨result, run, same⟩ := computeHydroCosts_spread_iff plainSettings rfl plainNumbers (fun position => position / 20000)
    (by decide : 0 < plainSettings.areas.length)
  refine ⟨result, run, same.mpr ?_⟩
  intro hour inside ⟨earlier, before, equal⟩
  have small {hour : Nat} (inside : hour < 8784) :
      distance (areaDraws (fun position => position / 20000) 0) hour = 1 / 2 - hour / 20000 := by
    have upper : (hour : Rat) < 8784 := by exact_mod_cast inside
    show |((hour + 8784 * 0 : Nat) : Rat) / 20000 - 1 / 2| = 1 / 2 - hour / 20000
    rw [Nat.mul_zero, Nat.add_zero, abs_of_neg (by linarith)]
    ring
  rw [small inside, small (before.trans inside)] at equal
  have same : (earlier : Rat) = hour := by linarith
  exact absurd (Nat.cast_injective same) before.ne

/-- When all draws are zero, only the first one gets the noise of its rank. -/
theorem computeHydroCosts_not_spread : ∃ result, computeHydroCosts plainSettings true plainNumbers (fun _ => 0) = some result ∧
    ¬Spread 8784 (areaDraws (fun _ => 0) 0) (result.1.hydroCostsByArea_freeMod 0) := by
  obtain ⟨result, run, noises⟩ := @computeHydroCosts_free plainSettings rfl plainNumbers (fun _ => 0)
  obtain ⟨noise, stored⟩ := noises 0 (by decide)
  refine ⟨result, run, ?_⟩
  rw [stored, spread_iff noise le_rfl]
  intro inPlace
  have most := (inPlace 1 (by norm_num) ⟨0, Nat.one_pos, rfl⟩).most
  have far : distance (areaDraws (fun _ => 0) 0) 1 = 1 / 2 := by
    show |(0 : Rat) - 1 / 2| = 1 / 2
    rw [abs_of_neg (by norm_num)]
    norm_num
  rw [far] at most
  norm_num at most

end Antares.Solver
