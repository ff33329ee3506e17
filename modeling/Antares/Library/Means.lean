import Mathlib.Algebra.BigOperators.Intervals
import Mathlib.Algebra.BigOperators.Ring.List
import Mathlib.Algebra.Order.BigOperators.Group.List
import Mathlib.Algebra.Order.Field.Basic
import Mathlib.Tactic.Abel
import Mathlib.Tactic.Ring

/-! Weighted means and variances over a list, for weights that are not negative. Sums over the last values of
a sequence, kept up to date in a ring of slots: a new value is written in the slot of its time, and the one
that leaves the window is read from its own.
-/

set_option autoImplicit false

namespace Antares.Library

section
variable {ι κ R : Type} [Field R]

def weightedMean (items : List ι) (weight value : ι → R) : R :=
  (items.map fun item => weight item * value item).sum / (items.map weight).sum

variable (items : List ι) (weight left right : ι → R)

theorem weightedMean_zero : weightedMean items weight (fun _ => 0) = 0 := by
  simp [weightedMean]

theorem weightedMean_add :
    weightedMean items weight (fun item => left item + right item) =
      weightedMean items weight left + weightedMean items weight right := by
  unfold weightedMean
  rw [← add_div, ← List.sum_map_add]
  simp only [mul_add]

theorem weightedMean_neg :
    weightedMean items weight (fun item => -left item) = -weightedMean items weight left := by
  have cancel := weightedMean_add items weight left fun item => -left item
  simp only [add_neg_cancel, weightedMean_zero] at cancel
  exact (neg_eq_of_add_eq_zero_right cancel.symm).symm

theorem weightedMean_sub :
    weightedMean items weight (fun item => left item - right item) =
      weightedMean items weight left - weightedMean items weight right := by
  simp only [sub_eq_add_neg, weightedMean_add, weightedMean_neg]

theorem weightedMean_sum (terms : List κ) (value : κ → ι → R) :
    weightedMean items weight (fun item => (terms.map fun term => value term item).sum) =
      (terms.map fun term => weightedMean items weight (value term)).sum := by
  induction terms with
  | nil => exact weightedMean_zero items weight
  | cons term terms ih =>
    simp only [List.map_cons, List.sum_cons]
    rw [weightedMean_add, ih]

theorem weightedMean_mul (value : ι → R) (factor : R) :
    weightedMean items weight (fun item => factor * value item) = factor * weightedMean items weight value := by
  unfold weightedMean
  rw [← mul_div_assoc, ← List.sum_map_mul_left]
  simp only [mul_left_comm]

def weightedVariance (value : ι → R) : R :=
  weightedMean items weight fun item => (value item - weightedMean items weight value) ^ 2

variable {items weight}

theorem weightedMean_const (total : (items.map weight).sum ≠ 0) (a : R) :
    weightedMean items weight (fun _ => a) = a := by
  unfold weightedMean
  rw [List.sum_map_mul_right, mul_div_cancel_left₀ a total]

theorem weightedVariance_eq (total : (items.map weight).sum ≠ 0) (value : ι → R) :
    weightedVariance items weight value =
      weightedMean items weight (fun item => value item ^ 2) - weightedMean items weight value ^ 2 := by
  unfold weightedVariance
  generalize held : weightedMean items weight value = mean
  have square (item : ι) : (value item - mean) ^ 2 = value item ^ 2 - (2 * mean * value item - mean ^ 2) := by ring
  simp only [square, weightedMean_sub, weightedMean_mul, weightedMean_const total, held]
  ring

end

section
variable {ι R : Type} [Field R] [LinearOrder R] [IsStrictOrderedRing R]

variable {items : List ι}

theorem weightedMean_mono {weight left right : ι → R}
    (nonneg : ∀ item ∈ items, 0 ≤ weight item)
    (below : ∀ item ∈ items, left item ≤ right item) :
    weightedMean items weight left ≤ weightedMean items weight right := by
  have total : 0 ≤ (items.map weight).sum := List.sum_nonneg (List.forall_mem_map.mpr nonneg)
  apply div_le_div_of_nonneg_right _ total
  apply List.sum_le_sum
  intro item listed
  exact mul_le_mul_of_nonneg_left (below item listed) (nonneg item listed)

theorem weightedMean_nonneg {weight value : ι → R}
    (weights : ∀ item ∈ items, 0 ≤ weight item) (values : ∀ item ∈ items, 0 ≤ value item) :
    0 ≤ weightedMean items weight value := by
  rw [← weightedMean_zero items weight]
  exact weightedMean_mono weights values

theorem weightedVariance_nonneg {weight : ι → R} (weights : ∀ item ∈ items, 0 ≤ weight item)
    (value : ι → R) : 0 ≤ weightedVariance items weight value :=
  weightedMean_nonneg weights fun item _ => sq_nonneg (value item - weightedMean items weight value)

end

end Antares.Library

namespace Antares.Library

open Finset

variable {A : Type} [AddCommGroup A]

/-- The value so many steps before a time; there is a value at the start for all times before it. -/
def back (start : A) (values : Nat → A) (time steps : Nat) : A := if steps ≤ time then values (time - steps) else start

def windowSum (start : A) (values : Nat → A) (time width : Nat) : A := ∑ k ∈ range width, back start values time (k + 1)

def RingHolds (size : Nat) (slots : Nat → A) (start : A) (values : Nat → A) (time : Nat) : Prop :=
  ∀ steps, 1 ≤ steps → steps ≤ size → slots ((time + size - steps) % size) = back start values time steps

variable {start : A} {values : Nat → A} {time : Nat}

omit [AddCommGroup A] in
theorem back_succ (steps : Nat) : back start values (time + 1) (steps + 1) = back start values time steps := by
  unfold back
  simp only [Nat.add_le_add_iff_right, Nat.add_sub_add_right]

omit [AddCommGroup A] in
theorem back_one : back start values (time + 1) 1 = values time := if_pos (Nat.le_add_left 1 time)

omit [AddCommGroup A] in
theorem back_congr {others : Nat → A} (same : ∀ earlier < time, values earlier = others earlier) (steps : Nat) :
    back start values time (steps + 1) = back start others time (steps + 1) := by
  unfold back
  split_ifs with inside
  · exact same _ (by omega)
  · rfl

theorem windowSum_congr {others : Nat → A} (same : ∀ earlier < time, values earlier = others earlier) (width : Nat) :
    windowSum start values time width = windowSum start others time width :=
  sum_congr rfl fun k _ => back_congr same k

theorem windowSum_succ (width : Nat) : windowSum start values (time + 1) (width + 1) =
    windowSum start values time (width + 1) - back start values time (width + 1) + values time := by
  have front : windowSum start values (time + 1) (width + 1) = windowSum start values time width + values time := by
    unfold windowSum
    rw [sum_range_succ', Nat.zero_add, back_one]
    simp only [back_succ]
  rw [front, windowSum, windowSum, sum_range_succ, add_sub_cancel_right]

namespace RingHolds
variable {size : Nat} {slots : Nat → A}

omit [AddCommGroup A] in
theorem congr {others : Nat → A} (holds : RingHolds size slots start values time)
    (same : ∀ earlier < time, values earlier = others earlier) : RingHolds size slots start others time := by
  intro steps some within
  obtain ⟨before, rfl⟩ := Nat.exists_eq_add_of_le' some
  rw [holds _ some within, back_congr same]

omit [AddCommGroup A] in
/-- The slots that are not written keep their values. -/
theorem slot_ne (positive : 0 < size) {steps : Nat} (some : 1 ≤ steps) (within : steps < size) :
    (time + size - steps) % size ≠ time % size := by
  intro same
  have split := Nat.mod_add_div time size
  have less := Nat.mod_lt time positive
  have residue := Nat.mod_add_div (time + size - steps) size
  rw [same] at residue
  -- the two times would differ by whole turns
  have turns : size * ((time + size - steps) / size) + steps = size * (time / size + 1) := by
    rw [Nat.mul_succ]
    omega
  have divides : size ∣ steps :=
    (Nat.dvd_add_right (Nat.dvd_mul_right size _)).mp (turns ▸ Nat.dvd_mul_right size _)
  exact absurd (Nat.le_of_dvd some divides) (not_le.mpr within)

omit [AddCommGroup A] in
/-- What leaves a window that is shorter than the ring is still there once the new value is written. -/
theorem read_after_write (positive : 0 < size) (holds : RingHolds size slots start values time) {width : Nat}
    (some : 1 ≤ width) (within : width < size) (value : A) :
    Function.update slots (time % size) value ((time + size - width) % size) = back start values time width := by
  rw [Function.update_of_ne (slot_ne positive some within)]
  exact holds width some within.le

omit [AddCommGroup A] in
theorem write (positive : 0 < size) (holds : RingHolds size slots start values time) :
    RingHolds size (Function.update slots (time % size) (values time)) start values (time + 1) := by
  intro steps some within
  obtain ⟨before, rfl⟩ := Nat.exists_eq_add_of_le' some
  rw [back_succ, show time + 1 + size - (before + 1) = time + size - before by omega]
  rcases Nat.eq_zero_or_pos before with rfl | later
  · rw [Nat.sub_zero, Nat.add_mod_right, Function.update_self]
    exact (if_pos (Nat.zero_le time)).symm
  · rw [Function.update_of_ne (slot_ne positive later (by omega))]
    exact holds before later (by omega)

end RingHolds

omit [AddCommGroup A] in
/-- A ring that is filled with the value at the start. -/
theorem ringHolds_init (size : Nat) {slots : Nat → A} (filled : ∀ slot < size, slots slot = start) :
    RingHolds size slots start values 0 := by
  intro steps some within
  rw [filled _ (Nat.mod_lt _ (by omega))]
  exact (if_neg (by omega)).symm

theorem windowSum_zero (width : Nat) : windowSum start values 0 width = width • start := by
  have each (k : Nat) : back start values 0 (k + 1) = start := if_neg (Nat.not_succ_le_zero k)
  simp only [windowSum, each, sum_const, card_range]

end Antares.Library
