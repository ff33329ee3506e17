import Mathlib.Algebra.Order.Field.Basic
import Mathlib.Tactic.FieldSimp
import Mathlib.Tactic.Ring

/-! The broken line through points of increasing places. -/

set_option autoImplicit false

namespace Antares.Library

structure Points (K : Type) where
  width : Nat
  x : Nat → K
  y : Nat → K

namespace Points

section
variable {K : Type} [LinearOrder K] (points : Points K)

def Increasing : Prop := ∀ i, i + 1 < points.width → points.x i < points.x (i + 1)

instance : Decidable points.Increasing :=
  decidable_of_iff (∀ i < points.width - 1, points.x i < points.x (i + 1))
    (forall_congr' fun _ => imp_congr Nat.lt_sub_iff_add_lt Iff.rfl)

/-- The value is between the place of a point and that of another one. -/
def Between (i j : Nat) (value : K) : Prop := points.x i ≤ value ∧ value ≤ points.x j

instance (i j : Nat) (value : K) : Decidable (points.Between i j value) := inferInstanceAs (Decidable (_ ∧ _))

variable {points}

theorem Increasing.lt (increasing : points.Increasing) {i j : Nat} (before : i < j) (within : j < points.width) :
    points.x i < points.x j := by
  induction before with
  | refl => exact increasing i within
  | step _ ih => exact (ih (Nat.lt_of_succ_lt within)).trans (increasing _ within)

theorem Increasing.le (increasing : points.Increasing) {i j : Nat} (before : i ≤ j) (within : j < points.width) :
    points.x i ≤ points.x j := by
  rcases before.eq_or_lt with rfl | before
  · exact le_rfl
  · exact (increasing.lt before within).le

theorem Increasing.eq_succ (increasing : points.Increasing) {i j : Nat} {value : K} (before : i < j)
    (within : j < points.width) (first : points.Between i (i + 1) value) (second : points.Between j (j + 1) value) :
    j = i + 1 := by
  by_contra apart
  have later : i + 1 < j := Nat.lt_of_le_of_ne before (Ne.symm apart)
  exact absurd (second.1.trans first.2) (not_le.mpr (increasing.lt later within))

theorem exists_between {value : K} {last : Nat} (above : points.x 0 ≤ value) (below : value ≤ points.x (last + 1)) :
    ∃ i ≤ last, points.Between i (i + 1) value := by
  induction last with
  | zero => exact ⟨0, le_rfl, above, below⟩
  | succ last ih =>
    rcases le_total value (points.x (last + 1)) with earlier | here
    · obtain ⟨i, listed, between⟩ := ih earlier
      exact ⟨i, Nat.le_succ_of_le listed, between⟩
    · exact ⟨last + 1, le_rfl, here, below⟩

end

section
variable {K : Type} [Field K] (points : Points K)

def slope (i : Nat) : K := (points.y (i + 1) - points.y i) / (points.x (i + 1) - points.x i)

def line (i : Nat) (value : K) : K := points.y i + (value - points.x i) * points.slope i

theorem line_left (i : Nat) : points.line i (points.x i) = points.y i := by
  rw [line, sub_self, zero_mul, add_zero]

theorem line_right {i : Nat} (apart : points.x i ≠ points.x (i + 1)) :
    points.line i (points.x (i + 1)) = points.y (i + 1) := by
  have nonzero : points.x (i + 1) - points.x i ≠ 0 := sub_ne_zero.mpr apart.symm
  rw [line, slope, mul_div_cancel₀ _ nonzero, add_sub_cancel]

variable [LinearOrder K]

def interpolate (value : K) : K :=
  match (List.range (points.width - 1)).find? fun i => points.Between i (i + 1) value with
  | some i => points.line i value
  | none => value

variable {points}

theorem Increasing.line_eq (increasing : points.Increasing) {i j : Nat} {value : K} (before : i < j)
    (within : j < points.width) (first : points.Between i (i + 1) value) (second : points.Between j (j + 1) value) :
    points.line i value = points.line j value := by
  obtain rfl := increasing.eq_succ before within first second
  obtain rfl : value = points.x (i + 1) := le_antisymm first.2 second.1
  rw [line_left, line_right _ (increasing i within).ne]

theorem Increasing.interpolate_eq (increasing : points.Increasing) {i : Nat} {value : K} (within : i + 1 < points.width)
    (between : points.Between i (i + 1) value) : points.interpolate value = points.line i value := by
  unfold interpolate
  cases found : (List.range (points.width - 1)).find? fun i => points.Between i (i + 1) value with
  | none =>
    have missed := List.find?_eq_none.mp found i (List.mem_range.mpr (by omega))
    exact absurd (decide_eq_true between) missed
  | some j =>
    have holds := List.find?_some found
    have other : points.Between j (j + 1) value := of_decide_eq_true holds
    have listed := List.mem_range.mp (List.mem_of_find?_eq_some found)
    rcases Nat.lt_trichotomy i j with before | rfl | after
    · exact (increasing.line_eq before (by omega) between other).symm
    · rfl
    · exact increasing.line_eq after (by omega) other between

theorem interpolate_of_not_between {value : K} (apart : ∀ i, i + 1 < points.width → ¬ points.Between i (i + 1) value) :
    points.interpolate value = value := by
  have missed : ((List.range (points.width - 1)).find? fun i => points.Between i (i + 1) value) = none := by
    apply List.find?_eq_none.mpr
    intro i listed
    have within := List.mem_range.mp listed
    simpa using apart i (by omega)
  rw [interpolate, missed]

theorem Increasing.interpolate_of_out (increasing : points.Increasing) {value : K}
    (out : value < points.x 0 ∨ points.x (points.width - 1) < value) : points.interpolate value = value := by
  apply interpolate_of_not_between
  rintro i within ⟨left, right⟩
  rcases out with below | above
  · exact absurd ((increasing.le (Nat.zero_le i) (by omega)).trans left) (not_le.mpr below)
  · exact absurd (right.trans (increasing.le (by omega) (by omega))) (not_le.mpr above)

end

end Points

end Antares.Library
