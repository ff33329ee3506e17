import Mathlib.Algebra.BigOperators.Field
import Mathlib.Algebra.Order.BigOperators.Group.Finset
import Mathlib.Algebra.Order.Floor.Ring
import Antares.Library.Bisection

/-! Totals shared out in proportion to weights: amounts reduced to what there is room for, weights taken from the
shape of a profile, and shares that are rounded one after the other.
-/

set_option autoImplicit false

namespace Antares.Library

section
open Finset

variable {K ι : Type} [Field K] [LinearOrder K] [IsStrictOrderedRing K]

/-- The share of an amount, where the total is reduced to the room. -/
def share (total room amount : K) : K := amount * min total room / total

variable {total room amount : K}

theorem share_nonneg (some : 0 ≤ amount) (totalSome : 0 ≤ total) (roomSome : 0 ≤ room) : 0 ≤ share total room amount :=
  div_nonneg (mul_nonneg some (le_min totalSome roomSome)) totalSome

theorem share_le (some : 0 ≤ amount) (totalSome : 0 < total) : share total room amount ≤ amount := by
  unfold share
  rw [div_le_iff₀ totalSome]
  exact mul_le_mul_of_nonneg_left (min_le_left _ _) some

omit [IsStrictOrderedRing K] in
/-- The shares of all amounts, times what makes their total. -/
theorem sum_share (days : Finset ι) (amounts : ι → K) (factor room : K) (totalSome : total ≠ 0)
    (adds : factor * ∑ day ∈ days, amounts day = total) :
    factor * ∑ day ∈ days, share total room (amounts day) = min total room := by
  unfold share
  rw [← sum_div, ← sum_mul, ← mul_div_assoc, ← mul_assoc, adds, mul_div_assoc, mul_div_cancel₀ _ totalSome]

end

section
variable {K : Type} [Field K]

def shareOut (total : K) (weights : List K) : List K := weights.map fun weight => total / weights.sum * weight

theorem sum_shareOut (total : K) {weights : List K} (nonzero : weights.sum ≠ 0) : (shareOut total weights).sum = total := by
  unfold shareOut
  rw [List.sum_map_mul_left, List.map_id']
  exact div_mul_cancel₀ total nonzero

theorem sum_equalShares [CharZero K] (total : K) {count : Nat} (some : count ≠ 0) :
    (List.replicate count (total / count)).sum = total := by
  rw [List.sum_replicate, nsmul_eq_mul]
  exact mul_div_cancel₀ total (Nat.cast_ne_zero.mpr some)

def shape (power : K → K) (top : K) (profile : List K) : List K := profile.map fun value => power (value / top)

variable [LinearOrder K] [IsStrictOrderedRing K]

theorem one_le_sum_shape {power : K → K} (nonneg : ∀ x, 0 ≤ x → 0 ≤ power x) (one : power 1 = 1) {top : K} (positive : 0 < top)
    {profile : List K} (profile_nonneg : ∀ value ∈ profile, 0 ≤ value) (reached : top ∈ profile) :
    1 ≤ (shape power top profile).sum := by
  have weights : ∀ weight ∈ shape power top profile, 0 ≤ weight := by
    intro weight listed
    obtain ⟨value, member, rfl⟩ := List.mem_map.mp listed
    exact nonneg _ (div_nonneg (profile_nonneg value member) positive.le)
  have unit : (1 : K) ∈ shape power top profile := by
    apply List.mem_map.mpr
    exact ⟨top, reached, by rw [div_self positive.ne', one]⟩
  exact List.single_le_sum weights 1 unit

end

section
variable {α : Type}

def writeFrom (table : Nat → α) (start : Nat) : List α → (Nat → α)
  | [] => table
  | value :: values => writeFrom (Function.update table start value) (start + 1) values

theorem writeFrom_of_lt (table : Nat → α) {start place : Nat} (before : place < start) (values : List α) :
    writeFrom table start values place = table place := by
  induction values generalizing table start with
  | nil => rfl
  | cons value values ih =>
    rw [writeFrom, ih _ (Nat.lt_succ_of_lt before)]
    exact Function.update_of_ne before.ne _ _

theorem writeFrom_read (table : Nat → α) (start : Nat) (values : List α) :
    (List.range values.length).map (fun index => writeFrom table start values (start + index)) = values := by
  induction values generalizing table start with
  | nil => rfl
  | cons value values ih =>
    rw [List.length_cons, List.range_succ_eq_map, List.map_cons, List.map_map]
    have head : writeFrom table start (value :: values) (start + 0) = value := by
      rw [Nat.add_zero, writeFrom, writeFrom_of_lt _ (Nat.lt_succ_self start)]
      exact Function.update_self _ _ _
    have tail := ih (Function.update table start value) (start + 1)
    rw [head]
    apply congrArg (List.cons value)
    refine Eq.trans (List.map_congr_left fun index _ => ?_) tail
    rw [Function.comp_apply, writeFrom, Nat.succ_eq_add_one, Nat.add_assoc, Nat.add_comm 1 index]

end

section
variable {K : Type} [Field K] [LinearOrder K] [IsStrictOrderedRing K] [FloorRing K]

variable (x : K)

attribute [local instance] Bisection.two_atLeastTwo in
/-- The nearest integer, where a half goes away from zero. -/
def roundAway : ℤ := if 0 ≤ x then ⌊x + 1 / 2⌋ else ⌈x - 1 / 2⌉

theorem roundAway_le : (roundAway x : K) ≤ x + 1 / 2 := by
  unfold roundAway
  split_ifs
  · exact Int.floor_le _
  · have below := Int.ceil_lt_add_one (x - 1 / 2)
    linarith

theorem le_roundAway : x - 1 / 2 ≤ roundAway x := by
  unfold roundAway
  split_ifs
  · have above := Int.lt_floor_add_one (x + 1 / 2)
    linarith
  · exact Int.le_ceil _

theorem abs_sub_roundAway : |x - roundAway x| ≤ 1 / 2 := by
  have below := roundAway_le x
  have above := le_roundAway x
  exact abs_le.mpr ⟨by linarith, by linarith⟩

theorem roundAway_nonneg {x : K} (above : -(1 / 2) < x) : 0 ≤ roundAway x := by
  unfold roundAway
  split_ifs with nonneg
  · exact Int.floor_nonneg.mpr (by linarith)
  · exact Int.ceil_nonneg_of_neg_one_lt (by linarith)

theorem roundAway_eq_zero {x : K} (above : -(1 / 2) < x) (below : x < 1 / 2) : roundAway x = 0 := by
  have nonneg := roundAway_nonneg above
  have less : (roundAway x : K) < 1 := (roundAway_le x).trans_lt (by linarith)
  have whole : roundAway x < 1 := by exact_mod_cast less
  omega

@[simp] theorem roundAway_zero : roundAway (0 : K) = 0 := roundAway_eq_zero (by norm_num) (by norm_num)

theorem sub_roundAway_mul {total factor : K} (above : -(1 / 2) < total) (nonneg : 0 ≤ factor) (part : factor < 1) :
    -(1 / 2) < total - roundAway (total * factor) := by
  rcases lt_trichotomy total 0 with negative | rfl | positive
  · have share : total ≤ total * factor := by nlinarith
    have none : roundAway (total * factor) = 0 :=
      roundAway_eq_zero (by linarith) (by nlinarith [mul_nonneg (neg_nonneg.mpr negative.le) nonneg])
    rw [none, Int.cast_zero, sub_zero]
    exact above
  · simp
  · have less : total * factor < total := mul_lt_of_lt_one_right positive part
    have below := roundAway_le (total * factor)
    linarith

/-- Each weight takes its share of what the weights before it left, rounded. -/
def roundedShares : K → List K → List ℤ
  | _, [] => []
  | total, weight :: weights =>
    let part := roundAway (total * weight / (weight :: weights).sum)
    part :: roundedShares (total - part) weights

omit [IsStrictOrderedRing K] in
theorem length_roundedShares (total : K) (weights : List K) : (roundedShares total weights).length = weights.length := by
  induction weights generalizing total with
  | nil => rfl
  | cons weight weights ih => rw [roundedShares, List.length_cons, List.length_cons, ih]

omit [FloorRing K] in
/-- The sum of weights of which the last one is positive. -/
theorem sum_pos_of_getLast {weights : List K} {last : K} (nonneg : ∀ weight ∈ weights, 0 ≤ weight)
    (ends : weights.getLast? = some last) (positive : 0 < last) : 0 < weights.sum :=
  positive.trans_le (List.single_le_sum nonneg _ (List.mem_of_getLast? ends))

theorem roundedShares_parts {total : K} (above : -(1 / 2) < total) {weights : List K} {last : K}
    (nonneg : ∀ weight ∈ weights, 0 ≤ weight) (ends : weights.getLast? = some last) (positive : 0 < last) :
    (∀ part ∈ roundedShares total weights, 0 ≤ part) ∧
      List.Forall₂ (fun weight part => weight = 0 → part = 0) weights (roundedShares total weights) ∧
      |total - (roundedShares total weights).sum| ≤ 1 / 2 := by
  induction weights generalizing total with
  | nil => cases ends
  | cons weight weights ih =>
    have sum := sum_pos_of_getLast nonneg ends positive
    have first : 0 ≤ weight := nonneg weight List.mem_cons_self
    rw [roundedShares]
    cases weights with
    | nil =>
      obtain rfl : weight = last := Option.some.inj ends
      have whole : total * weight / [weight].sum = total := by
        rw [List.sum_singleton]
        exact mul_div_cancel_right₀ total positive.ne'
      rw [whole]
      refine ⟨List.forall_mem_singleton.mpr (roundAway_nonneg above), .cons (fun zero => absurd zero positive.ne') .nil, ?_⟩
      rw [roundedShares, List.sum_singleton]
      exact abs_sub_roundAway total
    | cons next weights =>
      have rest : (next :: weights).getLast? = some last := List.getLast?_cons_cons.symm.trans ends
      have rest_nonneg : ∀ weight ∈ next :: weights, 0 ≤ weight := fun weight listed =>
        nonneg weight (List.mem_cons_of_mem _ listed)
      have later := sum_pos_of_getLast rest_nonneg rest positive
      rw [mul_div_assoc]
      have share_nonneg : 0 ≤ weight / (weight :: next :: weights).sum := div_nonneg first sum.le
      have share_lt : weight / (weight :: next :: weights).sum < 1 := by
        rw [div_lt_one sum, List.sum_cons]
        exact lt_add_of_pos_right weight later
      have left := sub_roundAway_mul above share_nonneg share_lt
      obtain ⟨parts_nonneg, parts_zero, parts_sum⟩ := ih left rest_nonneg rest
      refine ⟨List.forall_mem_cons.mpr ⟨roundAway_nonneg ?_, parts_nonneg⟩, .cons (fun zero => ?_) parts_zero, ?_⟩
      · -- a share of a negative remainder is no further from zero than it
        rcases le_total 0 total with whole | negative
        · exact (by norm_num : -(1 / 2 : K) < 0).trans_le (mul_nonneg whole share_nonneg)
        · nlinarith
      · rw [zero, zero_div, mul_zero, roundAway_zero]
      · rw [List.sum_cons, Int.cast_add, ← sub_sub]
        exact parts_sum

end

end Antares.Library
