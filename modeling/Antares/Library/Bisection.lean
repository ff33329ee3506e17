import Mathlib.Algebra.Order.Field.Basic
import Mathlib.Tactic.Linarith
import Mathlib.Tactic.Ring

/-! A search for a level where a function has a given value, in a bracket that is halved at every turn.
Turns are counted, and the last one stops the search whatever it has found.
-/

set_option autoImplicit false

namespace Antares.Library

/-- The level that was tried last, and whether the count of turns stopped the search. -/
structure Bisection (R : Type) where
  level : R
  stopped : Bool

namespace Bisection

section
variable {R : Type} [Field R] [LinearOrder R]
variable (value : R → R) (target tolerance : R)

theorem two_atLeastTwo : Nat.AtLeastTwo 2 := ⟨le_rfl⟩

/-- A level that is not good enough becomes the end of the bracket that it belongs to. -/
def run : Nat → R → R → Bisection R
  | 0, bottom, top => { level := (top + bottom) / 2, stopped := true }
  | turns + 1, bottom, top =>
    let level := (top + bottom) / 2
    if turns = 0 then { level := level, stopped := true }
    else if tolerance < |target - value level| then
      if 0 < target - value level then run turns level top else run turns bottom level
    else { level := level, stopped := false }

variable {value target tolerance}

theorem within_of_not_stopped {turns : Nat} {bottom top : R} (ended : (run value target tolerance turns bottom top).stopped = false) :
    |target - value (run value target tolerance turns bottom top).level| ≤ tolerance := by
  induction turns generalizing bottom top with
  | zero => exact absurd ended Bool.noConfusion
  | succ turns later =>
    unfold run at ended ⊢
    dsimp only at ended ⊢
    split_ifs at ended ⊢ with last far below
    · exact later ended
    · exact later ended
    · exact not_lt.mp far

theorem not_stopped_of_first {turns : Nat} {bottom top : R}
    (near : |target - value ((top + bottom) / 2)| ≤ tolerance) :
    (run value target tolerance (turns + 2) bottom top).stopped = false := by
  unfold run
  dsimp only
  rw [if_neg (Nat.succ_ne_zero turns), if_neg (not_lt.mpr near)]

/-- The values at the two ends of a bracket are on the two sides of the target. -/
structure Brackets (value : R → R) (target bottom top : R) : Prop where
  ordered : bottom ≤ top
  below : value bottom ≤ target
  above : target ≤ value top

variable [IsStrictOrderedRing R]

/-- A function that grows by no more than a multiple of the distance is known to that multiple of half
the width in the middle of a bracket.
-/
theorem Brackets.near {slope bottom top : R} (brackets : Brackets value target bottom top)
    (bounded : ∀ left right, left ≤ right → value right - value left ≤ slope * (right - left)) :
    |target - value ((top + bottom) / 2)| ≤ slope * (top - bottom) / 2 := by
  have ordered := brackets.ordered
  have below := brackets.below
  have above := brackets.above
  have first := bounded bottom ((top + bottom) / 2) (by linarith)
  have second := bounded ((top + bottom) / 2) top (by linarith)
  have firstHalf : slope * ((top + bottom) / 2 - bottom) = slope * (top - bottom) / 2 := by ring
  have secondHalf : slope * (top - (top + bottom) / 2) = slope * (top - bottom) / 2 := by ring
  rw [firstHalf] at first
  rw [secondHalf] at second
  refine abs_le.mpr ⟨?_, ?_⟩
  · linarith
  · linarith

theorem not_stopped {slope : R}
    (bounded : ∀ left right, left ≤ right → value right - value left ≤ slope * (right - left)) {turns : Nat}
    {bottom top : R} (brackets : Brackets value target bottom top)
    (narrow : slope * (top - bottom) ≤ tolerance * 2 ^ (turns + 1)) :
    (run value target tolerance (turns + 2) bottom top).stopped = false := by
  have near := brackets.near bounded
  induction turns generalizing bottom top with
  | zero =>
    refine not_stopped_of_first (near.trans ?_)
    rw [zero_add, pow_one] at narrow
    linarith
  | succ turns later =>
    have half : slope * (top - bottom) / 2 ≤ tolerance * 2 ^ (turns + 1) := by
      rw [pow_succ] at narrow
      linarith
    by_cases good : |target - value ((top + bottom) / 2)| ≤ tolerance
    · exact not_stopped_of_first good
    · have ordered := brackets.ordered
      unfold run
      dsimp only
      rw [if_neg (Nat.succ_ne_zero _), if_pos (not_le.mp good)]
      split_ifs with low
      · have narrower : slope * (top - (top + bottom) / 2) ≤ tolerance * 2 ^ (turns + 1) := by
          have width : slope * (top - (top + bottom) / 2) = slope * (top - bottom) / 2 := by ring
          rw [width]
          exact half
        have kept : Brackets value target ((top + bottom) / 2) top :=
          ⟨by linarith, (sub_pos.mp low).le, brackets.above⟩
        exact later kept narrower (kept.near bounded)
      · have narrower : slope * ((top + bottom) / 2 - bottom) ≤ tolerance * 2 ^ (turns + 1) := by
          have width : slope * ((top + bottom) / 2 - bottom) = slope * (top - bottom) / 2 := by ring
          rw [width]
          exact half
        have kept : Brackets value target bottom ((top + bottom) / 2) :=
          ⟨by linarith, brackets.below, sub_nonpos.mp (not_lt.mp low)⟩
        exact later kept narrower (kept.near bounded)

/-- A target that every level from a floor on misses from above is not found in a bracket too wide for
the turns to come down to the floor.
-/
theorem stopped_of_far {floor bottom : R} (far : ∀ level, floor ≤ level → target + tolerance < value level)
    (nonneg : 0 ≤ tolerance) (below : bottom ≤ floor) {turns : Nat} {top : R} (wide : (floor - bottom) * 2 ^ (turns + 1) ≤ top - bottom) :
    (run value target tolerance (turns + 1) bottom top).stopped = true ∧
      floor ≤ (run value target tolerance (turns + 1) bottom top).level := by
  induction turns generalizing top with
  | zero =>
    unfold run
    dsimp only
    rw [if_pos rfl]
    rw [zero_add, pow_one] at wide
    exact ⟨rfl, by dsimp only; linarith⟩
  | succ turns later =>
    have half : (floor - bottom) * 2 ^ (turns + 1) ≤ (top + bottom) / 2 - bottom := by
      rw [pow_succ] at wide
      linarith
    have reached : floor ≤ (top + bottom) / 2 := by
      have more := le_mul_of_one_le_right (sub_nonneg.mpr below) (one_le_pow₀ one_le_two : (1 : R) ≤ 2 ^ (turns + 1))
      linarith
    have missed := far _ reached
    have negative : target - value ((top + bottom) / 2) < 0 := by linarith
    unfold run
    dsimp only
    rw [if_neg (Nat.succ_ne_zero turns), if_pos, if_neg negative.not_gt]
    · exact later half
    · rw [abs_of_neg negative]
      linarith

end

end Bisection

section
variable {R : Type} [Field R] [LinearOrder R] [IsStrictOrderedRing R]

/-- A property that holds at one end of a bracket and not at the other one. -/
structure Straddles (works : R → Prop) (bottom top : R) : Prop where
  bottom_works : works bottom
  top_fails : ¬ works top
  ordered : bottom < top

namespace Straddles
variable {works : R → Prop} {bottom top : R}

theorem upper_half (straddles : Straddles works bottom top) (middle : works ((top + bottom) / 2)) :
    Straddles works ((top + bottom) / 2) top := by
  have ordered := straddles.ordered
  exact ⟨middle, straddles.top_fails, by linarith⟩

theorem lower_half (straddles : Straddles works bottom top) (middle : ¬ works ((top + bottom) / 2)) :
    Straddles works bottom ((top + bottom) / 2) := by
  have ordered := straddles.ordered
  exact ⟨straddles.bottom_works, middle, by linarith⟩

omit [IsStrictOrderedRing R] in
/-- What holds of all smaller values too does not hold from the top on. -/
theorem lt_top (straddles : Straddles works bottom top)
    (downward : ∀ value smaller, 0 ≤ smaller → smaller ≤ value → works value → works smaller) (nonneg : 0 ≤ top)
    {value : R} (holds : works value) : value < top := by
  by_contra above
  exact straddles.top_fails (downward value top nonneg (not_lt.mp above) holds)

end Straddles

end

end Antares.Library
