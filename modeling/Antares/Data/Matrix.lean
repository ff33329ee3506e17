import Mathlib.Algebra.Order.BigOperators.Group.Finset
import Mathlib.Data.Rat.Floor

/-! Matrices of series, one column for each series, with the rounding and the null test of the
arithmetic of the program.
-/

set_option autoImplicit false

namespace Antares.Data

variable (value : Rat)

/-- `Math::Zero` -/
def mathZero : Bool := |value| < 1 / 1000000

/-- `Math::Round`, halves away from zero. -/
def mathRound : Rat :=
  if value < 0 then ((⌈value - 1 / 2⌉ : Int) : Rat) else ((⌊value + 1 / 2⌋ : Int) : Rat)

theorem mathRound_zero : mathRound 0 = 0 := by decide +kernel

theorem mathRound_mono : Monotone mathRound := by
  intro value other less
  unfold mathRound
  split_ifs with negative otherNegative otherNegative
  · exact_mod_cast Int.ceil_mono (sub_le_sub_right less _)
  · have below : ⌈value - 1 / 2⌉ ≤ 0 := Int.ceil_le.mpr (by push_cast; linarith)
    have above : 0 ≤ ⌊other + 1 / 2⌋ := Int.floor_nonneg.mpr (by linarith)
    exact_mod_cast le_trans below above
  · exact absurd (lt_of_le_of_lt less otherNegative) negative
  · exact_mod_cast Int.floor_mono (add_le_add_left less _)

theorem mathRound_intCast (value : Int) : mathRound value = value := by
  unfold mathRound
  split_ifs
  · have same : ⌈(value : Rat) - 1 / 2⌉ = value := by
      rw [Int.ceil_eq_iff]
      constructor <;> linarith
    rw [same]
  · have same : ⌊(value : Rat) + 1 / 2⌋ = value := by
      rw [Int.floor_eq_iff]
      constructor <;> linarith
    rw [same]

theorem mathRound_mathRound : mathRound (mathRound value) = mathRound value := by
  rw [mathRound.eq_def value]
  split_ifs
  · exact mathRound_intCast _
  · exact mathRound_intCast _

def hoursPerYear : Nat := 8760

/-- `entry column row`; only the cells inside the dimensions exist. -/
structure Matrix where
  width : Nat
  height : Nat
  entry : Nat → Nat → Rat

namespace Matrix

variable (matrix : Matrix)

def clear : Matrix := { matrix with width := 0, height := 0 }

def resize (width height : Nat) : Matrix :=
  if width = matrix.width ∧ height = matrix.height then matrix
  else if width = 0 ∨ height = 0 then matrix.clear
  else { matrix with width := width, height := height }

def zero : Matrix := { matrix with entry := fun _ _ => 0 }

/-- `Matrix::reset(w, h)` -/
def reset (width height : Nat) : Matrix := (matrix.resize width height).zero

/-- `averageTimeseries`: the first column gets the mean of all of them, which are released. -/
def averageTimeseries (roundValues : Bool) : Matrix :=
  if 1 < matrix.width then
    let coeff : Rat := 1 / matrix.width
    let average row := (∑ column ∈ Finset.range matrix.width, matrix.entry column row) * coeff
    { width := 1
      height := matrix.height
      entry := Function.update matrix.entry 0 fun row =>
        if roundValues then mathRound (average row) else average row }
  else matrix

def Within (bound : Nat → Rat) : Prop :=
  ∀ column < matrix.width, ∀ row < matrix.height, matrix.entry column row ∈ Set.uIcc 0 (bound row)

def addToColumns (values : Nat → Rat) : Matrix :=
  { matrix with entry := fun column row => matrix.entry column row + values row }

def multiplyAllEntriesBy (coeff : Rat) : Matrix :=
  if mathZero coeff then matrix.zero
  else { matrix with entry := fun column row => matrix.entry column row * coeff }

structure Same (matrix other : Matrix) : Prop where
  width : matrix.width = other.width
  height : matrix.height = other.height
  entry : ∀ column < matrix.width, ∀ row < matrix.height, matrix.entry column row = other.entry column row

variable {matrix}

theorem Same.refl (matrix : Matrix) : matrix.Same matrix := ⟨rfl, rfl, fun _ _ _ _ => rfl⟩

theorem Same.symm {other : Matrix} (same : matrix.Same other) : other.Same matrix :=
  ⟨same.width.symm, same.height.symm, fun column inWidth row inHeight =>
    (same.entry column (same.width ▸ inWidth) row (same.height ▸ inHeight)).symm⟩

theorem Same.trans {middle other : Matrix} (left : matrix.Same middle) (right : middle.Same other) :
    matrix.Same other :=
  ⟨left.width.trans right.width, left.height.trans right.height, fun column inWidth row inHeight =>
    (left.entry column inWidth row inHeight).trans
      (right.entry column (left.width ▸ inWidth) row (left.height ▸ inHeight))⟩

@[simp] theorem zero_width : matrix.zero.width = matrix.width := rfl

@[simp] theorem zero_height : matrix.zero.height = matrix.height := rfl

@[simp] theorem zero_entry (column row : Nat) : matrix.zero.entry column row = 0 := rfl

theorem resize_width {width height : Nat} (rows : 0 < height) : (matrix.resize width height).width = width := by
  unfold resize clear
  split_ifs with same empty
  · exact same.1.symm
  · have : width = 0 := by omega
    exact this.symm
  · rfl

theorem resize_height {width height : Nat} (columns : 0 < width) : (matrix.resize width height).height = height := by
  unfold resize clear
  split_ifs with same empty
  · exact same.2.symm
  · have : height = 0 := by omega
    exact this.symm
  · rfl

theorem Same.addToColumns {other : Matrix} (same : matrix.Same other) {values otherValues : Nat → Rat}
    (rows : ∀ row < matrix.height, values row = otherValues row) :
    (matrix.addToColumns values).Same (other.addToColumns otherValues) :=
  ⟨same.width, same.height, fun column inWidth row inHeight => by
    simp only [Matrix.addToColumns, same.entry column inWidth row inHeight, rows row inHeight]⟩

theorem Same.multiplyAllEntriesBy {other : Matrix} (same : matrix.Same other) (coeff : Rat) :
    (matrix.multiplyAllEntriesBy coeff).Same (other.multiplyAllEntriesBy coeff) := by
  unfold Matrix.multiplyAllEntriesBy
  split_ifs
  · exact ⟨same.width, same.height, fun _ _ _ _ => rfl⟩
  · refine ⟨same.width, same.height, fun column inWidth row inHeight => ?_⟩
    dsimp only
    rw [same.entry column inWidth row inHeight]

def Null (matrix : Matrix) : Prop :=
  ∀ column < matrix.width, ∀ row < matrix.height, matrix.entry column row = 0

theorem Null.same_multiplyAllEntriesBy (null : matrix.Null) (coeff : Rat) :
    matrix.Same (matrix.multiplyAllEntriesBy coeff) := by
  unfold multiplyAllEntriesBy
  split_ifs
  · exact ⟨rfl, rfl, null⟩
  · refine ⟨rfl, rfl, fun column inWidth row inHeight => ?_⟩
    dsimp only
    rw [null column inWidth row inHeight, zero_mul]

def scaled (matrix : Matrix) (coeff : Rat) : Matrix :=
  { matrix with entry := fun column row => matrix.entry column row * coeff }

theorem same_scaled_iff {coeff : Rat} (changes : coeff ≠ 1) : matrix.Same (matrix.scaled coeff) ↔ matrix.Null := by
  constructor
  · intro same column inWidth row inHeight
    have fixed : matrix.entry column row = matrix.entry column row * coeff := same.entry column inWidth row inHeight
    have null : matrix.entry column row * (coeff - 1) = 0 := by
      rw [mul_sub, mul_one, ← fixed, sub_self]
    exact (mul_eq_zero.1 null).resolve_right (sub_ne_zero.2 changes)
  · intro null
    refine ⟨rfl, rfl, fun column inWidth row inHeight => ?_⟩
    simp only [scaled, null column inWidth row inHeight, zero_mul]

theorem multiplyAllEntriesBy_same_iff {coeff : Rat} :
    (matrix.multiplyAllEntriesBy coeff).Same (matrix.scaled coeff) ↔
      matrix.Null ∨ coeff = 0 ∨ mathZero coeff = false := by
  unfold multiplyAllEntriesBy
  cases small : mathZero coeff with
  | false =>
    simp only [Bool.false_eq_true, if_false, or_true, iff_true]
    exact Same.refl _
  | true =>
    simp only [if_true, Bool.true_eq_false, or_false]
    constructor
    · intro same
      by_cases exact_ : coeff = 0
      · exact .inr exact_
      · refine .inl fun column inWidth row inHeight => ?_
        have product : 0 = matrix.entry column row * coeff := same.entry column inWidth row inHeight
        exact (mul_eq_zero.1 product.symm).resolve_right exact_
    · rintro (null | rfl)
      · refine ⟨rfl, rfl, fun column inWidth row inHeight => ?_⟩
        simp only [scaled, zero_entry, null column inWidth row inHeight, zero_mul]
      · refine ⟨rfl, rfl, fun column _ row _ => ?_⟩
        simp only [scaled, zero_entry, mul_zero]

theorem addToColumns_twice (values more : Nat → Rat) :
    (matrix.addToColumns values).addToColumns more = matrix.addToColumns fun row => values row + more row := by
  simp only [addToColumns, add_assoc]

theorem Same.averageTimeseries {other : Matrix} (same : matrix.Same other) (roundValues : Bool) :
    (matrix.averageTimeseries roundValues).Same (other.averageTimeseries roundValues) := by
  unfold Matrix.averageTimeseries
  rw [← same.width, ← same.height]
  by_cases several : 1 < matrix.width
  · rw [if_pos several, if_pos several]
    refine ⟨rfl, rfl, fun column inWidth row inHeight => ?_⟩
    have first : column = 0 := Nat.lt_one_iff.1 inWidth
    have sums : ∑ column ∈ Finset.range matrix.width, matrix.entry column row =
        ∑ column ∈ Finset.range matrix.width, other.entry column row :=
      Finset.sum_congr rfl fun column mem => same.entry column (Finset.mem_range.1 mem) row inHeight
    subst first
    simp only [Function.update_self, sums]
  · rw [if_neg several, if_neg several]
    exact same

theorem Within.averageTimeseries {bound : Nat → Rat} (within : matrix.Within bound)
    (whole : ∀ row, ∃ value, bound row = mathRound value) : (matrix.averageTimeseries true).Within bound := by
  by_cases several : 1 < matrix.width
  · rw [Matrix.averageTimeseries, if_pos several]
    have positive : (0 : Rat) < matrix.width := by exact_mod_cast lt_trans Nat.zero_lt_one several
    intro column first row inside
    obtain rfl := Nat.lt_one_iff.mp first
    obtain ⟨value, rounded⟩ := whole row
    have constant (limit : Rat) :
        (∑ _column ∈ Finset.range matrix.width, limit) * (1 / matrix.width) = limit := by
      rw [Finset.sum_const, Finset.card_range, nsmul_eq_mul]
      field_simp
    have share : (0 : Rat) ≤ 1 / matrix.width := by positivity
    have between {lower upper : Rat}
        (entries : ∀ column ∈ Finset.range matrix.width, lower ≤ matrix.entry column row ∧ matrix.entry column row ≤ upper) :
        mathRound lower ≤ mathRound ((∑ column ∈ Finset.range matrix.width, matrix.entry column row) * (1 / matrix.width)) ∧
          mathRound ((∑ column ∈ Finset.range matrix.width, matrix.entry column row) * (1 / matrix.width)) ≤
            mathRound upper := by
      constructor
      · refine mathRound_mono ((constant lower).symm.trans_le (mul_le_mul_of_nonneg_right ?_ share))
        exact Finset.sum_le_sum fun column listed => (entries column listed).1
      · refine mathRound_mono (le_of_le_of_eq (mul_le_mul_of_nonneg_right ?_ share) (constant upper))
        exact Finset.sum_le_sum fun column listed => (entries column listed).2
    have fixed : mathRound (bound row) = bound row := by rw [rounded, mathRound_mathRound]
    dsimp only
    rw [Function.update_self, if_pos rfl]
    rcases le_total 0 (bound row) with positive | negative
    · rw [Set.uIcc_of_le positive]
      have mean := between fun column listed => by
        have entry := within column (Finset.mem_range.mp listed) row inside
        rwa [Set.uIcc_of_le positive] at entry
      rwa [mathRound_zero, fixed] at mean
    · rw [Set.uIcc_of_ge negative]
      have mean := between fun column listed => by
        have entry := within column (Finset.mem_range.mp listed) row inside
        rwa [Set.uIcc_of_ge negative] at entry
      rwa [mathRound_zero, fixed] at mean
  · rw [Matrix.averageTimeseries, if_neg several]
    exact within

end Matrix

end Antares.Data
