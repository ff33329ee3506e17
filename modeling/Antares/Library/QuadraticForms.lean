import Mathlib.Algebra.Order.BigOperators.Ring.Finset
import Mathlib.LinearAlgebra.Matrix.PosDef

/-! Quadratic forms of a matrix on finite sets of rows: where they are semidefinite and definite, and what one more
row makes of a triangular factor.
-/

set_option autoImplicit false

namespace Antares.Library

open Finset

section
variable {ι R : Type} [CommRing R]

def quadratic (matrix : ι → ι → R) (rows : Finset ι) (x : ι → R) : R :=
  ∑ i ∈ rows, ∑ j ∈ rows, x i * matrix i j * x j

variable (columns : Finset ι) (factor : ι → ι → R)

def gram (i j : ι) : R := ∑ m ∈ columns, factor i m * factor j m

theorem gram_comm (i j : ι) :
    gram columns factor i j = gram columns factor j i := sum_congr rfl fun _ _ => mul_comm _ _

variable {matrix other : ι → ι → R} {rows : Finset ι}

theorem quadratic_congr (same : ∀ i ∈ rows, ∀ j ∈ rows, matrix i j = other i j) (x : ι → R) :
    quadratic matrix rows x = quadratic other rows x := by
  apply sum_congr rfl
  intro i inside
  apply sum_congr rfl
  intro j listed
  rw [same i inside j listed]

theorem quadratic_add (x : ι → R) :
    quadratic (fun i j => matrix i j + other i j) rows x = quadratic matrix rows x + quadratic other rows x := by
  simp only [quadratic, mul_add, add_mul, sum_add_distrib]

theorem quadratic_mul (factor : R) (x : ι → R) :
    quadratic (fun i j => factor * matrix i j) rows x = factor * quadratic matrix rows x := by
  unfold quadratic
  rw [mul_sum]
  apply sum_congr rfl
  intro i _
  rw [mul_sum]
  apply sum_congr rfl
  intro j _
  ring

theorem quadratic_gram (columns : Finset ι) (factor : ι → ι → R) (x : ι → R) :
    quadratic (gram columns factor) rows x = ∑ m ∈ columns, (∑ i ∈ rows, x i * factor i m) ^ 2 := by
  have square (m : ι) : (∑ i ∈ rows, x i * factor i m) ^ 2 =
      ∑ i ∈ rows, ∑ j ∈ rows, x i * (factor i m * factor j m) * x j := by
    rw [pow_two, sum_mul_sum]
    apply sum_congr rfl
    intro i _
    apply sum_congr rfl
    intro j _
    ring
  simp only [square, quadratic, gram, mul_sum, sum_mul]
  rw [sum_comm (s := columns)]
  apply sum_congr rfl
  intro i _
  rw [sum_comm]

section
variable [DecidableEq ι]

theorem quadratic_restrict {more : Finset ι} (part : rows ⊆ more) (x : ι → R) :
    quadratic matrix more (fun i => if i ∈ rows then x i else 0) = quadratic matrix rows x := by
  unfold quadratic
  rw [← sum_subset part]
  · apply sum_congr rfl
    intro i inside
    rw [← sum_subset part]
    · apply sum_congr rfl
      intro j listed
      dsimp only
      rw [if_pos inside, if_pos listed]
    · intro j _ outside
      dsimp only
      rw [if_neg outside, mul_zero]
  · intro i _ outside
    apply sum_eq_zero
    intro j _
    dsimp only
    rw [if_neg outside, zero_mul, zero_mul]

theorem quadratic_diagonal {k : ι} (inside : k ∈ rows) (extra : R) (x : ι → R) :
    quadratic (fun i j => if i = k ∧ j = k then extra else 0) rows x = extra * x k ^ 2 := by
  unfold quadratic
  rw [sum_eq_single_of_mem k inside, sum_eq_single_of_mem k inside]
  · dsimp only
    rw [if_pos ⟨rfl, rfl⟩]
    ring
  · intro j _ apart
    dsimp only
    rw [if_neg (fun same => apart same.2), mul_zero, zero_mul]
  · intro i _ apart
    apply sum_eq_zero
    intro j _
    dsimp only
    rw [if_neg (fun same => apart same.1), mul_zero, zero_mul]

end

section
variable [LinearOrder R]

def SemidefiniteOn (matrix : ι → ι → R) (rows : Finset ι) : Prop := ∀ x, 0 ≤ quadratic matrix rows x

def DefiniteOn (matrix : ι → ι → R) (rows : Finset ι) : Prop := ∀ x, (∃ i ∈ rows, x i ≠ 0) → 0 < quadratic matrix rows x

theorem SemidefiniteOn.mono [DecidableEq ι] {more : Finset ι} (semidefinite : SemidefiniteOn matrix more)
    (part : rows ⊆ more) : SemidefiniteOn matrix rows := by
  intro x
  rw [← quadratic_restrict part]
  exact semidefinite _

theorem DefiniteOn.mono [DecidableEq ι] {more : Finset ι} (definite : DefiniteOn matrix more) (part : rows ⊆ more) :
    DefiniteOn matrix rows := by
  rintro x ⟨i, inside, apart⟩
  rw [← quadratic_restrict part]
  exact definite _ ⟨i, part inside, by rwa [if_pos inside]⟩

end

end

section
variable {ι R : Type} [Field R] [LinearOrder R] [IsStrictOrderedRing R] [DecidableEq ι]
variable {matrix : ι → ι → R} {rows : Finset ι}

theorem SemidefiniteOn.null (semidefinite : SemidefiniteOn matrix rows)
    (symmetric : ∀ i ∈ rows, ∀ j ∈ rows, matrix i j = matrix j i) {x : ι → R} (null : quadratic matrix rows x = 0)
    {i : ι} (inside : i ∈ rows) : ∑ j ∈ rows, matrix i j * x j = 0 := by
  -- the form along the line through the point in the direction of the row
  have line (t : R) : quadratic matrix rows (fun j => x j + if j = i then t else 0) =
      2 * t * ∑ j ∈ rows, matrix i j * x j + t ^ 2 * matrix i i := by
    have products (first second : ι) : (x first + if first = i then t else 0) * matrix first second *
        (x second + if second = i then t else 0) = x first * matrix first second * x second +
          (if first = i then t * (matrix first second * x second) else 0) +
          (if second = i then t * (x first * matrix first second) else 0) +
          if first = i then (if second = i then t ^ 2 * matrix first second else 0) else 0 := by
      split_ifs <;> ring
    have column : ∑ j ∈ rows, x j * matrix j i = ∑ j ∈ rows, matrix i j * x j := by
      apply sum_congr rfl
      intro j listed
      rw [symmetric j listed i inside, mul_comm]
    unfold quadratic at null ⊢
    simp only [products, sum_add_distrib, null, zero_add, sum_ite_eq', inside, if_true, ← mul_sum, sum_ite_irrel,
      sum_const_zero, column]
    ring
  by_contra apart
  generalize ∑ j ∈ rows, matrix i j * x j = slope at line apart
  -- far enough against the slope the form is below zero
  have below (t : R) : 0 ≤ 2 * t * slope + t ^ 2 * matrix i i := by
    rw [← line t]
    exact semidefinite _
  have diagonal : 0 ≤ matrix i i := by
    have up := below 1
    have down := below (-1)
    linarith
  have positive : 0 < matrix i i + 1 := by linarith
  obtain ⟨t, rfl⟩ : ∃ t, slope = t * (matrix i i + 1) :=
    ⟨slope / (matrix i i + 1), (div_mul_cancel₀ slope positive.ne').symm⟩
  have used : t ≠ 0 := left_ne_zero_of_mul apart
  have value : 2 * -t * (t * (matrix i i + 1)) + (-t) ^ 2 * matrix i i = -(t ^ 2 * (matrix i i + 2)) := by ring
  have square : 0 < t ^ 2 * (matrix i i + 2) := by positivity
  have step := below (-t)
  linarith

end

section
variable {ι R : Type} [Field R] [LinearOrder R] [LinearOrder ι]

structure Triangular (factor : ι → ι → R) (pivots : Finset ι) : Prop where
  above : ∀ i ∈ pivots, ∀ m ∈ pivots, i < m → factor i m = 0
  positive : ∀ i ∈ pivots, 0 < factor i i

variable {factor : ι → ι → R} {pivots : Finset ι}

theorem Triangular.mono {fewer : Finset ι} (triangular : Triangular factor pivots) (part : fewer ⊆ pivots) :
    Triangular factor fewer where
  above i inside m listed := triangular.above i (part inside) m (part listed)
  positive i inside := triangular.positive i (part inside)

theorem Triangular.sum_insert_last {last : ι} (triangular : Triangular factor (insert last pivots))
    (before : ∀ i ∈ pivots, i < last) (x : ι → R) :
    (∑ i ∈ insert last pivots, x i * factor i last = x last * factor last last) ∧
      ∀ m, ∑ i ∈ insert last pivots, x i * factor i m = x last * factor last m + ∑ i ∈ pivots, x i * factor i m := by
  have outside : last ∉ pivots := fun inside => (before last inside).false
  have columns (m : ι) := sum_insert (f := fun i => x i * factor i m) outside
  refine ⟨?_, columns⟩
  rw [columns last, sum_eq_zero, add_zero]
  intro i inside
  rw [triangular.above i (mem_insert_of_mem inside) last (mem_insert_self last pivots) (before i inside), mul_zero]

theorem Triangular.solve (triangular : Triangular factor pivots) (b : ι → R) :
    ∃ x : ι → R, ∀ m ∈ pivots, ∑ i ∈ pivots, x i * factor i m = b m := by
  induction pivots using Finset.induction_on_max generalizing b with
  | empty => exact ⟨b, fun m none => absurd none (notMem_empty m)⟩
  | insert last pivots before ih =>
    have positive := triangular.positive last (mem_insert_self last pivots)
    obtain ⟨x, solves⟩ := ih (triangular.mono (subset_insert last pivots))
      fun m => b m - b last / factor last last * factor last m
    refine ⟨Function.update x last (b last / factor last last), ?_⟩
    obtain ⟨end_eq, columns⟩ := triangular.sum_insert_last before (Function.update x last (b last / factor last last))
    have kept (m : ι) : ∑ i ∈ pivots, Function.update x last (b last / factor last last) i * factor i m =
        ∑ i ∈ pivots, x i * factor i m := by
      apply sum_congr rfl
      intro i inside
      rw [Function.update_of_ne (before i inside).ne]
    intro m listed
    rcases mem_insert.mp listed with rfl | inside
    · rw [end_eq, Function.update_self, div_mul_cancel₀ _ positive.ne']
    · rw [columns, kept, solves m inside, Function.update_self]
      ring

theorem Triangular.eq_zero (triangular : Triangular factor pivots) {x : ι → R}
    (zero : ∀ m ∈ pivots, ∑ i ∈ pivots, x i * factor i m = 0) : ∀ i ∈ pivots, x i = 0 := by
  induction pivots using Finset.induction_on_max with
  | empty => exact fun i none => absurd none (notMem_empty i)
  | insert last pivots before ih =>
    have positive := triangular.positive last (mem_insert_self last pivots)
    obtain ⟨end_eq, columns⟩ := triangular.sum_insert_last before x
    rw [zero last (mem_insert_self last pivots), eq_comm, mul_eq_zero, or_iff_left positive.ne'] at end_eq
    have others := ih (triangular.mono (subset_insert last pivots)) fun m inside => by
      rw [← zero m (mem_insert_of_mem inside), columns m, end_eq, zero_mul, zero_add]
    intro i listed
    rcases mem_insert.mp listed with rfl | inside
    · exact end_eq
    · exact others i inside

/-- Pivots with their factor, and one more row: its products are those of the factor, but for its diagonal. -/
structure Bordered (matrix factor : ι → ι → R) (pivots : Finset ι) (k : ι) : Prop where
  triangular : Triangular factor pivots
  outside : k ∉ pivots
  products : ∀ i ∈ pivots, ∀ j ∈ pivots, matrix i j = gram pivots factor i j
  row : ∀ j ∈ pivots, matrix k j = gram pivots factor k j
  column : ∀ j ∈ pivots, matrix j k = gram pivots factor j k

namespace Bordered
variable {matrix : ι → ι → R} {k : ι} (bordered : Bordered matrix factor pivots k)
include bordered

theorem quadratic_eq (x : ι → R) : quadratic matrix (insert k pivots) x =
    ∑ m ∈ pivots, (∑ i ∈ insert k pivots, x i * factor i m) ^ 2 +
      (matrix k k - ∑ m ∈ pivots, factor k m ^ 2) * x k ^ 2 := by
  rw [← quadratic_gram, ← quadratic_diagonal (mem_insert_self k pivots), ← quadratic_add]
  apply quadratic_congr
  intro i inside j listed
  have diagonal : gram pivots factor k k = ∑ m ∈ pivots, factor k m ^ 2 := by simp only [gram, pow_two]
  rcases mem_insert.mp inside with rfl | pivot
  · rcases mem_insert.mp listed with rfl | other
    · rw [if_pos ⟨rfl, rfl⟩, diagonal]
      ring
    · have apart : j ≠ i := fun same => bordered.outside (same ▸ other)
      rw [if_neg (fun both => apart both.2), add_zero, bordered.row j other]
  · have apart : i ≠ k := fun same => bordered.outside (same ▸ pivot)
    rw [if_neg (fun both => apart both.1), add_zero]
    rcases mem_insert.mp listed with rfl | other
    · exact bordered.column i pivot
    · exact bordered.products i pivot j other

theorem exists_combination : ∃ x : ι → R, x k = 1 ∧ ∀ m ∈ pivots, ∑ i ∈ insert k pivots, x i * factor i m = 0 := by
  obtain ⟨x, solves⟩ := bordered.triangular.solve fun m => -factor k m
  refine ⟨Function.update x k 1, Function.update_self k 1 x, ?_⟩
  intro m inside
  have kept : ∑ i ∈ pivots, Function.update x k 1 i * factor i m = ∑ i ∈ pivots, x i * factor i m := by
    apply sum_congr rfl
    intro i listed
    have apart : i ≠ k := fun same => bordered.outside (same ▸ listed)
    rw [Function.update_of_ne apart]
  rw [sum_insert bordered.outside, kept, solves m inside, Function.update_self, one_mul, add_neg_cancel]

variable [IsStrictOrderedRing R]

theorem semidefiniteOn_iff : SemidefiniteOn matrix (insert k pivots) ↔ ∑ m ∈ pivots, factor k m ^ 2 ≤ matrix k k := by
  constructor
  · intro semidefinite
    obtain ⟨x, one, zero⟩ := bordered.exists_combination
    have form := semidefinite x
    rw [bordered.quadratic_eq, one, sum_eq_zero fun m inside => by rw [zero m inside, sq, mul_zero]] at form
    linarith
  · intro within x
    rw [bordered.quadratic_eq]
    exact add_nonneg (sum_nonneg fun m _ => sq_nonneg _) (mul_nonneg (sub_nonneg.mpr within) (sq_nonneg _))

theorem definiteOn_iff : DefiniteOn matrix (insert k pivots) ↔ ∑ m ∈ pivots, factor k m ^ 2 < matrix k k := by
  constructor
  · intro definite
    obtain ⟨x, one, zero⟩ := bordered.exists_combination
    have form := definite x ⟨k, mem_insert_self k pivots, one ▸ one_ne_zero⟩
    rw [bordered.quadratic_eq, one, sum_eq_zero fun m inside => by rw [zero m inside, sq, mul_zero]] at form
    linarith
  · rintro within x ⟨i, inside, used⟩
    rw [bordered.quadratic_eq]
    have squares : 0 ≤ ∑ m ∈ pivots, (∑ i ∈ insert k pivots, x i * factor i m) ^ 2 := sum_nonneg fun m _ => sq_nonneg _
    have gap : 0 < matrix k k - ∑ m ∈ pivots, factor k m ^ 2 := sub_pos.mpr within
    by_cases last : x k = 0
    -- without the new row, one of the squares is not zero
    · apply add_pos_of_pos_of_nonneg _ (mul_nonneg gap.le (sq_nonneg _))
      apply squares.lt_of_ne
      intro zero
      rw [eq_comm, sum_eq_zero_iff_of_nonneg fun m _ => sq_nonneg _] at zero
      have columns (m : ι) (listed : m ∈ pivots) : ∑ i ∈ pivots, x i * factor i m = 0 := by
        have column := pow_eq_zero_iff two_ne_zero |>.mp (zero m listed)
        rwa [sum_insert bordered.outside, last, zero_mul, zero_add] at column
      rcases mem_insert.mp inside with rfl | member
      · exact used last
      · exact used (bordered.triangular.eq_zero columns i member)
    · exact add_pos_of_nonneg_of_pos squares (mul_pos gap (by positivity))

end Bordered

end

theorem posSemidef_iff_semidefiniteOn {R : Type} [Field R] [LinearOrder R] [StarRing R] [TrivialStar R] {size : Nat}
    {matrix : Nat → Nat → R} (symmetric : ∀ i < size, ∀ j < size, matrix i j = matrix j i) :
    (Matrix.of fun i j : Fin size => matrix i j).PosSemidef ↔ SemidefiniteOn matrix (range size) := by
  have hermitian : (Matrix.of fun i j : Fin size => matrix i j).IsHermitian := by
    ext i j
    rw [Matrix.conjTranspose_apply, star_trivial]
    exact symmetric j j.isLt i i.isLt
  have form (x : Nat → R) : star (fun i : Fin size => x i) ⬝ᵥ
      ((Matrix.of fun i j : Fin size => matrix i j).mulVec fun i => x i) = quadratic matrix (range size) x := by
    unfold quadratic
    rw [sum_range]
    apply sum_congr rfl
    intro i _
    rw [sum_range, Matrix.mulVec, dotProduct, mul_sum, Pi.star_apply, star_trivial]
    apply sum_congr rfl
    intro j _
    rw [Matrix.of_apply, mul_assoc]
  rw [Matrix.posSemidef_iff_dotProduct_mulVec, and_iff_right hermitian]
  constructor
  · intro semidefinite x
    rw [← form]
    exact semidefinite _
  · intro semidefinite x
    have extended : (fun i : Fin size => if inside : i.1 < size then x ⟨i.1, inside⟩ else 0) = x := by
      funext i
      exact dif_pos i.isLt
    rw [← extended, form fun i => if inside : i < size then x ⟨i, inside⟩ else 0]
    exact semidefinite _

end Antares.Library
