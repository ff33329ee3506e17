import Mathlib.LinearAlgebra.LinearIndependent.Defs
import Mathlib.LinearAlgebra.Span.Basic
import Mathlib.GroupTheory.GroupAction.Ring
import Mathlib.Algebra.BigOperators.Fin

/-! Linear functionals taken in turn, each with a vector on which it is not null, and the later functionals made
null on that vector: the vectors are independent, and no others are needed.
-/

set_option autoImplicit false

namespace Antares.Library.RowElimination

variable {K M : Type*} [Field K] [AddCommGroup M] [Module K M]

def reduceRow (vector : M) (row other : M →ₗ[K] K) : M →ₗ[K] K := other - (other vector / row vector) • row

def Eliminates : List (M →ₗ[K] K) → List M → Prop
  | [], [] => True
  | row :: rows, vector :: vectors =>
    row vector ≠ 0 ∧ Eliminates (rows.map (reduceRow vector row)) vectors
  | _, _ => False

theorem reduceRow_apply (vector : M) (row other : M →ₗ[K] K) (v : M) :
    reduceRow vector row other v = other v - other vector / row vector * row v := rfl

theorem reduceRow_self {vector : M} {row : M →ₗ[K] K} (own : row vector ≠ 0) (other : M →ₗ[K] K) :
    reduceRow vector row other vector = 0 := by
  rw [reduceRow_apply, div_mul_cancel₀ _ own, sub_self]

variable {rows : List (M →ₗ[K] K)}

variable {vectors : List M}

theorem Eliminates.length_eq (eliminates : Eliminates rows vectors) :
    vectors.length = rows.length := by
  induction vectors generalizing rows with
  | nil =>
    cases rows with
    | nil => rfl
    | cons row rows => exact eliminates.elim
  | cons vector vectors ih =>
    cases rows with
    | nil => exact eliminates.elim
    | cons row rows =>
      have rest := ih eliminates.2
      rw [List.length_map] at rest
      rw [List.length_cons, List.length_cons, rest]

theorem Eliminates.coefficients {rows : List (M →ₗ[K] K)} {vectors : List M} (eliminates : Eliminates rows vectors)
    (coefficients : Fin vectors.length → K)
    (null : ∀ row ∈ rows, row (∑ place, coefficients place • vectors.get place) = 0) :
    ∀ place, coefficients place = 0 := by
  induction vectors generalizing rows with
  | nil => exact fun place => place.elim0
  | cons vector vectors ih =>
    cases rows with
    | nil => exact eliminates.elim
    | cons row rows =>
      obtain ⟨own, rest⟩ := eliminates
      have whole : ∑ place, coefficients place • (vector :: vectors).get place =
          coefficients 0 • vector + ∑ place : Fin vectors.length, coefficients place.succ • vectors.get place :=
        Fin.sum_univ_succ fun place : Fin (vectors.length + 1) => coefficients place • (vector :: vectors).get place
      rw [whole] at null
      -- a reduced functional is null on the whole and on the first vector, and so on the others
      have tail : ∀ place, coefficients (Fin.succ place) = 0 := by
        apply ih rest fun place => coefficients place.succ
        intro reduced member
        obtain ⟨other, listed, rfl⟩ := List.mem_map.mp member
        have onWhole := reduceRow_apply vector row other
          (coefficients 0 • vector + ∑ place : Fin vectors.length, coefficients place.succ • vectors.get place)
        rw [null other (List.mem_cons_of_mem _ listed), null row List.mem_cons_self, mul_zero, sub_zero, map_add,
          map_smul, reduceRow_self own, smul_zero, zero_add] at onWhole
        exact onWhole
      have first := null row List.mem_cons_self
      have others : ∑ place : Fin vectors.length, coefficients place.succ • vectors.get place = 0 := by
        apply Finset.sum_eq_zero
        intro place _
        rw [tail place, zero_smul]
      rw [others, add_zero, map_smul, smul_eq_mul] at first
      have head : coefficients (0 : Fin (vectors.length + 1)) = 0 := (mul_eq_zero.mp first).resolve_right own
      exact fun place => Fin.cases head tail place

theorem Eliminates.linearIndependent
    (eliminates : Eliminates rows vectors) : LinearIndependent K fun place : Fin vectors.length => vectors.get place := by
  rw [Fintype.linearIndependent_iff]
  intro coefficients combination
  apply eliminates.coefficients
  intro row _
  rw [combination, map_zero]

theorem Eliminates.exists_combination
    (eliminates : Eliminates rows vectors) (v : M) :
    ∃ u ∈ Submodule.span K {vector | vector ∈ vectors}, ∀ row ∈ rows, row (v - u) = 0 := by
  induction vectors generalizing rows with
  | nil =>
    cases rows with
    | nil => exact ⟨0, Submodule.zero_mem _, fun row member => absurd member List.not_mem_nil⟩
    | cons row rows => exact eliminates.elim
  | cons vector vectors ih =>
    cases rows with
    | nil => exact eliminates.elim
    | cons row rows =>
      obtain ⟨own, rest⟩ := eliminates
      obtain ⟨u, inside, null⟩ := ih rest
      have larger : Submodule.span K {other | other ∈ vectors} ≤ Submodule.span K {other | other ∈ vector :: vectors} :=
        Submodule.span_mono fun other member => List.mem_cons_of_mem _ member
      have first : vector ∈ Submodule.span K {other | other ∈ vector :: vectors} :=
        Submodule.subset_span List.mem_cons_self
      -- the first vector takes what is left of the first functional
      have nullFirst : row (v - (u + (row (v - u) / row vector) • vector)) = 0 := by
        rw [← sub_sub, map_sub, map_smul, smul_eq_mul, div_mul_cancel₀ _ own, sub_self]
      refine ⟨u + (row (v - u) / row vector) • vector,
        Submodule.add_mem _ (larger inside) (Submodule.smul_mem _ _ first), fun other member => ?_⟩
      rcases List.mem_cons.mp member with rfl | listed
      · exact nullFirst
      · have reduced := null _ (List.mem_map.mpr ⟨other, listed, rfl⟩)
        have kept : reduceRow vector row other (v - (u + (row (v - u) / row vector) • vector)) = 0 := by
          rw [← sub_sub, map_sub, reduced, map_smul, reduceRow_self own, smul_zero, sub_zero]
        rw [reduceRow_apply, nullFirst, mul_zero, sub_zero] at kept
        exact kept

end Antares.Library.RowElimination
