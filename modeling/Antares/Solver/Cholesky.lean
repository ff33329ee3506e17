import Antares.Library.QuadraticForms
import Antares.Library.StoppedRuns
import Mathlib.Analysis.Real.Sqrt

/-! The factorisation of correlation matrices, which accepts singular ones: what it checks of a matrix, and which
matrices it tells from the semidefinite ones.
-/

set_option autoImplicit false

namespace Antares.Solver

open Finset Library

/-- The factor and the squares of its rows that were added up in `temp`. -/
structure Factorisation (K : Type) where
  L : Nat → Nat → K
  temp : Nat → K

section
variable {K : Type}

def setEntry (L : Nat → Nat → K) (k i : Nat) (value : K) : Nat → Nat → K := Function.update L k (Function.update (L k) i value)

variable [Field K] [LinearOrder K]

/-- The first products of two rows are taken off one after the other. -/
def takeOff (som : K) (Li Lk : Nat → K) (i : Nat) : K := (List.range i).foldl (fun som j => som - Li j * Lk j) som

/-- An entry below the diagonal; the run stops when the row is longer than the diagonal allows. -/
def entryBelow (A : Nat → Nat → K) (i : Nat) (state : Factorisation K) (k : Nat) :
    Except (Factorisation K) (Factorisation K) :=
  if state.temp k = A k k then .ok { state with L := setEntry state.L k i 0 }
  else
    let entry := takeOff (A k i) (state.L i) (state.L k) i / state.L i i
    let state := { L := setEntry state.L k i entry, temp := Function.update state.temp k (state.temp k + entry * entry) }
    if A k k < state.temp k then .error state else .ok state

def factorColumn (epsimin : K) (squareRoot : K → K) (A : Nat → Nat → K) (size : Nat) (state : Factorisation K) (i : Nat) :
    Except (Factorisation K) (Factorisation K) :=
  let som := takeOff (A i i) (state.L i) (state.L i) i
  if epsimin < som then
    (List.range' (i + 1) (size - (i + 1))).foldlM (entryBelow A i)
      { state with L := setEntry state.L i i (squareRoot som) }
  else .ok { state with L := (List.range' i (size - i)).foldl (fun L k => setEntry L k i 0) state.L }

/-- `Cholesky`, with what it leaves in `L` and `temp` -/
def cholesky (epsimin : K) (squareRoot : K → K) (A : Nat → Nat → K) (size : Nat) (start : Factorisation K) :
    Bool × Factorisation K :=
  let cleared := { start with temp := fun k => if k < size then 0 else start.temp k }
  match (List.range size).foldlM (factorColumn epsimin squareRoot A size) cleared with
  | .ok state => (false, state)
  | .error state => (true, state)

def lower (L : Nat → Nat → K) (k i : Nat) : K := if i ≤ k then L k i else 0

end

section
variable {K : Type}

theorem setEntry_apply (L : Nat → Nat → K) (k i : Nat) (value : K) (row column : Nat) :
    setEntry L k i value row column = if row = k ∧ column = i then value else L row column := by
  unfold setEntry
  by_cases same : row = k
  · subst same
    rw [Function.update_self, Function.update_apply]
    simp only [true_and]
  · rw [Function.update_of_ne same, if_neg fun both => same both.1]

theorem lower_of_lt [Field K] {L : Nat → Nat → K} {k l : Nat} (above : k < l) : lower L k l = 0 := if_neg (by omega)

theorem lower_of_le [Field K] {L : Nat → Nat → K} {k l : Nat} (below : l ≤ k) : lower L k l = L k l := if_pos below

theorem takeOff_eq [Field K] (som : K) (Li Lk : Nat → K) (i : Nat) :
    takeOff som Li Lk i = som - ∑ j ∈ range i, Li j * Lk j := by
  unfold takeOff
  induction i with
  | zero => simp
  | succ i ih =>
    rw [List.range_succ, List.foldl_append, ih, sum_range_succ]
    simp only [List.foldl_cons, List.foldl_nil]
    ring

theorem foldl_setEntry_zero [Field K] (L : Nat → Nat → K) (i count row column : Nat) :
    (List.range' i count).foldl (fun L k => setEntry L k i 0) L row column =
      if column = i ∧ i ≤ row ∧ row < i + count then 0 else L row column := by
  induction count with
  | zero => exact (if_neg (by omega)).symm
  | succ count ih =>
    rw [List.range'_1_concat, List.foldl_append, List.foldl_cons, List.foldl_nil, setEntry_apply, ih]
    by_cases last : row = i + count ∧ column = i
    · rw [if_pos last, if_pos (by omega)]
    · rw [if_neg last]
      have same : (column = i ∧ i ≤ row ∧ row < i + count) ↔ column = i ∧ i ≤ row ∧ row < i + (count + 1) := by omega
      simp only [same]

end

section
variable {K : Type} [Field K] [LinearOrder K] (epsimin : K) (squareRoot : K → K) {A other : Nat → Nat → K} {size : Nat}

/-- `Cholesky` reads the lower triangle only. -/
theorem cholesky_congr (same : ∀ k < size, ∀ i ≤ k, A k i = other k i) (start : Factorisation K) :
    cholesky epsimin squareRoot A size start = cholesky epsimin squareRoot other size start := by
  have column (i : Nat) (inside : i ∈ List.range size) (state : Factorisation K) :
      factorColumn epsimin squareRoot A size state i = factorColumn epsimin squareRoot other size state i := by
    have before := List.mem_range.mp inside
    have rows (state : Factorisation K) :
        (List.range' (i + 1) (size - (i + 1))).foldlM (entryBelow A i) state =
          (List.range' (i + 1) (size - (i + 1))).foldlM (entryBelow other i) state := by
      apply foldlM_congr
      intro k listed state
      obtain ⟨below, within⟩ := List.mem_range'_1.mp listed
      unfold entryBelow
      rw [same k (by omega) k le_rfl, same k (by omega) i (by omega)]
    unfold factorColumn
    simp only [same i before i le_rfl, rows]
  have run (state : Factorisation K) : (List.range size).foldlM (factorColumn epsimin squareRoot A size) state =
      (List.range size).foldlM (factorColumn epsimin squareRoot other size) state :=
    foldlM_congr column state
  unfold cholesky
  simp only [run]

end

section
variable {K : Type} [Field K] [LinearOrder K] (A : Nat → Nat → K) (i : Nat) (state : Factorisation K)

def entryOf (k : Nat) : K :=
  if state.temp k = A k k then 0 else (A k i - ∑ j ∈ range i, state.L i j * state.L k j) / state.L i i

/-- The column is filled for the rows before a bound, and its squares are added. -/
def filledBelow (bound : Nat) : Factorisation K where
  L k j := if j = i ∧ i < k ∧ k < bound then entryOf A i state k else state.L k j
  temp k := if i < k ∧ k < bound then state.temp k + entryOf A i state k ^ 2 else state.temp k

def TooLong (bound : Nat) : Prop := ∃ k, i < k ∧ k < bound ∧ A k k < state.temp k + entryOf A i state k ^ 2

variable {A i state}

theorem filledBelow_start : filledBelow A i state (i + 1) = state := by
  unfold filledBelow
  have none (k : Nat) : ¬ (i < k ∧ k < i + 1) := by omega
  simp only [none, and_false, if_false]

theorem filledBelow_succ {k : Nat} (below : i < k) : filledBelow A i state (k + 1) =
    { L := setEntry (filledBelow A i state k).L k i (entryOf A i state k)
      temp := Function.update (filledBelow A i state k).temp k (state.temp k + entryOf A i state k ^ 2) } := by
  unfold filledBelow
  congr 1
  · funext row column
    rw [setEntry_apply]
    by_cases filled : row = k ∧ column = i
    · obtain ⟨rfl, rfl⟩ := filled
      rw [if_pos ⟨rfl, below, Nat.lt_succ_self row⟩, if_pos ⟨rfl, rfl⟩]
    · rw [if_neg filled]
      have same : (column = i ∧ i < row ∧ row < k + 1) ↔ column = i ∧ i < row ∧ row < k := by omega
      simp only [same]
  · funext row
    by_cases filled : row = k
    · subst filled
      rw [if_pos ⟨below, Nat.lt_succ_self row⟩, Function.update_self]
    · rw [Function.update_of_ne filled]
      have same : (i < row ∧ row < k + 1) ↔ i < row ∧ row < k := by omega
      simp only [same]

theorem entryBelow_ends {k : Nat} (below : i < k) :
    Ends (entryBelow A i (filledBelow A i state k) k)
      (fun after => after = filledBelow A i state (k + 1) ∧ state.temp k + entryOf A i state k ^ 2 ≤ A k k)
      fun _ => A k k < state.temp k + entryOf A i state k ^ 2 := by
  have temp : (filledBelow A i state k).temp k = state.temp k := if_neg (by omega)
  have pivotRow : (filledBelow A i state k).L i = state.L i := by
    funext column
    exact if_neg (by omega)
  have row : (filledBelow A i state k).L k = state.L k := by
    funext column
    exact if_neg (by omega)
  unfold entryBelow
  rw [temp, pivotRow, row, takeOff_eq]
  by_cases saturated : state.temp k = A k k
  · rw [if_pos saturated]
    have entry : entryOf A i state k = 0 := if_pos saturated
    constructor
    · rw [filledBelow_succ below, entry, zero_pow two_ne_zero, add_zero, ← temp, Function.update_eq_self]
    · rw [entry, saturated, zero_pow two_ne_zero, add_zero]
  · rw [if_neg saturated]
    have entry : entryOf A i state k = (A k i - ∑ j ∈ range i, state.L i j * state.L k j) / state.L i i :=
      if_neg saturated
    simp only [← entry, Function.update_self, ← pow_two]
    split_ifs with long
    · exact long
    · exact ⟨(filledBelow_succ below).symm, not_lt.mp long⟩

theorem foldlM_entryBelow_ends (count : Nat) :
    Ends ((List.range' (i + 1) count).foldlM (entryBelow A i) state)
      (fun after => after = filledBelow A i state (i + 1 + count) ∧ ¬ TooLong A i state (i + 1 + count))
      fun _ => TooLong A i state (i + 1 + count) := by
  apply Ends.foldlM_range' fun bound after => after = filledBelow A i state bound ∧ ¬ TooLong A i state bound
  · rintro k below inside _ ⟨rfl, short⟩
    apply (entryBelow_ends (show i < k by omega)).mono
    · rintro _ ⟨rfl, within⟩
      refine ⟨rfl, ?_⟩
      rintro ⟨row, after, before, long⟩
      rcases Nat.lt_succ_iff_lt_or_eq.mp before with earlier | rfl
      · exact short ⟨row, after, earlier, long⟩
      · exact within.not_gt long
    · exact fun _ long => ⟨k, by omega, inside, long⟩
  · refine ⟨filledBelow_start.symm, ?_⟩
    rintro ⟨k, after, before, _⟩
    omega

end

section
variable {K : Type} [Field K] [LinearOrder K] (A : Nat → Nat → K)

open Classical in
/-- The pivots of a matrix: a row that has a definite form together with the pivots before it -/
noncomputable def pivotsBefore : Nat → Finset Nat
  | 0 => ∅
  | i + 1 => if DefiniteOn A (insert i (pivotsBefore i)) then insert i (pivotsBefore i) else pivotsBefore i

/-- A row that was definite with the pivots before another one is not semidefinite with that one too. -/
def Detected (size : Nat) : Prop := ∃ k < size, ∃ i < k,
  DefiniteOn A (insert k (pivotsBefore A i)) ∧ ¬ SemidefiniteOn A (insert k (pivotsBefore A (i + 1)))

variable {A}

theorem pivotsBefore_succ_of_definite {i : Nat} (definite : DefiniteOn A (insert i (pivotsBefore A i))) :
    pivotsBefore A (i + 1) = insert i (pivotsBefore A i) := if_pos definite

theorem pivotsBefore_succ_of_not {i : Nat} (null : ¬ DefiniteOn A (insert i (pivotsBefore A i))) :
    pivotsBefore A (i + 1) = pivotsBefore A i := if_neg null

theorem lt_of_mem_pivots {i m : Nat} (pivot : m ∈ pivotsBefore A i) : m < i := by
  induction i with
  | zero => exact absurd pivot (notMem_empty m)
  | succ i ih =>
    by_cases definite : DefiniteOn A (insert i (pivotsBefore A i))
    · rw [pivotsBefore_succ_of_definite definite] at pivot
      rcases mem_insert.mp pivot with rfl | before
      · exact Nat.lt_succ_self m
      · exact Nat.lt_succ_of_lt (ih before)
    · rw [pivotsBefore_succ_of_not definite] at pivot
      exact Nat.lt_succ_of_lt (ih pivot)

theorem notMem_pivots {i k : Nat} (after : i ≤ k) : k ∉ pivotsBefore A i :=
  fun pivot => (lt_of_mem_pivots pivot).not_ge after

theorem pivotsBefore_subset_succ (i : Nat) : pivotsBefore A i ⊆ pivotsBefore A (i + 1) := by
  by_cases definite : DefiniteOn A (insert i (pivotsBefore A i))
  · rw [pivotsBefore_succ_of_definite definite]
    exact subset_insert _ _
  · rw [pivotsBefore_succ_of_not definite]

theorem pivotsBefore_mono : Monotone (pivotsBefore A) := monotone_nat_of_le_succ pivotsBefore_subset_succ

theorem pivotsBefore_subset_range (i : Nat) : pivotsBefore A i ⊆ range i :=
  fun _ pivot => mem_range.mpr (lt_of_mem_pivots pivot)

theorem mem_pivots_of_lt {i j m : Nat} (pivot : m ∈ pivotsBefore A j) (before : m < i) : m ∈ pivotsBefore A i := by
  rcases Nat.le_total j i with earlier | later
  · exact pivotsBefore_mono earlier pivot
  · induction later with
    | refl => exact pivot
    | @step j later ih =>
      apply ih
      by_cases definite : DefiniteOn A (insert j (pivotsBefore A j))
      · rw [Nat.succ_eq_add_one, pivotsBefore_succ_of_definite definite] at pivot
        have apart : m ≠ j := (Nat.lt_of_lt_of_le before later).ne
        exact mem_of_mem_insert_of_ne pivot apart
      · rwa [Nat.succ_eq_add_one, pivotsBefore_succ_of_not definite] at pivot

variable (A) in
/-- What the columns that are done say of the matrix. A row that has reached its diagonal has no entries any more. -/
structure Columns (size i : Nat) (state : Factorisation K) : Prop where
  temp : ∀ k, i ≤ k → k < size → state.temp k = ∑ l ∈ range i, lower state.L k l ^ 2
  done : ∀ k < i, ∑ l ∈ range i, lower state.L k l ^ 2 = A k k
  blank : ∀ m < i, m ∉ pivotsBefore A i → ∀ k < size, lower state.L k m = 0
  positive : ∀ m ∈ pivotsBefore A i, 0 < lower state.L m m
  saturated : ∀ m ∈ pivotsBefore A i, ∀ k < size, m < k → ∑ l ∈ range m, lower state.L k l ^ 2 = A k k →
    lower state.L k m = 0
  products : ∀ m ∈ pivotsBefore A i, ∀ k < size, m < k → ∑ l ∈ range m, lower state.L k l ^ 2 ≠ A k k →
    A k m = gram (pivotsBefore A i) (lower state.L) k m

theorem gram_pivots {L : Nat → Nat → K} {i j k m : Nat} (before : j ≤ i) (early : m < j) :
    gram (pivotsBefore A j) (lower L) k m = gram (pivotsBefore A i) (lower L) k m := by
  apply sum_subset (pivotsBefore_mono before)
  intro l pivot outside
  have late : m < l := by
    by_contra early'
    exact outside (mem_pivots_of_lt pivot (by omega))
  rw [lower_of_lt late, mul_zero]

section
variable {size i : Nat} {state : Factorisation K} (columns : Columns A size i state)
include columns

theorem Columns.sum_pivots {j k m : Nat} (before : j ≤ i) (within : k < size) :
    gram (pivotsBefore A j) (lower state.L) k m = ∑ l ∈ range j, lower state.L k l * lower state.L m l := by
  apply sum_subset (pivotsBefore_subset_range j)
  intro l inside outside
  have early := mem_range.mp inside
  rw [columns.blank l (by omega) (fun pivot => outside (mem_pivots_of_lt pivot early)) k within, zero_mul]

theorem Columns.sum_sq_pivots {j k : Nat} (before : j ≤ i) (within : k < size) :
    ∑ m ∈ pivotsBefore A j, lower state.L k m ^ 2 = ∑ l ∈ range j, lower state.L k l ^ 2 := by
  have squares := columns.sum_pivots (m := k) before within
  simp only [gram, ← pow_two] at squares
  exact squares

theorem Columns.triangular : Triangular (lower state.L) (pivotsBefore A i) where
  above _ _ _ _ above := lower_of_lt above
  positive := columns.positive

theorem Columns.row_products {j k m : Nat} (before : j ≤ i) (within : k < size) (pivot : m ∈ pivotsBefore A j)
    (below : m < k) (unsaturated : ∑ l ∈ range m, lower state.L k l ^ 2 ≠ A k k) :
    A k m = gram (pivotsBefore A j) (lower state.L) k m := by
  rw [gram_pivots before (lt_of_mem_pivots pivot)]
  exact columns.products m (pivotsBefore_mono before pivot) k within below unsaturated

end

variable [IsStrictOrderedRing K]

theorem squares_mono (row : Nat → K) : Monotone fun j => ∑ l ∈ range j, row l ^ 2 := by
  intro j more grows
  exact sum_le_sum_of_subset_of_nonneg (range_mono grows) fun l _ _ => sq_nonneg _

namespace Columns
variable {size i : Nat} {state : Factorisation K} (columns : Columns A size i state)
include columns

theorem pivot_unsaturated {p : Nat} (pivot : p ∈ pivotsBefore A i) : ∑ l ∈ range p, lower state.L p l ^ 2 < A p p := by
  have early := lt_of_mem_pivots pivot
  have square : 0 < lower state.L p p ^ 2 := pow_pos (columns.positive p pivot) 2
  have grows : ∑ l ∈ range (p + 1), lower state.L p l ^ 2 ≤ ∑ l ∈ range i, lower state.L p l ^ 2 :=
    squares_mono (lower state.L p) early
  rw [columns.done p early, sum_range_succ] at grows
  linarith

variable (symmetric : ∀ k < size, ∀ m < size, A k m = A m k)
include symmetric

theorem pivot_products {j p q : Nat} (before : j ≤ i) (inside : j ≤ size) (pivot : p ∈ pivotsBefore A j)
    (other : q ∈ pivotsBefore A j) : A p q = gram (pivotsBefore A j) (lower state.L) p q := by
  have later (p q : Nat) (pivot : p ∈ pivotsBefore A j) (other : q ∈ pivotsBefore A j) (below : q < p) :
      A p q = gram (pivotsBefore A j) (lower state.L) p q := by
    have early := lt_of_mem_pivots pivot
    apply columns.row_products before (by omega) other below
    have short := columns.pivot_unsaturated (pivotsBefore_mono before pivot)
    have grows : ∑ l ∈ range q, lower state.L p l ^ 2 ≤ ∑ l ∈ range p, lower state.L p l ^ 2 :=
      squares_mono (lower state.L p) below.le
    exact (grows.trans_lt short).ne
  have early := lt_of_mem_pivots pivot
  have early' := lt_of_mem_pivots other
  rcases Nat.lt_trichotomy q p with below | rfl | above
  · exact later p q pivot other below
  · rw [gram_pivots before early, columns.sum_pivots le_rfl (by omega), ← columns.done q (by omega)]
    exact sum_congr rfl fun l _ => pow_two _
  · rw [symmetric p (by omega) q (by omega), gram_comm]
    exact later q p other pivot above

theorem bordered {j k : Nat} (before : j ≤ i) (after : j ≤ k) (within : k < size)
    (unsaturated : ∀ m ∈ pivotsBefore A j, ∑ l ∈ range m, lower state.L k l ^ 2 ≠ A k k) :
    Bordered A (lower state.L) (pivotsBefore A j) k := by
  have row (m : Nat) (pivot : m ∈ pivotsBefore A j) : A k m = gram (pivotsBefore A j) (lower state.L) k m := by
    have early := lt_of_mem_pivots pivot
    exact columns.row_products before within pivot (by omega) (unsaturated m pivot)
  constructor
  · exact columns.triangular.mono (pivotsBefore_mono before)
  · exact notMem_pivots after
  · exact fun p pivot q other => columns.pivot_products symmetric before (by omega) pivot other
  · exact row
  · intro m pivot
    have early := lt_of_mem_pivots pivot
    rw [symmetric m (by omega) k within, gram_comm]
    exact row m pivot

theorem definiteOn_iff {j k : Nat} (before : j ≤ i) (after : j ≤ k) (within : k < size) :
    DefiniteOn A (insert k (pivotsBefore A j)) ↔ ∑ l ∈ range j, lower state.L k l ^ 2 < A k k := by
  by_cases reached : ∃ m ∈ pivotsBefore A j, ∑ l ∈ range m, lower state.L k l ^ 2 = A k k
  · -- at the first pivot where the row is as long as its diagonal the form is not definite
    classical
    obtain ⟨pivot, length⟩ := Nat.find_spec reached
    have early := lt_of_mem_pivots pivot
    have first : Bordered A (lower state.L) (pivotsBefore A (Nat.find reached)) k := by
      apply columns.bordered symmetric (by omega) (by omega) within
      intro m pivot' length'
      exact Nat.find_min reached (lt_of_mem_pivots pivot') ⟨mem_pivots_of_lt pivot'
        ((lt_of_mem_pivots pivot').trans early), length'⟩
    constructor
    · intro definite
      have fewer := definite.mono (insert_subset_insert k (pivotsBefore_mono early.le))
      rw [first.definiteOn_iff, columns.sum_sq_pivots (by omega) within, length] at fewer
      exact absurd fewer (lt_irrefl _)
    · intro short
      have grows : ∑ l ∈ range (Nat.find reached), lower state.L k l ^ 2 ≤ ∑ l ∈ range j, lower state.L k l ^ 2 :=
        squares_mono (lower state.L k) early.le
      rw [length] at grows
      exact absurd short grows.not_gt
  · push Not at reached
    rw [(columns.bordered symmetric before after within reached).definiteOn_iff,
      columns.sum_sq_pivots before within]

theorem semidefiniteOn_iff {j k : Nat} (before : j + 1 ≤ i) (after : j + 1 ≤ k) (within : k < size)
    (short : ∑ l ∈ range j, lower state.L k l ^ 2 < A k k) :
    SemidefiniteOn A (insert k (pivotsBefore A (j + 1))) ↔ ∑ l ∈ range (j + 1), lower state.L k l ^ 2 ≤ A k k := by
  have unsaturated (m : Nat) (pivot : m ∈ pivotsBefore A (j + 1)) : ∑ l ∈ range m, lower state.L k l ^ 2 ≠ A k k := by
    have grows : ∑ l ∈ range m, lower state.L k l ^ 2 ≤ ∑ l ∈ range j, lower state.L k l ^ 2 :=
      squares_mono (lower state.L k) (Nat.le_of_lt_succ (lt_of_mem_pivots pivot))
    exact (grows.trans_lt short).ne
  rw [(columns.bordered symmetric before after within unsaturated).semidefiniteOn_iff,
    columns.sum_sq_pivots before within]

end Columns

end

section
variable {K : Type} [Field K]

def clearedColumn (size i : Nat) (state : Factorisation K) : Factorisation K :=
  { state with L := (List.range' i (size - i)).foldl (fun L k => setEntry L k i 0) state.L }

theorem lower_clearedColumn {size i : Nat} {state : Factorisation K} (k l : Nat) :
    lower (clearedColumn size i state).L k l =
      if l = i ∧ i ≤ k ∧ k < i + (size - i) then 0 else lower state.L k l := by
  unfold lower clearedColumn
  dsimp only
  rw [foldl_setEntry_zero]
  split_ifs <;> rfl

variable [LinearOrder K] {A : Nat → Nat → K} {size i : Nat} {state : Factorisation K}

def Within (A : Nat → Nat → K) (size i : Nat) (state : Factorisation K) : Prop :=
  ∀ k, i ≤ k → k < size → state.temp k ≤ A k k

def withColumn (A : Nat → Nat → K) (size i : Nat) (state : Factorisation K) (pivot : K) : Factorisation K :=
  filledBelow A i { state with L := setEntry state.L i i pivot } size

section
variable {pivot : K}

theorem lower_withColumn_of_lt {k l : Nat} (before : l < i) :
    lower (withColumn A size i state pivot).L k l = lower state.L k l := by
  unfold lower withColumn filledBelow
  dsimp only
  rw [if_neg (show ¬ (l = i ∧ i < k ∧ k < size) by omega), setEntry_apply, if_neg (show ¬ (k = i ∧ l = i) by omega)]

theorem lower_withColumn_pivot : lower (withColumn A size i state pivot).L i i = pivot := by
  unfold withColumn filledBelow
  rw [lower_of_le le_rfl]
  dsimp only
  rw [if_neg (by omega), setEntry_apply, if_pos ⟨rfl, rfl⟩]

theorem lower_withColumn_below {k : Nat} (below : i < k) (within : k < size) :
    lower (withColumn A size i state pivot).L k i =
      if state.temp k = A k k then 0 else (A k i - ∑ j ∈ range i, lower state.L i j * lower state.L k j) / pivot := by
  have diagonal : setEntry state.L i i pivot i i = pivot := by rw [setEntry_apply, if_pos ⟨rfl, rfl⟩]
  have products : ∑ j ∈ range i, setEntry state.L i i pivot i j * setEntry state.L i i pivot k j =
      ∑ j ∈ range i, lower state.L i j * lower state.L k j := by
    apply sum_congr rfl
    intro j inside
    have before := mem_range.mp inside
    rw [setEntry_apply, setEntry_apply, if_neg (by omega), if_neg (by omega), lower_of_le before.le,
      lower_of_le (before.trans below).le]
  unfold withColumn filledBelow
  rw [lower_of_le below.le]
  dsimp only
  rw [if_pos ⟨rfl, below, within⟩]
  unfold entryOf
  dsimp only
  rw [products, diagonal]

theorem temp_withColumn {k : Nat} (below : i < k) (within : k < size) :
    (withColumn A size i state pivot).temp k = state.temp k + lower (withColumn A size i state pivot).L k i ^ 2 := by
  unfold withColumn filledBelow
  rw [lower_of_le below.le]
  dsimp only
  rw [if_pos ⟨below, within⟩, if_pos ⟨rfl, below, within⟩]

theorem sum_withColumn (j : Nat) (before : j ≤ i) (k : Nat) :
    ∑ l ∈ range j, lower (withColumn A size i state pivot).L k l ^ 2 = ∑ l ∈ range j, lower state.L k l ^ 2 := by
  apply sum_congr rfl
  intro l inside
  rw [lower_withColumn_of_lt (by rw [mem_range] at inside; omega)]

theorem Columns.withColumn (columns : Columns A size i state) (definite : DefiniteOn A (insert i (pivotsBefore A i)))
    (positive : 0 < pivot) (square : pivot * pivot = A i i - ∑ l ∈ range i, lower state.L i l ^ 2) :
    Columns A size (i + 1) (withColumn A size i state pivot) := by
  have pivots := pivotsBefore_succ_of_definite definite
  have earlier {m : Nat} (listed : m ∈ pivotsBefore A (i + 1)) : m = i ∨ m ∈ pivotsBefore A i := by
    rwa [pivots, mem_insert] at listed
  -- the products with the rows of the pivots gain one term
  have products (k m : Nat) : gram (pivotsBefore A (i + 1)) (lower (Solver.withColumn A size i state pivot).L) k m =
      lower (Solver.withColumn A size i state pivot).L k i * lower (Solver.withColumn A size i state pivot).L m i +
        gram (pivotsBefore A i) (lower state.L) k m := by
    unfold gram
    rw [pivots, sum_insert (notMem_pivots le_rfl)]
    congr 1
    apply sum_congr rfl
    intro l listed
    rw [lower_withColumn_of_lt (lt_of_mem_pivots listed), lower_withColumn_of_lt (lt_of_mem_pivots listed)]
  constructor
  case temp =>
    intro k after within
    rw [temp_withColumn after within, sum_range_succ, sum_withColumn i le_rfl, columns.temp k (by omega) within]
  case done =>
    intro k before
    rw [sum_range_succ, sum_withColumn i le_rfl]
    rcases Nat.lt_succ_iff_lt_or_eq.mp before with earlier | rfl
    · rw [columns.done k earlier, lower_of_lt earlier, zero_pow two_ne_zero, add_zero]
    · rw [lower_withColumn_pivot, pow_two, square, add_sub_cancel]
  case blank =>
    intro m before null k within
    rw [pivots, mem_insert, not_or] at null
    rw [lower_withColumn_of_lt (by omega)]
    exact columns.blank m (by omega) null.2 k within
  case positive =>
    intro m listed
    rcases earlier listed with rfl | before
    · rwa [lower_withColumn_pivot]
    · rw [lower_withColumn_of_lt (lt_of_mem_pivots before)]
      exact columns.positive m before
  case saturated =>
    intro m listed k within below length
    rcases earlier listed with rfl | before
    · rw [sum_withColumn m le_rfl, ← columns.temp k below.le within] at length
      rw [lower_withColumn_below below within, if_pos length]
    · have early := lt_of_mem_pivots before
      rw [sum_withColumn m early.le] at length
      rw [lower_withColumn_of_lt early]
      exact columns.saturated m before k within below length
  case products =>
    intro m listed k within below length
    rw [products]
    rcases earlier listed with rfl | before
    · rw [sum_withColumn m le_rfl, ← columns.temp k below.le within] at length
      rw [lower_withColumn_pivot, lower_withColumn_below below within, if_neg length,
        div_mul_cancel₀ _ positive.ne', columns.sum_pivots le_rfl within]
      simp only [mul_comm (lower state.L m _)]
      ring
    · have early := lt_of_mem_pivots before
      rw [sum_withColumn m early.le] at length
      rw [lower_of_lt early, mul_zero, zero_add]
      exact columns.products m before k within below length

end

theorem Columns.clearedColumn (columns : Columns A size i state) (null : ¬ DefiniteOn A (insert i (pivotsBefore A i)))
    (inside : i < size) (length : ∑ l ∈ range i, lower state.L i l ^ 2 = A i i) :
    Columns A size (i + 1) (clearedColumn size i state) := by
  have pivots := pivotsBefore_succ_of_not null
  have before {k l : Nat} (early : l < i) : lower (Solver.clearedColumn size i state).L k l = lower state.L k l := by
    rw [lower_clearedColumn, if_neg (by omega)]
  have column {k : Nat} (within : k < size) : lower (Solver.clearedColumn size i state).L k i = 0 := by
    rw [lower_clearedColumn]
    split_ifs with below
    · rfl
    · exact lower_of_lt (by omega)
  have sums (j : Nat) (early : j ≤ i) (k : Nat) :
      ∑ l ∈ range j, lower (Solver.clearedColumn size i state).L k l ^ 2 = ∑ l ∈ range j, lower state.L k l ^ 2 := by
    apply sum_congr rfl
    intro l listed
    rw [before (by rw [mem_range] at listed; omega)]
  have products (k m : Nat) : gram (pivotsBefore A (i + 1)) (lower (Solver.clearedColumn size i state).L) k m =
      gram (pivotsBefore A i) (lower state.L) k m := by
    unfold gram
    rw [pivots]
    apply sum_congr rfl
    intro l listed
    rw [before (lt_of_mem_pivots listed), before (lt_of_mem_pivots listed)]
  constructor
  case temp =>
    intro k after within
    rw [sum_range_succ, sums i le_rfl, column within, zero_pow two_ne_zero, add_zero]
    exact columns.temp k (by omega) within
  case done =>
    intro k early
    rw [sum_range_succ, sums i le_rfl, column (by omega), zero_pow two_ne_zero, add_zero]
    rcases Nat.lt_succ_iff_lt_or_eq.mp early with earlier | rfl
    · exact columns.done k earlier
    · exact length
  case blank =>
    intro m early other k within
    rw [pivots] at other
    rcases Nat.lt_succ_iff_lt_or_eq.mp early with earlier | rfl
    · rw [before earlier]
      exact columns.blank m earlier other k within
    · exact column within
  case positive =>
    rw [pivots]
    intro m listed
    rw [before (lt_of_mem_pivots listed)]
    exact columns.positive m listed
  case saturated =>
    rw [pivots]
    intro m listed k within below length'
    have early := lt_of_mem_pivots listed
    rw [sums m early.le] at length'
    rw [before early]
    exact columns.saturated m listed k within below length'
  case products =>
    rw [pivots]
    intro m listed k within below length'
    rw [sums m (lt_of_mem_pivots listed).le] at length'
    rw [← pivots, products]
    exact columns.products m listed k within below length'

end

section
variable {K : Type} [Field K] [LinearOrder K] [IsStrictOrderedRing K] {A : Nat → Nat → K} {size i : Nat}
  {state : Factorisation K}

theorem Columns.detected_of_tooLong (columns : Columns A size i state) (within : Within A size i state)
    (symmetric : ∀ k < size, ∀ m < size, A k m = A m k) {pivot : K}
    (definite : DefiniteOn A (insert i (pivotsBefore A i))) (positive : 0 < pivot)
    (square : pivot * pivot = A i i - ∑ l ∈ range i, lower state.L i l ^ 2)
    (long : TooLong A i { state with L := setEntry state.L i i pivot } size) : Detected A size := by
  obtain ⟨k, below, inside, long⟩ := long
  have next := columns.withColumn definite positive square
  have temp : A k k < (Solver.withColumn A size i state pivot).temp k := by
    unfold Solver.withColumn filledBelow
    dsimp only
    rwa [if_pos ⟨below, inside⟩]
  have short : state.temp k < A k k := by
    apply (within k below.le inside).lt_of_ne
    intro length
    rw [temp_withColumn below inside, lower_withColumn_below below inside, if_pos length, length,
      zero_pow two_ne_zero, add_zero] at temp
    exact lt_irrefl _ temp
  rw [columns.temp k below.le inside] at short
  refine ⟨k, inside, i, below, (columns.definiteOn_iff symmetric le_rfl below.le inside).mpr short, ?_⟩
  rw [← @sum_withColumn K _ _ A size i state pivot i le_rfl] at short
  rw [next.semidefiniteOn_iff symmetric le_rfl below inside short, ← next.temp k below inside]
  exact temp.not_ge

variable {squareRoot : K → K} (root : ∀ value, 0 < value → 0 < squareRoot value ∧ squareRoot value * squareRoot value = value)
include root

theorem factorColumn_ends (columns : Columns A size i state) (within : Within A size i state)
    (symmetric : ∀ k < size, ∀ m < size, A k m = A m k) (inside : i < size) :
    Ends (factorColumn 0 squareRoot A size state i)
      (fun after => Columns A size (i + 1) after ∧ Within A size (i + 1) after) fun _ => Detected A size := by
  have decides := columns.definiteOn_iff symmetric le_rfl le_rfl inside
  have som : takeOff (A i i) (state.L i) (state.L i) i = A i i - ∑ l ∈ range i, lower state.L i l ^ 2 := by
    rw [takeOff_eq]
    congr 1
    apply sum_congr rfl
    intro l before
    rw [lower_of_le (mem_range.mp before).le, pow_two]
  have bound : i + 1 + (size - (i + 1)) = size := by omega
  unfold factorColumn
  rw [som]
  by_cases definite : DefiniteOn A (insert i (pivotsBefore A i))
  · have gap := sub_pos.mpr (decides.mp definite)
    obtain ⟨positive, square⟩ := root _ gap
    rw [if_pos gap]
    apply (foldlM_entryBelow_ends (size - (i + 1))).mono
    · rw [bound]
      rintro _ ⟨rfl, short⟩
      refine ⟨columns.withColumn definite positive square, ?_⟩
      intro k below inside'
      unfold filledBelow
      dsimp only
      rw [if_pos ⟨below, inside'⟩]
      exact not_lt.mp fun long => short ⟨k, below, inside', long⟩
    · rw [bound]
      exact fun _ long => columns.detected_of_tooLong within symmetric definite positive square long
  · have length : ∑ l ∈ range i, lower state.L i l ^ 2 = A i i := by
      apply le_antisymm
      · rw [← columns.temp i le_rfl inside]
        exact within i le_rfl inside
      · exact not_lt.mp fun short => definite (decides.mpr short)
    rw [length, sub_self, if_neg (lt_irrefl 0)]
    exact ⟨columns.clearedColumn definite inside length, fun k below inside' => within k (by omega) inside'⟩

theorem foldlM_factorColumn_ends (symmetric : ∀ k < size, ∀ m < size, A k m = A m k) (diagonal : ∀ k < size, 0 ≤ A k k)
    (cleared : ∀ k < size, state.temp k = 0) :
    Ends ((List.range size).foldlM (factorColumn 0 squareRoot A size) state) (Columns A size size)
      fun _ => Detected A size := by
  have init : Columns A size 0 state ∧ Within A size 0 state := by
    constructor
    · constructor
      · intro k _ inside
        rw [cleared k inside]
        rfl
      · exact fun k none => absurd none (Nat.not_lt_zero k)
      · exact fun m none => absurd none (Nat.not_lt_zero m)
      · exact fun m none => absurd none (notMem_empty m)
      · exact fun m none => absurd none (notMem_empty m)
      · exact fun m none => absurd none (notMem_empty m)
    · intro k _ inside
      rw [cleared k inside]
      exact diagonal k inside
  have ends : Ends ((List.range' 0 size).foldlM (factorColumn 0 squareRoot A size) state)
      (fun after => Columns A size (0 + size) after ∧ Within A size (0 + size) after) fun _ => Detected A size :=
    Ends.foldlM_range' (fun i after => Columns A size i after ∧ Within A size i after)
      (fun i _ inside after kept => factorColumn_ends root kept.1 kept.2 symmetric (by omega)) init
  rw [Nat.zero_add] at ends
  rw [List.range_eq_range']
  exact ends.mono (fun _ kept => kept.1) fun _ detected => detected

end

namespace Columns
variable {K : Type} [Field K] [LinearOrder K] [IsStrictOrderedRing K] {A : Nat → Nat → K} {size : Nat}
  {state : Factorisation K} (columns : Columns A size size state)
  (symmetric : ∀ k < size, ∀ m < size, A k m = A m k)
include columns symmetric

theorem not_detected : ¬ Detected A size := by
  rintro ⟨k, within, i, below, definite, not_semidefinite⟩
  rw [columns.definiteOn_iff symmetric (by omega) below.le within] at definite
  apply not_semidefinite
  rw [columns.semidefiniteOn_iff symmetric (by omega) below within definite, ← columns.done k within]
  exact squares_mono (lower state.L k) (show i + 1 ≤ size by omega)

theorem exists_combination (semidefinite : SemidefiniteOn A (range size)) {k : Nat} (within : k < size) :
    ∃ weights : Nat → K, (∀ m < size, lower state.L k m = ∑ p ∈ pivotsBefore A size, weights p * lower state.L p m) ∧
      ∀ row < size, A row k = ∑ p ∈ pivotsBefore A size, weights p * A row p := by
  by_cases pivot : k ∈ pivotsBefore A size
  · refine ⟨fun p => if p = k then 1 else 0, fun m _ => ?_, fun row _ => ?_⟩ <;>
    simp only [ite_mul, one_mul, zero_mul, sum_ite_eq', pivot, if_true]
  -- the row is as long as its diagonal, from a first pivot on
  · have length : ∃ j, j ≤ k ∧ ∑ l ∈ range j, lower state.L k l ^ 2 = A k k := by
      refine ⟨k, le_rfl, ?_⟩
      rw [← columns.done k within]
      apply sum_subset (range_mono within.le)
      intro l inside outside
      rcases (not_lt.mp fun before => outside (mem_range.mpr before)).eq_or_lt with rfl | above
      · rw [columns.blank k within pivot k within, zero_pow two_ne_zero]
      · rw [lower_of_lt above, zero_pow two_ne_zero]
    classical
    obtain ⟨early, reached⟩ := Nat.find_spec length
    have before := fun m (less : m < Nat.find length) => Nat.find_min length less
    generalize Nat.find length = j at early reached before
    have bordered : Bordered A (lower state.L) (pivotsBefore A j) k := by
      apply columns.bordered symmetric (by omega) early within
      intro m pivot' reached'
      have less := lt_of_mem_pivots pivot'
      exact before m less ⟨by omega, reached'⟩
    obtain ⟨x, one, zero⟩ := bordered.exists_combination
    have part : insert k (pivotsBefore A j) ⊆ range size := by
      apply insert_subset (mem_range.mpr within)
      exact (pivotsBefore_subset_range j).trans (range_mono (by omega))
    have null : quadratic A (range size) (fun i => if i ∈ insert k (pivotsBefore A j) then x i else 0) = 0 := by
      rw [quadratic_restrict part, bordered.quadratic_eq, columns.sum_sq_pivots (by omega) within, reached, sub_self,
        zero_mul, add_zero]
      apply sum_eq_zero
      intro m listed
      rw [zero m listed, zero_pow two_ne_zero]
    have weighed (value : Nat → K) : ∑ p ∈ pivotsBefore A size, (if p ∈ pivotsBefore A j then -x p else 0) * value p =
        -∑ p ∈ pivotsBefore A j, x p * value p := by
      rw [← sum_neg_distrib, ← sum_subset (pivotsBefore_mono (show j ≤ size by omega))]
      · apply sum_congr rfl
        intro p listed
        rw [if_pos listed, neg_mul]
      · intro p _ outside
        rw [if_neg outside, zero_mul]
    refine ⟨fun p => if p ∈ pivotsBefore A j then -x p else 0, fun m inside => ?_, fun row inside => ?_⟩
    · rw [weighed]
      by_cases used : m ∈ pivotsBefore A j
      · have column := zero m used
        rw [sum_insert bordered.outside, one, one_mul] at column
        exact eq_neg_of_add_eq_zero_left column
      · have unused (p : Nat) (listed : p ∈ pivotsBefore A j) : lower state.L p m = 0 := by
          have less := lt_of_mem_pivots listed
          by_cases other : m ∈ pivotsBefore A size
          · exact lower_of_lt (less.trans_le (not_lt.mp fun first => used (mem_pivots_of_lt other first)))
          · exact columns.blank m inside other p (by omega)
        rw [sum_eq_zero fun p listed => by rw [unused p listed, mul_zero], neg_zero]
        by_cases other : m ∈ pivotsBefore A size
        · have late : j ≤ m := not_lt.mp fun first => used (mem_pivots_of_lt other first)
          rcases Nat.lt_trichotomy m k with below | rfl | above
          · apply columns.saturated m other k within below
            apply le_antisymm
            · rw [← columns.done k within]
              exact squares_mono (lower state.L k) inside.le
            · rw [← reached]
              exact squares_mono (lower state.L k) late
          · exact absurd other pivot
          · exact lower_of_lt above
        · exact columns.blank m inside other k within
    · rw [weighed]
      have zeroRow := semidefinite.null (fun i listed j listed' =>
        symmetric i (mem_range.mp listed) j (mem_range.mp listed')) null (mem_range.mpr inside)
      simp only [mul_ite, mul_zero] at zeroRow
      rw [← sum_filter, filter_mem_eq_inter, inter_eq_right.mpr part, sum_insert bordered.outside, one, mul_one] at zeroRow
      rw [eq_neg_of_add_eq_zero_left zeroRow]
      congr 1
      exact sum_congr rfl fun p _ => mul_comm _ _

theorem products_eq (semidefinite : SemidefiniteOn A (range size)) {k m : Nat} (within : k < size) (inside : m < size) :
    ∑ l ∈ range size, lower state.L k l * lower state.L m l = A k m := by
  obtain ⟨weights, factor, matrix⟩ := columns.exists_combination symmetric semidefinite within
  obtain ⟨others, factor', matrix'⟩ := columns.exists_combination symmetric semidefinite inside
  have pivots (p q : Nat) (pivot : p ∈ pivotsBefore A size) (other : q ∈ pivotsBefore A size) :
      ∑ l ∈ range size, lower state.L p l * lower state.L q l = A q p := by
    have early := lt_of_mem_pivots pivot
    have early' := lt_of_mem_pivots other
    rw [← columns.sum_pivots le_rfl early, symmetric q early' p early]
    exact (columns.pivot_products symmetric le_rfl le_rfl pivot other).symm
  calc ∑ l ∈ range size, lower state.L k l * lower state.L m l
      = ∑ l ∈ range size, ∑ p ∈ pivotsBefore A size, ∑ q ∈ pivotsBefore A size,
          weights p * (others q * (lower state.L p l * lower state.L q l)) := by
        apply sum_congr rfl
        intro l listed
        rw [factor l (mem_range.mp listed), factor' l (mem_range.mp listed), sum_mul_sum]
        apply sum_congr rfl
        intro p _
        apply sum_congr rfl
        intro q _
        ring
    _ = ∑ p ∈ pivotsBefore A size, ∑ q ∈ pivotsBefore A size, weights p * (others q * A q p) := by
        rw [sum_comm]
        apply sum_congr rfl
        intro p pivot
        rw [sum_comm]
        apply sum_congr rfl
        intro q other
        rw [← mul_sum, ← mul_sum, pivots p q pivot other]
    _ = ∑ q ∈ pivotsBefore A size, others q * A k q := by
        rw [sum_comm]
        apply sum_congr rfl
        intro q other
        have early := lt_of_mem_pivots other
        rw [symmetric k within q early, matrix q early, mul_sum]
        apply sum_congr rfl
        intro p _
        ring
    _ = A k m := (matrix' k within).symm

end Columns

section
variable {K : Type} [Field K] [LinearOrder K] {A : Nat → Nat → K} {size : Nat}

theorem Detected.not_semidefinite (detected : Detected A size) : ¬ SemidefiniteOn A (range size) := by
  obtain ⟨k, within, i, below, _, not_semidefinite⟩ := detected
  refine fun semidefinite => not_semidefinite (semidefinite.mono (insert_subset (mem_range.mpr within) ?_))
  exact (pivotsBefore_subset_range (i + 1)).trans (range_mono (by omega))

theorem cholesky_ends [IsStrictOrderedRing K] {squareRoot : K → K}
    (root : ∀ value, 0 < value → 0 < squareRoot value ∧ squareRoot value * squareRoot value = value)
    (symmetric : ∀ k < size, ∀ m < size, A k m = A m k) (diagonal : ∀ k < size, 0 ≤ A k k) (start : Factorisation K) :
    (cholesky 0 squareRoot A size start).1 = true ∧ Detected A size ∨
      (cholesky 0 squareRoot A size start).1 = false ∧ Columns A size size (cholesky 0 squareRoot A size start).2 := by
  unfold cholesky
  dsimp only
  generalize cleared : ({ start with temp := fun k => if k < size then 0 else start.temp k } : Factorisation K) = state
  have ends : Ends ((List.range size).foldlM (factorColumn 0 squareRoot A size) state) (Columns A size size)
      fun _ => Detected A size := by
    apply foldlM_factorColumn_ends root symmetric diagonal
    intro k within
    rw [← cleared]
    exact if_pos within
  cases run : (List.range size).foldlM (factorColumn 0 squareRoot A size) state with
  | error state =>
    rw [run] at ends
    exact .inl ⟨rfl, ends⟩
  | ok state =>
    rw [run] at ends
    exact .inr ⟨rfl, ends⟩

end

section
variable (A : Nat → Nat → ℝ) (size : Nat)

def matrixOf : Matrix (Fin size) (Fin size) ℝ := .of fun i j => A i j

/-- `false` is returned for the semidefinite matrices, and the lower triangle is then their factor. -/
structure DecidesSemidefinite (start : Factorisation ℝ) : Prop where
  decides : (cholesky 0 Real.sqrt A size start).1 = false ↔ (matrixOf A size).PosSemidef
  factors : (cholesky 0 Real.sqrt A size start).1 = false →
    matrixOf (lower (cholesky 0 Real.sqrt A size start).2.L) size *
      (matrixOf (lower (cholesky 0 Real.sqrt A size start).2.L) size).transpose = matrixOf A size

variable {A size}

theorem posSemidef_matrixOf_iff (symmetric : ∀ k < size, ∀ m < size, A k m = A m k) :
    (matrixOf A size).PosSemidef ↔ SemidefiniteOn A (range size) := posSemidef_iff_semidefiniteOn symmetric

theorem realRoot (value : ℝ) (positive : 0 < value) : 0 < Real.sqrt value ∧ Real.sqrt value * Real.sqrt value = value :=
  ⟨Real.sqrt_pos.mpr positive, Real.mul_self_sqrt positive.le⟩

/-- The semidefinite matrices are told from those that are detected, and from no other ones. -/
theorem decidesSemidefinite_iff (symmetric : ∀ k < size, ∀ m < size, A k m = A m k) (unit : ∀ k < size, A k k = 1)
    (start : Factorisation ℝ) :
    DecidesSemidefinite A size start ↔ (matrixOf A size).PosSemidef ∨ Detected A size := by
  have semidefinite_iff := posSemidef_matrixOf_iff symmetric
  rcases cholesky_ends realRoot symmetric (fun k within => (unit k within).symm ▸ zero_le_one) start with
    ⟨rejected, detected⟩ | ⟨accepted, columns⟩
  · refine iff_of_true ⟨?_, ?_⟩ (.inr detected)
    · rw [rejected, semidefinite_iff]
      exact iff_of_false Bool.noConfusion detected.not_semidefinite
    · intro accepted
      rw [rejected] at accepted
      cases accepted
  · constructor
    · exact fun decides => .inl (decides.decides.mp accepted)
    · rintro (semidefinite | detected)
      · refine ⟨iff_of_true accepted semidefinite, fun _ => ?_⟩
        ext i j
        rw [Matrix.mul_apply]
        exact (Finset.sum_range fun l => lower _ i l * lower _ j l).symm.trans
          (columns.products_eq symmetric (semidefinite_iff.mp semidefinite) i.isLt j.isLt)
      · exact absurd detected (columns.not_detected symmetric)

/-- Three processes, each correlated to the next one as if they were the same -/
def chainOfThree (i j : Nat) : ℝ := if i = j ∨ i + 1 = j ∨ j + 1 = i then 1 else 0

theorem chainOfThree_symmetric (k : Nat) (_ : k < 3) (m : Nat) (_ : m < 3) : chainOfThree k m = chainOfThree m k := by
  have same : (k = m ∨ k + 1 = m ∨ m + 1 = k) ↔ m = k ∨ m + 1 = k ∨ k + 1 = m := by omega
  simp only [chainOfThree, same]

theorem chainOfThree_unit (k : Nat) (_ : k < 3) : chainOfThree k k = 1 := if_pos (.inl rfl)

theorem chainOfThree_decidesSemidefinite_iff : DecidesSemidefinite chainOfThree 3 ⟨fun _ _ => 0, fun _ => 0⟩ ↔
    (matrixOf chainOfThree 3).PosSemidef ∨ Detected chainOfThree 3 :=
  decidesSemidefinite_iff chainOfThree_symmetric chainOfThree_unit _

/-- The second row is dependent on the first one, and is not compared with the third one any more. -/
theorem chainOfThree_not_decidesSemidefinite : ¬ DecidesSemidefinite chainOfThree 3 ⟨fun _ _ => 0, fun _ => 0⟩ := by
  intro decides
  have accepted : (cholesky 0 Real.sqrt chainOfThree 3 ⟨fun _ _ => 0, fun _ => 0⟩).1 = false := by
    norm_num [cholesky, factorColumn, entryBelow, takeOff, setEntry, chainOfThree, List.range_succ, List.range'_succ,
      Function.update_apply, bind, Except.bind, pure, Except.pure]
  have semidefinite := (posSemidef_matrixOf_iff chainOfThree_symmetric).mp (decides.decides.mp accepted)
  have form := semidefinite fun i => if i = 1 then -1 else 1
  norm_num [quadratic, sum_range_succ, chainOfThree] at form

end

end Antares.Solver
