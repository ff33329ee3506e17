import Mathlib.Algebra.BigOperators.Ring.List
import Mathlib.Tactic.Linarith

/-! Rows of a linear problem: a sparse left-hand side, a sense and a right-hand side. Feasible points of the
problems whose columns have bounds, and what is left of them when bounds and right-hand sides are loosened.
Rows written one after the other into shared arrays: a row knows where its terms start and how many they are.
-/

set_option autoImplicit false

namespace Antares.Library

inductive Sense where
  | eq
  | le
  | ge
  deriving DecidableEq, Repr

abbrev Terms (κ R : Type) := List (κ × R)

structure Row (κ R : Type) where
  terms : Terms κ R
  sense : Sense
  rhs : R

section
variable {ι κ R : Type} [CommRing R]

def Terms.value (terms : Terms κ R) (point : κ → R) : R :=
  (terms.map fun term => term.2 * point term.1).sum

@[simp] theorem Terms.value_nil (point : κ → R) : Terms.value ([] : Terms κ R) point = 0 := rfl

@[simp] theorem Terms.value_cons (term : κ × R) (terms : Terms κ R) (point : κ → R) :
    Terms.value (term :: terms) point = term.2 * point term.1 + terms.value point := by
  simp [Terms.value]

@[simp] theorem Terms.value_append (left right : Terms κ R) (point : κ → R) :
    Terms.value (left ++ right) point = left.value point + right.value point := by
  simp [Terms.value]

theorem Terms.value_map (items : List ι) (term : ι → κ × R) (point : κ → R) :
    Terms.value (items.map term) point = (items.map fun item => (term item).2 * point (term item).1).sum := by
  simp [Terms.value, Function.comp_def]

theorem Terms.value_flatMap (items : List ι) (block : ι → Terms κ R) (point : κ → R) :
    Terms.value (items.flatMap block) point = (items.map fun item => (block item).value point).sum := by
  induction items with
  | nil => rfl
  | cons item items ih => rw [List.flatMap_cons, Terms.value_append, ih, List.map_cons, List.sum_cons]

end

section
variable {R : Type} [LinearOrder R]

def Sense.Holds : Sense → R → R → Prop
  | .eq, left, right => left = right
  | .le, left, right => left ≤ right
  | .ge, left, right => right ≤ left

instance (sense : Sense) (left right : R) : Decidable (sense.Holds left right) :=
  match sense with
  | .eq => inferInstanceAs (Decidable (left = right))
  | .le => inferInstanceAs (Decidable (left ≤ right))
  | .ge => inferInstanceAs (Decidable (right ≤ left))

@[simp] theorem Sense.holds_self (sense : Sense) (value : R) : sense.Holds value value := by
  cases sense
  · exact rfl
  · exact le_refl value
  · exact le_refl value

end

section
variable {κ R : Type} [CommRing R] [LinearOrder R]

def Row.Holds (row : Row κ R) (point : κ → R) : Prop := row.sense.Holds (row.terms.value point) row.rhs

def Sense.relax (tolerance : R) : Sense → R → R
  | .eq, right => right
  | .le, right => right + tolerance
  | .ge, right => right - tolerance

/-- A right-hand side that even the tolerance does not let zero reach. -/
def Sense.unreached (tolerance : R) : Sense → R
  | .eq => 1
  | .le => -(tolerance + 1)
  | .ge => tolerance + 1

variable [IsStrictOrderedRing R]

theorem Sense.holds_add_iff (sense : Sense) (left moved right : R) :
    sense.Holds (left + moved) right ↔ sense.Holds left (right - moved) := by
  cases sense
  · exact eq_sub_iff_add_eq.symm
  · exact le_sub_iff_add_le.symm
  · exact sub_le_iff_le_add.symm

theorem Sense.Holds.relax {sense : Sense} {left right tolerance : R} (holds : sense.Holds left right)
    (nonneg : 0 ≤ tolerance) : sense.Holds left (sense.relax tolerance right) := by
  cases sense
  · exact holds
  · exact le_add_of_le_of_nonneg holds nonneg
  · exact (sub_le_self right nonneg).trans holds

theorem Sense.not_holds_unreached (sense : Sense) (tolerance : R) :
    ¬sense.Holds 0 (sense.relax tolerance (sense.unreached tolerance)) := by
  have one_pos : (0 : R) < 1 := zero_lt_one
  unfold Sense.Holds Sense.relax Sense.unreached
  cases sense with
  | eq => exact one_pos.ne
  | le =>
    dsimp only
    linarith
  | ge =>
    dsimp only
    linarith

end

section
variable {ι δ R : Type} [AddCommMonoid R]

theorem sum_map_eq_of_unique (key : ι → δ) (value : ι → R) {items : List ι} {item : ι}
    (inItems : item ∈ items) (distinct : (items.map key).Nodup)
    (others : ∀ other ∈ items, key other ≠ key item → value other = 0) :
    (items.map value).sum = value item := by
  induction items with
  | nil => cases inItems
  | cons first items ih =>
    rw [List.map_cons, List.nodup_cons] at distinct
    rw [List.map_cons, List.sum_cons]
    cases inItems with
    | head =>
      have rest : (items.map value).sum = 0 := by
        apply List.sum_eq_zero
        intro term listed
        obtain ⟨other, inRest, rfl⟩ := List.mem_map.mp listed
        apply others other (.tail _ inRest)
        intro same
        exact distinct.1 (same ▸ List.mem_map_of_mem inRest)
      rw [rest, add_zero]
    | tail _ inRest =>
      have firstZero : value first = 0 := by
        apply others first (.head _)
        intro same
        exact distinct.1 (same ▸ List.mem_map_of_mem inRest)
      rw [firstZero, zero_add]
      exact ih inRest distinct.2 fun other listed => others other (.tail _ listed)

theorem sum_map_filter_add (test : ι → Bool) (value : ι → R) (items : List ι) :
    ((items.filter test).map value).sum + ((items.filter fun item => !test item).map value).sum =
      (items.map value).sum := by
  induction items with
  | nil => simp
  | cons item items ih =>
    cases kept : test item with
    | true => simp [kept, ← ih, add_assoc]
    | false => simp [kept, ← ih, add_left_comm]

end

section
variable {ι R : Type} [AddCommGroup R]

theorem foldl_add_eq (value : ι → R) (items : List ι) (start : R) :
    items.foldl (fun sum item => sum + value item) start = start + (items.map value).sum := by
  induction items generalizing start with
  | nil => simp
  | cons item items ih => simp [ih, add_assoc]

end

structure Bounds (R : Type) where
  lower : Option R
  upper : Option R

structure LabelledRow (κ τ R : Type) where
  label : τ
  sense : Sense
  terms : Terms κ R

structure LinearProblem (κ τ R : Type) where
  columns : List κ
  bounds : κ → Bounds R
  integral : κ → Bool
  rows : List (LabelledRow κ τ R)
  rhs : τ → R

section
variable {R : Type} [LinearOrder R]

def Bounds.Contains (bounds : Bounds R) (value : R) : Prop :=
  (∀ lower ∈ bounds.lower, lower ≤ value) ∧ ∀ upper ∈ bounds.upper, value ≤ upper

@[simp] theorem Bounds.contains_between {lower upper value : R} :
    ({ lower := some lower, upper := some upper } : Bounds R).Contains value ↔ lower ≤ value ∧ value ≤ upper := by
  simp [Bounds.Contains]

@[simp] theorem Bounds.contains_above {lower value : R} :
    ({ lower := some lower, upper := none } : Bounds R).Contains value ↔ lower ≤ value := by
  simp [Bounds.Contains]

/-- Whatever reaches the first right-hand side reaches the second one. -/
def Sense.Looser : Sense → R → R → Prop
  | .eq, first, second => first = second
  | .le, first, second => first ≤ second
  | .ge, first, second => second ≤ first

theorem Sense.looser_of_eq (sense : Sense) {first second : R} (same : first = second) :
    sense.Looser first second := by
  subst same
  cases sense
  · exact rfl
  · exact le_refl first
  · exact le_refl first

theorem Sense.Holds.loosen {sense : Sense} {left first second : R} (holds : sense.Holds left first)
    (looser : sense.Looser first second) : sense.Holds left second := by
  cases sense
  · exact Eq.trans holds looser
  · exact le_trans holds looser
  · exact le_trans looser holds

end

section
variable {κ τ R : Type} [CommRing R] [LinearOrder R]

structure LinearProblem.Feasible (problem : LinearProblem κ τ R) (point : κ → R) : Prop where
  within : ∀ column ∈ problem.columns, (problem.bounds column).Contains (point column)
  integral : ∀ column ∈ problem.columns, problem.integral column = true → ∃ count : Int, point column = count
  rows : ∀ row ∈ problem.rows, row.sense.Holds (row.terms.value point) (problem.rhs row.label)

/-- Two problems with the same rows: a point that fits the bounds and right-hand sides of the
first one keeps feasible where those of the second one are looser. -/
theorem LinearProblem.Feasible.loosen {first second : LinearProblem κ τ R} {point : κ → R}
    (feasible : first.Feasible point) (columns : second.columns = first.columns)
    (integral : second.integral = first.integral) (rows : second.rows = first.rows)
    (within : ∀ column ∈ first.columns, (first.bounds column).Contains (point column) →
      (second.bounds column).Contains (point column))
    (looser : ∀ row ∈ first.rows, row.sense.Looser (first.rhs row.label) (second.rhs row.label)) :
    second.Feasible point := by
  constructor
  · intro column listed
    rw [columns] at listed
    exact within column listed (feasible.within column listed)
  · intro column listed
    rw [columns] at listed
    rw [integral]
    exact feasible.integral column listed
  · intro row listed
    rw [rows] at listed
    exact (feasible.rows row listed).loosen (looser row listed)

end

structure RowHeader (R : Type) where
  start : Nat
  length : Nat
  sense : Sense
  rhs : R

/-- The columns and coefficients of all rows, and the headers of the rows. -/
structure SparseRows (κ R : Type) where
  terms : Terms κ R
  headers : List (RowHeader R)

namespace SparseRows

variable {κ R : Type}

def empty : SparseRows κ R := ⟨[], []⟩

variable (matrix : SparseRows κ R)

def push (row : Row κ R) : SparseRows κ R where
  terms := matrix.terms ++ row.terms
  headers := matrix.headers ++
    [{ start := matrix.terms.length, length := row.terms.length, sense := row.sense, rhs := row.rhs }]

def pushAll (rows : List (Row κ R)) : SparseRows κ R := rows.foldl push matrix

def readRow (header : RowHeader R) : Row κ R where
  terms := (matrix.terms.drop header.start).take header.length
  sense := header.sense
  rhs := header.rhs

def read : List (Row κ R) := matrix.headers.map matrix.readRow

def Within : Prop := ∀ header ∈ matrix.headers, header.start + header.length ≤ matrix.terms.length

variable {matrix}

theorem Within.push (within : matrix.Within) (row : Row κ R) : (matrix.push row).Within := by
  intro header listed
  rw [SparseRows.push] at listed ⊢
  rw [List.length_append]
  rcases List.mem_append.mp listed with old | new
  · exact Nat.le_add_right_of_le (within header old)
  · rw [List.mem_singleton.mp new]

theorem read_push (within : matrix.Within) (row : Row κ R) : (matrix.push row).read = matrix.read ++ [row] := by
  have kept : ∀ header ∈ matrix.headers, (matrix.push row).readRow header = matrix.readRow header := by
    intro header listed
    have inside := within header listed
    simp only [readRow, SparseRows.push]
    rw [List.drop_append_of_le_length (by omega), List.take_append_of_le_length]
    rw [List.length_drop]
    omega
  have new : (matrix.push row).readRow
      { start := matrix.terms.length, length := row.terms.length, sense := row.sense, rhs := row.rhs } = row := by
    simp only [readRow, SparseRows.push, List.drop_left, List.take_length]
  rw [read, SparseRows.push, List.map_append, List.map_singleton]
  exact congrArg₂ (· ++ ·) (List.map_congr_left kept) (congrArg (fun last => [last]) new)

theorem within_empty : (empty : SparseRows κ R).Within := by
  intro header listed
  cases listed

theorem pushAll_spec (within : matrix.Within) (rows : List (Row κ R)) :
    (matrix.pushAll rows).Within ∧ (matrix.pushAll rows).read = matrix.read ++ rows := by
  unfold pushAll
  induction rows generalizing matrix with
  | nil => exact ⟨within, (List.append_nil _).symm⟩
  | cons row rows ih =>
    obtain ⟨inside, reads⟩ := ih (within.push row)
    refine ⟨inside, ?_⟩
    rw [List.foldl_cons, reads, read_push within, List.append_assoc, List.singleton_append]

variable (rows : List (Row κ R))

theorem read_pushAll : (empty.pushAll rows).read = rows :=
  (pushAll_spec within_empty rows).2

theorem pushAll_terms : (matrix.pushAll rows).terms = matrix.terms ++ rows.flatMap (·.terms) := by
  unfold pushAll
  induction rows generalizing matrix with
  | nil => exact (List.append_nil _).symm
  | cons row rows ih => rw [List.foldl_cons, ih, push, List.flatMap_cons, List.append_assoc]

theorem pushAll_headers_length : (matrix.pushAll rows).headers.length = matrix.headers.length + rows.length := by
  unfold pushAll
  induction rows generalizing matrix with
  | nil => rfl
  | cons row rows ih =>
    rw [List.foldl_cons, ih, push, List.length_append, List.length_cons, List.length_cons, List.length_nil]
    omega

end SparseRows

end Antares.Library
