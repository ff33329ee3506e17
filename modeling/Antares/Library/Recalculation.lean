import Mathlib.Order.WellFoundedSet

/-! Names whose values are computed from those of other names. Where no name refers to itself in the end there is one
solution; a single pass over the names in a fixed order may miss it.
-/

set_option autoImplicit false

namespace Antares.Library

/-- A value for each name, from the values of the names that it refers to. -/
structure Formulas (ι V : Type) where
  value : ι → (ι → V) → V
  refers : ι → ι → Prop
  depends : ∀ i values others, (∀ j, refers i j → values j = others j) → value i values = value i others

namespace Formulas

section
variable {ι V : Type} (formulas : Formulas ι V)

def Acyclic : Prop := ∀ i, ¬Relation.TransGen formulas.refers i i

def ReferredFirst (first second : ι) : Prop := formulas.refers second first

variable {formulas}

theorem Acyclic.wellFounded (acyclic : formulas.Acyclic) (names : Finset ι)
    (listed : ∀ i j, formulas.refers i j → i ∈ names ∧ j ∈ names) : WellFounded formulas.ReferredFirst := by
  let reach (first second : ι) : Prop := Relation.TransGen formulas.refers second first
  have strict : IsStrictOrder ι reach :=
    { irrefl := acyclic
      trans := fun first second third reaches further => further.trans reaches }
  have founded := Set.wellFoundedOn_iff.mp (names.finite_toSet.wellFoundedOn (r := reach))
  apply Subrelation.wf _ founded
  intro first second refers
  obtain ⟨second', first'⟩ := listed second first refers
  exact ⟨Relation.TransGen.single refers, first', second'⟩

variable [Inhabited V]

variable (founded : WellFounded formulas.ReferredFirst)

open scoped Classical in
/-- Every name stands for what its formula gives for the values of the names it refers to. -/
noncomputable def solution : ι → V :=
  founded.fix fun i values => formulas.value i fun j =>
    if refers : formulas.ReferredFirst j i then values j refers else default

theorem solution_eq (i : ι) :
    solution founded i = formulas.value i (solution founded) := by
  unfold solution
  rw [WellFounded.fix_eq]
  apply formulas.depends
  intro j refers
  exact dif_pos refers

end

section
variable {ι V : Type} [LinearOrder ι] (formulas : Formulas ι V)

/-- One pass over the names: each formula is computed from the values at hand. -/
def recalculate (order : List ι) (start : ι → V) : ι → V :=
  order.foldl (fun values i => Function.update values i (formulas.value i values)) start

/-- New values for the names that come before this one, the old ones for the others. -/
def before (order : List ι) (values start : ι → V) (i j : ι) : V :=
  if j ∈ order ∧ j < i then values j else start j

variable {formulas} {order : List ι} {start : ι → V}

theorem recalculate_snoc (k : ι) : formulas.recalculate (order ++ [k]) start =
    Function.update (formulas.recalculate order start) k (formulas.value k (formulas.recalculate order start)) := by
  unfold recalculate
  rw [List.foldl_append]
  rfl

theorem recalculate_of_not_mem {j : ι} (absent : j ∉ order) : formulas.recalculate order start j = start j := by
  induction order using List.reverseRecOn with
  | nil => rfl
  | append_singleton order k ih =>
    rw [List.mem_append, List.mem_singleton, not_or] at absent
    rw [recalculate_snoc, Function.update_of_ne absent.2, ih absent.1]

theorem before_snoc {k : ι} (sorted : (order ++ [k]).Pairwise (· < ·)) (values : ι → V) {i : ι}
    (listed : i ∈ order) : before (order ++ [k]) values start i = before order values start i := by
  have last : ¬k < i := ((List.pairwise_append.mp sorted).2.2 i listed k (List.mem_singleton_self k)).not_gt
  funext j
  unfold before
  congr 1
  rw [List.mem_append, List.mem_singleton]
  apply propext
  constructor
  · rintro ⟨there | rfl, less⟩
    · exact ⟨there, less⟩
    · exact absurd less last
  · rintro ⟨there, less⟩
    exact ⟨.inl there, less⟩

theorem before_last {k : ι} (sorted : (order ++ [k]).Pairwise (· < ·)) {values : ι → V}
    (same : ∀ j ∈ order, formulas.recalculate order start j = values j) :
    before (order ++ [k]) values start k = formulas.recalculate order start := by
  have earlier := (List.pairwise_append.mp sorted).2.2
  funext j
  unfold before
  by_cases listed : j ∈ order
  · have less : j < k := earlier j listed k (List.mem_singleton_self k)
    rw [if_pos ⟨List.mem_append_left _ listed, less⟩, same j listed]
  · rw [recalculate_of_not_mem listed]
    apply if_neg
    rintro ⟨there, less⟩
    rcases List.mem_append.mp there with there | there
    · exact listed there
    · exact absurd (List.mem_singleton.mp there) less.ne

theorem recalculate_of_mem {k i : ι} (sorted : (order ++ [k]).Pairwise (· < ·)) (listed : i ∈ order) :
    formulas.recalculate (order ++ [k]) start i = formulas.recalculate order start i := by
  have less := (List.pairwise_append.mp sorted).2.2 i listed k (List.mem_singleton_self k)
  rw [recalculate_snoc, Function.update_of_ne less.ne]

theorem recalculate_eq_iff (sorted : order.Pairwise (· < ·)) {values : ι → V}
    (solves : ∀ i ∈ order, values i = formulas.value i values) :
    (∀ i ∈ order, formulas.recalculate order start i = values i) ↔
      ∀ i ∈ order, formulas.value i (before order values start i) = formulas.value i values := by
  induction order using List.reverseRecOn with
  | nil => simp
  | append_singleton order k ih =>
    have solvesHere := solves k (List.mem_append_right _ (List.mem_singleton_self k))
    have ih := ih (List.pairwise_append.mp sorted).1 fun i listed => solves i (List.mem_append_left _ listed)
    have kept : (∀ i ∈ order, formulas.recalculate (order ++ [k]) start i = values i) ↔
        ∀ i ∈ order, formulas.value i (before (order ++ [k]) values start i) = formulas.value i values := by
      constructor
      · intro same i listed
        rw [before_snoc sorted values listed]
        exact ih.mp (fun j there => (recalculate_of_mem sorted there).symm.trans (same j there)) i listed
      · intro same i listed
        rw [recalculate_of_mem sorted listed]
        apply ih.mpr _ i listed
        intro j there
        rw [← before_snoc sorted values there]
        exact same j there
    simp only [List.forall_mem_append, List.forall_mem_singleton]
    rw [kept]
    apply and_congr_right
    intro same
    have done (j : ι) (there : j ∈ order) : formulas.recalculate order start j = values j := by
      rw [← recalculate_of_mem sorted there]
      exact kept.mpr same j there
    rw [recalculate_snoc, Function.update_self, before_last sorted done, ← solvesHere]

end

end Formulas

end Antares.Library
