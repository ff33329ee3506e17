import Mathlib.Algebra.BigOperators.Intervals
import Mathlib.Algebra.Order.BigOperators.Group.List
import Mathlib.Algebra.Order.Ring.Nat

/-! Running counters: items are numbered in the order in which nested loops visit them. A list
of items without repetition receives each number below its length exactly once.
-/

set_option autoImplicit false

namespace Antares.Library

structure Numbering (κ : Type) where
  next : Nat
  numero : κ → Option Nat

section
variable {ι κ : Type} [DecidableEq κ]

def Numbering.empty : Numbering κ where
  next := 0
  numero := fun _ => none

variable (numbering : Numbering κ)

def Numbering.add (item : κ) : Numbering κ where
  next := numbering.next + 1
  numero := Function.update numbering.numero item (some numbering.next)

def Numbering.addAll (items : List κ) : Numbering κ := items.foldl Numbering.add numbering

namespace Numbering

variable (numbering : Numbering κ) (items : List κ)

theorem addAll_next : (numbering.addAll items).next = numbering.next + items.length := by
  induction items generalizing numbering with
  | nil => rfl
  | cons item items ih =>
    have counted := ih (numbering.add item)
    simp only [addAll, List.foldl_cons, List.length_cons, add] at *
    omega

variable {items}

theorem addAll_numero_of_not_mem {item : κ} (absent : item ∉ items) :
    (numbering.addAll items).numero item = numbering.numero item := by
  induction items generalizing numbering with
  | nil => rfl
  | cons head items ih =>
    rw [List.mem_cons, not_or] at absent
    have kept := ih (numbering.add head) absent.2
    rw [addAll, List.foldl_cons]
    rw [addAll] at kept
    rw [kept]
    exact Function.update_of_ne absent.1 _ _

theorem addAll_numero (distinct : items.Nodup) (place : Nat) (inside : place < items.length) :
    (numbering.addAll items).numero items[place] = some (numbering.next + place) := by
  induction items generalizing numbering place with
  | nil => exact absurd inside (Nat.not_lt_zero place)
  | cons head items ih =>
    obtain ⟨fresh, rest⟩ := List.nodup_cons.mp distinct
    cases place with
    | zero =>
      have kept := addAll_numero_of_not_mem (numbering.add head) fresh
      rw [addAll] at kept
      rw [addAll, List.foldl_cons, List.getElem_cons_zero, kept]
      exact Function.update_self _ _ _
    | succ place =>
      have later := ih (numbering.add head) rest place (Nat.lt_of_succ_lt_succ inside)
      rw [addAll] at later
      rw [addAll, List.foldl_cons, List.getElem_cons_succ, later]
      simp only [add]
      congr 1
      omega

/-- The numbers of the items are distinct and cover everything below the counter. -/
structure Exact (numbering : Numbering κ) (items : List κ) : Prop where
  numbered : ∀ item ∈ items, ∃ number < numbering.next, numbering.numero item = some number
  distinct : ∀ item ∈ items, ∀ other ∈ items, numbering.numero item = numbering.numero other → item = other
  covered : ∀ number < numbering.next, ∃ item ∈ items, numbering.numero item = some number

theorem exact_addAll_empty (distinct : items.Nodup) : Exact (empty.addAll items) items := by
  have next : (empty.addAll items).next = items.length := by rw [addAll_next]; exact Nat.zero_add _
  have numero (place : Nat) (inside : place < items.length) :
      (empty.addAll items).numero items[place] = some place := by
    rw [addAll_numero empty distinct place inside]
    exact congrArg some (Nat.zero_add place)
  constructor
  · intro item listed
    obtain ⟨place, inside, rfl⟩ := List.getElem_of_mem listed
    exact ⟨place, next ▸ inside, numero place inside⟩
  · intro item listed other otherListed same
    obtain ⟨place, inside, rfl⟩ := List.getElem_of_mem listed
    obtain ⟨otherPlace, otherInside, rfl⟩ := List.getElem_of_mem otherListed
    rw [numero place inside, numero otherPlace otherInside, Option.some.injEq] at same
    subst same
    rfl
  · intro number below
    rw [next] at below
    exact ⟨items[number], List.getElem_mem below, numero number below⟩

end Numbering

end

section Blocks
variable {ι κ : Type}

variable {items : List ι} {block : ι → List κ}

theorem nodup_flatMap_of_owner (Owner : κ → ι → Prop)
    (unique : ∀ item left right, Owner item left → Owner item right → left = right)
    (owned : ∀ turn ∈ items, ∀ item ∈ block turn, Owner item turn)
    (distinct : items.Nodup) (blocks : ∀ turn ∈ items, (block turn).Nodup) :
    (items.flatMap block).Nodup := by
  rw [List.nodup_flatMap]
  refine ⟨blocks, ?_⟩
  apply distinct.pairwise_of_forall_ne
  intro left leftTurn right rightTurn different item inLeft inRight
  exact different (unique item left right (owned left leftTurn item inLeft) (owned right rightTurn item inRight))

theorem length_flatMap_range (block : Nat → List κ) (turns : Nat) :
    ((List.range turns).flatMap block).length = ∑ turn ∈ Finset.range turns, (block turn).length := by
  induction turns with
  | zero => rfl
  | succ turns ih =>
    rw [List.range_succ, List.flatMap_append, List.length_append, ih, Finset.sum_range_succ]
    simp

theorem getElem?_flatMap_range {block : Nat → List κ} {width : Nat} (uniform : ∀ turn, (block turn).length = width)
    {turns turn rank : Nat} (inTurns : turn < turns) (inBlock : rank < width) :
    ((List.range turns).flatMap block)[width * turn + rank]? = (block turn)[rank]? := by
  induction turns with
  | zero => omega
  | succ turns ih =>
    have written : ((List.range turns).flatMap block).length = width * turns := by
      simp [List.length_flatMap, uniform, Nat.mul_comm]
    rw [List.range_succ, List.flatMap_append, List.flatMap_singleton]
    by_cases last : turn = turns
    · subst last
      rw [List.getElem?_append_right (by omega), written, Nat.add_sub_cancel_left]
    · have before : turn + 1 ≤ turns := by omega
      have room := Nat.mul_le_mul_left width before
      rw [Nat.mul_succ] at room
      rw [List.getElem?_append_left (by omega)]
      exact ih before

theorem length_flatMap_le (bound : ι → Nat)
    (bounded : ∀ turn ∈ items, (block turn).length ≤ bound turn) :
    (items.flatMap block).length ≤ (items.map bound).sum := by
  rw [List.length_flatMap]
  exact List.sum_le_sum bounded

theorem length_flatMap_zipIdx_le {block : ι → Nat → List κ} (bound : ι → Nat)
    (bounded : ∀ item index, (block item index).length ≤ bound item) :
    (items.zipIdx.flatMap fun pair => block pair.1 pair.2).length ≤ (items.map bound).sum := by
  rw [List.length_flatMap]
  calc (items.zipIdx.map fun pair => (block pair.1 pair.2).length).sum
      ≤ (items.zipIdx.map fun pair => bound pair.1).sum :=
        List.sum_le_sum fun pair _ => bounded pair.1 pair.2
    _ = ((items.zipIdx.map Prod.fst).map bound).sum := by rw [List.map_map]; rfl
    _ = (items.map bound).sum := by rw [List.zipIdx_map_fst]

theorem measure_foldl_le {σ : Type} (measure : σ → Nat) {step : σ → ι → σ} {bound : Nat}
    (bounded : ∀ state item, measure (step state item) ≤ measure state + bound) (items : List ι) (state : σ) :
    measure (items.foldl step state) ≤ measure state + items.length * bound := by
  induction items generalizing state with
  | nil => exact Nat.le_add_right _ _
  | cons item items ih =>
    have later := ih (step state item)
    have now := bounded state item
    rw [List.foldl_cons, List.length_cons, Nat.succ_mul]
    omega

def blockStart (sizes : Nat → Nat) (block : Nat) : Nat := ((List.range block).map sizes).sum

variable {sizes : Nat → Nat}

theorem blockStart_succ (block : Nat) : blockStart sizes (block + 1) = blockStart sizes block + sizes block := by
  unfold blockStart
  rw [List.range_succ, List.map_append, List.sum_append]
  simp

theorem blockStart_mono {first second : Nat} (before : first ≤ second) :
    blockStart sizes first ≤ blockStart sizes second := by
  induction before with
  | refl => exact le_rfl
  | step _ ih => exact ih.trans (by rw [blockStart_succ]; exact Nat.le_add_right _ _)

variable (sizes) in
theorem place_unique {first second left right : Nat} (leftInside : left < sizes first)
    (rightInside : right < sizes second) (same : blockStart sizes first + left = blockStart sizes second + right) :
    first = second ∧ left = right := by
  have apart {low high : Nat} (before : low < high) :
      blockStart sizes low + sizes low ≤ blockStart sizes high := by
    rw [← blockStart_succ]
    exact blockStart_mono before
  rcases Nat.lt_trichotomy first second with before | equal | after
  · have := apart before
    omega
  · subst equal
    omega
  · have := apart after
    omega

end Blocks

end Antares.Library
