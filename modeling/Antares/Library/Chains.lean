import Mathlib.Algebra.BigOperators.Group.Finset.Sigma
import Mathlib.Algebra.BigOperators.Group.Finset.Piecewise

/-! Chained lists of indices in two arrays: for each key its first item, for each item the
next one with the same key. Items are added in order at the front of their chain, and a
loop follows the chain until it ends.
-/

set_option autoImplicit false

namespace Antares.Library

structure Chains (κ : Type) where
  first : κ → Option Nat
  next : Nat → Option Nat

namespace Chains

variable {κ : Type} [DecidableEq κ]

def empty : Chains κ where
  first := fun _ => none
  next := fun _ => none

def add (chains : Chains κ) (key : κ) (item : Nat) : Chains κ where
  first := Function.update chains.first key (some item)
  next := Function.update chains.next item (chains.first key)

/-- The chains of the items below `count`. -/
def build (keyOf : Nat → κ) : Nat → Chains κ
  | 0 => empty
  | count + 1 => (build keyOf count).add (keyOf count) count

def follow (next : Nat → Option Nat) : Nat → Option Nat → List Nat
  | _, none => []
  | 0, some _ => []
  | fuel + 1, some item => item :: follow next fuel (next item)

def visited (chains : Chains κ) (count : Nat) (key : κ) : List Nat :=
  follow chains.next count (chains.first key)

inductive Linked (next : Nat → Option Nat) : Option Nat → List Nat → Prop where
  | done : Linked next none []
  | item {item : Nat} {items : List Nat} :
      Linked next (next item) items → Linked next (some item) (item :: items)

theorem Linked.follow_eq {next : Nat → Option Nat} {place : Option Nat} {items : List Nat}
    (linked : Linked next place items) {fuel : Nat} (enough : items.length ≤ fuel) :
    follow next fuel place = items := by
  induction linked generalizing fuel with
  | done => cases fuel <;> rfl
  | item _ ih =>
    cases fuel with
    | zero => cases enough
    | succ fuel =>
      unfold follow
      rw [ih (Nat.le_of_succ_le_succ enough)]

theorem Linked.update {next : Nat → Option Nat} {place : Option Nat} {items : List Nat}
    (linked : Linked next place items) {other : Nat} (outside : other ∉ items) (value : Option Nat) :
    Linked (Function.update next other value) place items := by
  induction linked with
  | done => exact .done
  | @item head items _ ih =>
    rw [List.mem_cons, not_or] at outside
    apply Linked.item
    rw [Function.update_of_ne (Ne.symm outside.1)]
    exact ih outside.2

variable (keyOf : Nat → κ) (count : Nat) (key : κ)

/-- The items of a key among the first `count`, the last one first. -/
def itemsOf : List Nat :=
  ((List.range count).filter fun item => keyOf item = key).reverse

theorem mem_itemsOf {keyOf : Nat → κ} {count item : Nat} {key : κ} :
    item ∈ itemsOf keyOf count key ↔ item < count ∧ keyOf item = key := by
  simp [itemsOf]

theorem itemsOf_succ :
    itemsOf keyOf (count + 1) key =
      if keyOf count = key then count :: itemsOf keyOf count key else itemsOf keyOf count key := by
  unfold itemsOf
  rw [List.range_succ, List.filter_append, List.reverse_append]
  split_ifs with same <;> simp [same]

theorem build_linked :
    Linked (build keyOf count).next ((build keyOf count).first key) (itemsOf keyOf count key) := by
  induction count generalizing key with
  | zero => exact .done
  | succ count ih =>
    have fresh (other : κ) : count ∉ itemsOf keyOf count other := by simp [mem_itemsOf]
    rw [itemsOf_succ]
    unfold build add
    dsimp only
    split_ifs with same
    · subst same
      rw [Function.update_self]
      apply Linked.item
      rw [Function.update_self]
      exact (ih (keyOf count)).update (fresh _) _
    · rw [Function.update_of_ne (Ne.symm same)]
      exact (ih key).update (fresh _) _

theorem itemsOf_length_le :
    (itemsOf keyOf count key).length ≤ count := by
  unfold itemsOf
  rw [List.length_reverse]
  exact le_of_le_of_eq (List.length_filter_le _ _) List.length_range

theorem visited_build :
    (build keyOf count).visited count key = itemsOf keyOf count key :=
  (build_linked keyOf count key).follow_eq (itemsOf_length_le keyOf count key)

theorem itemsOf_nodup : (itemsOf keyOf count key).Nodup := by
  unfold itemsOf
  rw [List.nodup_reverse]
  exact List.nodup_range.filter _

theorem lt_of_mem_next {keyOf : Nat → κ} {count item later : Nat} (inside : item < count)
    (successor : later ∈ (build keyOf count).next item) : later < item := by
  induction count with
  | zero => exact absurd inside (Nat.not_lt_zero item)
  | succ count ih =>
    unfold build add at successor
    dsimp only at successor
    by_cases last : item = count
    · subst last
      rw [Function.update_self] at successor
      have linked := build_linked keyOf item (keyOf item)
      rw [Option.mem_def.mp successor] at linked
      cases chain : itemsOf keyOf item (keyOf item) with
      | nil => rw [chain] at linked; cases linked
      | cons head items =>
        rw [chain] at linked
        cases linked
        exact (mem_itemsOf.mp (chain ▸ List.mem_cons_self)).1
    · rw [Function.update_of_ne last] at successor
      exact ih (by omega) successor

section Cells
variable {σ : Type}

def cell : Option Nat → Int
  | none => -1
  | some item => item

inductive Loop (cells : Nat → Int) (body : Nat → σ → σ) : Int → σ → σ → Prop where
  | stop {place : Int} {state : σ} : place < 0 → Loop cells body place state state
  | turn {place : Int} {state final : σ} : 0 ≤ place →
      Loop cells body (cells place.toNat) (body place.toNat state) final → Loop cells body place state final

theorem Loop.unique {cells : Nat → Int} {body : Nat → σ → σ} {place : Int} {state final other : σ}
    (run : Loop cells body place state final) (again : Loop cells body place state other) : other = final := by
  induction run with
  | stop ended =>
    cases again with
    | stop _ => rfl
    | turn going _ => omega
  | turn going _ ih =>
    cases again with
    | stop ended => omega
    | turn _ rest => exact ih rest

theorem Linked.loop {next : Nat → Option Nat} {cells : Nat → Int} {place : Option Nat} {items : List Nat}
    (linked : Linked next place items) (held : ∀ item ∈ items, cells item = cell (next item))
    (body : Nat → σ → σ) (state : σ) :
    Loop cells body (cell place) state (items.foldl (fun state item => body item state) state) := by
  induction linked generalizing state with
  | done => exact .stop (by decide)
  | @item item items _ ih =>
    have first : cells item = cell (next item) := held item List.mem_cons_self
    apply Loop.turn (Int.natCast_nonneg item)
    rw [Int.toNat_natCast, first]
    exact ih (fun later listed => held later (List.mem_cons_of_mem item listed)) (body item state)

end Cells

section
variable {R : Type} [AddCommMonoid R]

theorem sum_itemsOf (keyOf : Nat → κ) (count : Nat) (key : κ) (value : Nat → R) :
    ((itemsOf keyOf count key).map value).sum =
      ∑ item ∈ Finset.range count, if keyOf item = key then value item else 0 := by
  induction count with
  | zero => rfl
  | succ count ih =>
    rw [itemsOf_succ, Finset.sum_range_succ, ← ih]
    split_ifs
    · rw [List.map_cons, List.sum_cons, add_comm]
    · rw [add_zero]

theorem sum_sum_itemsOf {keyOf : Nat → Nat} {count keys : Nat} (bounded : ∀ item < count, keyOf item < keys)
    (value : Nat → R) :
    ∑ key ∈ Finset.range keys, ((itemsOf keyOf count key).map value).sum =
      ∑ item ∈ Finset.range count, value item := by
  simp only [sum_itemsOf]
  rw [Finset.sum_comm]
  apply Finset.sum_congr rfl
  intro item listed
  rw [Finset.mem_range] at listed
  rw [Finset.sum_ite_eq, if_pos (Finset.mem_range.mpr (bounded item listed))]

end

end Chains

end Antares.Library
