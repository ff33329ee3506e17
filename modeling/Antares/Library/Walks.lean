import Mathlib.Algebra.Order.BigOperators.Group.List
import Mathlib.Data.List.Duplicate
import Mathlib.Data.List.Perm.Subperm
import Mathlib.Tactic.Linarith

/-! Walks in a graph of undirected edges, given by the two ends of each edge: their lengths, the parity of
their edges in a set, and what a shortest one looks like.
-/

set_option autoImplicit false

namespace Antares.Library.Walks

variable {V E : Type} (source target : E → V)

def Joins (e : E) (u v : V) : Prop := (source e = u ∧ target e = v) ∨ (source e = v ∧ target e = u)

def IsWalk : V → List E → V → Prop
  | u, [], w => u = w
  | u, e :: es, w => ∃ v, Joins source target e u v ∧ IsWalk v es w

variable {source target}

theorem Joins.symm {e : E} {u v : V} (joins : Joins source target e u v) : Joins source target e v u :=
  Or.symm joins

theorem Joins.ends {e : E} {u v x y : V} (joins : Joins source target e u v) (other : Joins source target e x y) :
    (x = u ∧ y = v) ∨ (x = v ∧ y = u) := by
  rcases joins with ⟨rfl, rfl⟩ | ⟨rfl, rfl⟩
  · rcases other with ⟨rfl, rfl⟩ | ⟨rfl, rfl⟩
    · exact .inl ⟨rfl, rfl⟩
    · exact .inr ⟨rfl, rfl⟩
  · rcases other with ⟨rfl, rfl⟩ | ⟨rfl, rfl⟩
    · exact .inr ⟨rfl, rfl⟩
    · exact .inl ⟨rfl, rfl⟩

theorem isWalk_append {u w : V} {es fs : List E} :
    IsWalk source target u (es ++ fs) w ↔ ∃ v, IsWalk source target u es v ∧ IsWalk source target v fs w := by
  induction es generalizing u with
  | nil => exact ⟨fun walk => ⟨u, rfl, walk⟩, fun ⟨_, same, walk⟩ => (show u = _ from same) ▸ walk⟩
  | cons e es ih =>
    constructor
    · rintro ⟨x, joins, rest⟩
      obtain ⟨v, first, second⟩ := ih.mp rest
      exact ⟨v, ⟨x, joins, first⟩, second⟩
    · rintro ⟨v, ⟨x, joins, first⟩, second⟩
      exact ⟨x, joins, ih.mpr ⟨v, first, second⟩⟩

theorem isWalk_singleton {e : E} {u w : V} : IsWalk source target u [e] w ↔ Joins source target e u w :=
  ⟨fun ⟨_, joins, same⟩ => (show _ = w from same) ▸ joins, fun joins => ⟨w, joins, rfl⟩⟩

theorem IsWalk.reverse {u w : V} {es : List E} (walk : IsWalk source target u es w) :
    IsWalk source target w es.reverse u := by
  induction es generalizing u with
  | nil => exact Eq.symm walk
  | cons e es ih =>
    obtain ⟨v, joins, rest⟩ := walk
    rw [List.reverse_cons]
    exact isWalk_append.mpr ⟨v, ih rest, isWalk_singleton.mpr joins.symm⟩

theorem isWalk_map {F : Type} (f : F → E) {u w : V} {es : List F} :
    IsWalk source target u (es.map f) w ↔ IsWalk (source ∘ f) (target ∘ f) u es w := by
  induction es generalizing u with
  | nil => exact Iff.rfl
  | cons e es ih => exact exists_congr fun v => and_congr_right fun _ => ih

theorem exists_split_of_not_nodup {es : List E} (repeats : ¬es.Nodup) :
    ∃ first e middle last, es = first ++ e :: (middle ++ e :: last) := by
  induction es with
  | nil => exact absurd List.nodup_nil repeats
  | cons head es ih =>
    by_cases again : head ∈ es
    · obtain ⟨middle, last, rfl⟩ := List.append_of_mem again
      exact ⟨[], head, middle, last, rfl⟩
    · have later : ¬es.Nodup := fun distinct => repeats (List.nodup_cons.mpr ⟨again, distinct⟩)
      obtain ⟨first, e, middle, last, rfl⟩ := ih later
      exact ⟨head :: first, e, middle, last, rfl⟩

/-- An edge that a walk takes twice cuts it into a shorter walk and a closed one: the edge stays in the shorter
walk and in the closed one when it is taken the same way, and is in neither when it is taken back.
-/
theorem IsWalk.split {u w : V} {first middle last : List E} {e : E}
    (walk : IsWalk source target u (first ++ e :: (middle ++ e :: last)) w) :
    (IsWalk source target u (first ++ e :: last) w ∧ ∃ x, IsWalk source target x (e :: middle) x) ∨
      (IsWalk source target u (first ++ last) w ∧ ∃ x, IsWalk source target x middle x) := by
  obtain ⟨x, before, y, joins, rest⟩ := isWalk_append.mp walk
  obtain ⟨z, between, t, again, after⟩ := isWalk_append.mp rest
  rcases joins.ends again with ⟨rfl, rfl⟩ | ⟨rfl, rfl⟩
  · exact .inl ⟨isWalk_append.mpr ⟨z, before, t, joins, after⟩, z, t, joins, between⟩
  · exact .inr ⟨isWalk_append.mpr ⟨t, before, after⟩, z, between⟩

theorem exists_nodup_walk {u w : V} {es : List E} (walk : IsWalk source target u es w) :
    ∃ fs, IsWalk source target u fs w ∧ fs.Nodup ∧ fs ⊆ es := by
  induction size : es.length using Nat.strong_induction_on generalizing es with
  | _ size ih =>
    by_cases distinct : es.Nodup
    · exact ⟨es, walk, distinct, List.Subset.refl es⟩
    · obtain ⟨first, e, middle, last, rfl⟩ := exists_split_of_not_nodup distinct
      -- a shorter walk with edges of the first one
      obtain ⟨fs, shorter, less, inside⟩ : ∃ fs, IsWalk source target u fs w ∧
          fs.length < (first ++ e :: (middle ++ e :: last)).length ∧ fs ⊆ first ++ e :: (middle ++ e :: last) := by
        rcases walk.split with ⟨same, _⟩ | ⟨back, _⟩
        · refine ⟨_, same, ?_, ?_⟩
          · simp only [List.length_append, List.length_cons]
            omega
          · intro f member
            simp only [List.mem_append, List.mem_cons] at member ⊢
            tauto
        · refine ⟨_, back, ?_, ?_⟩
          · simp only [List.length_append, List.length_cons]
            omega
          · intro f member
            simp only [List.mem_append, List.mem_cons] at member ⊢
            tauto
      obtain ⟨gs, found, once, among⟩ := ih _ (size ▸ less) shorter rfl
      exact ⟨gs, found, once, List.Subset.trans among inside⟩

section Parity
variable (flips : E → Bool)

def parity : List E → Bool
  | [] => false
  | e :: es => flips e ^^ parity es

theorem parity_append (es fs : List E) : parity flips (es ++ fs) = (parity flips es ^^ parity flips fs) := by
  induction es with
  | nil => exact (Bool.false_xor _).symm
  | cons e es ih =>
    rw [List.cons_append, parity, parity, ih, Bool.xor_assoc]

theorem parity_eq_odd_count (es : List E) : parity flips es = decide (es.countP flips % 2 = 1) := by
  induction es with
  | nil => rfl
  | cons e es ih =>
    rw [parity, ih, List.countP_cons]
    rcases Nat.mod_two_eq_zero_or_one (es.countP flips) with even | odd
    · cases flips e with
      | false => simp [even]
      | true => simp [Nat.add_mod, even]
    · cases flips e with
      | false => simp [odd]
      | true => simp [Nat.add_mod, odd]

theorem exists_of_parity {es : List E} (odd : parity flips es = true) : ∃ e ∈ es, flips e = true := by
  induction es with
  | nil => exact absurd odd Bool.false_ne_true
  | cons e es ih =>
    cases flip : flips e with
    | true => exact ⟨e, List.mem_cons_self, flip⟩
    | false =>
      rw [parity, flip, Bool.false_xor] at odd
      obtain ⟨f, member, flipped⟩ := ih odd
      exact ⟨f, List.mem_cons_of_mem _ member, flipped⟩

variable {flips}

theorem IsWalk.rotate {u : V} {first last : List E} {e : E}
    (walk : IsWalk source target u (first ++ e :: last) u) :
    ∃ x y, Joins source target e x y ∧ IsWalk source target x (e :: last ++ first) x := by
  obtain ⟨x, before, y, joins, after⟩ := isWalk_append.mp walk
  exact ⟨x, y, joins, isWalk_append.mpr ⟨u, ⟨y, joins, after⟩, before⟩⟩

variable (weight : E → Nat)

def length (es : List E) : Nat := (es.map weight).sum

theorem length_append (es fs : List E) : length weight (es ++ fs) = length weight es + length weight fs := by
  unfold length
  rw [List.map_append, List.sum_append]

theorem length_cons (e : E) (es : List E) : length weight (e :: es) = weight e + length weight es := by
  unfold length
  rw [List.map_cons, List.sum_cons]

theorem length_le_of_nodup {es all : List E} (distinct : es.Nodup) (among : es ⊆ all) :
    length weight es ≤ length weight all := by
  obtain ⟨fs, same, inside⟩ := List.subperm_of_subset distinct among
  unfold length
  rw [← (same.map weight).sum_eq]
  exact (inside.map weight).sum_le_sum fun _ _ => Nat.zero_le _

variable {weight}

/-- A shortest walk among the closed walks with an odd number of edges of a set, which start at an end of an
edge of the set, takes no edge twice.
-/
theorem IsWalk.nodup_of_shortest {u : V} {es : List E} (positive : ∀ e ∈ es, 0 < weight e)
    (walk : IsWalk source target u es u) (odd : parity flips es = true)
    (shortest : ∀ e x y fs, flips e = true → e ∈ fs → Joins source target e x y → IsWalk source target x fs x →
      parity flips fs = true → fs ⊆ es → length weight es ≤ length weight fs) : es.Nodup := by
  by_contra repeats
  obtain ⟨first, e, middle, last, rfl⟩ := exists_split_of_not_nodup repeats
  -- no closed walk of these edges that is odd is shorter, wherever it starts
  have noShorter : ∀ x fs, IsWalk source target x fs x → parity flips fs = true →
      fs ⊆ first ++ e :: (middle ++ e :: last) →
      length weight (first ++ e :: (middle ++ e :: last)) ≤ length weight fs := by
    intro x fs closed oddOne inside
    obtain ⟨f, member, flip⟩ := exists_of_parity flips oddOne
    obtain ⟨before, after, rfl⟩ := List.append_of_mem member
    obtain ⟨y, z, joins, turned⟩ := closed.rotate
    have sameParity : parity flips (f :: after ++ before) = true := by
      rw [parity_append, Bool.xor_comm, ← parity_append]
      exact oddOne
    have sameLength : length weight (f :: after ++ before) = length weight (before ++ f :: after) := by
      rw [length_append, length_append, Nat.add_comm]
    rw [← sameLength]
    refine shortest f y z _ flip List.mem_cons_self joins turned sameParity fun g listed => inside ?_
    simp only [List.mem_append, List.mem_cons] at listed ⊢
    tauto
  have whole : length weight (first ++ e :: (middle ++ e :: last)) =
      length weight first + weight e + length weight middle + weight e + length weight last := by
    rw [length_append, length_cons, length_append, length_cons]
    omega
  have some := positive e (by simp)
  rw [parity_append, parity, parity_append, parity] at odd
  rcases walk.split with ⟨same, x, closed⟩ | ⟨back, x, closed⟩
  · -- the edge is taken the same way twice: one of the two closed walks is odd
    cases inner : parity flips (e :: middle) with
    | true =>
      have bound := noShorter x _ closed inner fun f listed => by
        simp only [List.mem_append, List.mem_cons] at listed ⊢
        tauto
      rw [whole, length_cons] at bound
      omega
    | false =>
      have outer : parity flips (first ++ e :: last) = true := by
        rw [parity] at inner
        rw [parity_append, parity]
        revert odd inner
        cases flips e <;> cases parity flips middle <;> cases parity flips first <;> cases parity flips last <;> simp
      have bound := noShorter u _ same outer fun f listed => by
        simp only [List.mem_append, List.mem_cons] at listed ⊢
        tauto
      rw [whole, length_append, length_cons] at bound
      omega
  · -- it is taken forth and back
    cases inner : parity flips middle with
    | true =>
      have bound := noShorter x _ closed inner fun f listed => by
        simp only [List.mem_append, List.mem_cons]
        tauto
      rw [whole] at bound
      omega
    | false =>
      have outer : parity flips (first ++ last) = true := by
        rw [parity_append]
        revert odd inner
        cases flips e <;> cases parity flips middle <;> cases parity flips first <;> cases parity flips last <;> simp
      have bound := noShorter u _ back outer fun f listed => by
        simp only [List.mem_append, List.mem_cons] at listed ⊢
        tauto
      rw [whole, length_append] at bound
      omega

end Parity

section Degrees
variable [DecidableEq V] (source target)

def endsAt (x : V) (e : E) : Nat := (if source e = x then 1 else 0) + if target e = x then 1 else 0

def degree (es : List E) (x : V) : Nat := (es.map (endsAt source target x)).sum

variable {source target}

theorem Joins.endsAt_eq {e : E} {u v : V} (joins : Joins source target e u v) (x : V) :
    endsAt source target x e = (if u = x then 1 else 0) + if v = x then 1 else 0 := by
  unfold endsAt
  rcases joins with ⟨rfl, rfl⟩ | ⟨rfl, rfl⟩
  · rfl
  · exact Nat.add_comm _ _

theorem IsWalk.degree_even {u w : V} {es : List E} (walk : IsWalk source target u es w) (x : V) :
    Even (degree source target es x + ((if u = x then 1 else 0) + if w = x then 1 else 0)) := by
  induction es generalizing u with
  | nil =>
    have same : u = w := walk
    rw [same]
    exact ⟨_, Nat.zero_add _⟩
  | cons e es ih =>
    obtain ⟨v, joins, rest⟩ := walk
    obtain ⟨half, total⟩ := ih rest
    unfold degree at total ⊢
    rw [List.map_cons, List.sum_cons, joins.endsAt_eq]
    exact ⟨half + if u = x then 1 else 0, by omega⟩

theorem IsWalk.degree_even_of_closed {u : V} {es : List E} (walk : IsWalk source target u es u) (x : V) :
    Even (degree source target es x) := by
  obtain ⟨half, total⟩ := walk.degree_even x
  exact ⟨half - if u = x then 1 else 0, by split_ifs at total ⊢ <;> omega⟩

end Degrees

end Antares.Library.Walks
