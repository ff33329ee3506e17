import Mathlib.Algebra.Module.BigOperators
import Antares.Library.Walks

/-! A forest built from edges one by one, with a label for every node: an edge is kept when its ends have
different labels, which become one.
-/

set_option autoImplicit false

namespace Antares.Library.SpanningForests

open Walks

variable {V E : Type} [DecidableEq V] (source target : E → V)

/-- The label of the target goes over to that of the source. -/
def join (state : (V → V) × List E) (edge : E) : (V → V) × List E :=
  if state.1 (source edge) ≠ state.1 (target edge) then
    (fun node => if state.1 node = state.1 (target edge) then state.1 (source edge) else state.1 node,
      state.2 ++ [edge])
  else state

def forest (edges : List E) : (V → V) × List E := edges.foldl (join source target) (id, [])

variable {source target}

variable (edges : List E)

theorem forest_append (edge : E) :
    forest source target (edges ++ [edge]) = join source target (forest source target edges) edge := by
  unfold forest
  rw [List.foldl_append, List.foldl_cons, List.foldl_nil]

variable {state : (V → V) × List E} {edge : E}

theorem join_kept (different : state.1 (source edge) ≠ state.1 (target edge)) :
    join source target state edge =
      (fun node => if state.1 node = state.1 (target edge) then state.1 (source edge) else state.1 node,
        state.2 ++ [edge]) :=
  if_pos different

theorem join_skipped (same : state.1 (source edge) = state.1 (target edge)) :
    join source target state edge = state :=
  if_neg fun different => different same

theorem forest_sublist : (forest source target edges).2.Sublist edges := by
  induction edges using List.reverseRecOn with
  | nil => exact List.Sublist.refl []
  | append_singleton edges edge ih =>
    rw [forest_append]
    by_cases same : (forest source target edges).1 (source edge) = (forest source target edges).1 (target edge)
    · rw [join_skipped same]
      exact ih.trans (List.sublist_append_left _ _)
    · rw [join_kept same]
      exact ih.append (List.Sublist.refl _)

theorem exists_walk_of_label {u w : V}
    (same : (forest source target edges).1 u = (forest source target edges).1 w) :
    ∃ es, IsWalk source target u es w ∧ es ⊆ (forest source target edges).2 := by
  induction edges using List.reverseRecOn generalizing u w with
  | nil => exact ⟨[], same, List.nil_subset _⟩
  | append_singleton edges edge ih =>
    rw [forest_append] at same ⊢
    generalize forest source target edges = state at ih same ⊢
    by_cases equal : state.1 (source edge) = state.1 (target edge)
    · rw [join_skipped equal] at same ⊢
      exact ih same
    · rw [join_kept equal] at same ⊢
      dsimp only at same ⊢
      have older {x y : V} (label : state.1 x = state.1 y) :
          ∃ es, IsWalk source target x es y ∧ es ⊆ state.2 ++ [edge] := by
        obtain ⟨es, walk, inside⟩ := ih label
        exact ⟨es, walk, List.Subset.trans inside (List.subset_append_left _ _)⟩
      have edgeInside : [edge] ⊆ state.2 ++ [edge] := List.subset_append_right _ _
      -- a node of the label that goes over is reached through the new edge
      have across {x y : V} (atTarget : state.1 x = state.1 (target edge)) (atSource : state.1 y = state.1 (source edge)) :
          ∃ es, IsWalk source target x es y ∧ es ⊆ state.2 ++ [edge] := by
        obtain ⟨first, toTarget, firstInside⟩ := older atTarget
        obtain ⟨second, fromSource, secondInside⟩ := older atSource.symm
        refine ⟨first ++ (edge :: second), ?_, ?_⟩
        · exact isWalk_append.mpr ⟨target edge, toTarget, source edge, .inr ⟨rfl, rfl⟩, fromSource⟩
        · exact List.append_subset.mpr ⟨firstInside, List.cons_subset.mpr ⟨edgeInside List.mem_cons_self, secondInside⟩⟩
      split_ifs at same with first second second
      · exact older (first.trans second.symm)
      · exact across first same.symm
      · obtain ⟨es, walk, inside⟩ := across second same
        refine ⟨es.reverse, walk.reverse, fun e member => inside (List.mem_reverse.mp member)⟩
      · exact older same

theorem label_of_mem (member : edge ∈ edges) :
    (forest source target edges).1 (source edge) = (forest source target edges).1 (target edge) := by
  induction edges using List.reverseRecOn with
  | nil => exact absurd member List.not_mem_nil
  | append_singleton edges last ih =>
    rw [forest_append]
    by_cases same : (forest source target edges).1 (source last) = (forest source target edges).1 (target last)
    · rw [join_skipped same]
      rcases List.mem_append.mp member with before | now
      · exact ih before
      · rw [List.mem_singleton.mp now]
        exact same
    · rw [join_kept same]
      dsimp only
      rcases List.mem_append.mp member with before | now
      · rw [ih before]
      · rw [List.mem_singleton.mp now, if_pos rfl, if_neg same]

theorem card_labels (nodes : Finset V) (edges : List E)
    (ends : ∀ edge ∈ edges, source edge ∈ nodes ∧ target edge ∈ nodes) :
    (forest source target edges).2.length + (nodes.image (forest source target edges).1).card = nodes.card := by
  induction edges using List.reverseRecOn with
  | nil =>
    have labels : nodes.image (forest source target []).1 = nodes := Finset.image_id
    rw [labels]
    exact Nat.zero_add _
  | append_singleton edges edge ih =>
    have known := ih fun other member => ends other (List.mem_append_left _ member)
    obtain ⟨first, second⟩ := ends edge (List.mem_append_right _ List.mem_cons_self)
    rw [forest_append]
    generalize forest source target edges = state at known ⊢
    by_cases same : state.1 (source edge) = state.1 (target edge)
    · rw [join_skipped same]
      exact known
    · rw [join_kept same]
      dsimp only
      have image : nodes.image (fun node =>
          if state.1 node = state.1 (target edge) then state.1 (source edge) else state.1 node) =
          (nodes.image state.1).erase (state.1 (target edge)) := by
        ext label
        simp only [Finset.mem_image, Finset.mem_erase]
        constructor
        · rintro ⟨node, member, rfl⟩
          split_ifs with atTarget
          · exact ⟨same, source edge, first, rfl⟩
          · exact ⟨atTarget, node, member, rfl⟩
        · rintro ⟨other, node, member, rfl⟩
          exact ⟨node, member, if_neg other⟩
      have there : state.1 (target edge) ∈ nodes.image state.1 := Finset.mem_image.mpr ⟨_, second, rfl⟩
      rw [image, Finset.card_erase_of_mem there, List.length_append, List.length_singleton]
      have some := Finset.card_pos.mpr ⟨_, there⟩
      omega

section Even
variable {A : Type*} [AddCommGroup A] (double : ∀ a : A, a + a = 0)

theorem sum_endsAt (nodes : Finset V) (edge : E) :
    ∑ x ∈ nodes, endsAt source target x edge =
      (if source edge ∈ nodes then 1 else 0) + if target edge ∈ nodes then 1 else 0 := by
  unfold endsAt
  rw [Finset.sum_add_distrib, Finset.sum_ite_eq, Finset.sum_ite_eq]

theorem sum_of_sums (nodes : Finset V) (edges : List E) (value : E → A) :
    ∑ x ∈ nodes, (edges.map fun edge => endsAt source target x edge • value edge).sum =
      (edges.map fun edge => (∑ x ∈ nodes, endsAt source target x edge) • value edge).sum := by
  induction edges with
  | nil => exact Finset.sum_eq_zero fun _ _ => rfl
  | cons edge edges ih =>
    simp only [List.map_cons, List.sum_cons, Finset.sum_add_distrib, ih, Finset.sum_smul]

include double

theorem forest_null_of_even (nodes : Finset V) (edges : List E)
    (ends : ∀ edge ∈ edges, source edge ∈ nodes ∧ target edge ∈ nodes) (value : E → A)
    (even : ∀ x, ((forest source target edges).2.map fun edge => endsAt source target x edge • value edge).sum = 0) :
    ∀ edge ∈ (forest source target edges).2, value edge = 0 := by
  induction edges using List.reverseRecOn with
  | nil => exact fun edge member => absurd member List.not_mem_nil
  | append_singleton edges last ih =>
    have ih := ih fun edge member => ends edge (List.mem_append_left _ member)
    have lastEnds := ends last (List.mem_append_right _ List.mem_cons_self)
    have earlierEdges (edge : E) (member : edge ∈ (forest source target edges).2) : edge ∈ edges :=
      (forest_sublist edges).subset member
    have labels (edge : E) (member : edge ∈ edges) :
        (forest source target edges).1 (source edge) = (forest source target edges).1 (target edge) :=
      label_of_mem edges member
    rw [forest_append] at even ⊢
    generalize forest source target edges = state at ih earlierEdges labels even ⊢
    by_cases same : state.1 (source last) = state.1 (target last)
    · rw [join_skipped same] at even ⊢
      exact ih even
    · rw [join_kept same] at even ⊢
      dsimp only at even ⊢
      -- the sum over the nodes of a label has an earlier edge twice or not at all, and the last edge once
      let side := nodes.filter fun node => state.1 node = state.1 (source last)
      have whole : ∑ x ∈ side, ((state.2 ++ [last]).map fun edge => endsAt source target x edge • value edge).sum = 0 :=
        Finset.sum_eq_zero fun x _ => even x
      have atSource : source last ∈ side := Finset.mem_filter.mpr ⟨lastEnds.1, rfl⟩
      have notTarget : target last ∉ side := fun wrong => same (Finset.mem_filter.mp wrong).2.symm
      have earlier : (state.2.map fun edge => (∑ x ∈ side, endsAt source target x edge) • value edge).sum = 0 := by
        apply List.sum_eq_zero
        intro term listed
        obtain ⟨edge, member, rfl⟩ := List.mem_map.mp listed
        have listed := earlierEdges edge member
        have edgeEnds := ends edge (List.mem_append_left _ listed)
        have alike : source edge ∈ side ↔ target edge ∈ side := by
          rw [Finset.mem_filter, Finset.mem_filter, labels edge listed]
          exact and_congr_left' (iff_of_true edgeEnds.1 edgeEnds.2)
        rw [sum_endsAt, add_smul]
        by_cases inside : target edge ∈ side
        · rw [if_pos (alike.mpr inside), if_pos inside, one_smul]
          exact double _
        · rw [if_neg fun wrong => inside (alike.mp wrong), if_neg inside, zero_smul, add_zero]
      rw [sum_of_sums, List.map_append, List.sum_append, earlier, zero_add, List.map_singleton, List.sum_singleton,
        sum_endsAt, if_pos atSource, if_neg notTarget, add_zero, one_smul] at whole
      intro edge member
      rcases List.mem_append.mp member with before | now
      · refine ih (fun x => ?_) edge before
        have sum := even x
        rw [List.map_append, List.sum_append, List.map_singleton, List.sum_singleton, whole, smul_zero, add_zero] at sum
        exact sum
      · rw [List.mem_singleton.mp now]
        exact whole

end Even

end Antares.Library.SpanningForests
