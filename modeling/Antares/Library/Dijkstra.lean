import Mathlib.Algebra.Order.Group.Nat
import Mathlib.Data.List.Induction

/-! Shortest paths from a node, by a scan of the nodes that are left: distances, predecessors, and the path
read backwards from the target.
-/

set_option autoImplicit false

namespace Antares.Library.Dijkstra

variable {N : Type} [DecidableEq N]

/-- Distances found so far, and the node from which each of them was found. -/
structure Labels (N : Type) where
  dist : N → Nat
  prev : N → Option N

def start (source : N) (far : Nat) : Labels N where
  dist := Function.update (fun _ => far) source 0
  prev := fun _ => none

/-- The first node of least distance among those that are left, if that is less than a bound. -/
def closest (dist : N → Nat) (best : Option N × Nat) : List N → Option N × Nat
  | [] => best
  | node :: rest => closest dist (if dist node < best.2 then (some node, dist node) else best) rest

def relax (from' : N) (length : Nat) (labels : Labels N) (arc : N × Nat) : Labels N :=
  if length + arc.2 < labels.dist arc.1 then
    { dist := Function.update labels.dist arc.1 (length + arc.2)
      prev := Function.update labels.prev arc.1 (some from') }
  else labels

/-- One turn takes the closest node out, and its arcs are relaxed; it stops at the target. There is no result
when no node is closer than the bound, or when the chosen one has no entry among the arcs. As many turns as
nodes are enough.
-/
def search (arcs : N → Option (List (N × Nat))) (target : N) (far : Nat) :
    Nat → List N → Labels N → Option (Labels N)
  | 0, _, _ => none
  | turns + 1, nodes, labels =>
    match (closest labels.dist (none, far - 1) nodes).1 with
    | none => none
    | some node =>
      if node = target then some labels
      else
        (arcs node).bind fun out =>
          search arcs target far turns (nodes.erase node) (out.foldl (relax node (labels.dist node)) labels)

/-- The steps from a node back to the source, each with the node that it comes from. -/
def backtrack (prev : N → Option N) : Nat → N → Option (List (N × N))
  | 0, _ => none
  | turns + 1, node =>
    match prev node with
    | none => some []
    | some before => (backtrack prev turns before).map fun steps => (node, before) :: steps

section Closest
variable (dist : N → Nat)

omit [DecidableEq N] in
/-- The scan keeps the first least distance below the one that it starts with. -/
theorem closest_spec (best : Option N × Nat) (nodes : List N) :
    (closest dist best nodes = best ∧ ∀ node ∈ nodes, best.2 ≤ dist node) ∨
      ∃ node ∈ nodes, closest dist best nodes = (some node, dist node) ∧ dist node < best.2 ∧
        ∀ other ∈ nodes, dist node ≤ dist other := by
  induction nodes generalizing best with
  | nil => exact .inl ⟨rfl, fun _ member => absurd member List.not_mem_nil⟩
  | cons first rest ih =>
    rw [closest]
    split_ifs with nearer
    · rcases ih (some first, dist first) with ⟨same, others⟩ | ⟨node, member, found, less, others⟩
      · exact .inr ⟨first, List.mem_cons_self, same, nearer, List.forall_mem_cons.mpr ⟨le_rfl, others⟩⟩
      · exact .inr ⟨node, List.mem_cons_of_mem _ member, found, lt_trans less nearer,
          List.forall_mem_cons.mpr ⟨le_of_lt less, others⟩⟩
    · rcases ih best with ⟨same, others⟩ | ⟨node, member, found, less, others⟩
      · exact .inl ⟨same, List.forall_mem_cons.mpr ⟨not_lt.mp nearer, others⟩⟩
      · exact .inr ⟨node, List.mem_cons_of_mem _ member, found, less,
          List.forall_mem_cons.mpr ⟨le_of_lt (lt_of_lt_of_le less (not_lt.mp nearer)), others⟩⟩

omit [DecidableEq N] in
theorem closest_eq_some {bound : Nat} {nodes : List N} {node : N}
    (found : (closest dist (none, bound) nodes).1 = some node) :
    node ∈ nodes ∧ dist node < bound ∧ ∀ other ∈ nodes, dist node ≤ dist other := by
  rcases closest_spec dist (none, bound) nodes with ⟨same, _⟩ | ⟨chosen, member, same, less, others⟩
  · rw [same] at found
    cases found
  · rw [same] at found
    obtain rfl := Option.some.inj found
    exact ⟨member, less, others⟩

omit [DecidableEq N] in
theorem closest_isSome {bound : Nat} {nodes : List N} {node : N} (member : node ∈ nodes) (near : dist node < bound) :
    ∃ chosen, (closest dist (none, bound) nodes).1 = some chosen := by
  rcases closest_spec dist (none, bound) nodes with ⟨_, others⟩ | ⟨chosen, _, same, _⟩
  · exact absurd near (not_lt.mpr (others node member))
  · exact ⟨chosen, congrArg Prod.fst same⟩

end Closest

section Relax
variable (from' : N) (length : Nat) (labels : Labels N)

theorem foldl_relax (out : List (N × Nat)) (node : N) :
    let after := out.foldl (relax from' length) labels
    (∀ weight, (node, weight) ∈ out → after.dist node ≤ length + weight) ∧
      ((after.dist node = labels.dist node ∧ after.prev node = labels.prev node) ∨
        ∃ weight, (node, weight) ∈ out ∧ after.dist node = length + weight ∧ after.prev node = some from' ∧
          length + weight < labels.dist node) := by
  induction out using List.reverseRecOn with
  | nil => exact ⟨fun _ member => absurd member List.not_mem_nil, .inl ⟨rfl, rfl⟩⟩
  -- the last arc lowers the label of its end or leaves it: both statements follow from those before it
  | append_singleton out arc ih =>
    obtain ⟨bound, kept⟩ := ih
    dsimp only
    rw [List.foldl_append, List.foldl_cons, List.foldl_nil]
    generalize out.foldl (relax from' length) labels = before at bound kept
    obtain ⟨other, weight⟩ := arc
    unfold relax
    dsimp only
    split_ifs with nearer
    · by_cases same : node = other
      · subst same
        dsimp only
        rw [Function.update_self, Function.update_self]
        constructor
        · intro another member
          rcases List.mem_append.mp member with earlier | last
          · exact le_trans (le_of_lt nearer) (bound another earlier)
          · obtain ⟨_, rfl⟩ := Prod.mk.inj (List.mem_singleton.mp last)
            exact le_rfl
        · refine .inr ⟨weight, List.mem_append_right _ List.mem_cons_self, rfl, rfl, ?_⟩
          rcases kept with ⟨same, _⟩ | ⟨_, _, same, _, less⟩
          · exact lt_of_lt_of_eq nearer same
          · exact lt_trans (lt_of_lt_of_eq nearer same) less
      · dsimp only
        rw [Function.update_of_ne same, Function.update_of_ne same]
        constructor
        · intro another member
          rcases List.mem_append.mp member with earlier | last
          · exact bound another earlier
          · exact absurd (Prod.mk.inj (List.mem_singleton.mp last)).1 same
        · rcases kept with unchanged | ⟨another, member, found⟩
          · exact .inl unchanged
          · exact .inr ⟨another, List.mem_append_left _ member, found⟩
    · constructor
      · intro another member
        rcases List.mem_append.mp member with earlier | last
        · exact bound another earlier
        · obtain ⟨rfl, rfl⟩ := Prod.mk.inj (List.mem_singleton.mp last)
          exact not_lt.mp nearer
      · rcases kept with unchanged | ⟨another, member, found⟩
        · exact .inl unchanged
        · exact .inr ⟨another, List.mem_append_left _ member, found⟩

end Relax

section Search
variable (arcs : N → Option (List (N × Nat))) (all : List N) (source : N) (far : Nat)

inductive Reach : N → Nat → Prop where
  | start : Reach source 0
  | step {node next : N} {length weight : Nat} {out : List (N × Nat)} (before : Reach node length)
      (entry : arcs node = some out) (arc : (next, weight) ∈ out) : Reach next (length + weight)

/-- What holds of the nodes that are left and of the labels after each turn. -/
structure Invariant (nodes : List N) (labels : Labels N) : Prop where
  distinct : nodes.Nodup
  among : nodes ⊆ all
  source_dist : labels.dist source = 0
  source_prev : labels.prev source = none
  unseen : ∀ node, node ≠ source → labels.prev node = none → labels.dist node = far
  seen : ∀ node before, labels.prev node = some before → before ∈ all ∧ before ∉ nodes ∧
    ∃ out weight, arcs before = some out ∧ (node, weight) ∈ out ∧ labels.dist node = labels.dist before + weight
  near : ∀ node ∈ all, node ∉ nodes → labels.dist node < far
  relaxed : ∀ node ∈ all, node ∉ nodes → ∃ out, arcs node = some out ∧ ∀ next weight, (next, weight) ∈ out →
    labels.dist next ≤ labels.dist node + weight
  ordered : ∀ node ∈ all, node ∉ nodes → ∀ other ∈ nodes, labels.dist node ≤ labels.dist other

variable {arcs all source far}

theorem invariant_start (distinct : all.Nodup) : Invariant arcs all source far all (start source far) where
  distinct := distinct
  among := List.Subset.refl all
  source_dist := by simp [start]
  source_prev := rfl
  unseen _ other _ := by simp [start, Function.update_of_ne other]
  seen _ _ found := nomatch found
  near _ member left := absurd member left
  relaxed _ member left := absurd member left
  ordered _ member left := absurd member left

variable (positive : ∀ node out next weight, arcs node = some out → (next, weight) ∈ out → 0 < weight)
include positive

theorem Invariant.turn {nodes : List N} {labels : Labels N} (invariant : Invariant arcs all source far nodes labels)
    {node : N} (member : node ∈ nodes) (near : labels.dist node < far)
    (closest : ∀ other ∈ nodes, labels.dist node ≤ labels.dist other) {out : List (N × Nat)}
    (entry : arcs node = some out) :
    Invariant arcs all source far (nodes.erase node) (out.foldl (relax node (labels.dist node)) labels) := by
  have effect := foldl_relax node (labels.dist node) labels out
  generalize out.foldl (relax node (labels.dist node)) labels = after at effect
  dsimp only at effect
  have left (other : N) : other ∉ nodes.erase node ↔ other ∉ nodes ∨ other = node := by
    rw [invariant.distinct.mem_erase_iff, not_and_or, not_not, or_comm]
  -- a node that has left is not farther than the one that leaves now
  have settled (other : N) (listed : other ∈ all) (gone : other ∉ nodes.erase node) :
      labels.dist other ≤ labels.dist node := by
    rcases (left other).mp gone with before | rfl
    · exact invariant.ordered other listed before node member
    · exact le_rfl
  -- so its label stays
  have stays (other : N) (listed : other ∈ all) (gone : other ∉ nodes.erase node) :
      after.dist other = labels.dist other ∧ after.prev other = labels.prev other := by
    rcases (effect other).2 with same | ⟨weight, arc, _, _, less⟩
    · exact same
    · have bound := settled other listed gone
      have some := positive node out other weight entry arc
      omega
  have atNode := stays node (invariant.among member) ((left node).mpr (.inr rfl))
  constructor
  · exact invariant.distinct.erase node
  · exact List.Subset.trans (List.erase_subset) invariant.among
  · rcases (effect source).2 with same | ⟨_, _, _, _, less⟩
    · exact same.1.trans invariant.source_dist
    · rw [invariant.source_dist] at less
      exact absurd less (Nat.not_lt_zero _)
  · rcases (effect source).2 with same | ⟨_, _, _, _, less⟩
    · exact same.2.trans invariant.source_prev
    · rw [invariant.source_dist] at less
      exact absurd less (Nat.not_lt_zero _)
  · intro other different none
    rcases (effect other).2 with same | ⟨_, _, _, found, _⟩
    · exact same.1.trans (invariant.unseen other different (same.2.symm.trans none))
    · rw [found] at none
      cases none
  · intro other before found
    rcases (effect other).2 with same | ⟨weight, arc, dist, now, _⟩
    · obtain ⟨listed, gone, out', weight, entry', arc, dist⟩ := invariant.seen other before (same.2.symm.trans found)
      have still := (left before).mpr (.inl gone)
      refine ⟨listed, still, out', weight, entry', arc, ?_⟩
      rw [same.1, (stays before listed still).1]
      exact dist
    · obtain rfl := Option.some.inj (now.symm.trans found)
      refine ⟨invariant.among member, (left node).mpr (.inr rfl), out, weight, entry, arc, ?_⟩
      rw [atNode.1]
      exact dist
  · intro other listed gone
    rw [(stays other listed gone).1]
    exact lt_of_le_of_lt (settled other listed gone) near
  · intro other listed gone
    rw [(stays other listed gone).1]
    rcases (left other).mp gone with before | rfl
    · obtain ⟨out', entry', bound⟩ := invariant.relaxed other listed before
      refine ⟨out', entry', fun next weight arc => le_trans ?_ (bound next weight arc)⟩
      rcases (effect next).2 with same | ⟨_, _, dist, _, less⟩
      · exact le_of_eq same.1
      · rw [dist]
        exact le_of_lt less
    · exact ⟨out, entry, fun next weight arc => (effect next).1 weight arc⟩
  · intro other listed gone next still
    rw [(stays other listed gone).1]
    have bound := settled other listed gone
    have below := closest next (List.mem_of_mem_erase still)
    rcases (effect next).2 with same | ⟨weight, _, dist, _, _⟩
    · rw [same.1]
      omega
    · rw [dist]
      omega

theorem search_eq_some {target : N} {turns : Nat} {nodes : List N} {labels final : Labels N}
    (invariant : Invariant arcs all source far nodes labels)
    (found : search arcs target far turns nodes labels = some final) :
    ∃ rest, Invariant arcs all source far rest final ∧ target ∈ rest ∧ final.dist target < far - 1 ∧
      ∀ other ∈ rest, final.dist target ≤ final.dist other := by
  induction turns generalizing nodes labels with
  | zero => cases found
  | succ turns ih =>
    rw [search] at found
    split at found
    · cases found
    · rename_i node chosen
      obtain ⟨member, near, others⟩ := closest_eq_some labels.dist chosen
      split_ifs at found with same
      · obtain rfl := Option.some.inj found
        subst same
        exact ⟨nodes, invariant, member, near, others⟩
      · obtain ⟨out, entry, next⟩ := Option.bind_eq_some_iff.mp found
        exact ih (invariant.turn positive member (lt_of_lt_of_le near (Nat.sub_le _ _)) others entry) next

omit positive in
/-- Some node that is left is not farther than a length over which a node is reached. -/
theorem Invariant.frontier {nodes : List N} {labels : Labels N}
    (invariant : Invariant arcs all source far nodes labels) (known : source ∈ all)
    (closed : ∀ node out next weight, arcs node = some out → (next, weight) ∈ out → next ∈ all)
    {node : N} {length : Nat} (reach : Reach arcs source node length) :
    node ∈ all ∧ ((node ∉ nodes ∧ labels.dist node ≤ length) ∨ ∃ other ∈ nodes, labels.dist other ≤ length) := by
  induction reach with
  | start =>
    refine ⟨known, ?_⟩
    by_cases still : source ∈ nodes
    · exact .inr ⟨source, still, le_of_eq invariant.source_dist⟩
    · exact .inl ⟨still, le_of_eq invariant.source_dist⟩
  | @step node next length weight out before entry arc ih =>
    refine ⟨closed node out next weight entry arc, ?_⟩
    obtain ⟨listed, ⟨gone, bound⟩ | ⟨other, still, bound⟩⟩ := ih
    · obtain ⟨out', entry', relaxed⟩ := invariant.relaxed node listed gone
      obtain rfl := Option.some.inj (entry.symm.trans entry')
      have step := relaxed next weight arc
      by_cases left : next ∈ nodes
      · exact .inr ⟨next, left, by omega⟩
      · exact .inl ⟨left, by omega⟩
    · exact .inr ⟨other, still, by omega⟩

omit positive in
/-- No way to the target is shorter than its distance at the end. -/
theorem Invariant.dist_le {rest : List N} {final : Labels N} (invariant : Invariant arcs all source far rest final)
    (known : source ∈ all)
    (closed : ∀ node out next weight, arcs node = some out → (next, weight) ∈ out → next ∈ all)
    {target : N} (left : target ∈ rest) (least : ∀ other ∈ rest, final.dist target ≤ final.dist other)
    {length : Nat} (reach : Reach arcs source target length) : final.dist target ≤ length := by
  obtain ⟨_, ⟨gone, _⟩ | ⟨other, still, bound⟩⟩ := invariant.frontier known closed reach
  · exact absurd left gone
  · exact le_trans (least other still) bound

/-- The search finds its target when the target is reached over a length below the bound, and every node that
has a distance has an entry.
-/
theorem search_isSome (known : source ∈ all)
    (closed : ∀ node out next weight, arcs node = some out → (next, weight) ∈ out → next ∈ all)
    (entries : ∀ node, (node = source ∨ ∃ before out weight, arcs before = some out ∧ (node, weight) ∈ out) →
      ∃ out, arcs node = some out)
    {target : N} {length : Nat} (reach : Reach arcs source target length) (near : length < far - 1)
    {turns : Nat} {nodes : List N} {labels : Labels N} (invariant : Invariant arcs all source far nodes labels)
    (left : target ∈ nodes) (enough : nodes.length ≤ turns) :
    ∃ final, search arcs target far turns nodes labels = some final := by
  induction turns generalizing nodes labels with
  | zero =>
    rw [List.length_eq_zero_iff.mp (Nat.le_zero.mp enough)] at left
    exact absurd left List.not_mem_nil
  | succ turns ih =>
    obtain ⟨_, ⟨gone, _⟩ | ⟨other, still, bound⟩⟩ := invariant.frontier known closed reach
    · exact absurd left gone
    · obtain ⟨node, chosen⟩ := closest_isSome labels.dist still (lt_of_le_of_lt bound near)
      obtain ⟨member, below, others⟩ := closest_eq_some labels.dist chosen
      rw [search, chosen]
      dsimp only
      split_ifs with same
      · exact ⟨labels, rfl⟩
      · have seen : node = source ∨ ∃ before out weight, arcs before = some out ∧ (node, weight) ∈ out := by
          by_cases first : node = source
          · exact .inl first
          · cases previous : labels.prev node with
            | none =>
              have unseen := invariant.unseen node first previous
              omega
            | some before =>
              obtain ⟨_, _, out, weight, entry, arc, _⟩ := invariant.seen node before previous
              exact .inr ⟨before, out, weight, entry, arc⟩
        obtain ⟨out, entry⟩ := entries node seen
        rw [entry, Option.bind_some]
        refine ih (invariant.turn positive member (lt_of_lt_of_le below (Nat.sub_le _ _)) others entry) ?_ ?_
        · exact (List.mem_erase_of_ne (Ne.symm same)).mpr left
        · rw [List.length_erase_of_mem member]
          omega

variable (arcs source) in
/-- Steps from a node back to the source, over a length. -/
def Leads : N → List (N × N) → Nat → Prop
  | node, [], length => node = source ∧ length = 0
  | node, step :: steps, length =>
    step.1 = node ∧ ∃ out weight rest, arcs step.2 = some out ∧ (node, weight) ∈ out ∧
      Leads step.2 steps rest ∧ length = rest + weight

theorem Invariant.backtrack {nodes : List N} {labels : Labels N}
    (invariant : Invariant arcs all source far nodes labels) {turns : Nat} {node : N}
    (near : labels.dist node < far) (enough : labels.dist node < turns) :
    ∃ steps, backtrack labels.prev turns node = some steps ∧ Leads arcs source node steps (labels.dist node) := by
  induction turns generalizing node with
  | zero => exact absurd enough (Nat.not_lt_zero _)
  | succ turns ih =>
    rw [Dijkstra.backtrack]
    cases previous : labels.prev node with
    | none =>
      by_cases first : node = source
      · exact ⟨[], rfl, first, first ▸ invariant.source_dist⟩
      · have unseen := invariant.unseen node first previous
        omega
    | some before =>
      obtain ⟨_, _, out, weight, entry, arc, dist⟩ := invariant.seen node before previous
      have some := positive before out node weight entry arc
      have nearer : labels.dist before < far := by omega
      obtain ⟨steps, found, leads⟩ := ih nearer (by omega)
      dsimp only
      rw [found]
      exact ⟨_, rfl, rfl, out, weight, _, entry, arc, leads, dist⟩

end Search

end Antares.Library.Dijkstra
