import Antares.ConstraintsBuilder.LinkChecks
import Antares.ConstraintsBuilder.MeshBasis

/-! The graph of the lines that are kept, and the lines of the cycles of its mesh. -/

set_option autoImplicit false

namespace Antares.ConstraintsBuilder

open Library Library.Walks

def LinkInfo.edge (info : LinkInfo) : Edge where
  origin := info.ptr.from'
  destination := info.ptr.with'
  weight := info.getWeightWithImpedance

def Grid.addLine (grid : Grid) (info : LinkInfo) : Grid :=
  ((grid.addNode info.ptr.from').addNode info.ptr.with').addEdge info.ptr.from' info.ptr.with'
    info.getWeightWithImpedance

variable (lines : List LinkInfo)

def gridOf : Grid := lines.foldl Grid.addLine Grid.empty

/-- What makes `update` return false, or fail. -/
inductive UpdateFailure where
  | links (failure : Failure)
  | mesh (failure : Grid.MeshFailure)

/-- The links as they are after the pass over the hours, and the cycles of those that are kept. -/
def CBuilder.update (builder : CBuilder) (areas : List Text) :
    Except UpdateFailure (CBuilder × List (List LinkInfo)) := do
  let builder ← (builder.buildAreaToLinkInfosMap areas).updateLinks.mapError .links
  if builder.enabledACLines.isEmpty then pure (builder, [])
  else
    let mesh ← (gridOf builder.enabledACLines).buildMesh.mapError .mesh
    pure (builder, builder.pMesh mesh.meshIndexMatrix)

/-- No line is between an area and itself, and no two lines are between the same areas. -/
structure SimpleLines (lines : List LinkInfo) : Prop where
  loopless : ∀ info ∈ lines, info.ptr.from' ≠ info.ptr.with'
  apart : lines.Pairwise fun info other => info.edge.between other.ptr.from' other.ptr.with' = false

theorem Edge.between_eq_false_comm {edge other : Edge} (apart : edge.between other.origin other.destination = false) :
    other.between edge.origin edge.destination = false := by
  rw [← Bool.not_eq_true, Edge.between_iff] at apart ⊢
  rintro (⟨origins, destinations⟩ | ⟨origins, destinations⟩)
  · exact apart (.inl ⟨origins.symm, destinations.symm⟩)
  · exact apart (.inr ⟨destinations.symm, origins.symm⟩)

theorem gridOf_append (info : LinkInfo) :
    gridOf (lines ++ [info]) = (gridOf lines).addLine info := by
  unfold gridOf
  rw [List.foldl_append, List.foldl_cons, List.foldl_nil]

section GridOf
variable {lines : List LinkInfo} (simple : SimpleLines lines)
include simple

theorem pEdgesList_gridOf : (gridOf lines).pEdgesList = lines.map LinkInfo.edge := by
  induction lines using List.reverseRecOn with
  | nil => rfl
  | append_singleton lines info ih =>
    obtain ⟨before, _, across⟩ := List.pairwise_append.mp simple.apart
    have known := ih ⟨fun other member => simple.loopless other (List.mem_append_left _ member), before⟩
    rw [gridOf_append, List.map_append, List.map_singleton]
    unfold Grid.addLine
    rw [Grid.addEdge_eq _ (simple.loopless info (List.mem_append_right _ List.mem_cons_self))]
    · dsimp only
      rw [Grid.pEdgesList_addNode, Grid.pEdgesList_addNode, known]
      rfl
    · rw [Grid.findEdgeFromNodeNames_eq_none, Grid.pEdgesList_addNode, Grid.pEdgesList_addNode, known]
      intro edge member between
      obtain ⟨other, listed, rfl⟩ := List.mem_map.mp member
      have apart := across other listed info (List.mem_singleton.mpr rfl)
      exact Bool.false_ne_true (apart.symm.trans between)

omit simple in
theorem pNodesList_addEdge (grid : Grid) (n1 n2 : Text) (weight : Nat) :
    (grid.addEdge n1 n2 weight).pNodesList = grid.pNodesList := by
  unfold Grid.addEdge
  cases grid.findEdgeFromNodeNames n1 n2 with
  | none => rfl
  | some edge => rfl

omit simple in
theorem nodup_gridOf (lines : List LinkInfo) : (gridOf lines).pNodesList.Nodup := by
  induction lines using List.reverseRecOn with
  | nil => exact List.nodup_nil
  | append_singleton lines info ih =>
    rw [gridOf_append]
    unfold Grid.addLine
    rw [pNodesList_addEdge]
    exact Grid.nodup_addNode (Grid.nodup_addNode ih _) _

omit simple in
theorem ends_gridOf {lines : List LinkInfo} {info : LinkInfo} (member : info ∈ lines) :
    info.ptr.from' ∈ (gridOf lines).pNodesList ∧ info.ptr.with' ∈ (gridOf lines).pNodesList := by
  induction lines using List.reverseRecOn with
  | nil => exact absurd member List.not_mem_nil
  | append_singleton lines last ih =>
    rw [gridOf_append]
    unfold Grid.addLine
    rw [pNodesList_addEdge, Grid.mem_addNode, Grid.mem_addNode, Grid.mem_addNode, Grid.mem_addNode]
    rcases List.mem_append.mp member with before | now
    · exact ⟨.inl (.inl (ih before).1), .inl (.inl (ih before).2)⟩
    · rw [List.mem_singleton.mp now]
      exact ⟨.inl (.inr rfl), .inr rfl⟩

theorem simple_gridOf : (gridOf lines).Simple := by
  have apart : (lines.map LinkInfo.edge).Pairwise fun edge other => edge.between other.origin other.destination = false :=
    List.pairwise_map.mpr simple.apart
  constructor
  · exact nodup_gridOf lines
  · rw [pEdgesList_gridOf simple]
    intro edge member
    obtain ⟨info, listed, rfl⟩ := List.mem_map.mp member
    exact ends_gridOf listed
  · rw [pEdgesList_gridOf simple]
    intro edge member
    obtain ⟨info, listed, rfl⟩ := List.mem_map.mp member
    exact simple.loopless info listed
  · rw [pEdgesList_gridOf simple]
    intro edge member other otherMember between
    by_contra different
    have symmetric : Std.Symm fun edge other : Edge => edge.between other.origin other.destination = false :=
      ⟨fun _ _ => Edge.between_eq_false_comm⟩
    have away := apart.forall member otherMember different
    exact Bool.false_ne_true (away.symm.trans between)
  · rw [pEdgesList_gridOf simple]
    apply apart.imp
    intro edge other away same
    rw [same, Edge.between_self] at away
    exact Bool.false_ne_true away.symm
  · rw [pEdgesList_gridOf simple]
    intro edge member
    obtain ⟨info, listed, rfl⟩ := List.mem_map.mp member
    dsimp only [LinkInfo.edge, LinkInfo.getWeightWithImpedance]
    omega

end GridOf

theorem edges_of_places {lines : List LinkInfo} {cycle : List Edge} (among : cycle ⊆ lines.map LinkInfo.edge) :
    ((cycle.map fun edge => (lines.map LinkInfo.edge).idxOf edge).filterMap fun place => lines[place]?).map LinkInfo.edge =
      cycle := by
  induction cycle with
  | nil => rfl
  | cons edge cycle ih =>
    obtain ⟨member, others⟩ := List.cons_subset.mp among
    have inside : (lines.map LinkInfo.edge).idxOf edge < lines.length := by
      have bound := List.idxOf_lt_length_iff.mpr member
      rw [List.length_map] at bound
      exact bound
    have own : (lines[(lines.map LinkInfo.edge).idxOf edge]).edge = edge := by
      have found := List.getElem_idxOf (List.idxOf_lt_length_iff.mpr member)
      rw [List.getElem_map] at found
      exact found
    rw [List.map_cons, List.filterMap_cons, List.getElem?_eq_getElem inside]
    dsimp only
    rw [List.map_cons, own, ih others]

namespace CBuilder

variable {builder : CBuilder} (simple : SimpleLines builder.enabledACLines) {mesh : Grid.Mesh}
  (built : (gridOf builder.enabledACLines).buildMesh = .ok mesh)
include simple built

theorem isCycle_of_mem_pMesh {loop : List LinkInfo} (listed : loop ∈ builder.pMesh mesh.meshIndexMatrix) :
    (gridOf builder.enabledACLines).IsCycle (loop.map LinkInfo.edge) := by
  obtain ⟨indexes, areCycles⟩ := (simple_gridOf simple).of_buildMesh built
  unfold pMesh at listed
  rw [indexes, List.map_map] at listed
  obtain ⟨cycle, member, rfl⟩ := List.mem_map.mp listed
  have isCycle := areCycles cycle member
  obtain ⟨_, among, _⟩ := isCycle.closed
  rw [pEdgesList_gridOf simple] at among
  rw [Function.comp_apply, pEdgesList_gridOf simple, edges_of_places among]
  exact isCycle

end CBuilder

end Antares.ConstraintsBuilder
