import Antares.ConstraintsBuilder.Grid
import Antares.ConstraintsBuilder.SignedCopies
import Antares.Library.Walks

/-! The shortest paths of a grid as walks along its edges, and the cycle of a vector of edges: a shortest
closed walk with an odd number of edges of the vector.
-/

set_option autoImplicit false

namespace Antares.ConstraintsBuilder

open Library Library.Walks

theorem joins_iff_between {edge : Edge} {u v : Text} :
    Joins Edge.origin Edge.destination edge u v ↔ edge.between u v = true := by
  rw [Edge.between_iff]
  unfold Joins
  rw [and_comm (a := edge.origin = v)]

namespace Grid

variable (grid : Grid)

def IsPath (u : Text) (path : List Edge) (v : Text) : Prop :=
  path ⊆ grid.pEdgesList ∧ IsWalk Edge.origin Edge.destination u path v

/-- What `findShortestPath` gives to the search. -/
def arcs (node : Text) : Option (List (Text × Nat)) :=
  (grid.adjency node).map fun neighbours => neighbours.map fun neighbour => (neighbour.1, neighbour.2.weight)

variable {grid}

theorem mem_arcs (linked : grid.Linked) {node next : Text} {weight : Nat} :
    (∃ out, grid.arcs node = some out ∧ (next, weight) ∈ out) ↔
      ∃ edge ∈ grid.pEdgesList, edge.between node next = true ∧ edge.weight = weight := by
  unfold arcs
  constructor
  · rintro ⟨out, entry, arc⟩
    obtain ⟨neighbours, found, rfl⟩ := Option.map_eq_some_iff.mp entry
    obtain ⟨⟨key, edge⟩, listed, same⟩ := List.mem_map.mp arc
    obtain ⟨rfl, rfl⟩ := Prod.mk.inj same
    obtain ⟨member, between⟩ := (linked.entry node key edge).mp ⟨neighbours, found, listed⟩
    exact ⟨edge, member, between, rfl⟩
  · rintro ⟨edge, member, between, rfl⟩
    obtain ⟨neighbours, found, listed⟩ := (linked.entry node next edge).mpr ⟨member, between⟩
    exact ⟨_, congrArg (Option.map _) found, List.mem_map.mpr ⟨_, listed, rfl⟩⟩

theorem edgeOfStep_eq (linked : grid.Linked) {edge : Edge} (member : edge ∈ grid.pEdgesList) {step : Text × Text}
    (between : edge.between step.1 step.2 = true) : grid.edgeOfStep step = some edge := by
  obtain ⟨neighbours, found, listed⟩ := (linked.entry step.1 step.2 edge).mpr ⟨member, between⟩
  unfold edgeOfStep
  rw [found, Option.bind_some]
  cases first : neighbours.find? fun neighbour => decide (neighbour.1 = step.2) with
  | none => exact absurd (decide_eq_true rfl) (List.find?_eq_none.mp first _ listed)
  | some neighbour =>
    have key := List.find?_some first
    rw [decide_eq_true_iff] at key
    obtain ⟨other, otherBetween⟩ :=
      (linked.entry step.1 neighbour.1 neighbour.2).mp ⟨neighbours, found, List.mem_of_find?_eq_some first⟩
    rw [key] at otherBetween
    exact congrArg some (linked.unique _ other _ member _ _ otherBetween between)

theorem reach_of_isPath (linked : grid.Linked) {source node : Text} {path : List Edge}
    (walk : grid.IsPath source path node) : Dijkstra.Reach grid.arcs source node (pathLength path) := by
  induction path using List.reverseRecOn generalizing node with
  | nil =>
    have same : source = node := walk.2
    rw [← same]
    exact Dijkstra.Reach.start
  | append_singleton path edge ih =>
    obtain ⟨inside, steps⟩ := walk
    obtain ⟨before, first, last⟩ := isWalk_append.mp steps
    have reached := ih ⟨(List.append_subset.mp inside).1, first⟩
    obtain ⟨out, entry, arc⟩ := (mem_arcs linked).mpr
      ⟨edge, inside (List.mem_append_right _ List.mem_cons_self), joins_iff_between.mp (isWalk_singleton.mp last), rfl⟩
    have total : pathLength (path ++ [edge]) = pathLength path + edge.weight := by
      unfold pathLength
      rw [List.map_append, List.sum_append, List.map_singleton, List.sum_singleton]
    rw [total]
    exact Dijkstra.Reach.step reached entry arc

theorem isPath_of_leads (linked : grid.Linked) {source node : Text} {steps : List (Text × Text)} {length : Nat}
    (leads : Dijkstra.Leads grid.arcs source node steps length) :
    ∃ path, steps.mapM grid.edgeOfStep = some path ∧ grid.IsPath node path source ∧ pathLength path = length := by
  induction steps generalizing node length with
  | nil =>
    obtain ⟨rfl, rfl⟩ := leads
    exact ⟨[], rfl, ⟨List.nil_subset _, rfl⟩, rfl⟩
  | cons step steps ih =>
    obtain ⟨current, before⟩ := step
    obtain ⟨rfl, out, weight, rest, entry, arc, others, rfl⟩ := leads
    obtain ⟨path, found, ⟨inside, walk⟩, total⟩ := ih others
    obtain ⟨edge, member, between, rfl⟩ := (mem_arcs linked).mp ⟨out, entry, arc⟩
    have back := Edge.between_comm.mp between
    refine ⟨edge :: path, ?_, ⟨List.cons_subset.mpr ⟨member, inside⟩, before, joins_iff_between.mpr back, walk⟩, ?_⟩
    · rw [List.mapM_cons, edgeOfStep_eq linked member back, found]
      rfl
    · unfold pathLength at total ⊢
      rw [List.map_cons, List.sum_cons, total, Nat.add_comm]

section Shortest
variable (linked : grid.Linked) (nodes : grid.pNodesList.Nodup)
  (ends : ∀ edge ∈ grid.pEdgesList, edge.origin ∈ grid.pNodesList ∧ edge.destination ∈ grid.pNodesList)
  (positive : ∀ edge ∈ grid.pEdgesList, 0 < edge.weight)
include linked nodes ends positive

omit nodes ends in
theorem positive_arcs (node : Text) (out : List (Text × Nat)) (next : Text) (weight : Nat)
    (entry : grid.arcs node = some out) (arc : (next, weight) ∈ out) : 0 < weight := by
  obtain ⟨edge, member, _, rfl⟩ := (mem_arcs linked).mp ⟨out, entry, arc⟩
  exact positive edge member

omit nodes positive in
theorem closed_arcs (node : Text) (out : List (Text × Nat)) (next : Text) (weight : Nat)
    (entry : grid.arcs node = some out) (arc : (next, weight) ∈ out) : next ∈ grid.pNodesList := by
  obtain ⟨edge, member, between, _⟩ := (mem_arcs linked).mp ⟨out, entry, arc⟩
  rcases Edge.between_iff.mp between with ⟨_, rfl⟩ | ⟨_, rfl⟩
  · exact (ends edge member).2
  · exact (ends edge member).1

theorem of_findShortestPath {node1 node2 : Text} (known : node1 ∈ grid.pNodesList) {path : List Edge}
    (found : grid.findShortestPath node1 node2 = some path) :
    grid.IsPath node2 path node1 ∧
      ∀ other, grid.IsPath node1 other node2 → pathLength path ≤ pathLength other := by
  obtain ⟨labels, searched, next⟩ := Option.bind_eq_some_iff.mp found
  obtain ⟨steps, back, edges⟩ := Option.bind_eq_some_iff.mp next
  have positiveArcs := positive_arcs linked positive
  have closedArcs := closed_arcs linked ends
  obtain ⟨rest, invariant, left, near, least⟩ :=
    Dijkstra.search_eq_some positiveArcs (Dijkstra.invariant_start nodes) searched
  obtain ⟨steps', back', leads⟩ := invariant.backtrack positiveArcs (lt_of_lt_of_le near (Nat.sub_le _ _))
    (Nat.lt_succ_self (labels.dist node2))
  obtain rfl := Option.some.inj (back'.symm.trans back)
  obtain ⟨path', edges', walk, total⟩ := isPath_of_leads linked leads
  obtain rfl := Option.some.inj (edges'.symm.trans edges)
  refine ⟨walk, fun other isPath => ?_⟩
  rw [total]
  exact invariant.dist_le known closedArcs left least (reach_of_isPath linked isPath)

theorem exists_findShortestPath {node1 node2 : Text} (different : node1 ≠ node2) {path : List Edge}
    (isPath : grid.IsPath node1 path node2) (near : pathLength path < grid.inf - 1) :
    ∃ found, grid.findShortestPath node1 node2 = some found := by
  have positiveArcs := positive_arcs linked positive
  have closedArcs := closed_arcs linked ends
  -- the path has edges at both of its ends
  have knownFirst : ∃ edge ∈ grid.pEdgesList, ∃ next, edge.between node1 next = true := by
    obtain ⟨inside, walk⟩ := isPath
    cases path with
    | nil => exact absurd walk different
    | cons edge path =>
      obtain ⟨next, joins, _⟩ := walk
      exact ⟨edge, inside List.mem_cons_self, next, joins_iff_between.mp joins⟩
  obtain ⟨first, firstMember, next, firstBetween⟩ := knownFirst
  have known : node1 ∈ grid.pNodesList := by
    rcases Edge.between_iff.mp firstBetween with ⟨rfl, _⟩ | ⟨rfl, _⟩
    · exact (ends first firstMember).1
    · exact (ends first firstMember).2
  have reach := reach_of_isPath linked isPath
  have entries : ∀ node, (node = node1 ∨ ∃ before out weight, grid.arcs before = some out ∧ (node, weight) ∈ out) →
      ∃ out, grid.arcs node = some out := by
    rintro node (rfl | ⟨before, out, weight, entry, arc⟩)
    · obtain ⟨out, entry, _⟩ := (mem_arcs linked).mpr ⟨first, firstMember, firstBetween, rfl⟩
      exact ⟨out, entry⟩
    · obtain ⟨edge, member, between, _⟩ := (mem_arcs linked).mp ⟨out, entry, arc⟩
      obtain ⟨back, entry, _⟩ := (mem_arcs linked).mpr ⟨edge, member, Edge.between_comm.mp between, rfl⟩
      exact ⟨back, entry⟩
  have start : Dijkstra.Invariant grid.arcs grid.pNodesList node1 grid.inf grid.pNodesList
      (Dijkstra.start node1 grid.inf) := Dijkstra.invariant_start nodes
  have left : node2 ∈ grid.pNodesList := (start.frontier known closedArcs reach).1
  obtain ⟨labels, searched⟩ := Dijkstra.search_isSome positiveArcs known closedArcs entries reach near
    start left (Nat.le_refl grid.pNodesList.length)
  obtain ⟨rest, invariant, _, nearEnd, _⟩ :=
    Dijkstra.search_eq_some positiveArcs start searched
  obtain ⟨steps, back, leads⟩ := invariant.backtrack positiveArcs (lt_of_lt_of_le nearEnd (Nat.sub_le _ _))
    (Nat.lt_succ_self (labels.dist node2))
  obtain ⟨found, edges, _, _⟩ := isPath_of_leads linked leads
  exact ⟨found, Option.bind_eq_some_iff.mpr ⟨labels, searched, Option.bind_eq_some_iff.mpr ⟨steps, back, edges⟩⟩⟩

end Shortest

end Grid

def inVector (edges : List Edge) (edge : Edge) : Bool := edge ∈ edges

namespace Grid

variable {grid : Grid}

theorem Simple.findEdgeFromNodeNames_eq (simple : grid.Simple) {edge : Edge} (member : edge ∈ grid.pEdgesList) :
    grid.findEdgeFromNodeNames edge.origin edge.destination = some edge := by
  cases found : grid.findEdgeFromNodeNames edge.origin edge.destination with
  | none => exact absurd edge.between_self (findEdgeFromNodeNames_eq_none.mp found edge member)
  | some other =>
    exact congrArg some (simple.unique other (List.mem_of_find?_eq_some found) edge member (List.find?_some found))

theorem Simple.unsignedEdge_copyOf (simple : grid.Simple) {edge : Edge} (member : edge ∈ grid.pEdgesList)
    (sign crosses : Bool) : grid.unsignedEdge (copyOf edge sign crosses) = some edge := by
  unfold unsignedEdge copyOf
  dsimp only
  rw [dropLast_nodeCopy, dropLast_nodeCopy]
  exact simple.findEdgeFromNodeNames_eq member

section Copies
variable {edges : List Edge} {copy : Grid}
  (polarised : Polarised grid.pNodesList (bothCopies grid.pEdgesList) (fun copy => copy.1 ∈ edges) copy)
include polarised

theorem mem_copies {edge : Edge} :
    edge ∈ copy.pEdgesList ↔ ∃ base ∈ grid.pEdgesList, ∃ sign, edge = copyOf base sign (inVector edges base) := by
  rw [polarised.edges]
  constructor
  · rintro ⟨⟨base, sign⟩, there, rfl⟩
    exact ⟨base, mem_bothCopies.mp there, sign, rfl⟩
  · rintro ⟨base, member, sign, rfl⟩
    exact ⟨(base, sign), mem_bothCopies.mpr member, rfl⟩

theorem walk_of_isPath (simple : grid.Simple) {u : Text} {sign : Bool} {path : List Edge} {node : Text}
    (isPath : copy.IsPath (nodeCopy u sign) path node) :
    ∃ es w, node = nodeCopy w (sign ^^ parity (inVector edges) es) ∧ grid.IsPath u es w ∧
      path.mapM grid.unsignedEdge = some es ∧ pathLength path = pathLength es := by
  induction path generalizing u sign with
  | nil =>
    refine ⟨[], u, ?_, ⟨List.nil_subset _, rfl⟩, rfl, rfl⟩
    rw [parity, Bool.xor_false]
    exact Eq.symm isPath.2
  | cons edge path ih =>
    obtain ⟨inside, next, joins, rest⟩ := isPath
    obtain ⟨listed, others⟩ := List.cons_subset.mp inside
    obtain ⟨base, member, start, rfl⟩ := (mem_copies polarised).mp listed
    -- the copy is taken from its origin, or from its destination
    obtain ⟨v, baseJoins, rfl⟩ : ∃ v, Joins Edge.origin Edge.destination base u v ∧
        next = nodeCopy v (sign ^^ inVector edges base) := by
      rcases joins with ⟨origin, rfl⟩ | ⟨rfl, destination⟩
      · obtain ⟨rfl, rfl⟩ := nodeCopy_inj.mp origin
        exact ⟨base.destination, .inl ⟨rfl, rfl⟩, rfl⟩
      · obtain ⟨rfl, rfl⟩ := nodeCopy_inj.mp destination
        refine ⟨base.origin, .inr ⟨rfl, rfl⟩, ?_⟩
        rw [Bool.xor_assoc, Bool.xor_self, Bool.xor_false]
        rfl
    obtain ⟨es, w, rfl, ⟨among, walk⟩, found, total⟩ := ih ⟨others, rest⟩
    refine ⟨base :: es, w, ?_, ⟨List.cons_subset.mpr ⟨member, among⟩, v, baseJoins, walk⟩, ?_, ?_⟩
    · rw [parity, Bool.xor_assoc]
    · rw [List.mapM_cons, simple.unsignedEdge_copyOf member, found]
      rfl
    · unfold pathLength at total ⊢
      rw [List.map_cons, List.sum_cons, total, List.map_cons, List.sum_cons]
      rfl

theorem exists_isPath {u w : Text} {es : List Edge} (walk : grid.IsPath u es w) (sign : Bool) :
    ∃ path, copy.IsPath (nodeCopy u sign) path (nodeCopy w (sign ^^ parity (inVector edges) es)) ∧
      pathLength path = pathLength es := by
  induction es generalizing u sign with
  | nil =>
    refine ⟨[], ⟨List.nil_subset _, ?_⟩, rfl⟩
    have same : u = w := walk.2
    rw [parity, Bool.xor_false, same]
    rfl
  | cons edge es ih =>
    obtain ⟨inside, v, joins, rest⟩ := walk
    obtain ⟨member, others⟩ := List.cons_subset.mp inside
    obtain ⟨path, ⟨among, steps⟩, total⟩ := ih ⟨others, rest⟩ (sign ^^ inVector edges edge)
    obtain ⟨start, copyJoins⟩ : ∃ start, Joins Edge.origin Edge.destination (copyOf edge start (inVector edges edge))
        (nodeCopy u sign) (nodeCopy v (sign ^^ inVector edges edge)) := by
      rcases joins with ⟨rfl, rfl⟩ | ⟨rfl, rfl⟩
      · exact ⟨sign, .inl ⟨rfl, rfl⟩⟩
      · refine ⟨sign ^^ inVector edges edge, .inr ⟨rfl, ?_⟩⟩
        unfold copyOf
        rw [Bool.xor_assoc, Bool.xor_self, Bool.xor_false]
    refine ⟨copyOf edge start (inVector edges edge) :: path, ⟨?_, _, copyJoins, ?_⟩, ?_⟩
    · exact List.cons_subset.mpr ⟨(mem_copies polarised).mpr ⟨edge, member, start, rfl⟩, among⟩
    · rw [parity, ← Bool.xor_assoc]
      exact steps
    · unfold pathLength at total ⊢
      rw [List.map_cons, List.sum_cons, total, List.map_cons, List.sum_cons]
      rfl

end Copies

theorem mem_pushNode {nodes : List Text} {node other : Text} : other ∈ pushNode nodes node ↔ other ∈ nodes ∨ other = node := by
  unfold pushNode
  split_ifs with known
  · constructor
    · exact .inl
    · rintro (listed | rfl)
      · exact listed
      · exact known
  · rw [List.mem_append, List.mem_singleton]

theorem mem_adjacentNodes {edges : List Edge} {node : Text} :
    node ∈ adjacentNodes edges ↔ ∃ edge ∈ edges, node = edge.origin ∨ node = edge.destination := by
  unfold adjacentNodes
  induction edges using List.reverseRecOn with
  | nil => simp
  | append_singleton edges edge ih =>
    rw [List.foldl_append, List.foldl_cons, List.foldl_nil, mem_pushNode, mem_pushNode, ih]
    simp only [List.mem_append, List.mem_singleton, or_and_right, exists_or, exists_eq_left, or_assoc]

theorem of_minimumPath {vN : List Text} {best : Option Nat × List Edge} (found : grid.minimumPath vN = some best) :
    (vN = [] ∧ best = (none, [])) ∨
      (∃ name ∈ vN, grid.pathBetweenCopies name = some best.2) ∧ best.1 = some (pathLength best.2) ∧
        ∀ name ∈ vN, ∃ path, grid.pathBetweenCopies name = some path ∧ pathLength best.2 ≤ pathLength path := by
  unfold minimumPath at found
  induction vN using List.reverseRecOn generalizing best with
  | nil => exact .inl ⟨rfl, (Option.some.inj found).symm⟩
  | append_singleton vN last ih =>
    rw [List.foldlM_append] at found
    obtain ⟨before, foundBefore, turn⟩ := Option.bind_eq_some_iff.mp found
    rw [List.foldlM_cons] at turn
    obtain ⟨next, mapped, same⟩ := Option.bind_eq_some_iff.mp turn
    obtain rfl : next = best := Option.some.inj same
    obtain ⟨path, foundPath, rfl⟩ := Option.map_eq_some_iff.mp mapped
    have lastFound (other : Text) (member : other ∈ [last]) : grid.pathBetweenCopies other = some path := by
      rw [List.mem_singleton.mp member]
      exact foundPath
    refine .inr ?_
    unfold shorter
    rcases ih foundBefore with ⟨rfl, rfl⟩ | ⟨⟨name, member, foundName⟩, length, least⟩
    · exact ⟨⟨last, List.mem_cons_self, foundPath⟩, rfl, fun other member => ⟨path, lastFound other member, Nat.le_refl _⟩⟩
    · rw [length, Option.all_some]
      by_cases less : pathLength path < pathLength before.2
      · rw [if_pos (decide_eq_true less)]
        refine ⟨⟨last, List.mem_append_right _ List.mem_cons_self, foundPath⟩, rfl, fun other listed => ?_⟩
        rcases List.mem_append.mp listed with earlier | now
        · obtain ⟨others, foundOthers, bound⟩ := least other earlier
          exact ⟨others, foundOthers, le_trans (le_of_lt less) bound⟩
        · exact ⟨path, lastFound other now, Nat.le_refl _⟩
      · rw [if_neg fun wrong => less (of_decide_eq_true wrong)]
        refine ⟨⟨name, List.mem_append_left _ member, foundName⟩, length, fun other listed => ?_⟩
        rcases List.mem_append.mp listed with earlier | now
        · exact least other earlier
        · exact ⟨path, lastFound other now, not_lt.mp less⟩

theorem exists_minimumPath {vN : List Text} (all : ∀ name ∈ vN, ∃ path, grid.pathBetweenCopies name = some path) :
    ∃ best, grid.minimumPath vN = some best := by
  unfold minimumPath
  induction vN using List.reverseRecOn with
  | nil => exact ⟨_, rfl⟩
  | append_singleton vN last ih =>
    obtain ⟨before, found⟩ := ih fun name member => all name (List.mem_append_left _ member)
    obtain ⟨path, foundPath⟩ := all last (List.mem_append_right _ List.mem_cons_self)
    refine ⟨shorter before path, ?_⟩
    rw [List.foldlM_append, found, Option.bind_eq_bind, Option.bind_some, List.foldlM_cons, foundPath]
    rfl

theorem map_fst_zip_sublist (edges : List Edge) (vector : EdgeIncidence) :
    ((edges.zip vector).map Prod.fst).Sublist edges := by
  induction edges generalizing vector with
  | nil => exact List.Sublist.refl []
  | cons edge edges ih =>
    cases vector with
    | nil => exact List.nil_sublist _
    | cons bit vector => exact (ih vector).cons_cons edge

theorem getEdgeVectorFromIncidence_sublist (vector : EdgeIncidence) :
    (grid.getEdgeVectorFromIncidence vector).Sublist grid.pEdgesList := by
  unfold getEdgeVectorFromIncidence
  have kept : (((grid.pEdgesList.zip vector).filter fun edge => edge.2).map Prod.fst).Sublist
      ((grid.pEdgesList.zip vector).map Prod.fst) := List.filter_sublist.map Prod.fst
  exact kept.trans (map_fst_zip_sublist _ _)

section CycleOf
variable (simple : grid.Simple) {vector : EdgeIncidence}
include simple

theorem Simple.exists_polarised (vector : EdgeIncidence) :
    ∃ start copy, grid.getDuplicatedGrid = some start ∧
      start.crossEdges (grid.getEdgeVectorFromIncidence vector) = some copy ∧
      Polarised grid.pNodesList (bothCopies grid.pEdgesList)
        (fun copy => copy.1 ∈ grid.getEdgeVectorFromIncidence vector) copy := by
  obtain ⟨start, found, polarised⟩ := simple.getDuplicatedGrid
  have sublist := grid.getEdgeVectorFromIncidence_sublist vector
  obtain ⟨copy, crossed, result⟩ := simple.crossEdges polarised (grid.getEdgeVectorFromIncidence vector)
    sublist.subset (simple.distinct.sublist sublist)
  exact ⟨start, copy, found, crossed, result⟩

variable {edges : List Edge} {copy : Grid}

theorem Simple.copy_ends
    (polarised : Polarised grid.pNodesList (bothCopies grid.pEdgesList) (fun copy => copy.1 ∈ edges) copy) :
    (∀ edge ∈ copy.pEdgesList, edge.origin ∈ copy.pNodesList ∧ edge.destination ∈ copy.pNodesList) ∧
      ∀ edge ∈ copy.pEdgesList, 0 < edge.weight := by
  constructor
  · intro edge member
    obtain ⟨base, listed, sign, rfl⟩ := (mem_copies polarised).mp member
    have ends := simple.ends base listed
    exact ⟨(polarised.nodes _).mpr ⟨_, ends.1, _, rfl⟩, (polarised.nodes _).mpr ⟨_, ends.2, _, rfl⟩⟩
  · intro edge member
    obtain ⟨base, listed, sign, rfl⟩ := (mem_copies polarised).mp member
    exact simple.positive base listed

omit simple in
theorem pathBetweenCopies_eq
    (polarised : Polarised grid.pNodesList (bothCopies grid.pEdgesList) (fun copy => copy.1 ∈ edges) copy)
    {name : Text} (known : name ∈ grid.pNodesList) :
    copy.pathBetweenCopies name = copy.findShortestPath (nodeCopy name false) (nodeCopy name true) := by
  have first : copy.findNodeFromName (name ++ ['+']) = some (nodeCopy name false) := polarised.find_node known false
  have second : copy.findNodeFromName (name ++ ['-']) = some (nodeCopy name true) := polarised.find_node known true
  unfold pathBetweenCopies
  rw [first, second]
  rfl

theorem Simple.of_pathBetweenCopies
    (polarised : Polarised grid.pNodesList (bothCopies grid.pEdgesList) (fun copy => copy.1 ∈ edges) copy)
    {name : Text} (known : name ∈ grid.pNodesList) {path : List Edge} (found : copy.pathBetweenCopies name = some path) :
    ∃ cycle, path.mapM grid.unsignedEdge = some cycle ∧ pathLength path = pathLength cycle ∧
      grid.IsPath name cycle name ∧ parity (inVector edges) cycle = true ∧
      ∀ other, grid.IsPath name other name → parity (inVector edges) other = true →
        pathLength cycle ≤ pathLength other := by
  obtain ⟨ends, positive⟩ := simple.copy_ends polarised
  rw [pathBetweenCopies_eq polarised known] at found
  obtain ⟨isPath, least⟩ := of_findShortestPath polarised.linked polarised.nodesDistinct ends positive
    ((polarised.nodes _).mpr ⟨name, known, false, rfl⟩) found
  obtain ⟨cycle, w, same, walk, edges', total⟩ := walk_of_isPath polarised simple isPath
  obtain ⟨rfl, signs⟩ := nodeCopy_inj.mp same
  have odd : parity (inVector edges) cycle = true := by
    rw [Bool.true_xor] at signs
    cases even : parity (inVector edges) cycle with
    | true => rfl
    | false =>
      rw [even] at signs
      exact absurd signs Bool.false_ne_true
  refine ⟨cycle, edges', total, walk, odd, fun other otherWalk otherOdd => ?_⟩
  obtain ⟨lifted, liftedPath, liftedTotal⟩ := exists_isPath polarised otherWalk false
  rw [otherOdd, Bool.xor_true] at liftedPath
  rw [← total, ← liftedTotal]
  exact least lifted liftedPath

/-- A cycle of a vector that has edges is a closed walk with an odd number of them, which starts at an end of one,
and no such walk is shorter.
-/
theorem Simple.of_cycleOf {cycle : List Edge} (found : grid.cycleOf vector = some cycle)
    (some' : grid.getEdgeVectorFromIncidence vector ≠ []) :
    (∃ name, grid.IsPath name cycle name) ∧ parity (inVector (grid.getEdgeVectorFromIncidence vector)) cycle = true ∧
      ∀ edge ∈ grid.getEdgeVectorFromIncidence vector, ∀ name other, name = edge.origin ∨ name = edge.destination →
        grid.IsPath name other name → parity (inVector (grid.getEdgeVectorFromIncidence vector)) other = true →
        pathLength cycle ≤ pathLength other := by
  obtain ⟨start, copy, foundStart, foundCopy, polarised⟩ := simple.exists_polarised vector
  have sublist := grid.getEdgeVectorFromIncidence_sublist vector
  unfold cycleOf at found
  rw [foundStart, Option.bind_eq_bind, Option.bind_some] at found
  dsimp only at found
  rw [foundCopy, Option.bind_eq_bind, Option.bind_some] at found
  obtain ⟨path, foundPath, foundCycle⟩ := Option.bind_eq_some_iff.mp found
  obtain ⟨best, foundBest, rfl⟩ := Option.map_eq_some_iff.mp foundPath
  generalize grid.getEdgeVectorFromIncidence vector = edges at *
  have nodeKnown (name : Text) (member : name ∈ adjacentNodes edges) : name ∈ grid.pNodesList := by
    obtain ⟨edge, listed, rfl | rfl⟩ := mem_adjacentNodes.mp member
    · exact (simple.ends edge (sublist.subset listed)).1
    · exact (simple.ends edge (sublist.subset listed)).2
  rcases of_minimumPath foundBest with ⟨none, _⟩ | ⟨⟨name, member, foundName⟩, _, least⟩
  · obtain ⟨edge, rest, rfl⟩ := List.exists_cons_of_ne_nil some'
    have first : edge.origin ∈ adjacentNodes (edge :: rest) :=
      mem_adjacentNodes.mpr ⟨edge, List.mem_cons_self, .inl rfl⟩
    rw [none] at first
    exact absurd first List.not_mem_nil
  · obtain ⟨cycle', edges', total, walk, odd, _⟩ := simple.of_pathBetweenCopies polarised (nodeKnown name member) foundName
    obtain rfl := Option.some.inj (edges'.symm.trans foundCycle)
    refine ⟨⟨name, walk⟩, odd, fun edge listed other walk' end' closed otherOdd => ?_⟩
    have otherMember : other ∈ adjacentNodes edges := mem_adjacentNodes.mpr ⟨edge, listed, end'⟩
    obtain ⟨path, foundOther, bound⟩ := least other otherMember
    obtain ⟨_, _, otherTotal, _, _, shortest⟩ :=
      simple.of_pathBetweenCopies polarised (nodeKnown other otherMember) foundOther
    rw [← total]
    exact le_trans bound (otherTotal ▸ shortest walk' closed otherOdd)

theorem Simple.nodup_of_cycleOf {cycle : List Edge} (found : grid.cycleOf vector = some cycle)
    (some' : grid.getEdgeVectorFromIncidence vector ≠ []) : cycle.Nodup := by
  obtain ⟨⟨name, inside, walk⟩, odd, shortest⟩ := simple.of_cycleOf found some'
  apply walk.nodup_of_shortest (fun edge member => simple.positive edge (inside member)) odd
  intro edge x y other flip _ joins closed otherOdd among
  have ends : x = edge.origin ∨ x = edge.destination := by
    rcases joins with ⟨same, _⟩ | ⟨_, same⟩
    · exact .inl same.symm
    · exact .inr same.symm
  exact shortest edge (of_decide_eq_true flip) x other ends ⟨List.Subset.trans among inside, closed⟩ otherOdd

/-- A cycle is found when every end of an edge of the vector is on a closed walk with an odd number of edges of the
vector, which takes no edge twice.
-/
theorem Simple.exists_cycleOf
    (odd : ∀ edge ∈ grid.getEdgeVectorFromIncidence vector, ∀ name, name = edge.origin ∨ name = edge.destination →
      ∃ walk, grid.IsPath name walk name ∧ walk.Nodup ∧
        parity (inVector (grid.getEdgeVectorFromIncidence vector)) walk = true) :
    ∃ cycle, grid.cycleOf vector = some cycle := by
  obtain ⟨start, copy, foundStart, foundCopy, polarised⟩ := simple.exists_polarised vector
  have sublist := grid.getEdgeVectorFromIncidence_sublist vector
  unfold cycleOf
  rw [foundStart, Option.bind_eq_bind, Option.bind_some]
  dsimp only
  rw [foundCopy, Option.bind_eq_bind, Option.bind_some]
  generalize grid.getEdgeVectorFromIncidence vector = edges at *
  obtain ⟨ends, positive⟩ := simple.copy_ends polarised
  have nodeKnown (name : Text) (member : name ∈ adjacentNodes edges) : name ∈ grid.pNodesList := by
    obtain ⟨edge, listed, rfl | rfl⟩ := mem_adjacentNodes.mp member
    · exact (simple.ends edge (sublist.subset listed)).1
    · exact (simple.ends edge (sublist.subset listed)).2
  have all : ∀ name ∈ adjacentNodes edges, ∃ path, copy.pathBetweenCopies name = some path := by
    intro name member
    obtain ⟨edge, listed, end'⟩ := mem_adjacentNodes.mp member
    obtain ⟨walk, isPath, distinct, flips⟩ := odd edge listed name end'
    obtain ⟨lifted, liftedPath, total⟩ := exists_isPath polarised isPath false
    rw [flips, Bool.xor_true] at liftedPath
    rw [pathBetweenCopies_eq polarised (nodeKnown name member)]
    have different : nodeCopy name false ≠ nodeCopy name true :=
      fun same => Bool.false_ne_true (nodeCopy_inj.mp same).2
    apply exists_findShortestPath polarised.linked polarised.nodesDistinct ends positive different liftedPath
    -- the edges of the walk are at most all edges, and the bound counts all of them four times
    have far := polarised.far
    rw [sum_bothCopies] at far
    have short := length_le_of_nodup Edge.weight distinct isPath.1
    have edgePositive := simple.positive edge (sublist.subset listed)
    have weightBound : edge.weight ≤ (grid.pEdgesList.map Edge.weight).sum :=
      List.le_sum_of_mem (List.mem_map.mpr ⟨edge, sublist.subset listed, rfl⟩)
    unfold Walks.length at short
    unfold pathLength at total ⊢
    omega
  obtain ⟨best, foundBest⟩ := exists_minimumPath all
  have path : copy.twoLevelPath (adjacentNodes edges) = some best.2 := congrArg (Option.map Prod.snd) foundBest
  rw [path, Option.bind_some]
  rcases of_minimumPath foundBest with ⟨_, rfl⟩ | ⟨⟨name, member, foundName⟩, _, _⟩
  · exact ⟨[], rfl⟩
  · obtain ⟨cycle, found, _⟩ := simple.of_pathBetweenCopies polarised (nodeKnown name member) foundName
    exact ⟨cycle, found⟩

end CycleOf

end Grid

end Antares.ConstraintsBuilder
