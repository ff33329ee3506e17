import Antares.Library.Dijkstra
import Antares.Library.Texts
import Mathlib.Algebra.Order.Ring.Nat
import Mathlib.Data.List.Sort

/-! The graph of the constraints builder: nodes, edges, its spanning tree, its signed copy, and the search of
the cycles that span it. What its edges and the neighbours of its nodes have to do with each other, when
edges are added and removed.
-/

set_option autoImplicit false

namespace Antares.ConstraintsBuilder

open Library

structure Edge where
  origin : Text
  destination : Text
  weight : Nat
  deriving DecidableEq, Repr

/-- `adjency` has an entry for every node that has ever had an edge. -/
structure Grid where
  pNodesList : List Text
  pEdgesList : List Edge
  inf : Nat
  adjency : Text → Option (List (Text × Edge))

def Edge.between (u v : Text) (edge : Edge) : Bool :=
  (edge.origin = u ∧ edge.destination = v) ∨ (edge.destination = u ∧ edge.origin = v)

namespace Grid

def empty : Grid where
  pNodesList := []
  pEdgesList := []
  inf := 0
  adjency := fun _ => none

variable (grid : Grid)

def addNode (id : Text) : Grid :=
  if id ∈ grid.pNodesList then grid else { grid with pNodesList := grid.pNodesList ++ [id] }

def findNodeFromName (name : Text) : Option Text := grid.pNodesList.find? fun node => node = name

def findEdgeFromNodeNames (u v : Text) : Option Edge := grid.pEdgesList.find? (Edge.between u v)

variable (neighbours : Option (List (Text × Edge)))

/-- `insert` keeps an entry that is there already. -/
def insertNeighbour (node : Text) (edge : Edge) : List (Text × Edge) :=
  let found := neighbours.getD []
  if found.any fun neighbour => neighbour.1 = node then found else found ++ [(node, edge)]

/-- The weight is added to `inf` twice. -/
def addEdge (n1 n2 : Text) (weight : Nat) : Grid :=
  match grid.findEdgeFromNodeNames n1 n2 with
  | some _ => grid
  | none =>
    let newEdge : Edge := { origin := n1, destination := n2, weight := weight }
    let adjency := Function.update grid.adjency n1 (some (insertNeighbour (grid.adjency n1) n2 newEdge))
    { grid with
      pEdgesList := grid.pEdgesList ++ [newEdge]
      inf := grid.inf + weight + weight
      adjency := Function.update adjency n2 (some (insertNeighbour (adjency n2) n1 newEdge)) }

def eraseNeighbour (node : Text) : List (Text × Edge) :=
  (neighbours.getD []).filter fun neighbour => neighbour.1 ≠ node

def removeEdge (edge : Edge) : Grid :=
  if edge ∈ grid.pEdgesList then
    let adjency := Function.update grid.adjency edge.origin
      (some (eraseNeighbour (grid.adjency edge.origin) edge.destination))
    { grid with
      pEdgesList := grid.pEdgesList.erase edge
      adjency := Function.update adjency edge.destination
        (some (eraseNeighbour (adjency edge.destination) edge.origin)) }
  else grid

/-- One edge of `kruskal`: it joins the nodes of the label of its destination to those of its origin. -/
def joinEdge (state : (Text → Text) × List Edge) (edge : Edge) : (Text → Text) × List Edge :=
  let uf := state.1
  if uf edge.origin ≠ uf edge.destination then
    (fun node => if uf node = uf edge.destination then uf edge.origin else uf node, state.2 ++ [edge])
  else state

/-- The spanning tree, from the edges in the order of their weights. -/
def kruskal : List Edge :=
  ((grid.pEdgesList.insertionSort fun edge other => edge.weight ≤ other.weight).foldl joinEdge (id, [])).2

abbrev EdgeIncidence : Type := List Bool

def getIncidenceVector (vE : List Edge) : EdgeIncidence := grid.pEdgesList.map fun edge => edge ∈ vE

def getEdgeVectorFromIncidence (vI : EdgeIncidence) : List Edge :=
  ((grid.pEdgesList.zip vI).filter fun edge => edge.2).map Prod.fst

variable (e1 e2 : EdgeIncidence)

def incidenceXOR : EdgeIncidence := List.zipWith (· ^^ ·) e1 e2

def incidenceInnerProduct : Nat := (List.zipWith (· && ·) e1 e2).count true % 2

def addCopy (sign : Char) (edge : Edge) : Option Grid := do
  let orig ← grid.findNodeFromName (edge.origin ++ [sign])
  let dest ← grid.findNodeFromName (edge.destination ++ [sign])
  some (grid.addEdge orig dest edge.weight)

def getDuplicatedGrid : Option Grid :=
  grid.pEdgesList.foldlM (fun copy edge => (copy.addCopy '+' edge).bind fun copy => copy.addCopy '-' edge)
    (grid.pNodesList.foldl (fun copy node => (copy.addNode (node ++ ['+'])).addNode (node ++ ['-'])) empty)

/-- A copy of an edge now ends at the copy of its destination with the other sign. -/
def crossCopy (sign other : Char) (edge : Edge) : Option Grid := do
  let ei ← grid.findEdgeFromNodeNames (edge.origin ++ [sign]) (edge.destination ++ [sign])
  let ni1 ← grid.findNodeFromName (edge.origin ++ [sign])
  let ni2 ← grid.findNodeFromName (edge.destination ++ [other])
  some ((grid.addEdge ni1 ni2 ei.weight).removeEdge ei)

def crossEdges (edges : List Edge) : Option Grid :=
  edges.foldlM (fun copy edge => (copy.crossCopy '+' '-' edge).bind fun copy => copy.crossCopy '-' '+' edge) grid

def pushNode (nodes : List Text) (node : Text) : List Text := if node ∈ nodes then nodes else nodes ++ [node]

def adjacentNodes (edges : List Edge) : List Text :=
  edges.foldl (fun nodes edge => pushNode (pushNode nodes edge.origin) edge.destination) []

def edgeOfStep (step : Text × Text) : Option Edge :=
  (grid.adjency step.1).bind fun neighbours => (neighbours.find? fun neighbour => neighbour.1 = step.2).map Prod.snd

/-- The edges from `node2` back to `node1`. Every step of the path shortens the distance. -/
def findShortestPath (node1 node2 : Text) : Option (List Edge) := do
  let arcs (node : Text) : Option (List (Text × Nat)) :=
    (grid.adjency node).map fun neighbours => neighbours.map fun neighbour => (neighbour.1, neighbour.2.weight)
  let labels ← Dijkstra.search arcs node2 grid.inf grid.pNodesList.length grid.pNodesList (Dijkstra.start node1 grid.inf)
  let steps ← Dijkstra.backtrack labels.prev (labels.dist node2 + 1) node2
  steps.mapM grid.edgeOfStep

def pathLength (path : List Edge) : Nat := (path.map Edge.weight).sum

def shorter (best : Option Nat × List Edge) (path : List Edge) : Option Nat × List Edge :=
  if best.1.all fun length => pathLength path < length then (some (pathLength path), path) else best

def pathBetweenCopies (name : Text) : Option (List Edge) := do
  let node1 ← grid.findNodeFromName (name ++ ['+'])
  let node2 ← grid.findNodeFromName (name ++ ['-'])
  grid.findShortestPath node1 node2

def minimumPath (vN : List Text) : Option (Option Nat × List Edge) :=
  vN.foldlM (fun best name => (grid.pathBetweenCopies name).map (shorter best)) (none, [])

/-- The first shortest of the paths between the two copies of some nodes. -/
def twoLevelPath (vN : List Text) : Option (List Edge) := (grid.minimumPath vN).map Prod.snd

def unsignedEdge (edge : Edge) : Option Edge :=
  grid.findEdgeFromNodeNames edge.origin.dropLast edge.destination.dropLast

/-- The cycle of a vector: a shortest path between two copies of a node, where the edges of the vector change
the sign.
-/
def cycleOf (vector : EdgeIncidence) : Option (List Edge) := do
  let polarisedDuplicate ← grid.getDuplicatedGrid
  let v := grid.getEdgeVectorFromIncidence vector
  let polarisedDuplicate ← polarisedDuplicate.crossEdges v
  let path ← polarisedDuplicate.twoLevelPath (adjacentNodes v)
  path.mapM grid.unsignedEdge

def reduceVector (cycle vector other : EdgeIncidence) : EdgeIncidence :=
  if incidenceInnerProduct cycle other = 1 then incidenceXOR vector other else other

/-- The cycles of the vectors in turn; `turns` is their number. -/
def cycles : Nat → List EdgeIncidence → Option (List (List Edge))
  | 0, _ => some []
  | _ + 1, [] => some []
  | turns + 1, vector :: rest => do
    let cycle ← grid.cycleOf vector
    let others ← cycles turns (rest.map (reduceVector (grid.getIncidenceVector cycle) vector))
    some (cycle :: others)

def linksToBeAdded : List Edge := grid.pEdgesList.filter fun edge => edge ∉ grid.kruskal

structure Mesh where
  pMesh : List (List Edge)
  meshIndexMatrix : List (List Nat)

inductive MeshFailure where
  /-- It returns false. -/
  | emptySpanningTree
  /-- A node, an edge or a path that is looked up is not there. -/
  | missing

def buildMesh : Except MeshFailure Mesh :=
  if grid.kruskal = [] then .error .emptySpanningTree
  else
    let links := grid.linksToBeAdded
    match grid.cycles links.length (links.map fun edge => grid.getIncidenceVector [edge]) with
    | none => .error .missing
    | some pMesh =>
      .ok
        { pMesh := pMesh
          meshIndexMatrix := pMesh.map fun cycle => cycle.map fun edge => grid.pEdgesList.idxOf edge }

end Grid

theorem Edge.between_iff {u v : Text} {edge : Edge} :
    edge.between u v = true ↔
      (edge.origin = u ∧ edge.destination = v) ∨ (edge.destination = u ∧ edge.origin = v) :=
  decide_eq_true_iff

theorem Edge.between_comm {u v : Text} {edge : Edge} : edge.between u v = true ↔ edge.between v u = true := by
  rw [between_iff, between_iff, or_comm, and_comm, and_comm (a := edge.origin = u)]

theorem Edge.between_self (edge : Edge) : edge.between edge.origin edge.destination = true :=
  between_iff.mpr (.inl ⟨rfl, rfl⟩)

namespace Grid

/-- Every edge is an entry of its two ends, no entry is anything else, and no two edges have the same ends. -/
structure Linked (grid : Grid) : Prop where
  entry : ∀ u v edge, (∃ neighbours, grid.adjency u = some neighbours ∧ (v, edge) ∈ neighbours) ↔
    edge ∈ grid.pEdgesList ∧ edge.between u v = true
  unique : ∀ edge ∈ grid.pEdgesList, ∀ other ∈ grid.pEdgesList, ∀ u v, edge.between u v = true →
    other.between u v = true → edge = other
  loopless : ∀ edge ∈ grid.pEdgesList, edge.origin ≠ edge.destination
  distinct : grid.pEdgesList.Nodup

theorem linked_empty : empty.Linked where
  entry u v edge := by simp [empty]
  unique _ member := absurd member List.not_mem_nil
  loopless _ member := absurd member List.not_mem_nil
  distinct := List.nodup_nil

variable {grid : Grid}

theorem findEdgeFromNodeNames_eq_none {u v : Text} :
    grid.findEdgeFromNodeNames u v = none ↔ ∀ edge ∈ grid.pEdgesList, edge.between u v ≠ true :=
  List.find?_eq_none

theorem Linked.findEdgeFromNodeNames_eq (linked : grid.Linked) {edge : Edge} (member : edge ∈ grid.pEdgesList)
    {u v : Text} (between : edge.between u v = true) : grid.findEdgeFromNodeNames u v = some edge := by
  cases found : grid.findEdgeFromNodeNames u v with
  | none => exact absurd between (findEdgeFromNodeNames_eq_none.mp found edge member)
  | some other =>
    have listed := List.mem_of_find?_eq_some found
    have same := List.find?_some found
    rw [linked.unique other listed edge member u v same between]

theorem findNodeFromName_eq {name : Text} (member : name ∈ grid.pNodesList) :
    grid.findNodeFromName name = some name := by
  unfold findNodeFromName
  cases found : grid.pNodesList.find? fun node => decide (node = name) with
  | none => exact absurd (decide_eq_true rfl) (List.find?_eq_none.mp found name member)
  | some node =>
    have same := List.find?_some found
    rw [decide_eq_true_iff] at same
    exact congrArg some same

theorem linked_addNode (linked : grid.Linked) (id : Text) : (grid.addNode id).Linked := by
  unfold addNode
  split_ifs
  · exact linked
  · exact ⟨linked.entry, linked.unique, linked.loopless, linked.distinct⟩

theorem pEdgesList_addNode (id : Text) : (grid.addNode id).pEdgesList = grid.pEdgesList := by
  unfold addNode
  split_ifs
  · rfl
  · rfl

theorem inf_addNode (id : Text) : (grid.addNode id).inf = grid.inf := by
  unfold addNode
  split_ifs
  · rfl
  · rfl

theorem mem_addNode {id node : Text} :
    node ∈ (grid.addNode id).pNodesList ↔ node ∈ grid.pNodesList ∨ node = id := by
  unfold addNode
  split_ifs with known
  · constructor
    · exact .inl
    · rintro (listed | rfl)
      · exact listed
      · exact known
  · rw [List.mem_append, List.mem_singleton]

theorem nodup_addNode (distinct : grid.pNodesList.Nodup) (id : Text) : (grid.addNode id).pNodesList.Nodup := by
  unfold addNode
  split_ifs with known
  · exact distinct
  · refine List.nodup_append.mpr ⟨distinct, List.nodup_singleton _, fun node listed other last => ?_⟩
    rw [List.mem_singleton.mp last]
    rintro rfl
    exact known listed

section AddEdge
variable {n1 n2 : Text} {weight : Nat}

theorem addEdge_eq (absent : grid.findEdgeFromNodeNames n1 n2 = none) (different : n1 ≠ n2) :
    grid.addEdge n1 n2 weight =
      { grid with
        pEdgesList := grid.pEdgesList ++ [⟨n1, n2, weight⟩]
        inf := grid.inf + weight + weight
        adjency := Function.update
          (Function.update grid.adjency n1 (some (insertNeighbour (grid.adjency n1) n2 ⟨n1, n2, weight⟩))) n2
          (some (insertNeighbour (grid.adjency n2) n1 ⟨n1, n2, weight⟩)) } := by
  unfold addEdge
  rw [absent]
  dsimp only
  rw [Function.update_of_ne (Ne.symm different)]

theorem mem_insertNeighbour {neighbours : Option (List (Text × Edge))} {node : Text} {edge : Edge}
    (absent : ∀ other, (node, other) ∉ neighbours.getD []) {entry : Text × Edge} :
    entry ∈ insertNeighbour neighbours node edge ↔ entry ∈ neighbours.getD [] ∨ entry = (node, edge) := by
  have none : ((neighbours.getD []).any fun neighbour => decide (neighbour.1 = node)) = false := by
    rw [List.any_eq_false]
    rintro ⟨key, other⟩ listed same
    obtain rfl : key = node := of_decide_eq_true same
    exact absent other listed
  unfold insertNeighbour
  dsimp only
  rw [none, if_neg Bool.false_ne_true, List.mem_append, List.mem_singleton]

theorem mem_getD_adjency {u : Text} {entry : Text × Edge} :
    entry ∈ (grid.adjency u).getD [] ↔ ∃ neighbours, grid.adjency u = some neighbours ∧ entry ∈ neighbours := by
  cases grid.adjency u with
  | none => simp
  | some neighbours => simp

theorem Linked.addEdge (linked : grid.Linked) (absent : grid.findEdgeFromNodeNames n1 n2 = none)
    (different : n1 ≠ n2) : (grid.addEdge n1 n2 weight).Linked := by
  have free := findEdgeFromNodeNames_eq_none.mp absent
  rw [addEdge_eq absent different]
  have known (u v : Text) (edge : Edge) : (v, edge) ∈ (grid.adjency u).getD [] ↔
      edge ∈ grid.pEdgesList ∧ edge.between u v = true := by
    rw [mem_getD_adjency]
    exact linked.entry u v edge
  have newBetween (u v : Text) : Edge.between u v ⟨n1, n2, weight⟩ = true ↔ (n1 = u ∧ n2 = v) ∨ (n2 = u ∧ n1 = v) :=
    Edge.between_iff
  constructor
  · intro u v edge
    dsimp only
    rw [List.mem_append, List.mem_singleton]
    -- both ends get the new edge as a neighbour, in the order of the two updates
    by_cases atSecond : u = n2
    · subst atSecond
      rw [Function.update_self]
      have fresh : ∀ other, (n1, other) ∉ (grid.adjency u).getD [] := by
        intro other listed
        obtain ⟨member, between⟩ := (known u n1 other).mp listed
        exact free other member (Edge.between_comm.mp between)
      simp only [Option.some.injEq, exists_eq_left', mem_insertNeighbour fresh, known, Prod.mk.injEq]
      constructor
      · rintro (⟨member, between⟩ | ⟨rfl, rfl⟩)
        · exact ⟨.inl member, between⟩
        · exact ⟨.inr rfl, (newBetween _ _).mpr (.inr ⟨rfl, rfl⟩)⟩
      · rintro ⟨member | rfl, between⟩
        · exact .inl ⟨member, between⟩
        · rcases (newBetween u v).mp between with ⟨same, _⟩ | ⟨_, same⟩
          · exact absurd same different
          · exact .inr ⟨same.symm, rfl⟩
    · rw [Function.update_of_ne atSecond]
      by_cases atFirst : u = n1
      · subst atFirst
        rw [Function.update_self]
        have fresh : ∀ other, (n2, other) ∉ (grid.adjency u).getD [] := by
          intro other listed
          obtain ⟨member, between⟩ := (known u n2 other).mp listed
          exact free other member between
        simp only [Option.some.injEq, exists_eq_left', mem_insertNeighbour fresh, known, Prod.mk.injEq]
        constructor
        · rintro (⟨member, between⟩ | ⟨rfl, rfl⟩)
          · exact ⟨.inl member, between⟩
          · exact ⟨.inr rfl, (newBetween _ _).mpr (.inl ⟨rfl, rfl⟩)⟩
        · rintro ⟨member | rfl, between⟩
          · exact .inl ⟨member, between⟩
          · rcases (newBetween u v).mp between with ⟨_, same⟩ | ⟨same, _⟩
            · exact .inr ⟨same.symm, rfl⟩
            · exact absurd same.symm different
      · rw [Function.update_of_ne atFirst, linked.entry]
        constructor
        · exact fun ⟨member, between⟩ => ⟨.inl member, between⟩
        · rintro ⟨member | rfl, between⟩
          · exact ⟨member, between⟩
          · rcases (newBetween u v).mp between with ⟨same, _⟩ | ⟨same, _⟩
            · exact absurd same.symm atFirst
            · exact absurd same.symm atSecond
  · intro edge member other otherMember u v between otherBetween
    dsimp only at member otherMember
    rw [List.mem_append, List.mem_singleton] at member otherMember
    have clash : ∀ old ∈ grid.pEdgesList, old.between u v = true →
        Edge.between u v ⟨n1, n2, weight⟩ = true → False := by
      intro old listed oldBetween between
      rcases (newBetween u v).mp between with ⟨rfl, rfl⟩ | ⟨rfl, rfl⟩
      · exact free old listed oldBetween
      · exact free old listed (Edge.between_comm.mp oldBetween)
    rcases member with member | rfl
    · rcases otherMember with otherMember | rfl
      · exact linked.unique edge member other otherMember u v between otherBetween
      · exact (clash edge member between otherBetween).elim
    · rcases otherMember with otherMember | rfl
      · exact (clash other otherMember otherBetween between).elim
      · rfl
  · intro edge member
    dsimp only at member
    rw [List.mem_append, List.mem_singleton] at member
    rcases member with member | rfl
    · exact linked.loopless edge member
    · exact different
  · refine List.nodup_append.mpr ⟨linked.distinct, List.nodup_singleton _, fun edge listed other last => ?_⟩
    rw [List.mem_singleton.mp last]
    rintro rfl
    exact free _ listed ((newBetween _ _).mpr (.inl ⟨rfl, rfl⟩))

end AddEdge

theorem mem_eraseNeighbour {neighbours : Option (List (Text × Edge))} {node : Text} {entry : Text × Edge} :
    entry ∈ eraseNeighbour neighbours node ↔ entry ∈ neighbours.getD [] ∧ entry.1 ≠ node := by
  unfold eraseNeighbour
  rw [List.mem_filter, decide_eq_true_iff]

theorem removeEdge_eq {edge : Edge} (member : edge ∈ grid.pEdgesList) (different : edge.origin ≠ edge.destination) :
    grid.removeEdge edge =
      { grid with
        pEdgesList := grid.pEdgesList.erase edge
        adjency := Function.update
          (Function.update grid.adjency edge.origin
            (some (eraseNeighbour (grid.adjency edge.origin) edge.destination))) edge.destination
          (some (eraseNeighbour (grid.adjency edge.destination) edge.origin)) } := by
  unfold removeEdge
  rw [if_pos member]
  dsimp only
  rw [Function.update_of_ne (Ne.symm different)]

theorem Linked.removeEdge (linked : grid.Linked) {edge : Edge} (member : edge ∈ grid.pEdgesList) :
    (grid.removeEdge edge).Linked := by
  have different := linked.loopless edge member
  rw [removeEdge_eq member different]
  have known (u v : Text) (other : Edge) : (v, other) ∈ (grid.adjency u).getD [] ↔
      other ∈ grid.pEdgesList ∧ other.between u v = true := by
    rw [mem_getD_adjency]
    exact linked.entry u v other
  have left (other : Edge) : other ∈ grid.pEdgesList.erase edge ↔ other ≠ edge ∧ other ∈ grid.pEdgesList :=
    linked.distinct.mem_erase_iff
  -- at an end of the edge, the other end is the key of the edge and of no other one
  have key {u v w : Text} {other : Edge} (listed : other ∈ grid.pEdgesList) (between : other.between u v = true)
      (own : edge.between u w = true) (ends : ∀ x, edge.between u x = true → x = w) : v ≠ w ↔ other ≠ edge := by
    constructor
    · rintro away rfl
      exact away (ends v between)
    · rintro away rfl
      exact away (linked.unique other listed edge member u v between own)
  constructor
  · intro u v other
    dsimp only
    rw [left]
    by_cases atSecond : u = edge.destination
    · subst atSecond
      rw [Function.update_self]
      simp only [Option.some.injEq, exists_eq_left', mem_eraseNeighbour, known]
      have ends : ∀ x, edge.between edge.destination x = true → x = edge.origin := by
        intro x between
        rcases Edge.between_iff.mp between with ⟨same, _⟩ | ⟨_, same⟩
        · exact absurd same different
        · exact same.symm
      constructor
      · rintro ⟨⟨listed, between⟩, away⟩
        exact ⟨⟨(key listed between (Edge.between_comm.mp edge.between_self) ends).mp away, listed⟩, between⟩
      · rintro ⟨⟨away, listed⟩, between⟩
        exact ⟨⟨listed, between⟩, (key listed between (Edge.between_comm.mp edge.between_self) ends).mpr away⟩
    · rw [Function.update_of_ne atSecond]
      by_cases atFirst : u = edge.origin
      · subst atFirst
        rw [Function.update_self]
        simp only [Option.some.injEq, exists_eq_left', mem_eraseNeighbour, known]
        have ends : ∀ x, edge.between edge.origin x = true → x = edge.destination := by
          intro x between
          rcases Edge.between_iff.mp between with ⟨_, same⟩ | ⟨same, _⟩
          · exact same.symm
          · exact absurd same.symm different
        constructor
        · rintro ⟨⟨listed, between⟩, away⟩
          exact ⟨⟨(key listed between edge.between_self ends).mp away, listed⟩, between⟩
        · rintro ⟨⟨away, listed⟩, between⟩
          exact ⟨⟨listed, between⟩, (key listed between edge.between_self ends).mpr away⟩
      · rw [Function.update_of_ne atFirst, linked.entry]
        constructor
        · rintro ⟨listed, between⟩
          refine ⟨⟨?_, listed⟩, between⟩
          rintro rfl
          rcases Edge.between_iff.mp between with ⟨same, _⟩ | ⟨same, _⟩
          · exact atFirst same.symm
          · exact atSecond same.symm
        · exact fun ⟨⟨_, listed⟩, between⟩ => ⟨listed, between⟩
  · exact fun other listed another also => linked.unique other (List.mem_of_mem_erase listed) another
      (List.mem_of_mem_erase also)
  · exact fun other listed => linked.loopless other (List.mem_of_mem_erase listed)
  · exact linked.distinct.erase edge

end Grid

end Antares.ConstraintsBuilder
