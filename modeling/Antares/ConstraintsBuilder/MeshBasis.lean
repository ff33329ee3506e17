import Antares.ConstraintsBuilder.SignedCycles
import Antares.Library.RowElimination
import Antares.Library.SpanningForests
import Mathlib.Algebra.Field.ZMod
import Mathlib.Combinatorics.SimpleGraph.Connectivity.Connected
import Mathlib.Data.Set.Card
import Mathlib.LinearAlgebra.Pi

/-! The spanning tree of the grid, and the vectors of edges as linear functionals on the sets of edges, modulo two. The mesh of
a graph: one cycle for each edge that the tree leaves, which together are a basis of its cycles.
-/

set_option autoImplicit false

namespace Antares.ConstraintsBuilder

open Library Library.Walks Library.SpanningForests

namespace Grid

variable (grid : Grid)

def sortedEdges : List Edge := grid.pEdgesList.insertionSort fun edge other => edge.weight ≤ other.weight

def label : Text → Text := (forest Edge.origin Edge.destination grid.sortedEdges).1

variable {grid}

theorem kruskal_eq : grid.kruskal = (forest Edge.origin Edge.destination grid.sortedEdges).2 := rfl

theorem mem_sortedEdges {edge : Edge} : edge ∈ grid.sortedEdges ↔ edge ∈ grid.pEdgesList :=
  (List.perm_insertionSort _ _).mem_iff

theorem kruskal_subset : grid.kruskal ⊆ grid.pEdgesList :=
  fun _ member => mem_sortedEdges.mp ((forest_sublist grid.sortedEdges).subset member)

theorem Simple.nodup_kruskal (simple : grid.Simple) : grid.kruskal.Nodup := by
  have distinct : grid.sortedEdges.Nodup := (List.perm_insertionSort _ _).nodup_iff.mpr simple.distinct
  exact distinct.sublist (forest_sublist grid.sortedEdges)

theorem label_of_edge {edge : Edge} (member : edge ∈ grid.pEdgesList) : grid.label edge.origin = grid.label edge.destination :=
  label_of_mem grid.sortedEdges (mem_sortedEdges.mpr member)

theorem exists_tree_walk {u w : Text} (same : grid.label u = grid.label w) :
    ∃ es, IsWalk Edge.origin Edge.destination u es w ∧ es ⊆ grid.kruskal :=
  exists_walk_of_label grid.sortedEdges same

theorem Simple.kruskal_ne_nil (simple : grid.Simple) (some : grid.pEdgesList ≠ []) : grid.kruskal ≠ [] := by
  obtain ⟨edge, member⟩ := List.exists_mem_of_ne_nil _ some
  obtain ⟨es, walk, inside⟩ := exists_tree_walk (label_of_edge member)
  intro empty
  rw [empty, List.subset_nil] at inside
  rw [inside] at walk
  exact simple.loopless edge member walk

section OddWalks
variable {edges : List Edge}

theorem parity_eq_false {es : List Edge} (outside : ∀ edge ∈ es, edge ∉ edges) : parity (inVector edges) es = false := by
  cases odd : parity (inVector edges) es with
  | false => rfl
  | true =>
    obtain ⟨edge, member, flips⟩ := exists_of_parity _ odd
    exact absurd (of_decide_eq_true flips) (outside edge member)

theorem exists_odd_walk (offTree : ∀ edge ∈ edges, edge ∉ grid.kruskal) {edge : Edge} (listed : edge ∈ edges)
    (member : edge ∈ grid.pEdgesList) {name : Text} (isEnd : name = edge.origin ∨ name = edge.destination) :
    ∃ walk, grid.IsPath name walk name ∧ walk.Nodup ∧ parity (inVector edges) walk = true := by
  obtain ⟨other, joins⟩ : ∃ other, Joins Edge.origin Edge.destination edge name other := by
    rcases isEnd with rfl | rfl
    · exact ⟨edge.destination, .inl ⟨rfl, rfl⟩⟩
    · exact ⟨edge.origin, .inr ⟨rfl, rfl⟩⟩
  have labels : grid.label other = grid.label name := by
    rcases joins with ⟨rfl, rfl⟩ | ⟨rfl, rfl⟩
    · exact (label_of_edge member).symm
    · exact label_of_edge member
  obtain ⟨long, longWalk, longInside⟩ := exists_tree_walk labels
  obtain ⟨tree, walk, once, inside⟩ := exists_nodup_walk longWalk
  have among : tree ⊆ grid.kruskal := List.Subset.trans inside longInside
  refine ⟨edge :: tree, ⟨?_, other, joins, walk⟩, ?_, ?_⟩
  · exact List.cons_subset.mpr ⟨member, List.Subset.trans among kruskal_subset⟩
  · exact List.nodup_cons.mpr ⟨fun wrong => offTree edge listed (among wrong), once⟩
  · rw [parity, parity_eq_false fun step taken wrong => offTree step wrong (among taken), Bool.xor_false]
    exact decide_eq_true listed

end OddWalks

section Components
variable (grid)

def graph : SimpleGraph {name // name ∈ grid.pNodesList} :=
  SimpleGraph.fromRel fun u v => ∃ edge ∈ grid.pEdgesList, edge.origin = u ∧ edge.destination = v

variable {grid}

theorem label_of_adj {u v : {name // name ∈ grid.pNodesList}} (adjacent : grid.graph.Adj u v) :
    grid.label u = grid.label v := by
  rcases (SimpleGraph.fromRel_adj _ u v).mp adjacent with ⟨_, ⟨edge, member, origin, destination⟩ | ⟨edge, member, origin, destination⟩⟩
  · rw [← origin, ← destination]
    exact label_of_edge member
  · rw [← origin, ← destination]
    exact (label_of_edge member).symm

theorem label_of_reachable {u v : {name // name ∈ grid.pNodesList}} (reachable : grid.graph.Reachable u v) :
    grid.label u = grid.label v := by
  obtain ⟨walk⟩ := reachable
  induction walk with
  | nil => rfl
  | cons adjacent _ ih => exact (label_of_adj adjacent).trans ih

theorem Simple.reachable_of_walk (simple : grid.Simple) {u v : {name // name ∈ grid.pNodesList}} {es : List Edge}
    (walk : IsWalk Edge.origin Edge.destination u es v) (among : es ⊆ grid.pEdgesList) : grid.graph.Reachable u v := by
  induction es generalizing u with
  | nil =>
    have same : u = v := Subtype.ext walk
    rw [same]
  | cons edge es ih =>
    obtain ⟨next, joins, rest⟩ := walk
    obtain ⟨member, others⟩ := List.cons_subset.mp among
    have ends := simple.ends edge member
    have different := simple.loopless edge member
    obtain ⟨known, step⟩ : ∃ known : next ∈ grid.pNodesList, grid.graph.Adj u ⟨next, known⟩ := by
      rcases joins with ⟨origin, rfl⟩ | ⟨rfl, destination⟩
      · refine ⟨ends.2, (SimpleGraph.fromRel_adj _ _ _).mpr ⟨?_, .inl ⟨edge, member, origin, rfl⟩⟩⟩
        intro same
        exact different (origin.trans (congrArg Subtype.val same))
      · refine ⟨ends.1, (SimpleGraph.fromRel_adj _ _ _).mpr ⟨?_, .inr ⟨edge, member, rfl, destination⟩⟩⟩
        intro same
        exact different (destination.trans (congrArg Subtype.val same)).symm
    exact step.reachable.trans (ih (u := ⟨next, known⟩) rest others)

theorem Simple.card_components (simple : grid.Simple) :
    Nat.card grid.graph.ConnectedComponent = (grid.pNodesList.toFinset.image grid.label).card := by
  let labelOf : grid.graph.ConnectedComponent → Text :=
    SimpleGraph.ConnectedComponent.lift (fun node => grid.label node) fun u v walk _ => label_of_reachable ⟨walk⟩
  have injective : Function.Injective labelOf := by
    intro first second same
    induction first using SimpleGraph.ConnectedComponent.ind with | _ u => ?_
    induction second using SimpleGraph.ConnectedComponent.ind with | _ v => ?_
    obtain ⟨es, walk, inside⟩ : ∃ es, IsWalk Edge.origin Edge.destination u.1 es v.1 ∧ es ⊆ grid.kruskal :=
      exists_tree_walk same
    exact SimpleGraph.ConnectedComponent.sound (simple.reachable_of_walk walk (List.Subset.trans inside kruskal_subset))
  have range : Set.range labelOf = ↑(grid.pNodesList.toFinset.image grid.label) := by
    ext text
    rw [Finset.coe_image, Set.mem_image]
    constructor
    · rintro ⟨component, rfl⟩
      induction component using SimpleGraph.ConnectedComponent.ind with | _ u => ?_
      exact ⟨u, List.mem_toFinset.mpr u.2, rfl⟩
    · rintro ⟨node, member, rfl⟩
      exact ⟨grid.graph.connectedComponentMk ⟨node, List.mem_toFinset.mp member⟩, rfl⟩
  rw [← Nat.card_range_of_injective injective, range, Nat.card_coe_set_eq, Set.ncard_coe_finset]

end Components

theorem Simple.length_linksToBeAdded (simple : grid.Simple) :
    grid.linksToBeAdded.length + grid.pNodesList.length =
      grid.pEdgesList.length + Nat.card grid.graph.ConnectedComponent := by
  have forest : (forest Edge.origin Edge.destination grid.sortedEdges).2.length +
      (grid.pNodesList.toFinset.image (forest Edge.origin Edge.destination grid.sortedEdges).1).card =
        grid.pNodesList.toFinset.card := by
    apply card_labels
    intro edge member
    rw [List.mem_toFinset, List.mem_toFinset]
    exact simple.ends edge (mem_sortedEdges.mp member)
  rw [← kruskal_eq, List.toFinset_card_of_nodup simple.nodes] at forest
  have tree : (grid.pEdgesList.filter fun edge => edge ∈ grid.kruskal).length = grid.kruskal.length := by
    apply List.Perm.length_eq
    rw [List.perm_ext_iff_of_nodup (simple.distinct.filter _) simple.nodup_kruskal]
    intro edge
    rw [List.mem_filter, decide_eq_true_iff]
    exact ⟨fun both => both.2, fun member => ⟨kruskal_subset member, member⟩⟩
  have parts := List.length_eq_length_filter_add (l := grid.pEdgesList) fun edge => edge ∈ grid.kruskal
  have links : (grid.pEdgesList.filter fun edge => !decide (edge ∈ grid.kruskal)).length = grid.linksToBeAdded.length := by
    unfold linksToBeAdded
    simp only [decide_not]
  rw [simple.card_components]
  unfold label
  omega

end Grid

end Antares.ConstraintsBuilder

namespace Antares.ConstraintsBuilder

open Library Library.Walks Library.RowElimination

def cycleVector (cycle : List Edge) : Edge → ZMod 2 := fun edge => if edge ∈ cycle then 1 else 0

def rowOf : List Edge → Grid.EdgeIncidence → ((Edge → ZMod 2) →ₗ[ZMod 2] ZMod 2)
  | edge :: edges, bit :: vector => (if bit then LinearMap.proj edge else 0) + rowOf edges vector
  | _, _ => 0

namespace Grid

variable (edges : List Edge)

theorem rowOf_incidenceXOR (e1 e2 : EdgeIncidence) (first : e1.length = edges.length)
    (second : e2.length = edges.length) : rowOf edges (incidenceXOR e1 e2) = rowOf edges e1 + rowOf edges e2 := by
  unfold incidenceXOR
  induction edges generalizing e1 e2 with
  | nil => exact (add_zero 0).symm
  | cons edge edges ih =>
    obtain ⟨bit, e1, rfl⟩ := List.exists_cons_of_length_eq_add_one first
    obtain ⟨other, e2, rfl⟩ := List.exists_cons_of_length_eq_add_one second
    rw [List.zipWith_cons_cons, rowOf, rowOf, rowOf, ih e1 e2 (Nat.succ.inj first) (Nat.succ.inj second)]
    have bits : (if (bit ^^ other) = true then LinearMap.proj edge else 0 : (Edge → ZMod 2) →ₗ[ZMod 2] ZMod 2) =
        (if bit = true then LinearMap.proj edge else 0) + if other = true then LinearMap.proj edge else 0 := by
      ext f
      cases bit <;> cases other <;> simp [CharTwo.add_self_eq_zero]
    rw [bits, add_add_add_comm]

theorem rowOf_cycleVector (cycle : List Edge) (vector : EdgeIncidence) :
    rowOf edges vector (cycleVector cycle) =
      ((List.zipWith (· && ·) (edges.map fun edge => decide (edge ∈ cycle)) vector).count true : ZMod 2) := by
  induction edges generalizing vector with
  | nil => simp [rowOf]
  | cons edge edges ih =>
    cases vector with
    | nil => simp [rowOf]
    | cons bit vector =>
      rw [rowOf, LinearMap.add_apply, ih, List.map_cons, List.zipWith_cons_cons, List.count_cons, Nat.cast_add, add_comm]
      congr 1
      unfold cycleVector
      by_cases inside : edge ∈ cycle
      · cases bit <;> simp [inside]
      · cases bit <;> simp [inside]

theorem rowOf_single (edge : Edge) (value : Edge → ZMod 2) :
    rowOf edges (edges.map fun other => decide (other ∈ [edge])) value = edges.count edge • value edge := by
  induction edges with
  | nil => simp [rowOf]
  | cons other edges ih =>
    rw [List.map_cons, rowOf, LinearMap.add_apply, ih, List.count_cons, add_nsmul, add_comm]
    congr 1
    by_cases same : other = edge
    · simp [same]
    · simp [same]

variable {grid : Grid}

theorem length_getIncidenceVector (vE : List Edge) : (grid.getIncidenceVector vE).length = grid.pEdgesList.length :=
  List.length_map _

variable {e1 e2 : EdgeIncidence}

theorem length_incidenceXOR (first : e1.length = grid.pEdgesList.length)
    (second : e2.length = grid.pEdgesList.length) : (incidenceXOR e1 e2).length = grid.pEdgesList.length := by
  unfold incidenceXOR
  rw [List.length_zipWith, first, second, min_self]

theorem mem_getEdgeVectorFromIncidence {vI : EdgeIncidence} {edge : Edge} :
    edge ∈ grid.getEdgeVectorFromIncidence vI ↔
      ∃ place : Nat, grid.pEdgesList[place]? = some edge ∧ vI[place]? = some true := by
  unfold getEdgeVectorFromIncidence
  rw [List.mem_map]
  constructor
  · rintro ⟨⟨other, bit⟩, member, rfl⟩
    obtain ⟨listed, isOne⟩ := List.mem_filter.mp member
    obtain ⟨place, there⟩ := List.mem_iff_getElem?.mp listed
    obtain ⟨first, second⟩ := List.getElem?_zip_eq_some.mp there
    exact ⟨place, first, second.trans (congrArg some isOne)⟩
  · rintro ⟨place, first, second⟩
    have listed : (edge, true) ∈ grid.pEdgesList.zip vI :=
      List.mem_iff_getElem?.mpr ⟨place, List.getElem?_zip_eq_some.mpr ⟨first, second⟩⟩
    exact ⟨(edge, true), List.mem_filter.mpr ⟨listed, rfl⟩, rfl⟩

theorem mem_getEdgeVectorFromIncidence_single {edge other : Edge} (member : edge ∈ grid.pEdgesList) :
    other ∈ grid.getEdgeVectorFromIncidence (grid.getIncidenceVector [edge]) ↔ other = edge := by
  rw [mem_getEdgeVectorFromIncidence]
  unfold getIncidenceVector
  constructor
  · rintro ⟨place, there, bit⟩
    rw [List.getElem?_map, there] at bit
    exact List.mem_singleton.mp (of_decide_eq_true (Option.some.inj bit))
  · rintro rfl
    obtain ⟨place, there⟩ := List.mem_iff_getElem?.mp member
    refine ⟨place, there, ?_⟩
    rw [List.getElem?_map, there]
    exact congrArg some (decide_eq_true List.mem_cons_self)

theorem mem_of_mem_incidenceXOR {edge : Edge}
    (member : edge ∈ grid.getEdgeVectorFromIncidence (incidenceXOR e1 e2)) :
    edge ∈ grid.getEdgeVectorFromIncidence e1 ∨ edge ∈ grid.getEdgeVectorFromIncidence e2 := by
  obtain ⟨place, there, bit⟩ := mem_getEdgeVectorFromIncidence.mp member
  obtain ⟨first, second, firstBit, secondBit, both⟩ := List.getElem?_zipWith_eq_some.mp bit
  cases first with
  | true => exact .inl (mem_getEdgeVectorFromIncidence.mpr ⟨place, there, firstBit⟩)
  | false =>
    rw [Bool.false_xor] at both
    exact .inr (mem_getEdgeVectorFromIncidence.mpr ⟨place, there, both ▸ secondBit⟩)

theorem mem_incidenceXOR {edge : Edge} (length : e1.length = grid.pEdgesList.length)
    (absent : edge ∉ grid.getEdgeVectorFromIncidence e1) (member : edge ∈ grid.getEdgeVectorFromIncidence e2) :
    edge ∈ grid.getEdgeVectorFromIncidence (incidenceXOR e1 e2) := by
  obtain ⟨place, there, bit⟩ := mem_getEdgeVectorFromIncidence.mp member
  have inside : place < e1.length := by
    rw [length]
    exact (List.getElem?_eq_some_iff.mp there).1
  have first : e1[place]? = some false := by
    rw [List.getElem?_eq_getElem inside]
    cases value : e1[place] with
    | false => rfl
    | true =>
      have found : e1[place]? = some true := value ▸ List.getElem?_eq_getElem inside
      exact absurd (mem_getEdgeVectorFromIncidence.mpr ⟨place, there, found⟩) absent
  exact mem_getEdgeVectorFromIncidence.mpr
    ⟨place, there, List.getElem?_zipWith_eq_some.mpr ⟨false, true, first, bit, rfl⟩⟩

theorem count_eq_length_filter (cycle : List Edge) (vector : EdgeIncidence) :
    (List.zipWith (· && ·) (edges.map fun edge => decide (edge ∈ cycle)) vector).count true =
      (((((edges.zip vector).filter fun edge => edge.2).map Prod.fst)).filter fun edge => edge ∈ cycle).length := by
  induction edges generalizing vector with
  | nil => rfl
  | cons edge edges ih =>
    cases vector with
    | nil => rfl
    | cons bit vector =>
      rw [List.map_cons, List.zipWith_cons_cons, List.count_cons, ih, List.zip_cons_cons]
      by_cases inside : edge ∈ cycle
      · cases bit <;> simp [inside]
      · cases bit <;> simp [inside]

theorem Simple.incidenceInnerProduct_eq_one (simple : grid.Simple) {cycle : List Edge} {vector : EdgeIncidence}
    (once : cycle.Nodup) :
    incidenceInnerProduct (grid.getIncidenceVector cycle) vector = 1 ↔
      parity (inVector (grid.getEdgeVectorFromIncidence vector)) cycle = true := by
  have distinct := simple.distinct.sublist (grid.getEdgeVectorFromIncidence_sublist vector)
  have counts : (cycle.filter (inVector (grid.getEdgeVectorFromIncidence vector))).length =
      ((grid.getEdgeVectorFromIncidence vector).filter fun edge => edge ∈ cycle).length := by
    apply List.Perm.length_eq
    rw [List.perm_ext_iff_of_nodup (once.filter _) (distinct.filter _)]
    intro edge
    rw [List.mem_filter, List.mem_filter, decide_eq_true_iff]
    unfold inVector
    rw [decide_eq_true_iff, and_comm]
  rw [parity_eq_odd_count, decide_eq_true_iff, List.countP_eq_length_filter, counts]
  unfold incidenceInnerProduct getIncidenceVector
  rw [count_eq_length_filter]
  rfl

end Grid

end Antares.ConstraintsBuilder

namespace Antares.ConstraintsBuilder

open Library Library.Walks Library.SpanningForests Library.RowElimination

namespace Grid

variable (grid : Grid)

/-- A closed walk along different edges; so every node has an even number of ends. -/
structure IsCycle (cycle : List Edge) : Prop where
  closed : ∃ node, grid.IsPath node cycle node
  once : cycle.Nodup
  even : ∀ node, Even (degree Edge.origin Edge.destination cycle node)

/-- The vectors that every edge to be added still has, each with its edge. -/
structure Pending (rows : List (Edge × EdgeIncidence)) : Prop where
  lengths : ∀ row ∈ rows, row.2.length = grid.pEdgesList.length
  own : ∀ row ∈ rows, row.1 ∈ grid.getEdgeVectorFromIncidence row.2
  later : rows.Pairwise fun row other => other.1 ∉ grid.getEdgeVectorFromIncidence row.2
  offTree : ∀ row ∈ rows, ∀ edge ∈ grid.getEdgeVectorFromIncidence row.2, edge ∉ grid.kruskal

variable {grid}

theorem Simple.pending_linksToBeAdded (simple : grid.Simple) :
    grid.Pending (grid.linksToBeAdded.map fun edge => (edge, grid.getIncidenceVector [edge])) := by
  have listed (edge : Edge) (member : edge ∈ grid.linksToBeAdded) : edge ∈ grid.pEdgesList ∧ edge ∉ grid.kruskal := by
    obtain ⟨among, off⟩ := List.mem_filter.mp member
    exact ⟨among, of_decide_eq_true off⟩
  have distinct : grid.linksToBeAdded.Nodup := simple.distinct.filter _
  constructor
  · intro row member
    obtain ⟨edge, _, rfl⟩ := List.mem_map.mp member
    exact length_getIncidenceVector [edge]
  · intro row member
    obtain ⟨edge, there, rfl⟩ := List.mem_map.mp member
    exact (mem_getEdgeVectorFromIncidence_single (listed edge there).1).mpr rfl
  · apply List.pairwise_map.mpr
    apply distinct.imp_of_mem
    intro edge other there _ different wrong
    exact different ((mem_getEdgeVectorFromIncidence_single (listed edge there).1).mp wrong).symm
  · intro row member other wrong
    obtain ⟨edge, there, rfl⟩ := List.mem_map.mp member
    rw [(mem_getEdgeVectorFromIncidence_single (listed edge there).1).mp wrong]
    exact (listed edge there).2

section Turn
variable {row : Edge × EdgeIncidence} {rows : List (Edge × EdgeIncidence)} {cycle : EdgeIncidence}

variable {vector other : EdgeIncidence}

theorem length_reduceVector (first : vector.length = grid.pEdgesList.length)
    (second : other.length = grid.pEdgesList.length) :
    (reduceVector cycle vector other).length = grid.pEdgesList.length := by
  unfold reduceVector
  split_ifs
  · exact length_incidenceXOR first second
  · exact second

theorem mem_of_mem_reduceVector {edge : Edge}
    (member : edge ∈ grid.getEdgeVectorFromIncidence (reduceVector cycle vector other)) :
    edge ∈ grid.getEdgeVectorFromIncidence vector ∨ edge ∈ grid.getEdgeVectorFromIncidence other := by
  unfold reduceVector at member
  split_ifs at member
  · exact mem_of_mem_incidenceXOR member
  · exact .inr member

theorem Pending.reduce (pending : grid.Pending (row :: rows)) :
    grid.Pending (rows.map fun other => (other.1, reduceVector cycle row.2 other.2)) := by
  obtain ⟨lengths, own, later, offTree⟩ := pending
  obtain ⟨laterFirst, laterRest⟩ := List.pairwise_cons.mp later
  constructor
  · intro reduced member
    obtain ⟨other, there, rfl⟩ := List.mem_map.mp member
    exact length_reduceVector (lengths row List.mem_cons_self) (lengths other (List.mem_cons_of_mem _ there))
  · intro reduced member
    obtain ⟨other, there, rfl⟩ := List.mem_map.mp member
    have mine := own other (List.mem_cons_of_mem _ there)
    unfold reduceVector
    dsimp only
    split_ifs
    · exact mem_incidenceXOR (lengths row List.mem_cons_self) (laterFirst other there) mine
    · exact mine
  · apply List.pairwise_map.mpr
    apply laterRest.imp_of_mem
    intro first second _ there absent wrong
    rcases mem_of_mem_reduceVector wrong with inRow | inFirst
    · exact laterFirst second there inRow
    · exact absent inFirst
  · intro reduced member edge inside
    obtain ⟨other, there, rfl⟩ := List.mem_map.mp member
    rcases mem_of_mem_reduceVector inside with inRow | inOther
    · exact offTree row List.mem_cons_self edge inRow
    · exact offTree other (List.mem_cons_of_mem _ there) edge inOther

end Turn

theorem rowOf_eq_innerProduct (cycle : List Edge) (vector : EdgeIncidence) :
    rowOf grid.pEdgesList vector (cycleVector cycle) =
      (incidenceInnerProduct (grid.getIncidenceVector cycle) vector : ZMod 2) := by
  rw [rowOf_cycleVector]
  unfold incidenceInnerProduct getIncidenceVector
  rw [ZMod.natCast_mod]

theorem rowOf_reduceVector {cycle : List Edge} {vector other : EdgeIncidence}
    (first : vector.length = grid.pEdgesList.length) (second : other.length = grid.pEdgesList.length)
    (odd : incidenceInnerProduct (grid.getIncidenceVector cycle) vector = 1) :
    rowOf grid.pEdgesList (reduceVector (grid.getIncidenceVector cycle) vector other) =
      reduceRow (cycleVector cycle) (rowOf grid.pEdgesList vector) (rowOf grid.pEdgesList other) := by
  unfold reduceVector reduceRow
  rw [rowOf_eq_innerProduct, rowOf_eq_innerProduct, odd, Nat.cast_one, div_one]
  rcases Nat.mod_two_eq_zero_or_one
    ((List.zipWith (· && ·) (grid.getIncidenceVector cycle) other).count true) with even | one
  · have product : incidenceInnerProduct (grid.getIncidenceVector cycle) other = 0 := even
    rw [product, if_neg Nat.zero_ne_one, Nat.cast_zero, zero_smul, sub_zero]
  · have product : incidenceInnerProduct (grid.getIncidenceVector cycle) other = 1 := one
    rw [product, if_pos rfl, Nat.cast_one, one_smul, rowOf_incidenceXOR _ _ _ first second, add_comm]
    ext value
    exact (CharTwo.sub_eq_add _ _).symm

theorem Simple.exists_cycle (simple : grid.Simple) {row : Edge × EdgeIncidence} {rows : List (Edge × EdgeIncidence)}
    (pending : grid.Pending (row :: rows)) :
    ∃ cycle, grid.cycleOf row.2 = some cycle ∧ grid.IsCycle cycle ∧
      incidenceInnerProduct (grid.getIncidenceVector cycle) row.2 = 1 := by
  have offTree := pending.offTree row List.mem_cons_self
  have sublist := grid.getEdgeVectorFromIncidence_sublist row.2
  obtain ⟨cycle, found⟩ : ∃ cycle, grid.cycleOf row.2 = some cycle :=
    simple.exists_cycleOf fun edge listed name isEnd => exists_odd_walk offTree listed (sublist.subset listed) isEnd
  have some := List.ne_nil_of_mem (pending.own row List.mem_cons_self)
  obtain ⟨⟨node, among, walk⟩, odd, _⟩ := simple.of_cycleOf found some
  have once := simple.nodup_of_cycleOf found some
  exact ⟨cycle, found, ⟨⟨node, among, walk⟩, once, walk.degree_even_of_closed⟩,
    (simple.incidenceInnerProduct_eq_one once).mpr odd⟩

theorem Simple.exists_cycles (simple : grid.Simple) {rows : List (Edge × EdgeIncidence)} (pending : grid.Pending rows) :
    ∃ found, grid.cycles rows.length (rows.map Prod.snd) = some found ∧ (∀ cycle ∈ found, grid.IsCycle cycle) ∧
      Eliminates (rows.map fun row => rowOf grid.pEdgesList row.2) (found.map cycleVector) := by
  induction number : rows.length generalizing rows with
  | zero =>
    rw [List.length_eq_zero_iff.mp number]
    exact ⟨[], rfl, fun cycle member => absurd member List.not_mem_nil, trivial⟩
  | succ turns ih =>
    obtain ⟨row, rows, rfl⟩ := List.exists_cons_of_length_eq_add_one number
    obtain ⟨cycle, foundCycle, isCycle, odd⟩ := simple.exists_cycle pending
    have reduced : grid.Pending
        (rows.map fun other => (other.1, reduceVector (grid.getIncidenceVector cycle) row.2 other.2)) := pending.reduce
    obtain ⟨found, foundRest, areCycles, eliminates⟩ :=
      ih reduced ((List.length_map _).trans (Nat.succ.inj number))
    rw [List.map_map] at foundRest
    refine ⟨cycle :: found, ?_, ?_, ?_, ?_⟩
    · rw [List.map_cons, cycles, foundCycle, Option.bind_eq_bind, Option.bind_some, List.map_map]
      have rest : grid.cycles turns (rows.map (reduceVector (grid.getIncidenceVector cycle) row.2 ∘ Prod.snd)) =
          some found := foundRest
      rw [rest]
      rfl
    · exact List.forall_mem_cons.mpr ⟨isCycle, areCycles⟩
    · rw [rowOf_eq_innerProduct, odd, Nat.cast_one]
      exact one_ne_zero
    · rw [List.map_map] at eliminates ⊢
      have same : rows.map (reduceRow (cycleVector cycle) (rowOf grid.pEdgesList row.2) ∘
            fun other => rowOf grid.pEdgesList other.2) =
          rows.map ((fun other : Edge × EdgeIncidence => rowOf grid.pEdgesList other.2) ∘
            fun other => (other.1, reduceVector (grid.getIncidenceVector cycle) row.2 other.2)) := by
        apply List.map_congr_left
        intro other member
        exact (rowOf_reduceVector (pending.lengths row List.mem_cons_self)
          (pending.lengths other (List.mem_cons_of_mem _ member)) odd).symm
      rw [same]
      exact eliminates

section CycleSpace
variable (grid)

def cycleSpace : Submodule (ZMod 2) (Edge → ZMod 2) where
  carrier := {value | (∀ edge, edge ∉ grid.pEdgesList → value edge = 0) ∧
    ∀ node, (grid.pEdgesList.map fun edge => endsAt Edge.origin Edge.destination node edge • value edge).sum = 0}
  zero_mem' := ⟨fun _ _ => rfl, fun node => List.sum_eq_zero fun term listed => by
    obtain ⟨edge, _, rfl⟩ := List.mem_map.mp listed
    exact smul_zero _⟩
  add_mem' := fun {first second} inFirst inSecond => by
    refine ⟨fun edge outside => ?_, fun node => ?_⟩
    · rw [Pi.add_apply, inFirst.1 edge outside, inSecond.1 edge outside, add_zero]
    · simp only [Pi.add_apply, smul_add, List.sum_map_add, inFirst.2 node, inSecond.2 node, add_zero]
  smul_mem' := fun scalar value inside => by
    refine ⟨fun edge outside => ?_, fun node => ?_⟩
    · rw [Pi.smul_apply, inside.1 edge outside, smul_zero]
    · have scaled : grid.pEdgesList.map (fun edge =>
            endsAt Edge.origin Edge.destination node edge • (scalar • value) edge) =
          (grid.pEdgesList.map fun edge => endsAt Edge.origin Edge.destination node edge • value edge).map
            (scalar • ·) := by
        rw [List.map_map]
        exact List.map_congr_left fun edge _ =>
          smul_comm (endsAt Edge.origin Edge.destination node edge) scalar (value edge)
      rw [scaled, ← List.smul_sum, inside.2 node, smul_zero]

variable {grid}

theorem sum_map_of_subset {few all : List Edge} (once : few.Nodup) (distinct : all.Nodup) (among : few ⊆ all)
    (term : Edge → ZMod 2) (null : ∀ edge ∈ all, edge ∉ few → term edge = 0) :
    (all.map term).sum = (few.map term).sum := by
  rw [← List.sum_toFinset term distinct, ← List.sum_toFinset term once]
  apply Eq.symm
  apply Finset.sum_subset
  · intro edge member
    exact List.mem_toFinset.mpr (among (List.mem_toFinset.mp member))
  · intro edge member outside
    exact null edge (List.mem_toFinset.mp member) fun wrong => outside (List.mem_toFinset.mpr wrong)

theorem Simple.cycleVector_mem (simple : grid.Simple) {cycle : List Edge} (isCycle : grid.IsCycle cycle) :
    cycleVector cycle ∈ grid.cycleSpace := by
  obtain ⟨node, among, _⟩ := isCycle.closed
  constructor
  · intro edge outside
    exact if_neg fun wrong => outside (among wrong)
  · intro node
    rw [sum_map_of_subset isCycle.once simple.distinct among]
    · have ends : cycle.map (fun edge => endsAt Edge.origin Edge.destination node edge • cycleVector cycle edge) =
          cycle.map fun edge => ((endsAt Edge.origin Edge.destination node edge : Nat) : ZMod 2) := by
        apply List.map_congr_left
        intro edge member
        unfold cycleVector
        rw [if_pos member, nsmul_one]
      have total : (cycle.map fun edge => ((endsAt Edge.origin Edge.destination node edge : Nat) : ZMod 2)).sum =
          (degree Edge.origin Edge.destination cycle node : ZMod 2) := by
        unfold degree
        rw [Nat.cast_list_sum, List.map_map]
        rfl
      obtain ⟨half, even⟩ := isCycle.even node
      rw [ends, total, even, Nat.cast_add, CharTwo.add_self_eq_zero]
    · intro edge _ outside
      unfold cycleVector
      rw [if_neg outside, smul_zero]

theorem Simple.eq_zero_of_tree (simple : grid.Simple) {value : Edge → ZMod 2} (inside : value ∈ grid.cycleSpace)
    (null : ∀ edge ∈ grid.linksToBeAdded, value edge = 0) : value = 0 := by
  obtain ⟨support, even⟩ := inside
  have offTree : ∀ edge ∈ grid.pEdgesList, edge ∉ grid.kruskal → value edge = 0 := fun edge member off =>
    null edge (List.mem_filter.mpr ⟨member, decide_eq_true off⟩)
  have onTree : ∀ edge ∈ grid.kruskal, value edge = 0 := by
    apply forest_null_of_even CharTwo.add_self_eq_zero grid.pNodesList.toFinset grid.sortedEdges
    · intro edge member
      rw [List.mem_toFinset, List.mem_toFinset]
      exact simple.ends edge (mem_sortedEdges.mp member)
    · intro node
      rw [← even node]
      apply Eq.symm
      apply sum_map_of_subset simple.nodup_kruskal simple.distinct kruskal_subset
      intro edge member off
      rw [offTree edge member off, smul_zero]
  funext edge
  by_cases member : edge ∈ grid.pEdgesList
  · by_cases tree : edge ∈ grid.kruskal
    · exact onTree edge tree
    · exact offTree edge member tree
  · exact support edge member

section Basis
variable {cycles : List (List Edge)} {rows : List ((Edge → ZMod 2) →ₗ[ZMod 2] ZMod 2)}
  (eliminates : Eliminates rows (cycles.map cycleVector))
include eliminates

theorem linearIndependent_cycles : LinearIndependent (ZMod 2) fun place : Fin cycles.length => cycleVector (cycles.get place) := by
  have independent := eliminates.linearIndependent.comp (Fin.cast (List.length_map cycleVector).symm)
    (Fin.cast_injective _)
  have same : ((fun place => (cycles.map cycleVector).get place) ∘ Fin.cast (List.length_map cycleVector).symm) =
      fun place => cycleVector (cycles.get place) := by
    funext place
    exact List.getElem_map cycleVector
  rw [same] at independent
  exact independent

theorem Simple.span_cycles (simple : grid.Simple) (areCycles : ∀ cycle ∈ cycles, grid.IsCycle cycle)
    (single : ∀ edge ∈ grid.linksToBeAdded, rowOf grid.pEdgesList (grid.getIncidenceVector [edge]) ∈ rows) :
    Submodule.span (ZMod 2) {vector | ∃ cycle ∈ cycles, vector = cycleVector cycle} = grid.cycleSpace := by
  have below : Submodule.span (ZMod 2) {vector | ∃ cycle ∈ cycles, vector = cycleVector cycle} ≤ grid.cycleSpace := by
    apply Submodule.span_le.mpr
    rintro _ ⟨cycle, member, rfl⟩
    exact simple.cycleVector_mem (areCycles cycle member)
  apply le_antisymm below
  intro value inside
  obtain ⟨combination, spanned, null⟩ := eliminates.exists_combination value
  have vectors : {vector | vector ∈ cycles.map cycleVector} ⊆ {vector | ∃ cycle ∈ cycles, vector = cycleVector cycle} := by
    intro vector listed
    obtain ⟨cycle, member, rfl⟩ := List.mem_map.mp listed
    exact ⟨cycle, member, rfl⟩
  have spanned := Submodule.span_mono vectors spanned
  -- the difference has none of the edges that the tree leaves
  have difference := simple.eq_zero_of_tree (Submodule.sub_mem _ inside (below spanned)) fun edge member => by
    have row := null _ (single edge member)
    have value' : rowOf grid.pEdgesList (grid.getIncidenceVector [edge]) (value - combination) =
        grid.pEdgesList.count edge • (value - combination) edge := rowOf_single _ edge _
    have once := List.count_eq_one_of_mem simple.distinct (List.mem_filter.mp member).1
    rw [value', once, one_smul] at row
    exact row
  rw [sub_eq_zero.mp difference]
  exact spanned

end Basis

end CycleSpace

theorem Simple.exists_mesh (simple : grid.Simple) (some : grid.pEdgesList ≠ []) :
    ∃ pMesh, grid.buildMesh =
        .ok ⟨pMesh, pMesh.map fun cycle => cycle.map fun edge => grid.pEdgesList.idxOf edge⟩ ∧
      (∀ cycle ∈ pMesh, grid.IsCycle cycle) ∧
      Eliminates (grid.linksToBeAdded.map fun edge => rowOf grid.pEdgesList (grid.getIncidenceVector [edge]))
        (pMesh.map cycleVector) := by
  obtain ⟨pMesh, found, areCycles, eliminates⟩ := simple.exists_cycles simple.pending_linksToBeAdded
  rw [List.length_map, List.map_map] at found
  rw [List.map_map] at eliminates
  have run : grid.cycles grid.linksToBeAdded.length
      (grid.linksToBeAdded.map fun edge => grid.getIncidenceVector [edge]) = Option.some pMesh := found
  refine ⟨pMesh, ?_, areCycles, eliminates⟩
  unfold buildMesh
  rw [if_neg (simple.kruskal_ne_nil some)]
  dsimp only
  rw [run]

theorem Simple.of_buildMesh (simple : grid.Simple) {mesh : Mesh} (built : grid.buildMesh = .ok mesh) :
    mesh.meshIndexMatrix = mesh.pMesh.map (fun cycle => cycle.map fun edge => grid.pEdgesList.idxOf edge) ∧
      ∀ cycle ∈ mesh.pMesh, grid.IsCycle cycle := by
  have some : grid.pEdgesList ≠ [] := by
    intro none
    have tree : grid.kruskal = [] := List.subset_nil.mp (none ▸ kruskal_subset)
    unfold buildMesh at built
    rw [if_pos tree] at built
    nomatch built
  obtain ⟨pMesh, run, areCycles, _⟩ := simple.exists_mesh some
  obtain rfl := Except.ok.inj (run.symm.trans built)
  exact ⟨rfl, areCycles⟩

/-- The mesh of a graph that has edges: its cycles are a basis of the cycle space. -/
theorem Simple.buildMesh_eq_ok (simple : grid.Simple) (some : grid.pEdgesList ≠ []) :
    ∃ mesh, grid.buildMesh = .ok mesh ∧
      mesh.pMesh.length + grid.pNodesList.length =
        grid.pEdgesList.length + Nat.card grid.graph.ConnectedComponent ∧
      (∀ cycle ∈ mesh.pMesh, grid.IsCycle cycle) ∧
      (LinearIndependent (ZMod 2) fun place : Fin mesh.pMesh.length => cycleVector (mesh.pMesh.get place)) ∧
      Submodule.span (ZMod 2) {vector | ∃ cycle ∈ mesh.pMesh, vector = cycleVector cycle} = grid.cycleSpace := by
  obtain ⟨pMesh, built, areCycles, eliminates⟩ := simple.exists_mesh some
  refine ⟨_, built, ?_, areCycles, linearIndependent_cycles eliminates, ?_⟩
  · have number := eliminates.length_eq
    rw [List.length_map, List.length_map] at number
    dsimp only
    rw [number]
    exact simple.length_linksToBeAdded
  · apply simple.span_cycles eliminates areCycles
    intro edge member
    exact List.mem_map.mpr ⟨edge, member, rfl⟩

def triangle : Grid :=
  (((((empty.addNode ['a']).addNode ['b']).addNode ['c']).addEdge ['a'] ['b'] 1).addEdge ['b'] ['c'] 2).addEdge ['c'] ['a'] 4

theorem triangle_simple : triangle.Simple where
  nodes := by decide
  ends := by decide
  loopless := by decide
  unique := by decide
  distinct := by decide
  positive := by decide

theorem buildMesh_eq_ok_triangle :
    triangle.Simple ∧ triangle.pEdgesList ≠ [] ∧
      ∃ mesh, triangle.buildMesh = .ok mesh ∧ mesh.pMesh.length + 3 = 3 + Nat.card triangle.graph.ConnectedComponent ∧
        ∀ cycle ∈ mesh.pMesh, triangle.IsCycle cycle := by
  have some : triangle.pEdgesList ≠ [] := by decide
  obtain ⟨mesh, built, number, areCycles, _⟩ := triangle_simple.buildMesh_eq_ok some
  exact ⟨triangle_simple, some, mesh, built, number, areCycles⟩

end Grid

end Antares.ConstraintsBuilder
