import Mathlib.Algebra.BigOperators.Group.List.Basic
import Antares.ConstraintsBuilder.Grid

/-! The graph with two copies of every node and every edge, where the copies of some edges cross from one sign
to the other.
-/

set_option autoImplicit false

namespace Antares.ConstraintsBuilder

open Library

/-- A graph without loops or parallel edges, and with positive weights. -/
structure Grid.Simple (grid : Grid) : Prop where
  nodes : grid.pNodesList.Nodup
  ends : ∀ edge ∈ grid.pEdgesList, edge.origin ∈ grid.pNodesList ∧ edge.destination ∈ grid.pNodesList
  loopless : ∀ edge ∈ grid.pEdgesList, edge.origin ≠ edge.destination
  unique : ∀ edge ∈ grid.pEdgesList, ∀ other ∈ grid.pEdgesList,
    edge.between other.origin other.destination = true → edge = other
  distinct : grid.pEdgesList.Nodup
  positive : ∀ edge ∈ grid.pEdgesList, 0 < edge.weight

def signChar : Bool → Char
  | false => '+'
  | true => '-'

def nodeCopy (name : Text) (sign : Bool) : Text := name ++ [signChar sign]

theorem nodeCopy_inj {name other : Text} {sign otherSign : Bool} :
    nodeCopy name sign = nodeCopy other otherSign ↔ name = other ∧ sign = otherSign := by
  unfold nodeCopy
  constructor
  · intro same
    obtain ⟨names, last⟩ := List.append_inj' same rfl
    refine ⟨names, ?_⟩
    have chars := List.singleton_inj.mp last
    revert chars
    cases sign <;> cases otherSign <;> simp [signChar]
  · rintro ⟨rfl, rfl⟩
    rfl

theorem dropLast_nodeCopy (name : Text) (sign : Bool) : (nodeCopy name sign).dropLast = name :=
  List.dropLast_concat

/-- The copy of an edge that starts with a sign, and ends with the other one when it crosses. -/
def copyOf (edge : Edge) (sign crosses : Bool) : Edge where
  origin := nodeCopy edge.origin sign
  destination := nodeCopy edge.destination (sign ^^ crosses)
  weight := edge.weight

section Copies
variable {edges : List Edge}

theorem copyOf_between (loopless : ∀ edge ∈ edges, edge.origin ≠ edge.destination)
    (unique : ∀ edge ∈ edges, ∀ other ∈ edges, edge.between other.origin other.destination = true → edge = other)
    {edge other : Edge} (member : edge ∈ edges) (otherMember : other ∈ edges) {sign crosses first second : Bool} :
    (copyOf other sign crosses).between (nodeCopy edge.origin first) (nodeCopy edge.destination second) = true ↔
      other = edge ∧ sign = first ∧ (sign ^^ crosses) = second := by
  rw [Edge.between_iff]
  unfold copyOf
  dsimp only
  simp only [nodeCopy_inj]
  constructor
  · rintro (⟨⟨origins, signs⟩, destinations, crossed⟩ | ⟨⟨origins, _⟩, destinations, _⟩)
    · exact ⟨unique other otherMember edge member (Edge.between_iff.mpr (.inl ⟨origins, destinations⟩)), signs, crossed⟩
    · -- the edge itself would be a loop
      have same := unique other otherMember edge member (Edge.between_iff.mpr (.inr ⟨origins, destinations⟩))
      subst same
      exact absurd origins (Ne.symm (loopless other member))
  · rintro ⟨rfl, rfl, rfl⟩
    exact .inl ⟨⟨rfl, rfl⟩, rfl, rfl⟩

end Copies

/-- A grid that consists of the copies of some nodes, and of some copies of edges. -/
structure Polarised (nodes : List Text) (copies : List (Edge × Bool)) (crossed : Edge × Bool → Bool)
    (grid : Grid) : Prop where
  nodes : ∀ node, node ∈ grid.pNodesList ↔ ∃ name ∈ nodes, ∃ sign, node = nodeCopy name sign
  nodesDistinct : grid.pNodesList.Nodup
  edges : ∀ edge, edge ∈ grid.pEdgesList ↔ ∃ copy ∈ copies, edge = copyOf copy.1 copy.2 (crossed copy)
  linked : grid.Linked
  far : 2 * (copies.map fun copy => copy.1.weight).sum ≤ grid.inf

namespace Polarised

section Nodes
variable {crossed : Edge × Bool → Bool}

theorem addNodes (nodes : List Text) :
    Polarised nodes [] crossed
      (nodes.foldl (fun copy node => (copy.addNode (node ++ ['+'])).addNode (node ++ ['-'])) Grid.empty) := by
  induction nodes using List.reverseRecOn with
  | nil =>
    exact ⟨fun node => by simp [Grid.empty], List.nodup_nil, fun edge => by simp [Grid.empty], Grid.linked_empty,
      Nat.le_refl 0⟩
  | append_singleton nodes name ih =>
    rw [List.foldl_append, List.foldl_cons, List.foldl_nil]
    constructor
    · intro node
      rw [Grid.mem_addNode, Grid.mem_addNode, ih.nodes]
      simp only [List.mem_append, List.mem_singleton, Bool.exists_bool]
      constructor
      · rintro ((⟨other, listed, same⟩ | same) | same)
        · exact ⟨other, .inl listed, same⟩
        · exact ⟨name, .inr rfl, .inl same⟩
        · exact ⟨name, .inr rfl, .inr same⟩
      · rintro ⟨other, listed | rfl, same⟩
        · exact .inl (.inl ⟨other, listed, same⟩)
        · rcases same with same | same
          · exact .inl (.inr same)
          · exact .inr same
    · exact Grid.nodup_addNode (Grid.nodup_addNode ih.nodesDistinct _) _
    · intro edge
      rw [Grid.pEdgesList_addNode, Grid.pEdgesList_addNode]
      exact ih.edges edge
    · exact Grid.linked_addNode (Grid.linked_addNode ih.linked _) _
    · rw [Grid.inf_addNode, Grid.inf_addNode]
      exact ih.far

end Nodes

section Edges
variable {nodes : List Text} {base : List Edge} {copies : List (Edge × Bool)} {crossed : Edge × Bool → Bool} {grid : Grid}
variable (ends : ∀ edge ∈ base, edge.origin ∈ nodes ∧ edge.destination ∈ nodes)
  (loopless : ∀ edge ∈ base, edge.origin ≠ edge.destination)
  (unique : ∀ edge ∈ base, ∀ other ∈ base, edge.between other.origin other.destination = true → edge = other)

theorem find_node (polarised : Polarised nodes copies crossed grid) {name : Text} (member : name ∈ nodes) (sign : Bool) :
    grid.findNodeFromName (nodeCopy name sign) = some (nodeCopy name sign) :=
  Grid.findNodeFromName_eq ((polarised.nodes _).mpr ⟨name, member, sign, rfl⟩)

include ends loopless unique

theorem addCopy (polarised : Polarised nodes copies crossed grid) (among : ∀ copy ∈ copies, copy.1 ∈ base)
    {edge : Edge} (sign : Bool) (member : edge ∈ base) (fresh : (edge, sign) ∉ copies)
    (straight : ∀ copy, crossed copy = false) :
    ∃ next, grid.addCopy (signChar sign) edge = some next ∧
      Polarised nodes (copies ++ [(edge, sign)]) crossed next := by
  have different : nodeCopy edge.origin sign ≠ nodeCopy edge.destination sign :=
    fun same => loopless edge member (nodeCopy_inj.mp same).1
  have absent : grid.findEdgeFromNodeNames (nodeCopy edge.origin sign) (nodeCopy edge.destination sign) = none := by
    rw [Grid.findEdgeFromNodeNames_eq_none]
    intro other listed between
    obtain ⟨copy, there, rfl⟩ := (polarised.edges other).mp listed
    obtain ⟨same, signs, _⟩ := (copyOf_between loopless unique member (among copy there)).mp between
    have equal : copy = (edge, sign) := Prod.ext same signs
    exact fresh (equal ▸ there)
  refine ⟨grid.addEdge (nodeCopy edge.origin sign) (nodeCopy edge.destination sign) edge.weight, ?_, ?_⟩
  · unfold Grid.addCopy
    have first := polarised.find_node (ends edge member).1 sign
    have second := polarised.find_node (ends edge member).2 sign
    unfold nodeCopy at first second
    rw [first, second]
    rfl
  · have linked : (grid.addEdge (nodeCopy edge.origin sign) (nodeCopy edge.destination sign) edge.weight).Linked :=
      polarised.linked.addEdge absent different
    rw [Grid.addEdge_eq absent different] at linked ⊢
    constructor
    · exact polarised.nodes
    · exact polarised.nodesDistinct
    · intro other
      dsimp only
      rw [List.mem_append, polarised.edges, List.mem_singleton]
      have new : (⟨nodeCopy edge.origin sign, nodeCopy edge.destination sign, edge.weight⟩ : Edge) =
          copyOf edge sign (crossed (edge, sign)) := by
        unfold copyOf
        rw [straight, Bool.xor_false]
      rw [new]
      constructor
      · rintro (⟨copy, there, rfl⟩ | rfl)
        · exact ⟨copy, List.mem_append_left _ there, rfl⟩
        · exact ⟨(edge, sign), List.mem_append_right _ List.mem_cons_self, rfl⟩
      · rintro ⟨copy, there, rfl⟩
        rcases List.mem_append.mp there with before | last
        · exact .inl ⟨copy, before, rfl⟩
        · rw [List.mem_singleton.mp last]
          exact .inr rfl
    · exact linked
    · have far := polarised.far
      dsimp only
      rw [List.map_append, List.sum_append, List.map_singleton, List.sum_singleton]
      dsimp only
      omega

theorem crossCopy (polarised : Polarised nodes copies crossed grid) (among : ∀ copy ∈ copies, copy.1 ∈ base)
    {edge : Edge} {sign : Bool} (there : (edge, sign) ∈ copies) (straight : crossed (edge, sign) = false) :
    ∃ next, grid.crossCopy (signChar sign) (signChar (!sign)) edge = some next ∧
      Polarised nodes copies (Function.update crossed (edge, sign) true) next := by
  have member := among _ there
  have different : nodeCopy edge.origin sign ≠ nodeCopy edge.destination (!sign) :=
    fun same => loopless edge member (nodeCopy_inj.mp same).1
  have old : copyOf edge sign false ∈ grid.pEdgesList := (polarised.edges _).mpr ⟨_, there, by rw [straight]⟩
  -- the straight copy is there, and no copy of another edge or sign stands in the way of the crossed one
  have found : grid.findEdgeFromNodeNames (nodeCopy edge.origin sign) (nodeCopy edge.destination sign) =
      some (copyOf edge sign false) :=
    polarised.linked.findEdgeFromNodeNames_eq old
      ((copyOf_between loopless unique member member).mpr ⟨rfl, rfl, Bool.xor_false sign⟩)
  have absent : grid.findEdgeFromNodeNames (nodeCopy edge.origin sign) (nodeCopy edge.destination (!sign)) = none := by
    rw [Grid.findEdgeFromNodeNames_eq_none]
    intro other listed between
    obtain ⟨copy, present, rfl⟩ := (polarised.edges other).mp listed
    obtain ⟨same, signs, crosses⟩ := (copyOf_between loopless unique member (among copy present)).mp between
    have equal : copy = (edge, sign) := Prod.ext same signs
    rw [equal, straight, Bool.xor_false] at crosses
    exact Bool.not_ne_self sign crosses.symm
  have linked : (grid.addEdge (nodeCopy edge.origin sign) (nodeCopy edge.destination (!sign)) edge.weight).Linked :=
    polarised.linked.addEdge absent different
  have new : (⟨nodeCopy edge.origin sign, nodeCopy edge.destination (!sign), edge.weight⟩ : Edge) =
      copyOf edge sign true := by
    unfold copyOf
    rw [Bool.xor_true]
  have present : copyOf edge sign false ∈
      (grid.addEdge (nodeCopy edge.origin sign) (nodeCopy edge.destination (!sign)) edge.weight).pEdgesList := by
    rw [Grid.addEdge_eq absent different]
    exact List.mem_append_left _ old
  have still := linked.removeEdge present
  refine ⟨(grid.addEdge (nodeCopy edge.origin sign) (nodeCopy edge.destination (!sign)) edge.weight).removeEdge
    (copyOf edge sign false), ?_, ?_⟩
  · unfold Grid.crossCopy
    have first := polarised.find_node (ends edge member).1 sign
    have second := polarised.find_node (ends edge member).2 (!sign)
    unfold nodeCopy at first second found
    rw [found, first, second]
    rfl
  · have apart : copyOf edge sign true ≠ copyOf edge sign false := by
      unfold copyOf
      intro same
      have ends := congrArg Edge.destination same
      dsimp only at ends
      have signs := (nodeCopy_inj.mp ends).2
      rw [Bool.xor_true, Bool.xor_false] at signs
      exact Bool.not_ne_self sign signs
    have weights : (copyOf edge sign false).weight = edge.weight := rfl
    have loop : (copyOf edge sign false).origin ≠ (copyOf edge sign false).destination :=
      fun same => loopless edge member (nodeCopy_inj.mp same).1
    rw [Grid.removeEdge_eq present loop] at still ⊢
    rw [Grid.addEdge_eq absent different] at still ⊢
    constructor
    · exact polarised.nodes
    · exact polarised.nodesDistinct
    · intro other
      have distinct := linked.distinct
      rw [Grid.addEdge_eq absent different, new] at distinct
      dsimp only
      rw [new, distinct.mem_erase_iff, List.mem_append, List.mem_singleton, polarised.edges]
      -- the edge taken out is the one copy whose mark turns over
      constructor
      · rintro ⟨other', ⟨copy, listed, rfl⟩ | rfl⟩
        · refine ⟨copy, listed, ?_⟩
          rw [Function.update_of_ne]
          rintro rfl
          rw [straight] at other'
          exact other' rfl
        · refine ⟨_, there, ?_⟩
          rw [Function.update_self]
      · rintro ⟨copy, listed, rfl⟩
        by_cases same : copy = (edge, sign)
        · subst same
          rw [Function.update_self]
          exact ⟨apart, .inr rfl⟩
        · rw [Function.update_of_ne same]
          refine ⟨?_, .inl ⟨copy, listed, rfl⟩⟩
          intro equal
          have between : (copyOf copy.1 copy.2 (crossed copy)).between (nodeCopy edge.origin sign)
              (nodeCopy edge.destination sign) = true := by
            rw [equal]
            exact (copyOf_between loopless unique member member).mpr ⟨rfl, rfl, Bool.xor_false sign⟩
          obtain ⟨edges, signs, _⟩ := (copyOf_between loopless unique member (among copy listed)).mp between
          exact same (Prod.ext edges signs)
    · exact still
    · have far := polarised.far
      dsimp only
      omega

end Edges

end Polarised

def bothCopies (edges : List Edge) : List (Edge × Bool) := edges.flatMap fun edge => [(edge, false), (edge, true)]

theorem mem_bothCopies {edges : List Edge} {copy : Edge × Bool} : copy ∈ bothCopies edges ↔ copy.1 ∈ edges := by
  unfold bothCopies
  rw [List.mem_flatMap]
  constructor
  · rintro ⟨edge, listed, member⟩
    rcases List.mem_cons.mp member with rfl | last
    · exact listed
    · rw [List.mem_singleton.mp last]
      exact listed
  · intro listed
    refine ⟨copy.1, listed, ?_⟩
    obtain ⟨edge, sign⟩ := copy
    cases sign with
    | false => exact List.mem_cons_self
    | true => exact List.mem_cons_of_mem _ List.mem_cons_self

theorem sum_bothCopies (edges : List Edge) :
    ((bothCopies edges).map fun copy => copy.1.weight).sum = 2 * (edges.map Edge.weight).sum := by
  induction edges with
  | nil => rfl
  | cons edge edges ih =>
    have turn : bothCopies (edge :: edges) = (edge, false) :: (edge, true) :: bothCopies edges := rfl
    rw [turn, List.map_cons, List.map_cons, List.sum_cons, List.sum_cons, ih, List.map_cons, List.sum_cons]
    dsimp only
    omega

namespace Grid

variable {grid : Grid} (simple : grid.Simple)
include simple

theorem Simple.addCopies {before : Grid} (start : Polarised grid.pNodesList [] (fun _ => false) before) (edges : List Edge)
    (listed : edges ⊆ grid.pEdgesList) (distinct : edges.Nodup) :
    ∃ copy, edges.foldlM (fun copy edge => (copy.addCopy '+' edge).bind fun copy => copy.addCopy '-' edge) before =
        some copy ∧ Polarised grid.pNodesList (bothCopies edges) (fun _ => false) copy := by
  induction edges using List.reverseRecOn with
  | nil => exact ⟨before, rfl, start⟩
  | append_singleton edges edge ih =>
    have inside := (List.append_subset.mp listed).1
    obtain ⟨distinctBefore, _, apart⟩ := List.nodup_append.mp distinct
    obtain ⟨copy, found, polarised⟩ := ih inside distinctBefore
    have member : edge ∈ grid.pEdgesList := listed (List.mem_append_right _ List.mem_cons_self)
    have fresh : edge ∉ edges := fun again => apart edge again edge List.mem_cons_self rfl
    have among : ∀ copy ∈ bothCopies edges, copy.1 ∈ grid.pEdgesList := fun _ there => inside (mem_bothCopies.mp there)
    obtain ⟨first, foundFirst, polarisedFirst⟩ := polarised.addCopy simple.ends simple.loopless simple.unique among
      false member (fun there => fresh (mem_bothCopies.mp there)) fun _ => rfl
    have amongFirst : ∀ copy ∈ bothCopies edges ++ [(edge, false)], copy.1 ∈ grid.pEdgesList := by
      intro copy there
      rcases List.mem_append.mp there with before | last
      · exact among copy before
      · rw [List.mem_singleton.mp last]
        exact member
    obtain ⟨second, foundSecond, polarisedSecond⟩ := polarisedFirst.addCopy simple.ends simple.loopless simple.unique
      amongFirst true member (fun there => by
        rcases List.mem_append.mp there with before | last
        · exact fresh (mem_bothCopies.mp before)
        · exact Bool.false_ne_true (Prod.mk.inj (List.mem_singleton.mp last)).2.symm) fun _ => rfl
    refine ⟨second, ?_, ?_⟩
    · rw [List.foldlM_append, found]
      have turn : (copy.addCopy '+' edge).bind (fun copy => copy.addCopy '-' edge) = some second := by
        have plus : copy.addCopy '+' edge = some first := foundFirst
        rw [plus]
        exact foundSecond
      rw [Option.bind_eq_bind, Option.bind_some, List.foldlM_cons, turn]
      rfl
    · have copies : bothCopies (edges ++ [edge]) = bothCopies edges ++ [(edge, false)] ++ [(edge, true)] := by
        unfold bothCopies
        rw [List.flatMap_append, List.append_assoc]
        rfl
      rw [copies]
      exact polarisedSecond

theorem Simple.getDuplicatedGrid : ∃ copy, grid.getDuplicatedGrid = some copy ∧
    Polarised grid.pNodesList (bothCopies grid.pEdgesList) (fun _ => false) copy :=
  simple.addCopies (Polarised.addNodes grid.pNodesList) grid.pEdgesList (List.Subset.refl _) simple.distinct

theorem Simple.crossEdges {before : Grid}
    (start : Polarised grid.pNodesList (bothCopies grid.pEdgesList) (fun _ => false) before) (edges : List Edge)
    (listed : edges ⊆ grid.pEdgesList) (distinct : edges.Nodup) :
    ∃ copy, before.crossEdges edges = some copy ∧
      Polarised grid.pNodesList (bothCopies grid.pEdgesList) (fun copy => copy.1 ∈ edges) copy := by
  have among : ∀ copy ∈ bothCopies grid.pEdgesList, copy.1 ∈ grid.pEdgesList := fun _ there => mem_bothCopies.mp there
  unfold Grid.crossEdges
  -- from the last edge, because the marks of the earlier ones stay as they are
  induction edges using List.reverseRecOn with
  | nil =>
    refine ⟨before, rfl, ?_⟩
    have none : (fun copy : Edge × Bool => decide (copy.1 ∈ ([] : List Edge))) = fun _ => false := by
      funext copy
      exact decide_eq_false List.not_mem_nil
    rw [none]
    exact start
  | append_singleton edges edge ih =>
    obtain ⟨distinctBefore, _, apart⟩ := List.nodup_append.mp distinct
    obtain ⟨copy, found, polarised⟩ := ih (List.append_subset.mp listed).1 distinctBefore
    have member : edge ∈ grid.pEdgesList := listed (List.mem_append_right _ List.mem_cons_self)
    have fresh : edge ∉ edges := fun again => apart edge again edge List.mem_cons_self rfl
    have there (sign : Bool) : (edge, sign) ∈ bothCopies grid.pEdgesList := mem_bothCopies.mpr member
    obtain ⟨first, foundFirst, polarisedFirst⟩ := polarised.crossCopy simple.ends simple.loopless simple.unique among
      (there false) (decide_eq_false fresh)
    have second : Function.update (fun copy : Edge × Bool => decide (copy.1 ∈ edges)) (edge, false) true (edge, true) =
        false := by
      rw [Function.update_of_ne fun same => Bool.false_ne_true (Prod.mk.inj same).2.symm]
      exact decide_eq_false fresh
    obtain ⟨next, foundNext, polarisedNext⟩ := polarisedFirst.crossCopy simple.ends simple.loopless simple.unique among
      (there true) second
    refine ⟨next, ?_, ?_⟩
    · rw [List.foldlM_append, found]
      have turn : (copy.crossCopy '+' '-' edge).bind (fun copy => copy.crossCopy '-' '+' edge) = some next := by
        have plus : copy.crossCopy '+' '-' edge = some first := foundFirst
        rw [plus]
        exact foundNext
      rw [Option.bind_eq_bind, Option.bind_some, List.foldlM_cons, turn]
      rfl
    · have crossed : Function.update (Function.update (fun copy : Edge × Bool => decide (copy.1 ∈ edges))
          (edge, false) true) (edge, true) true = fun copy => decide (copy.1 ∈ edges ++ [edge]) := by
        funext ⟨other, sign⟩
        by_cases same : other = edge
        · subst same
          rw [decide_eq_true (List.mem_append_right _ List.mem_cons_self)]
          cases sign with
          | true => exact Function.update_self _ _ _
          | false =>
            rw [Function.update_of_ne fun same => Bool.false_ne_true (Prod.mk.inj same).2]
            exact Function.update_self _ _ _
        · rw [Function.update_of_ne fun equal => same (Prod.mk.inj equal).1,
            Function.update_of_ne fun equal => same (Prod.mk.inj equal).1]
          simp [same]
      rw [← crossed]
      exact polarisedNext

end Grid

end Antares.ConstraintsBuilder
