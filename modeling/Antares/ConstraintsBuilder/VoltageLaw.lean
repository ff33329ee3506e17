import Antares.ConstraintsBuilder.Cycles
import Antares.ConstraintsBuilder.GridOfLines
import Antares.ConstraintsBuilder.PhaseShiftBounds
import Antares.Library.Walks
import Mathlib.Tactic.LinearCombination

/-! The signs of the lines of a cycle are those of the ways the lines are taken around it. The constraint of
each cycle of a mesh says that the voltages add up to null around the cycle.
-/

set_option autoImplicit false

namespace Antares.ConstraintsBuilder

open Library Library.Walks

def AreaLink.orientation (link : AreaLink) (area : Text) : Rat := if link.from' = area then 1 else -1

theorem orientation_mul_self (link : AreaLink) (area : Text) : link.orientation area * link.orientation area = 1 := by
  unfold AreaLink.orientation
  split_ifs
  · exact mul_one 1
  · rw [neg_mul_neg, mul_one]

section
variable {link : AreaLink} {u v : Text} (loopless : link.from' ≠ link.with')
include loopless

theorem orientation_eq (joins : Joins AreaLink.from' AreaLink.with' link u v) :
    (link.from' = u ∧ link.with' = v ∧ link.orientation u = 1) ∨
      (link.from' = v ∧ link.with' = u ∧ link.orientation u = -1) := by
  unfold AreaLink.orientation
  rcases joins with ⟨first, second⟩ | ⟨first, second⟩
  · exact .inl ⟨first, second, if_pos first⟩
  · exact .inr ⟨first, second, if_neg fun same => loopless (same.trans second.symm)⟩

theorem orientation_mul (potential : Text → Rat) (joins : Joins AreaLink.from' AreaLink.with' link u v) :
    link.orientation u * (potential link.from' - potential link.with') = potential u - potential v := by
  rcases orientation_eq loopless joins with ⟨rfl, rfl, sign⟩ | ⟨rfl, rfl, sign⟩
  · rw [sign, one_mul]
  · rw [sign, neg_one_mul, neg_sub]

theorem nextSign_eq {current : AreaLink} {w : Text} (others : current.from' ≠ current.with')
    (joins : Joins AreaLink.from' AreaLink.with' link u v) (next : Joins AreaLink.from' AreaLink.with' current v w)
    (sign : Rat) : nextSign link current sign = sign * (link.orientation u * current.orientation v) := by
  unfold nextSign
  rcases orientation_eq loopless joins with ⟨from', with', first⟩ | ⟨from', with', first⟩
  · rcases orientation_eq others next with ⟨currentFrom, _, second⟩ | ⟨currentFrom, currentWith, second⟩
    · rw [if_pos (.inl (with'.trans currentFrom.symm)), first, second, one_mul, mul_one]
    · rw [if_neg, if_pos (.inr (with'.trans currentWith.symm)), first, second, one_mul]
      rintro (same | same)
      · exact others (same.symm.trans (with'.trans currentWith.symm))
      · exact loopless (same.trans (currentWith.trans with'.symm))
  · rcases orientation_eq others next with ⟨currentFrom, currentWith, second⟩ | ⟨_, currentWith, second⟩
    · rw [if_neg, if_pos (.inl (from'.trans currentFrom.symm)), first, second, mul_one]
      rintro (same | same)
      · exact loopless (from'.trans (currentFrom.symm.trans same.symm))
      · exact others (currentFrom.trans (from'.symm.trans same))
    · rw [if_pos (.inr (from'.trans currentWith.symm)), first, second, neg_mul_neg, mul_one, mul_one]

end

def potentialDrop (potential : Text → Rat) (line : AreaLink × Rat) : Rat :=
  line.2 * (potential line.1.from' - potential line.1.with')

variable (potential : Text → Rat)

theorem sum_signsAfter {previous : AreaLink} {links : List AreaLink} {u v w : Text} (direction : Rat)
    (loopless : previous.from' ≠ previous.with') (others : ∀ link ∈ links, link.from' ≠ link.with')
    (joins : Joins AreaLink.from' AreaLink.with' previous u v) (walk : IsWalk AreaLink.from' AreaLink.with' v links w) :
    ((links.zip (signsAfter previous (direction * previous.orientation u) links)).map (potentialDrop potential)).sum =
      direction * (potential v - potential w) := by
  induction links generalizing previous u v with
  | nil =>
    have same : v = w := walk
    rw [same, sub_self, mul_zero]
    rfl
  | cons current links ih =>
    obtain ⟨x, step, rest⟩ := walk
    have own := others current List.mem_cons_self
    have sign : nextSign previous current (direction * previous.orientation u) = direction * current.orientation v := by
      rw [nextSign_eq loopless own joins step, mul_assoc, ← mul_assoc (previous.orientation u), orientation_mul_self,
        one_mul]
    have drop := orientation_mul own potential step
    have later := ih own (fun link member => others link (List.mem_cons_of_mem _ member)) step rest
    rw [signsAfter, sign]
    rw [List.zip_cons_cons, List.map_cons, List.sum_cons, later, potentialDrop, mul_assoc, drop, ← mul_add,
      sub_add_sub_cancel]

theorem sum_signs {links : List AreaLink} {u : Text} (loopless : ∀ link ∈ links, link.from' ≠ link.with')
    (walk : IsWalk AreaLink.from' AreaLink.with' u links u) :
    ((links.zip (signs links)).map (potentialDrop potential)).sum = 0 := by
  cases links with
  | nil => rfl
  | cons first links =>
    obtain ⟨v, step, rest⟩ := walk
    have own := loopless first List.mem_cons_self
    have later := sum_signsAfter potential (first.orientation u) own
      (fun link member => loopless link (List.mem_cons_of_mem _ member)) step rest
    have drop := orientation_mul own potential step
    rw [orientation_mul_self] at later
    rw [signs, List.zip_cons_cons, List.map_cons, List.sum_cons, later, potentialDrop, one_mul]
    have direction := orientation_mul_self first u
    linear_combination first.orientation u * drop - (potential first.from' - potential first.with') * direction

section Loops
variable {loop : List LinkInfo} {u : Text} (loopless : ∀ info ∈ loop, info.ptr.from' ≠ info.ptr.with')
  (walk : IsWalk AreaLink.from' AreaLink.with' u (loop.map LinkInfo.ptr) u)

variable (lines : List (LinkInfo × Rat))

/-- The sum of the signs of the lines that leave an area as their origin, less those that arrive. -/
def balanceAt (area : Text) : Rat :=
  (lines.map fun line =>
    line.2 * ((if line.1.ptr.from' = area then 1 else 0) - if line.1.ptr.with' = area then 1 else 0)).sum

def voltageSum (hour : Nat) (flow : AreaLink → Rat) : Rat :=
  (lines.map fun line => line.2 * line.1.ptr.impedances hour * flow line.1.ptr).sum

/-- The flow through the impedance of a line is the difference of the potentials of its areas. -/
def Follows (potential : Text → Rat) (hour : Nat) (flow : AreaLink → Rat) (link : AreaLink) : Prop :=
  link.impedances hour * flow link = potential link.from' - potential link.with'

include loopless walk in
theorem sum_signedLines : ((CBuilder.signedLines loop).map fun line => potentialDrop potential (line.1.ptr, line.2)).sum = 0 := by
  have links : ∀ link ∈ loop.map LinkInfo.ptr, link.from' ≠ link.with' := by
    intro link member
    obtain ⟨info, listed, rfl⟩ := List.mem_map.mp member
    exact loopless info listed
  have total := sum_signs potential links walk
  rw [List.zip_map_left, List.map_map] at total
  exact total

include loopless walk in
theorem balanceAt_signedLines (area : Text) : balanceAt (CBuilder.signedLines loop) area = 0 :=
  sum_signedLines (fun other => if other = area then 1 else 0) loopless walk

include loopless walk in
theorem voltageSum_signedLines {hour : Nat} {flow : AreaLink → Rat}
    (follows : ∀ info ∈ loop, Follows potential hour flow info.ptr) :
    voltageSum (CBuilder.signedLines loop) hour flow = 0 := by
  rw [← sum_signedLines potential loopless walk]
  unfold voltageSum
  congr 1
  apply List.map_congr_left
  intro line member
  have among : line.1 ∈ loop := by
    rw [← CBuilder.map_fst_signedLines loop]
    exact List.mem_map.mpr ⟨line, member, rfl⟩
  rw [mul_assoc, follows line.1 among]
  rfl

end Loops

end Antares.ConstraintsBuilder

namespace Antares.ConstraintsBuilder

open Library Data Library.Walks

namespace CBuilder

variable {builder : CBuilder} (simple : SimpleLines builder.enabledACLines) {mesh : Grid.Mesh}
  (built : (gridOf builder.enabledACLines).buildMesh = .ok mesh) {loop : List LinkInfo}
  (listed : loop ∈ builder.pMesh mesh.meshIndexMatrix)
include simple

include listed in
theorem loopless_of_mem_pMesh {info : LinkInfo} (member : info ∈ loop) : info.ptr.from' ≠ info.ptr.with' := by
  obtain ⟨places, _, rfl⟩ := List.mem_map.mp listed
  obtain ⟨place, _, found⟩ := List.mem_filterMap.mp member
  exact simple.loopless info (List.mem_of_getElem? found)

include built listed in
theorem exists_closed_walk : ∃ area, IsWalk AreaLink.from' AreaLink.with' area (loop.map LinkInfo.ptr) area := by
  obtain ⟨area, _, walk⟩ := (isCycle_of_mem_pMesh simple built listed).closed
  rw [isWalk_map] at walk
  exact ⟨area, isWalk_map LinkInfo.ptr |>.mpr walk⟩

include built listed in
/-- No two lines of a cycle have the same ends. -/
theorem distinct_ends : (loop.map fun info => info.ptr.ends).Nodup := by
  have isCycle := isCycle_of_mem_pMesh simple built listed
  obtain ⟨_, among, _⟩ := isCycle.closed
  have once : loop.Pairwise fun info other => info.edge ≠ other.edge := List.pairwise_map.mp isCycle.once
  apply List.pairwise_map.mpr
  apply once.imp_of_mem
  intro info other member otherMember different same
  obtain ⟨origins, destinations⟩ := Prod.mk.inj same
  have edge := among (List.mem_map.mpr ⟨info, member, rfl⟩)
  have otherEdge := among (List.mem_map.mpr ⟨other, otherMember, rfl⟩)
  exact different ((simple_gridOf simple).unique _ edge _ otherEdge (Edge.between_iff.mpr (.inl ⟨origins, destinations⟩)))

omit simple

theorem hasWeights_constraintsOf {memory : Nat → Nat → Rat} {opType : Operator} {hours : List Nat} {cycle : Cycle}
    (states : cycle.states = builder.statesOf memory loop opType hours
      [State.make memory builder.infiniteSecondMember (impedancesAt loop 0)])
    (first : 0 ∈ hours) (distinct : (loop.map fun info => info.ptr.ends).Nodup) (nCount : Nat) :
    (∀ constraint ∈ builder.constraintsOf nCount cycle, ∃ hour ∈ hours, HasWeights loop hour constraint) ∧
      ∀ hour ∈ hours, ∃ constraint ∈ builder.constraintsOf nCount cycle, HasWeights loop hour constraint := by
  constructor
  · intro constraint member
    obtain ⟨state, there, name, operatorType, rhs, rfl⟩ := builder.exists_of_mem_constraintsOf member
    rw [states] at there
    obtain ⟨hour, inside, own⟩ := builder.exists_hour_of_mem_statesOf memory loop opType first there
    have weights := builder.weightMap_of_mem_statesOf memory loop opType there inside own
    exact ⟨hour, inside, builder.hasWeights_of_state loop opType distinct weights _ _ _⟩
  · intro hour inside
    have collects := builder.collects_states memory loop opType hours
    obtain ⟨state, there, own⟩ := List.mem_map.mp (collects.found hour inside)
    have weights := builder.weightMap_of_mem_statesOf memory loop opType there inside own.symm
    rw [← states] at there
    obtain ⟨constraint, member, name, operatorType, rhs, rfl⟩ := builder.exists_constraint_of_state nCount there
    exact ⟨_, member, builder.hasWeights_of_state loop opType distinct weights _ _ _⟩

theorem states_completeCycle (builder : CBuilder) (memory : Nat → Nat → Rat) (loop : List LinkInfo) :
    (builder.completeCycle memory loop).states =
      builder.statesOf memory loop (operatorOf loop) (List.range hoursPerYear)
        [State.make memory builder.infiniteSecondMember (impedancesAt loop 0)] := by
  rw [completeCycle_eq]

/-- Around a cycle of the mesh, the signs balance at every area and the voltages add up to null; its constraints
have these signed impedances for their weights.
-/
theorem createConstraints_voltageLaw (simple : SimpleLines builder.enabledACLines) {mesh : Grid.Mesh}
    (built : (gridOf builder.enabledACLines).buildMesh = .ok mesh) {turn : Nat} {loop : List LinkInfo}
    (listed : (builder.pMesh mesh.meshIndexMatrix)[turn]? = some loop) :
    (∀ area, balanceAt (signedLines loop) area = 0) ∧
      (∀ potential hour flow, (∀ info ∈ loop, Follows potential hour flow info.ptr) →
        voltageSum (signedLines loop) hour flow = 0) ∧
      ∀ memory names result, builder.createConstraints memory names (builder.pMesh mesh.meshIndexMatrix) = some result →
        ∃ constraints, result[turn]? = some constraints ∧
          (∀ constraint ∈ constraints, ∃ hour ∈ List.range hoursPerYear, HasWeights loop hour constraint) ∧
          ∀ hour ∈ List.range hoursPerYear, ∃ constraint ∈ constraints, HasWeights loop hour constraint := by
  have member := List.mem_of_getElem? listed
  have loopless : ∀ info ∈ loop, info.ptr.from' ≠ info.ptr.with' := fun info => loopless_of_mem_pMesh simple member
  obtain ⟨area, walk⟩ := exists_closed_walk simple built member
  refine ⟨balanceAt_signedLines loopless walk, fun potential hour flow follows => ?_, fun memory names result created => ?_⟩
  · exact voltageSum_signedLines potential loopless walk follows
  · obtain ⟨_, nCount, found⟩ := builder.getElem?_of_createConstraints memory created listed
    have first : 0 ∈ List.range hoursPerYear := List.mem_range.mpr (by decide)
    exact ⟨_, found, hasWeights_constraintsOf (states_completeCycle builder memory loop) first
      (distinct_ends simple built member) nCount⟩

end CBuilder

variable (impedance : Rat)

def unevenBuilder : CBuilder :=
  { triangleBuilder 1 with
    pLink := [shiftedLine 'a' 'b' 1, shiftedLine 'b' 'c' 1, shiftedLine 'c' 'a' impedance] }

def unevenLoop : List LinkInfo :=
  [shiftedLine 'c' 'a' impedance, shiftedLine 'a' 'b' 1, shiftedLine 'b' 'c' 1]

theorem simple_unevenBuilder : SimpleLines (unevenBuilder impedance).enabledACLines := by
  have lines : (unevenBuilder impedance).enabledACLines = (unevenBuilder impedance).pLink := rfl
  rw [lines]
  constructor
  · intro info member
    simp only [unevenBuilder, List.mem_cons, List.not_mem_nil, or_false] at member
    rcases member with rfl | rfl | rfl <;> simp [shiftedLine]
  · simp [unevenBuilder, LinkInfo.edge, Edge.between, shiftedLine]

theorem exists_mesh_unevenBuilder :
    ∃ mesh, (gridOf (unevenBuilder impedance).enabledACLines).buildMesh = .ok mesh ∧
      (unevenBuilder impedance).pMesh mesh.meshIndexMatrix = [unevenLoop impedance] := by
  have graph : gridOf (unevenBuilder impedance).enabledACLines = gridOf (unevenBuilder 1).enabledACLines := rfl
  have places : (match (gridOf (unevenBuilder 1).enabledACLines).buildMesh with
      | .ok mesh => mesh.meshIndexMatrix
      | .error _ => []) = [[2, 0, 1]] := by decide +kernel
  rw [graph]
  cases built : (gridOf (unevenBuilder 1).enabledACLines).buildMesh with
  | error failure =>
    rw [built] at places
    nomatch places
  | ok mesh =>
    rw [built] at places
    dsimp only at places
    refine ⟨mesh, rfl, ?_⟩
    rw [places]
    rfl

theorem createConstraints_voltageLaw_triangle : ∃ mesh,
    (gridOf (unevenBuilder 1).enabledACLines).buildMesh = .ok mesh ∧
      ∀ area, balanceAt (CBuilder.signedLines (unevenLoop 1)) area = 0 := by
  obtain ⟨mesh, built, loops⟩ := exists_mesh_unevenBuilder 1
  have listed : ((unevenBuilder 1).pMesh mesh.meshIndexMatrix)[0]? = some (unevenLoop 1) := by
    rw [loops]
    rfl
  exact ⟨mesh, built, (CBuilder.createConstraints_voltageLaw (simple_unevenBuilder 1) built listed).1⟩

/-- With an impedance of a ten-millionth, flows that follow a potential do not meet the constraint of the triangle:
its weight is left out.
-/
theorem createConstraints_voltageLaw_lost :
    SimpleLines (unevenBuilder (1 / 10000000)).enabledACLines ∧ ∃ mesh,
      (gridOf (unevenBuilder (1 / 10000000)).enabledACLines).buildMesh = .ok mesh ∧
        ∃ loop ∈ (unevenBuilder (1 / 10000000)).pMesh mesh.meshIndexMatrix, ∃ constraints constraint potential flow,
          ((unevenBuilder (1 / 10000000)).createConstraints (fun _ _ => 0) []
            ((unevenBuilder (1 / 10000000)).pMesh mesh.meshIndexMatrix)).bind (·[0]?) = some constraints ∧
          constraint ∈ constraints ∧ (∀ hour, ∀ info ∈ loop, Follows potential hour flow info.ptr) ∧
          ((CBuilder.signedLines loop).map fun line => constraint.weight line.1.ptr * flow line.1.ptr).sum ≠ 0 := by
  obtain ⟨mesh, built, loops⟩ := exists_mesh_unevenBuilder (1 / 10000000)
  obtain ⟨result, created⟩ : ∃ result, (unevenBuilder (1 / 10000000)).createConstraints (fun _ _ => 0) []
      [unevenLoop (1 / 10000000)] = some result := ⟨_, if_neg (by decide)⟩
  have listed : [unevenLoop (1 / 10000000)][0]? = some (unevenLoop (1 / 10000000)) := rfl
  obtain ⟨_, nCount, found⟩ := CBuilder.getElem?_of_createConstraints _ _ created listed
  have first : 0 ∈ List.range hoursPerYear := List.mem_range.mpr (by decide)
  have distinct : ((unevenLoop (1 / 10000000)).map fun info => info.ptr.ends).Nodup := by decide
  have emitted := CBuilder.hasWeights_constraintsOf
    (CBuilder.states_completeCycle (unevenBuilder (1 / 10000000)) (fun _ _ => 0) (unevenLoop (1 / 10000000)))
    first distinct nCount
  obtain ⟨constraint, member, weights⟩ := emitted.2 0 first
  let potential : Text → Rat := fun area => if area = ['a'] then 1 else 0
  let flow : AreaLink → Rat := fun link => (potential link.from' - potential link.with') / link.impedances 0
  refine ⟨simple_unevenBuilder _, mesh, built, unevenLoop (1 / 10000000), ?_, _, constraint, potential, flow, ?_, member,
    ?_, ?_⟩
  · rw [loops]
    exact List.mem_cons_self
  · rw [loops, created]
    exact found
  · intro hour info listed
    have some : info.ptr.impedances 0 ≠ 0 ∧ info.ptr.impedances hour = info.ptr.impedances 0 := by
      simp only [unevenLoop, List.mem_cons, List.not_mem_nil, or_false] at listed
      rcases listed with rfl | rfl | rfl <;> simp [shiftedLine]
    unfold Follows
    rw [some.2, mul_div_cancel₀ _ some.1]
  · have lines : CBuilder.signedLines (unevenLoop (1 / 10000000)) =
        [(shiftedLine 'c' 'a' (1 / 10000000), 1), (shiftedLine 'a' 'b' 1, 1), (shiftedLine 'b' 'c' 1, 1)] := by
      have signs : signs ((unevenLoop (1 / 10000000)).map LinkInfo.ptr) = [1, 1, 1] := by decide
      unfold CBuilder.signedLines
      rw [signs]
      rfl
    have null : mathZero (1 / 10000000) = true := by decide +kernel
    have one : mathZero 1 = false := by decide +kernel
    rw [lines]
    unfold CBuilder.HasWeights at weights
    rw [lines] at weights
    simp only [List.forall_mem_cons, shiftedLine, one_mul, null, one, if_true, Bool.false_eq_true, if_false] at weights
    obtain ⟨last, ab, bc, _⟩ := weights
    simp only [List.map_cons, List.map_nil, List.sum_cons, List.sum_nil, shiftedLine, last, ab, bc]
    simp [flow, potential]

end Antares.ConstraintsBuilder
