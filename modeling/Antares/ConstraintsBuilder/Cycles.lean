import Antares.ConstraintsBuilder.Links
import Antares.Library.KeyedRecords
import Antares.Library.NumberTexts

/-! Cycles of links, the states of their impedances after the loop over the hours, one for each vector of
impedances with the bounds of its hours, and the binding constraints made from them.
-/

set_option autoImplicit false

namespace Antares.ConstraintsBuilder

open Library Data

inductive Operator where
  | less
  | greater
  | equality
  | both
  deriving DecidableEq, Repr

abbrev WeightMap : Type := Text × Text → Option Rat

structure State where
  impedances : List Rat
  secondMember : Matrix
  weightMap : WeightMap

structure Cycle where
  loop : List LinkInfo
  sign : List Rat
  states : List State
  opType : Operator
  pInfinite : Rat

structure BindingConstraint where
  name : Text
  operatorType : Operator
  linkWeights : WeightMap
  rhsTimeSeries : Matrix

def BindingConstraint.weight (constraint : BindingConstraint) (link : AreaLink) : Rat :=
  (constraint.linkWeights link.ends).getD 0

/-- The constructor: `memory` is what a new matrix holds before it is written. -/
def State.make (memory : Nat → Nat → Rat) (infinite : Rat) (impedances : List Rat) : State where
  impedances := impedances
  secondMember :=
    { width := 3
      height := hoursPerYear
      entry := fun column hour =>
        if column = 0 then infinite else if column = 1 then -1 * infinite else memory column hour }
  weightMap := fun _ => none

/-- The sign of a line, from the one before it; the assertion that two of their ends are the same does not
run in a release.
-/
def nextSign (previous current : AreaLink) (sign : Rat) : Rat :=
  if previous.with' = current.from' ∨ previous.from' = current.with' then sign
  else if previous.from' = current.from' ∨ previous.with' = current.with' then sign * -1
  else sign

def signsAfter (previous : AreaLink) (sign : Rat) : List AreaLink → List Rat
  | [] => []
  | current :: rest =>
    let next := nextSign previous current sign
    next :: signsAfter current next rest

def signs : List AreaLink → List Rat
  | [] => []
  | first :: rest => 1 :: signsAfter first 1 rest

/-- A line whose impedance changes, or whose phase shift may be chosen. -/
def LinkInfo.varies (info : LinkInfo) : Bool :=
  0 < info.nImpedanceChanges || (info.type = .ac && !info.hasPShiftsEqual)

/-- The constructor of a cycle, with a state for the impedances of the first hour. -/
def Cycle.make (memory : Nat → Nat → Rat) (infinite : Rat) (loop : List LinkInfo) : Cycle where
  loop := loop
  sign := signs (loop.map LinkInfo.ptr)
  states := [State.make memory infinite (loop.map fun info => info.ptr.impedances 0)]
  opType := if loop.any LinkInfo.varies then .both else .equality
  pInfinite := infinite

structure HourSums where
  impedanceVector : List Rat
  wm : WeightMap
  lb : Rat
  ub : Rat

namespace CBuilder

variable (builder : CBuilder) (memory : Nat → Nat → Rat)

def loopFlowFactor : Rat := if builder.includeLoopFlow then 1 else 0

def phaseShiftFactor : Rat := if builder.includePhaseShift then 1 else 0

def inCalendar (hour : Nat) : Bool := hour + 1 ≤ builder.calendarEnd && builder.calendarStart ≤ hour + 1

def addLine (opType : Operator) (hour : Nat) (sums : HourSums) (line : LinkInfo × Rat) : HourSums :=
  let link := line.1.ptr
  let sign := line.2
  let loopFlow := link.impedances hour * link.loopFlow hour * builder.loopFlowFactor
  let minus := link.pShiftMinus hour * builder.phaseShiftFactor
  let plus := link.pShiftPlus hour * builder.phaseShiftFactor
  let bounds : Rat × Rat :=
    if opType = .equality then (sums.lb, sums.ub + (loopFlow + minus) * sign)
    else if opType = .both ∧ builder.inCalendar hour = true then
      (sums.lb + (loopFlow * sign + max (minus * sign) (plus * sign)),
        sums.ub + (loopFlow * sign + min (minus * sign) (plus * sign)))
    else (builder.infiniteSecondMember, -1 * builder.infiniteSecondMember)
  { impedanceVector := sums.impedanceVector ++ [link.impedances hour]
    wm := Function.update sums.wm link.ends (some (link.impedances hour * sign))
    lb := bounds.1
    ub := bounds.2 }

def hourSums (cycle : Cycle) (hour : Nat) : HourSums :=
  (cycle.loop.zip cycle.sign).foldl (builder.addLine cycle.opType hour)
    { impedanceVector := [], wm := fun _ => none, lb := 0, ub := 0 }

end CBuilder

def setCell (matrix : Matrix) (column row : Nat) (value : Rat) : Matrix :=
  { matrix with entry := Function.update matrix.entry column (Function.update (matrix.entry column) row value) }

def State.atHour (opType : Operator) (hour : Nat) (sums : HourSums) (state : State) : State :=
  { state with
    secondMember :=
      if opType = .both then
        setCell (setCell state.secondMember 0 hour (max sums.lb sums.ub)) 1 hour (min sums.ub sums.lb)
      else setCell state.secondMember 2 hour sums.ub
    weightMap := sums.wm }

namespace CBuilder

variable (builder : CBuilder) (memory : Nat → Nat → Rat)

/-- One hour of the loop: `getState` with the impedances of the hour, and what is written there. -/
def atHour (cycle : Cycle) (hour : Nat) : Cycle :=
  let sums := builder.hourSums cycle hour
  { cycle with
    states := KeyedRecords.touch State.impedances (State.make memory cycle.pInfinite) sums.impedanceVector
      (State.atHour cycle.opType hour sums) cycle.states }

def completeCycle (loop : List LinkInfo) : Cycle :=
  (List.range hoursPerYear).foldl (builder.atHour memory) (Cycle.make memory builder.infiniteSecondMember loop)

/-- `addConstraint`: null weights are left out. -/
def addConstraint (name : Text) (operatorType : Operator) (weights : WeightMap) (rhs : Matrix) : BindingConstraint where
  name := name
  operatorType := operatorType
  linkWeights := fun ends => (weights ends).filter fun weight => !mathZero weight
  rhsTimeSeries := rhs

/-- `resizeWithoutDataLost` with null for the new rows. -/
def withRows (matrix : Matrix) (rows : Nat) : Matrix :=
  { matrix with
    height := rows
    entry := fun column row => if row < matrix.height then matrix.entry column row else 0 }

def paddedNumber (n : Nat) : Text := List.replicate (4 - (Text.decimal n).length) '0' ++ Text.decimal n

def constraintsOf (nCount : Nat) (cycle : Cycle) : List BindingConstraint :=
  cycle.states.zipIdx.map fun (state, place) =>
    let name := builder.pPrefix ++ paddedNumber nCount
    let rhs := withRows state.secondMember 8784
    if cycle.opType = .both then
      addConstraint (name ++ '.' :: Text.decimal (place + 1)) .both state.weightMap rhs
    else addConstraint name .equality state.weightMap rhs

/-- The number in a name that starts with the prefix of the network constraints. -/
def networkNumber (name : Text) : Option Int :=
  if "@UTO_".toList.isPrefixOf name then Text.stoi ((name.drop 5).take (name.idxOf '.')) else none

def alreadyExistingNetworkConstraints (names : List Text) : Int :=
  names.foldl (fun nSubCount name => max nSubCount ((networkNumber name).getD nSubCount)) 0

/-- The constraints by cycle, beside constraints of some names that are there already; none at all when the
calendar is not the default one.
-/
def createConstraints (names : List Text) (mesh : List (List LinkInfo)) : Option (List (List BindingConstraint)) :=
  if mesh ≠ [] ∧ (builder.calendarEnd ≠ 8760 ∨ builder.calendarStart ≠ 1) then none
  else
    some (mesh.zipIdx.map fun (loop, place) =>
      builder.constraintsOf ((alreadyExistingNetworkConstraints names).toNat + 1 + place)
        (builder.completeCycle memory loop))

end CBuilder

theorem length_signsAfter (previous : AreaLink) (sign : Rat) (links : List AreaLink) :
    (signsAfter previous sign links).length = links.length := by
  induction links generalizing previous sign with
  | nil => rfl
  | cons link links ih => exact congrArg (· + 1) (ih _ _)

theorem length_signs (links : List AreaLink) : (signs links).length = links.length := by
  cases links with
  | nil => rfl
  | cons first rest => exact congrArg (· + 1) (length_signsAfter _ _ _)

section
variable (state : State) (opType : Operator) (hour : Nat) (sums : HourSums)

theorem weightMap_atHour : (state.atHour opType hour sums).weightMap = sums.wm := rfl

theorem upper_atHour (other : Nat) :
    (state.atHour .both hour sums).secondMember.entry 0 other =
      if other = hour then max sums.lb sums.ub else state.secondMember.entry 0 other := by
  simp [State.atHour, setCell, Function.update_apply]

theorem lower_atHour (other : Nat) :
    (state.atHour .both hour sums).secondMember.entry 1 other =
      if other = hour then min sums.ub sums.lb else state.secondMember.entry 1 other := by
  simp [State.atHour, setCell, Function.update_apply]

end

section
variable (sumsAt : Nat → HourSums) (hours : List Nat) (start : State)

/-- A list of hours written in one state of a cycle with two bounds. -/
def writeHours : State := hours.foldl (fun state hour => state.atHour .both hour (sumsAt hour)) start

theorem height_writeHours : (writeHours sumsAt hours start).secondMember.height = start.secondMember.height := by
  unfold writeHours
  induction hours generalizing start with
  | nil => rfl
  | cons hour hours ih => exact (ih _).trans (by simp [State.atHour, setCell])

theorem entry_writeHours {column : Nat} {value : HourSums → Rat}
    (written : ∀ (state : State) (hour : Nat) (sums : HourSums) (other : Nat),
      (state.atHour .both hour sums).secondMember.entry column other =
        if other = hour then value sums else state.secondMember.entry column other) (hour : Nat) :
    (writeHours sumsAt hours start).secondMember.entry column hour =
      if hour ∈ hours then value (sumsAt hour) else start.secondMember.entry column hour := by
  unfold writeHours
  induction hours using List.reverseRecOn with
  | nil => rfl
  | append_singleton hours last ih =>
    rw [List.foldl_append, List.foldl_cons, List.foldl_nil, written, ih]
    simp only [List.mem_append, List.mem_singleton]
    by_cases same : hour = last
    · rw [if_pos same, if_pos (.inr same), same]
    · simp only [same, if_false, or_false]

end

namespace CBuilder

variable (builder : CBuilder) (memory : Nat → Nat → Rat)

section Lines
variable (opType : Operator) (hour : Nat) (lines : List (LinkInfo × Rat)) (start : HourSums)

theorem impedanceVector_foldl :
    (lines.foldl (builder.addLine opType hour) start).impedanceVector =
      start.impedanceVector ++ lines.map fun line => line.1.ptr.impedances hour := by
  induction lines generalizing start with
  | nil => exact (List.append_nil _).symm
  | cons line lines ih =>
    rw [List.foldl_cons, ih, List.map_cons, List.append_cons]
    rfl

theorem wm_foldl_of_notMem {ends : Text × Text} (absent : ∀ line ∈ lines, line.1.ptr.ends ≠ ends) :
    (lines.foldl (builder.addLine opType hour) start).wm ends = start.wm ends := by
  induction lines generalizing start with
  | nil => rfl
  | cons line lines ih =>
    rw [List.foldl_cons, ih _ fun other member => absent other (List.mem_cons_of_mem _ member)]
    exact Function.update_of_ne (Ne.symm (absent line List.mem_cons_self)) _ _

theorem wm_foldl (distinct : (lines.map fun line => line.1.ptr.ends).Nodup) {line : LinkInfo × Rat}
    (member : line ∈ lines) :
    (lines.foldl (builder.addLine opType hour) start).wm line.1.ptr.ends =
      some (line.1.ptr.impedances hour * line.2) := by
  induction lines generalizing start with
  | nil => exact absurd member List.not_mem_nil
  | cons first lines ih =>
    rw [List.map_cons, List.nodup_cons] at distinct
    rw [List.foldl_cons]
    rcases List.mem_cons.mp member with rfl | later
    · rw [wm_foldl_of_notMem]
      · exact Function.update_self _ _ _
      · exact fun other listed same => distinct.1 (List.mem_map.mpr ⟨other, listed, same⟩)
    · exact ih _ distinct.2 later

theorem wm_foldl_congr {other : Nat} (otherStart : HourSums) (started : start.wm = otherStart.wm)
    (same : ∀ line ∈ lines, line.1.ptr.impedances hour = line.1.ptr.impedances other) :
    (lines.foldl (builder.addLine opType hour) start).wm =
      (lines.foldl (builder.addLine opType other) otherStart).wm := by
  induction lines generalizing start otherStart with
  | nil => exact started
  | cons line lines ih =>
    rw [List.foldl_cons, List.foldl_cons]
    apply ih
    · dsimp only [addLine]
      rw [started, same line List.mem_cons_self]
    · exact fun later member => same later (List.mem_cons_of_mem _ member)

end Lines

/-- The bounds of a line on the signed sum, with the phase shifts at their ends. -/
def leastOf (hour : Nat) (line : LinkInfo × Rat) : Rat :=
  line.1.ptr.impedances hour * line.1.ptr.loopFlow hour * builder.loopFlowFactor * line.2 +
    min (line.1.ptr.pShiftMinus hour * builder.phaseShiftFactor * line.2)
      (line.1.ptr.pShiftPlus hour * builder.phaseShiftFactor * line.2)

def greatestOf (hour : Nat) (line : LinkInfo × Rat) : Rat :=
  line.1.ptr.impedances hour * line.1.ptr.loopFlow hour * builder.loopFlowFactor * line.2 +
    max (line.1.ptr.pShiftMinus hour * builder.phaseShiftFactor * line.2)
      (line.1.ptr.pShiftPlus hour * builder.phaseShiftFactor * line.2)

theorem bounds_foldl {hour : Nat} (open' : builder.inCalendar hour = true) (lines : List (LinkInfo × Rat))
    (start : HourSums) :
    (lines.foldl (builder.addLine .both hour) start).lb = start.lb + (lines.map (builder.greatestOf hour)).sum ∧
      (lines.foldl (builder.addLine .both hour) start).ub = start.ub + (lines.map (builder.leastOf hour)).sum := by
  induction lines generalizing start with
  | nil => exact ⟨(add_zero _).symm, (add_zero _).symm⟩
  | cons line lines ih =>
    have turn : (builder.addLine .both hour start line).lb = start.lb + builder.greatestOf hour line ∧
        (builder.addLine .both hour start line).ub = start.ub + builder.leastOf hour line := by
      simp [addLine, open', greatestOf, leastOf]
    rw [List.foldl_cons, (ih _).1, (ih _).2, turn.1, turn.2, List.map_cons, List.map_cons, List.sum_cons,
      List.sum_cons, add_assoc, add_assoc]
    exact ⟨rfl, rfl⟩

section Hours
variable (loop : List LinkInfo)

def impedancesAt (hour : Nat) : List Rat := loop.map fun info => info.ptr.impedances hour

def signedLines : List (LinkInfo × Rat) := loop.zip (signs (loop.map LinkInfo.ptr))

theorem map_fst_signedLines : (signedLines loop).map Prod.fst = loop := by
  unfold signedLines
  rw [List.map_fst_zip]
  rw [length_signs, List.length_map]

/-- The weights of a constraint are the signed impedances of an hour, where null ones are left out. -/
def HasWeights (hour : Nat) (constraint : BindingConstraint) : Prop :=
  ∀ line ∈ signedLines loop, constraint.weight line.1.ptr =
    if mathZero (line.2 * line.1.ptr.impedances hour) then 0 else line.2 * line.1.ptr.impedances hour

variable (opType : Operator)

def sumsAt (hour : Nat) : HourSums :=
  (signedLines loop).foldl (builder.addLine opType hour)
    { impedanceVector := [], wm := fun _ => none, lb := 0, ub := 0 }

theorem impedanceVector_sumsAt (hour : Nat) :
    (builder.sumsAt loop opType hour).impedanceVector = impedancesAt loop hour := by
  unfold sumsAt
  rw [impedanceVector_foldl, List.nil_append]
  have mapped : (signedLines loop).map (fun line => line.1.ptr.impedances hour) =
      ((signedLines loop).map Prod.fst).map fun info => info.ptr.impedances hour := by
    rw [List.map_map]
    rfl
  rw [mapped, map_fst_signedLines]
  rfl

variable (hours : List Nat)

def statesOf (states : List State) : List State :=
  hours.foldl (fun states hour =>
    KeyedRecords.touch State.impedances (State.make memory builder.infiniteSecondMember) (impedancesAt loop hour)
      (State.atHour opType hour (builder.sumsAt loop opType hour)) states) states

theorem foldl_atHour (cycle : Cycle) (ofLoop : cycle.loop = loop)
    (signed : cycle.sign = signs (loop.map LinkInfo.ptr)) (infinite : cycle.pInfinite = builder.infiniteSecondMember) :
    hours.foldl (builder.atHour memory) cycle =
      { cycle with states := builder.statesOf memory loop cycle.opType hours cycle.states } := by
  induction hours generalizing cycle with
  | nil => rfl
  | cons hour hours ih =>
    have sums : builder.hourSums cycle hour = builder.sumsAt loop cycle.opType hour := by
      unfold hourSums sumsAt signedLines
      rw [ofLoop, signed]
    rw [List.foldl_cons, ih (builder.atHour memory cycle hour) ofLoop signed infinite]
    unfold statesOf
    rw [List.foldl_cons]
    dsimp only [atHour]
    rw [sums, impedanceVector_sumsAt, infinite]

def operatorOf : Operator := if loop.any LinkInfo.varies then .both else .equality

theorem completeCycle_eq :
    builder.completeCycle memory loop =
      { Cycle.make memory builder.infiniteSecondMember loop with
        states := builder.statesOf memory loop (operatorOf loop) (List.range hoursPerYear)
          [State.make memory builder.infiniteSecondMember (impedancesAt loop 0)] } :=
  builder.foldl_atHour memory loop _ _ rfl rfl rfl

theorem collects_states :
    KeyedRecords.Collects State.impedances (State.make memory builder.infiniteSecondMember) (impedancesAt loop)
      (fun hour => State.atHour opType hour (builder.sumsAt loop opType hour)) hours
      (builder.statesOf memory loop opType hours
        [State.make memory builder.infiniteSecondMember (impedancesAt loop 0)]) := by
  have start : KeyedRecords.Collects State.impedances (State.make memory builder.infiniteSecondMember) (impedancesAt loop)
      (fun hour => State.atHour opType hour (builder.sumsAt loop opType hour)) []
      [State.make memory builder.infiniteSecondMember (impedancesAt loop 0)] :=
    KeyedRecords.collects_nil (fun _ => rfl) _
  exact start.foldl (fun _ _ => rfl) (fun _ => rfl) hours

end Hours

section Emission
variable (loop : List LinkInfo) (opType : Operator)

theorem weightMap_of_mem_statesOf {hours : List Nat} {state : State}
    (member : state ∈ builder.statesOf memory loop opType hours
      [State.make memory builder.infiniteSecondMember (impedancesAt loop 0)])
    {hour : Nat} (inside : hour ∈ hours) (own : impedancesAt loop hour = state.impedances) :
    state.weightMap = (builder.sumsAt loop opType hour).wm := by
  have content := (builder.collects_states memory loop opType hours).content state member
  rw [content]
  unfold KeyedRecords.collected
  have listed : hour ∈ hours.filter fun hour => decide (impedancesAt loop hour = state.impedances) :=
    List.mem_filter.mpr ⟨inside, decide_eq_true own⟩
  obtain ⟨before, last, split⟩ := List.eq_nil_or_concat' _ |>.resolve_left (List.ne_nil_of_mem listed)
  have lastListed : last ∈ hours.filter fun hour => decide (impedancesAt loop hour = state.impedances) := by
    rw [split]
    exact List.mem_append_right _ List.mem_cons_self
  have same : impedancesAt loop last = impedancesAt loop hour :=
    (of_decide_eq_true (List.mem_filter.mp lastListed).2).trans own.symm
  rw [split, List.foldl_append, List.foldl_cons, List.foldl_nil, weightMap_atHour]
  apply wm_foldl_congr
  · rfl
  · intro line among
    have first : line.1 ∈ loop := by
      rw [← map_fst_signedLines loop]
      exact List.mem_map.mpr ⟨line, among, rfl⟩
    exact List.map_inj_left.mp same line.1 first

theorem exists_hour_of_mem_statesOf {hours : List Nat} {state : State} (first : 0 ∈ hours)
    (member : state ∈ builder.statesOf memory loop opType hours
      [State.make memory builder.infiniteSecondMember (impedancesAt loop 0)]) :
    ∃ hour ∈ hours, impedancesAt loop hour = state.impedances := by
  have keys : state.impedances ∈ (builder.statesOf memory loop opType hours
      [State.make memory builder.infiniteSecondMember (impedancesAt loop 0)]).map State.impedances :=
    List.mem_map.mpr ⟨state, member, rfl⟩
  rcases @KeyedRecords.mem_keys_foldl _ _ _ _ State.impedances (State.make memory builder.infiniteSecondMember)
    (impedancesAt loop) (fun hour => State.atHour opType hour (builder.sumsAt loop opType hour))
    (fun _ _ => rfl) (fun _ => rfl) hours _ _ keys with start | found
  · exact ⟨0, first, (List.mem_singleton.mp start).symm⟩
  · exact found

theorem hasWeights_of_state (distinct : (loop.map fun info => info.ptr.ends).Nodup) {state : State} {hour : Nat}
    (weights : state.weightMap = (builder.sumsAt loop opType hour).wm) (name : Text) (operatorType : Operator)
    (rhs : Matrix) : HasWeights loop hour (addConstraint name operatorType state.weightMap rhs) := by
  intro line among
  have mapped : (signedLines loop).map (fun line => line.1.ptr.ends) =
      ((signedLines loop).map Prod.fst).map fun info => info.ptr.ends := by
    rw [List.map_map]
    rfl
  rw [map_fst_signedLines] at mapped
  have ends : ((signedLines loop).map fun line => line.1.ptr.ends).Nodup := mapped ▸ distinct
  unfold BindingConstraint.weight addConstraint
  dsimp only
  rw [weights, sumsAt, wm_foldl _ _ _ _ _ ends among, mul_comm line.2, Option.filter_some]
  cases mathZero (line.1.ptr.impedances hour * line.2) with
  | true => rfl
  | false => rfl

theorem exists_of_mem_constraintsOf {nCount : Nat} {constraint : BindingConstraint} {cycle : Cycle}
    (member : constraint ∈ builder.constraintsOf nCount cycle) :
    ∃ state ∈ cycle.states, ∃ name operatorType rhs, constraint = addConstraint name operatorType state.weightMap rhs := by
  obtain ⟨⟨state, place⟩, listed, rfl⟩ := List.mem_map.mp member
  refine ⟨state, List.fst_mem_of_mem_zipIdx listed, ?_⟩
  dsimp only
  split_ifs
  · exact ⟨_, _, _, rfl⟩
  · exact ⟨_, _, _, rfl⟩

theorem exists_constraint_of_state (nCount : Nat) {cycle : Cycle} {state : State} (member : state ∈ cycle.states) :
    ∃ constraint ∈ builder.constraintsOf nCount cycle, ∃ name operatorType rhs,
      constraint = addConstraint name operatorType state.weightMap rhs := by
  obtain ⟨place, there⟩ := List.mem_iff_getElem?.mp member
  have listed : (state, place) ∈ cycle.states.zipIdx := List.mem_zipIdx_iff_getElem?.mpr there
  refine ⟨_, List.mem_map.mpr ⟨_, listed, rfl⟩, ?_⟩
  dsimp only
  split_ifs
  · exact ⟨_, _, _, rfl⟩
  · exact ⟨_, _, _, rfl⟩

end Emission

def calendarIsDefault : Bool := builder.calendarStart = 1 ∧ builder.calendarEnd = 8760

theorem getElem?_of_createConstraints {names : List Text} {mesh : List (List LinkInfo)}
    {result : List (List BindingConstraint)} (created : builder.createConstraints memory names mesh = some result)
    {turn : Nat} {loop : List LinkInfo} (listed : mesh[turn]? = some loop) :
    builder.calendarIsDefault = true ∧
      ∃ nCount, result[turn]? = some (builder.constraintsOf nCount (builder.completeCycle memory loop)) := by
  unfold createConstraints at created
  split_ifs at created with refused
  obtain rfl := Option.some.inj created
  constructor
  · have some : mesh ≠ [] := List.ne_nil_of_mem (List.mem_of_getElem? listed)
    have days := not_or.mp fun wrong => refused ⟨some, wrong⟩
    exact decide_eq_true ⟨not_not.mp days.2, not_not.mp days.1⟩
  · rw [List.getElem?_map, List.getElem?_zipIdx, listed]
    exact ⟨_, rfl⟩

end CBuilder

end Antares.ConstraintsBuilder
