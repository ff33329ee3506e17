import Antares.Data.Matrix
import Antares.Library.StoppedRuns
import Antares.Library.Texts

/-! The links of the constraints builder, and the pass over the hours that checks and classifies them. -/

set_option autoImplicit false

namespace Antares.ConstraintsBuilder

open Library Data

inductive AssetType where
  | ac
  | dc
  | gas
  | virt
  | other
  deriving DecidableEq, Repr

/-- A link of the study: the names of its areas, its parameters by hour, and its capacities by series
and hour.
-/
structure AreaLink where
  from' : Text
  with' : Text
  impedances : Nat → Rat
  loopFlow : Nat → Rat
  pShiftMinus : Nat → Rat
  pShiftPlus : Nat → Rat
  directCapacities : List (Nat → Rat)
  indirectCapacities : List (Nat → Rat)
  useLoopFlow : Bool
  usePST : Bool

/-- There is one link between two areas at most: its ends stand for its address. -/
def AreaLink.ends (link : AreaLink) : Text × Text := (link.from', link.with')

structure LinkInfo where
  ptr : AreaLink
  type : AssetType
  enabled : Bool
  hasPShiftsEqual : Bool
  nImpedanceChanges : Nat
  avgImpedance : Rat
  weight : Nat

def LinkInfo.getWeightWithImpedance (info : LinkInfo) : Nat :=
  1 + (if info.hasPShiftsEqual then 0 else 10) + 100 * info.nImpedanceChanges

structure CBuilder where
  pLink : List LinkInfo
  pPrefix : Text
  areaToLinks : Text → List LinkInfo
  includeLoopFlow : Bool
  includePhaseShift : Bool
  checkNodalLoopFlow : Bool
  infiniteSecondMember : Rat
  calendarStart : Nat
  calendarEnd : Nat

/-- What stops the update: an error that is logged, with its hour, or the read of a series that is not there. -/
inductive Failure where
  | loopFlowAgainstNtc (hour : Nat) (line : Text × Text)
  | loopFlowSum (hour : Nat) (area : Text)
  | phaseShift (hour : Nat) (line : Text × Text)
  | noSeries (tsIndex : Nat) (line : Text × Text)
  deriving DecidableEq, Repr

/-- `buildAreaToLinkInfosMap` -/
def CBuilder.buildAreaToLinkInfosMap (builder : CBuilder) (areas : List Text) : CBuilder :=
  { builder with
    areaToLinks := fun area =>
      if area ∈ areas then builder.pLink.filter fun info => info.ptr.from' = area ∨ info.ptr.with' = area else [] }

namespace AreaLink

variable (link : AreaLink) (hour : Nat)

/-- The test of one series in `checkValidityOfNodalLoopFlow`, the indirect capacity first. -/
def checkSeries (tsIndex : Nat) : Except Failure Unit :=
  match link.indirectCapacities[tsIndex]? with
  | none => .error (.noSeries tsIndex link.ends)
  | some indirect =>
    if -1 * indirect hour > link.loopFlow hour then .error (.loopFlowAgainstNtc (hour + 1) link.ends)
    else
      match link.directCapacities[tsIndex]? with
      | none => .error (.noSeries tsIndex link.ends)
      | some direct =>
        if direct hour < link.loopFlow hour then .error (.loopFlowAgainstNtc (hour + 1) link.ends) else .ok ()

def loopFlowInto (area : Text) : Rat := if area = link.from' then -1 * link.loopFlow hour else link.loopFlow hour

/-- `updateLinkPhaseShift`, on the flag of the line. -/
def updateLinkPhaseShift (hasPShiftsEqual : Bool) : Bool :=
  if link.pShiftMinus hour ≠ link.pShiftPlus hour then false else hasPShiftsEqual

def checkLinkPhaseShift : Except Failure Unit :=
  if link.pShiftMinus hour > link.pShiftPlus hour then .error (.phaseShift (hour + 1) link.ends) else .ok ()

def impedanceChange (impedances : Finset Rat) : Finset Rat :=
  if link.impedances (hour + 1) ≠ link.impedances hour then insert (link.impedances (hour + 1)) impedances
  else impedances

end AreaLink

namespace CBuilder

variable (builder : CBuilder) (link : AreaLink) (hour : Nat)

def nodalSum (area : Text) : Rat := ((builder.areaToLinks area).map fun info => info.ptr.loopFlowInto hour area).sum

def checkNodalSum (area : Text) : Except Failure Unit :=
  if builder.nodalSum hour area ≠ 0 then .error (.loopFlowSum (hour + 1) area) else .ok ()

def checkValidityOfNodalLoopFlow : Except Failure Unit := do
  (List.range link.indirectCapacities.length).forM (link.checkSeries hour)
  checkIf builder.checkNodalLoopFlow do
    builder.checkNodalSum hour link.from'
    builder.checkNodalSum hour link.with'

/-- One hour of the loop: the impedances found so far, and the flag of the line. -/
def updateHour (state : Finset Rat × Bool) (hour : Nat) : Except Failure (Finset Rat × Bool) := do
  let impedances := link.impedanceChange hour state.1
  checkIf builder.includeLoopFlow (builder.checkValidityOfNodalLoopFlow link hour)
  if builder.includePhaseShift then
    let hasPShiftsEqual := link.updateLinkPhaseShift hour state.2
    link.checkLinkPhaseShift hour
    pure (impedances, hasPShiftsEqual)
  else
    pure (impedances, state.2)

def meanImpedance : Rat := ((List.range hoursPerYear).map link.impedances).sum / hoursPerYear

def flagged : AreaLink :=
  { link with useLoopFlow := builder.includeLoopFlow, usePST := builder.includePhaseShift }

/-- What is left to do on a line when its hours are accepted; the mean impedance is overwritten. -/
def classify (info : LinkInfo) (kept : Finset Rat × Bool) : LinkInfo :=
  let link := builder.flagged info.ptr
  let info :=
    { info with
      ptr := link
      hasPShiftsEqual := kept.2
      nImpedanceChanges := kept.1.card
      avgImpedance := if 0 < kept.1.card then meanImpedance link else link.impedances 0 }
  let info := { info with avgImpedance := 1 }
  let info := if info.nImpedanceChanges = 0 ∧ info.avgImpedance = (0 : Rat) then { info with enabled := false } else info
  { info with weight := info.getWeightWithImpedance }

/-- The body of the loop of `updateLinks`. -/
def updateLink (info : LinkInfo) : Except Failure LinkInfo := do
  let kept ←
    (List.range (hoursPerYear - 1)).foldlM (builder.updateHour (builder.flagged info.ptr)) (∅, info.hasPShiftsEqual)
  pure (builder.classify info kept)

def updateLinks : Except Failure CBuilder := do
  let pLink ← builder.pLink.mapM builder.updateLink
  pure { builder with pLink := pLink }

/-- The lines that `update` keeps. -/
def enabledACLines : List LinkInfo := builder.pLink.filter fun info => info.enabled ∧ info.type = .ac

end CBuilder

end Antares.ConstraintsBuilder
