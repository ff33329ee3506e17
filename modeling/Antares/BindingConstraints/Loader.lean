import Antares.Data.IniValues
import Antares.GeneralData.Values
import Antares.Library.KeyedMaps

/-! A binding constraint of a study, with the weights and the offsets of its links and clusters, which are
known by their addresses; and `BindingConstraintLoader`: the constraints that a section of
`bindingconstraints.ini` says.
-/

set_option autoImplicit false

namespace Antares.BindingConstraints

open Library Data

inductive ConstraintType where
  | typeUnknown
  | typeHourly
  | typeDaily
  | typeWeekly
  deriving DecidableEq, Repr, Inhabited

inductive Operator where
  | opUnknown
  | opEquality
  | opLess
  | opGreater
  | opBoth
  deriving DecidableEq, Repr, Inhabited

structure AreaLink where
  index : Nat
  from' : Nat
  with' : Nat
  deriving Inhabited

structure ThermalCluster where
  index : Nat
  parentArea : Nat
  enabled : Bool
  mustrun : Bool
  deriving Inhabited

def ThermalCluster.isActive (cluster : ThermalCluster) : Bool := cluster.enabled && !cluster.mustrun

structure Study where
  link : Nat → AreaLink
  cluster : Nat → ThermalCluster

def constraintNameSize : Nat := 128

/-- A constraint, without its time-series. The maps are in the order of the addresses. -/
structure BindingConstraint where
  name : Text := []
  id : Text := []
  linkWeights : List (Nat × Text.Double) := []
  clusterWeights : List (Nat × Text.Double) := []
  linkOffsets : List (Nat × Int) := []
  clusterOffsets : List (Nat × Int) := []
  type : ConstraintType := .typeUnknown
  operatorType : Operator := .opUnknown
  enabled : Bool := false
  deriving DecidableEq, Inhabited

/-- `Math::Zero` -/
def isZero : Text.Double → Bool
  | .finite value => |value| < 1 / 10 ^ 6
  | _ => false

def opposite : Text.Double → Text.Double
  | .finite value => .finite (-value)
  | .infinite negative => .infinite !negative
  | .nan => .nan

namespace BindingConstraint

variable (bc : BindingConstraint)

def skipped : Bool := bc.linkWeights.isEmpty && bc.clusterWeights.isEmpty

def isActive : Bool := bc.enabled && !bc.skipped

def setName (newname : Text) : BindingConstraint := { bc with name := newname.take constraintNameSize }

def setPId (name : Text) : BindingConstraint := { bc with id := (transformNameIntoID name).take constraintNameSize }

variable (lnk : Nat)

def weightOfLink (w : Text.Double) : BindingConstraint :=
  { bc with linkWeights := if isZero w then KeyedMap.erase bc.linkWeights lnk else KeyedMap.assign bc.linkWeights lnk w }

variable (study : Study)

def weightOfCluster (clstr : Nat) (w : Text.Double) : BindingConstraint :=
  if (study.cluster clstr).isActive then
    { bc with
      clusterWeights :=
        if isZero w then KeyedMap.erase bc.clusterWeights clstr else KeyedMap.assign bc.clusterWeights clstr w }
  else bc

def offsetOfLink (o : Int) : BindingConstraint :=
  { bc with linkOffsets := if o = 0 then KeyedMap.erase bc.linkOffsets lnk else KeyedMap.assign bc.linkOffsets lnk o }

def offsetOfCluster (clstr : Nat) (o : Int) : BindingConstraint :=
  if (study.cluster clstr).isActive then
    { bc with
      clusterOffsets :=
        if o = 0 then KeyedMap.erase bc.clusterOffsets clstr else KeyedMap.assign bc.clusterOffsets clstr o }
  else bc

def removeAllWeights : BindingConstraint := { bc with linkWeights := [], clusterWeights := [] }

def reverseWeightSign : BindingConstraint :=
  { bc with linkWeights := bc.linkWeights.map fun entry => if entry.1 = lnk then (lnk, opposite entry.2) else entry }

def containsArea (area : Nat) : Bool :=
  (bc.linkWeights.any fun entry => (study.link entry.1).from' = area || (study.link entry.1).with' = area) ||
    bc.clusterWeights.any fun entry => (study.cluster entry.1).parentArea = area

def containsLink : Bool := (KeyedMap.lookup bc.linkWeights lnk).isSome

end BindingConstraint

structure LinkTerm where
  linkIndex : Nat
  linkWeight : Text.Double
  linkOffset : Int
  deriving DecidableEq

structure ClusterTerm where
  clusterIndex : Nat
  clustersAreaIndex : Nat
  clusterWeight : Text.Double
  clusterOffset : Int
  deriving DecidableEq

structure BindingConstraintStructures where
  links : List LinkTerm
  clusters : List ClusterTerm

/-- The places of the clusters that are not active are at the end and stay empty. -/
def BindingConstraint.initLinkArrays (study : Study) (bc : BindingConstraint) : BindingConstraintStructures :=
  let active := bc.clusterWeights.filter fun entry => (study.cluster entry.1).isActive
  { links := bc.linkWeights.map fun entry =>
      { linkIndex := (study.link entry.1).index
        linkWeight := entry.2
        linkOffset := (KeyedMap.lookup bc.linkOffsets entry.1).getD 0 }
    clusters := active.map (fun entry =>
        { clusterIndex := (study.cluster entry.1).index
          clustersAreaIndex := (study.cluster entry.1).parentArea
          clusterWeight := entry.2
          clusterOffset := (KeyedMap.lookup bc.clusterOffsets entry.1).getD 0 }) ++
      List.replicate (bc.clusterWeights.length - active.length)
        { clusterIndex := 0, clustersAreaIndex := 0, clusterWeight := .finite 0, clusterOffset := 0 } }

structure EnvForLoading where
  study : Study
  findLinkFromINIKey : Text → Option Nat
  findClusterFromINIKey : Text → Option Nat
  /-- The file of the constraint is there. -/
  loadTimeSeries : BindingConstraint → Bool

def stringToOperator (text : Text) : Operator :=
  let l := toLower (text.take 16)
  if l ∈ ["both".toList, "<>".toList, "><".toList, "< and >".toList] then .opBoth
  else if l ∈ ["less".toList, "<".toList, "<=".toList] then .opLess
  else if l ∈ ["greater".toList, ">".toList, ">=".toList] then .opGreater
  else if l ∈ ["equal".toList, "=".toList, "==".toList] then .opEquality
  else .opUnknown

def stringToType (text : Text) : ConstraintType :=
  let l := toLower (text.take 16)
  if l ∈ ["hourly".toList, "hour".toList, "h".toList] then .typeHourly
  else if l ∈ ["daily".toList, "day".toList, "d".toList] then .typeDaily
  else if l ∈ ["weekly".toList, "week".toList, "w".toList] then .typeWeekly
  else .typeUnknown

/-- `SeparateValue`: the weight and the offset of a text `weight%offset`. Where there is no weight, it
is the empty text in front of the mark that is read as the offset. -/
def separateValue (value : Text) : Option (Text.Double × Int) :=
  match value.splitOnP (· = '%') with
  | [] | [] :: _ => some (.finite 0, 0)
  | [weight] =>
    let w := IniFile.toDouble weight
    if w.2 then some (w.1, 0) else none
  | weight :: offset :: _ =>
    let w := IniFile.toDouble weight
    let o := GeneralData.toInt offset
    if w.2 && o.2 then some (w.1, o.1) else none

namespace EnvForLoading

variable (env : EnvForLoading)

variable (bc : BindingConstraint)

/-- The terms of a link or of a cluster; a weight or an offset that is zero is not set. -/
def setTerm (value : Text.Double × Int) (weight : Text.Double → BindingConstraint → BindingConstraint)
    (offset : Int → BindingConstraint → BindingConstraint) : BindingConstraint :=
  let weighted := if isZero value.1 then bc else weight value.1 bc
  if value.2 = 0 then weighted else offset value.2 weighted

variable (p : IniFile.Property)

def loadTerm : BindingConstraint :=
  if '%' ∈ p.key ∧ p.key.head? ≠ some '%' then
    match separateValue p.value, env.findLinkFromINIKey p.key with
    | some value, some lnk => setTerm bc value (fun w bc => bc.weightOfLink lnk w) fun o bc => bc.offsetOfLink lnk o
    | _, _ => bc
  else if '.' ∈ p.key ∧ p.key.head? ≠ some '.' then
    match separateValue p.value, env.findClusterFromINIKey p.key with
    | some value, some clstr =>
      setTerm bc value (fun w bc => bc.weightOfCluster env.study clstr w) fun o bc => bc.offsetOfCluster env.study clstr o
    | _, _ => bc
  else bc

def loadProperty : BindingConstraint :=
  if p.key = [] then bc
  else if p.key = "name".toList then bc.setName p.value
  else if p.key = "id".toList then { bc with id := toLower (p.value.take constraintNameSize) }
  else if p.key = "enabled".toList then { bc with enabled := IniFile.toBool p.value }
  else if p.key = "type".toList then { bc with type := stringToType p.value }
  else if p.key = "operator".toList then { bc with operatorType := stringToOperator p.value }
  else if p.key ∈ ["filter-year-by-year".toList, "filter-synthesis".toList, "comments".toList, "group".toList] then bc
  else env.loadTerm bc p

/-- A constraint on both sides becomes two, with the identifier of the one that was read. -/
def load (properties : List IniFile.Property) : List BindingConstraint :=
  let bc := properties.foldl env.loadProperty { enabled := true }
  if bc.name = [] ∨ bc.id = [] ∨ bc.type = .typeUnknown ∨ bc.operatorType = .opUnknown then []
  else
    let bc := { bc with enabled := bc.enabled && !bc.skipped }
    if bc.operatorType = .opBoth then
      let less := { bc.setName (bc.name ++ "_inf".toList) with operatorType := .opLess }
      let greater := { bc.setName (bc.name ++ "_sup".toList) with operatorType := .opGreater }
      if env.loadTimeSeries less && env.loadTimeSeries greater then [less, greater] else []
    else if env.loadTimeSeries bc then [bc] else []

end EnvForLoading

section Offsets

variable (env : EnvForLoading)

def IsInt32 (offset : Int) : Prop := -2 ^ 31 ≤ offset ∧ offset < 2 ^ 31

instance (offset : Int) : Decidable (IsInt32 offset) := inferInstanceAs (Decidable (_ ∧ _))

structure OffsetsAreInt32 (bc : BindingConstraint) : Prop where
  links : ∀ entry ∈ bc.linkOffsets, IsInt32 entry.2
  clusters : ∀ entry ∈ bc.clusterOffsets, IsInt32 entry.2

theorem isInt32_bmod (value : Int) : IsInt32 (Int.bmod value (2 ^ 32)) := by
  constructor
  · exact Int.le_bmod (by decide)
  · exact Int.bmod_lt (by decide)

theorem isInt32_toInt (text : Text) : IsInt32 (GeneralData.toInt text).1 := by
  unfold GeneralData.toInt
  split_ifs
  · exact ⟨by decide, by decide⟩
  · exact isInt32_bmod _

theorem isInt32_separateValue {text : Text} {value : Text.Double × Int} (read : separateValue text = some value) :
    IsInt32 value.2 := by
  have zero : IsInt32 0 := ⟨by decide, by decide⟩
  unfold separateValue at read
  split at read
  · cases read
    exact zero
  · cases read
    exact zero
  · dsimp only at read
    split_ifs at read
    cases read
    exact zero
  · rename_i offset _ _ _
    dsimp only at read
    split_ifs at read
    cases read
    exact isInt32_toInt offset

theorem isInt32_setOffset {entries : List (Nat × Int)} (before : ∀ entry ∈ entries, IsInt32 entry.2) {o : Int}
    (small : IsInt32 o) (key : Nat) :
    ∀ entry ∈ if o = 0 then KeyedMap.erase entries key else KeyedMap.assign entries key o, IsInt32 entry.2 := by
  intro entry member
  split_ifs at member
  · exact before entry (KeyedMap.mem_erase.mp member).1
  · cases KeyedMap.mem_assign.mp member with
    | inl new => exact new ▸ small
    | inr old => exact before entry old.1

theorem OffsetsAreInt32.offsetOfLink {bc : BindingConstraint} (before : OffsetsAreInt32 bc) {o : Int} (small : IsInt32 o)
    (lnk : Nat) : OffsetsAreInt32 (bc.offsetOfLink lnk o) where
  links := isInt32_setOffset before.links small lnk
  clusters := before.clusters

theorem OffsetsAreInt32.weightOfCluster {bc : BindingConstraint} (before : OffsetsAreInt32 bc) (study : Study)
    (clstr : Nat) (w : Text.Double) : OffsetsAreInt32 (bc.weightOfCluster study clstr w) := by
  unfold BindingConstraint.weightOfCluster
  split_ifs
  · exact ⟨before.links, before.clusters⟩
  · exact ⟨before.links, before.clusters⟩
  · exact before

theorem OffsetsAreInt32.offsetOfCluster {bc : BindingConstraint} (before : OffsetsAreInt32 bc) (study : Study) {o : Int}
    (small : IsInt32 o) (clstr : Nat) : OffsetsAreInt32 (bc.offsetOfCluster study clstr o) := by
  unfold BindingConstraint.offsetOfCluster
  by_cases active : (study.cluster clstr).isActive = true
  · rw [if_pos active]
    exact ⟨before.links, isInt32_setOffset before.clusters small clstr⟩
  · rw [if_neg active]
    exact before

theorem OffsetsAreInt32.setTerm {bc : BindingConstraint} (before : OffsetsAreInt32 bc) {value : Text.Double × Int}
    {weight : Text.Double → BindingConstraint → BindingConstraint}
    {offset : Int → BindingConstraint → BindingConstraint}
    (weighted : ∀ bc, OffsetsAreInt32 bc → OffsetsAreInt32 (weight value.1 bc))
    (shifted : ∀ bc, OffsetsAreInt32 bc → OffsetsAreInt32 (offset value.2 bc)) :
    OffsetsAreInt32 (EnvForLoading.setTerm bc value weight offset) := by
  unfold EnvForLoading.setTerm
  dsimp only
  split_ifs
  · exact before
  · exact weighted _ before
  · exact shifted _ before
  · exact shifted _ (weighted _ before)

theorem OffsetsAreInt32.loadTerm {bc : BindingConstraint} (before : OffsetsAreInt32 bc) (p : IniFile.Property) :
    OffsetsAreInt32 (env.loadTerm bc p) := by
  unfold EnvForLoading.loadTerm
  split_ifs
  · split
    · rename_i value lnk read _
      have small := isInt32_separateValue read
      exact before.setTerm (fun _ before => ⟨before.links, before.clusters⟩) fun _ before => before.offsetOfLink small lnk
    · exact before
  · split
    · rename_i value clstr read _
      have small := isInt32_separateValue read
      exact before.setTerm (fun _ before => before.weightOfCluster env.study clstr _) fun _ before =>
        before.offsetOfCluster env.study small clstr
    · exact before
  · exact before

theorem OffsetsAreInt32.loadProperty {bc : BindingConstraint} (before : OffsetsAreInt32 bc) (p : IniFile.Property) :
    OffsetsAreInt32 (env.loadProperty bc p) := by
  have same {other : BindingConstraint} (links : other.linkOffsets = bc.linkOffsets)
      (clusters : other.clusterOffsets = bc.clusterOffsets) : OffsetsAreInt32 other :=
    ⟨links ▸ before.links, clusters ▸ before.clusters⟩
  unfold EnvForLoading.loadProperty
  split_ifs
  all_goals first
    | exact before.loadTerm env p
    | exact same rfl rfl

theorem OffsetsAreInt32.foldl {bc : BindingConstraint} (before : OffsetsAreInt32 bc) (properties : List IniFile.Property) :
    OffsetsAreInt32 (properties.foldl env.loadProperty bc) := by
  induction properties generalizing bc with
  | nil => exact before
  | cons property rest later => exact later (before.loadProperty env property)

theorem offsetsAreInt32_load {properties : List IniFile.Property} {bc : BindingConstraint} (loaded : bc ∈ env.load properties) :
    OffsetsAreInt32 bc := by
  have start : OffsetsAreInt32 { enabled := true } :=
    ⟨fun _ none => absurd none List.not_mem_nil, fun _ none => absurd none List.not_mem_nil⟩
  have read := start.foldl env properties
  have same {other : BindingConstraint} (links : other.linkOffsets = (properties.foldl env.loadProperty { enabled := true }).linkOffsets)
      (clusters : other.clusterOffsets = (properties.foldl env.loadProperty { enabled := true }).clusterOffsets) :
      OffsetsAreInt32 other := ⟨links ▸ read.links, clusters ▸ read.clusters⟩
  unfold EnvForLoading.load at loaded
  dsimp only at loaded
  split_ifs at loaded
  · exact absurd loaded List.not_mem_nil
  · simp only [List.mem_cons, List.not_mem_nil, or_false] at loaded
    obtain rfl | rfl := loaded
    · exact same rfl rfl
    · exact same rfl rfl
  · exact absurd loaded List.not_mem_nil
  · rw [List.mem_singleton.mp loaded]
    exact same rfl rfl
  · exact absurd loaded List.not_mem_nil

end Offsets

end Antares.BindingConstraints
