import Antares.Data.Names
import Antares.Library.OrderedMaps
import Mathlib.Data.Rat.Defs

/-! Areas, the links that they own, and the binding constraints that refer to links and clusters. The deletion of an area:
these constraints, its own links, and the links of the other areas to it.
-/

set_option autoImplicit false

namespace Antares.Interconnections

open Library Data

abbrev HourOfYear : Type := Fin 8760

/-- The columns of the matrix of parameters, the two matrices of capacities by time series, and the
flags that say which of them are used.
-/
structure LinkData where
  hurdlesCostDirect : HourOfYear → ℚ
  hurdlesCostIndirect : HourOfYear → ℚ
  impedances : HourOfYear → ℚ
  loopFlow : HourOfYear → ℚ
  pShiftMinus : HourOfYear → ℚ
  pShiftPlus : HourOfYear → ℚ
  directCapacities : Nat → HourOfYear → ℚ
  indirectCapacities : Nat → HourOfYear → ℚ
  useLoopFlow : Bool
  usePST : Bool
  useHurdlesCost : Bool

def idleLinkData : LinkData where
  hurdlesCostDirect := fun _ => 0
  hurdlesCostIndirect := fun _ => 0
  impedances := fun _ => 0
  loopFlow := fun _ => 0
  pShiftMinus := fun _ => 0
  pShiftPlus := fun _ => 0
  directCapacities := fun _ _ => 1
  indirectCapacities := fun _ _ => 1
  useLoopFlow := false
  usePST := false
  useHurdlesCost := false

/-- A link in memory: its address, the identifiers of its two areas, and its data. -/
structure AreaLink where
  address : Nat
  from' : Text
  with' : Text
  data : LinkData

/-- An area, its clusters by identifier, and the links that it owns in the order of the other end. -/
structure Area where
  id : Text
  name : Text
  index : Nat
  clusters : List Text
  links : List AreaLink

/-- Weights are on the addresses of links, and on clusters, which know their area. -/
structure BindingConstraint where
  name : Text
  linkWeights : List (Nat × ℚ)
  clusterWeights : List ((Text × Text) × ℚ)

structure Study where
  areas : List Area
  bindingConstraints : List BindingConstraint

namespace Study

variable (study : Study)

def links : List AreaLink := study.areas.flatMap Area.links

def linkAt (address : Nat) : Option AreaLink := study.links.find? fun link => link.address = address

/-- A study as it is loaded. A link has an end in its own area and one in another, and what constraints
refer to is there.
-/
structure Valid : Prop where
  areasSorted : OrderedMap.Sorted Area.id study.areas
  ids : ∀ area ∈ study.areas, IsId area.id ∧ area.id ≠ []
  linksSorted : ∀ area ∈ study.areas, OrderedMap.Sorted AreaLink.with' area.links
  owned : ∀ area ∈ study.areas, ∀ link ∈ area.links, link.from' = area.id
  ends : ∀ area ∈ study.areas, ∀ link ∈ area.links, link.with' ≠ area.id ∧ ∃ other ∈ study.areas, other.id = link.with'
  addresses : ∀ link ∈ study.links, ∀ other ∈ study.links, other.address = link.address → other = link
  linkWeights : ∀ constraint ∈ study.bindingConstraints, ∀ weight ∈ constraint.linkWeights,
    ∃ link ∈ study.links, link.address = weight.1
  clusterWeights : ∀ constraint ∈ study.bindingConstraints, ∀ weight ∈ constraint.clusterWeights,
    ∃ area ∈ study.areas, area.id = weight.1.1 ∧ weight.1.2 ∈ area.clusters

variable {study}

theorem mem_links {link : AreaLink} : link ∈ study.links ↔ ∃ area ∈ study.areas, link ∈ area.links := by
  unfold links
  rw [List.mem_flatMap]

theorem linkAt_eq_some_iff (addresses : ∀ link ∈ study.links, ∀ other ∈ study.links, other.address = link.address → other = link)
    {address : Nat} {link : AreaLink} :
    study.linkAt address = some link ↔ link ∈ study.links ∧ link.address = address := by
  unfold linkAt
  constructor
  · intro found
    exact ⟨List.mem_of_find?_eq_some found,
      of_decide_eq_true (@List.find?_some AreaLink (fun link => decide (link.address = address)) _ _ found)⟩
  · rintro ⟨member, rfl⟩
    cases found : study.links.find? fun other => other.address = link.address with
    | none => exact absurd (decide_eq_true rfl) (List.find?_eq_none.mp found link member)
    | some other =>
      have same := of_decide_eq_true (@List.find?_some AreaLink (fun other => decide (other.address = link.address)) _ _ found)
      rw [addresses link member other (List.mem_of_find?_eq_some found) same]

end Study

/-- `contains`: a weight on a link with an end in the area, or on a cluster of it. -/
def BindingConstraint.containsArea (study : Study) (constraint : BindingConstraint) (id : Text) : Bool :=
  (constraint.linkWeights.any fun weight =>
      match study.linkAt weight.1 with
      | some link => link.from' = id || link.with' = id
      | none => false) ||
    constraint.clusterWeights.any fun weight => weight.1.1 = id

/-- `AreaLinkRemove` on every link with an end in the area; the loop starts again after each one. -/
def removeLinksTo (id : Text) (links : List AreaLink) : List AreaLink :=
  links.filter fun link => !(link.from' = id || link.with' = id)

/-- `AreaListDeleteLinkFromAreaPtr` in one area. -/
def deleteLinkFromAreaPtr (id : Text) (area : Area) : Area :=
  -- The test lets only the areas without links through.
  if area.links ≠ [] then area else { area with links := removeLinksTo id area.links }

/-- `AreaList::remove`; the links that the area owns go with it. -/
def removeArea (areas : List Area) (id : Text) : List Area :=
  let lname := transformNameIntoID id
  match areas.find? fun area => area.id = lname with
  | none => areas
  | some areaToRemove => (areas.filter fun area => area.id ≠ lname).map (deleteLinkFromAreaPtr areaToRemove.id)

def rebuildIndexes (areas : List Area) : List Area := areas.mapIdx fun (index : Nat) (area : Area) => { area with index := index }

namespace Study

/-- `areaDelete`: the success, and the study. -/
def areaDelete (study : Study) (id : Text) : Bool × Study :=
  match study.areas.find? fun area => area.id = id with
  | none => (false, study)
  | some _ =>
    (true,
      { areas := rebuildIndexes (removeArea study.areas id)
        bindingConstraints := study.bindingConstraints.filter fun constraint => !constraint.containsArea study id })

structure Deleted (before after : Study) (id : Text) : Prop where
  areas : after.areas.map Area.id = (before.areas.map Area.id).filter fun other => other ≠ id
  noLink : ∀ area ∈ after.areas, ∀ link ∈ area.links, link.from' ≠ id ∧ link.with' ≠ id
  linkWeights : ∀ constraint ∈ after.bindingConstraints, ∀ weight ∈ constraint.linkWeights,
    ∃ link ∈ after.links, link.address = weight.1
  clusterWeights : ∀ constraint ∈ after.bindingConstraints, ∀ weight ∈ constraint.clusterWeights, weight.1.1 ≠ id
  linksKept : ∀ area ∈ before.areas, area.id ≠ id → ∀ link ∈ area.links, link.with' ≠ id →
    ∃ area' ∈ after.areas, area'.id = area.id ∧ link ∈ area'.links
  constraintsKept : ∀ constraint ∈ before.bindingConstraints,
    (∀ weight ∈ constraint.linkWeights, ∀ link ∈ before.linkAt weight.1, link.from' ≠ id ∧ link.with' ≠ id) →
      (∀ weight ∈ constraint.clusterWeights, weight.1.1 ≠ id) → constraint ∈ after.bindingConstraints
  sorted : OrderedMap.Sorted Area.id after.areas
  indexed : ∀ (place : Nat) (area : Area), after.areas[place]? = some area → area.index = place

end Study

theorem deleteLinkFromAreaPtr_eq (id : Text) (area : Area) : deleteLinkFromAreaPtr id area = area := by
  unfold deleteLinkFromAreaPtr
  split_ifs with linked
  · rfl
  · have none : area.links = [] := not_not.mp linked
    rw [none]
    exact congrArg (fun links => ({ area with links := links } : Area)) none.symm

theorem rebuildIndexes_getElem? (areas : List Area) (place : Nat) :
    (rebuildIndexes areas)[place]? = areas[place]?.map fun area => { area with index := place } := by
  unfold rebuildIndexes
  rw [List.getElem?_mapIdx]

theorem mem_rebuildIndexes {areas : List Area} {area : Area} (member : area ∈ rebuildIndexes areas) :
    ∃ old ∈ areas, old.id = area.id ∧ old.links = area.links := by
  obtain ⟨place, stands⟩ := List.mem_iff_getElem?.mp member
  rw [rebuildIndexes_getElem?] at stands
  obtain ⟨old, there, rfl⟩ := Option.map_eq_some_iff.mp stands
  exact ⟨old, List.mem_of_getElem? there, rfl, rfl⟩

theorem exists_rebuildIndexes {areas : List Area} {old : Area} (member : old ∈ areas) :
    ∃ area ∈ rebuildIndexes areas, area.id = old.id ∧ area.links = old.links := by
  obtain ⟨place, stands⟩ := List.mem_iff_getElem?.mp member
  refine ⟨{ old with index := place }, List.mem_of_getElem? (i := place) ?_, rfl, rfl⟩
  rw [rebuildIndexes_getElem?, stands]
  rfl

theorem map_id_rebuildIndexes (areas : List Area) : (rebuildIndexes areas).map Area.id = areas.map Area.id := by
  apply List.ext_getElem?
  intro place
  rw [List.getElem?_map, List.getElem?_map, rebuildIndexes_getElem?]
  cases areas[place]? with
  | none => rfl
  | some area => rfl

namespace Study

variable {study : Study} {id : Text}

theorem areaDelete_areas (valid : study.Valid) {area : Area} (member : area ∈ study.areas) :
    (study.areaDelete area.id).2.areas = rebuildIndexes (study.areas.filter fun other => other.id ≠ area.id) := by
  have found : study.areas.find? (fun other => other.id = area.id) ≠ none := by
    intro none
    exact absurd (decide_eq_true rfl) (List.find?_eq_none.mp none area member)
  obtain ⟨isId, nonempty⟩ := valid.ids area member
  unfold areaDelete removeArea
  rw [transformNameIntoID_of_isId isId nonempty]
  dsimp only
  cases first : study.areas.find? fun other => other.id = area.id with
  | none => exact absurd first found
  | some removed =>
    dsimp only
    rw [List.map_congr_left fun other _ => deleteLinkFromAreaPtr_eq removed.id other, List.map_id']

theorem areaDelete_bindingConstraints {area : Area} (member : area ∈ study.areas) :
    (study.areaDelete area.id).2.bindingConstraints =
      study.bindingConstraints.filter fun constraint => !constraint.containsArea study area.id := by
  unfold areaDelete
  cases first : study.areas.find? fun other => other.id = area.id with
  | none => exact absurd (decide_eq_true rfl) (List.find?_eq_none.mp first area member)
  | some removed => rfl

theorem mem_areaDelete_areas (valid : study.Valid) {area : Area} (member : area ∈ study.areas) {left : Area}
    (inside : left ∈ (study.areaDelete area.id).2.areas) :
    ∃ old ∈ study.areas, old.id ≠ area.id ∧ old.id = left.id ∧ old.links = left.links := by
  rw [areaDelete_areas valid member] at inside
  obtain ⟨old, kept, sameId, sameLinks⟩ := mem_rebuildIndexes inside
  obtain ⟨known, other⟩ := List.mem_filter.mp kept
  exact ⟨old, known, of_decide_eq_true other, sameId, sameLinks⟩

theorem exists_areaDelete_areas (valid : study.Valid) {area : Area} (member : area ∈ study.areas) {old : Area}
    (known : old ∈ study.areas) (other : old.id ≠ area.id) :
    ∃ left ∈ (study.areaDelete area.id).2.areas, left.id = old.id ∧ left.links = old.links := by
  rw [areaDelete_areas valid member]
  exact exists_rebuildIndexes (List.mem_filter.mpr ⟨known, decide_eq_true other⟩)

theorem containsArea_eq_false_iff {constraint : BindingConstraint} :
    constraint.containsArea study id = false ↔
      (∀ weight ∈ constraint.linkWeights, ∀ link ∈ study.linkAt weight.1, link.from' ≠ id ∧ link.with' ≠ id) ∧
        ∀ weight ∈ constraint.clusterWeights, weight.1.1 ≠ id := by
  unfold BindingConstraint.containsArea
  rw [Bool.or_eq_false_iff, List.any_eq_false, List.any_eq_false]
  refine and_congr (forall₂_congr fun weight _ => ?_) (forall₂_congr fun weight _ => by simp)
  cases study.linkAt weight.1 with
  | none => simp
  | some link => simp

/-- The deletion is complete exactly when no other area owns a link to the deleted one. -/
theorem areaDelete_iff (valid : study.Valid) {area : Area} (member : area ∈ study.areas) :
    Deleted study (study.areaDelete area.id).2 area.id ↔
      ∀ other ∈ study.areas, other.id ≠ area.id → ∀ link ∈ other.links, link.with' ≠ area.id := by
  constructor
  · intro deleted other known different link owned
    obtain ⟨left, inside, -, links⟩ := exists_areaDelete_areas valid member known different
    exact (deleted.noLink left inside link (links ▸ owned)).2
  · intro unlinked
    have kept {left : Area} (inside : left ∈ (study.areaDelete area.id).2.areas) : ∀ link ∈ left.links,
        link.from' ≠ area.id ∧ link.with' ≠ area.id := by
      obtain ⟨old, known, different, -, links⟩ := mem_areaDelete_areas valid member inside
      intro link owned
      rw [← links] at owned
      exact ⟨(valid.owned old known link owned).trans_ne different, unlinked old known different link owned⟩
    -- links of the areas that stay are kept, whatever their other end
    have survives {link : AreaLink} (inside : link ∈ study.links) (clear : link.from' ≠ area.id) :
        link ∈ (study.areaDelete area.id).2.links := by
      obtain ⟨old, known, owned⟩ := mem_links.mp inside
      have different : old.id ≠ area.id := fun same => clear ((valid.owned old known link owned).trans same)
      obtain ⟨left, there, -, links⟩ := exists_areaDelete_areas valid member known different
      exact mem_links.mpr ⟨left, there, links ▸ owned⟩
    have areaIds : (study.areaDelete area.id).2.areas.map Area.id =
        (study.areas.map Area.id).filter fun other => other ≠ area.id := by
      rw [areaDelete_areas valid member, map_id_rebuildIndexes, List.filter_map]
      rfl
    refine ⟨areaIds, fun left inside => kept inside, ?_, ?_, ?_, ?_, ?_, ?_⟩
    · intro constraint inside weight weighted
      rw [areaDelete_bindingConstraints member] at inside
      obtain ⟨old, cleared⟩ := List.mem_filter.mp inside
      obtain ⟨link, known, same⟩ := valid.linkWeights constraint old weight weighted
      have clear := containsArea_eq_false_iff.mp (by simpa using cleared)
      have atWeight := (linkAt_eq_some_iff valid.addresses).mpr ⟨known, same⟩
      exact ⟨link, survives known (clear.1 weight weighted link atWeight).1, same⟩
    · intro constraint inside
      rw [areaDelete_bindingConstraints member] at inside
      obtain ⟨-, cleared⟩ := List.mem_filter.mp inside
      exact (containsArea_eq_false_iff.mp (by simpa using cleared)).2
    · intro old known different link owned _
      obtain ⟨left, inside, same, links⟩ := exists_areaDelete_areas valid member known different
      exact ⟨left, inside, same, links ▸ owned⟩
    · intro constraint known noLink noCluster
      rw [areaDelete_bindingConstraints member]
      refine List.mem_filter.mpr ⟨known, ?_⟩
      rw [containsArea_eq_false_iff.mpr ⟨noLink, noCluster⟩]
      rfl
    · unfold OrderedMap.Sorted
      rw [areaIds]
      exact valid.areasSorted.sublist List.filter_sublist
    · intro place left stands
      rw [areaDelete_areas valid member, rebuildIndexes_getElem?] at stands
      obtain ⟨old, -, rfl⟩ := Option.map_eq_some_iff.mp stands
      rfl

end Study

/-! Two areas, and a link that the first one owns. -/

def idleLink : AreaLink where
  address := 1
  from' := ['a']
  with' := ['b']
  data := idleLinkData

def ownerArea : Area where
  id := ['a']
  name := ['A']
  index := 0
  clusters := []
  links := [idleLink]

def otherArea : Area where
  id := ['b']
  name := ['B']
  index := 1
  clusters := []
  links := []

def linkedStudy : Study where
  areas := [ownerArea, otherArea]
  bindingConstraints := [{ name := ['c'], linkWeights := [(1, 1)], clusterWeights := [] }]

theorem linkedStudy_valid : linkedStudy.Valid where
  areasSorted := by decide
  ids := by
    simp only [linkedStudy, ownerArea, otherArea, List.forall_mem_cons]
    exact ⟨⟨⟨by decide, by decide, by decide⟩, by decide⟩, ⟨⟨by decide, by decide, by decide⟩, by decide⟩, by simp⟩
  linksSorted := by simp [linkedStudy, OrderedMap.Sorted, ownerArea, otherArea]
  owned := by simp [linkedStudy, ownerArea, otherArea, idleLink]
  ends := by simp [linkedStudy, ownerArea, otherArea, idleLink]
  addresses := by simp [linkedStudy, Study.links, ownerArea, otherArea]
  linkWeights := by simp [linkedStudy, Study.links, ownerArea, otherArea, idleLink]
  clusterWeights := by simp [linkedStudy]

namespace Study

/-- Without the area that owns the link, all is in order. -/
theorem linkedStudy_deletedOwner : Deleted linkedStudy (linkedStudy.areaDelete ['a']).2 ['a'] :=
  (areaDelete_iff linkedStudy_valid (List.mem_cons_self : ownerArea ∈ linkedStudy.areas)).mpr
    (by simp [linkedStudy, ownerArea, otherArea])

/-- Without the other area, the link still leads to it. -/
theorem linkedStudy_notDeleted : otherArea ∈ linkedStudy.areas ∧ ¬Deleted linkedStudy (linkedStudy.areaDelete ['b']).2 ['b'] := by
  have other : otherArea ∈ linkedStudy.areas := List.mem_cons_of_mem _ List.mem_cons_self
  have owner : ownerArea ∈ linkedStudy.areas := List.mem_cons_self
  refine ⟨other, fun deleted => ?_⟩
  obtain ⟨left, inside, -, links⟩ := exists_areaDelete_areas linkedStudy_valid other owner (by decide)
  have link : idleLink ∈ left.links := links ▸ List.mem_cons_self
  exact (deleted.noLink left inside idleLink link).2 rfl

end Study

end Antares.Interconnections
