import Antares.Interconnections.LinkedAreas

/-! The orientation of links: every link that leads to an area of a smaller identifier is given to that area, and changes its
sign in the binding constraints. The whole run reverses the wrong links of the study one after the other, and ends.
-/

set_option autoImplicit false

namespace Antares.Interconnections

open Library Data

namespace AreaLink

variable (link : AreaLink)

def wrong : Bool := link.with' < link.from'

/-- `reverse`: the two areas are exchanged, and the two matrices of capacities. -/
def reverse : AreaLink where
  address := link.address
  from' := link.with'
  with' := link.from'
  data := { link.data with directCapacities := link.data.indirectCapacities, indirectCapacities := link.data.directCapacities }

end AreaLink

/-- `detachLinkFromItsPointer` in the area that owned the link, and the new entry in the other one. -/
def Area.reverseLink (link : AreaLink) (area : Area) : Area :=
  if area.id = link.from' then { area with links := area.links.filter fun other => other.address ≠ link.address }
  else if area.id = link.with' then
    { area with
      links := OrderedMap.insert AreaLink.with' link.reverse (area.links.filter fun other => other.with' ≠ link.from') }
  else area

/-- The loop does not end, or a map of weights is searched that is out of order. -/
inductive FixError where
  | noEnd
  | mapOutOfOrder
  deriving DecidableEq, Repr

namespace Study

variable (study : Study)

def reverseLink (link : AreaLink) : Study := { study with areas := study.areas.map (Area.reverseLink link) }

def nameOf (id : Text) : Text := ((study.areas.find? fun area => area.id = id).map Area.name).getD []

/-- `getNamePair` of the link at an address: what the maps of weights are ordered by. -/
def namePair (address : Nat) : List Text :=
  match study.linkAt address with
  | some link => [study.nameOf link.from', study.nameOf link.with']
  | none => []

def WeightsInOrder (constraint : BindingConstraint) : Prop :=
  OrderedMap.Sorted (fun weight : Nat × ℚ => study.namePair weight.1) constraint.linkWeights

instance (constraint : BindingConstraint) : Decidable (study.WeightsInOrder constraint) :=
  inferInstanceAs (Decidable (OrderedMap.Sorted _ _))

def reverseWeightSign (address : Nat) (constraint : BindingConstraint) : BindingConstraint :=
  { constraint with
    linkWeights := constraint.linkWeights.map fun weight =>
      if study.namePair weight.1 = study.namePair address then (weight.1, -weight.2) else weight }

/-- The maps are searched with the new names. What they give is undefined when the keys are not in order. -/
def reverseOne (link : AreaLink) : Except FixError Study :=
  let reversed := study.reverseLink link
  if ∀ constraint ∈ study.bindingConstraints, reversed.WeightsInOrder constraint then
    .ok { reversed with bindingConstraints := study.bindingConstraints.map (reversed.reverseWeightSign link.address) }
  else .error .mapOutOfOrder

def linksOf (id : Text) : List AreaLink := ((study.areas.find? fun area => area.id = id).map Area.links).getD []

/-- The loop over the links of an area starts again after each link that is reversed. -/
def fixArea : Nat → Study → Text → Except FixError Study
  | 0, _, _ => .error .noEnd
  | turns + 1, study, id =>
    match (study.linksOf id).find? AreaLink.wrong with
    | none => .ok study
    | some link => (study.reverseOne link).bind fun next => fixArea turns next id

def fixOrientationForAllInterconnections : Except FixError Study :=
  (study.areas.map Area.id).foldlM (fun next id => fixArea ((next.linksOf id).length + 1) next id) study

end Study

/-- Names tell areas apart, and no two areas have links in both directions. -/
structure Study.Paired (study : Study) : Prop where
  valid : study.Valid
  names : (study.areas.map Area.name).Nodup
  onePerPair : ∀ link ∈ study.links, ∀ other ∈ study.links, other.from' = link.with' → other.with' ≠ link.from'

section
variable {link other : AreaLink} {area : Area}

@[simp] theorem AreaLink.reverse_address : link.reverse.address = link.address := rfl

@[simp] theorem AreaLink.reverse_from' : link.reverse.from' = link.with' := rfl

@[simp] theorem AreaLink.reverse_with' : link.reverse.with' = link.from' := rfl

@[simp] theorem Area.reverseLink_id : (area.reverseLink link).id = area.id := by
  unfold reverseLink
  split_ifs
  · rfl
  · rfl
  · rfl

@[simp] theorem Area.reverseLink_name : (area.reverseLink link).name = area.name := by
  unfold reverseLink
  split_ifs
  · rfl
  · rfl
  · rfl

@[simp] theorem Area.reverseLink_clusters : (area.reverseLink link).clusters = area.clusters := by
  unfold reverseLink
  split_ifs
  · rfl
  · rfl
  · rfl

end

namespace Study

variable {study : Study} {link other : AreaLink} {area : Area}

theorem map_id_reverseLink (study : Study) (link : AreaLink) :
    (study.reverseLink link).areas.map Area.id = study.areas.map Area.id := by
  unfold reverseLink
  rw [List.map_map]
  exact List.map_congr_left fun area _ => Area.reverseLink_id

theorem map_name_reverseLink (study : Study) (link : AreaLink) :
    (study.reverseLink link).areas.map Area.name = study.areas.map Area.name := by
  unfold reverseLink
  rw [List.map_map]
  exact List.map_congr_left fun area _ => Area.reverseLink_name

namespace Valid

variable (valid : study.Valid)
include valid

theorem area_eq {area other : Area} (member : area ∈ study.areas) (inside : other ∈ study.areas) (same : other.id = area.id) :
    other = area :=
  List.inj_on_of_nodup_map valid.areasSorted.distinct inside member same

theorem find_area (member : area ∈ study.areas) : study.areas.find? (fun other => other.id = area.id) = some area := by
  cases found : study.areas.find? fun other => other.id = area.id with
  | none => exact absurd (decide_eq_true rfl) (List.find?_eq_none.mp found area member)
  | some other =>
    have same := of_decide_eq_true (@List.find?_some Area (fun other => decide (other.id = area.id)) _ _ found)
    rw [valid.area_eq member (List.mem_of_find?_eq_some found) same]

theorem linksOf_eq (member : area ∈ study.areas) : study.linksOf area.id = area.links := by
  unfold linksOf
  rw [valid.find_area member]
  rfl

theorem mem_area_links (member : area ∈ study.areas) : link ∈ area.links ↔ link ∈ study.links ∧ link.from' = area.id := by
  constructor
  · intro owned
    exact ⟨mem_links.mpr ⟨area, member, owned⟩, valid.owned area member link owned⟩
  · rintro ⟨known, same⟩
    obtain ⟨owner, inside, owned⟩ := mem_links.mp known
    rw [← valid.area_eq member inside ((valid.owned owner inside link owned).symm.trans same)]
    exact owned

theorem link_eq (known : link ∈ study.links) (other_known : other ∈ study.links) (from' : other.from' = link.from')
    (with' : other.with' = link.with') : other = link := by
  obtain ⟨owner, inside, owned⟩ := mem_links.mp known
  have otherOwned := (valid.mem_area_links inside).mpr ⟨other_known, from'.trans (valid.owned owner inside link owned)⟩
  exact List.inj_on_of_nodup_map (valid.linksSorted owner inside).distinct otherOwned owned with'

theorem with_ne_from (known : link ∈ study.links) : link.with' ≠ link.from' := by
  obtain ⟨owner, inside, owned⟩ := mem_links.mp known
  rw [valid.owned owner inside link owned]
  exact (valid.ends owner inside link owned).1

end Valid

namespace Paired

variable (paired : study.Paired) (known : link ∈ study.links)
include paired known

theorem mem_reverseLink_area (member : area ∈ study.areas) :
    other ∈ (area.reverseLink link).links ↔
      (other ∈ area.links ∧ other.address ≠ link.address) ∨ (other = link.reverse ∧ area.id = link.with') := by
  have ends := paired.valid.with_ne_from known
  have differs {other : AreaLink} (owned : other ∈ area.links) (elsewhere : area.id ≠ link.from') : other.address ≠ link.address := by
    obtain ⟨otherKnown, ofArea⟩ := (paired.valid.mem_area_links member).mp owned
    intro same
    have equal := paired.valid.addresses link known other otherKnown same
    exact elsewhere (ofArea.symm.trans (congrArg AreaLink.from' equal))
  unfold Area.reverseLink
  split_ifs with owner receiver
  · rw [List.mem_filter, decide_eq_true_iff]
    exact ⟨Or.inl, fun either => either.resolve_right fun both => ends (both.2.symm.trans owner)⟩
  · have kept : ∀ other ∈ area.links, other.with' ≠ link.from' := by
      intro other owned
      obtain ⟨otherKnown, ofArea⟩ := (paired.valid.mem_area_links member).mp owned
      exact paired.onePerPair link known other otherKnown (ofArea.trans receiver)
    rw [OrderedMap.mem_insert, List.mem_filter, decide_eq_true_iff, or_comm]
    constructor
    · rintro (⟨owned, -⟩ | same)
      · exact Or.inl ⟨owned, differs owned owner⟩
      · exact Or.inr ⟨same, receiver⟩
    · rintro (⟨owned, -⟩ | ⟨same, -⟩)
      · exact Or.inl ⟨owned, kept other owned⟩
      · exact Or.inr same
  · constructor
    · intro owned
      exact Or.inl ⟨owned, differs owned owner⟩
    · rintro (⟨owned, -⟩ | ⟨-, same⟩)
      · exact owned
      · exact absurd same receiver

theorem mem_reverseLink_links :
    other ∈ (study.reverseLink link).links ↔ (other ∈ study.links ∧ other.address ≠ link.address) ∨ other = link.reverse := by
  have inAreas : other ∈ (study.reverseLink link).links ↔ ∃ area ∈ study.areas, other ∈ (area.reverseLink link).links := by
    rw [mem_links]
    unfold Study.reverseLink
    constructor
    · rintro ⟨_, inside, owned⟩
      obtain ⟨area, member, rfl⟩ := List.mem_map.mp inside
      exact ⟨area, member, owned⟩
    · rintro ⟨area, member, owned⟩
      exact ⟨_, List.mem_map_of_mem member, owned⟩
  rw [inAreas]
  constructor
  · rintro ⟨area, member, owned⟩
    rcases (paired.mem_reverseLink_area known member).mp owned with ⟨old, differs⟩ | ⟨same, -⟩
    · exact Or.inl ⟨mem_links.mpr ⟨area, member, old⟩, differs⟩
    · exact Or.inr same
  · rintro (⟨old, differs⟩ | rfl)
    · obtain ⟨area, member, owned⟩ := mem_links.mp old
      exact ⟨area, member, (paired.mem_reverseLink_area known member).mpr (Or.inl ⟨owned, differs⟩)⟩
    · obtain ⟨owner, inside, owned⟩ := mem_links.mp known
      obtain ⟨-, area, member, same⟩ := paired.valid.ends owner inside link owned
      exact ⟨area, member, (paired.mem_reverseLink_area known member).mpr (Or.inr ⟨rfl, same⟩)⟩

omit paired known in
theorem mem_areas_reverseLink {after : Area} (inside : after ∈ (study.reverseLink link).areas) :
    ∃ area ∈ study.areas, area.reverseLink link = after :=
  List.mem_map.mp inside

omit known in
theorem sorted_reverseLink (member : area ∈ study.areas) :
    OrderedMap.Sorted AreaLink.with' (area.reverseLink link).links := by
  have sorted := paired.valid.linksSorted area member
  unfold Area.reverseLink
  split_ifs with owner receiver
  · exact sorted.sublist (List.filter_sublist.map AreaLink.with')
  · refine OrderedMap.Sorted.insert (sorted.sublist (List.filter_sublist.map AreaLink.with')) fun member => ?_
    obtain ⟨other, kept, same⟩ := List.mem_map.mp member
    exact absurd same (of_decide_eq_true (List.mem_filter.mp kept).2)
  · exact sorted

theorem reverseLink : (study.reverseLink link).Paired where
  valid :=
    { areasSorted := by
        unfold OrderedMap.Sorted
        rw [map_id_reverseLink]
        exact paired.valid.areasSorted
      ids := by
        intro after inside
        obtain ⟨area, member, rfl⟩ := mem_areas_reverseLink inside
        rw [Area.reverseLink_id]
        exact paired.valid.ids area member
      linksSorted := by
        intro after inside
        obtain ⟨area, member, rfl⟩ := mem_areas_reverseLink inside
        exact paired.sorted_reverseLink member
      owned := by
        intro after inside other owned
        obtain ⟨area, member, rfl⟩ := mem_areas_reverseLink inside
        rw [Area.reverseLink_id]
        rcases (paired.mem_reverseLink_area known member).mp owned with ⟨old, -⟩ | ⟨rfl, receiver⟩
        · exact paired.valid.owned area member other old
        · exact receiver.symm
      ends := by
        intro after inside other owned
        obtain ⟨area, member, rfl⟩ := mem_areas_reverseLink inside
        rw [Area.reverseLink_id]
        have atEnd : other.with' ≠ area.id ∧ ∃ far ∈ study.areas, far.id = other.with' := by
          rcases (paired.mem_reverseLink_area known member).mp owned with ⟨old, -⟩ | ⟨rfl, receiver⟩
          · exact paired.valid.ends area member other old
          · obtain ⟨owner, there, owns⟩ := mem_links.mp known
            refine ⟨?_, owner, there, (paired.valid.owned owner there link owns).symm⟩
            rw [receiver]
            exact (paired.valid.with_ne_from known).symm
        obtain ⟨different, far, there, same⟩ := atEnd
        exact ⟨different, far.reverseLink link, List.mem_map_of_mem there, Area.reverseLink_id.trans same⟩
      addresses := by
        intro first inside second inside' same
        rcases (paired.mem_reverseLink_links known).mp inside with ⟨old, differs⟩ | rfl
        · rcases (paired.mem_reverseLink_links known).mp inside' with ⟨old', -⟩ | rfl
          · exact paired.valid.addresses first old second old' same
          · exact absurd same.symm differs
        · rcases (paired.mem_reverseLink_links known).mp inside' with ⟨-, differs⟩ | rfl
          · exact absurd same differs
          · rfl
      linkWeights := by
        intro constraint inside weight weighted
        obtain ⟨other, there, same⟩ := paired.valid.linkWeights constraint inside weight weighted
        by_cases reversed : other.address = link.address
        · exact ⟨link.reverse, (paired.mem_reverseLink_links known).mpr (Or.inr rfl), reversed.symm.trans same⟩
        · exact ⟨other, (paired.mem_reverseLink_links known).mpr (Or.inl ⟨there, reversed⟩), same⟩
      clusterWeights := by
        intro constraint inside weight weighted
        obtain ⟨area, member, same, cluster⟩ := paired.valid.clusterWeights constraint inside weight weighted
        refine ⟨area.reverseLink link, List.mem_map_of_mem member, Area.reverseLink_id.trans same, ?_⟩
        rw [Area.reverseLink_clusters]
        exact cluster }
  names := by
    rw [map_name_reverseLink]
    exact paired.names
  onePerPair := by
    -- A link in the other direction of the reversed one would have had its ends before.
    have noTwin {other : AreaLink} (old : other ∈ study.links) (differs : other.address ≠ link.address) :
        ¬(other.from' = link.from' ∧ other.with' = link.with') := fun both =>
      differs (congrArg AreaLink.address (paired.valid.link_eq known old both.1 both.2))
    intro first inside second inside'
    rcases (paired.mem_reverseLink_links known).mp inside with ⟨old, differs⟩ | rfl
    · rcases (paired.mem_reverseLink_links known).mp inside' with ⟨old', -⟩ | rfl
      · exact paired.onePerPair first old second old'
      · exact fun from' with' => noTwin old differs ⟨with'.symm, from'.symm⟩
    · rcases (paired.mem_reverseLink_links known).mp inside' with ⟨old', differs⟩ | rfl
      · exact fun from' with' => noTwin old' differs ⟨from', with'⟩
      · exact fun from' => absurd from'.symm (paired.valid.with_ne_from known).symm

theorem linkAt_reverseLink (address : Nat) :
    (study.reverseLink link).linkAt address = if address = link.address then some link.reverse else study.linkAt address := by
  refine Option.ext fun other => ?_
  rw [linkAt_eq_some_iff (paired.reverseLink known).valid.addresses, paired.mem_reverseLink_links known]
  split_ifs with reversed
  · constructor
    · rintro ⟨⟨-, differs⟩ | rfl, same⟩
      · exact absurd (same.trans reversed) differs
      · rfl
    · intro same
      obtain rfl := Option.some.inj same
      exact ⟨Or.inr rfl, reversed.symm⟩
  · rw [linkAt_eq_some_iff paired.valid.addresses]
    constructor
    · rintro ⟨⟨old, -⟩ | rfl, same⟩
      · exact ⟨old, same⟩
      · exact absurd same.symm reversed
    · rintro ⟨old, same⟩
      exact ⟨Or.inl ⟨old, fun equal => reversed (same.symm.trans equal)⟩, same⟩

end Paired

end Study

def BindingConstraint.negate (addresses : List Nat) (constraint : BindingConstraint) : BindingConstraint :=
  { constraint with
    linkWeights := constraint.linkWeights.map fun weight => if weight.1 ∈ addresses then (weight.1, -weight.2) else weight }

/-- The addresses that a constraint refers to, in the order of its map. -/
def BindingConstraint.addresses (constraint : BindingConstraint) : List Nat := constraint.linkWeights.map Prod.fst

theorem BindingConstraint.addresses_negate (addresses : List Nat) (constraint : BindingConstraint) :
    (constraint.negate addresses).addresses = constraint.addresses := by
  unfold BindingConstraint.addresses negate
  rw [List.map_map]
  refine List.map_congr_left fun weight _ => ?_
  show (if weight.1 ∈ addresses then (weight.1, -weight.2) else weight).1 = weight.1
  split_ifs
  · rfl
  · rfl

namespace Study

variable {study other : Study} {link : AreaLink} {area : Area}

/-- The links that lead to an area of a smaller identifier, in the order of the loops. -/
def wrongLinks (study : Study) : List AreaLink := study.areas.flatMap fun area => area.links.filter AreaLink.wrong

def OrderKept : Study → List AreaLink → Prop
  | _, [] => True
  | study, link :: links =>
    (∀ constraint ∈ study.bindingConstraints, (study.reverseLink link).WeightsInOrder constraint) ∧
      OrderKept (study.reverseLink link) links

section
variable (areas : other.areas = study.areas)
include areas

theorem linkAt_congr (address : Nat) : other.linkAt address = study.linkAt address := by
  unfold linkAt links
  rw [areas]

theorem namePair_congr (address : Nat) : other.namePair address = study.namePair address := by
  unfold namePair nameOf
  rw [linkAt_congr areas, areas]

theorem weightsInOrder_congr {first second : BindingConstraint} (addresses : first.addresses = second.addresses) :
    other.WeightsInOrder first ↔ study.WeightsInOrder second := by
  have keys (constraint : BindingConstraint) (of : Study) :
      constraint.linkWeights.map (fun weight => of.namePair weight.1) = constraint.addresses.map of.namePair := by
    unfold BindingConstraint.addresses
    rw [List.map_map]
    rfl
  unfold WeightsInOrder OrderedMap.Sorted
  rw [keys, keys, addresses, funext (namePair_congr areas)]

theorem areas_reverseLink_congr (link : AreaLink) : (other.reverseLink link).areas = (study.reverseLink link).areas := by
  unfold reverseLink
  rw [areas]

theorem orderKept_congr
    (addresses : other.bindingConstraints.map BindingConstraint.addresses = study.bindingConstraints.map BindingConstraint.addresses)
    (links : List AreaLink) : OrderKept other links ↔ OrderKept study links := by
  induction links generalizing study other with
  | nil => exact Iff.rfl
  | cons link links later =>
    have reversed := areas_reverseLink_congr areas link
    refine and_congr ?_ (later reversed addresses)
    have both {first second : Study} (same : first.bindingConstraints.map BindingConstraint.addresses =
        second.bindingConstraints.map BindingConstraint.addresses)
        (reversed : (first.reverseLink link).areas = (second.reverseLink link).areas)
        (kept : ∀ constraint ∈ second.bindingConstraints, (second.reverseLink link).WeightsInOrder constraint) :
        ∀ constraint ∈ first.bindingConstraints, (first.reverseLink link).WeightsInOrder constraint := by
      intro constraint inside
      have listed : constraint.addresses ∈ second.bindingConstraints.map BindingConstraint.addresses :=
        same ▸ List.mem_map_of_mem inside
      obtain ⟨twin, there, equal⟩ := List.mem_map.mp listed
      exact (weightsInOrder_congr reversed equal.symm).mpr (kept twin there)
    exact ⟨both addresses.symm reversed.symm, both addresses reversed⟩

end

/-- The weights on some addresses change their signs in every constraint. -/
def withNegated (study : Study) (addresses : List Nat) : Study :=
  { study with bindingConstraints := study.bindingConstraints.map (BindingConstraint.negate addresses) }

theorem Paired.withConstraints (paired : study.Paired) {constraints : List BindingConstraint}
    (same : ∀ constraint ∈ constraints, ∃ old ∈ study.bindingConstraints,
      constraint.addresses = old.addresses ∧ constraint.clusterWeights = old.clusterWeights) :
    ({ study with bindingConstraints := constraints } : Study).Paired where
  valid :=
    { areasSorted := paired.valid.areasSorted
      ids := paired.valid.ids
      linksSorted := paired.valid.linksSorted
      owned := paired.valid.owned
      ends := paired.valid.ends
      addresses := paired.valid.addresses
      linkWeights := by
        intro constraint inside weight weighted
        obtain ⟨old, there, addresses, -⟩ := same constraint inside
        have listed : weight.1 ∈ old.addresses := addresses ▸ List.mem_map_of_mem weighted
        obtain ⟨oldWeight, oldWeighted, equal⟩ := List.mem_map.mp listed
        rw [← equal]
        exact paired.valid.linkWeights old there oldWeight oldWeighted
      clusterWeights := by
        intro constraint inside weight weighted
        obtain ⟨old, there, -, clusters⟩ := same constraint inside
        exact paired.valid.clusterWeights old there weight (clusters ▸ weighted) }
  names := paired.names
  onePerPair := paired.onePerPair

namespace Paired

variable (paired : study.Paired)
include paired

theorem nameOf_eq (member : area ∈ study.areas) : study.nameOf area.id = area.name := by
  unfold nameOf
  rw [paired.valid.find_area member]
  rfl

theorem id_eq_of_nameOf {first second : Area} (member : first ∈ study.areas) (inside : second ∈ study.areas)
    (same : study.nameOf first.id = study.nameOf second.id) : first.id = second.id := by
  rw [paired.nameOf_eq member, paired.nameOf_eq inside] at same
  exact congrArg Area.id (List.inj_on_of_nodup_map paired.names member inside same)

theorem namePair_inj {first second : AreaLink} (known : first ∈ study.links) (secondKnown : second ∈ study.links)
    (same : study.namePair first.address = study.namePair second.address) : first = second := by
  have firstAt := (linkAt_eq_some_iff paired.valid.addresses).mpr ⟨known, rfl⟩
  have secondAt := (linkAt_eq_some_iff paired.valid.addresses).mpr ⟨secondKnown, rfl⟩
  unfold namePair at same
  rw [firstAt, secondAt] at same
  obtain ⟨fromNames, rest⟩ := List.cons.inj same
  have withNames := (List.cons.inj rest).1
  obtain ⟨owner, member, owned⟩ := mem_links.mp known
  obtain ⟨secondOwner, secondMember, secondOwned⟩ := mem_links.mp secondKnown
  obtain ⟨-, far, farMember, farId⟩ := paired.valid.ends owner member first owned
  obtain ⟨-, secondFar, secondFarMember, secondFarId⟩ := paired.valid.ends secondOwner secondMember second secondOwned
  rw [paired.valid.owned owner member first owned, paired.valid.owned secondOwner secondMember second secondOwned] at fromNames
  rw [← farId, ← secondFarId] at withNames
  have from' := paired.id_eq_of_nameOf member secondMember fromNames
  have with' := paired.id_eq_of_nameOf farMember secondFarMember withNames
  refine paired.valid.link_eq secondKnown known ?_ ?_
  · rw [paired.valid.owned owner member first owned, paired.valid.owned secondOwner secondMember second secondOwned, from']
  · rw [← farId, ← secondFarId, with']

theorem reverseWeightSign_eq (known : link ∈ study.links) {constraint : BindingConstraint}
    (inside : constraint ∈ study.bindingConstraints) :
    study.reverseWeightSign link.address constraint = constraint.negate [link.address] := by
  unfold reverseWeightSign BindingConstraint.negate
  congr 1
  refine List.map_congr_left fun weight weighted => ?_
  obtain ⟨other, otherKnown, same⟩ := paired.valid.linkWeights constraint inside weight weighted
  have iff : study.namePair weight.1 = study.namePair link.address ↔ weight.1 ∈ [link.address] := by
    rw [List.mem_singleton, ← same]
    constructor
    · intro names
      exact congrArg AreaLink.address (paired.namePair_inj otherKnown known names)
    · intro addresses
      rw [addresses]
  simp only [iff]

theorem reverseOne_eq (known : link ∈ study.links)
    (inOrder : ∀ constraint ∈ study.bindingConstraints, (study.reverseLink link).WeightsInOrder constraint) :
    study.reverseOne link = .ok ((study.reverseLink link).withNegated [link.address]) := by
  have reversed := paired.reverseLink known
  have there : link.reverse ∈ (study.reverseLink link).links := (paired.mem_reverseLink_links known).mpr (Or.inr rfl)
  unfold reverseOne
  dsimp only
  rw [if_pos inOrder]
  congr 2
  exact List.map_congr_left fun constraint inside => reversed.reverseWeightSign_eq there inside

end Paired

structure Reversible (study : Study) (links : List AreaLink) : Prop where
  known : ∀ link ∈ links, link ∈ study.links
  distinct : (links.map AreaLink.address).Nodup

/-- The study after the reversals, with the weights of the links negated. -/
def afterReversals (study : Study) (links : List AreaLink) : Study :=
  (links.foldl reverseLink study).withNegated (links.map AreaLink.address)

theorem areas_foldl_congr (areas : other.areas = study.areas) (links : List AreaLink) :
    (links.foldl reverseLink other).areas = (links.foldl reverseLink study).areas := by
  induction links generalizing study other with
  | nil => exact areas
  | cons link links later => exact later (areas_reverseLink_congr areas link)

theorem negate_negate {first : Nat} {rest : List Nat} (fresh : first ∉ rest) (constraint : BindingConstraint) :
    (constraint.negate [first]).negate rest = constraint.negate (first :: rest) := by
  unfold BindingConstraint.negate
  dsimp only
  rw [List.map_map]
  congr 1
  refine List.map_congr_left fun weight _ => ?_
  by_cases same : weight.1 = first
  · simp [same, fresh]
  · simp [same]

theorem Reversible.next (paired : study.Paired) {links : List AreaLink} (reversible : Reversible study (link :: links)) :
    Reversible (study.reverseLink link) links where
  known other member := by
    obtain ⟨fresh, -⟩ := List.nodup_cons.mp reversible.distinct
    refine (paired.mem_reverseLink_links (reversible.known link List.mem_cons_self)).mpr (Or.inl ⟨?_, ?_⟩)
    · exact reversible.known other (List.mem_cons_of_mem link member)
    · exact fun same => fresh (same ▸ List.mem_map_of_mem member)
  distinct := (List.nodup_cons.mp reversible.distinct).2

theorem addresses_withNegated (study : Study) (addresses : List Nat) :
    (study.withNegated addresses).bindingConstraints.map BindingConstraint.addresses =
      study.bindingConstraints.map BindingConstraint.addresses := by
  unfold withNegated
  rw [List.map_map]
  exact List.map_congr_left fun constraint _ => constraint.addresses_negate addresses

theorem orderKept_withNegated (study : Study) (addresses : List Nat) (links : List AreaLink) :
    OrderKept (study.withNegated addresses) links ↔ OrderKept study links :=
  @orderKept_congr study (study.withNegated addresses) rfl (addresses_withNegated study addresses) links

theorem bindingConstraints_foldl (study : Study) (links : List AreaLink) :
    (links.foldl reverseLink study).bindingConstraints = study.bindingConstraints := by
  induction links generalizing study with
  | nil => rfl
  | cons link links later => exact later (study.reverseLink link)

theorem Paired.negate (paired : study.Paired) (addresses : List Nat) : (study.withNegated addresses).Paired :=
  paired.withConstraints fun constraint inside => by
    obtain ⟨old, there, rfl⟩ := List.mem_map.mp inside
    exact ⟨old, there, old.addresses_negate addresses, rfl⟩

theorem foldlM_reverseOne (paired : study.Paired) {links : List AreaLink} (reversible : Reversible study links)
    (kept : OrderKept study links) : links.foldlM reverseOne study = .ok (afterReversals study links) := by
  induction links generalizing study with
  | nil =>
    have same : study.bindingConstraints.map (BindingConstraint.negate []) = study.bindingConstraints := by
      refine (List.map_congr_left fun constraint _ => ?_).trans (List.map_id _)
      simp [BindingConstraint.negate]
    show Except.ok study = Except.ok (Study.mk study.areas (study.bindingConstraints.map (BindingConstraint.negate [])))
    rw [same]
  | cons link links later =>
    have known := reversible.known link List.mem_cons_self
    obtain ⟨fresh, -⟩ := List.nodup_cons.mp reversible.distinct
    have next := (paired.reverseLink known).negate [link.address]
    have reversibleNext : Reversible ((study.reverseLink link).withNegated [link.address]) links :=
      ⟨(reversible.next paired).known, (reversible.next paired).distinct⟩
    have keptNext : OrderKept ((study.reverseLink link).withNegated [link.address]) links :=
      (orderKept_withNegated _ _ links).mpr kept.2
    rw [List.foldlM_cons, paired.reverseOne_eq known kept.1]
    refine (later next reversibleNext keptNext).trans (congrArg Except.ok ?_)
    have areas := @areas_foldl_congr (study.reverseLink link) ((study.reverseLink link).withNegated [link.address]) rfl links
    unfold afterReversals withNegated
    refine (Study.mk.injEq _ _ _ _).mpr ⟨areas, ?_⟩
    rw [bindingConstraints_foldl, bindingConstraints_foldl, List.map_map]
    exact List.map_congr_left fun constraint _ => negate_negate fresh constraint

theorem foldlM_reverseOne_error (paired : study.Paired) {links : List AreaLink} (reversible : Reversible study links)
    (broken : ¬OrderKept study links) : links.foldlM reverseOne study = .error .mapOutOfOrder := by
  induction links generalizing study with
  | nil => exact absurd trivial broken
  | cons link links later =>
    have known := reversible.known link List.mem_cons_self
    rw [List.foldlM_cons]
    by_cases inOrder : ∀ constraint ∈ study.bindingConstraints, (study.reverseLink link).WeightsInOrder constraint
    · have next := (paired.reverseLink known).negate [link.address]
      have reversibleNext : Reversible ((study.reverseLink link).withNegated [link.address]) links :=
        ⟨(reversible.next paired).known, (reversible.next paired).distinct⟩
      have brokenNext : ¬OrderKept ((study.reverseLink link).withNegated [link.address]) links := fun kept =>
        broken ⟨inOrder, (orderKept_withNegated _ _ links).mp kept⟩
      rw [paired.reverseOne_eq known inOrder]
      exact later next reversibleNext brokenNext
    · have stopped : study.reverseOne link = .error .mapOutOfOrder := by
        unfold reverseOne
        dsimp only
        rw [if_neg inOrder]
      rw [stopped]
      rfl

theorem paired_foldl (paired : study.Paired) {links : List AreaLink} (reversible : Reversible study links) :
    (links.foldl reverseLink study).Paired := by
  induction links generalizing study with
  | nil => exact paired
  | cons link links later =>
    exact later (paired.reverseLink (reversible.known link List.mem_cons_self)) (reversible.next paired)

theorem linkAt_foldl (paired : study.Paired) {links : List AreaLink} (reversible : Reversible study links) (address : Nat) :
    (links.foldl reverseLink study).linkAt address =
      (study.linkAt address).map fun link => if address ∈ links.map AreaLink.address then link.reverse else link := by
  induction links generalizing study with
  | nil => simp
  | cons link links later =>
    have known := reversible.known link List.mem_cons_self
    obtain ⟨fresh, -⟩ := List.nodup_cons.mp reversible.distinct
    rw [List.foldl_cons, later (paired.reverseLink known) (reversible.next paired), paired.linkAt_reverseLink known]
    by_cases same : address = link.address
    · have there := (linkAt_eq_some_iff paired.valid.addresses).mpr ⟨known, same.symm⟩
      rw [if_pos same, there, Option.map_some, Option.map_some, same, if_neg fresh, List.map_cons, if_pos List.mem_cons_self]
    · rw [if_neg same]
      simp [same]

theorem mem_foldl_of_elsewhere {links : List AreaLink} (member : area ∈ study.areas)
    (elsewhere : ∀ link ∈ links, area.id ≠ link.from' ∧ area.id ≠ link.with') : area ∈ (links.foldl reverseLink study).areas := by
  induction links generalizing study with
  | nil => exact member
  | cons link links later =>
    obtain ⟨notOwner, notReceiver⟩ := elsewhere link List.mem_cons_self
    have same : area.reverseLink link = area := by
      unfold Area.reverseLink
      rw [if_neg notOwner, if_neg notReceiver]
    have kept : area ∈ (study.reverseLink link).areas := by
      unfold reverseLink
      exact List.mem_map.mpr ⟨area, member, same⟩
    exact later kept fun other inside => elsewhere other (List.mem_cons_of_mem link inside)

theorem nodup_addresses (paired : study.Paired) (member : area ∈ study.areas) : (area.links.map AreaLink.address).Nodup := by
  have distinct := List.Nodup.of_map AreaLink.with' (paired.valid.linksSorted area member).distinct
  refine List.Nodup.map_on (fun first owned second secondOwned same => ?_) distinct
  have firstKnown := mem_links.mpr ⟨area, member, owned⟩
  have secondKnown := mem_links.mpr ⟨area, member, secondOwned⟩
  exact paired.valid.addresses second secondKnown first firstKnown same

theorem reversible_wrong (paired : study.Paired) (member : area ∈ study.areas) :
    Reversible study (area.links.filter AreaLink.wrong) where
  known _ inside := mem_links.mpr ⟨area, member, (List.mem_filter.mp inside).1⟩
  distinct := (nodup_addresses paired member).sublist (List.filter_sublist.map AreaLink.address)

theorem fixArea_eq (paired : study.Paired) (member : area ∈ study.areas) {turns : Nat}
    (enough : (area.links.filter AreaLink.wrong).length < turns) :
    fixArea turns study area.id = (area.links.filter AreaLink.wrong).foldlM reverseOne study := by
  induction turns generalizing study area with
  | zero => exact absurd enough (Nat.not_lt_zero _)
  | succ turns later =>
    unfold fixArea
    rw [paired.valid.linksOf_eq member, ← List.head?_filter]
    cases listed : area.links.filter AreaLink.wrong with
    | nil => rfl
    | cons link links =>
      have reversible := reversible_wrong paired member
      rw [listed] at enough reversible
      have known := reversible.known link List.mem_cons_self
      have inside : link ∈ area.links.filter AreaLink.wrong := listed ▸ List.mem_cons_self
      have owner := paired.valid.owned area member link (List.mem_filter.mp inside).1
      rw [List.head?_cons, List.foldlM_cons]
      show (study.reverseOne link).bind _ = (study.reverseOne link).bind _
      cases reversed : study.reverseOne link with
      | error error => rfl
      | ok next =>
        have inOrder : ∀ constraint ∈ study.bindingConstraints, (study.reverseLink link).WeightsInOrder constraint := by
          unfold reverseOne at reversed
          dsimp only at reversed
          split_ifs at reversed with inOrder
          exact inOrder
        obtain rfl := Except.ok.inj ((paired.reverseOne_eq known inOrder).symm.trans reversed)
        have nextPaired := (paired.reverseLink known).negate [link.address]
        have nextMember : area.reverseLink link ∈ ((study.reverseLink link).withNegated [link.address]).areas :=
          List.mem_map_of_mem member
        have nextLinks : (area.reverseLink link).links.filter AreaLink.wrong = links := by
          obtain ⟨fresh, -⟩ := List.nodup_cons.mp reversible.distinct
          unfold Area.reverseLink
          rw [if_pos owner.symm, List.filter_filter]
          have swap : (area.links.filter fun other => other.wrong && decide (other.address ≠ link.address)) =
              (area.links.filter AreaLink.wrong).filter fun other => other.address ≠ link.address := by
            rw [List.filter_filter]
            exact List.filter_congr fun other _ => Bool.and_comm _ _
          rw [swap, listed, List.filter_cons_of_neg (by simp), List.filter_eq_self]
          intro other inside
          exact decide_eq_true fun same => fresh (same ▸ List.mem_map_of_mem inside)
        have done := later nextPaired nextMember (by rw [nextLinks]; exact Nat.lt_of_succ_lt_succ enough)
        rw [Area.reverseLink_id, nextLinks] at done
        exact done

theorem foldlM_fixArea (paired : study.Paired) {areas : List Area} (members : ∀ area ∈ areas, area ∈ study.areas)
    (sorted : OrderedMap.Sorted Area.id areas) :
    (areas.map Area.id).foldlM (fun next id => fixArea ((next.linksOf id).length + 1) next id) study =
      (areas.flatMap fun area => area.links.filter AreaLink.wrong).foldlM reverseOne study := by
  induction areas generalizing study with
  | nil => rfl
  | cons area areas later =>
    have member := members area List.mem_cons_self
    have enough : (area.links.filter AreaLink.wrong).length < (study.linksOf area.id).length + 1 := by
      rw [paired.valid.linksOf_eq member]
      exact Nat.lt_succ_of_le (List.length_filter_le _ _)
    have reversible := reversible_wrong paired member
    rw [List.map_cons, List.foldlM_cons, fixArea_eq paired member enough, List.flatMap_cons, List.foldlM_append]
    by_cases kept : OrderKept study (area.links.filter AreaLink.wrong)
    · rw [foldlM_reverseOne paired reversible kept]
      refine later ((paired_foldl paired reversible).negate _) ?_ (List.pairwise_cons.mp sorted).2
      intro next inside
      have above : area.id < next.id := (List.pairwise_cons.mp sorted).1 next.id (List.mem_map_of_mem inside)
      refine mem_foldl_of_elsewhere (members next (List.mem_cons_of_mem area inside)) fun link wrong => ?_
      obtain ⟨owned, isWrong⟩ := List.mem_filter.mp wrong
      have owner := paired.valid.owned area member link owned
      have smaller : link.with' < link.from' := of_decide_eq_true isWrong
      rw [owner] at smaller ⊢
      exact ⟨above.ne', (smaller.trans above).ne'⟩
    · rw [foldlM_reverseOne_error paired reversible kept]
      rfl

theorem fixOrientation_eq (paired : study.Paired) :
    study.fixOrientationForAllInterconnections = study.wrongLinks.foldlM reverseOne study :=
  foldlM_fixArea paired (fun _ member => member) paired.valid.areasSorted

theorem mem_wrongLinks : link ∈ study.wrongLinks ↔ link ∈ study.links ∧ link.with' < link.from' := by
  unfold wrongLinks
  rw [List.mem_flatMap]
  constructor
  · rintro ⟨area, member, inside⟩
    obtain ⟨owned, isWrong⟩ := List.mem_filter.mp inside
    exact ⟨mem_links.mpr ⟨area, member, owned⟩, of_decide_eq_true isWrong⟩
  · rintro ⟨known, isWrong⟩
    obtain ⟨area, member, owned⟩ := mem_links.mp known
    exact ⟨area, member, List.mem_filter.mpr ⟨owned, decide_eq_true isWrong⟩⟩

theorem reversible_wrongLinks (paired : study.Paired) : Reversible study study.wrongLinks where
  known _ inside := (mem_wrongLinks.mp inside).1
  distinct := by
    unfold wrongLinks
    rw [List.map_flatMap, List.nodup_flatMap]
    refine ⟨fun area member => (reversible_wrong paired member).distinct, ?_⟩
    have areas : study.areas.Nodup := List.Nodup.of_map Area.id paired.valid.areasSorted.distinct
    refine areas.imp_of_mem fun {first second} member inside different address inFirst inSecond => ?_
    obtain ⟨link, owned, rfl⟩ := List.mem_map.mp inFirst
    obtain ⟨other, otherOwned, same⟩ := List.mem_map.mp inSecond
    have known := (reversible_wrong paired member).known link owned
    have otherKnown := (reversible_wrong paired inside).known other otherOwned
    have equal := paired.valid.addresses link known other otherKnown same
    have ofFirst := paired.valid.owned first member link (List.mem_filter.mp owned).1
    have ofSecond := paired.valid.owned second inside other (List.mem_filter.mp otherOwned).1
    rw [equal] at ofSecond
    exact different (paired.valid.area_eq inside member (ofFirst.symm.trans ofSecond))

theorem fixOrientation_ends (paired : study.Paired) : study.fixOrientationForAllInterconnections ≠ .error .noEnd := by
  rw [fixOrientation_eq paired]
  by_cases kept : OrderKept study study.wrongLinks
  · rw [foldlM_reverseOne paired (reversible_wrongLinks paired) kept]
    intro same
    cases same
  · rw [foldlM_reverseOne_error paired (reversible_wrongLinks paired) kept]
    intro same
    cases same

end Study

end Antares.Interconnections
