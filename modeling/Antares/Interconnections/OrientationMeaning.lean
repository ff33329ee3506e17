import Antares.Interconnections.OrientationRun
import Mathlib.Tactic.Linarith

/-! What the reversal of links makes of the network: the capacities are exchanged, and the other data
of the two directions are not.
-/

set_option autoImplicit false

namespace Antares.Interconnections

open Library Data

namespace AreaLink

variable (link : AreaLink)

def Admits (series : Nat) (hour : HourOfYear) (flow : ℚ) : Prop :=
  -link.data.indirectCapacities series hour ≤ flow ∧ flow ≤ link.data.directCapacities series hour

def hurdleCost (hour : HourOfYear) (flow : ℚ) : ℚ :=
  if link.data.useHurdlesCost then
    let net := if link.data.useLoopFlow then flow - link.data.loopFlow hour else flow
    if 0 < net then net * link.data.hurdlesCostDirect hour else -net * link.data.hurdlesCostIndirect hour
  else 0

/-- The other link carries a flow as the first one carried its opposite. -/
structure SameMeaning (other : AreaLink) : Prop where
  ends : other.from' = link.with' ∧ other.with' = link.from'
  admits : ∀ series hour flow, other.Admits series hour flow ↔ link.Admits series hour (-flow)
  hurdleCost : ∀ hour flow, other.hurdleCost hour flow = link.hurdleCost hour (-flow)
  loopFlow : ∀ hour, other.data.loopFlow hour = -link.data.loopFlow hour
  pShift : ∀ hour, other.data.pShiftMinus hour = -link.data.pShiftPlus hour ∧
    other.data.pShiftPlus hour = -link.data.pShiftMinus hour

/-- The data that the reversal leaves as they are do not tell the two directions apart. -/
structure Symmetric : Prop where
  hurdlesCost : link.data.useHurdlesCost = true → ∀ hour, link.data.hurdlesCostDirect hour = link.data.hurdlesCostIndirect hour
  loopFlow : ∀ hour, link.data.loopFlow hour = 0
  pShift : ∀ hour, link.data.pShiftPlus hour = -link.data.pShiftMinus hour

variable {link}

theorem admits_reverse (series : Nat) (hour : HourOfYear) (flow : ℚ) :
    link.reverse.Admits series hour flow ↔ link.Admits series hour (-flow) := by
  unfold Admits reverse
  dsimp only
  constructor
  · rintro ⟨above, below⟩
    exact ⟨neg_le_neg below, neg_le.mp above⟩
  · rintro ⟨above, below⟩
    exact ⟨neg_le.mp below, neg_le_neg_iff.mp above⟩

theorem sameMeaning_reverse_iff : link.SameMeaning link.reverse ↔ link.Symmetric := by
  constructor
  · intro same
    have noLoop (hour : HourOfYear) : link.data.loopFlow hour = 0 := self_eq_neg.mp (same.loopFlow hour)
    refine ⟨fun used hour => ?_, noLoop, fun hour => (same.pShift hour).2⟩
    -- One unit of flow tells the two costs apart.
    have unit := same.hurdleCost hour 1
    unfold hurdleCost reverse at unit
    dsimp only at unit
    rw [used, if_pos rfl, if_pos rfl, noLoop, sub_zero, sub_zero, ite_self, ite_self, if_pos one_pos,
      if_neg (by norm_num)] at unit
    linarith
  · intro symmetric
    refine ⟨⟨rfl, rfl⟩, admits_reverse, fun hour flow => ?_, fun hour => ?_, fun hour => ⟨?_, symmetric.pShift hour⟩⟩
    · have noLoop := symmetric.loopFlow hour
      unfold hurdleCost reverse
      dsimp only
      rw [noLoop, sub_zero, sub_zero, ite_self, ite_self]
      split_ifs with used forward backward backward
      · linarith
      · rw [symmetric.hurdlesCost used hour, neg_neg]
      · rw [symmetric.hurdlesCost used hour]
      · have zero : flow = 0 := by linarith
        rw [zero, neg_zero, neg_zero, zero_mul]
      · rfl
    · show link.data.loopFlow hour = -link.data.loopFlow hour
      rw [symmetric.loopFlow hour, neg_zero]
    · show link.data.pShiftMinus hour = -link.data.pShiftPlus hour
      rw [symmetric.pShift hour, neg_neg]

end AreaLink

/-- The part of a constraint that is on links, for the flows over them. -/
def BindingConstraint.linkValue (constraint : BindingConstraint) (flows : Nat → ℚ) : ℚ :=
  (constraint.linkWeights.map fun weight => weight.2 * flows weight.1).sum

namespace Study

def turned (study : Study) (flows : Nat → ℚ) (address : Nat) : ℚ :=
  match study.linkAt address with
  | some link => if link.with' < link.from' then -flows address else flows address
  | none => flows address

def Joined (study : Study) (first second : Text) : Prop :=
  ∃ link ∈ study.links, (link.from' = first ∧ link.with' = second) ∨ (link.from' = second ∧ link.with' = first)

/-- The network means the same after the run, with every link in the area of the smaller identifier. -/
structure Preserves (before after : Study) : Prop where
  oriented : ∀ area ∈ after.areas, ∀ link ∈ area.links, link.from' = area.id ∧ link.from' < link.with'
  joined : ∀ first second, after.Joined first second ↔ before.Joined first second
  kept : ∀ link ∈ before.links, link.from' < link.with' → link ∈ after.links
  reversed : ∀ link ∈ before.links, link.with' < link.from' →
    ∃ other ∈ after.links, other.address = link.address ∧ link.SameMeaning other
  constraints : List.Forall₂ (fun old new : BindingConstraint => new.name = old.name ∧ new.clusterWeights = old.clusterWeights ∧
    ∀ flows, new.linkValue (before.turned flows) = old.linkValue flows) before.bindingConstraints after.bindingConstraints

def turnedLink (link : AreaLink) : AreaLink := if link.with' < link.from' then link.reverse else link

section
variable {study : Study} {link : AreaLink} (paired : study.Paired)
include paired

theorem address_mem_wrongLinks (known : link ∈ study.links) :
    link.address ∈ study.wrongLinks.map AreaLink.address ↔ link.with' < link.from' := by
  rw [List.mem_map]
  constructor
  · rintro ⟨other, inside, same⟩
    obtain ⟨otherKnown, isWrong⟩ := mem_wrongLinks.mp inside
    rw [← paired.valid.addresses link known other otherKnown same]
    exact isWrong
  · intro isWrong
    exact ⟨link, mem_wrongLinks.mpr ⟨known, isWrong⟩, rfl⟩

theorem paired_afterReversals : (study.afterReversals study.wrongLinks).Paired :=
  (paired_foldl paired (reversible_wrongLinks paired)).negate _

theorem mem_links_afterReversals {other : AreaLink} :
    other ∈ (study.afterReversals study.wrongLinks).links ↔ ∃ link ∈ study.links, turnedLink link = other := by
  have after := paired_foldl paired (reversible_wrongLinks paired)
  have atAddress (address : Nat) := linkAt_foldl paired (reversible_wrongLinks paired) address
  have addresses (link : AreaLink) : (turnedLink link).address = link.address := by
    unfold turnedLink
    split_ifs
    · rfl
    · rfl
  have turnedAt {link : AreaLink} (known : link ∈ study.links) :
      (if link.address ∈ study.wrongLinks.map AreaLink.address then link.reverse else link) = turnedLink link := by
    unfold turnedLink
    simp only [address_mem_wrongLinks paired known]
  show other ∈ (study.wrongLinks.foldl reverseLink study).links ↔ _
  have inside : other ∈ (study.wrongLinks.foldl reverseLink study).links ↔
      (study.wrongLinks.foldl reverseLink study).linkAt other.address = some other :=
    ⟨fun member => (linkAt_eq_some_iff after.valid.addresses).mpr ⟨member, rfl⟩,
      fun found => ((linkAt_eq_some_iff after.valid.addresses).mp found).1⟩
  rw [inside, atAddress, Option.map_eq_some_iff]
  constructor
  · rintro ⟨link, found, turned⟩
    obtain ⟨known, same⟩ := (linkAt_eq_some_iff paired.valid.addresses).mp found
    rw [← same, turnedAt known] at turned
    exact ⟨link, known, turned⟩
  · rintro ⟨link, known, rfl⟩
    refine ⟨link, (linkAt_eq_some_iff paired.valid.addresses).mpr ⟨known, (addresses link).symm⟩, ?_⟩
    rw [addresses, turnedAt known]

theorem linkValue_negate {constraint : BindingConstraint} (inside : constraint ∈ study.bindingConstraints) (flows : Nat → ℚ) :
    (constraint.negate (study.wrongLinks.map AreaLink.address)).linkValue (study.turned flows) = constraint.linkValue flows := by
  unfold BindingConstraint.linkValue BindingConstraint.negate
  dsimp only
  rw [List.map_map]
  congr 1
  refine List.map_congr_left fun weight weighted => ?_
  obtain ⟨link, known, same⟩ := paired.valid.linkWeights constraint inside weight weighted
  have found := (linkAt_eq_some_iff paired.valid.addresses).mpr ⟨known, same⟩
  have wrongAddress := address_mem_wrongLinks paired known
  rw [same] at wrongAddress
  have turnedFlow : study.turned flows weight.1 = if link.with' < link.from' then -flows weight.1 else flows weight.1 := by
    unfold turned
    rw [found]
  rw [Function.comp_apply]
  by_cases isWrong : link.with' < link.from'
  · rw [if_pos (wrongAddress.mpr isWrong), turnedFlow, if_pos isWrong, neg_mul_neg]
  · rw [if_neg fun listed => isWrong (wrongAddress.mp listed), turnedFlow, if_neg isWrong]

theorem preserves_afterReversals (symmetric : ∀ link ∈ study.wrongLinks, link.Symmetric) :
    Preserves study (study.afterReversals study.wrongLinks) where
  oriented area member link owned := by
    have after := paired_afterReversals paired
    obtain ⟨known, owner⟩ := (after.valid.mem_area_links member).mp owned
    obtain ⟨old, oldKnown, rfl⟩ := (mem_links_afterReversals paired).mp known
    refine ⟨owner, ?_⟩
    have ends := paired.valid.with_ne_from oldKnown
    unfold turnedLink
    split_ifs with isWrong
    · exact isWrong
    · exact lt_of_le_of_ne (not_lt.mp isWrong) ends.symm
  joined first second := by
    unfold Joined
    constructor
    · rintro ⟨other, inside, ends⟩
      obtain ⟨link, known, rfl⟩ := (mem_links_afterReversals paired).mp inside
      refine ⟨link, known, ?_⟩
      unfold turnedLink at ends
      split_ifs at ends with isWrong
      · exact ends.symm.imp And.symm And.symm
      · exact ends
    · rintro ⟨link, known, ends⟩
      refine ⟨turnedLink link, (mem_links_afterReversals paired).mpr ⟨link, known, rfl⟩, ?_⟩
      unfold turnedLink
      split_ifs with isWrong
      · exact ends.symm.imp And.symm And.symm
      · exact ends
  kept link known right := by
    have same : turnedLink link = link := if_neg right.not_gt
    exact (mem_links_afterReversals paired).mpr ⟨link, known, same⟩
  reversed link known isWrong := by
    have same : turnedLink link = link.reverse := if_pos isWrong
    refine ⟨link.reverse, (mem_links_afterReversals paired).mpr ⟨link, known, same⟩, rfl, ?_⟩
    exact AreaLink.sameMeaning_reverse_iff.mpr (symmetric link (mem_wrongLinks.mpr ⟨known, isWrong⟩))
  constraints := by
    unfold afterReversals withNegated
    dsimp only
    rw [bindingConstraints_foldl, List.forall₂_map_right_iff, List.forall₂_same]
    intro constraint inside
    exact ⟨rfl, rfl, linkValue_negate paired inside⟩

theorem symmetric_of_preserves (preserves : ∃ after, study.fixOrientationForAllInterconnections = .ok after ∧ Preserves study after) :
    OrderKept study study.wrongLinks ∧ ∀ link ∈ study.wrongLinks, link.Symmetric := by
  have reversible := reversible_wrongLinks paired
  obtain ⟨after, result, preserves⟩ := preserves
  rw [fixOrientation_eq paired] at result
  have kept : OrderKept study study.wrongLinks := by
    by_contra broken
    rw [foldlM_reverseOne_error paired reversible broken] at result
    cases result
  refine ⟨kept, fun link inside => ?_⟩
  rw [foldlM_reverseOne paired reversible kept] at result
  obtain rfl := Except.ok.inj result
  obtain ⟨known, isWrong⟩ := mem_wrongLinks.mp inside
  obtain ⟨other, otherInside, sameAddress, meaning⟩ := preserves.reversed link known isWrong
  have reverseInside : link.reverse ∈ (study.afterReversals study.wrongLinks).links :=
    (mem_links_afterReversals paired).mpr ⟨link, known, if_pos isWrong⟩
  have same := (paired_afterReversals paired).valid.addresses link.reverse reverseInside other otherInside sameAddress
  rw [same] at meaning
  exact AreaLink.sameMeaning_reverse_iff.mp meaning

/-- The run always ends, and it keeps the meaning of the network exactly when the maps of weights stay in
order and the data that are not exchanged are the same in both directions.
-/
theorem fixOrientation_preserves_iff :
    study.fixOrientationForAllInterconnections ≠ .error .noEnd ∧
      ((∃ after, study.fixOrientationForAllInterconnections = .ok after ∧ Preserves study after) ↔
        OrderKept study study.wrongLinks ∧ ∀ link ∈ study.wrongLinks, link.Symmetric) := by
  refine ⟨fixOrientation_ends paired, symmetric_of_preserves paired, ?_⟩
  rintro ⟨kept, symmetric⟩
  rw [fixOrientation_eq paired]
  exact ⟨_, foldlM_reverseOne paired (reversible_wrongLinks paired) kept, preserves_afterReversals paired symmetric⟩

end

end Study

/-! Two areas, and a link that the second one owns. -/

variable (data : LinkData)

def backLink : AreaLink where
  address := 1
  from' := ['b']
  with' := ['a']
  data := data

def backStudy : Study where
  areas :=
    [{ id := ['a'], name := ['A'], index := 0, clusters := [], links := [] },
      { id := ['b'], name := ['B'], index := 1, clusters := [], links := [backLink data] }]
  bindingConstraints := [{ name := ['c'], linkWeights := [(1, 1)], clusterWeights := [] }]

theorem backStudy_paired : (backStudy data).Paired where
  valid :=
    { areasSorted := (by decide : [['a'], ['b']].Pairwise fun first second : Text => first < second)
      ids := by
        simp only [backStudy, List.forall_mem_cons]
        exact ⟨⟨⟨by decide, by decide, by decide⟩, by decide⟩, ⟨⟨by decide, by decide, by decide⟩, by decide⟩, by simp⟩
      linksSorted := by simp [backStudy, OrderedMap.Sorted]
      owned := by simp [backStudy, backLink]
      ends := by simp [backStudy, backLink]
      addresses := by simp [backStudy, Study.links]
      linkWeights := by simp [backStudy, Study.links, backLink]
      clusterWeights := by simp [backStudy] }
  names := by simp [backStudy]
  onePerPair := by simp [backStudy, Study.links, backLink]

def oneWayData : LinkData :=
  { idleLinkData with hurdlesCostDirect := fun _ => 1, useHurdlesCost := true }

namespace Study

theorem backLink_mem_wrongLinks (data : LinkData) : backLink data ∈ (backStudy data).wrongLinks :=
  mem_wrongLinks.mpr ⟨by simp [backStudy, links], (by decide : (['a'] : Text) < ['b'])⟩

theorem backStudy_preserved : ∃ after, (backStudy idleLinkData).fixOrientationForAllInterconnections = .ok after ∧
    Preserves (backStudy idleLinkData) after := by
  refine (fixOrientation_preserves_iff (backStudy_paired idleLinkData)).2.mpr ⟨?_, fun link inside => ?_⟩
  · have wrong : (backStudy idleLinkData).wrongLinks = [backLink idleLinkData] := rfl
    rw [wrong]
    refine ⟨fun constraint inside => ?_, trivial⟩
    obtain rfl := List.mem_singleton.mp inside
    exact List.pairwise_singleton _ _
  · obtain ⟨known, -⟩ := mem_wrongLinks.mp inside
    have same : link = backLink idleLinkData := by simpa [backStudy, links] using known
    rw [same]
    exact ⟨fun _ _ => rfl, fun _ => rfl, fun _ => neg_zero.symm⟩

/-- The cost of the direct direction stays with the direction that is called direct. -/
theorem oneWayStudy_not_preserved : ¬∃ after, (backStudy oneWayData).fixOrientationForAllInterconnections = .ok after ∧
    Preserves (backStudy oneWayData) after := by
  intro preserves
  have symmetric := (symmetric_of_preserves (backStudy_paired oneWayData) preserves).2 _ (backLink_mem_wrongLinks oneWayData)
  exact absurd (symmetric.hurdlesCost rfl 0) one_ne_zero

end Study

end Antares.Interconnections
