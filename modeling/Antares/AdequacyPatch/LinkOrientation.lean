import Antares.AdequacyPatch.WeekProblems
import Antares.Data.Parameters

/-! The capacities of a link in the first and the second step of the patch, declared from either end. -/

set_option autoImplicit false

namespace Antares.AdequacyPatch

open Library

/-- A link as it is declared: the modes of its ends, and its capacities, which may be infinite. -/
structure DeclaredLink where
  originAreaMode : AdequacyPatchMode
  extremityAreaMode : AdequacyPatchMode
  valeurDeNTCOrigineVersExtremite : Option Rat
  valeurDeNTCExtremiteVersOrigine : Option Rat

namespace DeclaredLink

variable (params : Data.AdqPatchParams) (adequacyFirstStep : Bool) (link : DeclaredLink)

def swap : DeclaredLink where
  originAreaMode := link.extremityAreaMode
  extremityAreaMode := link.originAreaMode
  valeurDeNTCOrigineVersExtremite := link.valeurDeNTCExtremiteVersOrigine
  valeurDeNTCExtremiteVersOrigine := link.valeurDeNTCOrigineVersExtremite

/-- `setNTCbounds` under every setting of the patch. -/
def bounds : Bounds Rat :=
  let localMatching : LocalMatching :=
    { setToZeroOutsideInsideLinks := params.localMatching.setToZeroOutsideInsideLinks
      setToZeroOutsideOutsideLinks := params.localMatching.setToZeroOutsideOutsideLinks }
  setNTCbounds (params.enabled && params.localMatching.enabled && adequacyFirstStep)
    (getNTCtoZeroStatus localMatching link.originAreaMode link.extremityAreaMode)
    link.valeurDeNTCOrigineVersExtremite link.valeurDeNTCExtremiteVersOrigine

/-- The capacity of a link between the outside and the inside of the patch, towards the inside. -/
def towardsInside : Option (Option Rat) :=
  match link.originAreaMode, link.extremityAreaMode with
  | .physicalAreaOutsideAdqPatch, .physicalAreaInsideAdqPatch => some link.valeurDeNTCOrigineVersExtremite
  | .physicalAreaInsideAdqPatch, .physicalAreaOutsideAdqPatch => some link.valeurDeNTCExtremiteVersOrigine
  | _, _ => none

end DeclaredLink

def Mirror (bounds : Bounds Rat) : Bounds Rat where
  lower := bounds.upper.map fun capacity => -capacity
  upper := bounds.lower.map fun capacity => -capacity

section
variable {direct indirect : Option Rat}

theorem map_neg_map_neg (capacity : Option Rat) :
    (capacity.map fun value => -value).map (fun value => -value) = capacity := by
  rw [Option.map_map]
  cases capacity with
  | none => rfl
  | some value => exact congrArg some (neg_neg value)

def NtcSetToZeroStatusAdqPatchStep1.swap : NtcSetToZeroStatusAdqPatchStep1 → NtcSetToZeroStatusAdqPatchStep1
  | .leaveLocalValues => .leaveLocalValues
  | .setToZero => .setToZero
  | .setOriginExtremityToZero => .setExtremityOriginToZero
  | .setExtremityOriginToZero => .setOriginExtremityToZero

theorem setNTCbounds_swap (firstStep : Bool) (status : NtcSetToZeroStatusAdqPatchStep1) :
    setNTCbounds firstStep status.swap indirect direct = Mirror (setNTCbounds firstStep status direct indirect) := by
  have twice := map_neg_map_neg indirect
  have zero : (some (0 : Rat)).map (fun capacity => -capacity) = some 0 := congrArg some neg_zero
  unfold setNTCbounds Mirror NtcSetToZeroStatusAdqPatchStep1.swap
  cases firstStep with
  | false => simp only [Bool.false_eq_true, if_false, twice]
  | true =>
    cases status with
    | leaveLocalValues => simp only [if_true, twice]
    | setToZero => simp only [if_true, zero]
    | setOriginExtremityToZero => simp only [if_true, twice, zero]
    | setExtremityOriginToZero => simp only [if_true, zero]

end

variable {localMatching : LocalMatching}

/-- Inside the patch, or outside of it, both ends are treated alike, and so they are between the two where
nothing may come in.
-/
theorem getNTCtoZeroStatus_swap {origin extremity : AdequacyPatchMode}
    (alike : localMatching.setToZeroOutsideInsideLinks = true ∨ origin = extremity ∨
      origin = .virtualArea ∨ extremity = .virtualArea) :
    getNTCtoZeroStatus localMatching extremity origin = (getNTCtoZeroStatus localMatching origin extremity).swap := by
  obtain ⟨intoPatch, between⟩ := localMatching
  cases origin <;> cases extremity <;> cases intoPatch <;> cases between <;> simp_all <;> rfl

theorem setNTCbounds_fromInside {direct indirect : Option Rat}
    (mayComeIn : localMatching.setToZeroOutsideInsideLinks = false) :
    setNTCbounds true (getNTCtoZeroStatus localMatching .physicalAreaInsideAdqPatch .physicalAreaOutsideAdqPatch) direct indirect =
        { lower := some 0, upper := some 0 } ∧
      setNTCbounds true (getNTCtoZeroStatus localMatching .physicalAreaOutsideAdqPatch .physicalAreaInsideAdqPatch) direct indirect =
        { lower := some 0, upper := direct } := by
  refine ⟨rfl, ?_⟩
  unfold getNTCtoZeroStatus getNTCtoZeroStatusOriginNodeOutsideAdq
  rw [mayComeIn]
  rfl

theorem neg_eq_zero_iff {capacity : Option Rat} : capacity.map (fun value => -value) = some 0 ↔ capacity = some 0 := by
  cases capacity with
  | none => simp
  | some value => simp

namespace DeclaredLink

variable (params : Data.AdqPatchParams) (adequacyFirstStep : Bool) (link : DeclaredLink)

theorem towardsInside_of_alike {link : DeclaredLink}
    (alike : link.originAreaMode = link.extremityAreaMode ∨ link.originAreaMode = .virtualArea ∨
      link.extremityAreaMode = .virtualArea) : link.towardsInside = none := by
  obtain ⟨origin, extremity, direct, indirect⟩ := link
  unfold towardsInside
  cases origin <;> cases extremity <;> simp_all

theorem firstStep_swap_iff {link : DeclaredLink} {localMatching : LocalMatching}
    (mayComeIn : localMatching.setToZeroOutsideInsideLinks = false) :
    setNTCbounds true (getNTCtoZeroStatus localMatching link.extremityAreaMode link.originAreaMode)
        link.valeurDeNTCExtremiteVersOrigine link.valeurDeNTCOrigineVersExtremite =
      Mirror (setNTCbounds true (getNTCtoZeroStatus localMatching link.originAreaMode link.extremityAreaMode)
        link.valeurDeNTCOrigineVersExtremite link.valeurDeNTCExtremiteVersOrigine) ↔
      ∀ capacity ∈ link.towardsInside, capacity = some 0 := by
  by_cases alike : link.originAreaMode = link.extremityAreaMode ∨ link.originAreaMode = .virtualArea ∨
      link.extremityAreaMode = .virtualArea
  · rw [getNTCtoZeroStatus_swap (Or.inr alike), setNTCbounds_swap, towardsInside_of_alike alike]
    exact iff_of_true rfl fun capacity none => absurd none (Option.some_ne_none capacity).symm
  have zero : (some (0 : Rat)).map (fun capacity => -capacity) = some 0 := congrArg some neg_zero
  obtain ⟨origin, extremity, direct, indirect⟩ := link
  -- Only the two declarations of a link between the outside and the inside are left.
  cases origin <;> cases extremity <;> simp at alike
  · obtain ⟨fromInside, fromOutside⟩ := @setNTCbounds_fromInside localMatching direct indirect mayComeIn
    have fromInside' := (@setNTCbounds_fromInside localMatching indirect direct mayComeIn).1
    dsimp only [towardsInside]
    rw [fromInside', fromOutside, Mirror, Bounds.mk.injEq, zero, eq_comm, neg_eq_zero_iff]
    constructor
    · rintro ⟨none, -⟩ capacity same
      exact Option.some.inj same ▸ none
    · intro none
      exact ⟨none direct rfl, rfl⟩
  · have fromInside := (@setNTCbounds_fromInside localMatching direct indirect mayComeIn).1
    have fromOutside := (@setNTCbounds_fromInside localMatching indirect direct mayComeIn).2
    dsimp only [towardsInside]
    rw [fromInside, fromOutside, Mirror, Bounds.mk.injEq, zero]
    constructor
    · rintro ⟨-, none⟩ capacity same
      exact Option.some.inj same ▸ none
    · intro none
      exact ⟨rfl, none indirect rfl⟩

/-- The two declarations of a link agree unless something may come into the patch over it in the first
step: only a link that is declared from the outside lets it in.
-/
theorem bounds_swap_iff :
    bounds params adequacyFirstStep link.swap = Mirror (bounds params adequacyFirstStep link) ↔
      (params.enabled = true → params.localMatching.enabled = true → adequacyFirstStep = true →
        params.localMatching.setToZeroOutsideInsideLinks = false → ∀ capacity ∈ link.towardsInside, capacity = some 0) := by
  unfold bounds swap
  dsimp only
  cases active : params.enabled && params.localMatching.enabled && adequacyFirstStep with
  | false =>
    refine iff_of_true ?_ ?_
    · rw [← setNTCbounds_swap]
      rfl
    · intro enabled localMatching firstStep
      rw [enabled, localMatching, firstStep] at active
      exact absurd active (by decide)
  | true =>
    obtain ⟨both, firstStep⟩ := Bool.and_eq_true_iff.mp active
    obtain ⟨enabled, localMatching⟩ := Bool.and_eq_true_iff.mp both
    simp only [enabled, localMatching, firstStep, forall_const]
    cases comeIn : params.localMatching.setToZeroOutsideInsideLinks with
    | false =>
      rw [firstStep_swap_iff rfl]
      simp only [forall_const]
    | true =>
      refine iff_of_true ?_ fun zero => absurd zero (by decide)
      rw [getNTCtoZeroStatus_swap (Or.inl rfl), setNTCbounds_swap]

/-- An import of 50 that the first step keeps when the link is declared from the outside. -/
def importLink : DeclaredLink where
  originAreaMode := .physicalAreaInsideAdqPatch
  extremityAreaMode := .physicalAreaOutsideAdqPatch
  valeurDeNTCOrigineVersExtremite := some 100
  valeurDeNTCExtremiteVersOrigine := some 50

def importParams : Data.AdqPatchParams where
  enabled := true
  localMatching := { enabled := true, setToZeroOutsideInsideLinks := false, setToZeroOutsideOutsideLinks := true }
  curtailmentSharing :=
    { priceTakingOrder := .isDens, thresholdRun := 0, thresholdDisplayViolations := 0, thresholdVarBoundsRelaxation := 3
      includeHurdleCost := false, checkCsrCostFunction := false }

theorem importLink_not_swapped :
    bounds importParams true importLink = { lower := some 0, upper := some 0 } ∧
      bounds importParams true importLink.swap = { lower := some 0, upper := some 50 } ∧
      bounds importParams true importLink.swap ≠ Mirror (bounds importParams true importLink) := by
  refine ⟨rfl, rfl, fun same => ?_⟩
  have upper : some (50 : Rat) = some (-0) := congrArg Bounds.upper same
  exact absurd (Option.some.inj upper) (by norm_num)

end DeclaredLink

end Antares.AdequacyPatch
