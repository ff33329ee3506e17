import Antares.BindingConstraints.Loader
import Antares.Optimisation.Decompte
import Mathlib.Data.Int.ModEq

/-! The time steps that the rows of a binding constraint read, for the offsets that its file may have. -/

set_option autoImplicit false

namespace Antares.Optimisation

open Library

/-- The step of the optimisation that is `offset` hours away, where the optimisation is a cycle. -/
structure IsShiftedStep (steps hour : Nat) (offset step : Int) : Prop where
  low : 0 ≤ step
  high : step < steps
  congruent : step ≡ hour + offset [ZMOD steps]

theorem isShiftedStep_iff {steps hour : Nat} (positive : 0 < steps) {offset step : Int} :
    IsShiftedStep steps hour offset step ↔ step = (hour + offset) % steps := by
  have some : (steps : Int) ≠ 0 := by omega
  constructor
  · intro shifted
    have same : step % steps = (hour + offset) % steps := shifted.congruent
    rwa [Int.emod_eq_of_lt shifted.low shifted.high] at same
  · rintro rfl
    exact ⟨Int.emod_nonneg _ some, Int.emod_lt_of_pos _ (by omega), Int.mod_modEq _ _⟩

section Remainders

theorem tmod_natCast (a : Int) (n : Nat) : a.tmod n = if 0 ≤ a then a % n else -((-a) % n) := by
  split_ifs with sign
  · exact Int.tmod_eq_emod_of_nonneg sign
  · have opposite : (-a).tmod n = (-a) % n := Int.tmod_eq_emod_of_nonneg (by omega)
    rw [← opposite, Int.neg_tmod, neg_neg]

theorem bmod_of_int32 {value : Int} (small : BindingConstraints.IsInt32 value) : Int.bmod value (2 ^ 32) = value :=
  Int.bmod_eq_of_le (by have := small.1; omega) (by have := small.2; omega)

theorem neg_emod_eq_emod_iff {n : Nat} (positive : 0 < n) (a : Int) : -((-a) % n) = a % n ↔ (n : Int) ∣ a := by
  have some : (n : Int) ≠ 0 := by omega
  have low := Int.emod_nonneg a some
  have opposite := Int.emod_nonneg (-a) some
  constructor
  · intro same
    exact Int.dvd_of_emod_eq_zero (by omega)
  · intro divides
    rw [Int.emod_eq_zero_of_dvd divides, Int.emod_eq_zero_of_dvd (Int.dvd_neg.mpr divides), neg_zero]

variable (range : SimplexOptimization) {hour : Nat} {offset : Int}

theorem steps_cases : range.nombreDePasDeTempsPourUneOptimisation = 24 ∨ range.nombreDePasDeTempsPourUneOptimisation = 168 := by
  cases range with
  | sorDay => exact .inl rfl
  | sorWeek => exact .inr rfl

/-- A sum that leaves the integers of 32 bits reads another step, since the steps are no power of two. -/
theorem isShiftedStep_of_pos_iff (inside : hour < range.nombreDePasDeTempsPourUneOptimisation) (positive : 0 < offset)
    (small : BindingConstraints.IsInt32 offset) :
    IsShiftedStep range.nombreDePasDeTempsPourUneOptimisation hour offset
        (getShiftedTimeStep range.nombreDePasDeTempsPourUneOptimisation hour offset nbHoursInWeek) ↔
      hour + offset < 2 ^ 31 := by
  rw [isShiftedStep_iff range.steps_pos]
  unfold getShiftedTimeStep
  rw [if_neg positive.ne', if_pos positive.le]
  by_cases fits : hour + offset < 2 ^ 31
  · rw [bmod_of_int32 ⟨by omega, fits⟩, tmod_natCast, if_pos (by omega)]
    exact iff_of_true rfl fits
  · have wrapped : Int.bmod (hour + offset) (2 ^ 32) = hour + offset - 2 ^ 32 := by
      have high := small.2
      have steps := steps_cases range
      rw [← Int.sub_bmod_right]
      exact bmod_of_int32 ⟨by omega, by omega⟩
    rw [wrapped, tmod_natCast, if_neg (by have := small.2; have := steps_cases range; omega)]
    refine iff_of_false ?_ fits
    rcases steps_cases range with steps | steps
    · rw [steps]
      omega
    · rw [steps]
      omega

theorem isShiftedStep_of_neg_iff (inside : hour < range.nombreDePasDeTempsPourUneOptimisation) (negative : offset < 0)
    (small : BindingConstraints.IsInt32 offset) :
    IsShiftedStep range.nombreDePasDeTempsPourUneOptimisation hour offset
        (getShiftedTimeStep range.nombreDePasDeTempsPourUneOptimisation hour offset nbHoursInWeek) ↔
      0 ≤ hour + offset + nbHoursInWeek ∨
        (range.nombreDePasDeTempsPourUneOptimisation : Int) ∣ hour + offset + nbHoursInWeek := by
  have low := small.1
  have hours : (nbHoursInWeek : Int) = 168 := rfl
  have turns : (hour + offset + nbHoursInWeek) % range.nombreDePasDeTempsPourUneOptimisation =
      (hour + offset) % range.nombreDePasDeTempsPourUneOptimisation := by
    rcases steps_cases range with steps | steps
    · rw [steps, hours]
      omega
    · rw [steps, hours]
      omega
  rw [isShiftedStep_iff range.steps_pos]
  unfold getShiftedTimeStep
  have steps := steps_cases range
  have sum : Int.bmod (hour + offset) (2 ^ 32) = hour + offset := bmod_of_int32 ⟨by omega, by omega⟩
  rw [if_neg negative.ne, if_neg negative.not_ge, sum, bmod_of_int32 ⟨by omega, by omega⟩, tmod_natCast, ← turns]
  by_cases ahead : (0 : Int) ≤ hour + offset + nbHoursInWeek
  · rw [if_pos ahead]
    exact iff_of_true rfl (.inl ahead)
  · rw [if_neg ahead, neg_emod_eq_emod_iff range.steps_pos]
    exact ⟨.inr, fun either => either.resolve_left ahead⟩

def OffsetInRange (offset : Int) : Prop :=
  -nbHoursInWeek ≤ offset ∧ offset + range.nombreDePasDeTempsPourUneOptimisation ≤ 2 ^ 31

instance (offset : Int) : Decidable (OffsetInRange range offset) := inferInstanceAs (Decidable (_ ∧ _))

theorem forall_isShiftedStep_iff (small : BindingConstraints.IsInt32 offset) :
    (∀ hour < range.nombreDePasDeTempsPourUneOptimisation,
      IsShiftedStep range.nombreDePasDeTempsPourUneOptimisation hour offset
        (getShiftedTimeStep range.nombreDePasDeTempsPourUneOptimisation hour offset nbHoursInWeek)) ↔
      OffsetInRange range offset := by
  have steps := steps_cases range
  have hours : (nbHoursInWeek : Int) = 168 := rfl
  unfold OffsetInRange
  rcases lt_trichotomy offset 0 with negative | rfl | positive
  · constructor
    · intro right
      -- a turn below zero cannot be right at two hours that follow each other
      have first := (isShiftedStep_of_neg_iff range range.steps_pos negative small).mp (right 0 range.steps_pos)
      have second := (isShiftedStep_of_neg_iff range (by omega) negative small).mp (right 1 (by omega))
      rcases steps with steps | steps
      · rw [steps] at first second ⊢
        omega
      · rw [steps] at first second ⊢
        omega
    · intro inRange hour inside
      exact (isShiftedStep_of_neg_iff range inside negative small).mpr (.inl (by omega))
  · refine iff_of_true (fun hour inside => ?_) (by omega)
    have same : getShiftedTimeStep range.nombreDePasDeTempsPourUneOptimisation hour 0 nbHoursInWeek = hour := by
      unfold getShiftedTimeStep
      rw [if_pos rfl, add_zero, bmod_of_int32 ⟨by omega, by omega⟩]
    rw [same]
    exact ⟨by omega, by omega, by rw [add_zero]⟩
  · constructor
    · intro right
      have last := (isShiftedStep_of_pos_iff range (by omega) positive small).mp
        (right (range.nombreDePasDeTempsPourUneOptimisation - 1) (by omega))
      omega
    · intro inRange hour inside
      exact (isShiftedStep_of_pos_iff range inside positive small).mpr (by omega)

end Remainders

section Rows

theorem append_eq_append_iff_of_length {α : Type} {first second firstRest secondRest : List α}
    (length : first.length = second.length) :
    first ++ firstRest = second ++ secondRest ↔ first = second ∧ firstRest = secondRest :=
  ⟨fun same => List.append_inj same length, fun same => congrArg₂ (· ++ ·) same.1 same.2⟩

theorem flatMap_map_eq_iff {α β γ : Type} (first second : α → β → γ) (items : List α) (places : List β) :
    (items.flatMap fun item => places.map (first item)) = (items.flatMap fun item => places.map (second item)) ↔
      ∀ item ∈ items, ∀ place ∈ places, first item place = second item place := by
  induction items with
  | nil => simp
  | cons item rest later =>
    rw [List.flatMap_cons, List.flatMap_cons, append_eq_append_iff_of_length (by simp), later, List.map_inj_left, List.forall_mem_cons]

def ContrainteCouplante.offsets (contrainte : ContrainteCouplante) : List Int :=
  contrainte.interconnexions.map (·.offsetTemporel) ++ contrainte.paliers.map (·.offsetTemporel)

namespace WeeklyProblem

variable (problem : WeeklyProblem) (contrainte : ContrainteCouplante)

def heuresDesLignes : List (List Nat) :=
  match contrainte.typeDeContrainteCouplante with
  | .horaire => (List.range problem.pas).map fun pdt => [pdt]
  | .journaliere => problem.debutsDesJours.map fun pdtDebut => List.range' pdtDebut nombreDePasDeTempsDUneJournee
  | .hebdomadaire => [List.range problem.pas]

theorem termes_of_ligne {ligne : Ligne} {cntCouplante : Nat}
    (emitted : (∃ pdt < problem.pas, ligne ∈ problem.bindingConstraintHour pdt contrainte cntCouplante) ∨
      ligne ∈ problem.bindingConstraintDay contrainte cntCouplante ∨
      ligne ∈ problem.bindingConstraintWeek contrainte cntCouplante) :
    ∃ heures ∈ problem.heuresDesLignes contrainte,
      ligne.termes = problem.addVariables (problem.termesDesHeures contrainte heures) := by
  have built {name : Contrainte} {heures : List Nat}
      (member : ligne ∈ problem.build name contrainte.sens (problem.termesDesHeures contrainte heures)) :
      ligne.termes = problem.addVariables (problem.termesDesHeures contrainte heures) := by
    unfold build at member
    dsimp only at member
    split_ifs at member
    · exact absurd member List.not_mem_nil
    · rw [List.mem_singleton.mp member]
  unfold heuresDesLignes
  obtain ⟨pdt, inside, member⟩ | member | member := emitted
  · unfold bindingConstraintHour at member
    split_ifs at member with kind
    · rw [kind]
      exact ⟨[pdt], List.mem_map.mpr ⟨pdt, List.mem_range.mpr inside, rfl⟩, built member⟩
    · exact absurd member List.not_mem_nil
  · unfold bindingConstraintDay at member
    split_ifs at member with kind
    · obtain ⟨pdtDebut, day, row⟩ := List.mem_flatMap.mp member
      rw [kind]
      exact ⟨_, List.mem_map.mpr ⟨pdtDebut, day, rfl⟩, built row⟩
    · exact absurd member List.not_mem_nil
  · unfold bindingConstraintWeek at member
    split_ifs at member with kind
    · rw [kind]
      exact ⟨_, List.mem_singleton.mpr rfl, built member⟩
    · exact absurd member List.not_mem_nil

theorem mem_heuresDesLignes {pdt : Nat} :
    (∃ heures ∈ problem.heuresDesLignes contrainte, pdt ∈ heures) ↔ pdt < problem.pas := by
  unfold heuresDesLignes
  cases contrainte.typeDeContrainteCouplante with
  | horaire => simp
  | journaliere =>
    have days : problem.pas = problem.range.nombreDeJoursParIntervalle * nombreDePasDeTempsDUneJournee := by
      unfold pas
      cases problem.range <;> decide
    have hours : nombreDePasDeTempsDUneJournee = 24 := rfl
    simp only [debutsDesJours, List.mem_map, List.mem_range, List.mem_range'_1, hours, exists_exists_and_eq_and, days]
    constructor
    · rintro ⟨jour, inside, from', before⟩
      omega
    · intro inside
      exact ⟨pdt / 24, by omega, by omega, by omega⟩
  | hebdomadaire => simp

/-- The terms of some hours where each term reads the step of `step`. -/
def termesAuPas (step : Nat → Int → Int) (heures : List Nat) : Terms Variable Rat :=
  (contrainte.interconnexions.flatMap fun terme => heures.map fun pdt =>
      (.ntcDirect (step pdt terme.offsetTemporel) terme.numeroDeLInterconnexion, terme.poids)) ++
    contrainte.paliers.flatMap fun terme => heures.map fun pdt =>
      (.dispatchableProduction (step pdt terme.offsetTemporel)
        (problem.numeroDuPalier terme.pays terme.numeroDuPalierDispatch), terme.poids)

theorem termesAuPas_eq_iff (first second : Nat → Int → Int) (heures : List Nat) :
    problem.termesAuPas contrainte first heures = problem.termesAuPas contrainte second heures ↔
      ∀ offset ∈ contrainte.offsets, ∀ pdt ∈ heures, first pdt offset = second pdt offset := by
  unfold termesAuPas ContrainteCouplante.offsets
  rw [append_eq_append_iff_of_length (by simp), flatMap_map_eq_iff, flatMap_map_eq_iff]
  simp only [Prod.mk.injEq, Variable.ntcDirect.injEq, Variable.dispatchableProduction.injEq, and_true]
  rw [List.forall_mem_append, List.forall_mem_map, List.forall_mem_map]

/-- In every row, each term reads the one step of the optimisation that its offset leads to. -/
def ReadsShiftedHours : Prop :=
  ∀ heures ∈ problem.heuresDesLignes contrainte, ∀ step : Nat → Int → Int,
    (∀ pdt offset, IsShiftedStep problem.pas pdt offset (step pdt offset)) →
      problem.termesDesHeures contrainte heures = problem.termesAuPas contrainte step heures

theorem readsShiftedHours_iff (small : ∀ offset ∈ contrainte.offsets, BindingConstraints.IsInt32 offset) :
    problem.ReadsShiftedHours contrainte ↔ ∀ offset ∈ contrainte.offsets, OffsetInRange problem.range offset := by
  have one {pdt : Nat} {offset step : Int} : IsShiftedStep problem.pas pdt offset step ↔ step = (pdt + offset) % problem.pas :=
    isShiftedStep_iff problem.range.steps_pos
  have terms (heures : List Nat) : problem.termesDesHeures contrainte heures = problem.termesAuPas contrainte
      (fun pdt offset => getShiftedTimeStep problem.pas pdt offset nbHoursInWeek) heures := rfl
  constructor
  · intro reads offset member
    refine (forall_isShiftedStep_iff problem.range (small offset member)).mp fun hour inside => ?_
    obtain ⟨heures, row, hourOfRow⟩ := (problem.mem_heuresDesLignes contrainte).mpr inside
    have same := reads heures row (fun pdt offset => (pdt + offset) % problem.pas) fun pdt offset => one.mpr rfl
    rw [terms, termesAuPas_eq_iff] at same
    exact one.mpr (same offset member hour hourOfRow)
  · intro inRange heures row step shifted
    rw [terms, termesAuPas_eq_iff]
    intro offset member pdt hourOfRow
    have inside := (problem.mem_heuresDesLignes contrainte).mp ⟨heures, row, hourOfRow⟩
    have right := (forall_isShiftedStep_iff problem.range (small offset member)).mpr (inRange offset member) pdt inside
    rw [one.mp (shifted pdt offset)]
    exact one.mp right

end WeeklyProblem

end Rows

end Antares.Optimisation

namespace Antares.BindingConstraints

open Library Data Optimisation

/-- The terms of the weekly problem are those of the constraint. Their weights are left open. -/
structure HasTermsOf (contrainte : ContrainteCouplante) (structures : BindingConstraintStructures) : Prop where
  links : contrainte.interconnexions.map (fun terme => (terme.numeroDeLInterconnexion, terme.offsetTemporel)) =
    structures.links.map fun term => (term.linkIndex, term.linkOffset)
  clusters : contrainte.paliers.map (fun terme => (terme.pays, terme.numeroDuPalierDispatch, terme.offsetTemporel)) =
    structures.clusters.map fun term => (term.clustersAreaIndex, term.clusterIndex, term.clusterOffset)

theorem isInt32_lookup {entries : List (Nat × Int)} (small : ∀ entry ∈ entries, IsInt32 entry.2) (key : Nat) :
    IsInt32 ((KeyedMap.lookup entries key).getD 0) := by
  cases found : KeyedMap.lookup entries key with
  | none => exact ⟨by decide, by decide⟩
  | some offset =>
    obtain ⟨entry, first, rfl⟩ := Option.map_eq_some_iff.mp found
    exact small entry (List.mem_of_find?_eq_some first)

theorem isInt32_of_hasTermsOf {study : Study} {bc : BindingConstraint} (small : OffsetsAreInt32 bc)
    {contrainte : ContrainteCouplante} (terms : HasTermsOf contrainte (bc.initLinkArrays study)) :
    ∀ offset ∈ contrainte.offsets, IsInt32 offset := by
  unfold ContrainteCouplante.offsets
  rw [List.forall_mem_append]
  constructor
  · have offsets := congrArg (List.map Prod.snd) terms.links
    rw [List.map_map, List.map_map] at offsets
    change contrainte.interconnexions.map (·.offsetTemporel) = _ at offsets
    rw [offsets]
    simp only [BindingConstraint.initLinkArrays, List.map_map, List.forall_mem_map]
    exact fun entry _ => isInt32_lookup small.links entry.1
  · have offsets := congrArg (List.map fun place : Nat × Nat × Int => place.2.2) terms.clusters
    rw [List.map_map, List.map_map] at offsets
    change contrainte.paliers.map (·.offsetTemporel) = _ at offsets
    rw [offsets]
    simp only [BindingConstraint.initLinkArrays, List.map_append, List.map_map, List.forall_mem_append, List.forall_mem_map]
    constructor
    · exact fun entry _ => isInt32_lookup small.clusters entry.1
    · intro entry member
      rw [List.eq_of_mem_replicate member]
      exact ⟨by decide, by decide⟩

/-- Every row of a loaded constraint reads the steps of its offsets exactly when no offset goes back
more than a week, and none goes so far ahead that an hour leaves the integers of 32 bits.
-/
theorem loaded_reads_shifted_hours_iff (problem : WeeklyProblem) (env : EnvForLoading) {properties : List IniFile.Property}
    {bc : BindingConstraint} (loaded : bc ∈ env.load properties) {contrainte : ContrainteCouplante}
    (terms : HasTermsOf contrainte (bc.initLinkArrays env.study)) :
    problem.ReadsShiftedHours contrainte ↔ ∀ offset ∈ contrainte.offsets, OffsetInRange problem.range offset :=
  problem.readsShiftedHours_iff contrainte (isInt32_of_hasTermsOf (offsetsAreInt32_load env loaded) terms)

section OneLink

def oneLinkEnv : EnvForLoading where
  study := { link := fun _ => { index := 0, from' := 0, with' := 1 }, cluster := fun _ => default }
  findLinkFromINIKey := fun key => if key = "north%south".toList then some 0 else none
  findClusterFromINIKey := fun _ => none
  loadTimeSeries := fun _ => true

def lagProperties (value : String) : List IniFile.Property :=
  [⟨"name".toList, "lag".toList⟩, ⟨"id".toList, "lag".toList⟩, ⟨"type".toList, "hourly".toList⟩,
    ⟨"operator".toList, "less".toList⟩, ⟨"north%south".toList, value.toList⟩]

def lag (offset : Int) : BindingConstraint where
  name := "lag".toList
  id := "lag".toList
  linkWeights := [(0, .finite 1)]
  linkOffsets := [(0, offset)]
  type := .typeHourly
  operatorType := .opLess
  enabled := true

def lagContrainte (offset : Int) : ContrainteCouplante where
  typeDeContrainteCouplante := .horaire
  interconnexions := [{ numeroDeLInterconnexion := 0, poids := 1, offsetTemporel := offset }]
  paliers := []
  sens := .le
  interconnexions_nodup := List.nodup_singleton _
  interconnexions_poids := fun _ member => List.mem_singleton.mp member ▸ one_ne_zero
  paliers_nodup := List.nodup_nil
  paliers_poids := ContrainteCouplante.sansPalier_poids

theorem hasTermsOf_lag (offset : Int) : HasTermsOf (lagContrainte offset) ((lag offset).initLinkArrays oneLinkEnv.study) := ⟨rfl, rfl⟩

/-- A lag of a day is read at every hour. -/
theorem lag_of_a_day_is_read :
    lag (-24) ∈ oneLinkEnv.load (lagProperties "1%-24") ∧ WeeklyProblem.milpDayStudy.ReadsShiftedHours (lagContrainte (-24)) := by
  have loaded : lag (-24) ∈ oneLinkEnv.load (lagProperties "1%-24") := by decide +kernel
  exact ⟨loaded, (loaded_reads_shifted_hours_iff WeeklyProblem.milpDayStudy oneLinkEnv loaded (hasTermsOf_lag (-24))).mpr (by decide)⟩

/-- A lag of more than a week is loaded, and reads a step before the first one. -/
theorem lag_of_200_hours_is_not_read :
    lag (-200) ∈ oneLinkEnv.load (lagProperties "1%-200") ∧
      HasTermsOf (lagContrainte (-200)) ((lag (-200)).initLinkArrays oneLinkEnv.study) ∧
      getShiftedTimeStep WeeklyProblem.milpDayStudy.pas 0 (-200) nbHoursInWeek = -8 ∧
      ¬ WeeklyProblem.milpDayStudy.ReadsShiftedHours (lagContrainte (-200)) := by
  refine ⟨by decide +kernel, hasTermsOf_lag (-200), by decide, fun reads => ?_⟩
  have inRange := (WeeklyProblem.milpDayStudy.readsShiftedHours_iff (lagContrainte (-200)) (by decide)).mp reads
  exact absurd (inRange (-200) (by decide)) (by decide)

end OneLink

end Antares.BindingConstraints
