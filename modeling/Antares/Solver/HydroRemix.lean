import Antares.Library.Bisection
import Antares.Library.InPlace
import Mathlib.Algebra.Order.BigOperators.Group.List
import Antares.Optimisation.Horizon

/-! The remix of the hydro generation of an area with its energy not served, over the hours of a day or
of a week, and the level that it is remixed to.
-/

set_option autoImplicit false

namespace Antares.Solver

open Library Optimisation

/-- An hour of an area, under the names of the loop: the energy not served and the spillage, the hydro
generation and its maximum, the load, and the dispatchable generation margin.
-/
structure RemixHour where
  D : ℚ
  S : ℚ
  H : ℚ
  P : ℚ
  L : ℚ
  M : ℚ
  deriving DecidableEq, Repr

namespace RemixHour

def epsilon : ℚ := 1 / 10 ^ 6

variable (hour : RemixHour) (niveau : ℚ)

def remixable : Bool := 0 < hour.H + hour.D && |hour.S + hour.M| < epsilon

def G : ℚ := hour.L - (hour.H + hour.D)

/-- `HE` and `DE` of an hour that is remixed to a level. -/
def energies : ℚ × ℚ :=
  if hour.L < niveau then
    if hour.P < hour.H + hour.D then (hour.P, hour.H + hour.D - hour.P) else (hour.H + hour.D, 0)
  else if niveau < hour.G then (0, hour.H + hour.D)
  else
    let HEi := if hour.P < niveau - hour.G then hour.P else niveau - hour.G
    (HEi, hour.H + hour.D - HEi)

def remix : RemixHour :=
  if hour.remixable then { hour with H := (hour.energies niveau).1, D := (hour.energies niveau).2 } else hour

structure Valid (hour : RemixHour) : Prop where
  d_nonneg : 0 ≤ hour.D
  h_nonneg : 0 ≤ hour.H
  h_le : hour.H ≤ hour.P

end RemixHour

/-- The largest number of the type `double`. -/
def maxDouble : ℚ := (2 ^ 53 - 1) * 2 ^ 971

section
variable (hours : List RemixHour)

def remixableHours : List RemixHour := hours.filter RemixHour.remixable

def hydroToRemix : ℚ := ((remixableHours hours).map RemixHour.H).sum

def remixBottom : ℚ :=
  (remixableHours hours).foldl (fun bottom hour => if hour.G < bottom then hour.G else bottom) maxDouble

def remixTop : ℚ := (remixableHours hours).foldl (fun top hour => if top < hour.L then hour.L else top) 0

def remixStock (niveau : ℚ) : ℚ := ((remixableHours hours).map fun hour => (hour.energies niveau).1).sum

def remixTolerance : ℚ := 1 / 100

def remixTurns : Nat := 100

/-- Nothing is remixed without energy not served, or without hydro generation where nothing is spilled. -/
def skipped : Bool :=
  (hours.map RemixHour.D).sum < RemixHour.epsilon ||
    ((hours.filter fun hour => hour.S < RemixHour.epsilon).map RemixHour.H).sum < RemixHour.epsilon

def remixSearch : Bisection ℚ :=
  Bisection.run (remixStock hours) (hydroToRemix hours) remixTolerance remixTurns (remixBottom hours) (remixTop hours)

end

section
variable (range : SimplexOptimization)

variable (week : Nat → RemixHour)

def remixBlock (block : Nat) : List RemixHour :=
  let step := range.nombreDePasDeTempsPourUneOptimisation
  (List.range step).map fun i => week (block * step + i)

def inBlock (block i : Nat) : Prop :=
  let step := range.nombreDePasDeTempsPourUneOptimisation
  block * step ≤ i ∧ i < block * step + step

instance (block i : Nat) : Decidable (inBlock range block i) := inferInstanceAs (Decidable (_ ∧ _))

def remixTurn (state : Bool × (Nat → RemixHour)) (block : Nat) : Bool × (Nat → RemixHour) :=
  let hours := remixBlock range state.2 block
  if skipped hours then state
  else
    (state.1 && !(remixSearch hours).stopped,
      fun i => if inBlock range block i then (state.2 i).remix (remixSearch hours).level else state.2 i)

/-- An area: whether no search was stopped by its guard, and the hours after the remix. -/
def remixArea : Bool × (Nat → RemixHour) :=
  (List.range range.nbIntervallesOptimises).foldl (remixTurn range) (true, week)

/-- `Remix`: the status, and every area. -/
def remixAreas (areas : List (Nat → RemixHour)) : Bool × List (Nat → RemixHour) :=
  (areas.all fun week => (remixArea range week).1, areas.map fun week => (remixArea range week).2)

end

inductive SheddingPolicy where
  | shpShavePeaks
  | shpMinimizeDuration
  deriving DecidableEq, Repr

def remixHydroForAllAreas (sheddingPolicy : SheddingPolicy) (range : SimplexOptimization) (areas : List (Nat → RemixHour)) :
    Except String (List (Nat → RemixHour)) :=
  match sheddingPolicy with
  | .shpShavePeaks =>
    let result := remixAreas range areas
    if result.1 then .ok result.2 else .error "Error in simplex optimisation. Check logs for more details."
  | .shpMinimizeDuration => .ok areas

namespace RemixHour

variable {hour : RemixHour}

theorem energies_sum (hour : RemixHour) (niveau : ℚ) : (hour.energies niveau).1 + (hour.energies niveau).2 = hour.H + hour.D := by
  unfold energies
  split_ifs <;> dsimp only <;> ring

theorem Valid.energies (valid : hour.Valid) (niveau : ℚ) :
    0 ≤ (hour.energies niveau).1 ∧ (hour.energies niveau).1 ≤ hour.P ∧ 0 ≤ (hour.energies niveau).2 := by
  have d := valid.d_nonneg
  have h := valid.h_nonneg
  have p := valid.h_le
  unfold RemixHour.energies G
  split_ifs with above capped below capped <;> dsimp only <;> refine ⟨?_, ?_, ?_⟩ <;> linarith

theorem Valid.energies_sub_le (valid : hour.Valid) {left right : ℚ} (ordered : left ≤ right) :
    (hour.energies right).1 - (hour.energies left).1 ≤ right - left := by
  have d := valid.d_nonneg
  have h := valid.h_nonneg
  have p := valid.h_le
  unfold RemixHour.energies G
  split_ifs <;> dsimp only <;> linarith

theorem remix_sum (hour : RemixHour) (niveau : ℚ) : (hour.remix niveau).H + (hour.remix niveau).D = hour.H + hour.D := by
  unfold remix
  split_ifs
  · exact hour.energies_sum niveau
  · rfl

theorem remix_P (hour : RemixHour) (niveau : ℚ) : (hour.remix niveau).P = hour.P := by
  unfold remix
  split_ifs
  · rfl
  · rfl

theorem Valid.remix (valid : hour.Valid) (niveau : ℚ) : (hour.remix niveau).Valid := by
  unfold RemixHour.remix
  split_ifs
  · obtain ⟨nonneg, capped, unserved⟩ := valid.energies niveau
    exact ⟨unserved, nonneg, capped⟩
  · exact valid

theorem remix_of_not_remixable (kept : hour.remixable = false) (niveau : ℚ) : hour.remix niveau = hour := by
  unfold remix
  rw [kept, if_neg Bool.false_ne_true]

theorem remix_H_of_remixable (remixed : hour.remixable = true) (niveau : ℚ) :
    (hour.remix niveau).H = (hour.energies niveau).1 := by
  unfold remix
  rw [remixed, if_pos rfl]

theorem pos_of_remixable (remixed : hour.remixable = true) : 0 < hour.H + hour.D := by
  unfold remixable at remixed
  exact of_decide_eq_true (Bool.and_eq_true_iff.mp remixed).1

theorem energies_of_le_G (remixed : hour.remixable = true) {niveau : ℚ} (below : niveau ≤ hour.G) (valid : hour.Valid) :
    (hour.energies niveau).1 ≤ hour.H := by
  have positive := pos_of_remixable remixed
  have h := valid.h_nonneg
  have p := valid.h_le
  unfold G at below
  unfold energies G
  split_ifs <;> dsimp only <;> linarith

theorem H_le_energies_of_L_le {niveau : ℚ} (above : hour.L ≤ niveau) (valid : hour.Valid) :
    hour.H ≤ (hour.energies niveau).1 := by
  have d := valid.d_nonneg
  have h := valid.h_nonneg
  have p := valid.h_le
  unfold energies G
  split_ifs <;> dsimp only <;> linarith

end RemixHour

section
variable {hours : List RemixHour}

variable {hour : RemixHour}

theorem remixBottom_le (member : hour ∈ remixableHours hours) : remixBottom hours ≤ hour.G :=
  @le_runningMax RemixHour ℚᵒᵈ _ RemixHour.G maxDouble (remixableHours hours) hour member

theorem le_remixTop (member : hour ∈ remixableHours hours) : hour.L ≤ remixTop hours :=
  le_runningMax RemixHour.L 0 (remixableHours hours) member

theorem remixable_of_mem (member : hour ∈ remixableHours hours) : hour ∈ hours ∧ hour.remixable = true :=
  List.mem_filter.mp member

variable (valid : ∀ hour ∈ hours, hour.Valid)
include valid

theorem remixStock_sub_le {left right : ℚ} (ordered : left ≤ right) :
    remixStock hours right - remixStock hours left ≤ (remixableHours hours).length * (right - left) := by
  unfold remixStock
  have each : ∀ hour ∈ remixableHours hours, hour.Valid := fun hour member => valid hour (remixable_of_mem member).1
  generalize remixableHours hours = listed at each
  induction listed with
  | nil => simp
  | cons hour listed later =>
    have first := (each hour List.mem_cons_self).energies_sub_le ordered
    have rest := later fun other member => each other (List.mem_cons_of_mem _ member)
    rw [List.map_cons, List.map_cons, List.sum_cons, List.sum_cons, List.length_cons, Nat.cast_add, Nat.cast_one]
    linarith

theorem remix_brackets (some' : remixableHours hours ≠ []) :
    Bisection.Brackets (remixStock hours) (hydroToRemix hours) (remixBottom hours) (remixTop hours) where
  ordered := by
    obtain ⟨hour, member⟩ := List.exists_mem_of_ne_nil _ some'
    have positive := RemixHour.pos_of_remixable (remixable_of_mem member).2
    have least := remixBottom_le member
    have greatest := le_remixTop member
    unfold RemixHour.G at least
    linarith
  below := by
    refine List.sum_le_sum fun hour member => ?_
    obtain ⟨inside, remixed⟩ := remixable_of_mem member
    exact RemixHour.energies_of_le_G remixed (remixBottom_le member) (valid hour inside)
  above := by
    refine List.sum_le_sum fun hour member => ?_
    exact RemixHour.H_le_energies_of_L_le (le_remixTop member) (valid hour (remixable_of_mem member).1)

theorem remixSearch_not_stopped (few : hours.length ≤ nbHoursInWeek)
    (narrow : nbHoursInWeek * (remixTop hours - remixBottom hours) ≤ remixTolerance * 2 ^ 99) :
    (remixSearch hours).stopped = false := by
  unfold remixSearch
  by_cases none : remixableHours hours = []
  · refine Bisection.not_stopped_of_first ?_
    unfold hydroToRemix remixStock
    rw [none, List.map_nil, List.map_nil, sub_self, abs_zero]
    norm_num [remixTolerance]
  · have brackets := remix_brackets valid none
    refine Bisection.not_stopped (fun left right => remixStock_sub_le valid) brackets ?_
    have listed : ((remixableHours hours).length : ℚ) ≤ nbHoursInWeek :=
      Nat.cast_le.mpr ((List.length_filter_le _ _).trans few)
    have width : 0 ≤ remixTop hours - remixBottom hours := sub_nonneg.mpr brackets.ordered
    exact (mul_le_mul_of_nonneg_right listed width).trans narrow

end

section
variable {range : SimplexOptimization} {week : Nat → RemixHour}

def blockOf (range : SimplexOptimization) (i : Nat) : Nat := i / range.nombreDePasDeTempsPourUneOptimisation

theorem inBlock_iff {block i : Nat} : inBlock range block i ↔ blockOf range i = block := by
  have positive := range.steps_pos
  unfold inBlock blockOf
  rw [Nat.div_eq_iff positive]
  show block * _ ≤ i ∧ i < _ ↔ _
  omega

theorem blockOf_add {block k : Nat} (less : k < range.nombreDePasDeTempsPourUneOptimisation) :
    blockOf range (block * range.nombreDePasDeTempsPourUneOptimisation + k) = block :=
  inBlock_iff.mp ⟨Nat.le_add_right _ _, Nat.add_lt_add_left less _⟩

/-- The hour that the remix leaves, from the hours that there were. -/
def remixedHour (range : SimplexOptimization) (week : Nat → RemixHour) (i : Nat) : RemixHour :=
  let hours := remixBlock range week (blockOf range i)
  if skipped hours then week i else (week i).remix (remixSearch hours).level

def ends (range : SimplexOptimization) (week : Nat → RemixHour) (block : Nat) : Bool :=
  let hours := remixBlock range week block
  skipped hours || !(remixSearch hours).stopped

theorem mem_remixBlock {block : Nat} {hour : RemixHour} :
    hour ∈ remixBlock range week block ↔ ∃ i, blockOf range i = block ∧ week i = hour := by
  simp only [← inBlock_iff, inBlock]
  unfold remixBlock
  rw [List.mem_map]
  constructor
  · rintro ⟨k, less, rfl⟩
    rw [List.mem_range] at less
    exact ⟨block * range.nombreDePasDeTempsPourUneOptimisation + k, ⟨Nat.le_add_right _ _, Nat.add_lt_add_left less _⟩, rfl⟩
  · rintro ⟨i, ⟨first, last⟩, rfl⟩
    refine ⟨i - block * range.nombreDePasDeTempsPourUneOptimisation, List.mem_range.mpr (by omega), ?_⟩
    rw [Nat.add_sub_cancel' first]

theorem remixBlock_congr {other : Nat → RemixHour} {block : Nat} (same : ∀ i, blockOf range i = block → other i = week i) :
    remixBlock range other block = remixBlock range week block := by
  unfold remixBlock
  exact List.map_congr_left fun k member => same _ (blockOf_add (List.mem_range.mp member))

theorem foldl_remixTurn (turns : Nat) :
    (List.range turns).foldl (remixTurn range) (true, week) =
      ((List.range turns).all (ends range week),
        fun i => if blockOf range i < turns then remixedHour range week i else week i) := by
  induction turns with
  | zero => rfl
  | succ turns before =>
    rw [List.range_succ, List.foldl_append, before, List.foldl_cons, List.foldl_nil, List.all_append]
    have hours : remixBlock range (fun i => if blockOf range i < turns then remixedHour range week i else week i) turns =
        remixBlock range week turns :=
      remixBlock_congr fun i inside => if_neg (inside ▸ lt_irrefl turns)
    unfold remixTurn
    dsimp only
    rw [hours]
    split_ifs with none
    · refine Prod.ext ?_ (funext fun i => ?_)
      · simp [ends, none]
      · dsimp only
        rcases lt_trichotomy (blockOf range i) turns with less | same | more
        · rw [if_pos less, if_pos (Nat.lt_succ_of_lt less)]
        · rw [if_neg (same ▸ lt_irrefl _), if_pos (same ▸ Nat.lt_succ_self _), remixedHour, same, if_pos none]
        · rw [if_neg more.not_gt, if_neg (by omega)]
    · refine Prod.ext ?_ (funext fun i => ?_)
      · simp [ends, none]
      · dsimp only
        simp only [inBlock_iff]
        rcases lt_trichotomy (blockOf range i) turns with less | same | more
        · rw [if_neg less.ne, if_pos less, if_pos (Nat.lt_succ_of_lt less)]
        · rw [if_pos same, if_neg (same ▸ lt_irrefl _), if_pos (same ▸ Nat.lt_succ_self _), remixedHour, same, if_neg none]
        · rw [if_neg more.ne', if_neg more.not_gt, if_neg (by omega)]

theorem blockOf_lt_iff {i : Nat} : blockOf range i < range.nbIntervallesOptimises ↔ i < nbHoursInWeek := by
  have positive := range.steps_pos
  have whole : range.nbIntervallesOptimises * range.nombreDePasDeTempsPourUneOptimisation = nbHoursInWeek := by
    cases range <;> decide
  unfold blockOf
  rw [Nat.div_lt_iff_lt_mul positive, whole]

theorem remixArea_eq :
    remixArea range week =
      ((List.range range.nbIntervallesOptimises).all (ends range week),
        fun i => if i < nbHoursInWeek then remixedHour range week i else week i) := by
  unfold remixArea
  rw [foldl_remixTurn]
  simp only [blockOf_lt_iff]

variable (range) in
/-- The hydro generation after the remix, over the hours of a block that are remixable before it. -/
def remixableHydro (week after : Nat → RemixHour) (block : Nat) : ℚ :=
  let hours := (List.range range.nombreDePasDeTempsPourUneOptimisation).map fun k =>
    block * range.nombreDePasDeTempsPourUneOptimisation + k
  ((hours.filter fun i => (week i).remixable).map fun i => (after i).H).sum

/-- The initial bracket of a block is one that 99 turns make narrow enough. -/
def NarrowBracket (range : SimplexOptimization) (week : Nat → RemixHour) (block : Nat) : Prop :=
  nbHoursInWeek * (remixTop (remixBlock range week block) - remixBottom (remixBlock range week block)) ≤ remixTolerance * 2 ^ 99

structure RemixKeeps (range : SimplexOptimization) (week after : Nat → RemixHour) : Prop where
  energy : ∀ i, (after i).H + (after i).D = (week i).H + (week i).D
  bounds : ∀ i < nbHoursInWeek, 0 ≤ (after i).H ∧ (after i).H ≤ (week i).P ∧ 0 ≤ (after i).D
  untouched : ∀ i, (week i).remixable = false ∨ skipped (remixBlock range week (blockOf range i)) = true → after i = week i
  total : ∀ block < range.nbIntervallesOptimises, ends range week block = true →
    |remixableHydro range week after block - remixableHydro range week week block| ≤ remixTolerance
  guard : ∀ block < range.nbIntervallesOptimises, NarrowBracket range week block → ends range week block = true

theorem remixableHydro_self (block : Nat) :
    remixableHydro range week week block = hydroToRemix (remixBlock range week block) := by
  unfold remixableHydro hydroToRemix remixableHours remixBlock
  dsimp only
  rw [List.filter_map, List.filter_map, List.map_map, List.map_map]
  rfl

theorem remixableHydro_eq_remixStock {after : Nat → RemixHour} {block : Nat} {niveau : ℚ}
    (remixed : ∀ i, blockOf range i = block → (week i).remixable = true → (after i).H = ((week i).energies niveau).1) :
    remixableHydro range week after block = remixStock (remixBlock range week block) niveau := by
  unfold remixableHydro remixStock remixableHours remixBlock
  dsimp only
  rw [List.filter_map, List.filter_map, List.map_map, List.map_map]
  congr 1
  refine List.map_congr_left fun k member => ?_
  obtain ⟨less, isRemixable⟩ := List.mem_filter.mp member
  exact remixed _ (blockOf_add (List.mem_range.mp less)) isRemixable

theorem remixArea_of_lt {i : Nat} (inWeek : i < nbHoursInWeek) : (remixArea range week).2 i = remixedHour range week i := by
  rw [remixArea_eq]
  exact if_pos inWeek

theorem remixArea_of_skipped {i : Nat} (none : skipped (remixBlock range week (blockOf range i)) = true) :
    (remixArea range week).2 i = week i := by
  rw [remixArea_eq]
  dsimp only
  split_ifs
  · unfold remixedHour
    dsimp only
    rw [none, if_pos rfl]
  · rfl

theorem remixArea_cases (i : Nat) :
    (remixArea range week).2 i = week i ∨ ∃ niveau, (remixArea range week).2 i = (week i).remix niveau := by
  rw [remixArea_eq]
  dsimp only [remixedHour]
  split_ifs
  · exact Or.inl rfl
  · exact Or.inr ⟨_, rfl⟩
  · exact Or.inl rfl

theorem remixableHydro_remixed {block : Nat} (inWeek : block < range.nbIntervallesOptimises)
    (searched : skipped (remixBlock range week block) = false) :
    remixableHydro range week (remixArea range week).2 block =
      remixStock (remixBlock range week block) (remixSearch (remixBlock range week block)).level := by
  apply remixableHydro_eq_remixStock
  rintro i rfl isRemixable
  rw [remixArea_of_lt (blockOf_lt_iff.mp inWeek), remixedHour, searched, if_neg Bool.false_ne_true]
  exact RemixHour.remix_H_of_remixable isRemixable _

theorem remixArea_keeps (valid : ∀ i < nbHoursInWeek, (week i).Valid) : RemixKeeps range week (remixArea range week).2 where
  energy i := by
    rcases @remixArea_cases range week i with same | ⟨niveau, remixed⟩
    · rw [same]
    · rw [remixed]
      exact (week i).remix_sum niveau
  bounds i inWeek := by
    rcases @remixArea_cases range week i with same | ⟨niveau, remixed⟩
    · rw [same]
      exact ⟨(valid i inWeek).h_nonneg, (valid i inWeek).h_le, (valid i inWeek).d_nonneg⟩
    · have kept := (valid i inWeek).remix niveau
      have capped := kept.h_le
      rw [RemixHour.remix_P] at capped
      rw [remixed]
      exact ⟨kept.h_nonneg, capped, kept.d_nonneg⟩
  untouched i reason := by
    rcases reason with fixed | none
    · rcases @remixArea_cases range week i with same | ⟨niveau, remixed⟩
      · exact same
      · rw [remixed, RemixHour.remix_of_not_remixable fixed]
    · exact remixArea_of_skipped none
  total block inWeek ended := by
    cases none : skipped (remixBlock range week block) with
    | true =>
      have same : remixableHydro range week (remixArea range week).2 block = remixableHydro range week week block := by
        unfold remixableHydro
        dsimp only
        congr 1
        refine List.map_congr_left fun i member => ?_
        obtain ⟨inside, -⟩ := List.mem_filter.mp member
        obtain ⟨k, less, rfl⟩ := List.mem_map.mp inside
        rw [← @blockOf_add range block k (List.mem_range.mp less)] at none
        rw [remixArea_of_skipped none]
      rw [same, sub_self, abs_zero]
      norm_num [remixTolerance]
    | false =>
      unfold ends at ended
      dsimp only at ended
      rw [none, Bool.false_or, Bool.not_eq_true'] at ended
      rw [remixableHydro_remixed inWeek none, remixableHydro_self, abs_sub_comm]
      exact Bisection.within_of_not_stopped ended
  guard block inWeek narrow := by
    have each : ∀ hour ∈ remixBlock range week block, hour.Valid := by
      intro hour member
      obtain ⟨i, rfl, rfl⟩ := mem_remixBlock.mp member
      exact valid i (blockOf_lt_iff.mp inWeek)
    have few : (remixBlock range week block).length ≤ nbHoursInWeek := by
      unfold remixBlock
      rw [List.length_map, List.length_range]
      cases range <;> decide
    unfold ends
    dsimp only
    rw [remixSearch_not_stopped each few narrow, Bool.not_false, Bool.or_true]

/-- The remix of every area keeps what it should, and where every bracket is narrow enough no error is
thrown.
-/
theorem remixHydroForAllAreas_keeps {areas : List (Nat → RemixHour)}
    (valid : ∀ week ∈ areas, ∀ i < nbHoursInWeek, (week i).Valid) :
    List.Forall₂ (RemixKeeps range) areas (remixAreas range areas).2 ∧
      ((∀ week ∈ areas, ∀ block < range.nbIntervallesOptimises, NarrowBracket range week block) →
        remixHydroForAllAreas .shpShavePeaks range areas = .ok (remixAreas range areas).2) := by
  constructor
  · unfold remixAreas
    dsimp only
    rw [List.forall₂_map_right_iff, List.forall₂_same]
    exact fun week member => remixArea_keeps (valid week member)
  · intro narrow
    have status : (remixAreas range areas).1 = true := by
      refine List.all_eq_true.mpr fun week member => ?_
      rw [remixArea_eq]
      refine List.all_eq_true.mpr fun block inside => ?_
      have inWeek := List.mem_range.mp inside
      exact (remixArea_keeps (valid week member)).guard block inWeek (narrow week member block inWeek)
    unfold remixHydroForAllAreas
    dsimp only
    rw [if_pos status]

end

/-! Two hours to remix, the second one at a load that widens the bracket. -/

def servedHour : RemixHour where
  D := 1
  S := 0
  H := 1
  P := 2
  L := 2
  M := 0

variable (load : ℚ)

def unservedHour : RemixHour where
  D := 2
  S := 0
  H := 0
  P := 2
  L := load
  M := 0

def quietHour : RemixHour where
  D := 0
  S := 0
  H := 0
  P := 0
  L := 0
  M := 0

def peakWeek (i : Nat) : RemixHour :=
  if i = 0 then servedHour else if i = 1 then unservedHour load else quietHour

theorem peakWeek_valid (i : Nat) : (peakWeek load i).Valid := by
  unfold peakWeek
  split_ifs
  · exact ⟨by norm_num [servedHour], by norm_num [servedHour], by norm_num [servedHour]⟩
  · exact ⟨by norm_num [unservedHour], by norm_num [unservedHour], by norm_num [unservedHour]⟩
  · exact ⟨le_refl _, le_refl _, le_refl _⟩

theorem peakWeek_remixed :
    List.Forall₂ (RemixKeeps .sorDay) [peakWeek 10] (remixAreas .sorDay [peakWeek 10]).2 ∧
      remixHydroForAllAreas .shpShavePeaks .sorDay [peakWeek 10] = .ok (remixAreas .sorDay [peakWeek 10]).2 := by
  have kept := @remixHydroForAllAreas_keeps .sorDay [peakWeek 10] fun week member i _ =>
    List.mem_singleton.mp member ▸ peakWeek_valid 10 i
  refine ⟨kept.1, kept.2 fun week member block inWeek => ?_⟩
  obtain rfl := List.mem_singleton.mp member
  unfold NarrowBracket
  revert block
  decide +kernel

/-- With a load of 2 ^ 110 no level is low enough after a hundred turns, and the generation doubles. -/
theorem peakWeek_not_kept :
    (∀ i < nbHoursInWeek, (peakWeek (2 ^ 110) i).Valid) ∧ skipped (remixBlock .sorDay (peakWeek (2 ^ 110)) 0) = false ∧
      1 ≤ |remixableHydro .sorDay (peakWeek (2 ^ 110)) (remixArea .sorDay (peakWeek (2 ^ 110))).2 0 -
        remixableHydro .sorDay (peakWeek (2 ^ 110)) (peakWeek (2 ^ 110)) 0| := by
  have searched : skipped (remixBlock .sorDay (peakWeek (2 ^ 110)) 0) = false := by decide +kernel
  have hours : remixableHours (remixBlock .sorDay (peakWeek (2 ^ 110)) 0) = [servedHour, unservedHour (2 ^ 110)] := by
    decide +kernel
  refine ⟨fun i _ => peakWeek_valid _ i, searched, ?_⟩
  have all (level : ℚ) (high : 3 ≤ level) : 2 ≤ remixStock (remixBlock .sorDay (peakWeek (2 ^ 110)) 0) level := by
    have first : (servedHour.energies level).1 = 2 := by
      unfold RemixHour.energies servedHour
      dsimp only
      rw [if_pos (by linarith), if_neg (by norm_num)]
      norm_num
    have second : 0 ≤ ((unservedHour (2 ^ 110)).energies level).1 := (peakWeek_valid (2 ^ 110) 1).energies level |>.1
    unfold remixStock
    rw [hours]
    simp only [List.map_cons, List.map_nil, List.sum_cons, List.sum_nil]
    linarith
  have target : hydroToRemix (remixBlock .sorDay (peakWeek (2 ^ 110)) 0) = 1 := by decide +kernel
  have bottom : remixBottom (remixBlock .sorDay (peakWeek (2 ^ 110)) 0) = 0 := by decide +kernel
  have top : remixTop (remixBlock .sorDay (peakWeek (2 ^ 110)) 0) = 2 ^ 110 := by decide +kernel
  rw [remixableHydro_remixed (by decide) searched, remixableHydro_self, target]
  have level : 3 ≤ (remixSearch (remixBlock .sorDay (peakWeek (2 ^ 110)) 0)).level := by
    unfold remixSearch
    rw [target, bottom, top]
    refine (Bisection.stopped_of_far (fun level high => ?_) (by norm_num [remixTolerance]) (by norm_num) (by norm_num)).2
    have small : (1 : ℚ) + remixTolerance < 2 := by norm_num [remixTolerance]
    exact small.trans_le (all level high)
  have more := all _ level
  exact (by linarith : (1 : ℚ) ≤ _ - 1).trans (le_abs_self _)

end Antares.Solver
