import Antares.Library.CappedSums

/-! The daily generations of a month after its linear problem: what is generated above the targets is
shared again between the days, up to their maxima.
-/

set_option autoImplicit false

namespace Antares.Solver

open Library

/-- One day of `DONNEES_MENSUELLES`. -/
structure Jour where
  turbineMax : ℚ
  turbineMin : ℚ
  turbineCible : ℚ
  turbine : ℚ
  deriving DecidableEq

namespace Jour

variable (jour : Jour)

def marge : ℚ := jour.turbineMax - jour.turbineCible

def surTurbine : ℚ := jour.turbine - jour.turbineCible

/-- The bounds of `H2O_J_InitialiserLesBornesdesVariables`. -/
structure Borne : Prop where
  xmin : min jour.turbineMax (max jour.turbineCible jour.turbineMin) ≤ jour.turbine
  xmax : jour.turbine ≤ jour.turbineMax

instance : Decidable jour.Borne :=
  decidable_of_iff (_ ∧ _) ⟨fun both => ⟨both.1, both.2⟩, fun borne => ⟨borne.xmin, borne.xmax⟩⟩

end Jour

/-- `ZERO` -/
def zeroDuLissage : ℚ := 1 / 10 ^ 9

structure Repartition where
  jours : List (Jour × Bool)
  surTurbineARepartir : ℚ

namespace Repartition

variable (zero : ℚ) (repartition : Repartition)

def marges : List ℚ := (repartition.jours.filter Prod.snd).map fun jour => jour.1.marge

/-- The least margin of a flagged day begins with the sum of all maxima. -/
def margeMin : ℚ := repartition.marges.foldl min (repartition.jours.map fun jour => jour.1.turbineMax).sum

def surTurbine : ℚ :=
  let xmoy := repartition.surTurbineARepartir / repartition.marges.length
  if xmoy ≤ repartition.margeMin then xmoy else repartition.margeMin

def placer (surTurbine : ℚ) : Jour × Bool → Jour × Bool
  | (jour, false) => (jour, false)
  | (jour, true) =>
    let turbine := jour.turbineCible + surTurbine
    ({ jour with turbine := turbine }, !decide (jour.turbineMax - turbine ≤ zero))

/-- One pass over the days, and how many lost their flags: each takes its part away. -/
def passe : Repartition × Nat :=
  let jours := repartition.jours.map (placer zero repartition.surTurbine)
  let atteints := repartition.jours.countP Prod.snd - jours.countP Prod.snd
  ({ jours, surTurbineARepartir := repartition.surTurbineARepartir - atteints * repartition.surTurbine }, atteints)

/-- `BoucleDeRepartition`, with the number of times it may still be gone back to. -/
def boucle : Nat → Repartition → Repartition
  | cycles, repartition =>
    if repartition.marges = [] then repartition
    else
      let apres := repartition.passe zero
      match cycles with
      | 0 => apres.1
      | cycles + 1 => if apres.2 ≠ 0 ∧ 0 < apres.1.surTurbineARepartir then boucle cycles apres.1 else apres.1

end Repartition

section Months

variable (zero : ℚ) (jours : List Jour)

def excedent : ℚ := ((jours.filter fun jour => zero < jour.surTurbine).map Jour.surTurbine).sum

def depart : Repartition where
  jours := jours.map fun jour => (jour, decide (zero < jour.marge))
  surTurbineARepartir := excedent zero jours

/-- `H2O_J_LisserLesSurTurbines` -/
def lisserLesSurTurbines : List Jour := (Repartition.boucle zero jours.length (depart zero jours)).jours.map Prod.fst

end Months

section Passes

variable {zero : ℚ} {repartition : Repartition}

namespace Repartition

def sommeMax (repartition : Repartition) : ℚ := (repartition.jours.map fun jour => jour.1.turbineMax).sum

variable (surTurbine : ℚ) (jour : Jour × Bool)

theorem placer_fst_max :
    (placer zero surTurbine jour).1.turbineMax = jour.1.turbineMax := by
  rcases jour with ⟨jour, _ | _⟩ <;> rfl

theorem placer_fst_marge :
    (placer zero surTurbine jour).1.marge = jour.1.marge := by
  rcases jour with ⟨jour, _ | _⟩ <;> rfl

theorem placer_snd :
    (placer zero surTurbine jour).2 = (jour.2 && decide (surTurbine + zero < jour.1.marge)) := by
  rcases jour with ⟨jour, _ | _⟩
  · rfl
  · have same : jour.turbineMax - (jour.turbineCible + surTurbine) ≤ zero ↔ ¬ surTurbine + zero < jour.marge := by
      unfold Jour.marge
      constructor <;> intro bound <;> linarith
    simp only [placer, decide_eq_decide.mpr same, decide_not, Bool.not_not, Bool.true_and]

theorem placer_of_lt {surTurbine : ℚ} {jour : Jour} (far : surTurbine + zero < jour.marge) :
    placer zero surTurbine (jour, true) = ({ jour with turbine := jour.turbineCible + surTurbine }, true) :=
  Prod.ext rfl ((placer_snd surTurbine (jour, true)).trans (decide_eq_true far))

theorem placer_of_le {surTurbine : ℚ} {jour : Jour} (near : jour.marge ≤ surTurbine + zero) :
    placer zero surTurbine (jour, true) = ({ jour with turbine := jour.turbineCible + surTurbine }, false) :=
  Prod.ext rfl ((placer_snd surTurbine (jour, true)).trans (decide_eq_false near.not_gt))

theorem marges_passe : (repartition.passe zero).1.marges =
    repartition.marges.filter fun marge => repartition.surTurbine + zero < marge := by
  unfold passe marges
  dsimp only
  rw [List.filter_map, List.map_map, List.filter_map, List.filter_filter]
  have margins : (fun jour : Jour × Bool => jour.1.marge) ∘ placer zero repartition.surTurbine = fun jour => jour.1.marge := by
    funext jour
    exact placer_fst_marge _ _
  rw [margins]
  congr 1
  refine List.filter_congr fun jour _ => ?_
  rw [Function.comp_apply, placer_snd, Bool.and_comm]
  rfl

theorem sommeMax_passe : (repartition.passe zero).1.sommeMax = repartition.sommeMax := by
  unfold passe sommeMax
  dsimp only
  rw [List.map_map]
  congr 1
  exact List.map_congr_left fun jour _ => placer_fst_max _ _

theorem countP_eq_length_marges : repartition.jours.countP Prod.snd = repartition.marges.length := by
  rw [marges, List.length_map, List.countP_eq_length_filter]

theorem atteints_passe : (repartition.passe zero).2 = repartition.marges.length - (repartition.passe zero).1.marges.length := by
  rw [← countP_eq_length_marges, ← countP_eq_length_marges]
  rfl

theorem length_marges_passe_le : (repartition.passe zero).1.marges.length ≤ repartition.marges.length := by
  rw [marges_passe]
  exact List.length_filter_le _ _

theorem surTurbineARepartir_passe : (repartition.passe zero).1.surTurbineARepartir =
    repartition.surTurbineARepartir -
      ((repartition.marges.length : ℚ) - (repartition.passe zero).1.marges.length) * repartition.surTurbine := by
  have count : ((repartition.passe zero).2 : ℚ) =
      (repartition.marges.length : ℚ) - (repartition.passe zero).1.marges.length := by
    rw [atteints_passe, Nat.cast_sub length_marges_passe_le]
  rw [← count]
  rfl

variable {low : ℚ}

theorem margeMin_eq (least : repartition.marges.min? = some low) :
    repartition.margeMin = min repartition.sommeMax low := by
  unfold margeMin sommeMax
  cases margins : repartition.marges with
  | nil => rw [margins] at least; cases least
  | cons first rest =>
    rw [margins, List.min?_cons', Option.some.injEq] at least
    rw [List.foldl_cons, List.foldl_assoc, least]

/-- A flagged day with `f` of its margin above its target. -/
def remplir (f : ℚ → ℚ) (jour : Jour × Bool) : Jour :=
  if jour.2 then { jour.1 with turbine := jour.1.turbineCible + f jour.1.marge } else jour.1

theorem jours_passe : (repartition.passe zero).1.jours.map Prod.fst =
    repartition.jours.map (remplir fun _ => repartition.surTurbine) := by
  unfold passe
  dsimp only
  rw [List.map_map]
  refine List.map_congr_left fun jour _ => ?_
  rcases jour with ⟨jour, _ | _⟩ <;> rfl

theorem mem_marges {jour : Jour × Bool} (member : jour ∈ repartition.jours) (flag : jour.2 = true) :
    jour.1.marge ∈ repartition.marges :=
  List.mem_map_of_mem (List.mem_filter.mpr ⟨member, flag⟩)

theorem remplir_congr {f g : ℚ → ℚ} (same : ∀ marge ∈ repartition.marges, f marge = g marge) :
    repartition.jours.map (remplir f) = repartition.jours.map (remplir g) := by
  refine List.map_congr_left fun jour member => ?_
  unfold remplir
  split_ifs with flag
  · rw [same _ (mem_marges member flag)]
  · rfl

variable {cycles : Nat}

theorem boucle_of_stable {surTurbine : ℚ}
    (placed : ∀ jour ∈ repartition.jours, jour.2 = true → jour.1.turbine = jour.1.turbineCible + surTurbine)
    (again : repartition.marges ≠ [] → repartition.surTurbine = surTurbine)
    (free : ∀ marge ∈ repartition.marges, surTurbine + zero < marge) :
    (boucle zero cycles repartition).jours.map Prod.fst = repartition.jours.map Prod.fst := by
  have stays : repartition.marges ≠ [] → (repartition.passe zero).1.jours.map Prod.fst = repartition.jours.map Prod.fst := by
    intro nonempty
    rw [jours_passe]
    refine List.map_congr_left fun jour member => ?_
    unfold remplir
    split_ifs with flag
    · rw [again nonempty, ← placed jour member flag]
    · rfl
  unfold boucle
  split_ifs with none
  · rfl
  · have all : (repartition.passe zero).1.marges = repartition.marges := by
      rw [marges_passe, again none]
      exact List.filter_eq_self.mpr fun marge member => decide_eq_true (free marge member)
    have noneReached : (repartition.passe zero).2 = 0 := by
      rw [atteints_passe, all, Nat.sub_self]
    cases cycles with
    | zero => exact stays none
    | succ cycles =>
      dsimp only
      rw [if_neg fun goes => goes.1 noneReached]
      exact stays none

theorem boucle_of_level (nonempty : repartition.marges ≠ [])
    (again : (repartition.passe zero).1.marges ≠ [] → (repartition.passe zero).1.surTurbine = repartition.surTurbine) :
    (boucle zero cycles repartition).jours.map Prod.fst = repartition.jours.map (remplir fun _ => repartition.surTurbine) := by
  unfold boucle
  rw [if_neg nonempty]
  cases cycles with
  | zero => exact jours_passe
  | succ cycles =>
    dsimp only
    split_ifs
    · rw [← @jours_passe zero]
      refine boucle_of_stable ?_ again ?_
      · intro jour member flag
        obtain ⟨before, _, rfl⟩ := List.mem_map.mp member
        rcases before with ⟨before, _ | _⟩
        · exact absurd flag Bool.false_ne_true
        · rfl
      · intro marge member
        rw [marges_passe] at member
        exact of_decide_eq_true (List.mem_filter.mp member).2
    · exact jours_passe

theorem length_marges_pos (nonempty : repartition.marges ≠ []) : (0 : ℚ) < repartition.marges.length :=
  Nat.cast_pos.mpr (List.length_pos_of_ne_nil nonempty)

theorem surTurbine_of_le (least : repartition.marges.min? = some low)
    (allowed : repartition.surTurbineARepartir / repartition.marges.length ≤ min repartition.sommeMax low) :
    repartition.surTurbine = repartition.surTurbineARepartir / repartition.marges.length := by
  unfold surTurbine
  dsimp only
  rw [margeMin_eq least, if_pos allowed]

theorem surTurbine_of_gt (least : repartition.marges.min? = some low)
    (more : min repartition.sommeMax low < repartition.surTurbineARepartir / repartition.marges.length) :
    repartition.surTurbine = min repartition.sommeMax low := by
  unfold surTurbine
  dsimp only
  rw [margeMin_eq least, if_neg more.not_ge]

theorem exists_least_passe (least : repartition.marges.min? = some low)
    (nonempty : (repartition.passe zero).1.marges ≠ []) :
    ∃ next, (repartition.passe zero).1.marges.min? = some next ∧ low ≤ next := by
  obtain ⟨marge, member⟩ := List.exists_mem_of_ne_nil _ nonempty
  obtain ⟨next, inside, found, -⟩ := exists_least member
  rw [marges_passe] at inside
  exact ⟨next, found, (List.min?_eq_some_iff.mp least).2 next (List.mem_filter.mp inside).1⟩

theorem again_of_mean (least : repartition.marges.min? = some low)
    (allowed : repartition.surTurbineARepartir / repartition.marges.length ≤ min repartition.sommeMax low)
    (nonempty : (repartition.passe zero).1.marges ≠ []) :
    (repartition.passe zero).1.surTurbine = repartition.surTurbine := by
  obtain ⟨next, nextLeast, above⟩ := exists_least_passe least nonempty
  have before : repartition.marges ≠ [] := by
    rintro empty
    rw [empty] at least
    cases least
  have positive := length_marges_pos nonempty
  have mean : (repartition.passe zero).1.surTurbineARepartir / (repartition.passe zero).1.marges.length =
      repartition.surTurbine := by
    have total : repartition.surTurbineARepartir = repartition.marges.length * repartition.surTurbine := by
      rw [surTurbine_of_le least allowed, mul_div_cancel₀ _ (length_marges_pos before).ne']
    rw [div_eq_iff positive.ne', surTurbineARepartir_passe, total]
    ring
  have same := surTurbine_of_le least allowed
  rw [surTurbine_of_le nextLeast, mean]
  rw [mean, same, sommeMax_passe]
  exact allowed.trans (min_le_min_left _ above)

theorem again_of_held (least : repartition.marges.min? = some low)
    (more : repartition.sommeMax < repartition.surTurbineARepartir / repartition.marges.length)
    (held : repartition.sommeMax < low) (nonempty : (repartition.passe zero).1.marges ≠ []) :
    (repartition.passe zero).1.surTurbine = repartition.surTurbine := by
  obtain ⟨next, nextLeast, above⟩ := exists_least_passe least nonempty
  have before : repartition.marges ≠ [] := by
    rintro empty
    rw [empty] at least
    cases least
  have placed : repartition.surTurbine = repartition.sommeMax := by
    rw [surTurbine_of_gt least ((min_le_left _ _).trans_lt more), min_eq_left held.le]
  have total := (lt_div_iff₀ (length_marges_pos before)).mp more
  have moreLeft : (repartition.passe zero).1.sommeMax <
      (repartition.passe zero).1.surTurbineARepartir / (repartition.passe zero).1.marges.length := by
    rw [lt_div_iff₀ (length_marges_pos nonempty), surTurbineARepartir_passe, placed, sommeMax_passe]
    linarith
  rw [surTurbine_of_gt nextLeast ((min_le_left _ _).trans_lt moreLeft), sommeMax_passe, min_eq_left (held.le.trans above), placed]

theorem boucle_of_last (nonempty : repartition.marges ≠ [])
    (below : ∀ marge ∈ repartition.marges, repartition.surTurbine ≤ marge)
    (again : (repartition.passe zero).1.marges ≠ [] → (repartition.passe zero).1.surTurbine = repartition.surTurbine) :
    (boucle zero cycles repartition).jours.map Prod.fst = repartition.jours.map
      (remplir fun marge => min (groupLow zero cycles repartition.marges marge) repartition.surTurbine) := by
  rw [boucle_of_level nonempty again]
  exact remplir_congr fun marge member => (min_eq_right (le_groupLow below member)).symm

theorem length_map_groupLow (cycles : Nat) :
    ((repartition.marges.map (groupLow zero cycles repartition.marges)).length : ℚ) = repartition.marges.length := by
  rw [List.length_map]

theorem perm_groups (least : repartition.marges.min? = some low) (placed : repartition.surTurbine = low)
    (cycles : Nat) : (repartition.marges.map (groupLow zero (cycles + 1) repartition.marges)).Perm
      (List.replicate (repartition.marges.length - (repartition.passe zero).1.marges.length) low ++
        (repartition.passe zero).1.marges.map (groupLow zero cycles (repartition.passe zero).1.marges)) := by
  have kept : (repartition.passe zero).1.marges = repartition.marges.filter (low + zero < ·) := by
    rw [marges_passe, placed]
  have parts := List.filter_append_perm (fun marge => decide (low + zero < marge)) repartition.marges
  have lengths := parts.length_eq
  rw [List.length_append] at lengths
  refine (parts.symm.map _).trans ?_
  rw [List.map_append, kept]
  refine List.perm_append_comm.trans (List.Perm.of_eq (congrArg₂ _ ?_ ?_))
  · rw [← lengths, Nat.add_sub_cancel_left, List.eq_replicate_iff]
    refine ⟨List.length_map _, fun value isValue => ?_⟩
    obtain ⟨marge, member, rfl⟩ := List.mem_map.mp isValue
    have near := (List.mem_filter.mp member).2
    rw [groupLow_succ least, if_pos]
    simpa using near
  · refine List.map_congr_left fun marge member => ?_
    have far : low + zero < marge := of_decide_eq_true (List.mem_filter.mp member).2
    rw [groupLow_succ least, if_neg far.not_ge]

theorem remplir_placer {low level : ℚ} (least : repartition.marges.min? = some low) (placed : repartition.surTurbine = low)
    (reached : low ≤ level) (cycles : Nat) :
    (repartition.passe zero).1.jours.map
        (remplir fun marge => min (groupLow zero cycles (repartition.passe zero).1.marges marge) level) =
      repartition.jours.map (remplir fun marge => min (groupLow zero (cycles + 1) repartition.marges marge) level) := by
  have kept : (repartition.passe zero).1.marges = repartition.marges.filter (low + zero < ·) := by
    rw [marges_passe, placed]
  rw [kept]
  unfold passe
  dsimp only
  rw [List.map_map, placed]
  refine List.map_congr_left fun jour _ => ?_
  rw [Function.comp_apply]
  rcases jour with ⟨jour, _ | _⟩
  · rfl
  · by_cases far : low + zero < jour.marge
    · rw [placer_of_lt far]
      change { jour with turbine := _ + min (groupLow zero cycles _ jour.marge) level } =
        { jour with turbine := _ + min (groupLow zero (cycles + 1) _ jour.marge) level }
      rw [groupLow_succ least, if_neg far.not_ge]
    · rw [placer_of_le (not_lt.mp far)]
      change { jour with turbine := _ + low } =
        { jour with turbine := _ + min (groupLow zero (cycles + 1) _ jour.marge) level }
      rw [groupLow_succ least, if_pos (not_lt.mp far), min_eq_left reached]

theorem exists_level_of_low (least : repartition.marges.min? = some low) (placed : repartition.surTurbine = low)
    (more : low * repartition.marges.length < repartition.surTurbineARepartir) (underCeiling : low ≤ repartition.sommeMax)
    (nonneg : 0 ≤ zero) (positive : 0 < low) {cycles : Nat}
    (later : (repartition.passe zero).1.marges ≠ [] →
      ∃ level, WaterLevel ((repartition.passe zero).1.marges.map (groupLow zero cycles (repartition.passe zero).1.marges))
          (repartition.passe zero).1.surTurbineARepartir (repartition.passe zero).1.sommeMax level ∧
        (boucle zero cycles (repartition.passe zero).1).jours.map Prod.fst = (repartition.passe zero).1.jours.map
          (remplir fun marge => min (groupLow zero cycles (repartition.passe zero).1.marges marge) level)) :
    ∃ level, WaterLevel (repartition.marges.map (groupLow zero (cycles + 1) repartition.marges))
        repartition.surTurbineARepartir repartition.sommeMax level ∧
      (boucle zero (cycles + 1) repartition).jours.map Prod.fst =
        repartition.jours.map (remplir fun marge => min (groupLow zero (cycles + 1) repartition.marges marge) level) := by
  have parts := @perm_groups zero _ _ least placed cycles
  have nonempty : repartition.marges ≠ [] := by
    rintro empty
    rw [empty] at least
    cases least
  have fewer : ((repartition.marges.length - (repartition.passe zero).1.marges.length : Nat) : ℚ) =
      (repartition.marges.length : ℚ) - (repartition.passe zero).1.marges.length := Nat.cast_sub length_marges_passe_le
  have left : (repartition.passe zero).1.surTurbineARepartir = repartition.surTurbineARepartir -
      ((repartition.marges.length - (repartition.passe zero).1.marges.length : Nat) : ℚ) * low := by
    rw [surTurbineARepartir_passe, placed, fewer]
  have moreLeft : ((repartition.passe zero).1.marges.length : ℚ) * low < (repartition.passe zero).1.surTurbineARepartir := by
    rw [left, fewer]
    linarith
  have someReached : (repartition.passe zero).2 ≠ 0 := by
    have strictly : (repartition.passe zero).1.marges.length < repartition.marges.length := by
      rw [marges_passe, placed]
      refine List.length_filter_lt_length_iff_exists.mpr ⟨low, (List.min?_eq_some_iff.mp least).1, ?_⟩
      simp [nonneg]
    rw [atteints_passe]
    omega
  have goesOn : 0 < (repartition.passe zero).1.surTurbineARepartir :=
    lt_of_le_of_lt (mul_nonneg (Nat.cast_nonneg _) positive.le) moreLeft
  unfold boucle
  rw [if_neg nonempty]
  dsimp only
  rw [if_pos ⟨someReached, goesOn⟩]
  by_cases all : (repartition.passe zero).1.marges = []
  · refine ⟨low, .full underCeiling (fun top isTop => ?_) ?_, ?_⟩
    · rw [all, List.map_nil, List.append_nil] at parts
      exact (List.eq_of_mem_replicate (parts.mem_iff.mp isTop)).le
    · refine lt_of_le_of_lt filled_le_length_mul ?_
      rwa [length_map_groupLow, mul_comm]
    · unfold boucle
      rw [if_pos all, jours_passe, placed]
      refine remplir_congr fun marge member => ?_
      rw [all, List.map_nil, List.append_nil] at parts
      rw [List.eq_of_mem_replicate (parts.mem_iff.mp (List.mem_map_of_mem member)), min_self]
  · obtain ⟨level, found, days⟩ := later all
    rw [left, sommeMax_passe] at found
    have lowest : ∀ top ∈ (repartition.passe zero).1.marges.map (groupLow zero cycles (repartition.passe zero).1.marges),
        low ≤ top := by
      intro top isTop
      obtain ⟨marge, member, rfl⟩ := List.mem_map.mp isTop
      refine le_groupLow (fun other isOther => ?_) member
      rw [marges_passe] at isOther
      exact (List.min?_eq_some_iff.mp least).2 other (List.mem_filter.mp isOther).1
    obtain ⟨reached, whole⟩ := found.addGroup parts underCeiling lowest (by simpa using all) (by
      rw [List.length_map, ← left]
      exact moreLeft)
    exact ⟨level, whole, days.trans (remplir_placer least placed reached cycles)⟩

/-- The loop shares what is above the targets as water between vessels with the margins as tops, where
margins that are close to each other count as the lowest of them.
-/
theorem exists_level (nonneg : 0 ≤ zero) {cycles : Nat} (within : repartition.marges.length ≤ cycles)
    (nonempty : repartition.marges ≠ []) (positive : ∀ marge ∈ repartition.marges, 0 < marge) :
    ∃ level, WaterLevel (repartition.marges.map (groupLow zero cycles repartition.marges))
        repartition.surTurbineARepartir repartition.sommeMax level ∧
      (boucle zero cycles repartition).jours.map Prod.fst =
        repartition.jours.map (remplir fun marge => min (groupLow zero cycles repartition.marges marge) level) := by
  induction cycles generalizing repartition with
  | zero => exact absurd (List.length_eq_zero_iff.mp (Nat.le_zero.mp within)) nonempty
  | succ cycles later =>
    obtain ⟨marge, member⟩ := List.exists_mem_of_ne_nil _ nonempty
    obtain ⟨low, inside, least, -⟩ := exists_least member
    have lowest := (List.min?_eq_some_iff.mp least).2
    have count := length_marges_pos nonempty
    rcases le_or_gt (repartition.surTurbineARepartir / repartition.marges.length) (min repartition.sommeMax low) with allowed | more
    · -- the mean is placed in every vessel
      have placed := surTurbine_of_le least allowed
      have below : ∀ marge ∈ repartition.marges, repartition.surTurbine ≤ marge := fun marge member =>
        placed.le.trans (allowed.trans ((min_le_right _ _).trans (lowest marge member)))
      refine ⟨repartition.surTurbine, .used ?_ ?_, boucle_of_last nonempty below (again_of_mean least allowed)⟩
      · exact placed.le.trans (allowed.trans (min_le_left _ _))
      · rw [filled_of_le fun top isTop => ?_, length_map_groupLow, placed, mul_div_cancel₀ _ count.ne']
        obtain ⟨marge, member, rfl⟩ := List.mem_map.mp isTop
        exact le_groupLow below member
    · have placed := surTurbine_of_gt least more
      rcases lt_or_ge repartition.sommeMax low with held | enough
      · -- the ceiling is placed in every vessel
        rw [min_eq_left held.le] at placed more
        have below : ∀ marge ∈ repartition.marges, repartition.surTurbine ≤ marge := fun marge member =>
          placed.le.trans (held.le.trans (lowest marge member))
        refine ⟨repartition.surTurbine, .held placed ?_, boucle_of_last nonempty below (again_of_held least more held)⟩
        rw [filled_of_le fun top isTop => ?_, length_map_groupLow, placed, mul_comm]
        · exact (lt_div_iff₀ count).mp more
        · obtain ⟨marge, member, rfl⟩ := List.mem_map.mp isTop
          exact le_groupLow below member
      · -- the lowest vessels are full
        rw [min_eq_right enough] at placed more
        refine exists_level_of_low least placed ((lt_div_iff₀ count).mp more) enough nonneg (positive low inside) fun some => ?_
        have strictly : (repartition.passe zero).1.marges.length < repartition.marges.length := by
          rw [marges_passe, placed]
          exact List.length_filter_lt_length_iff_exists.mpr ⟨low, inside, by simp [nonneg]⟩
        refine later (by omega) some fun marge member => ?_
        rw [marges_passe] at member
        exact positive marge (List.mem_filter.mp member).1

end Repartition

end Passes

section Months

variable (zero : ℚ) (jours : List Jour)

def joursARepartir : List Jour := jours.filter fun jour => zero < jour.marge

def sommeDesMaxima : ℚ := (jours.map Jour.turbineMax).sum

/-- The level at which a margin counts as reached: the lowest margin that is as close as `ZERO`. -/
def comble (marge : ℚ) : ℚ := groupLow zero jours.length ((joursARepartir zero jours).map Jour.marge) marge

/-- The levels at which the days of the sharing reach their maxima. -/
def combles : List ℚ := (joursARepartir zero jours).map fun jour => comble zero jours jour.marge

theorem marges_depart : (depart zero jours).marges = (joursARepartir zero jours).map Jour.marge := by
  unfold Repartition.marges joursARepartir depart
  rw [List.filter_map, List.map_map]
  rfl

variable {zero jours}

theorem lisserLesSurTurbines_eq (nonneg : 0 ≤ zero) (nonempty : joursARepartir zero jours ≠ []) :
    ∃ level, WaterLevel (combles zero jours) (excedent zero jours) (sommeDesMaxima jours) level ∧
      lisserLesSurTurbines zero jours = jours.map fun jour =>
        if zero < jour.marge then { jour with turbine := jour.turbineCible + min (comble zero jours jour.marge) level }
        else jour := by
  have marges := marges_depart zero jours
  have maxima : (depart zero jours).sommeMax = sommeDesMaxima jours := by
    unfold Repartition.sommeMax sommeDesMaxima depart
    rw [List.map_map]
    rfl
  have within : (depart zero jours).marges.length ≤ jours.length := by
    rw [marges, List.length_map]
    exact List.length_filter_le _ _
  have positive : ∀ marge ∈ (depart zero jours).marges, 0 < marge := by
    intro marge member
    rw [marges] at member
    obtain ⟨jour, isDay, rfl⟩ := List.mem_map.mp member
    exact nonneg.trans_lt (of_decide_eq_true (List.mem_filter.mp isDay).2)
  obtain ⟨level, found, days⟩ := Repartition.exists_level nonneg within (by simpa [marges] using nonempty) positive
  refine ⟨level, ?_, ?_⟩
  · rw [maxima, marges, List.map_map] at found
    exact found
  · refine days.trans ?_
    rw [marges]
    unfold depart
    rw [List.map_map]
    refine List.map_congr_left fun jour _ => ?_
    by_cases flag : zero < jour.marge
    · simp only [Function.comp_apply, Repartition.remplir, flag, decide_true, if_true]
      rfl
    · simp only [Function.comp_apply, Repartition.remplir, flag, decide_false, if_false, Bool.false_eq_true]

theorem lisserLesSurTurbines_of_nil (empty : joursARepartir zero jours = []) : lisserLesSurTurbines zero jours = jours := by
  unfold lisserLesSurTurbines Repartition.boucle
  rw [if_pos (by rw [marges_depart, empty, List.map_nil])]
  unfold depart
  rw [List.map_map]
  exact List.map_id _

section Minima

/-- The gap between the minimum and the target of a day is within the level that the smoothing places:
within its own margin, under the sum of the maxima, and covered by the excess.
-/
def MinimaCouverts (zero : ℚ) (jours : List Jour) : Prop :=
  ∀ jour ∈ joursARepartir zero jours,
    jour.turbineMin - jour.turbineCible ≤ comble zero jours jour.marge ∧
      jour.turbineMin - jour.turbineCible ≤ sommeDesMaxima jours ∧
      filled (combles zero jours) (jour.turbineMin - jour.turbineCible) ≤ excedent zero jours

theorem minima_iff (nonneg : 0 ≤ zero) (minima : ∀ jour ∈ jours, jour.turbineMin ≤ jour.turbine) :
    (∀ jour ∈ lisserLesSurTurbines zero jours, jour.turbineMin ≤ jour.turbine) ↔ MinimaCouverts zero jours := by
  unfold MinimaCouverts
  by_cases empty : joursARepartir zero jours = []
  · rw [lisserLesSurTurbines_of_nil empty, empty]
    exact iff_of_true minima fun jour none => absurd none List.not_mem_nil
  · obtain ⟨level, found, days⟩ := lisserLesSurTurbines_eq nonneg empty
    rw [days, List.forall_mem_map]
    have shared {jour : Jour} (isDay : jour ∈ joursARepartir zero jours) :
        jour.turbineMin ≤ jour.turbineCible + min (comble zero jours jour.marge) level ↔
          jour.turbineMin - jour.turbineCible ≤ comble zero jours jour.marge ∧
            jour.turbineMin - jour.turbineCible ≤ sommeDesMaxima jours ∧
            filled (combles zero jours) (jour.turbineMin - jour.turbineCible) ≤ excedent zero jours := by
      rw [← sub_le_iff_le_add', le_min_iff]
      refine and_congr_right fun inside => ?_
      exact found.le_iff (List.mem_map_of_mem isDay) inside
    constructor
    · intro kept jour isDay
      obtain ⟨member, flag⟩ := List.mem_filter.mp isDay
      have result := kept jour member
      rw [if_pos (of_decide_eq_true flag)] at result
      exact (shared isDay).mp result
    · intro covered jour member
      split_ifs with flag
      · have isDay : jour ∈ joursARepartir zero jours := List.mem_filter.mpr ⟨member, decide_eq_true flag⟩
        exact (shared isDay).mpr (covered jour isDay)
      · exact minima jour member

/-- The minima of the days are kept exactly where the excess covers every gap between a minimum and its
target.
-/
theorem minima_kept_iff (jours : List Jour) (minima : ∀ jour ∈ jours, jour.turbineMin ≤ jour.turbine) :
    (∀ jour ∈ lisserLesSurTurbines zeroDuLissage jours, jour.turbineMin ≤ jour.turbine) ↔ MinimaCouverts zeroDuLissage jours :=
  minima_iff (by decide +kernel) minima

/-- Two days whose minima are their targets keep what they have. -/
theorem minima_kept_of_targets : MinimaCouverts zeroDuLissage [⟨10, 2, 2, 5⟩, ⟨10, 0, 0, 1⟩] ∧
    ∀ jour ∈ lisserLesSurTurbines zeroDuLissage [⟨10, 2, 2, 5⟩, ⟨10, 0, 0, 1⟩], jour.turbineMin ≤ jour.turbine := by
  have covered : MinimaCouverts zeroDuLissage [⟨10, 2, 2, 5⟩, ⟨10, 0, 0, 1⟩] := by
    unfold MinimaCouverts
    decide +kernel
  exact ⟨covered, (minima_kept_iff [⟨10, 2, 2, 5⟩, ⟨10, 0, 0, 1⟩] (by decide +kernel)).mpr covered⟩

/-- The minimum of one day is above its target, and half of what it needs goes to the other day. -/
theorem minimum_is_lost : (∀ jour ∈ [⟨10, 5, 0, 5⟩, ⟨10, 0, 0, 0⟩], Jour.Borne jour ∧ jour.turbineMin ≤ jour.turbine) ∧
    lisserLesSurTurbines zeroDuLissage [⟨10, 5, 0, 5⟩, ⟨10, 0, 0, 0⟩] = [⟨10, 5, 0, 5 / 2⟩, ⟨10, 0, 0, 5 / 2⟩] ∧
    ¬ ∀ jour ∈ lisserLesSurTurbines zeroDuLissage [⟨10, 5, 0, 5⟩, ⟨10, 0, 0, 0⟩], jour.turbineMin ≤ jour.turbine := by
  decide +kernel

end Minima

section Levelled

/-- What the smoothing is for: the energy of the month is kept, and shared at one level above the targets
of the days that have a margin.
-/
structure EstLisse (avant apres : List Jour) : Prop where
  total : (apres.map Jour.turbine).sum = (avant.map Jour.turbine).sum
  jours : List.Forall₂ (fun jour lisse => lisse = { jour with turbine := lisse.turbine } ∧
    (jour.turbineCible < jour.turbineMax → jour.turbineCible ≤ lisse.turbine ∧ lisse.turbine ≤ jour.turbineMax) ∧
    (jour.turbineMax ≤ jour.turbineCible → lisse.turbine = jour.turbine)) avant apres
  niveaux : ∀ first ∈ apres, ∀ second ∈ apres, first.turbine < first.turbineMax → second.turbine < second.turbineMax →
    first.surTurbine = second.surTurbine

/-- The excess fits in the margins, where none counts for more than the sum of the maxima. -/
def PlaceSuffisante (jours : List Jour) : Prop :=
  excedent 0 jours ≤ filled ((joursARepartir 0 jours).map Jour.marge) (sommeDesMaxima jours)

variable (bornes : ∀ jour ∈ jours, jour.Borne)

namespace Jour

variable {jour : Jour}

theorem Borne.eq_max (borne : jour.Borne) (full : jour.turbineMax ≤ jour.turbineCible) : jour.turbine = jour.turbineMax := by
  have low := borne.xmin
  rw [min_eq_left (full.trans (le_max_left _ _))] at low
  exact le_antisymm borne.xmax low

theorem Borne.cible_le (borne : jour.Borne) (room : 0 < jour.marge) : jour.turbineCible ≤ jour.turbine :=
  (le_min (sub_pos.mp room).le (le_max_left _ _)).trans borne.xmin

theorem Borne.marge_pos (borne : jour.Borne) (more : 0 < jour.surTurbine) : 0 < jour.marge :=
  more.trans_le (sub_le_sub_right borne.xmax _)

end Jour

theorem comble_zero {marge : ℚ} (member : marge ∈ (joursARepartir 0 jours).map Jour.marge) : comble 0 jours marge = marge := by
  have within : ((joursARepartir 0 jours).map Jour.marge).length ≤ jours.length := by
    rw [List.length_map]
    exact List.length_filter_le _ _
  have above := le_groupLow_add within (fun value : ℚ => (add_zero value).ge) member
  rw [add_zero] at above
  exact le_antisymm (groupLow_le member) above

theorem combles_zero : combles 0 jours = (joursARepartir 0 jours).map Jour.marge :=
  List.map_congr_left fun _ member => comble_zero (List.mem_map_of_mem member)

theorem joursARepartir_cons (zero : ℚ) (jour : Jour) (rest : List Jour) : joursARepartir zero (jour :: rest) =
    if zero < jour.marge then jour :: joursARepartir zero rest else joursARepartir zero rest := by
  simp [joursARepartir, List.filter_cons]

theorem excedent_cons (zero : ℚ) (jour : Jour) (rest : List Jour) : excedent zero (jour :: rest) =
    (if zero < jour.surTurbine then jour.surTurbine else 0) + excedent zero rest := by
  simp only [excedent, List.filter_cons, decide_eq_true_eq]
  split_ifs
  · rw [List.map_cons, List.sum_cons]
  · rw [zero_add]

theorem excedent_nonneg : 0 ≤ excedent 0 jours := by
  refine List.sum_nonneg fun value isValue => ?_
  obtain ⟨jour, member, rfl⟩ := List.mem_map.mp isValue
  exact (of_decide_eq_true (List.mem_filter.mp member).2 : 0 < jour.surTurbine).le

def Jour.auNiveau (level : ℚ) (jour : Jour) : Jour :=
  if 0 < jour.marge then { jour with turbine := jour.turbineCible + min jour.marge level } else jour

theorem Jour.auNiveau_of_pos {level : ℚ} {jour : Jour} (room : 0 < jour.marge) :
    jour.auNiveau level = { jour with turbine := jour.turbineCible + min jour.marge level } :=
  if_pos room

theorem Jour.auNiveau_of_le {level : ℚ} {jour : Jour} (full : jour.turbineMax ≤ jour.turbineCible) :
    jour.auNiveau level = jour :=
  if_neg (sub_nonpos.mpr full).not_gt

theorem sum_turbine_level (level : ℚ) : ((jours.map (Jour.auNiveau level)).map Jour.turbine).sum =
    (jours.map Jour.turbine).sum - ((joursARepartir 0 jours).map Jour.surTurbine).sum +
      filled ((joursARepartir 0 jours).map Jour.marge) level := by
  induction jours with
  | nil => simp [filled, joursARepartir]
  | cons jour rest later =>
    rw [List.map_cons, List.map_cons, List.sum_cons, later, List.map_cons, List.sum_cons, joursARepartir_cons]
    by_cases room : 0 < jour.marge
    · rw [Jour.auNiveau_of_pos room, if_pos room, List.map_cons, List.map_cons, List.sum_cons, filled_cons]
      unfold Jour.surTurbine
      ring
    · rw [Jour.auNiveau_of_le (sub_nonpos.mp (not_lt.mp room)), if_neg room]
      ring

theorem lisserLesSurTurbines_zero (nonempty : joursARepartir 0 jours ≠ []) :
    ∃ level, WaterLevel ((joursARepartir 0 jours).map Jour.marge) (excedent 0 jours) (sommeDesMaxima jours) level ∧
      lisserLesSurTurbines 0 jours = jours.map (Jour.auNiveau level) := by
  obtain ⟨level, found, days⟩ := lisserLesSurTurbines_eq le_rfl nonempty
  refine ⟨level, combles_zero ▸ found, days.trans (List.map_congr_left fun jour member => ?_)⟩
  unfold Jour.auNiveau
  split_ifs with room
  · rw [comble_zero (List.mem_map_of_mem (List.mem_filter.mpr ⟨member, decide_eq_true room⟩))]
  · rfl

include bornes

theorem excedent_eq : excedent 0 jours = ((joursARepartir 0 jours).map Jour.surTurbine).sum := by
  induction jours with
  | nil => rfl
  | cons jour rest later =>
    have borne := bornes jour List.mem_cons_self
    rw [excedent_cons, joursARepartir_cons, later fun other member => bornes other (List.mem_cons_of_mem _ member)]
    by_cases room : 0 < jour.marge
    · rw [if_pos room, List.map_cons, List.sum_cons]
      -- A day with a margin has no less than its target, so what is not counted is nothing.
      split_ifs with more
      · rfl
      · rw [le_antisymm (not_lt.mp more) (sub_nonneg.mpr (borne.cible_le room))]
    · rw [if_neg room, if_neg fun more => room (borne.marge_pos more), zero_add]

theorem excedent_le_marges : excedent 0 jours ≤ ((joursARepartir 0 jours).map Jour.marge).sum := by
  rw [excedent_eq bornes]
  exact List.sum_le_sum fun jour member => sub_le_sub_right (bornes jour (List.mem_filter.mp member).1).xmax _

theorem estLisse_of_nil (empty : joursARepartir 0 jours = []) : EstLisse jours jours := by
  have full : ∀ jour ∈ jours, jour.turbineMax ≤ jour.turbineCible := by
    intro jour member
    by_contra room
    have isDay : jour ∈ joursARepartir 0 jours :=
      List.mem_filter.mpr ⟨member, decide_eq_true (sub_pos.mpr (not_le.mp room))⟩
    exact List.not_mem_nil (empty ▸ isDay)
  refine ⟨rfl, List.forall₂_same.mpr fun jour member => ⟨rfl, fun room => ?_, fun _ => rfl⟩, ?_⟩
  · exact absurd (full jour member) room.not_ge
  · intro first member second _ below
    exact absurd ((bornes first member).eq_max (full first member)) below.ne

theorem estLisse_auNiveau {level : ℚ} (nonneg : 0 ≤ level)
    (all : filled ((joursARepartir 0 jours).map Jour.marge) level = excedent 0 jours) :
    EstLisse jours (jours.map (Jour.auNiveau level)) := by
  constructor
  case total =>
    rw [sum_turbine_level, all, excedent_eq bornes]
    ring
  case jours =>
    refine List.forall₂_map_right_iff.mpr (List.forall₂_same.mpr fun jour member => ⟨?_, fun room => ?_, fun full => ?_⟩)
    · unfold Jour.auNiveau
      split_ifs <;> rfl
    · have margin : 0 < jour.marge := sub_pos.mpr room
      rw [Jour.auNiveau_of_pos margin]
      have low : 0 ≤ min jour.marge level := le_min margin.le nonneg
      have high : min jour.marge level ≤ jour.turbineMax - jour.turbineCible := min_le_left _ _
      constructor <;> dsimp only <;> linarith
    · rw [Jour.auNiveau_of_le full]
  case niveaux =>
    -- A day that ends below its maximum is at the level.
    have same : ∀ jour ∈ jours.map (Jour.auNiveau level), jour.turbine < jour.turbineMax → jour.surTurbine = level := by
      intro lisse isDay below
      obtain ⟨jour, member, rfl⟩ := List.mem_map.mp isDay
      rcases le_or_gt jour.turbineMax jour.turbineCible with full | room
      · rw [Jour.auNiveau_of_le full] at below
        exact absurd ((bornes jour member).eq_max full) below.ne
      · rw [Jour.auNiveau_of_pos (sub_pos.mpr room)] at below ⊢
        have free : min jour.marge level < jour.marge := lt_sub_iff_add_lt'.mpr below
        have placed : min jour.marge level = level := min_eq_right ((min_lt_iff.mp free).resolve_left (lt_irrefl _)).le
        rw [Jour.surTurbine, placed, add_sub_cancel_left]
    intro first isFirst second isSecond firstBelow secondBelow
    rw [same first isFirst firstBelow, same second isSecond secondBelow]

omit bornes in
/-- The month is smoothed exactly where its excess has room enough below the sum of its maxima. -/
theorem lisser_estLisse_iff (jours : List Jour) (bornes : ∀ jour ∈ jours, jour.Borne) :
    EstLisse jours (lisserLesSurTurbines 0 jours) ↔ PlaceSuffisante jours := by
  unfold PlaceSuffisante
  by_cases empty : joursARepartir 0 jours = []
  · rw [lisserLesSurTurbines_of_nil empty, excedent_eq bornes, empty]
    exact iff_of_true (estLisse_of_nil bornes empty) le_rfl
  · obtain ⟨level, found, days⟩ := lisserLesSurTurbines_zero empty
    rw [days, ← found.filled_eq_iff (excedent_le_marges bornes)]
    constructor
    · intro smoothed
      have total := smoothed.total
      rw [sum_turbine_level, ← excedent_eq bornes] at total
      linarith
    · intro all
      have several : (0 : ℚ) < ((joursARepartir 0 jours).map Jour.marge).length := by
        rw [List.length_map]
        exact Nat.cast_pos.mpr (List.length_pos_of_ne_nil empty)
      have nonneg : 0 ≤ level := by
        refine nonneg_of_mul_nonneg_right ?_ several
        exact (@excedent_nonneg jours).trans (all.ge.trans filled_le_length_mul)
      exact estLisse_auNiveau bornes nonneg all

omit bornes in
/-- A month whose first day has a margin over its target. -/
theorem lisser_three_days : EstLisse [⟨10, 0, 2, 9⟩, ⟨8, 0, 3, 3⟩, ⟨4, 0, 6, 4⟩]
    (lisserLesSurTurbines 0 [⟨10, 0, 2, 9⟩, ⟨8, 0, 3, 3⟩, ⟨4, 0, 6, 4⟩]) :=
  (lisser_estLisse_iff [⟨10, 0, 2, 9⟩, ⟨8, 0, 3, 3⟩, ⟨4, 0, 6, 4⟩] (by decide +kernel)).mpr
    (by unfold PlaceSuffisante; decide +kernel)

omit bornes in
/-- A target below zero gives one day more margin than the sum of the maxima, and its energy is lost. -/
theorem lisser_negative_target : (∀ jour ∈ [⟨1, 0, -10, 1⟩], Jour.Borne jour) ∧
    lisserLesSurTurbines 0 [⟨1, 0, -10, 1⟩] = [⟨1, 0, -10, -9⟩] ∧
    ¬ EstLisse [⟨1, 0, -10, 1⟩] (lisserLesSurTurbines 0 [⟨1, 0, -10, 1⟩]) := by
  have lost : lisserLesSurTurbines 0 [⟨1, 0, -10, 1⟩] = [⟨1, 0, -10, -9⟩] := by decide +kernel
  refine ⟨by decide +kernel, lost, fun smoothed => ?_⟩
  have total := smoothed.total
  rw [lost] at total
  exact absurd total (by decide +kernel)

end Levelled

end Months

end Antares.Solver
