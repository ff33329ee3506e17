import Antares.Solver.ThermalOutages

/-! What a day of the generator keeps: every unit is available or booked to come back, and planned
outages are bookings among the others.
-/

set_option autoImplicit false

namespace Antares.Solver.ThermalOutages

open Data Library

def total (slots : Nat → Int) : Int := ∑ slot ∈ Finset.range logSize, slots slot

namespace State

/-- Units are available or due in a slot; those of planned outages are counted apart. -/
structure Balanced (state : State) (unitCount : Nat) : Prop where
  now_lt : state.now < logSize
  aun_nonneg : 0 ≤ state.aun
  units : state.aun + total state.log = unitCount
  planned : state.npoCur = total state.logp
  logp_nonneg : ∀ slot < logSize, 0 ≤ state.logp slot
  logp_le : ∀ slot < logSize, state.logp slot ≤ state.log slot

structure Emptied (state : State) : Prop where
  log : state.log state.now = 0
  logp : state.logp state.now = 0

variable {state : State} {unitCount : Nat}

theorem Balanced.log_nonneg (balanced : state.Balanced unitCount) {slot : Nat} (inside : slot < logSize) :
    0 ≤ state.log slot :=
  le_trans (balanced.logp_nonneg slot inside) (balanced.logp_le slot inside)

theorem Balanced.aun_le (balanced : state.Balanced unitCount) : state.aun ≤ unitCount := by
  have due : 0 ≤ total state.log :=
    Finset.sum_nonneg fun slot inside => balanced.log_nonneg (Finset.mem_range.mp inside)
  have units := balanced.units
  omega

theorem comeBack_log_of_ne {slot : Nat} (other : slot ≠ state.now) : state.comeBack.log slot = state.log slot :=
  Function.update_of_ne other _ _

theorem comeBack_logp_of_ne {slot : Nat} (other : slot ≠ state.now) : state.comeBack.logp slot = state.logp slot :=
  Function.update_of_ne other _ _

theorem comeBack_emptied : state.comeBack.Emptied := ⟨Function.update_self _ _ _, Function.update_self _ _ _⟩

theorem Balanced.comeBack (balanced : state.Balanced unitCount) : state.comeBack.Balanced unitCount where
  now_lt := balanced.now_lt
  aun_nonneg := add_nonneg balanced.aun_nonneg (balanced.log_nonneg balanced.now_lt)
  units := by
    have units := balanced.units
    unfold total at units
    simp only [State.comeBack, total, sum_update balanced.now_lt]
    omega
  planned := by
    have planned := balanced.planned
    unfold total at planned
    simp only [State.comeBack, total, sum_update balanced.now_lt]
    omega
  logp_nonneg := by
    intro slot inside
    by_cases today : slot = state.now
    · exact (congrArg state.comeBack.logp today).trans comeBack_emptied.logp |>.ge
    · rw [comeBack_logp_of_ne today]
      exact balanced.logp_nonneg slot inside
  logp_le := by
    intro slot inside
    by_cases today : slot = state.now
    · rw [today]
      exact (comeBack_emptied.logp.trans comeBack_emptied.log.symm).le
    · rw [comeBack_logp_of_ne today, comeBack_log_of_ne today]
      exact balanced.logp_le slot inside

/-- Planned outages are cut short in both rings; nothing else changes. -/
structure CutShort (before after : State) : Prop where
  aun : after.aun = before.aun
  npoCur : after.npoCur = before.npoCur
  now : after.now = before.now
  logp_nonneg : ∀ slot < logSize, 0 ≤ after.logp slot
  logp_le : ∀ slot, after.logp slot ≤ before.logp slot
  forced : ∀ slot, after.log slot - after.logp slot = before.log slot - before.logp slot

theorem CutShort.refl (nonneg : ∀ slot < logSize, 0 ≤ state.logp slot) : state.CutShort state where
  aun := rfl
  npoCur := rfl
  now := rfl
  logp_nonneg := nonneg
  logp_le _ := le_rfl
  forced _ := rfl

theorem CutShort.trans {first second third : State} (cut : first.CutShort second) (again : second.CutShort third) :
    first.CutShort third where
  aun := again.aun.trans cut.aun
  npoCur := again.npoCur.trans cut.npoCur
  now := again.now.trans cut.now
  logp_nonneg := again.logp_nonneg
  logp_le slot := le_trans (again.logp_le slot) (cut.logp_le slot)
  forced slot := (again.forced slot).trans (cut.forced slot)

def cut (state : State) (slot : Nat) (amount : Int) : State :=
  { state with
    logp := Function.update state.logp slot (state.logp slot - amount)
    log := Function.update state.log slot (state.log slot - amount) }

variable {slot : Nat} {amount : Int}

section
variable (nonneg : ∀ slot < logSize, 0 ≤ state.logp slot) (amount_nonneg : 0 ≤ amount)
  (amount_le : amount ≤ state.logp slot)
include nonneg amount_nonneg amount_le

theorem cut_cutShort : state.CutShort (state.cut slot amount) where
  aun := rfl
  npoCur := rfl
  now := rfl
  logp_nonneg := by
    intro other inside
    by_cases here : other = slot
    · subst here
      simp only [cut, Function.update_self]
      omega
    · simp only [cut, Function.update_of_ne here]
      exact nonneg other inside
  logp_le := by
    intro other
    by_cases here : other = slot
    · subst here
      simp only [cut, Function.update_self]
      omega
    · simp only [cut, Function.update_of_ne here, le_refl]
  forced := by
    intro other
    by_cases here : other = slot
    · subst here
      simp only [cut, Function.update_self]
      omega
    · simp only [cut, Function.update_of_ne here]

end

theorem total_cut (inside : slot < logSize) : total (state.cut slot amount).logp = total state.logp - amount := by
  simp only [cut, total, sum_update inside]
  omega

theorem scan_done (cibleRetour : Int) (indices : List Nat) :
    scan cibleRetour indices cibleRetour state = state := by
  cases indices with
  | nil => rfl
  | cons index indices => exact if_pos rfl

def ahead (state : State) (indices : List Nat) : Int :=
  (indices.map fun index => state.logp ((state.now + index) % logSize)).sum

theorem ahead_cut {indices : List Nat} (elsewhere : slot ∉ indices.map fun index => (state.now + index) % logSize) :
    (state.cut slot amount).ahead indices = state.ahead indices := by
  refine congrArg List.sum (List.map_congr_left fun index listed => ?_)
  refine Function.update_of_ne (fun same => elsewhere ?_) _ _
  exact List.mem_map.mpr ⟨index, listed, same⟩

theorem scan_spec {cibleRetour : Int} {indices : List Nat} {cumulRetour : Int}
    (apart : (indices.map fun index => (state.now + index) % logSize).Nodup)
    (nonneg : ∀ slot < logSize, 0 ≤ state.logp slot) (below : cumulRetour ≤ cibleRetour)
    (enough : cibleRetour ≤ cumulRetour + state.ahead indices) :
    state.CutShort (scan cibleRetour indices cumulRetour state) ∧
      total (scan cibleRetour indices cumulRetour state).logp = total state.logp - (cibleRetour - cumulRetour) := by
  induction indices generalizing state cumulRetour with
  | nil =>
    have reached : cumulRetour = cibleRetour := by
      rw [ahead, List.map_nil, List.sum_nil] at enough
      omega
    exact ⟨.refl nonneg, by rw [scan]; omega⟩
  | cons index indices later =>
    obtain ⟨fresh, apart⟩ := List.nodup_cons.mp apart
    have inside : (state.now + index) % logSize < logSize := Nat.mod_lt _ (by decide)
    have here := nonneg _ inside
    unfold scan
    dsimp only
    rw [ahead, List.map_cons, List.sum_cons] at enough
    split_ifs with reached last some
    · exact ⟨.refl nonneg, by omega⟩
    · -- the last outages that are needed
      have taken : state.CutShort (state.cut ((state.now + index) % logSize) (cibleRetour - cumulRetour)) :=
        cut_cutShort nonneg (by omega) (by omega)
      change state.CutShort (scan cibleRetour indices cibleRetour (state.cut _ _)) ∧
        total (scan cibleRetour indices cibleRetour (state.cut _ _)).logp = _
      rw [scan_done]
      exact ⟨taken, total_cut inside⟩
    · -- all the planned outages of the slot
      have taken : state.CutShort (state.cut ((state.now + index) % logSize)
          (state.logp ((state.now + index) % logSize))) := cut_cutShort nonneg here le_rfl
      have whole : { state with
          log := Function.update state.log ((state.now + index) % logSize)
            (state.log ((state.now + index) % logSize) - state.logp ((state.now + index) % logSize))
          logp := Function.update state.logp ((state.now + index) % logSize) 0 } =
            state.cut ((state.now + index) % logSize) (state.logp ((state.now + index) % logSize)) := by
        rw [cut, sub_self]
      have left : (state.cut ((state.now + index) % logSize) (state.logp ((state.now + index) % logSize))).ahead
          indices = state.ahead indices := ahead_cut fresh
      rw [whole]
      obtain ⟨rest, amount⟩ := @later (state.cut _ _) (cumulRetour + state.logp ((state.now + index) % logSize)) apart taken.logp_nonneg (by omega) (by
        rw [left, ahead]
        omega)
      refine ⟨taken.trans rest, ?_⟩
      rw [amount, total_cut inside]
      omega
    · refine later apart nonneg below ?_
      rw [ahead]
      omega

theorem range'_eq_map : List.range' 1 (logSize - 1) = (List.range (logSize - 1)).map (1 + ·) :=
  List.range'_eq_map_range

theorem ahead_all (positive : state.now < logSize) (empty : state.logp state.now = 0) :
    state.ahead (List.range' 1 (logSize - 1)) = total state.logp := by
  have listed (value : Nat → Int) : ((List.range (logSize - 1)).map value).sum =
      ∑ rank ∈ Finset.range (logSize - 1), value rank := (Multiset.sum_coe _).symm
  have round : total state.logp = ∑ delay ∈ Finset.range (logSize - 1 + 1), state.logp ((state.now + delay) % logSize) :=
    (sum_slots (by decide) state.logp).symm
  rw [round, Finset.sum_range_succ', add_zero, Nat.mod_eq_of_lt positive, empty, add_zero, ahead, range'_eq_map,
    List.map_map, listed]
  refine Finset.sum_congr rfl fun rank _ => ?_
  rw [Function.comp_apply, add_comm 1 rank]

theorem scanned_apart : ((List.range' 1 (logSize - 1)).map fun index => (state.now + index) % logSize).Nodup := by
  refine List.Nodup.map_on (fun index listed other otherListed same => ?_) List.nodup_range'
  have near := List.mem_range'_1.mp listed
  have otherNear := List.mem_range'_1.mp otherListed
  have size : logSize = 4000 := rfl
  exact (slot_eq_iff (by omega) (by omega)).mp same

/-- What the morning does to the slots ahead: planned outages are cut short, forced ones are not. -/
structure Recalled (before after : State) : Prop where
  now : after.now = before.now
  logp_le : ∀ slot, after.logp slot ≤ before.logp slot
  forced : ∀ slot, after.log slot - after.logp slot = before.log slot - before.logp slot

theorem recall_spec {npoMax : Rat} (npoMax_nonneg : 0 ≤ npoMax) (balanced : state.Balanced unitCount)
    (emptied : state.Emptied) :
    (state.recallUnits npoMax).Balanced unitCount ∧ ((state.recallUnits npoMax).npoCur : Rat) ≤ npoMax ∧
      state.Recalled (state.recallUnits npoMax) := by
  unfold recallUnits
  split_ifs with many
  · have whole : toInt npoMax = ⌊npoMax⌋ := toInt_of_nonneg npoMax_nonneg
    have floor_nonneg : 0 ≤ ⌊npoMax⌋ := Int.floor_nonneg.mpr npoMax_nonneg
    have floor_lt : ⌊npoMax⌋ < state.npoCur := Int.floor_lt.mpr many
    have all := ahead_all balanced.now_lt emptied.logp
    have planned := balanced.planned
    obtain ⟨scanned, amount⟩ := scan_spec (scanned_apart) balanced.logp_nonneg
      (by omega : (0 : Int) ≤ state.npoCur - toInt npoMax) (by omega)
    rw [sub_zero] at amount
    have cutToo : total (scan (state.npoCur - toInt npoMax) (List.range' 1 (logSize - 1)) 0 state).log =
        total state.log - (state.npoCur - toInt npoMax) := by
      have both := Finset.sum_congr (rfl : Finset.range logSize = _) fun slot _ => scanned.forced slot
      rw [Finset.sum_sub_distrib, Finset.sum_sub_distrib] at both
      unfold total at amount ⊢
      omega
    have units := balanced.units
    have available := balanced.aun_nonneg
    have sameAun := scanned.aun
    refine ⟨?_, ?_, scanned.now, scanned.logp_le, scanned.forced⟩
    · exact
        { now_lt := scanned.now.trans_lt balanced.now_lt
          aun_nonneg := by dsimp only; omega
          units := by dsimp only; omega
          planned := by dsimp only; omega
          logp_nonneg := scanned.logp_nonneg
          logp_le := by
            intro slot inside
            have same := scanned.forced slot
            have before := balanced.logp_le slot inside
            dsimp only
            omega }
    · dsimp only
      rw [whole]
      exact Int.floor_le npoMax
  · exact ⟨balanced, not_lt.mp many, rfl, fun _ => le_rfl, fun _ => rfl⟩

theorem withStock_within (aun_nonneg : 0 ≤ state.aun) (poc : Int) :
    0 ≤ (state.withStock poc).1 ∧ (state.withStock poc).1 ≤ state.aun := by
  unfold withStock
  dsimp only
  split_ifs with within more
  · exact within
  · exact ⟨aun_nonneg, le_rfl⟩
  · exact ⟨le_rfl, aun_nonneg⟩

/-- The bounds of planned outages keep the number of units available, and `NPO_cur` counts them. -/
theorem withinBounds_spec {npoMin npoMax : Rat} {poc stock : Int} (npoMin_nonneg : 0 ≤ npoMin)
    (ordered : npoMin ≤ npoMax) (current : (state.npoCur : Rat) ≤ npoMax) (poc_nonneg : 0 ≤ poc)
    (poc_le : poc ≤ state.aun) :
    let bounded := state.withinBounds npoMin npoMax poc stock
    (0 ≤ bounded.1 ∧ bounded.1 ≤ state.aun) ∧ bounded.2.2 = state.npoCur + bounded.1 ∧ (bounded.2.2 : Rat) ≤ npoMax := by
  have wholeMax : toInt npoMax = ⌊npoMax⌋ := toInt_of_nonneg (le_trans npoMin_nonneg ordered)
  have wholeMin : toInt npoMin = ⌊npoMin⌋ := toInt_of_nonneg npoMin_nonneg
  have above : state.npoCur ≤ ⌊npoMax⌋ := Int.le_floor.mpr current
  unfold withinBounds
  dsimp only
  split_ifs with above under short
  · have floor_lt : ⌊npoMax⌋ < poc + state.npoCur := Int.floor_lt.mpr (by exact_mod_cast above)
    rw [wholeMax]
    dsimp only
    exact ⟨⟨by omega, by omega⟩, by omega, Int.floor_le _⟩
  · refine ⟨⟨le_trans poc_nonneg poc_le, le_rfl⟩, rfl, ?_⟩
    push_cast
    linarith
  · have floor_ge : poc + state.npoCur ≤ ⌊npoMin⌋ := Int.le_floor.mpr (by push_cast; exact under.le)
    have room : ⌊npoMin⌋ ≤ state.npoCur + state.aun := by
      have small := not_lt.mp short
      have floored := Int.floor_le npoMin
      exact_mod_cast (by push_cast; linarith : ((⌊npoMin⌋ : Int) : Rat) ≤ ((state.npoCur + state.aun : Int) : Rat))
    rw [wholeMin]
    dsimp only
    exact ⟨⟨by omega, by omega⟩, by omega, le_trans (Int.floor_le _) ordered⟩
  · refine ⟨⟨poc_nonneg, poc_le⟩, rfl, ?_⟩
    have small := not_lt.mp above
    push_cast
    linarith

end State

theorem reachedBy_le (number factor : Rat) {units : Nat} (left : Nat) (last cumul : Rat) :
    reachedBy number factor units left last cumul ≤ units := by
  induction left generalizing last cumul with
  | zero => exact le_rfl
  | succ left later =>
    unfold reachedBy
    dsimp only
    split_ifs
    · omega
    · exact later _ _

theorem drawUnits_le (number rate : Rat) (units : Nat) : drawUnits number rate units ≤ units := by
  unfold drawUnits
  dsimp only
  split_ifs
  · exact reachedBy_le _ _ _ _ _
  · exact Nat.zero_le _

theorem foc_within (generator : GeneratorTempData) (day : Nat) {state : State} (aun_nonneg : 0 ≤ state.aun) :
    0 ≤ generator.foc day state ∧ generator.foc day state ≤ state.aun := by
  unfold GeneratorTempData.foc GeneratorTempData.outOf
  split_ifs
  · have drawn := drawUnits_le (next (generator.word state.drawn)) (generator.lf day) state.aun.toNat
    omega
  · exact ⟨aun_nonneg, le_rfl⟩
  · exact ⟨le_rfl, aun_nonneg⟩

theorem departures_spec {unitCount : Nat} {aun poc foc : Int} (aun_le : aun ≤ unitCount)
    (planned : 0 ≤ poc ∧ poc ≤ aun) (forced : 0 ≤ foc ∧ foc ≤ aun) :
    let leaving := departures unitCount aun poc foc
    0 ≤ leaving.mxo ∧ 0 ≤ leaving.ppo ∧ 0 ≤ leaving.pfo ∧ leaving.ppo + leaving.mxo = poc ∧
      leaving.ppo + leaving.pfo + leaving.mxo ≤ aun := by
  unfold departures
  dsimp only
  split_ifs with single both some
  · dsimp only
    omega
  · dsimp only
    omega
  · dsimp only
    have positive : 0 < aun := by omega
    have product : 0 ≤ poc * foc := mul_nonneg planned.1 forced.1
    have mixed_nonneg : 0 ≤ poc * foc / aun := Int.ediv_nonneg product positive.le
    have mixed_le_planned : poc * foc / aun ≤ poc := Int.ediv_le_of_le_mul positive (by nlinarith)
    have mixed_le_forced : poc * foc / aun ≤ foc := Int.ediv_le_of_le_mul positive (by nlinarith)
    -- the units left over by both draws leave no fewer than none
    have mixed_ge : poc + foc - aun ≤ poc * foc / aun := by
      refine (Int.le_ediv_iff_mul_le positive).mpr ?_
      nlinarith [mul_nonneg (sub_nonneg.mpr planned.2) (sub_nonneg.mpr forced.2)]
    omega
  · dsimp only
    omega

structure PreproThermal.Checked (prepro : PreproThermal) (unitCount : Nat) (day : Nat) : Prop where
  foRate : 0 ≤ prepro.foRate day ∧ prepro.foRate day ≤ 1
  poRate : 0 ≤ prepro.poRate day ∧ prepro.poRate day ≤ 1
  foDuration : 1 ≤ prepro.foDuration day ∧ prepro.foDuration day ≤ 365
  poDuration : 1 ≤ prepro.poDuration day ∧ prepro.poDuration day ≤ 365
  npoMin_nonneg : 0 ≤ prepro.npoMin day
  npo : prepro.npoMin day ≤ prepro.npoMax day
  npoMax_le : prepro.npoMax day ≤ unitCount

structure GeneratorTempData.Loaded (generator : GeneratorTempData) : Prop where
  checked : ∀ day < daysPerYear, generator.prepro.Checked generator.cluster.unitCount day
  forcedVolatility : 0 ≤ generator.forcedVolatility ∧ generator.forcedVolatility ≤ 1
  plannedVolatility : 0 ≤ generator.plannedVolatility ∧ generator.plannedVolatility ≤ 1

def Outage.due (time : Nat) (outage : Outage) : Nat := (time + outage.delay).toNat

namespace Day

variable (today : Day)

variable (time due : Nat)

def forcedFor : Int :=
  bookedIn (Outage.due time) Outage.number (today.outages.filter fun outage => !outage.planned) due

def plannedFor : Int :=
  bookedIn (Outage.due time) Outage.number (today.outages.filter fun outage => outage.planned) due

/-- Planned outages that are cut short on a day, by the day on which they were due. -/
def recalledFor : Int :=
  if time < due ∧ due < time + logSize then today.recalled (due % logSize) else 0

end Day

namespace GeneratorTempData

variable {generator : GeneratorTempData} {day : Nat} {morning : State}

section
variable (loaded : generator.Loaded) (inYear : day < daysPerYear)
include loaded inYear

theorem fodReel_bounds {fodReel : Int} (defined : generator.fodReel day morning = some fodReel)
    (drawn : generator.drawsForced day morning = true) : 1 ≤ fodReel ∧ fodReel ≤ 1999 := by
  unfold GeneratorTempData.fodReel at defined
  dsimp only at defined
  rw [if_pos drawn] at defined
  obtain ⟨mean_ge, mean_le⟩ := (loaded.checked day inYear).foDuration
  exact durationGenerator_bounds loaded.forcedVolatility.1 loaded.forcedVolatility.2 mean_ge mean_le defined

theorem podReel_bounds {podReel : Int} (defined : generator.podReel day morning = some podReel)
    (drawn : generator.drawsPlanned day morning = true) : 1 ≤ podReel ∧ podReel ≤ 1999 := by
  unfold GeneratorTempData.podReel at defined
  dsimp only at defined
  rw [if_pos drawn] at defined
  obtain ⟨mean_ge, mean_le⟩ := (loaded.checked day inYear).poDuration
  exact durationGenerator_bounds loaded.plannedVolatility.1 loaded.plannedVolatility.2 mean_ge mean_le defined

theorem outages_delay {fodReel podReel : Int} (forced : generator.fodReel day morning = some fodReel)
    (planned : generator.podReel day morning = some podReel) :
    ∀ outage ∈ (generator.leaving day morning).outages fodReel podReel,
      1 ≤ outage.delay ∧ outage.delay ≤ logSize - 1 := by
  intro outage listed
  obtain ⟨member, some⟩ := List.mem_filter.mp listed
  have size : (logSize : Int) = 4000 := rfl
  rw [List.mem_cons, List.mem_cons, List.mem_singleton] at member
  rcases member with rfl | rfl | rfl
  · have bounds := fodReel_bounds loaded inYear forced (by rw [drawsForced, some, Bool.true_or])
    dsimp only
    omega
  · have bounds := podReel_bounds loaded inYear planned (by rw [drawsPlanned, some, Bool.true_or])
    dsimp only
    omega
  · have first := fodReel_bounds loaded inYear forced (by rw [drawsForced, some, Bool.or_true])
    have second := podReel_bounds loaded inYear planned (by rw [drawsPlanned, some, Bool.or_true])
    dsimp only
    omega

end

theorem outage_slot_lt (now : Nat) (outage : Outage) : outage.slot now < logSize := by
  unfold Outage.slot logSize
  omega

theorem slot_eq_iff_due {time delay : Nat} {outage : Outage} (bounds : 1 ≤ outage.delay ∧ outage.delay ≤ logSize - 1)
    (near : delay < logSize) :
    outage.slot (time % logSize) = (time + delay) % logSize ↔ outage.due time = time + delay := by
  unfold Outage.slot Outage.due logSize at *
  omega

theorem outages_number (leaving : Departures) (fodReel podReel : Int) :
    ((leaving.outages fodReel podReel).map Outage.number).sum = leaving.pfo + leaving.ppo + leaving.mxo ∧
      (((leaving.outages fodReel podReel).filter fun outage => outage.planned).map Outage.number).sum =
        leaving.ppo + leaving.mxo := by
  have noOne {items : List Outage} : ((items.filter fun outage => outage.number != 0).map Outage.number).sum =
      (items.map Outage.number).sum := by
    induction items with
    | nil => rfl
    | cons item items later =>
      by_cases none : item.number = 0
      · simp [none, later]
      · simp [none, later]
  unfold Departures.outages
  rw [List.filter_comm, noOne, noOne]
  simp [add_assoc]

theorem bounded_spec (balanced : morning.Balanced generator.cluster.unitCount)
    (checked : generator.prepro.Checked generator.cluster.unitCount day)
    (current : (morning.npoCur : Rat) ≤ generator.prepro.npoMax day) :
    let bounded := generator.bounded day morning
    (0 ≤ bounded.1 ∧ bounded.1 ≤ morning.aun) ∧ bounded.2.2 = morning.npoCur + bounded.1 ∧
      (bounded.2.2 : Rat) ≤ generator.prepro.npoMax day := by
  obtain ⟨poc_nonneg, poc_le⟩ := State.withStock_within balanced.aun_nonneg (generator.poc day morning)
  exact State.withinBounds_spec checked.npoMin_nonneg checked.npo current poc_nonneg poc_le

theorem leaving_spec (balanced : morning.Balanced generator.cluster.unitCount)
    (checked : generator.prepro.Checked generator.cluster.unitCount day)
    (current : (morning.npoCur : Rat) ≤ generator.prepro.npoMax day) :
    let leaving := generator.leaving day morning
    0 ≤ leaving.mxo ∧ 0 ≤ leaving.ppo ∧ 0 ≤ leaving.pfo ∧
      leaving.ppo + leaving.mxo = (generator.bounded day morning).1 ∧
      leaving.ppo + leaving.pfo + leaving.mxo ≤ morning.aun :=
  departures_spec balanced.aun_le (bounded_spec balanced checked current).1
    (foc_within generator day balanced.aun_nonneg)

/-- Units that go out are booked, so that every unit stays counted. -/
theorem evening_spec (balanced : morning.Balanced generator.cluster.unitCount)
    (checked : generator.prepro.Checked generator.cluster.unitCount day)
    (current : (morning.npoCur : Rat) ≤ generator.prepro.npoMax day) (fodReel podReel : Int) :
    let final := generator.evening day morning ((generator.leaving day morning).outages fodReel podReel)
    final.Balanced generator.cluster.unitCount ∧ (final.npoCur : Rat) ≤ generator.prepro.npoMax day := by
  obtain ⟨-, counted, bound⟩ := bounded_spec balanced checked current
  obtain ⟨mixed, planned, forced, sum, room⟩ := leaving_spec balanced checked current
  obtain ⟨allNumbers, plannedNumbers⟩ := outages_number (generator.leaving day morning) fodReel podReel
  dsimp only at counted bound mixed planned forced sum room ⊢
  set outages := (generator.leaving day morning).outages fodReel podReel with definition
  have nonneg : ∀ outage ∈ outages, 0 ≤ outage.number := by
    intro outage listed
    have member := List.mem_of_mem_filter listed
    rw [List.mem_cons, List.mem_cons, List.mem_singleton] at member
    rcases member with rfl | rfl | rfl
    · exact forced
    · exact planned
    · exact mixed
  -- each outage is booked in one slot, so the sums over the slots grow by the outages of the day
  have places : ∀ outage ∈ outages, outage.slot morning.now < logSize := fun outage _ => outage_slot_lt _ outage
  have units := balanced.units
  have plannedUnits := balanced.planned
  refine ⟨?_, bound⟩
  exact
    { now_lt := Nat.mod_lt _ (by decide)
      aun_nonneg := by
        dsimp only [evening]
        omega
      units := by
        simp only [evening, total, book_apply, Finset.sum_add_distrib, sum_bookedIn places]
        unfold total at units
        omega
      planned := by
        simp only [evening, total, book_apply, Finset.sum_add_distrib,
          sum_bookedIn fun outage listed => places outage (List.mem_of_mem_filter listed)]
        unfold total at plannedUnits
        omega
      logp_nonneg := by
        intro slot inside
        simp only [evening, book_apply]
        exact add_nonneg (balanced.logp_nonneg slot inside)
          (bookedIn_nonneg (fun outage listed => nonneg outage (List.mem_of_mem_filter listed)) slot)
      logp_le := by
        intro slot inside
        simp only [evening, book_apply]
        rw [← bookedIn_filter_add (fun outage : Outage => outage.planned) outages slot]
        have before := balanced.logp_le slot inside
        have rest : 0 ≤ bookedIn (Outage.slot morning.now) Outage.number
            (outages.filter fun outage => !outage.planned) slot :=
          bookedIn_nonneg (fun outage listed => nonneg outage (List.mem_of_mem_filter listed)) slot
        omega }

end GeneratorTempData

end Antares.Solver.ThermalOutages
