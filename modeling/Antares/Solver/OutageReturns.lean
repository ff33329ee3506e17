import Antares.Solver.OutageInvariants

/-! Runs of the generator over days and series: units come back on the day for which they were
booked, unless their planned outage is cut short, and the power that is available stays within the
power of all the units.
-/

set_option autoImplicit false

namespace Antares.Solver.ThermalOutages

open Data Library

namespace GeneratorTempData

section
variable (generator : GeneratorTempData)

noncomputable def forcedFor (time due : Nat) : Int :=
  match generator.dayOf time with
  | some today => today.forcedFor time due
  | none => 0

/-- What a day adds to the planned outages that are due on another, or takes from them. -/
noncomputable def plannedFor (time due : Nat) : Int :=
  match generator.dayOf time with
  | some today => today.plannedFor time due - today.recalledFor time due
  | none => 0

/-- The forced outages that are due on a day, as they were booked on the days before another. -/
noncomputable def forcedDue (time due : Nat) : Int := ∑ past ∈ Finset.range time, generator.forcedFor past due

noncomputable def plannedDue (time due : Nat) : Int := ∑ past ∈ Finset.range time, generator.plannedFor past due

/-- A day keeps every unit counted and books returns within a round. Forced outages end on the day
for which they were booked; planned ones too, but for those that were cut short. -/
structure Sound (time : Nat) (today : Day) : Prop where
  units : today.final.aun + total today.final.log = generator.cluster.unitCount
  aun_nonneg : 0 ≤ today.final.aun
  aun_le : today.final.aun ≤ generator.cluster.unitCount
  planned : today.final.npoCur = total today.final.logp
  planned_le : (today.final.npoCur : Rat) ≤ generator.prepro.npoMax (time % daysPerYear)
  slots : ∀ slot < logSize, 0 ≤ today.final.logp slot ∧ today.final.logp slot ≤ today.final.log slot
  delays : ∀ outage ∈ today.outages, 1 ≤ outage.delay ∧ outage.delay ≤ logSize - 1
  forcedBack : today.back - today.plannedBack = generator.forcedDue time time
  plannedBack : today.plannedBack = generator.plannedDue time time
  recalled_nonneg : ∀ slot, 0 ≤ today.recalled slot

structure Follows (time : Nat) (state : State) : Prop where
  balanced : state.Balanced generator.cluster.unitCount
  now : state.now = time % logSize
  forced : Shows logSize (fun slot => state.log slot - state.logp slot) time (generator.forcedDue time)
  planned : Shows logSize state.logp time (generator.plannedDue time)

end

variable {generator : GeneratorTempData} {time : Nat} {state : State} {today : Day}

theorem dayOf_eq (reached : generator.after time = some state) :
    generator.dayOf time = generator.step (time % daysPerYear) state := by
  rw [dayOf, reached, Option.bind_some]

theorem after_succ (time : Nat) : generator.after (time + 1) = (generator.dayOf time).map (·.final) := rfl

theorem forcedDue_succ (ran : generator.dayOf time = some today) :
    generator.forcedDue (time + 1) = fun due => generator.forcedDue time due + today.forcedFor time due := by
  funext due
  rw [forcedDue, Finset.sum_range_succ, forcedFor, ran, forcedDue]

theorem plannedDue_succ (ran : generator.dayOf time = some today) :
    generator.plannedDue (time + 1) = fun due =>
      generator.plannedDue time due + (today.plannedFor time due - today.recalledFor time due) := by
  funext due
  rw [plannedDue, Finset.sum_range_succ, plannedFor, ran, plannedDue]

theorem step_cases {day : Nat} (ran : generator.step day state = some today) :
    ∃ fodReel podReel, generator.fodReel day (generator.morning day state) = some fodReel ∧
      generator.podReel day (generator.morning day state) = some podReel ∧
      today =
        { back := state.log state.now
          plannedBack := state.logp state.now
          recalled := fun slot => state.comeBack.logp slot - (generator.morning day state).logp slot
          outages := (generator.leaving day (generator.morning day state)).outages fodReel podReel
          final := generator.evening day (generator.morning day state)
            ((generator.leaving day (generator.morning day state)).outages fodReel podReel) } := by
  obtain ⟨fodReel, forced, rest⟩ := Option.bind_eq_some_iff.mp ran
  obtain ⟨podReel, planned, rfl⟩ := Option.map_eq_some_iff.mp rest
  exact ⟨fodReel, podReel, forced, planned, rfl⟩

section
variable {outages : List Outage} (within : ∀ outage ∈ outages, 1 ≤ outage.delay ∧ outage.delay ≤ logSize - 1)
include within

theorem bookedIn_slot (time : Nat) {delay : Nat} (near : delay < logSize) :
    bookedIn (Outage.slot (time % logSize)) Outage.number outages ((time + delay) % logSize) =
      bookedIn (Outage.due time) Outage.number outages (time + delay) :=
  bookedIn_congr fun outage listed => slot_eq_iff_due (within outage listed) near

theorem bookedIn_outside (time : Nat) {due : Nat} (outside : due ≤ time ∨ time + logSize ≤ due) :
    bookedIn (Outage.due time) Outage.number outages due = 0 := by
  apply bookedIn_eq_zero
  intro outage listed same
  have bounds := within outage listed
  unfold Outage.due logSize at *
  omega

end

/-- The state of the morning: nobody is due any more, and the slots ahead hold no more than before. -/
structure MorningOf (generator : GeneratorTempData) (day : Nat) (state morning : State) : Prop where
  balanced : morning.Balanced generator.cluster.unitCount
  current : (morning.npoCur : Rat) ≤ generator.prepro.npoMax day
  recalled : state.comeBack.Recalled morning
  emptied : morning.Emptied

variable {day : Nat}

theorem morning_spec (balanced : state.Balanced generator.cluster.unitCount)
    (checked : generator.prepro.Checked generator.cluster.unitCount day) :
    generator.MorningOf day state (generator.morning day state) := by
  obtain ⟨kept, current, recalled⟩ := State.recall_spec (le_trans checked.npoMin_nonneg checked.npo)
    balanced.comeBack State.comeBack_emptied
  have noLogp : (generator.morning day state).logp (generator.morning day state).now = 0 := by
    refine le_antisymm ?_ (kept.logp_nonneg _ kept.now_lt)
    have before := recalled.logp_le (generator.morning day state).now
    rw [show (generator.morning day state).now = state.comeBack.now from recalled.now] at before ⊢
    rwa [State.comeBack_emptied.logp] at before
  have noLog : (generator.morning day state).log (generator.morning day state).now = 0 := by
    have forced := recalled.forced (generator.morning day state).now
    have nowSame : (generator.morning day state).now = state.comeBack.now := recalled.now
    have before : state.comeBack.log (generator.morning day state).now -
        state.comeBack.logp (generator.morning day state).now = 0 := by
      rw [nowSame, State.comeBack_emptied.log, State.comeBack_emptied.logp, sub_self]
    change (generator.morning day state).log _ - (generator.morning day state).logp _ = _ at forced
    omega
  exact ⟨kept, current, recalled, noLog, noLogp⟩

theorem evening_slots (morning : State) (outages : List Outage) (slot : Nat) :
    (generator.evening day morning outages).logp slot =
        morning.logp slot + bookedIn (Outage.slot morning.now) Outage.number
          (outages.filter fun outage => outage.planned) slot ∧
      (generator.evening day morning outages).log slot - (generator.evening day morning outages).logp slot =
        morning.log slot - morning.logp slot + bookedIn (Outage.slot morning.now) Outage.number
          (outages.filter fun outage => !outage.planned) slot := by
  have parts : bookedIn (Outage.slot morning.now) Outage.number (outages.filter fun outage => outage.planned) slot +
      bookedIn (Outage.slot morning.now) Outage.number (outages.filter fun outage => !outage.planned) slot =
        bookedIn (Outage.slot morning.now) Outage.number outages slot :=
    bookedIn_filter_add (fun outage => outage.planned) outages slot
  simp only [evening, book_apply]
  exact ⟨trivial, by linarith⟩

theorem Follows.step (loaded : generator.Loaded) (follows : generator.Follows time state)
    (reached : generator.after time = some state) (ran : generator.step (time % daysPerYear) state = some today) :
    generator.Sound time today ∧ generator.Follows (time + 1) today.final := by
  have named : generator.dayOf time = some today := (dayOf_eq reached).trans ran
  have inYear : time % daysPerYear < daysPerYear := Nat.mod_lt _ (by decide)
  have checked := loaded.checked _ inYear
  have morning := morning_spec follows.balanced checked
  have forcedNext := forcedDue_succ named
  have plannedNext := plannedDue_succ named
  obtain ⟨fodReel, podReel, forced, planned, sameDay⟩ := step_cases ran
  have delays := outages_delay loaded inYear forced planned
  obtain ⟨final, bound⟩ := evening_spec morning.balanced checked morning.current fodReel podReel
  have now : (generator.morning (time % daysPerYear) state).now = time % logSize :=
    morning.recalled.now.trans follows.now
  generalize generator.morning (time % daysPerYear) state = dawn at *
  generalize (generator.leaving (time % daysPerYear) dawn).outages fodReel podReel = outages at *
  have forcedDelays : ∀ outage ∈ outages.filter fun outage => !outage.planned,
      1 ≤ outage.delay ∧ outage.delay ≤ logSize - 1 := fun outage listed => delays _ (List.mem_of_mem_filter listed)
  have plannedDelays : ∀ outage ∈ outages.filter fun outage => outage.planned,
      1 ≤ outage.delay ∧ outage.delay ≤ logSize - 1 := fun outage listed => delays _ (List.mem_of_mem_filter listed)
  have noDelay : (time + 0) % logSize = time % logSize := rfl
  have round : 0 < logSize := by decide
  have todayForced := (bookedIn_slot forcedDelays time round).trans (bookedIn_outside forcedDelays time (Or.inl le_rfl))
  have todayPlanned :=
    (bookedIn_slot plannedDelays time round).trans (bookedIn_outside plannedDelays time (Or.inl le_rfl))
  rw [noDelay] at todayForced todayPlanned
  have emptyLog := morning.emptied.log
  have emptyLogp := morning.emptied.logp
  rw [now] at emptyLog emptyLogp
  -- a slot ahead is not the one of the day
  have ahead {delay : Nat} (later : 0 < delay) (near : delay < logSize) : (time + delay) % logSize ≠ state.now := by
    rw [follows.now]
    exact fun same => later.ne' ((slot_eq_iff near round).mp (same.trans noDelay.symm))
  have shownForced : Shows logSize (fun slot => today.final.log slot - today.final.logp slot) (time + 1)
      (generator.forcedDue (time + 1)) := by
    rw [forcedNext, sameDay]
    refine follows.forced.turn ?_ ?_ fun due late => bookedIn_outside forcedDelays time (Or.inr late)
    · rw [(evening_slots dawn outages _).2, now, emptyLog, emptyLogp, todayForced]
      rfl
    · intro delay later near
      rw [(evening_slots dawn outages _).2, now, bookedIn_slot forcedDelays time near, morning.recalled.forced,
        State.comeBack_log_of_ne (ahead later near), State.comeBack_logp_of_ne (ahead later near)]
      rfl
  have shownPlanned : Shows logSize today.final.logp (time + 1) (generator.plannedDue (time + 1)) := by
    rw [plannedNext, sameDay]
    refine follows.planned.turn ?_ ?_ ?_
    · rw [(evening_slots dawn outages _).1, now, emptyLogp, todayPlanned]
      rfl
    · intro delay later near
      rw [(evening_slots dawn outages _).1, now, bookedIn_slot plannedDelays time near, Day.recalledFor,
        if_pos ⟨by omega, by omega⟩]
      dsimp only [Day.plannedFor]
      rw [State.comeBack_logp_of_ne (ahead later near)]
      omega
    · intro due late
      rw [Day.recalledFor, if_neg (by omega), sub_zero]
      exact bookedIn_outside plannedDelays time (Or.inr late)
  have shownToday := follows.forced.near 0 round
  have plannedToday := follows.planned.near 0 round
  rw [noDelay, ← follows.now] at shownToday plannedToday
  have nowNext : today.final.now = (time + 1) % logSize := by
    rw [sameDay]
    change (dawn.now + 1) % logSize = _
    rw [now, Nat.mod_add_mod]
  subst sameDay
  exact
    ⟨{ units := final.units
       aun_nonneg := final.aun_nonneg
       aun_le := final.aun_le
       planned := final.planned
       planned_le := bound
       slots := fun slot inside => ⟨final.logp_nonneg slot inside, final.logp_le slot inside⟩
       delays := delays
       forcedBack := shownToday
       plannedBack := plannedToday
       recalled_nonneg := fun slot => sub_nonneg.mpr (morning.recalled.logp_le slot) },
      { balanced := final
        now := nowNext
        forced := shownForced
        planned := shownPlanned }⟩

/-- No duration of the day is drawn from a geometric law with the number zero. -/
def DurationsDefined (generator : GeneratorTempData) (day : Nat) (morning : State) : Prop :=
  (generator.drawsForced day morning = true → DureeDefinie generator.forcedLaw (generator.fod day)
    generator.forcedVolatility (generator.word (generator.drawnAfterPoc day morning))) ∧
  (generator.drawsPlanned day morning = true → DureeDefinie generator.plannedLaw (generator.pod day)
    generator.plannedVolatility (generator.word (generator.drawnAfterFod day morning)))

theorem fodReel_isSome_iff {morning : State} :
    (generator.fodReel day morning).isSome ↔ (generator.drawsForced day morning = true →
      DureeDefinie generator.forcedLaw (generator.fod day) generator.forcedVolatility
        (generator.word (generator.drawnAfterPoc day morning))) := by
  unfold fodReel
  dsimp only
  split_ifs with drawn
  · rw [durationGenerator_isSome_iff]
    exact (imp_iff_right drawn).symm
  · exact ⟨fun _ absurd => (drawn absurd).elim, fun _ => rfl⟩

theorem podReel_isSome_iff {morning : State} :
    (generator.podReel day morning).isSome ↔ (generator.drawsPlanned day morning = true →
      DureeDefinie generator.plannedLaw (generator.pod day) generator.plannedVolatility
        (generator.word (generator.drawnAfterFod day morning))) := by
  unfold podReel
  dsimp only
  split_ifs with drawn
  · rw [durationGenerator_isSome_iff]
    exact (imp_iff_right drawn).symm
  · exact ⟨fun _ absurd => (drawn absurd).elim, fun _ => rfl⟩

theorem step_isSome_iff :
    (generator.step day state).isSome ↔ generator.DurationsDefined day (generator.morning day state) := by
  rw [DurationsDefined, ← fodReel_isSome_iff, ← podReel_isSome_iff, step]
  cases generator.fodReel day (generator.morning day state) <;>
    cases generator.podReel day (generator.morning day state) <;> simp

theorem initial_isSome_iff : generator.initial.isSome ↔ generator.cluster.unitCount + 1 ≤ powersOfADay := by
  unfold initial
  split_ifs with fits
  · simp [fits]
  · simp [fits]

theorem initial_follows {state : State} (start : generator.after 0 = some state) : generator.Follows 0 state := by
  unfold after initial at start
  split_ifs at start
  obtain rfl := Option.some.inj start
  have empty : total (fun _ => 0) = 0 := Finset.sum_const_zero
  exact
    { balanced :=
        { now_lt := (by decide : 0 < logSize)
          aun_nonneg := Int.natCast_nonneg _
          units := by rw [empty, add_zero]
          planned := empty.symm
          logp_nonneg := fun _ _ => le_rfl
          logp_le := fun _ _ => le_rfl }
      now := rfl
      forced := ⟨fun _ _ => rfl, fun _ _ => rfl⟩
      planned := ⟨fun _ _ => rfl, fun _ _ => rfl⟩ }

theorem follows_of_reached (loaded : generator.Loaded) {time : Nat} {state : State}
    (reached : generator.after time = some state) : generator.Follows time state := by
  induction time generalizing state with
  | zero => exact initial_follows reached
  | succ time earlier =>
    rw [after_succ] at reached
    obtain ⟨today, ran, rfl⟩ := Option.map_eq_some_iff.mp reached
    obtain ⟨before, reachedBefore, stepped⟩ := Option.bind_eq_some_iff.mp ran
    exact ((earlier reachedBefore).step loaded reachedBefore stepped).2

theorem reached_of_defined {days : Nat} (fits : generator.cluster.unitCount + 1 ≤ powersOfADay)
    (defined : ∀ time < days, ∀ state, generator.after time = some state →
      generator.DurationsDefined (time % daysPerYear) (generator.morning (time % daysPerYear) state)) :
    (generator.after days).isSome := by
  induction days with
  | zero => exact initial_isSome_iff.mpr fits
  | succ days earlier =>
    obtain ⟨state, reached⟩ :=
      Option.isSome_iff_exists.mp (earlier fun time early => defined time (Nat.lt_succ_of_lt early))
    have ran := step_isSome_iff.mpr (defined days (Nat.lt_succ_self _) state reached)
    rw [after_succ, dayOf_eq reached, Option.isSome_map]
    exact ran

theorem avp_of_units (loaded : generator.Loaded) (tsIndex day : Nat) :
    ∃ units : Int, (0 ≤ units ∧ units ≤ generator.cluster.unitCount) ∧
      generator.avp tsIndex day = units * generator.cluster.nominalCapacity := by
  unfold avp
  cases ran : generator.dayOf ((tsIndex + 2) * daysPerYear + day) with
  | none => exact ⟨0, ⟨le_rfl, Int.natCast_nonneg _⟩, by rw [Int.cast_zero, zero_mul]⟩
  | some today =>
    obtain ⟨before, reached, stepped⟩ := Option.bind_eq_some_iff.mp ran
    have sound := ((follows_of_reached loaded reached).step loaded reached stepped).1
    exact ⟨today.final.aun, ⟨sound.aun_nonneg, sound.aun_le⟩, rfl⟩

theorem mathRound_units_mem {units all : Int} (within : 0 ≤ units ∧ units ≤ all) (power : Rat) :
    mathRound (units * power) ∈ Set.uIcc 0 (mathRound (all * power)) := by
  have lower : (0 : Rat) ≤ units := Int.cast_nonneg_iff.mpr within.1
  have upper : (units : Rat) ≤ all := Int.cast_le.mpr within.2
  rw [← mathRound_zero]
  apply Set.mem_uIcc.mpr
  rcases le_total 0 power with positive | negative
  · exact Or.inl ⟨mathRound_mono (mul_nonneg lower positive), mathRound_mono (mul_le_mul_of_nonneg_right upper positive)⟩
  · exact Or.inr ⟨mathRound_mono (mul_le_mul_of_nonpos_right upper negative),
      mathRound_mono (mul_nonpos_of_nonneg_of_nonpos lower negative)⟩

theorem drawnSeries_within (loaded : generator.Loaded) (study : ThermalSpinning.ThermalStudy)
    (data : ThermalSpinning.ClusterData) :
    (study.drawnSeries data generator.cluster generator.avp).Within fun hour =>
      mathRound (generator.cluster.unitCount * generator.cluster.nominalCapacity * data.modulation hour) := by
  unfold ThermalSpinning.ThermalStudy.drawnSeries
  dsimp only
  have written : Matrix.Within
      { width := study.parameters.nbTimeSeries .thermal
        height := hoursPerYear
        entry := fun tsIndex hour => mathRound (generator.avp tsIndex (hour / 24) * data.modulation hour) }
      fun hour => mathRound (generator.cluster.unitCount * generator.cluster.nominalCapacity * data.modulation hour) := by
    intro tsIndex _ hour _
    obtain ⟨units, within, power⟩ := avp_of_units loaded tsIndex (hour / 24)
    have member := mathRound_units_mem within (generator.cluster.nominalCapacity * data.modulation hour)
    dsimp only
    rw [power, mul_assoc, mul_assoc]
    exact member
  split_ifs
  · intro _ _ _ _
    exact Set.left_mem_uIcc
  · exact written.averageTimeseries fun hour => ⟨_, rfl⟩
  · exact written

theorem numberOfDays_pos (units : 0 < generator.cluster.unitCount) (power : generator.cluster.nominalCapacity ≠ 0)
    (nbThermalTimeseries : Nat) : 0 < generator.numberOfDays nbThermalTimeseries := by
  unfold numberOfDays daysPerYear
  rw [if_neg (by simp [units.ne', power])]
  omega

end GeneratorTempData

/-- One unit that fails every day, over durations of two days on average; the random numbers are zero. -/
def zeroDraw : GeneratorTempData where
  cluster :=
    { enabled := true
      mustrun := false
      tsGenBehavior := .forceGen
      hasPrepro := true
      unitCount := 1
      nominalCapacity := 100
      seriesWidth := 1 }
  prepro :=
    { foDuration := fun _ => 2
      poDuration := fun _ => 1
      foRate := fun _ => 1
      poRate := fun _ => 0
      npoMin := fun _ => 0
      npoMax := fun _ => 0 }
  forcedLaw := .geometric
  plannedLaw := .uniform
  forcedVolatility := 1
  plannedVolatility := 0
  word := fun _ => 0

theorem zeroDraw_loaded : zeroDraw.Loaded where
  checked _ _ := by constructor <;> norm_num [zeroDraw]
  forcedVolatility := by decide +kernel
  plannedVolatility := by decide +kernel

/-- The same unit with durations that are drawn from a uniform law. -/
def uniformDraw : GeneratorTempData := { zeroDraw with forcedLaw := .uniform }

theorem uniformDraw_loaded : uniformDraw.Loaded := ⟨zeroDraw_loaded.1, zeroDraw_loaded.2, zeroDraw_loaded.3⟩

end Antares.Solver.ThermalOutages
