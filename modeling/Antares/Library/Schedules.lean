import Mathlib.Algebra.BigOperators.Ring.Finset
import Mathlib.Data.Int.ConditionallyCompleteOrder
import Mathlib.Data.Int.Interval
import Mathlib.Data.Int.ModEq
import Mathlib.Order.Interval.Finset.Nat
import Mathlib.Tactic.Linarith

/-! Units that are on or off in every hour of an unbounded time. Counts of units are realised by a
schedule that serves units first in first out exactly when they fit the windows of the minimum
durations.
-/

set_option autoImplicit false

namespace Antares.Library

abbrev Schedule (ι : Type) : Type := ι → Int → Bool

namespace Schedule

section
variable {ι : Type} (schedule : Schedule ι)

def off : Schedule ι := fun unit hour => !schedule unit hour

def starts (unit : ι) (hour : Int) : Bool := schedule unit hour && !schedule unit (hour - 1)

def MinOn (hours : Nat) : Prop :=
  ∀ unit hour, schedule.starts unit hour = true → ∀ later : Nat, later < hours →
    schedule unit (hour + later) = true

/-- No unit is off again as long as one that started before it is still on. -/
def FirstInFirstOut : Prop :=
  ∀ first second start startAfter stop, schedule.starts first start = true →
    schedule.starts second startAfter = true → start < startAfter → startAfter < stop →
    schedule second stop = false → ∃ earlier, start < earlier ∧ earlier ≤ stop ∧ schedule first earlier = false

theorem off_starts (unit : ι) (hour : Int) :
    schedule.off.starts unit hour = (schedule unit (hour - 1) && !schedule unit hour) := by
  rw [starts, off, off, Bool.not_not, Bool.and_comm]

variable [Fintype ι]

variable (hour : Int)

def numberOn : Nat := (Finset.univ.filter fun unit => schedule unit hour = true).card

def numberStarting : Nat := (Finset.univ.filter fun unit => schedule.starts unit hour = true).card

def numberStopping : Nat := schedule.off.numberStarting hour

variable {schedule}

theorem numberOn_off (hour : Int) : schedule.off.numberOn hour + schedule.numberOn hour = Fintype.card ι := by
  have complement : (Finset.univ.filter fun unit => schedule.off unit hour = true) =
      Finset.univ.filter fun unit => ¬schedule unit hour = true :=
    Finset.filter_congr fun unit _ => by simp [off]
  rw [numberOn, numberOn, complement, add_comm, Finset.card_filter_add_card_filter_not, Finset.card_univ]

theorem numberOn_balance (hour : Int) :
    schedule.numberOn hour + schedule.numberStopping hour =
      schedule.numberOn (hour - 1) + schedule.numberStarting hour := by
  classical
  have either (first second : ι → Bool) :
      (Finset.univ.filter fun unit => first unit = true).card +
          (Finset.univ.filter fun unit => (second unit && !first unit) = true).card =
        (Finset.univ.filter fun unit => first unit = true ∨ second unit = true).card := by
    rw [← Finset.card_union_of_disjoint]
    · refine congrArg Finset.card (Finset.ext fun unit => ?_)
      simp only [Finset.mem_union, Finset.mem_filter, Finset.mem_univ, true_and]
      cases first unit <;> cases second unit <;> simp
    · refine Finset.disjoint_filter.mpr fun unit _ isFirst => ?_
      simp [isFirst]
  calc schedule.numberOn hour + schedule.numberStopping hour
      = (Finset.univ.filter fun unit => schedule unit hour = true ∨ schedule unit (hour - 1) = true).card := by
        simp only [numberOn, numberStopping, numberStarting, off_starts]
        exact either _ _
    _ = (Finset.univ.filter fun unit => schedule unit (hour - 1) = true ∨ schedule unit hour = true).card := by
        simp only [or_comm]
    _ = schedule.numberOn (hour - 1) + schedule.numberStarting hour := (either _ _).symm

theorem sum_numberStarting_le {hours : Nat} (minOn : schedule.MinOn hours) (hour : Int) :
    ∑ earlier ∈ Finset.range hours, schedule.numberStarting (hour - earlier) ≤ schedule.numberOn hour := by
  classical
  unfold numberStarting
  rw [← Finset.card_biUnion]
  · refine Finset.card_le_card fun unit started => ?_
    simp only [Finset.mem_biUnion, Finset.mem_range, Finset.mem_filter, Finset.mem_univ, true_and] at started ⊢
    obtain ⟨earlier, inWindow, start⟩ := started
    have kept := minOn unit _ start earlier inWindow
    rwa [sub_add_cancel] at kept
  · -- a unit that starts in the window has no time to start again
    have once {later earlier : Nat} (inWindow : earlier < hours) (before : later < earlier) (unit : ι)
        (first : schedule.starts unit (hour - earlier) = true) (again : schedule.starts unit (hour - later) = true) :
        False := by
      have kept := minOn unit _ first (earlier - later - 1) (by omega)
      have place : hour - (earlier : Int) + ((earlier - later - 1 : Nat) : Int) = hour - later - 1 := by omega
      rw [place] at kept
      simp only [starts, Bool.and_eq_true, Bool.not_eq_true'] at again
      rw [again.2] at kept
      cases kept
    intro left leftWindow right rightWindow different
    refine Finset.disjoint_filter.mpr fun unit _ isLeft isRight => ?_
    rcases Nat.lt_or_gt_of_ne different with before | after
    · exact once (Finset.mem_range.mp rightWindow) before unit isRight isLeft
    · exact once (Finset.mem_range.mp leftWindow) after unit isLeft isRight

end

end Schedule

section
variable {m : Nat}

def served (m : Nat) (after upTo : Int) (unit : Fin m) : Prop := ∃ turn ∈ Finset.Ioc after upTo, turn % m = unit

theorem served_iff {after upTo : Int} {unit : Fin m} :
    served m after upTo unit ↔ ∃ gap ∈ List.range (upTo - after).toNat, (after + 1 + (gap : Int)) % m = unit := by
  constructor
  · intro isServed
    obtain ⟨turn, inside, place⟩ := isServed
    have bounds := Finset.mem_Ioc.mp inside
    have gap : after + 1 + ((turn - after - 1).toNat : Int) = turn := by omega
    exact ⟨(turn - after - 1).toNat, List.mem_range.mpr (by omega), by rw [gap, place]⟩
  · intro isServed
    obtain ⟨gap, inside, place⟩ := isServed
    have bound := List.mem_range.mp inside
    exact ⟨after + 1 + (gap : Int), Finset.mem_Ioc.mpr ⟨by omega, by omega⟩, place⟩

instance (after upTo : Int) : DecidablePred (served m after upTo) := fun _ => decidable_of_iff' _ served_iff

theorem turn_unique {first second : Int} (same : first % m = second % m) (near : |first - second| < m) :
    first = second := by
  have divides : (m : Int) ∣ first - second := Int.ModEq.dvd (Int.ModEq.symm same)
  exact sub_eq_zero.mp (Int.eq_zero_of_abs_lt_dvd divides near)

theorem card_served {after upTo : Int} (ordered : after ≤ upTo) (room : upTo ≤ after + m) :
    ((Finset.univ.filter (served m after upTo)).card : Int) = upTo - after := by
  have turns : (Finset.Ioc after upTo).card = (Finset.univ.filter (served m after upTo)).card := by
    refine Finset.card_bij (fun turn inside => ⟨(turn % m).toNat, ?_⟩) ?_ ?_ ?_
    · rw [Finset.mem_Ioc] at inside
      have positive : (0 : Int) < m := by omega
      have := Int.emod_nonneg turn positive.ne'
      have := Int.emod_lt_of_pos turn positive
      omega
    · intro turn inside
      have bounds := Finset.mem_Ioc.mp inside
      have nonneg := Int.emod_nonneg turn (show (m : Int) ≠ 0 by omega)
      exact Finset.mem_filter.mpr ⟨Finset.mem_univ _, turn, inside, (Int.toNat_of_nonneg nonneg).symm⟩
    · intro first firstInside second secondInside same
      have firstBounds := Finset.mem_Ioc.mp firstInside
      have secondBounds := Finset.mem_Ioc.mp secondInside
      have nonzero : (m : Int) ≠ 0 := by omega
      have firstNonneg := Int.emod_nonneg first nonzero
      have secondNonneg := Int.emod_nonneg second nonzero
      have equal : (first % m).toNat = (second % m).toNat := congrArg Fin.val same
      have places : first % m = second % m := by omega
      exact turn_unique places (abs_lt.mpr ⟨by omega, by omega⟩)
    · intro unit isServed
      obtain ⟨turn, inside, place⟩ := (Finset.mem_filter.mp isServed).2
      refine ⟨turn, inside, Fin.ext ?_⟩
      dsimp only
      rw [place, Int.toNat_natCast]
  rw [← turns, Int.card_Ioc, Int.toNat_of_nonneg (sub_nonneg.mpr ordered)]

theorem served_round (after upTo : Int) (unit : Fin m) :
    served m upTo (after + m) unit ↔ ¬served m after upTo unit := by
  have positive : (0 : Int) < m := by
    have := unit.isLt
    omega
  constructor
  · rintro ⟨late, lateInside, latePlace⟩ ⟨early, earlyInside, earlyPlace⟩
    have lateBounds := Finset.mem_Ioc.mp lateInside
    have earlyBounds := Finset.mem_Ioc.mp earlyInside
    have := turn_unique (latePlace.trans earlyPlace.symm) (abs_lt.mpr ⟨by omega, by omega⟩)
    omega
  · intro notYet
    -- the turn of the unit in the round
    have turnPlace : (after + 1 + (unit - (after + 1)) % m) % m = unit := by
      rw [Int.add_emod_emod, add_sub_cancel]
      exact Int.emod_eq_of_lt (by omega) (by exact_mod_cast unit.isLt)
    have nonneg := Int.emod_nonneg (unit - (after + 1)) positive.ne'
    have below := Int.emod_lt_of_pos (unit - (after + 1)) positive
    refine ⟨_, Finset.mem_Ioc.mpr ⟨?_, by omega⟩, turnPlace⟩
    by_contra early
    exact notYet ⟨_, Finset.mem_Ioc.mpr ⟨by omega, not_lt.mp early⟩, turnPlace⟩

/-- The turns of the units that have started and stopped up to every hour. -/
structure Turns (m minOn minOff : Nat) (started stopped : Int → Int) : Prop where
  started_mono : ∀ hour, started (hour - 1) ≤ started hour
  stopped_mono : ∀ hour, stopped (hour - 1) ≤ stopped hour
  minOn_pos : 0 < minOn
  minOff_pos : 0 < minOff
  minOn : ∀ hour, stopped hour ≤ started (hour - minOn)
  minOff : ∀ hour, started hour ≤ stopped (hour - minOff) + m

def rotation (m : Nat) (started stopped : Int → Int) : Schedule (Fin m) := fun unit hour =>
  decide (served m (stopped hour) (started hour) unit)

variable {minOn minOff : Nat} {started stopped : Int → Int}

theorem monotone_of_steps {f : Int → Int} (steps : ∀ hour, f (hour - 1) ≤ f hour) : Monotone f := by
  refine monotone_int_of_le_succ fun hour => ?_
  have step := steps (hour + 1)
  rwa [add_sub_cancel_right] at step

theorem rotation_off (started stopped : Int → Int) :
    (rotation m started stopped).off = rotation m (fun hour => stopped hour + m) started := by
  funext unit hour
  rw [Schedule.off, rotation, rotation, ← decide_not]
  exact decide_eq_decide.mpr (served_round _ _ unit).symm

theorem exists_crossing {f : Int → Int} {value start stop : Int} (before : f start < value)
    (after : value ≤ f stop) (ordered : start ≤ stop) :
    ∃ hour, start < hour ∧ hour ≤ stop ∧ f (hour - 1) < value ∧ value ≤ f hour := by
  induction stop, ordered using Int.leInduction with
  | base => omega
  | succ last ordered ih =>
    by_cases passed : value ≤ f last
    · obtain ⟨hour, above, below, crosses⟩ := ih passed
      exact ⟨hour, above, by omega, crosses⟩
    · refine ⟨last + 1, by omega, le_rfl, ?_, after⟩
      rw [add_sub_cancel_right]
      exact not_le.mp passed

namespace Turns

variable (turns : Turns m minOn minOff started stopped)
include turns

theorem swap : Turns m minOff minOn (fun hour => stopped hour + m) started where
  started_mono hour := Int.add_le_add_right (turns.stopped_mono hour) _
  stopped_mono := turns.started_mono
  minOn_pos := turns.minOff_pos
  minOff_pos := turns.minOn_pos
  minOn := turns.minOff
  minOff hour := Int.add_le_add_right (turns.minOn hour) _

theorem stopped_le {hour earlier : Int} (before : hour - minOn ≤ earlier) : stopped hour ≤ started earlier :=
  (turns.minOn hour).trans (monotone_of_steps turns.started_mono before)

theorem starts_iff (unit : Fin m) (hour : Int) :
    (rotation m started stopped).starts unit hour = true ↔ served m (started (hour - 1)) (started hour) unit := by
  have minOnPos := turns.minOn_pos
  have stoppedBefore : stopped hour ≤ started (hour - 1) := turns.stopped_le (by omega)
  have startedBefore : started hour ≤ stopped (hour - 1) + m := turns.swap.stopped_le (by
    have := turns.minOff_pos
    omega)
  have stoppedMono := turns.stopped_mono hour
  simp only [Schedule.starts, rotation, Bool.and_eq_true, Bool.not_eq_true', decide_eq_true_eq, decide_eq_false_iff_not]
  constructor
  · rintro ⟨⟨turn, inside, place⟩, wasOff⟩
    rw [Finset.mem_Ioc] at inside
    refine ⟨turn, Finset.mem_Ioc.mpr ⟨?_, inside.2⟩, place⟩
    by_contra early
    exact wasOff ⟨turn, Finset.mem_Ioc.mpr ⟨by omega, not_lt.mp early⟩, place⟩
  · rintro ⟨turn, inside, place⟩
    rw [Finset.mem_Ioc] at inside
    refine ⟨⟨turn, Finset.mem_Ioc.mpr ⟨by omega, inside.2⟩, place⟩, ?_⟩
    rw [← served_round]
    exact ⟨turn, Finset.mem_Ioc.mpr ⟨inside.1, by omega⟩, place⟩

theorem rotation_minOn : (rotation m started stopped).MinOn minOn := by
  intro unit hour start later inside
  obtain ⟨turn, turnInside, place⟩ := (turns.starts_iff unit hour).mp start
  rw [Finset.mem_Ioc] at turnInside
  have notStopped : stopped (hour + later) ≤ started (hour - 1) := turns.stopped_le (by omega)
  have kept : started hour ≤ started (hour + later) := monotone_of_steps turns.started_mono (by omega)
  exact decide_eq_true ⟨turn, Finset.mem_Ioc.mpr ⟨by omega, by omega⟩, place⟩

theorem rotation_firstInFirstOut : (rotation m started stopped).FirstInFirstOut := by
  intro first second start startAfter stop firstStarts secondStarts before inTime secondOff
  have minOnPos := turns.minOn_pos
  have minOffPos := turns.minOff_pos
  have startedMono := monotone_of_steps turns.started_mono
  obtain ⟨turn, turnInside, turnPlace⟩ := (turns.starts_iff first start).mp firstStarts
  obtain ⟨turnAfter, afterInside, afterPlace⟩ := (turns.starts_iff second startAfter).mp secondStarts
  rw [Finset.mem_Ioc] at turnInside afterInside
  have startedBetween : started start ≤ started (startAfter - 1) := startedMono (by omega)
  have startedStop : started startAfter ≤ started stop := startedMono (by omega)
  have afterStopped : turnAfter ≤ stopped stop := by
    by_contra late
    refine of_decide_eq_false secondOff ⟨turnAfter, Finset.mem_Ioc.mpr ⟨not_le.mp late, by omega⟩, afterPlace⟩
  have notStopped : stopped start ≤ started (start - 1) := turns.stopped_le (by omega)
  -- the first unit stops in the hour that the stops pass its turn
  have running : stopped start < turn := by omega
  have reached : turn ≤ stopped stop := by omega
  obtain ⟨hour, above, below, notYet, passed⟩ := exists_crossing running reached (by omega)
  refine ⟨hour, above, below, decide_eq_false ?_⟩
  rw [← served_round]
  have room : started hour ≤ stopped (hour - 1) + m := turns.swap.stopped_le (by omega)
  refine ⟨turn + m, Finset.mem_Ioc.mpr ⟨by omega, by omega⟩, ?_⟩
  rw [Int.add_emod_right]
  exact turnPlace

variable (hour : Int)

theorem numberOn_rotation :
    ((rotation m started stopped).numberOn hour : Int) = started hour - stopped hour := by
  have minOnPos := turns.minOn_pos
  have minOffPos := turns.minOff_pos
  have units : (rotation m started stopped).numberOn hour =
      (Finset.univ.filter (served m (stopped hour) (started hour))).card :=
    congrArg Finset.card (Finset.filter_congr fun unit _ => decide_eq_true_iff)
  rw [units, card_served (turns.stopped_le (by omega)) (turns.swap.stopped_le (by omega))]

theorem numberStarting_rotation :
    ((rotation m started stopped).numberStarting hour : Int) = started hour - started (hour - 1) := by
  have minOnPos := turns.minOn_pos
  have minOffPos := turns.minOff_pos
  have units : (rotation m started stopped).numberStarting hour =
      (Finset.univ.filter (served m (started (hour - 1)) (started hour))).card :=
    congrArg Finset.card (Finset.filter_congr fun unit _ => turns.starts_iff unit hour)
  have room : started hour ≤ stopped (hour - 1) + m := turns.swap.stopped_le (by omega)
  have ahead : stopped (hour - 1) ≤ started (hour - 1) := turns.stopped_le (by omega)
  rw [units, card_served (turns.started_mono hour) (by omega)]

theorem numberStopping_rotation :
    ((rotation m started stopped).numberStopping hour : Int) = stopped hour - stopped (hour - 1) := by
  rw [Schedule.numberStopping, rotation_off, turns.swap.numberStarting_rotation]
  exact add_sub_add_right_eq_sub _ _ _

end Turns

end

/-- The minimum durations, on and off, and the order in which units are served. -/
structure Schedule.Admissible {ι : Type} (schedule : Schedule ι) (minOn minOff : Nat) : Prop where
  minOn : schedule.MinOn minOn
  minOff : schedule.off.MinOn minOff
  stopOrder : schedule.FirstInFirstOut
  startOrder : schedule.off.FirstInFirstOut

structure UnitCounts where
  on : Int → Int
  starting : Int → Int
  stopping : Int → Int

namespace UnitCounts

variable (counts : UnitCounts) {m minOn minOff : Nat}

structure RealisedBy (schedule : Schedule (Fin m)) : Prop where
  on : ∀ hour, (schedule.numberOn hour : Int) = counts.on hour
  starting : ∀ hour, (schedule.numberStarting hour : Int) = counts.starting hour
  stopping : ∀ hour, (schedule.numberStopping hour : Int) = counts.stopping hour

/-- The units that started during the minimum time on are on, those that stopped during the
minimum time off are off. -/
structure FitsWindows (m minOn minOff : Nat) : Prop where
  starting_nonneg : ∀ hour, 0 ≤ counts.starting hour
  stopping_nonneg : ∀ hour, 0 ≤ counts.stopping hour
  balance : ∀ hour, counts.on hour = counts.on (hour - 1) + counts.starting hour - counts.stopping hour
  minOn : ∀ hour, ∑ earlier ∈ Finset.range minOn, counts.starting (hour - earlier) ≤ counts.on hour
  minOff : ∀ hour, counts.on hour + ∑ earlier ∈ Finset.range minOff, counts.stopping (hour - earlier) ≤ m

theorem exists_cumulated (step : Int → Int) : ∃ total : Int → Int, ∀ hour, total hour - total (hour - 1) = step hour := by
  refine ⟨fun hour => ∑ past ∈ Finset.Ioc 0 hour, step past - ∑ future ∈ Finset.Ioc hour 0, step future, ?_⟩
  intro hour
  dsimp only
  by_cases positive : 0 < hour
  · have last : Finset.Ioc 0 hour = insert hour (Finset.Ioc 0 (hour - 1)) := by
      ext other
      simp only [Finset.mem_Ioc, Finset.mem_insert]
      omega
    have none : Finset.Ioc hour 0 = ∅ := Finset.Ioc_eq_empty (by omega)
    have noneBefore : Finset.Ioc (hour - 1) 0 = ∅ := Finset.Ioc_eq_empty (by omega)
    rw [last, none, noneBefore, Finset.sum_insert (by simp)]
    simp only [Finset.sum_empty]
    omega
  · have first : Finset.Ioc (hour - 1) 0 = insert hour (Finset.Ioc hour 0) := by
      ext other
      simp only [Finset.mem_Ioc, Finset.mem_insert]
      omega
    have none : Finset.Ioc 0 hour = ∅ := Finset.Ioc_eq_empty (by omega)
    have noneBefore : Finset.Ioc 0 (hour - 1) = ∅ := Finset.Ioc_eq_empty (by omega)
    rw [first, none, noneBefore, Finset.sum_insert (by simp)]
    simp only [Finset.sum_empty]
    omega

theorem sum_window {total step : Int → Int} (steps : ∀ hour, total hour - total (hour - 1) = step hour)
    (hour : Int) (hours : Nat) :
    ∑ earlier ∈ Finset.range hours, step (hour - earlier) = total hour - total (hour - hours) := by
  have telescope := Finset.sum_range_sub' (fun earlier : Nat => total (hour - earlier)) hours
  rw [Nat.cast_zero, sub_zero] at telescope
  rw [← telescope]
  refine Finset.sum_congr rfl fun earlier _ => ?_
  rw [← steps, Nat.cast_succ, sub_sub]

variable {counts}

theorem FitsWindows.exists_schedule (fits : counts.FitsWindows m minOn minOff) (minOn_pos : 0 < minOn)
    (minOff_pos : 0 < minOff) :
    ∃ schedule : Schedule (Fin m), schedule.Admissible minOn minOff ∧ counts.RealisedBy schedule := by
  obtain ⟨started, startSteps⟩ := exists_cumulated counts.starting
  have stopSteps (hour : Int) :
      (started hour - counts.on hour) - (started (hour - 1) - counts.on (hour - 1)) = counts.stopping hour := by
    have := startSteps hour
    have := fits.balance hour
    omega
  have turns : Turns m minOn minOff started fun hour => started hour - counts.on hour := by
    refine ⟨fun hour => ?_, fun hour => ?_, minOn_pos, minOff_pos, fun hour => ?_, fun hour => ?_⟩
    · have := startSteps hour
      have := fits.starting_nonneg hour
      omega
    · have := stopSteps hour
      have := fits.stopping_nonneg hour
      omega
    · have window := fits.minOn hour
      rw [sum_window startSteps] at window
      omega
    · have window := fits.minOff hour
      rw [sum_window stopSteps] at window
      omega
  refine ⟨rotation m started fun hour => started hour - counts.on hour, ⟨turns.rotation_minOn, ?_,
    turns.rotation_firstInFirstOut, ?_⟩, fun hour => ?_, fun hour => ?_, fun hour => ?_⟩
  · rw [rotation_off]
    exact turns.swap.rotation_minOn
  · rw [rotation_off]
    exact turns.swap.rotation_firstInFirstOut
  · rw [turns.numberOn_rotation, sub_sub_cancel]
  · rw [turns.numberStarting_rotation, startSteps]
  · rw [turns.numberStopping_rotation, stopSteps]

theorem RealisedBy.fitsWindows {schedule : Schedule (Fin m)} (realised : counts.RealisedBy schedule)
    (up : schedule.MinOn minOn) (down : schedule.off.MinOn minOff) : counts.FitsWindows m minOn minOff where
  starting_nonneg hour := realised.starting hour ▸ Int.natCast_nonneg _
  stopping_nonneg hour := realised.stopping hour ▸ Int.natCast_nonneg _
  balance hour := by
    have balance := schedule.numberOn_balance hour
    rw [← realised.on, ← realised.on, ← realised.starting, ← realised.stopping]
    omega
  minOn hour := by
    have window := schedule.sum_numberStarting_le up hour
    simp only [← realised.on, ← realised.starting]
    exact_mod_cast window
  minOff hour := by
    have window := schedule.off.sum_numberStarting_le down hour
    have units := schedule.numberOn_off hour
    rw [Fintype.card_fin] at units
    simp only [← realised.on, ← realised.stopping, Schedule.numberStopping]
    have total : ∑ earlier ∈ Finset.range minOff, schedule.off.numberStarting (hour - earlier) +
        schedule.numberOn hour ≤ m := by omega
    rw [add_comm]
    exact_mod_cast total

theorem fitsWindows_iff (minOn_pos : 0 < minOn) (minOff_pos : 0 < minOff) :
    counts.FitsWindows m minOn minOff ↔
      ∃ schedule : Schedule (Fin m), schedule.Admissible minOn minOff ∧ counts.RealisedBy schedule := by
  constructor
  · intro fits
    exact fits.exists_schedule minOn_pos minOff_pos
  · rintro ⟨schedule, admissible, realised⟩
    exact realised.fitsWindows admissible.minOn admissible.minOff

end UnitCounts

end Antares.Library
