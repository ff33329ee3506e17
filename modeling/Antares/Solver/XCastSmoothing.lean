import Antares.Library.Means
import Mathlib.Algebra.BigOperators.Field
import Mathlib.Tactic.Linarith
import Mathlib.Tactic.Ring

/-! The hourly positions of a process of the generator: they are kept within the bounds of the month, corrected where
a value is clipped, and smoothed over the last ones in two arrays of 24 hours.
-/

set_option autoImplicit false

namespace Antares.Solver.XCast

open Library

inductive Distribution where
  | dtUniform
  | dtBeta
  | dtNormal
  | dtWeibullShapeA
  | dtGammaShapeA
  deriving DecidableEq, Repr

/-- The data of a process for a month: `A`, `B`, `G`, `D`, `M`, `FO` and its law. -/
structure Month where
  distribution : Distribution
  alpha : Rat
  beta : Rat
  gamma : Rat
  delta : Rat
  mu : Int
  k : Nat → Rat
  /-- What the laws of Weibull and Gamma take from `pow`, `log` and `GammaEuler`. -/
  tail : Rat
  mean : Rat

def nbHoursADay : Nat := 24

def epsibor : Rat := 1 / 10 ^ 4

namespace Month
variable (m : Month)

/-- `BO` -/
def bounded : Bool := m.distribution = .dtUniform ∨ m.distribution = .dtBeta

/-- `MAXI` -/
def maximum : Rat :=
  match m.distribution with
  | .dtBeta | .dtUniform | .dtNormal => m.delta - m.gamma
  | .dtWeibullShapeA | .dtGammaShapeA => m.tail - m.gamma

/-- `MINI` -/
def minimum : Rat := 0

/-- `ESPE` -/
def esperance : Rat :=
  match m.distribution with
  | .dtBeta => m.alpha * (m.delta - m.gamma) / (m.alpha + m.beta)
  | .dtUniform => (m.delta - m.gamma) / 2
  | .dtNormal => 6 * m.beta
  | .dtWeibullShapeA => m.mean
  | .dtGammaShapeA => m.alpha * m.beta

def presqueMaxi : Rat := m.esperance + (1 - epsibor) * (m.maximum - m.esperance)

def presqueMini : Rat := m.esperance + (1 - epsibor) * (minimum - m.esperance)

variable (posi : Rat)

def withinBounds : Rat :=
  let below := if m.maximum ≤ posi then m.presqueMaxi else posi
  if below ≤ minimum then m.presqueMini else below

/-- From the relative position to the absolute one, with the data of this month. -/
def absolute : Rat :=
  m.withinBounds ((if 0 < posi then posi * (m.maximum - m.esperance) else posi * (m.esperance - minimum)) + m.esperance)

def relative : Rat :=
  if m.esperance < posi then (posi - m.esperance) / (m.maximum - m.esperance)
  else if posi < m.esperance then (m.esperance - posi) / (minimum - m.esperance)
  else 0

/-- A value beyond a bound is brought back to it, and the trajectory is corrected where the profile allows it. -/
def clipTo (bound : Rat) (hour : Nat) (posi : Rat) : Rat × Rat :=
  (if 0 < |m.k hour| then m.withinBounds (bound / m.k hour - m.gamma) else posi, bound)

/-- The position and the value of an hour before the smoothing; `MA` and `MI` are the bounds of the law. -/
def clip (hour : Nat) (posi : Rat) : Rat × Rat :=
  let dataSi := (posi + m.gamma) * m.k hour
  if m.bounded then
    let above := if m.delta < dataSi then m.clipTo m.delta hour posi else (posi, dataSi)
    if above.2 < m.gamma then m.clipTo m.gamma hour above.1 else above
  else (posi, dataSi)

def clipValue (dataSi : Rat) : Rat :=
  if m.bounded then
    let above := if m.delta < dataSi then m.delta else dataSi
    if above < m.gamma then m.gamma else above
  else dataSi

end Month

/-- `POSI`, `LISS` and `DATL` for a process -/
structure Process where
  posi : Rat
  liss : Nat → Rat
  datl : Nat → Rat

/-- What an hour leaves: its position, its moving value and its value. -/
structure Hour where
  position : Rat
  moving : Rat
  value : Rat
  deriving DecidableEq

/-- The movements of the position up to each hour of a day, whatever was drawn for them. -/
abbrev Moves := Nat → Rat → Rat

abbrev Track := Process × List Hour

section
variable (m : Month)

/-- The slot that leaves the window, with the arithmetic of `uint`. -/
def leaving (i : Nat) : Nat := (2 ^ 32 + nbHoursADay + i - m.mu.toNat) % 2 ^ 32 % nbHoursADay

/-- An hour of `generateValuesForTheCurrentDay` -/
def hourStep (moves : Moves) (track : Track) (i : Nat) : Track :=
  let clipped := m.clip i (moves i track.1.posi)
  if 1 < m.mu then
    let liss := Function.update track.1.liss i (clipped.1 / m.mu)
    let moving := track.1.datl ((nbHoursADay + i - 1) % nbHoursADay) -
      liss (leaving m i) + liss i
    (⟨clipped.1, liss, Function.update track.1.datl i moving⟩,
      track.2 ++ [⟨clipped.1, moving, m.clipValue (m.k i * (moving + m.gamma))⟩])
  else
    ({ track.1 with posi := clipped.1 }, track.2 ++ [⟨clipped.1, track.1.datl i, clipped.2⟩])

/-- The start of a day, with the memory of the smoothing set anew at the start of a month. -/
def startDay (newMonth : Bool) (process : Process) : Process :=
  let posi := m.absolute process.posi
  if newMonth ∧ 1 < m.mu then
    { posi
      liss := fun i => if i < nbHoursADay then posi / m.mu else process.liss i
      datl := Function.update process.datl (nbHoursADay - 1) posi }
  else { process with posi }

/-- `generateValuesForTheCurrentDay` -/
def generateDay (newMonth : Bool) (moves : Moves) (track : Track) : Option Track :=
  -- invalid local parameters
  if newMonth ∧ m.presqueMaxi < m.presqueMini then none
  else
    let after := (List.range nbHoursADay).foldl (hourStep m moves) (startDay m newMonth track.1, track.2)
    some ({ after.1 with posi := m.relative after.1.posi }, after.2)

def generateDays : List Moves → Track → Option Track
  | [], track => some track
  | moves :: days, track => do generateDays days (← generateDay m false moves track)

def generateMonth (days : List Moves) (process : Process) : Option (Process × Rat × List Hour) :=
  match days with
  | [] => some (process, m.absolute process.posi, [])
  | moves :: days => do
    let first ← generateDay m true moves (process, [])
    let track ← generateDays m days first
    return (track.1, m.absolute process.posi, track.2)

end

/-- A run over some months, each with its days: what each of them leaves. -/
def generate : List (Month × List Moves) → Process → Option (List (Rat × List Hour))
  | [], _ => some []
  | (m, days) :: months, process => do
    let month ← generateMonth m days process
    let later ← generate months month.1
    return (month.2 :: later)

def positions (hours : List Hour) (time : Nat) : Rat := (hours.map Hour.position).getD time 0

/-- The moving values are means of the last positions, and clipped values are within the bounds. -/
structure Meets (m : Month) (start : Rat) (hours : List Hour) : Prop where
  moving : 2 ≤ m.mu → m.mu ≤ nbHoursADay → ∀ time (inside : time < hours.length), (hours.get ⟨time, inside⟩).moving =
    windowSum start (positions hours) (time + 1) m.mu.toNat / m.mu
  clipped : m.bounded = true → ∀ hour ∈ hours, m.gamma ≤ hour.value ∧ hour.value ≤ m.delta

variable {m : Month} {start : Rat}

theorem leaving_eq {i : Nat} (within : m.mu ≤ nbHoursADay) (early : i < nbHoursADay) :
    leaving m i = (nbHoursADay + i - m.mu.toNat) % nbHoursADay := by
  have few : m.mu.toNat ≤ nbHoursADay := Int.toNat_le.mpr within
  unfold leaving
  rw [show 2 ^ 32 + nbHoursADay + i - m.mu.toNat = nbHoursADay + i - m.mu.toNat + 2 ^ 32 by omega, Nat.add_mod_right,
    Nat.mod_eq_of_lt (show nbHoursADay + i - m.mu.toNat < 2 ^ 32 by unfold nbHoursADay at *; omega)]

theorem windowSum_div (values : Nat → Rat) (time width : Nat) (depth : Rat) :
    windowSum (start / depth) (fun time => values time / depth) time width = windowSum start values time width / depth := by
  unfold windowSum back
  rw [Finset.sum_div]
  exact Finset.sum_congr rfl fun k _ => (apply_ite (· / depth) _ _ _).symm

section
variable (hours : List Hour) (hour : Hour)

theorem positions_append_lt {time : Nat} (early : time < hours.length) :
    positions (hours ++ [hour]) time = positions hours time := by
  unfold positions
  rw [List.map_append, List.getD_eq_getElem?_getD, List.getElem?_append_left (by simpa using early),
    ← List.getD_eq_getElem?_getD]

theorem positions_append_length : positions (hours ++ [hour]) hours.length = hour.position := by
  unfold positions
  simp

end

/-- A property of the process and the hours of a month that the days keep, if the hours do. -/
structure Kept (m : Month) (P : Track → Prop) : Prop where
  moved : ∀ track posi, P track → P ({ track.1 with posi }, track.2)
  step : ∀ moves track, P track → P (hourStep m moves track (track.2.length % nbHoursADay))

theorem hourStep_length (moves : Moves) (track : Track) (i : Nat) :
    (hourStep m moves track i).2.length = track.2.length + 1 := by
  unfold hourStep
  split_ifs <;> exact List.length_append

namespace Kept
variable {P : Track → Prop}

theorem hours (kept : Kept m P) (moves : Moves) {track : Track} (holds : P track)
    (whole : track.2.length % nbHoursADay = 0) {count : Nat} (within : count ≤ nbHoursADay) :
    P ((List.range count).foldl (hourStep m moves) track) ∧
      ((List.range count).foldl (hourStep m moves) track).2.length = track.2.length + count := by
  induction count with
  | zero => exact ⟨holds, rfl⟩
  | succ count ih =>
    obtain ⟨before, length⟩ := ih (by omega)
    rw [List.range_succ, List.foldl_append]
    simp only [List.foldl_cons, List.foldl_nil]
    generalize (List.range count).foldl (hourStep m moves) track = reached at before length
    -- the hour of the day is the time of the month in the ring
    have turn : reached.2.length % nbHoursADay = count := by
      rw [length, Nat.add_mod, whole, Nat.zero_add, Nat.mod_mod, Nat.mod_eq_of_lt within]
    refine ⟨?_, by rw [hourStep_length, length, Nat.add_assoc]⟩
    have next := kept.step moves reached before
    rwa [turn] at next

theorem day (kept : Kept m P) (newMonth : Bool) {moves : Moves} {track after : Track}
    (holds : P (startDay m newMonth track.1, track.2)) (whole : track.2.length % nbHoursADay = 0)
    (done : generateDay m newMonth moves track = some after) : P after ∧ after.2.length % nbHoursADay = 0 := by
  unfold generateDay at done
  split_ifs at done with invalid
  obtain ⟨reached, length⟩ := kept.hours moves holds whole le_rfl
  cases done
  exact ⟨kept.moved _ _ reached, by simp only [length, Nat.add_mod_right, whole]⟩

theorem days (kept : Kept m P) (moves : List Moves) {track after : Track} (holds : P track)
    (whole : track.2.length % nbHoursADay = 0) (done : generateDays m moves track = some after) : P after := by
  induction moves generalizing track with
  | nil => exact Option.some.inj done ▸ holds
  | cons day moves ih =>
    simp only [generateDays, Option.bind_eq_bind, Option.bind_eq_some_iff] at done
    obtain ⟨next, reached, done⟩ := done
    have later : startDay m false track.1 = { track.1 with posi := m.absolute track.1.posi } := by
      simp [startDay]
    obtain ⟨holds, whole⟩ := kept.day false (later ▸ kept.moved _ _ holds) whole reached
    exact ih holds whole done

theorem month (kept : Kept m P) {days : List Moves} {process after : Process} {position : Rat} {hours : List Hour}
    (start : P (startDay m true process, [])) (done : generateMonth m days process = some (after, position, hours)) :
    position = m.absolute process.posi ∧ (hours = [] ∨ ¬ m.presqueMaxi < m.presqueMini ∧ P (after, hours)) := by
  cases days with
  | nil =>
    simp only [generateMonth, Option.some.injEq, Prod.mk.injEq] at done
    exact ⟨done.2.1.symm, .inl done.2.2.symm⟩
  | cons moves days =>
    simp only [generateMonth, Option.bind_eq_bind, Option.bind_eq_some_iff, Option.pure_def, Option.some.injEq] at done
    obtain ⟨first, reached, last, later, done⟩ := done
    simp only [Prod.mk.injEq] at done
    obtain ⟨rfl, rfl, rfl⟩ := done
    have valid : ¬ m.presqueMaxi < m.presqueMini := by
      intro invalid
      simp [generateDay, invalid] at reached
    obtain ⟨holds, whole⟩ := @Kept.day m P kept true moves (process, []) first start (Nat.zero_mod _) reached
    exact ⟨rfl, .inr ⟨valid, kept.days days holds whole later⟩⟩

end Kept

/-- The memory of the smoothing: a ring of the last positions, and the moving value of the hour before. -/
structure Smoothed (m : Month) (start : Rat) (track : Track) : Prop where
  ring : RingHolds nbHoursADay track.1.liss (start / m.mu) (fun time => positions track.2 time / m.mu) track.2.length
  level : track.1.datl ((track.2.length + nbHoursADay - 1) % nbHoursADay) =
    windowSum start (positions track.2) track.2.length m.mu.toNat / m.mu
  moving : ∀ time (inside : time < track.2.length), (track.2.get ⟨time, inside⟩).moving =
    windowSum start (positions track.2) (time + 1) m.mu.toNat / m.mu

theorem startDay_smoothed (several : 1 < m.mu) (process : Process) :
    Smoothed m (m.absolute process.posi) (startDay m true process, []) := by
  have nonzero : (m.mu : Rat) ≠ 0 := by exact_mod_cast (show m.mu ≠ 0 by omega)
  have whole : ((m.mu.toNat : Nat) : Rat) = m.mu := by exact_mod_cast Int.toNat_of_nonneg (show 0 ≤ m.mu by omega)
  simp only [startDay, several, and_self, if_true]
  refine ⟨ringHolds_init _ fun slot within => if_pos within, ?_, fun time inside => absurd inside (Nat.not_lt_zero _)⟩
  simp only [List.length_nil, windowSum_zero, nsmul_eq_mul, whole, mul_div_cancel_left₀ _ nonzero]
  exact Function.update_self (nbHoursADay - 1) _ process.datl

theorem Smoothed.step {track : Track} (holds : Smoothed m start track) (several : 1 < m.mu) (short : m.mu < nbHoursADay)
    (moves : Moves) : Smoothed m start (hourStep m moves track (track.2.length % nbHoursADay)) := by
  obtain ⟨width, depth⟩ : ∃ width : Nat, m.mu.toNat = width + 1 := ⟨m.mu.toNat - 1, by omega⟩
  have positive : 0 < nbHoursADay := by decide
  have few : width + 1 < nbHoursADay := by omega
  obtain ⟨⟨posi, liss, datl⟩, hours⟩ := track
  unfold hourStep
  generalize m.clip _ _ = clipped
  rw [if_pos several]
  have ring : RingHolds nbHoursADay liss (start / m.mu) (fun time => positions hours time / m.mu) hours.length := holds.ring
  have before : datl ((nbHoursADay + hours.length % nbHoursADay - 1) % nbHoursADay) =
      windowSum (start / m.mu) (fun time => positions hours time / m.mu) hours.length (width + 1) := by
    rw [windowSum_div, ← depth, ← holds.level]
    exact congrArg datl (by simp only [nbHoursADay]; omega)
  have out : leaving m (hours.length % nbHoursADay) = (hours.length + nbHoursADay - (width + 1)) % nbHoursADay := by
    rw [leaving_eq short.le (Nat.mod_lt _ positive), depth]
    unfold nbHoursADay at few ⊢
    omega
  simp only [before, out, ring.read_after_write positive (Nat.succ_pos width) few, Function.update_self]
  -- the hour is added behind the others, whose positions stay
  generalize hour_eq : (Hour.mk clipped.1 _ _) = hour
  have entered : positions (hours ++ [hour]) hours.length = clipped.1 := by
    rw [positions_append_length, ← hour_eq]
  have same : ∀ time < hours.length, positions hours time / m.mu = positions (hours ++ [hour]) time / m.mu :=
    fun time early => by rw [positions_append_lt _ _ early]
  have next := (ring.congr same).write positive
  have mean : hour.moving = windowSum start (positions (hours ++ [hour])) (hours.length + 1) m.mu.toNat / m.mu := by
    rw [← windowSum_div, depth, windowSum_succ, entered, ← windowSum_congr same, ← back_congr same, ← hour_eq]
  simp only [entered] at next
  have turn : (hours.length + 1 + nbHoursADay - 1) % nbHoursADay = hours.length % nbHoursADay := by
    rw [Nat.add_right_comm, Nat.add_sub_cancel, Nat.add_mod_right]
  refine ⟨by simpa only [List.length_append, List.length_singleton] using next, ?_, fun time inside => ?_⟩
  · simp only [List.length_append, List.length_singleton]
    rw [turn, Function.update_self, ← mean, ← hour_eq]
  · rw [List.length_append] at inside
    rcases Nat.lt_succ_iff_lt_or_eq.mp inside with early | rfl
    · have past := holds.moving time early
      rw [windowSum_congr fun earlier sooner => (positions_append_lt hours hour (Nat.lt_of_lt_of_le sooner early)).symm]
        at past
      simpa [List.getElem_append_left early] using past
    · simpa using mean

theorem Smoothed.kept (several : 1 < m.mu) (short : m.mu < nbHoursADay) : Kept m (Smoothed m start) where
  moved _ _ holds := ⟨holds.ring, holds.level, holds.moving⟩
  step moves _ holds := holds.step several short moves

theorem bounds_of_valid (valid : ¬ m.presqueMaxi < m.presqueMini) (bounded : m.bounded = true) : m.gamma ≤ m.delta := by
  have between : m.maximum = m.delta - m.gamma := by
    rcases m with ⟨distribution, alpha, beta, gamma, delta, mu, k, tail, mean⟩
    cases distribution <;> simp_all [Month.bounded, Month.maximum]
  unfold Month.presqueMaxi Month.presqueMini Month.minimum epsibor at valid
  rw [between] at valid
  linarith

theorem clipValue_within (ordered : m.gamma ≤ m.delta) (bounded : m.bounded = true) (dataSi : Rat) :
    m.gamma ≤ m.clipValue dataSi ∧ m.clipValue dataSi ≤ m.delta := by
  simp only [Month.clipValue, bounded, if_true]
  split_ifs with above below below
  · exact ⟨le_rfl, ordered⟩
  · exact ⟨ordered, le_rfl⟩
  · exact ⟨le_rfl, ordered⟩
  · exact ⟨not_lt.mp below, not_lt.mp above⟩

theorem clip_within (ordered : m.gamma ≤ m.delta) (bounded : m.bounded = true) (hour : Nat) (posi : Rat) :
    m.gamma ≤ (m.clip hour posi).2 ∧ (m.clip hour posi).2 ≤ m.delta := by
  have same : (m.clip hour posi).2 = m.clipValue ((posi + m.gamma) * m.k hour) := by
    simp only [Month.clip, Month.clipValue, Month.clipTo, bounded, if_true]
    split_ifs <;> rfl
  exact same ▸ clipValue_within ordered bounded _

def Clipped (m : Month) (track : Track) : Prop := ∀ hour ∈ track.2, m.gamma ≤ hour.value ∧ hour.value ≤ m.delta

theorem Clipped.kept (ordered : m.gamma ≤ m.delta) (bounded : m.bounded = true) : Kept m (Clipped m) where
  moved _ _ holds := holds
  step moves track holds := by
    unfold hourStep
    split_ifs with several <;> intro hour found <;> rcases List.mem_append.mp found with old | new
    · exact holds hour old
    · exact List.mem_singleton.mp new ▸ clipValue_within ordered bounded _
    · exact holds hour old
    · exact List.mem_singleton.mp new ▸ clip_within ordered bounded _ _

theorem generateMonth_meets {days : List Moves} {process after : Process} {position : Rat} {hours : List Hour}
    (short : m.mu ≠ nbHoursADay) (done : generateMonth m days process = some (after, position, hours)) :
    Meets m position hours := by
  refine ⟨fun several within time inside => ?_, fun bounded => ?_⟩
  · have kept := @Smoothed.kept m (m.absolute process.posi) several (lt_of_le_of_ne within short)
    obtain ⟨rfl, rfl | ⟨-, smoothed⟩⟩ := kept.month (startDay_smoothed several process) done
    · exact absurd inside (Nat.not_lt_zero _)
    · exact smoothed.moving time inside
  · by_cases valid : m.presqueMaxi < m.presqueMini
    · cases days with
      | nil => cases done; simp
      | cons moves days => simp [generateMonth, generateDay, valid] at done
    · have kept := Clipped.kept (bounds_of_valid valid bounded) bounded
      obtain ⟨-, rfl | ⟨-, clipped⟩⟩ := kept.month (fun hour found => absurd found List.not_mem_nil) done
      · simp
      · exact clipped

variable (months : List (Month × List Moves))

def AllMeet (process : Process) : Prop :=
  ∀ result ∈ generate months process, List.Forall₂ (fun month trace => Meets month.1 trace.1 trace.2) months result

/-- The moving values are the means of the last positions in every run without a month whose depth fills the ring. -/
theorem generate_moving (process : Process)
    (short : ∀ month ∈ months, month.1.mu ≠ nbHoursADay) : AllMeet months process := by
  induction months generalizing process with
  | nil =>
    intro result done
    cases done
    exact .nil
  | cons month months ih =>
    obtain ⟨m, days⟩ := month
    intro result done
    simp only [generate, Option.bind_eq_bind, Option.mem_def, Option.bind_eq_some_iff, Option.pure_def,
      Option.some.injEq] at done
    obtain ⟨⟨after, position, hours⟩, first, later, rest, rfl⟩ := done
    exact .cons (generateMonth_meets (short _ List.mem_cons_self) first)
      (ih after (fun other found => short other (List.mem_cons_of_mem _ found)) later rest)

/-- A uniform law on an interval of length one, with a depth for its smoothing. -/
def unitLaw (mu : Int) : Month where
  distribution := .dtUniform
  alpha := 0
  beta := 0
  gamma := 0
  delta := 1
  mu
  k := fun _ => 1
  tail := 0
  mean := 0

def rising : Moves := fun _ posi => posi + 1 / 100

def atRest : Process := ⟨0, fun _ => 0, fun _ => 0⟩

theorem rising_moving : (generate [(unitLaw 3, [rising, rising])] atRest).isSome = true ∧
    AllMeet [(unitLaw 3, [rising, rising])] atRest :=
  ⟨by decide +kernel, generate_moving _ _ fun month found => by rw [List.mem_singleton.mp found]; decide⟩

/-- The moving value of the first hour is the start's, although the position has moved. -/
theorem rising_not_moving : ¬ AllMeet [(unitLaw 24, [rising])] atRest := by
  intro all
  have stuck : (generate [(unitLaw 24, [rising])] atRest).map (·.map fun trace =>
      (trace.1, (trace.2.map Hour.moving).head?, (trace.2.map Hour.position).head?)) =
        some [(1 / 2, some (1 / 2), some (51 / 100))] := by decide +kernel
  obtain ⟨result, done, traces⟩ := Option.map_eq_some_iff.mp stuck
  obtain ⟨⟨position, hours⟩, rest, meets, -, rfl⟩ := List.forall₂_cons_left_iff.mp (all result done)
  simp only [List.map_cons, List.cons.injEq, Prod.mk.injEq] at traces
  obtain ⟨⟨rfl, moving, first⟩, -⟩ := traces
  cases hours with
  | nil => simp at moving
  | cons hour hours =>
    simp only [List.map_cons, List.head?_cons, Option.some.injEq] at moving first
    have mean := meets.moving (by decide) (by decide) 0 (Nat.succ_pos _)
    have entered : windowSum (1 / 2) (positions (hour :: hours)) (0 + 1) (23 + 1) =
        24 • (1 / 2 : Rat) - 1 / 2 + hour.position := by
      rw [windowSum_succ, windowSum_zero]
      rfl
    have depth : (unitLaw 24).mu.toNat = 23 + 1 := rfl
    simp only [List.get_eq_getElem, List.getElem_cons_zero, moving, depth, entered, first] at mean
    norm_num [unitLaw] at mean

end Antares.Solver.XCast
