import Antares.Library.Bisection
import Antares.Library.Calendars
import Antares.Solver.ThermalSpinning
import Mathlib.Analysis.SpecialFunctions.Log.Basic
import Mathlib.Analysis.SpecialFunctions.Sqrt

/-! The generator of the availability of a thermal cluster, day by day: units come back, planned outages are recalled, units go
out for durations that follow a law, and their returns are booked in two rings of days.
-/

set_option autoImplicit false

namespace Antares.Solver.ThermalOutages

inductive ThermalLaw where
  | uniform
  | geometric
  deriving DecidableEq, Repr

/-- The number that is made of a word of the generator, between zero and one included. -/
def next (word : UInt32) : Rat := word.toNat / 4294967295

section
variable {R : Type} [Ring R] [LinearOrder R] [FloorRing R]

/-- `int(value)`: the fraction is dropped. -/
def toInt (value : R) : Int := if 0 ≤ value then ⌊value⌋ else ⌈value⌉

theorem toInt_of_nonneg {value : R} (nonneg : 0 ≤ value) : toInt value = ⌊value⌋ := if_pos nonneg

end

def logSize : Nat := 4000

theorem four_atLeastTwo : Nat.AtLeastTwo 4 := ⟨by decide⟩

attribute [local instance] Library.Bisection.two_atLeastTwo four_atLeastTwo in
/-- The numbers `A` and `B` of a day, from its mean duration. -/
noncomputable def prepareIndispoFromLaw (law : ThermalLaw) (volatility duration : Rat) : ℝ × ℝ :=
  match law with
  | .uniform =>
    let xtemp := volatility * (duration - 1)
    ((duration - xtemp : Rat), (2 * xtemp + 1 : Rat))
  | .geometric =>
    let xtemp : ℝ := (volatility * volatility * duration * (duration - 1) : Rat)
    if xtemp ≠ 0 then
      let b := (Real.sqrt (4 * xtemp + 1) - 1) / (2 * xtemp)
      (duration - 1 / b, 1 / Real.log (1 - b))
    else (1, 1)

def sansTirage (volat : Rat) (expec : Int) : Bool := volat == 0 || expec == 1

noncomputable def durationGenerator (law : ThermalLaw) (expec : Int) (volat : Rat) (a b : ℝ) (word : UInt32) :
    Option Int :=
  if sansTirage volat expec then some expec
  else
    match law with
    | .uniform => some (toInt (a + (next word : ℝ) * b))
    | .geometric =>
      -- the logarithm of zero is infinite, and what `int` makes of it is undefined
      if next word = 0 then none
      else
        let resultat := 1 + toInt (a + b * Real.log (next word))
        let limit : Int := logSize / 2 - 1
        some (if resultat ≤ limit then resultat else limit)

variable (word : UInt32)

theorem next_nonneg : 0 ≤ next word := by
  unfold next
  positivity

theorem next_le_one : next word ≤ 1 := by
  have bounded := word.toNat_lt
  unfold next
  rw [div_le_one (by norm_num)]
  exact_mod_cast Nat.le_of_lt_succ bounded

theorem next_eq_zero_iff : next word = 0 ↔ word = 0 := by
  rw [next, div_eq_zero_iff, or_iff_left (by norm_num), Nat.cast_eq_zero]
  exact ⟨fun null => UInt32.toNat_inj.mp null, fun null => congrArg UInt32.toNat null⟩

theorem geometric_probability {x : ℝ} (positive : 0 < x) :
    0 < (Real.sqrt (4 * x + 1) - 1) / (2 * x) ∧ (Real.sqrt (4 * x + 1) - 1) / (2 * x) < 1 := by
  have square : Real.sqrt (4 * x + 1) * Real.sqrt (4 * x + 1) = 4 * x + 1 := Real.mul_self_sqrt (by linarith)
  have above : 1 < Real.sqrt (4 * x + 1) := Real.lt_sqrt_of_sq_lt (by linarith)
  refine ⟨div_pos (by linarith) (by linarith), (div_lt_one (by linarith)).mpr ?_⟩
  nlinarith

section
variable {volatility duration : Rat} (volatility_nonneg : 0 ≤ volatility) (volatility_le : volatility ≤ 1)
  (duration_ge : 1 ≤ duration)
include volatility_nonneg volatility_le duration_ge

theorem uniform_bounds (duration_le : duration ≤ 365) (word : UInt32) :
    let numbers := prepareIndispoFromLaw .uniform volatility duration
    1 ≤ toInt (numbers.1 + next word * numbers.2) ∧ toInt (numbers.1 + next word * numbers.2) ≤ 1999 := by
  have spread_nonneg : 0 ≤ volatility * (duration - 1) := mul_nonneg volatility_nonneg (by linarith)
  have spread_le : volatility * (duration - 1) ≤ duration - 1 :=
    mul_le_of_le_one_left (by linarith) volatility_le
  have weight_nonneg := next_nonneg word
  have weight_le := next_le_one word
  have drawn : 1 ≤ duration - volatility * (duration - 1) + next word * (2 * (volatility * (duration - 1)) + 1) ∧
      duration - volatility * (duration - 1) + next word * (2 * (volatility * (duration - 1)) + 1) ≤ 1999 := by
    constructor <;> nlinarith
  have cast : (prepareIndispoFromLaw .uniform volatility duration).1 +
      next word * (prepareIndispoFromLaw .uniform volatility duration).2 =
        ((duration - volatility * (duration - 1) + next word * (2 * (volatility * (duration - 1)) + 1) : Rat) : ℝ) := by
    simp only [prepareIndispoFromLaw]
    push_cast
    ring
  have low : (1 : ℝ) ≤ ((duration - volatility * (duration - 1) +
      next word * (2 * (volatility * (duration - 1)) + 1) : Rat) : ℝ) := by exact_mod_cast drawn.1
  have high : ((duration - volatility * (duration - 1) +
      next word * (2 * (volatility * (duration - 1)) + 1) : Rat) : ℝ) ≤ 1999 := by exact_mod_cast drawn.2
  dsimp only
  rw [cast, toInt_of_nonneg (le_trans zero_le_one low)]
  exact ⟨Int.le_floor.mpr (by exact_mod_cast low), by exact_mod_cast le_trans (Int.floor_le _) high⟩

theorem geometric_nonneg (spread : volatility ≠ 0) (long : duration ≠ 1) (word : UInt32) :
    let numbers := prepareIndispoFromLaw .geometric volatility duration
    0 ≤ numbers.1 + numbers.2 * Real.log (next word) := by
  have positive : 0 < volatility * volatility * duration * (duration - 1) := by
    have one := lt_of_le_of_ne duration_ge (Ne.symm long)
    have := lt_of_le_of_ne volatility_nonneg (Ne.symm spread)
    exact mul_pos (by positivity) (by linarith)
  have bounded : volatility * volatility * duration * (duration - 1) ≤ duration * (duration - 1) := by
    have square : volatility * volatility ≤ 1 := by nlinarith
    have product : 0 ≤ duration * (duration - 1) := mul_nonneg (by linarith) (by linarith)
    nlinarith
  set exact : Rat := volatility * volatility * duration * (duration - 1) with definition
  have xPositive : (0 : ℝ) < exact := by exact_mod_cast positive
  have long' : (1 : ℝ) ≤ duration := by exact_mod_cast duration_ge
  have xBounded : (exact : ℝ) ≤ duration * (duration - 1) := by exact_mod_cast bounded
  set root := Real.sqrt (4 * exact + 1) with rootDefinition
  have square : root * root = 4 * exact + 1 := Real.mul_self_sqrt (by linarith)
  have rootAbove : 1 < root := by
    rw [rootDefinition]
    exact Real.lt_sqrt_of_sq_lt (by linarith)
  have rootBelow : root ≤ 2 * duration - 1 := by
    rw [rootDefinition]
    exact Real.sqrt_le_iff.mpr ⟨by linarith, by nlinarith⟩
  -- the probability of the law, whose inverse is at most the mean
  have probability : (root - 1) / (2 * exact) = 2 / (root + 1) := by
    rw [div_eq_div_iff (by linarith) (by linarith)]
    linarith
  have inverse : 1 / ((root - 1) / (2 * exact)) = (root + 1) / 2 := by
    rw [probability, one_div_div]
  have logNegative : Real.log (1 - (root - 1) / (2 * exact)) < 0 := by
    obtain ⟨above, below⟩ := geometric_probability xPositive
    exact Real.log_neg (by linarith) (by linarith)
  have logWord : Real.log (next word) ≤ 0 := by
    refine Real.log_nonpos ?_ ?_
    · exact_mod_cast next_nonneg word
    · exact_mod_cast next_le_one word
  have numbers : prepareIndispoFromLaw .geometric volatility duration =
      (duration - 1 / ((root - 1) / (2 * exact)), 1 / Real.log (1 - (root - 1) / (2 * exact))) := by
    unfold prepareIndispoFromLaw
    dsimp only
    rw [if_pos xPositive.ne']
  dsimp only
  rw [numbers, inverse]
  have tail : 0 ≤ 1 / Real.log (1 - (root - 1) / (2 * exact)) * Real.log (next word) :=
    mul_nonneg_of_nonpos_of_nonpos (one_div_nonpos.mpr logNegative.le) logWord
  dsimp only
  linarith

theorem durationGenerator_bounds (duration_le : duration ≤ 365) {law : ThermalLaw} {word : UInt32} {drawn : Int}
    (defined : durationGenerator law (toInt duration) volatility (prepareIndispoFromLaw law volatility duration).1
      (prepareIndispoFromLaw law volatility duration).2 word = some drawn) : 1 ≤ drawn ∧ drawn ≤ 1999 := by
  have expec : toInt duration = ⌊duration⌋ := toInt_of_nonneg (le_trans zero_le_one duration_ge)
  have mean_ge : 1 ≤ ⌊duration⌋ := Int.le_floor.mpr (by exact_mod_cast duration_ge)
  have mean_le : ⌊duration⌋ ≤ 365 := by exact_mod_cast le_trans (Int.floor_le duration) duration_le
  unfold durationGenerator at defined
  by_cases noDraw : sansTirage volatility (toInt duration) = true
  · rw [if_pos noDraw] at defined
    obtain rfl := Option.some.inj defined
    rw [expec]
    omega
  · rw [if_neg noDraw] at defined
    obtain ⟨spread, long⟩ : volatility ≠ 0 ∧ toInt duration ≠ 1 := by
      simpa [sansTirage] using noDraw
    cases law with
    | uniform =>
      obtain rfl := Option.some.inj defined
      exact uniform_bounds volatility_nonneg volatility_le duration_ge duration_le word
    | geometric =>
      have notOne : duration ≠ 1 := by
        rintro rfl
        exact long (expec.trans Int.floor_one)
      have nonneg := geometric_nonneg volatility_nonneg volatility_le duration_ge spread notOne word
      by_cases null : next word = 0
      · exact absurd defined (by simp [null])
      dsimp only at defined nonneg
      rw [if_neg null] at defined
      obtain rfl := Option.some.inj defined
      split_ifs with short
      · refine ⟨?_, short⟩
        rw [toInt_of_nonneg nonneg]
        have := Int.floor_nonneg.mpr nonneg
        omega
      · decide

end

/-- No duration is drawn from a geometric law with the number zero. -/
def DureeDefinie (law : ThermalLaw) (expec : Int) (volat : Rat) (word : UInt32) : Prop :=
  law = .geometric → sansTirage volat expec = false → word ≠ 0

theorem durationGenerator_isSome_iff {law : ThermalLaw} {expec : Int} {volat : Rat} {a b : ℝ} {word : UInt32} :
    (durationGenerator law expec volat a b word).isSome ↔ DureeDefinie law expec volat word := by
  unfold durationGenerator DureeDefinie
  cases sansTirage volat expec
  · cases law
    · simp
    · by_cases null : word = 0
      · simp [next_eq_zero_iff, null]
      · simp [next_eq_zero_iff, null]
  · simp

end Antares.Solver.ThermalOutages

namespace Antares.Solver.ThermalOutages

open Data Library

structure PreproThermal where
  foDuration : Nat → Rat
  poDuration : Nat → Rat
  foRate : Nat → Rat
  poRate : Nat → Rat
  npoMin : Nat → Rat
  npoMax : Nat → Rat

def daysPerYear : Nat := 365

/-- What the generator reads: the cluster, its table and laws, and the random numbers. -/
structure GeneratorTempData where
  cluster : ThermalCluster
  prepro : PreproThermal
  forcedLaw : ThermalLaw
  plannedLaw : ThermalLaw
  forcedVolatility : Rat
  plannedVolatility : Rat
  word : Nat → UInt32

/-- The variables that are carried from day to day and from series to series. -/
structure State where
  aun : Int
  npoCur : Int
  stock : Int
  now : Nat
  log : Nat → Int
  logp : Nat → Int
  /-- How many random numbers were drawn. -/
  drawn : Nat

/-- Units that go out together, and after how many days they come back. -/
structure Outage where
  number : Int
  delay : Int
  planned : Bool

structure Departures where
  mxo : Int
  ppo : Int
  pfo : Int

structure Day where
  back : Int
  plannedBack : Int
  /-- What is taken out of the slots of the days ahead. -/
  recalled : Nat → Int
  outages : List Outage
  final : State

def failureRateEq1 : Rat := 999 / 1000

def powersOfADay : Nat := 102

namespace State

variable (state : State)

def comeBack : State :=
  { state with
    npoCur := state.npoCur - state.logp state.now
    logp := Function.update state.logp state.now 0
    aun := state.aun + state.log state.now
    log := Function.update state.log state.now 0 }

/-- The scan of the slots ahead for planned outages to cut short, down to `cibleRetour`. -/
def scan (cibleRetour : Int) : List Nat → Int → State → State
  | [], _, state => state
  | index :: indices, cumulRetour, state =>
    if cumulRetour = cibleRetour then state
    else
      let slot := (state.now + index) % logSize
      if cibleRetour ≤ state.logp slot + cumulRetour then
        scan cibleRetour indices cibleRetour
          { state with
            logp := Function.update state.logp slot (state.logp slot - (cibleRetour - cumulRetour))
            log := Function.update state.log slot (state.log slot - (cibleRetour - cumulRetour)) }
      else if 0 < state.logp slot then
        scan cibleRetour indices (cumulRetour + state.logp slot)
          { state with
            log := Function.update state.log slot (state.log slot - state.logp slot)
            logp := Function.update state.logp slot 0 }
      else scan cibleRetour indices cumulRetour state

def recallUnits (npoMax : Rat) : State :=
  if npoMax < state.npoCur then
    let cibleRetour := state.npoCur - toInt npoMax
    let scanned := scan cibleRetour (List.range' 1 (logSize - 1)) 0 state
    { scanned with aun := scanned.aun + cibleRetour, npoCur := toInt npoMax }
  else state

/-- The units of the planned outages, with what was put off on the days before. -/
def withStock (poc : Int) : Int × Int :=
  let candidat := poc + state.stock
  if 0 ≤ candidat ∧ candidat ≤ state.aun then (candidat, 0)
  else if state.aun < candidat then (state.aun, candidat - state.aun)
  else (0, candidat)

/-- The bounds of the planned outages: the units that go out, the stock and `NPO_cur`. -/
def withinBounds (npoMin npoMax : Rat) (poc stock : Int) : Int × Int × Int :=
  if npoMax < poc + state.npoCur then
    (toInt npoMax - state.npoCur, stock + (poc + state.npoCur - toInt npoMax), toInt npoMax)
  else if poc + state.npoCur < npoMin then
    if (state.aun : Rat) < npoMin - state.npoCur then
      (state.aun, stock - (state.aun - poc), state.npoCur + state.aun)
    else
      (toInt npoMin - state.npoCur, stock - (toInt npoMin - (poc + state.npoCur)), toInt npoMin)
  else (poc, stock, state.npoCur + poc)

end State

def departures (unitCount : Nat) (aun poc foc : Int) : Departures :=
  if unitCount = 1 then
    if poc = 1 ∧ foc = 1 then { mxo := 1, ppo := 0, pfo := 0 } else { mxo := 0, ppo := poc, pfo := foc }
  else if aun ≠ 0 then
    let mxo := poc * foc / aun
    { mxo := mxo, ppo := poc - mxo, pfo := foc - mxo }
  else { mxo := 0, ppo := 0, pfo := 0 }

/-- The number of units whose cumulated probability is first reached, out of `units`. -/
def reachedBy (number factor : Rat) (units : Nat) : Nat → Rat → Rat → Nat
  | 0, _, _ => units
  | left + 1, last, cumul =>
    let d := units - left
    let last := last * factor * (units + 1 - d) / d
    let cumul := cumul + last
    if number ≤ cumul then d else reachedBy number factor units left last cumul

def drawUnits (number rate : Rat) (units : Nat) : Nat :=
  let last := (1 - rate) ^ units
  if last < number then reachedBy number (rate / (1 - rate)) units units last last else 0

def rateWithDuration (rate : Rat) (duration : Int) : Rat := rate / (rate + duration * (1 - rate))

namespace GeneratorTempData

variable (generator : GeneratorTempData)

variable (day : Nat)

def fod : Int := toInt (generator.prepro.foDuration day)

def pod : Int := toInt (generator.prepro.poDuration day)

def lf (day : Nat) : Rat :=
  let lf := rateWithDuration (generator.prepro.foRate day) (generator.fod day)
  let lp := rateWithDuration (generator.prepro.poRate day) (generator.pod day)
  if 0 < lf ∧ lf < lp then lf * ((1 - lp) / (1 - lf)) else lf

/-- The rate of forced outages is the one that was corrected before. -/
def lp (day : Nat) : Rat :=
  let lf := generator.lf day
  let lp := rateWithDuration (generator.prepro.poRate day) (generator.pod day)
  if 0 < lp ∧ lp < lf then lp * ((1 - lf) / (1 - lp)) else lp

/-- A rate in the open range draws a number; the others take no unit or all of them. -/
def drawsUnits (rate : Rat) : Bool := 0 < rate && rate ≤ failureRateEq1

def outOf (rate : Rat) (drawn : Nat) (all some : Int) : Int :=
  if drawsUnits rate then drawUnits (next (generator.word drawn)) rate some.toNat
  else if 0 < rate then all
  else 0

variable (state : State)

def foc : Int := generator.outOf (generator.lf day) state.drawn state.aun state.aun

def aunApp : Int :=
  if 0 ≤ state.stock ∧ state.stock ≤ state.aun then state.aun - state.stock
  else if state.aun < state.stock then 0
  else state.aun

def drawnAfterFoc : Nat := state.drawn + if drawsUnits (generator.lf day) then 1 else 0

def drawnAfterPoc : Nat :=
  generator.drawnAfterFoc day state + if drawsUnits (generator.lp day) then 1 else 0

def poc : Int :=
  generator.outOf (generator.lp day) (generator.drawnAfterFoc day state) state.aun (aunApp state)

def morning : State := state.comeBack.recallUnits (generator.prepro.npoMax day)

variable (morning : State)

/-- The units that go out of the state of the morning, the stock and `NPO_cur`. -/
def bounded : Int × Int × Int :=
  let withStock := morning.withStock (generator.poc day morning)
  morning.withinBounds (generator.prepro.npoMin day) (generator.prepro.npoMax day) withStock.1 withStock.2

def leaving : Departures :=
  departures generator.cluster.unitCount morning.aun (generator.bounded day morning).1 (generator.foc day morning)

def drawsForced : Bool :=
  (generator.leaving day morning).pfo != 0 || (generator.leaving day morning).mxo != 0

def drawsPlanned : Bool :=
  (generator.leaving day morning).ppo != 0 || (generator.leaving day morning).mxo != 0

def drawnAfterFod : Nat :=
  generator.drawnAfterPoc day morning +
    if generator.drawsForced day morning && !sansTirage generator.forcedVolatility (generator.fod day) then 1 else 0

def drawnAfterPod : Nat :=
  generator.drawnAfterFod day morning +
    if generator.drawsPlanned day morning && !sansTirage generator.plannedVolatility (generator.pod day) then 1 else 0

/-- The duration of forced outages; the one of another day is not read. -/
noncomputable def fodReel : Option Int :=
  let numbers := prepareIndispoFromLaw generator.forcedLaw generator.forcedVolatility
    (generator.prepro.foDuration day)
  if generator.drawsForced day morning then
    durationGenerator generator.forcedLaw (generator.fod day) generator.forcedVolatility numbers.1 numbers.2
      (generator.word (generator.drawnAfterPoc day morning))
  else some 0

noncomputable def podReel : Option Int :=
  let numbers := prepareIndispoFromLaw generator.plannedLaw generator.plannedVolatility
    (generator.prepro.poDuration day)
  if generator.drawsPlanned day morning then
    durationGenerator generator.plannedLaw (generator.pod day) generator.plannedVolatility numbers.1 numbers.2
      (generator.word (generator.drawnAfterFod day morning))
  else some 0

end GeneratorTempData

namespace Departures

variable (departures : Departures)

/-- Mixed outages last as long as both durations, and count as planned ones. -/
def outages (fodReel podReel : Int) : List Outage :=
  [{ number := departures.pfo, delay := fodReel, planned := false },
    { number := departures.ppo, delay := podReel, planned := true },
    { number := departures.mxo, delay := podReel + fodReel, planned := true }].filter fun outage => outage.number != 0

end Departures

/-- `FUT` -/
def Outage.slot (now : Nat) (outage : Outage) : Nat := ((now + outage.delay) % logSize).toNat

namespace GeneratorTempData

variable (generator : GeneratorTempData)

def evening (day : Nat) (morning : State) (outages : List Outage) : State :=
  let leaving := generator.leaving day morning
  { aun := morning.aun - (leaving.ppo + leaving.pfo + leaving.mxo)
    npoCur := (generator.bounded day morning).2.2
    stock := (generator.bounded day morning).2.1
    now := (morning.now + 1) % logSize
    log := book (Outage.slot morning.now) Outage.number outages morning.log
    logp := book (Outage.slot morning.now) Outage.number (outages.filter (·.planned)) morning.logp
    drawn := generator.drawnAfterPod day morning }

/-- A day of the year; nothing is defined after a duration that is not. -/
noncomputable def step (day : Nat) (state : State) : Option Day :=
  let morning := generator.morning day state
  (generator.fodReel day morning).bind fun fodReel =>
    (generator.podReel day morning).map fun podReel =>
      let outages := (generator.leaving day morning).outages fodReel podReel
      { back := state.log state.now
        plannedBack := state.logp state.now
        recalled := fun slot => state.comeBack.logp slot - morning.logp slot
        outages := outages
        final := generator.evening day morning outages }

/-- The tables of powers have room for so many units, and nothing is defined when they are written
out of their lines. -/
def initial : Option State :=
  if generator.cluster.unitCount + 1 ≤ powersOfADay then
    some
      { aun := generator.cluster.unitCount
        npoCur := 0
        stock := 0
        now := 0
        log := fun _ => 0
        logp := fun _ => 0
        drawn := 0 }
  else none

noncomputable def after : Nat → Option State
  | 0 => generator.initial
  | time + 1 => ((after time).bind (generator.step (time % daysPerYear))).map (·.final)

noncomputable def dayOf (time : Nat) : Option Day :=
  (generator.after time).bind (generator.step (time % daysPerYear))

/-- Two years come before the series; a cluster without units or capacity has none. -/
def numberOfDays (nbThermalTimeseries : Nat) : Nat :=
  if generator.cluster.unitCount = 0 ∨ generator.cluster.nominalCapacity = 0 then 0
  else (nbThermalTimeseries + 2) * daysPerYear

/-- `AVP`, the power that is available on a day of a series. -/
noncomputable def avp (tsIndex day : Nat) : Rat :=
  match generator.dayOf ((tsIndex + 2) * daysPerYear + day) with
  | some today => today.final.aun * generator.cluster.nominalCapacity
  | none => 0

end GeneratorTempData

end Antares.Solver.ThermalOutages
