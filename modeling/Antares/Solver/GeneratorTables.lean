import Antares.Solver.OutageReturns

/-! Planned outages of a thermal cluster that are put off or brought forward: the stock keeps count of them from
one day to the next. The tables of the generator and the places it reads and writes in them; what it divides
by, and its rates.
-/

set_option autoImplicit false

namespace Antares.Solver.ThermalOutages

open Data Library

namespace GeneratorTempData

section
variable (generator : GeneratorTempData) (day : Nat)

def freeUnits (morning : State) : Int := max 0 (morning.aun - max 0 morning.stock)

/-- The units that a day sends to planned outages, mixed ones included. -/
def sent (today : Day) : Int := ((today.outages.filter fun outage => outage.planned).map Outage.number).sum

/-- The planned outages of a day: none is lost or made up, and their number keeps to its bounds. -/
structure PlannedKept (state : State) (today : Day) : Prop where
  balance : sent today + today.final.stock = generator.poc day (generator.morning day state) + state.stock
  sent_nonneg : 0 ≤ sent today
  sent_le : sent today ≤ (generator.morning day state).aun
  npoMax : (today.final.npoCur : Rat) ≤ generator.prepro.npoMax day
  npoMin : min (generator.prepro.npoMin day)
    ((generator.morning day state).npoCur + (generator.morning day state).aun : Int) ≤ today.final.npoCur
  draw : generator.poc day (generator.morning day state) ≤ freeUnits (generator.morning day state)

/-- The units of the planned outages before their bounds: those that are drawn with those of the stock. -/
def asked (morning : State) : Int := (morning.withStock (generator.poc day morning)).1

/-- None of the branches is taken that let go of what they keep to elsewhere: all units at a rate near one in spite of
the stock, and a bound with a fraction that is cut off.
-/
structure BranchesKeep (morning : State) : Prop where
  rate : failureRateEq1 < generator.lp day → morning.stock ≤ 0 ∨ morning.aun = 0
  upper : generator.prepro.npoMax day < generator.asked day morning + morning.npoCur →
    generator.prepro.npoMin day ≤ ⌊generator.prepro.npoMax day⌋
  lower : generator.asked day morning + morning.npoCur < generator.prepro.npoMin day →
    generator.prepro.npoMin day ≤ (morning.npoCur + morning.aun : Int) →
    generator.prepro.npoMin day = ⌊generator.prepro.npoMin day⌋

end

section
variable {generator : GeneratorTempData} {day : Nat} {morning state : State} {today : Day}

theorem withStock_balance (state : State) (poc : Int) :
    (state.withStock poc).1 + (state.withStock poc).2 = poc + state.stock := by
  unfold State.withStock
  dsimp only
  split_ifs <;> omega

theorem withinBounds_balance (state : State) (npoMin npoMax : Rat) (poc stock : Int) :
    (state.withinBounds npoMin npoMax poc stock).1 + (state.withinBounds npoMin npoMax poc stock).2.1 = poc + stock := by
  unfold State.withinBounds
  split_ifs <;> dsimp only <;> omega

theorem bounded_balance (generator : GeneratorTempData) (day : Nat) (morning : State) :
    (generator.bounded day morning).1 + (generator.bounded day morning).2.1 = generator.poc day morning + morning.stock :=
  (withinBounds_balance _ _ _ _ _).trans (withStock_balance _ _)

theorem scan_stock (cibleRetour : Int) (indices : List Nat) (cumulRetour : Int) (state : State) :
    (State.scan cibleRetour indices cumulRetour state).stock = state.stock := by
  induction indices generalizing cumulRetour state with
  | nil => rfl
  | cons index indices ih =>
    unfold State.scan
    dsimp only
    split_ifs
    · rfl
    · exact ih _ _
    · exact ih _ _
    · exact ih _ _

theorem morning_stock (generator : GeneratorTempData) (day : Nat) (state : State) :
    (generator.morning day state).stock = state.stock := by
  unfold morning State.recallUnits
  split
  · exact scan_stock _ _ _ _
  · rfl

theorem poc_le_freeUnits_iff (generator : GeneratorTempData) (day : Nat) (aun_nonneg : 0 ≤ morning.aun) :
    generator.poc day morning ≤ freeUnits morning ↔
      (failureRateEq1 < generator.lp day → morning.stock ≤ 0 ∨ morning.aun = 0) := by
  have free : aunApp morning = freeUnits morning := by
    unfold aunApp freeUnits
    split_ifs <;> omega
  unfold poc outOf drawsUnits
  rcases lt_or_ge failureRateEq1 (generator.lp day) with near | low
  · have positive : 0 < generator.lp day := lt_trans (by norm_num [failureRateEq1]) near
    have notDrawn : ¬ (decide (0 < generator.lp day) && decide (generator.lp day ≤ failureRateEq1)) = true := by
      simp [near]
    rw [if_neg notDrawn, if_pos positive, imp_iff_right near]
    unfold freeUnits
    omega
  · refine iff_of_true ?_ fun near => absurd near (not_lt.mpr low)
    have nonneg : 0 ≤ freeUnits morning := le_max_left _ _
    split_ifs with drawn positive
    · have few := drawUnits_le (next (generator.word (generator.drawnAfterFoc day morning))) (generator.lp day)
        (aunApp morning).toNat
      omega
    · simp [positive, low] at drawn
    · exact nonneg

theorem npoMin_le_iff {poc stock : Int} {npoMin npoMax : Rat} (min_nonneg : 0 ≤ npoMin) (ordered : npoMin ≤ npoMax)
    (poc_le : poc ≤ state.aun) :
    min npoMin (state.npoCur + state.aun : Int) ≤ ((state.withinBounds npoMin npoMax poc stock).2.2 : Rat) ↔
      (npoMax < poc + state.npoCur → npoMin ≤ ⌊npoMax⌋) ∧
        (poc + state.npoCur < npoMin → npoMin ≤ (state.npoCur + state.aun : Int) → npoMin = ⌊npoMin⌋) := by
  have wholeMax : toInt npoMax = ⌊npoMax⌋ := toInt_of_nonneg (min_nonneg.trans ordered)
  have wholeMin : toInt npoMin = ⌊npoMin⌋ := toInt_of_nonneg min_nonneg
  have available : (poc + state.npoCur : Rat) ≤ (state.npoCur + state.aun : Int) := by
    push_cast
    have : (poc : Rat) ≤ state.aun := by exact_mod_cast poc_le
    linarith
  unfold State.withinBounds
  split_ifs with many few short
  · have notFew : ¬ (poc + state.npoCur : Rat) < npoMin := by linarith
    have enough : npoMin ≤ (state.npoCur + state.aun : Int) := by linarith
    rw [wholeMax, min_eq_left enough]
    simp [many, notFew]
  · have beyond : ¬ npoMin ≤ (state.npoCur + state.aun : Int) := by
      push_cast
      linarith
    exact iff_of_true (min_le_right _ _) ⟨fun more => absurd more many, fun _ enough => absurd enough beyond⟩
  · have enough : npoMin ≤ (state.npoCur + state.aun : Int) := by
      push_cast
      linarith
    rw [wholeMin, min_eq_left enough]
    simp only [many, few, enough, false_imp_iff, true_imp_iff, true_and]
    exact ⟨fun whole => le_antisymm whole (Int.floor_le _), fun whole => whole.le⟩
  · simp only [many, few, false_imp_iff, and_true, iff_true]
    refine (min_le_left _ _).trans ?_
    push_cast
    linarith

theorem planned_of_step (ran : generator.step day state = some today) :
    sent today = (generator.leaving day (generator.morning day state)).ppo +
        (generator.leaving day (generator.morning day state)).mxo ∧
      today.final.stock = (generator.bounded day (generator.morning day state)).2.1 ∧
      today.final.npoCur = (generator.bounded day (generator.morning day state)).2.2 := by
  obtain ⟨fodReel, podReel, -, -, rfl⟩ := step_cases ran
  exact ⟨(outages_number (generator.leaving day (generator.morning day state)) fodReel podReel).2, rfl, rfl⟩

theorem plannedKept_iff (loaded : generator.Loaded) (inYear : day < daysPerYear)
    (balanced : state.Balanced generator.cluster.unitCount) (ran : generator.step day state = some today) :
    generator.PlannedKept day state today ↔ generator.BranchesKeep day (generator.morning day state) := by
  have checked := loaded.checked day inYear
  have here := morning_spec balanced checked
  have room := State.withStock_within here.balanced.aun_nonneg (generator.poc day (generator.morning day state))
  obtain ⟨within, counted, bound⟩ := bounded_spec here.balanced checked here.current
  obtain ⟨-, -, -, departed, -⟩ := leaving_spec here.balanced checked here.current
  have balance := bounded_balance generator day (generator.morning day state)
  have lower : _ ↔ _ := @npoMin_le_iff (generator.morning day state) _
    ((generator.morning day state).withStock (generator.poc day (generator.morning day state))).2 _ _
    checked.npoMin_nonneg checked.npo room.2
  have drawn := poc_le_freeUnits_iff generator day here.balanced.aun_nonneg
  obtain ⟨number, newStock, newNumber⟩ := planned_of_step ran
  rw [departed] at number
  constructor
  · intro kept
    have least := kept.npoMin
    rw [newNumber] at least
    obtain ⟨upper, below⟩ := lower.mp least
    exact ⟨drawn.mp kept.draw, upper, below⟩
  · intro branches
    exact
      { balance := by rw [number, newStock, balance, morning_stock]
        sent_nonneg := within.1.trans_eq number.symm
        sent_le := number.trans_le within.2
        npoMax := by rw [newNumber]; exact bound
        npoMin := by rw [newNumber]; exact lower.mpr ⟨branches.upper, branches.lower⟩
        draw := drawn.mpr branches.rate }

theorem inYear (time : Nat) : time % daysPerYear < daysPerYear := Nat.mod_lt _ (by decide)

end

end GeneratorTempData

theorem uniformDraw_branches (day : Nat) (morning : State) : uniformDraw.BranchesKeep day morning where
  rate near := by
    have none : uniformDraw.lp day = 0 := by
      simp [GeneratorTempData.lp, uniformDraw, zeroDraw, rateWithDuration]
    rw [none] at near
    exact absurd near (by decide +kernel)
  upper _ := by simp [uniformDraw, zeroDraw]
  lower _ _ := by simp [uniformDraw, zeroDraw]

/-- Two units that are sent to planned outages of ten days as soon as they are there, one at a time. -/
def allPlanned : GeneratorTempData where
  cluster := { zeroDraw.cluster with unitCount := 2 }
  prepro :=
    { foDuration := fun _ => 1
      poDuration := fun _ => 10
      foRate := fun _ => 0
      poRate := fun _ => 1
      npoMin := fun _ => 0
      npoMax := fun _ => 1 }
  forcedLaw := .uniform
  plannedLaw := .uniform
  forcedVolatility := 0
  plannedVolatility := 0
  word := fun _ => 0

theorem allPlanned_loaded : allPlanned.Loaded where
  checked _ _ := by constructor <;> norm_num [allPlanned, zeroDraw]
  forcedVolatility := by decide +kernel
  plannedVolatility := by decide +kernel

namespace GeneratorTempData

def bothUnits : State where
  aun := 2
  npoCur := 0
  stock := 0
  now := 0
  log _ := 0
  logp _ := 0
  drawn := 0

/-- After the first day one unit is out for ten days, and the other one in the stock. -/
def oneInStock : State :=
  let morning := allPlanned.morning 0 bothUnits
  allPlanned.evening 0 morning ((allPlanned.leaving 0 morning).outages 0 10)

theorem allPlanned_after : allPlanned.after 1 = some oneInStock := by
  have start : allPlanned.after 0 = some bothUnits := rfl
  have forced : allPlanned.fodReel 0 (allPlanned.morning 0 bothUnits) = some 0 := by
    unfold fodReel
    exact if_neg (by decide +kernel)
  have planned : allPlanned.podReel 0 (allPlanned.morning 0 bothUnits) = some 10 := by
    unfold podReel durationGenerator
    dsimp only
    rw [if_pos (by decide +kernel), if_pos (by decide +kernel)]
    decide +kernel
  have ran : (allPlanned.step 0 bothUnits).map Day.final = some oneInStock := by
    unfold step
    dsimp only
    rw [forced, planned]
    rfl
  rw [after_succ, dayOf_eq start]
  exact ran

end GeneratorTempData

/-- A place of a table: powers by day and number of units, rings by slot, series by hour. -/
inductive Access where
  | fpow (day : Nat) (units : Int)
  | ppow (day : Nat) (units : Int)
  | log (slot : Int)
  | logp (slot : Int)
  | series (tsIndex hour : Nat)

def daysOfTables : Nat := 366

def Access.InRange (nbThermalTimeseries : Nat) : Access → Prop
  | .fpow day units => day < daysOfTables ∧ 0 ≤ units ∧ units < powersOfADay
  | .ppow day units => day < daysOfTables ∧ 0 ≤ units ∧ units < powersOfADay
  | .log slot => 0 ≤ slot ∧ slot < logSize
  | .logp slot => 0 ≤ slot ∧ slot < logSize
  | .series tsIndex hour => tsIndex < nbThermalTimeseries ∧ hour < hoursPerYear

def State.scanned (cibleRetour : Int) : List Nat → Int → State → List Nat
  | [], _, _ => []
  | index :: indices, cumulRetour, state =>
    if cumulRetour = cibleRetour then []
    else
      let slot := (state.now + index) % logSize
      if cibleRetour ≤ state.logp slot + cumulRetour then [slot]
      else if 0 < state.logp slot then
        slot :: scanned cibleRetour indices (cumulRetour + state.logp slot)
          { state with
            log := Function.update state.log slot (state.log slot - state.logp slot)
            logp := Function.update state.logp slot 0 }
      else slot :: scanned cibleRetour indices cumulRetour state

def Outage.accesses (now : Nat) (outage : Outage) : List Access :=
  let fut := (now + outage.delay).tmod logSize
  if outage.planned then [.log fut, .logp fut] else [.log fut]

namespace GeneratorTempData

section
variable (generator : GeneratorTempData)

/-- The powers of all numbers of units, which are written before the first day. -/
def preparedAccesses : List Access :=
  if generator.cluster.unitCount = 0 ∨ generator.cluster.nominalCapacity = 0 then []
  else (List.range daysPerYear).flatMap fun day =>
    (List.range (generator.cluster.unitCount + 1)).flatMap fun (k : Nat) => [.fpow day k, .ppow day k]

variable (day : Nat)

def morningAccesses (state : State) : List Access :=
  let back := state.comeBack
  let npoMax := generator.prepro.npoMax day
  [.logp state.now, .log state.now] ++
    if npoMax < back.npoCur then
      (back.scanned (back.npoCur - toInt npoMax) (List.range' 1 (logSize - 1)) 0).flatMap fun slot =>
        [.logp slot, .log slot]
    else []

def drawAccesses (morning : State) : List Access :=
  (if drawsUnits (generator.lf day) then [.fpow day morning.aun] else []) ++
    if drawsUnits (generator.lp day) then [.ppow day (aunApp morning)] else []

/-- The hours of a day, in the series that come after two years without any. -/
def seriesAccesses (time : Nat) : List Access :=
  let tsIndex := time / daysPerYear
  if 1 < tsIndex then (List.range 24).map fun h => .series (tsIndex - 2) (time % daysPerYear * 24 + h) else []

def accesses (time : Nat) (state : State) (today : Day) : List Access :=
  let day := time % daysPerYear
  let morning := generator.morning day state
  generator.morningAccesses day state ++ generator.drawAccesses day morning ++
    today.outages.flatMap (Outage.accesses morning.now) ++ seriesAccesses time

/-- What the rates of a day are divided by: to be computed, to be corrected, and for the binomial law. -/
def rateDivisors : List Rat :=
  let forced := generator.prepro.foRate day
  let planned := generator.prepro.poRate day
  let lf := rateWithDuration forced (generator.fod day)
  let lp := rateWithDuration planned (generator.pod day)
  [forced + generator.fod day * (1 - forced), planned + generator.pod day * (1 - planned)] ++
    (if 0 < lf ∧ lf < lp then [1 - lf] else []) ++
    (if 0 < lp ∧ lp < generator.lf day then [1 - lp] else []) ++
    (if generator.lf day ≤ failureRateEq1 then [1 - generator.lf day] else []) ++
    if generator.lp day ≤ failureRateEq1 then [1 - generator.lp day] else []

attribute [local instance] Library.Bisection.two_atLeastTwo four_atLeastTwo in
/-- What the numbers of a law are divided by. -/
noncomputable def lawDivisors (law : ThermalLaw) (volatility duration : Rat) : List ℝ :=
  match law with
  | .uniform => []
  | .geometric =>
    let xtemp : ℝ := (volatility * volatility * duration * (duration - 1) : Rat)
    if xtemp ≠ 0 then
      let b := (Real.sqrt (4 * xtemp + 1) - 1) / (2 * xtemp)
      [2 * xtemp, b, Real.log (1 - b)]
    else []

/-- Nothing is divided by zero, rates are probabilities, and the tables are kept to from the first day to the last. -/
structure Safe (nbThermalTimeseries : Nat) : Prop where
  rates : ∀ day < daysPerYear, ∀ divisor ∈ generator.rateDivisors day, divisor ≠ 0
  forcedLaw : ∀ day < daysPerYear,
    ∀ divisor ∈ lawDivisors generator.forcedLaw generator.forcedVolatility (generator.prepro.foDuration day), divisor ≠ 0
  plannedLaw : ∀ day < daysPerYear,
    ∀ divisor ∈ lawDivisors generator.plannedLaw generator.plannedVolatility (generator.prepro.poDuration day),
      divisor ≠ 0
  lf : ∀ day < daysPerYear, 0 ≤ generator.lf day ∧ generator.lf day ≤ 1
  lp : ∀ day < daysPerYear, 0 ≤ generator.lp day ∧ generator.lp day ≤ 1
  prepared : ∀ access ∈ generator.preparedAccesses, access.InRange nbThermalTimeseries
  run : ∀ time < generator.numberOfDays nbThermalTimeseries, ∃ state today, generator.after time = some state ∧
    generator.step (time % daysPerYear) state = some today ∧
    ∀ access ∈ generator.accesses time state today, access.InRange nbThermalTimeseries

end

section
variable {rate other : Rat}

theorem rate_divisor_pos {duration : Int} (within : 0 ≤ rate ∧ rate ≤ 1) (long : 1 ≤ duration) :
    0 < rate + duration * (1 - rate) := by
  have one : (1 : Rat) ≤ duration := by exact_mod_cast long
  nlinarith

theorem rateWithDuration_mem {duration : Int} (within : 0 ≤ rate ∧ rate ≤ 1) (long : 1 ≤ duration) :
    0 ≤ rateWithDuration rate duration ∧ rateWithDuration rate duration ≤ 1 := by
  have positive := rate_divisor_pos within long
  have spread : 0 ≤ duration * (1 - rate) :=
    mul_nonneg (by exact_mod_cast (zero_le_one.trans long)) (by linarith)
  exact ⟨div_nonneg within.1 positive.le, (div_le_one positive).mpr (by linarith)⟩

theorem corrected_mem (nonneg : 0 ≤ rate) (smaller : rate < other) (within : other ≤ 1) :
    0 ≤ rate * ((1 - other) / (1 - rate)) ∧ rate * ((1 - other) / (1 - rate)) ≤ 1 := by
  have positive : 0 < 1 - rate := by linarith
  have factor_nonneg : 0 ≤ (1 - other) / (1 - rate) := div_nonneg (by linarith) positive.le
  have factor_le : (1 - other) / (1 - rate) ≤ 1 := (div_le_one positive).mpr (by linarith)
  exact ⟨mul_nonneg nonneg factor_nonneg, mul_le_one₀ (by linarith) factor_nonneg factor_le⟩

end

section
variable {generator : GeneratorTempData} {nbThermalTimeseries day : Nat}

theorem fod_ge (checked : generator.prepro.Checked generator.cluster.unitCount day) : 1 ≤ generator.fod day := by
  have long := checked.foDuration.1
  rw [fod, toInt_of_nonneg (zero_le_one.trans long)]
  exact Int.le_floor.mpr (by exact_mod_cast long)

theorem pod_ge (checked : generator.prepro.Checked generator.cluster.unitCount day) : 1 ≤ generator.pod day := by
  have long := checked.poDuration.1
  rw [pod, toInt_of_nonneg (zero_le_one.trans long)]
  exact Int.le_floor.mpr (by exact_mod_cast long)

theorem lf_mem (checked : generator.prepro.Checked generator.cluster.unitCount day) :
    0 ≤ generator.lf day ∧ generator.lf day ≤ 1 := by
  have forced := rateWithDuration_mem checked.foRate (fod_ge checked)
  have planned := rateWithDuration_mem checked.poRate (pod_ge checked)
  unfold lf
  dsimp only
  split_ifs with corrected
  · exact corrected_mem forced.1 corrected.2 planned.2
  · exact forced

theorem lp_mem (checked : generator.prepro.Checked generator.cluster.unitCount day) :
    0 ≤ generator.lp day ∧ generator.lp day ≤ 1 := by
  have forced := lf_mem checked
  have planned := rateWithDuration_mem checked.poRate (pod_ge checked)
  unfold lp
  dsimp only
  split_ifs with corrected
  · exact corrected_mem planned.1 corrected.2 forced.2
  · exact planned

theorem rateDivisors_ne_zero (checked : generator.prepro.Checked generator.cluster.unitCount day) :
    ∀ divisor ∈ generator.rateDivisors day, divisor ≠ 0 := by
  have forced := rateWithDuration_mem checked.foRate (fod_ge checked)
  have planned := rateWithDuration_mem checked.poRate (pod_ge checked)
  have lf_le := (lf_mem checked).2
  have near : failureRateEq1 < 1 := by norm_num [failureRateEq1]
  -- a divisor of a branch is positive where the branch is taken
  have guarded {taken : Prop} [Decidable taken] {value : Rat} (positive : taken → 0 < value) :
      ∀ divisor ∈ (if taken then [value] else []), divisor ≠ 0 := by
    intro divisor listed
    split_ifs at listed with holds
    · obtain rfl := List.mem_singleton.mp listed
      exact (positive holds).ne'
    · exact absurd listed List.not_mem_nil
  unfold rateDivisors
  dsimp only
  intro divisor listed
  rcases List.mem_append.mp listed with listed | listed
  · rcases List.mem_append.mp listed with listed | listed
    · rcases List.mem_append.mp listed with listed | listed
      · rcases List.mem_append.mp listed with listed | listed
        · rcases List.mem_pair.mp listed with rfl | rfl
          · exact (rate_divisor_pos checked.foRate (fod_ge checked)).ne'
          · exact (rate_divisor_pos checked.poRate (pod_ge checked)).ne'
        · exact guarded (fun smaller => by linarith [smaller.2]) divisor listed
      · exact guarded (fun smaller => by linarith [smaller.2]) divisor listed
    · exact guarded (fun low => by linarith) divisor listed
  · exact guarded (fun low => by linarith) divisor listed

theorem lawDivisors_ne_zero (law : ThermalLaw) {volatility duration : Rat} (long : 1 ≤ duration) :
    ∀ divisor ∈ lawDivisors law volatility duration, divisor ≠ 0 := by
  cases law with
  | uniform => exact fun divisor listed => absurd listed List.not_mem_nil
  | geometric =>
    unfold lawDivisors
    dsimp only
    split_ifs with spread
    · have positive : (0 : ℝ) < (volatility * volatility * duration * (duration - 1) : Rat) := by
        refine lt_of_le_of_ne ?_ (Ne.symm spread)
        exact_mod_cast mul_nonneg (mul_nonneg (mul_self_nonneg volatility) (by linarith)) (by linarith)
      obtain ⟨above, below⟩ := geometric_probability positive
      intro divisor listed
      rcases List.mem_cons.mp listed with rfl | listed
      · exact (mul_pos two_pos positive).ne'
      rcases List.mem_pair.mp listed with rfl | rfl
      · exact above.ne'
      · exact (Real.log_neg (by linarith) (by linarith)).ne
    · exact fun divisor listed => absurd listed List.not_mem_nil

theorem prepared_inRange_iff (run : generator.cluster.unitCount ≠ 0 ∧ generator.cluster.nominalCapacity ≠ 0) :
    (∀ access ∈ generator.preparedAccesses, access.InRange nbThermalTimeseries) ↔
      generator.cluster.unitCount < powersOfADay := by
  have executed : ¬ (generator.cluster.unitCount = 0 ∨ generator.cluster.nominalCapacity = 0) := by
    rintro (none | none)
    · exact run.1 none
    · exact run.2 none
  unfold preparedAccesses
  rw [if_neg executed]
  constructor
  · intro within
    have last := within (.fpow 0 generator.cluster.unitCount)
      (List.mem_flatMap.mpr ⟨0, by decide, List.mem_flatMap.mpr
        ⟨generator.cluster.unitCount, List.mem_range.mpr (Nat.lt_succ_self _), List.mem_cons_self⟩⟩)
    exact_mod_cast last.2.2
  · intro fits access listed
    obtain ⟨day, days, listed⟩ := List.mem_flatMap.mp listed
    obtain ⟨k, units, listed⟩ := List.mem_flatMap.mp listed
    have early : day < daysOfTables := (List.mem_range.mp days).trans (by decide)
    have few : (k : Int) < powersOfADay := by
      have := List.mem_range.mp units
      omega
    rcases List.mem_pair.mp listed with rfl | rfl
    · exact ⟨early, Int.natCast_nonneg k, few⟩
    · exact ⟨early, Int.natCast_nonneg k, few⟩

theorem scanned_lt {cibleRetour : Int} {indices : List Nat} {cumulRetour : Int} {state : State} :
    ∀ slot ∈ state.scanned cibleRetour indices cumulRetour, slot < logSize := by
  induction indices generalizing cumulRetour state with
  | nil => exact fun slot listed => absurd listed List.not_mem_nil
  | cons index indices later =>
    have inside : (state.now + index) % logSize < logSize := Nat.mod_lt _ (by decide)
    intro slot listed
    unfold State.scanned at listed
    dsimp only at listed
    split_ifs at listed
    · exact absurd listed List.not_mem_nil
    · exact List.mem_singleton.mp listed ▸ inside
    · exact (List.mem_cons.mp listed).elim (fun same => same ▸ inside) fun listed => later slot listed
    · exact (List.mem_cons.mp listed).elim (fun same => same ▸ inside) fun listed => later slot listed

theorem slot_inRange {slot : Nat} (inside : slot < logSize) :
    ∀ access ∈ [Access.logp slot, Access.log slot], access.InRange nbThermalTimeseries := by
  intro access listed
  rcases List.mem_pair.mp listed with rfl | rfl
  · exact ⟨Int.natCast_nonneg slot, by exact_mod_cast inside⟩
  · exact ⟨Int.natCast_nonneg slot, by exact_mod_cast inside⟩

theorem morningAccesses_inRange {state : State} (now_lt : state.now < logSize) :
    ∀ access ∈ generator.morningAccesses day state, access.InRange nbThermalTimeseries := by
  unfold morningAccesses
  dsimp only
  intro access listed
  rcases List.mem_append.mp listed with listed | listed
  · exact slot_inRange now_lt access listed
  · split_ifs at listed
    · obtain ⟨slot, scanned, listed⟩ := List.mem_flatMap.mp listed
      exact slot_inRange (scanned_lt slot scanned) access listed
    · exact absurd listed List.not_mem_nil

theorem drawAccesses_inRange {morning : State} (early : day < daysPerYear) (fits : generator.cluster.unitCount < powersOfADay)
    (balanced : morning.Balanced generator.cluster.unitCount) :
    ∀ access ∈ generator.drawAccesses day morning, access.InRange nbThermalTimeseries := by
  have inTable : day < daysOfTables := early.trans (by decide)
  have available := balanced.aun_nonneg
  have units := balanced.aun_le
  have fewApp : 0 ≤ aunApp morning ∧ aunApp morning ≤ morning.aun := by
    unfold aunApp
    split_ifs <;> omega
  unfold drawAccesses
  intro access listed
  rcases List.mem_append.mp listed with listed | listed
  · split_ifs at listed
    · obtain rfl := List.mem_singleton.mp listed
      exact ⟨inTable, available, by omega⟩
    · exact absurd listed List.not_mem_nil
  · split_ifs at listed
    · obtain rfl := List.mem_singleton.mp listed
      exact ⟨inTable, fewApp.1, by omega⟩
    · exact absurd listed List.not_mem_nil

theorem outage_accesses_inRange {outage : Outage} {now : Nat} (delay : 1 ≤ outage.delay) :
    ∀ access ∈ outage.accesses now, access.InRange nbThermalTimeseries := by
  have ahead : 0 ≤ now + outage.delay := by omega
  have nonneg : 0 ≤ (now + outage.delay).tmod logSize := Int.tmod_nonneg _ ahead
  have inside : (now + outage.delay).tmod logSize < logSize := Int.tmod_lt_of_pos _ (by decide)
  unfold Outage.accesses
  dsimp only
  intro access listed
  split_ifs at listed
  · rcases List.mem_pair.mp listed with rfl | rfl
    · exact ⟨nonneg, inside⟩
    · exact ⟨nonneg, inside⟩
  · obtain rfl := List.mem_singleton.mp listed
    exact ⟨nonneg, inside⟩

theorem seriesAccesses_inRange {time : Nat} (inRun : time < generator.numberOfDays nbThermalTimeseries) :
    ∀ access ∈ seriesAccesses time, access.InRange nbThermalTimeseries := by
  have early := inYear time
  unfold numberOfDays at inRun
  unfold seriesAccesses
  dsimp only
  intro access listed
  split_ifs at inRun
  · exact absurd inRun (Nat.not_lt_zero _)
  split_ifs at listed
  · obtain ⟨h, hours, rfl⟩ := List.mem_map.mp listed
    have turn := List.mem_range.mp hours
    have year : time / daysPerYear < nbThermalTimeseries + 2 := Nat.div_lt_of_lt_mul (by rwa [Nat.mul_comm])
    refine ⟨by omega, ?_⟩
    unfold daysPerYear at early
    unfold daysPerYear hoursPerYear
    omega
  · exact absurd listed List.not_mem_nil

theorem accesses_inRange (loaded : generator.Loaded) (fits : generator.cluster.unitCount < powersOfADay) {time : Nat}
    (inRun : time < generator.numberOfDays nbThermalTimeseries) {state : State} {today : Day}
    (balanced : state.Balanced generator.cluster.unitCount)
    (ran : generator.step (time % daysPerYear) state = some today) :
    ∀ access ∈ generator.accesses time state today, access.InRange nbThermalTimeseries := by
  have checked := loaded.checked _ (inYear time)
  obtain ⟨fodReel, podReel, forced, planned, whole⟩ := step_cases ran
  have delays := outages_delay loaded (inYear time) forced planned
  unfold accesses
  dsimp only
  intro access listed
  rcases List.mem_append.mp listed with listed | listed
  · rcases List.mem_append.mp listed with listed | listed
    · rcases List.mem_append.mp listed with listed | listed
      · exact morningAccesses_inRange balanced.now_lt access listed
      · exact drawAccesses_inRange (inYear time) fits (morning_spec balanced checked).balanced access listed
    · obtain ⟨outage, outages, listed⟩ := List.mem_flatMap.mp listed
      rw [whole] at outages
      exact outage_accesses_inRange (delays outage outages).1 access listed
  · exact seriesAccesses_inRange inRun access listed

end

end GeneratorTempData

/-- As many units as the tables have columns: the power of all of them is written behind the line. -/
def manyUnits : GeneratorTempData := { uniformDraw with cluster := { uniformDraw.cluster with unitCount := powersOfADay } }

end Antares.Solver.ThermalOutages
