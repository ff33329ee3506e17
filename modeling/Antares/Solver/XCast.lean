import Antares.Data.Calendar
import Antares.Data.Matrix
import Antares.Data.Parameters

/-! The generator of load series over a run: which areas it works on, how it rewrites their
series at each call, and the demand-side management that it adds to the series of all areas.
-/

set_option autoImplicit false

namespace Antares.Solver.XCast

open Data

inductive TsTranslation where
  | tsTranslationNone
  | tsTranslationBeforeConversion
  | tsTranslationAfterConversion
  deriving DecidableEq, Repr

/-- The generator data of an area that are read once the values of a day are drawn. -/
structure Prepro where
  capacity : Rat
  useTranslation : TsTranslation
  translation : Nat → Rat

structure Area where
  prepro : Option Prepro
  /-- The column `fhrDSM` of the reserves. -/
  dsm : Nat → Rat

structure Study where
  parameters : Parameters
  /-- The simulation calendar has no leap day. -/
  calendarSettings : Calendar.Settings
  leapYear_eq : calendarSettings.leapYear = false
  nbAreas : Nat
  area : Nat → Area

/-- The values of every day before the capacity is applied, by area, series, day and hour of the
day, and whether their generation fails on some day. -/
structure Draw where
  data : Nat → Nat → Nat → Nat → Rat
  failed : Bool

structure State where
  pNeverInitialized : Bool
  localareas : List Nat
  series : Nat → Matrix

def State.init (series : Nat → Matrix) : State := ⟨true, [], series⟩

/-- A column of which some hours are written from the hour `first` on. -/
def writeHours (value : Nat → Rat) (first : Nat) (column : Nat → Rat) : Nat → Nat → Rat
  | 0 => column
  | hours + 1 => Function.update (writeHours value first column hours) (first + hours) (value hours)

/-- The column and `hourInTheYear` after that many days, each with its 24 values. -/
def writeDays (value : Nat → Nat → Nat → Rat) (column : Nat → Rat) : Nat → (Nat → Rat) × Nat
  | 0 => (column, 0)
  | days + 1 =>
    let before := writeDays value column days
    (writeHours (value days before.2) before.2 before.1 24, before.2 + 24)

theorem writeHours_apply (value : Nat → Rat) (first : Nat) (column : Nat → Rat) (hours row : Nat) :
    writeHours value first column hours row =
      if first ≤ row ∧ row < first + hours then value (row - first) else column row := by
  induction hours with
  | zero =>
    rw [if_neg (by omega)]
    rfl
  | succ hours ih =>
    rw [writeHours]
    by_cases last : row = first + hours
    · subst last
      rw [Function.update_self, if_pos (by omega), Nat.add_sub_cancel_left]
    · rw [Function.update_of_ne last, ih]
      by_cases written : first ≤ row ∧ row < first + hours
      · rw [if_pos written, if_pos (by omega)]
      · rw [if_neg written, if_neg (by omega)]

variable (value : Nat → Nat → Nat → Rat) (column : Nat → Rat)

theorem writeDays_hours (days : Nat) :
    (writeDays value column days).2 = 24 * days := by
  induction days with
  | zero => rfl
  | succ days ih =>
    rw [writeDays, ih]
    omega

theorem writeDays_apply {days row : Nat}
    (within : row < 24 * days) :
    (writeDays value column days).1 row = value (row / 24) (24 * (row / 24)) (row % 24) := by
  induction days with
  | zero => omega
  | succ days ih =>
    rw [writeDays]
    dsimp only
    rw [writeHours_apply, writeDays_hours]
    by_cases last : 24 * days ≤ row
    · have day : row / 24 = days := by omega
      have hour : row - 24 * days = row % 24 := by omega
      rw [if_pos (by omega), day, hour]
    · rw [if_neg (by omega), ih (by omega)]

namespace Prepro

variable (prepro : Prepro)

/-- `dailyResults` once the capacity and the translation are applied, rounded. -/
def finalValue (data : Nat → Nat → Rat) (day hourInTheYear hour : Nat) : Rat :=
  let dailyResult := data day hour * prepro.capacity
  let dailyResult :=
    if prepro.useTranslation = .tsTranslationAfterConversion then
      dailyResult + prepro.translation (hourInTheYear + hour)
    else dailyResult
  mathRound dailyResult

end Prepro

namespace Study

variable (study : Study)

def simulated : Parameters := study.parameters.fixBadValues

def derated : Bool := study.simulated.derated

def nbTimeseries : Nat := study.simulated.nbTimeSeries .load

def calendar : Calendar := .reset study.calendarSettings

def nbDays : Nat := ((List.range 12).map fun month => (study.calendar.months month).days).sum

/-- `Predicate::Load::accept`, for an area that has a prepro. -/
def accept (area : Nat) : Bool :=
  match (study.area area).prepro with
  | some prepro => !mathZero prepro.capacity
  | none => false

def acceptedAreas : List Nat := (List.range study.nbAreas).filter study.accept

variable (state : State)

/-- `StudyData::loadFromStudy`, which reads the prepro of every area. -/
def loadFromStudy : Option State :=
  if (List.range study.nbAreas).all fun area => (study.area area).prepro.isSome then
    some { state with
      localareas := study.acceptedAreas
      series := fun area =>
        if area < study.nbAreas ∧ !study.accept area then (state.series area).reset 1 hoursPerYear
        else state.series area }
  else none

def prepareFirstCall : Option State :=
  (study.loadFromStudy state).map fun state =>
    { state with
      series := fun area =>
        if area ∈ state.localareas then (state.series area).resize study.nbTimeseries hoursPerYear
        else state.series area }

variable (draw : Draw)

/-- The series of an area after the days of the year are written in each of its columns. -/
def generateSeries (area : Nat) (matrix : Matrix) : Matrix :=
  match (study.area area).prepro with
  | some prepro =>
    { matrix with
      entry := fun tsIndex =>
        if tsIndex < study.nbTimeseries then
          (writeDays (prepro.finalValue (draw.data area tsIndex)) (matrix.entry tsIndex) study.nbDays).1
        else matrix.entry tsIndex }
  | none => matrix

def generateValues (state : State) : State :=
  { state with
    pNeverInitialized := false
    series := fun area =>
      if area ∈ state.localareas then study.generateSeries draw area (state.series area) else state.series area }

def averageAll : State :=
  if study.derated then
    { state with
      series := fun area =>
        if area < study.nbAreas then (state.series area).averageTimeseries true else state.series area }
  else state

def addDsm : State :=
  { state with
    series := fun area =>
      if area < study.nbAreas then (state.series area).addToColumns (study.area area).dsm
      else state.series area }

/-- `XCast::runWithPredicate` for the load: whether it succeeds, or `none` when it throws. -/
def runWithPredicate (state : State) : Option (Bool × State) :=
  if state.localareas.any fun area => (study.area area).prepro.isNone then some (false, state)
  else
    (if state.pNeverInitialized then study.prepareFirstCall state else some state).bind fun state =>
      if state.localareas.isEmpty then some (true, state)
      else if draw.failed then none
      else some (true, study.addDsm (study.averageAll (study.generateValues draw state)))

/-- The states after each of the calls of a run, when all of them succeed. -/
def run : List Draw → State → Option (List State)
  | [], _ => some []
  | draw :: draws, state =>
    match study.runWithPredicate draw state with
    | some (true, state) => (run draws state).map fun states => state :: states
    | _ => none

/-- What the generator gives an area: nothing at a null capacity, otherwise the drawn series,
averaged when the study is derated. -/
def generated (area : Nat) : Matrix :=
  match study.accept area, (study.area area).prepro with
  | true, some prepro =>
    let matrix : Matrix :=
      { width := study.nbTimeseries
        height := hoursPerYear
        entry := fun timeSeries hour =>
          prepro.finalValue (draw.data area timeSeries) (hour / 24) (24 * (hour / 24)) (hour % 24) }
    if study.derated then matrix.averageTimeseries true else matrix
  | _, _ => { width := 1, height := hoursPerYear, entry := fun _ _ => 0 }

/-- The series of all areas are the generated ones with the demand-side management added once. -/
def DsmOnce (state : State) : Prop :=
  ∀ area < study.nbAreas,
    (state.series area).Same ((study.generated draw area).addToColumns (study.area area).dsm)

/-- The same, with the demand-side management added so many times to the areas left out. -/
structure DsmTimes (draw : Draw) (times : Nat) (state : State) : Prop where
  localareas : state.localareas = study.acceptedAreas
  accepted : ∀ area < study.nbAreas, study.accept area = true →
    (state.series area).Same ((study.generated draw area).addToColumns (study.area area).dsm)
  leftOut : ∀ area < study.nbAreas, study.accept area = false →
    (state.series area).Same
      ((study.generated draw area).addToColumns fun hour => times * (study.area area).dsm hour)

variable {study}

variable {area : Nat}

theorem mem_acceptedAreas : area ∈ study.acceptedAreas ↔ area < study.nbAreas ∧ study.accept area = true := by
  simp [acceptedAreas]

theorem nbTimeseries_pos : 0 < study.nbTimeseries :=
  study.parameters.fixBadValues_nbTimeSeries_pos (by decide)

theorem nbDays_eq : study.nbDays = 365 := by
  have months : study.nbDays = Calendar.daysBefore study.calendarSettings 12 := by
    simp only [nbDays, Calendar.daysBefore, calendar, Calendar.reset_months_days]
  rw [months, Calendar.daysBefore_twelve, study.leapYear_eq, if_neg Bool.false_ne_true]

theorem prepro_of_accept (accepted : study.accept area = true) :
    ∃ prepro, (study.area area).prepro = some prepro := by
  unfold accept at accepted
  split at accepted
  · exact ⟨_, ‹_›⟩
  · cases accepted

theorem generated_leftOut (draw : Draw) (leftOut : study.accept area = false) :
    study.generated draw area = { width := 1, height := hoursPerYear, entry := fun _ _ => 0 } := by
  rw [generated, leftOut]

theorem generated_height (draw : Draw) (area : Nat) : (study.generated draw area).height = hoursPerYear := by
  unfold generated
  split
  · dsimp only
    unfold Matrix.averageTimeseries
    split_ifs <;> rfl
  · rfl

theorem generated_width (draw : Draw) (accepted : study.accept area = true)
    (everySeries : study.derated = false) : (study.generated draw area).width = study.nbTimeseries := by
  obtain ⟨prepro, same⟩ := prepro_of_accept accepted
  rw [generated, accepted, same, everySeries]
  rfl

/-- What a call finds: the areas of the generator with room for their series, and the others
with what former calls added to them. -/
structure Prepared (study : Study) (times : Nat) (state : State) : Prop where
  localareas : state.localareas = study.acceptedAreas
  width : ∀ area ∈ study.acceptedAreas, (state.series area).width = study.nbTimeseries
  height : ∀ area ∈ study.acceptedAreas, (state.series area).height = hoursPerYear
  leftOut : ∀ area < study.nbAreas, study.accept area = false →
    (state.series area).Same
      (({ width := 1, height := hoursPerYear, entry := fun _ _ => 0 } : Matrix).addToColumns
        fun hour => times * (study.area area).dsm hour)

theorem prepareFirstCall_prepared {state next : State} (prepared : study.prepareFirstCall state = some next) :
    Prepared study 0 next := by
  obtain ⟨loaded, load, rfl⟩ := Option.map_eq_some_iff.1 prepared
  unfold loadFromStudy at load
  split at load
  case isFalse => cases load
  case isTrue =>
    cases load
    refine ⟨rfl, fun area mem => ?_, fun area mem => ?_, fun area inside left => ?_⟩
    · simp only [mem, if_true]
      exact Matrix.resize_width (by decide)
    · simp only [mem, if_true]
      exact Matrix.resize_height nbTimeseries_pos
    · have notLocal : area ∉ study.acceptedAreas := by simp [mem_acceptedAreas, left]
      have reset : area < study.nbAreas ∧ (!study.accept area) = true := ⟨inside, by simp [left]⟩
      simp only [notLocal, if_false, reset, and_self, if_true]
      refine ⟨Matrix.resize_width (by decide), Matrix.resize_height (by decide), fun _ _ _ _ => ?_⟩
      simp [Matrix.reset, Matrix.addToColumns]

theorem Prepared.generate {times : Nat} {state : State} (prepared : Prepared study times state) (draw : Draw) :
    study.DsmTimes draw (times + 1) (study.addDsm (study.averageAll (study.generateValues draw state))) := by
  have series (area : Nat) (inside : area < study.nbAreas) :
      (study.addDsm (study.averageAll (study.generateValues draw state))).series area =
        (if study.derated then ((study.generateValues draw state).series area).averageTimeseries true
          else (study.generateValues draw state).series area).addToColumns (study.area area).dsm := by
    simp only [addDsm, averageAll, inside, if_true]
    split <;> simp [inside]
  refine ⟨?_, fun area inside accepted => ?_, fun area inside left => ?_⟩
  · rw [← prepared.localareas]
    simp only [addDsm, averageAll, generateValues]
    split <;> rfl
  · rw [series area inside]
    refine Matrix.Same.addToColumns ?_ fun _ _ => rfl
    have mem : area ∈ study.acceptedAreas := mem_acceptedAreas.2 ⟨inside, accepted⟩
    obtain ⟨prepro, same⟩ := prepro_of_accept accepted
    have written : ((study.generateValues draw state).series area).Same
        { width := study.nbTimeseries
          height := hoursPerYear
          entry := fun timeSeries hour =>
            prepro.finalValue (draw.data area timeSeries) (hour / 24) (24 * (hour / 24)) (hour % 24) } := by
      have localArea : area ∈ state.localareas := prepared.localareas ▸ mem
      simp only [generateValues, localArea, if_true, generateSeries, same]
      have width := prepared.width area mem
      have height := prepared.height area mem
      refine ⟨width, height, fun timeSeries inWidth hour inHeight => ?_⟩
      have inWidth : timeSeries < study.nbTimeseries := width ▸ inWidth
      have inHeight : hour < hoursPerYear := height ▸ inHeight
      dsimp only
      rw [if_pos inWidth, nbDays_eq, writeDays_apply]
      exact inHeight
    rw [generated, accepted, same]
    dsimp only
    split
    · exact written.averageTimeseries true
    · exact written
  · have kept : (study.generateValues draw state).series area = state.series area := by
      have notLocal : area ∉ state.localareas := by
        rw [prepared.localareas]
        simp [mem_acceptedAreas, left]
      simp [generateValues, notLocal]
    have before := prepared.leftOut area inside left
    have oneColumn : (if study.derated then (state.series area).averageTimeseries true else state.series area) =
        state.series area := by
      have width : ¬ 1 < (state.series area).width := by
        rw [before.width]
        exact Nat.lt_irrefl 1
      simp [Matrix.averageTimeseries, width]
    rw [series area inside, kept, oneColumn, generated_leftOut draw left]
    refine (before.addToColumns fun _ _ => rfl).trans ?_
    rw [Matrix.addToColumns_twice]
    refine Matrix.Same.addToColumns (Matrix.Same.refl _) fun hour _ => ?_
    push_cast
    ring

theorem DsmTimes.prepared {draw : Draw} {times : Nat} {state : State} (after : study.DsmTimes draw times state)
    (everySeries : study.derated = false) : Prepared study times state := by
  refine ⟨after.localareas, fun area mem => ?_, fun area mem => ?_, fun area inside left => ?_⟩
  · obtain ⟨inside, accepted⟩ := mem_acceptedAreas.1 mem
    rw [(after.accepted area inside accepted).width]
    exact generated_width draw accepted everySeries
  · obtain ⟨inside, accepted⟩ := mem_acceptedAreas.1 mem
    rw [(after.accepted area inside accepted).height]
    exact generated_height draw area
  · rw [← generated_leftOut draw left]
    exact after.leftOut area inside left

def NoDsmLeftOut (study : Study) : Prop :=
  ∀ area < study.nbAreas, study.accept area = false → ∀ hour < hoursPerYear, (study.area area).dsm hour = 0

theorem DsmTimes.once_iff {draw : Draw} {times : Nat} {state : State} (after : study.DsmTimes draw times state) :
    study.DsmOnce draw state ↔ times = 1 ∨ NoDsmLeftOut study := by
  constructor
  · intro once
    refine or_iff_not_imp_left.2 fun several area inside left hour inYear => ?_
    have same := (once area inside).symm.trans (after.leftOut area inside left)
    rw [generated_leftOut draw left] at same
    have values := same.entry 0 Nat.one_pos hour inYear
    simp only [Matrix.addToColumns, zero_add] at values
    have several : (times : Rat) ≠ 1 := by exact_mod_cast several
    have factor : ((times : Rat) - 1) * (study.area area).dsm hour = 0 := by linarith
    exact (mul_eq_zero.1 factor).resolve_left (sub_ne_zero.2 several)
  · intro condition area inside
    cases accepted : study.accept area with
    | true => exact after.accepted area inside accepted
    | false =>
      refine (after.leftOut area inside accepted).trans
        (Matrix.Same.addToColumns (Matrix.Same.refl _) fun hour inYear => ?_)
      rcases condition with once | none
      · rw [once, Nat.cast_one, one_mul]
      · rw [none area inside accepted hour (by rwa [generated_height] at inYear), mul_zero]

theorem Prepared.runWithPredicate {times : Nat} {draw : Draw} {state next : State}
    (someArea : study.acceptedAreas ≠ [])
    (prepared : state.pNeverInitialized = false ∧ Prepared study times state ∨
      state.pNeverInitialized = true ∧ times = 0)
    (succeeded : study.runWithPredicate draw state = some (true, next)) :
    next.pNeverInitialized = false ∧ study.DsmTimes draw (times + 1) next := by
  unfold Study.runWithPredicate at succeeded
  split at succeeded
  · simp at succeeded
  · obtain ⟨ready, before, succeeded⟩ := Option.bind_eq_some_iff.1 succeeded
    have prepared : Prepared study times ready := by
      rcases prepared with ⟨initialized, prepared⟩ | ⟨first, rfl⟩
      · rw [initialized] at before
        cases before
        exact prepared
      · rw [first] at before
        exact prepareFirstCall_prepared before
    have notEmpty : ready.localareas.isEmpty = false := by
      rw [prepared.localareas]
      simpa using someArea
    simp only [notEmpty, Bool.false_eq_true, if_false] at succeeded
    split at succeeded
    case isTrue => cases succeeded
    case isFalse =>
      cases succeeded
      refine ⟨?_, prepared.generate draw⟩
      simp only [addDsm, averageAll, generateValues]
      split <;> rfl

theorem runWithPredicate_noArea {draw : Draw} {state next : State} (noArea : study.acceptedAreas = [])
    (first : state.pNeverInitialized = true) (succeeded : study.runWithPredicate draw state = some (true, next)) :
    next.pNeverInitialized = true ∧ study.DsmTimes draw 0 next := by
  unfold Study.runWithPredicate at succeeded
  split at succeeded
  · simp at succeeded
  · obtain ⟨ready, before, succeeded⟩ := Option.bind_eq_some_iff.1 succeeded
    have prepared : Prepared study 0 ready := prepareFirstCall_prepared before
    have empty : ready.localareas.isEmpty = true := by rw [prepared.localareas, noArea]; rfl
    simp only [empty, if_true, Option.some.injEq, Prod.mk.injEq, true_and] at succeeded
    subst succeeded
    refine ⟨?_, prepared.localareas, fun area inside accepted => ?_, fun area inside left => ?_⟩
    · obtain ⟨loaded, load, rfl⟩ := Option.map_eq_some_iff.1 before
      unfold loadFromStudy at load
      split at load
      · cases load
        exact first
      · cases load
    · have mem : area ∈ study.acceptedAreas := mem_acceptedAreas.2 ⟨inside, accepted⟩
      rw [noArea] at mem
      cases mem
    · rw [generated_leftOut draw left]
      exact prepared.leftOut area inside left

theorem run_cons {draw : Draw} {draws : List Draw} {state : State} {states : List State}
    (ran : study.run (draw :: draws) state = some states) :
    ∃ next later, study.runWithPredicate draw state = some (true, next) ∧ study.run draws next = some later ∧
      states = next :: later := by
  rw [run] at ran
  split at ran
  case h_1 next succeeded =>
    obtain ⟨later, rest, same⟩ := Option.map_eq_some_iff.1 ran
    exact ⟨next, later, succeeded, rest, same.symm⟩
  case h_2 => cases ran

theorem run_noArea {draws : List Draw} {state : State} {states : List State} (noArea : study.acceptedAreas = [])
    (first : state.pNeverInitialized = true) (ran : study.run draws state = some states) :
    List.Forall₂ study.DsmOnce draws states ↔ draws = [] ∨ NoDsmLeftOut study := by
  induction draws generalizing state states with
  | nil =>
    cases ran
    simp
  | cons draw draws ih =>
    obtain ⟨next, later, succeeded, rest, rfl⟩ := run_cons ran
    obtain ⟨still, after⟩ := runWithPredicate_noArea noArea first succeeded
    rw [List.forall₂_cons, after.once_iff, ih still rest]
    simp only [Nat.zero_ne_one, false_or, reduceCtorEq]
    exact ⟨And.left, fun none => ⟨none, .inr none⟩⟩

theorem Prepared.run {draws : List Draw} {times : Nat} {state : State} {states : List State}
    (someArea : study.acceptedAreas ≠ [])
    (prepared : state.pNeverInitialized = false ∧ Prepared study times state ∨
      state.pNeverInitialized = true ∧ times = 0)
    (years : study.derated = false ∨ draws.length ≤ 1) (ran : study.run draws state = some states) :
    List.Forall₂ study.DsmOnce draws states ↔
      draws = [] ∨ NoDsmLeftOut study ∨ times = 0 ∧ draws.length = 1 := by
  induction draws generalizing times state states with
  | nil =>
    cases ran
    simp
  | cons draw draws ih =>
    obtain ⟨next, later, succeeded, rest, rfl⟩ := run_cons ran
    obtain ⟨initialized, after⟩ := Prepared.runWithPredicate someArea prepared succeeded
    rw [List.forall₂_cons, after.once_iff]
    rcases years with everySeries | single
    · rw [ih (.inl ⟨initialized, after.prepared everySeries⟩) (.inl everySeries) rest]
      rw [← List.length_eq_zero_iff]
      simp only [List.length_cons, reduceCtorEq, false_or]
      constructor
      · rintro ⟨once | none, later⟩
        · rcases later with empty | none | later
          · exact .inr ⟨by omega, by omega⟩
          · exact .inl none
          · exact later.1.elim
        · exact .inl none
      · rintro (none | ⟨rfl, single⟩)
        · exact ⟨.inr none, .inr (.inl none)⟩
        · exact ⟨.inl rfl, .inl (by omega)⟩
    · have empty : draws = [] := List.eq_nil_of_length_eq_zero (by simpa using single)
      subst empty
      cases rest
      simp only [List.Forall₂.nil, and_true, reduceCtorEq, false_or, List.length_cons, List.length_nil]
      constructor
      · rintro (once | none)
        · exact .inr (by omega)
        · exact .inl none
      · rintro (none | first)
        · exact .inr none
        · exact .inl (by omega)

/-- After every call of a run all areas have their demand-side management once, exactly when no
area left out has any, or when the only call finds an area to generate for. -/
theorem run_once_iff (study : Study) (draws : List Draw) (series : Nat → Matrix) (states : List State)
    (years : draws.length ≤ study.simulated.nbYears) (ran : study.run draws (.init series) = some states) :
    List.Forall₂ study.DsmOnce draws states ↔
      draws = [] ∨ NoDsmLeftOut study ∨ draws.length = 1 ∧ ∃ area < study.nbAreas, study.accept area = true := by
  by_cases noArea : study.acceptedAreas = []
  · rw [run_noArea noArea rfl ran]
    have none : ¬ ∃ area < study.nbAreas, study.accept area = true := by
      rintro ⟨area, inside, accepted⟩
      have mem := mem_acceptedAreas.2 ⟨inside, accepted⟩
      rw [noArea] at mem
      cases mem
    simp only [none, and_false, or_false]
  · have single : study.derated = false ∨ draws.length ≤ 1 := by
      cases derated : study.derated with
      | false => exact .inl rfl
      | true =>
        have oneYear : study.simulated.nbYears = 1 := Parameters.fixBadValues_nbYears_of_derated derated
        exact .inr (oneYear ▸ years)
    rw [Prepared.run noArea (.inr ⟨rfl, rfl⟩) single ran]
    have someArea : ∃ area < study.nbAreas, study.accept area = true := by
      obtain ⟨area, mem⟩ := List.exists_mem_of_ne_nil _ noArea
      exact ⟨area, mem_acceptedAreas.1 mem⟩
    simp only [someArea, and_true, true_and]

/-- Two years, the load generated at each of them for the first of two areas. -/
def loadEachYear : Parameters where
  nbYears := 2
  derated := false
  userPlaylist := false
  yearsFilter _ := true
  timeSeriesToGenerate kind := kind = .load
  timeSeriesToRefresh kind := kind = .load
  refreshInterval _ := 1
  nbTimeSeries _ := 1
  intraModal _ := false
  interModal _ := false
  renewableGeneration := .rgAggregated
  ncMode := .ncMin

def nullCapacityStudy : Study where
  parameters := loadEachYear
  calendarSettings := ⟨.monday, .monday, january, january_lt, false⟩
  leapYear_eq := rfl
  nbAreas := 2
  area area := { prepro := some ⟨if area = 0 then 100 else 0, .tsTranslationNone, fun _ => 0⟩, dsm := fun _ => 10 }

def halfDraw : Draw := ⟨fun _ _ _ _ => 1 / 2, false⟩

def noSeries : State := .init fun _ => ⟨0, 0, fun _ _ => 0⟩

theorem nullCapacityStudy_run :
    ∃ states, nullCapacityStudy.run [halfDraw, halfDraw] noSeries = some states :=
  Option.isSome_iff_exists.1 (by decide +kernel)

/-- The first of the two years alone. -/
theorem run_once_iff_oneCall : ∃ states, nullCapacityStudy.run [halfDraw] noSeries = some states ∧
    (List.Forall₂ nullCapacityStudy.DsmOnce [halfDraw] states ↔
      [halfDraw] = [] ∨ NoDsmLeftOut nullCapacityStudy ∨
        [halfDraw].length = 1 ∧ ∃ area < nullCapacityStudy.nbAreas, nullCapacityStudy.accept area = true) := by
  obtain ⟨states, ran⟩ := Option.isSome_iff_exists.1
    (show (nullCapacityStudy.run [halfDraw] noSeries).isSome = true by decide +kernel)
  exact ⟨states, ran, run_once_iff nullCapacityStudy [halfDraw] _ states (by decide) ran⟩

/-- The second call adds the demand-side management of the area without capacity again. -/
theorem nullCapacityStudy_dsm_twice :
    ∃ states, nullCapacityStudy.run [halfDraw, halfDraw] noSeries = some states ∧
      ¬ List.Forall₂ nullCapacityStudy.DsmOnce [halfDraw, halfDraw] states := by
  obtain ⟨states, ran⟩ := nullCapacityStudy_run
  refine ⟨states, ran, fun once => ?_⟩
  have someArea : nullCapacityStudy.acceptedAreas ≠ [] := by decide +kernel
  rw [Prepared.run someArea (.inr ⟨rfl, rfl⟩) (.inl rfl) ran] at once
  rcases once with noCall | none | ⟨-, single⟩
  · cases noCall
  · have leftOut : nullCapacityStudy.accept 1 = false := by decide +kernel
    exact absurd (none 1 (by decide) leftOut 0 (by decide)) (by decide +kernel)
  · cases single

end Study

end Antares.Solver.XCast
