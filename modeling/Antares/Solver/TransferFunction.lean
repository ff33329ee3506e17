import Antares.Library.Interpolation
import Antares.Library.StoppedRuns
import Mathlib.Algebra.Order.Ring.Rat

/-! The conversion of a day's values: the coefficients of the segments are put in two local arrays, and each value
looks for its segment from where the one before it was found.
-/

set_option autoImplicit false

namespace Antares.Solver.XCast

open Library

def conversionMaxPoints : Nat := 100

/-- A conversion table, by columns: the place of a point and its value. -/
abbrev Conversion := Points Rat

/-- `resetTransferFunction` -/
def resetTransferFunction : Conversion where
  width := 3
  x column := if column = 0 then -10 ^ 19 else if column = 2 then 10 ^ 19 else 0
  y _ := 0

/-- What the loader keeps of `conversion.txt`, and if the table is used. -/
structure Transfer where
  useConversion : Bool
  conversion : Conversion
  accepted : useConversion = true → 3 ≤ conversion.width ∧ conversion.width ≤ conversionMaxPoints

/-- `loadFromFolder`, once the file is read; the two ends are overwritten. -/
def Transfer.loadFromFolder (useConversion : Bool) (file : Conversion) : Transfer :=
  if valid : 3 ≤ file.width ∧ file.width ≤ conversionMaxPoints then
    { useConversion
      conversion :=
        { width := file.width
          x := Function.update (Function.update file.x 0 (-10 ^ 19)) (file.width - 1) (10 ^ 19)
          y := Function.update (Function.update file.y 0 (file.y 1)) (file.width - 1) (file.y (file.width - 2)) }
      accepted := fun _ => valid }
  else ⟨false, resetTransferFunction, fun used => by cases used⟩

inductive Stop where
  | outOfRange (index : Nat)
  | unwritten (index : Nat)
  | divisionByZero
  /-- Transfer function: invalid X-coordinate at index -/
  | fatalError (index : Nat)

/-- A local array of `maxPoints` coefficients; one that was never written has no value. -/
abbrev Coefficients := Nat → Option Rat

variable (coefficients : Coefficients)

def Coefficients.write (index : Nat) (value : Rat) : Except Stop Coefficients :=
  if index < conversionMaxPoints then .ok (Function.update coefficients index (some value)) else .error (.outOfRange index)

def Coefficients.read (index : Nat) : Except Stop Rat :=
  if index < conversionMaxPoints then
    match coefficients index with
    | some value => .ok value
    | none => .error (.unwritten index)
  else .error (.outOfRange index)

def divide (dividend divisor : Rat) : Except Stop Rat :=
  if divisor = 0 then .error .divisionByZero else .ok (dividend / divisor)

/-- The arrays `a` and `b` -/
structure Locals where
  a : Coefficients
  b : Coefficients

section
variable (tf : Conversion)

variable (locals : Locals)

def addSegment (i : Nat) : Except Stop Locals :=
  if tf.x (i + 1) ≤ tf.x i then .error (.fatalError i)
  else do
    let slope ← divide (tf.y (i + 1) - tf.y i) (tf.x (i + 1) - tf.x i)
    let a ← locals.a.write i slope
    let start ← divide (tf.y i * tf.x (i + 1) - tf.y (i + 1) * tf.x i) (tf.x (i + 1) - tf.x i)
    let b ← locals.b.write i start
    return ⟨a, b⟩

/-- The coefficients of the segments, after what is written at the index `width`. -/
def addSegments : Except Stop Locals := do
  let a ← locals.a.write tf.width 0
  let b ← locals.b.write tf.width 0
  (List.range (tf.width - 1)).foldlM (addSegment tf) ⟨a, b⟩

def search (value : Rat) (last : Nat) : Option Nat :=
  (List.range tf.width).find? fun i => tf.Between ((i + last) % tf.width) ((i + last + 1) % tf.width) value

/-- One hour: its value, and `last_i` for the next one. -/
def convertHour (state : (Nat → Rat) × Nat) (h : Nat) : Except Stop ((Nat → Rat) × Nat) :=
  match search tf (state.1 h) state.2 with
  | none => .ok state
  | some i => do
    let a ← locals.a.read ((i + state.2) % tf.width)
    let b ← locals.b.read ((i + state.2) % tf.width)
    return (Function.update state.1 h (a * state.1 h + b), i)

def convertDay (dailyResults : Nat → Rat) : Except Stop (Locals × (Nat → Rat)) := do
  let locals ← addSegments tf locals
  let state ← (List.range 24).foldlM (convertHour tf locals) (dailyResults, 0)
  return (locals, state.1)

end

section
variable (areas : Nat → Transfer)

def convertArea (state : Locals × (Nat → Nat → Rat)) (s : Nat) : Except Stop (Locals × (Nat → Nat → Rat)) :=
  -- `pUseConversion`
  if (areas s).useConversion ∧ 3 ≤ (areas s).conversion.width then do
    let day ← convertDay (areas s).conversion state.1 (state.2 s)
    return (day.1, Function.update state.2 s day.2)
  else .ok state

/-- `applyTransferFunction`, over the areas of the generator -/
def applyTransferFunction (processCount : Nat) (data : Nat → Nat → Rat) : Except Stop (Nat → Nat → Rat) := do
  let state ← (List.range processCount).foldlM (convertArea areas) (⟨fun _ => none, fun _ => none⟩, data)
  return state.2

end

def Locals.Serves (locals : Locals) (tf : Conversion) (count : Nat) : Prop :=
  ∀ i < count, locals.a i = some (tf.slope i) ∧ locals.b i = some (tf.y i - tf.slope i * tf.x i)

section
variable {tf : Conversion} {locals : Locals}

theorem addSegment_serves {i : Nat} (ordered : tf.x i < tf.x (i + 1)) (room : i < conversionMaxPoints)
    (serves : locals.Serves tf i) : ∃ after, addSegment tf locals i = .ok after ∧ after.Serves tf (i + 1) := by
  have apart : tf.x (i + 1) - tf.x i ≠ 0 := (sub_pos.mpr ordered).ne'
  have start : (tf.y i * tf.x (i + 1) - tf.y (i + 1) * tf.x i) / (tf.x (i + 1) - tf.x i) =
      tf.y i - tf.slope i * tf.x i := by
    unfold Points.slope
    field_simp
    ring
  refine ⟨⟨Function.update locals.a i (some (tf.slope i)), Function.update locals.b i (some (tf.y i - tf.slope i * tf.x i))⟩,
    ?_, fun j within => ?_⟩
  · unfold addSegment
    rw [if_neg (not_le.mpr ordered)]
    simp only [divide, if_neg apart, Coefficients.write, if_pos room, start]
    rfl
  · by_cases last : j = i
    · subst last
      exact ⟨Function.update_self .., Function.update_self ..⟩
    · have earlier := serves j (by omega)
      exact ⟨(Function.update_of_ne last ..).trans earlier.1, (Function.update_of_ne last ..).trans earlier.2⟩

theorem addSegments_ends (room : tf.width < conversionMaxPoints) (locals : Locals) :
    Ends (addSegments tf locals) (fun after => tf.Increasing ∧ after.Serves tf (tf.width - 1))
      fun stop => ¬ tf.Increasing ∧ ∃ i, stop = .fatalError i := by
  unfold addSegments
  simp only [Coefficients.write, if_pos room, List.range_eq_range']
  -- the places are in order up to the segment that is added
  have loop (start : Locals) : Ends ((List.range' 0 (tf.width - 1)).foldlM (addSegment tf) start)
      (fun after => (∀ j < 0 + (tf.width - 1), tf.x j < tf.x (j + 1)) ∧ after.Serves tf (0 + (tf.width - 1)))
      (fun stop => ¬ tf.Increasing ∧ ∃ i, stop = .fatalError i) := by
    refine Ends.foldlM_range' (fun i (locals : Locals) => (∀ j < i, tf.x j < tf.x (j + 1)) ∧ locals.Serves tf i) ?_
      ⟨fun j none => absurd none (Nat.not_lt_zero j), fun j none => absurd none (Nat.not_lt_zero j)⟩
    rintro i _ within locals ⟨before, serves⟩
    by_cases ordered : tf.x i < tf.x (i + 1)
    · obtain ⟨after, step, done⟩ := addSegment_serves ordered (by omega) serves
      rw [step]
      refine ⟨fun j earlier => ?_, done⟩
      rcases Nat.lt_or_eq_of_le (Nat.le_of_lt_succ earlier) with earlier | rfl
      · exact before j earlier
      · exact ordered
    · have step : addSegment tf locals i = .error (.fatalError i) := if_pos (not_lt.mp ordered)
      rw [step]
      exact ⟨fun increasing => ordered (increasing i (by omega)), i, rfl⟩
  refine (loop _).mono ?_ fun _ stopped => stopped
  rintro after ⟨ordered, serves⟩
  rw [Nat.zero_add] at ordered serves
  exact ⟨fun i within => ordered i (by omega), serves⟩

theorem addSegments_outOfRange (full : conversionMaxPoints ≤ tf.width) (locals : Locals) :
    addSegments tf locals = .error (.outOfRange tf.width) := by
  unfold addSegments Coefficients.write
  rw [if_neg (not_lt.mpr full)]
  rfl

section
variable (increasing : tf.Increasing) (points : 2 ≤ tf.width)
include increasing points

theorem search_between {value : Rat} {last i : Nat} (found : search tf value last = some i) :
    (i + last) % tf.width + 1 < tf.width ∧
      tf.Between ((i + last) % tf.width) ((i + last) % tf.width + 1) value := by
  have holds := List.find?_some found
  have between : tf.Between ((i + last) % tf.width) ((i + last + 1) % tf.width) value := of_decide_eq_true holds
  have within : (i + last) % tf.width < tf.width := Nat.mod_lt _ (by omega)
  rw [← Nat.mod_add_mod (i + last)] at between
  rcases Nat.lt_or_eq_of_le (show (i + last) % tf.width + 1 ≤ tf.width from within) with inside | end'
  · rw [Nat.mod_eq_of_lt inside] at between
    exact ⟨inside, between⟩
  · -- the fictitious segment, from the last point to the first one
    rw [end', Nat.mod_self] at between
    have apart : tf.x 0 < tf.x ((i + last) % tf.width) := increasing.lt (by omega) within
    exact absurd (between.1.trans between.2) (not_le.mpr apart)

omit increasing in
/-- From wherever it starts, the search misses no segment. -/
theorem interpolate_of_search {value : Rat} {last : Nat} (missed : search tf value last = none) :
    tf.interpolate value = value := by
  apply Points.interpolate_of_not_between
  intro i within between
  -- the turn of the search that comes to this segment
  have turn : ((i + (tf.width - last % tf.width)) % tf.width + last) % tf.width = i := by
    have split := Nat.mod_add_div last tf.width
    have less := Nat.mod_lt last (show tf.width > 0 by omega)
    rw [Nat.mod_add_mod, show i + (tf.width - last % tf.width) + last = i + tf.width * (last / tf.width + 1) by
      rw [Nat.mul_succ]; omega, Nat.add_mul_mod_self_left]
    exact Nat.mod_eq_of_lt (by omega)
  have next : ((i + (tf.width - last % tf.width)) % tf.width + last + 1) % tf.width = i + 1 := by
    rw [← Nat.mod_add_mod, turn]
    exact Nat.mod_eq_of_lt within
  have within_turn : (i + (tf.width - last % tf.width)) % tf.width ∈ List.range tf.width :=
    List.mem_range.mpr (Nat.mod_lt _ (by omega))
  have listed := List.find?_eq_none.mp missed _ within_turn
  rw [turn, next] at listed
  exact listed (decide_eq_true between)

variable (room : tf.width ≤ conversionMaxPoints) (serves : locals.Serves tf (tf.width - 1))
include room serves

theorem convertHour_eq (state : (Nat → Rat) × Nat) (h : Nat) :
    ∃ last, convertHour tf locals state h = .ok (Function.update state.1 h (tf.interpolate (state.1 h)), last) := by
  unfold convertHour
  cases found : search tf (state.1 h) state.2 with
  | none =>
    rw [interpolate_of_search points found, Function.update_eq_self]
    exact ⟨state.2, rfl⟩
  | some i =>
    obtain ⟨within, between⟩ := search_between increasing points found
    obtain ⟨slope, start⟩ := serves ((i + state.2) % tf.width) (by omega)
    have line : tf.slope ((i + state.2) % tf.width) * state.1 h + (tf.y ((i + state.2) % tf.width) -
        tf.slope ((i + state.2) % tf.width) * tf.x ((i + state.2) % tf.width)) = tf.interpolate (state.1 h) := by
      rw [increasing.interpolate_eq within between]
      unfold Points.line
      ring
    refine ⟨i, ?_⟩
    simp only [Coefficients.read, if_pos (show (i + state.2) % tf.width < conversionMaxPoints by omega), slope, start]
    rw [← line]
    rfl

end

def converted (tf : Conversion) (dailyResults : Nat → Rat) (h : Nat) : Rat :=
  if h < 24 then tf.interpolate (dailyResults h) else dailyResults h

theorem convertDay_ends (points : 2 ≤ tf.width) (room : tf.width < conversionMaxPoints) (locals : Locals)
    (dailyResults : Nat → Rat) : Ends (convertDay tf locals dailyResults)
      (fun day => tf.Increasing ∧ day.2 = converted tf dailyResults)
      fun stop => ¬ tf.Increasing ∧ ∃ i, stop = .fatalError i := by
  unfold convertDay
  apply (addSegments_ends room locals).bind
  rintro after ⟨increasing, serves⟩
  rw [List.range_eq_range']
  have hours : Ends ((List.range' 0 24).foldlM (convertHour tf after) (dailyResults, 0))
      (fun state => state.1 = fun h => if h < 0 + 24 then tf.interpolate (dailyResults h) else dailyResults h)
      (fun _ => False) := by
    refine Ends.foldlM_range' (fun index (state : (Nat → Rat) × Nat) => state.1 =
      fun h => if h < index then tf.interpolate (dailyResults h) else dailyResults h) ?_ ?_
    · intro index _ _ state before
      obtain ⟨last, step⟩ := convertHour_eq increasing points room.le serves state index
      rw [step]
      funext h
      by_cases now : h = index
      · subst now
        simp only [Function.update_self, before, lt_irrefl, if_false, Nat.lt_succ_self, if_true]
      · simp only [Function.update_of_ne now, before]
        by_cases earlier : h < index
        · rw [if_pos earlier, if_pos (Nat.lt_succ_of_lt earlier)]
        · rw [if_neg earlier, if_neg (by omega)]
    · funext h
      exact (if_neg (Nat.not_lt_zero h)).symm
  apply (hours.mono (fun _ done => done) fun _ none => none.elim).bind
  intro state done
  exact ⟨increasing, done⟩

end

section
variable (areas : Nat → Transfer)

variable (count : Nat)

/-- The areas of which the table is used, as far as a number of them. -/
def Ordered : Prop := ∀ s < count, (areas s).useConversion = true → (areas s).conversion.Increasing

def Roomy : Prop := ∀ s < count, (areas s).useConversion = true → Ordered areas s →
  (areas s).conversion.width < conversionMaxPoints

def convertedUntil (data : Nat → Nat → Rat) (s : Nat) : Nat → Rat :=
  if s < count ∧ (areas s).useConversion = true then converted (areas s).conversion (data s) else data s

variable {areas}

variable {count : Nat}

theorem convertedUntil_succ {data : Nat → Nat → Rat} {day : Nat → Rat}
    (last : day = if (areas count).useConversion = true then converted (areas count).conversion (data count) else data count) :
    Function.update (convertedUntil areas count data) count day = convertedUntil areas (count + 1) data := by
  funext s
  unfold convertedUntil
  by_cases now : s = count
  · subst now
    rw [Function.update_self, last]
    simp
  · rw [Function.update_of_ne now]
    simp [show s < count + 1 ↔ s < count by omega]

theorem convertedUntil_apply {count s h : Nat} (within : s < count) (hour : h < 24) (data : Nat → Nat → Rat) :
    convertedUntil areas count data s h =
      if (areas s).useConversion = true then (areas s).conversion.interpolate (data s h) else data s h := by
  unfold convertedUntil converted
  by_cases used : (areas s).useConversion = true
  · rw [if_pos ⟨within, used⟩, if_pos used, if_pos hour]
  · rw [if_neg fun both => used both.2, if_neg used]

theorem foldlM_convertArea (roomy : Roomy areas count) (data : Nat → Nat → Rat) :
    Ends ((List.range' 0 count).foldlM (convertArea areas) (⟨fun _ => none, fun _ => none⟩, data))
      (fun state => Ordered areas (0 + count) ∧ state.2 = convertedUntil areas (0 + count) data)
      fun stop => (¬ Ordered areas count) ∧ ∃ i, stop = .fatalError i := by
  refine Ends.foldlM_range' (fun s (state : Locals × (Nat → Nat → Rat)) => Ordered areas s ∧
    state.2 = convertedUntil areas s data) ?_ ⟨fun s none => absurd none (Nat.not_lt_zero s), ?_⟩
  · rintro s _ within state ⟨ordered, before⟩
    have here : state.2 s = data s := by
      rw [before]
      exact if_neg fun both => lt_irrefl s both.1
    unfold convertArea
    by_cases used : (areas s).useConversion = true
    · obtain ⟨points, _⟩ := (areas s).accepted used
      rw [if_pos ⟨used, points⟩, here]
      have day := convertDay_ends (by omega) (roomy s (by omega) used ordered) state.1 (data s)
      have step := @Ends.mono _ _ _ _ _ (fun day => (areas s).conversion.Increasing ∧
          day.2 = converted (areas s).conversion (data s))
        (fun stop => (¬ Ordered areas count) ∧ ∃ i, stop = .fatalError i) day (fun _ done => done)
        fun stop stopped => ⟨fun all => stopped.1 (all s (by omega) used), stopped.2⟩
      apply step.bind
      rintro after ⟨increasing, done⟩
      refine ⟨fun other earlier asked => ?_, ?_⟩
      · rcases Nat.lt_or_eq_of_le (Nat.le_of_lt_succ earlier) with earlier | rfl
        · exact ordered other earlier asked
        · exact increasing
      · change Function.update state.2 s after.2 = _
        rw [before]
        exact convertedUntil_succ (by rw [if_pos used, done])
    · rw [if_neg fun both => used both.1]
      refine ⟨fun other earlier asked => ?_, ?_⟩
      · rcases Nat.lt_or_eq_of_le (Nat.le_of_lt_succ earlier) with earlier | rfl
        · exact ordered other earlier asked
        · exact absurd asked used
      · rw [before, ← @convertedUntil_succ _ _ _ (data s) (by rw [if_neg used])]
        have unchanged : convertedUntil areas s data s = data s := if_neg fun both => lt_irrefl s both.1
        exact (Function.update_eq_self_iff.mpr unchanged.symm).symm
  · funext s
    exact (if_neg fun both => Nat.not_lt_zero s both.1).symm

theorem applyTransferFunction_ends (roomy : Roomy areas count) (data : Nat → Nat → Rat) :
    Ends (applyTransferFunction areas count data) (fun after => Ordered areas count ∧ after = convertedUntil areas count data)
      fun stop => (¬ Ordered areas count) ∧ ∃ i, stop = .fatalError i := by
  unfold applyTransferFunction
  rw [List.range_eq_range']
  have loop := foldlM_convertArea roomy data
  rw [Nat.zero_add] at loop
  exact loop.bind fun state done => done

theorem applyTransferFunction_outOfRange (tight : ¬ Roomy areas count) (data : Nat → Nat → Rat) :
    ∃ index, applyTransferFunction areas count data = .error (.outOfRange index) := by
  -- the first of the tables without room
  have reached : ∃ s, s < count ∧ (areas s).useConversion = true ∧ Ordered areas s ∧
      conversionMaxPoints ≤ (areas s).conversion.width := by
    by_contra none
    refine tight fun s within used ordered => ?_
    by_contra full
    exact none ⟨s, within, used, ordered, not_lt.mp full⟩
  classical
  obtain ⟨within, used, ordered, full⟩ := Nat.find_spec reached
  generalize found : Nat.find reached = s at within used ordered full
  have roomy : Roomy areas s := by
    intro other earlier asked before
    by_contra wide
    exact Nat.find_min reached (found ▸ earlier) ⟨earlier.trans within, asked, before, not_lt.mp wide⟩
  have before := foldlM_convertArea roomy data
  refine ⟨(areas s).conversion.width, ?_⟩
  have step (state : Locals × (Nat → Nat → Rat)) :
      convertArea areas state s = .error (.outOfRange (areas s).conversion.width) := by
    unfold convertArea convertDay
    rw [if_pos ⟨used, ((areas s).accepted used).1⟩, addSegments_outOfRange full]
    rfl
  obtain ⟨later, rfl⟩ := Nat.exists_eq_add_of_lt within
  unfold applyTransferFunction
  rw [List.range_eq_range', Nat.add_assoc, ← List.range'_append_1, List.foldlM_append, List.range'_succ]
  cases run : (List.range' 0 s).foldlM (convertArea areas) (⟨fun _ => none, fun _ => none⟩, data) with
  | error stop =>
    rw [run] at before
    exact absurd ordered before.1
  | ok state =>
    simp only [Nat.zero_add]
    change ((convertArea areas state s >>= _) >>= _) = _
    rw [step]
    rfl

/-- Every access is in range, nothing is read before it is written or divided by zero; an invalid table is said to be so. -/
def Safe (run : Except Stop (Nat → Nat → Rat)) : Prop := Ends run (fun _ => True) fun stop => ∃ i, stop = .fatalError i

/-- The local arrays are left by the first table that is as wide as they are, unless another one is invalid before. -/
theorem applyTransferFunction_safe_iff (areas : Nat → Transfer) (processCount : Nat) (data : Nat → Nat → Rat) :
    Safe (applyTransferFunction areas processCount data) ↔ ∀ s < processCount, (areas s).useConversion = true →
      (∀ other < s, (areas other).useConversion = true → (areas other).conversion.Increasing) →
        (areas s).conversion.width < conversionMaxPoints := by
  constructor
  · intro safe
    by_contra tight
    obtain ⟨index, run⟩ := applyTransferFunction_outOfRange tight data
    rw [run] at safe
    obtain ⟨i, other⟩ := safe
    cases other
  · intro roomy
    exact (applyTransferFunction_ends roomy data).mono (fun _ _ => trivial) fun _ stopped => stopped.2

/-- A value within the range of the table is on one of its segments, another one is left. -/
def Interpolated (tf : Conversion) (value result : Rat) : Prop :=
  (tf.x 0 ≤ value → value ≤ tf.x (tf.width - 1) →
    ∃ i, i + 1 < tf.width ∧ tf.Between i (i + 1) value ∧ result = tf.line i value) ∧
  (value < tf.x 0 ∨ tf.x (tf.width - 1) < value → result = value)

theorem interpolated_interpolate {tf : Conversion} (increasing : tf.Increasing) (points : 2 ≤ tf.width) (value : Rat) :
    Interpolated tf value (tf.interpolate value) := by
  constructor
  · intro above below
    rw [show tf.width - 1 = tf.width - 2 + 1 by omega] at below
    obtain ⟨i, listed, between⟩ := Points.exists_between above below
    exact ⟨i, by omega, between, increasing.interpolate_eq (by omega) between⟩
  · exact increasing.interpolate_of_out

/-- Each value of an area with a table is interpolated from itself alone, wherever the search for it starts. -/
structure Interpolates (areas : Nat → Transfer) (processCount : Nat) (data : Nat → Nat → Rat) : Prop where
  result : ∃ after, applyTransferFunction areas processCount data = .ok after ∧
    ∀ s < processCount, ∀ h < 24, if (areas s).useConversion = true then
      Interpolated (areas s).conversion (data s h) (after s h) else after s h = data s h
  others : ∀ other : Nat → Nat → Rat, ∀ after, applyTransferFunction areas processCount data = .ok after →
    ∀ otherAfter, applyTransferFunction areas processCount other = .ok otherAfter →
      ∀ s < processCount, ∀ h < 24, data s h = other s h → after s h = otherAfter s h
  start : ∀ s < processCount, (areas s).useConversion = true → ∀ before,
    ∃ locals, addSegments (areas s).conversion before = .ok locals ∧ ∀ dailyResults h last,
      ∃ day, convertHour (areas s).conversion locals (dailyResults, last) h = .ok day ∧
        Interpolated (areas s).conversion (dailyResults h) (day.1 h)

/-- The conversion interpolates if no table that is used is as wide as the local arrays. -/
theorem applyTransferFunction_interpolates_iff (areas : Nat → Transfer) (processCount : Nat)
    (increasing : ∀ s < processCount, (areas s).useConversion = true → (areas s).conversion.Increasing)
    (data : Nat → Nat → Rat) : Interpolates areas processCount data ↔
      ∀ s < processCount, (areas s).useConversion = true → (areas s).conversion.width < conversionMaxPoints := by
  constructor
  · intro interpolates
    by_contra tight
    have reached : ¬ Roomy areas processCount := fun roomy => tight fun s within used =>
      roomy s within used fun other earlier => increasing other (earlier.trans within)
    obtain ⟨index, stopped⟩ := applyTransferFunction_outOfRange reached data
    obtain ⟨after, run, _⟩ := interpolates.result
    rw [run] at stopped
    cases stopped
  · intro room
    have roomy : Roomy areas processCount := fun s within used _ => room s within used
    have runs (data : Nat → Nat → Rat) :
        applyTransferFunction areas processCount data = .ok (convertedUntil areas processCount data) := by
      have ends := applyTransferFunction_ends roomy data
      cases run : applyTransferFunction areas processCount data with
      | error stop =>
        rw [run] at ends
        exact absurd increasing ends.1
      | ok after =>
        rw [run] at ends
        exact congrArg Except.ok ends.2
    constructor
    · refine ⟨_, runs data, fun s within h hour => ?_⟩
      rw [convertedUntil_apply within hour]
      split_ifs with used
      · exact interpolated_interpolate (increasing s within used) ((by decide : 2 ≤ 3).trans ((areas s).accepted used).1) _
      · rfl
    · intro other after run otherAfter otherRun s within h hour same
      rw [runs data] at run
      rw [runs other] at otherRun
      cases run
      cases otherRun
      rw [convertedUntil_apply within hour, convertedUntil_apply within hour, same]
    · intro s within used before
      have points : 2 ≤ (areas s).conversion.width := (by decide : 2 ≤ 3).trans ((areas s).accepted used).1
      have ends := addSegments_ends (room s within used) before
      cases run : addSegments (areas s).conversion before with
      | error stop =>
        rw [run] at ends
        exact absurd (increasing s within used) ends.1
      | ok locals =>
        rw [run] at ends
        refine ⟨locals, rfl, fun dailyResults h last => ?_⟩
        obtain ⟨next, hour⟩ := convertHour_eq (increasing s within used) points (room s within used).le ends.2
          (dailyResults, last) h
        refine ⟨_, hour, ?_⟩
        simp only [Function.update_self]
        exact interpolated_interpolate (increasing s within used) points _

end

def slopes (points : Nat) : Conversion where
  width := points
  x column := column
  y column := 2 * column

/-- A table of 100 points, which the loader accepts, is written at the index 100 of the arrays. -/
theorem widest_not_safe : (Transfer.loadFromFolder true (slopes 100)).useConversion = true ∧
    ¬ Safe (applyTransferFunction (fun _ => .loadFromFolder true (slopes 100)) 1 fun _ _ => 0) := by
  refine ⟨by decide, fun safe => ?_⟩
  have tight : ¬ Roomy (fun _ => Transfer.loadFromFolder true (slopes 100)) 1 := fun roomy =>
    absurd (roomy 0 one_pos (by decide) fun _ none => absurd none (Nat.not_lt_zero _)) (by decide)
  obtain ⟨index, run⟩ := applyTransferFunction_outOfRange tight fun _ _ => 0
  rw [run] at safe
  obtain ⟨i, other⟩ := safe
  cases other

/-- So its values are not interpolated. -/
theorem widest_not_interpolates : (Transfer.loadFromFolder true (slopes 100)).conversion.Increasing ∧
    ¬ Interpolates (fun _ => .loadFromFolder true (slopes 100)) 1 fun _ _ => 0 := by
  refine ⟨by decide +kernel, fun interpolates => ?_⟩
  have tight : ¬ Roomy (fun _ => Transfer.loadFromFolder true (slopes 100)) 1 := fun roomy =>
    absurd (roomy 0 one_pos (by decide) fun _ none => absurd none (Nat.not_lt_zero _)) (by decide)
  obtain ⟨index, stopped⟩ := applyTransferFunction_outOfRange tight fun _ _ => 0
  obtain ⟨after, run, _⟩ := interpolates.result
  rw [run] at stopped
  cases stopped

theorem slopes_interpolates : Interpolates (fun _ => .loadFromFolder true (slopes 5)) 2 (fun s h => s + h / 2) ↔
    ∀ s < 2, (Transfer.loadFromFolder true (slopes 5)).useConversion = true →
      (Transfer.loadFromFolder true (slopes 5)).conversion.width < conversionMaxPoints :=
  applyTransferFunction_interpolates_iff (fun _ => .loadFromFolder true (slopes 5)) 2
    (fun _ _ _ => by decide +kernel) fun s h => s + h / 2

end Antares.Solver.XCast
