import Antares.Solver.RandomNumbers

/-! The random numbers of a year do not depend on the playlist. The draws of a year are
separated from what is stored: the generators move by the draws alone, and the numbers
stored for a performed year are a function of its draws.
-/

set_option autoImplicit false

namespace Antares.Solver

open Data Library

structure YearDraws where
  thermalNoises : List ((Nat × Nat) × Rat)
  reservoirLevels : List ((RandomArea × Nat) × Rat)
  energyCosts : List (Nat × (Rat × Rat))
  freeModulations : List (Nat × List (Nat × Rat))
  rampingOrExcursion : List (Nat × Rat)

section
variable (math : MathFunctions) (settings : RandomSettings)

def drawHydroCosts (random : RandomStream) :
    Option ((List (Nat × List (Nat × Rat)) × List (Nat × Rat)) × RandomStream) :=
  let areas := List.range settings.areas.length
  match settings.powerFluctuations with
  | .lssFreeModulations =>
    (drawAll (fun _ => drawHydroCostsOfArea) areas random).map fun drawn => ((drawn.1, []), drawn.2)
  | .lssMinimizeRamping | .lssMinimizeExcursions =>
    (drawAll (fun _ => drawNext) areas random).map fun drawn => (([], drawn.1), drawn.2)
  | .lssUnknown => some (([], []), random)

/-- What one year takes from the generators. Neither the year nor the playlist matters. -/
def drawYear (fuel : Nat) (random : Generators) : Option (YearDraws × Generators) := do
  let (thermalNoises, thermalCosts) ←
    drawAll (fun _ => drawNext) settings.clusterPlaces random.thermalCosts
  let (reservoirLevels, hydroManagement) ←
    drawAll (drawReservoirLevel math settings fuel) settings.areas.zipIdx random.hydroManagement
  let (energyCosts, unsuppliedEnergyCosts, spilledEnergyCosts) ←
    drawAll (fun _ => drawEnergyCosts settings) (List.range settings.areas.length)
      (random.unsuppliedEnergyCosts, random.spilledEnergyCosts)
  let ((freeModulations, rampingOrExcursion), hydroCosts) ← drawHydroCosts settings random.hydroCosts
  some ({ thermalNoises, reservoirLevels, energyCosts, freeModulations, rampingOrExcursion },
    { thermalCosts, hydroManagement, unsuppliedEnergyCosts, spilledEnergyCosts, hydroCosts })

def storeWhen {ι β : Type} (isPerformed : Bool) (store : ι → β → YearRandomNumbers → YearRandomNumbers)
    (drawn : List (ι × β)) (numbers : YearRandomNumbers) : YearRandomNumbers :=
  if isPerformed then storeAll store drawn numbers else numbers

def storeYear (firstSetWasRun : Bool) (year : Nat) (isPerformed : Bool) (draws : YearDraws)
    (numbers : YearRandomNumbers) : YearRandomNumbers :=
  let numbers := storeWhen isPerformed storeThermalNoise draws.thermalNoises numbers
  let numbers := storeAll (storeReservoirLevel settings firstSetWasRun year isPerformed)
    draws.reservoirLevels numbers
  let numbers := storeWhen isPerformed storeEnergyCosts draws.energyCosts numbers
  let numbers := storeWhen isPerformed storeFreeModulations draws.freeModulations numbers
  storeWhen isPerformed storeRampingOrExcursion draws.rampingOrExcursion numbers

theorem computeHydroCosts_eq (isPerformed : Bool) (numbers : YearRandomNumbers)
    (random : RandomStream) :
    computeHydroCosts settings isPerformed numbers random =
      (drawHydroCosts settings random).map fun drawn =>
        (storeWhen isPerformed storeRampingOrExcursion drawn.1.2
          (storeWhen isPerformed storeFreeModulations drawn.1.1 numbers), drawn.2) := by
  unfold computeHydroCosts drawHydroCosts
  cases settings.powerFluctuations with
  | lssUnknown => cases isPerformed <;> rfl
  | _ =>
    simp only [drawLoop_eq, Option.map_map]
    cases isPerformed <;> rfl

theorem computeYear_eq (fuel : Nat) (firstSetWasRun : Bool) (year : Nat) (isPerformed : Bool)
    (numbers : YearRandomNumbers) (random : Generators) :
    computeYear math settings fuel firstSetWasRun year isPerformed numbers random =
      (drawYear math settings fuel random).map fun drawn =>
        (storeYear settings firstSetWasRun year isPerformed drawn.1 numbers, drawn.2) := by
  unfold computeYear drawYear
  simp only [drawLoop_eq, computeHydroCosts_eq, ↓reduceIte]
  cases drawAll (fun _ => drawNext) settings.clusterPlaces random.thermalCosts with
  | none => rfl
  | some thermal =>
    cases drawAll (drawReservoirLevel math settings fuel) settings.areas.zipIdx
        random.hydroManagement with
    | none => rfl
    | some levels =>
      cases drawAll (fun _ => drawEnergyCosts settings) (List.range settings.areas.length)
          (random.unsuppliedEnergyCosts, random.spilledEnergyCosts) with
      | none => rfl
      | some energy =>
        cases drawHydroCosts settings random.hydroCosts <;> rfl

end

/-- Two years of numbers that no reader of the mode in use can tell apart. -/
structure SameNumbers (settings : RandomSettings) (left right : YearRandomNumbers) : Prop where
  thermalNoises : ∀ place ∈ settings.clusterPlaces,
    left.thermalNoisesByArea place = right.thermalNoisesByArea place
  reservoirLevels : settings.hydroHotStart = false → ∀ area < settings.areas.length,
    left.reservoirLevels area = right.reservoirLevels area
  unsuppliedEnergy : ∀ area < settings.areas.length,
    left.unsuppliedEnergy area = right.unsuppliedEnergy area
  spilledEnergy : ∀ area < settings.areas.length,
    left.spilledEnergy area = right.spilledEnergy area
  freeModulations : settings.powerFluctuations = .lssFreeModulations →
    ∀ area < settings.areas.length, ∀ hour < 8784,
      left.hydroCostsByArea_freeMod area hour = right.hydroCostsByArea_freeMod area hour
  rampingOrExcursion : settings.powerFluctuations = .lssMinimizeRamping ∨
      settings.powerFluctuations = .lssMinimizeExcursions →
    ∀ area < settings.areas.length,
      left.hydroCosts_rampingOrExcursion area = right.hydroCosts_rampingOrExcursion area

/-- The draws of a year reach every place a reader of the mode in use looks at. -/
structure YearDraws.Covers (settings : RandomSettings) (draws : YearDraws) : Prop where
  thermalNoises : draws.thermalNoises.map Prod.fst = settings.clusterPlaces
  reservoirLevels : draws.reservoirLevels.map Prod.fst = settings.areas.zipIdx
  energyCosts : draws.energyCosts.map Prod.fst = List.range settings.areas.length
  freeModulations : settings.powerFluctuations = .lssFreeModulations →
    draws.freeModulations.map Prod.fst = List.range settings.areas.length
  hours : ∀ drawn ∈ draws.freeModulations, drawn.2.map Prod.fst = List.range 8784
  rampingOrExcursion : settings.powerFluctuations = .lssMinimizeRamping ∨
      settings.powerFluctuations = .lssMinimizeExcursions →
    draws.rampingOrExcursion.map Prod.fst = List.range settings.areas.length

section
variable {math : MathFunctions} {settings : RandomSettings}

variable {random next : RandomStream}

theorem drawHydroCostsOfArea_hours {drawn : List (Nat × Rat)}
    (same : drawHydroCostsOfArea random = some (drawn, next)) :
    drawn.map Prod.fst = List.range 8784 := by
  unfold drawHydroCostsOfArea at same
  exact drawAll_items same

theorem drawHydroCosts_covers
    {drawn : List (Nat × List (Nat × Rat)) × List (Nat × Rat)}
    (same : drawHydroCosts settings random = some (drawn, next)) :
    (settings.powerFluctuations = .lssFreeModulations →
      drawn.1.map Prod.fst = List.range settings.areas.length) ∧
    (∀ pair ∈ drawn.1, pair.2.map Prod.fst = List.range 8784) ∧
    (settings.powerFluctuations = .lssMinimizeRamping ∨
      settings.powerFluctuations = .lssMinimizeExcursions →
      drawn.2.map Prod.fst = List.range settings.areas.length) := by
  unfold drawHydroCosts at same
  cases mode : settings.powerFluctuations with
  | lssFreeModulations =>
    simp only [mode, Option.map_eq_some_iff, Prod.mk.injEq] at same
    obtain ⟨result, areas, rfl, -⟩ := same
    refine ⟨fun _ => drawAll_items areas, ?_, by simp⟩
    exact drawAll_forall (fun _ _ _ _ hours => drawHydroCostsOfArea_hours hours) areas
  | lssUnknown =>
    simp only [mode, Option.some.injEq, Prod.mk.injEq] at same
    obtain ⟨rfl, -⟩ := same
    simp
  | _ =>
    simp only [mode, Option.map_eq_some_iff, Prod.mk.injEq] at same
    obtain ⟨result, areas, rfl, -⟩ := same
    refine ⟨by simp, by simp, fun _ => drawAll_items areas⟩

theorem drawYear_covers {fuel : Nat} {random next : Generators} {draws : YearDraws}
    (same : drawYear math settings fuel random = some (draws, next)) : draws.Covers settings := by
  unfold drawYear at same
  simp only [Option.bind_eq_bind, Option.bind_eq_some_iff, Option.some.injEq, Prod.mk.injEq] at same
  obtain ⟨thermal, drawnThermal, levels, drawnLevels, energy, drawnEnergy, hydro, drawnHydro, rfl, -⟩ :=
    same
  obtain ⟨free, hours, ramping⟩ := drawHydroCosts_covers drawnHydro
  exact ⟨drawAll_items drawnThermal, drawAll_items drawnLevels, drawAll_items drawnEnergy, free,
    hours, ramping⟩

theorem spreadHydroCostNoises_congr {draws : List (Nat × Rat)} (left right : Nat → Rat) {hour : Nat}
    (drawn : hour ∈ draws.map Prod.fst) :
    spreadHydroCostNoises draws left hour = spreadHydroCostNoises draws right hour := by
  have centered := storeAll_congr (fun memory : Nat → Rat => memory) Eq (fun hour : Nat => hour)
    (fun _ (value : Rat) _ => value) (fun _ _ _ => rfl)
    ((draws.map fun draw => HydroCostNoise.mk (draw.2 - 1 / 2) draw.1).map
      fun noise => (noise.index, noise.value)) (fun _ _ _ _ => rfl) left right (.inl (by simpa using drawn))
  exact storeAll_congr (fun memory : Nat → Rat => memory) Eq HydroCostNoise.index
    (fun (noise : HydroCostNoise) (rank : Nat) _ =>
      if noise.value < 0 then -5 * (1 / 10 ^ 4) * (1 + (rank : Rat) / 8784)
      else 5 * (1 / 10 ^ 4) * (1 + (rank : Rat) / 8784))
    (fun _ _ _ => rfl) _ (fun _ _ _ _ => rfl) _ _ (.inr centered)

theorem storeReservoirLevel_frame (firstSetWasRun : Bool) (year : Nat) (isPerformed : Bool)
    (area : RandomArea × Nat) (drawn : Rat) (numbers : YearRandomNumbers) :
    ∃ levels, storeReservoirLevel settings firstSetWasRun year isPerformed area drawn numbers =
      { numbers with reservoirLevels := levels } := by
  unfold storeReservoirLevel
  split_ifs <;> exact ⟨_, rfl⟩

theorem storeReservoirLevel_cold (cold : settings.hydroHotStart = false) (firstSetWasRun : Bool)
    (year : Nat) (area : RandomArea × Nat) (drawn : Rat) (numbers : YearRandomNumbers) :
    (storeReservoirLevel settings firstSetWasRun year true area drawn numbers).reservoirLevels =
      Function.update numbers.reservoirLevels area.2
        (if settings.useCustomScenario && decide (0 ≤ settings.scenarioHydroLevels area.2 year)
          then settings.scenarioHydroLevels area.2 year else drawn) := by
  simp [storeReservoirLevel, cold]

theorem storeReservoirLevel_flag (cold : settings.hydroHotStart = false) (left right : Bool)
    (year : Nat) : storeReservoirLevel settings left year true =
      storeReservoirLevel settings right year true := by
  funext area drawn numbers
  simp [storeReservoirLevel, cold]

end

section
variable (settings : RandomSettings) (firstSetWasRun : Bool) (year : Nat) (draws : YearDraws)
variable (numbers : YearRandomNumbers)

theorem storeReservoirLevels_unchanged {γ : Type} (part : YearRandomNumbers → γ)
    (kept : ∀ numbers levels, part { numbers with reservoirLevels := levels } = part numbers) :
    part (storeAll (storeReservoirLevel settings firstSetWasRun year true) draws.reservoirLevels
      numbers) = part numbers := by
  apply storeAll_unchanged part
  intro area level memory
  obtain ⟨levels, same⟩ := storeReservoirLevel_frame firstSetWasRun year true area level memory
  rw [same, kept]

/-! Each part of the numbers has one loop of its own; the other loops leave it alone. -/

theorem storeYear_thermalNoises : ∃ before,
    (storeYear settings firstSetWasRun year true draws numbers).thermalNoisesByArea =
      (storeAll storeThermalNoise draws.thermalNoises before).thermalNoisesByArea := by
  simp only [storeYear, storeWhen, ↓reduceIte]
  iterate 3 rw [storeAll_unchanged YearRandomNumbers.thermalNoisesByArea]
  rw [storeReservoirLevels_unchanged _ _ _ _ _ YearRandomNumbers.thermalNoisesByArea]
  · exact ⟨_, rfl⟩
  all_goals intros; rfl

theorem storeYear_reservoirLevels : ∃ before,
    (storeYear settings firstSetWasRun year true draws numbers).reservoirLevels =
      (storeAll (storeReservoirLevel settings firstSetWasRun year true) draws.reservoirLevels
        before).reservoirLevels := by
  simp only [storeYear, storeWhen, ↓reduceIte]
  iterate 3 rw [storeAll_unchanged YearRandomNumbers.reservoirLevels]
  · exact ⟨_, rfl⟩
  all_goals exact fun _ _ _ => rfl

theorem storeYear_unsuppliedEnergy : ∃ before,
    (storeYear settings firstSetWasRun year true draws numbers).unsuppliedEnergy =
      (storeAll storeEnergyCosts draws.energyCosts before).unsuppliedEnergy := by
  simp only [storeYear, storeWhen, ↓reduceIte]
  iterate 2 rw [storeAll_unchanged YearRandomNumbers.unsuppliedEnergy]
  · exact ⟨_, rfl⟩
  all_goals exact fun _ _ _ => rfl

theorem storeYear_spilledEnergy : ∃ before,
    (storeYear settings firstSetWasRun year true draws numbers).spilledEnergy =
      (storeAll storeEnergyCosts draws.energyCosts before).spilledEnergy := by
  simp only [storeYear, storeWhen, ↓reduceIte]
  iterate 2 rw [storeAll_unchanged YearRandomNumbers.spilledEnergy]
  · exact ⟨_, rfl⟩
  all_goals exact fun _ _ _ => rfl

theorem storeYear_freeModulations : ∃ before,
    (storeYear settings firstSetWasRun year true draws numbers).hydroCostsByArea_freeMod =
      (storeAll storeFreeModulations draws.freeModulations before).hydroCostsByArea_freeMod := by
  simp only [storeYear, storeWhen, ↓reduceIte]
  rw [storeAll_unchanged YearRandomNumbers.hydroCostsByArea_freeMod]
  · exact ⟨_, rfl⟩
  · exact fun _ _ _ => rfl

theorem storeYear_rampingOrExcursion : ∃ before,
    (storeYear settings firstSetWasRun year true draws numbers).hydroCosts_rampingOrExcursion =
      (storeAll storeRampingOrExcursion draws.rampingOrExcursion
        before).hydroCosts_rampingOrExcursion :=
  ⟨_, rfl⟩

end

theorem storeYear_same {settings : RandomSettings} {draws : YearDraws} (covers : draws.Covers settings)
    (year : Nat) (firstLeft firstRight : Bool) (left right : YearRandomNumbers) :
    SameNumbers settings (storeYear settings firstLeft year true draws left)
      (storeYear settings firstRight year true draws right) := by
  have inRange {β : Type} {drawn : List (Nat × β)} {area : Nat}
      (items : drawn.map Prod.fst = List.range settings.areas.length)
      (inside : area < settings.areas.length) : area ∈ drawn.map fun pair => pair.1 := by
    rw [items]
    exact List.mem_range.mpr inside
  -- each table is overwritten at every place it is read from, so what stood there is lost
  refine ⟨?_, ?_, ?_, ?_, ?_, ?_⟩
  · intro place member
    obtain ⟨_, leftSame⟩ := storeYear_thermalNoises settings firstLeft year draws left
    obtain ⟨_, rightSame⟩ := storeYear_thermalNoises settings firstRight year draws right
    rw [leftSame, rightSame]
    refine storeAll_congr YearRandomNumbers.thermalNoisesByArea Eq (fun place => place)
      (fun _ noise _ => noise) (fun _ _ _ => rfl) _ (fun _ _ _ _ => rfl) _ _ (.inl ?_)
    rw [covers.thermalNoises]
    exact member
  · intro cold area inside
    obtain ⟨_, leftSame⟩ := storeYear_reservoirLevels settings firstLeft year draws left
    obtain ⟨_, rightSame⟩ := storeYear_reservoirLevels settings firstRight year draws right
    rw [leftSame, rightSame, storeReservoirLevel_flag cold firstRight firstLeft]
    refine storeAll_congr YearRandomNumbers.reservoirLevels Eq Prod.snd
      (fun area drawn _ =>
        if settings.useCustomScenario && decide (0 ≤ settings.scenarioHydroLevels area.2 year)
        then settings.scenarioHydroLevels area.2 year else drawn)
      (fun area drawn numbers => storeReservoirLevel_cold cold firstLeft year area drawn numbers) _
      (fun _ _ _ _ => rfl) _ _ (.inl ?_)
    have places : draws.reservoirLevels.map (fun pair => pair.1.2) =
        List.range settings.areas.length := by
      have areas : (draws.reservoirLevels.map Prod.fst).map Prod.snd =
          List.range settings.areas.length := by
        rw [covers.reservoirLevels, List.zipIdx_map_snd, List.range_eq_range']
      rwa [List.map_map] at areas
    rw [places]
    exact List.mem_range.mpr inside
  · intro area inside
    obtain ⟨_, leftSame⟩ := storeYear_unsuppliedEnergy settings firstLeft year draws left
    obtain ⟨_, rightSame⟩ := storeYear_unsuppliedEnergy settings firstRight year draws right
    rw [leftSame, rightSame]
    exact storeAll_congr YearRandomNumbers.unsuppliedEnergy Eq (fun area => area)
      (fun _ noises _ => noises.1) (fun _ _ _ => rfl) _ (fun _ _ _ _ => rfl) _ _
      (.inl (inRange covers.energyCosts inside))
  · intro area inside
    obtain ⟨_, leftSame⟩ := storeYear_spilledEnergy settings firstLeft year draws left
    obtain ⟨_, rightSame⟩ := storeYear_spilledEnergy settings firstRight year draws right
    rw [leftSame, rightSame]
    exact storeAll_congr YearRandomNumbers.spilledEnergy Eq (fun area => area)
      (fun _ noises _ => noises.2) (fun _ _ _ => rfl) _ (fun _ _ _ _ => rfl) _ _
      (.inl (inRange covers.energyCosts inside))
  · intro mode area inside hour below
    obtain ⟨_, leftSame⟩ := storeYear_freeModulations settings firstLeft year draws left
    obtain ⟨_, rightSame⟩ := storeYear_freeModulations settings firstRight year draws right
    rw [leftSame, rightSame]
    refine storeAll_congr YearRandomNumbers.hydroCostsByArea_freeMod
      (fun left right => left hour = right hour) (fun area => area)
      (fun _ draws noise => spreadHydroCostNoises draws noise) (fun _ _ _ => rfl) _ ?_ _ _
      (.inl (inRange (covers.freeModulations mode) inside))
    intro pair member old new
    apply spreadHydroCostNoises_congr
    rw [covers.hours pair member]
    exact List.mem_range.mpr below
  · intro mode area inside
    obtain ⟨_, leftSame⟩ := storeYear_rampingOrExcursion settings firstLeft year draws left
    obtain ⟨_, rightSame⟩ := storeYear_rampingOrExcursion settings firstRight year draws right
    rw [leftSame, rightSame]
    exact storeAll_congr YearRandomNumbers.hydroCosts_rampingOrExcursion Eq (fun area => area)
      (fun _ noise _ => noise) (fun _ _ _ => rfl) _ (fun _ _ _ _ => rfl) _ _
      (.inl (inRange (covers.rampingOrExcursion mode) inside))

section
variable {math : MathFunctions} {settings : RandomSettings}

theorem gammaVariable_mono {r : Rat} {fuel more : Nat} (larger : fuel ≤ more)
    {random : RandomStream} {result : Rat × RandomStream}
    (same : gammaVariable math r fuel random = some result) :
    gammaVariable math r more random = some result := by
  induction fuel generalizing more random with
  | zero => cases same
  | succ fuel ih =>
    cases more with
    | zero => cases larger
    | succ more =>
      rw [gammaVariable] at same ⊢
      dsimp only at same ⊢
      split_ifs at same ⊢
      · exact same
      · exact same
      · exact ih (Nat.le_of_succ_le_succ larger) same

theorem betaVariable_mono {a b : Rat} {fuel more : Nat} (larger : fuel ≤ more)
    {random : RandomStream} {result : Rat × RandomStream}
    (same : betaVariable math a b fuel random = some result) :
    betaVariable math a b more random = some result := by
  simp only [betaVariable, Option.bind_eq_bind, Option.bind_eq_some_iff] at same ⊢
  obtain ⟨y, first, z, second, ratio⟩ := same
  exact ⟨y, gammaVariable_mono larger first, z, gammaVariable_mono larger second, ratio⟩

theorem randomReservoirLevel_mono {min avg max : Rat} {fuel more : Nat} (larger : fuel ≤ more)
    {random : RandomStream} {result : Rat × RandomStream}
    (same : randomReservoirLevel math fuel min avg max random = some result) :
    randomReservoirLevel math more min avg max random = some result := by
  unfold randomReservoirLevel at same ⊢
  by_cases flat : mathEquals min max = true
  · rwa [if_pos flat] at same ⊢
  · rw [if_neg flat] at same ⊢
    by_cases extreme : (mathEquals avg min || mathEquals avg max) = true
    · rwa [if_pos extreme] at same ⊢
    · rw [if_neg extreme] at same ⊢
      simp only [Option.bind_eq_bind, Option.bind_eq_some_iff] at same ⊢
      obtain ⟨x, drawn, level⟩ := same
      exact ⟨x, betaVariable_mono larger drawn, level⟩

theorem drawReservoirLevel_mono {fuel more : Nat} (larger : fuel ≤ more) (area : RandomArea × Nat)
    (random : RandomStream) (result : Rat × RandomStream)
    (same : drawReservoirLevel math settings fuel area random = some result) :
    drawReservoirLevel math settings more area random = some result :=
  randomReservoirLevel_mono larger same

theorem drawYear_mono {fuel more : Nat} (larger : fuel ≤ more) {random : Generators}
    {result : YearDraws × Generators} (same : drawYear math settings fuel random = some result) :
    drawYear math settings more random = some result := by
  unfold drawYear at same ⊢
  simp only [Option.bind_eq_bind, Option.bind_eq_some_iff] at same ⊢
  obtain ⟨thermal, drawnThermal, levels, drawnLevels, rest⟩ := same
  exact ⟨thermal, drawnThermal, levels, drawAll_mono (drawReservoirLevel_mono larger) drawnLevels, rest⟩

end

section
variable (math : MathFunctions) (settings : RandomSettings) (fuel : Nat)

def generatorsAfter : Nat → Generators → Option Generators
  | 0, random => some random
  | years + 1, random =>
    (drawYear math settings fuel random).bind fun drawn => generatorsAfter years drawn.2

def drawsAfter : Nat → Generators → Option YearDraws
  | 0, random => (drawYear math settings fuel random).map Prod.fst
  | years + 1, random =>
    (drawYear math settings fuel random).bind fun drawn => drawsAfter years drawn.2

theorem generatorsAfter_add (first second : Nat) (random : Generators) :
    generatorsAfter math settings fuel (first + second) random =
      (generatorsAfter math settings fuel first random).bind
        (generatorsAfter math settings fuel second) := by
  induction first generalizing random with
  | zero => rw [Nat.zero_add, generatorsAfter, Option.bind_some]
  | succ first ih =>
    rw [Nat.succ_add, generatorsAfter, generatorsAfter, Option.bind_assoc]
    simp only [ih]

theorem drawsAfter_add (first second : Nat) (random : Generators) :
    drawsAfter math settings fuel (first + second) random =
      (generatorsAfter math settings fuel first random).bind
        (drawsAfter math settings fuel second) := by
  induction first generalizing random with
  | zero => rw [Nat.zero_add, generatorsAfter, Option.bind_some]
  | succ first ih =>
    rw [Nat.succ_add, drawsAfter, generatorsAfter, Option.bind_assoc]
    simp only [ih]

theorem drawsAfter_mono {more : Nat} (larger : fuel ≤ more) {years : Nat} {random : Generators}
    {draws : YearDraws} (same : drawsAfter math settings fuel years random = some draws) :
    drawsAfter math settings more years random = some draws := by
  induction years generalizing random with
  | zero =>
    obtain ⟨drawn, first, rfl⟩ := Option.map_eq_some_iff.mp same
    exact Option.map_eq_some_iff.mpr ⟨drawn, drawYear_mono larger first, rfl⟩
  | succ years ih =>
    obtain ⟨drawn, first, rest⟩ := Option.bind_eq_some_iff.mp same
    exact Option.bind_eq_some_iff.mpr ⟨drawn, drawYear_mono larger first, ih rest⟩

theorem drawsAfter_covers {years : Nat} {random : Generators} {draws : YearDraws}
    (same : drawsAfter math settings fuel years random = some draws) : draws.Covers settings := by
  induction years generalizing random with
  | zero =>
    obtain ⟨drawn, first, rfl⟩ := Option.map_eq_some_iff.mp same
    exact drawYear_covers first
  | succ years ih =>
    obtain ⟨drawn, -, rest⟩ := Option.bind_eq_some_iff.mp same
    exact ih rest

/-- The numbers were stored for this year from the draws that come after some years. -/
def StoredAfter (years : Nat) (random : Generators) (year : Nat) (numbers : YearRandomNumbers) : Prop :=
  ∃ draws firstSetWasRun before, drawsAfter math settings fuel years random = some draws ∧
    numbers = storeYear settings firstSetWasRun year true draws before

variable {firstSetWasRun : Bool} {isYearPerformed : Nat → Bool}

theorem computeStep_spec
    {state next : ComputeState} {year : Nat}
    (stepped : computeStep math settings fuel firstSetWasRun isYearPerformed state year = some next) :
    ∃ draws, drawYear math settings fuel state.random = some (draws, next.random) ∧
      (∀ index < state.indexYear, next.table.years index = state.table.years index) ∧
      (∀ other, other ≠ year →
        next.table.yearNumberToIndex other = state.table.yearNumberToIndex other) ∧
      state.indexYear ≤ next.indexYear ∧
      (isYearPerformed year = true → ∃ index < next.indexYear,
        next.table.yearNumberToIndex year = some index ∧ ∃ before,
          next.table.years index = storeYear settings firstSetWasRun year true draws before) := by
  simp only [computeStep, computeYear_eq, Option.bind_eq_bind, Option.bind_eq_some_iff,
    Option.map_eq_some_iff, Option.some.injEq] at stepped
  obtain ⟨_, ⟨⟨draws, random⟩, drawn, rfl⟩, rfl⟩ := stepped
  refine ⟨draws, drawn, ?_, ?_, ?_, ?_⟩
  · intro index below
    exact Function.update_of_ne below.ne _ _
  · intro other different
    cases isYearPerformed year with
    | true => exact Function.update_of_ne different _ _
    | false => rfl
  · cases isYearPerformed year <;> simp
  · intro performed
    simp only [performed, ↓reduceIte]
    exact ⟨state.indexYear, Nat.lt_succ_self _, Function.update_self .., _, Function.update_self ..⟩

theorem computeYears_spec (count first : Nat)
    {state final : ComputeState}
    (run : (List.range' first count).foldlM
      (computeStep math settings fuel firstSetWasRun isYearPerformed) state = some final) :
    generatorsAfter math settings fuel count state.random = some final.random ∧
      (∀ index < state.indexYear, final.table.years index = state.table.years index) ∧
      (∀ other < first, final.table.yearNumberToIndex other = state.table.yearNumberToIndex other) ∧
      state.indexYear ≤ final.indexYear ∧
      ∀ offset < count, isYearPerformed (first + offset) = true → ∃ index numbers,
        final.table.yearNumberToIndex (first + offset) = some index ∧
        final.table.years index = numbers ∧
        StoredAfter math settings fuel offset state.random (first + offset) numbers := by
  induction count generalizing first state with
  | zero =>
    cases run
    exact ⟨rfl, fun _ _ => rfl, fun _ _ => rfl, le_refl _, fun _ none => absurd none (Nat.not_lt_zero _)⟩
  | succ count ih =>
    rw [List.range'_succ, List.foldlM_cons, Option.bind_eq_bind, Option.bind_eq_some_iff] at run
    obtain ⟨next, stepped, rest⟩ := run
    obtain ⟨draws, drawn, rows, indices, grows, written⟩ := computeStep_spec math settings fuel stepped
    obtain ⟨moved, laterRows, laterIndices, laterGrows, laterWritten⟩ := ih (first + 1) rest
    refine ⟨?_, ?_, ?_, grows.trans laterGrows, ?_⟩
    · rw [generatorsAfter, drawn, Option.bind_some, moved]
    · intro index below
      rw [laterRows index (below.trans_le grows), rows index below]
    · intro other below
      rw [laterIndices other (Nat.lt_succ_of_lt below), indices other below.ne]
    · intro offset below performed
      cases offset with
      | zero =>
        -- the first year: no later year writes at its index
        obtain ⟨index, inside, known, before, row⟩ := written performed
        refine ⟨index, _, (laterIndices first (Nat.lt_succ_self _)).trans known, laterRows index inside,
          draws, firstSetWasRun, before, ?_, row⟩
        rw [drawsAfter, drawn, Option.map_some]
      | succ offset =>
        have shifted : first + (offset + 1) = first + 1 + offset := by omega
        rw [shifted] at performed ⊢
        obtain ⟨index, numbers, known, row, drawsRest, flag, before, drawnRest, same⟩ :=
          laterWritten offset (Nat.lt_of_succ_lt_succ below) performed
        refine ⟨index, numbers, known, row, drawsRest, flag, before, ?_, same⟩
        rw [drawsAfter, drawn, Option.bind_some, drawnRest]

theorem computeYears_random (years : List Nat)
    (state : ComputeState) :
    (years.foldlM (computeStep math settings fuel firstSetWasRun isYearPerformed) state).map (·.random) =
      generatorsAfter math settings fuel years.length state.random := by
  induction years generalizing state with
  | nil => rfl
  | cons year years ih =>
    rw [List.foldlM_cons, List.length_cons, generatorsAfter, Option.bind_eq_bind]
    simp only [computeStep, computeYear_eq]
    cases drawYear math settings fuel state.random with
    | none => rfl
    | some drawn => exact ih _

theorem StoredAfter.after {first offset : Nat} {random middle : Generators} {year : Nat}
    {numbers : YearRandomNumbers}
    (moved : generatorsAfter math settings fuel first random = some middle)
    (stored : StoredAfter math settings fuel offset middle year numbers) :
    StoredAfter math settings fuel (first + offset) random year numbers := by
  obtain ⟨draws, flag, before, drawn, same⟩ := stored
  refine ⟨draws, flag, before, ?_, same⟩
  rw [drawsAfter_add, moved, Option.bind_some, drawn]

variable {yearJobs : SetOfParallelYears → RandomNumbers → RandomNumbers}

theorem loopStep_spec
    {state next : LoopState} {set : SetOfParallelYears} {first count : Nat}
    (years : set.yearsIndices = List.range' first count)
    (stepped : loopStep math settings fuel yearJobs state set = some next) :
    generatorsAfter math settings fuel count state.random = some next.random ∧
      (∀ year, year < first ∨ first + count ≤ year → next.stored year = state.stored year) ∧
      ∀ offset < count, set.performs (first + offset) = true → ∃ numbers,
        next.stored (first + offset) = some numbers ∧
        StoredAfter math settings fuel offset state.random (first + offset) numbers := by
  simp only [loopStep, computeRandomNumbers, years, Option.bind_eq_bind, Option.bind_eq_some_iff,
    Option.some.injEq] at stepped
  obtain ⟨computed, run, rfl⟩ := stepped
  obtain ⟨moved, -, -, -, written⟩ := computeYears_spec math settings fuel count first run
  refine ⟨moved, ?_, ?_⟩
  · intro year outside
    simp only [RandomNumbers.record, years, List.mem_range'_1]
    exact if_neg (by omega)
  · intro offset below performed
    obtain ⟨index, numbers, known, row, stored⟩ := written offset below performed
    refine ⟨numbers, ?_, stored⟩
    simp only [RandomNumbers.record, years, List.mem_range'_1]
    rw [if_pos ⟨by omega, performed⟩, known, Option.map_some, row]

theorem loopSets_spec
    {sets : List SetOfParallelYears} {first count : Nat} {state final : LoopState}
    {yearsFilter : Nat → Bool}
    (years : (sets.map (·.yearsIndices)).flatten = List.range' first count)
    (performed : ∀ set ∈ sets, ∀ year ∈ set.yearsIndices, set.performs year = yearsFilter year)
    (run : sets.foldlM (loopStep math settings fuel yearJobs) state = some final) :
    (∀ year < first, final.stored year = state.stored year) ∧
      ∀ offset < count, yearsFilter (first + offset) = true → ∃ numbers,
        final.stored (first + offset) = some numbers ∧
        StoredAfter math settings fuel offset state.random (first + offset) numbers := by
  induction sets generalizing first count state with
  | nil =>
    cases run
    have none : count = 0 := by simpa using years
    refine ⟨fun _ _ => rfl, ?_⟩
    intro offset below
    omega
  | cons set sets ih =>
    rw [List.foldlM_cons, Option.bind_eq_bind, Option.bind_eq_some_iff] at run
    obtain ⟨next, stepped, rest⟩ := run
    rw [List.map_cons, List.flatten_cons] at years
    obtain ⟨length, fits, setYears, laterYears⟩ := List.range'_eq_append_iff.mp years.symm
    obtain ⟨moved, kept, written⟩ := loopStep_spec math settings fuel setYears stepped
    obtain ⟨laterKept, laterWritten⟩ := ih (by simpa using laterYears)
      (fun other member => performed other (List.mem_cons_of_mem _ member)) rest
    refine ⟨?_, ?_⟩
    · intro year below
      rw [laterKept year (by omega), kept year (.inl below)]
    · intro offset below isPerformed
      by_cases here : offset < length
      · have listed : first + offset ∈ set.yearsIndices := by
          rw [setYears, List.mem_range'_1]
          omega
        have performs := (performed set (by simp) _ listed).trans isPerformed
        obtain ⟨numbers, stored, fromDraws⟩ := written offset here performs
        exact ⟨numbers, (laterKept _ (by omega)).trans stored, fromDraws⟩
      · obtain ⟨later, rfl⟩ := Nat.exists_eq_add_of_le (Nat.not_lt.mp here)
        rw [← Nat.add_assoc] at isPerformed ⊢
        obtain ⟨numbers, stored, fromDraws⟩ := laterWritten later (by omega) isPerformed
        exact ⟨numbers, stored, fromDraws.after math settings fuel moved⟩

theorem loopSets_random (yearJobs : SetOfParallelYears → RandomNumbers → RandomNumbers)
    (sets : List SetOfParallelYears) (state : LoopState) :
    (sets.foldlM (loopStep math settings fuel yearJobs) state).map (·.random) =
      generatorsAfter math settings fuel (sets.map (·.yearsIndices)).flatten.length state.random := by
  induction sets generalizing state with
  | nil => rfl
  | cons set sets ih =>
    rw [List.foldlM_cons, List.map_cons, List.flatten_cons, List.length_append, generatorsAfter_add,
      ← computeYears_random math settings fuel set.yearsIndices ⟨state.table, 0, state.random⟩,
      Option.bind_eq_bind, loopStep, computeRandomNumbers]
    cases set.yearsIndices.foldlM
        (computeStep math settings fuel state.firstSetWasRun set.performs)
        ⟨state.table, 0, state.random⟩ with
    | none => rfl
    | some result => exact ih _

end

/-- Two runs of one study that may differ in playlist, parallelism, memory and year jobs. -/
structure IndistinguishableRuns (math : MathFunctions) (settings : RandomSettings)
    (random : Generators) (study : Study) (left right : RunChoice) : Prop where
  completes : left.fuel = right.fuel →
    (loopThroughYears math settings random study left).isSome =
      (loopThroughYears math settings random study right).isSome
  stored : ∀ leftRun ∈ loopThroughYears math settings random study left,
    ∀ rightRun ∈ loopThroughYears math settings random study right,
    ∀ year < study.parameters.nbYears,
      left.yearsFilter year = true → right.yearsFilter year = true →
      ∃ leftNumbers rightNumbers,
        leftRun.stored year = some leftNumbers ∧ rightRun.stored year = some rightNumbers ∧
        SameNumbers settings leftNumbers rightNumbers

section
variable (math : MathFunctions) (settings : RandomSettings) (random : Generators) (study : Study)

theorem loopThroughYears_stored (choice : RunChoice) {run : LoopState}
    (same : loopThroughYears math settings random study choice = some run) {year : Nat}
    (inside : year < study.parameters.nbYears) (performed : choice.yearsFilter year = true) :
    ∃ numbers, run.stored year = some numbers ∧
      StoredAfter math settings choice.fuel year random year numbers := by
  have ordered := buildSetsOfParallelYears_ordered (Study.play study choice) choice.maxPerformed
    study.parameters.nbYears
  have performs : ∀ set ∈ (buildSetsOfParallelYears (Study.play study choice) choice.maxPerformed 0
      study.parameters.nbYears).sets, ∀ year ∈ set.yearsIndices,
      set.performs year = choice.yearsFilter year := by
    intro set member other listed
    rw [SetOfParallelYears.performs, ordered.performed set member other listed]
    rfl
  have written := (loopSets_spec math settings choice.fuel
    (ordered.years.trans List.range_eq_range') performs same).2 year inside
  rw [Nat.zero_add] at written
  exact written performed

theorem loopThroughYears_isSome (choice : RunChoice) :
    (loopThroughYears math settings random study choice).isSome =
      (generatorsAfter math settings choice.fuel study.parameters.nbYears random).isSome := by
  have ordered := buildSetsOfParallelYears_ordered (Study.play study choice) choice.maxPerformed
    study.parameters.nbYears
  have moved := loopSets_random math settings choice.fuel choice.yearJobs
    (buildSetsOfParallelYears (Study.play study choice) choice.maxPerformed 0
      study.parameters.nbYears).sets ⟨choice.initialTable, random, false, fun _ => none⟩
  rw [ordered.years, List.length_range] at moved
  rw [← moved, Option.isSome_map]
  rfl

theorem randomNumbers_indistinguishable (left right : RunChoice) :
    IndistinguishableRuns math settings random study left right := by
  refine ⟨?_, ?_⟩
  · intro sameFuel
    rw [loopThroughYears_isSome, loopThroughYears_isSome, sameFuel]
  · intro leftRun leftSame rightRun rightSame year inside leftPerformed rightPerformed
    obtain ⟨leftNumbers, leftStored, leftDraws, leftFlag, leftBefore, leftDrawn, rfl⟩ :=
      loopThroughYears_stored math settings random study left leftSame inside leftPerformed
    obtain ⟨rightNumbers, rightStored, rightDraws, rightFlag, rightBefore, rightDrawn, rfl⟩ :=
      loopThroughYears_stored math settings random study right rightSame inside rightPerformed
    -- with the larger of the two fuels both runs draw the same for this year
    have leftMore := drawsAfter_mono math settings _ (le_max_left left.fuel right.fuel) leftDrawn
    have rightMore := drawsAfter_mono math settings _ (le_max_right left.fuel right.fuel) rightDrawn
    obtain rfl : leftDraws = rightDraws := Option.some.inj (leftMore.symm.trans rightMore)
    have covers := drawsAfter_covers math settings left.fuel leftDrawn
    exact ⟨_, _, leftStored, rightStored, storeYear_same covers year leftFlag rightFlag _ _⟩

end

end Antares.Solver
