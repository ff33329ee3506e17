import Antares.AdequacyPatch.BareWeeks

/-! Every kind of settings where the cap makes the second step infeasible in some week: a reserve
that the first optimisation has to supply and the second one does not, or power that the accurate
heuristic makes available between the two.
-/

set_option autoImplicit false

namespace Antares.AdequacyPatch

open Optimisation Library

namespace BareWeek

variable {settings : WeekSettings} (bare : BareWeek settings)

section Cap

def Supply.solutions (first second : Supply) : Solutions where
  premiere := fun _ => first.point
  deuxieme := fun _ => second.point
  auxiliaire := fun _ => some fun _ => 1

variable {bare}

theorem nbIntervallesOptimises_eq : bare.week.problem.range.nbIntervallesOptimises = 1 := by
  change SimplexOptimization.sorWeek.nbIntervallesOptimises = 1
  decide

variable (first second : Supply)

/-- Two supplies of the first step, the second one without unsupplied energy, and unsupplied
energy that the first optimisation of the second step cannot avoid. -/
theorem not_capFeasible (twice : settings.deuxOptimisations = true)
    (firstFits : first.Fits bare (bare.week.passage (first.solutions second) true .premiereOptimisation))
    (secondFits : second.Fits bare (bare.week.passage (first.solutions second) true .deuxiemeOptimisation))
    (supplied : ∀ pays pdt, second.unsupplied pays pdt = 0)
    {pays pdt : Nat} (bound : pays < settings.nombreDePays) (inside : settings.inside pays = true)
    (inRange : pdt < nbHoursInWeek)
    (needed : ∀ point : Variable → Rat,
      (bare.week.problemeDeLIntervalle (bare.week.passage (first.solutions second) false .premiereOptimisation)
        0).Feasible point → 0 < point (.positiveUnsuppliedEnergy pdt pays)) :
    ¬bare.week.CapFeasible := by
  intro capFeasible
  have continuous : settings.ucMode.optimisationAvecVariablesEntieres = false := by
    cases whole : settings.ucMode.optimisationAvecVariablesEntieres with
    | false => rfl
    | true => simp [WeekSettings.deuxOptimisations, whole] at twice
  have solved : bare.week.FirstStepSolved (first.solutions second) := by
    constructor
    · intro intervalle bound
      obtain rfl : intervalle = 0 := Nat.lt_one_iff.mp (nbIntervallesOptimises_eq ▸ bound)
      exact firstFits.feasible continuous
    · intro _ intervalle bound
      obtain rfl : intervalle = 0 := Nat.lt_one_iff.mp (nbIntervallesOptimises_eq ▸ bound)
      exact secondFits.feasible continuous
  obtain ⟨point, feasible⟩ := (capFeasible _ solved).premiere 0 (nbIntervallesOptimises_eq ▸ Nat.one_pos)
  have cap := (unsupplied_of_feasible inRange bound feasible).2.2 rfl inside
  have dens : bare.week.dens (first.solutions second) pays pdt = 0 := by
    unfold Week.dens Week.valeurHoraire WeekSettings.solutionFinale
    rw [if_pos inside, if_pos twice]
    exact supplied _ _
  have required := needed point feasible
  rw [show (bare.week.passage (first.solutions second) false .premiereOptimisation).valeursHorairesDENS pays pdt = 0
    from dens] at cap
  exact absurd required (not_lt.mpr cap)

theorem xmax_eq (optimizationNumber : OptimizationNumber) (pays pdt : Nat) :
    bare.week.xmaxDeLaDefaillance optimizationNumber pays pdt =
      if 0 ≤ bare.charge pays pdt + settings.reserveComptee optimizationNumber pays pdt then
        bare.charge pays pdt + settings.reserveComptee optimizationNumber pays pdt + 1 / 100000
      else 0 := by
  simp [Week.xmaxDeLaDefaillance, week]

theorem unsupplied_contains {passage : Passage} (firstStep : passage.adequacyFirstStep = true) {pays pdt : Nat}
    {value : Rat} (nonneg : 0 ≤ value)
    (below : value = 0 ∨ value ≤ bare.charge pays pdt + settings.reserveComptee passage.optimizationNumber pays pdt) :
    (bare.week.bornesDeLaDefaillancePositive passage pays pdt).Contains value := by
  apply (bare.week.bornesDeLaDefaillancePositive_contains passage).mpr
  refine ⟨nonneg, ?_, ?_⟩
  · rw [xmax_eq]
    split_ifs with load
    · rcases below with rfl | below <;> linarith
    · rcases below with rfl | below
      · exact le_rfl
      · linarith
  · intro secondStep
    rw [firstStep] at secondStep
    cases secondStep

end Cap

section Settings
variable (settings)

theorem reserveComptee_nonneg (optimizationNumber : OptimizationNumber) (pays pdt : Nat) :
    0 ≤ settings.reserveComptee optimizationNumber pays pdt := by
  unfold WeekSettings.reserveComptee
  split_ifs
  · exact settings.reserve_nonneg pays pdt
  · exact le_rfl

theorem reserveComptee_deuxieme (pays pdt : Nat) :
    settings.reserveComptee .deuxiemeOptimisation pays pdt = 0 := by
  simp [WeekSettings.reserveComptee]

end Settings

section NoUnit

def Supply.nothing : Supply where
  flow := fun _ _ => 0
  production := 0
  units := 0
  unsupplied := fun _ _ => 0

variable {bare} {supply : Supply} {passage : Passage}

theorem Supply.Fits.ofNoUnit (noUnit : bare.hasUnit = fun _ => false) (firstStep : passage.adequacyFirstStep = true)
    (idle : supply.production = 0) (stopped : supply.units = 0)
    (flow : ∀ interco pdt, (bare.week.bornesDeLInterconnexion passage interco pdt).Contains (supply.flow interco pdt))
    (unsupplied : ∀ pays pdt, 0 ≤ supply.unsupplied pays pdt)
    (below : ∀ pays pdt, supply.unsupplied pays pdt = 0 ∨
      supply.unsupplied pays pdt ≤
        bare.charge pays pdt + settings.reserveComptee passage.optimizationNumber pays pdt)
    (balance : ∀ pays pdt, bare.export_ (fun interco => supply.flow interco pdt) pays - supply.unsupplied pays pdt =
      -bare.charge pays pdt - settings.reserveComptee passage.optimizationNumber pays pdt) :
    supply.Fits bare passage where
  flow := flow
  unsupplied := fun pays _ pdt => unsupplied_contains firstStep (unsupplied pays pdt) (below pays pdt)
  production := by simp [noUnit]
  units := by simp [noUnit]
  nonneg := idle.ge
  pmin := by rw [idle, stopped, mul_zero]
  pmax := by rw [idle, stopped, mul_zero]
  balance := by
    intro pays _ pdt _
    rw [noUnit, if_neg Bool.false_ne_true, sub_zero]
    exact balance pays pdt

end NoUnit

section Isolated

def isolated (nombreDePays : Nat) : Network where
  nombreDePays := nombreDePays
  nombreDInterconnexions := 0
  paysOrigineDeLInterconnexion := fun _ => 0
  paysExtremiteDeLInterconnexion := fun _ => 0
  origine_lt := fun _ absent => absurd absent (Nat.not_lt_zero _)
  extremite_lt := fun _ absent => absurd absent (Nat.not_lt_zero _)

theorem export_isolated {nombreDePays : Nat} (isolated_ : bare.network = isolated nombreDePays)
    (flow : Nat → Rat) (pays : Nat) : bare.export_ flow pays = 0 := by
  unfold export_ Network.intercosOrigine Network.intercosExtremite
  rw [isolated_]
  simp [isolated, Chains.visited_build, Chains.itemsOf]

def reserveOnly (settings : WeekSettings) : BareWeek settings where
  network := isolated settings.nombreDePays
  nombreDePays_eq := rfl
  hasUnit := fun _ => false
  charge := fun _ _ => 0
  capacite := 0
  capacite_nonneg := le_rfl

def Supply.withoutReserve (settings : WeekSettings) : Supply :=
  { Supply.nothing with unsupplied := settings.reserveComptee .premiereOptimisation }

theorem reserveOnly_not_capFeasible (twice : settings.deuxOptimisations = true) {pays pdt : Nat}
    (bound : pays < settings.nombreDePays) (inRange : pdt < nbHoursInWeek)
    (counted : 0 < settings.reserveComptee .premiereOptimisation pays pdt)
    (inside : settings.inside pays = true) : ¬(reserveOnly settings).week.CapFeasible := by
  have reserve := reserveComptee_nonneg settings .premiereOptimisation
  have apart := (reserveOnly settings).export_isolated rfl
  apply not_capFeasible (Supply.withoutReserve settings) Supply.nothing twice _ _ (fun _ _ => rfl) bound inside
    inRange
  · intro point feasible
    have served := served_of_feasible inRange bound feasible
    rw [apart] at served
    change 0 + settings.reserveComptee .premiereOptimisation pays pdt + 0 ≤ 0 + _ at served
    linarith
  · apply Supply.Fits.ofNoUnit rfl rfl rfl rfl
    · exact fun interco pdt => (reserveOnly settings).week.bornesDeLInterconnexion_contains_zero _ interco pdt
    · exact reserve
    · exact fun pays pdt => .inr (zero_add _).ge
    · intro pays pdt
      rw [apart]
      change 0 - settings.reserveComptee .premiereOptimisation pays pdt =
        -0 - settings.reserveComptee .premiereOptimisation pays pdt
      rw [neg_zero]
  · apply Supply.Fits.ofNoUnit rfl rfl rfl rfl
    · exact fun interco pdt => (reserveOnly settings).week.bornesDeLInterconnexion_contains_zero _ interco pdt
    · exact fun _ _ => le_rfl
    · exact fun _ _ => .inl rfl
    · intro pays pdt
      rw [apart]
      change 0 - 0 = -0 - settings.reserveComptee .deuxiemeOptimisation pays pdt
      rw [reserveComptee_deuxieme, neg_zero]

end Isolated

section Joined

variable {nombreDePays origine extremite : Nat}

def joined (origine_lt : origine < nombreDePays)
    (extremite_lt : extremite < nombreDePays) : Network where
  nombreDePays := nombreDePays
  nombreDInterconnexions := 1
  paysOrigineDeLInterconnexion := fun _ => origine
  paysExtremiteDeLInterconnexion := fun _ => extremite
  origine_lt := fun _ _ => origine_lt
  extremite_lt := fun _ _ => extremite_lt

theorem export_joined (origine_lt : origine < nombreDePays)
    (extremite_lt : extremite < nombreDePays) (joined_ : bare.network = joined origine_lt extremite_lt)
    (flow : Nat → Rat) (pays : Nat) :
    bare.export_ flow pays = (if origine = pays then flow 0 else 0) - if extremite = pays then flow 0 else 0 := by
  unfold export_ Network.intercosOrigine Network.intercosExtremite
  rw [joined_]
  simp only [joined, Chains.visited_build, Chains.itemsOf_succ]
  split_ifs <;> simp [Chains.itemsOf]

/-- At one hour, what the origin has to spare, once its reserve is set aside, is less than what
the other area asks for. -/
def spareAndShort (settings : WeekSettings) {origine extremite : Nat} (heure : Nat)
    (origine_lt : origine < settings.nombreDePays) (extremite_lt : extremite < settings.nombreDePays) :
    BareWeek settings where
  network := joined origine_lt extremite_lt
  nombreDePays_eq := rfl
  hasUnit := fun _ => false
  charge := fun pays pdt =>
    if pdt = heure then
      if origine = pays then -(settings.reserveComptee .premiereOptimisation origine heure + 1)
      else if extremite = pays then settings.reserveComptee .premiereOptimisation origine heure + 1
      else 0
    else 0
  capacite := settings.reserveComptee .premiereOptimisation origine heure + 1
  capacite_nonneg := by
    have reserve := reserveComptee_nonneg settings .premiereOptimisation origine heure
    linarith

variable {origine extremite heure : Nat} {origine_lt : origine < settings.nombreDePays}
  {extremite_lt : extremite < settings.nombreDePays}

theorem spareAndShort_flow {passage : Passage} (firstStep : passage.adequacyFirstStep = true)
    (outside : settings.inside origine = false) (inside : settings.inside extremite = true) (interco pdt : Nat)
    {flow : Rat} (nonneg : 0 ≤ flow) (below : flow ≤ settings.reserveComptee .premiereOptimisation origine heure + 1) :
    ((spareAndShort settings heure origine_lt extremite_lt).week.bornesDeLInterconnexion passage interco
      pdt).Contains flow := by
  unfold Week.bornesDeLInterconnexion
  rw [firstStep]
  change (setNTCbounds true (getNTCtoZeroStatus _ (settings.areaMode origine) (settings.areaMode extremite))
    (some (settings.reserveComptee .premiereOptimisation origine heure + 1)) (some 0)).Contains flow
  have patch : settings.areaMode extremite = .physicalAreaInsideAdqPatch := by
    simpa [WeekSettings.inside] using inside
  rw [patch]
  cases mode : settings.areaMode origine with
  | physicalAreaInsideAdqPatch => simp [WeekSettings.inside, mode] at outside
  | physicalAreaOutsideAdqPatch =>
    change (⟨some 0, some _⟩ : Bounds Rat).Contains flow
    exact Bounds.contains_between.mpr ⟨nonneg, below⟩
  | virtualArea =>
    change (⟨some (-0), some _⟩ : Bounds Rat).Contains flow
    rw [neg_zero]
    exact Bounds.contains_between.mpr ⟨nonneg, below⟩

def Supply.reserveHeld (settings : WeekSettings) (origine extremite heure : Nat) : Supply :=
  { Supply.nothing with
    flow := fun _ pdt => if pdt = heure then 1 else 0
    unsupplied := fun pays pdt =>
      if pdt = heure ∧ origine = pays then 0
      else if pdt = heure ∧ extremite = pays then
        settings.reserveComptee .premiereOptimisation pays pdt +
          settings.reserveComptee .premiereOptimisation origine heure
      else settings.reserveComptee .premiereOptimisation pays pdt }

def Supply.reserveLent (settings : WeekSettings) (origine heure : Nat) : Supply :=
  { Supply.nothing with
    flow := fun _ pdt =>
      if pdt = heure then settings.reserveComptee .premiereOptimisation origine heure + 1 else 0 }

variable (origine_lt extremite_lt) in
theorem spareAndShort_not_capFeasible (twice : settings.deuxOptimisations = true)
    (inRange : heure < nbHoursInWeek)
    (counted : 0 < settings.reserveComptee .premiereOptimisation origine heure)
    (outside : settings.inside origine = false) (inside : settings.inside extremite = true) :
    ¬(spareAndShort settings heure origine_lt extremite_lt).week.CapFeasible := by
  have reserve := reserveComptee_nonneg settings .premiereOptimisation
  have exported := (spareAndShort settings heure origine_lt extremite_lt).export_joined origine_lt extremite_lt rfl
  have apart : origine ≠ extremite := by
    rintro rfl
    rw [inside] at outside
    cases outside
  apply not_capFeasible (Supply.reserveHeld settings origine extremite heure)
    (Supply.reserveLent settings origine heure) twice _ _ (fun _ _ => rfl) extremite_lt inside inRange
  · intro point feasible
    have spare := served_of_feasible inRange origine_lt feasible
    have short := served_of_feasible inRange extremite_lt feasible
    have full := (unsupplied_of_feasible inRange origine_lt feasible).2.1
    rw [xmax_eq] at full
    rw [exported] at spare short
    simp only [spareAndShort, if_true, if_neg apart, if_neg apart.symm, Week.passage] at spare short full
    have spared : ¬0 ≤ -(settings.reserveComptee .premiereOptimisation origine heure + 1) +
        settings.reserveComptee .premiereOptimisation origine heure := by linarith
    rw [if_neg spared] at full
    simp at spare short
    have asked := reserve extremite heure
    linarith
  · apply Supply.Fits.ofNoUnit rfl rfl rfl rfl
    · intro interco pdt
      have bound := reserve origine heure
      apply spareAndShort_flow rfl outside inside
      · change 0 ≤ if pdt = heure then (1 : Rat) else 0
        split_ifs <;> norm_num
      · change (if pdt = heure then (1 : Rat) else 0) ≤ _
        split_ifs <;> linarith
    · intro pays pdt
      have here := reserve pays pdt
      change 0 ≤ if _ then (0 : Rat) else _
      split_ifs <;> linarith
    · intro pays pdt
      change _ ∨ _ ≤ _ + settings.reserveComptee .premiereOptimisation pays pdt
      simp only [Supply.reserveHeld, spareAndShort]
      grind
    · intro pays pdt
      rw [exported]
      change _ = _ - settings.reserveComptee .premiereOptimisation pays pdt
      simp only [Supply.reserveHeld, spareAndShort]
      grind
  · apply Supply.Fits.ofNoUnit rfl rfl rfl rfl
    · intro interco pdt
      have bound := reserve origine heure
      apply spareAndShort_flow rfl outside inside
      · change 0 ≤ if pdt = heure then _ else (0 : Rat)
        split_ifs <;> linarith
      · change (if pdt = heure then _ else (0 : Rat)) ≤ _
        split_ifs <;> linarith
    · exact fun _ _ => le_rfl
    · exact fun _ _ => .inl rfl
    · intro pays pdt
      rw [exported]
      change _ = _ - settings.reserveComptee .deuxiemeOptimisation pays pdt
      rw [reserveComptee_deuxieme]
      simp only [Supply.reserveLent, Supply.nothing, spareAndShort]
      grind

end Joined

section Raised

def partialSupply (settings : WeekSettings) (pays : Nat) : BareWeek settings where
  network := isolated settings.nombreDePays
  nombreDePays_eq := rfl
  hasUnit := fun autre => autre = pays
  charge := fun autre _ => if autre = pays then 2 else 0
  capacite := 0
  capacite_nonneg := le_rfl

def Supply.beforeHeuristic (settings : WeekSettings) (pays : Nat) : Supply where
  flow := fun _ _ => 0
  production := 1
  units := 1 / 2
  unsupplied := fun autre pdt =>
    settings.reserveComptee .premiereOptimisation autre pdt + if autre = pays then 1 else 0

def Supply.afterHeuristic : Supply where
  flow := fun _ _ => 0
  production := 2
  units := 1
  unsupplied := fun _ _ => 0

theorem partialUnit_preparer :
    (partialUnit.preparer .ucHeuristicAccurate).puissanceMin = (fun _ => 0) ∧
    (partialUnit.preparer .ucHeuristicAccurate).puissanceDisponible = (fun _ => 1) ∧
    (partialUnit.preparer .ucHeuristicAccurate).nombreMinDeGroupesEnMarche = (fun _ => 0) ∧
    (partialUnit.preparer .ucHeuristicAccurate).nombreMaxDeGroupesEnMarche = fun _ => 1 := by
  refine ⟨?_, ?_, ?_, ?_⟩
  · exact partialUnit_renseigne.preparer_puissanceMin _
  · exact PalierThermique.preparer_puissanceDisponible _
  · rw [PalierThermique.preparer_nombreMin]
    funext pdt
    change ⌈(0 : Rat) / 4⌉ = 0
    norm_num
  · rw [PalierThermique.preparer_nombreMax]
    funext pdt
    change ⌈(1 : Rat) / 4⌉ = 1
    norm_num

theorem partialUnit_apresUnPas (solution : PalierThermique.Solution) (whole : solution.auxiliaire = some fun _ => 1) :
    let palier := (partialUnit.preparer .ucHeuristicAccurate).apresUnPas .ucHeuristicAccurate false solution
    palier.puissanceMin = (fun _ => 0) ∧ palier.puissanceDisponible = (fun _ => 2) ∧
      palier.nombreMinDeGroupesEnMarche = (fun _ => 1) ∧ palier.nombreMaxDeGroupesEnMarche = fun _ => 1 := by
  obtain ⟨pmin, -, -, nombreMax⟩ := partialUnit_preparer
  have ran : (partialUnit.preparer .ucHeuristicAccurate).apresUnPas .ucHeuristicAccurate false solution =
      (partialUnit.preparer .ucHeuristicAccurate).ajusterLeNombreMinDeGroupes solution.nombreDeGroupesEnMarche
        solution.auxiliaire := rfl
  rw [ran]
  unfold PalierThermique.ajusterLeNombreMinDeGroupes
  have stable : (partialUnit.preparer .ucHeuristicAccurate).pminDUnGroupe = 2 := rfl
  have reference : partialUnit.puissanceDisponibleRef = fun _ => 1 := rfl
  simp [whole, pmin, nombreMax, stable, reference]

theorem partialSupply_premiersPaliers (accurate : settings.ucMode = .ucHeuristicAccurate) (pays palier : Nat) :
    (partialSupply settings pays).week.premiersPaliers palier = partialUnit.preparer .ucHeuristicAccurate := by
  unfold Week.premiersPaliers
  rw [accurate]
  rfl

theorem partialSupply_deuxiemesPaliers (accurate : settings.ucMode = .ucHeuristicAccurate)
    (once : settings.expansion = false) (pays palier : Nat) :
    (partialSupply settings pays).week.deuxiemesPaliers
        ((Supply.beforeHeuristic settings pays).solutions Supply.afterHeuristic) palier =
      (partialUnit.preparer .ucHeuristicAccurate).apresUnPas .ucHeuristicAccurate false {
        productionThermique := fun _ => 1
        nombreDeGroupesEnMarche := fun _ => 1 / 2
        auxiliaire := some fun _ => 1 } := by
  unfold Week.deuxiemesPaliers
  rw [partialSupply_premiersPaliers accurate, accurate, once]
  rfl

theorem partialSupply_beforeHeuristic_fits (accurate : settings.ucMode = .ucHeuristicAccurate) (pays : Nat) :
    (Supply.beforeHeuristic settings pays).Fits (partialSupply settings pays)
      ((partialSupply settings pays).week.passage
        ((Supply.beforeHeuristic settings pays).solutions Supply.afterHeuristic) true .premiereOptimisation) := by
  have reserve := reserveComptee_nonneg settings .premiereOptimisation
  have apart := (partialSupply settings pays).export_isolated rfl
  have first := @partialSupply_premiersPaliers settings accurate pays
  obtain ⟨pmin, disponible, nombreMin, nombreMax⟩ := partialUnit_preparer
  exact {
    flow := fun interco pdt => (partialSupply settings pays).week.bornesDeLInterconnexion_contains_zero _ interco pdt
    unsupplied := by
      intro autre _ pdt
      have asked := reserve autre pdt
      apply unsupplied_contains rfl
      · change 0 ≤ _ + if autre = pays then (1 : Rat) else 0
        split_ifs <;> linarith
      · right
        change _ + (if autre = pays then (1 : Rat) else 0) ≤
          (if autre = pays then 2 else 0) + settings.reserveComptee .premiereOptimisation autre pdt
        split_ifs <;> linarith
    production := by
      intro autre _ palier pdt
      change ((partialSupply settings pays).week.premiersPaliers palier).puissanceMin pdt ≤ 1 ∧
        1 ≤ ((partialSupply settings pays).week.premiersPaliers palier).puissanceDisponible pdt
      rw [first, pmin, disponible]
      norm_num
    units := by
      intro autre _ palier pdt
      change ((partialSupply settings pays).week.premiersPaliers palier).nombreMinDeGroupesEnMarche pdt ≤
          (1 / 2 : Rat) ∧
        (1 / 2 : Rat) ≤ ((partialSupply settings pays).week.premiersPaliers palier).nombreMaxDeGroupesEnMarche pdt
      rw [first, nombreMin, nombreMax]
      norm_num
    nonneg := by norm_num [Supply.beforeHeuristic]
    pmin := by norm_num [Supply.beforeHeuristic]
    pmax := by norm_num [Supply.beforeHeuristic]
    balance := by
      intro autre _ pdt _
      rw [apart]
      change 0 - (if decide (autre = pays) then (1 : Rat) else 0) -
          (settings.reserveComptee .premiereOptimisation autre pdt + if autre = pays then 1 else 0) =
        -(if autre = pays then 2 else 0) - settings.reserveComptee .premiereOptimisation autre pdt
      grind }

theorem partialSupply_afterHeuristic_fits (accurate : settings.ucMode = .ucHeuristicAccurate)
    (once : settings.expansion = false) (pays : Nat) :
    Supply.afterHeuristic.Fits (partialSupply settings pays)
      ((partialSupply settings pays).week.passage
        ((Supply.beforeHeuristic settings pays).solutions Supply.afterHeuristic) true .deuxiemeOptimisation) := by
  have apart := (partialSupply settings pays).export_isolated rfl
  have second := @partialSupply_deuxiemesPaliers settings accurate once pays
  obtain ⟨pmin, disponible, nombreMin, nombreMax⟩ := partialUnit_apresUnPas {
    productionThermique := fun _ => 1
    nombreDeGroupesEnMarche := fun _ => 1 / 2
    auxiliaire := some fun _ => 1 } rfl
  exact {
    flow := fun interco pdt => (partialSupply settings pays).week.bornesDeLInterconnexion_contains_zero _ interco pdt
    unsupplied := fun _ _ _ => unsupplied_contains rfl le_rfl (.inl rfl)
    production := by
      intro autre _ palier pdt
      change ((partialSupply settings pays).week.deuxiemesPaliers _ palier).puissanceMin pdt ≤ 2 ∧
        2 ≤ ((partialSupply settings pays).week.deuxiemesPaliers _ palier).puissanceDisponible pdt
      rw [second, pmin, disponible]
      norm_num
    units := by
      intro autre _ palier pdt
      change ((partialSupply settings pays).week.deuxiemesPaliers _ palier).nombreMinDeGroupesEnMarche pdt ≤
          (1 : Rat) ∧
        (1 : Rat) ≤ ((partialSupply settings pays).week.deuxiemesPaliers _ palier).nombreMaxDeGroupesEnMarche pdt
      rw [second, nombreMin, nombreMax]
      norm_num
    nonneg := by norm_num [Supply.afterHeuristic]
    pmin := by norm_num [Supply.afterHeuristic]
    pmax := by norm_num [Supply.afterHeuristic]
    balance := by
      intro autre _ pdt _
      rw [apart]
      change 0 - (if decide (autre = pays) then (2 : Rat) else 0) - 0 =
        -(if autre = pays then 2 else 0) - settings.reserveComptee .deuxiemeOptimisation autre pdt
      rw [reserveComptee_deuxieme]
      grind }

theorem partialSupply_not_capFeasible (accurate : settings.ucMode = .ucHeuristicAccurate)
    (once : settings.expansion = false) {pays : Nat} (bound : pays < settings.nombreDePays)
    (inside : settings.inside pays = true) : ¬(partialSupply settings pays).week.CapFeasible := by
  have reserve := reserveComptee_nonneg settings .premiereOptimisation
  have twice : settings.deuxOptimisations = true := by
    unfold WeekSettings.deuxOptimisations
    rw [accurate, once]
    rfl
  have firstHour : 0 < nbHoursInWeek := by decide
  apply not_capFeasible (Supply.beforeHeuristic settings pays) Supply.afterHeuristic twice
    (partialSupply_beforeHeuristic_fits accurate pays) (partialSupply_afterHeuristic_fits accurate once pays)
    (fun _ _ => rfl) bound inside firstHour
  -- the second step starts again from the power of the first, one for a load of two
  obtain ⟨-, disponible, -, -⟩ := partialUnit_preparer
  intro point feasible
  have unit : (partialSupply settings pays).hasUnit pays = true := decide_eq_true rfl
  have served := served_of_feasible firstHour bound feasible
  have produced := production_of_feasible firstHour bound feasible unit
  rw [(partialSupply settings pays).export_isolated rfl, if_pos unit] at served
  change point _ ≤ ((partialSupply settings pays).week.premiersPaliers _).puissanceDisponible _ at produced
  rw [partialSupply_premiersPaliers accurate, disponible] at produced
  have load : (partialSupply settings pays).charge pays 0 = 2 := if_pos rfl
  have asked := reserve pays 0
  change _ + settings.reserveComptee .premiereOptimisation pays 0 + 0 ≤ _ at served
  rw [load] at served
  linarith

end Raised

end BareWeek

variable (settings : WeekSettings)

theorem WeekSettings.reserve_counted (counted : settings.yaDeLaReserveJmoins1 = true) :
    ∃ pays < settings.nombreDePays, ∃ pdt < nbHoursInWeek,
      0 < settings.reserveComptee .premiereOptimisation pays pdt := by
  have present := counted
  simp only [WeekSettings.yaDeLaReserveJmoins1, List.any_eq_true, List.mem_range, decide_eq_true_eq] at present
  obtain ⟨pays, bound, pdt, inRange, above⟩ := present
  refine ⟨pays, bound, pdt, inRange, ?_⟩
  rw [abs_of_nonneg (settings.reserve_nonneg pays pdt)] at above
  have threshold : (0 : Rat) < WeekSettings.zeroReserveJMoins1 := by norm_num [WeekSettings.zeroReserveJMoins1]
  simp only [WeekSettings.reserveComptee, counted, decide_true, Bool.and_self, if_true]
  exact threshold.trans above

def reserveSettings : WeekSettings where
  nombreDePays := 1
  ucMode := .ucHeuristicFast
  expansion := false
  areaMode := fun _ => .physicalAreaInsideAdqPatch
  reserveHoraireJMoins1 := fun _ _ => 50
  reserve_nonneg := fun _ _ => by norm_num

end Antares.AdequacyPatch
