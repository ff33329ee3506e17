import Antares.Library.InPlace
import Antares.Optimisation.Horizon
import Mathlib.Algebra.Order.Field.Rat

/-! The hydro data of an area in the weekly problem. Daily energies are summed in place over
the optimised intervals before each optimisation of the week, and hourly generating powers are
cut back from them.
-/

set_option autoImplicit false

namespace Antares.Optimisation

open Library

/-- The part of `ENERGIES_ET_PUISSANCES_HYDRAULIQUES` that the preparation reads and writes.
Arrays per interval hold seven daily values before the intervals are summed. -/
structure EnergiesEtPuissancesHydrauliques where
  presenceDHydrauliqueModulable : Bool
  presenceDePompageModulable : Bool
  turbinageEntreBornes : Bool
  sansHeuristique : Bool
  coefficientEcretementPMaxHydraulique : Rat
  cntEnergieH2OParIntervalleOptimise : Nat → Rat
  cntEnergieH2OParJour : Nat → Rat
  minEnergieHydrauParIntervalleOptimise : Nat → Rat
  maxEnergieHydrauParIntervalleOptimise : Nat → Rat
  maxEnergiePompageParIntervalleOptimise : Nat → Rat
  inflowForTimeInterval : Nat → Rat
  contrainteDePmaxHydrauliqueHoraire : Nat → Rat
  contrainteDePmaxHydrauliqueHoraireRef : Nat → Rat
  contrainteDePmaxPompageHoraire : Nat → Rat
  maxDesPmaxHydrauliques : Rat

namespace EnergiesEtPuissancesHydrauliques

variable (range : SimplexOptimization) (hydro : EnergiesEtPuissancesHydrauliques)

def suitUneCible : Bool := hydro.presenceDHydrauliqueModulable && !hydro.turbinageEntreBornes

def estBorne : Bool :=
  hydro.presenceDHydrauliqueModulable && (hydro.turbinageEntreBornes || hydro.presenceDePompageModulable)

/-- The first loop of `OPT_InitialiserLesContrainteDEnergieHydrauliqueParIntervalleOptimise`. -/
def initialiserCible : EnergiesEtPuissancesHydrauliques :=
  if hydro.suitUneCible then
    let sums := sumAndCopy range.nbIntervallesOptimises range.nombreDeJoursParIntervalle
      hydro.cntEnergieH2OParIntervalleOptimise hydro.cntEnergieH2OParJour
    { hydro with
      cntEnergieH2OParIntervalleOptimise := sums.1
      cntEnergieH2OParJour := sums.2 }
  else hydro

/-- The second loop: the daily energies are now those of the upper bound. -/
def initialiserBornes : EnergiesEtPuissancesHydrauliques :=
  if hydro.estBorne then
    let sums := sumAndCopy range.nbIntervallesOptimises range.nombreDeJoursParIntervalle
      hydro.maxEnergieHydrauParIntervalleOptimise hydro.cntEnergieH2OParJour
    { hydro with
      minEnergieHydrauParIntervalleOptimise :=
        sumInPlace range.nbIntervallesOptimises range.nombreDeJoursParIntervalle
          hydro.minEnergieHydrauParIntervalleOptimise
      maxEnergieHydrauParIntervalleOptimise := sums.1
      cntEnergieH2OParJour := sums.2 }
  else hydro

def initialiserPompageEtApports : EnergiesEtPuissancesHydrauliques :=
  { hydro with
    maxEnergiePompageParIntervalleOptimise :=
      sumInPlace range.nbIntervallesOptimises range.nombreDeJoursParIntervalle
        hydro.maxEnergiePompageParIntervalleOptimise
    inflowForTimeInterval :=
      sumInPlace range.nbIntervallesOptimises range.nombreDeJoursParIntervalle
        hydro.inflowForTimeInterval }

/-- `OPT_InitialiserLesContrainteDEnergieHydrauliqueParIntervalleOptimise` -/
def initialiserLesContraintesDEnergie : EnergiesEtPuissancesHydrauliques :=
  ((hydro.initialiserCible range).initialiserBornes range).initialiserPompageEtApports range

/-- `OPT_MaxDesPmaxHydrauliques`, on the hourly powers as they stand. -/
def initialiserMaxDesPmax : EnergiesEtPuissancesHydrauliques :=
  { hydro with
    maxDesPmaxHydrauliques :=
      if hydro.presenceDHydrauliqueModulable then
        runningMax hydro.contrainteDePmaxHydrauliqueHoraire (-1) (List.range nbHoursInWeek)
      else 0 }

variable (pdt : Nat)

/-- The generating power allowance of an hour, uplifted to match pumping power. -/
def pmaxHydEcretee : Rat :=
  let pmaxHyd := hydro.cntEnergieH2OParJour (numeroDeJourDuPasDeTemps pdt) *
    hydro.coefficientEcretementPMaxHydraulique / nombreDePasDeTempsDUneJournee
  if hydro.presenceDePompageModulable then
    let pmaxHydUplift := hydro.contrainteDePmaxPompageHoraire pdt * hydro.coefficientEcretementPMaxHydraulique
    if pmaxHyd < pmaxHydUplift then pmaxHydUplift else pmaxHyd
  else pmaxHyd

/-- The hydro part of `OPT_RestaurerLesDonnees`. -/
def restaurerPmax : EnergiesEtPuissancesHydrauliques :=
  if hydro.presenceDHydrauliqueModulable then
    { hydro with
      contrainteDePmaxHydrauliqueHoraire := fun pdt =>
        let pmaxHoraire := hydro.contrainteDePmaxHydrauliqueHoraireRef pdt
        if hydro.sansHeuristique then pmaxHoraire
        else if hydro.pmaxHydEcretee pdt < pmaxHoraire then hydro.pmaxHydEcretee pdt
        else pmaxHoraire }
  else hydro

/-- What one call of the solver prepares, up to the construction of the problem. -/
def preparer : EnergiesEtPuissancesHydrauliques :=
  (hydro.initialiserLesContraintesDEnergie range).initialiserMaxDesPmax.restaurerPmax

def energieDuJour (jour : Nat) : Rat :=
  if hydro.estBorne then hydro.maxEnergieHydrauParIntervalleOptimise jour
  else if hydro.suitUneCible then hydro.cntEnergieH2OParIntervalleOptimise jour
  else hydro.cntEnergieH2OParJour jour

/-- The allowance of an hour, from the data as they stand before the preparation. -/
def limiteHoraire : Rat :=
  pmaxHydEcretee { hydro with cntEnergieH2OParJour := hydro.energieDuJour } pdt

theorem sumAndCopy_days (array copy : Nat → Rat) {jour : Nat} (inWeek : jour < 7) :
    (sumAndCopy range.nbIntervallesOptimises range.nombreDeJoursParIntervalle array copy).2 jour =
      array jour := by
  rw [sumAndCopy_snd _ _ range.nombreDeJoursParIntervalle_pos, range.intervalles_mul_jours, if_pos inWeek]

def parIntervalle (array : Nat → Rat) : Nat → Rat :=
  sumInPlace range.nbIntervallesOptimises range.nombreDeJoursParIntervalle array

def plafondHoraire : Rat :=
  if hydro.sansHeuristique then hydro.contrainteDePmaxHydrauliqueHoraireRef pdt
  else min (hydro.limiteHoraire pdt) (hydro.contrainteDePmaxHydrauliqueHoraireRef pdt)

section Preparer

theorem initialiserCible_eq :
    hydro.initialiserCible range =
      { hydro with
        cntEnergieH2OParIntervalleOptimise :=
          if hydro.suitUneCible then parIntervalle range hydro.cntEnergieH2OParIntervalleOptimise
          else hydro.cntEnergieH2OParIntervalleOptimise
        cntEnergieH2OParJour :=
          if hydro.suitUneCible then
            (sumAndCopy range.nbIntervallesOptimises range.nombreDeJoursParIntervalle
              hydro.cntEnergieH2OParIntervalleOptimise hydro.cntEnergieH2OParJour).2
          else hydro.cntEnergieH2OParJour } := by
  unfold initialiserCible
  split_ifs
  · dsimp only
    rw [sumAndCopy_fst]
    rfl
  · rfl

theorem initialiserBornes_eq :
    hydro.initialiserBornes range =
      { hydro with
        minEnergieHydrauParIntervalleOptimise :=
          if hydro.estBorne then parIntervalle range hydro.minEnergieHydrauParIntervalleOptimise
          else hydro.minEnergieHydrauParIntervalleOptimise
        maxEnergieHydrauParIntervalleOptimise :=
          if hydro.estBorne then parIntervalle range hydro.maxEnergieHydrauParIntervalleOptimise
          else hydro.maxEnergieHydrauParIntervalleOptimise
        cntEnergieH2OParJour :=
          if hydro.estBorne then
            (sumAndCopy range.nbIntervallesOptimises range.nombreDeJoursParIntervalle
              hydro.maxEnergieHydrauParIntervalleOptimise hydro.cntEnergieH2OParJour).2
          else hydro.cntEnergieH2OParJour } := by
  unfold initialiserBornes
  split_ifs
  · dsimp only
    rw [sumAndCopy_fst]
    rfl
  · rfl

theorem restaurerPmax_eq :
    hydro.restaurerPmax =
      { hydro with contrainteDePmaxHydrauliqueHoraire := hydro.restaurerPmax.contrainteDePmaxHydrauliqueHoraire } := by
  unfold restaurerPmax
  by_cases present : hydro.presenceDHydrauliqueModulable = true
  · rw [if_pos present]
  · rw [if_neg present]

theorem preparer_cntEnergieH2OParIntervalleOptimise :
    (hydro.preparer range).cntEnergieH2OParIntervalleOptimise =
      if hydro.suitUneCible then parIntervalle range hydro.cntEnergieH2OParIntervalleOptimise
      else hydro.cntEnergieH2OParIntervalleOptimise := by
  rw [preparer, restaurerPmax_eq, initialiserLesContraintesDEnergie, initialiserBornes_eq, initialiserCible_eq]
  rfl

theorem preparer_minEnergieHydrauParIntervalleOptimise :
    (hydro.preparer range).minEnergieHydrauParIntervalleOptimise =
      if hydro.estBorne then parIntervalle range hydro.minEnergieHydrauParIntervalleOptimise
      else hydro.minEnergieHydrauParIntervalleOptimise := by
  rw [preparer, restaurerPmax_eq, initialiserLesContraintesDEnergie, initialiserBornes_eq, initialiserCible_eq]
  rfl

theorem preparer_maxEnergieHydrauParIntervalleOptimise :
    (hydro.preparer range).maxEnergieHydrauParIntervalleOptimise =
      if hydro.estBorne then parIntervalle range hydro.maxEnergieHydrauParIntervalleOptimise
      else hydro.maxEnergieHydrauParIntervalleOptimise := by
  rw [preparer, restaurerPmax_eq, initialiserLesContraintesDEnergie, initialiserBornes_eq, initialiserCible_eq]
  rfl

theorem preparer_maxEnergiePompageParIntervalleOptimise :
    (hydro.preparer range).maxEnergiePompageParIntervalleOptimise =
      parIntervalle range hydro.maxEnergiePompageParIntervalleOptimise := by
  rw [preparer, restaurerPmax_eq, initialiserLesContraintesDEnergie, initialiserBornes_eq, initialiserCible_eq]
  rfl

theorem preparer_inflowForTimeInterval :
    (hydro.preparer range).inflowForTimeInterval = parIntervalle range hydro.inflowForTimeInterval := by
  rw [preparer, restaurerPmax_eq, initialiserLesContraintesDEnergie, initialiserBornes_eq, initialiserCible_eq]
  rfl

theorem preparer_settings :
    (hydro.preparer range).presenceDHydrauliqueModulable = hydro.presenceDHydrauliqueModulable ∧
    (hydro.preparer range).presenceDePompageModulable = hydro.presenceDePompageModulable ∧
    (hydro.preparer range).turbinageEntreBornes = hydro.turbinageEntreBornes ∧
    (hydro.preparer range).sansHeuristique = hydro.sansHeuristique ∧
    (hydro.preparer range).coefficientEcretementPMaxHydraulique =
      hydro.coefficientEcretementPMaxHydraulique ∧
    (hydro.preparer range).contrainteDePmaxHydrauliqueHoraireRef =
      hydro.contrainteDePmaxHydrauliqueHoraireRef ∧
    (hydro.preparer range).contrainteDePmaxPompageHoraire = hydro.contrainteDePmaxPompageHoraire := by
  rw [preparer, restaurerPmax_eq, initialiserLesContraintesDEnergie, initialiserBornes_eq, initialiserCible_eq]
  exact ⟨rfl, rfl, rfl, rfl, rfl, rfl, rfl⟩

@[simp]
theorem preparer_estBorne : (hydro.preparer range).estBorne = hydro.estBorne := by
  obtain ⟨presence, pompage, turbinage, -⟩ := hydro.preparer_settings range
  unfold estBorne
  rw [presence, pompage, turbinage]

@[simp]
theorem preparer_suitUneCible : (hydro.preparer range).suitUneCible = hydro.suitUneCible := by
  obtain ⟨presence, -, turbinage, -⟩ := hydro.preparer_settings range
  unfold suitUneCible
  rw [presence, turbinage]

theorem preparer_cntEnergieH2OParJour {jour : Nat} (inWeek : jour < 7) :
    (hydro.preparer range).cntEnergieH2OParJour jour = hydro.energieDuJour jour := by
  have energies : (hydro.preparer range).cntEnergieH2OParJour =
      if hydro.estBorne then
        (sumAndCopy range.nbIntervallesOptimises range.nombreDeJoursParIntervalle
          hydro.maxEnergieHydrauParIntervalleOptimise (hydro.initialiserCible range).cntEnergieH2OParJour).2
      else if hydro.suitUneCible then
        (sumAndCopy range.nbIntervallesOptimises range.nombreDeJoursParIntervalle
          hydro.cntEnergieH2OParIntervalleOptimise hydro.cntEnergieH2OParJour).2
      else hydro.cntEnergieH2OParJour := by
    rw [preparer, restaurerPmax_eq, initialiserLesContraintesDEnergie, initialiserBornes_eq, initialiserCible_eq]
    rfl
  rw [energies, energieDuJour]
  split_ifs
  · exact sumAndCopy_days range _ _ inWeek
  · exact sumAndCopy_days range _ _ inWeek
  · rfl

theorem pmaxHydEcretee_congr {other : EnergiesEtPuissancesHydrauliques} (pdt : Nat)
    (pompage : other.presenceDePompageModulable = hydro.presenceDePompageModulable)
    (coefficient : other.coefficientEcretementPMaxHydraulique = hydro.coefficientEcretementPMaxHydraulique)
    (pmaxPompage : other.contrainteDePmaxPompageHoraire = hydro.contrainteDePmaxPompageHoraire)
    (energie : other.cntEnergieH2OParJour (numeroDeJourDuPasDeTemps pdt) =
      hydro.cntEnergieH2OParJour (numeroDeJourDuPasDeTemps pdt)) :
    other.pmaxHydEcretee pdt = hydro.pmaxHydEcretee pdt := by
  unfold pmaxHydEcretee
  rw [pompage, coefficient, pmaxPompage, energie]

theorem restaurerPmax_of_present (present : hydro.presenceDHydrauliqueModulable = true) (pdt : Nat) :
    hydro.restaurerPmax.contrainteDePmaxHydrauliqueHoraire pdt =
      if hydro.sansHeuristique then hydro.contrainteDePmaxHydrauliqueHoraireRef pdt
      else min (hydro.pmaxHydEcretee pdt) (hydro.contrainteDePmaxHydrauliqueHoraireRef pdt) := by
  unfold restaurerPmax
  rw [if_pos present]
  dsimp only
  split_ifs with _ below
  · rfl
  · exact (min_eq_left below.le).symm
  · exact (min_eq_right (not_lt.mp below)).symm

theorem preparer_pmaxHydEcretee {pdt : Nat} (inWeek : pdt < nbHoursInWeek) :
    (hydro.preparer range).pmaxHydEcretee pdt = hydro.limiteHoraire pdt := by
  obtain ⟨-, pompage, -, -, coefficient, -, pmaxPompage⟩ := hydro.preparer_settings range
  have jour : numeroDeJourDuPasDeTemps pdt < 7 := Nat.div_lt_of_lt_mul inWeek
  unfold limiteHoraire
  apply pmaxHydEcretee_congr
  · exact pompage
  · exact coefficient
  · exact pmaxPompage
  · exact hydro.preparer_cntEnergieH2OParJour range jour

theorem preparer_contrainteDePmaxHydrauliqueHoraire
    (present : hydro.presenceDHydrauliqueModulable = true) {pdt : Nat} (inWeek : pdt < nbHoursInWeek) :
    (hydro.preparer range).contrainteDePmaxHydrauliqueHoraire pdt = hydro.plafondHoraire pdt := by
  obtain ⟨presence, -, -, heuristique, -, ref, -⟩ := hydro.preparer_settings range
  -- restoring the hourly powers changes neither the settings nor the daily energies
  have again : (hydro.preparer range).contrainteDePmaxHydrauliqueHoraire =
      (hydro.preparer range).restaurerPmax.contrainteDePmaxHydrauliqueHoraire := by
    unfold preparer
    unfold restaurerPmax
    split_ifs <;> rfl
  rw [again, restaurerPmax_of_present _ (presence.trans present), heuristique, ref,
    preparer_pmaxHydEcretee range hydro inWeek]
  rfl

theorem initialiserLesContraintesDEnergie_hourly :
    (hydro.initialiserLesContraintesDEnergie range).presenceDHydrauliqueModulable =
      hydro.presenceDHydrauliqueModulable ∧
    (hydro.initialiserLesContraintesDEnergie range).contrainteDePmaxHydrauliqueHoraire =
      hydro.contrainteDePmaxHydrauliqueHoraire := by
  rw [initialiserLesContraintesDEnergie, initialiserBornes_eq, initialiserCible_eq]
  exact ⟨rfl, rfl⟩

theorem preparer_contrainteDePmaxHydrauliqueHoraire_of_absent
    (absent : hydro.presenceDHydrauliqueModulable = false) :
    (hydro.preparer range).contrainteDePmaxHydrauliqueHoraire = hydro.contrainteDePmaxHydrauliqueHoraire := by
  have restored (other : EnergiesEtPuissancesHydrauliques) (none : other.presenceDHydrauliqueModulable = false) :
      other.restaurerPmax = other := by
    unfold restaurerPmax
    rw [none]
    exact if_neg Bool.false_ne_true
  obtain ⟨presence, hourly⟩ := hydro.initialiserLesContraintesDEnergie_hourly range
  unfold preparer
  rw [restored (hydro.initialiserLesContraintesDEnergie range).initialiserMaxDesPmax (presence.trans absent)]
  exact hourly

theorem preparer_maxDesPmaxHydrauliques :
    (hydro.preparer range).maxDesPmaxHydrauliques =
      if hydro.presenceDHydrauliqueModulable then
        runningMax hydro.contrainteDePmaxHydrauliqueHoraire (-1) (List.range nbHoursInWeek)
      else 0 := by
  have kept (other : EnergiesEtPuissancesHydrauliques) :
      other.restaurerPmax.maxDesPmaxHydrauliques = other.maxDesPmaxHydrauliques := by
    unfold restaurerPmax
    split_ifs <;> rfl
  obtain ⟨presence, hourly⟩ := hydro.initialiserLesContraintesDEnergie_hourly range
  unfold preparer
  rw [kept]
  unfold initialiserMaxDesPmax
  dsimp only
  rw [presence, hourly]

end Preparer

/-- The hydro data that the bounds and right-hand sides of the problem are read from. -/
structure SameData (lissage : TypeDeLissageHydraulique) (first second : EnergiesEtPuissancesHydrauliques) :
    Prop where
  cible : ∀ intervalle < range.nbIntervallesOptimises,
    second.cntEnergieH2OParIntervalleOptimise intervalle = first.cntEnergieH2OParIntervalleOptimise intervalle
  energieMin : ∀ intervalle < range.nbIntervallesOptimises,
    second.minEnergieHydrauParIntervalleOptimise intervalle =
      first.minEnergieHydrauParIntervalleOptimise intervalle
  energieMax : ∀ intervalle < range.nbIntervallesOptimises,
    second.maxEnergieHydrauParIntervalleOptimise intervalle =
      first.maxEnergieHydrauParIntervalleOptimise intervalle
  pompage : ∀ intervalle < range.nbIntervallesOptimises,
    second.maxEnergiePompageParIntervalleOptimise intervalle =
      first.maxEnergiePompageParIntervalleOptimise intervalle
  apports : ∀ intervalle < range.nbIntervallesOptimises,
    second.inflowForTimeInterval intervalle = first.inflowForTimeInterval intervalle
  pmaxHoraire : ∀ pdt < nbHoursInWeek,
    second.contrainteDePmaxHydrauliqueHoraire pdt = first.contrainteDePmaxHydrauliqueHoraire pdt
  variationMax : lissage = .lissageHydrauliqueSurVariationMax →
    second.maxDesPmaxHydrauliques = first.maxDesPmaxHydrauliques

/-- Nothing is summed into the first day of the week: the six later days add up to zero. -/
structure FirstDayOnly : Prop where
  cible : hydro.suitUneCible = true → laterSum hydro.cntEnergieH2OParIntervalleOptimise 6 = 0
  energieMin : hydro.estBorne = true → laterSum hydro.minEnergieHydrauParIntervalleOptimise 6 = 0
  energieMax : hydro.estBorne = true → laterSum hydro.maxEnergieHydrauParIntervalleOptimise 6 = 0
  pompage : laterSum hydro.maxEnergiePompageParIntervalleOptimise 6 = 0
  apports : laterSum hydro.inflowForTimeInterval 6 = 0

def GreatestPowerKept : Prop :=
  (∀ pdt < nbHoursInWeek, hydro.contrainteDePmaxHydrauliqueHoraireRef pdt ≤ -1) ∨
    ∃ pdt < nbHoursInWeek,
      (∀ other < nbHoursInWeek,
        hydro.contrainteDePmaxHydrauliqueHoraireRef other ≤ hydro.contrainteDePmaxHydrauliqueHoraireRef pdt) ∧
      (hydro.sansHeuristique = true ∨
        hydro.contrainteDePmaxHydrauliqueHoraireRef pdt ≤ hydro.limiteHoraire pdt)

section Twice

theorem parIntervalle_twice_iff (array : Nat → Rat) :
    (∀ intervalle < range.nbIntervallesOptimises,
      parIntervalle range (parIntervalle range array) intervalle = parIntervalle range array intervalle) ↔
      (range = .sorWeek → laterSum array 6 = 0) := by
  unfold parIntervalle
  cases range with
  | sorDay =>
    have width : SimplexOptimization.nombreDeJoursParIntervalle .sorDay = 1 := rfl
    simp [width, sumInPlace_width_one]
  | sorWeek =>
    have blocks : SimplexOptimization.nbIntervallesOptimises .sorWeek = 1 := rfl
    have width : SimplexOptimization.nombreDeJoursParIntervalle .sorWeek = 6 + 1 := rfl
    rw [blocks, width]
    simp only [Nat.lt_one_iff, forall_eq, sumInPlace_twice_iff, forall_const]

theorem parIntervalle_eq_self {array : Nat → Rat} (later : range = .sorWeek → laterSum array 6 = 0) :
    parIntervalle range array = array := by
  unfold parIntervalle
  cases range with
  | sorDay => exact sumInPlace_width_one array 7
  | sorWeek => exact sumInPlace_one_of_laterSum array (later rfl)

variable {hydro}

theorem FirstDayOnly.energieDuJour_preparer {range : SimplexOptimization}
    (firstDay : range = .sorWeek → hydro.FirstDayOnly) {jour : Nat} (inWeek : jour < 7) :
    (hydro.preparer range).energieDuJour jour = hydro.energieDuJour jour := by
  unfold energieDuJour
  rw [preparer_estBorne, preparer_suitUneCible, preparer_maxEnergieHydrauParIntervalleOptimise,
    preparer_cntEnergieH2OParIntervalleOptimise]
  split_ifs with bounded targeted
  · rw [parIntervalle_eq_self range fun week => (firstDay week).energieMax bounded]
  · rw [parIntervalle_eq_self range fun week => (firstDay week).cible targeted]
  · exact (hydro.preparer_cntEnergieH2OParJour range inWeek).trans (by simp [energieDuJour, bounded, targeted])

theorem FirstDayOnly.plafondHoraire_preparer {range : SimplexOptimization}
    (firstDay : range = .sorWeek → hydro.FirstDayOnly) {pdt : Nat} (inWeek : pdt < nbHoursInWeek) :
    (hydro.preparer range).plafondHoraire pdt = hydro.plafondHoraire pdt := by
  obtain ⟨-, pompage, -, heuristique, coefficient, ref, pmaxPompage⟩ := hydro.preparer_settings range
  have jour : numeroDeJourDuPasDeTemps pdt < 7 := Nat.div_lt_of_lt_mul inWeek
  have limite : (hydro.preparer range).limiteHoraire pdt = hydro.limiteHoraire pdt := by
    unfold limiteHoraire
    apply pmaxHydEcretee_congr
    · exact pompage
    · exact coefficient
    · exact pmaxPompage
    · exact FirstDayOnly.energieDuJour_preparer firstDay jour
  unfold plafondHoraire
  rw [heuristique, ref, limite]

theorem runningMax_plafond_iff :
    runningMax hydro.plafondHoraire (-1) (List.range nbHoursInWeek) =
        runningMax hydro.contrainteDePmaxHydrauliqueHoraireRef (-1) (List.range nbHoursInWeek) ↔
      hydro.GreatestPowerKept := by
  have cut (pdt : Nat) : hydro.plafondHoraire pdt ≤ hydro.contrainteDePmaxHydrauliqueHoraireRef pdt := by
    unfold plafondHoraire
    split_ifs
    · exact le_rfl
    · exact min_le_right _ _
  have uncut (pdt : Nat) : hydro.contrainteDePmaxHydrauliqueHoraireRef pdt ≤ hydro.plafondHoraire pdt ↔
      hydro.sansHeuristique = true ∨
        hydro.contrainteDePmaxHydrauliqueHoraireRef pdt ≤ hydro.limiteHoraire pdt := by
    unfold plafondHoraire
    split_ifs with heuristique
    · simp [heuristique]
    · simp [heuristique]
  constructor
  · intro same
    rcases runningMax_attained hydro.plafondHoraire (-1) (List.range nbHoursInWeek) with low | ⟨pdt, listed, top⟩
    · apply Or.inl
      intro pdt inWeek
      rw [← low, same]
      exact le_runningMax _ _ _ (List.mem_range.mpr inWeek)
    · have above (other : Nat) (inWeek : other < nbHoursInWeek) :
          hydro.contrainteDePmaxHydrauliqueHoraireRef other ≤ hydro.plafondHoraire pdt := by
        rw [← top, same]
        exact le_runningMax _ _ _ (List.mem_range.mpr inWeek)
      have inWeek := List.mem_range.mp listed
      exact .inr ⟨pdt, inWeek, fun other bound => (above other bound).trans (cut pdt),
        (uncut pdt).mp (above pdt inWeek)⟩
  · intro kept
    apply le_antisymm
    · rw [runningMax_le_iff]
      exact ⟨start_le_runningMax _ _ _, fun pdt listed => (cut pdt).trans (le_runningMax _ _ _ listed)⟩
    · rw [runningMax_le_iff]
      refine ⟨start_le_runningMax _ _ _, ?_⟩
      intro other listed
      rcases kept with low | ⟨pdt, inWeek, greatest, free⟩
      · exact (low other (List.mem_range.mp listed)).trans (start_le_runningMax _ _ _)
      · calc hydro.contrainteDePmaxHydrauliqueHoraireRef other
            ≤ hydro.contrainteDePmaxHydrauliqueHoraireRef pdt := greatest other (List.mem_range.mp listed)
          _ ≤ hydro.plafondHoraire pdt := (uncut pdt).mpr free
          _ ≤ _ := le_runningMax _ _ _ (List.mem_range.mpr inWeek)

variable {lissage : TypeDeLissageHydraulique}

theorem maxDesPmaxHydrauliques_twice (present : hydro.presenceDHydrauliqueModulable = true) :
    ((hydro.preparer range).preparer range).maxDesPmaxHydrauliques =
      runningMax hydro.plafondHoraire (-1) (List.range nbHoursInWeek) := by
  obtain ⟨presence, -⟩ := hydro.preparer_settings range
  rw [preparer_maxDesPmaxHydrauliques, if_pos (presence.trans present)]
  apply runningMax_congr
  intro pdt listed
  exact hydro.preparer_contrainteDePmaxHydrauliqueHoraire range present (List.mem_range.mp listed)

theorem firstDayOnly_of_sameData
    (same : SameData range lissage (hydro.preparer range) ((hydro.preparer range).preparer range))
    (week : range = .sorWeek) : hydro.FirstDayOnly where
  cible := by
    intro targeted
    have sums := same.cible
    simp only [preparer_cntEnergieH2OParIntervalleOptimise, preparer_suitUneCible, targeted, if_true] at sums
    exact (parIntervalle_twice_iff range _).mp sums week
  energieMin := by
    intro bounded
    have sums := same.energieMin
    simp only [preparer_minEnergieHydrauParIntervalleOptimise, preparer_estBorne, bounded, if_true] at sums
    exact (parIntervalle_twice_iff range _).mp sums week
  energieMax := by
    intro bounded
    have sums := same.energieMax
    simp only [preparer_maxEnergieHydrauParIntervalleOptimise, preparer_estBorne, bounded, if_true] at sums
    exact (parIntervalle_twice_iff range _).mp sums week
  pompage := by
    have sums := same.pompage
    simp only [preparer_maxEnergiePompageParIntervalleOptimise] at sums
    exact (parIntervalle_twice_iff range _).mp sums week
  apports := by
    have sums := same.apports
    simp only [preparer_inflowForTimeInterval] at sums
    exact (parIntervalle_twice_iff range _).mp sums week

theorem sameData_of_firstDayOnly
    (renseigne : hydro.presenceDHydrauliqueModulable = true →
      hydro.contrainteDePmaxHydrauliqueHoraire = hydro.contrainteDePmaxHydrauliqueHoraireRef)
    (firstDay : range = .sorWeek → hydro.FirstDayOnly)
    (kept : lissage = .lissageHydrauliqueSurVariationMax →
      hydro.presenceDHydrauliqueModulable = true → hydro.GreatestPowerKept) :
    SameData range lissage (hydro.preparer range) ((hydro.preparer range).preparer range) where
  cible := by
    intro intervalle _
    simp only [preparer_cntEnergieH2OParIntervalleOptimise, preparer_suitUneCible]
    split_ifs with targeted
    · rw [parIntervalle_eq_self range fun week => (firstDay week).cible targeted,
        parIntervalle_eq_self range fun week => (firstDay week).cible targeted]
    · rfl
  energieMin := by
    intro intervalle _
    simp only [preparer_minEnergieHydrauParIntervalleOptimise, preparer_estBorne]
    split_ifs with bounded
    · rw [parIntervalle_eq_self range fun week => (firstDay week).energieMin bounded,
        parIntervalle_eq_self range fun week => (firstDay week).energieMin bounded]
    · rfl
  energieMax := by
    intro intervalle _
    simp only [preparer_maxEnergieHydrauParIntervalleOptimise, preparer_estBorne]
    split_ifs with bounded
    · rw [parIntervalle_eq_self range fun week => (firstDay week).energieMax bounded,
        parIntervalle_eq_self range fun week => (firstDay week).energieMax bounded]
    · rfl
  pompage := by
    intro intervalle _
    simp only [preparer_maxEnergiePompageParIntervalleOptimise]
    rw [parIntervalle_eq_self range fun week => (firstDay week).pompage,
      parIntervalle_eq_self range fun week => (firstDay week).pompage]
  apports := by
    intro intervalle _
    simp only [preparer_inflowForTimeInterval]
    rw [parIntervalle_eq_self range fun week => (firstDay week).apports,
      parIntervalle_eq_self range fun week => (firstDay week).apports]
  pmaxHoraire := by
    intro pdt inWeek
    obtain ⟨presence, -⟩ := hydro.preparer_settings range
    cases present : hydro.presenceDHydrauliqueModulable with
    | true =>
      rw [preparer_contrainteDePmaxHydrauliqueHoraire range _ (presence.trans present) inWeek,
        preparer_contrainteDePmaxHydrauliqueHoraire range _ present inWeek]
      exact FirstDayOnly.plafondHoraire_preparer firstDay inWeek
    | false =>
      rw [preparer_contrainteDePmaxHydrauliqueHoraire_of_absent range _ (presence.trans present)]
  variationMax := by
    intro smoothed
    cases present : hydro.presenceDHydrauliqueModulable with
    | true =>
      rw [maxDesPmaxHydrauliques_twice range present, preparer_maxDesPmaxHydrauliques, if_pos present,
        renseigne present]
      exact runningMax_plafond_iff.mpr (kept smoothed present)
    | false =>
      obtain ⟨presence, -⟩ := hydro.preparer_settings range
      simp [preparer_maxDesPmaxHydrauliques, presence, present]

variable (lissage) in
theorem sameData_preparer_iff
    (renseigne : hydro.presenceDHydrauliqueModulable = true →
      hydro.contrainteDePmaxHydrauliqueHoraire = hydro.contrainteDePmaxHydrauliqueHoraireRef) :
    SameData range lissage (hydro.preparer range) ((hydro.preparer range).preparer range) ↔
      (range = .sorWeek → hydro.FirstDayOnly) ∧
      (lissage = .lissageHydrauliqueSurVariationMax →
        hydro.presenceDHydrauliqueModulable = true → hydro.GreatestPowerKept) := by
  constructor
  · intro same
    refine ⟨firstDayOnly_of_sameData range same, ?_⟩
    intro smoothed present
    have greatest := same.variationMax smoothed
    rw [maxDesPmaxHydrauliques_twice range present, preparer_maxDesPmaxHydrauliques, if_pos present,
      renseigne present] at greatest
    exact runningMax_plafond_iff.mp greatest
  · rintro ⟨firstDay, kept⟩
    exact sameData_of_firstDayOnly range renseigne firstDay kept

end Twice

end EnergiesEtPuissancesHydrauliques

end Antares.Optimisation
