import Antares.AdequacyPatch.WeekProblems
import Antares.Optimisation.WeeklyVariables

/-! The second step of local matching caps the unsupplied energy of the areas inside the patch
by that of the first step. When a solution of the first step survives in the problems of the
second one, over the data that the first step had.
-/

set_option autoImplicit false

namespace Antares.AdequacyPatch

open Optimisation Library

/-- What the solver returns for each interval of the two optimisations of the first step, and
the auxiliary problems of the accurate heuristic, which may have no solution. -/
structure Solutions where
  premiere : Nat → Variable → Rat
  deuxieme : Nat → Variable → Rat
  auxiliaire : Nat → Option (Nat → Rat)

def WeekSettings.solutionFinale (settings : WeekSettings) (solutions : Solutions) : Nat → Variable → Rat :=
  if settings.deuxOptimisations then solutions.deuxieme else solutions.premiere

namespace Week

variable {settings : WeekSettings} (week : Week settings) (solutions : Solutions)

def valeurHoraire (parIntervalle : Nat → Variable → Rat) (variable_ : Int → Variable) (pdtHebdo : Nat) : Rat :=
  parIntervalle (pdtHebdo / week.problem.pas) (variable_ (pdtHebdo % week.problem.pas : Nat))

def premiersPaliers (palier : Nat) : PalierThermique := (week.paliers palier).preparer settings.ucMode

def deuxiemesPaliers (palier : Nat) : PalierThermique :=
  (week.premiersPaliers palier).apresUnPas settings.ucMode settings.expansion {
    productionThermique := week.valeurHoraire solutions.premiere fun pdt => .dispatchableProduction pdt palier
    nombreDeGroupesEnMarche := week.valeurHoraire solutions.premiere fun pdt => .numberOfDispatchableUnits pdt palier
    auxiliaire := solutions.auxiliaire palier }

/-- `ValeursHorairesDENS` -/
def dens (pays pdtHebdo : Nat) : Rat :=
  if settings.inside pays then
    week.valeurHoraire (settings.solutionFinale solutions) (fun pdt => .positiveUnsuppliedEnergy pdt pays) pdtHebdo
  else 0

variable (adequacyFirstStep : Bool) (optimizationNumber : OptimizationNumber)

def passage : Passage where
  adequacyFirstStep := adequacyFirstStep
  optimizationNumber := optimizationNumber
  paliers := match optimizationNumber with
    | .premiereOptimisation => week.premiersPaliers
    | .deuxiemeOptimisation => week.deuxiemesPaliers solutions
  valeursHorairesDENS := week.dens solutions

def Solves (intervalle : Nat)
    (point : Variable → Rat) : Prop :=
  (week.problemeDeLIntervalle (week.passage solutions adequacyFirstStep optimizationNumber) intervalle).Feasible point

structure FirstStepSolved : Prop where
  premiere : ∀ intervalle < week.problem.range.nbIntervallesOptimises,
    week.Solves solutions true .premiereOptimisation intervalle (solutions.premiere intervalle)
  deuxieme : settings.deuxOptimisations = true → ∀ intervalle < week.problem.range.nbIntervallesOptimises,
    week.Solves solutions true .deuxiemeOptimisation intervalle (solutions.deuxieme intervalle)

structure SecondStepFeasible : Prop where
  premiere : ∀ intervalle < week.problem.range.nbIntervallesOptimises,
    ∃ point, week.Solves solutions false .premiereOptimisation intervalle point
  deuxieme : settings.deuxOptimisations = true → ∀ intervalle < week.problem.range.nbIntervallesOptimises,
    week.Solves solutions false .deuxiemeOptimisation intervalle (settings.solutionFinale solutions intervalle)

def CapFeasible : Prop := ∀ solutions, week.FirstStepSolved solutions → week.SecondStepFeasible solutions

section SecondStep

theorem setNTCbounds_secondStep {status : NtcSetToZeroStatusAdqPatchStep1} {direct indirect : Option Rat}
    (direct_nonneg : ∀ capacity ∈ direct, 0 ≤ capacity) (indirect_nonneg : ∀ capacity ∈ indirect, 0 ≤ capacity)
    {flow : Rat} (within : (setNTCbounds true status direct indirect).Contains flow) :
    (setNTCbounds false status direct indirect).Contains flow := by
  have zero_le : ∀ capacity ∈ direct, flow ≤ 0 → flow ≤ capacity := fun capacity listed below =>
    below.trans (direct_nonneg capacity listed)
  have le_zero : ∀ capacity ∈ indirect.map fun capacity => -capacity, 0 ≤ flow → capacity ≤ flow := by
    intro capacity listed above
    obtain ⟨given, present, rfl⟩ := Option.mem_map.mp listed
    exact (neg_nonpos.mpr (indirect_nonneg given present)).trans above
  unfold setNTCbounds at *
  cases status with
  | leaveLocalValues => exact within
  | setToZero =>
    exact ⟨fun capacity listed => le_zero capacity listed (within.1 0 rfl),
      fun capacity listed => zero_le capacity listed (within.2 0 rfl)⟩
  | setOriginExtremityToZero =>
    exact ⟨within.1, fun capacity listed => zero_le capacity listed (within.2 0 rfl)⟩
  | setExtremityOriginToZero =>
    exact ⟨fun capacity listed => le_zero capacity listed (within.1 0 rfl), within.2⟩

variable {solutions} {optimizationNumber : OptimizationNumber} {intervalle : Nat} {point : Variable → Rat}

variable {week} in
theorem Solves.secondStep (solved : week.Solves solutions true optimizationNumber intervalle point)
    (capped : ∀ pdt < week.problem.pas, ∀ pays < settings.nombreDePays, settings.inside pays = true →
      point (.positiveUnsuppliedEnergy pdt pays) ≤ week.dens solutions pays (intervalle * week.problem.pas + pdt)) :
    week.Solves solutions false optimizationNumber intervalle point := by
  unfold Solves at *
  refine solved.loosen rfl rfl rfl ?_ ?_
  · intro column listed within
    cases column with
    | ntcDirect pdt interco =>
      exact setNTCbounds_secondStep (week.ntcDirect_nonneg interco _) (week.ntcIndirect_nonneg interco _) within
    | positiveUnsuppliedEnergy pdt pays =>
      obtain ⟨hour, inRange, rfl⟩ := week.problem.hour_of_mem listed rfl
      have bound := week.nombreDePays_eq ▸ week.problem.pays_lt_of_mem listed
      obtain ⟨nonneg, below, -⟩ := (week.bornesDeLaDefaillancePositive_contains _).mp within
      exact (week.bornesDeLaDefaillancePositive_contains _).mpr
        ⟨nonneg, below, fun _ inside => capped hour inRange pays bound inside⟩
    | _ => exact within
  · intro row _
    apply Sense.looser_of_eq
    cases row.label <;> rfl

theorem dens_finale {pays pdt : Nat} (inside : settings.inside pays = true) (inRange : pdt < week.problem.pas) :
    week.dens solutions pays (intervalle * week.problem.pas + pdt) =
      settings.solutionFinale solutions intervalle (.positiveUnsuppliedEnergy pdt pays) := by
  unfold dens valeurHoraire
  rw [if_pos inside, Nat.add_comm, Nat.add_mul_div_right _ _ (Nat.zero_lt_of_lt inRange),
    Nat.div_eq_of_lt inRange, Nat.zero_add, Nat.add_mul_mod_self_right, Nat.mod_eq_of_lt inRange]

variable {week} in
theorem Solves.finale
    (solved : week.Solves solutions true optimizationNumber intervalle
      (settings.solutionFinale solutions intervalle)) :
    week.Solves solutions false optimizationNumber intervalle (settings.solutionFinale solutions intervalle) := by
  apply solved.secondStep
  intro pdt inRange pays _ inside
  rw [week.dens_finale inside inRange]

end SecondStep

section FastHeuristic

theorem deuxiemesPaliers_fast (fast : settings.ucMode = .ucHeuristicFast) (palier : Nat) :
    (∀ pdt, (week.premiersPaliers palier).puissanceMin pdt ≤
      (week.deuxiemesPaliers solutions palier).puissanceMin pdt) ∧
    (week.deuxiemesPaliers solutions palier).puissanceDisponible = (week.premiersPaliers palier).puissanceDisponible ∧
    (week.deuxiemesPaliers solutions palier).nombreMinDeGroupesEnMarche =
      (week.premiersPaliers palier).nombreMinDeGroupesEnMarche ∧
    (week.deuxiemesPaliers solutions palier).nombreMaxDeGroupesEnMarche =
      (week.premiersPaliers palier).nombreMaxDeGroupesEnMarche := by
  have bounded (pdt : Nat) : (week.premiersPaliers palier).puissanceMin pdt ≤
      (week.premiersPaliers palier).puissanceDisponible pdt := by
    unfold premiersPaliers
    rw [PalierThermique.preparer_puissanceMin, PalierThermique.preparer_puissanceDisponible]
    exact min_le_right _ _
  unfold deuxiemesPaliers PalierThermique.apresUnPas PalierThermique.runThermalHeuristic
  rw [fast]
  cases settings.expansion with
  | true => exact ⟨fun pdt => le_rfl, rfl, rfl, rfl⟩
  | false =>
    obtain ⟨-, -, nombreMin, nombreMax⟩ := (week.premiersPaliers palier).calculerLesPmin_frame
      (week.valeurHoraire solutions.premiere fun pdt => .dispatchableProduction pdt palier)
    exact ⟨PalierThermique.le_calculerLesPmin _ bounded, PalierThermique.calculerLesPmin_puissanceDisponible _,
      nombreMin, nombreMax⟩

theorem reserveComptee_eq_zero (none_ : settings.yaDeLaReserveJmoins1 = false)
    (optimizationNumber : OptimizationNumber) (pays pdtHebdo : Nat) :
    settings.reserveComptee optimizationNumber pays pdtHebdo = 0 := by
  unfold WeekSettings.reserveComptee
  rw [none_]
  rfl

theorem secondMembreDeLaChargeFictive_mono (first second : Passage)
    (lower : ∀ palier pdt, (second.paliers palier).puissanceMin pdt ≤ (first.paliers palier).puissanceMin pdt)
    (pays pdtHebdo : Nat) :
    week.secondMembreDeLaChargeFictive first pays pdtHebdo ≤
      week.secondMembreDeLaChargeFictive second pays pdtHebdo := by
  have sums : week.sommeDesPminThermiques second pays pdtHebdo ≤
      week.sommeDesPminThermiques first pays pdtHebdo :=
    List.sum_le_sum fun index _ => lower _ pdtHebdo
  unfold secondMembreDeLaChargeFictive
  apply sub_le_sub_left
  split_ifs
  · exact le_rfl
  · exact sums

variable {solutions} {intervalle : Nat} {point : Variable → Rat}

variable {week} in
theorem Solves.premiereOptimisation (fast : settings.ucMode = .ucHeuristicFast)
    (none_ : settings.yaDeLaReserveJmoins1 = false)
    (solved : week.Solves solutions false .deuxiemeOptimisation intervalle point) :
    week.Solves solutions false .premiereOptimisation intervalle point := by
  -- the fast heuristic raises the minimum powers only, so its bounds and rows are the tighter ones
  have paliers := week.deuxiemesPaliers_fast solutions fast
  have reserve := reserveComptee_eq_zero none_
  unfold Solves at *
  refine solved.loosen rfl rfl rfl ?_ ?_
  · intro column _ within
    cases column with
    | dispatchableProduction pdt palier =>
      obtain ⟨lower, disponible, -, -⟩ := paliers palier
      constructor
      · intro pmin same
        obtain rfl := Option.some.inj same
        exact (lower _).trans (within.1 _ rfl)
      · intro pmax same
        obtain rfl := Option.some.inj same
        have above := within.2 _ rfl
        rwa [show (week.passage solutions false .deuxiemeOptimisation).paliers = week.deuxiemesPaliers solutions from
          rfl, disponible] at above
    | positiveUnsuppliedEnergy pdt pays =>
      obtain ⟨nonneg, below, cap⟩ := (week.bornesDeLaDefaillancePositive_contains _).mp within
      apply (week.bornesDeLaDefaillancePositive_contains _).mpr
      refine ⟨nonneg, ?_, cap⟩
      unfold xmaxDeLaDefaillance at *
      rwa [reserve] at below ⊢
    | numberOfDispatchableUnits pdt palier =>
      obtain ⟨-, -, nombreMin, nombreMax⟩ := paliers palier
      simpa only [problemeDeLIntervalle, bornes, passage, nombreMin, nombreMax] using within
    | numberBreakingDownDispatchableUnits pdt palier =>
      obtain ⟨-, -, -, nombreMax⟩ := paliers palier
      simpa only [problemeDeLIntervalle, bornes, groupesPerdus, passage, nombreMax] using within
    | _ => exact within
  · intro row listed
    obtain ⟨ligne, emise, rfl⟩ := List.mem_map.mp listed
    have genre := week.problem.construireLaMatriceDesContraintes_sensDuGenre ligne emise
    unfold Ligne.SensDuGenre at genre
    dsimp only
    generalize ligne.contrainte = contrainte at genre ⊢
    cases contrainte with
    | areaBalance pdt pays =>
      apply Sense.looser_of_eq
      simp only [problemeDeLIntervalle, secondMembre, reserve]
    | fictitiousLoad pdt pays =>
      rw [genre .le rfl]
      exact week.secondMembreDeLaChargeFictive_mono (week.passage solutions false .deuxiemeOptimisation)
        (week.passage solutions false .premiereOptimisation) (fun palier => (paliers palier).1) pays _
    | minDownTime pdt palier =>
      obtain ⟨-, -, -, nombreMax⟩ := paliers palier
      apply Sense.looser_of_eq
      simp only [problemeDeLIntervalle, secondMembre, secondMembreDeLaDureeMinDArret, passage, nombreMax]
    | _ => exact Sense.looser_of_eq _ rfl

end FastHeuristic

end Week

/-- A week of these settings is optimised once, or has no area to protect, or is left by the fast
heuristic with a final solution for loads without a reserve. -/
def WeekSettings.CapIsSafe (settings : WeekSettings) : Prop :=
  settings.deuxOptimisations = false ∨ (∀ pays < settings.nombreDePays, settings.inside pays = false) ∨
    settings.ucMode = .ucHeuristicFast ∧ settings.yaDeLaReserveJmoins1 = false

namespace Week

variable {settings : WeekSettings} (week : Week settings)

theorem capFeasible_of_capIsSafe (safe : settings.CapIsSafe) : week.CapFeasible := by
  intro solutions solved
  have second (twice : settings.deuxOptimisations = true) (intervalle : Nat)
      (bound : intervalle < week.problem.range.nbIntervallesOptimises) :
      week.Solves solutions false .deuxiemeOptimisation intervalle
        (settings.solutionFinale solutions intervalle) := by
    apply Solves.finale
    unfold WeekSettings.solutionFinale
    rw [if_pos twice]
    exact solved.deuxieme twice intervalle bound
  refine ⟨?_, second⟩
  intro intervalle bound
  rcases safe with once | outside | ⟨fast, none_⟩
  · -- the only solution of the first step is the one that the cap comes from
    refine ⟨settings.solutionFinale solutions intervalle, ?_⟩
    apply Solves.finale
    unfold WeekSettings.solutionFinale
    rw [if_neg (by simp [once])]
    exact solved.premiere intervalle bound
  · refine ⟨solutions.premiere intervalle, ?_⟩
    apply (solved.premiere intervalle bound).secondStep
    intro pdt _ pays inStudy inside
    rw [outside pays inStudy] at inside
    cases inside
  · cases twice : settings.deuxOptimisations with
    | false =>
      refine ⟨settings.solutionFinale solutions intervalle, ?_⟩
      apply Solves.finale
      unfold WeekSettings.solutionFinale
      rw [if_neg (by simp [twice])]
      exact solved.premiere intervalle bound
    | true => exact ⟨_, (second twice intervalle bound).premiereOptimisation fast none_⟩

end Week

end Antares.AdequacyPatch
