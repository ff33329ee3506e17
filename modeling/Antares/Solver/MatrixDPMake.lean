import Antares.Library.Bisection
import Antares.Solver.Cholesky

/-! The correction of a correlation matrix that is not semidefinite: a dichotomy between it and a valid matrix, with
the factorisation as the test.
-/

set_option autoImplicit false

namespace Antares.Solver

open Finset Library

/-- What `MatrixDPMake` returns and leaves. -/
structure MatrixDP (K : Type) where
  value : K
  B : Nat → Nat → K
  factorisation : Factorisation K

/-- The state of the dichotomy; `r` has no value before the first trial. -/
structure Dichotomy (K : Type) where
  B : Nat → Nat → K
  factorisation : Factorisation K
  rho : K
  top : K
  bot : K
  r : K

def dichotomie : Nat := 10

def maxLoopCount : Nat := 10

section
variable {K : Type}

/-- Two nested loops over the rows and over the first columns of each. -/
def fillRows (count : Nat → Nat) (value : Nat → Nat → K) (size : Nat) (B : Nat → Nat → K) : Nat → Nat → K :=
  (List.range size).foldl (fun B j => (List.range (count j)).foldl (fun B k => setEntry B j k (value j k)) B) B

variable [Field K] [LinearOrder K]

section
variable (cholesky : (Nat → Nat → K) → Nat → Factorisation K → Bool × Factorisation K) (A C : Nat → Nat → K) (size : Nat)
  (CIsIdentity : Bool)

/-- The entries of `B` below its diagonal for a share of `A`. -/
def shareOf (r : K) (B : Nat → Nat → K) : Nat → Nat → K :=
  if CIsIdentity then fillRows (fun j => j) (fun j k => A j k * r) size B
  else fillRows (fun j => j) (fun j k => A j k * r + C j k * (1 - r)) size B

variable (state : Dichotomy K)

attribute [local instance] Bisection.two_atLeastTwo in
/-- One trial in the middle of the bracket. -/
def dichotomyTurn : Dichotomy K :=
  let r := (state.top + state.bot) / 2
  let B := shareOf A C size CIsIdentity r state.B
  let (rejected, factorisation) := cholesky B size state.factorisation
  if rejected then { state with B, factorisation, r, top := r }
  else { state with B, factorisation, r, bot := r, rho := r }

def factorBest : MatrixDP K :=
  if state.r ≠ state.rho then
    let B := shareOf A C size CIsIdentity state.rho state.B
    ⟨state.rho, B, (cholesky B size state.factorisation).2⟩
  else ⟨state.rho, state.B, state.factorisation⟩

/-- Ten trials at a time, until one of them is good; `compteur` is the number of times that none was. -/
def dichotomyFrom (compteur : Nat) (state : Dichotomy K) : MatrixDP K :=
  let state := (dichotomyTurn cholesky A C size CIsIdentity)^[dichotomie] state
  if state.rho < 1 then factorBest cholesky A C size CIsIdentity state
  else if maxLoopCount < compteur + 1 then ⟨-1, state.B, state.factorisation⟩
  else dichotomyFrom (compteur + 1) state
termination_by maxLoopCount - compteur

/-- `MatrixDPMake` -/
def matrixDPMake (B : Nat → Nat → K) (start : Factorisation K) : MatrixDP K :=
  let (rejected, factorisation) := cholesky A size start
  if !rejected then ⟨1, fillRows (fun j => j + 1) A size B, factorisation⟩
  else
    let B := (List.range size).foldl (fun B j => setEntry B j j 1) B
    dichotomyFrom cholesky A C size CIsIdentity 0 ⟨B, factorisation, 1, 1, 0, 0⟩

end

end

section
variable {K : Type}

theorem fillRows_apply (count : Nat → Nat) (value : Nat → Nat → K) (size : Nat) (B : Nat → Nat → K) (row column : Nat) :
    fillRows count value size B row column =
      if row < size ∧ column < count row then value row column else B row column := by
  have inner (j bound : Nat) (B : Nat → Nat → K) : (List.range bound).foldl (fun B k => setEntry B j k (value j k)) B
      row column = if row = j ∧ column < bound then value j column else B row column := by
    induction bound with
    | zero => exact (if_neg (by omega)).symm
    | succ bound ih =>
      rw [List.range_succ, List.foldl_append, List.foldl_cons, List.foldl_nil, setEntry_apply, ih]
      by_cases last : row = j ∧ column = bound
      · obtain ⟨rfl, rfl⟩ := last
        rw [if_pos ⟨rfl, rfl⟩, if_pos ⟨rfl, Nat.lt_succ_self column⟩]
      · have same : (row = j ∧ column < bound + 1) ↔ row = j ∧ column < bound := by omega
        rw [if_neg last]
        simp only [same]
  unfold fillRows
  induction size with
  | zero => exact (if_neg (by omega)).symm
  | succ size ih =>
    rw [List.range_succ, List.foldl_append, List.foldl_cons, List.foldl_nil, inner, ih]
    by_cases last : row = size
    · subst last
      have outside : ¬ (row < row ∧ column < count row) := by omega
      rw [if_neg outside]
      simp only [true_and, Nat.lt_succ_self]
    · have same : (row < size + 1 ∧ column < count row) ↔ row < size ∧ column < count row := by omega
      rw [if_neg fun both => last both.1]
      simp only [same]

theorem unitDiagonal_apply [One K] (size : Nat) (B : Nat → Nat → K) (j : Nat) (inside : j < size) :
    (List.range size).foldl (fun B j => setEntry B j j 1) B j j = 1 := by
  induction size with
  | zero => exact absurd inside (Nat.not_lt_zero j)
  | succ size ih =>
    rw [List.range_succ, List.foldl_append, List.foldl_cons, List.foldl_nil, setEntry_apply]
    by_cases last : j = size
    · exact if_pos ⟨last, last⟩
    · rw [if_neg fun both => last both.1]
      exact ih (by omega)

end

def mirrored (M : Nat → Nat → ℝ) (i j : Nat) : ℝ := if j ≤ i then M i j else M j i

def FactorOf (size : Nat) (factorisation : Factorisation ℝ) (M : Nat → Nat → ℝ) : Prop :=
  matrixOf (lower factorisation.L) size * (matrixOf (lower factorisation.L) size).transpose = matrixOf M size

/-- A factorisation that decides which lower triangles are semidefinite, and factors them. -/
structure DecidesAndFactors (cholesky : (Nat → Nat → ℝ) → Nat → Factorisation ℝ → Bool × Factorisation ℝ) (size : Nat) :
    Prop where
  decides : ∀ M start, (∀ k < size, M k k = 1) →
    ((cholesky M size start).1 = false ↔ (matrixOf (mirrored M) size).PosSemidef)
  factors : ∀ M start, (∀ k < size, M k k = 1) → (cholesky M size start).1 = false →
    FactorOf size (cholesky M size start).2 (mirrored M)

/-- The matrix on the way from the valid one to the one that is corrected. -/
def blend (A target : Nat → Nat → ℝ) (r : ℝ) (i j : Nat) : ℝ := r * A i j + (1 - r) * target i j

def targetOf (C : Nat → Nat → ℝ) (CIsIdentity : Bool) (i j : Nat) : ℝ :=
  if CIsIdentity then if i = j then 1 else 0 else C i j

def LowerIs (size : Nat) (B M : Nat → Nat → ℝ) : Prop := ∀ j < size, ∀ k ≤ j, B j k = M j k

section
variable {A target : Nat → Nat → ℝ} {size : Nat}

theorem matrixOf_mirrored {B M : Nat → Nat → ℝ} (symmetric : ∀ i < size, ∀ j < size, M i j = M j i)
    (same : LowerIs size B M) : matrixOf (mirrored B) size = matrixOf M size := by
  ext i j
  change mirrored B i j = M i j
  unfold mirrored
  split_ifs with below
  · exact same i i.isLt j below
  · rw [symmetric i i.isLt j j.isLt]
    exact same j j.isLt i (by omega)

theorem quadratic_blend (r : ℝ) (rows : Finset Nat) (x : Nat → ℝ) : quadratic (blend A target r) rows x =
    r * quadratic A rows x + (1 - r) * quadratic target rows x := by
  rw [← quadratic_mul, ← quadratic_mul, ← quadratic_add]
  rfl

def Works (A target : Nat → Nat → ℝ) (size : Nat) (r : ℝ) : Prop := (matrixOf (blend A target r) size).PosSemidef

variable (symmetric : ∀ i < size, ∀ j < size, A i j = A j i) (other : ∀ i < size, ∀ j < size, target i j = target j i)
include symmetric other

theorem blend_symmetric (r : ℝ) (i : Nat) (inside : i < size) (j : Nat) (within : j < size) :
    blend A target r i j = blend A target r j i := by
  unfold blend
  rw [symmetric i inside j within, other i inside j within]

theorem works_iff (r : ℝ) : Works A target size r ↔ ∀ x, 0 ≤ r * quadratic A (range size) x +
    (1 - r) * quadratic target (range size) x := by
  unfold Works
  rw [posSemidef_matrixOf_iff (blend_symmetric symmetric other r)]
  exact forall_congr' fun x => by rw [quadratic_blend]

variable (valid : SemidefiniteOn target (range size))
include valid

theorem works_zero : Works A target size 0 := by
  rw [works_iff symmetric other]
  intro x
  rw [zero_mul, zero_add, sub_zero, one_mul]
  exact valid x

theorem works_downward (value smaller : ℝ) (nonneg : 0 ≤ smaller) (less : smaller ≤ value)
    (works : Works A target size value) : Works A target size smaller := by
  rcases nonneg.eq_or_lt with rfl | positive
  · exact works_zero symmetric other valid
  · rw [works_iff symmetric other] at works ⊢
    intro x
    have large := works x
    have zero := valid x
    have positive' : 0 < value := positive.trans_le less
    have mean : value * (smaller * quadratic A (range size) x + (1 - smaller) * quadratic target (range size) x) =
        smaller * (value * quadratic A (range size) x + (1 - value) * quadratic target (range size) x) +
          (value - smaller) * quadratic target (range size) x := by ring
    apply nonneg_of_mul_nonneg_right _ positive'
    rw [mean]
    exact add_nonneg (mul_nonneg nonneg large) (mul_nonneg (sub_nonneg.mpr less) zero)

theorem exists_largest : ∃ largest, IsGreatest {r | r ∈ Set.Icc 0 1 ∧ Works A target size r} largest := by
  have closed : IsClosed {r | Works A target size r} := by
    simp only [works_iff symmetric other, Set.ofPred_forall]
    apply isClosed_iInter
    intro x
    exact isClosed_le continuous_const (by fun_prop)
  have compact : IsCompact {r | r ∈ Set.Icc 0 1 ∧ Works A target size r} := isCompact_Icc.inter_right closed
  apply compact.exists_isGreatest
  exact ⟨0, Set.left_mem_Icc.mpr zero_le_one, works_zero symmetric other valid⟩

end

/-- What a corrected matrix is: it is between the two matrices, valid and factored, and hardly any larger share of the
given one is valid.
-/
structure Redresses (A target : Nat → Nat → ℝ) (size : Nat) (result : MatrixDP ℝ) : Prop where
  positive : 0 < result.value
  lt_one : result.value < 1
  works : Works A target size result.value
  lowerIs : LowerIs size result.B (blend A target result.value)
  factor : FactorOf size result.factorisation (blend A target result.value)
  nearLargest : ∃ largest, IsGreatest {r | r ∈ Set.Icc 0 1 ∧ Works A target size r} largest ∧ result.value ≤ largest ∧
    ∃ rounds ≤ maxLoopCount + 1, largest < result.value + (1 / 2) ^ (dichotomie * rounds) ∧
      (1 / 2) ^ (dichotomie * rounds) ≤ result.value

structure Searched (A target : Nat → Nat → ℝ) (size trials : Nat) (state : Dichotomy ℝ) : Prop where
  straddles : Straddles (Works A target size) state.bot state.top
  width : state.top - state.bot = (1 / 2) ^ trials
  top_le : state.top ≤ 1
  unit : ∀ j < size, state.B j j = 1
  found : state.rho = 1 ∧ state.bot = 0 ∨ state.rho = state.bot ∧ (1 / 2) ^ trials ≤ state.bot
  last : 0 < trials → state.r = state.bot → LowerIs size state.B (blend A target state.bot) ∧
    FactorOf size state.factorisation (blend A target state.bot)

section
variable {cholesky : (Nat → Nat → ℝ) → Nat → Factorisation ℝ → Bool × Factorisation ℝ} {A C : Nat → Nat → ℝ} {size : Nat}
  {CIsIdentity : Bool} (decides : DecidesAndFactors cholesky size)
  (symmetric : ∀ i < size, ∀ j < size, A i j = A j i) (unit : ∀ k < size, A k k = 1)

theorem shareOf_self (r : ℝ) (B : Nat → Nat → ℝ) (j : Nat) : shareOf A C size CIsIdentity r B j j = B j j := by
  have none : ¬ (j < size ∧ j < j) := fun both => lt_irrefl j both.2
  unfold shareOf
  split_ifs
  · rw [fillRows_apply, if_neg none]
  · rw [fillRows_apply, if_neg none]

variable (unit' : ∀ k < size, targetOf C CIsIdentity k k = 1)

include unit unit' in
theorem shareOf_lowerIs (r : ℝ) {B : Nat → Nat → ℝ} (diagonal : ∀ j < size, B j j = 1) :
    LowerIs size (shareOf A C size CIsIdentity r B) (blend A (targetOf C CIsIdentity) r) := by
  intro j inside k below
  rcases below.eq_or_lt with rfl | less
  · rw [shareOf_self, diagonal k inside, blend, unit k inside, unit' k inside]
    ring
  · unfold shareOf blend targetOf
    split_ifs with identity same
    · omega
    · rw [fillRows_apply, if_pos ⟨inside, less⟩]
      ring
    · rw [fillRows_apply, if_pos ⟨inside, less⟩]
      ring

variable (other : ∀ i < size, ∀ j < size, targetOf C CIsIdentity i j = targetOf C CIsIdentity j i)
include decides symmetric unit unit' other

theorem trial_spec (r : ℝ) {B : Nat → Nat → ℝ} (diagonal : ∀ j < size, B j j = 1) (start : Factorisation ℝ) :
    ((cholesky (shareOf A C size CIsIdentity r B) size start).1 = false ↔ Works A (targetOf C CIsIdentity) size r) ∧
      (Works A (targetOf C CIsIdentity) size r →
        FactorOf size (cholesky (shareOf A C size CIsIdentity r B) size start).2 (blend A (targetOf C CIsIdentity) r)) := by
  have lowerIs := @shareOf_lowerIs A C size CIsIdentity unit unit' r B diagonal
  have same := matrixOf_mirrored (blend_symmetric symmetric other r) lowerIs
  have diagonal' : ∀ k < size, shareOf A C size CIsIdentity r B k k = 1 := by
    intro k inside
    rw [shareOf_self]
    exact diagonal k inside
  have decided := decides.decides _ start diagonal'
  rw [same] at decided
  refine ⟨decided, fun works => ?_⟩
  have factors := decides.factors _ start diagonal' (decided.mpr works)
  unfold FactorOf at factors ⊢
  rwa [same] at factors

theorem Searched.turn {trials : Nat} {state : Dichotomy ℝ}
    (searched : Searched A (targetOf C CIsIdentity) size trials state) :
    Searched A (targetOf C CIsIdentity) size (trials + 1) (dichotomyTurn cholesky A C size CIsIdentity state) := by
  have width := searched.width
  have ordered := searched.straddles.ordered
  have half : (1 / 2 : ℝ) ^ (trials + 1) = (1 / 2) ^ trials / 2 := by rw [pow_succ]; ring
  obtain ⟨decided, factors⟩ := trial_spec decides symmetric unit unit' other ((state.top + state.bot) / 2) searched.unit
    state.factorisation
  have lowerIs :=
    @shareOf_lowerIs A C size CIsIdentity unit unit' ((state.top + state.bot) / 2) state.B searched.unit
  have diagonal (j : Nat) (inside : j < size) :
      shareOf A C size CIsIdentity ((state.top + state.bot) / 2) state.B j j = 1 := by
    rw [shareOf_self]
    exact searched.unit j inside
  have top_le := searched.top_le
  unfold dichotomyTurn
  dsimp only
  by_cases works : Works A (targetOf C CIsIdentity) size ((state.top + state.bot) / 2)
  · rw [decided.mpr works, if_neg Bool.false_ne_true]
    have positive : (0 : ℝ) < (1 / 2) ^ trials := by positivity
    constructor
    case straddles => exact searched.straddles.upper_half works
    case width =>
      dsimp only
      linarith
    case top_le => exact top_le
    case unit => exact diagonal
    case found =>
      refine .inr ⟨rfl, ?_⟩
      dsimp only
      rcases searched.found with ⟨_, zero⟩ | ⟨_, wide⟩
      · linarith
      · linarith
    case last => exact fun _ _ => ⟨lowerIs, factors works⟩
  · have rejected : (cholesky (shareOf A C size CIsIdentity ((state.top + state.bot) / 2) state.B) size
        state.factorisation).1 = true := by
      rw [← Bool.not_eq_false, decided]
      exact works
    rw [rejected, if_pos rfl]
    have positive : (0 : ℝ) < (1 / 2) ^ trials := by positivity
    constructor
    case straddles => exact searched.straddles.lower_half works
    case width =>
      dsimp only
      linarith
    case top_le =>
      dsimp only
      linarith
    case unit => exact diagonal
    case found =>
      refine searched.found.imp_right fun found => ⟨found.1, ?_⟩
      have wide := found.2
      dsimp only
      linarith
    case last =>
      intro _ same
      dsimp only at same
      linarith

theorem Searched.turns {trials : Nat} {state : Dichotomy ℝ}
    (searched : Searched A (targetOf C CIsIdentity) size trials state) (count : Nat) :
    Searched A (targetOf C CIsIdentity) size (trials + count)
      ((dichotomyTurn cholesky A C size CIsIdentity)^[count] state) := by
  induction count with
  | zero => exact searched
  | succ count ih =>
    rw [Function.iterate_succ_apply']
    exact ih.turn decides symmetric unit unit' other

variable (valid : SemidefiniteOn (targetOf C CIsIdentity) (range size))
include valid

theorem Searched.redresses {rounds : Nat} (within : rounds ≤ maxLoopCount + 1) (some_trial : 0 < dichotomie * rounds)
    {state : Dichotomy ℝ} (searched : Searched A (targetOf C CIsIdentity) size (dichotomie * rounds) state)
    (success : state.rho < 1) :
    Redresses A (targetOf C CIsIdentity) size (factorBest cholesky A C size CIsIdentity state) := by
  obtain ⟨rho, wide⟩ := searched.found.resolve_left fun failed => success.ne failed.1
  have positive : (0 : ℝ) < (1 / 2) ^ (dichotomie * rounds) := by positivity
  have works : Works A (targetOf C CIsIdentity) size state.rho := rho ▸ searched.straddles.bottom_works
  have width := searched.width
  have ordered := searched.straddles.ordered
  have downward := works_downward symmetric other valid
  have nearLargest : ∃ largest, IsGreatest {r | r ∈ Set.Icc 0 1 ∧ Works A (targetOf C CIsIdentity) size r} largest ∧
      state.rho ≤ largest ∧ ∃ rounds ≤ maxLoopCount + 1, largest < state.rho + (1 / 2) ^ (dichotomie * rounds) ∧
        (1 / 2) ^ (dichotomie * rounds) ≤ state.rho := by
    obtain ⟨largest, greatest⟩ := exists_largest symmetric other valid
    refine ⟨largest, greatest, greatest.2 ⟨⟨?_, success.le⟩, works⟩, rounds, within, ?_, ?_⟩
    · linarith
    · have below := searched.straddles.lt_top downward (by linarith) greatest.1.2
      linarith
    · rwa [rho]
  have share : 0 < state.rho := by linarith
  unfold factorBest
  by_cases best : state.r = state.rho
  · obtain ⟨lowerIs, factor⟩ := searched.last some_trial (best.trans rho)
    rw [← rho] at lowerIs factor
    rw [if_neg (not_not.mpr best)]
    exact ⟨share, success, works, lowerIs, factor, nearLargest⟩
  · rw [if_pos best]
    exact ⟨share, success, works, shareOf_lowerIs unit unit' state.rho searched.unit,
      (trial_spec decides symmetric unit unit' other state.rho searched.unit state.factorisation).2 works, nearLargest⟩

theorem dichotomyFrom_spec (left : Nat) {compteur : Nat} (rounds : compteur + left = maxLoopCount) {state : Dichotomy ℝ}
    (searched : Searched A (targetOf C CIsIdentity) size (dichotomie * compteur) state) :
    Redresses A (targetOf C CIsIdentity) size (dichotomyFrom cholesky A C size CIsIdentity compteur state) ∨
      (dichotomyFrom cholesky A C size CIsIdentity compteur state).value = -1 ∧
        ∀ r, (1 / 2) ^ (dichotomie * (maxLoopCount + 1)) ≤ r → ¬ Works A (targetOf C CIsIdentity) size r := by
  induction left generalizing compteur state with
  | zero =>
    have after := searched.turns decides symmetric unit unit' other dichotomie
    rw [← Nat.mul_succ, show compteur = maxLoopCount from rounds] at after
    rw [dichotomyFrom]
    split_ifs with success last
    · left
      exact after.redresses decides symmetric unit unit' other valid le_rfl (by decide) success
    · refine .inr ⟨rfl, fun r above works => ?_⟩
      have ordered := after.straddles.ordered
      have top_le := after.top_le
      have width := after.width
      obtain ⟨_, bot⟩ := after.found.resolve_right fun found => success (by rw [found.1]; linarith)
      rw [bot] at ordered width
      have below := after.straddles.lt_top (works_downward symmetric other valid) ordered.le works
      rw [sub_zero] at width
      exact (above.trans_lt below).ne width.symm
    · omega
  | succ left ih =>
    have after := searched.turns decides symmetric unit unit' other dichotomie
    rw [← Nat.mul_succ] at after
    rw [dichotomyFrom]
    split_ifs with success last
    · left
      exact after.redresses decides symmetric unit unit' other valid (by omega)
        (Nat.mul_pos (by decide) (Nat.succ_pos compteur)) success
    · omega
    · exact ih (by omega) after

end

section
variable {C : Nat → Nat → ℝ} {size : Nat} {CIsIdentity : Bool}
  (valid : CIsIdentity = false → (matrixOf C size).PosDef ∧ ∀ k < size, C k k = 1)
include valid

theorem targetOf_unit (k : Nat) (inside : k < size) : targetOf C CIsIdentity k k = 1 := by
  unfold targetOf
  cases CIsIdentity with
  | true => simp only [if_true]
  | false => exact (valid rfl).2 k inside

theorem targetOf_symmetric (i : Nat) (inside : i < size) (j : Nat) (within : j < size) :
    targetOf C CIsIdentity i j = targetOf C CIsIdentity j i := by
  unfold targetOf
  cases CIsIdentity with
  | true => simp only [if_true, eq_comm]
  | false => exact (valid rfl).1.isHermitian.apply ⟨j, within⟩ ⟨i, inside⟩

theorem targetOf_semidefinite : SemidefiniteOn (targetOf C CIsIdentity) (range size) := by
  have symmetric := targetOf_symmetric valid
  cases CIsIdentity with
  | true =>
    intro x
    have squares : quadratic (targetOf C true) (range size) x = ∑ i ∈ range size, x i ^ 2 := by
      apply sum_congr rfl
      intro i inside
      simp only [targetOf, if_true, mul_ite, mul_one, mul_zero, ite_mul, zero_mul, sum_ite_eq, inside, pow_two]
    rw [squares]
    exact sum_nonneg fun i _ => sq_nonneg _
  | false => exact (posSemidef_matrixOf_iff symmetric).mp (valid rfl).1.posSemidef

end

/-- With a factorisation that decides, a semidefinite matrix is kept, and any other one is corrected by a share that is
within the last step of the largest one; it is given up only if no share down to the last trial would do.
-/
theorem matrixDPMake_spec {cholesky : (Nat → Nat → ℝ) → Nat → Factorisation ℝ → Bool × Factorisation ℝ} {size : Nat}
    (decides : DecidesAndFactors cholesky size) {A C : Nat → Nat → ℝ} (symmetric : ∀ i < size, ∀ j < size, A i j = A j i)
    (unit : ∀ k < size, A k k = 1) {CIsIdentity : Bool}
    (valid : CIsIdentity = false → (matrixOf C size).PosDef ∧ ∀ k < size, C k k = 1) (B : Nat → Nat → ℝ)
    (start : Factorisation ℝ) :
    let result := matrixDPMake cholesky A C size CIsIdentity B start
    ((matrixOf A size).PosSemidef →
      result.value = 1 ∧ LowerIs size result.B A ∧ FactorOf size result.factorisation A) ∧
    (¬ (matrixOf A size).PosSemidef → Redresses A (targetOf C CIsIdentity) size result ∨
      result.value = -1 ∧ ∀ r, (1 / 2) ^ 110 ≤ r → ¬ Works A (targetOf C CIsIdentity) size r) := by
  have same : matrixOf (mirrored A) size = matrixOf A size := matrixOf_mirrored symmetric fun _ _ _ _ => rfl
  have decided := decides.decides A start unit
  rw [same] at decided
  unfold matrixDPMake
  dsimp only
  constructor
  · intro semidefinite
    have accepted := decided.mpr semidefinite
    have factor := decides.factors A start unit accepted
    unfold FactorOf at factor
    rw [same] at factor
    rw [accepted, if_pos (show (!false) = true from rfl)]
    refine ⟨rfl, fun j inside k below => ?_, factor⟩
    dsimp only
    rw [fillRows_apply, if_pos ⟨inside, Nat.lt_succ_of_le below⟩]
  · intro indefinite
    have rejected : (cholesky A size start).1 = true := by
      rw [← Bool.not_eq_false, decided]
      exact indefinite
    rw [rejected, if_neg (by decide)]
    have other := targetOf_symmetric valid
    have semidefinite := targetOf_semidefinite valid
    have top_fails : ¬ Works A (targetOf C CIsIdentity) size 1 := by
      intro works
      apply indefinite
      have blended : blend A (targetOf C CIsIdentity) 1 = A := by
        funext i j
        rw [blend, one_mul, sub_self, zero_mul, add_zero]
      unfold Works at works
      rwa [blended] at works
    apply dichotomyFrom_spec decides symmetric unit (targetOf_unit valid) other semidefinite maxLoopCount (Nat.zero_add _)
    constructor
    · exact ⟨works_zero symmetric other semidefinite, top_fails, zero_lt_one⟩
    · norm_num
    · exact le_rfl
    · exact unitDiagonal_apply size B
    · exact .inl ⟨rfl, rfl⟩
    · exact fun some_trial => absurd some_trial (lt_irrefl 0)

section
variable {A : Nat → Nat → ℝ}

theorem detected_of_two (unit : ∀ k < 2, A k k = 1) (indefinite : ¬ SemidefiniteOn A (range 2)) : Detected A 2 := by
  have alone (k : Nat) (inside : k < 2) : DefiniteOn A (insert k ∅) := by
    rintro x ⟨i, listed, used⟩
    rw [insert_empty_eq, mem_singleton] at listed
    subst listed
    unfold quadratic
    rw [insert_empty_eq, sum_singleton, sum_singleton, unit i inside, mul_one]
    exact mul_self_pos.mpr used
  have first : pivotsBefore A 1 = insert 0 ∅ := pivotsBefore_succ_of_definite (alone 0 (by decide))
  refine ⟨1, by decide, 0, by decide, alone 1 (by decide), ?_⟩
  have rows : insert 1 (insert 0 ∅) = range 2 := by decide
  rw [first, rows]
  exact indefinite

theorem mirrored_symmetric (M : Nat → Nat → ℝ) (i j : Nat) : mirrored M i j = mirrored M j i := by
  unfold mirrored
  rcases Nat.lt_trichotomy i j with before | rfl | after
  · rw [if_neg before.not_ge, if_pos before.le]
  · rfl
  · rw [if_pos after.le, if_neg after.not_ge]

theorem cholesky_decidesAndFactors : DecidesAndFactors (cholesky 0 Real.sqrt) 2 := by
  have runs (M : Nat → Nat → ℝ) (start : Factorisation ℝ) :
      cholesky 0 Real.sqrt M 2 start = cholesky 0 Real.sqrt (mirrored M) 2 start :=
    cholesky_congr 0 Real.sqrt (fun k _ i below => (if_pos below).symm) start
  have symmetric (M : Nat → Nat → ℝ) (k : Nat) (_ : k < 2) (m : Nat) (_ : m < 2) := mirrored_symmetric M k m
  have unit' {M : Nat → Nat → ℝ} (unit : ∀ k < 2, M k k = 1) (k : Nat) (inside : k < 2) : mirrored M k k = 1 :=
    (if_pos le_rfl).trans (unit k inside)
  have ends (M : Nat → Nat → ℝ) (start : Factorisation ℝ) (unit : ∀ k < 2, M k k = 1) :=
    cholesky_ends realRoot (symmetric M) (fun k inside => (unit' unit k inside).symm ▸ zero_le_one) start
  have semidefinite {M : Nat → Nat → ℝ} (unit : ∀ k < 2, M k k = 1) (undetected : ¬ Detected (mirrored M) 2) :
      SemidefiniteOn (mirrored M) (range 2) := by
    by_contra indefinite
    exact undetected (detected_of_two (unit' unit) indefinite)
  constructor
  · intro M start unit
    rw [runs, posSemidef_matrixOf_iff (symmetric M)]
    rcases ends M start unit with ⟨rejected, detected⟩ | ⟨accepted, columns⟩
    · rw [rejected]
      exact iff_of_false Bool.noConfusion detected.not_semidefinite
    · exact iff_of_true accepted (semidefinite unit (columns.not_detected (symmetric M)))
  · intro M start unit accepted
    rw [runs] at accepted ⊢
    rcases ends M start unit with ⟨rejected, _⟩ | ⟨_, columns⟩
    · rw [rejected] at accepted
      cases accepted
    · ext i j
      rw [Matrix.mul_apply]
      exact (Finset.sum_range fun l => lower _ i l * lower _ j l).symm.trans (columns.products_eq (symmetric M)
        (semidefinite unit (columns.not_detected (symmetric M))) i.isLt j.isLt)

attribute [local instance] Bisection.two_atLeastTwo in
/-- More than the same -/
def twiceCorrelated (i j : Nat) : ℝ := if i = j then 1 else 2

theorem twiceCorrelated_matrixDPMake :
    let result := matrixDPMake (cholesky 0 Real.sqrt) twiceCorrelated (fun _ _ => 0) 2 true (fun _ _ => 0)
      ⟨fun _ _ => 0, fun _ => 0⟩
    ((matrixOf twiceCorrelated 2).PosSemidef → result.value = 1 ∧ LowerIs 2 result.B twiceCorrelated ∧
      FactorOf 2 result.factorisation twiceCorrelated) ∧
    (¬ (matrixOf twiceCorrelated 2).PosSemidef →
      Redresses twiceCorrelated (targetOf (fun _ _ => 0) true) 2 result ∨
        result.value = -1 ∧ ∀ r, (1 / 2) ^ 110 ≤ r → ¬ Works twiceCorrelated (targetOf (fun _ _ => 0) true) 2 r) := by
  apply matrixDPMake_spec cholesky_decidesAndFactors
  · intro i _ j _
    simp only [twiceCorrelated, eq_comm]
  · exact fun k _ => if_pos rfl
  · exact Bool.noConfusion

end

end Antares.Solver
