import Mathlib.Algebra.BigOperators.Ring.Finset
import Mathlib.Algebra.BigOperators.Intervals
import Mathlib.Algebra.Order.BigOperators.Group.Finset
import Mathlib.Tactic.Linarith

/-! Units that cost something for each hour they run and for each time they are switched on: which of
them should be kept through a gap between two hours that need them.
-/

set_option autoImplicit false

namespace Antares.Library

namespace SwitchedUnit

section
variable {R : Type} [CommRing R] (hold start : R)

def stepCost (before now : Bool) : R := (if now then hold else 0) + (if now && !before then start else 0)

variable (on : ℕ → Bool)

/-- What `n` hours cost after hour `h`. -/
def cost (h n : ℕ) : R := ∑ i ∈ Finset.range n, stepCost hold start (on (h + i)) (on (h + i + 1))

theorem cost_zero (h : ℕ) : cost hold start on h 0 = 0 := rfl

theorem cost_succ (h n : ℕ) :
    cost hold start on h (n + 1) = stepCost hold start (on h) (on (h + 1)) + cost hold start on (h + 1) n := by
  unfold cost
  rw [Finset.sum_range_succ', add_comm]
  congr 1
  apply Finset.sum_congr rfl
  intro i _
  congr 2 <;> omega

end

section
variable (must may : ℕ → Bool)

/-- An hour that needs the unit comes `k + 1` hours after hour `h`, and the unit may run until then. -/
def Ahead (n h k : ℕ) : Prop := k < n ∧ must (h + k + 1) = true ∧ ∀ j < k, may (h + j + 1) = true

variable {must may}

theorem ahead_zero {n h : ℕ} (needed : must (h + 1) = true) : Ahead must may (n + 1) h 0 :=
  ⟨Nat.succ_pos n, needed, fun j less => absurd less (Nat.not_lt_zero j)⟩

theorem ahead_succ_iff {n h k : ℕ} :
    Ahead must may (n + 1) h (k + 1) ↔ may (h + 1) = true ∧ Ahead must may n (h + 1) k := by
  unfold Ahead
  constructor
  · rintro ⟨inside, needed, free⟩
    refine ⟨free 0 (Nat.succ_pos k), Nat.lt_of_succ_lt_succ inside, ?_, fun j less => ?_⟩
    · rwa [Nat.add_assoc h 1 k, Nat.add_comm 1 k]
    · rw [Nat.add_assoc h 1 j, Nat.add_comm 1 j]
      exact free (j + 1) (Nat.succ_lt_succ less)
  · rintro ⟨first, inside, needed, free⟩
    refine ⟨Nat.succ_lt_succ inside, ?_, fun j less => ?_⟩
    · rwa [Nat.add_assoc h 1 k, Nat.add_comm 1 k] at needed
    · cases j with
      | zero => exact first
      | succ j =>
        have later := free j (Nat.lt_of_succ_lt_succ less)
        rwa [Nat.add_assoc h 1 j, Nat.add_comm 1 j] at later

end

section
variable {R : Type} [CommRing R] [LinearOrder R] (must may : ℕ → Bool) (hold start : R)

/-- What it saves to run before an hour, of which the saving after it is known. -/
def worthBefore (needed free : Bool) (saved : R) : R :=
  if needed then start else if free then max 0 (saved - hold) else 0

/-- What it saves later to run in hour `h`, when `n` hours follow. -/
def worth : ℕ → ℕ → R
  | 0, _ => 0
  | n + 1, h => worthBefore hold start (must (h + 1)) (may (h + 1)) (worth n (h + 1))

/-- The least cost of the hours after hour `h` for a unit that is off. -/
def least : ℕ → ℕ → R
  | 0, _ => 0
  | n + 1, h => (if must (h + 1) then hold + start - worth must may hold start n (h + 1) else 0) + least n (h + 1)

def credit (on : Bool) (saved : R) : R := if on then saved else 0

theorem worth_succ (n h : ℕ) : worth must may hold start (n + 1) h =
    worthBefore hold start (must (h + 1)) (may (h + 1)) (worth must may hold start n (h + 1)) := rfl

theorem least_succ (n h : ℕ) : least must may hold start (n + 1) h =
    (if must (h + 1) then hold + start - worth must may hold start n (h + 1) else 0) +
      least must may hold start n (h + 1) := rfl

variable {hold start}

variable [IsStrictOrderedRing R]

theorem worth_le (cheap : 0 ≤ hold) (positive : 0 ≤ start) (n h : ℕ) : worth must may hold start n h ≤ start := by
  induction n generalizing h with
  | zero => exact positive
  | succ n ih =>
    unfold worth worthBefore
    split_ifs
    · exact le_refl start
    · apply max_le positive
      linarith [ih (h + 1)]
    · exact positive

variable {must may}

theorem le_worth_of_ahead (cheap : 0 ≤ hold) {n h k : ℕ} (ahead : Ahead must may n h k) :
    start - hold * k ≤ worth must may hold start n h := by
  induction n generalizing h k with
  | zero => exact absurd ahead.1 (Nat.not_lt_zero k)
  | succ n ih =>
    unfold worth worthBefore
    cases needed : must (h + 1) with
    | true =>
      have spent : 0 ≤ hold * (k : R) := mul_nonneg cheap (Nat.cast_nonneg k)
      rw [if_pos rfl]
      linarith
    | false =>
      cases k with
      | zero => exact absurd ahead.2.1 (by simp [needed])
      | succ k =>
        obtain ⟨free, later⟩ := ahead_succ_iff.mp ahead
        rw [if_neg Bool.false_ne_true, if_pos free]
        apply le_max_of_le_right
        push_cast
        linarith [ih later]

theorem exists_ahead_of_lt_worth (cheap : 0 ≤ hold) {saved : R} (positive : 0 ≤ saved) {n h : ℕ} (less : saved < worth must may hold start n h) :
    ∃ k, Ahead must may n h k ∧ saved < start - hold * k := by
  induction n generalizing h saved with
  | zero => exact absurd less positive.not_gt
  | succ n ih =>
    unfold worth worthBefore at less
    split_ifs at less with needed free
    · refine ⟨0, ahead_zero needed, ?_⟩
      simpa using less
    · obtain ⟨k, later, saves⟩ := @ih (saved + hold) (add_nonneg positive cheap) (h + 1) (by
        rcases lt_max_iff.mp less with wrong | less
        · exact absurd wrong positive.not_gt
        · linarith)
      refine ⟨k + 1, ahead_succ_iff.mpr ⟨free, later⟩, ?_⟩
      push_cast
      linarith
    · exact absurd less positive.not_gt

section
variable {saved : R} {needed free now : Bool}

theorem takes_le_step (before : Bool) (cheap : 0 ≤ hold) (high : saved ≤ start) (served : needed = true → now = true)
    (allowed : now = true → free = true) :
    (if needed then hold + start - saved else 0) + credit now saved ≤
      stepCost hold start before now + credit before (worthBefore hold start needed free saved) := by
  have kept := le_max_right 0 (saved - hold)
  have nothing := le_max_left 0 (saved - hold)
  unfold stepCost credit worthBefore
  cases now with
  | false =>
    -- nothing is needed, and a unit that stops may only lose
    have spare : needed = false := by simpa using served
    cases before <;> cases free <;> simp [spare]
  | true =>
    have open_ : free = true := allowed rfl
    cases needed <;> cases before <;> simp only [open_, Bool.not_true, Bool.not_false, Bool.and_true, Bool.and_false,
      Bool.false_eq_true, if_true, if_false] <;> linarith

theorem step_eq_takes (start : R) {before : Bool} (served : needed = true → now = true) (allowed : now = true → free = true)
    (starts : before = false → now = true → needed = true)
    (keeps : now = true → needed = false → hold ≤ saved) (stops : before = true → now = false → free = true → saved ≤ hold) :
    stepCost hold start before now + credit before (worthBefore hold start needed free saved) =
      (if needed then hold + start - saved else 0) + credit now saved := by
  unfold stepCost credit worthBefore
  cases now with
  | false =>
    have spare : needed = false := by simpa using served
    cases before with
    | false => simp [spare]
    | true =>
      cases free with
      | false => simp [spare]
      | true => simp [spare, stops rfl rfl rfl]
  | true =>
    have open_ : free = true := allowed rfl
    cases needed with
    | true => cases before <;> simp [add_comm]
    | false =>
      have ran : before = true := by
        by_contra off
        exact Bool.false_ne_true (starts (by simpa using off) rfl)
      simp [open_, ran, keeps rfl rfl]

end

theorem least_le (cheap : 0 ≤ hold) (positive : 0 ≤ start) {on : ℕ → Bool} {n h : ℕ}
    (served : ∀ i, h < i → i ≤ h + n → must i = true → on i = true)
    (allowed : ∀ i, h < i → i ≤ h + n → on i = true → may i = true) :
    least must may hold start n h ≤ cost hold start on h n + credit (on h) (worth must may hold start n h) := by
  induction n generalizing h with
  | zero =>
    rw [cost_zero, zero_add]
    unfold least worth credit
    split <;> exact le_refl 0
  | succ n ih =>
    have later := ih (h := h + 1) (fun i after before => served i (by omega) (by omega))
      fun i after before => allowed i (by omega) (by omega)
    have high := worth_le must may cheap positive n (h + 1)
    have step := takes_le_step (on h) cheap high (served (h + 1) (by omega) (by omega)) (allowed (h + 1) (by omega) (by omega))
    rw [cost_succ, worth_succ, least_succ]
    linarith

/-- What is done in the hour after hour `i`, when `later` hours follow it: the unit is only kept where that pays. -/
structure Thrifty (must may : ℕ → Bool) (hold start : R) (on : ℕ → Bool) (later i : ℕ) : Prop where
  served : must (i + 1) = true → on (i + 1) = true
  allowed : on (i + 1) = true → may (i + 1) = true
  starts : on i = false → on (i + 1) = true → must (i + 1) = true
  keeps : on (i + 1) = true → must (i + 1) = false → hold ≤ worth must may hold start later (i + 1)
  stops : on i = true → on (i + 1) = false → may (i + 1) = true → worth must may hold start later (i + 1) ≤ hold

theorem cost_eq_least {on : ℕ → Bool} {n h : ℕ}
    (thrifty : ∀ i later, h ≤ i → i + 1 + later = h + n → Thrifty must may hold start on later i) :
    cost hold start on h n + credit (on h) (worth must may hold start n h) = least must may hold start n h := by
  induction n generalizing h with
  | zero =>
    rw [cost_zero, zero_add]
    unfold least worth credit
    split <;> rfl
  | succ n ih =>
    have later := ih (h := h + 1) fun i later after sum => thrifty i later (by omega) (by omega)
    have first := thrifty h n le_rfl (by omega)
    have step := step_eq_takes start first.served first.allowed first.starts first.keeps first.stops
    rw [cost_succ, worth_succ, least_succ]
    linarith

end

section
variable {R : Type} [CommRing R] (hold start : R)

variable (running : ℕ → ℕ)

/-- What `n` hours cost after hour `h` when several units run. -/
def countCost (h n : ℕ) : R :=
  ∑ i ∈ Finset.range n, (hold * running (h + i + 1) + start * (running (h + i + 1) - running (h + i) : ℕ))

/-- The unit that runs when more than `level` of them do. -/
def above (level hour : ℕ) : Bool := decide (level < running hour)

theorem sum_levels (value : R) (before : ℕ) {now bound : ℕ} (bounded : now ≤ bound) :
    (∑ level ∈ Finset.range bound, if level < now ∧ ¬ level < before then value else 0) = value * (now - before : ℕ) := by
  have levels : (Finset.range bound).filter (fun level => level < now ∧ ¬ level < before) = Finset.Ico before now := by
    ext level
    simp only [Finset.mem_filter, Finset.mem_range, Finset.mem_Ico]
    omega
  rw [← Finset.sum_filter, levels, Finset.sum_const, Nat.card_Ico, nsmul_eq_mul, mul_comm]

theorem countCost_eq_sum {running : ℕ → ℕ} {bound h n : ℕ} (bounded : ∀ i, h ≤ i → i ≤ h + n → running i ≤ bound) :
    countCost hold start running h n = ∑ level ∈ Finset.range bound, cost hold start (above running level) h n := by
  unfold countCost cost
  rw [Finset.sum_comm]
  apply Finset.sum_congr rfl
  intro i inside
  have before := Finset.mem_range.mp inside
  have now := bounded (h + i + 1) (by omega) (by omega)
  have held := sum_levels hold 0 now
  have started := sum_levels start (running (h + i)) now
  rw [Nat.sub_zero] at held
  rw [← held, ← started, ← Finset.sum_add_distrib]
  apply Finset.sum_congr rfl
  intro level _
  simp [stepCost, above]

end

section
variable {R : Type} [CommRing R] [LinearOrder R] [IsStrictOrderedRing R] {hold start : R}

/-- What is done with the units in the hour after hour `i`: they are only started for need, and those are
kept for which another need comes within `limit` hours.
-/
structure ThriftyCount (lower upper : ℕ → ℕ) (limit : ℕ) (running : ℕ → ℕ) (later i : ℕ) : Prop where
  served : lower (i + 1) ≤ running (i + 1)
  allowed : running (i + 1) ≤ upper (i + 1)
  rises : running (i + 1) ≤ max (running i) (lower (i + 1))
  keeps : ∀ level, lower (i + 1) ≤ level → level < running (i + 1) →
    ∃ k < limit, Ahead (above lower level) (above upper level) later (i + 1) k
  stops : ∀ level, running (i + 1) ≤ level → level < running i → level < upper (i + 1) →
    ∀ k < limit, ¬ Ahead (above lower level) (above upper level) later (i + 1) k

variable {lower upper running : ℕ → ℕ} {limit later : ℕ}

theorem ThriftyCount.thrifty (cheap : 0 ≤ hold) (pays : ∀ k : ℕ, k < limit → hold * (k + 1) ≤ start)
    (far : ∀ k : ℕ, limit ≤ k → k < later → start ≤ hold * (k + 1)) {i : ℕ}
    (thrifty : ThriftyCount lower upper limit running later i) (level : ℕ) :
    Thrifty (above lower level) (above upper level) hold start (above running level) later i := by
  obtain ⟨served, allowed, rises, keeps, stops⟩ := thrifty
  unfold above at *
  constructor <;> simp only [decide_eq_true_eq, decide_eq_false_iff_not, not_lt]
  · intro need
    omega
  · intro runs
    omega
  · intro off runs
    by_contra spare
    rcases le_max_iff.mp rises with same | same <;> omega
  · intro runs spare
    obtain ⟨k, near, ahead⟩ := keeps level spare runs
    have saves : start - hold * k ≤ _ := le_worth_of_ahead cheap ahead
    linarith [pays k near]
  · intro ran off free
    by_contra! saves
    obtain ⟨k, ahead, more⟩ := exists_ahead_of_lt_worth cheap cheap saves
    have beyond : limit ≤ k := by
      by_contra! near
      exact stops level off ran free k near ahead
    linarith [far k beyond ahead.1]

theorem countCost_le (cheap : 0 ≤ hold) (positive : 0 ≤ start) {h n : ℕ}
    (pays : ∀ k : ℕ, k < limit → hold * (k + 1) ≤ start)
    (far : ∀ k : ℕ, limit ≤ k → k < n → start ≤ hold * (k + 1))
    (thrifty : ∀ i later, h ≤ i → i + 1 + later = h + n → ThriftyCount lower upper limit running later i)
    {other : ℕ → ℕ} (same : other h = running h)
    (between : ∀ i, h < i → i ≤ h + n → lower i ≤ other i ∧ other i ≤ upper i) :
    countCost hold start running h n ≤ countCost hold start other h n := by
  obtain ⟨bound, most⟩ : ∃ bound, ∀ i, i ≤ h + n → running i ≤ bound ∧ other i ≤ bound := by
    refine ⟨(Finset.range (h + n + 1)).sup fun i => max (running i) (other i), fun i inside => ?_⟩
    have below := Finset.le_sup (f := fun i => max (running i) (other i)) (Finset.mem_range.mpr (Nat.lt_succ_of_le inside))
    exact max_le_iff.mp below
  rw [countCost_eq_sum hold start fun i _ inside => (most i inside).1,
    countCost_eq_sum hold start fun i _ inside => (most i inside).2]
  apply Finset.sum_le_sum
  intro level _
  have own := cost_eq_least fun i later after sum =>
    (thrifty i later after sum).thrifty cheap pays (fun k beyond inside => far k beyond (by omega)) level
  have served (i : ℕ) (after : h < i) (before : i ≤ h + n) : above lower level i = true → above other level i = true := by
    intro need
    exact decide_eq_true (lt_of_lt_of_le (of_decide_eq_true need) (between i after before).1)
  have allowed (i : ℕ) (after : h < i) (before : i ≤ h + n) : above other level i = true → above upper level i = true := by
    intro runs
    exact decide_eq_true (lt_of_lt_of_le (of_decide_eq_true runs) (between i after before).2)
  have least := least_le cheap positive served allowed
  have first : above other level h = above running level h := by
    unfold above
    rw [same]
  rw [first] at least
  linarith

end

end SwitchedUnit

end Antares.Library
