import Antares.Solver.ParallelYears
import Mathlib.Data.Nat.Find

/-! The marks of the first performed years of the sets of parallel years. A flag says whether the
current set has its mark; it is not reset when a refresh closes a set that is not full.
-/

set_option autoImplicit false

namespace Antares.Solver

open Data Library

variable (study : Study)

/-- The mark stands at the smallest performed year, and nowhere else. -/
def SetOfParallelYears.Marked (set : SetOfParallelYears) : Prop :=
  ∀ year, set.isFirstPerformedYearOfASet year = some true ↔
    year ∈ set.yearsIndices ∧ study.parameters.yearsFilter year = true ∧
      ∀ other ∈ set.yearsIndices, study.parameters.yearsFilter other = true → year ≤ other

def performedBefore (year : Nat) : Nat := (List.range year).countP study.parameters.yearsFilter

/-- The years performed before each refresh fill their sets, unless no year is performed after it. -/
def RefreshesAfterFullSets (maxPerformed : Nat) : Prop :=
  ∀ refresh < study.parameters.nbYears, refreshing study refresh = true →
    (∃ year, refresh ≤ year ∧ year < study.parameters.nbYears ∧ study.parameters.yearsFilter year = true) →
      maxPerformed ∣ performedBefore study refresh

section
variable {study : Study} {maxPerformed endYear : Nat}

theorem performedBefore_succ (year : Nat) : performedBefore study (year + 1) =
    performedBefore study year + if study.parameters.yearsFilter year then 1 else 0 := by
  unfold performedBefore
  rw [List.range_succ, List.countP_append, List.countP_singleton]

theorem SetOfParallelYears.addYear_isFirst (set : SetOfParallelYears) (year : Nat) (performed first : Bool) :
    (set.addYear year performed first).isFirstPerformedYearOfASet =
      Function.update set.isFirstPerformedYearOfASet year (some (performed && first)) := by
  cases performed with
  | false => rfl
  | true => rfl

theorem buildStep_found (study : Study) (maxPerformed endYear : Nat) (state : BuildState) (year : Nat)
    {front : List SetOfParallelYears} {set : SetOfParallelYears}
    (opened : (if (state.buildNewSet || refreshing study year) = true
      then state.sets ++ [.create (refreshing study year) year] else state.sets) = front ++ [set]) :
    (buildStep study maxPerformed endYear state year).foundFirstPerformedYearOfCurrentSet =
      if (if study.parameters.yearsFilter year then set.nbPerformedYears else unset) == lastSpace maxPerformed ||
        year == endYear - 1 then false
      else state.foundFirstPerformedYearOfCurrentSet || study.parameters.yearsFilter year := by
  unfold buildStep
  dsimp only
  rw [opened, lastNbPerformedYears_concat]
  exact apply_ite BuildState.foundFirstPerformedYearOfCurrentSet _ _ _

variable {set : SetOfParallelYears}

theorem SetOfParallelYears.Marked.addSkipped (marked : set.Marked study) {year : Nat}
    (skipped : study.parameters.yearsFilter year = false) (first : Bool) :
    (set.addYear year (study.parameters.yearsFilter year) first).Marked study := by
  intro other
  have same := marked other
  rw [addYear_isFirst, addYear_yearsIndices, skipped, Bool.false_and]
  have notPerformed : ¬study.parameters.yearsFilter year = true := by
    rw [skipped]
    exact Bool.false_ne_true
  by_cases here : other = year
  · rw [here, Function.update_self]
    exact iff_of_false (by simp) fun both => notPerformed both.2.1
  · rw [Function.update_of_ne here, same]
    simp only [List.mem_append, List.mem_singleton, here, or_false, or_imp, forall_and, forall_eq]
    tauto

theorem SetOfParallelYears.Marked.addPerformed (marked : set.Marked study) {year : Nat}
    (performed : study.parameters.yearsFilter year = true) (later : ∀ other ∈ set.yearsIndices, other < year) {first : Bool}
    (isFirst : first = true ↔ ∀ other ∈ set.yearsIndices, study.parameters.yearsFilter other = false) :
    (set.addYear year (study.parameters.yearsFilter year) first).Marked study := by
  intro other
  have same := marked other
  rw [addYear_isFirst, addYear_yearsIndices, performed, Bool.true_and]
  by_cases here : other = year
  · rw [here, Function.update_self, Option.some.injEq, isFirst]
    constructor
    · intro none
      refine ⟨by simp, performed, fun old member run => ?_⟩
      rcases List.mem_append.mp member with inside | last
      · rw [none old inside] at run
        exact absurd run Bool.false_ne_true
      · exact (List.mem_singleton.mp last).ge
    · intro ⟨_, _, least⟩ old inside
      by_contra run
      have before := least old (List.mem_append_left _ inside) (by simpa using run)
      exact absurd (later old inside) (not_lt.mpr before)
  · rw [Function.update_of_ne here, same]
    simp only [List.mem_append, List.mem_singleton, here, or_false]
    constructor
    · intro ⟨inside, run, least⟩
      refine ⟨inside, run, fun old member performed' => ?_⟩
      rcases member with member | rfl
      · exact least old member performed'
      · exact (later other inside).le
    · intro ⟨inside, run, least⟩
      exact ⟨inside, run, fun old member => least old (.inl member)⟩

theorem SetOfParallelYears.marked_create (refresh : Bool) (year : Nat) : (create refresh year).Marked study := by
  intro other
  simp [create]

structure SetOfParallelYears.Kept (study : Study) (year : Nat) (set : SetOfParallelYears) : Prop where
  earlier : ∀ old ∈ set.yearsIndices, old < year
  counted : set.nbPerformedYears = set.yearsIndices.countP study.parameters.yearsFilter
  marked : set.Marked study

theorem SetOfParallelYears.Kept.later {year : Nat} (kept : set.Kept study year) :
    set.Kept study (year + 1) where
  earlier := fun old member => (kept.earlier old member).trans (Nat.lt_succ_self year)
  counted := kept.counted
  marked := kept.marked

theorem SetOfParallelYears.kept_create (refresh : Bool) (year : Nat) : (create refresh year).Kept study year where
  earlier := fun _ none => absurd none List.not_mem_nil
  counted := rfl
  marked := marked_create refresh year

theorem SetOfParallelYears.Kept.add {year : Nat} (kept : set.Kept study year) {first : Bool}
    (isFirst : study.parameters.yearsFilter year = true → (first = true ↔ set.nbPerformedYears = 0)) :
    (set.addYear year (study.parameters.yearsFilter year) first).Kept study (year + 1) where
  earlier := by
    intro old member
    rw [addYear_yearsIndices] at member
    rcases List.mem_append.mp member with inside | last
    · exact (kept.earlier old inside).trans (Nat.lt_succ_self year)
    · rw [List.mem_singleton.mp last]
      exact Nat.lt_succ_self year
  counted := by
    rw [addYear_nbPerformedYears, addYear_yearsIndices, List.countP_append, List.countP_singleton, kept.counted]
    split_ifs <;> rfl
  marked := by
    cases run : study.parameters.yearsFilter year with
    | false =>
      have skipped := kept.marked.addSkipped run first
      rwa [run] at skipped
    | true =>
      have none : set.nbPerformedYears = 0 ↔ ∀ other ∈ set.yearsIndices, study.parameters.yearsFilter other = false := by
        rw [kept.counted, List.countP_eq_zero]
        simp
      have performed := kept.marked.addPerformed run kept.earlier ((isFirst run).trans none)
      rwa [run] at performed

/-- The loop before a year, when each refresh up to there came after full sets: the flag says
whether the current set performs a year.
-/
structure FullBefore (study : Study) (capacity year : Nat) (state : BuildState) : Prop where
  kept : ∀ set ∈ state.sets, set.Kept study year
  closed : state.buildNewSet = true →
    state.foundFirstPerformedYearOfCurrentSet = false ∧ capacity ∣ performedBefore study year
  current : state.buildNewSet = false → ∃ front set, state.sets = front ++ [set] ∧
    set.nbPerformedYears = performedBefore study year % capacity ∧
    (state.foundFirstPerformedYearOfCurrentSet = true ↔ performedBefore study year % capacity ≠ 0)

theorem fullBefore_start (capacity : Nat) : FullBefore study capacity 0 .start where
  kept := fun _ none => absurd none List.not_mem_nil
  closed := fun _ => ⟨rfl, ⟨0, rfl⟩⟩
  current := fun closed => absurd closed.symm Bool.false_ne_true

theorem FullBefore.opened {capacity year : Nat} {state : BuildState} (full : FullBefore study capacity year state)
    (multiple : refreshing study year = true → capacity ∣ performedBefore study year) :
    ∃ front set, (if (state.buildNewSet || refreshing study year) = true
        then state.sets ++ [.create (refreshing study year) year] else state.sets) = front ++ [set] ∧
      (∀ other ∈ front, other.Kept study year) ∧ set.Kept study year ∧
      set.nbPerformedYears = performedBefore study year % capacity ∧
      (state.foundFirstPerformedYearOfCurrentSet = true ↔ performedBefore study year % capacity ≠ 0) := by
  by_cases newSet : (state.buildNewSet || refreshing study year) = true
  · rw [if_pos newSet]
    refine ⟨state.sets, _, rfl, full.kept, SetOfParallelYears.kept_create _ _, ?_⟩
    have both : capacity ∣ performedBefore study year ∧
        (state.foundFirstPerformedYearOfCurrentSet = true ↔ performedBefore study year % capacity ≠ 0) := by
      cases before : state.buildNewSet with
      | true =>
        obtain ⟨found, divides⟩ := full.closed before
        rw [found, Nat.mod_eq_zero_of_dvd divides]
        exact ⟨divides, iff_of_false Bool.false_ne_true (fun ne => ne rfl)⟩
      | false =>
        rw [before, Bool.false_or] at newSet
        obtain ⟨_, _, -, -, found⟩ := full.current before
        exact ⟨multiple newSet, found⟩
    exact ⟨(Nat.mod_eq_zero_of_dvd both.1).symm, both.2⟩
  · rw [if_neg newSet]
    rw [Bool.not_eq_true, Bool.or_eq_false_iff] at newSet
    obtain ⟨front, set, sets, count, found⟩ := full.current newSet.1
    have kept := full.kept
    rw [sets] at kept
    exact ⟨front, set, sets, fun other member => kept other (List.mem_append_left _ member),
      kept set (List.mem_append_right _ List.mem_cons_self), count, found⟩

variable (bounded : maxPerformed ≤ maximumMCYears)
include bounded

theorem FullBefore.step {year : Nat} {state : BuildState} (full : FullBefore study (max maxPerformed 1) year state)
    (performs : study.parameters.yearsFilter year = true → 0 < maxPerformed)
    (multiple : refreshing study year = true → max maxPerformed 1 ∣ performedBefore study year) :
    (∀ set ∈ (buildStep study maxPerformed endYear state year).sets, set.Kept study (year + 1)) ∧
      (year + 1 < endYear → FullBefore study (max maxPerformed 1) (year + 1) (buildStep study maxPerformed endYear state year)) := by
  obtain ⟨front, set, opened, frontKept, setKept, count, found⟩ := full.opened multiple
  obtain ⟨sets, newSet, -⟩ := buildStep_eq study maxPerformed endYear state year opened
  have flag := buildStep_found study maxPerformed endYear state year opened
  have below : set.nbPerformedYears < max maxPerformed 1 := by
    rw [count]
    exact Nat.mod_lt _ (by omega)
  rw [closes_iff bounded performs below] at newSet flag
  -- the flag tells whether the open set is still without a performed year
  have isFirst : (!state.foundFirstPerformedYearOfCurrentSet) = true ↔ set.nbPerformedYears = 0 := by
    rw [count, Bool.not_eq_true', ← Bool.not_eq_true, found, not_not]
  have kept : ∀ other ∈ (buildStep study maxPerformed endYear state year).sets, other.Kept study (year + 1) := by
    rw [sets]
    intro other member
    rcases List.mem_append.mp member with inFront | last
    · exact (frontKept other inFront).later
    · rw [List.mem_singleton.mp last]
      exact setKept.add fun _ => isFirst
  refine ⟨kept, fun inside => ?_⟩
  have notLast : (year == endYear - 1) = false := by
    rw [beq_eq_false_iff_ne]
    omega
  have total : performedBefore study year = max maxPerformed 1 * (performedBefore study year / max maxPerformed 1) + set.nbPerformedYears := by
    rw [count]
    exact (Nat.div_add_mod _ _).symm
  rw [notLast, Bool.or_false, List.countP_singleton] at newSet flag
  refine ⟨kept, fun closes => ?_, fun stays => ?_⟩
  · -- a set that closes is full: the counter starts a new quotient
    rw [newSet] at closes
    rw [closes, if_pos rfl] at flag
    rw [beq_iff_eq] at closes
    refine ⟨flag, performedBefore study year / max maxPerformed 1 + 1, ?_⟩
    rw [performedBefore_succ, Nat.mul_succ]
    omega
  · -- a set that stays open counts the year if it is performed
    rw [newSet] at stays
    rw [stays, if_neg Bool.false_ne_true] at flag
    rw [beq_eq_false_iff_ne] at stays
    have few : (if study.parameters.yearsFilter year then 1 else 0) ≤ 1 := by split_ifs <;> omega
    have next : performedBefore study (year + 1) % max maxPerformed 1 =
        set.nbPerformedYears + if study.parameters.yearsFilter year then 1 else 0 := by
      rw [performedBefore_succ, total, Nat.add_assoc, Nat.mul_add_mod]
      exact Nat.mod_eq_of_lt (by omega)
    refine ⟨front, _, sets, ?_, ?_⟩
    · rw [next, SetOfParallelYears.addYear_nbPerformedYears]
      split_ifs <;> rfl
    · rw [← count] at found
      rw [next, flag, Bool.or_eq_true, found]
      cases study.parameters.yearsFilter year with
      | false => simp
      | true => simp

end

def buildUntil (study : Study) (maxPerformed year : Nat) : BuildState :=
  (List.range year).foldl (buildStep study maxPerformed study.parameters.nbYears) .start

theorem buildUntil_succ (study : Study) (maxPerformed year : Nat) : buildUntil study maxPerformed (year + 1) =
    buildStep study maxPerformed study.parameters.nbYears (buildUntil study maxPerformed year) year := by
  unfold buildUntil
  rw [List.range_succ, List.foldl_append]
  rfl

section
variable {study : Study} {maxPerformed : Nat}

theorem exists_opened {state : BuildState} (startsOpen : state.sets = [] → state.buildNewSet = true) (year : Nat) :
    ∃ front set, (if (state.buildNewSet || refreshing study year) = true
        then state.sets ++ [.create (refreshing study year) year] else state.sets) = front ++ [set] ∧
      (∀ other ∈ state.sets, other ∈ front ++ [set]) ∧
      ∀ other ∈ front ++ [set], other ∈ state.sets ∨ other = .create (refreshing study year) year := by
  by_cases newSet : (state.buildNewSet || refreshing study year) = true
  · rw [if_pos newSet]
    refine ⟨state.sets, _, rfl, fun other member => List.mem_append_left _ member, fun other member => ?_⟩
    rcases List.mem_append.mp member with inside | last
    · exact .inl inside
    · exact .inr (List.mem_singleton.mp last)
  · have nonempty : state.sets ≠ [] := by
      intro empty
      rw [startsOpen empty, Bool.true_or] at newSet
      exact newSet rfl
    rw [if_neg newSet]
    have split := List.dropLast_append_getLast nonempty
    refine ⟨_, _, split.symm, fun other member => ?_, fun other member => .inl ?_⟩
    · rwa [split]
    · rwa [split] at member

theorem sets_buildUntil (year : Nat) : (buildUntil study maxPerformed year).sets = [] →
    (buildUntil study maxPerformed year).buildNewSet = true := by
  induction year with
  | zero => exact fun _ => rfl
  | succ year earlier =>
    intro empty
    obtain ⟨front, set, opened, -⟩ := exists_opened earlier year
    rw [buildUntil_succ, (buildStep_eq study maxPerformed _ _ year opened).1] at empty
    exact absurd empty (by simp)

theorem kept_of_skipped {year : Nat} (kept : ∀ set ∈ (buildUntil study maxPerformed year).sets, set.Kept study year)
    (skipped : study.parameters.yearsFilter year = false) :
    ∀ set ∈ (buildUntil study maxPerformed (year + 1)).sets, set.Kept study (year + 1) := by
  obtain ⟨front, set, opened, -, all⟩ := exists_opened (sets_buildUntil year) year
  have before : ∀ other ∈ front ++ [set], other.Kept study year := by
    intro other member
    rcases all other member with inside | rfl
    · exact kept other inside
    · exact SetOfParallelYears.kept_create _ _
  rw [buildUntil_succ, (buildStep_eq study maxPerformed _ _ year opened).1]
  intro other member
  rcases List.mem_append.mp member with inFront | last
  · exact (before other (List.mem_append_left _ inFront)).later
  · rw [List.mem_singleton.mp last]
    apply (before set (List.mem_append_right _ List.mem_cons_self)).add
    intro performed
    rw [skipped] at performed
    exact absurd performed Bool.false_ne_true

variable (bounded : maxPerformed ≤ maximumMCYears)
  (performs : ∀ year < study.parameters.nbYears, study.parameters.yearsFilter year = true → 0 < maxPerformed)
include bounded performs

theorem kept_buildUntil (refreshes : RefreshesAfterFullSets study maxPerformed) {year : Nat}
    (inside : year ≤ study.parameters.nbYears) :
    (∀ set ∈ (buildUntil study maxPerformed year).sets, set.Kept study year) ∧
      (year < study.parameters.nbYears →
        (∃ later, year ≤ later ∧ later < study.parameters.nbYears ∧ study.parameters.yearsFilter later = true) →
        FullBefore study (max maxPerformed 1) year (buildUntil study maxPerformed year)) := by
  induction year with
  | zero => exact ⟨fun _ none => absurd none List.not_mem_nil, fun _ _ => fullBefore_start _⟩
  | succ year earlier =>
    obtain ⟨kept, full⟩ := earlier (Nat.le_of_succ_le inside)
    by_cases more : ∃ later, year ≤ later ∧ later < study.parameters.nbYears ∧ study.parameters.yearsFilter later = true
    · have multiple : refreshing study year = true → max maxPerformed 1 ∣ performedBefore study year := by
        intro refresh
        have ⟨later, _, below, performed⟩ := more
        rw [max_eq_left (performs later below performed)]
        exact refreshes year inside refresh more
      obtain ⟨marked, next⟩ := (full inside more).step bounded (performs year inside) multiple
      rw [buildUntil_succ]
      exact ⟨marked, fun below _ => next below⟩
    · have skipped : study.parameters.yearsFilter year = false := by
        by_contra run
        exact more ⟨year, le_rfl, inside, by simpa using run⟩
      refine ⟨kept_of_skipped kept skipped, fun _ others => ?_⟩
      obtain ⟨later, after, rest⟩ := others
      exact absurd ⟨later, Nat.le_of_succ_le after, rest⟩ more

theorem fullBefore_buildUntil {year : Nat} (inside : year < study.parameters.nbYears)
    (multiple : ∀ refresh < year, refreshing study refresh = true → max maxPerformed 1 ∣ performedBefore study refresh) :
    FullBefore study (max maxPerformed 1) year (buildUntil study maxPerformed year) := by
  induction year with
  | zero => exact fullBefore_start _
  | succ year earlier =>
    have full := earlier (Nat.lt_of_succ_lt inside) fun refresh before =>
      multiple refresh (before.trans (Nat.lt_succ_self year))
    rw [buildUntil_succ]
    exact (full.step bounded (performs year (Nat.lt_of_succ_lt inside)) (multiple year (Nat.lt_succ_self year))).2 inside

end

/-- The flag is up although the set that receives the next year performs nothing. -/
structure Missed (study : Study) (year : Nat) (state : BuildState) : Prop where
  found : state.foundFirstPerformedYearOfCurrentSet = true
  stays : state.buildNewSet = false
  idle : refreshing study year = true ∨ ∃ front set, state.sets = front ++ [set] ∧ set.nbPerformedYears = 0 ∧
    ∀ old ∈ set.yearsIndices, study.parameters.yearsFilter old = false

def Unmarked (study : Study) (year : Nat) (state : BuildState) : Prop :=
  ∃ set ∈ state.sets, year ∈ set.yearsIndices ∧ set.isFirstPerformedYearOfASet year = some false ∧
    ∀ other ∈ set.yearsIndices, study.parameters.yearsFilter other = true → year ≤ other

section
variable {study : Study} {maxPerformed : Nat}

theorem Missed.opened {year : Nat} {state : BuildState} (missed : Missed study year state) :
    ∃ front set, (if (state.buildNewSet || refreshing study year) = true
        then state.sets ++ [.create (refreshing study year) year] else state.sets) = front ++ [set] ∧
      set.nbPerformedYears = 0 ∧ ∀ old ∈ set.yearsIndices, study.parameters.yearsFilter old = false := by
  rw [missed.stays, Bool.false_or]
  by_cases refresh : refreshing study year = true
  · rw [if_pos refresh]
    exact ⟨state.sets, _, rfl, rfl, fun _ none => absurd none List.not_mem_nil⟩
  · rw [if_neg refresh]
    exact missed.idle.resolve_left refresh

theorem Missed.skip (bounded : maxPerformed ≤ maximumMCYears) {year : Nat}
    (missed : Missed study year (buildUntil study maxPerformed year)) (skipped : study.parameters.yearsFilter year = false)
    (inside : year + 1 < study.parameters.nbYears) : Missed study (year + 1) (buildUntil study maxPerformed (year + 1)) := by
  obtain ⟨front, set, opened, none, idle⟩ := missed.opened
  obtain ⟨sets, newSet, -⟩ := buildStep_eq study maxPerformed study.parameters.nbYears _ year opened
  have flag := buildStep_found study maxPerformed study.parameters.nbYears _ year opened
  have stays : ((if study.parameters.yearsFilter year then set.nbPerformedYears else unset) == lastSpace maxPerformed ||
      year == study.parameters.nbYears - 1) = false := by
    have notPerformed : study.parameters.yearsFilter year = true → 0 < maxPerformed := by
      rw [skipped]
      exact fun none => absurd none Bool.false_ne_true
    have below : set.nbPerformedYears < max maxPerformed 1 := by omega
    have notLast : (year == study.parameters.nbYears - 1) = false := by
      rw [beq_eq_false_iff_ne]
      omega
    rw [closes_iff bounded notPerformed below, notLast, Bool.or_false, none, List.countP_singleton, skipped,
      beq_eq_false_iff_ne]
    simp only [Bool.false_eq_true, if_false]
    omega
  rw [stays] at newSet flag
  rw [buildUntil_succ]
  refine ⟨?_, newSet, .inr ⟨front, _, sets, ?_, ?_⟩⟩
  · rw [flag, if_neg Bool.false_ne_true, missed.found, Bool.true_or]
  · rw [SetOfParallelYears.addYear_nbPerformedYears, skipped, none]
    rfl
  · intro old member
    rw [SetOfParallelYears.addYear_yearsIndices] at member
    rcases List.mem_append.mp member with before | last
    · exact idle old before
    · rwa [List.mem_singleton.mp last]

theorem Missed.unmarked {year : Nat} (missed : Missed study year (buildUntil study maxPerformed year)) :
    Unmarked study year (buildUntil study maxPerformed (year + 1)) := by
  obtain ⟨front, set, opened, -, idle⟩ := missed.opened
  obtain ⟨sets, -⟩ := buildStep_eq study maxPerformed study.parameters.nbYears _ year opened
  rw [buildUntil_succ]
  refine ⟨_, sets ▸ List.mem_append_right front List.mem_cons_self, ?_, ?_, ?_⟩
  · rw [SetOfParallelYears.addYear_yearsIndices]
    exact List.mem_append_right _ List.mem_cons_self
  · rw [SetOfParallelYears.addYear_isFirst, Function.update_self, missed.found, Bool.not_true, Bool.and_false]
  · intro other member run
    rw [SetOfParallelYears.addYear_yearsIndices] at member
    rcases List.mem_append.mp member with before | last
    · rw [idle other before] at run
      exact absurd run Bool.false_ne_true
    · exact (List.mem_singleton.mp last).ge

theorem Unmarked.later {year next : Nat} (unmarked : Unmarked study year (buildUntil study maxPerformed next))
    (after : year < next) : Unmarked study year (buildUntil study maxPerformed (next + 1)) := by
  obtain ⟨marked, listed, inside, isFalse, least⟩ := unmarked
  obtain ⟨front, set, opened, all, -⟩ := exists_opened (sets_buildUntil next) next
  obtain ⟨sets, -⟩ := buildStep_eq study maxPerformed study.parameters.nbYears _ next opened
  rw [buildUntil_succ]
  rcases List.mem_append.mp (all marked listed) with inFront | last
  · exact ⟨marked, sets ▸ List.mem_append_left _ inFront, inside, isFalse, least⟩
  · obtain rfl := List.mem_singleton.mp last
    refine ⟨_, sets ▸ List.mem_append_right front List.mem_cons_self, ?_, ?_, ?_⟩
    · rw [SetOfParallelYears.addYear_yearsIndices]
      exact List.mem_append_left _ inside
    · rw [SetOfParallelYears.addYear_isFirst, Function.update_of_ne after.ne]
      exact isFalse
    · intro other member run
      rw [SetOfParallelYears.addYear_yearsIndices] at member
      rcases List.mem_append.mp member with before | last
      · exact least other before run
      · rw [List.mem_singleton.mp last]
        exact after.le

variable (bounded : maxPerformed ≤ maximumMCYears)
  (performs : ∀ year < study.parameters.nbYears, study.parameters.yearsFilter year = true → 0 < maxPerformed)
include bounded performs

theorem unmarked_of_refresh (refreshes : ¬RefreshesAfterFullSets study maxPerformed) :
    ∃ year, study.parameters.yearsFilter year = true ∧ Unmarked study year (buildUntil study maxPerformed study.parameters.nbYears) := by
  classical
  unfold RefreshesAfterFullSets at refreshes
  push Not at refreshes
  have first := Nat.find_spec refreshes
  have before := @Nat.find_min _ _ refreshes
  generalize Nat.find refreshes = refresh at first before
  obtain ⟨inside, isRefresh, later, partial'⟩ := first
  have next := Nat.find_spec later
  have skips := @Nat.find_min _ _ later
  generalize Nat.find later = year at next skips
  obtain ⟨after, below, performed⟩ := next
  have capacity : max maxPerformed 1 = maxPerformed := max_eq_left (performs year below performed)
  have full := fullBefore_buildUntil bounded performs inside fun earlier isEarlier refreshed => by
    by_contra partly
    rw [capacity] at partly
    exact before isEarlier ⟨isEarlier.trans inside, refreshed, ⟨year, isEarlier.le.trans after, below, performed⟩, partly⟩
  rw [capacity] at full
  have start : Missed study refresh (buildUntil study maxPerformed refresh) := by
    have stays : (buildUntil study maxPerformed refresh).buildNewSet = false := by
      by_contra closed
      exact partial' (full.closed (by simpa using closed)).2
    obtain ⟨_, _, -, -, found⟩ := full.current stays
    exact ⟨found.mpr fun none => partial' (Nat.dvd_of_mod_eq_zero none), stays, .inl isRefresh⟩
  have missed (steps : Nat) (until' : refresh + steps ≤ year) :
      Missed study (refresh + steps) (buildUntil study maxPerformed (refresh + steps)) := by
    induction steps with
    | zero => exact start
    | succ steps earlier =>
      have skipped : study.parameters.yearsFilter (refresh + steps) = false := by
        by_contra run
        exact @skips (refresh + steps) (by omega) ⟨by omega, by omega, by simpa using run⟩
      exact (earlier (by omega)).skip bounded skipped (by omega)
  have reached := missed (year - refresh) (by omega)
  rw [Nat.add_sub_cancel' after] at reached
  have unmarked (steps : Nat) : Unmarked study year (buildUntil study maxPerformed (year + 1 + steps)) := by
    induction steps with
    | zero => exact reached.unmarked
    | succ steps earlier => exact earlier.later (by omega)
  have last := unmarked (study.parameters.nbYears - (year + 1))
  rw [Nat.add_sub_cancel' below] at last
  exact ⟨year, performed, last⟩

end

end Antares.Solver
