import Mathlib.Data.List.Basic

/-! Runs of a step over a list: those that may stop, with the inputs that are visited and the state before each
of them, loops that stop at the first item that fails its check, and what holds after each edit of a run.
-/

set_option autoImplicit false

namespace Antares.Library

section

variable {σ ι ε : Type}

def visited (step : σ → ι → Except ε σ) (state : σ) : List ι → List (σ × ι)
  | [] => []
  | input :: inputs =>
    (state, input) ::
      match step state input with
      | .error _ => []
      | .ok after => visited step after inputs

variable {step : σ → ι → Except ε σ}

theorem foldlM_eq_error_iff {state : σ} {inputs : List ι} {stop : ε} :
    inputs.foldlM step state = .error stop ↔ ∃ visit ∈ visited step state inputs, step visit.1 visit.2 = .error stop := by
  induction inputs generalizing state with
  | nil => simp [visited, pure, Except.pure]
  | cons input inputs later =>
    rw [List.foldlM_cons, visited, List.exists_mem_cons_iff]
    dsimp only
    cases result : step state input with
    | error first => simp [bind, Except.bind]
    | ok after =>
      dsimp only [bind, Except.bind]
      rw [later]
      simp

theorem foldlM_congr {other : σ → ι → Except ε σ} {inputs : List ι}
    (same : ∀ input ∈ inputs, ∀ state, step state input = other state input) (state : σ) :
    inputs.foldlM step state = inputs.foldlM other state := by
  induction inputs generalizing state with
  | nil => rfl
  | cons input inputs ih =>
    rw [List.foldlM_cons, List.foldlM_cons, same input List.mem_cons_self]
    congr 1
    funext after
    exact ih (fun later listed => same later (List.mem_cons_of_mem _ listed)) after

def Ends (run : Except ε σ) (post : σ → Prop) (stopped : ε → Prop) : Prop :=
  match run with
  | .ok result => post result
  | .error stop => stopped stop

section
variable {post : σ → Prop} {stopped : ε → Prop}

theorem Ends.mono {run : Except ε σ} {other : σ → Prop} {weaker : ε → Prop} (ends : Ends run post stopped)
    (implied : ∀ result, post result → other result) (allowed : ∀ stop, stopped stop → weaker stop) :
    Ends run other weaker := by
  cases run with
  | error stop => exact allowed stop ends
  | ok result => exact implied result ends

theorem Ends.bind {τ : Type} {run : Except ε τ} {next : τ → Except ε σ} {middle : τ → Prop} (first : Ends run middle stopped)
    (rest : ∀ result, middle result → Ends (next result) post stopped) : Ends (run >>= next) post stopped := by
  cases run with
  | error stop => exact first
  | ok result => exact rest result first

theorem Ends.foldlM_range' (invariant : Nat → σ → Prop) {turn : σ → Nat → Except ε σ} {first count : Nat}
    (kept : ∀ index, first ≤ index → index < first + count → ∀ state, invariant index state →
      Ends (turn state index) (invariant (index + 1)) stopped)
    {start : σ} (init : invariant first start) :
    Ends ((List.range' first count).foldlM turn start) (invariant (first + count)) stopped := by
  induction count with
  | zero => exact init
  | succ count ih =>
    rw [List.range'_1_concat, List.foldlM_append]
    apply (ih fun index after before => kept index after (by omega)).bind
    intro state holds
    have last := kept (first + count) (Nat.le_add_right _ _) (by omega) state holds
    rw [List.foldlM_cons]
    exact last.bind fun _ result => result

end

end

section

variable {ε ι σ τ : Type}

theorem bind_eq_ok_iff {check : Except ε σ} {next : σ → Except ε τ} {result : τ} :
    (check >>= next) = .ok result ↔ ∃ value, check = .ok value ∧ next value = .ok result := by
  cases check with
  | error stop =>
    constructor
    · intro same
      cases same
    · rintro ⟨_, same, _⟩
      cases same
  | ok value =>
    constructor
    · exact fun same => ⟨value, rfl, same⟩
    · rintro ⟨_, same, found⟩
      cases same
      exact found

theorem seq_eq_ok_iff {check : Except ε Unit} {next : Except ε τ} {result : τ} :
    (check >>= fun _ => next) = .ok result ↔ check = .ok () ∧ next = .ok result := by
  rw [bind_eq_ok_iff]
  exact ⟨fun ⟨_, passed, found⟩ => ⟨passed, found⟩, fun ⟨passed, found⟩ => ⟨(), passed, found⟩⟩

def checkIf (asked : Bool) (check : Except ε Unit) : Except ε Unit := if asked then check else pure ()

theorem checkIf_eq_ok_iff {asked : Bool} {check : Except ε Unit} :
    checkIf asked check = .ok () ↔ (asked = true → check = .ok ()) := by
  cases asked with
  | false => exact ⟨fun _ wrong => absurd wrong Bool.false_ne_true, fun _ => rfl⟩
  | true => exact ⟨fun passed _ => passed, fun passed => passed rfl⟩

section
variable {check : ι → Except ε Unit} {update : σ → ι → σ} {step : σ → ι → Except ε σ}

theorem foldlM_eq_ok_iff
    (checked : ∀ state item result, step state item = .ok result ↔ check item = .ok () ∧ update state item = result)
    (items : List ι) (start result : σ) :
    items.foldlM step start = .ok result ↔
      (∀ item ∈ items, check item = .ok ()) ∧ items.foldl update start = result := by
  induction items generalizing start with
  | nil =>
    simp only [List.not_mem_nil, false_implies, implies_true, true_and]
    exact Except.ok.injEq start result ▸ Iff.rfl
  | cons item items ih =>
    rw [List.foldlM_cons, bind_eq_ok_iff, List.forall_mem_cons, List.foldl_cons]
    constructor
    · rintro ⟨state, first, others⟩
      obtain ⟨passed, rfl⟩ := (checked start item state).mp first
      exact ⟨⟨passed, ((ih _).mp others).1⟩, ((ih _).mp others).2⟩
    · rintro ⟨⟨passed, others⟩, same⟩
      exact ⟨update start item, (checked start item _).mpr ⟨passed, rfl⟩, (ih _).mpr ⟨others, same⟩⟩

theorem forM_eq_ok_iff (items : List ι) :
    items.forM check = .ok () ↔ ∀ item ∈ items, check item = .ok () := by
  induction items with
  | nil => exact ⟨fun _ _ member => absurd member List.not_mem_nil, fun _ => rfl⟩
  | cons item items ih =>
    have turn : (item :: items).forM check = (check item >>= fun _ => items.forM check) := rfl
    rw [turn, seq_eq_ok_iff, List.forall_mem_cons, ih]

theorem mapM_eq_ok_iff {transform : ι → Except ε τ} {image : ι → τ}
    (checked : ∀ item result, transform item = .ok result ↔ check item = .ok () ∧ image item = result)
    (items : List ι) (results : List τ) :
    items.mapM transform = .ok results ↔ (∀ item ∈ items, check item = .ok ()) ∧ items.map image = results := by
  induction items generalizing results with
  | nil =>
    simp only [List.mapM_nil, List.not_mem_nil, false_implies, implies_true, true_and, List.map_nil]
    exact Except.ok.injEq [] results ▸ Iff.rfl
  | cons item items ih =>
    rw [List.mapM_cons, bind_eq_ok_iff, List.forall_mem_cons, List.map_cons]
    constructor
    · rintro ⟨first, one, rest⟩
      obtain ⟨others, found, same⟩ := bind_eq_ok_iff.mp rest
      obtain ⟨passed, rfl⟩ := (checked item first).mp one
      obtain ⟨allPassed, rfl⟩ := (ih others).mp found
      exact ⟨⟨passed, allPassed⟩, Except.ok.inj same⟩
    · rintro ⟨⟨passed, allPassed⟩, rfl⟩
      exact ⟨image item, (checked item _).mpr ⟨passed, rfl⟩,
        bind_eq_ok_iff.mpr ⟨items.map image, (ih _).mpr ⟨allPassed, rfl⟩, rfl⟩⟩

end

end

section

variable {σ τ ε : Type}

/-- `good` holds of every state that a run comes to, its start apart. -/
def AfterEach (step : σ → ε → σ) (good : σ → Prop) : σ → List ε → Prop
  | _, [] => True
  | state, edit :: edits => good (step state edit) ∧ AfterEach step good (step state edit) edits

variable {step : σ → ε → σ} {good : σ → Prop}

instance AfterEach.decidable [DecidablePred good] : (state : σ) → (edits : List ε) → Decidable (AfterEach step good state edits)
  | _, [] => isTrue trivial
  | state, edit :: edits =>
    have := AfterEach.decidable (step state edit) edits
    inferInstanceAs (Decidable (good (step state edit) ∧ AfterEach step good (step state edit) edits))

theorem afterEach_congr {follow : τ → ε → τ} {other : τ → Prop} {allowed : ε → Prop} {related : σ → τ → Prop}
    (same : ∀ state place, related state place → ∀ edit, allowed edit →
      (good (step state edit) ↔ other (follow place edit)) ∧
        (good (step state edit) → related (step state edit) (follow place edit)))
    {state : σ} {place : τ} {edits : List ε} (start : related state place) (all : ∀ edit ∈ edits, allowed edit) :
    AfterEach step good state edits ↔ AfterEach follow other place edits := by
  induction edits generalizing state place with
  | nil => exact Iff.rfl
  | cons edit edits later =>
    obtain ⟨now, next⟩ := same state place start edit (all edit List.mem_cons_self)
    rw [AfterEach, AfterEach, ← now]
    exact and_congr_right fun isGood =>
      later (next isGood) fun other member => all other (List.mem_cons_of_mem _ member)

end

end Antares.Library
