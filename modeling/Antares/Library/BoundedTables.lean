import Mathlib.Data.List.Basic

/-! Tables of fixed sizes: an access out of range stops the run, as an error of its own. What a run satisfies
is read off its steps, and a loop keeps what each of its turns keeps.
-/

set_option autoImplicit false

namespace Antares.Library

abbrev Tables (T K : Type) := T → Nat → K

/-- How a run stops: an access out of range, or an error of the program. -/
inductive Fault (T ε : Type) where
  | outOfRange (table : T) (index : Nat)
  | thrown (error : ε)

section
variable {T K ε α β : Type}

abbrev Run (T ε α : Type) := Except (Fault T ε) α

section
variable (size : T → Nat)

def readTable (tables : Tables T K) (table : T) (index : Nat) : Run T ε K :=
  if index < size table then .ok (tables table index) else .error (.outOfRange table index)

def writeTable [DecidableEq T] (tables : Tables T K) (table : T) (index : Nat) (value : K) : Run T ε (Tables T K) :=
  if index < size table then .ok (Function.update tables table (Function.update (tables table) index value))
  else .error (.outOfRange table index)

end

variable (run : Run T ε α)

/-- No access is out of range, a result meets `post`, and an error is thrown only where `thrown` allows it. -/
def Run.Satisfies (thrown : Prop) (post : α → Prop) : Prop :=
  match run with
  | .ok result => post result
  | .error (.thrown _) => thrown
  | .error (.outOfRange _ _) => False

def Run.InRange : Prop := ∀ table index, run ≠ .error (.outOfRange table index)

def Run.OutOfRange : Prop := ∃ table index, run = .error (.outOfRange table index)

section
variable {thrown : Prop} {post : α → Prop}

@[simp] theorem satisfies_pure (result : α) : Run.Satisfies (pure result : Run T ε α) thrown post ↔ post result := Iff.rfl

@[simp] theorem satisfies_bind (run : Run T ε β) (next : β → Run T ε α) :
    Run.Satisfies (run >>= next) thrown post ↔ run.Satisfies thrown fun result => (next result).Satisfies thrown post := by
  rcases run with (⟨table, index⟩ | error) | result <;> rfl

@[simp] theorem satisfies_map (run : Run T ε β) (image : β → α) :
    Run.Satisfies (image <$> run) thrown post ↔ run.Satisfies thrown fun result => post (image result) := by
  rcases run with (⟨table, index⟩ | error) | result <;> rfl

@[simp] theorem satisfies_readTable {size : T → Nat} {post : K → Prop} (tables : Tables T K) (table : T) (index : Nat) :
    Run.Satisfies (readTable size tables table index : Run T ε K) thrown post ↔ index < size table ∧ post (tables table index) := by
  unfold readTable
  split_ifs with inside
  · exact (and_iff_right inside).symm
  · simp [inside, Run.Satisfies]

@[simp] theorem satisfies_writeTable [DecidableEq T] {size : T → Nat} {post : Tables T K → Prop} (tables : Tables T K) (table : T)
    (index : Nat) (value : K) : Run.Satisfies (writeTable size tables table index value : Run T ε (Tables T K)) thrown post ↔
      index < size table ∧ post (Function.update tables table (Function.update (tables table) index value)) := by
  unfold writeTable
  split_ifs with inside
  · exact (and_iff_right inside).symm
  · simp [inside, Run.Satisfies]

theorem Run.Satisfies.mono {run : Run T ε α} {weaker : Prop} {other : α → Prop} (satisfies : run.Satisfies thrown post)
    (allowed : thrown → weaker) (implied : ∀ result, post result → other result) : run.Satisfies weaker other := by
  rcases run with (⟨table, index⟩ | error) | result
  · exact satisfies
  · exact allowed satisfies
  · exact implied result satisfies

theorem satisfies_andThen {run : Run T ε β} {next : β → Run T ε α} (first : run.Satisfies thrown fun _ => True)
    (rest : ∀ result, (next result).Satisfies thrown post) : Run.Satisfies (run >>= next) thrown post := by
  rw [satisfies_bind]
  exact first.mono id fun result _ => rest result

theorem Run.Satisfies.bind {run : Run T ε β} {next : β → Run T ε α} {middle : β → Prop} (first : run.Satisfies thrown middle)
    (rest : ∀ result, middle result → (next result).Satisfies thrown post) : Run.Satisfies (run >>= next) thrown post := by
  rw [satisfies_bind]
  exact first.mono id rest

theorem satisfies_join {condition : Prop} [Decidable condition] {run : Run T ε β} {next : β → Run T ε α} {other : β}
    {middle : β → Prop} (first : Run.Satisfies (if condition then run else pure other) thrown middle)
    (rest : ∀ result, middle result → (next result).Satisfies thrown post) :
    Run.Satisfies (if condition then run >>= next else next other) thrown post := by
  split_ifs at first ⊢
  · exact first.bind rest
  · exact rest other first

theorem Run.Satisfies.inRange {run : Run T ε α} (satisfies : run.Satisfies thrown post) : run.InRange := by
  rintro table index rfl
  exact satisfies

theorem Run.Satisfies.exists_ok {run : Run T ε α} (satisfies : run.Satisfies False post) : ∃ result, run = .ok result ∧ post result := by
  rcases run with (⟨table, index⟩ | error) | result
  · exact satisfies.elim
  · exact satisfies.elim
  · exact ⟨result, rfl, satisfies⟩

theorem satisfies_mapM {ι : Type} {read : ι → Run T ε α} {items : List ι}
    (each : ∀ item ∈ items, (read item).Satisfies thrown fun _ => True) :
    Run.Satisfies (items.mapM read) thrown fun _ => True := by
  induction items with
  | nil => trivial
  | cons item items ih =>
    rw [List.mapM_cons]
    apply satisfies_andThen (each item List.mem_cons_self)
    intro result
    apply satisfies_andThen (ih fun other listed => each other (List.mem_cons_of_mem _ listed))
    intro results
    trivial

theorem satisfies_mapM_eq {ι : Type} {read : ι → Run T ε α} {value : ι → α} {items : List ι}
    (each : ∀ item ∈ items, (read item).Satisfies thrown fun result => result = value item) :
    Run.Satisfies (items.mapM read) thrown fun results => results = items.map value := by
  induction items with
  | nil => rfl
  | cons item items ih =>
    rw [List.mapM_cons, satisfies_bind]
    apply (each item List.mem_cons_self).mono id
    rintro _ rfl
    rw [satisfies_bind]
    apply (ih fun other listed => each other (List.mem_cons_of_mem _ listed)).mono id
    rintro _ rfl
    rfl

theorem satisfies_foldlM_range {σ : Type} (invariant : Nat → σ → Prop) {turn : σ → Nat → Run T ε σ} {turns : Nat}
    (kept : ∀ index < turns, ∀ state, invariant index state → (turn state index).Satisfies thrown (invariant (index + 1)))
    {start : σ} (init : invariant 0 start) : Run.Satisfies ((List.range turns).foldlM turn start) thrown (invariant turns) := by
  induction turns with
  | zero => exact init
  | succ turns ih =>
    rw [List.range_succ, List.foldlM_append, satisfies_bind]
    apply (ih fun index before => kept index (Nat.lt_succ_of_lt before)).mono id
    intro state holds
    rw [List.foldlM_cons, satisfies_bind]
    exact kept turns (Nat.lt_succ_self turns) state holds

theorem satisfies_foldlM {σ ι : Type} {turn : σ → ι → Run T ε σ} {items : List ι}
    (each : ∀ item ∈ items, ∀ state, (turn state item).Satisfies thrown fun _ => True) (start : σ) :
    Run.Satisfies (items.foldlM turn start) thrown fun _ => True := by
  induction items generalizing start with
  | nil => trivial
  | cons item items ih =>
    rw [List.foldlM_cons]
    apply satisfies_andThen (each item List.mem_cons_self start)
    intro state
    exact ih (fun other listed => each other (List.mem_cons_of_mem _ listed)) state

end

section
variable {σ ι : Type} {turn : σ → ι → Run T ε σ}

theorem Run.OutOfRange.not_inRange {run : Run T ε α} (outOfRange : run.OutOfRange) : ¬ run.InRange := by
  obtain ⟨table, index, stopped⟩ := outOfRange
  exact fun inRange => inRange table index stopped

theorem Run.OutOfRange.bind {run : Run T ε β} (outOfRange : run.OutOfRange) (next : β → Run T ε α) :
    Run.OutOfRange (run >>= next) := by
  obtain ⟨table, index, rfl⟩ := outOfRange
  exact ⟨table, index, rfl⟩

theorem outOfRange_foldlM {items : List ι}
    (each : ∀ item ∈ items, ∀ state, (∃ result, turn state item = .ok result) ∨ Run.OutOfRange (turn state item))
    {item : ι} (listed : item ∈ items) (stops : ∀ state, Run.OutOfRange (turn state item)) (start : σ) :
    Run.OutOfRange (items.foldlM turn start) := by
  induction items generalizing start with
  | nil => exact absurd listed List.not_mem_nil
  | cons first items ih =>
    rw [List.foldlM_cons]
    rcases each first List.mem_cons_self start with ⟨state, ends⟩ | stopped
    · rcases List.mem_cons.mp listed with rfl | later
      · exact (stops start).bind _
      · rw [ends]
        exact ih (fun other member => each other (List.mem_cons_of_mem _ member)) later state
    · exact stopped.bind _

theorem foldlM_ok_or_outOfRange {items : List ι}
    (each : ∀ item ∈ items, ∀ state, (∃ result, turn state item = .ok result) ∨ Run.OutOfRange (turn state item)) (start : σ) :
    (∃ result, items.foldlM turn start = .ok result) ∨ Run.OutOfRange (items.foldlM turn start) := by
  induction items generalizing start with
  | nil => exact .inl ⟨start, rfl⟩
  | cons first items ih =>
    rw [List.foldlM_cons]
    rcases each first List.mem_cons_self start with ⟨state, ends⟩ | stopped
    · rw [ends]
      exact ih (fun other member => each other (List.mem_cons_of_mem _ member)) state
    · exact .inr (stopped.bind _)

end

end

end Antares.Library
