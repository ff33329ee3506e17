import Mathlib.Data.List.Induction
import Mathlib.Data.List.Nodup
import Mathlib.Data.Set.Lattice

/-! Loops that lay values over the rows of a table and report whether all went well: one that goes on after a failure, and one
that stops. A log that steps write to and some of them read, and that nothing ever clears.
-/

set_option autoImplicit false

namespace Antares.Library

section
variable {κ ι α : Type}

/-- A part of a loop: what it makes of a table, and whether all went well. -/
abbrev Laying (κ ι α : Type) : Type := (κ → ι → α) → (κ → ι → α) × Bool

def accumulate (parts : List (Laying κ ι α)) : Laying κ ι α := fun table =>
  parts.foldl (fun state part => ((part state.1).1, (part state.1).2 && state.2)) (table, true)

def untilFailure : List (Laying κ ι α) → Laying κ ι α
  | [], table => (table, true)
  | part :: parts, table => if (part table).2 then untilFailure parts (part table).1 else ((part table).1, false)

def reached (fine : κ → Bool) : List κ → List κ
  | [] => []
  | key :: keys => key :: if fine key then reached fine keys else []

theorem reached_or_iff {fine : κ → Bool} {keys : List κ} (distinct : keys.Nodup) (holds : κ → Prop) :
    (∀ key ∈ keys, key ∉ reached fine keys → holds key) ↔
      keys.Pairwise fun first second => fine first = false → holds second := by
  induction keys with
  | nil => simp
  | cons key keys ih =>
    obtain ⟨apart, others⟩ := List.nodup_cons.mp distinct
    have later {other : κ} (member : other ∈ keys) :
        other ∉ reached fine (key :: keys) ↔ (fine key = true → other ∉ reached fine keys) := by
      have different : other ≠ key := fun same => apart (same ▸ member)
      cases stops : fine key <;> simp [reached, stops, different]
    rw [List.pairwise_cons, ← ih others]
    constructor
    · intro missed
      constructor
      · intro other member stops
        refine missed other (List.mem_cons_of_mem key member) ((later member).mpr fun goes => ?_)
        rw [stops] at goes
        cases goes
      · intro other member out
        exact missed other (List.mem_cons_of_mem key member) ((later member).mpr fun _ => out)
    · intro ⟨first, rest⟩ other member out
      rcases List.mem_cons.mp member with rfl | member
      · exact absurd List.mem_cons_self out
      · cases stops : fine key with
        | false => exact first other member stops
        | true => exact rest other member ((later member).mp out stops)

variable [DecidableEq κ] (written : κ → ι → Option α)

/-- The rows of the keys, with what is written in place of what stood there. -/
def overlay (keys : List κ) (table : κ → ι → α) : κ → ι → α := fun key place =>
  if key ∈ keys then (written key place).getD (table key place) else table key place

theorem overlay_append (first second : List κ) (table : κ → ι → α) :
    overlay written (first ++ second) table = overlay written second (overlay written first table) := by
  funext key place
  unfold overlay
  cases written key place <;> by_cases inFirst : key ∈ first <;> by_cases inSecond : key ∈ second <;>
    simp [inFirst, inSecond]

/-- A part lays the rows of some keys and checks some, whatever the table. -/
structure Lays (fine : κ → Bool) (part : Laying κ ι α) (laid checked : List κ) : Prop where
  table : ∀ table, (part table).1 = overlay written laid table
  status : ∀ table, (part table).2 = checked.all fine

variable {written} {fine : κ → Bool}

theorem Lays.accumulate {ρ : Type} {part : ρ → Laying κ ι α} {laid checked : ρ → List κ} {items : List ρ}
    (each : ∀ item ∈ items, Lays written fine (part item) (laid item) (checked item)) :
    Lays written fine (accumulate (items.map part)) (items.flatMap laid) (items.flatMap checked) := by
  have run (table : κ → ι → α) : Library.accumulate (items.map part) table =
      (overlay written (items.flatMap laid) table, (items.flatMap checked).all fine) := by
    induction items using List.reverseRecOn with
    | nil => rfl
    | append_singleton items item ih =>
      have before := ih fun other member => each other (List.mem_append_left _ member)
      have last := each item (List.mem_append_right _ List.mem_cons_self)
      unfold Library.accumulate at before ⊢
      rw [List.map_append, List.foldl_append, before, List.flatMap_append, List.flatMap_append, overlay_append,
        List.all_append]
      simp [last.table, last.status, Bool.and_comm]
  exact ⟨fun table => congrArg Prod.fst (run table), fun table => congrArg Prod.snd (run table)⟩

theorem Lays.untilFailure {ρ : Type} {part : ρ → Laying κ ι α} {key : ρ → κ} {items : List ρ}
    (each : ∀ item ∈ items, Lays written fine (part item) [key item] [key item]) :
    Lays written fine (untilFailure (items.map part)) (reached fine (items.map key)) (items.map key) := by
  have run (table : κ → ι → α) : Library.untilFailure (items.map part) table =
      (overlay written (reached fine (items.map key)) table, (items.map key).all fine) := by
    induction items generalizing table with
    | nil => rfl
    | cons item items ih =>
      have first := each item List.mem_cons_self
      have status : (part item table).2 = fine (key item) := (first.status table).trans (by simp)
      rw [List.map_cons, Library.untilFailure, status, first.table]
      cases goes : fine (key item) with
      | false => simp [reached, goes]
      | true =>
        rw [if_pos rfl, ih fun other member => each other (List.mem_cons_of_mem item member), ← overlay_append]
        simp [reached, goes]
  exact ⟨fun table => congrArg Prod.fst (run table), fun table => congrArg Prod.snd (run table)⟩

end

structure LogStep (α : Type) where
  written : Set α
  reads : Prop

variable {α : Type}

def ReadsOwn : Set α → List (LogStep α) → Prop
  | _, [] => True
  | log, step :: steps =>
    (step.reads → log ∪ step.written = step.written) ∧ ReadsOwn (log ∪ step.written) steps

variable (steps : List (LogStep α))

def Repeats : Prop :=
  steps.Pairwise fun earlier later => later.reads → earlier.written ⊆ later.written

theorem readsOwn_iff (log : Set α) (steps : List (LogStep α)) :
    ReadsOwn log steps ↔ (∀ step ∈ steps, step.reads → log ⊆ step.written) ∧ Repeats steps := by
  induction steps generalizing log with
  | nil => simp [ReadsOwn, Repeats]
  | cons step steps ih =>
    unfold ReadsOwn Repeats
    rw [ih, List.forall_mem_cons, List.pairwise_cons, Set.union_eq_right]
    simp only [Set.union_subset_iff]
    constructor
    · rintro ⟨own, later, repeats⟩
      exact ⟨⟨own, fun other listed reads => (later other listed reads).1⟩,
        fun other listed reads => (later other listed reads).2, repeats⟩
    · rintro ⟨⟨own, before⟩, now, repeats⟩
      exact ⟨own, fun other listed reads => ⟨before other listed reads, now other listed reads⟩,
        repeats⟩

theorem readsOwn_empty_iff : ReadsOwn ∅ steps ↔ Repeats steps := by
  simp [readsOwn_iff]

end Antares.Library
