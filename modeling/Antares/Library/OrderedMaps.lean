import Mathlib.Data.List.Enum
import Mathlib.Data.List.Nodup
import Mathlib.Algebra.Order.Ring.Nat

/-! Values in the order of their keys: each key is found together with its place, and a new value
is put before the first larger key.
-/

set_option autoImplicit false

namespace Antares.Library

namespace OrderedMap

section
variable {α κ : Type} [DecidableEq κ] (key : α → κ)

def find (items : List α) (name : κ) : Option (α × Nat) := items.zipIdx.find? fun item => key item.1 = name

variable {key}

variable {items : List α}

theorem of_find {name : κ} {item : α} {place : Nat} (found : find key items name = some (item, place)) :
    items[place]? = some item ∧ key item = name :=
  ⟨List.mem_zipIdx_iff_getElem?.mp (List.mem_of_find?_eq_some found),
    of_decide_eq_true (@List.find?_some (α × Nat) (fun item => decide (key item.1 = name)) _ _ found)⟩

theorem find_of_getElem? (distinct : (items.map key).Nodup) {item : α} {place : Nat}
    (stands : items[place]? = some item) : find key items (key item) = some (item, place) := by
  obtain ⟨other, found⟩ : ∃ other, find key items (key item) = some other := by
    refine Option.isSome_iff_exists.mp (List.find?_isSome.mpr ?_)
    exact ⟨(item, place), List.mem_zipIdx_iff_getElem?.mpr stands, decide_eq_true rfl⟩
  obtain ⟨there, same⟩ := of_find found
  have places : other.2 = place := by
    have first : (items.map key)[other.2]? = some (key item) := by rw [List.getElem?_map, there, ← same]; rfl
    have second : (items.map key)[place]? = some (key item) := by rw [List.getElem?_map, stands]; rfl
    exact (List.getElem?_inj (List.getElem?_eq_some_iff.mp first).1 distinct).mp (first.trans second.symm)
  rw [places, stands] at there
  rw [found, ← places, Option.some.inj there]

theorem find_eq_none_iff {name : κ} : find key items name = none ↔ name ∉ items.map key := by
  rw [find, List.find?_eq_none]
  constructor
  · intro none member
    obtain ⟨item, inside, rfl⟩ := List.mem_map.mp member
    obtain ⟨place, stands⟩ := List.mem_iff_getElem?.mp inside
    exact none (item, place) (List.mem_zipIdx_iff_getElem?.mpr stands) (decide_eq_true rfl)
  · intro absent item member same
    refine absent (List.mem_map.mpr ⟨item.1, ?_, of_decide_eq_true same⟩)
    exact List.mem_iff_getElem?.mpr ⟨item.2, List.mem_zipIdx_iff_getElem?.mp member⟩

end

section
variable {α κ : Type} [LinearOrder κ] (key : α → κ)

def Sorted (items : List α) : Prop := (items.map key).Pairwise (· < ·)

instance (items : List α) : Decidable (Sorted key items) := inferInstanceAs (Decidable (List.Pairwise _ _))

def insert (item : α) : List α → List α
  | [] => [item]
  | next :: rest => if key item < key next then item :: next :: rest else next :: insert item rest

variable {key}

theorem Sorted.distinct {items : List α} (sorted : Sorted key items) : (items.map key).Nodup :=
  sorted.imp fun less => less.ne

theorem mem_insert {item other : α} {items : List α} : other ∈ insert key item items ↔ other = item ∨ other ∈ items := by
  induction items with
  | nil => simp [insert]
  | cons next rest later =>
    unfold insert
    split_ifs
    · rw [List.mem_cons]
    · rw [List.mem_cons, later, List.mem_cons]
      exact or_left_comm

theorem length_insert (item : α) (items : List α) : (insert key item items).length = items.length + 1 := by
  induction items with
  | nil => rfl
  | cons next rest later =>
    unfold insert
    split_ifs
    · rfl
    · rw [List.length_cons, later, List.length_cons]

theorem Sorted.insert {item : α} {items : List α} (sorted : Sorted key items) (absent : key item ∉ items.map key) :
    Sorted key (insert key item items) := by
  induction items with
  | nil => exact List.pairwise_singleton _ _
  | cons next rest later =>
    have ⟨below, others⟩ := List.pairwise_cons.mp sorted
    have ⟨different, absentLater⟩ := not_or.mp (fun either => absent (List.mem_cons.mpr either))
    unfold OrderedMap.insert
    split_ifs with before
    · refine List.pairwise_cons.mpr ⟨fun other member => ?_, sorted⟩
      rcases List.mem_cons.mp member with rfl | member
      · exact before
      · exact before.trans (below other member)
    · refine List.pairwise_cons.mpr ⟨fun other member => ?_, later others absentLater⟩
      obtain ⟨value, inside, rfl⟩ := List.mem_map.mp member
      rcases mem_insert.mp inside with rfl | inside
      · exact lt_of_le_of_ne (not_lt.mp before) (Ne.symm different)
      · exact below _ (List.mem_map_of_mem inside)

theorem insert_last {item : α} {items : List α} (last : ∀ other ∈ items, key other < key item) :
    insert key item items = items ++ [item] := by
  induction items with
  | nil => rfl
  | cons next rest later =>
    unfold insert
    rw [if_neg (last next List.mem_cons_self).not_gt, later fun other member => last other (List.mem_cons_of_mem _ member)]
    rfl

end

end OrderedMap

end Antares.Library
