import Mathlib.Algebra.BigOperators.Group.Finset.Piecewise
import Mathlib.Algebra.Order.BigOperators.Group.List
import Mathlib.Algebra.Order.Ring.Int
import Mathlib.Data.Int.ModEq
import Mathlib.Order.Interval.Finset.Nat

/-! Amounts booked for days to come, in slots that are used again round after round. As long as
nothing is booked a round or more ahead, the slots stand for an unbounded calendar.
-/

set_option autoImplicit false

namespace Antares.Library

section
variable {ι : Type} (place : ι → Nat) (amount : ι → Int)

variable (items : List ι) (slots : Nat → Int)

/-- The amounts of the items are added in their places, one after the other. -/
def book : Nat → Int :=
  items.foldl (fun slots item => Function.update slots (place item) (slots (place item) + amount item)) slots

def bookedIn (slot : Nat) : Int :=
  (items.map fun item => if place item = slot then amount item else 0).sum

theorem book_apply (slot : Nat) :
    book place amount items slots slot = slots slot + bookedIn place amount items slot := by
  unfold book bookedIn
  induction items generalizing slots with
  | nil => simp
  | cons item items later =>
    rw [List.foldl_cons, later, List.map_cons, List.sum_cons, Function.update_apply]
    by_cases here : place item = slot
    · subst here
      rw [if_pos rfl, if_pos rfl, add_assoc]
    · rw [if_neg (Ne.symm here), if_neg here, zero_add]

variable {place amount}

theorem sum_bookedIn {size : Nat} {items : List ι} (inside : ∀ item ∈ items, place item < size) :
    ∑ slot ∈ Finset.range size, bookedIn place amount items slot = (items.map amount).sum := by
  unfold bookedIn
  induction items with
  | nil => simp
  | cons item items later =>
    obtain ⟨here, inside⟩ := List.forall_mem_cons.mp inside
    simp only [List.map_cons, List.sum_cons]
    rw [Finset.sum_add_distrib, later inside, Finset.sum_ite_eq, if_pos (Finset.mem_range.mpr here)]

theorem bookedIn_nonneg {items : List ι} (nonneg : ∀ item ∈ items, 0 ≤ amount item) (slot : Nat) :
    0 ≤ bookedIn place amount items slot := by
  refine List.sum_nonneg fun value listed => ?_
  obtain ⟨item, member, rfl⟩ := List.mem_map.mp listed
  split_ifs
  · exact nonneg item member
  · exact le_rfl

theorem bookedIn_congr {other : ι → Nat} {items : List ι} {slot target : Nat}
    (same : ∀ item ∈ items, place item = slot ↔ other item = target) :
    bookedIn place amount items slot = bookedIn other amount items target :=
  congrArg List.sum (List.map_congr_left fun item member => if_congr (same item member) rfl rfl)

theorem bookedIn_eq_zero {items : List ι} {slot : Nat} (none : ∀ item ∈ items, place item ≠ slot) :
    bookedIn place amount items slot = 0 := by
  refine List.sum_eq_zero fun value listed => ?_
  obtain ⟨item, member, rfl⟩ := List.mem_map.mp listed
  exact if_neg (none item member)

theorem bookedIn_filter_add (part : ι → Bool) (items : List ι) (slot : Nat) :
    bookedIn place amount (items.filter part) slot + bookedIn place amount (items.filter (!part ·)) slot =
      bookedIn place amount items slot := by
  unfold bookedIn
  induction items with
  | nil => rfl
  | cons item items later =>
    cases inPart : part item
    · simp only [List.filter_cons, inPart, Bool.not_false, if_true, if_false, Bool.false_eq_true, List.map_cons,
        List.sum_cons, ← later]
      exact add_left_comm _ _ _
    · simp only [List.filter_cons, inPart, Bool.not_true, if_true, if_false, Bool.false_eq_true, List.map_cons,
        List.sum_cons, ← later]
      exact add_assoc _ _ _

end

section
variable {size day : Nat} {slots after calendar change : Nat → Int}

theorem slot_eq_iff {delay other : Nat} (near : delay < size) (otherNear : other < size) :
    (day + delay) % size = (day + other) % size ↔ delay = other := by
  constructor
  · intro same
    have congruent : delay % size = other % size := Nat.ModEq.add_left_cancel' day same
    rwa [Nat.mod_eq_of_lt near, Nat.mod_eq_of_lt otherNear] at congruent
  · rintro rfl
    rfl

theorem sum_slots (positive : 0 < size) (slots : Nat → Int) :
    ∑ delay ∈ Finset.range size, slots ((day + delay) % size) = ∑ slot ∈ Finset.range size, slots slot := by
  have inside : Set.MapsTo (fun delay => (day + delay) % size) (Finset.range size) (Finset.range size) :=
    fun delay _ => Finset.mem_coe.mpr (Finset.mem_range.mpr (Nat.mod_lt _ positive))
  have apart : Set.InjOn (fun delay => (day + delay) % size) (Finset.range size) := by
    intro delay near other otherNear same
    exact (slot_eq_iff (Finset.mem_range.mp near) (Finset.mem_range.mp otherNear)).mp same
  exact Finset.sum_nbij _ inside apart (Finset.surjOn_of_injOn_of_card_le _ inside apart le_rfl) fun _ _ => rfl

theorem sum_update {slot : Nat} (inside : slot < size) (value : Int) :
    ∑ other ∈ Finset.range size, Function.update slots slot value other =
      (∑ other ∈ Finset.range size, slots other) - slots slot + value := by
  rw [Finset.sum_update_of_mem (Finset.mem_range.mpr inside),
    Finset.sum_eq_sum_sdiff_singleton_add (Finset.mem_range.mpr inside) slots]
  omega

/-- From a day on, the slots have what the calendar has for the days of a round; it has nothing later. -/
structure Shows (size : Nat) (slots : Nat → Int) (day : Nat) (calendar : Nat → Int) : Prop where
  near : ∀ delay < size, slots ((day + delay) % size) = calendar (day + delay)
  far : ∀ due, day + size ≤ due → calendar due = 0

theorem Shows.turn (shows : Shows size slots day calendar) (emptied : after (day % size) = 0)
    (changed : ∀ delay, 0 < delay → delay < size →
      after ((day + delay) % size) = slots ((day + delay) % size) + change (day + delay))
    (within : ∀ due, day + size ≤ due → change due = 0) :
    Shows size after (day + 1) fun due => calendar due + change due where
  near := by
    intro delay near
    by_cases last : delay + 1 = size
    · have round : day + 1 + delay = day + size := by omega
      rw [round, Nat.add_mod_right, emptied, shows.far _ le_rfl, within _ le_rfl, add_zero]
    · have next : day + 1 + delay = day + (delay + 1) := by omega
      rw [next, changed (delay + 1) (Nat.succ_pos _) (by omega), shows.near (delay + 1) (by omega)]
  far := by
    intro due late
    rw [shows.far due (by omega), within due (by omega), add_zero]

end

end Antares.Library
