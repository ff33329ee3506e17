import Mathlib.Algebra.BigOperators.Intervals
import Mathlib.Algebra.Order.BigOperators.Group.Finset
import Mathlib.Algebra.Order.Ring.Nat

/-! A range cut by consecutive blocks, items counted in the block of each, and the sums of blocks of a table.
A cycle cut into blocks of one duration, but for one that takes what is left: a value that is constant on
the blocks changes twice within less than the duration at the ends of the short one only.
-/

set_option autoImplicit false

namespace Antares.Library

open Finset

theorem sum_cut {bounds : Nat → Nat} (ordered : ∀ i, bounds i ≤ bounds (i + 1)) {first last : Nat}
    (starts : bounds 0 ≤ first) (within : first ≤ last) (blocks : Nat) :
    ∑ i ∈ range blocks, (min (bounds (i + 1)) last - max (bounds i) first) = min (bounds blocks) last - first := by
  induction blocks with
  | zero => simp [Nat.sub_eq_zero_of_le (Nat.le_trans (Nat.min_le_left ..) starts)]
  | succ blocks ih =>
    have next := ordered blocks
    rw [sum_range_succ, ih]
    omega

def tally {ι : Type} (block : ι → Nat) (count : Nat → Nat) (items : List ι) : Nat → Nat :=
  items.foldl (fun count item => Function.update count (block item) (count (block item) + 1)) count

theorem sum_tally {ι : Type} {block : ι → Nat} {blocks : Nat} {items : List ι}
    (inside : ∀ item ∈ items, block item < blocks) (count : Nat → Nat) :
    ∑ i ∈ range blocks, tally block count items i = ∑ i ∈ range blocks, count i + items.length := by
  induction items generalizing count with
  | nil => simp [tally]
  | cons item items ih =>
    have here := mem_range.mpr (inside item List.mem_cons_self)
    have others := ih (fun other member => inside other (List.mem_cons_of_mem _ member))
      (Function.update count (block item) (count (block item) + 1))
    rw [tally, List.foldl_cons, ← tally, others, sum_update_of_mem here, List.length_cons,
      ← Finset.add_sum_erase _ count here, Finset.sdiff_singleton_eq_erase]
    omega

section
variable {M : Type} [AddCommMonoid M]

def addByBlock {ι : Type} (block : ι → Nat) (value : ι → M) (target : Nat → M) (items : List ι) : Nat → M :=
  items.foldl (fun target item => Function.update target (block item) (target (block item) + value item)) target

theorem addByBlock_range' (block : Nat → Nat) (value : Nat → M) (target : Nat → M) (first count i : Nat) :
    addByBlock block value target (List.range' first count) i =
      target i + ∑ item ∈ Ico first (first + count) with block item = i, value item := by
  rw [sum_filter]
  induction count with
  | zero => simp [addByBlock]
  | succ count ih =>
    unfold addByBlock at ih ⊢
    rw [List.range'_concat, List.foldl_append, List.foldl_cons, List.foldl_nil, mul_comm, mul_one, ← add_assoc,
      sum_Ico_succ_top (Nat.le_add_right first count), Function.update_apply]
    by_cases here : block (first + count) = i
    · rw [if_pos here.symm, if_pos here, here, ih, add_assoc]
    · rw [if_neg (Ne.symm here), if_neg here, ih, add_zero]

theorem foldl_range'_add (value : Nat → M) (sum : M) (first count : Nat) :
    (List.range' first count).foldl (fun sum i => sum + value i) sum = sum + ∑ i ∈ Ico first (first + count), value i := by
  induction count with
  | zero => simp
  | succ count ih =>
    rw [List.range'_concat, List.foldl_append, List.foldl_cons, List.foldl_nil, mul_comm, mul_one, ← add_assoc,
      sum_Ico_succ_top (Nat.le_add_right first count), ih, add_assoc]

theorem sum_blocks {bounds : Nat → Nat} (ordered : ∀ i, bounds i ≤ bounds (i + 1)) (value : Nat → M) (first count : Nat) :
    ∑ i ∈ Ico first (first + count), ∑ j ∈ Ico (bounds i) (bounds (i + 1)), value j =
      ∑ j ∈ Ico (bounds first) (bounds (first + count)), value j := by
  induction count with
  | zero => simp
  | succ count ih =>
    have before : bounds first ≤ bounds (first + count) := by
      clear ih
      induction count with
      | zero => exact Nat.le_refl _
      | succ count ih => exact ih.trans (ordered _)
    rw [← add_assoc, sum_Ico_succ_top (Nat.le_add_right first count), ih, sum_Ico_consecutive _ before (ordered _)]

end

section
variable {M : Type} [AddCommMonoid M] (table : Nat → M)

/-- So many values of a table, added up from an index on, and the index behind them. -/
def addValues : Nat → M × Nat → M × Nat
  | 0, sum => sum
  | count + 1, (d, indx) => addValues count (d + table indx, indx + 1)

theorem addValues_eq (count : Nat) (d : M) (indx : Nat) :
    addValues table count (d, indx) = (d + ∑ j ∈ range count, table (indx + j), indx + count) := by
  induction count generalizing d indx with
  | zero => rw [addValues, sum_range_zero, add_zero, add_zero]
  | succ count ih =>
    rw [addValues, ih, sum_range_succ', add_zero, add_assoc, add_comm (table indx)]
    simp only [Nat.add_assoc, Nat.add_comm 1]

variable (length : Nat → Nat) (finish : Nat → M → M)

def fillBlocks : List Nat → (Nat → M) × Nat → (Nat → M) × Nat
  | [], filled => filled
  | i :: entries, (target, indx) =>
    let (d, behind) := addValues table (length i) (0, indx)
    fillBlocks entries (Function.update target i (finish i d), behind)

variable {table length finish}

theorem fillBlocks_range' {bounds : Nat → Nat} (next : ∀ i, bounds (i + 1) = bounds i + length i) (target : Nat → M)
    (first count : Nat) :
    fillBlocks table length finish (List.range' first count) (target, bounds first) =
      (fun i => if first ≤ i ∧ i < first + count then finish i (∑ j ∈ Ico (bounds i) (bounds (i + 1)), table j)
        else target i, bounds (first + count)) := by
  induction count generalizing first target with
  | zero =>
    refine Prod.ext ?_ rfl
    funext i
    exact (if_neg (by omega)).symm
  | succ count ih =>
    rw [List.range'_succ, fillBlocks, addValues_eq, ← next first]
    dsimp only
    rw [ih, zero_add]
    refine Prod.ext ?_ (congrArg bounds (by omega))
    funext i
    dsimp only
    by_cases same : i = first
    · subst same
      rw [if_neg (by omega), if_pos (by omega), Function.update_self, next, sum_Ico_eq_sum_range, Nat.add_sub_cancel_left]
    · rw [Function.update_of_ne same]
      exact if_congr (by omega) rfl rfl

end

theorem foldl_update_range' {M : Type} (change : Nat → M → M) (target : Nat → M) (first count i : Nat) :
    (List.range' first count).foldl (fun target j => Function.update target j (change j (target j))) target i =
      if first ≤ i ∧ i < first + count then change i (target i) else target i := by
  induction count with
  | zero => exact (if_neg (by omega)).symm
  | succ count ih =>
    rw [List.range'_concat, List.foldl_append, List.foldl_cons, List.foldl_nil, mul_comm, mul_one, Function.update_apply]
    by_cases last : i = first + count
    · rw [if_pos last, if_pos (by omega), ← last, ih, if_neg (by omega)]
    · rw [if_neg last, ih]
      exact if_congr (by omega) rfl rfl

end Antares.Library

namespace Antares.Library

section
variable (cycle duration : Nat)

/-- The block that is wrapped over the end of the cycle takes a duration, or what a first one leaves. -/
def wrappedLength : Nat := min duration (cycle - duration)

/-- The first place of the block of a place; the wrapped block is the last one. -/
def blockAt (place : Nat) : Nat :=
  if place < cycle - wrappedLength cycle duration then place / duration * duration else cycle - wrappedLength cycle duration

def shortBlock : Nat :=
  if 2 * duration ≤ cycle then cycle - duration - cycle % duration else duration

def ChangesAt {α : Type} (value : Nat → α) (place : Nat) : Prop := value place ≠ value ((place + cycle - 1) % cycle)

end

variable {cycle duration : Nat}

theorem starts_of_changes {α : Type} {value : Nat → α} (positive : 0 < duration)
    (constant : ∀ place < cycle, value place = value (blockAt cycle duration place)) {place : Nat} (within : place < cycle)
    (changes : ChangesAt cycle value place) :
    place < cycle - wrappedLength cycle duration ∧ duration ∣ place ∨
      place = cycle - wrappedLength cycle duration := by
  have wrapped : wrappedLength cycle duration ≤ cycle - duration := Nat.min_le_right _ _
  rcases Nat.eq_zero_or_pos place with rfl | later
  · left
    exact ⟨by omega, Nat.dvd_zero duration⟩
  · have previous : (place + cycle - 1) % cycle = place - 1 := by
      rw [show place + cycle - 1 = place - 1 + cycle by omega, Nat.add_mod_right, Nat.mod_eq_of_lt (by omega)]
    unfold ChangesAt at changes
    rw [previous, constant place within, constant (place - 1) (by omega)] at changes
    by_contra none
    push Not at none
    apply changes
    congr 1
    unfold blockAt
    rcases Nat.lt_trichotomy place (cycle - wrappedLength cycle duration) with before | same | after
    · have inside : ¬ duration ∣ place := none.1 before
      rw [if_pos before, if_pos (by omega)]
      have quotient : (place - 1) / duration = place / duration := by
        rw [← Nat.succ_div_of_not_dvd (show ¬ duration ∣ place - 1 + 1 by rwa [Nat.sub_add_cancel later])]
        rw [Nat.sub_add_cancel later]
      rw [quotient]
    · exact absurd same none.2
    · rw [if_neg (by omega), if_neg (by omega)]

theorem wrappedLength_eq :
    2 * duration ≤ cycle ∧ wrappedLength cycle duration = duration ∨
      cycle < 2 * duration ∧ duration ≤ cycle ∧ wrappedLength cycle duration = cycle - duration ∨
      cycle < duration ∧ wrappedLength cycle duration = 0 := by
  unfold wrappedLength
  omega

theorem close_starts {first distance : Nat} (short : 0 < distance) (close : distance < duration) (apart : distance < cycle)
    (inside : first < cycle)
    (start : first < cycle - wrappedLength cycle duration ∧ duration ∣ first ∨ first = cycle - wrappedLength cycle duration)
    (other : (first + distance) % cycle < cycle - wrappedLength cycle duration ∧ duration ∣ (first + distance) % cycle ∨
      (first + distance) % cycle = cycle - wrappedLength cycle duration) :
    first = shortBlock cycle duration ∧ distance = cycle % duration := by
  have notMultiple : ¬ duration ∣ distance := fun divides => absurd (Nat.le_of_dvd short divides) (by omega)
  have zero_of_lt {place : Nat} (divides : duration ∣ place) (before : place < duration) : place = 0 :=
    Nat.eq_zero_of_dvd_of_lt divides before
  have lengths := @wrappedLength_eq cycle duration
  generalize wrappedLength cycle duration = wrapped at lengths start other
  unfold shortBlock
  -- the second start is in this turn of the cycle or in the next one
  rcases Nat.lt_or_ge (first + distance) cycle with before | after
  · rw [Nat.mod_eq_of_lt before] at other
    rcases start with ⟨firstInside, firstDivides⟩ | firstEnds
    · rcases other with ⟨_, bothDivide⟩ | ends
      · exact absurd ((Nat.dvd_add_right firstDivides).mp bothDivide) notMultiple
      · rcases lengths with ⟨long, rfl⟩ | ⟨long, fits, rfl⟩ | ⟨long, rfl⟩
        · -- the short block is the last one before the wrapped one
          have rest : distance = cycle % wrapped := by
            obtain ⟨blocks, rfl⟩ := firstDivides
            have whole : cycle = wrapped * (blocks + 1) + distance := by
              rw [Nat.mul_add, Nat.mul_one]
              omega
            rw [whole, Nat.mul_add_mod, Nat.mod_eq_of_lt close]
          rw [if_pos long, ← rest]
          omega
        · have := zero_of_lt firstDivides (by omega)
          omega
        · omega
    · omega
  · rw [Nat.mod_eq_sub_mod after, Nat.mod_eq_of_lt (by omega)] at other
    rcases start with ⟨firstInside, firstDivides⟩ | firstEnds
    · rcases lengths with ⟨long, rfl⟩ | ⟨long, fits, rfl⟩ | ⟨long, rfl⟩
      · omega
      · have := zero_of_lt firstDivides (by omega)
        omega
      · have := zero_of_lt firstDivides (by omega)
        omega
    · rcases other with ⟨_, divides⟩ | ends
      · rcases lengths with ⟨long, rfl⟩ | ⟨long, fits, rfl⟩ | ⟨long, rfl⟩
        · omega
        · -- the wrapped block is the short one
          have starts := zero_of_lt divides (by omega)
          have rest : cycle % duration = cycle - duration := by
            rw [Nat.mod_eq_sub_mod fits, Nat.mod_eq_of_lt (by omega)]
          rw [if_neg (by omega), rest]
          omega
        · omega
      · omega

theorem close_changes {α : Type} {value : Nat → α} (positive : 0 < duration)
    (constant : ∀ place < cycle, value place = value (blockAt cycle duration place)) {first distance : Nat} (inside : first < cycle)
    (short : 0 < distance) (close : distance < duration) (apart : distance < cycle) (changes : ChangesAt cycle value first)
    (again : ChangesAt cycle value ((first + distance) % cycle)) :
    first = shortBlock cycle duration ∧ distance = cycle % duration := by
  apply close_starts short close apart inside
  · exact starts_of_changes positive constant inside changes
  · exact starts_of_changes positive constant (Nat.mod_lt _ (by omega)) again

section
variable {shift : Nat}

theorem shift_mod (place distance : Nat) : ((shift + place) % cycle + distance) % cycle = (shift + (place + distance) % cycle) % cycle := by
  rw [Nat.mod_add_mod, Nat.add_mod_mod, Nat.add_assoc]

theorem exists_shifted (within : shift ≤ cycle) {place : Nat} (inside : place < cycle) :
    ∃ shifted < cycle, (shift + shifted) % cycle = place := by
  refine ⟨(place + (cycle - shift)) % cycle, Nat.mod_lt _ (by omega), ?_⟩
  rw [Nat.add_mod_mod, show shift + (place + (cycle - shift)) = place + cycle by omega, Nat.add_mod_right, Nat.mod_eq_of_lt inside]

theorem changesAt_shift {α : Type} {value : Nat → α} {place : Nat} (inside : place < cycle) :
    ChangesAt cycle value ((shift + place) % cycle) ↔ ChangesAt cycle (fun place => value ((shift + place) % cycle)) place := by
  unfold ChangesAt
  rw [show (shift + place) % cycle + cycle - 1 = (shift + place) % cycle + (cycle - 1) by omega, shift_mod,
    show place + cycle - 1 = place + (cycle - 1) by omega]

theorem close_changes_shifted {α : Type} {value : Nat → α} (positive : 0 < duration) (within : shift ≤ cycle)
    (constant : ∀ place < cycle, value ((shift + place) % cycle) = value ((shift + blockAt cycle duration place) % cycle))
    {first distance : Nat} (inside : first < cycle) (short : 0 < distance) (close : distance < duration) (apart : distance < cycle)
    (changes : ChangesAt cycle value first) (again : ChangesAt cycle value ((first + distance) % cycle)) :
    first = (shift + shortBlock cycle duration) % cycle ∧ distance = cycle % duration := by
  obtain ⟨place, placeInside, rfl⟩ := exists_shifted within inside
  rw [shift_mod, changesAt_shift (Nat.mod_lt _ (by omega))] at again
  rw [changesAt_shift placeInside] at changes
  obtain ⟨found, rest⟩ := close_changes positive constant placeInside short close apart changes again
  exact ⟨by rw [found], rest⟩

end

end Antares.Library
