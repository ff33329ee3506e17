import Mathlib.Algebra.BigOperators.Group.List.Basic
import Mathlib.Algebra.Order.Ring.Nat

/-! Loops that overwrite the array they read: sums of consecutive blocks written over the
first entries, a copy taken on the way, and the running maximum of a range.
-/

set_option autoImplicit false

namespace Antares.Library

section Blocks
variable {R : Type*} [AddMonoid R]

def blockSum (width : Nat) (array : Nat → R) (block : Nat) : R :=
  ((List.range width).map fun k => array (block * width + k)).sum

/-- Entry `block` becomes the sum of its block, one block after the other. -/
def sumInPlace (blocks width : Nat) (array : Nat → R) : Nat → R :=
  (List.range blocks).foldl (fun array block => Function.update array block (blockSum width array block)) array

/-- One turn of the loop that also keeps what it reads in a second array. -/
def sumAndCopyBlock (width : Nat) (state : (Nat → R) × (Nat → R)) (block : Nat) : (Nat → R) × (Nat → R) :=
  (Function.update state.1 block (blockSum width state.1 block),
    (List.range width).foldl (fun copy k =>
      Function.update copy (block * width + k) (state.1 (block * width + k))) state.2)

def sumAndCopy (blocks width : Nat) (array copy : Nat → R) : (Nat → R) × (Nat → R) :=
  (List.range blocks).foldl (sumAndCopyBlock width) (array, copy)

variable {width : Nat} (array copy : Nat → R)

theorem blockSum_congr {other : Nat → R} {block : Nat} (positive : 0 < width)
    (same : ∀ index, block ≤ index → other index = array index) :
    blockSum width other block = blockSum width array block := by
  unfold blockSum
  congr 1
  apply List.map_congr_left
  intro k _
  apply same
  have : block * 1 ≤ block * width := Nat.mul_le_mul_left block positive
  omega

theorem sumInPlace_apply (positive : 0 < width) (blocks index : Nat) :
    sumInPlace blocks width array index =
      if index < blocks then blockSum width array index else array index := by
  induction blocks generalizing index with
  | zero => rfl
  | succ blocks ih =>
    unfold sumInPlace at ih ⊢
    rw [List.range_succ, List.foldl_append, List.foldl_cons, List.foldl_nil, Function.update_apply]
    split_ifs with same before before
    · subst same
      apply blockSum_congr array positive
      intro later after
      rw [ih, if_neg (by omega)]
    · omega
    · rw [ih, if_pos (by omega)]
    · rw [ih, if_neg (by omega)]

theorem sumInPlace_width_one (blocks : Nat) : sumInPlace blocks 1 array = array := by
  funext index
  rw [sumInPlace_apply array zero_lt_one]
  split_ifs
  · simp [blockSum]
  · rfl

theorem sumAndCopy_fst (blocks : Nat) :
    (sumAndCopy blocks width array copy).1 = sumInPlace blocks width array := by
  unfold sumAndCopy sumInPlace
  generalize List.range blocks = items
  induction items generalizing array copy with
  | nil => rfl
  | cons block items ih =>
    rw [List.foldl_cons, List.foldl_cons]
    exact ih _ _

omit [AddMonoid R] in
theorem foldl_update_apply (offset : Nat) (count index : Nat) :
    (List.range count).foldl (fun copy k => Function.update copy (offset + k) (array (offset + k))) copy index =
      if offset ≤ index ∧ index < offset + count then array index else copy index := by
  induction count with
  | zero => rw [if_neg (by omega)]; rfl
  | succ count ih =>
    rw [List.range_succ, List.foldl_append, List.foldl_cons, List.foldl_nil, Function.update_apply, ih]
    split_ifs with same _ _ _ <;> first | omega | rfl | rw [same]

theorem sumAndCopy_snd (positive : 0 < width) (blocks index : Nat) :
    (sumAndCopy blocks width array copy).2 index =
      if index < blocks * width then array index else copy index := by
  induction blocks with
  | zero => rw [Nat.zero_mul, if_neg (Nat.not_lt_zero index)]; rfl
  | succ blocks ih =>
    have turn : sumAndCopy (blocks + 1) width array copy =
        sumAndCopyBlock width (sumAndCopy blocks width array copy) blocks := by
      unfold sumAndCopy
      rw [List.range_succ, List.foldl_append, List.foldl_cons, List.foldl_nil]
    rw [turn]
    dsimp only [sumAndCopyBlock]
    rw [foldl_update_apply, ih, sumAndCopy_fst]
    have row : (blocks + 1) * width = blocks * width + width := Nat.succ_mul blocks width
    -- the block just copied lies behind every sum written so far
    have behind : blocks * 1 ≤ blocks * width := Nat.mul_le_mul_left blocks positive
    rw [sumInPlace_apply array positive]
    split_ifs <;> first | rfl | omega

end Blocks

section OneBlock
variable {R : Type*} [AddCommGroup R] (array : Nat → R)

variable (count : Nat)

def laterSum : R := ((List.range count).map fun k => array (k + 1)).sum

theorem blockSum_zero :
    blockSum (count + 1) array 0 = array 0 + laterSum array count := by
  unfold blockSum laterSum
  rw [List.range_succ_eq_map, List.map_cons, List.sum_cons, List.map_map]
  simp [Function.comp_def]

theorem sumInPlace_twice_iff :
    sumInPlace 1 (count + 1) (sumInPlace 1 (count + 1) array) 0 = sumInPlace 1 (count + 1) array 0 ↔
      laterSum array count = 0 := by
  have positive : 0 < count + 1 := Nat.succ_pos count
  -- only the first entry was overwritten
  have later : laterSum (sumInPlace 1 (count + 1) array) count = laterSum array count := rfl
  rw [sumInPlace_apply _ positive, if_pos zero_lt_one, blockSum_zero, later, add_eq_left]

theorem sumInPlace_one_of_laterSum {count : Nat} (none : laterSum array count = 0) :
    sumInPlace 1 (count + 1) array = array := by
  funext index
  rw [sumInPlace_apply array (Nat.succ_pos count)]
  split_ifs with first
  · rw [Nat.lt_one_iff] at first
    subst first
    rw [blockSum_zero, none, add_zero]
  · rfl

end OneBlock

section RunningMax
variable {κ R : Type*} [LinearOrder R]

def runningMax (values : κ → R) (start : R) (items : List κ) : R :=
  items.foldl (fun best item => if best < values item then values item else best) start

variable (values : κ → R) (start : R) (items : List κ)

theorem runningMax_cons (item : κ) :
    runningMax values start (item :: items) = runningMax values (max start (values item)) items := by
  unfold runningMax
  rw [List.foldl_cons]
  congr 1
  split_ifs with above
  · exact (max_eq_right above.le).symm
  · exact (max_eq_left (not_lt.mp above)).symm

theorem runningMax_le_iff (bound : R) :
    runningMax values start items ≤ bound ↔ start ≤ bound ∧ ∀ item ∈ items, values item ≤ bound := by
  induction items generalizing start with
  | nil => simp [runningMax]
  | cons item items ih =>
    rw [runningMax_cons, ih, max_le_iff, List.forall_mem_cons, and_assoc]

theorem start_le_runningMax : start ≤ runningMax values start items :=
  ((runningMax_le_iff values start items _).mp le_rfl).1

theorem le_runningMax {item : κ} (listed : item ∈ items) : values item ≤ runningMax values start items :=
  ((runningMax_le_iff values start items _).mp le_rfl).2 item listed

theorem runningMax_attained :
    runningMax values start items = start ∨ ∃ item ∈ items, runningMax values start items = values item := by
  induction items generalizing start with
  | nil => exact .inl rfl
  | cons item items ih =>
    rw [runningMax_cons]
    rcases ih (max start (values item)) with same | ⟨other, listed, same⟩
    · rcases max_choice start (values item) with left | right
      · exact .inl (same.trans left)
      · exact .inr ⟨item, List.mem_cons_self, same.trans right⟩
    · exact .inr ⟨other, List.mem_cons_of_mem item listed, same⟩

variable {values items} in
theorem runningMax_congr {others : κ → R} (same : ∀ item ∈ items, values item = others item) :
    runningMax values start items = runningMax others start items := by
  induction items generalizing start with
  | nil => rfl
  | cons item items ih =>
    rw [List.forall_mem_cons] at same
    rw [runningMax_cons, runningMax_cons, same.1]
    exact ih _ same.2

end RunningMax

section
variable {α ι κ : Type} {step : (κ → α) → ι → κ → α} {place : κ} {items : List ι}

theorem foldl_apply_of_skips (skips : ∀ item ∈ items, ∀ array, step array item place = array place) (start : κ → α) :
    items.foldl step start place = start place := by
  induction items generalizing start with
  | nil => rfl
  | cons item items later =>
    rw [List.foldl_cons, later (fun other member => skips other (List.mem_cons_of_mem _ member)),
      skips item List.mem_cons_self]

theorem foldl_apply_of_sets (hit : ι) {value : α} (sets : ∀ array, step array hit place = value)
    (skips : ∀ item ∈ items, item ≠ hit → ∀ array, step array item place = array place) (member : hit ∈ items)
    (start : κ → α) : items.foldl step start place = value := by
  induction items generalizing start with
  | nil => exact absurd member List.not_mem_nil
  | cons item items later =>
    have others := fun other inside => skips other (List.mem_cons_of_mem item inside)
    rw [List.foldl_cons]
    by_cases again : hit ∈ items
    · exact later others again _
    · rcases List.mem_cons.mp member with rfl | inside
      · have kept := foldl_apply_of_skips (fun other inside => others other inside fun same => again (same ▸ inside))
        rw [kept, sets]
      · exact absurd inside again

end

end Antares.Library
