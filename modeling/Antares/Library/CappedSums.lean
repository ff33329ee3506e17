import Mathlib.Algebra.BigOperators.Intervals
import Mathlib.Algebra.Order.BigOperators.Group.Finset
import Mathlib.Algebra.Order.BigOperators.Group.List
import Mathlib.Algebra.Order.Field.Basic
import Mathlib.Algebra.Order.Group.MinMax
import Mathlib.Algebra.Order.Monoid.OrderDual
import Mathlib.Data.List.MinMax
import Mathlib.Tactic.Abel
import Mathlib.Tactic.Linarith
import Mathlib.Tactic.Ring

/-! Running sums that are cut at a ceiling after each term, and their split into a level and a deficit; sums of terms that are
chosen one by one, each among its own choices; water shared between vessels with tops.
-/

set_option autoImplicit false

namespace Antares.Library

section
variable {α : Type} [AddCommGroup α] [LinearOrder α] [IsOrderedAddMonoid α]

/-- The sum of the first terms from `start`, cut at `cap` after each of them. -/
def cappedSum (cap start : α) (terms : Nat → α) : Nat → α
  | 0 => start
  | n + 1 => min cap (cappedSum cap start terms n + terms n)

def cutOff (cap start : α) (terms : Nat → α) (n : Nat) : α :=
  max 0 (cappedSum cap start terms n + terms n - cap)

variable {cap start : α} {terms : Nat → α}

omit [IsOrderedAddMonoid α] in
theorem cappedSum_le_cap (within : start ≤ cap) (n : Nat) : cappedSum cap start terms n ≤ cap := by
  cases n with
  | zero => exact within
  | succ n => exact min_le_left _ _

theorem cappedSum_succ (n : Nat) :
    cappedSum cap start terms (n + 1) = cappedSum cap start terms n + terms n - cutOff cap start terms n := by
  rw [cappedSum, cutOff]
  rcases le_total (cappedSum cap start terms n + terms n) cap with below | above
  · rw [min_eq_right below, max_eq_left (sub_nonpos.2 below), sub_zero]
  · rw [min_eq_left above, max_eq_right (sub_nonneg.2 above), sub_sub_cancel]

theorem cappedSum_eq (n : Nat) :
    cappedSum cap start terms n =
      start + ∑ i ∈ Finset.range n, terms i - ∑ i ∈ Finset.range n, cutOff cap start terms i := by
  induction n with
  | zero => simp [cappedSum]
  | succ n ih =>
    rw [cappedSum_succ, ih, Finset.sum_range_succ, Finset.sum_range_succ]
    abel

theorem le_cappedSum_iff (bound : α) (n : Nat) :
    bound ≤ cappedSum cap start terms n ↔
      bound ≤ start + ∑ i ∈ Finset.range n, terms i ∧
        ∀ k < n, bound ≤ cap + ∑ i ∈ Finset.Ico (k + 1) n, terms i := by
  induction n generalizing bound with
  | zero => simp [cappedSum]
  | succ n ih =>
    have later {k : Nat} (earlier : k < n) :
        bound ≤ cap + ∑ i ∈ Finset.Ico (k + 1) (n + 1), terms i ↔
          bound - terms n ≤ cap + ∑ i ∈ Finset.Ico (k + 1) n, terms i := by
      rw [Finset.sum_Ico_succ_top earlier, ← add_assoc, sub_le_iff_le_add]
    rw [cappedSum, le_min_iff, ← sub_le_iff_le_add, ih, Finset.sum_range_succ, ← add_assoc, sub_le_iff_le_add]
    constructor
    · rintro ⟨atCap, whole, fromCap⟩
      refine ⟨whole, fun k inRange => ?_⟩
      -- The last term alone can only be cut, the others are followed by it.
      rcases Nat.lt_succ_iff_lt_or_eq.1 inRange with earlier | rfl
      · exact (later earlier).2 (fromCap k earlier)
      · simpa using atCap
    · rintro ⟨whole, fromCap⟩
      have atCap : bound ≤ cap := by simpa using fromCap n n.lt_succ_self
      exact ⟨atCap, whole, fun k earlier => (later earlier).1 (fromCap k (Nat.lt_succ_of_lt earlier))⟩

section Balance
variable {level lost : Nat → α} {n : Nat}

theorem le_cappedSum_of_balance (first : level 0 = start)
    (balance : ∀ h < n, level (h + 1) = level h + terms h - lost h) (nonneg : ∀ h < n, 0 ≤ lost h)
    (below : ∀ h < n, level (h + 1) ≤ cap) : ∀ h ≤ n, level h ≤ cappedSum cap start terms h := by
  intro h inRange
  induction h with
  | zero => exact first.le
  | succ h ih =>
    refine le_min (below h inRange) ?_
    rw [balance h inRange]
    exact (sub_le_self _ (nonneg h inRange)).trans (add_le_add_left (ih (Nat.le_of_succ_le inRange)) (terms h))

omit [LinearOrder α] [IsOrderedAddMonoid α] in
theorem level_eq_of_balance (first : level 0 = start)
    (balance : ∀ h < n, level (h + 1) = level h + terms h - lost h) :
    level n = start + ∑ h ∈ Finset.range n, terms h - ∑ h ∈ Finset.range n, lost h := by
  induction n with
  | zero => simp [first]
  | succ n ih =>
    rw [balance n n.lt_succ_self, ih fun h earlier => balance h (Nat.lt_succ_of_lt earlier),
      Finset.sum_range_succ, Finset.sum_range_succ]
    abel

theorem sum_cutOff_le_of_balance (first : level 0 = start)
    (balance : ∀ h < n, level (h + 1) = level h + terms h - lost h) (nonneg : ∀ h < n, 0 ≤ lost h)
    (below : ∀ h < n, level (h + 1) ≤ cap) :
    ∑ h ∈ Finset.range n, cutOff cap start terms h ≤ ∑ h ∈ Finset.range n, lost h := by
  have dominated := le_cappedSum_of_balance first balance nonneg below n le_rfl
  rw [level_eq_of_balance first balance, cappedSum_eq] at dominated
  exact (sub_le_sub_iff_left _).1 dominated

theorem cappedSum_eq_of_balance (first : level 0 = start)
    (balance : ∀ h < n, level (h + 1) = level h + terms h - lost h) (nonneg : ∀ h < n, 0 ≤ lost h)
    (below : ∀ h < n, level (h + 1) ≤ cap) (atCap : ∀ h < n, 0 < lost h → level (h + 1) = cap) :
    ∀ h ≤ n, cappedSum cap start terms h = level h := by
  intro h inRange
  induction h with
  | zero => exact first.symm
  | succ h ih =>
    have before := ih (Nat.le_of_succ_le inRange)
    rw [cappedSum, before]
    rcases (nonneg h inRange).eq_or_lt with nothing | something
    · have kept : level (h + 1) = level h + terms h := by rw [balance h inRange, ← nothing, sub_zero]
      rw [← kept, min_eq_right (below h inRange)]
    · have full := atCap h inRange something
      have more : cap ≤ level h + terms h := by
        rw [← full, balance h inRange]
        exact sub_le_self _ something.le
      rw [full, min_eq_left more]

end Balance

/-- The part of a capped sum below zero, which a level that cannot go below zero owes. -/
def deficit (value : α) : α := max 0 (-value)

theorem deficit_eq_zero_iff {value : α} : deficit value = 0 ↔ 0 ≤ value := by
  rw [deficit, max_eq_left_iff, neg_nonpos]

theorem level_sub_deficit (value : α) : max 0 value - deficit value = value := by
  rw [deficit]
  rcases le_total 0 value with up | down
  · rw [max_eq_right up, max_eq_left (neg_nonpos.2 up), sub_zero]
  · rw [max_eq_left down, max_eq_right (neg_nonneg.2 down), zero_sub, neg_neg]

end

section
variable {ι κ R : Type*} [AddCommMonoid R] [PartialOrder R] [IsOrderedAddMonoid R]
variable (choices : ι → Set κ) (value : ι → κ → R)

def chosenSums (items : List ι) : Set R :=
  {total | ∃ picks, List.Forall₂ (fun item pick => pick ∈ choices item) items picks ∧
    (List.zipWith value items picks).sum = total}

variable {choices value} {bound : ι → R} {items : List ι}

theorem isGreatest_chosenSums (greatest : ∀ item ∈ items, IsGreatest (value item '' choices item) (bound item)) :
    IsGreatest (chosenSums choices value items) (items.map bound).sum := by
  induction items with
  | nil =>
    refine ⟨⟨[], List.Forall₂.nil, rfl⟩, ?_⟩
    rintro total ⟨picks, chosen, rfl⟩
    rw [List.forall₂_nil_left_iff.mp chosen]
    exact le_rfl
  | cons item items ih =>
    obtain ⟨⟨pick, among, reached⟩, above⟩ := greatest item List.mem_cons_self
    obtain ⟨⟨picks, chosen, total⟩, others⟩ := ih fun other member => greatest other (List.mem_cons_of_mem _ member)
    rw [List.map_cons, List.sum_cons]
    constructor
    · refine ⟨pick :: picks, List.Forall₂.cons among chosen, ?_⟩
      rw [List.zipWith_cons_cons, List.sum_cons, reached, total]
    · rintro _ ⟨_, chosen, rfl⟩
      cases chosen with
      | cons among rest =>
        rw [List.zipWith_cons_cons, List.sum_cons]
        exact add_le_add (above ⟨_, among, rfl⟩) (others ⟨_, rest, rfl⟩)

theorem isLeast_chosenSums (least : ∀ item ∈ items, IsLeast (value item '' choices item) (bound item)) :
    IsLeast (chosenSums choices value items) (items.map bound).sum :=
  @isGreatest_chosenSums ι κ Rᵒᵈ _ _ _ choices value bound items least

end

section Levels
variable {α : Type} [Field α] [LinearOrder α]

def filled (tops : List α) (level : α) : α := (tops.map fun top => min top level).sum

variable {tops rest : List α} {water ceiling level low x : α}

theorem filled_cons (top : α) : filled (top :: tops) level = min top level + filled tops level := by
  simp [filled]

theorem filled_perm {count : Nat} (parts : tops.Perm (List.replicate count low ++ rest)) :
    filled tops level = count * min low level + filled rest level := by
  unfold filled
  rw [(parts.map fun top => min top level).sum_eq, List.map_append, List.sum_append, List.map_replicate,
    List.sum_replicate, nsmul_eq_mul]

theorem filled_of_le (below : ∀ top ∈ tops, level ≤ top) : filled tops level = tops.length * level := by
  induction tops with
  | nil => simp [filled]
  | cons top rest later =>
    rw [filled_cons, later fun other member => below other (List.mem_cons_of_mem _ member),
      min_eq_right (below top List.mem_cons_self), List.length_cons, Nat.cast_succ]
    ring

theorem filled_of_ge (above : ∀ top ∈ tops, top ≤ level) : filled tops level = tops.sum := by
  induction tops with
  | nil => simp [filled]
  | cons top rest later =>
    rw [filled_cons, later fun other member => above other (List.mem_cons_of_mem _ member),
      min_eq_left (above top List.mem_cons_self), List.sum_cons]

/-- The level of some water under a ceiling: all water is used, or the level is held at the ceiling, or
every vessel is full.
-/
inductive WaterLevel (tops : List α) (water ceiling level : α) : Prop
  | used (below : level ≤ ceiling) (all : filled tops level = water)
  | held (same : level = ceiling) (left : filled tops level < water)
  | full (below : level ≤ ceiling) (whole : ∀ top ∈ tops, top ≤ level) (left : filled tops level < water)

theorem WaterLevel.le_ceiling (found : WaterLevel tops water ceiling level) : level ≤ ceiling := by
  cases found with
  | used below all => exact below
  | held same left => exact same.le
  | full below whole left => exact below

theorem WaterLevel.filled_le (found : WaterLevel tops water ceiling level) : filled tops level ≤ water := by
  cases found with
  | used below all => exact all.le
  | held same left => exact left.le
  | full below whole left => exact left.le

variable [IsStrictOrderedRing α]

theorem filled_mono (below : level ≤ x) : filled tops level ≤ filled tops x :=
  List.sum_le_sum fun top _ => min_le_min_left top below

theorem filled_lt (top : α) (member : top ∈ tops) (above : level < top) (more : level < x) :
    filled tops level < filled tops x := by
  refine List.sum_lt_sum _ _ (fun top _ => min_le_min_left top more.le) ⟨top, member, ?_⟩
  rw [min_eq_right above.le]
  exact lt_min above more

theorem filled_le_length_mul : filled tops level ≤ tops.length * level := by
  induction tops with
  | nil => simp [filled]
  | cons top rest later =>
    have first := min_le_right top level
    rw [filled_cons, List.length_cons, Nat.cast_succ]
    linarith

namespace WaterLevel

theorem le_iff (found : WaterLevel tops water ceiling level) {top : α} (member : top ∈ tops) (inside : x ≤ top) :
    x ≤ level ↔ x ≤ ceiling ∧ filled tops x ≤ water := by
  constructor
  · intro reached
    exact ⟨reached.trans found.le_ceiling, (filled_mono reached).trans found.filled_le⟩
  · rintro ⟨underCeiling, enough⟩
    cases found with
    | used below all =>
      by_contra higher
      rw [not_le] at higher
      exact absurd (filled_lt top member (higher.trans_le inside) higher) (all ▸ enough.not_gt)
    | held same left => exact same ▸ underCeiling
    | full below whole left => exact inside.trans (whole top member)

theorem filled_eq_iff (found : WaterLevel tops water ceiling level) (room : water ≤ tops.sum) :
    filled tops level = water ↔ water ≤ filled tops ceiling := by
  cases found with
  | used below all => exact iff_of_true all (all ▸ filled_mono below)
  | held same left => exact iff_of_false left.ne (same ▸ left.not_ge)
  | full below whole left => exact absurd (filled_of_ge whole ▸ left) room.not_gt

theorem addGroup {count : Nat} (parts : tops.Perm (List.replicate count low ++ rest)) (underCeiling : low ≤ ceiling)
    (lowest : ∀ top ∈ rest, low ≤ top) (some : rest ≠ []) (more : rest.length * low < water - count * low)
    (found : WaterLevel rest (water - count * low) ceiling level) : low ≤ level ∧ WaterLevel tops water ceiling level := by
  have reached : low ≤ level := by
    obtain ⟨top, member⟩ := List.exists_mem_of_ne_nil rest some
    refine (found.le_iff member (lowest top member)).mpr ⟨underCeiling, ?_⟩
    rw [filled_of_le lowest]
    exact more.le
  have total : filled tops level = count * low + filled rest level := by
    rw [filled_perm parts, min_eq_left reached]
  refine ⟨reached, ?_⟩
  cases found with
  | used below all => exact .used below (by rw [total, all]; ring)
  | held same left => exact .held same (by rw [total]; linarith)
  | full below whole left =>
    refine .full below (fun top member => ?_) (by rw [total]; linarith)
    rcases List.mem_append.mp (parts.mem_iff.mp member) with inGroup | inRest
    · exact (List.eq_of_mem_replicate inGroup).le.trans reached
    · exact whole top inRest

end WaterLevel

end Levels

section Groups
variable {α : Type} [LinearOrder α]

theorem exists_least {values : List α} {value : α} (member : value ∈ values) : ∃ low ∈ values, values.min? = some low ∧ low ≤ value := by
  cases least : values.min? with
  | none => exact absurd member (by simp [List.min?_eq_none_iff.mp least])
  | some low =>
    obtain ⟨inside, lowest⟩ := List.min?_eq_some_iff.mp least
    exact ⟨low, inside, rfl, lowest value member⟩

variable [Add α]

/-- The lowest value of the group of a value, where a group goes on from its lowest value by a width. -/
def groupLow (width : α) : Nat → List α → α → α
  | 0, _, value => value
  | fuel + 1, values, value =>
    match values.min? with
    | none => value
    | some low => if value ≤ low + width then low else groupLow width fuel (values.filter (low + width < ·)) value

variable {width : α} {fuel : Nat} {values : List α} {value low bound : α}

theorem groupLow_succ (least : values.min? = some low) :
    groupLow width (fuel + 1) values value =
      if value ≤ low + width then low else groupLow width fuel (values.filter (low + width < ·)) value := by
  rw [groupLow, least]

theorem le_groupLow (below : ∀ other ∈ values, bound ≤ other) (member : value ∈ values) :
    bound ≤ groupLow width fuel values value := by
  induction fuel generalizing values with
  | zero => exact below value member
  | succ fuel later =>
    obtain ⟨low, inside, least, -⟩ := exists_least member
    rw [groupLow_succ least]
    split_ifs with near
    · exact below low inside
    · exact later (fun other kept => below other (List.mem_filter.mp kept).1)
        (List.mem_filter.mpr ⟨member, decide_eq_true (not_le.mp near)⟩)

theorem groupLow_le (member : value ∈ values) : groupLow width fuel values value ≤ value := by
  induction fuel generalizing values with
  | zero => exact le_rfl
  | succ fuel later =>
    obtain ⟨low, -, least, lowest⟩ := exists_least member
    rw [groupLow_succ least]
    split_ifs with near
    · exact lowest
    · exact later (List.mem_filter.mpr ⟨member, decide_eq_true (not_le.mp near)⟩)

theorem le_groupLow_add (within : values.length ≤ fuel) (wide : ∀ value : α, value ≤ value + width) (member : value ∈ values) :
    value ≤ groupLow width fuel values value + width := by
  induction fuel generalizing values with
  | zero => exact wide value
  | succ fuel later =>
    obtain ⟨low, inside, least, lowest⟩ := exists_least member
    rw [groupLow_succ least]
    split_ifs with near
    · exact near
    · refine later ?_ (List.mem_filter.mpr ⟨member, decide_eq_true (not_le.mp near)⟩)
      have fewer : (values.filter (low + width < ·)).length < values.length :=
        List.length_filter_lt_length_iff_exists.mpr ⟨low, inside, by simp [wide low]⟩
      omega

end Groups

end Antares.Library
