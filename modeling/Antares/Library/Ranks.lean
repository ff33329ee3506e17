import Mathlib.Data.Finset.Sort
import Mathlib.Data.List.Enum
import Mathlib.Data.List.Sort

/-! Sorts that keep no order between equivalent items, as the ones of standard libraries. Items in the order
of their keys, one for each key: the first item of a key keeps its place, and the rank of an item is the
number of smaller keys.
-/

set_option autoImplicit false

namespace Antares.Library

variable {α : Type}

structure StrictWeakOrder (less : α → α → Bool) : Prop where
  asymm : ∀ first second, less first second = true → less second first = false
  negTrans : ∀ first second third, less second first = false → less third second = false → less third first = false

def InOrder (less : α → α → Bool) (items : List α) : Prop :=
  items.Pairwise fun first second => less second first = false

structure UnstableSort (α : Type) where
  sort : (α → α → Bool) → List α → List α
  perm : ∀ less items, (sort less items).Perm items
  inOrder : ∀ less items, StrictWeakOrder less → InOrder less (sort less items)

namespace UnstableSort

variable (sorting : UnstableSort α) {less : α → α → Bool} {items : List α}

theorem mem_sort {item : α} : item ∈ sorting.sort less items ↔ item ∈ items := (sorting.perm less items).mem_iff

theorem sort_singleton (item : α) : sorting.sort less [item] = [item] := List.perm_singleton.mp (sorting.perm less [item])

theorem filter_sort_append (weak : StrictWeakOrder less) (ordered : InOrder less items) (added : List α) (chosen : α → Bool)
    (others : ∀ item ∈ added, chosen item = false)
    (apart : ∀ first ∈ items, ∀ second ∈ items, chosen first = true → chosen second = true →
      less first second = false → less second first = false → first = second) :
    (sorting.sort less (items ++ added)).filter chosen = items.filter chosen := by
  have same : ((sorting.sort less (items ++ added)).filter chosen).Perm (items.filter chosen) := by
    have moved := (sorting.perm less (items ++ added)).filter chosen
    have none : added.filter chosen = [] := List.filter_eq_nil_iff.mpr fun item member => by simp [others item member]
    rwa [List.filter_append, none, List.append_nil] at moved
  refine List.Perm.eq_of_pairwise ?_ ((sorting.inOrder less _ weak).filter chosen) (List.Pairwise.filter chosen ordered) same
  intro first second inFirst inSecond before after
  obtain ⟨firstItem, firstChosen⟩ := List.mem_filter.mp (same.mem_iff.mp inFirst)
  obtain ⟨secondItem, secondChosen⟩ := List.mem_filter.mp inSecond
  exact apart first firstItem second secondItem firstChosen secondChosen after before

end UnstableSort

def mergeSorting : UnstableSort α where
  sort less items := items.mergeSort fun first second => !less second first
  perm less items := List.mergeSort_perm items _
  inOrder less items weak := by
    have ordered := @List.pairwise_mergeSort α (fun first second => !less second first)
      (fun first second third before after => by
        simp only [Bool.not_eq_true'] at before after ⊢
        exact weak.negTrans first second third before after)
      (fun first second => by
        cases before : less second first with
        | false => rfl
        | true => simp [weak.asymm second first before]) items
    exact ordered.imp fun before => by simpa using before

end Antares.Library

namespace Antares.Library

namespace Ranks

variable {α κ : Type} [LinearOrder κ] (key : α → κ)

def insertNew (item : α) : List α → List α
  | [] => [item]
  | other :: others =>
    if key item < key other then item :: other :: others
    else if key other < key item then other :: insertNew item others
    else other :: others

def collected (items : List α) : List α := items.foldl (fun set item => insertNew key item set) []

def Sorted (items : List α) : Prop := items.Pairwise fun first second => key first < key second

def rank (keys : Finset κ) (k : κ) : Nat := (keys.filter (· < k)).card

variable {key}

theorem mem_insertNew {item other : α} {items : List α} (sorted : Sorted key items) :
    other ∈ insertNew key item items ↔ (other = item ∧ ∀ present ∈ items, key present ≠ key item) ∨ other ∈ items := by
  induction items with
  | nil => simp [insertNew]
  | cons next rest later =>
    have ⟨below, others⟩ := List.pairwise_cons.mp sorted
    unfold insertNew
    split_ifs with before after
    · have absent : ∀ present ∈ next :: rest, key present ≠ key item := by
        intro present member
        rcases List.mem_cons.mp member with rfl | member
        · exact before.ne'
        · exact (before.trans (below present member)).ne'
      rw [List.mem_cons, and_iff_left absent]
    · rw [List.mem_cons, later others, List.forall_mem_cons, and_iff_right after.ne, List.mem_cons]
      exact or_left_comm
    · have same : key next = key item := le_antisymm (not_lt.mp before) (not_lt.mp after)
      have present : ¬∀ present ∈ next :: rest, key present ≠ key item := fun absent =>
        absent next List.mem_cons_self same
      rw [or_iff_right fun both => present both.2]

theorem Sorted.insertNew {item : α} {items : List α} (sorted : Sorted key items) : Sorted key (insertNew key item items) := by
  induction items with
  | nil => exact List.pairwise_singleton _ _
  | cons next rest later =>
    have ⟨below, others⟩ := List.pairwise_cons.mp sorted
    unfold Ranks.insertNew
    split_ifs with before after
    · apply List.pairwise_cons.mpr
      refine ⟨fun other member => ?_, sorted⟩
      rcases List.mem_cons.mp member with rfl | member
      · exact before
      · exact before.trans (below other member)
    · apply List.pairwise_cons.mpr
      refine ⟨fun other member => ?_, later others⟩
      rcases (mem_insertNew others).mp member with ⟨rfl, -⟩ | member
      · exact after
      · exact below other member
    · exact sorted

theorem collected_concat (items : List α) (item : α) : collected key (items ++ [item]) = insertNew key item (collected key items) := by
  simp [collected]

theorem sorted_collected (items : List α) : Sorted key (collected key items) := by
  induction items using List.reverseRecOn with
  | nil => exact List.Pairwise.nil
  | append_singleton items item earlier =>
    rw [collected_concat]
    exact earlier.insertNew

theorem keys_collected (items : List α) : ∀ k, k ∈ (collected key items).map key ↔ k ∈ items.map key := by
  induction items using List.reverseRecOn with
  | nil => simp [collected]
  | append_singleton items item earlier =>
    intro k
    have before := earlier k
    simp only [List.mem_map] at before
    simp only [collected_concat, List.mem_map, mem_insertNew (sorted_collected items), List.mem_append, List.mem_singleton]
    constructor
    · intro ⟨other, member, same⟩
      rcases member with ⟨rfl, -⟩ | member
      · exact ⟨other, .inr rfl, same⟩
      · obtain ⟨found, inside, same⟩ := before.mp ⟨other, member, same⟩
        exact ⟨found, .inl inside, same⟩
    · intro ⟨other, member, same⟩
      rcases member with member | rfl
      · obtain ⟨found, inside, same⟩ := before.mpr ⟨other, member, same⟩
        exact ⟨found, .inr inside, same⟩
      · by_cases present : ∀ present ∈ collected key items, key present ≠ key other
        · exact ⟨other, .inl ⟨rfl, present⟩, same⟩
        · obtain ⟨found, inside, there⟩ := by simpa using present
          exact ⟨found, .inr inside, there.trans same⟩

variable {items : List α}

theorem absent_iff {item : α} : (∀ present ∈ collected key items, key present ≠ key item) ↔
    ∀ present ∈ items, key present ≠ key item := by
  have same := @keys_collected _ _ _ key items (key item)
  simp only [List.mem_map] at same
  constructor
  · intro absent other member there
    obtain ⟨found, inside, same⟩ := same.mpr ⟨other, member, there⟩
    exact absent found inside same
  · intro absent other member there
    obtain ⟨found, inside, same⟩ := same.mp ⟨other, member, there⟩
    exact absent found inside same

theorem mem_collected {f : Nat → α} {count : Nat} {item : α} : item ∈ collected key ((List.range count).map f) ↔
    ∃ place < count, item = f place ∧ ∀ earlier < place, key (f earlier) ≠ key (f place) := by
  induction count with
  | zero => simp [collected]
  | succ count earlier =>
    have first : (∀ present ∈ collected key ((List.range count).map f), key present ≠ key (f count)) ↔
        ∀ earlier < count, key (f earlier) ≠ key (f count) := by
      rw [absent_iff]
      simp only [List.forall_mem_map, List.mem_range]
    rw [List.range_succ, List.map_append, List.map_singleton, collected_concat, mem_insertNew (sorted_collected _), first,
      earlier]
    constructor
    · rintro (⟨rfl, absent⟩ | ⟨place, before, rest⟩)
      · exact ⟨count, Nat.lt_succ_self count, rfl, absent⟩
      · exact ⟨place, before.trans (Nat.lt_succ_self count), rest⟩
    · intro ⟨place, before, same, absent⟩
      rcases Nat.lt_succ_iff_lt_or_eq.mp before with before | rfl
      · exact .inr ⟨place, before, same, absent⟩
      · exact .inl ⟨same, absent⟩

theorem Sorted.rank_eq (sorted : Sorted key items) {item : α} {place : Nat}
    (stands : items[place]? = some item) : rank (items.map key).toFinset (key item) = place := by
  induction items generalizing place with
  | nil => exact absurd stands (by simp)
  | cons first rest later =>
    have ⟨below, others⟩ := List.pairwise_cons.mp sorted
    unfold rank at later ⊢
    cases place with
    | zero =>
      obtain rfl := Option.some.inj stands
      rw [Finset.card_eq_zero, Finset.filter_eq_empty_iff]
      intro k member
      obtain ⟨other, inside, rfl⟩ := List.mem_map.mp (List.mem_toFinset.mp member)
      rcases List.mem_cons.mp inside with rfl | inside
      · exact lt_irrefl _
      · exact (below other inside).not_gt
    | succ place =>
      have inside : item ∈ rest := List.mem_of_getElem? stands
      have absent : key first ∉ ((rest.map key).toFinset.filter (· < key item)) := by
        intro member
        obtain ⟨other, inside, same⟩ := List.mem_map.mp (List.mem_toFinset.mp (Finset.mem_filter.mp member).1)
        exact (below other inside).ne' same
      rw [List.map_cons, List.toFinset_cons, Finset.filter_insert, if_pos (below item inside), Finset.card_insert_of_notMem absent,
        later others stands]

theorem rank_of_mem_zipIdx {item : α} {place : Nat} (stands : (item, place) ∈ (collected key items).zipIdx) :
    rank (items.map key).toFinset (key item) = place := by
  have same : (items.map key).toFinset = ((collected key items).map key).toFinset := by
    ext k
    rw [List.mem_toFinset, List.mem_toFinset, keys_collected]
  rw [same]
  exact (sorted_collected items).rank_eq (List.mem_zipIdx_iff_getElem?.mp stands)

variable {keys : Finset κ}

theorem rank_lt_rank {k k' : κ} (member : k ∈ keys) (less : k < k') : rank keys k < rank keys k' := by
  apply Finset.card_lt_card
  rw [Finset.ssubset_iff_of_subset]
  · exact ⟨k, Finset.mem_filter.mpr ⟨member, less⟩, fun inside => lt_irrefl k (Finset.mem_filter.mp inside).2⟩
  · intro other inside
    obtain ⟨present, smaller⟩ := Finset.mem_filter.mp inside
    exact Finset.mem_filter.mpr ⟨present, smaller.trans less⟩

theorem rank_lt_card {k : κ} (member : k ∈ keys) : rank keys k < keys.card := by
  apply Finset.card_lt_card
  rw [Finset.ssubset_iff_of_subset (Finset.filter_subset _ _)]
  exact ⟨k, member, fun inside => lt_irrefl k (Finset.mem_filter.mp inside).2⟩

theorem rank_injOn : Set.InjOn (rank keys) keys := by
  intro k member k' member' same
  rcases lt_trichotomy k k' with less | equal | greater
  · exact absurd same (rank_lt_rank member less).ne
  · exact equal
  · exact absurd same (rank_lt_rank member' greater).ne'

end Ranks

end Antares.Library
