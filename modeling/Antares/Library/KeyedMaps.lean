import Antares.Library.OrderedMaps
import Mathlib.Algebra.BigOperators.Ring.List
import Mathlib.Data.List.Count
import Mathlib.Data.List.Enum
import Mathlib.Data.List.Induction
import Mathlib.Data.List.Nodup
import Mathlib.Data.List.Perm.Basic
import Mathlib.Tactic.Abel

/-! Maps from keys to values, as the pairs in the order of the keys. Amounts that are added up by key, and the
sums that the tallies give. Registers of values by keys: ranks that are written into the values, and keys
that leave the register.
-/

set_option autoImplicit false

namespace Antares.Library

namespace OrderedMap

variable {α κ : Type} [LinearOrder κ] {key : α → κ}

theorem insert_perm (item : α) (items : List α) : (insert key item items).Perm (item :: items) := by
  induction items with
  | nil => exact List.Perm.refl _
  | cons next rest later =>
    unfold insert
    split_ifs
    · exact List.Perm.refl _
    · exact (later.cons next).trans (List.Perm.swap item next rest)

theorem Sorted.place_eq {items : List α} (sorted : Sorted key items) {item : α} {place : Nat}
    (stands : items[place]? = some item) : place = items.countP fun other => decide (key other < key item) := by
  induction items generalizing place with
  | nil => exact absurd stands (by simp)
  | cons next rest later =>
    obtain ⟨below, others⟩ := List.pairwise_cons.mp sorted
    cases place with
    | zero =>
      rw [List.getElem?_cons_zero, Option.some.injEq] at stands
      subst stands
      refine (List.countP_eq_zero.mpr fun other member => ?_).symm
      rw [decide_eq_true_eq, not_lt]
      rcases List.mem_cons.mp member with rfl | member
      · exact le_refl _
      · exact (below _ (List.mem_map_of_mem member)).le
    | succ place =>
      rw [List.getElem?_cons_succ] at stands
      have first : key next < key item := below _ (List.mem_map_of_mem (List.mem_of_getElem? stands))
      rw [List.countP_cons, ← later others stands, if_pos (decide_eq_true first)]

end OrderedMap

namespace KeyedMap

variable {κ ν : Type} [LinearOrder κ]

abbrev Sorted (entries : List (κ × ν)) : Prop := OrderedMap.Sorted Prod.fst entries

variable (entries : List (κ × ν))

variable (key : κ)

def lookup : Option ν := (entries.find? fun entry => entry.1 = key).map Prod.snd

def erase : List (κ × ν) := entries.filter fun entry => entry.1 ≠ key

def assign (value : ν) : List (κ × ν) :=
  OrderedMap.insert Prod.fst (key, value) (erase entries key)

variable {entries : List (κ × ν)} {key : κ} {value : ν}

theorem mem_erase {entry : κ × ν} : entry ∈ erase entries key ↔ entry ∈ entries ∧ entry.1 ≠ key := by
  simp [erase]

theorem mem_assign {entry : κ × ν} : entry ∈ assign entries key value ↔ entry = (key, value) ∨ entry ∈ entries ∧ entry.1 ≠ key := by
  rw [assign, OrderedMap.mem_insert, mem_erase]

theorem not_mem_keys_erase : key ∉ (erase entries key).map Prod.fst := by
  intro member
  obtain ⟨entry, inside, rfl⟩ := List.mem_map.mp member
  exact (mem_erase.mp inside).2 rfl

theorem erase_eq_self (absent : key ∉ entries.map Prod.fst) : erase entries key = entries :=
  List.filter_eq_self.mpr fun _ member => decide_eq_true fun same => absent (same ▸ List.mem_map_of_mem member)

namespace Sorted

theorem erase (sorted : Sorted entries) : Sorted (erase entries key) :=
  List.Pairwise.sublist (List.filter_sublist.map Prod.fst) sorted

theorem assign (sorted : Sorted entries) : Sorted (assign entries key value) :=
  OrderedMap.Sorted.insert sorted.erase not_mem_keys_erase

theorem eq_of_mem (sorted : Sorted entries) {first second : κ × ν} (inFirst : first ∈ entries) (inSecond : second ∈ entries)
    (same : first.1 = second.1) : first = second :=
  List.inj_on_of_nodup_map (OrderedMap.Sorted.distinct sorted) inFirst inSecond same

theorem lookup_eq_some_iff (sorted : Sorted entries) : lookup entries key = some value ↔ (key, value) ∈ entries := by
  unfold KeyedMap.lookup
  constructor
  · intro found
    obtain ⟨entry, first, rfl⟩ := Option.map_eq_some_iff.mp found
    have same : entry.1 = key := of_decide_eq_true (List.find?_some (p := fun entry : κ × ν => decide (entry.1 = key)) first)
    exact same ▸ List.mem_of_find?_eq_some first
  · intro member
    cases found : entries.find? fun entry => entry.1 = key with
    | none => exact absurd (decide_eq_true rfl) (List.find?_eq_none.mp found _ member)
    | some entry =>
      have same : entry.1 = key := of_decide_eq_true (List.find?_some (p := fun entry : κ × ν => decide (entry.1 = key)) found)
      rw [sorted.eq_of_mem (List.mem_of_find?_eq_some found) member same]
      rfl

end Sorted

theorem lookup_eq_none_iff : lookup entries key = none ↔ key ∉ entries.map Prod.fst := by
  simp only [lookup, Option.map_eq_none_iff, List.find?_eq_none, decide_eq_true_eq, List.mem_map, not_exists, not_and]

theorem Sorted.perm_erase (sorted : Sorted entries) (member : (key, value) ∈ entries) :
    entries.Perm ((key, value) :: KeyedMap.erase entries key) := by
  refine (List.perm_ext_iff_of_nodup ?_ ?_).mpr fun entry => ?_
  · exact (OrderedMap.Sorted.distinct sorted).of_map
  · refine List.nodup_cons.mpr ⟨fun inside => (mem_erase.mp inside).2 rfl, ?_⟩
    exact (OrderedMap.Sorted.distinct sorted).of_map.filter _
  · rw [List.mem_cons, mem_erase]
    constructor
    · intro inside
      by_cases same : entry.1 = key
      · exact .inl (sorted.eq_of_mem inside member same)
      · exact .inr ⟨inside, same⟩
    · rintro (rfl | ⟨inside, -⟩)
      · exact member
      · exact inside

theorem Sorted.filter_eq (sorted : Sorted entries) (member : (key, value) ∈ entries) {keeps : κ × ν → Bool}
    (one : ∀ entry ∈ entries, (keeps entry = true ↔ entry.1 = key)) : entries.filter keeps = [(key, value)] := by
  have others : (KeyedMap.erase entries key).filter keeps = [] := by
    rw [List.filter_eq_nil_iff]
    intro entry inside kept
    obtain ⟨inEntries, different⟩ := mem_erase.mp inside
    exact different ((one entry inEntries).mp kept)
  have parts := (sorted.perm_erase member).filter keeps
  rw [List.filter_cons_of_pos ((one _ member).mpr rfl), others] at parts
  exact List.perm_singleton.mp parts

theorem Sorted.eraseP_eq (sorted : Sorted entries) {removes : κ × ν → Bool}
    (one : ∀ entry ∈ entries, (removes entry = true ↔ entry.1 = key)) : entries.eraseP removes = KeyedMap.erase entries key := by
  induction entries with
  | nil => rfl
  | cons next rest later =>
    obtain ⟨below, others⟩ := List.pairwise_cons.mp sorted
    have first := one next List.mem_cons_self
    unfold KeyedMap.erase
    by_cases same : next.1 = key
    · rw [List.eraseP_cons_of_pos (first.mpr same), List.filter_cons_of_neg (by simp [same])]
      refine (erase_eq_self fun member => ?_).symm
      exact absurd (below key member) (same ▸ lt_irrefl key)
    · rw [List.eraseP_cons_of_neg fun removed => same (first.mp removed), List.filter_cons_of_pos (by simp [same]),
        later others fun entry member => one entry (List.mem_cons_of_mem _ member)]
      rfl

/-! Ranks kept outside of the map, when a value goes under another key. -/

def Ranked (entries : List (κ × ν)) (index : ν → Nat) : Prop :=
  ∀ (rank : Nat) (entry : κ × ν), entries[rank]? = some entry → index entry.2 = rank

theorem Sorted.ranked_iff (sorted : Sorted entries) {index : ν → Nat} :
    Ranked entries index ↔ ∀ entry ∈ entries, index entry.2 = entries.countP fun other => decide (other.1 < entry.1) := by
  constructor
  · intro ranked entry member
    obtain ⟨rank, stands⟩ := List.mem_iff_getElem?.mp member
    exact (ranked rank entry stands).trans (OrderedMap.Sorted.place_eq sorted stands)
  · intro counts rank entry stands
    exact (counts entry (List.mem_of_getElem? stands)).trans (OrderedMap.Sorted.place_eq sorted stands).symm

def rekey (entries : List (κ × ν)) (old new : κ) (value : ν) : List (κ × ν) :=
  OrderedMap.insert Prod.fst (new, value) (erase entries old)

theorem Ranked.rekey_iff {index : ν → Nat} (ranked : Ranked entries index) (sorted : Sorted entries) {old new : κ}
    (member : (old, value) ∈ entries) (fresh : new ∉ (erase entries old).map Prod.fst) :
    Ranked (rekey entries old new value) index ↔ ∀ entry ∈ entries, entry.1 ≠ old → (old < entry.1 ↔ new < entry.1) := by
  have permBefore := sorted.perm_erase member
  have permAfter : (rekey entries old new value).Perm ((new, value) :: erase entries old) := OrderedMap.insert_perm _ _
  have sortedAfter : Sorted (rekey entries old new value) := OrderedMap.Sorted.insert sorted.erase fresh
  rw [sorted.ranked_iff] at ranked
  rw [sortedAfter.ranked_iff]
  -- the smaller keys of both maps are the same but for the moved one
  have before {key : κ} : entries.countP (fun other => decide (other.1 < key)) =
      (erase entries old).countP (fun other => decide (other.1 < key)) + if old < key then 1 else 0 := by
    rw [permBefore.countP_eq, List.countP_cons]
    simp
  have after {key : κ} : (rekey entries old new value).countP (fun other => decide (other.1 < key)) =
      (erase entries old).countP (fun other => decide (other.1 < key)) + if new < key then 1 else 0 := by
    rw [permAfter.countP_eq, List.countP_cons]
    simp
  constructor
  · intro counts entry inside different
    have other := mem_erase.mpr ⟨inside, different⟩
    have first := ranked entry inside
    have second := counts entry (permAfter.mem_iff.mpr (List.mem_cons_of_mem _ other))
    rw [before] at first
    rw [after] at second
    by_cases below : old < entry.1
    · by_cases under : new < entry.1
      · exact iff_of_true below under
      · simp [below, under] at first second
        omega
    · by_cases under : new < entry.1
      · simp [below, under] at first second
        omega
      · exact iff_of_false below under
  · intro between entry inside
    rcases List.mem_cons.mp (permAfter.mem_iff.mp inside) with rfl | other
    · rw [ranked (old, value) member, before, after, if_neg (lt_irrefl _), if_neg (lt_irrefl _)]
      refine congrArg (· + 0) (List.countP_congr fun other stored => ?_)
      obtain ⟨inEntries, different⟩ := mem_erase.mp stored
      have apart : other.1 ≠ new := fun same => fresh (same ▸ List.mem_map_of_mem stored)
      simp only [decide_eq_true_eq]
      rw [← not_le, ← not_le, le_iff_lt_or_eq, le_iff_lt_or_eq, or_iff_left different.symm, or_iff_left apart.symm,
        between other inEntries different]
    · obtain ⟨inEntries, different⟩ := mem_erase.mp other
      rw [ranked entry inEntries, before, after]
      simp only [between entry inEntries different]

end KeyedMap

end Antares.Library

namespace Antares.Library.KeyedMap

variable {ι κ R : Type}

section
variable [LinearOrder κ] [Zero R] [Add R]

/-- `entries[key] += amount`, where a new key starts from zero. -/
def add (entries : List (κ × R)) (key : κ) (amount : R) : List (κ × R) :=
  assign entries key ((lookup entries key).getD 0 + amount)

variable {entries : List (κ × R)} {key : κ} {amount : R}

theorem Sorted.add (sorted : Sorted entries) : Sorted (add entries key amount) := sorted.assign

theorem key_of_mem_add {entry : κ × R} (member : entry ∈ add entries key amount) :
    entry.1 = key ∨ entry ∈ entries := by
  rcases mem_assign.mp member with rfl | ⟨there, -⟩
  · exact .inl rfl
  · exact .inr there

def tally (key : ι → κ) (amount : ι → R) (items : List ι) : List (κ × R) :=
  items.foldl (fun entries item => KeyedMap.add entries (key item) (amount item)) []

theorem tally_snoc (key : ι → κ) (amount : ι → R) (items : List ι) (item : ι) :
    tally key amount (items ++ [item]) = KeyedMap.add (tally key amount items) (key item) (amount item) := by
  rw [tally, List.foldl_append]
  rfl

theorem sorted_tally (key : ι → κ) (amount : ι → R) (items : List ι) : Sorted (tally key amount items) := by
  induction items using List.reverseRecOn with
  | nil => exact List.Pairwise.nil
  | append_singleton items item ih =>
    rw [tally_snoc]
    exact ih.add

theorem key_of_mem_tally {key : ι → κ} {amount : ι → R} {items : List ι} {entry : κ × R}
    (member : entry ∈ tally key amount items) : ∃ item ∈ items, key item = entry.1 := by
  induction items using List.reverseRecOn with
  | nil => exact absurd member List.not_mem_nil
  | append_singleton items item ih =>
    rw [tally_snoc] at member
    rcases key_of_mem_add member with same | earlier
    · exact ⟨item, List.mem_append_right items List.mem_cons_self, same.symm⟩
    · obtain ⟨other, inside, same⟩ := ih earlier
      exact ⟨other, List.mem_append_left [item] inside, same⟩

end

section
variable [NonUnitalNonAssocSemiring R] (value : κ → R)

def total (entries : List (κ × R)) : R := (entries.map fun entry => value entry.1 * entry.2).sum

theorem total_perm {entries others : List (κ × R)} (same : entries.Perm others) : total value entries = total value others :=
  (same.map _).sum_eq

theorem total_cons (entry : κ × R) (entries : List (κ × R)) :
    total value (entry :: entries) = value entry.1 * entry.2 + total value entries :=
  List.sum_cons

variable [LinearOrder κ]

theorem total_add {entries : List (κ × R)} (sorted : Sorted entries) (key : κ) (amount : R) :
    total value (add entries key amount) = total value entries + value key * amount := by
  have inserted (stored : R) : total value (assign entries key stored) = value key * stored + total value (erase entries key) :=
    total_perm value (OrderedMap.insert_perm _ _)
  cases found : lookup entries key with
  | none =>
    rw [add, inserted, found, erase_eq_self (lookup_eq_none_iff.mp found), Option.getD_none, zero_add]
    exact add_comm _ _
  | some stored =>
    have apart := total_perm value (sorted.perm_erase (sorted.lookup_eq_some_iff.mp found))
    rw [add, inserted, found, apart, total_cons, Option.getD_some, mul_add]
    abel

theorem total_tally (key : ι → κ) (amount : ι → R) (items : List ι) :
    total value (tally key amount items) = (items.map fun item => value (key item) * amount item).sum := by
  induction items using List.reverseRecOn with
  | nil => rfl
  | append_singleton items item ih =>
    rw [tally_snoc, total_add value (sorted_tally key amount items), ih, List.map_append, List.sum_append]
    simp

end

end Antares.Library.KeyedMap

namespace Antares.Library

section Ranks
variable {κ ν : Type} [DecidableEq κ] (write : ν → Nat → ν)

/-- The rank of each key, after a start, is written into its value. -/
def writeRanksFrom (values : κ → ν) (keys : List κ) (start : Nat) : κ → ν :=
  (keys.zipIdx start).foldl (fun values entry => Function.update values entry.1 (write (values entry.1) entry.2)) values

def writeRanks (values : κ → ν) (keys : List κ) : κ → ν := writeRanksFrom write values keys 0

variable {write} {values : κ → ν} {keys : List κ} {start : Nat}

theorem writeRanksFrom_cons (key : κ) : writeRanksFrom write values (key :: keys) start =
    writeRanksFrom write (Function.update values key (write (values key) start)) keys (start + 1) :=
  rfl

theorem writeRanksFrom_other {other : κ} (absent : other ∉ keys) : writeRanksFrom write values keys start other = values other := by
  induction keys generalizing values start with
  | nil => rfl
  | cons key keys later =>
    rw [List.mem_cons, not_or] at absent
    rw [writeRanksFrom_cons, later absent.2, Function.update_of_ne absent.1]

theorem writeRanksFrom_at (distinct : keys.Nodup) {key : κ} {rank : Nat} (stands : keys[rank]? = some key) :
    writeRanksFrom write values keys start key = write (values key) (start + rank) := by
  induction keys generalizing values start rank with
  | nil => exact absurd stands (by simp)
  | cons first keys later =>
    obtain ⟨absent, distinct⟩ := List.nodup_cons.mp distinct
    rw [writeRanksFrom_cons]
    cases rank with
    | zero =>
      cases stands
      rw [writeRanksFrom_other absent, Function.update_self]
      rfl
    | succ rank =>
      rw [List.getElem?_cons_succ] at stands
      have different : key ≠ first := fun same => absent (same ▸ List.mem_of_getElem? stands)
      rw [later distinct stands, Function.update_of_ne different, Nat.add_assoc, Nat.add_comm 1 rank]

theorem writeRanksFrom_frame {β : Type} {view : ν → β} (kept : ∀ value rank, view (write value rank) = view value) (key : κ) :
    view (writeRanksFrom write values keys start key) = view (values key) := by
  induction keys generalizing values start with
  | nil => rfl
  | cons first keys later =>
    rw [writeRanksFrom_cons, later]
    by_cases same : key = first
    · rw [same, Function.update_self, kept]
    · rw [Function.update_of_ne same]

theorem writeRanks_other {other : κ} (absent : other ∉ keys) : writeRanks write values keys other = values other :=
  writeRanksFrom_other absent

theorem writeRanks_at (distinct : keys.Nodup) {key : κ} {rank : Nat} (stands : keys[rank]? = some key) :
    writeRanks write values keys key = write (values key) rank :=
  (writeRanksFrom_at distinct stands).trans (congrArg (write (values key)) (Nat.zero_add rank))

theorem writeRanks_frame {β : Type} {view : ν → β} (kept : ∀ value rank, view (write value rank) = view value) (key : κ) :
    view (writeRanks write values keys key) = view (values key) :=
  writeRanksFrom_frame kept key

end Ranks

theorem countP_of_subset {α : Type} [DecidableEq α] {before after : List α} (distinct : before.Nodup)
    (distinctAfter : after.Nodup) (subset : ∀ item ∈ after, item ∈ before) (chosen : α → Bool) :
    before.countP chosen = after.countP chosen + before.countP fun item => chosen item && decide (item ∉ after) := by
  have kept : (before.filter fun item => item ∈ after).Perm after := by
    refine (List.perm_ext_iff_of_nodup (distinct.filter _) distinctAfter).mpr fun item => ?_
    rw [List.mem_filter, decide_eq_true_eq]
    exact ⟨And.right, fun member => ⟨subset item member, member⟩⟩
  rw [before.countP_eq_countP_filter_add chosen fun item => item ∈ after, kept.countP_eq, List.countP_filter]
  congr 2
  funext item
  rw [decide_not]

end Antares.Library
