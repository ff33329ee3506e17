import Mathlib.Data.List.Nodup

/-! Records that a loop finds by their key, or makes when there is none yet, and then changes. -/

set_option autoImplicit false

namespace Antares.Library.KeyedRecords

variable {κ σ ι : Type} [DecidableEq κ] (key : σ → κ) (fresh : κ → σ)

/-- The first record with the key is changed; without one, a fresh one is changed and added. -/
def touch (name : κ) (change : σ → σ) : List σ → List σ
  | [] => [change (fresh name)]
  | record :: rest =>
    if key record = name then change record :: rest else record :: touch name change rest

variable (keyOf : ι → κ) (change : ι → σ → σ)

/-- The record of a key after the items of this key, and of no other one. -/
def collected (items : List ι) (name : κ) : σ :=
  (items.filter fun item => keyOf item = name).foldl (fun record item => change item record) (fresh name)

/-- What a loop over items keeps: one record for a key, which holds what the items of this key left in it. -/
structure Collects (items : List ι) (records : List σ) : Prop where
  distinct : (records.map key).Nodup
  content : ∀ record ∈ records, record = collected fresh keyOf change items (key record)
  found : ∀ item ∈ items, keyOf item ∈ records.map key

variable {key fresh keyOf change}

theorem map_key_touch {name : κ} {update : σ → σ} (keeps : ∀ record, key (update record) = key record)
    (named : key (fresh name) = name) (records : List σ) :
    (touch key fresh name update records).map key =
      if name ∈ records.map key then records.map key else records.map key ++ [name] := by
  induction records with
  | nil => simp [touch, keeps, named]
  | cons record rest ih =>
    unfold touch
    by_cases same : key record = name
    · rw [if_pos same, List.map_cons, List.map_cons, keeps, if_pos (List.mem_cons.mpr (.inl same.symm))]
    · rw [if_neg same, List.map_cons, List.map_cons, ih]
      have others : name ∈ key record :: rest.map key ↔ name ∈ rest.map key := by
        rw [List.mem_cons, or_iff_right (Ne.symm same)]
      split_ifs with here there there
      · rfl
      · exact absurd (others.mpr here) there
      · exact absurd (others.mp there) here
      · rfl

theorem mem_keys_foldl (keeps : ∀ item record, key (change item record) = key record)
    (named : ∀ name, key (fresh name) = name) (items : List ι) {records : List σ} {name : κ}
    (member : name ∈ (items.foldl (fun records item => touch key fresh (keyOf item) (change item) records) records).map key) :
    name ∈ records.map key ∨ ∃ item ∈ items, keyOf item = name := by
  induction items generalizing records with
  | nil => exact .inl member
  | cons item items ih =>
    rcases ih member with before | ⟨later, listed, same⟩
    · rw [map_key_touch (keeps item) (named _)] at before
      split_ifs at before
      · exact .inl before
      · rcases List.mem_append.mp before with known | new
        · exact .inl known
        · exact .inr ⟨item, List.mem_cons_self, (List.mem_singleton.mp new).symm⟩
    · exact .inr ⟨later, List.mem_cons_of_mem _ listed, same⟩

theorem mem_touch {name : κ} {update : σ → σ} {records : List σ} (distinct : (records.map key).Nodup) {record : σ}
    (member : record ∈ touch key fresh name update records) :
    (record ∈ records ∧ key record ≠ name) ∨
      (∃ before ∈ records, key before = name ∧ record = update before) ∨
      (name ∉ records.map key ∧ record = update (fresh name)) := by
  induction records with
  | nil =>
    rw [touch, List.mem_singleton] at member
    exact .inr (.inr ⟨List.not_mem_nil, member⟩)
  | cons first rest ih =>
    rw [List.map_cons, List.nodup_cons] at distinct
    unfold touch at member
    by_cases same : key first = name
    · rw [if_pos same, List.mem_cons] at member
      rcases member with rfl | later
      · exact .inr (.inl ⟨first, List.mem_cons_self, same, rfl⟩)
      · refine .inl ⟨List.mem_cons_of_mem _ later, fun wrong => ?_⟩
        exact distinct.1 (List.mem_map.mpr ⟨record, later, wrong.trans same.symm⟩)
    · rw [if_neg same, List.mem_cons] at member
      rcases member with rfl | later
      · exact .inl ⟨List.mem_cons_self, same⟩
      · rcases ih distinct.2 later with ⟨kept, other⟩ | ⟨before, kept, named, changed⟩ | ⟨absent, changed⟩
        · exact .inl ⟨List.mem_cons_of_mem _ kept, other⟩
        · exact .inr (.inl ⟨before, List.mem_cons_of_mem _ kept, named, changed⟩)
        · refine .inr (.inr ⟨fun wrong => ?_, changed⟩)
          rcases List.mem_cons.mp wrong with here | there
          · exact same here.symm
          · exact absent there

theorem collected_append (items : List ι) (item : ι) (name : κ) :
    collected fresh keyOf change (items ++ [item]) name =
      if keyOf item = name then change item (collected fresh keyOf change items name)
      else collected fresh keyOf change items name := by
  unfold collected
  rw [List.filter_append, List.foldl_append, List.filter_singleton]
  by_cases same : keyOf item = name
  · rw [if_pos same, decide_eq_true same]
    rfl
  · rw [if_neg same, decide_eq_false same]
    rfl

theorem collects_nil (named : ∀ name, key (fresh name) = name) (name : κ) : Collects key fresh keyOf change [] [fresh name] where
  distinct := List.nodup_singleton _
  content record member := by
    obtain rfl := List.mem_singleton.mp member
    rw [named]
    rfl
  found _ member := absurd member List.not_mem_nil

theorem Collects.touch {items : List ι} {records : List σ} (collects : Collects key fresh keyOf change items records)
    (keeps : ∀ item record, key (change item record) = key record) (named : ∀ name, key (fresh name) = name)
    (item : ι) : Collects key fresh keyOf change (items ++ [item])
      (touch key fresh (keyOf item) (change item) records) where
  distinct := by
    rw [map_key_touch (keeps item) (named _)]
    split_ifs with there
    · exact collects.distinct
    · exact List.nodup_append.mpr ⟨collects.distinct, List.nodup_singleton _, fun name first other last => by
        rw [List.mem_singleton.mp last]
        rintro rfl
        exact there first⟩
  content record member := by
    rw [collected_append]
    rcases mem_touch collects.distinct member with ⟨kept, other⟩ | ⟨before, kept, same, rfl⟩ | ⟨absent, rfl⟩
    · rw [if_neg (Ne.symm other)]
      exact collects.content record kept
    · rw [keeps, if_pos same.symm]
      exact congrArg (change item) (collects.content before kept)
    · rw [keeps, named, if_pos rfl]
      -- no item had this key before
      have none : items.filter (fun other => decide (keyOf other = keyOf item)) = [] := by
        refine List.filter_eq_nil_iff.mpr fun other listed same => absent ?_
        rw [← of_decide_eq_true same]
        exact collects.found other listed
      unfold collected
      rw [none]
      rfl
  found other listed := by
    rw [map_key_touch (keeps item) (named _)]
    rcases List.mem_append.mp listed with before | last
    · split_ifs
      · exact collects.found other before
      · exact List.mem_append_left _ (collects.found other before)
    · obtain rfl := List.mem_singleton.mp last
      split_ifs with there
      · exact there
      · exact List.mem_append_right _ (List.mem_singleton.mpr rfl)

theorem Collects.foldl {done : List ι} {records : List σ}
    (collects : Collects key fresh keyOf change done records)
    (keeps : ∀ item record, key (change item record) = key record) (named : ∀ name, key (fresh name) = name)
    (items : List ι) :
    Collects key fresh keyOf change (done ++ items)
      (items.foldl (fun records item => KeyedRecords.touch key fresh (keyOf item) (change item) records) records) := by
  induction items generalizing done records with
  | nil =>
    rw [List.append_nil]
    exact collects
  | cons item items ih =>
    rw [List.foldl_cons, List.append_cons]
    exact ih (collects.touch keeps named item)

end Antares.Library.KeyedRecords
