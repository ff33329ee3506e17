import Antares.Thermal.PartThermal

/-! The lists of an area once the study is prepared: the disabled clusters are gone, the must-run ones are
in their own list, and all of them have a place in the vector of the area.
-/

set_option autoImplicit false

namespace Antares.Thermal.PartThermal

open Library Data

section Frames

variable {part : PartThermal} {β : Type} {view : Cluster → β}

theorem moved_frame (kept : ∀ cluster index, view (ClusterList.setIndex cluster index) = view cluster) (id : Text)
    (cluster p : Nat) : view ((part.moved id cluster).object p) = view (part.object p) :=
  ClusterList.add_frame kept cluster p

theorem rebuildIndexes_frame (kept : ∀ cluster index, view (ClusterList.setIndex cluster index) = view cluster) (p : Nat) :
    view (part.rebuildIndexes.object p) = view (part.object p) :=
  (ClusterList.rebuildIndex_frame kept p).trans (ClusterList.rebuildIndex_frame kept p)

theorem moveMustRun_frame (kept : ∀ cluster index, view (ClusterList.setIndex cluster index) = view cluster)
    {fuel count total : Nat} {after : PartThermal} (result : moveMustRun fuel part count = some (after, total)) :
    after.clusters = part.clusters ∧ ∀ p, view (after.object p) = view (part.object p) := by
  induction fuel generalizing part count with
  | zero =>
    cases result
    exact ⟨rfl, fun p => rfl⟩
  | succ fuel later =>
    cases found : part.list.cluster.find? fun entry => (part.object entry.2).mustrun with
    | none =>
      rw [moveMustRun_of_none found] at result
      cases result
      exact ⟨rfl, fun p => rfl⟩
    | some entry =>
      rw [moveMustRun_succ found] at result
      split_ifs at result
      obtain ⟨clusters, views⟩ := later result
      exact ⟨clusters, fun p => (views p).trans (moved_frame kept entry.1 entry.2 p)⟩

theorem prepareClustersInMustRunMode_frame
    (kept : ∀ cluster index, view (ClusterList.setIndex cluster index) = view cluster) {after : PartThermal} {count : Nat}
    (result : part.prepareClustersInMustRunMode = some (after, count)) :
    after.clusters = part.clusters ∧ ∀ p, view (after.object p) = view (part.object p) := by
  unfold prepareClustersInMustRunMode at result
  split_ifs at result
  · cases result
    exact ⟨rfl, fun p => rfl⟩
  · split at result
    · cases result
    case h_2 moved total found =>
      obtain ⟨clusters, views⟩ := moveMustRun_frame kept found
      split_ifs at result
      · cases result
        exact ⟨clusters, fun p => (rebuildIndexes_frame kept p).trans (views p)⟩
      · cases result
        exact ⟨clusters, views⟩

end Frames

section MustRun

variable {before part : PartThermal}

theorem mustrun_moved (id : Text) (cluster p : Nat) : ((part.moved id cluster).object p).mustrun = (part.object p).mustrun :=
  @moved_frame part _ Cluster.mustrun (fun _ _ => rfl) id cluster p

theorem filter_moved (sorted : KeyedMap.Sorted part.list.cluster) {entry : Text × Nat} (listed : entry ∈ part.list.cluster)
    (mustrun : (part.object entry.2).mustrun = true) :
    (part.moved entry.1 entry.2).list.cluster.filter (fun other => !((part.moved entry.1 entry.2).object other.2).mustrun) =
      part.list.cluster.filter fun other => !(part.object other.2).mustrun := by
  change (KeyedMap.erase part.list.cluster entry.1).filter _ = _
  rw [KeyedMap.erase, List.filter_filter]
  refine List.filter_congr fun other inside => ?_
  rw [mustrun_moved]
  cases run : (part.object other.2).mustrun with
  | true => rfl
  | false =>
    have different : other.1 ≠ entry.1 := by
      intro same
      rw [sorted.eq_of_mem inside listed same, mustrun] at run
      cases run
    simp [different]

theorem Moving.lists (moving : before.Moving part) {fuel count total : Nat} {after : PartThermal}
    (enough : part.list.cluster.length ≤ fuel)
    (apart : ∀ entry ∈ part.list.cluster, entry.1 ∉ part.mustrunList.cluster.map Prod.fst)
    (result : PartThermal.moveMustRun fuel part count = some (after, total)) :
    after.list.cluster = part.list.cluster.filter (fun entry => !(part.object entry.2).mustrun) ∧
      ∀ entry, entry ∈ after.mustrunList.cluster ↔
        entry ∈ part.mustrunList.cluster ∨ entry ∈ part.list.cluster ∧ (part.object entry.2).mustrun = true := by
  induction fuel generalizing part count with
  | zero =>
    cases result
    rw [List.length_eq_zero_iff.mp (Nat.le_zero.mp enough)]
    exact ⟨rfl, fun entry => by simp⟩
  | succ fuel later =>
    cases found : part.list.cluster.find? fun entry => (part.object entry.2).mustrun with
    | none =>
      rw [moveMustRun_of_none found] at result
      cases result
      have none := List.find?_eq_none.mp found
      refine ⟨(List.filter_eq_self.mpr fun entry inside => ?_).symm, fun entry => ?_⟩
      · simpa using none entry inside
      · exact (or_iff_left fun both => none entry both.1 both.2).symm
    | some first =>
      have listed := List.mem_of_find?_eq_some found
      have mustrun : (part.object first.2).mustrun = true := by
        simpa using List.find?_some found
      have fresh := apart first listed
      have id := moving.mapped.keys first listed
      have moving' := moving.moved listed
      have sorted := moving.mapped.sorted
      have mustrunList : (part.moved first.1 first.2).mustrunList.cluster =
          KeyedMap.assign part.mustrunList.cluster first.1 first.2 := by
        refine (ClusterList.cluster_add part.mustrunList part.object first.2).trans ?_
        rw [id, if_neg fresh]
      have shorter : (part.moved first.1 first.2).list.cluster.length < part.list.cluster.length :=
        List.length_filter_lt_length_iff_exists.mpr ⟨first, listed, by simp⟩
      have apart' : ∀ entry ∈ (part.moved first.1 first.2).list.cluster,
          entry.1 ∉ (part.moved first.1 first.2).mustrunList.cluster.map Prod.fst := by
        intro entry inside member
        obtain ⟨inList, different⟩ := KeyedMap.mem_erase.mp inside
        rw [mustrunList] at member
        obtain ⟨other, assigned, same⟩ := List.mem_map.mp member
        rcases KeyedMap.mem_assign.mp assigned with rfl | ⟨earlier, -⟩
        · exact different same.symm
        · exact apart entry inList (same ▸ List.mem_map_of_mem earlier)
      rw [moveMustRun_succ found] at result
      split_ifs at result
      obtain ⟨stay, moved⟩ := later (moving.moved listed) (by omega) apart' result
      refine ⟨stay.trans (filter_moved sorted listed mustrun), fun entry => ?_⟩
      rw [moved, mustrun_moved, mustrunList, KeyedMap.mem_assign]
      have erased : entry ∈ (part.moved first.1 first.2).list.cluster ↔ entry ∈ part.list.cluster ∧ entry.1 ≠ first.1 :=
        KeyedMap.mem_erase
      rw [erased]
      constructor
      · rintro ((rfl | ⟨earlier, -⟩) | ⟨⟨inList, -⟩, run⟩)
        · exact Or.inr ⟨listed, mustrun⟩
        · exact Or.inl earlier
        · exact Or.inr ⟨inList, run⟩
      · rintro (earlier | ⟨inList, run⟩)
        · exact Or.inl (Or.inr ⟨earlier, fun same => fresh (same ▸ List.mem_map_of_mem earlier)⟩)
        · by_cases same : entry.1 = first.1
          · exact Or.inl (Or.inl (sorted.eq_of_mem inList listed same))
          · exact Or.inr ⟨⟨inList, same⟩, run⟩

theorem Right.mustRunLists (right : part.Right) (unprepared : part.mustrunList.cluster = []) {after : PartThermal} {count : Nat}
    (result : part.prepareClustersInMustRunMode = some (after, count)) :
    after.list.cluster = part.list.cluster.filter (fun entry => !(part.object entry.2).mustrun) ∧
      ∀ entry, entry ∈ after.mustrunList.cluster ↔ entry ∈ part.list.cluster ∧ (part.object entry.2).mustrun = true := by
  unfold PartThermal.prepareClustersInMustRunMode at result
  split_ifs at result with empty
  · cases result
    rw [empty, unprepared]
    exact ⟨rfl, fun entry => by simp⟩
  · split at result
    · cases result
    case h_2 moved total found =>
      have apart : ∀ entry ∈ part.list.cluster, entry.1 ∉ part.mustrunList.cluster.map Prod.fst := by
        rw [unprepared]
        exact fun entry _ => List.not_mem_nil
      obtain ⟨stay, run⟩ := right.moving.lists le_rfl apart found
      have inMustrun (entry : Text × Nat) : entry ∈ moved.mustrunList.cluster ↔
          entry ∈ part.list.cluster ∧ (part.object entry.2).mustrun = true := by
        rw [run, unprepared]
        exact or_iff_right List.not_mem_nil
      split_ifs at result
      · cases result
        exact ⟨stay, inMustrun⟩
      · cases result
        exact ⟨stay, inMustrun⟩

end MustRun

section Preparation

variable {part : PartThermal}

theorem Right.cluster_removeDisabledClusters (right : part.Right) :
    part.removeDisabledClusters.1.list.cluster = part.list.cluster.filter fun entry => (part.object entry.2).enabled := by
  have sorted := (right.indexed .list).sorted
  unfold PartThermal.removeDisabledClusters
  split_ifs with empty
  · rw [empty]
    rfl
  · have same (ids : List Text) (count : Nat) :
        (if count ≠ 0 then (removeEach (part.object, part.list) ids).2.rebuildIndex (removeEach (part.object, part.list) ids).1
          else removeEach (part.object, part.list) ids).2.cluster = part.list.cluster.filter fun entry => entry.1 ∉ ids := by
      refine Eq.trans ?_ (cluster_removeEach (part.object, part.list) ids)
      split_ifs <;> rfl
    refine (same _ _).trans (List.filter_congr fun entry inside => ?_)
    cases enabled : (part.object entry.2).enabled with
    | true =>
      refine decide_eq_true fun member => ?_
      obtain ⟨other, disabled, same⟩ := List.mem_map.mp member
      obtain ⟨inList, off⟩ := List.mem_filter.mp disabled
      rw [sorted.eq_of_mem inList inside same, enabled] at off
      cases off
    | false =>
      refine decide_eq_false (not_not.mpr ?_)
      exact List.mem_map_of_mem (List.mem_filter.mpr ⟨inside, by rw [enabled]; rfl⟩)

theorem mustrunList_removeDisabledClusters : part.removeDisabledClusters.1.mustrunList = part.mustrunList := by
  unfold removeDisabledClusters
  split_ifs <;> rfl

theorem Right.traits_removeDisabledClusters (right : part.Right) (p : Nat) :
    (part.removeDisabledClusters.1.object p).traits = (part.object p).traits := by
  unfold PartThermal.removeDisabledClusters
  split_ifs
  · rfl
  · exact (noneAdded_removed (right.indexed .list) _ _).traits p

theorem prepareAreaWideIndexes_eq : part.prepareAreaWideIndexes =
    { part with
      object := writeRanks setAreaWideIndex part.object part.list.pointers
      clusters := part.list.pointers } := by
  unfold prepareAreaWideIndexes
  split_ifs with empty
  · have none : part.list.pointers = [] := by rw [ClusterList.pointers, empty, List.map_nil]
    rw [none]
    rfl
  · rfl

theorem prepareAreaWideIndexes_frame {β : Type} {view : Cluster → β}
    (kept : ∀ cluster index, view (setAreaWideIndex cluster index) = view cluster) (p : Nat) :
    view (part.prepareAreaWideIndexes.object p) = view (part.object p) := by
  rw [prepareAreaWideIndexes_eq]
  exact writeRanks_frame kept p

theorem get_prepareAreaWideIndexes (name : ListName) : part.prepareAreaWideIndexes.get name = part.get name := by
  rw [prepareAreaWideIndexes_eq]
  cases name <;> rfl

theorem Right.prepareAreaWideIndexes (right : part.Right) : part.prepareAreaWideIndexes.Right where
  indexed name := by
    rw [get_prepareAreaWideIndexes]
    exact (right.indexed name).congr (fun p _ => prepareAreaWideIndexes_frame (fun _ _ => rfl) p)
      fun p _ => prepareAreaWideIndexes_frame (fun _ _ => rfl) p
  apart name other different p member := by
    rw [get_prepareAreaWideIndexes] at member ⊢
    exact right.apart name other different p member
  allocated name p member := by
    rw [get_prepareAreaWideIndexes] at member
    have next : part.prepareAreaWideIndexes.next = part.next := by rw [prepareAreaWideIndexes_eq]
    exact next ▸ right.allocated name p member

def Enabled (part : PartThermal) (p : Nat) : Prop := p ∈ part.list.pointers ∧ (part.object p).enabled = true

structure Prepared (part after : PartThermal) : Prop where
  right : after.Right
  once : ∀ p, part.Enabled p → Xor (p ∈ after.list.pointers) (p ∈ after.mustrunList.pointers)
  list : ∀ p, p ∈ after.list.pointers ↔ part.Enabled p ∧ (part.object p).mustrun = false
  mustrunList : ∀ p, p ∈ after.mustrunList.pointers ↔ part.Enabled p ∧ (part.object p).mustrun = true
  areaWide : Set.BijOn (fun p => (after.object p).areaWideIndex) {p | part.Enabled p} (Set.Iio after.clusters.length)
  clusters : ∀ p, part.Enabled p → after.clusters[(after.object p).areaWideIndex]? = some p

theorem mem_pointers_iff {list : ClusterList} {entries : List (Text × Nat)} {chosen : Cluster → Bool} {object : Clusters}
    (same : list.cluster = entries.filter fun entry => chosen (object entry.2)) (p : Nat) :
    p ∈ list.pointers ↔ p ∈ entries.map Prod.snd ∧ chosen (object p) = true := by
  unfold ClusterList.pointers
  rw [same]
  constructor
  · intro member
    obtain ⟨entry, inside, rfl⟩ := List.mem_map.mp member
    obtain ⟨listed, isChosen⟩ := List.mem_filter.mp inside
    exact ⟨List.mem_map_of_mem listed, isChosen⟩
  · rintro ⟨member, isChosen⟩
    obtain ⟨entry, inside, rfl⟩ := List.mem_map.mp member
    exact List.mem_map_of_mem (List.mem_filter.mpr ⟨inside, isChosen⟩)

theorem clusters_getElem? (right : part.Right) {rank p : Nat} (stands : part.prepareAreaWideIndexes.clusters[rank]? = some p) :
    (part.prepareAreaWideIndexes.object p).areaWideIndex = rank := by
  rw [prepareAreaWideIndexes_eq] at stands ⊢
  exact congrArg Cluster.areaWideIndex (writeRanks_at (right.indexed .list).nodup stands)

theorem Right.exists_prepared (right : part.Right) (unprepared : part.mustrunList.cluster = []) :
    ∃ after, part.loadFromStudy = some after ∧ part.Prepared after := by
  set removed := part.removeDisabledClusters.1 with removal
  have rightRemoved : removed.Right := right.removeDisabledClusters.right
  have rightIndexed := rightRemoved.prepareAreaWideIndexes
  have mainList : removed.prepareAreaWideIndexes.list = removed.list := get_prepareAreaWideIndexes .list
  have vector : removed.prepareAreaWideIndexes.clusters = removed.list.pointers := by rw [prepareAreaWideIndexes_eq]
  have mustrunList : removed.prepareAreaWideIndexes.mustrunList.cluster = [] := by
    have same : removed.prepareAreaWideIndexes.mustrunList = removed.mustrunList := get_prepareAreaWideIndexes .mustrunList
    rw [same, removal, mustrunList_removeDisabledClusters, unprepared]
  have traits (p : Nat) : (removed.prepareAreaWideIndexes.object p).traits = (part.object p).traits :=
    (prepareAreaWideIndexes_frame (fun _ _ => rfl) p).trans (right.traits_removeDisabledClusters p)
  have mustrun (p : Nat) : (removed.prepareAreaWideIndexes.object p).mustrun = (part.object p).mustrun :=
    congrArg (fun traits : Nat × Bool × Bool => traits.2.1) (traits p)
  have enabled (p : Nat) : (removed.prepareAreaWideIndexes.object p).enabled = (part.object p).enabled :=
    congrArg (fun traits : Nat × Bool × Bool => traits.2.2) (traits p)
  have isEnabled (p : Nat) : p ∈ removed.list.pointers ↔ part.Enabled p :=
    mem_pointers_iff right.cluster_removeDisabledClusters p
  have noDisabled : removed.prepareAreaWideIndexes.NoDisabledMustRun := by
    intro entry inside _
    rw [mainList] at inside
    rw [enabled]
    exact ((isEnabled entry.2).mp (List.mem_map_of_mem inside)).2
  obtain ⟨⟨after, count⟩, found⟩ := rightIndexed.exists_prepare noDisabled
  obtain ⟨stay, run⟩ := rightIndexed.mustRunLists mustrunList found
  obtain ⟨clusters, indexes⟩ :=
    @prepareClustersInMustRunMode_frame _ _ Cluster.areaWideIndex (fun _ _ => rfl) _ _ found
  have list (p : Nat) : p ∈ after.list.pointers ↔ part.Enabled p ∧ (part.object p).mustrun = false := by
    have chosen := @mem_pointers_iff _ _ (fun cluster => !cluster.mustrun) _ stay p
    rw [mainList, mustrun, Bool.not_eq_true'] at chosen
    exact chosen.trans (and_congr_left fun _ => isEnabled p)
  have moved (p : Nat) : p ∈ after.mustrunList.pointers ↔ part.Enabled p ∧ (part.object p).mustrun = true := by
    rw [← isEnabled, ← mainList, ← mustrun]
    constructor
    · intro member
      obtain ⟨entry, inside, rfl⟩ := List.mem_map.mp member
      obtain ⟨listed, isMustrun⟩ := (run entry).mp inside
      exact ⟨List.mem_map_of_mem listed, isMustrun⟩
    · rintro ⟨member, isMustrun⟩
      obtain ⟨entry, inside, rfl⟩ := List.mem_map.mp member
      exact List.mem_map_of_mem ((run entry).mpr ⟨inside, isMustrun⟩)
  have place {rank p : Nat} (stands : after.clusters[rank]? = some p) : (after.object p).areaWideIndex = rank := by
    rw [indexes]
    exact clusters_getElem? rightRemoved (clusters ▸ stands)
  have standing {p : Nat} (on : part.Enabled p) : after.clusters[(after.object p).areaWideIndex]? = some p := by
    have member : p ∈ after.clusters := by
      rw [clusters, vector]
      exact (isEnabled p).mpr on
    obtain ⟨rank, stands⟩ := List.mem_iff_getElem?.mp member
    rwa [place stands]
  refine ⟨after, by rw [loadFromStudy, found, Option.map_some], ?_⟩
  constructor
  case right => exact (rightIndexed.prepareClustersInMustRunMode found).right
  case once =>
    intro p on
    rw [list, moved]
    cases (part.object p).mustrun with
    | false => exact Or.inl ⟨⟨on, rfl⟩, fun both => by cases both.2⟩
    | true => exact Or.inr ⟨⟨on, rfl⟩, fun both => by cases both.2⟩
  case list => exact list
  case mustrunList => exact moved
  case areaWide =>
    refine ⟨fun p on => ?_, fun p on q onQ same => ?_, fun rank inside => ?_⟩
    · exact (List.getElem?_eq_some_iff.mp (standing on)).1
    · have first := standing on
      rw [show (after.object p).areaWideIndex = (after.object q).areaWideIndex from same, standing onQ] at first
      exact (Option.some.inj first).symm
    · have stands : after.clusters[rank]? = some after.clusters[rank] := List.getElem?_eq_getElem inside
      refine ⟨after.clusters[rank], (isEnabled _).mp ?_, place stands⟩
      rw [← vector, ← clusters]
      exact List.getElem_mem _
  case clusters => exact fun p on => standing on

end Preparation

section Runs

theorem right_empty : empty.Right where
  indexed name := by
    cases name <;> exact
      { sorted := List.Pairwise.nil
        keys := fun _ member => absurd member List.not_mem_nil
        byIndex := rfl
        index := fun _ _ stands => by cases stands }
  apart name other different p member := by cases name <;> exact absurd member List.not_mem_nil
  allocated name p member := by cases name <;> exact absurd member List.not_mem_nil

/-- Every run keeps both indexes, the counters of the groups also count the clusters that have left, and
the study is prepared from wherever its must-run list is still empty.
-/
theorem operations_right (operations : List Operation) (admissible : empty.Admissible operations) :
    ∃ part, run operations = some part ∧
      (∀ name, (part.get name).Indexed part.object) ∧
      (∀ name groupId, (part.get name).groupCount groupId =
        (part.get name).count part.object groupId + empty.leftDuring name groupId operations) ∧
      (part.mustrunList.cluster = [] → ∃ after, part.loadFromStudy = some after ∧ part.Prepared after) := by
  have start (name : ListName) (groupId : Nat) : (empty.get name).groupCount groupId =
      (empty.get name).count empty.object groupId + 0 := by
    cases name <;> rfl
  obtain ⟨part, result, right, counted⟩ := right_empty.foldlM admissible start
  refine ⟨part, result, right.indexed, fun name groupId => ?_, right.exists_prepared⟩
  rw [counted, Nat.zero_add]

/-- Two clusters are added, one is renamed, and a disabled one is removed again. -/
def someOperations : List Operation :=
  [.add .list { name := "gas".toList, groupId := 3, mustrun := false, enabled := true },
    .add .list { name := "coal".toList, groupId := 2, mustrun := true, enabled := true },
    .add .list { name := "oil".toList, groupId := 3, mustrun := true, enabled := false },
    .rename .list "gas".toList "Big gas".toList, .removeDisabledClusters, .remove .list "coal".toList]

theorem someOperations_right : ∃ part, run someOperations = some part ∧
    (∀ name, (part.get name).Indexed part.object) ∧
    (∀ name groupId, (part.get name).groupCount groupId =
      (part.get name).count part.object groupId + empty.leftDuring name groupId someOperations) ∧
    (part.mustrunList.cluster = [] → ∃ after, part.loadFromStudy = some after ∧ part.Prepared after) :=
  operations_right someOperations (by decide +kernel)

/-- A removed cluster is still counted in its group, and the iterator of a disabled must-run cluster is used
after it has been erased.
-/
theorem counted_after_removal :
    (run [.add .list { name := "gas".toList, groupId := 3, mustrun := false, enabled := true }, .remove .list "gas".toList]).map
        (fun part => ((part.get .list).groupCount 3, (part.get .list).count part.object 3)) = some (1, 0) ∧
      (run [.add .list { name := "gas".toList, groupId := 3, mustrun := true, enabled := false },
        .prepareClustersInMustRunMode]).isNone = true := by
  decide +kernel

end Runs

end Antares.Thermal.PartThermal
