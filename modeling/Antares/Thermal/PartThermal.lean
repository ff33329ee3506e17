import Antares.Data.Names
import Antares.Library.KeyedMaps

/-! The cluster lists of an area: a map by identifiers, an array by indexes and a counter for each group. Clusters are known by
their addresses, and every operation of a list writes the indexes that it keeps. Once the study is prepared, those of the
must-run list are taken out of the main one.
-/

set_option autoImplicit false

namespace Antares.Thermal

open Library Data

structure Cluster where
  name : Text
  groupId : Nat
  mustrun : Bool
  enabled : Bool
  index : Nat := 0
  areaWideIndex : Nat := 0
  deriving DecidableEq

def Cluster.id (cluster : Cluster) : Text := transformNameIntoID cluster.name

def Cluster.traits (cluster : Cluster) : Nat × Bool × Bool := (cluster.groupId, cluster.mustrun, cluster.enabled)

abbrev Clusters : Type := Nat → Cluster

structure ClusterList where
  cluster : List (Text × Nat) := []
  byIndex : List Nat := []
  groupCount : Nat → Nat := fun _ => 0

namespace ClusterList

variable (list : ClusterList) (object : Clusters)

def pointers : List Nat := list.cluster.map Prod.snd

def setIndex (cluster : Cluster) (index : Nat) : Cluster := { cluster with index := index }

def rebuildIndex : Clusters × ClusterList :=
  (writeRanks setIndex object list.pointers, { list with byIndex := list.pointers })

def add (newcluster : Nat) : Clusters × ClusterList :=
  let id := (object newcluster).id
  if id ∈ list.cluster.map Prod.fst then (object, list)
  else
    let object := Function.update object newcluster (setIndex (object newcluster) list.cluster.length)
    let group := (object newcluster).groupId
    rebuildIndex
      { list with
        cluster := KeyedMap.assign list.cluster id newcluster
        groupCount := Function.update list.groupCount group (list.groupCount group + 1) }
      object

def detach (id : Text) : ClusterList := { list with cluster := KeyedMap.erase list.cluster id }

def remove (id : Text) : Clusters × ClusterList :=
  match KeyedMap.lookup list.cluster id with
  | none => (object, list)
  | some _ => (list.detach id).rebuildIndex object

def clear : ClusterList := { list with cluster := [], byIndex := [] }

def setName (object : Clusters) (p : Nat) (newName : Text) : Clusters :=
  Function.update object p { object p with name := newName }

def rename (idToFind newName : Text) : Clusters × ClusterList :=
  if idToFind = [] ∨ newName = [] then (object, list)
  else
    let idToFind := toLower idToFind
    let newID := transformNameIntoID newName
    match KeyedMap.lookup list.cluster idToFind with
    | none => (object, list)
    | some p =>
      if idToFind = newID then (setName object p newName, list)
      else if (object p).name = newName then (object, list)
      else if newID ∈ list.cluster.map Prod.fst then (object, list)
      else
        rebuildIndex { list with cluster := KeyedMap.assign (KeyedMap.erase list.cluster idToFind) newID p }
          (setName object p newName)

structure Mapped : Prop where
  sorted : KeyedMap.Sorted list.cluster
  keys : ∀ entry ∈ list.cluster, (object entry.2).id = entry.1

/-- The array has the clusters in the order of their identifiers, and each cluster its rank. -/
structure Indexed : Prop extends Mapped list object where
  byIndex : list.byIndex = list.pointers
  index : KeyedMap.Ranked list.cluster fun p => (object p).index

def count (groupId : Nat) : Nat := list.pointers.countP fun p => (object p).groupId = groupId

def departed (after : ClusterList) (groupId : Nat) : Nat :=
  list.pointers.countP fun p => (object p).groupId = groupId ∧ p ∉ after.pointers

variable {list object}

theorem Mapped.nodup (mapped : list.Mapped object) : list.pointers.Nodup := by
  refine List.Nodup.of_map (fun p => (object p).id) ?_
  unfold pointers
  rw [List.map_map]
  have same : list.cluster.map ((fun p => (object p).id) ∘ Prod.snd) = list.cluster.map Prod.fst :=
    List.map_congr_left fun entry member => mapped.keys entry member
  rw [same]
  exact OrderedMap.Sorted.distinct mapped.sorted

theorem Mapped.congr (mapped : list.Mapped object) {after : Clusters}
    (ids : ∀ p ∈ list.pointers, (after p).id = (object p).id) : list.Mapped after where
  sorted := mapped.sorted
  keys entry member := (ids _ (List.mem_map_of_mem member)).trans (mapped.keys entry member)

theorem Indexed.congr (indexed : list.Indexed object) {after : Clusters}
    (ids : ∀ p ∈ list.pointers, (after p).id = (object p).id)
    (indexes : ∀ p ∈ list.pointers, (after p).index = (object p).index) : list.Indexed after where
  toMapped := indexed.toMapped.congr ids
  byIndex := indexed.byIndex
  index rank entry stands :=
    (indexes _ (List.mem_map_of_mem (List.mem_of_getElem? stands))).trans (indexed.index rank entry stands)

theorem rebuildIndex_frame {β : Type} {view : Cluster → β} (kept : ∀ cluster index, view (setIndex cluster index) = view cluster)
    (p : Nat) : view ((list.rebuildIndex object).1 p) = view (object p) :=
  writeRanks_frame kept p

variable (p : Nat)

theorem traits_rebuildIndex : ((list.rebuildIndex object).1 p).traits = (object p).traits :=
  rebuildIndex_frame (fun _ _ => rfl) p

theorem id_rebuildIndex : ((list.rebuildIndex object).1 p).id = (object p).id :=
  rebuildIndex_frame (fun _ _ => rfl) p

theorem rebuildIndex_other {p : Nat} (other : p ∉ list.pointers) : (list.rebuildIndex object).1 p = object p :=
  writeRanks_other other

theorem Mapped.rebuildIndex (mapped : list.Mapped object) :
    (list.rebuildIndex object).2.Indexed (list.rebuildIndex object).1 where
  sorted := mapped.sorted
  keys entry member := (id_rebuildIndex _).trans (mapped.keys entry member)
  byIndex := rfl
  index rank entry stands := by
    have place : list.pointers[rank]? = some entry.2 := by
      unfold pointers
      rw [List.getElem?_map]
      exact congrArg (Option.map Prod.snd) stands
    exact congrArg Cluster.index (writeRanks_at mapped.nodup place)

/-- What an operation of one list does: nothing but the clusters of the list is written, and what the
counter of a group counts beside the clusters of the list are those that have left it.
-/
structure ListStep (list : ClusterList) (object : Clusters) (fresh : Option Nat) (after : Clusters × ClusterList) : Prop where
  indexed : after.2.Indexed after.1
  others : ∀ p ∉ list.pointers, fresh ≠ some p → after.1 p = object p
  pointers : ∀ p ∈ after.2.pointers, p ∈ list.pointers ∨ fresh = some p
  traits : ∀ p, (after.1 p).traits = (object p).traits
  counted : ∀ groupId, after.2.groupCount groupId + list.count object groupId =
    list.groupCount groupId + after.2.count object groupId + list.departed object after.2 groupId

structure NoneAdded (list : ClusterList) (object : Clusters) (after : Clusters × ClusterList) : Prop where
  indexed : after.2.Indexed after.1
  others : ∀ p ∉ list.pointers, after.1 p = object p
  pointers : ∀ p ∈ after.2.pointers, p ∈ list.pointers
  traits : ∀ p, (after.1 p).traits = (object p).traits
  groupCount : after.2.groupCount = list.groupCount

theorem counted_of_subset (mapped : list.Mapped object) {after : ClusterList} (distinct : after.pointers.Nodup)
    (subset : ∀ p ∈ after.pointers, p ∈ list.pointers) (same : after.groupCount = list.groupCount) (groupId : Nat) :
    after.groupCount groupId + list.count object groupId =
      list.groupCount groupId + after.count object groupId + list.departed object after groupId := by
  have split := countP_of_subset mapped.nodup distinct subset fun p => decide ((object p).groupId = groupId)
  have left : list.departed object after groupId =
      list.pointers.countP fun p => decide ((object p).groupId = groupId) && decide (p ∉ after.pointers) := by
    unfold departed
    congr 1
    funext p
    exact Bool.decide_and ..
  rw [same, left, count, count, split]
  omega

theorem NoneAdded.listStep {after : Clusters × ClusterList} (step : list.NoneAdded object after) (mapped : list.Mapped object) :
    list.ListStep object none after where
  indexed := step.indexed
  others p absent _ := step.others p absent
  pointers p member := Or.inl (step.pointers p member)
  traits := step.traits
  counted := counted_of_subset mapped step.indexed.nodup step.pointers step.groupCount

theorem NoneAdded.trans {middle after : Clusters × ClusterList} (first : list.NoneAdded object middle)
    (second : middle.2.NoneAdded middle.1 after) : list.NoneAdded object after where
  indexed := second.indexed
  others p absent := (second.others p fun member => absent (first.pointers p member)).trans (first.others p absent)
  pointers p member := first.pointers p (second.pointers p member)
  traits p := (second.traits p).trans (first.traits p)
  groupCount := second.groupCount.trans first.groupCount

theorem Indexed.unchanged (indexed : list.Indexed object) : list.NoneAdded object (object, list) where
  indexed := indexed
  others _ _ := rfl
  pointers _ member := member
  traits _ := rfl
  groupCount := rfl

variable {after : ClusterList}

theorem Mapped.rebuilt {written : Clusters} (mapped : after.Mapped written)
    (subset : ∀ p ∈ after.pointers, p ∈ list.pointers) (others : ∀ p ∉ list.pointers, written p = object p)
    (traits : ∀ p, (written p).traits = (object p).traits) (same : after.groupCount = list.groupCount) :
    list.NoneAdded object (after.rebuildIndex written) where
  indexed := mapped.rebuildIndex
  others p absent := (rebuildIndex_other fun member => absent (subset p member)).trans (others p absent)
  pointers := subset
  traits p := (traits_rebuildIndex p).trans (traits p)
  groupCount := same

theorem Mapped.detach (mapped : list.Mapped object) (id : Text) : (list.detach id).Mapped object where
  sorted := mapped.sorted.erase
  keys entry member := mapped.keys entry (KeyedMap.mem_erase.mp member).1

theorem mem_pointers_detach {id : Text} {p : Nat} (member : p ∈ (list.detach id).pointers) : p ∈ list.pointers := by
  obtain ⟨entry, inside, rfl⟩ := List.mem_map.mp member
  exact List.mem_map_of_mem (KeyedMap.mem_erase.mp inside).1

theorem Mapped.detached (mapped : list.Mapped object) (id : Text) :
    list.NoneAdded object ((list.detach id).rebuildIndex object) :=
  (mapped.detach id).rebuilt (fun _ => mem_pointers_detach) (fun _ _ => rfl) (fun _ => rfl) rfl

theorem Indexed.remove (indexed : list.Indexed object) (id : Text) : list.NoneAdded object (list.remove object id) := by
  unfold ClusterList.remove
  split
  · exact indexed.unchanged
  · exact indexed.toMapped.detached id

theorem noneAdded_clear (list : ClusterList) (object : Clusters) : list.NoneAdded object (object, list.clear) where
  indexed :=
    { sorted := List.Pairwise.nil
      keys := fun _ member => absurd member List.not_mem_nil
      byIndex := rfl
      index := fun _ _ stands => absurd stands (by simp [ClusterList.clear]) }
  others _ _ := rfl
  pointers _ member := absurd member List.not_mem_nil
  traits _ := rfl
  groupCount := rfl

theorem setName_other {p q : Nat} {newName : Text} (other : q ≠ p) : setName object p newName q = object q :=
  Function.update_of_ne other _ _

variable (newName : Text)

theorem setName_self : setName object p newName p = { object p with name := newName } :=
  Function.update_self ..

theorem traits_setName (q : Nat) : (setName object p newName q).traits = (object q).traits := by
  by_cases same : q = p
  · rw [same, setName_self]
    rfl
  · rw [setName_other same]

theorem index_setName (q : Nat) : (setName object p newName q).index = (object q).index := by
  by_cases same : q = p
  · rw [same, setName_self]
  · rw [setName_other same]

theorem Mapped.renamed (mapped : list.Mapped object) {idToFind newName : Text} {p : Nat} (listed : (idToFind, p) ∈ list.cluster) :
    ({ list with cluster := KeyedMap.assign (KeyedMap.erase list.cluster idToFind) (transformNameIntoID newName) p } :
      ClusterList).Mapped (setName object p newName) where
  sorted := mapped.sorted.erase.assign
  keys entry member := by
    rcases KeyedMap.mem_assign.mp member with rfl | ⟨inside, -⟩
    · rw [setName_self]
      rfl
    · obtain ⟨inList, different⟩ := KeyedMap.mem_erase.mp inside
      have other : entry.2 ≠ p := by
        intro same
        refine different ?_
        rw [← mapped.keys entry inList, same]
        exact mapped.keys _ listed
      rw [setName_other other]
      exact mapped.keys entry inList

theorem Indexed.setName (indexed : list.Indexed object) {newName : Text} {p : Nat}
    (listed : (transformNameIntoID newName, p) ∈ list.cluster) : list.NoneAdded object (setName object p newName, list) := by
  have ids (q : Nat) : (ClusterList.setName object p newName q).id = (object q).id := by
    by_cases same : q = p
    · rw [same, setName_self, indexed.keys _ listed]
      rfl
    · rw [setName_other same]
  refine { indexed.unchanged with
    indexed := indexed.congr (fun q _ => ids q) fun q _ => index_setName p newName q
    others := fun q absent => setName_other ?_
    traits := traits_setName p newName }
  rintro rfl
  exact absent (List.mem_map_of_mem listed)

theorem Indexed.rename (indexed : list.Indexed object) (idToFind newName : Text) :
    list.NoneAdded object (list.rename object idToFind newName) := by
  unfold ClusterList.rename
  split_ifs with empty
  · exact indexed.unchanged
  · dsimp only
    split
    case h_1 => exact indexed.unchanged
    case h_2 p found =>
      have listed := indexed.sorted.lookup_eq_some_iff.mp found
      have inList : p ∈ list.pointers := List.mem_map_of_mem listed
      split_ifs with sameId sameName taken
      · exact indexed.setName (sameId ▸ listed)
      · exact indexed.unchanged
      · exact indexed.unchanged
      · refine (indexed.toMapped.renamed listed).rebuilt ?_ ?_ (traits_setName p newName) rfl
        · intro q member
          obtain ⟨entry, inside, rfl⟩ := List.mem_map.mp member
          rcases KeyedMap.mem_assign.mp inside with rfl | ⟨kept, -⟩
          · exact inList
          · exact List.mem_map_of_mem (KeyedMap.mem_erase.mp kept).1
        · intro q absent
          refine setName_other ?_
          rintro rfl
          exact absent inList

theorem departed_of_subset (subset : ∀ p ∈ list.pointers, p ∈ after.pointers) (groupId : Nat) :
    list.departed object after groupId = 0 :=
  List.countP_eq_zero.mpr fun p member => by simp [subset p member]

theorem counted_of_perm {p : Nat} (perm : after.pointers.Perm (p :: list.pointers))
    (written : after.groupCount =
      Function.update list.groupCount (object p).groupId (list.groupCount (object p).groupId + 1)) (groupId : Nat) :
    after.groupCount groupId + list.count object groupId =
      list.groupCount groupId + after.count object groupId + list.departed object after groupId := by
  have none := @departed_of_subset list object after (fun q member => perm.mem_iff.mpr (List.mem_cons_of_mem p member)) groupId
  rw [none, written, count, count, perm.countP_eq, List.countP_cons]
  by_cases same : (object p).groupId = groupId
  · rw [← same, Function.update_self]
    simp
    omega
  · rw [Function.update_of_ne (Ne.symm same)]
    simp [same]

theorem Mapped.added (mapped : list.Mapped object) (p : Nat) {written : Clusters} (ids : ∀ q, (written q).id = (object q).id) :
    ({ list with cluster := KeyedMap.assign list.cluster (object p).id p } : ClusterList).Mapped written where
  sorted := mapped.sorted.assign
  keys entry member := by
    rcases KeyedMap.mem_assign.mp member with rfl | ⟨inside, -⟩
    · exact ids p
    · exact (ids _).trans (mapped.keys entry inside)

theorem add_frame {β : Type} {view : Cluster → β} (kept : ∀ cluster index, view (setIndex cluster index) = view cluster)
    (p q : Nat) : view ((list.add object p).1 q) = view (object q) := by
  unfold ClusterList.add
  dsimp only
  split_ifs
  · rfl
  · refine (rebuildIndex_frame kept q).trans ?_
    by_cases same : q = p
    · rw [same, Function.update_self, kept]
    · rw [Function.update_of_ne same]

theorem Indexed.add (indexed : list.Indexed object) (p : Nat) : list.ListStep object (some p) (list.add object p) := by
  have traits (q : Nat) : ((list.add object p).1 q).traits = (object q).traits := add_frame (fun _ _ => rfl) p q
  unfold ClusterList.add at traits ⊢
  dsimp only at traits ⊢
  split_ifs at traits ⊢ with exists'
  · refine { indexed.unchanged.listStep indexed.toMapped with others := fun _ _ _ => rfl, pointers := fun _ member => ?_ }
    exact Or.inl member
  · have perm : (KeyedMap.assign list.cluster (object p).id p).Perm (((object p).id, p) :: list.cluster) := by
      rw [KeyedMap.assign, KeyedMap.erase_eq_self exists']
      exact OrderedMap.insert_perm _ _
    have frame {β : Type} (view : Cluster → β) (kept : ∀ cluster index, view (setIndex cluster index) = view cluster)
        (q : Nat) : view (Function.update object p (setIndex (object p) list.cluster.length) q) = view (object q) := by
      by_cases same : q = p
      · rw [same, Function.update_self, kept]
      · rw [Function.update_of_ne same]
    have group := frame Cluster.groupId (fun _ _ => rfl) p
    have ids := frame Cluster.id fun _ _ => rfl
    have mapped := indexed.toMapped.added p ids
    have members {q : Nat} (member : q ∈ (KeyedMap.assign list.cluster (object p).id p).map Prod.snd) :
        q ∈ list.pointers ∨ some p = some q := by
      rcases List.mem_cons.mp ((perm.map Prod.snd).mem_iff.mp member) with same | inside
      · exact Or.inr (congrArg some same.symm)
      · exact Or.inl inside
    refine ⟨?_, fun q absent other => ?_, fun q member => members member, traits, ?_⟩
    · exact Mapped.rebuildIndex ⟨mapped.sorted, mapped.keys⟩
    · refine (rebuildIndex_other fun member => ?_).trans ?_
      · exact (members member).elim absent other
      · exact Function.update_of_ne (fun same => other (congrArg some same.symm)) _ _
    · refine counted_of_perm (perm.map Prod.snd) ?_
      rw [group]
      rfl

theorem cluster_add (list : ClusterList) (object : Clusters) (p : Nat) : (list.add object p).2.cluster =
    if (object p).id ∈ list.cluster.map Prod.fst then list.cluster else KeyedMap.assign list.cluster (object p).id p := by
  unfold ClusterList.add
  dsimp only
  split_ifs <;> rfl

theorem mem_pointers_add {p q : Nat} (member : q ∈ list.pointers) : q ∈ (list.add object p).2.pointers := by
  unfold pointers
  rw [cluster_add]
  split_ifs with exists'
  · exact member
  · obtain ⟨entry, inside, rfl⟩ := List.mem_map.mp member
    refine List.mem_map_of_mem (KeyedMap.mem_assign.mpr (Or.inr ⟨inside, fun same => exists' ?_⟩))
    exact same ▸ List.mem_map_of_mem inside

theorem cluster_remove (list : ClusterList) (object : Clusters) (id : Text) :
    (list.remove object id).2.cluster = KeyedMap.erase list.cluster id := by
  unfold ClusterList.remove
  split
  case h_1 none => exact (KeyedMap.erase_eq_self (KeyedMap.lookup_eq_none_iff.mp none)).symm
  case h_2 => rfl

end ClusterList

inductive ListName where
  | list
  | mustrunList
  deriving DecidableEq

/-- The clusters below `next` have been allocated. -/
structure PartThermal where
  object : Clusters
  next : Nat
  list : ClusterList
  mustrunList : ClusterList
  clusters : List Nat

/-- The operations on the lists; a cluster is detached with the index rebuilt, and only new ones are added. -/
inductive Operation where
  | add (name : ListName) (newcluster : Cluster)
  | rename (name : ListName) (idToFind newName : Text)
  | remove (name : ListName) (id : Text)
  | detach (name : ListName) (id : Text)
  | clear (name : ListName)
  | removeDisabledClusters
  | prepareClustersInMustRunMode
  deriving DecidableEq

namespace PartThermal

def empty : PartThermal where
  object _ := { name := [], groupId := 0, mustrun := false, enabled := false }
  next := 0
  list := {}
  mustrunList := {}
  clusters := []

variable (part : PartThermal)

def get : ListName → ClusterList
  | .list => part.list
  | .mustrunList => part.mustrunList

def set (name : ListName) (after : Clusters × ClusterList) : PartThermal :=
  match name with
  | .list => { part with object := after.1, list := after.2 }
  | .mustrunList => { part with object := after.1, mustrunList := after.2 }

/-- `std::make_shared`, and the cluster is added. -/
def add (name : ListName) (newcluster : Cluster) : PartThermal :=
  let allocated := { part with object := Function.update part.object part.next newcluster, next := part.next + 1 }
  allocated.set name ((part.get name).add allocated.object part.next)

def removeEach (after : Clusters × ClusterList) (ids : List Text) : Clusters × ClusterList :=
  ids.foldl (fun after id => after.2.remove after.1 id) after

def removeDisabledClusters : PartThermal × Nat :=
  if part.list.cluster = [] then (part, 0)
  else
    let disabledClusters := (part.list.cluster.filter fun entry => !(part.object entry.2).enabled).map Prod.fst
    let removed := removeEach (part.object, part.list) disabledClusters
    let count := disabledClusters.length
    (part.set .list (if count ≠ 0 then removed.2.rebuildIndex removed.1 else removed), count)

def setAreaWideIndex (cluster : Cluster) (index : Nat) : Cluster := { cluster with areaWideIndex := index }

def prepareAreaWideIndexes : PartThermal :=
  if part.list.cluster = [] then { part with clusters := [] }
  else
    { part with
      object := writeRanks setAreaWideIndex part.object part.list.pointers
      clusters := part.list.pointers }

def moved (id : Text) (cluster : Nat) : PartThermal :=
  let detached := { part with list := part.list.detach id }
  detached.set .mustrunList (detached.mustrunList.add detached.object cluster)

/-- The loop over the main list, which begins again for every cluster that is moved. After a disabled one
it would go on from the element that it has erased, and nothing can be said.
-/
def moveMustRun : Nat → PartThermal → Nat → Option (PartThermal × Nat)
  | 0, part, count => some (part, count)
  | fuel + 1, part, count =>
    match part.list.cluster.find? fun entry => (part.object entry.2).mustrun with
    | none => some (part, count)
    | some (id, cluster) =>
      if !(part.object cluster).enabled then none else moveMustRun fuel (part.moved id cluster) (count + 1)

def prepareClustersInMustRunMode : Option (PartThermal × Nat) :=
  if part.list.cluster = [] then some (part, 0)
  else
    match moveMustRun part.list.cluster.length part 0 with
    | none => none
    | some (moved, count) =>
      if count ≠ 0 then
        let rebuilt := moved.set .list (moved.list.rebuildIndex moved.object)
        some (rebuilt.set .mustrunList (rebuilt.mustrunList.rebuildIndex rebuilt.object), count)
      else some (moved, count)

def step (part : PartThermal) : Operation → Option PartThermal
  | .add name newcluster => some (part.add name newcluster)
  | .rename name idToFind newName => some (part.set name ((part.get name).rename part.object idToFind newName))
  | .remove name id => some (part.set name ((part.get name).remove part.object id))
  | .detach name id => some (part.set name (((part.get name).detach id).rebuildIndex part.object))
  | .clear name => some (part.set name (part.object, (part.get name).clear))
  | .removeDisabledClusters => some part.removeDisabledClusters.1
  | .prepareClustersInMustRunMode => part.prepareClustersInMustRunMode.map Prod.fst

def run (operations : List Operation) : Option PartThermal := operations.foldlM step empty

/-- What `StudyRuntimeInfos::loadFromStudy` does with the lists of an area. -/
def loadFromStudy : Option PartThermal :=
  part.removeDisabledClusters.1.prepareAreaWideIndexes.prepareClustersInMustRunMode.map Prod.fst

/-- The two lists have indexes of their own, over clusters that they do not share. -/
structure Right : Prop where
  indexed : ∀ name, (part.get name).Indexed part.object
  apart : ∀ name other, name ≠ other → ∀ p ∈ (part.get name).pointers, p ∉ (part.get other).pointers
  allocated : ∀ name, ∀ p ∈ (part.get name).pointers, p < part.next

def left (before after : PartThermal) (name : ListName) (groupId : Nat) : Nat :=
  (before.get name).departed before.object (after.get name) groupId

def leftDuring (name : ListName) (groupId : Nat) : PartThermal → List Operation → Nat
  | _, [] => 0
  | part, operation :: operations =>
    match part.step operation with
    | none => 0
    | some after => part.left after name groupId + leftDuring name groupId after operations

def NoDisabledMustRun : Prop :=
  ∀ entry ∈ part.list.cluster, (part.object entry.2).mustrun = true → (part.object entry.2).enabled = true

instance : Decidable part.NoDisabledMustRun := inferInstanceAs (Decidable (∀ entry ∈ part.list.cluster, _))

/-- The must-run mode is prepared only where no disabled cluster is must-run. -/
def Admissible : PartThermal → List Operation → Prop
  | _, [] => True
  | part, operation :: operations =>
    (operation = .prepareClustersInMustRunMode → part.NoDisabledMustRun) ∧
      match part.step operation with
      | none => True
      | some after => Admissible after operations

instance Admissible.decidable : (part : PartThermal) → (operations : List Operation) → Decidable (part.Admissible operations)
  | _, [] => isTrue trivial
  | part, operation :: operations =>
    have : Decidable (match part.step operation with | none => True | some after => Admissible after operations) :=
      match part.step operation with
      | none => isTrue trivial
      | some after => Admissible.decidable after operations
    inferInstanceAs (Decidable (_ ∧ _))

section Steps

variable {part}

variable (name : ListName) (after : Clusters × ClusterList)

theorem object_set : (part.set name after).object = after.1 := by
  cases name <;> rfl

theorem next_set : (part.set name after).next = part.next := by
  cases name <;> rfl

theorem get_set_self : (part.set name after).get name = after.2 := by
  cases name <;> rfl

theorem get_set_other {name other : ListName} (different : other ≠ name) (after : Clusters × ClusterList) :
    (part.set name after).get other = part.get other := by
  cases name <;> cases other
  · exact absurd rfl different
  · rfl
  · rfl
  · exact absurd rfl different

/-- What a step of a run keeps, and how its counters differ from the clusters of the lists. -/
structure PartStep (before after : PartThermal) : Prop where
  right : after.Right
  next : before.next ≤ after.next
  traits : ∀ p < before.next, (after.object p).traits = (before.object p).traits
  counted : ∀ name groupId, (after.get name).groupCount groupId + (before.get name).count before.object groupId =
    (before.get name).groupCount groupId + (after.get name).count after.object groupId + left before after name groupId

theorem groupId_of_traits {cluster other : Cluster} (same : cluster.traits = other.traits) :
    cluster.groupId = other.groupId :=
  congrArg Prod.fst same

variable {list : ClusterList} {object written : Clusters}

theorem count_congr
    (same : ∀ p ∈ list.pointers, (written p).traits = (object p).traits) (groupId : Nat) :
    list.count written groupId = list.count object groupId := by
  refine List.countP_congr fun p member => ?_
  rw [groupId_of_traits (same p member)]

theorem departed_congr
    (same : ∀ p ∈ list.pointers, (written p).traits = (object p).traits) (after : ClusterList) (groupId : Nat) :
    list.departed written after groupId = list.departed object after groupId := by
  refine List.countP_congr fun p member => ?_
  rw [groupId_of_traits (same p member)]

theorem Right.set (right : part.Right) {name : ListName} {fresh : Option Nat} {after : Clusters × ClusterList}
    (listStep : (part.get name).ListStep part.object fresh after)
    (unused : ∀ p, fresh = some p → p < part.next ∧ ∀ other, p ∉ (part.get other).pointers) :
    part.PartStep (part.set name after) := by
  have foreign {other : ListName} (different : other ≠ name) {p : Nat} (member : p ∈ (part.get other).pointers) :
      p ∉ after.2.pointers := by
    intro inside
    rcases listStep.pointers p inside with own | new
    · exact right.apart other name different p member own
    · exact (unused p new).2 other member
  have kept {other : ListName} (different : other ≠ name) {p : Nat} (member : p ∈ (part.get other).pointers) :
      after.1 p = part.object p :=
    listStep.others p (right.apart other name different p member) fun new => (unused p new).2 other member
  refine ⟨⟨fun other => ?_, fun first second different p member => ?_, fun other p member => ?_⟩, ?_, fun p _ => ?_,
    fun other groupId => ?_⟩
  · rw [object_set]
    by_cases same : other = name
    · rw [same, get_set_self]
      exact listStep.indexed
    · rw [get_set_other same]
      refine (right.indexed other).congr (fun p member => ?_) fun p member => ?_
      · rw [kept same member]
      · rw [kept same member]
  · by_cases isFirst : first = name
    · have other : second ≠ name := fun same => different (isFirst.trans same.symm)
      rw [get_set_other other]
      rw [isFirst, get_set_self] at member
      exact fun inside => foreign other inside member
    · rw [get_set_other isFirst] at member
      by_cases isSecond : second = name
      · rw [isSecond, get_set_self]
        exact foreign isFirst member
      · rw [get_set_other isSecond]
        exact right.apart first second different p member
  · rw [next_set]
    by_cases same : other = name
    · rw [same, get_set_self] at member
      rcases listStep.pointers p member with own | new
      · exact right.allocated name p own
      · exact (unused p new).1
    · rw [get_set_other same] at member
      exact right.allocated other p member
  · rw [next_set]
  · rw [object_set]
    exact listStep.traits p
  · rw [left, object_set, count_congr (fun p _ => listStep.traits p)]
    by_cases same : other = name
    · rw [same, get_set_self]
      exact listStep.counted groupId
    · rw [get_set_other same, ClusterList.departed_of_subset fun _ member => member]
      rfl

theorem Right.noneAdded (right : part.Right) {name : ListName} {after : Clusters × ClusterList}
    (step : (part.get name).NoneAdded part.object after) : part.PartStep (part.set name after) :=
  right.set (step.listStep (right.indexed name).toMapped) fun _ none => by cases none

def allocate (part : PartThermal) (newcluster : Cluster) : PartThermal :=
  { part with object := Function.update part.object part.next newcluster, next := part.next + 1 }

variable (newcluster : Cluster)

theorem get_allocate (name : ListName) : (part.allocate newcluster).get name = part.get name := by
  cases name <;> rfl

theorem object_allocate {p : Nat} (old : p < part.next) :
    (part.allocate newcluster).object p = part.object p :=
  Function.update_of_ne old.ne _ _

theorem Right.allocate (right : part.Right) (newcluster : Cluster) : (part.allocate newcluster).Right where
  indexed name := by
    rw [get_allocate]
    refine (right.indexed name).congr (fun p member => ?_) fun p member => ?_
    · rw [object_allocate newcluster (right.allocated name p member)]
    · rw [object_allocate newcluster (right.allocated name p member)]
  apart name other different p member := by
    rw [get_allocate] at member ⊢
    exact right.apart name other different p member
  allocated name p member := by
    rw [get_allocate] at member
    exact (right.allocated name p member).trans (Nat.lt_succ_self _)

theorem Right.add (right : part.Right) (name : ListName) (newcluster : Cluster) :
    part.PartStep (part.add name newcluster) := by
  have indexed := (right.allocate newcluster).indexed name
  have unused (other : ListName) : part.next ∉ ((part.allocate newcluster).get other).pointers := by
    rw [get_allocate]
    exact fun member => absurd (right.allocated other _ member) (lt_irrefl _)
  have step := (right.allocate newcluster).set (indexed.add part.next) fun p new => by
    cases new
    exact ⟨Nat.lt_succ_self _, unused⟩
  have same : part.add name newcluster = (part.allocate newcluster).set name
      (((part.allocate newcluster).get name).add (part.allocate newcluster).object part.next) := by
    rw [get_allocate]
    rfl
  have traits {p : Nat} (old : p < part.next) :
      ((part.allocate newcluster).object p).traits = (part.object p).traits := by
    rw [object_allocate newcluster old]
  rw [same]
  refine ⟨step.right, (Nat.le_succ _).trans step.next, fun p old => ?_, fun other groupId => ?_⟩
  · exact (step.traits p (old.trans (Nat.lt_succ_self _))).trans (traits old)
  · have counted := step.counted other groupId
    have same : ∀ p ∈ (part.get other).pointers, ((part.allocate newcluster).object p).traits = (part.object p).traits :=
      fun p member => traits (right.allocated other p member)
    rw [left, get_allocate newcluster other, count_congr same, departed_congr same] at counted
    exact counted

theorem noneAdded_removeEach {after : Clusters × ClusterList} (indexed : after.2.Indexed after.1) (ids : List Text) :
    after.2.NoneAdded after.1 (removeEach after ids) := by
  induction ids generalizing after with
  | nil => exact indexed.unchanged
  | cons id ids later =>
    have first := indexed.remove id
    exact first.trans (later first.indexed)

theorem cluster_removeEach (ids : List Text) :
    (removeEach after ids).2.cluster = after.2.cluster.filter fun entry => entry.1 ∉ ids := by
  induction ids generalizing after with
  | nil => simp [removeEach]
  | cons id ids later =>
    have rest := later (after.2.remove after.1 id)
    rw [ClusterList.cluster_remove, KeyedMap.erase, List.filter_filter] at rest
    refine rest.trans (List.filter_congr fun entry _ => ?_)
    simp [Bool.and_comm]

theorem noneAdded_removed {object : Clusters} (indexed : list.Indexed object) (ids : List Text) (count : Nat) :
    list.NoneAdded object
      (if count ≠ 0 then (removeEach (object, list) ids).2.rebuildIndex (removeEach (object, list) ids).1
      else removeEach (object, list) ids) := by
  have removed := @noneAdded_removeEach (object, list) indexed ids
  split_ifs
  · exact removed.trans (removed.indexed.toMapped.rebuilt (fun _ member => member) (fun _ _ => rfl) (fun _ => rfl) rfl)
  · exact removed

theorem Right.removeDisabledClusters (right : part.Right) : part.PartStep part.removeDisabledClusters.1 := by
  unfold PartThermal.removeDisabledClusters
  split_ifs
  · exact @Right.noneAdded part right .list _ (right.indexed .list).unchanged
  · exact right.noneAdded (noneAdded_removed (right.indexed .list) _ _)

end Steps

section MustRun

/-- What holds while the must-run clusters are moved; the index of the main list is not rebuilt yet. -/
structure Moving (before part : PartThermal) : Prop where
  mapped : part.list.Mapped part.object
  mustrun : part.mustrunList.Indexed part.object
  next : part.next = before.next
  sublist : part.list.cluster.Sublist before.list.cluster
  groupCount : part.list.groupCount = before.list.groupCount
  apart : ∀ p ∈ part.list.pointers, p ∉ part.mustrunList.pointers
  origin : ∀ p ∈ part.mustrunList.pointers, p ∈ before.mustrunList.pointers ∨ p ∈ before.list.pointers
  kept : ∀ p ∈ before.mustrunList.pointers, p ∈ part.mustrunList.pointers
  traits : ∀ p, (part.object p).traits = (before.object p).traits
  counted : ∀ groupId, part.mustrunList.groupCount groupId + before.mustrunList.count before.object groupId =
    before.mustrunList.groupCount groupId + part.mustrunList.count part.object groupId

variable {before part : PartThermal}

theorem Right.moving (right : part.Right) : part.Moving part where
  mapped := (right.indexed .list).toMapped
  mustrun := right.indexed .mustrunList
  next := rfl
  sublist := List.Sublist.refl _
  groupCount := rfl
  apart := right.apart .list .mustrunList (by decide)
  origin _ member := Or.inl member
  kept _ member := member
  traits _ := rfl
  counted _ := rfl

theorem Moving.moved (moving : before.Moving part) {id : Text} {p : Nat} (listed : (id, p) ∈ part.list.cluster) :
    before.Moving (part.moved id p) := by
  have step := moving.mustrun.add p
  have inList : p ∈ part.list.pointers := List.mem_map_of_mem listed
  -- The other clusters of the main list have not been written.
  have other {q : Nat} (member : q ∈ (part.list.detach id).pointers) : q ≠ p := by
    obtain ⟨entry, inside, rfl⟩ := List.mem_map.mp member
    obtain ⟨inCluster, different⟩ := KeyedMap.mem_erase.mp inside
    intro same
    refine different ?_
    rw [← moving.mapped.keys entry inCluster, same]
    exact moving.mapped.keys _ listed
  have same {q : Nat} (member : q ∈ (part.list.detach id).pointers) :
      (part.mustrunList.add part.object p).1 q = part.object q :=
    step.others q (moving.apart q (ClusterList.mem_pointers_detach member)) fun new => other member (Option.some.inj new).symm
  constructor
  case mapped => exact (moving.mapped.detach id).congr fun q member => congrArg Cluster.id (same member)
  case mustrun => exact step.indexed
  case next => exact moving.next
  case sublist => exact List.filter_sublist.trans moving.sublist
  case groupCount => exact moving.groupCount
  case apart =>
    intro q member inside
    rcases step.pointers q inside with own | new
    · exact moving.apart q (ClusterList.mem_pointers_detach member) own
    · exact other member (Option.some.inj new).symm
  case origin =>
    intro q inside
    rcases step.pointers q inside with own | new
    · exact moving.origin q own
    · cases new
      exact Or.inr ((moving.sublist.map Prod.snd).subset inList)
  case kept => exact fun q member => ClusterList.mem_pointers_add (moving.kept q member)
  case traits => exact fun q => (step.traits q).trans (moving.traits q)
  case counted =>
    intro groupId
    have counted := step.counted groupId
    have earlier := moving.counted groupId
    have same : (part.mustrunList.add part.object p).2.count (part.mustrunList.add part.object p).1 groupId =
        (part.mustrunList.add part.object p).2.count part.object groupId := count_congr (fun q _ => step.traits q) groupId
    rw [ClusterList.departed_of_subset fun _ member => ClusterList.mem_pointers_add member] at counted
    change (part.mustrunList.add part.object p).2.groupCount groupId + _ =
      _ + (part.mustrunList.add part.object p).2.count (part.mustrunList.add part.object p).1 groupId
    omega

theorem moveMustRun_succ {fuel : Nat} {count : Nat} {entry : Text × Nat}
    (found : part.list.cluster.find? (fun entry => (part.object entry.2).mustrun) = some entry) :
    moveMustRun (fuel + 1) part count =
      if !(part.object entry.2).enabled then none else moveMustRun fuel (part.moved entry.1 entry.2) (count + 1) := by
  rw [moveMustRun, found]

theorem moveMustRun_of_none {fuel : Nat} {count : Nat}
    (none : part.list.cluster.find? (fun entry => (part.object entry.2).mustrun) = none) :
    moveMustRun fuel part count = some (part, count) := by
  cases fuel with
  | zero => rfl
  | succ fuel => rw [moveMustRun, none]

theorem Moving.moveMustRun (moving : before.Moving part) {fuel count total : Nat} {after : PartThermal}
    (result : moveMustRun fuel part count = some (after, total)) : before.Moving after := by
  induction fuel generalizing part count with
  | zero =>
    cases result
    exact moving
  | succ fuel later =>
    cases found : part.list.cluster.find? fun entry => (part.object entry.2).mustrun with
    | none =>
      rw [moveMustRun_of_none found] at result
      cases result
      exact moving
    | some entry =>
      rw [moveMustRun_succ found] at result
      split_ifs at result
      exact later (moving.moved (List.mem_of_find?_eq_some found)) result

theorem le_of_moveMustRun {fuel count total : Nat} {after : PartThermal}
    (result : moveMustRun fuel part count = some (after, total)) : count < total ∨ after = part ∧ total = count := by
  induction fuel generalizing part count with
  | zero =>
    cases result
    exact Or.inr ⟨rfl, rfl⟩
  | succ fuel later =>
    cases found : part.list.cluster.find? fun entry => (part.object entry.2).mustrun with
    | none =>
      rw [moveMustRun_of_none found] at result
      cases result
      exact Or.inr ⟨rfl, rfl⟩
    | some entry =>
      rw [moveMustRun_succ found] at result
      split_ifs at result
      rcases later result with more | ⟨-, same⟩
      · exact Or.inl (by omega)
      · exact Or.inl (by omega)

def rebuildIndexes (part : PartThermal) : PartThermal :=
  let rebuilt := part.set .list (part.list.rebuildIndex part.object)
  rebuilt.set .mustrunList (rebuilt.mustrunList.rebuildIndex rebuilt.object)

theorem traits_rebuildIndexes (p : Nat) : (part.rebuildIndexes.object p).traits = (part.object p).traits :=
  (ClusterList.traits_rebuildIndex p).trans (ClusterList.traits_rebuildIndex p)

theorem Moving.rebuildIndexes (moving : before.Moving part) (right : before.Right) :
    before.PartStep part.rebuildIndexes := by
  have main := moving.mapped.rebuildIndex
  have mustrun : part.mustrunList.Mapped (part.list.rebuildIndex part.object).1 :=
    moving.mustrun.toMapped.congr fun p _ => ClusterList.id_rebuildIndex p
  have traits (p : Nat) : (part.rebuildIndexes.object p).traits = (before.object p).traits :=
    (traits_rebuildIndexes p).trans (moving.traits p)
  have subset : ∀ p ∈ part.list.pointers, p ∈ before.list.pointers := fun p member =>
    (moving.sublist.map Prod.snd).subset member
  have kept {p : Nat} (member : p ∈ part.list.pointers) :
      part.rebuildIndexes.object p = (part.list.rebuildIndex part.object).1 p :=
    ClusterList.rebuildIndex_other (moving.apart p member)
  constructor
  case right =>
    constructor
    case indexed =>
      intro name
      cases name with
      | list =>
        refine main.congr (fun p member => ?_) fun p member => ?_
        · rw [kept member]
        · rw [kept member]
      | mustrunList => exact mustrun.rebuildIndex
    case apart =>
      intro name other different p member
      cases name with
      | list =>
        cases other with
        | list => exact absurd rfl different
        | mustrunList => exact moving.apart p member
      | mustrunList =>
        cases other with
        | list => exact fun inside => moving.apart p inside member
        | mustrunList => exact absurd rfl different
    case allocated =>
      intro name p member
      refine lt_of_lt_of_eq ?_ moving.next.symm
      cases name with
      | list => exact right.allocated .list p (subset p member)
      | mustrunList =>
        rcases moving.origin p member with own | arrived
        · exact right.allocated .mustrunList p own
        · exact right.allocated .list p arrived
  case next => exact moving.next.ge
  case traits => exact fun p _ => traits p
  case counted =>
    intro name groupId
    cases name with
    | list =>
      have counted := ClusterList.counted_of_subset (right.indexed .list).toMapped
        (moving.mapped.nodup) subset moving.groupCount groupId
      have same : part.list.count part.rebuildIndexes.object groupId = part.list.count before.object groupId :=
        count_congr (fun p _ => traits p) groupId
      rw [← same] at counted
      exact counted
    | mustrunList =>
      have counted := moving.counted groupId
      have same : part.mustrunList.count part.rebuildIndexes.object groupId = part.mustrunList.count part.object groupId :=
        count_congr (fun p _ => traits_rebuildIndexes p) groupId
      have none : before.mustrunList.departed before.object part.mustrunList groupId = 0 :=
        ClusterList.departed_of_subset moving.kept groupId
      rw [← same] at counted
      rw [left]
      change _ = _ + before.mustrunList.departed before.object part.mustrunList groupId
      rw [none]
      exact counted

theorem Right.unchanged (right : part.Right) : part.PartStep part where
  right := right
  next := le_rfl
  traits _ _ := rfl
  counted name groupId := by
    rw [left, ClusterList.departed_of_subset fun _ member => member]
    rfl

theorem Right.prepareClustersInMustRunMode (right : part.Right) {after : PartThermal} {count : Nat}
    (result : part.prepareClustersInMustRunMode = some (after, count)) : part.PartStep after := by
  unfold PartThermal.prepareClustersInMustRunMode at result
  split_ifs at result
  · cases result
    exact right.unchanged
  · split at result
    · cases result
    case h_2 moved total found =>
      have moving := right.moving.moveMustRun found
      split_ifs at result with some
      · cases result
        exact moving.rebuildIndexes right
      · cases result
        rcases le_of_moveMustRun found with more | ⟨rfl, -⟩
        · exact absurd more (by omega)
        · exact right.unchanged

theorem Moving.exists_moveMustRun (moving : before.Moving part) (enabled : before.NoDisabledMustRun) (fuel count : Nat) :
    ∃ result, PartThermal.moveMustRun fuel part count = some result := by
  induction fuel generalizing part count with
  | zero => exact ⟨_, rfl⟩
  | succ fuel later =>
    cases found : part.list.cluster.find? fun entry => (part.object entry.2).mustrun with
    | none => exact ⟨_, moveMustRun_of_none found⟩
    | some entry =>
      have listed := List.mem_of_find?_eq_some found
      have traits := moving.traits entry.2
      simp only [Cluster.traits, Prod.mk.injEq] at traits
      have mustrun : (part.object entry.2).mustrun = true := by
        simpa using List.find?_some found
      have isEnabled : (part.object entry.2).enabled = true := by
        rw [traits.2.2]
        exact enabled entry (moving.sublist.subset listed) (traits.2.1 ▸ mustrun)
      rw [moveMustRun_succ found, isEnabled]
      exact later (moving.moved listed) (count + 1)

theorem Right.exists_prepare (right : part.Right) (enabled : part.NoDisabledMustRun) :
    ∃ result, part.prepareClustersInMustRunMode = some result := by
  unfold PartThermal.prepareClustersInMustRunMode
  split_ifs
  · exact ⟨_, rfl⟩
  · obtain ⟨⟨moved, total⟩, found⟩ := right.moving.exists_moveMustRun enabled part.list.cluster.length 0
    rw [found]
    dsimp only
    split_ifs
    · exact ⟨_, rfl⟩
    · exact ⟨_, rfl⟩

end MustRun

section Runs

variable {part : PartThermal}

theorem Right.step (right : part.Right) {operation : Operation} {after : PartThermal}
    (result : part.step operation = some after) : part.PartStep after := by
  cases operation with
  | add name newcluster =>
    cases result
    exact right.add name newcluster
  | rename name idToFind newName =>
    cases result
    exact right.noneAdded ((right.indexed name).rename idToFind newName)
  | remove name id =>
    cases result
    exact right.noneAdded ((right.indexed name).remove id)
  | detach name id =>
    cases result
    exact right.noneAdded ((right.indexed name).toMapped.detached id)
  | clear name =>
    cases result
    exact right.noneAdded (ClusterList.noneAdded_clear _ _)
  | removeDisabledClusters =>
    cases result
    exact right.removeDisabledClusters
  | prepareClustersInMustRunMode =>
    obtain ⟨⟨prepared, count⟩, found, rfl⟩ := Option.map_eq_some_iff.mp result
    exact right.prepareClustersInMustRunMode found

theorem Right.exists_step (right : part.Right) {operation : Operation}
    (enabled : operation = .prepareClustersInMustRunMode → part.NoDisabledMustRun) :
    ∃ after, part.step operation = some after := by
  cases operation with
  | prepareClustersInMustRunMode =>
    obtain ⟨result, found⟩ := right.exists_prepare (enabled rfl)
    exact ⟨result.1, by rw [PartThermal.step, found, Option.map_some]⟩
  | _ => exact ⟨_, rfl⟩

theorem Right.foldlM (right : part.Right) {operations : List Operation} (admissible : part.Admissible operations)
    {gone : ListName → Nat → Nat}
    (start : ∀ name groupId, (part.get name).groupCount groupId = (part.get name).count part.object groupId + gone name groupId) :
    ∃ after, operations.foldlM PartThermal.step part = some after ∧ after.Right ∧ ∀ name groupId,
      (after.get name).groupCount groupId =
        (after.get name).count after.object groupId + (gone name groupId + part.leftDuring name groupId operations) := by
  induction operations generalizing part gone with
  | nil => exact ⟨part, rfl, right, start⟩
  | cons operation operations later =>
    obtain ⟨allowed, rest⟩ := admissible
    obtain ⟨middle, found⟩ := right.exists_step allowed
    have step := right.step found
    rw [found] at rest
    have gone' : ∀ name groupId, (middle.get name).groupCount groupId =
        (middle.get name).count middle.object groupId + (gone name groupId + part.left middle name groupId) := by
      intro name groupId
      have now := step.counted name groupId
      have earlier := start name groupId
      omega
    obtain ⟨after, result, rightAfter, counted⟩ := later step.right rest gone'
    refine ⟨after, ?_, rightAfter, fun name groupId => ?_⟩
    · rw [List.foldlM_cons, found]
      exact result
    · rw [counted, leftDuring, found]
      dsimp only
      omega

end Runs

end PartThermal
end Antares.Thermal
