import Antares.Renaming.RenamedAreas

/-! Renaming an area or a cluster of a study. Where the identifier of the new name is taken, the element
that has it is renamed, as if it were the one that is asked for.
-/

set_option autoImplicit false

namespace Antares.Renaming

open Library Data

inductive ClusterKind where
  | thermal
  | renewable
  deriving DecidableEq

/-- The lists of an area; a simulation moves the must-run clusters to a list of their own. -/
inductive ClusterListName where
  | thermal
  | thermalMustrun
  | renewable
  deriving DecidableEq

def ClusterListName.kind : ClusterListName → ClusterKind
  | .thermal => .thermal
  | .thermalMustrun => .thermal
  | .renewable => .renewable

def ClusterKind.list : ClusterKind → ClusterListName
  | .thermal => .thermal
  | .renewable => .renewable

structure Cluster where
  name : Text
  kind : ClusterKind
  parentArea : Nat
  deriving DecidableEq

def Cluster.id (cluster : Cluster) : Text := transformNameIntoID cluster.name

structure Study where
  areas : AreaList
  cluster : Nat → Cluster
  lists : Nat → ClusterListName → List (Text × Nat)

namespace Study

variable (study : Study)

variable (area : Nat) (newName : Text)

def setAreaName : Study :=
  { study with areas := study.areas.updateArea area fun area => { area with name := newName } }

def setName (cluster : Nat) (newName : Text) : Study :=
  { study with cluster := Function.update study.cluster cluster { study.cluster cluster with name := newName } }

variable (name : ClusterListName)

def setList (list : List (Text × Nat)) : Study :=
  { study with lists := Function.update study.lists area (Function.update (study.lists area) name list) }

/-- The beautified name and its identifier, where neither is empty. -/
def accepted : Option (Text × Text) :=
  if newName = [] then none
  else if beautifyName newName = [] then none
  else if transformNameIntoID (beautifyName newName) = [] then none
  else some (beautifyName newName, transformNameIntoID (beautifyName newName))

/-- The correlations and rules that are saved and read again hold no names of elements, nor do the
orientations of the links.
-/
def areaRename : Study × Bool :=
  match accepted newName with
  | none => (study, false)
  | some (newName, newid) =>
    match KeyedMap.lookup study.areas.areas newid with
    | some found => if (study.areas.area found).name ≠ newName then (study.setAreaName found newName, true) else (study, false)
    | none =>
      let renamed := study.areas.renameArea (study.areas.area area).id newid newName
      ({ study with areas := renamed.1 }, renamed.2)

/-- `ClusterList::rename` -/
def renameInList (idToFind newName : Text) : Study × Bool :=
  if idToFind = [] ∨ newName = [] then (study, false)
  else
    let idToFind := toLower idToFind
    let newID := transformNameIntoID newName
    match KeyedMap.lookup (study.lists area name) idToFind with
    -- nothing to rename is a success
    | none => (study, true)
    | some p =>
      if idToFind = newID then (study.setName p newName, true)
      else if (study.cluster p).name = newName then (study, true)
      else if newID ∈ (study.lists area name).map Prod.fst then (study, false)
      else
        let erased := study.setList area name (KeyedMap.erase (study.lists area name) idToFind)
        let named := erased.setName p newName
        (named.setList area name (KeyedMap.assign (named.lists area name) newID p), true)

def clusterRename (cluster : Nat) (newName : Text) : Study × Bool :=
  match accepted newName with
  | none => (study, false)
  | some (newName, newID) =>
    let area := (study.cluster cluster).parentArea
    let list := (study.cluster cluster).kind.list
    match KeyedMap.lookup (study.lists area list) newID with
    | some found => if (study.cluster found).name ≠ newName then (study.setName found newName, true) else (study, false)
    | none => study.renameInList area list (study.cluster cluster).id newName

inductive Element where
  | area (address : Nat)
  | cluster (address : Nat)
  deriving DecidableEq

def rename (target : Element) (newName : Text) : Study × Bool :=
  match target with
  | .area area => study.areaRename area newName
  | .cluster cluster => study.clusterRename cluster newName

def called (element : Element) : Text × Text :=
  match element with
  | .area area => ((study.areas.area area).name, (study.areas.area area).id)
  | .cluster cluster => ((study.cluster cluster).name, (study.cluster cluster).id)

def Has (element : Element) : Prop :=
  match element with
  | .area area => area ∈ study.areas.areas.map Prod.snd
  | .cluster cluster => ∃ area ∈ study.areas.areas.map Prod.snd, ∃ list, cluster ∈ (study.lists area list).map Prod.snd

structure Indexed : Prop where
  areas : ∀ entry ∈ study.areas.areas, (study.areas.area entry.2).id = entry.1
  clusters : ∀ area list, ∀ entry ∈ study.lists area list, (study.cluster entry.2).id = entry.1

end Study

/-- A study as it is loaded: each cluster is once in the lists of its area. -/
structure LoadedStudy where
  areas : LoadedAreas
  cluster : Nat → Cluster
  lists : Nat → ClusterListName → List (Text × Nat)
  sorted : ∀ area list, KeyedMap.Sorted (lists area list)
  keys : ∀ area list, ∀ entry ∈ lists area list, (cluster entry.2).id = entry.1
  kinds : ∀ area list, ∀ entry ∈ lists area list, (cluster entry.2).kind = list.kind
  parents : ∀ area list, ∀ entry ∈ lists area list, (cluster entry.2).parentArea = area
  once : ∀ area list other, ∀ entry ∈ lists area list, ∀ same ∈ lists area other, entry.2 = same.2 → list = other

namespace LoadedStudy

variable (study : LoadedStudy)

def toStudy : Study where
  areas := study.areas.toAreaList
  cluster := study.cluster
  lists := study.lists

/-- What a renaming should do: nothing where it is refused, else the new name and its identifier for the
target and for nothing else, with every element under its identifier.
-/
structure Renamed (target : Study.Element) (newName : Text) (after : Study) (status : Bool) : Prop where
  refused : status = false → ∀ element, study.toStudy.Has element → after.called element = study.toStudy.called element
  called : status = true → after.called target = (beautifyName newName, transformNameIntoID (beautifyName newName))
  others : status = true → ∀ element, study.toStudy.Has element → element ≠ target →
    after.called element = study.toStudy.called element
  indexed : status = true → after.Indexed
  present : status = true → ∀ element, study.toStudy.Has element → after.Has element

/-- No other element has the identifier of an accepted name under another name; and a cluster to rename
has an empty identifier, is in the list, or is absent from it and has the name already.
-/
def Reaches (target : Study.Element) (newName : Text) : Prop :=
  ∀ name id, Study.accepted newName = some (name, id) →
    match target with
    | .area area => ∀ found, (id, found) ∈ study.areas.areas → found ≠ area → (study.areas.area found).name = name
    | .cluster cluster =>
      let list := study.lists (study.cluster cluster).parentArea (study.cluster cluster).kind.list
      (∀ found, (id, found) ∈ list → found ≠ cluster → (study.cluster found).name = name) ∧
        (id ∉ list.map Prod.fst → (study.cluster cluster).id = [] ∨ ((study.cluster cluster).id, cluster) ∈ list ∨
          (study.cluster cluster).id ∉ list.map Prod.fst ∧ (study.cluster cluster).name = name)

end LoadedStudy

namespace Study

variable {study : Study}

theorem accepted_eq_some_iff {newName name id : Text} : accepted newName = some (name, id) ↔
    newName ≠ [] ∧ name ≠ [] ∧ id ≠ [] ∧ name = beautifyName newName ∧ id = transformNameIntoID name := by
  unfold accepted
  split_ifs with empty blank none
  · simp [empty]
  · simp +contextual [blank]
  · simp +contextual [none]
  · rw [Option.some.injEq, Prod.mk.injEq]
    constructor
    · rintro ⟨rfl, rfl⟩
      exact ⟨empty, blank, none, rfl, rfl⟩
    · rintro ⟨-, -, -, rfl, rfl⟩
      exact ⟨rfl, rfl⟩

theorem called_setName (cluster : Nat) (newName : Text) (element : Element) :
    (study.setName cluster newName).called element =
      if element = .cluster cluster then (newName, transformNameIntoID newName) else study.called element := by
  cases element with
  | area address => simp [called, setName]
  | cluster address =>
    by_cases here : address = cluster
    · subst here
      simp [called, setName, Cluster.id]
    · simp [called, setName, here]

theorem called_setAreaName (area : Nat) (newName : Text) (element : Element) :
    (study.setAreaName area newName).called element =
      if element = .area area then (newName, (study.areas.area area).id) else study.called element := by
  cases element with
  | area address =>
    by_cases here : address = area
    · subst here
      simp [called, setAreaName, AreaList.updateArea]
    · simp [called, setAreaName, AreaList.updateArea, here]
  | cluster address => simp [called, setAreaName]

end Study

namespace LoadedStudy

variable {study : LoadedStudy} {newName name id : Text}

theorem indexed_toStudy : study.toStudy.Indexed := ⟨study.areas.keys, study.keys⟩

theorem renamed_false (target : Study.Element) : study.Renamed target newName study.toStudy false := by
  constructor
  · exact fun _ _ _ => rfl
  all_goals exact fun status => absurd status Bool.false_ne_true

theorem not_renamed_of_other {target other : Study.Element} (known : study.toStudy.Has other) (apart : other ≠ target)
    {after : Study} (changed : (after.called other).1 ≠ (study.toStudy.called other).1) : ¬study.Renamed target newName after true :=
  fun renamed => changed (congrArg Prod.fst (renamed.others rfl other known apart))

section

-- names and identifiers are only compared
attribute [local irreducible] transformNameIntoID beautifyName

variable {area : Nat}

theorem setAreaName_renamed (accepted : Study.accepted newName = some (name, id)) (listed : (id, area) ∈ study.areas.areas) :
    study.Renamed (.area area) newName (study.toStudy.setAreaName area name) true := by
  obtain ⟨-, -, -, rfl, rfl⟩ := Study.accepted_eq_some_iff.mp accepted
  have same : (study.areas.area area).id = transformNameIntoID (beautifyName newName) := study.areas.keys _ listed
  constructor
  · exact fun status => nomatch status
  · intro _
    rw [Study.called_setAreaName, if_pos rfl]
    exact congrArg _ same
  · intro _ element _ apart
    rw [Study.called_setAreaName, if_neg apart]
  · refine fun _ => ⟨fun entry inside => ?_, study.keys⟩
    have kept := congrArg Prod.snd (@Study.called_setAreaName study.toStudy area (beautifyName newName) (.area entry.2))
    refine kept.trans ((apply_ite Prod.snd _ _ _).trans ?_)
    split_ifs with here
    · obtain rfl := Study.Element.area.inj here
      exact study.areas.keys entry inside
    · exact study.areas.keys entry inside
  · intro _ element known
    cases element with
    | area address => exact known
    | cluster address => exact known

theorem renameArea_renamed (accepted : Study.accepted newName = some (name, id))
    (free : id ∉ study.areas.areas.map Prod.fst) (known : area ∈ study.areas.areas.map Prod.snd) :
    study.Renamed (.area area) newName
      { study.toStudy with areas := (study.areas.renameArea (study.areas.area area).id id name).1 }
      (study.areas.renameArea (study.areas.area area).id id name).2 := by
  obtain ⟨-, -, -, rfl, rfl⟩ := Study.accepted_eq_some_iff.mp accepted
  by_cases proceeds : study.areas.Proceeds (study.areas.area area).id (transformNameIntoID (beautifyName newName)) (beautifyName newName)
  · obtain ⟨entry, listed, rfl⟩ := List.mem_map.mp known
    have here : ((study.areas.area entry.2).id, entry.2) ∈ study.areas.areas := (study.areas.keys entry listed).symm ▸ listed
    obtain ⟨after, result, success⟩ := LoadedAreas.renameArea_success here (fun _ => free) proceeds
    have mem {other : Text × Nat} : other ∈ after.areas ↔
        other = (transformNameIntoID (beautifyName newName), entry.2) ∨ other ∈ study.areas.areas ∧ other.2 ≠ entry.2 := by
      rw [success.areas, KeyedMap.mem_assign, KeyedMap.mem_erase]
      refine or_congr_right ⟨fun ⟨⟨inList, key⟩, _⟩ => ⟨inList, fun same => ?_⟩, fun ⟨inList, different⟩ => ⟨⟨inList, fun same => ?_⟩, ?_⟩⟩
      · exact key (congrArg Prod.fst (study.areas.eq_of_address inList here same))
      · have whole := KeyedMap.Sorted.eq_of_mem study.areas.sorted inList here same
        exact different (by rw [whole])
      · exact fun same => free (same ▸ List.mem_map_of_mem inList)
    have present {address : Nat} (stored : address ∈ study.areas.areas.map Prod.snd) : address ∈ after.areas.map Prod.snd := by
      obtain ⟨other, inList, rfl⟩ := List.mem_map.mp stored
      by_cases same : other.2 = entry.2
      · exact List.mem_map.mpr ⟨_, mem.mpr (.inl rfl), same.symm⟩
      · exact List.mem_map_of_mem (mem.mpr (.inr ⟨inList, same⟩))
    rw [result]
    constructor
    · exact fun status => nomatch status
    · intro _
      exact Prod.ext ((success.names entry.2).trans (if_pos rfl)) ((success.ids entry.2).trans (if_pos rfl))
    · intro _ element _ apart
      cases element with
      | area address =>
        have different : address ≠ entry.2 := fun same => apart (congrArg _ same)
        exact Prod.ext ((success.names address).trans (if_neg different)) ((success.ids address).trans (if_neg different))
      | cluster address => rfl
    · refine fun _ => ⟨fun other inside => ?_, study.keys⟩
      refine (success.ids other.2).trans ?_
      rcases mem.mp inside with rfl | ⟨inList, different⟩
      · exact if_pos rfl
      · exact (if_neg different).trans (study.areas.keys other inList)
    · intro _ element stored
      cases element with
      | area address => exact present stored
      | cluster address =>
        obtain ⟨parent, isArea, list, inList⟩ := stored
        exact ⟨parent, present isArea, list, inList⟩
  · rw [LoadedAreas.renameArea_refused proceeds]
    exact renamed_false _

theorem areaRename_iff (known : area ∈ study.areas.areas.map Prod.snd) :
    study.Renamed (.area area) newName (study.toStudy.areaRename area newName).1 (study.toStudy.areaRename area newName).2 ↔
      study.Reaches (.area area) newName := by
  cases accepted : Study.accepted newName with
  | none =>
    have refused : study.toStudy.areaRename area newName = (study.toStudy, false) := by rw [Study.areaRename, accepted]
    rw [refused]
    exact iff_of_true (renamed_false _) fun name id given => nomatch accepted.symm.trans given
  | some pair =>
    obtain ⟨name, id⟩ := pair
    have reaches : study.Reaches (.area area) newName ↔
        ∀ found, (id, found) ∈ study.areas.areas → found ≠ area → (study.areas.area found).name = name := by
      constructor
      · exact fun reaches => reaches name id accepted
      · intro others name' id' given
        cases accepted.symm.trans given
        exact others
    rw [reaches]
    cases found : KeyedMap.lookup study.toStudy.areas.areas id with
    | none =>
      have free := KeyedMap.lookup_eq_none_iff.mp found
      have result : study.toStudy.areaRename area newName =
          ({ study.toStudy with areas := (study.areas.renameArea (study.areas.area area).id id name).1 },
            (study.areas.renameArea (study.areas.area area).id id name).2) := by
        simp only [Study.areaRename, accepted, found]
        rfl
      rw [result]
      refine iff_of_true (renameArea_renamed accepted free known) fun other listed => ?_
      exact absurd (List.mem_map_of_mem (f := Prod.fst) listed) free
    | some address =>
      have listed : (id, address) ∈ study.areas.areas := (KeyedMap.Sorted.lookup_eq_some_iff study.areas.sorted).mp found
      have only {other : Nat} (inList : (id, other) ∈ study.areas.areas) : other = address :=
        congrArg Prod.snd (KeyedMap.Sorted.eq_of_mem study.areas.sorted inList listed rfl)
      by_cases same : (study.toStudy.areas.area address).name = name
      · have result : study.toStudy.areaRename area newName = (study.toStudy, false) := by
          simp [Study.areaRename, accepted, found, same]
        rw [result]
        exact iff_of_true (renamed_false _) fun other inList _ => only inList ▸ same
      · have result : study.toStudy.areaRename area newName = (study.toStudy.setAreaName address name, true) := by
          simp [Study.areaRename, accepted, found, same]
        rw [result]
        by_cases here : address = area
        · subst here
          exact iff_of_true (setAreaName_renamed accepted listed) fun other inList apart => absurd (only inList) apart
        · have apart : Study.Element.area address ≠ .area area := fun equal => here (Study.Element.area.inj equal)
          have has : study.toStudy.Has (.area address) := List.mem_map_of_mem (f := Prod.snd) listed
          refine iff_of_false (not_renamed_of_other has apart ?_) fun reaches => same (reaches address listed here)
          rw [Study.called_setAreaName, if_pos rfl]
          exact fun equal => same equal.symm

end

section

-- names and identifiers are only compared
attribute [local irreducible] transformNameIntoID beautifyName

variable {cluster area : Nat} {list : ClusterListName}

theorem entry_eq {otherArea : Nat} {otherList : ClusterListName} {entry other : Text × Nat}
    (listed : entry ∈ study.lists area list) (otherListed : other ∈ study.lists otherArea otherList)
    (same : entry.2 = other.2) : area = otherArea ∧ list = otherList ∧ entry = other := by
  obtain rfl : area = otherArea := (study.parents _ _ _ listed).symm.trans (same ▸ study.parents _ _ _ otherListed)
  obtain rfl := study.once _ _ _ _ listed _ otherListed same
  exact ⟨rfl, rfl, Prod.ext ((study.keys _ _ _ listed).symm.trans (same ▸ study.keys _ _ _ otherListed)) same⟩

theorem setName_renamed (accepted : Study.accepted newName = some (name, id))
    (listed : (id, cluster) ∈ study.lists area list) :
    study.Renamed (.cluster cluster) newName (study.toStudy.setName cluster name) true := by
  obtain ⟨-, -, -, rfl, rfl⟩ := Study.accepted_eq_some_iff.mp accepted
  have same : (study.cluster cluster).id = transformNameIntoID (beautifyName newName) := study.keys _ _ _ listed
  constructor
  · exact fun status => nomatch status
  · intro _
    rw [Study.called_setName, if_pos rfl]
  · intro _ element _ apart
    rw [Study.called_setName, if_neg apart]
  · refine fun _ => ⟨study.areas.keys, fun otherArea otherList entry inside => ?_⟩
    have kept := congrArg Prod.snd
      (@Study.called_setName study.toStudy cluster (beautifyName newName) (.cluster entry.2))
    refine kept.trans ((apply_ite Prod.snd _ _ _).trans ?_)
    split_ifs with here
    · obtain rfl := Study.Element.cluster.inj here
      exact same.symm.trans (study.keys _ _ _ inside)
    · exact study.keys _ _ _ inside
  · intro _ element known
    cases element with
    | area address => exact known
    | cluster address => exact known

/-- The study where a cluster is under another identifier in its list. -/
def rekeyed (study : LoadedStudy) (area : Nat) (list : ClusterListName) (cluster : Nat) (name : Text) : Study :=
  let erased := study.toStudy.setList area list (KeyedMap.erase (study.lists area list) (study.cluster cluster).id)
  let named := erased.setName cluster name
  named.setList area list (KeyedMap.assign (named.lists area list) (transformNameIntoID name) cluster)

theorem rekeyed_renamed (accepted : Study.accepted newName = some (name, id))
    (listed : ((study.cluster cluster).id, cluster) ∈ study.lists area list)
    (free : id ∉ (study.lists area list).map Prod.fst) :
    study.Renamed (.cluster cluster) newName (study.rekeyed area list cluster name) true := by
  obtain ⟨-, -, -, rfl, rfl⟩ := Study.accepted_eq_some_iff.mp accepted
  have called (element : Study.Element) :
      (study.rekeyed area list cluster (beautifyName newName)).called element =
        if element = .cluster cluster then (beautifyName newName, transformNameIntoID (beautifyName newName))
        else study.toStudy.called element :=
    (show _ = _ from rfl).trans (@Study.called_setName study.toStudy cluster (beautifyName newName) element)
  have lists (otherArea : Nat) (otherList : ClusterListName) :
      (study.rekeyed area list cluster (beautifyName newName)).lists otherArea otherList =
        if otherArea = area ∧ otherList = list then
          KeyedMap.assign (KeyedMap.erase (study.lists area list) (study.cluster cluster).id)
            (transformNameIntoID (beautifyName newName)) cluster
        else study.lists otherArea otherList := by
    by_cases sameArea : otherArea = area
    · subst sameArea
      by_cases sameList : otherList = list
      · subst sameList
        simp [rekeyed, Study.setList, Study.setName]
      · simp [rekeyed, Study.setList, Study.setName, sameList, toStudy]
    · simp [rekeyed, Study.setList, Study.setName, sameArea, toStudy]
  have mem {otherArea : Nat} {otherList : ClusterListName} {entry : Text × Nat} :
      entry ∈ (study.rekeyed area list cluster (beautifyName newName)).lists otherArea otherList ↔
        otherArea = area ∧ otherList = list ∧ entry = (transformNameIntoID (beautifyName newName), cluster) ∨
          entry ∈ study.lists otherArea otherList ∧ entry.2 ≠ cluster := by
    rw [lists]
    by_cases here : otherArea = area ∧ otherList = list
    · obtain ⟨rfl, rfl⟩ := here
      have moved {entry : Text × Nat} (stored : entry ∈ study.lists otherArea otherList) :
          entry.1 = (study.cluster cluster).id ↔ entry.2 = cluster := by
        constructor
        · intro same
          have whole := KeyedMap.Sorted.eq_of_mem (study.sorted _ _) stored listed same
          exact congrArg Prod.snd whole
        · rintro rfl
          exact (study.keys _ _ _ stored).symm
      rw [if_pos ⟨rfl, rfl⟩, KeyedMap.mem_assign, KeyedMap.mem_erase]
      constructor
      · rintro (same | ⟨⟨stored, key⟩, -⟩)
        · exact .inl ⟨rfl, rfl, same⟩
        · exact .inr ⟨stored, fun same => key ((moved stored).mpr same)⟩
      · rintro (⟨-, -, same⟩ | ⟨stored, apart⟩)
        · exact .inl same
        · exact .inr ⟨⟨stored, fun same => apart ((moved stored).mp same)⟩, fun same => free (same ▸ List.mem_map_of_mem stored)⟩
    · rw [if_neg here]
      constructor
      · intro stored
        refine .inr ⟨stored, fun same => here ?_⟩
        obtain ⟨sameArea, sameList, -⟩ := entry_eq stored listed same
        exact ⟨sameArea, sameList⟩
      · rintro (⟨sameArea, sameList, -⟩ | ⟨stored, -⟩)
        · exact absurd ⟨sameArea, sameList⟩ here
        · exact stored
  constructor
  · exact fun status => nomatch status
  · intro _
    rw [called, if_pos rfl]
  · intro _ element _ apart
    rw [called, if_neg apart]
  · refine fun _ => ⟨study.areas.keys, fun otherArea otherList entry inside => ?_⟩
    refine (congrArg Prod.snd (called (.cluster entry.2))).trans ((apply_ite Prod.snd _ _ _).trans ?_)
    rcases mem.mp inside with ⟨-, -, rfl⟩ | ⟨stored, apart⟩
    · exact if_pos rfl
    · exact (if_neg fun same => apart (Study.Element.cluster.inj same)).trans (study.keys _ _ _ stored)
  · intro _ element known
    cases element with
    | area address => exact known
    | cluster address =>
      obtain ⟨parent, isArea, otherList, inList⟩ := known
      obtain ⟨entry, stored, rfl⟩ := List.mem_map.mp inList
      by_cases same : entry.2 = cluster
      · obtain ⟨rfl, rfl, -⟩ := entry_eq stored listed same
        exact ⟨parent, isArea, otherList, List.mem_map.mpr ⟨_, mem.mpr (.inl ⟨rfl, rfl, rfl⟩), same.symm⟩⟩
      · exact ⟨parent, isArea, otherList, List.mem_map_of_mem (mem.mpr (.inr ⟨stored, same⟩))⟩

theorem has_of_mem {address : Nat} {key : Text} (isArea : area ∈ study.areas.areas.map Prod.snd)
    (listed : (key, address) ∈ study.lists area list) : study.toStudy.Has (.cluster address) :=
  ⟨area, isArea, list, List.mem_map_of_mem (f := Prod.snd) listed⟩

theorem renameInList_of_given (given : (study.cluster cluster).id ≠ []) (nameGiven : name ≠ []) :
    study.toStudy.renameInList area list (study.cluster cluster).id name =
      match KeyedMap.lookup (study.lists area list) (study.cluster cluster).id with
      | none => (study.toStudy, true)
      | some p =>
        if (study.cluster cluster).id = transformNameIntoID name then (study.toStudy.setName p name, true)
        else if (study.cluster p).name = name then (study.toStudy, true)
        else if transformNameIntoID name ∈ (study.lists area list).map Prod.fst then (study.toStudy, false)
        else
          let erased := study.toStudy.setList area list (KeyedMap.erase (study.lists area list) (study.cluster cluster).id)
          let named := erased.setName p name
          (named.setList area list (KeyedMap.assign (named.lists area list) (transformNameIntoID name) p), true) := by
  have lower : toLower (study.cluster cluster).id = (study.cluster cluster).id := (isId_transformNameIntoID _).lower
  unfold Study.renameInList
  rw [if_neg (not_or.mpr ⟨given, nameGiven⟩), lower]
  rfl

theorem renameInList_iff (accepted : Study.accepted newName = some (name, id)) (isArea : area ∈ study.areas.areas.map Prod.snd)
    (free : id ∉ (study.lists area list).map Prod.fst) :
    study.Renamed (.cluster cluster) newName (study.toStudy.renameInList area list (study.cluster cluster).id name).1
        (study.toStudy.renameInList area list (study.cluster cluster).id name).2 ↔
      (study.cluster cluster).id = [] ∨ ((study.cluster cluster).id, cluster) ∈ study.lists area list ∨
        (study.cluster cluster).id ∉ (study.lists area list).map Prod.fst ∧ (study.cluster cluster).name = name := by
  obtain ⟨-, nameGiven, -, nameEq, idEq⟩ := Study.accepted_eq_some_iff.mp accepted
  by_cases empty : (study.cluster cluster).id = []
  · have result : study.toStudy.renameInList area list (study.cluster cluster).id name = (study.toStudy, false) :=
      if_pos (.inl empty)
    rw [result]
    exact iff_of_true (renamed_false _) (.inl empty)
  · rw [renameInList_of_given empty nameGiven, or_iff_right empty]
    cases stored : KeyedMap.lookup (study.lists area list) (study.cluster cluster).id with
    | none =>
      have absent := KeyedMap.lookup_eq_none_iff.mp stored
      rw [or_iff_right fun inList => absent (List.mem_map_of_mem (f := Prod.fst) inList), and_iff_right absent]
      constructor
      · intro renamed
        rw [nameEq]
        exact congrArg Prod.fst (renamed.called rfl)
      · intro same
        subst idEq nameEq
        constructor
        · exact fun status => nomatch status
        · exact fun _ => Prod.ext same (congrArg transformNameIntoID same)
        · exact fun _ _ _ _ => rfl
        · exact fun _ => indexed_toStudy
        · exact fun _ _ known => known
    | some p =>
      have inList := (KeyedMap.Sorted.lookup_eq_some_iff (study.sorted area list)).mp stored
      have keyOf : (study.cluster p).id = (study.cluster cluster).id := study.keys _ _ _ inList
      have differs : (study.cluster cluster).id ≠ transformNameIntoID name := fun same =>
        free (idEq ▸ same ▸ List.mem_map_of_mem (f := Prod.fst) inList)
      have otherName : (study.cluster p).name ≠ name := by
        intro same
        exact differs (keyOf.symm.trans (congrArg transformNameIntoID same))
      dsimp only
      rw [if_neg differs, if_neg otherName, if_neg (idEq ▸ free), ← keyOf]
      change study.Renamed (.cluster cluster) newName (study.rekeyed area list p name) true ↔ _
      rw [← keyOf] at inList stored
      by_cases here : p = cluster
      · subst here
        exact iff_of_true (rekeyed_renamed accepted inList free) (.inl inList)
      · have called : ((study.rekeyed area list p name).called (.cluster p)).1 = name :=
          congrArg Prod.fst ((@Study.called_setName study.toStudy p name (.cluster p)).trans (if_pos rfl))
        have apart : Study.Element.cluster p ≠ .cluster cluster := fun equal => here (Study.Element.cluster.inj equal)
        refine iff_of_false (not_renamed_of_other (has_of_mem isArea inList) apart ?_) ?_
        · rw [called]
          exact otherName.symm
        · rintro (other | ⟨absent, -⟩)
          · have whole := KeyedMap.Sorted.eq_of_mem (study.sorted area list) other inList rfl
            exact here (congrArg Prod.snd whole).symm
          · exact absent (List.mem_map_of_mem (f := Prod.fst) inList)

theorem clusterRename_iff (known : study.toStudy.Has (.cluster cluster)) :
    study.Renamed (.cluster cluster) newName (study.toStudy.clusterRename cluster newName).1
        (study.toStudy.clusterRename cluster newName).2 ↔ study.Reaches (.cluster cluster) newName := by
  obtain ⟨area, isArea, place, inPlace⟩ := known
  obtain ⟨own, ownListed, rfl⟩ := List.mem_map.mp inPlace
  have parent : (study.cluster own.2).parentArea = area := study.parents _ _ _ ownListed
  cases accepted : Study.accepted newName with
  | none =>
    have refused : study.toStudy.clusterRename own.2 newName = (study.toStudy, false) := by rw [Study.clusterRename, accepted]
    rw [refused]
    exact iff_of_true (renamed_false _) fun name id given => nomatch accepted.symm.trans given
  | some pair =>
    obtain ⟨name, id⟩ := pair
    set list := study.lists area (study.cluster own.2).kind.list with listEq
    have sorted : KeyedMap.Sorted list := study.sorted _ _
    have reaches : study.Reaches (.cluster own.2) newName ↔
        (∀ found, (id, found) ∈ list → found ≠ own.2 → (study.cluster found).name = name) ∧
          (id ∉ list.map Prod.fst → (study.cluster own.2).id = [] ∨ ((study.cluster own.2).id, own.2) ∈ list ∨
            (study.cluster own.2).id ∉ list.map Prod.fst ∧ (study.cluster own.2).name = name) := by
      unfold Reaches
      dsimp only
      rw [parent]
      constructor
      · exact fun reaches => reaches name id accepted
      · intro both name' id' given
        cases accepted.symm.trans given
        exact both
    have start : study.toStudy.clusterRename own.2 newName =
        match KeyedMap.lookup list id with
        | some found =>
          if (study.cluster found).name ≠ name then (study.toStudy.setName found name, true) else (study.toStudy, false)
        | none => study.toStudy.renameInList area (study.cluster own.2).kind.list (study.cluster own.2).id name := by
      rw [listEq, ← parent]
      simp only [Study.clusterRename, accepted]
      rfl
    rw [reaches, start]
    cases found : KeyedMap.lookup list id with
    | some address =>
      have listed := sorted.lookup_eq_some_iff.mp found
      have only {other : Nat} (inList : (id, other) ∈ list) : other = address :=
        congrArg Prod.snd (sorted.eq_of_mem inList listed rfl)
      have taken : id ∈ list.map Prod.fst := List.mem_map_of_mem (f := Prod.fst) listed
      dsimp only
      by_cases same : (study.cluster address).name = name
      · rw [if_neg (not_not.mpr same)]
        exact iff_of_true (renamed_false _) ⟨fun other inList _ => only inList ▸ same, fun absent => absurd taken absent⟩
      · rw [if_pos same]
        by_cases here : address = own.2
        · rw [here] at listed ⊢
          refine iff_of_true (setName_renamed accepted listed) ⟨fun other inList apart => ?_, fun absent => absurd taken absent⟩
          exact absurd ((only inList).trans here) apart
        · have apart : Study.Element.cluster address ≠ .cluster own.2 := fun equal => here (Study.Element.cluster.inj equal)
          refine iff_of_false (not_renamed_of_other (has_of_mem isArea listed) apart ?_) fun both =>
            same (both.1 address listed here)
          rw [Study.called_setName, if_pos rfl]
          exact fun equal => same equal.symm
    | none =>
      have free := KeyedMap.lookup_eq_none_iff.mp found
      have noOther : ∀ found, (id, found) ∈ list → found ≠ own.2 → (study.cluster found).name = name := fun other inList =>
        absurd (List.mem_map_of_mem (f := Prod.fst) inList) free
      rw [and_iff_right noOther, forall_prop_of_true free]
      exact renameInList_iff accepted isArea free

end

/-- For every element of every study, and every new name. -/
theorem rename_renamed_iff (study : LoadedStudy) (target : { element // study.toStudy.Has element }) (newName : Text) :
    study.Renamed target newName (study.toStudy.rename target newName).1 (study.toStudy.rename target newName).2 ↔
      study.Reaches target newName := by
  obtain ⟨element, known⟩ := target
  cases element with
  | area address => exact areaRename_iff known
  | cluster address => exact clusterRename_iff known

def twoAreas : LoadedStudy where
  areas := LoadedAreas.twoAreas
  cluster := fun _ => ⟨[], .thermal, 0⟩
  lists := fun _ _ => []
  sorted := fun _ _ => List.Pairwise.nil
  keys := by simp
  kinds := by simp
  parents := by simp
  once := by simp

/-- The second area takes the name that is asked for the first one. -/
theorem twoAreas_otherRenamed : ¬twoAreas.Renamed (.area 0) ['b'] (twoAreas.toStudy.areaRename 0 ['b']).1
    (twoAreas.toStudy.areaRename 0 ['b']).2 := by
  intro renamed
  exact absurd (renamed.called (by decide)) (by decide)

end LoadedStudy

end Antares.Renaming
