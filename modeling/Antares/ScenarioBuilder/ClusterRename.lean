import Antares.ScenarioBuilder.SetsRoundTrip

/-! Renaming a thermal cluster. The rules are written to a file under the new identifiers, but their
columns are still in the order of the old ones.
-/

set_option autoImplicit false

namespace Antares.ScenarioBuilder

open Library Data

/-- The cluster of a new name, where the name and its identifier are not empty. -/
def Cluster.called (newName : Text) : Option Cluster :=
  if newName = [] then none
  else if named : beautifyName newName ≠ [] then
    if transformNameIntoID (beautifyName newName) = [] then none else some { name := beautifyName newName, named := named }
  else none

variable (new : Cluster) (clusters : List Cluster)

/-- `setName` on the cluster that already has the identifier. -/
def setName : List Cluster :=
  clusters.map fun cluster => if cluster.id = new.id then new else cluster

/-- `ClusterList::rename`: the success, and the list. -/
def renameInList (idToFind : Text) (new : Cluster) : Bool × List Cluster :=
  match OrderedMap.find Cluster.id clusters (toLower idToFind) with
  | none => (true, clusters)
  | some found =>
    if toLower idToFind = new.id then (true, setName new clusters)
    else if found.1.name = new.name then (true, clusters)
    else if new.id ∈ clusters.map Cluster.id then (false, clusters)
    else (true, OrderedMap.insert Cluster.id new (clusters.filter fun cluster => cluster.id ≠ toLower idToFind))

theorem map_id_setName :
    (setName new clusters).map Cluster.id = clusters.map Cluster.id := by
  unfold setName
  rw [List.map_map]
  refine List.map_congr_left fun cluster _ => ?_
  show (if cluster.id = new.id then new else cluster).id = cluster.id
  split_ifs with same
  · exact same.symm
  · rfl

theorem sorted_setName {clusters : List Cluster} (sorted : OrderedMap.Sorted Cluster.id clusters) :
    OrderedMap.Sorted Cluster.id (setName new clusters) := by
  unfold OrderedMap.Sorted
  rw [map_id_setName]
  exact sorted

theorem sorted_renameInList (idToFind : Text) (new : Cluster) {clusters : List Cluster}
    (sorted : OrderedMap.Sorted Cluster.id clusters) :
    OrderedMap.Sorted Cluster.id (renameInList clusters idToFind new).2 := by
  unfold renameInList
  split
  · exact sorted
  · split_ifs with same name exists'
    · exact sorted_setName new sorted
    · exact sorted
    · exact sorted
    · refine OrderedMap.Sorted.insert (sorted.sublist (List.filter_sublist.map Cluster.id)) fun member => exists' ?_
      exact (List.filter_sublist.map Cluster.id).subset member

def Area.updateThermal (update : List Cluster → List Cluster)
    (keeps : ∀ clusters, OrderedMap.Sorted Cluster.id clusters → OrderedMap.Sorted Cluster.id (update clusters))
    (area : Area) : Area :=
  { area with thermal := update area.thermal, thermalSorted := keeps area.thermal area.thermalSorted }

namespace Study

section
variable (study : Study) (index : Nat) (update : List Cluster → List Cluster)
  (keeps : ∀ clusters, OrderedMap.Sorted Cluster.id clusters → OrderedMap.Sorted Cluster.id (update clusters))

theorem map_id_modify : (study.areas.modify index (Area.updateThermal update keeps)).map Area.id = study.areas.map Area.id := by
  apply List.ext_getElem?
  intro place
  rw [List.getElem?_map, List.getElem?_map, List.getElem?_modify]
  cases study.areas[place]? with
  | none => rfl
  | some area =>
    show some (if index = place then Area.updateThermal update keeps area else area).id = some area.id
    split_ifs
    · rfl
    · rfl

def updateThermal : Study :=
  { study with
    areas := study.areas.modify index (Area.updateThermal update keeps)
    areasSorted := by
      unfold OrderedMap.Sorted
      rw [map_id_modify]
      exact study.areasSorted
    linksToAreas := by
      intro area member link inLinks
      obtain ⟨place, stands⟩ := List.mem_iff_getElem?.mp member
      rw [List.getElem?_modify] at stands
      obtain ⟨old, oldStands, rfl⟩ := Option.map_eq_some_iff.mp stands
      have inOld : link ∈ old.links := by
        split_ifs at inLinks
        · exact inLinks
        · exact inLinks
      obtain ⟨other, known, same⟩ := study.linksToAreas old (List.mem_of_getElem? oldStands) link inOld
      have ids : link ∈ (study.areas.modify index (Area.updateThermal update keeps)).map Area.id := by
        rw [map_id_modify, ← same]
        exact List.mem_map_of_mem known
      exact List.mem_map.mp ids }

end

/-- The list after `ClusterList::rename`, in the area at an index. -/
def renamed (study : Study) (index : Nat) (cluster new : Cluster) : Study :=
  study.updateThermal index (fun clusters => (renameInList clusters cluster.id new).2)
    fun _ => sorted_renameInList cluster.id new

/-- `clusterRename` on a thermal cluster of the area at an index: whether the name is accepted, the
study and the rulesets. There is no result where the reload has none.
-/
def clusterRename (study : Study) (sets : Sets) (index : Nat) (cluster : Cluster) (newName : Text) :
    Option (Bool × Study × Sets) :=
  match Cluster.called newName with
  | none => some (false, study, sets)
  | some new =>
    match study.areas[index]? with
    | none => some (false, study, sets)
    | some area =>
      match OrderedMap.find Cluster.id area.thermal new.id with
      | some found =>
        if found.1.name ≠ new.name then
          some (true, study.updateThermal index (setName new) (fun _ => sorted_setName new), sets)
        else some (false, study, sets)
      | none =>
        -- The updater saves only now, with the new identifiers and the old columns.
        (Sets.loadFromINIFile (study.renamed index cluster new)
            (Sets.saveToINIFile (study.renamed index cluster new) sets)).map fun reloaded =>
          ((renameInList area.thermal cluster.id new).1, study.renamed index cluster new, reloaded)

section
variable {study : Study} {index : Nat} {update : List Cluster → List Cluster}
  {keeps : ∀ clusters, OrderedMap.Sorted Cluster.id clusters → OrderedMap.Sorted Cluster.id (update clusters)}

theorem getElem?_updateThermal (place : Nat) :
    (study.updateThermal index update keeps).areas[place]? =
      study.areas[place]?.map fun area => if index = place then area.updateThermal update keeps else area := by
  show (study.areas.modify index (Area.updateThermal update keeps))[place]? = _
  rw [List.getElem?_modify]
  rfl

theorem key_updateThermal {cell : Cell} (other : ∀ cluster year, cell ≠ .thermal index cluster year) :
    (study.updateThermal index update keeps).key cell = study.key cell := by
  have areaKey (mark : Text) (place year : Nat) :
      (study.updateThermal index update keeps).areaKey mark place year = study.areaKey mark place year := by
    unfold Study.areaKey
    rw [getElem?_updateThermal]
    cases study.areas[place]? with
    | none => rfl
    | some area =>
      show some [mark, (if index = place then area.updateThermal update keeps else area).id, Text.decimal year] = _
      split_ifs
      · rfl
      · rfl
  cases cell with
  | load place year => exact areaKey _ place year
  | solar place year => exact areaKey _ place year
  | hydro place year => exact areaKey _ place year
  | wind place year => exact areaKey _ place year
  | thermal place cluster year =>
    have elsewhere : index ≠ place := fun same => other cluster year (same ▸ rfl)
    show Study.clusterKey _ _ _ _ _ _ = Study.clusterKey _ _ _ _ _ _
    unfold Study.clusterKey
    rw [getElem?_updateThermal]
    simp only [if_neg elsewhere]
    rw [Option.map_id']
  | renewable place cluster year =>
    show Study.clusterKey _ _ _ _ _ _ = Study.clusterKey _ _ _ _ _ _
    unfold Study.clusterKey
    rw [getElem?_updateThermal]
    cases study.areas[place]? with
    | none => rfl
    | some area =>
      rw [Option.map_some, Option.bind_some, Option.bind_some]
      split_ifs
      · rfl
      · rfl
  | linksNTC place link year =>
    show (Option.bind _ _) = (Option.bind _ _)
    rw [getElem?_updateThermal]
    cases study.areas[place]? with
    | none => rfl
    | some area =>
      rw [Option.map_some, Option.bind_some, Option.bind_some]
      split_ifs
      · rfl
      · rfl
  | bindingConstraints group year => rfl

end

/-- The identifier that a cluster of the area has after the renaming. -/
def becomes (area : Area) (cluster new : Cluster) (id : Text) : Text :=
  if new.id ∈ area.thermal.map Cluster.id then id else if id = cluster.id then new.id else id

/-- A ruleset gives the clusters of the area at an index, under the identifiers that they have now,
the numbers they had; everything else stands at its place, with its number.
-/
structure Preserved (study after : Study) (index : Nat) (becomes : Text → Text) (rules rules' : Rules) : Prop where
  name : rules'.name = rules.name
  clusters : ∀ area ∈ study.areas[index]?, ∀ area' ∈ after.areas[index]?, ∀ k before, area.thermal[k]? = some before →
    ∃ k' cluster', area'.thermal[k']? = some cluster' ∧ cluster'.id = becomes before.id ∧
      ∀ year, rules'.numbers (.thermal index k' year) = rules.numbers (.thermal index k year)
  others : ∀ cell, (∀ cluster year, cell ≠ .thermal index cluster year) →
    after.key cell = study.key cell ∧ rules'.numbers cell = rules.numbers cell

def RenamePreserves (study : Study) (sets : Sets) (index : Nat) (area : Area) (cluster new : Cluster) (newName : Text) : Prop :=
  ∃ after sets', study.clusterRename sets index cluster newName = some (true, after, sets') ∧
    ∀ rules ∈ sets.rules, ∃ rules' ∈ sets'.rules, Preserved study after index (becomes area cluster new) rules rules'

def SameColumns (sets : Sets) (index : Nat) (area : Area) (cluster new : Cluster) : Prop :=
  ∀ rules ∈ sets.rules, ∀ k before, area.thermal[k]? = some before → ∀ k' after,
    (renameInList area.thermal cluster.id new).2[k']? = some after → after.id = becomes area cluster new before.id →
      ∀ year, rules.numbers (.thermal index k' year) = rules.numbers (.thermal index k year)

structure Reloads (study : Study) (sets : Sets) : Prop where
  nonempty : sets.rules ≠ []
  fits : ∀ rules ∈ sets.rules, rules.Fits study
  readable : ∀ rules ∈ sets.rules, rules.Readable study
  mode : ∀ rules ∈ sets.rules, rules.ClustersMode study
  range : ∀ rules ∈ sets.rules, rules.InRange

section
variable {area : Area} {cluster new : Cluster} {clusters : List Cluster}

theorem renameInList_fresh (sorted : OrderedMap.Sorted Cluster.id clusters) (member : cluster ∈ clusters)
    (fresh : new.id ∉ clusters.map Cluster.id) :
    renameInList clusters cluster.id new =
      (true, OrderedMap.insert Cluster.id new (clusters.filter fun other => other.id ≠ cluster.id)) := by
  have lower : toLower cluster.id = cluster.id := (isId_transformNameIntoID cluster.name).lower
  obtain ⟨k, stands⟩ := List.mem_iff_getElem?.mp member
  have found := OrderedMap.find_of_getElem? sorted.distinct stands
  have idsDiffer : cluster.id ≠ new.id := fun same => fresh (same ▸ List.mem_map_of_mem member)
  have namesDiffer : cluster.name ≠ new.name := fun same => idsDiffer (congrArg transformNameIntoID same)
  unfold renameInList
  rw [lower, found]
  dsimp only
  rw [if_neg idsDiffer, if_neg namesDiffer, if_neg fresh]

theorem exists_renamed (member : cluster ∈ area.thermal) (fresh : new.id ∉ area.thermal.map Cluster.id) {before : Cluster}
    (inside : before ∈ area.thermal) :
    ∃ (k' : Nat) (after : Cluster), (renameInList area.thermal cluster.id new).2[k']? = some after ∧
      after.id = becomes area cluster new before.id := by
  rw [renameInList_fresh area.thermalSorted member fresh]
  unfold becomes
  rw [if_neg fresh]
  by_cases same : before.id = cluster.id
  · obtain ⟨k', stands⟩ := List.mem_iff_getElem?.mp (OrderedMap.mem_insert.mpr (Or.inl rfl) :
      new ∈ OrderedMap.insert Cluster.id new (area.thermal.filter fun other => other.id ≠ cluster.id))
    exact ⟨k', new, stands, (if_pos same).symm⟩
  · have kept : before ∈ area.thermal.filter fun other => other.id ≠ cluster.id :=
      List.mem_filter.mpr ⟨inside, decide_eq_true same⟩
    obtain ⟨k', stands⟩ := List.mem_iff_getElem?.mp (OrderedMap.mem_insert.mpr (Or.inr kept) :
      before ∈ OrderedMap.insert Cluster.id new (area.thermal.filter fun other => other.id ≠ cluster.id))
    exact ⟨k', before, stands, (if_neg same).symm⟩

variable {study : Study} {sets : Sets} {index : Nat} {newName : Text}

theorem clusterRename_fresh (stands : study.areas[index]? = some area) (member : cluster ∈ area.thermal)
    (called : Cluster.called newName = some new) (fresh : new.id ∉ area.thermal.map Cluster.id)
    (reloads : Reloads (study.renamed index cluster new) sets) :
    study.clusterRename sets index cluster newName = some (true, study.renamed index cluster new, sets.printed) := by
  unfold clusterRename
  rw [called]
  dsimp only
  rw [stands]
  dsimp only
  rw [OrderedMap.find_eq_none_iff.mpr fresh]
  dsimp only
  rw [Sets.loadFromINIFile_saveToINIFile reloads.nonempty reloads.fits reloads.readable reloads.mode reloads.range,
    Option.map_some, renameInList_fresh area.thermalSorted member fresh]

theorem clusterRename_found (stands : study.areas[index]? = some area) (called : Cluster.called newName = some new)
    {found : Cluster × Nat} (there : OrderedMap.find Cluster.id area.thermal new.id = some found)
    (accepted : found.1.name ≠ new.name) :
    study.clusterRename sets index cluster newName =
      some (true, study.updateThermal index (setName new) (fun _ => sorted_setName new), sets) := by
  unfold clusterRename
  rw [called]
  dsimp only
  rw [stands]
  dsimp only
  rw [there]
  dsimp only
  rw [if_pos accepted]

theorem areas_updateThermal (stands : study.areas[index]? = some area) {update : List Cluster → List Cluster}
    (keeps : ∀ clusters, OrderedMap.Sorted Cluster.id clusters → OrderedMap.Sorted Cluster.id (update clusters)) :
    (study.updateThermal index update keeps).areas[index]? = some (area.updateThermal update keeps) := by
  rw [getElem?_updateThermal, stands, Option.map_some, if_pos rfl]

theorem preserved_setName (stands : study.areas[index]? = some area) (taken : new.id ∈ area.thermal.map Cluster.id) (rules : Rules) :
    Preserved study (study.updateThermal index (setName new) (fun _ => sorted_setName new)) index (becomes area cluster new)
      rules rules where
  name := rfl
  clusters := by
    intro first same area' same' k before at'
    obtain rfl := Option.some.inj (stands.symm.trans same)
    obtain rfl := Option.some.inj ((areas_updateThermal stands _).symm.trans same')
    have there : (setName new area.thermal)[k]? = some (if before.id = new.id then new else before) := by
      unfold setName
      rw [List.getElem?_map, at', Option.map_some]
    refine ⟨k, _, there, ?_, fun year => rfl⟩
    unfold becomes
    rw [if_pos taken]
    split_ifs with renamed
    · exact renamed.symm
    · rfl
  others := fun cell other => ⟨key_updateThermal other, rfl⟩

theorem preserved_printed_iff (stands : study.areas[index]? = some area) (member : cluster ∈ area.thermal)
    (fresh : new.id ∉ area.thermal.map Cluster.id) (rules : Rules) :
    Preserved study (study.renamed index cluster new) index (becomes area cluster new) rules rules.printed ↔
      ∀ k before, area.thermal[k]? = some before → ∀ k' after,
        (renameInList area.thermal cluster.id new).2[k']? = some after → after.id = becomes area cluster new before.id →
          ∀ year, rules.numbers (.thermal index k' year) = rules.numbers (.thermal index k year) := by
  have areas : (study.renamed index cluster new).areas[index]? = some (area.updateThermal _ _) := areas_updateThermal stands _
  constructor
  · intro preserved k before at' k' after there same year
    obtain ⟨other, cluster', otherThere, otherSame, numbers⟩ := preserved.clusters area stands _ areas k before at'
    -- The list is sorted, so that no two clusters of it have the same identifier.
    have sorted := sorted_renameInList cluster.id new area.thermalSorted
    have first := OrderedMap.find_of_getElem? sorted.distinct there
    have second := OrderedMap.find_of_getElem? sorted.distinct otherThere
    rw [otherSame, ← same, first] at second
    obtain rfl : k' = other := congrArg Prod.snd (Option.some.inj second)
    exact numbers year
  · intro columns
    refine ⟨rfl, ?_, fun cell other => ⟨key_updateThermal other, rfl⟩⟩
    intro first same area' same' k before at'
    obtain rfl := Option.some.inj (stands.symm.trans same)
    obtain rfl := Option.some.inj (areas.symm.trans same')
    obtain ⟨k', after, there, becomesAfter⟩ := exists_renamed member fresh (List.mem_of_getElem? at')
    exact ⟨k', after, there, becomesAfter, columns k before at' k' after there becomesAfter⟩

theorem sameColumns_of_preserves (stands : study.areas[index]? = some area) (member : cluster ∈ area.thermal)
    (called : Cluster.called newName = some new) (fresh : new.id ∉ area.thermal.map Cluster.id)
    (reloads : Reloads (study.renamed index cluster new) sets)
    (preserves : RenamePreserves study sets index area cluster new newName) : SameColumns sets index area cluster new := by
  obtain ⟨after, sets', same, each⟩ := preserves
  have result := clusterRename_fresh stands member called fresh reloads
  obtain ⟨rfl, rfl⟩ := Prod.mk.inj (Prod.mk.inj (Option.some.inj (result.symm.trans same))).2
  intro rules inside
  obtain ⟨rules', inside', preserved⟩ := each rules inside
  obtain ⟨other, otherInside, rfl⟩ := List.mem_map.mp inside'
  have ids : Rules.id other = Rules.id rules := congrArg (fun name : RulesScenarioName => toLower name.val) preserved.name
  obtain ⟨place, at'⟩ := List.mem_iff_getElem?.mp inside
  obtain ⟨otherPlace, otherAt⟩ := List.mem_iff_getElem?.mp otherInside
  have first := OrderedMap.find_of_getElem? sets.sorted.distinct at'
  have second := OrderedMap.find_of_getElem? sets.sorted.distinct otherAt
  rw [ids, first] at second
  obtain rfl : rules = other := congrArg Prod.fst (Option.some.inj second)
  exact (preserved_printed_iff stands member fresh rules).mp preserved

/-- A new name keeps the numbers exactly when they already stand in the columns that the clusters come
to. The numbers that are saved are in the old columns, and the file names them after the new ones.
-/
theorem clusterRename_preserves_iff (stands : study.areas[index]? = some area) (member : cluster ∈ area.thermal)
    (called : Cluster.called newName = some new)
    (accepted : ∀ found ∈ OrderedMap.find Cluster.id area.thermal new.id, found.1.name ≠ new.name)
    (reloads : new.id ∉ area.thermal.map Cluster.id → Reloads (study.renamed index cluster new) sets) :
    RenamePreserves study sets index area cluster new newName ↔
      (new.id ∉ area.thermal.map Cluster.id → SameColumns sets index area cluster new) := by
  by_cases fresh : new.id ∈ area.thermal.map Cluster.id
  · refine iff_of_true ?_ fun absent => absurd fresh absent
    cases there : OrderedMap.find Cluster.id area.thermal new.id with
    | none => exact absurd fresh (OrderedMap.find_eq_none_iff.mp there)
    | some found =>
      have result := @clusterRename_found area cluster new study sets index newName stands called found there
        (accepted found there)
      exact ⟨_, sets, result, fun rules inside => ⟨rules, inside, preserved_setName stands fresh rules⟩⟩
  · constructor
    · intro preserves _
      exact sameColumns_of_preserves stands member called fresh (reloads fresh) preserves
    · intro columns
      have result := clusterRename_fresh stands member called fresh (reloads fresh)
      refine ⟨_, _, result, fun rules inside => ⟨rules.printed, List.mem_map_of_mem inside, ?_⟩⟩
      exact (preserved_printed_iff stands member fresh rules).mpr (columns fresh rules inside)

end

end Study

/-! An area with two clusters, and a number for the first one. -/

def alphaCluster : Cluster where
  name := "Alpha".toList
  named := by decide

def betaCluster : Cluster where
  name := "Beta".toList
  named := by decide

def gammaCluster : Cluster where
  name := "Gamma".toList
  named := by decide

def twoClusterArea : Area :=
  { oneArea with thermal := [alphaCluster, betaCluster], thermalSorted := by decide }

theorem twoClusterArea_linksToAreas :
    ∀ area ∈ [twoClusterArea], ∀ link ∈ area.links, ∃ other ∈ [twoClusterArea], other.id = link := by
  simp [twoClusterArea, oneArea]

def twoClusterStudy : Study :=
  { oneAreaStudy "winter".toList with
    areas := [twoClusterArea]
    areasSorted := List.pairwise_singleton _ _
    linksToAreas := twoClusterArea_linksToAreas }

theorem twelve_le_maxTSnumber : 12 ≤ maxTSnumber := by decide

def firstClusterRules : Rules :=
  (Rules.empty (RulesScenarioName.of "Test".toList)).set (.thermal 0 0 0) ⟨12, twelve_le_maxTSnumber⟩

def firstClusterSets : Sets where
  rules := [firstClusterRules]
  sorted := List.pairwise_singleton _ _

theorem firstClusterSets_reloads {study : Study} (years : study.nbYears = 2) {name : Text}
    (key : study.key (.thermal 0 0 0) = some [['t'], "area".toList, ['0'], name])
    (readable : ReadableKey [['t'], "area".toList, ['0'], name]) : Study.Reloads study firstClusterSets where
  nonempty := List.cons_ne_nil _ _
  fits rules member := by
    obtain rfl := List.mem_singleton.mp member
    refine Rules.Fits.set (Rules.fits_empty _) ?_ (key.trans_ne (Option.some_ne_none _)) _
    rw [years]
    exact Nat.zero_lt_two
  readable rules member := by
    obtain rfl := List.mem_singleton.mp member
    have empty : (Rules.empty (RulesScenarioName.of "Test".toList)).Loaded study :=
      Rules.loaded_empty ⟨by decide, by decide, by decide, by decide, by decide⟩
    have inYears : Cell.year (.thermal 0 0 0) < study.nbYears := by
      rw [years]
      exact Nat.zero_lt_two
    exact (empty.reads (Rules.Reads.number key readable inYears ⟨12, by decide⟩)).readable
  mode rules member area cluster year present := by
    obtain rfl := List.mem_singleton.mp member
    exact absurd rfl present
  range rules member area year level present := by
    obtain rfl := List.mem_singleton.mp member
    exact absurd present (Option.some_ne_none level).symm

namespace Study

/-- The new name of the second cluster leaves it the second one. -/
theorem renameBeta_preserves :
    RenamePreserves twoClusterStudy firstClusterSets 0 twoClusterArea betaCluster gammaCluster "Gamma".toList := by
  have absent : OrderedMap.find Cluster.id twoClusterArea.thermal gammaCluster.id = none := by decide
  have key : (twoClusterStudy.renamed 0 betaCluster gammaCluster).key (.thermal 0 0 0) =
      some [['t'], "area".toList, ['0'], "alpha".toList] := by decide
  have reloads := firstClusterSets_reloads rfl key ⟨by decide, by decide⟩
  refine (clusterRename_preserves_iff rfl (by decide) (by decide) ?_ fun _ => reloads).mpr ?_
  · rw [absent]
    intro found there
    exact absurd there (Option.some_ne_none found).symm
  · intro _ rules _ k before at' k' after there same year
    have list : (renameInList twoClusterArea.thermal betaCluster.id gammaCluster).2 = [alphaCluster, gammaCluster] := by decide
    rw [list] at there
    suffices k' = k by rw [this]
    match k, k' with
    | 0, 0 => rfl
    | 1, 1 => rfl
    | 0, 1 =>
      obtain rfl := Option.some.inj at'
      obtain rfl := Option.some.inj there
      exact absurd same (by decide)
    | 1, 0 =>
      obtain rfl := Option.some.inj at'
      obtain rfl := Option.some.inj there
      exact absurd same (by decide)
    | k + 2, _ => exact absurd at' (Option.some_ne_none before).symm
    | 0, k' + 2 => exact absurd there (Option.some_ne_none after).symm
    | 1, k' + 2 => exact absurd there (Option.some_ne_none after).symm

/-- The new name of the first cluster makes it the second one, and the other takes its number. -/
theorem renameAlpha_not_preserved :
    Cluster.called "Gamma".toList = some gammaCluster ∧ alphaCluster ∈ twoClusterArea.thermal ∧
      gammaCluster.id ∉ twoClusterArea.thermal.map Cluster.id ∧
      ¬RenamePreserves twoClusterStudy firstClusterSets 0 twoClusterArea alphaCluster gammaCluster "Gamma".toList := by
  have key : (twoClusterStudy.renamed 0 alphaCluster gammaCluster).key (.thermal 0 0 0) =
      some [['t'], "area".toList, ['0'], "beta".toList] := by decide
  have reloads := firstClusterSets_reloads rfl key ⟨by decide, by decide⟩
  refine ⟨by decide, by decide, by decide, fun preserves => ?_⟩
  have columns := sameColumns_of_preserves rfl (by decide) (by decide) (by decide) reloads preserves
  have numbers := columns firstClusterRules List.mem_cons_self 1 betaCluster (by decide) 0 betaCluster (by decide) (by decide) 0
  exact absurd numbers (by decide)

end Study

end Antares.ScenarioBuilder
