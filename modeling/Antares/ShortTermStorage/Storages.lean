import Antares.Library.OrderedMaps
import Antares.ShortTermStorage.ListIni
import Antares.ShortTermStorage.Series

/-! The short-term storages of an area: what is saved of them, and what is loaded again. -/

set_option autoImplicit false

namespace Antares.ShortTermStorage

open Library Data

structure STStorageCluster where
  id : Text
  series : Series
  properties : Properties
  deriving DecidableEq, Repr

def idSize : Nat := 50

def storageId (name : Text) : Text := toLower (Text.trim isBlank ((withoutDuplicates true name).take idSize))

namespace STStorageCluster

def name (storage : STStorageCluster) : Text := storage.properties.name

def loadFromSection (read : IniFile.Section) : Option STStorageCluster :=
  if read.properties = [] then none
  else
    let properties := Properties.load read.properties
    if properties.name = [] then none
    else some { id := storageId properties.name, series := {}, properties := properties }

def validate (storage : STStorageCluster) : STStorageCluster × Bool :=
  let properties := storage.properties.validate
  ({ storage with properties := properties.1 }, properties.2 && storage.series.validate)

def loadSeries (storage : STStorageCluster) (files : Text → Option Text) (folder : Text) : STStorageCluster × Bool :=
  let loaded := storage.series.loadFromFolder files folder
  ({ storage with series := loaded.1.fillDefaultSeriesIfEmpty }, loaded.2)

end STStorageCluster

abbrev STStorageInput : Type := List STStorageCluster

namespace STStorageInput

def tryEmplace (storages : STStorageInput) (storage : STStorageCluster) : STStorageInput :=
  if storage.name ∈ storages.map STStorageCluster.name then storages
  else OrderedMap.insert STStorageCluster.name storage storages

def addSection (storages : STStorageInput) (read : IniFile.Section) : Option STStorageInput :=
  (STStorageCluster.loadFromSection read).map storages.tryEmplace

def listFile : Text := "/list.ini".toList

def createSTStorageClustersFromIniFile (files : Text → Option Text) (path : Text) : Option STStorageInput :=
  (files (path ++ listFile)).bind fun text => (IniFile.loaded text).foldlM addSection []

def loadSeriesFromFolder (storages : STStorageInput) (files : Text → Option Text) (folder : Text) : STStorageInput × Bool :=
  if folder = [] then (storages, false)
  else
    let loaded := storages.map fun storage => storage.loadSeries files (folder ++ '/' :: storage.id)
    (loaded.map Prod.fst, loaded.all Prod.snd)

def saveToFolder (storages : STStorageInput) (folder : Text) (files : Text → Option Text) : Text → Option Text :=
  storages.foldl (fun files storage => storage.properties.saveToFolder folder files)
    (Function.update files (folder ++ listFile) (some []))

def saveDataSeriesToFolder (storages : STStorageInput) (folder : Text) (files : Text → Option Text) : Text → Option Text :=
  storages.foldl (fun files storage => storage.series.saveToFolder (folder ++ '/' :: storage.id) files) files

def reloaded (storages : STStorageInput) (folder seriesFolder : Text) (files : Text → Option Text) : Option STStorageInput :=
  let saved := storages.saveDataSeriesToFolder seriesFolder (storages.saveToFolder folder files)
  (createSTStorageClustersFromIniFile saved folder).map fun loaded => (loaded.loadSeriesFromFolder saved seriesFolder).1

end STStorageInput

/-- A storage as the loader and the checks leave it, with series of so few digits. -/
structure Accepted (storage : STStorageCluster) : Prop where
  name : ∃ text, ∃ read ∈ IniFile.loaded text, ∃ loaded, STStorageCluster.loadFromSection read = some loaded ∧
    loaded.name = storage.name
  id : storage.id = storageId storage.name
  valid : storage.validate.2 = true
  numbers : ∀ number ∈ storage.properties.numbers, IniFile.IsDouble number
  values : ∀ value ∈ storage.series.values, FewDigits value

structure Savable (storage : STStorageCluster) : Prop where
  titled : storage.name.head? ≠ some ']'
  short : storage.name.length ≤ nameLimit
  numbers : ∀ number ∈ storage.properties.numbers, IniFile.ReadBack number
  values : ∀ value ∈ storage.series.values, NotTiny value

theorem Properties.name_loadProperty (read : Properties) (property : IniFile.Property) :
    (read.loadProperty property).name = read.name ∨
      property.key = nameKey ∧ (read.loadProperty property).name = property.value := by
  by_cases isKey : property.key = nameKey
  · obtain ⟨key, value⟩ := property
    obtain rfl := isKey
    exact .inr ⟨rfl, rfl⟩
  · left
    have other : property.key ≠ "name".toList := isKey
    -- each of the other keys writes another field
    have keep {key : Prop} [Decidable key] {first second : Properties × Bool} (yes : first.1.name = read.name)
        (no : second.1.name = read.name) : (if key then first else second).1.name = read.name := by
      by_cases taken : key
      · rw [if_pos taken, yes]
      · rw [if_neg taken, no]
    have loaded : (read.loadKey property).1.name = read.name := by
      unfold loadKey
      dsimp only
      rw [if_neg other]
      apply keep rfl (keep rfl (keep rfl (keep rfl (keep rfl (keep rfl (keep ?group rfl))))))
      cases groupEnum.lookup property.value with
      | none => rfl
      | some group => rfl
    unfold loadProperty
    by_cases empty : property.key = []
    · rw [if_pos empty]
    · rw [if_neg empty, loaded]

theorem Properties.name_load (properties : List IniFile.Property) :
    (Properties.load properties).name = [] ∨
      ∃ property ∈ properties, property.key = nameKey ∧ (Properties.load properties).name = property.value := by
  have all (read : Properties) : (properties.foldl Properties.loadProperty read).name = read.name ∨
      ∃ property ∈ properties, property.key = nameKey ∧ (properties.foldl Properties.loadProperty read).name = property.value := by
    induction properties generalizing read with
    | nil => exact .inl rfl
    | cons property properties later =>
      rw [List.foldl_cons]
      rcases later (read.loadProperty property) with same | ⟨other, member, isKey, same⟩
      · rcases Properties.name_loadProperty read property with kept | ⟨isKey, said⟩
        · exact .inl (same.trans kept)
        · exact .inr ⟨property, List.mem_cons_self, isKey, same.trans said⟩
      · exact .inr ⟨other, List.mem_cons_of_mem property member, isKey, same⟩
  exact all {}

theorem properties_loadFromSection {read : IniFile.Section} {storage : STStorageCluster}
    (loaded : STStorageCluster.loadFromSection read = some storage) :
    storage.properties = Properties.load read.properties ∧ storage.name ≠ [] ∧
      storage = { id := storageId storage.name, series := {}, properties := Properties.load read.properties } := by
  unfold STStorageCluster.loadFromSection at loaded
  dsimp only at loaded
  split_ifs at loaded with empty noName
  obtain rfl := Option.some.inj loaded
  exact ⟨rfl, noName, rfl⟩

theorem name_mem_valuesOf {read : IniFile.Section} {storage : STStorageCluster}
    (loaded : STStorageCluster.loadFromSection read = some storage) : storage.name ∈ IniFile.valuesOf nameKey [read] := by
  obtain ⟨same, named, -⟩ := properties_loadFromSection loaded
  unfold STStorageCluster.name at named ⊢
  rw [same] at named ⊢
  rcases Properties.name_load read.properties with none | ⟨property, member, isKey, said⟩
  · exact absurd none named
  · rw [said]
    unfold IniFile.valuesOf
    rw [List.flatMap_singleton]
    exact List.mem_map_of_mem (List.mem_filter.mpr ⟨member, decide_eq_true isKey⟩)

theorem Accepted.readName {storage : STStorageCluster} (accepted : Accepted storage) : ReadName storage.name := by
  obtain ⟨text, read, listed, loaded, done, same⟩ := accepted.name
  rw [← same]
  have member := name_mem_valuesOf done
  obtain ⟨property, kept, said⟩ := List.mem_map.mp member
  rw [List.flatMap_singleton, List.mem_filter, decide_eq_true_eq] at kept
  obtain ⟨line, length, key, mark, value, rfl, inLine, noEnd⟩ := IniFile.said_of_loaded listed kept.1
  have keyLength : 4 ≤ key.length := by
    have isKey : (toLower (Text.trim isBlank key)).length = 4 := congrArg List.length kept.2
    have lower : (toLower (Text.trim isBlank key)).length = (Text.trim isBlank key).length := List.length_map _
    have := Text.length_trim_le isBlank key
    omega
  have whole := inLine.length_le
  have limit : IniFile.lineHardLimit = 2048 := rfl
  have shorter := Text.length_trim_le isBlank value
  rw [List.length_append, List.length_cons] at whole
  rw [← said]
  constructor
  · exact said ▸ (properties_loadFromSection done).2.1
  · exact Text.trim_trim isBlank value
  · exact fun c inName => noEnd c (Text.mem_of_mem_trim isBlank inName)
  · show (Text.trim isBlank value).length ≤ 2042
    omega

namespace STStorageInput

theorem tryEmplace_length_le (storages : STStorageInput) (storage : STStorageCluster) :
    (storages.tryEmplace storage).length ≤ storages.length + 1 := by
  unfold tryEmplace
  split_ifs
  · exact Nat.le_succ _
  · rw [OrderedMap.length_insert]

theorem mem_tryEmplace {storages : STStorageInput} {storage other : STStorageCluster}
    (member : other ∈ storages.tryEmplace storage) : other = storage ∨ other ∈ storages := by
  unfold tryEmplace at member
  split_ifs at member
  · exact .inr member
  · exact OrderedMap.mem_insert.mp member

theorem names_of_foldlM {sections : List IniFile.Section} {before after : STStorageInput}
    (loaded : sections.foldlM addSection before = some after) :
    after.length ≤ before.length + (IniFile.valuesOf nameKey sections).length ∧
      ∀ storage ∈ after, storage ∈ before ∨ storage.name ∈ IniFile.valuesOf nameKey sections := by
  induction sections generalizing before with
  | nil =>
    obtain rfl := Option.some.inj loaded
    exact ⟨le_rfl, fun storage member => .inl member⟩
  | cons read sections later =>
    rw [List.foldlM_cons] at loaded
    obtain ⟨next, one, rest⟩ := Option.bind_eq_some_iff.mp loaded
    obtain ⟨storage, done, rfl⟩ := Option.map_eq_some_iff.mp one
    have named := name_mem_valuesOf done
    have some := List.length_pos_of_mem named
    have grown := tryEmplace_length_le before storage
    obtain ⟨count, names⟩ := later rest
    rw [IniFile.valuesOf_cons, List.length_append]
    refine ⟨by omega, fun other member => ?_⟩
    rcases names other member with inNext | said
    · rcases mem_tryEmplace inNext with rfl | inBefore
      · exact .inr (List.mem_append_left _ named)
      · exact .inl inBefore
    · exact .inr (List.mem_append_right _ said)

theorem saveToFolder_concat (storages : STStorageInput) (last : STStorageCluster) (folder : Text)
    (files : Text → Option Text) : saveToFolder (storages ++ [last]) folder files (folder ++ listFile) =
      some (IniFile.save [last.properties.newSection]) := by
  unfold saveToFolder
  rw [List.foldl_append]
  exact Function.update_self _ _ _

theorem saveDataSeriesToFolder_listFile (storages : STStorageInput) (seriesFolder folder : Text) (files : Text → Option Text) :
    storages.saveDataSeriesToFolder seriesFolder files (folder ++ listFile) = files (folder ++ listFile) := by
  have other : (folder ++ listFile).getLast? ≠ some 't' := by
    have last : listFile.getLast? = some 'i' := rfl
    rw [List.getLast?_append, last, Option.some_or]
    decide
  unfold saveDataSeriesToFolder
  induction storages generalizing files with
  | nil => rfl
  | cons storage storages later => rw [List.foldl_cons, later, Series.saveToFolder_last _ _ _ _ other]

theorem few_of_create {storages : STStorageInput} {last : STStorageCluster} (accepted : Accepted last)
    {files : Text → Option Text} {folder : Text}
    (saved : files (folder ++ listFile) = some (IniFile.save [last.properties.newSection]))
    (loaded : createSTStorageClustersFromIniFile files folder = some storages) :
    storages.length ≤ 1 ∧ ∀ storage ∈ storages, storage.name.length ≤ nameLimit := by
  have valid : last.properties.validate.2 = true := (Bool.and_eq_true_iff.mp accepted.valid).1
  obtain ⟨injection, withdrawal, reservoir, first, second, third⟩ := Properties.capacities_of_validate valid
  obtain ⟨one, short⟩ := names_newSection accepted.readName first second third
  unfold createSTStorageClustersFromIniFile at loaded
  rw [saved] at loaded
  obtain ⟨count, names⟩ := names_of_foldlM loaded
  rw [List.length_nil, Nat.zero_add] at count
  refine ⟨count.trans one, fun storage member => ?_⟩
  rcases names storage member with none | named
  · exact absurd none List.not_mem_nil
  · exact short _ named

theorem names_loadSeriesFromFolder (storages : STStorageInput) (files : Text → Option Text) (folder : Text) :
    (storages.loadSeriesFromFolder files folder).1.map STStorageCluster.name = storages.map STStorageCluster.name := by
  unfold loadSeriesFromFolder
  split_ifs
  · rfl
  · dsimp only
    rw [List.map_map, List.map_map]
    rfl

theorem create_single {storage : STStorageCluster} (accepted : Accepted storage) (titled : storage.name.head? ≠ some ']')
    (short : storage.name.length ≤ nameLimit) {files : Text → Option Text} {folder : Text}
    (saved : files (folder ++ listFile) = some (IniFile.save [storage.properties.newSection])) :
    ∃ read, read.properties = storage.properties.newSection.properties ∧
      createSTStorageClustersFromIniFile files folder = (STStorageCluster.loadFromSection read).map fun loaded => [loaded] := by
  have valid : storage.properties.validate.2 = true := (Bool.and_eq_true_iff.mp accepted.valid).1
  obtain ⟨injection, withdrawal, reservoir, first, second, third⟩ := Properties.capacities_of_validate valid
  obtain ⟨read, loaded, same⟩ := loaded_newSection accepted.readName first second third short titled
  use read, same
  unfold createSTStorageClustersFromIniFile
  rw [saved, Option.bind_some, loaded, List.foldlM_cons]
  unfold addSection
  cases STStorageCluster.loadFromSection read with
  | none => rfl
  | some storage => rfl

theorem reloaded_single {storage : STStorageCluster} (accepted : Accepted storage) (titled : storage.name.head? ≠ some ']')
    (short : storage.name.length ≤ nameLimit) (folder : Text) {seriesFolder : Text} (some : seriesFolder ≠ [])
    (files : Text → Option Text) : reloaded [storage] folder seriesFolder files = Option.some [storage] ↔
      (∀ number ∈ storage.properties.numbers, IniFile.ReadBack number) ∧ ∀ value ∈ storage.series.values, NotTiny value := by
  have valid := Bool.and_eq_true_iff.mp accepted.valid
  obtain ⟨injection, withdrawal, reservoir, first, second, third⟩ := Properties.capacities_of_validate valid.1
  have numbers := Properties.load_newSection accepted.readName.trimmed first second third accepted.numbers
  unfold reloaded
  dsimp only
  generalize saved : saveDataSeriesToFolder [storage] seriesFolder (saveToFolder [storage] folder files) = stored
  have list : stored (folder ++ listFile) = Option.some (IniFile.save [storage.properties.newSection]) := by
    rw [← saved, saveDataSeriesToFolder_listFile]
    exact saveToFolder_concat [] storage folder files
  have written : stored = storage.series.saveToFolder (seriesFolder ++ '/' :: storage.id) (saveToFolder [storage] folder files) :=
    saved.symm
  have series := @Series.load_saved _ valid.2 accepted.values (seriesFolder ++ '/' :: storage.id) stored (by
    rw [written]
    exact Series.saveToFolder_files storage.series _ _)
  obtain ⟨read, same, created⟩ := create_single accepted titled short list
  rw [created, ← numbers, ← series, ← same]
  have id := accepted.id
  unfold loadSeriesFromFolder
  constructor
  · intro back
    obtain ⟨storages, loaded, all⟩ := Option.map_eq_some_iff.mp back
    obtain ⟨other, done, rfl⟩ := Option.map_eq_some_iff.mp loaded
    obtain ⟨-, -, shape⟩ := properties_loadFromSection done
    rw [if_neg some] at all
    have whole : (other.loadSeries stored (seriesFolder ++ '/' :: other.id)).1 = storage := (List.cons.inj all).1
    have kept : other.properties = storage.properties := by
      rw [← whole]
      rfl
    have place : other.id = storage.id := by
      rw [← whole]
      rfl
    have read' : other.series = {} := congrArg STStorageCluster.series shape
    refine ⟨(congrArg STStorageCluster.properties shape).symm.trans kept, ?_⟩
    have loadedSeries := congrArg STStorageCluster.series whole
    unfold STStorageCluster.loadSeries at loadedSeries
    rw [read', place] at loadedSeries
    exact loadedSeries
  · intro ⟨kept, values⟩
    have done : STStorageCluster.loadFromSection read =
        Option.some { id := storage.id, series := {}, properties := storage.properties } := by
      have properties : read.properties ≠ [] := by
        intro empty
        rw [empty] at kept
        exact accepted.readName.some (congrArg Properties.name kept).symm
      have named : ¬storage.properties.name = [] := accepted.readName.some
      unfold STStorageCluster.loadFromSection
      rw [if_neg properties]
      dsimp only
      rw [kept, if_neg named, id]
      rfl
    rw [done, Option.map_some, Option.map_some, if_neg some]
    have series' : (STStorageCluster.loadSeries { id := storage.id, series := {}, properties := storage.properties } stored
        (seriesFolder ++ '/' :: storage.id)).1 = storage := by
      unfold STStorageCluster.loadSeries
      dsimp only
      rw [values]
    exact congrArg (fun loaded => Option.some [loaded]) series'

theorem reloaded_ne {storage : STStorageCluster} (accepted : Accepted storage)
    (lost : ¬(storage.name.head? ≠ some ']' ∧ storage.name.length ≤ nameLimit)) {front : STStorageInput}
    (folder seriesFolder : Text) (files : Text → Option Text) :
    reloaded (front ++ [storage]) folder seriesFolder files ≠ some [storage] := by
  intro back
  have valid : storage.properties.validate.2 = true := (Bool.and_eq_true_iff.mp accepted.valid).1
  obtain ⟨injection, withdrawal, reservoir, first, second, third⟩ := Properties.capacities_of_validate valid
  unfold reloaded at back
  dsimp only at back
  generalize saved : saveDataSeriesToFolder (front ++ [storage]) seriesFolder (saveToFolder (front ++ [storage]) folder files) =
    stored at back
  have list : stored (folder ++ listFile) = some (IniFile.save [storage.properties.newSection]) := by
    rw [← saved, saveDataSeriesToFolder_listFile, saveToFolder_concat]
  obtain ⟨loaded, created, same⟩ := Option.map_eq_some_iff.mp back
  have names := names_loadSeriesFromFolder loaded stored seriesFolder
  rw [same] at names
  obtain ⟨other, rest, rfl⟩ : ∃ other rest, loaded = other :: rest := by
    cases loaded with
    | nil => exact absurd names (by simp)
    | cons other rest => exact ⟨other, rest, rfl⟩
  have sameName : storage.name = other.name := (List.cons.inj names).1
  by_cases short : storage.name.length ≤ nameLimit
  · have untitled : storage.name.head? = some ']' := by
      by_contra titled
      exact lost ⟨titled, short⟩
    unfold createSTStorageClustersFromIniFile at created
    rw [list, Option.bind_some, loaded_untitled accepted.readName first second third short untitled] at created
    exact absurd (Option.some.inj created) (by simp)
  · have fits := (few_of_create accepted list created).2 other List.mem_cons_self
    exact short (sameName ▸ fits)

theorem reloaded_of_several {last : STStorageCluster} (accepted : Accepted last) {front : STStorageInput} (several : front ≠ [])
    (folder seriesFolder : Text) (files : Text → Option Text) :
    reloaded (front ++ [last]) folder seriesFolder files ≠ some (front ++ [last]) := by
  intro back
  unfold reloaded at back
  dsimp only at back
  obtain ⟨loaded, created, same⟩ := Option.map_eq_some_iff.mp back
  have names := names_loadSeriesFromFolder loaded (saveDataSeriesToFolder (front ++ [last]) seriesFolder
    (saveToFolder (front ++ [last]) folder files)) seriesFolder
  rw [same] at names
  have few := (few_of_create accepted (by rw [saveDataSeriesToFolder_listFile, saveToFolder_concat]) created).1
  have lengths := congrArg List.length names
  have some := List.length_pos_iff.mpr several
  rw [List.length_map, List.length_map, List.length_append, List.length_singleton] at lengths
  omega

/-- The storages of an area come back exactly when there is none, or one that can be read again:
each storage that is saved takes the place of the one before.
-/
theorem reloaded_eq_iff {storages : STStorageInput} (accepted : ∀ storage ∈ storages, Accepted storage) (folder : Text)
    {seriesFolder : Text} (some : seriesFolder ≠ []) (files : Text → Option Text) :
    reloaded storages folder seriesFolder files = Option.some storages ↔
      storages = [] ∨ ∃ storage, storages = [storage] ∧ Savable storage := by
  rcases List.eq_nil_or_concat storages with rfl | ⟨front, last, rfl⟩
  · refine iff_of_true ?_ (.inl rfl)
    have list : saveDataSeriesToFolder [] seriesFolder (saveToFolder [] folder files) (folder ++ listFile) = Option.some [] :=
      Function.update_self _ _ _
    unfold reloaded createSTStorageClustersFromIniFile
    dsimp only
    rw [list, Option.bind_some]
    show Option.some (loadSeriesFromFolder [] _ seriesFolder).1 = _
    unfold loadSeriesFromFolder
    rw [if_neg some]
    rfl
  rw [List.concat_eq_append] at accepted ⊢
  have acceptedLast := accepted last (List.mem_append_right front List.mem_cons_self)
  cases front with
  | nil =>
    rw [List.nil_append]
    have only : ([last] = [] ∨ ∃ storage, [last] = [storage] ∧ Savable storage) ↔ Savable last := by simp
    rw [only]
    by_cases readable : last.name.head? ≠ Option.some ']' ∧ last.name.length ≤ nameLimit
    · rw [reloaded_single acceptedLast readable.1 readable.2 folder some files]
      constructor
      · intro ⟨numbers, values⟩
        exact ⟨readable.1, readable.2, numbers, values⟩
      · intro savable
        exact ⟨savable.numbers, savable.values⟩
    · exact iff_of_false (@reloaded_ne last acceptedLast readable [] folder seriesFolder files)
        fun savable => readable ⟨savable.titled, savable.short⟩
  | cons first others =>
    exact iff_of_false (reloaded_of_several acceptedLast (List.cons_ne_nil first others) folder seriesFolder files) (by simp)

/-- A storage without capacities, whose series are the default ones. -/
def bare (name : Text) : STStorageCluster where
  id := storageId name
  series := Series.fillDefaultSeriesIfEmpty {}
  properties :=
    { injectionNominalCapacity := some (.finite 0)
      withdrawalNominalCapacity := some (.finite 0)
      reservoirCapacity := some (.finite 0)
      name := name }

theorem validate_bare (name : Text) : (bare name).validate.2 = true := by
  have properties : (bare name).properties.validate.2 = true := by
    simp [bare, Properties.validate, Properties.checkCapacity, Text.Double.less]
  have series : (bare name).series.validate = true := Series.validate_default
  unfold STStorageCluster.validate
  dsimp only
  rw [properties, series]
  rfl

theorem isDouble_bare {name : Text} : ∀ number ∈ (bare name).properties.numbers, IniFile.IsDouble number := by
  have small {v : ℚ} (small : |v| < 2 ^ 53) : IniFile.IsDouble (.finite v) :=
    ⟨small.trans (Text.lt_overflow (pow_lt_pow_right₀ (by norm_num) (by decide))), fun large => absurd small (not_lt.mpr large)⟩
  have half : |(1 / 2 : ℚ)| < 2 ^ 53 := by
    rw [abs_of_pos (by norm_num)]
    norm_num
  unfold Properties.numbers bare
  simp only [Option.toList_some, List.cons_append, List.nil_append, List.forall_mem_cons, List.not_mem_nil,
    IsEmpty.forall_iff, implies_true, and_true]
  exact ⟨small (by norm_num), small (by norm_num), small (by norm_num), small half, small (by norm_num)⟩

theorem fewDigits_bare {name : Text} : ∀ value ∈ (bare name).series.values, FewDigits value := by
  intro value member
  rcases Series.mem_values_default member with rfl | rfl
  · refine ⟨0, rfl, ⟨0, 0, 0, by decide, by norm_num⟩, ?_⟩
    rw [abs_zero]
    exact Text.overflow_pos
  · refine ⟨1, rfl, ⟨1, 0, 0, by decide, by norm_num⟩, ?_⟩
    rw [abs_one]
    exact Text.lt_overflow (one_lt_pow₀ (by norm_num) (by decide))

theorem accepted_bare {name text : Text} (read : IniFile.loaded text = [⟨name, [⟨nameKey, name⟩]⟩]) (some : name ≠ []) :
    Accepted (bare name) where
  name := by
    refine ⟨text, _, read ▸ List.mem_singleton_self _, { id := storageId name, series := {}, properties := { name := name } }, ?_, rfl⟩
    unfold STStorageCluster.loadFromSection
    rw [if_neg (List.cons_ne_nil _ _)]
    exact if_neg some
  id := rfl
  valid := validate_bare name
  numbers := isDouble_bare
  values := fewDigits_bare

theorem readBack_bare {name : Text} : ∀ number ∈ (bare name).properties.numbers, IniFile.ReadBack number := by
  have few {v : ℚ} (millionths : ∃ n : Nat, |v| * 10 ^ 6 = n) (small : |v| < 10) : IniFile.ReadBack (.finite v) := by
    have some : IniFile.unsignedSize v ≠ 0 := by
      have := IniFile.unsignedSize_le v
      omega
    exact ⟨millionths, small.trans_le (le_self_pow₀ (by norm_num) some)⟩
  have half : |(1 / 2 : ℚ)| = 1 / 2 := abs_of_pos (by norm_num)
  unfold Properties.numbers bare
  simp only [Option.toList_some, List.cons_append, List.nil_append, List.forall_mem_cons, List.not_mem_nil,
    IsEmpty.forall_iff, implies_true, and_true]
  refine ⟨few ⟨0, by norm_num⟩ (by norm_num), few ⟨0, by norm_num⟩ (by norm_num), few ⟨0, by norm_num⟩ (by norm_num), ?_,
    few ⟨10 ^ 6, by norm_num⟩ (by norm_num)⟩
  apply few
  · use 500000
    rw [half]
    norm_num
  · rw [half]
    norm_num

/-- One storage with default values comes back. -/
theorem reloaded_eq_iff_bare : reloaded [bare ['a']] "clusters".toList "series".toList (fun _ => none) = some [bare ['a']] := by
  have accepted : ∀ storage ∈ [bare ['a']], Accepted storage := by
    intro storage member
    rw [List.mem_singleton.mp member]
    exact accepted_bare (by decide : IniFile.loaded "[a]\nname = a\n".toList = [⟨['a'], [⟨nameKey, ['a']⟩]⟩]) (by decide)
  apply (reloaded_eq_iff accepted "clusters".toList (by decide) (fun _ => none)).mpr
  refine .inr ⟨_, rfl, (by decide : ['a'].head? ≠ some ']'), (by decide : ['a'].length ≤ nameLimit), readBack_bare, ?_⟩
  intro value member
  rcases Series.mem_values_default member with rfl | rfl
  · exact notTiny_zero
  · exact notTiny_one

/-- Of two storages with default values, one is lost. -/
theorem reloaded_pair : OrderedMap.Sorted STStorageCluster.name [bare ['a'], bare ['b']] ∧
    (∀ storage ∈ [bare ['a'], bare ['b']], Accepted storage) ∧
    reloaded [bare ['a'], bare ['b']] "clusters".toList "series".toList (fun _ => none) ≠ some [bare ['a'], bare ['b']] := by
  have first : Accepted (bare ['a']) :=
    accepted_bare (by decide : IniFile.loaded "[a]\nname = a\n".toList = [⟨['a'], [⟨nameKey, ['a']⟩]⟩]) (by decide)
  have second : Accepted (bare ['b']) :=
    accepted_bare (by decide : IniFile.loaded "[b]\nname = b\n".toList = [⟨['b'], [⟨nameKey, ['b']⟩]⟩]) (by decide)
  refine ⟨?_, ?_, reloaded_of_several second (List.cons_ne_nil (bare ['a']) []) _ _ _⟩
  · show List.Pairwise _ [['a'], ['b']]
    decide
  · simp only [List.forall_mem_cons, List.not_mem_nil, IsEmpty.forall_iff, implies_true, and_true]
    exact ⟨first, second⟩

end STStorageInput

end Antares.ShortTermStorage
