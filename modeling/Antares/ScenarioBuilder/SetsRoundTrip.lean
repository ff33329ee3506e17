import Antares.ScenarioBuilder.RoundTrip

/-! The whole file: what any file is loaded into can be read, and what can be read comes back. -/

set_option autoImplicit false

namespace Antares.ScenarioBuilder

open Library Data

namespace Sets

variable {study : Study}

def printed (sets : Sets) : Sets where
  rules := sets.rules.map Rules.printed
  sorted := by
    have same : (sets.rules.map Rules.printed).map Rules.id = sets.rules.map Rules.id := by
      rw [List.map_map]
      rfl
    unfold OrderedMap.Sorted
    rw [same]
    exact sets.sorted

structure Loadable (study : Study) (sets : Sets) : Prop where
  nonempty : sets.rules ≠ []
  readable : ∀ rules ∈ sets.rules, rules.Readable study
  levels : ∀ rules ∈ sets.rules, ∀ area year, ∀ level ∈ rules.hydroLevels area year,
    level.val = 0 ∨ Text.leastNormal ≤ level.val

/-- Rulesets over a study, with levels of no more digits than are printed. -/
structure Storable (study : Study) (sets : Sets) : Prop where
  fits : ∀ rules ∈ sets.rules, rules.Fits study
  mode : ∀ rules ∈ sets.rules, rules.ClustersMode study
  digits : ∀ rules ∈ sets.rules, ∀ area year, ∀ level ∈ rules.hydroLevels area year,
    ∃ digits exponent : Nat, digits < 10 ^ 4 ∧ level.val = digits / 10 ^ exponent

theorem readSection_section {rules : Rules} (fits : rules.Fits study) (readable : rules.Readable study)
    (mode : rules.ClustersMode study) (range : rules.InRange) (done : Sets)
    (before : ∀ other ∈ done.rules, Rules.id other < Rules.id rules) :
    ∃ next, readSection study done (rules.section' study) = some next ∧ next.rules = done.rules ++ [rules.printed] := by
  have fresh : rules.printed.id ∉ done.rules.map Rules.id := by
    intro member
    obtain ⟨other, inside, same⟩ := List.mem_map.mp member
    exact absurd same (before other inside).ne
  have name : (RulesScenarioName.of rules.name.val).trim = rules.name := by
    have whole : RulesScenarioName.of rules.name.val = rules.name := Subtype.ext (List.take_of_length_le rules.name.property)
    rw [whole]
    exact Subtype.ext readable.name.trimmed
  refine ⟨{ rules := OrderedMap.insert Rules.id rules.printed done.rules, sorted := done.sorted.insert fresh }, ?_,
    OrderedMap.insert_last before⟩
  have lines := Rules.readLines_entries fits readable mode range
  have sectionName : (rules.section' study).name = rules.name.val := rfl
  unfold readSection
  rw [sectionName, if_neg readable.name.nonempty]
  dsimp only
  rw [name, if_neg readable.name.nonempty, lines, Option.bind_some, createNew, dif_neg fresh]

theorem foldlM_readSection {listed : List Rules} (fits : ∀ rules ∈ listed, rules.Fits study)
    (readable : ∀ rules ∈ listed, rules.Readable study) (mode : ∀ rules ∈ listed, rules.ClustersMode study)
    (range : ∀ rules ∈ listed, rules.InRange) (sorted : OrderedMap.Sorted Rules.id listed) (done : Sets)
    (before : ∀ other ∈ done.rules, ∀ rules ∈ listed, Rules.id other < Rules.id rules) :
    ∃ result, (listed.map (Rules.section' study)).foldlM (readSection study) done = some result ∧
      result.rules = done.rules ++ listed.map Rules.printed := by
  induction listed generalizing done with
  | nil => exact ⟨done, rfl, (List.append_nil _).symm⟩
  | cons rules listed later =>
    have self := @List.mem_cons_self _ rules listed
    have ⟨below, others⟩ := List.pairwise_cons.mp sorted
    obtain ⟨next, read, grown⟩ := readSection_section (fits rules self) (readable rules self) (mode rules self)
      (range rules self) done fun other member => before other member rules self
    obtain ⟨result, rest, all⟩ := later (fun other member => fits other (List.mem_cons_of_mem _ member))
      (fun other member => readable other (List.mem_cons_of_mem _ member))
      (fun other member => mode other (List.mem_cons_of_mem _ member))
      (fun other member => range other (List.mem_cons_of_mem _ member)) others next fun other member last inside => by
        rw [grown] at member
        rcases List.mem_append.mp member with member | new
        · exact before other member last (List.mem_cons_of_mem _ inside)
        · obtain rfl := List.mem_singleton.mp new
          exact below _ (List.mem_map_of_mem inside)
    refine ⟨result, ?_, ?_⟩
    · rw [List.map_cons, List.foldlM_cons, read]
      exact rest
    · rw [all, grown, List.map_cons, List.append_assoc]
      rfl

theorem loadFromINIFile_saveToINIFile {sets : Sets} (nonempty : sets.rules ≠ [])
    (fits : ∀ rules ∈ sets.rules, rules.Fits study) (readable : ∀ rules ∈ sets.rules, rules.Readable study)
    (mode : ∀ rules ∈ sets.rules, rules.ClustersMode study) (range : ∀ rules ∈ sets.rules, rules.InRange) :
    loadFromINIFile study (saveToINIFile study sets) = some sets.printed := by
  have sections : IniFile.loaded (saveToINIFile study sets) = sets.rules.map (Rules.section' study) := by
    have all := @readInto_flatMap study sets.rules (fun rules member => (readable rules member).name)
      (fun rules member entry inside => Rules.sound_of_mem_entries (readable rules member) (range rules member) inside) []
    unfold IniFile.loaded saveToINIFile
    rw [all, List.append_nil, List.reverse_reverse]
  obtain ⟨result, read, all⟩ := foldlM_readSection fits readable mode range sets.sorted empty
    fun other none => absurd none List.not_mem_nil
  have same : result = sets.printed := Sets.ext all
  have some' : sets.printed.rules ≠ [] := fun none => nonempty (List.map_eq_nil_iff.mp none)
  unfold loadFromINIFile internalLoadFromINIFile
  rw [sections, read, Option.map_some, same, if_neg some']

end Sets

namespace Rules

variable {study : Study}

structure Loaded (study : Study) (rules : Rules) : Prop where
  readable : rules.Readable study
  normal : ∀ area year, ∀ level ∈ rules.hydroLevels area year, level.val = 0 ∨ Text.leastNormal ≤ level.val

theorem Loaded.reads {rules read : Rules} (loaded : rules.Loaded study) (reads : Reads study rules read) : read.Loaded study := by
  cases reads with
  | nothing => exact loaded
  | number keyed readable inYears value =>
    refine ⟨⟨loaded.readable.name, fun other present parts known => ?_, loaded.readable.levels⟩, loaded.normal⟩
    rename_i cell _
    by_cases same : other = cell
    · subst same
      obtain rfl := Option.some.inj (keyed.symm.trans known)
      exact readable
    · rw [set_numbers_of_ne rules same] at present
      exact loaded.readable.numbers other present parts known
  | level keyed readable inYears normal =>
    rename_i area year _ level
    refine ⟨⟨loaded.readable.name, loaded.readable.numbers, fun otherArea otherYear present parts known => ?_⟩,
      fun otherArea otherYear v present => ?_⟩
    · by_cases same : otherArea = area ∧ otherYear = year
      · obtain ⟨rfl, rfl⟩ := same
        obtain rfl := Option.some.inj (keyed.symm.trans known)
        exact readable
      · exact loaded.readable.levels otherArea otherYear (fun none => present ((if_neg same).trans none)) parts known
    · by_cases same : otherArea = area ∧ otherYear = year
      · obtain ⟨rfl, rfl⟩ := same
        rw [setLevel_hydroLevels_self] at present
        exact normal v present
      · exact loaded.normal otherArea otherYear v ((if_neg same).symm.trans present)

theorem loaded_empty {name : RulesScenarioName} (readable : ReadableName name.val) : (empty name).Loaded study where
  readable := ⟨readable, fun _ present => absurd rfl present, fun _ _ present => absurd rfl present⟩
  normal _ _ _ present := absurd present (by simp [empty])

theorem readable_of_mem_splitKey {key : Text}
    (clean : ∀ c ∈ key, c ≠ Char.ofNat 0 ∧ c ≠ '[' ∧ c ≠ '=' ∧ c ≠ '\n' ∧ c.toLower = c) {part : Text}
    (member : part ∈ splitKey key) : ScenarioBuilder.Readable part := by
  unfold splitKey at member
  split_ifs at member
  · exact absurd member List.not_mem_nil
  obtain ⟨whole, inside, rfl⟩ := List.mem_map.mp member
  refine ⟨fun c inPart => ?_, List.length_take_le _ _⟩
  obtain ⟨noComma, fromKey⟩ := Text.of_mem_splitOn inside
  have inWhole := List.mem_of_mem_take inPart
  obtain ⟨end', bracket, equals, line, lower⟩ := clean c (fromKey inWhole)
  exact isReadable_iff.mpr ⟨fun same => noComma (same ▸ inWhole), equals, bracket, line, end', lower⟩

theorem Loaded.readLines {start read : Rules} (loaded : start.Loaded study) {properties : List IniFile.Property}
    (clean : ∀ property ∈ properties, ∀ c ∈ property.key,
      c ≠ Char.ofNat 0 ∧ c ≠ '[' ∧ c ≠ '=' ∧ c ≠ '\n' ∧ c.toLower = c)
    (result : Sets.readLines study start properties = some read) : read.Loaded study := by
  induction properties generalizing start with
  | nil => exact Option.some.inj result ▸ loaded
  | cons property properties later =>
    unfold Sets.readLines at result later
    rw [List.foldlM_cons] at result
    obtain ⟨next, first, rest⟩ := Option.bind_eq_some_iff.mp result
    have parts : ∀ part ∈ splitKey property.key, ScenarioBuilder.Readable part := fun part member =>
      readable_of_mem_splitKey (clean property List.mem_cons_self) member
    exact later (loaded.reads (readLine_reads parts first)) (fun other member => clean other (List.mem_cons_of_mem _ member)) rest

end Rules

namespace Sets

variable {study : Study}

theorem readableName_of_clean {read : IniFile.Section} (clean : IniFile.Clean read)
    (nonempty : (RulesScenarioName.of read.name).trim.val ≠ []) : ReadableName (RulesScenarioName.of read.name).trim.val := by
  have inName : (RulesScenarioName.of read.name).trim.val <:+: read.name :=
    (Text.trim_infix isTabOrSpace _).trans (List.take_prefix _ _).isInfix
  exact {
    nonempty := nonempty
    trimmed := Text.trim_trim _ _
    noBracket := fun member => (clean.name _ (inName.subset member)).2 rfl
    noEnd := fun member => (clean.name _ (inName.subset member)).1 rfl
    noLine := fun member => clean.noLine (Text.mem_dropLast_of_infix inName member) }

theorem loaded_readSection {sets result : Sets} (loaded : ∀ rules ∈ sets.rules, rules.Loaded study) {read : IniFile.Section}
    (clean : IniFile.Clean read) (success : readSection study sets read = some result) :
    ∀ rules ∈ result.rules, rules.Loaded study := by
  unfold readSection at success
  by_cases unnamed : read.name = []
  · rw [if_pos unnamed] at success
    exact Option.some.inj success ▸ loaded
  rw [if_neg unnamed] at success
  dsimp only at success
  by_cases blank : (RulesScenarioName.of read.name).trim.val = []
  · rw [if_pos blank] at success
    exact Option.some.inj success ▸ loaded
  rw [if_neg blank] at success
  obtain ⟨filled, lines, created⟩ := Option.bind_eq_some_iff.mp success
  unfold createNew at created
  split_ifs at created
  obtain rfl := Option.some.inj created
  have new : filled.Loaded study := (Rules.loaded_empty (readableName_of_clean clean blank)).readLines clean.keys lines
  intro rules member
  rcases OrderedMap.mem_insert.mp member with rfl | member
  · exact new
  · exact loaded rules member

theorem loaded_foldlM {listed : List IniFile.Section} (clean : ∀ read ∈ listed, IniFile.Clean read) {sets result : Sets}
    (loaded : ∀ rules ∈ sets.rules, rules.Loaded study) (success : listed.foldlM (readSection study) sets = some result) :
    ∀ rules ∈ result.rules, rules.Loaded study := by
  induction listed generalizing sets with
  | nil => exact Option.some.inj success ▸ loaded
  | cons read listed later =>
    rw [List.foldlM_cons] at success
    obtain ⟨next, first, rest⟩ := Option.bind_eq_some_iff.mp success
    exact later (fun other member => clean other (List.mem_cons_of_mem _ member))
      (loaded_readSection loaded (clean read List.mem_cons_self) first) rest

theorem loadable_of_loadFromINIFile {text : Text} {sets : Sets} (success : loadFromINIFile study text = some sets) :
    sets.Loadable study := by
  obtain ⟨read, internal, rfl⟩ := Option.map_eq_some_iff.mp success
  have loaded : ∀ rules ∈ read.rules, rules.Loaded study :=
    loaded_foldlM (IniFile.clean_loaded text) (fun rules none => absurd none List.not_mem_nil) internal
  have default : (Rules.empty defaultRuleset).Loaded study :=
    Rules.loaded_empty ⟨by decide, by decide, by decide, by decide, by decide⟩
  split_ifs with none
  · have only {rules : Rules} (member : rules ∈ [Rules.empty defaultRuleset]) : rules.Loaded study :=
      List.mem_singleton.mp member ▸ default
    exact ⟨List.cons_ne_nil _ _, fun rules member => (only member).readable, fun rules member => (only member).normal⟩
  · exact ⟨none, fun rules member => (loaded rules member).readable, fun rules member => (loaded rules member).normal⟩

theorem printed_of_digits {level : Level} {digits exponent : Nat} (few : digits < 10 ^ 4)
    (value : level.val = digits / 10 ^ exponent) : Significant.printed Rules.levelPlaces level = level.val :=
  Significant.printed_of_digits level.property.1 level.property.2 few value

theorem Level.of_val (level : Level) : Level.of level.val = level := by
  unfold Level.of
  rw [dif_neg (not_lt.mpr level.property.1), dif_neg (not_lt.mpr level.property.2)]

theorem Storable.printed_eq {sets : Sets} (storable : sets.Storable study) : sets.printed = sets := by
  refine Sets.ext ((List.map_congr_left fun rules member => ?_).trans (List.map_id _))
  refine Rules.ext rfl rfl (funext fun area => funext fun year => ?_)
  show (rules.hydroLevels area year).map Level.printed = rules.hydroLevels area year
  cases present : rules.hydroLevels area year with
  | none => rfl
  | some level =>
    obtain ⟨digits, exponent, few, value⟩ := storable.digits rules member area year level present
    have same : level.printed = level := by
      unfold Level.printed
      rw [printed_of_digits few value, Level.of_val]
    exact congrArg some same

/-- Loading what was saved gives the same rulesets exactly when every ruleset, and every number and
level in it, has a name that survives in the file.
-/
theorem loadFromINIFile_saveToINIFile_iff {sets : Sets} (storable : sets.Storable study) :
    loadFromINIFile study (saveToINIFile study sets) = some sets ↔ sets.Loadable study := by
  constructor
  · exact loadable_of_loadFromINIFile
  · intro loadable
    have range : ∀ rules ∈ sets.rules, rules.InRange := by
      intro rules member area year level present
      obtain ⟨digits, exponent, few, value⟩ := storable.digits rules member area year level present
      unfold Level.InRange
      rw [printed_of_digits few value]
      exact loadable.levels rules member area year level present
    have back := loadFromINIFile_saveToINIFile loadable.nonempty storable.fits loadable.readable storable.mode range
    rwa [storable.printed_eq] at back

end Sets

/-! A study with one area, one thermal cluster and one group, and a ruleset over it. -/

namespace Rules

variable {study : Study} {rules : Rules}

theorem fits_empty (name : RulesScenarioName) : (empty name).Fits study where
  numbers _ present := absurd rfl present
  levels _ _ present := absurd rfl present

theorem Fits.set (fits : rules.Fits study) {cell : Cell} (inYears : cell.year < study.nbYears) (known : study.key cell ≠ none)
    (value : TSNumber) : (rules.set cell value).Fits study where
  numbers other present := by
    by_cases same : other = cell
    · exact same ▸ ⟨inYears, known⟩
    · rw [set_numbers_of_ne rules same] at present
      exact fits.numbers other present
  levels := fits.levels

theorem Fits.setLevel (fits : rules.Fits study) {area year : Nat} (inYears : year < study.nbYears)
    (known : study.levelKey area year ≠ none) (level : Option Level) : (rules.setLevel area year level).Fits study where
  numbers := fits.numbers
  levels otherArea otherYear present := by
    by_cases same : otherArea = area ∧ otherYear = year
    · obtain ⟨rfl, rfl⟩ := same
      exact ⟨inYears, known⟩
    · exact fits.levels otherArea otherYear fun none => present ((if_neg same).trans none)

end Rules

def gasCluster : Cluster where
  name := "Gas".toList
  named := by decide

def oneArea : Area where
  id := "area".toList
  isId := ⟨by decide, by decide, by decide⟩
  id_le := by decide
  thermal := [gasCluster]
  thermalSorted := by decide
  renewable := []
  renewableSorted := by decide
  links := []
  linksSorted := noTexts_sorted
  noLinkToItself := by decide

variable (group : Text)

def oneAreaStudy : Study where
  areas := [oneArea]
  areasSorted := List.pairwise_singleton _ _
  linksToAreas := by simp [oneArea]
  groups := [group]
  groupsSorted := List.pairwise_singleton _ _
  nbYears := 2
  nbYears_le := by decide
  renewableClusters := false

def oneGroupRules : Rules :=
  (((Rules.empty (RulesScenarioName.of "Test".toList)).set (.bindingConstraints group 1) ⟨5, by decide⟩).set
    (.thermal 0 0 0) ⟨12, by decide⟩).setLevel 0 1 (some ⟨1 / 2, by norm_num⟩)

def oneGroupSets : Sets where
  rules := [oneGroupRules group]
  sorted := List.pairwise_singleton _ _

theorem oneGroupSets_storable : (oneGroupSets group).Storable (oneAreaStudy group) where
  fits rules member := by
    obtain rfl := List.mem_singleton.mp member
    refine Rules.Fits.setLevel (Rules.Fits.set (Rules.Fits.set (Rules.fits_empty _) ?_ ?_ _) ?_ ?_ _) ?_ ?_ _
    · exact Nat.one_lt_two
    · simp [Study.key, oneAreaStudy]
    · exact Nat.zero_lt_two
    · simp [Study.key, Study.clusterKey, oneAreaStudy, oneArea]
    · exact Nat.one_lt_two
    · simp [Study.levelKey, Study.areaKey, oneAreaStudy]
  mode rules member area cluster year present := by
    obtain rfl := List.mem_singleton.mp member
    exact absurd rfl present
  digits rules member area year level present := by
    obtain rfl := List.mem_singleton.mp member
    by_cases same : area = 0 ∧ year = 1
    · obtain ⟨rfl, rfl⟩ := same
      have value : (⟨1 / 2, by norm_num⟩ : Level) = level :=
        Option.some.inj ((Rules.setLevel_hydroLevels_self _ _ _ _).symm.trans present)
      exact ⟨5, 1, by decide, by rw [← value]; norm_num⟩
    · exact absurd present ((if_neg same).trans_ne (by simp [Rules.set, Rules.empty]))

theorem oneGroupSets_loadable : (oneGroupSets "winter".toList).Loadable (oneAreaStudy "winter".toList) := by
  have name : (Rules.empty (RulesScenarioName.of "Test".toList)).Loaded (oneAreaStudy "winter".toList) :=
    Rules.loaded_empty ⟨by decide, by decide, by decide, by decide, by decide⟩
  have group : (oneAreaStudy "winter".toList).key (.bindingConstraints "winter".toList 1) =
      some [['b', 'c'], "winter".toList, ['1']] := by decide
  have cluster : (oneAreaStudy "winter".toList).key (.thermal 0 0 0) =
      some [['t'], "area".toList, ['0'], "gas".toList] := by decide
  have level : (oneAreaStudy "winter".toList).levelKey 0 1 = some [['h', 'l'], "area".toList, ['1']] := by decide
  have half : ∀ v ∈ some (⟨1 / 2, by norm_num⟩ : Level), v.val = 0 ∨ Text.leastNormal ≤ v.val := by
    intro v same
    obtain rfl := Option.some.inj same
    refine Or.inr ?_
    show 1 / 2 ^ 1022 ≤ (1 : ℚ) / 2
    exact one_div_le_one_div_of_le (by norm_num) (le_self_pow₀ (by norm_num) (by decide))
  have withGroup := name.reads (Rules.Reads.number group ⟨by decide, by decide⟩ (by decide) ⟨5, by decide⟩)
  have withCluster := withGroup.reads (Rules.Reads.number cluster ⟨by decide, by decide⟩ (by decide) ⟨12, by decide⟩)
  have loaded : (oneGroupRules "winter".toList).Loaded (oneAreaStudy "winter".toList) :=
    withCluster.reads (Rules.Reads.level level ⟨by decide, by decide⟩ (by decide) half)
  exact ⟨List.cons_ne_nil _ _, fun rules member => List.mem_singleton.mp member ▸ loaded.readable,
    fun rules member => List.mem_singleton.mp member ▸ loaded.normal⟩

namespace Sets

theorem oneGroupSets_restored :
    loadFromINIFile (oneAreaStudy "winter".toList) (saveToINIFile (oneAreaStudy "winter".toList) (oneGroupSets "winter".toList)) =
      some (oneGroupSets "winter".toList) :=
  (loadFromINIFile_saveToINIFile_iff (oneGroupSets_storable "winter".toList)).mpr oneGroupSets_loadable

/-- A group with a capital letter in its name loses its numbers. -/
theorem capitalGroup_not_restored :
    (oneGroupSets "Winter".toList).Storable (oneAreaStudy "Winter".toList) ∧
      loadFromINIFile (oneAreaStudy "Winter".toList)
        (saveToINIFile (oneAreaStudy "Winter".toList) (oneGroupSets "Winter".toList)) ≠ some (oneGroupSets "Winter".toList) := by
  refine ⟨oneGroupSets_storable _, fun restored => ?_⟩
  have readable := (loadable_of_loadFromINIFile restored).readable _ List.mem_cons_self
  have group : (oneAreaStudy "Winter".toList).key (.bindingConstraints "Winter".toList 1) =
      some [['b', 'c'], "Winter".toList, ['1']] := by decide
  have key := readable.numbers (.bindingConstraints "Winter".toList 1) (by decide) _ group
  exact absurd (key.readable "Winter".toList (by decide)) (by decide)

end Sets

end Antares.ScenarioBuilder
