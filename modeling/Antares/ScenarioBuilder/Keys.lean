import Antares.ScenarioBuilder.Rules

/-! Which names survive in the key of a line, and how a line that is written with such names is read. The key
that stands for each place of the matrices of a ruleset: what is written is written under it, and what is
read under it comes back to its place.
-/

set_option autoImplicit false

namespace Antares.ScenarioBuilder

open Library Data

def isReadable (c : Char) : Bool :=
  c != ',' && c != '=' && c != '[' && c != '\n' && c != Char.ofNat 0 && c.toLower == c

structure Readable (part : Text) : Prop where
  chars : ∀ c ∈ part, isReadable c = true
  short : part.length ≤ areaNameSize

instance (part : Text) : Decidable (Readable part) :=
  decidable_of_iff ((∀ c ∈ part, isReadable c = true) ∧ part.length ≤ areaNameSize)
    ⟨fun both => ⟨both.1, both.2⟩, fun readable => ⟨readable.chars, readable.short⟩⟩

variable {c : Char}

theorem isReadable_iff :
    isReadable c = true ↔ c ≠ ',' ∧ c ≠ '=' ∧ c ≠ '[' ∧ c ≠ '\n' ∧ c ≠ Char.ofNat 0 ∧ c.toLower = c := by
  simp [isReadable, and_assoc]

theorem isReadable_of_isDigit (isDigit : c.isDigit = true) : isReadable c = true := by
  have := Text.not_of_isDigit isDigit (p := fun c => !isReadable c) (by decide)
  simpa using this

theorem readable_decimal {n : Nat} (small : n < 10 ^ areaNameSize) : Readable (Text.decimal n) where
  chars _ member := isReadable_of_isDigit (Text.isDigit_of_mem_decimal member)
  short := Text.length_decimal_le (by decide) small

def isNumberChar (c : Char) : Bool := c.isDigit || c == '.' || c == 'e' || c == '-'

theorem isNumberChar_cases (isNumber : isNumberChar c = true) :
    c.isDigit = true ∨ c = '.' ∨ c = 'e' ∨ c = '-' := by
  simpa [isNumberChar, or_assoc] using isNumber

theorem isBlank_of_isDigit (isDigit : c.isDigit = true) : isBlank c = false :=
  Text.not_of_isDigit isDigit (by decide)

theorem isBlank_of_isNumberChar (isNumber : isNumberChar c = true) : isBlank c = false := by
  rcases isNumberChar_cases isNumber with isDigit | rfl | rfl | rfl
  · exact isBlank_of_isDigit isDigit
  all_goals decide

namespace Entry

structure Sound (entry : Entry) : Prop where
  parts : ∀ part ∈ entry.parts, Readable part
  few : 0 < entry.parts.length ∧ entry.parts.length ≤ 4
  tight : Text.Tight isBlank ([','].intercalate entry.parts)
  value : entry.value ≠ [] ∧ ∀ c ∈ entry.value, isNumberChar c = true
  short : entry.value.length ≤ 1024

section
variable {entry : Entry} (sound : entry.Sound)

theorem isBlank_of_mem_blank {c : Char} (member : c ∈ entry.blank) : c = ' ' := by
  unfold blank at member
  split_ifs at member
  · exact List.mem_singleton.mp member
  · exact absurd member List.not_mem_nil

theorem length_blank_le : entry.blank.length ≤ 1 := by
  unfold blank
  split_ifs <;> simp

include sound

theorem Sound.of_mem {c : Char} (member : c ∈ [','].intercalate entry.parts) : c = ',' ∨ isReadable c = true :=
  (Text.mem_intercalate member).imp_right fun ⟨part, inside, here⟩ => (sound.parts part inside).chars c here

theorem Sound.length_intercalate : ([','].intercalate entry.parts).length ≤ 4 * (areaNameSize + 1) :=
  (Text.length_intercalate_le fun part member => (sound.parts part member).short).trans
    (Nat.mul_le_mul_right _ sound.few.2)

theorem Sound.splitKey_eq : splitKey ([','].intercalate entry.parts) = entry.parts := by
  obtain ⟨c, first, -⟩ := sound.tight.left
  have nonempty : [','].intercalate entry.parts ≠ [] := by
    intro none
    rw [none] at first
    exact absurd first (by simp)
  have noComma : ∀ part ∈ entry.parts, ',' ∉ part := fun part member comma =>
    (isReadable_iff.mp ((sound.parts part member).chars _ comma)).1 rfl
  rw [splitKey, if_neg nonempty, List.splitOn_intercalate ',' noComma (List.length_pos_iff.mp sound.few.1)]
  refine (List.map_congr_left fun part member => ?_).trans (List.map_id _)
  exact List.take_of_length_le (sound.parts part member).short

theorem Sound.property_eq :
    IniFile.property entry.key (entry.blank ++ entry.value) =
      { key := [','].intercalate entry.parts, value := entry.value } := by
  have blanks : ∀ c ∈ entry.blank, isBlank c = true := fun c member => by
    rw [isBlank_of_mem_blank member]
    rfl
  have none : ∀ c ∈ ([] : Text), isBlank c = true := fun c member => absurd member List.not_mem_nil
  have key : Text.trim isBlank entry.key = [','].intercalate entry.parts := sound.tight.trim_between none blanks
  have lower : toLower ([','].intercalate entry.parts) = [','].intercalate entry.parts := by
    refine (List.map_congr_left fun c member => ?_).trans (List.map_id _)
    rcases sound.of_mem member with rfl | readable
    · rfl
    · exact (isReadable_iff.mp readable).2.2.2.2.2
  have tightValue : Text.Tight isBlank entry.value :=
    Text.tight_of_forall sound.value.1 fun c member => isBlank_of_isNumberChar (sound.value.2 c member)
  have value := tightValue.trim_between blanks none
  rw [List.append_nil] at value
  rw [IniFile.property, key, lower, value]

theorem Sound.keyText : IniFile.KeyText entry.key := by
  have all {c : Char} (member : c ∈ entry.key) : c ≠ Char.ofNat 0 ∧ c ≠ '[' ∧ c ≠ '=' ∧ c ≠ '\n' := by
    rcases List.mem_append.mp member with inParts | inBlank
    · rcases sound.of_mem inParts with rfl | readable
      · decide
      · obtain ⟨-, equals, bracket, line, end', -⟩ := isReadable_iff.mp readable
        exact ⟨end', bracket, equals, line⟩
    · rw [isBlank_of_mem_blank inBlank]
      decide
  exact ⟨fun member => (all member).1 rfl, fun member => (all member).2.1 rfl, fun member => (all member).2.2.1 rfl⟩

end

end Entry

end Antares.ScenarioBuilder

namespace Antares.ScenarioBuilder

open Library Data

def Cell.year : Cell → Nat
  | .load _ year => year
  | .solar _ year => year
  | .hydro _ year => year
  | .wind _ year => year
  | .thermal _ _ year => year
  | .renewable _ _ year => year
  | .linksNTC _ _ year => year
  | .bindingConstraints _ year => year

namespace Study

variable (study : Study)

def areaKey (mark : Text) (area year : Nat) : Option (List Text) :=
  study.areas[area]?.map fun area => [mark, area.id, Text.decimal year]

def clusterKey (mark : Text) (clusters : Area → List Cluster) (area cluster year : Nat) : Option (List Text) :=
  study.areas[area]?.bind fun area =>
    (clusters area)[cluster]?.map fun cluster => [mark, area.id, Text.decimal year, cluster.id]

/-- The parts of the key of a place, where there is such an area, cluster, link or group. -/
def key : Cell → Option (List Text)
  | .load area year => study.areaKey ['l'] area year
  | .solar area year => study.areaKey ['s'] area year
  | .hydro area year => study.areaKey ['h'] area year
  | .wind area year => study.areaKey ['w'] area year
  | .thermal area cluster year => study.clusterKey ['t'] Area.thermal area cluster year
  | .renewable area cluster year => study.clusterKey ['r'] Area.renewable area cluster year
  | .linksNTC area link year =>
    study.areas[area]?.bind fun area =>
      area.links[link]?.map fun link => [['n', 't', 'c'], area.id, link, Text.decimal year]
  | .bindingConstraints group year => if group ∈ study.groups then some [['b', 'c'], group, Text.decimal year] else none

def levelKey (area year : Nat) : Option (List Text) := study.areaKey ['h', 'l'] area year

/-- There is no blank around the equals sign of the lines of groups. -/
def spaced : Cell → Bool
  | .bindingConstraints _ _ => false
  | _ => true

end Study

/-- Every part of the key is left as it is, and the key does not end with a comma. -/
structure ReadableKey (parts : List Text) : Prop where
  readable : ∀ part ∈ parts, Readable part
  closed : parts.getLast? ≠ some []

namespace Rules

variable {study : Study} {rules : Rules}

def numberLine (parts : List Text) (spaced : Bool) (value : TSNumber) : Entry where
  parts := parts
  spaced := spaced
  value := Text.decimal value.val

def levelLine (parts : List Text) (level : Level) : Entry where
  parts := parts
  spaced := true
  value := Significant.print levelPlaces level

theorem mem_numberEntry {parts : List Text} {spaced : Bool} {value : TSNumber} {entry : Entry} :
    entry ∈ numberEntry parts spaced value ↔ value ≠ TSNumber.auto ∧ entry = numberLine parts spaced value := by
  unfold numberEntry
  split_ifs with none
  · refine ⟨fun member => absurd member List.not_mem_nil, fun both => absurd (Subtype.ext none) both.1⟩
  · rw [List.mem_singleton]
    exact ⟨fun same => ⟨fun auto => none (congrArg Subtype.val auto), same⟩, And.right⟩

theorem mem_eachYear {entries : Nat → List Entry} {entry : Entry} :
    entry ∈ eachYear study entries ↔ ∃ year, year < study.nbYears ∧ entry ∈ entries year := by
  simp [eachYear, List.mem_flatMap]

theorem mem_flatMap_zipIdx {α : Type} {items : List α} {entries : α × Nat → List Entry} {entry : Entry} :
    entry ∈ items.zipIdx.flatMap entries ↔ ∃ item place, items[place]? = some item ∧ entry ∈ entries (item, place) := by
  rw [List.mem_flatMap]
  constructor
  · rintro ⟨⟨item, place⟩, member, here⟩
    exact ⟨item, place, List.mem_zipIdx_iff_getElem?.mp member, here⟩
  · rintro ⟨item, place, stands, here⟩
    exact ⟨(item, place), List.mem_zipIdx_iff_getElem?.mpr stands, here⟩

structure NumberWritten (study : Study) (rules : Rules) (cell : Cell) (entry : Entry) : Prop where
  inYears : cell.year < study.nbYears
  value : rules.numbers cell ≠ TSNumber.auto
  line : ∃ parts, study.key cell = some parts ∧ entry = numberLine parts (Study.spaced cell) (rules.numbers cell)

structure LevelWritten (study : Study) (rules : Rules) (area year : Nat) (entry : Entry) : Prop where
  inYears : year < study.nbYears
  line : ∃ parts level, study.levelKey area year = some parts ∧ rules.hydroLevels area year = some level ∧
    entry = levelLine parts level

section
variable {entry : Entry} {mark : Text}

theorem mem_saveAreas {cell : Nat → Nat → Cell}
    (key : ∀ area year, study.key (cell area year) = study.areaKey mark area year)
    (spaced : ∀ area year, Study.spaced (cell area year) = true) (same : ∀ area year, (cell area year).year = year) :
    entry ∈ saveAreas study rules mark cell ↔ ∃ area year, NumberWritten study rules (cell area year) entry := by
  unfold saveAreas
  rw [mem_flatMap_zipIdx]
  constructor
  · rintro ⟨area, index, stands, member⟩
    obtain ⟨year, inYears, here⟩ := mem_eachYear.mp member
    obtain ⟨value, line⟩ := mem_numberEntry.mp here
    refine ⟨index, year, by rwa [same], value, _, ?_, by rwa [spaced]⟩
    rw [key, Study.areaKey, stands]
    rfl
  · rintro ⟨index, year, inYears, value, parts, keyed, line⟩
    rw [key] at keyed
    obtain ⟨area, stands, rfl⟩ := Option.map_eq_some_iff.mp keyed
    rw [same] at inYears
    rw [spaced] at line
    exact ⟨area, index, stands, mem_eachYear.mpr ⟨year, inYears, mem_numberEntry.mpr ⟨value, line⟩⟩⟩

theorem mem_saveClusters {clusters : Area → List Cluster} {cell : Nat → Nat → Nat → Cell}
    (key : ∀ area cluster year, study.key (cell area cluster year) = study.clusterKey mark clusters area cluster year)
    (spaced : ∀ area cluster year, Study.spaced (cell area cluster year) = true)
    (same : ∀ area cluster year, (cell area cluster year).year = year) {area : Area} {index : Nat}
    (stands : study.areas[index]? = some area) :
    entry ∈ saveClusters study rules mark clusters cell (area, index) ↔
      ∃ cluster year, NumberWritten study rules (cell index cluster year) entry := by
  unfold saveClusters
  rw [mem_flatMap_zipIdx]
  constructor
  · rintro ⟨cluster, place, there, member⟩
    obtain ⟨year, inYears, here⟩ := mem_eachYear.mp member
    obtain ⟨value, line⟩ := mem_numberEntry.mp here
    refine ⟨place, year, by rwa [same], value, _, ?_, by rwa [spaced]⟩
    rw [key, Study.clusterKey, stands, Option.bind_some, there]
    rfl
  · rintro ⟨place, year, inYears, value, parts, keyed, line⟩
    rw [key, Study.clusterKey, stands, Option.bind_some] at keyed
    obtain ⟨cluster, there, rfl⟩ := Option.map_eq_some_iff.mp keyed
    rw [same] at inYears
    rw [spaced] at line
    exact ⟨cluster, place, there, mem_eachYear.mpr ⟨year, inYears, mem_numberEntry.mpr ⟨value, line⟩⟩⟩

theorem mem_saveLinksNTC {area : Area} {index : Nat} (stands : study.areas[index]? = some area) :
    entry ∈ saveLinksNTC study rules (area, index) ↔
      ∃ link year, NumberWritten study rules (.linksNTC index link year) entry := by
  unfold saveLinksNTC
  rw [mem_flatMap_zipIdx]
  constructor
  · rintro ⟨link, place, there, member⟩
    obtain ⟨year, inYears, here⟩ := mem_eachYear.mp member
    obtain ⟨value, line⟩ := mem_numberEntry.mp here
    refine ⟨place, year, inYears, value, _, ?_, line⟩
    rw [Study.key, stands, Option.bind_some, there]
    rfl
  · rintro ⟨place, year, inYears, value, parts, keyed, line⟩
    rw [Study.key, stands, Option.bind_some] at keyed
    obtain ⟨link, there, rfl⟩ := Option.map_eq_some_iff.mp keyed
    exact ⟨link, place, there, mem_eachYear.mpr ⟨year, inYears, mem_numberEntry.mpr ⟨value, line⟩⟩⟩

theorem mem_saveHydroLevels :
    entry ∈ saveHydroLevels study rules ↔ ∃ area year, LevelWritten study rules area year entry := by
  unfold saveHydroLevels
  rw [mem_flatMap_zipIdx]
  constructor
  · rintro ⟨area, index, stands, member⟩
    obtain ⟨year, inYears, here⟩ := mem_eachYear.mp member
    cases level : rules.hydroLevels index year with
    | none => exact absurd here (by simp [level])
    | some v =>
      simp only [level, List.mem_singleton] at here
      refine ⟨index, year, inYears, _, v, ?_, level, here⟩
      rw [Study.levelKey, Study.areaKey, stands]
      rfl
  · rintro ⟨index, year, inYears, parts, v, keyed, level, line⟩
    obtain ⟨area, stands, rfl⟩ := Option.map_eq_some_iff.mp keyed
    refine ⟨area, index, stands, mem_eachYear.mpr ⟨year, inYears, ?_⟩⟩
    simp only [level, List.mem_singleton]
    exact line

theorem mem_saveBindingConstraints :
    entry ∈ saveBindingConstraints study rules ↔
      ∃ group year, NumberWritten study rules (.bindingConstraints group year) entry := by
  unfold saveBindingConstraints
  rw [List.mem_flatMap]
  constructor
  · rintro ⟨group, known, member⟩
    obtain ⟨year, inYears, here⟩ := mem_eachYear.mp member
    obtain ⟨value, line⟩ := mem_numberEntry.mp here
    exact ⟨group, year, inYears, value, _, if_pos known, line⟩
  · rintro ⟨group, year, inYears, value, parts, keyed, line⟩
    simp only [Study.key] at keyed
    split_ifs at keyed with known
    obtain rfl := Option.some.inj keyed
    exact ⟨group, known, mem_eachYear.mpr ⟨year, inYears, mem_numberEntry.mpr ⟨value, line⟩⟩⟩

theorem mem_entries :
    entry ∈ entries study rules ↔
      (∃ cell, NumberWritten study rules cell entry) ∨ ∃ area year, LevelWritten study rules area year entry := by
  have load := @mem_saveAreas study rules entry ['l'] Cell.load (fun _ _ => rfl) (fun _ _ => rfl) (fun _ _ => rfl)
  have solar := @mem_saveAreas study rules entry ['s'] Cell.solar (fun _ _ => rfl) (fun _ _ => rfl) (fun _ _ => rfl)
  have hydro := @mem_saveAreas study rules entry ['h'] Cell.hydro (fun _ _ => rfl) (fun _ _ => rfl) (fun _ _ => rfl)
  have wind := @mem_saveAreas study rules entry ['w'] Cell.wind (fun _ _ => rfl) (fun _ _ => rfl) (fun _ _ => rfl)
  have thermal {area index} := @mem_saveClusters study rules entry ['t'] Area.thermal Cell.thermal
    (fun _ _ _ => rfl) (fun _ _ _ => rfl) (fun _ _ _ => rfl) area index
  have renewable {area index} := @mem_saveClusters study rules entry ['r'] Area.renewable Cell.renewable
    (fun _ _ _ => rfl) (fun _ _ _ => rfl) (fun _ _ _ => rfl) area index
  simp only [entries, List.mem_append, saveLoad, saveSolar, saveHydro, saveWind, load, solar, hydro, wind,
    mem_saveHydroLevels, mem_saveBindingConstraints, mem_flatMap_zipIdx, or_assoc]
  constructor
  · rintro (⟨area, year, written⟩ | ⟨area, year, written⟩ | ⟨area, year, written⟩ | ⟨area, year, written⟩ |
      ⟨area, index, stands, inArea⟩ | levels | ⟨group, year, written⟩)
    · exact Or.inl ⟨_, written⟩
    · exact Or.inl ⟨_, written⟩
    · exact Or.inl ⟨_, written⟩
    · exact Or.inl ⟨_, written⟩
    · rcases inArea with here | here | here
      · obtain ⟨cluster, year, written⟩ := (thermal stands).mp here
        exact Or.inl ⟨_, written⟩
      · obtain ⟨cluster, year, written⟩ := (renewable stands).mp here
        exact Or.inl ⟨_, written⟩
      · obtain ⟨link, year, written⟩ := (mem_saveLinksNTC stands).mp here
        exact Or.inl ⟨_, written⟩
    · exact Or.inr levels
    · exact Or.inl ⟨_, written⟩
  · rintro (⟨cell, written⟩ | levels)
    · -- the kind of the cell tells which saver writes it
      have ⟨parts, keyed, _⟩ := written.line
      cases cell with
      | load area year => exact Or.inl ⟨area, year, written⟩
      | solar area year => exact Or.inr (Or.inl ⟨area, year, written⟩)
      | hydro area year => exact Or.inr (Or.inr (Or.inl ⟨area, year, written⟩))
      | wind area year => exact Or.inr (Or.inr (Or.inr (Or.inl ⟨area, year, written⟩)))
      | thermal index cluster year =>
        obtain ⟨area, stands, -⟩ := Option.bind_eq_some_iff.mp keyed
        refine Or.inr (Or.inr (Or.inr (Or.inr (Or.inl ⟨area, index, stands, Or.inl ?_⟩))))
        exact (thermal stands).mpr ⟨cluster, year, written⟩
      | renewable index cluster year =>
        obtain ⟨area, stands, -⟩ := Option.bind_eq_some_iff.mp keyed
        refine Or.inr (Or.inr (Or.inr (Or.inr (Or.inl ⟨area, index, stands, Or.inr (Or.inl ?_)⟩))))
        exact (renewable stands).mpr ⟨cluster, year, written⟩
      | linksNTC index link year =>
        obtain ⟨area, stands, -⟩ := Option.bind_eq_some_iff.mp keyed
        refine Or.inr (Or.inr (Or.inr (Or.inr (Or.inl ⟨area, index, stands, Or.inr (Or.inr ?_)⟩))))
        exact (mem_saveLinksNTC stands).mpr ⟨link, year, written⟩
      | bindingConstraints group year =>
        exact Or.inr (Or.inr (Or.inr (Or.inr (Or.inr (Or.inr ⟨group, year, written⟩)))))
    · exact Or.inr (Or.inr (Or.inr (Or.inr (Or.inr (Or.inl levels)))))

end

end Rules

end Antares.ScenarioBuilder
