import Antares.ScenarioBuilder.Keys

/-! What the readers do with the parts of a key: the key of a place leads back to that place, and a
place that is written has a key that could be read.
-/

set_option autoImplicit false

namespace Antares.ScenarioBuilder

open Library Data

theorem toUInt_decimal {n : Nat} (small : n < 2 ^ 32) : toUInt (Text.decimal n) = n := by
  obtain ⟨c, rest, split⟩ := List.exists_cons_of_ne_nil (Text.decimal_ne_nil n)
  have isDigits : ∀ d ∈ c :: rest, d.isDigit = true := fun d member =>
    Text.isDigit_of_mem_decimal (split ▸ member)
  have noHash : c ≠ '#' := Text.ne_of_isDigit (isDigits c List.mem_cons_self) rfl
  have second : ∀ d ∈ (c :: rest).tail.head?, d ≠ 'x' ∧ d ≠ 'X' := by
    intro d head
    have isDigit := isDigits d (List.mem_cons_of_mem c (List.mem_of_mem_head? head))
    exact ⟨Text.ne_of_isDigit isDigit rfl, Text.ne_of_isDigit isDigit rfl⟩
  have noBase : ¬(2 < (c :: rest).length ∧ Text.withoutBase (c :: rest) ≠ c :: rest) := fun both =>
    both.2 (Text.withoutBase_of_second second)
  rw [split]
  unfold toUInt
  dsimp only
  rw [if_neg noHash, if_neg noBase, ← split, Text.strtoul_decimal (by omega), Nat.mod_eq_of_lt small]

theorem fromStringToTSnumber_decimal (value : TSNumber) : fromStringToTSnumber (Text.decimal value.val) = some value := by
  have le : (value.val : ℚ) ≤ maxTSnumber := by exact_mod_cast value.property
  have small : (value.val : ℚ) < 2 ^ 970 :=
    calc (value.val : ℚ) ≤ maxTSnumber := le
      _ < 2 ^ 14 := by norm_num [maxTSnumber]
      _ ≤ 2 ^ 970 := pow_le_pow_right₀ (by norm_num) (by decide)
  unfold fromStringToTSnumber
  rw [Text.stod_decimal small]
  dsimp only
  rw [if_neg (Nat.cast_nonneg value.val).not_gt, dif_neg (not_lt.mpr le)]
  exact congrArg some (Subtype.ext (Nat.floor_natCast value.val))

def Level.printed (level : Level) : Level := Level.of (Significant.printed Rules.levelPlaces level)

def Level.InRange (level : Level) : Prop :=
  Significant.printed Rules.levelPlaces level = 0 ∨ Text.leastNormal ≤ Significant.printed Rules.levelPlaces level

theorem fromStringToHydroLevel_print {level : Level} (range : level.InRange) :
    fromStringToHydroLevel (Significant.print Rules.levelPlaces level) = some (some level.printed) := by
  unfold fromStringToHydroLevel
  rw [Significant.stod_print level.property.1 level.property.2 range]
  rfl

theorem fromStringToHydroLevel_normal {value : Text} {level : Level} (read : fromStringToHydroLevel value = some (some level)) :
    level.val = 0 ∨ Text.leastNormal ≤ level.val := by
  have one : Text.leastNormal ≤ 1 := (div_le_one (pow_pos (by norm_num) _)).mpr (one_le_pow₀ (by norm_num))
  unfold fromStringToHydroLevel at read
  cases scanned : Text.stod value with
  | error kind =>
    rw [scanned] at read
    cases kind with
    | invalidArgument => exact absurd (Option.some.inj read) (by simp)
    | outOfRange => exact absurd read (by simp)
  | ok result =>
    rw [scanned] at read
    cases result with
    | nan => exact absurd (Option.some.inj read) (by simp)
    | infinite negative =>
      obtain rfl := Option.some.inj (Option.some.inj read)
      cases negative
      · exact Or.inr one
      · exact Or.inl rfl
    | finite result =>
      obtain rfl := Option.some.inj (Option.some.inj read)
      unfold Level.of
      split_ifs with negative above
      · exact Or.inl rfl
      · exact Or.inr one
      · exact Text.stod_finite scanned (not_lt.mp negative)

namespace Rules

variable {study : Study} (rules : Rules)

theorem find_of_getElem? {area : Area} {index : Nat} (stands : study.areas[index]? = some area) :
    study.find area.id = some (area, index) :=
  OrderedMap.find_of_getElem? study.areasSorted.distinct stands

theorem year_lt {year : Nat} (inYears : year < study.nbYears) : year < 2 ^ 31 := by
  have := study.nbYears_le
  unfold maximumMCYears at this
  omega

theorem toUInt_year {year : Nat} (inYears : year < study.nbYears) : toUInt (Text.decimal year) = year :=
  toUInt_decimal (lt_trans (year_lt inYears) (by decide))

theorem readArea_key {mark : Text} {cell : Nat → Nat → Cell} {area year : Nat} {parts : List Text}
    (keyed : study.areaKey mark area year = some parts) (inYears : year < study.nbYears) (value : Text)
    (dispatch : ∀ second third, readLine study rules [mark, second, third] value = readArea study rules cell second third value) :
    readLine study rules parts value = (fromStringToTSnumber value).map (rules.set (cell area year)) := by
  obtain ⟨found, stands, rfl⟩ := Option.map_eq_some_iff.mp keyed
  rw [dispatch, readArea, find_of_getElem? stands]
  dsimp only
  rw [toUInt_year inYears]
  refine congrArg (fun f => Option.map f (fromStringToTSnumber value)) (funext fun number => ?_)
  exact if_pos inYears

theorem readCluster_key {mark : Text} {clusters : Area → List Cluster} {cell : Nat → Nat → Nat → Cell}
    {area cluster year : Nat} {parts : List Text} (sorted : ∀ area, OrderedMap.Sorted Cluster.id (clusters area))
    (keyed : study.clusterKey mark clusters area cluster year = some parts) (closed : parts.getLast? ≠ some [])
    (inYears : year < study.nbYears) (value : Text)
    (dispatch : ∀ second third fourth,
      readLine study rules [mark, second, third, fourth] value = readCluster study rules clusters cell second third fourth value) :
    readLine study rules parts value = (fromStringToTSnumber value).map (rules.set (cell area cluster year)) := by
  obtain ⟨found, stands, keyed⟩ := Option.bind_eq_some_iff.mp keyed
  obtain ⟨unit, there, rfl⟩ := Option.map_eq_some_iff.mp keyed
  have nonempty : unit.id ≠ [] := fun none => closed (congrArg some none)
  rw [dispatch, readCluster, if_neg nonempty, find_of_getElem? stands]
  dsimp only
  rw [OrderedMap.find_of_getElem? (sorted found).distinct there]
  dsimp only
  rw [toUInt_year inYears]
  refine congrArg (fun f => Option.map f (fromStringToTSnumber value)) (funext fun number => ?_)
  exact if_pos inYears

theorem findExistingLinkWith_of_getElem? {area : Area} {index place : Nat} {link : Text} {other : Area × Nat}
    (stands : study.areas[index]? = some area) (there : area.links[place]? = some link) (found : study.find link = some other) :
    findExistingLinkWith (area, index) other = some (index, place) := by
  obtain ⟨otherStands, rfl⟩ := OrderedMap.of_find found
  have different : index ≠ other.2 := by
    intro same
    rw [← same, stands] at otherStands
    have itself : other.1.id ∈ area.links := List.mem_of_getElem? there
    rw [← Option.some.inj otherStands] at itself
    exact area.noLinkToItself itself
  have linked := OrderedMap.find_of_getElem? area.linksSorted.distinct there
  unfold findExistingLinkWith
  rw [if_neg different, linked]

theorem readLine_key {cell : Cell} {parts : List Text} (keyed : study.key cell = some parts) (readable : ReadableKey parts)
    (inYears : cell.year < study.nbYears) (mode : ∀ area cluster year, cell = .renewable area cluster year →
      study.renewableClusters = true) (value : Text) :
    readLine study rules parts value = (fromStringToTSnumber value).map (rules.set cell) := by
  cases cell with
  | load area year => exact readArea_key rules keyed inYears value fun _ _ => rfl
  | solar area year => exact readArea_key rules keyed inYears value fun _ _ => rfl
  | hydro area year => exact readArea_key rules keyed inYears value fun _ _ => rfl
  | wind area year => exact readArea_key rules keyed inYears value fun _ _ => rfl
  | thermal area cluster year =>
    exact readCluster_key rules Area.thermalSorted keyed readable.closed inYears value fun _ _ _ => rfl
  | renewable area cluster year =>
    refine readCluster_key rules Area.renewableSorted keyed readable.closed inYears value fun second third fourth => ?_
    exact if_pos (mode area cluster year rfl)
  | linksNTC index place year =>
    replace inYears : year < study.nbYears := inYears
    obtain ⟨area, stands, keyed⟩ := Option.bind_eq_some_iff.mp keyed
    obtain ⟨link, there, rfl⟩ := Option.map_eq_some_iff.mp keyed
    obtain ⟨other, member, same⟩ := study.linksToAreas area (List.mem_of_getElem? stands) link (List.mem_of_getElem? there)
    obtain ⟨otherIndex, otherStands⟩ := List.mem_iff_getElem?.mp member
    have found : study.find link = some (other, otherIndex) := same ▸ find_of_getElem? otherStands
    have dispatch : readLine study rules [['n', 't', 'c'], area.id, link, Text.decimal year] value =
        readLink study rules area.id link (Text.decimal year) value := rfl
    rw [dispatch, readLink, find_of_getElem? stands, found]
    dsimp only
    rw [findExistingLinkWith_of_getElem? stands there found]
    dsimp only
    rw [toUInt_year inYears]
    refine congrArg (fun f => Option.map f (fromStringToTSnumber value)) (funext fun number => ?_)
    exact if_pos inYears
  | bindingConstraints group year =>
    replace inYears : year < study.nbYears := inYears
    simp only [Study.key] at keyed
    split_ifs at keyed with known
    obtain rfl := Option.some.inj keyed
    have whole : group.takeWhile (fun c => c != Char.ofNat 0) = group := by
      refine List.takeWhile_eq_self_iff.mpr fun c member => bne_iff_ne.mpr ?_
      have part := readable.readable group (by simp)
      exact (isReadable_iff.mp (part.chars c member)).2.2.2.2.1
    have dispatch : readLine study rules [['b', 'c'], group, Text.decimal year] value =
        readBindingConstraints study rules group (Text.decimal year) value := rfl
    rw [dispatch, readBindingConstraints, Text.stoi_decimal (year_lt inYears)]
    dsimp only
    rw [whole, if_pos known]
    have inBounds : (0 : Int) ≤ (year : Int) ∧ (year : Int) < study.nbYears :=
      ⟨Int.natCast_nonneg year, Int.ofNat_lt.mpr inYears⟩
    cases fromStringToTSnumber value with
    | none => rfl
    | some number => exact if_pos inBounds

theorem readLine_levelKey {area year : Nat} {parts : List Text} (keyed : study.levelKey area year = some parts)
    (inYears : year < study.nbYears) (value : Text) :
    readLine study rules parts value = (fromStringToHydroLevel value).map (rules.setLevel area year) := by
  obtain ⟨found, stands, rfl⟩ := Option.map_eq_some_iff.mp keyed
  have dispatch : readLine study rules [['h', 'l'], found.id, Text.decimal year] value =
      readHydroLevels study rules found.id (Text.decimal year) value := rfl
  rw [dispatch, readHydroLevels, find_of_getElem? stands]
  dsimp only
  rw [toUInt_year inYears]
  refine congrArg (fun f => Option.map f (fromStringToHydroLevel value)) (funext fun level => ?_)
  exact if_pos inYears

/-- What a line can do: nothing, or a write to a place whose key can be read. -/
inductive Reads (study : Study) (rules : Rules) : Rules → Prop where
  | nothing : Reads study rules rules
  | number {cell : Cell} {parts : List Text} (keyed : study.key cell = some parts) (readable : ReadableKey parts)
      (inYears : cell.year < study.nbYears) (value : TSNumber) : Reads study rules (rules.set cell value)
  | level {area year : Nat} {parts : List Text} (keyed : study.levelKey area year = some parts) (readable : ReadableKey parts)
      (inYears : year < study.nbYears) {level : Option Level}
      (normal : ∀ v ∈ level, v.val = 0 ∨ Text.leastNormal ≤ v.val) : Reads study rules (rules.setLevel area year level)

section
variable {rules} {read : Rules}

theorem readable_year {year : Nat} (inYears : year < study.nbYears) : Readable (Text.decimal year) := by
  refine readable_decimal (lt_trans (year_lt inYears) ?_)
  calc 2 ^ 31 < 10 ^ 10 := by decide
    _ ≤ 10 ^ areaNameSize := Nat.pow_le_pow_right (by decide) (by decide)

theorem readableKey_year {front : List Text} {year : Nat} (readable : ∀ part ∈ front, Readable part)
    (inYears : year < study.nbYears) : ReadableKey (front ++ [Text.decimal year]) where
  readable part member := by
    rcases List.mem_append.mp member with inFront | isYear
    · exact readable part inFront
    · exact List.mem_singleton.mp isYear ▸ readable_year inYears
  closed none := by
    rw [List.getLast?_concat] at none
    exact Text.decimal_ne_nil year (Option.some.inj none)

theorem reads_setTSnumber {cell : Cell} {parts : List Text} {year : Nat} (same : cell.year = year)
    (keyed : study.key cell = some parts) (readable : year < study.nbYears → ReadableKey parts) (value : TSNumber) :
    Reads study rules (rules.setTSnumber study cell year value) := by
  unfold setTSnumber
  split_ifs with inYears
  · exact Reads.number keyed (readable inYears) (same ▸ inYears) value
  · exact Reads.nothing

section
variable {second third value : Text} (readable : Readable second)
include readable

theorem reads_readArea {mark : Text} {cell : Nat → Nat → Cell} (markReadable : Readable mark)
    (key : ∀ area year, study.key (cell area year) = study.areaKey mark area year)
    (same : ∀ area year, (cell area year).year = year)
    (result : readArea study rules cell second third value = some read) : Reads study rules read := by
  unfold readArea at result
  cases found : study.find second with
  | none =>
    rw [found] at result
    exact Option.some.inj result ▸ Reads.nothing
  | some area =>
    rw [found] at result
    obtain ⟨number, -, rfl⟩ := Option.map_eq_some_iff.mp result
    obtain ⟨stands, rfl⟩ := OrderedMap.of_find found
    have keyed : study.key (cell area.2 (toUInt third)) = some ([mark, area.1.id] ++ [Text.decimal (toUInt third)]) := by
      rw [key, Study.areaKey, stands]
      rfl
    have both : ∀ part ∈ [mark, area.1.id], Readable part := by
      simp [markReadable, readable]
    exact reads_setTSnumber (same _ _) keyed (fun inYears => readableKey_year both inYears) number

theorem reads_readCluster {mark fourth : Text} {clusters : Area → List Cluster} {cell : Nat → Nat → Nat → Cell}
    (markReadable : Readable mark) (fourthReadable : Readable fourth)
    (key : ∀ area cluster year, study.key (cell area cluster year) = study.clusterKey mark clusters area cluster year)
    (same : ∀ area cluster year, (cell area cluster year).year = year)
    (result : readCluster study rules clusters cell second third fourth value = some read) : Reads study rules read := by
  unfold readCluster at result
  split_ifs at result with none
  · exact Option.some.inj result ▸ Reads.nothing
  cases found : study.find second with
  | none =>
    rw [found] at result
    exact Option.some.inj result ▸ Reads.nothing
  | some area =>
    rw [found] at result
    dsimp only at result
    cases listed : OrderedMap.find Cluster.id (clusters area.1) fourth with
    | none =>
      rw [listed] at result
      exact Option.some.inj result ▸ Reads.nothing
    | some cluster =>
      rw [listed] at result
      obtain ⟨number, -, rfl⟩ := Option.map_eq_some_iff.mp result
      obtain ⟨stands, rfl⟩ := OrderedMap.of_find found
      obtain ⟨there, rfl⟩ := OrderedMap.of_find listed
      have keyed : study.key (cell area.2 cluster.2 (toUInt third)) =
          some [mark, area.1.id, Text.decimal (toUInt third), cluster.1.id] := by
        rw [key, Study.clusterKey, stands, Option.bind_some, there]
        rfl
      refine reads_setTSnumber (same _ _ _) keyed (fun inYears => ⟨?_, ?_⟩) number
      · simp [markReadable, readable, fourthReadable, readable_year inYears]
      · exact fun last => none (Option.some.inj last)

theorem reads_readHydroLevels (result : readHydroLevels study rules second third value = some read) :
    Reads study rules read := by
  unfold readHydroLevels at result
  cases found : study.find second with
  | none =>
    rw [found] at result
    exact Option.some.inj result ▸ Reads.nothing
  | some area =>
    rw [found] at result
    obtain ⟨level, scanned, rfl⟩ := Option.map_eq_some_iff.mp result
    obtain ⟨stands, rfl⟩ := OrderedMap.of_find found
    split_ifs with inYears
    · have keyed : study.levelKey area.2 (toUInt third) =
          some ([['h', 'l'], area.1.id] ++ [Text.decimal (toUInt third)]) := by
        rw [Study.levelKey, Study.areaKey, stands]
        rfl
      have both : ∀ part ∈ [['h', 'l'], area.1.id], Readable part := by
        have mark : Readable ['h', 'l'] := by decide
        simp [mark, readable]
      refine Reads.level keyed (readableKey_year both inYears) inYears fun v present => ?_
      exact fromStringToHydroLevel_normal (scanned.trans (congrArg some (Option.mem_def.mp present)))
    · exact Reads.nothing

theorem reads_readLink {fourth : Text} (thirdReadable : Readable third)
    (result : readLink study rules second third fourth value = some read) : Reads study rules read := by
  unfold readLink at result
  cases foundFrom : study.find second with
  | none =>
    rw [foundFrom] at result
    exact Option.some.inj result ▸ Reads.nothing
  | some fromArea =>
    cases foundTo : study.find third with
    | none =>
      rw [foundFrom, foundTo] at result
      exact Option.some.inj result ▸ Reads.nothing
    | some toArea =>
      rw [foundFrom, foundTo] at result
      dsimp only at result
      cases linked : findExistingLinkWith fromArea toArea with
      | none =>
        rw [linked] at result
        exact Option.some.inj result ▸ Reads.nothing
      | some link =>
        rw [linked] at result
        obtain ⟨number, -, rfl⟩ := Option.map_eq_some_iff.mp result
        obtain ⟨fromStands, rfl⟩ := OrderedMap.of_find foundFrom
        obtain ⟨toStands, rfl⟩ := OrderedMap.of_find foundTo
        have write {area other : Area × Nat} (areaReadable : Readable area.1.id) (otherReadable : Readable other.1.id)
            (stands : study.areas[area.2]? = some area.1) {place : Nat} (there : area.1.links[place]? = some other.1.id) :
            Reads study rules (rules.setTSnumber study (.linksNTC area.2 place (toUInt fourth)) (toUInt fourth) number) := by
          have keyed : study.key (.linksNTC area.2 place (toUInt fourth)) =
              some ([['n', 't', 'c'], area.1.id, other.1.id] ++ [Text.decimal (toUInt fourth)]) := by
            rw [Study.key, stands, Option.bind_some, there]
            rfl
          have all : ∀ part ∈ [['n', 't', 'c'], area.1.id, other.1.id], Readable part := by
            have mark : Readable ['n', 't', 'c'] := by decide
            simp [mark, areaReadable, otherReadable]
          exact reads_setTSnumber rfl keyed (fun inYears => readableKey_year all inYears) number
        unfold findExistingLinkWith at linked
        split_ifs at linked
        cases direct : OrderedMap.find (fun link : Text => link) fromArea.1.links toArea.1.id with
        | some found =>
          rw [direct] at linked
          obtain rfl := Option.some.inj linked
          obtain ⟨there, same⟩ := OrderedMap.of_find direct
          exact write readable thirdReadable fromStands (same ▸ there)
        | none =>
          rw [direct] at linked
          obtain ⟨found, indirect, rfl⟩ := Option.map_eq_some_iff.mp linked
          obtain ⟨there, same⟩ := OrderedMap.of_find indirect
          exact write thirdReadable readable toStands (same ▸ there)

theorem reads_readBindingConstraints (result : readBindingConstraints study rules second third value = some read) :
    Reads study rules read := by
  unfold readBindingConstraints at result
  cases scanned : Text.stoi third with
  | none =>
    rw [scanned] at result
    exact absurd result (by simp)
  | some year =>
    rw [scanned] at result
    dsimp only at result
    by_cases known : (second.takeWhile fun c => c != Char.ofNat 0) ∈ study.groups
    · rw [if_pos known] at result
      cases number : fromStringToTSnumber value with
      | none =>
        rw [number] at result
        exact absurd result (by simp)
      | some tsNumber =>
        rw [number] at result
        dsimp only at result
        split_ifs at result with inBounds
        obtain rfl := Option.some.inj result
        have inYears : year.toNat < study.nbYears := by omega
        have keyed : study.key (.bindingConstraints (second.takeWhile fun c => c != Char.ofNat 0) year.toNat) =
            some ([['b', 'c'], second.takeWhile fun c => c != Char.ofNat 0] ++ [Text.decimal year.toNat]) := if_pos known
        have group : Readable (second.takeWhile fun c => c != Char.ofNat 0) :=
          ⟨fun c member => readable.chars c ((List.takeWhile_prefix _).subset member),
            (List.takeWhile_prefix _).length_le.trans readable.short⟩
        have both : ∀ part ∈ [['b', 'c'], second.takeWhile fun c => c != Char.ofNat 0], Readable part := by
          have mark : Readable ['b', 'c'] := by decide
          simp [mark, group]
        exact Reads.number keyed (readableKey_year both inYears) inYears tsNumber
    · rw [if_neg known] at result
      exact Option.some.inj result ▸ Reads.nothing

end

theorem reads_ite {c : Prop} [Decidable c] {first second : Option Rules} (yes : first = some read → Reads study rules read)
    (no : second = some read → Reads study rules read) (result : (if c then first else second) = some read) :
    Reads study rules read := by
  by_cases taken : c
  · exact yes ((if_pos taken).symm.trans result)
  · exact no ((if_neg taken).symm.trans result)

theorem readLine_reads {parts : List Text} {value : Text} (readable : ∀ part ∈ parts, Readable part)
    (result : readLine study rules parts value = some read) : Reads study rules read := by
  unfold readLine at result
  split at result
  case h_2 => exact Option.some.inj result ▸ Reads.nothing
  case h_1 kind second third rest =>
    have secondReadable := readable second (by simp)
    have thirdReadable := readable third (by simp)
    have fourthReadable {fourth : Text} (first : rest.head? = some fourth) : Readable fourth :=
      readable fourth (by simp [List.mem_of_mem_head? first])
    apply reads_ite ?nothing (reads_ite ?thermal (reads_ite ?renewable (reads_ite ?load (reads_ite ?wind (reads_ite ?hydro
      (reads_ite ?solar (reads_ite ?hydroLevels (reads_ite ?links (reads_ite ?bindingConstraints ?nothing))))))))) result
    case nothing =>
      intro result
      exact Option.some.inj result ▸ Reads.nothing
    case thermal =>
      intro result
      obtain ⟨fourth, first, result⟩ := Option.bind_eq_some_iff.mp result
      exact reads_readCluster secondReadable (show Readable ['t'] by decide) (fourthReadable first) (fun _ _ _ => rfl)
        (fun _ _ _ => rfl) result
    case renewable =>
      intro result
      obtain ⟨fourth, first, result⟩ := Option.bind_eq_some_iff.mp result
      unfold readRenewableCluster at result
      split_ifs at result
      · exact reads_readCluster secondReadable (show Readable ['r'] by decide) (fourthReadable first) (fun _ _ _ => rfl)
          (fun _ _ _ => rfl) result
      · exact Option.some.inj result ▸ Reads.nothing
    case load => exact reads_readArea secondReadable (show Readable ['l'] by decide) (fun _ _ => rfl) (fun _ _ => rfl)
    case wind => exact reads_readArea secondReadable (show Readable ['w'] by decide) (fun _ _ => rfl) (fun _ _ => rfl)
    case hydro => exact reads_readArea secondReadable (show Readable ['h'] by decide) (fun _ _ => rfl) (fun _ _ => rfl)
    case solar => exact reads_readArea secondReadable (show Readable ['s'] by decide) (fun _ _ => rfl) (fun _ _ => rfl)
    case hydroLevels => exact reads_readHydroLevels secondReadable
    case links =>
      intro result
      obtain ⟨fourth, first, result⟩ := Option.bind_eq_some_iff.mp result
      exact reads_readLink secondReadable thirdReadable result
    case bindingConstraints => exact reads_readBindingConstraints secondReadable

end

end Rules

end Antares.ScenarioBuilder
