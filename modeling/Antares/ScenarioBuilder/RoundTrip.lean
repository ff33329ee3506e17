import Antares.ScenarioBuilder.Readers

/-! The file of the rulesets, read back: each ruleset becomes a section with one property a line, and each
section becomes a ruleset. What comes back is what was saved, exactly when every name that is written
survives in its key.
-/

set_option autoImplicit false

namespace Antares.ScenarioBuilder

open Library Data

/-- The names that stand between brackets, and come back from there. -/
structure ReadableName (name : Text) : Prop where
  nonempty : name ≠ []
  trimmed : Text.trim isTabOrSpace name = name
  noBracket : ']' ∉ name
  noEnd : Char.ofNat 0 ∉ name
  noLine : '\n' ∉ name.dropLast

def Entry.property (entry : Entry) : IniFile.Property where
  key := [','].intercalate entry.parts
  value := entry.value

namespace Entry.Sound

variable {entry : Entry} (sound : entry.Sound)
include sound

theorem analyzeIniLine_line (last : IniFile.Section) (others : List IniFile.Section) :
    IniFile.analyzeIniLine (last :: others) entry.line =
      { last with properties := last.properties ++ [entry.property] } :: others := by
  have valueText : ∀ c ∈ entry.blank ++ entry.value, c ≠ Char.ofNat 0 ∧ c ≠ '\n' ∧ c ≠ '\r' := by
    intro c member
    rcases List.mem_append.mp member with inBlank | inValue
    · rw [isBlank_of_mem_blank inBlank]
      decide
    · rcases isNumberChar_cases (sound.value.2 c inValue) with isDigit | rfl | rfl | rfl
      · exact ⟨Text.ne_of_isDigit isDigit rfl, Text.ne_of_isDigit isDigit rfl, Text.ne_of_isDigit isDigit rfl⟩
      all_goals decide
  have nonempty : entry.blank ++ entry.value ≠ [] := List.append_ne_nil_of_right_ne_nil _ sound.value.1
  unfold Entry.line
  rw [IniFile.analyzeIniLine_property _ sound.keyText valueText, IniFile.addProperty, if_neg nonempty, sound.property_eq]
  rfl

theorem readInto_line (sections : List IniFile.Section) (rest : Text) :
    IniFile.readInto sections (entry.line ++ rest) = IniFile.readInto (IniFile.analyzeIniLine sections entry.line) rest := by
  have shape : entry.line = (entry.key ++ '=' :: (entry.blank ++ entry.value)) ++ ['\n'] := by
    simp [Entry.line]
  have whole : '\n' ∉ entry.key ++ '=' :: (entry.blank ++ entry.value) := by
    intro member
    rcases List.mem_append.mp member with inKey | inRest
    · rcases List.mem_append.mp inKey with inParts | inBlank
      · rcases sound.of_mem inParts with same | readable
        · exact absurd same (by decide)
        · exact (isReadable_iff.mp readable).2.2.2.1 rfl
      · exact absurd (isBlank_of_mem_blank inBlank) (by decide)
    · rcases List.mem_cons.mp inRest with same | inRest
      · exact absurd same (by decide)
      · rcases List.mem_append.mp inRest with inBlank | inValue
        · exact absurd (isBlank_of_mem_blank inBlank) (by decide)
        · exact absurd (sound.value.2 _ inValue) (by decide)
  have short : (entry.key ++ '=' :: (entry.blank ++ entry.value)).length + 1 < IniFile.lineHardLimit := by
    have key := sound.length_intercalate
    have value := sound.short
    have blank := @length_blank_le entry
    have names : areaNameSize = 128 := rfl
    have limit : IniFile.lineHardLimit = 2048 := rfl
    have split : entry.key.length = ([','].intercalate entry.parts).length + entry.blank.length := List.length_append
    rw [List.length_append, List.length_cons, List.length_append]
    omega
  rw [shape, List.append_assoc, List.singleton_append]
  exact IniFile.readInto_line sections rest whole short

end Entry.Sound

theorem readInto_entries {entries : List Entry} (sound : ∀ entry ∈ entries, entry.Sound) (last : IniFile.Section)
    (others : List IniFile.Section) (rest : Text) :
    IniFile.readInto (last :: others) (entries.flatMap Entry.line ++ rest) =
      IniFile.readInto ({ last with properties := last.properties ++ entries.map Entry.property } :: others) rest := by
  induction entries generalizing last with
  | nil => simp
  | cons entry entries later =>
    have first := sound entry List.mem_cons_self
    rw [List.flatMap_cons, List.append_assoc, first.readInto_line, first.analyzeIniLine_line,
      later (fun other member => sound other (List.mem_cons_of_mem _ member)), List.append_assoc]
    rfl

theorem readInto_header {name : RulesScenarioName} (readable : ReadableName name.val) (sections : List IniFile.Section)
    (rest : Text) :
    IniFile.readInto sections ('[' :: name.val ++ ']' :: '\n' :: rest) =
      IniFile.readInto ({ name := name.val, properties := [] } :: sections) rest := by
  have nameText : ∀ c ∈ name.val, c ≠ Char.ofNat 0 ∧ c ≠ ']' := fun c member =>
    ⟨fun same => readable.noEnd (same ▸ member), fun same => readable.noBracket (same ▸ member)⟩
  have small : name.val.length ≤ 64 := name.property
  have limit : IniFile.lineHardLimit = 2048 := rfl
  have added : IniFile.addSection sections name.val = { name := name.val, properties := [] } :: sections := by
    rw [IniFile.addSection, if_neg readable.nonempty, List.take_of_length_le (small.trans (by decide))]
  by_cases ends : '\n' ∈ name.val
  · -- The name ends its own line; the bracket that closes it is on the next one.
    obtain ⟨front, last, split⟩ := (List.eq_nil_or_concat name.val).resolve_left readable.nonempty
    have noLine := readable.noLine
    rw [split, List.concat_eq_append] at ends noLine
    rw [List.dropLast_concat] at noLine
    obtain rfl : last = '\n' := by
      rcases List.mem_append.mp ends with inFront | same
      · exact absurd inFront noLine
      · exact (List.mem_singleton.mp same).symm
    rw [List.concat_eq_append] at split
    have shape : '[' :: name.val ++ ']' :: '\n' :: rest = ('[' :: front) ++ '\n' :: ([']'] ++ '\n' :: rest) := by
      rw [split]
      simp
    have opened : IniFile.analyzeIniLine sections (('[' :: front) ++ ['\n']) = IniFile.addSection sections name.val := by
      have := IniFile.analyzeIniLine_unclosed sections nameText
      rwa [split] at this ⊢
    have wholeFirst : '\n' ∉ '[' :: front := fun member => noLine ((List.mem_cons.mp member).resolve_left (by decide))
    have shortFirst : ('[' :: front).length + 1 < IniFile.lineHardLimit := by
      have := congrArg List.length split
      rw [List.length_append, List.length_singleton] at this
      rw [List.length_cons]
      omega
    rw [shape, IniFile.readInto_line _ _ wholeFirst shortFirst, opened, added,
      IniFile.readInto_line _ _ (by decide) (by decide), IniFile.analyzeIniLine_of_nothing _ (by decide)]
  · have shape : '[' :: name.val ++ ']' :: '\n' :: rest = ('[' :: name.val ++ [']']) ++ '\n' :: rest := by simp
    have whole : '\n' ∉ '[' :: name.val ++ [']'] := by simp [ends]
    have short : ('[' :: name.val ++ [']']).length + 1 < IniFile.lineHardLimit := by
      rw [List.length_append, List.length_cons, List.length_singleton]
      omega
    rw [shape, IniFile.readInto_line _ _ whole short]
    have closed := IniFile.analyzeIniLine_section sections ['\n'] nameText
    rw [show '[' :: name.val ++ [']'] ++ ['\n'] = '[' :: name.val ++ ']' :: ['\n'] by simp, closed, added]

namespace Rules

def section' (study : Study) (rules : Rules) : IniFile.Section where
  name := rules.name.val
  properties := (entries study rules).map Entry.property

variable {study : Study} {rules : Rules}

theorem readInto_saveToINIFile (readable : ReadableName rules.name.val) (sound : ∀ entry ∈ entries study rules, entry.Sound)
    (sections : List IniFile.Section) (rest : Text) :
    IniFile.readInto sections (saveToINIFile study rules ++ rest) = IniFile.readInto (section' study rules :: sections) rest := by
  have shape : saveToINIFile study rules ++ rest =
      '[' :: rules.name.val ++ ']' :: '\n' :: ((entries study rules).flatMap Entry.line ++ ([] ++ '\n' :: rest)) := by
    simp [saveToINIFile]
  rw [shape, readInto_header readable, readInto_entries sound,
    IniFile.readInto_line _ _ List.not_mem_nil (by decide), IniFile.analyzeIniLine_of_nothing _ (by decide)]
  rfl

end Rules

theorem readInto_flatMap {study : Study} {listed : List Rules} (readable : ∀ rules ∈ listed, ReadableName rules.name.val)
    (sound : ∀ rules ∈ listed, ∀ entry ∈ Rules.entries study rules, entry.Sound) (sections : List IniFile.Section) :
    IniFile.readInto sections (listed.flatMap (Rules.saveToINIFile study)) =
      (listed.map (Rules.section' study)).reverse ++ sections := by
  induction listed generalizing sections with
  | nil => rfl
  | cons rules listed later =>
    rw [List.flatMap_cons, Rules.readInto_saveToINIFile (readable rules List.mem_cons_self) (sound rules List.mem_cons_self),
      later (fun other member => readable other (List.mem_cons_of_mem _ member))
        (fun other member => sound other (List.mem_cons_of_mem _ member)), List.map_cons, List.reverse_cons,
      List.append_assoc]
    rfl

namespace Rules

variable {study : Study} {rules : Rules}

structure Fits (study : Study) (rules : Rules) : Prop where
  numbers : ∀ cell, rules.numbers cell ≠ TSNumber.auto → cell.year < study.nbYears ∧ study.key cell ≠ none
  levels : ∀ area year, rules.hydroLevels area year ≠ none → year < study.nbYears ∧ study.levelKey area year ≠ none

/-- Every number and level has a key that can be read, and every level is a number that can be read. -/
structure Readable (study : Study) (rules : Rules) : Prop where
  name : ReadableName rules.name.val
  numbers : ∀ cell, rules.numbers cell ≠ TSNumber.auto → ∀ parts ∈ study.key cell, ReadableKey parts
  levels : ∀ area year, rules.hydroLevels area year ≠ none → ∀ parts ∈ study.levelKey area year, ReadableKey parts

def ClustersMode (study : Study) (rules : Rules) : Prop :=
  ∀ area cluster year, rules.numbers (.renewable area cluster year) ≠ TSNumber.auto → study.renewableClusters = true

def InRange (rules : Rules) : Prop := ∀ area year, ∀ level ∈ rules.hydroLevels area year, level.InRange

def printed (rules : Rules) : Rules :=
  { rules with hydroLevels := fun area year => (rules.hydroLevels area year).map Level.printed }

theorem tight_mark {first last : Text} {c : Char} (head : first.head? = some c) (kept : isBlank c = false)
    (front : List Text) (tight : Text.Tight isBlank last) : Text.Tight isBlank ([','].intercalate (first :: (front ++ [last]))) := by
  obtain ⟨middle, split⟩ := @Text.intercalate_ends ',' first last front
  rw [split]
  exact Text.tight_append ⟨c, head, kept⟩ tight.right

theorem tight_decimal (n : Nat) : Text.Tight isBlank (Text.decimal n) :=
  Text.tight_of_forall (Text.decimal_ne_nil n) fun _ member => isBlank_of_isDigit (Text.isDigit_of_mem_decimal member)

theorem tight_areaKey {mark : Text} {c : Char} (head : mark.head? = some c) (kept : isBlank c = false) {area year : Nat}
    {parts : List Text} (keyed : study.areaKey mark area year = some parts) :
    parts.length ≤ 4 ∧ Text.Tight isBlank ([','].intercalate parts) := by
  obtain ⟨found, -, rfl⟩ := Option.map_eq_some_iff.mp keyed
  exact ⟨by simp, tight_mark head kept [found.id] (tight_decimal year)⟩

theorem tight_clusterKey {mark : Text} {c : Char} (head : mark.head? = some c) (kept : isBlank c = false)
    {clusters : Area → List Cluster} {area cluster year : Nat} {parts : List Text}
    (keyed : study.clusterKey mark clusters area cluster year = some parts) (closed : parts.getLast? ≠ some []) :
    parts.length ≤ 4 ∧ Text.Tight isBlank ([','].intercalate parts) := by
  obtain ⟨found, -, keyed⟩ := Option.bind_eq_some_iff.mp keyed
  obtain ⟨unit, -, rfl⟩ := Option.map_eq_some_iff.mp keyed
  have nonempty : unit.id ≠ [] := fun none => closed (congrArg some none)
  have tight : Text.Tight isBlank unit.id := Text.tight_of_trim_eq (isId_transformNameIntoID unit.name).trimmed nonempty
  exact ⟨by simp, tight_mark head kept [found.id, Text.decimal year] tight⟩

theorem tight_key {cell : Cell} {parts : List Text} (keyed : study.key cell = some parts) (readable : ReadableKey parts) :
    parts.length ≤ 4 ∧ Text.Tight isBlank ([','].intercalate parts) := by
  cases cell with
  | load area year => exact tight_areaKey rfl (by decide) keyed
  | solar area year => exact tight_areaKey rfl (by decide) keyed
  | hydro area year => exact tight_areaKey rfl (by decide) keyed
  | wind area year => exact tight_areaKey rfl (by decide) keyed
  | thermal area cluster year => exact tight_clusterKey rfl (by decide) keyed readable.closed
  | renewable area cluster year => exact tight_clusterKey rfl (by decide) keyed readable.closed
  | linksNTC index place year =>
    obtain ⟨area, -, keyed⟩ := Option.bind_eq_some_iff.mp keyed
    obtain ⟨link, -, rfl⟩ := Option.map_eq_some_iff.mp keyed
    exact ⟨by simp, tight_mark (c := 'n') rfl (by decide) [area.id, link] (tight_decimal year)⟩
  | bindingConstraints group year =>
    simp only [Study.key] at keyed
    split_ifs at keyed
    obtain rfl := Option.some.inj keyed
    exact ⟨by simp, tight_mark (c := 'b') rfl (by decide) [group] (tight_decimal year)⟩

theorem length_pos_of_tight {parts : List Text} (tight : Text.Tight isBlank ([','].intercalate parts)) : 0 < parts.length := by
  obtain ⟨c, head, -⟩ := tight.left
  cases parts with
  | nil => exact absurd head (by simp)
  | cons part parts => exact Nat.succ_pos _

theorem sound_numberLine {cell : Cell} {parts : List Text} (keyed : study.key cell = some parts) (readable : ReadableKey parts)
    (value : TSNumber) : (numberLine parts (Study.spaced cell) value).Sound := by
  obtain ⟨few, tight⟩ := tight_key keyed readable
  refine ⟨readable.readable, ⟨length_pos_of_tight tight, few⟩, tight, ⟨Text.decimal_ne_nil _, fun c member => ?_⟩, ?_⟩
  · have isDigit := Text.isDigit_of_mem_decimal member
    simp [isNumberChar, isDigit]
  · refine (Text.length_decimal_le (by decide : 0 < 5) (lt_of_le_of_lt value.property ?_)).trans (by decide)
    decide

theorem sound_levelLine {area year : Nat} {parts : List Text} (keyed : study.levelKey area year = some parts)
    (readable : ReadableKey parts) {level : Level} (range : level.InRange) : (levelLine parts level).Sound := by
  obtain ⟨few, tight⟩ := tight_areaKey rfl (by decide) keyed
  refine ⟨readable.readable, ⟨length_pos_of_tight tight, few⟩, tight,
    ⟨Significant.print_ne_nil level.property.1 level.property.2, fun c member => ?_⟩, ?_⟩
  · rcases Significant.of_mem_print member with isDigit | rfl | rfl | rfl
    · simp [isNumberChar, isDigit]
    all_goals decide
  · exact (Significant.length_print_le level.property.1 level.property.2 range).trans (by decide)

theorem sound_of_mem_entries (readable : Readable study rules) (range : rules.InRange) {entry : Entry}
    (member : entry ∈ entries study rules) : entry.Sound := by
  rcases mem_entries.mp member with ⟨cell, written⟩ | ⟨area, year, written⟩
  · obtain ⟨parts, keyed, rfl⟩ := written.line
    exact sound_numberLine keyed (readable.numbers cell written.value parts keyed) _
  · obtain ⟨parts, level, keyed, present, rfl⟩ := written.line
    have readableKey := readable.levels area year (by rw [present]; exact Option.some_ne_none level) parts keyed
    exact sound_levelLine keyed readableKey (range area year level present)

section
variable (study) {target : Rules}

def readEntry (rules : Rules) (entry : Entry) : Option Rules := readLine study rules entry.parts entry.value

variable (target)

def WritesNumber (cell : Cell) (entry : Entry) : Prop :=
  ∀ rules, readEntry study rules entry = some (rules.set cell (target.numbers cell))

def WritesLevel (area year : Nat) (entry : Entry) : Prop :=
  ∀ rules, readEntry study rules entry = some (rules.setLevel area year (target.hydroLevels area year))

variable {study target}

@[simp] theorem set_numbers_self (rules : Rules) (cell : Cell) (value : TSNumber) : (rules.set cell value).numbers cell = value :=
  Function.update_self _ _ _

theorem set_numbers_of_ne (rules : Rules) {cell other : Cell} (different : other ≠ cell) (value : TSNumber) :
    (rules.set cell value).numbers other = rules.numbers other :=
  Function.update_of_ne different _ _

@[simp] theorem setLevel_hydroLevels_self (rules : Rules) (area year : Nat) (level : Option Level) :
    (rules.setLevel area year level).hydroLevels area year = level :=
  if_pos ⟨rfl, rfl⟩

/-- Entries that agree with a target leave nothing but the target, once each place is written or
was already right. The order of the entries does not matter.
-/
theorem foldlM_readEntry {entries : List Entry} {start : Rules}
    (writes : ∀ entry ∈ entries, (∃ cell, WritesNumber study target cell entry) ∨ ∃ area year, WritesLevel study target area year entry)
    (name : start.name = target.name)
    (numbers : ∀ cell, start.numbers cell = target.numbers cell ∨ ∃ entry ∈ entries, WritesNumber study target cell entry)
    (levels : ∀ area year, start.hydroLevels area year = target.hydroLevels area year ∨
      ∃ entry ∈ entries, WritesLevel study target area year entry) :
    entries.foldlM (readEntry study) start = some target := by
  induction entries generalizing start with
  | nil =>
    have same : start = target := by
      refine Rules.ext name (funext fun cell => ?_) (funext fun area => funext fun year => ?_)
      · exact (numbers cell).resolve_right (by simp)
      · exact (levels area year).resolve_right (by simp)
    rw [same]
    rfl
  | cons entry entries later =>
    obtain ⟨next, read, nextName, keptNumbers, keptLevels⟩ : ∃ next, readEntry study start entry = some next ∧
        next.name = target.name ∧
        (∀ cell, start.numbers cell = target.numbers cell → next.numbers cell = target.numbers cell) ∧
        ∀ area year, start.hydroLevels area year = target.hydroLevels area year →
          next.hydroLevels area year = target.hydroLevels area year := by
      rcases writes entry List.mem_cons_self with ⟨cell, write⟩ | ⟨area, year, write⟩
      · refine ⟨_, write start, name, fun other right => ?_, fun _ _ right => right⟩
        by_cases same : other = cell
        · rw [same, set_numbers_self]
        · rw [set_numbers_of_ne start same, right]
      · refine ⟨_, write start, name, fun _ right => right, fun otherArea otherYear right => ?_⟩
        by_cases same : otherArea = area ∧ otherYear = year
        · obtain ⟨rfl, rfl⟩ := same
          exact setLevel_hydroLevels_self _ _ _ _
        · exact (if_neg same).trans right
    rw [List.foldlM_cons, read]
    refine later (fun other member => writes other (List.mem_cons_of_mem _ member)) nextName (fun cell => ?_) fun area year => ?_
    · rcases numbers cell with right | ⟨other, member, write⟩
      · exact Or.inl (keptNumbers cell right)
      rcases List.mem_cons.mp member with rfl | member
      · rw [write start] at read
        exact Or.inl (Option.some.inj read ▸ set_numbers_self _ _ _)
      · exact Or.inr ⟨other, member, write⟩
    · rcases levels area year with right | ⟨other, member, write⟩
      · exact Or.inl (keptLevels area year right)
      rcases List.mem_cons.mp member with rfl | member
      · rw [write start] at read
        exact Or.inl (Option.some.inj read ▸ setLevel_hydroLevels_self _ _ _ _)
      · exact Or.inr ⟨other, member, write⟩

end

theorem readLines_property {listed : List Entry} (sound : ∀ entry ∈ listed, entry.Sound) (start : Rules) :
    Sets.readLines study start (listed.map Entry.property) = listed.foldlM (readEntry study) start := by
  induction listed generalizing start with
  | nil => rfl
  | cons entry listed later =>
    have split := (sound entry List.mem_cons_self).splitKey_eq
    unfold Sets.readLines at later ⊢
    rw [List.map_cons, List.foldlM_cons, List.foldlM_cons]
    have first : readLine study start (splitKey entry.property.key) entry.property.value = readEntry study start entry := by
      unfold Entry.property
      rw [split]
      rfl
    rw [first]
    exact congrArg _ (funext fun next => later (fun other member => sound other (List.mem_cons_of_mem _ member)) next)

theorem readLines_entries (fits : Fits study rules) (readable : Readable study rules) (mode : ClustersMode study rules)
    (range : rules.InRange) :
    Sets.readLines study (empty rules.name) (section' study rules).properties = some rules.printed := by
  have sound : ∀ entry ∈ entries study rules, entry.Sound := fun entry member => sound_of_mem_entries readable range member
  have numberWrites {cell : Cell} {entry : Entry} (written : NumberWritten study rules cell entry) :
      WritesNumber study rules.printed cell entry := by
    obtain ⟨parts, keyed, rfl⟩ := written.line
    intro start
    have back := fromStringToTSnumber_decimal (rules.numbers cell)
    have modes : ∀ area cluster year, cell = .renewable area cluster year → study.renewableClusters = true := by
      rintro area cluster year rfl
      exact mode area cluster year written.value
    unfold readEntry numberLine
    dsimp only
    rw [readLine_key start keyed (readable.numbers cell written.value parts keyed) written.inYears modes, back]
    rfl
  have levelWrites {area year : Nat} {entry : Entry} (written : LevelWritten study rules area year entry) :
      WritesLevel study rules.printed area year entry := by
    obtain ⟨parts, level, keyed, present, rfl⟩ := written.line
    intro start
    unfold readEntry levelLine
    dsimp only
    rw [readLine_levelKey start keyed written.inYears, fromStringToHydroLevel_print (range area year level present)]
    show some _ = some (start.setLevel area year ((rules.hydroLevels area year).map Level.printed))
    rw [present]
    rfl
  unfold section'
  dsimp only
  rw [readLines_property sound]
  refine foldlM_readEntry (fun entry member => ?_) rfl (fun cell => ?_) fun area year => ?_
  · rcases mem_entries.mp member with ⟨cell, written⟩ | ⟨area, year, written⟩
    · exact Or.inl ⟨cell, numberWrites written⟩
    · exact Or.inr ⟨area, year, levelWrites written⟩
  · by_cases auto : rules.numbers cell = TSNumber.auto
    · exact Or.inl auto.symm
    · obtain ⟨inYears, known⟩ := fits.numbers cell auto
      obtain ⟨parts, keyed⟩ := Option.ne_none_iff_exists'.mp known
      have written : NumberWritten study rules cell (numberLine parts (Study.spaced cell) (rules.numbers cell)) :=
        ⟨inYears, auto, parts, keyed, rfl⟩
      exact Or.inr ⟨_, mem_entries.mpr (Or.inl ⟨cell, written⟩), numberWrites written⟩
  · cases present : rules.hydroLevels area year with
    | none => exact Or.inl (by simp [empty, printed, present])
    | some level =>
      obtain ⟨inYears, known⟩ := fits.levels area year (by rw [present]; exact Option.some_ne_none level)
      obtain ⟨parts, keyed⟩ := Option.ne_none_iff_exists'.mp known
      have written : LevelWritten study rules area year (levelLine parts level) := ⟨inYears, parts, level, keyed, present, rfl⟩
      exact Or.inr ⟨_, mem_entries.mpr (Or.inr ⟨area, year, written⟩), levelWrites written⟩

end Rules

end Antares.ScenarioBuilder
