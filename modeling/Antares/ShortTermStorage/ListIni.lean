import Antares.Data.IniValues
import Antares.Data.SavedIni

/-! The properties of a short-term storage: how a section of `list.ini` says them, how they are checked and
how they are saved; and the file of one storage, read back: its lines, and the names that they say.
-/

set_option autoImplicit false

namespace Antares.ShortTermStorage

open Library Data

inductive Group where
  | pspOpen
  | pspClosed
  | pondage
  | battery
  | other1
  | other2
  | other3
  | other4
  | other5
  deriving DecidableEq, Repr

/-- `ST_STORAGE_PROPERTY_GROUP_ENUM`, in the order of its keys. -/
def groupEnum : List (Text × Group) :=
  [("Battery".toList, .battery), ("Other1".toList, .other1), ("Other2".toList, .other2), ("Other3".toList, .other3),
    ("Other4".toList, .other4), ("Other5".toList, .other5), ("PSP_closed".toList, .pspClosed),
    ("PSP_open".toList, .pspOpen), ("Pondage".toList, .pondage)]

def initialLevelDefault : Text.Double := .finite (1 / 2)

structure Properties where
  injectionNominalCapacity : Option Text.Double := none
  withdrawalNominalCapacity : Option Text.Double := none
  reservoirCapacity : Option Text.Double := none
  initialLevel : Text.Double := initialLevelDefault
  initialLevelOptim : Bool := false
  efficiencyFactor : Text.Double := .finite 1
  group : Group := .other1
  name : Text := []
  deriving DecidableEq, Repr

namespace Properties

variable (properties : Properties)

/-- An optional number stays as it was where the text is no number; the others do not. -/
def loadKey (property : IniFile.Property) : Properties × Bool :=
  let number := IniFile.toDouble property.value
  let optional (before : Option Text.Double) := if number.2 then some number.1 else before
  if property.key = "injectionnominalcapacity".toList then
    ({ properties with injectionNominalCapacity := optional properties.injectionNominalCapacity }, number.2)
  else if property.key = "withdrawalnominalcapacity".toList then
    ({ properties with withdrawalNominalCapacity := optional properties.withdrawalNominalCapacity }, number.2)
  else if property.key = "reservoircapacity".toList then
    ({ properties with reservoirCapacity := optional properties.reservoirCapacity }, number.2)
  else if property.key = "efficiency".toList then ({ properties with efficiencyFactor := number.1 }, number.2)
  else if property.key = "name".toList then ({ properties with name := property.value }, true)
  else if property.key = "initiallevel".toList then ({ properties with initialLevel := number.1 }, number.2)
  else if property.key = "initialleveloptim".toList then
    ({ properties with initialLevelOptim := IniFile.toBool property.value }, true)
  else if property.key = "group".toList then
    match groupEnum.lookup property.value with
    | some group => ({ properties with group := group }, true)
    | none => (properties, false)
  else (properties, false)

def newSection (properties : Properties) : IniFile.Section :=
  let optional (key : Text) (value : Option Text.Double) :=
    value.toList.map fun number => IniFile.property key (IniFile.ofDouble number)
  IniFile.newSection properties.name
    ([IniFile.property "name".toList properties.name] ++
      (groupEnum.filter fun entry => entry.2 = properties.group).map (fun entry => IniFile.property "group".toList entry.1) ++
      optional "reservoircapacity".toList properties.reservoirCapacity ++
      [IniFile.property "initiallevel".toList (IniFile.ofDouble properties.initialLevel)] ++
      optional "injectionnominalcapacity".toList properties.injectionNominalCapacity ++
      optional "withdrawalnominalcapacity".toList properties.withdrawalNominalCapacity ++
      [IniFile.property "efficiency".toList (IniFile.ofDouble properties.efficiencyFactor),
        IniFile.property "initialleveloptim".toList (IniFile.ofBool properties.initialLevelOptim)])

def saveToFolder (folder : Text) (files : Text → Option Text) : Text → Option Text :=
  Function.update files (folder ++ "/list.ini".toList) (some (IniFile.save [properties.newSection]))

def checkCapacity : Option Text.Double → Bool
  | none => false
  | some capacity => !capacity.less (.finite 0)

/-- The efficiency and the initial level are put right, the capacities are not. -/
def validate : Properties × Bool :=
  if checkCapacity properties.injectionNominalCapacity && checkCapacity properties.withdrawalNominalCapacity &&
      checkCapacity properties.reservoirCapacity then
    let efficiency :=
      if properties.efficiencyFactor.less (.finite 0) then .finite 0
      else if Text.Double.less (.finite 1) properties.efficiencyFactor then .finite 1
      else properties.efficiencyFactor
    let level :=
      if properties.initialLevel.less (.finite 0) then initialLevelDefault
      else if Text.Double.less (.finite 1) properties.initialLevel then initialLevelDefault
      else properties.initialLevel
    ({ properties with efficiencyFactor := efficiency, initialLevel := level }, true)
  else (properties, false)

def numbers : List Text.Double :=
  properties.injectionNominalCapacity.toList ++ properties.withdrawalNominalCapacity.toList ++
    properties.reservoirCapacity.toList ++ [properties.initialLevel, properties.efficiencyFactor]

theorem isSome_of_checkCapacity {capacity : Option Text.Double} (checked : checkCapacity capacity = true) :
    ∃ number, capacity = some number := by
  cases capacity with
  | none => exact absurd checked Bool.false_ne_true
  | some number => exact ⟨number, rfl⟩

theorem capacities_of_validate {properties : Properties} (valid : properties.validate.2 = true) :
    ∃ injection withdrawal reservoir, properties.injectionNominalCapacity = some injection ∧
      properties.withdrawalNominalCapacity = some withdrawal ∧ properties.reservoirCapacity = some reservoir := by
  unfold validate at valid
  split at valid
  case isTrue checked =>
    rw [Bool.and_eq_true, Bool.and_eq_true] at checked
    obtain ⟨injection, first⟩ := isSome_of_checkCapacity checked.1.1
    obtain ⟨withdrawal, second⟩ := isSome_of_checkCapacity checked.1.2
    obtain ⟨reservoir, third⟩ := isSome_of_checkCapacity checked.2
    exact ⟨injection, withdrawal, reservoir, first, second, third⟩
  case isFalse => exact absurd valid Bool.false_ne_true

theorem filter_groupEnum (group : Group) :
    ∃ name, groupEnum.filter (fun entry => entry.2 = group) = [(name, group)] ∧ groupEnum.lookup name = some group ∧
      Text.trim isBlank name = name ∧ (∀ c ∈ name, c ≠ Char.ofNat 0 ∧ c ≠ '\n' ∧ c ≠ '\r') ∧ name.length ≤ 255 := by
  cases group
  case pspOpen => exact ⟨"PSP_open".toList, by decide⟩
  case pspClosed => exact ⟨"PSP_closed".toList, by decide⟩
  case pondage => exact ⟨"Pondage".toList, by decide⟩
  case battery => exact ⟨"Battery".toList, by decide⟩
  case other1 => exact ⟨"Other1".toList, by decide⟩
  case other2 => exact ⟨"Other2".toList, by decide⟩
  case other3 => exact ⟨"Other3".toList, by decide⟩
  case other4 => exact ⟨"Other4".toList, by decide⟩
  case other5 => exact ⟨"Other5".toList, by decide⟩

def loadProperty (read : Properties) (property : IniFile.Property) : Properties :=
  if property.key = [] then read else (read.loadKey property).1

def load (properties : List IniFile.Property) : Properties := properties.foldl loadProperty {}

section
variable (read : Properties) (value : Text)

theorem loadProperty_name : read.loadProperty ⟨"name".toList, value⟩ = { read with name := value } := rfl

theorem loadProperty_optim : read.loadProperty ⟨"initialleveloptim".toList, value⟩ =
    { read with initialLevelOptim := IniFile.toBool value } := rfl

variable {value}

theorem loadProperty_group {group : Group} (found : groupEnum.lookup value = some group) :
    read.loadProperty ⟨"group".toList, value⟩ = { read with group := group } := by
  have step : read.loadProperty ⟨"group".toList, value⟩ = (match groupEnum.lookup value with
    | some group => ({ read with group := group }, true)
    | none => (read, false)).1 := rfl
  rw [step, found]

variable {number : Text.Double} (isNumber : IniFile.toDouble value = (number, true))
include isNumber

theorem loadProperty_injection : read.loadProperty ⟨"injectionnominalcapacity".toList, value⟩ =
    { read with injectionNominalCapacity := some number } := by
  simp [loadProperty, loadKey, isNumber]

theorem loadProperty_withdrawal : read.loadProperty ⟨"withdrawalnominalcapacity".toList, value⟩ =
    { read with withdrawalNominalCapacity := some number } := by
  simp [loadProperty, loadKey, isNumber]

theorem loadProperty_reservoir : read.loadProperty ⟨"reservoircapacity".toList, value⟩ =
    { read with reservoirCapacity := some number } := by
  simp [loadProperty, loadKey, isNumber]

theorem loadProperty_efficiency : read.loadProperty ⟨"efficiency".toList, value⟩ =
    { read with efficiencyFactor := number } := by
  simp [loadProperty, loadKey, isNumber]

theorem loadProperty_level : read.loadProperty ⟨"initiallevel".toList, value⟩ = { read with initialLevel := number } := by
  simp [loadProperty, loadKey, isNumber]

end

section
variable {properties : Properties} {injection withdrawal reservoir : Text.Double}
  (nameTrimmed : Text.trim isBlank properties.name = properties.name)
  (someInjection : properties.injectionNominalCapacity = some injection)
  (someWithdrawal : properties.withdrawalNominalCapacity = some withdrawal)
  (someReservoir : properties.reservoirCapacity = some reservoir)
include nameTrimmed someInjection someWithdrawal someReservoir

theorem newSection_properties : ∃ group, groupEnum.lookup group = some properties.group ∧
    (Text.trim isBlank group = group ∧ (∀ c ∈ group, c ≠ Char.ofNat 0 ∧ c ≠ '\n' ∧ c ≠ '\r') ∧ group.length ≤ 255) ∧
    properties.newSection.properties =
      [⟨"name".toList, properties.name⟩, ⟨"group".toList, group⟩, ⟨"reservoircapacity".toList, IniFile.ofDouble reservoir⟩,
        ⟨"initiallevel".toList, IniFile.ofDouble properties.initialLevel⟩,
        ⟨"injectionnominalcapacity".toList, IniFile.ofDouble injection⟩,
        ⟨"withdrawalnominalcapacity".toList, IniFile.ofDouble withdrawal⟩,
        ⟨"efficiency".toList, IniFile.ofDouble properties.efficiencyFactor⟩,
        ⟨"initialleveloptim".toList, IniFile.ofBool properties.initialLevelOptim⟩] := by
  obtain ⟨group, filtered, found, trimmed, text⟩ := filter_groupEnum properties.group
  have property {key value : Text} (same : toLower (Text.trim isBlank key) = key) (kept : Text.trim isBlank value = value) :
      IniFile.property key value = ⟨key, value⟩ := by
    unfold IniFile.property
    rw [same, kept]
  refine ⟨group, found, ⟨trimmed, text⟩, ?_⟩
  have bool : Text.trim isBlank (IniFile.ofBool properties.initialLevelOptim) = IniFile.ofBool properties.initialLevelOptim := by
    cases properties.initialLevelOptim with
    | false => decide
    | true => decide
  unfold newSection IniFile.newSection
  rw [filtered, someInjection, someWithdrawal, someReservoir]
  simp only [Option.toList_some, List.map_cons, List.map_nil, List.cons_append, List.nil_append]
  rw [property (by decide) nameTrimmed, property (by decide) trimmed, property (by decide) (IniFile.trim_ofDouble _),
    property (by decide) (IniFile.trim_ofDouble _), property (by decide) (IniFile.trim_ofDouble _),
    property (by decide) (IniFile.trim_ofDouble _), property (by decide) (IniFile.trim_ofDouble _), property (by decide) bool]

theorem load_newSection (doubles : ∀ number ∈ properties.numbers, IniFile.IsDouble number) :
    load properties.newSection.properties = properties ↔ ∀ number ∈ properties.numbers, IniFile.ReadBack number := by
  obtain ⟨group, found, -, said⟩ := newSection_properties nameTrimmed someInjection someWithdrawal someReservoir
  have numbers : properties.numbers = [injection, withdrawal, reservoir, properties.initialLevel, properties.efficiencyFactor] := by
    unfold Properties.numbers
    rw [someInjection, someWithdrawal, someReservoir]
    rfl
  rw [numbers] at doubles ⊢
  simp only [List.forall_mem_cons, List.not_mem_nil, IsEmpty.forall_iff, implies_true, and_true] at doubles ⊢
  obtain ⟨readInjection, first, sameInjection⟩ := IniFile.toDouble_ofDouble doubles.1
  obtain ⟨readWithdrawal, second, sameWithdrawal⟩ := IniFile.toDouble_ofDouble doubles.2.1
  obtain ⟨readReservoir, third, sameReservoir⟩ := IniFile.toDouble_ofDouble doubles.2.2.1
  obtain ⟨readLevel, fourth, sameLevel⟩ := IniFile.toDouble_ofDouble doubles.2.2.2.1
  obtain ⟨readEfficiency, fifth, sameEfficiency⟩ := IniFile.toDouble_ofDouble doubles.2.2.2.2
  have read : load properties.newSection.properties =
      { injectionNominalCapacity := some readInjection
        withdrawalNominalCapacity := some readWithdrawal
        reservoirCapacity := some readReservoir
        initialLevel := readLevel
        initialLevelOptim := properties.initialLevelOptim
        efficiencyFactor := readEfficiency
        group := properties.group
        name := properties.name } := by
    rw [said]
    unfold load
    rw [List.foldl_cons, loadProperty_name, List.foldl_cons, loadProperty_group _ found, List.foldl_cons,
      loadProperty_reservoir _ third, List.foldl_cons, loadProperty_level _ fourth, List.foldl_cons,
      loadProperty_injection _ first, List.foldl_cons, loadProperty_withdrawal _ second, List.foldl_cons,
      loadProperty_efficiency _ fifth, List.foldl_cons, loadProperty_optim, List.foldl_nil]
    dsimp only
    rw [IniFile.toBool_ofBool]
  rw [read, ← sameInjection, ← sameWithdrawal, ← sameReservoir, ← sameLevel, ← sameEfficiency]
  constructor
  · intro same
    have injected := congrArg injectionNominalCapacity same
    have withdrawn := congrArg withdrawalNominalCapacity same
    have reserved := congrArg reservoirCapacity same
    rw [someInjection] at injected
    rw [someWithdrawal] at withdrawn
    rw [someReservoir] at reserved
    exact ⟨Option.some.inj injected, Option.some.inj withdrawn, Option.some.inj reserved, congrArg initialLevel same,
      congrArg efficiencyFactor same⟩
  · intro ⟨injected, withdrawn, reserved, level, efficiency⟩
    rw [injected, withdrawn, reserved, level, efficiency, ← someInjection, ← someWithdrawal, ← someReservoir]

end

end Properties

end Antares.ShortTermStorage

namespace Antares.ShortTermStorage

open Library Data IniFile

structure ReadName (name : Text) : Prop where
  some : name ≠ []
  trimmed : Text.trim isBlank name = name
  text : ∀ c ∈ name, c ≠ Char.ofNat 0 ∧ c ≠ '\n' ∧ c ≠ '\r'
  short : name.length ≤ 2042

def nameLimit : Nat := 2040

def nameKey : Text := "name".toList

/-- What is said after the name: nothing of it is another name, or too long for a line. -/
structure OtherProperty (property : Property) : Prop where
  written : Written property
  short : property.saveToStream.length < lineHardLimit
  other : property.key ≠ nameKey

structure OtherKey (key : Text) : Prop where
  text : KeyText key
  line : '\n' ∉ key
  lower : toLower key = key
  trimmed : Text.trim isBlank key = key
  few : key.length ≤ 30
  other : key ≠ nameKey

structure OtherValue (value : Text) : Prop where
  text : ∀ c ∈ value, c ≠ Char.ofNat 0 ∧ c ≠ '\n' ∧ c ≠ '\r'
  trimmed : Text.trim isBlank value = value
  few : value.length ≤ 255

theorem length_saveToStream (property : Property) :
    property.saveToStream.length = property.key.length + 3 + property.value.length + 1 := by
  have mark : (" = ".toList).length = 3 := rfl
  unfold Property.saveToStream
  rw [List.length_append, List.length_append, List.length_append, mark, List.length_singleton]

theorem otherProperty {key value : Text} (isKey : OtherKey key) (isValue : OtherValue value) : OtherProperty ⟨key, value⟩ where
  written := ⟨isKey.text, isKey.line, isKey.lower, isKey.trimmed, isValue.text, isValue.trimmed⟩
  short := by
    have length := length_saveToStream ⟨key, value⟩
    have keyLength := isKey.few
    have valueLength := isValue.few
    have limit : lineHardLimit = 2048 := rfl
    dsimp only at length
    omega
  other := isKey.other

theorem otherValue_ofDouble (number : Text.Double) : OtherValue (ofDouble number) where
  text := fun _ member => (noBlank_ofDouble member).2
  trimmed := trim_ofDouble number
  few := List.length_take_le _ _

theorem otherValue_ofBool (value : Bool) : OtherValue (ofBool value) := by
  cases value with
  | false => exact ⟨by decide, by decide, by decide⟩
  | true => exact ⟨by decide, by decide, by decide⟩

section
variable {name : Text} (read : ReadName name)
include read

theorem written_name : Written ⟨nameKey, name⟩ where
  key := (⟨by decide, by decide, by decide⟩ : KeyText nameKey)
  keyLine := (by decide : '\n' ∉ nameKey)
  lower := (by decide : toLower nameKey = nameKey)
  keyTrimmed := (by decide : Text.trim isBlank nameKey = nameKey)
  value := read.text
  valueTrimmed := read.trimmed

/-- The sections after the line of a name: what the line cannot hold is read as one more line. -/
def afterName (name : Text) (sections : List Section) : List Section :=
  if name.length ≤ nameLimit then addTo sections ⟨nameKey, name⟩
  else analyzeIniLine (addTo sections ⟨nameKey, Text.trim isBlank (name.take nameLimit)⟩) (name.drop nameLimit ++ ['\n'])

theorem readInto_name (sections : List Section) (rest : Text) :
    readInto sections ((⟨nameKey, name⟩ : Property).saveToStream ++ rest) = readInto (afterName name sections) rest := by
  have written := written_name read
  have length : (⟨nameKey, name⟩ : Property).saveToStream.length = 4 + 3 + name.length + 1 := length_saveToStream _
  have limit : lineHardLimit = 2048 := rfl
  have names : nameLimit = 2040 := rfl
  unfold afterName
  rcases lt_trichotomy name.length nameLimit with short | full | long
  · rw [if_pos short.le]
    exact readInto_saved written sections rest (by omega)
  · have emptyLine := readInto_line (addTo sections ⟨nameKey, name⟩) rest (@List.not_mem_nil _ '\n') (by decide)
    rw [List.nil_append, List.nil_append, @analyzeIniLine_of_nothing _ ['\n'] (by decide)] at emptyLine
    rw [if_pos full.le, readInto_cut written sections rest full.ge rfl]
    dsimp only
    rw [← full, List.take_length, List.drop_length, read.trimmed, List.nil_append, emptyLine]
  · have rest' : '\n' ∉ name.drop nameLimit := fun member => (read.text _ (List.mem_of_mem_drop member)).2.1 rfl
    have few := read.short
    have short : (name.drop nameLimit).length + 1 < lineHardLimit := by
      rw [List.length_drop]
      omega
    rw [if_neg (not_le.mpr long), readInto_cut written sections rest long.le rfl]
    exact readInto_line _ rest rest' short

end

section
variable {properties : Properties} {injection withdrawal reservoir : Text.Double} (name : ReadName properties.name)
  (someInjection : properties.injectionNominalCapacity = some injection)
  (someWithdrawal : properties.withdrawalNominalCapacity = some withdrawal)
  (someReservoir : properties.reservoirCapacity = some reservoir)
include name someInjection someWithdrawal someReservoir

theorem newSection_others : ∃ others, properties.newSection.properties = ⟨nameKey, properties.name⟩ :: others ∧
    ∀ property ∈ others, OtherProperty property := by
  obtain ⟨group, -, ⟨trimmed, text, few⟩, said⟩ :=
    Properties.newSection_properties name.trimmed someInjection someWithdrawal someReservoir
  refine ⟨_, said, ?_⟩
  have key {key : Text} (text : Char.ofNat 0 ∉ key ∧ '[' ∉ key ∧ '=' ∉ key)
      (rest : '\n' ∉ key ∧ toLower key = key ∧ Text.trim isBlank key = key ∧ key.length ≤ 30 ∧ key ≠ nameKey) : OtherKey key :=
    ⟨⟨text.1, text.2.1, text.2.2⟩, rest.1, rest.2.1, rest.2.2.1, rest.2.2.2.1, rest.2.2.2.2⟩
  simp only [List.forall_mem_cons, List.not_mem_nil, IsEmpty.forall_iff, implies_true, and_true]
  exact ⟨otherProperty (key (by decide) (by decide)) ⟨text, trimmed, few⟩,
    otherProperty (key (by decide) (by decide)) (otherValue_ofDouble _),
    otherProperty (key (by decide) (by decide)) (otherValue_ofDouble _),
    otherProperty (key (by decide) (by decide)) (otherValue_ofDouble _),
    otherProperty (key (by decide) (by decide)) (otherValue_ofDouble _),
    otherProperty (key (by decide) (by decide)) (otherValue_ofDouble _),
    otherProperty (key (by decide) (by decide)) (otherValue_ofBool _)⟩

theorem readInto_newSection : ∃ others, properties.newSection.properties = ⟨nameKey, properties.name⟩ :: others ∧
    (∀ property ∈ others, OtherProperty property) ∧ readInto [] (save [properties.newSection]) =
      others.foldl addTo (afterName properties.name (addSection [] (title (properties.name.take sectionNameSize)))) := by
  obtain ⟨others, said, all⟩ := newSection_others name someInjection someWithdrawal someReservoir
  refine ⟨others, said, all, ?_⟩
  generalize start : afterName properties.name (addSection [] (title (properties.name.take sectionNameSize))) = sections
  have nameText : ∀ c ∈ properties.name.take sectionNameSize, c ≠ Char.ofNat 0 ∧ c ≠ '\n' := fun c member =>
    ⟨(name.text c (List.mem_of_mem_take member)).1, (name.text c (List.mem_of_mem_take member)).2.1⟩
  have emptyLine := readInto_line (others.foldl addTo sections) [] (@List.not_mem_nil _ '\n') (by decide)
  rw [List.nil_append, @analyzeIniLine_of_nothing _ ['\n'] (by decide)] at emptyLine
  have text : save [properties.newSection] = '[' :: properties.name.take sectionNameSize ++ "]\n".toList ++
      ((⟨nameKey, properties.name⟩ : Property).saveToStream ++ (others.flatMap Property.saveToStream ++ ['\n'])) := by
    unfold save
    rw [List.flatMap_singleton]
    unfold Section.saveToStream
    rw [said, if_neg (List.cons_ne_nil _ _), List.flatMap_cons]
    simp only [List.append_assoc]
    rfl
  rw [text, readInto_title nameText (List.length_take_le _ _), readInto_name name, start,
    readInto_properties (fun property member => (all property member).written) (fun property member => (all property member).short),
    emptyLine]
  rfl

theorem loaded_newSection (short : properties.name.length ≤ nameLimit) (titled : properties.name.head? ≠ some ']') :
    ∃ read, loaded (save [properties.newSection]) = [read] ∧ read.properties = properties.newSection.properties := by
  obtain ⟨others, said, -, lines⟩ := readInto_newSection name someInjection someWithdrawal someReservoir
  have some : title (properties.name.take sectionNameSize) ≠ [] := by
    obtain ⟨c, rest, shape⟩ := List.exists_cons_of_ne_nil name.some
    rw [shape] at titled ⊢
    have kept : c ≠ ']' := fun same => titled (congrArg some same)
    rw [show sectionNameSize = 255 + 1 from rfl, List.take_succ_cons, title,
      @List.takeWhile_cons_of_pos _ (fun c => c != ']') c _ (bne_iff_ne.mpr kept)]
    exact List.cons_ne_nil _ _
  unfold loaded
  rw [lines, afterName, if_pos short, addSection, if_neg some, addTo, foldl_addTo]
  refine ⟨_, rfl, ?_⟩
  rw [said]
  rfl

theorem loaded_untitled (short : properties.name.length ≤ nameLimit) (untitled : properties.name.head? = some ']') :
    loaded (save [properties.newSection]) = [] := by
  obtain ⟨others, -, -, lines⟩ := readInto_newSection name someInjection someWithdrawal someReservoir
  have none : title (properties.name.take sectionNameSize) = [] := by
    obtain ⟨c, rest, shape⟩ := List.exists_cons_of_ne_nil name.some
    rw [shape] at untitled ⊢
    obtain rfl := Option.some.inj untitled
    rfl
  unfold loaded
  rw [lines, afterName, if_pos short, addSection, if_pos none, addTo_nil, foldl_addTo_nil]
  rfl

theorem names_newSection : (valuesOf nameKey (loaded (save [properties.newSection]))).length ≤ 1 ∧
    ∀ value ∈ valuesOf nameKey (loaded (save [properties.newSection])), value.length ≤ nameLimit := by
  obtain ⟨others, -, all, lines⟩ := readInto_newSection name someInjection someWithdrawal someReservoir
  have order := valuesOf_perm nameKey (List.reverse_perm (readInto [] (save [properties.newSection])))
  unfold loaded
  rw [order.length_eq]
  simp only [order.mem_iff]
  rw [lines, valuesOf_foldl_addTo_of_ne fun property member => (all property member).other]
  generalize start : addSection [] (title (properties.name.take sectionNameSize)) = sections
  have none : valuesOf nameKey sections = [] := by
    rw [← start, valuesOf_addSection]
    rfl
  obtain ⟨value, few, one⟩ : ∃ value : Text, value.length ≤ nameLimit ∧
      (valuesOf nameKey (afterName properties.name sections) = [] ∨ valuesOf nameKey (afterName properties.name sections) = [value]) := by
    have said (value : Text) : valuesOf nameKey (addTo sections ⟨nameKey, value⟩) = [] ∨
        valuesOf nameKey (addTo sections ⟨nameKey, value⟩) = [value] :=
      @valuesOf_addTo nameKey ⟨nameKey, value⟩ rfl sections none
    unfold afterName
    split_ifs with short
    · exact ⟨properties.name, short, said _⟩
    · have few := name.short
      have cut : (properties.name.drop nameLimit ++ ['\n']).length < nameKey.length + 1 := by
        rw [List.length_append, List.length_drop]
        show _ < 4 + 1
        have names : nameLimit = 2040 := rfl
        rw [List.length_singleton]
        omega
      rw [valuesOf_of_short cut]
      exact ⟨_, (Text.length_trim_le isBlank _).trans (List.length_take_le nameLimit _), said _⟩
  rcases one with none | single
  · rw [none]
    exact ⟨Nat.zero_le 1, fun value absent => absurd absent List.not_mem_nil⟩
  · rw [single]
    refine ⟨le_rfl, fun other member => ?_⟩
    rwa [List.mem_singleton.mp member]

end

end Antares.ShortTermStorage
