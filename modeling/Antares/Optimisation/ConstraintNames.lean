import Antares.Data.Names
import Antares.Library.NumberTexts

/-! The names of the rows of the weekly problem, and what the analysis of an infeasible problem reads in the names of
its slack variables.
-/

set_option autoImplicit false

namespace Antares.Optimisation

open Library Data

namespace ConstraintNames

def separator : Text := "::".toList

def buildName (name location timeIdentifier : Text) : Text :=
  (name ++ separator ++ location ++ separator ++ timeIdentifier).map fun c => if c = ' ' then '*' else c

/-- `HOUR`, `DAY` and `WEEK` -/
inductive TimeStepType where
  | hour
  | day
  | week
  deriving DecidableEq, Repr

def TimeStepType.text : TimeStepType → Text
  | .hour => "hour".toList
  | .day => "day".toList
  | .week => "week".toList

def bindingConstraintTimeGranularity : TimeStepType → Text
  | .hour => "hourly".toList
  | .day => "daily".toList
  | .week => "weekly".toList

def timeIdentifier (timeStep : Nat) (timeStepType : TimeStepType) : Text :=
  timeStepType.text ++ "<".toList ++ Text.decimal timeStep ++ ">".toList

def locationIdentifier (location locationType : Text) : Text := locationType ++ "<".toList ++ location ++ ">".toList

structure Namer where
  timeStep : Nat
  area : Text

namespace Namer
variable (namer : Namer)

def setAreaElementName (elementType : Text) (timeStepType : TimeStepType) : Text :=
  buildName elementType (locationIdentifier namer.area "area".toList) (timeIdentifier namer.timeStep timeStepType)

def fictiveLoads : Text := namer.setAreaElementName "FictiveLoads".toList .hour

def areaHydroLevel : Text := namer.setAreaElementName "AreaHydroLevel".toList .hour

def nameWithTimeGranularity (name : Text) (type : TimeStepType) : Text :=
  buildName name (bindingConstraintTimeGranularity type) (timeIdentifier namer.timeStep type)

end Namer

/-- A slack variable of a row, below its lower bound or above its upper one. -/
def slackName (constraint : Text) (low : Bool) : Text := constraint ++ if low then "::low".toList else "::up".toList

def emplace (item : Text) : List Text := if item = [] then [] else [item]

/-- The items between the separators, from the position after the last one; an empty item is left out. -/
def extractFrom : Text → Text → List Text
  | item, [] => emplace item
  | item, ':' :: ':' :: rest => emplace item ++ extractFrom [] rest
  | item, c :: rest => extractFrom (item ++ [c]) rest

/-- `mItems` of a constraint -/
def extractItems (mInput : Text) : List Text := extractFrom [] mInput

inductive DecodeError where
  | outOfRange
  | stringIsNotWellFormated (message : Text)
  deriving DecidableEq, Repr

/-- `std::quoted` -/
def quoted (text : Text) : Text :=
  '"' :: (text.flatMap fun c => if c = '"' ∨ c = '\\' then ['\\', c] else [c]) ++ ['"']

def stringBetweenAngleBrackets (str : Text) : Except DecodeError Text :=
  let left := str.idxOf '<'
  let right := str.idxOf '>'
  let error (problem : String) : Except DecodeError Text :=
    .error (.stringIsNotWellFormated ("Error the string: ".toList ++ quoted str ++ problem.toList))
  if left = str.length then error " does not contains the left angle bracket \"<\""
  else if right = str.length then error " does not contains the right angle bracket \">\""
  else if right ≤ left + 1 then error " must be of format  \"*<str>*\""
  else .ok ((str.take right).drop (left + 1))

inductive ConstraintType where
  | bindingConstraintHourly
  | bindingConstraintDaily
  | bindingConstraintWeekly
  | fictitiousLoad
  | hydroReservoirLevel
  | none
  deriving DecidableEq, Repr

section
variable (mItems : List Text)

/-- `mItems.at` -/
def itemAt (index : Nat) : Except DecodeError Text :=
  match mItems[index]? with
  | some item => .ok item
  | none => .error .outOfRange

def getType : Except DecodeError ConstraintType := do
  let location ← itemAt mItems 1
  if location = "hourly".toList then return .bindingConstraintHourly
  if location = "daily".toList then return .bindingConstraintDaily
  if location = "weekly".toList then return .bindingConstraintWeekly
  let name ← itemAt mItems 0
  if name = "FictiveLoads".toList then return .fictitiousLoad
  if name = "AreaHydroLevel".toList then return .hydroReservoirLevel
  return .none

def getAreaName : Except DecodeError Text := do
  match ← getType mItems with
  | .bindingConstraintHourly | .bindingConstraintDaily | .bindingConstraintWeekly => return "<none>".toList
  | _ => stringBetweenAngleBrackets (← itemAt mItems 1)

def getTimeStepInYear : Except DecodeError Text := do
  match ← getType mItems with
  | .bindingConstraintHourly | .bindingConstraintDaily | .fictitiousLoad | .hydroReservoirLevel =>
    if mItems.length < 2 then throw .outOfRange
    stringBetweenAngleBrackets (← itemAt mItems (mItems.length - 2))
  | _ => return "-1".toList

def getBindingConstraintName : Except DecodeError Text := do
  match ← getType mItems with
  | .bindingConstraintHourly | .bindingConstraintDaily | .bindingConstraintWeekly => itemAt mItems 0
  | _ => return "<unknown>".toList

end

inductive Row where
  | bindingConstraint (type : TimeStepType) (name : Text)
  | fictiveLoads (area : Text)
  | areaHydroLevel (area : Text)

namespace Row

def constraintName (timeStep : Nat) : Row → Text
  | .bindingConstraint type name => Namer.nameWithTimeGranularity ⟨timeStep, []⟩ name type
  | .fictiveLoads area => Namer.fictiveLoads ⟨timeStep, area⟩
  | .areaHydroLevel area => Namer.areaHydroLevel ⟨timeStep, area⟩

def type : Row → ConstraintType
  | .bindingConstraint .hour _ => .bindingConstraintHourly
  | .bindingConstraint .day _ => .bindingConstraintDaily
  | .bindingConstraint .week _ => .bindingConstraintWeekly
  | .fictiveLoads _ => .fictitiousLoad
  | .areaHydroLevel _ => .hydroReservoirLevel

/-- A name is not empty; the identifier of an area comes from its name. -/
def Named : Row → Prop
  | .bindingConstraint _ name => name ≠ []
  | .fictiveLoads area | .areaHydroLevel area => area ≠ [] ∧ ∃ name, area = transformNameIntoID name

end Row

def asterisks (text : Text) : Text := text.map fun c => if c = ' ' then '*' else c

/-- The kind, the name and the time step are read back from the items of a name. -/
structure Decoded (row : Row) (time : Text) (mItems : List Text) : Prop where
  type : getType mItems = .ok row.type
  name : match row with
    | .bindingConstraint _ name => getBindingConstraintName mItems = .ok (asterisks name)
    | .fictiveLoads area | .areaHydroLevel area => getAreaName mItems = .ok (asterisks area)
  timeStep : getTimeStepInYear mItems = .ok time

def Apart (first second : Char) : Prop := ¬ (first = ':' ∧ second = ':')

def Whole (item : Text) : Prop := item ≠ [] ∧ (item ++ [':']).IsChain Apart

theorem extractFrom_cons {item rest : Text} {c : Char} (apart : ∀ d ∈ rest.head?, Apart c d) :
    extractFrom item (c :: rest) = extractFrom (item ++ [c]) rest := by
  cases rest with
  | nil => simp [extractFrom]
  | cons d rest =>
    rw [extractFrom]
    rintro later rfl same
    obtain ⟨rfl, -⟩ := List.cons.inj same
    exact apart ':' rfl ⟨rfl, rfl⟩

theorem extractFrom_append {text : Text} (item rest : Text) (chain : (text ++ [':']).IsChain Apart) :
    extractFrom item (text ++ separator ++ rest) = emplace (item ++ text) ++ extractFrom [] rest := by
  induction text generalizing item with
  | nil =>
    rw [List.append_nil]
    rfl
  | cons c text ih =>
    obtain ⟨first, chain⟩ := List.isChain_cons.mp chain
    have apart : ∀ d ∈ (text ++ separator ++ rest).head?, Apart c d := by
      cases text with
      | nil => exact first
      | cons d text => exact first
    rw [List.cons_append, List.cons_append, extractFrom_cons apart, ih _ chain, List.append_assoc, List.singleton_append]

variable {item : Text}

theorem extractItems_append (whole : Whole item) (rest : Text) :
    extractItems (item ++ separator ++ rest) = item :: extractItems rest := by
  unfold extractItems
  rw [extractFrom_append [] rest whole.2, List.nil_append, emplace, if_neg whole.1]
  rfl

theorem whole_of_not_mem (some : item ≠ []) (none : ':' ∉ item) : Whole item := by
  refine ⟨some, List.isChain_append.mpr ⟨?_, List.isChain_singleton ':', ?_⟩⟩
  · refine List.isChain_iff_forall_rel_of_append_cons_cons.mpr fun first second before after same => ?_
    rintro ⟨rfl, -⟩
    exact none (same ▸ by simp)
  · rintro last found - - ⟨rfl, -⟩
    exact none (List.mem_of_mem_getLast? found)

theorem whole_of_plain (some : item ≠ []) (inside : ¬ separator <:+: item) (last : ¬ [':'] <:+ item) :
    Whole item := by
  refine ⟨some, List.isChain_append.mpr ⟨?_, List.isChain_singleton ':', ?_⟩⟩
  · refine List.isChain_iff_forall_rel_of_append_cons_cons.mpr fun first second before after same => ?_
    rintro ⟨rfl, rfl⟩
    exact inside ⟨before, after, by rw [same]; simp [separator]⟩
  · rintro final found - - ⟨rfl, -⟩
    obtain ⟨front, rfl⟩ := List.getLast?_eq_some_iff.mp found
    exact last (List.suffix_append front [':'])

theorem asterisks_append (first second : Text) : asterisks (first ++ second) = asterisks first ++ asterisks second :=
  List.map_append

theorem whole_asterisks (whole : Whole item) : Whole (asterisks item) := by
  refine ⟨by simpa [asterisks] using whole.1, ?_⟩
  have colon (c : Char) : (if c = ' ' then '*' else c) = ':' ↔ c = ':' := by
    split_ifs with blank
    · subst blank
      decide
    · rfl
  have mapped : asterisks item ++ [':'] = asterisks (item ++ [':']) := (asterisks_append item [':']).symm
  rw [mapped, asterisks, List.isChain_map]
  refine whole.2.imp fun first second apart => ?_
  unfold Apart at *
  rwa [colon, colon]

theorem asterisks_eq_self {text : Text} (none : ' ' ∉ text) : asterisks text = text := by
  refine (List.map_congr_left fun c found => if_neg ?_).trans (List.map_id text)
  rintro rfl
  exact none found

theorem stringBetweenAngleBrackets_eq {front body : Text} (leftFront : '<' ∉ front) (rightFront : '>' ∉ front)
    (some : body ≠ []) (rightBody : '>' ∉ body) :
    stringBetweenAngleBrackets (front ++ '<' :: (body ++ ['>'])) = .ok body := by
  have left : (front ++ '<' :: (body ++ ['>'])).idxOf '<' = front.length := by
    rw [List.idxOf_append_of_notMem leftFront, List.idxOf_cons_self, Nat.add_zero]
  have right : (front ++ '<' :: (body ++ ['>'])).idxOf '>' = front.length + (body.length + 1) := by
    rw [List.idxOf_append_of_notMem rightFront, List.idxOf_cons_ne _ (by decide), List.idxOf_append_of_notMem rightBody,
      List.idxOf_cons_self, Nat.add_zero]
  have more : 0 < body.length := List.length_pos_iff.mpr some
  unfold stringBetweenAngleBrackets
  simp only [left, right, List.length_append, List.length_cons, List.length_nil]
  rw [if_neg (by omega), if_neg (by omega), if_neg (by omega), List.take_append, List.take_of_length_le (by omega)]
  simp [List.drop_append]

section
variable {name location time : Text} (low : Bool)

theorem extractItems_slackName (wholeName : Whole name) (wholeLocation : Whole location) (wholeTime : Whole time) :
    extractItems (slackName (buildName name location time) low) =
      [asterisks name, asterisks location, asterisks time, if low then "low".toList else "up".toList] := by
  have built : slackName (buildName name location time) low = asterisks name ++ separator ++
      (asterisks location ++ separator ++ (asterisks time ++ separator ++ if low then "low".toList else "up".toList)) := by
    have parts : buildName name location time =
        asterisks name ++ asterisks separator ++ asterisks location ++ asterisks separator ++ asterisks time := by
      simp only [← asterisks_append]
      rfl
    have colons : asterisks separator = separator := rfl
    unfold slackName
    rw [parts, colons]
    cases low <;> simp [separator]
  rw [built, extractItems_append (whole_asterisks wholeName), extractItems_append (whole_asterisks wholeLocation),
    extractItems_append (whole_asterisks wholeTime)]
  cases low <;> rfl

end

variable {c : Char}

theorem not_mem_decimal (other : c.isDigit = false) (timeStep : Nat) : c ∉ Text.decimal timeStep :=
  fun found => absurd rfl (Text.ne_of_isDigit (Text.isDigit_of_mem_decimal found) other)

theorem not_mem_timeIdentifier (other : c.isDigit = false) {type : TimeStepType} (timeStep : Nat)
    (frame : c ∉ type.text ++ ['<', '>']) : c ∉ timeIdentifier timeStep type := by
  have inside := not_mem_decimal other timeStep
  simp only [timeIdentifier, List.mem_append, not_or] at frame ⊢
  simp at frame
  simp [frame, inside]

variable (timeStep : Nat) (type : TimeStepType)

theorem whole_timeIdentifier : Whole (timeIdentifier timeStep type) := by
  refine whole_of_not_mem ?_ (not_mem_timeIdentifier rfl timeStep (by cases type <;> decide))
  cases type <;> simp [timeIdentifier, TimeStepType.text]

theorem between_timeIdentifier :
    stringBetweenAngleBrackets (asterisks (timeIdentifier timeStep type)) = .ok (Text.decimal timeStep) := by
  rw [asterisks_eq_self (not_mem_timeIdentifier rfl timeStep (by cases type <;> decide))]
  have shape : timeIdentifier timeStep type = type.text ++ '<' :: (Text.decimal timeStep ++ ['>']) := by
    simp [timeIdentifier]
  rw [shape]
  exact stringBetweenAngleBrackets_eq (by cases type <;> decide) (by cases type <;> decide) (Text.decimal_ne_nil timeStep)
    (not_mem_decimal rfl timeStep)

theorem not_mem_transformNameIntoID (other : isNameChar c = false) (name : Text) :
    c ∉ transformNameIntoID name :=
  fun found => absurd ((isId_transformNameIntoID name).chars c found) (by rw [other]; exact Bool.false_ne_true)

theorem whole_locationIdentifier (name : Text) : Whole (locationIdentifier (transformNameIntoID name) "area".toList) := by
  refine whole_of_not_mem (by simp [locationIdentifier]) ?_
  have inside : ':' ∉ transformNameIntoID name := not_mem_transformNameIntoID (by decide) name
  simp [locationIdentifier, inside]

theorem between_locationIdentifier {name : Text} (some : transformNameIntoID name ≠ []) :
    stringBetweenAngleBrackets (asterisks (locationIdentifier (transformNameIntoID name) "area".toList)) =
      .ok (asterisks (transformNameIntoID name)) := by
  have inside : '>' ∉ transformNameIntoID name := not_mem_transformNameIntoID (by decide) name
  have shape : asterisks (locationIdentifier (transformNameIntoID name) "area".toList) =
      "area".toList ++ '<' :: (asterisks (transformNameIntoID name) ++ ['>']) := by
    simp [asterisks, locationIdentifier]
  rw [shape]
  refine stringBetweenAngleBrackets_eq (by decide) (by decide) (by simpa [asterisks] using some) ?_
  intro found
  obtain ⟨d, member, same⟩ := List.mem_map.mp found
  split_ifs at same with blank
  · exact absurd same (by decide)
  · exact inside (same ▸ member)

/-- A name without the separator, and without a colon at its end that would meet it. -/
def Row.Plain : Row → Prop
  | .bindingConstraint _ name => ¬ separator <:+: name ∧ ¬ [':'] <:+ name
  | .fictiveLoads _ | .areaHydroLevel _ => True

def Row.timeText : Row → Text
  | .bindingConstraint .week _ => "-1".toList
  | _ => Text.decimal timeStep

section
variable {name location time side : Text}

theorem getType_four : getType [name, location, time, side] = .ok (
    if location = "hourly".toList then .bindingConstraintHourly
    else if location = "daily".toList then .bindingConstraintDaily
    else if location = "weekly".toList then .bindingConstraintWeekly
    else if name = "FictiveLoads".toList then .fictitiousLoad
    else if name = "AreaHydroLevel".toList then .hydroReservoirLevel
    else .none) := by
  simp only [getType, itemAt, List.getElem?_cons_zero, List.getElem?_cons_succ, bind, Except.bind, pure, Except.pure]
  split_ifs <;> rfl

end

/-- A row of an area is known by its element type, since its location is no granularity. -/
theorem decoded_area {elementType name : Text} {type : ConstraintType} (low : Bool) (timeStep : Nat)
    (some : transformNameIntoID name ≠ []) (whole : Whole elementType) (noBlank : ' ' ∉ elementType)
    (known : elementType = "FictiveLoads".toList ∧ type = .fictitiousLoad ∨
      elementType = "AreaHydroLevel".toList ∧ type = .hydroReservoirLevel) :
    let mItems := extractItems (slackName (Namer.setAreaElementName ⟨timeStep, transformNameIntoID name⟩ elementType .hour) low)
    getType mItems = .ok type ∧ getAreaName mItems = .ok (asterisks (transformNameIntoID name)) ∧
      getTimeStepInYear mItems = .ok (Text.decimal timeStep) := by
  have head : (asterisks (locationIdentifier (transformNameIntoID name) "area".toList)).head? = Option.some 'a' := rfl
  have other {text : Text} (start : text.head? ≠ Option.some 'a') :
      asterisks (locationIdentifier (transformNameIntoID name) "area".toList) ≠ text :=
    fun same => start (same ▸ head)
  have isArea := between_locationIdentifier some
  have isTime := between_timeIdentifier timeStep .hour
  unfold Namer.setAreaElementName
  rw [extractItems_slackName low whole (whole_locationIdentifier name) (whole_timeIdentifier timeStep .hour),
    asterisks_eq_self noBlank]
  have isType (time side : Text) :
      getType [elementType, asterisks (locationIdentifier (transformNameIntoID name) "area".toList), time, side] = .ok type := by
    rw [getType_four, if_neg (other (by decide)), if_neg (other (by decide)), if_neg (other (by decide))]
    rcases known with ⟨rfl, rfl⟩ | ⟨rfl, rfl⟩ <;> rfl
  refine ⟨isType _ _, ?_, ?_⟩
  · unfold getAreaName
    rw [isType]
    rcases known with ⟨-, rfl⟩ | ⟨-, rfl⟩ <;> exact isArea
  · unfold getTimeStepInYear
    rw [isType]
    rcases known with ⟨-, rfl⟩ | ⟨-, rfl⟩ <;> exact isTime

/-- The kind, the name and the time step of a row are read back from the names of its slack variables. -/
theorem slackName_decoded (row : Row) (timeStep : Nat) (low : Bool) (named : row.Named) (plain : row.Plain) :
    Decoded row (row.timeText timeStep) (extractItems (slackName (row.constraintName timeStep) low)) := by
  have time := between_timeIdentifier timeStep
  cases row with
  | bindingConstraint type name =>
    have items := extractItems_slackName low (whole_of_plain named plain.1 plain.2)
      (whole_of_not_mem (show bindingConstraintTimeGranularity type ≠ [] by cases type <;> decide)
        (by cases type <;> decide)) (whole_timeIdentifier timeStep type)
    have granularity : asterisks (bindingConstraintTimeGranularity type) = bindingConstraintTimeGranularity type := by
      cases type <;> decide
    unfold Row.constraintName Namer.nameWithTimeGranularity
    rw [items, granularity]
    cases type with
    | hour => exact ⟨getType_four, rfl, by
      unfold getTimeStepInYear
      rw [getType_four]
      exact time .hour⟩
    | day => exact ⟨getType_four, rfl, by
      unfold getTimeStepInYear
      rw [getType_four]
      exact time .day⟩
    | week => exact ⟨getType_four, rfl, by
      unfold getTimeStepInYear
      rw [getType_four]
      rfl⟩
  | fictiveLoads area =>
    obtain ⟨some, name, rfl⟩ := named
    obtain ⟨type, areaName, time⟩ := decoded_area low timeStep some
      (whole_of_not_mem (show "FictiveLoads".toList ≠ [] by decide) (by decide)) (by decide) (.inl ⟨rfl, rfl⟩)
    exact ⟨type, areaName, time⟩
  | areaHydroLevel area =>
    obtain ⟨some, name, rfl⟩ := named
    obtain ⟨type, areaName, time⟩ := decoded_area low timeStep some
      (whole_of_not_mem (show "AreaHydroLevel".toList ≠ [] by decide) (by decide)) (by decide) (.inr ⟨rfl, rfl⟩)
    exact ⟨type, areaName, time⟩

/-- The week of the area "north sea", and a constraint that two blanks and brackets do not disturb. -/
theorem slackName_decoded_of_plain :
    Decoded (.areaHydroLevel "north sea".toList) "40".toList
        (extractItems (slackName (Row.constraintName 40 (.areaHydroLevel "north sea".toList)) true)) ∧
      Decoded (.bindingConstraint .day "a <b>: c".toList) "3".toList
        (extractItems (slackName (Row.constraintName 3 (.bindingConstraint .day "a <b>: c".toList)) false)) :=
  ⟨slackName_decoded (.areaHydroLevel "north sea".toList) 40 true
      ⟨by decide, "North Sea".toList, by decide +kernel⟩ trivial,
    slackName_decoded (.bindingConstraint .day "a <b>: c".toList) 3 false
      (show "a <b>: c".toList ≠ [] by decide) ⟨by decide +kernel, by decide +kernel⟩⟩

/-- A weekly constraint has no time step, and a name with the separator is cut. -/
theorem weekly_not_decoded :
    ¬ Decoded (.bindingConstraint .week "a".toList) "3".toList
        (extractItems (slackName (Row.constraintName 3 (.bindingConstraint .week "a".toList)) true)) ∧
      ¬ Decoded (.bindingConstraint .hour "a::b".toList) "3".toList
        (extractItems (slackName (Row.constraintName 3 (.bindingConstraint .hour "a::b".toList)) true)) := by
  constructor
  · intro decoded
    have time := decoded.timeStep
    revert time
    decide +kernel
  · intro decoded
    have name := decoded.type
    revert name
    decide +kernel

end ConstraintNames

end Antares.Optimisation
