import Antares.Data.IniFile

/-! INI files as they are saved, and what is read of them again. -/

set_option autoImplicit false

namespace Antares.Data

open Library

namespace IniFile

def Property.saveToStream (property : Property) : Text :=
  property.key ++ " = ".toList ++ property.value ++ ['\n']

def Section.saveToStream (saved : Section) : Text :=
  if saved.properties = [] then []
  else '[' :: saved.name ++ "]\n".toList ++ saved.properties.flatMap Property.saveToStream ++ ['\n']

variable (sections : List Section)

def save : Text := sections.flatMap Section.saveToStream

/-- A section that is made rather than read; its name has the same capacity. -/
def newSection (name : Text) (properties : List Property) : Section :=
  { name := name.take sectionNameSize, properties := properties }

structure Written (property : Property) : Prop where
  key : KeyText property.key
  keyLine : '\n' ∉ property.key
  lower : toLower property.key = property.key
  keyTrimmed : Text.trim isBlank property.key = property.key
  value : ∀ c ∈ property.value, c ≠ Char.ofNat 0 ∧ c ≠ '\n' ∧ c ≠ '\r'
  valueTrimmed : Text.trim isBlank property.value = property.value

def addTo (property : Property) : List Section :=
  match sections with
  | [] => []
  | last :: others => { last with properties := last.properties ++ [property] } :: others

@[simp] theorem addTo_nil (property : Property) : addTo [] property = [] := rfl

theorem foldl_addTo (last : Section) (others : List Section) (properties : List Property) :
    properties.foldl addTo (last :: others) = { last with properties := last.properties ++ properties } :: others := by
  induction properties generalizing last with
  | nil => rw [List.foldl_nil, List.append_nil]
  | cons property properties later => rw [List.foldl_cons, addTo, later, List.append_assoc, List.singleton_append]

theorem foldl_addTo_nil (properties : List Property) : properties.foldl addTo [] = [] := by
  induction properties with
  | nil => rfl
  | cons property properties later => rw [List.foldl_cons, addTo_nil, later]

theorem addProperty_eq {key value : Text} (some : value ≠ []) :
    addProperty sections key value = addTo sections (property key value) := by
  cases sections with
  | nil => rfl
  | cons last others =>
    unfold addProperty
    dsimp only
    rw [if_neg some]
    rfl

section
variable {property : Property} (written : Written property)
include written

theorem property_written : IniFile.property (property.key ++ [' ']) (' ' :: property.value) = property := by
  unfold IniFile.property
  rw [Text.trim_concat isBlank rfl, Text.trim_cons isBlank rfl, written.keyTrimmed, written.lower, written.valueTrimmed]

theorem keyText_written : KeyText (property.key ++ [' ']) := by
  have blank {c : Char} (different : c ≠ ' ') (absent : c ∉ property.key) : c ∉ property.key ++ [' '] := by
    simp [different, absent]
  exact ⟨blank (by decide) written.key.noEnd, blank (by decide) written.key.noBracket,
    blank (by decide) written.key.noEquals⟩

theorem valueText_written : ∀ c ∈ ' ' :: property.value, c ≠ Char.ofNat 0 ∧ c ≠ '\n' ∧ c ≠ '\r' := by
  intro c member
  rcases List.mem_cons.mp member with rfl | member
  · decide
  · exact written.value c member

theorem analyzeIniLine_saved (sections : List Section) :
    analyzeIniLine sections property.saveToStream = addTo sections property := by
  have shape : property.saveToStream = (property.key ++ [' ']) ++ '=' :: ((' ' :: property.value) ++ ['\n']) := by
    simp [Property.saveToStream]
  rw [shape, analyzeIniLine_property sections (keyText_written written) (valueText_written written),
    addProperty_eq sections (List.cons_ne_nil _ _), property_written written]

theorem saveToStream_eq : ∃ line, property.saveToStream = line ++ ['\n'] ∧ '\n' ∉ line := by
  use property.key ++ " = ".toList ++ property.value
  apply And.intro rfl
  intro member
  rcases List.mem_append.mp member with before | inValue
  · rcases List.mem_append.mp before with inKey | inMark
    · exact written.keyLine inKey
    · exact absurd inMark (by decide)
  · exact (written.value _ inValue).2.1 rfl

theorem readInto_saved (sections : List Section) (rest : Text) (short : property.saveToStream.length < lineHardLimit) :
    readInto sections (property.saveToStream ++ rest) = readInto (addTo sections property) rest := by
  obtain ⟨line, same, whole⟩ := saveToStream_eq written
  rw [← analyzeIniLine_saved written sections]
  rw [same] at short ⊢
  rw [List.append_assoc, List.singleton_append]
  apply readInto_line sections rest whole
  rwa [List.length_append] at short

theorem readInto_cut (sections : List Section) (rest : Text) {size : Nat} (reached : size ≤ property.value.length)
    (room : property.key.length + 3 + size + 1 = lineHardLimit) :
    readInto sections (property.saveToStream ++ rest) =
      readInto (addTo sections { property with value := Text.trim isBlank (property.value.take size) })
        (property.value.drop size ++ '\n' :: rest) := by
  have piece : property.saveToStream ++ rest =
      ((property.key ++ [' ']) ++ '=' :: (' ' :: property.value.take size)) ++ (property.value.drop size ++ '\n' :: rest) := by
    have split : property.value ++ '\n' :: rest =
        property.value.take size ++ (property.value.drop size ++ '\n' :: rest) := by
      rw [← List.append_assoc, List.take_append_drop]
    simp [Property.saveToStream, split]
  have valueText : ∀ c ∈ ' ' :: property.value.take size, c ≠ Char.ofNat 0 ∧ c ≠ '\n' ∧ c ≠ '\r' := by
    intro c member
    apply valueText_written written c
    rcases List.mem_cons.mp member with rfl | member
    · exact List.mem_cons_self
    · exact List.mem_cons_of_mem _ (List.mem_of_mem_take member)
  have whole : '\n' ∉ (property.key ++ [' ']) ++ '=' :: (' ' :: property.value.take size) := by
    intro member
    rcases List.mem_append.mp member with inKey | member
    · rcases List.mem_append.mp inKey with inKey | same
      · exact written.keyLine inKey
      · exact absurd (List.mem_singleton.mp same) (by decide)
    · rcases List.mem_cons.mp member with same | member
      · exact absurd same (by decide)
      · exact (valueText _ member).2.1 rfl
  have full : ([] : Text).length + ((property.key ++ [' ']) ++ '=' :: (' ' :: property.value.take size)).length + 1 = lineHardLimit := by
    have length : (property.value.take size).length = size := List.length_take_of_le reached
    simp only [List.length_append, List.length_cons, List.length_nil, length]
    omega
  have kept : (' ' :: property.value.take size).takeWhile (fun c => c != '\n' && c != '\r') = ' ' :: property.value.take size := by
    refine List.takeWhile_eq_self_iff.mpr fun c member => ?_
    simp [(valueText c member).2]
  have said : IniFile.property (property.key ++ [' ']) (' ' :: property.value.take size) =
      { property with value := Text.trim isBlank (property.value.take size) } := by
    unfold IniFile.property
    rw [Text.trim_concat isBlank rfl, Text.trim_cons isBlank rfl, written.keyTrimmed, written.lower]
  rw [piece, readInto, Text.lines_full _ [] (List.append_ne_nil_of_right_ne_nil _ (List.cons_ne_nil _ _)) whole full,
    List.foldl_cons, List.nil_append,
    analyzeIniLine_value sections (keyText_written written) (fun member => (valueText _ member).1 rfl), kept,
    addProperty_eq sections (List.cons_ne_nil _ _), said]
  rfl

end

theorem readInto_properties {properties : List Property} (written : ∀ property ∈ properties, Written property)
    (short : ∀ property ∈ properties, property.saveToStream.length < lineHardLimit) (sections : List Section) (rest : Text) :
    readInto sections (properties.flatMap Property.saveToStream ++ rest) =
      readInto (properties.foldl addTo sections) rest := by
  induction properties generalizing sections with
  | nil => rfl
  | cons property properties later =>
    rw [List.flatMap_cons, List.append_assoc,
      readInto_saved (written property List.mem_cons_self) sections _ (short property List.mem_cons_self), List.foldl_cons]
    exact later (fun other member => written other (List.mem_cons_of_mem property member))
      (fun other member => short other (List.mem_cons_of_mem property member)) _

/-- What is read of a title between brackets: it ends at the first closing one. -/
def title (name : Text) : Text := name.takeWhile fun c => c != ']'

theorem readInto_title {name : Text} (nameText : ∀ c ∈ name, c ≠ Char.ofNat 0 ∧ c ≠ '\n')
    (short : name.length ≤ sectionNameSize) (sections : List Section) (rest : Text) :
    readInto sections ('[' :: name ++ "]\n".toList ++ rest) = readInto (addSection sections (title name)) rest := by
  have whole : '\n' ∉ '[' :: name ++ [']'] := by
    intro member
    rcases List.mem_append.mp member with inName | same
    · rcases List.mem_cons.mp inName with same | inName
      · exact absurd same (by decide)
      · exact (nameText _ inName).2 rfl
    · exact absurd (List.mem_singleton.mp same) (by decide)
  have length : ('[' :: name ++ [']']).length + 1 < lineHardLimit := by
    rw [List.length_append, List.length_cons]
    unfold sectionNameSize at short
    show name.length + 1 + 1 + 1 < 2048
    omega
  have line := readInto_line sections rest whole length
  have shape : '[' :: name ++ "]\n".toList ++ rest = '[' :: name ++ [']'] ++ '\n' :: rest := by simp
  obtain ⟨after, ends⟩ : ∃ after, '[' :: name ++ [']'] ++ ['\n'] = '[' :: title name ++ ']' :: after := by
    have split := List.takeWhile_append_dropWhile (p := fun c => c != ']') (l := name)
    cases kept : name.dropWhile (fun c => c != ']') with
    | nil =>
      use ['\n']
      rw [kept, List.append_nil] at split
      unfold title
      rw [split]
      simp
    | cons c others =>
      have stops : c = ']' := by
        have := @List.head_dropWhile_not _ (fun c => c != ']') name (by rw [kept]; exact List.cons_ne_nil _ _)
        simpa [kept] using this
      use others ++ [']', '\n']
      rw [kept, stops] at split
      unfold title
      nth_rewrite 1 [← split]
      simp
  have titleText : ∀ c ∈ title name, c ≠ Char.ofNat 0 ∧ c ≠ ']' := by
    intro c member
    refine ⟨(nameText c ((List.takeWhile_prefix _).subset member)).1, ?_⟩
    exact bne_iff_ne.mp (@List.mem_takeWhile_imp _ (fun c => c != ']') _ _ member)
  rw [shape, line, ends, analyzeIniLine_section sections after titleText]

/-- A property as one line says it: a key, a mark and a value, one after the other. -/
def SaidBy (line : Text) (said : Property) : Prop :=
  ∃ key mark value, said = property key value ∧ key ++ mark :: value <:+: line ∧
    ∀ c ∈ value, c ≠ Char.ofNat 0 ∧ c ≠ '\n' ∧ c ≠ '\r'

theorem said_of_addProperty {sections : List Section} {key value : Text} {read : Section}
    (listed : read ∈ addProperty sections key value) {said : Property} (inside : said ∈ read.properties) :
    (∃ before ∈ sections, said ∈ before.properties) ∨ said = property key value := by
  unfold addProperty at listed
  cases sections with
  | nil => exact absurd listed List.not_mem_nil
  | cons last others =>
    dsimp only at listed
    split_ifs at listed
    · exact .inl ⟨read, listed, inside⟩
    rcases List.mem_cons.mp listed with rfl | listed
    · rcases List.mem_append.mp inside with before | added
      · exact .inl ⟨last, List.mem_cons_self, before⟩
      · exact .inr (List.mem_singleton.mp added)
    · exact .inl ⟨read, List.mem_cons_of_mem last listed, inside⟩

theorem said_of_addSection {sections : List Section} {name : Text} {read : Section}
    (listed : read ∈ addSection sections name) {said : Property} (inside : said ∈ read.properties) :
    ∃ before ∈ sections, said ∈ before.properties := by
  unfold addSection at listed
  split_ifs at listed
  · exact ⟨read, listed, inside⟩
  rcases List.mem_cons.mp listed with rfl | listed
  · exact absurd inside List.not_mem_nil
  · exact ⟨read, listed, inside⟩

theorem said_of_analyzeIniLine {sections : List Section} {line : Text} {read : Section}
    (listed : read ∈ analyzeIniLine sections line) {said : Property} (inside : said ∈ read.properties) :
    (∃ before ∈ sections, said ∈ before.properties) ∨ SaidBy line said := by
  have ends : ∀ c ∈ line.takeWhile (fun c => c != Char.ofNat 0), c ≠ Char.ofNat 0 := fun c member =>
    bne_iff_ne.mp (@List.mem_takeWhile_imp _ (fun c => c != Char.ofNat 0) _ _ member)
  have inLine : line.takeWhile (fun c => c != Char.ofNat 0) <:+: line := (List.takeWhile_prefix _).isInfix
  unfold analyzeIniLine at listed
  dsimp only at listed
  generalize line.takeWhile (fun c => c != Char.ofNat 0) = text at listed ends inLine
  obtain ⟨rest, split⟩ := List.takeWhile_prefix (l := text) (fun c => c != '[' && c != '=')
  generalize text.takeWhile (fun c => c != '[' && c != '=') = key at listed split
  subst split
  rw [List.drop_left] at listed
  cases rest with
  | nil => exact .inl ⟨read, listed, inside⟩
  | cons mark value =>
    dsimp only at listed
    split_ifs at listed
    · exact .inl (said_of_addSection listed inside)
    rcases said_of_addProperty listed inside with before | said
    · exact .inl before
    have shorter : value.takeWhile (fun c => c != '\n' && c != '\r') <+: value := List.takeWhile_prefix _
    refine .inr ⟨key, mark, _, said, ?_, fun c member => ?_⟩
    · have part := List.prefix_append_right_inj key |>.mpr ((List.prefix_cons_inj mark).mpr shorter)
      exact part.isInfix.trans inLine
    · have kept := @List.mem_takeWhile_imp _ (fun c => c != '\n' && c != '\r') _ _ member
      rw [Bool.and_eq_true, bne_iff_ne, bne_iff_ne] at kept
      exact ⟨ends c (List.mem_append_right key (List.mem_cons_of_mem mark (shorter.subset member))), kept⟩

theorem said_of_loaded {text : Text} {read : Section} (listed : read ∈ loaded text) {said : Property}
    (inside : said ∈ read.properties) : ∃ line : Text, line.length < lineHardLimit ∧ SaidBy line said := by
  have lengths : ∀ line ∈ Text.lines lineHardLimit text [], line.length < lineHardLimit := fun line member =>
    Text.length_lines_le (by decide) member
  have all (lines : List Text) (sections : List Section) (listed : read ∈ lines.foldl analyzeIniLine sections) :
      (∃ before ∈ sections, said ∈ before.properties) ∨ ∃ line ∈ lines, SaidBy line said := by
    induction lines generalizing sections with
    | nil => exact .inl ⟨read, listed, inside⟩
    | cons line lines later =>
      rcases later (analyzeIniLine sections line) listed with ⟨before, member, inBefore⟩ | ⟨other, member, said⟩
      · rcases said_of_analyzeIniLine member inBefore with earlier | here
        · exact .inl earlier
        · exact .inr ⟨line, List.mem_cons_self, here⟩
      · exact .inr ⟨other, List.mem_cons_of_mem line member, said⟩
  rcases all _ [] (List.mem_reverse.mp listed) with ⟨before, none, -⟩ | ⟨line, member, said⟩
  · exact absurd none List.not_mem_nil
  · exact ⟨line, lengths line member, said⟩

variable (key : Text)

def valuesOf (sections : List Section) : List Text :=
  ((sections.flatMap Section.properties).filter fun property => property.key = key).map Property.value

theorem valuesOf_cons (first : Section) (others : List Section) :
    valuesOf key (first :: others) = valuesOf key [first] ++ valuesOf key others := by
  simp [valuesOf]

theorem valuesOf_perm {first second : List Section} (order : first.Perm second) :
    (valuesOf key first).Perm (valuesOf key second) :=
  ((order.flatMap_right Section.properties).filter _).map _

theorem valuesOf_addSection (sections : List Section) (name : Text) :
    valuesOf key (addSection sections name) = valuesOf key sections := by
  unfold addSection
  split_ifs
  · rfl
  · rfl

theorem valuesOf_addTo_of_ne {key : Text} {property : Property} (other : property.key ≠ key) (sections : List Section) :
    valuesOf key (addTo sections property) = valuesOf key sections := by
  cases sections with
  | nil => rfl
  | cons last others => simp [valuesOf, addTo, other]

theorem valuesOf_foldl_addTo_of_ne {key : Text} {properties : List Property} (other : ∀ property ∈ properties, property.key ≠ key)
    (sections : List Section) : valuesOf key (properties.foldl addTo sections) = valuesOf key sections := by
  induction properties generalizing sections with
  | nil => rfl
  | cons property properties later =>
    rw [List.foldl_cons, later fun other' member => other other' (List.mem_cons_of_mem property member),
      valuesOf_addTo_of_ne (other property List.mem_cons_self)]

theorem valuesOf_addTo {key : Text} {property : Property} (same : property.key = key) {sections : List Section}
    (none : valuesOf key sections = []) :
    valuesOf key (addTo sections property) = [] ∨ valuesOf key (addTo sections property) = [property.value] := by
  cases sections with
  | nil => exact .inl rfl
  | cons last others =>
    right
    rw [valuesOf_cons, List.append_eq_nil_iff] at none
    rw [addTo, valuesOf_cons, none.2, List.append_nil]
    have before := none.1
    unfold valuesOf at before ⊢
    rw [List.flatMap_singleton, List.map_eq_nil_iff] at before
    rw [List.flatMap_singleton, List.filter_append, before, List.nil_append, List.filter_cons_of_pos (by simpa using same)]
    rfl

theorem valuesOf_of_short {key line : Text} (short : line.length < key.length + 1) (sections : List Section) :
    valuesOf key (analyzeIniLine sections line) = valuesOf key sections := by
  unfold analyzeIniLine
  dsimp only
  have inLine := (List.takeWhile_prefix (l := line) fun c => c != Char.ofNat 0).length_le
  generalize line.takeWhile (fun c => c != Char.ofNat 0) = text at inLine
  obtain ⟨rest, split⟩ := List.takeWhile_prefix (l := text) (fun c => c != '[' && c != '=')
  generalize text.takeWhile (fun c => c != '[' && c != '=') = name at split
  subst split
  rw [List.drop_left]
  cases rest with
  | nil => rfl
  | cons mark value =>
    dsimp only
    split_ifs
    · exact valuesOf_addSection key sections _
    rcases Decidable.eq_or_ne (value.takeWhile fun c => c != '\n' && c != '\r') [] with none | some
    · rw [none]
      cases sections with
      | nil => rfl
      | cons last others => rfl
    · rw [addProperty_eq sections some]
      apply valuesOf_addTo_of_ne
      intro same
      have length := Text.length_trim_le isBlank name
      have lower : (toLower (Text.trim isBlank name)).length = (Text.trim isBlank name).length := List.length_map _
      rw [List.length_append, List.length_cons] at inLine
      have equal : (toLower (Text.trim isBlank name)).length = key.length := congrArg List.length same
      omega

end IniFile

end Antares.Data
