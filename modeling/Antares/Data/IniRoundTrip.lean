import Antares.Data.SavedIni

/-! INI files that are saved and opened again, and those that are opened, saved and opened again. -/

set_option autoImplicit false

namespace Antares.Data

open Library

namespace IniFile

/-- The line of a property fits the limit of the reader, without its end. -/
def Property.FitsLine (property : Property) : Prop :=
  (property.key ++ " = ".toList ++ property.value).length < lineHardLimit

/-- The name of a section that a file gives: only a bracket that is not closed leaves the end of the line in it. -/
structure NameText (name : Text) : Prop where
  nonempty : name ≠ []
  capacity : name.length ≤ sectionNameSize
  chars : ∀ c ∈ name, c ≠ Char.ofNat 0 ∧ c ≠ ']'
  noLine : '\n' ∉ name.dropLast

/-- What can be saved so that it is read again. -/
structure Saveable (saved : Section) : Prop where
  name : NameText saved.name
  some : saved.properties ≠ []
  written : ∀ property ∈ saved.properties, Written property
  short : ∀ property ∈ saved.properties, property.FitsLine

theorem readInto_fitting {property : Property} (written : Written property) (fits : property.FitsLine)
    (sections : List Section) (rest : Text) :
    readInto sections (property.saveToStream ++ rest) = readInto (addTo sections property) rest := by
  have length : property.saveToStream.length = (property.key ++ " = ".toList ++ property.value).length + 1 := by
    simp [Property.saveToStream]
    omega
  rcases Nat.lt_or_ge property.saveToStream.length lineHardLimit with short | full
  · exact readInto_saved written sections rest short
  have room : property.key.length + 3 + property.value.length + 1 = lineHardLimit := by
    have parts : (property.key ++ " = ".toList ++ property.value).length =
        property.key.length + 3 + property.value.length := by
      simp
      omega
    unfold Property.FitsLine at fits
    omega
  have cut := readInto_cut written sections rest (le_refl property.value.length) room
  have empty := readInto_line (addTo sections property) rest (@List.not_mem_nil _ '\n') (by decide)
  rw [List.take_length, List.drop_length, written.valueTrimmed, List.nil_append] at cut
  rw [analyzeIniLine_of_nothing _ (by decide)] at empty
  rw [cut]
  exact empty

theorem readInto_fittingProperties {properties : List Property} (written : ∀ property ∈ properties, Written property)
    (short : ∀ property ∈ properties, property.FitsLine) (sections : List Section) (rest : Text) :
    readInto sections (properties.flatMap Property.saveToStream ++ rest) =
      readInto (properties.foldl addTo sections) rest := by
  induction properties generalizing sections with
  | nil => rfl
  | cons property properties ih =>
    rw [List.forall_mem_cons] at written short
    rw [List.flatMap_cons, List.append_assoc, readInto_fitting written.1 short.1, List.foldl_cons]
    exact ih written.2 short.2 _

theorem readInto_name {name : Text} (nameText : NameText name) (sections : List Section) (rest : Text) :
    readInto sections ('[' :: name ++ "]\n".toList ++ rest) = readInto (addSection sections name) rest := by
  have small : name.length + 3 < lineHardLimit := by
    have capacity := nameText.capacity
    unfold sectionNameSize at capacity
    show name.length + 3 < 2048
    omega
  by_cases ends : '\n' ∈ name
  · obtain ⟨front, last, split⟩ : ∃ front last, name = front ++ [last] :=
      ⟨_, _, (List.dropLast_append_getLast nameText.nonempty).symm⟩
    have noLine := nameText.noLine
    rw [split, List.dropLast_concat] at noLine
    obtain rfl : '\n' = last := by
      rw [split] at ends
      exact List.mem_singleton.mp ((List.mem_append.mp ends).resolve_left noLine)
    have whole : '\n' ∉ '[' :: front := by
      simp [noLine]
    have shape : '[' :: name ++ "]\n".toList ++ rest = '[' :: front ++ '\n' :: ([']'] ++ '\n' :: rest) := by
      simp [split]
    have first := readInto_line sections ([']'] ++ '\n' :: rest) whole (by simp [split] at small ⊢; omega)
    have second := readInto_line (addSection sections name) rest (show '\n' ∉ [']'] by decide) (by decide)
    have unclosed := analyzeIniLine_unclosed sections nameText.chars
    rw [analyzeIniLine_of_nothing _ (by decide)] at second
    rw [split, ← List.cons_append] at unclosed
    rw [shape, first, unclosed, ← split, second]
  · have kept : title name = name :=
      List.takeWhile_eq_self_iff.mpr fun c member => bne_iff_ne.mpr (nameText.chars c member).2
    have read := readInto_title (fun c member => ⟨(nameText.chars c member).1, fun same => ends (same ▸ member)⟩)
      nameText.capacity sections rest
    rwa [kept] at read

theorem addSection_name {name : Text} (nameText : NameText name) (sections : List Section) :
    addSection sections name = { name := name, properties := [] } :: sections := by
  unfold addSection
  rw [if_neg nameText.nonempty, List.take_of_length_le nameText.capacity]

theorem readInto_saveable {saved : Section} (ok : Saveable saved) (sections : List Section) (rest : Text) :
    readInto sections (saved.saveToStream ++ rest) = readInto (saved :: sections) rest := by
  have empty := readInto_line (saved :: sections) rest (@List.not_mem_nil _ '\n') (by decide)
  rw [List.nil_append, List.nil_append, analyzeIniLine_of_nothing _ (by decide)] at empty
  unfold Section.saveToStream
  rw [if_neg ok.some, List.append_assoc, List.append_assoc, readInto_name ok.name,
    readInto_fittingProperties ok.written ok.short, addSection_name ok.name, foldl_addTo]
  exact empty

variable {saved : List Section}

theorem readInto_save (ok : ∀ one ∈ saved, one.properties ≠ [] → Saveable one)
    (sections : List Section) :
    readInto sections (save saved) = (saved.filter fun one => one.properties ≠ []).reverse ++ sections := by
  induction saved generalizing sections with
  | nil => rfl
  | cons one others ih =>
    rw [List.forall_mem_cons] at ok
    have shape : save (one :: others) = one.saveToStream ++ save others := rfl
    rw [shape]
    by_cases none : one.properties = []
    · have nothing : one.saveToStream = [] := if_pos none
      rw [nothing, List.nil_append, ih ok.2, List.filter_cons_of_neg (by simp [none])]
    · rw [readInto_saveable (ok.1 none), ih ok.2, List.filter_cons_of_pos (by simp [none]), List.reverse_cons,
        List.append_assoc]
      rfl

theorem loaded_save (ok : ∀ one ∈ saved, one.properties ≠ [] → Saveable one) :
    loaded (save saved) = saved.filter fun one => one.properties ≠ [] := by
  unfold loaded
  rw [readInto_save ok, List.append_nil, List.reverse_reverse]

theorem readInto_induction {holds : List Section → Prop} (start : holds [])
    (line : ∀ sections line, holds sections → holds (analyzeIniLine sections line)) (text : Text) :
    holds (readInto [] text) := by
  unfold readInto
  generalize Text.lines lineHardLimit text [] = lines
  have all (sections : List Section) (before : holds sections) : holds (lines.foldl analyzeIniLine sections) := by
    induction lines generalizing sections with
    | nil => exact before
    | cons first lines ih => exact ih _ (line sections first before)
  exact all [] start

def Named (read : Section) : Prop := read.name ≠ [] ∧ read.name.length ≤ sectionNameSize

theorem named_analyzeIniLine (sections : List Section) (line : Text) (named : ∀ read ∈ sections, Named read) :
    ∀ read ∈ analyzeIniLine sections line, Named read := by
  have add (name : Text) : ∀ read ∈ addSection sections name, Named read := by
    unfold addSection
    split_ifs with empty
    · exact named
    · rw [List.forall_mem_cons]
      refine ⟨⟨?_, ?_⟩, named⟩
      · simp [empty, sectionNameSize]
      · exact List.length_take_le _ _
  have keep (key value : Text) : ∀ read ∈ addProperty sections key value, Named read := by
    unfold addProperty
    cases sections with
    | nil => exact named
    | cons last others =>
      dsimp only
      split_ifs
      · exact named
      · rw [List.forall_mem_cons] at named ⊢
        exact named
  unfold analyzeIniLine
  dsimp only
  split
  · exact named
  · split_ifs
    · exact add _
    · exact keep _ _

variable {text : Text}

theorem nameText_loaded {read : Section} (listed : read ∈ loaded text) : NameText read.name := by
  have named := @readInto_induction (fun sections => ∀ read ∈ sections, Named read)
    (fun _ none => absurd none List.not_mem_nil) named_analyzeIniLine text read (List.mem_reverse.mp listed)
  have clean := clean_loaded text read listed
  exact ⟨named.1, named.2, clean.name, clean.noLine⟩

theorem written_loaded {read : Section} (listed : read ∈ loaded text) {property : Property}
    (inside : property ∈ read.properties) : Written property := by
  have keys := (clean_loaded text read listed).keys property inside
  obtain ⟨line, -, key, mark, value, rfl, -, valueText⟩ := said_of_loaded listed inside
  refine ⟨⟨?_, ?_, ?_⟩, ?_, ?_, ?_, ?_, ?_⟩
  · exact fun member => (keys _ member).1 rfl
  · exact fun member => (keys _ member).2.1 rfl
  · exact fun member => (keys _ member).2.2.1 rfl
  · exact fun member => (keys _ member).2.2.2.1 rfl
  · exact toLower_toLower _
  · dsimp only [IniFile.property]
    rw [trim_toLower, Text.trim_trim]
  · exact fun c member => valueText c (Text.mem_of_mem_trim isBlank member)
  · exact Text.trim_trim isBlank value

theorem loaded_save_loaded
    (short : ∀ read ∈ loaded text, ∀ property ∈ read.properties, property.FitsLine) :
    loaded (save (loaded text)) = (loaded text).filter fun read => read.properties ≠ [] :=
  loaded_save fun read listed some =>
    ⟨nameText_loaded listed, some, fun _ inside => written_loaded listed inside, short read listed⟩

/-- What an INI file that is saved may hold: lines without an end, and without the byte that ends a text. -/
structure WellFormed (saved : Section) : Prop where
  some : saved.properties ≠ []
  nonempty : saved.name ≠ []
  capacity : saved.name.length ≤ sectionNameSize
  name : ∀ c ∈ saved.name, c ≠ Char.ofNat 0 ∧ c ≠ ']' ∧ c ≠ '\n' ∧ c ≠ '\r'
  keys : ∀ property ∈ saved.properties, property.key ≠ [] ∧
    (∀ c ∈ property.key, c ≠ Char.ofNat 0 ∧ c ≠ '[' ∧ c ≠ '=' ∧ c ≠ '\n' ∧ c ≠ '\r') ∧
    toLower property.key = property.key ∧ Text.trim isBlank property.key = property.key
  values : ∀ property ∈ saved.properties,
    (∀ c ∈ property.value, c ≠ Char.ofNat 0 ∧ c ≠ '\n' ∧ c ≠ '\r') ∧ Text.trim isBlank property.value = property.value
  short : ∀ property ∈ saved.properties, property.FitsLine

theorem WellFormed.saveable {saved : Section} (ok : WellFormed saved) : Saveable saved where
  name := ⟨ok.nonempty, ok.capacity, fun c member => ⟨(ok.name c member).1, (ok.name c member).2.1⟩,
    fun member => (ok.name _ (List.mem_of_mem_dropLast member)).2.2.1 rfl⟩
  some := ok.some
  written property inside := by
    obtain ⟨-, chars, lower, trimmed⟩ := ok.keys property inside
    obtain ⟨value, valueTrimmed⟩ := ok.values property inside
    exact ⟨⟨fun member => (chars _ member).1 rfl, fun member => (chars _ member).2.1 rfl,
      fun member => (chars _ member).2.2.1 rfl⟩, fun member => (chars _ member).2.2.2.1 rfl, lower, trimmed, value,
      valueTrimmed⟩
  short := ok.short

/-- Both ways round: what is saved is opened as it was, and what is opened is not changed by saving it. -/
theorem save_open_roundTrips :
    (∀ saved : List Section, (∀ one ∈ saved, WellFormed one) → loaded (save saved) = saved) ∧
      ∀ text : Text, (∀ read ∈ loaded text, ∀ property ∈ read.properties, property.FitsLine) →
        loaded (save (loaded text)) = (loaded text).filter fun read => read.properties ≠ [] := by
  refine ⟨fun saved ok => ?_, fun text short => loaded_save_loaded short⟩
  have nonempty : (saved.filter fun one => one.properties ≠ []) = saved :=
    List.filter_eq_self.mpr fun one member => by simpa using (ok one member).some
  rw [loaded_save fun one member _ => (ok one member).saveable, nonempty]

instance (property : Property) : Decidable property.FitsLine := by
  unfold Property.FitsLine
  infer_instance

theorem save_open_roundTrips_two :
    loaded (save [⟨['s'], [⟨['k'], ['v', '=', '[']⟩, ⟨['k'], []⟩]⟩]) = [⟨['s'], [⟨['k'], ['v', '=', '[']⟩, ⟨['k'], []⟩]⟩] :=
  save_open_roundTrips.1 _ (by
    intro one member
    obtain rfl := List.mem_singleton.mp member
    exact ⟨by decide, by decide, by decide, by decide, by decide, by decide, by decide⟩)

section Counterexample

def someV (n : Nat) : Text := List.replicate n 'v'

theorem length_someV (n : Nat) : (someV n).length = n := List.length_replicate

variable {n : Nat}

theorem of_mem_someV {c : Char} (member : c ∈ someV n) : c = 'v' := (List.mem_replicate.mp member).2

theorem trim_someV (some : n ≠ 0) : Text.trim isBlank (someV n) = someV n := by
  have nonempty : someV n ≠ [] := by simpa [someV] using some
  refine (Text.tight_of_forall nonempty fun c member => ?_).trim_eq
  rw [of_mem_someV member]
  decide

theorem written_someV (some : n ≠ 0) : Written ⟨['k'], someV n⟩ where
  key := by
    have key : KeyText ['k'] := ⟨by decide, by decide, by decide⟩
    exact key
  keyLine := by
    have key : '\n' ∉ ['k'] := by decide
    exact key
  lower := rfl
  keyTrimmed := by
    have key : Text.trim isBlank ['k'] = ['k'] := by decide
    exact key
  value c member := by
    rw [of_mem_someV member]
    decide
  valueTrimmed := trim_someV some

def lineWithoutBlanks (n : Nat) : Text := ['[', 's'] ++ "]\n".toList ++ (['k', '='] ++ someV n ++ '\n' :: [])

theorem loaded_lineWithoutBlanks (some : n ≠ 0) (fits : n + 3 < lineHardLimit) :
    loaded (lineWithoutBlanks n) = [⟨['s'], [⟨['k'], someV n⟩]⟩] := by
  have noLine : '\n' ∉ ['k', '='] ++ someV n := by
    intro member
    rcases List.mem_append.mp member with mark | value
    · exact absurd mark (by decide)
    · exact absurd (of_mem_someV value) (by decide)
  have length : (['k', '='] ++ someV n).length + 1 = n + 3 := by
    simp [someV]
  have nameText : NameText ['s'] := ⟨by decide, by decide, by decide, by decide⟩
  have title := readInto_name nameText [] (['k', '='] ++ someV n ++ '\n' :: [])
  have key := readInto_line [(⟨['s'], []⟩ : Section)] [] noLine (by omega)
  have keyText : KeyText ['k'] := ⟨by decide, by decide, by decide⟩
  have property := analyzeIniLine_property [(⟨['s'], []⟩ : Section)] keyText fun c member => (written_someV some).value c member
  have shape : ['k', '='] ++ someV n ++ ['\n'] = ['k'] ++ '=' :: (someV n ++ ['\n']) := rfl
  have nonempty : someV n ≠ [] := by simpa [someV] using some
  have said : IniFile.property ['k'] (someV n) = ⟨['k'], someV n⟩ := by
    unfold IniFile.property
    rw [trim_someV some]
    rfl
  dsimp only at property
  rw [shape, property, addProperty_eq _ nonempty, said, ← shape] at key
  unfold loaded lineWithoutBlanks
  rw [show ['[', 's'] = '[' :: ['s'] from rfl, title, addSection_name nameText, key]
  rfl

theorem loaded_save_cut (some : n ≠ 0) (full : n + 5 = lineHardLimit) :
    loaded (save [⟨['s'], [⟨['k'], someV (n + 1)⟩]⟩]) = [⟨['s'], [⟨['k'], someV n⟩]⟩] := by
  have nameText : NameText ['s'] := ⟨by decide, by decide, by decide, by decide⟩
  have written := written_someV (Nat.succ_ne_zero n)
  have reached : n ≤ (someV (n + 1)).length := by simp [someV]
  have room : ['k'].length + 3 + n + 1 = lineHardLimit := by
    rw [List.length_singleton]
    omega
  have cut := readInto_cut written [(⟨['s'], []⟩ : Section)] ['\n'] reached room
  have first : (someV (n + 1)).take n = someV n := by simp [someV]
  have rest : (someV (n + 1)).drop n = ['v'] := by simp [someV]
  dsimp only at cut
  rw [first, rest, trim_someV some] at cut
  have shape : save [⟨['s'], [⟨['k'], someV (n + 1)⟩]⟩] =
      '[' :: ['s'] ++ "]\n".toList ++ (Property.saveToStream ⟨['k'], someV (n + 1)⟩ ++ ['\n']) := by
    simp [save, Section.saveToStream]
  unfold loaded
  rw [shape, readInto_name nameText, addSection_name nameText, cut]
  have one := readInto_line (addTo [(⟨['s'], []⟩ : Section)] ⟨['k'], someV n⟩) ['\n'] (show '\n' ∉ ['v'] by decide) (by decide)
  have two := readInto_line (addTo [(⟨['s'], []⟩ : Section)] ⟨['k'], someV n⟩) [] (@List.not_mem_nil _ '\n') (by decide)
  rw [analyzeIniLine_of_nothing _ (by decide)] at one two
  rw [List.nil_append] at two
  rw [show ['v'] ++ '\n' :: ['\n'] = ['v'] ++ '\n' :: ['\n'] from rfl, one, two]
  rfl

/-- A line that the reader takes in one piece is too long once it is saved, and a byte that ends a text cuts a value. -/
theorem longLines_and_ends_are_lost :
    loaded (save (loaded (lineWithoutBlanks 2044))) ≠
        (loaded (lineWithoutBlanks 2044)).filter (fun read => read.properties ≠ []) ∧
      loaded (save [⟨['s'], [⟨['k'], ['a', Char.ofNat 0, 'b']⟩]⟩]) ≠ [⟨['s'], [⟨['k'], ['a', Char.ofNat 0, 'b']⟩]⟩] := by
  have read := @loaded_lineWithoutBlanks 2044 (by decide) (by decide)
  have again := @loaded_save_cut 2043 (by decide) rfl
  have shorter : someV 2043 ≠ someV 2044 := fun same => by
    have length := congrArg List.length same
    rw [length_someV, length_someV] at length
    omega
  refine ⟨?_, by decide⟩
  rw [read, again]
  intro same
  simp only [List.filter_cons, List.filter_nil] at same
  simp [shorter] at same

end Counterexample

end IniFile

end Antares.Data
