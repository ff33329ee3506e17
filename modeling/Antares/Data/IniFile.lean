import Antares.Data.Names

/-! The INI files of a study, read line by line: sections, and properties whose keys are trimmed
and put in lower case.
-/

set_option autoImplicit false

namespace Antares.Data

open Library

namespace IniFile

structure Property where
  key : Text
  value : Text
  deriving DecidableEq, Repr

structure Section where
  name : Text
  properties : List Property
  deriving DecidableEq, Repr

def property (key value : Text) : Property :=
  { key := toLower (Text.trim isBlank key), value := Text.trim isBlank value }

def sectionNameSize : Nat := 256

variable (sections : List Section)

def addSection (name : Text) : List Section :=
  if name = [] then sections else { name := name.take sectionNameSize, properties := [] } :: sections

def addProperty (key value : Text) : List Section :=
  match sections with
  | [] => []
  | last :: others =>
    if value = [] then sections
    else { last with properties := last.properties ++ [property key value] } :: others

/-- `AnalyzeIniLine`: the first of a bracket and an equals sign says what a line is. -/
def analyzeIniLine (line : Text) : List Section :=
  let text := line.takeWhile fun c => c != Char.ofNat 0
  let key := text.takeWhile fun c => c != '[' && c != '='
  match text.drop key.length with
  | [] => sections
  | mark :: value =>
    if mark = '[' then addSection sections (value.takeWhile fun c => c != ']')
    else addProperty sections key (value.takeWhile fun c => c != '\n' && c != '\r')

def lineHardLimit : Nat := 2048

variable (text : Text)

def readInto : List Section :=
  (Text.lines lineHardLimit text []).foldl analyzeIniLine sections

def loaded : List Section := (readInto [] text).reverse

theorem readInto_line {line : Text} (rest : Text) (whole : '\n' ∉ line)
    (short : line.length + 1 < lineHardLimit) :
    readInto sections (line ++ '\n' :: rest) = readInto (analyzeIniLine sections (line ++ ['\n'])) rest := by
  rw [readInto, Text.lines_append rest [] whole (by simpa using short)]
  rfl

theorem takeWhile_append_of_stop {keep : Char → Bool} {text : Text} {stop : Char} (rest : Text)
    (kept : ∀ c ∈ text, keep c = true) (stopped : keep stop = false) :
    (text ++ stop :: rest).takeWhile keep = text := by
  rw [List.takeWhile_append_of_pos kept, List.takeWhile_cons_of_neg (by rw [stopped]; exact Bool.false_ne_true),
    List.append_nil]

/-- No byte of the text ends it, or says that it is another kind of line. -/
structure KeyText (key : Text) : Prop where
  noEnd : Char.ofNat 0 ∉ key
  noBracket : '[' ∉ key
  noEquals : '=' ∉ key

theorem analyzeIniLine_value {key rest : Text} (keyText : KeyText key) (noEnd : Char.ofNat 0 ∉ rest) :
    analyzeIniLine sections (key ++ '=' :: rest) = addProperty sections key (rest.takeWhile fun c => c != '\n' && c != '\r') := by
  have whole : (key ++ '=' :: rest).takeWhile (fun c => c != Char.ofNat 0) = key ++ '=' :: rest := by
    refine List.takeWhile_eq_self_iff.mpr fun c member => bne_iff_ne.mpr ?_
    rintro rfl
    rcases List.mem_append.mp member with inKey | inRest
    · exact keyText.noEnd inKey
    rcases List.mem_cons.mp inRest with same | inRest
    · exact absurd same (by decide)
    · exact noEnd inRest
  have head : (key ++ '=' :: rest).takeWhile (fun c => c != '[' && c != '=') = key := by
    refine takeWhile_append_of_stop _ (fun c member => ?_) (by decide)
    have noBracket : c ≠ '[' := fun same => keyText.noBracket (same ▸ member)
    have noEquals : c ≠ '=' := fun same => keyText.noEquals (same ▸ member)
    simp [noBracket, noEquals]
  unfold analyzeIniLine
  dsimp only
  rw [whole, head, List.drop_left]
  dsimp only
  rw [if_neg (by decide)]

theorem analyzeIniLine_property {key value : Text} (keyText : KeyText key)
    (valueText : ∀ c ∈ value, c ≠ Char.ofNat 0 ∧ c ≠ '\n' ∧ c ≠ '\r') :
    analyzeIniLine sections (key ++ '=' :: (value ++ ['\n'])) = addProperty sections key value := by
  have noEnd : Char.ofNat 0 ∉ value ++ ['\n'] := by
    intro member
    rcases List.mem_append.mp member with inValue | same
    · exact (valueText _ inValue).1 rfl
    · exact absurd (List.mem_singleton.mp same) (by decide)
  have tail : (value ++ ['\n']).takeWhile (fun c => c != '\n' && c != '\r') = value := by
    refine takeWhile_append_of_stop _ (fun c member => ?_) (by decide)
    simp [(valueText c member).2]
  rw [analyzeIniLine_value sections keyText noEnd, tail]

theorem analyzeIniLine_unclosed {name : Text}
    (nameText : ∀ c ∈ name, c ≠ Char.ofNat 0 ∧ c ≠ ']') :
    analyzeIniLine sections ('[' :: name) = addSection sections name := by
  have whole : ('[' :: name).takeWhile (fun c => c != Char.ofNat 0) = '[' :: name := by
    refine List.takeWhile_eq_self_iff.mpr fun c member => bne_iff_ne.mpr ?_
    rcases List.mem_cons.mp member with rfl | member
    · decide
    · exact (nameText c member).1
  have unclosed : name.takeWhile (fun c => c != ']') = name :=
    List.takeWhile_eq_self_iff.mpr fun c member => bne_iff_ne.mpr (nameText c member).2
  unfold analyzeIniLine
  rw [whole]
  simp [unclosed]

theorem analyzeIniLine_of_nothing {line : Text}
    (nothing : ∀ c ∈ line, c ≠ '[' ∧ c ≠ '=') : analyzeIniLine sections line = sections := by
  have whole : (line.takeWhile fun c => c != Char.ofNat 0).takeWhile (fun c => c != '[' && c != '=') =
      line.takeWhile fun c => c != Char.ofNat 0 := by
    refine List.takeWhile_eq_self_iff.mpr fun c member => ?_
    have := nothing c ((List.takeWhile_prefix _).subset member)
    simp [this.1, this.2]
  unfold analyzeIniLine
  dsimp only
  rw [whole, List.drop_length]

theorem analyzeIniLine_section {name : Text} (rest : Text)
    (nameText : ∀ c ∈ name, c ≠ Char.ofNat 0 ∧ c ≠ ']') :
    analyzeIniLine sections ('[' :: name ++ ']' :: rest) = addSection sections name := by
  have whole : ∃ more, ('[' :: name ++ ']' :: rest).takeWhile (fun c => c != Char.ofNat 0) = '[' :: name ++ ']' :: more := by
    refine ⟨rest.takeWhile fun c => c != Char.ofNat 0, ?_⟩
    rw [List.takeWhile_append_of_pos, List.takeWhile_cons_of_pos (by decide)]
    intro c member
    rcases List.mem_cons.mp member with rfl | member
    · decide
    · exact bne_iff_ne.mpr (nameText c member).1
  obtain ⟨more, whole⟩ := whole
  have closed : (name ++ ']' :: more).takeWhile (fun c => c != ']') = name :=
    takeWhile_append_of_stop _ (fun c member => bne_iff_ne.mpr (nameText c member).2) (by decide)
  unfold analyzeIniLine
  rw [whole]
  simp [closed]

structure Clean (read : Section) : Prop where
  keys : ∀ property ∈ read.properties, ∀ c ∈ property.key,
    c ≠ Char.ofNat 0 ∧ c ≠ '[' ∧ c ≠ '=' ∧ c ≠ '\n' ∧ c.toLower = c
  name : ∀ c ∈ read.name, c ≠ Char.ofNat 0 ∧ c ≠ ']'
  noLine : '\n' ∉ read.name.dropLast

theorem toLower_ne {c d : Char} (different : c ≠ d) (noLetter : d.isLower = false) : c.toLower ≠ d := by
  rcases toLower_cases c with same | ⟨-, lower⟩
  · rwa [same]
  · rintro rfl
    exact absurd lower (by rw [noLetter]; exact Bool.false_ne_true)

theorem clean_addProperty {sections : List Section} (clean : ∀ read ∈ sections, Clean read) {key : Text} (value : Text)
    (keyText : ∀ c ∈ key, c ≠ Char.ofNat 0 ∧ c ≠ '[' ∧ c ≠ '=' ∧ c ≠ '\n') :
    ∀ read ∈ addProperty sections key value, Clean read := by
  cases sections with
  | nil => exact clean
  | cons last others =>
    unfold addProperty
    dsimp only
    split_ifs with none
    · exact clean
    intro read member
    rcases List.mem_cons.mp member with rfl | member
    · have before := clean last List.mem_cons_self
      refine ⟨fun other inside c inKey => ?_, before.name, before.noLine⟩
      rcases List.mem_append.mp inside with inside | added
      · exact before.keys other inside c inKey
      · obtain rfl := List.mem_singleton.mp added
        obtain ⟨d, inTrimmed, rfl⟩ := List.mem_map.mp inKey
        obtain ⟨end', bracket, equals, line⟩ := keyText d (Text.mem_of_mem_trim isBlank inTrimmed)
        exact ⟨toLower_ne end' rfl, toLower_ne bracket rfl, toLower_ne equals rfl, toLower_ne line rfl,
          toLower_toLower_char d⟩
    · exact clean read (List.mem_cons_of_mem last member)

theorem clean_addSection {sections : List Section} (clean : ∀ read ∈ sections, Clean read) {name : Text}
    (nameText : ∀ c ∈ name, c ≠ Char.ofNat 0 ∧ c ≠ ']') (noLine : '\n' ∉ name.dropLast) :
    ∀ read ∈ addSection sections name, Clean read := by
  unfold addSection
  split_ifs
  · exact clean
  intro read member
  rcases List.mem_cons.mp member with rfl | member
  · refine ⟨fun property inside => absurd inside List.not_mem_nil, fun c inName => nameText c (List.mem_of_mem_take inName), ?_⟩
    exact fun line => noLine (Text.mem_dropLast_of_infix (List.take_prefix _ _).isInfix line)
  · exact clean read member

theorem clean_analyzeIniLine {sections : List Section} (clean : ∀ read ∈ sections, Clean read) {line : Text}
    (noLine : '\n' ∉ line.dropLast) : ∀ read ∈ analyzeIniLine sections line, Clean read := by
  have end' : ∀ c ∈ line.takeWhile (fun c => c != Char.ofNat 0), c ≠ Char.ofNat 0 := fun c member =>
    bne_iff_ne.mp (List.mem_takeWhile_imp (p := fun c => c != Char.ofNat 0) member)
  have inLine : line.takeWhile (fun c => c != Char.ofNat 0) <:+: line := (List.takeWhile_prefix _).isInfix
  unfold analyzeIniLine
  dsimp only
  generalize line.takeWhile (fun c => c != Char.ofNat 0) = text at end' inLine
  have keyChars : ∀ c ∈ text.takeWhile (fun c => c != '[' && c != '='), c ≠ '[' ∧ c ≠ '=' := fun c member => by
    have kept := List.mem_takeWhile_imp (p := fun c => c != '[' && c != '=') member
    simpa using kept
  obtain ⟨rest, split⟩ := List.takeWhile_prefix (l := text) (fun c => c != '[' && c != '=')
  generalize text.takeWhile (fun c => c != '[' && c != '=') = key at keyChars split
  subst split
  rw [List.drop_left]
  cases rest with
  | nil => exact clean
  | cons mark value =>
    dsimp only
    split_ifs
    · have inValue : value.takeWhile (fun c => c != ']') <:+: line := by
        refine ((List.takeWhile_prefix _).isInfix.trans ?_).trans inLine
        exact ⟨key ++ [mark], [], by simp⟩
      refine clean_addSection clean (fun c member => ⟨?_, bne_iff_ne.mp (List.mem_takeWhile_imp (p := fun c => c != ']') member)⟩)
        fun ends => noLine (Text.mem_dropLast_of_infix inValue ends)
      exact end' c (List.mem_append_right key (List.mem_cons_of_mem mark ((List.takeWhile_prefix _).subset member)))
    · refine clean_addProperty clean _ fun c member => ?_
      refine ⟨end' c (List.mem_append_left _ member), (keyChars c member).1, (keyChars c member).2, ?_⟩
      rintro rfl
      refine noLine (Text.mem_dropLast_of_infix inLine ?_)
      rw [List.dropLast_append_of_ne_nil (List.cons_ne_nil mark value)]
      exact List.mem_append_left _ member

theorem clean_loaded : ∀ read ∈ loaded text, Clean read := by
  have lines : ∀ line ∈ Text.lines lineHardLimit text [], '\n' ∉ line.dropLast := fun line listed =>
    Text.newline_at_end List.not_mem_nil listed
  have all (listed : List Text) (noLine : ∀ line ∈ listed, '\n' ∉ line.dropLast) (sections : List Section)
      (clean : ∀ read ∈ sections, Clean read) : ∀ read ∈ listed.foldl analyzeIniLine sections, Clean read := by
    induction listed generalizing sections with
    | nil => exact clean
    | cons line listed later =>
      exact later (fun other member => noLine other (List.mem_cons_of_mem line member)) _
        (clean_analyzeIniLine clean (noLine line List.mem_cons_self))
  intro read member
  exact all _ lines [] (fun read none => absurd none List.not_mem_nil) read (List.mem_reverse.mp member)

end IniFile

end Antares.Data
