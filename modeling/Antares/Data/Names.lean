import Mathlib.Data.String.Basic
import Antares.Library.Texts

/-! Names of areas, clusters and rulesets, and the identifiers that come from them. -/

set_option autoImplicit false

namespace Antares.Data

open Library

def toLower (text : Text) : Text := text.map Char.toLower

/-- The blanks of `trim()`. -/
def isBlank (c : Char) : Bool := c == ' ' || c == '\t' || c == '\r' || c == '\n'

def isNameChar (c : Char) : Bool :=
  c.isAlphanum || c == '_' || c == '-' || c == '(' || c == ')' || c == ',' || c == '&' || c == ' '

/-- A run of other characters becomes one blank, except at the beginning. -/
def withoutDuplicates : Bool → Text → Text
  | _, [] => []
  | duppl, c :: rest =>
    if isNameChar c then c :: withoutDuplicates false rest
    else if duppl then withoutDuplicates true rest
    else ' ' :: withoutDuplicates true rest

/-- The identifier of an empty name goes on with an address, which is left out here. -/
def transformNameIntoID (name : Text) : Text :=
  if name = [] then ['i', 'd', '_'] else toLower (Text.trim isBlank (withoutDuplicates true name))

def singleBlanks : Text → Text
  | [] => []
  | ' ' :: ' ' :: rest => singleBlanks (' ' :: rest)
  | c :: rest => c :: singleBlanks rest

def beautifyName (name : Text) : Text :=
  let kept := (Text.trim isBlank name).map fun c => if isNameChar c then c else ' '
  Text.trim isBlank (singleBlanks (Text.trim isBlank kept))

structure IsId (id : Text) : Prop where
  chars : ∀ c ∈ id, isNameChar c = true
  lower : toLower id = id
  trimmed : Text.trim isBlank id = id

variable {c : Char}

theorem toLower_of_not_isUpper (notUpper : c.isUpper = false) : c.toLower = c := by
  unfold Char.toLower
  rw [dif_neg]
  exact of_decide_eq_false notUpper

theorem isLower_toLower (upper : c.isUpper = true) : c.toLower.isLower = true := by
  have range : 'A'.val ≤ c.val ∧ c.val ≤ 'Z'.val := of_decide_eq_true upper
  have low : 65 ≤ c.toNat := UInt32.le_iff_toNat_le.mp range.1
  have high : c.toNat ≤ 90 := UInt32.le_iff_toNat_le.mp range.2
  unfold Char.toLower
  rw [dif_pos range]
  refine (Bool.and_eq_true _ _).mpr ?_
  simp only [decide_eq_true_eq]
  constructor <;> refine UInt32.le_iff_toNat_le.mpr ?_ <;> simp [UInt32.toNat_add] <;> omega

theorem not_isUpper_of_isLower (lower : c.isLower = true) : c.isUpper = false := by
  have range : 'a'.val ≤ c.val ∧ c.val ≤ 'z'.val := by
    simpa using (Bool.and_eq_true _ _).mp lower
  have low : 97 ≤ c.toNat := UInt32.le_iff_toNat_le.mp range.1
  have past : ¬c.val ≤ 'Z'.val := fun le => absurd (UInt32.le_iff_toNat_le.mp le) (by
    show ¬c.toNat ≤ 90
    omega)
  exact decide_eq_false fun both => past both.2

theorem toLower_cases (c : Char) : c.toLower = c ∨ (c.isAlpha = true ∧ c.toLower.isLower = true) := by
  cases upper : c.isUpper with
  | true => exact Or.inr ⟨Bool.or_eq_true_iff.mpr (.inl upper), isLower_toLower upper⟩
  | false => exact Or.inl (toLower_of_not_isUpper upper)

theorem toLower_toLower_char (c : Char) : c.toLower.toLower = c.toLower := by
  rcases toLower_cases c with same | ⟨-, lower⟩
  · rw [same, same]
  · exact toLower_of_not_isUpper (not_isUpper_of_isLower lower)

theorem toLower_toLower (text : Text) : toLower (toLower text) = toLower text := by
  unfold toLower
  rw [List.map_map]
  exact List.map_congr_left fun c _ => toLower_toLower_char c

theorem isNameChar_of_mem_withoutDuplicates {duppl : Bool} {name : Text} {c : Char}
    (member : c ∈ withoutDuplicates duppl name) : isNameChar c = true := by
  induction name generalizing duppl with
  | nil => exact absurd member List.not_mem_nil
  | cons d rest later =>
    unfold withoutDuplicates at member
    split_ifs at member with kept again
    · rcases List.mem_cons.mp member with rfl | member
      · exact kept
      · exact later member
    · exact later member
    · rcases List.mem_cons.mp member with rfl | member
      · rfl
      · exact later member

theorem isNameChar_of_isAlpha (isAlpha : c.isAlpha = true) : isNameChar c = true := by
  simp [isNameChar, Char.isAlphanum, isAlpha]

theorem isBlank_of_isAlpha (isAlpha : c.isAlpha = true) : isBlank c = false := by
  have other {d : Char} (noLetter : d.isAlpha = false) : c ≠ d := by
    rintro rfl
    exact absurd isAlpha (by rw [noLetter]; exact Bool.false_ne_true)
  have blanks : c ≠ ' ' ∧ c ≠ '\t' ∧ c ≠ '\r' ∧ c ≠ '\n' :=
    ⟨other rfl, other rfl, other rfl, other rfl⟩
  simp [isBlank, blanks]

theorem isNameChar_toLower (isName : isNameChar c = true) : isNameChar c.toLower = true := by
  rcases toLower_cases c with same | ⟨-, lower⟩
  · rwa [same]
  · exact isNameChar_of_isAlpha (Bool.or_eq_true_iff.mpr (.inr lower))

theorem isBlank_toLower (c : Char) : isBlank c.toLower = isBlank c := by
  rcases toLower_cases c with same | ⟨letter, lower⟩
  · rw [same]
  · rw [isBlank_of_isAlpha letter, isBlank_of_isAlpha (Bool.or_eq_true_iff.mpr (.inr lower))]

theorem trim_toLower (text : Text) : Text.trim isBlank (toLower text) = toLower (Text.trim isBlank text) :=
  Text.trim_map isBlank isBlank_toLower text

theorem isId_transformNameIntoID (name : Text) : IsId (transformNameIntoID name) := by
  unfold transformNameIntoID
  split_ifs
  · exact ⟨by decide, by decide, by decide⟩
  refine ⟨fun c member => ?_, toLower_toLower _, ?_⟩
  · obtain ⟨d, inside, rfl⟩ := List.mem_map.mp member
    exact isNameChar_toLower (isNameChar_of_mem_withoutDuplicates (Text.mem_of_mem_trim isBlank inside))
  · rw [trim_toLower, Text.trim_trim]

theorem withoutDuplicates_eq_self {duppl : Bool} {name : Text} (chars : ∀ c ∈ name, isNameChar c = true) :
    withoutDuplicates duppl name = name := by
  induction name generalizing duppl with
  | nil => rfl
  | cons c rest later =>
    unfold withoutDuplicates
    rw [if_pos (chars c List.mem_cons_self), later fun d member => chars d (List.mem_cons_of_mem c member)]

theorem transformNameIntoID_of_isId {id : Text} (isId : IsId id) (nonempty : id ≠ []) : transformNameIntoID id = id := by
  unfold transformNameIntoID
  rw [if_neg nonempty, withoutDuplicates_eq_self isId.chars, isId.trimmed, isId.lower]

end Antares.Data
