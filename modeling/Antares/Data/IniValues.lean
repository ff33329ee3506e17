import Antares.Data.IniFile
import Antares.Library.FixedNumbers

/-! The values of INI properties: how numbers and booleans are written, and read back. -/

set_option autoImplicit false

namespace Antares.Data

open Library Library.Significant

namespace IniFile

def doubleSize : Nat := 255

def ofDouble (value : Text.Double) : Text := (Text.printDouble value).take doubleSize

def ofBool (value : Bool) : Text := if value then "true".toList else "false".toList

/-- `to<double>`: the value is set in any case, and the whole text has to be one number. -/
def toDouble (text : Text) : Text.Double × Bool :=
  if text = [] then (.finite 0, true) else ((Text.strtod text).1, (Text.strtod text).2 = [])

/-- `to<bool>` accepts any text. -/
def toBool (text : Text) : Bool :=
  if text.length = 1 then text ∈ [['1'], ['Y'], ['y'], ['O'], ['o'], ['t'], ['T']]
  else toLower text ∈ ["true".toList, "on".toList, "yes".toList]

theorem toBool_ofBool (value : Bool) : toBool (ofBool value) = value := by
  cases value with
  | true => decide
  | false => decide

/-- A finite double; from `2 ^ 53` on, it has no fraction. -/
structure OfDouble (v : ℚ) : Prop where
  finite : |v| < Text.overflow
  whole : 2 ^ 53 ≤ |v| → ∃ n : Nat, |v| = n

variable (v : ℚ)

def unsignedSize : Nat := if v < 0 then doubleSize - 1 else doubleSize

/-- What six places after the point, and a text that is not cut within its whole part, can hold. -/
def Millionths : Prop := (∃ n : Nat, |v| * 10 ^ 6 = n) ∧ |v| < 10 ^ unsignedSize v

theorem ofDouble_finite : ofDouble (.finite v) =
    (if decide (v < 0) then ['-'] else []) ++ (Text.printFixed |v|).take (unsignedSize v) := by
  unfold ofDouble unsignedSize
  rw [Text.printDouble]
  by_cases negative : v < 0
  · rw [if_pos negative, if_pos negative, if_pos (decide_eq_true negative)]
    rfl
  · rw [if_neg negative, if_neg negative, if_neg (by rwa [decide_eq_true_eq]), List.nil_append, List.nil_append]

theorem unsignedSize_le : 254 ≤ unsignedSize v := by
  unfold unsignedSize doubleSize
  split_ifs
  · exact le_rfl
  · decide

theorem signed_eq_iff {v size : ℚ} : (if decide (v < 0) then -size else size) = v ↔ size = |v| := by
  by_cases negative : v < 0
  · rw [if_pos (decide_eq_true negative), abs_of_neg negative, neg_eq_iff_eq_neg]
  · rw [if_neg (by rwa [decide_eq_true_eq]), abs_of_nonneg (not_lt.mp negative)]

theorem toDouble_eq {value : Text.Double} {read : Text.Double} (number : Text.strtod (ofDouble value) = (read, []))
    (nonempty : ofDouble value ≠ []) : toDouble (ofDouble value) = (read, true) := by
  unfold toDouble
  rw [if_neg nonempty, number]
  rfl

theorem ofDouble_ne_nil : ofDouble (.finite v) ≠ [] := by
  have size := unsignedSize_le v
  have printed : Text.printFixed |v| ≠ [] := by
    unfold Text.printFixed
    exact List.append_ne_nil_of_left_ne_nil (Text.decimal_ne_nil _) _
  have kept : (Text.printFixed |v|).take (unsignedSize v) ≠ [] := by
    rw [Ne, List.take_eq_nil_iff]
    exact not_or.mpr ⟨by omega, printed⟩
  rw [ofDouble_finite]
  exact List.append_ne_nil_of_right_ne_nil _ kept

section
variable {v : ℚ}

theorem millionths_lt (small : |v| < 2 ^ 53) : roundHalfEven (|v| * 10 ^ 6) < 10 ^ 23 := by
  have lower : ((0 : Nat) : ℚ) ≤ |v| * 10 ^ 6 := by
    rw [Nat.cast_zero]
    exact mul_nonneg (abs_nonneg v) (ten_pow_pos 6).le
  have upper : |v| * 10 ^ 6 < (10 ^ 22 : Nat) := by
    have := mul_lt_mul_of_pos_right small (ten_pow_pos 6)
    exact this.trans (by norm_num)
  exact (roundHalfEven_mem lower upper).2.trans_lt (by norm_num)

theorem length_printFixed_le (small : |v| < 2 ^ 53) : (Text.printFixed |v|).length ≤ 24 := by
  have bound := millionths_lt small
  unfold Text.printFixed
  dsimp only
  generalize roundHalfEven (|v| * 10 ^ 6) = n at bound
  have whole : n / 10 ^ 6 < 10 ^ 17 := by omega
  have := Text.length_decimal_le (by decide) whole
  rw [List.length_append, List.length_cons, Text.length_padded (by decide) (Nat.mod_lt _ (pow_pos (by decide) 6))]
  omega

theorem toDouble_of_small (small : |v| < 2 ^ 53) :
    ∃ read, toDouble (ofDouble (.finite v)) = (read, true) ∧ (read = .finite v ↔ Millionths v) := by
  have size := unsignedSize_le v
  have written : ofDouble (.finite v) = (if decide (v < 0) then ['-'] else []) ++ Text.printFixed |v| := by
    have := length_printFixed_le small
    rw [ofDouble_finite, List.take_of_length_le (by omega)]
  have finite : (roundHalfEven (|v| * 10 ^ 6) : ℚ) / 10 ^ 6 < Text.overflow := by
    have bound : (roundHalfEven (|v| * 10 ^ 6) : ℚ) < 10 ^ 23 := by exact_mod_cast millionths_lt small
    have large : (2 : ℚ) ^ 80 ≤ 2 ^ 970 := pow_le_pow_right₀ (by norm_num) (by decide)
    apply Text.lt_overflow
    rw [div_lt_iff₀ (ten_pow_pos 6)]
    have enough : (10 : ℚ) ^ 23 < 2 ^ 80 * 10 ^ 6 := by norm_num
    exact (bound.trans enough).trans_le (mul_le_mul_of_nonneg_right large (ten_pow_pos 6).le)
  have number := Text.strtod_printFixed finite (decide (v < 0))
  rw [← written] at number
  have short : |v| < 10 ^ unsignedSize v := by
    have : (10 : ℚ) ^ 254 ≤ 10 ^ unsignedSize v := pow_le_pow_right₀ (by norm_num) size
    exact (small.trans (by norm_num)).trans_le this
  refine ⟨_, toDouble_eq number (ofDouble_ne_nil v), ?_⟩
  rw [Text.Double.finite.injEq, signed_eq_iff, div_eq_iff (ten_pow_pos 6).ne']
  constructor
  · intro same
    exact ⟨⟨roundHalfEven (|v| * 10 ^ 6), same.symm⟩, short⟩
  · intro ⟨⟨n, same⟩, _⟩
    rw [same, roundHalfEven_natCast]

theorem toDouble_of_large (double : OfDouble v) (large : 2 ^ 53 ≤ |v|) :
    ∃ read, toDouble (ofDouble (.finite v)) = (read, true) ∧ (read = .finite v ↔ Millionths v) := by
  have size := unsignedSize_le v
  obtain ⟨k, whole⟩ := double.whole large
  have finite := double.finite
  rw [whole] at finite
  obtain ⟨read, number, exactly⟩ := @Text.strtod_take_whole k (unsignedSize v) finite (by omega) (decide (v < 0))
  rw [← whole, ← ofDouble_finite] at number
  refine ⟨_, toDouble_eq number (ofDouble_ne_nil v), ?_⟩
  rw [Text.Double.finite.injEq, signed_eq_iff, whole, Nat.cast_inj, exactly]
  unfold Millionths
  rw [whole]
  constructor
  · intro short
    refine ⟨⟨k * 10 ^ 6, by push_cast; rfl⟩, ?_⟩
    exact_mod_cast short
  · intro millionths
    exact_mod_cast millionths.2

end

def IsDouble : Text.Double → Prop
  | .finite v => OfDouble v
  | .infinite _ => True
  | .nan => True

def ReadBack : Text.Double → Prop
  | .finite v => Millionths v
  | .infinite _ => True
  | .nan => True

variable {value : Text.Double}

theorem toDouble_ofDouble (double : IsDouble value) :
    ∃ read, toDouble (ofDouble value) = (read, true) ∧ (read = value ↔ ReadBack value) := by
  cases value with
  | finite v =>
    rcases lt_or_ge |v| (2 ^ 53) with small | large
    · exact toDouble_of_small small
    · exact toDouble_of_large double large
  | infinite negative =>
    use .infinite negative
    cases negative with
    | false => exact ⟨by decide, iff_of_true rfl trivial⟩
    | true => exact ⟨by decide, iff_of_true rfl trivial⟩
  | nan => exact ⟨.nan, by decide, iff_of_true rfl trivial⟩

theorem of_mem_printFixed {v : ℚ} {c : Char} (member : c ∈ Text.printFixed v) : c.isDigit = true ∨ c = '.' := by
  unfold Text.printFixed at member
  rcases List.mem_append.mp member with whole | rest
  · exact .inl (Text.isDigit_of_mem_decimal whole)
  · rcases List.mem_cons.mp rest with point | fraction
    · exact .inr point
    · exact .inl (Text.isDigit_of_mem_padded fraction)

theorem of_mem_ofDouble {c : Char} (member : c ∈ ofDouble value) :
    c.isDigit = true ∨ c ∈ ['.', '-', 'i', 'n', 'f', 'a'] := by
  have printed := List.mem_of_mem_take member
  cases value with
  | finite v =>
    rcases List.mem_append.mp printed with minus | number
    · split_ifs at minus
      · rw [List.mem_singleton.mp minus]
        decide
      · exact absurd minus List.not_mem_nil
    · rcases of_mem_printFixed number with digit | rfl
      · exact .inl digit
      · decide
  | infinite negative =>
    have letters : ∀ c ∈ Text.printDouble (.infinite negative), c.isDigit = true ∨ c ∈ ['.', '-', 'i', 'n', 'f', 'a'] := by
      cases negative with
      | false => decide
      | true => decide
    exact letters c printed
  | nan =>
    have letters : ∀ c ∈ Text.printDouble .nan, c.isDigit = true ∨ c ∈ ['.', '-', 'i', 'n', 'f', 'a'] := by decide
    exact letters c printed

theorem noBlank_ofDouble {c : Char} (member : c ∈ ofDouble value) :
    isBlank c = false ∧ c ≠ Char.ofNat 0 ∧ c ≠ '\n' ∧ c ≠ '\r' := by
  rcases of_mem_ofDouble member with digit | other
  · have ne {d : Char} (noDigit : d.isDigit = false) : c ≠ d := Text.ne_of_isDigit digit noDigit
    have blanks : c ≠ ' ' ∧ c ≠ '\t' ∧ c ≠ '\r' ∧ c ≠ '\n' := ⟨ne rfl, ne rfl, ne rfl, ne rfl⟩
    exact ⟨by simp [isBlank, blanks], ne rfl, ne rfl, ne rfl⟩
  · have all : ∀ d ∈ ['.', '-', 'i', 'n', 'f', 'a'], isBlank d = false ∧ d ≠ Char.ofNat 0 ∧ d ≠ '\n' ∧ d ≠ '\r' := by decide
    exact all c other

theorem trim_ofDouble (value : Text.Double) : Text.trim isBlank (ofDouble value) = ofDouble value := by
  rcases Decidable.eq_or_ne (ofDouble value) [] with empty | some
  · rw [empty]
    rfl
  · exact (Text.tight_of_forall some fun c member => (noBlank_ofDouble member).1).trim_eq

end IniFile

end Antares.Data
