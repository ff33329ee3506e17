import Antares.Library.GeneralNumbers

/-! Numbers with six places after the point, and `strtod`, which tells where a number ends. -/

set_option autoImplicit false

namespace Antares.Library

open Significant

namespace Text

def padded (places n : Nat) : Text := List.replicate (places - (decimal n).length) '0' ++ decimal n

/-- The conversion `%f` of a number that is not negative. -/
def printFixed (v : ℚ) : Text :=
  let millionths := roundHalfEven (v * 10 ^ 6)
  decimal (millionths / 10 ^ 6) ++ '.' :: padded 6 (millionths % 10 ^ 6)

def printDouble : Double → Text
  | .finite v => (if v < 0 then ['-'] else []) ++ printFixed |v|
  | .infinite negative => (if negative then ['-'] else []) ++ ['i', 'n', 'f']
  | .nan => ['n', 'a', 'n']

def afterExponent (mark : Char) : Text → Text
  | [] => []
  | c :: rest =>
    let number := digits 10 (sign rest).2 0 0
    if c.toLower = mark ∧ number.count ≠ 0 then number.rest else c :: rest

def afterScan (base : Nat) (mark : Char) (text : Text) : Text :=
  afterExponent mark (afterPoint base (digits base text 0 0)).rest

/-- What follows the number of `magnitude`. -/
def afterMagnitude (text : Text) : Text :=
  if withoutBase text = text then afterScan 10 'e' text
  else
    match scan 16 'p' 2 (withoutBase text) with
    | some _ => afterScan 16 'p' (withoutBase text)
    | none => text.drop 1

def afterNan : Text → Text
  | '(' :: rest =>
    match rest.dropWhile fun c => c.isAlphanum || c == '_' with
    | ')' :: after => after
    | _ => '(' :: rest
  | text => text

/-- The number at the head of a text, and what follows; without a number, the whole text does. -/
def strtod (text : Text) : Double × Text :=
  let signed := sign (text.dropWhile isSpace)
  let lower := signed.2.map Char.toLower
  if ['i', 'n', 'f'].isPrefixOf lower then
    (.infinite signed.1, signed.2.drop (if "infinity".toList.isPrefixOf lower then 8 else 3))
  else if ['n', 'a', 'n'].isPrefixOf lower then (.nan, afterNan (signed.2.drop 3))
  else
    match magnitude signed.2 with
    | none => (.finite 0, text)
    | some size =>
      (if overflow ≤ size then .infinite signed.1 else .finite (if signed.1 then -size else size),
        afterMagnitude signed.2)

theorem strtod_of_scan {c : Char} {rest : Text} (isDigit : c.isDigit = true)
    (second : ∀ d ∈ rest.head?, d ≠ 'x' ∧ d ≠ 'X') {size : ℚ} (read : scan 10 'e' 10 (c :: rest) = some size)
    (finite : size < overflow) (negative : Bool) :
    strtod ((if negative then ['-'] else []) ++ c :: rest) =
      (.finite (if negative then -size else size), afterScan 10 'e' (c :: rest)) := by
  have same := @withoutBase_of_second (c :: rest) second
  have size' : magnitude (c :: rest) = some size := by
    rw [magnitude, if_pos same, read]
  have after : afterMagnitude (c :: rest) = afterScan 10 'e' (c :: rest) := if_pos same
  obtain ⟨notInf, notNan⟩ := @noWord_of_isDigit c rest isDigit
  unfold strtod
  rw [sign_dropWhile isDigit]
  dsimp only
  rw [notInf, notNan, if_neg Bool.false_ne_true, if_neg Bool.false_ne_true, size', after]
  dsimp only
  rw [if_neg (not_le.mpr finite)]

section
variable {whole fraction : Text} (wholeDigits : ∀ c ∈ whole, c.isDigit = true)
include wholeDigits

theorem afterScan_whole : afterScan 10 'e' whole = [] := by
  have read := digits_append wholeDigits [] 0 0 (fun c none => absurd none (by simp))
  rw [List.append_nil] at read
  unfold afterScan
  rw [read]
  rfl

variable (fractionDigits : ∀ c ∈ fraction, c.isDigit = true)
include fractionDigits

theorem digits_point : afterPoint 10 (digits 10 (whole ++ '.' :: fraction) 0 0) =
    { value := Nat.ofDigitChars 10 (whole ++ fraction) 0, count := fraction.length, rest := [] } := by
  have stops : ∀ d ∈ ('.' :: fraction).head?, digit 10 d = none := by
    intro d first
    obtain rfl := Option.some.inj first
    decide
  have read := digits_append fractionDigits [] (Nat.ofDigitChars 10 whole 0) 0 (fun c none => absurd none (by simp))
  rw [List.append_nil] at read
  rw [digits_append wholeDigits _ 0 0 stops]
  unfold afterPoint
  dsimp only
  rw [if_pos rfl, read, Nat.ofDigitChars_append, Nat.zero_add]

theorem afterScan_point : afterScan 10 'e' (whole ++ '.' :: fraction) = [] := by
  unfold afterScan
  rw [digits_point wholeDigits fractionDigits]
  rfl

theorem scan_point (nonempty : whole ≠ []) : scan 10 'e' 10 (whole ++ '.' :: fraction) =
    some ((Nat.ofDigitChars 10 (whole ++ fraction) 0 : ℚ) / 10 ^ fraction.length) := by
  have stops : ∀ d ∈ ('.' :: fraction).head?, digit 10 d = none := by
    intro d first
    obtain rfl := Option.some.inj first
    decide
  have count : (digits 10 (whole ++ '.' :: fraction) 0 0).count ≠ 0 := by
    rw [digits_append wholeDigits _ 0 0 stops]
    dsimp only
    have := List.length_pos_of_ne_nil nonempty
    omega
  unfold scan
  dsimp only
  rw [digits_point wholeDigits fractionDigits, if_neg (by dsimp only; omega)]
  dsimp only
  have noExponent : exponent 'e' 10 [] = 1 := rfl
  rw [noExponent, mul_one]
  norm_num

theorem strtod_point (nonempty : whole ≠ [])
    (finite : (Nat.ofDigitChars 10 (whole ++ fraction) 0 : ℚ) / 10 ^ fraction.length < overflow) (negative : Bool) :
    strtod ((if negative then ['-'] else []) ++ (whole ++ '.' :: fraction)) =
      (.finite (if negative then -((Nat.ofDigitChars 10 (whole ++ fraction) 0 : ℚ) / 10 ^ fraction.length)
        else (Nat.ofDigitChars 10 (whole ++ fraction) 0 : ℚ) / 10 ^ fraction.length), []) := by
  have read := scan_point wholeDigits fractionDigits nonempty
  have after := afterScan_point wholeDigits fractionDigits
  obtain ⟨c, others, rfl⟩ := List.exists_cons_of_ne_nil nonempty
  have second : ∀ d ∈ (others ++ '.' :: fraction).head?, d ≠ 'x' ∧ d ≠ 'X' := by
    apply no_second fun d member => wholeDigits d (List.mem_cons_of_mem c member)
    intro d first
    obtain rfl := Option.some.inj first
    decide
  have joined : c :: others ++ '.' :: fraction = c :: (others ++ '.' :: fraction) := rfl
  rw [joined] at read after ⊢
  rw [strtod_of_scan (wholeDigits c List.mem_cons_self) second read finite, after]

end

theorem strtod_whole {whole : Text} (wholeDigits : ∀ c ∈ whole, c.isDigit = true) (nonempty : whole ≠ [])
    (finite : (Nat.ofDigitChars 10 whole 0 : ℚ) < overflow) (negative : Bool) :
    strtod ((if negative then ['-'] else []) ++ whole) =
      (.finite (if negative then -(Nat.ofDigitChars 10 whole 0 : ℚ) else Nat.ofDigitChars 10 whole 0), []) := by
  have read := scan_decimal wholeDigits (fun d member => absurd member List.not_mem_nil) nonempty stops_nil
  have noExponent : exponent 'e' 10 [] = 1 := rfl
  rw [pointed, List.nil_append, List.append_nil, List.length_nil, pow_zero, div_one, noExponent, mul_one] at read
  have after := afterScan_whole wholeDigits
  obtain ⟨c, others, rfl⟩ := List.exists_cons_of_ne_nil nonempty
  have second : ∀ d ∈ others.head?, d ≠ 'x' ∧ d ≠ 'X' := by
    have := @no_second others [] (fun d member => wholeDigits d (List.mem_cons_of_mem c member))
      (fun d none => absurd none (by simp))
    rwa [List.append_nil] at this
  rw [strtod_of_scan (wholeDigits c List.mem_cons_self) second read finite, after]

section
variable (places n : Nat)

theorem isDigit_of_mem_padded {places n : Nat} {c : Char} (member : c ∈ padded places n) : c.isDigit = true := by
  rcases List.mem_append.mp member with zero | digit
  · rw [List.eq_of_mem_replicate zero]
    rfl
  · exact isDigit_of_mem_decimal digit

theorem ofDigitChars_padded : Nat.ofDigitChars 10 (padded places n) 0 = n := by
  unfold padded
  rw [Nat.ofDigitChars_append, Nat.ofDigitChars_replicate_zero, Nat.mul_zero]
  exact Nat.ofDigitChars_toDigits (by decide) (by decide)

theorem length_padded {places n : Nat} (some : 0 < places) (small : n < 10 ^ places) : (padded places n).length = places := by
  have := length_decimal_le some small
  unfold padded
  rw [List.length_append, List.length_replicate]
  omega

end

theorem ofDigitChars_lt {text : Text} (isDigits : ∀ c ∈ text, c.isDigit = true) :
    Nat.ofDigitChars 10 text 0 < 10 ^ text.length := by
  induction text using List.reverseRecOn with
  | nil => exact Nat.one_pos
  | append_singleton text c ih =>
    have before := ih fun d member => isDigits d (List.mem_append_left _ member)
    have last := isDigits c (List.mem_append_right _ List.mem_cons_self)
    have digit : c.toNat - '0'.toNat < 10 := by
      have high : c.toNat ≤ 57 := (Char.isDigit_iff_toNat.mp last).2
      have zero : '0'.toNat = 48 := rfl
      omega
    rw [Nat.ofDigitChars_append, List.length_append, List.length_singleton, pow_succ, Nat.ofDigitChars_cons,
      Nat.ofDigitChars_nil]
    omega

theorem ofDigitChars_fixed {places : Nat} (some : 0 < places) (n : Nat) :
    Nat.ofDigitChars 10 (decimal (n / 10 ^ places) ++ padded places (n % 10 ^ places)) 0 = n := by
  have length : (padded places (n % 10 ^ places)).length = places :=
    length_padded some (Nat.mod_lt _ (pow_pos (by decide) places))
  have whole : Nat.ofDigitChars 10 (decimal (n / 10 ^ places)) 0 = n / 10 ^ places :=
    Nat.ofDigitChars_toDigits (by decide) (by decide)
  rw [Nat.ofDigitChars_append, Nat.ofDigitChars_eq_ofDigitChars_zero, ofDigitChars_padded, length, whole]
  exact Nat.div_add_mod n (10 ^ places)

theorem strtod_fixed {places n : Nat} (some : 0 < places) (finite : (n : ℚ) / 10 ^ places < overflow) (negative : Bool) :
    strtod ((if negative then ['-'] else []) ++ (decimal (n / 10 ^ places) ++ '.' :: padded places (n % 10 ^ places))) =
      (.finite (if negative then -((n : ℚ) / 10 ^ places) else (n : ℚ) / 10 ^ places), []) := by
  have length : (padded places (n % 10 ^ places)).length = places :=
    length_padded some (Nat.mod_lt _ (pow_pos (by decide) places))
  have read := @strtod_point (decimal (n / 10 ^ places)) (padded places (n % 10 ^ places)) (fun c => isDigit_of_mem_decimal)
    (fun c => isDigit_of_mem_padded) (decimal_ne_nil _)
  rw [ofDigitChars_fixed some n, length] at read
  exact read finite negative

theorem strtod_printFixed {v : ℚ} (finite : (roundHalfEven (v * 10 ^ 6) : ℚ) / 10 ^ 6 < overflow) (negative : Bool) :
    strtod ((if negative then ['-'] else []) ++ printFixed v) =
      (.finite (if negative then -((roundHalfEven (v * 10 ^ 6) : ℚ) / 10 ^ 6)
        else (roundHalfEven (v * 10 ^ 6) : ℚ) / 10 ^ 6), []) :=
  strtod_fixed (by decide) finite negative

theorem strtod_take_whole {k size : Nat} (finite : (k : ℚ) < overflow) (some : 0 < size) (negative : Bool) :
    ∃ read : Nat, strtod ((if negative then ['-'] else []) ++ (printFixed k).take size) =
      (.finite (if negative then -(read : ℚ) else read), []) ∧ (read = k ↔ k < 10 ^ size) := by
  have number : roundHalfEven ((k : ℚ) * 10 ^ 6) = k * 10 ^ 6 := by
    have := roundHalfEven_natCast (k * 10 ^ 6)
    push_cast at this
    exact this
  have printed : printFixed k = decimal k ++ '.' :: List.replicate 6 '0' := by
    unfold printFixed
    dsimp only
    rw [number, Nat.mul_div_cancel k (pow_pos (by decide) 6), Nat.mul_mod_left]
    rfl
  have value : Nat.ofDigitChars 10 (decimal k) 0 = k := Nat.ofDigitChars_toDigits (by decide) (by decide)
  have digits : ∀ c ∈ decimal k, c.isDigit = true := fun c => isDigit_of_mem_decimal
  rw [printed]
  rcases le_or_gt (decimal k).length size with fits | cut
  · have small : k < 10 ^ size := by
      have below := ofDigitChars_lt digits
      rw [value] at below
      exact below.trans_le (Nat.pow_le_pow_right (by decide) fits)
    use k
    apply And.intro _ (iff_of_true rfl small)
    rw [List.take_append, List.take_of_length_le fits]
    cases size - (decimal k).length with
    | zero =>
      have read := strtod_whole digits (decimal_ne_nil k) (by rwa [value]) negative
      rw [value] at read
      rwa [List.take_zero, List.append_nil]
    | succ places =>
      have zeros : ∀ c ∈ List.replicate (min places 6) '0', c.isDigit = true := by
        intro c member
        rw [List.eq_of_mem_replicate member]
        rfl
      have all : Nat.ofDigitChars 10 (decimal k ++ List.replicate (min places 6) '0') 0 = k * 10 ^ min places 6 := by
        rw [Nat.ofDigitChars_append, value, Nat.ofDigitChars_replicate_zero, Nat.mul_comm]
      have same : ((k * 10 ^ min places 6 : Nat) : ℚ) / 10 ^ min places 6 = k := by
        push_cast
        exact mul_div_cancel_right₀ _ (pow_ne_zero _ (by norm_num))
      have read := @strtod_point (decimal k) (List.replicate (min places 6) '0') digits zeros (decimal_ne_nil k)
      rw [all, List.length_replicate, same] at read
      rw [List.take_succ_cons, List.take_replicate]
      exact read finite negative
  · have short : ∀ c ∈ (decimal k).take size, c.isDigit = true := fun c member => digits c (List.mem_of_mem_take member)
    have length : ((decimal k).take size).length = size := List.length_take_of_le cut.le
    have below := ofDigitChars_lt short
    rw [length] at below
    have large : 10 ^ size ≤ k := by
      by_contra small
      exact absurd (length_decimal_le some (not_le.mp small)) (not_le.mpr cut)
    have nonempty : (decimal k).take size ≠ [] := List.ne_nil_of_length_pos (by omega)
    use Nat.ofDigitChars 10 ((decimal k).take size) 0
    rw [List.take_append_of_le_length cut.le]
    apply And.intro
    · apply strtod_whole short nonempty
      exact lt_trans (by exact_mod_cast below.trans_le large) finite
    · exact iff_of_false (by omega) (by omega)

end Text

end Antares.Library
