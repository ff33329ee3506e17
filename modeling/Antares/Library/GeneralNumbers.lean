import Antares.Library.SignificantDigits

/-! Numbers of any sign and any size written with so many significant digits, and read back. -/

set_option autoImplicit false

namespace Antares.Library

namespace Significant

/-- How many places the first digit of a number above one stands before the last one of its whole part. -/
def order (v : ℚ) : Nat := Nat.log 10 ⌊v⌋₊

variable (places : Nat)

/-- The digits that are kept of a number above one, and the place of the first one. -/
def roundLarge (v : ℚ) : Nat × Nat :=
  let digits := roundHalfEven (v * 10 ^ places / 10 ^ order v)
  if digits = 10 ^ (places + 1) then (10 ^ places, order v + 1) else (digits, order v)

def withoutZeros (text : Text) : Text := text.rdropWhile fun c => c == '0'

/-- The conversion `%g` of a number above one. -/
def printLarge (v : ℚ) : Text :=
  let rounded := roundLarge places v
  let digits := Text.decimal rounded.1
  if rounded.2 ≤ places then
    digits.take (rounded.2 + 1) ++ Text.pointed (withoutZeros (digits.drop (rounded.2 + 1)))
  else
    match withoutZeros digits with
    | [] => []
    | first :: others => first :: (Text.pointed others ++ 'e' :: '+' :: exponentDigits rounded.2)

/-- The conversion `%g`. -/
def printSigned (v : ℚ) : Text :=
  (if v < 0 then ['-'] else []) ++ if |v| ≤ 1 then print places |v| else printLarge places |v|

def HasDigits (count : Nat) (v : ℚ) : Prop :=
  ∃ digits zeros exponent : Nat, digits < 10 ^ count ∧ |v| = digits * 10 ^ zeros / 10 ^ exponent

theorem ten_pow_pos (n : Nat) : (0 : ℚ) < 10 ^ n := pow_pos (by norm_num) n

section
variable {v : ℚ} (large : 1 < v)
include large

theorem order_bounds : (10 : ℚ) ^ order v ≤ v ∧ v < 10 ^ (order v + 1) := by
  have nonneg : 0 ≤ v := le_trans zero_le_one large.le
  have some : ⌊v⌋₊ ≠ 0 := (Nat.floor_pos.mpr large.le).ne'
  constructor
  · have low := Nat.pow_log_le_self 10 some
    calc (10 : ℚ) ^ order v = ((10 ^ Nat.log 10 ⌊v⌋₊ : Nat) : ℚ) := (Nat.cast_pow 10 _).symm
      _ ≤ ⌊v⌋₊ := Nat.cast_le.mpr low
      _ ≤ v := Nat.floor_le nonneg
  · have high : ⌊v⌋₊ < 10 ^ (order v + 1) := Nat.lt_pow_succ_log_self (by decide) _
    have := (Nat.floor_lt nonneg).mp high
    exact_mod_cast this

theorem exists_digits {places : Nat} (digits : HasDigits (places + 1) v) :
    ∃ kept : Nat, 10 ^ places ≤ kept ∧ kept < 10 ^ (places + 1) ∧ roundLarge places v = (kept, order v) ∧
      v * 10 ^ places = kept * 10 ^ order v := by
  obtain ⟨low, high⟩ := order_bounds large
  obtain ⟨few, zeros, exponent, bound, value⟩ := digits
  rw [abs_of_pos (lt_trans zero_lt_one large)] at value
  have whole : v * 10 ^ exponent = few * 10 ^ zeros := by rw [value, div_mul_cancel₀ _ (ten_pow_pos _).ne']
  -- the last digit of the few stands within the places
  have within : order v + exponent ≤ places + zeros := by
    have step : (10 : ℚ) ^ (order v + exponent) < 10 ^ (places + 1 + zeros) :=
      calc (10 : ℚ) ^ (order v + exponent) = 10 ^ order v * 10 ^ exponent := pow_add _ _ _
        _ ≤ v * 10 ^ exponent := mul_le_mul_of_nonneg_right low (ten_pow_pos _).le
        _ = few * 10 ^ zeros := whole
        _ < 10 ^ (places + 1) * 10 ^ zeros :=
          mul_lt_mul_of_pos_right (by exact_mod_cast bound) (ten_pow_pos _)
        _ = 10 ^ (places + 1 + zeros) := (pow_add _ _ _).symm
    have := (pow_lt_pow_iff_right₀ (by norm_num : (1 : ℚ) < 10)).mp step
    omega
  have scaled : v * 10 ^ places = ((few * 10 ^ (places + zeros - (order v + exponent)) : Nat) : ℚ) * 10 ^ order v := by
    have split : places + zeros = (places + zeros - (order v + exponent)) + (order v + exponent) := by omega
    have powers : (10 : ℚ) ^ places * 10 ^ zeros =
        10 ^ (places + zeros - (order v + exponent)) * (10 ^ order v * 10 ^ exponent) := by
      rw [← pow_add, ← pow_add, ← pow_add, ← split]
    apply mul_right_cancel₀ (ten_pow_pos exponent).ne'
    calc v * 10 ^ places * 10 ^ exponent = v * 10 ^ exponent * 10 ^ places := by ring
      _ = few * (10 ^ places * 10 ^ zeros) := by rw [whole]; ring
      _ = _ := by rw [powers]; push_cast; ring
  have exact' : v * 10 ^ places / 10 ^ order v = ((few * 10 ^ (places + zeros - (order v + exponent)) : Nat) : ℚ) := by
    rw [scaled, mul_div_cancel_right₀ _ (ten_pow_pos _).ne']
  generalize few * 10 ^ (places + zeros - (order v + exponent)) = kept at scaled exact'
  have lower : 10 ^ places ≤ kept := by
    have : (10 : ℚ) ^ places ≤ kept := by
      rw [← exact', le_div_iff₀ (ten_pow_pos _), mul_comm]
      exact mul_le_mul_of_nonneg_right low (ten_pow_pos _).le
    exact_mod_cast this
  have upper : kept < 10 ^ (places + 1) := by
    have : (kept : ℚ) < 10 ^ (places + 1) := by
      rw [← exact', div_lt_iff₀ (ten_pow_pos _)]
      calc v * 10 ^ places < 10 ^ (order v + 1) * 10 ^ places := mul_lt_mul_of_pos_right high (ten_pow_pos _)
        _ = 10 ^ (places + 1) * 10 ^ order v := by rw [pow_succ, pow_succ]; ring
    exact_mod_cast this
  refine ⟨kept, lower, upper, ?_, scaled⟩
  unfold roundLarge
  rw [exact', roundHalfEven_natCast]
  exact if_neg upper.ne

end

theorem exponent_plus (n : Nat) : Text.exponent 'e' 10 ('e' :: '+' :: exponentDigits n) = (10 : ℚ) ^ n := by
  have isDigits : ∀ c ∈ exponentDigits n, c.isDigit = true := fun c member => isDigit_of_mem_exponentDigits member
  have read := Text.digits_append isDigits [] 0 0 (fun c none => absurd none (by simp))
  rw [List.append_nil, ofDigitChars_exponentDigits n] at read
  have signed : Text.sign ('+' :: exponentDigits n) = (false, exponentDigits n) := rfl
  unfold Text.exponent
  dsimp only
  rw [if_pos (by decide), signed]
  dsimp only
  rw [read, if_neg Bool.false_ne_true]
  norm_num

theorem exists_zeros (text : Text) : ∃ zeros, text = withoutZeros text ++ List.replicate zeros '0' := by
  refine ⟨(text.rtakeWhile fun c => c == '0').length, ?_⟩
  have zeros : text.rtakeWhile (fun c => c == '0') = List.replicate (text.rtakeWhile fun c => c == '0').length '0' := by
    refine List.eq_replicate_iff.mpr ⟨rfl, fun c member => ?_⟩
    exact beq_iff_eq.mp (List.mem_rtakeWhile_imp (p := fun c => c == '0') member)
  rw [← zeros]
  exact List.rdropWhile_append_rtakeWhile.symm

theorem no_second {text tail : Text} (isDigits : ∀ c ∈ text, c.isDigit = true)
    (others : ∀ d ∈ tail.head?, d ≠ 'x' ∧ d ≠ 'X') : ∀ d ∈ (text ++ tail).head?, d ≠ 'x' ∧ d ≠ 'X' := by
  cases text with
  | nil => exact others
  | cons c text =>
    intro d first
    obtain rfl := Option.some.inj first
    have isDigit := isDigits _ List.mem_cons_self
    exact ⟨Text.ne_of_isDigit isDigit rfl, Text.ne_of_isDigit isDigit rfl⟩

section
variable {places magnitude kept : Nat} {v : ℚ} {text : Text} (isDigits : ∀ c ∈ text, c.isDigit = true)
  (count : text.length = places + 1) (whole : Nat.ofDigitChars 10 text 0 = kept)
  (value : v * 10 ^ places = kept * 10 ^ magnitude)
include isDigits count whole value

theorem scan_pointed (near : magnitude ≤ places) :
    ∃ c rest, text.take (magnitude + 1) ++ Text.pointed (withoutZeros (text.drop (magnitude + 1))) = c :: rest ∧
      c.isDigit = true ∧ (∀ d ∈ rest.head?, d ≠ 'x' ∧ d ≠ 'X') ∧ Text.scan 10 'e' 10 (c :: rest) = some v := by
  obtain ⟨zeros, split⟩ := exists_zeros (text.drop (magnitude + 1))
  have fractionDigits : ∀ c ∈ withoutZeros (text.drop (magnitude + 1)), c.isDigit = true := fun c member =>
    isDigits c (List.mem_of_mem_drop ((List.rdropWhile_prefix _ _).subset member))
  have joined : text.take (magnitude + 1) ++ withoutZeros (text.drop (magnitude + 1)) ++ List.replicate zeros '0' = text := by
    rw [List.append_assoc, ← split, List.take_append_drop]
  have length : (withoutZeros (text.drop (magnitude + 1))).length + zeros = places - magnitude := by
    have := congrArg List.length split
    rw [List.length_append, List.length_replicate, List.length_drop, count] at this
    omega
  generalize withoutZeros (text.drop (magnitude + 1)) = fraction at fractionDigits joined length
  obtain ⟨c, others, shape⟩ : ∃ c others, text.take (magnitude + 1) = c :: others := by
    apply List.exists_cons_of_ne_nil
    intro none
    have := congrArg List.length none
    rw [List.length_take, count, List.length_nil] at this
    omega
  have takeDigits : ∀ d ∈ c :: others, d.isDigit = true := fun d member =>
    isDigits d (List.mem_of_mem_take (shape ▸ member))
  have read := Text.scan_decimal takeDigits fractionDigits (List.cons_ne_nil _ _) Text.stops_nil
  rw [List.append_nil, List.cons_append] at read
  rw [shape] at joined ⊢
  refine ⟨c, others ++ Text.pointed fraction, rfl, takeDigits c List.mem_cons_self, ?_, ?_⟩
  · apply no_second fun d member => takeDigits d (List.mem_cons_of_mem c member)
    have := @head_pointed fraction [] (fun d none => absurd none (by simp))
    rwa [List.append_nil] at this
  · have noExponent : Text.exponent 'e' 10 [] = 1 := rfl
    rw [← joined, Nat.ofDigitChars_append, Nat.ofDigitChars_replicate_zero] at whole
    rw [read, noExponent, mul_one]
    generalize Nat.ofDigitChars 10 (c :: others ++ fraction) 0 = number at whole
    congr 1
    rw [div_eq_iff (ten_pow_pos _).ne']
    -- the zeros left out and the digits of the whole part count against the places
    apply mul_right_cancel₀ (ten_pow_pos zeros).ne'
    have kept' : (number : ℚ) * 10 ^ zeros = kept := by
      rw [← whole]
      push_cast
      ring
    apply mul_right_cancel₀ (ten_pow_pos magnitude).ne'
    have total : fraction.length + (zeros + magnitude) = places := by omega
    rw [kept', ← value, mul_assoc, mul_assoc, ← pow_add, ← pow_add, total]

theorem scan_exponent (low : 10 ^ places ≤ kept) :
    ∃ c rest, (match withoutZeros text with
      | [] => []
      | first :: others => first :: (Text.pointed others ++ 'e' :: '+' :: exponentDigits magnitude)) = c :: rest ∧
      c.isDigit = true ∧ (∀ d ∈ rest.head?, d ≠ 'x' ∧ d ≠ 'X') ∧ Text.scan 10 'e' 10 (c :: rest) = some v := by
  obtain ⟨zeros, split⟩ := exists_zeros text
  have fewDigits : ∀ c ∈ withoutZeros text, c.isDigit = true := fun c member =>
    isDigits c ((List.rdropWhile_prefix _ _).subset member)
  rw [split, Nat.ofDigitChars_append, Nat.ofDigitChars_replicate_zero] at whole
  rw [split, List.length_append, List.length_replicate] at count
  obtain ⟨first, others, shape⟩ : ∃ first others, withoutZeros text = first :: others := by
    apply List.exists_cons_of_ne_nil
    intro none
    rw [none] at whole
    have zero : kept = 0 := whole.symm
    exact absurd low (not_le.mpr (zero ▸ pow_pos (by decide) places))
  rw [shape] at fewDigits whole count ⊢
  dsimp only
  have firstDigit : first.isDigit = true := fewDigits first List.mem_cons_self
  have otherDigits : ∀ c ∈ others, c.isDigit = true := fun c member => fewDigits c (List.mem_cons_of_mem first member)
  have read := @Text.scan_decimal [first] others _ (by simpa using firstDigit) otherDigits (List.cons_ne_nil _ _)
    (stops_exponent ('+' :: exponentDigits magnitude))
  rw [List.singleton_append, List.singleton_append] at read
  refine ⟨first, Text.pointed others ++ 'e' :: '+' :: exponentDigits magnitude, rfl, firstDigit, ?_, ?_⟩
  · refine head_pointed fun d letter => ?_
    obtain rfl := Option.some.inj letter
    decide
  · rw [read, exponent_plus]
    congr 1
    generalize Nat.ofDigitChars 10 (first :: others) 0 = number at whole
    have kept' : (number : ℚ) * 10 ^ zeros = kept := by
      rw [← whole]
      push_cast
      ring
    rw [List.length_cons] at count
    have total : others.length + zeros = places := by omega
    rw [div_mul_eq_mul_div, div_eq_iff (ten_pow_pos _).ne']
    apply mul_right_cancel₀ (ten_pow_pos zeros).ne'
    rw [mul_assoc, mul_comm ((10 : ℚ) ^ magnitude), ← mul_assoc, kept', ← value, mul_assoc, ← pow_add, total]

end

variable {places : Nat} {v : ℚ}

theorem scan_printLarge (large : 1 < v) (digits : HasDigits (places + 1) v) :
    ∃ c rest, printLarge places v = c :: rest ∧ c.isDigit = true ∧ (∀ d ∈ rest.head?, d ≠ 'x' ∧ d ≠ 'X') ∧
      Text.scan 10 'e' 10 (c :: rest) = some v := by
  obtain ⟨kept, low, high, rounded, value⟩ := exists_digits large digits
  have count := length_decimal low high
  have isDigits : ∀ c ∈ Text.decimal kept, c.isDigit = true := fun c member => Text.isDigit_of_mem_decimal member
  have whole : Nat.ofDigitChars 10 (Text.decimal kept) 0 = kept := Nat.ofDigitChars_toDigits (by decide) (by decide)
  unfold printLarge
  rw [rounded]
  dsimp only
  by_cases near : order v ≤ places
  · rw [if_pos near]
    exact scan_pointed isDigits count whole value near
  · rw [if_neg near]
    exact scan_exponent isDigits count whole value low

theorem scan_print_of_digits (nonneg : 0 ≤ v) (digits : HasDigits (places + 1) v) :
    ∃ c rest, (if v ≤ 1 then print places v else printLarge places v) = c :: rest ∧ c.isDigit = true ∧
      (∀ d ∈ rest.head?, d ≠ 'x' ∧ d ≠ 'X') ∧ Text.scan 10 'e' 10 (c :: rest) = some v := by
  by_cases small : v ≤ 1
  · rw [if_pos small]
    rcases nonneg.eq_or_lt with rfl | positive
    · have read := @Text.scan_decimal ['0'] [] [] (by decide) (by decide) (by decide) Text.stops_nil
      exact ⟨'0', [], if_pos rfl, rfl, fun d none => absurd none (by simp),
        by simpa [Text.pointed, Nat.ofDigitChars] using read⟩
    · obtain ⟨few, zeros, exponent, bound, value⟩ := digits
      rw [abs_of_nonneg nonneg] at value
      have full : printed places v = v := by
        rcases le_total zeros exponent with point | whole
        · refine @printed_of_digits places v nonneg small few (exponent - zeros) bound ?_
          have split : (10 : ℚ) ^ exponent = 10 ^ (exponent - zeros) * 10 ^ zeros := by
            rw [← pow_add, Nat.sub_add_cancel point]
          rw [value, split, mul_div_mul_right _ _ (ten_pow_pos zeros).ne']
        · -- a whole number, and so one
          have split : (10 : ℚ) ^ zeros = 10 ^ (zeros - exponent) * 10 ^ exponent := by
            rw [← pow_add, Nat.sub_add_cancel whole]
          rw [split, ← mul_assoc, mul_div_cancel_right₀ _ (ten_pow_pos exponent).ne'] at value
          have natural : v = ((few * 10 ^ (zeros - exponent) : Nat) : ℚ) := by
            rw [value]
            push_cast
            rfl
          have atMost : few * 10 ^ (zeros - exponent) ≤ 1 := by
            rw [natural] at small
            exact_mod_cast small
          have few' := lt_of_le_of_lt atMost (Nat.one_lt_pow (Nat.succ_ne_zero places) (by decide : 1 < 10))
          refine @printed_of_digits places v nonneg small _ 0 few' ?_
          rw [pow_zero, div_one]
          exact natural
      have read := @scan_print places v positive small
      rw [full] at read
      exact read
  · rw [if_neg small]
    exact scan_printLarge (not_le.mp small) digits

theorem stod_printSigned (digits : HasDigits (places + 1) v) (finite : |v| < Text.overflow) :
    Text.stod (printSigned places v) =
      if 0 < |v| ∧ |v| < Text.leastNormal then .error .outOfRange else .ok (.finite v) := by
  have same : HasDigits (places + 1) |v| := by
    unfold HasDigits
    rw [abs_abs]
    exact digits
  obtain ⟨c, rest, shape, isDigit, second, read⟩ := scan_print_of_digits (abs_nonneg v) same
  have number := Text.stod_of_scan isDigit second read (decide (v < 0))
  unfold printSigned
  rw [shape]
  simp only [decide_eq_true_eq] at number
  rw [number]
  have range : (Text.overflow ≤ |v| ∨ 0 < |v| ∧ |v| < Text.leastNormal) ↔ 0 < |v| ∧ |v| < Text.leastNormal :=
    or_iff_right (not_le.mpr finite)
  simp only [range]
  by_cases negative : v < 0
  · rw [if_pos negative, abs_of_neg negative, neg_neg]
  · rw [if_neg negative, abs_of_nonneg (not_lt.mp negative)]

theorem of_mem_printLarge {c : Char} (member : c ∈ printLarge places v) :
    c.isDigit = true ∨ c = '.' ∨ c = 'e' ∨ c = '+' := by
  have isDigits : ∀ c ∈ Text.decimal (roundLarge places v).1, c.isDigit = true := fun c member =>
    Text.isDigit_of_mem_decimal member
  unfold printLarge at member
  dsimp only at member
  generalize Text.decimal (roundLarge places v).1 = text at isDigits member
  have few : ∀ c ∈ withoutZeros text, c.isDigit = true := fun c member => isDigits c ((List.rdropWhile_prefix _ _).subset member)
  split_ifs at member
  · rcases List.mem_append.mp member with whole | fraction
    · exact .inl (isDigits c (List.mem_of_mem_take whole))
    · rcases mem_pointed fraction with point | digit
      · exact .inr (.inl point)
      · exact .inl (isDigits c (List.mem_of_mem_drop ((List.rdropWhile_prefix _ _).subset digit)))
  · cases shape : withoutZeros text with
    | nil =>
      rw [shape] at member
      exact absurd member List.not_mem_nil
    | cons first others =>
      rw [shape] at member few
      rcases List.mem_cons.mp member with rfl | member
      · exact .inl (few _ List.mem_cons_self)
      · rcases List.mem_append.mp member with fraction | exponent
        · rcases mem_pointed fraction with point | digit
          · exact .inr (.inl point)
          · exact .inl (few c (List.mem_cons_of_mem first digit))
        · simp only [List.mem_cons] at exponent
          rcases exponent with mark | plus | digit
          · exact .inr (.inr (.inl mark))
          · exact .inr (.inr (.inr plus))
          · exact .inl (isDigit_of_mem_exponentDigits digit)

theorem newline_not_mem_printSigned (places : Nat) (v : ℚ) : '\n' ∉ printSigned places v := by
  intro member
  unfold printSigned at member
  rcases List.mem_append.mp member with minus | number
  · split_ifs at minus
    · exact absurd minus (by decide)
    · exact absurd minus List.not_mem_nil
  · split_ifs at number
    · rcases of_mem_print number with digit | rest
      · exact absurd digit (by decide)
      · exact absurd rest (by decide)
    · rcases of_mem_printLarge number with digit | rest
      · exact absurd digit (by decide)
      · exact absurd rest (by decide)

end Significant

end Antares.Library
