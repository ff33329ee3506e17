import Antares.Library.NumberTexts

/-! Numbers between zero and one written with so many significant digits, and read back. -/

set_option autoImplicit false

namespace Antares.Library

namespace Significant

def roundHalfEven (v : ℚ) : Nat :=
  if v - ⌊v⌋₊ < 1 / 2 ∨ (v - ⌊v⌋₊ = 1 / 2 ∧ ⌊v⌋₊ % 2 = 0) then ⌊v⌋₊ else ⌊v⌋₊ + 1

def decade (v : ℚ) : Nat := Nat.clog 10 ⌈v⁻¹⌉₊

/-- The digits that are kept, so many after the first one, and the place of the first one. -/
structure Rounded where
  digits : Nat
  decade : Nat
  deriving DecidableEq, Repr

variable (places : Nat)

def Rounded.value (rounded : Rounded) : ℚ := rounded.digits / 10 ^ (places + rounded.decade)

def round (v : ℚ) : Rounded :=
  let digits := roundHalfEven (v * 10 ^ (places + decade v))
  if digits = 10 ^ (places + 1) then { digits := 10 ^ places, decade := decade v - 1 }
  else { digits := digits, decade := decade v }

def kept (digits : Nat) : Text := (Text.decimal digits).rdropWhile fun c => c == '0'

def exponentDigits (n : Nat) : Text := if n < 10 then '0' :: Text.decimal n else Text.decimal n

/-- The conversion `%g` of a number between zero and one. -/
def print (v : ℚ) : Text :=
  if v = 0 then ['0']
  else
    let rounded := round places v
    match kept rounded.digits with
    | [] => []
    | first :: others =>
      if rounded.decade = 0 then first :: Text.pointed others
      else if rounded.decade ≤ 4 then
        '0' :: Text.pointed (List.replicate (rounded.decade - 1) '0' ++ first :: others)
      else first :: (Text.pointed others ++ 'e' :: '-' :: exponentDigits rounded.decade)

def printed (v : ℚ) : ℚ := if v = 0 then 0 else (round places v).value places

theorem roundHalfEven_natCast (n : Nat) : roundHalfEven n = n := by
  unfold roundHalfEven
  rw [Nat.floor_natCast, sub_self, if_pos (Or.inl (by norm_num))]

theorem roundHalfEven_mem {v : ℚ} {low high : Nat} (lower : (low : ℚ) ≤ v) (upper : v < high) :
    low ≤ roundHalfEven v ∧ roundHalfEven v ≤ high := by
  have floorLow : low ≤ ⌊v⌋₊ := Nat.le_floor lower
  have floorHigh : ⌊v⌋₊ < high := (Nat.floor_lt ((Nat.cast_nonneg low).trans lower)).mpr upper
  unfold roundHalfEven
  split_ifs <;> omega

section
variable {v : ℚ} (positive : 0 < v) (le_one : v ≤ 1)
include positive

theorem one_le_decade : 1 ≤ v * 10 ^ decade v := by
  have inverse : v⁻¹ ≤ (10 : ℚ) ^ decade v := by
    have le := Nat.le_pow_clog (by decide : 1 < 10) ⌈v⁻¹⌉₊
    exact (Nat.le_ceil v⁻¹).trans (by exact_mod_cast le)
  calc (1 : ℚ) = v * v⁻¹ := (mul_inv_cancel₀ positive.ne').symm
    _ ≤ v * 10 ^ decade v := mul_le_mul_of_nonneg_left inverse positive.le

include le_one

theorem decade_lt : v * 10 ^ decade v < 10 := by
  rcases Nat.eq_zero_or_pos (decade v) with none | some
  · rw [none, pow_zero, mul_one]
    linarith
  · have more : 1 < ⌈v⁻¹⌉₊ := by
      by_contra few
      rw [decade, Nat.clog_of_right_le_one (not_lt.mp few)] at some
      exact absurd some (lt_irrefl 0)
    have below := Nat.pow_pred_clog_lt_self (by decide : 1 < 10) more
    have inverse : (10 : ℚ) ^ (decade v - 1) < v⁻¹ := by exact_mod_cast Nat.lt_ceil.mp below
    have split : decade v = decade v - 1 + 1 := by omega
    calc v * 10 ^ decade v = v * 10 ^ (decade v - 1) * 10 := by rw [split, pow_succ, Nat.add_sub_cancel, mul_assoc]
      _ < v * v⁻¹ * 10 := by gcongr
      _ = 10 := by rw [mul_inv_cancel₀ positive.ne', one_mul]

theorem round_digits (places : Nat) :
    10 ^ places ≤ (round places v).digits ∧ (round places v).digits < 10 ^ (places + 1) := by
  have low : ((10 ^ places : Nat) : ℚ) ≤ v * 10 ^ (places + decade v) := by
    have := mul_le_mul_of_nonneg_left (one_le_decade positive) (pow_nonneg (by norm_num : (0 : ℚ) ≤ 10) places)
    push_cast
    calc (10 : ℚ) ^ places = 10 ^ places * 1 := (mul_one _).symm
      _ ≤ 10 ^ places * (v * 10 ^ decade v) := this
      _ = v * 10 ^ (places + decade v) := by rw [pow_add]; ring
  have high : v * 10 ^ (places + decade v) < ((10 ^ (places + 1) : Nat) : ℚ) := by
    have := mul_lt_mul_of_pos_left (decade_lt positive le_one) (pow_pos (by norm_num : (0 : ℚ) < 10) places)
    push_cast
    calc v * 10 ^ (places + decade v) = 10 ^ places * (v * 10 ^ decade v) := by rw [pow_add]; ring
      _ < 10 ^ places * 10 := this
      _ = 10 ^ (places + 1) := (pow_succ _ _).symm
  obtain ⟨lower, upper⟩ := roundHalfEven_mem low high
  unfold round
  dsimp only
  by_cases carry : roundHalfEven (v * 10 ^ (places + decade v)) = 10 ^ (places + 1)
  · rw [if_pos carry]
    exact ⟨le_refl _, Nat.pow_lt_pow_right (by decide) (Nat.lt_succ_self places)⟩
  · rw [if_neg carry]
    exact ⟨lower, lt_of_le_of_ne upper carry⟩

end

theorem printed_of_digits {places : Nat} {v : ℚ} (nonneg : 0 ≤ v) (le_one : v ≤ 1) {digits exponent : Nat}
    (small : digits < 10 ^ (places + 1)) (value : v = digits / 10 ^ exponent) : printed places v = v := by
  rcases nonneg.eq_or_lt with rfl | positive
  · exact if_pos rfl
  have ten : (0 : ℚ) < 10 := by norm_num
  -- The first digit stands too early for the last one to be cut.
  have exponent_le : exponent ≤ places + decade v := by
    by_contra! late
    have first := one_le_decade positive
    have whole : v * 10 ^ exponent = digits := by rw [value, div_mul_cancel₀ _ (pow_pos ten _).ne']
    have split : (10 : ℚ) ^ exponent = 10 ^ decade v * 10 ^ (exponent - decade v) := by
      rw [← pow_add]
      congr 1
      omega
    have large : (10 : ℚ) ^ (places + 1) ≤ digits := by
      calc (10 : ℚ) ^ (places + 1) ≤ 10 ^ (exponent - decade v) :=
            pow_le_pow_right₀ (by norm_num) (by omega)
        _ = 1 * 10 ^ (exponent - decade v) := (one_mul _).symm
        _ ≤ v * 10 ^ decade v * 10 ^ (exponent - decade v) :=
            mul_le_mul_of_nonneg_right first (pow_pos ten _).le
        _ = digits := by rw [mul_assoc, ← split, whole]
    exact absurd small (not_lt.mpr (by exact_mod_cast large))
  have scaled : v * 10 ^ (places + decade v) = ((digits * 10 ^ (places + decade v - exponent) : Nat) : ℚ) := by
    have split : (10 : ℚ) ^ (places + decade v) = 10 ^ exponent * 10 ^ (places + decade v - exponent) := by
      rw [← pow_add]
      congr 1
      omega
    push_cast
    rw [split, ← mul_assoc, value, div_mul_cancel₀ _ (pow_pos ten _).ne']
  have exact' := roundHalfEven_natCast (digits * 10 ^ (places + decade v - exponent))
  rw [← scaled] at exact'
  have noCarry : roundHalfEven (v * 10 ^ (places + decade v)) ≠ 10 ^ (places + 1) := by
    intro carry
    rw [carry] at exact'
    rw [← exact'] at scaled
    have high := decade_lt positive le_one
    have : v * 10 ^ (places + decade v) = 10 ^ places * (v * 10 ^ decade v) := by rw [pow_add]; ring
    rw [this] at scaled
    push_cast at scaled
    rw [pow_succ] at scaled
    have := mul_left_cancel₀ (pow_pos ten places).ne' scaled
    linarith
  unfold printed round
  rw [if_neg positive.ne', if_neg noCarry]
  unfold Rounded.value
  dsimp only
  rw [exact', ← scaled, mul_div_cancel_right₀ _ (pow_pos ten _).ne']

section
variable (n : Nat)

theorem isDigit_of_mem_kept {n : Nat} {c : Char} (member : c ∈ kept n) : c.isDigit = true :=
  Text.isDigit_of_mem_decimal ((List.rdropWhile_prefix _ _).subset member)

theorem exists_decimal_eq : ∃ zeros, Text.decimal n = kept n ++ List.replicate zeros '0' := by
  refine ⟨((Text.decimal n).rtakeWhile fun c => c == '0').length, ?_⟩
  have zeros : (Text.decimal n).rtakeWhile (fun c => c == '0') =
      List.replicate ((Text.decimal n).rtakeWhile fun c => c == '0').length '0' := by
    refine List.eq_replicate_iff.mpr ⟨rfl, fun c member => ?_⟩
    exact beq_iff_eq.mp (List.mem_rtakeWhile_imp (p := fun c => c == '0') member)
  rw [← zeros]
  exact List.rdropWhile_append_rtakeWhile.symm

theorem ofDigitChars_exponentDigits : Nat.ofDigitChars 10 (exponentDigits n) 0 = n := by
  have value : Nat.ofDigitChars 10 (Text.decimal n) 0 = n := Nat.ofDigitChars_toDigits (by decide) (by decide)
  unfold exponentDigits
  split_ifs
  · exact value
  · exact value

theorem isDigit_of_mem_exponentDigits {n : Nat} {c : Char} (member : c ∈ exponentDigits n) : c.isDigit = true := by
  unfold exponentDigits at member
  split_ifs at member
  · rcases List.mem_cons.mp member with rfl | member
    · rfl
    · exact Text.isDigit_of_mem_decimal member
  · exact Text.isDigit_of_mem_decimal member

theorem exponent_exponentDigits : Text.exponent 'e' 10 ('e' :: '-' :: exponentDigits n) = ((10 : ℚ) ^ n)⁻¹ := by
  have isDigits : ∀ c ∈ exponentDigits n, c.isDigit = true := fun c member => isDigit_of_mem_exponentDigits member
  have read := Text.digits_append isDigits [] 0 0 (fun c none => absurd none (by simp))
  rw [List.append_nil, ofDigitChars_exponentDigits n] at read
  have signed : Text.sign ('-' :: exponentDigits n) = (true, exponentDigits n) := rfl
  unfold Text.exponent
  dsimp only
  rw [if_pos (by decide), signed]
  dsimp only
  rw [read, if_pos rfl]
  norm_num

end

theorem head_pointed {text tail : Text} (kept : ∀ d ∈ tail.head?, d ≠ 'x' ∧ d ≠ 'X') :
    ∀ d ∈ (Text.pointed text ++ tail).head?, d ≠ 'x' ∧ d ≠ 'X' := by
  cases text with
  | nil => exact kept
  | cons c text =>
    intro d first
    obtain rfl := Option.some.inj first
    decide

theorem stops_exponent (rest : Text) : Text.Stops ('e' :: rest) where
  noDigit c first := by
    obtain rfl := Option.some.inj first
    decide
  noPoint c first := by
    obtain rfl := Option.some.inj first
    decide

theorem kept_value (digits : Nat) :
    ∃ zeros, Text.decimal digits = kept digits ++ List.replicate zeros '0' ∧
      Nat.ofDigitChars 10 (kept digits) 0 * 10 ^ zeros = digits := by
  obtain ⟨zeros, split⟩ := exists_decimal_eq digits
  have whole : Nat.ofDigitChars 10 (Text.decimal digits) 0 = digits :=
    Nat.ofDigitChars_toDigits (by decide) (by decide)
  rw [split, Nat.ofDigitChars_append, Nat.ofDigitChars_replicate_zero] at whole
  exact ⟨zeros, split, by rw [mul_comm, whole]⟩

theorem length_decimal {places digits : Nat} (low : 10 ^ places ≤ digits) (high : digits < 10 ^ (places + 1)) :
    (Text.decimal digits).length = places + 1 := by
  refine le_antisymm (Text.length_decimal_le (Nat.succ_pos places) high) (Nat.succ_le_of_lt ?_)
  by_contra! short
  rcases Nat.eq_zero_or_pos places with rfl | some
  · exact Text.decimal_ne_nil _ (List.length_eq_zero_iff.mp (Nat.le_zero.mp short))
  · exact absurd ((Nat.length_toDigits_le_iff (by decide) some).mp short) (not_lt.mpr low)

theorem kept_ne_nil {digits : Nat} (positive : 0 < digits) : kept digits ≠ [] := by
  intro none
  obtain ⟨zeros, -, value⟩ := kept_value digits
  rw [none] at value
  simp [Nat.ofDigitChars] at value
  omega

theorem printed_lt {places : Nat} {v : ℚ} (nonneg : 0 ≤ v) (le_one : v ≤ 1) : printed places v < 10 := by
  rcases nonneg.eq_or_lt with rfl | positive
  · rw [show printed places 0 = 0 from if_pos rfl]
    norm_num
  have high : ((round places v).digits : ℚ) < 10 ^ (places + 1) := by
    exact_mod_cast (round_digits positive le_one places).2
  rw [show printed places v = (round places v).value places from if_neg positive.ne', Rounded.value,
    div_lt_iff₀ (pow_pos (by norm_num) _)]
  calc ((round places v).digits : ℚ) < 10 * 10 ^ places := by rwa [pow_succ, mul_comm] at high
    _ ≤ 10 * 10 ^ (places + (round places v).decade) := by
      have := pow_le_pow_right₀ (by norm_num : (1 : ℚ) ≤ 10) (Nat.le_add_right places (round places v).decade)
      linarith

/-- The three forms of a number: with its first digit before the point, with zeros before the first
digit, and with an exponent.
-/
theorem scan_print {places : Nat} {v : ℚ} (positive : 0 < v) (le_one : v ≤ 1) :
    ∃ c rest, print places v = c :: rest ∧ c.isDigit = true ∧ (∀ d ∈ rest.head?, d ≠ 'x' ∧ d ≠ 'X') ∧
      Text.scan 10 'e' 10 (c :: rest) = some (printed places v) := by
  obtain ⟨low, high⟩ := round_digits positive le_one places
  have unfolded : printed places v = (round places v).digits / 10 ^ (places + (round places v).decade) :=
    if_neg positive.ne'
  have isDigits : ∀ c ∈ kept (round places v).digits, c.isDigit = true := fun c member => isDigit_of_mem_kept member
  obtain ⟨zeros, split, value⟩ := kept_value (round places v).digits
  have count := length_decimal low high
  rw [split, List.length_append, List.length_replicate] at count
  have nonempty := kept_ne_nil (lt_of_lt_of_le (pow_pos (by decide) places) low)
  unfold print
  dsimp only
  rw [if_neg positive.ne']
  generalize round places v = rounded at *
  obtain ⟨first, others, shape⟩ := List.exists_cons_of_ne_nil nonempty
  rw [shape] at isDigits value count
  rw [shape]
  dsimp only
  have ten (n : Nat) : (10 : ℚ) ^ n ≠ 0 := (pow_pos (by norm_num) n).ne'
  have number : (Nat.ofDigitChars 10 (first :: others) 0 : ℚ) * 10 ^ zeros = rounded.digits := by exact_mod_cast value
  have firstDigit : first.isDigit = true := isDigits first List.mem_cons_self
  have otherDigits : ∀ c ∈ others, c.isDigit = true := fun c member => isDigits c (List.mem_cons_of_mem first member)
  have noExponent : Text.exponent 'e' 10 [] = 1 := rfl
  rw [List.length_cons] at count
  by_cases units : rounded.decade = 0
  · rw [if_pos units]
    have read := @Text.scan_decimal [first] others [] (by simpa using firstDigit) otherDigits (List.cons_ne_nil _ _) Text.stops_nil
    rw [List.append_nil, List.singleton_append, List.singleton_append] at read
    refine ⟨first, Text.pointed others, rfl, firstDigit, ?_, ?_⟩
    · have := @head_pointed others [] (fun d none => absurd none (by simp))
      rwa [List.append_nil] at this
    · rw [read, unfolded, ← number, units, noExponent, mul_one, show places + 0 = others.length + zeros by omega, pow_add]
      congr 1
      field_simp
  rw [if_neg units]
  by_cases near : rounded.decade ≤ 4
  · rw [if_pos near]
    have fraction : ∀ c ∈ List.replicate (rounded.decade - 1) '0' ++ first :: others, c.isDigit = true := by
      intro c member
      rcases List.mem_append.mp member with zero | digit
      · rw [List.eq_of_mem_replicate zero]
        rfl
      · exact isDigits c digit
    have read := @Text.scan_decimal ['0'] _ [] (by decide) fraction (List.cons_ne_nil _ _) Text.stops_nil
    rw [List.append_nil, List.singleton_append, List.singleton_append] at read
    refine ⟨'0', Text.pointed (List.replicate (rounded.decade - 1) '0' ++ first :: others), rfl, rfl, ?_, ?_⟩
    · have := @head_pointed (List.replicate (rounded.decade - 1) '0' ++ first :: others) []
        (fun d none => absurd none (by simp))
      rwa [List.append_nil] at this
    · have leading : Nat.ofDigitChars 10 ('0' :: (List.replicate (rounded.decade - 1) '0' ++ first :: others)) 0 =
          Nat.ofDigitChars 10 (first :: others) 0 := by
        rw [show '0' :: (List.replicate (rounded.decade - 1) '0' ++ first :: others) =
          List.replicate (rounded.decade - 1 + 1) '0' ++ first :: others from rfl, Nat.ofDigitChars_append,
          Nat.ofDigitChars_replicate_zero, Nat.mul_zero]
      rw [read, leading, unfolded, ← number, noExponent, mul_one, List.length_append, List.length_replicate, List.length_cons,
        show places + rounded.decade = rounded.decade - 1 + (others.length + 1) + zeros by omega, pow_add _ _ zeros]
      congr 1
      field_simp
  · rw [if_neg near]
    have read := @Text.scan_decimal [first] others _ (by simpa using firstDigit) otherDigits (List.cons_ne_nil _ _)
      (stops_exponent ('-' :: exponentDigits rounded.decade))
    rw [List.singleton_append, List.singleton_append] at read
    refine ⟨first, Text.pointed others ++ 'e' :: '-' :: exponentDigits rounded.decade, rfl, firstDigit, ?_, ?_⟩
    · refine head_pointed fun d letter => ?_
      obtain rfl := Option.some.inj letter
      decide
    · rw [read, exponent_exponentDigits, unfolded, ← number,
        show places + rounded.decade = others.length + rounded.decade + zeros by omega, pow_add _ _ zeros, pow_add]
      congr 1
      field_simp

theorem stod_print {places : Nat} {v : ℚ} (nonneg : 0 ≤ v) (le_one : v ≤ 1)
    (range : printed places v = 0 ∨ Text.leastNormal ≤ printed places v) :
    Text.stod (print places v) = .ok (.finite (printed places v)) := by
  have small : printed places v < 2 ^ 970 :=
    calc printed places v < 10 := printed_lt nonneg le_one
      _ < 2 ^ 4 := by norm_num
      _ ≤ 2 ^ 970 := pow_le_pow_right₀ (by norm_num) (by decide)
  have bounded : printed places v = 0 ∨ Text.leastNormal ≤ printed places v ∧ printed places v < Text.overflow :=
    range.imp_right fun normal => ⟨normal, Text.lt_overflow small⟩
  rcases nonneg.eq_or_lt with rfl | positive
  · have read := @Text.scan_decimal ['0'] [] [] (by decide) (by decide) (by decide) Text.stops_nil
    rw [show printed places 0 = 0 from if_pos rfl, show print places 0 = ['0'] from if_pos rfl]
    exact Text.stod_of_digit rfl (fun d none => absurd none (by simp))
      (by simpa [Text.pointed, Nat.ofDigitChars] using read) (Or.inl rfl)
  · obtain ⟨c, rest, shape, isDigit, second, read⟩ := @scan_print places v positive le_one
    rw [shape]
    exact Text.stod_of_digit isDigit second read bounded

theorem mem_pointed {text : Text} {c : Char} (member : c ∈ Text.pointed text) : c = '.' ∨ c ∈ text := by
  cases text with
  | nil => exact absurd member List.not_mem_nil
  | cons first others => exact List.mem_cons.mp member

theorem length_pointed_le (text : Text) : (Text.pointed text).length ≤ text.length + 1 := by
  cases text with
  | nil => exact Nat.zero_le _
  | cons first others => exact le_refl _

section
variable {places : Nat} {v : ℚ}

theorem of_mem_print {c : Char} (member : c ∈ print places v) : c.isDigit = true ∨ c = '.' ∨ c = 'e' ∨ c = '-' := by
  unfold print at member
  dsimp only at member
  by_cases zero : v = 0
  · rw [if_pos zero] at member
    exact Or.inl (List.mem_singleton.mp member ▸ rfl)
  rw [if_neg zero] at member
  have isDigits : ∀ d ∈ kept (round places v).digits, d.isDigit = true := fun d inside => isDigit_of_mem_kept inside
  cases shape : kept (round places v).digits with
  | nil =>
    rw [shape] at member
    exact absurd member List.not_mem_nil
  | cons first others =>
    rw [shape] at member isDigits
    dsimp only at member
    have otherDigits : ∀ d ∈ others, d.isDigit = true := fun d inside => isDigits d (List.mem_cons_of_mem first inside)
    split_ifs at member
    · rcases List.mem_cons.mp member with rfl | member
      · exact Or.inl (isDigits _ List.mem_cons_self)
      · exact (mem_pointed member).elim (fun point => Or.inr (Or.inl point)) (fun inside => Or.inl (otherDigits c inside))
    · rcases List.mem_cons.mp member with rfl | member
      · exact Or.inl rfl
      rcases mem_pointed member with point | inside
      · exact Or.inr (Or.inl point)
      rcases List.mem_append.mp inside with zeros | inside
      · exact Or.inl (List.eq_of_mem_replicate zeros ▸ rfl)
      · exact Or.inl (isDigits c inside)
    · rcases List.mem_cons.mp member with rfl | member
      · exact Or.inl (isDigits _ List.mem_cons_self)
      rcases List.mem_append.mp member with inside | member
      · exact (mem_pointed inside).elim (fun point => Or.inr (Or.inl point)) (fun inside => Or.inl (otherDigits c inside))
      rcases List.mem_cons.mp member with mark | member
      · exact Or.inr (Or.inr (Or.inl mark))
      rcases List.mem_cons.mp member with minus | member
      · exact Or.inr (Or.inr (Or.inr minus))
      · exact Or.inl (isDigit_of_mem_exponentDigits member)

theorem print_ne_nil (nonneg : 0 ≤ v) (le_one : v ≤ 1) : print places v ≠ [] := by
  rcases nonneg.eq_or_lt with rfl | positive
  · rw [show print places 0 = ['0'] from if_pos rfl]
    exact List.cons_ne_nil _ _
  · obtain ⟨c, rest, shape, -⟩ := @scan_print places v positive le_one
    rw [shape]
    exact List.cons_ne_nil _ _

theorem decade_round_lt (positive : 0 < v) (le_one : v ≤ 1) (normal : Text.leastNormal ≤ printed places v) :
    (round places v).decade < 10 ^ 4 := by
  by_contra! large
  have unfolded : printed places v = (round places v).digits / 10 ^ (places + (round places v).decade) :=
    if_neg positive.ne'
  have high : ((round places v).digits : ℚ) < 10 ^ (places + 1) := by
    exact_mod_cast (round_digits positive le_one places).2
  have ten (n : Nat) : (0 : ℚ) < 10 ^ n := pow_pos (by norm_num) n
  have tiny : printed places v < Text.leastNormal := by
    rw [unfolded, Text.leastNormal, div_lt_div_iff₀ (ten _) (pow_pos (by norm_num) _), one_mul]
    calc ((round places v).digits : ℚ) * 2 ^ 1022 < 10 ^ (places + 1) * 2 ^ 1022 :=
          mul_lt_mul_of_pos_right high (pow_pos (by norm_num) _)
      _ ≤ 10 ^ (places + 1) * 10 ^ 1022 :=
          mul_le_mul_of_nonneg_left (pow_le_pow_left₀ (by norm_num) (by norm_num) _) (ten _).le
      _ = 10 ^ (places + 1023) := by rw [← pow_add]
      _ ≤ 10 ^ (places + (round places v).decade) := pow_le_pow_right₀ (by norm_num) (by omega)
  exact absurd normal (not_le.mpr tiny)

theorem length_print_le (nonneg : 0 ≤ v) (le_one : v ≤ 1)
    (range : printed places v = 0 ∨ Text.leastNormal ≤ printed places v) : (print places v).length ≤ places + 12 := by
  rcases nonneg.eq_or_lt with rfl | positive
  · rw [show print places 0 = ['0'] from if_pos rfl, List.length_singleton]
    omega
  obtain ⟨low, high⟩ := round_digits positive le_one places
  have normal : Text.leastNormal ≤ printed places v := by
    refine range.resolve_left fun zero => ?_
    rw [show printed places v = (round places v).value places from if_neg positive.ne', Rounded.value,
      div_eq_zero_iff] at zero
    rcases zero with none | none
    · have : 0 < (round places v).digits := lt_of_lt_of_le (pow_pos (by decide) places) low
      exact this.ne' (Nat.cast_eq_zero.mp none)
    · exact (pow_pos (by norm_num : (0 : ℚ) < 10) _).ne' none
  have decade := decade_round_lt positive le_one normal
  have exponent : (exponentDigits (round places v).decade).length ≤ 4 := by
    have whole := Text.length_decimal_le (by decide : 0 < 4) decade
    unfold exponentDigits
    split_ifs with single
    · have one := Text.length_decimal_le (by decide : 0 < 1) (show (round places v).decade < 10 ^ 1 by omega)
      rw [List.length_cons]
      omega
    · exact whole
  have count : (kept (round places v).digits).length ≤ places + 1 := by
    rw [← length_decimal low high]
    exact (List.rdropWhile_prefix _ _).length_le
  unfold print
  dsimp only
  rw [if_neg positive.ne']
  cases shape : kept (round places v).digits with
  | nil => exact Nat.zero_le _
  | cons first others =>
    rw [shape, List.length_cons] at count
    dsimp only
    have fraction := length_pointed_le others
    split_ifs with units near
    · rw [List.length_cons]
      omega
    · have long := length_pointed_le (List.replicate ((round places v).decade - 1) '0' ++ first :: others)
      rw [List.length_append, List.length_replicate, List.length_cons] at long
      rw [List.length_cons]
      omega
    · rw [List.length_cons, List.length_append, List.length_cons, List.length_cons]
      omega

end

end Significant

end Antares.Library
