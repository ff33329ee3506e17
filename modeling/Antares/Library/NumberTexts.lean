import Mathlib.Algebra.Order.Archimedean.Basic
import Mathlib.Algebra.Order.Floor.Div
import Mathlib.Data.Nat.Log
import Mathlib.Tactic.Positivity
import Antares.Library.Texts

/-! Numbers as texts: the conversions of the C and C++ libraries, and the decimal texts that they
read back as the numbers that were written.
-/

set_option autoImplicit false

namespace Antares.Library

namespace Text

/-- `isspace`. -/
def isSpace (c : Char) : Bool :=
  c == ' ' || c == '\t' || c == '\n' || c == '\r' || c == Char.ofNat 11 || c == Char.ofNat 12

variable (base : Nat)

def digit (c : Char) : Option Nat :=
  let value :=
    if c.isDigit then some (c.toNat - '0'.toNat)
    else if c.isLower then some (c.toNat - 'a'.toNat + 10)
    else if c.isUpper then some (c.toNat - 'A'.toNat + 10)
    else none
  value.filter fun value => decide (value < base)

structure Digits where
  value : Nat
  count : Nat
  rest : Text
  deriving DecidableEq, Repr

def digits (base : Nat) : Text → Nat → Nat → Digits
  | [], value, count => { value := value, count := count, rest := [] }
  | c :: rest, value, count =>
    match digit base c with
    | some next => digits base rest (value * base + next) (count + 1)
    | none => { value := value, count := count, rest := c :: rest }

def sign : Text → Bool × Text
  | '-' :: rest => (true, rest)
  | '+' :: rest => (false, rest)
  | text => (false, text)

def withoutBase : Text → Text
  | '0' :: mark :: rest => if mark = 'x' ∨ mark = 'X' then rest else '0' :: mark :: rest
  | text => text

variable (text : Text)

/-- `strtoul`, for an unsigned long of 64 bits: a number that is too large is the largest one. -/
def strtoul : Nat :=
  let signed := sign (text.dropWhile isSpace)
  let unsigned := if base = 16 then withoutBase signed.2 else signed.2
  let value := (digits base unsigned 0 0).value
  if 2 ^ 64 ≤ value then 2 ^ 64 - 1
  else if signed.1 then (2 ^ 64 - value) % 2 ^ 64
  else value

/-- `std::stoi`, unless it throws. -/
def stoi : Option Int :=
  let signed := sign (text.dropWhile isSpace)
  let number := digits 10 signed.2 0 0
  let value : Int := if signed.1 then -number.value else number.value
  if number.count = 0 ∨ value < -2 ^ 31 ∨ 2 ^ 31 ≤ value then none else some value

inductive Double where
  | finite (value : ℚ)
  | infinite (negative : Bool)
  | nan
  deriving DecidableEq, Repr

/-- The comparison `<`, which nothing that is not a number meets. -/
def Double.less : Double → Double → Bool
  | .finite a, .finite b => a < b
  | .finite _, .infinite negative => !negative
  | .infinite negative, .finite _ => negative
  | .infinite first, .infinite second => first && !second
  | .nan, _ => false
  | _, .nan => false

/-- The comparison `<=`. -/
def Double.atMost (a b : Double) : Bool := a.less b || (a != .nan && a == b)

inductive StodError where
  | invalidArgument
  | outOfRange
  deriving DecidableEq, Repr

def exponent (mark : Char) (radix : Nat) : Text → ℚ
  | c :: rest =>
    if c.toLower = mark then
      let signed := sign rest
      let power : ℚ := (radix : ℚ) ^ (digits 10 signed.2 0 0).value
      if signed.1 then power⁻¹ else power
    else 1
  | [] => 1

/-- The digits after a point go on a number; their count begins there. -/
def afterPoint (whole : Digits) : Digits :=
  match whole.rest with
  | [] => { whole with count := 0 }
  | c :: rest => if c = '.' then digits base rest whole.value 0 else { whole with count := 0 }

/-- Digits, a point and an exponent; there is no number without a digit. -/
def scan (mark : Char) (radix : Nat) (text : Text) : Option ℚ :=
  let whole := digits base text 0 0
  let number := afterPoint base whole
  if whole.count + number.count = 0 then none
  else some (number.value / base ^ number.count * exponent mark radix number.rest)

def leastNormal : ℚ := 1 / 2 ^ 1022

def overflow : ℚ := 2 ^ 1024 - 2 ^ 970

/-- The magnitude that a text starts with, in decimal unless it says otherwise. -/
def magnitude : Option ℚ :=
  if withoutBase text = text then scan 10 'e' 10 text
  else (scan 16 'p' 2 (withoutBase text)).or (some 0)

/-- `std::stod`: nothing is asked of what follows the number. -/
def stod : Except StodError Double :=
  let signed := sign (text.dropWhile isSpace)
  let lower := signed.2.map Char.toLower
  if ['i', 'n', 'f'].isPrefixOf lower then .ok (.infinite signed.1)
  else if ['n', 'a', 'n'].isPrefixOf lower then .ok .nan
  else
    match magnitude signed.2 with
    | none => .error .invalidArgument
    | some size =>
      if overflow ≤ size ∨ (0 < size ∧ size < leastNormal) then .error .outOfRange
      else .ok (.finite (if signed.1 then -size else size))

def decimal (n : Nat) : Text := Nat.toDigits 10 n

theorem decimal_ne_nil (n : Nat) : decimal n ≠ [] := Nat.toDigits_ne_nil

theorem isDigit_of_mem_decimal {n : Nat} {c : Char} (member : c ∈ decimal n) : c.isDigit = true :=
  Nat.isDigit_of_mem_toDigits (by decide) (by decide) member

theorem length_decimal_le {n places : Nat} (some : 0 < places) (small : n < 10 ^ places) :
    (decimal n).length ≤ places := (Nat.length_toDigits_le_iff (by decide) some).mpr small

variable {c : Char}

theorem digit_of_isDigit (isDigit : c.isDigit = true) : digit 10 c = some (c.toNat - '0'.toNat) := by
  have bound : c.toNat - '0'.toNat < 10 := by
    have high : c.toNat ≤ 57 := (Char.isDigit_iff_toNat.mp isDigit).2
    have zero : '0'.toNat = 48 := rfl
    omega
  unfold digit
  rw [if_pos isDigit]
  exact Option.filter_some_pos (decide_eq_true bound)

theorem digits_append {text : Text} (isDigits : ∀ c ∈ text, c.isDigit = true) (rest : Text) (value count : Nat)
    (stops : ∀ c ∈ rest.head?, digit 10 c = none) :
    digits 10 (text ++ rest) value count =
      { value := Nat.ofDigitChars 10 text value, count := count + text.length, rest := rest } := by
  induction text generalizing value count with
  | nil =>
    cases rest with
    | nil => rfl
    | cons c rest => simp [digits, stops c rfl, Nat.ofDigitChars]
  | cons c text later =>
    rw [List.cons_append, digits, digit_of_isDigit (isDigits c List.mem_cons_self)]
    dsimp only
    rw [later (fun d member => isDigits d (List.mem_cons_of_mem _ member)), List.length_cons, Nat.add_right_comm,
      Nat.add_assoc, Nat.mul_comm value 10]
    rfl

theorem digits_decimal (n : Nat) (rest : Text) (stops : ∀ c ∈ rest.head?, digit 10 c = none) :
    digits 10 (decimal n ++ rest) 0 0 = { value := n, count := (decimal n).length, rest := rest } := by
  rw [digits_append (fun c member => isDigit_of_mem_decimal member) rest 0 0 stops, Nat.zero_add, decimal,
    Nat.ofDigitChars_toDigits (by decide) (by decide)]

theorem not_of_isDigit (isDigit : c.isDigit = true) {p : Char → Bool}
    (none : ∀ d : Fin 10, p (Char.ofNat (48 + d.val)) = false) : p c = false := by
  obtain ⟨low, high⟩ := Char.isDigit_iff_toNat.mp isDigit
  replace low : 48 ≤ c.toNat := low
  replace high : c.toNat ≤ 57 := high
  have := none ⟨c.toNat - 48, by omega⟩
  rwa [show 48 + (c.toNat - 48) = c.toNat by omega, Char.ofNat_toNat] at this

theorem dropWhile_isSpace (rest : Text) (isDigit : c.isDigit = true) :
    (c :: rest).dropWhile isSpace = c :: rest := by
  have : isSpace c = false := not_of_isDigit isDigit (by decide)
  exact List.dropWhile_cons_of_neg (by rw [this]; exact Bool.false_ne_true)

theorem ne_of_isDigit (isDigit : c.isDigit = true) {d : Char} (other : d.isDigit = false) : c ≠ d := by
  rintro rfl
  exact absurd isDigit (by rw [other]; exact Bool.false_ne_true)

theorem sign_digit (rest : Text) (isDigit : c.isDigit = true) : sign (c :: rest) = (false, c :: rest) := by
  have minus : c ≠ '-' := ne_of_isDigit isDigit (by decide)
  have plus : c ≠ '+' := ne_of_isDigit isDigit (by decide)
  unfold sign
  split
  · next same => exact absurd (List.cons.inj same).1 minus
  · next same => exact absurd (List.cons.inj same).1 plus
  · rfl

theorem withoutBase_of_second {text : Text} (second : ∀ c ∈ text.tail.head?, c ≠ 'x' ∧ c ≠ 'X') :
    withoutBase text = text := by
  unfold withoutBase
  split
  · next mark rest => rw [if_neg (not_or.mpr (second mark rfl))]
  · rfl

theorem stoi_decimal {n : Nat} (small : n < 2 ^ 31) : stoi (decimal n) = some (n : Int) := by
  obtain ⟨c, rest, split⟩ := List.exists_cons_of_ne_nil (decimal_ne_nil n)
  have isDigit : c.isDigit = true := isDigit_of_mem_decimal (by rw [split]; exact List.mem_cons_self)
  have read := digits_decimal n [] (fun c none => absurd none (by simp))
  rw [List.append_nil] at read
  have signed : sign ((decimal n).dropWhile isSpace) = (false, decimal n) := by
    rw [split, dropWhile_isSpace rest isDigit, sign_digit rest isDigit]
  unfold stoi
  rw [signed]
  dsimp only
  rw [read]
  have positive : (decimal n).length ≠ 0 := fun none => decimal_ne_nil n (List.length_eq_zero_iff.mp none)
  dsimp only
  rw [if_neg Bool.false_ne_true, if_neg]
  omega

theorem strtoul_decimal {n : Nat} (small : n < 2 ^ 64) : strtoul 10 (decimal n) = n := by
  obtain ⟨c, rest, split⟩ := List.exists_cons_of_ne_nil (decimal_ne_nil n)
  have isDigit : c.isDigit = true := isDigit_of_mem_decimal (by rw [split]; exact List.mem_cons_self)
  have read := digits_decimal n [] (fun c none => absurd none (by simp))
  rw [List.append_nil] at read
  have signed : sign ((decimal n).dropWhile isSpace) = (false, decimal n) := by
    rw [split, dropWhile_isSpace rest isDigit, sign_digit rest isDigit]
  unfold strtoul
  rw [signed]
  dsimp only
  rw [if_neg (show ¬10 = 16 by decide), read, if_neg (by dsimp only; omega), if_neg Bool.false_ne_true]

def pointed : Text → Text
  | [] => []
  | c :: rest => '.' :: c :: rest

structure Stops (rest : Text) : Prop where
  noDigit : ∀ c ∈ rest.head?, digit 10 c = none
  noPoint : ∀ c ∈ rest.head?, c ≠ '.'

theorem scan_decimal {whole fraction tail : Text} (wholeDigits : ∀ c ∈ whole, c.isDigit = true)
    (fractionDigits : ∀ c ∈ fraction, c.isDigit = true) (nonempty : whole ≠ []) (stops : Stops tail) :
    scan 10 'e' 10 (whole ++ (pointed fraction ++ tail)) =
      some ((Nat.ofDigitChars 10 (whole ++ fraction) 0 : ℚ) / 10 ^ fraction.length * exponent 'e' 10 tail) := by
  have positive : whole.length ≠ 0 := fun none => nonempty (List.length_eq_zero_iff.mp none)
  cases fraction with
  | nil =>
    have number : afterPoint 10 { value := Nat.ofDigitChars 10 whole 0, count := 0 + whole.length, rest := tail } =
        { value := Nat.ofDigitChars 10 whole 0, count := 0, rest := tail } := by
      cases tail with
      | nil => rfl
      | cons c tail => exact if_neg (stops.noPoint c rfl)
    rw [pointed, List.nil_append, scan, digits_append wholeDigits tail 0 0 stops.noDigit]
    dsimp only
    rw [number, if_neg (by dsimp only; omega), List.append_nil]
    simp
  | cons c fraction =>
    have pointStops : ∀ d ∈ ('.' :: (c :: fraction ++ tail)).head?, digit 10 d = none := by
      intro d first
      obtain rfl := Option.some.inj first
      decide
    have number : afterPoint 10
        { value := Nat.ofDigitChars 10 whole 0, count := 0 + whole.length, rest := '.' :: (c :: fraction ++ tail) } =
        digits 10 (c :: fraction ++ tail) (Nat.ofDigitChars 10 whole 0) 0 := by
      unfold afterPoint
      exact if_pos rfl
    rw [pointed, List.cons_append, scan, digits_append wholeDigits _ 0 0 pointStops]
    dsimp only
    rw [number, digits_append fractionDigits tail _ 0 stops.noDigit, if_neg (by dsimp only; omega), Nat.zero_add,
      Nat.ofDigitChars_append]
    simp

theorem lt_overflow {size : ℚ} (small : size < 2 ^ 970) : size < overflow := by
  have double : (2 : ℚ) ^ 971 ≤ 2 ^ 1024 := pow_le_pow_right₀ (by norm_num) (by decide)
  calc size < 2 ^ 970 := small
    _ = 2 ^ 971 - 2 ^ 970 := by rw [pow_succ (2 : ℚ) 970, mul_two, add_sub_cancel_right]
    _ ≤ overflow := sub_le_sub_right double _

theorem overflow_pos : 0 < overflow := lt_overflow (pow_pos (by norm_num) _)

section
variable {c : Char} {rest : Text} (isDigit : c.isDigit = true)
include isDigit

theorem noWord_of_isDigit :
    ['i', 'n', 'f'].isPrefixOf ((c :: rest).map Char.toLower) = false ∧
      ['n', 'a', 'n'].isPrefixOf ((c :: rest).map Char.toLower) = false := by
  have notInf := not_of_isDigit isDigit (p := fun c => 'i' == c.toLower) (by decide)
  have notNan := not_of_isDigit isDigit (p := fun c => 'n' == c.toLower) (by decide)
  constructor
  · rw [List.map_cons, List.isPrefixOf_cons_cons, notInf, Bool.false_and]
  · rw [List.map_cons, List.isPrefixOf_cons_cons, notNan, Bool.false_and]

theorem sign_dropWhile (negative : Bool) :
    sign (((if negative then ['-'] else []) ++ c :: rest).dropWhile isSpace) = (negative, c :: rest) := by
  cases negative with
  | true => rfl
  | false =>
    rw [if_neg Bool.false_ne_true, List.nil_append, dropWhile_isSpace rest isDigit, sign_digit rest isDigit]

variable (second : ∀ d ∈ rest.head?, d ≠ 'x' ∧ d ≠ 'X') {size : ℚ} (read : scan 10 'e' 10 (c :: rest) = some size)
include second read

theorem stod_of_scan (negative : Bool) :
    stod ((if negative then ['-'] else []) ++ c :: rest) =
      if overflow ≤ size ∨ (0 < size ∧ size < leastNormal) then .error .outOfRange
      else .ok (.finite (if negative then -size else size)) := by
  have size' : magnitude (c :: rest) = some size := by
    rw [magnitude, if_pos (@withoutBase_of_second (c :: rest) second), read]
  obtain ⟨notInf, notNan⟩ := @noWord_of_isDigit c rest isDigit
  unfold stod
  rw [sign_dropWhile isDigit]
  dsimp only
  rw [notInf, notNan, if_neg Bool.false_ne_true, if_neg Bool.false_ne_true, size']

theorem stod_of_digit (range : size = 0 ∨ leastNormal ≤ size ∧ size < overflow) : stod (c :: rest) = .ok (.finite size) := by
  have inRange : ¬(overflow ≤ size ∨ (0 < size ∧ size < leastNormal)) := by
    rcases range with rfl | ⟨normal, finite⟩
    · exact not_or.mpr ⟨not_le.mpr overflow_pos, fun both => absurd both.1 (lt_irrefl _)⟩
    · exact not_or.mpr ⟨not_le.mpr finite, fun both => absurd both.2 (not_lt.mpr normal)⟩
  have number := stod_of_scan isDigit second read false
  rw [if_neg inRange] at number
  exact number

end

theorem stops_nil : Stops [] where
  noDigit _ none := absurd none (by simp)
  noPoint _ none := absurd none (by simp)

theorem stod_decimal {n : Nat} (small : (n : ℚ) < 2 ^ 970) : stod (decimal n) = .ok (.finite n) := by
  have isDigits : ∀ d ∈ decimal n, d.isDigit = true := fun d member => isDigit_of_mem_decimal member
  have read := scan_decimal isDigits (fun d member => absurd member List.not_mem_nil) (decimal_ne_nil n) stops_nil
  have value : Nat.ofDigitChars 10 (decimal n) 0 = n := Nat.ofDigitChars_toDigits (by decide) (by decide)
  rw [pointed, List.nil_append, List.append_nil, value, List.length_nil, pow_zero, div_one] at read
  obtain ⟨c, rest, split⟩ := List.exists_cons_of_ne_nil (decimal_ne_nil n)
  rw [split] at read isDigits ⊢
  have range : (n : ℚ) * exponent 'e' 10 [] = 0 ∨
      leastNormal ≤ (n : ℚ) * exponent 'e' 10 [] ∧ (n : ℚ) * exponent 'e' 10 [] < overflow := by
    have one : exponent 'e' 10 [] = 1 := rfl
    rw [one, mul_one]
    rcases Nat.eq_zero_or_pos n with rfl | positive
    · exact Or.inl Nat.cast_zero
    · refine Or.inr ⟨le_trans ?_ (Nat.one_le_cast.mpr positive), lt_overflow small⟩
      exact (div_le_one (pow_pos (by norm_num) _)).mpr (one_le_pow₀ (by norm_num))
  have second : ∀ d ∈ rest.head?, d ≠ 'x' ∧ d ≠ 'X' := by
    intro d head
    have isDigit := isDigits d (List.mem_cons_of_mem c (List.mem_of_mem_head? head))
    exact ⟨ne_of_isDigit isDigit rfl, ne_of_isDigit isDigit rfl⟩
  rw [stod_of_digit (isDigits c List.mem_cons_self) second read range]
  rw [show exponent 'e' 10 [] = 1 from rfl, mul_one]

theorem exponent_nonneg (mark : Char) (radix : Nat) (text : Text) : 0 ≤ exponent mark radix text := by
  unfold exponent
  cases text with
  | nil => exact zero_le_one
  | cons c rest =>
    dsimp only
    split_ifs
    · exact inv_nonneg.mpr (pow_nonneg (Nat.cast_nonneg _) _)
    · exact pow_nonneg (Nat.cast_nonneg _) _
    · exact zero_le_one

theorem scan_nonneg {base radix : Nat} {mark : Char} {text : Text} {size : ℚ} (read : scan base mark radix text = some size) :
    0 ≤ size := by
  unfold scan at read
  dsimp only at read
  split_ifs at read
  obtain rfl := Option.some.inj read
  exact mul_nonneg (div_nonneg (Nat.cast_nonneg _) (pow_nonneg (Nat.cast_nonneg _) _)) (exponent_nonneg _ _ _)

theorem magnitude_nonneg {text : Text} {size : ℚ} (read : magnitude text = some size) : 0 ≤ size := by
  unfold magnitude at read
  split_ifs at read
  · exact scan_nonneg read
  · rcases Option.or_eq_some_iff.mp read with hex | ⟨-, zero⟩
    · exact scan_nonneg hex
    · exact (Option.some.inj zero).le

theorem stod_finite {text : Text} {v : ℚ} (read : stod text = .ok (.finite v)) (nonneg : 0 ≤ v) :
    v = 0 ∨ leastNormal ≤ v := by
  unfold stod at read
  dsimp only at read
  by_cases inf : (['i', 'n', 'f'].isPrefixOf ((sign (text.dropWhile isSpace)).2.map Char.toLower)) = true
  · rw [if_pos inf] at read
    exact absurd read (by simp)
  rw [if_neg inf] at read
  by_cases nan : (['n', 'a', 'n'].isPrefixOf ((sign (text.dropWhile isSpace)).2.map Char.toLower)) = true
  · rw [if_pos nan] at read
    exact absurd read (by simp)
  rw [if_neg nan] at read
  cases found : magnitude (sign (text.dropWhile isSpace)).2 with
  | none =>
    rw [found] at read
    exact absurd read (by simp)
  | some size =>
    have sizeNonneg := magnitude_nonneg found
    rw [found] at read
    dsimp only at read
    by_cases range : overflow ≤ size ∨ (0 < size ∧ size < leastNormal)
    · rw [if_pos range] at read
      exact absurd read (by simp)
    rw [if_neg range] at read
    have same : (if (sign (text.dropWhile isSpace)).1 = true then -size else size) = v := by
      injection read with read
      injection read
    split_ifs at same
    · exact Or.inl (by linarith)
    · subst same
      rcases sizeNonneg.eq_or_lt with none | positive
      · exact Or.inl none.symm
      · exact Or.inr (not_lt.mp fun small => (not_or.mp range).2 ⟨positive, small⟩)

end Text

end Antares.Library
