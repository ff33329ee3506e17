import Antares.Data.MatrixFiles
import Antares.Library.FixedNumbers

/-! `Matrix::saveToBuffer`: a matrix as a text, and the text read back by `internalLoadCSVFile`. -/

set_option autoImplicit false

namespace Antares.Data

open Library Library.Significant Library.Text Library.Table

inductive IntegerSize where
  | two
  | four
  | eight

def IntegerSize.bits : IntegerSize → Nat
  | .two => 16
  | .four => 32
  | .eight => 64

inductive CellType where
  | integer (size : IntegerSize) (signed : Bool)
  | decimal

/-- `Math::Trunc` -/
def trunc (v : Rat) : Int := if v < 0 then ⌈v⌉ else ⌊v⌋

def printInt (v : Int) : Text := (if v < 0 then ['-'] else []) ++ decimal v.natAbs

/-- The conversion `%f` with so many places. -/
def printPlaces (places : Nat) (v : Rat) : Text :=
  let digits := roundHalfEven (|v| * 10 ^ places)
  (if v < 0 then ['-'] else []) ++
    if places = 0 then decimal digits else decimal (digits / 10 ^ places) ++ '.' :: padded places (digits % 10 ^ places)

/-- `AutoDetectBaseNumber` -/
def autoDetectBase : Text → Nat × Text
  | '#' :: rest => (16, rest)
  | '0' :: mark :: rest => if rest ≠ [] ∧ (mark = 'x' ∨ mark = 'X') then (16, rest) else (10, '0' :: mark :: rest)
  | text => (10, text)

namespace CellType

variable (type : CellType)

/-- `MatrixScalar::Append`, where a cell is null when it is zero. -/
def append (precision : Nat) (v : Rat) : Text :=
  match type with
  | .integer _ _ => printInt (trunc v)
  | .decimal =>
    if v = 0 then ['0']
    else
      let text := if v = ⌊v⌋ then printPlaces 0 v else printPlaces precision v
      if text.length < 128 then text else "ERR".toList

/-- `Into<T>::Perform` of an integer type: `strtol` or `strtoul` converts as many characters as the
text has, and a cast follows.
-/
def intoInteger (size : IntegerSize) (signed : Bool) (text : Text) : Option Int :=
  let (base, start) := autoDetectBase text
  let signedText := sign (start.dropWhile isSpace)
  let number := digits base (if base = 16 then withoutBase signedText.2 else signedText.2) 0 0
  let value : Int := if signedText.1 then -number.value else number.value
  let converted := if number.count = 0 then 0 else start.length - number.rest.length
  if converted ≠ text.length then none
  else if signed then some ((max (-2 ^ 63) (min value (2 ^ 63 - 1))).bmod (2 ^ size.bits))
  else some ((if 2 ^ 64 ≤ number.value then 2 ^ 64 - 1 else value) % 2 ^ size.bits)

/-- `MatrixStringConverter<double>`, which converts the whole text. -/
def intoDouble (text : Text) : Option Rat :=
  match strtod text with
  | (.finite v, []) => some v
  | _ => none

def convert (text : Text) : Option Rat :=
  match type with
  | .integer size signed =>
    match intoInteger size signed text with
    | some v => some v
    | none => (intoDouble text).map fun fallback => trunc fallback
  | .decimal => intoDouble text

def Holds (precision : Nat) (v : Rat) : Prop :=
  match type with
  | .integer size true => ∃ n : Int, v = n ∧ -2 ^ (size.bits - 1) ≤ n ∧ n < 2 ^ (size.bits - 1)
  | .integer size false => ∃ n : Int, v = n ∧ 0 ≤ n ∧ n < 2 ^ size.bits
  | .decimal => |v| < 10 ^ 100 ∧ ∃ n : Int, v * 10 ^ precision = n

end CellType

namespace Matrix

variable (matrix : Matrix) (type : CellType) (precision : Nat)

def containsOnlyZero : Bool := decide (∀ x < matrix.width, ∀ y < matrix.height, matrix.entry x y = 0)

/-- `one_column__dumper::run` -/
def runOneColumn : Text :=
  (List.range matrix.height).flatMap fun y => type.append precision (matrix.entry 0 y) ++ ['\n']

/-- `multiple_columns__dumper::run` -/
def runMultipleColumns : Text :=
  (List.range matrix.height).flatMap fun y =>
    type.append precision (matrix.entry 0 y) ++
      ((List.range' 1 (matrix.width - 1)).flatMap fun x => '\t' :: type.append precision (matrix.entry x y)) ++ ['\n']

def dimensions : Text := "size:".toList ++ decimal matrix.width ++ 'x' :: decimal matrix.height

def saveToBuffer (printDimensions saveEvenIfAllZero : Bool) : Text :=
  if !printDimensions && (matrix.containsOnlyZero && !saveEvenIfAllZero) then []
  else
    (if printDimensions then matrix.dimensions ++ ['\n'] else []) ++
      if matrix.width = 1 then matrix.runOneColumn type precision else matrix.runMultipleColumns type precision

end Matrix

section
variable {c : Char} {type : CellType} {precision : Nat} {v : Rat}

def isNumberChar (c : Char) : Bool := c.isDigit || c == '-' || c == '.'

theorem not_of_isNumberChar (isNumber : isNumberChar c = true) {p : Char → Bool}
    (none : (∀ d : Fin 10, p (Char.ofNat (48 + d.val)) = false) ∧ p '-' = false ∧ p '.' = false) : p c = false := by
  simp only [isNumberChar, Bool.or_eq_true, beq_iff_eq] at isNumber
  rcases isNumber with (isDigit | rfl) | rfl
  · exact not_of_isDigit isDigit none.1
  · exact none.2.1
  · exact none.2.2

structure Prints (type : CellType) (text : Text) (v : Rat) : Prop where
  nonempty : text ≠ []
  chars : ∀ c ∈ text, isNumberChar c = true
  number : type.convert text = some v

theorem sign_decimal (negative : Bool) (n : Nat) (rest : Text) :
    sign (((if negative then ['-'] else []) ++ (decimal n ++ rest)).dropWhile isSpace) = (negative, decimal n ++ rest) := by
  obtain ⟨c, others, split⟩ := List.exists_cons_of_ne_nil (decimal_ne_nil n)
  rw [split]
  exact sign_dropWhile (isDigit_of_mem_decimal (n := n) (by rw [split]; exact List.mem_cons_self)) negative

theorem isNumberChar_signed {text : Text} (negative : Prop) [Decidable negative]
    (chars : ∀ c ∈ text, isNumberChar c = true) :
    ∀ c ∈ (if negative then ['-'] else []) ++ text, isNumberChar c = true := by
  intro c member
  rcases List.mem_append.mp member with minus | member
  · split_ifs at minus
    · rw [List.mem_singleton.mp minus]
      rfl
    · cases minus
  · exact chars c member

theorem isNumberChar_of_isDigit (isDigit : c.isDigit = true) : isNumberChar c = true := by simp [isNumberChar, isDigit]

theorem autoDetectBase_chars {text : Text} (chars : ∀ c ∈ text, isNumberChar c = true) : autoDetectBase text = (10, text) := by
  unfold autoDetectBase
  split
  · exact absurd (chars '#' List.mem_cons_self) (by decide)
  · next mark rest =>
    have isNumber := chars mark (List.mem_cons_of_mem _ List.mem_cons_self)
    rw [if_neg]
    rintro ⟨-, rfl | rfl⟩ <;> exact absurd isNumber (by decide)
  · rfl

theorem chars_decimal (n : Nat) : ∀ c ∈ decimal n, isNumberChar c = true :=
  fun _ member => isNumberChar_of_isDigit (isDigit_of_mem_decimal member)

theorem intoInteger_printInt (size : IntegerSize) (signed : Bool) (n : Int) :
    CellType.intoInteger size signed (printInt n) =
      if signed then some ((max (-2 ^ 63) (min n (2 ^ 63 - 1))).bmod (2 ^ size.bits))
      else some ((if 2 ^ 64 ≤ n.natAbs then 2 ^ 64 - 1 else n) % 2 ^ size.bits) := by
  have base := autoDetectBase_chars (isNumberChar_signed (n < 0) (chars_decimal n.natAbs))
  have signed' := sign_decimal (decide (n < 0)) n.natAbs []
  have read := digits_decimal n.natAbs [] (fun c none => absurd none (by simp))
  have some : (decimal n.natAbs).length ≠ 0 := fun none => decimal_ne_nil _ (List.length_eq_zero_iff.mp none)
  have value : (if decide (n < 0) = true then -((n.natAbs : Nat) : Int) else (n.natAbs : Nat)) = n := by
    split_ifs with negative <;> simp only [decide_eq_true_eq] at negative <;> omega
  simp only [List.append_nil, decide_eq_true_eq] at signed' read value
  unfold CellType.intoInteger printInt
  simp only [base, signed', read, decide_eq_true_eq, if_neg some, value, List.length_nil, Nat.sub_zero, ne_eq,
    not_true_eq_false, if_false, show ¬(10 : Nat) = 16 by decide]

theorem prints_printInt {size : IntegerSize} {signed : Bool} (holds : (CellType.integer size signed).Holds precision v) :
    Prints (.integer size signed) ((CellType.integer size signed).append precision v) v := by
  obtain ⟨n, rfl, cast⟩ : ∃ n : Int, v = n ∧ CellType.intoInteger size signed (printInt n) = some n := by
    cases signed with
    | true =>
      obtain ⟨n, rfl, low, high⟩ := holds
      refine ⟨n, rfl, ?_⟩
      rw [intoInteger_printInt, if_pos rfl, Option.some.injEq]
      cases size <;> simp only [IntegerSize.bits] at low high ⊢ <;>
        rw [max_eq_right (by omega), min_eq_left (by omega), Int.bmod_eq_of_le (by omega) (by omega)]
    | false =>
      obtain ⟨n, rfl, low, high⟩ := holds
      refine ⟨n, rfl, ?_⟩
      rw [intoInteger_printInt, if_neg Bool.false_ne_true, Option.some.injEq]
      cases size <;> simp only [IntegerSize.bits] at high ⊢ <;>
        rw [if_neg (by omega), Int.emod_eq_of_lt low high]
  have whole : trunc (n : Rat) = n := by
    unfold trunc
    split_ifs
    · exact Int.ceil_intCast n
    · exact Int.floor_intCast n
  have text : (CellType.integer size signed).append precision (n : Rat) = printInt n := by rw [CellType.append, whole]
  rw [text]
  refine ⟨?_, isNumberChar_signed _ (chars_decimal _), ?_⟩
  · simp [printInt, decimal_ne_nil]
  · simp [CellType.convert, cast]

theorem prints_signed {digits : Text} (chars : ∀ c ∈ digits, isNumberChar c = true) (some : digits ≠ [])
    (read : ∀ negative : Bool, strtod ((if negative then ['-'] else []) ++ digits) =
      (.finite (if negative then -|v| else |v|), [])) :
    Prints .decimal ((if v < 0 then ['-'] else []) ++ digits) v := by
  refine ⟨by simp [some], isNumberChar_signed _ chars, ?_⟩
  have number := read (decide (v < 0))
  simp only [decide_eq_true_eq] at number
  simp only [CellType.convert, CellType.intoDouble, number, Option.some.injEq]
  split_ifs with negative
  · rw [abs_of_neg negative, neg_neg]
  · exact abs_of_nonneg (not_lt.mp negative)

theorem length_signed {digits : Text} {bound : Nat} (negative : Prop) [Decidable negative] (short : digits.length ≤ bound) :
    ((if negative then ['-'] else []) ++ digits).length ≤ bound + 1 := by
  split_ifs <;> simp <;> omega

theorem prints_whole {k : Nat} (size : |v| = k) (finite : |v| < overflow) :
    Prints .decimal ((if v < 0 then ['-'] else []) ++ decimal k) v := by
  refine prints_signed (chars_decimal _) (decimal_ne_nil _) fun negative => ?_
  have value : Nat.ofDigitChars 10 (decimal k) 0 = k := Nat.ofDigitChars_toDigits (by decide) (by decide)
  have read := strtod_whole (fun c => isDigit_of_mem_decimal) (decimal_ne_nil _)
    (by rwa [value, ← size]) negative
  rwa [value, ← size] at read

theorem prints_decimal (small : precision ≤ 16) (holds : CellType.decimal.Holds precision v) :
    Prints .decimal (CellType.decimal.append precision v) v := by
  obtain ⟨bound, n, scaled⟩ := holds
  have most : (10 : Rat) ^ 100 ≤ 2 ^ 970 := calc
    (10 : Rat) ^ 100 ≤ (2 ^ 4) ^ 100 := pow_le_pow_left₀ (by norm_num) (by norm_num) 100
    _ = 2 ^ 400 := (pow_mul 2 4 100).symm
    _ ≤ 2 ^ 970 := pow_le_pow_right₀ (by norm_num) (by decide)
  have finite : |v| < overflow := lt_overflow (bound.trans_le most)
  have digits : |v| * 10 ^ precision = (n.natAbs : Rat) := by
    have size : |v * 10 ^ precision| = |(n : Rat)| := by rw [scaled]
    rw [abs_mul, abs_of_pos (pow_pos (by norm_num : (0 : Rat) < 10) precision)] at size
    rw [size, Nat.cast_natAbs, Int.cast_abs]
  unfold CellType.append
  by_cases zero : v = 0
  · subst zero
    exact prints_whole (k := 0) (by simp) finite
  · simp only [if_neg zero]
    by_cases whole : v = ⌊v⌋
    · have size : |v| = (⌊v⌋.natAbs : Rat) := by
        rw [Nat.cast_natAbs, Int.cast_abs, ← whole]
      have few : ⌊v⌋.natAbs < 10 ^ 100 := by
        rw [size] at bound
        exact_mod_cast bound
      have text : printPlaces 0 v = (if v < 0 then ['-'] else []) ++ decimal ⌊v⌋.natAbs := by
        rw [printPlaces, pow_zero, mul_one, size, roundHalfEven_natCast, if_pos rfl]
      have short := length_signed (v < 0) (length_decimal_le (by decide) few)
      rw [if_pos whole, text, if_pos (by omega)]
      exact prints_whole size finite
    · have some : 0 < precision := by
        by_contra none
        obtain rfl : precision = 0 := by omega
        rw [pow_zero, mul_one] at scaled
        rw [scaled, Int.floor_intCast] at whole
        exact whole rfl
      have text : printPlaces precision v = (if v < 0 then ['-'] else []) ++
          (decimal (n.natAbs / 10 ^ precision) ++ '.' :: padded precision (n.natAbs % 10 ^ precision)) := by
        rw [printPlaces, digits, roundHalfEven_natCast, if_neg some.ne']
      have size : (n.natAbs : Rat) / 10 ^ precision = |v| := by
        rw [← digits, mul_div_cancel_right₀ _ (pow_ne_zero precision (by norm_num))]
      have few : n.natAbs / 10 ^ precision < 10 ^ 100 := by
        rw [Nat.div_lt_iff_lt_mul (pow_pos (by decide) precision)]
        have less := mul_lt_mul_of_pos_right bound (pow_pos (by norm_num : (0 : Rat) < 10) precision)
        rw [digits] at less
        exact_mod_cast less
      have places := length_padded some (Nat.mod_lt n.natAbs (pow_pos (by decide : 0 < 10) precision))
      have short := @length_signed (decimal (n.natAbs / 10 ^ precision) ++ '.' ::
          padded precision (n.natAbs % 10 ^ precision)) 117 (v < 0) _ (by
        have front := length_decimal_le (by decide) few
        rw [List.length_append, List.length_cons, places]
        omega)
      rw [if_neg whole, text, if_pos (by omega)]
      refine prints_signed (fun c member => ?_) (by simp) fun negative => ?_
      · rcases List.mem_append.mp member with front | member
        · exact chars_decimal _ c front
        · rcases List.mem_cons.mp member with rfl | back
          · rfl
          · exact isNumberChar_of_isDigit (isDigit_of_mem_padded back)
      · have read := strtod_fixed some (n := n.natAbs) (by rwa [size]) negative
        rwa [size] at read

theorem prints_append (small : precision ≤ 16) (holds : type.Holds precision v) : Prints type (type.append precision v) v := by
  cases type with
  | integer size signed => exact prints_printInt holds
  | decimal => exact prints_decimal small holds

end

/-! ## Full tables -/

namespace Loading

variable {loading : Loading} {rows y x : Nat} {matrix : Matrix} {result : Bool}

theorem readCell_within {text : Text} {stop : Char} {later : List Entry} (inside : HasRow matrix y) (column : x < matrix.width) :
    ∃ after still, loading.readCell y x text stop later matrix result = .ok (some (after, still)) := by
  cases read : loading.readCell y x text stop later matrix result with
  | error fault =>
    have narrow := (readCell_error_iff inside).mp ⟨fault, read⟩
    rw [cellWidth, if_pos (.inr column)] at narrow
    omega
  | ok outcome =>
    cases outcome with
    | some state => exact ⟨state.1, state.2, rfl⟩
    | none => exact absurd (readCell_none read).1 (not_le.mpr column)

theorem readRow_within {data : List Entry} (inside : HasRow matrix y) (fits : x + (row data).1.length ≤ matrix.width) :
    ∃ read, loading.readRow y x matrix result data = .ok read ∧ read.matrix.width = matrix.width ∧
      (result = true → (∀ text ∈ (row data).1, loading.Numeric text) → read.result = true) := by
  induction data generalizing x matrix result with
  | nil => exact ⟨_, rfl, rfl, fun got _ => got⟩
  | cons entry later ih =>
    obtain ⟨text, stop⟩ := entry
    cases stop with
    | none => exact ⟨_, rfl, rfl, fun got _ => got⟩
    | some stop =>
      have column : x < matrix.width := by
        unfold row at fits
        split at fits <;> simp only [List.length_cons, List.length_nil] at fits <;> omega
      obtain ⟨after, still, read⟩ := readCell_within inside column
      obtain ⟨cell, width⟩ := readCell_ok read
      rw [cellWidth, if_pos (.inr column)] at width
      unfold readRow
      rw [read]
      cases ended : lineEnd stop later with
      | some rest =>
        have line : row ((text, some stop) :: later) = ([text], rest) := by rw [row, ended]
        refine ⟨_, rfl, width, fun got numeric => cell.numeric.mpr ⟨got, numeric text ?_⟩⟩
        rw [line]
        exact List.mem_cons_self
      | none =>
        have line : row ((text, some stop) :: later) = (text :: (row later).1, (row later).2) := by rw [row, ended]
        rw [line, List.length_cons] at fits
        obtain ⟨next, ok, kept, done⟩ := ih (x := x + 1) (inside.readCell read) (by omega)
        refine ⟨next, ok, kept.trans width, fun got numeric => ?_⟩
        rw [line] at numeric
        exact done (cell.numeric.mpr ⟨got, numeric text List.mem_cons_self⟩) fun other listed =>
          numeric other (List.mem_cons_of_mem _ listed)

theorem readRows_full {lines : List Text} (oneLine : ∀ line ∈ lines, '\n' ∉ line) (inside : HasRows matrix y rows)
    (enough : rows ≤ lines.length)
    (full : ∀ line ∈ lines.take rows, (cells isComma line).length = matrix.width ∧
      ∀ text ∈ cells isComma line, loading.Numeric text) :
    ∃ after, loading.readRows rows y matrix true (entries isComma (lines.flatMap (· ++ ['\n']))) = .ok (y + rows, after, true) ∧
      after.width = matrix.width := by
  induction rows generalizing y matrix lines with
  | zero => exact ⟨matrix, rfl, rfl⟩
  | succ rows ih =>
    cases lines with
    | nil => exact absurd enough (by simp)
    | cons line lines =>
      obtain ⟨oneLine, others⟩ := List.forall_mem_cons.mp oneLine
      rw [List.take_succ_cons] at full
      obtain ⟨⟨columns, numeric⟩, full⟩ := List.forall_mem_cons.mp full
      have text : (line :: lines).flatMap (· ++ ['\n']) = line ++ '\n' :: lines.flatMap (· ++ ['\n']) := by simp
      have split := @row_entries isComma line oneLine (lines.flatMap (· ++ ['\n']))
      rw [text]
      cases found : entries isComma (line ++ '\n' :: lines.flatMap (· ++ ['\n'])) with
      | nil => exact absurd found (entries_ne_nil (by simp))
      | cons entry later =>
        rw [found] at split
        have here : HasRow matrix y := inside.imp_left (by omega)
        obtain ⟨read, ok, width, done⟩ := readRow_within (x := 0) here (by rw [split]; dsimp only; omega)
        have got := done rfl (by rw [split]; exact numeric)
        have filled := readRow_ok here ok
        obtain ⟨behind, place⟩ := filled.rest (.inr got)
        rw [split] at behind place
        dsimp only at behind place
        obtain ⟨cleaned, cleared⟩ : ∃ cleaned, read.matrix.initRow read.x y = .ok cleaned := by
          unfold Matrix.initRow
          rw [if_neg (by omega)]
          exact ⟨_, rfl⟩
        obtain ⟨size, -⟩ := Matrix.initRow_ok cleared
        have columns' : cleaned.width = matrix.width := size.width.trans width
        have next : HasRows cleaned (y + 1) rows := by
          have height := size.height.trans filled.height
          unfold HasRows at inside ⊢
          omega
        obtain ⟨after, rest, kept⟩ := ih others next (by simpa using enough) (fun line listed => by
          rw [columns']
          exact full line listed)
        refine ⟨after, ?_, kept.trans columns'⟩
        have all : decide (cleaned.width ≤ read.x) = true := by
          rw [decide_eq_true_iff]
          omega
        unfold readRows
        simp only [ok, bind, Except.bind, cleared, got, all, Bool.or_true, Bool.and_true, behind]
        rw [rest]
        congr 2
        omega

theorem Sized.full {file : Text} {size : Size} (sized : loading.Sized file size) (matrix : Matrix) (columns : 0 < size.width)
    (some : 0 < size.height) (enough : size.height ≤ (loading.rowLines file).length)
    (full : ∀ line ∈ (loading.rowLines file).take size.height, (cells isComma line).length = size.width ∧
      ∀ text ∈ cells isComma line, loading.Numeric text) :
    ∃ filled, loading.loadFromBuffer matrix (file ++ ['\n']) = .ok (filled, true) ∧ filled.width = size.width ∧
      filled.height = size.height ∧ ∀ x < size.width, ∀ y < size.height,
        filled.entry x y = loading.foundAt (cells isComma ((loading.rowLines file).getD y [])) x := by
  obtain ⟨start, dimensions, inside, -, load⟩ := sized.loadFromBuffer matrix
  have startWidth : start.width = size.width := dimensions.width.trans (Matrix.resize_width some)
  rw [← startWidth] at full
  obtain ⟨after, read, width⟩ := readRows_full (fun line => rowLines_oneLine) inside enough full
  have height : after.height = size.height :=
    (readRows_kept inside read).1.trans (dimensions.height.trans (Matrix.resize_height columns))
  have width' : after.width = size.width := width.trans startWidth
  have ok : loading.loadFromBuffer matrix (file ++ ['\n']) = .ok (after.initRows (0 + size.height), true) := by
    rw [load, read]
    simp [Except.map, height]
  obtain ⟨filled, result, ok', -, done⟩ := sized.loaded fun never => sized.wide ok never
  obtain ⟨rfl, rfl⟩ := Prod.mk.inj (Except.ok.inj (ok.symm.trans ok'))
  refine ⟨_, ok, width', height, fun x column y row => (done rfl).1 x ?_ y ?_⟩
  · exact column.trans_eq width'.symm
  · exact row.trans_eq height.symm

end Loading

/-! ## The lines of a saved matrix -/

namespace Matrix

variable {matrix : Matrix} {type : CellType} {precision : Nat} {y : Nat}

def rowText (matrix : Matrix) (type : CellType) (precision y : Nat) : Text :=
  type.append precision (matrix.entry 0 y) ++
    ((List.range' 1 (matrix.width - 1)).map fun x => type.append precision (matrix.entry x y)).flatMap ('\t' :: ·)

def lines (matrix : Matrix) (type : CellType) (precision : Nat) (printDimensions : Bool) : List Text :=
  (if printDimensions then [matrix.dimensions] else []) ++ (List.range matrix.height).map (matrix.rowText type precision)

def text (matrix : Matrix) (type : CellType) (precision : Nat) (printDimensions : Bool) : Text :=
  (matrix.lines type precision printDimensions).flatMap (· ++ ['\n'])

structure Printable (matrix : Matrix) (type : CellType) (precision : Nat) : Prop where
  columns : 0 < matrix.width
  rows : 0 < matrix.height
  places : precision ≤ 16
  holds : ∀ x < matrix.width, ∀ y < matrix.height, type.Holds precision (matrix.entry x y)

theorem saveToBuffer_eq {printDimensions saveEvenIfAllZero : Bool}
    (saved : printDimensions = true ∨ saveEvenIfAllZero = true ∨ matrix.containsOnlyZero = false) :
    matrix.saveToBuffer type precision printDimensions saveEvenIfAllZero =
      matrix.text type precision printDimensions := by
  have written : ¬(!printDimensions && (matrix.containsOnlyZero && !saveEvenIfAllZero)) = true := by
    rcases saved with rfl | rfl | some <;> simp_all
  have rows : (if matrix.width = 1 then matrix.runOneColumn type precision else matrix.runMultipleColumns type precision) =
      ((List.range matrix.height).map (matrix.rowText type precision)).flatMap (· ++ ['\n']) := by
    rw [List.flatMap_map]
    split_ifs with single
    · simp [runOneColumn, rowText, single]
    · simp [runMultipleColumns, rowText, List.flatMap_map]
  rw [saveToBuffer, if_neg written, rows, text, lines, List.flatMap_append]
  cases printDimensions <;> simp

namespace Printable

variable (printable : matrix.Printable type precision)
include printable

theorem prints {x : Nat} (column : x < matrix.width) (row : y < matrix.height) :
    Prints type (type.append precision (matrix.entry x y)) (matrix.entry x y) :=
  prints_append printable.places (printable.holds x column y row)

theorem cells_rowText (row : y < matrix.height) : cells isComma (matrix.rowText type precision y) =
    (List.range matrix.width).map fun x => type.append precision (matrix.entry x y) := by
  have columns : List.range matrix.width = 0 :: List.range' 1 (matrix.width - 1) := by
    obtain ⟨others, width⟩ := Nat.exists_eq_succ_of_ne_zero printable.columns.ne'
    rw [width, List.range_eq_range', List.range'_succ]
    rfl
  rw [columns, List.map_cons, rowText]
  refine cells_join rfl (by decide) fun cell listed c member => ?_
  rw [← List.map_cons (f := fun x => type.append precision (matrix.entry x y)), ← columns] at listed
  obtain ⟨x, column, rfl⟩ := List.mem_map.mp listed
  have isNumber := (printable.prints (List.mem_range.mp column) row).chars c member
  refine ⟨not_of_isNumberChar isNumber (by decide), fun same => ?_⟩
  rw [same] at isNumber
  exact absurd isNumber (by decide)

theorem chars_rowText (row : y < matrix.height) {c : Char} (member : c ∈ matrix.rowText type precision y) :
    isNumberChar c = true ∨ c = '\t' := by
  unfold rowText at member
  rcases List.mem_append.mp member with first | member
  · exact .inl ((printable.prints printable.columns row).chars c first)
  · obtain ⟨text, listed, member⟩ := List.mem_flatMap.mp member
    obtain ⟨x, column, rfl⟩ := List.mem_map.mp listed
    rcases List.mem_cons.mp member with tab | member
    · exact .inr tab
    · have bound := List.mem_range'_1.mp column
      exact .inl ((printable.prints (by omega) row).chars c member)

theorem oneLine_rowText (row : y < matrix.height) : '\n' ∉ matrix.rowText type precision y := fun member => by
  rcases printable.chars_rowText row member with isNumber | tab
  · exact absurd isNumber (by decide)
  · exact absurd tab (by decide)

theorem getLast_rowText (row : y < matrix.height) :
    ∃ c, (matrix.rowText type precision y).getLast? = some c ∧ isNumberChar c = true := by
  have last {text : Text} {v : Rat} (prints : Prints type text v) : ∃ c, text.getLast? = some c ∧ isNumberChar c = true :=
    ⟨_, List.getLast?_eq_some_getLast prints.nonempty, prints.chars _ (List.getLast_mem _)⟩
  unfold rowText
  rcases Nat.eq_zero_or_pos (matrix.width - 1) with none | some
  · simpa [none] using last (printable.prints printable.columns row)
  · obtain ⟨c, found, isNumber⟩ := last (printable.prints (x := matrix.width - 1) (by omega) row)
    obtain ⟨others, width⟩ := Nat.exists_eq_succ_of_ne_zero some.ne'
    refine ⟨c, ?_, isNumber⟩
    rw [width, Nat.succ_eq_add_one, Nat.add_comm] at found
    rw [width, List.range'_concat, List.map_append, List.flatMap_append, ← List.append_assoc, List.getLast?_append]
    simp [List.getLast?_cons, found]

end Printable

end Matrix

/-! ## Reading a saved matrix -/

section
variable {matrix : Matrix} {type : CellType} {precision : Nat} {loading : Loading} {printDimensions : Bool}

theorem scanInt_decimal {n : Nat} {rest : Text} (small : n < 2 ^ 31) (stops : ∀ c ∈ rest.head?, digit 10 c = none) :
    scanInt (decimal n ++ rest) = some ((n : Int), rest) := by
  have signed := sign_decimal false n rest
  rw [if_neg Bool.false_ne_true, List.nil_append] at signed
  have some : (decimal n).length ≠ 0 := fun none => decimal_ne_nil _ (List.length_eq_zero_iff.mp none)
  unfold scanInt
  rw [signed]
  dsimp only
  rw [digits_decimal n rest stops]
  dsimp only
  rw [if_neg Bool.false_ne_true, if_neg (by omega)]

theorem scanHeader_dimensions (columns : matrix.width < 2 ^ 31) (rows : matrix.height < 2 ^ 31) :
    scanHeader (matrix.dimensions.take 64) = some ((matrix.width : Int), (matrix.height : Int)) := by
  have short {n : Nat} (small : n < 2 ^ 31) : (decimal n).length ≤ 10 :=
    length_decimal_le (by decide) (small.trans (by norm_num))
  have size : matrix.dimensions.length ≤ 64 := by
    have := short columns
    have := short rows
    simp [Matrix.dimensions]
    omega
  have prefix' : (matrix.dimensions.take 64).drop 5 = decimal matrix.width ++ 'x' :: decimal matrix.height := by
    rw [List.take_of_length_le size]
    simp [Matrix.dimensions]
  have second : scanInt (decimal matrix.height ++ []) = some ((matrix.height : Int), []) :=
    scanInt_decimal rows fun c none => absurd none (by simp)
  rw [List.append_nil] at second
  rw [scanHeader, prefix', scanInt_decimal columns fun c first => by cases first; rfl]
  simp only [second]
  rfl

structure Loading.FitsText (loading : Loading) (matrix : Matrix) (type : CellType) (printDimensions : Bool) : Prop where
  convert : loading.convert = type.convert
  dimensions : (loading.fixedSize = true ∧ printDimensions = false ∧ loading.minWidth = matrix.width ∧
      loading.maxHeight = matrix.height) ∨
    (loading.fixedSize = false ∧ loading.minWidth ≤ matrix.width ∧
      (loading.maxHeight = matrix.height ∨ loading.maxHeight = 0))

theorem detectEncoding_head {c : Char} {rest : Text} (ascii : 0 < c.toNat ∧ c.toNat < 128) :
    detectEncoding (c :: rest) = some 0 := by
  simp only [detectEncoding, List.take_succ_cons, List.map_cons, List.cons_prefix_cons]
  rw [if_neg (by omega), if_neg (by omega)]

structure FirstLine (matrix : Matrix) (type : CellType) (precision : Nat) (printDimensions : Bool) (line : Text)
    (later : List Text) : Prop where
  lines : matrix.lines type precision printDimensions = line :: later
  oneLine : '\n' ∉ line
  last : ∃ c, line.getLast? = some c ∧ isNumberChar c = true
  header : printDimensions = true → line = matrix.dimensions
  row : printDimensions = false → line = matrix.rowText type precision 0
  head : ∃ c, line.head? = some c ∧ (0 < c.toNat ∧ c.toNat < 128) ∧ (printDimensions = false → isNumberChar c = true)

theorem ascii_of_isNumberChar {c : Char} (isNumber : isNumberChar c = true) : 0 < c.toNat ∧ c.toNat < 128 := by
  have ascii := not_of_isNumberChar isNumber (p := fun c => !decide (0 < c.toNat ∧ c.toNat < 128)) (by decide)
  simpa using ascii

theorem Matrix.Printable.firstLine (printable : matrix.Printable type precision) (printDimensions : Bool) :
    ∃ line later, FirstLine matrix type precision printDimensions line later := by
  cases printDimensions with
  | true =>
    refine ⟨matrix.dimensions, _, rfl, fun member => ?_, ?_, fun _ => rfl, nofun, 's', rfl, by decide, nofun⟩
    · rw [dimensions, List.mem_append, List.mem_append, List.mem_cons] at member
      rcases member with (word | digit) | mark | digit
      · exact absurd word (by decide)
      · exact absurd (chars_decimal _ _ digit) (by decide)
      · exact absurd mark (by decide)
      · exact absurd (chars_decimal _ _ digit) (by decide)
    · have some := decimal_ne_nil matrix.height
      refine ⟨(decimal matrix.height).getLast some, ?_, chars_decimal _ _ (List.getLast_mem some)⟩
      rw [dimensions, List.getLast?_append, List.getLast?_cons, List.getLast?_eq_some_getLast some]
      rfl
  | false =>
    obtain ⟨others, height⟩ := Nat.exists_eq_succ_of_ne_zero printable.rows.ne'
    have row := printable.rows
    refine ⟨matrix.rowText type precision 0, (List.range' 1 others).map (matrix.rowText type precision), ?_,
      printable.oneLine_rowText row, printable.getLast_rowText row, nofun, fun _ => rfl, ?_⟩
    · rw [lines, height, List.range_eq_range', List.range'_succ]
      rfl
    · have prints := printable.prints printable.columns row
      obtain ⟨c, text, split⟩ := List.exists_cons_of_ne_nil prints.nonempty
      have isNumber := prints.chars c (by rw [split]; exact List.mem_cons_self)
      exact ⟨c, by rw [rowText, split]; rfl, ascii_of_isNumberChar isNumber, fun _ => isNumber⟩

section
variable {line : Text} {later : List Text} (first : FirstLine matrix type precision printDimensions line later)
include first

theorem FirstLine.buffer : matrix.text type precision printDimensions ++ ['\n'] =
    line ++ '\n' :: (later.flatMap (· ++ ['\n']) ++ ['\n']) := by simp [Matrix.text, first.lines]

theorem FirstLine.trimmedLine : trimmedLine (matrix.text type precision printDimensions ++ ['\n']) = line := by
  have whole : Data.firstLine (matrix.text type precision printDimensions ++ ['\n']) = line := by
    have inside : ∀ c ∈ line, decide (c ≠ '\n') = true := fun c member =>
      decide_eq_true fun same => first.oneLine (same ▸ member)
    rw [first.buffer, Data.firstLine, List.takeWhile_append_of_pos inside]
    simp
  obtain ⟨c, last, isNumber⟩ := first.last
  rw [Data.trimmedLine, whole, List.rdropWhile_eq_self_iff]
  intro some
  rw [List.getLast?_eq_some_getLast some] at last
  rw [Option.some.inj last, not_of_isNumberChar isNumber (p := fun c => c == '\r' || c == '\t' || c == ' ') (by decide)]
  exact Bool.false_ne_true

theorem FirstLine.detectEncoding : detectEncoding (matrix.text type precision printDimensions ++ ['\n']) = some 0 := by
  obtain ⟨c, head, ascii, -⟩ := first.head
  obtain ⟨others, rfl⟩ := List.head?_eq_some_iff.mp head
  rw [first.buffer]
  exact detectEncoding_head ascii

theorem FirstLine.hasHeader : hasHeader (matrix.text type precision printDimensions ++ ['\n']) = printDimensions := by
  rw [Data.hasHeader, first.trimmedLine, first.buffer]
  cases header : printDimensions with
  | true =>
    rw [first.header header]
    have columns := List.length_pos_iff.mpr (decimal_ne_nil matrix.width)
    have rows := List.length_pos_iff.mpr (decimal_ne_nil matrix.height)
    have long : 7 < matrix.dimensions.length := by
      simp [Matrix.dimensions]
      omega
    rw [decide_eq_true long, Bool.true_and, List.isPrefixOf_iff_prefix, Matrix.dimensions, List.append_assoc, List.append_assoc]
    exact List.prefix_append _ _
  | false =>
    obtain ⟨c, head, -, isNumber⟩ := first.head
    obtain ⟨others, rfl⟩ := List.head?_eq_some_iff.mp head
    have other := not_of_isNumberChar (isNumber header) (p := fun c => 's' == c) (by decide)
    have mark : "size:".toList = ['s', 'i', 'z', 'e', ':'] := rfl
    rw [List.cons_append, mark, List.isPrefixOf_cons_cons, other, Bool.false_and, Bool.and_false]

end

theorem Matrix.Printable.oneLine_lines (printable : matrix.Printable type precision) {line : Text} {later : List Text}
    (first : FirstLine matrix type precision printDimensions line later) {row : Text}
    (listed : row ∈ matrix.lines type precision printDimensions) : '\n' ∉ row := by
  rcases List.mem_append.mp listed with header | listed
  · split_ifs at header with print
    · rw [List.mem_singleton.mp header, ← first.header print]
      exact first.oneLine
    · cases header
  · obtain ⟨y, row, rfl⟩ := List.mem_map.mp listed
    exact printable.oneLine_rowText (List.mem_range.mp row)

theorem Matrix.Printable.rowLines (printable : matrix.Printable type precision) {line : Text} {later : List Text}
    (first : FirstLine matrix type precision printDimensions line later)
    (fits : loading.fixedSize = true → printDimensions = false) :
    loading.rowLines (matrix.text type precision printDimensions) =
      (List.range matrix.height).map (matrix.rowText type precision) ++ [[]] := by
  have reads : loading.ReadsHeader (matrix.text type precision printDimensions) ↔ printDimensions = true := by
    rw [Loading.ReadsHeader, first.hasHeader]
    refine and_iff_right_of_imp fun print => ?_
    by_contra fixed
    exact absurd (fits (Bool.not_eq_false _ ▸ fixed)) (by rw [print]; exact Bool.noConfusion)
  have split : (matrix.text type precision printDimensions).splitOn '\n' = matrix.lines type precision printDimensions ++ [[]] :=
    splitOn_lines fun _ => printable.oneLine_lines first
  rw [Loading.rowLines, first.detectEncoding, Option.getD_some, List.drop_zero, split, Matrix.lines]
  split_ifs with header print print
  · simp
  · exact absurd (reads.mp header) print
  · exact absurd (reads.mpr print) header
  · rfl

theorem Matrix.Printable.length_rows (printable : matrix.Printable type precision) :
    matrix.width * 2 * matrix.height ≤ (matrix.text type precision printDimensions).length := by
  have each {α : Type} {texts : List α} {text : α → Text} {least : Nat} (long : ∀ x ∈ texts, least ≤ (text x).length) :
      texts.length * least ≤ (texts.flatMap text).length := by
    induction texts with
    | nil => simp
    | cons x texts ih =>
      obtain ⟨first, others⟩ := List.forall_mem_cons.mp long
      rw [List.flatMap_cons, List.length_append, List.length_cons, Nat.succ_mul]
      have := ih others
      omega
  have row {y : Nat} (bound : y < matrix.height) : matrix.width * 2 ≤ (matrix.rowText type precision y ++ ['\n']).length := by
    have first := List.length_pos_iff.mpr (printable.prints printable.columns bound).nonempty
    have others : (matrix.width - 1) * 2 ≤ (((List.range' 1 (matrix.width - 1)).map fun x =>
        type.append precision (matrix.entry x y)).flatMap ('\t' :: ·)).length := by
      have long := @each _ ((List.range' 1 (matrix.width - 1)).map fun x => type.append precision (matrix.entry x y))
        ('\t' :: ·) 2 fun text listed => by
          obtain ⟨x, column, rfl⟩ := List.mem_map.mp listed
          have bounds := List.mem_range'_1.mp column
          have some := List.length_pos_iff.mpr (printable.prints (x := x) (by omega) bound).nonempty
          simp only [List.length_cons]
          omega
      rwa [List.length_map, List.length_range'] at long
    rw [Matrix.rowText, List.length_append, List.length_append, List.length_singleton]
    omega
  have rows := @each _ ((List.range matrix.height).map (matrix.rowText type precision)) (· ++ ['\n'])
    (matrix.width * 2) fun text listed => by
      obtain ⟨y, bound, rfl⟩ := List.mem_map.mp listed
      exact row (List.mem_range.mp bound)
  rw [List.length_map, List.length_range, Nat.mul_comm] at rows
  rw [Matrix.text, Matrix.lines, List.flatMap_append, List.length_append]
  exact rows.trans (Nat.le_add_left _ _)

theorem header_text (printable : matrix.Printable type precision) {line : Text} {later : List Text}
    (first : FirstLine matrix type precision true line later)
    (limit : (matrix.text type precision true).length ≤ filesizeHardLimit) :
    header (matrix.text type precision true ++ ['\n']) = some ((matrix.width : Int), (matrix.height : Int)) := by
  have small := printable.length_rows.trans limit
  have columns := Nat.le_mul_of_pos_right (matrix.width * 2) printable.rows
  have rows := Nat.le_mul_of_pos_left matrix.height (Nat.mul_pos printable.columns two_pos)
  unfold filesizeHardLimit at small
  rw [header, first.trimmedLine, first.header rfl]
  exact scanHeader_dimensions (by omega) (by omega)

theorem Matrix.Printable.dimensions (printable : matrix.Printable type precision) {line : Text} {later : List Text}
    (first : FirstLine matrix type precision printDimensions line later)
    (limit : (matrix.text type precision printDimensions).length ≤ filesizeHardLimit)
    (fits : loading.FitsText matrix type printDimensions) {size : Size}
    (sized : loading.Sized (matrix.text type precision printDimensions) size) :
    size.width = matrix.width ∧ size.height = matrix.height := by
  have columns := printable.columns
  have rows := printable.rows
  rcases fits.dimensions with ⟨fixed, -, minWidth, maxHeight⟩ | ⟨free, minWidth, maxHeight⟩
  · rw [← minWidth, ← maxHeight]
    exact sized.fixed fixed
  cases print : printDimensions with
  | true =>
    subst print
    obtain ⟨width, height⟩ := sized.headed ⟨free, first.hasHeader⟩ _ (header_text printable first limit)
    dsimp only at width height
    split_ifs at width height <;> omega
  | false =>
    subst print
    have noReturn : '\r' ∉ line := fun member => by
      rw [first.row rfl] at member
      rcases printable.chars_rowText rows member with isNumber | tab
      · exact absurd isNumber (by decide)
      · exact absurd tab (by decide)
    have cellCount := @length_cells isComma line noReturn
    rw [first.row rfl, printable.cells_rowText rows, List.length_map, List.length_range, ← first.row rfl] at cellCount
    have lineCount : (matrix.text type precision false).count '\n' = matrix.height := by
      rw [text, count_lines fun _ => printable.oneLine_lines first]
      simp [lines]
    obtain ⟨width, height⟩ := sized.counted free first.hasHeader
    rw [first.trimmedLine, ← cellCount, max_eq_right minWidth] at width
    rw [Loading.automaticHeight_buffer, lineCount] at height
    refine ⟨width, height.trans ?_⟩
    split_ifs <;> omega

theorem internalLoadCSVFile_saveToBuffer (printable : matrix.Printable type precision)
    (fits : loading.FitsText matrix type printDimensions) {saveEvenIfAllZero : Bool}
    (saved : printDimensions = true ∨ saveEvenIfAllZero = true ∨ matrix.containsOnlyZero = false)
    (limit : (matrix.saveToBuffer type precision printDimensions saveEvenIfAllZero).length ≤ filesizeHardLimit)
    (before : Matrix) :
    ∃ after, loading.internalLoadCSVFile before (matrix.saveToBuffer type precision printDimensions saveEvenIfAllZero) =
      .ok (after, true) ∧ after.Same matrix := by
  rw [Matrix.saveToBuffer_eq saved] at limit ⊢
  obtain ⟨line, later, first⟩ := printable.firstLine printDimensions
  have rows := printable.rowLines first fun fixed => by
    rcases fits.dimensions with ⟨-, none, -⟩ | ⟨free, -⟩
    · exact none
    · exact absurd (fixed.symm.trans free) Bool.noConfusion
  have nonempty : matrix.text type precision printDimensions ≠ [] := by simp [Matrix.text, first.lines]
  have scanned : loading.Scanned (matrix.text type precision printDimensions) := by
    refine ⟨nonempty, limit, by simp [first.detectEncoding], .inr ?_⟩
    obtain ⟨c, last, -⟩ := first.last
    rw [first.trimmedLine]
    rintro rfl
    cases last
  rcases Loading.size_cases scanned with ⟨reads, none, -⟩ | ⟨-, size, sized⟩
  · obtain rfl : printDimensions = true := first.hasHeader.symm.trans reads.2
    cases (header_text printable first limit).symm.trans none
  obtain ⟨widthEq, heightEq⟩ := printable.dimensions first limit fits sized
  have rowCells {y : Nat} (row : y < matrix.height) :
      cells isComma ((loading.rowLines (matrix.text type precision printDimensions)).getD y []) =
        (List.range matrix.width).map fun x => type.append precision (matrix.entry x y) := by
    rw [rows, ← printable.cells_rowText row]
    simp [List.getD_eq_getElem?_getD, List.getElem?_append, row]
  have number {x y : Nat} (column : x < matrix.width) (row : y < matrix.height) :
      Loading.converter (type.append precision (matrix.entry x y)) ≠ [] ∧
        loading.convert (Loading.converter (type.append precision (matrix.entry x y))) = some (matrix.entry x y) := by
    have prints := printable.prints column row
    have whole : Loading.converter (type.append precision (matrix.entry x y)) = type.append precision (matrix.entry x y) :=
      List.takeWhile_eq_self_iff.mpr fun c member => by
        have notNull := not_of_isNumberChar (prints.chars c member) (p := fun c => !decide (c ≠ Char.ofNat 0)) (by decide)
        simpa using notNull
    rw [whole, fits.convert, prints.number]
    exact ⟨prints.nonempty, rfl⟩
  obtain ⟨filled, ok, width, height, done⟩ := sized.full before (widthEq ▸ printable.columns) (heightEq ▸ printable.rows)
    (by simp [rows, heightEq]) fun line listed => by
      rw [rows, heightEq, List.take_left' (by simp)] at listed
      obtain ⟨y, row, rfl⟩ := List.mem_map.mp listed
      rw [printable.cells_rowText (List.mem_range.mp row), widthEq]
      refine ⟨by simp, fun text member => ?_⟩
      obtain ⟨x, column, rfl⟩ := List.mem_map.mp member
      intro _
      rw [(number (List.mem_range.mp column) (List.mem_range.mp row)).2]
      rfl
  refine ⟨filled, ?_, width.trans widthEq, height.trans heightEq, fun x column y row => ?_⟩
  · rw [Loading.internalLoadCSVFile, Loading.readFile, if_neg (not_lt.mpr limit), if_neg nonempty, ok]
    rfl
  · rw [width] at column
    rw [height] at row
    rw [done x column y row]
    rw [widthEq] at column
    rw [heightEq] at row
    obtain ⟨some, read⟩ := number column row
    rw [rowCells row, Loading.foundAt, List.getElem?_map, List.getElem?_range column, Option.map_some, Option.elim_some,
      Loading.found, if_neg some, read, Option.getD_some]

theorem internalLoadCSVFile_saveToBuffer_seven :
    ∃ after, Loading.internalLoadCSVFile
        { convert := (CellType.integer .four true).convert, minWidth := 1, maxHeight := 0, fixedSize := false, neverFails := false }
        { width := 0, height := 0, entry := fun _ _ => 0 }
        (Matrix.saveToBuffer { width := 2, height := 1, entry := fun _ _ => 7 } (.integer .four true) 6 true false) =
      .ok (after, true) ∧ after.Same { width := 2, height := 1, entry := fun _ _ => 7 } :=
  @internalLoadCSVFile_saveToBuffer { width := 2, height := 1, entry := fun _ _ => 7 } (.integer .four true) 6 _ _
    ⟨by decide, by decide, by decide, fun _ _ _ _ => ⟨7, rfl, by decide, by decide⟩⟩
    ⟨rfl, .inr ⟨rfl, by decide, .inr rfl⟩⟩ _ (.inl rfl) (by decide +kernel) _

theorem not_internalLoadCSVFile_saveToBuffer :
    ¬∀ (matrix : Matrix) (type : CellType) (precision : Nat) (loading : Loading) (printDimensions saveEvenIfAllZero : Bool),
      matrix.Printable type precision → loading.FitsText matrix type printDimensions →
      (printDimensions = true ∨ saveEvenIfAllZero = true ∨ matrix.containsOnlyZero = false) → ∀ before : Matrix,
        ∃ after, loading.internalLoadCSVFile before (matrix.saveToBuffer type precision printDimensions saveEvenIfAllZero) =
          .ok (after, true) ∧ after.Same matrix := by
  intro always
  have printable : Matrix.Printable { width := 40000, height := 40000, entry := fun _ _ => 1 } (.integer .four true) 0 :=
    ⟨by decide, by decide, by decide, fun _ _ _ _ => ⟨1, rfl, by decide, by decide⟩⟩
  obtain ⟨after, loaded, -⟩ := always _ _ _
    { convert := (CellType.integer .four true).convert, minWidth := 40000, maxHeight := 40000, fixedSize := true, neverFails := false }
    false true printable ⟨rfl, .inl ⟨rfl, rfl, rfl, rfl⟩⟩ (.inr (.inl rfl))
    { width := 0, height := 0, entry := fun _ _ => 0 }
  have long := @Matrix.Printable.length_rows _ _ _ false printable
  have tooLarge : filesizeHardLimit < (Matrix.text { width := 40000, height := 40000, entry := fun _ _ => 1 }
      (.integer .four true) 0 false).length := lt_of_lt_of_le (by decide) long
  rw [Matrix.saveToBuffer_eq (.inr (.inl rfl)), Loading.internalLoadCSVFile, Loading.readFile, if_pos tooLarge] at loaded
  cases loaded

end

end Antares.Data
