import Antares.Data.Matrix
import Antares.Library.NumberTexts
import Antares.Library.SeparatedTexts

/-! `Matrix::internalLoadCSVFile` and `Matrix::loadFromBuffer`: the dimensions come from a header, from
the first line or from the caller, and one search for separators fills the cells.
-/

set_option autoImplicit false

namespace Antares.Data

open Library Library.Text Library.Table

/-- `ANTARES_MATRIX_CSV_COMMA`; the separators are these and the ends of lines. -/
def isComma (c : Char) : Bool := c == '\t' || c == ';' || c == ','

def filesizeHardLimit : Nat := 1536 * 1024 * 1024

/-- What a run may not do: use a dimension that was not read, or a cell outside the matrix. -/
inductive Fault where
  | dimension
  | cell
  deriving DecidableEq

namespace Matrix

variable (matrix : Matrix)

variable (x y : Nat)

/-- `entry[x][y] = value` -/
def assign (value : Rat) : Except Fault Matrix :=
  if x < matrix.width ∧ y < matrix.height then
    .ok { matrix with entry := fun column row => if column = x ∧ row = y then value else matrix.entry column row }
  else .error .cell

def resizeWithoutDataLost : Matrix :=
  if x = 0 ∨ y = 0 then matrix.clear
  else if x ≤ matrix.width ∧ y ≤ matrix.height then { matrix with width := x, height := y }
  else
    { width := x
      height := y
      entry := fun column row => if column < matrix.width ∧ row < matrix.height then matrix.entry column row else 0 }

/-- `Init` of the cells of a row, from a column on. -/
def initRow : Except Fault Matrix :=
  if x < matrix.width ∧ matrix.height ≤ y then .error .cell
  else .ok { matrix with entry := fun column row => if row = y ∧ x ≤ column then 0 else matrix.entry column row }

/-- `Init` of the cells of the rows that were not read. -/
def initRows (y : Nat) : Matrix :=
  { matrix with entry := fun column row => if y ≤ row then 0 else matrix.entry column row }

end Matrix

variable (data : Text)

/-- `DetectEncoding`: the length of the mark that is skipped, unless the encoding is refused. -/
def detectEncoding : Option Nat :=
  let bytes := (data.take 4).map Char.toNat
  if [0xFE, 0xFF] <+: bytes ∨ [0xFF, 0xFE] <+: bytes ∨ [0, 0, 0xFE, 0xFF] <+: bytes then none
  else if [0xEF, 0xBB, 0xBF] <+: bytes then some 3
  else some 0

/-- `%d` of `sscanf`. What is read for a number that is no `int` is not defined. -/
def scanInt (text : Text) : Option (Int × Text) :=
  let signed := sign (text.dropWhile isSpace)
  let number := digits 10 signed.2 0 0
  let value : Int := if signed.1 then -number.value else number.value
  if number.count = 0 ∨ value < -2 ^ 31 ∨ 2 ^ 31 ≤ value then none else some (value, number.rest)

/-- `sscanf(buffer, "size:%dx%d", &x, &y)`, when both are read. -/
def scanHeader (buffer : Text) : Option (Int × Int) :=
  match scanInt (buffer.drop 5) with
  | some (x, 'x' :: rest) => (scanInt rest).map fun second => (x, second.1)
  | _ => none

def firstLine : Text := data.takeWhile (· ≠ '\n')

def trimmedLine : Text := (firstLine data).rdropWhile fun c => c == '\r' || c == '\t' || c == ' '

def hasHeader : Bool := 7 < (trimmedLine data).length && "size:".toList.isPrefixOf data

/-- The dimensions of the file: a `CString<64>` holds the header. -/
def header : Option (Int × Int) := scanHeader ((trimmedLine data).take 64)

/-- How a file is read: the conversion of a text to the type of the cells, through a double if need
be, and what the caller asks for.
-/
structure Loading where
  convert : Text → Option Rat
  minWidth : Nat
  maxHeight : Nat
  fixedSize : Bool
  neverFails : Bool

/-- What is known before the first row: `height` is `maxHeight` then, and `offset` where the rows start. -/
structure Size where
  width : Nat
  height : Nat
  offset : Nat
  refused : Bool

structure RowRead where
  x : Nat
  matrix : Matrix
  result : Bool
  rest : List Entry

namespace Loading

variable (loading : Loading)

def automaticHeight (data : Text) : Nat :=
  if loading.maxHeight = 0 then
    if data.getLast? = some '\n' then data.count '\n' - 1 else data.count '\n' + 1
  else loading.maxHeight

def size (data : Text) : Except Fault Size :=
  match detectEncoding data with
  | none => .ok { width := max loading.minWidth 1, height := loading.maxHeight, offset := 0, refused := true }
  | some bom =>
    if loading.fixedSize then .ok { width := loading.minWidth, height := loading.maxHeight, offset := bom, refused := false }
    else if '\n' ∉ data ∨ trimmedLine data = [] then
      .ok { width := loading.minWidth, height := loading.automaticHeight data, offset := 0, refused := true }
    else if hasHeader data then
      match header data with
      | none => .error .dimension
      | some (x, y) =>
        .ok { width := if x < 1 then 1 else x.toNat
              height := if y < 1 then loading.automaticHeight data else y.toNat
              offset := (firstLine data).length + 1
              refused := false }
    else
      .ok { width := max loading.minWidth ((trimmedLine data).countP isComma + 1)
            height := loading.automaticHeight data
            offset := bom
            refused := false }

/-- `converter`, which ends at the first null character. -/
def converter (text : Text) : Text := text.takeWhile (· ≠ Char.ofNat 0)

/-- The separators that are left on the line, where the one of the cell is overwritten by then. -/
def newWidth (width : Nat) : List Entry → Nat
  | (_, some stop) :: later =>
    if stop = '\n' then width + 1 else if stop = '\r' then newWidth width later else newWidth (width + 1) later
  | _ => width

def widened (width x : Nat) (stop : Char) (later : List Entry) : Nat :=
  if stop = '\n' then x + 1 else newWidth (width + 1) later

def readCell (y x : Nat) (text : Text) (stop : Char) (later : List Entry) (matrix : Matrix) (result : Bool) :
    Except Fault (Option (Matrix × Bool)) :=
  if converter text = [] then
    if x < matrix.width then (matrix.assign x y 0).map fun after => some (after, result)
    else .ok (some (matrix, result))
  else if matrix.width ≤ x ∧ loading.neverFails = false then .ok none
  else
    let wide :=
      if matrix.width ≤ x then matrix.resizeWithoutDataLost (widened matrix.width x stop later) matrix.height else matrix
    let value := loading.convert (converter text)
    (wide.assign x y (value.getD 0)).map fun after => some (after, result && value.isSome)

/-- The terminator that replaced a separator is still in front of the next text. -/
def cutBefore : List Entry → List Entry
  | [] => [([Char.ofNat 0], none)]
  | (text, stop) :: later => (Char.ofNat 0 :: text, stop) :: later

def readRow (y : Nat) : Nat → Matrix → Bool → List Entry → Except Fault RowRead
  | x, matrix, result, (text, some stop) :: later =>
    match loading.readCell y x text stop later matrix result with
    | .error fault => .error fault
    | .ok none => .ok { x := x, matrix := matrix, result := false, rest := cutBefore later }
    | .ok (some (after, still)) =>
      match lineEnd stop later with
      | some rest => .ok { x := x + 1, matrix := after, result := still, rest := rest }
      | none => readRow y (x + 1) after still later
  | x, matrix, result, _ => .ok { x := x, matrix := matrix, result := result, rest := [] }

/-- The rows from `y` on, `rows` at most, and how many were read. -/
def readRows : Nat → Nat → Matrix → Bool → List Entry → Except Fault (Nat × Matrix × Bool)
  | rows + 1, y, matrix, result, entry :: later => do
    let read ← loading.readRow y 0 matrix result (entry :: later)
    let after ← read.matrix.initRow read.x y
    let enough := loading.neverFails || decide (after.width ≤ read.x)
    readRows rows (y + 1) after (read.result && enough) read.rest
  | _, y, matrix, result, _ => .ok (y, matrix, result)

variable (matrix : Matrix)

def loadFromBuffer (data : Text) : Except Fault (Matrix × Bool) := do
  let size ← loading.size data
  if size.refused then .ok (matrix.reset size.width size.height, false)
  else
    let sized := if loading.fixedSize then matrix.reset size.width size.height else matrix.resize size.width size.height
    let (y, filled, result) ← loading.readRows size.height 0 sized true (entries isComma (data.drop size.offset))
    .ok (filled.initRows y, loading.neverFails || result && decide (filled.height ≤ y))

/-- What `internalLoadCSVFile` does with a file that was found. -/
def readFile (file : Text) : Except Fault (Matrix × Bool) :=
  if filesizeHardLimit < file.length then .ok (matrix, false)
  else if file = [] then
    .ok (if loading.maxHeight ≠ 0 ∧ loading.minWidth ≠ 0 then matrix.reset loading.minWidth loading.maxHeight
      else matrix.clear, true)
  else loading.loadFromBuffer matrix (file ++ ['\n'])

def internalLoadCSVFile (file : Text) : Except Fault (Matrix × Bool) :=
  (loading.readFile matrix file).map fun (filled, result) =>
    (if result then filled else filled.reset loading.minWidth loading.maxHeight, result)

end Loading

namespace Matrix

variable {matrix after : Matrix} {x y : Nat} {value : Rat}

def cellAt (matrix : Matrix) (x y : Nat) : Rat := if x < matrix.width ∧ y < matrix.height then matrix.entry x y else 0

structure SameSize (matrix after : Matrix) : Prop where
  width : after.width = matrix.width
  height : after.height = matrix.height

theorem assign_ok (assigned : matrix.assign x y value = .ok after) :
    matrix.SameSize after ∧ (x < matrix.width ∧ y < matrix.height) ∧
      ∀ column row, after.cellAt column row = if column = x ∧ row = y then value else matrix.cellAt column row := by
  unfold assign at assigned
  split_ifs at assigned with inside
  obtain rfl := Except.ok.inj assigned
  refine ⟨⟨rfl, rfl⟩, inside, fun column row => ?_⟩
  unfold cellAt
  dsimp only
  by_cases here : column = x ∧ row = y
  · obtain ⟨rfl, rfl⟩ := here
    simp [inside]
  · simp [here]

theorem initRow_ok (assigned : matrix.initRow x y = .ok after) : matrix.SameSize after ∧
    ∀ column row, after.cellAt column row = if row = y ∧ x ≤ column then 0 else matrix.cellAt column row := by
  unfold initRow at assigned
  split_ifs at assigned
  obtain rfl := Except.ok.inj assigned
  refine ⟨⟨rfl, rfl⟩, fun column row => ?_⟩
  unfold cellAt
  dsimp only
  split_ifs <;> rfl

theorem resizeWithoutDataLost_size {width : Nat} (wider : matrix.width < width) :
    (matrix.resizeWithoutDataLost width matrix.height).height = matrix.height ∧
      (matrix.resizeWithoutDataLost width matrix.height).width = if matrix.height = 0 then 0 else width := by
  unfold resizeWithoutDataLost clear
  split_ifs <;> first | omega | simp_all

theorem cellAt_resizeWithoutDataLost {width : Nat} (wider : matrix.width < width) (column row : Nat) :
    (matrix.resizeWithoutDataLost width matrix.height).cellAt column row = matrix.cellAt column row := by
  have grows : ¬(width ≤ matrix.width ∧ matrix.height ≤ matrix.height) := by omega
  unfold resizeWithoutDataLost cellAt
  rw [if_neg grows]
  by_cases none : width = 0 ∨ matrix.height = 0
  · rw [if_pos none, if_neg fun both => absurd both.2 (Nat.not_lt_zero row)]
    exact (if_neg (by omega)).symm
  · rw [if_neg none]
    dsimp only
    split_ifs <;> first | rfl | omega

end Matrix

namespace Loading

variable (loading : Loading)

def found (text : Text) : Rat := if converter text = [] then 0 else (loading.convert (converter text)).getD 0

def Numeric (text : Text) : Prop := converter text ≠ [] → (loading.convert (converter text)).isSome = true

/-- The width of the matrix after a cell, when nothing stops the row. -/
def cellWidth (height width x : Nat) (text : Text) (stop : Char) (later : List Entry) : Nat :=
  if converter text = [] ∨ x < width then width else if height = 0 then 0 else widened width x stop later

/-- The width after a row and what is left of the file, unless a text is beyond the width it asks for. -/
def rowWidth (height : Nat) : Nat → Nat → List Entry → Option (Nat × List Entry)
  | x, width, (text, some stop) :: later =>
    let wide := cellWidth height width x text stop later
    if converter text ≠ [] ∧ wide ≤ x then none
    else
      match lineEnd stop later with
      | some rest => some (wide, rest)
      | none => rowWidth height (x + 1) wide later
  | _, width, _ => some (width, [])

/-- Every text is inside the width that its line gives when it is beyond the last column. -/
def WideEnough (height : Nat) : Nat → Nat → List Entry → Prop
  | rows + 1, width, entry :: later =>
    ∃ wide rest, rowWidth height 0 width (entry :: later) = some (wide, rest) ∧ WideEnough height rows wide rest
  | _, _, _ => True

def foundAt (cells : List Text) (x : Nat) : Rat := (cells[x]?).elim 0 loading.found

variable {loading}

structure CellRead (loading : Loading) (y x : Nat) (text : Text) (matrix after : Matrix) (result still : Bool) : Prop where
  height : after.height = matrix.height
  wider : matrix.width ≤ after.width
  cells : ∀ column row, after.cellAt column row = if column = x ∧ row = y then loading.found text else matrix.cellAt column row
  numeric : still = true ↔ result = true ∧ loading.Numeric text

theorem lt_widened {width x : Nat} (outside : width ≤ x) (stop : Char) (later : List Entry) :
    width < widened width x stop later := by
  have atLeast (start : Nat) : start ≤ newWidth start later := by
    induction later generalizing start with
    | nil => exact le_rfl
    | cons entry later ih =>
      obtain ⟨text, stop⟩ := entry
      cases stop with
      | none => exact le_rfl
      | some stop =>
        unfold newWidth
        have more := ih (start + 1)
        have same := ih start
        split_ifs <;> omega
  have least := atLeast (width + 1)
  unfold widened
  split_ifs <;> omega

theorem CellRead.of_assign {y x : Nat} {text : Text} {matrix wide after : Matrix} {value : Rat} {result still kept : Bool}
    (read : (wide.assign x y value).map (fun after => some (after, kept)) = .ok (some (after, still)))
    (height : wide.height = matrix.height) (wider : matrix.height ≠ 0 → matrix.width ≤ wide.width)
    (cells : ∀ column row, wide.cellAt column row = matrix.cellAt column row) (found : loading.found text = value)
    (numeric : kept = true ↔ result = true ∧ loading.Numeric text) :
    loading.CellRead y x text matrix after result still ∧ after.width = wide.width := by
  cases stored : wide.assign x y value with
  | error fault => rw [stored] at read; cases read
  | ok stored' =>
    rw [stored] at read
    cases read
    obtain ⟨size, inside, assigned⟩ := Matrix.assign_ok stored
    refine ⟨⟨size.height.trans height, ?_, fun column row => ?_, numeric⟩, size.width⟩
    · exact (wider (by omega)).trans size.width.ge
    · rw [assigned, cells, found]

section
variable {y x : Nat} {text : Text} {stop : Char} {later : List Entry} {matrix after : Matrix} {result still : Bool}

theorem readCell_ok (read : loading.readCell y x text stop later matrix result = .ok (some (after, still))) :
    loading.CellRead y x text matrix after result still ∧
      after.width = cellWidth matrix.height matrix.width x text stop later := by
  unfold readCell at read
  unfold cellWidth
  by_cases empty : converter text = []
  · have zero : loading.found text = 0 := if_pos empty
    have numeric : result = true ↔ result = true ∧ loading.Numeric text := by simp [Numeric, empty]
    rw [if_pos empty] at read
    rw [if_pos (.inl empty)]
    split_ifs at read with inside
    · exact CellRead.of_assign read rfl (fun _ => le_rfl) (fun _ _ => rfl) zero numeric
    · cases read
      refine ⟨⟨rfl, le_rfl, fun column row => ?_, numeric⟩, rfl⟩
      split_ifs with here
      · rw [zero, here.1]
        exact if_neg fun both => inside both.1
      · rfl
  · have number : loading.found text = (loading.convert (converter text)).getD 0 := if_neg empty
    have numeric : (result && (loading.convert (converter text)).isSome) = true ↔ result = true ∧ loading.Numeric text := by
      simp [Numeric, empty]
    rw [if_neg empty] at read
    by_cases outside : matrix.width ≤ x
    · by_cases fails : loading.neverFails = false
      · rw [if_pos ⟨outside, fails⟩] at read
        cases read
      · rw [if_neg fun both => fails both.2, if_pos outside] at read
        have more := lt_widened outside stop later
        obtain ⟨height, width⟩ := Matrix.resizeWithoutDataLost_size more
        have wider : matrix.height ≠ 0 → matrix.width ≤
            (matrix.resizeWithoutDataLost (widened matrix.width x stop later) matrix.height).width := fun rows => by
          rw [width, if_neg rows]
          exact more.le
        have stored := CellRead.of_assign read height wider (Matrix.cellAt_resizeWithoutDataLost more) number numeric
        rw [if_neg (not_or.mpr ⟨empty, not_lt.mpr outside⟩), ← width]
        exact stored
    · rw [if_neg fun both => outside both.1, if_neg outside] at read
      rw [if_pos (.inr (not_le.mp outside))]
      exact CellRead.of_assign read rfl (fun _ => le_rfl) (fun _ _ => rfl) number numeric

/-- The rows that are read are those of the matrix, unless it has no cell at all. -/
def HasRow (matrix : Matrix) (y : Nat) : Prop := y < matrix.height ∨ matrix.height = 0 ∧ matrix.width = 0

theorem readCell_error_iff (inside : HasRow matrix y) :
    (∃ fault, loading.readCell y x text stop later matrix result = .error fault) ↔
      loading.neverFails = true ∧ converter text ≠ [] ∧ cellWidth matrix.height matrix.width x text stop later ≤ x := by
  have assigned (wide : Matrix) (value : Rat) (kept : Bool) (row : wide.width ≠ 0 → y < wide.height) :
      (∃ fault, (wide.assign x y value).map (fun after => some (after, kept)) = .error fault) ↔ wide.width ≤ x := by
    unfold Matrix.assign
    split_ifs with both
    · simp [Except.map, both.1]
    · simp only [Except.map, Except.error.injEq, exists_eq', true_iff]
      by_contra less
      exact both ⟨not_le.mp less, row (by omega)⟩
  have kept : matrix.width ≠ 0 → y < matrix.height := by
    unfold HasRow at inside
    omega
  unfold readCell cellWidth
  by_cases empty : converter text = []
  · rw [if_pos empty, if_pos (Or.inl empty)]
    by_cases before : x < matrix.width
    · rw [if_pos before, assigned _ _ _ kept]
      simp [empty, before]
    · simp [empty, before]
  · rw [if_neg empty]
    by_cases outside : matrix.width ≤ x
    · cases fails : loading.neverFails with
      | false => simp [outside]
      | true =>
        have more := lt_widened outside stop later
        obtain ⟨height, width⟩ := Matrix.resizeWithoutDataLost_size more
        rw [if_neg (by simp), if_pos outside, if_neg (not_or.mpr ⟨empty, not_lt.mpr outside⟩), assigned, width]
        · simp [empty]
        · unfold HasRow at inside
          rw [height, width]
          split_ifs <;> omega
    · have before := not_le.mp outside
      rw [if_neg fun both => outside both.1, if_neg outside, assigned _ _ _ kept]
      simp [before, outside]

theorem readCell_none (read : loading.readCell y x text stop later matrix result = .ok none) :
    matrix.width ≤ x ∧ loading.neverFails = false := by
  have map_ne {m : Except Fault Matrix} {kept : Bool} : m.map (fun after => some (after, kept)) ≠ .ok none := by
    cases m <;> simp [Except.map]
  unfold readCell at read
  by_contra inside
  split_ifs at read <;> first | exact map_ne read | simp_all

theorem HasRow.readCell (inside : HasRow matrix y)
    (read : loading.readCell y x text stop later matrix result = .ok (some (after, still))) : HasRow after y := by
  obtain ⟨cell, width⟩ := readCell_ok read
  unfold HasRow at inside ⊢
  rw [cell.height, width]
  unfold cellWidth
  split_ifs <;> omega

end

theorem readCell_kept {y x : Nat} {text : Text} {stop : Char} {later : List Entry} {matrix after : Matrix}
    {result still : Bool} (fails : loading.neverFails = false)
    (read : loading.readCell y x text stop later matrix result = .ok (some (after, still))) : after.width = matrix.width := by
  rw [(readCell_ok read).2]
  refine if_pos ?_
  by_contra outside
  rw [not_or, not_lt] at outside
  unfold readCell at read
  rw [if_neg outside.1, if_pos ⟨outside.2, fails⟩] at read
  cases read

structure RowFilled (loading : Loading) (y x : Nat) (matrix : Matrix) (result : Bool) (data : List Entry)
    (read : RowRead) : Prop where
  height : read.matrix.height = matrix.height
  width : loading.neverFails = true → rowWidth matrix.height x matrix.width data = some (read.matrix.width, read.rest)
  kept : loading.neverFails = false → read.matrix.width = matrix.width
  before : read.result = true → result = true
  rest : loading.neverFails = true ∨ read.result = true → read.rest = (row data).2 ∧ read.x = x + (row data).1.length
  cells : loading.neverFails = true ∨ read.result = true → ∀ column other, read.matrix.cellAt column other =
    if other = y ∧ x ≤ column ∧ column < x + (row data).1.length then loading.foundAt (row data).1 (column - x)
    else matrix.cellAt column other
  numeric : read.result = true → ∀ text ∈ (row data).1, loading.Numeric text

section
variable {y x : Nat} {matrix : Matrix} {result : Bool} {data : List Entry}

-- by the entries of the row; the cells of later entries are those of the row that starts a column further
theorem readRow_ok (inside : HasRow matrix y) {read : RowRead} (ok : loading.readRow y x matrix result data = .ok read) :
    loading.RowFilled y x matrix result data read := by
  induction data generalizing x matrix result with
  | nil =>
    cases ok
    exact ⟨rfl, fun _ => rfl, fun _ => rfl, id, fun _ => ⟨rfl, rfl⟩, fun _ column other => by simp [row],
      fun _ _ listed => absurd listed List.not_mem_nil⟩
  | cons entry later ih =>
    obtain ⟨text, stop⟩ := entry
    cases stop with
    | none =>
      cases ok
      exact ⟨rfl, fun _ => rfl, fun _ => rfl, id, fun _ => ⟨rfl, rfl⟩, fun _ column other => by simp [row],
        fun _ _ listed => absurd listed List.not_mem_nil⟩
    | some stop =>
      unfold readRow at ok
      cases first : loading.readCell y x text stop later matrix result with
      | error fault => rw [first] at ok; cases ok
      | ok outcome =>
        rw [first] at ok
        cases outcome with
        | none =>
          cases ok
          have never := (readCell_none first).2
          have noResult : ¬(loading.neverFails = true ∨ false = true) := by simp [never]
          exact ⟨rfl, fun fails => absurd (never.symm.trans fails) Bool.false_ne_true, fun _ => rfl,
            fun got => absurd got Bool.false_ne_true, fun some => absurd some noResult, fun some => absurd some noResult,
            fun got => absurd got Bool.false_ne_true⟩
        | some state =>
          obtain ⟨after, still⟩ := state
          obtain ⟨cell, width⟩ := readCell_ok first
          have wide (never : loading.neverFails = true) :
              ¬(converter text ≠ [] ∧ cellWidth matrix.height matrix.width x text stop later ≤ x) := fun narrow => by
            obtain ⟨fault, stopped⟩ := (readCell_error_iff inside).mpr ⟨never, narrow⟩
            cases first.symm.trans stopped
          dsimp only at ok
          cases ended : lineEnd stop later with
          | some rest =>
            have line : row ((text, some stop) :: later) = ([text], rest) := by rw [row, ended]
            rw [ended] at ok
            cases ok
            refine ⟨cell.height, fun never => ?_, fun fails => readCell_kept fails first, fun got => (cell.numeric.mp got).1,
              fun _ => by rw [line]; exact ⟨rfl, rfl⟩, fun _ column other => ?_, fun got => ?_⟩
            · rw [rowWidth, if_neg (wide never), ended, ← width]
            · rw [cell.cells, line]
              by_cases here : column = x ∧ other = y
              · simp [here, foundAt]
              · rw [if_neg here, if_neg (by simp; omega)]
            · rw [line]
              simpa using (cell.numeric.mp got).2
          | none =>
            have line : row ((text, some stop) :: later) = (text :: (row later).1, (row later).2) := by rw [row, ended]
            rw [ended] at ok
            have next := ih (inside.readCell first) ok
            refine ⟨next.height.trans cell.height, fun never => ?_, fun fails => (next.kept fails).trans (readCell_kept fails first),
              fun got => (cell.numeric.mp (next.before got)).1, fun done => ?_, fun done column other => ?_, fun got => ?_⟩
            · rw [rowWidth, if_neg (wide never), ended, ← width, ← cell.height]
              exact next.width never
            · rw [line]
              obtain ⟨rest, place⟩ := next.rest done
              exact ⟨rest, by rw [place, List.length_cons]; omega⟩
            · rw [next.cells done, cell.cells, line, List.length_cons]
              by_cases here : column = x ∧ other = y
              · obtain ⟨rfl, rfl⟩ := here
                rw [if_neg (by omega), if_pos ⟨rfl, rfl⟩, if_pos ⟨rfl, le_rfl, by omega⟩]
                simp [foundAt]
              · by_cases further : other = y ∧ x + 1 ≤ column ∧ column < x + 1 + (row later).1.length
                · have behind : column - x = (column - (x + 1)) + 1 := by omega
                  rw [if_pos further, if_pos ⟨further.1, by omega, by omega⟩, behind]
                  rfl
                · rw [if_neg further, if_neg here, if_neg (by omega)]
            · rw [line]
              intro other listed
              rcases List.mem_cons.mp listed with rfl | listed
              · exact (cell.numeric.mp (next.before got)).2
              · exact next.numeric got other listed

theorem readRow_error_iff (inside : HasRow matrix y) : (∃ fault, loading.readRow y x matrix result data = .error fault) ↔
    loading.neverFails = true ∧ rowWidth matrix.height x matrix.width data = none := by
  induction data generalizing x matrix result with
  | nil => simp [readRow, rowWidth]
  | cons entry later ih =>
    obtain ⟨text, stop⟩ := entry
    cases stop with
    | none => simp [readRow, rowWidth]
    | some stop =>
      have error := @readCell_error_iff loading y x text stop later matrix result inside
      unfold readRow rowWidth
      cases first : loading.readCell y x text stop later matrix result with
      | error fault =>
        obtain ⟨never, narrow⟩ := error.mp ⟨fault, first⟩
        simp [never, narrow]
      | ok outcome =>
        have wide : ¬(loading.neverFails = true ∧ converter text ≠ [] ∧
            cellWidth matrix.height matrix.width x text stop later ≤ x) := fun narrow => by
          obtain ⟨fault, stopped⟩ := error.mpr narrow
          cases first.symm.trans stopped
        cases outcome with
        | none => simp [(readCell_none first).2]
        | some state =>
          obtain ⟨after, still⟩ := state
          obtain ⟨cell, width⟩ := readCell_ok first
          dsimp only
          cases ended : lineEnd stop later with
          | some rest =>
            refine iff_of_false (fun ⟨_, stopped⟩ => nomatch stopped) fun ⟨never, stopped⟩ => ?_
            rw [if_neg fun narrow => wide ⟨never, narrow⟩] at stopped
            cases stopped
          | none =>
            cases never : loading.neverFails with
            | false => simpa [never] using ih (inside.readCell first)
            | true =>
              rw [if_neg fun narrow => wide ⟨never, narrow⟩]
              simpa [never, cell.height, width] using ih (x := x + 1) (inside.readCell first)

theorem rowWidth_zero {wide : Nat} {rest : List Entry} (read : rowWidth 0 x 0 data = some (wide, rest)) : wide = 0 := by
  have none (column : Nat) (text : Text) (stop : Char) (later : List Entry) : cellWidth 0 0 column text stop later = 0 := by
    simp [cellWidth]
  induction data generalizing x with
  | nil => cases read; rfl
  | cons entry later ih =>
    obtain ⟨text, stop⟩ := entry
    cases stop with
    | none => cases read; rfl
    | some stop =>
      simp only [rowWidth, none] at read
      split at read
      · cases read
      · split at read
        · cases read; rfl
        · exact ih read

theorem HasRow.of_row {read : RowRead} (inside : HasRow matrix y) (filled : loading.RowFilled y x matrix result data read) :
    HasRow read.matrix y := by
  unfold HasRow at inside ⊢
  rw [filled.height]
  rcases inside with inside | ⟨height, width⟩
  · exact .inl inside
  · refine .inr ⟨height, ?_⟩
    cases never : loading.neverFails with
    | false => rw [filled.kept never, width]
    | true => exact rowWidth_zero (height ▸ width ▸ filled.width never)

end

/-- What reading rows does to the matrix: `done` is the row after the last one. -/
structure RowsFilled (loading : Loading) (y : Nat) (matrix : Matrix) (rows : Nat) (lines : List Text) (done : Nat)
    (after : Matrix) (still : Bool) : Prop where
  count : loading.neverFails = true ∨ still = true → done = y + min rows lines.length
  cells : loading.neverFails = true ∨ still = true → ∀ column other, after.cellAt column other =
    if y ≤ other ∧ other < y + min rows lines.length then loading.foundAt (cells isComma (lines.getD (other - y) [])) column
    else matrix.cellAt column other
  numeric : still = true → ∀ line ∈ lines.take rows, ∀ text ∈ Table.cells isComma line, loading.Numeric text

section
variable {rows y : Nat} {matrix : Matrix} {result : Bool}

/-- The rows that are read are those of the matrix, unless it has no cell at all. -/
def HasRows (matrix : Matrix) (y rows : Nat) : Prop := y + rows ≤ matrix.height ∨ matrix.height = 0 ∧ matrix.width = 0

theorem readRows_error_iff {data : List Entry} (inside : HasRows matrix y rows) :
    (∃ fault, loading.readRows rows y matrix result data = .error fault) ↔
      loading.neverFails = true ∧ ¬WideEnough matrix.height rows matrix.width data := by
  induction rows generalizing y matrix result data with
  | zero => simp [readRows, WideEnough]
  | succ rows ih =>
    cases data with
    | nil => simp [readRows, WideEnough]
    | cons entry later =>
      have here : HasRow matrix y := inside.imp_left (by omega)
      have error := @readRow_error_iff loading y 0 matrix result (entry :: later) here
      unfold readRows WideEnough
      cases first : loading.readRow y 0 matrix result (entry :: later) with
      | error fault =>
        obtain ⟨never, narrow⟩ := error.mp ⟨fault, first⟩
        simp [never, narrow, bind, Except.bind]
      | ok read =>
        have filled := readRow_ok here first
        have kept := here.of_row filled
        obtain ⟨after, cleared⟩ : ∃ after, read.matrix.initRow read.x y = .ok after := by
          unfold Matrix.initRow HasRow at *
          rw [if_neg (by omega)]
          exact ⟨_, rfl⟩
        obtain ⟨size, -⟩ := Matrix.initRow_ok cleared
        have next : HasRows after (y + 1) rows := by
          unfold HasRows HasRow at *
          rw [size.height, size.width]
          have height := filled.height
          omega
        have rest := @ih (y + 1) after (read.result && (loading.neverFails || decide (after.width ≤ read.x))) read.rest next
        simp only [bind, Except.bind, cleared]
        rw [rest, size.height, size.width, filled.height]
        cases never : loading.neverFails with
        | false => simp
        | true => simp [filled.width never]

theorem readRows_succ {entry : Entry} {later : List Entry} {done : Nat} {after : Matrix} {still : Bool}
    (inside : HasRows matrix y (rows + 1))
    (ok : loading.readRows (rows + 1) y matrix result (entry :: later) = .ok (done, after, still)) :
    ∃ read cleaned, loading.RowFilled y 0 matrix result (entry :: later) read ∧
      read.matrix.initRow read.x y = .ok cleaned ∧ HasRows cleaned (y + 1) rows ∧
      loading.readRows rows (y + 1) cleaned (read.result && (loading.neverFails || decide (cleaned.width ≤ read.x))) read.rest =
        .ok (done, after, still) := by
  have here : HasRow matrix y := inside.imp_left (by omega)
  unfold readRows at ok
  cases first : loading.readRow y 0 matrix result (entry :: later) with
  | error fault => simp [first, bind, Except.bind] at ok
  | ok read =>
    have filled := readRow_ok here first
    have kept := here.of_row filled
    simp only [first, bind, Except.bind] at ok
    cases cleared : read.matrix.initRow read.x y with
    | error fault => simp [cleared] at ok
    | ok cleaned =>
      rw [cleared] at ok
      obtain ⟨size, -⟩ := Matrix.initRow_ok cleared
      refine ⟨read, cleaned, filled, cleared, ?_, ok⟩
      unfold HasRows HasRow at *
      rw [size.height, size.width]
      have height := filled.height
      omega

theorem readRows_kept {data : List Entry} {done : Nat} {after : Matrix} {still : Bool} (inside : HasRows matrix y rows)
    (ok : loading.readRows rows y matrix result data = .ok (done, after, still)) :
    after.height = matrix.height ∧ (still = true → result = true) := by
  induction rows generalizing y matrix result data with
  | zero => cases ok; exact ⟨rfl, id⟩
  | succ rows ih =>
    cases data with
    | nil => cases ok; exact ⟨rfl, id⟩
    | cons entry later =>
      obtain ⟨read, cleaned, filled, cleared, next, rest⟩ := readRows_succ inside ok
      obtain ⟨height, before⟩ := ih next rest
      refine ⟨height.trans ((Matrix.initRow_ok cleared).1.height.trans filled.height), fun got => filled.before ?_⟩
      exact (Bool.and_eq_true_iff.mp (before got)).1

-- by rows: the first line fills row `y`, the later ones are those of the rows from `y + 1` on
theorem readRows_ok {lines : List Text} {done : Nat} {after : Matrix} {still : Bool}
    (oneLine : ∀ line ∈ lines, '\n' ∉ line) (inside : HasRows matrix y rows)
    (ok : loading.readRows rows y matrix result (entries isComma (lines.flatMap (· ++ ['\n']))) = .ok (done, after, still)) :
    loading.RowsFilled y matrix rows lines done after still := by
  induction rows generalizing y matrix result lines with
  | zero =>
    cases ok
    exact ⟨fun _ => by simp, fun _ column other => by rw [if_neg (by omega)], fun _ => by simp⟩
  | succ rows ih =>
    cases lines with
    | nil =>
      cases ok
      exact ⟨fun _ => rfl, fun _ column other => by rw [if_neg (by simp)], fun _ => by simp⟩
    | cons line lines =>
      obtain ⟨oneLine, others⟩ := List.forall_mem_cons.mp oneLine
      have text : (line :: lines).flatMap (· ++ ['\n']) = line ++ '\n' :: lines.flatMap (· ++ ['\n']) := by simp
      have split := @row_entries isComma line oneLine (lines.flatMap (· ++ ['\n']))
      rw [text] at ok
      cases found : entries isComma (line ++ '\n' :: lines.flatMap (· ++ ['\n'])) with
      | nil => exact absurd found (entries_ne_nil (by simp))
      | cons entry later =>
        rw [found] at ok split
        obtain ⟨read, cleaned, filled, cleared, next, rest⟩ := readRows_succ inside ok
        obtain ⟨-, cleanedCells⟩ := Matrix.initRow_ok cleared
        have got : still = true → read.result = true := fun still =>
          (Bool.and_eq_true_iff.mp ((readRows_kept next rest).2 still)).1
        by_cases some : loading.neverFails = true ∨ read.result = true
        · obtain ⟨behind, place⟩ := filled.rest some
          have filledCells := filled.cells some
          rw [split] at behind place filledCells
          dsimp only at behind place filledCells
          rw [behind] at rest
          have later := ih others next rest
          refine ⟨fun done => ?_, fun done column other => ?_, fun done line' listed => ?_⟩
          · rw [later.count done, List.length_cons]
            omega
          · rw [later.cells done, cleanedCells, filledCells, List.length_cons, place]
            by_cases further : y + 1 ≤ other ∧ other < y + 1 + min rows lines.length
            · have down : other - y = other - (y + 1) + 1 := by omega
              rw [if_pos further, if_pos (by omega), down, List.getD_cons_succ]
            · rw [if_neg further]
              by_cases same : other = y
              · subst same
                have first : other ≤ other ∧ other < other + min (rows + 1) (lines.length + 1) := by omega
                rw [if_pos first, Nat.sub_self, List.getD_cons_zero, Nat.zero_add]
                by_cases filled : column < (Table.cells isComma line).length
                · rw [if_neg fun both => absurd filled (not_lt.mpr both.2), if_pos ⟨rfl, Nat.zero_le _, filled⟩, Nat.sub_zero]
                · rw [if_pos ⟨rfl, not_lt.mp filled⟩]
                  simp [foundAt, List.getElem?_eq_none (not_lt.mp filled)]
              · rw [if_neg (by omega), if_neg (by omega), if_neg (by omega)]
          · rw [List.take_succ_cons] at listed
            rcases List.mem_cons.mp listed with rfl | listed
            · have numeric := filled.numeric (got done)
              rw [split] at numeric
              exact numeric
            · exact later.numeric done line' listed
        · rw [not_or] at some
          have none : ¬(loading.neverFails = true ∨ still = true) := not_or.mpr ⟨some.1, fun done => some.2 (got done)⟩
          exact ⟨fun done => absurd done none, fun done => absurd done none, fun done => absurd (.inr done) none⟩

end

/-! ## Files -/

section
variable (loading)

variable (file : Text)

/-- The lines of a file, the last one with its line end or without. -/
def lineCount : Nat := file.count '\n' + if file = [] ∨ file.getLast? = some '\n' then 0 else 1

structure Scanned (file : Text) : Prop where
  nonempty : file ≠ []
  limit : file.length ≤ filesizeHardLimit
  encoding : detectEncoding (file ++ ['\n']) ≠ none
  line : loading.fixedSize = true ∨ trimmedLine (file ++ ['\n']) ≠ []

def ReadsHeader : Prop := loading.fixedSize = false ∧ hasHeader (file ++ ['\n']) = true

instance (file : Text) : Decidable (loading.ReadsHeader file) := inferInstanceAs (Decidable (_ ∧ _))

def rowLines : List Text :=
  if loading.ReadsHeader file then (file.splitOn '\n').tail
  else (file.drop ((detectEncoding (file ++ ['\n'])).getD 0)).splitOn '\n'

structure HasAutomaticHeight (file : Text) : Prop where
  maxHeight : loading.maxHeight = 0
  fixedSize : loading.fixedSize = false
  header : hasHeader (file ++ ['\n']) = false
  scanned : file = [] ∨ loading.Scanned file

/-- What a file gives: the rows of its lines, and the numbers at their places. -/
structure Loaded (matrix : Matrix) (file : Text) (filled : Matrix) (result : Bool) : Prop where
  read : loading.readFile matrix file = .ok (filled, result)
  returned : loading.internalLoadCSVFile matrix file =
    .ok (if result then filled else filled.reset loading.minWidth loading.maxHeight, result)
  height : loading.HasAutomaticHeight file → filled.height = lineCount file
  cells : result = true → ∀ x < filled.width, ∀ y < filled.height,
    filled.entry x y = loading.foundAt (cells isComma ((loading.rowLines file).getD y [])) x
  numeric : result = true → loading.neverFails = false →
    ∀ line ∈ (loading.rowLines file).take filled.height, ∀ text ∈ Table.cells isComma line, loading.Numeric text

/-- The header that is there can be read, each text is inside the width that its line gives, and a
height that is counted is that of a file whose last line has its end.
-/
structure Legible (matrix : Matrix) (file : Text) : Prop where
  header : loading.Scanned file → loading.ReadsHeader file → header (file ++ ['\n']) ≠ none
  wide : loading.Scanned file → loading.neverFails = true → ∀ size, loading.size (file ++ ['\n']) = .ok size →
    WideEnough (matrix.resize size.width size.height).height size.height (matrix.resize size.width size.height).width
      (entries isComma ((loading.rowLines file).flatMap (· ++ ['\n'])))
  lastLine : loading.Scanned file → loading.HasAutomaticHeight file → file.getLast? = some '\n'

end

section
variable {matrix : Matrix} {file : Text}

theorem drop_firstLine (text : Text) :
    (text ++ ['\n']).drop ((firstLine (text ++ ['\n'])).length + 1) = (text.splitOn '\n').tail.flatMap (· ++ ['\n']) := by
  induction text with
  | nil => rfl
  | cons c text ih =>
    rw [List.splitOn_cons_eq_if_modifyHead]
    split_ifs with newline
    · rw [beq_iff_eq.mp newline, List.tail_cons, flatMap_splitOn]
      rfl
    · have other : (decide (c ≠ '\n')) = true := by simpa using newline
      unfold firstLine at ih ⊢
      rw [List.cons_append, List.takeWhile_cons, if_pos other, List.length_cons, List.drop_succ_cons, ih]
      cases text.splitOn '\n' <;> rfl

theorem detectEncoding_le {bom : Nat} (detected : detectEncoding (file ++ ['\n']) = some bom) : bom ≤ file.length := by
  unfold detectEncoding at detected
  dsimp only at detected
  split_ifs at detected with refused mark <;> cases detected
  · match file with
    | [] => simp at mark
    | [a] => simp at mark
    | [a, b] => simp at mark
    | a :: b :: c :: rest => simp
  · exact Nat.zero_le _

structure Sized (loading : Loading) (file : Text) (size : Size) : Prop where
  ok : loading.size (file ++ ['\n']) = .ok size
  refused : size.refused = false
  rows : (file ++ ['\n']).drop size.offset = (loading.rowLines file).flatMap (· ++ ['\n'])
  fixed : loading.fixedSize = true → size.width = loading.minWidth ∧ size.height = loading.maxHeight
  headed : loading.ReadsHeader file → ∀ both, header (file ++ ['\n']) = some both →
    size.width = (if both.1 < 1 then 1 else both.1.toNat) ∧
      size.height = if both.2 < 1 then loading.automaticHeight (file ++ ['\n']) else both.2.toNat
  counted : loading.fixedSize = false → hasHeader (file ++ ['\n']) = false →
    size.width = max loading.minWidth ((trimmedLine (file ++ ['\n'])).countP isComma + 1) ∧
      size.height = loading.automaticHeight (file ++ ['\n'])

theorem automaticHeight_buffer :
    loading.automaticHeight (file ++ ['\n']) = if loading.maxHeight = 0 then file.count '\n' else loading.maxHeight := by
  simp [automaticHeight]

theorem size_cases (scanned : loading.Scanned file) :
    loading.ReadsHeader file ∧ header (file ++ ['\n']) = none ∧ loading.size (file ++ ['\n']) = .error .dimension ∨
    (loading.ReadsHeader file → header (file ++ ['\n']) ≠ none) ∧ ∃ size, loading.Sized file size := by
  obtain ⟨bom, detected⟩ := Option.ne_none_iff_exists'.mp scanned.encoding
  have plain : (file ++ ['\n']).drop bom = (((file.drop bom).splitOn '\n').flatMap (· ++ ['\n'])) := by
    rw [flatMap_splitOn, List.drop_append_of_le_length (detectEncoding_le detected)]
  cases fixed : loading.fixedSize with
  | true =>
    have noHeader : ¬loading.ReadsHeader file := fun reads => nomatch fixed.symm.trans reads.1
    refine .inr ⟨fun reads => absurd reads noHeader, _, ⟨by simp [size, detected, fixed]; rfl, rfl, ?_, fun _ => ⟨rfl, rfl⟩,
      fun reads => absurd reads noHeader, fun free => nomatch fixed.symm.trans free⟩⟩
    rw [rowLines, if_neg noHeader, detected, plain, Option.getD_some]
  | false =>
    have blank : ¬('\n' ∉ file ++ ['\n'] ∨ trimmedLine (file ++ ['\n']) = []) := by
      have line := scanned.line.resolve_left (fixed ▸ Bool.false_ne_true)
      simp [line]
    by_cases reads : hasHeader (file ++ ['\n']) = true
    · have readsHeader : loading.ReadsHeader file := ⟨fixed, reads⟩
      cases dimensions : header (file ++ ['\n']) with
      | none =>
        refine .inl ⟨readsHeader, rfl, ?_⟩
        simp only [size, detected, fixed, if_neg blank, reads, dimensions, Bool.false_eq_true, if_false, if_true]
      | some both =>
        have sized : loading.size (file ++ ['\n']) = .ok
            { width := if both.1 < 1 then 1 else both.1.toNat
              height := if both.2 < 1 then loading.automaticHeight (file ++ ['\n']) else both.2.toNat
              offset := (firstLine (file ++ ['\n'])).length + 1
              refused := false } := by
          simp only [size, detected, fixed, if_neg blank, reads, dimensions, Bool.false_eq_true, if_false, if_true]
        refine .inr ⟨nofun, _, ⟨sized, rfl, ?_, fun bound => (nomatch fixed.symm.trans bound), fun _ other read => ?_,
          fun _ none => nomatch reads.symm.trans none⟩⟩
        · rw [rowLines, if_pos readsHeader, drop_firstLine]
        · cases dimensions.symm.trans read
          exact ⟨rfl, rfl⟩
    · have noHeader : ¬loading.ReadsHeader file := fun readsHeader => reads readsHeader.2
      have sized : loading.size (file ++ ['\n']) = .ok
          { width := max loading.minWidth ((trimmedLine (file ++ ['\n'])).countP isComma + 1)
            height := loading.automaticHeight (file ++ ['\n'])
            offset := bom
            refused := false } := by
        simp only [size, detected, fixed, if_neg blank, reads, Bool.false_eq_true, if_false]
      refine .inr ⟨fun readsHeader => absurd readsHeader noHeader, _, ⟨sized, rfl, ?_, fun bound => (nomatch fixed.symm.trans bound),
        fun readsHeader => absurd readsHeader noHeader, fun _ _ => ⟨rfl, rfl⟩⟩⟩
      rw [rowLines, if_neg noHeader, detected, plain, Option.getD_some]

theorem size_refused (nonempty : file ≠ []) (limit : file.length ≤ filesizeHardLimit) (refused : ¬loading.Scanned file) :
    ∃ size, loading.size (file ++ ['\n']) = .ok size ∧ size.refused = true := by
  unfold size
  cases detected : detectEncoding (file ++ ['\n']) with
  | none => exact ⟨_, rfl, rfl⟩
  | some bom =>
    cases fixed : loading.fixedSize with
    | true => exact absurd ⟨nonempty, limit, by simp [detected], .inl fixed⟩ refused
    | false =>
      have blank : trimmedLine (file ++ ['\n']) = [] := by
        by_contra line
        exact refused ⟨nonempty, limit, by simp [detected], .inr line⟩
      simp [blank]

theorem Sized.loadFromBuffer {size : Size} (sized : loading.Sized file size) (matrix : Matrix) :
    ∃ start, (matrix.resize size.width size.height).SameSize start ∧ HasRows start 0 size.height ∧ start.height ≤ size.height ∧
      loading.loadFromBuffer matrix (file ++ ['\n']) = (loading.readRows size.height 0 start true
          (entries isComma ((loading.rowLines file).flatMap (· ++ ['\n'])))).map fun (y, filled, result) =>
        (filled.initRows y, loading.neverFails || result && decide (filled.height ≤ y)) := by
  obtain ⟨start, start_eq, same⟩ : ∃ start, (if loading.fixedSize then matrix.reset size.width size.height
      else matrix.resize size.width size.height) = start ∧ (matrix.resize size.width size.height).SameSize start := by
    split_ifs <;> exact ⟨_, rfl, rfl, rfl⟩
  refine ⟨start, same, ?_, ?_, ?_⟩
  · unfold HasRows
    rw [same.width, same.height]
    unfold Matrix.resize Matrix.clear
    split_ifs <;> simp_all
  · rw [same.height]
    unfold Matrix.resize Matrix.clear
    split_ifs <;> simp_all
  · unfold Loading.loadFromBuffer
    rw [sized.ok]
    simp only [bind, Except.bind, sized.refused, Bool.false_eq_true, if_false, sized.rows, start_eq]
    cases loading.readRows size.height 0 start true (entries isComma ((loading.rowLines file).flatMap (· ++ ['\n']))) <;> rfl

theorem foundAt_nil (x : Nat) : loading.foundAt (cells isComma []) x = 0 := by
  cases x <;> simp [foundAt, cells, found, converter]

theorem Sized.wide {size : Size} (sized : loading.Sized file size) {outcome : Matrix × Bool}
    (ok : loading.loadFromBuffer matrix (file ++ ['\n']) = .ok outcome) (never : loading.neverFails = true) :
    WideEnough (matrix.resize size.width size.height).height size.height (matrix.resize size.width size.height).width
      (entries isComma ((loading.rowLines file).flatMap (· ++ ['\n']))) := by
  obtain ⟨start, dimensions, inside, -, load⟩ := sized.loadFromBuffer matrix
  by_contra narrow
  rw [← dimensions.height, ← dimensions.width] at narrow
  obtain ⟨fault, stopped⟩ := (readRows_error_iff inside).mpr ⟨never, narrow⟩
  rw [load, stopped] at ok
  cases ok

theorem rowLines_oneLine {line : Text} (listed : line ∈ loading.rowLines file) : '\n' ∉ line := by
  unfold rowLines at listed
  split_ifs at listed
  · exact not_mem_of_mem_splitOn (List.mem_of_mem_tail listed)
  · exact not_mem_of_mem_splitOn listed

-- a row that is read has a line; beyond the last line both sides are zero
theorem Sized.loaded {size : Size} (sized : loading.Sized file size)
    (wide : loading.neverFails = true → WideEnough (matrix.resize size.width size.height).height size.height
      (matrix.resize size.width size.height).width (entries isComma ((loading.rowLines file).flatMap (· ++ ['\n'])))) :
    ∃ filled result, loading.loadFromBuffer matrix (file ++ ['\n']) = .ok (filled, result) ∧
      filled.height = (matrix.resize size.width size.height).height ∧ (result = true →
        (∀ x < filled.width, ∀ y < filled.height,
          filled.entry x y = loading.foundAt (cells isComma ((loading.rowLines file).getD y [])) x) ∧
        (loading.neverFails = false →
          ∀ line ∈ (loading.rowLines file).take filled.height, ∀ text ∈ cells isComma line, loading.Numeric text)) := by
  obtain ⟨start, dimensions, inside, rowsBound, load⟩ := sized.loadFromBuffer matrix
  rw [load]
  cases read : loading.readRows size.height 0 start true (entries isComma ((loading.rowLines file).flatMap (· ++ ['\n']))) with
  | error fault =>
    obtain ⟨never, narrow⟩ := (readRows_error_iff inside).mp ⟨fault, read⟩
    rw [dimensions.height, dimensions.width] at narrow
    exact absurd (wide never) narrow
  | ok outcome =>
    obtain ⟨done, filled, still⟩ := outcome
    have rows := readRows_ok (fun line => rowLines_oneLine) inside read
    obtain ⟨height, -⟩ := readRows_kept inside read
    refine ⟨_, _, rfl, height.trans dimensions.height, fun got => ?_⟩
    have some : loading.neverFails = true ∨ still = true := by
      rcases Bool.or_eq_true_iff.mp got with never | both
      · exact .inl never
      · exact .inr (Bool.and_eq_true_iff.mp both).1
    refine ⟨fun x column y row => ?_, fun fails line listed => ?_⟩
    · have filledCells := rows.cells some x y
      have count := rows.count some
      change x < filled.width at column
      change y < filled.height at row
      unfold Matrix.cellAt at filledCells
      rw [if_pos ⟨column, row⟩] at filledCells
      unfold Matrix.initRows
      dsimp only
      by_cases before : done ≤ y
      · have beyond : (loading.rowLines file).getD y [] = [] := by
          rw [List.getD_eq_getElem?_getD, List.getElem?_eq_none (by omega), Option.getD_none]
        rw [if_pos before, beyond, foundAt_nil]
      · rw [if_neg before, filledCells, if_pos (by omega), Nat.sub_zero]
    · have still := some.resolve_left (fails ▸ Bool.false_ne_true)
      exact rows.numeric still line (List.take_subset_take_left _ (height.trans_le rowsBound) listed)

theorem rowLines_nil : loading.rowLines [] = [[]] := by
  have noHeader : ¬loading.ReadsHeader [] := fun reads => absurd reads.2 (by decide)
  rw [rowLines, if_neg noHeader]
  rfl

theorem loaded_of_read {filled : Matrix} {result : Bool} (read : loading.readFile matrix file = .ok (filled, result))
    (height : loading.HasAutomaticHeight file → filled.height = lineCount file)
    (cells : result = true → (∀ x < filled.width, ∀ y < filled.height,
          filled.entry x y = loading.foundAt (cells isComma ((loading.rowLines file).getD y [])) x) ∧
        (loading.neverFails = false →
          ∀ line ∈ (loading.rowLines file).take filled.height, ∀ text ∈ Table.cells isComma line, loading.Numeric text)) :
    loading.Loaded matrix file filled result where
  read := read
  returned := by rw [internalLoadCSVFile, read]; rfl
  height := height
  cells got := (cells got).1
  numeric got := (cells got).2

def unLoading : Loading := { convert := fun _ => some 1, minWidth := 1, maxHeight := 0, fixedSize := false, neverFails := false }

end

end Loading

end Antares.Data
