import Antares.Library.Texts

/-! Tables as texts: lines end with a newline, after a carriage return or not, and their cells are
between separators. A search that goes from separator to separator finds the cells of each line.
-/

set_option autoImplicit false

namespace Antares.Library.Table

abbrev Entry : Type := Text × Option Char

section
variable (comma : Char → Bool)

def stops (c : Char) : Bool := comma c || c == '\r' || c == '\n'

def entries : Text → List Entry
  | [] => []
  | c :: rest =>
    if stops comma c then ([], some c) :: entries rest
    else
      match entries rest with
      | [] => [([c], none)]
      | (text, stop) :: later => (c :: text, stop) :: later

/-- The cells of a line. A carriage return at its end is no separator. -/
def cells : Text → List Text
  | [] => [[]]
  | c :: rest =>
    if c = '\r' ∧ rest = [] then [[]]
    else if comma c ∨ c = '\r' then [] :: cells rest
    else (cells rest).modifyHead (c :: ·)

end

def lineEnd (stop : Char) (later : List Entry) : Option (List Entry) :=
  if stop = '\r' ∧ later.head? = some ([], some '\n') then some later.tail
  else if stop = '\n' then some later
  else none

def row : List Entry → List Text × List Entry
  | [] => ([], [])
  | (_, none) :: _ => ([], [])
  | (text, some stop) :: later =>
    match lineEnd stop later with
    | some rest => ([text], rest)
    | none => (text :: (row later).1, (row later).2)

theorem row_cons (c : Char) (text : Text) (stop : Option Char) (later : List Entry) :
    row ((c :: text, stop) :: later) =
      ((row ((text, stop) :: later)).1.modifyHead (c :: ·), (row ((text, stop) :: later)).2) := by
  cases stop with
  | none => rfl
  | some stop =>
    unfold row
    cases lineEnd stop later <;> rfl

variable {comma : Char → Bool}

theorem entries_ne_nil {text : Text} (some : text ≠ []) : entries comma text ≠ [] := by
  cases text with
  | nil => exact absurd rfl some
  | cons c rest =>
    unfold entries
    cases entries comma rest <;> split_ifs <;> simp

-- by characters: the first one is a cell of its own, or goes in front of the first cell
theorem row_entries {line : Text} (oneLine : '\n' ∉ line) (rest : Text) :
    row (entries comma (line ++ '\n' :: rest)) = (cells comma line, entries comma rest) := by
  induction line with
  | nil => simp [entries, stops, row, lineEnd, cells]
  | cons c line ih =>
    rw [List.mem_cons, not_or] at oneLine
    have inner := ih oneLine.2
    have other : c ≠ '\n' := Ne.symm oneLine.1
    rw [List.cons_append]
    by_cases isReturn : c = '\r'
    · subst isReturn
      cases line with
      | nil => simp [entries, stops, row, lineEnd, cells]
      | cons d line =>
        have open_ : lineEnd '\r' (entries comma (d :: line ++ '\n' :: rest)) = none := by
          have apart : d ≠ '\n' := fun same => oneLine.2 (same ▸ List.mem_cons_self)
          rw [List.cons_append]
          unfold lineEnd entries
          cases entries comma (line ++ '\n' :: rest) <;> split_ifs <;> simp_all
        have first : entries comma ('\r' :: (d :: line ++ '\n' :: rest)) =
            ([], some '\r') :: entries comma (d :: line ++ '\n' :: rest) := by simp [entries, stops]
        rw [first, row, open_, inner, cells.eq_2 comma '\r']
        simp
    · by_cases isComma : comma c = true
      · have open_ : lineEnd c (entries comma (line ++ '\n' :: rest)) = none := by simp [lineEnd, isReturn, other]
        simp [entries, stops, isComma, row, open_, inner, cells, isReturn]
      · have inside : stops comma c = false := by simp [stops, isComma, isReturn, other]
        rw [entries, inside]
        cases found : entries comma (line ++ '\n' :: rest) with
        | nil => exact absurd found (entries_ne_nil (by simp))
        | cons entry later =>
          obtain ⟨text, stop⟩ := entry
          rw [found] at inner
          simp [row_cons, inner, cells, isReturn, isComma]

section
variable {comma : Char → Bool} {sep : Char} {text : Text} (plain : ∀ c ∈ text, comma c = false ∧ c ≠ '\r')
include plain

theorem cells_plain : cells comma text = [text] := by
  induction text with
  | nil => rfl
  | cons c text ih =>
    obtain ⟨⟨noComma, noReturn⟩, plain⟩ := List.forall_mem_cons.mp plain
    simp [cells, noComma, noReturn, ih plain]

theorem cells_append (isComma : comma sep = true) (noReturn : sep ≠ '\r') (rest : Text) :
    cells comma (text ++ sep :: rest) = text :: cells comma rest := by
  induction text with
  | nil => simp [cells, isComma, noReturn]
  | cons c text ih =>
    obtain ⟨⟨noComma, noReturn⟩, plain⟩ := List.forall_mem_cons.mp plain
    simp [cells, noComma, noReturn, ih plain]

end

theorem cells_join {comma : Char → Bool} {sep : Char} (isComma : comma sep = true) (noReturn : sep ≠ '\r') {text : Text}
    {texts : List Text} (plain : ∀ cell ∈ text :: texts, ∀ c ∈ cell, comma c = false ∧ c ≠ '\r') :
    cells comma (text ++ texts.flatMap (sep :: ·)) = text :: texts := by
  induction texts generalizing text with
  | nil => simpa using cells_plain (plain text List.mem_cons_self)
  | cons next texts ih =>
    obtain ⟨first, others⟩ := List.forall_mem_cons.mp plain
    rw [List.flatMap_cons, List.cons_append, cells_append first isComma noReturn, ih others]

theorem length_cells {comma : Char → Bool} {line : Text} (noReturn : '\r' ∉ line) :
    (cells comma line).length = line.countP comma + 1 := by
  induction line with
  | nil => rfl
  | cons c line ih =>
    rw [List.mem_cons, not_or] at noReturn
    have other : c ≠ '\r' := Ne.symm noReturn.1
    by_cases isComma : comma c = true
    · simp [cells, isComma, other, ih noReturn.2]
    · simp [cells, isComma, other, ih noReturn.2]

theorem flatMap_splitOn (text : Text) : (text.splitOn '\n').flatMap (· ++ ['\n']) = text ++ ['\n'] := by
  induction text with
  | nil => rfl
  | cons c text ih =>
    rw [List.splitOn_cons_eq_if_modifyHead]
    split_ifs with newline
    · rw [beq_iff_eq.mp newline, List.flatMap_cons, ih]
      rfl
    · cases lines : text.splitOn '\n' with
      | nil => exact absurd lines (List.splitOn_ne_nil _ _)
      | cons line lines' =>
        rw [lines] at ih
        simp only [List.modifyHead_cons, List.flatMap_cons, List.cons_append] at ih ⊢
        rw [ih]

theorem not_mem_of_mem_splitOn {text line : Text} (listed : line ∈ text.splitOn '\n') : '\n' ∉ line := by
  induction text generalizing line with
  | nil => simp_all
  | cons c text ih =>
    rw [List.splitOn_cons_eq_if_modifyHead] at listed
    split_ifs at listed with newline
    · rcases List.mem_cons.mp listed with rfl | later
      · exact List.not_mem_nil
      · exact ih later
    · cases lines : text.splitOn '\n' with
      | nil => exact absurd lines (List.splitOn_ne_nil _ _)
      | cons first lines' =>
        rw [lines] at listed ih
        rcases List.mem_cons.mp listed with rfl | later
        · rw [List.mem_cons, not_or]
          exact ⟨fun same => newline (beq_iff_eq.mpr same.symm), ih List.mem_cons_self⟩
        · exact ih (List.mem_cons_of_mem _ later)

theorem splitOn_append {line : Text} (oneLine : '\n' ∉ line) (rest : Text) :
    (line ++ '\n' :: rest).splitOn '\n' = line :: rest.splitOn '\n' := by
  induction line with
  | nil => simp [List.splitOn_cons_eq_if_modifyHead]
  | cons c line ih =>
    rw [List.mem_cons, not_or] at oneLine
    have other : ¬(c == '\n') = true := fun same => oneLine.1 (beq_iff_eq.mp same).symm
    rw [List.cons_append, List.splitOn_cons_eq_if_modifyHead, if_neg other, ih oneLine.2]
    rfl

theorem splitOn_lines {lines : List Text} (oneLine : ∀ line ∈ lines, '\n' ∉ line) :
    (lines.flatMap (· ++ ['\n'])).splitOn '\n' = lines ++ [[]] := by
  induction lines with
  | nil => simp
  | cons line lines ih =>
    obtain ⟨first, others⟩ := List.forall_mem_cons.mp oneLine
    rw [List.flatMap_cons, List.append_assoc, List.singleton_append, splitOn_append first, ih others]
    rfl

theorem count_lines {lines : List Text} (oneLine : ∀ line ∈ lines, '\n' ∉ line) :
    (lines.flatMap (· ++ ['\n'])).count '\n' = lines.length := by
  induction lines with
  | nil => rfl
  | cons line lines ih =>
    obtain ⟨first, others⟩ := List.forall_mem_cons.mp oneLine
    rw [List.flatMap_cons, List.count_append, List.count_append, List.count_eq_zero.mpr first, ih others, List.length_cons,
      List.count_singleton_self]
    omega

end Antares.Library.Table
