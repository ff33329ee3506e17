import Mathlib.Data.List.DropRight
import Mathlib.Data.List.Infix

/-! Texts of bytes: blanks at their ends, lines of bounded length, and the unsigned numbers that
stand at their head.
-/

set_option autoImplicit false

namespace Antares.Library

abbrev Text : Type := List Char

instance lawfulText : LawfulBEq Text := List.instLawfulBEq

/-- A property of all characters of a text is decided on the text, not on all characters. -/
instance (priority := 2000) decidableForallMem (p : Char → Prop) [DecidablePred p] (text : List Char) : Decidable (∀ c ∈ text, p c) :=
  List.decidableBAll p text

namespace Text

section
variable (blank : Char → Bool)

/-- The text without the blanks of its right end, then of its left end. -/
def trim (text : Text) : Text := (text.rdropWhile blank).dropWhile blank

theorem trim_eq_self {first last : Char} {text : Text} (left : text.head? = some first)
    (right : text.getLast? = some last) (firstKept : blank first = false) (lastKept : blank last = false) :
    trim blank text = text := by
  have kept : text.rdropWhile blank = text := by
    refine List.rdropWhile_eq_self_iff.mpr fun some => ?_
    rw [List.getLast?_eq_some_getLast some] at right
    rw [Option.some.inj right, lastKept]
    exact Bool.false_ne_true
  rw [trim, kept]
  cases text with
  | nil => exact absurd left (by simp)
  | cons head tail =>
    obtain rfl := Option.some.inj left
    exact List.dropWhile_cons_of_neg (by rw [firstKept]; exact Bool.false_ne_true)

theorem mem_of_mem_trim {text : Text} {c : Char} (member : c ∈ trim blank text) : c ∈ text :=
  (List.rdropWhile_prefix blank text).subset ((List.dropWhile_suffix blank).subset member)

theorem trim_trim (text : Text) : trim blank (trim blank text) = trim blank text := by
  have right : (trim blank text).rdropWhile blank = trim blank text := by
    refine List.rdropWhile_eq_self_iff.mpr fun some => ?_
    have suffix : trim blank text <:+ text.rdropWhile blank := List.dropWhile_suffix blank
    obtain ⟨front, whole⟩ := suffix
    have last := List.rdropWhile_last_not blank text (List.IsSuffix.ne_nil ⟨front, whole⟩ some)
    rwa [List.getLast_congr _ (List.append_ne_nil_of_right_ne_nil front some) whole.symm,
      List.getLast_append_of_ne_nil _ some] at last
  rw [trim, right, trim, List.dropWhile_idempotent]

/-- There is nothing to trim: both ends are there, and are no blanks. -/
structure Tight (text : Text) : Prop where
  left : ∃ c, text.head? = some c ∧ blank c = false
  right : ∃ c, text.getLast? = some c ∧ blank c = false

variable {blank}

theorem tight_append {first middle last : Text} (left : ∃ c, first.head? = some c ∧ blank c = false)
    (right : ∃ c, last.getLast? = some c ∧ blank c = false) : Tight blank (first ++ middle ++ last) where
  left := by
    obtain ⟨c, head, kept⟩ := left
    exact ⟨c, by rw [List.append_assoc, List.head?_append, head, Option.some_or], kept⟩
  right := by
    obtain ⟨c, end', kept⟩ := right
    exact ⟨c, by rw [List.getLast?_append, end', Option.some_or], kept⟩

variable {text : Text}

theorem tight_of_forall (nonempty : text ≠ []) (kept : ∀ c ∈ text, blank c = false) : Tight blank text where
  left := ⟨text.head nonempty, List.head?_eq_some_head nonempty, kept _ (List.head_mem nonempty)⟩
  right := ⟨text.getLast nonempty, List.getLast?_eq_some_getLast nonempty, kept _ (List.getLast_mem nonempty)⟩

theorem Tight.trim_eq (tight : Tight blank text) : trim blank text = text := by
  obtain ⟨first, left, firstKept⟩ := tight.left
  obtain ⟨last, right, lastKept⟩ := tight.right
  exact trim_eq_self blank left right firstKept lastKept

theorem Tight.trim_between (tight : Tight blank text) {before after : Text}
    (beforeBlank : ∀ c ∈ before, blank c = true) (afterBlank : ∀ c ∈ after, blank c = true) :
    trim blank (before ++ text ++ after) = text := by
  have right : (before ++ text ++ after).rdropWhile blank = before ++ text := by
    obtain ⟨last, end', lastKept⟩ := tight.right
    unfold List.rdropWhile
    rw [List.reverse_append, List.dropWhile_append_of_pos fun c member => afterBlank c (List.mem_reverse.mp member)]
    have kept : (before ++ text).rdropWhile blank = before ++ text := by
      refine List.rdropWhile_eq_self_iff.mpr fun nonempty => ?_
      have whole : (before ++ text).getLast? = some last := by rw [List.getLast?_append, end', Option.some_or]
      rw [List.getLast?_eq_some_getLast nonempty] at whole
      rw [Option.some.inj whole, lastKept]
      exact Bool.false_ne_true
    exact kept
  rw [trim, right, List.dropWhile_append_of_pos beforeBlank]
  obtain ⟨first, head, firstKept⟩ := tight.left
  cases text with
  | nil => exact absurd head (by simp)
  | cons c text =>
    obtain rfl := Option.some.inj head
    exact List.dropWhile_cons_of_neg (by rw [firstKept]; exact Bool.false_ne_true)

theorem tight_of_trim_eq (same : trim blank text = text) (nonempty : text ≠ []) : Tight blank text := by
  have right : text.rdropWhile blank = text := by
    refine (List.rdropWhile_prefix blank text).eq_of_length_le ?_
    calc text.length = (trim blank text).length := by rw [same]
      _ ≤ (text.rdropWhile blank).length := (List.dropWhile_suffix blank).length_le
  have left : text.dropWhile blank = text := by rwa [trim, right] at same
  have first := List.dropWhile_eq_self_iff.mp left (List.length_pos_iff.mpr nonempty)
  refine ⟨⟨text.head nonempty, List.head?_eq_some_head nonempty, ?_⟩,
    ⟨text.getLast nonempty, List.getLast?_eq_some_getLast nonempty, ?_⟩⟩
  · rw [List.head_eq_getElem nonempty]
    exact Bool.eq_false_iff.mpr first
  · exact Bool.eq_false_iff.mpr (List.rdropWhile_eq_self_iff.mp right nonempty)

variable (blank)

theorem length_trim_le (text : Text) : (trim blank text).length ≤ text.length :=
  (List.dropWhile_suffix blank).length_le.trans (List.rdropWhile_prefix blank text).length_le

theorem trim_cons {c : Char} (isBlank : blank c = true) (text : Text) : trim blank (c :: text) = trim blank text := by
  unfold trim List.rdropWhile
  rw [List.reverse_cons, List.dropWhile_append]
  cases kept : text.reverse.dropWhile blank with
  | nil =>
    rw [List.isEmpty_nil, if_pos rfl, List.dropWhile_cons_of_pos isBlank]
    rfl
  | cons last others =>
    rw [List.isEmpty_cons, if_neg Bool.false_ne_true, List.reverse_append, List.reverse_singleton, List.singleton_append,
      List.dropWhile_cons_of_pos isBlank]

theorem trim_concat {c : Char} (isBlank : blank c = true) (text : Text) : trim blank (text ++ [c]) = trim blank text := by
  unfold trim List.rdropWhile
  rw [List.reverse_concat, List.dropWhile_cons_of_pos isBlank]

theorem trim_map {change : Char → Char} (same : ∀ c, blank (change c) = blank c) (text : Text) :
    trim blank (text.map change) = (trim blank text).map change := by
  have kept : blank ∘ change = blank := funext same
  unfold trim List.rdropWhile
  rw [← List.map_reverse, List.dropWhile_map, kept, ← List.map_reverse, List.dropWhile_map, kept]

end

section
variable {separator : Char} {parts : List Text}

theorem mem_intercalate {c : Char} (member : c ∈ [separator].intercalate parts) :
    c = separator ∨ ∃ part ∈ parts, c ∈ part := by
  induction parts with
  | nil => exact absurd member List.not_mem_nil
  | cons part others later =>
    rcases Decidable.eq_or_ne others [] with rfl | nonempty
    · rw [List.intercalate_singleton] at member
      exact Or.inr ⟨part, List.mem_singleton_self part, member⟩
    rw [List.intercalate_cons_of_ne_nil nonempty, List.append_assoc] at member
    rcases List.mem_append.mp member with here | member
    · exact Or.inr ⟨part, List.mem_cons_self, here⟩
    rcases List.mem_append.mp member with same | member
    · exact Or.inl (List.mem_singleton.mp same)
    · exact (later member).imp_right fun ⟨other, inside, at'⟩ => ⟨other, List.mem_cons_of_mem part inside, at'⟩

theorem intercalate_ends (first last : Text) (front : List Text) :
    ∃ middle, [separator].intercalate (first :: (front ++ [last])) = first ++ middle ++ last := by
  induction front generalizing first with
  | nil =>
    refine ⟨[separator], ?_⟩
    rw [List.nil_append, List.intercalate_cons_of_ne_nil (List.cons_ne_nil _ _), List.intercalate_singleton]
  | cons next front later =>
    obtain ⟨middle, split⟩ := later next
    refine ⟨[separator] ++ (next ++ middle), ?_⟩
    rw [List.cons_append, List.intercalate_cons_of_ne_nil (List.cons_ne_nil _ _), split]
    simp only [List.append_assoc]

theorem of_mem_splitOn {text part : Text} (member : part ∈ text.splitOn separator) : separator ∉ part ∧ part ⊆ text := by
  rw [List.splitOn_eq_splitOnP] at member
  induction text generalizing part with
  | nil =>
    rw [List.splitOnP_nil, List.mem_singleton] at member
    subst member
    exact ⟨List.not_mem_nil, List.Subset.refl _⟩
  | cons c text later =>
    rw [List.splitOnP_cons_eq_if_modifyHead] at member
    split_ifs at member with separates
    · rcases List.mem_cons.mp member with rfl | member
      · exact ⟨List.not_mem_nil, List.nil_subset _⟩
      · obtain ⟨absent, inside⟩ := later member
        exact ⟨absent, List.subset_cons_of_subset c inside⟩
    · obtain ⟨first, others, split⟩ := List.exists_cons_of_ne_nil (List.splitOnP_ne_nil (fun d => d == separator) text)
      rw [split, List.modifyHead_cons] at member
      rcases List.mem_cons.mp member with rfl | member
      · obtain ⟨absent, inside⟩ := later (split ▸ List.mem_cons_self)
        refine ⟨fun either => ?_, List.cons_subset_cons c inside⟩
        rcases List.mem_cons.mp either with same | within
        · exact separates (beq_iff_eq.mpr same.symm)
        · exact absent within
      · obtain ⟨absent, inside⟩ := later (split ▸ List.mem_cons_of_mem first member)
        exact ⟨absent, List.subset_cons_of_subset c inside⟩

theorem length_intercalate_le {bound : Nat} (short : ∀ part ∈ parts, part.length ≤ bound) :
    ([separator].intercalate parts).length ≤ parts.length * (bound + 1) := by
  induction parts with
  | nil => exact Nat.zero_le _
  | cons part others later =>
    have first := short part List.mem_cons_self
    have rest := later fun other member => short other (List.mem_cons_of_mem part member)
    rcases Decidable.eq_or_ne others [] with rfl | nonempty
    · rw [List.intercalate_singleton, List.length_singleton]
      omega
    · rw [List.intercalate_cons_of_ne_nil nonempty, List.length_append, List.length_append, List.length_singleton,
        List.length_cons, Nat.succ_mul]
      omega

end

/-- What `fgets` reads, call after call, into a buffer of so many bytes; a line keeps its end. -/
def lines (buffer : Nat) : Text → Text → List Text
  | [], current => if current.isEmpty then [] else [current]
  | c :: rest, current =>
    if c = '\n' ∨ current.length + 2 = buffer then (current ++ [c]) :: lines buffer rest []
    else lines buffer rest (current ++ [c])

variable {buffer : Nat}

theorem lines_append {line : Text} (rest current : Text) (whole : '\n' ∉ line)
    (fits : current.length + line.length + 1 < buffer) :
    lines buffer (line ++ '\n' :: rest) current = (current ++ line ++ ['\n']) :: lines buffer rest [] := by
  induction line generalizing current with
  | nil =>
    rw [List.nil_append, lines, if_pos (Or.inl rfl), List.append_nil]
  | cons c line later =>
    obtain ⟨head, tail⟩ := not_or.mp (fun either => whole (List.mem_cons.mpr either))
    rw [List.length_cons] at fits
    have goesOn : ¬(c = '\n' ∨ current.length + 2 = buffer) := by
      rintro (same | full)
      · exact head same.symm
      · omega
    rw [List.cons_append, lines, if_neg goesOn, later (current ++ [c]) tail (by simp; omega)]
    simp

theorem lines_full {first : Text} (rest current : Text) (nonempty : first ≠ []) (whole : '\n' ∉ first)
    (full : current.length + first.length + 1 = buffer) :
    lines buffer (first ++ rest) current = (current ++ first) :: lines buffer rest [] := by
  induction first generalizing current with
  | nil => exact absurd rfl nonempty
  | cons c first later =>
    obtain ⟨head, tail⟩ := not_or.mp (fun either => whole (List.mem_cons.mpr either))
    rw [List.length_cons] at full
    rw [List.cons_append, lines]
    cases first with
    | nil =>
      have filled : current.length + 2 = buffer := full
      rw [if_pos (Or.inr filled), List.nil_append]
    | cons d others =>
      have goesOn : ¬(c = '\n' ∨ current.length + 2 = buffer) := by
        rw [List.length_cons] at full
        exact not_or.mpr ⟨fun same => head same.symm, by omega⟩
      have length : (current ++ [c]).length = current.length + 1 := List.length_append
      rw [if_neg goesOn, later (current ++ [c]) (List.cons_ne_nil d others) tail (by omega), List.append_assoc,
        List.singleton_append]

variable {text current line : Text}

theorem length_lines_le (room : current.length + 1 < buffer)
    (listed : line ∈ lines buffer text current) : line.length + 1 ≤ buffer := by
  induction text generalizing current with
  | nil =>
    unfold lines at listed
    split_ifs at listed
    · exact absurd listed List.not_mem_nil
    · obtain rfl := List.mem_singleton.mp listed
      omega
  | cons c text later =>
    have length : (current ++ [c]).length = current.length + 1 := List.length_append
    unfold lines at listed
    split_ifs at listed with ends
    · rcases List.mem_cons.mp listed with rfl | listed
      · omega
      · apply later _ listed
        rw [List.length_nil]
        omega
    · exact later (by omega) listed

theorem mem_dropLast_of_infix {inner outer : Text} (infix' : inner <:+: outer) {c : Char} (member : c ∈ inner.dropLast) :
    c ∈ outer.dropLast := by
  obtain ⟨before, after, rfl⟩ := infix'
  rcases Decidable.eq_or_ne inner [] with rfl | nonempty
  · exact absurd member List.not_mem_nil
  rcases Decidable.eq_or_ne after [] with rfl | more
  · rw [List.append_nil, List.dropLast_append_of_ne_nil nonempty]
    exact List.mem_append_right before member
  · rw [List.dropLast_append_of_ne_nil more]
    exact List.mem_append_left _ (List.mem_append_right before (List.mem_of_mem_dropLast member))

theorem trim_infix (blank : Char → Bool) (text : Text) : trim blank text <:+: text :=
  ((List.dropWhile_suffix blank).isInfix).trans (List.rdropWhile_prefix blank text).isInfix

theorem newline_at_end (clean : '\n' ∉ current)
    (listed : line ∈ lines buffer text current) : '\n' ∉ line.dropLast := by
  induction text generalizing current with
  | nil =>
    unfold lines at listed
    split_ifs at listed
    · exact absurd listed List.not_mem_nil
    · obtain rfl := List.mem_singleton.mp listed
      exact fun member => clean (List.mem_of_mem_dropLast member)
  | cons c text later =>
    unfold lines at listed
    split_ifs at listed with ends
    · rcases List.mem_cons.mp listed with rfl | listed
      · rwa [List.dropLast_concat]
      · exact later List.not_mem_nil listed
    · refine later (fun member => ?_) listed
      rcases List.mem_append.mp member with before | here
      · exact clean before
      · exact ends (Or.inl (List.mem_singleton.mp here).symm)

end Text

end Antares.Library
