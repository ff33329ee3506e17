import Mathlib.Data.List.SplitBy

/-! Greedy batching of a sequence. A batch is closed by a cut in front of the next
element, or by holding as many counted elements as its capacity. `segments` is the
same splitting without a capacity, and the batches are compared with it.
-/

set_option autoImplicit false

namespace Antares.Library

section
variable {α : Type}

/-- The maximal stretches of a sequence that have no cut after their first element. -/
def segments (cut : α → Bool) (elements : List α) : List (List α) :=
  elements.splitBy fun _ next => !cut next

/-- Batching read from the left: `done` are the closed batches and `current` receives elements. -/
inductive Batches (cut counted : α → Bool) (capacity : Nat) :
    List α → List (List α) → List α → Prop where
  | first (x : α) : Batches cut counted capacity [x] [] [x]
  | opens {elements current : List α} {done : List (List α)} (x : α) :
      Batches cut counted capacity elements done current →
      (current.countP counted = capacity ∨ cut x = true) →
      Batches cut counted capacity (elements ++ [x]) (done ++ [current]) [x]
  | grows {elements current : List α} {done : List (List α)} (x : α) :
      Batches cut counted capacity elements done current →
      current.countP counted ≠ capacity → cut x = false →
      Batches cut counted capacity (elements ++ [x]) done (current ++ [x])

variable {cut counted : α → Bool} {capacity : Nat}
variable {elements current : List α} {done : List (List α)}

theorem flatten_segments (elements : List α) : (segments cut elements).flatten = elements :=
  List.flatten_splitBy _ _

theorem segments_append_cut (elements : List α) {x : α} (opened : cut x = true) :
    segments cut (elements ++ [x]) = segments cut elements ++ [[x]] := by
  refine List.splitBy_append_cons [] ?_
  intro _ _
  simp [opened]

theorem segments_append_keep {front : List (List α)} {last : List α} {x : α}
    (same : segments cut elements = front ++ [last]) (kept : cut x = false) :
    segments cut (elements ++ [x]) = front ++ [last ++ [x]] := by
  obtain ⟨flat, nonempty, chains, heads⟩ := List.splitBy_eq_iff.mp same
  have lastNonempty : last ≠ [] := by
    rintro rfl
    simp at nonempty
  refine List.splitBy_eq_iff.mpr ⟨?_, ?_, ?_, ?_⟩
  · simp [flat]
  · simpa [lastNonempty] using nonempty
  · intro part member
    rcases List.mem_append.mp member with inFront | isLast
    · exact chains part (List.mem_append_left _ inFront)
    · obtain rfl := List.mem_singleton.mp isLast
      refine List.isChain_append.mpr ⟨chains last (by simp), .singleton _, ?_⟩
      intro _ _ _ isX
      simp_all
  · rw [List.isChain_append] at heads ⊢
    refine ⟨heads.1, .singleton _, ?_⟩
    intro part isPart next isNext
    obtain ⟨partNonempty, _, border⟩ := heads.2.2 part isPart last rfl
    obtain rfl : last ++ [x] = next := by simpa using isNext
    refine ⟨partNonempty, by simp, ?_⟩
    rwa [List.head_append_left lastNonempty]

theorem segments_singleton (x : α) : segments cut [x] = [[x]] := rfl

theorem Batches.flatten_eq (batches : Batches cut counted capacity elements done current) :
    (done ++ [current]).flatten = elements := by
  induction batches with
  | first x => rfl
  | opens x _ _ ih =>
    rw [← ih]
    simp
  | grows x _ _ _ ih =>
    rw [← ih]
    simp

theorem Batches.current_ne_nil (batches : Batches cut counted capacity elements done current) :
    current ≠ [] := by
  cases batches <;> simp

theorem Batches.cut_eq_false (batches : Batches cut counted capacity elements done current)
    {batch : List α} (member : batch ∈ done ++ [current]) {x : α} (inTail : x ∈ batch.tail) :
    cut x = false := by
  induction batches generalizing batch with
  | first x => simp_all
  | opens y batches _ ih =>
    rcases List.mem_append.mp member with earlier | isNew
    · exact ih earlier inTail
    · simp_all
  | grows y batches _ kept ih =>
    rcases List.mem_append.mp member with earlier | isCurrent
    · exact ih (List.mem_append_left _ earlier) inTail
    · obtain rfl := List.mem_singleton.mp isCurrent
      rw [List.tail_append_of_ne_nil batches.current_ne_nil] at inTail
      rcases List.mem_append.mp inTail with inside | isLast
      · exact ih (by simp) inside
      · obtain rfl := List.mem_singleton.mp isLast
        exact kept

theorem Batches.head?_of_cut (batches : Batches cut counted capacity elements done current)
    {batch : List α} (member : batch ∈ done ++ [current]) {x : α} (inside : x ∈ batch)
    (opened : cut x = true) : batch.head? = some x := by
  cases batch with
  | nil => simp at inside
  | cons head tail =>
    rcases List.mem_cons.mp inside with rfl | inTail
    · rfl
    · rw [batches.cut_eq_false member inTail] at opened
      cases opened

theorem Batches.count_le (batches : Batches cut counted capacity elements done current)
    (room : 0 < capacity) {batch : List α} (member : batch ∈ done ++ [current]) :
    batch.countP counted ≤ capacity := by
  have single (x : α) : [x].countP counted ≤ capacity :=
    le_trans List.countP_le_length room
  induction batches generalizing batch with
  | first x => simpa using (List.mem_singleton.mp member) ▸ single x
  | opens x batches _ ih =>
    rcases List.mem_append.mp member with earlier | isNew
    · exact ih earlier
    · exact (List.mem_singleton.mp isNew) ▸ single x
  | @grows _ current _ x batches notFull _ ih =>
    rcases List.mem_append.mp member with earlier | isCurrent
    · exact ih (List.mem_append_left _ earlier)
    · obtain rfl := List.mem_singleton.mp isCurrent
      have below : current.countP counted ≤ capacity := ih (by simp)
      have added : [x].countP counted ≤ 1 := List.countP_le_length
      rw [List.countP_append]
      omega

theorem Batches.inside_segments (batches : Batches cut counted capacity elements done current) :
    (∃ front last, segments cut elements = front ++ [last] ∧ current <:+ last) ∧
      ∀ batch ∈ done ++ [current], ∃ part ∈ segments cut elements, batch <:+: part := by
  induction batches with
  | first x =>
    refine ⟨⟨[], [x], rfl, List.suffix_rfl⟩, ?_⟩
    intro batch member
    exact ⟨[x], by simp [segments_singleton], by simp_all⟩
  | @opens elements current done x batches _ ih =>
    obtain ⟨⟨front, last, same, suffix⟩, inside⟩ := ih
    cases opened : cut x with
    | true =>
      rw [segments_append_cut elements opened]
      refine ⟨⟨_, [x], rfl, List.suffix_rfl⟩, ?_⟩
      intro batch member
      rcases List.mem_append.mp member with earlier | isNew
      · obtain ⟨part, inSegments, within⟩ := inside batch earlier
        exact ⟨part, List.mem_append_left _ inSegments, within⟩
      · exact ⟨[x], by simp, by simp_all⟩
    | false =>
      rw [segments_append_keep same opened]
      refine ⟨⟨front, last ++ [x], rfl, List.suffix_append _ _⟩, ?_⟩
      intro batch member
      rcases List.mem_append.mp member with earlier | isNew
      · obtain ⟨part, inSegments, within⟩ := inside batch earlier
        rw [same] at inSegments
        rcases List.mem_append.mp inSegments with inFront | isLast
        · exact ⟨part, List.mem_append_left _ inFront, within⟩
        · obtain rfl := List.mem_singleton.mp isLast
          exact ⟨part ++ [x], by simp, within.trans (List.prefix_append _ _).isInfix⟩
      · obtain rfl := List.mem_singleton.mp isNew
        exact ⟨last ++ [x], by simp, (List.suffix_append _ _).isInfix⟩
  | @grows elements current done x batches _ kept ih =>
    obtain ⟨⟨front, last, same, ⟨before, joined⟩⟩, inside⟩ := ih
    rw [segments_append_keep same kept]
    have suffix : current ++ [x] <:+ last ++ [x] := ⟨before, by simp [← joined]⟩
    refine ⟨⟨front, last ++ [x], rfl, suffix⟩, ?_⟩
    intro batch member
    rcases List.mem_append.mp member with earlier | isCurrent
    · obtain ⟨part, inSegments, within⟩ := inside batch (List.mem_append_left _ earlier)
      rw [same] at inSegments
      rcases List.mem_append.mp inSegments with inFront | isLast
      · exact ⟨part, List.mem_append_left _ inFront, within⟩
      · obtain rfl := List.mem_singleton.mp isLast
        exact ⟨part ++ [x], by simp, within.trans (List.prefix_append _ _).isInfix⟩
    · obtain rfl := List.mem_singleton.mp isCurrent
      exact ⟨last ++ [x], by simp, suffix.isInfix⟩

theorem Batches.eq_segments (batches : Batches cut counted capacity elements done current)
    (open_ : ∀ batch ∈ done, batch.countP counted ≠ capacity) :
    done ++ [current] = segments cut elements := by
  induction batches with
  | first x => rfl
  | @opens elements current done x batches reason ih =>
    have opened : cut x = true := reason.resolve_left (open_ current (by simp))
    rw [segments_append_cut elements opened,
      ih fun batch member => open_ batch (List.mem_append_left _ member)]
  | grows x batches _ kept ih =>
    exact (segments_append_keep (ih open_).symm kept).symm

theorem Batches.full_iff (batches : Batches cut counted capacity elements done current)
    (room : 0 < capacity) :
    (∃ batch ∈ done ++ [current], batch.countP counted = capacity) ↔
      ∃ part ∈ segments cut elements, capacity ≤ part.countP counted := by
  constructor
  · rintro ⟨batch, member, full⟩
    obtain ⟨part, inSegments, within⟩ := batches.inside_segments.2 batch member
    exact ⟨part, inSegments, full ▸ within.sublist.countP_le⟩
  · rintro ⟨part, inSegments, large⟩
    by_contra none
    push Not at none
    rw [← batches.eq_segments fun batch member => none batch (List.mem_append_left _ member)]
      at inSegments
    exact none part inSegments (le_antisymm (batches.count_le room inSegments) large)

theorem Batches.all_le_iff (batches : Batches cut counted capacity elements done current)
    (room : 0 < capacity) (bound : Nat) :
    (∀ batch ∈ done ++ [current], batch.countP counted ≤ bound) ↔
      capacity ≤ bound ∨ ∀ part ∈ segments cut elements, part.countP counted ≤ bound := by
  constructor
  · intro below
    by_cases reached : ∃ batch ∈ done ++ [current], batch.countP counted = capacity
    · obtain ⟨batch, member, full⟩ := reached
      exact .inl (full ▸ below batch member)
    · push Not at reached
      rw [← batches.eq_segments fun batch member => reached batch (List.mem_append_left _ member)]
      exact .inr below
  · rintro (large | below) batch member
    · exact (batches.count_le room member).trans large
    · obtain ⟨part, inSegments, within⟩ := batches.inside_segments.2 batch member
      exact within.sublist.countP_le.trans (below part inSegments)

end

end Antares.Library
