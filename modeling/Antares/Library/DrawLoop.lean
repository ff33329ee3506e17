import Mathlib.Algebra.Order.Ring.Nat
import Mathlib.Data.List.Basic

/-! Loops that consume a random generator and store what they draw. A loop draws for every item, whether or not its results
are stored; what it leaves then depends on the generator alone. Two plans for one stream of words give the same numbers
exactly where they read at the same places or choose among nothing.
-/

set_option autoImplicit false

namespace Antares.Library

section
variable {ι κ β σ τ : Type}

/-- Draw for every item in turn; `store` runs only where the loop is `performed`. -/
def drawLoop (draw : ι → σ → Option (β × σ)) (store : ι → β → τ → τ) (performed : Bool) :
    List ι → τ → σ → Option (τ × σ)
  | [], memory, generator => some (memory, generator)
  | item :: items, memory, generator =>
    (draw item generator).bind fun drawn =>
      drawLoop draw store performed items
        (if performed then store item drawn.1 memory else memory) drawn.2

def drawAll (draw : ι → σ → Option (β × σ)) : List ι → σ → Option (List (ι × β) × σ)
  | [], generator => some ([], generator)
  | item :: items, generator =>
    (draw item generator).bind fun drawn =>
      (drawAll draw items drawn.2).map fun rest => ((item, drawn.1) :: rest.1, rest.2)

def storeAll (store : ι → β → τ → τ) (drawn : List (ι × β)) (memory : τ) : τ :=
  drawn.foldl (fun memory pair => store pair.1 pair.2 memory) memory

variable {draw : ι → σ → Option (β × σ)} {store : ι → β → τ → τ}

theorem drawLoop_eq (performed : Bool) (items : List ι) (memory : τ) (generator : σ) :
    drawLoop draw store performed items memory generator =
      (drawAll draw items generator).map fun drawn =>
        (if performed then storeAll store drawn.1 memory else memory, drawn.2) := by
  induction items generalizing memory generator with
  | nil => cases performed <;> rfl
  | cons item items ih =>
    unfold drawLoop drawAll
    cases draw item generator with
    | none => rfl
    | some drawn =>
      simp only [Option.bind_some, Option.map_map, ih]
      cases performed <;> rfl

theorem drawAll_items {items : List ι} {generator next : σ} {drawn : List (ι × β)}
    (same : drawAll draw items generator = some (drawn, next)) : drawn.map Prod.fst = items := by
  induction items generalizing generator next drawn with
  | nil =>
    cases same
    rfl
  | cons item items ih =>
    unfold drawAll at same
    cases first : draw item generator with
    | none => simp [first] at same
    | some head =>
      rw [first, Option.bind_some, Option.map_eq_some_iff] at same
      obtain ⟨rest, others, pair⟩ := same
      cases pair
      rw [List.map_cons, ih others]

theorem drawAll_forall {property : β → Prop}
    (drawn_property : ∀ item generator value next,
      draw item generator = some (value, next) → property value)
    {items : List ι} {generator next : σ} {drawn : List (ι × β)}
    (same : drawAll draw items generator = some (drawn, next)) :
    ∀ pair ∈ drawn, property pair.2 := by
  induction items generalizing generator next drawn with
  | nil =>
    cases same
    simp
  | cons item items ih =>
    unfold drawAll at same
    cases first : draw item generator with
    | none => simp [first] at same
    | some head =>
      rw [first, Option.bind_some, Option.map_eq_some_iff] at same
      obtain ⟨rest, others, pair⟩ := same
      cases pair
      exact List.forall_mem_cons.mpr ⟨drawn_property _ _ _ _ first, ih others⟩

theorem storeAll_unchanged {γ : Type} (part : τ → γ)
    (kept : ∀ item value memory, part (store item value memory) = part memory)
    (drawn : List (ι × β)) (memory : τ) : part (storeAll store drawn memory) = part memory := by
  induction drawn generalizing memory with
  | nil => rfl
  | cons pair drawn ih => exact (ih _).trans (kept _ _ _)

theorem storeAll_congr [DecidableEq κ] {γ : Type} (part : τ → κ → γ) (related : γ → γ → Prop)
    (place : ι → κ) (put : ι → β → γ → γ)
    (stores : ∀ item value memory, part (store item value memory) =
      Function.update (part memory) (place item) (put item value (part memory (place item))))
    (drawn : List (ι × β))
    (forgets : ∀ pair ∈ drawn, ∀ left right, related (put pair.1 pair.2 left) (put pair.1 pair.2 right))
    (left right : τ) {key : κ}
    (reached : key ∈ drawn.map (fun pair => place pair.1) ∨ related (part left key) (part right key)) :
    related (part (storeAll store drawn left) key) (part (storeAll store drawn right) key) := by
  induction drawn generalizing left right with
  | nil => simpa [storeAll] using reached
  | cons pair drawn ih =>
    rw [List.forall_mem_cons] at forgets
    apply ih forgets.2
    rw [stores, stores]
    by_cases here : key = place pair.1
    · right
      subst here
      simp only [Function.update_self]
      exact forgets.1 _ _
    · rcases reached with inside | same
      · left
        simpa [here] using inside
      · right
        rwa [Function.update_of_ne here, Function.update_of_ne here]

section
variable {γ : Type} [DecidableEq κ] {place : ι → κ} {put : ι → β → γ} {drawn : List (ι × β)} (memory : κ → γ)

theorem storeAll_update_of_not_mem {key : κ} (absent : ∀ pair ∈ drawn, place pair.1 ≠ key) :
    storeAll (fun item value memory => Function.update memory (place item) (put item value)) drawn memory key = memory key := by
  induction drawn generalizing memory with
  | nil => rfl
  | cons pair drawn later =>
    obtain ⟨first, others⟩ := List.forall_mem_cons.mp absent
    exact (later _ others).trans (Function.update_of_ne first.symm _ _)

theorem storeAll_update_of_mem (distinct : (drawn.map fun pair => place pair.1).Nodup) {item : ι} {value : β}
    (member : (item, value) ∈ drawn) :
    storeAll (fun item value memory => Function.update memory (place item) (put item value)) drawn memory (place item) =
      put item value := by
  induction drawn generalizing memory with
  | nil => exact absurd member List.not_mem_nil
  | cons pair drawn later =>
    obtain ⟨absent, rest⟩ := List.nodup_cons.mp distinct
    rcases List.mem_cons.mp member with rfl | member
    · have kept := fun other inside same => absent (List.mem_map.mpr ⟨other, inside, same⟩)
      exact (storeAll_update_of_not_mem _ kept).trans (Function.update_self _ _ _)
    · exact later _ rest member

end

theorem drawAll_mono {draw' : ι → σ → Option (β × σ)}
    (more : ∀ item generator drawn, draw item generator = some drawn → draw' item generator = some drawn)
    {items : List ι} {generator : σ} {result : List (ι × β) × σ}
    (same : drawAll draw items generator = some result) :
    drawAll draw' items generator = some result := by
  induction items generalizing generator result with
  | nil => exact same
  | cons item items ih =>
    unfold drawAll at same ⊢
    cases first : draw item generator with
    | none => simp [first] at same
    | some head =>
      rw [first, Option.bind_some, Option.map_eq_some_iff] at same
      obtain ⟨rest, others, pair⟩ := same
      rw [more _ _ _ first, Option.bind_some, ih others, Option.map_some, pair]

end

/-- How an element gets its number: by a word of its own, by a word read before under a key,
by none although a word is passed over, or by none at all.
-/
inductive StreamUse (κ : Type) where
  | own (columns : Nat)
  | shared (key : κ)
  | skipped
  | silent

/-- The place of a word and the number of columns that it chooses among. -/
abbrev Reading := Nat × Nat

section
variable {κ : Type}

def StreamUse.reads : StreamUse κ → Nat
  | .own _ => 1
  | .shared _ => 0
  | .skipped => 1
  | .silent => 0

def totalReads (uses : List (StreamUse κ)) : Nat := (uses.map StreamUse.reads).sum

def StreamUse.reading (keys : κ → Option Reading) (place : Nat) : StreamUse κ → Option Reading
  | .own columns => some (place, columns)
  | .shared key => keys key
  | .skipped => none
  | .silent => none

def readings (keys : κ → Option Reading) : Nat → List (StreamUse κ) → List (Option Reading)
  | _, [] => []
  | place, use :: uses => use.reading keys place :: readings keys (place + use.reads) uses

variable (words : Nat → Nat)

def fromPlace (place : Nat) : Nat → Nat := fun position => words (place + position)

/-- A word of at most `greatest` chooses among the columns. -/
def chosen (greatest : Nat) (words : Nat → Nat) : Option Reading → Nat
  | some (place, columns) => words place * columns / greatest
  | none => 0

theorem fromPlace_zero : fromPlace words 0 = words := by
  funext position
  exact congrArg words (Nat.zero_add position)

theorem fromPlace_succ (place : Nat) :
    (fun position => fromPlace words place (position + 1)) = fromPlace words (place + 1) := by
  funext position
  exact congrArg words (by omega)

theorem fromPlace_fromPlace (first second : Nat) :
    fromPlace (fromPlace words first) second = fromPlace words (first + second) := by
  funext position
  exact congrArg words (Nat.add_assoc first second position).symm

variable (keys : κ → Option Reading)

theorem length_readings (place : Nat) (uses : List (StreamUse κ)) : (readings keys place uses).length = uses.length := by
  induction uses generalizing place with
  | nil => rfl
  | cons use uses ih => exact congrArg Nat.succ (ih _)

theorem totalReads_append (uses others : List (StreamUse κ)) : totalReads (uses ++ others) = totalReads uses + totalReads others := by
  unfold totalReads
  rw [List.map_append, List.sum_append]

theorem totalReads_cons (use : StreamUse κ) (uses : List (StreamUse κ)) :
    totalReads (use :: uses) = use.reads + totalReads uses := by
  unfold totalReads
  rw [List.map_cons, List.sum_cons]

theorem readings_append (place : Nat) (uses others : List (StreamUse κ)) :
    readings keys place (uses ++ others) = readings keys place uses ++ readings keys (place + totalReads uses) others := by
  induction uses generalizing place with
  | nil => rfl
  | cons use uses ih =>
    rw [List.cons_append, readings, ih, totalReads_cons, ← Nat.add_assoc]
    rfl

variable {keys} {greatest : Nat}

theorem chosen_agree_iff (positive : 0 < greatest) (columns first second : Nat) :
    (∀ words : Nat → Nat, (∀ position, words position ≤ greatest) →
      chosen greatest words (some (first, columns)) = chosen greatest words (some (second, columns))) ↔
      columns = 0 ∨ first = second := by
  constructor
  · intro agree
    by_contra apart
    rw [not_or] at apart
    -- the greatest word at the first place, and nothing elsewhere
    have differ := agree (fun position => if position = first then greatest else 0) fun position => by
      split_ifs <;> omega
    simp only [chosen, if_true, if_neg (Ne.symm apart.2), Nat.zero_mul, Nat.zero_div, Nat.mul_div_cancel_left columns positive]
      at differ
    exact apart.1 differ
  · intro same words _
    rcases same with rfl | rfl
    · simp [chosen]
    · rfl

/-- What makes an element take the same number in two runs that read from these places. -/
def StreamUse.AgreesAt (keys : κ → Option Reading) (base place other otherPlace : Nat) : StreamUse κ → Prop
  | .own columns => columns = 0 ∨ base + place = other + otherPlace
  | .shared key => ∀ reading, keys key = some reading → reading.2 = 0 ∨ base = other
  | .skipped => True
  | .silent => True

theorem StreamUse.agree_iff (positive : 0 < greatest) (base place other otherPlace : Nat) (use : StreamUse κ) :
    (∀ words : Nat → Nat, (∀ position, words position ≤ greatest) →
      chosen greatest (fromPlace words base) (use.reading keys place) =
        chosen greatest (fromPlace words other) (use.reading keys otherPlace)) ↔
      use.AgreesAt keys base place other otherPlace := by
  cases use with
  | own columns => exact chosen_agree_iff positive columns (base + place) (other + otherPlace)
  | shared key =>
    cases read : keys key with
    | none => simp [reading, AgreesAt, read, chosen]
    | some reading =>
      have same := chosen_agree_iff positive reading.2 (base + reading.1) (other + reading.1)
      rw [Nat.add_right_cancel_iff] at same
      simp only [StreamUse.reading, AgreesAt, read, Option.some.injEq, forall_eq']
      exact same
  | skipped => exact iff_of_true (fun _ _ => rfl) trivial
  | silent => exact iff_of_true (fun _ _ => rfl) trivial

theorem StreamUse.agreesAt_shift (base place other otherPlace steps : Nat) (use : StreamUse κ) :
    use.AgreesAt keys base (place + steps) other (otherPlace + steps) ↔ use.AgreesAt keys base place other otherPlace := by
  cases use with
  | own columns =>
    unfold AgreesAt
    rw [← Nat.add_assoc, ← Nat.add_assoc, Nat.add_right_cancel_iff]
  | shared _ => rfl
  | skipped => rfl
  | silent => rfl

theorem StreamUse.agreesAt_self (base place : Nat) (use : StreamUse κ) : use.AgreesAt keys base place base place := by
  cases use with
  | own _ => exact .inr rfl
  | shared _ => exact fun _ _ => .inr rfl
  | skipped => trivial
  | silent => trivial

theorem forall_agreesAt_iff (base place other otherPlace : Nat) (uses : List (StreamUse κ)) :
    (∀ use ∈ uses, use.AgreesAt keys base place other otherPlace) ↔
      (∀ columns, .own columns ∈ uses → columns = 0 ∨ base + place = other + otherPlace) ∧
      ∀ key, .shared key ∈ uses → ∀ reading, keys key = some reading → reading.2 = 0 ∨ base = other := by
  constructor
  · intro agree
    exact ⟨fun columns listed => agree _ listed, fun key listed => agree _ listed⟩
  · intro ⟨owns, shares⟩ use listed
    cases use with
    | own columns => exact owns columns listed
    | shared key => exact shares key listed
    | skipped => trivial
    | silent => trivial

theorem readings_agree_iff (positive : 0 < greatest) (base place other otherPlace : Nat) (uses : List (StreamUse κ)) :
    (∀ words : Nat → Nat, (∀ position, words position ≤ greatest) →
      (readings keys place uses).map (chosen greatest (fromPlace words base)) =
        (readings keys otherPlace uses).map (chosen greatest (fromPlace words other))) ↔
      ∀ use ∈ uses, use.AgreesAt keys base place other otherPlace := by
  induction uses generalizing place otherPlace with
  | nil => exact iff_of_true (fun _ _ => rfl) fun _ none => absurd none List.not_mem_nil
  | cons use uses ih =>
    have tail := ih (place + use.reads) (otherPlace + use.reads)
    simp only [StreamUse.agreesAt_shift] at tail
    rw [List.forall_mem_cons, ← use.agree_iff positive, ← tail]
    simp only [readings, List.map_cons, List.cons.injEq, imp_and, forall_and]

end

end Antares.Library
