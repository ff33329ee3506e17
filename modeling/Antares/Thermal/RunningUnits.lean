import Antares.Library.SwitchedUnits
import Mathlib.Algebra.Order.Floor.Semifield
import Mathlib.Data.Rat.Floor

/-! How many units of a thermal cluster run in each hour of a year: between the least and the most that the
production allows, a look ahead says how many are kept for later hours.
-/

set_option autoImplicit false

namespace Antares.Thermal

open Library SwitchedUnit

section Source

/-- The hours after which stopping a unit and starting it again is better, as in `yearEndBuildFromThermalClusterIndex`. -/
def maxDurationON (startupCost fixedCost : ℚ) (endHour : ℕ) : ℕ :=
  if 0 < fixedCost then
    if endHour < ⌊startupCost / fixedCost⌋₊ then endHour else ⌊startupCost / fixedCost⌋₊
  else endHour

variable (startHour endHour : ℕ) (onMin onMax : ℕ → ℕ) (maxDuration : ℕ)

/-- A cell of a table; only those of the simulated hours are there. -/
def cell (table : ℕ → ℕ) (hour : ℕ) : Option ℕ :=
  if startHour ≤ hour ∧ hour < endHour then some (table hour) else none

/-- What the look ahead keeps: the bounds of the level, and the hours for which it is maintained. -/
structure Lookahead where
  nivmin : ℕ
  nivmax : ℕ
  portee : ℕ

/-- The turn for hour `h + k`, and whether it leaves the loop. -/
def look (minHere minAhead maxAhead k : ℕ) (level : Lookahead) : Lookahead × Bool :=
  if maxAhead ≤ minHere then ({ level with nivmax := minHere }, true)
  else
    let nivmax := if maxAhead < level.nivmax then maxAhead else level.nivmax
    if maxAhead < level.nivmax ∧ nivmax < level.nivmin then ({ level with nivmax }, true)
    else if minHere < minAhead then
      if nivmax ≤ minAhead then (⟨nivmax, nivmax, k⟩, true)
      else if level.nivmin ≤ minAhead then (⟨minAhead, nivmax, k⟩, false)
      else ({ level with nivmax }, false)
    else ({ level with nivmax }, false)

/-- The loop on `k`, of which some turns are left. The three cells of a turn are read whether it goes on or not. -/
def scan (h : ℕ) : ℕ → ℕ → Lookahead → Option Lookahead
  | 0, _, level => some level
  | turns + 1, k, level =>
    if endHour ≤ h + k then some level
    else do
      let maxAhead ← cell startHour endHour onMax (h + k)
      let minHere ← cell startHour endHour onMin h
      let minAhead ← cell startHour endHour onMin (h + k)
      match look minHere minAhead maxAhead k level with
      | (next, true) => some next
      | (next, false) => scan h turns (k + 1) next

def lookAhead (h minHere nivmax : ℕ) : Option Lookahead :=
  if minHere < nivmax then scan startHour endHour onMin onMax h maxDuration 1 ⟨minHere, nivmax, 0⟩
  else some ⟨minHere, nivmax, 0⟩

variable (h before minHere : ℕ)

/-- Some hours from `h` on, and the units that run in them: here when fewer are needed than before. -/
def descend : Option (ℕ × ℕ) := do
  let maxHere ← cell startHour endHour onMax h
  let level ← lookAhead startHour endHour onMin onMax maxDuration h minHere (if maxHere < before then maxHere else before)
  some (if level.portee = 0 then (1, minHere) else (level.portee, level.nivmin))

def choose : Option (ℕ × ℕ) :=
  if before ≤ minHere then some (1, minHere)
  else descend startHour endHour onMin onMax maxDuration h before minHere

/-- The same number for some hours; no other cell than those of the simulated hours is written. -/
def fill (onOpt : ℕ → Option ℕ) (h count value : ℕ) : Option (ℕ → Option ℕ) :=
  if h + count ≤ endHour then some fun hour => if h ≤ hour ∧ hour < h + count then some value else onOpt hour else none

def step (h : ℕ) (onOpt : ℕ → Option ℕ) : Option (ℕ × (ℕ → Option ℕ)) := do
  let minHere ← cell startHour endHour onMin h
  let before ← onOpt (h - 1)
  let (count, value) ← choose startHour endHour onMin onMax maxDuration h before minHere
  let filled ← fill endHour onOpt h count value
  some (h + count, filled)

/-- The `while` loop; `none` where the turns do not suffice. -/
def run : ℕ → ℕ → (ℕ → Option ℕ) → Option (ℕ → Option ℕ)
  | 0, h, onOpt => if h < endHour then none else some onOpt
  | fuel + 1, h, onOpt =>
    if h < endHour then do
      let (next, filled) ← step startHour endHour onMin onMax maxDuration h onOpt
      run fuel next filled
    else some onOpt

/-- The cells that are written have a value; `none` stands for a read outside the simulated hours. -/
def computeEconomicallyOptimalNbClustersONforEachHour (fuel : ℕ) : Option (ℕ → Option ℕ) := do
  let first ← cell startHour endHour onMin startHour
  run startHour endHour onMin onMax maxDuration fuel (startHour + 1) fun hour => if hour = startHour then some first else none

end Source

section Look
variable {startHour endHour : ℕ} {onMin onMax : ℕ → ℕ}

theorem cell_eq_some {table : ℕ → ℕ} {hour : ℕ} (after : startHour ≤ hour) (before : hour < endHour) :
    cell startHour endHour table hour = some (table hour) := if_pos ⟨after, before⟩

/-- What is known of the hours from `h` on, of which `k` are looked at; `top` is the largest level in question. -/
structure Looked (onMin onMax : ℕ → ℕ) (h top k : ℕ) (level : Lookahead) : Prop where
  below : level.nivmax ≤ top
  free : ∀ j < k, level.nivmax ≤ onMax (h + j)
  capped : ∀ count, level.nivmax < count → count ≤ top → ∃ j, 0 < j ∧ j < k ∧ onMax (h + j) < count
  low : ∀ j < k, onMin (h + j) ≤ level.nivmin
  ordered : level.nivmin ≤ level.nivmax
  open_ : onMin h < level.nivmax
  held : level.portee = 0 ∧ level.nivmin = onMin h ∨
    0 < level.portee ∧ level.portee < k ∧ onMin h < level.nivmin ∧ level.nivmin ≤ onMin (h + level.portee)

structure Decided (endHour : ℕ) (onMin onMax : ℕ → ℕ) (h top limit : ℕ) (level : Lookahead) : Prop where
  held : level.portee = 0 ∨ 0 < level.portee ∧ level.portee ≤ limit ∧ h + level.portee < endHour ∧ level.nivmin ≤ top ∧
    level.nivmin ≤ onMin (h + level.portee) ∧ ∀ j < level.portee, onMin (h + j) ≤ level.nivmin ∧ level.nivmin ≤ onMax (h + j)
  settled : ∀ count, (if level.portee = 0 then onMin h else level.nivmin) < count → count ≤ top →
    ∀ k, 0 < k → k ≤ limit → h + k < endHour → count ≤ onMin (h + k) → ∃ j, 0 < j ∧ j < k ∧ onMax (h + j) < count

variable {h top k limit : ℕ} {level : Lookahead}

theorem Looked.value (looked : Looked onMin onMax h top k level) :
    (if level.portee = 0 then onMin h else level.nivmin) = level.nivmin := by
  rcases looked.held with ⟨none, same⟩ | ⟨positive, -⟩
  · rw [if_pos none, same]
  · rw [if_neg positive.ne']

theorem Looked.decided (looked : Looked onMin onMax h top k level) (within : k ≤ limit + 1) (inside : h + (k - 1) < endHour)
    (last : ∀ count, level.nivmin < count → count ≤ top → ∀ later, k ≤ later → later ≤ limit → h + later < endHour →
      count ≤ onMin (h + later) → ∃ j, 0 < j ∧ j < later ∧ onMax (h + j) < count) :
    Decided endHour onMin onMax h top limit level where
  held := by
    rcases looked.held with ⟨none, -⟩ | ⟨positive, less, -, needed⟩
    · exact .inl none
    · refine .inr ⟨positive, by omega, by omega, looked.ordered.trans looked.below, needed, fun j before => ?_⟩
      exact ⟨looked.low j (by omega), looked.ordered.trans (looked.free j (by omega))⟩
  settled := by
    intro count more most later positive near before needed
    rw [looked.value] at more
    by_cases seen : later < k
    · have few := looked.low later seen
      omega
    · exact last count more most later (by omega) near before needed

theorem Looked.next (looked : Looked onMin onMax h top k level) (positive : 0 < k) {nivmin portee : ℕ}
    (grows : level.nivmin ≤ nivmin) (low : onMin (h + k) ≤ nivmin) (ordered : nivmin ≤ min level.nivmax (onMax (h + k)))
    (above : onMin h < onMax (h + k))
    (held : portee = level.portee ∧ nivmin = level.nivmin ∨ portee = k ∧ onMin h < nivmin ∧ nivmin ≤ onMin (h + k)) :
    Looked onMin onMax h top (k + 1) ⟨nivmin, min level.nivmax (onMax (h + k)), portee⟩ where
  below := (min_le_left _ _).trans looked.below
  free := by
    intro j less
    rcases Nat.lt_succ_iff_lt_or_eq.mp less with earlier | rfl
    · exact (min_le_left _ _).trans (looked.free j earlier)
    · exact min_le_right _ _
  capped := by
    intro count more most
    by_cases before : level.nivmax < count
    · obtain ⟨j, after, less, small⟩ := looked.capped count before most
      exact ⟨j, after, less.trans (Nat.lt_succ_self k), small⟩
    · refine ⟨k, positive, Nat.lt_succ_self k, ?_⟩
      exact (min_lt_iff.mp more).resolve_left before
  low := by
    intro j less
    rcases Nat.lt_succ_iff_lt_or_eq.mp less with earlier | rfl
    · exact (looked.low j earlier).trans grows
    · exact low
  ordered := ordered
  open_ := lt_min looked.open_ above
  held := by
    rcases held with ⟨rfl, rfl⟩ | ⟨rfl, more, needed⟩
    · rcases looked.held with none | ⟨some_, less, others⟩
      · exact .inl none
      · exact .inr ⟨some_, less.trans (Nat.lt_succ_self k), others⟩
    · exact .inr ⟨positive, Nat.lt_succ_self portee, more, needed⟩

theorem narrowed_eq (maxAhead nivmax : ℕ) : (if maxAhead < nivmax then maxAhead else nivmax) = min nivmax maxAhead := by
  split_ifs with less
  · exact (min_eq_right less.le).symm
  · exact (min_eq_left (Nat.le_of_not_lt less)).symm

theorem look_cases {minHere : ℕ} (minAhead maxAhead k : ℕ) (here : minHere ≤ level.nivmin)
    (sorted : level.nivmin ≤ level.nivmax) :
    (∃ nivmax, look minHere minAhead maxAhead k level = ({ level with nivmax := nivmax }, true) ∧
        maxAhead ≤ level.nivmin) ∨
      (look minHere minAhead maxAhead k level = (⟨min level.nivmax maxAhead, min level.nivmax maxAhead, k⟩, true) ∧
        level.nivmin ≤ min level.nivmax maxAhead ∧ min level.nivmax maxAhead ≤ minAhead) ∨
      ∃ nivmin portee, look minHere minAhead maxAhead k level = (⟨nivmin, min level.nivmax maxAhead, portee⟩, false) ∧
        level.nivmin ≤ nivmin ∧ minAhead ≤ nivmin ∧ nivmin ≤ min level.nivmax maxAhead ∧ minHere < maxAhead ∧
          (portee = level.portee ∧ nivmin = level.nivmin ∨ portee = k ∧ minHere < nivmin ∧ nivmin ≤ minAhead) := by
  unfold look
  rw [narrowed_eq]
  dsimp only
  by_cases closed : maxAhead ≤ minHere
  · rw [if_pos closed]
    exact .inl ⟨minHere, rfl, closed.trans here⟩
  rw [if_neg closed]
  by_cases narrow : maxAhead < level.nivmax ∧ min level.nivmax maxAhead < level.nivmin
  · rw [if_pos narrow]
    exact .inl ⟨_, rfl, by omega⟩
  rw [if_neg narrow]
  have ordered : level.nivmin ≤ min level.nivmax maxAhead := by omega
  have above : minHere < maxAhead := Nat.lt_of_not_le closed
  by_cases rises : minHere < minAhead
  · rw [if_pos rises]
    by_cases full : min level.nivmax maxAhead ≤ minAhead
    · rw [if_pos full]
      exact .inr (.inl ⟨rfl, ordered, full⟩)
    rw [if_neg full]
    by_cases higher : level.nivmin ≤ minAhead
    · rw [if_pos higher]
      exact .inr (.inr ⟨minAhead, k, rfl, higher, le_rfl, by omega, above, .inr ⟨rfl, rises, le_rfl⟩⟩)
    · rw [if_neg higher]
      exact .inr (.inr ⟨_, _, rfl, le_rfl, by omega, ordered, above, .inl ⟨rfl, rfl⟩⟩)
  · rw [if_neg rises]
    exact .inr (.inr ⟨_, _, rfl, le_rfl, by omega, ordered, above, .inl ⟨rfl, rfl⟩⟩)

theorem Looked.decided_at (looked : Looked onMin onMax h top k level) (positive : 0 < k) (within : k ≤ limit)
    (before : h + k < endHour) (feasible : onMin (h + k) ≤ onMax (h + k))
    (ordered : level.nivmin ≤ min level.nivmax (onMax (h + k)))
    (reached : min level.nivmax (onMax (h + k)) ≤ onMin (h + k)) :
    Decided endHour onMin onMax h top limit
      ⟨min level.nivmax (onMax (h + k)), min level.nivmax (onMax (h + k)), k⟩ where
  held := by
    refine .inr ⟨positive, within, before, (min_le_left _ _).trans looked.below, reached, fun j less => ?_⟩
    exact ⟨(looked.low j less).trans ordered, (min_le_left _ _).trans (looked.free j less)⟩
  settled := by
    intro count more most later after _ _ needed
    rw [if_neg positive.ne'] at more
    dsimp only at more
    have beyond : k ≤ later := by
      by_contra! seen
      exact absurd (needed.trans ((looked.low later seen).trans ordered)) more.not_ge
    rcases min_lt_iff.mp more with capped | small
    · obtain ⟨j, first, less, low⟩ := looked.capped count capped most
      exact ⟨j, first, less.trans_le beyond, low⟩
    · rcases beyond.eq_or_lt with rfl | past
      · exact absurd (needed.trans feasible) small.not_ge
      · exact ⟨k, positive, past, small⟩

theorem Looked.decided_low (looked : Looked onMin onMax h top k level) (positive : 0 < k) (within : k ≤ limit)
    (before : h + (k - 1) < endHour) (feasible : onMin (h + k) ≤ onMax (h + k))
    (few : onMax (h + k) ≤ level.nivmin) (nivmax : ℕ) :
    Decided endHour onMin onMax h top limit { level with nivmax := nivmax } := by
  have left : Decided endHour onMin onMax h top limit level := by
    apply looked.decided (by omega) before
    intro count more _ later beyond _ _ needed
    rcases beyond.eq_or_lt with rfl | past
    · omega
    · exact ⟨k, positive, past, by omega⟩
  exact ⟨left.held, left.settled⟩

theorem scan_decided (after : startHour ≤ h)
    (feasible : ∀ hour, startHour ≤ hour → hour < endHour → onMin hour ≤ onMax hour) {turns : ℕ}
    (looked : Looked onMin onMax h top k level) (positive : 0 < k) (inside : h + (k - 1) < endHour)
    (left : k + turns = limit + 1) :
    ∃ final, scan startHour endHour onMin onMax h turns k level = some final ∧
      Decided endHour onMin onMax h top limit final := by
  induction turns generalizing k level with
  | zero =>
    refine ⟨level, rfl, looked.decided (by omega) inside fun _ _ _ later beyond near => ?_⟩
    omega
  | succ turns ih =>
    unfold scan
    by_cases past : endHour ≤ h + k
    · rw [if_pos past]
      refine ⟨level, rfl, looked.decided (by omega) inside fun _ _ _ later beyond _ before => ?_⟩
      omega
    · have before : h + k < endHour := Nat.lt_of_not_le past
      have here : onMin h ≤ level.nivmin := looked.low 0 positive
      have possible := feasible (h + k) (by omega) before
      rw [if_neg past, cell_eq_some (by omega) before, cell_eq_some after (by omega), cell_eq_some (by omega) before]
      dsimp only [Option.bind_eq_bind, Option.bind_some]
      rcases look_cases (onMin (h + k)) (onMax (h + k)) k here looked.ordered with
        ⟨nivmax, left_, few⟩ | ⟨left_, ordered, full⟩ | ⟨nivmin, portee, on_, grows, low, ordered, above, held⟩
      · rw [left_]
        exact ⟨_, rfl, looked.decided_low positive (by omega) inside possible few nivmax⟩
      · rw [left_]
        exact ⟨_, rfl, looked.decided_at positive (by omega) before possible ordered full⟩
      · rw [on_]
        exact ih (looked.next positive grows low ordered above held) (Nat.succ_pos k) before (by omega)

theorem looked_first {nivmax : ℕ} (below : nivmax ≤ onMax h) (open_ : onMin h < nivmax) :
    Looked onMin onMax h nivmax 1 ⟨onMin h, nivmax, 0⟩ where
  below := le_rfl
  free := by
    intro j less
    rw [Nat.lt_one_iff.mp less]
    exact below
  capped := fun count more most => absurd most more.not_ge
  low := by
    intro j less
    rw [Nat.lt_one_iff.mp less]
    rfl
  ordered := open_.le
  open_ := open_
  held := .inl ⟨rfl, rfl⟩

end Look

section Choice
variable {startHour endHour : ℕ} {onMin onMax : ℕ → ℕ} {limit : ℕ}

/-- Some hours from `h` on may have the same number of units, after an hour with `before` units. -/
structure Chosen (endHour : ℕ) (onMin onMax : ℕ → ℕ) (limit h before : ℕ) (choice : ℕ × ℕ) : Prop where
  positive : 0 < choice.1
  inside : h + choice.1 ≤ endHour
  between : ∀ j < choice.1, onMin (h + j) ≤ choice.2 ∧ choice.2 ≤ onMax (h + j)
  rises : choice.2 ≤ max before (onMin h)
  keeps : ∀ j < choice.1, onMin (h + j) < choice.2 →
    ∃ k, 0 < k ∧ k ≤ limit ∧ h + j + k < endHour ∧ choice.2 ≤ onMin (h + j + k) ∧ ∀ later < k, choice.2 ≤ onMax (h + j + later)
  stops : ∀ count, choice.2 < count → count ≤ before → count ≤ onMax h →
    ∀ k, 0 < k → k ≤ limit → h + k < endHour → count ≤ onMin (h + k) → ∃ j, 0 < j ∧ j < k ∧ onMax (h + j) < count

variable {h before : ℕ}

theorem chosen_least (inside : h < endHour) (feasible : onMin h ≤ onMax h)
    (stops : ∀ count, onMin h < count → count ≤ before → count ≤ onMax h →
      ∀ k, 0 < k → k ≤ limit → h + k < endHour → count ≤ onMin (h + k) → ∃ j, 0 < j ∧ j < k ∧ onMax (h + j) < count) :
    Chosen endHour onMin onMax limit h before (1, onMin h) where
  positive := Nat.one_pos
  inside := inside
  between := by
    intro j less
    rw [Nat.lt_one_iff.mp less]
    exact ⟨le_rfl, feasible⟩
  rises := le_max_right _ _
  keeps := by
    intro j less more
    rw [Nat.lt_one_iff.mp less] at more
    exact absurd more (lt_irrefl _)
  stops := stops

theorem Decided.chosen {level : Lookahead} (inside : h < endHour) (feasible : onMin h ≤ onMax h)
    (decided : Decided endHour onMin onMax h (min (onMax h) before) limit level) :
    Chosen endHour onMin onMax limit h before (if level.portee = 0 then (1, onMin h) else (level.portee, level.nivmin)) := by
  have settled := decided.settled
  rcases decided.held with none | ⟨positive, near, last, below, needed, between⟩
  · rw [if_pos none] at settled ⊢
    exact chosen_least inside feasible fun count more most possible => settled count more (le_min possible most)
  · rw [if_neg positive.ne'] at settled ⊢
    refine ⟨positive, last.le, between, (below.trans (min_le_right _ _)).trans (le_max_left _ _), ?_, ?_⟩
    · intro j less more
      -- the hour after the last one needs as many
      have place : h + j + (level.portee - j) = h + level.portee := by omega
      refine ⟨level.portee - j, by omega, by omega, by omega, by rwa [place], fun later soon => ?_⟩
      have here := (between (j + later) (by omega)).2
      rwa [← Nat.add_assoc] at here
    · exact fun count more most possible => settled count more (le_min possible most)

theorem choose_chosen (limit : ℕ) (after : startHour ≤ h) (inside : h < endHour)
    (feasible : ∀ hour, startHour ≤ hour → hour < endHour → onMin hour ≤ onMax hour) (before : ℕ) :
    ∃ choice, choose startHour endHour onMin onMax limit h before (onMin h) = some choice ∧
      Chosen endHour onMin onMax limit h before choice := by
  have here := feasible h after inside
  unfold choose
  by_cases rises : before ≤ onMin h
  · rw [if_pos rises]
    refine ⟨_, rfl, chosen_least inside here fun count more most => ?_⟩
    exact absurd (more.trans_le most) rises.not_gt
  rw [if_neg rises, descend, cell_eq_some after inside]
  dsimp only [Option.bind_eq_bind, Option.bind_some]
  rw [narrowed_eq, min_comm, lookAhead]
  by_cases open_ : onMin h < min (onMax h) before
  · obtain ⟨level, found, decided⟩ := scan_decided after feasible (looked_first (min_le_left _ _) open_) Nat.one_pos inside
      (Nat.add_comm 1 limit)
    rw [if_pos open_, found]
    exact ⟨_, rfl, decided.chosen inside here⟩
  · rw [if_neg open_]
    refine ⟨_, rfl, chosen_least inside here fun count more most possible => ?_⟩
    exact absurd (more.trans_le (le_min possible most)) open_

end Choice

section Run
variable {startHour endHour : ℕ} {onMin onMax : ℕ → ℕ} {limit : ℕ}

def counts (onOpt : ℕ → Option ℕ) (hour : ℕ) : ℕ := (onOpt hour).getD 0

/-- The hours before `h` are written, each with a choice that pays. -/
structure Written (startHour endHour : ℕ) (onMin onMax : ℕ → ℕ) (limit h : ℕ) (onOpt : ℕ → Option ℕ) : Prop where
  after : startHour < h
  inside : h ≤ endHour
  first : onOpt startHour = some (onMin startHour)
  written : ∀ hour, startHour ≤ hour → hour < h → onOpt hour = some (counts onOpt hour)
  thrifty : ∀ i, startHour ≤ i → i + 1 < h →
    ThriftyCount onMin onMax limit (counts onOpt) (endHour - 1 - (i + 1)) i

theorem thriftyCount_congr {running other : ℕ → ℕ} {later i : ℕ} (same : other i = running i) (next : other (i + 1) = running (i + 1))
    (thrifty : ThriftyCount onMin onMax limit running later i) : ThriftyCount onMin onMax limit other later i := by
  obtain ⟨served, allowed, rises, keeps, stops⟩ := thrifty
  rw [← next] at served allowed rises keeps stops
  rw [← same] at rises stops
  exact ⟨served, allowed, rises, keeps, stops⟩

variable {h before : ℕ} {choice : ℕ × ℕ}

theorem Chosen.thrifty (chosen : Chosen endHour onMin onMax limit h before choice) {running : ℕ → ℕ} {i j : ℕ}
    (place : i + 1 = h + j) (less : j < choice.1) (here : running (i + 1) = choice.2)
    (earlier : running i = if j = 0 then before else choice.2) :
    ThriftyCount onMin onMax limit running (endHour - 1 - (i + 1)) i where
  served := by
    rw [here, place]
    exact (chosen.between j less).1
  allowed := by
    rw [here, place]
    exact (chosen.between j less).2
  rises := by
    rw [here, earlier]
    split_ifs with start
    · rw [place, start]
      exact chosen.rises
    · exact le_max_left _ _
  keeps := by
    intro level low high
    rw [here] at high
    rw [place] at low
    obtain ⟨k, positive, near, last, needed, free⟩ := chosen.keeps j less (low.trans_lt high)
    refine ⟨k - 1, by omega, by omega, ?_, fun later soon => ?_⟩
    · have hour : i + 1 + (k - 1) + 1 = h + j + k := by omega
      rw [hour]
      exact decide_eq_true (high.trans_le needed)
    · have hour : i + 1 + later + 1 = h + j + (later + 1) := by omega
      rw [hour]
      exact decide_eq_true (high.trans_le (free (later + 1) (by omega)))
  stops := by
    intro level low high possible k near
    rw [here] at low
    rw [earlier] at high
    rintro ⟨inside, needed, free⟩
    split_ifs at high with start
    · have hour : i + 1 = h := by omega
      rw [hour] at possible inside needed free
      obtain ⟨j, after, soon, few⟩ := chosen.stops (level + 1) (by omega) high possible (k + 1) (Nat.succ_pos k) near (by omega)
        (of_decide_eq_true needed)
      have allowed := of_decide_eq_true (free (j - 1) (by omega))
      have same : h + (j - 1) + 1 = h + j := by omega
      rw [same] at allowed
      omega
    · omega

variable {onOpt : ℕ → Option ℕ}

theorem Written.fill (written : Written startHour endHour onMin onMax limit h onOpt)
    (chosen : Chosen endHour onMin onMax limit h (counts onOpt (h - 1)) choice) :
    ∃ filled, Thermal.fill endHour onOpt h choice.1 choice.2 = some filled ∧
      Written startHour endHour onMin onMax limit (h + choice.1) filled := by
  have start := written.after
  refine ⟨_, if_pos chosen.inside, ?_⟩
  generalize same : (fun hour => if h ≤ hour ∧ hour < h + choice.1 then some choice.2 else onOpt hour) = filled
  have old (hour : ℕ) (earlier : hour < h) : filled hour = onOpt hour := by
    rw [← same]
    exact if_neg fun within => absurd earlier within.1.not_gt
  have new (hour : ℕ) (reached : h ≤ hour) (less : hour < h + choice.1) : filled hour = some choice.2 := by
    rw [← same]
    exact if_pos ⟨reached, less⟩
  have oldCount (hour : ℕ) (earlier : hour < h) : counts filled hour = counts onOpt hour := by
    rw [counts, old hour earlier]
    rfl
  have newCount (hour : ℕ) (reached : h ≤ hour) (less : hour < h + choice.1) : counts filled hour = choice.2 := by
    rw [counts, new hour reached less]
    rfl
  refine ⟨by omega, chosen.inside, ?_, fun hour after less => ?_, fun i after less => ?_⟩
  · rw [old startHour start]
    exact written.first
  · by_cases earlier : hour < h
    · rw [old hour earlier, oldCount hour earlier]
      exact written.written hour after earlier
    · have reached := Nat.le_of_not_lt earlier
      rw [new hour reached less, newCount hour reached less]
  · by_cases earlier : i + 1 < h
    · exact thriftyCount_congr (oldCount i (by omega)) (oldCount (i + 1) earlier) (written.thrifty i after earlier)
    · refine @Chosen.thrifty endHour onMin onMax limit h _ choice chosen (counts filled) i (i + 1 - h) (by omega) (by omega)
        (newCount (i + 1) (by omega) less) ?_
      split_ifs with first
      · have hour : i = h - 1 := by omega
        rw [oldCount i (by omega), hour]
      · exact newCount i (by omega) (by omega)

variable (feasible : ∀ hour, startHour ≤ hour → hour < endHour → onMin hour ≤ onMax hour)
include feasible

theorem step_written (written : Written startHour endHour onMin onMax limit h onOpt) (more : h < endHour) :
    ∃ next filled, step startHour endHour onMin onMax limit h onOpt = some (next, filled) ∧ h < next ∧
      Written startHour endHour onMin onMax limit next filled := by
  have start := written.after
  obtain ⟨choice, found, chosen⟩ := choose_chosen limit start.le more feasible (counts onOpt (h - 1))
  obtain ⟨filled, done, after⟩ := written.fill chosen
  refine ⟨h + choice.1, filled, ?_, Nat.lt_add_of_pos_right chosen.positive, after⟩
  unfold step
  rw [cell_eq_some start.le more, written.written (h - 1) (by omega) (by omega)]
  dsimp only [Option.bind_eq_bind, Option.bind_some]
  rw [found]
  dsimp only [Option.bind_some]
  rw [done]
  rfl

theorem run_written (fuel : ℕ) (enough : endHour - h ≤ fuel) (written : Written startHour endHour onMin onMax limit h onOpt) :
    ∃ table, run startHour endHour onMin onMax limit fuel h onOpt = some table ∧
      Written startHour endHour onMin onMax limit endHour table := by
  have inside := written.inside
  induction fuel generalizing h onOpt with
  | zero =>
    have ended : h = endHour := by omega
    rw [run, if_neg (by omega)]
    exact ⟨onOpt, rfl, ended ▸ written⟩
  | succ fuel ih =>
    rw [run]
    by_cases more : h < endHour
    · obtain ⟨next, filled, done, further, after⟩ := step_written feasible written more
      rw [if_pos more, done]
      exact ih (by omega) after after.inside
    · have ended : h = endHour := by omega
      rw [if_neg more]
      exact ⟨onOpt, rfl, ended ▸ written⟩

theorem compute_written (some_hour : startHour < endHour) (fuel : ℕ) (enough : endHour - startHour ≤ fuel) :
    ∃ table, computeEconomicallyOptimalNbClustersONforEachHour startHour endHour onMin onMax limit fuel = some table ∧
      Written startHour endHour onMin onMax limit endHour table := by
  unfold computeEconomicallyOptimalNbClustersONforEachHour
  rw [cell_eq_some le_rfl some_hour]
  apply run_written feasible fuel (by omega)
  refine ⟨Nat.lt_succ_self startHour, some_hour, if_pos rfl, fun hour after before => ?_, fun i after before => ?_⟩
  · have same : hour = startHour := by omega
    rw [counts, if_pos same]
    rfl
  · omega

end Run

section Optimum
variable {startHour endHour : ℕ} {onMin onMax : ℕ → ℕ}

/-- Numbers of units within the bounds, which start from the least one. -/
structure Schedule (startHour endHour : ℕ) (onMin onMax : ℕ → ℕ) (running : ℕ → ℤ) : Prop where
  first : running startHour = onMin startHour
  between : ∀ hour, startHour ≤ hour → hour < endHour → onMin hour ≤ running hour ∧ running hour ≤ onMax hour

variable (fixedCost startupCost : ℚ)

/-- The units cost something in each hour, and for each start after the first hour. -/
def scheduleCost (startHour endHour : ℕ) (running : ℕ → ℤ) : ℚ :=
  ∑ hour ∈ Finset.Ico startHour endHour, fixedCost * running hour +
    ∑ hour ∈ Finset.Ico (startHour + 1) endHour, startupCost * (max 0 (running hour - running (hour - 1)) : ℤ)

theorem scheduleCost_eq (some_hour : startHour < endHour) (running : ℕ → ℕ) :
    scheduleCost fixedCost startupCost startHour endHour (fun hour => running hour) =
      fixedCost * running startHour + countCost fixedCost startupCost running startHour (endHour - (startHour + 1)) := by
  unfold scheduleCost countCost
  rw [Finset.sum_eq_sum_Ico_succ_bot some_hour, add_assoc, ← Finset.sum_add_distrib, Finset.sum_Ico_eq_sum_range]
  congr 1
  apply Finset.sum_congr rfl
  intro i _
  have now : startHour + 1 + i = startHour + i + 1 := by omega
  have started : max 0 ((running (startHour + i + 1) : ℤ) - running (startHour + i)) =
      ((running (startHour + i + 1) - running (startHour + i) : ℕ) : ℤ) := by omega
  rw [now, Nat.add_sub_cancel, started]
  push_cast
  rfl

section Duration
variable {fixedCost startupCost : ℚ} {k : ℕ}

theorem maxDurationON_pays (cheap : 0 ≤ fixedCost) (positive : 0 ≤ startupCost)
    (less : k < maxDurationON startupCost fixedCost endHour) : fixedCost * (k + 1) ≤ startupCost := by
  unfold maxDurationON at less
  by_cases costs : 0 < fixedCost
  · have quotient : 0 ≤ startupCost / fixedCost := div_nonneg positive cheap
    have short : k + 1 ≤ ⌊startupCost / fixedCost⌋₊ := by
      rw [if_pos costs] at less
      split_ifs at less <;> omega
    have bound := (Nat.le_floor_iff quotient).mp short
    rw [le_div_iff₀ costs, mul_comm] at bound
    exact_mod_cast bound
  · have free : fixedCost = 0 := le_antisymm (not_lt.mp costs) cheap
    rw [free, zero_mul]
    exact positive

theorem maxDurationON_far (beyond : maxDurationON startupCost fixedCost endHour ≤ k) (inside : k < endHour) :
    startupCost ≤ fixedCost * (k + 1) := by
  unfold maxDurationON at beyond
  by_cases costs : 0 < fixedCost
  · have long : ⌊startupCost / fixedCost⌋₊ ≤ k := by
      rw [if_pos costs] at beyond
      split_ifs at beyond <;> omega
    have bound := Nat.lt_of_floor_lt (Nat.lt_succ_of_le long)
    rw [div_lt_iff₀ costs, mul_comm] at bound
    exact_mod_cast bound.le
  · rw [if_neg costs] at beyond
    omega

end Duration

theorem Schedule.scheduleCost_toNat {other : ℕ → ℤ} (schedule : Schedule startHour endHour onMin onMax other)
    (fixedCost startupCost : ℚ) : scheduleCost fixedCost startupCost startHour endHour other =
      scheduleCost fixedCost startupCost startHour endHour (fun hour => ((other hour).toNat : ℤ)) := by
  have same (hour : ℕ) (after : startHour ≤ hour) (before : hour < endHour) : ((other hour).toNat : ℤ) = other hour := by
    have bound := (schedule.between hour after before).1
    omega
  unfold scheduleCost
  congr 1
  · apply Finset.sum_congr rfl
    intro hour inside
    obtain ⟨after, before⟩ := Finset.mem_Ico.mp inside
    dsimp only
    rw [same hour after before]
  · apply Finset.sum_congr rfl
    intro hour inside
    obtain ⟨after, before⟩ := Finset.mem_Ico.mp inside
    dsimp only
    rw [same hour (by omega) before, same (hour - 1) (by omega) (by omega)]

section Costs
variable {fixedCost startupCost : ℚ} {table : ℕ → Option ℕ}
  (written : Written startHour endHour onMin onMax (maxDurationON startupCost fixedCost endHour) endHour table)
include written

theorem Written.counts_first : counts table startHour = onMin startHour := by
  rw [counts, written.first]
  rfl

theorem Written.schedule (feasible : onMin startHour ≤ onMax startHour) :
    Schedule startHour endHour onMin onMax (fun hour => counts table hour) where
  first := by rw [written.counts_first]
  between := by
    intro hour after before
    rcases after.eq_or_lt with rfl | later
    · rw [written.counts_first]
      exact ⟨le_rfl, by exact_mod_cast feasible⟩
    · have thrifty := written.thrifty (hour - 1) (by omega) (by omega)
      have served := thrifty.served
      have allowed := thrifty.allowed
      have place : hour - 1 + 1 = hour := by omega
      rw [place] at served allowed
      exact ⟨by exact_mod_cast served, by exact_mod_cast allowed⟩

theorem Written.scheduleCost_le (cheap : 0 ≤ fixedCost) (positive : 0 ≤ startupCost) {other : ℕ → ℤ}
    (schedule : Schedule startHour endHour onMin onMax other) :
    scheduleCost fixedCost startupCost startHour endHour (fun hour => counts table hour) ≤
      scheduleCost fixedCost startupCost startHour endHour other := by
  have some_hour := written.after
  have start : (other startHour).toNat = counts table startHour := by
    rw [written.counts_first, schedule.first]
    rfl
  have thrifty (i later : ℕ) (after : startHour ≤ i) (sum : i + 1 + later = startHour + (endHour - (startHour + 1))) :
      ThriftyCount onMin onMax (maxDurationON startupCost fixedCost endHour) (counts table) later i := by
    have rest : later = endHour - 1 - (i + 1) := by omega
    rw [rest]
    exact written.thrifty i after (by omega)
  have between (i : ℕ) (after : startHour < i) (before : i ≤ startHour + (endHour - (startHour + 1))) :
      onMin i ≤ (other i).toNat ∧ (other i).toNat ≤ onMax i := by
    have bounds := schedule.between i after.le (by omega)
    omega
  have least := countCost_le cheap positive (fun k less => maxDurationON_pays cheap positive less)
    (fun k beyond inside => maxDurationON_far beyond (by omega)) thrifty start between
  rw [schedule.scheduleCost_toNat, scheduleCost_eq fixedCost startupCost some_hour,
    scheduleCost_eq fixedCost startupCost some_hour, start]
  linarith

end Costs

/-- The numbers that are chosen keep to the bounds, and no numbers within the bounds cost less. -/
theorem computeEconomicallyOptimalNbClustersONforEachHour_optimal (some_hour : startHour < endHour)
    (feasible : ∀ hour, startHour ≤ hour → hour < endHour → onMin hour ≤ onMax hour) {fixedCost startupCost : ℚ}
    (cheap : 0 ≤ fixedCost) (positive : 0 ≤ startupCost) {fuel : ℕ} (enough : endHour - startHour ≤ fuel) :
    ∃ (table : ℕ → Option ℕ) (onOpt : ℕ → ℕ),
      computeEconomicallyOptimalNbClustersONforEachHour startHour endHour onMin onMax
        (maxDurationON startupCost fixedCost endHour) fuel = some table ∧
      (∀ hour, startHour ≤ hour → hour < endHour → table hour = some (onOpt hour)) ∧
      Schedule startHour endHour onMin onMax (fun hour => onOpt hour) ∧
      ∀ other, Schedule startHour endHour onMin onMax other →
        scheduleCost fixedCost startupCost startHour endHour (fun hour => onOpt hour) ≤
          scheduleCost fixedCost startupCost startHour endHour other := by
  obtain ⟨table, done, written⟩ := compute_written feasible some_hour fuel enough
  refine ⟨table, counts table, done, written.written, written.schedule (feasible startHour le_rfl some_hour), ?_⟩
  intro other schedule
  exact written.scheduleCost_le cheap positive schedule

def needed (hour : ℕ) : ℕ := if hour = 2 ∨ hour = 4 then 1 else 0

theorem computeEconomicallyOptimalNbClustersONforEachHour_needed :
    ∃ (table : ℕ → Option ℕ) (onOpt : ℕ → ℕ),
      computeEconomicallyOptimalNbClustersONforEachHour 2 6 needed (fun _ => 2) (maxDurationON 3 2 6) 4 = some table ∧
      (∀ hour, 2 ≤ hour → hour < 6 → table hour = some (onOpt hour)) ∧
      Schedule 2 6 needed (fun _ => 2) (fun hour => onOpt hour) ∧
      ∀ other, Schedule 2 6 needed (fun _ => 2) other →
        scheduleCost 2 3 2 6 (fun hour => onOpt hour) ≤ scheduleCost 2 3 2 6 other := by
  apply computeEconomicallyOptimalNbClustersONforEachHour_optimal (by decide) _ (by decide +kernel) (by decide +kernel) (by decide)
  intro hour _ _
  unfold needed
  split <;> decide

end Optimum

end Antares.Thermal
