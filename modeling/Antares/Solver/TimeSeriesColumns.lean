import Antares.Solver.TimeSeriesNumbers

/-! When the numbers of `TimeSeriesNumbers::Generate` are columns of their series. Each stored number is traced to the number
of columns its draw was made over, through the intra-modal draws, the draws of a series of its own and the inter-modal
copies. Then, where the run stops, as only an assertion says that the reference matrix of an area exists.
-/

set_option autoImplicit false

namespace Antares.Solver

open Data

inductive Aligned {α β : Type} (related : α → β → Prop) : List Bool → List α → List β → Prop where
  | nil : Aligned related [] [] []
  | cons {enabled : Bool} {flags : List Bool} {left : α} {lefts : List α} {right : β} {rights : List β} :
      (enabled = true → related left right) → Aligned related flags lefts rights →
      Aligned related (enabled :: flags) (left :: lefts) (right :: rights)

section
variable {α β γ ι : Type} {flags : List Bool} {lefts : List α} {rights : List β}

theorem Aligned.comp {first : α → β → Prop} {second : α → γ → Prop} {both : β → γ → Prop}
    {others : List γ} (combine : ∀ x y z, first x y → second x z → both y z)
    (one : Aligned first flags lefts rights) (two : Aligned second flags lefts others) :
    Aligned both flags rights others := by
  induction one generalizing others with
  | nil =>
    cases two
    exact .nil
  | cons related _ ih =>
    cases two with
    | cons other rest =>
      exact .cons (fun enabled => combine _ _ _ (related enabled) (other enabled)) (ih rest)

variable {related : α → β → Prop}

theorem Aligned.symm (aligned : Aligned related flags lefts rights) :
    Aligned (fun right left => related left right) flags rights lefts := by
  induction aligned with
  | nil => exact .nil
  | cons related _ ih => exact .cons related ih

theorem Aligned.of_map {enabled : ι → Bool} {left : ι → α} {right : ι → β}
    (items : List ι) (each : ∀ item ∈ items, enabled item = true → related (left item) (right item)) :
    Aligned related (items.map enabled) (items.map left) (items.map right) := by
  induction items with
  | nil => exact .nil
  | cons item items ih =>
    rw [List.forall_mem_cons] at each
    exact .cons each.1 (ih each.2)

theorem Aligned.replace {related kept : α → β → Prop} {enabled : ι → Bool} {items : List ι}
    (newLeft : α → α) (newRight : β → β)
    (changes : ∀ x y, kept x y → related (newLeft x) (newRight y))
    (aligned : Aligned kept (items.map enabled) lefts rights) :
    Aligned related (items.map enabled)
      ((items.zip lefts).map fun entry => if enabled entry.1 then newLeft entry.2 else entry.2)
      ((items.zip rights).map fun entry => if enabled entry.1 then newRight entry.2 else entry.2) := by
  induction items generalizing lefts rights with
  | nil => exact .nil
  | cons item items ih =>
    cases aligned with
    | cons head rest =>
      refine .cons ?_ (ih rest)
      intro on
      simp only [on, ↓reduceIte]
      exact changes _ _ (head on)

theorem Aligned.firstEnabled {related : α → β → Prop} (aligned : Aligned related flags lefts rights)
    (some_ : flags.any id = true) :
    ∃ left right, firstEnabled flags lefts = some left ∧ firstEnabled flags rights = some right ∧
      related left right := by
  induction aligned with
  | nil => cases some_
  | @cons enabled flags left lefts right rights head rest ih =>
    cases enabled with
    | true => exact ⟨left, right, rfl, rfl, head rfl⟩
    | false => exact ih some_

end

/-- The values of an area related series by series; clusters that are not enabled do not count. -/
structure PerSeries.Related {α β : Type} (area : Area) (related : α → β → Prop)
    (left : PerSeries α) (right : PerSeries β) : Prop where
  load : related left.load right.load
  solar : related left.solar right.solar
  wind : related left.wind right.wind
  hydro : related left.hydro right.hydro
  thermal : Aligned related (area.thermalMapping.map (·.enabled)) left.thermal right.thermal
  renewable : Aligned related (area.renewableList.map (·.enabled)) left.renewable right.renewable
  links : Aligned related (area.links.map fun _ => true) left.links right.links

section
variable {α β γ : Type} {area : Area} {left : PerSeries α} {right : PerSeries β}

theorem PerSeries.Related.comp {first : α → β → Prop} {second : α → γ → Prop} {both : β → γ → Prop}
    {other : PerSeries γ} (combine : ∀ x y z, first x y → second x z → both y z)
    (one : left.Related area first right) (two : left.Related area second other) :
    right.Related area both other where
  load := combine _ _ _ one.load two.load
  solar := combine _ _ _ one.solar two.solar
  wind := combine _ _ _ one.wind two.wind
  hydro := combine _ _ _ one.hydro two.hydro
  thermal := one.thermal.comp combine two.thermal
  renewable := one.renewable.comp combine two.renewable
  links := one.links.comp combine two.links

theorem PerSeries.Related.symm {related : α → β → Prop} (same : left.Related area related right) :
    right.Related area (fun y x => related x y) left where
  load := same.load
  solar := same.solar
  wind := same.wind
  hydro := same.hydro
  thermal := same.thermal.symm
  renewable := same.renewable.symm
  links := same.links.symm

variable (study : Study)

theorem any_enabled_of_not_isEmpty {ι : Type} {enabled : ι → Bool} {items : List ι}
    (nonempty : (items.filter enabled).isEmpty = false) : (items.map enabled).any id = true := by
  induction items with
  | nil => cases nonempty
  | cons item items ih =>
    cases on : enabled item with
    | true => simp [on]
    | false =>
      rw [List.filter_cons_of_neg (by simp [on])] at nonempty
      simpa [on] using ih nonempty

/-- An area has a series to copy from, or not, whatever the values are. -/
def hasInterModalSeries (area : Area) : Bool :=
  isTSintermodal study .load || isTSintermodal study .solar || isTSintermodal study .wind ||
    isTSintermodal study .hydro || (isTSintermodal study .thermal && !area.thermalClusters.isEmpty) ||
    (isTSintermodal study .renewable && !area.renewableClusters.isEmpty)

variable {related : α → β → Prop}

theorem getFirst_related (same : left.Related area related right)
    (some_ : hasInterModalSeries study area = true) :
    ∃ x y, getFirstTSnumberInterModalMatrixFoundInArea study area left = some x ∧
      getFirstTSnumberInterModalMatrixFoundInArea study area right = some y ∧ related x y := by
  unfold getFirstTSnumberInterModalMatrixFoundInArea
  unfold hasInterModalSeries at some_
  split_ifs with load solar wind hydro thermal renewable
  · exact ⟨_, _, rfl, rfl, same.load⟩
  · exact ⟨_, _, rfl, rfl, same.solar⟩
  · exact ⟨_, _, rfl, rfl, same.wind⟩
  · exact ⟨_, _, rfl, rfl, same.hydro⟩
  · have nonempty : area.thermalClusters.isEmpty = false := by
      simpa using (Bool.and_eq_true_iff.mp thermal).2
    exact same.thermal.firstEnabled (any_enabled_of_not_isEmpty nonempty)
  · have nonempty : area.renewableClusters.isEmpty = false := by
      simpa using (Bool.and_eq_true_iff.mp renewable).2
    exact same.renewable.firstEnabled (any_enabled_of_not_isEmpty nonempty)
  · simp_all

theorem getFirst_eq_none (values : PerSeries α) (none_ : hasInterModalSeries study area = false) :
    getFirstTSnumberInterModalMatrixFoundInArea study area values = none := by
  unfold getFirstTSnumberInterModalMatrixFoundInArea
  unfold hasInterModalSeries at none_
  simp only [Bool.or_eq_false_iff] at none_
  obtain ⟨⟨⟨⟨⟨load, solar⟩, wind⟩, hydro⟩, thermal⟩, renewable⟩ := none_
  simp [load, solar, wind, hydro, thermal, renewable]

theorem applyInterModal_related {x : α} {y : β} (draw : related x y)
    (same : left.Related area related right) :
    (applyMatrixDrawsToInterModalModesInArea study area x left).Related area related
      (applyMatrixDrawsToInterModalModesInArea study area y right) := by
  have stored (kind : TimeSeriesType) {l : α} {r : β} (old : related l r) :
      related (if isTSintermodal study kind then x else l) (if isTSintermodal study kind then y else r) := by
    split_ifs
    · exact draw
    · exact old
  exact
    { load := stored .load same.load
      solar := stored .solar same.solar
      wind := stored .wind same.wind
      hydro := stored .hydro same.hydro
      thermal := same.thermal.replace _ _ fun _ _ old => stored .thermal old
      renewable := same.renewable.replace _ _ fun _ _ old => stored .renewable old
      links := same.links }

theorem interModalArea_related (same : left.Related area related right)
    (some_ : hasInterModalSeries study area = true) :
    ∃ left' right', interModalArea study area left = some left' ∧
      interModalArea study area right = some right' ∧ left'.Related area related right' := by
  obtain ⟨x, y, leftFirst, rightFirst, draw⟩ := getFirst_related study same some_
  unfold interModalArea
  rw [leftFirst, rightFirst]
  exact ⟨_, _, rfl, rfl, applyInterModal_related study draw same⟩

end

/-- A number drawn over some columns, from a word of the given kind. -/
def DrawnOver (word : Nat → Prop) (number columns : Nat) : Prop :=
  ∃ value, word value ∧ number = value * columns / (2 ^ 32 - 1)

/-- The columns a draw that a single column does not need is made over. -/
def unlessSingle (columns : Nat) : Nat := if columns = 1 then 0 else columns

section
variable {word : Nat → Prop} {random : WordStream} (study : Study)

theorem drawNumber_spec (columns : Nat) (words : ∀ position, word (random position)) :
    DrawnOver word (drawNumber columns random).1 columns ∧
      ∀ position, word ((drawNumber columns random).2 position) :=
  ⟨⟨random 0, words 0, rfl⟩, fun position => words (position + 1)⟩

theorem drawUnlessSingle_spec (columns : Nat) (words : ∀ position, word (random position)) :
    DrawnOver word (drawUnlessSingle columns random).1 (unlessSingle columns) ∧
      ∀ position, word ((drawUnlessSingle columns random).2 position) := by
  unfold drawUnlessSingle unlessSingle
  split_ifs
  · exact ⟨⟨random 0, words 0, by simp⟩, words⟩
  · exact drawNumber_spec columns words

variable (nbByMode : TimeSeriesType → Nat)

variable (kind : TimeSeriesType)

def intraModalColumns : Nat :=
  if kind = .transmissionCapacities then unlessSingle (nbByMode kind) else nbByMode kind

theorem drawTSnumberForKind_spec {state : (TimeSeriesType → Nat) × WordStream}
    (kind : TimeSeriesType) (words : ∀ position, word (state.2 position))
    {settled : TimeSeriesType → Prop}
    (drawn : ∀ other, settled other → isTSintramodal study other = true →
      DrawnOver word (state.1 other) (intraModalColumns nbByMode other)) :
    (∀ other, settled other ∨ other = kind → isTSintramodal study other = true →
      DrawnOver word ((drawTSnumberForKind study nbByMode state kind).1 other)
        (intraModalColumns nbByMode other)) ∧
    ∀ position, word ((drawTSnumberForKind study nbByMode state kind).2 position) := by
  unfold drawTSnumberForKind
  cases intra : isTSintramodal study kind with
  | false =>
    refine ⟨?_, words⟩
    rintro other (old | rfl) on
    · exact drawn other old on
    · rw [intra] at on
      cases on
  | true =>
    have new : DrawnOver word
          (if kind = .transmissionCapacities then drawUnlessSingle (nbByMode kind) state.2
            else drawNumber (nbByMode kind) state.2).1 (intraModalColumns nbByMode kind) ∧
        ∀ position, word ((if kind = .transmissionCapacities
          then drawUnlessSingle (nbByMode kind) state.2
          else drawNumber (nbByMode kind) state.2).2 position) := by
      unfold intraModalColumns
      split_ifs
      · exact drawUnlessSingle_spec _ words
      · exact drawNumber_spec _ words
    refine ⟨?_, new.2⟩
    intro other _ on
    by_cases same : other = kind
    · subst same
      simpa using new.1
    · simp only [↓reduceIte, Function.update_of_ne same]
      exact drawn other (by simp_all) on

theorem drawTSnumbersForIntraModal_spec (words : ∀ position, word (random position)) :
    (∀ kind, isTSintramodal study kind = true →
      DrawnOver word ((drawTSnumbersForIntraModal study nbByMode random).1 kind)
        (intraModalColumns nbByMode kind)) ∧
    ∀ position, word ((drawTSnumbersForIntraModal study nbByMode random).2 position) := by
  have run (kinds : List TimeSeriesType) (state : (TimeSeriesType → Nat) × WordStream)
      (stateWords : ∀ position, word (state.2 position)) (settled : TimeSeriesType → Prop)
      (drawn : ∀ kind, settled kind → isTSintramodal study kind = true →
        DrawnOver word (state.1 kind) (intraModalColumns nbByMode kind)) :
      (∀ kind, settled kind ∨ kind ∈ kinds → isTSintramodal study kind = true →
        DrawnOver word ((kinds.foldl (drawTSnumberForKind study nbByMode) state).1 kind)
          (intraModalColumns nbByMode kind)) ∧
      ∀ position, word ((kinds.foldl (drawTSnumberForKind study nbByMode) state).2 position) := by
    induction kinds generalizing state settled with
    | nil => exact ⟨fun kind old => drawn kind (by simpa using old), stateWords⟩
    | cons first kinds ih =>
      obtain ⟨stepDrawn, stepWords⟩ := drawTSnumberForKind_spec study nbByMode first stateWords drawn
      obtain ⟨finalDrawn, finalWords⟩ := ih _ stepWords _ stepDrawn
      exact ⟨fun kind listed => finalDrawn kind (by simpa [or_assoc] using listed), finalWords⟩
  obtain ⟨drawn, rest⟩ := run tsKinds (fun _ => 0, random) words (fun _ => False) (by simp)
  exact ⟨fun kind => drawn kind (.inr (by cases kind <;> decide)), rest⟩

/-- The columns behind the number a series has before the inter-modal copies. -/
def ownColumns (columns : Nat) : Nat :=
  if isTSintramodal study kind then intraModalColumns nbByMode kind else columns

theorem drawForSeries_spec {kind : TimeSeriesType} {old : Nat} (columns : Nat)
    (words : ∀ position, word (random position))
    (intra : isTSintramodal study kind = true → DrawnOver word old (intraModalColumns nbByMode kind)) :
    DrawnOver word (drawForSeries study kind columns old random).1
        (ownColumns study nbByMode kind columns) ∧
      ∀ position, word ((drawForSeries study kind columns old random).2 position) := by
  unfold drawForSeries ownColumns
  split_ifs with on
  · exact ⟨intra on, words⟩
  · exact drawNumber_spec columns words

theorem drawForClusters_spec {kind : TimeSeriesType} {clusters : List (Bool × Nat)}
    {numbers : List Nat} (words : ∀ position, word (random position))
    (intra : Aligned (fun old (_ : Bool × Nat) => isTSintramodal study kind = true →
      DrawnOver word old (intraModalColumns nbByMode kind)) (clusters.map Prod.fst) numbers clusters) :
    Aligned (DrawnOver word) (clusters.map Prod.fst)
        (drawForClusters study kind clusters numbers random).1
        (clusters.map fun cluster => ownColumns study nbByMode kind cluster.2) ∧
      ∀ position, word ((drawForClusters study kind clusters numbers random).2 position) := by
  induction clusters generalizing numbers random with
  | nil =>
    cases intra
    exact ⟨.nil, words⟩
  | cons cluster clusters ih =>
    obtain ⟨enabled, columns⟩ := cluster
    cases intra with
    | cons old rest =>
      cases enabled with
      | true =>
        obtain ⟨drawn, nextWords⟩ := drawForSeries_spec study nbByMode columns words (old rfl)
        obtain ⟨others, finalWords⟩ := ih nextWords rest
        exact ⟨.cons (fun _ => drawn) others, finalWords⟩
      | false =>
        obtain ⟨-, nextWords⟩ := drawNumber_spec 1 words
        obtain ⟨others, finalWords⟩ := ih nextWords rest
        exact ⟨.cons (fun on => absurd on Bool.false_ne_true) others, finalWords⟩

theorem drawForLinks_spec {links : List AreaLink} {numbers : List Nat}
    (words : ∀ position, word (random position))
    (intra : Aligned (fun old (_ : AreaLink) => isTSintramodal study .transmissionCapacities = true →
      DrawnOver word old (intraModalColumns nbByMode .transmissionCapacities))
      (links.map fun _ => true) numbers links) :
    Aligned (DrawnOver word) (links.map fun _ => true) (drawForLinks study links numbers random).1
        (links.map fun link =>
          ownColumns study nbByMode .transmissionCapacities (unlessSingle link.directWidth)) ∧
      ∀ position, word ((drawForLinks study links numbers random).2 position) := by
  induction links generalizing numbers random with
  | nil =>
    cases intra
    exact ⟨.nil, words⟩
  | cons link links ih =>
    cases intra with
    | @cons _ _ old olds _ _ head rest =>
      have drawn : DrawnOver word
            (if isTSintramodal study .transmissionCapacities then (old, random)
              else drawUnlessSingle link.directWidth random).1
            (ownColumns study nbByMode .transmissionCapacities (unlessSingle link.directWidth)) ∧
          ∀ position, word ((if isTSintramodal study .transmissionCapacities then (old, random)
            else drawUnlessSingle link.directWidth random).2 position) := by
        unfold ownColumns
        split_ifs with on
        · exact ⟨head rfl on, words⟩
        · exact drawUnlessSingle_spec _ words
      obtain ⟨others, finalWords⟩ := ih drawn.2 rest
      exact ⟨.cons (fun _ => drawn.1) others, finalWords⟩

theorem drawForGroups_spec (groups : List Nat) (words : ∀ position, word (random position)) :
    ∀ position, word ((drawForGroups groups random).2 position) := by
  induction groups generalizing random with
  | nil => exact words
  | cons columns groups ih => exact ih (drawUnlessSingle_spec columns words).2

/-- The columns behind every number of an area before the inter-modal copies. -/
def areaOwnColumns (area : Area) : PerSeries Nat :=
  let own (kind : TimeSeriesType) (width : Nat) :=
    ownColumns study nbByMode kind (nbTimeSeriesOf study nbByMode kind width)
  { load := own .load area.loadWidth
    solar := own .solar area.solarWidth
    wind := own .wind area.windWidth
    hydro := own .hydro area.hydroWidth
    thermal := area.thermalMapping.map fun cluster => own .thermal cluster.seriesWidth
    renewable := area.renewableList.map fun cluster =>
      ownColumns study nbByMode .renewable cluster.seriesWidth
    links := area.links.map fun link =>
      ownColumns study nbByMode .transmissionCapacities (unlessSingle link.directWidth) }

theorem stored_aligned {ι δ : Type} {kind : TimeSeriesType} {draws : TimeSeriesType → Nat}
    (drawn : isTSintramodal study kind = true →
      DrawnOver word (draws kind) (intraModalColumns nbByMode kind))
    (items : List ι) (enabled : ι → Bool) (columns : ι → δ) :
    Aligned (fun old (_ : δ) => isTSintramodal study kind = true →
        DrawnOver word old (intraModalColumns nbByMode kind)) (items.map enabled)
      ((items.zip (items.map fun _ => 0)).map fun entry =>
        if enabled entry.1 then
          if isTSintramodal study kind then draws kind else entry.2
        else entry.2) (items.map columns) := by
  rw [← List.map_prod_left_eq_zip, List.map_map]
  apply Aligned.of_map
  intro item _ on intra
  simp only [Function.comp_apply, on, intra, ↓reduceIte]
  exact drawn intra

theorem drawForStoredClusters_spec {ι : Type} {kind : TimeSeriesType} {draws : TimeSeriesType → Nat}
    (drawn : isTSintramodal study kind = true →
      DrawnOver word (draws kind) (intraModalColumns nbByMode kind))
    (items : List ι) (enabled : ι → Bool) (columns : ι → Nat)
    (words : ∀ position, word (random position)) :
    let stored := (items.zip (items.map fun _ => 0)).map fun entry =>
      if enabled entry.1 then
        if isTSintramodal study kind then draws kind else entry.2
      else entry.2
    let clusters := items.map fun item => (enabled item, columns item)
    Aligned (DrawnOver word) (items.map enabled)
        (drawForClusters study kind clusters stored random).1
        (items.map fun item => ownColumns study nbByMode kind (columns item)) ∧
      ∀ position, word ((drawForClusters study kind clusters stored random).2 position) := by
  intro stored clusters
  have flags : clusters.map Prod.fst = items.map enabled := by
    rw [List.map_map]
    rfl
  have widths : (clusters.map fun cluster => ownColumns study nbByMode kind cluster.2) =
      items.map fun item => ownColumns study nbByMode kind (columns item) := by
    rw [List.map_map]
    rfl
  have intra := stored_aligned study nbByMode drawn items enabled fun item => (enabled item, columns item)
  rw [← flags] at intra ⊢
  rw [← widths]
  exact drawForClusters_spec study nbByMode words intra

variable {draws : TimeSeriesType → Nat}

theorem drawAndStoreForArea_spec (area : Area)
    (words : ∀ position, word (random position))
    (drawn : ∀ kind, isTSintramodal study kind = true →
      DrawnOver word (draws kind) (intraModalColumns nbByMode kind)) :
    (drawAndStoreForArea study nbByMode area
        (storeTSnumbersForIntraModal study draws area (resizedNumbers area)) random).1.Related area
        (DrawnOver word) (areaOwnColumns study nbByMode area) ∧
      ∀ position, word ((drawAndStoreForArea study nbByMode area
        (storeTSnumbersForIntraModal study draws area (resizedNumbers area)) random).2 position) := by
  have stored (kind : TimeSeriesType) (intra : isTSintramodal study kind = true) :
      DrawnOver word (if isTSintramodal study kind then draws kind else 0)
        (intraModalColumns nbByMode kind) := by
    rw [if_pos intra]
    exact drawn kind intra
  obtain ⟨load, afterLoad⟩ := drawForSeries_spec study nbByMode
    (nbTimeSeriesOf study nbByMode .load area.loadWidth) words (stored .load)
  obtain ⟨solar, afterSolar⟩ := drawForSeries_spec study nbByMode
    (nbTimeSeriesOf study nbByMode .solar area.solarWidth) afterLoad (stored .solar)
  obtain ⟨wind, afterWind⟩ := drawForSeries_spec study nbByMode
    (nbTimeSeriesOf study nbByMode .wind area.windWidth) afterSolar (stored .wind)
  obtain ⟨hydro, afterHydro⟩ := drawForSeries_spec study nbByMode
    (nbTimeSeriesOf study nbByMode .hydro area.hydroWidth) afterWind (stored .hydro)
  obtain ⟨thermal, afterThermal⟩ := drawForStoredClusters_spec study nbByMode (drawn .thermal)
    area.thermalMapping (·.enabled)
    (fun cluster => nbTimeSeriesOf study nbByMode .thermal cluster.seriesWidth) afterHydro
  obtain ⟨renewable, afterRenewable⟩ := drawForStoredClusters_spec study nbByMode (drawn .renewable)
    area.renewableList (·.enabled) (·.seriesWidth) afterThermal
  have storedLinks : Aligned
      (fun old (_ : AreaLink) => isTSintramodal study .transmissionCapacities = true →
        DrawnOver word old (intraModalColumns nbByMode .transmissionCapacities))
      (area.links.map fun _ => true)
      ((area.links.map fun _ => 0).map fun old =>
        if isTSintramodal study .transmissionCapacities then draws .transmissionCapacities else old)
      (area.links.map id) := by
    rw [List.map_map]
    exact Aligned.of_map _ fun _ _ _ => stored .transmissionCapacities
  rw [List.map_id] at storedLinks
  obtain ⟨links, afterLinks⟩ := drawForLinks_spec study nbByMode afterRenewable storedLinks
  exact ⟨{ load, solar, wind, hydro, thermal, renewable, links }, afterLinks⟩

def DrawnInAreas (word : Nat → Prop) (columns : Area → PerSeries Nat) (areas : List Area)
    (numbers : List (PerSeries Nat)) : Prop :=
  List.Forall₂ (fun area (drawn : PerSeries Nat) => drawn.Related area (DrawnOver word) (columns area))
    areas numbers

theorem drawAndStoreForAreas_spec (areas : List Area)
    (words : ∀ position, word (random position))
    (drawn : ∀ kind, isTSintramodal study kind = true →
      DrawnOver word (draws kind) (intraModalColumns nbByMode kind)) :
    let stored := areas.map fun area =>
      storeTSnumbersForIntraModal study draws area (resizedNumbers area)
    DrawnInAreas word (areaOwnColumns study nbByMode) areas
        (drawAndStoreForAreas study nbByMode areas stored random).1 ∧
      ∀ position, word ((drawAndStoreForAreas study nbByMode areas stored random).2 position) := by
  induction areas generalizing random with
  | nil => exact ⟨.nil, words⟩
  | cons area areas ih =>
    obtain ⟨first, nextWords⟩ := drawAndStoreForArea_spec study nbByMode area words drawn
    obtain ⟨others, finalWords⟩ := ih nextWords
    exact ⟨.cons first others, finalWords⟩

theorem generateYear_spec (words : ∀ position, word (random position)) :
    DrawnInAreas word (areaOwnColumns study nbByMode) study.areas
        (generateYear study nbByMode random).1.areas ∧
      ∀ position, word ((generateYear study nbByMode random).2 position) := by
  obtain ⟨intraDrawn, intraWords⟩ := drawTSnumbersForIntraModal_spec study nbByMode words
  obtain ⟨areasDrawn, areasWords⟩ :=
    drawAndStoreForAreas_spec study nbByMode study.areas intraWords intraDrawn
  exact ⟨areasDrawn, drawForGroups_spec study.groups areasWords⟩

theorem generateYears_length (count : Nat) (random : WordStream) :
    (generateYears study nbByMode count random).length = count := by
  induction count generalizing random with
  | zero => rfl
  | succ count ih => exact congrArg Nat.succ (ih _)

theorem generateYears_spec (count : Nat) (words : ∀ position, word (random position)) :
    ∀ year ∈ generateYears study nbByMode count random,
      DrawnInAreas word (areaOwnColumns study nbByMode) study.areas year.areas := by
  induction count generalizing random with
  | zero => simp [generateYears]
  | succ count ih =>
    obtain ⟨first, nextWords⟩ := generateYear_spec study nbByMode words
    exact List.forall_mem_cons.mpr ⟨first, ih nextWords⟩

end

section
variable {word : Nat → Prop} (study : Study)

def copiedColumns (columns : Area → PerSeries Nat) (area : Area) : PerSeries Nat :=
  (interModalArea study area (columns area)).getD (columns area)

variable {columns : Area → PerSeries Nat}

theorem interModalAreas_spec {areas : List Area}
    {numbers : List (PerSeries Nat)} (drawn : DrawnInAreas word columns areas numbers)
    (series : areas.all (hasInterModalSeries study) = true) :
    ∃ changed, interModalAreas study areas numbers = some changed ∧
      DrawnInAreas word (copiedColumns study columns) areas changed := by
  induction drawn with
  | nil => exact ⟨[], rfl, .nil⟩
  | cons first _ ih =>
    rw [List.all_cons, Bool.and_eq_true] at series
    obtain ⟨copied, from_, changed, fromColumns, related⟩ := interModalArea_related study first series.1
    obtain ⟨others, othersChanged, othersRelated⟩ := ih series.2
    refine ⟨copied :: others, ?_, .cons ?_ othersRelated⟩
    · unfold interModalAreas
      rw [changed, othersChanged]
      rfl
    · unfold copiedColumns
      rw [fromColumns]
      exact related

theorem interModalAreas_eq_none {areas : List Area}
    {numbers : List (PerSeries Nat)} (drawn : DrawnInAreas word columns areas numbers)
    (missing : areas.all (hasInterModalSeries study) = false) :
    interModalAreas study areas numbers = none := by
  induction drawn with
  | nil => cases missing
  | @cons area values _ _ first _ ih =>
    unfold interModalAreas
    cases series : hasInterModalSeries study area with
    | false =>
      unfold interModalArea
      rw [getFirst_eq_none study values series]
      rfl
    | true =>
      rw [List.all_cons, series, Bool.true_and] at missing
      rw [ih missing]
      cases interModalArea study area values <;> rfl

/-- `Generate` completes: its checks pass and every area has a series to copy from. -/
def accepted : Bool :=
  (checkIntraModalConsistency study).isSome &&
    (!anyInterModal study ||
      (study.areas.all (checkInterModalConsistencyForArea study) &&
        study.areas.all (hasInterModalSeries study)))

def drawnColumns (area : Area) : PerSeries Nat :=
  if anyInterModal study then copiedColumns study (areaOwnColumns study (nbTimeseriesByMode study)) area
  else areaOwnColumns study (nbTimeseriesByMode study) area

theorem mapM_interModalYear {years : List YearNumbers}
    (drawn : ∀ year ∈ years, DrawnInAreas word columns study.areas year.areas)
    (series : study.areas.all (hasInterModalSeries study) = true) :
    ∃ changed, years.mapM (interModalYear study) = some changed ∧ changed.length = years.length ∧
      ∀ year ∈ changed, DrawnInAreas word (copiedColumns study columns) study.areas year.areas := by
  induction years with
  | nil => exact ⟨[], rfl, rfl, by simp⟩
  | cons year years ih =>
    rw [List.forall_mem_cons] at drawn
    obtain ⟨areas, copied, related⟩ := interModalAreas_spec study drawn.1 series
    obtain ⟨others, othersChanged, sameLength, othersRelated⟩ := ih drawn.2
    refine ⟨{ year with areas } :: others, ?_, congrArg Nat.succ sameLength,
      List.forall_mem_cons.mpr ⟨related, othersRelated⟩⟩
    rw [List.mapM_cons, othersChanged]
    unfold interModalYear
    rw [copied]
    rfl

variable {random : WordStream}

theorem checkIntraModalConsistency_eq (some_ : (checkIntraModalConsistency study).isSome = true) :
    checkIntraModalConsistency study = some (nbTimeseriesByMode study) := by
  unfold checkIntraModalConsistency at some_ ⊢
  split_ifs with passes
  · rfl
  · simp [passes] at some_

theorem generate_spec (word : Nat → Prop) (simulated : study.parameters.derated = false)
    (accepts : accepted study = true) (words : ∀ position, word (random position)) :
    ∃ years, generate study random = some years ∧ years.length = study.parameters.nbYears ∧
      ∀ year ∈ years, DrawnInAreas word (drawnColumns study) study.areas year.areas := by
  unfold accepted at accepts
  rw [Bool.and_eq_true] at accepts
  have drawn := generateYears_spec study (nbTimeseriesByMode study) study.parameters.nbYears words
  have length := generateYears_length study (nbTimeseriesByMode study) study.parameters.nbYears random
  unfold generate drawnColumns
  rw [checkIntraModalConsistency_eq study accepts.1, simulated]
  cases inter : anyInterModal study with
  | false => exact ⟨_, rfl, length, drawn⟩
  | true =>
    have areas : study.areas.all (checkInterModalConsistencyForArea study) = true ∧
        study.areas.all (hasInterModalSeries study) = true := by
      simpa [inter] using accepts.2
    obtain ⟨changed, same, sameLength, related⟩ := mapM_interModalYear study drawn areas.2
    refine ⟨changed, ?_, sameLength.trans length, related⟩
    simpa [areas.1] using same

theorem generate_eq_none (simulated : study.parameters.derated = false)
    (some_year : study.parameters.nbYears ≠ 0) (rejects : accepted study = false) :
    generate study random = none := by
  unfold generate
  rw [simulated]
  unfold accepted at rejects
  cases intra : checkIntraModalConsistency study with
  | none => rfl
  | some nbByMode =>
    have same := checkIntraModalConsistency_eq study (by rw [intra]; rfl)
    rw [intra, Option.some.injEq] at same
    subst same
    rw [intra, Option.isSome_some, Bool.true_and] at rejects
    cases inter : anyInterModal study with
    | false => simp [inter] at rejects
    | true =>
      cases check : study.areas.all (checkInterModalConsistencyForArea study) with
      | false => rfl
      | true =>
        have missing : study.areas.all (hasInterModalSeries study) = false := by
          simpa [inter, check] using rejects
        obtain ⟨count, years⟩ := Nat.exists_eq_succ_of_ne_zero some_year
        have first : DrawnInAreas (fun _ => True) (areaOwnColumns study (nbTimeseriesByMode study))
            study.areas (generateYear study (nbTimeseriesByMode study) random).1.areas :=
          (generateYear_spec study _ fun _ => trivial).1
        have stuck : interModalYear study (generateYear study (nbTimeseriesByMode study) random).1 =
            none := by
          unfold interModalYear
          rw [interModalAreas_eq_none study first missing]
          rfl
        simp only [Bool.false_eq_true, ↓reduceIte, Option.bind_some, years, generateYears,
          List.mapM_cons, stuck]
        rfl

theorem generate_no_year {years : List YearNumbers} (simulated : study.parameters.derated = false)
    (no_year : study.parameters.nbYears = 0) (same : generate study random = some years) :
    years = [] := by
  unfold generate at same
  rw [simulated, no_year] at same
  cases intra : checkIntraModalConsistency study with
  | none => simp [intra] at same
  | some nbByMode =>
    simp only [intra, Bool.false_eq_true, ↓reduceIte, Option.bind_some, generateYears,
      List.mapM_nil] at same
    split_ifs at same <;> exact (Option.some.inj same).symm

end

section
variable (study : Study)

/-- The numbers of columns of the series of an area while the years run: regenerated series
have the number of columns of their generator. -/
def columnsOf (area : Area) : PerSeries (List Nat) :=
  let columns (kind : TimeSeriesType) (width : Nat) :=
    if haveToRefreshTS study.parameters.toParameters kind then study.parameters.nbTimeSeries kind
    else width
  { load := [columns .load area.loadWidth]
    solar := [columns .solar area.solarWidth]
    wind := [columns .wind area.windWidth]
    hydro := [columns .hydro area.hydroWidth]
    thermal := area.thermalMapping.map fun cluster =>
      -- generated for the first year and never loaded again
      if refreshing study 0 && cluster.hasPrepro &&
          cluster.doWeGenerateTS (haveToRefreshTS study.parameters.toParameters .thermal) then
        [if cluster.unitCount = 0 ∨ cluster.nominalCapacity = 0 then 1
          else study.parameters.nbTimeSeries .thermal]
      else [cluster.seriesWidth]
    renewable := area.renewableList.map fun cluster => [cluster.seriesWidth]
    links := area.links.map fun link => [link.directWidth, link.indirectWidth] }

/-- The number is a column of every matrix it selects in, or that matrix has a single column. -/
def IsColumn (number : Nat) (columns : List Nat) : Prop :=
  ∀ width ∈ columns, number < width ∨ width = 1

variable (greatest : Nat)

/-- Every completed `Generate` stores columns only, for words up to a greatest one. -/
def NumbersAreColumns : Prop :=
  study.parameters.derated = false →
    ∀ random : WordStream, (∀ position, random position ≤ greatest) →
      ∀ years, generate study random = some years →
        years.length = study.parameters.nbYears ∧
        ∀ year ∈ years, List.Forall₂ (fun area (numbers : PerSeries Nat) =>
          numbers.Related area IsColumn (columnsOf study area)) study.areas year.areas

/-- The columns behind a number are not more than those of the series that uses it. -/
def Fits (drawn : Nat) (columns : List Nat) : Prop :=
  IsColumn (greatest * drawn / (2 ^ 32 - 1)) columns

def ColumnsFit : Prop :=
  study.parameters.derated = true ∨ study.parameters.nbYears = 0 ∨ accepted study = false ∨
    ∀ area ∈ study.areas, (drawnColumns study area).Related area (Fits greatest) (columnsOf study area)

variable {study}

theorem isColumn_of_fits {greatest number drawn : Nat} {columns : List Nat}
    (draws : DrawnOver (· ≤ greatest) number drawn) (fits : Fits greatest drawn columns) :
    IsColumn number columns := by
  intro width listed
  obtain ⟨value, small, rfl⟩ := draws
  apply (fits width listed).imp_left
  intro below
  exact lt_of_le_of_lt (Nat.div_le_div_right (Nat.mul_le_mul_right drawn small)) below

theorem fits_of_isColumn {greatest number drawn : Nat} {columns : List Nat}
    (draws : DrawnOver (· = greatest) number drawn) (column : IsColumn number columns) :
    Fits greatest drawn columns := by
  obtain ⟨value, rfl, rfl⟩ := draws
  exact column

theorem areas_fit {greatest : Nat} {areas : List Area} {numbers : List (PerSeries Nat)}
    {drawn : Area → PerSeries Nat} {columns : Area → PerSeries (List Nat)}
    (draws : DrawnInAreas (· = greatest) drawn areas numbers)
    (valid : List.Forall₂ (fun area (values : PerSeries Nat) =>
      values.Related area IsColumn (columns area)) areas numbers) :
    ∀ area ∈ areas, (drawn area).Related area (Fits greatest) (columns area) := by
  have combine (number drawn : Nat) (columns : List Nat) (draws : DrawnOver (· = greatest) number drawn)
      (column : IsColumn number columns) : Fits greatest drawn columns := fits_of_isColumn draws column
  induction draws with
  | nil => simp
  | cons first _ ih =>
    cases valid with
    | cons head rest =>
      exact List.forall_mem_cons.mpr
        ⟨first.comp combine head, ih rest⟩

theorem areas_valid {greatest : Nat} {areas : List Area} {numbers : List (PerSeries Nat)}
    {drawn : Area → PerSeries Nat} {columns : Area → PerSeries (List Nat)}
    (draws : DrawnInAreas (· ≤ greatest) drawn areas numbers)
    (fits : ∀ area ∈ areas, (drawn area).Related area (Fits greatest) (columns area)) :
    List.Forall₂ (fun area (values : PerSeries Nat) => values.Related area IsColumn (columns area))
      areas numbers := by
  have combine (drawn number : Nat) (columns : List Nat) (draws : DrawnOver (· ≤ greatest) number drawn)
      (fits : Fits greatest drawn columns) : IsColumn number columns := isColumn_of_fits draws fits
  induction draws with
  | nil => exact .nil
  | cons first _ ih =>
    rw [List.forall_mem_cons] at fits
    exact .cons (first.symm.comp combine fits.1) (ih fits.2)

/-- The numbers are columns exactly where no draw is made over more columns than its series
has, whatever route the number took. -/
theorem numbersAreColumns_iff (study : Study) (greatest : Nat) :
    NumbersAreColumns study greatest ↔ ColumnsFit study greatest := by
  constructor
  · intro holds
    by_contra unfit
    unfold ColumnsFit at unfit
    push Not at unfit
    obtain ⟨simulated, some_year, accepts, area, listed, unfits⟩ := unfit
    rw [ne_eq, Bool.not_eq_true] at simulated
    rw [ne_eq, Bool.not_eq_false] at accepts
    apply unfits
    let largest : WordStream := fun _ => greatest
    have words : ∀ position, largest position = greatest := fun _ => rfl
    obtain ⟨years, same, length, drawn⟩ := generate_spec study (· = greatest) simulated accepts words
    obtain ⟨-, valid⟩ := holds simulated largest (fun _ => le_refl _) years same
    have nonempty : years ≠ [] := by
      intro empty
      rw [empty] at length
      exact some_year length.symm
    obtain ⟨year, inYears⟩ := List.exists_mem_of_ne_nil years nonempty
    exact areas_fit (drawn year inYears) (valid year inYears) area listed
  · intro fits simulated random words years same
    by_cases no_year : study.parameters.nbYears = 0
    · obtain rfl := generate_no_year study simulated no_year same
      exact ⟨no_year.symm, by simp⟩
    · cases accepts : accepted study with
      | false =>
        rw [generate_eq_none study simulated no_year accepts] at same
        cases same
      | true =>
        obtain ⟨drawnYears, drawnSame, length, drawn⟩ := 
          generate_spec study (· ≤ greatest) simulated accepts words
        rw [same, Option.some.injEq] at drawnSame
        subst drawnSame
        have allFit : ∀ area ∈ study.areas,
            (drawnColumns study area).Related area (Fits greatest) (columnsOf study area) := by
          simpa [ColumnsFit, simulated, no_year, accepts] using fits
        exact ⟨length, fun year inYears => areas_valid (drawn year inYears) allFit⟩

end

/-- Ten load columns in one area and one in the other, where wind follows the load. -/
def followedLoadStudy : Study where
  parameters :=
    { nbYears := 1
      derated := false
      userPlaylist := false
      yearsFilter := fun _ => true
      timeSeriesToGenerate := fun _ => false
      timeSeriesToRefresh := fun _ => false
      refreshInterval := fun _ => 1
      nbTimeSeries := fun _ => 1
      intraModal := (· = .load)
      interModal := fun kind => kind = .load ∨ kind = .wind
      renewableGeneration := .rgAggregated
      ncMode := .ncMin
      nbYears_le := one_le_maximumMCYears
      refreshInterval_pos := fun _ => Nat.one_pos
      filter_of_no_playlist := fun _ _ => rfl }
  areas :=
    [{ loadWidth := 10, solarWidth := 1, windWidth := 10, hydroWidth := 1
       thermalMapping := [], renewableList := [], links := [] },
     { loadWidth := 1, solarWidth := 1, windWidth := 5, hydroWidth := 1
       thermalMapping := [], renewableList := [], links := [] }]
  groups := []

/-- The sixth column is drawn for the load and copied to a wind series of five columns. -/
theorem followedLoadStudy_leaves_columns : ¬NumbersAreColumns followedLoadStudy (2 ^ 32 - 2) := by
  intro holds
  obtain ⟨-, valid⟩ := holds rfl (fun _ => 2 ^ 31) (fun _ => by decide) _ rfl
  have areas := valid _ (List.mem_cons_self)
  cases areas with
  | cons _ rest =>
    cases rest with
    | cons second _ => exact absurd (second.wind 5 (by decide)) (by decide)

/-- A failed check returns false; a null reference has no defined behaviour. -/
inductive GenerateStop where
  | intraModalInconsistency
  | interModalInconsistency
  | nullReference
  deriving DecidableEq

section
variable (study : Study)

/-- The loop over the areas; every area gives its matrix for year 0 to the copies, found or not. -/
def interModalStop : List Area → Option GenerateStop
  | [] => none
  | area :: areas =>
    if checkInterModalConsistencyForArea study area then
      match getFirstTSnumberInterModalMatrixFoundInArea study area (resizedNumbers area) with
      | some _ => interModalStop areas
      | none => some .nullReference
    else some .interModalInconsistency

def generateStop : Option GenerateStop :=
  if study.parameters.derated then none
  else match checkIntraModalConsistency study with
    | none => some .intraModalInconsistency
    | some _ => if anyInterModal study then interModalStop study study.areas else none

/-- The loop over the areas is not entered, or an inconsistent area ends it before any area
without inter-modal series.
-/
def ReferencesFound : Prop :=
  study.parameters.derated = true ∨ checkIntraModalConsistency study = none ∨ anyInterModal study = false ∨
    ∀ front area back, study.areas = front ++ area :: back → hasInterModalSeries study area = false →
      ∃ other ∈ front, checkInterModalConsistencyForArea study other = false

variable (area : Area)

theorem resizedNumbers_related :
    (resizedNumbers area).Related area (fun _ _ : Nat => True) (resizedNumbers area) where
  load := trivial
  solar := trivial
  wind := trivial
  hydro := trivial
  thermal := .of_map area.thermalMapping fun _ _ _ => trivial
  renewable := .of_map area.renewableList fun _ _ _ => trivial
  links := .of_map area.links fun _ _ _ => trivial

theorem getFirst_eq_none_iff :
    getFirstTSnumberInterModalMatrixFoundInArea study area (resizedNumbers area) = none ↔
      hasInterModalSeries study area = false := by
  constructor
  · intro missing
    by_contra series
    obtain ⟨number, _, found, -⟩ := getFirst_related study (resizedNumbers_related area) (by simpa using series)
    rw [missing] at found
    cases found
  · exact getFirst_eq_none study (resizedNumbers area)

theorem interModalStop_cons (areas : List Area) : interModalStop study (area :: areas) =
    if checkInterModalConsistencyForArea study area = false then some .interModalInconsistency
    else if hasInterModalSeries study area = false then some .nullReference
    else interModalStop study areas := by
  have same := getFirst_eq_none_iff study area
  rw [interModalStop]
  cases checkInterModalConsistencyForArea study area with
  | false => rfl
  | true =>
    cases found : getFirstTSnumberInterModalMatrixFoundInArea study area (resizedNumbers area) with
    | none => simp [same.mp found]
    | some _ =>
      rw [found] at same
      simp [← same]

theorem check_of_no_series {area : Area} (series : hasInterModalSeries study area = false) :
    checkInterModalConsistencyForArea study area = true := by
  have numbers : interModalNumbers study area = [] := by
    unfold hasInterModalSeries at series
    simp only [Bool.or_eq_false_iff, Bool.and_eq_false_iff, Bool.not_eq_false', List.isEmpty_iff] at series
    obtain ⟨⟨⟨⟨⟨load, solar⟩, wind⟩, hydro⟩, thermal⟩, renewable⟩ := series
    have thermalNumbers : (area.thermalClusters.flatMap fun cluster => if isTSintermodal study .thermal then
        [if isTSgenerated study .thermal then study.parameters.nbTimeSeries .thermal else cluster.seriesWidth] else []) = [] := by
      rcases thermal with off | empty
      · simp [off]
      · rw [empty]
        rfl
    have renewableNumbers : (if isTSintermodal study .renewable then area.renewableClusters.map (·.seriesWidth) else []) = [] := by
      rcases renewable with off | empty
      · rw [off]
        rfl
      · rw [empty]
        exact ite_self []
    unfold interModalNumbers
    simp only [load, solar, wind, hydro, thermalNumbers, renewableNumbers]
    rfl
  unfold checkInterModalConsistencyForArea
  rw [numbers]
  rfl

theorem interModalStop_eq_null_iff (areas : List Area) : interModalStop study areas = some .nullReference ↔
    ∃ front area back, areas = front ++ area :: back ∧ hasInterModalSeries study area = false ∧
      ∀ other ∈ front, checkInterModalConsistencyForArea study other = true := by
  induction areas with
  | nil => simp [interModalStop]
  | cons first areas ih =>
    rw [interModalStop_cons]
    split_ifs with check series
    · constructor
      · intro stop
        cases stop
      · intro ⟨front, area, back, areas, series, consistent⟩
        cases front with
        | nil =>
          obtain ⟨rfl, -⟩ := List.cons.inj areas
          rw [check_of_no_series study series] at check
          cases check
        | cons head front =>
          obtain ⟨rfl, -⟩ := List.cons.inj areas
          rw [consistent _ List.mem_cons_self] at check
          cases check
    · exact iff_of_true rfl ⟨[], first, areas, rfl, series, fun _ none => absurd none List.not_mem_nil⟩
    · rw [ih]
      constructor
      · intro ⟨front, area, back, split, noSeries, consistent⟩
        refine ⟨first :: front, area, back, congrArg (List.cons first) split, noSeries, ?_⟩
        rw [List.forall_mem_cons]
        exact ⟨by simpa using check, consistent⟩
      · intro ⟨front, area, back, split, noSeries, consistent⟩
        cases front with
        | nil =>
          obtain ⟨rfl, -⟩ := List.cons.inj split
          exact absurd noSeries series
        | cons head front =>
          rw [List.forall_mem_cons] at consistent
          exact ⟨front, area, back, (List.cons.inj split).2, noSeries, consistent.2⟩

end

/-- Thermal series are inter-modal and the only area has no thermal cluster. -/
def noClusterStudy : Study where
  parameters := { followedLoadStudy.parameters with
    intraModal := fun _ => false
    interModal := (· = .thermal) }
  areas :=
    [{ loadWidth := 1, solarWidth := 1, windWidth := 1, hydroWidth := 1
       thermalMapping := [], renewableList := [], links := [] }]
  groups := []

end Antares.Solver
