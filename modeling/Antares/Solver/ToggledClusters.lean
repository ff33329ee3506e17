import Antares.Library.DrawLoop
import Antares.Solver.TimeSeriesColumns

/-! The draws of one year of `TimeSeriesNumbers::Generate` as a plan: which element takes a word of its own, which one shares the
draw of its kind, and which one passes over a word, as a disabled cluster does also where the enabled one takes none.
-/

set_option autoImplicit false

namespace Antares.Solver

open Data Library

abbrev NumberUse := StreamUse TimeSeriesType

/-- `next` divides a word by this. -/
def greatestWord : Nat := 2 ^ 32 - 1

section
variable (study : Study)

variable (kind : TimeSeriesType)

def seriesUse (columns : Nat) : NumberUse :=
  if isTSintramodal study kind then .shared kind else .own columns

def clusterUse (enabled : Bool) (columns : Nat) : NumberUse :=
  if enabled then seriesUse study kind columns else .skipped

def unlessSingleUse (columns : Nat) : NumberUse := if columns = 1 then .silent else .own columns

def linkUse (link : AreaLink) : NumberUse :=
  if isTSintramodal study .transmissionCapacities then .shared .transmissionCapacities
  else unlessSingleUse link.directWidth

section
variable (nbByMode : TimeSeriesType → Nat)

def thermalUse (cluster : ThermalCluster) : NumberUse :=
  clusterUse study .thermal cluster.enabled (nbTimeSeriesOf study nbByMode .thermal cluster.seriesWidth)

def renewableUse (cluster : RenewableCluster) : NumberUse :=
  clusterUse study .renewable cluster.enabled cluster.seriesWidth

def areaUses (area : Area) : List NumberUse :=
  [seriesUse study .load (nbTimeSeriesOf study nbByMode .load area.loadWidth),
    seriesUse study .solar (nbTimeSeriesOf study nbByMode .solar area.solarWidth),
    seriesUse study .wind (nbTimeSeriesOf study nbByMode .wind area.windWidth),
    seriesUse study .hydro (nbTimeSeriesOf study nbByMode .hydro area.hydroWidth)] ++
  (area.thermalMapping.map (thermalUse study nbByMode) ++ (area.renewableList.map (renewableUse study) ++
    area.links.map (linkUse study)))

def yearUses : List NumberUse := study.areas.flatMap (areaUses study nbByMode) ++ study.groups.map unlessSingleUse

def kindReading (state : (TimeSeriesType → Option Reading) × Nat) (kind : TimeSeriesType) :
    (TimeSeriesType → Option Reading) × Nat :=
  if isTSintramodal study kind then
    if kind = .transmissionCapacities ∧ nbByMode kind = 1 then (Function.update state.1 kind none, state.2)
    else (Function.update state.1 kind (some (state.2, nbByMode kind)), state.2 + 1)
  else state

def kindReadings : (TimeSeriesType → Option Reading) × Nat :=
  tsKinds.foldl (kindReading study nbByMode) (fun _ => none, 0)

end

end

def PerSeries.toList {β : Type} (numbers : PerSeries β) : List β :=
  [numbers.load, numbers.solar, numbers.wind, numbers.hydro] ++ (numbers.thermal ++ (numbers.renewable ++ numbers.links))

def YearNumbers.toList (year : YearNumbers) : List Nat := year.areas.flatMap PerSeries.toList ++ year.groups

section
variable {study : Study} {nbByMode : TimeSeriesType → Nat} {words : WordStream} {keys : TimeSeriesType → Option Reading}

variable (columns place : Nat)

theorem drawNumber_from : drawNumber columns (fromPlace words place) =
    (chosen greatestWord words (some (place, columns)), fromPlace words (place + 1)) := by
  unfold drawNumber
  rw [fromPlace_succ]
  rfl

theorem drawUnlessSingle_from : drawUnlessSingle columns (fromPlace words place) =
    (chosen greatestWord words ((unlessSingleUse columns).reading keys place),
      fromPlace words (place + (unlessSingleUse columns).reads)) := by
  unfold drawUnlessSingle unlessSingleUse
  split_ifs
  · rfl
  · exact drawNumber_from columns place

theorem chosen_update (state : TimeSeriesType → Option Reading) (kind : TimeSeriesType) (reading : Option Reading) :
    Function.update (fun other => chosen greatestWord words (state other)) kind (chosen greatestWord words reading) =
      fun other => chosen greatestWord words (Function.update state kind reading other) := by
  funext other
  by_cases same : other = kind
  · subst same
    rw [Function.update_self, Function.update_self]
  · rw [Function.update_of_ne same, Function.update_of_ne same]

theorem drawTSnumberForKind_eq (state : (TimeSeriesType → Option Reading) × Nat) (kind : TimeSeriesType) :
    drawTSnumberForKind study nbByMode (fun other => chosen greatestWord words (state.1 other), fromPlace words state.2) kind =
      (fun other => chosen greatestWord words ((kindReading study nbByMode state kind).1 other),
        fromPlace words (kindReading study nbByMode state kind).2) := by
  unfold drawTSnumberForKind kindReading drawUnlessSingle
  simp only [drawNumber_from]
  by_cases intra : isTSintramodal study kind = true
  · by_cases link : kind = .transmissionCapacities
    · by_cases single : nbByMode kind = 1
      · simp only [if_pos intra, if_pos link, if_pos single, if_pos (And.intro link single)]
        exact Prod.ext (chosen_update state.1 kind none) rfl
      · simp only [if_pos intra, if_pos link, if_neg single, if_neg fun both : _ ∧ _ => single both.2]
        exact Prod.ext (chosen_update state.1 kind (some (state.2, nbByMode kind))) rfl
    · simp only [if_pos intra, if_neg link, if_neg fun both : _ ∧ _ => link both.1]
      exact Prod.ext (chosen_update state.1 kind (some (state.2, nbByMode kind))) rfl
  · simp only [if_neg intra]

theorem drawTSnumbersForIntraModal_eq : drawTSnumbersForIntraModal study nbByMode words =
    (fun kind => chosen greatestWord words ((kindReadings study nbByMode).1 kind),
      fromPlace words (kindReadings study nbByMode).2) := by
  have folded (kinds : List TimeSeriesType) (state : (TimeSeriesType → Option Reading) × Nat) :
      kinds.foldl (drawTSnumberForKind study nbByMode)
        (fun other => chosen greatestWord words (state.1 other), fromPlace words state.2) =
      (fun other => chosen greatestWord words ((kinds.foldl (kindReading study nbByMode) state).1 other),
        fromPlace words (kinds.foldl (kindReading study nbByMode) state).2) := by
    induction kinds generalizing state with
    | nil => rfl
    | cons kind kinds ih => rw [List.foldl_cons, drawTSnumberForKind_eq, ih, List.foldl_cons]
  have whole := folded tsKinds (fun _ => none, 0)
  dsimp only at whole
  rw [fromPlace_zero] at whole
  exact whole

variable {draws : TimeSeriesType → Nat} (shared : ∀ kind, draws kind = chosen greatestWord words (keys kind))
include shared

theorem drawForSeries_eq (kind : TimeSeriesType) (columns place old : Nat)
    (stored : isTSintramodal study kind = true → old = draws kind) :
    drawForSeries study kind columns old (fromPlace words place) =
      (chosen greatestWord words ((seriesUse study kind columns).reading keys place),
        fromPlace words (place + (seriesUse study kind columns).reads)) := by
  unfold drawForSeries seriesUse
  split_ifs with intra
  · rw [stored intra, shared kind]
    rfl
  · exact drawNumber_from columns place

theorem drawForClusters_eq {ι : Type} (kind : TimeSeriesType) (items : List ι) (enabled : ι → Bool) (columns : ι → Nat)
    (place : Nat) :
    drawForClusters study kind (items.map fun item => (enabled item, columns item))
        ((items.zip (items.map fun _ => 0)).map fun entry =>
          if enabled entry.1 then if isTSintramodal study kind then draws kind else entry.2 else entry.2)
        (fromPlace words place) =
      ((readings keys place (items.map fun item => clusterUse study kind (enabled item) (columns item))).map
          (chosen greatestWord words),
        fromPlace words (place + totalReads (items.map fun item => clusterUse study kind (enabled item) (columns item)))) := by
  induction items generalizing place with
  | nil => rfl
  | cons item items ih =>
    rw [List.map_cons, List.map_cons, List.map_cons, List.zip_cons_cons, List.map_cons, readings, List.map_cons,
      totalReads_cons, ← Nat.add_assoc, drawForClusters]
    cases on : enabled item with
    | true =>
      have first := drawForSeries_eq shared kind (columns item) place (if isTSintramodal study kind then draws kind else 0)
        fun intra => if_pos intra
      simp only [if_true, clusterUse, first]
      simp only [clusterUse] at ih
      rw [ih]
    | false =>
      simp only [Bool.false_eq_true, if_false, clusterUse, drawNumber_from]
      simp only [clusterUse] at ih
      rw [ih]
      rfl

theorem drawForLinks_eq (links : List AreaLink) (place : Nat) :
    drawForLinks study links
        ((links.map fun _ => 0).map fun old =>
          if isTSintramodal study .transmissionCapacities then draws .transmissionCapacities else old)
        (fromPlace words place) =
      ((readings keys place (links.map (linkUse study))).map (chosen greatestWord words),
        fromPlace words (place + totalReads (links.map (linkUse study)))) := by
  induction links generalizing place with
  | nil => rfl
  | cons link links ih =>
    rw [List.map_cons, List.map_cons, List.map_cons, readings, List.map_cons, totalReads_cons, ← Nat.add_assoc, drawForLinks]
    by_cases intra : isTSintramodal study .transmissionCapacities = true
    · simp only [if_pos intra, linkUse, StreamUse.reading, StreamUse.reads, Nat.add_zero, ← shared] at ih ⊢
      rw [ih]
    · have first := @drawUnlessSingle_from words keys link.directWidth place
      simp only [if_neg intra, linkUse, first] at ih ⊢
      rw [ih]

theorem drawAndStoreForArea_eq (area : Area) (place : Nat) :
    (drawAndStoreForArea study nbByMode area (storeTSnumbersForIntraModal study draws area (resizedNumbers area))
        (fromPlace words place)).1.toList =
      (readings keys place (areaUses study nbByMode area)).map (chosen greatestWord words) ∧
    (drawAndStoreForArea study nbByMode area (storeTSnumbersForIntraModal study draws area (resizedNumbers area))
        (fromPlace words place)).2 = fromPlace words (place + totalReads (areaUses study nbByMode area)) := by
  have series (kind : TimeSeriesType) (columns place : Nat) :=
    drawForSeries_eq shared kind columns place (if isTSintramodal study kind then draws kind else 0) fun intra => if_pos intra
  have thermal (place : Nat) := @drawForClusters_eq study words keys draws shared _ .thermal area.thermalMapping (·.enabled)
    (fun cluster => nbTimeSeriesOf study nbByMode .thermal cluster.seriesWidth) place
  have renewable (place : Nat) := @drawForClusters_eq study words keys draws shared _ .renewable area.renewableList (·.enabled) (·.seriesWidth) place
  have links (place : Nat) := @drawForLinks_eq study words keys draws shared area.links place
  unfold drawAndStoreForArea storeTSnumbersForIntraModal resizedNumbers areaUses
  simp only [series, thermal, renewable, links, PerSeries.toList, List.cons_append, List.nil_append, readings, readings_append,
    List.map_cons, List.map_append, totalReads_cons, totalReads_append, ← Nat.add_assoc]
  exact ⟨rfl, rfl⟩

theorem drawAndStoreForAreas_eq (areas : List Area) (place : Nat) :
    ((drawAndStoreForAreas study nbByMode areas
        (areas.map fun area => storeTSnumbersForIntraModal study draws area (resizedNumbers area))
        (fromPlace words place)).1.flatMap PerSeries.toList) =
      (readings keys place (areas.flatMap (areaUses study nbByMode))).map (chosen greatestWord words) ∧
    (drawAndStoreForAreas study nbByMode areas
        (areas.map fun area => storeTSnumbersForIntraModal study draws area (resizedNumbers area))
        (fromPlace words place)).2 = fromPlace words (place + totalReads (areas.flatMap (areaUses study nbByMode))) := by
  induction areas generalizing place with
  | nil => exact ⟨rfl, rfl⟩
  | cons area areas ih =>
    obtain ⟨numbers, next⟩ := @drawAndStoreForArea_eq study nbByMode words keys draws shared area place
    obtain ⟨others, final⟩ := ih (place + totalReads (areaUses study nbByMode area))
    rw [List.map_cons, drawAndStoreForAreas]
    dsimp only
    rw [next, List.flatMap_cons, List.flatMap_cons, numbers, others, final, readings_append, List.map_append, totalReads_append,
      Nat.add_assoc]
    exact ⟨rfl, rfl⟩

omit shared in
theorem drawForGroups_eq (groups : List Nat) (place : Nat) : drawForGroups groups (fromPlace words place) =
    ((readings keys place (groups.map unlessSingleUse)).map (chosen greatestWord words),
      fromPlace words (place + totalReads (groups.map (unlessSingleUse)))) := by
  induction groups generalizing place with
  | nil => rfl
  | cons columns groups ih =>
    have first := @drawUnlessSingle_from words keys columns place
    rw [drawForGroups]
    simp only [first, ih, List.map_cons, readings, totalReads_cons, ← Nat.add_assoc]

end

section
variable (study : Study) (nbByMode : TimeSeriesType → Nat)

def yearReads : Nat := (kindReadings study nbByMode).2 + totalReads (yearUses study nbByMode)

def yearReadings : List (Option Reading) :=
  readings (kindReadings study nbByMode).1 (kindReadings study nbByMode).2 (yearUses study nbByMode)

theorem generateYear_eq (words : WordStream) :
    (generateYear study nbByMode words).1.toList = (yearReadings study nbByMode).map (chosen greatestWord words) ∧
      (generateYear study nbByMode words).2 = fromPlace words (yearReads study nbByMode) := by
  obtain ⟨areas, next⟩ := @drawAndStoreForAreas_eq study nbByMode words (kindReadings study nbByMode).1 _ (fun _ => rfl)
    study.areas (kindReadings study nbByMode).2
  unfold generateYear yearReadings yearReads yearUses YearNumbers.toList
  rw [drawTSnumbersForIntraModal_eq]
  dsimp only
  rw [next, areas, @drawForGroups_eq words (kindReadings study nbByMode).1, readings_append, List.map_append,
    totalReads_append, ← Nat.add_assoc]
  exact ⟨rfl, rfl⟩

theorem generateYears_eq (count : Nat) (words : WordStream) :
    (generateYears study nbByMode count words).map YearNumbers.toList =
      (List.range count).map fun year =>
        (yearReadings study nbByMode).map (chosen greatestWord (fromPlace words (year * yearReads study nbByMode))) := by
  induction count generalizing words with
  | zero => rfl
  | succ count ih =>
    obtain ⟨numbers, next⟩ := generateYear_eq study nbByMode words
    rw [generateYears]
    dsimp only
    rw [List.map_cons, numbers, next, ih, List.range_succ_eq_map, List.map_cons, List.map_map, Nat.zero_mul, fromPlace_zero]
    congr 1
    apply List.map_congr_left
    intro year _
    rw [fromPlace_fromPlace, Function.comp_apply, Nat.succ_mul, Nat.add_comm]

end

inductive ClusterKind where
  | thermal
  | renewable
  deriving DecidableEq

/-- A cluster of a study: the place of its area, and its own one in `thermalMapping` or `renewableList`. -/
structure ClusterPlace where
  area : Nat
  kind : ClusterKind
  cluster : Nat

def ClusterKind.type : ClusterKind → TimeSeriesType
  | .thermal => .thermal
  | .renewable => .renewable

variable (kind : ClusterKind)

def ClusterKind.count (area : Area) : Nat :=
  match kind with
  | .thermal => area.thermalMapping.length
  | .renewable => area.renewableList.length

def ClusterKind.toggle (cluster : Nat) (area : Area) : Area :=
  match kind with
  | .thermal => { area with
      thermalMapping := area.thermalMapping.modify cluster fun thermal => { thermal with enabled := !thermal.enabled } }
  | .renewable => { area with
      renewableList := area.renewableList.modify cluster fun renewable => { renewable with enabled := !renewable.enabled } }

variable (study : Study) (place : ClusterPlace)

def toggled : Study :=
  { study with areas := study.areas.modify place.area (place.kind.toggle place.cluster) }

def ClusterKind.forget (cluster : Nat) (numbers : PerSeries Nat) : PerSeries Nat :=
  match kind with
  | .thermal => { numbers with thermal := numbers.thermal.modify cluster fun _ => 0 }
  | .renewable => { numbers with renewable := numbers.renewable.modify cluster fun _ => 0 }

def YearNumbers.forget (place : ClusterPlace) (year : YearNumbers) : YearNumbers :=
  { year with areas := year.areas.modify place.area (place.kind.forget place.cluster) }

def ClusterPlace.InStudy (study : Study) : Prop :=
  ∃ area, study.areas[place.area]? = some area ∧ place.cluster < place.kind.count area

/-- On every stream of words the two studies have the same numbers but for the cluster's own. -/
def UnchangedElsewhere : Prop :=
  ∀ random : WordStream, (∀ position, random position < 2 ^ 32) →
    (generate study random).map (List.map (YearNumbers.forget place)) =
      (generate (toggled study place) random).map (List.map (YearNumbers.forget place))

/-- The place of the cluster among the uses of its area, behind the four series. -/
def ClusterKind.position (thermalClusters cluster : Nat) : Nat :=
  match kind with
  | .thermal => 4 + cluster
  | .renewable => 4 + (thermalClusters + cluster)

def ClusterPlace.position (place : ClusterPlace) (study : Study) (nbByMode : TimeSeriesType → Nat) : Nat :=
  ((study.areas.take place.area).flatMap (areaUses study nbByMode)).length +
    place.kind.position ((study.areas[place.area]?.map (·.thermalMapping.length)).getD 0) place.cluster

/-- No number is chosen among columns after the cluster, nor anywhere else where a year follows. -/
def NothingChosenAfter (nbByMode : TimeSeriesType → Nat) : Prop :=
  let uses := yearUses study nbByMode
  let position := place.position study nbByMode
  (0 < study.parameters.nbYears → ∀ columns, .own columns ∈ uses.drop (position + 1) → columns = 0) ∧
    (1 < study.parameters.nbYears → (∀ columns, .own columns ∈ uses.take position → columns = 0) ∧
      ∀ kind, .shared kind ∈ uses.take position ++ uses.drop (position + 1) →
        ∀ reading, (kindReadings study nbByMode).1 kind = some reading → reading.2 = 0)

def KeepsDraws : Prop :=
  study.parameters.derated = true ∨ checkIntraModalConsistency study = none ∨
    isTSintramodal study place.kind.type = false ∨ NothingChosenAfter study place (nbTimeseriesByMode study)

structure PerSeries.Shaped (area : Area) (numbers : PerSeries Nat) : Prop where
  thermal : numbers.thermal.length = area.thermalMapping.length
  renewable : numbers.renewable.length = area.renewableList.length
  links : numbers.links.length = area.links.length

theorem exists_split {α : Type} {list : List α} {place : Nat} (inside : place < list.length) :
    ∃ front item back, front.length = place ∧ list = front ++ item :: back ∧
      ∀ change : α → α, list.modify place change = front ++ change item :: back := by
  refine ⟨list.take place, list.get ⟨place, inside⟩, list.drop (place + 1), ?_, ?_, fun change => ?_⟩
  · exact List.length_take_of_le inside.le
  · rw [List.get_eq_getElem, ← List.drop_eq_getElem_cons inside, List.take_append_drop]
  · exact List.modify_eq_take_cons_drop inside

section
variable (study : Study) (nbByMode : TimeSeriesType → Nat)

theorem exists_areaUses (kind : ClusterKind) {cluster : Nat} {area : Area} (inside : cluster < kind.count area) :
    ∃ before enabled columns after,
      areaUses study nbByMode area = before ++ clusterUse study kind.type enabled columns :: after ∧
      areaUses study nbByMode (kind.toggle cluster area) = before ++ clusterUse study kind.type (!enabled) columns :: after ∧
      before.length = kind.position area.thermalMapping.length cluster ∧
      ∀ numbers : PerSeries Nat, numbers.Shaped area → ∃ front number back,
        numbers.toList = front ++ number :: back ∧ (kind.forget cluster numbers).toList = front ++ 0 :: back ∧
        front.length = before.length := by
  cases kind with
  | thermal =>
    obtain ⟨front, item, back, length, split, modified⟩ := @exists_split _ area.thermalMapping _ inside
    -- the four series of the area stand before its clusters
    refine ⟨(areaUses study nbByMode area).take 4 ++ front.map (thermalUse study nbByMode), item.enabled,
      nbTimeSeriesOf study nbByMode .thermal item.seriesWidth, back.map (thermalUse study nbByMode) ++
        (area.renewableList.map (renewableUse study) ++ area.links.map (linkUse study)), ?_, ?_, ?_, ?_⟩
    · unfold areaUses
      rw [split, List.map_append, List.map_cons]
      simp [thermalUse, ClusterKind.type]
    · unfold areaUses ClusterKind.toggle
      dsimp only
      rw [modified, List.map_append, List.map_cons]
      simp [thermalUse, ClusterKind.type]
    · rw [List.length_append, List.length_map, length]
      rfl
    · intro numbers shaped
      have within : cluster < numbers.thermal.length := shaped.thermal.symm ▸ inside
      obtain ⟨first, number, last, firstLength, numberSplit, numberModified⟩ := exists_split within
      refine ⟨[numbers.load, numbers.solar, numbers.wind, numbers.hydro] ++ first, number,
        last ++ (numbers.renewable ++ numbers.links), ?_, ?_, ?_⟩
      · unfold PerSeries.toList
        rw [numberSplit]
        simp
      · unfold PerSeries.toList ClusterKind.forget
        dsimp only
        rw [numberModified]
        simp
      · rw [List.length_append, List.length_append, List.length_map, firstLength, length]
        rfl
  | renewable =>
    obtain ⟨front, item, back, length, split, modified⟩ := @exists_split _ area.renewableList _ inside
    refine ⟨(areaUses study nbByMode area).take 4 ++ (area.thermalMapping.map (thermalUse study nbByMode) ++
        front.map (renewableUse study)), item.enabled, item.seriesWidth,
      back.map (renewableUse study) ++ area.links.map (linkUse study), ?_, ?_, ?_, ?_⟩
    · unfold areaUses
      rw [split, List.map_append, List.map_cons]
      simp [renewableUse, ClusterKind.type]
    · unfold areaUses ClusterKind.toggle
      dsimp only
      rw [modified, List.map_append, List.map_cons]
      simp [renewableUse, ClusterKind.type]
    · rw [List.length_append, List.length_append, List.length_map, List.length_map, length]
      rfl
    · intro numbers shaped
      have within : cluster < numbers.renewable.length := shaped.renewable.symm ▸ inside
      obtain ⟨first, number, last, firstLength, numberSplit, numberModified⟩ := exists_split within
      refine ⟨[numbers.load, numbers.solar, numbers.wind, numbers.hydro] ++ (numbers.thermal ++ first), number,
        last ++ numbers.links, ?_, ?_, ?_⟩
      · unfold PerSeries.toList
        rw [numberSplit]
        simp
      · unfold PerSeries.toList ClusterKind.forget
        dsimp only
        rw [numberModified]
        simp
      · rw [List.length_append, List.length_append, List.length_append, List.length_append, List.length_map, List.length_map,
          firstLength, length, shaped.thermal]
        rfl

omit study nbByMode in
theorem PerSeries.Shaped.length_eq {area : Area} {numbers : PerSeries Nat} (shaped : numbers.Shaped area) :
    numbers.toList.length = 4 + (area.thermalMapping.length + (area.renewableList.length + area.links.length)) := by
  unfold toList
  simp only [List.length_append, shaped.thermal, shaped.renewable, shaped.links]
  rfl

theorem length_areaUses {area : Area} {numbers : PerSeries Nat} (shaped : numbers.Shaped area) :
    numbers.toList.length = (areaUses study nbByMode area).length := by
  rw [shaped.length_eq]
  unfold areaUses
  simp only [List.length_append, List.length_map]
  rfl

theorem length_areasUses {areas : List Area} {numbers : List (PerSeries Nat)}
    (shaped : List.Forall₂ (fun area (each : PerSeries Nat) => each.Shaped area) areas numbers) :
    (numbers.flatMap PerSeries.toList).length = (areas.flatMap (areaUses study nbByMode)).length := by
  induction shaped with
  | nil => rfl
  | cons first _ ih => rw [List.flatMap_cons, List.flatMap_cons, List.length_append, List.length_append,
      length_areaUses study nbByMode first, ih]

theorem exists_yearUses {place : ClusterPlace} (inStudy : place.InStudy study) :
    ∃ before enabled columns after,
      yearUses study nbByMode = before ++ clusterUse study place.kind.type enabled columns :: after ∧
      yearUses (toggled study place) nbByMode = before ++ clusterUse study place.kind.type (!enabled) columns :: after ∧
      before.length = place.position study nbByMode ∧
      ∀ year : YearNumbers, List.Forall₂ (fun area (each : PerSeries Nat) => each.Shaped area) study.areas year.areas →
        ∃ front number back, year.toList = front ++ number :: back ∧ (year.forget place).toList = front ++ 0 :: back ∧
          front.length = before.length := by
  obtain ⟨area, found, inside⟩ := inStudy
  obtain ⟨before, enabled, columns, after, uses, toggledUses, length, numbersOf⟩ :=
    exists_areaUses study nbByMode place.kind inside
  obtain ⟨within, same⟩ := List.getElem?_eq_some_iff.mp found
  obtain ⟨front, middle, back, frontLength, split, modified⟩ := exists_split within
  -- the area is split off first, the cluster within it
  have areaAt : study.areas[place.area]? = some middle := by
    rw [split, ← frontLength]
    exact List.getElem?_append_right le_rfl |>.trans (by simp)
  obtain rfl : area = middle := Option.some.inj (found.symm.trans areaAt)
  refine ⟨front.flatMap (areaUses study nbByMode) ++ before, enabled, columns,
    after ++ (back.flatMap (areaUses study nbByMode) ++ study.groups.map unlessSingleUse), ?_, ?_, ?_, ?_⟩
  · unfold yearUses
    rw [split, List.flatMap_append, List.flatMap_cons, uses]
    simp
  · have areas : (toggled study place).areas = front ++ place.kind.toggle place.cluster area :: back := modified _
    have same : areaUses (toggled study place) nbByMode = areaUses study nbByMode := rfl
    unfold yearUses
    rw [areas, same, List.flatMap_append, List.flatMap_cons, toggledUses]
    simp [toggled]
  · unfold ClusterPlace.position
    rw [areaAt, List.length_append, length, split, List.take_left' frontLength]
    rfl
  · intro year shaped
    have withinYear : place.area < year.areas.length := shaped.length_eq ▸ within
    obtain ⟨first, middleNumbers, last, firstLength, yearSplit, yearModified⟩ := exists_split withinYear
    rw [split, yearSplit] at shaped
    have fronts := List.forall₂_take place.area shaped
    have backs := List.forall₂_drop place.area shaped
    rw [List.take_left' frontLength, List.take_left' firstLength] at fronts
    rw [List.drop_left' frontLength, List.drop_left' firstLength, List.forall₂_cons] at backs
    obtain ⟨beforeNumbers, number, afterNumbers, list, forgotten, lengths⟩ := numbersOf middleNumbers backs.1
    refine ⟨first.flatMap PerSeries.toList ++ beforeNumbers, number,
      afterNumbers ++ (last.flatMap PerSeries.toList ++ year.groups), ?_, ?_, ?_⟩
    · unfold YearNumbers.toList
      rw [yearSplit, List.flatMap_append, List.flatMap_cons, list]
      simp
    · unfold YearNumbers.toList YearNumbers.forget
      dsimp only
      rw [yearModified, List.flatMap_append, List.flatMap_cons, forgotten]
      simp
    · rw [List.length_append, List.length_append, length_areasUses study nbByMode fronts, lengths]

end

theorem PerSeries.toList_inj {area : Area} {left right : PerSeries Nat} (first : left.Shaped area) (second : right.Shaped area)
    (same : left.toList = right.toList) : left = right := by
  obtain ⟨heads, rest⟩ := List.append_inj same rfl
  obtain ⟨thermal, rest⟩ := List.append_inj rest (first.thermal.trans second.thermal.symm)
  obtain ⟨renewable, links⟩ := List.append_inj rest (first.renewable.trans second.renewable.symm)
  simp only [List.cons.injEq, and_true] at heads
  obtain ⟨load, solar, wind, hydro⟩ := heads
  cases left
  cases right
  simp_all

theorem YearNumbers.toList_inj {areas : List Area} {left right : YearNumbers}
    (first : List.Forall₂ (fun area (each : PerSeries Nat) => each.Shaped area) areas left.areas)
    (second : List.Forall₂ (fun area (each : PerSeries Nat) => each.Shaped area) areas right.areas)
    (same : left.toList = right.toList) : left = right := by
  obtain ⟨leftAreas, leftGroups⟩ := left
  obtain ⟨rightAreas, rightGroups⟩ := right
  unfold YearNumbers.toList at same
  dsimp only at first second same
  induction first generalizing rightAreas with
  | nil =>
    cases second
    exact congrArg _ same
  | cons shaped _ ih =>
    cases second with
    | cons otherShaped others =>
      rw [List.flatMap_cons, List.flatMap_cons, List.append_assoc, List.append_assoc] at same
      obtain ⟨numbers, rest⟩ := List.append_inj same (shaped.length_eq.trans otherShaped.length_eq.symm)
      have tail := ih _ others rest
      rw [YearNumbers.mk.injEq] at tail ⊢
      exact ⟨congrArg₂ List.cons (PerSeries.toList_inj shaped otherShaped numbers) tail.1, tail.2⟩

theorem ClusterKind.forget_shaped (kind : ClusterKind) (cluster : Nat) {area : Area} {numbers : PerSeries Nat}
    (shaped : numbers.Shaped area) : (kind.forget cluster numbers).Shaped area := by
  cases kind with
  | thermal => exact ⟨(List.length_modify _ _ _).trans shaped.thermal, shaped.renewable, shaped.links⟩
  | renewable => exact ⟨shaped.thermal, (List.length_modify _ _ _).trans shaped.renewable, shaped.links⟩

theorem YearNumbers.forget_shaped {areas : List Area} {year : YearNumbers} (place : ClusterPlace)
    (shaped : List.Forall₂ (fun area (each : PerSeries Nat) => each.Shaped area) areas year.areas) :
    List.Forall₂ (fun area (each : PerSeries Nat) => each.Shaped area) areas (year.forget place).areas := by
  unfold forget
  dsimp only
  generalize place.area = index
  generalize year.areas = listed at shaped
  induction shaped generalizing index with
  | nil =>
    rw [List.modify_nil]
    exact .nil
  | cons first rest ih =>
    cases index with
    | zero => exact .cons (place.kind.forget_shaped place.cluster first) rest
    | succ index => exact .cons first (ih index)

theorem Aligned.length_eq {α β : Type} {related : α → β → Prop} {flags : List Bool} {lefts : List α} {rights : List β}
    (aligned : Aligned related flags lefts rights) : lefts.length = flags.length := by
  induction aligned with
  | nil => rfl
  | cons _ _ ih => exact congrArg Nat.succ ih

section
variable (study : Study) (nbByMode : TimeSeriesType → Nat)

theorem generateYears_shaped {count : Nat} {words : WordStream} {year : YearNumbers}
    (listed : year ∈ generateYears study nbByMode count words) :
    List.Forall₂ (fun area (each : PerSeries Nat) => each.Shaped area) study.areas year.areas := by
  have related := @generateYears_spec (fun _ => True) words study nbByMode count (fun _ => trivial) year listed
  apply List.Forall₂.imp _ related
  intro area numbers drawn
  exact
    { thermal := drawn.thermal.length_eq.trans (List.length_map _)
      renewable := drawn.renewable.length_eq.trans (List.length_map _)
      links := drawn.links.length_eq.trans (List.length_map _) }

theorem toggled_shaped {areas : List Area} {numbers : List (PerSeries Nat)} (place : ClusterPlace)
    (shaped : List.Forall₂ (fun area (each : PerSeries Nat) => each.Shaped area)
      (areas.modify place.area (place.kind.toggle place.cluster)) numbers) :
    List.Forall₂ (fun area (each : PerSeries Nat) => each.Shaped area) areas numbers := by
  generalize place.area = index at shaped
  induction areas generalizing index numbers with
  | nil => rwa [List.modify_nil] at shaped
  | cons area areas ih =>
    cases index with
    | zero =>
      rw [List.modify_zero_cons] at shaped
      cases shaped with
      | cons first rest =>
        refine .cons ?_ rest
        cases same : place.kind with
        | thermal =>
          rw [same] at first
          exact ⟨first.thermal.trans (List.length_modify _ _ _), first.renewable, first.links⟩
        | renewable =>
          rw [same] at first
          exact ⟨first.thermal, first.renewable.trans (List.length_modify _ _ _), first.links⟩
    | succ index =>
      rw [List.modify_succ_cons] at shaped
      cases shaped with
      | cons first rest => exact .cons first (ih index rest)

end

section
variable {study : Study} {nbByMode : TimeSeriesType → Nat} {place : ClusterPlace} {before after : List NumberUse}
  {use otherUse : NumberUse}

theorem numbers_around {words : WordStream} {count : Nat} {year : YearNumbers} {index : Nat}
    (uses : yearUses study nbByMode = before ++ use :: after)
    (found : (generateYears study nbByMode count words)[index]? = some year) {front back : List Nat} {number : Nat}
    (split : year.toList = front ++ number :: back) (length : front.length = before.length) :
    front = (readings (kindReadings study nbByMode).1 (kindReadings study nbByMode).2 before).map
        (chosen greatestWord (fromPlace words (index * yearReads study nbByMode))) ∧
      back = (readings (kindReadings study nbByMode).1
          ((kindReadings study nbByMode).2 + totalReads before + use.reads) after).map
        (chosen greatestWord (fromPlace words (index * yearReads study nbByMode))) := by
  have inside : index < count := by
    have below := (List.getElem?_eq_some_iff.mp found).choose
    rwa [generateYears_length] at below
  have lists := congrArg (·[index]?) (generateYears_eq study nbByMode count words)
  simp only [List.getElem?_map, found, List.getElem?_range inside, Option.map_some, Option.some.injEq] at lists
  rw [split, yearReadings, uses, readings_append, readings, List.map_append, List.map_cons] at lists
  have lengths : front.length = ((readings (kindReadings study nbByMode).1 (kindReadings study nbByMode).2 before).map
      (chosen greatestWord (fromPlace words (index * yearReads study nbByMode)))).length := by
    rw [List.length_map, length_readings, length]
  obtain ⟨fronts, rest⟩ := List.append_inj lists lengths
  exact ⟨fronts, (List.cons.inj rest).2⟩

theorem forget_eq_iff {areas : List Area} {year otherYear : YearNumbers}
    (shaped : List.Forall₂ (fun area (each : PerSeries Nat) => each.Shaped area) areas year.areas)
    (otherShaped : List.Forall₂ (fun area (each : PerSeries Nat) => each.Shaped area) areas otherYear.areas)
    {front otherFront back otherBack : List Nat} (lengths : front.length = otherFront.length)
    (forgotten : (year.forget place).toList = front ++ 0 :: back)
    (otherForgotten : (otherYear.forget place).toList = otherFront ++ 0 :: otherBack) :
    year.forget place = otherYear.forget place ↔ front = otherFront ∧ back = otherBack := by
  constructor
  · intro same
    have lists := congrArg YearNumbers.toList same
    rw [forgotten, otherForgotten] at lists
    obtain ⟨fronts, rest⟩ := List.append_inj lists lengths
    exact ⟨fronts, (List.cons.inj rest).2⟩
  · intro ⟨fronts, backs⟩
    apply YearNumbers.toList_inj (YearNumbers.forget_shaped place shaped) (YearNumbers.forget_shaped place otherShaped)
    rw [forgotten, otherForgotten, fronts, backs]

/-- On these words a year of one study and one of the other have the same numbers around the cluster. -/
def AgreeAround (study : Study) (nbByMode : TimeSeriesType → Nat) (before after : List NumberUse)
    (reads otherReads base otherBase : Nat) (words : WordStream) : Prop :=
  (readings (kindReadings study nbByMode).1 (kindReadings study nbByMode).2 before).map
      (chosen greatestWord (fromPlace words base)) =
    (readings (kindReadings study nbByMode).1 (kindReadings study nbByMode).2 before).map
      (chosen greatestWord (fromPlace words otherBase)) ∧
  (readings (kindReadings study nbByMode).1 ((kindReadings study nbByMode).2 + totalReads before + reads) after).map
      (chosen greatestWord (fromPlace words base)) =
    (readings (kindReadings study nbByMode).1 ((kindReadings study nbByMode).2 + totalReads before + otherReads) after).map
      (chosen greatestWord (fromPlace words otherBase))

theorem forget_years_iff (count : Nat) (words : WordStream)
    (uses : yearUses study nbByMode = before ++ use :: after)
    (otherUses : yearUses (toggled study place) nbByMode = before ++ otherUse :: after)
    (numbersOf : ∀ year : YearNumbers, List.Forall₂ (fun area (each : PerSeries Nat) => each.Shaped area) study.areas year.areas →
      ∃ front number back, year.toList = front ++ number :: back ∧ (year.forget place).toList = front ++ 0 :: back ∧
        front.length = before.length) :
    (generateYears study nbByMode count words).map (YearNumbers.forget place) =
        (generateYears (toggled study place) nbByMode count words).map (YearNumbers.forget place) ↔
      ∀ index < count, AgreeAround study nbByMode before after use.reads otherUse.reads
        (index * yearReads study nbByMode) (index * yearReads (toggled study place) nbByMode) words := by
  have length := generateYears_length study nbByMode count words
  have otherLength := generateYears_length (toggled study place) nbByMode count words
  have each (index : Nat) (inside : index < count) :
      ((generateYears study nbByMode count words).map (YearNumbers.forget place))[index]? =
          ((generateYears (toggled study place) nbByMode count words).map (YearNumbers.forget place))[index]? ↔
        AgreeAround study nbByMode before after use.reads otherUse.reads
          (index * yearReads study nbByMode) (index * yearReads (toggled study place) nbByMode) words := by
    obtain ⟨year, found⟩ : ∃ year, (generateYears study nbByMode count words)[index]? = some year :=
      ⟨_, List.getElem?_eq_getElem (by omega)⟩
    obtain ⟨otherYear, otherFound⟩ : ∃ year, (generateYears (toggled study place) nbByMode count words)[index]? = some year :=
      ⟨_, List.getElem?_eq_getElem (by omega)⟩
    have shaped := generateYears_shaped study nbByMode (List.mem_of_getElem? found)
    have otherShaped := toggled_shaped place
      (generateYears_shaped (toggled study place) nbByMode (List.mem_of_getElem? otherFound))
    obtain ⟨front, number, back, split, forgotten, frontLength⟩ := numbersOf year shaped
    obtain ⟨otherFront, otherNumber, otherBack, otherSplit, otherForgotten, otherFrontLength⟩ := numbersOf otherYear otherShaped
    obtain ⟨fronts, backs⟩ := numbers_around uses found split frontLength
    obtain ⟨otherFronts, otherBacks⟩ := numbers_around otherUses otherFound otherSplit otherFrontLength
    rw [List.getElem?_map, List.getElem?_map, found, otherFound, Option.map_some, Option.map_some, Option.some.injEq,
      forget_eq_iff shaped otherShaped (frontLength.trans otherFrontLength.symm) forgotten otherForgotten, fronts, backs,
      otherFronts, otherBacks]
    exact Iff.rfl
  constructor
  · intro same index inside
    exact (each index inside).mp (congrArg (·[index]?) same)
  · intro agree
    apply List.ext_getElem?
    intro index
    by_cases inside : index < count
    · exact (each index inside).mpr (agree index inside)
    · rw [List.getElem?_eq_none (by rw [List.length_map]; omega), List.getElem?_eq_none (by rw [List.length_map]; omega)]

theorem agreeAround_iff (reads otherReads base otherBase : Nat) :
    (∀ words : WordStream, (∀ position, words position < 2 ^ 32) →
      AgreeAround study nbByMode before after reads otherReads base otherBase words) ↔
      (∀ use ∈ before, use.AgreesAt (kindReadings study nbByMode).1 base 0 otherBase 0) ∧
      ∀ use ∈ after, use.AgreesAt (kindReadings study nbByMode).1 base reads otherBase otherReads := by
  have positive : 0 < greatestWord := by decide
  have bounded (words : WordStream) : (∀ position, words position < 2 ^ 32) ↔ ∀ position, words position ≤ greatestWord := by
    unfold greatestWord
    exact forall_congr' fun position => by omega
  unfold AgreeAround
  simp only [bounded, imp_and, forall_and]
  rw [readings_agree_iff positive, readings_agree_iff positive]
  have front (use : NumberUse) := @StreamUse.agreesAt_shift _ (kindReadings study nbByMode).1 base 0 otherBase 0
    (kindReadings study nbByMode).2 use
  have back (use : NumberUse) := @StreamUse.agreesAt_shift _ (kindReadings study nbByMode).1 base reads otherBase otherReads
    ((kindReadings study nbByMode).2 + totalReads before) use
  simp only [Nat.zero_add] at front
  simp only [front, Nat.add_comm _ reads, Nat.add_comm _ otherReads, back]

theorem forget_years_all_iff (count : Nat)
    (uses : yearUses study nbByMode = before ++ use :: after)
    (otherUses : yearUses (toggled study place) nbByMode = before ++ otherUse :: after)
    (numbersOf : ∀ year : YearNumbers, List.Forall₂ (fun area (each : PerSeries Nat) => each.Shaped area) study.areas year.areas →
      ∃ front number back, year.toList = front ++ number :: back ∧ (year.forget place).toList = front ++ 0 :: back ∧
        front.length = before.length) :
    (∀ words : WordStream, (∀ position, words position < 2 ^ 32) →
      (generateYears study nbByMode count words).map (YearNumbers.forget place) =
        (generateYears (toggled study place) nbByMode count words).map (YearNumbers.forget place)) ↔
      ∀ index < count,
        (∀ each ∈ before, each.AgreesAt (kindReadings study nbByMode).1 (index * yearReads study nbByMode) 0
          (index * yearReads (toggled study place) nbByMode) 0) ∧
        ∀ each ∈ after, each.AgreesAt (kindReadings study nbByMode).1 (index * yearReads study nbByMode) use.reads
          (index * yearReads (toggled study place) nbByMode) otherUse.reads := by
  simp only [fun words => forget_years_iff count words uses otherUses numbersOf, ← agreeAround_iff]
  exact ⟨fun all index inside words bounded => all words bounded index inside,
    fun all words bounded index inside => all index inside words bounded⟩

theorem yearReads_eq (uses : yearUses study nbByMode = before ++ use :: after) :
    yearReads study nbByMode =
      (kindReadings study nbByMode).2 + totalReads before + totalReads after + use.reads := by
  unfold yearReads
  rw [uses, totalReads_append, totalReads_cons]
  omega

theorem generateDeratedMode_toggled (study : Study) (place : ClusterPlace) :
    generateDeratedMode (toggled study place) = generateDeratedMode study := by
  have area (area : Area) : resizedNumbers (place.kind.toggle place.cluster area) = resizedNumbers area := by
    cases place.kind with
    | thermal => simp [ClusterKind.toggle, resizedNumbers]
    | renewable => simp [ClusterKind.toggle, resizedNumbers]
  have areas : (toggled study place).areas.map resizedNumbers = study.areas.map resizedNumbers := by
    apply List.ext_getElem?
    intro index
    rw [List.getElem?_map, List.getElem?_map, toggled, List.getElem?_modify]
    cases study.areas[index]? with
    | none => rfl
    | some other =>
      apply congrArg some
      split_ifs
      · exact area other
      · rfl
  unfold generateDeratedMode
  rw [areas]
  rfl

end

section
variable {study : Study} {place : ClusterPlace}

theorem clusterUse_reads (kind : TimeSeriesType) (enabled : Bool) (columns : Nat) :
    (clusterUse study kind enabled columns).reads = if isTSintramodal study kind && enabled then 0 else 1 := by
  unfold clusterUse seriesUse
  cases enabled with
  | true => cases isTSintramodal study kind <;> rfl
  | false => rw [Bool.and_false]; rfl

theorem later_places {rest reads otherReads : Nat} (apart : reads = 0 ∧ otherReads = 1 ∨ reads = 1 ∧ otherReads = 0)
    (index : Nat) : (index * (rest + reads) = index * (rest + otherReads) ↔ index = 0) ∧
      index * (rest + reads) + reads ≠ index * (rest + otherReads) + otherReads := by
  rcases apart with ⟨rfl, rfl⟩ | ⟨rfl, rfl⟩
  · rw [Nat.mul_add, Nat.mul_add]
    omega
  · rw [Nat.mul_add, Nat.mul_add]
    omega

theorem agree_apart_iff {keys : TimeSeriesType → Option Reading} {rest reads otherReads : Nat}
    (apart : reads = 0 ∧ otherReads = 1 ∨ reads = 1 ∧ otherReads = 0) (count : Nat) (before after : List NumberUse) :
    (∀ index < count,
      (∀ each ∈ before, each.AgreesAt keys (index * (rest + reads)) 0 (index * (rest + otherReads)) 0) ∧
        ∀ each ∈ after, each.AgreesAt keys (index * (rest + reads)) reads (index * (rest + otherReads)) otherReads) ↔
      (0 < count → ∀ columns, .own columns ∈ after → columns = 0) ∧
        (1 < count → (∀ columns, .own columns ∈ before → columns = 0) ∧
          ∀ kind, .shared kind ∈ before ++ after → ∀ reading, keys kind = some reading → reading.2 = 0) := by
  simp only [forall_agreesAt_iff, Nat.add_zero, fun index => (@later_places rest _ _ apart index).1,
    fun index => (@later_places rest _ _ apart index).2, or_false, List.mem_append]
  constructor
  · intro agree
    refine ⟨fun some_year => (agree 0 some_year).2.1, fun more => ?_⟩
    obtain ⟨⟨owns, shares⟩, _, laterShares⟩ := agree 1 more
    refine ⟨fun columns listed => (owns columns listed).resolve_right Nat.one_ne_zero, fun kind listed reading found => ?_⟩
    rcases listed with listed | listed
    · exact (shares kind listed reading found).resolve_right Nat.one_ne_zero
    · exact (laterShares kind listed reading found).resolve_right Nat.one_ne_zero
  · intro ⟨laterOwns, more⟩ index inside
    rcases Nat.eq_zero_or_pos index with rfl | positive
    · exact ⟨⟨fun _ _ => .inr rfl, fun _ _ _ _ => .inr rfl⟩, laterOwns inside, fun _ _ _ _ => .inr rfl⟩
    · obtain ⟨owns, shares⟩ := more (by omega)
      exact ⟨⟨fun columns listed => .inl (owns columns listed), fun kind listed reading found =>
          .inl (shares kind (.inl listed) reading found)⟩, laterOwns (by omega), fun kind listed reading found =>
          .inl (shares kind (.inr listed) reading found)⟩

end

/-- Thermal series are intra-modal, one cluster stands before an area with two load series. -/
def intraModalStudy : Study where
  parameters := { followedLoadStudy.parameters with
    intraModal := (· = .thermal)
    interModal := fun _ => false }
  areas :=
    [{ loadWidth := 1, solarWidth := 1, windWidth := 1, hydroWidth := 1
       thermalMapping :=
         [{ enabled := true, mustrun := false, tsGenBehavior := .useGlobalParameter, hasPrepro := false
            unitCount := 1, nominalCapacity := 100, seriesWidth := 1 }]
       renewableList := [], links := [] },
     { loadWidth := 2, solarWidth := 1, windWidth := 1, hydroWidth := 1
       thermalMapping := [], renewableList := [], links := [] }]
  groups := []

def firstCluster : ClusterPlace where
  area := 0
  kind := .thermal
  cluster := 0

theorem intraModalStudy_inStudy : firstCluster.InStudy intraModalStudy := ⟨_, rfl, by decide⟩

theorem intraModalStudy_check :
    checkIntraModalConsistency (toggled intraModalStudy firstCluster) = checkIntraModalConsistency intraModalStudy := by
  rw [checkIntraModalConsistency_eq _ (by decide), checkIntraModalConsistency_eq _ (by decide)]
  apply congrArg some
  funext kind
  cases kind <;> rfl

end Antares.Solver
