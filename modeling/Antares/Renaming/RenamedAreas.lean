import Antares.Data.Names
import Antares.Library.KeyedMaps

/-! The list of areas in memory: a map from identifiers to areas, each with a map to its links, and the
renaming of an area in it. Areas and links are known by their addresses. Each area that has a link to the
renamed one is visited once, and the failure for a taken identifier replaces the other area.
-/

set_option autoImplicit false

namespace Antares.Renaming

open Library Data

structure Area where
  id : Text
  name : Text
  /-- The addresses of the links from the area, by the other end. -/
  links : List (Text × Nat)
  deriving DecidableEq

structure AreaLink where
  from' : Nat
  with' : Nat
  indexForArea : Nat
  deriving DecidableEq

structure AreaList where
  areas : List (Text × Nat)
  area : Nat → Area
  link : Nat → AreaLink

namespace AreaList

variable (list : AreaList)

def updateArea (address : Nat) (update : Area → Area) : AreaList :=
  { list with area := Function.update list.area address (update (list.area address)) }

def setIndexForArea (link index : Nat) : AreaList :=
  { list with link := Function.update list.link link { list.link link with indexForArea := index } }

def detachLinkFromItsPointer (area lnk : Nat) : AreaList :=
  list.updateArea area fun area => { area with links := area.links.eraseP fun entry => entry.2 = lnk }

def detach (link : Nat) : AreaList := list.detachLinkFromItsPointer (list.link link).from' link

def buildLinksIndexes (area : Nat) : AreaList :=
  (list.area area).links.zipIdx.foldl (fun list entry => list.setIndexForArea entry.1.2 entry.2) list

/-- The link of an area to the one with the old identifier goes under the new one. -/
def renameEntry (oldid : Text) (area : Nat) : AreaList :=
  match KeyedMap.lookup (list.area area).links oldid with
  | none => list
  | some link =>
    let withId := (list.area (list.link link).with').id
    (list.detach link).updateArea area fun area => { area with links := KeyedMap.assign area.links withId link }

def renameArea (oldid newid newName : Text) : AreaList × Bool :=
  if oldid = [] ∨ newName = [] ∨ newid = [] ∨ list.areas = [] then (list, false)
  else if '*' ∈ newName then (list, false)
  else
    match KeyedMap.lookup list.areas oldid with
    | none => (list, false)
    | some area =>
      let detached := { list with areas := KeyedMap.erase list.areas oldid }
      match KeyedMap.lookup detached.areas newid with
      -- the other area is replaced in the list
      | some _ => ({ detached with areas := KeyedMap.assign detached.areas newid area }, false)
      | none =>
        let named := detached.updateArea area fun area => { area with id := newid, name := newName }
        let attached := { named with areas := KeyedMap.assign named.areas newid area }
        let renamed := (attached.areas.map Prod.snd).foldl (fun list address => list.renameEntry oldid address) attached
        (renamed.buildLinksIndexes area, true)

end AreaList

/-- A list as it is loaded: the key of an area is its identifier, and each area has the links from it
under the identifiers of their other ends, with their ranks.
-/
structure LoadedAreas extends AreaList where
  sorted : KeyedMap.Sorted areas
  keys : ∀ entry ∈ areas, (area entry.2).id = entry.1
  linksSorted : ∀ entry ∈ areas, KeyedMap.Sorted (area entry.2).links
  origins : ∀ entry ∈ areas, ∀ link ∈ (area entry.2).links, (toAreaList.link link.2).from' = entry.2
  ends : ∀ entry ∈ areas, ∀ link ∈ (area entry.2).links,
    (toAreaList.link link.2).with' ≠ entry.2 ∧ (link.1, (toAreaList.link link.2).with') ∈ areas
  ranks : ∀ entry ∈ areas, KeyedMap.Ranked (area entry.2).links fun link => (toAreaList.link link).indexForArea

namespace LoadedAreas

variable (list : LoadedAreas)

/-- What a renaming leaves of the map, of the links from and towards the area, and of their indexes. -/
structure Renamed (oldid newid : Text) (after : AreaList) (status : Bool) : Prop where
  refused : status = false → after.areas = list.areas
  areas : status = true → ∃ area, (oldid, area) ∈ list.areas ∧
    ∀ entry, entry ∈ after.areas ↔ entry = (newid, area) ∨ entry ∈ list.areas ∧ entry.1 ≠ oldid
  links : status = true → ∀ area, (oldid, area) ∈ list.areas → ∀ entry ∈ list.areas, ∀ link ∈ (list.area entry.2).links,
    entry.2 = area ∨ (list.link link.2).with' = area →
      (after.link link.2).from' = entry.2 ∧ (after.area entry.2).links.filter (fun stored => stored.2 = link.2) =
        [((after.area (after.link link.2).with').id, link.2)]
  ranks : status = true → ∀ entry ∈ list.areas, (after.area entry.2).links ≠ (list.area entry.2).links →
    KeyedMap.Ranked (after.area entry.2).links fun link => (after.link link).indexForArea

/-- The renaming is not refused for its texts or for an unknown area. -/
def Proceeds (oldid newid newName : Text) : Prop :=
  oldid ≠ [] ∧ newName ≠ [] ∧ newid ≠ [] ∧ '*' ∉ newName ∧ oldid ∈ list.areas.map Prod.fst

/-- No other area has the new identifier, and no area has a link to the renamed one with another link
between the old and the new identifier.
-/
structure KeepsOrder (oldid newid : Text) : Prop where
  free : newid ≠ oldid → newid ∉ list.areas.map Prod.fst
  between : ∀ entry ∈ list.areas, oldid ∈ (list.area entry.2).links.map Prod.fst →
    ∀ link ∈ (list.area entry.2).links, link.1 ≠ oldid → (oldid < link.1 ↔ newid < link.1)

end LoadedAreas

namespace AreaList

/-- An area once its link to the renamed one is under the new identifier. -/
def rekeyed (list : AreaList) (oldid : Text) (address : Nat) : Area :=
  match KeyedMap.lookup (list.area address).links oldid with
  | none => list.area address
  | some link =>
    { list.area address with
      links := KeyedMap.assign ((list.area address).links.eraseP fun entry => entry.2 = link)
        (list.area (list.link link).with').id link }

variable {list : AreaList} {oldid : Text} {address : Nat}

theorem rekeyed_id : (list.rekeyed oldid address).id = (list.area address).id := by
  unfold rekeyed
  split <;> rfl

theorem rekeyed_name : (list.rekeyed oldid address).name = (list.area address).name := by
  unfold rekeyed
  split <;> rfl

theorem renameEntry_eq (owned : ∀ link, KeyedMap.lookup (list.area address).links oldid = some link →
    (list.link link).from' = address) :
    list.renameEntry oldid address =
      { list with area := Function.update list.area address (list.rekeyed oldid address) } := by
  unfold renameEntry rekeyed
  cases found : KeyedMap.lookup (list.area address).links oldid with
  | none => simp
  | some link => simp [detach, detachLinkFromItsPointer, updateArea, owned link found]

theorem foldl_renameEntry {addresses : List Nat} (distinct : addresses.Nodup) {start : AreaList}
    (links : start.link = list.link) (ids : ∀ address, (start.area address).id = (list.area address).id)
    (untouched : ∀ address ∈ addresses, start.area address = list.area address)
    (owned : ∀ address ∈ addresses, ∀ link, KeyedMap.lookup (list.area address).links oldid = some link →
      (list.link link).from' = address) :
    addresses.foldl (fun list address => list.renameEntry oldid address) start =
      { start with area := fun address => if address ∈ addresses then list.rekeyed oldid address else start.area address } := by
  induction addresses generalizing start with
  | nil => simp
  | cons first rest later =>
    obtain ⟨notLater, distinct⟩ := List.nodup_cons.mp distinct
    have here : start.area first = list.area first := untouched first List.mem_cons_self
    have entry : start.rekeyed oldid first = list.rekeyed oldid first := by
      unfold rekeyed
      rw [here, links]
      cases KeyedMap.lookup (list.area first).links oldid with
      | none => rfl
      | some link => simp only [ids]
    have step : start.renameEntry oldid first =
        { start with area := Function.update start.area first (list.rekeyed oldid first) } := by
      rw [← entry]
      refine renameEntry_eq fun link found => ?_
      rw [links]
      exact owned first List.mem_cons_self link (here ▸ found)
    rw [List.foldl_cons, step, later distinct]
    · congr 1
      funext address
      by_cases now : address = first
      · subst now
        simp [notLater]
      · simp [now]
    · exact links
    · intro address
      by_cases now : address = first
      · subst now
        simp [rekeyed_id]
      · simp [now, ids]
    · intro address member
      have other : address ≠ first := fun same => notLater (same ▸ member)
      simp [other, untouched address (List.mem_cons_of_mem _ member)]
    · exact fun address member => owned address (List.mem_cons_of_mem _ member)

theorem buildLinksIndexes_eq_self
    (ranks : KeyedMap.Ranked (list.area address).links fun link => (list.link link).indexForArea) : list.buildLinksIndexes address = list := by
  have same (entries : List ((Text × Nat) × Nat)) (each : ∀ entry ∈ entries, (list.link entry.1.2).indexForArea = entry.2) :
      entries.foldl (fun list entry => list.setIndexForArea entry.1.2 entry.2) list = list := by
    induction entries with
    | nil => rfl
    | cons entry entries later =>
      have kept : list.setIndexForArea entry.1.2 entry.2 = list := by
        unfold setIndexForArea
        rw [← each entry List.mem_cons_self]
        simp
      rw [List.foldl_cons, kept]
      exact later fun other member => each other (List.mem_cons_of_mem _ member)
  exact same _ fun entry member => ranks entry.2 entry.1 (List.mem_zipIdx_iff_getElem?.mp member)

end AreaList

namespace LoadedAreas

variable {list : LoadedAreas} {oldid newid newName : Text} {area : Nat}

theorem eq_of_address {first second : Text × Nat} (inFirst : first ∈ list.areas) (inSecond : second ∈ list.areas)
    (same : first.2 = second.2) : first = second :=
  Prod.ext ((list.keys first inFirst).symm.trans (same ▸ list.keys second inSecond)) same

theorem with_eq (known : (oldid, area) ∈ list.areas) {entry : Text × Nat} (member : entry ∈ list.areas) {link : Nat}
    (stored : (oldid, link) ∈ (list.area entry.2).links) : (list.link link).with' = area :=
  congrArg Prod.snd (list.sorted.eq_of_mem (list.ends entry member _ stored).2 known rfl)

theorem lookup_self (known : (oldid, area) ∈ list.areas) : KeyedMap.lookup (list.area area).links oldid = none := by
  rw [KeyedMap.lookup_eq_none_iff]
  intro member
  obtain ⟨⟨key, link⟩, stored, rfl⟩ := List.mem_map.mp member
  exact (list.ends _ known _ stored).1 (with_eq known known stored)

theorem link_key_iff (known : (oldid, area) ∈ list.areas) {entry : Text × Nat} (member : entry ∈ list.areas) {link : Nat}
    (stored : (oldid, link) ∈ (list.area entry.2).links) {other : Text × Nat} (inLinks : other ∈ (list.area entry.2).links) :
    other.2 = link ↔ other.1 = oldid := by
  constructor
  · rintro rfl
    have there := (list.ends entry member other inLinks).2
    rw [with_eq known member stored] at there
    exact congrArg Prod.fst (list.eq_of_address there known rfl)
  · intro same
    exact congrArg Prod.snd ((list.linksSorted entry member).eq_of_mem inLinks stored same)

def linksAfter (list : LoadedAreas) (oldid newid : Text) (address : Nat) : List (Text × Nat) :=
  match KeyedMap.lookup (list.area address).links oldid with
  | none => (list.area address).links
  | some link => KeyedMap.rekey (list.area address).links oldid newid link

structure Success (list : LoadedAreas) (oldid newid newName : Text) (area : Nat) (after : AreaList) : Prop where
  areas : after.areas = KeyedMap.assign (KeyedMap.erase list.areas oldid) newid area
  link : after.link = list.link
  links : ∀ entry ∈ list.areas, (after.area entry.2).links = list.linksAfter oldid newid entry.2
  ids : ∀ address, (after.area address).id = if address = area then newid else (list.area address).id
  names : ∀ address, (after.area address).name = if address = area then newName else (list.area address).name

theorem nodup_addresses (list : LoadedAreas) : (list.areas.map Prod.snd).Nodup := by
  refine (List.nodup_map_iff_inj_on (OrderedMap.Sorted.distinct list.sorted).of_map).mpr ?_
  exact fun first inFirst second inSecond same => list.eq_of_address inFirst inSecond same

section
variable (known : (oldid, area) ∈ list.areas) (free : newid ≠ oldid → newid ∉ list.areas.map Prod.fst)
include free

theorem newid_not_mem : newid ∉ (KeyedMap.erase list.areas oldid).map Prod.fst := by
  intro inside
  obtain ⟨entry, stored, rfl⟩ := List.mem_map.mp inside
  obtain ⟨listed, other⟩ := KeyedMap.mem_erase.mp stored
  exact free other (List.mem_map_of_mem listed)

theorem newid_not_mem_links {entry : Text × Nat} (member : entry ∈ list.areas) :
    newid ∉ (KeyedMap.erase (list.area entry.2).links oldid).map Prod.fst := by
  intro inside
  obtain ⟨link, stored, rfl⟩ := List.mem_map.mp inside
  obtain ⟨inLinks, other⟩ := KeyedMap.mem_erase.mp stored
  exact free other (List.mem_map.mpr ⟨_, (list.ends entry member link inLinks).2, rfl⟩)

def attached (list : LoadedAreas) (oldid newid newName : Text) (area : Nat) : AreaList where
  areas := KeyedMap.assign (KeyedMap.erase list.areas oldid) newid area
  area := Function.update list.area area { list.area area with id := newid, name := newName }
  link := list.link

omit free in
theorem attached_links (newName : Text) (address : Nat) :
    ((list.attached oldid newid newName area).area address).links = (list.area address).links := by
  by_cases here : address = area
  · subst here
    simp [attached]
  · simp [attached, here]

include known

theorem attached_addresses (newName : Text) :
    ((list.attached oldid newid newName area).areas.map Prod.snd).Perm (list.areas.map Prod.snd) := by
  have after : (list.attached oldid newid newName area).areas.Perm ((newid, area) :: KeyedMap.erase list.areas oldid) := by
    unfold attached KeyedMap.assign
    rw [KeyedMap.erase_eq_self (newid_not_mem free)]
    exact OrderedMap.insert_perm _ _
  exact (after.map Prod.snd).trans ((KeyedMap.Sorted.perm_erase list.sorted known).map Prod.snd).symm

theorem rekeyed_links (newName : Text) {entry : Text × Nat} (listed : entry ∈ list.areas) :
    ((list.attached oldid newid newName area).rekeyed oldid entry.2).links = list.linksAfter oldid newid entry.2 := by
  unfold AreaList.rekeyed linksAfter
  rw [attached_links]
  cases found : KeyedMap.lookup (list.area entry.2).links oldid with
  | none => exact attached_links newName entry.2
  | some link =>
    have stored := (KeyedMap.Sorted.lookup_eq_some_iff (list.linksSorted entry listed)).mp found
    have target : ((list.attached oldid newid newName area).area (list.link link).with').id = newid := by
      rw [with_eq known listed stored]
      simp [attached]
    have one : ∀ other ∈ (list.area entry.2).links, (decide (other.2 = link) = true ↔ other.1 = oldid) := fun other inLinks =>
      decide_eq_true_iff.trans (link_key_iff known listed stored inLinks)
    change KeyedMap.assign _ ((list.attached oldid newid newName area).area (list.link link).with').id link = _
    rw [target, KeyedMap.Sorted.eraseP_eq (list.linksSorted entry listed) one, KeyedMap.assign,
      KeyedMap.erase_eq_self (newid_not_mem_links free listed)]
    rfl

theorem renameArea_success (proceeds : list.Proceeds oldid newid newName) :
    ∃ after, list.renameArea oldid newid newName = (after, true) ∧ list.Success oldid newid newName area after := by
  obtain ⟨oldGiven, nameGiven, newGiven, noStar, -⟩ := proceeds
  have nonempty : list.areas ≠ [] := List.ne_nil_of_mem known
  have found : KeyedMap.lookup list.areas oldid = some area := (KeyedMap.Sorted.lookup_eq_some_iff list.sorted).mpr known
  have noOther := KeyedMap.lookup_eq_none_iff.mpr (newid_not_mem free)
  set before := list.attached oldid newid newName area with attachedEq
  have result : list.renameArea oldid newid newName =
      (((before.areas.map Prod.snd).foldl (fun list address => list.renameEntry oldid address) before).buildLinksIndexes
        area, true) := by
    unfold AreaList.renameArea
    rw [if_neg (by simp [oldGiven, nameGiven, newGiven, nonempty]), if_neg noStar, found]
    dsimp only
    rw [noOther]
    rfl
  have addresses : (before.areas.map Prod.snd).Perm (list.areas.map Prod.snd) := attached_addresses known free newName
  have owned : ∀ address ∈ before.areas.map Prod.snd, ∀ link,
      KeyedMap.lookup (before.area address).links oldid = some link → (before.link link).from' = address := by
    intro address member link stored
    obtain ⟨entry, listed, rfl⟩ := List.mem_map.mp (addresses.mem_iff.mp member)
    rw [attachedEq, attached_links, KeyedMap.Sorted.lookup_eq_some_iff (list.linksSorted entry listed)] at stored
    exact list.origins entry listed _ stored
  have loop := @AreaList.foldl_renameEntry before _ _ (addresses.nodup_iff.mpr list.nodup_addresses) _ rfl
    (fun _ => rfl) (fun _ _ => rfl) owned
  have indexed : ((before.areas.map Prod.snd).foldl (fun list address => list.renameEntry oldid address) before).buildLinksIndexes
      area = { before with area := fun address =>
        if address ∈ before.areas.map Prod.snd then before.rekeyed oldid address else before.area address } := by
    rw [loop]
    apply AreaList.buildLinksIndexes_eq_self
    have there : area ∈ before.areas.map Prod.snd := addresses.mem_iff.mpr (List.mem_map_of_mem (f := Prod.snd) known)
    have own : (before.rekeyed oldid area).links = (list.area area).links := by
      rw [attachedEq, rekeyed_links known free newName known, linksAfter, lookup_self known]
    dsimp only
    rw [if_pos there, own]
    exact list.ranks _ known
  refine ⟨_, result.trans (congrArg (fun after => (after, true)) indexed), ?_⟩
  constructor
  · rfl
  · rfl
  · intro entry listed
    dsimp only
    rw [if_pos (addresses.mem_iff.mpr (List.mem_map_of_mem (f := Prod.snd) listed)), attachedEq,
      rekeyed_links known free newName listed]
  · intro address
    have start : (before.area address).id = if address = area then newid else (list.area address).id := by
      by_cases here : address = area
      · subst here
        simp [attachedEq, attached]
      · simp [attachedEq, attached, here]
    dsimp only
    split_ifs at start ⊢ <;> simp [AreaList.rekeyed_id, start]
  · intro address
    have start : (before.area address).name = if address = area then newName else (list.area address).name := by
      by_cases here : address = area
      · subst here
        simp [attachedEq, attached]
      · simp [attachedEq, attached, here]
    dsimp only
    split_ifs at start ⊢ <;> simp [AreaList.rekeyed_name, start]

end

section
variable (known : (oldid, area) ∈ list.areas) (free : newid ≠ oldid → newid ∉ list.areas.map Prod.fst)
  {entry : Text × Nat} (listed : entry ∈ list.areas)
include known free listed

omit known in
theorem sorted_linksAfter : KeyedMap.Sorted (list.linksAfter oldid newid entry.2) := by
  have sorted := list.linksSorted entry listed
  unfold linksAfter
  split
  · exact sorted
  · exact OrderedMap.Sorted.insert (KeyedMap.Sorted.erase sorted) (newid_not_mem_links free listed)

theorem filter_linksAfter {link : Text × Nat} (stored : link ∈ (list.area entry.2).links) :
    (list.linksAfter oldid newid entry.2).filter (fun other => other.2 = link.2) =
      [(if (list.link link.2).with' = area then newid else link.1, link.2)] := by
  have ends := (list.ends entry listed link stored).2
  have one {other : Text × Nat} (inLinks : other ∈ (list.area entry.2).links) : other.2 = link.2 ↔ other.1 = link.1 :=
    @link_key_iff list _ _ ends entry listed link.2 stored other inLinks
  have towards : (list.link link.2).with' = area ↔ link.1 = oldid := by
    constructor
    · intro same
      rw [same] at ends
      exact congrArg Prod.fst (list.eq_of_address ends known rfl)
    · intro same
      exact @with_eq list _ _ known entry listed link.2 (same ▸ stored)
  have fresh := newid_not_mem_links free listed
  have sortedAfter := sorted_linksAfter free listed
  cases found : KeyedMap.lookup (list.area entry.2).links oldid with
  | none =>
    have after : list.linksAfter oldid newid entry.2 = (list.area entry.2).links := by rw [linksAfter, found]
    have other : link.1 ≠ oldid := fun same =>
      KeyedMap.lookup_eq_none_iff.mp found (same ▸ List.mem_map_of_mem stored)
    rw [if_neg fun same => other (towards.mp same), after]
    exact KeyedMap.Sorted.filter_eq (list.linksSorted entry listed) stored fun other inLinks =>
      decide_eq_true_iff.trans (one inLinks)
  | some moved =>
    have inLinks := (KeyedMap.Sorted.lookup_eq_some_iff (list.linksSorted entry listed)).mp found
    have after : list.linksAfter oldid newid entry.2 = KeyedMap.rekey (list.area entry.2).links oldid newid moved := by
      rw [linksAfter, found]
    have mem {other : Text × Nat} : other ∈ list.linksAfter oldid newid entry.2 ↔
        other = (newid, moved) ∨ other ∈ KeyedMap.erase (list.area entry.2).links oldid := by
      rw [after]
      exact OrderedMap.mem_insert
    by_cases old : link.1 = oldid
    · have same : moved = link.2 := (one inLinks).mpr old.symm
      rw [if_pos (towards.mpr old)]
      refine KeyedMap.Sorted.filter_eq sortedAfter (mem.mpr (.inl (by rw [same]))) fun other inside => ?_
      rw [decide_eq_true_iff]
      rcases mem.mp inside with rfl | inside
      · exact iff_of_true same rfl
      · obtain ⟨inOthers, different⟩ := KeyedMap.mem_erase.mp inside
        exact iff_of_false (fun address => different (((one inOthers).mp address).trans old))
          fun key => fresh (key ▸ List.mem_map_of_mem inside)
    · have stays := KeyedMap.mem_erase.mpr ⟨stored, old⟩
      rw [if_neg fun same => old (towards.mp same)]
      refine KeyedMap.Sorted.filter_eq sortedAfter (mem.mpr (.inr stays)) fun other inside => ?_
      rw [decide_eq_true_iff]
      rcases mem.mp inside with rfl | inside
      · exact iff_of_false (fun address => old ((one inLinks).mp address).symm)
          fun key => fresh (List.mem_map.mpr ⟨link, stays, key.symm⟩)
      · exact one (KeyedMap.mem_erase.mp inside).1

theorem newid_eq_of_linksAfter (there : oldid ∈ (list.area entry.2).links.map Prod.fst)
    (same : list.linksAfter oldid newid entry.2 = (list.area entry.2).links) : newid = oldid := by
  obtain ⟨⟨key, moved⟩, inLinks, rfl⟩ := List.mem_map.mp there
  have found := (KeyedMap.Sorted.lookup_eq_some_iff (list.linksSorted entry listed)).mpr inLinks
  have inside : (newid, moved) ∈ list.linksAfter key newid entry.2 := by
    rw [linksAfter, found]
    exact OrderedMap.mem_insert.mpr (.inl rfl)
  rw [same] at inside
  by_contra different
  exact free different (List.mem_map.mpr ⟨_, (list.ends entry listed _ inside).2, rfl⟩)

end

theorem Success.renamed_iff {after : AreaList} (success : list.Success oldid newid newName area after)
    (known : (oldid, area) ∈ list.areas) (free : newid ≠ oldid → newid ∉ list.areas.map Prod.fst) :
    list.Renamed oldid newid after true ↔ list.KeepsOrder oldid newid := by
  have ranked {entry : Text × Nat} (listed : entry ∈ list.areas) {moved : Nat}
      (inLinks : (oldid, moved) ∈ (list.area entry.2).links) :
      KeyedMap.Ranked (after.area entry.2).links (fun link => (after.link link).indexForArea) ↔
        ∀ link ∈ (list.area entry.2).links, link.1 ≠ oldid → (oldid < link.1 ↔ newid < link.1) := by
    rw [success.links entry listed, success.link, linksAfter,
      (KeyedMap.Sorted.lookup_eq_some_iff (list.linksSorted entry listed)).mpr inLinks]
    exact KeyedMap.Ranked.rekey_iff (list.ranks entry listed) (list.linksSorted entry listed) inLinks
      (newid_not_mem_links free listed)
  constructor
  · intro renamed
    refine ⟨free, fun entry listed there => ?_⟩
    obtain ⟨⟨key, moved⟩, inLinks, rfl⟩ := List.mem_map.mp there
    by_cases changed : (after.area entry.2).links = (list.area entry.2).links
    · rw [newid_eq_of_linksAfter known free listed there ((success.links entry listed).symm.trans changed)]
      exact fun _ _ _ => Iff.rfl
    · exact (ranked listed inLinks).mp (renamed.ranks rfl entry listed changed)
  · intro order
    constructor
    · exact fun status => nomatch status
    · refine fun _ => ⟨area, known, fun entry => ?_⟩
      rw [success.areas, KeyedMap.mem_assign]
      refine or_congr_right ⟨fun inside => KeyedMap.mem_erase.mp inside.1, fun inside => ?_⟩
      have others := KeyedMap.mem_erase.mpr inside
      exact ⟨others, fun same => newid_not_mem free (same ▸ List.mem_map_of_mem others)⟩
    · intro _ other isArea entry listed link stored _
      rw [success.link, success.links entry listed]
      refine ⟨list.origins entry listed link stored, ?_⟩
      rw [filter_linksAfter known free listed stored, success.ids]
      have key := list.keys _ (list.ends entry listed link stored).2
      rw [key]
    · intro _ entry listed changed
      have there : oldid ∈ (list.area entry.2).links.map Prod.fst := by
        by_contra absent
        rw [success.links entry listed, linksAfter, KeyedMap.lookup_eq_none_iff.mpr absent] at changed
        exact changed rfl
      obtain ⟨⟨key, moved⟩, inLinks, rfl⟩ := List.mem_map.mp there
      exact (ranked listed inLinks).mpr (order.between entry listed there)

theorem renameArea_taken (proceeds : list.Proceeds oldid newid newName) (known : (oldid, area) ∈ list.areas)
    (other : newid ≠ oldid) (taken : newid ∈ list.areas.map Prod.fst) :
    list.renameArea oldid newid newName =
      ({ list.toAreaList with areas := KeyedMap.assign (KeyedMap.erase list.areas oldid) newid area }, false) := by
  obtain ⟨oldGiven, nameGiven, newGiven, noStar, -⟩ := proceeds
  obtain ⟨⟨key, address⟩, listed, rfl⟩ := List.mem_map.mp taken
  have found : KeyedMap.lookup list.areas oldid = some area := (KeyedMap.Sorted.lookup_eq_some_iff list.sorted).mpr known
  have second : KeyedMap.lookup (KeyedMap.erase list.areas oldid) key = some address :=
    (KeyedMap.Sorted.lookup_eq_some_iff (KeyedMap.Sorted.erase list.sorted)).mpr (KeyedMap.mem_erase.mpr ⟨listed, other⟩)
  unfold AreaList.renameArea
  rw [if_neg (by simp [oldGiven, nameGiven, newGiven, List.ne_nil_of_mem known]), if_neg noStar, found]
  dsimp only
  rw [second]

theorem renameArea_refused (refused : ¬list.Proceeds oldid newid newName) :
    list.renameArea oldid newid newName = (list.toAreaList, false) := by
  unfold AreaList.renameArea
  split_ifs with missing star
  · rfl
  · rfl
  · have unknown : KeyedMap.lookup list.areas oldid = none := by
      rw [KeyedMap.lookup_eq_none_iff]
      intro listed
      simp only [not_or] at missing
      exact refused ⟨missing.1, missing.2.1, missing.2.2.1, star, listed⟩
    rw [unknown]

/-- For every list of areas and all texts. -/
theorem renameArea_renamed_iff (list : LoadedAreas) (oldid newid newName : Text) :
    list.Renamed oldid newid (list.renameArea oldid newid newName).1 (list.renameArea oldid newid newName).2 ↔
      (list.Proceeds oldid newid newName → list.KeepsOrder oldid newid) := by
  by_cases proceeds : list.Proceeds oldid newid newName
  · obtain ⟨⟨key, area⟩, known, rfl⟩ := List.mem_map.mp proceeds.2.2.2.2
    by_cases free : newid ≠ key → newid ∉ list.areas.map Prod.fst
    · obtain ⟨after, result, success⟩ := renameArea_success known free proceeds
      rw [result, success.renamed_iff known free]
      exact ⟨fun order _ => order, fun order => order proceeds⟩
    · refine iff_of_false (fun renamed => ?_) fun order => free (order proceeds).free
      obtain ⟨other, taken⟩ := Classical.not_imp.mp free
      rw [renameArea_taken proceeds known other (not_not.mp taken)] at renamed
      have kept : KeyedMap.assign (KeyedMap.erase list.areas key) newid area = list.areas := renamed.refused rfl
      have lost : (key, area) ∉ KeyedMap.assign (KeyedMap.erase list.areas key) newid area := by
        intro inside
        rcases KeyedMap.mem_assign.mp inside with same | ⟨inOthers, -⟩
        · exact other (congrArg Prod.fst same).symm
        · exact (KeyedMap.mem_erase.mp inOthers).2 rfl
      exact lost (kept.symm ▸ known)
  · rw [renameArea_refused proceeds]
    refine iff_of_true ?_ fun given => absurd given proceeds
    constructor
    · exact fun _ => rfl
    all_goals exact fun status => nomatch status

def twoAreas : LoadedAreas where
  areas := [(['a'], 0), (['b'], 1)]
  area := fun address => if address = 0 then ⟨['a'], ['A'], []⟩ else ⟨['b'], ['B'], []⟩
  link := fun _ => ⟨0, 0, 0⟩
  sorted := by decide
  keys := by decide
  linksSorted := by decide
  origins := by decide
  ends := by decide
  ranks := by
    intro entry member rank link stands
    have none : (if entry.2 = 0 then (⟨['a'], ['A'], []⟩ : Area) else ⟨['b'], ['B'], []⟩).links = [] := by
      split_ifs <;> rfl
    rw [none] at stands
    cases stands

/-- The renamed area replaces the one that has the identifier, and its old key is lost. -/
theorem twoAreas_lost : ¬twoAreas.Renamed ['a'] ['b'] (twoAreas.renameArea ['a'] ['b'] ['B']).1
    (twoAreas.renameArea ['a'] ['b'] ['B']).2 := by
  intro renamed
  have kept := renamed.refused (by decide)
  exact absurd kept (by decide)

end LoadedAreas

end Antares.Renaming
