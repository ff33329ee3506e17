import Antares.GeneralData.Handlers

/-! The lines of the general data, one after the other, and what a line that is not about the years or about
the first step of the adequacy patch leaves as it was. The years of a simulation after the general data are
loaded: how many there are, which ones are played, and a weight for each.
-/

set_option autoImplicit false

namespace Antares.GeneralData

open Library Data

structure Line where
  sectionName : Text
  key : Text
  value : Text

def linesOf (ini : List IniFile.Section) : List Line :=
  ini.flatMap fun read => read.properties.map fun p => ⟨toLower read.name, p.key, p.value⟩

def Line.Is (line : Line) (name : String × String) : Prop :=
  line.sectionName = name.1.toList ∧ line.key = name.2.toList

instance (line : Line) (name : String × String) : Decidable (line.Is name) := by
  unfold Line.Is
  infer_instance

variable {F : Type} (floats : Floats F) (version : Nat)

def loadLine (d : Parameters F) (line : Line) : Option (Parameters F) :=
  match find (sectionAssociatedToKeysProcess floats) line.sectionName with
  | none => some d
  | some table => loadProperty version table d ⟨line.key, line.value⟩

theorem loadSection_eq (d : Parameters F) (read : IniFile.Section) : loadSection floats version d read =
    (read.properties.map fun p => (⟨toLower read.name, p.key, p.value⟩ : Line)).foldlM (loadLine floats version) d := by
  rw [List.foldlM_map]
  unfold loadSection
  cases found : find (sectionAssociatedToKeysProcess floats) (toLower read.name) with
  | none =>
    have idle (d : Parameters F) (p : IniFile.Property) :
        loadLine floats version d ⟨toLower read.name, p.key, p.value⟩ = some d := by
      simp only [loadLine, found]
    dsimp only
    generalize read.properties = properties
    induction properties with
    | nil => rfl
    | cons p others ih =>
      rw [List.foldlM_cons, idle]
      exact ih
  | some table =>
    have one (d : Parameters F) (p : IniFile.Property) :
        loadLine floats version d ⟨toLower read.name, p.key, p.value⟩ = loadProperty version table d p := by
      simp only [loadLine, found]
    simp only [one]

theorem foldlM_loadSection (ini : List IniFile.Section) (d : Parameters F) :
    ini.foldlM (loadSection floats version) d = (linesOf ini).foldlM (loadLine floats version) d := by
  induction ini generalizing d with
  | nil => rfl
  | cons read others ih =>
    have rest : (fun d => others.foldlM (loadSection floats version) d) =
        fun d => (linesOf others).foldlM (loadLine floats version) d := funext ih
    rw [List.foldlM_cons, rest, loadSection_eq]
    simp only [linesOf, List.flatMap_cons, List.foldlM_append]

theorem mem_of_find {α : Type} {table : List (String × α)} {name : Text} {found : α} (there : find table name = some found) :
    ∃ entry ∈ table, entry.1.toList = name ∧ entry.2 = found := by
  obtain ⟨entry, first, rfl⟩ := Option.map_eq_some_iff.mp there
  exact ⟨entry, List.mem_of_find?_eq_some first, by simpa using List.find?_some first, rfl⟩

section Line
variable {floats} {line : Line} {table : List (String × Handler F)}

theorem handle_of_forall {holds : Handler F → Prop} (unknown : holds fun _ _ d => some (d, false)) {key : Text}
    (known : ∀ entry ∈ table, entry.1.toList = key → holds entry.2) : holds (handle table key) := by
  unfold handle
  cases there : find table key with
  | none => exact unknown
  | some handler =>
    obtain ⟨entry, member, same, rfl⟩ := mem_of_find there
    exact known entry member same

theorem ordinary_handle_legacy (key : Text) : (handle (SGDIntLoadFamily_Legacy version : List (String × Handler F)) key).Ordinary :=
  handle_of_forall (ordinary_unchanged false) fun entry member _ => ordinary_legacy version entry member

theorem regular_of_find (there : find (sectionAssociatedToKeysProcess floats) line.sectionName = some table) :
    ∃ name : String, line.sectionName = name.toList ∧ ∀ handler ∈ table, Regular (name, handler.1) handler.2 := by
  obtain ⟨entry, member, same, rfl⟩ := mem_of_find there
  exact ⟨entry.1, same.symm, regular_sections floats entry member⟩

theorem blind_handle (there : find (sectionAssociatedToKeysProcess floats) line.sectionName = some table)
    (other : ¬ line.Is firstStepKey) : (handle table line.key).Blind := by
  obtain ⟨name, inSection, regular⟩ := regular_of_find there
  refine handle_of_forall (ordinary_unchanged false).blind fun entry member same => ?_
  rcases (regular entry member).blind with first | blind
  · have isFirst : line.Is (name, entry.1) := ⟨inSection, same.symm⟩
    rw [first] at isFirst
    exact absurd isFirst other
  · exact blind

theorem keeps_handle (there : find (sectionAssociatedToKeysProcess floats) line.sectionName = some table)
    (other : ∀ name ∈ yearsKeys, ¬ line.Is name) : (handle table line.key).Keeps := by
  obtain ⟨name, inSection, regular⟩ := regular_of_find there
  refine handle_of_forall (ordinary_unchanged false).keeps fun entry member same => ?_
  rcases (regular entry member).keeps with years | keeps
  · exact absurd ⟨inSection, same.symm⟩ (other _ years)
  · exact keeps

theorem loadLine_withLeftovers (other : ¬ line.Is firstStepKey) (leftovers : Leftovers) (d : Parameters F) :
    loadLine floats version (d.withLeftovers leftovers) line =
      (loadLine floats version d line).map fun after => after.withLeftovers leftovers := by
  unfold loadLine
  cases there : find (sectionAssociatedToKeysProcess floats) line.sectionName with
  | none => rfl
  | some table =>
    have handled := blind_handle there other leftovers (toLower line.value) line.value d
    dsimp only
    unfold loadProperty
    split_ifs
    · dsimp only
      rw [handled]
      cases handle table line.key (toLower line.value) line.value d with
      | none => rfl
      | some after =>
        obtain ⟨after, ok⟩ := after
        have legacy := (ordinary_handle_legacy version line.key).blind leftovers (toLower line.value) line.value after
        dsimp only [Option.map_some, bind, Option.bind]
        rw [legacy]
        cases ok with
        | true => rfl
        | false =>
          simp only [Bool.false_eq_true, if_false, Option.map_map]
          rfl
    · rfl

theorem Parameters.Sized.of_shape {d after : Parameters F} (sized : d.Sized) (same : after.playlistShape = d.playlistShape) :
    after.Sized := by
  simp only [Parameters.playlistShape, Prod.mk.injEq] at same
  exact ⟨by rw [same.2.1, same.1, sized.filter], by rw [same.2.2.1, same.1, sized.weight]⟩

theorem loadLine_keeps (other : ∀ name ∈ yearsKeys, ¬ line.Is name) {d : Parameters F} (sized : d.Sized) :
    ∃ after, loadLine floats version d line = some after ∧ after.playlistShape = d.playlistShape := by
  unfold loadLine
  cases there : find (sectionAssociatedToKeysProcess floats) line.sectionName with
  | none => exact ⟨d, rfl, rfl⟩
  | some table =>
    dsimp only
    unfold loadProperty
    split_ifs
    · obtain ⟨handled, first, same⟩ := keeps_handle there other (toLower line.value) line.value d sized
      obtain ⟨after, second, still⟩ :=
        (ordinary_handle_legacy version line.key).keeps (toLower line.value) line.value handled.1 (sized.of_shape same)
      dsimp only
      rw [first]
      dsimp only [bind, Option.bind]
      rw [second]
      split
      · exact ⟨_, rfl, same⟩
      · exact ⟨_, rfl, still.trans same⟩
    · exact ⟨d, rfl, rfl⟩

end Line

end Antares.GeneralData

namespace Antares.GeneralData

open Library Data

section Lines

def Line.years (line : Line) : Nat :=
  min (if (toUint (toLower line.value)).2 then (toUint (toLower line.value)).1 else 1) maximumMCYears

variable (lines : List Line)

/-- The number of years after some lines, which is that of the last one about it. -/
def yearsInForce : Nat :=
  lines.foldl (fun years line => if line.Is ("general", "nbyears") then line.years else years) 1

variable (name : String × String)

def lastFlag (lines : List Line) : Bool :=
  lines.foldl (fun flag line => if line.Is name then IniFile.toBool (toLower line.value) else flag) false

theorem yearsInForce_snoc (line : Line) : yearsInForce (lines ++ [line]) =
    if line.Is ("general", "nbyears") then line.years else yearsInForce lines := by
  rw [yearsInForce, List.foldl_append]
  rfl

theorem lastFlag_snoc (lines : List Line) (line : Line) : lastFlag name (lines ++ [line]) =
    if line.Is name then IniFile.toBool (toLower line.value) else lastFlag name lines := by
  rw [lastFlag, List.foldl_append]
  rfl

theorem yearsInForce_le : yearsInForce lines ≤ maximumMCYears := by
  induction lines using List.reverseRecOn with
  | nil => decide
  | append_singleton lines line ih =>
    rw [yearsInForce_snoc]
    split
    · exact Nat.min_le_right _ _
    · exact ih

variable {F : Type} (floats : Floats F)

def Line.WeighsPast (line : Line) (years : Nat) : Prop :=
  line.Is ("playlist", "playlist_year_weight") ∧
    ∃ weight, yearAndWeight floats (toLower line.value) = some (years, weight) ∧ floats.isNegative weight = false

def WeighWithin (lines : List Line) : Prop :=
  ∀ before line after, lines = before ++ line :: after → ¬ line.WeighsPast floats (yearsInForce before)

theorem weighWithin_snoc (lines : List Line) (line : Line) : WeighWithin floats (lines ++ [line]) ↔
    WeighWithin floats lines ∧ ¬ line.WeighsPast floats (yearsInForce lines) := by
  constructor
  · intro within
    refine ⟨fun before other after split => within before other (after ++ [line]) ?_, within lines line [] rfl⟩
    rw [split, List.append_assoc, List.cons_append]
  · rintro ⟨within, last⟩ before other after split
    induction after using List.reverseRecOn with
    | nil =>
      obtain ⟨rfl, same⟩ := List.append_inj' split rfl
      cases same
      exact last
    | append_singleton more final _ =>
      have inner : lines = before ++ other :: more := by
        rw [← List.cons_append, ← List.append_assoc] at split
        exact (List.append_inj' split rfl).1
      exact within before other more inner

end Lines

section Run
variable {F : Type} (floats : Floats F) (version : Nat)

/-- The years of the parameters are those that the lines say, with a place for each. -/
structure Parameters.Follows (d : Parameters F) (lines : List Line) : Prop where
  sized : d.Sized
  nbYears : d.nbYears = yearsInForce lines
  derated : d.derated = lastFlag ("general", "derated") lines
  userPlaylist : d.userPlaylist = lastFlag ("general", "user-playlist") lines

theorem follows_reset (variableList : List Variable) (d : Parameters F) : (d.reset floats variableList).Follows [] :=
  ⟨⟨rfl, rfl⟩, rfl, rfl, rfl⟩

variable {floats version} {line : Line}

theorem find_toList {α : Type} (table : List (String × α)) (name : String) :
    find table name.toList = (table.find? fun entry => entry.1 = name).map Prod.snd := by
  simp only [find, String.toList_inj]

theorem loadLine_eq_of_is {name : String × String} {table : List (String × Handler F)} {handler : Handler F}
    (here : line.Is name) (inSection : find (sectionAssociatedToKeysProcess floats) name.1.toList = some table)
    (known : find table name.2.toList = some handler) (letter : firstKeyLetterIsValid name.2.toList = true)
    (noLegacy : find (SGDIntLoadFamily_Legacy version : List (String × Handler F)) name.2.toList = none) (d : Parameters F) :
    loadLine floats version d line = (handler (toLower line.value) line.value d).map Prod.fst := by
  unfold loadLine loadProperty handle
  rw [here.1, inSection]
  dsimp only
  rw [here.2, letter, if_pos rfl, known, noLegacy]
  dsimp only [Option.getD_some, Option.getD_none]
  cases handler (toLower line.value) line.value d with
  | none => rfl
  | some after =>
    dsimp only [bind, Option.bind, Option.map_some]
    split <;> rfl

theorem loadLine_general {name : String} {handler : Handler F} (here : line.Is ("general", name))
    (known : find (SGDIntLoadFamily_General floats) name.toList = some handler)
    (letter : firstKeyLetterIsValid name.toList = true)
    (noLegacy : find (SGDIntLoadFamily_Legacy version : List (String × Handler F)) name.toList = none) (d : Parameters F) :
    loadLine floats version d line = (handler (toLower line.value) line.value d).map Prod.fst :=
  loadLine_eq_of_is here ((find_toList _ _).trans (by simp [sectionAssociatedToKeysProcess])) known letter noLegacy d

theorem loadLine_nbYears (here : line.Is ("general", "nbyears")) (d : Parameters F) :
    loadLine floats version d line = some (d.resetPlaylist floats line.years) := by
  have found : find (SGDIntLoadFamily_General floats) "nbyears".toList = some (setNbYears floats) := by
    rw [find_toList]
    simp [SGDIntLoadFamily_General]
  rw [loadLine_general here found (by decide) ((find_toList _ _).trans (by simp [SGDIntLoadFamily_Legacy]))]
  have capped (years : Nat) : d.resetPlaylist floats (min years maximumMCYears) = d.resetPlaylist floats years := by
    simp only [Parameters.resetPlaylist, Parameters.resetPlayedYears, Nat.min_assoc, Nat.min_self]
  unfold setNbYears Line.years
  rw [capped]
  split <;> rfl

theorem loadLine_derated (here : line.Is ("general", "derated")) (d : Parameters F) :
    loadLine floats version d line = some { d with derated := IniFile.toBool (toLower line.value) } := by
  have found : find (SGDIntLoadFamily_General floats) "derated".toList = some (setBool fun b d => { d with derated := b }) := by
    rw [find_toList]
    simp [SGDIntLoadFamily_General]
  exact loadLine_general here found (by decide) ((find_toList _ _).trans (by simp [SGDIntLoadFamily_Legacy])) d

theorem loadLine_userPlaylist (here : line.Is ("general", "user-playlist")) (d : Parameters F) :
    loadLine floats version d line = some { d with userPlaylist := IniFile.toBool (toLower line.value) } := by
  have found : find (SGDIntLoadFamily_General floats) "user-playlist".toList =
      some (setBool fun b d => { d with userPlaylist := b }) := by
    rw [find_toList]
    simp [SGDIntLoadFamily_General]
  exact loadLine_general here found (by decide) ((find_toList _ _).trans (by simp [SGDIntLoadFamily_Legacy])) d

theorem loadLine_weigh (here : line.Is ("playlist", "playlist_year_weight")) (d : Parameters F) :
    loadLine floats version d line = (weighYear floats (toLower line.value) line.value d).map Prod.fst := by
  have inSection : find (sectionAssociatedToKeysProcess floats) "playlist".toList = some (SGDIntLoadFamily_Playlist floats) := by
    rw [find_toList]
    simp [sectionAssociatedToKeysProcess]
  have found : find (SGDIntLoadFamily_Playlist floats) "playlist_year_weight".toList = some (weighYear floats) := by
    rw [find_toList]
    simp [SGDIntLoadFamily_Playlist]
  exact loadLine_eq_of_is here inSection found (by decide) ((find_toList _ _).trans (by simp [SGDIntLoadFamily_Legacy])) d

theorem loadLine_weigh_past {d : Parameters F} (sized : d.Sized) (past : line.WeighsPast floats d.nbYears) :
    loadLine floats version d line = none := by
  obtain ⟨here, weight, read, positive⟩ := past
  rw [loadLine_weigh here]
  unfold weighYear
  rw [read]
  simp [positive, setAt, sized.weight]

theorem loadLine_weigh_keeps (here : line.Is ("playlist", "playlist_year_weight")) {d : Parameters F} (sized : d.Sized)
    (within : ¬ line.WeighsPast floats d.nbYears) :
    ∃ after, loadLine floats version d line = some after ∧ after.playlistShape = d.playlistShape := by
  rw [loadLine_weigh here]
  unfold weighYear
  cases read : yearAndWeight floats (toLower line.value) with
  | none => exact ⟨d, rfl, rfl⟩
  | some entry =>
    obtain ⟨y, weight⟩ := entry
    dsimp only
    split_ifs with refused
    · exact ⟨d, rfl, rfl⟩
    · simp only [not_or, Nat.not_lt, Bool.not_eq_true] at refused
      -- the year after the last one is not refused either
      have inside : y < d.yearsWeight.length := by
        rw [sized.weight]
        refine lt_of_le_of_ne refused.1 fun last => within ⟨here, weight, ?_, refused.2⟩
        rw [read, last]
      have place : setAt d.yearsWeight y weight = _ := setAt_eq_some weight inside
      rw [place]
      exact ⟨_, rfl, by simp [Parameters.playlistShape]⟩

theorem Parameters.Follows.of_shape {lines : List Line} {d after : Parameters F} (follows : d.Follows lines)
    (same : after.playlistShape = d.playlistShape) (years : ¬ line.Is ("general", "nbyears"))
    (derated : ¬ line.Is ("general", "derated")) (playlist : ¬ line.Is ("general", "user-playlist")) :
    after.Follows (lines ++ [line]) := by
  have sized := follows.sized.of_shape same
  simp only [Parameters.playlistShape, Prod.mk.injEq] at same
  refine ⟨sized, ?_, ?_, ?_⟩
  · rw [yearsInForce_snoc, if_neg years, same.1, follows.nbYears]
  · rw [lastFlag_snoc, if_neg derated, same.2.2.2.1, follows.derated]
  · rw [lastFlag_snoc, if_neg playlist, same.2.2.2.2, follows.userPlaylist]

theorem Line.Is.unique {first second : String × String} (one : line.Is first) (other : line.Is second) : first = second :=
  Prod.ext (String.toList_inj.mp (one.1.symm.trans other.1)) (String.toList_inj.mp (one.2.symm.trans other.2))

theorem Parameters.Follows.loadLine (version : Nat) {lines : List Line} {d : Parameters F} (follows : d.Follows lines)
    (within : ¬ line.WeighsPast floats (yearsInForce lines)) :
    ∃ after, loadLine floats version d line = some after ∧ after.Follows (lines ++ [line]) := by
  by_cases years : line.Is ("general", "nbyears")
  · have playlist : ¬ line.Is ("general", "user-playlist") := fun other => by simpa using years.unique other
    have derated : ¬ line.Is ("general", "derated") := fun other => by simpa using years.unique other
    refine ⟨_, loadLine_nbYears years d, ⟨?_, ?_⟩, ?_, ?_, ?_⟩
    · simp [Parameters.resetPlaylist, Parameters.resetPlayedYears, Parameters.resetYearsWeigth]
    · simp [Parameters.resetPlaylist, Parameters.resetPlayedYears, Parameters.resetYearsWeigth]
    · rw [yearsInForce_snoc, if_pos years]
      exact Nat.min_eq_left (Nat.min_le_right _ _)
    · rw [lastFlag_snoc, if_neg derated]
      exact follows.derated
    · rw [lastFlag_snoc, if_neg playlist]
      exact follows.userPlaylist
  by_cases derated : line.Is ("general", "derated")
  · have playlist : ¬ line.Is ("general", "user-playlist") := fun other => by simpa using derated.unique other
    refine ⟨_, loadLine_derated derated d, ⟨follows.sized.filter, follows.sized.weight⟩, ?_, ?_, ?_⟩
    · rw [yearsInForce_snoc, if_neg years]
      exact follows.nbYears
    · rw [lastFlag_snoc, if_pos derated]
    · rw [lastFlag_snoc, if_neg playlist]
      exact follows.userPlaylist
  by_cases playlist : line.Is ("general", "user-playlist")
  · refine ⟨_, loadLine_userPlaylist playlist d, ⟨follows.sized.filter, follows.sized.weight⟩, ?_, ?_, ?_⟩
    · rw [yearsInForce_snoc, if_neg years]
      exact follows.nbYears
    · rw [lastFlag_snoc, if_neg derated]
      exact follows.derated
    · rw [lastFlag_snoc, if_pos playlist]
  by_cases weigh : line.Is ("playlist", "playlist_year_weight")
  · rw [← follows.nbYears] at within
    obtain ⟨after, loaded, same⟩ := loadLine_weigh_keeps weigh follows.sized within
    exact ⟨after, loaded, follows.of_shape same years derated playlist⟩
  · have other : ∀ name ∈ yearsKeys, ¬ line.Is name := by simp [yearsKeys, years, derated, playlist, weigh]
    obtain ⟨after, loaded, same⟩ := loadLine_keeps version other follows.sized
    exact ⟨after, loaded, follows.of_shape same years derated playlist⟩

variable {lines : List Line} {start : Parameters F}

theorem Parameters.Follows.run (version : Nat) (follows : start.Follows []) (within : WeighWithin floats lines) :
    ∃ after, lines.foldlM (GeneralData.loadLine floats version) start = some after ∧ after.Follows lines := by
  induction lines using List.reverseRecOn with
  | nil => exact ⟨start, rfl, follows⟩
  | append_singleton lines line ih =>
    obtain ⟨earlier, last⟩ := (weighWithin_snoc floats lines line).mp within
    obtain ⟨before, ran, still⟩ := ih earlier
    obtain ⟨after, loaded, follows⟩ := still.loadLine version last
    refine ⟨after, ?_, follows⟩
    rw [List.foldlM_append, ran]
    simpa using loaded

theorem Parameters.Follows.weighWithin_of_run (follows : start.Follows []) {after : Parameters F}
    (ran : lines.foldlM (GeneralData.loadLine floats version) start = some after) : WeighWithin floats lines := by
  induction lines using List.reverseRecOn generalizing after with
  | nil => exact fun before _ _ split => by simp at split
  | append_singleton lines line ih =>
    rw [List.foldlM_append] at ran
    obtain ⟨before, earlier, last⟩ := Option.bind_eq_some_iff.mp ran
    have within := ih earlier
    refine (weighWithin_snoc floats lines line).mpr ⟨within, fun past => ?_⟩
    obtain ⟨same, ran, still⟩ := follows.run version within
    obtain rfl : before = same := by simpa [earlier] using ran
    rw [← still.nbYears] at past
    simp [loadLine_weigh_past still.sized past] at last

end Run

end Antares.GeneralData
