import Antares.Library.OrderedMaps
import Antares.Library.Recalculation
import Antares.Library.Texts
import Mathlib.Data.Char

/-! Districts: sets of areas by name, each rebuilt from rules that add or remove areas and other districts. -/

set_option autoImplicit false

namespace Antares.Data

open Library

structure SetHandler (Arg Area : Type) where
  /-- The area of this name -/
  find : Arg → Option Area
  applyFilter : Finset Area → Arg → Finset Area

namespace SetHandler
variable {Arg Area : Type} [DecidableEq Area] (handler : SetHandler Arg Area)

def add (set : Finset Area) (value : Arg) : Option (Finset Area) :=
  (handler.find value).map fun area => insert area set

def remove (set : Finset Area) (value : Arg) : Option (Finset Area) :=
  (handler.find value).map fun area => set.erase area

variable (set otherSet : Finset Area)

def addSet : Finset Area := set ∪ otherSet

def removeSet : Finset Area := set \ otherSet

end SetHandler

inductive Rule (Arg : Type) where
  | add (arg : Arg)
  | remove (arg : Arg)
  | filter (arg : Arg)
  deriving DecidableEq, Repr

structure Options (Id Arg : Type) where
  id : Id
  rules : List (Rule Arg)

/-- The districts in the order of their identifiers; a name in a rule is cut to the length of one. -/
structure Sets (Id Arg : Type) [LinearOrder Id] where
  options : List (Options Id Arg)
  sorted : OrderedMap.Sorted Options.id options
  toId : Arg → Id

namespace Sets
variable {Id Arg Area : Type} [LinearOrder Id] [DecidableEq Area] (sets : Sets Id Arg) (handler : SetHandler Arg Area)

def nameByIndex : List Id := sets.options.map Options.id

def find (id : Id) : Option (Options Id Arg) := sets.options.find? fun opts => opts.id = id

section
variable (map : Id → Finset Area)

theorem lawfulId : LawfulBEq Id := inferInstance

attribute [local instance] lawfulId in
/-- The change of a set by an area, or else by the district of that name. -/
def addOrRemove (one : Finset Area → Arg → Option (Finset Area))
    (many : Finset Area → Finset Area → Finset Area) (set : Finset Area) (arg : Arg) : Finset Area :=
  match one set arg with
  | some changed => changed
  | none => if sets.toId arg ∈ sets.nameByIndex then many set (map (sets.toId arg)) else set

def applyRule (set : Finset Area) : Rule Arg → Finset Area
  | .add arg => sets.addOrRemove map handler.add SetHandler.addSet set arg
  | .remove arg => sets.addOrRemove map handler.remove SetHandler.removeSet set arg
  | .filter arg => handler.applyFilter set arg

/-- The set of a district is changed in place, and a rule reads what the districts hold at that moment. -/
def rebuildFromRules (id : Id) : Id → Finset Area :=
  match sets.find id with
  | none => map
  | some opts =>
    opts.rules.foldl (fun map rule => Function.update map id (sets.applyRule handler map (map id) rule))
      (Function.update map id ∅)

def rebuildAllFromRules : Id → Finset Area :=
  sets.nameByIndex.foldl (fun map id => sets.rebuildFromRules handler map id) map

/-- The rules of a district in order, where the districts hold these sets. -/
def applyRules (id : Id) : Finset Area :=
  match sets.find id with
  | none => ∅
  | some opts => opts.rules.foldl (sets.applyRule handler map) ∅

end

def Rule.RefersTo (id : Id) : Rule Arg → Prop
  | .add arg | .remove arg => handler.find arg = none ∧ sets.toId arg = id ∧ id ∈ sets.nameByIndex
  | .filter _ => False

def RefersTo (first second : Id) : Prop :=
  ∃ opts, sets.find first = some opts ∧ ∃ rule ∈ opts.rules, Rule.RefersTo sets handler second rule

variable {map others : Id → Finset Area}

theorem applyRule_congr (set : Finset Area) (rule : Rule Arg)
    (same : ∀ id, Rule.RefersTo sets handler id rule → map id = others id) :
    sets.applyRule handler map set rule = sets.applyRule handler others set rule := by
  cases rule with
  | filter arg => rfl
  | add arg | remove arg =>
    unfold applyRule addOrRemove SetHandler.add SetHandler.remove
    cases found : handler.find arg with
    | some area => simp only [found, Option.map_some]
    | none =>
      by_cases there : sets.toId arg ∈ sets.nameByIndex
      · simp only [same (sets.toId arg) ⟨found, rfl, there⟩]
      · simp only [if_neg there]

theorem applyRules_congr (id : Id)
    (same : ∀ other, sets.RefersTo handler id other → map other = others other) :
    sets.applyRules handler map id = sets.applyRules handler others id := by
  unfold applyRules
  cases found : sets.find id with
  | none => rfl
  | some opts =>
    apply List.foldl_ext
    intro set rule listed
    apply applyRule_congr
    intro other refers
    exact same other ⟨opts, found, rule, listed, refers⟩

/-- The formulas of the districts: a reference stands for the set of the other district. -/
def formulas : Formulas Id (Finset Area) where
  value id map := sets.applyRules handler map id
  refers := sets.RefersTo handler
  depends id _ _ same := sets.applyRules_congr handler id same

theorem mem_nameByIndex_of_find {id : Id} {opts : Options Id Arg} (found : sets.find id = some opts) :
    id ∈ sets.nameByIndex := by
  have same : opts.id = id := by simpa using List.find?_some found
  exact List.mem_map.mpr ⟨opts, List.mem_of_find?_eq_some found, same⟩

omit [DecidableEq Area] in
theorem refersTo_listed {first second : Id} (refers : sets.RefersTo handler first second) :
    first ∈ sets.nameByIndex.toFinset ∧ second ∈ sets.nameByIndex.toFinset := by
  obtain ⟨opts, found, rule, _, names⟩ := refers
  simp only [List.mem_toFinset]
  constructor
  · exact sets.mem_nameByIndex_of_find found
  · cases rule with
    | filter arg => exact names.elim
    | add arg | remove arg => exact names.2.2

def Acyclic : Prop := (sets.formulas handler).Acyclic

variable {sets handler}

theorem Acyclic.wellFounded (acyclic : sets.Acyclic handler) : WellFounded (sets.formulas handler).ReferredFirst :=
  Formulas.Acyclic.wellFounded acyclic sets.nameByIndex.toFinset fun _ _ refers => sets.refersTo_listed handler refers

variable (acyclic : sets.Acyclic handler)

noncomputable def denoted : Id → Finset Area := Formulas.solution acyclic.wellFounded

theorem denoted_eq (id : Id) :
    denoted acyclic id = sets.applyRules handler (denoted acyclic) id := Formulas.solution_eq acyclic.wellFounded id

variable (map : Id → Finset Area)

def HoldsDenoted : Prop :=
  ∀ id ∈ sets.nameByIndex, map id = denoted acyclic id

theorem denoted_unique {map : Id → Finset Area}
    (reads : ∀ id ∈ sets.nameByIndex, map id = sets.applyRules handler map id) : HoldsDenoted acyclic map := by
  intro id
  induction id using acyclic.wellFounded.induction with
  | _ id ih =>
    intro listed
    rw [reads id listed, denoted_eq]
    apply applyRules_congr
    intro other refers
    exact ih other refers (List.mem_toFinset.mp (sets.refersTo_listed handler refers).2)

theorem rebuildFromRules_eq {id : Id} (listed : id ∈ sets.nameByIndex) (apart : ¬sets.RefersTo handler id id)
    (map : Id → Finset Area) :
    sets.rebuildFromRules handler map id = Function.update map id (sets.applyRules handler map id) := by
  unfold rebuildFromRules applyRules
  cases found : sets.find id with
  | none =>
    obtain ⟨opts, there, rfl⟩ := List.mem_map.mp listed
    exact absurd (decide_eq_true rfl) (List.find?_eq_none.mp found opts there)
  | some opts =>
    have run (rules : List (Rule Arg)) (within : ∀ rule ∈ rules, rule ∈ opts.rules) (set : Finset Area) :
        rules.foldl (fun map rule => Function.update map id (sets.applyRule handler map (map id) rule))
          (Function.update map id set) = Function.update map id (rules.foldl (sets.applyRule handler map) set) := by
      induction rules generalizing set with
      | nil => rfl
      | cons rule rules ih =>
        have here : sets.applyRule handler (Function.update map id set) set rule =
            sets.applyRule handler map set rule := by
          apply applyRule_congr
          intro other refers
          apply Function.update_of_ne
          rintro rfl
          exact apart ⟨opts, found, rule, within rule List.mem_cons_self, refers⟩
        rw [List.foldl_cons, List.foldl_cons, Function.update_self, here, Function.update_idem]
        exact ih (fun rule there => within rule (List.mem_cons_of_mem _ there)) _
    exact run opts.rules (fun _ there => there) ∅

theorem rebuildAllFromRules_eq (acyclic : sets.Acyclic handler) (map : Id → Finset Area) :
    sets.rebuildAllFromRules handler map = (sets.formulas handler).recalculate sets.nameByIndex map := by
  apply List.foldl_ext
  intro map id listed
  exact rebuildFromRules_eq listed (fun refers => acyclic id (Relation.TransGen.single refers)) map

/-- What a district reads when it is rebuilt, if all went well before: later ones still hold what they held. -/
noncomputable def readBy (id : Id) : Id → Finset Area :=
  Formulas.before sets.nameByIndex (denoted acyclic) map id

/-- The districts are right exactly where none of them sees that a later one is not rebuilt yet. -/
theorem rebuildAllFromRules_denoted_iff :
    HoldsDenoted acyclic (sets.rebuildAllFromRules handler map) ↔
      ∀ id ∈ sets.nameByIndex,
        sets.applyRules handler (readBy acyclic map id) id = sets.applyRules handler (denoted acyclic) id := by
  rw [rebuildAllFromRules_eq acyclic]
  exact Formulas.recalculate_eq_iff sets.sorted fun id _ => denoted_eq acyclic id

theorem readBy_of_earlier
    (earlier : ∀ first second, sets.RefersTo handler first second → second < first) (id : Id) :
    sets.applyRules handler (readBy acyclic map id) id = sets.applyRules handler (denoted acyclic) id := by
  apply applyRules_congr
  intro other refers
  exact if_pos ⟨List.mem_toFinset.mp (sets.refersTo_listed handler refers).2, earlier id other refers⟩

theorem acyclic_of_order (less : Id → Id → Prop) [IsStrictOrder Id less]
    (ordered : ∀ first second, sets.RefersTo handler first second → less first second) : sets.Acyclic handler := by
  intro id cycle
  have reaches {first second : Id} (reach : Relation.TransGen (sets.formulas handler).refers first second) :
      less first second := by
    induction reach with
    | single refers => exact ordered _ _ refers
    | tail _ refers further => exact IsTrans.trans _ _ _ further (ordered _ _ refers)
  exact irrefl_of less id (reaches cycle)

end Sets

def oneArea : SetHandler Text Text where
  find arg := if arg = "fr".toList then some arg else none
  applyFilter set _ := set

def twoDistricts (alps west : Rule Text) : Sets Text Text where
  options := [⟨"alps".toList, [alps]⟩, ⟨"west".toList, [west]⟩]
  sorted := List.pairwise_pair.mpr (show "alps".toList < "west".toList by decide +kernel)
  toId arg := arg.take 128

/-- `alps` refers to `west`, which comes later. -/
def alpsOfWest : Sets Text Text := twoDistricts (.add "west".toList) (.add "fr".toList)

def westOfAlps : Sets Text Text := twoDistricts (.add "fr".toList) (.add "alps".toList)

namespace Sets

theorem twoDistricts_refersTo {alps west : Rule Text} {first second : Text}
    (refers : (twoDistricts alps west).RefersTo oneArea first second) :
    first = "alps".toList ∧ Rule.RefersTo (twoDistricts alps west) oneArea second alps ∨
      first = "west".toList ∧ Rule.RefersTo (twoDistricts alps west) oneArea second west := by
  obtain ⟨opts, found, rule, listed, names⟩ := refers
  have same : opts.id = first := by simpa using List.find?_some found
  have there := List.mem_of_find?_eq_some found
  simp only [twoDistricts, List.mem_cons, List.not_mem_nil, or_false] at there
  rcases there with rfl | rfl
  · exact .inl ⟨same.symm, List.mem_singleton.mp listed ▸ names⟩
  · exact .inr ⟨same.symm, List.mem_singleton.mp listed ▸ names⟩

theorem alpsOfWest_acyclic : alpsOfWest.Acyclic oneArea := by
  apply acyclic_of_order fun first second => first < second
  intro first second refers
  rcases twoDistricts_refersTo refers with ⟨rfl, _, rfl, _⟩ | ⟨_, area, _⟩
  · decide +kernel
  · exact absurd area (by decide +kernel)

theorem westOfAlps_earlier (first second : Text) (refers : westOfAlps.RefersTo oneArea first second) :
    second < first := by
  rcases twoDistricts_refersTo refers with ⟨_, area, _⟩ | ⟨rfl, _, rfl, _⟩
  · exact absurd area (by decide +kernel)
  · decide +kernel

theorem westOfAlps_acyclic : westOfAlps.Acyclic oneArea :=
  acyclic_of_order (fun first second => second < first) westOfAlps_earlier

theorem westOfAlps_denoted :
    HoldsDenoted westOfAlps_acyclic (westOfAlps.rebuildAllFromRules oneArea fun _ => ∅) :=
  (rebuildAllFromRules_denoted_iff westOfAlps_acyclic fun _ => ∅).mpr fun id _ =>
    readBy_of_earlier westOfAlps_acyclic (fun _ => ∅) westOfAlps_earlier id

/-- `alps` is rebuilt when `west` is still empty, and stays empty. -/
theorem alpsOfWest_not_denoted :
    ¬HoldsDenoted alpsOfWest_acyclic (alpsOfWest.rebuildAllFromRules oneArea fun _ => ∅) := by
  intro right
  have empty : denoted alpsOfWest_acyclic "alps".toList = ∅ := by
    rw [← right "alps".toList (by decide +kernel)]
    decide +kernel
  have west : denoted alpsOfWest_acyclic "west".toList = {"fr".toList} := by
    rw [← right "west".toList (by decide +kernel)]
    decide +kernel
  rw [denoted_eq] at empty
  change ∅ ∪ denoted alpsOfWest_acyclic "west".toList = ∅ at empty
  rw [west] at empty
  exact absurd empty (by decide +kernel)

end Sets

end Antares.Data
