import Antares.BindingConstraints.Loader
import Antares.Library.Ranks
import Mathlib.Data.Prod.Lex

/-! The repository of the binding constraints of a study: its constraints in order, and the list of the
active ones, which is kept from the first time it is asked for.
-/

set_option autoImplicit false

namespace Antares.BindingConstraints

open Library Data

def valueForSort : Operator → Int
  | .opLess => 0
  | .opGreater => 1
  | .opEquality => 2
  | .opBoth => 3
  | .opUnknown => -1

def compareConstraints (s1 s2 : BindingConstraint) : Bool :=
  if s1.name ≠ s2.name then s1.name < s2.name else valueForSort s1.operatorType < valueForSort s2.operatorType

/-- `WhoseNameContains`: the name is longer than the filter, and has one of its characters. -/
def whoseNameContains (filter : Text) (bc : BindingConstraint) : Bool :=
  filter.length < bc.name.length && bc.name.any fun c => c ∈ filter

structure BindingConstraintsRepository where
  constraints : List Nat
  activeConstraints : Option (List Nat)
  object : Nat → BindingConstraint
  next : Nat
  allocated : ∀ bc ∈ constraints, bc < next
  distinct : constraints.Nodup

/-- What a study asks for, and the sections of `bindingconstraints.ini`. -/
structure LoadRequest where
  usedByTheSolver : Bool
  ignoreConstraints : Bool
  includeConstraints : Bool
  sorDay : Bool
  env : EnvForLoading
  ini : Option (List (List IniFile.Property))

inductive Change where
  | enabled (v : Bool)
  | weightOfLink (lnk : Nat) (w : Text.Double)
  | weightOfCluster (clstr : Nat) (w : Text.Double)
  | removeAllWeights

def Change.apply (study : Study) (bc : BindingConstraint) : Change → BindingConstraint
  | .enabled v => { bc with enabled := v }
  | .weightOfLink lnk w => bc.weightOfLink lnk w
  | .weightOfCluster clstr w => bc.weightOfCluster study clstr w
  | .removeAllWeights => bc.removeAllWeights

namespace BindingConstraintsRepository

variable (sorting : UnstableSort Nat) (repository : BindingConstraintsRepository)

def comesBefore (object : Nat → BindingConstraint) (first second : Nat) : Bool :=
  compareConstraints (object first) (object second)

def empty : BindingConstraintsRepository where
  constraints := []
  activeConstraints := none
  object := fun _ => {}
  next := 0
  allocated := fun _ none => absurd none List.not_mem_nil
  distinct := List.nodup_nil

def clear : BindingConstraintsRepository where
  constraints := []
  activeConstraints := none
  object := repository.object
  next := repository.next
  allocated := fun _ none => absurd none List.not_mem_nil
  distinct := List.nodup_nil

def insert (added : List BindingConstraint) : BindingConstraintsRepository :=
  let object := fun bc => if bc < repository.next then repository.object bc else added.getD (bc - repository.next) {}
  { constraints := sorting.sort (comesBefore object) (repository.constraints ++ List.range' repository.next added.length)
    activeConstraints := repository.activeConstraints
    object := object
    next := repository.next + added.length
    allocated := by
      intro bc member
      rcases List.mem_append.mp (sorting.mem_sort.mp member) with old | new
      · exact (repository.allocated bc old).trans_le (Nat.le_add_right _ _)
      · exact (List.mem_range'_1.mp new).2
    distinct := by
      refine (sorting.perm _ _).nodup_iff.mpr (repository.distinct.append List.nodup_range' fun bc old new => ?_)
      exact absurd (repository.allocated bc old) (List.mem_range'_1.mp new).1.not_gt }

def add (name : Text) : BindingConstraintsRepository :=
  repository.insert sorting [(({} : BindingConstraint).setName name).setPId name]

/-- `each`, for the constraints of the repository. -/
def each (change : BindingConstraint → BindingConstraint) : BindingConstraintsRepository :=
  { repository with
    object := fun bc => if bc ∈ repository.constraints then change (repository.object bc) else repository.object bc }

def changeConstraintsWeeklyToDaily : BindingConstraintsRepository :=
  repository.each fun bc => if bc.type = .typeWeekly then { bc with type := .typeDaily } else bc

def loadFromFolder (request : LoadRequest) : BindingConstraintsRepository :=
  let cleared := repository.clear
  if request.usedByTheSolver && (request.ignoreConstraints || !request.includeConstraints) then cleared
  else
    match request.ini with
    | none => cleared
    | some sections =>
      let loaded := cleared.insert sorting ((sections.filter (· ≠ [])).flatMap request.env.load)
      if request.usedByTheSolver && request.sorDay then loaded.changeConstraintsWeeklyToDaily else loaded

def update (bc : Nat) (change : BindingConstraint → BindingConstraint) : BindingConstraintsRepository :=
  { repository with object := Function.update repository.object bc (change (repository.object bc)) }

/-- Some constraint, it may be the renamed one, has the identifier of the new name. -/
def idTaken (name : Text) : Bool :=
  repository.constraints.any fun bc => (repository.object bc).id = (transformNameIntoID name).take constraintNameSize

def rename (bc : Nat) (newname : Text) : BindingConstraintsRepository × Bool :=
  let name := newname.take constraintNameSize
  if name = (repository.object bc).name then (repository, true)
  else if repository.idTaken name then (repository, false)
  else (repository.update bc fun bc => (bc.setName name).setPId name, true)

def erase (removed : BindingConstraint → Bool) : BindingConstraintsRepository :=
  { repository with
    constraints := repository.constraints.filter fun bc => !removed (repository.object bc)
    allocated := fun bc member => repository.allocated bc (List.mem_filter.mp member).1
    distinct := repository.distinct.filter _ }

def removeConstraintsWhoseNameConstains (filter : Text) : BindingConstraintsRepository :=
  repository.erase (whoseNameContains filter)

def removeArea (study : Study) (area : Nat) : BindingConstraintsRepository :=
  { repository.erase fun bc => bc.containsArea study area with activeConstraints := none }

def removeLink (lnk : Nat) : BindingConstraintsRepository :=
  { repository.erase fun bc => bc.containsLink lnk with activeConstraints := none }

def removeConstraint (bc : Nat) : BindingConstraintsRepository where
  constraints := repository.constraints.filter fun other => other ≠ bc
  activeConstraints := none
  object := repository.object
  next := repository.next
  allocated := fun bc member => repository.allocated bc (List.mem_filter.mp member).1
  distinct := repository.distinct.filter _

def reverseWeightSign (lnk : Nat) : BindingConstraintsRepository := repository.each fun bc => bc.reverseWeightSign lnk

def actives : List Nat := repository.constraints.filter fun bc => (repository.object bc).isActive

def activeContraints : List Nat × BindingConstraintsRepository :=
  match repository.activeConstraints with
  | some kept => (kept, repository)
  | none => (repository.actives, { repository with activeConstraints := some repository.actives })

end BindingConstraintsRepository

inductive Operation where
  | load (request : LoadRequest)
  | add (name : Text)
  | rename (bc : Nat) (newname : Text)
  | removeConstraint (bc : Nat)
  | removeArea (area : Nat)
  | removeLink (lnk : Nat)
  | removeConstraintsWhoseNameConstains (filter : Text)
  | clear
  | reverseWeightSign (lnk : Nat)
  | change (bc : Nat) (change : Change)
  | activeContraints

namespace BindingConstraintsRepository

variable (sorting : UnstableSort Nat) (study : Study) (repository : BindingConstraintsRepository)

def step (repository : BindingConstraintsRepository) : Operation → BindingConstraintsRepository
  | .load request => repository.loadFromFolder sorting request
  | .add name => repository.add sorting name
  | .rename bc newname => (repository.rename bc newname).1
  | .removeConstraint bc => repository.removeConstraint bc
  | .removeArea area => repository.removeArea study area
  | .removeLink lnk => repository.removeLink lnk
  | .removeConstraintsWhoseNameConstains filter => repository.removeConstraintsWhoseNameConstains filter
  | .clear => repository.clear
  | .reverseWeightSign lnk => repository.reverseWeightSign lnk
  | .change bc change => repository.update bc (change.apply study)
  | .activeContraints => repository.activeContraints.2

def run (operations : List Operation) : BindingConstraintsRepository := operations.foldl (step sorting study) empty

section Order

def sortKey (bc : BindingConstraint) : Text ×ₗ Int := toLex (bc.name, valueForSort bc.operatorType)

variable (s1 s2 : BindingConstraint)

theorem compareConstraints_iff : compareConstraints s1 s2 = true ↔ sortKey s1 < sortKey s2 := by
  unfold compareConstraints sortKey
  rw [Prod.Lex.toLex_lt_toLex]
  by_cases same : s1.name = s2.name
  · simp [same]
  · simp [same]

theorem compareConstraints_eq_false_iff :
    compareConstraints s1 s2 = false ↔ sortKey s2 ≤ sortKey s1 := by
  rw [← Bool.not_eq_true, compareConstraints_iff, not_lt]

theorem comesBefore_weak (object : Nat → BindingConstraint) : StrictWeakOrder (comesBefore object) where
  asymm _ _ before := (compareConstraints_eq_false_iff _ _).mpr ((compareConstraints_iff _ _).mp before).le
  negTrans _ _ _ before after := (compareConstraints_eq_false_iff _ _).mpr
    (((compareConstraints_eq_false_iff _ _).mp before).trans ((compareConstraints_eq_false_iff _ _).mp after))

theorem inOrder_congr {first second : Nat → BindingConstraint} {constraints : List Nat}
    (same : ∀ bc ∈ constraints, sortKey (first bc) = sortKey (second bc)) (ordered : InOrder (comesBefore first) constraints) :
    InOrder (comesBefore second) constraints := by
  refine List.Pairwise.imp_of_mem (fun {a b} inA inB before => ?_) ordered
  rw [comesBefore, compareConstraints_eq_false_iff] at before ⊢
  rwa [← same a inA, ← same b inB]

theorem valueForSort_injective : Function.Injective valueForSort := by
  intro first second same
  cases first <;> cases second <;> first | rfl | exact absurd same (by decide)

theorem sortKey_apply (study : Study) (bc : BindingConstraint) (change : Change) :
    sortKey (change.apply study bc) = sortKey bc := by
  cases change with
  | enabled v => rfl
  | weightOfLink lnk w => rfl
  | weightOfCluster clstr w =>
    unfold Change.apply BindingConstraint.weightOfCluster
    dsimp only
    by_cases active : (study.cluster clstr).isActive = true
    · rw [if_pos active]
      rfl
    · rw [if_neg active]
  | removeAllWeights => rfl

end Order

/-- The constraints are sorted, and the active ones are given when they are asked for. -/
structure Right : Prop where
  sorted : InOrder (comesBefore repository.object) repository.constraints
  active : repository.activeContraints.1 = repository.actives

theorem active_iff : repository.activeContraints.1 = repository.actives ↔
    ∀ kept, repository.activeConstraints = some kept → kept = repository.actives := by
  unfold activeContraints
  cases repository.activeConstraints with
  | none => simp
  | some kept => simp

def KeepsPlace (bc : Nat) (newname : Text) : Prop :=
  ∀ before after, repository.constraints = before ++ bc :: after →
    (∀ other ∈ before, compareConstraints ((repository.object bc).setName newname) (repository.object other) = false) ∧
      ∀ other ∈ after, compareConstraints (repository.object other) ((repository.object bc).setName newname) = false

/-- No list is kept that an operation would have to change, and a new name keeps its place. -/
def Keeps : Operation → Prop
  | .add _ => repository.activeConstraints = none ∨
      ∀ first ∈ repository.actives, ∀ second ∈ repository.actives,
        (repository.object first).name = (repository.object second).name →
          (repository.object first).operatorType = (repository.object second).operatorType → first = second
  | .rename bc newname => repository.idTaken (newname.take constraintNameSize) = true ∨ repository.KeepsPlace bc newname
  | .removeConstraintsWhoseNameConstains filter => repository.activeConstraints = none ∨
      ∀ bc ∈ repository.actives, whoseNameContains filter (repository.object bc) = false
  | .change bc change => repository.activeConstraints = none ∨ bc ∉ repository.constraints ∨
      (change.apply study (repository.object bc)).isActive = (repository.object bc).isActive
  | _ => True

section Steps

variable {repository}

theorem Right.kept (right : repository.Right) {kept : List Nat} (cached : repository.activeConstraints = some kept) :
    kept = repository.actives := repository.active_iff.mp right.active kept cached

theorem right_of_none (none : repository.activeConstraints = none)
    (sorted : InOrder (comesBefore repository.object) repository.constraints) : repository.Right where
  sorted := sorted
  active := repository.active_iff.mpr fun kept cached => by rw [none] at cached; cases cached

theorem Right.of_same (right : repository.Right) {after : BindingConstraintsRepository}
    (cached : after.activeConstraints = repository.activeConstraints)
    (actives : repository.activeConstraints ≠ none → after.actives = repository.actives)
    (sorted : InOrder (comesBefore after.object) after.constraints) : after.Right where
  sorted := sorted
  active := after.active_iff.mpr fun kept isKept => by
    rw [cached] at isKept
    rw [actives (by rw [isKept]; exact Option.some_ne_none kept)]
    exact right.kept isKept

theorem right_clear : repository.clear.Right := right_of_none rfl List.Pairwise.nil

theorem sorted_insert (added : List BindingConstraint) :
    InOrder (comesBefore (repository.insert sorting added).object) (repository.insert sorting added).constraints :=
  sorting.inOrder _ _ (comesBefore_weak _)

/-- `each` keeps names, operators and what is active. -/
theorem Right.each (right : repository.Right) {change : BindingConstraint → BindingConstraint}
    (key : ∀ bc, sortKey (change bc) = sortKey bc) (active : ∀ bc, (change bc).isActive = bc.isActive) :
    (repository.each change).Right := by
  refine right.of_same rfl (fun _ => ?_) (inOrder_congr (fun bc member => ?_) right.sorted)
  · refine List.filter_congr fun bc member => ?_
    have inside : bc ∈ repository.constraints := member
    unfold BindingConstraintsRepository.each
    dsimp only
    rw [if_pos inside, active]
  · have inside : bc ∈ repository.constraints := member
    unfold BindingConstraintsRepository.each
    dsimp only
    rw [if_pos inside, key]

theorem Right.changeConstraintsWeeklyToDaily (right : repository.Right) :
    repository.changeConstraintsWeeklyToDaily.Right := by
  refine right.each (fun bc => ?_) fun bc => ?_
  · split_ifs <;> rfl
  · split_ifs <;> rfl

theorem right_loadFromFolder (request : LoadRequest) : (repository.loadFromFolder sorting request).Right := by
  have loaded (added : List BindingConstraint) : (repository.clear.insert sorting added).Right :=
    right_of_none rfl (sorted_insert sorting added)
  unfold loadFromFolder
  dsimp only
  split
  · exact right_clear
  · cases request.ini with
    | none => exact right_clear
    | some sections =>
      dsimp only
      split
      · exact (loaded _).changeConstraintsWeeklyToDaily
      · exact loaded _

theorem Right.add (right : repository.Right) {name : Text} (keeps : repository.Keeps study (.add name)) :
    (repository.add sorting name).Right := by
  refine right.of_same rfl (fun cached => ?_) (sorted_insert sorting _)
  have apart := keeps.resolve_left cached
  have old {bc : Nat} (inside : bc ∈ repository.constraints) :
      (repository.add sorting name).object bc = repository.object bc := if_pos (repository.allocated bc inside)
  have new : (repository.add sorting name).object repository.next =
      (({} : BindingConstraint).setName name).setPId name := by
    refine (if_neg (lt_irrefl _)).trans ?_
    rw [Nat.sub_self]
    rfl
  have ordered : InOrder (comesBefore (repository.add sorting name).object) repository.constraints :=
    inOrder_congr (fun bc inside => by rw [old inside]) right.sorted
  have activeOld {bc : Nat} (inside : bc ∈ repository.constraints)
      (active : ((repository.add sorting name).object bc).isActive = true) : bc ∈ repository.actives :=
    List.mem_filter.mpr ⟨inside, by rw [← old inside]; exact active⟩
  refine (sorting.filter_sort_append (comesBefore_weak _) ordered [repository.next] _ (fun bc member => ?_) ?_).trans ?_
  · rw [List.mem_singleton.mp member, new]
    rfl
  · intro first inFirst second inSecond activeFirst activeSecond before after
    have inFirstActives := activeOld inFirst activeFirst
    have inSecondActives := activeOld inSecond activeSecond
    rw [comesBefore, compareConstraints_eq_false_iff, old inFirst, old inSecond] at before after
    have same := congrArg ofLex (le_antisymm after before)
    refine apart first inFirstActives second inSecondActives (Prod.ext_iff.mp same).1 ?_
    exact valueForSort_injective (Prod.ext_iff.mp same).2
  · exact List.filter_congr fun bc inside => by rw [old inside]

theorem Right.sorted_filter (right : repository.Right) (keep : Nat → Bool) :
    InOrder (comesBefore repository.object) (repository.constraints.filter keep) :=
  List.Pairwise.filter keep right.sorted

theorem Right.removeConstraintsWhoseNameConstains (right : repository.Right) {filter : Text}
    (keeps : repository.Keeps study (.removeConstraintsWhoseNameConstains filter)) :
    (repository.removeConstraintsWhoseNameConstains filter).Right := by
  refine right.of_same rfl (fun cached => ?_) (right.sorted_filter _)
  have apart := keeps.resolve_left cached
  unfold actives
  refine (List.filter_filter ..).trans (List.filter_congr fun bc inside => ?_)
  by_cases active : (repository.object bc).isActive = true
  · have stays := apart bc (List.mem_filter.mpr ⟨inside, active⟩)
    change ((repository.object bc).isActive && !whoseNameContains filter (repository.object bc)) = _
    rw [stays, active]
    rfl
  · change ((repository.object bc).isActive && !whoseNameContains filter (repository.object bc)) = _
    rw [Bool.not_eq_true] at active
    rw [active]
    rfl

theorem Right.change (right : repository.Right) {bc : Nat} {change : Change}
    (keeps : repository.Keeps study (.change bc change)) : (repository.update bc (change.apply study)).Right := by
  have key (other : Nat) : sortKey ((repository.update bc (change.apply study)).object other) =
      sortKey (repository.object other) := by
    unfold update
    dsimp only
    by_cases same : other = bc
    · rw [same, Function.update_self]
      exact sortKey_apply study _ change
    · rw [Function.update_of_ne same]
  refine right.of_same rfl (fun cached => ?_) (inOrder_congr (fun other _ => (key other).symm) right.sorted)
  refine List.filter_congr fun other inside => ?_
  unfold update
  dsimp only
  by_cases same : other = bc
  · rw [same, Function.update_self]
    exact (keeps.resolve_left cached).resolve_left fun outside => outside (same ▸ inside)
  · rw [Function.update_of_ne same]

theorem Right.update_name (right : repository.Right) {bc : Nat} {newname : Text} (place : repository.KeepsPlace bc newname) :
    (repository.update bc fun bc => (bc.setName (newname.take constraintNameSize)).setPId (newname.take constraintNameSize)).Right := by
  have self : sortKey (((repository.object bc).setName (newname.take constraintNameSize)).setPId (newname.take constraintNameSize)) =
      sortKey ((repository.object bc).setName newname) := by
    unfold sortKey BindingConstraint.setPId BindingConstraint.setName
    dsimp only
    rw [List.take_take, min_self]
  refine right.of_same rfl (fun _ => ?_) ?_
  · refine List.filter_congr fun other _ => ?_
    unfold update
    dsimp only
    by_cases same : other = bc
    · rw [same, Function.update_self]
      rfl
    · rw [Function.update_of_ne same]
  · unfold update
    dsimp only
    by_cases inside : bc ∈ repository.constraints
    · obtain ⟨before, after, split⟩ := List.append_of_mem inside
      obtain ⟨below, above⟩ := place before after split
      have distinct := repository.distinct
      have sorted := right.sorted
      rw [split] at distinct sorted ⊢
      obtain ⟨sortedBefore, sortedRest, across⟩ := List.pairwise_append.mp sorted
      obtain ⟨_, sortedAfter⟩ := List.pairwise_cons.mp sortedRest
      have notBefore : bc ∉ before := fun member => (List.nodup_append.mp distinct).2.2 bc member bc List.mem_cons_self rfl
      have notAfter : bc ∉ after := (List.nodup_cons.mp (List.nodup_append.mp distinct).2.1).1
      have others {other : Nat} (different : other ≠ bc) {object : BindingConstraint} :
          Function.update repository.object bc object other = repository.object other := Function.update_of_ne different _ _
      have kept {part : List Nat} (outside : bc ∉ part) {object : BindingConstraint}
          (ordered : InOrder (comesBefore repository.object) part) :
          InOrder (comesBefore (Function.update repository.object bc object)) part :=
        inOrder_congr (fun other member => by rw [others fun same => outside (same ▸ member)]) ordered
      refine List.pairwise_append.mpr ⟨kept notBefore sortedBefore, List.pairwise_cons.mpr ⟨?_, kept notAfter sortedAfter⟩, ?_⟩
      · intro other member
        rw [comesBefore, compareConstraints_eq_false_iff, Function.update_self, others fun same => notAfter (same ▸ member), self,
          ← compareConstraints_eq_false_iff]
        exact above other member
      · intro first inBefore second inRest
        have different : first ≠ bc := fun same => notBefore (same ▸ inBefore)
        rw [comesBefore, compareConstraints_eq_false_iff, others different]
        rcases List.mem_cons.mp inRest with rfl | inAfter
        · rw [Function.update_self, self, ← compareConstraints_eq_false_iff]
          exact below first inBefore
        · rw [others fun same => notAfter (same ▸ inAfter), ← compareConstraints_eq_false_iff]
          exact across first inBefore second inRest
    · refine inOrder_congr (fun other member => ?_) right.sorted
      have different : other ≠ bc := fun same => inside (same ▸ member)
      rw [Function.update_of_ne different]

theorem Right.rename (right : repository.Right) {bc : Nat} {newname : Text}
    (keeps : repository.Keeps study (.rename bc newname)) : (repository.rename bc newname).1.Right := by
  unfold BindingConstraintsRepository.rename
  dsimp only
  split_ifs with same taken
  · exact right
  · exact right
  · exact right.update_name (keeps.resolve_left taken)

theorem Right.reverseWeightSign (right : repository.Right) (lnk : Nat) : (repository.reverseWeightSign lnk).Right := by
  refine right.each (fun bc => rfl) fun bc => ?_
  unfold BindingConstraint.reverseWeightSign BindingConstraint.isActive BindingConstraint.skipped
  dsimp only
  rw [List.isEmpty_map]

theorem Right.step (right : repository.Right) {operation : Operation} (keeps : repository.Keeps study operation) :
    (BindingConstraintsRepository.step sorting study repository operation).Right := by
  cases operation with
  | load request => exact right_loadFromFolder sorting request
  | add name => exact right.add sorting study keeps
  | rename bc newname => exact right.rename study keeps
  | removeConstraint bc => exact right_of_none rfl (right.sorted_filter _)
  | removeArea area => exact right_of_none rfl (right.sorted_filter _)
  | removeLink lnk => exact right_of_none rfl (right.sorted_filter _)
  | removeConstraintsWhoseNameConstains filter => exact right.removeConstraintsWhoseNameConstains study keeps
  | clear => exact right_clear
  | reverseWeightSign lnk => exact right.reverseWeightSign lnk
  | change bc change => exact right.change study keeps
  | activeContraints =>
    unfold BindingConstraintsRepository.step activeContraints
    cases cached : repository.activeConstraints with
    | none => exact ⟨right.sorted, rfl⟩
    | some kept => exact right

end Steps

/-- Every operation keeps what is right of the repository it finds. -/
def KeepsAll (repository : BindingConstraintsRepository) : List Operation → Prop
  | [] => True
  | operation :: later => repository.Keeps study operation ∧ KeepsAll (step sorting study repository operation) later

theorem Right.foldl {repository : BindingConstraintsRepository} (right : repository.Right) {operations : List Operation}
    (keeps : repository.KeepsAll sorting study operations) :
    (operations.foldl (BindingConstraintsRepository.step sorting study) repository).Right := by
  induction operations generalizing repository with
  | nil => exact right
  | cons operation later ih => exact ih (right.step sorting study keeps.1) keeps.2

theorem KeepsAll.of_append {repository : BindingConstraintsRepository} {before after : List Operation}
    (keeps : repository.KeepsAll sorting study (before ++ after)) : repository.KeepsAll sorting study before := by
  induction before generalizing repository with
  | nil => exact trivial
  | cons operation later ih => exact ⟨keeps.1, ih keeps.2⟩

/-- In a run whose operations keep what is right, the constraints are always sorted, and whenever the
active ones are asked for, they are the enabled constraints with a weight, in the order of the repository.
-/
theorem run_right {operations : List Operation} (keeps : empty.KeepsAll sorting study operations) {before : List Operation}
    (reached : before <+: operations) : (run sorting study before).Right := by
  obtain ⟨after, rfl⟩ := reached
  have start : empty.Right := right_of_none rfl List.Pairwise.nil
  exact start.foldl sorting study keeps.of_append

section OneConstraint

def oneLinkStudy : Study where
  link := fun _ => { index := 0, from' := 0, with' := 1 }
  cluster := fun _ => default

/-- A constraint gets a weight and is enabled before the active ones are asked for. -/
def enabledThenAsked : List Operation :=
  [.add "lag".toList, .change 0 (.weightOfLink 0 (.finite 1)), .change 0 (.enabled true), .activeContraints]

theorem enabledThenAsked_right : (run mergeSorting oneLinkStudy enabledThenAsked).Right := by
  have keeps : empty.KeepsAll mergeSorting oneLinkStudy enabledThenAsked :=
    ⟨.inl rfl, .inl rfl, .inl rfl, trivial, trivial⟩
  exact run_right mergeSorting oneLinkStudy keeps (List.prefix_refl enabledThenAsked)

/-- The constraint is disabled after that, and still given. -/
theorem disabled_constraint_is_given :
    (run mergeSorting oneLinkStudy (enabledThenAsked ++ [.change 0 (.enabled false)])).activeContraints.1 = [0] ∧
      (run mergeSorting oneLinkStudy (enabledThenAsked ++ [.change 0 (.enabled false)])).actives = [] := by
  constructor
  · change (mergeSorting.sort _ [0]).filter _ = [0]
    rw [mergeSorting.sort_singleton]
    decide +kernel
  · change (mergeSorting.sort _ [0]).filter _ = []
    rw [mergeSorting.sort_singleton]
    decide +kernel

end OneConstraint

end BindingConstraintsRepository

end Antares.BindingConstraints
