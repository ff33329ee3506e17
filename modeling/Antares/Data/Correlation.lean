import Antares.GeneralData.Values

/-! The correlation coefficients between the areas of a study, annual or monthly: how they are reset, loaded, set and
copied from another study.
-/

set_option autoImplicit false

namespace Antares.Data.Correlations

open Library

structure Area where
  id : Text
  name : Text
  deriving DecidableEq

/-- The areas by index, and the identifiers that were collected for the other lists. -/
structure AreaList where
  byIndex : List Area
  nameidSet : List Text

namespace AreaList
variable (areas : AreaList)

def size : Nat := areas.byIndex.length

def find (id : Text) : Option Nat := areas.byIndex.findIdx? fun area => area.id = id

def findFromName (name : Text) : Option Nat := areas.find (transformNameIntoID name)

/-- `FindMappedAreaName`: the `(uint)-1` of the source is none here. -/
def findMappedAreaName (mapping : List (Text × Text)) (name : Text) : Option Nat :=
  areas.findFromName ((mapping.lookup name).getD name)

end AreaList

structure Matrix where
  width : Nat
  height : Nat
  entry : Nat → Nat → Text.Double

namespace Matrix
variable (m : Matrix)

/-- `resize` to the areas, and `fillUnit` -/
def unit (size : Nat) : Matrix := ⟨size, size, fun x y => if x = y then .finite 1 else .finite 0⟩

variable (x y : Nat)

def read : Option Text.Double := if x < m.width ∧ y < m.height then some (m.entry x y) else none

def write (v : Text.Double) : Option Matrix :=
  if x < m.width ∧ y < m.height then
    some { m with entry := Function.update m.entry x (Function.update (m.entry x) y v) }
  else none

def writeBoth (v : Text.Double) : Option Matrix := (m.write x y v).bind fun m => m.write y x v

end Matrix

/-- A value is brought into the bounds; one that is no number passes both comparisons. -/
def clamp (v : Text.Double) : Text.Double :=
  if v.less (.finite (-1)) then .finite (-1) else if Text.Double.less (.finite 1) v then .finite 1 else v

/-- `Correlation::set` -/
def setCoefficient (m : Matrix) (from' to' : Nat) (v : Text.Double) : Option Matrix :=
  if from' = to' then some m else m.writeBoth from' to' (clamp v)

def readProperty (areas : AreaList) (p : IniFile.Property) : Option (Nat × Nat × Text.Double) := do
  let offset := p.key.idxOf '%'
  if offset = p.key.length ∨ offset = 0 ∨ offset = p.key.length - 1 then none
  else
    let from' ← areas.find (p.key.take offset)
    let to' ← areas.find (p.key.drop (offset + 1))
    let v := IniFile.toDouble p.value
    if v.2 then some (from', to', v.1) else none

def readCorrelationCoefficients (areas : AreaList) (m : Matrix) (read : IniFile.Section) : Option Matrix :=
  read.properties.foldlM (fun m p =>
    match readProperty areas p with
    | some (from', to', v) => setCoefficient m from' to' v
    | none => some m) m

inductive Mode where
  | modeAnnual
  | modeMonthly
  deriving DecidableEq

/-- The mode that the general section says, in a text of 64 characters. -/
def readCorrelationMode (ini : List IniFile.Section) : Option Mode := do
  let general ← ini.find? fun read => read.name = "general".toList
  let p ← general.properties.find? fun p => p.key = "mode".toList
  let s := toLower (Text.trim isBlank (p.value.take 64))
  if s = "annual".toList then some .modeAnnual else if s = "monthly".toList then some .modeMonthly else none

/-- `annual` and the twelve matrices of `monthly`, where they are allocated. -/
structure Correlation where
  mode : Option Mode := none
  annual : Option Matrix := none
  monthly : Option (Nat → Matrix) := none

namespace Correlation
variable (usedFromGUI : Bool) (study : AreaList)

def reset : Correlation where
  mode := some .modeAnnual
  annual := some (.unit study.size)
  monthly := if usedFromGUI then some fun _ => .unit study.size else none

def monthOf (read : IniFile.Section) : Option Nat :=
  let index := GeneralData.toInt read.name
  if index.2 ∧ 0 ≤ index.1 ∧ index.1 < 12 then some index.1.toNat else none

variable (ini : List IniFile.Section)

def annualSection : Option IniFile.Section := ini.find? fun read => read.name = "annual".toList

def loadAnnual : Option Matrix :=
  match annualSection ini with
  | some read => readCorrelationCoefficients study (.unit study.size) read
  | none => some (.unit study.size)

def loadMonthly : Option (Nat → Matrix) :=
  ini.foldlM (fun monthly read =>
    match monthOf read with
    | some index => (readCorrelationCoefficients study (monthly index) read).map (Function.update monthly index)
    | none => some monthly) fun _ => .unit study.size

/-- `internalLoadFromINI`: what was there before is deleted, and a file without mode resets. -/
def load : Option Correlation :=
  match readCorrelationMode ini with
  | none => some (reset usedFromGUI study)
  | some mode =>
    (if usedFromGUI ∨ mode = .modeAnnual then (loadAnnual study ini).map some else some none).bind fun annual =>
      (if usedFromGUI ∨ mode = .modeMonthly then (loadMonthly study ini).map some else some none).bind fun monthly =>
        some ⟨some mode, annual, monthly⟩

end Correlation

/-- A source study, an area of it, and the names its areas have in the target study. -/
structure Copy where
  source : Correlation
  studySource : AreaList
  areaSource : Text
  mapping : List (Text × Text)

namespace Copy
variable (copy : Copy) (study : AreaList)

/-- The area of the target study that an area of the source goes to. -/
def image (x : Nat) : Option Nat := (copy.studySource.byIndex[x]?).bind fun area => study.findMappedAreaName copy.mapping area.name

def target : Option Nat := study.findMappedAreaName copy.mapping copy.areaSource

/-- An area of the source: the index of a missing target is none, and fails where it is used. -/
def copyCell (mxsrc : Matrix) (areaSource : Nat) (mxout : Matrix) (id : Text) : Option Matrix :=
  match copy.studySource.find id with
  | none => some mxout
  | some x =>
    match copy.image study x with
    | none => some mxout
    | some areaIndex => do
      let c ← mxsrc.read areaSource x
      let areaTarget ← copy.target study
      mxout.writeBoth areaTarget areaIndex c

def copyFromSingleMatrix (mxsrc mxout : Matrix) (areaSource : Nat) : Option Matrix :=
  copy.studySource.nameidSet.foldlM (copy.copyCell study mxsrc areaSource) mxout

def copyMonth (source : Nat → Matrix) (areaSource : Nat) (monthly : Nat → Matrix) (i : Nat) : Option (Nat → Matrix) :=
  (copy.copyFromSingleMatrix study (source i) (monthly i) areaSource).map (Function.update monthly i)

/-- `copyFrom`; a matrix that was not allocated cannot be read. -/
def copyFrom (correlation : Correlation) : Option Correlation :=
  if study.size ≤ 1 then some correlation
  else
    match copy.studySource.findFromName copy.areaSource with
    | none => some correlation
    | some areaSource => do
      let sourceAnnual ← copy.source.annual
      let annual ← correlation.annual
      let annual ← copy.copyFromSingleMatrix study sourceAnnual annual areaSource
      let source ← copy.source.monthly
      let monthly ← correlation.monthly
      let monthly ← (List.range 12).foldlM (copy.copyMonth study source areaSource) monthly
      return { correlation with annual := some annual, monthly := some monthly }

end Copy

/-- What a program does with the correlations of a study; a matrix that is not held cannot be given to `set`. -/
inductive Operation (study : AreaList) where
  | reset
  | load (ini : List IniFile.Section)
  | setAnnual (from' to' : Fin study.size) (v : Text.Double)
  | setMonthly (month : Fin 12) (from' to' : Fin study.size) (v : Text.Double)
  | copyFrom (copy : Copy)

def Operation.apply (usedFromGUI : Bool) {study : AreaList} (correlation : Correlation) :
    Operation study → Option Correlation
  | .reset => some (Correlation.reset usedFromGUI study)
  | .load ini => Correlation.load usedFromGUI study ini
  | .setAnnual from' to' v =>
    match correlation.annual with
    | some m => (setCoefficient m from' to' v).map fun m => { correlation with annual := some m }
    | none => some correlation
  | .setMonthly month from' to' v =>
    match correlation.monthly with
    | some monthly => (setCoefficient (monthly month) from' to' v).map fun m =>
      { correlation with monthly := some (Function.update monthly month m) }
    | none => some correlation
  | .copyFrom copy => copy.copyFrom study correlation

def Coefficient (v : Text.Double) : Prop := ∃ a : ℚ, v = .finite a ∧ -1 ≤ a ∧ a ≤ 1

/-- The matrices of a study: as many columns and rows as areas, symmetric, and with ones on the diagonal. -/
structure IsCorrelation (size : Nat) (m : Matrix) : Prop where
  square : m.width = size ∧ m.height = size
  symmetric : ∀ x < size, ∀ y < size, m.entry x y = m.entry y x
  diagonal : ∀ x < size, m.entry x x = .finite 1
  bounded : ∀ x < size, ∀ y < size, Coefficient (m.entry x y)

theorem coefficient_one : Coefficient (.finite 1) := ⟨1, rfl, by norm_num, le_rfl⟩

theorem isCorrelation_unit (size : Nat) : IsCorrelation size (.unit size) where
  square := ⟨rfl, rfl⟩
  symmetric x _ y _ := by simp only [Matrix.unit, eq_comm]
  diagonal x _ := if_pos rfl
  bounded x _ y _ := by
    unfold Matrix.unit
    dsimp only
    split_ifs
    · exact coefficient_one
    · exact ⟨0, rfl, by norm_num, by norm_num⟩

theorem coefficient_clamp {v : Text.Double} (number : v ≠ .nan) : Coefficient (clamp v) := by
  cases v with
  | finite a =>
    by_cases low : a < -1
    · exact ⟨-1, by simp [clamp, Text.Double.less, low], le_rfl, by norm_num⟩
    · by_cases high : 1 < a
      · exact ⟨1, by simp [clamp, Text.Double.less, low, high], by norm_num, le_rfl⟩
      · exact ⟨a, by simp [clamp, Text.Double.less, low, high], not_lt.mp low, not_lt.mp high⟩
  | infinite negative =>
    cases negative
    · exact ⟨1, by simp [clamp, Text.Double.less], by norm_num, le_rfl⟩
    · exact ⟨-1, by simp [clamp, Text.Double.less], le_rfl, by norm_num⟩
  | nan => exact absurd rfl number

def Of (x y p q : Nat) : Prop := p = x ∧ q = y ∨ p = y ∧ q = x

instance (x y p q : Nat) : Decidable (Of x y p q) := inferInstanceAs (Decidable (_ ∨ _))

namespace IsCorrelation
variable {size x y : Nat} {m : Matrix}

theorem writeBoth (isCorrelation : IsCorrelation size m) (left : x < size) (right : y < size) {c : Text.Double}
    (coefficient : Coefficient c) (diagonal : x = y → c = .finite 1) :
    ∃ after, m.writeBoth x y c = some after ∧ IsCorrelation size after ∧
      ∀ p q, ¬ Of x y p q → after.entry p q = m.entry p q := by
  obtain ⟨⟨width, height⟩, symmetric, ones, bounded⟩ := isCorrelation
  have cells : ∃ after, m.writeBoth x y c = some after ∧ after.width = size ∧ after.height = size ∧
      ∀ p q, after.entry p q = if Of x y p q then c else m.entry p q := by
    unfold Matrix.writeBoth Matrix.write
    rw [if_pos ⟨width ▸ left, height ▸ right⟩, Option.bind_some, if_pos ⟨width ▸ right, height ▸ left⟩]
    refine ⟨_, rfl, width, height, fun p q => ?_⟩
    simp only [Function.update_apply]
    unfold Of
    split_ifs <;> simp_all
  obtain ⟨after, done, wide, high, entry⟩ := cells
  refine ⟨after, done, ⟨⟨wide, high⟩, fun p pIn q qIn => ?_, fun p pIn => ?_, fun p pIn q qIn => ?_⟩, fun p q other => ?_⟩
  · have turned : Of x y p q ↔ Of x y q p := by
      unfold Of
      tauto
    rw [entry, entry, symmetric p pIn q qIn]
    simp only [turned]
  · rw [entry]
    split_ifs with here
    · exact diagonal (by unfold Of at here; omega)
    · exact ones p pIn
  · rw [entry]
    split_ifs
    · exact coefficient
    · exact bounded p pIn q qIn
  · rw [entry, if_neg other]

theorem setCoefficient (isCorrelation : IsCorrelation size m) (left : x < size) (right : y < size) {v : Text.Double}
    (number : x = y ∨ v ≠ .nan) : ∃ after, Correlations.setCoefficient m x y v = some after ∧ IsCorrelation size after := by
  unfold Correlations.setCoefficient
  split_ifs with same
  · exact ⟨m, rfl, isCorrelation⟩
  · obtain ⟨after, done, kept, -⟩ := isCorrelation.writeBoth left right (coefficient_clamp (number.resolve_left same))
      fun equal => absurd equal same
    exact ⟨after, done, kept⟩

end IsCorrelation

variable {areas : AreaList}

theorem AreaList.find_lt {id : Text} {index : Nat} (found : areas.find id = some index) :
    index < areas.size := by
  obtain ⟨inside, -⟩ := List.findIdx?_eq_some_iff_getElem.mp found
  exact inside

theorem readProperty_lt {p : IniFile.Property} {from' to' : Nat} {v : Text.Double}
    (read : readProperty areas p = some (from', to', v)) : from' < areas.size ∧ to' < areas.size := by
  unfold readProperty at read
  dsimp only at read
  split_ifs at read with invalid isDouble
  · simp only [Option.bind_eq_bind, Option.bind_eq_some_iff] at read
    obtain ⟨first, foundFrom, second, foundTo, read⟩ := read
    simp only [Option.some.injEq, Prod.mk.injEq] at read
    obtain ⟨rfl, rfl, -⟩ := read
    exact ⟨AreaList.find_lt foundFrom, AreaList.find_lt foundTo⟩
  · simp at read

/-- No coefficient that is read for two areas is `nan`. -/
def Numbers (areas : AreaList) (read : IniFile.Section) : Prop :=
  ∀ p ∈ read.properties, ∀ from' to' v, readProperty areas p = some (from', to', v) → from' = to' ∨ v ≠ .nan

theorem IsCorrelation.readCoefficients {m : Matrix} (isCorrelation : IsCorrelation areas.size m)
    {read : IniFile.Section} (numbers : Numbers areas read) :
    ∃ after, readCorrelationCoefficients areas m read = some after ∧ IsCorrelation areas.size after := by
  unfold readCorrelationCoefficients
  unfold Numbers at numbers
  generalize read.properties = properties at numbers ⊢
  induction properties generalizing m with
  | nil => exact ⟨m, rfl, isCorrelation⟩
  | cons p rest ih =>
    obtain ⟨first, others⟩ := List.forall_mem_cons.mp numbers
    rw [List.foldlM_cons]
    cases property : readProperty areas p with
    | none => exact ih isCorrelation others
    | some said =>
      obtain ⟨from', to', v⟩ := said
      obtain ⟨left, right⟩ := readProperty_lt property
      obtain ⟨next, done, kept⟩ := isCorrelation.setCoefficient left right (first from' to' v property)
      simp only [done, Option.bind_eq_bind, Option.bind_some]
      exact ih kept others

structure Correlation.Valid (study : AreaList) (correlation : Correlation) : Prop where
  annual : ∀ m ∈ correlation.annual, IsCorrelation study.size m
  monthly : ∀ monthly ∈ correlation.monthly, ∀ month < 12, IsCorrelation study.size (monthly month)

namespace Correlation
variable {usedFromGUI : Bool} {study : AreaList}

theorem valid_new : Valid study {} where
  annual _ held := nomatch held
  monthly _ held := nomatch held

theorem valid_reset : Valid study (reset usedFromGUI study) where
  annual m held := by
    obtain rfl := Option.some.inj held
    exact isCorrelation_unit _
  monthly monthly held month _ := by
    unfold reset at held
    split_ifs at held
    · obtain rfl := Option.some.inj held
      exact isCorrelation_unit _
    · cases held

def readSections (usedFromGUI : Bool) (mode : Mode) (ini : List IniFile.Section) : List IniFile.Section :=
  (if usedFromGUI ∨ mode = .modeAnnual then (annualSection ini).toList else []) ++
    if usedFromGUI ∨ mode = .modeMonthly then ini.filter fun read => (monthOf read).isSome else []

variable {ini : List IniFile.Section}

theorem loadAnnual_valid (numbers : ∀ read ∈ annualSection ini, Numbers study read) :
    ∃ m, loadAnnual study ini = some m ∧ IsCorrelation study.size m := by
  unfold loadAnnual
  cases found : annualSection ini with
  | none => exact ⟨_, rfl, isCorrelation_unit _⟩
  | some read => exact (isCorrelation_unit _).readCoefficients (numbers read found)

theorem monthOf_lt {read : IniFile.Section} {index : Nat} (month : monthOf read = some index) : index < 12 := by
  unfold monthOf at month
  dsimp only at month
  split_ifs at month with valid
  obtain ⟨-, positive, below⟩ := valid
  obtain rfl := Option.some.inj month
  omega

theorem loadMonthly_valid
    (numbers : ∀ read ∈ ini, (monthOf read).isSome = true → Numbers study read) :
    ∃ monthly, loadMonthly study ini = some monthly ∧ ∀ month < 12, IsCorrelation study.size (monthly month) := by
  have unit : ∀ month < 12, IsCorrelation study.size ((fun _ : Nat => Matrix.unit study.size) month) :=
    fun _ _ => isCorrelation_unit _
  unfold loadMonthly
  generalize (fun _ : Nat => Matrix.unit study.size) = monthly at unit ⊢
  induction ini generalizing monthly with
  | nil => exact ⟨monthly, rfl, unit⟩
  | cons read rest ih =>
    obtain ⟨first, others⟩ := List.forall_mem_cons.mp numbers
    rw [List.foldlM_cons]
    cases month : monthOf read with
    | none => exact ih others monthly unit
    | some index =>
      obtain ⟨next, done, kept⟩ := (unit index (monthOf_lt month)).readCoefficients (first (by rw [month]; rfl))
      simp only [done, Option.map_some, Option.bind_eq_bind, Option.bind_some]
      refine ih others _ fun other inYear => ?_
      by_cases here : other = index
      · subst here
        rwa [Function.update_self]
      · rw [Function.update_of_ne here]
        exact unit other inYear

theorem load_valid
    (numbers : ∀ mode, readCorrelationMode ini = some mode → ∀ read ∈ readSections usedFromGUI mode ini, Numbers study read) :
    ∃ after, load usedFromGUI study ini = some after ∧ Valid study after := by
  unfold load
  cases said : readCorrelationMode ini with
  | none => exact ⟨_, rfl, valid_reset⟩
  | some mode =>
    replace numbers := numbers mode said
    unfold readSections at numbers
    have annual : ∃ annual : Option Matrix, (if usedFromGUI ∨ mode = .modeAnnual then (loadAnnual study ini).map some
        else some none) = some annual ∧ ∀ m ∈ annual, IsCorrelation study.size m := by
      split_ifs with held
      · rw [if_pos held] at numbers
        obtain ⟨m, done, kept⟩ := loadAnnual_valid fun read found =>
          numbers read (List.mem_append_left _ (Option.mem_toList.mpr found))
        exact ⟨some m, by rw [done]; rfl, fun other same => Option.some.inj same ▸ kept⟩
      · exact ⟨none, rfl, fun _ held => nomatch held⟩
    have monthly : ∃ monthly : Option (Nat → Matrix), (if usedFromGUI ∨ mode = .modeMonthly then
        (loadMonthly study ini).map some else some none) = some monthly ∧
          ∀ matrices ∈ monthly, ∀ month < 12, IsCorrelation study.size (matrices month) := by
      split_ifs with held
      · rw [if_pos held] at numbers
        obtain ⟨matrices, done, kept⟩ := loadMonthly_valid fun read found month =>
          numbers read (List.mem_append_right _ (List.mem_filter.mpr ⟨found, month⟩))
        exact ⟨some matrices, by rw [done]; rfl, fun other same => Option.some.inj same ▸ kept⟩
      · exact ⟨none, rfl, fun _ held => nomatch held⟩
    obtain ⟨annual, doneAnnual, keptAnnual⟩ := annual
    obtain ⟨monthly, doneMonthly, keptMonthly⟩ := monthly
    refine ⟨⟨some mode, annual, monthly⟩, ?_, keptAnnual, keptMonthly⟩
    simp only [doneAnnual, Option.bind_some, doneMonthly]

end Correlation

namespace Copy
variable {copy : Copy} {study : AreaList}

/-- An area of the target study that an area of the source goes to -/
def Image (copy : Copy) (study : AreaList) (index : Nat) : Prop := ∃ x, copy.image study x = some index

/-- The areas of the source that go to the target itself have the coefficient 1 with the area that is copied. -/
def Agrees (copy : Copy) (study : AreaList) (areaSource target : Nat) (mxsrc : Matrix) : Prop :=
  ∀ id ∈ copy.studySource.nameidSet, ∀ x, copy.studySource.find id = some x → copy.image study x = some target →
    mxsrc.entry areaSource x = .finite 1

def Unchanged (copy : Copy) (study : AreaList) (before after : Matrix) : Prop :=
  ∀ p q, ¬ copy.Image study p → ¬ copy.Image study q → after.entry p q = before.entry p q

theorem image_lt {x index : Nat} (image : copy.image study x = some index) : index < study.size := by
  obtain ⟨area, -, found⟩ := Option.bind_eq_some_iff.mp image
  exact AreaList.find_lt found

theorem copyFromSingleMatrix_valid {mxsrc mxout : Matrix} {areaSource target : Nat}
    (source : IsCorrelation copy.studySource.size mxsrc) (inSource : areaSource < copy.studySource.size)
    (isTarget : copy.target study = some target) (agrees : copy.Agrees study areaSource target mxsrc)
    (valid : IsCorrelation study.size mxout) :
    ∃ after, copy.copyFromSingleMatrix study mxsrc mxout areaSource = some after ∧ IsCorrelation study.size after ∧
      copy.Unchanged study mxout after := by
  unfold copyFromSingleMatrix
  unfold Agrees at agrees
  generalize copy.studySource.nameidSet = ids at agrees ⊢
  induction ids generalizing mxout with
  | nil => exact ⟨mxout, rfl, valid, fun _ _ _ _ => rfl⟩
  | cons id ids ih =>
    obtain ⟨first, others⟩ := List.forall_mem_cons.mp agrees
    have step : ∃ next, copy.copyCell study mxsrc areaSource mxout id = some next ∧ IsCorrelation study.size next ∧
        copy.Unchanged study mxout next := by
      unfold copyCell
      cases found : copy.studySource.find id with
      | none => exact ⟨mxout, rfl, valid, fun _ _ _ _ => rfl⟩
      | some x =>
        cases image : copy.image study x with
        | none => exact ⟨mxout, by simp only [image], valid, fun _ _ _ _ => rfl⟩
        | some areaIndex =>
          have inside := AreaList.find_lt found
          have read : mxsrc.read areaSource x = some (mxsrc.entry areaSource x) :=
            if_pos ⟨source.square.1 ▸ inSource, source.square.2 ▸ inside⟩
          -- the diagonal is met by the areas that go to the target itself
          obtain ⟨next, written, kept, same⟩ := valid.writeBoth (AreaList.find_lt isTarget) (image_lt image)
            (source.bounded areaSource inSource x inside) fun equal => first x found (image.trans (congrArg some equal.symm))
          refine ⟨next, by simp only [image, read, isTarget, written, Option.bind_eq_bind, Option.bind_some], kept,
            fun p q notP notQ => same p q ?_⟩
          rintro (⟨-, rfl⟩ | ⟨rfl, -⟩)
          · exact notQ ⟨x, image⟩
          · exact notP ⟨x, image⟩
    obtain ⟨next, done, kept, same⟩ := step
    obtain ⟨after, rest, keptAfter, sameAfter⟩ := ih kept others
    refine ⟨after, ?_, keptAfter, fun p q notP notQ => (sameAfter p q notP notQ).trans (same p q notP notQ)⟩
    rw [List.foldlM_cons, done]
    exact rest

/-- What a copy needs: nothing if there is nothing to copy, else a target, all matrices, and that they agree. -/
def Meets (copy : Copy) (study : AreaList) (correlation : Correlation) : Prop :=
  1 < study.size → ∀ areaSource, copy.studySource.findFromName copy.areaSource = some areaSource →
    ∃ target, copy.target study = some target ∧ correlation.annual.isSome = true ∧ correlation.monthly.isSome = true ∧
      (∃ annual ∈ copy.source.annual, copy.Agrees study areaSource target annual) ∧
        ∃ monthly ∈ copy.source.monthly, ∀ month < 12, copy.Agrees study areaSource target (monthly month)

structure UnchangedAll (copy : Copy) (study : AreaList) (before after : Correlation) : Prop where
  annual : ∀ m ∈ before.annual, ∀ n ∈ after.annual, copy.Unchanged study m n
  monthly : ∀ m ∈ before.monthly, ∀ n ∈ after.monthly, ∀ month < 12, copy.Unchanged study (m month) (n month)

theorem months_valid {source : Nat → Matrix} {monthly : Nat → Matrix} {areaSource target : Nat}
    (valid : ∀ month < 12, IsCorrelation copy.studySource.size (source month))
    (inSource : areaSource < copy.studySource.size) (isTarget : copy.target study = some target)
    (agrees : ∀ month < 12, copy.Agrees study areaSource target (source month))
    (before : ∀ month < 12, IsCorrelation study.size (monthly month)) {count : Nat} (few : count ≤ 12) :
    ∃ after, (List.range count).foldlM (copy.copyMonth study source areaSource) monthly = some after ∧
      (∀ month < 12, IsCorrelation study.size (after month) ∧ copy.Unchanged study (monthly month) (after month)) ∧
        ∀ month, count ≤ month → after month = monthly month := by
  induction count with
  | zero => exact ⟨monthly, rfl, fun month inYear => ⟨before month inYear, fun _ _ _ _ => rfl⟩, fun _ _ => rfl⟩
  | succ count ih =>
    obtain ⟨reached, done, kept, later⟩ := ih (by omega)
    obtain ⟨next, copied, valid, same⟩ := copyFromSingleMatrix_valid (valid count few) inSource isTarget
      (agrees count few) (kept count few).1
    refine ⟨Function.update reached count next, ?_, fun month inYear => ?_, fun month after => ?_⟩
    · rw [List.range_succ, List.foldlM_append, done]
      simp [copyMonth, copied]
    · by_cases here : month = count
      · subst here
        rw [Function.update_self, ← later month le_rfl]
        exact ⟨valid, same⟩
      · rw [Function.update_of_ne here]
        exact kept month inYear
    · rw [Function.update_of_ne (by omega), later month (by omega)]

theorem copyFrom_valid {correlation : Correlation} (meets : copy.Meets study correlation)
    (source : copy.source.Valid copy.studySource) (valid : correlation.Valid study) :
    ∃ after, copy.copyFrom study correlation = some after ∧ after.Valid study ∧
      copy.UnchangedAll study correlation after := by
  have stays : copy.UnchangedAll study correlation correlation := by
    constructor
    · rintro m held n again p q - -
      rw [Option.some.inj (held.symm.trans again)]
    · rintro m held n again month - p q - -
      rw [Option.some.inj (held.symm.trans again)]
  unfold copyFrom
  split_ifs with few
  · exact ⟨correlation, rfl, valid, stays⟩
  cases found : copy.studySource.findFromName copy.areaSource with
  | none => exact ⟨correlation, rfl, valid, stays⟩
  | some areaSource =>
    obtain ⟨target, isTarget, hasAnnual, hasMonthly, ⟨annual, sourceAnnual, agrees⟩, monthly, sourceMonthly, agreesAll⟩ :=
      meets (not_le.mp few) areaSource found
    obtain ⟨annualOut, heldAnnual⟩ := Option.isSome_iff_exists.mp hasAnnual
    obtain ⟨monthlyOut, heldMonthly⟩ := Option.isSome_iff_exists.mp hasMonthly
    have inSource := AreaList.find_lt found
    obtain ⟨nextAnnual, doneAnnual, keptAnnual, sameAnnual⟩ := copyFromSingleMatrix_valid (source.annual annual sourceAnnual)
      inSource isTarget agrees (valid.annual annualOut heldAnnual)
    obtain ⟨nextMonthly, doneMonthly, keptMonthly, -⟩ := months_valid (source.monthly monthly sourceMonthly) inSource isTarget
      agreesAll (valid.monthly monthlyOut heldMonthly) le_rfl
    refine ⟨{ correlation with annual := some nextAnnual, monthly := some nextMonthly }, ?_, ⟨?_, ?_⟩, ⟨?_, ?_⟩⟩
    · simp only [Option.mem_def] at sourceAnnual sourceMonthly
      simp only [sourceAnnual, sourceMonthly, heldAnnual, heldMonthly, doneAnnual, doneMonthly, Option.bind_eq_bind,
        Option.bind_some, Option.pure_def]
    · exact fun m held => Option.some.inj held ▸ keptAnnual
    · exact fun matrices held month inYear => Option.some.inj held ▸ (keptMonthly month inYear).1
    · intro m before n after
      rw [← Option.some.inj (heldAnnual.symm.trans before), ← Option.some.inj after]
      exact sameAnnual
    · intro m before n after month inYear
      rw [← Option.some.inj (heldMonthly.symm.trans before), ← Option.some.inj after]
      exact (keptMonthly month inYear).2

end Copy

namespace Operation
variable {study : AreaList}

/-- What an operation needs of its input and of the state before it. -/
def Meets (usedFromGUI : Bool) (correlation : Correlation) : Operation study → Prop
  | .reset => True
  | .load ini => ∀ mode, readCorrelationMode ini = some mode →
      ∀ read ∈ Correlation.readSections usedFromGUI mode ini, Numbers study read
  | .setAnnual from' to' v | .setMonthly _ from' to' v => from' = to' ∨ v ≠ .nan
  | .copyFrom copy => copy.Meets study correlation

/-- A copy leaves the coefficients between areas that are no images. -/
def Unchanged (before after : Correlation) : Operation study → Prop
  | .copyFrom copy => copy.UnchangedAll study before after
  | _ => True

theorem apply_valid {usedFromGUI : Bool} {correlation : Correlation} (valid : correlation.Valid study)
    (operation : Operation study) (meets : operation.Meets usedFromGUI correlation)
    (source : ∀ copy, operation = .copyFrom copy → copy.source.Valid copy.studySource) :
    ∃ after, operation.apply usedFromGUI correlation = some after ∧ after.Valid study ∧
      operation.Unchanged correlation after := by
  cases operation with
  | reset => exact ⟨_, rfl, Correlation.valid_reset, trivial⟩
  | load ini =>
    obtain ⟨after, done, kept⟩ := Correlation.load_valid meets
    exact ⟨after, done, kept, trivial⟩
  | setAnnual from' to' v =>
    unfold apply
    cases held : correlation.annual with
    | none => exact ⟨correlation, rfl, valid, trivial⟩
    | some m =>
      obtain ⟨next, done, kept⟩ := (valid.annual m held).setCoefficient from'.isLt to'.isLt
        (meets.imp_left fun same => congrArg Fin.val same)
      refine ⟨{ correlation with annual := some next }, by simp only [done, Option.map_some], ⟨?_, valid.monthly⟩, trivial⟩
      exact fun other same => Option.some.inj same ▸ kept
  | setMonthly month from' to' v =>
    unfold apply
    cases held : correlation.monthly with
    | none => exact ⟨correlation, rfl, valid, trivial⟩
    | some monthly =>
      obtain ⟨next, done, kept⟩ := (valid.monthly monthly held month month.isLt).setCoefficient from'.isLt to'.isLt
        (meets.imp_left fun same => congrArg Fin.val same)
      refine ⟨{ correlation with monthly := some (Function.update monthly month next) },
        by simp only [done, Option.map_some], ⟨valid.annual, fun matrices same other inYear => ?_⟩, trivial⟩
      rw [← Option.some.inj same]
      by_cases here : other = month
      · subst here
        rwa [Function.update_self]
      · rw [Function.update_of_ne here]
        exact valid.monthly monthly held other inYear
  | copyFrom copy => exact copy.copyFrom_valid meets (source copy rfl) valid

end Operation

/-- The runs of a program on the correlations of its studies, each operation as it needs to be; what is copied was reached
in the same way.
-/
inductive Reached (usedFromGUI : Bool) : AreaList → Correlation → Prop where
  | new (study : AreaList) : Reached usedFromGUI study {}
  | step {study : AreaList} {before after : Correlation} (reached : Reached usedFromGUI study before)
    (operation : Operation study) (meets : operation.Meets usedFromGUI before)
    (source : ∀ copy, operation = .copyFrom copy → Reached usedFromGUI copy.studySource copy.source)
    (applied : operation.apply usedFromGUI before = some after) : Reached usedFromGUI study after

theorem Reached.valid {usedFromGUI : Bool} {study : AreaList} {correlation : Correlation}
    (reached : Reached usedFromGUI study correlation) : correlation.Valid study := by
  induction reached with
  | new study => exact Correlation.valid_new
  | step _ operation meets _ applied before source =>
    obtain ⟨after, done, kept, -⟩ := operation.apply_valid before meets source
    exact Option.some.inj (done.symm.trans applied) ▸ kept

def twoAreas : AreaList := ⟨[⟨['a'], ['a']⟩, ⟨['b'], ['b']⟩], [['a'], ['b']]⟩

theorem reached_reset : Reached true twoAreas (Correlation.reset true twoAreas) :=
  .step (.new twoAreas) .reset trivial (fun _ other => nomatch other) rfl

/-- Both areas of the source go to the first area of the study. -/
def manyToOne : Copy where
  source := Correlation.reset true twoAreas
  studySource := twoAreas
  areaSource := ['a']
  mapping := [(['b'], ['a'])]

end Antares.Data.Correlations
