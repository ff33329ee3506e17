import Antares.Data.IniValues
import Antares.Data.Matrix

/-! The five hourly series of a short-term storage, in one file each. -/

set_option autoImplicit false

namespace Antares.ShortTermStorage

open Library Data

structure Series where
  maxInjectionModulation : List Text.Double := []
  maxWithdrawalModulation : List Text.Double := []
  inflows : List Text.Double := []
  lowerRuleCurve : List Text.Double := []
  upperRuleCurve : List Text.Double := []
  deriving DecidableEq, Repr

/-- `getline` until the end of the file; a last line without its end counts, an empty one does not. -/
def getLines : Text → Text → List Text
  | [], [] => []
  | [], current => [current]
  | c :: rest, current => if c = '\n' then current :: getLines rest [] else getLines rest (current ++ [c])

/-- The values of the first lines; the loop stops at a line that is no number. -/
def loadLines (count : Nat) (vect : List Text.Double) : List Text → List Text.Double × Bool
  | [] => (vect, decide (hoursPerYear ≤ count))
  | line :: rest =>
    if count < hoursPerYear then
      match Text.stod line with
      | .ok d => loadLines (count + 1) (vect ++ [d]) rest
      | .error _ => (vect, false)
    else (vect, true)

def loadFile (files : Text → Option Text) (path : Text) (vect : List Text.Double) : List Text.Double × Bool :=
  match files path with
  | none => (vect, true)
  | some text => loadLines 0 vect (getLines text [])

/-- The digits of `setprecision(14)`, after the first. -/
def places : Nat := 13

def printValue : Text.Double → Text
  | .finite v => Significant.printSigned places v
  | .infinite negative => Text.printDouble (.infinite negative)
  | .nan => Text.printDouble .nan

def writeVectorToFile (path : Text) (vect : List Text.Double) (files : Text → Option Text) : Text → Option Text :=
  Function.update files path (some (vect.flatMap fun x => printValue x ++ ['\n']))

namespace Series

def injectionFile : Text := "/PMAX-injection.txt".toList
def withdrawalFile : Text := "/PMAX-withdrawal.txt".toList
def inflowsFile : Text := "/inflows.txt".toList
def lowerFile : Text := "/lower-rule-curve.txt".toList
def upperFile : Text := "/upper-rule-curve.txt".toList

variable (series : Series)

def loadFromFolder (files : Text → Option Text) (folder : Text) : Series × Bool :=
  let injection := loadFile files (folder ++ injectionFile) series.maxInjectionModulation
  let withdrawal := loadFile files (folder ++ withdrawalFile) series.maxWithdrawalModulation
  let inflows := loadFile files (folder ++ inflowsFile) series.inflows
  let lower := loadFile files (folder ++ lowerFile) series.lowerRuleCurve
  let upper := loadFile files (folder ++ upperFile) series.upperRuleCurve
  ({ maxInjectionModulation := injection.1
     maxWithdrawalModulation := withdrawal.1
     inflows := inflows.1
     lowerRuleCurve := lower.1
     upperRuleCurve := upper.1 },
    injection.2 && withdrawal.2 && inflows.2 && lower.2 && upper.2)

def fillIfEmpty (value : Text.Double) (vect : List Text.Double) : List Text.Double :=
  if vect = [] then List.replicate hoursPerYear value else vect

def fillDefaultSeriesIfEmpty : Series where
  maxInjectionModulation := fillIfEmpty (.finite 1) series.maxInjectionModulation
  maxWithdrawalModulation := fillIfEmpty (.finite 1) series.maxWithdrawalModulation
  inflows := fillIfEmpty (.finite 0) series.inflows
  lowerRuleCurve := fillIfEmpty (.finite 0) series.lowerRuleCurve
  upperRuleCurve := fillIfEmpty (.finite 1) series.upperRuleCurve

def saveToFolder (folder : Text) (files : Text → Option Text) : Text → Option Text :=
  writeVectorToFile (folder ++ upperFile) series.upperRuleCurve <|
    writeVectorToFile (folder ++ lowerFile) series.lowerRuleCurve <|
      writeVectorToFile (folder ++ inflowsFile) series.inflows <|
        writeVectorToFile (folder ++ withdrawalFile) series.maxWithdrawalModulation <|
          writeVectorToFile (folder ++ injectionFile) series.maxInjectionModulation files

def checkVectBetweenZeroOne (vect : List Text.Double) : Bool :=
  vect.all fun d => Text.Double.atMost (.finite 0) d && d.atMost (.finite 1)

def validateSizes : Bool :=
  series.maxInjectionModulation.length = hoursPerYear && series.maxWithdrawalModulation.length = hoursPerYear &&
    series.inflows.length = hoursPerYear && series.lowerRuleCurve.length = hoursPerYear &&
    series.upperRuleCurve.length = hoursPerYear

def validateUpperRuleCurve : Bool := checkVectBetweenZeroOne series.upperRuleCurve

def validateLowerRuleCurve : Bool := checkVectBetweenZeroOne series.maxInjectionModulation

def validateRuleCurves : Bool :=
  series.validateUpperRuleCurve && series.validateLowerRuleCurve &&
    (series.lowerRuleCurve.zip series.upperRuleCurve).all fun hour => !hour.2.less hour.1

def validate : Bool :=
  series.validateSizes && checkVectBetweenZeroOne series.maxInjectionModulation &&
    checkVectBetweenZeroOne series.maxWithdrawalModulation && series.validateRuleCurves

def values : List Text.Double :=
  series.maxInjectionModulation ++ series.maxWithdrawalModulation ++ series.inflows ++ series.lowerRuleCurve ++
    series.upperRuleCurve

end Series

variable (value : Text.Double)

/-- A finite double of so few digits that the stream writes them all. -/
def FewDigits : Prop :=
  ∃ v, value = .finite v ∧ Significant.HasDigits (places + 1) v ∧ |v| < Text.overflow

/-- A value that `stod` does not refuse for being too small. -/
def NotTiny : Prop := ∀ v, value = .finite v → v = 0 ∨ Text.leastNormal ≤ |v|

theorem notTiny_zero : NotTiny (.finite 0) := fun _ same => .inl (Text.Double.finite.inj same).symm

theorem notTiny_one : NotTiny (.finite 1) := by
  intro v same
  rw [← Text.Double.finite.inj same, abs_one]
  exact .inr (div_le_one_of_le₀ (one_le_pow₀ (by norm_num)) (by positivity))

theorem getLines_append {line : Text} (rest current : Text) (whole : '\n' ∉ line) :
    getLines (line ++ '\n' :: rest) current = (current ++ line) :: getLines rest [] := by
  induction line generalizing current with
  | nil => rw [List.nil_append, getLines, if_pos rfl, List.append_nil]
  | cons c line later =>
    obtain ⟨head, tail⟩ := not_or.mp (fun either => whole (List.mem_cons.mpr either))
    rw [List.cons_append, getLines, if_neg (fun same => head same.symm), later _ tail, List.append_assoc,
      List.singleton_append]

variable {vect : List Text.Double}

theorem getLines_printed (few : ∀ value ∈ vect, FewDigits value) :
    getLines (vect.flatMap fun x => printValue x ++ ['\n']) [] = vect.map printValue := by
  induction vect with
  | nil => rfl
  | cons value vect later =>
    obtain ⟨v, rfl, -⟩ := few value List.mem_cons_self
    have whole : '\n' ∉ printValue (.finite v) := Significant.newline_not_mem_printSigned places v
    rw [List.flatMap_cons, List.append_assoc, List.singleton_append, getLines_append _ [] whole,
      later fun other member => few other (List.mem_cons_of_mem _ member)]
    rfl

theorem stod_printValue {value : Text.Double} (few : FewDigits value) :
    (NotTiny value ∧ Text.stod (printValue value) = .ok value) ∨
      (¬NotTiny value ∧ Text.stod (printValue value) = .error .outOfRange) := by
  obtain ⟨v, rfl, digits, finite⟩ := few
  have read := Significant.stod_printSigned digits finite
  have tiny : NotTiny (.finite v) ↔ ¬(0 < |v| ∧ |v| < Text.leastNormal) := by
    unfold NotTiny
    simp only [Text.Double.finite.injEq, forall_eq', abs_pos, not_and, not_lt]
    tauto
  by_cases small : 0 < |v| ∧ |v| < Text.leastNormal
  · rw [if_pos small] at read
    exact .inr ⟨fun not => tiny.mp not small, read⟩
  · rw [if_neg small] at read
    exact .inl ⟨tiny.mpr small, read⟩

theorem loadLines_printed (few : ∀ value ∈ vect, FewDigits value) (count : Nat)
    (before : List Text.Double) (room : count + vect.length ≤ hoursPerYear) :
    ∃ front ok, loadLines count before (vect.map printValue) = (before ++ front, ok) ∧
      (front = vect ∧ (∀ value ∈ vect, NotTiny value) ∨
        ∃ tiny back, ¬NotTiny tiny ∧ vect = front ++ tiny :: back) := by
  induction vect generalizing count before with
  | nil => exact ⟨[], _, by rw [List.map_nil, loadLines, List.append_nil], .inl ⟨rfl, fun value absent => absurd absent List.not_mem_nil⟩⟩
  | cons value vect later =>
    rw [List.length_cons] at room
    rw [List.map_cons, loadLines, if_pos (by omega)]
    rcases stod_printValue (few value List.mem_cons_self) with ⟨large, read⟩ | ⟨tiny, read⟩
    · obtain ⟨front, ok, run, rest⟩ :=
        later (fun other member => few other (List.mem_cons_of_mem value member)) (count + 1) (before ++ [value]) (by omega)
      rw [read]
      refine ⟨value :: front, ok, ?_, ?_⟩
      · dsimp only
        rw [run, List.append_assoc, List.singleton_append]
      rcases rest with ⟨rfl, all⟩ | ⟨tiny, back, isTiny, rfl⟩
      · exact .inl ⟨rfl, List.forall_mem_cons.mpr ⟨large, all⟩⟩
      · exact .inr ⟨tiny, back, isTiny, rfl⟩
    · rw [read]
      exact ⟨[], false, by rw [List.append_nil], .inr ⟨value, vect, tiny, rfl⟩⟩

theorem fillIfEmpty_loadFile (few : ∀ value ∈ vect, FewDigits value)
    (size : vect.length = hoursPerYear) {files : Text → Option Text} {path : Text}
    (written : files path = some (vect.flatMap fun x => printValue x ++ ['\n'])) {value : Text.Double} (default : NotTiny value) :
    Series.fillIfEmpty value (loadFile files path []).1 = vect ↔ ∀ value ∈ vect, NotTiny value := by
  obtain ⟨front, ok, run, rest⟩ := loadLines_printed few 0 [] (by omega)
  unfold loadFile
  rw [written]
  dsimp only
  rw [getLines_printed few, run, List.nil_append]
  unfold Series.fillIfEmpty
  dsimp only
  rcases rest with ⟨rfl, all⟩ | ⟨tiny, back, isTiny, rfl⟩
  · have some : front ≠ [] := List.ne_nil_of_length_pos (size ▸ (by decide : 0 < hoursPerYear))
    rw [if_neg some]
    exact iff_of_true rfl all
  · refine iff_of_false ?_ fun all => isTiny (all tiny (List.mem_append_right front List.mem_cons_self))
    split_ifs with empty
    · intro same
      rw [empty, List.nil_append] at same
      have first : tiny ∈ List.replicate hoursPerYear value := by
        rw [same]
        exact List.mem_cons_self
      rw [List.eq_of_mem_replicate first] at isTiny
      exact isTiny default
    · intro same
      have lengths := congrArg List.length same
      rw [List.length_append, List.length_cons] at lengths
      omega

namespace Series

theorem writeVectorToFile_of_ne (folder : Text) {file other : Text} (different : other ≠ file) (vect : List Text.Double)
    (files : Text → Option Text) : writeVectorToFile (folder ++ file) vect files (folder ++ other) = files (folder ++ other) := by
  unfold writeVectorToFile
  rw [Function.update_of_ne]
  exact fun same => different (List.append_cancel_left same)

theorem writeVectorToFile_same (path : Text) (vect : List Text.Double) (files : Text → Option Text) :
    writeVectorToFile path vect files path = some (vect.flatMap fun x => printValue x ++ ['\n']) :=
  Function.update_self _ _ _

theorem saveToFolder_last (series : Series) (folder path : Text) (files : Text → Option Text) (other : path.getLast? ≠ some 't') :
    series.saveToFolder folder files path = files path := by
  have different {file : Text} (last : file.getLast? = some 't') : path ≠ folder ++ file := by
    intro same
    rw [same, List.getLast?_append, last] at other
    exact other rfl
  unfold saveToFolder writeVectorToFile
  rw [Function.update_of_ne (different (by decide)), Function.update_of_ne (different (by decide)),
    Function.update_of_ne (different (by decide)), Function.update_of_ne (different (by decide)),
    Function.update_of_ne (different (by decide))]

theorem saveToFolder_files (series : Series) (folder : Text) (files : Text → Option Text) :
    ∀ saved ∈ [(injectionFile, series.maxInjectionModulation), (withdrawalFile, series.maxWithdrawalModulation),
      (inflowsFile, series.inflows), (lowerFile, series.lowerRuleCurve), (upperFile, series.upperRuleCurve)],
      series.saveToFolder folder files (folder ++ saved.1) = some (saved.2.flatMap fun x => printValue x ++ ['\n']) := by
  simp only [List.forall_mem_cons, List.not_mem_nil, IsEmpty.forall_iff, implies_true, and_true]
  have other {file other : Text} (different : other ≠ file) := @writeVectorToFile_of_ne folder file other different
  unfold saveToFolder
  refine ⟨?_, ?_, ?_, ?_, ?_⟩
  · rw [other (by decide), other (by decide), other (by decide), other (by decide), writeVectorToFile_same]
  · rw [other (by decide), other (by decide), other (by decide), writeVectorToFile_same]
  · rw [other (by decide), other (by decide), writeVectorToFile_same]
  · rw [other (by decide), writeVectorToFile_same]
  · rw [writeVectorToFile_same]

theorem load_saved {series : Series} (valid : series.validate = true) (few : ∀ value ∈ series.values, FewDigits value)
    (folder : Text) {files : Text → Option Text}
    (saved : ∀ saved ∈ [(injectionFile, series.maxInjectionModulation), (withdrawalFile, series.maxWithdrawalModulation),
      (inflowsFile, series.inflows), (lowerFile, series.lowerRuleCurve), (upperFile, series.upperRuleCurve)],
      files (folder ++ saved.1) = some (saved.2.flatMap fun x => printValue x ++ ['\n'])) :
    (loadFromFolder {} files folder).1.fillDefaultSeriesIfEmpty = series ↔ ∀ value ∈ series.values, NotTiny value := by
  have sizes : series.validateSizes = true := by
    unfold validate at valid
    simp only [Bool.and_eq_true] at valid
    exact valid.1.1.1
  unfold validateSizes at sizes
  simp only [Bool.and_eq_true, decide_eq_true_eq] at sizes
  obtain ⟨⟨⟨⟨size1, size2⟩, size3⟩, size4⟩, size5⟩ := sizes
  unfold values at few ⊢
  simp only [List.mem_append, or_imp, forall_and] at few ⊢
  obtain ⟨⟨⟨⟨few1, few2⟩, few3⟩, few4⟩, few5⟩ := few
  simp only [List.forall_mem_cons, List.not_mem_nil, IsEmpty.forall_iff, implies_true, and_true] at saved
  obtain ⟨file1, file2, file3, file4, file5⟩ := saved
  rw [← fillIfEmpty_loadFile few1 size1 file1 notTiny_one, ← fillIfEmpty_loadFile few2 size2 file2 notTiny_one,
    ← fillIfEmpty_loadFile few3 size3 file3 notTiny_zero, ← fillIfEmpty_loadFile few4 size4 file4 notTiny_zero,
    ← fillIfEmpty_loadFile few5 size5 file5 notTiny_one]
  constructor
  · intro same
    exact ⟨⟨⟨⟨congrArg maxInjectionModulation same, congrArg maxWithdrawalModulation same⟩, congrArg inflows same⟩,
      congrArg lowerRuleCurve same⟩, congrArg upperRuleCurve same⟩
  · intro ⟨⟨⟨⟨same1, same2⟩, same3⟩, same4⟩, same5⟩
    unfold fillDefaultSeriesIfEmpty loadFromFolder
    dsimp only
    rw [same1, same2, same3, same4, same5]

theorem mem_values_default {value : Text.Double} (member : value ∈ (fillDefaultSeriesIfEmpty {}).values) :
    value = .finite 0 ∨ value = .finite 1 := by
  have filled (value : Text.Double) : fillIfEmpty value [] = List.replicate hoursPerYear value := if_pos rfl
  unfold values fillDefaultSeriesIfEmpty at member
  dsimp only at member
  rw [filled, filled] at member
  simp only [List.mem_append] at member
  rcases member with (((one | one) | zero) | zero) | one
  · exact .inr (List.eq_of_mem_replicate one)
  · exact .inr (List.eq_of_mem_replicate one)
  · exact .inl (List.eq_of_mem_replicate zero)
  · exact .inl (List.eq_of_mem_replicate zero)
  · exact .inr (List.eq_of_mem_replicate one)

theorem validate_default : (fillDefaultSeriesIfEmpty {}).validate = true := by
  have filled (value : Text.Double) : fillIfEmpty value [] = List.replicate hoursPerYear value := if_pos rfl
  have unit : checkVectBetweenZeroOne (List.replicate hoursPerYear (.finite 1)) = true := by
    apply List.all_eq_true.mpr
    intro value member
    rw [List.eq_of_mem_replicate member]
    decide
  have below : ((List.replicate hoursPerYear (Text.Double.finite 0)).zip (List.replicate hoursPerYear (Text.Double.finite 1))).all
      (fun hour => !hour.2.less hour.1) = true := by
    apply List.all_eq_true.mpr
    intro hour member
    obtain ⟨lower, upper⟩ := List.of_mem_zip member
    rw [List.eq_of_mem_replicate lower, List.eq_of_mem_replicate upper]
    decide
  unfold validate validateSizes validateRuleCurves validateUpperRuleCurve validateLowerRuleCurve fillDefaultSeriesIfEmpty
  dsimp only
  rw [filled, filled, unit, below, List.length_replicate, List.length_replicate, decide_eq_true rfl]
  rfl

end Series

end Antares.ShortTermStorage
