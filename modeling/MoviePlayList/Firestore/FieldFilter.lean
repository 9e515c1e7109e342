import MoviePlayList.Firestore.ResourcePath
import MoviePlayList.Firestore.DocumentSet

/-!
# FieldFilter — which documents a filter of a query lets through

`FieldFilter::Create` picks the class of a filter by its field, operator and value, and turns down
the values the class cannot compare with.  Each class has a `Matches` of its own, and asserts there
what `Create` has checked: none of these assertions fails, and a filter on a field lets only
documents through that have the field (`matchesDocument_spec`).

The fields of a document are read by `lookup`.
-/

namespace MoviePlayList
namespace Firestore
namespace Core

/-- `FieldPath`; `key` is `FieldPath::KeyFieldPath()`. -/
inductive FieldPath (φ : Type)
  | key
  | field (name : φ)
  deriving DecidableEq

/-- `FieldPath::CanonicalString` -/
def FieldPath.canonicalString {φ : Type} [ToString φ] : FieldPath φ → String
  | .key => "__name__"
  | .field name => toString name

/-! ## Field values -/

/-- `FieldValue::Type` -/
inductive ValueType
  | null
  | boolean
  | integer
  | double
  | timestamp
  | serverTimestamp
  | string
  | blob
  | reference
  | geoPoint
  | array
  | object
  deriving DecidableEq

/-- `FieldValue::Comparable` -/
def ValueType.comparable (lhs rhs : ValueType) : Bool :=
  match lhs with
  | .integer | .double => rhs = .integer || rhs = .double
  | .timestamp | .serverTimestamp => rhs = .timestamp || rhs = .serverTimestamp
  | _ => lhs = rhs

/-- `FieldValue::BaseValue`, what filters use of a field value; its `compare` is `CompareTo`. -/
class BaseValue (ν : Type) extends Ord ν where
  type : ν → ValueType
  equals : ν → ν → Bool
  isNan : ν → Bool
  /-- the contents of an array -/
  contents : ν → List ν
  /-- the key of a reference -/
  referenceKey : ν → ResourcePath

namespace BaseValue

variable {ν : Type} [BaseValue ν]

/-- `array_value` -/
def arrayValue (self : ν) : Except String (List ν) :=
  if type self = .array then .ok (contents self)
  else .error "type() == Type::Array"

/-- `reference_value().key()` -/
def referenceValueKey (self : ν) : Except String ResourcePath :=
  if type self = .reference then .ok (referenceKey self)
  else .error "type() == Type::Reference"

end BaseValue

/-! ## Operators -/

/-- `Filter::Operator` -/
inductive Operator
  | lessThan
  | lessThanOrEqual
  | equal
  | notEqual
  | greaterThanOrEqual
  | greaterThan
  | arrayContains
  | isIn
  | arrayContainsAny
  | notIn
  deriving DecidableEq

namespace Operator

/-- `CanonicalName` -/
def canonicalName : Operator → String
  | .lessThan => "<"
  | .lessThanOrEqual => "<="
  | .equal => "=="
  | .notEqual => "!="
  | .greaterThanOrEqual => ">="
  | .greaterThan => ">"
  | .arrayContains => "array_contains"
  | .isIn => "in"
  | .arrayContainsAny => "array-contains-any"
  | .notIn => "not-in"

/-- `IsArrayOperator` -/
def isArrayOperator (op : Operator) : Bool := op = .arrayContains || op = .arrayContainsAny

/-- `FieldFilter::Rep::MatchesComparison` -/
def matchesComparison (op : Operator) (comparison : Ordering) : Except String Bool :=
  match op with
  | .lessThan => .ok (comparison = .lt)
  | .lessThanOrEqual => .ok (comparison = .lt || comparison = .eq)
  | .equal => .ok (comparison = .eq)
  | .greaterThanOrEqual => .ok (comparison = .gt || comparison = .eq)
  | .greaterThan => .ok (comparison = .gt)
  | .notEqual => .ok (comparison ≠ .eq)
  -- the operator is printed as a number
  | _ => .error s!"Operator {op.ctorIdx} unsuitable for comparison"

end Operator

/-! ## Creating a filter -/

/-- The class a filter is made an object of. -/
inductive FilterClass
  | fieldFilter
  | arrayContainsFilter
  | arrayContainsAnyFilter
  | inFilter
  | notInFilter
  | keyFieldFilter
  | keyFieldInFilter
  | keyFieldNotInFilter
  deriving DecidableEq

variable {φ ν δ : Type} [BaseValue ν]

open BaseValue

/-- `KeyFieldInFilter::ValidateArrayValue` -/
def validateArrayValue (value : ν) : Except String Unit :=
  if type value ≠ .array then
    .error "Comparing on key with In/NotIn, but the value was not an Array"
  else if (contents value).all fun refValue => type refValue = .reference then .ok ()
  else .error "Comparing on key with In/NotIn, but an array value was not a Reference"

/-- `FieldFilter::Create` -/
def createFilter (path : FieldPath φ) (op : Operator) (value : ν) : Except String FilterClass :=
  match path with
  | .key =>
      if op = .isIn then do
        validateArrayValue value
        return .keyFieldInFilter
      else if op = .notIn then do
        validateArrayValue value
        return .keyFieldNotInFilter
      else if type value ≠ .reference then
        .error "Comparing on key, but filter value not a Reference."
      else if op.isArrayOperator then
        .error s!"{op.canonicalName} queries don't make sense on document keys."
      else .ok .keyFieldFilter
  | .field _ =>
      if type value = .null then
        if op ≠ .equal ∧ op ≠ .notEqual then
          .error "Invalid Query. Null supports only 'equalTo' and 'notEqualTo' comparisons."
        else .ok .fieldFilter
      else if isNan value then
        if op ≠ .equal ∧ op ≠ .notEqual then
          .error "Invalid Query. NaN supports only 'equalTo' and 'notEqualTo' comparisons."
        else .ok .fieldFilter
      else if op = .arrayContains then .ok .arrayContainsFilter
      else if op = .isIn then
        if type value = .array then .ok .inFilter
        else .error s!"IN filter has invalid value: {(type value).ctorIdx}"
      else if op = .arrayContainsAny then
        if type value = .array then .ok .arrayContainsAnyFilter
        else .error s!"arrayContainsAny filter has invalid value: {(type value).ctorIdx}"
      else if op = .notIn then
        if type value = .array then .ok .notInFilter
        else .error s!"notIn filter has invalid value: {(type value).ctorIdx}"
      else .ok .fieldFilter

/-- `FieldFilter`; every filter comes from `Create`. -/
structure FieldFilter (φ ν : Type) [BaseValue ν] where
  field : FieldPath φ
  op : Operator
  value : ν
  rep : FilterClass
  created : createFilter field op value = .ok rep

/-- The comparing operators, those `MatchesComparison` knows. -/
def Operator.Compares (op : Operator) : Prop :=
  ∀ comparison, ∃ answer, op.matchesComparison comparison = .ok answer

/-- What `Create` has checked for a class when it picks it. -/
def FilterClass.Fits (rep : FilterClass) (path : FieldPath φ) (op : Operator) (value : ν) : Prop :=
  match rep with
  | .fieldFilter => path ≠ .key ∧ op.Compares
  | .arrayContainsFilter => path ≠ .key
  | .arrayContainsAnyFilter | .inFilter | .notInFilter => path ≠ .key ∧ type value = .array
  | .keyFieldFilter => path = .key ∧ type value = .reference ∧ op.Compares
  | .keyFieldInFilter | .keyFieldNotInFilter =>
      path = .key ∧ type value = .array ∧ ∀ refValue ∈ contents value, type refValue = .reference

/-- An operator that no class of its own takes compares. -/
theorem Operator.compares {op : Operator} (harray : op.isArrayOperator = false)
    (hin : op ≠ .isIn) (hnotIn : op ≠ .notIn) : op.Compares := by
  intro comparison
  cases op with
  | arrayContains => cases harray
  | arrayContainsAny => cases harray
  | isIn => exact absurd rfl hin
  | notIn => exact absurd rfl hnotIn
  | _ => exact ⟨_, rfl⟩

theorem validateArrayValue_eq_ok {value : ν} (h : validateArrayValue value = .ok ()) :
    type value = .array ∧ ∀ refValue ∈ contents value, type refValue = .reference := by
  unfold validateArrayValue at h
  split at h
  · cases h
  · next htype =>
      split at h
      · next hall =>
          rw [List.all_eq_true] at hall
          exact ⟨not_not.1 htype, fun refValue hmem => of_decide_eq_true (hall refValue hmem)⟩
      · cases h

/-- On the key of the documents `In` and `NotIn` check their value, and the class is the given
one. -/
theorem eq_of_validateArrayValue_bind {value : ν} {found rep : FilterClass}
    (h : (do validateArrayValue value; return found : Except String FilterClass) = .ok rep) :
    rep = found ∧ type value = .array ∧
      ∀ refValue ∈ contents value, type refValue = .reference := by
  cases hvalid : validateArrayValue value with
  | error message =>
      rw [hvalid] at h
      cases h
  | ok =>
      rw [hvalid] at h
      cases h
      exact ⟨rfl, validateArrayValue_eq_ok hvalid⟩

/-- A class that takes arrays is given one. -/
theorem eq_of_type_array {value : ν} {found rep : FilterClass} {message : String}
    (h : (if type value = .array then .ok found else .error message :
      Except String FilterClass) = .ok rep) : rep = found ∧ type value = .array := by
  split at h
  · next htype =>
      cases h
      exact ⟨rfl, htype⟩
  · cases h

/-- Null and NaN are compared for equality only. -/
theorem fits_of_equality {name : φ} {op : Operator} {value : ν} {rep : FilterClass}
    {message : String}
    (h : (if op ≠ .equal ∧ op ≠ .notEqual then .error message else .ok .fieldFilter :
      Except String FilterClass) = .ok rep) : rep.Fits (.field name) op value := by
  split at h
  · cases h
  · next hop =>
      cases h
      refine ⟨(fun hkey => by cases hkey), fun comparison => ?_⟩
      by_cases hequal : op = .equal
      · subst hequal
        exact ⟨_, rfl⟩
      · have hnotEqual : op = .notEqual := not_not.1 fun hne => hop ⟨hequal, hne⟩
        subst hnotEqual
        exact ⟨_, rfl⟩

theorem fits_of_createFilter_key {op : Operator} {value : ν} {rep : FilterClass}
    (h : createFilter (.key : FieldPath φ) op value = .ok rep) :
    rep.Fits (.key : FieldPath φ) op value := by
  simp only [createFilter] at h
  split at h
  · rcases eq_of_validateArrayValue_bind h with ⟨rfl, hvalid⟩
    exact ⟨rfl, hvalid⟩
  · next hin =>
      split at h
      · rcases eq_of_validateArrayValue_bind h with ⟨rfl, hvalid⟩
        exact ⟨rfl, hvalid⟩
      · next hnotIn =>
          split at h
          · cases h
          · next htype =>
              split at h
              · cases h
              · next harray =>
                  cases h
                  exact ⟨rfl, not_not.1 htype,
                    Operator.compares (Bool.eq_false_iff.2 harray) hin hnotIn⟩

theorem fits_of_createFilter_field {name : φ} {op : Operator} {value : ν} {rep : FilterClass}
    (h : createFilter (.field name) op value = .ok rep) : rep.Fits (.field name) op value := by
  have hfield : FieldPath.field name ≠ .key := fun hkey => by cases hkey
  simp only [createFilter] at h
  split at h
  · exact fits_of_equality h
  · split at h
    · exact fits_of_equality h
    · split at h
      · cases h
        exact hfield
      · next hcontains =>
          split at h
          · rcases eq_of_type_array h with ⟨rfl, htype⟩
            exact ⟨hfield, htype⟩
          · next hin =>
              split at h
              · rcases eq_of_type_array h with ⟨rfl, htype⟩
                exact ⟨hfield, htype⟩
              · next hany =>
                  split at h
                  · rcases eq_of_type_array h with ⟨rfl, htype⟩
                    exact ⟨hfield, htype⟩
                  · next hnotIn =>
                      -- what is left compares
                      cases h
                      have harray : op.isArrayOperator = false := by
                        simp [Operator.isArrayOperator, hcontains, hany]
                      exact ⟨hfield, Operator.compares harray hin hnotIn⟩

/-- `Create` picks a class only after its checks. -/
theorem fits_of_createFilter {path : FieldPath φ} {op : Operator} {value : ν} {rep : FilterClass}
    (h : createFilter path op value = .ok rep) : rep.Fits path op value := by
  cases path with
  | key =>
      exact fits_of_createFilter_key h
  | field name =>
      exact fits_of_createFilter_field h

namespace FieldFilter

/-- `FieldFilter::Rep::IsInequality` -/
def isInequality (self : FieldFilter φ ν) : Bool :=
  self.op = .lessThan || self.op = .lessThanOrEqual || self.op = .greaterThan ||
    self.op = .greaterThanOrEqual || self.op = .notEqual || self.op = .notIn

/-! ## Matching a document -/

/-- `doc.field(field())`; no field of a document is called `__name__`. -/
def fieldOf (lookup : δ → φ → Option ν) (self : FieldFilter φ ν)
    (document : Document ResourcePath δ) : Option ν :=
  match self.field with
  | .key => none
  | .field name => lookup document.data name

/-- `KeyFieldInFilter::Contains` -/
def contains (document : Document ResourcePath δ) : List ν → Except String Bool
  | [] => .ok false
  | rhs :: arrayValue => do
      let key ← referenceValueKey rhs
      if document.key = key then return true
      else contains document arrayValue

/-- `Matches`, as the class of the filter overrides it. -/
def matchesDocument (lookup : δ → φ → Option ν) (self : FieldFilter φ ν)
    (document : Document ResourcePath δ) : Except String Bool :=
  match self.rep with
  | .fieldFilter =>
      match self.fieldOf lookup document with
      | none => .ok false
      | some lhs =>
          -- types do not have to match in `notEqual` filters
          if self.op = .notEqual then
            self.op.matchesComparison (compare lhs self.value)
          else if (type lhs).comparable (type self.value) then
            self.op.matchesComparison (compare lhs self.value)
          else .ok false
  | .arrayContainsFilter =>
      match self.fieldOf lookup document with
      | none => .ok false
      | some lhs =>
          if type lhs ≠ .array then .ok false
          else do
            let contents ← arrayValue lhs
            return contents.any fun element => equals element self.value
  | .arrayContainsAnyFilter => do
      let values ← arrayValue self.value
      match self.fieldOf lookup document with
      | none => return false
      | some lhs =>
          if type lhs ≠ .array then return false
          else
            let contents ← arrayValue lhs
            return contents.any fun val => values.any fun element => equals element val
  | .inFilter => do
      let values ← arrayValue self.value
      match self.fieldOf lookup document with
      | none => return false
      | some lhs => return values.any fun element => equals element lhs
  | .notInFilter => do
      let values ← arrayValue self.value
      -- a value equals `FieldValue::Null()` if it is of that type
      if values.any fun element => type element = .null then return false
      else
        match self.fieldOf lookup document with
        | none => return false
        | some lhs => return !values.any fun element => equals element lhs
  | .keyFieldFilter => do
      let rhsKey ← referenceValueKey self.value
      self.op.matchesComparison (compare document.key rhsKey)
  | .keyFieldInFilter => do
      let values ← arrayValue self.value
      contains document values
  | .keyFieldNotInFilter => do
      let values ← arrayValue self.value
      let found ← contains document values
      return !found

theorem exists_contains (document : Document ResourcePath δ) {values : List ν}
    (h : ∀ refValue ∈ values, type refValue = .reference) :
    ∃ found, contains document values = .ok found := by
  induction values with
  | nil =>
      exact ⟨_, rfl⟩
  | cons rhs values ih =>
      rcases List.forall_mem_cons.1 h with ⟨hhead, htail⟩
      have hkey : referenceValueKey rhs = .ok (referenceKey rhs) := if_pos hhead
      simp only [contains, hkey, bind, Except.bind]
      split
      · exact ⟨_, rfl⟩
      · exact ih htail

/-- No assertion of a `Matches` fails, `Create` has checked what it asserts; and a filter on a
field lets only documents through that have the field. -/
theorem matchesDocument_spec (lookup : δ → φ → Option ν) (self : FieldFilter φ ν)
    (document : Document ResourcePath δ) :
    ∃ answer, self.matchesDocument lookup document = .ok answer ∧
      (answer = true → self.field = .key ∨ (self.fieldOf lookup document).isSome = true) := by
  have hfits := fits_of_createFilter self.created
  have harray : ∀ {value : ν}, type value = .array → arrayValue value = .ok (contents value) :=
    fun htype => if_pos htype
  unfold matchesDocument
  cases hrep : self.rep with
  | fieldFilter =>
      rw [hrep] at hfits
      cases self.fieldOf lookup document with
      | none =>
          exact ⟨false, rfl, fun hyes => Bool.noConfusion hyes⟩
      | some lhs =>
          rcases hfits.2 (compare lhs self.value) with ⟨answer, hanswer⟩
          dsimp only
          rw [hanswer]
          split
          · exact ⟨answer, rfl, fun _ => .inr rfl⟩
          · split
            · exact ⟨answer, rfl, fun _ => .inr rfl⟩
            · exact ⟨false, rfl, fun _ => .inr rfl⟩
  | arrayContainsFilter =>
      cases self.fieldOf lookup document with
      | none =>
          exact ⟨false, rfl, fun hyes => Bool.noConfusion hyes⟩
      | some lhs =>
          by_cases htype : type lhs = .array
          · dsimp only
            rw [if_neg (not_not.2 htype), harray htype]
            exact ⟨_, rfl, fun _ => .inr rfl⟩
          · exact ⟨false, if_pos htype, fun _ => .inr rfl⟩
  | arrayContainsAnyFilter =>
      rw [hrep] at hfits
      dsimp only
      rw [harray hfits.2]
      cases self.fieldOf lookup document with
      | none =>
          exact ⟨false, rfl, fun hyes => Bool.noConfusion hyes⟩
      | some lhs =>
          by_cases htype : type lhs = .array
          · simp only [bind, Except.bind, ne_eq, htype, not_true_eq_false, if_false, harray htype]
            exact ⟨_, rfl, fun _ => .inr rfl⟩
          · exact ⟨false, if_pos htype, fun _ => .inr rfl⟩
  | inFilter =>
      rw [hrep] at hfits
      dsimp only
      rw [harray hfits.2]
      cases self.fieldOf lookup document with
      | none =>
          exact ⟨false, rfl, fun hyes => Bool.noConfusion hyes⟩
      | some lhs =>
          exact ⟨_, rfl, fun _ => .inr rfl⟩
  | notInFilter =>
      rw [hrep] at hfits
      dsimp only
      rw [harray hfits.2]
      simp only [bind, Except.bind]
      split
      -- a null among the values: no document at all
      · exact ⟨false, rfl, fun hyes => Bool.noConfusion hyes⟩
      · cases self.fieldOf lookup document with
        | none =>
            exact ⟨false, rfl, fun hyes => Bool.noConfusion hyes⟩
        | some lhs =>
            exact ⟨_, rfl, fun _ => .inr rfl⟩
  | keyFieldFilter =>
      rw [hrep] at hfits
      have hkey : referenceValueKey self.value = .ok (referenceKey self.value) := if_pos hfits.2.1
      rcases hfits.2.2 (compare document.key (referenceKey self.value)) with ⟨answer, hanswer⟩
      refine ⟨answer, ?_, fun _ => .inl hfits.1⟩
      dsimp only
      rw [hkey]
      exact hanswer
  | keyFieldInFilter =>
      rw [hrep] at hfits
      rcases exists_contains document hfits.2.2 with ⟨found, hfound⟩
      refine ⟨found, ?_, fun _ => .inl hfits.1⟩
      dsimp only
      rw [harray hfits.2.1]
      exact hfound
  | keyFieldNotInFilter =>
      rw [hrep] at hfits
      rcases exists_contains document hfits.2.2 with ⟨found, hfound⟩
      refine ⟨!found, ?_, fun _ => .inl hfits.1⟩
      dsimp only
      rw [harray hfits.2.1]
      simp only [bind, Except.bind, hfound]
      rfl

/-- A filter on a field lets only documents through that have the field. -/
theorem isSome_of_matchesDocument {lookup : δ → φ → Option ν} {self : FieldFilter φ ν}
    {document : Document ResourcePath δ} {name : φ} (hname : self.field = .field name)
    (h : self.matchesDocument lookup document = .ok true) :
    (lookup document.data name).isSome := by
  rcases self.matchesDocument_spec lookup document with ⟨answer, hanswer, hfield⟩
  cases hanswer.symm.trans h
  have hsome := (hfield rfl).resolve_left fun hkey => by
    rw [hname] at hkey
    cases hkey
  rwa [fieldOf, hname] at hsome

end FieldFilter

end Core
end Firestore
end MoviePlayList
