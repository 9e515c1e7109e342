import Mathlib.Data.List.Basic

/-!
# Dictionary — the `[String: Any]` data of a Firestore document

Only the value types the app stores are kept: strings and Firestore timestamps.  A dictionary is
looked up by key; `as? String` and `as? Timestamp` are the partial projections.
-/

namespace MoviePlayList

structure Timestamp where
  seconds : Int
  nanoseconds : Int
  deriving DecidableEq, Repr

namespace Timestamp

/-- The order of `FIRTimestamp compare:`: seconds first, then nanoseconds. -/
def le (a b : Timestamp) : Prop :=
  a.seconds < b.seconds ∨ (a.seconds = b.seconds ∧ a.nanoseconds ≤ b.nanoseconds)

instance : LE Timestamp := ⟨le⟩

instance (a b : Timestamp) : Decidable (a ≤ b) :=
  inferInstanceAs (Decidable (_ ∨ _))

end Timestamp

inductive FieldValue
  | string (value : String)
  | timestamp (value : Timestamp)
  deriving DecidableEq, Repr

namespace FieldValue

def asString : FieldValue → Option String
  | string value => some value
  | timestamp _ => none

def asTimestamp : FieldValue → Option Timestamp
  | string _ => none
  | timestamp value => some value

end FieldValue

abbrev Dictionary := String → Option FieldValue

namespace Dictionary

/-- A dictionary literal. -/
def ofList (entries : List (String × FieldValue)) : Dictionary := fun key => entries.lookup key

/-- `dictionary[key] as? String` -/
def string (dictionary : Dictionary) (key : String) : Option String :=
  (dictionary key).bind FieldValue.asString

/-- `dictionary[key] as? Timestamp` -/
def timestamp (dictionary : Dictionary) (key : String) : Option Timestamp :=
  (dictionary key).bind FieldValue.asTimestamp

/-- The effect of `updateData` on the stored fields: the named ones change, the others stay. -/
def merging (dictionary fields : Dictionary) : Dictionary :=
  fun key => (fields key).or (dictionary key)

@[simp] theorem merging_single_self (dictionary : Dictionary) (field : String)
    (value : FieldValue) : dictionary.merging (ofList [(field, value)]) field = some value := by
  simp [merging, ofList]

theorem merging_single_of_ne (dictionary : Dictionary) {field key : String} (value : FieldValue)
    (h : key ≠ field) : dictionary.merging (ofList [(field, value)]) key = dictionary key := by
  simp [merging, ofList, List.lookup_cons, beq_eq_false_iff_ne.2 h]

end Dictionary

end MoviePlayList
