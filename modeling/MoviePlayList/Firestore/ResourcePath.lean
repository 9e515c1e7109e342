import MoviePlayList.Lib.Separated

/-!
# ResourcePath — collection and document references

The part of the vendored Firestore client that decides which strings name a collection:
`ResourcePath::FromStringView`, `MakeQuery` and the two ways from a collection to a document and
back.  A thrown `invalid_argument` and a failed `HARD_ASSERT` both end in `Except.error` with the
message of the source.  The parity of a path is a field of the reference, so a collection
reference with an even number of segments cannot be built.
-/

namespace MoviePlayList
namespace Firestore

abbrev ResourcePath := List String

namespace ResourcePath

/-- `ResourcePath::CanonicalString` -/
def canonicalString (path : ResourcePath) : String := "/".intercalate path

/-- `ResourcePath::FromStringView`: split at '/', skip empty segments. -/
def fromStringView (path : String) : Except String ResourcePath :=
  if Separated.Doubled '/' path.toList then
    .error s!"Invalid path ({path}). Paths must not contain // in them."
  else
    .ok ((Separated.segments '/' path.toList).map String.ofList)

/-- `BasePath::IsImmediateParentOf` -/
def IsImmediateParentOf (path child : ResourcePath) : Prop :=
  path.length + 1 = child.length ∧ path <+: child

instance (path child : ResourcePath) : Decidable (IsImmediateParentOf path child) := by
  unfold IsImmediateParentOf
  infer_instance

end ResourcePath

structure CollectionReference where
  path : ResourcePath
  odd : path.length % 2 = 1
  deriving DecidableEq

structure DocumentReference where
  path : ResourcePath
  even : path.length % 2 = 0
  deriving DecidableEq

/-- `MakeQuery` together with the `CollectionReference` constructor. -/
def makeQuery (path : ResourcePath) : Except String CollectionReference :=
  if h : path.length % 2 = 1 then
    .ok ⟨path, h⟩
  else
    .error s!"Invalid collection reference. Collection references must have an odd number of segments, but {path.canonicalString} has {path.length}"

/-- The `DocumentReference` constructor. -/
def makeDocument (path : ResourcePath) : Except String DocumentReference :=
  if h : path.length % 2 = 0 then
    .ok ⟨path, h⟩
  else
    .error s!"Invalid document reference. Document references must have an even number of segments, but {path.canonicalString} has {path.length}"

/-- `Firestore::GetCollection` -/
def collection (collectionPath : String) : Except String CollectionReference := do
  let path ← ResourcePath.fromStringView collectionPath
  makeQuery path

/-- `CollectionReference::Document` -/
def CollectionReference.document (self : CollectionReference) (documentPath : String) :
    Except String DocumentReference := do
  let subPath ← ResourcePath.fromStringView documentPath
  makeDocument (self.path ++ subPath)

/-- `DocumentReference::GetCollectionReference` -/
def DocumentReference.collection (self : DocumentReference) (collectionPath : String) :
    Except String CollectionReference := do
  let subPath ← ResourcePath.fromStringView collectionPath
  makeQuery (self.path ++ subPath)

/-! ## Which strings are accepted -/

theorem fromStringView_eq_ok {path : String} {segs : ResourcePath} :
    ResourcePath.fromStringView path = .ok segs ↔
      ¬ Separated.Doubled '/' path.toList ∧
        segs = (Separated.segments '/' path.toList).map String.ofList := by
  unfold ResourcePath.fromStringView
  split
  · next h => simp [h]
  · next h => simp [h, eq_comm]

theorem makeQuery_eq_ok {path : ResourcePath} {c : CollectionReference} :
    makeQuery path = .ok c ↔ c.path = path := by
  unfold makeQuery
  split
  · next h =>
      constructor
      · intro hc
        cases hc
        rfl
      · intro hc
        cases c
        cases hc
        rfl
  · next h =>
      constructor
      · intro hc
        cases hc
      · intro hc
        exact absurd (hc ▸ c.odd) h

theorem makeDocument_eq_ok {path : ResourcePath} {d : DocumentReference} :
    makeDocument path = .ok d ↔ d.path = path := by
  unfold makeDocument
  split
  · next h =>
      constructor
      · intro hd
        cases hd
        rfl
      · intro hd
        cases d
        cases hd
        rfl
  · next h =>
      constructor
      · intro hd
        cases hd
      · intro hd
        exact absurd (hd ▸ d.even) h

/-- A non-empty string without '/' is a path of one segment. -/
theorem fromStringView_single {name : String} (hne : name ≠ "") (hslash : '/' ∉ name.toList) :
    ResourcePath.fromStringView name = .ok [name] := by
  have hlist : name.toList ≠ [] := by
    simpa [String.toList_eq_nil_iff] using hne
  refine fromStringView_eq_ok.2 ⟨?_, ?_⟩
  · intro hd
    exact hslash (hd.subset (by simp))
  · simp [Separated.segments_of_not_mem hlist hslash]

theorem DocumentReference.collection_eq_ok {d : DocumentReference} {path : String}
    {c : CollectionReference} :
    d.collection path = .ok c ↔
      ¬ Separated.Doubled '/' path.toList ∧
        c.path = d.path ++ (Separated.segments '/' path.toList).map String.ofList := by
  unfold DocumentReference.collection
  constructor
  · intro h
    cases hp : ResourcePath.fromStringView path with
    | error msg =>
        simp [hp, bind, Except.bind] at h
    | ok segs =>
        rcases fromStringView_eq_ok.1 hp with ⟨hdbl, rfl⟩
        simp only [hp, bind, Except.bind] at h
        exact ⟨hdbl, makeQuery_eq_ok.1 h⟩
  · rintro ⟨hdbl, hc⟩
    have hp := fromStringView_eq_ok.2 ⟨hdbl, rfl⟩
    simp only [hp, bind, Except.bind]
    exact makeQuery_eq_ok.2 hc

end Firestore
end MoviePlayList
