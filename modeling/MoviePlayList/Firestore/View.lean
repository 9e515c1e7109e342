import MoviePlayList.Firestore.ViewSnapshot

/-!
# View — the documents of a query, updated change by change

`View::ComputeDocumentChanges` walks over changed documents, keeps those the query matches, files
what happened to each of them and cuts the result down to the limit of the query; it may be run a
second time over a refill from the local cache.  `View::ApplyChanges` makes the result the view's
own, sorts the changes and works out which documents are in limbo: in the view, but neither
confirmed by the server nor written here.

A failed `HARD_ASSERT` or `HARD_FAIL` is `Except.error` with the message of the source.
-/

namespace MoviePlayList
namespace Firestore
namespace Core

/-- `LimitType` -/
inductive LimitType
  | none
  | first
  | last
  deriving DecidableEq

/-- What a view uses of `Query`: `Matches`, `Comparator` and the limit. -/
structure Query (κ δ : Type) where
  accepts : Document κ δ → Bool
  comparator : DocumentComparator κ δ
  limitType : LimitType := .none
  limit : Nat := 0

variable {κ δ : Type} [Ord κ]

/-- `ViewDocumentChanges` -/
structure ViewDocumentChanges (cmp : DocumentComparator κ δ) where
  documentSet : DocumentSet cmp
  changeSet : DocumentViewChangeSet κ δ
  mutatedKeys : Std.TreeSet κ
  needsRefill : Bool

/-- `TargetChange`, as far as a view reads it. -/
structure TargetChange (κ : Type) [Ord κ] where
  current : Bool
  addedDocuments : Std.TreeSet κ
  modifiedDocuments : Std.TreeSet κ
  removedDocuments : Std.TreeSet κ

inductive SyncState
  | none
  | «local»
  | synced
  deriving DecidableEq

inductive LimboDocumentChange (κ : Type)
  | added (key : κ)
  | removed (key : κ)
  deriving DecidableEq

/-- `ViewChange` -/
structure ViewChange (cmp : DocumentComparator κ δ) where
  snapshot : Option (ViewSnapshot cmp)
  limboChanges : List (LimboDocumentChange κ)

/-- `MaybeDocumentMap`; a `NoDocument` or an `UnknownDocument` is `none`. -/
abbrev MaybeDocumentMap (κ δ : Type) [Ord κ] := Std.TreeMap κ (Option (Document κ δ))

structure View (query : Query κ δ) where
  documentSet : DocumentSet query.comparator
  syncedDocuments : Std.TreeSet κ
  limboDocuments : Std.TreeSet κ := ∅
  mutatedKeys : Std.TreeSet κ := ∅
  syncState : SyncState := .none
  current : Bool := false

namespace View

variable [Std.TransOrd κ] [Std.LawfulEqOrd κ] [DecidableEq κ] [DecidableEq δ] [ToString κ]
variable {query : Query κ δ}

/-- The constructor `View(query, remote_documents)`. -/
def init (query : Query κ δ) (remoteDocuments : Std.TreeSet κ) : View query where
  documentSet := .empty query.comparator
  syncedDocuments := remoteDocuments

/-! ## ComputeDocumentChanges -/

/-- `ShouldWaitForSyncedDocument` -/
def shouldWaitForSyncedDocument (newDoc oldDoc : Document κ δ) : Bool :=
  oldDoc.hasLocalMutations && newDoc.hasCommittedMutations && !newDoc.hasLocalMutations

/-- The document a change leaves under its key, if the query matches it. -/
def newDocument (query : Query κ δ) (key : κ) (maybeNewDoc : Option (Document κ δ)) :
    Except String (Option (Document κ δ)) :=
  match maybeNewDoc with
  | none => .ok none
  | some document =>
      if key = document.key then
        .ok (if query.accepts document then some document else none)
      else
        .error s!"Mismatching key in document changes: {key} != {document.key}"

/-- The end of a turn of the loop in which a change was applied. -/
def changeApplied (progress : ViewDocumentChanges query.comparator) (key : κ)
    (newDoc : Option (Document κ δ)) (changeSet : DocumentViewChangeSet κ δ) (refill : Bool) :
    ViewDocumentChanges query.comparator :=
  match newDoc with
  | some document =>
      { documentSet := progress.documentSet.insert document
        changeSet := changeSet
        mutatedKeys :=
          if document.hasLocalMutations then progress.mutatedKeys.insert key
          else progress.mutatedKeys.erase key
        needsRefill := progress.needsRefill || refill }
  | none =>
      { documentSet := progress.documentSet.erase key
        changeSet := changeSet
        mutatedKeys := progress.mutatedKeys.erase key
        needsRefill := progress.needsRefill || refill }

/-- One turn of the loop over `doc_changes`.  The document looked up is the one of the set the loop
started from; the mutated keys looked up are the view's own. -/
def onDocument (self : View query) (oldDocumentSet : DocumentSet query.comparator)
    (lastDocInLimit firstDocInLimit : Option (Document κ δ))
    (progress : ViewDocumentChanges query.comparator)
    (change : κ × Option (Document κ δ)) : Except String (ViewDocumentChanges query.comparator) := do
  let (key, maybeNewDoc) := change
  let oldDoc? := oldDocumentSet.getDocument key
  let newDoc? ← newDocument query key maybeNewDoc
  match oldDoc?, newDoc? with
  | some oldDoc, some newDoc =>
      let oldDocHadPendingMutations := self.mutatedKeys.contains key
      -- committed mutations only count for documents mutated during the lifetime of the view
      let newDocHasPendingMutations := newDoc.hasLocalMutations ||
        (self.mutatedKeys.contains key && newDoc.hasCommittedMutations)
      if oldDoc.data ≠ newDoc.data then
        if shouldWaitForSyncedDocument newDoc oldDoc then
          return progress
        else
          let changeSet ← progress.changeSet.addChange ⟨newDoc, .modified⟩
          let outsideLimit := lastDocInLimit.any fun last =>
            query.comparator.compare newDoc last = .gt
          let outsideLimitToLast := firstDocInLimit.any fun first =>
            query.comparator.compare newDoc first = .lt
          return changeApplied progress key (some newDoc) changeSet
            (outsideLimit || outsideLimitToLast)
      else if oldDocHadPendingMutations ≠ newDocHasPendingMutations then
        let changeSet ← progress.changeSet.addChange ⟨newDoc, .metadata⟩
        return changeApplied progress key (some newDoc) changeSet false
      else
        return progress
  | none, some newDoc =>
      let changeSet ← progress.changeSet.addChange ⟨newDoc, .added⟩
      return changeApplied progress key (some newDoc) changeSet false
  | some oldDoc, none =>
      let changeSet ← progress.changeSet.addChange ⟨oldDoc, .removed⟩
      -- removed from a full limit query: the local cache may know of another result
      return changeApplied progress key none changeSet
        (lastDocInLimit.isSome || firstDocInLimit.isSome)
  | none, none => return progress

/-- The loop that drops documents out of a result above the limit, `n` of them. -/
def dropOut : Nat → ViewDocumentChanges query.comparator →
    Except String (ViewDocumentChanges query.comparator)
  | 0, progress => .ok progress
  | n + 1, progress => do
      let found :=
        if query.limitType = .first then progress.documentSet.getLastDocument
        else progress.documentSet.getFirstDocument
      match found with
      | none => .error "the document set is empty"
      | some oldDoc =>
          let changeSet ← progress.changeSet.addChange ⟨oldDoc, .removed⟩
          dropOut n
            { documentSet := progress.documentSet.erase oldDoc.key
              changeSet := changeSet
              mutatedKeys := progress.mutatedKeys.erase oldDoc.key
              needsRefill := progress.needsRefill }

/-- How many documents are above the limit. -/
def excess (query : Query κ δ) (documentSet : DocumentSet query.comparator) : Nat :=
  if query.limitType = .none then 0 else documentSet.size - query.limit

/-- What the computation starts from: a result that needs a refill, or the view itself. -/
def startingFrom (self : View query)
    (previousChanges : Option (ViewDocumentChanges query.comparator)) :
    ViewDocumentChanges query.comparator :=
  match previousChanges with
  | some previous => { previous with needsRefill := false }
  | none => ⟨self.documentSet, .empty, self.mutatedKeys, false⟩

/-- The last document of a result that has reached its limit. -/
def lastDocInLimit (oldDocumentSet : DocumentSet query.comparator) : Option (Document κ δ) :=
  if query.limitType = .first ∧ oldDocumentSet.size = query.limit then
    oldDocumentSet.getLastDocument
  else none

/-- The first document of a result that has reached its limit to last. -/
def firstDocInLimit (oldDocumentSet : DocumentSet query.comparator) : Option (Document κ δ) :=
  if query.limitType = .last ∧ oldDocumentSet.size = query.limit then
    oldDocumentSet.getFirstDocument
  else none

/-- `ComputeDocumentChanges` -/
def computeDocumentChanges (self : View query) (docChanges : MaybeDocumentMap κ δ)
    (previousChanges : Option (ViewDocumentChanges query.comparator)) :
    Except String (ViewDocumentChanges query.comparator) := do
  let start := self.startingFrom previousChanges
  let oldDocumentSet := start.documentSet
  let progress ← docChanges.toList.foldlM
    (self.onDocument oldDocumentSet (lastDocInLimit oldDocumentSet)
      (firstDocInLimit oldDocumentSet)) start
  let result ← dropOut (excess query progress.documentSet) progress
  if result.needsRefill ∧ previousChanges.isSome then
    .error "View was refilled using docs that themselves needed refilling."
  else
    return result

/-! ## ApplyChanges -/

/-- `GetDocumentViewChangeTypePosition` -/
def getDocumentViewChangeTypePosition : ChangeType → Nat
  | .removed => 0
  | .added => 1
  | .modified | .metadata => 2

/-- The order `ApplyChanges` sorts changes by. -/
def compareChanges (cmp : DocumentComparator κ δ) (lhs rhs : DocumentViewChange κ δ) : Ordering :=
  (compare (getDocumentViewChangeTypePosition lhs.type)
    (getDocumentViewChangeTypePosition rhs.type)).then (cmp.compare lhs.document rhs.document)

/-- `std::sort`; no two changes are equal, so that every sorting algorithm gives this list. -/
def sortChanges (cmp : DocumentComparator κ δ) (changes : List (DocumentViewChange κ δ)) :
    List (DocumentViewChange κ δ) :=
  changes.insertionSort fun lhs rhs => compareChanges cmp lhs rhs = .lt

/-- `ApplyTargetChange` -/
def applyTargetChange (self : View query) (maybeTargetChange : Option (TargetChange κ)) :
    Except String (View query) :=
  match maybeTargetChange with
  | none => .ok self
  | some targetChange =>
      let added := targetChange.addedDocuments.foldl (fun set key => set.insert key)
        self.syncedDocuments
      match targetChange.modifiedDocuments.toList.find? fun key => !added.contains key with
      | some key => .error s!"Modified document {key} not found in view."
      | none =>
          .ok { self with
            syncedDocuments := targetChange.removedDocuments.foldl (fun set key => set.erase key)
              added
            current := targetChange.current }

/-- `ShouldBeInLimbo` -/
def shouldBeInLimbo (self : View query) (key : κ) : Bool :=
  if self.syncedDocuments.contains key then
    -- the server says it is part of the query
    false
  else
    match self.documentSet.getDocument key with
    | none => false
    | some document => !document.hasLocalMutations

/-- `UpdateLimboDocuments` -/
def updateLimboDocuments (self : View query) : View query × List (LimboDocumentChange κ) :=
  if self.current then
    let keys := self.documentSet.sortedSet.map Document.key
    let limboDocuments := (keys.filter self.shouldBeInLimbo).foldl
      (fun (set : Std.TreeSet κ) key => set.insert key) ∅
    let removed := (self.limboDocuments.toList.filter fun key => !limboDocuments.contains key).map
      LimboDocumentChange.removed
    let added := (limboDocuments.toList.filter fun key => !self.limboDocuments.contains key).map
      LimboDocumentChange.added
    ({ self with limboDocuments := limboDocuments }, removed ++ added)
  else
    (self, [])

/-- `ApplyChanges` -/
def applyChanges (self : View query) (docChanges : ViewDocumentChanges query.comparator)
    (targetChange : Option (TargetChange κ)) :
    Except String (View query × ViewChange query.comparator) := do
  if docChanges.needsRefill then
    .error "Cannot apply changes that need a refill"
  else
    let oldDocuments := self.documentSet
    let changes := sortChanges query.comparator docChanges.changeSet.getChanges
    let targeted ← applyTargetChange { self with
      documentSet := docChanges.documentSet
      mutatedKeys := docChanges.mutatedKeys } targetChange
    let (view, limboChanges) := targeted.updateLimboDocuments
    let synced := view.limboDocuments.isEmpty && view.current
    let newSyncState := if synced then SyncState.synced else .local
    let syncStateChanged : Bool := newSyncState ≠ view.syncState
    let next := { view with syncState := newSyncState }
    if changes.isEmpty && !syncStateChanged then
      return (next, ⟨none, limboChanges⟩)
    else
      let snapshot : ViewSnapshot query.comparator :=
        { documents := docChanges.documentSet
          oldDocuments := oldDocuments
          documentChanges := changes
          mutatedKeys := docChanges.mutatedKeys
          fromCache := newSyncState = .local
          syncStateChanged := syncStateChanged
          excludesMetadataChanges := false }
      return (next, ⟨some snapshot, limboChanges⟩)

/-- `ApplyOnlineStateChange`; `offline` is `online_state == OnlineState::Offline`. -/
def applyOnlineStateChange (self : View query) (offline : Bool) :
    Except String (View query × ViewChange query.comparator) :=
  if self.current && offline then
    applyChanges { self with current := false }
      ⟨self.documentSet, .empty, self.mutatedKeys, false⟩ none
  else
    .ok (self, ⟨none, []⟩)

end View

end Core
end Firestore
end MoviePlayList
