import Mathlib.Data.List.Dedup
import MoviePlayList.Firestore.ViewLimit
import MoviePlayList.Lib.Transition

/-!
# SyncEngine — documents in limbo and their resolutions

A document that is in a view although the server does not confirm it is in limbo.  `SyncEngine`
notes which targets refer to it, listens to the document itself, for at most
`max_concurrent_limbo_resolutions` documents at a time, and stops when no view has it in limbo any
more, when its last view goes, or when the server rejects the listen.

The state has one query for every target; a `TargetId` is a number without a bound, an `int32_t` in
the source.  Of a view only the documents in limbo matter here; they change by what
`View.updateLimboDocuments` reports (`updateLimboDocuments_between`).  A remote event goes through
the views one by one, and each of them is a step of its own.
-/

namespace MoviePlayList
namespace Firestore
namespace Core

variable {κ : Type} [Ord κ]

/-! ## References -/

/-- `ReferenceSet`, by its index over the targets. -/
structure ReferenceSet (κ : Type) [Ord κ] where
  byId : Std.TreeMap Nat (Std.TreeSet κ) := ∅

namespace ReferenceSet

/-- `ReferencedKeys` -/
def referencedKeys (self : ReferenceSet κ) (id : Nat) : Std.TreeSet κ := self.byId.getD id ∅

/-- `AddReference` -/
def addReference (self : ReferenceSet κ) (key : κ) (id : Nat) : ReferenceSet κ :=
  ⟨self.byId.insert id ((self.referencedKeys id).insert key)⟩

/-- `RemoveReference` -/
def removeReference (self : ReferenceSet κ) (key : κ) (id : Nat) : ReferenceSet κ :=
  ⟨self.byId.insert id ((self.referencedKeys id).erase key)⟩

/-- `RemoveReferences` -/
def removeReferences (self : ReferenceSet κ) (id : Nat) : ReferenceSet κ :=
  ⟨self.byId.erase id⟩

/-- `ContainsKey` -/
def containsKey (self : ReferenceSet κ) (key : κ) : Bool :=
  self.byId.toList.any fun entry => entry.2.contains key

end ReferenceSet

/-! ## The engine -/

/-- `LimboResolution` -/
structure LimboResolution (κ : Type) where
  key : κ
  documentReceived : Bool := false

/-- What the remote store listens for. -/
inductive ListenTarget (κ : Type)
  | query
  | limboResolution (key : κ)
  deriving DecidableEq

structure SyncEngine (κ : Type) [Ord κ] where
  maxConcurrentLimboResolutions : Nat
  /-- the documents in limbo of every view, by the target of its query -/
  views : Std.TreeMap Nat (Std.TreeSet κ) := ∅
  limboDocumentRefs : ReferenceSet κ := {}
  enqueuedLimboResolutions : List κ := []
  activeLimboTargetsByKey : Std.TreeMap κ Nat := ∅
  activeLimboResolutionsByTarget : Std.TreeMap Nat (LimboResolution κ) := ∅
  /-- `target_id_generator_`: odd, the local store gives out the even ones; unbounded here -/
  nextId : Nat := 1
  /-- `listen_targets_` of the remote store -/
  listenTargets : Std.TreeMap Nat (ListenTarget κ) := ∅
  /-- the documents whose last resolution was rejected and that have not left limbo since; history
  that no function reads -/
  rejected : Std.TreeSet κ := ∅

/-- The changes `View::UpdateLimboDocuments` reports. -/
def LimboDocumentChange.between (old new : Std.TreeSet κ) : List (LimboDocumentChange κ) :=
  (old.toList.filter fun key => !new.contains key).map .removed ++
    (new.toList.filter fun key => !old.contains key).map .added

/-- What a view reports are the changes from the documents that were in limbo to those that are. -/
theorem View.updateLimboDocuments_between {δ : Type} [Std.TransOrd κ] [Std.LawfulEqOrd κ]
    {query : Query κ δ} (self : View query) :
    self.updateLimboDocuments.2 = LimboDocumentChange.between self.limboDocuments
      self.updateLimboDocuments.1.limboDocuments := by
  unfold View.updateLimboDocuments
  split
  · rfl
  · -- nothing is worked out before the view is current
    have hnone : (self.limboDocuments.toList.filter fun key => !self.limboDocuments.contains key) =
        [] := by
      refine List.filter_eq_nil_iff.2 fun key hkey => ?_
      rw [Std.TreeSet.contains_iff_mem.2 (Std.TreeSet.mem_toList.1 hkey)]
      exact Bool.false_ne_true
    rw [LimboDocumentChange.between, hnone]
    rfl

/-- Documents in limbo after a change. -/
def LimboDocumentChange.apply (documents : Std.TreeSet κ) :
    LimboDocumentChange κ → Std.TreeSet κ
  | .added key => documents.insert key
  | .removed key => documents.erase key

namespace SyncEngine

/-- `RemoteStore::Listen` -/
def remoteListen (self : SyncEngine κ) (id : Nat) (target : ListenTarget κ) : SyncEngine κ :=
  { self with listenTargets := self.listenTargets.insertIfNew id target }

/-- `RemoteStore::StopListening` -/
def remoteStopListening (self : SyncEngine κ) (id : Nat) : Except String (SyncEngine κ) :=
  if id ∈ self.listenTargets then
    .ok { self with listenTargets := self.listenTargets.erase id }
  else
    .error s!"StopListening: target not currently watched: {id}"

/-- One turn of the loop in `PumpEnqueuedLimboResolutions`; `emplace` leaves an entry alone that is
there already. -/
def startResolution (self : SyncEngine κ) (key : κ) : SyncEngine κ :=
  remoteListen
    { self with
      nextId := self.nextId + 2
      activeLimboResolutionsByTarget :=
        self.activeLimboResolutionsByTarget.insertIfNew self.nextId { key := key }
      activeLimboTargetsByKey := self.activeLimboTargetsByKey.insertIfNew key self.nextId
      rejected := self.rejected.erase key }
    self.nextId (.limboResolution key)

/-- `PumpEnqueuedLimboResolutions`, with this queue. -/
def pump (self : SyncEngine κ) : List κ → SyncEngine κ
  | [] => { self with enqueuedLimboResolutions := [] }
  | key :: queue =>
      if self.activeLimboTargetsByKey.size < self.maxConcurrentLimboResolutions then
        (self.startResolution key).pump queue
      else
        { self with enqueuedLimboResolutions := key :: queue }

def pumpEnqueuedLimboResolutions (self : SyncEngine κ) : SyncEngine κ :=
  self.pump self.enqueuedLimboResolutions

/-- `TrackLimboChange` -/
def trackLimboChange (self : SyncEngine κ) (key : κ) : SyncEngine κ :=
  if key ∈ self.activeLimboTargetsByKey then
    self
  else
    pumpEnqueuedLimboResolutions
      { self with enqueuedLimboResolutions := self.enqueuedLimboResolutions ++ [key] }

/-- `RemoveLimboTarget` -/
def removeLimboTarget (self : SyncEngine κ) (key : κ) : Except String (SyncEngine κ) :=
  match self.activeLimboTargetsByKey[key]? with
  -- "this target already got removed, because the query failed"
  | none => return self
  | some id => do
      let stopped ← self.remoteStopListening id
      return pumpEnqueuedLimboResolutions
        { stopped with
          activeLimboTargetsByKey := stopped.activeLimboTargetsByKey.erase key
          activeLimboResolutionsByTarget := stopped.activeLimboResolutionsByTarget.erase id }

/-- What is done about a key that lost a reference. -/
def dereferenced (self : SyncEngine κ) (key : κ) : Except String (SyncEngine κ) :=
  if self.limboDocumentRefs.containsKey key then return self
  else removeLimboTarget { self with rejected := self.rejected.erase key } key

/-- One turn of the loop in `UpdateTrackedLimboDocuments`. -/
def updateTracked (id : Nat) (self : SyncEngine κ) :
    LimboDocumentChange κ → Except String (SyncEngine κ)
  | .added key =>
      return trackLimboChange
        { self with limboDocumentRefs := self.limboDocumentRefs.addReference key id } key
  | .removed key =>
      dereferenced
        { self with limboDocumentRefs := self.limboDocumentRefs.removeReference key id } key

/-- `UpdateTrackedLimboDocuments` -/
def updateTrackedLimboDocuments (self : SyncEngine κ) (limboChanges : List (LimboDocumentChange κ))
    (id : Nat) : Except String (SyncEngine κ) :=
  limboChanges.foldlM (updateTracked id) self

/-- `RemoveAndCleanupTarget` -/
def removeAndCleanupTarget (self : SyncEngine κ) (id : Nat) : Except String (SyncEngine κ) :=
  (self.limboDocumentRefs.referencedKeys id).toList.foldlM dereferenced
    { self with
      views := self.views.erase id
      limboDocumentRefs := self.limboDocumentRefs.removeReferences id }

/-- `HandleRejectedListen`.  The synthetic event that deletes the document goes through the views
like any other event; a view that is current has the document not in limbo any more after it
(`View.deleted_not_limbo`). -/
def handleRejectedListen (self : SyncEngine κ) (id : Nat) : Except String (SyncEngine κ) :=
  match self.activeLimboResolutionsByTarget[id]? with
  | some resolution =>
      return pumpEnqueuedLimboResolutions
        { self with
          activeLimboTargetsByKey := self.activeLimboTargetsByKey.erase resolution.key
          activeLimboResolutionsByTarget := self.activeLimboResolutionsByTarget.erase id
          rejected := self.rejected.insert resolution.key }
  | none => self.removeAndCleanupTarget id

/-- `limbo_resolution.document_received = received` -/
def setDocumentReceived (self : SyncEngine κ) (id : Nat) (key : κ) (received : Bool) :
    SyncEngine κ :=
  { self with
    activeLimboResolutionsByTarget :=
      self.activeLimboResolutionsByTarget.insert id ⟨key, received⟩ }

/-- What `ApplyRemoteEvent` does about the change of one target. -/
def applyTargetChange (self : SyncEngine κ) (id : Nat) (change : TargetChange κ) :
    Except String (SyncEngine κ) :=
  match self.activeLimboResolutionsByTarget[id]? with
  | none => return self
  | some resolution =>
      if 1 < change.addedDocuments.size + change.modifiedDocuments.size +
          change.removedDocuments.size then
        .error "Limbo resolution for single document contains multiple changes."
      else if !change.addedDocuments.isEmpty then
        return self.setDocumentReceived id resolution.key true
      else if !change.modifiedDocuments.isEmpty then
        if resolution.documentReceived then return self
        else .error "Received change for limbo target document without add."
      else if !change.removedDocuments.isEmpty then
        if resolution.documentReceived then
          return self.setDocumentReceived id resolution.key false
        else .error "Received remove for limbo target document without add."
      else
        return self

/-! ## Runs -/

/-- Everything that reaches the engine. -/
inductive Event (κ : Type) [Ord κ]
  /-- a query is listened to: `Listen` -/
  | listen (id : Nat)
  /-- a query is not listened to any more: `StopListening` -/
  | stopListening (id : Nat)
  /-- the view of a target has other documents in limbo -/
  | limbo (id : Nat) (documents : Std.TreeSet κ)
  /-- a target of a remote event changed -/
  | targetChange (id : Nat) (change : TargetChange κ)
  /-- the server rejects a target: `RemoteStore::ProcessTargetError` -/
  | targetError (id : Nat)

def play (self : SyncEngine κ) : Event κ → Except String (SyncEngine κ)
  | .listen id =>
      return remoteListen { self with views := self.views.insert id ∅ } id .query
  | .stopListening id => do
      let stopped ← self.remoteStopListening id
      stopped.removeAndCleanupTarget id
  | .limbo id documents => do
      let tracked ← self.updateTrackedLimboDocuments
        (LimboDocumentChange.between (self.views.getD id ∅) documents) id
      return { tracked with views := tracked.views.insert id documents }
  | .targetChange id change => self.applyTargetChange id change
  | .targetError id =>
      if id ∈ self.listenTargets then
        handleRejectedListen { self with listenTargets := self.listenTargets.erase id } id
      else
        return self

/-- The events that can come: a target the local store allocates is even and not in use, and views
change and go that are there. -/
def Possible (self : SyncEngine κ) : Event κ → Prop
  | .listen id => id % 2 = 0 ∧ id ∉ self.views
  | .stopListening id => id ∈ self.views
  | .limbo id _ => id ∈ self.views
  | .targetChange _ _ => True
  | .targetError _ => True

instance (self : SyncEngine κ) (event : Event κ) : Decidable (self.Possible event) :=
  match event with
  | .listen _ => inferInstanceAs (Decidable (_ ∧ _))
  | .stopListening id => inferInstanceAs (Decidable (id ∈ self.views))
  | .limbo id _ => inferInstanceAs (Decidable (id ∈ self.views))
  | .targetChange _ _ => inferInstanceAs (Decidable True)
  | .targetError _ => inferInstanceAs (Decidable True)

def step (self : SyncEngine κ) (event : Event κ) : Option (SyncEngine κ) :=
  if self.Possible event then
    match self.play event with
    | .ok next => some next
    | .error _ => none
  else none

/-! ## Books that are always in order -/

/-- The document a target resolves. -/
def resolving (self : SyncEngine κ) (id : Nat) : Option κ :=
  self.activeLimboResolutionsByTarget[id]?.map LimboResolution.key

/-- A document is being resolved, waits for it or was rejected. -/
def Accounted (self : SyncEngine κ) (key : κ) : Prop :=
  key ∈ self.activeLimboTargetsByKey ∨ key ∈ self.enqueuedLimboResolutions ∨ key ∈ self.rejected

/-- The active resolutions, their targets and the listens of the remote store fit together. -/
structure Sane (s : SyncEngine κ) : Prop where
  bounded : s.activeLimboTargetsByKey.size ≤ s.maxConcurrentLimboResolutions
  active : ∀ {key : κ} {id : Nat}, s.activeLimboTargetsByKey[key]? = some id →
    s.resolving id = some key
  ids : ∀ {id : Nat} {key : κ}, s.resolving id = some key → id % 2 = 1 ∧ id < s.nextId
  odd : s.nextId % 2 = 1
  listening : ∀ (id : Nat) (key : κ),
    s.listenTargets[id]? = some (.limboResolution key) ↔ s.resolving id = some key
  queries : ∀ id : Nat, s.listenTargets[id]? = some .query ↔ id ∈ s.views
  even : ∀ id ∈ s.views, id % 2 = 0
  fresh : ∀ key ∈ s.activeLimboTargetsByKey, key ∉ s.rejected

/-- No document waits while another one could be resolved. -/
def Busy (s : SyncEngine κ) : Prop :=
  s.enqueuedLimboResolutions = [] ∨
    s.maxConcurrentLimboResolutions ≤ s.activeLimboTargetsByKey.size

/-- Resolutions were worked on: views and references are the same, and only `lost` keys may not be
accounted for any more. -/
structure Works (lost : κ → Prop) (before after : SyncEngine κ) : Prop where
  sane : after.Sane
  busy : after.Busy
  views : after.views = before.views
  refs : after.limboDocumentRefs = before.limboDocumentRefs
  max : after.maxConcurrentLimboResolutions = before.maxConcurrentLimboResolutions
  accounted : ∀ key, ¬ lost key → before.Accounted key → after.Accounted key

variable [Std.TransOrd κ] [Std.LawfulEqOrd κ]

/-- The resolution of a key by a target ended, and the key may have been rejected. -/
def ended (self : SyncEngine κ) (key : κ) (id : Nat) (rejected : Std.TreeSet κ) : SyncEngine κ :=
  { self with
    listenTargets := self.listenTargets.erase id
    activeLimboTargetsByKey := self.activeLimboTargetsByKey.erase key
    activeLimboResolutionsByTarget := self.activeLimboResolutionsByTarget.erase id
    rejected := rejected }

/-- The books are in order, and what is referred to is accounted for. -/
structure Kept (s : SyncEngine κ) : Prop extends Sane s where
  busy : s.Busy
  covered : ∀ key, s.limboDocumentRefs.containsKey key → s.Accounted key

/-- The references of a target are the documents in limbo of its view. -/
def Mirrors (s : SyncEngine κ) : Prop :=
  ∀ id key, key ∈ s.limboDocumentRefs.referencedKeys id ↔ key ∈ s.views.getD id ∅

omit [Std.TransOrd κ] [Std.LawfulEqOrd κ] in
/-- Work that forgets nothing that is referred to keeps the rest. -/
theorem Works.kept {lost : κ → Prop} {s next : SyncEngine κ} (h : Works lost s next)
    (hcovered : ∀ key, s.limboDocumentRefs.containsKey key → ¬ lost key ∧ s.Accounted key) :
    next.Kept := by
  refine ⟨h.sane, h.busy, fun key hkey => ?_⟩
  rw [h.refs] at hkey
  rcases hcovered key hkey with ⟨hlost, haccounted⟩
  exact h.accounted key hlost haccounted

/-- An engine that nothing has reached yet. -/
def init (maxConcurrentLimboResolutions : Nat) : SyncEngine κ where
  maxConcurrentLimboResolutions := maxConcurrentLimboResolutions

section Runs

variable [DecidableEq κ]

/-- All documents in limbo. -/
def limboDocuments (self : SyncEngine κ) : List κ :=
  (self.views.toList.flatMap fun entry => entry.2.toList).dedup

end Runs

end SyncEngine
end Core
end Firestore
end MoviePlayList
