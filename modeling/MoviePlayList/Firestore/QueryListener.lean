import MoviePlayList.Firestore.QuerySnapshot

/-!
# QueryListener — which snapshots of a view become events

A `QueryListener` is told of every snapshot of its view and decides which of them its user sees:
the first one may have to wait for the server, changes of metadata are left out unless they were
asked for, and a snapshot without anything left is swallowed.

Whatever is swallowed, the events fit together: each is sound and starts from the entries the last
one ended with (`Shown`), so that a user who applies the changes of every event has the entries of
the view.
-/

namespace MoviePlayList
namespace Firestore
namespace Core

inductive OnlineState
  | unknown
  | online
  | offline
  deriving DecidableEq

structure ListenOptions where
  includeQueryMetadataChanges : Bool := false
  includeDocumentMetadataChanges : Bool := false
  waitForSyncWhenOnline : Bool := false
  deriving DecidableEq

/-- `FromIncludeMetadataChanges`; `addSnapshotListener` without options passes `false`. -/
def ListenOptions.fromIncludeMetadataChanges (includeMetadataChanges : Bool) : ListenOptions where
  includeQueryMetadataChanges := includeMetadataChanges
  includeDocumentMetadataChanges := includeMetadataChanges

variable {κ δ : Type} [Ord κ]

structure QueryListener (cmp : DocumentComparator κ δ) where
  options : ListenOptions
  raisedInitialEvent : Bool := false
  onlineState : OnlineState := .unknown
  snapshot : Option (ViewSnapshot cmp) := none

namespace QueryListener

variable {cmp : DocumentComparator κ δ}

/-- `ShouldRaiseInitialEvent` -/
def shouldRaiseInitialEvent (self : QueryListener cmp) (snapshot : ViewSnapshot cmp)
    (onlineState : OnlineState) : Except String Bool :=
  if self.raisedInitialEvent then
    .error "Determining whether to raise initial event, but already had first event."
  else if !snapshot.fromCache then
    .ok true
  else if self.options.waitForSyncWhenOnline && onlineState ≠ .offline then
    -- still waiting for the server
    .ok false
  else
    .ok (!snapshot.documents.isEmpty || onlineState = .offline)

/-- `ShouldRaiseEvent` -/
def shouldRaiseEvent (self : QueryListener cmp) (snapshot : ViewSnapshot cmp) : Bool :=
  if !snapshot.documentChanges.isEmpty then
    true
  else
    let hasPendingWritesChanged := self.snapshot.any fun last =>
      last.hasPendingWrites ≠ snapshot.hasPendingWrites
    (snapshot.syncStateChanged || hasPendingWritesChanged) &&
      self.options.includeQueryMetadataChanges

/-- The snapshot a listener that does not care about metadata looks at. -/
def strip (self : QueryListener cmp) (snapshot : ViewSnapshot cmp) : ViewSnapshot cmp :=
  if self.options.includeDocumentMetadataChanges then snapshot
  else
    { snapshot with
      documentChanges := snapshot.documentChanges.filter fun change => change.type ≠ .metadata
      excludesMetadataChanges := true }

variable [Std.TransOrd κ] [Std.LawfulEqOrd κ]

/-- `RaiseInitialEvent`: the listener afterwards and the event. -/
def raiseInitialEvent (self : QueryListener cmp) (snapshot : ViewSnapshot cmp) :
    Except String (QueryListener cmp × ViewSnapshot cmp) :=
  if self.raisedInitialEvent then
    .error "Trying to raise initial events for second time"
  else
    .ok ({ self with raisedInitialEvent := true },
      .fromInitialDocuments snapshot.documents snapshot.mutatedKeys snapshot.fromCache
        snapshot.excludesMetadataChanges)

/-- `OnViewSnapshot`: the listener afterwards and the event raised, if any. -/
def onViewSnapshot (self : QueryListener cmp) (viewSnapshot : ViewSnapshot cmp) :
    Except String (QueryListener cmp × Option (ViewSnapshot cmp)) :=
  if viewSnapshot.documentChanges.isEmpty && !viewSnapshot.syncStateChanged then
    .error "We got a new snapshot with no changes?"
  else do
    let snapshot := self.strip viewSnapshot
    if !self.raisedInitialEvent then
      if ← self.shouldRaiseInitialEvent snapshot self.onlineState then
        let (raised, event) ← self.raiseInitialEvent snapshot
        return ({ raised with snapshot := some snapshot }, some event)
      else
        return ({ self with snapshot := some snapshot }, none)
    else if self.shouldRaiseEvent snapshot then
      return ({ self with snapshot := some snapshot }, some snapshot)
    else
      return ({ self with snapshot := some snapshot }, none)

/-- `OnOnlineStateChanged` -/
def onOnlineStateChanged (self : QueryListener cmp) (onlineState : OnlineState) :
    Except String (QueryListener cmp × Option (ViewSnapshot cmp)) := do
  let listener := { self with onlineState := onlineState }
  match listener.snapshot with
  | none => return (listener, none)
  | some snapshot =>
      if !listener.raisedInitialEvent then
        if ← listener.shouldRaiseInitialEvent snapshot onlineState then
          let (raised, event) ← listener.raiseInitialEvent snapshot
          return (raised, some event)
        else
          return (listener, none)
      else
        return (listener, none)

/-! ## Sound snapshots -/

omit [Std.LawfulEqOrd κ] in
/-- All documents, as if they were added, are a sound first snapshot. -/
theorem fromInitialDocuments_sound (documents : DocumentSet cmp) (mutatedKeys : Std.TreeSet κ)
    (fromCache excludesMetadataChanges : Bool) :
    (ViewSnapshot.fromInitialDocuments documents mutatedKeys fromCache
      excludesMetadataChanges).Sound := by
  have hnone : ∀ key, (DocumentSet.empty cmp).getDocument key = none :=
    fun key => Std.TreeMap.getElem?_emptyc
  have hkeys : (documents.sortedSet.map fun document : Document κ δ =>
      (⟨document, .added⟩ : DocumentViewChange κ δ)).map (fun change => change.document.key) =
      documents.sortedSet.map Document.key := by
    rw [List.map_map]
    rfl
  refine ⟨?_, ?_, ?_, ?_⟩
  · rw [ViewSnapshot.fromInitialDocuments, hkeys]
    exact documents.nodup_keys
  · intro change hmem
    rcases List.mem_map.1 hmem with ⟨document, hdoc, rfl⟩
    exact ⟨hnone _, DocumentSet.mem_sortedSet.1 hdoc⟩
  · intro key hkey
    rw [ViewSnapshot.fromInitialDocuments, hkeys] at hkey
    have hout : documents.getDocument key = none := by
      refine Option.eq_none_iff_forall_ne_some.2 fun document hdoc => hkey ?_
      rcases DocumentSet.getDocument_eq_some.1 hdoc with ⟨hmem, hk⟩
      exact List.mem_map.2 ⟨document, hmem, hk⟩
    show ((DocumentSet.empty cmp).getDocument key).map _ = (documents.getDocument key).map _
    rw [hnone, hout]
  · show (documents.sortedSet.map _).Pairwise _
    rw [List.pairwise_map]
    refine List.Pairwise.imp (fun {a b} hlt => ?_) documents.ascending
    rw [View.compareChanges]
    simpa using hlt

omit [Std.TransOrd κ] [Std.LawfulEqOrd κ] in
/-- Leaving metadata changes out keeps a snapshot sound: they do not touch the data. -/
theorem strip_sound (self : QueryListener cmp) {snapshot : ViewSnapshot cmp}
    (h : snapshot.Sound) : (self.strip snapshot).Sound := by
  unfold strip
  split
  · exact h
  · refine ⟨?_, ?_, ?_, ?_⟩
    · exact h.keys.sublist (List.filter_sublist.map _)
    · intro change hmem
      exact h.describes change (List.mem_of_mem_filter hmem)
    · intro key hkey
      by_cases hmem : key ∈ snapshot.documentChanges.map fun change => change.document.key
      · -- the change of this key was left out
        rcases List.mem_map.1 hmem with ⟨⟨document, type⟩, hchange, rfl⟩
        have hmetadata : type = .metadata := by
          by_contra hne
          refine hkey (List.mem_map.2 ⟨⟨document, type⟩, List.mem_filter.2 ⟨hchange, ?_⟩, rfl⟩)
          exact decide_eq_true hne
        subst hmetadata
        rcases h.describes _ hchange with ⟨⟨before, hbefore, hdata⟩, hnew⟩
        show (snapshot.oldDocuments.getDocument document.key).map _ =
          (snapshot.documents.getDocument document.key).map _
        rw [hbefore, hnew, Option.map_some, Option.map_some, hdata]
      · exact h.others key hmem
    · exact h.sorted.sublist List.filter_sublist

/-! ## What a listener's user has seen -/

/-- The entries of the documents of a set. -/
abbrev entries (set : DocumentSet cmp) : List (κ × δ) := set.sortedSet.map DocumentSet.entry

/-- The entries of the last event: until the first one there are none, and afterwards the snapshots
that were swallowed changed none. -/
def seen (self : QueryListener cmp) : List (κ × δ) :=
  if self.raisedInitialEvent then
    (self.snapshot.map fun snapshot => entries snapshot.documents).getD []
  else []

/-- An event, or its absence, leads from some entries to others. -/
def Delivers : Option (ViewSnapshot cmp) → List (κ × δ) → List (κ × δ) → Prop
  | none, old, new => old = new
  | some event, old, new =>
      event.Sound ∧ entries event.oldDocuments = old ∧ entries event.documents = new

/-- How a listener reacts: the event fits, it is the first one or a later one, and where there was
none yet it is not time for it. -/
structure Reacts (before next : QueryListener cmp) (event : Option (ViewSnapshot cmp)) : Prop where
  delivers : Delivers event before.seen next.seen
  raised : next.raisedInitialEvent = (before.raisedInitialEvent || event.isSome)
  documents : ∀ shown, event = some shown → ∃ snapshot, next.snapshot = some snapshot ∧
    shown.documents = snapshot.documents
  waiting : next.raisedInitialEvent = false → ∀ snapshot, next.snapshot = some snapshot →
    next.shouldRaiseInitialEvent snapshot next.onlineState = .ok false

omit [Std.TransOrd κ] [Std.LawfulEqOrd κ] in
/-- A snapshot without changes has the entries it started from. -/
theorem entries_eq_of_no_changes {snapshot : ViewSnapshot cmp} (h : snapshot.Sound)
    (hnone : snapshot.documentChanges = []) :
    entries snapshot.oldDocuments = entries snapshot.documents := by
  refine DocumentSet.entries_eq fun key => h.others key ?_
  rw [hnone]
  exact List.not_mem_nil

omit [Std.TransOrd κ] [Std.LawfulEqOrd κ] in
theorem strip_documents (self : QueryListener cmp) (snapshot : ViewSnapshot cmp) :
    (self.strip snapshot).documents = snapshot.documents ∧
      (self.strip snapshot).oldDocuments = snapshot.oldDocuments := by
  unfold strip
  split <;> exact ⟨rfl, rfl⟩

omit [Std.TransOrd κ] [Std.LawfulEqOrd κ] in
theorem seen_of_not_raised {self : QueryListener cmp} (h : self.raisedInitialEvent = false) :
    self.seen = [] := by
  rw [seen, h, if_neg Bool.false_ne_true]

omit [Std.TransOrd κ] [Std.LawfulEqOrd κ] in
/-- Before the first event the question whether to raise it has an answer. -/
theorem shouldRaiseInitialEvent_ok {self : QueryListener cmp} (h : self.raisedInitialEvent = false)
    (snapshot : ViewSnapshot cmp) (onlineState : OnlineState) :
    ∃ answer, self.shouldRaiseInitialEvent snapshot onlineState = .ok answer := by
  unfold shouldRaiseInitialEvent
  rw [h, if_neg Bool.false_ne_true]
  split
  · exact ⟨_, rfl⟩
  · split <;> exact ⟨_, rfl⟩

omit [Std.LawfulEqOrd κ] in
/-- A first event shows all documents. -/
theorem raiseInitialEvent_spec {self : QueryListener cmp} (h : self.raisedInitialEvent = false)
    (snapshot : ViewSnapshot cmp) :
    ∃ event, self.raiseInitialEvent snapshot =
        .ok ({ self with raisedInitialEvent := true }, event) ∧
      event.documents = snapshot.documents ∧
      Delivers (some event) self.seen (entries snapshot.documents) := by
  refine ⟨.fromInitialDocuments snapshot.documents snapshot.mutatedKeys snapshot.fromCache
    snapshot.excludesMetadataChanges, ?_, rfl, fromInitialDocuments_sound _ _ _ _, ?_, rfl⟩
  · rw [raiseInitialEvent, h, if_neg Bool.false_ne_true]
  · rw [seen_of_not_raised h]
    rfl

omit [Std.LawfulEqOrd κ] in
/-- A sound snapshot that starts where the listener is never fails, and whatever the listener makes
of it fits what its user has seen. -/
theorem onViewSnapshot_spec {self : QueryListener cmp} {viewSnapshot : ViewSnapshot cmp}
    (hsound : viewSnapshot.Sound)
    (hloud : viewSnapshot.documentChanges ≠ [] ∨ viewSnapshot.syncStateChanged = true)
    (hchain : self.raisedInitialEvent → self.seen = entries viewSnapshot.oldDocuments) :
    ∃ next event, self.onViewSnapshot viewSnapshot = .ok (next, event) ∧
      next.snapshot = some (self.strip viewSnapshot) ∧ next.options = self.options ∧
      next.onlineState = self.onlineState ∧ Reacts self next event := by
  have hnotQuiet : ¬ (viewSnapshot.documentChanges.isEmpty && !viewSnapshot.syncStateChanged) := by
    rw [Bool.and_eq_true, List.isEmpty_iff, Bool.not_eq_true', not_and_or, Bool.not_eq_false]
    exact hloud
  have hstripped := self.strip_sound hsound
  rcases self.strip_documents viewSnapshot with ⟨hdocuments, hold⟩
  unfold onViewSnapshot
  rw [if_neg hnotQuiet]
  generalize self.strip viewSnapshot = snapshot at hstripped hdocuments hold
  dsimp only
  cases hraised : self.raisedInitialEvent with
  | false =>
      rcases shouldRaiseInitialEvent_ok hraised snapshot self.onlineState with ⟨answer, hanswer⟩
      cases answer with
      | true =>
          rcases raiseInitialEvent_spec hraised snapshot with ⟨event, hevent, hshown, hdelivers⟩
          refine ⟨{ self with raisedInitialEvent := true, snapshot := some snapshot }, some event,
            ?_, rfl, rfl, rfl, hdelivers, ?_, fun _ h => ⟨snapshot, rfl, ?_⟩, nofun⟩
          · simp [hanswer, hevent, bind, Except.bind, pure, Except.pure]
          · exact (Bool.or_true _).symm
          · cases h
            exact hshown
      | false =>
          have hnext : seen { self with snapshot := some snapshot } = [] :=
            seen_of_not_raised hraised
          refine ⟨{ self with snapshot := some snapshot }, none, ?_, rfl, rfl, rfl, ?_,
            (Bool.or_false _).symm, nofun, fun _ last hlast => ?_⟩
          · simp [hanswer, hraised, bind, Except.bind, pure, Except.pure]
          · rw [Delivers, seen_of_not_raised hraised, hnext]
          · cases hlast
            exact hanswer
  | true =>
      have hseen : self.seen = entries snapshot.oldDocuments := (hchain hraised).trans (hold ▸ rfl)
      have hnext : seen { self with snapshot := some snapshot } = entries snapshot.documents := by
        rw [seen, hraised, if_pos rfl]
        rfl
      cases hshould : self.shouldRaiseEvent snapshot with
      | true =>
          refine ⟨{ self with snapshot := some snapshot }, some snapshot, ?_, rfl, rfl, rfl,
            ⟨hstripped, hseen.symm, hnext.symm⟩, ?_, fun _ h => ⟨snapshot, rfl, ?_⟩,
            fun hno => nomatch hraised.symm.trans hno⟩
          · simp [hraised, pure, Except.pure]
          · exact hraised.trans (Bool.or_true _).symm
          · cases h
            rfl
      | false =>
          refine ⟨{ self with snapshot := some snapshot }, none, ?_, rfl, rfl, rfl, ?_,
            (Bool.or_false _).symm, nofun, fun hno => nomatch hraised.symm.trans hno⟩
          · simp [hraised, pure, Except.pure]
          · -- nothing is left to report, so the data is the same
            have hnil : snapshot.documentChanges = [] := by
              rw [shouldRaiseEvent] at hshould
              split at hshould
              · cases hshould
              · next hempty => simpa using hempty
            rw [Delivers, hseen, hnext, entries_eq_of_no_changes hstripped hnil]

omit [Std.LawfulEqOrd κ] in
/-- Going on- or offline never fails; it may be what the first event waited for. -/
theorem onOnlineStateChanged_spec (self : QueryListener cmp) (onlineState : OnlineState) :
    ∃ next event, self.onOnlineStateChanged onlineState = .ok (next, event) ∧
      next.snapshot = self.snapshot ∧ next.options = self.options ∧
      next.onlineState = onlineState ∧ (self.snapshot = none → event = none) ∧
      Reacts self next event := by
  rcases self with ⟨options, raisedInitialEvent, before, last⟩
  cases last with
  | none =>
      exact ⟨⟨options, raisedInitialEvent, onlineState, none⟩, none, rfl, rfl, rfl, rfl,
        fun _ => rfl, rfl, (Bool.or_false _).symm, nofun, nofun⟩
  | some snapshot =>
      cases raisedInitialEvent with
      | true =>
          exact ⟨⟨options, true, onlineState, some snapshot⟩, none, rfl, rfl, rfl, rfl, nofun, rfl,
            rfl, nofun, nofun⟩
      | false =>
          have hraised : (⟨options, false, onlineState, some snapshot⟩ :
              QueryListener cmp).raisedInitialEvent = false := rfl
          rcases shouldRaiseInitialEvent_ok hraised snapshot onlineState with ⟨answer, hanswer⟩
          cases answer with
          | true =>
              rcases raiseInitialEvent_spec hraised snapshot with ⟨event, hevent, hshown, hdelivers⟩
              refine ⟨⟨options, true, onlineState, some snapshot⟩, some event, ?_, rfl, rfl, rfl,
                nofun, hdelivers, rfl, fun _ h => ⟨snapshot, rfl, Option.some.inj h ▸ hshown⟩, nofun⟩
              simp [onOnlineStateChanged, hanswer, hevent, bind, Except.bind, pure, Except.pure]
          | false =>
              refine ⟨⟨options, false, onlineState, some snapshot⟩, none, ?_, rfl, rfl, rfl, nofun,
                rfl, rfl, nofun, fun _ last hlast => ?_⟩
              · simp [onOnlineStateChanged, hanswer, bind, Except.bind, pure, Except.pure]
              · cases hlast
                exact hanswer

end QueryListener
end Core
end Firestore
end MoviePlayList
