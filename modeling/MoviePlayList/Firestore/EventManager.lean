import MoviePlayList.Firestore.QueryListener
import MoviePlayList.Firestore.ViewLimit

/-!
# EventManager — every listener of a query, kept up to date

`EventManager` keeps the listeners of every query and the last snapshot of its view; `SyncEngine`
keeps the views.  Listeners come and go, documents change, the client goes on- and offline, and the
server may reject a query: each of these runs to its end on the client's queue.

What happens to one query does not depend on the views and listeners of the others, so the state
here is that of one query: `view` is its entry in `query_views_by_query_`, `info` its entry in
`queries_`.  In every run these come and go together, no assertion fails, and what a listener's user
pieces together from the changes of its events is what the view holds (`run_served`).
-/

namespace MoviePlayList
namespace Firestore
namespace Core

variable {κ δ : Type} [Ord κ]

/-! ## Telling listeners -/

/-- A listener that was added, and the events its user got from it. -/
structure Subscriber (cmp : DocumentComparator κ δ) where
  id : Nat
  listener : QueryListener cmp
  received : List (ViewSnapshot cmp) := []

/-- `QueryListenersInfo` -/
structure QueryListenersInfo (cmp : DocumentComparator κ δ) where
  listeners : List (Subscriber cmp) := []
  snapshot : Option (ViewSnapshot cmp) := none

namespace Subscriber

variable {cmp : DocumentComparator κ δ}

/-- The listener is told something, and its user gets the event it raises. -/
def tell (self : Subscriber cmp)
    (f : QueryListener cmp → Except String (QueryListener cmp × Option (ViewSnapshot cmp))) :
    Except String (Subscriber cmp) := do
  let (listener, event) ← f self.listener
  return { self with listener := listener, received := self.received ++ event.toList }

variable [Std.TransOrd κ] [Std.LawfulEqOrd κ]

/-- What the user of a listener pieces together from the changes of its events. -/
def pieceTogether (shown : List (κ × δ)) : List (ViewSnapshot cmp) → Option (List (κ × δ))
  | [] => some shown
  | event :: events => do
      let changes ← (event.forEachChange false).toOption
      let edits ← changes.mapM DocumentChange.edit
      let next ← ListEdit.applyAll shown (edits.map (ListEdit.Edit.map DocumentSet.entry))
      pieceTogether next events

/-- Events that follow one another. -/
def Chained : List (κ × δ) → List (ViewSnapshot cmp) → List (κ × δ) → Prop
  | shown, [], last => shown = last
  | shown, event :: events, last =>
      event.Sound ∧ QueryListener.entries event.oldDocuments = shown ∧
        Chained (QueryListener.entries event.documents) events last

omit [Std.TransOrd κ] [Std.LawfulEqOrd κ] in
theorem Chained.append {shown mid last : List (κ × δ)} {events : List (ViewSnapshot cmp)}
    (h : Chained shown events mid) {event : Option (ViewSnapshot cmp)}
    (hevent : QueryListener.Delivers event mid last) :
    Chained shown (events ++ event.toList) last := by
  induction events generalizing shown with
  | nil =>
      cases h
      cases event with
      | none => exact hevent
      | some event => exact ⟨hevent.1, hevent.2.1, hevent.2.2⟩
  | cons first events ih =>
      exact ⟨h.1, h.2.1, ih h.2.2⟩

/-- Piecing events together that follow one another leads where they lead. -/
theorem Chained.pieceTogether [DecidableEq κ] {shown last : List (κ × δ)}
    {events : List (ViewSnapshot cmp)} (h : Chained shown events last) :
    Subscriber.pieceTogether shown events = some last := by
  induction events generalizing shown with
  | nil =>
      exact congrArg some h
  | cons event events ih =>
      rcases h with ⟨hsound, rfl, hrest⟩
      rcases ViewSnapshot.forEachChange_applies hsound false nofun with
        ⟨changes, edits, hchanges, hedits, happly⟩
      rw [Subscriber.pieceTogether, hchanges]
      show ((changes.mapM DocumentChange.edit).bind _) = _
      rw [hedits]
      show ((ListEdit.applyAll _ _).bind _) = _
      rw [happly]
      exact ih hrest

end Subscriber

/-! ## One query of the client -/

variable [Std.TransOrd κ] [Std.LawfulEqOrd κ] [DecidableEq κ] [DecidableEq δ] [ToString κ]

/-- One query of the client. -/
structure ClientQuery (query : Query κ δ) where
  localDocuments : LocalDocuments κ δ
  onlineState : OnlineState := .unknown
  view : Option (View query) := none
  info : Option (QueryListenersInfo query.comparator) := none

namespace ClientQuery

variable {query : Query κ δ}

/-- `EventManager::OnViewSnapshots`, for the snapshot of this query. -/
def onViewSnapshots (self : ClientQuery query) (snapshot : ViewSnapshot query.comparator) :
    Except String (ClientQuery query) :=
  match self.info with
  | none => return self
  | some info => do
      let listeners ← info.listeners.mapM fun subscriber =>
        subscriber.tell fun listener => listener.onViewSnapshot snapshot
      return { self with info := some ⟨listeners, some snapshot⟩ }

/-- A view that has played an event is put in place and its snapshot passed on, if there is one. -/
def emit (self : ClientQuery query) (next : View.Listening query)
    (change : ViewChange query.comparator) : Except String (ClientQuery query) :=
  let client := { self with localDocuments := next.localDocuments, view := some next.view }
  match change.snapshot with
  | none => return client
  | some snapshot => client.onViewSnapshots snapshot

/-- `EventManager::HandleOnlineStateChange` -/
def handleOnlineStateChange (self : ClientQuery query) (onlineState : OnlineState) :
    Except String (ClientQuery query) :=
  match self.info with
  | none => return { self with onlineState := onlineState }
  | some info => do
      let listeners ← info.listeners.mapM fun subscriber =>
        subscriber.tell fun listener => listener.onOnlineStateChanged onlineState
      return { self with onlineState := onlineState, info := some { info with listeners := listeners } }

/-- `SyncEngine::Listen` -/
def listen (self : ClientQuery query) (remoteKeys : Std.TreeSet κ) (current : Option Bool) :
    Except String (ClientQuery query) :=
  if self.view.isSome then
    .error "We already listen to query"
  else do
    let (view, change) ← View.initializeView query self.localDocuments remoteKeys current
    match change.snapshot with
    | none => .error "ApplyChanges to documents for new view should always return a snapshot"
    | some snapshot => onViewSnapshots { self with view := some view } snapshot

/-- `EventManager::AddQueryListener` -/
def addQueryListener (self : ClientQuery query) (id : Nat) (options : ListenOptions)
    (remoteKeys : Std.TreeSet κ) (current : Option Bool) : Except String (ClientQuery query) := do
  let firstListen := self.info.isNone
  let info := self.info.getD {}
  let (listener, raisedEvent) ← QueryListener.onOnlineStateChanged { options := options }
    self.onlineState
  if raisedEvent.isSome then
    .error "OnOnlineStateChanged() shouldn't raise an event for brand-new listeners."
  else
    let subscriber : Subscriber query.comparator := { id := id, listener := listener }
    let subscriber ←
      match info.snapshot with
      | none => pure subscriber
      | some snapshot => subscriber.tell fun listener => listener.onViewSnapshot snapshot
    let client := { self with
      info := some { info with listeners := info.listeners ++ [subscriber] } }
    if firstListen then client.listen remoteKeys current else return client

/-- `SyncEngine::StopListening` -/
def stopListening (self : ClientQuery query) : Except String (ClientQuery query) :=
  if self.view.isSome then
    return { self with view := none }
  else
    .error "Trying to stop listening to a query not found"

/-- `EventManager::RemoveQueryListener` -/
def removeQueryListener (self : ClientQuery query) (id : Nat) : Except String (ClientQuery query) :=
  match self.info with
  | none => return self
  | some info =>
      let listeners := info.listeners.eraseP fun subscriber => subscriber.id = id
      if listeners.isEmpty then
        stopListening { self with info := none }
      else
        return { self with info := some { info with listeners := listeners } }

/-- `SyncEngine::EmitNewSnapshotsAndNotifyLocalStore`, for this query. -/
def emitNewSnapshots (self : ClientQuery query) (docChanges : LocalDocuments κ δ)
    (target : Option (TargetChange κ)) : Except String (ClientQuery query) :=
  match self.view with
  | none => return { self with localDocuments := self.localDocuments.apply docChanges }
  | some view => do
      let (next, change) ← View.Listening.play ⟨self.localDocuments, view⟩
        (.changes docChanges target)
      self.emit next change

/-- `SyncEngine::HandleOnlineStateChange` -/
def onOnlineStateChange (self : ClientQuery query) (onlineState : OnlineState) :
    Except String (ClientQuery query) :=
  match self.view with
  | none => self.handleOnlineStateChange onlineState
  | some view => do
      let (next, change) ← View.Listening.play ⟨self.localDocuments, view⟩
        (.onlineState (onlineState = .offline))
      if !change.limboChanges.isEmpty then
        .error "OnlineState should not affect limbo documents."
      else
        let told ← self.emit next change
        told.handleOnlineStateChange onlineState

/-- `RemoveAndCleanupTarget` after an error, and with it `EventManager::OnError`. -/
def removeAndCleanup (self : ClientQuery query) : ClientQuery query :=
  { self with view := none, info := none }

/-- Everything that happens to the query. -/
inductive Event (κ δ : Type) [Ord κ]
  | addListener (id : Nat) (options : ListenOptions) (remoteKeys : Std.TreeSet κ)
      (current : Option Bool)
  | removeListener (id : Nat)
  | changes (docChanges : LocalDocuments κ δ) (target : Option (TargetChange κ))
  | onlineState (onlineState : OnlineState)
  | rejected

def play (self : ClientQuery query) : Event κ δ → Except String (ClientQuery query)
  | .addListener id options remoteKeys current =>
      self.addQueryListener id options remoteKeys current
  | .removeListener id => self.removeQueryListener id
  | .changes docChanges target => self.emitNewSnapshots docChanges target
  | .onlineState onlineState => self.onOnlineStateChange onlineState
  | .rejected => .ok self.removeAndCleanup

end ClientQuery

/-! ## Listeners that are told something -/

namespace Subscriber

omit [DecidableEq κ] [DecidableEq δ] [ToString κ]
variable {cmp : DocumentComparator κ δ} {P : Document κ δ → Prop}

/-- The events of a listener lead to what its user has seen, and show only documents that are
`P`. -/
structure InStep (P : Document κ δ → Prop) (sub : Subscriber cmp) : Prop where
  received : Chained [] sub.received sub.listener.seen
  raised : sub.listener.raisedInitialEvent = !sub.received.isEmpty
  accepted : ∀ event ∈ sub.received, ∀ document ∈ event.documents.sortedSet, P document

/-- A listener that has heard of the last snapshot and of the online state, and does not keep its
first event back without a reason. -/
structure UpToDate (P : Document κ δ → Prop) (state : OnlineState) (last : ViewSnapshot cmp)
    (sub : Subscriber cmp) : Prop extends InStep P sub where
  snapshot : sub.listener.snapshot = some (sub.listener.strip last)
  onlineState : sub.listener.onlineState = state
  waiting : sub.listener.raisedInitialEvent = false →
    sub.listener.shouldRaiseInitialEvent (sub.listener.strip last) state = .ok false

omit [Std.TransOrd κ] [Std.LawfulEqOrd κ] in
theorem InStep.tell {sub : Subscriber cmp} (h : InStep P sub)
    (f : QueryListener cmp → Except String (QueryListener cmp × Option (ViewSnapshot cmp)))
    {next : QueryListener cmp} {event : Option (ViewSnapshot cmp)}
    (hf : f sub.listener = .ok (next, event)) (hreacts : sub.listener.Reacts next event)
    (haccepted : ∀ snapshot, next.snapshot = some snapshot →
      ∀ document ∈ snapshot.documents.sortedSet, P document) :
    ∃ told, sub.tell f = .ok told ∧ told.listener = next ∧ InStep P told := by
  refine ⟨⟨sub.id, next, sub.received ++ event.toList⟩, ?_, rfl, h.received.append hreacts.delivers,
    ?_, fun shown hmem => ?_⟩
  · simp [Subscriber.tell, hf, bind, Except.bind, pure, Except.pure]
  · rw [hreacts.raised, h.raised]
    cases sub.received <;> cases event <;> rfl
  · rcases List.mem_append.1 hmem with hmem | hmem
    · exact h.accepted shown hmem
    · rcases hreacts.documents shown (Option.mem_toList.1 hmem) with ⟨snapshot, hsnapshot, hshown⟩
      rw [hshown]
      exact haccepted snapshot hsnapshot

omit [Std.LawfulEqOrd κ] in
/-- A sound snapshot brings a listener up to date. -/
theorem InStep.onViewSnapshot {sub : Subscriber cmp} (h : InStep P sub)
    {snapshot : ViewSnapshot cmp} (hsound : snapshot.Sound)
    (hloud : snapshot.documentChanges ≠ [] ∨ snapshot.syncStateChanged = true)
    (hchain : sub.listener.raisedInitialEvent →
      sub.listener.seen = QueryListener.entries snapshot.oldDocuments)
    (haccepted : ∀ document ∈ snapshot.documents.sortedSet, P document) :
    ∃ told, sub.tell (fun listener => listener.onViewSnapshot snapshot) = .ok told ∧
      UpToDate P sub.listener.onlineState snapshot told := by
  rcases QueryListener.onViewSnapshot_spec hsound hloud hchain with
    ⟨next, event, hok, hsnapshot, hoptions, hstate, hreacts⟩
  have hshown : ∀ shown, next.snapshot = some shown →
      ∀ document ∈ shown.documents.sortedSet, P document := by
    intro shown hshown
    rw [hsnapshot] at hshown
    rw [← Option.some.inj hshown, (sub.listener.strip_documents snapshot).1]
    exact haccepted
  rcases h.tell (fun listener => listener.onViewSnapshot snapshot) hok hreacts hshown with
    ⟨told, htell, rfl, hstep⟩
  have hstrip : told.listener.strip snapshot = sub.listener.strip snapshot := by
    rw [QueryListener.strip, QueryListener.strip, hoptions]
  refine ⟨told, htell, hstep, by rw [hsnapshot, hstrip], hstate, fun hno => ?_⟩
  rw [hstrip, ← hstate]
  exact hreacts.waiting hno _ hsnapshot

omit [Std.LawfulEqOrd κ] in
/-- A listener that is up to date hears of the online state. -/
theorem UpToDate.onOnlineStateChanged {sub : Subscriber cmp} {before : OnlineState}
    {last : ViewSnapshot cmp} (h : UpToDate P before last sub) (onlineState : OnlineState)
    (haccepted : ∀ document ∈ last.documents.sortedSet, P document) :
    ∃ told, sub.tell (fun listener => listener.onOnlineStateChanged onlineState) = .ok told ∧
      UpToDate P onlineState last told := by
  rcases sub.listener.onOnlineStateChanged_spec onlineState with
    ⟨next, event, hok, hsnapshot, hoptions, hstate, -, hreacts⟩
  have hshown : ∀ shown, next.snapshot = some shown →
      ∀ document ∈ shown.documents.sortedSet, P document := by
    intro shown hshown
    rw [hsnapshot, h.snapshot] at hshown
    rw [← Option.some.inj hshown, (sub.listener.strip_documents last).1]
    exact haccepted
  rcases h.toInStep.tell (fun listener => listener.onOnlineStateChanged onlineState) hok hreacts
    hshown with ⟨told, htell, rfl, hstep⟩
  have hstrip : told.listener.strip last = sub.listener.strip last := by
    rw [QueryListener.strip, QueryListener.strip, hoptions]
  have hlast : told.listener.snapshot = some (told.listener.strip last) := by
    rw [hsnapshot, hstrip, h.snapshot]
  exact ⟨told, htell, hstep, hlast, hstate, fun hno => hstate ▸ hreacts.waiting hno _ hlast⟩

omit [Std.TransOrd κ] [Std.LawfulEqOrd κ] in
/-- Telling all of a list of listeners is telling each of them. -/
theorem mapM_tell {subs : List (Subscriber cmp)}
    {f : Subscriber cmp → Except String (Subscriber cmp)} {Q : Subscriber cmp → Prop}
    (h : ∀ sub ∈ subs, ∃ told, f sub = .ok told ∧ Q told) :
    ∃ all, subs.mapM f = .ok all ∧ all.length = subs.length ∧ ∀ told ∈ all, Q told := by
  induction subs with
  | nil =>
      exact ⟨[], rfl, rfl, nofun⟩
  | cons sub subs ih =>
      rcases List.forall_mem_cons.1 h with ⟨⟨told, hone, hQ⟩, htail⟩
      rcases ih htail with ⟨all, hall, hlength, hQs⟩
      refine ⟨told :: all, ?_, congrArg (· + 1) hlength, List.forall_mem_cons.2 ⟨hQ, hQs⟩⟩
      rw [List.mapM_cons, hone]
      show (subs.mapM f >>= _) = _
      rw [hall]
      rfl

omit [Std.TransOrd κ] [Std.LawfulEqOrd κ] in
/-- What a listener that is up to date has raised leads to the entries of the last snapshot. -/
theorem UpToDate.seen_eq {sub : Subscriber cmp} {onlineState : OnlineState}
    {last : ViewSnapshot cmp} (h : UpToDate P onlineState last sub)
    (hraised : sub.listener.raisedInitialEvent) :
    sub.listener.seen = QueryListener.entries last.documents := by
  rw [QueryListener.seen, if_pos hraised, h.snapshot, Option.map_some, Option.getD_some,
    (sub.listener.strip_documents last).1]

end Subscriber

/-! ## What every run keeps -/

namespace ClientQuery

variable {query : Query κ δ}

omit [Std.TransOrd κ] [Std.LawfulEqOrd κ] [DecidableEq κ] [DecidableEq δ] [ToString κ] in
/-- A snapshot that shows what a view holds. -/
structure Reports (view : View query) (snapshot : ViewSnapshot query.comparator) : Prop where
  sound : snapshot.Sound
  loud : snapshot.documentChanges ≠ [] ∨ snapshot.syncStateChanged = true
  documents : ∀ key, snapshot.documents.getDocument key = view.documentSet.getDocument key
  fromCache : snapshot.fromCache = false ↔ view.syncState = .synced

omit [Std.TransOrd κ] [Std.LawfulEqOrd κ] [DecidableEq κ] [DecidableEq δ] [ToString κ] in
/-- What is reported of a view are documents its query accepts. -/
theorem Reports.accepted {view : View query} {snapshot : ViewSnapshot query.comparator}
    (h : Reports view snapshot)
    (haccepted : ∀ document ∈ view.documentSet.sortedSet, query.accepts document) :
    ∀ document ∈ snapshot.documents.sortedSet, query.accepts document := by
  intro document hmem
  rw [DocumentSet.sortedSet_eq_of_getDocument h.documents] at hmem
  exact haccepted document hmem

/-- A view with its listeners, each of which is up to date. -/
structure Serving (known : LocalDocuments κ δ) (state : OnlineState) (view : View query)
    (info : QueryListenersInfo query.comparator) : Prop where
  agrees : View.Agrees ⟨known, view⟩
  nonempty : info.listeners ≠ []
  last : ∃ snapshot, info.snapshot = some snapshot ∧ Reports view snapshot ∧
    ∀ sub ∈ info.listeners, sub.UpToDate (fun document => query.accepts document) state snapshot

/-- The view and the listeners of a query come and go together. -/
def Served (s : ClientQuery query) : Prop :=
  (s.view = none ∧ s.info = none) ∨
    ∃ view info, s.view = some view ∧ s.info = some info ∧
      Serving s.localDocuments s.onlineState view info

omit [Std.TransOrd κ] [Std.LawfulEqOrd κ] [DecidableEq δ] [ToString κ] in
/-- A snapshot that a view emits reports it. -/
theorem reports_of_emits {view next : View query} {change : ViewChange query.comparator}
    (h : View.Emits view next change) {snapshot : ViewSnapshot query.comparator}
    (hsnapshot : change.snapshot = some snapshot) :
    Reports next snapshot ∧ snapshot.oldDocuments = view.documentSet := by
  rcases h.sound snapshot hsnapshot with ⟨hsound, hold, hnew, -, hloud, hcache⟩
  exact ⟨⟨hsound, hloud, fun key => hnew ▸ rfl, hcache⟩, hold⟩

omit [Std.LawfulEqOrd κ] [DecidableEq κ] [ToString κ] in
/-- A snapshot of the view goes to all listeners of the query. -/
theorem onViewSnapshots_served {s : ClientQuery query} {view : View query}
    {info : QueryListenersInfo query.comparator} {snapshot : ViewSnapshot query.comparator}
    (hview : s.view = some view) (hinfo : s.info = some info)
    (hagrees : View.Agrees ⟨s.localDocuments, view⟩) (hnonempty : info.listeners ≠ [])
    (hreports : Reports view snapshot)
    (hsubs : ∀ sub ∈ info.listeners, sub.InStep (fun document => query.accepts document) ∧
      sub.listener.onlineState = s.onlineState ∧
      (sub.listener.raisedInitialEvent →
        sub.listener.seen = QueryListener.entries snapshot.oldDocuments)) :
    ∃ next nextInfo, s.onViewSnapshots snapshot = .ok next ∧ next.onlineState = s.onlineState ∧
      next.localDocuments = s.localDocuments ∧ next.view = some view ∧
      next.info = some nextInfo ∧ Serving s.localDocuments s.onlineState view nextInfo := by
  have htold : ∀ sub ∈ info.listeners, ∃ told,
      sub.tell (fun listener => listener.onViewSnapshot snapshot) = .ok told ∧
        told.UpToDate (fun document => query.accepts document) s.onlineState snapshot := by
    intro sub hmem
    rcases hsubs sub hmem with ⟨hstep, hstate, hchain⟩
    rw [← hstate]
    exact hstep.onViewSnapshot hreports.sound hreports.loud hchain
      (hreports.accepted hagrees.consistent.accepted)
  rcases Subscriber.mapM_tell htold with ⟨all, hall, hlength, hupToDate⟩
  refine ⟨{ s with info := some ⟨all, some snapshot⟩ }, ⟨all, some snapshot⟩, ?_, rfl, rfl, hview,
    rfl, hagrees, ?_, snapshot, rfl, hreports, hupToDate⟩
  · simp only [onViewSnapshots, hinfo, hall, bind, Except.bind]
    rfl
  · rw [← List.length_pos_iff, hlength, List.length_pos_iff]
    exact hnonempty

omit [Std.LawfulEqOrd κ] [ToString κ] in
/-- What a view emits, or does not emit, keeps its listeners up to date. -/
theorem emit_served {s : ClientQuery query} {view : View query} {next : View.Listening query}
    {info : QueryListenersInfo query.comparator} {change : ViewChange query.comparator}
    (hinfo : s.info = some info) (hserving : Serving s.localDocuments s.onlineState view info)
    (hagrees : View.Agrees next) (hemits : View.Emits view next.view change) :
    ∃ client nextInfo, s.emit next change = .ok client ∧ client.onlineState = s.onlineState ∧
      client.localDocuments = next.localDocuments ∧ client.view = some next.view ∧
      client.info = some nextInfo ∧
      Serving next.localDocuments s.onlineState next.view nextInfo := by
  rcases hserving.last with ⟨last, hlast, hreports, hsubs⟩
  unfold emit
  cases hsnapshot : change.snapshot with
  | none =>
      rcases hemits.silent hsnapshot with ⟨hsync, hsame⟩
      refine ⟨{ s with localDocuments := next.localDocuments, view := some next.view }, info, rfl,
        rfl, rfl, rfl, hinfo, hagrees, hserving.nonempty, last, hlast, ?_, hsubs⟩
      refine ⟨hreports.sound, hreports.loud, fun key => ?_, ?_⟩
      · rw [hreports.documents, hsame]
      · rw [hreports.fromCache, hsync]
  | some snapshot =>
      rcases reports_of_emits hemits hsnapshot with ⟨hnew, hold⟩
      refine onViewSnapshots_served
        (s := { s with localDocuments := next.localDocuments, view := some next.view }) rfl hinfo
        hagrees hserving.nonempty hnew fun sub hmem => ?_
      have hsub := hsubs sub hmem
      refine ⟨hsub.toInStep, hsub.onlineState, fun hraised => ?_⟩
      rw [hsub.seen_eq hraised, hold, QueryListener.entries, QueryListener.entries,
        DocumentSet.sortedSet_eq_of_getDocument hreports.documents]

omit [Std.LawfulEqOrd κ] [DecidableEq κ] [ToString κ] in
/-- The online state reaches every listener. -/
theorem handleOnlineStateChange_served {s : ClientQuery query} {view : View query}
    {info : QueryListenersInfo query.comparator} (hview : s.view = some view)
    (hinfo : s.info = some info) (hserving : Serving s.localDocuments s.onlineState view info)
    (state : OnlineState) :
    ∃ next nextInfo, s.handleOnlineStateChange state = .ok next ∧ next.onlineState = state ∧
      next.view = some view ∧ next.info = some nextInfo ∧
      Serving next.localDocuments state view nextInfo := by
  rcases hserving.last with ⟨last, hlast, hreports, hsubs⟩
  rcases Subscriber.mapM_tell fun sub hmem => (hsubs sub hmem).onOnlineStateChanged state
    (hreports.accepted hserving.agrees.consistent.accepted) with
    ⟨all, hall, hlength, hupToDate⟩
  refine ⟨{ s with onlineState := state, info := some ⟨all, info.snapshot⟩ }, ⟨all, info.snapshot⟩,
    ?_, rfl, hview, rfl, hserving.agrees, ?_, last, hlast, hreports, hupToDate⟩
  · simp only [handleOnlineStateChange, hinfo, hall, bind, Except.bind]
    rfl
  · rw [← List.length_pos_iff, hlength, List.length_pos_iff]
    exact hserving.nonempty

/-- Adding a listener: it hears of the last snapshot, or the query is listened to for it. -/
theorem addQueryListener_served {s : ClientQuery query} (h : Served s) (id : Nat)
    (options : ListenOptions) (remoteKeys : Std.TreeSet κ) (current : Option Bool) :
    ∃ next, s.addQueryListener id options remoteKeys current = .ok next ∧ Served next := by
  -- the listener as it is when it has heard of the online state
  let listener : QueryListener query.comparator := { options := options, onlineState := s.onlineState }
  let subscriber : Subscriber query.comparator := { id := id, listener := listener }
  have hbrandNew : QueryListener.onOnlineStateChanged
      ({ options := options } : QueryListener query.comparator) s.onlineState =
        .ok (listener, none) := rfl
  have hstep : subscriber.InStep (fun document => query.accepts document) := ⟨rfl, rfl, nofun⟩
  unfold addQueryListener
  rcases h with ⟨hview, hinfo⟩ | ⟨view, info, hview, hinfo, hserving⟩
  · rcases View.initializeView_spec query s.localDocuments remoteKeys current with
      ⟨view, change, hinit, hagrees, hemits, hsome⟩
    rcases Option.isSome_iff_exists.1 hsome with ⟨snapshot, hsnapshot⟩
    rcases onViewSnapshots_served
      (s := { s with view := some view, info := some ⟨[subscriber], none⟩ }) rfl rfl hagrees
      (List.cons_ne_nil _ _) (reports_of_emits hemits hsnapshot).1
      (fun sub hmem => by
        cases List.mem_singleton.1 hmem
        exact ⟨hstep, rfl, nofun⟩) with
      ⟨next, nextInfo, hnext, hstate, hknown, hnextView, hnextInfo, hserving⟩
    refine ⟨next, ?_, .inr ⟨view, nextInfo, hnextView, hnextInfo, ?_⟩⟩
    · simp [hinfo, hbrandNew, listen, hview, hinit, hsnapshot, bind, Except.bind, pure, Except.pure]
      exact hnext
    · rw [hknown, hstate]
      exact hserving
  · rcases hserving.last with ⟨last, hlast, hreports, hsubs⟩
    rcases hstep.onViewSnapshot hreports.sound hreports.loud nofun
      (hreports.accepted hserving.agrees.consistent.accepted) with ⟨told, htold, hupToDate⟩
    refine ⟨{ s with info := some ⟨info.listeners ++ [told], info.snapshot⟩ }, ?_, .inr ⟨view, _,
      hview, rfl, hserving.agrees, ?_, last, hlast, hreports, fun sub hmem => ?_⟩⟩
    · simp only [subscriber] at htold
      simp [hinfo, hbrandNew, hlast, htold, bind, Except.bind, pure, Except.pure]
    · simp
    · rcases List.mem_append.1 hmem with hmem | hmem
      · exact hsubs sub hmem
      · cases List.mem_singleton.1 hmem
        exact hupToDate

omit [Std.TransOrd κ] [Std.LawfulEqOrd κ] [DecidableEq κ] [ToString κ] in
/-- Removing a listener: with the last one the view goes. -/
theorem removeQueryListener_served {s : ClientQuery query} (h : Served s) (id : Nat) :
    ∃ next, s.removeQueryListener id = .ok next ∧ Served next := by
  unfold removeQueryListener
  rcases h with ⟨hview, hinfo⟩ | ⟨view, info, hview, hinfo, hserving⟩
  · simp only [hinfo]
    exact ⟨s, rfl, .inl ⟨hview, hinfo⟩⟩
  · simp only [hinfo]
    split
    · refine ⟨{ s with view := none, info := none }, ?_, .inl ⟨rfl, rfl⟩⟩
      simp [stopListening, hview, pure, Except.pure]
    · next hleft =>
        rcases hserving.last with ⟨last, hlast, hreports, hsubs⟩
        refine ⟨_, rfl, .inr ⟨view, _, hview, rfl, hserving.agrees, ?_, last, hlast, hreports,
          fun sub hmem => hsubs sub (List.mem_of_mem_eraseP hmem)⟩⟩
        rwa [List.isEmpty_iff] at hleft

/-- Documents change: all listeners are brought up to date, unless the target says that it modified
a document that it never added. -/
theorem emitNewSnapshots_served {s : ClientQuery query} (h : Served s)
    (docChanges : LocalDocuments κ δ) (target : Option (TargetChange κ)) :
    (∃ next, s.emitNewSnapshots docChanges target = .ok next ∧ Served next) ∨
      ∃ view targetChange key, s.view = some view ∧ target = some targetChange ∧
        key ∈ targetChange.modifiedDocuments ∧ key ∉ view.syncedDocuments ∧
        key ∉ targetChange.addedDocuments ∧
        s.emitNewSnapshots docChanges target =
          .error s!"Modified document {key} not found in view." := by
  unfold emitNewSnapshots
  rcases h with ⟨hview, hinfo⟩ | ⟨view, info, hview, hinfo, hserving⟩
  · simp only [hview]
    exact .inl ⟨_, rfl, .inl ⟨rfl, hinfo⟩⟩
  · simp only [hview]
    rcases View.play_changes hserving.agrees docChanges target with
      ⟨next, change, hok, hagrees, hemits⟩ | ⟨targetChange, key, htarget, hmem, hold, hadd, herror⟩
    · rcases emit_served hinfo hserving hagrees hemits with
        ⟨client, nextInfo, hemit, hstate, hknown, hnextView, hnextInfo, hnext⟩
      refine .inl ⟨client, ?_, .inr ⟨next.view, nextInfo, hnextView, hnextInfo, ?_⟩⟩
      · simp only [hok, bind, Except.bind, hemit]
      · rw [hknown, hstate]
        exact hnext
    · refine .inr ⟨view, targetChange, key, rfl, htarget, hmem, hold, hadd, ?_⟩
      simp only [herror, bind, Except.bind]

/-- The client goes on- or offline. -/
theorem onOnlineStateChange_served {s : ClientQuery query} (h : Served s) (state : OnlineState) :
    ∃ next, s.onOnlineStateChange state = .ok next ∧ next.onlineState = state ∧ Served next := by
  unfold onOnlineStateChange
  rcases h with ⟨hview, hinfo⟩ | ⟨view, info, hview, hinfo, hserving⟩
  · simp only [hview, handleOnlineStateChange, hinfo]
    exact ⟨_, rfl, rfl, .inl ⟨rfl, rfl⟩⟩
  · simp only [hview]
    rcases View.play_onlineState hserving.agrees (state = .offline) with
      ⟨next, change, hok, hagrees, hemits, hlimbo⟩
    rcases emit_served hinfo hserving hagrees hemits with
      ⟨client, nextInfo, hemit, hstate, hknown, hnextView, hnextInfo, hnext⟩
    rw [← hknown, ← hstate] at hnext
    rcases handleOnlineStateChange_served hnextView hnextInfo hnext state with
      ⟨told, toldInfo, htold, htoldState, htoldView, htoldInfo, hserved⟩
    refine ⟨told, ?_, htoldState, .inr ⟨next.view, toldInfo, htoldView, htoldInfo, ?_⟩⟩
    · simp [hok, hlimbo, hemit, htold, bind, Except.bind]
    · rw [htoldState]
      exact hserved

omit [Std.LawfulEqOrd κ] [DecidableEq κ] [DecidableEq δ] [ToString κ] in
/-- What a listener without an event is waiting for: the view is not synced, the client is not known
to be offline, and there is nothing to show, or the listener asked to wait for the server. -/
theorem waits_of_upToDate {state : OnlineState} {view : View query}
    {last : ViewSnapshot query.comparator} {sub : Subscriber query.comparator}
    {P : Document κ δ → Prop} (h : sub.UpToDate P state last) (hreports : Reports view last)
    (hno : sub.listener.raisedInitialEvent = false) :
    view.syncState ≠ .synced ∧ state ≠ .offline ∧
      (view.documentSet.sortedSet = [] ∨ sub.listener.options.waitForSyncWhenOnline) := by
  have hcache : (sub.listener.strip last).fromCache = last.fromCache := by
    unfold QueryListener.strip
    split <;> rfl
  have hwaiting := h.waiting hno
  unfold QueryListener.shouldRaiseInitialEvent at hwaiting
  rw [hno, if_neg Bool.false_ne_true, hcache, (sub.listener.strip_documents last).1] at hwaiting
  split at hwaiting
  · cases hwaiting
  · next hfrom =>
      have hlocal : view.syncState ≠ .synced := by
        intro hsynced
        rw [hreports.fromCache.2 hsynced] at hfrom
        exact hfrom rfl
      split at hwaiting
      · next hwait =>
          rw [Bool.and_eq_true, decide_eq_true_eq] at hwait
          exact ⟨hlocal, hwait.2, .inr hwait.1⟩
      · simp only [Except.ok.injEq, Bool.or_eq_false_iff, Bool.not_eq_false',
          decide_eq_false_iff_not] at hwaiting
        refine ⟨hlocal, hwaiting.2, .inl ?_⟩
        rw [← DocumentSet.sortedSet_eq_of_getDocument hreports.documents]
        refine List.eq_nil_iff_forall_not_mem.2 fun document hmem => ?_
        cases (DocumentSet.getDocument_of_isEmpty hwaiting.1 document.key).symm.trans
          (DocumentSet.mem_sortedSet.1 hmem)

/-! ## Runs -/

def step (self : ClientQuery query) (event : Event κ δ) : Option (ClientQuery query) :=
  match self.play event with
  | .ok next => some next
  | .error _ => none

/-- No event fails but the documents of a target change that modifies a document that the target
never added. -/
theorem play_served {s : ClientQuery query} (h : Served s) (event : Event κ δ) :
    (∃ next, s.play event = .ok next ∧ Served next) ∨
      ∃ docChanges targetChange view key, event = .changes docChanges (some targetChange) ∧
        s.view = some view ∧ key ∈ targetChange.modifiedDocuments ∧
        key ∉ view.syncedDocuments ∧ key ∉ targetChange.addedDocuments ∧
        s.play event = .error s!"Modified document {key} not found in view." := by
  cases event with
  | addListener id options remoteKeys current =>
      exact .inl (addQueryListener_served h id options remoteKeys current)
  | removeListener id =>
      exact .inl (removeQueryListener_served h id)
  | changes docChanges target =>
      rcases emitNewSnapshots_served h docChanges target with
        hok | ⟨view, targetChange, key, hview, rfl, hmem, hold, hadd, herror⟩
      · exact .inl hok
      · exact .inr ⟨docChanges, targetChange, view, key, rfl, hview, hmem, hold, hadd, herror⟩
  | onlineState state =>
      rcases onOnlineStateChange_served h state with ⟨next, hok, -, hnext⟩
      exact .inl ⟨next, hok, hnext⟩
  | rejected =>
      exact .inl ⟨s.removeAndCleanup, rfl, .inl ⟨rfl, rfl⟩⟩

theorem step_served {s next : ClientQuery query} {event : Event κ δ} (h : Served s)
    (hstep : s.step event = some next) : Served next := by
  unfold step at hstep
  split at hstep
  · next hplay =>
      cases hstep
      rcases play_served h event with ⟨next', hok, hnext⟩ | ⟨_, _, _, _, _, _, _, _, _, herror⟩
      · cases hok.symm.trans hplay
        exact hnext
      · cases herror.symm.trans hplay
  · cases hstep

theorem served_of_run {known : LocalDocuments κ δ} {events : List (Event κ δ)}
    {s : ClientQuery query}
    (hrun : Transition.run step ({ localDocuments := known } : ClientQuery query) events = some s) :
    Served s :=
  Transition.run_invariant step_served (.inl ⟨rfl, rfl⟩) hrun

/-- In every run of a query: its view and its listeners are there together; what the user of a
listener pieces together from the changes of its events is what the view holds, in order; a
listener that had no event yet has a reason to wait; and the next event fails only on a target that
modifies a document it never added. -/
theorem run_served (query : Query κ δ) (known : LocalDocuments κ δ) (events : List (Event κ δ))
    {s : ClientQuery query}
    (hrun : Transition.run step ({ localDocuments := known } : ClientQuery query) events = some s) :
    (s.view = none ↔ s.info = none) ∧
      (∀ view info, s.view = some view → s.info = some info → ∀ sub ∈ info.listeners,
        (sub.received ≠ [] → Subscriber.pieceTogether [] sub.received =
          some (QueryListener.entries view.documentSet)) ∧
        (sub.received = [] → view.syncState ≠ .synced ∧ s.onlineState ≠ .offline ∧
          (view.documentSet.sortedSet = [] ∨ sub.listener.options.waitForSyncWhenOnline))) ∧
      ∀ event, (∃ next, s.step event = some next) ∨
        ∃ docChanges targetChange view key, event = .changes docChanges (some targetChange) ∧
          s.view = some view ∧ key ∈ targetChange.modifiedDocuments ∧
          key ∉ view.syncedDocuments ∧ key ∉ targetChange.addedDocuments := by
  have h := served_of_run hrun
  refine ⟨?_, ?_, fun event => ?_⟩
  · rcases h with ⟨hview, hinfo⟩ | ⟨view, info, hview, hinfo, -⟩
    · exact iff_of_true hview hinfo
    · refine iff_of_false ?_ ?_ <;> simp [hview, hinfo]
  · intro view info hview hinfo sub hmem
    rcases h with ⟨hnone, -⟩ | ⟨view', info', hview', hinfo', hserving⟩
    · cases hnone.symm.trans hview
    · cases hview'.symm.trans hview
      cases hinfo'.symm.trans hinfo
      rcases hserving.last with ⟨last, -, hreports, hsubs⟩
      have hsub := hsubs sub hmem
      constructor
      · intro hreceived
        have hraised : sub.listener.raisedInitialEvent = true := by
          rw [hsub.raised]
          simpa using hreceived
        rw [hsub.received.pieceTogether, hsub.seen_eq hraised, QueryListener.entries,
          DocumentSet.sortedSet_eq_of_getDocument hreports.documents]
      · intro hreceived
        refine waits_of_upToDate hsub hreports ?_
        rw [hsub.raised, hreceived]
        rfl
  · rcases play_served h event with
      ⟨next, hok, -⟩ | ⟨docChanges, targetChange, view, key, hevent, hview, hmem, hold, hadd, -⟩
    · refine .inl ⟨next, ?_⟩
      rw [step, hok]
    · exact .inr ⟨docChanges, targetChange, view, key, hevent, hview, hmem, hold, hadd⟩

/-- Two listeners of the two smallest notes; the second one comes later, and one of the notes
goes. -/
theorem run_served_example :
    let events : List (Event ResourcePath Nat) :=
      [.addListener 0 {} ∅ none, .changes (.single ["notes", "b"] (some 2)) none,
        .addListener 1 {} ∅ none, .changes (.single ["notes", "a"] none) none]
    ∃ s, Transition.run step
        ({ localDocuments := .single ["notes", "a"] (some 1) } : ClientQuery View.twoSmallest)
        events = some s ∧
      (s.info.map fun info => info.listeners.map fun sub => sub.received.length) = some [3, 2] ∧
      ∀ view info, s.view = some view → s.info = some info → ∀ sub ∈ info.listeners,
        sub.received ≠ [] → Subscriber.pieceTogether [] sub.received =
          some (QueryListener.entries view.documentSet) := by
  intro events
  have hlengths : ((Transition.run step
      ({ localDocuments := .single ["notes", "a"] (some 1) } : ClientQuery View.twoSmallest)
      events).map fun s => s.info.map fun info =>
        info.listeners.map fun sub => sub.received.length) = some (some [3, 2]) := by
    decide +kernel
  rcases Option.map_eq_some_iff.1 hlengths with ⟨s, hs, hinfo⟩
  refine ⟨s, hs, hinfo, fun view info hview hinfo sub hmem => ?_⟩
  exact ((run_served View.twoSmallest _ events hs).2.1 view info hview hinfo sub hmem).1

end ClientQuery

end Core
end Firestore
end MoviePlayList
