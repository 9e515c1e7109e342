import MoviePlayList.AddMovie.ReviewListener
import MoviePlayList.Firestore.EventManager

/-!
# ReviewQuery — the query of a review screen in the vendored client

`ReviewListener` takes for granted what Firestore promises about snapshots.  Here the query of
`Service.downReview` is the client's own: the reviews of one collection, by their time and then by
their key.  Whatever happens to it, every listener's events are a run of `ReviewListener` in which
its documents come and go and its snapshots are delivered (`listener_refines`).
-/

namespace MoviePlayList

open Firestore Core

/-! ## The order of field values -/

namespace FieldValue

/-- `FieldValue::CompareTo`: a timestamp sorts before a string. -/
def compareTo : FieldValue → FieldValue → Ordering
  | timestamp a, timestamp b =>
      (compare a.seconds b.seconds).then (compare a.nanoseconds b.nanoseconds)
  | timestamp _, string _ => .lt
  | string _, timestamp _ => .gt
  | string a, string b => compare a b

/-- The app stores no arrays, references or doubles. -/
instance : BaseValue FieldValue where
  compare := compareTo
  type
    | timestamp _ => .timestamp
    | string _ => .string
  equals := fun lhs rhs => lhs = rhs
  isNan := fun _ => false
  contents := fun _ => []
  referenceKey := fun _ => []

instance : Std.TransOrd FieldValue := by
  -- the same order, field by field
  let rank : FieldValue → Nat × (Int × Int) × String := fun
    | timestamp a => (0, (a.seconds, a.nanoseconds), "")
    | string a => (1, (0, 0), a)
  have hrank : (compare : FieldValue → FieldValue → Ordering) =
      compareLex (compareOn fun value => (rank value).1)
        (compareLex (compareOn fun value => (rank value).2.1.1)
          (compareLex (compareOn fun value => (rank value).2.1.2)
            (compareOn fun value => (rank value).2.2))) := by
    funext a b
    cases a with
    | string a =>
        cases b with
        | string b => rfl
        | timestamp b => rfl
    | timestamp a =>
        cases b with
        | string b => rfl
        | timestamp b =>
            have hnone : compare "" "" = .eq := Std.ReflOrd.compare_self
            show _ = (compare a.seconds b.seconds).then
              ((compare a.nanoseconds b.nanoseconds).then (compare "" ""))
            rw [hnone, Ordering.then_eq]
            rfl
  rw [Std.TransOrd, hrank]
  infer_instance

end FieldValue

/-! ## The query -/

/-- The fields of a stored review. -/
def reviewFields (review : Review) : String → Option FieldValue :=
  reviewData review.text review.movieTitle review.timestamp

/-- A query of the app as the client describes it. -/
def Query.described (self : Query) : CollectionQuery reviewFields where
  path := self.source.path
  explicitOrderBys := [⟨.field self.orderBy, .ascending⟩]

/-- The query of a review screen as a view keeps it. -/
def reviewView (source : CollectionReference) : Core.Query ResourcePath Review where
  accepts := (Query.described ⟨source, "timestamp"⟩).accepts
  comparator := CollectionQuery.comparator [⟨.field "timestamp", .ascending⟩, ⟨.key, .ascending⟩]
    ⟨⟨.key, .ascending⟩, by simp, rfl⟩ reviewFields

/-- The client completes the order of the app's query with the key. -/
theorem toQuery_downReview {uid : Uid} {title : String} {query : Query}
    (h : downReview (some uid) title = .ok (some query)) :
    query.described.toQuery = .ok (reviewView query.source) := by
  rcases downReview_eq_ok.1 h with ⟨-, horder⟩
  rcases query with ⟨source, orderBy⟩
  cases horder
  rfl

/-- A document of the query lies directly in the collection. -/
theorem key_of_accepts {source : CollectionReference} {document : Document ResourcePath Review}
    (h : (reviewView source).accepts document) : ∃ id, document.key = source.path ++ [id] := by
  have hpath := (CollectionQuery.of_accepts h).1
  have hodd : ¬ source.path.length % 2 = 0 := by
    rw [source.odd]
    exact Nat.one_ne_zero
  have hmatches : (Query.described ⟨source, "timestamp"⟩).matchesPath document =
      decide (source.path.IsImmediateParentOf document.key) := if_neg hodd
  rw [hmatches, decide_eq_true_eq] at hpath
  rcases hpath with ⟨hlength, rest, hrest⟩
  rw [← hrest, List.length_append] at hlength
  rcases List.length_eq_one_iff.1 (by omega : rest.length = 1) with ⟨id, rfl⟩
  exact ⟨id, hrest.symm⟩

/-- Reviews that follow one another do so in time. -/
theorem timestamp_le_of_lt {source : CollectionReference} {a b : Document ResourcePath Review}
    (h : (reviewView source).comparator.compare a b = .lt) :
    a.data.timestamp ≤ b.data.timestamp := by
  have hfields : ((compare a.data.timestamp.seconds b.data.timestamp.seconds).then
      (compare a.data.timestamp.nanoseconds b.data.timestamp.nanoseconds)).then
        ((compare a.key b.key).then .eq) = .lt := h
  cases hseconds : compare a.data.timestamp.seconds b.data.timestamp.seconds with
  | lt =>
      exact .inl (compare_lt_iff_lt.1 hseconds)
  | gt =>
      rw [hseconds] at hfields
      cases hfields
  | eq =>
      refine .inr ⟨compare_eq_iff_eq.1 hseconds, ?_⟩
      cases hnanoseconds : compare a.data.timestamp.nanoseconds b.data.timestamp.nanoseconds with
      | lt =>
          exact Int.le_of_lt (compare_lt_iff_lt.1 hnanoseconds)
      | eq =>
          exact Int.le_of_eq (compare_eq_iff_eq.1 hnanoseconds)
      | gt =>
          rw [hseconds, hnanoseconds] at hfields
          cases hfields

/-! ## Events of a review listener -/

/-- An entry of the view as the app's model of the listener knows it: with the last segment of its
key for an id. -/
def reviewDocument (entry : ResourcePath × Review) : ReviewDocument where
  id := entry.1.getLast?.getD ""
  text := entry.2.text
  movieTitle := entry.2.movieTitle
  timestamp := entry.2.timestamp

namespace ReviewListener

/-- Rejecting ids takes their documents out. -/
theorem run_rejects (self : ReviewListener) (ids : List String) :
    Transition.run step self (ids.map Event.reject) =
      some { self with stored := self.stored.filter fun d => d.id ∉ ids } := by
  induction ids generalizing self with
  | nil =>
      simp [Transition.run]
  | cons id ids ih =>
      rw [List.map_cons, Transition.run, step, Option.bind_some, ih]
      simp [List.filter_filter, Bool.and_comm]

/-- Uploading documents with fresh and different ids puts them at the end. -/
theorem run_uploads (self : ReviewListener) (documents : List ReviewDocument)
    (hnodup : (documents.map ReviewDocument.id).Nodup)
    (hfresh : ∀ document ∈ documents, document.id ∉ self.stored.map ReviewDocument.id) :
    Transition.run step self (documents.map Event.upload) =
      some { self with stored := self.stored ++ documents } := by
  induction documents generalizing self with
  | nil =>
      simp [Transition.run]
  | cons document documents ih =>
      rcases List.nodup_cons.1 hnodup with ⟨hnew, hrest⟩
      rcases List.forall_mem_cons.1 hfresh with ⟨hhead, htail⟩
      rw [List.map_cons, Transition.run, step, if_neg hhead, Option.bind_some, ih _ hrest]
      · simp
      · intro later hmem
        rw [List.map_append, List.mem_append, not_or]
        refine ⟨htail later hmem, fun hsame => hnew ?_⟩
        rw [List.map_singleton, List.mem_singleton] at hsame
        exact List.mem_map.2 ⟨later, hmem, hsame⟩

/-- The changes of every snapshot in a list of events. -/
def snapshotChanges (events : List Event) : List (List DocumentChange) :=
  events.filterMap fun
    | .snapshot _ changes _ => some changes
    | _ => none

theorem snapshotChanges_append (before after : List Event) :
    snapshotChanges (before ++ after) = snapshotChanges before ++ snapshotChanges after :=
  List.filterMap_append

/-- A snapshot does not touch what is stored. -/
theorem foldl_onChange_stored (now : Timestamp) (changes : List DocumentChange)
    (self : ReviewListener) : (changes.foldl (onChange now) self).stored = self.stored := by
  induction changes generalizing self with
  | nil =>
      rfl
  | cons change changes ih =>
      rw [List.foldl_cons, ih]
      cases change <;> rfl

/-- The documents stored can become any others with different ids: those that are not among them
are rejected, and those that are new are uploaded. -/
theorem exists_storing (self : ReviewListener) (documents : List ReviewDocument)
    (hstored : (self.stored.map ReviewDocument.id).Nodup)
    (hnodup : (documents.map ReviewDocument.id).Nodup) :
    ∃ events stored, Transition.run step self events = some { self with stored := stored } ∧
      stored.Perm documents ∧ snapshotChanges events = [] := by
  let gone := self.stored.filter fun d => d ∉ documents
  let fresh := documents.filter fun d => d ∉ self.stored
  have hkept : self.stored.filter (fun d => d.id ∉ gone.map ReviewDocument.id) =
      self.stored.filter fun d => d ∈ documents := by
    refine List.filter_congr fun d hd => ?_
    have hgone : d.id ∈ gone.map ReviewDocument.id ↔ d ∉ documents := by
      rw [List.mem_map]
      constructor
      · rintro ⟨other, hother, hid⟩
        rcases List.mem_filter.1 hother with ⟨hmem, hnot⟩
        rw [← List.inj_on_of_nodup_map hstored hmem hd hid]
        exact of_decide_eq_true hnot
      · intro hnot
        exact ⟨d, List.mem_filter.2 ⟨hd, decide_eq_true hnot⟩, rfl⟩
    rw [decide_eq_decide, hgone, not_not]
  have hfreshNodup : (fresh.map ReviewDocument.id).Nodup :=
    hnodup.sublist (List.filter_sublist.map _)
  have hfresh : ∀ document ∈ fresh, document.id ∉
      (self.stored.filter fun d => d ∈ documents).map ReviewDocument.id := by
    intro document hmem hid
    rcases List.mem_filter.1 hmem with ⟨hdocument, hnot⟩
    rcases List.mem_map.1 hid with ⟨other, hother, hsame⟩
    rcases List.mem_filter.1 hother with ⟨hotherStored, hotherIn⟩
    rw [List.inj_on_of_nodup_map hnodup (of_decide_eq_true hotherIn) hdocument hsame] at hotherStored
    exact of_decide_eq_true hnot hotherStored
  refine ⟨(gone.map ReviewDocument.id).map Event.reject ++ fresh.map Event.upload,
    self.stored.filter (fun d => d ∈ documents) ++ fresh, ?_, ?_, ?_⟩
  · refine Transition.run_append.2 ⟨_, run_rejects self _, ?_⟩
    rw [hkept]
    exact run_uploads _ fresh hfreshNodup hfresh
  · have hstoredNodup : self.stored.Nodup := List.Nodup.of_map _ hstored
    have hdocumentsNodup : documents.Nodup := List.Nodup.of_map _ hnodup
    refine (List.perm_ext_iff_of_nodup ?_ hdocumentsNodup).2 fun d => ?_
    · refine (hstoredNodup.filter _).append (hdocumentsNodup.filter _) fun d hd hd' => ?_
      exact of_decide_eq_true (List.mem_filter.1 hd').2 (List.mem_filter.1 hd).1
    · simp only [List.mem_append, List.mem_filter, decide_eq_true_eq, fresh]
      tauto
  · simp [snapshotChanges, List.filterMap_append, List.filterMap_map, Function.comp_def]

end ReviewListener

/-! ## The listener of a review screen -/

/-- The changes a snapshot listener of the query is given. -/
def changesOf {cmp : DocumentComparator ResourcePath Review} (event : ViewSnapshot cmp) :
    Option (List DocumentChange) := do
  let changes ← (event.forEachChange false).toOption
  let edits ← changes.mapM Core.DocumentChange.edit
  return (edits.map (ListEdit.Edit.map DocumentSet.entry)).map (ListEdit.Edit.map reviewDocument)

/-- The documents of the query have different ids and follow one another in time. -/
theorem reviewDocuments_sorted {source : CollectionReference}
    {set : DocumentSet (reviewView source).comparator}
    (haccepted : ∀ document ∈ set.sortedSet, (reviewView source).accepts document) :
    (((QueryListener.entries set).map reviewDocument).map ReviewDocument.id).Nodup ∧
      ((QueryListener.entries set).map reviewDocument).Pairwise
        fun a b => a.timestamp ≤ b.timestamp := by
  constructor
  · rw [List.map_map, List.map_map, List.Nodup, List.pairwise_map]
    refine List.Pairwise.imp_of_mem (fun {a b} ha hb hne hid => hne ?_)
      (List.pairwise_map.1 set.nodup_keys)
    rcases key_of_accepts (haccepted a ha) with ⟨ida, hka⟩
    rcases key_of_accepts (haccepted b hb) with ⟨idb, hkb⟩
    have hsame : ida = idb := by
      simpa [reviewDocument, DocumentSet.entry, hka, hkb] using hid
    rw [hka, hkb, hsame]
  · rw [List.map_map, List.pairwise_map]
    exact List.Pairwise.imp (fun {a b} hlt => timestamp_le_of_lt hlt) set.ascending

/-- Events of the client that follow one another are snapshots of a review listener. -/
theorem chained_refines {source : CollectionReference} (now : Timestamp)
    {received : List (ViewSnapshot (reviewView source).comparator)}
    {shown last : List (ResourcePath × Review)}
    (h : Subscriber.Chained shown received last)
    (haccepted : ∀ event ∈ received, ∀ document ∈ event.documents.sortedSet,
      (reviewView source).accepts document)
    (r : ReviewListener) (hdocuments : r.documents = shown.map reviewDocument)
    (hstored : (r.stored.map ReviewDocument.id).Nodup) :
    ∃ events next, Transition.run ReviewListener.step r events = some next ∧
      (ReviewListener.snapshotChanges events).map some = received.map changesOf ∧
      next.documents = last.map reviewDocument := by
  induction received generalizing shown r with
  | nil =>
      cases h
      exact ⟨[], r, rfl, rfl, hdocuments⟩
  | cons event received ih =>
      rcases h with ⟨hsound, rfl, hrest⟩
      rcases List.forall_mem_cons.1 haccepted with ⟨hhead, htail⟩
      rcases ViewSnapshot.forEachChange_applies hsound false nofun with
        ⟨changes, edits, hchanges, hedits, happly⟩
      rcases reviewDocuments_sorted hhead with ⟨hids, htimes⟩
      rcases r.exists_storing _ hstored hids with ⟨storing, stored, hstoring, hperm, hquiet⟩
      let documentChanges := (edits.map (ListEdit.Edit.map DocumentSet.entry)).map
        (ListEdit.Edit.map reviewDocument)
      have hof : changesOf event = some documentChanges := by
        rw [changesOf, hchanges]
        show ((changes.mapM Core.DocumentChange.edit).bind _) = _
        rw [hedits]
        rfl
      have hdelivers : ({ r with stored := stored } : ReviewListener).Delivers documentChanges
          ((QueryListener.entries event.documents).map reviewDocument) := by
        refine ⟨?_, hperm.symm, htimes⟩
        show ListEdit.applyAll r.documents documentChanges = _
        rw [hdocuments]
        exact ListEdit.applyAll_map reviewDocument happly
      let shownNow : ReviewListener := { r with
        stored := stored
        documents := (QueryListener.entries event.documents).map reviewDocument }
      let told := shownNow.listener (some (now, documentChanges))
      have hsnapshot : ({ r with stored := stored } : ReviewListener).step
          (.snapshot now documentChanges shownNow.documents) = some told := if_pos hdelivers
      have htold : told.documents = shownNow.documents :=
        (ReviewListener.foldl_onChange now documentChanges shownNow).2.1
      have hkeeps : told.stored = stored :=
        ReviewListener.foldl_onChange_stored now documentChanges shownNow
      have hnodup : (told.stored.map ReviewDocument.id).Nodup := by
        rw [hkeeps]
        exact ((hperm.map ReviewDocument.id).nodup_iff).2 hids
      rcases ih hrest htail told htold hnodup with ⟨events, next, hrun, hsnapshots, hlast⟩
      refine ⟨storing ++ .snapshot now documentChanges shownNow.documents :: events, next, ?_, ?_,
        hlast⟩
      · exact Transition.run_append.2 ⟨_, hstoring, Transition.run_cons.2 ⟨told, hsnapshot, hrun⟩⟩
      · rw [ReviewListener.snapshotChanges_append, hquiet, List.nil_append]
        show some documentChanges :: (ReviewListener.snapshotChanges events).map some = _
        rw [hsnapshots, List.map_cons, hof]

/-- In every run of the client, what the user of a listener on a review query was given is what a
run of `ReviewListener` is given: in it the documents of each snapshot are stored just before it,
its changes are those that the client delivers, and after the last one its result list is what the
view holds. -/
theorem listener_refines {uid : Uid} {title : String} {query : Query}
    (hquery : downReview (some uid) title = .ok (some query)) (now : Timestamp)
    {view : Core.Query ResourcePath Review} (hview : query.described.toQuery = .ok view)
    (known : LocalDocuments ResourcePath Review)
    (happenings : List (ClientQuery.Event ResourcePath Review)) {client : ClientQuery view}
    (hrun : Transition.run ClientQuery.step ({ localDocuments := known } : ClientQuery view)
      happenings = some client)
    {info : QueryListenersInfo view.comparator} (hinfo : client.info = some info)
    {sub : Subscriber view.comparator} (hsub : sub ∈ info.listeners) :
    ∃ events r, Transition.run ReviewListener.step (.registered []) events = some r ∧
      (ReviewListener.snapshotChanges events).map some = sub.received.map changesOf ∧
      ∀ shown, client.view = some shown → sub.received ≠ [] →
        r.documents = (QueryListener.entries shown.documentSet).map reviewDocument := by
  cases (toQuery_downReview hquery).symm.trans hview
  rcases ClientQuery.served_of_run hrun with ⟨-, hnone⟩ | ⟨shown, info', hshown, hinfo', hserving⟩
  · cases hnone.symm.trans hinfo
  · cases hinfo'.symm.trans hinfo
    rcases hserving.last with ⟨last, -, hreports, hsubs⟩
    have hupToDate := hsubs sub hsub
    rcases chained_refines now hupToDate.received hupToDate.accepted (.registered []) rfl
      List.nodup_nil with ⟨events, r, hevents, hchanges, hdocuments⟩
    refine ⟨events, r, hevents, hchanges, fun view hthis hreceived => ?_⟩
    cases hshown.symm.trans hthis
    have hraised : sub.listener.raisedInitialEvent = true := by
      rw [hupToDate.raised]
      simpa using hreceived
    rw [hdocuments, hupToDate.seen_eq hraised, QueryListener.entries,
      DocumentSet.sortedSet_eq_of_getDocument hreports.documents]

/-- A review written by a device whose clock is behind goes in front of the one already shown. -/
theorem listener_refines_example :
    let query : Query := ⟨⟨["reviews", "u", "Up"], rfl⟩, "timestamp"⟩
    let known : LocalDocuments ResourcePath Review :=
      .single ["reviews", "u", "Up", "a"] (some ⟨"good", "Up", ⟨20, 0⟩⟩)
    ∃ view client info,
      Transition.run ClientQuery.step ({ localDocuments := known } : ClientQuery view)
        [.addListener 0 (.fromIncludeMetadataChanges false) ∅ none, .changes
          (.single ["reviews", "u", "Up", "b"] (some ⟨"fine", "Up", ⟨10, 0⟩⟩)) none] = some client ∧
      downReview (some ⟨"u", by decide, by decide⟩) "Up" = .ok (some query) ∧
      query.described.toQuery = .ok view ∧ client.info = some info ∧
      ∀ sub ∈ info.listeners,
        sub.received.map changesOf = [some [.added 0 ⟨"a", "good", "Up", ⟨20, 0⟩⟩],
          some [.added 0 ⟨"b", "fine", "Up", ⟨10, 0⟩⟩]] ∧
        ∃ events r, Transition.run ReviewListener.step (.registered []) events = some r ∧
          (ReviewListener.snapshotChanges events).map some = sub.received.map changesOf := by
  intro query known
  have hquery : downReview (some ⟨"u", by decide, by decide⟩) "Up" = .ok (some query) := by
    decide +kernel
  have hreceived : (Transition.run ClientQuery.step
      ({ localDocuments := known } : ClientQuery (reviewView query.source))
      [.addListener 0 (.fromIncludeMetadataChanges false) ∅ none, .changes
        (.single ["reviews", "u", "Up", "b"] (some ⟨"fine", "Up", ⟨10, 0⟩⟩)) none]).map
        (fun client => client.info.map fun info => info.listeners.map fun sub =>
          sub.received.map changesOf) =
      some (some [[some [.added 0 ⟨"a", "good", "Up", ⟨20, 0⟩⟩],
        some [.added 0 ⟨"b", "fine", "Up", ⟨10, 0⟩⟩]]]) := by
    decide +kernel
  rcases Option.map_eq_some_iff.1 hreceived with ⟨client, hclient, hlisteners⟩
  rcases Option.map_eq_some_iff.1 hlisteners with ⟨info, hinfo, hlists⟩
  refine ⟨_, client, info, hclient, hquery, toQuery_downReview hquery, hinfo, fun sub hmem => ?_⟩
  rcases listener_refines hquery ⟨0, 0⟩ (toQuery_downReview hquery) _ _ hclient hinfo hmem with
    ⟨events, r, hevents, hchanges, -⟩
  refine ⟨?_, events, r, hevents, hchanges⟩
  exact List.mem_singleton.1 (hlists ▸ List.mem_map_of_mem hmem)

end MoviePlayList
