import MoviePlayList.Firestore.QuerySnapshot
import MoviePlayList.Firestore.ViewUpdate
import MoviePlayList.Lib.Transition

/-!
# ViewRuns — a view over any number of changes

`SyncEngine::EmitNewSnapshotsAndNotifyLocalStore` feeds a view with changed documents, refills it
where that is asked for, and applies the result; `HandleOnlineStateChange` tells it that the client
went offline.  What every reachable view keeps is `Consistent`; what one of these steps says to the
listeners of the query is `Emits`.
-/

namespace MoviePlayList
namespace Firestore
namespace Core

variable {κ δ : Type}

namespace View

/-! ## Sorted changes -/

section Sorting

variable {cmp : DocumentComparator κ δ}

instance : Std.TransCmp (compareChanges cmp) :=
  letI _byDocument : Std.TransCmp fun lhs rhs : DocumentViewChange κ δ =>
      cmp.compare lhs.document rhs.document :=
    { eq_swap := Std.OrientedCmp.eq_swap, isLE_trans := Std.TransCmp.isLE_trans }
  inferInstanceAs (Std.TransCmp (compareLex
    (compareOn fun change : DocumentViewChange κ δ => getDocumentViewChangeTypePosition change.type)
    fun lhs rhs => cmp.compare lhs.document rhs.document))

theorem perm_sortChanges (changes : List (DocumentViewChange κ δ)) :
    (sortChanges cmp changes).Perm changes :=
  List.perm_insertionSort _ changes

/-- Changes of different keys are never equal, so that sorting puts each in its own place. -/
theorem ascending_sortChanges {changes : List (DocumentViewChange κ δ)}
    (h : (changes.map fun change => change.document.key).Nodup) :
    SortedList.Ascending (compareChanges cmp) (sortChanges cmp changes) := by
  refine SortedList.ascending_insertionSort ?_
  rw [List.Nodup, List.pairwise_map] at h
  refine List.Pairwise.imp (fun {a b} hne heq => hne ?_) h
  rw [compareChanges, Ordering.then_eq_eq] at heq
  exact cmp.key_eq heq.2

end Sorting

variable [Ord κ] [Std.TransOrd κ] [Std.LawfulEqOrd κ] {query : Query κ δ}

/-- What was tracked, sorted, makes a sound snapshot. -/
theorem Tracks.sound {base : DocumentSet query.comparator}
    {docChanges : ViewDocumentChanges query.comparator} (h : Tracks base docChanges)
    {snapshot : ViewSnapshot query.comparator} (hold : snapshot.oldDocuments = base)
    (hnew : snapshot.documents = docChanges.documentSet)
    (hchanges : snapshot.documentChanges =
      sortChanges query.comparator docChanges.changeSet.getChanges) : snapshot.Sound := by
  subst hold
  have hperm := @perm_sortChanges _ _ query.comparator docChanges.changeSet.getChanges
  have hkeys := docChanges.changeSet.nodup_keys_getChanges
  refine ⟨?_, ?_, ?_, ?_⟩
  · rw [hchanges]
    exact (hperm.map _).nodup_iff.2 hkeys
  · intro change hmem
    rw [hchanges, hperm.mem_iff, DocumentViewChangeSet.mem_getChanges] at hmem
    rw [← hmem, hnew]
    exact h.net _
  · intro key hkey
    have hnone : docChanges.changeSet.find key = none := by
      refine Option.eq_none_iff_forall_ne_some.2 fun change hfind => hkey ?_
      have hck := DocumentViewChangeSet.key_of_find hfind
      rw [hchanges, (hperm.map _).mem_iff, List.mem_map]
      refine ⟨change, DocumentViewChangeSet.mem_getChanges.2 ?_, hck⟩
      rw [hck, hfind]
    have hsame := h.net key
    rw [hnone] at hsame
    rw [hnew, hsame]
  · rw [hchanges]
    exact ascending_sortChanges hkeys

/-! ## Documents in limbo -/

variable [DecidableEq κ]

theorem contains_foldl_insert (keys : List κ) (set : Std.TreeSet κ) (key : κ) :
    (keys.foldl (fun set key => set.insert key) set).contains key =
      (decide (key ∈ keys) || set.contains key) := by
  induction keys generalizing set with
  | nil =>
      simp
  | cons k keys ih =>
      rw [List.foldl_cons, ih, Std.TreeSet.contains_insert]
      by_cases hk : key = k
      · subst hk
        simp
      · have hne : (compare k key == .eq) = false :=
          beq_eq_false_iff_ne.2 fun heq => hk (Std.LawfulEqOrd.eq_of_compare heq).symm
        simp [hk, hne]

/-- While the view is current, the documents in limbo are recomputed from scratch. -/
theorem updateLimboDocuments_spec (self : View query) (hcurrent : self.current) (key : κ) :
    self.updateLimboDocuments.1.limboDocuments.contains key = self.shouldBeInLimbo key := by
  rw [updateLimboDocuments, if_pos hcurrent]
  simp only [contains_foldl_insert, Std.TreeSet.contains_emptyc, Bool.or_false]
  cases hlimbo : self.shouldBeInLimbo key with
  | false =>
      simp [hlimbo]
  | true =>
      rw [decide_eq_true_eq, List.mem_filter]
      refine ⟨?_, hlimbo⟩
      unfold shouldBeInLimbo at hlimbo
      split at hlimbo
      · cases hlimbo
      · split at hlimbo
        · cases hlimbo
        · next document hdoc =>
            exact List.mem_map.2 ⟨document, DocumentSet.getDocument_eq_some.1 hdoc⟩

/-- A limbo document followed from one change to the next; `none` is a key that is added twice or
removed without being there. -/
def followLimbo (followed : κ → Bool) : LimboDocumentChange κ → Option (κ → Bool)
  | .added key => if followed key then none else some (Function.update followed key true)
  | .removed key => if followed key then some (Function.update followed key false) else none

omit [Ord κ] [Std.TransOrd κ] [Std.LawfulEqOrd κ] in
theorem followLimbo_added (keys : List κ) (followed : κ → Bool) (hnodup : keys.Nodup)
    (hfresh : ∀ key ∈ keys, followed key = false) :
    (keys.map LimboDocumentChange.added).foldlM followLimbo followed =
      some fun key => decide (key ∈ keys) || followed key := by
  induction keys generalizing followed with
  | nil =>
      simp
  | cons k keys ih =>
      rcases List.nodup_cons.1 hnodup with ⟨hk, hrest⟩
      rcases List.forall_mem_cons.1 hfresh with ⟨hhead, htail⟩
      have hstep : followLimbo followed (.added k) = some (Function.update followed k true) := by
        simp [followLimbo, hhead]
      have hlater : ∀ key ∈ keys, Function.update followed k true key = false := by
        intro key hmem
        have hne : key ≠ k := by
          intro heq
          exact hk (heq ▸ hmem)
        rw [Function.update_of_ne hne]
        exact htail key hmem
      rw [List.map_cons, List.foldlM_cons, hstep]
      refine (ih _ hrest hlater).trans (congrArg some (funext fun key => ?_))
      by_cases hkey : key = k
      · subst hkey
        simp
      · simp [hkey]

omit [Ord κ] [Std.TransOrd κ] [Std.LawfulEqOrd κ] in
theorem followLimbo_removed (keys : List κ) (followed : κ → Bool) (hnodup : keys.Nodup)
    (hthere : ∀ key ∈ keys, followed key = true) :
    (keys.map LimboDocumentChange.removed).foldlM followLimbo followed =
      some fun key => !decide (key ∈ keys) && followed key := by
  induction keys generalizing followed with
  | nil =>
      simp
  | cons k keys ih =>
      rcases List.nodup_cons.1 hnodup with ⟨hk, hrest⟩
      rcases List.forall_mem_cons.1 hthere with ⟨hhead, htail⟩
      have hstep : followLimbo followed (.removed k) = some (Function.update followed k false) := by
        simp [followLimbo, hhead]
      have hlater : ∀ key ∈ keys, Function.update followed k false key = true := by
        intro key hmem
        have hne : key ≠ k := by
          intro heq
          exact hk (heq ▸ hmem)
        rw [Function.update_of_ne hne]
        exact htail key hmem
      rw [List.map_cons, List.foldlM_cons, hstep]
      refine (ih _ hrest hlater).trans (congrArg some (funext fun key => ?_))
      by_cases hkey : key = k
      · subst hkey
        simp
      · simp [hkey]

omit [DecidableEq κ] in
theorem nodup_toList (set : Std.TreeSet κ) : set.toList.Nodup := by
  refine List.Pairwise.imp (fun {a b} hne hab => ?_) Std.TreeSet.distinct_toList
  exact hne (hab ▸ Std.ReflOrd.compare_self)

/-- Going from one set to another: what is no longer there goes, then what is new comes. -/
theorem followLimbo_diff (old new : Std.TreeSet κ) :
    ((old.toList.filter fun key => !new.contains key).map LimboDocumentChange.removed ++
      (new.toList.filter fun key => !old.contains key).map LimboDocumentChange.added).foldlM
        followLimbo old.contains = some new.contains := by
  have hmem : ∀ {set : Std.TreeSet κ} {key : κ}, key ∈ set.toList ↔ set.contains key = true := by
    intro set key
    rw [Std.TreeSet.mem_toList, Std.TreeSet.contains_iff_mem]
  rw [List.foldlM_append, followLimbo_removed _ _ ((nodup_toList _).filter _)
    fun key hkey => hmem.1 (List.mem_filter.1 hkey).1]
  refine (followLimbo_added _ _ ((nodup_toList _).filter _) fun key hkey => ?_).trans
    (congrArg some (funext fun key => ?_))
  · -- a key that comes was not there before
    have hnew := (List.mem_filter.1 hkey).2
    rw [Bool.not_eq_true'] at hnew
    rw [hnew, Bool.and_false]
  · simp only [List.mem_filter, hmem]
    cases hold : old.contains key <;> cases hnew : new.contains key <;> simp

/-- The limbo changes reported lead from the documents that were in limbo to those that are. -/
theorem updateLimboDocuments_changes (self : View query) :
    self.updateLimboDocuments.2.foldlM followLimbo self.limboDocuments.contains =
      some self.updateLimboDocuments.1.limboDocuments.contains := by
  unfold updateLimboDocuments
  split
  · exact followLimbo_diff _ _
  · rfl

/-! ## Applying the changes -/

/-- What every reachable view keeps. -/
structure Consistent (view : View query) : Prop where
  mutated : view.MutatedKeys
  accepted : ∀ document ∈ view.documentSet.sortedSet, query.accepts document
  limited : query.limitType ≠ .none → view.documentSet.size ≤ query.limit
  limbo : view.current → ∀ key, view.limboDocuments.contains key = view.shouldBeInLimbo key
  synced : view.syncState = .synced ↔ view.current ∧ view.limboDocuments.isEmpty

/-- What a step from one view to the next tells the listeners of the query. -/
structure Emits (view next : View query) (change : ViewChange query.comparator) : Prop where
  limbo : change.limboChanges.foldlM followLimbo view.limboDocuments.contains =
    some next.limboDocuments.contains
  silent : change.snapshot = none → next.syncState = view.syncState ∧
    ∀ key, next.documentSet.getDocument key = view.documentSet.getDocument key
  sound : ∀ snapshot, change.snapshot = some snapshot →
    snapshot.Sound ∧ snapshot.oldDocuments = view.documentSet ∧
      snapshot.documents = next.documentSet ∧ snapshot.excludesMetadataChanges = false ∧
      (snapshot.documentChanges ≠ [] ∨ snapshot.syncStateChanged = true) ∧
      (snapshot.fromCache = false ↔ next.syncState = .synced)

omit [Std.TransOrd κ] [Std.LawfulEqOrd κ] [DecidableEq κ] in
/-- Working out the limbo documents touches nothing else. -/
theorem updateLimboDocuments_frame (self : View query) :
    self.updateLimboDocuments.1.documentSet = self.documentSet ∧
      self.updateLimboDocuments.1.mutatedKeys = self.mutatedKeys ∧
      self.updateLimboDocuments.1.syncedDocuments = self.syncedDocuments ∧
      self.updateLimboDocuments.1.current = self.current ∧
      self.updateLimboDocuments.1.syncState = self.syncState := by
  unfold updateLimboDocuments
  split <;> exact ⟨rfl, rfl, rfl, rfl, rfl⟩

section TargetChanges

omit [Std.TransOrd κ] [Std.LawfulEqOrd κ] [DecidableEq κ]
variable [ToString κ]

/-- A target change only touches the synced documents and the current flag; without one nothing
changes. -/
theorem applyTargetChange_spec {self next : View query} {target : Option (TargetChange κ)}
    (h : self.applyTargetChange target = .ok next) :
    next.documentSet = self.documentSet ∧ next.mutatedKeys = self.mutatedKeys ∧
      next.limboDocuments = self.limboDocuments ∧ next.syncState = self.syncState ∧
      (target = none → next = self) := by
  cases target with
  | none =>
      cases h
      exact ⟨rfl, rfl, rfl, rfl, fun _ => rfl⟩
  | some targetChange =>
      simp only [applyTargetChange] at h
      split at h
      · cases h
      · cases h
        exact ⟨rfl, rfl, rfl, rfl, nofun⟩

end TargetChanges

omit [DecidableEq κ] in
/-- What is collected from accepted documents is accepted, and no more than the limit. -/
theorem Computes.bounds [DecidableEq δ] {old full : DocumentSet query.comparator}
    {docChanges : MaybeDocumentMap κ δ} {result : ViewDocumentChanges query.comparator}
    (h : Computes old docChanges full result)
    (hold : ∀ document ∈ old.sortedSet, query.accepts document) :
    (∀ document ∈ result.documentSet.sortedSet, query.accepts document) ∧
      (query.limitType ≠ .none → result.documentSet.size ≤ query.limit) := by
  constructor
  · intro document hmem
    rw [h.cut] at hmem
    have hfull : full.getDocument document.key = some document :=
      DocumentSet.mem_sortedSet.1 (mem_of_mem_cut hmem)
    have hkept : ∀ {before}, old.getDocument document.key = some before → query.accepts before :=
      fun hbefore => hold _ (DocumentSet.getDocument_eq_some.1 hbefore).1
    cases hchanged : docChanges[document.key]? with
    | none =>
        exact hkept ((h.others hchanged).symm.trans hfull)
    | some maybeNewDoc =>
        rcases h.takes hchanged with ⟨hnew, -⟩ | ⟨hsame, -⟩
        · exact (Option.filter_eq_some_iff.1 (hnew.symm.trans hfull)).2
        · exact hkept (hsame.symm.trans hfull)
  · intro hlimit
    rw [DocumentSet.size_eq_length, h.cut, length_cut, excess, if_neg hlimit,
      DocumentSet.size_eq_length]
    omega

variable [ToString κ]

/-- What a view that applies tracked changes becomes, and what it says. -/
theorem applyChanges_spec {self next : View query}
    {docChanges : ViewDocumentChanges query.comparator} {target : Option (TargetChange κ)}
    {change : ViewChange query.comparator} (htracks : Tracks self.documentSet docChanges)
    (haccepted : ∀ document ∈ docChanges.documentSet.sortedSet, query.accepts document)
    (hlimited : query.limitType ≠ .none → docChanges.documentSet.size ≤ query.limit)
    (h : self.applyChanges docChanges target = .ok (next, change)) :
    Consistent next ∧ Emits self next change ∧ next.documentSet = docChanges.documentSet ∧
      next.syncState ≠ .none := by
  unfold applyChanges at h
  split at h
  · cases h
  · simp only [bind, Except.bind] at h
    split at h
    · cases h
    · next targeted htarget =>
      rcases applyTargetChange_spec htarget with ⟨hset, hkeys, hlimbo, hstate, -⟩
      rcases targeted.updateLimboDocuments_frame with ⟨hset', hkeys', hsynced', hcurrent', hstate'⟩
      have hchanges := targeted.updateLimboDocuments_changes
      have hspec := targeted.updateLimboDocuments_spec
      rcases hupdated : targeted.updateLimboDocuments with ⟨view, limboChanges⟩
      simp only [hupdated] at h hset' hkeys' hsynced' hcurrent' hstate' hchanges hspec
      dsimp only at hset hkeys hlimbo hstate
      have hdocuments : view.documentSet = docChanges.documentSet := hset'.trans hset
      generalize hnew : (if view.limboDocuments.isEmpty && view.current then SyncState.synced
        else .local) = newSyncState at h
      have hsyncState : newSyncState = .synced ↔ view.current ∧ view.limboDocuments.isEmpty := by
        rw [← hnew]
        cases hempty : view.limboDocuments.isEmpty <;> cases hcurrent : view.current <;> simp
      have hlocal : newSyncState = .local ↔ newSyncState ≠ .synced := by
        rw [← hnew]
        split <;> simp
      have hsome : newSyncState ≠ .none := by
        rw [← hnew]
        split <;> nofun
      have hconsistent : Consistent { view with syncState := newSyncState } := by
        refine ⟨fun key => ?_, ?_, ?_, fun hcurrent key => ?_, hsyncState⟩
        · rw [hkeys', hkeys, hdocuments]
          exact htracks.mutated key
        · rw [hdocuments]
          exact haccepted
        · rw [hdocuments]
          exact hlimited
        · rw [hspec (hcurrent' ▸ hcurrent), shouldBeInLimbo, shouldBeInLimbo, hset', hsynced']
      have hlimboChanges : limboChanges.foldlM followLimbo self.limboDocuments.contains =
          some view.limboDocuments.contains := by
        rw [← hlimbo]
        exact hchanges
      have hperm := @perm_sortChanges _ _ query.comparator docChanges.changeSet.getChanges
      split at h
      · next hquiet =>
          cases h
          refine ⟨hconsistent, ⟨hlimboChanges, fun _ => ⟨?_, fun key => ?_⟩, nofun⟩, hdocuments, hsome⟩
          · simp only [Bool.and_eq_true, Bool.not_eq_true', decide_eq_false_iff_not, ne_eq,
              not_not] at hquiet
            exact hquiet.2.trans (hstate'.trans hstate)
          -- without a change every key has the document it had
          have hnil : docChanges.changeSet.getChanges = [] := by
            rw [Bool.and_eq_true, List.isEmpty_iff] at hquiet
            exact (hquiet.1 ▸ hperm).symm.eq_nil
          have hfind : docChanges.changeSet.find key = none := by
            refine Option.eq_none_iff_forall_ne_some.2 fun change hfind => ?_
            have hck := DocumentViewChangeSet.key_of_find hfind
            have hmem := DocumentViewChangeSet.mem_getChanges.2 (hck.symm ▸ hfind)
            rw [hnil] at hmem
            exact List.not_mem_nil hmem
          have hnet := htracks.net key
          rw [hfind] at hnet
          rw [hdocuments]
          exact hnet.symm
      · next hloud =>
          cases h
          refine ⟨hconsistent, ⟨hlimboChanges, nofun, ?_⟩, hdocuments, hsome⟩
          rintro snapshot ⟨⟩
          refine ⟨htracks.sound rfl rfl rfl, rfl, hdocuments.symm, rfl, ?_, ?_⟩
          · rw [Bool.and_eq_true, not_and_or, List.isEmpty_iff, Bool.not_eq_true',
              Bool.not_eq_false] at hloud
            exact hloud
          · rw [decide_eq_false_iff_not, hlocal, not_not]

/-- The only target change a view fails on modifies a document that is not part of the target. -/
theorem applyTargetChange_error {self : View query} {target : Option (TargetChange κ)}
    {message : String} (h : self.applyTargetChange target = .error message) :
    ∃ targetChange key, target = some targetChange ∧ key ∈ targetChange.modifiedDocuments ∧
      key ∉ self.syncedDocuments ∧ key ∉ targetChange.addedDocuments ∧
      message = s!"Modified document {key} not found in view." := by
  cases target with
  | none =>
      cases h
  | some targetChange =>
      simp only [applyTargetChange] at h
      split at h
      · next key hfind =>
          cases h
          have hnot := List.find?_some hfind
          have hmem := List.mem_of_find?_eq_some hfind
          simp only [Std.TreeSet.foldl_eq_foldl_toList, contains_foldl_insert, Bool.not_eq_true',
            Bool.or_eq_false_iff, decide_eq_false_iff_not, Std.TreeSet.mem_toList] at hnot
          refine ⟨targetChange, key, rfl, Std.TreeSet.mem_toList.1 hmem, fun hin => ?_, hnot.1, rfl⟩
          rw [Std.TreeSet.contains_iff_mem.2 hin] at hnot
          cases hnot.2
      · cases h

/-- Changes that need no refill are applied unless the target change is such a one. -/
theorem applyChanges_error {self : View query} {docChanges : ViewDocumentChanges query.comparator}
    {target : Option (TargetChange κ)} {message : String} (hno : docChanges.needsRefill = false)
    (h : self.applyChanges docChanges target = .error message) :
    ∃ targetChange key, target = some targetChange ∧ key ∈ targetChange.modifiedDocuments ∧
      key ∉ self.syncedDocuments ∧ key ∉ targetChange.addedDocuments ∧
      message = s!"Modified document {key} not found in view." := by
  unfold applyChanges at h
  rw [hno, if_neg Bool.false_ne_true] at h
  simp only [bind, Except.bind] at h
  split at h
  · next failed htarget =>
      cases h
      have hfailed := applyTargetChange_error htarget
      exact hfailed
  · split_ifs at h <;> cases h

/-- What a view that goes offline becomes, and what it says. -/
theorem applyOnlineStateChange_spec {self next : View query} {offline : Bool}
    {change : ViewChange query.comparator} (hview : Consistent self)
    (h : self.applyOnlineStateChange offline = .ok (next, change)) :
    Consistent next ∧ Emits self next change ∧ next.documentSet = self.documentSet ∧
      change.limboChanges = [] := by
  unfold applyOnlineStateChange at h
  split at h
  · have htracks : Tracks { self with current := false }.documentSet
        ⟨self.documentSet, .empty, self.mutatedKeys, false⟩ :=
      ⟨fun key => by simp [Describes], hview.mutated⟩
    rcases applyChanges_spec htracks hview.accepted hview.limited h with ⟨hnext, hemits, hset, -⟩
    refine ⟨hnext, ⟨hemits.limbo, hemits.silent, hemits.sound⟩, hset, ?_⟩
    -- a view that is not current leaves its limbo documents alone
    simp only [applyChanges, applyTargetChange, updateLimboDocuments, bind, Except.bind,
      Bool.and_false, Bool.false_eq_true, if_false] at h
    split at h <;> cases h <;> rfl
  · cases h
    exact ⟨hview, ⟨rfl, fun _ => ⟨rfl, fun _ => rfl⟩, fun _ hnone => by cases hnone⟩, rfl, rfl⟩

/-! ## One update -/

variable [DecidableEq δ]

/-- What `EmitNewSnapshotsAndNotifyLocalStore` does to one view; `refill` is what the query gives
when it is run against the local store again. -/
def update (self : View query) (docChanges refill : MaybeDocumentMap κ δ)
    (target : Option (TargetChange κ)) : Except String (View query × ViewChange query.comparator) := do
  let viewDocChanges ← self.computeDocumentChanges docChanges none
  if viewDocChanges.needsRefill then
    let refilled ← self.computeDocumentChanges refill (some viewDocChanges)
    self.applyChanges refilled target
  else
    self.applyChanges viewDocChanges target

/-- An update applies the computed changes, or those computed from them with the refill. -/
theorem update_spec (self : View query) (hview : Consistent self)
    {docChanges refill : MaybeDocumentMap κ δ} (hkeyed : Keyed docChanges) (hrefill : Keyed refill)
    (target : Option (TargetChange κ)) :
    ∃ full result, Tracks self.documentSet result ∧
      Computes self.documentSet docChanges full result ∧
      (result.needsRefill = false →
        self.update docChanges refill target = self.applyChanges result target) ∧
      (result.needsRefill = true → ∃ again refilled, Tracks self.documentSet refilled ∧
        Computes result.documentSet refill again refilled ∧
        self.update docChanges refill target =
          if refilled.needsRefill then
            .error "View was refilled using docs that themselves needed refilling."
          else self.applyChanges refilled target) := by
  rcases self.computeDocumentChanges_spec hview.mutated hkeyed none nofun with
    ⟨full, result, hresult, htracks, hcomputes⟩
  have hfirst : self.computeDocumentChanges docChanges none = .ok result := by
    rw [hresult]
    exact if_neg fun h => nomatch h.2
  refine ⟨full, result, htracks, hcomputes, fun hno => ?_, fun hyes => ?_⟩
  · simp [update, hfirst, hno, bind, Except.bind]
  · rcases self.computeDocumentChanges_spec hview.mutated hrefill (some result)
      (fun p hp => Option.some.inj hp ▸ htracks) with ⟨again, refilled, hagain, htracks', hcomputes'⟩
    refine ⟨again, refilled, htracks', hcomputes', ?_⟩
    cases hneeds : refilled.needsRefill <;>
      simp [update, hfirst, hyes, hagain, hneeds, bind, Except.bind]

end View
end Core
end Firestore
end MoviePlayList
