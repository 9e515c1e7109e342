import MoviePlayList.Firestore.View

/-!
# ViewUpdate — what `ComputeDocumentChanges` computes

Throughout the loop over the changed documents, and while documents are dropped out for the limit,
the change set describes the way from the documents the view had to the documents collected so far,
and the mutated keys are those of the collected documents with local mutations (`Tracks`).  So no
combination of changes ever fails.

What is collected under a changed key is the changed document if the query matches it, except that
a document that holds the same data, or was written here and waits for the server's version, stays
(`Takes`).
-/

namespace MoviePlayList
namespace Firestore

variable {κ δ : Type} [Ord κ] [Std.TransOrd κ] [Std.LawfulEqOrd κ]

namespace DocumentSet

variable {cmp : DocumentComparator κ δ}

/-- Erasing the document at an index. -/
theorem erase_getElem? {self : DocumentSet cmp} {document : Document κ δ} {i : Nat}
    (h : self.sortedSet[i]? = some document) :
    (self.erase document.key).sortedSet = self.sortedSet.eraseIdx i := by
  have hmem : document ∈ self.sortedSet := List.mem_of_getElem? h
  have hindex : self.indexOf document.key = some i := by
    rw [indexOf, mem_sortedSet.1 hmem]
    exact (self.ascending.indexOf_eq_some_iff hmem).2 h
  exact (erase_sortedSet hindex).2

theorem erase_getFirstDocument {self : DocumentSet cmp} {document : Document κ δ}
    (h : self.getFirstDocument = some document) :
    (self.erase document.key).sortedSet = self.sortedSet.drop 1 := by
  have hzero : self.sortedSet[0]? = some document := by
    rw [← List.head?_eq_getElem?]
    exact h
  rw [erase_getElem? hzero, List.eraseIdx_zero, List.drop_one]

theorem erase_getLastDocument {self : DocumentSet cmp} {document : Document κ δ}
    (h : self.getLastDocument = some document) :
    (self.erase document.key).sortedSet = self.sortedSet.take (self.sortedSet.length - 1) := by
  have hlast : self.sortedSet[self.sortedSet.length - 1]? = some document := by
    rw [← List.getLast?_eq_getElem?]
    exact h
  rw [erase_getElem? hlast, ← List.dropLast_eq_take]
  exact (List.dropLast_eq_eraseIdx (by
    have hlt := (List.getElem?_eq_some_iff.1 hlast).1
    omega)).symm

end DocumentSet

namespace Core
namespace View

variable [DecidableEq κ] {query : Query κ δ}

/-- The collected documents are where the change set says the documents of `base` went. -/
structure Tracks (base : DocumentSet query.comparator)
    (progress : ViewDocumentChanges query.comparator) : Prop where
  net : ∀ key, Describes (progress.changeSet.find key) (base.getDocument key)
    (progress.documentSet.getDocument key)
  mutated : ∀ key, key ∈ progress.mutatedKeys ↔
    ∃ document, progress.documentSet.getDocument key = some document ∧
      document.hasLocalMutations

/-- A document stays where it is while a changed one comes in: it holds the same data, or it was
written here and waits for the server's version. -/
def Stays [DecidableEq δ] (oldDoc newDoc : Document κ δ) : Prop :=
  oldDoc.data = newDoc.data ∨ shouldWaitForSyncedDocument newDoc oldDoc

/-- What is collected under a changed key: the changed document if the query matches it, or the one
that stays. -/
def Takes [DecidableEq δ] (query : Query κ δ) (oldDoc maybeNewDoc result : Option (Document κ δ)) :
    Prop :=
  let newDoc := maybeNewDoc.filter query.accepts
  (result = newDoc ∧ ∀ before after, oldDoc = some before → newDoc = some after →
      shouldWaitForSyncedDocument after before → before.data = after.data) ∨
    (result = oldDoc ∧ ∃ before after, oldDoc = some before ∧ newDoc = some after ∧
      Stays before after)

theorem getDocument_changeApplied {progress : ViewDocumentChanges query.comparator} {key : κ}
    {newDoc : Option (Document κ δ)} {changeSet : DocumentViewChangeSet κ δ} {refill : Bool}
    (hkey : ∀ document, newDoc = some document → document.key = key) :
    (changeApplied progress key newDoc changeSet refill).documentSet.getDocument =
      Function.update progress.documentSet.getDocument key newDoc := by
  funext k
  cases newDoc with
  | none =>
      rw [changeApplied, DocumentSet.getDocument_erase, Function.update_apply]
  | some document =>
      rw [changeApplied, DocumentSet.getDocument_insert, Function.update_apply, hkey document rfl]

theorem mem_mutatedKeys_changeApplied {progress : ViewDocumentChanges query.comparator} {key k : κ}
    {newDoc : Option (Document κ δ)} {changeSet : DocumentViewChangeSet κ δ} {refill : Bool} :
    k ∈ (changeApplied progress key newDoc changeSet refill).mutatedKeys ↔
      (k = key ∧ ∃ document, newDoc = some document ∧ document.hasLocalMutations) ∨
        (k ≠ key ∧ k ∈ progress.mutatedKeys) := by
  have hswap : key = k ↔ k = key := eq_comm
  cases newDoc with
  | none =>
      simp [changeApplied, Std.TreeSet.mem_erase, hswap]
  | some document =>
      cases hlocal : document.hasLocalMutations with
      | true =>
          simp only [changeApplied, hlocal, if_true, Std.TreeSet.mem_insert,
            Std.LawfulEqOrd.compare_eq_iff_eq, hswap]
          by_cases hk : k = key <;> simp [hk, hlocal]
      | false =>
          simp [changeApplied, hlocal, Std.TreeSet.mem_erase, hswap]

/-- Filing a change and collecting its document keeps track. -/
theorem Tracks.changeApplied {base : DocumentSet query.comparator}
    {progress : ViewDocumentChanges query.comparator} (h : Tracks base progress)
    (change : DocumentViewChange κ δ) (newDoc : Option (Document κ δ)) (refill : Bool)
    (hkey : ∀ document, newDoc = some document → document.key = change.document.key)
    (hchange : Describes (some change)
      (progress.documentSet.getDocument change.document.key) newDoc) :
    ∃ changeSet, progress.changeSet.addChange change = .ok changeSet ∧
      Tracks base (View.changeApplied progress change.document.key newDoc changeSet refill) := by
  rcases addChange_describes (h.net _) hchange with ⟨next, filed, hadd, hfind, hnet⟩
  refine ⟨next, hadd, ⟨fun key => ?_, fun key => ?_⟩⟩
  · have hset : (View.changeApplied progress change.document.key newDoc next refill).changeSet =
        next := by
      cases newDoc <;> rfl
    rw [hset, hfind, getDocument_changeApplied hkey]
    by_cases hk : key = change.document.key
    · subst hk
      simpa using hnet
    · simpa [Function.update_of_ne hk] using h.net key
  · rw [mem_mutatedKeys_changeApplied, getDocument_changeApplied hkey]
    by_cases hk : key = change.document.key
    · subst hk
      simp
    · simp [hk, h.mutated key]

section Loop

variable [DecidableEq δ]

/-- A document moved beyond the limit, as far as the result is full. -/
def movedOut (query : Query κ δ) (last first : Option (Document κ δ)) (newDoc : Document κ δ) :
    Bool :=
  (last.any fun l => query.comparator.compare newDoc l = .gt) ||
    first.any fun f => query.comparator.compare newDoc f = .lt

/-- A change of a full result after which the local cache may know of another result. -/
def asksRefill (query : Query κ δ) (last first oldDoc maybeNewDoc : Option (Document κ δ)) : Bool :=
  match oldDoc, maybeNewDoc.filter query.accepts with
  | some oldDoc, some newDoc =>
      oldDoc.data ≠ newDoc.data && !shouldWaitForSyncedDocument newDoc oldDoc &&
        movedOut query last first newDoc
  | some _, none => last.isSome || first.isSome
  | none, _ => false

variable [ToString κ]

/-- One turn of the loop. -/
theorem onDocument_spec (self : View query) {oldDocumentSet : DocumentSet query.comparator}
    (last first : Option (Document κ δ)) {base : DocumentSet query.comparator}
    {progress : ViewDocumentChanges query.comparator} (h : Tracks base progress) {key : κ}
    {maybeNewDoc : Option (Document κ δ)}
    (hold : progress.documentSet.getDocument key = oldDocumentSet.getDocument key)
    (hkey : ∀ document, maybeNewDoc = some document → document.key = key) :
    ∃ next result, self.onDocument oldDocumentSet last first progress (key, maybeNewDoc) =
        .ok next ∧ Tracks base next ∧
      next.documentSet.getDocument =
        Function.update progress.documentSet.getDocument key result ∧
      Takes query (oldDocumentSet.getDocument key) maybeNewDoc result ∧
      next.needsRefill = (progress.needsRefill ||
        asksRefill query last first (oldDocumentSet.getDocument key) maybeNewDoc) := by
  have hnew : newDocument query key maybeNewDoc = .ok (maybeNewDoc.filter query.accepts) := by
    cases maybeNewDoc with
    | none =>
        rfl
    | some document =>
        simp [newDocument, hkey document rfl, Option.filter]
  have hkeyNew : ∀ document, maybeNewDoc.filter query.accepts = some document →
      document.key = key := by
    intro document hdoc
    exact hkey document (Option.filter_eq_some_iff.1 hdoc).1
  -- a turn that leaves everything as it was
  have hkeep : progress.documentSet.getDocument =
      Function.update progress.documentSet.getDocument key (oldDocumentSet.getDocument key) := by
    rw [← hold, Function.update_eq_self]
  -- a turn that files a change
  have happly : ∀ (change : DocumentViewChange κ δ) (refill : Bool),
      change.document.key = key →
      Describes (some change) (oldDocumentSet.getDocument key)
        (maybeNewDoc.filter query.accepts) →
      ∃ changeSet, progress.changeSet.addChange change = .ok changeSet ∧
        Tracks base (View.changeApplied progress key (maybeNewDoc.filter query.accepts) changeSet
          refill) := by
    intro change refill hck hdesc
    subst hck
    exact h.changeApplied change _ refill hkeyNew (hold ▸ hdesc)
  unfold onDocument
  simp only [hnew, bind, Except.bind]
  cases hdoc : oldDocumentSet.getDocument key with
  | none =>
      cases hfilter : maybeNewDoc.filter query.accepts with
      | none =>
          exact ⟨progress, none, rfl, h, hdoc ▸ hkeep, .inl ⟨hfilter.symm, nofun⟩,
            (Bool.or_false _).symm⟩
      | some newDoc =>
          have hnk := hkeyNew newDoc hfilter
          rw [hfilter, hdoc] at happly
          rcases happly ⟨newDoc, .added⟩ false hnk ⟨rfl, rfl⟩ with ⟨changeSet, hadd, htracks⟩
          simp only [hadd]
          exact ⟨_, some newDoc, rfl, htracks,
            getDocument_changeApplied fun d hd => hkeyNew d (hfilter.trans hd),
            .inl ⟨hfilter.symm, nofun⟩, rfl⟩
  | some oldDoc =>
      have hok : oldDoc.key = key := DocumentSet.key_of_getDocument hdoc
      cases hfilter : maybeNewDoc.filter query.accepts with
      | none =>
          rw [hfilter, hdoc] at happly
          rcases happly ⟨oldDoc, .removed⟩ (last.isSome || first.isSome) hok ⟨nofun, rfl⟩ with
            ⟨changeSet, hadd, htracks⟩
          simp only [hadd]
          refine ⟨_, none, rfl, htracks, getDocument_changeApplied nofun,
            .inl ⟨hfilter.symm, fun _ _ _ hnew => ?_⟩, ?_⟩
          · exact nomatch hfilter.symm.trans hnew
          · simp [asksRefill, hfilter, View.changeApplied]
      | some newDoc =>
          have hnk := hkeyNew newDoc hfilter
          rw [hfilter, hdoc] at happly
          have hstay : Stays oldDoc newDoc → Takes query (some oldDoc) maybeNewDoc (some oldDoc) := by
            intro hreason
            exact .inr ⟨rfl, oldDoc, newDoc, rfl, hfilter, hreason⟩
          have hgo : (shouldWaitForSyncedDocument newDoc oldDoc → oldDoc.data = newDoc.data) →
              Takes query (some oldDoc) maybeNewDoc (some newDoc) := by
            intro hreason
            refine .inl ⟨hfilter.symm, fun before after hbefore hafter => ?_⟩
            cases hbefore
            cases hfilter.symm.trans hafter
            exact hreason
          have htake : ∀ (changeSet : DocumentViewChangeSet κ δ) (refill : Bool),
              (View.changeApplied progress key (some newDoc) changeSet refill).documentSet.getDocument
                = Function.update progress.documentSet.getDocument key (some newDoc) :=
            fun _ _ => getDocument_changeApplied fun d hd => hkeyNew d (hfilter.trans hd)
          simp only [ne_eq, ite_not]
          split
          · next hdata =>
              split
              · refine ⟨progress, some oldDoc, rfl, h, hdoc ▸ hkeep, hstay (.inl hdata), ?_⟩
                simp [asksRefill, hfilter, hdata]
              · rcases happly ⟨newDoc, .metadata⟩ false hnk ⟨⟨oldDoc, rfl, hdata⟩, rfl⟩ with
                  ⟨changeSet, hadd, htracks⟩
                simp only [hadd]
                refine ⟨_, some newDoc, rfl, htracks, htake _ _, hgo fun _ => hdata, ?_⟩
                simp [asksRefill, hfilter, hdata, View.changeApplied]
          · next hdata =>
              split
              · next hwait =>
                  refine ⟨progress, some oldDoc, rfl, h, hdoc ▸ hkeep, hstay (.inr hwait), ?_⟩
                  simp [asksRefill, hfilter, hwait]
              · next hwait =>
                  rcases happly ⟨newDoc, .modified⟩ (movedOut query last first newDoc) hnk
                    ⟨nofun, rfl⟩ with ⟨changeSet, hadd, htracks⟩
                  simp only [hadd]
                  refine ⟨_, some newDoc, rfl, htracks, htake _ _,
                    hgo fun hw => absurd hw hwait, ?_⟩
                  simp [asksRefill, movedOut, hfilter, hdata, hwait, View.changeApplied]

/-- The loop over changes of different keys. -/
theorem foldlM_onDocument_spec (self : View query) {oldDocumentSet : DocumentSet query.comparator}
    (last first : Option (Document κ δ)) {base : DocumentSet query.comparator}
    (changes : List (κ × Option (Document κ δ)))
    (progress : ViewDocumentChanges query.comparator) (h : Tracks base progress)
    (hnodup : (changes.map Prod.fst).Nodup)
    (hold : ∀ change ∈ changes,
      progress.documentSet.getDocument change.1 = oldDocumentSet.getDocument change.1)
    (hkey : ∀ change ∈ changes, ∀ document, change.2 = some document → document.key = change.1) :
    ∃ next, changes.foldlM (self.onDocument oldDocumentSet last first) progress = .ok next ∧
      Tracks base next ∧
      (∀ key, key ∉ changes.map Prod.fst →
        next.documentSet.getDocument key = progress.documentSet.getDocument key) ∧
      (∀ change ∈ changes, Takes query (oldDocumentSet.getDocument change.1) change.2
        (next.documentSet.getDocument change.1)) ∧
      next.needsRefill = (progress.needsRefill || changes.any fun change =>
        asksRefill query last first (oldDocumentSet.getDocument change.1) change.2) := by
  induction changes generalizing progress with
  | nil =>
      exact ⟨progress, rfl, h, fun _ _ => rfl, nofun, (Bool.or_false _).symm⟩
  | cons change changes ih =>
      rcases List.nodup_cons.1 hnodup with ⟨hfresh, hrest⟩
      rcases List.forall_mem_cons.1 hold with ⟨holdHead, holdTail⟩
      rcases List.forall_mem_cons.1 hkey with ⟨hkeyHead, hkeyTail⟩
      rcases change with ⟨key, maybeNewDoc⟩
      rcases self.onDocument_spec last first h holdHead hkeyHead with
        ⟨next, result, hone, htracks, hget, htakes, hrefill⟩
      -- the later keys are different ones, so they still have their old documents
      have hlater : ∀ later ∈ changes, next.documentSet.getDocument later.1 =
          oldDocumentSet.getDocument later.1 := by
        intro later hmem
        have hne : later.1 ≠ key := by
          intro heq
          exact hfresh (List.mem_map.2 ⟨later, hmem, heq⟩)
        rw [hget, Function.update_of_ne hne]
        exact holdTail later hmem
      rcases ih next htracks hrest hlater hkeyTail with
        ⟨final, hfold, hfinal, hother, hall, hrefills⟩
      refine ⟨final, ?_, hfinal, ?_, ?_, ?_⟩
      · rw [List.foldlM_cons, hone]
        exact hfold
      · intro k hk
        rcases not_or.1 (fun hmem => hk (List.mem_cons.2 hmem)) with ⟨hne, hnot⟩
        rw [hother k hnot, hget, Function.update_of_ne hne]
      · refine List.forall_mem_cons.2 ⟨?_, hall⟩
        rw [hother key hfresh, hget, Function.update_self]
        exact htakes
      · rw [hrefills, hrefill, List.any_cons, Bool.or_assoc]

end Loop

/-! ## The limit -/

/-- A list without `n` of its documents: the last ones or the first ones. -/
def cut (query : Query κ δ) (n : Nat) (documents : List (Document κ δ)) : List (Document κ δ) :=
  if query.limitType = .first then documents.take (documents.length - n) else documents.drop n

omit [Ord κ] [Std.TransOrd κ] [Std.LawfulEqOrd κ] [DecidableEq κ] in
theorem mem_of_mem_cut {n : Nat} {documents : List (Document κ δ)} {document : Document κ δ}
    (h : document ∈ cut query n documents) : document ∈ documents := by
  unfold cut at h
  split at h
  · exact List.mem_of_mem_take h
  · exact List.mem_of_mem_drop h

omit [Ord κ] [Std.TransOrd κ] [Std.LawfulEqOrd κ] [DecidableEq κ] in
theorem length_cut (n : Nat) (documents : List (Document κ δ)) :
    (cut query n documents).length = documents.length - n := by
  unfold cut
  split
  · rw [List.length_take]
    omega
  · rw [List.length_drop]

theorem dropOut_spec {base : DocumentSet query.comparator} (n : Nat)
    (progress : ViewDocumentChanges query.comparator) (h : Tracks base progress)
    (hn : n ≤ progress.documentSet.sortedSet.length) :
    ∃ next, dropOut n progress = .ok next ∧ Tracks base next ∧
      next.documentSet.sortedSet = cut query n progress.documentSet.sortedSet ∧
      next.needsRefill = progress.needsRefill := by
  induction n generalizing progress with
  | zero =>
      refine ⟨progress, rfl, h, ?_, rfl⟩
      simp [cut]
  | succ n ih =>
      -- the document dropped out, and the list without it
      have hfound : ∃ oldDoc,
          (if query.limitType = .first then progress.documentSet.getLastDocument
            else progress.documentSet.getFirstDocument) = some oldDoc ∧
          (progress.documentSet.erase oldDoc.key).sortedSet =
            cut query 1 progress.documentSet.sortedSet := by
        have hne : progress.documentSet.sortedSet ≠ [] := by
          intro hnil
          rw [hnil] at hn
          exact absurd hn (Nat.not_succ_le_zero n)
        by_cases hfirst : query.limitType = .first
        · have hlast := List.getLast?_eq_some_getLast hne
          refine ⟨_, (if_pos hfirst).trans hlast, ?_⟩
          rw [DocumentSet.erase_getLastDocument hlast, cut, if_pos hfirst]
        · have hhead := List.head?_eq_some_head hne
          refine ⟨_, (if_neg hfirst).trans hhead, ?_⟩
          rw [DocumentSet.erase_getFirstDocument hhead, cut, if_neg hfirst]
      rcases hfound with ⟨oldDoc, hfound, herase⟩
      have hstored : progress.documentSet.getDocument oldDoc.key = some oldDoc := by
        refine DocumentSet.mem_sortedSet.1 ?_
        split at hfound
        · exact List.mem_of_getLast? hfound
        · exact List.mem_of_head? hfound
      rcases h.changeApplied ⟨oldDoc, .removed⟩ none false nofun
        ⟨by rw [hstored]; nofun, rfl⟩ with ⟨changeSet, hadd, htracks⟩
      have hlen : n ≤ (cut query 1 progress.documentSet.sortedSet).length := by
        rw [length_cut]
        omega
      rcases ih _ htracks (by rw [← herase] at hlen; exact hlen) with
        ⟨next, hdrop, hnext, hcut, hrefill⟩
      refine ⟨next, ?_, hnext, ?_, hrefill.trans (Bool.or_false _)⟩
      · rw [dropOut]
        simp only [hfound, bind, Except.bind, hadd]
        simpa [changeApplied] using hdrop
      · rw [hcut]
        simp only [changeApplied, herase]
        unfold cut
        split
        · rw [List.take_take, List.length_take]
          congr 1
          omega
        · rw [List.drop_drop, Nat.add_comm]

/-! ## The result -/

/-- Every document of a map of changes has the key it is filed under. -/
def Keyed (docChanges : MaybeDocumentMap κ δ) : Prop :=
  ∀ (key : κ) (document : Document κ δ), docChanges[key]? = some (some document) → document.key = key

/-- The mutated keys of a view are those of its documents with local mutations. -/
def MutatedKeys (self : View query) : Prop :=
  ∀ key, key ∈ self.mutatedKeys ↔
    ∃ document, self.documentSet.getDocument key = some document ∧ document.hasLocalMutations

variable [DecidableEq δ]

/-- Changed documents and the documents `old` give the documents `full`, which the result is cut out
of. -/
structure Computes (old : DocumentSet query.comparator) (docChanges : MaybeDocumentMap κ δ)
    (full : DocumentSet query.comparator) (result : ViewDocumentChanges query.comparator) :
    Prop where
  takes : ∀ {key maybeNewDoc}, docChanges[key]? = some maybeNewDoc →
    Takes query (old.getDocument key) maybeNewDoc (full.getDocument key)
  others : ∀ {key}, docChanges[key]? = none → full.getDocument key = old.getDocument key
  cut : result.documentSet.sortedSet = cut query (excess query full) full.sortedSet
  refill : result.needsRefill = true ↔ ∃ key maybeNewDoc, docChanges[key]? = some maybeNewDoc ∧
    asksRefill query (lastDocInLimit old) (firstDocInLimit old) (old.getDocument key) maybeNewDoc

variable [ToString κ]

/-- The computation gives a result unless a refill asks for another refill. -/
theorem computeDocumentChanges_spec (self : View query) (hview : self.MutatedKeys)
    {docChanges : MaybeDocumentMap κ δ} (hkeyed : Keyed docChanges)
    (previous : Option (ViewDocumentChanges query.comparator))
    (hprevious : ∀ p, previous = some p → Tracks self.documentSet p) :
    ∃ (full : DocumentSet query.comparator) (result : ViewDocumentChanges query.comparator),
      self.computeDocumentChanges docChanges previous =
        (if result.needsRefill ∧ previous.isSome then
          .error "View was refilled using docs that themselves needed refilling."
        else .ok result) ∧
      Tracks self.documentSet result ∧
      Computes (self.startingFrom previous).documentSet docChanges full result := by
  have htracks : Tracks self.documentSet (self.startingFrom previous) := by
    cases previous with
    | none => exact ⟨fun key => by simp [startingFrom, Describes], hview⟩
    | some p => exact ⟨(hprevious p rfl).net, (hprevious p rfl).mutated⟩
  have hrefill : (self.startingFrom previous).needsRefill = false := by
    cases previous <;> rfl
  unfold computeDocumentChanges
  generalize self.startingFrom previous = progress at htracks hrefill ⊢
  dsimp only
  have hlookup : ∀ {change : κ × Option (Document κ δ)}, change ∈ docChanges.toList ↔
      docChanges[change.1]? = some change.2 := Std.TreeMap.mem_toList_iff_getElem?_eq_some
  rcases self.foldlM_onDocument_spec (lastDocInLimit progress.documentSet)
    (firstDocInLimit progress.documentSet) docChanges.toList progress htracks
    (nodup_keys_toList docChanges) (fun _ _ => rfl)
    (fun change hmem document hdoc => hkeyed change.1 document (hdoc ▸ hlookup.1 hmem)) with
    ⟨full, hfold, hfull, hother, htakes, hasks⟩
  have hexcess : excess query full.documentSet ≤ full.documentSet.sortedSet.length := by
    unfold excess
    split
    · exact Nat.zero_le _
    · rw [DocumentSet.size_eq_length]
      exact Nat.sub_le _ _
  rcases dropOut_spec _ full hfull hexcess with ⟨result, hdrop, hresult, hcut, hkept⟩
  refine ⟨full.documentSet, result, ?_, hresult, ⟨?_, ?_, hcut, ?_⟩⟩
  · simp only [hfold, bind, Except.bind, hdrop]
    rfl
  · intro key maybeNewDoc hchanged
    exact htakes (key, maybeNewDoc) (hlookup.2 hchanged)
  · intro key hunchanged
    refine hother key fun hmem => ?_
    rcases List.mem_map.1 hmem with ⟨change, hchange, rfl⟩
    cases hunchanged.symm.trans (hlookup.1 hchange)
  · rw [hkept, hasks, hrefill, Bool.false_or, List.any_eq_true]
    constructor
    · rintro ⟨⟨key, maybeNewDoc⟩, hmem, hask⟩
      exact ⟨key, maybeNewDoc, hlookup.1 hmem, hask⟩
    · rintro ⟨key, maybeNewDoc, hchanged, hask⟩
      exact ⟨(key, maybeNewDoc), hlookup.2 hchanged, hask⟩

end View
end Core
end Firestore
end MoviePlayList
