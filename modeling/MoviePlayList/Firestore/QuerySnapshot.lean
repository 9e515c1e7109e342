import MoviePlayList.Firestore.View
import MoviePlayList.Lib.ListEdit

/-!
# QuerySnapshot — the indexed changes a snapshot listener is given

`QuerySnapshot::ForEachChange` turns the changes of a view snapshot into changes with indices: it
starts from the old documents, applies one change after the other to a `DocumentSet` and looks up
where the document is before and afterwards.  Snapshots that start from nothing take a shorter way.

A snapshot is `Sound` when its changes, in the order of `View::ApplyChanges`, say what became of
every key.  Then no assertion fails, and the changes applied in order at their indices turn the old
list of documents into the new one (`forEachChange_applies`).
-/

namespace MoviePlayList
namespace Firestore

variable {κ δ : Type} [Ord κ]

namespace DocumentSet

variable {cmp : DocumentComparator κ δ}

/-- What a document is, apart from how far its writes have come. -/
def entry (document : Document κ δ) : κ × δ := (document.key, document.data)

theorem getDocument_of_isEmpty {self : DocumentSet cmp} [Std.TransOrd κ] (h : self.isEmpty)
    (key : κ) : self.getDocument key = none :=
  Std.TreeMap.getElem?_of_isEmpty h

/-- Sets with the same data under every key list the same entries: the order does not look at
anything else. -/
theorem entries_eq {s t : DocumentSet cmp}
    (h : ∀ key, (s.getDocument key).map Document.data = (t.getDocument key).map Document.data) :
    s.sortedSet.map entry = t.sortedSet.map entry := by
  have hmem : ∀ {u : DocumentSet cmp} {p : κ × δ},
      p ∈ u.sortedSet.map entry ↔ (u.getDocument p.1).map Document.data = some p.2 := by
    intro u p
    rw [List.mem_map, Option.map_eq_some_iff]
    constructor
    · rintro ⟨document, hd, rfl⟩
      exact ⟨document, mem_sortedSet.1 hd, rfl⟩
    · rintro ⟨document, hd, hdata⟩
      have hkey := key_of_getDocument hd
      exact ⟨document, (getDocument_eq_some.1 hd).1, Prod.ext hkey hdata⟩
  have hnodup : ∀ u : DocumentSet cmp, (u.sortedSet.map entry).Nodup := by
    intro u
    refine List.Nodup.of_map Prod.fst ?_
    rw [List.map_map]
    exact u.nodup_keys
  have hperm : (s.sortedSet.map entry).Perm (t.sortedSet.map entry) := by
    refine (List.perm_ext_iff_of_nodup (hnodup s) (hnodup t)).2 fun p => ?_
    rw [hmem, hmem, h]
  -- the order is one of entries
  let before : κ × δ → κ × δ → Prop := fun p q =>
    ∃ a b, entry a = p ∧ entry b = q ∧ cmp.compare a b = .lt
  have hsorted : ∀ u : DocumentSet cmp, (u.sortedSet.map entry).Pairwise before := by
    intro u
    rw [List.pairwise_map]
    exact List.Pairwise.imp (fun {a b} hlt => ⟨a, b, rfl, rfl, hlt⟩) u.ascending
  refine hperm.eq_of_pairwise ?_ (hsorted s) (hsorted t)
  rintro p q _ _ ⟨a, b, rfl, rfl, hab⟩ ⟨b', a', hb, ha, hba⟩
  have hcongr : cmp.compare b' a' = cmp.compare b a :=
    cmp.congr (congrArg Prod.fst hb) (congrArg Prod.snd hb) (congrArg Prod.fst ha)
      (congrArg Prod.snd ha)
  exact absurd (hcongr ▸ hba) (Std.OrientedCmp.not_lt_of_lt hab)

end DocumentSet

namespace Core

/-- `DocumentSnapshot` with its `SnapshotMetadata`. -/
structure DocumentSnapshot (κ δ : Type) where
  document : Document κ δ
  hasPendingWrites : Bool
  fromCache : Bool
  deriving DecidableEq

/-- `DocumentChange::Type` of the API. -/
inductive DocumentChangeType
  | added
  | modified
  | removed
  deriving DecidableEq

/-- `DocumentChange` of the API; an index that is `npos` is `none`. -/
structure DocumentChange (κ δ : Type) where
  type : DocumentChangeType
  document : DocumentSnapshot κ δ
  oldIndex : Option Nat
  newIndex : Option Nat
  deriving DecidableEq

/-- The edit of the result list a change stands for, if it has the indices of its type. -/
def DocumentChange.edit (self : DocumentChange κ δ) : Option (ListEdit.Edit (Document κ δ)) :=
  match self.type, self.oldIndex, self.newIndex with
  | .added, none, some newIndex => some (.added newIndex self.document.document)
  | .modified, some oldIndex, some newIndex =>
      some (.modified oldIndex newIndex self.document.document)
  | .removed, some oldIndex, none => some (.removed oldIndex self.document.document)
  | _, _, _ => none

namespace ViewSnapshot

variable {cmp : DocumentComparator κ δ}

/-- The document of a change with the metadata of the snapshot. -/
def documentSnapshot (self : ViewSnapshot cmp) (document : Document κ δ) :
    DocumentSnapshot κ δ where
  document := document
  hasPendingWrites := self.mutatedKeys.contains document.key
  fromCache := self.fromCache

/-- `DocumentChangeTypeForChange` -/
def documentChangeTypeForChange : ChangeType → DocumentChangeType
  | .added => .added
  | .modified | .metadata => .modified
  | .removed => .removed

/-- The loop of `ForEachChange` over the changes of a snapshot that starts from nothing. -/
def firstChanges (self : ViewSnapshot cmp) (index : Nat) (lastDocument : Option (Document κ δ)) :
    List (DocumentViewChange κ δ) → Except String (List (DocumentChange κ δ))
  | [] => .ok []
  | change :: changes =>
      if change.type ≠ .added then
        .error "Invalid event type for first snapshot"
      else if lastDocument.any fun last => cmp.compare last change.document ≠ .lt then
        .error "Got added events in wrong order"
      else do
        let later ← self.firstChanges (index + 1) (some change.document) changes
        return ⟨.added, self.documentSnapshot change.document, none, some index⟩ :: later

variable [Std.TransOrd κ] [Std.LawfulEqOrd κ]

/-- One change applied to the index tracker: the set afterwards, the old and the new index. -/
def track (indexTracker : DocumentSet cmp) (change : DocumentViewChange κ δ) :
    Except String (DocumentSet cmp × Option Nat × Option Nat) := do
  let key := change.document.key
  let (erased, oldIndex) ←
    if change.type ≠ .added then
      match indexTracker.indexOf key with
      | none => .error "Index for document not found"
      | some oldIndex => .ok (indexTracker.erase key, some oldIndex)
    else .ok (indexTracker, none)
  if change.type ≠ .removed then
    let inserted := erased.insert change.document
    return (inserted, oldIndex, inserted.indexOf key)
  else
    return (erased, oldIndex, none)

/-- The loop of `ForEachChange` over the changes of any other snapshot. -/
def laterChanges (self : ViewSnapshot cmp) (includeMetadataChanges : Bool)
    (indexTracker : DocumentSet cmp) :
    List (DocumentViewChange κ δ) → Except String (List (DocumentChange κ δ))
  | [] => .ok []
  | change :: changes =>
      if !includeMetadataChanges && change.type = .metadata then
        self.laterChanges includeMetadataChanges indexTracker changes
      else do
        let (tracked, oldIndex, newIndex) ← track indexTracker change
        let later ← self.laterChanges includeMetadataChanges tracked changes
        return ⟨documentChangeTypeForChange change.type, self.documentSnapshot change.document,
          oldIndex, newIndex⟩ :: later

/-- `QuerySnapshot::ForEachChange`: the changes its callback is called with. -/
def forEachChange (self : ViewSnapshot cmp) (includeMetadataChanges : Bool) :
    Except String (List (DocumentChange κ δ)) :=
  if includeMetadataChanges && self.excludesMetadataChanges then
    .error "To include metadata changes with your document changes, you must call addSnapshotListener(includeMetadataChanges:true)."
  else if self.oldDocuments.isEmpty then
    self.firstChanges 0 none self.documentChanges
  else
    self.laterChanges includeMetadataChanges self.oldDocuments self.documentChanges

/-! ## Sound snapshots -/

/-- The changes say what became of each of their keys, nothing else became of the data under any
other key, and they are sorted. -/
structure Sound (snapshot : ViewSnapshot cmp) : Prop where
  keys : (snapshot.documentChanges.map fun change => change.document.key).Nodup
  describes : ∀ change ∈ snapshot.documentChanges, Describes (some change)
    (snapshot.oldDocuments.getDocument change.document.key)
    (snapshot.documents.getDocument change.document.key)
  others : ∀ key, key ∉ snapshot.documentChanges.map (fun change => change.document.key) →
    (snapshot.oldDocuments.getDocument key).map Document.data =
      (snapshot.documents.getDocument key).map Document.data
  sorted : SortedList.Ascending (View.compareChanges cmp) snapshot.documentChanges

/-- A tracked change is an edit of the list of documents. -/
theorem track_spec [DecidableEq κ] {indexTracker : DocumentSet cmp}
    {change : DocumentViewChange κ δ} {new : Option (Document κ δ)}
    (snapshot : DocumentSnapshot κ δ) (hsnapshot : snapshot.document = change.document)
    (h : Describes (some change) (indexTracker.getDocument change.document.key) new) :
    ∃ tracked oldIndex newIndex edit,
      track indexTracker change = .ok (tracked, oldIndex, newIndex) ∧
      DocumentChange.edit ⟨documentChangeTypeForChange change.type, snapshot, oldIndex, newIndex⟩ =
        some edit ∧
      ListEdit.apply indexTracker.sortedSet edit = some tracked.sortedSet ∧
      tracked.getDocument = Function.update indexTracker.getDocument change.document.key new := by
  rcases change with ⟨document, type⟩
  have hinserted : ∀ set : DocumentSet cmp, (set.insert document).getDocument =
      Function.update set.getDocument document.key (some document) := by
    intro set
    funext key
    rw [DocumentSet.getDocument_insert, Function.update_apply]
  have herased : (indexTracker.erase document.key).getDocument =
      Function.update indexTracker.getDocument document.key none := by
    funext key
    rw [DocumentSet.getDocument_erase, Function.update_apply]
  -- a document that is there is deleted at its index and comes back at the new one
  have hmodified : indexTracker.getDocument document.key ≠ none → ∃ oldIndex newIndex,
      indexTracker.indexOf document.key = some oldIndex ∧
      ((indexTracker.erase document.key).insert document).indexOf document.key = some newIndex ∧
      ListEdit.apply indexTracker.sortedSet (.modified oldIndex newIndex document) =
        some ((indexTracker.erase document.key).insert document).sortedSet := by
    intro hne
    rcases Option.ne_none_iff_exists'.1 hne with ⟨before, hbefore⟩
    rcases DocumentSet.indexOf_of_getDocument hbefore with ⟨oldIndex, hold⟩
    rcases DocumentSet.erase_sortedSet hold with ⟨hlt, herase⟩
    have hnone : (indexTracker.erase document.key).getDocument document.key = none := by
      rw [herased, Function.update_self]
    rcases DocumentSet.insert_sortedSet hnone with ⟨newIndex, hnew, hle, hinsert⟩
    refine ⟨oldIndex, newIndex, hold, hnew, ?_⟩
    rw [herase, List.length_eraseIdx_of_lt hlt] at hle
    rw [ListEdit.apply, if_pos ⟨hlt, by omega⟩, hinsert, herase]
  cases type with
  | removed =>
      rcases h with ⟨hold, rfl⟩
      rcases Option.ne_none_iff_exists'.1 hold with ⟨before, hbefore⟩
      rcases DocumentSet.indexOf_of_getDocument hbefore with ⟨oldIndex, hindex⟩
      rcases DocumentSet.erase_sortedSet hindex with ⟨hlt, herase⟩
      refine ⟨indexTracker.erase document.key, some oldIndex, none, .removed oldIndex document,
        ?_, ?_, ?_, herased⟩
      · simp [track, hindex, bind, Except.bind, pure, Except.pure]
      · simp [DocumentChange.edit, documentChangeTypeForChange, hsnapshot]
      · rw [ListEdit.apply, if_pos hlt, herase]
  | added =>
      rcases h with ⟨hold, rfl⟩
      rcases DocumentSet.insert_sortedSet hold with ⟨newIndex, hnew, hle, hinsert⟩
      refine ⟨indexTracker.insert document, none, some newIndex, .added newIndex document,
        ?_, ?_, ?_, hinserted indexTracker⟩
      · simp [track, hnew, bind, Except.bind, pure, Except.pure]
      · simp [DocumentChange.edit, documentChangeTypeForChange, hsnapshot]
      · rw [ListEdit.apply, if_pos hle, hinsert]
  | modified =>
      rcases h with ⟨hold, rfl⟩
      rcases hmodified hold with ⟨oldIndex, newIndex, hindex, hnew, happly⟩
      refine ⟨(indexTracker.erase document.key).insert document, some oldIndex, some newIndex,
        .modified oldIndex newIndex document, ?_, ?_, happly, ?_⟩
      · simp [track, hindex, hnew, bind, Except.bind, pure, Except.pure]
      · simp [DocumentChange.edit, documentChangeTypeForChange, hsnapshot]
      · rw [hinserted, herased, Function.update_idem]
  | metadata =>
      rcases h with ⟨⟨before, hbefore, _⟩, rfl⟩
      have hne : indexTracker.getDocument document.key ≠ none := by
        rw [hbefore]
        exact Option.some_ne_none before
      rcases hmodified hne with ⟨oldIndex, newIndex, hindex, hnew, happly⟩
      refine ⟨(indexTracker.erase document.key).insert document, some oldIndex, some newIndex,
        .modified oldIndex newIndex document, ?_, ?_, happly, ?_⟩
      · simp [track, hindex, hnew, bind, Except.bind, pure, Except.pure]
      · simp [DocumentChange.edit, documentChangeTypeForChange, hsnapshot]
      · rw [hinserted, herased, Function.update_idem]

/-- The loop with the index tracker: what is left of the changes says how the tracked documents
become the new ones. -/
theorem laterChanges_applies [DecidableEq κ] (self : ViewSnapshot cmp)
    (includeMetadataChanges : Bool) (new : DocumentSet cmp)
    (changes : List (DocumentViewChange κ δ)) (indexTracker : DocumentSet cmp)
    (hkeys : (changes.map fun change => change.document.key).Nodup)
    (hdescribes : ∀ change ∈ changes, Describes (some change)
      (indexTracker.getDocument change.document.key) (new.getDocument change.document.key))
    (hothers : ∀ key, key ∉ changes.map (fun change => change.document.key) →
      (indexTracker.getDocument key).map Document.data =
        (new.getDocument key).map Document.data) :
    ∃ result edits, self.laterChanges includeMetadataChanges indexTracker changes = .ok result ∧
      result.mapM DocumentChange.edit = some edits ∧
      ListEdit.applyAll (indexTracker.sortedSet.map DocumentSet.entry)
        (edits.map (ListEdit.Edit.map DocumentSet.entry)) =
          some (new.sortedSet.map DocumentSet.entry) := by
  induction changes generalizing indexTracker with
  | nil =>
      refine ⟨[], [], rfl, rfl, ?_⟩
      rw [DocumentSet.entries_eq fun key => hothers key List.not_mem_nil]
      rfl
  | cons change changes ih =>
      rcases List.nodup_cons.1 hkeys with ⟨hfresh, hrest⟩
      rcases List.forall_mem_cons.1 hdescribes with ⟨hhead, htail⟩
      rw [laterChanges]
      split
      · next hskip =>
          -- a metadata change is left out; the data under its key is the same
          rw [Bool.and_eq_true, decide_eq_true_eq] at hskip
          refine ih indexTracker hrest htail fun key hkey => ?_
          by_cases hk : key = change.document.key
          · subst hk
            rcases change with ⟨document, type⟩
            cases hskip.2
            rcases hhead with ⟨⟨before, hbefore, hdata⟩, hnew⟩
            rw [hbefore, hnew, Option.map_some, Option.map_some, hdata]
          · exact hothers key fun hmem => (List.mem_cons.1 hmem).elim hk hkey
      · rcases track_spec (self.documentSnapshot change.document) rfl hhead with
          ⟨tracked, oldIndex, newIndex, edit, htrack, hedit, happly, hget⟩
        have hdescribes' : ∀ later ∈ changes, Describes (some later)
            (tracked.getDocument later.document.key) (new.getDocument later.document.key) := by
          intro later hmem
          have hne : later.document.key ≠ change.document.key := by
            intro heq
            exact hfresh (List.mem_map.2 ⟨later, hmem, heq⟩)
          rw [hget, Function.update_of_ne hne]
          exact htail later hmem
        have hothers' : ∀ key, key ∉ changes.map (fun change => change.document.key) →
            (tracked.getDocument key).map Document.data =
              (new.getDocument key).map Document.data := by
          intro key hkey
          by_cases hk : key = change.document.key
          · subst hk
            rw [hget, Function.update_self]
          · rw [hget, Function.update_of_ne hk]
            exact hothers key fun hmem => (List.mem_cons.1 hmem).elim hk hkey
        rcases ih tracked hrest hdescribes' hothers' with ⟨later, edits, hlater, hedits, hall⟩
        refine ⟨⟨documentChangeTypeForChange change.type,
          self.documentSnapshot change.document, oldIndex, newIndex⟩ :: later, edit :: edits,
          ?_, ?_, ?_⟩
        · simp only [htrack, bind, Except.bind, hlater]
          rfl
        · rw [List.mapM_cons, hedit, hedits]
          rfl
        · rw [List.map_cons, ListEdit.applyAll, ListEdit.apply_map, happly]
          exact hall

omit [Std.TransOrd κ] [Std.LawfulEqOrd κ] in
/-- The loop over additions in ascending order: each comes at the end. -/
theorem firstChanges_applies (self : ViewSnapshot cmp) (changes : List (DocumentViewChange κ δ))
    (index : Nat) (lastDocument : Option (Document κ δ))
    (hadded : ∀ change ∈ changes, change.type = .added)
    (hsorted : SortedList.Ascending cmp.compare
      (lastDocument.toList ++ changes.map DocumentViewChange.document)) :
    ∃ result edits, self.firstChanges index lastDocument changes = .ok result ∧
      result.mapM DocumentChange.edit = some edits ∧ ListEdit.AtEnd index edits ∧
      ListEdit.inserted edits = changes.map DocumentViewChange.document := by
  induction changes generalizing index lastDocument with
  | nil =>
      exact ⟨[], [], rfl, rfl, trivial, rfl⟩
  | cons change changes ih =>
      rcases List.forall_mem_cons.1 hadded with ⟨hhead, htail⟩
      have horder : ¬ lastDocument.any fun last => cmp.compare last change.document ≠ .lt := by
        cases lastDocument with
        | none =>
            simp
        | some last =>
            have hlt := (List.pairwise_cons.1 hsorted).1 change.document (by simp)
            simp [hlt]
      have hrest : SortedList.Ascending cmp.compare
          ((some change.document).toList ++ changes.map DocumentViewChange.document) :=
        (List.pairwise_append.1 hsorted).2.1
      rcases ih (index + 1) (some change.document) htail hrest with
        ⟨later, edits, hlater, hedits, hend, hinserted⟩
      refine ⟨⟨.added, self.documentSnapshot change.document, none, some index⟩ :: later,
        .added index change.document :: edits, ?_, ?_, ⟨rfl, hend⟩, ?_⟩
      · rw [firstChanges, if_neg (not_not.2 hhead), if_neg horder]
        simp only [bind, Except.bind, hlater]
        rfl
      · rw [List.mapM_cons, hedits]
        rfl
      · rw [ListEdit.inserted, hinserted, List.map_cons]

/-- The changes a sound snapshot hands to its listener, applied one after the other at their
indices, turn the old list of documents into the new one, and no assertion fails on the way. -/
theorem forEachChange_applies [DecidableEq κ] {self : ViewSnapshot cmp} (h : self.Sound)
    (includeMetadataChanges : Bool)
    (hallowed : includeMetadataChanges = true → self.excludesMetadataChanges = false) :
    ∃ changes edits, self.forEachChange includeMetadataChanges = .ok changes ∧
      changes.mapM DocumentChange.edit = some edits ∧
      ListEdit.applyAll (self.oldDocuments.sortedSet.map DocumentSet.entry)
        (edits.map (ListEdit.Edit.map DocumentSet.entry)) =
          some (self.documents.sortedSet.map DocumentSet.entry) := by
  have hmode : ¬ (includeMetadataChanges && self.excludesMetadataChanges) = true := by
    rw [Bool.and_eq_true]
    rintro ⟨hincluded, hexcluded⟩
    rw [hallowed hincluded] at hexcluded
    exact nomatch hexcluded
  rw [forEachChange, if_neg hmode]
  split
  · next hempty =>
      have hold : ∀ key, self.oldDocuments.getDocument key = none :=
        DocumentSet.getDocument_of_isEmpty hempty
      -- whatever happened to nothing is an addition
      have hadded : ∀ change ∈ self.documentChanges, change.type = .added ∧
          self.documents.getDocument change.document.key = some change.document := by
        rintro ⟨document, type⟩ hmem
        have hdesc := h.describes _ hmem
        rw [hold] at hdesc
        cases type with
        | added => exact ⟨rfl, hdesc.2⟩
        | removed => exact absurd rfl hdesc.1
        | modified => exact absurd rfl hdesc.1
        | metadata => exact hdesc.1.elim fun _ hb => nomatch hb.1
      have hsorted : SortedList.Ascending cmp.compare
          (self.documentChanges.map DocumentViewChange.document) := by
        rw [SortedList.Ascending, List.pairwise_map]
        refine List.Pairwise.imp_of_mem (fun {a b} ha hb hlt => ?_) h.sorted
        rw [View.compareChanges, (hadded a ha).1, (hadded b hb).1] at hlt
        simpa using hlt
      rcases self.firstChanges_applies self.documentChanges 0 none
        (fun change hmem => (hadded change hmem).1) hsorted with
        ⟨changes, edits, hfirst, hedits, hend, hinserted⟩
      have hnil : self.oldDocuments.sortedSet = [] := by
        refine List.eq_nil_iff_forall_not_mem.2 fun document hmem => ?_
        cases (hold document.key).symm.trans (DocumentSet.mem_sortedSet.1 hmem)
      have hdocuments : self.documentChanges.map DocumentViewChange.document =
          self.documents.sortedSet := by
        refine hsorted.ext self.documents.ascending fun document => ?_
        rw [List.mem_map, DocumentSet.mem_sortedSet]
        constructor
        · rintro ⟨change, hmem, rfl⟩
          exact (hadded change hmem).2
        · intro hdocument
          by_cases hkey : document.key ∈
              self.documentChanges.map (fun change => change.document.key)
          · rcases List.mem_map.1 hkey with ⟨change, hmem, hk⟩
            refine ⟨change, hmem, ?_⟩
            have hget := (hadded change hmem).2
            rw [hk, hdocument] at hget
            exact (Option.some.inj hget).symm
          · have hsame := h.others document.key hkey
            rw [hold, hdocument] at hsame
            cases hsame
      refine ⟨changes, edits, hfirst, hedits, ?_⟩
      have happly : ListEdit.applyAll self.oldDocuments.sortedSet edits =
          some self.documents.sortedSet := by
        have hend' : ListEdit.AtEnd self.oldDocuments.sortedSet.length edits := by
          rw [hnil]
          exact hend
        rw [ListEdit.applyAll_of_atEnd hend', hnil, List.nil_append, hinserted, hdocuments]
      exact ListEdit.applyAll_map DocumentSet.entry happly
  · exact self.laterChanges_applies includeMetadataChanges self.documents self.documentChanges
      self.oldDocuments h.keys h.describes h.others

end ViewSnapshot
end Core
end Firestore
end MoviePlayList
