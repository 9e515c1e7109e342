import MoviePlayList.Firestore.DocumentSet

/-!
# ViewSnapshot — the merged changes of a query result

`DocumentViewChangeSet::AddChange` files a change under the key of its document and merges it with
the one already there; combinations that make no sense end in `HARD_FAIL`.

What a change says about a key is a relation between the document stored there before and after
(`Describes`).  Merging is composing these relations: as long as each change fits what is stored
when it is added, no combination fails and the set describes the way from the first store to the
last (`addChanges_net`).
-/

namespace MoviePlayList
namespace Firestore
namespace Core

/-- `DocumentViewChange::Type` -/
inductive ChangeType
  | removed
  | added
  | modified
  | metadata
  deriving DecidableEq

namespace ChangeType

/-- The value of the enumerator, as error texts show it. -/
def value : ChangeType → Nat
  | removed => 0
  | added => 1
  | modified => 2
  | metadata => 3

end ChangeType

structure DocumentViewChange (κ δ : Type) where
  document : Document κ δ
  type : ChangeType
  deriving DecidableEq

variable {κ δ : Type}

/-! ## What a change says -/

/-- What the change filed under a key, or its absence, says about the document stored under the key
before and after. -/
def Describes : Option (DocumentViewChange κ δ) → Option (Document κ δ) → Option (Document κ δ) →
    Prop
  | none, old, new => old = new
  | some ⟨document, .added⟩, old, new => old = none ∧ new = some document
  | some ⟨_, .removed⟩, old, new => old ≠ none ∧ new = none
  | some ⟨document, .modified⟩, old, new => old ≠ none ∧ new = some document
  | some ⟨document, .metadata⟩, old, new =>
      (∃ before, old = some before ∧ before.data = document.data) ∧ new = some document

/-- What is stored after a change. -/
def store [DecidableEq κ] (documents : κ → Option (Document κ δ))
    (change : DocumentViewChange κ δ) : κ → Option (Document κ δ) :=
  Function.update documents change.document.key
    (if change.type = .removed then none else some change.document)

/-- A change that can happen to what is stored. -/
def Fits (documents : κ → Option (Document κ δ)) (change : DocumentViewChange κ δ) : Prop :=
  match change.type with
  | .added => documents change.document.key = none
  | .removed | .modified => documents change.document.key ≠ none
  | .metadata => ∃ before, documents change.document.key = some before ∧
      before.data = change.document.data

/-- Every change fits what is stored when it happens. -/
def AllFit [DecidableEq κ] : (κ → Option (Document κ δ)) → List (DocumentViewChange κ δ) → Prop
  | _, [] => True
  | documents, change :: changes =>
      Fits documents change ∧ AllFit (store documents change) changes

theorem Fits.describes [DecidableEq κ] {documents : κ → Option (Document κ δ)}
    {change : DocumentViewChange κ δ} (h : Fits documents change) :
    Describes (some change) (documents change.document.key)
      (store documents change change.document.key) := by
  rcases change with ⟨document, type⟩
  cases type <;> exact ⟨h, by simp [store]⟩

/-! ## The set of changes -/

variable [Ord κ]

/-- A map of changes, each under the key of its document. -/
structure DocumentViewChangeSet (κ δ : Type) [Ord κ] where
  changeMap : Std.TreeMap κ (DocumentViewChange κ δ)
  key_eq : ∀ {key : κ} {change : DocumentViewChange κ δ},
    changeMap[key]? = some change → change.document.key = key

namespace DocumentViewChangeSet

/-- The change filed under a key. -/
def find (self : DocumentViewChangeSet κ δ) (key : κ) : Option (DocumentViewChange κ δ) :=
  self.changeMap[key]?

/-- `GetChanges` -/
def getChanges (self : DocumentViewChangeSet κ δ) : List (DocumentViewChange κ δ) :=
  self.changeMap.toList.map Prod.snd

theorem key_of_find {self : DocumentViewChangeSet κ δ} {key : κ} {change : DocumentViewChange κ δ}
    (h : self.find key = some change) : change.document.key = key :=
  self.key_eq h

variable [Std.TransOrd κ]

/-- The constructor `DocumentViewChangeSet{}`. -/
def empty : DocumentViewChangeSet κ δ where
  changeMap := ∅
  key_eq := by simp

@[simp] theorem find_empty (key : κ) : (empty : DocumentViewChangeSet κ δ).find key = none :=
  Std.TreeMap.getElem?_emptyc

variable [Std.LawfulEqOrd κ]

/-- `change_map_.insert(change.document().key(), change)` -/
def insert (self : DocumentViewChangeSet κ δ) (change : DocumentViewChange κ δ) :
    DocumentViewChangeSet κ δ where
  changeMap := self.changeMap.insert change.document.key change
  key_eq := by
    intro key c hc
    rw [Std.TreeMap.getElem?_insert] at hc
    split at hc
    · next heq =>
        cases hc
        exact Std.LawfulEqOrd.eq_of_compare heq
    · exact self.key_eq hc

/-- `change_map_.erase(key)` -/
def erase (self : DocumentViewChangeSet κ δ) (key : κ) : DocumentViewChangeSet κ δ where
  changeMap := self.changeMap.erase key
  key_eq := by
    intro k c hc
    rw [Std.TreeMap.getElem?_erase] at hc
    split at hc
    · cases hc
    · exact self.key_eq hc

def addChange (self : DocumentViewChangeSet κ δ) (change : DocumentViewChange κ δ) :
    Except String (DocumentViewChangeSet κ δ) :=
  let key := change.document.key
  match self.find key with
  | none => .ok (self.insert change)
  | some old =>
      if change.type ≠ .added ∧ old.type = .metadata then
        .ok (self.insert change)
      else if change.type = .metadata ∧ old.type ≠ .removed then
        .ok (self.insert ⟨change.document, old.type⟩)
      else if change.type = .modified ∧ old.type = .modified then
        .ok (self.insert ⟨change.document, .modified⟩)
      else if change.type = .modified ∧ old.type = .added then
        .ok (self.insert ⟨change.document, .added⟩)
      else if change.type = .removed ∧ old.type = .added then
        .ok (self.erase key)
      else if change.type = .removed ∧ old.type = .modified then
        .ok (self.insert ⟨old.document, .removed⟩)
      else if change.type = .added ∧ old.type = .removed then
        .ok (self.insert ⟨change.document, .modified⟩)
      else
        .error s!"Unsupported combination of changes: {change.type.value} after {old.type.value}"

theorem find_insert [DecidableEq κ] (self : DocumentViewChangeSet κ δ)
    (change : DocumentViewChange κ δ) :
    (self.insert change).find =
      Function.update self.find change.document.key (some change) := by
  funext k
  rw [find, insert, Std.TreeMap.getElem?_insert, Function.update_apply]
  by_cases hk : k = change.document.key
  · rw [if_pos hk, if_pos (hk ▸ Std.ReflOrd.compare_self)]
  · rw [if_neg hk, if_neg fun heq => hk (Std.LawfulEqOrd.eq_of_compare heq).symm]
    rfl

theorem find_erase [DecidableEq κ] (self : DocumentViewChangeSet κ δ) (key : κ) :
    (self.erase key).find = Function.update self.find key none := by
  funext k
  rw [find, erase, Std.TreeMap.getElem?_erase, Function.update_apply]
  by_cases hk : k = key
  · rw [if_pos hk, if_pos (hk ▸ Std.ReflOrd.compare_self)]
  · rw [if_neg hk, if_neg fun heq => hk (Std.LawfulEqOrd.eq_of_compare heq).symm]
    rfl

theorem mem_getChanges {self : DocumentViewChangeSet κ δ} {change : DocumentViewChange κ δ} :
    change ∈ self.getChanges ↔ self.find change.document.key = some change := by
  rw [getChanges, List.mem_map]
  constructor
  · rintro ⟨⟨key, c⟩, hmem, rfl⟩
    have hfind := Std.TreeMap.mem_toList_iff_getElem?_eq_some.1 hmem
    rw [self.key_eq hfind]
    exact hfind
  · intro h
    exact ⟨(change.document.key, change), Std.TreeMap.mem_toList_iff_getElem?_eq_some.2 h, rfl⟩

/-- The changes of a set are about different keys. -/
theorem nodup_keys_getChanges (self : DocumentViewChangeSet κ δ) :
    (self.getChanges.map fun change => change.document.key).Nodup := by
  have hkeys : self.getChanges.map (fun change => change.document.key) =
      self.changeMap.toList.map Prod.fst := by
    rw [getChanges, List.map_map]
    refine List.map_congr_left fun ⟨key, change⟩ hmem => ?_
    exact self.key_eq (Std.TreeMap.mem_toList_iff_getElem?_eq_some.1 hmem)
  rw [hkeys]
  exact nodup_keys_toList self.changeMap

end DocumentViewChangeSet

/-! ## Merging -/

variable [Std.TransOrd κ] [Std.LawfulEqOrd κ]

/-- A new change is merged into the one that says how its key got here. -/
theorem addChange_describes [DecidableEq κ] {self : DocumentViewChangeSet κ δ}
    {change : DocumentViewChange κ δ} {old mid new : Option (Document κ δ)}
    (hself : Describes (self.find change.document.key) old mid)
    (hchange : Describes (some change) mid new) :
    ∃ next filed, self.addChange change = .ok next ∧
      next.find = Function.update self.find change.document.key filed ∧
      Describes filed old new := by
  rcases change with ⟨document, type⟩
  have hkept : ∀ {c : DocumentViewChange κ δ}, c.document.key = document.key →
      (self.insert c).find = Function.update self.find document.key (some c) := by
    intro c hc
    rw [self.find_insert, hc]
  unfold DocumentViewChangeSet.addChange
  cases hfind : self.find document.key with
  | none =>
      simp only [hfind] at hself ⊢
      cases hself
      exact ⟨_, _, rfl, hkept rfl, hchange⟩
  | some filed =>
      rcases filed with ⟨before, oldType⟩
      have hbefore : before.key = document.key := DocumentViewChangeSet.key_of_find hfind
      simp only [hfind] at hself ⊢
      cases oldType with
      | removed =>
          rcases hself with ⟨hold, rfl⟩
          cases type with
          | added => exact ⟨_, _, rfl, hkept rfl, hold, hchange.2⟩
          -- nothing is stored that could change again
          | removed => exact absurd rfl hchange.1
          | modified => exact absurd rfl hchange.1
          | metadata => exact hchange.1.elim fun _ h => nomatch h.1
      | added =>
          rcases hself with ⟨hold, rfl⟩
          cases type with
          | added => exact nomatch hchange.1
          | removed =>
              exact ⟨_, none, rfl, self.find_erase _, hold.trans hchange.2.symm⟩
          | modified => exact ⟨_, _, rfl, hkept rfl, hold, hchange.2⟩
          | metadata => exact ⟨_, _, rfl, hkept rfl, hold, hchange.2⟩
      | modified =>
          rcases hself with ⟨hold, rfl⟩
          cases type with
          | added => exact nomatch hchange.1
          | removed => exact ⟨_, _, rfl, hkept hbefore, hold, hchange.2⟩
          | modified => exact ⟨_, _, rfl, hkept rfl, hold, hchange.2⟩
          | metadata => exact ⟨_, _, rfl, hkept rfl, hold, hchange.2⟩
      | metadata =>
          rcases hself with ⟨⟨first, rfl, hdata⟩, rfl⟩
          cases type with
          | added => exact nomatch hchange.1
          | removed => exact ⟨_, _, rfl, hkept rfl, nofun, hchange.2⟩
          | modified => exact ⟨_, _, rfl, hkept rfl, nofun, hchange.2⟩
          | metadata =>
              rcases hchange with ⟨⟨d, hd, hsame⟩, hnew⟩
              cases hd
              exact ⟨_, _, rfl, hkept rfl, ⟨first, rfl, hdata.trans hsame⟩, hnew⟩

/-- Changes that fit one after the other are merged without a failure, whatever their number and
order, and the set describes what all of them did to every key. -/
theorem addChanges_net [DecidableEq κ] (changes : List (DocumentViewChange κ δ))
    (documents : κ → Option (Document κ δ)) (h : AllFit documents changes) :
    ∃ set : DocumentViewChangeSet κ δ,
      changes.foldlM DocumentViewChangeSet.addChange .empty = .ok set ∧
        ∀ key, Describes (set.find key) (documents key) (changes.foldl store documents key) := by
  have hrun : ∀ (changes : List (DocumentViewChange κ δ)) (now : κ → Option (Document κ δ))
      (set : DocumentViewChangeSet κ δ), AllFit now changes →
        (∀ key, Describes (set.find key) (documents key) (now key)) →
        ∃ last : DocumentViewChangeSet κ δ,
          changes.foldlM DocumentViewChangeSet.addChange set = .ok last ∧
            ∀ key, Describes (last.find key) (documents key) (changes.foldl store now key) := by
    intro changes
    induction changes with
    | nil =>
        exact fun _ set _ hset => ⟨set, rfl, hset⟩
    | cons change changes ih =>
        intro now set hfit hset
        rcases addChange_describes (hset _) hfit.1.describes with ⟨next, filed, hadd, hfind, hnet⟩
        have hnext : ∀ key, Describes (next.find key) (documents key) (store now change key) := by
          intro key
          rw [hfind]
          by_cases hkey : key = change.document.key
          · subst hkey
            simpa using hnet
          · simpa [store, Function.update_of_ne hkey] using hset key
        rcases ih _ next hfit.2 hnext with ⟨last, hlast, hall⟩
        refine ⟨last, ?_, hall⟩
        rw [List.foldlM_cons, hadd]
        exact hlast
  exact hrun changes documents .empty h fun key => by simp [Describes]

/-- A document that comes, goes and comes back is one addition. -/
theorem addChanges_net_example :
    let note : Document Nat Nat := ⟨1, 5, .synced⟩
    ∃ set : DocumentViewChangeSet Nat Nat,
      [⟨note, .added⟩, ⟨note, .removed⟩, ⟨note, .added⟩, ⟨note, .metadata⟩].foldlM
          DocumentViewChangeSet.addChange .empty = .ok set ∧
        ∀ key, Describes (set.find key) none
          ([⟨note, .added⟩, ⟨note, .removed⟩, ⟨note, .added⟩, ⟨note, .metadata⟩].foldl store
            (fun _ => none) key) :=
  addChanges_net _ (fun _ => none)
    ⟨rfl, nofun, rfl, ⟨_, rfl, rfl⟩, trivial⟩

/-! ## Snapshots -/

/-- `ViewSnapshot` of a query whose comparator is `cmp`. -/
structure ViewSnapshot (cmp : DocumentComparator κ δ) where
  documents : DocumentSet cmp
  oldDocuments : DocumentSet cmp
  documentChanges : List (DocumentViewChange κ δ)
  mutatedKeys : Std.TreeSet κ
  fromCache : Bool
  syncStateChanged : Bool
  excludesMetadataChanges : Bool

namespace ViewSnapshot

variable {cmp : DocumentComparator κ δ}

/-- `FromInitialDocuments`: as if all documents were added. -/
def fromInitialDocuments (documents : DocumentSet cmp) (mutatedKeys : Std.TreeSet κ)
    (fromCache excludesMetadataChanges : Bool) : ViewSnapshot cmp where
  documents := documents
  oldDocuments := .empty cmp
  documentChanges := documents.sortedSet.map fun document => ⟨document, .added⟩
  mutatedKeys := mutatedKeys
  fromCache := fromCache
  syncStateChanged := true
  excludesMetadataChanges := excludesMetadataChanges

omit [Std.TransOrd κ] [Std.LawfulEqOrd κ] in
/-- `has_pending_writes` -/
def hasPendingWrites (self : ViewSnapshot cmp) : Bool := !self.mutatedKeys.isEmpty

end ViewSnapshot

end Core
end Firestore
end MoviePlayList
