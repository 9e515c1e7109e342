import Mathlib.Tactic.Common
import MoviePlayList.Lib.SortedList

/-!
# DocumentSet — the ordered documents of a query

The vendored Firestore client keeps the result of a query in a `DocumentSet`: a map from keys to
documents (`index_`) next to the same documents in the order of the query (`sorted_set_`).  Every
operation changes both.  That they hold the same documents, each key once, and that the second is
ascending, are fields of the structure.

Keys and document data are parameters; a `DocumentComparator` is the order of a query, which always
ends with the key.
-/

namespace MoviePlayList
namespace Firestore

/-- `DocumentState` -/
inductive DocumentState
  | localMutations
  | committedMutations
  | synced
  deriving DecidableEq

structure Document (κ δ : Type) where
  key : κ
  data : δ
  documentState : DocumentState
  deriving DecidableEq

namespace Document

variable {κ δ : Type}

def hasLocalMutations (self : Document κ δ) : Bool := self.documentState = .localMutations

def hasCommittedMutations (self : Document κ δ) : Bool := self.documentState = .committedMutations

end Document

/-- A comparison of documents by their key and data, in which only documents of one key can be
equal. -/
structure DocumentComparator (κ δ : Type) where
  compare : Document κ δ → Document κ δ → Ordering
  trans : Std.TransCmp compare
  key_eq : ∀ {a b : Document κ δ}, compare a b = .eq → a.key = b.key
  congr : ∀ {a a' b b' : Document κ δ}, a.key = a'.key → a.data = a'.data → b.key = b'.key →
    b.data = b'.data → compare a b = compare a' b'

instance {κ δ : Type} (cmp : DocumentComparator κ δ) : Std.TransCmp cmp.compare := cmp.trans

variable {κ δ : Type} [Ord κ]

/-- A map lists every key once. -/
theorem nodup_keys_toList {β : Type} [Std.TransOrd κ] (map : Std.TreeMap κ β) :
    (map.toList.map Prod.fst).Nodup := by
  rw [List.Nodup, List.pairwise_map]
  refine List.Pairwise.imp (fun {a b} hne hab => ?_) Std.TreeMap.distinct_keys_toList
  exact hne (hab ▸ Std.ReflOrd.compare_self)

structure DocumentSet (cmp : DocumentComparator κ δ) where
  index : Std.TreeMap κ (Document κ δ)
  sortedSet : List (Document κ δ)
  index_eq_some : ∀ {key : κ} {document : Document κ δ},
    index[key]? = some document ↔ document ∈ sortedSet ∧ document.key = key
  ascending : SortedList.Ascending cmp.compare sortedSet

namespace DocumentSet

variable {cmp : DocumentComparator κ δ}

def size (self : DocumentSet cmp) : Nat := self.index.size

def isEmpty (self : DocumentSet cmp) : Bool := self.index.isEmpty

def containsKey (self : DocumentSet cmp) (key : κ) : Bool := self.index.contains key

def getDocument (self : DocumentSet cmp) (key : κ) : Option (Document κ δ) := self.index[key]?

def getFirstDocument (self : DocumentSet cmp) : Option (Document κ δ) := self.sortedSet.head?

def getLastDocument (self : DocumentSet cmp) : Option (Document κ δ) := self.sortedSet.getLast?

/-- `IndexOf`; `none` is `npos`. -/
def indexOf (self : DocumentSet cmp) (key : κ) : Option Nat :=
  (self.getDocument key).bind fun document =>
    SortedList.indexOf cmp.compare document self.sortedSet

theorem getDocument_eq_some {self : DocumentSet cmp} {key : κ} {document : Document κ δ} :
    self.getDocument key = some document ↔ document ∈ self.sortedSet ∧ document.key = key :=
  self.index_eq_some

theorem mem_sortedSet {self : DocumentSet cmp} {document : Document κ δ} :
    document ∈ self.sortedSet ↔ self.getDocument document.key = some document := by
  simp [getDocument_eq_some]

theorem key_of_getDocument {self : DocumentSet cmp} {key : κ} {document : Document κ δ}
    (h : self.getDocument key = some document) : document.key = key :=
  (getDocument_eq_some.1 h).2

/-- A key is there once, so that comparing equal to its document is having its key. -/
theorem compare_eq_iff {self : DocumentSet cmp} {key : κ} {document a : Document κ δ}
    (h : self.getDocument key = some document) (ha : a ∈ self.sortedSet) :
    cmp.compare a document = .eq ↔ a.key = key := by
  constructor
  · intro heq
    exact (cmp.key_eq heq).trans (key_of_getDocument h)
  · rintro rfl
    cases (mem_sortedSet.1 ha).symm.trans h
    exact Std.ReflCmp.compare_self

/-- A key is listed once. -/
theorem nodup_keys (self : DocumentSet cmp) : (self.sortedSet.map Document.key).Nodup := by
  rw [List.Nodup, List.pairwise_map]
  refine List.Pairwise.imp_of_mem (fun {a b} ha hb hlt hkey => ?_) self.ascending
  have hab : a = b := by
    have hget := mem_sortedSet.1 ha
    rw [hkey] at hget
    exact Option.some.inj (hget.symm.trans (mem_sortedSet.1 hb))
  subst hab
  have hself : cmp.compare a a = .eq := Std.ReflCmp.compare_self
  exact nomatch hself.symm.trans hlt

/-- Sets that agree on every key list the same documents. -/
theorem sortedSet_eq_of_getDocument {s t : DocumentSet cmp}
    (h : ∀ key, s.getDocument key = t.getDocument key) : s.sortedSet = t.sortedSet := by
  refine s.ascending.ext t.ascending fun a => ?_
  rw [mem_sortedSet, mem_sortedSet, h]

theorem indexOf_eq_some {self : DocumentSet cmp} {key : κ} {i : Nat}
    (h : self.indexOf key = some i) : ∃ document, self.getDocument key = some document ∧
      SortedList.indexOf cmp.compare document self.sortedSet = some i :=
  Option.bind_eq_some_iff.1 h

/-- The key of every document of the set has an index. -/
theorem indexOf_of_getDocument {self : DocumentSet cmp} {key : κ} {document : Document κ δ}
    (h : self.getDocument key = some document) : ∃ i, self.indexOf key = some i := by
  have hself : cmp.compare document document = .eq := Std.ReflCmp.compare_self
  rcases SortedList.indexOf_isSome (getDocument_eq_some.1 h).1 hself with ⟨i, hi⟩
  exact ⟨i, by rw [indexOf, h]; exact hi⟩

/-! ## Erasing and inserting -/

theorem mem_erase_iff {self : DocumentSet cmp} {key : κ} {document a : Document κ δ}
    (h : self.getDocument key = some document) :
    a ∈ SortedList.erase cmp.compare document self.sortedSet ↔
      a ∈ self.sortedSet ∧ a.key ≠ key := by
  rw [self.ascending.mem_erase]
  constructor
  · rintro ⟨ha, hne⟩
    exact ⟨ha, fun hkey => hne ((compare_eq_iff h ha).2 hkey)⟩
  · rintro ⟨ha, hne⟩
    exact ⟨ha, fun heq => hne ((compare_eq_iff h ha).1 heq)⟩

variable [Std.TransOrd κ] [Std.LawfulEqOrd κ]

/-- The constructor `DocumentSet(comparator)`. -/
def empty (cmp : DocumentComparator κ δ) : DocumentSet cmp where
  index := ∅
  sortedSet := []
  index_eq_some := by simp
  ascending := List.Pairwise.nil

def erase (self : DocumentSet cmp) (key : κ) : DocumentSet cmp :=
  match h : self.getDocument key with
  | none => self
  | some document =>
      { index := self.index.erase key
        sortedSet := SortedList.erase cmp.compare document self.sortedSet
        index_eq_some := by
          intro k d
          rw [Std.TreeMap.getElem?_erase, mem_erase_iff h]
          split
          · next heq =>
              cases Std.LawfulEqOrd.eq_of_compare heq
              constructor
              · intro hnone
                cases hnone
              · rintro ⟨⟨_, hne⟩, hkey⟩
                exact absurd hkey hne
          · next hne =>
              rw [self.index_eq_some]
              constructor
              · rintro ⟨hd, rfl⟩
                exact ⟨⟨hd, fun hkey => hne (hkey ▸ Std.ReflOrd.compare_self)⟩, rfl⟩
              · rintro ⟨⟨hd, _⟩, rfl⟩
                exact ⟨hd, rfl⟩
        ascending := self.ascending.erase document }

theorem getDocument_erase {self : DocumentSet cmp} [DecidableEq κ] {key k : κ} :
    (self.erase key).getDocument k = if k = key then none else self.getDocument k := by
  unfold erase
  split
  · next hnone =>
      split
      · next heq =>
          rw [heq, hnone]
      · rfl
  · next document h =>
      rw [getDocument, Std.TreeMap.getElem?_erase]
      by_cases hk : k = key
      · rw [if_pos hk, if_pos (hk ▸ Std.ReflOrd.compare_self)]
      · rw [if_neg hk, if_neg fun heq => hk (Std.LawfulEqOrd.eq_of_compare heq).symm]
        rfl

/-- Nothing that is left compares equal to a document of the erased key. -/
theorem compare_ne_of_mem_erase {self : DocumentSet cmp} {document a : Document κ δ}
    (ha : a ∈ (self.erase document.key).sortedSet) : cmp.compare a document ≠ .eq := by
  classical
  intro heq
  have hget := mem_sortedSet.1 ha
  rw [getDocument_erase, if_pos (cmp.key_eq heq)] at hget
  cases hget

def insert (self : DocumentSet cmp) (document : Document κ δ) : DocumentSet cmp :=
  -- any prior document of the key goes first, so that the sorted set gains no second one
  let removed := self.erase document.key
  { index := removed.index.insert document.key document
    sortedSet := SortedList.insert cmp.compare document removed.sortedSet
    index_eq_some := by
      intro k d
      rw [Std.TreeMap.getElem?_insert, SortedList.mem_insert]
      split
      · next heq =>
          cases Std.LawfulEqOrd.eq_of_compare heq
          constructor
          · intro hd
            cases hd
            exact ⟨.inl rfl, rfl⟩
          · rintro ⟨rfl | hd, hkey⟩
            · rfl
            · classical
              have hget := mem_sortedSet.1 hd
              rw [getDocument_erase, if_pos hkey] at hget
              cases hget
      · next hne =>
          rw [removed.index_eq_some]
          constructor
          · rintro ⟨hd, rfl⟩
            exact ⟨.inr hd, rfl⟩
          · rintro ⟨rfl | hd, rfl⟩
            · exact absurd Std.ReflOrd.compare_self hne
            · exact ⟨hd, rfl⟩
    ascending := removed.ascending.insert fun _ ha heq =>
      compare_ne_of_mem_erase ha (Std.OrientedCmp.eq_symm heq) }

theorem getDocument_insert {self : DocumentSet cmp} [DecidableEq κ] {document : Document κ δ}
    {k : κ} : (self.insert document).getDocument k =
      if k = document.key then some document else self.getDocument k := by
  rw [insert, getDocument, Std.TreeMap.getElem?_insert]
  simp only [Std.LawfulEqOrd.compare_eq_iff_eq]
  split
  · next heq =>
      rw [if_pos heq.symm]
  · next hne =>
      rw [if_neg (Ne.symm hne)]
      exact getDocument_erase.trans (if_neg (Ne.symm hne))

/-! ## The documents in order -/

/-- Erasing a key is deleting at its index. -/
theorem erase_sortedSet {self : DocumentSet cmp} {key : κ} {i : Nat}
    (h : self.indexOf key = some i) :
    i < self.sortedSet.length ∧ (self.erase key).sortedSet = self.sortedSet.eraseIdx i := by
  rcases indexOf_eq_some h with ⟨document, hget, hindex⟩
  rcases SortedList.erase_eq_eraseIdx hindex with ⟨hlt, herase⟩
  refine ⟨hlt, ?_⟩
  rw [← herase, erase]
  split
  · next hnone =>
      cases hnone.symm.trans hget
  · next d hd =>
      cases hd.symm.trans hget
      rfl

/-- Inserting a document of a new key is inserting at the index it has afterwards. -/
theorem insert_sortedSet {self : DocumentSet cmp} {document : Document κ δ}
    (h : self.getDocument document.key = none) :
    ∃ i, (self.insert document).indexOf document.key = some i ∧ i ≤ self.sortedSet.length ∧
      (self.insert document).sortedSet = self.sortedSet.insertIdx i document := by
  classical
  have herase : (self.erase document.key).sortedSet = self.sortedSet := by
    refine sortedSet_eq_of_getDocument fun key => ?_
    rw [getDocument_erase]
    split
    · next heq =>
        rw [heq, h]
    · rfl
  have hne : ∀ a ∈ self.sortedSet, cmp.compare a document ≠ .eq := by
    intro a ha
    exact compare_ne_of_mem_erase (herase.symm ▸ ha)
  rcases SortedList.insert_eq_insertIdx hne with ⟨i, hindex, hle, hinsert⟩
  have hset : (self.insert document).sortedSet =
      SortedList.insert cmp.compare document self.sortedSet := by
    rw [← herase, insert]
  refine ⟨i, ?_, hle, hset.trans hinsert⟩
  rw [indexOf, getDocument_insert, if_pos rfl, hset]
  exact hindex

theorem size_eq_length (self : DocumentSet cmp) : self.size = self.sortedSet.length := by
  have hnodup : self.index.toList.Nodup := (nodup_keys_toList self.index).of_map
  have hpairs : (self.sortedSet.map fun document => (document.key, document)).Nodup :=
    self.ascending.nodup.map fun a b hab => (Prod.ext_iff.1 hab).2
  have hperm : self.index.toList.Perm
      (self.sortedSet.map fun document => (document.key, document)) := by
    refine (List.perm_ext_iff_of_nodup hnodup hpairs).2 fun ⟨key, document⟩ => ?_
    rw [Std.TreeMap.mem_toList_iff_getElem?_eq_some, self.index_eq_some, List.mem_map]
    constructor
    · rintro ⟨hmem, rfl⟩
      exact ⟨document, hmem, rfl⟩
    · rintro ⟨d, hmem, hd⟩
      cases hd
      exact ⟨hmem, rfl⟩
  rw [size, ← Std.TreeMap.length_toList, hperm.length_eq, List.length_map]

/-! ## What the set stores -/

inductive Operation (κ δ : Type)
  | insert (document : Document κ δ)
  | erase (key : κ)

def apply (self : DocumentSet cmp) : Operation κ δ → DocumentSet cmp
  | .insert document => self.insert document
  | .erase key => self.erase key

/-- One document for each key, the last one put there. -/
def put [DecidableEq κ] (store : κ → Option (Document κ δ)) :
    Operation κ δ → κ → Option (Document κ δ)
  | .insert document => Function.update store document.key (some document)
  | .erase key => Function.update store key none

theorem getDocument_apply [DecidableEq κ] {self : DocumentSet cmp}
    {store : κ → Option (Document κ δ)} (h : self.getDocument = store) (op : Operation κ δ) :
    (self.apply op).getDocument = put store op := by
  funext k
  cases op with
  | insert document =>
      rw [apply, getDocument_insert, put, Function.update_apply, h]
  | erase key =>
      rw [apply, getDocument_erase, put, Function.update_apply, h]

/-- After any operations on an empty set the documents found by key are the last ones put there; the
ordered documents are the same ones, ascending, and the index of a key is where its document
stands among them. -/
theorem refines_store [DecidableEq κ] (cmp : DocumentComparator κ δ) (ops : List (Operation κ δ)) :
    ∃ (set : DocumentSet cmp) (store : κ → Option (Document κ δ)),
      ops.foldl apply (empty cmp) = set ∧ ops.foldl put (fun _ => none) = store ∧
      (∀ key, set.getDocument key = store key) ∧
      (∀ document, document ∈ set.sortedSet ↔ store document.key = some document) ∧
      SortedList.Ascending cmp.compare set.sortedSet ∧
      set.size = set.sortedSet.length ∧
      ∀ key i, set.indexOf key = some i ↔
        ∃ document, store key = some document ∧ set.sortedSet[i]? = some document := by
  have hrun : ∀ (ops : List (Operation κ δ)) (set : DocumentSet cmp)
      (store : κ → Option (Document κ δ)), set.getDocument = store →
        (ops.foldl apply set).getDocument = ops.foldl put store := by
    intro ops
    induction ops with
    | nil =>
        exact fun _ _ h => h
    | cons op ops ih =>
        exact fun _ _ h => ih _ _ (getDocument_apply h op)
  have hempty : (empty cmp : DocumentSet cmp).getDocument = fun _ => none :=
    funext fun _ => Std.TreeMap.getElem?_emptyc
  have hget := hrun ops (empty cmp) (fun _ => none) hempty
  refine ⟨_, _, rfl, rfl, congrFun hget, ?_, DocumentSet.ascending _, size_eq_length _, ?_⟩
  · intro document
    rw [mem_sortedSet, hget]
  · intro key i
    rw [← congrFun hget key]
    constructor
    · intro hi
      rcases indexOf_eq_some hi with ⟨document, hdoc, hindex⟩
      refine ⟨document, hdoc, ?_⟩
      exact ((DocumentSet.ascending _).indexOf_eq_some_iff (getDocument_eq_some.1 hdoc).1).1 hindex
    · rintro ⟨document, hdoc, hi⟩
      rw [indexOf, hdoc]
      exact ((DocumentSet.ascending _).indexOf_eq_some_iff (getDocument_eq_some.1 hdoc).1).2 hi

/-- Documents by key; the second insertion of a key replaces the first. -/
theorem refines_store_example :
    ∃ (cmp : DocumentComparator Nat String) (set : DocumentSet cmp),
      [.insert ⟨2, "b", .synced⟩, .insert ⟨1, "a", .synced⟩, .insert ⟨2, "c", .synced⟩].foldl apply
        (empty cmp) = set ∧ set.size = set.sortedSet.length ∧
      set.sortedSet.map Document.data = ["a", "c"] := by
  let cmp : DocumentComparator Nat String :=
    { compare := compareOn Document.key
      trans := inferInstance
      key_eq := Std.LawfulEqOrd.eq_of_compare
      congr := fun hlhs _ hrhs _ => by rw [compareOn, compareOn, hlhs, hrhs] }
  rcases refines_store cmp [.insert ⟨2, "b", .synced⟩, .insert ⟨1, "a", .synced⟩,
    .insert ⟨2, "c", .synced⟩] with ⟨set, store, hset, -, -, -, -, hsize, -⟩
  refine ⟨cmp, set, hset, hsize, ?_⟩
  rw [← hset]
  decide +kernel

end DocumentSet

end Firestore
end MoviePlayList
