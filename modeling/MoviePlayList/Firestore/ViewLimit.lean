import MoviePlayList.Firestore.Query
import MoviePlayList.Firestore.ViewRuns

/-!
# ViewLimit — a limited view agrees with the query run over everything

A view with a limit keeps only the documents it shows and updates them change by change; what it
dropped it has to find again in the local store, when a document leaves a full result or moves past
its edge (`needs_refill`).

The other way to the same result is to run the query over every document of the local store and take
the first or the last ones.  In every run both agree: there are documents that mirror the store, up
to those that wait for the server's version of what was written here, and the view holds the leading
ones (`run_leading`).  So the refill is asked for whenever it is needed, and never a second time.
-/

namespace MoviePlayList
namespace Firestore
namespace Core

variable {κ δ : Type}

/-! ## The leading documents -/

namespace Query

/-- The order in which documents stay in a limited result: from the front or from the back. -/
def ahead (query : Query κ δ) : Document κ δ → Document κ δ → Ordering :=
  if query.limitType = .last then fun a b => query.comparator.compare b a
  else query.comparator.compare

instance (query : Query κ δ) : Std.TransCmp query.ahead := by
  unfold ahead
  split
  · exact Std.TransCmp.opposite
  · infer_instance

theorem ahead_congr (query : Query κ δ) {a a' b : Document κ δ} (hkey : a.key = a'.key)
    (hdata : a.data = a'.data) : query.ahead a b = query.ahead a' b := by
  unfold ahead
  split
  · exact query.comparator.congr rfl rfl hkey hdata
  · exact query.comparator.congr hkey hdata rfl rfl

end Query

variable [Ord κ]

/-- The set holds the leading ones of the stored documents: what is left out comes after all of
them, and only where the limit is reached. -/
structure Leading (query : Query κ δ) (set : DocumentSet query.comparator)
    (store : κ → Option (Document κ δ)) : Prop where
  stored : ∀ {key document}, set.getDocument key = some document → store key = some document
  limited : query.limitType ≠ .none → set.size ≤ query.limit
  full : ∀ {document}, store document.key = some document →
    set.getDocument document.key = none → query.limitType ≠ .none ∧ set.size = query.limit
  ahead : ∀ {a document}, a ∈ set.sortedSet → store document.key = some document →
    set.getDocument document.key = none → query.ahead a document = .lt

namespace View

variable [Std.TransOrd κ] [Std.LawfulEqOrd κ] [DecidableEq κ] {query : Query κ δ}

omit [Ord κ] [Std.TransOrd κ] [Std.LawfulEqOrd κ] [DecidableEq κ] in
theorem cut_zero (documents : List (Document κ δ)) : cut query 0 documents = documents := by
  simp [cut]

omit [Ord κ] [Std.TransOrd κ] [Std.LawfulEqOrd κ] [DecidableEq κ] in
/-- What is cut off comes after what stays. -/
theorem ahead_of_cut {n : Nat} {documents : List (Document κ δ)} (hlimit : query.limitType ≠ .none)
    (hsorted : SortedList.Ascending query.comparator.compare documents) {a b : Document κ δ}
    (ha : a ∈ cut query n documents) (hb : b ∈ documents) (hout : b ∉ cut query n documents) :
    query.ahead a b = .lt := by
  unfold cut at ha hout
  by_cases hfirst : query.limitType = .first
  · rw [if_pos hfirst] at ha hout
    rw [SortedList.Ascending, ← List.take_append_drop (documents.length - n) documents,
      List.pairwise_append] at hsorted
    rw [← List.take_append_drop (documents.length - n) documents, List.mem_append] at hb
    rw [Query.ahead, if_neg (by rw [hfirst]; decide)]
    exact hsorted.2.2 a ha b (hb.resolve_left hout)
  · have hlast : query.limitType = .last := by
      cases h : query.limitType with
      | none => exact absurd h hlimit
      | first => exact absurd h hfirst
      | last => rfl
    rw [if_neg hfirst] at ha hout
    rw [SortedList.Ascending, ← List.take_append_drop n documents, List.pairwise_append] at hsorted
    rw [← List.take_append_drop n documents, List.mem_append] at hb
    rw [Query.ahead, if_pos hlast]
    exact hsorted.2.2 b (hb.resolve_right hout) a ha

omit [DecidableEq κ] in
/-- Cutting down to the limit leaves the leading documents. -/
theorem leading_cut {full result : DocumentSet query.comparator}
    (h : result.sortedSet = cut query (excess query full) full.sortedSet) :
    Leading query result full.getDocument := by
  have hsize : result.size = full.size - excess query full := by
    rw [DocumentSet.size_eq_length, DocumentSet.size_eq_length, h, length_cut]
  have hout : ∀ {document}, result.getDocument document.key = none →
      document ∉ cut query (excess query full) full.sortedSet := by
    intro document hnone hmem
    rw [← h] at hmem
    cases hnone.symm.trans (DocumentSet.mem_sortedSet.1 hmem)
  have hlimit : ∀ {document}, full.getDocument document.key = some document →
      result.getDocument document.key = none → excess query full ≠ 0 := by
    intro document hdoc hnone hzero
    refine hout hnone ?_
    rw [hzero, cut_zero]
    exact DocumentSet.mem_sortedSet.2 hdoc
  have hlimited : excess query full ≠ 0 → query.limitType ≠ .none := by
    intro hne hnone
    exact hne (if_pos hnone)
  refine ⟨?_, fun hne => ?_, fun hdoc hnone => ?_, fun ha hdoc hnone => ?_⟩
  · intro key document hdoc
    have hmem := DocumentSet.getDocument_eq_some.1 hdoc
    rw [h] at hmem
    exact DocumentSet.getDocument_eq_some.2 ⟨mem_of_mem_cut hmem.1, hmem.2⟩
  · rw [hsize, excess, if_neg hne]
    omega
  · have hne := hlimit hdoc hnone
    have hsome := hlimited hne
    refine ⟨hsome, ?_⟩
    rw [excess, if_neg hsome] at hne
    rw [hsize, excess, if_neg hsome]
    omega
  · rw [h] at ha
    exact ahead_of_cut (hlimited (hlimit hdoc hnone)) full.ascending ha
      (DocumentSet.mem_sortedSet.2 hdoc) (hout hnone)

/-! ## The edge of a full result -/

omit [Std.TransOrd κ] [Std.LawfulEqOrd κ] [DecidableEq κ] in
/-- A full result with a document in it has an edge, the document that all others come before;
losing a document, or seeing one move past the edge, asks for a refill. -/
theorem exists_edge {set : DocumentSet query.comparator} (hlimit : query.limitType ≠ .none)
    (hfull : set.size = query.limit) (hne : set.sortedSet ≠ []) :
    ∃ edge ∈ set.sortedSet, (∀ b ∈ set.sortedSet, (query.ahead b edge).isLE) ∧
      ((lastDocInLimit set).isSome || (firstDocInLimit set).isSome) = true ∧
      ∀ document, movedOut query (lastDocInLimit set) (firstDocInLimit set) document =
        decide (query.ahead document edge = .gt) := by
  have hself : ∀ a : Document κ δ, query.ahead a a = .eq := fun a => Std.ReflCmp.compare_self
  have hsorted := set.ascending
  by_cases hfirst : query.limitType = .first
  · have hahead : query.ahead = query.comparator.compare := if_neg (by rw [hfirst]; decide)
    have hlast : lastDocInLimit set = some (set.sortedSet.getLast hne) := by
      rw [lastDocInLimit, if_pos ⟨hfirst, hfull⟩]
      exact List.getLast?_eq_some_getLast hne
    have hnone : firstDocInLimit set = none := if_neg (by rw [hfirst]; exact fun h => by cases h.1)
    refine ⟨_, List.getLast_mem hne, fun b hb => ?_, ?_, fun document => ?_⟩
    · rw [← List.dropLast_append_getLast hne] at hb hsorted
      rcases List.mem_append.1 hb with hb | hb
      · have hlt := (List.pairwise_append.1 hsorted).2.2 b hb _ (List.mem_singleton_self _)
        rw [hahead, hlt]
        rfl
      · rw [List.mem_singleton.1 hb, hself]
        rfl
    · rw [hlast]
      rfl
    · rw [hlast, hnone, movedOut, hahead]
      exact Bool.or_false _
  · have hlastType : query.limitType = .last := by
      cases h : query.limitType with
      | none => exact absurd h hlimit
      | first => exact absurd h hfirst
      | last => rfl
    have hahead : query.ahead = fun a b => query.comparator.compare b a := if_pos hlastType
    have hhead : firstDocInLimit set = some (set.sortedSet.head hne) := by
      rw [firstDocInLimit, if_pos ⟨hlastType, hfull⟩]
      exact List.head?_eq_some_head hne
    have hnone : lastDocInLimit set = none := if_neg (by rw [hlastType]; exact fun h => by cases h.1)
    refine ⟨_, List.head_mem hne, fun b hb => ?_, ?_, fun document => ?_⟩
    · rw [← List.cons_head_tail hne] at hb hsorted
      rcases List.mem_cons.1 hb with hb | hb
      · rw [hb, hself]
        rfl
      · have hlt := (List.pairwise_cons.1 hsorted).1 b hb
        rw [hahead]
        dsimp only
        rw [hlt]
        rfl
    · rw [hhead]
      exact Bool.or_true _
    · rw [hhead, hnone, movedOut, hahead]
      simp [Std.OrientedCmp.gt_iff_lt]

/-! ## Updating without a refill -/

variable [DecidableEq δ]

/-- What is shown of a document that is known: the document itself, if the query matches it, or one
that stays in its place. -/
def Shows (query : Query κ δ) (known shown : Option (Document κ δ)) : Prop :=
  shown = known.filter query.accepts ∨ ∃ before after, shown = some before ∧
    known.filter query.accepts = some after ∧ Stays before after

omit [Ord κ] [Std.TransOrd κ] [Std.LawfulEqOrd κ] [DecidableEq κ] in
theorem Takes.shows {oldDoc maybeNewDoc result : Option (Document κ δ)}
    (h : Takes query oldDoc maybeNewDoc result) : Shows query maybeNewDoc result := by
  rcases h with ⟨hnew, -⟩ | ⟨hold, before, after, hbefore, hafter, hstays⟩
  · exact .inl hnew
  · exact .inr ⟨before, after, hold.trans hbefore, hafter, hstays⟩

/-- The documents after a change, where `store` was known before. -/
def changed (docChanges : MaybeDocumentMap κ δ) (full : DocumentSet query.comparator)
    (store : κ → Option (Document κ δ)) (key : κ) : Option (Document κ δ) :=
  if docChanges.contains key then full.getDocument key else store key

omit [Std.TransOrd κ] [Std.LawfulEqOrd κ] [DecidableEq κ] in
/-- As long as no refill is asked for, the documents of a full result stay before its edge. -/
theorem Computes.before_edge {old full : DocumentSet query.comparator}
    {docChanges : MaybeDocumentMap κ δ} {result : ViewDocumentChanges query.comparator}
    (h : Computes old docChanges full result) (hkeyed : Keyed docChanges)
    (hno : result.needsRefill = false)
    {edge : Document κ δ} (hedge : ∀ b ∈ old.sortedSet, (query.ahead b edge).isLE)
    (hlost : ((lastDocInLimit old).isSome || (firstDocInLimit old).isSome) = true)
    (hmoved : ∀ document, movedOut query (lastDocInLimit old) (firstDocInLimit old) document =
      decide (query.ahead document edge = .gt))
    {key : κ} {before : Document κ δ} (hbefore : old.getDocument key = some before) :
    ∃ after, full.getDocument key = some after ∧ (query.ahead after edge).isLE := by
  have hle : (query.ahead before edge).isLE :=
    hedge before (DocumentSet.getDocument_eq_some.1 hbefore).1
  cases hchanged : docChanges[key]? with
  | none =>
      exact ⟨before, (h.others hchanged).trans hbefore, hle⟩
  | some maybeNewDoc =>
      have hask : ¬ asksRefill query (lastDocInLimit old) (firstDocInLimit old) (some before)
          maybeNewDoc := by
        intro hask
        rw [← hbefore] at hask
        have hyes := h.refill.2 ⟨key, maybeNewDoc, hchanged, hask⟩
        exact Bool.false_ne_true (hno.symm.trans hyes)
      have htakes := h.takes hchanged
      rw [hbefore] at htakes
      rcases htakes with ⟨hnew, hwait⟩ | ⟨hsame, -⟩
      · cases hfilter : maybeNewDoc.filter query.accepts with
        | none =>
            refine absurd ?_ hask
            simp only [asksRefill, hfilter]
            exact hlost
        | some after =>
            refine ⟨after, hnew.trans hfilter, ?_⟩
            have hkey : before.key = after.key :=
              (DocumentSet.key_of_getDocument hbefore).trans (hkeyed key after
                ((Option.filter_eq_some_iff.1 hfilter).1 ▸ hchanged)).symm
            by_cases hdata : before.data = after.data
            · rw [← query.ahead_congr hkey hdata]
              exact hle
            · have hnowait : shouldWaitForSyncedDocument after before = false := by
                rw [← Bool.not_eq_true]
                exact fun hw => hdata (hwait before after rfl hfilter hw)
              simp only [asksRefill, hfilter, hnowait, hmoved] at hask
              rw [Ordering.isLE_iff_ne_gt]
              simpa [hdata] using hask
      · exact ⟨before, hsame, hle⟩

/-- A full result that needs no refill stays full, before everything its documents came before. -/
theorem Computes.stays_full {old full : DocumentSet query.comparator}
    {docChanges : MaybeDocumentMap κ δ} {result : ViewDocumentChanges query.comparator}
    (h : Computes old docChanges full result) (hkeyed : Keyed docChanges)
    (hno : result.needsRefill = false) (hlimit : query.limitType ≠ .none)
    (hfull : old.size = query.limit) :
    result.documentSet.size = query.limit ∧ ∀ x ∈ result.documentSet.sortedSet, ∀ document,
      (∀ a ∈ old.sortedSet, query.ahead a document = .lt) → query.ahead x document = .lt := by
  have hcut := leading_cut h.cut
  have hle : result.documentSet.size ≤ query.limit := hcut.limited hlimit
  rw [DocumentSet.size_eq_length] at hfull hle ⊢
  by_cases hne : old.sortedSet = []
  · -- a limit of nothing
    rw [hne, List.length_nil] at hfull
    rw [← hfull, Nat.le_zero, List.length_eq_zero_iff] at hle
    rw [hle]
    exact ⟨hfull, nofun⟩
  · rcases exists_edge hlimit (hfull ▸ old.size_eq_length) hne with
      ⟨edge, hedge, hlast, hlost, hmoved⟩
    have hbefore : ∀ a ∈ old.sortedSet, ∃ after, full.getDocument a.key = some after ∧
        (query.ahead after edge).isLE := by
      intro a ha
      exact h.before_edge hkeyed hno hlast hlost hmoved (DocumentSet.mem_sortedSet.1 ha)
    -- the keys of the full result, if none of them has left it
    have hcount : (∀ a ∈ old.sortedSet, a.key ∈ result.documentSet.sortedSet.map Document.key) →
        old.sortedSet.map Document.key ⊆ result.documentSet.sortedSet.map Document.key := by
      intro hall key hkey
      rcases List.mem_map.1 hkey with ⟨a, ha, rfl⟩
      exact hall a ha
    have hkept : ∀ {x}, x ∈ result.documentSet.sortedSet → (query.ahead x edge).isLE := by
      intro x hx
      by_contra hgt
      rw [Ordering.isLE_iff_ne_gt, not_not] at hgt
      have hxfull := hcut.stored (DocumentSet.mem_sortedSet.1 hx)
      -- what comes before the edge comes before `x`, so it was not cut off
      have hall : ∀ a ∈ old.sortedSet,
          a.key ∈ result.documentSet.sortedSet.map Document.key := by
        intro a ha
        rcases hbefore a ha with ⟨after, hafter, hafterLe⟩
        have hak := DocumentSet.key_of_getDocument hafter
        rw [← hak] at hafter ⊢
        cases hin : result.documentSet.getDocument after.key with
        | none =>
            have hlt := hcut.ahead hx hafter hin
            have hback : query.ahead x edge = .lt := Std.TransCmp.lt_of_lt_of_isLE hlt hafterLe
            cases hgt.symm.trans hback
        | some d =>
            rcases DocumentSet.getDocument_eq_some.1 hin with ⟨hd, hdk⟩
            exact List.mem_map.2 ⟨d, hd, hdk⟩
      -- and `x` itself is a new one, one too many
      have hxnew : x.key ∉ old.sortedSet.map Document.key := by
        intro hmem
        rcases List.mem_map.1 hmem with ⟨a, ha, hak⟩
        rcases hbefore a ha with ⟨after, hafter, hafterLe⟩
        rw [hak, hxfull] at hafter
        cases hafter
        rw [hgt] at hafterLe
        cases hafterLe
      have hsub : x.key :: old.sortedSet.map Document.key ⊆
          result.documentSet.sortedSet.map Document.key :=
        List.cons_subset.2 ⟨List.mem_map.2 ⟨x, hx, rfl⟩, hcount hall⟩
      have hlength := (List.subperm_of_subset
        (List.nodup_cons.2 ⟨hxnew, old.nodup_keys⟩) hsub).length_le
      rw [List.length_cons, List.length_map, List.length_map, hfull] at hlength
      omega
    refine ⟨?_, ?_⟩
    · by_cases hall : ∀ a ∈ old.sortedSet, a.key ∈ result.documentSet.sortedSet.map Document.key
      · have hlength := (List.subperm_of_subset old.nodup_keys (hcount hall)).length_le
        rw [List.length_map, List.length_map, hfull] at hlength
        omega
      · simp only [not_forall] at hall
        rcases hall with ⟨a, ha, hnot⟩
        rcases hbefore a ha with ⟨after, hafter, -⟩
        have hak := DocumentSet.key_of_getDocument hafter
        rw [← hak] at hafter hnot
        have hnone : result.documentSet.getDocument after.key = none := by
          refine Option.eq_none_iff_forall_ne_some.2 fun d hd => hnot ?_
          rcases DocumentSet.getDocument_eq_some.1 hd with ⟨hmem, hk⟩
          exact List.mem_map.2 ⟨d, hmem, hk⟩
        have hsize := (hcut.full hafter hnone).2
        rw [DocumentSet.size_eq_length] at hsize
        exact hsize
    · intro x hx document hall
      exact Std.TransCmp.lt_of_isLE_of_lt (hkept hx) (hall edge hedge)

/-- Where no refill is asked for, the leading documents of what was known before are updated to the
leading documents of what is known now. -/
theorem Computes.leading {old full : DocumentSet query.comparator}
    {docChanges : MaybeDocumentMap κ δ} {result : ViewDocumentChanges query.comparator}
    (h : Computes old docChanges full result) (hkeyed : Keyed docChanges)
    (hno : result.needsRefill = false) {store : κ → Option (Document κ δ)}
    (hold : Leading query old store) :
    Leading query result.documentSet (changed docChanges full store) := by
  have hcut := leading_cut h.cut
  have hothers : ∀ {key}, docChanges.contains key = false → full.getDocument key =
      old.getDocument key := by
    intro key hnot
    exact h.others (Std.TreeMap.getElem?_eq_none_of_contains_eq_false hnot)
  -- a document that is left out was left out before, or is cut off now
  have hout : ∀ {document}, changed docChanges full store document.key = some document →
      result.documentSet.getDocument document.key = none →
      full.getDocument document.key = some document ∨
        (store document.key = some document ∧ old.getDocument document.key = none) := by
    intro document hdoc hnone
    unfold changed at hdoc
    split at hdoc
    · exact .inl hdoc
    · next hnot =>
        rw [hothers (Bool.eq_false_iff.2 hnot)]
        cases hin : old.getDocument document.key with
        | none => exact .inr ⟨hdoc, rfl⟩
        | some d => exact .inl ((hold.stored hin).symm.trans hdoc)
  refine ⟨?_, hcut.limited, fun hdoc hnone => ?_, fun ha hdoc hnone => ?_⟩
  · intro key document hdoc
    have hfull := hcut.stored hdoc
    unfold changed
    split
    · exact hfull
    · next hnot =>
        rw [hothers (Bool.eq_false_iff.2 hnot)] at hfull
        exact hold.stored hfull
  · rcases hout hdoc hnone with hfull | ⟨hstore, holdNone⟩
    · exact hcut.full hfull hnone
    · rcases hold.full hstore holdNone with ⟨hlimit, hsize⟩
      exact ⟨hlimit, (h.stays_full hkeyed hno hlimit hsize).1⟩
  · rcases hout hdoc hnone with hfull | ⟨hstore, holdNone⟩
    · exact hcut.ahead ha hfull hnone
    · rcases hold.full hstore holdNone with ⟨hlimit, hsize⟩
      exact (h.stays_full hkeyed hno hlimit hsize).2 _ ha _ fun a hmem =>
        hold.ahead hmem hstore holdNone

end View

/-! ## The local store -/

/-- The documents the local store knows of; one that it knows to be gone is `none`. -/
structure LocalDocuments (κ δ : Type) [Ord κ] where
  documents : MaybeDocumentMap κ δ
  keyed : View.Keyed documents

namespace LocalDocuments

/-- The document stored under a key. -/
def getDocument (self : LocalDocuments κ δ) (key : κ) : Option (Document κ δ) :=
  self.documents[key]?.join

variable [Std.TransOrd κ] [Std.LawfulEqOrd κ]

/-- The local store after some documents changed. -/
def apply (self docChanges : LocalDocuments κ δ) : LocalDocuments κ δ where
  documents := self.documents ∪ docChanges.documents
  keyed := by
    intro key document hdoc
    rw [Std.TreeMap.getElem?_union, Option.or_eq_some_iff] at hdoc
    rcases hdoc with hnew | ⟨-, hold⟩
    · exact docChanges.keyed key document hnew
    · exact self.keyed key document hold

/-- One document as the server has it; one that is gone is `none`. -/
def single (key : κ) (data : Option δ) : LocalDocuments κ δ where
  documents := (∅ : MaybeDocumentMap κ δ).insert key (data.map fun data => ⟨key, data, .synced⟩)
  keyed := by
    intro found document hdoc
    rw [Std.TreeMap.getElem?_insert] at hdoc
    split at hdoc
    · next heq =>
        cases Std.LawfulEqOrd.eq_of_compare heq
        rcases Option.map_eq_some_iff.1 (Option.some.inj hdoc) with ⟨data, -, rfl⟩
        rfl
    · simp at hdoc

/-- `ExecuteQuery`: all local documents matching the query, which is what a `QueryEngine` promises.
How `IndexFreeQueryEngine` finds them is not modelled. -/
def executeQuery (self : LocalDocuments κ δ) (query : Query κ δ) : LocalDocuments κ δ where
  documents := self.documents.filter fun _ document => document.any query.accepts
  keyed := by
    intro key document hdoc
    rw [Std.TreeMap.getElem?_filter', Option.filter_eq_some_iff] at hdoc
    exact self.keyed key document hdoc.1

end LocalDocuments

namespace View

variable [Std.TransOrd κ] [Std.LawfulEqOrd κ] [DecidableEq κ] [DecidableEq δ] {query : Query κ δ}

/-- Documents that show what the local store knows, each under its key. -/
def Mirrors (query : Query κ δ) (known : LocalDocuments κ δ) (store : κ → Option (Document κ δ)) :
    Prop :=
  ∀ key, Shows query (known.getDocument key) (store key)

omit [DecidableEq κ] in
/-- The query run over everything that is known: the result is full of the leading documents, and
asks for nothing else. -/
theorem Computes.scan {old full : DocumentSet query.comparator} {known : LocalDocuments κ δ}
    {result : ViewDocumentChanges query.comparator}
    (h : Computes old (known.executeQuery query).documents full result)
    (hold : ∀ {key document}, old.getDocument key = some document →
      Shows query (known.getDocument key) (some document)) :
    Mirrors query known full.getDocument ∧ result.needsRefill = false ∧
      Leading query result.documentSet full.getDocument := by
  have hfound : ∀ {key maybeNewDoc}, (known.executeQuery query).documents[key]? = some maybeNewDoc →
      known.getDocument key = maybeNewDoc := by
    intro key maybeNewDoc hscan
    rw [LocalDocuments.executeQuery, Std.TreeMap.getElem?_filter', Option.filter_eq_some_iff] at hscan
    rw [LocalDocuments.getDocument, hscan.1]
    rfl
  refine ⟨fun key => ?_, ?_, leading_cut h.cut⟩
  · cases hscan : (known.executeQuery query).documents[key]? with
    | some maybeNewDoc =>
        rw [hfound hscan]
        exact (h.takes hscan).shows
    | none =>
        -- a document that is not found is not matched, and was not shown
        have hnone : (known.getDocument key).filter query.accepts = none := by
          rw [LocalDocuments.executeQuery, Std.TreeMap.getElem?_filter'] at hscan
          rw [LocalDocuments.getDocument]
          cases hdoc : known.documents[key]? with
          | none => rfl
          | some maybeDoc =>
              rw [hdoc] at hscan
              cases maybeDoc with
              | none => rfl
              | some document => simpa [Option.filter] using hscan
        rw [h.others hscan]
        cases hin : old.getDocument key with
        | none => exact .inl hnone.symm
        | some document => exact hin ▸ hold hin
  · rw [← Bool.not_eq_true, h.refill]
    rintro ⟨key, maybeNewDoc, hscan, hask⟩
    cases hin : old.getDocument key with
    | none =>
        rw [hin] at hask
        cases hask
    | some before =>
        have hshows := hold hin
        rw [hfound hscan] at hshows
        rw [hin] at hask
        rcases hshows with hsame | ⟨shown, after, hshown, hafter, hstays⟩
        · simp [asksRefill, ← hsame] at hask
        · cases hshown
          rcases hstays with hdata | hwait
          · simp [asksRefill, hafter, hdata] at hask
          · simp [asksRefill, hafter, hwait] at hask

/-! ## Runs -/

/-- A query that is listened to, next to the local store. -/
structure Listening (query : Query κ δ) where
  localDocuments : LocalDocuments κ δ
  view : View query

/-- Documents changed, with what the target says of them; or the client went on- or offline. -/
inductive ViewEvent (κ δ : Type) [Ord κ]
  | changes (docChanges : LocalDocuments κ δ) (target : Option (TargetChange κ))
  | onlineState (offline : Bool)

/-- `CreateSynthesizedTargetChange` -/
def synthesizedTargetChange (current : Bool) : TargetChange κ where
  current := current
  addedDocuments := ∅
  modifiedDocuments := ∅
  removedDocuments := ∅

variable [ToString κ]

/-- `InitializeViewAndComputeSnapshot`; `current` is whether another query of the same target is
synced, if there is one. -/
def initializeView (query : Query κ δ) (known : LocalDocuments κ δ) (remoteKeys : Std.TreeSet κ)
    (current : Option Bool) : Except String (View query × ViewChange query.comparator) := do
  let view := View.init query remoteKeys
  let viewDocChanges ← view.computeDocumentChanges (known.executeQuery query).documents none
  view.applyChanges viewDocChanges (current.map synthesizedTargetChange)

/-- One event; documents that changed are in the local store before the view is told. -/
def Listening.play (self : Listening query) :
    ViewEvent κ δ → Except String (Listening query × ViewChange query.comparator)
  | .changes docChanges target => do
      let known := self.localDocuments.apply docChanges
      let (view, change) ← self.view.update docChanges.documents
        (known.executeQuery query).documents target
      return (⟨known, view⟩, change)
  | .onlineState offline => do
      let (view, change) ← self.view.applyOnlineStateChange offline
      return (⟨self.localDocuments, view⟩, change)

def Listening.step (self : Listening query) (event : ViewEvent κ δ) : Option (Listening query) :=
  match self.play event with
  | .ok (next, _) => some next
  | .error _ => none

/-- The view is consistent, and holds the leading ones of documents that mirror the local store. -/
structure Agrees (s : Listening query) : Prop where
  consistent : Consistent s.view
  leading : ∃ store, Mirrors query s.localDocuments store ∧
    Leading query s.view.documentSet store

omit [Std.LawfulEqOrd κ] [DecidableEq κ] [ToString κ] in
/-- Changed documents come on top of what was known, in the store and in its mirror. -/
theorem mirrors_changed {s : Listening query} {docChanges : LocalDocuments κ δ}
    {full : DocumentSet query.comparator} {result : ViewDocumentChanges query.comparator}
    (h : Computes s.view.documentSet docChanges.documents full result)
    {store : κ → Option (Document κ δ)} (hmirrors : Mirrors query s.localDocuments store) :
    Mirrors query (s.localDocuments.apply docChanges)
      (changed docChanges.documents full store) := by
  intro key
  rw [LocalDocuments.getDocument, LocalDocuments.apply, Std.TreeMap.getElem?_union, changed,
    Std.TreeMap.contains_eq_isSome_getElem?]
  cases hchanged : docChanges.documents[key]? with
  | none => exact hmirrors key
  | some maybeNewDoc => exact (h.takes hchanged).shows

/-- Whatever an update does, it applies changes that need no refill and agree with the local
store. -/
theorem update_applies {s : Listening query} (h : Agrees s) (docChanges : LocalDocuments κ δ)
    (target : Option (TargetChange κ)) :
    ∃ applied store, applied.needsRefill = false ∧ Tracks s.view.documentSet applied ∧
      (∀ document ∈ applied.documentSet.sortedSet, query.accepts document) ∧
      s.view.update docChanges.documents
          ((s.localDocuments.apply docChanges).executeQuery query).documents target =
        s.view.applyChanges applied target ∧
      Mirrors query (s.localDocuments.apply docChanges) store ∧
      Leading query applied.documentSet store := by
  rcases h.leading with ⟨store, hmirrors, hleading⟩
  rcases s.view.update_spec h.consistent docChanges.keyed
    ((s.localDocuments.apply docChanges).executeQuery query).keyed target with
    ⟨full, result, htracks, hcomputes, hplain, hagain⟩
  have haccepted := (hcomputes.bounds h.consistent.accepted).1
  have hchanged := mirrors_changed hcomputes hmirrors
  cases hneeds : result.needsRefill with
  | false =>
      exact ⟨result, _, hneeds, htracks, haccepted, hplain hneeds, hchanged,
        hcomputes.leading docChanges.keyed hneeds hleading⟩
  | true =>
      rcases hagain hneeds with ⟨again, refilled, htracks', hcomputes', hupdate⟩
      have hshown : ∀ {key document}, result.documentSet.getDocument key = some document →
          Shows query ((s.localDocuments.apply docChanges).getDocument key) (some document) := by
        intro key document hin
        have hfull := (leading_cut hcomputes.cut).stored hin
        have hsame : changed docChanges.documents full store key = some document := by
          unfold changed
          split
          · exact hfull
          · next hnot =>
              rw [hcomputes.others (Std.TreeMap.getElem?_eq_none_of_contains_eq_false
                (Bool.eq_false_iff.2 hnot))] at hfull
              exact hleading.stored hfull
        exact hsame ▸ hchanged key
      rcases hcomputes'.scan hshown with ⟨hscan, hno, hlead⟩
      rw [hno, if_neg Bool.false_ne_true] at hupdate
      exact ⟨refilled, _, hno, htracks', (hcomputes'.bounds haccepted).1, hupdate, hscan, hlead⟩

/-- A new view agrees with the local store and has a first snapshot to show. -/
theorem initializeView_spec (query : Query κ δ) (known : LocalDocuments κ δ)
    (remoteKeys : Std.TreeSet κ) (current : Option Bool) :
    ∃ view change, initializeView query known remoteKeys current = .ok (view, change) ∧
      Agrees ⟨known, view⟩ ∧ Emits (View.init query remoteKeys) view change ∧
      change.snapshot.isSome := by
  have hempty : ∀ key, (View.init query remoteKeys).documentSet.getDocument key = none :=
    fun key => Std.TreeMap.getElem?_emptyc
  have hmutated : (View.init query remoteKeys).MutatedKeys := by
    intro key
    constructor
    · exact fun hmem => absurd hmem Std.TreeSet.not_mem_emptyc
    · rintro ⟨document, hdoc, -⟩
      cases (hempty key).symm.trans hdoc
  rcases (View.init query remoteKeys).computeDocumentChanges_spec hmutated
    (known.executeQuery query).keyed none nofun with
    ⟨full, result, hresult, htracks, hcomputes⟩
  have hfirst : (View.init query remoteKeys).computeDocumentChanges
      (known.executeQuery query).documents none = .ok result := by
    rw [hresult]
    exact if_neg fun h => nomatch h.2
  rcases hcomputes.scan fun hin => nomatch (hempty _).symm.trans hin with ⟨hmirrors, hno, hleading⟩
  rcases hcomputes.bounds (fun document hmem => nomatch hmem) with ⟨haccepted, hlimited⟩
  cases happly : (View.init query remoteKeys).applyChanges result
      (current.map synthesizedTargetChange) with
  | error message =>
      -- a synthesized change modifies nothing
      rcases applyChanges_error hno happly with ⟨targetChange, key, htarget, hmem, -⟩
      rcases Option.map_eq_some_iff.1 htarget with ⟨_, -, rfl⟩
      exact absurd hmem Std.TreeSet.not_mem_emptyc
  | ok r =>
      rcases r with ⟨view, change⟩
      rcases applyChanges_spec htracks haccepted hlimited happly with ⟨hnext, hemits, hset, hsome⟩
      refine ⟨view, change, ?_, ⟨hnext, full.getDocument, hmirrors, hset ▸ hleading⟩, hemits, ?_⟩
      · simp only [initializeView, hfirst, happly, bind, Except.bind]
      · rw [Option.isSome_iff_ne_none]
        intro hnone
        exact hsome (hemits.silent hnone).1

/-- An update fails on nothing but a target change that modifies a document the target does not
have; a refill never asks for another one. -/
theorem play_changes {s : Listening query} (h : Agrees s) (docChanges : LocalDocuments κ δ)
    (target : Option (TargetChange κ)) :
    (∃ next change, s.play (.changes docChanges target) = .ok (next, change) ∧ Agrees next ∧
        Emits s.view next.view change) ∨
      ∃ targetChange key, target = some targetChange ∧ key ∈ targetChange.modifiedDocuments ∧
        key ∉ s.view.syncedDocuments ∧ key ∉ targetChange.addedDocuments ∧
        s.play (.changes docChanges target) =
          .error s!"Modified document {key} not found in view." := by
  rcases update_applies h docChanges target with
    ⟨applied, store, hno, htracks, haccepted, hupdate, hmirrors, hleading⟩
  cases happly : s.view.applyChanges applied target with
  | error message =>
      rcases applyChanges_error hno happly with ⟨targetChange, key, htarget, hmem, hold, hadd, rfl⟩
      refine .inr ⟨targetChange, key, htarget, hmem, hold, hadd, ?_⟩
      simp only [Listening.play, hupdate, happly, bind, Except.bind]
  | ok r =>
      rcases r with ⟨view, change⟩
      rcases applyChanges_spec htracks haccepted hleading.limited happly with
        ⟨hnext, hemits, hset, -⟩
      refine .inl ⟨⟨s.localDocuments.apply docChanges, view⟩, change, ?_,
        ⟨hnext, store, hmirrors, hset ▸ hleading⟩, hemits⟩
      simp only [Listening.play, hupdate, happly, bind, Except.bind]
      rfl

/-- Going on- or offline never fails, and leaves the documents and those in limbo as they are. -/
theorem play_onlineState {s : Listening query} (h : Agrees s) (offline : Bool) :
    ∃ next change, s.play (.onlineState offline) = .ok (next, change) ∧ Agrees next ∧
      Emits s.view next.view change ∧ change.limboChanges = [] := by
  cases hplay : s.view.applyOnlineStateChange offline with
  | error message =>
      unfold applyOnlineStateChange at hplay
      split at hplay
      · rcases applyChanges_error rfl hplay with ⟨_, _, hnone, -⟩
        cases hnone
      · cases hplay
  | ok r =>
      rcases r with ⟨view, change⟩
      rcases applyOnlineStateChange_spec h.consistent hplay with ⟨hnext, hemits, hset, hlimbo⟩
      rcases h.leading with ⟨store, hmirrors, hleading⟩
      refine ⟨⟨s.localDocuments, view⟩, change, ?_, ⟨hnext, store, hmirrors, hset ▸ hleading⟩,
        hemits, hlimbo⟩
      simp only [Listening.play, hplay, bind, Except.bind]
      rfl

/-- Every event a view can play leads from a view that agrees with the local store to another. -/
theorem play_agrees {s next : Listening query} {change : ViewChange query.comparator}
    {event : ViewEvent κ δ} (h : Agrees s) (hplay : s.play event = .ok (next, change)) :
    Agrees next ∧ Emits s.view next.view change := by
  cases event with
  | changes docChanges target =>
      rcases play_changes h docChanges target with
        ⟨next', change', hok, hnext, hemits⟩ | ⟨_, _, _, _, _, _, herror⟩
      · cases hok.symm.trans hplay
        exact ⟨hnext, hemits⟩
      · cases herror.symm.trans hplay
  | onlineState offline =>
      rcases play_onlineState h offline with ⟨next', change', hok, hnext, hemits, -⟩
      cases hok.symm.trans hplay
      exact ⟨hnext, hemits⟩

theorem step_agrees {s next : Listening query} {event : ViewEvent κ δ} (h : Agrees s)
    (hstep : s.step event = some next) : Agrees next := by
  unfold Listening.step at hstep
  split at hstep
  · next hplay =>
      cases hstep
      exact (play_agrees h hplay).1
  · cases hstep

/-- Once a document is gone, a view that is current has it not in limbo. -/
theorem deleted_not_limbo {s next : Listening query} (h : Agrees s) {key : κ}
    {target : Option (TargetChange κ)}
    (hstep : s.step (.changes (.single key none) target) = some next)
    (hcurrent : next.view.current) : key ∉ next.view.limboDocuments := by
  have hnext := step_agrees h hstep
  have hknown : next.localDocuments = s.localDocuments.apply (.single key none) := by
    simp only [Listening.step, Listening.play] at hstep
    cases hupdate : s.view.update (LocalDocuments.single key (none : Option δ)).documents
        ((s.localDocuments.apply (.single key none)).executeQuery query).documents target with
    | error message =>
        simp only [hupdate, bind, Except.bind] at hstep
        cases hstep
    | ok r =>
        simp only [hupdate, bind, Except.bind] at hstep
        cases hstep
        rfl
  have hgone : next.localDocuments.getDocument key = none := by
    rw [hknown, LocalDocuments.getDocument, LocalDocuments.apply, LocalDocuments.single,
      Std.TreeMap.getElem?_union, Std.TreeMap.getElem?_insert_self]
    rfl
  rcases hnext.leading with ⟨store, hmirrors, hleading⟩
  have hshown := hmirrors key
  rw [hgone] at hshown
  have hstore : store key = none := by
    rcases hshown with hnone | ⟨_, _, -, hafter, -⟩
    · exact hnone
    · cases hafter
  have hset : next.view.documentSet.getDocument key = none := by
    cases hget : next.view.documentSet.getDocument key with
    | none =>
        rfl
    | some document =>
        cases (hleading.stored hget).symm.trans hstore
  have hlimbo : next.view.limboDocuments.contains key = false := by
    rw [hnext.consistent.limbo hcurrent, shouldBeInLimbo, hset, ite_self]
  rw [← Std.TreeSet.contains_iff_mem, hlimbo]
  exact Bool.false_ne_true

/-- In every run of a view from its first snapshot on, the view holds the leading ones of documents
that mirror the local store, and the next documents that change are shown as well, unless the
target says that it modified a document that it never added. -/
theorem run_leading (query : Query κ δ) (known : LocalDocuments κ δ) (remoteKeys : Std.TreeSet κ)
    (current : Option Bool) (events : List (ViewEvent κ δ)) :
    ∃ view change, initializeView query known remoteKeys current = .ok (view, change) ∧
      ∀ s, Transition.run Listening.step ⟨known, view⟩ events = some s →
        Consistent s.view ∧
        (∃ store, Mirrors query s.localDocuments store ∧
          Leading query s.view.documentSet store) ∧
        ∀ docChanges target, (∃ next, s.step (.changes docChanges target) = some next) ∨
          ∃ targetChange key, target = some targetChange ∧
            key ∈ targetChange.modifiedDocuments ∧ key ∉ s.view.syncedDocuments ∧
            key ∉ targetChange.addedDocuments := by
  rcases initializeView_spec query known remoteKeys current with
    ⟨view, change, hinit, hagrees, -⟩
  refine ⟨view, change, hinit, fun s hrun => ?_⟩
  have h : Agrees s := Transition.run_invariant step_agrees hagrees hrun
  refine ⟨h.consistent, h.leading, fun docChanges target => ?_⟩
  rcases play_changes h docChanges target with
    ⟨next, change', hok, -⟩ | ⟨targetChange, key, htarget, hmem, hold, hadd, -⟩
  · refine .inl ⟨next, ?_⟩
    rw [Listening.step, hok]
  · exact .inr ⟨targetChange, key, htarget, hmem, hold, hadd⟩

/-! ## An example -/

/-- The two smallest notes of a collection. -/
def twoSmallest : Query ResourcePath Nat where
  accepts := fun _ => true
  comparator := CollectionQuery.comparator [⟨.field (), .ascending⟩, ⟨.key, .ascending⟩]
    ⟨⟨.key, .ascending⟩, by simp, rfl⟩ fun number _ => some number
  limitType := .first
  limit := 2

/-- When the smallest of three notes goes, the refill finds the one that was left out. -/
theorem run_leading_example :
    let known := ((LocalDocuments.single ["notes", "a"] (some 1)).apply
      (.single ["notes", "b"] (some 2))).apply (.single ["notes", "c"] (some 3))
    ∃ view change, initializeView twoSmallest known ∅ none = .ok (view, change) ∧
      view.documentSet.sortedSet.map Document.data = [1, 2] ∧
      ∃ s, Transition.run Listening.step ⟨known, view⟩
          [.changes (.single ["notes", "a"] none) none, .onlineState true] = some s ∧
        s.view.documentSet.sortedSet.map Document.data = [2, 3] ∧
        ∃ store, Mirrors twoSmallest s.localDocuments store ∧
          Leading twoSmallest s.view.documentSet store := by
  intro known
  rcases run_leading twoSmallest known ∅ none
    [.changes (.single ["notes", "a"] none) none, .onlineState true] with
    ⟨view, change, hinit, hrun⟩
  have hfirst : ((initializeView twoSmallest known ∅ none).toOption.map fun r =>
      r.1.documentSet.sortedSet.map Document.data) = some [1, 2] := by
    decide +kernel
  have hlast : ((initializeView twoSmallest known ∅ none).toOption.bind fun r =>
      (Transition.run Listening.step ⟨known, r.1⟩
        [.changes (.single ["notes", "a"] none) none, .onlineState true]).map fun s =>
          s.view.documentSet.sortedSet.map Document.data) = some [2, 3] := by
    decide +kernel
  rw [hinit] at hfirst hlast
  rcases Option.map_eq_some_iff.1 hlast with ⟨s, hs, hdata⟩
  exact ⟨view, change, hinit, Option.some.inj hfirst, s, hs, hdata, (hrun s hs).2.1⟩

end View
end Core
end Firestore
end MoviePlayList
