import MoviePlayList.Firestore.FieldFilter
import MoviePlayList.Firestore.View

/-!
# Query — which documents belong to a query, and in which order

A query over a collection lists filters and explicit orders; `order_bys` completes them with the
field of an inequality filter and with the key, so that no two documents are equal.  Comparing
documents on a field that one of them lacks is a failed `HARD_ASSERT`.  It never happens to
documents the query matches (`compareDocuments_eq`), which makes the query a `Query` a view can
keep.  Collection group queries and cursors are left out.

The fields of a document are read by `lookup`.
-/

namespace MoviePlayList
namespace Firestore
namespace Core

inductive Direction
  | ascending
  | descending
  deriving DecidableEq

def Direction.applyTo : Direction → Ordering → Ordering
  | .ascending, result => result
  | .descending, result => result.swap

structure OrderBy (φ : Type) where
  field : FieldPath φ
  direction : Direction
  deriving DecidableEq

variable {φ ν δ : Type} {lookup : δ → φ → Option ν}

/-! ## Comparing documents -/

section Compare

variable [Ord ν]

/-- `OrderBy::Compare` -/
def OrderBy.compareDocuments (lookup : δ → φ → Option ν) (orderBy : OrderBy φ)
    (lhs rhs : Document ResourcePath δ) : Except String Ordering :=
  match orderBy.field with
  | .key => .ok (orderBy.direction.applyTo (compare lhs.key rhs.key))
  | .field name =>
      match lookup lhs.data name, lookup rhs.data name with
      | some value1, some value2 => .ok (orderBy.direction.applyTo (compare value1 value2))
      | _, _ => .error "Trying to compare documents on fields that don't exist."

/-- The comparison `Query::Comparator` makes: the first order that tells the documents apart. -/
def compareDocuments (lookup : δ → φ → Option ν) :
    List (OrderBy φ) → Document ResourcePath δ → Document ResourcePath δ → Except String Ordering
  | [], _, _ => .ok .eq
  | orderBy :: ordering, lhs, rhs => do
      let comp ← orderBy.compareDocuments lookup lhs rhs
      if comp ≠ .eq then return comp
      else compareDocuments lookup ordering lhs rhs

/-- What one order sorts documents by; here a field may be missing. -/
def OrderBy.rank (lookup : δ → φ → Option ν) (orderBy : OrderBy φ)
    (lhs rhs : Document ResourcePath δ) : Ordering :=
  orderBy.direction.applyTo <|
    match orderBy.field with
    | .key => compare lhs.key rhs.key
    | .field name => compare (lookup lhs.data name) (lookup rhs.data name)

/-- The orders one after the other. -/
def rankAll (lookup : δ → φ → Option ν) :
    List (OrderBy φ) → Document ResourcePath δ → Document ResourcePath δ → Ordering
  | [], _, _ => .eq
  | orderBy :: ordering, lhs, rhs =>
      (orderBy.rank lookup lhs rhs).then (rankAll lookup ordering lhs rhs)

/-- On documents that have the fields, nothing fails and the comparison is the total one. -/
theorem compareDocuments_eq_rankAll {ordering : List (OrderBy φ)}
    {lhs rhs : Document ResourcePath δ}
    (hfields : ∀ orderBy ∈ ordering, ∀ name, orderBy.field = .field name →
      (lookup lhs.data name).isSome ∧ (lookup rhs.data name).isSome) :
    compareDocuments lookup ordering lhs rhs = .ok (rankAll lookup ordering lhs rhs) := by
  induction ordering with
  | nil =>
      rfl
  | cons orderBy ordering ih =>
      rcases List.forall_mem_cons.1 hfields with ⟨hhead, htail⟩
      have hone : orderBy.compareDocuments lookup lhs rhs = .ok (orderBy.rank lookup lhs rhs) := by
        rcases orderBy with ⟨field, direction⟩
        cases field with
        | key => rfl
        | field name =>
            rcases hhead name rfl with ⟨hlhs, hrhs⟩
            rcases Option.isSome_iff_exists.1 hlhs with ⟨value1, h1⟩
            rcases Option.isSome_iff_exists.1 hrhs with ⟨value2, h2⟩
            simp only [OrderBy.compareDocuments, OrderBy.rank, h1, h2]
            rfl
      simp only [compareDocuments, hone, bind, Except.bind, ih htail, rankAll]
      cases orderBy.rank lookup lhs rhs <;> rfl

/-- Only documents of one key are equal once the key is one of the orders. -/
theorem key_eq_of_rankAll {ordering : List (OrderBy φ)} {lhs rhs : Document ResourcePath δ}
    (hkey : ∃ orderBy ∈ ordering, orderBy.field = .key)
    (h : rankAll lookup ordering lhs rhs = .eq) : lhs.key = rhs.key := by
  induction ordering with
  | nil =>
      rcases hkey with ⟨_, hmem, _⟩
      cases hmem
  | cons orderBy ordering ih =>
      rw [rankAll, Ordering.then_eq_eq] at h
      rcases hkey with ⟨found, hmem, hfound⟩
      rcases List.mem_cons.1 hmem with rfl | hmem
      · refine Std.LawfulEqOrd.eq_of_compare ?_
        have hrank := h.1
        rw [OrderBy.rank, hfound] at hrank
        cases hdir : found.direction with
        | ascending =>
            rw [hdir] at hrank
            exact hrank
        | descending =>
            rw [hdir] at hrank
            exact Ordering.swap_eq_eq.1 hrank
      · exact ih ⟨found, hmem, hfound⟩ h.2

theorem rankAll_congr {ordering : List (OrderBy φ)} {lhs lhs' rhs rhs' : Document ResourcePath δ}
    (hlk : lhs.key = lhs'.key) (hld : lhs.data = lhs'.data) (hrk : rhs.key = rhs'.key)
    (hrd : rhs.data = rhs'.data) :
    rankAll lookup ordering lhs rhs = rankAll lookup ordering lhs' rhs' := by
  induction ordering with
  | nil =>
      rfl
  | cons orderBy ordering ih =>
      rw [rankAll, rankAll, ih, OrderBy.rank, OrderBy.rank, hlk, hld, hrk, hrd]

variable [Std.TransOrd ν]

instance (direction : Direction) {α : Type} {cmp : α → α → Ordering} [Std.TransCmp cmp] :
    Std.TransCmp fun a b => direction.applyTo (cmp a b) := by
  cases direction with
  | ascending =>
      exact inferInstanceAs (Std.TransCmp cmp)
  | descending =>
      have hswap : (fun a b => Direction.applyTo .descending (cmp a b)) = fun a b => cmp b a :=
        funext fun a => funext fun b => (@Std.OrientedCmp.eq_swap _ cmp _ b a).symm
      rw [hswap]
      exact Std.TransCmp.opposite

instance (orderBy : OrderBy φ) :
    Std.TransCmp fun lhs rhs : Document ResourcePath δ => orderBy.rank lookup lhs rhs := by
  rcases orderBy with ⟨field, direction⟩
  cases field with
  | key =>
      exact inferInstanceAs (Std.TransCmp fun lhs rhs => direction.applyTo
        (compareOn (fun document : Document ResourcePath δ => document.key) lhs rhs))
  | field name =>
      exact inferInstanceAs (Std.TransCmp fun lhs rhs => direction.applyTo
        (compareOn (fun document : Document ResourcePath δ => lookup document.data name) lhs rhs))

theorem transCmp_rankAll (ordering : List (OrderBy φ)) :
    Std.TransCmp fun lhs rhs : Document ResourcePath δ => rankAll lookup ordering lhs rhs := by
  induction ordering with
  | nil =>
      exact { eq_swap := rfl, isLE_trans := fun _ _ => rfl }
  | cons orderBy ordering ih =>
      exact inferInstanceAs (Std.TransCmp (compareLex (orderBy.rank lookup)
        (rankAll lookup ordering)))

/-- `Comparator` -/
def CollectionQuery.comparator (ordering : List (OrderBy φ))
    (hkey : ∃ orderBy ∈ ordering, orderBy.field = .key)
    (lookup : δ → φ → Option ν) : DocumentComparator ResourcePath δ where
  compare := rankAll lookup ordering
  trans := transCmp_rankAll ordering
  key_eq := key_eq_of_rankAll hkey
  congr := rankAll_congr

end Compare

/-! ## Building a query -/

variable [BaseValue ν]

/-- `Query` of a collection, without cursors. -/
structure CollectionQuery (lookup : δ → φ → Option ν) where
  path : ResourcePath
  filters : List (FieldFilter φ ν) := []
  explicitOrderBys : List (OrderBy φ) := []
  limitType : LimitType := .none
  limit : Nat := 0

namespace CollectionQuery

/-- `InequalityFilterField` -/
def inequalityFilterField (self : CollectionQuery lookup) : Option (FieldPath φ) :=
  (self.filters.find? fun filter => filter.isInequality).map fun filter => filter.field

/-- `FirstOrderByField` -/
def firstOrderByField (self : CollectionQuery lookup) : Option (FieldPath φ) :=
  self.explicitOrderBys.head?.map OrderBy.field

/-- `MatchesPathAndCollectionGroup` -/
def matchesPath (self : CollectionQuery lookup) (document : Document ResourcePath δ) : Bool :=
  if self.path.length % 2 = 0 then self.path = document.key
  else self.path.IsImmediateParentOf document.key

/-- `MatchesOrderBy` -/
def matchesOrderBy (self : CollectionQuery lookup) (document : Document ResourcePath δ) : Bool :=
  self.explicitOrderBys.all fun orderBy =>
    match orderBy.field with
    | .key => true
    | .field name => (lookup document.data name).isSome

/-- `MatchesFilters`: the loop over `filters_` -/
def matchesFilters (lookup : δ → φ → Option ν) (document : Document ResourcePath δ) :
    List (FieldFilter φ ν) → Except String Bool
  | [] => .ok true
  | filter :: filters => do
      if ← filter.matchesDocument lookup document then matchesFilters lookup document filters
      else return false

/-- `Matches` -/
def matchesDocument (self : CollectionQuery lookup) (document : Document ResourcePath δ) :
    Except String Bool :=
  if self.matchesPath document && self.matchesOrderBy document then
    matchesFilters lookup document self.filters
  else .ok false

/-- The documents of the query. -/
def accepts (self : CollectionQuery lookup) (document : Document ResourcePath δ) : Bool :=
  self.matchesDocument document = .ok true

variable (lookup) in
/-- Every filter decides, and all of them hold of a document that passes. -/
theorem matchesFilters_spec (document : Document ResourcePath δ)
    (filters : List (FieldFilter φ ν)) :
    ∃ answer, matchesFilters lookup document filters = .ok answer ∧
      (answer = true → ∀ filter ∈ filters, filter.matchesDocument lookup document = .ok true) := by
  induction filters with
  | nil =>
      exact ⟨true, rfl, fun _ filter hmem => by cases hmem⟩
  | cons filter filters ih =>
      rcases filter.matchesDocument_spec lookup document with ⟨first, hfirst, -⟩
      cases first with
      | false =>
          refine ⟨false, ?_, fun hyes => Bool.noConfusion hyes⟩
          simp only [matchesFilters, hfirst, bind, Except.bind]
          rfl
      | true =>
          rcases ih with ⟨answer, hanswer, hall⟩
          refine ⟨answer, ?_, fun hyes => List.forall_mem_cons.2 ⟨hfirst, hall hyes⟩⟩
          simp only [matchesFilters, hfirst, bind, Except.bind]
          exact hanswer

/-- Whether a document belongs to the query is decided without a failed assertion. -/
theorem matchesDocument_eq (self : CollectionQuery lookup) (document : Document ResourcePath δ) :
    self.matchesDocument document = .ok (self.accepts document) := by
  have hdecided : ∃ answer, self.matchesDocument document = .ok answer := by
    unfold matchesDocument
    split
    · rcases matchesFilters_spec lookup document self.filters with ⟨answer, hanswer, -⟩
      exact ⟨answer, hanswer⟩
    · exact ⟨false, rfl⟩
  rcases hdecided with ⟨answer, hanswer⟩
  rw [accepts, hanswer]
  cases answer <;> rfl

/-- A document of the query lies at its path, has the fields it sorts by and passes every filter. -/
theorem of_accepts {self : CollectionQuery lookup} {document : Document ResourcePath δ}
    (h : self.accepts document) :
    self.matchesPath document ∧ self.matchesOrderBy document ∧
      ∀ filter ∈ self.filters, filter.matchesDocument lookup document = .ok true := by
  have hmatches : self.matchesDocument document = .ok true := of_decide_eq_true h
  unfold matchesDocument at hmatches
  split at hmatches
  · next hboth =>
      rcases matchesFilters_spec lookup document self.filters with ⟨answer, hanswer, hall⟩
      rw [Bool.and_eq_true] at hboth
      exact ⟨hboth.1, hboth.2, hall (Except.ok.inj (hanswer.symm.trans hmatches))⟩
  · cases hmatches

variable [DecidableEq φ] [ToString φ]

/-- The explicit orders and, unless it is one of them, the key, in the direction of the last one. -/
def withKeyOrder (self : CollectionQuery lookup) : List (OrderBy φ) :=
  if self.explicitOrderBys.any fun orderBy => orderBy.field = .key then
    self.explicitOrderBys
  else
    let direction := (self.explicitOrderBys.getLast?.map OrderBy.direction).getD .ascending
    self.explicitOrderBys ++ [⟨.key, direction⟩]

/-- `order_bys` -/
def orderBys (self : CollectionQuery lookup) : Except String (List (OrderBy φ)) :=
  match self.inequalityFilterField, self.firstOrderByField with
  | some .key, none => .ok [⟨.key, .ascending⟩]
  | some (.field name), none => .ok [⟨.field name, .ascending⟩, ⟨.key, .ascending⟩]
  | some inequality, some first =>
      if inequality = first then .ok self.withKeyOrder
      else
        .error s!"First orderBy {first.canonicalString} should match inequality field {inequality.canonicalString}."
  | none, _ => .ok self.withKeyOrder

/-- The completed orders end in a total order, and every document the query matches has the fields
they sort by. -/
theorem orderBys_spec {self : CollectionQuery lookup} {ordering : List (OrderBy φ)}
    (h : self.orderBys = .ok ordering) :
    (∃ orderBy ∈ ordering, orderBy.field = .key) ∧
      ∀ document, self.accepts document → ∀ orderBy ∈ ordering, ∀ name,
        orderBy.field = .field name → (lookup document.data name).isSome := by
  have hexplicit : ∀ {document}, self.accepts document → ∀ orderBy ∈ self.explicitOrderBys, ∀ name,
      orderBy.field = .field name → (lookup document.data name).isSome := by
    intro document haccepts orderBy hmem name hfield
    have hone := List.all_eq_true.1 (of_accepts haccepts).2.1 orderBy hmem
    rw [hfield] at hone
    exact hone
  have hwith : (∃ orderBy ∈ self.withKeyOrder, orderBy.field = .key) ∧
      ∀ document, self.accepts document → ∀ orderBy ∈ self.withKeyOrder, ∀ name,
        orderBy.field = .field name → (lookup document.data name).isSome := by
    unfold withKeyOrder
    split
    · next hany =>
        rw [List.any_eq_true] at hany
        rcases hany with ⟨orderBy, hmem, hkey⟩
        exact ⟨⟨orderBy, hmem, of_decide_eq_true hkey⟩, fun document => hexplicit⟩
    · refine ⟨⟨_, List.mem_append_right _ (List.mem_singleton_self _), rfl⟩, ?_⟩
      intro document haccepts orderBy hmem name hfield
      rcases List.mem_append.1 hmem with hmem | hmem
      · exact hexplicit haccepts orderBy hmem name hfield
      · cases List.mem_singleton.1 hmem
        cases hfield
  unfold orderBys at h
  split at h
  · cases h
    refine ⟨⟨_, List.mem_singleton_self _, rfl⟩, fun document _ orderBy hmem name hfield => ?_⟩
    cases List.mem_singleton.1 hmem
    cases hfield
  · next name hinequality _ =>
      cases h
      refine ⟨⟨_, List.mem_cons_of_mem _ (List.mem_singleton_self _), rfl⟩, ?_⟩
      intro document haccepts orderBy hmem name' hfield
      rcases List.mem_cons.1 hmem with rfl | hmem
      · cases hfield
        -- the filter whose field it is accepts the document
        rw [inequalityFilterField, Option.map_eq_some_iff] at hinequality
        rcases hinequality with ⟨filter, hfound, hname⟩
        exact filter.isSome_of_matchesDocument hname
          ((of_accepts haccepts).2.2 filter (List.mem_of_find?_eq_some hfound))
      · cases List.mem_singleton.1 hmem
        cases hfield
  · split at h
    · cases h
      exact hwith
    · cases h
  · cases h
    exact hwith

variable [Std.TransOrd ν]

/-- The query as a view keeps it. -/
def toQuery (self : CollectionQuery lookup) : Except String (Query ResourcePath δ) :=
  match h : self.orderBys with
  | .error message => .error message
  | .ok ordering =>
      .ok { accepts := self.accepts
            comparator := comparator ordering (orderBys_spec h).1 lookup
            limitType := self.limitType
            limit := self.limit }

/-- Neither matching a document nor comparing two documents of the query fails, and the order of the
query is a total one, in which only documents of one key are equal. -/
theorem compareDocuments_eq {self : CollectionQuery lookup} {query : Query ResourcePath δ}
    (h : self.toQuery = .ok query) :
    ∃ ordering, self.orderBys = .ok ordering ∧
      (∀ document, self.matchesDocument document = .ok (query.accepts document)) ∧
      ∀ lhs rhs, query.accepts lhs → query.accepts rhs →
        compareDocuments lookup ordering lhs rhs = .ok (query.comparator.compare lhs rhs) := by
  unfold toQuery at h
  split at h
  · cases h
  · next ordering hordering =>
      cases h
      refine ⟨ordering, hordering, self.matchesDocument_eq, fun lhs rhs hlhs hrhs => ?_⟩
      refine compareDocuments_eq_rankAll fun orderBy hmem name hfield => ?_
      have hfields := (orderBys_spec hordering).2
      exact ⟨hfields lhs hlhs orderBy hmem name hfield, hfields rhs hrhs orderBy hmem name hfield⟩

/-! ## An example -/

/-- The null and the integers among the field values. -/
def NumberValue := Option Int

instance : BaseValue NumberValue where
  compare := fun lhs rhs : Option Int => compare lhs rhs
  type := fun value : Option Int => if value.isSome then .integer else .null
  equals := fun lhs rhs : Option Int => lhs = rhs
  isNan := fun _ => false
  contents := fun _ => []
  referenceKey := fun _ => []

instance : Std.TransOrd NumberValue := inferInstanceAs (Std.TransOrd (Option Int))

/-- The only field of a note, which it need not have. -/
def noteFields (number : Option NumberValue) : String → Option NumberValue := fun _ => number

/-- The notes with a number above one. -/
def aboveOne : CollectionQuery noteFields where
  path := ["notes"]
  filters := [⟨.field "number", .greaterThan, some 1, .fieldFilter, rfl⟩]

/-- They are sorted by their number, and a note without one is none of them. -/
theorem compareDocuments_eq_example :
    ∃ query ordering, aboveOne.toQuery = .ok query ∧ aboveOne.orderBys = .ok ordering ∧
      ordering = [⟨.field "number", .ascending⟩, ⟨.key, .ascending⟩] ∧
      query.accepts ⟨["notes", "c"], none, .synced⟩ = false ∧
      compareDocuments noteFields ordering
        ⟨["notes", "a"], some (some 3), .synced⟩ ⟨["notes", "b"], some (some 2), .synced⟩ = .ok .gt ∧
      query.comparator.compare ⟨["notes", "a"], some (some 3), .synced⟩
        ⟨["notes", "b"], some (some 2), .synced⟩ = .gt := by
  have hquery : ∃ query, aboveOne.toQuery = .ok query := ⟨_, rfl⟩
  rcases hquery with ⟨query, hquery⟩
  rcases compareDocuments_eq hquery with ⟨ordering, hordering, hmatches, hcompare⟩
  have hcompleted : ordering = [⟨.field "number", .ascending⟩, ⟨.key, .ascending⟩] :=
    (Except.ok.inj hordering).symm
  have haccepts : ∀ document answer, aboveOne.matchesDocument document = .ok answer →
      query.accepts document = answer :=
    fun document answer hanswer => Except.ok.inj ((hmatches document).symm.trans hanswer)
  have hgt : compareDocuments noteFields ordering
      ⟨["notes", "a"], some (some 3), .synced⟩ ⟨["notes", "b"], some (some 2), .synced⟩ =
        .ok .gt := by
    rw [hcompleted]
    rfl
  refine ⟨query, ordering, hquery, hordering, hcompleted, haccepts _ _ rfl, hgt, ?_⟩
  exact (Except.ok.inj (hgt.symm.trans (hcompare _ _ (haccepts _ _ rfl) (haccepts _ _ rfl)))).symm

end CollectionQuery

end Core
end Firestore
end MoviePlayList
