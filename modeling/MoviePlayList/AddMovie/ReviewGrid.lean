import MoviePlayList.AddMovie.ReviewListener
import MoviePlayList.Search.MakeListViewController

/-!
# ReviewGrid — the grid of a review screen under arbitrary snapshots

`ReviewListener` takes snapshots as Firestore promises them.  Here nothing is promised: a snapshot
brings any changes, or is nil.  The completion of `AddMovieViewController.downReviews` replaces the
list, reloads the collection view and scrolls to the last item; the collection view asks for
counts, cells and sizes whenever it lays itself out, also while it is reloaded and scrolled, and for
rows that were there at any earlier count.

No list passed on is empty, so the index scrolled to is never negative, and the list only grows, so
no row once reported is out of range.
-/

namespace MoviePlayList

/-- What the collection view asks of its data source and its layout delegate. -/
inductive LayoutRequest
  | numberOfItemsInSection
  | cellForItemAt (row : Nat)
  | sizeForItemAt (row : Nat)
  deriving DecidableEq

structure ReviewGrid where
  /-- `var reviews` of `Service.downReview` -/
  reviews : List Review := []
  /-- `AddMovieViewController.review` -/
  review : List Review := []
  /-- every list passed to the completion so far -/
  passed : List (List Review) := []
  /-- every count reported to the collection view so far -/
  reported : List Nat := []
  /-- every item index `scrollToItem` was called with so far -/
  scrolled : List Int := []
  trap : Option Trap := none
  deriving DecidableEq

namespace ReviewGrid

/-! ## The data source -/

/-- `collectionView(_:numberOfItemsInSection:)`; the collection view keeps what it is told. -/
def numberOfItemsInSection (self : ReviewGrid) : ReviewGrid :=
  { self with reported := self.reported ++ [self.review.length] }

/-- `review[indexPath.row]` -/
def subscript (self : ReviewGrid) (row : Nat) : Except Trap Review :=
  match self.review[row]? with
  | none => .error .indexOutOfRange
  | some review => .ok review

/-- `collectionView(_:cellForItemAt:)`: the review the cell is given. -/
def cellForItemAt (self : ReviewGrid) (row : Nat) : Except Trap Review := self.subscript row

/-- `collectionView(_:layout:sizeForItemAt:)`: the review of the cell that is measured. -/
def sizeForItemAt (self : ReviewGrid) (row : Nat) : Except Trap Review := self.subscript row

/-- The row was below some count the collection view was told. -/
def Reported (self : ReviewGrid) (row : Nat) : Prop := ∃ count ∈ self.reported, row < count

instance (self : ReviewGrid) (row : Nat) : Decidable (self.Reported row) :=
  inferInstanceAs (Decidable (∃ count ∈ self.reported, row < count))

/-- The screen after the answer to a request for a row. -/
def answered (self : ReviewGrid) : Except Trap Review → ReviewGrid
  | .ok _ => self
  | .error trap => { self with trap := some trap }

/-- One request; `none` for a row that was never reported. -/
def request (self : ReviewGrid) : LayoutRequest → Option ReviewGrid
  | .numberOfItemsInSection => some self.numberOfItemsInSection
  | .cellForItemAt row =>
      if self.Reported row then some (self.answered (self.cellForItemAt row)) else none
  | .sizeForItemAt row =>
      if self.Reported row then some (self.answered (self.sizeForItemAt row)) else none

/-- A layout pass. -/
def layout (self : ReviewGrid) (requests : List LayoutRequest) : Option ReviewGrid :=
  Transition.run request self requests

/-! ## The listener -/

/-- `collectionView.reloadData()` -/
def reloadData (self : ReviewGrid) : ReviewGrid := self.numberOfItemsInSection

/-- `collectionView.scrollToItem(at: [0, item], at: .bottom, animated: true)` -/
def scrollToItem (self : ReviewGrid) (item : Int) : ReviewGrid :=
  { self with scrolled := self.scrolled ++ [item] }

/-- The completion given by `AddMovieViewController.downReviews`. -/
def completion (self : ReviewGrid) (reviews : List Review) : ReviewGrid :=
  let shown := { self with passed := self.passed ++ [reviews], review := reviews }
  let reloaded := shown.reloadData
  reloaded.scrollToItem ((reloaded.review.length : Int) - 1)

/-- One change of a snapshot, the clock when it is decoded and what the collection view asks before
the next one. -/
structure Delivery where
  now : Timestamp
  change : ListEdit.Edit Dictionary
  requests : List LayoutRequest

/-- The body of `documentChanges.forEach` in `Service.downReview`. -/
def onChange (self : ReviewGrid) (now : Timestamp) (change : ListEdit.Edit Dictionary) :
    ReviewGrid :=
  match change with
  | .added _ dictionary =>
      let reviews := self.reviews ++ [Review.init now dictionary]
      { self with reviews := reviews }.completion reviews
  -- `change.type == .added` fails
  | .modified _ _ _ => self
  | .removed _ _ => self

def deliver (self : ReviewGrid) (delivery : Delivery) : Option ReviewGrid :=
  (self.onChange delivery.now delivery.change).layout delivery.requests

/-- The snapshot listener; `none` is the nil snapshot of an error. -/
def listener (self : ReviewGrid) (documentChanges : Option (List Delivery)) : Option ReviewGrid :=
  match documentChanges with
  | none => some self
  | some deliveries => Transition.run deliver self deliveries

/-! ## Runs -/

inductive Event
  | snapshot (documentChanges : Option (List Delivery))
  | layout (requests : List LayoutRequest)

/-- One event; a trapped program takes no further step. -/
def step (self : ReviewGrid) (e : Event) : Option ReviewGrid :=
  if self.trap = none then
    match e with
    | .snapshot documentChanges => self.listener documentChanges
    | .layout requests => self.layout requests
  else
    none

/-- A review screen whose listener has just been registered. -/
def registered : ReviewGrid := {}

/-- The document a change adds, decoded at the time of its delivery. -/
def Delivery.added (delivery : Delivery) : List Review :=
  match delivery.change with
  | .added _ dictionary => [Review.init delivery.now dictionary]
  | .modified _ _ _ => []
  | .removed _ _ => []

/-- The documents an event adds, decoded, in the order of their delivery. -/
def Event.added : Event → List Review
  | .snapshot (some deliveries) => deliveries.flatMap Delivery.added
  | .snapshot none => []
  | .layout _ => []

/-- The list passed to the completion before call number `k`; the empty list before the first. -/
def passedBefore (self : ReviewGrid) : Nat → List Review
  | 0 => []
  | k + 1 => self.passed[k]?.getD []

/-! ## The list only grows -/

/-- The screen shows the captured array, whose prefixes are what was passed on; everything reported
so far still fits. -/
structure Grows (s : ReviewGrid) : Prop where
  shown : s.review = s.reviews
  count : s.passed.length = s.reviews.length
  passed : ∀ k reviews, s.passed[k]? = some reviews → reviews = s.reviews.take (k + 1)
  reported : ∀ count ∈ s.reported, count ≤ s.reviews.length
  scrolled : ∀ item ∈ s.scrolled, 0 ≤ item
  trap : s.trap = none

theorem grows_registered : Grows registered where
  shown := rfl
  count := rfl
  passed := by
    intro k reviews h
    cases h
  reported := by
    intro count h
    cases h
  scrolled := by
    intro item h
    cases h
  trap := rfl

/-- A row reported at any earlier count is one of the reviews shown. -/
theorem Grows.lt_of_reported {self : ReviewGrid} (h : Grows self) {row : Nat}
    (hrow : self.Reported row) : row < self.review.length := by
  rcases hrow with ⟨count, hcount, hlt⟩
  rw [h.shown]
  exact Nat.lt_of_lt_of_le hlt (h.reported count hcount)

/-- It is still there. -/
theorem Grows.subscript_eq_ok {self : ReviewGrid} (h : Grows self) {row : Nat}
    (hrow : self.Reported row) : ∃ review, self.subscript row = .ok review := by
  have hlen := h.lt_of_reported hrow
  refine ⟨self.review[row], ?_⟩
  simp only [subscript, List.getElem?_eq_getElem hlen]

theorem Grows.answered {self : ReviewGrid} (h : Grows self) {row : Nat}
    (hrow : self.Reported row) : self.answered (self.subscript row) = self := by
  rcases h.subscript_eq_ok hrow with ⟨review, hok⟩
  rw [hok]
  rfl

theorem Grows.numberOfItemsInSection {self : ReviewGrid} (h : Grows self) :
    Grows self.numberOfItemsInSection :=
  { h with
    reported := by
      intro count hcount
      rcases List.mem_append.1 hcount with hold | hnew
      · exact h.reported count hold
      · have hlen : count = self.review.length := List.mem_singleton.1 hnew
        rw [hlen, h.shown]
        exact Nat.le_refl _ }

/-- A request changes neither the captured array nor what is shown. -/
theorem Grows.request {self next : ReviewGrid} {r : LayoutRequest} (h : Grows self)
    (hreq : self.request r = some next) : Grows next ∧ next.reviews = self.reviews := by
  cases r with
  | numberOfItemsInSection =>
      cases hreq
      exact ⟨h.numberOfItemsInSection, rfl⟩
  | cellForItemAt row =>
      simp only [ReviewGrid.request, Option.ite_none_right_eq_some, Option.some.injEq] at hreq
      rcases hreq with ⟨hrow, rfl⟩
      have hsame : self.answered (self.cellForItemAt row) = self := h.answered hrow
      rw [hsame]
      exact ⟨h, rfl⟩
  | sizeForItemAt row =>
      simp only [ReviewGrid.request, Option.ite_none_right_eq_some, Option.some.injEq] at hreq
      rcases hreq with ⟨hrow, rfl⟩
      have hsame : self.answered (self.sizeForItemAt row) = self := h.answered hrow
      rw [hsame]
      exact ⟨h, rfl⟩

theorem Grows.layout {self next : ReviewGrid} {requests : List LayoutRequest} (h : Grows self)
    (hlay : self.layout requests = some next) : Grows next ∧ next.reviews = self.reviews := by
  refine Transition.run_invariant (I := fun s => Grows s ∧ s.reviews = self.reviews) ?_
    ⟨h, rfl⟩ hlay
  intro s r s' hs hreq
  rcases hs.1.request hreq with ⟨hgrows, hreviews⟩
  exact ⟨hgrows, hreviews.trans hs.2⟩

/-- One more review is appended, passed on, shown and scrolled to. -/
theorem Grows.completion {self : ReviewGrid} (h : Grows self) (review : Review) :
    Grows ({ self with reviews := self.reviews ++ [review] }.completion
      (self.reviews ++ [review])) where
  shown := rfl
  count := by
    simp [ReviewGrid.completion, ReviewGrid.scrollToItem, ReviewGrid.reloadData,
      ReviewGrid.numberOfItemsInSection, h.count]
  passed := by
    intro k reviews hk
    rcases ListEdit.getElem?_concat.1 hk with hold | ⟨rfl, rfl⟩
    · -- a prefix of the old array is one of the new array
      have hlt : k < self.reviews.length := by
        rw [← h.count]
        exact (List.getElem?_eq_some_iff.1 hold).1
      calc
        reviews = self.reviews.take (k + 1) := h.passed k reviews hold
        _ = (self.reviews ++ [review]).take (k + 1) :=
          (List.take_append_of_le_length hlt).symm
    · have hlen : (self.reviews ++ [review]).length = self.passed.length + 1 := by
        rw [List.length_append, h.count, List.length_singleton]
      exact (List.take_of_length_le (Nat.le_of_eq hlen)).symm
  reported := by
    intro count hcount
    have hlen : (self.reviews ++ [review]).length = self.reviews.length + 1 := List.length_append
    rcases List.mem_append.1 hcount with hold | hnew
    · have hle := h.reported count hold
      exact Nat.le_trans hle (by simp [ReviewGrid.completion, ReviewGrid.scrollToItem,
        ReviewGrid.reloadData, ReviewGrid.numberOfItemsInSection])
    · exact Nat.le_of_eq (List.mem_singleton.1 hnew)
  scrolled := by
    intro item hitem
    rcases List.mem_append.1 hitem with hold | hnew
    · exact h.scrolled item hold
    · -- the list just passed is not empty
      rw [List.mem_singleton.1 hnew]
      simp [ReviewGrid.reloadData, ReviewGrid.numberOfItemsInSection]
  trap := h.trap

theorem Grows.deliver {self next : ReviewGrid} {delivery : Delivery} (h : Grows self)
    (hdel : self.deliver delivery = some next) :
    Grows next ∧ next.reviews = self.reviews ++ delivery.added := by
  rcases delivery with ⟨now, change, requests⟩
  have hchange : Grows (self.onChange now change) ∧
      (self.onChange now change).reviews =
        self.reviews ++ (Delivery.mk now change requests).added := by
    cases change with
    | added newIndex dictionary =>
        exact ⟨h.completion _, rfl⟩
    | modified oldIndex newIndex dictionary =>
        exact ⟨h, (List.append_nil _).symm⟩
    | removed oldIndex dictionary =>
        exact ⟨h, (List.append_nil _).symm⟩
  rcases hchange.1.layout hdel with ⟨hgrows, hreviews⟩
  exact ⟨hgrows, hreviews.trans hchange.2⟩

theorem Grows.listener {self next : ReviewGrid} {documentChanges : Option (List Delivery)}
    (h : Grows self) (hlis : self.listener documentChanges = some next) :
    Grows next ∧ next.reviews = self.reviews ++ (Event.snapshot documentChanges).added := by
  cases documentChanges with
  | none =>
      cases hlis
      exact ⟨h, (List.append_nil _).symm⟩
  | some deliveries =>
      refine Transition.run_history
        (I := fun past s => Grows s ∧ s.reviews = self.reviews ++ past.flatMap Delivery.added) ?_
        ⟨h, (List.append_nil _).symm⟩ hlis
      intro past s delivery s' hs hdel
      rcases hs.1.deliver hdel with ⟨hgrows, hreviews⟩
      refine ⟨hgrows, ?_⟩
      calc
        s'.reviews = s.reviews ++ delivery.added := hreviews
        _ = self.reviews ++ (past ++ [delivery]).flatMap Delivery.added := by
          rw [hs.2, List.flatMap_append, List.append_assoc]
          simp

theorem Grows.step {self next : ReviewGrid} {e : Event} (h : Grows self)
    (hstep : self.step e = some next) : Grows next ∧ next.reviews = self.reviews ++ e.added := by
  unfold ReviewGrid.step at hstep
  rw [if_pos h.trap] at hstep
  cases e with
  | snapshot documentChanges =>
      exact h.listener hstep
  | layout requests =>
      rcases h.layout hstep with ⟨hgrows, hreviews⟩
      exact ⟨hgrows, hreviews.trans (List.append_nil _).symm⟩

theorem grows_run {es : List Event} {s : ReviewGrid}
    (h : Transition.run step registered es = some s) :
    Grows s ∧ s.reviews = es.flatMap Event.added := by
  refine Transition.run_history (I := fun past s => Grows s ∧ s.reviews = past.flatMap Event.added)
    ?_ ⟨grows_registered, rfl⟩ h
  intro past s e s' hs hstep
  rcases hs.1.step hstep with ⟨hgrows, hreviews⟩
  refine ⟨hgrows, ?_⟩
  rw [hreviews, hs.2, List.flatMap_append]
  simp

/-! ## Safety -/

/-- Every list passed on has one review more than the one before. -/
theorem Grows.passed_eq {s : ReviewGrid} (h : Grows s) {k : Nat} {reviews : List Review}
    (hk : s.passed[k]? = some reviews) :
    ∃ review, reviews = s.passedBefore k ++ [review] := by
  have hlt : k < s.reviews.length := by
    rw [← h.count]
    exact (List.getElem?_eq_some_iff.1 hk).1
  have hbefore : s.passedBefore k = s.reviews.take k := by
    cases k with
    | zero =>
        rfl
    | succ j =>
        have hj : j < s.passed.length := by
          rw [h.count]
          omega
        have hget : s.passed[j]? = some s.passed[j] := List.getElem?_eq_getElem hj
        rw [passedBefore, hget, Option.getD_some]
        exact h.passed j _ hget
  refine ⟨s.reviews[k], ?_⟩
  rw [hbefore, h.passed k reviews hk]
  exact List.take_succ_eq_append_getElem hlt

/-- In every run, whatever the snapshots bring: each call of the completion passes a list that is
not empty and extends the one before by one review, no index scrolled to is negative, every row
ever reported can be subscripted and nothing traps; and the list shown is what was added, in the
order of delivery, with one call of the completion for each. -/
theorem reviewGrid_safe {es : List Event} {s : ReviewGrid}
    (h : Transition.run step registered es = some s) :
    (∀ k reviews, s.passed[k]? = some reviews →
        reviews ≠ [] ∧ ∃ review, reviews = s.passedBefore k ++ [review]) ∧
      (∀ item ∈ s.scrolled, 0 ≤ item) ∧
      (∀ row, s.Reported row → row < s.review.length ∧
        ∃ review, s.cellForItemAt row = .ok review ∧ s.sizeForItemAt row = .ok review) ∧
      s.trap = none ∧
      s.review = es.flatMap Event.added ∧
      s.passed.length = (es.flatMap Event.added).length := by
  rcases grows_run h with ⟨hgrows, hreviews⟩
  refine ⟨?_, hgrows.scrolled, ?_, hgrows.trap, hgrows.shown.trans hreviews,
    hgrows.count.trans (congrArg List.length hreviews)⟩
  · intro k reviews hk
    rcases hgrows.passed_eq hk with ⟨review, heq⟩
    exact ⟨by simp [heq], review, heq⟩
  · intro row hrow
    rcases hgrows.subscript_eq_ok hrow with ⟨review, hok⟩
    exact ⟨hgrows.lt_of_reported hrow, review, hok, hok⟩

/-- A snapshot with a new, a changed and another new review, an empty one and an error; the
collection view asks for old rows while it is reloaded. -/
def mixedSnapshots : List Event :=
  let good := reviewData "good" "Up" ⟨20, 0⟩
  let fine := reviewData "fine" "Up" ⟨10, 0⟩
  [.snapshot (some
      [⟨⟨20, 0⟩, .added 0 good, [.cellForItemAt 0]⟩, ⟨⟨20, 0⟩, .modified 0 0 good, []⟩,
        ⟨⟨21, 0⟩, .added 0 fine, [.numberOfItemsInSection, .sizeForItemAt 1]⟩]),
    .layout [.cellForItemAt 0], .snapshot (some []), .snapshot none,
    .snapshot (some [⟨⟨22, 0⟩, .removed 0 good, [.cellForItemAt 1]⟩])]

theorem reviewGrid_safe_mixedSnapshots :
    ∃ s, Transition.run step registered mixedSnapshots = some s ∧
      (∀ k reviews, s.passed[k]? = some reviews →
        reviews ≠ [] ∧ ∃ review, reviews = s.passedBefore k ++ [review]) ∧
      (∀ item ∈ s.scrolled, 0 ≤ item) ∧
      (∀ row, s.Reported row → row < s.review.length ∧
        ∃ review, s.cellForItemAt row = .ok review ∧ s.sizeForItemAt row = .ok review) ∧
      s.trap = none ∧
      s.review = mixedSnapshots.flatMap Event.added ∧
      s.passed.length = (mixedSnapshots.flatMap Event.added).length :=
  ⟨_, rfl, reviewGrid_safe rfl⟩

/-! ## The listener of `ReviewListener` -/

/-- The change with the document's data in place of the document. -/
def dataChange : DocumentChange → ListEdit.Edit Dictionary
  | .added newIndex document => .added newIndex document.data
  | .modified oldIndex newIndex document => .modified oldIndex newIndex document.data
  | .removed oldIndex document => .removed oldIndex document.data

/-- The grid has seen what the listener has passed on. -/
structure Follows (s : ReviewGrid) (listener : ReviewListener) : Prop where
  reviews : s.reviews = listener.reviews
  passed : s.passed = listener.completions
  shown : s.review = listener.displayed

theorem Follows.onChange {self : ReviewGrid} {listener : ReviewListener}
    (h : self.Follows listener) (now : Timestamp) (change : DocumentChange) :
    (self.onChange now (dataChange change)).Follows (listener.onChange now change) := by
  cases change with
  | added newIndex document =>
      have happend : self.reviews ++ [Review.init now document.data] =
          listener.reviews ++ [Review.init now document.data] := by
        rw [h.reviews]
      exact ⟨happend, congrArg₂ _ h.passed (congrArg (fun reviews => [reviews]) happend), happend⟩
  | modified oldIndex newIndex document =>
      exact h
  | removed oldIndex document =>
      exact h

/-- On a snapshot as `ReviewListener` takes it, with no layout in between, both pass on and show the
same. -/
theorem Follows.listener {self next : ReviewGrid} {listener : ReviewListener}
    (h : self.Follows listener) (now : Timestamp) (changes : List DocumentChange)
    (hlis : self.listener (some (changes.map fun change => ⟨now, dataChange change, []⟩)) =
      some next) :
    next.Follows (listener.listener (some (now, changes))) := by
  induction changes generalizing self listener with
  | nil =>
      cases hlis
      exact h
  | cons change changes ih =>
      rcases Transition.run_cons.1 hlis with ⟨s, hs, hrest⟩
      cases hs
      exact ih (h.onChange now change) hrest

end ReviewGrid

end MoviePlayList
