import MoviePlayList.Api.ReviewService
import MoviePlayList.Lib.ListEdit
import MoviePlayList.Lib.Transition

/-!
# ReviewListener — the snapshot listener behind a review screen

`Service.downReview` listens to the reviews of a movie ordered by time.  Of every snapshot it only
looks at the changes of type `added`: it decodes the document, appends it to the array captured by
the closure and passes the array on; `AddMovieViewController.downReviews` displays what it is
given.

The reviews visible to the listening device (`stored`) grow by uploads of any device of the user,
each stamped with that device's clock, and shrink when the server rejects one.  A snapshot is
delivered with the sorted list of what is stored at that moment and with changes that turn the
previous result list into it.
-/

namespace MoviePlayList

/-- A document written by `Service.uploadReview`. -/
structure ReviewDocument where
  id : String
  text : String
  movieTitle : String
  timestamp : Timestamp
  deriving DecidableEq

namespace ReviewDocument

/-- `change.document.data()` -/
def data (self : ReviewDocument) : Dictionary :=
  reviewData self.text self.movieTitle self.timestamp

/-- The document decoded by `Review(dictionary:)`. -/
def review (self : ReviewDocument) : Review where
  text := self.text
  movieTitle := self.movieTitle
  timestamp := self.timestamp

end ReviewDocument

abbrev DocumentChange := ListEdit.Edit ReviewDocument

structure ReviewListener where
  /-- the reviews visible to this device -/
  stored : List ReviewDocument
  /-- the result list of the last snapshot -/
  documents : List ReviewDocument := []
  /-- `var reviews` of `Service.downReview` -/
  reviews : List Review := []
  /-- every list passed to the completion so far -/
  completions : List (List Review) := []
  /-- `AddMovieViewController.review` -/
  displayed : List Review := []
  deriving DecidableEq

namespace ReviewListener

/-! ## The listener -/

/-- The completion given by `AddMovieViewController.downReviews`. -/
def completion (self : ReviewListener) (reviews : List Review) : ReviewListener :=
  { self with completions := self.completions ++ [reviews], displayed := reviews }

/-- The body of `documentChanges.forEach` in `Service.downReview`. -/
def onChange (now : Timestamp) (self : ReviewListener) (change : DocumentChange) :
    ReviewListener :=
  match change with
  | .added _ document =>
      -- `newIndex` is not looked at
      let reviews := self.reviews ++ [Review.init now document.data]
      { self with reviews := reviews }.completion reviews
  -- `change.type == .added` fails
  | .modified _ _ _ => self
  | .removed _ _ => self

/-- The snapshot listener; a snapshot comes at a time of the clock, and `none` is the nil snapshot
of an error. -/
def listener (self : ReviewListener) (snapshot : Option (Timestamp × List DocumentChange)) :
    ReviewListener :=
  match snapshot with
  | none => self
  | some (now, documentChanges) => documentChanges.foldl (onChange now) self

/-! ## Runs -/

inductive Event
  | upload (document : ReviewDocument)
  | reject (id : String)
  | snapshot (now : Timestamp) (changes : List DocumentChange) (documents : List ReviewDocument)
  | error
  deriving DecidableEq

/-- What Firestore promises about a snapshot: the changes turn the previous result list into the
new one, which is what is stored, in the order of the query. -/
def Delivers (self : ReviewListener) (changes : List DocumentChange)
    (documents : List ReviewDocument) : Prop :=
  ListEdit.applyAll self.documents changes = some documents ∧
    documents.Perm self.stored ∧
    documents.Pairwise (fun a b => a.timestamp ≤ b.timestamp)

instance (self : ReviewListener) (changes : List DocumentChange)
    (documents : List ReviewDocument) : Decidable (self.Delivers changes documents) :=
  inferInstanceAs (Decidable (_ ∧ _ ∧ _))

def step (self : ReviewListener) : Event → Option ReviewListener
  | .upload document =>
      if document.id ∈ self.stored.map ReviewDocument.id then
        -- document ids are fresh
        none
      else
        some { self with stored := self.stored ++ [document] }
  | .reject id => some { self with stored := self.stored.filter (fun d => d.id ≠ id) }
  | .snapshot now changes documents =>
      if self.Delivers changes documents then
        some ({ self with documents := documents }.listener (some (now, changes)))
      else
        none
  | .error => some (self.listener none)

/-- A listener just registered, with these reviews already stored. -/
def registered (stored : List ReviewDocument) : ReviewListener := { stored := stored }

/-! ## What one snapshot does -/

/-- A stored document decodes to its review. -/
theorem init_data (now : Timestamp) (document : ReviewDocument) :
    Review.init now document.data = document.review :=
  Review.init_reviewData now document.timestamp document.text document.movieTitle

/-- The last list passed to the completion; the empty list before the first call. -/
def lastPassed (self : ReviewListener) : List Review := self.completions.getLast?.getD []

@[simp] theorem lastPassed_completion (self : ReviewListener) (reviews : List Review) :
    (self.completion reviews).lastPassed = reviews := by
  simp [lastPassed, completion]

/-- What was passed last is the array captured by the closure, and it is displayed. -/
structure DisplaysCaptured (vc : ReviewListener) : Prop where
  passed : vc.lastPassed = vc.reviews
  displayed : vc.displayed = vc.reviews

/-- The changes are folded into the captured array by appending the added documents; the result
list of the query is not touched. -/
theorem foldl_onChange (now : Timestamp) (changes : List DocumentChange) (self : ReviewListener) :
    (changes.foldl (onChange now) self).reviews =
        self.reviews ++ (ListEdit.inserted changes).map ReviewDocument.review ∧
      (changes.foldl (onChange now) self).documents = self.documents ∧
      (self.DisplaysCaptured → (changes.foldl (onChange now) self).DisplaysCaptured) := by
  induction changes generalizing self with
  | nil =>
      simp [ListEdit.inserted]
  | cons change changes ih =>
      cases change with
      | added newIndex document =>
          rcases ih (self.onChange now (.added newIndex document)) with ⟨hrev, hdocs, hshow⟩
          -- whatever was shown before, the call for this change passes the whole array
          refine ⟨?_, hdocs, fun _ => hshow ⟨lastPassed_completion _ _, rfl⟩⟩
          simp only [List.foldl_cons, hrev, ListEdit.inserted, List.map_cons]
          simp [onChange, completion, init_data]
      | modified oldIndex newIndex document =>
          exact ih self
      | removed oldIndex document =>
          exact ih self

/-- A snapshot appends the added documents to the captured array; its result list is what is
stored. -/
theorem snapshot_eq_some {self next : ReviewListener} {now : Timestamp}
    {changes : List DocumentChange} {documents : List ReviewDocument}
    (h : self.step (.snapshot now changes documents) = some next) :
    next.reviews = self.reviews ++ (ListEdit.inserted changes).map ReviewDocument.review ∧
      documents.Perm self.stored := by
  simp only [step, Option.ite_none_right_eq_some, Option.some.injEq] at h
  rcases h with ⟨⟨_, hperm, _⟩, rfl⟩
  exact ⟨(foldl_onChange now changes { self with documents := documents }).1, hperm⟩

/-! ## The display and the result list -/

/-- The last list passed to the completion is the result list of the last snapshot, decoded, and
the review screen displays it. -/
def ShowsResult (self : ReviewListener) : Prop :=
  (∀ now, self.lastPassed = self.documents.map (fun d => Review.init now d.data)) ∧
    self.displayed = self.lastPassed

/-- A snapshot only appends: decoded, its result list is the previous one followed by the added
documents in the order of the changes. -/
def Appends (self : ReviewListener) : Event → Prop
  | .snapshot _ changes documents =>
      documents.map ReviewDocument.review =
        self.documents.map ReviewDocument.review ++
          (ListEdit.inserted changes).map ReviewDocument.review
  | _ => True

/-- As long as the captured array is displayed, only it has to be compared. -/
theorem DisplaysCaptured.showsResult_iff {self : ReviewListener} (h : self.DisplaysCaptured) :
    self.ShowsResult ↔ self.reviews = self.documents.map ReviewDocument.review := by
  constructor
  · rintro ⟨hpassed, _⟩
    exact h.passed.symm.trans (hpassed ⟨0, 0⟩)
  · intro hresult
    exact ⟨fun _ => h.passed.trans hresult, h.displayed.trans h.passed.symm⟩

theorem displaysCaptured_step {self next : ReviewListener} {e : Event}
    (h : self.DisplaysCaptured) (hstep : self.step e = some next) : next.DisplaysCaptured := by
  cases e with
  | upload document =>
      simp only [step, Option.ite_none_left_eq_some, Option.some.injEq] at hstep
      rcases hstep with ⟨_, rfl⟩
      exact ⟨h.passed, h.displayed⟩
  | reject id =>
      cases hstep
      exact ⟨h.passed, h.displayed⟩
  | snapshot now changes documents =>
      simp only [step, Option.ite_none_right_eq_some, Option.some.injEq] at hstep
      rcases hstep with ⟨_, rfl⟩
      exact (foldl_onChange now changes _).2.2 ⟨h.passed, h.displayed⟩
  | error =>
      cases hstep
      exact ⟨h.passed, h.displayed⟩

/-- One event keeps the display equal to the result list exactly when it only appends. -/
theorem showsResult_step_iff {self next : ReviewListener} {e : Event}
    (hcap : self.DisplaysCaptured) (hshow : self.ShowsResult) (hstep : self.step e = some next) :
    next.ShowsResult ↔ self.Appends e := by
  cases e with
  | upload document =>
      simp only [step, Option.ite_none_left_eq_some, Option.some.injEq] at hstep
      -- what is stored may change, the screen does not hear of it yet
      rcases hstep with ⟨_, rfl⟩
      exact ⟨fun _ => trivial, fun _ => hshow⟩
  | reject id =>
      cases hstep
      exact ⟨fun _ => trivial, fun _ => hshow⟩
  | error =>
      cases hstep
      exact ⟨fun _ => trivial, fun _ => hshow⟩
  | snapshot now changes documents =>
      have hnext : next.DisplaysCaptured := displaysCaptured_step hcap hstep
      simp only [step, Option.ite_none_right_eq_some, Option.some.injEq] at hstep
      rcases hstep with ⟨_, rfl⟩
      rcases foldl_onChange now changes { self with documents := documents } with
        ⟨hrev, hdocs, _⟩
      -- the display was right before, so the two lists differ by what the snapshot adds
      have hold : self.reviews = self.documents.map ReviewDocument.review :=
        hcap.showsResult_iff.1 hshow
      calc
        _ ↔ (changes.foldl (onChange now) { self with documents := documents }).reviews =
              documents.map ReviewDocument.review := by
          rw [hnext.showsResult_iff]
          simp only [listener, hdocs]
        _ ↔ self.Appends (.snapshot now changes documents) := by
          rw [hrev]
          simp only [Appends, hold]
          exact eq_comm

/-- In every run, the completion is given and the review screen displays the result list after each
snapshot if and only if each snapshot only appends. -/
theorem showsResult_iff_each_appends (stored : List ReviewDocument) (es : List Event) :
    Transition.Along step ShowsResult (registered stored) es ↔
      Transition.EachStep step Appends (registered stored) es := by
  refine Transition.along_iff_eachStep (J := DisplaysCaptured) ?_ ?_ ⟨rfl, rfl⟩ ?_
  · intro self e next hcap _ _ hstep
    exact displaysCaptured_step hcap hstep
  · intro self e next hcap hshow hstep
    exact showsResult_step_iff hcap hshow hstep
  · exact ⟨fun _ => rfl, rfl⟩

/-- Snapshots whose changes all are additions at the end only append. -/
theorem appends_of_atEnd {self next : ReviewListener} {now : Timestamp}
    {changes : List DocumentChange} {documents : List ReviewDocument}
    (hend : ListEdit.AtEnd self.documents.length changes)
    (hstep : self.step (.snapshot now changes documents) = some next) :
    self.Appends (.snapshot now changes documents) := by
  simp only [step, Option.ite_none_right_eq_some] at hstep
  have happly := hstep.1.1.symm.trans (ListEdit.applyAll_of_atEnd hend)
  simp only [Option.some.injEq] at happly
  simp [Appends, happly]

/-- A snapshot that removes a document never only appends. -/
theorem not_appends_of_removal {self next : ReviewListener} {now : Timestamp}
    {changes : List DocumentChange} {documents : List ReviewDocument}
    (hremoved : 0 < ListEdit.removals changes)
    (hstep : self.step (.snapshot now changes documents) = some next) :
    ¬ self.Appends (.snapshot now changes documents) := by
  simp only [step, Option.ite_none_right_eq_some] at hstep
  -- the lengths tell: appending alone never makes room for a removal
  have hlen := ListEdit.length_applyAll hstep.1.1
  intro happends
  have hcount := congrArg List.length happends
  simp only [List.length_map, List.length_append] at hcount
  omega

/-- A review of the second device, whose clock is behind, arrives after one of the first. -/
def lateReview : List Event :=
  let first : ReviewDocument := ⟨"a", "good", "Up", ⟨20, 0⟩⟩
  let second : ReviewDocument := ⟨"b", "fine", "Up", ⟨10, 0⟩⟩
  [.upload first, .snapshot ⟨20, 0⟩ [.added 0 first] [first],
    .upload second, .snapshot ⟨21, 0⟩ [.added 0 second] [second, first]]

/-- It belongs in front and is passed and displayed at the end. -/
theorem not_showsResult_lateReview :
    (∃ s, Transition.run step (registered []) lateReview = some s ∧
      s.lastPassed = [⟨"good", "Up", ⟨20, 0⟩⟩, ⟨"fine", "Up", ⟨10, 0⟩⟩] ∧
      s.displayed = s.lastPassed ∧
      s.documents.map ReviewDocument.review =
        [⟨"fine", "Up", ⟨10, 0⟩⟩, ⟨"good", "Up", ⟨20, 0⟩⟩]) ∧
    ¬ Transition.Along step ShowsResult (registered []) lateReview := by
  have hrun : ∃ s, Transition.run step (registered []) lateReview = some s ∧
      s.lastPassed = [⟨"good", "Up", ⟨20, 0⟩⟩, ⟨"fine", "Up", ⟨10, 0⟩⟩] ∧
      s.displayed = s.lastPassed ∧
      s.documents.map ReviewDocument.review =
        [⟨"fine", "Up", ⟨10, 0⟩⟩, ⟨"good", "Up", ⟨20, 0⟩⟩] :=
    ⟨_, rfl, by decide, by decide, by decide⟩
  refine ⟨hrun, fun halong => ?_⟩
  rcases hrun with ⟨s, hs, hpassed, _, hdocuments⟩
  have hshow := (halong.last hs).1 ⟨0, 0⟩
  have hresult : s.documents.map (fun d => Review.init ⟨0, 0⟩ d.data) =
      s.documents.map ReviewDocument.review := List.map_congr_left fun d _ => init_data ⟨0, 0⟩ d
  rw [hpassed, hresult, hdocuments] at hshow
  revert hshow
  decide

end ReviewListener

end MoviePlayList
