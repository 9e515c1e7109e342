import MoviePlayList.Firestore.ResourcePath
import MoviePlayList.Model.Review
import MoviePlayList.Model.User

/-!
# ReviewService — where `Service` writes reviews and where it reads them

`Service.uploadReview` and `Service.downReview` build the same collection reference
`COLLECTION_REVIEWS.document(currentUid).collection(movieTitle)`, with the movie title of the
search API as it came.
-/

namespace MoviePlayList

open Firestore

/-- `COLLECTION_REVIEWS` -/
def collectionReviews : Except String CollectionReference := collection "reviews"

/-- `COLLECTION_REVIEWS.document(currentUid).collection(movieTitle)` -/
def reviewCollection (currentUid : Uid) (movieTitle : String) :
    Except String CollectionReference := do
  let reviews ← collectionReviews
  let document ← reviews.document currentUid.val
  document.collection movieTitle

/-- The dictionary `Service.uploadReview` stores. -/
def reviewData (review movieTitle : String) (timestamp : Timestamp) : Dictionary :=
  .ofList
    [("text", .string review),
     ("movieTitle", .string movieTitle),
     ("timestamp", .timestamp timestamp)]

/-- `Service.uploadReview`: nothing without a current user, otherwise one `addDocument`. -/
def uploadReview (currentUid : Option Uid) (date : Timestamp) (review movieTitle : String) :
    Except String (Option (CollectionReference × Dictionary)) :=
  match currentUid with
  | none => .ok none
  | some uid => do
      let target ← reviewCollection uid movieTitle
      return some (target, reviewData review movieTitle date)

/-- A query of one collection. -/
structure Query where
  source : CollectionReference
  orderBy : String
  deriving DecidableEq

/-- The query `Service.downReview` listens to; nothing without a current user. -/
def downReview (currentUid : Option Uid) (movieTitle : String) : Except String (Option Query) :=
  match currentUid with
  | none => .ok none
  | some uid => do
      let source ← reviewCollection uid movieTitle
      return some { source := source, orderBy := "timestamp" }

/-- A review decodes to what was uploaded, whenever it is decoded. -/
theorem Review.init_reviewData (now timestamp : Timestamp) (review movieTitle : String) :
    Review.init now (reviewData review movieTitle timestamp) =
      { text := review, movieTitle := movieTitle, timestamp := timestamp } := by
  rfl

/-! ## The collection a title denotes -/

theorem collectionReviews_eq : collectionReviews = .ok ⟨["reviews"], rfl⟩ := by
  have hpath := @fromStringView_single "reviews" (by decide) (by decide)
  simp only [collectionReviews, collection, hpath, bind, Except.bind]
  exact makeQuery_eq_ok.2 rfl

/-- The references are built exactly when the title has no "//" and the parity is right, and they
consist of `reviews`, the uid and the segments of the title. -/
theorem reviewCollection_eq_ok {uid : Uid} {title : String} {c : CollectionReference} :
    reviewCollection uid title = .ok c ↔
      ¬ Separated.Doubled '/' title.toList ∧
        c.path = ["reviews", uid.val] ++
          (Separated.segments '/' title.toList).map String.ofList := by
  have huid := fromStringView_single uid.ne_empty uid.no_slash
  have hdoc : CollectionReference.document ⟨["reviews"], rfl⟩ uid.val =
      .ok ⟨["reviews", uid.val], by simp⟩ := by
    simp only [CollectionReference.document, huid, bind, Except.bind]
    exact makeDocument_eq_ok.2 rfl
  simp only [reviewCollection, collectionReviews_eq, bind, Except.bind, hdoc]
  exact DocumentReference.collection_eq_ok

theorem uploadReview_eq_ok {uid : Uid} {date : Timestamp} {review title : String}
    {target : CollectionReference} {data : Dictionary} :
    uploadReview (some uid) date review title = .ok (some (target, data)) ↔
      reviewCollection uid title = .ok target ∧ data = reviewData review title date := by
  cases h : reviewCollection uid title with
  | error msg =>
      simp [uploadReview, h, bind, Except.bind]
  | ok c =>
      simp [uploadReview, h, bind, Except.bind, pure, Except.pure, eq_comm]

theorem downReview_eq_ok {uid : Uid} {title : String} {query : Query} :
    downReview (some uid) title = .ok (some query) ↔
      reviewCollection uid title = .ok query.source ∧ query.orderBy = "timestamp" := by
  cases h : reviewCollection uid title with
  | error msg =>
      simp [downReview, h, bind, Except.bind]
  | ok c =>
      cases query
      simp [downReview, h, bind, Except.bind, pure, Except.pure, eq_comm]

theorem map_ofList_inj {xs ys : List (List Char)} :
    xs.map String.ofList = ys.map String.ofList ↔ xs = ys :=
  (List.map_injective_iff.2 (fun _ _ h => String.ofList_injective h)).eq_iff

/-- The title as a path: what is left without one '/' at either end. -/
def titlePath (title : String) : List Char := Separated.trim '/' title.toList

/-- One non-empty segment: no '/' except at most one in front and one at the end. -/
def SingleSegment (title : String) : Prop :=
  ¬ Separated.Doubled '/' title.toList ∧ titlePath title ≠ [] ∧ '/' ∉ titlePath title

instance (title : String) : Decidable (SingleSegment title) := by
  unfold SingleSegment
  infer_instance

/-- A title is accepted exactly when it has no "//" and, without the '/' at its ends, is not empty
and has an even number of '/'. -/
theorem reviewCollection_isOk_iff {uid : Uid} {title : String} :
    (∃ c, reviewCollection uid title = .ok c) ↔
      ¬ Separated.Doubled '/' title.toList ∧ titlePath title ≠ [] ∧
        (titlePath title).count '/' % 2 = 0 := by
  constructor
  · rintro ⟨c, hc⟩
    rcases reviewCollection_eq_ok.1 hc with ⟨hdbl, hpath⟩
    have hodd := c.odd
    rw [hpath] at hodd
    have hne : titlePath title ≠ [] := by
      intro hnil
      simp [Separated.segments_eq_nil hnil] at hodd
    have hlen := Separated.length_segments hdbl hne
    simp only [List.length_append, List.length_map, List.length_cons, List.length_nil,
      hlen] at hodd
    exact ⟨hdbl, hne, by unfold titlePath; omega⟩
  · rintro ⟨hdbl, hne, heven⟩
    have hlen := Separated.length_segments hdbl hne
    unfold titlePath at heven
    refine ⟨⟨["reviews", uid.val] ++ (Separated.segments '/' title.toList).map String.ofList, ?_⟩,
      reviewCollection_eq_ok.2 ⟨hdbl, rfl⟩⟩
    simp only [List.length_append, List.length_map, List.length_cons, List.length_nil, hlen]
    omega

/-- Two accepted titles denote one collection exactly when they differ at most in a '/' at either
end. -/
theorem reviewCollection_eq_iff {uid : Uid} {s t : String} {c d : CollectionReference}
    (hs : reviewCollection uid s = .ok c) (ht : reviewCollection uid t = .ok d) :
    c = d ↔ titlePath s = titlePath t := by
  rcases reviewCollection_eq_ok.1 hs with ⟨hds, hc⟩
  rcases reviewCollection_eq_ok.1 ht with ⟨hdt, hd⟩
  calc
    c = d ↔ c.path = d.path := by
      cases c
      cases d
      simp
    _ ↔ (Separated.segments '/' s.toList).map String.ofList =
          (Separated.segments '/' t.toList).map String.ofList := by
      rw [hc, hd, List.append_cancel_left_eq]
    _ ↔ Separated.segments '/' s.toList = Separated.segments '/' t.toList := map_ofList_inj
    _ ↔ titlePath s = titlePath t := Separated.segments_eq_iff hds hdt

/-- An accepted title denotes a collection directly below `reviews/{uid}` exactly when it is one
segment. -/
theorem isImmediateParentOf_iff {uid : Uid} {title : String} {c : CollectionReference}
    (h : reviewCollection uid title = .ok c) :
    ResourcePath.IsImmediateParentOf ["reviews", uid.val] c.path ↔ SingleSegment title := by
  rcases reviewCollection_eq_ok.1 h with ⟨hdbl, hpath⟩
  have hne := (reviewCollection_isOk_iff.1 ⟨c, h⟩).2.1
  have hlen := Separated.length_segments hdbl hne
  unfold ResourcePath.IsImmediateParentOf SingleSegment
  rw [hpath]
  constructor
  · rintro ⟨hchild, _⟩
    simp only [List.length_append, List.length_map, List.length_cons, List.length_nil,
      hlen] at hchild
    refine ⟨hdbl, hne, List.count_eq_zero.1 ?_⟩
    unfold titlePath
    omega
  · rintro ⟨_, _, hmem⟩
    have hzero : (Separated.trim '/' title.toList).count '/' = 0 := List.count_eq_zero.2 hmem
    refine ⟨?_, List.prefix_append _ _⟩
    simp only [List.length_append, List.length_map, List.length_cons, List.length_nil, hlen, hzero]

/-! ## The contract of the review path -/

/-- Both titles are accepted and denote collections directly below `reviews/{uid}`, and different
titles denote different collections. -/
def ReviewPathContract (uid : Uid) (s t : String) : Prop :=
  ∃ c d, reviewCollection uid s = .ok c ∧ reviewCollection uid t = .ok d ∧
    ResourcePath.IsImmediateParentOf ["reviews", uid.val] c.path ∧
    ResourcePath.IsImmediateParentOf ["reviews", uid.val] d.path ∧
    (s ≠ t → c ≠ d)

/-- The contract holds of two titles exactly when each is a single segment and they do not differ
only in a '/' at either end. -/
theorem reviewPathContract_iff (uid : Uid) (s t : String) :
    ReviewPathContract uid s t ↔
      SingleSegment s ∧ SingleSegment t ∧ (s ≠ t → titlePath s ≠ titlePath t) := by
  constructor
  · rintro ⟨c, d, hc, hd, hcu, hdu, hinj⟩
    refine ⟨(isImmediateParentOf_iff hc).1 hcu, (isImmediateParentOf_iff hd).1 hdu, ?_⟩
    intro hst hpath
    exact hinj hst ((reviewCollection_eq_iff hc hd).2 hpath)
  · rintro ⟨hs, ht, hinj⟩
    have haccept : ∀ {title}, SingleSegment title → ∃ c, reviewCollection uid title = .ok c := by
      intro title h
      exact reviewCollection_isOk_iff.2 ⟨h.1, h.2.1, by rw [List.count_eq_zero.2 h.2.2]⟩
    rcases haccept hs with ⟨c, hc⟩
    rcases haccept ht with ⟨d, hd⟩
    refine ⟨c, d, hc, hd, (isImmediateParentOf_iff hc).2 hs, (isImmediateParentOf_iff hd).2 ht, ?_⟩
    intro hst hcd
    exact hinj hst ((reviewCollection_eq_iff hc hd).1 hcd)

/-- A title as the search API returns it: the closing highlight tag adds a segment, and the
reference throws. -/
theorem reviewPathContract_not_highlighted :
    reviewCollection sampleUid "<b>Up</b>" = .error
        ("Invalid collection reference. Collection references must have an odd number of " ++
          "segments, but reviews/u1/<b>Up</b> has 4") ∧
      ¬ ReviewPathContract sampleUid "<b>Up</b>" "Up" := by
  have hthrow : reviewCollection sampleUid "<b>Up</b>" = .error
      ("Invalid collection reference. Collection references must have an odd number of " ++
        "segments, but reviews/u1/<b>Up</b> has 4") := by
    decide +kernel
  refine ⟨hthrow, ?_⟩
  rintro ⟨c, d, hc, _⟩
  rw [hthrow] at hc
  cases hc

end MoviePlayList
