import MoviePlayList.Api.ReviewService
import MoviePlayList.Model.MakeListData
import MoviePlayList.Resource.Extensions

/-!
# MovieDetailViewController — from a search result to its review screen

The detail screen shows the cleaned title of the movie it was opened with and hands the movie
itself on to the review screen, which uses the title as it came for both directions of
`Service`.
-/

namespace MoviePlayList

open Firestore

structure MovieDetailViewController where
  detailData : List MovieInfo := []
  deriving DecidableEq

structure AddMovieViewController where
  movieInfo : Option MovieInfo := none
  review : List Review := []
  deriving DecidableEq

namespace MovieDetailViewController

/-- A new detail screen filled by its caller: `MakeListViewController.didSelectItemAt` and
`AddMovieViewController.didTapPosterButton` have the same lines. -/
def opened (movieInfo : MovieInfo) : MovieDetailViewController :=
  let vc : MovieDetailViewController := {}
  if vc.detailData.isEmpty then
    { vc with detailData := vc.detailData ++ [movieInfo] }
  else
    { vc with detailData := [movieInfo] }

/-- The title `cellForItemAt` configures the cell with; `none` is the index trap.  The image is not
modelled: when its URL cannot be used, `cellForItemAt` returns before it configures the cell and
gives its buttons their targets, and the screen shows no title. -/
def cellTitle (self : MovieDetailViewController) (item : Nat) : Option String :=
  self.detailData[item]?.map fun movie => stringChange movie.title

/-- `addList`, the target of the button of a configured cell: open a review screen for
`detailData[0]`; `none` is the index trap. -/
def addList (self : MovieDetailViewController) : Option AddMovieViewController :=
  self.detailData[0]?.map fun movie => { movieInfo := some movie }

end MovieDetailViewController

namespace AddMovieViewController

/-- `downReviews`, up to the listener it registers. -/
def downReviews (self : AddMovieViewController) (currentUid : Option Uid) :
    Except String (Option Query) :=
  match self.movieInfo with
  | none => .ok none
  | some movie => downReview currentUid movie.title

/-- `inputView(_:wantsToSend:)`, up to the document it adds. -/
def wantsToSend (self : AddMovieViewController) (currentUid : Option Uid) (date : Timestamp)
    (message : String) : Except String (Option (CollectionReference × Dictionary)) :=
  match self.movieInfo with
  | none => .ok none
  | some movie => uploadReview currentUid date message movie.title

end AddMovieViewController

/-- The review screen reached by tapping a search result and then the add button. -/
def reviewScreen (result : MovieInfo) : Option AddMovieViewController :=
  (MovieDetailViewController.opened result).addList

/-! ## Reviews of one movie found by two queries -/

/-- Whatever is sent from the review screen of `r`, it is added to the collection that the review
screen of `r'` listens to. -/
def SharesReviews (uid : Uid) (r r' : MovieInfo) : Prop :=
  ∀ (date : Timestamp) (message : String), ∃ vc vc' target data query,
    reviewScreen r = some vc ∧ reviewScreen r' = some vc' ∧
      vc.wantsToSend (some uid) date message = .ok (some (target, data)) ∧
      vc'.downReviews (some uid) = .ok (some query) ∧ query.source = target

/-- Two raw titles that are the same path: neither has a "//", they differ at most in a '/' at
either end, and what is left is not empty and has an even number of '/'. -/
def SameTitlePath (s t : String) : Prop :=
  ¬ Separated.Doubled '/' s.toList ∧ ¬ Separated.Doubled '/' t.toList ∧
    titlePath s = titlePath t ∧ titlePath s ≠ [] ∧ (titlePath s).count '/' % 2 = 0

instance (s t : String) : Decidable (SameTitlePath s t) := by
  unfold SameTitlePath
  infer_instance

theorem sharesReviews_iff_collection {uid : Uid} {r r' : MovieInfo} :
    SharesReviews uid r r' ↔
      ∃ c, reviewCollection uid r.title = .ok c ∧ reviewCollection uid r'.title = .ok c := by
  constructor
  · intro h
    -- any message shows where the screen writes
    rcases h ⟨0, 0⟩ "" with ⟨vc, vc', target, data, query, hvc, hvc', hsend, hlisten, hsrc⟩
    cases hvc
    cases hvc'
    refine ⟨target, (uploadReview_eq_ok.1 hsend).1, ?_⟩
    rw [← hsrc]
    exact (downReview_eq_ok.1 hlisten).1
  · rintro ⟨c, hr, hr'⟩ date message
    -- both screens build the collection from the raw title
    exact ⟨_, _, c, reviewData message r.title date, ⟨c, "timestamp"⟩, rfl, rfl,
      uploadReview_eq_ok.2 ⟨hr, rfl⟩, downReview_eq_ok.2 ⟨hr', rfl⟩, rfl⟩

/-- The two review screens meet in one collection exactly when the raw titles are the same path;
where the search API put its highlight tags therefore matters. -/
theorem sharesReviews_iff (uid : Uid) (r r' : MovieInfo) :
    SharesReviews uid r r' ↔ SameTitlePath r.title r'.title := by
  rw [sharesReviews_iff_collection]
  constructor
  · rintro ⟨c, hr, hr'⟩
    rcases reviewCollection_isOk_iff.1 ⟨c, hr⟩ with ⟨hdbl, hne, heven⟩
    rcases reviewCollection_isOk_iff.1 ⟨c, hr'⟩ with ⟨hdbl', _, _⟩
    exact ⟨hdbl, hdbl', (reviewCollection_eq_iff hr hr').1 rfl, hne, heven⟩
  · rintro ⟨hdbl, hdbl', hpath, hne, heven⟩
    rcases (@reviewCollection_isOk_iff uid _).2 ⟨hdbl, hne, heven⟩ with ⟨c, hc⟩
    rcases (@reviewCollection_isOk_iff uid _).2
      ⟨hdbl', hpath ▸ hne, hpath ▸ heven⟩ with ⟨d, hd⟩
    -- equal paths give one collection
    have hcd : c = d := (reviewCollection_eq_iff hc hd).2 hpath
    exact ⟨c, hc, hcd ▸ hd⟩

/-- A search result with nothing but a title. -/
def sampleMovie (title : String) : MovieInfo where
  title := title
  link := ""
  image := ""
  subtitle := ""
  pubDate := ""
  director := ""
  actor := ""
  userRating := ""

/-- One movie found by two queries: both detail screens show "Iron Man", both review paths are
accepted, and a review sent from the first screen is not among those the second listens to. -/
theorem sharesReviews_not_highlighted :
    (MovieDetailViewController.opened (sampleMovie "<b>Iron</b> <b>Man</b>")).cellTitle 0 =
        some "Iron Man" ∧
      (MovieDetailViewController.opened (sampleMovie "Iron Man")).cellTitle 0 =
        some "Iron Man" ∧
      ¬ SharesReviews sampleUid (sampleMovie "<b>Iron</b> <b>Man</b>")
        (sampleMovie "Iron Man") := by
  refine ⟨by decide +kernel, by decide +kernel, ?_⟩
  rw [sharesReviews_iff_collection]
  rintro ⟨c, hr, hr'⟩
  have hpath := (reviewCollection_eq_iff hr hr').1 rfl
  revert hpath
  decide +kernel

end MoviePlayList
