import Mathlib.Data.Set.Insert
import MoviePlayList.Lib.Transition
import MoviePlayList.Model.MakeListData
import MoviePlayList.Resource.Extensions

/-!
# MakeListMovieCollectionViewCell — what a reused cell of the search grid shows

A cell is configured whenever `movieInfo` is assigned.  Three things of earlier movies may stay in
it: the size constraints of the title, which are added and never removed; a poster download, which
the next `kf.setImage` supersedes but the plain assignment of the "noposter" image does not; and
the empty image of `prepareForReuse`, when no assignment follows.

`reuse_transparent_iff` says exactly when a reused cell looks like a fresh one that was configured
once, with the last movie.  The fitting size of a label and `URL(string:)` are parameters.
-/

namespace MoviePlayList

/-! ## The image view -/

inductive PosterImage (URL : Type)
  | noposter
  | downloaded (url : URL)
  deriving DecidableEq

/-- A download `kf.setImage` has started. -/
structure PosterDownload (URL : Type) where
  url : URL
  completed : Bool := false
  deriving DecidableEq

/-- `UIImageView` with what Kingfisher keeps beside it. -/
structure PosterView (URL : Type) where
  image : Option (PosterImage URL) := none
  /-- all downloads started for the view, in order -/
  downloads : List (PosterDownload URL) := []
  /-- the download of the latest `kf.setImage`, if that one started any -/
  taskIdentifier : Option Nat := none
  deriving DecidableEq

namespace PosterView

variable {URL : Type}

/-- The plain assignment `image = …`. -/
def setImage (self : PosterView URL) (image : Option (PosterImage URL)) : PosterView URL :=
  { self with image := image }

/-- `kf.setImage(with: url)`: the image is cleared, and the earlier download is superseded also
when there is no URL to load from. -/
def kfSetImage (self : PosterView URL) : Option URL → PosterView URL
  | none => { self with image := none, taskIdentifier := none }
  | some url =>
      { image := none
        downloads := self.downloads ++ [{ url := url }]
        taskIdentifier := some self.downloads.length }

/-- A download completes; only that of the latest `kf.setImage` sets the image. -/
def didDownload (self : PosterView URL) (id : Nat) (download : PosterDownload URL) :
    PosterView URL where
  image := if self.taskIdentifier = some id then some (.downloaded download.url) else self.image
  downloads := self.downloads.set id { download with completed := true }
  taskIdentifier := self.taskIdentifier

/-- The download of this number has been started and is not complete. -/
def Outstanding (self : PosterView URL) (id : Nat) : Prop :=
  ∃ download, self.downloads[id]? = some download ∧ download.completed = false

/-- No outstanding download may still set the image. -/
def CurrentDone (self : PosterView URL) : Prop :=
  ∀ id, self.taskIdentifier = some id → ¬ self.Outstanding id

end PosterView

/-! ## The cell -/

inductive SizeConstraint (CGFloat : Type)
  | width (constant : CGFloat)
  | height (constant : CGFloat)
  deriving DecidableEq

structure CGSize (CGFloat : Type) where
  width : CGFloat
  height : CGFloat
  deriving DecidableEq

namespace CGSize

variable {CGFloat : Type}

/-- What `makeConstraints` adds for a size. -/
def constraints (self : CGSize CGFloat) : List (SizeConstraint CGFloat) :=
  [.width self.width, .height self.height]

end CGSize

structure TitleLabel (CGFloat : Type) where
  text : Option String := none
  /-- in the order they were made -/
  sizeConstraints : List (SizeConstraint CGFloat) := []
  deriving DecidableEq

structure MakeListMovieCollectionViewCell (CGFloat URL : Type) where
  movieInfo : Option MovieInfo := none
  img : PosterView URL := {}
  title : TitleLabel CGFloat := {}

namespace MakeListMovieCollectionViewCell

/-- `title.systemLayoutSizeFitting(targetSize)` for the constraints and the text of the label; the
width of the cells is fixed. -/
abbrev Fitting (CGFloat : Type) := Set (SizeConstraint CGFloat) → String → CGSize CGFloat

section Cell

variable {CGFloat URL : Type}

/-- `configure()` -/
def configure (fit : Fitting CGFloat) (url : String → Option URL)
    (self : MakeListMovieCollectionViewCell CGFloat URL) :
    MakeListMovieCollectionViewCell CGFloat URL :=
  match self.movieInfo with
  | none => self
  | some movieInfo =>
      let text := stringChange movieInfo.title
      let size := fit {c | c ∈ self.title.sizeConstraints} text
      { self with
        img :=
          if movieInfo.image = "" then
            self.img.setImage (some .noposter)
          else
            self.img.kfSetImage (url movieInfo.image)
        title :=
          { text := some text
            sizeConstraints := self.title.sizeConstraints ++ size.constraints } }

/-- The assignment of `movieInfo` and its `didSet`. -/
def setMovieInfo (fit : Fitting CGFloat) (url : String → Option URL)
    (self : MakeListMovieCollectionViewCell CGFloat URL) (movieInfo : Option MovieInfo) :
    MakeListMovieCollectionViewCell CGFloat URL :=
  configure fit url { self with movieInfo := movieInfo }

def prepareForReuse (self : MakeListMovieCollectionViewCell CGFloat URL) :
    MakeListMovieCollectionViewCell CGFloat URL :=
  { self with img := self.img.setImage none }

/-! ## Runs -/

inductive Event
  | movieInfo (value : Option MovieInfo)
  | prepareForReuse
  | didDownload (id : Nat)
  deriving DecidableEq

def step (fit : Fitting CGFloat) (url : String → Option URL)
    (self : MakeListMovieCollectionViewCell CGFloat URL) :
    Event → Option (MakeListMovieCollectionViewCell CGFloat URL)
  | .movieInfo value => some (self.setMovieInfo fit url value)
  | .prepareForReuse => some self.prepareForReuse
  | .didDownload id =>
      match self.img.downloads[id]? with
      | none => none
      | some download =>
          if download.completed then
            none
          else
            some { self with img := self.img.didDownload id download }

/-- A cell that was just made. -/
def fresh : MakeListMovieCollectionViewCell CGFloat URL := {}

/-- No download is outstanding. -/
def Settled (self : MakeListMovieCollectionViewCell CGFloat URL) : Prop :=
  ∀ id, ¬ self.img.Outstanding id

/-- A fresh cell configured once, when the download it may have started is complete. -/
def configuredOnce (fit : Fitting CGFloat) (url : String → Option URL) (movieInfo : MovieInfo) :
    MakeListMovieCollectionViewCell CGFloat URL :=
  let cell := fresh.setMovieInfo fit url (some movieInfo)
  (cell.step fit url (.didDownload 0)).getD cell

/-- The two cells show the same poster and the same title under the same size constraints. -/
structure LooksLike (cell other : MakeListMovieCollectionViewCell CGFloat URL) : Prop where
  poster : cell.img.image = other.img.image
  text : cell.title.text = other.title.text
  sizeConstraints : ∀ c, c ∈ cell.title.sizeConstraints ↔ c ∈ other.title.sizeConstraints

/-! ## When a reused cell looks like a fresh one -/

/-- The movie an event assigns; `configure()` returns at once for nil. -/
def Event.movie : Event → Option MovieInfo
  | .movieInfo value => value
  | .prepareForReuse => none
  | .didDownload _ => none

/-- The movies a run assigns, in order. -/
def movies (es : List Event) : List MovieInfo := es.filterMap Event.movie

/-- All titles get this size: the first one in a label without constraints, each later one in a
label that has the constraints of the size. -/
def FitTo (fit : Fitting CGFloat) (size : CGSize CGFloat) : List MovieInfo → Prop
  | [] => True
  | first :: later =>
      fit ∅ (stringChange first.title) = size ∧
        ∀ movieInfo ∈ later,
          fit {c | c ∈ size.constraints} (stringChange movieInfo.title) = size

/-- What the last movie's poster needs of the cell it is assigned to and of the events after it.
Without a poster: no current download is outstanding and the cell is not prepared for reuse; with
one that has a URL: the cell is not prepared for reuse once its download is complete. -/
def PosterKept (url : String → Option URL) (self : MakeListMovieCollectionViewCell CGFloat URL)
    (movieInfo : MovieInfo) (after : List Event) : Prop :=
  if movieInfo.image = "" then
    self.img.CurrentDone ∧ Event.prepareForReuse ∉ after
  else
    (url movieInfo.image).isSome = true →
      ∀ waiting shown, after = waiting ++ .didDownload self.img.downloads.length :: shown →
        Event.prepareForReuse ∉ shown

/-- What a step does that assigns no movie. -/
inductive QuietCase (self : MakeListMovieCollectionViewCell CGFloat URL) :
    Event → MakeListMovieCollectionViewCell CGFloat URL → Prop
  | movieInfo : QuietCase self (.movieInfo none) { self with movieInfo := none }
  | prepareForReuse : QuietCase self .prepareForReuse self.prepareForReuse
  | didDownload {id : Nat} {download : PosterDownload URL}
      (hdownload : self.img.downloads[id]? = some download) (hopen : download.completed = false) :
      QuietCase self (.didDownload id) { self with img := self.img.didDownload id download }

section Steps

variable {fit : Fitting CGFloat} {url : String → Option URL}
  {self next : MakeListMovieCollectionViewCell CGFloat URL} {e : Event}

theorem step_didDownload_eq_some {id : Nat} (h : self.step fit url (.didDownload id) = some next) :
    ∃ download, self.img.downloads[id]? = some download ∧ download.completed = false ∧
      next = { self with img := self.img.didDownload id download } := by
  unfold step at h
  cases hdownload : self.img.downloads[id]? with
  | none =>
      simp only [hdownload] at h
      cases h
  | some download =>
      cases hcompleted : download.completed with
      | false =>
          simp only [hdownload, hcompleted] at h
          cases h
          exact ⟨download, rfl, hcompleted, rfl⟩
      | true =>
          simp only [hdownload, hcompleted] at h
          cases h

theorem quietCase (hquiet : e.movie = none) (h : self.step fit url e = some next) :
    QuietCase self e next := by
  cases e with
  | movieInfo value =>
      cases value with
      | none =>
          cases h
          exact .movieInfo
      | some movieInfo =>
          cases hquiet
  | prepareForReuse =>
      cases h
      exact .prepareForReuse
  | didDownload id =>
      rcases step_didDownload_eq_some h with ⟨download, hdownload, hopen, rfl⟩
      exact .didDownload hdownload hopen

theorem QuietCase.title (h : QuietCase self e next) : next.title = self.title := by
  cases h with
  | movieInfo | prepareForReuse | didDownload _ _ =>
      rfl

theorem QuietCase.taskIdentifier (h : QuietCase self e next) :
    next.img.taskIdentifier = self.img.taskIdentifier := by
  cases h with
  | movieInfo | prepareForReuse | didDownload _ _ =>
      rfl

/-- A step that assigns no movie leaves the URLs of the downloads as they are. -/
theorem QuietCase.downloads_url (h : QuietCase self e next) (id : Nat) :
    next.img.downloads[id]?.map PosterDownload.url =
      self.img.downloads[id]?.map PosterDownload.url := by
  cases h with
  | movieInfo | prepareForReuse =>
      rfl
  | @didDownload done download hdownload hopen =>
      by_cases hid : id = done
      · subst hid
        have hlt : id < self.img.downloads.length := (List.getElem?_eq_some_iff.1 hdownload).1
        simp [PosterView.didDownload, List.getElem?_set_self hlt, hdownload]
      · simp [PosterView.didDownload, List.getElem?_set_ne (Ne.symm hid)]

/-- It makes no download outstanding, and only the completion of one takes it off. -/
theorem QuietCase.outstanding_iff (h : QuietCase self e next) (id : Nat) :
    next.img.Outstanding id ↔ self.img.Outstanding id ∧ e ≠ .didDownload id := by
  cases h with
  | movieInfo | prepareForReuse =>
      exact ⟨fun hout => ⟨hout, by simp⟩, fun hout => hout.1⟩
  | @didDownload done download hdownload hopen =>
      have hlt : done < self.img.downloads.length := (List.getElem?_eq_some_iff.1 hdownload).1
      by_cases hid : done = id
      · subst hid
        simp [PosterView.Outstanding, PosterView.didDownload, List.getElem?_set_self hlt]
      · simp [PosterView.Outstanding, PosterView.didDownload, List.getElem?_set_ne hid, hid]

end Steps

/-! ## The size constraints of the title -/

theorem subset_foldl_union {α β : Type} {grow : Set α → β → Set α} (xs : List β)
    (start : Set α) : start ⊆ xs.foldl (fun set x => set ∪ grow set x) start := by
  induction xs generalizing start with
  | nil =>
      exact subset_rfl
  | cons x xs ih =>
      calc start
          ⊆ start ∪ grow start x := Set.subset_union_left
        _ ⊆ xs.foldl (fun set x => set ∪ grow set x) (start ∪ grow start x) := ih _

/-- A set that grows by what it gives rise to stays as it is exactly when it gives rise to nothing
new. -/
theorem foldl_union_eq_self_iff {α β : Type} {grow : Set α → β → Set α} {start : Set α}
    {xs : List β} :
    xs.foldl (fun set x => set ∪ grow set x) start = start ↔ ∀ x ∈ xs, grow start x ⊆ start := by
  induction xs with
  | nil =>
      simp
  | cons x xs ih =>
      rw [List.foldl_cons, List.forall_mem_cons]
      constructor
      · intro h
        have hx : grow start x ⊆ start := by
          have hall := @subset_foldl_union α β grow xs (start ∪ grow start x)
          rw [h] at hall
          exact Set.subset_union_right.trans hall
        rw [Set.union_eq_self_of_subset_right hx] at h
        exact ⟨hx, ih.1 h⟩
      · intro h
        rw [Set.union_eq_self_of_subset_right h.1]
        exact ih.2 h.2

theorem constraints_subset_iff {size other : CGSize CGFloat} :
    {c | c ∈ size.constraints} ⊆ {c | c ∈ other.constraints} ↔ size = other := by
  constructor
  · intro h
    have hwidth : SizeConstraint.width size.width ∈ other.constraints :=
      h List.mem_cons_self
    have hheight : SizeConstraint.height size.height ∈ other.constraints :=
      h (List.mem_cons_of_mem _ List.mem_cons_self)
    simp only [CGSize.constraints, List.mem_cons, SizeConstraint.width.injEq, reduceCtorEq,
      SizeConstraint.height.injEq, List.not_mem_nil, or_false, false_or] at hwidth hheight
    cases size
    cases other
    cases hwidth
    cases hheight
    rfl
  · intro h
    rw [h]

/-- The size constraints after some movies were assigned to a fresh cell. -/
def constraintsAfter (fit : Fitting CGFloat) (movies : List MovieInfo) :
    Set (SizeConstraint CGFloat) :=
  movies.foldl (fun set movieInfo =>
    set ∪ {c | c ∈ (fit set (stringChange movieInfo.title)).constraints}) ∅

/-- They are those of one size exactly when all titles get this size. -/
theorem constraintsAfter_eq_iff {fit : Fitting CGFloat} {size : CGSize CGFloat}
    {first : MovieInfo} {later : List MovieInfo} :
    constraintsAfter fit (first :: later) = {c | c ∈ size.constraints} ↔
      FitTo fit size (first :: later) := by
  unfold constraintsAfter FitTo
  rw [List.foldl_cons, Set.empty_union]
  constructor
  · intro h
    -- the constraints of the first title are never removed
    have hfirst : fit ∅ (stringChange first.title) = size := by
      apply constraints_subset_iff.1
      rw [← h]
      exact subset_foldl_union later _
    refine ⟨hfirst, ?_⟩
    rw [hfirst] at h
    intro movieInfo hmem
    exact constraints_subset_iff.1 (foldl_union_eq_self_iff.1 h movieInfo hmem)
  · rintro ⟨hfirst, hlater⟩
    rw [hfirst]
    apply foldl_union_eq_self_iff.2
    intro movieInfo hmem
    exact constraints_subset_iff.2 (hlater movieInfo hmem)

/-! ## The poster -/

section Poster

variable {fit : Fitting CGFloat} {url : String → Option URL}
  {self next cell : MakeListMovieCollectionViewCell CGFloat URL} {e : Event} {es : List Event}

theorem QuietCase.currentDone (h : QuietCase self e next) (hdone : self.img.CurrentDone) :
    next.img.CurrentDone := by
  intro id htask hout
  rw [h.taskIdentifier] at htask
  exact hdone id htask ((h.outstanding_iff id).1 hout).1

/-- Once the current download is complete, an image is there only if it stays there. -/
theorem QuietCase.image_iff (h : QuietCase self e next) (hdone : self.img.CurrentDone)
    (image : PosterImage URL) :
    next.img.image = some image ↔ self.img.image = some image ∧ e ≠ .prepareForReuse := by
  cases h with
  | movieInfo =>
      exact ⟨fun himage => ⟨himage, by simp⟩, fun himage => himage.1⟩
  | prepareForReuse =>
      simp [MakeListMovieCollectionViewCell.prepareForReuse, PosterView.setImage]
  | @didDownload id download hdownload hopen =>
      have hother : self.img.taskIdentifier ≠ some id := by
        intro htask
        exact hdone id htask ⟨download, hdownload, hopen⟩
      simp [PosterView.didDownload, hother]

/-- In a run without a movie no event assigns one. -/
theorem quiet_of_movies (hquiet : movies es = []) : ∀ e ∈ es, e.movie = none :=
  List.filterMap_eq_nil_iff.1 hquiet

/-- In a run without a movie, started with the current download complete, an image stays until the
cell is prepared for reuse. -/
theorem run_image_iff (hquiet : movies es = []) (hdone : self.img.CurrentDone)
    (hrun : Transition.run (step fit url) self es = some cell) (image : PosterImage URL) :
    cell.img.image = some image ↔
      self.img.image = some image ∧ Event.prepareForReuse ∉ es := by
  refine Transition.run_iff_not_mem
    (I := fun cell => cell.img.CurrentDone) (Q := fun cell => cell.img.image = some image)
    ?_ hdone (quiet_of_movies hquiet) hrun
  intro self e next hdone hmovie hstep
  have hcase := quietCase hmovie hstep
  exact ⟨hcase.currentDone hdone, hcase.image_iff hdone image⟩

theorem run_taskIdentifier (hquiet : movies es = [])
    (hrun : Transition.run (step fit url) self es = some cell) :
    cell.img.taskIdentifier = self.img.taskIdentifier := by
  refine Transition.run_preserves (f := fun cell => cell.img.taskIdentifier) ?_
    (quiet_of_movies hquiet) hrun
  intro self e next hmovie hstep
  exact (quietCase hmovie hstep).taskIdentifier

theorem run_downloads_url (hquiet : movies es = [])
    (hrun : Transition.run (step fit url) self es = some cell) (id : Nat) :
    cell.img.downloads[id]?.map PosterDownload.url =
      self.img.downloads[id]?.map PosterDownload.url := by
  refine Transition.run_preserves (f := fun cell => cell.img.downloads[id]?.map PosterDownload.url)
    ?_ (quiet_of_movies hquiet) hrun
  intro self e next hmovie hstep
  exact (quietCase hmovie hstep).downloads_url id

/-- A download is outstanding after a run without a movie exactly when it was before and its
completion is not in the run. -/
theorem run_outstanding_iff (hquiet : movies es = [])
    (hrun : Transition.run (step fit url) self es = some cell) (id : Nat) :
    cell.img.Outstanding id ↔ self.img.Outstanding id ∧ Event.didDownload id ∉ es := by
  refine Transition.run_iff_not_mem
    (I := fun _ => True) (Q := fun cell => cell.img.Outstanding id)
    ?_ trivial (quiet_of_movies hquiet) hrun
  intro self e next _ hmovie hstep
  exact ⟨trivial, (quietCase hmovie hstep).outstanding_iff id⟩

theorem movies_append (es fs : List Event) : movies (es ++ fs) = movies es ++ movies fs :=
  List.filterMap_append

/-- From the completion of the view's task on, the image is the one loaded by it, until the cell is
prepared for reuse. -/
theorem run_completed_iff {id : Nat} {loaded : URL} {waiting shown : List Event}
    (hquiet : movies (waiting ++ .didDownload id :: shown) = [])
    (htask : self.img.taskIdentifier = some id)
    (hurl : self.img.downloads[id]?.map PosterDownload.url = some loaded)
    (hrun : Transition.run (step fit url) self (waiting ++ .didDownload id :: shown) = some cell)
    (image : PosterImage URL) :
    cell.img.image = some image ↔
      PosterImage.downloaded loaded = image ∧ Event.prepareForReuse ∉ shown := by
  rw [movies_append, List.append_eq_nil_iff] at hquiet
  rcases Transition.run_append.1 hrun with ⟨before, hwaiting, hrest⟩
  rcases Transition.run_cons.1 hrest with ⟨next, hstep, hshown⟩
  rcases step_didDownload_eq_some hstep with ⟨download, hdownload, _, rfl⟩
  have hmovies : movies shown = [] := hquiet.2
  have hnow : before.img.taskIdentifier = some id :=
    (run_taskIdentifier hquiet.1 hwaiting).trans htask
  have hloaded : download.url = loaded := by
    have hsame := run_downloads_url hquiet.1 hwaiting id
    rw [hdownload, hurl] at hsame
    exact Option.some.inj hsame
  -- the task of the view is complete now
  have hdone : (before.img.didDownload id download).CurrentDone := by
    intro current hcurrent hout
    have hid : current = id := Option.some.inj (hcurrent.symm.trans hnow)
    subst hid
    have hcase : QuietCase before (.didDownload current)
        { before with img := before.img.didDownload current download } :=
      quietCase rfl hstep
    exact ((hcase.outstanding_iff current).1 hout).2 rfl
  rw [run_image_iff hmovies hdone hshown image]
  simp [PosterView.didDownload, hnow, hloaded]

/-- The poster a movie should have. -/
def posterOf (url : String → Option URL) (movieInfo : MovieInfo) : Option (PosterImage URL) :=
  if movieInfo.image = "" then some .noposter else (url movieInfo.image).map .downloaded

theorem image_configuredOnce (movieInfo : MovieInfo) :
    (configuredOnce fit url movieInfo).img.image = posterOf url movieInfo := by
  unfold posterOf
  by_cases hempty : movieInfo.image = ""
  · simp [configuredOnce, setMovieInfo, configure, fresh, step, PosterView.setImage, hempty]
  · cases hurl : url movieInfo.image with
    | none =>
        simp [configuredOnce, setMovieInfo, configure, fresh, step, PosterView.kfSetImage, hempty,
          hurl]
    | some loaded =>
        simp [configuredOnce, setMovieInfo, configure, fresh, step, PosterView.kfSetImage,
          PosterView.didDownload, hempty, hurl]

/-- In a settled cell every download that was outstanding has completed. -/
theorem Settled.mem_of_outstanding (hsettled : cell.Settled) (hquiet : movies es = [])
    (hrun : Transition.run (step fit url) self es = some cell) {id : Nat}
    (hout : self.img.Outstanding id) : Event.didDownload id ∈ es := by
  by_contra hnot
  exact hsettled id ((run_outstanding_iff hquiet hrun id).2 ⟨hout, hnot⟩)

theorem settled_of_completed (h : cell.img.downloads.all PosterDownload.completed = true) :
    cell.Settled := by
  rintro id ⟨download, hdownload, hopen⟩
  have hcompleted := List.all_eq_true.1 h download (List.mem_of_getElem? hdownload)
  rw [hopen] at hcompleted
  cases hcompleted

/-- Without a poster: the plain assignment lasts if nothing else sets the image. -/
theorem noposter_iff (hquiet : movies es = []) (himage : self.img.image = some .noposter)
    (hrun : Transition.run (step fit url) self es = some cell) (hsettled : cell.Settled) :
    cell.img.image = some .noposter ↔
      self.img.CurrentDone ∧ Event.prepareForReuse ∉ es := by
  by_cases hdone : self.img.CurrentDone
  · rw [run_image_iff hquiet hdone hrun, himage]
    exact and_congr_left' (iff_of_true rfl hdone)
  · apply iff_of_false
    · -- the older download completes after the assignment
      simp only [PosterView.CurrentDone, not_forall, not_not] at hdone
      rcases hdone with ⟨id, htask, hout⟩
      rcases List.append_of_mem (hsettled.mem_of_outstanding hquiet hrun hout) with
        ⟨waiting, shown, rfl⟩
      rcases hout with ⟨download, hdownload, _⟩
      have hurl : self.img.downloads[id]?.map PosterDownload.url = some download.url := by
        rw [hdownload, Option.map_some]
      rw [run_completed_iff hquiet htask hurl hrun]
      rintro ⟨heq, _⟩
      cases heq
    · intro h
      exact hdone h.1

/-- With a poster: the loaded image lasts if the cell is not prepared for reuse after it came. -/
theorem downloaded_iff {id : Nat} {loaded : URL} (hquiet : movies es = [])
    (htask : self.img.taskIdentifier = some id)
    (hdownload : self.img.downloads[id]? = some { url := loaded })
    (hrun : Transition.run (step fit url) self es = some cell) (hsettled : cell.Settled) :
    cell.img.image = some (.downloaded loaded) ↔
      ∀ waiting shown, es = waiting ++ .didDownload id :: shown →
        Event.prepareForReuse ∉ shown := by
  have hurl : self.img.downloads[id]?.map PosterDownload.url = some loaded := by
    rw [hdownload, Option.map_some]
  constructor
  · intro himage waiting shown hes
    subst hes
    exact ((run_completed_iff hquiet htask hurl hrun _).1 himage).2
  · intro hkept
    have hout : self.img.Outstanding id := ⟨_, hdownload, rfl⟩
    rcases List.append_of_mem (hsettled.mem_of_outstanding hquiet hrun hout) with
      ⟨waiting, shown, hes⟩
    have hnot := hkept waiting shown hes
    subst hes
    exact (run_completed_iff hquiet htask hurl hrun _).2 ⟨rfl, hnot⟩

/-- The poster of a settled cell is the one its last movie should have exactly under the condition
for it. -/
theorem poster_iff {movieInfo : MovieInfo} (hquiet : movies es = [])
    (hrun : Transition.run (step fit url) (self.setMovieInfo fit url (some movieInfo)) es =
      some cell) (hsettled : cell.Settled) :
    cell.img.image = posterOf url movieInfo ↔ self.PosterKept url movieInfo es := by
  unfold posterOf PosterKept
  by_cases hempty : movieInfo.image = ""
  · rw [if_pos hempty, if_pos hempty]
    have himg : (self.setMovieInfo fit url (some movieInfo)).img =
        self.img.setImage (some .noposter) := if_pos hempty
    have himage : (self.setMovieInfo fit url (some movieInfo)).img.image = some .noposter := by
      rw [himg]
      rfl
    rw [noposter_iff hquiet himage hrun hsettled, himg]
    rfl
  · rw [if_neg hempty, if_neg hempty]
    have himg : (self.setMovieInfo fit url (some movieInfo)).img =
        self.img.kfSetImage (url movieInfo.image) := if_neg hempty
    cases hurl : url movieInfo.image with
    | none =>
        rw [hurl] at himg
        have hdone : (self.setMovieInfo fit url (some movieInfo)).img.CurrentDone := by
          intro id htask
          rw [himg] at htask
          cases htask
        refine iff_of_true ?_ (fun hsome => absurd hsome (by simp))
        apply Option.eq_none_iff_forall_ne_some.2
        intro image himage
        have hbefore := ((run_image_iff hquiet hdone hrun image).1 himage).1
        rw [himg] at hbefore
        cases hbefore
    | some loaded =>
        rw [hurl] at himg
        have htask : (self.setMovieInfo fit url (some movieInfo)).img.taskIdentifier =
            some self.img.downloads.length := by
          rw [himg]
          rfl
        have hdownload :
            (self.setMovieInfo fit url (some movieInfo)).img.downloads[self.img.downloads.length]? =
              some { url := loaded } := by
          rw [himg]
          exact List.getElem?_concat_length
        rw [Option.map_some, downloaded_iff hquiet htask hdownload hrun hsettled]
        constructor
        · intro hkept _
          exact hkept
        · intro hkept
          exact hkept rfl

end Poster

/-! ## The title -/

section Title

variable {fit : Fitting CGFloat} {url : String → Option URL}
  {self next cell : MakeListMovieCollectionViewCell CGFloat URL} {e : Event} {es : List Event}

theorem constraintsAfter_concat (ms : List MovieInfo) (movieInfo : MovieInfo) :
    constraintsAfter fit (ms ++ [movieInfo]) = constraintsAfter fit ms ∪
      {c | c ∈ (fit (constraintsAfter fit ms) (stringChange movieInfo.title)).constraints} := by
  simp [constraintsAfter, List.foldl_append]

/-- A movie adds the constraints of its size to those there are. -/
theorem sizeConstraints_setMovieInfo (movieInfo : MovieInfo) :
    {c | c ∈ (self.setMovieInfo fit url (some movieInfo)).title.sizeConstraints} =
      {c | c ∈ self.title.sizeConstraints} ∪
        {c | c ∈ (fit {c | c ∈ self.title.sizeConstraints}
          (stringChange movieInfo.title)).constraints} := by
  ext c
  exact List.mem_append

theorem title_run (hquiet : movies es = [])
    (hrun : Transition.run (step fit url) self es = some cell) : cell.title = self.title := by
  refine Transition.run_preserves (f := fun cell => cell.title) ?_ (quiet_of_movies hquiet) hrun
  intro self e next hmovie hstep
  exact (quietCase hmovie hstep).title

/-- The size constraints of a cell are determined by the movies it was assigned. -/
theorem sizeConstraints_run (hrun : Transition.run (step fit url) fresh es = some cell) :
    {c | c ∈ cell.title.sizeConstraints} = constraintsAfter fit (movies es) := by
  refine Transition.run_history
    (I := fun es cell => {c | c ∈ cell.title.sizeConstraints} = constraintsAfter fit (movies es))
    ?_ ?_ hrun
  · intro es self e next hself hstep
    rw [movies_append]
    cases hmovie : e.movie with
    | none =>
        have hnone : movies [e] = [] := by
          simp [movies, hmovie]
        rw [(quietCase hmovie hstep).title, hnone, List.append_nil]
        exact hself
    | some movieInfo =>
        have hsome : movies [e] = [movieInfo] := by
          simp [movies, hmovie]
        have he : e = .movieInfo (some movieInfo) := by
          cases e with
          | movieInfo value =>
              exact congrArg Event.movieInfo hmovie
          | prepareForReuse | didDownload _ =>
              cases hmovie
        subst he
        cases hstep
        rw [hsome, constraintsAfter_concat, sizeConstraints_setMovieInfo, hself]
  · simp [fresh, movies, constraintsAfter]

theorem title_configuredOnce (movieInfo : MovieInfo) :
    (configuredOnce fit url movieInfo).title =
      ((fresh : MakeListMovieCollectionViewCell CGFloat URL).setMovieInfo fit url
        (some movieInfo)).title := by
  unfold configuredOnce
  cases hstep : ((fresh : MakeListMovieCollectionViewCell CGFloat URL).setMovieInfo fit url
      (some movieInfo)).step fit url (.didDownload 0) with
  | none =>
      simp only [hstep, Option.getD_none]
  | some cell =>
      simp only [hstep, Option.getD_some]
      exact (quietCase rfl hstep).title

theorem sizeConstraints_configuredOnce (movieInfo : MovieInfo) :
    {c | c ∈ (configuredOnce fit url movieInfo).title.sizeConstraints} =
      {c | c ∈ (fit ∅ (stringChange movieInfo.title)).constraints} := by
  have hempty :
      {c | c ∈ (fresh : MakeListMovieCollectionViewCell CGFloat URL).title.sizeConstraints} =
        ∅ := by
    simp [fresh]
  rw [title_configuredOnce, sizeConstraints_setMovieInfo, hempty, Set.empty_union]

/-- A cell has the size constraints of a fresh one with the last movie exactly when all titles so
far get the size of the last one. -/
theorem sizeConstraints_iff {earlier : List MovieInfo} {movieInfo : MovieInfo}
    (hrun : Transition.run (step fit url) fresh es = some cell)
    (hmovies : movies es = earlier ++ [movieInfo]) :
    (∀ c, c ∈ cell.title.sizeConstraints ↔
      c ∈ (configuredOnce fit url movieInfo).title.sizeConstraints) ↔
      FitTo fit (fit ∅ (stringChange movieInfo.title)) (earlier ++ [movieInfo]) := by
  calc (∀ c, c ∈ cell.title.sizeConstraints ↔
        c ∈ (configuredOnce fit url movieInfo).title.sizeConstraints)
      ↔ {c | c ∈ cell.title.sizeConstraints} =
          {c | c ∈ (configuredOnce fit url movieInfo).title.sizeConstraints} :=
        Set.ext_iff.symm
    _ ↔ constraintsAfter fit (earlier ++ [movieInfo]) =
          {c | c ∈ (fit ∅ (stringChange movieInfo.title)).constraints} := by
        rw [sizeConstraints_run hrun, hmovies, sizeConstraints_configuredOnce]
    _ ↔ FitTo fit (fit ∅ (stringChange movieInfo.title)) (earlier ++ [movieInfo]) := by
        cases hms : earlier ++ [movieInfo] with
        | nil =>
            cases List.append_ne_nil_of_right_ne_nil _ (List.cons_ne_nil movieInfo []) hms
        | cons first later =>
            exact constraintsAfter_eq_iff

end Title

/-! ## Reuse -/

/-- A settled cell, whatever it was used for before, looks like a fresh one configured once with
the last movie if and only if all titles so far get the size of the last one and its poster is
kept. -/
theorem reuse_transparent_iff (fit : Fitting CGFloat) (url : String → Option URL)
    {before after : List Event} {movieInfo : MovieInfo}
    {self cell : MakeListMovieCollectionViewCell CGFloat URL}
    (hbefore : Transition.run (step fit url) fresh before = some self)
    (hafter : Transition.run (step fit url) self (.movieInfo (some movieInfo) :: after) = some cell)
    (hlast : movies after = []) (hsettled : cell.Settled) :
    cell.LooksLike (configuredOnce fit url movieInfo) ↔
      FitTo fit (fit ∅ (stringChange movieInfo.title)) (movies before ++ [movieInfo]) ∧
        self.PosterKept url movieInfo after := by
  rcases Transition.run_cons.1 hafter with ⟨next, hassign, hrest⟩
  cases hassign
  have htext : cell.title.text = (configuredOnce fit url movieInfo).title.text := by
    rw [title_run hlast hrest, title_configuredOnce]
    rfl
  have hposter :
      cell.img.image = (configuredOnce fit url movieInfo).img.image ↔
        self.PosterKept url movieInfo after := by
    rw [image_configuredOnce]
    exact poster_iff hlast hrest hsettled
  have hmovies : movies (before ++ .movieInfo (some movieInfo) :: after) =
      movies before ++ [movieInfo] := by
    have hassigned : movies (.movieInfo (some movieInfo) :: after) = movieInfo :: movies after :=
      rfl
    rw [movies_append, hassigned, hlast]
  have hconstraints := sizeConstraints_iff
    (Transition.run_append.2 ⟨self, hbefore, hafter⟩) hmovies
  constructor
  · intro h
    exact ⟨hconstraints.1 h.sizeConstraints, hposter.1 h.poster⟩
  · intro h
    exact
      { poster := hposter.2 h.2
        text := htext
        sizeConstraints := hconstraints.2 h.1 }

end Cell

/-- A search result of which only title and image are given. -/
def sampleMovie (title image : String) : MovieInfo where
  title := title
  link := ""
  image := image
  subtitle := ""
  pubDate := ""
  director := ""
  actor := ""
  userRating := ""

/-- A label whose letters have one width, and the URLs that are not empty. -/
def sampleFitting : Fitting Nat := fun _ text => { width := text.length, height := 20 }

def sampleURL (string : String) : Option String := if string = "" then none else some string

/-- A cell that is reused for a title of the same size, with a poster that came last. -/
theorem reuse_transparent_sameSize :
    ∃ self cell, Transition.run (step sampleFitting sampleURL) fresh
        [.movieInfo (some (sampleMovie "Up" "https://a.b/1.jpg")), .didDownload 0,
          .prepareForReuse] = some self ∧
      Transition.run (step sampleFitting sampleURL) self
        [.movieInfo (some (sampleMovie "It" "https://a.b/2.jpg")), .didDownload 1] = some cell ∧
      cell.LooksLike
        (configuredOnce sampleFitting sampleURL (sampleMovie "It" "https://a.b/2.jpg")) := by
  refine ⟨_, _, rfl, rfl, ?_⟩
  refine (@reuse_transparent_iff Nat String sampleFitting sampleURL
    [.movieInfo (some (sampleMovie "Up" "https://a.b/1.jpg")), .didDownload 0, .prepareForReuse]
    [.didDownload 1] (sampleMovie "It" "https://a.b/2.jpg") _ _ rfl rfl rfl
    (settled_of_completed rfl)).2 ⟨?_, ?_⟩
  · refine ⟨by decide +kernel, ?_⟩
    intro movieInfo hmem
    cases List.mem_singleton.1 hmem
    decide +kernel
  · unfold PosterKept
    rw [if_neg (by decide)]
    intro _ waiting shown hsplit hmem
    have hlater : Event.prepareForReuse ∈ [Event.didDownload 1] := by
      rw [hsplit]
      exact List.mem_append_right _ (List.mem_cons_of_mem _ hmem)
    exact absurd hlater (by decide)

/-- The title keeps the size of an earlier movie, and an earlier poster comes over "noposter". -/
theorem reuse_not_transparent :
    (∃ cell, Transition.run (step sampleFitting sampleURL) fresh
        [.movieInfo (some (sampleMovie "Up" "https://a.b/1.jpg")), .didDownload 0,
          .prepareForReuse, .movieInfo (some (sampleMovie "Heat" "https://a.b/2.jpg")),
          .didDownload 1] = some cell ∧ cell.Settled ∧
      ¬ cell.LooksLike
        (configuredOnce sampleFitting sampleURL (sampleMovie "Heat" "https://a.b/2.jpg"))) ∧
    (∃ cell, Transition.run (step sampleFitting sampleURL) fresh
        [.movieInfo (some (sampleMovie "Up" "https://a.b/1.jpg")), .prepareForReuse,
          .movieInfo (some (sampleMovie "It" "")), .didDownload 0] = some cell ∧ cell.Settled ∧
      ¬ cell.LooksLike (configuredOnce sampleFitting sampleURL (sampleMovie "It" ""))) := by
  refine ⟨⟨_, rfl, settled_of_completed rfl, fun h => ?_⟩,
    ⟨_, rfl, settled_of_completed rfl, fun h => ?_⟩⟩
  · have hwidth := (h.sizeConstraints (.width 2)).1 (by decide +kernel)
    exact absurd hwidth (by decide +kernel)
  · exact absurd h.poster (by decide +kernel)

end MakeListMovieCollectionViewCell

end MoviePlayList
