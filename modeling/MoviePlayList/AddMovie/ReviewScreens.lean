import MoviePlayList.AddMovie.ReviewListener
import MoviePlayList.Search.MovieDetailViewController

/-!
# ReviewScreens — review screens, their listeners and the signed-in user

The tab bar holds two navigation controllers.  The profile screen is pushed over the root of either;
detail and review screens are pushed in the search one.  A review screen registers its listener when
it loads, for the user signed in at that moment; `Service.downReview` drops the registration, so
nothing ever removes it.  Sending reads the current user again.

Screens are numbered in the order they load.  The field `loadedBy` is history: the user who was
signed in when the screen loaded.
-/

namespace MoviePlayList

open Firestore

inductive Tab
  | main
  | search
  deriving DecidableEq

/-- A screen above the root of a navigation controller. -/
inductive Screen
  | profile
  | detail (vc : MovieDetailViewController)
  | addMovie (id : Nat)
  deriving DecidableEq

structure AddMovieScreen where
  vc : AddMovieViewController
  loadedBy : Option Uid
  deriving DecidableEq

/-- A registered snapshot listener and the screen its completion captures. -/
structure ActiveListener where
  screen : Nat
  query : Query
  listener : ReviewListener
  deriving DecidableEq

/-- A review document, where it is stored and who sent it. -/
structure StoredReview where
  target : CollectionReference
  author : Uid
  document : ReviewDocument
  deriving DecidableEq

structure ReviewScreens where
  currentUser : Option Uid
  selected : Tab := .main
  mainStack : List Screen := []
  searchStack : List Screen := []
  screens : List AddMovieScreen := []
  listeners : List ActiveListener := []
  stored : List StoredReview := []
  deriving DecidableEq

namespace ReviewScreens

/-! ## The navigation stacks -/

/-- The stack of the selected tab, the screen in front first. -/
def stack (self : ReviewScreens) : List Screen :=
  match self.selected with
  | .main => self.mainStack
  | .search => self.searchStack

def withStack (self : ReviewScreens) (stack : List Screen) : ReviewScreens :=
  match self.selected with
  | .main => { self with mainStack := stack }
  | .search => { self with searchStack := stack }

/-- `ProfileViewController.viewWillDisappear` pops the profile screen when its tab is left. -/
def viewWillDisappear (self : ReviewScreens) : ReviewScreens :=
  match self.stack with
  | .profile :: rest => self.withStack rest
  | _ => self

@[simp] theorem screens_withStack (self : ReviewScreens) (stack : List Screen) :
    (self.withStack stack).screens = self.screens := by
  unfold withStack
  split <;> rfl

@[simp] theorem listeners_withStack (self : ReviewScreens) (stack : List Screen) :
    (self.withStack stack).listeners = self.listeners := by
  unfold withStack
  split <;> rfl

@[simp] theorem stored_withStack (self : ReviewScreens) (stack : List Screen) :
    (self.withStack stack).stored = self.stored := by
  unfold withStack
  split <;> rfl

/-! ## The handlers -/

/-- A new review screen is pushed and loads: `viewDidLoad` calls `downReviews`.  A title that is no
collection path throws. -/
def pushAddMovie (self : ReviewScreens) (vc : AddMovieViewController) : Option ReviewScreens :=
  match vc.downReviews self.currentUser with
  | .error _ => none
  | .ok query? =>
      let id := self.screens.length
      -- `downReview` returns early with nobody signed in; no registration is kept
      let listener? := query?.map fun query =>
        { screen := id, query := query, listener := .registered [] }
      some { self with
        searchStack := .addMovie id :: self.searchStack
        screens := self.screens ++ [{ vc := vc, loadedBy := self.currentUser }]
        listeners := self.listeners ++ listener?.toList }

/-- `MovieDetailViewController.addList`, on the detail screen in front. -/
def addList (self : ReviewScreens) : Option ReviewScreens :=
  match self.searchStack with
  | .detail vc :: _ => do
      let addMovie ← vc.addList
      self.pushAddMovie addMovie
  | _ => none

/-- `AddMovieViewController.didTapPosterButton`, on the review screen in front. -/
def didTapPosterButton (self : ReviewScreens) : Option ReviewScreens :=
  match self.searchStack with
  | .addMovie id :: _ => do
      let screen ← self.screens[id]?
      let movie ← screen.vc.movieInfo
      -- a second detail screen over the review screen; its `addList` makes another review screen
      return { self with searchStack := .detail (.opened movie) :: self.searchStack }
  | _ => none

/-- `uploadReview` on some device of this user; Firestore picks a fresh document id. -/
def store (self : ReviewScreens) (author : Uid) (date : Timestamp) (review movieTitle : String)
    (documentId : String) : Option ReviewScreens :=
  match uploadReview (some author) date review movieTitle with
  | .ok (some (target, _)) =>
      if documentId ∈ self.stored.map (·.document.id) then
        -- the id is not fresh
        none
      else
        some { self with
          stored := self.stored ++ [⟨target, author, ⟨documentId, review, movieTitle, date⟩⟩] }
  | _ => none

/-- `AddMovieViewController.inputView(_:wantsToSend:)`, on the review screen in front. -/
def wantsToSend (self : ReviewScreens) (date : Timestamp) (message documentId : String) :
    Option ReviewScreens :=
  match self.searchStack with
  | .addMovie id :: _ => do
      let screen ← self.screens[id]?
      let movie ← screen.vc.movieInfo
      match self.currentUser with
      -- `guard let currentUid = … else { return }`
      | none => return self
      -- the user is read again here, not taken from the time of loading
      | some uid => self.store uid date message movie.title documentId
  | _ => none

/-- `didTapPersonButton` of the root screen in front, of either tab. -/
def didTapPersonButton (self : ReviewScreens) : Option ReviewScreens :=
  if self.stack = [] then some (self.withStack [.profile]) else none

/-- `ProfileViewController.didTapBackButton` -/
def leaveProfile (self : ReviewScreens) : Option ReviewScreens :=
  match self.stack with
  | .profile :: rest => some (self.withStack rest)
  | _ => none

/-- `ProfileViewController.didTapMenuButton`, confirmed: sign out, and when the login flow is up,
pop the profile screen and select the first tab. -/
def signOut (self : ReviewScreens) : Option ReviewScreens :=
  match self.stack with
  | .profile :: rest =>
      -- the other screens of both stacks stay
      some { self.withStack rest with currentUser := none, selected := .main }
  | _ => none

/-- A tap on the tab bar.  The selected tab pops to its root. -/
def didSelectTab (self : ReviewScreens) (tab : Tab) : ReviewScreens :=
  if self.selected = tab then
    self.withStack []
  else
    { self.viewWillDisappear with selected := tab }

/-- `AddMovieViewController.didTapBackButton` and `MovieDetailViewController.back`. -/
def didTapBackButton (self : ReviewScreens) : Option ReviewScreens :=
  match self.searchStack with
  | .addMovie _ :: _ | .detail _ :: _ => some { self with searchStack := [] }
  | _ => none

/-- What is stored in a collection. -/
def documentsIn (self : ReviewScreens) (target : CollectionReference) : List ReviewDocument :=
  (self.stored.filter fun review => review.target = target).map StoredReview.document

/-- A listener gets a snapshot of its collection; a document that was added is in it.  The
completion hands the reviews to the screen, wherever that is. -/
def snapshot (self : ReviewScreens) (k : Nat) (now : Timestamp) (changes : List DocumentChange)
    (documents : List ReviewDocument) : Option ReviewScreens := do
  let active ← self.listeners[k]?
  if ListEdit.inserted changes ⊆ documents then
    -- what the listener sees is the collection of its own query, whoever is signed in
    let visible := { active.listener with stored := self.documentsIn active.query.source }
    -- the closure runs the body of `downReview` on the changes
    let listener ← visible.step (.snapshot now changes documents)
    return { self with
      listeners := self.listeners.set k { active with listener := listener }
      screens := self.screens.modify active.screen fun screen =>
        { screen with vc := { screen.vc with review := listener.displayed } } }
  else
    none

/-! ## Runs -/

inductive Event
  | signIn (uid : Uid)
  | signOut
  | didSelectTab (tab : Tab)
  | didTapPersonButton
  | leaveProfile
  /-- `MakeListViewController.didSelectItemAt` -/
  | didSelectItemAt (movie : MovieInfo)
  | addList
  | didTapPosterButton
  | didTapBackButton
  | wantsToSend (date : Timestamp) (message documentId : String)
  /-- another device of a user sends a review -/
  | otherDevice (author : Uid) (date : Timestamp) (message movieTitle documentId : String)
  | snapshot (k : Nat) (now : Timestamp) (changes : List DocumentChange)
      (documents : List ReviewDocument)

def step (self : ReviewScreens) : Event → Option ReviewScreens
  | .signIn uid =>
      if self.currentUser = none then some { self with currentUser := some uid } else none
  | .signOut => self.signOut
  | .didSelectTab tab => some (self.didSelectTab tab)
  | .didTapPersonButton => self.didTapPersonButton
  | .leaveProfile => self.leaveProfile
  | .didSelectItemAt movie =>
      if self.selected = .search ∧ self.searchStack = [] then
        some { self with searchStack := [.detail (.opened movie)] }
      else
        none
  | .addList => if self.selected = .search then self.addList else none
  | .didTapPosterButton => if self.selected = .search then self.didTapPosterButton else none
  | .didTapBackButton => if self.selected = .search then self.didTapBackButton else none
  | .wantsToSend date message documentId =>
      if self.selected = .search then self.wantsToSend date message documentId else none
  | .otherDevice author date message movieTitle documentId =>
      self.store author date message movieTitle documentId
  | .snapshot k now changes documents => self.snapshot k now changes documents

/-- After launch, with a sign-in that may have been kept. -/
def launched (currentUser : Option Uid) : ReviewScreens := { currentUser := currentUser }

variable {s t : ReviewScreens}

/-! ## What holds in every state -/

/-- The review is stored in the collection. -/
def Holds (s : ReviewScreens) (target : CollectionReference) (review : Review) : Prop :=
  ∃ stored ∈ s.stored, stored.target = target ∧ stored.document.review = review

/-- Listeners and screens belong together: a screen loaded by a user has its one listener, on the
collection of its title below this user, and displays what the listener has captured there. -/
structure Paired (s : ReviewScreens) : Prop where
  unique : ∀ {i j : Nat} {a b : ActiveListener}, s.listeners[i]? = some a →
    s.listeners[j]? = some b → a.screen = b.screen → i = j
  registered : ∀ {i : Nat} {a : ActiveListener}, s.listeners[i]? = some a →
    ∃ (screen : AddMovieScreen) (uid : Uid) (movie : MovieInfo),
      s.screens[a.screen]? = some screen ∧ screen.loadedBy = some uid ∧
        screen.vc.movieInfo = some movie ∧ reviewCollection uid movie.title = .ok a.query.source
  listening : ∀ {id : Nat} {screen : AddMovieScreen}, s.screens[id]? = some screen →
    screen.loadedBy ≠ none → ∃ (i : Nat) (a : ActiveListener),
      s.listeners[i]? = some a ∧ a.screen = id
  empty : ∀ {id : Nat} {screen : AddMovieScreen}, s.screens[id]? = some screen →
    screen.loadedBy = none → screen.vc.review = []
  shown : ∀ {i : Nat} {a : ActiveListener} {screen : AddMovieScreen}, s.listeners[i]? = some a →
    s.screens[a.screen]? = some screen → screen.vc.review = a.listener.displayed
  captured : ∀ {i : Nat} {a : ActiveListener}, s.listeners[i]? = some a →
    a.listener.DisplaysCaptured ∧ ∀ review ∈ a.listener.reviews, s.Holds a.query.source review
  authored : ∀ stored ∈ s.stored, ∃ title,
    reviewCollection stored.author title = .ok stored.target

/-- A step that leaves screens, listeners and reviews. -/
theorem Paired.of_eq (h : s.Paired) (hscreens : t.screens = s.screens)
    (hlisteners : t.listeners = s.listeners) (hstored : t.stored = s.stored) : t.Paired := by
  cases s
  cases t
  cases hscreens
  cases hlisteners
  cases hstored
  exact ⟨h.unique, h.registered, h.listening, h.empty, h.shown, h.captured, h.authored⟩

theorem Paired.withStack (h : s.Paired) (stack : List Screen) : (s.withStack stack).Paired :=
  h.of_eq (screens_withStack s stack) (listeners_withStack s stack) (stored_withStack s stack)

theorem Paired.viewWillDisappear (h : s.Paired) : s.viewWillDisappear.Paired := by
  unfold ReviewScreens.viewWillDisappear
  split
  · exact h.withStack _
  · exact h

theorem Paired.store (h : s.Paired) {author : Uid} {date : Timestamp}
    {review movieTitle documentId : String}
    (hstep : s.store author date review movieTitle documentId = some t) : t.Paired := by
  unfold ReviewScreens.store at hstep
  split at hstep
  · next target data hupload =>
      simp only [Option.ite_none_left_eq_some, Option.some.injEq] at hstep
      rcases hstep with ⟨_, rfl⟩
      -- only the stored reviews grow
      refine ⟨h.unique, h.registered, h.listening, h.empty, h.shown, ?_, ?_⟩
      · intro i a hi
        refine ⟨(h.captured hi).1, fun r hr => ?_⟩
        rcases (h.captured hi).2 r hr with ⟨stored, hmem, htarget, hreview⟩
        exact ⟨stored, List.mem_append_left _ hmem, htarget, hreview⟩
      · intro stored hmem
        rcases List.mem_append.1 hmem with hold | hnew
        · exact h.authored stored hold
        · cases List.mem_singleton.1 hnew
          exact ⟨movieTitle, (uploadReview_eq_ok.1 hupload).1⟩
  · cases hstep

theorem Paired.screen_lt (h : s.Paired) {i : Nat} {a : ActiveListener}
    (hi : s.listeners[i]? = some a) : a.screen < s.screens.length := by
  rcases h.registered hi with ⟨screen, _, _, hscreen, _⟩
  exact (List.getElem?_eq_some_iff.1 hscreen).1

/-- Without a user nothing is listened to, otherwise the collection below this user. -/
theorem downReviews_eq_ok {user : Option Uid} {movie : MovieInfo} {query? : Option Query}
    (h : AddMovieViewController.downReviews { movieInfo := some movie } user = .ok query?) :
    (user = none ∧ query? = none) ∨ ∃ uid query, user = some uid ∧ query? = some query ∧
      reviewCollection uid movie.title = .ok query.source := by
  cases user with
  | none =>
      cases h
      exact .inl ⟨rfl, rfl⟩
  | some uid =>
      cases hc : reviewCollection uid movie.title with
      | error msg =>
          simp [AddMovieViewController.downReviews, downReview, hc, bind, Except.bind] at h
      | ok source =>
          simp only [AddMovieViewController.downReviews, downReview, hc, bind, Except.bind, pure,
            Except.pure, Except.ok.injEq] at h
          exact .inr ⟨uid, _, rfl, h.symm, hc⟩

/-- A review screen of a movie loads: one screen more, and one listener more if somebody is signed
in. -/
theorem pushAddMovie_eq_some {movie : MovieInfo}
    (hstep : s.pushAddMovie { movieInfo := some movie } = some t) :
    ∃ listener? : Option ActiveListener,
      t.screens = s.screens ++ [⟨{ movieInfo := some movie }, s.currentUser⟩] ∧
      t.listeners = s.listeners ++ listener?.toList ∧ t.stored = s.stored ∧
      (s.currentUser = none ∧ listener? = none ∨
        ∃ uid query, s.currentUser = some uid ∧ reviewCollection uid movie.title = .ok query.source ∧
          listener? = some ⟨s.screens.length, query, .registered []⟩) := by
  unfold ReviewScreens.pushAddMovie at hstep
  split at hstep
  · cases hstep
  · next query? hquery =>
      cases hstep
      refine ⟨_, rfl, rfl, rfl, ?_⟩
      rcases downReviews_eq_ok hquery with ⟨hnone, rfl⟩ | ⟨uid, query, huser, rfl, hsource⟩
      · exact .inl ⟨hnone, rfl⟩
      · exact .inr ⟨uid, query, huser, hsource, rfl⟩

theorem Paired.pushAddMovie (h : s.Paired) {movie : MovieInfo}
    (hstep : s.pushAddMovie { movieInfo := some movie } = some t) : t.Paired := by
  rcases pushAddMovie_eq_some hstep with ⟨listener?, hscreens, hlisteners, hstored, huser⟩
  have hscreen : ∀ {id : Nat} {screen : AddMovieScreen}, t.screens[id]? = some screen ↔
      s.screens[id]? = some screen ∨ id = s.screens.length ∧
        ⟨{ movieInfo := some movie }, s.currentUser⟩ = screen := by
    intro id screen
    rw [hscreens, ListEdit.getElem?_concat]
  have hlistener : ∀ {i : Nat} {a : ActiveListener}, t.listeners[i]? = some a ↔
      s.listeners[i]? = some a ∨ i = s.listeners.length ∧ listener? = some a := by
    intro i a
    rw [hlisteners, ListEdit.getElem?_append_toList]
  -- the listener that is new, if there is one, has the screen that is new
  have hnew : ∀ {a : ActiveListener}, listener? = some a → ∃ uid query, s.currentUser = some uid ∧
      reviewCollection uid movie.title = .ok query.source ∧
        a = ⟨s.screens.length, query, .registered []⟩ := by
    intro a ha
    rcases huser with ⟨_, hnone⟩ | ⟨uid, query, hsigned, hsource, hsome⟩
    · cases ha.symm.trans hnone
    · cases ha.symm.trans hsome
      exact ⟨uid, query, hsigned, hsource, rfl⟩
  refine ⟨?_, ?_, ?_, ?_, ?_, ?_, ?_⟩
  · intro i j a b hi hj hab
    rcases hlistener.1 hi with hold | ⟨rfl, ha⟩ <;> rcases hlistener.1 hj with hold' | ⟨rfl, hb⟩
    · exact h.unique hold hold' hab
    · rcases hnew hb with ⟨_, _, _, _, rfl⟩
      exact absurd hab (Nat.ne_of_lt (h.screen_lt hold))
    · rcases hnew ha with ⟨_, _, _, _, rfl⟩
      exact absurd hab (Nat.ne_of_gt (h.screen_lt hold'))
    · rfl
  · intro i a hi
    rcases hlistener.1 hi with hold | ⟨_, ha⟩
    · rcases h.registered hold with ⟨screen, uid, movie', hid, hrest⟩
      exact ⟨screen, uid, movie', hscreen.2 (.inl hid), hrest⟩
    · -- it listens for the user who is signed in now
      rcases hnew ha with ⟨uid, query, hsigned, hsource, rfl⟩
      exact ⟨_, uid, movie, hscreen.2 (.inr ⟨rfl, rfl⟩), hsigned, rfl, hsource⟩
  · intro id screen hid hloaded
    rcases hscreen.1 hid with hold | ⟨rfl, rfl⟩
    · rcases h.listening hold hloaded with ⟨i, a, hi, ha⟩
      exact ⟨i, a, hlistener.2 (.inl hi), ha⟩
    · rcases huser with ⟨hnone, _⟩ | ⟨uid, query, _, _, hsome⟩
      · exact absurd hnone hloaded
      · exact ⟨s.listeners.length, _, hlistener.2 (.inr ⟨rfl, hsome⟩), rfl⟩
  · intro id screen hid hloaded
    rcases hscreen.1 hid with hold | ⟨_, rfl⟩
    · exact h.empty hold hloaded
    · rfl
  · intro i a screen hi hid
    rcases hlistener.1 hi with hold | ⟨_, ha⟩
    · rcases hscreen.1 hid with hold' | ⟨hlast, _⟩
      · exact h.shown hold hold'
      · exact absurd hlast (Nat.ne_of_lt (h.screen_lt hold))
    · rcases hnew ha with ⟨_, _, _, _, rfl⟩
      rcases hscreen.1 hid with hold | ⟨_, rfl⟩
      · exact absurd (List.getElem?_eq_some_iff.1 hold).1 (Nat.lt_irrefl _)
      · rfl
  · intro i a hi
    rcases hlistener.1 hi with hold | ⟨_, ha⟩
    · simpa only [Holds, hstored] using h.captured hold
    · rcases hnew ha with ⟨_, _, _, _, rfl⟩
      exact ⟨⟨rfl, rfl⟩, nofun⟩
  · simpa only [hstored] using h.authored

/-- What a snapshot does: one listener appends reviews of its collection, its screen shows them. -/
theorem snapshot_eq_some {k : Nat} {now : Timestamp} {changes : List DocumentChange}
    {documents : List ReviewDocument} (hstep : s.snapshot k now changes documents = some t) :
    ∃ active listener, s.listeners[k]? = some active ∧
      (active.listener.DisplaysCaptured → listener.DisplaysCaptured) ∧
      (∀ review ∈ listener.reviews, review ∈ active.listener.reviews ∨
        s.Holds active.query.source review) ∧
      t = { s with
        listeners := s.listeners.set k { active with listener := listener }
        screens := s.screens.modify active.screen fun screen =>
          { screen with vc := { screen.vc with review := listener.displayed } } } := by
  simp only [ReviewScreens.snapshot, bind, Option.bind_eq_some_iff, Option.ite_none_right_eq_some,
    pure, Option.some.injEq] at hstep
  rcases hstep with ⟨active, hactive, hadded, listener, hlistener, rfl⟩
  rcases ReviewListener.snapshot_eq_some hlistener with ⟨hreviews, hperm⟩
  refine ⟨active, listener, hactive, ?_, ?_, rfl⟩
  · intro hcaptured
    have hvisible : ReviewListener.DisplaysCaptured
        { active.listener with stored := s.documentsIn active.query.source } :=
      ⟨hcaptured.passed, hcaptured.displayed⟩
    exact ReviewListener.displaysCaptured_step hvisible hlistener
  · intro review hmem
    rw [hreviews] at hmem
    rcases List.mem_append.1 hmem with hold | hnew
    · exact .inl hold
    · -- an added document is in the result list, and that is what the collection stores
      rcases List.mem_map.1 hnew with ⟨document, hdocument, rfl⟩
      have hvisible := hperm.mem_iff.1 (hadded hdocument)
      rcases List.mem_map.1 hvisible with ⟨stored, hstored, rfl⟩
      rcases List.mem_filter.1 hstored with ⟨hmem', htarget⟩
      exact .inr ⟨stored, hmem', by simpa using htarget, rfl⟩

/-- Who loaded a screen, and for which movie, stays when the screen shows other reviews. -/
structure SameOrigin (screen old : AddMovieScreen) : Prop where
  loadedBy : screen.loadedBy = old.loadedBy
  movieInfo : screen.vc.movieInfo = old.vc.movieInfo

section Modify

variable {screens : List AddMovieScreen} {f : AddMovieScreen → AddMovieScreen} {shown id : Nat}

/-- The screens after one of them was changed were there before. -/
theorem screen_of_modify (hf : ∀ screen, SameOrigin (f screen) screen) {screen : AddMovieScreen}
    (h : (screens.modify shown f)[id]? = some screen) :
    ∃ old, screens[id]? = some old ∧ SameOrigin screen old ∧
      (id = shown → screen = f old) ∧ (id ≠ shown → screen = old) := by
  rcases ListEdit.getElem?_modify_eq_some.1 h with ⟨old, hold, hshown, hkept⟩
  refine ⟨old, hold, ?_, hshown, hkept⟩
  by_cases heq : id = shown
  · rw [hshown heq]
    exact hf old
  · rw [hkept heq]
    exact ⟨rfl, rfl⟩

/-- The screens there were before one of them was changed are still there. -/
theorem modify_of_screen (hf : ∀ screen, SameOrigin (f screen) screen) {old : AddMovieScreen}
    (h : screens[id]? = some old) :
    ∃ screen, (screens.modify shown f)[id]? = some screen ∧ SameOrigin screen old := by
  by_cases heq : id = shown
  · refine ⟨f old, ListEdit.getElem?_modify_eq_some.2 ?_, hf old⟩
    exact ⟨old, h, fun _ => rfl, fun hne => absurd heq hne⟩
  · refine ⟨old, ListEdit.getElem?_modify_eq_some.2 ?_, ⟨rfl, rfl⟩⟩
    exact ⟨old, h, fun hshown => absurd hshown heq, fun _ => rfl⟩

end Modify

theorem Paired.snapshot (h : s.Paired) {k : Nat} {now : Timestamp} {changes : List DocumentChange}
    {documents : List ReviewDocument} (hstep : s.snapshot k now changes documents = some t) :
    t.Paired := by
  rcases snapshot_eq_some hstep with ⟨active, listener, hactive, hcaptured, hreviews, rfl⟩
  -- one listener is replaced, and its screen and query stay
  have hlistener : ∀ {i : Nat} {a : ActiveListener},
      (s.listeners.set k { active with listener := listener })[i]? = some a ↔
        i = k ∧ a = { active with listener := listener } ∨ i ≠ k ∧ s.listeners[i]? = some a :=
    ListEdit.getElem?_set_eq_some hactive
  have hbefore : ∀ {i : Nat} {a : ActiveListener},
      (s.listeners.set k { active with listener := listener })[i]? = some a →
        ∃ old, s.listeners[i]? = some old ∧ a.screen = old.screen ∧ a.query = old.query := by
    intro i a hi
    rcases hlistener.1 hi with ⟨rfl, rfl⟩ | ⟨_, hi⟩
    · exact ⟨active, hactive, rfl, rfl⟩
    · exact ⟨a, hi, rfl, rfl⟩
  have horigin : ∀ screen : AddMovieScreen,
      SameOrigin { screen with vc := { screen.vc with review := listener.displayed } } screen :=
    fun _ => ⟨rfl, rfl⟩
  have hother : ∀ {i : Nat} {a : ActiveListener}, i ≠ k → s.listeners[i]? = some a →
      a.screen ≠ active.screen := by
    intro i a hne hi hsame
    exact hne (h.unique hi hactive hsame)
  refine ⟨?_, ?_, ?_, ?_, ?_, ?_, h.authored⟩
  · intro i j a b hi hj hab
    rcases hbefore hi with ⟨old, hold, hscreen, _⟩
    rcases hbefore hj with ⟨old', hold', hscreen', _⟩
    exact h.unique hold hold' (hscreen.symm.trans (hab.trans hscreen'))
  · intro i a hi
    rcases hbefore hi with ⟨old, hold, hsame, hquery⟩
    rcases h.registered hold with ⟨screen, uid, movie, hid, hloaded, hmovie, hsource⟩
    rcases @modify_of_screen _ _ active.screen _ horigin _ hid with ⟨next, hnext, hnow⟩
    rw [hsame, hquery]
    exact ⟨next, uid, movie, hnext, hnow.loadedBy.trans hloaded, hnow.movieInfo.trans hmovie,
      hsource⟩
  · intro id screen hid hloaded
    rcases screen_of_modify horigin hid with ⟨old, hold, hsame, _⟩
    rcases h.listening hold (hsame.loadedBy ▸ hloaded) with ⟨i, a, hi, ha⟩
    rcases eq_or_ne i k with rfl | hne
    · cases hactive.symm.trans hi
      exact ⟨i, _, hlistener.2 (.inl ⟨rfl, rfl⟩), ha⟩
    · exact ⟨i, a, hlistener.2 (.inr ⟨hne, hi⟩), ha⟩
  · intro id screen hid hloaded
    rcases screen_of_modify horigin hid with ⟨old, hold, hsame, _, hkept⟩
    have hloaded' : old.loadedBy = none := hsame.loadedBy.symm.trans hloaded
    -- a screen loaded with nobody signed in has no listener
    have hne : id ≠ active.screen := by
      rintro rfl
      rcases h.registered hactive with ⟨screen', uid, _, hid', hsigned, _⟩
      cases hold.symm.trans hid'
      cases hloaded'.symm.trans hsigned
    rw [hkept hne]
    exact h.empty hold hloaded'
  · intro i a screen hi hid
    rcases screen_of_modify horigin hid with ⟨old, hold, _, hshown, hkept⟩
    rcases hlistener.1 hi with ⟨rfl, rfl⟩ | ⟨hne, hi⟩
    · rw [hshown rfl]
    · rw [hkept (hother hne hi)]
      exact h.shown hi hold
  · intro i a hi
    rcases hlistener.1 hi with ⟨rfl, rfl⟩ | ⟨_, hi⟩
    · refine ⟨hcaptured (h.captured hactive).1, fun review hmem => ?_⟩
      rcases hreviews review hmem with hold | hnew
      · exact (h.captured hactive).2 review hold
      · exact hnew
    · exact h.captured hi

end ReviewScreens

end MoviePlayList
