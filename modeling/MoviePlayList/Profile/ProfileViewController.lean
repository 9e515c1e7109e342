import MoviePlayList.Api.UserService
import MoviePlayList.Lib.Transition

/-!
# ProfileViewController — the loading overlay over the profile screen

A profile screen asks for its user when it loads and shows the overlay right away.  The overlay is
hidden in one place, behind the guard of the property observer of `AuthUser`, and `LoginUser`
calls back only with a document.  There is one overlay for all screens, so that the answer to a
screen that was left hides it over the screen that is there now.

`overlay_law_iff` says in which runs the overlay is over the visible screen exactly while that
screen's own request is outstanding.
-/

namespace MoviePlayList

/-! ## The overlay -/

/-- `UIViewController.indicateView` with its `indicate`, one for all screens. -/
structure IndicateView where
  /-- the screen whose view it was added to last -/
  superview : Option Nat := none
  isHidden : Bool := true
  isAnimating : Bool := false
  deriving DecidableEq

namespace IndicateView

/-- `showIndicate()` of a screen; `addSubview` takes the view out of the screen it was in. -/
def showIndicate (_self : IndicateView) (screen : Nat) : IndicateView where
  superview := some screen
  isHidden := false
  isAnimating := true

/-- `stopIndicate()`, of whatever screen. -/
def stopIndicate (self : IndicateView) : IndicateView :=
  { self with isHidden := true, isAnimating := false }

/-- The overlay is over this screen. -/
def ShownOver (self : IndicateView) (screen : Nat) : Prop :=
  self.superview = some screen ∧ self.isHidden = false

theorem shownOver_showIndicate (self : IndicateView) (screen : Nat) :
    (self.showIndicate screen).ShownOver screen :=
  ⟨rfl, rfl⟩

theorem not_shownOver_stopIndicate (self : IndicateView) (screen : Nat) :
    ¬ self.stopIndicate.ShownOver screen := by
  intro h
  cases h.2

end IndicateView

/-! ## The request of a screen -/

/-- The users `LoginUser` calls its completion with, in the callback of `getDocument`. -/
def loginUserCompletion (error : Option NSError) (data : Option Dictionary) :
    Option {user : List User // user ≠ []} :=
  match error with
  | some _ => none
  | none =>
      match data with
      | none => none
      | some dictionary => some ⟨[User.init dictionary], List.cons_ne_nil _ _⟩

/-- The callback on the side of `Service` records this completion. -/
theorem didGetDocument_eq_setCall (backend : Backend) (id : Nat) (call : LoginUserCall) (uid : Uid)
    (error : Option NSError) :
    ∃ stage, backend.didGetDocument id call uid error =
      backend.setCall id (.loginUser
        { call with
          stage := stage
          completions := call.completions ++
            ((loginUserCompletion error (backend.users uid)).map Subtype.val).toList }) := by
  cases error with
  | some error =>
      refine ⟨.getFailed error, ?_⟩
      simp [Backend.didGetDocument, loginUserCompletion]
  | none =>
      cases hdata : backend.users uid with
      | none =>
          refine ⟨.noDocument, ?_⟩
          simp [Backend.didGetDocument, loginUserCompletion, hdata]
      | some dictionary =>
          refine ⟨.answered, ?_⟩
          simp [Backend.didGetDocument, loginUserCompletion, hdata]

inductive LoginUserRequest
  /-- there was no current user -/
  | notSent
  | outstanding
  | answered
  deriving DecidableEq

/-- A profile screen, with the URL its image button loads from. -/
structure ProfileViewController (URL : Type) where
  AuthUser : List User := []
  profileImage : Option URL := none
  request : LoginUserRequest

/-- All profile screens there have been, in the order they were pushed, and their overlay. -/
structure ProfileScreens (URL : Type) where
  screens : List (ProfileViewController URL) := []
  visible : Option Nat := none
  indicateView : IndicateView := {}

namespace ProfileScreens

variable {URL : Type}

/-- `viewDidLoad` of a screen that is pushed: `authUser()` sends the request, if there is a user,
and shows the overlay in either case. -/
def viewDidLoad (self : ProfileScreens URL) (currentUser : Option Uid) : ProfileScreens URL where
  screens := self.screens ++
    [{ request := if currentUser.isSome then .outstanding else .notSent }]
  visible := some self.screens.length
  indicateView := self.indicateView.showIndicate self.screens.length

/-- `AuthUser = user` and its `didSet`; `url` is `URL(string:)`. -/
def setAuthUser (url : String → Option URL) (self : ProfileScreens URL) (id : Nat)
    (screen : ProfileViewController URL) (user : {user : List User // user ≠ []}) :
    ProfileScreens URL :=
  match url (user.val.head user.property).profileImageUrl with
  | none => { self with screens := self.screens.set id { screen with AuthUser := user.val } }
  | some url =>
      { self with
        screens := self.screens.set id
          { screen with AuthUser := user.val, profileImage := some url }
        indicateView := self.indicateView.stopIndicate }

/-- The callback of `getDocument` for a screen; it keeps a screen that was left alive. -/
def didGetDocument (url : String → Option URL) (self : ProfileScreens URL) (id : Nat)
    (screen : ProfileViewController URL) (error : Option NSError) (data : Option Dictionary) :
    ProfileScreens URL :=
  let screen : ProfileViewController URL := { screen with request := .answered }
  match loginUserCompletion error data with
  | none => { self with screens := self.screens.set id screen }
  | some user => self.setAuthUser url id screen user

/-! ## Runs -/

inductive Event
  | pushViewController (currentUser : Option Uid)
  | popViewController
  | getDocument (id : Nat) (error : Option NSError) (data : Option Dictionary)

/-- One event; a profile screen is pushed from the list screens only, so never over another. -/
def step (url : String → Option URL) (self : ProfileScreens URL) :
    Event → Option (ProfileScreens URL)
  | .pushViewController currentUser =>
      match self.visible with
      | none => some (self.viewDidLoad currentUser)
      | some _ => none
  | .popViewController =>
      match self.visible with
      | none => none
      | some _ => some { self with visible := none }
  | .getDocument id error data =>
      match self.screens[id]? with
      | none => none
      | some screen =>
          if screen.request = .outstanding then
            some (self.didGetDocument url id screen error data)
          else
            none

/-- The program before the first profile screen. -/
def launched : ProfileScreens URL := {}

/-- What a step does. -/
inductive StepCase (url : String → Option URL) (self : ProfileScreens URL) :
    Event → ProfileScreens URL → Prop
  | push {currentUser : Option Uid} (hvisible : self.visible = none) :
      StepCase url self (.pushViewController currentUser) (self.viewDidLoad currentUser)
  | pop {v : Nat} (hvisible : self.visible = some v) :
      StepCase url self .popViewController { self with visible := none }
  | answer {id : Nat} {screen : ProfileViewController URL} {error : Option NSError}
      {data : Option Dictionary} (hscreen : self.screens[id]? = some screen)
      (hrequest : screen.request = .outstanding) :
      StepCase url self (.getDocument id error data)
        (self.didGetDocument url id screen error data)

theorem stepCase {url : String → Option URL} {self next : ProfileScreens URL} {e : Event}
    (h : self.step url e = some next) : StepCase url self e next := by
  cases e with
  | pushViewController currentUser =>
      cases hvisible : self.visible with
      | none =>
          simp only [step, hvisible, Option.some.injEq] at h
          subst h
          exact .push hvisible
      | some v =>
          simp only [step, hvisible] at h
          cases h
  | popViewController =>
      cases hvisible : self.visible with
      | none =>
          simp only [step, hvisible] at h
          cases h
      | some v =>
          simp only [step, hvisible, Option.some.injEq] at h
          subst h
          exact .pop hvisible
  | getDocument id error data =>
      cases hscreen : self.screens[id]? with
      | none =>
          simp only [step, hscreen] at h
          cases h
      | some screen =>
          simp only [step, hscreen, Option.ite_none_right_eq_some, Option.some.injEq] at h
          rcases h with ⟨hrequest, rfl⟩
          exact .answer hscreen hrequest

/-! ## The law and when it holds -/

/-- What became of the request of a screen. -/
def requestOf (self : ProfileScreens URL) (screen : Nat) : Option LoginUserRequest :=
  self.screens[screen]?.map ProfileViewController.request

/-- The overlay is over the visible screen exactly while that screen's request is outstanding. -/
def OverlayLaw (self : ProfileScreens URL) : Prop :=
  ∀ v, self.visible = some v →
    (self.indicateView.ShownOver v ↔ self.requestOf v = some .outstanding)

/-- The answer is a document with a string that is a URL. -/
def HasImage (url : String → Option URL) (error : Option NSError) (data : Option Dictionary) :
    Prop :=
  error = none ∧
    ∃ dictionary, data = some dictionary ∧
      (url (User.init dictionary).profileImageUrl).isSome = true

/-- A screen is pushed for a signed-in user; the visible screen's own answer has an image, and no
other answer has one while the visible screen waits. -/
def KeepsOverlay (url : String → Option URL) (self : ProfileScreens URL) : Event → Prop
  | .pushViewController currentUser => currentUser.isSome = true
  | .popViewController => True
  | .getDocument id error data => ∀ v, self.visible = some v →
      (id = v → HasImage url error data) ∧
        (id ≠ v → self.requestOf v = some .outstanding → ¬ HasImage url error data)

/-! ## One answer -/

section Answer

variable {url : String → Option URL} {self : ProfileScreens URL} {id : Nat}
  {screen : ProfileViewController URL} {error : Option NSError} {data : Option Dictionary}

@[simp] theorem visible_setAuthUser (user : {user : List User // user ≠ []}) :
    (self.setAuthUser url id screen user).visible = self.visible := by
  unfold setAuthUser
  split <;> rfl

@[simp] theorem visible_didGetDocument :
    (self.didGetDocument url id screen error data).visible = self.visible := by
  unfold didGetDocument
  cases loginUserCompletion error data with
  | none =>
      rfl
  | some user =>
      exact visible_setAuthUser user

/-- An answer with an image hides the overlay, any other leaves it. -/
theorem indicateView_didGetDocument :
    (HasImage url error data →
      (self.didGetDocument url id screen error data).indicateView =
        self.indicateView.stopIndicate) ∧
    (¬ HasImage url error data →
      (self.didGetDocument url id screen error data).indicateView = self.indicateView) := by
  cases error with
  | some error =>
      refine ⟨?_, fun _ => rfl⟩
      rintro ⟨herror, _⟩
      cases herror
  | none =>
      cases data with
      | none =>
          refine ⟨?_, fun _ => rfl⟩
          rintro ⟨_, dictionary, hdata, _⟩
          cases hdata
      | some dictionary =>
          simp only [didGetDocument, loginUserCompletion, setAuthUser, List.head_cons]
          cases hurl : url (User.init dictionary).profileImageUrl with
          | none =>
              -- the guard of `didSet` returns before `stopIndicate()`
              refine ⟨?_, fun _ => rfl⟩
              rintro ⟨_, dictionary', hdata, hsome⟩
              cases hdata
              rw [hurl] at hsome
              cases hsome
          | some image =>
              refine ⟨fun _ => rfl, fun hno => absurd ?_ hno⟩
              exact ⟨rfl, dictionary, rfl, Option.isSome_iff_exists.2 ⟨image, hurl⟩⟩

/-- An answer changes nothing but the screen it is for, and marks that one answered. -/
theorem screens_didGetDocument :
    ∃ changed : ProfileViewController URL, changed.request = .answered ∧
      (self.didGetDocument url id screen error data).screens = self.screens.set id changed := by
  unfold didGetDocument
  cases loginUserCompletion error data with
  | none =>
      exact ⟨_, rfl, rfl⟩
  | some user =>
      simp only [setAuthUser]
      cases url (user.val.head user.property).profileImageUrl with
      | none =>
          exact ⟨_, rfl, rfl⟩
      | some image =>
          exact ⟨_, rfl, rfl⟩

theorem requestOf_didGetDocument_self (hscreen : self.screens[id]? = some screen) :
    (self.didGetDocument url id screen error data).requestOf id = some .answered := by
  rcases @screens_didGetDocument URL url self id screen error data with ⟨changed, hanswered, hscreens⟩
  have hlt : id < self.screens.length := (List.getElem?_eq_some_iff.1 hscreen).1
  rw [requestOf, hscreens, List.getElem?_set_self hlt, Option.map_some, hanswered]

theorem requestOf_didGetDocument_of_ne {v : Nat} (hne : id ≠ v) :
    (self.didGetDocument url id screen error data).requestOf v = self.requestOf v := by
  rcases @screens_didGetDocument URL url self id screen error data with ⟨changed, _, hscreens⟩
  rw [requestOf, requestOf, hscreens, List.getElem?_set_ne hne]

/-- Under the law, an answer keeps it exactly when it hides the overlay for the screen it is for
and not for another one that waits. -/
theorem overlayLaw_didGetDocument_iff (hlaw : self.OverlayLaw)
    (hscreen : self.screens[id]? = some screen) (hrequest : screen.request = .outstanding) :
    (self.didGetDocument url id screen error data).OverlayLaw ↔
      self.KeepsOverlay url (.getDocument id error data) := by
  unfold OverlayLaw KeepsOverlay
  rw [visible_didGetDocument]
  apply forall₂_congr
  intro v hvisible
  have hbefore := hlaw v hvisible
  by_cases hid : id = v
  · -- the visible screen's own answer: the overlay has to go
    subst hid
    have hshown : self.indicateView.ShownOver id := by
      apply hbefore.2
      rw [requestOf, hscreen, Option.map_some, hrequest]
    rw [requestOf_didGetDocument_self hscreen]
    by_cases himage : HasImage url error data
    · rw [indicateView_didGetDocument.1 himage]
      refine iff_of_true ?_ ⟨fun _ => himage, fun hne => absurd rfl hne⟩
      exact iff_of_false (self.indicateView.not_shownOver_stopIndicate id) (by simp)
    · rw [indicateView_didGetDocument.2 himage]
      apply iff_of_false
      · intro hiff
        cases hiff.1 hshown
      · intro hkeeps
        exact himage (hkeeps.1 rfl)
  · -- the answer to a screen that was left
    rw [requestOf_didGetDocument_of_ne hid]
    by_cases himage : HasImage url error data
    · rw [indicateView_didGetDocument.1 himage]
      constructor
      · intro hiff
        refine ⟨fun heq => absurd heq hid, fun _ hwaits => ?_⟩
        exact absurd (hiff.2 hwaits) (self.indicateView.not_shownOver_stopIndicate v)
      · intro hkeeps
        apply iff_of_false (self.indicateView.not_shownOver_stopIndicate v)
        intro hwaits
        exact hkeeps.2 hid hwaits himage
    · rw [indicateView_didGetDocument.2 himage]
      exact iff_of_true hbefore ⟨fun heq => absurd heq hid, fun _ _ => himage⟩

end Answer

/-! ## Every run -/

section Run

variable {url : String → Option URL} {self next : ProfileScreens URL} {e : Event}

theorem requestOf_viewDidLoad (self : ProfileScreens URL) (currentUser : Option Uid) :
    (self.viewDidLoad currentUser).requestOf self.screens.length =
      some (if currentUser.isSome then .outstanding else .notSent) := by
  simp [requestOf, viewDidLoad]

/-- One more step keeps the law exactly when the step is a good one. -/
theorem OverlayLaw.step_iff (hlaw : self.OverlayLaw)
    (hstep : self.step url e = some next) : next.OverlayLaw ↔ self.KeepsOverlay url e := by
  cases stepCase hstep with
  | @push currentUser hvisible =>
      have hshown := self.indicateView.shownOver_showIndicate self.screens.length
      have hrequest := requestOf_viewDidLoad self currentUser
      cases currentUser with
      | none =>
          -- the overlay is shown, and no answer will come
          apply iff_of_false
          · intro hnext
            have hwaits := (hnext self.screens.length rfl).1 hshown
            rw [hrequest] at hwaits
            cases hwaits
          · intro hsome
            cases hsome
      | some uid =>
          refine iff_of_true ?_ rfl
          intro v hv
          cases hv
          exact iff_of_true hshown hrequest
  | pop hvisible =>
      refine iff_of_true ?_ trivial
      intro v hv
      cases hv
  | answer hscreen hrequest =>
      exact overlayLaw_didGetDocument_iff hlaw hscreen hrequest

end Run

/-- In a run of profile screens the overlay is over the visible one exactly while its own request
is outstanding, in every state, if and only if every screen is pushed for a signed-in user, every
answer to a visible screen has an image, and no answer to a screen that was left has one while the
visible screen waits. -/
theorem overlay_law_iff (url : String → Option URL) (es : List Event) :
    Transition.Along (step url) OverlayLaw launched es ↔
      Transition.EachStep (step url) (KeepsOverlay url) launched es := by
  apply Transition.along_iff_eachStep (J := fun _ => True)
  · intro s e s' _ _ _ _
    trivial
  · intro s e s' _ hlaw hstep
    exact hlaw.step_iff hstep
  · trivial
  · intro v hv
    cases hv

/-- The overlay stays without a user, after an error, without a document and with an empty URL;
and the answer to a screen that was left takes it from the screen that waits. -/
theorem overlay_law_fails :
    ∃ url : String → Option String, url "" = none ∧
      (∃ t, Transition.run (step url) launched [.pushViewController none] = some t ∧
        ¬ t.OverlayLaw) ∧
      (∃ t, Transition.run (step url) launched
          [.pushViewController (some sampleUid), .getDocument 0 (some "offline") none] = some t ∧
        ¬ t.OverlayLaw) ∧
      (∃ t, Transition.run (step url) launched
          [.pushViewController (some sampleUid), .getDocument 0 none none] = some t ∧
        ¬ t.OverlayLaw) ∧
      (∃ t, Transition.run (step url) launched
          [.pushViewController (some sampleUid),
            .getDocument 0 none (some (.ofList [("profileImageUrl", .string "")]))] = some t ∧
        ¬ t.OverlayLaw) ∧
      (∃ t, Transition.run (step url) launched
          [.pushViewController (some sampleUid), .popViewController,
            .pushViewController (some sampleUid),
            .getDocument 0 none
              (some (.ofList [("profileImageUrl", .string "https://a.b/c.png")]))] = some t ∧
        ¬ t.OverlayLaw) := by
  -- shown over the only screen, which waits for nothing
  have hstays : ∀ t : ProfileScreens String, t.visible = some 0 → t.indicateView.ShownOver 0 →
      t.requestOf 0 ≠ some .outstanding → ¬ t.OverlayLaw := by
    intro t hvisible hshown hnot hlaw
    exact hnot ((hlaw 0 hvisible).1 hshown)
  refine ⟨fun string => if string = "" then none else some string, rfl, ?_, ?_, ?_, ?_, ?_⟩
  · exact ⟨_, rfl, hstays _ rfl ⟨rfl, rfl⟩ (by decide)⟩
  · exact ⟨_, rfl, hstays _ rfl ⟨rfl, rfl⟩ (by decide)⟩
  · exact ⟨_, rfl, hstays _ rfl ⟨rfl, rfl⟩ (by decide)⟩
  · exact ⟨_, rfl, hstays _ rfl ⟨rfl, rfl⟩ (by decide)⟩
  · refine ⟨_, rfl, fun hlaw => ?_⟩
    have hshown := (hlaw 1 rfl).2 rfl
    cases hshown.2

end ProfileScreens

end MoviePlayList
