import MoviePlayList.Api.CreateUser

/-!
# AuthenticationGate — the full-screen login flow and who closes it

`MainViewController` presents the login flow at launch when nobody is signed in, and
`ProfileViewController` presents a new one after a sign-out.  `LoginViewController` and
`RegistrationViewController` close it from the callbacks of their requests, by `self.dismiss`.
UIKit dismisses what a screen of the flow has presented, here the photo picker, before the flow
itself, and a screen that is no longer in the flow dismisses nothing.

Screens are numbered in the order they are made.  A callback acts on the screen that made the
request, wherever that screen is by then.
-/

namespace MoviePlayList

/-- The presented navigation controller with the login screen at its root. -/
structure LoginFlow where
  login : Nat
  /-- the registration screens pushed over it, the one in front first -/
  registrations : List Nat := []
  /-- a photo picker is presented over the flow -/
  imagePicker : Bool := false
  deriving DecidableEq

def LoginFlow.Shows (self : LoginFlow) (screen : Nat) : Prop :=
  screen = self.login ∨ screen ∈ self.registrations

instance (flow : LoginFlow) (screen : Nat) : Decidable (flow.Shows screen) :=
  inferInstanceAs (Decidable (_ ∨ _))

/-- A request of `didTapLogin` without its answer. -/
structure LoginAttempt where
  screen : Nat
  email : String
  password : String
  deriving DecidableEq

structure App where
  backend : Backend
  presented : Option LoginFlow
  nextScreen : Nat
  attempts : List LoginAttempt := []
  /-- the screen whose closure is the completion of a `createUser` call -/
  registering : Nat → Option Nat := fun _ => none

namespace App

/-! ## The screens -/

/-- Present a new login flow. -/
def presentLogin (self : App) : App :=
  { self with
    presented := some { login := self.nextScreen }
    nextScreen := self.nextScreen + 1 }

/-- `MainViewController.handleNotAuthenticated` -/
def handleNotAuthenticated (self : App) : App :=
  if self.backend.currentUser = none then self.presentLogin else self

/-- `self.dismiss(animated:completion:)` called on a screen. -/
def dismiss (self : App) (screen : Nat) : App :=
  match self.presented with
  | none => self
  | some flow =>
      if flow.Shows screen then
        if flow.imagePicker then
          -- the picker is presented over the flow, so it is what the call dismisses
          { self with presented := some { flow with imagePicker := false } }
        else
          { self with presented := none }
      else
        -- a screen of a flow that is gone, or popped from this one, presents nothing
        self

/-- The completion `LoginViewController.didTapLogin` passes to `loginUser`. -/
def loginCompletion (self : App) (screen : Nat) (error : Option NSError) : App :=
  match error with
  -- the error is printed; `return`
  | some _ => self
  | none => self.dismiss screen

/-- The completion `RegistrationViewController.handleRegistration` passes to `createUser`: an error
is printed, and the statement after it is reached in either case. -/
def registrationCompletion (self : App) (screen : Nat) (_error : Option NSError) : App :=
  -- no `return` after the print
  self.dismiss screen

/-- `ProfileViewController.didTapMenuButton`, where the user confirms. -/
def didTapLogOut (self : App) : App :=
  { self with backend := self.backend.logOut }.presentLogin

/-! ## Events -/

inductive Event
  /-- `LoginViewController.didTapAccountButton` -/
  | didTapAccountButton
  /-- `RegistrationViewController.handleShowLogin` -/
  | handleShowLogin
  /-- `RegistrationViewController.handleSelectPhoto` -/
  | handleSelectPhoto
  /-- the picker finishes or is cancelled -/
  | pickerDidFinish
  /-- `LoginViewController.didTapLogin` -/
  | didTapLogin (email password : String)
  /-- Auth answers a request of `didTapLogin` -/
  | loginAnswer (attempt : LoginAttempt) (error : Option NSError)
  /-- `RegistrationViewController.handleRegistration` with every field filled in -/
  | handleRegistration (profileAuth : ProfileAuth) (name : String)
  /-- a callback of a `createUser` call -/
  | createUser (e : CreateUserEvent)
  | logOut

/-- The flow with no picker over it, where its screens take input. -/
def front (self : App) : Option LoginFlow :=
  self.presented.filter fun flow => !flow.imagePicker

/-- Start a call whose completion belongs to the registration screen in front. -/
def register (downloadUrl : StorageReference → String) (self : App) (profileAuth : ProfileAuth)
    (name : String) : Option App := do
  let flow ← self.front
  -- the button is on the registration screen in front
  let screen ← flow.registrations.head?
  let backend ← self.backend.createUserStep downloadUrl (.call profileAuth name)
  return { self with
    backend := backend
    registering := Function.update self.registering self.backend.nextCall (some screen) }

/-- Deliver a callback; if it invokes the completion, the closure of the screen runs. -/
def deliver (downloadUrl : StorageReference → String) (self : App) (e : CreateUserEvent) :
    Option App := do
  let backend ← self.backend.createUserStep downloadUrl e
  let next := { self with backend := backend }
  match e.completion with
  | none => return next
  | some (id, error) =>
      match self.registering id with
      | none => return next
      | some screen => return next.registrationCompletion screen error

/-- Deliver the answer to a log-in request. -/
def answer (self : App) (attempt : LoginAttempt) (error : Option NSError) : Option App :=
  if attempt ∈ self.attempts then
    let next := { self with attempts := self.attempts.erase attempt }
    match error with
    | some error => some (next.loginCompletion attempt.screen (some error))
    | none => do
        -- `signIn` succeeds only with the credentials of an account
        let backend ← self.backend.signIn attempt.email attempt.password
        return { next with backend := backend }.loginCompletion attempt.screen none
  else
    none

def step (downloadUrl : StorageReference → String) (self : App) : Event → Option App
  | .didTapAccountButton => do
      let flow ← self.front
      return { self with
        presented := some { flow with registrations := self.nextScreen :: flow.registrations }
        nextScreen := self.nextScreen + 1 }
  | .handleShowLogin => do
      let flow ← self.front
      return { self with
        presented := some { flow with registrations := flow.registrations.tail } }
  | .handleSelectPhoto => do
      let flow ← self.front
      return { self with presented := some { flow with imagePicker := true } }
  | .pickerDidFinish => do
      let flow ← self.presented
      return { self with presented := some { flow with imagePicker := false } }
  | .didTapLogin email password => do
      let flow ← self.front
      -- the button is on the login screen, whose closure captures it
      return { self with attempts := self.attempts ++ [⟨flow.login, email, password⟩] }
  | .loginAnswer attempt error => self.answer attempt error
  | .handleRegistration profileAuth name => self.register downloadUrl profileAuth name
  | .createUser e =>
      match e with
      -- calls are started by `handleRegistration` only
      | .call _ _ => none
      | e => self.deliver downloadUrl e
  | .logOut => if self.presented = none then some self.didTapLogOut else none

/-- The app after launch, with any accounts and a sign-in that may have been kept. -/
def launched (accounts : List Account) (currentUser : Option Uid) : App :=
  let app : App :=
    { backend := .launched accounts currentUser
      presented := none
      nextScreen := 0 }
  app.handleNotAuthenticated

/-! ## The gate -/

/-- The tab screens are in front only while somebody is signed in. -/
def Gate (self : App) : Prop := self.presented = none → self.backend.currentUser ≠ none

/-- No registration screen that can close the flow is told of an error while nobody is signed
in. -/
def Safe (self : App) : Event → Prop
  | .createUser e => ∀ {id error screen flow}, e.completion = some (id, some error) →
      self.registering id = some screen → self.presented = some flow → flow.Shows screen →
      flow.imagePicker = false → self.backend.currentUser ≠ none
  | _ => True

/-- What is known of the screens: every number is used once, and a registration screen of the flow
in front that created an account has signed it in. -/
structure Consistent (downloadUrl : StorageReference → String) (app : App) : Prop where
  coherent : app.backend.Coherent downloadUrl
  shown : ∀ {flow screen}, app.presented = some flow → flow.Shows screen → screen < app.nextScreen
  registering : ∀ {id screen}, app.registering id = some screen → screen < app.nextScreen
  signedIn : ∀ {uid id screen flow}, app.backend.creator uid = some id →
    app.registering id = some screen → app.presented = some flow → flow.Shows screen →
    app.backend.currentUser ≠ none

variable {downloadUrl : StorageReference → String} {s t : App}

/-! ## What the handlers change -/

theorem front_eq_some {flow : LoginFlow} :
    s.front = some flow ↔ s.presented = some flow ∧ flow.imagePicker = false := by
  simp [front, Option.filter_eq_some_iff]

@[simp] theorem dismiss_backend (screen : Nat) : (s.dismiss screen).backend = s.backend := by
  unfold dismiss
  split
  · rfl
  · split <;> [split; skip] <;> rfl

@[simp] theorem dismiss_registering (screen : Nat) :
    (s.dismiss screen).registering = s.registering := by
  unfold dismiss
  split
  · rfl
  · split <;> [split; skip] <;> rfl

@[simp] theorem dismiss_nextScreen (screen : Nat) :
    (s.dismiss screen).nextScreen = s.nextScreen := by
  unfold dismiss
  split
  · rfl
  · split <;> [split; skip] <;> rfl

/-- A dismissal leaves no flow if there was none, or if the screen is in the flow and no picker is
over it. -/
theorem dismiss_presented_eq_none {screen : Nat} :
    (s.dismiss screen).presented = none ↔ s.presented = none ∨
      ∃ flow, s.presented = some flow ∧ flow.Shows screen ∧ flow.imagePicker = false := by
  unfold dismiss
  cases hp : s.presented with
  | none =>
      simp [hp]
  | some flow =>
      by_cases hshows : flow.Shows screen
      · cases hpicker : flow.imagePicker <;> simp [hshows, hpicker]
      · simp [hshows, hp]

/-- The flow that is left shows the screens it showed before. -/
theorem dismiss_shows {screen : Nat} {flow : LoginFlow}
    (h : (s.dismiss screen).presented = some flow) {other : Nat} (hother : flow.Shows other) :
    ∃ before, s.presented = some before ∧ before.Shows other := by
  unfold dismiss at h
  cases hp : s.presented with
  | none =>
      simp [hp] at h
  | some before =>
      simp only [hp] at h
      split at h
      · split at h
        · cases h
          exact ⟨before, rfl, hother⟩
        · cases h
      · cases hp.symm.trans h
        exact ⟨flow, rfl, hother⟩

/-- A callback either keeps the user and the accounts, or creates an account and signs it in without
invoking the completion. -/
theorem createUser_user {s t : Backend} {e : CreateUserEvent}
    (hstep : s.createUserStep downloadUrl e = some t) :
    t.currentUser = s.currentUser ∧ t.creator = s.creator ∨
      t.currentUser ≠ none ∧ e.completion = none := by
  -- only the success of `Auth.auth().createUser` changes the user
  cases Backend.createUserStep_cases hstep with
  | accountCreated => exact .inr ⟨Option.some_ne_none _, rfl⟩
  | _ => exact .inl ⟨rfl, rfl⟩

/-- Success is reported by calls that have created an account. -/
theorem creator_of_success {s t : Backend} {e : CreateUserEvent} {id : Nat}
    (hs : s.Coherent downloadUrl) (hstep : s.createUserStep downloadUrl e = some t)
    (he : e.completion = some (id, none)) : ∃ uid, s.creator uid = some id := by
  cases Backend.createUserStep_cases hstep with
  -- the one event that passes no error
  | completed hcall =>
      cases he
      exact ⟨_, hs.creators.held hcall rfl⟩
  | _ => cases he

theorem deliver_eq_some {e : CreateUserEvent} (h : s.deliver downloadUrl e = some t) :
    ∃ backend, s.backend.createUserStep downloadUrl e = some backend ∧
      ((∀ {id error screen}, e.completion = some (id, error) → s.registering id ≠ some screen) ∧
          t = { s with backend := backend } ∨
        ∃ id error screen, e.completion = some (id, error) ∧ s.registering id = some screen ∧
          t = { s with backend := backend }.dismiss screen) := by
  simp only [deliver, bind, Option.bind_eq_some_iff] at h
  rcases h with ⟨backend, hstep, h⟩
  refine ⟨backend, hstep, ?_⟩
  split at h
  · next hnone =>
      cases h
      -- this callback does not invoke the completion
      refine .inl ⟨?_, rfl⟩
      intro id error screen hsome
      rw [hnone] at hsome
      cases hsome
  · next id error hcompletion =>
      split at h
      · next hscreen =>
          cases h
          -- the completion has no screen
          refine .inl ⟨?_, rfl⟩
          intro id' error' screen hsome
          cases hcompletion.symm.trans hsome
          simp [hscreen]
      · next screen hscreen =>
          cases h
          -- the closure of the screen runs, with an error or without
          exact .inr ⟨id, error, screen, hcompletion, hscreen, rfl⟩

/-- The outcomes of an event.  A tap acts on the flow with no picker over it. -/
inductive Step (downloadUrl : StorageReference → String) (s : App) : Event → App → Prop
  | pushed {flow} (hflow : s.presented = some flow) :
      Step downloadUrl s .didTapAccountButton
        { s with
          presented := some { flow with registrations := s.nextScreen :: flow.registrations }
          nextScreen := s.nextScreen + 1 }
  | popped {flow} (hflow : s.presented = some flow) :
      Step downloadUrl s .handleShowLogin
        { s with presented := some { flow with registrations := flow.registrations.tail } }
  | picking {flow} (hflow : s.presented = some flow) :
      Step downloadUrl s .handleSelectPhoto
        { s with presented := some { flow with imagePicker := true } }
  | picked {flow} (hflow : s.presented = some flow) :
      Step downloadUrl s .pickerDidFinish
        { s with presented := some { flow with imagePicker := false } }
  | asked {email password flow} (hflow : s.presented = some flow) :
      Step downloadUrl s (.didTapLogin email password)
        { s with attempts := s.attempts ++ [⟨flow.login, email, password⟩] }
  | rejected {attempt error} :
      Step downloadUrl s (.loginAnswer attempt (some error))
        { s with attempts := s.attempts.erase attempt }
  | accepted {attempt account} (hmem : account ∈ s.backend.accounts) :
      Step downloadUrl s (.loginAnswer attempt none)
        (({ s with
          attempts := s.attempts.erase attempt
          backend := { s.backend with currentUser := some account.uid } } : App).dismiss
            attempt.screen)
  | registered {profileAuth name flow screen backend} (hflow : s.presented = some flow)
      (hshows : flow.Shows screen)
      (hcall : s.backend.createUserStep downloadUrl (.call profileAuth name) = some backend) :
      Step downloadUrl s (.handleRegistration profileAuth name)
        { s with
          backend := backend
          registering := Function.update s.registering s.backend.nextCall (some screen) }
  | delivered {e t} (hdeliver : s.deliver downloadUrl e = some t) :
      Step downloadUrl s (.createUser e) t
  | loggedOut (hgone : s.presented = none) :
      Step downloadUrl s .logOut s.didTapLogOut

theorem step_cases {e : Event} (h : s.step downloadUrl e = some t) : Step downloadUrl s e t := by
  cases e with
  | didTapAccountButton =>
      simp only [step, bind, Option.bind_eq_some_iff] at h
      rcases h with ⟨flow, hfront, h⟩
      cases h
      exact .pushed (front_eq_some.1 hfront).1
  | handleShowLogin =>
      simp only [step, bind, Option.bind_eq_some_iff] at h
      rcases h with ⟨flow, hfront, h⟩
      cases h
      exact .popped (front_eq_some.1 hfront).1
  | handleSelectPhoto =>
      simp only [step, bind, Option.bind_eq_some_iff] at h
      rcases h with ⟨flow, hfront, h⟩
      cases h
      exact .picking (front_eq_some.1 hfront).1
  | pickerDidFinish =>
      simp only [step, bind, Option.bind_eq_some_iff] at h
      rcases h with ⟨flow, hflow, h⟩
      cases h
      exact .picked hflow
  | didTapLogin email password =>
      simp only [step, bind, Option.bind_eq_some_iff] at h
      rcases h with ⟨flow, hfront, h⟩
      cases h
      exact .asked (front_eq_some.1 hfront).1
  | loginAnswer attempt error =>
      simp only [step, answer, Option.ite_none_right_eq_some] at h
      rcases h with ⟨_, h⟩
      cases error with
      | some error =>
          cases h
          exact .rejected
      | none =>
          simp only [bind, Option.bind_eq_some_iff] at h
          rcases h with ⟨backend, hsign, h⟩
          rcases Backend.signIn_eq_some hsign with ⟨account, hmem, rfl⟩
          cases h
          exact .accepted hmem
  | handleRegistration profileAuth name =>
      simp only [step, register, bind, Option.bind_eq_some_iff] at h
      rcases h with ⟨flow, hfront, screen, hhead, backend, hcall, h⟩
      cases h
      have hshows : flow.Shows screen := .inr (List.mem_of_mem_head? hhead)
      exact .registered (front_eq_some.1 hfront).1 hshows hcall
  | createUser e =>
      cases e with
      | call profileAuth name => cases h
      | _ => exact .delivered h
  | logOut =>
      simp only [step, Option.ite_none_right_eq_some] at h
      rcases h with ⟨hgone, h⟩
      cases h
      exact .loggedOut hgone

/-! ## One step -/

/-- A step that leaves backend and registrations and shows no old screen anew. -/
theorem Consistent.narrow (h : s.Consistent downloadUrl) (hbackend : t.backend = s.backend)
    (hregistering : t.registering = s.registering) (hnext : s.nextScreen ≤ t.nextScreen)
    (hshows : ∀ {flow screen}, t.presented = some flow → flow.Shows screen →
      screen < t.nextScreen ∧
        (screen < s.nextScreen → ∃ shown, s.presented = some shown ∧ shown.Shows screen)) :
    t.Consistent downloadUrl where
  coherent := hbackend ▸ h.coherent
  shown := fun hflow hshown => (hshows hflow hshown).1
  registering := by
    intro id screen hscreen
    rw [hregistering] at hscreen
    exact Nat.lt_of_lt_of_le (h.registering hscreen) hnext
  signedIn := by
    intro uid id screen flow huid hscreen hflow hshown
    rw [hbackend] at huid ⊢
    rw [hregistering] at hscreen
    -- a screen with a pending call is an old one, so it was shown before
    rcases (hshows hflow hshown).2 (h.registering hscreen) with ⟨shown, hbefore, hshown'⟩
    exact h.signedIn huid hscreen hbefore hshown'

/-- The flow shows no screen that it did not show before. -/
theorem Consistent.keep (h : s.Consistent downloadUrl) (hbackend : t.backend = s.backend)
    (hregistering : t.registering = s.registering) (hnext : t.nextScreen = s.nextScreen)
    (hshows : ∀ {flow screen}, t.presented = some flow → flow.Shows screen →
      ∃ shown, s.presented = some shown ∧ shown.Shows screen) : t.Consistent downloadUrl := by
  refine h.narrow hbackend hregistering (Nat.le_of_eq hnext.symm) fun hflow hshown => ?_
  rcases hshows hflow hshown with ⟨shown, hbefore, hshown'⟩
  exact ⟨hnext ▸ h.shown hbefore hshown', fun _ => ⟨shown, hbefore, hshown'⟩⟩

theorem Consistent.dismiss (h : s.Consistent downloadUrl) (screen : Nat) :
    (s.dismiss screen).Consistent downloadUrl :=
  h.keep (dismiss_backend screen) (dismiss_registering screen) (dismiss_nextScreen screen)
    fun hflow hshown => dismiss_shows hflow hshown

/-- Somebody signs in. -/
theorem Consistent.of_signedIn (h : s.Consistent downloadUrl) {backend : Backend}
    (hcoherent : backend.Coherent downloadUrl) (huser : backend.currentUser ≠ none) :
    ({ s with backend := backend } : App).Consistent downloadUrl :=
  ⟨hcoherent, h.shown, h.registering, fun _ _ _ _ => huser⟩

/-- The backend goes on with a callback. -/
theorem Consistent.callback (h : s.Consistent downloadUrl) {e : CreateUserEvent}
    {backend : Backend} (hstep : s.backend.createUserStep downloadUrl e = some backend) :
    ({ s with backend := backend } : App).Consistent downloadUrl := by
  have hcoherent := Backend.coherent_createUser h.coherent hstep
  rcases createUser_user hstep with ⟨huser, hcreator⟩ | ⟨huser, _⟩
  · refine ⟨hcoherent, h.shown, h.registering, ?_⟩
    intro uid id screen flow huid hscreen hflow hshown
    simp only [hcreator] at huid
    simp only [huser]
    exact h.signedIn huid hscreen hflow hshown
  · exact h.of_signedIn hcoherent huser

/-- A screen of the flow starts a call, which has not created an account yet. -/
theorem Consistent.register (h : s.Consistent downloadUrl) {flow : LoginFlow} {screen : Nat}
    (hflow : s.presented = some flow) (hshows : flow.Shows screen) :
    ({ s with
      registering :=
        Function.update s.registering s.backend.nextCall (some screen) } : App).Consistent
          downloadUrl := by
  refine ⟨h.coherent, h.shown, ?_, ?_⟩
  · intro id other hother
    rcases eq_or_ne id s.backend.nextCall with rfl | hne
    · simp only [Function.update_self, Option.some.injEq] at hother
      exact hother ▸ h.shown hflow hshows
    · exact h.registering (by simpa only [Function.update_of_ne hne] using hother)
  · intro uid id other shown huid hother hpresented hshown
    -- a call that created an account is an old one
    have hne : id ≠ s.backend.nextCall := by
      rintro rfl
      rcases (h.coherent.creators _ _).1 huid with ⟨call, hcall, _⟩
      exact absurd (h.coherent.lt_nextCall hcall) (Nat.lt_irrefl _)
    exact h.signedIn huid (by simpa only [Function.update_of_ne hne] using hother) hpresented hshown

theorem consistent_step {e : Event} (h : s.Consistent downloadUrl)
    (hstep : s.step downloadUrl e = some t) : t.Consistent downloadUrl := by
  cases step_cases hstep with
  | @pushed flow hflow =>
      refine h.narrow rfl rfl (Nat.le_succ _) ?_
      rintro _ screen ⟨⟩ hshown
      -- the screen pushed now is new, the others were there
      rcases hshown with hlogin | hpushed
      · have hold : flow.Shows screen := .inl hlogin
        exact ⟨Nat.lt_succ_of_lt (h.shown hflow hold), fun _ => ⟨flow, hflow, hold⟩⟩
      · rcases List.mem_cons.1 hpushed with rfl | hmem
        · exact ⟨Nat.lt_succ_self _, fun hlt => absurd hlt (Nat.lt_irrefl _)⟩
        · have hold : flow.Shows screen := .inr hmem
          exact ⟨Nat.lt_succ_of_lt (h.shown hflow hold), fun _ => ⟨flow, hflow, hold⟩⟩
  | @popped flow hflow =>
      refine h.keep rfl rfl rfl ?_
      rintro _ screen ⟨⟩ hshown
      -- a screen that was popped can no longer dismiss the flow
      exact ⟨flow, hflow, hshown.imp id List.mem_of_mem_tail⟩
  | @picking flow hflow =>
      refine h.keep rfl rfl rfl ?_
      rintro _ screen ⟨⟩ hshown
      exact ⟨flow, hflow, hshown⟩
  | @picked flow hflow =>
      refine h.keep rfl rfl rfl ?_
      rintro _ screen ⟨⟩ hshown
      exact ⟨flow, hflow, hshown⟩
  | asked hflow =>
      exact h.keep rfl rfl rfl fun hflow hshown => ⟨_, hflow, hshown⟩
  | rejected =>
      exact h.keep rfl rfl rfl fun hflow hshown => ⟨_, hflow, hshown⟩
  | @accepted attempt account hmem =>
      -- the account is signed in before the closure runs
      have hsigned := h.of_signedIn (h.coherent.withUser _) (Option.some_ne_none account.uid)
      refine Consistent.dismiss ?_ attempt.screen
      exact hsigned.keep rfl rfl rfl fun hflow hshown => ⟨_, hflow, hshown⟩
  | registered hflow hshows hcall =>
      -- first the screen is noted, then the call starts
      exact (h.register hflow hshows).callback hcall
  | delivered hdeliver =>
      rcases deliver_eq_some hdeliver with ⟨backend, hcall, ⟨_, rfl⟩ | ⟨_, _, screen, _, _, rfl⟩⟩
      · exact h.callback hcall
      · exact (h.callback hcall).dismiss screen
  | loggedOut hgone =>
      refine ⟨h.coherent.withUser none, ?_, ?_, ?_⟩
      · rintro _ screen ⟨⟩ hshown
        rcases hshown with rfl | hpushed
        · exact Nat.lt_succ_self _
        · cases hpushed
      · intro id screen hscreen
        exact Nat.lt_succ_of_lt (h.registering hscreen)
      · -- the new flow shows only a screen made now
        rintro uid id screen _ _ hscreen ⟨⟩ hshown
        have hlt := h.registering hscreen
        rcases hshown with rfl | hpushed
        · exact absurd hlt (Nat.lt_irrefl _)
        · cases hpushed

theorem consistent_launched (downloadUrl : StorageReference → String) (accounts : List Account)
    (currentUser : Option Uid) : (launched accounts currentUser).Consistent downloadUrl := by
  have hcoherent := Backend.coherent_launched downloadUrl accounts currentUser
  cases currentUser with
  | some uid =>
      exact ⟨hcoherent, nofun, nofun, nofun⟩
  | none =>
      refine ⟨hcoherent, ?_, nofun, nofun⟩
      rintro _ screen ⟨⟩ hshown
      rcases hshown with rfl | hpushed
      · exact Nat.lt_succ_self _
      · cases hpushed

theorem gate_launched (accounts : List Account) (currentUser : Option Uid) :
    (launched accounts currentUser).Gate := by
  cases currentUser with
  | some uid => exact fun _ => Option.some_ne_none uid
  | none => exact nofun

/-- The callbacks of a registration: only an error can open the gate. -/
theorem gate_deliver_iff {e : CreateUserEvent} (h : s.Consistent downloadUrl) (hgate : s.Gate)
    (hstep : s.deliver downloadUrl e = some t) : t.Gate ↔ s.Safe (.createUser e) := by
  rcases deliver_eq_some hstep with
    ⟨backend, hcall, ⟨hscreen, rfl⟩ | ⟨id, error, screen, hcompletion, hscreen, rfl⟩⟩
  · -- no closure runs, and a callback never signs out
    have hsafe : s.Safe (.createUser e) := by
      intro id error screen flow hcompletion hregistering
      exact absurd hregistering (hscreen hcompletion)
    refine iff_of_true (fun hpresented => ?_) hsafe
    rcases createUser_user hcall with ⟨huser, _⟩ | ⟨huser, _⟩
    · exact huser ▸ hgate hpresented
    · exact huser
  · have huser : backend.currentUser = s.backend.currentUser := by
      rcases createUser_user hcall with ⟨huser, _⟩ | ⟨_, hnone⟩
      · exact huser
      · cases hnone.symm.trans hcompletion
    have hopen : ({ s with backend := backend }.dismiss screen).Gate ↔
        ∀ flow, s.presented = some flow → flow.Shows screen → flow.imagePicker = false →
          s.backend.currentUser ≠ none := by
      unfold Gate
      rw [dismiss_presented_eq_none, dismiss_backend, huser]
      constructor
      · intro himp flow hflow hshows hpicker
        exact himp (.inr ⟨flow, hflow, hshows, hpicker⟩)
      · rintro himp (hnone | ⟨flow, hflow, hshows, hpicker⟩)
        · exact hgate hnone
        · exact himp flow hflow hshows hpicker
    rw [hopen]
    constructor
    · intro himp id' error' screen' flow hcompletion' hscreen' hflow hshows hpicker
      cases hcompletion.symm.trans hcompletion'
      cases hscreen.symm.trans hscreen'
      exact himp flow hflow hshows hpicker
    · intro hsafe flow hflow hshows hpicker
      cases error with
      | some error => exact hsafe hcompletion hscreen hflow hshows hpicker
      | none =>
          -- a call that succeeds has created an account, so its screen is signed in
          rcases creator_of_success h.coherent hcall hcompletion with ⟨uid, huid⟩
          exact h.signedIn huid hscreen hflow hshows

/-- A consistent app with a closed gate keeps it closed over a step exactly when the step is
safe. -/
theorem gate_step_iff {e : Event} (h : s.Consistent downloadUrl) (hgate : s.Gate)
    (hstep : s.step downloadUrl e = some t) : t.Gate ↔ s.Safe e := by
  cases step_cases hstep with
  -- a step inside the flow leaves it presented
  | pushed hflow => exact iff_of_true nofun trivial
  | popped hflow => exact iff_of_true nofun trivial
  | picking hflow => exact iff_of_true nofun trivial
  | picked hflow => exact iff_of_true nofun trivial
  | asked hflow => exact iff_of_true hgate trivial
  | rejected => exact iff_of_true hgate trivial
  | @accepted attempt account hmem =>
      refine iff_of_true (fun _ => ?_) trivial
      -- whether or not the flow closes, somebody is signed in now
      rw [dismiss_backend]
      exact Option.some_ne_none account.uid
  | registered hflow hshows hcall =>
      refine iff_of_true (fun hnone => ?_) trivial
      -- the flow of the screen is still presented
      rw [hflow] at hnone
      cases hnone
  | delivered hdeliver => exact gate_deliver_iff h hgate hdeliver
  -- signing out presents a new flow at once
  | loggedOut hgone => exact iff_of_true nofun trivial

/-- In every run, the tab screens are never in front without a user if and only if no registration
screen that can close the flow is ever told of an error while nobody is signed in. -/
theorem gate_iff_each_safe (downloadUrl : StorageReference → String) (accounts : List Account)
    (currentUser : Option Uid) (es : List Event) :
    Transition.Along (step downloadUrl) Gate (launched accounts currentUser) es ↔
      Transition.EachStep (step downloadUrl) Safe (launched accounts currentUser) es := by
  refine Transition.along_iff_eachStep (J := Consistent downloadUrl) ?_ ?_
    (consistent_launched downloadUrl accounts currentUser) (gate_launched accounts currentUser)
  · intro s e t h _ _ hstep
    exact consistent_step h hstep
  · intro s e t h hgate hstep
    exact gate_step_iff h hgate hstep

/-- The first registration on a device that is offline. -/
def failedUpload : List Event :=
  [.didTapAccountButton, .handleRegistration (Backend.sampleAuth "kim@mail") "n1",
    .createUser (.putData 0 (some "The network connection was lost."))]

/-- The error is printed and the flow is dismissed with nobody signed in. -/
theorem not_gate_failedUpload :
    (∃ s, Transition.run (step Backend.sampleUrl) (launched [] none) failedUpload = some s ∧
      s.presented = none ∧ s.backend.currentUser = none) ∧
    ¬ Transition.Along (step Backend.sampleUrl) Gate (launched [] none) failedUpload := by
  have hrun : ∃ s, Transition.run (step Backend.sampleUrl) (launched [] none) failedUpload =
      some s ∧ s.presented = none ∧ s.backend.currentUser = none :=
    ⟨_, rfl, rfl, rfl⟩
  refine ⟨hrun, fun halong => ?_⟩
  rcases hrun with ⟨s, hs, hpresented, huser⟩
  exact halong.last hs hpresented huser

end App

end MoviePlayList
