import MoviePlayList.Api.Backend
import MoviePlayList.Lib.Transition

/-!
# AuthenticationForms — the fields and submit buttons of the two authentication screens

Both screens keep a view model beside their text fields: `textDidChange` copies the sender's text
into it and `checkTextStatus` enables the submit button when `formIsValid`.  Submission does not
look at the view model; it reads the fields, and on the sign-up screen the chosen image.

The log-in screen has a second way to submit, the return key of the password field, that nothing
disables; on the sign-up screen `formIsValid` does not ask for the image.
`forms_submit_iff` says in which runs button, fields and requests agree all the same.
-/

namespace MoviePlayList

/-- `text?.isEmpty == false` -/
def isFilled (text : Option String) : Bool := text.map String.isEmpty == some false

@[simp] theorem isFilled_some (text : String) : isFilled (some text) = true ↔ text ≠ "" := by
  simp [isFilled]

structure LoginViewModel where
  email : Option String := none
  password : Option String := none
  deriving DecidableEq

def LoginViewModel.formIsValid (self : LoginViewModel) : Bool :=
  isFilled self.email && isFilled self.password

structure RegistrationViewModel where
  email : Option String := none
  password : Option String := none
  nickname : Option String := none
  deriving DecidableEq

def RegistrationViewModel.formIsValid (self : RegistrationViewModel) : Bool :=
  isFilled self.email && isFilled self.password && isFilled self.nickname

/-- A field and its copy in the view model agree; before the first edit the copy is nil. -/
def Mirrors (copy : Option String) (text : String) : Prop :=
  copy = some text ∨ copy = none ∧ text = ""

theorem isFilled_of_mirrors {copy : Option String} {text : String} (h : Mirrors copy text) :
    isFilled copy = true ↔ text ≠ "" := by
  rcases h with rfl | ⟨rfl, rfl⟩
  · exact isFilled_some text
  · simp [isFilled]

/-- `UIButton`, as far as the screens set it. -/
structure UIButton where
  isEnabled : Bool := false
  deriving DecidableEq

/-! ## The log-in screen -/

/-- A call of `AuthServiece.loginUser(withEmail:password:)`. -/
structure LoginRequest where
  email : String
  password : String
  deriving DecidableEq

/-- The log-in screen.  The `text` of a field is never nil, so the guards on it pass. -/
structure LoginViewController where
  viewModel : LoginViewModel := {}
  emailTextField : String := ""
  passwordTextField : String := ""
  loginButton : UIButton := {}
  /-- the calls of `AuthServiece` so far -/
  requests : List LoginRequest := []
  deriving DecidableEq

namespace LoginViewController

inductive Field
  | email
  | password
  deriving DecidableEq

/-! ### The handlers -/

/-- The new text is in the field before `.editingChanged` is sent. -/
def withText (self : LoginViewController) (sender : Field) (text : String) :
    LoginViewController :=
  match sender with
  | .email => { self with emailTextField := text }
  | .password => { self with passwordTextField := text }

def checkTextStatus (self : LoginViewController) : LoginViewController :=
  if self.viewModel.formIsValid then
    { self with loginButton := { isEnabled := true } }
  else
    { self with loginButton := { isEnabled := false } }

def textDidChange (self : LoginViewController) (sender : Field) : LoginViewController :=
  let changed :=
    match sender with
    | .email =>
        { self with viewModel := { self.viewModel with email := some self.emailTextField } }
    | .password =>
        { self with viewModel := { self.viewModel with password := some self.passwordTextField } }
  changed.checkTextStatus

def didTapLogin (self : LoginViewController) : LoginViewController :=
  { self with
    requests := self.requests ++
      [{ email := self.emailTextField, password := self.passwordTextField }] }

/-- `textFieldShouldReturn`: in the e-mail field the keyboard moves on to the password. -/
def textFieldShouldReturn (self : LoginViewController) (textField : Field) :
    LoginViewController :=
  match textField with
  | .email => self
  | .password => self.didTapLogin

/-! ### Runs -/

inductive Event
  | editingChanged (sender : Field) (text : String)
  | touchUpInside
  | textFieldShouldReturn (textField : Field)
  deriving DecidableEq

/-- UIKit sends a tap only to an enabled button. -/
def handle (self : LoginViewController) : Event → LoginViewController
  | .editingChanged sender text => (self.withText sender text).textDidChange sender
  | .touchUpInside => if self.loginButton.isEnabled then self.didTapLogin else self
  | .textFieldShouldReturn textField => self.textFieldShouldReturn textField

def step (self : LoginViewController) (e : Event) : Option LoginViewController :=
  some (self.handle e)

/-- The screen after `viewDidLoad`. -/
def loaded : LoginViewController := {}

/-! ### What the screen promises -/

/-- Everything the request needs has been entered. -/
def Complete (self : LoginViewController) : Prop :=
  self.emailTextField ≠ "" ∧ self.passwordTextField ≠ ""

/-- The button is enabled exactly when everything has been entered. -/
def EnabledIffComplete (self : LoginViewController) : Prop :=
  self.loginButton.isEnabled = true ↔ self.Complete

/-- A tap and the return key in the password field send the texts of the fields when the button is
enabled and nothing otherwise; nothing else sends. -/
def SubmitsIffEnabled (self : LoginViewController) (e : Event) : Prop :=
  match e with
  | .touchUpInside | .textFieldShouldReturn .password =>
      (self.handle e).requests =
        if self.loginButton.isEnabled then
          self.requests ++
            [{ email := self.emailTextField, password := self.passwordTextField }]
        else
          self.requests
  | .editingChanged _ _ | .textFieldShouldReturn .email =>
      (self.handle e).requests = self.requests

/-- Return is pressed in the password field only when both fields are filled in. -/
def ReturnsComplete (self : LoginViewController) (e : Event) : Prop :=
  e = .textFieldShouldReturn .password → self.Complete

/-! ### The view model follows the fields -/

/-- The view model mirrors both fields and decides over the button. -/
structure Mirrored (vc : LoginViewController) : Prop where
  email : Mirrors vc.viewModel.email vc.emailTextField
  password : Mirrors vc.viewModel.password vc.passwordTextField
  enabled : vc.loginButton.isEnabled = vc.viewModel.formIsValid

theorem mirrored_loaded : Mirrored loaded where
  email := Or.inr ⟨rfl, rfl⟩
  password := Or.inr ⟨rfl, rfl⟩
  enabled := rfl

/-- `checkTextStatus` only touches the button, and sets it by the view model. -/
theorem checkTextStatus_eq (self : LoginViewController) :
    self.checkTextStatus =
      { self with loginButton := { isEnabled := self.viewModel.formIsValid } } := by
  unfold checkTextStatus
  cases h : self.viewModel.formIsValid <;> simp

theorem Mirrored.enabledIffComplete {self : LoginViewController} (h : Mirrored self) :
    self.EnabledIffComplete := by
  rw [EnabledIffComplete, h.enabled, LoginViewModel.formIsValid, Bool.and_eq_true,
    isFilled_of_mirrors h.email, isFilled_of_mirrors h.password]
  exact Iff.rfl

theorem Mirrored.step {self next : LoginViewController} {e : Event} (h : Mirrored self)
    (hstep : self.step e = some next) : Mirrored next := by
  cases hstep
  cases e with
  | editingChanged sender text =>
      cases sender with
      | email =>
          simp only [handle, withText, textDidChange, checkTextStatus_eq]
          exact ⟨Or.inl rfl, h.password, rfl⟩
      | password =>
          simp only [handle, withText, textDidChange, checkTextStatus_eq]
          exact ⟨h.email, Or.inl rfl, rfl⟩
  | touchUpInside =>
      simp only [handle]
      split
      · exact ⟨h.email, h.password, h.enabled⟩
      · exact h
  | textFieldShouldReturn textField =>
      cases textField with
      | email =>
          exact h
      | password =>
          exact ⟨h.email, h.password, h.enabled⟩

/-- Only the return key in the password field can send what the button would not. -/
theorem Mirrored.submitsIffEnabled_iff {self : LoginViewController} (h : Mirrored self)
    (e : Event) : self.SubmitsIffEnabled e ↔ self.ReturnsComplete e := by
  cases e with
  | editingChanged sender text =>
      have hsilent : (self.handle (.editingChanged sender text)).requests = self.requests := by
        cases sender <;> simp [handle, withText, textDidChange, checkTextStatus_eq]
      exact iff_of_true hsilent (fun h' => by cases h')
  | touchUpInside =>
      have htap : self.SubmitsIffEnabled .touchUpInside := by
        simp only [SubmitsIffEnabled, handle]
        split <;> rfl
      exact iff_of_true htap (fun h' => by cases h')
  | textFieldShouldReturn textField =>
      cases textField with
      | email =>
          exact iff_of_true rfl (fun h' => by cases h')
      | password =>
          -- the request is sent in any case, so the button has to be enabled
          have hsends : self.SubmitsIffEnabled (.textFieldShouldReturn .password) ↔
              self.loginButton.isEnabled = true := by
            simp only [SubmitsIffEnabled, handle, textFieldShouldReturn, didTapLogin]
            split
            · next henabled => simp [henabled]
            · next henabled => simp [henabled]
          have henabled : self.loginButton.isEnabled = true ↔ self.Complete :=
            h.enabledIffComplete
          rw [hsends, henabled, ReturnsComplete]
          simp

/-- In every run of the log-in screen, the button is enabled exactly when both fields are filled
in; and what is sent agrees with it exactly when return is pressed in the password field only
then. -/
theorem login_submits_iff (es : List Event) :
    (Transition.Along step EnabledIffComplete loaded es ∧
        Transition.EachStep step SubmitsIffEnabled loaded es) ↔
      Transition.EachStep step ReturnsComplete loaded es := by
  have henabled : Transition.Along step EnabledIffComplete loaded es :=
    (Transition.along_of_invariant (D := fun _ _ => True)
      (fun h hstep => ⟨trivial, Mirrored.step h hstep⟩) mirrored_loaded).1.mono
        Mirrored.enabledIffComplete
  have hsteps : Transition.EachStep step SubmitsIffEnabled loaded es ↔
      Transition.EachStep step ReturnsComplete loaded es :=
    Transition.eachStep_iff_of_invariant
      (fun h hstep => ⟨h.submitsIffEnabled_iff _, h.step hstep⟩) mirrored_loaded
  rw [hsteps]
  exact ⟨fun h => h.2, fun h => ⟨henabled, h⟩⟩

end LoginViewController

/-! ## The sign-up screen -/

/-- The sign-up screen.  The `text` of a field is never nil, so the guards on it pass. -/
structure RegistrationViewController where
  viewModel : RegistrationViewModel := {}
  profileImage : Option UIImage := none
  emailTextField : String := ""
  nicknameTextField : String := ""
  passwordTextField : String := ""
  signUpButton : UIButton := {}
  /-- the calls of `AuthServiece.createUser` so far -/
  requests : List ProfileAuth := []
  deriving DecidableEq

namespace RegistrationViewController

inductive Field
  | email
  | password
  | nickname
  deriving DecidableEq

/-! ### The handlers -/

/-- The new text is in the field before `.editingChanged` is sent. -/
def withText (self : RegistrationViewController) (sender : Field) (text : String) :
    RegistrationViewController :=
  match sender with
  | .email => { self with emailTextField := text }
  | .password => { self with passwordTextField := text }
  | .nickname => { self with nicknameTextField := text }

def checkTextStatus (self : RegistrationViewController) : RegistrationViewController :=
  if self.viewModel.formIsValid then
    { self with signUpButton := { isEnabled := true } }
  else
    { self with signUpButton := { isEnabled := false } }

def textDidChange (self : RegistrationViewController) (sender : Field) :
    RegistrationViewController :=
  let changed :=
    match sender with
    | .email =>
        { self with viewModel := { self.viewModel with email := some self.emailTextField } }
    | .password =>
        { self with viewModel := { self.viewModel with password := some self.passwordTextField } }
    | .nickname =>
        { self with viewModel := { self.viewModel with nickname := some self.nicknameTextField } }
  changed.checkTextStatus

def handleRegistration (self : RegistrationViewController) : RegistrationViewController :=
  match self.profileImage with
  -- `guard let profileImage = profileImage else { return }`
  | none => self
  | some profileImage =>
      { self with
        requests := self.requests ++
          [{ email := self.emailTextField
             password := self.passwordTextField
             nickname := self.nicknameTextField
             profileImage := profileImage }] }

/-- `imagePickerController(_:didFinishPickingMediaWithInfo:)`; `none` when the picked medium has no
original image.  The button is not looked at. -/
def didFinishPickingMedia (self : RegistrationViewController) (image : Option UIImage) :
    RegistrationViewController :=
  { self with profileImage := image }

/-! ### Runs -/

/-- The fields have no delegate, so the return key does nothing on this screen. -/
inductive Event
  | editingChanged (sender : Field) (text : String)
  | didFinishPickingMedia (image : Option UIImage)
  | touchUpInside
  | returnKey (textField : Field)
  deriving DecidableEq

/-- UIKit sends a tap only to an enabled button. -/
def handle (self : RegistrationViewController) : Event → RegistrationViewController
  | .editingChanged sender text => (self.withText sender text).textDidChange sender
  | .didFinishPickingMedia image => self.didFinishPickingMedia image
  | .touchUpInside => if self.signUpButton.isEnabled then self.handleRegistration else self
  | .returnKey _ => self

def step (self : RegistrationViewController) (e : Event) : Option RegistrationViewController :=
  some (self.handle e)

/-- The screen after `viewDidLoad`. -/
def loaded : RegistrationViewController := {}

/-! ### What the screen promises -/

def TextsEntered (self : RegistrationViewController) : Prop :=
  self.emailTextField ≠ "" ∧ self.passwordTextField ≠ "" ∧ self.nicknameTextField ≠ ""

/-- Everything the request needs has been entered or chosen. -/
def Complete (self : RegistrationViewController) : Prop :=
  self.TextsEntered ∧ self.profileImage.isSome = true

/-- The button is enabled exactly when everything has been entered and chosen. -/
def EnabledIffComplete (self : RegistrationViewController) : Prop :=
  self.signUpButton.isEnabled = true ↔ self.Complete

/-- A tap sends the texts of the fields and the image when the button is enabled and nothing
otherwise; nothing else sends. -/
def SubmitsIffEnabled (self : RegistrationViewController) (e : Event) : Prop :=
  match e with
  | .touchUpInside =>
      (self.signUpButton.isEnabled = true → ∃ profileImage,
        self.profileImage = some profileImage ∧
          (self.handle e).requests = self.requests ++
            [{ email := self.emailTextField
               password := self.passwordTextField
               nickname := self.nicknameTextField
               profileImage := profileImage }]) ∧
        (self.signUpButton.isEnabled = false → (self.handle e).requests = self.requests)
  | .editingChanged _ _ | .didFinishPickingMedia _ | .returnKey _ =>
      (self.handle e).requests = self.requests

/-- No three texts without an image. -/
def ImageFirst (self : RegistrationViewController) : Prop :=
  self.TextsEntered → self.profileImage.isSome = true

/-! ### The view model follows the fields -/

/-- The view model mirrors the three fields and decides over the button. -/
structure Mirrored (vc : RegistrationViewController) : Prop where
  email : Mirrors vc.viewModel.email vc.emailTextField
  password : Mirrors vc.viewModel.password vc.passwordTextField
  nickname : Mirrors vc.viewModel.nickname vc.nicknameTextField
  enabled : vc.signUpButton.isEnabled = vc.viewModel.formIsValid

theorem mirrored_loaded : Mirrored loaded where
  email := Or.inr ⟨rfl, rfl⟩
  password := Or.inr ⟨rfl, rfl⟩
  nickname := Or.inr ⟨rfl, rfl⟩
  enabled := rfl

/-- `checkTextStatus` only touches the button, and sets it by the view model. -/
theorem checkTextStatus_eq (self : RegistrationViewController) :
    self.checkTextStatus =
      { self with signUpButton := { isEnabled := self.viewModel.formIsValid } } := by
  unfold checkTextStatus
  cases h : self.viewModel.formIsValid <;> simp

/-- The button only waits for the texts. -/
theorem Mirrored.enabled_iff {self : RegistrationViewController} (h : Mirrored self) :
    self.signUpButton.isEnabled = true ↔ self.TextsEntered := by
  rw [h.enabled, RegistrationViewModel.formIsValid, Bool.and_eq_true, Bool.and_eq_true,
    isFilled_of_mirrors h.email, isFilled_of_mirrors h.password, isFilled_of_mirrors h.nickname,
    and_assoc]
  exact Iff.rfl

theorem Mirrored.enabledIffComplete_iff {self : RegistrationViewController} (h : Mirrored self) :
    self.EnabledIffComplete ↔ self.ImageFirst := by
  rw [EnabledIffComplete, h.enabled_iff, Complete, ImageFirst]
  exact iff_self_and

theorem Mirrored.step {self next : RegistrationViewController} {e : Event} (h : Mirrored self)
    (hstep : self.step e = some next) : Mirrored next := by
  cases hstep
  cases e with
  | editingChanged sender text =>
      cases sender with
      | email =>
          simp only [handle, withText, textDidChange, checkTextStatus_eq]
          exact ⟨Or.inl rfl, h.password, h.nickname, rfl⟩
      | password =>
          simp only [handle, withText, textDidChange, checkTextStatus_eq]
          exact ⟨h.email, Or.inl rfl, h.nickname, rfl⟩
      | nickname =>
          simp only [handle, withText, textDidChange, checkTextStatus_eq]
          exact ⟨h.email, h.password, Or.inl rfl, rfl⟩
  | didFinishPickingMedia image =>
      exact ⟨h.email, h.password, h.nickname, h.enabled⟩
  | touchUpInside =>
      simp only [handle, handleRegistration]
      split
      · split
        · exact h
        · exact ⟨h.email, h.password, h.nickname, h.enabled⟩
      · exact h
  | returnKey textField =>
      exact h

/-- Once the texts do not wait for an image, an enabled button sends. -/
theorem Mirrored.submitsIffEnabled {self : RegistrationViewController} (h : Mirrored self)
    (himage : self.ImageFirst) (e : Event) : self.SubmitsIffEnabled e := by
  cases e with
  | editingChanged sender text =>
      cases sender <;>
        simp [SubmitsIffEnabled, handle, withText, textDidChange, checkTextStatus_eq]
  | didFinishPickingMedia image =>
      exact rfl
  | touchUpInside =>
      constructor
      · intro henabled
        have hsome : self.profileImage.isSome = true := himage (h.enabled_iff.1 henabled)
        rcases Option.isSome_iff_exists.1 hsome with ⟨profileImage, heq⟩
        refine ⟨profileImage, heq, ?_⟩
        simp only [handle, henabled, if_true, handleRegistration, heq]
      · intro hdisabled
        simp [handle, hdisabled]
  | returnKey textField =>
      exact rfl

/-- In a run of the sign-up screen, button, fields and requests agree exactly when the three texts
are never complete without an image. -/
theorem registration_submits_iff (es : List Event) :
    (Transition.Along step EnabledIffComplete loaded es ∧
        Transition.EachStep step SubmitsIffEnabled loaded es) ↔
      Transition.Along step ImageFirst loaded es := by
  have hmirrored : Transition.Along step Mirrored loaded es :=
    (Transition.along_of_invariant (D := fun _ _ => True)
      (fun h hstep => ⟨trivial, Mirrored.step h hstep⟩) mirrored_loaded).1
  constructor
  · rintro ⟨henabled, _⟩
    exact (hmirrored.and henabled).mono fun h => h.1.enabledIffComplete_iff.1 h.2
  · intro himage
    have hboth := hmirrored.and himage
    refine ⟨hboth.mono fun h => h.1.enabledIffComplete_iff.2 h.2, ?_⟩
    exact hboth.eachStep fun h _ => h.1.submitsIffEnabled h.2 _

end RegistrationViewController

/-! ## Both screens -/

/-- On both screens the submit button tells whether everything is there, and an attempt sends a
request if and only if the button is enabled, in exactly these runs: on the log-in screen, when
return is pressed in the password field only with both fields filled in; on the sign-up screen,
when the three texts are never all there without an image. -/
theorem forms_submit_iff (logIn : List LoginViewController.Event)
    (signUp : List RegistrationViewController.Event) :
    ((Transition.Along LoginViewController.step LoginViewController.EnabledIffComplete
          LoginViewController.loaded logIn ∧
        Transition.EachStep LoginViewController.step LoginViewController.SubmitsIffEnabled
          LoginViewController.loaded logIn) ↔
      Transition.EachStep LoginViewController.step LoginViewController.ReturnsComplete
        LoginViewController.loaded logIn) ∧
    ((Transition.Along RegistrationViewController.step
          RegistrationViewController.EnabledIffComplete RegistrationViewController.loaded signUp ∧
        Transition.EachStep RegistrationViewController.step
          RegistrationViewController.SubmitsIffEnabled RegistrationViewController.loaded signUp) ↔
      Transition.Along RegistrationViewController.step RegistrationViewController.ImageFirst
        RegistrationViewController.loaded signUp) :=
  ⟨LoginViewController.login_submits_iff logIn,
    RegistrationViewController.registration_submits_iff signUp⟩

/-- Return in the password field of an empty log-in form sends it; a sign-up form without an image
has an enabled button that sends nothing. -/
theorem forms_disagree :
    ¬ Transition.EachStep LoginViewController.step LoginViewController.SubmitsIffEnabled
        LoginViewController.loaded [.textFieldShouldReturn .password] ∧
      ∃ vc, Transition.run RegistrationViewController.step RegistrationViewController.loaded
          [.editingChanged .email "a@b.c", .editingChanged .password "secret",
            .editingChanged .nickname "ann"] = some vc ∧
        ¬ vc.EnabledIffComplete ∧ ¬ vc.SubmitsIffEnabled .touchUpInside := by
  refine ⟨fun h => ?_, _, rfl, ?_, ?_⟩
  · have hsent :
        (LoginViewController.loaded.handle (.textFieldShouldReturn .password)).requests =
          LoginViewController.loaded.requests := (h _ rfl).1
    exact absurd hsent (by decide)
  · intro h
    have hcomplete := h.1 (by decide)
    exact absurd hcomplete.2 (by decide)
  · rintro ⟨h, _⟩
    rcases h (by decide) with ⟨profileImage, himage, _⟩
    cases himage

end MoviePlayList
