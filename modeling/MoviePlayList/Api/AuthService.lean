import MoviePlayList.Api.Backend

/-!
# AuthService — `AuthServiece` and its four-step registration

`createUser` uploads the image, looks up its URL, creates the account and writes the profile
document, each in the callback of the one before.  An event is the start of a call or one
callback together with its outcome.
-/

namespace MoviePlayList

open Backend

inductive CreateUserEvent
  | call (profileAuth : ProfileAuth) (name : String)
  | putData (id : Nat) (error : Option NSError)
  | downloadURL (id : Nat) (found : Bool)
  | createUser (id : Nat) (result : Except NSError Uid)
  | setData (id : Nat) (error : Option NSError)

/-- The invocation of the completion this event makes: the call and the error passed. -/
def CreateUserEvent.completion : CreateUserEvent → Option (Nat × Option NSError)
  | .call _ _ => none
  | .putData id (some error) => some (id, some error)
  | .putData _ none => none
  | .downloadURL _ _ => none
  | .createUser id (.error error) => some (id, some error)
  | .createUser _ (.ok _) => none
  | .setData id error => some (id, error)

namespace CreateUserCall

/-- Go on to the next step, or return without a word. -/
def proceed (self : CreateUserCall) (stage : CreateUserStage) : CreateUserCall :=
  { self with stage := stage }

/-- Invoke the completion and return. -/
def complete (self : CreateUserCall) (stage : CreateUserStage) (error : Option NSError) :
    CreateUserCall :=
  { self with stage := stage, completions := self.completions ++ [error] }

end CreateUserCall

/-- The dictionary `createUser` stores. -/
def userData (profileAuth : ProfileAuth) (profileImageUrl : String) (uid : Uid) : Dictionary :=
  .ofList
    [("email", .string profileAuth.email),
     ("password", .string profileAuth.password),
     ("nickname", .string profileAuth.nickname),
     ("profileImageUrl", .string profileImageUrl),
     ("uid", .string uid.val)]

namespace Backend

def createUserCall (self : Backend) (id : Nat) : Option CreateUserCall :=
  match self.calls id with
  | some (.createUser call) => some call
  | _ => none

/-- `logOut` -/
def logOut (self : Backend) : Backend := { self with currentUser := none }

/-- `loginUser(withEmail:password:)` succeeds for the account with these credentials. -/
def signIn (self : Backend) (email password : String) : Option Backend := do
  let account ← self.accounts.find? fun a => a.email = email ∧ a.password = password
  return { self with currentUser := some account.uid }

/-! ## The statements of `createUser` -/

/-- `createUser(profileAuth:completion:)` up to `putData`; `none` is a name that is not fresh. -/
def createUser (self : Backend) (profileAuth : ProfileAuth) (name : String) : Option Backend :=
  match profileAuth.profileImage.jpegData with
  -- `guard let imageData = … else { return }`: the completion is not called
  | none =>
      some (self.start (.createUser { profileAuth := profileAuth, stage := .noImageData }))
  | some imageData =>
      let storage : StorageReference := ⟨"/profileImage/" ++ name⟩
      let call : CreateUserCall :=
        { profileAuth := profileAuth, stage := .putData storage imageData }
      if self.owner storage = none then
        some (self.startWith storage (.createUser call))
      else
        none

/-- The callback of `storage.putData`. -/
def didPutData (self : Backend) (id : Nat) (call : CreateUserCall) (storage : StorageReference)
    (imageData : Data) (error : Option NSError) : Backend :=
  match error with
  -- `completion!(error); return`
  | some error =>
      self.setCall id (.createUser (call.complete (.uploadFailed storage error) (some error)))
  | none =>
      -- the object exists from here on, whatever happens to the call
      (self.storeImage id storage imageData).setCall id
        (.createUser (call.proceed (.downloadURL storage)))

/-- The callback of `storage.downloadURL`; an object that was never stored has no URL. -/
def didDownloadURL (downloadUrl : StorageReference → String) (self : Backend) (id : Nat)
    (call : CreateUserCall) (storage : StorageReference) (found : Bool) : Option Backend :=
  if found then
    if self.images storage = none then
      none
    else
      some (self.setCall id (.createUser (call.proceed (.createUser storage (downloadUrl storage)))))
  else
    -- `guard let profileImageUrl = … else { return }`: again without a word
    some (self.setCall id (.createUser (call.proceed (.noUrl storage))))

/-- The callback of `Auth.auth().createUser`.  Auth answers with an error or with a result, so the
`guard let uid = result?.user.uid` after the error check never returns; it rejects an e-mail in use
and issues a fresh uid. -/
def didCreateUser (self : Backend) (id : Nat) (call : CreateUserCall) (storage : StorageReference)
    (profileImageUrl : String) (result : Except NSError Uid) : Option Backend :=
  match result with
  | .error error =>
      -- `completion!(error); return`, and the image stays
      some (self.setCall id
        (.createUser (call.complete (.accountFailed storage profileImageUrl error) (some error))))
  | .ok uid =>
      -- Auth gives such a result only for a new e-mail and with a new uid
      if call.profileAuth.email ∈ self.accounts.map Account.email ∨
          uid ∈ self.accounts.map Account.uid ∨ self.creator uid ≠ none then
        none
      else
        some ((self.addAccount id
            ⟨uid, call.profileAuth.email, call.profileAuth.password⟩).setCall id
          (.createUser (call.proceed (.setData storage profileImageUrl uid))))

/-- `setData` replaces the document and invokes the completion itself. -/
def didSetData (self : Backend) (id : Nat) (call : CreateUserCall) (storage : StorageReference)
    (profileImageUrl : String) (uid : Uid) (error : Option NSError) : Backend :=
  match error with
  | some error =>
      -- the completion is handed to `setData`, which passes it the error
      self.setCall id
        (.createUser (call.complete (.profileFailed storage profileImageUrl uid error)
          (some error)))
  | none =>
      (self.writeUser uid (userData call.profileAuth profileImageUrl uid)).setCall id
        (.createUser (call.complete (.completed storage profileImageUrl uid) none))

def createUserStep (downloadUrl : StorageReference → String) (self : Backend) :
    CreateUserEvent → Option Backend
  | .call profileAuth name => self.createUser profileAuth name
  | .putData id error => do
      let call ← self.createUserCall id
      -- a callback comes only while the call waits for it
      match call.stage with
      | .putData storage imageData => some (self.didPutData id call storage imageData error)
      | _ => none
  | .downloadURL id found => do
      let call ← self.createUserCall id
      match call.stage with
      | .downloadURL storage => self.didDownloadURL downloadUrl id call storage found
      | _ => none
  | .createUser id result => do
      let call ← self.createUserCall id
      match call.stage with
      | .createUser storage profileImageUrl =>
          self.didCreateUser id call storage profileImageUrl result
      | _ => none
  | .setData id error => do
      let call ← self.createUserCall id
      match call.stage with
      | .setData storage profileImageUrl uid =>
          some (self.didSetData id call storage profileImageUrl uid error)
      | _ => none

/-! ## What one event does -/

theorem createUserCall_eq_some {s : Backend} {id : Nat} {call : CreateUserCall} :
    s.createUserCall id = some call ↔ s.calls id = some (.createUser call) := by
  unfold createUserCall
  split
  · next c h => simp [h]
  · next h =>
      constructor
      · intro hc
        cases hc
      · intro hc
        exact absurd hc (h call)

/-- The ten outcomes of an event, with the branch of the source each one takes. -/
inductive CreateUserStep (downloadUrl : StorageReference → String) (s : Backend) :
    CreateUserEvent → Backend → Prop
  | noImageData {profileAuth name}
      (hjpeg : profileAuth.profileImage.jpegData = none) :
      CreateUserStep downloadUrl s (.call profileAuth name)
        (s.start (.createUser ⟨profileAuth, .noImageData, []⟩))
  | started {profileAuth name imageData storage}
      (hjpeg : profileAuth.profileImage.jpegData = some imageData)
      (hstorage : storage = ⟨"/profileImage/" ++ name⟩)
      (hfresh : s.owner storage = none) :
      CreateUserStep downloadUrl s (.call profileAuth name)
        (s.startWith storage (.createUser ⟨profileAuth, .putData storage imageData, []⟩))
  | uploadFailed {id profileAuth storage imageData completions error}
      (hcall : s.calls id =
        some (.createUser ⟨profileAuth, .putData storage imageData, completions⟩)) :
      CreateUserStep downloadUrl s (.putData id (some error))
        (s.setCall id (.createUser
          ⟨profileAuth, .uploadFailed storage error, completions ++ [some error]⟩))
  | uploaded {id profileAuth storage imageData completions}
      (hcall : s.calls id =
        some (.createUser ⟨profileAuth, .putData storage imageData, completions⟩)) :
      CreateUserStep downloadUrl s (.putData id none)
        ((s.storeImage id storage imageData).setCall id
          (.createUser ⟨profileAuth, .downloadURL storage, completions⟩))
  | noUrl {id profileAuth storage completions}
      (hcall : s.calls id = some (.createUser ⟨profileAuth, .downloadURL storage, completions⟩)) :
      CreateUserStep downloadUrl s (.downloadURL id false)
        (s.setCall id (.createUser ⟨profileAuth, .noUrl storage, completions⟩))
  | urlFound {id profileAuth storage completions}
      (hcall : s.calls id = some (.createUser ⟨profileAuth, .downloadURL storage, completions⟩))
      (hstored : s.images storage ≠ none) :
      CreateUserStep downloadUrl s (.downloadURL id true)
        (s.setCall id (.createUser
          ⟨profileAuth, .createUser storage (downloadUrl storage), completions⟩))
  | accountFailed {id profileAuth storage profileImageUrl completions error}
      (hcall : s.calls id =
        some (.createUser ⟨profileAuth, .createUser storage profileImageUrl, completions⟩)) :
      CreateUserStep downloadUrl s (.createUser id (.error error))
        (s.setCall id (.createUser ⟨profileAuth, .accountFailed storage profileImageUrl error,
          completions ++ [some error]⟩))
  | accountCreated {id profileAuth storage profileImageUrl completions uid}
      (hcall : s.calls id =
        some (.createUser ⟨profileAuth, .createUser storage profileImageUrl, completions⟩))
      (hemail : profileAuth.email ∉ s.accounts.map Account.email)
      (huid : uid ∉ s.accounts.map Account.uid)
      (hfresh : s.creator uid = none) :
      CreateUserStep downloadUrl s (.createUser id (.ok uid))
        ((s.addAccount id ⟨uid, profileAuth.email, profileAuth.password⟩).setCall id
          (.createUser ⟨profileAuth, .setData storage profileImageUrl uid, completions⟩))
  | profileFailed {id profileAuth storage profileImageUrl uid completions error}
      (hcall : s.calls id =
        some (.createUser ⟨profileAuth, .setData storage profileImageUrl uid, completions⟩)) :
      CreateUserStep downloadUrl s (.setData id (some error))
        (s.setCall id (.createUser ⟨profileAuth, .profileFailed storage profileImageUrl uid error,
          completions ++ [some error]⟩))
  | completed {id profileAuth storage profileImageUrl uid completions}
      (hcall : s.calls id =
        some (.createUser ⟨profileAuth, .setData storage profileImageUrl uid, completions⟩)) :
      CreateUserStep downloadUrl s (.setData id none)
        ((s.writeUser uid (userData profileAuth profileImageUrl uid)).setCall id
          (.createUser ⟨profileAuth, .completed storage profileImageUrl uid,
            completions ++ [none]⟩))

theorem createUserStep_cases {downloadUrl : StorageReference → String} {s t : Backend}
    {e : CreateUserEvent} (h : s.createUserStep downloadUrl e = some t) :
    CreateUserStep downloadUrl s e t := by
  cases e with
  | call profileAuth name =>
      simp only [createUserStep, createUser] at h
      split at h
      · next hjpeg =>
          cases h
          exact .noImageData hjpeg
      · next imageData hjpeg =>
          simp only [Option.ite_none_right_eq_some, Option.some.injEq] at h
          rcases h with ⟨hfresh, rfl⟩
          exact .started hjpeg rfl hfresh
  | putData id error =>
      simp only [createUserStep, bind, Option.bind_eq_some_iff] at h
      rcases h with ⟨⟨profileAuth, stage, completions⟩, hcall, h⟩
      -- in every other stage this callback is not the one waited for
      cases stage with
      | putData storage imageData =>
          cases error with
          | none =>
              cases h
              exact .uploaded (createUserCall_eq_some.1 hcall)
          | some error =>
              cases h
              exact .uploadFailed (createUserCall_eq_some.1 hcall)
      | _ => cases h
  | downloadURL id found =>
      simp only [createUserStep, bind, Option.bind_eq_some_iff] at h
      rcases h with ⟨⟨profileAuth, stage, completions⟩, hcall, h⟩
      cases stage with
      | downloadURL storage =>
          cases found with
          | false =>
              cases h
              exact .noUrl (createUserCall_eq_some.1 hcall)
          | true =>
              simp only [didDownloadURL, if_true, Option.ite_none_left_eq_some,
                Option.some.injEq] at h
              rcases h with ⟨hstored, rfl⟩
              exact .urlFound (createUserCall_eq_some.1 hcall) hstored
      | _ => cases h
  | createUser id result =>
      simp only [createUserStep, bind, Option.bind_eq_some_iff] at h
      rcases h with ⟨⟨profileAuth, stage, completions⟩, hcall, h⟩
      cases stage with
      | createUser storage profileImageUrl =>
          cases result with
          | error error =>
              cases h
              exact .accountFailed (createUserCall_eq_some.1 hcall)
          | ok uid =>
              simp only [didCreateUser, Option.ite_none_left_eq_some, Option.some.injEq,
                not_or, not_not] at h
              rcases h with ⟨⟨hemail, huid, hfresh⟩, rfl⟩
              exact .accountCreated (createUserCall_eq_some.1 hcall) hemail huid hfresh
      | _ => cases h
  | setData id error =>
      simp only [createUserStep, bind, Option.bind_eq_some_iff] at h
      rcases h with ⟨⟨profileAuth, stage, completions⟩, hcall, h⟩
      cases stage with
      | setData storage profileImageUrl uid =>
          cases error with
          | none =>
              cases h
              exact .completed (createUserCall_eq_some.1 hcall)
          | some error =>
              cases h
              exact .profileFailed (createUserCall_eq_some.1 hcall)
      | _ => cases h

end Backend

end MoviePlayList
