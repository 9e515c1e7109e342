import MoviePlayList.Api.Backend

/-!
# UserService — `Service.updateUserData` and `Service.LoginUser`

`updateUserData` uploads a picked image, looks up its URL and puts it into the document of the
user who was signed in when it was called.  Its completion is invoked in one place, the error
branch of the upload, and that branch does not return.  `LoginUser` decodes the document.
-/

namespace MoviePlayList

inductive UpdateUserDataEvent
  | call (name : UIImage) (filename : String)
  | putData (id : Nat) (error : Option NSError)
  | downloadURL (id : Nat) (found : Bool)
  | updateData (id : Nat) (error : Option NSError)

inductive LoginUserEvent
  | call
  | getDocument (id : Nat) (error : Option NSError)

namespace UpdateUserDataCall

/-- Go on to the next step, or return. -/
def proceed (self : UpdateUserDataCall) (stage : UpdateUserDataStage) : UpdateUserDataCall :=
  { self with stage := stage }

end UpdateUserDataCall

namespace Backend

/-! ## The statements of `updateUserData` -/

def updateUserDataCall (self : Backend) (id : Nat) : Option UpdateUserDataCall :=
  match self.calls id with
  | some (.updateUserData call) => some call
  | _ => none

/-- `updateUserData(name:completion:)` up to `putData`; `none` is a name that is not fresh. -/
def updateUserData (self : Backend) (name : UIImage) (filename : String) : Option Backend :=
  match self.currentUser with
  -- `guard let currentUid = … else { return }`
  | none => some (self.start (.updateUserData { currentUid := none, stage := .noUser }))
  | some currentUid =>
      match name.jpegData with
      | none =>
          -- `guard let imageData = … else { return }`
          some (self.start
            (.updateUserData { currentUid := some currentUid, stage := .noImageData }))
      | some imageData =>
          let ref : StorageReference := ⟨"/profile_images/" ++ filename⟩
          let call : UpdateUserDataCall :=
            { currentUid := some currentUid, stage := .putData ref imageData }
          if self.owner ref = none then
            some (self.startWith ref (.updateUserData call))
          else
            none

/-- The callback of `ref.putData`: an error is reported, and the lookup follows in either case. -/
def didPutImage (self : Backend) (id : Nat) (call : UpdateUserDataCall) (ref : StorageReference)
    (imageData : Data) (error : Option NSError) : Backend :=
  match error with
  | some error =>
      -- `completion!(error)` without a `return`
      let reported := { call with completions := call.completions ++ [some error] }
      self.setCall id (.updateUserData (reported.proceed (.downloadURL ref (some error))))
  | none =>
      -- success is reported nowhere
      (self.storeImage id ref imageData).setCall id
        (.updateUserData (call.proceed (.downloadURL ref none)))

/-- The callback of `ref.downloadURL`; an object that was never stored has no URL. -/
def didDownloadImageURL (downloadUrl : StorageReference → String) (self : Backend) (id : Nat)
    (call : UpdateUserDataCall) (ref : StorageReference) (error : Option NSError) (found : Bool) :
    Option Backend :=
  if found then
    if self.images ref = none then
      none
    else
      some (self.setCall id (.updateUserData (call.proceed (.updateData ref (downloadUrl ref)))))
  else
    -- `guard let profileImageUrl = … else { return }`
    some (self.setCall id (.updateUserData (call.proceed (.noUrl ref error))))

/-- The callback of `updateData`, which changes the named field and fails without a document. -/
def didUpdateData (self : Backend) (id : Nat) (call : UpdateUserDataCall) (uid : Uid)
    (ref : StorageReference) (profileImageUrl : String) (error : Option NSError) :
    Option Backend :=
  match error with
  | some error =>
      -- the error is printed, the completion is not called
      some (self.setCall id
        (.updateUserData (call.proceed (.updateFailed ref profileImageUrl error))))
  | none => do
      -- `updateData` cannot succeed on a missing document
      let data ← self.users uid
      let fields := Dictionary.ofList [("profileImageUrl", .string profileImageUrl)]
      return (self.writeUser uid (data.merging fields)).setCall id
        (.updateUserData (call.proceed (.written ref profileImageUrl)))

def updateUserDataStep (downloadUrl : StorageReference → String) (self : Backend) :
    UpdateUserDataEvent → Option Backend
  | .call name filename => self.updateUserData name filename
  | .putData id error => do
      let call ← self.updateUserDataCall id
      match call.stage with
      | .putData ref imageData => some (self.didPutImage id call ref imageData error)
      | _ => none
  | .downloadURL id found => do
      let call ← self.updateUserDataCall id
      match call.stage with
      | .downloadURL ref error => self.didDownloadImageURL downloadUrl id call ref error found
      | _ => none
  | .updateData id error => do
      let call ← self.updateUserDataCall id
      -- the document is that of the user at the call, not of the user now
      match call.currentUid, call.stage with
      | some uid, .updateData ref profileImageUrl =>
          self.didUpdateData id call uid ref profileImageUrl error
      | _, _ => none

/-! ## The statements of `LoginUser` -/

def loginUserCall (self : Backend) (id : Nat) : Option LoginUserCall :=
  match self.calls id with
  | some (.loginUser call) => some call
  | _ => none

/-- `LoginUser(completion:)` up to `getDocument`. -/
def loginUser (self : Backend) : Backend :=
  match self.currentUser with
  | none => self.start (.loginUser { currentUid := none, stage := .noUser })
  | some currentUid =>
      self.start (.loginUser { currentUid := some currentUid, stage := .getDocument })

/-- The callback of `getDocument`. -/
def didGetDocument (self : Backend) (id : Nat) (call : LoginUserCall) (uid : Uid)
    (error : Option NSError) : Backend :=
  match error with
  -- the error is printed
  | some error => self.setCall id (.loginUser { call with stage := .getFailed error })
  | none =>
      match self.users uid with
      -- `guard let dictionary = DocumentSnapshot?.data() else { return }`
      | none => self.setCall id (.loginUser { call with stage := .noDocument })
      | some dictionary =>
          self.setCall id (.loginUser
            { call with
              stage := .answered
              -- `AuthUser` is a fresh array, so it has this one user
              completions := call.completions ++ [[User.init dictionary]] })

def loginUserStep (self : Backend) : LoginUserEvent → Option Backend
  | .call => some self.loginUser
  | .getDocument id error => do
      let call ← self.loginUserCall id
      -- `currentUid` was captured when the call was made
      match call.currentUid, call.stage with
      | some uid, .getDocument => some (self.didGetDocument id call uid error)
      | _, _ => none

/-! ## What one event does -/

theorem updateUserDataCall_eq_some {s : Backend} {id : Nat} {call : UpdateUserDataCall} :
    s.updateUserDataCall id = some call ↔ s.calls id = some (.updateUserData call) := by
  unfold updateUserDataCall
  split
  · next c h => simp [h]
  · next h =>
      constructor
      · intro hc
        cases hc
      · intro hc
        exact absurd hc (h call)

theorem loginUserCall_eq_some {s : Backend} {id : Nat} {call : LoginUserCall} :
    s.loginUserCall id = some call ↔ s.calls id = some (.loginUser call) := by
  unfold loginUserCall
  split
  · next c h => simp [h]
  · next h =>
      constructor
      · intro hc
        cases hc
      · intro hc
        exact absurd hc (h call)

/-- The outcomes of an event of `updateUserData`. -/
inductive UpdateUserDataStep (downloadUrl : StorageReference → String) (s : Backend) :
    UpdateUserDataEvent → Backend → Prop
  | noUser {name filename}
      (huser : s.currentUser = none) :
      UpdateUserDataStep downloadUrl s (.call name filename)
        (s.start (.updateUserData ⟨none, .noUser, []⟩))
  | noImageData {name filename uid}
      (huser : s.currentUser = some uid)
      (hjpeg : name.jpegData = none) :
      UpdateUserDataStep downloadUrl s (.call name filename)
        (s.start (.updateUserData ⟨some uid, .noImageData, []⟩))
  | started {name filename uid imageData ref}
      (huser : s.currentUser = some uid)
      (hjpeg : name.jpegData = some imageData)
      (href : ref = ⟨"/profile_images/" ++ filename⟩)
      (hfresh : s.owner ref = none) :
      UpdateUserDataStep downloadUrl s (.call name filename)
        (s.startWith ref (.updateUserData ⟨some uid, .putData ref imageData, []⟩))
  | uploadFailed {id uid? ref imageData completions error}
      (hcall : s.calls id = some (.updateUserData ⟨uid?, .putData ref imageData, completions⟩)) :
      UpdateUserDataStep downloadUrl s (.putData id (some error))
        (s.setCall id (.updateUserData
          ⟨uid?, .downloadURL ref (some error), completions ++ [some error]⟩))
  | uploaded {id uid? ref imageData completions}
      (hcall : s.calls id = some (.updateUserData ⟨uid?, .putData ref imageData, completions⟩)) :
      UpdateUserDataStep downloadUrl s (.putData id none)
        ((s.storeImage id ref imageData).setCall id
          (.updateUserData ⟨uid?, .downloadURL ref none, completions⟩))
  | noUrl {id uid? ref error completions}
      (hcall : s.calls id = some (.updateUserData ⟨uid?, .downloadURL ref error, completions⟩)) :
      UpdateUserDataStep downloadUrl s (.downloadURL id false)
        (s.setCall id (.updateUserData ⟨uid?, .noUrl ref error, completions⟩))
  | urlFound {id uid? ref error completions}
      (hcall : s.calls id = some (.updateUserData ⟨uid?, .downloadURL ref error, completions⟩))
      (hstored : s.images ref ≠ none) :
      UpdateUserDataStep downloadUrl s (.downloadURL id true)
        (s.setCall id (.updateUserData ⟨uid?, .updateData ref (downloadUrl ref), completions⟩))
  | updateFailed {id uid ref profileImageUrl error completions}
      (hcall : s.calls id =
        some (.updateUserData ⟨some uid, .updateData ref profileImageUrl, completions⟩)) :
      UpdateUserDataStep downloadUrl s (.updateData id (some error))
        (s.setCall id (.updateUserData
          ⟨some uid, .updateFailed ref profileImageUrl error, completions⟩))
  | written {id uid ref profileImageUrl completions data}
      (hcall : s.calls id =
        some (.updateUserData ⟨some uid, .updateData ref profileImageUrl, completions⟩))
      (hdata : s.users uid = some data) :
      UpdateUserDataStep downloadUrl s (.updateData id none)
        ((s.writeUser uid (data.merging
            (.ofList [("profileImageUrl", .string profileImageUrl)]))).setCall id
          (.updateUserData ⟨some uid, .written ref profileImageUrl, completions⟩))

theorem updateUserDataStep_cases {downloadUrl : StorageReference → String} {s t : Backend}
    {e : UpdateUserDataEvent} (h : s.updateUserDataStep downloadUrl e = some t) :
    UpdateUserDataStep downloadUrl s e t := by
  cases e with
  | call name filename =>
      simp only [updateUserDataStep, updateUserData] at h
      split at h
      · next huser =>
          cases h
          exact .noUser huser
      · next uid huser =>
          split at h
          · next hjpeg =>
              cases h
              exact .noImageData huser hjpeg
          · next imageData hjpeg =>
              simp only [Option.ite_none_right_eq_some, Option.some.injEq] at h
              rcases h with ⟨hfresh, rfl⟩
              exact .started huser hjpeg rfl hfresh
  | putData id error =>
      simp only [updateUserDataStep, bind, Option.bind_eq_some_iff] at h
      rcases h with ⟨⟨uid?, stage, completions⟩, hcall, h⟩
      cases stage with
      | putData ref imageData =>
          cases error with
          | none =>
              cases h
              exact .uploaded (updateUserDataCall_eq_some.1 hcall)
          | some error =>
              cases h
              exact .uploadFailed (updateUserDataCall_eq_some.1 hcall)
      | _ => cases h
  | downloadURL id found =>
      simp only [updateUserDataStep, bind, Option.bind_eq_some_iff] at h
      rcases h with ⟨⟨uid?, stage, completions⟩, hcall, h⟩
      cases stage with
      | downloadURL ref error =>
          cases found with
          | false =>
              cases h
              exact .noUrl (updateUserDataCall_eq_some.1 hcall)
          | true =>
              simp only [didDownloadImageURL, if_true, Option.ite_none_left_eq_some,
                Option.some.injEq] at h
              rcases h with ⟨hstored, rfl⟩
              exact .urlFound (updateUserDataCall_eq_some.1 hcall) hstored
      | _ => cases h
  | updateData id error =>
      simp only [updateUserDataStep, bind, Option.bind_eq_some_iff] at h
      rcases h with ⟨⟨uid?, stage, completions⟩, hcall, h⟩
      cases uid? with
      | none => cases stage <;> cases h
      | some uid =>
          cases stage with
          | updateData ref profileImageUrl =>
              cases error with
              | some error =>
                  cases h
                  exact .updateFailed (updateUserDataCall_eq_some.1 hcall)
              | none =>
                  simp only [didUpdateData, bind, Option.bind_eq_some_iff] at h
                  rcases h with ⟨data, hdata, h⟩
                  cases h
                  exact .written (updateUserDataCall_eq_some.1 hcall) hdata
          | _ => cases h

/-- The outcomes of an event of `LoginUser`. -/
inductive LoginUserStep (s : Backend) : LoginUserEvent → Backend → Prop
  | noUser (huser : s.currentUser = none) :
      LoginUserStep s .call (s.start (.loginUser ⟨none, .noUser, []⟩))
  | started {uid} (huser : s.currentUser = some uid) :
      LoginUserStep s .call (s.start (.loginUser ⟨some uid, .getDocument, []⟩))
  | getFailed {id uid completions error}
      (hcall : s.calls id = some (.loginUser ⟨some uid, .getDocument, completions⟩)) :
      LoginUserStep s (.getDocument id (some error))
        (s.setCall id (.loginUser ⟨some uid, .getFailed error, completions⟩))
  | noDocument {id uid completions}
      (hcall : s.calls id = some (.loginUser ⟨some uid, .getDocument, completions⟩))
      (hdata : s.users uid = none) :
      LoginUserStep s (.getDocument id none)
        (s.setCall id (.loginUser ⟨some uid, .noDocument, completions⟩))
  | answered {id uid completions data}
      (hcall : s.calls id = some (.loginUser ⟨some uid, .getDocument, completions⟩))
      (hdata : s.users uid = some data) :
      LoginUserStep s (.getDocument id none)
        (s.setCall id (.loginUser ⟨some uid, .answered, completions ++ [[User.init data]]⟩))

theorem loginUserStep_cases {s t : Backend} {e : LoginUserEvent}
    (h : s.loginUserStep e = some t) : LoginUserStep s e t := by
  cases e with
  | call =>
      simp only [loginUserStep, loginUser, Option.some.injEq] at h
      split at h
      · next huser =>
          cases h
          exact .noUser huser
      · next uid huser =>
          cases h
          exact .started huser
  | getDocument id error =>
      simp only [loginUserStep, bind, Option.bind_eq_some_iff] at h
      rcases h with ⟨⟨uid?, stage, completions⟩, hcall, h⟩
      cases uid? with
      | none => cases stage <;> cases h
      | some uid =>
          cases stage with
          | getDocument =>
              cases error with
              | some error =>
                  cases h
                  exact .getFailed (loginUserCall_eq_some.1 hcall)
              | none =>
                  simp only [didGetDocument, Option.some.injEq] at h
                  split at h
                  · next hdata =>
                      cases h
                      exact .noDocument (loginUserCall_eq_some.1 hcall) hdata
                  · next data hdata =>
                      cases h
                      exact .answered (loginUserCall_eq_some.1 hcall) hdata
          | _ => cases h

end Backend

end MoviePlayList
