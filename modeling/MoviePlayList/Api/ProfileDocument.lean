import MoviePlayList.Api.CreateUser

/-!
# ProfileDocument — what `LoginUser` decodes

`createUser` writes the profile document, `updateUserData` changes one of its fields, `User.init`
decodes it.  In every interleaving of their calls, and of sign-ins and sign-outs in between, a
document under a uid decodes to that uid, to the e-mail and nickname its account was created with
and to the URL of an image uploaded for this account.
-/

namespace MoviePlayList

/-- Every list passed to the completion of a `LoginUser` call is one user that has the property. -/
def Call.AnswersWith (P : Uid → User → Prop) : Call → Prop
  | .loginUser call => ∀ users ∈ call.completions,
      ∃ uid user, call.currentUid = some uid ∧ users = [user] ∧ P uid user
  | _ => True

theorem Call.AnswersWith.mono {P Q : Uid → User → Prop} (hPQ : ∀ {uid user}, P uid user → Q uid user)
    {call : Call} (h : call.AnswersWith P) : call.AnswersWith Q := by
  cases call with
  | createUser call => trivial
  | updateUserData call => trivial
  | loginUser call =>
      intro users husers
      rcases h users husers with ⟨uid, user, huid, hone, huser⟩
      exact ⟨uid, user, huid, hone, hPQ huser⟩

namespace Backend

variable {downloadUrl : StorageReference → String} {s t : Backend}

/-- The image was uploaded by the call that created the account, or by an update called while
`uid` was signed in. -/
def UploadedBy (s : Backend) (uid : Uid) (image : StoredImage) : Prop :=
  s.creator uid = some image.uploader ∨
    ∃ call, s.calls image.uploader = some (.updateUserData call) ∧ call.currentUid = some uid

/-- The document has the fields of the account `uid` under their keys. -/
def ProfileOf (downloadUrl : StorageReference → String) (s : Backend) (uid : Uid)
    (dictionary : Dictionary) : Prop :=
  ∃ id call ref image, s.creator uid = some id ∧ s.calls id = some (.createUser call) ∧
    s.images ref = some image ∧ s.UploadedBy uid image ∧
    dictionary.string "uid" = some uid.val ∧
    dictionary.string "email" = some call.profileAuth.email ∧
    dictionary.string "nickname" = some call.profileAuth.nickname ∧
    dictionary.string "profileImageUrl" = some (downloadUrl ref)

/-- The user is the one of the account `uid`. -/
def UserOf (downloadUrl : StorageReference → String) (s : Backend) (uid : Uid) (user : User) :
    Prop :=
  ∃ id call ref image, s.creator uid = some id ∧ s.calls id = some (.createUser call) ∧
    s.images ref = some image ∧ s.UploadedBy uid image ∧
    user =
      { uid := uid.val
        email := call.profileAuth.email
        nickname := call.profileAuth.nickname
        profileImageUrl := downloadUrl ref }

theorem ProfileOf.decodes {uid : Uid} {dictionary : Dictionary}
    (h : s.ProfileOf downloadUrl uid dictionary) :
    s.UserOf downloadUrl uid (User.init dictionary) := by
  rcases h with ⟨id, call, ref, image, hcreator, hcall, himage, hfor, huid, hemail, hnick, hurl⟩
  refine ⟨id, call, ref, image, hcreator, hcall, himage, hfor, ?_⟩
  -- every key is there, so no default is used
  simp [User.init, huid, hemail, hnick, hurl]

/-! ## Nothing said of a profile is lost -/

theorem Extends.createUser (h : s.Extends t) {id : Nat} {call : CreateUserCall}
    (hid : s.calls id = some (.createUser call)) :
    ∃ next, t.calls id = some (.createUser next) ∧ next.profileAuth = call.profileAuth := by
  rcases h.calls hid with ⟨next, hnext, harg⟩
  cases next with
  | createUser next => exact ⟨next, hnext, Call.Arguments.createUser.inj harg⟩
  | updateUserData next => cases harg
  | loginUser next => cases harg

theorem UploadedBy.extend {uid : Uid} {image : StoredImage} (h : s.UploadedBy uid image)
    (hext : s.Extends t) : t.UploadedBy uid image := by
  rcases h with hcreate | ⟨call, hcall, huid⟩
  · exact .inl (hext.creator hcreate)
  · rcases hext.calls hcall with ⟨next, hnext, harg⟩
    cases next with
    | updateUserData next =>
        exact .inr ⟨next, hnext, (Call.Arguments.updateUserData.inj harg).trans huid⟩
    | createUser next => cases harg
    | loginUser next => cases harg

theorem ProfileOf.extend {uid : Uid} {dictionary : Dictionary}
    (h : s.ProfileOf downloadUrl uid dictionary) (hext : s.Extends t) :
    t.ProfileOf downloadUrl uid dictionary := by
  rcases h with ⟨id, call, ref, image, hcreator, hcall, himage, hfor, huid, hemail, hnick, hurl⟩
  rcases hext.createUser hcall with ⟨next, hnext, hauth⟩
  exact ⟨id, next, ref, image, hext.creator hcreator, hnext, hext.images himage, hfor.extend hext,
    huid, by rw [hauth, hemail], by rw [hauth, hnick], hurl⟩

theorem UserOf.extend {uid : Uid} {user : User} (h : s.UserOf downloadUrl uid user)
    (hext : s.Extends t) : t.UserOf downloadUrl uid user := by
  rcases h with ⟨id, call, ref, image, hcreator, hcall, himage, hfor, huser⟩
  rcases hext.createUser hcall with ⟨next, hnext, hauth⟩
  exact ⟨id, next, ref, image, hext.creator hcreator, hnext, hext.images himage, hfor.extend hext,
    by rw [hauth, huser]⟩

/-! ## The profiles of every state -/

structure Profiles (downloadUrl : StorageReference → String) (s : Backend) : Prop where
  coherent : s.Coherent downloadUrl
  documents : ∀ {uid dictionary}, s.users uid = some dictionary →
    s.ProfileOf downloadUrl uid dictionary
  answers : ∀ {id call}, s.calls id = some call → call.AnswersWith (s.UserOf downloadUrl)

theorem Profiles.documents_extend (h : s.Profiles downloadUrl) (hext : s.Extends t)
    (husers : t.users = s.users) {uid : Uid} {dictionary : Dictionary}
    (hdoc : t.users uid = some dictionary) : t.ProfileOf downloadUrl uid dictionary := by
  -- the document is older than the step
  rw [husers] at hdoc
  exact (h.documents hdoc).extend hext

/-- One document is written; the others stay. -/
theorem Profiles.documents_write (h : s.Profiles downloadUrl) (hext : s.Extends t) {uid : Uid}
    {dictionary : Dictionary} (husers : t.users = Function.update s.users uid (some dictionary))
    (hnew : t.ProfileOf downloadUrl uid dictionary) {uid' : Uid} {dictionary' : Dictionary}
    (hdoc : t.users uid' = some dictionary') : t.ProfileOf downloadUrl uid' dictionary' := by
  rw [husers] at hdoc
  rcases eq_or_ne uid' uid with rfl | hne
  · simp only [Function.update_self, Option.some.injEq] at hdoc
    exact hdoc ▸ hnew
  · simp only [Function.update_of_ne hne] at hdoc
    exact (h.documents hdoc).extend hext

theorem Profiles.answers_update (h : s.Profiles downloadUrl) (hext : s.Extends t) {j : Nat}
    {new : Call} (hcalls : t.calls = Function.update s.calls j (some new))
    (hnew : new.AnswersWith (t.UserOf downloadUrl)) {id : Nat} {call : Call}
    (hid : t.calls id = some call) : call.AnswersWith (t.UserOf downloadUrl) := by
  rw [hcalls] at hid
  exact Footprint.forall_update
    (fun hold => (h.answers hold).mono fun huser => huser.extend hext) hnew hid

/-- The document written by `setData`. -/
theorem Coherent.profileOf_userData (h : s.Coherent downloadUrl) {id : Nat}
    {profileAuth : ProfileAuth} {storage : StorageReference} {profileImageUrl : String} {uid : Uid}
    {completions : List (Option NSError)}
    (hcall : s.calls id = some (.createUser
      ⟨profileAuth, .setData storage profileImageUrl uid, completions⟩)) :
    s.ProfileOf downloadUrl uid (userData profileAuth profileImageUrl uid) := by
  have hurl : profileImageUrl = downloadUrl storage := (h.fits hcall).url rfl
  rcases h.stored_of_image hcall rfl with ⟨data, himage⟩
  have hcreator : s.creator uid = some id := h.creators.held hcall rfl
  refine ⟨id, _, storage, ⟨data, id⟩, hcreator, hcall, himage, .inl hcreator, rfl, rfl, rfl, ?_⟩
  rw [← hurl]
  rfl

/-- The document after `updateData`: only the image has changed. -/
theorem Coherent.profileOf_merging (h : s.Coherent downloadUrl) {id : Nat} {uid : Uid}
    {ref : StorageReference} {profileImageUrl : String} {completions : List (Option NSError)}
    {dictionary : Dictionary}
    (hcall : s.calls id =
      some (.updateUserData ⟨some uid, .updateData ref profileImageUrl, completions⟩))
    (hprofile : s.ProfileOf downloadUrl uid dictionary) :
    s.ProfileOf downloadUrl uid
      (dictionary.merging (.ofList [("profileImageUrl", .string profileImageUrl)])) := by
  have hurl : profileImageUrl = downloadUrl ref := (h.fits hcall).url rfl
  rcases h.stored_of_image hcall rfl with ⟨data, himage⟩
  rcases hprofile with ⟨creation, call, _, _, hcreator, hcreate, _, _, huid, hemail, hnick, _⟩
  -- the other three fields are read as before
  have hkept : ∀ {key}, key ≠ "profileImageUrl" →
      (dictionary.merging (.ofList [("profileImageUrl", .string profileImageUrl)])).string key =
        dictionary.string key := by
    intro key hkey
    rw [Dictionary.string, Dictionary.string, Dictionary.merging_single_of_ne _ _ hkey]
  refine ⟨creation, call, ref, ⟨data, id⟩, hcreator, hcreate, himage, .inr ⟨_, hcall, rfl⟩,
    ?_, ?_, ?_, ?_⟩
  · rw [hkept (by decide), huid]
  · rw [hkept (by decide), hemail]
  · rw [hkept (by decide), hnick]
  · rw [Dictionary.string, Dictionary.merging_single_self, ← hurl]
    rfl

theorem profiles_createUser {e : CreateUserEvent} (h : s.Profiles downloadUrl)
    (hstep : s.createUserStep downloadUrl e = some t) : t.Profiles downloadUrl := by
  have hext := extends_createUser h.coherent hstep
  refine ⟨coherent_createUser h.coherent hstep, ?_, ?_⟩
  · cases createUserStep_cases hstep with
    | completed hcall =>
        -- `setData` replaces the document, but the account is new
        exact h.documents_write hext rfl ((h.coherent.profileOf_userData hcall).extend hext)
    | _ => exact h.documents_extend hext rfl
  · cases createUserStep_cases hstep <;> exact h.answers_update hext rfl trivial

theorem profiles_updateUserData {e : UpdateUserDataEvent} (h : s.Profiles downloadUrl)
    (hstep : s.updateUserDataStep downloadUrl e = some t) : t.Profiles downloadUrl := by
  have hext := extends_updateUserData h.coherent hstep
  refine ⟨coherent_updateUserData h.coherent hstep, ?_, ?_⟩
  · cases updateUserDataStep_cases hstep with
    | written hcall hdata =>
        -- `updateData` needs a document, which was a profile already
        exact h.documents_write hext rfl
          ((h.coherent.profileOf_merging hcall (h.documents hdata)).extend hext)
    | _ => exact h.documents_extend hext rfl
  · cases updateUserDataStep_cases hstep <;> exact h.answers_update hext rfl trivial

theorem profiles_loginUser {e : LoginUserEvent} (h : s.Profiles downloadUrl)
    (hstep : s.loginUserStep e = some t) : t.Profiles downloadUrl := by
  have hext := extends_loginUser h.coherent hstep
  refine ⟨coherent_loginUser h.coherent hstep, ?_, ?_⟩
  · cases loginUserStep_cases hstep <;> exact h.documents_extend hext rfl
  · cases loginUserStep_cases hstep with
    | noUser huser => exact h.answers_update hext rfl nofun
    | started huser => exact h.answers_update hext rfl nofun
    | getFailed hcall =>
        -- no user is passed on
        exact h.answers_update hext rfl fun users husers =>
          ((h.answers hcall).mono fun huser => huser.extend hext) users husers
    | noDocument hcall hdata =>
        exact h.answers_update hext rfl fun users husers =>
          ((h.answers hcall).mono fun huser => huser.extend hext) users husers
    | @answered id uid completions data hcall hdata =>
        -- the document is read now and was a profile all along
        refine h.answers_update hext rfl fun users husers => ?_
        rcases List.mem_append.1 husers with hold | hnew
        · exact ((h.answers hcall).mono fun huser => huser.extend hext) users hold
        · exact ⟨uid, User.init data, rfl, List.mem_singleton.1 hnew,
            ((h.documents hdata).extend hext).decodes⟩

theorem profiles_step {e : BackendEvent} (h : s.Profiles downloadUrl)
    (hstep : s.step downloadUrl e = some t) : t.Profiles downloadUrl := by
  cases e with
  | createUser e => exact profiles_createUser h hstep
  | updateUserData e => exact profiles_updateUserData h hstep
  | loginUser e => exact profiles_loginUser h hstep
  | signIn email password =>
      rcases signIn_eq_some hstep with ⟨account, _, rfl⟩
      exact ⟨h.coherent.withUser _, h.documents, h.answers⟩
  | logOut =>
      cases hstep
      exact ⟨h.coherent.withUser _, h.documents, h.answers⟩

theorem profiles_run {accounts : List Account} {currentUser : Option Uid} {es : List BackendEvent}
    (h : Transition.run (step downloadUrl) (launched accounts currentUser) es = some s) :
    s.Profiles downloadUrl :=
  Transition.run_invariant profiles_step
    ⟨coherent_launched downloadUrl accounts currentUser, nofun, nofun⟩ h

/-! ## Images of other accounts -/

/-- An image belongs to one account. -/
theorem Coherent.uploadedBy_unique (h : s.Coherent downloadUrl) {uid other : Uid}
    {image : StoredImage} (huid : s.UploadedBy uid image) (hother : s.UploadedBy other image) :
    uid = other := by
  have hcreated : ∀ {u : Uid}, s.creator u = some image.uploader →
      ∃ call, s.calls image.uploader = some call ∧ call.account = some u :=
    fun hu => (h.creators _ _).1 hu
  -- the uploader is one call: a registration creates one account, an update has one user
  rcases huid with huid | ⟨call, hcall, huid⟩ <;>
    rcases hother with hother | ⟨call', hcall', hother⟩
  · rcases hcreated huid with ⟨c, hc, hcu⟩
    rcases hcreated hother with ⟨c', hc', hcu'⟩
    cases hc.symm.trans hc'
    exact Option.some.inj (hcu.symm.trans hcu')
  · rcases hcreated huid with ⟨c, hc, hcu⟩
    cases hc.symm.trans hcall'
    cases hcu
  · rcases hcreated hother with ⟨c, hc, hcu⟩
    cases hc.symm.trans hcall
    cases hcu
  · cases hcall.symm.trans hcall'
    exact Option.some.inj (huid.symm.trans hother)

/-- No image under the user's URL belongs to another account. -/
def OnlyOwnImage (downloadUrl : StorageReference → String) (s : Backend) (uid : Uid) (user : User) :
    Prop :=
  ∀ {ref image other}, s.images ref = some image → downloadUrl ref = user.profileImageUrl →
    s.UploadedBy other image → other = uid

theorem UserOf.onlyOwnImage (hinj : Function.Injective downloadUrl) (hs : s.Coherent downloadUrl)
    {uid : Uid} {user : User} (h : s.UserOf downloadUrl uid user) :
    s.OnlyOwnImage downloadUrl uid user := by
  rcases h with ⟨id, call, ref, image, hcreator, hcall, himage, hfor, rfl⟩
  intro ref' image' other himage' hurl hother
  -- one URL, one object
  have href : ref' = ref := hinj hurl
  subst href
  cases himage.symm.trans himage'
  exact hs.uploadedBy_unique hother hfor

/-- In every state, a profile document decodes to a user with its key as uid, the e-mail and
nickname its account was created with and the URL of an image uploaded for this account and no
other; no field is a default; and whatever `LoginUser` has passed on is such a user. -/
theorem loginUser_decodes_profile (hinj : Function.Injective downloadUrl)
    {accounts : List Account} {currentUser : Option Uid} {es : List BackendEvent}
    (h : Transition.run (step downloadUrl) (launched accounts currentUser) es = some s) :
    (∀ {uid dictionary}, s.users uid = some dictionary →
      s.UserOf downloadUrl uid (User.init dictionary) ∧
        s.OnlyOwnImage downloadUrl uid (User.init dictionary) ∧
        ∀ key ∈ ["uid", "email", "nickname", "profileImageUrl"],
          (dictionary.string key).isSome) ∧
    ∀ {id call}, s.calls id = some (.loginUser call) →
      ∀ users ∈ call.completions, ∃ uid user, call.currentUid = some uid ∧ users = [user] ∧
        s.UserOf downloadUrl uid user ∧ s.OnlyOwnImage downloadUrl uid user := by
  have hprofiles := profiles_run h
  refine ⟨?_, ?_⟩
  · intro uid dictionary hdoc
    have hprofile := hprofiles.documents hdoc
    refine ⟨hprofile.decodes, hprofile.decodes.onlyOwnImage hinj hprofiles.coherent, ?_⟩
    rcases hprofile with ⟨_, _, _, _, _, _, _, _, huid, hemail, hnick, hurl⟩
    simp [huid, hemail, hnick, hurl]
  · intro id call hid users husers
    rcases hprofiles.answers hid users husers with ⟨uid, user, huid, hone, huser⟩
    exact ⟨uid, user, huid, hone, huser, huser.onlyOwnImage hinj hprofiles.coherent⟩

/-- Registering, picking another image and asking for the profile. -/
def signsUpAndPicks : List BackendEvent :=
  goesThrough.map .createUser ++
    [.updateUserData (.call ⟨some [2]⟩ "n2"), .updateUserData (.putData 1 none),
      .updateUserData (.downloadURL 1 true), .updateUserData (.updateData 1 none),
      .loginUser .call, .loginUser (.getDocument 2 none)]

theorem loginUser_decodes_profile_signsUpAndPicks :
    ∃ s uid user, Transition.run (step sampleUrl) (launched [] none) signsUpAndPicks = some s ∧
      s.UserOf sampleUrl uid user ∧
      user = ⟨"u1", "kim@mail", "kim", "https://storage/profile_images/n2"⟩ := by
  have hrun : ∃ s, Transition.run (step sampleUrl) (launched [] none) signsUpAndPicks = some s ∧
      ∃ stage, s.calls 2 = some (.loginUser ⟨some sampleUid, stage,
        [[⟨"u1", "kim@mail", "kim", "https://storage/profile_images/n2"⟩]]⟩) :=
    ⟨_, rfl, _, rfl⟩
  rcases hrun with ⟨s, hs, stage, hcall⟩
  have hanswers := (loginUser_decodes_profile sampleUrl_injective hs).2 hcall
  rcases hanswers _ (List.mem_singleton.2 rfl) with ⟨uid, user, _, hone, huser, _⟩
  exact ⟨s, uid, user, hs, huser, (List.singleton_inj.1 hone).symm⟩

end Backend

end MoviePlayList
