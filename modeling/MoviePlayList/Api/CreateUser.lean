import MoviePlayList.Api.Coherence

/-!
# CreateUser — what is left when registrations have come to rest

A run of `AuthServiece.createUser` calls, started over any existing accounts, is judged in the
states where no call is in progress.  Nothing is ever undone: a call that fails after its upload
leaves its image, and one that fails at the profile write leaves its account too.
-/

namespace MoviePlayList

namespace CreateUserStage

def InProgress : CreateUserStage → Prop
  | putData _ _ => True
  | downloadURL _ => True
  | createUser _ _ => True
  | setData _ _ _ => True
  | _ => False

/-- Returned without invoking the completion. -/
def Silent : CreateUserStage → Prop
  | noImageData => True
  | noUrl _ => True
  | _ => False

def ProfileFailed : CreateUserStage → Prop
  | profileFailed _ _ _ _ => True
  | _ => False

/-- A step after the upload failed. -/
def FailedAfterUpload : CreateUserStage → Prop
  | noUrl _ => True
  | accountFailed _ _ _ => True
  | profileFailed _ _ _ _ => True
  | _ => False

/-- Once a call has returned, an account it created has its document or the profile write failed. -/
theorem cases_of_account {stage : CreateUserStage} {uid : Uid} (h : ¬ stage.InProgress)
    (haccount : stage.account = some uid) :
    stage.ProfileFailed ∨ ∃ storage profileImageUrl, stage = completed storage profileImageUrl uid := by
  cases stage with
  | profileFailed storage profileImageUrl uid error => exact .inl trivial
  | completed storage profileImageUrl uid' =>
      cases haccount
      exact .inr ⟨storage, profileImageUrl, rfl⟩
  -- the only stage with an account in which the call still waits
  | setData storage profileImageUrl uid => exact absurd trivial h
  | _ => cases haccount

/-- Once a call has returned, an image it uploaded has its document or a later step failed. -/
theorem cases_of_image {stage : CreateUserStage} {ref : StorageReference} (h : ¬ stage.InProgress)
    (himage : stage.image = some ref) :
    stage.FailedAfterUpload ∨ ∃ profileImageUrl uid, stage = completed ref profileImageUrl uid := by
  cases stage with
  | noUrl storage => exact .inl trivial
  | accountFailed storage profileImageUrl error => exact .inl trivial
  | profileFailed storage profileImageUrl uid error => exact .inl trivial
  | completed storage profileImageUrl uid =>
      cases himage
      exact .inr ⟨profileImageUrl, uid, rfl⟩
  | downloadURL storage => exact absurd trivial h
  | createUser storage profileImageUrl => exact absurd trivial h
  | setData storage profileImageUrl uid => exact absurd trivial h
  | putData storage imageData => cases himage
  | noImageData => cases himage
  | uploadFailed storage error => cases himage

end CreateUserStage

/-- The document a call has written. -/
def Call.document : Call → Option (Uid × Dictionary)
  | .createUser ⟨profileAuth, .completed _ profileImageUrl uid, _⟩ =>
      some (uid, userData profileAuth profileImageUrl uid)
  | _ => none

theorem Call.account_of_document {call : Call} {uid : Uid} {dictionary : Dictionary}
    (h : call.document = some (uid, dictionary)) : call.account = some uid := by
  unfold Call.document at h
  split at h
  · cases h
    rfl
  · cases h

namespace Backend

variable {downloadUrl : StorageReference → String} {s t : Backend}

/-- No registration is in progress. -/
def Quiescent (s : Backend) : Prop :=
  ∀ {id call}, s.calls id = some (.createUser call) → ¬ call.stage.InProgress

/-- `users/{uid}` exists, with the e-mail and the nickname given to the call `id` and the URL of
the image this call uploaded at `ref`. -/
def Documented (downloadUrl : StorageReference → String) (s : Backend) (uid : Uid) (id : Nat)
    (ref : StorageReference) : Prop :=
  ∃ call data dictionary, s.calls id = some (.createUser call) ∧
    s.images ref = some ⟨data, id⟩ ∧ s.users uid = some dictionary ∧
    dictionary.string "email" = some call.profileAuth.email ∧
    dictionary.string "nickname" = some call.profileAuth.nickname ∧
    dictionary.string "profileImageUrl" = some (downloadUrl ref)

/-- The call left an image, an account or a document. -/
def LeftBehind (s : Backend) (id : Nat) : Prop :=
  (∃ ref data, s.images ref = some ⟨data, id⟩) ∨ (∃ uid, s.creator uid = some id) ∨
    ∃ uid, s.creator uid = some id ∧ s.users uid ≠ none

/-! ## Documents of completed calls -/

/-- The documents are those the completed calls have written. -/
def Written (s : Backend) : Prop :=
  ∀ uid dictionary, s.users uid = some dictionary ↔
    ∃ id call, s.calls id = some call ∧ call.document = some (uid, dictionary)

/-- A step that writes no document and changes an entry without one. -/
theorem Written.update {id : Nat} {call : Call} (h : s.Written)
    (hold : ∀ {old}, s.calls id = some old → old.document = none) (hnew : call.document = none) :
    (s.setCall id call).Written := by
  intro uid dictionary
  -- the entry that changes had no document before
  have hentry : ∀ {old}, s.calls id = some old → ¬ old.document = some (uid, dictionary) := by
    intro old hid
    simp [hold hid]
  calc
    s.users uid = some dictionary ↔ _ := h uid dictionary
    _ ↔ _ := by
      rw [Backend.setCall, Footprint.exists_update hentry]
      simp [hnew]

theorem written_step {e : CreateUserEvent} (hs : s.Coherent downloadUrl) (h : s.Written)
    (hstep : s.createUserStep downloadUrl e = some t) : t.Written := by
  -- the two entries that can change: a new one, or one that is still running
  have hfresh : ∀ {old}, s.calls s.nextCall = some old → old.document = none := by
    intro old hold
    rw [hs.calls_nextCall] at hold
    cases hold
  have hentry : ∀ {id call}, s.calls id = some call → call.document = none →
      ∀ {old}, s.calls id = some old → old.document = none := by
    intro id call hid hnone old hold
    cases hid.symm.trans hold
    exact hnone
  cases createUserStep_cases hstep with
  | noImageData hjpeg => exact h.update hfresh rfl
  | started hjpeg hstorage hfree => exact h.update hfresh rfl
  | uploadFailed hcall => exact h.update (hentry hcall rfl) rfl
  | uploaded hcall => exact h.update (hentry hcall rfl) rfl
  | noUrl hcall => exact h.update (hentry hcall rfl) rfl
  | urlFound hcall hstored => exact h.update (hentry hcall rfl) rfl
  | accountFailed hcall => exact h.update (hentry hcall rfl) rfl
  | accountCreated hcall hemail huid hfree => exact h.update (hentry hcall rfl) rfl
  | profileFailed hcall => exact h.update (hentry hcall rfl) rfl
  | @completed id profileAuth storage profileImageUrl uid completions hcall =>
      intro uid' dictionary
      have hnone : ∀ {old}, s.calls id = some old → ¬ old.document = some (uid', dictionary) := by
        intro old hold
        simp [hentry hcall rfl hold]
      simp only [Backend.setCall, Backend.writeUser]
      rw [Footprint.exists_update hnone, ← h uid' dictionary]
      rcases eq_or_ne uid' uid with rfl | hne
      · -- the uid is fresh for this call, so no document is replaced
        have hfree : s.users uid' ≠ some dictionary := by
          intro hdoc
          rcases (h uid' dictionary).1 hdoc with ⟨id', call, hid', hdocument⟩
          have hsame : id' = id :=
            hs.creators.unique hid' (Call.account_of_document hdocument) hcall rfl
          subst hsame
          cases hcall.symm.trans hid'
          cases hdocument
        simp [hfree, Call.document]
      · simp [Function.update_of_ne hne, Call.document, Ne.symm hne]

theorem documented_of_completed (hs : s.Coherent downloadUrl) (hw : s.Written) {id : Nat}
    {profileAuth : ProfileAuth} {storage : StorageReference} {profileImageUrl : String} {uid : Uid}
    {completions : List (Option NSError)}
    (hcall : s.calls id = some (.createUser
      ⟨profileAuth, .completed storage profileImageUrl uid, completions⟩)) :
    s.creator uid = some id ∧ s.Documented downloadUrl uid id storage := by
  -- the image is there by coherence, the document because the call wrote it
  rcases hs.stored_of_image hcall rfl with ⟨data, himage⟩
  have hurl : profileImageUrl = downloadUrl storage := (hs.fits hcall).url rfl
  have hdoc : s.users uid = some (userData profileAuth profileImageUrl uid) :=
    (hw uid _).2 ⟨id, _, hcall, rfl⟩
  refine ⟨hs.creators.held hcall rfl, _, data, _, hcall, himage, hdoc, rfl, rfl, ?_⟩
  rw [← hurl]
  rfl

/-! ## Runs of registrations -/

/-- Only registrations have been called. -/
def OnlyRegistrations (s : Backend) : Prop :=
  ∀ {id call}, s.calls id = some call → ∃ registration, call = .createUser registration

theorem onlyRegistrations_step {e : CreateUserEvent} (h : s.OnlyRegistrations)
    (hstep : s.createUserStep downloadUrl e = some t) : t.OnlyRegistrations := by
  cases createUserStep_cases hstep <;> exact Footprint.forall_update h ⟨_, rfl⟩

/-- What holds in every state of a run of registrations. -/
structure Registered (downloadUrl : StorageReference → String) (s : Backend) : Prop where
  coherent : s.Coherent downloadUrl
  written : s.Written
  only : s.OnlyRegistrations

theorem registered_run {accounts : List Account} {currentUser : Option Uid}
    {es : List CreateUserEvent}
    (h : Transition.run (createUserStep downloadUrl) (launched accounts currentUser) es =
      some s) : s.Registered downloadUrl := by
  refine Transition.run_invariant (I := Registered downloadUrl) ?_
    ⟨coherent_launched downloadUrl accounts currentUser, by simp [Written, launched], nofun⟩ h
  intro s e t hs hstep
  exact ⟨coherent_createUser hs.coherent hstep, written_step hs.coherent hs.written hstep,
    onlyRegistrations_step hs.only hstep⟩

theorem Registered.exists_creator (h : s.Registered downloadUrl) {uid : Uid} {id : Nat}
    (huid : s.creator uid = some id) :
    ∃ call, s.calls id = some (.createUser call) ∧ call.stage.account = some uid := by
  rcases (h.coherent.creators uid id).1 huid with ⟨call, hid, haccount⟩
  rcases h.only hid with ⟨registration, rfl⟩
  exact ⟨registration, hid, haccount⟩

theorem Registered.exists_uploader (h : s.Registered downloadUrl) {ref : StorageReference}
    {image : StoredImage} (himage : s.images ref = some image) :
    ∃ call, s.calls image.uploader = some (.createUser call) ∧ call.stage.image = some ref := by
  have hup : s.uploader ref = some image.uploader := by
    rw [uploader, himage, Option.map_some]
  rcases (h.coherent.images ref image.uploader).1 hup with ⟨call, hid, hcall⟩
  rcases h.only hid with ⟨registration, rfl⟩
  exact ⟨registration, hid, hcall⟩

/-- A run has come to rest when the calls it started have returned. -/
theorem Coherent.quiescent_of_returned (h : s.Coherent downloadUrl) (calls : List CreateUserCall)
    (hnext : s.nextCall = calls.length)
    (hcalls : ∀ (id : Nat) (hid : id < calls.length), s.calls id = some (.createUser calls[id]))
    (hreturned : ∀ call ∈ calls, ¬ call.stage.InProgress) : s.Quiescent := by
  intro id other hid
  have hlt : id < calls.length := hnext ▸ h.lt_nextCall hid
  cases (hcalls id hlt).symm.trans hid
  exact hreturned _ (List.getElem_mem hlt)

/-! ## The outcome of every run -/

/-- What registrations leave when none is in progress. -/
structure RegistrationOutcome (downloadUrl : StorageReference → String) (s : Backend) : Prop where
  documented : ∀ {uid id}, s.creator uid = some id →
    ∃ call, s.calls id = some (.createUser call) ∧
      (call.stage.ProfileFailed ∨ ∃ ref, s.Documented downloadUrl uid id ref)
  referenced : ∀ {ref image}, s.images ref = some image →
    ∃ call, s.calls image.uploader = some (.createUser call) ∧
      (call.stage.FailedAfterUpload ∨
        ∃ uid, s.creator uid = some image.uploader ∧
          s.Documented downloadUrl uid image.uploader ref)
  atMostOnce : ∀ {id call}, s.calls id = some (.createUser call) → call.completions.length ≤ 1
  reported : ∀ {id call}, s.calls id = some (.createUser call) → ¬ call.stage.Silent →
    ∃ error, call.completions = [error] ∧
      (error.isSome ↔ ¬ ∃ uid ref, s.creator uid = some id ∧ s.Documented downloadUrl uid id ref)

theorem completions_length_le_one (stage : CreateUserStage) : stage.completions.length ≤ 1 := by
  cases stage <;> simp [CreateUserStage.completions]

/-- Only a completed call has an account with a document. -/
theorem Registered.completed_of_documented (h : s.Registered downloadUrl) {uid : Uid} {id : Nat}
    {call : CreateUserCall} {ref : StorageReference}
    (hid : s.calls id = some (.createUser call)) (huid : s.creator uid = some id)
    (hdoc : s.Documented downloadUrl uid id ref) :
    ∃ storage profileImageUrl, call.stage = .completed storage profileImageUrl uid := by
  rcases hdoc with ⟨_, _, dictionary, _, _, husers, _⟩
  rcases (h.written uid dictionary).1 husers with ⟨other, written, hother, hdocument⟩
  -- whoever wrote the document has created the account
  have hsame : id = other := by
    have hheld := h.coherent.creators.held hother (Call.account_of_document hdocument)
    exact Option.some.inj (huid.symm.trans hheld)
  subst hsame
  cases hid.symm.trans hother
  rcases call with ⟨_, stage, _⟩
  cases stage <;> first | exact ⟨_, _, by cases hdocument; rfl⟩ | cases hdocument

/-- A call that did not return without a word has told its caller once, of an error unless it has
left its account and its document. -/
theorem Registered.reported (h : s.Registered downloadUrl) (hq : s.Quiescent) {id : Nat}
    {call : CreateUserCall} (hid : s.calls id = some (.createUser call))
    (hloud : ¬ call.stage.Silent) :
    ∃ error, call.completions = [error] ∧
      (error.isSome ↔
        ¬ ∃ uid ref, s.creator uid = some id ∧ s.Documented downloadUrl uid id ref) := by
  have hlog : call.completions = call.stage.completions := (h.coherent.fits hid).logged
  -- an error is passed in every stage but `completed`, and only there a document exists
  have herror : ∀ error, (∀ storage url uid, call.stage ≠ .completed storage url uid) →
      ((some error : Option NSError).isSome ↔
        ¬ ∃ uid ref, s.creator uid = some id ∧ s.Documented downloadUrl uid id ref) := by
    intro error hstage
    refine iff_of_true rfl ?_
    rintro ⟨uid, ref, huid, hdoc⟩
    rcases h.completed_of_documented hid huid hdoc with ⟨storage, url, hcompleted⟩
    exact hstage _ _ _ hcompleted
  rcases call with ⟨profileAuth, stage, completions⟩
  cases stage with
  | uploadFailed storage error => exact ⟨some error, hlog, herror error (by simp)⟩
  | accountFailed storage url error => exact ⟨some error, hlog, herror error (by simp)⟩
  | profileFailed storage url uid error => exact ⟨some error, hlog, herror error (by simp)⟩
  | completed storage url uid =>
      refine ⟨none, hlog, ?_⟩
      have hdoc := documented_of_completed h.coherent h.written hid
      simpa using ⟨uid, hdoc.1, storage, hdoc.2⟩
  -- the two guards that return without a word are excluded
  | noImageData => exact absurd trivial hloud
  | noUrl storage => exact absurd trivial hloud
  -- and no call is in progress
  | putData storage imageData => exact absurd trivial (hq hid)
  | downloadURL storage => exact absurd trivial (hq hid)
  | createUser storage url => exact absurd trivial (hq hid)
  | setData storage url uid => exact absurd trivial (hq hid)

/-- The outcome of a state in which every call has returned. -/
theorem Registered.outcome (h : s.Registered downloadUrl) (hq : s.Quiescent) :
    s.RegistrationOutcome downloadUrl where
  documented := by
    intro uid id huid
    rcases h.exists_creator huid with
      ⟨⟨profileAuth, stage, completions⟩, hid, haccount⟩
    refine ⟨_, hid, ?_⟩
    -- a returned call with an account has failed at the profile write or is completed
    rcases CreateUserStage.cases_of_account (hq hid) haccount with hfailed | ⟨storage, url, rfl⟩
    · exact .inl hfailed
    · exact .inr ⟨storage, (documented_of_completed h.coherent
        h.written hid).2⟩
  referenced := by
    intro ref image himage
    rcases h.exists_uploader himage with
      ⟨⟨profileAuth, stage, completions⟩, hid, hcall⟩
    refine ⟨_, hid, ?_⟩
    -- the same for a returned call with an image
    rcases CreateUserStage.cases_of_image (hq hid) hcall with hfailed | ⟨url, uid, rfl⟩
    · exact .inl hfailed
    · exact .inr ⟨uid, documented_of_completed h.coherent
        h.written hid⟩
  atMostOnce := by
    intro id call hid
    have hlog : call.completions = call.stage.completions :=
      (h.coherent.fits hid).logged
    rw [hlog]
    exact completions_length_le_one call.stage
  reported := fun hid hloud => h.reported hq hid hloud

/-- Download URLs to run the backend with. -/
def sampleUrl (ref : StorageReference) : String := "https://storage" ++ ref.path

theorem sampleUrl_injective : Function.Injective sampleUrl := by
  intro a b h
  have hpath : a.path = b.path := (String.append_right_inj "https://storage").1 h
  cases a
  cases b
  exact congrArg StorageReference.mk hpath

def sampleAuth (email : String) : ProfileAuth where
  email := email
  password := "secret"
  nickname := "kim"
  profileImage := ⟨some [1]⟩

/-- Whenever no registration is in progress: an account has its document unless the profile write
failed, an image has its document unless a step after the upload failed, and whoever was told was
told once, of an error exactly when account, image and document are not all there. -/
theorem registration_outcome {accounts : List Account} {currentUser : Option Uid}
    {es : List CreateUserEvent}
    (h : Transition.run (createUserStep downloadUrl) (launched accounts currentUser) es = some s)
    (hq : s.Quiescent) : s.RegistrationOutcome downloadUrl :=
  (registered_run h).outcome hq

/-- A registration that goes through. -/
def goesThrough : List CreateUserEvent :=
  [.call (sampleAuth "kim@mail") "n1", .putData 0 none, .downloadURL 0 true,
    .createUser 0 (.ok sampleUid), .setData 0 none]

/-- The same with a second registration in between, whose e-mail is in use by then. -/
def goesThroughOnce : List CreateUserEvent :=
  [.call (sampleAuth "kim@mail") "n1", .putData 0 none, .call (sampleAuth "kim@mail") "n2",
    .downloadURL 0 true, .putData 1 none, .createUser 0 (.ok sampleUid), .downloadURL 1 true,
    .createUser 1 (.error "The email address is already in use by another account."),
    .setData 0 none]

theorem registration_outcome_goesThrough :
    ∃ s, Transition.run (createUserStep sampleUrl) (launched [] none) goesThroughOnce = some s ∧
      s.creator sampleUid = some 0 ∧ s.images ⟨"/profileImage/n2"⟩ = some ⟨[1], 1⟩ ∧
      s.RegistrationOutcome sampleUrl := by
  have hrun : ∃ s, Transition.run (createUserStep sampleUrl) (launched [] none) goesThroughOnce =
        some s ∧ s.nextCall = 2 ∧ s.creator sampleUid = some 0 ∧
      s.images ⟨"/profileImage/n2"⟩ = some ⟨[1], 1⟩ ∧ ∃ first second,
        s.calls 0 = some (.createUser first) ∧ s.calls 1 = some (.createUser second) ∧
        ¬ first.stage.InProgress ∧ ¬ second.stage.InProgress :=
    ⟨_, rfl, rfl, rfl, rfl, _, _, rfl, rfl, id, id⟩
  rcases hrun with ⟨s, hs, hnext, huid, himage, first, second, hfirst, hsecond, hdone, hfailed⟩
  refine ⟨s, hs, huid, himage, registration_outcome hs
    ((registered_run hs).coherent.quiescent_of_returned [first, second] hnext
      (fun id hid => ?_) (by simp [hdone, hfailed]))⟩
  match id, hid with
  | 0, _ => exact hfirst
  | 1, _ => exact hsecond

/-! ## Runs in which registration leaves all or nothing -/

/-- Every account has its document, every image is referenced by one, and every call was told once,
of an error exactly when it left nothing. -/
structure RegistrationContract (downloadUrl : StorageReference → String) (s : Backend) : Prop where
  documented : ∀ {uid id}, s.creator uid = some id → ∃ ref, s.Documented downloadUrl uid id ref
  referenced : ∀ {ref image}, s.images ref = some image →
    ∃ uid id, s.creator uid = some id ∧ s.Documented downloadUrl uid id ref
  reported : ∀ {id call}, s.calls id = some (.createUser call) →
    ∃ error, call.completions = [error] ∧ (error.isSome ↔ ¬ s.LeftBehind id)

/-- Under the contract no call has stopped at a guard or failed after its upload. -/
theorem Registered.stage_of_contract (h : s.Registered downloadUrl)
    (hcontract : s.RegistrationContract downloadUrl) {id : Nat} {call : CreateUserCall}
    (hid : s.calls id = some (.createUser call)) :
    ¬ call.stage.Silent ∧ ¬ call.stage.FailedAfterUpload := by
  rcases hcontract.reported hid with ⟨error, hone, hiff⟩
  have hlog : call.completions = call.stage.completions := (h.coherent.fits hid).logged
  rw [hlog] at hone
  rcases call with ⟨profileAuth, stage, completions⟩
  -- a call with an image left something, so it cannot have been told of an error
  have htold : ∀ ref, stage.image = some ref → error = none := by
    intro ref himage
    rcases h.coherent.stored_of_image hid himage with ⟨data, hstored⟩
    by_contra hsome
    exact hiff.1 (Option.isSome_iff_ne_none.2 hsome) (.inl ⟨ref, data, hstored⟩)
  refine ⟨?_, ?_⟩
  · intro hsilent
    cases stage with
    | noImageData => cases hone
    | noUrl storage => cases hone
    | _ => cases hsilent
  · intro hfailed
    cases stage with
    | noUrl storage => cases hone
    | accountFailed storage url error' =>
        rw [htold storage rfl] at hone
        cases hone
    | profileFailed storage url uid error' =>
        rw [htold storage rfl] at hone
        cases hone
    | _ => cases hfailed

/-- Without such calls the exceptions of the outcome do not arise. -/
theorem Registered.contract_of_stage (h : s.Registered downloadUrl) (hq : s.Quiescent)
    (hcalls : ∀ {id call}, s.calls id = some (.createUser call) →
      ¬ call.stage.Silent ∧ ¬ call.stage.FailedAfterUpload) :
    s.RegistrationContract downloadUrl := by
  have hout := h.outcome hq
  have hdocumented : ∀ {uid id}, s.creator uid = some id →
      ∃ ref, s.Documented downloadUrl uid id ref := by
    intro uid id huid
    rcases hout.documented huid with ⟨call, hid, hfailed | hdoc⟩
    · -- a failed profile write is a failure after the upload
      refine absurd ?_ (hcalls hid).2
      rcases call with ⟨_, stage, _⟩
      cases stage <;> first | exact hfailed | cases hfailed
    · exact hdoc
  have hreferenced : ∀ {ref image}, s.images ref = some image →
      ∃ uid, s.creator uid = some image.uploader ∧
        s.Documented downloadUrl uid image.uploader ref := by
    intro ref image himage
    rcases hout.referenced himage with ⟨call, hid, hfailed | hdoc⟩
    · exact absurd hfailed (hcalls hid).2
    · exact hdoc
  refine ⟨hdocumented, fun himage => ?_, ?_⟩
  · rcases hreferenced himage with ⟨uid, hdoc⟩
    exact ⟨uid, _, hdoc⟩
  · intro id call hid
    rcases hout.reported hid (hcalls hid).1 with ⟨error, hone, hiff⟩
    refine ⟨error, hone, hiff.trans (not_congr ?_)⟩
    constructor
    · rintro ⟨uid, ref, huid, hdoc⟩
      exact .inr (.inl ⟨uid, huid⟩)
    · -- whatever was left behind, the document is there as well
      rintro (⟨ref, data, himage⟩ | ⟨uid, huid⟩ | ⟨uid, huid, _⟩)
      · rcases hreferenced himage with ⟨uid, huid, hdoc⟩
        exact ⟨uid, ref, huid, hdoc⟩
      · rcases hdocumented huid with ⟨ref, hdoc⟩
        exact ⟨uid, ref, huid, hdoc⟩
      · rcases hdocumented huid with ⟨ref, hdoc⟩
        exact ⟨uid, ref, huid, hdoc⟩

/-- In a run that has come to rest the contract holds exactly when every call either failed at the
upload or went through. -/
theorem Registered.contract_iff (h : s.Registered downloadUrl) (hq : s.Quiescent) :
    s.RegistrationContract downloadUrl ↔
      ∀ {id call}, s.calls id = some (.createUser call) →
        ¬ call.stage.Silent ∧ ¬ call.stage.FailedAfterUpload :=
  ⟨fun hcontract _ _ hid => h.stage_of_contract hcontract hid, h.contract_of_stage hq⟩

/-! ## A registration with an e-mail in use -/

/-- The image is uploaded, and only then Auth rejects the e-mail. -/
def emailInUse : List CreateUserEvent :=
  [.call (sampleAuth "kim@mail") "n1", .putData 0 none, .downloadURL 0 true,
    .createUser 0 (.error "The email address is already in use by another account.")]

def sampleAccounts : List Account := [⟨sampleUid, "kim@mail", "other"⟩]

/-- The image stays although the registration failed and the caller was told so. -/
theorem not_registrationContract_emailInUse :
    ∃ s, Transition.run (createUserStep sampleUrl) (launched sampleAccounts none) emailInUse =
        some s ∧
      s.Quiescent ∧ s.images ⟨"/profileImage/n1"⟩ = some ⟨[1], 0⟩ ∧
      ¬ s.RegistrationContract sampleUrl := by
  have hrun : ∃ s, Transition.run (createUserStep sampleUrl) (launched sampleAccounts none)
        emailInUse = some s ∧
      s.nextCall = 1 ∧ s.images ⟨"/profileImage/n1"⟩ = some ⟨[1], 0⟩ ∧
      ∃ call, s.calls 0 = some (.createUser call) ∧ ¬ call.stage.InProgress ∧
        call.stage.FailedAfterUpload :=
    ⟨_, rfl, rfl, rfl, _, rfl, id, trivial⟩
  rcases hrun with ⟨s, hs, hnext, himage, call, hcall, hreturned, hfailed⟩
  have hq : s.Quiescent := by
    refine (registered_run hs).coherent.quiescent_of_returned [call] hnext
      (fun id hid => ?_) (List.forall_mem_singleton.2 hreturned)
    cases Nat.lt_one_iff.1 hid
    exact hcall
  refine ⟨s, hs, hq, himage, fun hcontract => ?_⟩
  exact (((registered_run hs).contract_iff hq).1 hcontract hcall).2 hfailed

end Backend

end MoviePlayList
