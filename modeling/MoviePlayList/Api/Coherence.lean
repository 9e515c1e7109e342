import MoviePlayList.Api.AuthService
import MoviePlayList.Api.UserService
import MoviePlayList.Lib.Footprint
import MoviePlayList.Lib.Transition

/-!
# Coherence — calls and stores agree

The stage of a call says what the call has left in the stores so far: the reference it made, the
image it uploaded, the account it created.  `Coherent` says that the stores hold exactly that, and
that every captured URL and every log of completions is the one the stage implies.  Each operation
of the backend has one rule that keeps it.  `Extends` is the other half: nothing that a store has
ever attributed to a call is lost or attributed anew.
-/

namespace MoviePlayList

/-! ## What a stage says -/

namespace CreateUserStage

def storage : CreateUserStage → Option StorageReference
  | putData storage _ => some storage
  | downloadURL storage => some storage
  | createUser storage _ => some storage
  | setData storage _ _ => some storage
  | noImageData => none
  | uploadFailed storage _ => some storage
  | noUrl storage => some storage
  | accountFailed storage _ _ => some storage
  | profileFailed storage _ _ _ => some storage
  | completed storage _ _ => some storage

def image : CreateUserStage → Option StorageReference
  -- not uploaded yet, or never
  | putData _ _ => none
  | uploadFailed _ _ => none
  | stage => stage.storage

def account : CreateUserStage → Option Uid
  | setData _ _ uid => some uid
  | profileFailed _ _ uid _ => some uid
  | completed _ _ uid => some uid
  | _ => none

def url : CreateUserStage → Option (StorageReference × String)
  | createUser storage profileImageUrl => some (storage, profileImageUrl)
  | setData storage profileImageUrl _ => some (storage, profileImageUrl)
  | accountFailed storage profileImageUrl _ => some (storage, profileImageUrl)
  | profileFailed storage profileImageUrl _ _ => some (storage, profileImageUrl)
  | completed storage profileImageUrl _ => some (storage, profileImageUrl)
  | _ => none

def completions : CreateUserStage → List (Option NSError)
  | uploadFailed _ error => [some error]
  | accountFailed _ _ error => [some error]
  | profileFailed _ _ _ error => [some error]
  | completed _ _ _ => [none]
  | _ => []

end CreateUserStage

namespace UpdateUserDataStage

def storage : UpdateUserDataStage → Option StorageReference
  | putData ref _ => some ref
  | downloadURL ref _ => some ref
  | updateData ref _ => some ref
  | noUser => none
  | noImageData => none
  | noUrl ref _ => some ref
  | updateFailed ref _ _ => some ref
  | written ref _ => some ref

/-- The error of the upload, where it is still in scope. -/
def uploadError : UpdateUserDataStage → Option NSError
  | downloadURL _ error => error
  | noUrl _ error => error
  | _ => none

def image : UpdateUserDataStage → Option StorageReference
  | putData _ _ => none
  -- the lookup goes on after a failed upload, with nothing stored
  | downloadURL _ (some _) => none
  | noUrl _ (some _) => none
  | stage => stage.storage

def url : UpdateUserDataStage → Option (StorageReference × String)
  | updateData ref profileImageUrl => some (ref, profileImageUrl)
  | updateFailed ref profileImageUrl _ => some (ref, profileImageUrl)
  | written ref profileImageUrl => some (ref, profileImageUrl)
  | _ => none

def completions (stage : UpdateUserDataStage) : List (Option NSError) :=
  stage.uploadError.toList.map some

end UpdateUserDataStage

namespace Call

def storage : Call → Option StorageReference
  | createUser call => call.stage.storage
  | updateUserData call => call.stage.storage
  | loginUser _ => none

def image : Call → Option StorageReference
  | createUser call => call.stage.image
  | updateUserData call => call.stage.image
  | loginUser _ => none

def account : Call → Option Uid
  | createUser call => call.stage.account
  | updateUserData _ => none
  | loginUser _ => none

def url : Call → Option (StorageReference × String)
  | createUser call => call.stage.url
  | updateUserData call => call.stage.url
  | loginUser _ => none

/-- The completions logged are those the stage implies. -/
def Logged : Call → Prop
  | createUser call => call.completions = call.stage.completions
  | updateUserData call => call.completions = call.stage.completions
  | loginUser _ => True

/-- The captured URL is that of the captured reference, and the log is the one of the stage. -/
structure Fits (downloadUrl : StorageReference → String) (call : Call) : Prop where
  url : ∀ {ref profileImageUrl}, call.url = some (ref, profileImageUrl) →
    profileImageUrl = downloadUrl ref
  logged : call.Logged

/-- The call without what changes while it runs. -/
inductive Arguments
  | createUser (profileAuth : ProfileAuth)
  | updateUserData (currentUid : Option Uid)
  | loginUser (currentUid : Option Uid)

def arguments : Call → Arguments
  | createUser call => .createUser call.profileAuth
  | updateUserData call => .updateUserData call.currentUid
  | loginUser call => .loginUser call.currentUid

/-- An uploaded image lies at the reference the call made. -/
theorem storage_of_image {call : Call} {ref : StorageReference} (h : call.image = some ref) :
    call.storage = some ref := by
  cases call with
  | createUser call =>
      rcases call with ⟨_, stage, _⟩
      cases stage <;> first | exact h | cases h
  | updateUserData call =>
      rcases call with ⟨_, stage, _⟩
      cases stage with
      | downloadURL ref error =>
          cases error <;> first | exact h | cases h
      | noUrl ref error =>
          cases error <;> first | exact h | cases h
      | _ => first | exact h | cases h
  | loginUser call =>
      cases h

end Call

namespace Backend

/-! ## Coherence -/

/-- The call that uploaded the image stored at a reference. -/
def uploader (self : Backend) (ref : StorageReference) : Option Nat :=
  (self.images ref).map StoredImage.uploader

structure Coherent (downloadUrl : StorageReference → String) (s : Backend) : Prop where
  next : ∀ {id}, s.nextCall ≤ id → s.calls id = none
  owners : Footprint.Exact s.owner s.calls Call.storage
  images : Footprint.Exact s.uploader s.calls Call.image
  creators : Footprint.Exact s.creator s.calls Call.account
  fits : ∀ {id call}, s.calls id = some call → call.Fits downloadUrl

section Update

variable {downloadUrl : StorageReference → String} {s : Backend}

theorem Coherent.calls_nextCall (h : s.Coherent downloadUrl) :
    s.calls s.nextCall = none := h.next (Nat.le_refl _)

theorem Coherent.lt_nextCall (h : s.Coherent downloadUrl) {id : Nat} {call : Call}
    (hid : s.calls id = some call) : id < s.nextCall := by
  by_contra hge
  rw [h.next (Nat.not_lt.1 hge)] at hid
  cases hid

/-- An object is stored at a reference only by the call that made the reference. -/
theorem Coherent.image_of_stored (h : s.Coherent downloadUrl) {id : Nat} {call : Call}
    {ref : StorageReference} (hid : s.calls id = some call) (hs : call.storage = some ref)
    (hstored : s.images ref ≠ none) :
    call.image = some ref ∧ ∃ data, s.images ref = some ⟨data, id⟩ := by
  -- whoever uploaded the object has made the reference, and only one call makes it
  rcases Option.ne_none_iff_exists'.1 hstored with ⟨⟨data, uploader⟩, himage⟩
  have hup : s.uploader ref = some uploader := by
    rw [Backend.uploader, himage, Option.map_some]
  rcases (h.images ref uploader).1 hup with ⟨other, hother, hotherImage⟩
  have hsame : id = uploader :=
    h.owners.unique hid hs hother (Call.storage_of_image hotherImage)
  subst hsame
  cases hid.symm.trans hother
  exact ⟨hotherImage, data, himage⟩

theorem Coherent.stored_of_image (h : s.Coherent downloadUrl) {id : Nat} {call : Call}
    {ref : StorageReference} (hid : s.calls id = some call) (hi : call.image = some ref) :
    ∃ data, s.images ref = some ⟨data, id⟩ := by
  have hup := h.images.held hid hi
  simp only [Backend.uploader, Option.map_eq_some_iff] at hup
  rcases hup with ⟨⟨data, uploader⟩, himage, rfl⟩
  exact ⟨data, himage⟩

theorem Coherent.not_stored (h : s.Coherent downloadUrl) {id : Nat} {call : Call}
    {ref : StorageReference} (hid : s.calls id = some call) (hs : call.storage = some ref)
    (hi : call.image = none) : s.images ref = none := by
  by_contra hstored
  have himage := (h.image_of_stored hid hs hstored).1
  rw [hi] at himage
  cases himage

theorem uploader_storeImage (id : Nat) (ref : StorageReference) (data : Data) :
    (s.storeImage id ref data).uploader = Function.update s.uploader ref (some id) := by
  funext r
  rcases eq_or_ne r ref with rfl | hne
  · simp [uploader, storeImage]
  · simp [uploader, storeImage, Function.update_of_ne hne]

/-! ## One rule for each operation -/

theorem Coherent.next_update (h : s.Coherent downloadUrl) (call : Call) {id : Nat}
    (hid : s.nextCall + 1 ≤ id) :
    Function.update s.calls s.nextCall (some call) id = none := by
  have hne : id ≠ s.nextCall := Nat.ne_of_gt hid
  simpa only [Function.update_of_ne hne] using h.next (Nat.le_of_lt hid)

theorem Coherent.next_setCall (h : s.Coherent downloadUrl) {id : Nat} {old : Call} (call : Call)
    (hid : s.calls id = some old) {i : Nat} (hge : s.nextCall ≤ i) :
    Function.update s.calls id (some call) i = none := by
  have hne : i ≠ id := Nat.ne_of_gt (Nat.lt_of_lt_of_le (h.lt_nextCall hid) hge)
  simpa only [Function.update_of_ne hne] using h.next hge

theorem Coherent.start (h : s.Coherent downloadUrl) {call : Call} (hs : call.storage = none)
    (hi : call.image = none) (ha : call.account = none) (hfits : call.Fits downloadUrl) :
    (s.start call).Coherent downloadUrl where
  next := h.next_update call
  owners := h.owners.keep (by simp [h.calls_nextCall, hs])
  images := h.images.keep (by simp [h.calls_nextCall, hi])
  creators := h.creators.keep (by simp [h.calls_nextCall, ha])
  fits := Footprint.forall_update h.fits hfits

theorem Coherent.startWith (h : s.Coherent downloadUrl) {call : Call} {ref : StorageReference}
    (hfree : s.owner ref = none) (hs : call.storage = some ref)
    (hi : call.image = none) (ha : call.account = none) (hfits : call.Fits downloadUrl) :
    (s.startWith ref call).Coherent downloadUrl where
  next := h.next_update call
  owners := h.owners.acquire (by simp [h.calls_nextCall]) hfree hs
  images := h.images.keep (by simp [h.calls_nextCall, hi])
  creators := h.creators.keep (by simp [h.calls_nextCall, ha])
  fits := Footprint.forall_update h.fits hfits

/-- A call goes on and the stores stay. -/
theorem Coherent.setCall (h : s.Coherent downloadUrl) {id : Nat} {old call : Call}
    (hid : s.calls id = some old) (hs : call.storage = old.storage)
    (hi : call.image = old.image) (ha : call.account = old.account)
    (hfits : call.Fits downloadUrl) : (s.setCall id call).Coherent downloadUrl where
  next := h.next_setCall call hid
  owners := h.owners.keep (by simp [hid, hs])
  images := h.images.keep (by simp [hid, hi])
  creators := h.creators.keep (by simp [hid, ha])
  fits := Footprint.forall_update h.fits hfits

/-- A call has uploaded its image. -/
theorem Coherent.storeImage (h : s.Coherent downloadUrl) {id : Nat} {old call : Call}
    {ref : StorageReference} (data : Data) (hid : s.calls id = some old)
    (hold : old.storage = some ref) (hnone : old.image = none)
    (hs : call.storage = some ref) (hi : call.image = some ref) (ha : call.account = old.account)
    (hfits : call.Fits downloadUrl) :
    ((s.storeImage id ref data).setCall id call).Coherent downloadUrl where
  next := h.next_setCall call hid
  owners := h.owners.keep (by simp [hid, hs, hold])
  images := by
    -- the reference is the call's own, so the object is new
    have hfree : s.uploader ref = none := by
      rw [uploader, h.not_stored hid hold hnone, Option.map_none]
    have hacq := h.images.acquire (i := id) (by simp [hid, hnone]) hfree hi
    rw [← uploader_storeImage id ref data] at hacq
    exact hacq
  creators := h.creators.keep (by simp [hid, ha])
  fits := Footprint.forall_update h.fits hfits

/-- A call has created its account. -/
theorem Coherent.addAccount (h : s.Coherent downloadUrl) {id : Nat} {old call : Call}
    {account : Account} (hid : s.calls id = some old) (hfree : s.creator account.uid = none)
    (hnone : old.account = none) (hs : call.storage = old.storage) (hi : call.image = old.image)
    (ha : call.account = some account.uid) (hfits : call.Fits downloadUrl) :
    ((s.addAccount id account).setCall id call).Coherent downloadUrl where
  next := h.next_setCall call hid
  owners := h.owners.keep (by simp [hid, hs])
  images := h.images.keep (by simp [hid, hi])
  creators := h.creators.acquire (by simp [hid, hnone]) hfree ha
  fits := Footprint.forall_update h.fits hfits

theorem Coherent.writeUser (h : s.Coherent downloadUrl) (uid : Uid) (data : Dictionary) :
    (s.writeUser uid data).Coherent downloadUrl where
  next := h.next
  owners := h.owners
  images := h.images
  creators := h.creators
  fits := h.fits

theorem Coherent.withUser (h : s.Coherent downloadUrl) (currentUser : Option Uid) :
    ({ s with currentUser := currentUser } : Backend).Coherent downloadUrl where
  next := h.next
  owners := h.owners
  images := h.images
  creators := h.creators
  fits := h.fits

/-! ## Every event keeps the stores coherent -/

theorem coherent_createUser {t : Backend} {e : CreateUserEvent} (h : s.Coherent downloadUrl)
    (hstep : s.createUserStep downloadUrl e = some t) : t.Coherent downloadUrl := by
  cases createUserStep_cases hstep with
  | noImageData hjpeg =>
      exact h.start rfl rfl rfl ⟨nofun, rfl⟩
  | started hjpeg hstorage hfresh =>
      exact h.startWith hfresh rfl rfl rfl ⟨nofun, rfl⟩
  | uploadFailed hcall =>
      refine h.setCall hcall rfl rfl rfl ⟨nofun, ?_⟩
      simpa [Call.Logged, CreateUserStage.completions] using (h.fits hcall).logged
  | uploaded hcall =>
      exact h.storeImage _ hcall rfl rfl rfl rfl rfl ⟨nofun, (h.fits hcall).logged⟩
  | noUrl hcall =>
      exact h.setCall hcall rfl rfl rfl ⟨nofun, (h.fits hcall).logged⟩
  | urlFound hcall hstored =>
      refine h.setCall hcall rfl rfl rfl ⟨?_, (h.fits hcall).logged⟩
      intro ref profileImageUrl hurl
      cases hurl
      rfl
  | accountFailed hcall =>
      refine h.setCall hcall rfl rfl rfl ⟨(h.fits hcall).url, ?_⟩
      simpa [Call.Logged, CreateUserStage.completions] using (h.fits hcall).logged
  -- the only case in which a store of accounts changes
  | accountCreated hcall hemail huid hfresh =>
      exact h.addAccount hcall hfresh rfl rfl rfl rfl
        ⟨(h.fits hcall).url, (h.fits hcall).logged⟩
  | profileFailed hcall =>
      refine h.setCall hcall rfl rfl rfl ⟨(h.fits hcall).url, ?_⟩
      simpa [Call.Logged, CreateUserStage.completions] using (h.fits hcall).logged
  | completed hcall =>
      refine (h.writeUser _ _).setCall hcall rfl rfl rfl ⟨(h.fits hcall).url, ?_⟩
      simpa [Call.Logged, CreateUserStage.completions] using (h.fits hcall).logged

/-- An object found at the reference of an update was uploaded by it: a failed upload leaves
nothing to find. -/
theorem Coherent.uploadError_eq_none (h : s.Coherent downloadUrl) {id : Nat}
    {call : UpdateUserDataCall} {ref : StorageReference} {error : Option NSError}
    (hcall : s.calls id = some (.updateUserData call)) (hstage : call.stage = .downloadURL ref error)
    (hstored : s.images ref ≠ none) : error = none := by
  have himage := (h.image_of_stored hcall (by simp [Call.storage, hstage,
    UpdateUserDataStage.storage]) hstored).1
  cases error with
  | none =>
      rfl
  | some error =>
      simp [Call.image, hstage, UpdateUserDataStage.image] at himage

theorem coherent_updateUserData {t : Backend} {e : UpdateUserDataEvent}
    (h : s.Coherent downloadUrl) (hstep : s.updateUserDataStep downloadUrl e = some t) :
    t.Coherent downloadUrl := by
  cases updateUserDataStep_cases hstep with
  | noUser huser =>
      exact h.start rfl rfl rfl ⟨nofun, rfl⟩
  | noImageData huser hjpeg =>
      exact h.start rfl rfl rfl ⟨nofun, rfl⟩
  | started huser hjpeg href hfresh =>
      exact h.startWith hfresh rfl rfl rfl ⟨nofun, rfl⟩
  | uploadFailed hcall =>
      refine h.setCall hcall rfl rfl rfl ⟨nofun, ?_⟩
      simpa [Call.Logged, UpdateUserDataStage.completions, UpdateUserDataStage.uploadError]
        using (h.fits hcall).logged
  | uploaded hcall =>
      exact h.storeImage _ hcall rfl rfl rfl rfl rfl ⟨nofun, (h.fits hcall).logged⟩
  | @noUrl id uid? ref error completions hcall =>
      -- whether the upload failed is in the stage, not in the event
      cases error with
      | none => exact h.setCall hcall rfl rfl rfl ⟨nofun, (h.fits hcall).logged⟩
      | some error => exact h.setCall hcall rfl rfl rfl ⟨nofun, (h.fits hcall).logged⟩
  | urlFound hcall hstored =>
      -- a URL was found, so this is not the lookup after a failed upload
      cases h.uploadError_eq_none hcall rfl hstored
      refine h.setCall hcall rfl rfl rfl ⟨?_, (h.fits hcall).logged⟩
      intro ref profileImageUrl hurl
      cases hurl
      rfl
  | updateFailed hcall =>
      exact h.setCall hcall rfl rfl rfl ⟨(h.fits hcall).url, (h.fits hcall).logged⟩
  | written hcall hdata =>
      exact (h.writeUser _ _).setCall hcall rfl rfl rfl
        ⟨(h.fits hcall).url, (h.fits hcall).logged⟩

theorem coherent_loginUser {t : Backend} {e : LoginUserEvent} (h : s.Coherent downloadUrl)
    (hstep : s.loginUserStep e = some t) : t.Coherent downloadUrl := by
  cases loginUserStep_cases hstep with
  | noUser huser =>
      exact h.start rfl rfl rfl ⟨nofun, trivial⟩
  | started huser =>
      exact h.start rfl rfl rfl ⟨nofun, trivial⟩
  | getFailed hcall =>
      exact h.setCall hcall rfl rfl rfl ⟨nofun, trivial⟩
  | noDocument hcall hdata =>
      exact h.setCall hcall rfl rfl rfl ⟨nofun, trivial⟩
  | answered hcall hdata =>
      exact h.setCall hcall rfl rfl rfl ⟨nofun, trivial⟩

end Update

theorem coherent_launched (downloadUrl : StorageReference → String) (accounts : List Account)
    (currentUser : Option Uid) : (launched accounts currentUser).Coherent downloadUrl where
  next := fun _ => rfl
  owners := by simp [Footprint.Exact, launched]
  images := by simp [Footprint.Exact, launched, uploader]
  creators := by simp [Footprint.Exact, launched]
  fits := nofun

/-! ## What a step leaves in place -/

/-- What `s` attributes to a call, `t` attributes to the same call. -/
structure Extends (s t : Backend) : Prop where
  creator : ∀ {uid id}, s.creator uid = some id → t.creator uid = some id
  images : ∀ {ref image}, s.images ref = some image → t.images ref = some image
  calls : ∀ {id call}, s.calls id = some call →
    ∃ next, t.calls id = some next ∧ next.arguments = call.arguments

namespace Extends

variable {s t u : Backend}

/-- Stores and calls that are the same. -/
theorem of_eq (hcreator : t.creator = s.creator) (himages : t.images = s.images)
    (hcalls : t.calls = s.calls) : s.Extends t where
  creator := fun h => by rw [hcreator, h]
  images := fun h => by rw [himages, h]
  calls := fun h => ⟨_, by rw [hcalls, h], rfl⟩

theorem trans (h : s.Extends t) (h' : t.Extends u) : s.Extends u where
  creator := fun hc => h'.creator (h.creator hc)
  images := fun hi => h'.images (h.images hi)
  calls := by
    intro id call hid
    rcases h.calls hid with ⟨next, hnext, harg⟩
    rcases h'.calls hnext with ⟨last, hlast, harg'⟩
    exact ⟨last, hlast, harg'.trans harg⟩

theorem start (call : Call) (hnew : s.calls s.nextCall = none) : s.Extends (s.start call) where
  creator := id
  images := id
  calls := by
    intro id old hid
    -- an old call has another number than the new one
    have hne : id ≠ s.nextCall := by
      rintro rfl
      rw [hnew] at hid
      cases hid
    exact ⟨old, by simpa only [Backend.start, Function.update_of_ne hne] using hid, rfl⟩

theorem startWith (ref : StorageReference) (call : Call) (hnew : s.calls s.nextCall = none) :
    s.Extends (s.startWith ref call) where
  creator := id
  images := id
  calls := (start call hnew).calls

theorem setCall {id : Nat} {old call : Call} (hid : s.calls id = some old)
    (harg : call.arguments = old.arguments) : s.Extends (s.setCall id call) where
  creator := fun h => h
  images := fun h => h
  calls := by
    intro i c hi
    rcases eq_or_ne i id with rfl | hne
    · cases hid.symm.trans hi
      exact ⟨call, by simp [Backend.setCall], harg⟩
    · exact ⟨c, by simpa only [Backend.setCall, Function.update_of_ne hne] using hi, rfl⟩

theorem storeImage (id : Nat) {ref : StorageReference} (data : Data)
    (hfree : s.images ref = none) : s.Extends (s.storeImage id ref data) where
  creator := fun h => h
  images := by
    intro r image hr
    -- an image stored before lies elsewhere
    have hne : r ≠ ref := by
      rintro rfl
      rw [hfree] at hr
      cases hr
    simpa only [Backend.storeImage, Function.update_of_ne hne] using hr
  calls := fun h => ⟨_, h, rfl⟩

theorem addAccount (id : Nat) {account : Account} (hfree : s.creator account.uid = none) :
    s.Extends (s.addAccount id account) where
  creator := by
    intro uid i hi
    -- an account created before has another uid
    have hne : uid ≠ account.uid := by
      rintro rfl
      rw [hfree] at hi
      cases hi
    simpa only [Backend.addAccount, Function.update_of_ne hne] using hi
  images := fun h => h
  calls := fun h => ⟨_, h, rfl⟩

theorem writeUser (uid : Uid) (data : Dictionary) : s.Extends (s.writeUser uid data) :=
  of_eq rfl rfl rfl

end Extends

section Step

variable {downloadUrl : StorageReference → String} {s t : Backend}

theorem extends_createUser {e : CreateUserEvent} (h : s.Coherent downloadUrl)
    (hstep : s.createUserStep downloadUrl e = some t) : s.Extends t := by
  cases createUserStep_cases hstep with
  | noImageData hjpeg => exact .start _ h.calls_nextCall
  | started hjpeg hstorage hfresh => exact .startWith _ _ h.calls_nextCall
  | uploadFailed hcall => exact .setCall hcall rfl
  | uploaded hcall =>
      exact (Extends.storeImage _ _ (h.not_stored hcall rfl rfl)).trans (.setCall hcall rfl)
  | noUrl hcall => exact .setCall hcall rfl
  | urlFound hcall hstored => exact .setCall hcall rfl
  | accountFailed hcall => exact .setCall hcall rfl
  | accountCreated hcall hemail huid hfresh =>
      exact (Extends.addAccount _ hfresh).trans (.setCall hcall rfl)
  | profileFailed hcall => exact .setCall hcall rfl
  | completed hcall => exact (Extends.writeUser _ _).trans (.setCall hcall rfl)

theorem extends_updateUserData {e : UpdateUserDataEvent} (h : s.Coherent downloadUrl)
    (hstep : s.updateUserDataStep downloadUrl e = some t) : s.Extends t := by
  cases updateUserDataStep_cases hstep with
  | noUser huser => exact .start _ h.calls_nextCall
  | noImageData huser hjpeg => exact .start _ h.calls_nextCall
  | started huser hjpeg href hfresh => exact .startWith _ _ h.calls_nextCall
  | uploadFailed hcall => exact .setCall hcall rfl
  | uploaded hcall =>
      exact (Extends.storeImage _ _ (h.not_stored hcall rfl rfl)).trans (.setCall hcall rfl)
  | noUrl hcall => exact .setCall hcall rfl
  | urlFound hcall hstored => exact .setCall hcall rfl
  | updateFailed hcall => exact .setCall hcall rfl
  | written hcall hdata => exact (Extends.writeUser _ _).trans (.setCall hcall rfl)

theorem extends_loginUser {e : LoginUserEvent} (h : s.Coherent downloadUrl)
    (hstep : s.loginUserStep e = some t) : s.Extends t := by
  cases loginUserStep_cases hstep with
  | noUser huser => exact .start _ h.calls_nextCall
  | started huser => exact .start _ h.calls_nextCall
  | getFailed hcall => exact .setCall hcall rfl
  | noDocument hcall hdata => exact .setCall hcall rfl
  | answered hcall hdata => exact .setCall hcall rfl

end Step

end Backend

/-! ## Whole runs -/

inductive BackendEvent
  | createUser (e : CreateUserEvent)
  | updateUserData (e : UpdateUserDataEvent)
  | loginUser (e : LoginUserEvent)
  | signIn (email password : String)
  | logOut

namespace Backend

def step (downloadUrl : StorageReference → String) (self : Backend) :
    BackendEvent → Option Backend
  | .createUser e => self.createUserStep downloadUrl e
  | .updateUserData e => self.updateUserDataStep downloadUrl e
  | .loginUser e => self.loginUserStep e
  | .signIn email password => self.signIn email password
  | .logOut => some self.logOut

section Step

variable {downloadUrl : StorageReference → String} {s t : Backend}

theorem signIn_eq_some {email password : String} (h : s.signIn email password = some t) :
    ∃ account ∈ s.accounts, t = { s with currentUser := some account.uid } := by
  simp only [signIn, bind, Option.bind_eq_some_iff, pure, Option.some.injEq] at h
  rcases h with ⟨account, hfind, rfl⟩
  exact ⟨account, List.mem_of_find?_eq_some hfind, rfl⟩

theorem coherent_step {e : BackendEvent} (h : s.Coherent downloadUrl)
    (hstep : s.step downloadUrl e = some t) : t.Coherent downloadUrl := by
  cases e with
  | createUser e => exact coherent_createUser h hstep
  | updateUserData e => exact coherent_updateUserData h hstep
  | loginUser e => exact coherent_loginUser h hstep
  | signIn email password =>
      rcases signIn_eq_some hstep with ⟨account, _, rfl⟩
      exact h.withUser (some account.uid)
  | logOut =>
      cases hstep
      exact h.withUser none

theorem coherent_run {accounts : List Account} {currentUser : Option Uid}
    {es : List BackendEvent}
    (h : Transition.run (step downloadUrl) (launched accounts currentUser) es = some s) :
    s.Coherent downloadUrl :=
  Transition.run_invariant coherent_step (coherent_launched downloadUrl accounts currentUser) h

end Step

end Backend

end MoviePlayList
