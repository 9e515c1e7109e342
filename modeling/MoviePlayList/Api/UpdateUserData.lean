import MoviePlayList.Api.Coherence
import MoviePlayList.Api.CreateUser

/-!
# UpdateUserData — overlapping profile-image picks of one user

From a state in which a user with a profile document is signed in and no update is in progress,
the user picks images while uploads, lookups and document updates of earlier picks are still
running.  No pick waits for another: the document follows the update that is applied last.
-/

namespace MoviePlayList

namespace UpdateUserDataStage

def InProgress : UpdateUserDataStage → Prop
  | putData _ _ => True
  | downloadURL _ _ => True
  | updateData _ _ => True
  | _ => False

def IsWritten : UpdateUserDataStage → Prop
  | written _ _ => True
  | _ => False

end UpdateUserDataStage

/-- The call whose document update this event applies. -/
def UpdateUserDataEvent.applies : UpdateUserDataEvent → Option Nat
  | .updateData id none => some id
  | _ => none

/-- The calls whose document updates were applied, in the order in which they were. -/
def applied (es : List UpdateUserDataEvent) : List Nat :=
  es.filterMap UpdateUserDataEvent.applies

@[simp] theorem applied_append_singleton (es : List UpdateUserDataEvent)
    (e : UpdateUserDataEvent) : applied (es ++ [e]) = applied es ++ e.applies.toList := by
  cases h : e.applies <;> simp [applied, h]

namespace Backend

/-- A user with a profile document is signed in and no update of a profile image is running. -/
structure ReadyToPick (s : Backend) (uid : Uid) (document : Dictionary) : Prop where
  user : s.currentUser = some uid
  document : s.users uid = some document
  idle : ∀ {id call}, s.calls id = some (.updateUserData call) → ¬ call.stage.InProgress

/-- The document holds the URL of the image that the call uploaded. -/
def HoldsImageOf (downloadUrl : StorageReference → String) (s : Backend) (dictionary : Dictionary)
    (id : Nat) : Prop :=
  ∃ ref data, s.images ref = some ⟨data, id⟩ ∧
    dictionary.string "profileImageUrl" = some (downloadUrl ref)

/-- The document is the one of the start with the image URL of the given call, if any. -/
structure HoldsLast (downloadUrl : StorageReference → String) (s : Backend)
    (document : Dictionary) (last : Option Nat) (dictionary : Dictionary) : Prop where
  others : ∀ key, key ≠ "profileImageUrl" → dictionary key = document key
  old : last = none → dictionary "profileImageUrl" = document "profileImageUrl"
  image : ∀ {id}, last = some id → s.HoldsImageOf downloadUrl dictionary id

/-- What the picks have done, given the events since the start. -/
structure PickOutcome (downloadUrl : StorageReference → String) (uid : Uid)
    (document : Dictionary) (es : List UpdateUserDataEvent) (s : Backend) : Prop where
  url : ∃ dictionary, s.users uid = some dictionary ∧
    s.HoldsLast downloadUrl document (applied es).getLast? dictionary
  atMostOnce : ∀ {id call}, s.calls id = some (.updateUserData call) → call.completions.length ≤ 1
  notApplied : ∀ {id call error}, s.calls id = some (.updateUserData call) →
    some error ∈ call.completions → id ∉ applied es
  uploadReported : ∀ {id error}, .putData id (some error) ∈ es →
    ∃ call, s.calls id = some (.updateUserData call) ∧ call.completions = [some error]

/-! ## What holds of the picks after every event -/

end Backend

/-- An update that is running was called by this user. -/
def Call.RunsFor (uid : Uid) : Call → Prop
  | .updateUserData call => call.stage.InProgress → call.currentUid = some uid
  | _ => True

namespace Backend

/-- The history of a run of picks: what the events say about the stages of the calls. -/
structure Picks (downloadUrl : StorageReference → String) (uid : Uid) (document : Dictionary)
    (es : List UpdateUserDataEvent) (s : Backend) : Prop where
  coherent : s.Coherent downloadUrl
  user : s.currentUser = some uid
  running : ∀ {id call}, s.calls id = some call → call.RunsFor uid
  written : ∀ {id}, id ∈ applied es →
    ∃ call, s.calls id = some (.updateUserData call) ∧ call.stage.IsWritten
  failed : ∀ {id error}, .putData id (some error) ∈ es →
    ∃ call, s.calls id = some (.updateUserData call) ∧ call.stage.uploadError = some error
  url : ∃ dictionary, s.users uid = some dictionary ∧
    s.HoldsLast downloadUrl document (applied es).getLast? dictionary

variable {downloadUrl : StorageReference → String} {uid : Uid} {document : Dictionary}
  {es : List UpdateUserDataEvent} {e : UpdateUserDataEvent} {s t : Backend}

theorem HoldsImageOf.extend {dictionary : Dictionary} {id : Nat}
    (h : s.HoldsImageOf downloadUrl dictionary id) (hext : s.Extends t) :
    t.HoldsImageOf downloadUrl dictionary id := by
  rcases h with ⟨ref, data, himage, hurl⟩
  exact ⟨ref, data, hext.images himage, hurl⟩

/-- What is known of a stage stays known when the entry that changes keeps it. -/
theorem exists_stage_update {P : UpdateUserDataStage → Prop} {calls : Nat → Option Call}
    {j : Nat} {new : UpdateUserDataCall}
    (hkeep : ∀ {old}, calls j = some (.updateUserData old) → P old.stage → P new.stage) {id : Nat}
    (h : ∃ call, calls id = some (.updateUserData call) ∧ P call.stage) :
    ∃ call, Function.update calls j (some (.updateUserData new)) id =
      some (.updateUserData call) ∧ P call.stage := by
  rcases h with ⟨call, hid, hcall⟩
  rcases eq_or_ne id j with rfl | hne
  · exact ⟨new, Function.update_self .., hkeep hid hcall⟩
  · exact ⟨call, by simpa only [Function.update_of_ne hne] using hid, hcall⟩

/-- An event that applies no update: one entry changes, it was not written before and an upload
error it has seen stays in scope. -/
theorem Picks.quiet (h : Picks downloadUrl uid document es s) (ht : t.Coherent downloadUrl)
    (hext : s.Extends t) (huser : t.currentUser = s.currentUser) (husers : t.users = s.users)
    {j : Nat} {new : UpdateUserDataCall}
    (hcalls : t.calls = Function.update s.calls j (some (.updateUserData new)))
    (hunwritten : ∀ {old}, s.calls j = some (.updateUserData old) → ¬ old.stage.IsWritten)
    (hscope : ∀ {old error}, s.calls j = some (.updateUserData old) →
      old.stage.uploadError = some error → new.stage.uploadError = some error)
    (hruns : (Call.updateUserData new).RunsFor uid) (hquiet : e.applies = none)
    (hfailed : ∀ {id error}, e = .putData id (some error) →
      id = j ∧ new.stage.uploadError = some error) :
    Picks downloadUrl uid document (es ++ [e]) t where
  coherent := ht
  user := huser.trans h.user
  running := by
    intro id call hid
    rw [hcalls] at hid
    exact Footprint.forall_update h.running hruns hid
  written := by
    intro id hid
    rw [hcalls]
    refine exists_stage_update (fun hold hwritten => absurd hwritten (hunwritten hold)) ?_
    exact h.written (by simpa [hquiet] using hid)
  failed := by
    intro id error hid
    rw [hcalls]
    rcases List.mem_append.1 hid with hold | hnew
    · exact exists_stage_update (P := fun stage => stage.uploadError = some error) hscope
        (h.failed hold)
    · rcases hfailed (List.mem_singleton.1 hnew).symm with ⟨rfl, herror⟩
      exact ⟨new, Function.update_self .., herror⟩
  url := by
    -- the document was not touched, and the image it shows is still there
    rcases h.url with ⟨dictionary, hdoc, hlast⟩
    refine ⟨dictionary, by rw [husers, hdoc], hlast.others, ?_, ?_⟩
    · simpa [hquiet] using hlast.old
    · intro id hid
      exact (hlast.image (by simpa [hquiet] using hid)).extend hext

/-- A call that is not finished goes on without applying an update. -/
theorem Picks.goOn (h : Picks downloadUrl uid document es s) (ht : t.Coherent downloadUrl)
    (hext : s.Extends t) (huser : t.currentUser = s.currentUser) (husers : t.users = s.users)
    {j : Nat} {old new : UpdateUserDataCall} (hcall : s.calls j = some (.updateUserData old))
    (hcalls : t.calls = Function.update s.calls j (some (.updateUserData new)))
    (hprogress : old.stage.InProgress) (huid : new.currentUid = old.currentUid)
    (hscope : ∀ {error}, old.stage.uploadError = some error → new.stage.uploadError = some error)
    (hquiet : e.applies = none)
    (hfailed : ∀ {id error}, e = .putData id (some error) →
      id = j ∧ new.stage.uploadError = some error) :
    Picks downloadUrl uid document (es ++ [e]) t := by
  refine h.quiet ht hext huser husers hcalls ?_ ?_ ?_ hquiet hfailed
  -- a call that has written is not in progress
  · intro old' hold'
    cases hcall.symm.trans hold'
    intro hwritten
    revert hprogress hwritten
    cases old.stage <;> simp [UpdateUserDataStage.InProgress, UpdateUserDataStage.IsWritten]
  · intro old' error hold' herror
    cases hcall.symm.trans hold'
    exact hscope herror
  · intro _
    exact huid.trans (h.running hcall hprogress)

/-- An event that applies an update: the document now holds its image. -/
theorem Picks.apply (h : Picks downloadUrl uid document es s) {id : Nat} {user : Uid}
    {ref : StorageReference} {profileImageUrl : String} {completions : List (Option NSError)}
    {data : Dictionary}
    (hcall : s.calls id =
      some (.updateUserData ⟨some user, .updateData ref profileImageUrl, completions⟩))
    (hdata : s.users user = some data) :
    Picks downloadUrl uid document (es ++ [.updateData id none])
      ((s.writeUser user (data.merging
          (.ofList [("profileImageUrl", .string profileImageUrl)]))).setCall id
        (.updateUserData ⟨some user, .written ref profileImageUrl, completions⟩)) := by
  -- the pick is one of this user, so it is this user's document that changes
  have huser : user = uid := Option.some.inj (h.running hcall trivial)
  subst huser
  rcases h.url with ⟨dictionary, hdoc, hlast⟩
  cases hdata.symm.trans hdoc
  have hurl : profileImageUrl = downloadUrl ref := (h.coherent.fits hcall).url rfl
  rcases h.coherent.stored_of_image hcall rfl with ⟨imageData, himage⟩
  refine ⟨?_, h.user, ?_, ?_, ?_, ?_⟩
  · exact (h.coherent.writeUser _ _).setCall hcall rfl rfl rfl
      ⟨(h.coherent.fits hcall).url, (h.coherent.fits hcall).logged⟩
  · intro i call hi
    refine Footprint.forall_update h.running ?_ hi
    intro hprogress
    cases hprogress
  · intro i hi
    simp only [applied_append_singleton, UpdateUserDataEvent.applies, Option.toList_some,
      List.mem_append, List.mem_singleton] at hi
    rcases hi with hold | rfl
    · exact exists_stage_update (fun _ _ => trivial) (h.written hold)
    · exact ⟨_, Function.update_self .., trivial⟩
  · intro i error hi
    have hold : .putData i (some error) ∈ es := by simpa using hi
    refine exists_stage_update (P := fun stage => stage.uploadError = some error) ?_ (h.failed hold)
    -- a call that has a URL has not seen an upload error
    intro old hid herror
    cases hcall.symm.trans hid
    cases herror
  · refine ⟨_, Function.update_self .., ?_, ?_, ?_⟩
    · intro key hkey
      rw [Dictionary.merging_single_of_ne _ _ hkey]
      exact hlast.others key hkey
    · simp [UpdateUserDataEvent.applies]
    · intro i hi
      have hi' : id = i := by simpa [UpdateUserDataEvent.applies] using hi
      subst hi'
      refine ⟨ref, imageData, himage, ?_⟩
      rw [← hurl]
      rfl

theorem picks_step (h : Picks downloadUrl uid document es s)
    (hstep : s.updateUserDataStep downloadUrl e = some t) :
    Picks downloadUrl uid document (es ++ [e]) t := by
  have ht := coherent_updateUserData h.coherent hstep
  have hext := extends_updateUserData h.coherent hstep
  -- a new call has no entry yet
  have hnew : ∀ {old}, s.calls s.nextCall = some old → False := by
    intro old hold
    rw [h.coherent.calls_nextCall] at hold
    cases hold
  cases updateUserDataStep_cases hstep with
  | noUser huser =>
      -- the user stays signed in during the run
      rw [h.user] at huser
      cases huser
  | noImageData huser hjpeg =>
      exact h.quiet ht hext rfl rfl rfl (fun hold => (hnew hold).elim)
        (fun hold => (hnew hold).elim) nofun rfl nofun
  | started huser hjpeg href hfresh =>
      exact h.quiet ht hext rfl rfl rfl (fun hold => (hnew hold).elim)
        (fun hold => (hnew hold).elim) (fun _ => huser.symm.trans h.user) rfl nofun
  | uploadFailed hcall =>
      -- the only event that puts an upload error in scope
      refine h.goOn ht hext rfl rfl hcall rfl trivial rfl nofun rfl ?_
      rintro id error ⟨⟩
      exact ⟨rfl, rfl⟩
  | uploaded hcall =>
      exact h.goOn ht hext rfl rfl hcall rfl trivial rfl nofun rfl nofun
  | noUrl hcall =>
      exact h.goOn ht hext rfl rfl hcall rfl trivial rfl id rfl nofun
  | urlFound hcall hstored =>
      -- no error is lost here: with a failed upload there is no URL to find
      cases h.coherent.uploadError_eq_none hcall rfl hstored
      exact h.goOn ht hext rfl rfl hcall rfl trivial rfl nofun rfl nofun
  | updateFailed hcall =>
      exact h.goOn ht hext rfl rfl hcall rfl trivial rfl nofun rfl nofun
  | written hcall hdata => exact h.apply hcall hdata

/-- The log of a call is the report of its upload error, if there was one. -/
theorem Picks.outcome (h : Picks downloadUrl uid document es s) :
    PickOutcome downloadUrl uid document es s := by
  have hlog : ∀ {id call}, s.calls id = some (.updateUserData call) →
      call.completions = call.stage.uploadError.toList.map some :=
    fun hid => (h.coherent.fits hid).logged
  refine ⟨h.url, ?_, ?_, ?_⟩
  · intro id call hid
    rw [hlog hid]
    cases call.stage.uploadError <;> simp
  · intro id call error hid hreported hid'
    -- a call that wrote has no upload error in scope, so it has reported none
    rcases h.written hid' with ⟨other, hother, hwritten⟩
    cases hid.symm.trans hother
    rw [hlog hid] at hreported
    revert hwritten hreported
    cases call.stage <;> simp [UpdateUserDataStage.IsWritten, UpdateUserDataStage.uploadError]
  · intro id error hid
    rcases h.failed hid with ⟨call, hcall, herror⟩
    refine ⟨call, hcall, ?_⟩
    rw [hlog hcall, herror]
    rfl

theorem picks_run {start : Backend} (hstart : start.Coherent downloadUrl)
    (hready : start.ReadyToPick uid document)
    (h : Transition.run (updateUserDataStep downloadUrl) start es = some s) :
    Picks downloadUrl uid document es s := by
  refine Transition.run_history (I := Picks downloadUrl uid document) picks_step ?_ h
  refine ⟨hstart, hready.user, ?_, nofun, nofun, document, hready.document, ?_⟩
  · intro id call hid
    cases call with
    | updateUserData call => exact fun hprogress => absurd hprogress (hready.idle hid)
    | createUser call => trivial
    | loginUser call => trivial
  · exact ⟨fun _ _ => rfl, fun _ => rfl, nofun⟩

/-- The document follows the update applied last; a failed upload is reported once, with an error,
and its image never reaches the document. -/
theorem pick_outcome {accounts : List Account} {currentUser : Option Uid}
    {before : List BackendEvent} {start : Backend}
    (hstart : Transition.run (step downloadUrl) (launched accounts currentUser) before =
      some start)
    (hready : start.ReadyToPick uid document)
    (h : Transition.run (updateUserDataStep downloadUrl) start es = some s) :
    PickOutcome downloadUrl uid document es s :=
  (picks_run (coherent_run hstart) hready h).outcome

/-! ## An update that is overtaken -/

/-- Two picks; the update of the first is applied after that of the second. -/
def overtaken : List UpdateUserDataEvent :=
  [.call ⟨some [2]⟩ "n2", .call ⟨some [3]⟩ "n3", .putData 1 none, .putData 2 none,
    .downloadURL 1 true, .downloadURL 2 true, .updateData 2 none, .updateData 1 none]

/-- The document `goesThrough` leaves. -/
def sampleDocument : Dictionary :=
  userData (sampleAuth "kim@mail") (sampleUrl ⟨"/profileImage/n1"⟩) sampleUid

/-- What the two picks leave: both updates were applied, and the document has the first image. -/
structure Overtaken (start s : Backend) : Prop where
  started : start.nextCall = 1
  picked : s.nextCall = 3
  registration : ∃ call, s.calls 0 = some (.createUser call)
  first : ∃ ref url, s.calls 1 = some (.updateUserData ⟨some sampleUid, .written ref url, []⟩)
  second : ∃ ref url, s.calls 2 = some (.updateUserData ⟨some sampleUid, .written ref url, []⟩)
  image : s.images ⟨"/profile_images/n2"⟩ = some ⟨[2], 1⟩
  url : (s.users sampleUid).bind (·.string "profileImageUrl") =
    some (sampleUrl ⟨"/profile_images/n2"⟩)

theorem overtaken_run :
    ∃ start s, Transition.run (step sampleUrl) (launched [] none)
        (goesThrough.map .createUser) = some start ∧
      start.ReadyToPick sampleUid sampleDocument ∧
      Transition.run (updateUserDataStep sampleUrl) start overtaken = some s ∧
      Overtaken start s := by
  have hrun : ∃ start s, Transition.run (step sampleUrl) (launched [] none)
        (goesThrough.map .createUser) = some start ∧
      start.currentUser = some sampleUid ∧ start.users sampleUid = some sampleDocument ∧
      (∃ call, start.calls 0 = some (.createUser call)) ∧
      Transition.run (updateUserDataStep sampleUrl) start overtaken = some s ∧
      Overtaken start s :=
    ⟨_, _, rfl, rfl, rfl, ⟨_, rfl⟩, rfl,
      ⟨rfl, rfl, ⟨_, rfl⟩, ⟨_, _, rfl⟩, ⟨_, _, rfl⟩, rfl, rfl⟩⟩
  rcases hrun with ⟨start, s, hstart, huser, hdoc, ⟨call, hcall⟩, hs, hover⟩
  refine ⟨start, s, hstart, ⟨huser, hdoc, ?_⟩, hs, hover⟩
  intro id other hid
  have hlt := (coherent_run hstart).lt_nextCall hid
  have hzero : id = 0 := by
    have hone := hover.started
    omega
  subst hzero
  cases hcall.symm.trans hid

theorem pick_outcome_overtaken :
    ∃ start s, Transition.run (updateUserDataStep sampleUrl) start overtaken = some s ∧
      (applied overtaken).getLast? = some 1 ∧
      PickOutcome sampleUrl sampleUid sampleDocument overtaken s := by
  rcases overtaken_run with ⟨start, s, hstart, hready, hs, _⟩
  exact ⟨start, s, hs, rfl, pick_outcome hstart hready hs⟩

/-- The most recent of the picks whose update was applied. -/
def LatestWritten (s : Backend) (id : Nat) : Prop :=
  (∃ call, s.calls id = some (.updateUserData call) ∧ call.stage.IsWritten) ∧
    ∀ {later call}, id < later → s.calls later = some (.updateUserData call) →
      ¬ call.stage.IsWritten

/-- The document has the image of the most recent pick that succeeded, and every pick was told
once, of an error exactly when its URL was not written. -/
structure PickContract (downloadUrl : StorageReference → String) (start : Backend) (uid : Uid)
    (document : Dictionary) (s : Backend) : Prop where
  latest : ∀ {id}, start.nextCall ≤ id → s.LatestWritten id →
    ∃ dictionary, s.users uid = some dictionary ∧ s.HoldsImageOf downloadUrl dictionary id
  old : (∀ {id call}, start.nextCall ≤ id → s.calls id = some (.updateUserData call) →
      ¬ call.stage.IsWritten) →
    ∃ dictionary, s.users uid = some dictionary ∧
      dictionary "profileImageUrl" = document "profileImageUrl"
  reported : ∀ {id call}, start.nextCall ≤ id → s.calls id = some (.updateUserData call) →
    ∃ error, call.completions = [error] ∧ (error.isSome ↔ ¬ call.stage.IsWritten)

/-- The contract fails in both halves: the document keeps the image picked first, and neither call
was told that it succeeded. -/
theorem not_pickContract_overtaken :
    ∃ start s, Transition.run (step sampleUrl) (launched [] none)
        (goesThrough.map .createUser) = some start ∧
      start.ReadyToPick sampleUid sampleDocument ∧
      Transition.run (updateUserDataStep sampleUrl) start overtaken = some s ∧
      (∀ {id call}, s.calls id = some (.updateUserData call) → ¬ call.stage.InProgress) ∧
      ¬ PickContract sampleUrl start sampleUid sampleDocument s := by
  rcases overtaken_run with ⟨start, s, hstart, hready, hs, hover⟩
  rcases hover.registration with ⟨registration, hzero⟩
  rcases hover.first with ⟨ref₁, url₁, hone⟩
  rcases hover.second with ⟨ref₂, url₂, htwo⟩
  have hcoherent : s.Coherent sampleUrl := (picks_run (coherent_run hstart) hready hs).coherent
  have hcases : ∀ {id call}, s.calls id = some (.updateUserData call) →
      id = 1 ∧ call = ⟨some sampleUid, .written ref₁ url₁, []⟩ ∨
        id = 2 ∧ call = ⟨some sampleUid, .written ref₂ url₂, []⟩ := by
    intro id call hid
    have hlt := hcoherent.lt_nextCall hid
    have hthree : id = 0 ∨ id = 1 ∨ id = 2 := by
      have hpicked := hover.picked
      omega
    rcases hthree with rfl | rfl | rfl
    · cases hzero.symm.trans hid
    · cases hone.symm.trans hid
      exact .inl ⟨rfl, rfl⟩
    · cases htwo.symm.trans hid
      exact .inr ⟨rfl, rfl⟩
  refine ⟨start, s, hstart, hready, hs, ?_, fun hcontract => ?_⟩
  · intro id call hid
    rcases hcases hid with ⟨_, rfl⟩ | ⟨_, rfl⟩ <;> exact fun hprogress => hprogress
  · have hlatest : s.LatestWritten 2 := by
      refine ⟨⟨_, htwo, trivial⟩, ?_⟩
      intro later call hlater hid
      rcases hcases hid with ⟨rfl, _⟩ | ⟨rfl, _⟩ <;> omega
    have hafter : start.nextCall ≤ 2 := by
      rw [hover.started]
      decide
    rcases hcontract.latest hafter hlatest with ⟨dictionary, hdoc, ref, data, himage, hholds⟩
    -- the URL determines the reference, and the object there was uploaded by the first pick
    have hurl := hover.url
    rw [hdoc, Option.bind_some, hholds] at hurl
    have href := sampleUrl_injective (Option.some.inj hurl)
    rw [href, hover.image] at himage
    cases himage

end Backend

end MoviePlayList
