import MoviePlayList.Firestore.MutationQueue
import MoviePlayList.Lib.Transition

/-!
# RemoteStore — writes on their way to the server

A write goes into the mutation queue of its user.  `RemoteStore` takes the first ten batches of the
queue of the current user into its write pipeline and sends them over the write stream, all of them
again whenever the stream comes up.  A response belongs to the first batch of the pipeline, an error
that is permanent to the first one as well: the batch leaves the queue and the completion of the
write is called.

The state is that of `SyncEngine`, `LevelDbMutationQueue`, `RemoteStore` and `WriteStream` as far as
they look after writes, with the connections to the server beside it.  The server commits what it
receives on a connection in order, and may go on with it after the client has given the connection
up.
-/

namespace MoviePlayList
namespace Firestore

/-! ## The write stream -/

/-- `Stream::State` -/
inductive StreamState
  | initial
  | starting
  | «open»
  | error
  | backoff
  deriving DecidableEq

/-- What is under way on a `GrpcStream`: the batches sent that have no response yet, and how many of
them the server has committed. -/
structure Connection where
  requests : List MutationBatch := []
  committed : Nat := 0
  deriving DecidableEq

structure WriteStream where
  state : StreamState := .initial
  handshakeComplete : Bool := false
  /-- `idleness_timer_` is running -/
  idlenessTimer : Bool := false
  /-- `grpc_stream_` -/
  connection : Connection := {}
  deriving DecidableEq

namespace Connection

/-- The write the server commits next. -/
def next? (self : Connection) : Option Nat :=
  self.requests[self.committed]?.map MutationBatch.write

def commitNext (self : Connection) : Connection := ⟨self.requests, self.committed + 1⟩

/-- The first request has its response. -/
def answered (self : Connection) : Connection := ⟨self.requests.tail, self.committed - 1⟩

end Connection

namespace WriteStream

def isOpen (self : WriteStream) : Bool := self.state = .open

def isStarted (self : WriteStream) : Bool :=
  self.state = .starting || self.state = .backoff || self.isOpen

/-- `IsOpen() && handshake_complete()` -/
def isReady (self : WriteStream) : Bool := self.isOpen && self.handshakeComplete

/-- `Start` and `BackoffAndTryRestarting` -/
def start (self : WriteStream) : Except String WriteStream :=
  match self.state with
  | .error => .ok { self with state := .backoff }
  | .initial => .ok { self with state := .starting }
  | _ => .error "Already started"

/-- `InhibitBackoff` -/
def inhibitBackoff (self : WriteStream) : Except String WriteStream :=
  if self.isStarted then .error "Can only cancel backoff in a stopped state"
  else .ok { self with state := .initial }

/-- `MarkIdle` -/
def markIdle (self : WriteStream) : WriteStream :=
  if self.isOpen then { self with idlenessTimer := true } else self

/-- `WriteHandshake` -/
def writeHandshake (self : WriteStream) : Except String WriteStream :=
  if !self.isOpen then .error "Writing handshake requires an opened stream"
  else if self.handshakeComplete then .error "Handshake already completed"
  else .ok { self with idlenessTimer := false }

/-- `WriteMutations` -/
def writeMutations (self : WriteStream) (batch : MutationBatch) : Except String WriteStream :=
  if !self.isOpen then .error "Writing mutations requires an opened stream"
  else if !self.handshakeComplete then
    .error "Handshake must be complete before writing mutations"
  else
    .ok { self with
      connection := ⟨self.connection.requests ++ [batch], self.connection.committed⟩
      idlenessTimer := false }

/-- Steps 2 to 7 of `Close`, before the callback is told. -/
def closed (self : WriteStream) (gracefulStop : Bool) : WriteStream :=
  { self with
    state := if gracefulStop then .initial else .error
    idlenessTimer := false
    connection := {} }

/-- The end of `NotifyStreamClose` -/
def resetHandshake (self : WriteStream) : WriteStream := { self with handshakeComplete := false }

end WriteStream

/-! ## The client -/

/-- How a stream ends: the kinds of `Status` that are told apart.  `permanent` is what
`IsPermanentWriteError` is true of. -/
inductive StreamStatus
  | ok
  | transient
  | permanent
  deriving DecidableEq

/-- What has become of the writes so far; a write is known by its place in `written`. -/
structure WriteHistory (υ : Type) where
  /-- who made them -/
  written : List υ := []
  /-- the completions called, and whether they were told of success -/
  told : List (Nat × Bool) := []
  /-- what the server has committed -/
  serverLog : List Nat := []
  deriving DecidableEq

namespace WriteHistory

variable {υ : Type}

def write (self : WriteHistory υ) (user : υ) : WriteHistory υ :=
  { self with written := self.written ++ [user] }

def tell (self : WriteHistory υ) (write : Nat) (success : Bool) : WriteHistory υ :=
  { self with told := self.told ++ [(write, success)] }

def commit (self : WriteHistory υ) (next? : Option Nat) : WriteHistory υ :=
  { self with serverLog := self.serverLog ++ next?.toList }

end WriteHistory

/-- The parts of the client that look after writes. -/
structure WritingClient (υ : Type) where
  /-- `current_user_` of `SyncEngine` -/
  currentUser : υ
  /-- `mutation_callbacks_`: user, batch id and the write whose completion it is -/
  mutationCallbacks : List (υ × Int × Nat) := []
  mutationQueue : LevelDbMutationQueue υ
  isNetworkEnabled : Bool := false
  writePipeline : List MutationBatch := []
  writeStream : WriteStream := {}
  /-- the connections the client has given up -/
  givenUp : List Connection := []
  history : WriteHistory υ := {}
  deriving DecidableEq

/-- `kMaxPendingWrites` -/
def maxPendingWrites : Nat := 10

variable {υ : Type} [DecidableEq υ]

namespace WritingClient

def withStream (self : WritingClient υ) (stream : WriteStream) : WritingClient υ :=
  { self with writeStream := stream }

def canAddToWritePipeline (self : WritingClient υ) : Bool :=
  self.isNetworkEnabled && self.writePipeline.length < maxPendingWrites

def addToWritePipeline (self : WritingClient υ) (batch : MutationBatch) :
    Except String (WritingClient υ) :=
  if !self.canAddToWritePipeline then
    .error "AddToWritePipeline called when pipeline is full"
  else do
    let stream ←
      if self.writeStream.isReady then self.writeStream.writeMutations batch
      else pure self.writeStream
    return { self with writePipeline := self.writePipeline ++ [batch], writeStream := stream }

def shouldStartWriteStream (self : WritingClient υ) : Bool :=
  self.isNetworkEnabled && !self.writeStream.isStarted && !self.writePipeline.isEmpty

def startWriteStream (self : WritingClient υ) : Except String (WritingClient υ) :=
  if !self.shouldStartWriteStream then
    .error "StartWriteStream called when ShouldStartWriteStream is false."
  else do
    let stream ← self.writeStream.start
    return self.withStream stream

/-- The loop of `FillWritePipeline`, for so many free slots. -/
def fill : Nat → Int → WritingClient υ → Except String (WritingClient υ)
  | 0, _, self => .ok self
  | slots + 1, lastBatchIdRetrieved, self =>
      match self.mutationQueue.nextMutationBatchAfterBatchId lastBatchIdRetrieved with
      | none =>
          .ok (if self.writePipeline.isEmpty then self.withStream self.writeStream.markIdle else self)
      | some batch => do
          let added ← self.addToWritePipeline batch
          fill slots batch.batchId added

/-- The last batch id of the pipeline, or `kBatchIdUnknown`. -/
def lastBatchId (pipeline : List MutationBatch) : Int :=
  (pipeline.getLast?.map MutationBatch.batchId).getD (-1)

/-- `FillWritePipeline` -/
def fillWritePipeline (self : WritingClient υ) : Except String (WritingClient υ) := do
  let slots := if self.isNetworkEnabled then maxPendingWrites - self.writePipeline.length else 0
  let filled ← fill slots (lastBatchId self.writePipeline) self
  if filled.shouldStartWriteStream then filled.startWriteStream else return filled

/-- `NotifyUser` -/
def notifyUser (self : WritingClient υ) (batchId : Int) (success : Bool) : WritingClient υ :=
  match self.mutationCallbacks.find? fun callback =>
      callback.1 = self.currentUser ∧ callback.2.1 = batchId with
  | none => self
  | some (_, _, write) =>
      { self with
        history := self.history.tell write success
        mutationCallbacks := self.mutationCallbacks.filter fun callback =>
          ¬ (callback.1 = self.currentUser ∧ callback.2.1 = batchId) }

/-- `SyncEngine::HandleSuccessfulWrite` -/
def handleSuccessfulWrite (self : WritingClient υ) (batch : MutationBatch) :
    Except String (WritingClient υ) := do
  let notified := self.notifyUser batch.batchId true
  let queue ← notified.mutationQueue.removeMutationBatch batch.batchId
  return { notified with mutationQueue := queue }

/-- `SyncEngine::HandleRejectedWrite` -/
def handleRejectedWrite (self : WritingClient υ) (batchId : Int) :
    Except String (WritingClient υ) :=
  if (self.mutationQueue.lookupMutationBatch batchId).isNone then
    .error "Attempt to reject nonexistent batch!"
  else do
    let queue ← self.mutationQueue.removeMutationBatch batchId
    return notifyUser { self with mutationQueue := queue } batchId false

/-- `OnWriteStreamMutationResult` -/
def onWriteStreamMutationResult (self : WritingClient υ) : Except String (WritingClient υ) :=
  match self.writePipeline with
  | [] => .error "Got result for empty write pipeline"
  | batch :: rest => do
      let handled ← handleSuccessfulWrite { self with writePipeline := rest } batch
      handled.fillWritePipeline

/-- `HandleWriteError` -/
def handleWriteError (self : WritingClient υ) (status : StreamStatus) :
    Except String (WritingClient υ) :=
  match status, self.writePipeline with
  | .permanent, batch :: rest => do
      let stream ← self.writeStream.inhibitBackoff
      let handled ← handleRejectedWrite { self with writePipeline := rest, writeStream := stream }
        batch.batchId
      handled.fillWritePipeline
  | _, _ => return self

/-- `OnWriteStreamClose`; an error before the handshake only concerns the stream token. -/
def onWriteStreamClose (self : WritingClient υ) (status : StreamStatus) :
    Except String (WritingClient υ) :=
  if status = .ok ∧ self.shouldStartWriteStream then
    .error "Write stream was stopped gracefully while still needed."
  else do
    let handled ←
      if status ≠ .ok ∧ self.writeStream.handshakeComplete then self.handleWriteError status
      else pure self
    if handled.shouldStartWriteStream then handled.startWriteStream else return handled

/-- The connection of the stream is given up. -/
def giveUp (self : WritingClient υ) (gracefulStop : Bool) : WritingClient υ :=
  { self with
    writeStream := self.writeStream.closed gracefulStop
    givenUp := self.givenUp ++ [self.writeStream.connection] }

def resetHandshake (self : WritingClient υ) : WritingClient υ :=
  self.withStream self.writeStream.resetHandshake

/-- `Stream::Close` -/
def closeStream (self : WritingClient υ) (status : StreamStatus) :
    Except String (WritingClient υ) :=
  if self.writeStream.isStarted then do
    let notified ← (self.giveUp (status = .ok)).onWriteStreamClose status
    return notified.resetHandshake
  else if status = .ok then
    -- stopping is idempotent
    return self
  else
    .error "Trying to close a non-started stream"

/-- `DisableNetworkInternal` -/
def disableNetworkInternal (self : WritingClient υ) : Except String (WritingClient υ) := do
  let stopped ← self.closeStream .ok
  return { stopped with writePipeline := [] }

def disableNetwork (self : WritingClient υ) : Except String (WritingClient υ) :=
  disableNetworkInternal { self with isNetworkEnabled := false }

def enableNetwork (self : WritingClient υ) : Except String (WritingClient υ) :=
  fillWritePipeline { self with isNetworkEnabled := true }

def restartNetwork (self : WritingClient υ) : Except String (WritingClient υ) := do
  let disabled ← self.disableNetwork
  let stream ← disabled.writeStream.inhibitBackoff
  (disabled.withStream stream).enableNetwork

/-- `LocalStore::HandleUserChange`, with the user `SyncEngine` keeps. -/
def handleUserChange (self : WritingClient υ) (user : υ) : WritingClient υ :=
  { self with
    currentUser := user
    mutationQueue := LevelDbMutationQueue.start { self.mutationQueue with userId := user } }

/-- `SyncEngine::HandleCredentialChange` and `RemoteStore::HandleCredentialChange` -/
def handleCredentialChange (self : WritingClient υ) (user : υ) : Except String (WritingClient υ) :=
  let changed := if self.currentUser ≠ user then self.handleUserChange user else self
  if changed.isNetworkEnabled then changed.restartNetwork else return changed

/-- The write is in the queue and its completion is kept; a completion under a key that is taken is
not inserted. -/
def writeLocally (self : WritingClient υ) : WritingClient υ :=
  let (queue, batch) := self.mutationQueue.addMutationBatch self.history.written.length
  let taken := self.mutationCallbacks.any fun callback =>
    callback.1 = self.currentUser ∧ callback.2.1 = batch.batchId
  { self with
    mutationQueue := queue
    mutationCallbacks :=
      if taken then self.mutationCallbacks
      else self.mutationCallbacks ++ [(self.currentUser, batch.batchId, batch.write)]
    history := self.history.write self.currentUser }

/-- `SyncEngine::WriteMutations` -/
def writeMutations (self : WritingClient υ) : Except String (WritingClient υ) :=
  self.writeLocally.fillWritePipeline

/-! ## Events -/

/-- Everything that happens to writes. -/
inductive Event (υ : Type)
  | write
  | enableNetwork
  | disableNetwork
  /-- the connectivity of the device changed -/
  | restartNetwork
  | credentialChange (user : υ)
  /-- the connection of the stream is up -/
  | streamOpen
  | handshakeResponse
  /-- the server commits the next request of the connection -/
  | commit
  /-- the server commits the next request of a connection that was given up -/
  | lateCommit (connection : Nat)
  /-- the response to a committed request arrives -/
  | mutationResult
  | backoffElapsed
  | idleTimeout
  /-- the connection ends, by the server or on the way -/
  | streamFinish (status : StreamStatus)
  deriving DecidableEq

def play (self : WritingClient υ) : Event υ → Except String (WritingClient υ)
  | .write => self.writeMutations
  | .enableNetwork => self.enableNetwork
  | .disableNetwork => self.disableNetwork
  | .restartNetwork => if self.isNetworkEnabled then self.restartNetwork else return self
  | .credentialChange user => self.handleCredentialChange user
  | .streamOpen => do
      let stream ← WriteStream.writeHandshake { self.writeStream with state := .open }
      return self.withStream stream
  | .handshakeResponse => do
      let stream ← self.writePipeline.foldlM WriteStream.writeMutations
        { self.writeStream with handshakeComplete := true }
      return self.withStream stream
  | .commit =>
      let connection := self.writeStream.connection
      return { self with
        writeStream := { self.writeStream with connection := connection.commitNext }
        history := self.history.commit connection.next? }
  | .lateCommit k =>
      let connection := self.givenUp[k]?.getD {}
      return { self with
        givenUp := self.givenUp.set k connection.commitNext
        history := self.history.commit connection.next? }
  | .mutationResult =>
      let stream := { self.writeStream with connection := self.writeStream.connection.answered }
      (self.withStream stream).onWriteStreamMutationResult
  | .backoffElapsed => do
      let stream ← WriteStream.start { self.writeStream with state := .initial }
      return self.withStream stream
  | .idleTimeout => self.closeStream .ok
  | .streamFinish status => self.closeStream status

/-- The events that can come: of a stream in the right state, and from a server that commits what it
received and responds to what it committed. -/
def Possible (self : WritingClient υ) : Event υ → Prop
  | .write => True
  | .enableNetwork => True
  | .disableNetwork => True
  | .restartNetwork => True
  | .credentialChange _ => True
  | .streamOpen => self.writeStream.state = .starting
  | .handshakeResponse => self.writeStream.isOpen ∧ self.writeStream.handshakeComplete = false
  | .commit => self.writeStream.connection.next?.isSome
  | .lateCommit k => (self.givenUp[k]?.bind Connection.next?).isSome
  | .mutationResult => 0 < self.writeStream.connection.committed
  | .backoffElapsed => self.writeStream.state = .backoff
  | .idleTimeout => self.writeStream.idlenessTimer
  | .streamFinish _ => self.writeStream.state = .starting ∨ self.writeStream.state = .open

instance (self : WritingClient υ) (event : Event υ) : Decidable (self.Possible event) := by
  cases event <;> unfold Possible <;> infer_instance

def step (self : WritingClient υ) (event : Event υ) : Option (WritingClient υ) :=
  if self.Possible event then
    match self.play event with
    | .ok next => some next
    | .error _ => none
  else none

/-- A client that was just set up, with nothing in its mutation queue.  So every batch has its
completion, and `notifyUser` always finds one. -/
def init (user : υ) : WritingClient υ where
  currentUser := user
  mutationQueue := { userId := user }

end WritingClient

/-! ## Filling the pipeline -/

namespace WriteStream

variable {stream : WriteStream}

theorem isStarted_of_isReady (h : stream.isReady = true) : stream.isStarted = true := by
  simp only [isReady, Bool.and_eq_true] at h
  simp [isStarted, h.1]

/-- The stream when the pipeline has been filled up to `target`: a ready one has sent it. -/
def sending (stream : WriteStream) (target : List MutationBatch) : WriteStream :=
  if stream.isReady then
    { stream with
      connection := ⟨target, stream.connection.committed⟩
      idlenessTimer := target.isEmpty }
  else stream

/-- The stream when it has been started for the sake of `target`. -/
def startedFor (stream : WriteStream) (target : List MutationBatch) : WriteStream :=
  if stream.isStarted || target.isEmpty then stream
  else { stream with state := if stream.state = .error then .backoff else .starting }

@[simp] theorem state_sending (target : List MutationBatch) :
    (stream.sending target).state = stream.state := by
  unfold sending
  split <;> rfl

@[simp] theorem handshakeComplete_sending (target : List MutationBatch) :
    (stream.sending target).handshakeComplete = stream.handshakeComplete := by
  unfold sending
  split <;> rfl

@[simp] theorem isOpen_sending (target : List MutationBatch) :
    (stream.sending target).isOpen = stream.isOpen := by
  simp [isOpen]

@[simp] theorem committed_sending (target : List MutationBatch) :
    (stream.sending target).connection.committed = stream.connection.committed := by
  unfold sending
  split <;> rfl

@[simp] theorem isStarted_sending (target : List MutationBatch) :
    (stream.sending target).isStarted = stream.isStarted := by
  simp [isStarted, isOpen]

@[simp] theorem isReady_sending (target : List MutationBatch) :
    (stream.sending target).isReady = stream.isReady := by
  simp [isReady, isOpen]

/-- Sending up to one point and then up to another is sending up to the latter. -/
theorem sending_sending (batches batches' : List MutationBatch) :
    (stream.sending batches).sending batches' = stream.sending batches' := by
  by_cases hready : stream.isReady = true
  · rw [sending, isReady_sending, if_pos hready, sending, if_pos hready, sending, if_pos hready]
  · rw [sending, isReady_sending, if_neg hready, sending, if_neg hready, sending, if_neg hready]

theorem start_eq (h : stream.isStarted = false) :
    stream.start =
      .ok { stream with state := if stream.state = .error then .backoff else .starting } := by
  rcases stream with ⟨state, handshakeComplete, idlenessTimer, connection⟩
  cases state with
  | initial => rfl
  | error => rfl
  | starting => cases h
  | «open» => cases h
  | backoff => cases h

@[simp] theorem isOpen_startedFor (batches : List MutationBatch) :
    (stream.startedFor batches).isOpen = stream.isOpen := by
  unfold startedFor
  by_cases hstarted : stream.isStarted = true
  · simp [hstarted]
  · have hopen : stream.isOpen = false := by
      simp only [isStarted, Bool.or_eq_true, not_or, Bool.not_eq_true] at hstarted
      exact hstarted.2
    rw [hopen]
    split
    · exact hopen
    · by_cases herror : stream.state = .error <;> simp [isOpen, herror]

@[simp] theorem isStarted_startedFor (batches : List MutationBatch) :
    (stream.startedFor batches).isStarted = (stream.isStarted || !batches.isEmpty) := by
  unfold startedFor
  cases hstarted : stream.isStarted with
  | true => simp [hstarted]
  | false =>
      cases hempty : batches.isEmpty with
      | true => simp [hstarted]
      | false => by_cases herror : stream.state = .error <;> simp [isStarted, herror]

@[simp] theorem handshakeComplete_startedFor (batches : List MutationBatch) :
    (stream.startedFor batches).handshakeComplete = stream.handshakeComplete := by
  unfold startedFor
  split <;> rfl

@[simp] theorem connection_startedFor (batches : List MutationBatch) :
    (stream.startedFor batches).connection = stream.connection := by
  unfold startedFor
  split <;> rfl

@[simp] theorem idlenessTimer_startedFor (batches : List MutationBatch) :
    (stream.startedFor batches).idlenessTimer = stream.idlenessTimer := by
  unfold startedFor
  split <;> rfl

@[simp] theorem isReady_startedFor (batches : List MutationBatch) :
    (stream.startedFor batches).isReady = stream.isReady := by
  simp [isReady]

end WriteStream

namespace WritingClient

variable {s : WritingClient υ}

/-- The pipeline is a part of the queue of the current user, and the stream knows of it. -/
structure Lined (s : WritingClient υ) : Prop where
  user : s.mutationQueue.userId = s.currentUser
  ordered : s.mutationQueue.Ordered
  isPrefix : s.writePipeline <+: s.mutationQueue.batchesOf s.currentUser
  short : s.writePipeline.length ≤ maxPendingWrites
  disabled : s.isNetworkEnabled = false → s.writePipeline = []
  stopped : s.isNetworkEnabled = false → s.writeStream.isStarted = false
  requests : s.writeStream.connection.requests =
    if s.writeStream.isReady then s.writePipeline else []
  idle : s.writeStream.idlenessTimer = true → s.writeStream.isReady = true ∧ s.writePipeline = []
  awaiting : s.writeStream.isStarted = true → s.writeStream.isReady = false → s.writePipeline ≠ []

/-- The first batches of the queue of the current user. -/
def target (s : WritingClient υ) : List MutationBatch :=
  (s.mutationQueue.batchesOf s.currentUser).take maxPendingWrites

/-- The client when the pipeline has been filled up to `batches`. -/
def sending (s : WritingClient υ) (batches : List MutationBatch) : WritingClient υ :=
  { s with writePipeline := batches, writeStream := s.writeStream.sending batches }

theorem Lined.sending (h : s.Lined) (henabled : s.isNetworkEnabled = true)
    {batches : List MutationBatch} (hmore : s.writePipeline <+: batches)
    (hinitial : batches <+: s.mutationQueue.batchesOf s.currentUser)
    (hshort : batches.length ≤ maxPendingWrites) : (s.sending batches).Lined where
  user := h.user
  ordered := h.ordered
  isPrefix := hinitial
  short := hshort
  disabled hdisabled := absurd (henabled.symm.trans hdisabled) (by decide)
  stopped hdisabled := absurd (henabled.symm.trans hdisabled) (by decide)
  requests := by
    show (s.writeStream.sending batches).connection.requests =
      if (s.writeStream.sending batches).isReady then batches else []
    rw [WriteStream.isReady_sending]
    by_cases hready : s.writeStream.isReady = true
    · simp [WriteStream.sending, hready]
    · simp [WriteStream.sending, hready, h.requests]
  idle := by
    show (s.writeStream.sending batches).idlenessTimer = true →
      (s.writeStream.sending batches).isReady = true ∧ batches = []
    rw [WriteStream.isReady_sending]
    by_cases hready : s.writeStream.isReady = true
    · simp [WriteStream.sending, hready]
    · intro hidle
      rw [WriteStream.sending, if_neg hready] at hidle
      exact absurd (h.idle hidle).1 hready
  awaiting := by
    show (s.writeStream.sending batches).isStarted = true →
      (s.writeStream.sending batches).isReady = false → batches ≠ []
    rw [WriteStream.isReady_sending, WriteStream.isStarted_sending]
    intro hstarted hready hnil
    exact h.awaiting hstarted hready (List.prefix_nil.1 (hnil ▸ hmore))

theorem addToWritePipeline_eq (h : s.Lined) (henabled : s.isNetworkEnabled = true)
    (hshort : s.writePipeline.length < maxPendingWrites) (batch : MutationBatch) :
    s.addToWritePipeline batch = .ok (s.sending (s.writePipeline ++ [batch])) := by
  have hcan : s.canAddToWritePipeline = true := by
    rw [canAddToWritePipeline, henabled, Bool.true_and]
    exact decide_eq_true hshort
  rw [addToWritePipeline, hcan]
  by_cases hready : s.writeStream.isReady = true
  · have hrequests := h.requests
    rw [if_pos hready] at hrequests
    have hboth := hready
    simp only [WriteStream.isReady, Bool.and_eq_true] at hboth
    simp [hready, WriteStream.writeMutations, hboth.1, hboth.2, sending, WriteStream.sending,
      hrequests]
  · rw [sending, WriteStream.sending, if_neg hready]
    simp only [Bool.not_true, Bool.false_eq_true, if_false, hready]
    rfl

/-- A pipeline that is not empty has been sent already. -/
theorem Lined.sending_self (h : s.Lined) (hne : s.writePipeline ≠ []) :
    s.sending s.writePipeline = s := by
  have hstream : s.writeStream.sending s.writePipeline = s.writeStream := by
    by_cases hready : s.writeStream.isReady = true
    · have hrequests := h.requests
      rw [if_pos hready] at hrequests
      have hidle : s.writeStream.idlenessTimer = false := by
        rw [← Bool.not_eq_true]
        exact fun hidle => hne (h.idle hidle).2
      rw [WriteStream.sending, if_pos hready, List.isEmpty_eq_false_iff.2 hne, ← hidle, ← hrequests]
    · rw [WriteStream.sending, if_neg hready]
  rw [WritingClient.sending, hstream]

/-- A client with nothing to send marks its stream as idle. -/
theorem Lined.markIdle (h : s.Lined) (hnil : s.writePipeline = []) :
    s.withStream s.writeStream.markIdle = s.sending [] := by
  have hstream : s.writeStream.markIdle = s.writeStream.sending [] := by
    by_cases hready : s.writeStream.isReady = true
    · have hrequests := h.requests
      rw [if_pos hready, hnil] at hrequests
      have hopen : s.writeStream.isOpen = true := by
        simp only [WriteStream.isReady, Bool.and_eq_true] at hready
        exact hready.1
      rw [WriteStream.markIdle, if_pos hopen, WriteStream.sending, if_pos hready, List.isEmpty_nil,
        ← hrequests]
    · -- an open stream that is not ready has something to send
      have hopen : ¬ s.writeStream.isOpen = true := by
        intro hopen
        have hstarted : s.writeStream.isStarted = true := by simp [WriteStream.isStarted, hopen]
        exact h.awaiting hstarted (Bool.eq_false_iff.2 hready) hnil
      rw [WriteStream.markIdle, if_neg hopen, WriteStream.sending, if_neg hready]
  rw [withStream, hstream, WritingClient.sending, ← hnil]

/-- The loop takes the queue up to the tenth batch over into the pipeline. -/
theorem fill_eq {slots : Nat} (h : s.Lined) (henabled : s.isNetworkEnabled = true)
    (hslots : s.writePipeline.length + slots = maxPendingWrites) :
    fill slots (lastBatchId s.writePipeline) s = .ok (s.sending s.target) := by
  induction slots generalizing s with
  | zero =>
      rcases h.isPrefix with ⟨rest, hqueue⟩
      have hfull : s.target = s.writePipeline := by
        rw [target, ← hqueue, List.take_left' hslots]
      have hne : s.writePipeline ≠ [] := by
        intro hnil
        rw [hnil] at hslots
        exact absurd hslots (by decide)
      rw [hfull, h.sending_self hne, fill]
  | succ slots ih =>
      rcases h.isPrefix with ⟨rest, hqueue⟩
      have hnext := h.ordered.next_spec (h.user.symm ▸ hqueue.symm)
      rw [fill, lastBatchId, hnext]
      cases rest with
      | nil =>
          have hall : s.target = s.writePipeline := by
            rw [target, ← hqueue, List.append_nil, List.take_of_length_le h.short]
          rw [hall]
          by_cases hnil : s.writePipeline = []
          · simp only [List.head?_nil, hnil, List.isEmpty_nil, if_true]
            rw [h.markIdle hnil]
          · simp only [List.head?_nil, List.isEmpty_eq_false_iff.2 hnil, Bool.false_eq_true,
              if_false]
            rw [h.sending_self hnil]
      | cons batch rest =>
          have hshort : s.writePipeline.length < maxPendingWrites := by omega
          have hadded : (s.sending (s.writePipeline ++ [batch])).Lined := by
            refine h.sending henabled (List.prefix_append _ _) ⟨rest, ?_⟩ ?_
            · rw [List.append_assoc, List.singleton_append, hqueue]
            · rw [List.length_append, List.length_singleton]
              omega
          have hlast : lastBatchId (s.sending (s.writePipeline ++ [batch])).writePipeline =
              batch.batchId := by
            show ((s.writePipeline ++ [batch]).getLast?.map MutationBatch.batchId).getD (-1) = _
            rw [List.getLast?_concat]
            rfl
          have hrest := ih hadded henabled (by
            show (s.writePipeline ++ [batch]).length + slots = maxPendingWrites
            rw [List.length_append, List.length_singleton]
            omega)
          rw [hlast] at hrest
          simp only [List.head?_cons]
          rw [addToWritePipeline_eq h henabled hshort]
          show fill slots batch.batchId (s.sending (s.writePipeline ++ [batch])) = _
          rw [hrest]
          show Except.ok ((s.sending (s.writePipeline ++ [batch])).sending s.target) = _
          simp only [sending, WriteStream.sending_sending]

/-- The client when its stream has been started if there is something to send. -/
def started (s : WritingClient υ) : WritingClient υ :=
  { s with
    writeStream :=
      if s.isNetworkEnabled then s.writeStream.startedFor s.writePipeline else s.writeStream }

omit [DecidableEq υ] in
theorem start_if_needed :
    (if s.shouldStartWriteStream then s.startWriteStream else pure s) = Except.ok s.started := by
  by_cases hshould : s.shouldStartWriteStream = true
  · have hall := hshould
    simp only [shouldStartWriteStream, Bool.and_eq_true, Bool.not_eq_true'] at hall
    rcases hall with ⟨⟨henabled, hstopped⟩, hempty⟩
    rw [if_pos hshould, startWriteStream, hshould, started, if_pos henabled, WriteStream.startedFor,
      hstopped, hempty]
    simp only [Bool.not_true, Bool.false_eq_true, if_false, Bool.or_false]
    rw [WriteStream.start_eq hstopped]
    rfl
  · have hstream : (if s.isNetworkEnabled then s.writeStream.startedFor s.writePipeline
        else s.writeStream) = s.writeStream := by
      by_cases henabled : s.isNetworkEnabled = true
      · have hidle : (s.writeStream.isStarted || s.writePipeline.isEmpty) = true := by
          by_contra hnot
          rw [Bool.not_eq_true, Bool.or_eq_false_iff] at hnot
          exact hshould (by simp [shouldStartWriteStream, henabled, hnot.1, hnot.2])
        rw [if_pos henabled, WriteStream.startedFor, if_pos hidle]
      · rw [if_neg henabled]
    rw [if_neg hshould, started, hstream]
    rfl

/-- The client when `FillWritePipeline` is done. -/
def filled (s : WritingClient υ) : WritingClient υ :=
  { s with
    writePipeline := if s.isNetworkEnabled then s.target else s.writePipeline
    writeStream :=
      if s.isNetworkEnabled then (s.writeStream.sending s.target).startedFor s.target
      else s.writeStream }

theorem fillWritePipeline_eq (h : s.Lined) : s.fillWritePipeline = .ok s.filled := by
  rw [fillWritePipeline, filled]
  by_cases henabled : s.isNetworkEnabled = true
  · have hslots : s.writePipeline.length + (maxPendingWrites - s.writePipeline.length) =
        maxPendingWrites := Nat.add_sub_cancel' h.short
    simp only [henabled, if_true]
    rw [fill_eq h henabled hslots]
    refine Eq.trans start_if_needed ?_
    rw [started, sending]
    simp only [henabled, if_true]
  · simp only [henabled, Bool.false_eq_true, if_false]
    refine Eq.trans start_if_needed ?_
    simp only [started, henabled, Bool.false_eq_true, if_false]

theorem filled_of_enabled (henabled : s.isNetworkEnabled = true) :
    s.filled = (s.sending s.target).withStream
      ((s.writeStream.sending s.target).startedFor s.target) := by
  rw [filled, if_pos henabled, if_pos henabled]
  rfl

theorem filled_of_disabled (hdisabled : s.isNetworkEnabled = false) : s.filled = s := by
  have hnot : ¬ s.isNetworkEnabled = true := Bool.not_eq_true _ ▸ hdisabled
  rw [filled, if_neg hnot, if_neg hnot]

/-- After filling, the pipeline is the first ten batches, the stream runs if there are any, and its
timer runs if it has nothing to do. -/
structure Running (s : WritingClient υ) : Prop extends Lined s where
  full : s.isNetworkEnabled = true → s.writePipeline = s.target
  started : s.isNetworkEnabled = true → s.writePipeline ≠ [] → s.writeStream.isStarted = true
  handshake : s.writeStream.handshakeComplete = true → s.writeStream.isOpen = true
  timer : s.writeStream.isReady = true → s.writePipeline = [] → s.writeStream.idlenessTimer = true

/-- Starting the stream for the pipeline keeps it lined. -/
theorem Lined.startedFor (h : s.Lined) (henabled : s.isNetworkEnabled = true) :
    (s.withStream (s.writeStream.startedFor s.writePipeline)).Lined where
  user := h.user
  ordered := h.ordered
  isPrefix := h.isPrefix
  short := h.short
  disabled := h.disabled
  stopped hdisabled := absurd (henabled.symm.trans hdisabled) (by decide)
  requests := by
    show (s.writeStream.startedFor s.writePipeline).connection.requests =
      if (s.writeStream.startedFor s.writePipeline).isReady then s.writePipeline else []
    rw [WriteStream.connection_startedFor, WriteStream.isReady_startedFor, h.requests]
  idle := by
    show (s.writeStream.startedFor s.writePipeline).idlenessTimer = true →
      (s.writeStream.startedFor s.writePipeline).isReady = true ∧ s.writePipeline = []
    rw [WriteStream.idlenessTimer_startedFor, WriteStream.isReady_startedFor]
    exact h.idle
  awaiting := by
    show (s.writeStream.startedFor s.writePipeline).isStarted = true →
      (s.writeStream.startedFor s.writePipeline).isReady = false → s.writePipeline ≠ []
    rw [WriteStream.isStarted_startedFor, WriteStream.isReady_startedFor]
    intro hstarted hready hnil
    rw [hnil, List.isEmpty_nil, Bool.not_true, Bool.or_false] at hstarted
    exact h.awaiting hstarted hready hnil

theorem Lined.filled (h : s.Lined) : s.filled.Lined := by
  cases henabled : s.isNetworkEnabled with
  | true =>
      have hsent : (s.sending s.target).Lined := by
        refine h.sending henabled (List.prefix_take_iff.2 ⟨h.isPrefix, h.short⟩) ?_ ?_
        · exact List.take_prefix _ _
        · exact List.length_take_le _ _
      rw [filled_of_enabled henabled]
      exact hsent.startedFor henabled
  | false =>
      rw [filled_of_disabled henabled]
      exact h

@[simp] theorem isOpen_filled : s.filled.writeStream.isOpen = s.writeStream.isOpen := by
  rw [filled]
  split <;> simp

@[simp] theorem handshakeComplete_filled :
    s.filled.writeStream.handshakeComplete = s.writeStream.handshakeComplete := by
  rw [filled]
  split <;> simp

@[simp] theorem committed_filled :
    s.filled.writeStream.connection.committed = s.writeStream.connection.committed := by
  rw [filled]
  split <;> simp

/-- Filling starts the stream when there is something to send. -/
theorem started_filled (henabled : s.isNetworkEnabled = true) (hne : s.filled.writePipeline ≠ []) :
    s.filled.writeStream.isStarted = true := by
  rw [filled_of_enabled henabled] at hne ⊢
  have hempty : s.target.isEmpty = false := List.isEmpty_eq_false_iff.2 hne
  simp [withStream, hempty]

omit [DecidableEq υ] in
/-- Then it need not be started again. -/
theorem started_eq_self (hstarted : s.isNetworkEnabled = true → s.writePipeline ≠ [] →
    s.writeStream.isStarted = true) : s.started = s := by
  have hstream : (if s.isNetworkEnabled then s.writeStream.startedFor s.writePipeline
      else s.writeStream) = s.writeStream := by
    by_cases henabled : s.isNetworkEnabled = true
    · rw [if_pos henabled, WriteStream.startedFor]
      by_cases hnil : s.writePipeline = []
      · simp [hnil]
      · simp [hstarted henabled hnil]
    · rw [if_neg henabled]
  rw [started, hstream]

theorem Lined.running (h : s.Lined)
    (hhandshake : s.writeStream.handshakeComplete = true → s.writeStream.isOpen = true) :
    s.filled.Running where
  toLined := h.filled
  full henabled := by
    show (if s.isNetworkEnabled then s.target else s.writePipeline) = s.target
    exact if_pos henabled
  started henabled hne := started_filled henabled hne
  handshake := by
    rw [isOpen_filled, handshakeComplete_filled]
    exact hhandshake
  timer := by
    cases henabled : s.isNetworkEnabled with
    | true =>
        rw [filled_of_enabled henabled]
        intro hready hnil
        have hready' : s.writeStream.isReady = true := by simpa [withStream] using hready
        have hempty : s.target = [] := hnil
        simp [withStream, WriteStream.sending, hready', hempty]
    | false =>
        -- the stream of a client without network is stopped
        rw [filled_of_disabled henabled]
        intro hready
        have hstopped := h.stopped henabled
        rw [WriteStream.isStarted_of_isReady hready] at hstopped
        exact absurd hstopped (by decide)

end WritingClient

/-! ## Closing the stream -/

namespace WriteStream

variable {stream : WriteStream}

/-- A stream that is not started has nothing under way. -/
def Quiet (stream : WriteStream) : Prop :=
  stream.isStarted = false → stream.connection.requests = [] ∧ stream.idlenessTimer = false ∧
    stream.handshakeComplete = false

/-- The stream after it was stopped. -/
def stopped (stream : WriteStream) : WriteStream :=
  if stream.isStarted then (stream.closed true).resetHandshake else stream

@[simp] theorem isOpen_closed (gracefulStop : Bool) : (stream.closed gracefulStop).isOpen = false := by
  cases gracefulStop <;> rfl

@[simp] theorem isStarted_closed (gracefulStop : Bool) :
    (stream.closed gracefulStop).isStarted = false := by
  cases gracefulStop <;> rfl

theorem isReady_eq_false (h : stream.isOpen = false) : stream.isReady = false := by
  rw [isReady, h, Bool.false_and]

theorem isOpen_eq_false (h : stream.isStarted = false) : stream.isOpen = false := by
  simp only [isStarted, Bool.or_eq_false_iff] at h
  exact h.2

theorem isStarted_stopped : stream.stopped.isStarted = false := by
  unfold stopped
  cases hstarted : stream.isStarted with
  | true => rfl
  | false => exact hstarted

theorem Quiet.stopped (h : stream.Quiet) : stream.stopped.connection.requests = [] ∧
    stream.stopped.idlenessTimer = false ∧ stream.stopped.handshakeComplete = false := by
  unfold WriteStream.stopped
  cases hstarted : stream.isStarted with
  | true => exact ⟨rfl, rfl, rfl⟩
  | false => exact h hstarted

@[simp] theorem isOpen_resetHandshake : stream.resetHandshake.isOpen = stream.isOpen := rfl

@[simp] theorem isStarted_resetHandshake : stream.resetHandshake.isStarted = stream.isStarted := rfl

/-- Starting a stream does not look at its handshake. -/
theorem startedFor_resetHandshake (batches : List MutationBatch) :
    (stream.startedFor batches).resetHandshake = stream.resetHandshake.startedFor batches := by
  rw [startedFor, startedFor, isStarted_resetHandshake]
  split <;> rfl

theorem sending_of_not_open (h : stream.isOpen = false) (batches : List MutationBatch) :
    stream.sending batches = stream := by
  rw [sending, isReady_eq_false h]
  rfl

end WriteStream

namespace WritingClient

variable {s : WritingClient υ}

theorem Lined.giveUp (h : s.Lined) (gracefulStop : Bool) : (s.giveUp gracefulStop).Lined where
  user := h.user
  ordered := h.ordered
  isPrefix := h.isPrefix
  short := h.short
  disabled := h.disabled
  stopped _ := WriteStream.isStarted_closed gracefulStop
  requests := by
    show ([] : List MutationBatch) =
      if (s.writeStream.closed gracefulStop).isReady then s.writePipeline else []
    rw [WriteStream.isReady_eq_false (WriteStream.isOpen_closed gracefulStop)]
    rfl
  idle hidle := by cases hidle
  awaiting hstarted :=
    absurd ((WriteStream.isStarted_closed gracefulStop).symm.trans hstarted) (by decide)

theorem Lined.resetHandshake (h : s.Lined) (hopen : s.writeStream.isOpen = false) :
    s.resetHandshake.Lined where
  user := h.user
  ordered := h.ordered
  isPrefix := h.isPrefix
  short := h.short
  disabled := h.disabled
  stopped := h.stopped
  requests := by
    have hrequests := h.requests
    rw [WriteStream.isReady_eq_false hopen] at hrequests
    have hready : s.writeStream.resetHandshake.isReady = false :=
      WriteStream.isReady_eq_false hopen
    show s.writeStream.connection.requests =
      if s.writeStream.resetHandshake.isReady then s.writePipeline else []
    rw [hready, hrequests]
  idle hidle := by
    have hready := (h.idle hidle).1
    rw [WriteStream.isReady_eq_false hopen] at hready
    exact absurd hready (by decide)
  awaiting hstarted _ := h.awaiting hstarted (WriteStream.isReady_eq_false hopen)

/-- A client whose stream is stopped and that has nothing in its pipeline. -/
theorem lined_of_stopped (huser : s.mutationQueue.userId = s.currentUser)
    (hordered : s.mutationQueue.Ordered) (hpipeline : s.writePipeline = [])
    (hstopped : s.writeStream.isStarted = false) (hrequests : s.writeStream.connection.requests = [])
    (hidle : s.writeStream.idlenessTimer = false) : s.Lined where
  user := huser
  ordered := hordered
  isPrefix := hpipeline ▸ List.nil_prefix
  short := hpipeline ▸ Nat.zero_le _
  disabled _ := hpipeline
  stopped _ := hstopped
  requests := by
    rw [hrequests, hpipeline, ite_self]
  idle h := absurd (hidle.symm.trans h) (by decide)
  awaiting h := absurd (hstopped.symm.trans h) (by decide)

/-- The handshake may be reset before filling as well, when the stream is not open. -/
theorem filled_resetHandshake (hopen : s.writeStream.isOpen = false) :
    s.filled.resetHandshake = s.resetHandshake.filled := by
  cases henabled : s.isNetworkEnabled with
  | true =>
      rw [filled_of_enabled henabled, filled_of_enabled (s := s.resetHandshake) henabled]
      show (s.sending s.target).withStream
          (((s.writeStream.sending s.target).startedFor s.target).resetHandshake) =
        (s.sending s.target).withStream
          ((s.writeStream.resetHandshake.sending s.target).startedFor s.target)
      have hclosed : s.writeStream.resetHandshake.isOpen = false := hopen
      have hreset := WriteStream.sending_of_not_open hclosed s.target
      rw [WriteStream.sending_of_not_open hopen, WriteStream.startedFor_resetHandshake, hreset]
  | false =>
      rw [filled_of_disabled henabled, filled_of_disabled (s := s.resetHandshake) henabled]

/-- Where the pipeline is full already, starting the stream is all there is to filling. -/
theorem filled_eq_started (hfull : s.isNetworkEnabled = true → s.writePipeline = s.target)
    (hopen : s.writeStream.isOpen = false) : s.filled = s.started := by
  cases henabled : s.isNetworkEnabled with
  | true =>
      rw [filled_of_enabled henabled, started, if_pos henabled,
        WriteStream.sending_of_not_open hopen, ← hfull henabled]
      rfl
  | false =>
      rw [filled_of_disabled henabled, started, if_neg (Bool.eq_false_iff.1 henabled)]

theorem Running.quiet (h : s.Running) : s.writeStream.Quiet := by
  intro hstopped
  have hopen := WriteStream.isOpen_eq_false hstopped
  have hready := WriteStream.isReady_eq_false hopen
  refine ⟨?_, ?_, ?_⟩
  · rw [h.requests, hready]
    rfl
  · rw [← Bool.not_eq_true]
    exact fun hidle => Bool.false_ne_true (hready.symm.trans (h.idle hidle).1)
  · rw [← Bool.not_eq_true]
    exact fun hcomplete => Bool.false_ne_true (hopen.symm.trans (h.handshake hcomplete))

/-- Stopping a stream that is not needed. -/
theorem closeStream_ok (hstarted : s.writeStream.isStarted = true)
    (hneeded : s.isNetworkEnabled = false ∨ s.writePipeline = []) :
    s.closeStream .ok = .ok (s.giveUp true).resetHandshake := by
  have hshould : (s.giveUp true).shouldStartWriteStream = false := by
    rcases hneeded with hdisabled | hnil
    · simp [shouldStartWriteStream, giveUp, hdisabled]
    · simp [shouldStartWriteStream, giveUp, hnil]
  have hclose : (s.giveUp true).onWriteStreamClose .ok = .ok (s.giveUp true) := by
    simp [onWriteStreamClose, hshould, pure, Except.pure, bind, Except.bind]
  rw [closeStream, if_pos hstarted, decide_eq_true rfl, hclose]
  rfl

/-- A stream that is needed must not stop gracefully. -/
theorem closeStream_ok_error (hstarted : s.writeStream.isStarted = true)
    (henabled : s.isNetworkEnabled = true) (hne : s.writePipeline ≠ []) :
    s.closeStream .ok = .error "Write stream was stopped gracefully while still needed." := by
  have hshould : (s.giveUp true).shouldStartWriteStream = true := by
    simp [shouldStartWriteStream, giveUp, henabled, List.isEmpty_eq_false_iff.2 hne]
  rw [closeStream, if_pos hstarted, decide_eq_true rfl, onWriteStreamClose,
    if_pos ⟨rfl, hshould⟩]
  rfl

/-- After an error, the stream is started again when the error has been handled. -/
theorem closeStream_error {status : StreamStatus} (hstarted : s.writeStream.isStarted = true)
    (hstatus : status ≠ .ok) {handled : WritingClient υ}
    (hhandled : (if s.writeStream.handshakeComplete then (s.giveUp false).handleWriteError status
      else pure (s.giveUp false)) = Except.ok handled) :
    s.closeStream status = .ok handled.started.resetHandshake := by
  have hclose : (s.giveUp false).onWriteStreamClose status = .ok handled.started := by
    have hcomplete : (s.giveUp false).writeStream.handshakeComplete =
        s.writeStream.handshakeComplete := rfl
    rw [onWriteStreamClose, if_neg fun h => hstatus h.1, hcomplete]
    by_cases hshake : s.writeStream.handshakeComplete = true
    · rw [if_pos hshake] at hhandled
      rw [if_pos ⟨hstatus, hshake⟩, hhandled]
      exact start_if_needed
    · rw [if_neg hshake] at hhandled
      rw [if_neg fun h => hshake h.2, ← Except.ok.inj hhandled]
      exact start_if_needed
  rw [closeStream, if_pos hstarted, decide_eq_false hstatus, hclose]
  rfl

/-- A running client that only starts its stream again. -/
theorem Running.reopened (h : s.Running) : (s.giveUp false).started.resetHandshake =
    (s.giveUp false).resetHandshake.filled := by
  have hopen : (s.giveUp false).writeStream.isOpen = false := WriteStream.isOpen_closed false
  have hfull : (s.giveUp false).isNetworkEnabled = true →
      (s.giveUp false).writePipeline = (s.giveUp false).target := h.full
  rw [← filled_eq_started hfull hopen, filled_resetHandshake hopen]

/-- The client with its network disabled. -/
def offline (s : WritingClient υ) : WritingClient υ :=
  { s with
    isNetworkEnabled := false
    writePipeline := []
    writeStream := s.writeStream.stopped
    givenUp := s.givenUp ++ if s.writeStream.isStarted then [s.writeStream.connection] else [] }

/-- The client with its network enabled again, before it fills its pipeline. -/
def reset (s : WritingClient υ) : WritingClient υ :=
  { s.offline with
    isNetworkEnabled := true
    writeStream := { s.offline.writeStream with state := .initial } }

theorem disableNetwork_eq : s.disableNetwork = .ok s.offline := by
  rw [disableNetwork, disableNetworkInternal, offline, WriteStream.stopped]
  cases hstarted : s.writeStream.isStarted with
  | true =>
      rw [closeStream_ok (s := { s with isNetworkEnabled := false }) hstarted (.inl rfl), if_pos rfl,
        if_pos rfl]
      rfl
  | false =>
      have hclose : closeStream { s with isNetworkEnabled := false } .ok =
          .ok { s with isNetworkEnabled := false } := by
        rw [closeStream, if_neg (Bool.eq_false_iff.1 hstarted), if_pos rfl]
        rfl
      rw [hclose, if_neg Bool.false_ne_true, if_neg Bool.false_ne_true, List.append_nil]
      rfl

theorem offline_lined (huser : s.mutationQueue.userId = s.currentUser)
    (hordered : s.mutationQueue.Ordered) (hquiet : s.writeStream.Quiet) : s.offline.Lined :=
  lined_of_stopped huser hordered rfl WriteStream.isStarted_stopped hquiet.stopped.1
    hquiet.stopped.2.1

theorem reset_lined (huser : s.mutationQueue.userId = s.currentUser)
    (hordered : s.mutationQueue.Ordered) (hquiet : s.writeStream.Quiet) : s.reset.Lined :=
  lined_of_stopped huser hordered rfl rfl hquiet.stopped.1 hquiet.stopped.2.1

theorem restartNetwork_eq (huser : s.mutationQueue.userId = s.currentUser)
    (hordered : s.mutationQueue.Ordered) (hquiet : s.writeStream.Quiet) :
    s.restartNetwork = .ok s.reset.filled := by
  have hstopped : s.offline.writeStream.isStarted = false := WriteStream.isStarted_stopped
  have hinhibit : s.offline.writeStream.inhibitBackoff =
      .ok { s.offline.writeStream with state := .initial } := by
    rw [WriteStream.inhibitBackoff, hstopped]
    rfl
  rw [restartNetwork, disableNetwork_eq]
  show (do
    let stream ← s.offline.writeStream.inhibitBackoff
    (s.offline.withStream stream).enableNetwork) = _
  rw [hinhibit]
  exact fillWritePipeline_eq (reset_lined huser hordered hquiet)

end WritingClient
end Firestore
end MoviePlayList
