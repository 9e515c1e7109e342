import Mathlib.Data.List.Nodup
import Mathlib.Data.List.Range
import MoviePlayList.Firestore.RemoteStore

/-!
# WriteRuns — what becomes of the writes of every user

Whatever happens to the network, the connections and the user, the writes of a user are answered one
by one in the order they were made, and each that is not answered is still in his queue.  The server
commits them in that order too, although it receives a write again on every new connection and may
go on with an old one.
-/

namespace MoviePlayList
namespace Firestore

variable {υ : Type} [DecidableEq υ]

/-! ## The history -/

namespace WriteHistory

variable {history later : WriteHistory υ}

/-- The writes of a user in the order he made them. -/
def writesOf (history : WriteHistory υ) (user : υ) : List Nat :=
  (List.range history.written.length).filter fun n => history.written[n]? = some user

/-- The writes of a user in the order their completions were called. -/
def answersOf (history : WriteHistory υ) (user : υ) : List Nat :=
  (history.told.map Prod.fst).filter fun n => history.written[n]? = some user

theorem mem_writesOf {user : υ} {n : Nat} :
    n ∈ history.writesOf user ↔ history.written[n]? = some user := by
  rw [writesOf, List.mem_filter, List.mem_range, decide_eq_true_eq, and_iff_right_iff_imp]
  exact fun h => (List.getElem?_eq_some_iff.1 h).1

theorem pairwise_writesOf (history : WriteHistory υ) (user : υ) :
    (history.writesOf user).Pairwise (· < ·) :=
  List.pairwise_lt_range.filter _

omit [DecidableEq υ] in
theorem getElem?_write {user : υ} {n : Nat} (hn : n < history.written.length) :
    (history.write user).written[n]? = history.written[n]? :=
  List.getElem?_append_left hn

theorem writesOf_write (history : WriteHistory υ) (author user : υ) :
    (history.write author).writesOf user =
      history.writesOf user ++ if author = user then [history.written.length] else [] := by
  have hold : (List.range history.written.length).filter
      (fun n => (history.write author).written[n]? = some user) = history.writesOf user :=
    List.filter_congr fun n hn => by rw [getElem?_write (List.mem_range.1 hn)]
  have hnew : (history.write author).written[history.written.length]? = some author :=
    List.getElem?_concat_length
  have hlength : (history.write author).written.length = history.written.length + 1 :=
    List.length_append
  rw [writesOf, hlength, List.range_succ, List.filter_append, hold]
  by_cases huser : author = user
  · simp [hnew, huser.symm]
  · simp [hnew, huser]

theorem answersOf_write (author user : υ)
    (hknown : ∀ answer ∈ history.told, answer.1 < history.written.length) :
    (history.write author).answersOf user = history.answersOf user := by
  refine List.filter_congr fun n hn => ?_
  rcases List.mem_map.1 hn with ⟨answer, hanswer, rfl⟩
  rw [getElem?_write (hknown answer hanswer)]

theorem answersOf_tell (history : WriteHistory υ) (write : Nat) (success : Bool) (user : υ) :
    (history.tell write success).answersOf user =
      history.answersOf user ++ if history.written[write]? = some user then [write] else [] := by
  rw [answersOf, tell, List.map_append, List.filter_append]
  by_cases huser : history.written[write]? = some user <;> simp [answersOf, huser]

/-- Nothing that happened is taken back. -/
structure Extends (history later : WriteHistory υ) : Prop where
  written : history.written <+: later.written
  told : history.told ⊆ later.told
  serverLog : history.serverLog ⊆ later.serverLog

section

omit [DecidableEq υ]

theorem extends_write (history : WriteHistory υ) (user : υ) : history.Extends (history.write user) :=
  ⟨List.prefix_append _ _, List.Subset.refl _, List.Subset.refl _⟩

theorem extends_tell (history : WriteHistory υ) (write : Nat) (success : Bool) :
    history.Extends (history.tell write success) :=
  ⟨List.prefix_refl _, List.subset_append_left _ _, List.Subset.refl _⟩

theorem extends_commit (history : WriteHistory υ) (next? : Option Nat) :
    history.Extends (history.commit next?) :=
  ⟨List.prefix_refl _, List.Subset.refl _, List.subset_append_left _ _⟩

/-- The first write is an earlier one of the user of the second. -/
def Before (history : WriteHistory υ) (m n : Nat) : Prop :=
  m < n ∧ ∃ user, history.written[m]? = some user ∧ history.written[n]? = some user

/-- The server has committed the write, or its user was told that it failed. -/
def Done (history : WriteHistory υ) (n : Nat) : Prop :=
  n ∈ history.serverLog ∨ (n, false) ∈ history.told

theorem Extends.done (h : history.Extends later) {n : Nat} (hn : history.Done n) : later.Done n :=
  hn.imp (fun hlog => h.serverLog hlog) fun htold => h.told htold

/-- Later writes do not come before a write. -/
theorem Extends.before (h : history.Extends later) {m n : Nat} (hn : n < history.written.length)
    (hbefore : later.Before m n) : history.Before m n := by
  rcases hbefore with ⟨hlt, user, hm, hn'⟩
  rcases h.written with ⟨new, hnew⟩
  rw [← hnew, List.getElem?_append_left (Nat.lt_trans hlt hn)] at hm
  rw [← hnew, List.getElem?_append_left hn] at hn'
  exact ⟨hlt, user, hm, hn'⟩

/-! ## The server -/

/-- What the server commits is in order for every user, and the client tells of no success that is
not one. -/
structure Honest (history : WriteHistory υ) : Prop where
  succeeded : ∀ n : Nat, (n, true) ∈ history.told → n ∈ history.serverLog
  known : ∀ n ∈ history.serverLog, n < history.written.length
  inOrder : ∀ m n : Nat, n ∈ history.serverLog → history.Before m n → history.Done m

theorem Honest.write (h : history.Honest) (user : υ) : (history.write user).Honest where
  succeeded := h.succeeded
  known n hn := by
    have hold := h.known n hn
    show n < (history.written ++ [user]).length
    rw [List.length_append, List.length_singleton]
    exact Nat.lt_succ_of_lt hold
  inOrder m n hn hbefore :=
    h.inOrder m n hn ((history.extends_write user).before (h.known n hn) hbefore)

theorem Honest.tell (h : history.Honest) {write : Nat} {success : Bool}
    (hsuccess : success = true → write ∈ history.serverLog) :
    (history.tell write success).Honest where
  succeeded n hn := by
    rcases List.mem_append.1 hn with hold | hnew
    · exact h.succeeded n hold
    · have heq := List.mem_singleton.1 hnew
      rw [Prod.mk.injEq] at heq
      exact heq.1 ▸ hsuccess heq.2.symm
  known := h.known
  inOrder m n hn hbefore := (history.extends_tell write success).done (h.inOrder m n hn hbefore)

/-- The requests of a connection: those before the mark are committed, and whatever comes before
one of them is done or stands before it. -/
structure Sound (history : WriteHistory υ) (connection : Connection) : Prop where
  commits : ∀ batch ∈ connection.requests.take connection.committed, batch.write ∈ history.serverLog
  known : ∀ batch ∈ connection.requests, batch.write < history.written.length
  chained : ∀ (k : Nat) (batch : MutationBatch), connection.requests[k]? = some batch →
    ∀ m, history.Before m batch.write →
      history.Done m ∨ ∃ earlier ∈ connection.requests.take k, earlier.write = m

theorem Sound.mono {connection : Connection} (h : history.Sound connection)
    (hlater : history.Extends later) : later.Sound connection where
  commits batch hbatch := hlater.serverLog (h.commits batch hbatch)
  known batch hbatch := Nat.lt_of_lt_of_le (h.known batch hbatch) hlater.written.length_le
  chained k batch hk m hbefore := by
    have hknown := h.known batch (List.mem_of_getElem? hk)
    rcases h.chained k batch hk m (hlater.before hknown hbefore) with hdone | hearlier
    · exact .inl (hlater.done hdone)
    · exact .inr hearlier

/-- Committing the next request of a connection keeps the order. -/
theorem Sound.commitNext {connection : Connection} (h : history.Sound connection)
    (hhonest : history.Honest) (hnext : connection.next?.isSome = true) :
    (history.commit connection.next?).Honest ∧
      (history.commit connection.next?).Sound connection.commitNext := by
  rcases Option.isSome_iff_exists.1 hnext with ⟨n, hn⟩
  rcases Option.map_eq_some_iff.1 hn with ⟨batch, hbatch, rfl⟩
  have hlater := history.extends_commit (some batch.write)
  rw [hn]
  refine ⟨⟨fun k hk => hlater.serverLog (hhonest.succeeded k hk), fun k hk => ?_, ?_⟩, ?_⟩
  · rcases List.mem_append.1 hk with hold | hnew
    · exact hhonest.known k hold
    · rw [List.mem_singleton.1 hnew]
      exact h.known batch (List.mem_of_getElem? hbatch)
  · intro m k hk hbefore
    rcases List.mem_append.1 hk with hold | hnew
    · exact hlater.done (hhonest.inOrder m k hold hbefore)
    · -- all that stands before the request has been committed
      rw [List.mem_singleton.1 hnew] at hbefore
      rcases h.chained _ batch hbatch m hbefore with hdone | ⟨earlier, hearlier, rfl⟩
      · exact hlater.done hdone
      · exact .inl (hlater.serverLog (h.commits earlier hearlier))
  · have hsound := h.mono hlater
    refine ⟨fun other hother => ?_, hsound.known, hsound.chained⟩
    have htake : connection.requests.take (connection.committed + 1) =
        connection.requests.take connection.committed ++ [batch] := by
      rw [List.take_add_one, hbatch]
      rfl
    rw [Connection.commitNext, htake] at hother
    rcases List.mem_append.1 hother with hold | hnew
    · exact hsound.commits other hold
    · rw [List.mem_singleton.1 hnew]
      exact List.mem_append_right _ List.mem_cons_self

end

end WriteHistory

/-! ## The books of the client -/

/-- `mutation_callbacks_` has an entry for every row. -/
def callbackOf (row : MutationRow υ) : υ × Int × Nat :=
  (row.user, row.batch.batchId, row.batch.write)

/-- Every write is answered or queued, in the order of the writes, and every queued one has its
completion. -/
structure Books (queue : LevelDbMutationQueue υ) (mutationCallbacks : List (υ × Int × Nat))
    (history : WriteHistory υ) : Prop where
  callbacks : mutationCallbacks = queue.rows.map callbackOf
  ledger : ∀ user, history.answersOf user ++ (queue.batchesOf user).map MutationBatch.write =
    history.writesOf user
  known : ∀ answer ∈ history.told, answer.1 < history.written.length

namespace Books

variable {queue : LevelDbMutationQueue υ} {mutationCallbacks : List (υ × Int × Nat)}
  {history : WriteHistory υ}

/-- A new write is entered under a batch id that no completion has. -/
theorem not_taken (h : Books queue mutationCallbacks history) (hordered : queue.Ordered) (user : υ) :
    (mutationCallbacks.any fun callback =>
      callback.1 = user ∧ callback.2.1 = queue.nextBatchId) = false := by
  rw [List.any_eq_false]
  intro callback hcallback htaken
  rw [h.callbacks] at hcallback
  rcases List.mem_map.1 hcallback with ⟨row, hrow, rfl⟩
  have hlt := (hordered.ids row hrow).2
  have heq : row.batch.batchId = queue.nextBatchId := (of_decide_eq_true htaken).2
  omega

theorem write (h : Books queue mutationCallbacks history) :
    Books (queue.addMutationBatch history.written.length).1
      (mutationCallbacks ++ [(queue.userId, queue.nextBatchId, history.written.length)])
      (history.write queue.userId) where
  callbacks := by
    rw [h.callbacks, LevelDbMutationQueue.addMutationBatch, List.map_append]
    rfl
  ledger user := by
    rw [history.answersOf_write queue.userId user h.known, history.writesOf_write,
      queue.batchesOf_addMutationBatch, List.map_append, ← List.append_assoc, h.ledger user]
    by_cases huser : queue.userId = user <;> simp [huser]
  known answer hanswer := by
    show answer.1 < (history.written ++ [queue.userId]).length
    rw [List.length_append, List.length_singleton]
    exact Nat.lt_succ_of_lt (h.known answer hanswer)

/-- The writes of the batches of a user are his. -/
theorem written_eq (h : Books queue mutationCallbacks history) {user : υ} {batch : MutationBatch}
    (hbatch : batch ∈ queue.batchesOf user) : history.written[batch.write]? = some user := by
  refine WriteHistory.mem_writesOf.1 ?_
  rw [← h.ledger user]
  exact List.mem_append_right _ (List.mem_map_of_mem hbatch)

/-- The first write that is waiting is answered. -/
theorem settle (h : Books queue mutationCallbacks history) (hordered : queue.Ordered)
    {batch : MutationBatch} {rest : List MutationBatch}
    (hqueue : queue.batchesOf queue.userId = batch :: rest) (success : Bool) :
    Books (queue.without batch.batchId)
      (mutationCallbacks.filter fun callback =>
        ¬ (callback.1 = queue.userId ∧ callback.2.1 = batch.batchId))
      (history.tell batch.write success) where
  callbacks := by
    rw [h.callbacks, List.filter_map]
    rfl
  ledger user := by
    have hwritten := h.written_eq (hqueue ▸ List.mem_cons_self : batch ∈ _)
    rw [history.answersOf_tell, hwritten]
    show _ = history.writesOf user
    rw [← h.ledger user]
    by_cases huser : queue.userId = user
    · rw [if_pos (congrArg some huser), ← huser, hordered.batchesOf_without_head hqueue, hqueue,
        List.append_assoc]
      rfl
    · rw [if_neg fun heq => huser (Option.some.inj heq), List.append_nil, queue.batchesOf_without,
        if_neg fun heq => huser heq.symm]
  known answer hanswer := by
    rcases List.mem_append.1 hanswer with hold | hnew
    · exact h.known answer hold
    · rw [List.mem_singleton.1 hnew]
      have hwritten := h.written_eq (hqueue ▸ List.mem_cons_self : batch ∈ _)
      exact (List.getElem?_eq_some_iff.1 hwritten).1

/-- The completion of a row is found under its user and batch id. -/
theorem find?_callback (h : Books queue mutationCallbacks history) (hordered : queue.Ordered)
    {row : MutationRow υ} (hrow : row ∈ queue.rows) :
    (mutationCallbacks.find? fun callback =>
      callback.1 = row.user ∧ callback.2.1 = row.batch.batchId) = some (callbackOf row) := by
  rw [h.callbacks, List.find?_map]
  exact congrArg (Option.map callbackOf) (hordered.find?_row hrow)

/-- What waits before a batch of a connection is done or stands before it there. -/
theorem sound (h : Books queue mutationCallbacks history) (hhonest : history.Honest) {user : υ}
    {connection : Connection} (hinitial : connection.requests <+: queue.batchesOf user)
    (hcommits : ∀ batch ∈ connection.requests.take connection.committed,
      batch.write ∈ history.serverLog) : history.Sound connection where
  commits := hcommits
  known batch hbatch :=
    (List.getElem?_eq_some_iff.1 (h.written_eq (hinitial.subset hbatch))).1
  chained k batch hk m hbefore := by
    rcases hbefore with ⟨hlt, author, hm, hbatch⟩
    have hmem := hinitial.subset (List.mem_of_getElem? hk)
    have hauthor : author = user := Option.some.inj (hbatch.symm.trans (h.written_eq hmem))
    have hwrites : m ∈ history.writesOf user := WriteHistory.mem_writesOf.2 (hauthor ▸ hm)
    rw [← h.ledger user] at hwrites
    rcases List.mem_append.1 hwrites with hanswered | hwaiting
    · rcases List.mem_map.1 (List.mem_of_mem_filter hanswered) with ⟨⟨_, success⟩, htold, rfl⟩
      cases success with
      | true => exact .inl (.inl (hhonest.succeeded _ htold))
      | false => exact .inl (.inr htold)
    · -- the queue is in the order of the writes
      rcases List.mem_map.1 hwaiting with ⟨earlier, hearlier, rfl⟩
      refine .inr ⟨earlier, ?_, rfl⟩
      have hascending : ((queue.batchesOf user).map MutationBatch.write).Pairwise (· < ·) := by
        have hall := history.pairwise_writesOf user
        rw [← h.ledger user] at hall
        exact (List.pairwise_append.1 hall).2.1
      rw [List.pairwise_map] at hascending
      rcases List.getElem?_eq_some_iff.1 hk with ⟨hlength, hget⟩
      rcases hinitial with ⟨rest, hqueue⟩
      rw [← hqueue, ← List.take_append_drop k connection.requests,
        List.drop_eq_getElem_cons hlength, hget, List.append_assoc] at hascending hearlier
      rcases List.mem_append.1 hearlier with hbefore | hafter
      · exact hbefore
      · have hle := List.pairwise_cons.1 (List.pairwise_append.1 hascending).2.1
        rcases List.mem_cons.1 hafter with rfl | hafter
        · exact absurd hlt (Nat.lt_irrefl _)
        · exact absurd (Nat.lt_trans hlt (hle.1 earlier hafter)) (Nat.lt_irrefl _)

end Books

/-! ## The client keeps its books -/

/-- A ready stream sends a list of batches in order. -/
theorem WriteStream.foldlM_writeMutations {stream : WriteStream} (h : stream.isReady = true)
    (batches : List MutationBatch) :
    batches.foldlM WriteStream.writeMutations stream = .ok { stream with
      connection := ⟨stream.connection.requests ++ batches, stream.connection.committed⟩
      idlenessTimer := stream.idlenessTimer && batches.isEmpty } := by
  induction batches generalizing stream with
  | nil =>
      rw [List.append_nil, List.isEmpty_nil, Bool.and_true]
      rfl
  | cons batch batches ih =>
      have hboth := h
      simp only [WriteStream.isReady, Bool.and_eq_true] at hboth
      have hwrite : stream.writeMutations batch = .ok { stream with
          connection := ⟨stream.connection.requests ++ [batch], stream.connection.committed⟩
          idlenessTimer := false } := by
        simp [WriteStream.writeMutations, hboth.1, hboth.2]
      have hready : { stream with
          connection := ⟨stream.connection.requests ++ [batch], stream.connection.committed⟩
          idlenessTimer := false }.isReady = true := h
      rw [List.foldlM_cons, hwrite]
      refine (ih hready).trans ?_
      simp

namespace WritingClient

variable {s : WritingClient υ}

/-- The books are right, and so is every connection, the one of the stream and those given up. -/
structure Kept (s : WritingClient υ) : Prop where
  books : Books s.mutationQueue s.mutationCallbacks s.history
  honest : s.history.Honest
  lost : ∀ connection ∈ s.givenUp, s.history.Sound connection
  received : s.writeStream.connection.committed ≤ s.writeStream.connection.requests.length
  commits : ∀ batch ∈ s.writeStream.connection.requests.take s.writeStream.connection.committed,
    batch.write ∈ s.history.serverLog

theorem Lined.requests_prefix (h : s.Lined) :
    s.writeStream.connection.requests <+: s.mutationQueue.batchesOf s.currentUser := by
  rw [h.requests]
  split
  · exact h.isPrefix
  · exact List.nil_prefix

/-- What has been sent stays sent when the pipeline is filled. -/
theorem Lined.requests_filled (h : s.Lined) :
    s.writeStream.connection.requests <+: s.filled.writeStream.connection.requests := by
  have hready : s.filled.writeStream.isReady = s.writeStream.isReady := by
    simp [WriteStream.isReady]
  rw [h.requests, h.filled.requests, hready]
  split
  · show s.writePipeline <+: if s.isNetworkEnabled then s.target else s.writePipeline
    split
    · exact List.prefix_take_iff.2 ⟨h.isPrefix, h.short⟩
    · exact List.prefix_refl _
  · exact List.prefix_refl _

theorem Kept.filled (h : s.Kept) (hlined : s.Lined) : s.filled.Kept := by
  rcases hlined.requests_filled with ⟨rest, hrequests⟩
  have hreceived := h.received
  refine ⟨h.books, h.honest, h.lost, ?_, ?_⟩
  · rw [committed_filled, ← hrequests, List.length_append]
    omega
  · rw [committed_filled, ← hrequests, List.take_append_of_le_length h.received]
    exact h.commits

/-- The connection of the stream, whoever of the users it was opened for. -/
theorem Kept.sound (h : s.Kept) {user : υ}
    (hinitial : s.writeStream.connection.requests <+: s.mutationQueue.batchesOf user) :
    s.history.Sound s.writeStream.connection :=
  h.books.sound h.honest hinitial h.commits

theorem Kept.giveUp (h : s.Kept) (hsound : s.history.Sound s.writeStream.connection)
    (gracefulStop : Bool) : (s.giveUp gracefulStop).Kept where
  books := h.books
  honest := h.honest
  lost connection hconnection := by
    rcases List.mem_append.1 hconnection with hold | hnew
    · exact h.lost connection hold
    · rw [List.mem_singleton.1 hnew]
      exact hsound
  received := Nat.le_refl 0
  commits batch hbatch := absurd hbatch List.not_mem_nil

theorem Kept.offline (h : s.Kept) (hsound : s.history.Sound s.writeStream.connection) :
    s.offline.Kept := by
  refine ⟨h.books, h.honest, fun connection hconnection => ?_, ?_, ?_⟩
  · rcases List.mem_append.1 hconnection with hold | hnew
    · exact h.lost connection hold
    · split at hnew
      · rw [List.mem_singleton.1 hnew]
        exact hsound
      · exact absurd hnew List.not_mem_nil
  · show s.writeStream.stopped.connection.committed ≤ s.writeStream.stopped.connection.requests.length
    unfold WriteStream.stopped
    split
    · exact Nat.le_refl 0
    · exact h.received
  · show ∀ batch ∈ s.writeStream.stopped.connection.requests.take
      s.writeStream.stopped.connection.committed, batch.write ∈ s.history.serverLog
    unfold WriteStream.stopped
    split
    · exact fun batch hbatch => absurd hbatch List.not_mem_nil
    · exact h.commits

/-- A client between two events. -/
structure Good (s : WritingClient υ) : Prop where
  running : s.Running
  kept : s.Kept

/-! ## What each event does -/

/-- Filling the pipeline of a client that keeps its books. -/
theorem good_filled (hlined : s.Lined) (hkept : s.Kept)
    (hhandshake : s.writeStream.handshakeComplete = true → s.writeStream.isOpen = true) :
    s.filled.Good :=
  ⟨hlined.running hhandshake, hkept.filled hlined⟩

theorem writeLocally_eq (h : s.Good) : s.writeLocally = { s with
    mutationQueue := (s.mutationQueue.addMutationBatch s.history.written.length).1
    mutationCallbacks := s.mutationCallbacks ++
      [(s.mutationQueue.userId, s.mutationQueue.nextBatchId, s.history.written.length)]
    history := s.history.write s.mutationQueue.userId } := by
  have htaken := h.kept.books.not_taken h.running.ordered s.currentUser
  simp only [writeLocally, LevelDbMutationQueue.addMutationBatch, htaken, h.running.user,
    Bool.false_eq_true, if_false]

theorem play_write (h : s.Good) : ∃ t, s.play .write = .ok t ∧ t.Good := by
  have hlined : s.writeLocally.Lined := by
    rw [writeLocally_eq h]
    refine { h.running.toLined with
      ordered := h.running.ordered.addMutationBatch _, isPrefix := ?_ }
    show s.writePipeline <+:
      (s.mutationQueue.addMutationBatch s.history.written.length).1.batchesOf s.currentUser
    rw [s.mutationQueue.batchesOf_addMutationBatch]
    exact h.running.isPrefix.trans (List.prefix_append _ _)
  have hkept : s.writeLocally.Kept := by
    rw [writeLocally_eq h]
    have hlater := s.history.extends_write s.mutationQueue.userId
    exact ⟨h.kept.books.write, h.kept.honest.write _,
      fun connection hconnection => (h.kept.lost connection hconnection).mono hlater,
      h.kept.received, fun batch hbatch => hlater.serverLog (h.kept.commits batch hbatch)⟩
  exact ⟨_, fillWritePipeline_eq hlined, good_filled hlined hkept h.running.handshake⟩

theorem play_enableNetwork (h : s.Good) : ∃ t, s.play .enableNetwork = .ok t ∧ t.Good := by
  have hlined : Lined { s with isNetworkEnabled := true } :=
    { h.running.toLined with
      disabled := fun hdisabled => Bool.noConfusion hdisabled
      stopped := fun hdisabled => Bool.noConfusion hdisabled }
  have hkept : Kept { s with isNetworkEnabled := true } := { h.kept with }
  exact ⟨_, fillWritePipeline_eq hlined, good_filled hlined hkept h.running.handshake⟩

/-- The connection of a client between two events is in order. -/
theorem Good.sound (h : s.Good) : s.history.Sound s.writeStream.connection :=
  h.kept.sound h.running.requests_prefix

theorem play_disableNetwork (h : s.Good) : ∃ t, s.play .disableNetwork = .ok t ∧ t.Good := by
  have hlined := offline_lined h.running.user h.running.ordered h.running.quiet
  have hgood : s.offline.filled.Good := by
    refine good_filled hlined (h.kept.offline h.sound) fun hcomplete => ?_
    have hcomplete' := h.running.quiet.stopped.2.2
    exact absurd (hcomplete'.symm.trans hcomplete) (by decide)
  rw [filled_of_disabled (s := s.offline) rfl] at hgood
  exact ⟨_, disableNetwork_eq, hgood⟩

/-- Restarting the network works for any user, as long as the connection that is given up was in
order. -/
theorem restartNetwork_good (huser : s.mutationQueue.userId = s.currentUser)
    (hordered : s.mutationQueue.Ordered) (hquiet : s.writeStream.Quiet) (hkept : s.Kept)
    (hsound : s.history.Sound s.writeStream.connection) :
    ∃ t, s.restartNetwork = .ok t ∧ t.Good := by
  have hreset : s.reset.Kept := { hkept.offline hsound with }
  refine ⟨_, restartNetwork_eq huser hordered hquiet,
    good_filled (reset_lined huser hordered hquiet) hreset fun hcomplete => ?_⟩
  exact absurd (hquiet.stopped.2.2.symm.trans hcomplete) (by decide)

theorem play_restartNetwork (h : s.Good) : ∃ t, s.play .restartNetwork = .ok t ∧ t.Good := by
  show ∃ t, (if s.isNetworkEnabled then s.restartNetwork else pure s) = .ok t ∧ t.Good
  by_cases henabled : s.isNetworkEnabled = true
  · rw [if_pos henabled]
    exact restartNetwork_good h.running.user h.running.ordered h.running.quiet h.kept h.sound
  · rw [if_neg henabled]
    exact ⟨s, rfl, h⟩

/-- A new user finds his own queue, and the connection of the old one is given up. -/
theorem play_credentialChange (h : s.Good) (user : υ) :
    ∃ t, s.play (.credentialChange user) = .ok t ∧ t.Good := by
  show ∃ t, (if s.currentUser ≠ user then s.handleUserChange user else s).play .restartNetwork =
    .ok t ∧ t.Good
  by_cases hchanged : s.currentUser = user
  · rw [if_neg fun hne => hne hchanged]
    exact play_restartNetwork h
  · rw [if_pos hchanged]
    have hordered := h.running.ordered.start user
    have hkept : (s.handleUserChange user).Kept :=
      { h.kept with books := ⟨h.kept.books.callbacks, h.kept.books.ledger, h.kept.books.known⟩ }
    show ∃ t, (if s.isNetworkEnabled then (s.handleUserChange user).restartNetwork
      else pure (s.handleUserChange user)) = .ok t ∧ t.Good
    by_cases henabled : s.isNetworkEnabled = true
    · rw [if_pos henabled]
      exact restartNetwork_good rfl hordered h.running.quiet hkept h.sound
    · -- without network the pipeline is empty and the stream stopped
      have hdisabled := Bool.eq_false_iff.2 henabled
      have hnil := h.running.disabled hdisabled
      have hstopped := h.running.stopped hdisabled
      have hquiet := h.running.quiet hstopped
      have hgood := good_filled (s := s.handleUserChange user)
        (lined_of_stopped rfl hordered hnil hstopped hquiet.1 hquiet.2.1) hkept h.running.handshake
      rw [filled_of_disabled (s := s.handleUserChange user) hdisabled] at hgood
      rw [if_neg henabled]
      exact ⟨_, rfl, hgood⟩

/-! ## The stream comes up -/

/-- Changing the state of a started stream. -/
theorem Running.withStream (h : s.Running) {stream : WriteStream}
    (hold : s.writeStream.isStarted = true) (hnew : stream.isStarted = true)
    (hrequests : stream.connection.requests = if stream.isReady then s.writePipeline else [])
    (hidle : stream.idlenessTimer = true ↔ stream.isReady = true ∧ s.writePipeline = [])
    (hawaiting : stream.isReady = false → s.writePipeline ≠ [])
    (hhandshake : stream.handshakeComplete = true → stream.isOpen = true) :
    (s.withStream stream).Running where
  toLined := { h.toLined with
    stopped := fun hdisabled =>
      absurd ((h.stopped hdisabled).symm.trans hold) Bool.false_ne_true
    requests := hrequests
    idle := hidle.1
    awaiting := fun _ hready => hawaiting hready }
  full := h.full
  started _ _ := hnew
  handshake := hhandshake
  timer hready hnil := hidle.2 ⟨hready, hnil⟩

/-- Before the handshake nothing has been sent, and the timer does not run. -/
theorem Running.before_handshake (h : s.Running) (hready : s.writeStream.isReady = false) :
    s.writeStream.connection.requests = [] ∧ s.writeStream.idlenessTimer = false := by
  constructor
  · rw [h.requests, hready]
    rfl
  · rw [← Bool.not_eq_true]
    exact fun hidle => Bool.false_ne_true (hready.symm.trans (h.idle hidle).1)

/-- A stream that is not open yet has had no handshake. -/
theorem Running.handshake_eq_false (h : s.Running) (hopen : s.writeStream.isOpen = false) :
    s.writeStream.handshakeComplete = false := by
  rw [← Bool.not_eq_true]
  exact fun hcomplete => Bool.false_ne_true (hopen.symm.trans (h.handshake hcomplete))

theorem streamOpen_eq (h : s.Good) (hstate : s.writeStream.state = .starting) :
    s.play .streamOpen =
      .ok (s.withStream { s.writeStream with state := .open, idlenessTimer := false }) := by
  have hopen : s.writeStream.isOpen = false := by simp [WriteStream.isOpen, hstate]
  simp [play, WriteStream.writeHandshake, WriteStream.isOpen, h.running.handshake_eq_false hopen,
    bind, Except.bind, pure, Except.pure]

theorem play_streamOpen (h : s.Good) (hpossible : s.Possible .streamOpen) :
    ∃ t, s.play .streamOpen = .ok t ∧ t.Good := by
  have hstate : s.writeStream.state = .starting := hpossible
  have hstarted : s.writeStream.isStarted = true := by simp [WriteStream.isStarted, hstate]
  have hopen : s.writeStream.isOpen = false := by simp [WriteStream.isOpen, hstate]
  have hready := WriteStream.isReady_eq_false hopen
  have hready' : { s.writeStream with state := .open, idlenessTimer := false }.isReady = false := by
    simp [WriteStream.isReady, h.running.handshake_eq_false hopen]
  refine ⟨_, streamOpen_eq h hstate,
    h.running.withStream hstarted rfl ?_ ?_ ?_ fun _ => rfl, { h.kept with }⟩
  · rw [hready']
    exact (h.running.before_handshake hready).1
  · rw [hready']
    simp
  · exact fun _ => h.running.awaiting hstarted hready

/-- After the handshake the whole pipeline is sent. -/
theorem handshakeResponse_eq (h : s.Good) (hopen : s.writeStream.isOpen = true)
    (hcomplete : s.writeStream.handshakeComplete = false) :
    s.play .handshakeResponse = .ok (s.withStream { s.writeStream with
      handshakeComplete := true
      connection := ⟨s.writePipeline, s.writeStream.connection.committed⟩
      idlenessTimer := false }) := by
  have hready : s.writeStream.isReady = false := by simp [WriteStream.isReady, hcomplete]
  rcases h.running.before_handshake hready with ⟨hrequests, hidle⟩
  have hready' : { s.writeStream with handshakeComplete := true }.isReady = true := by
    rw [WriteStream.isReady]
    exact Bool.and_eq_true_iff.2 ⟨hopen, rfl⟩
  rw [play, WriteStream.foldlM_writeMutations hready']
  simp only [hrequests, hidle, List.nil_append, Bool.false_and]
  rfl

theorem play_handshakeResponse (h : s.Good) (hpossible : s.Possible .handshakeResponse) :
    ∃ t, s.play .handshakeResponse = .ok t ∧ t.Good := by
  rcases hpossible with ⟨hopen, hcomplete⟩
  have hstarted : s.writeStream.isStarted = true := by simp [WriteStream.isStarted, hopen]
  have hready : s.writeStream.isReady = false := by simp [WriteStream.isReady, hcomplete]
  have hne := h.running.awaiting hstarted hready
  have hready' : { s.writeStream with handshakeComplete := true }.isReady = true := by
    rw [WriteStream.isReady]
    exact Bool.and_eq_true_iff.2 ⟨hopen, rfl⟩
  have hcommitted : s.writeStream.connection.committed = 0 := by
    have hreceived := h.kept.received
    rw [(h.running.before_handshake hready).1] at hreceived
    exact Nat.le_zero.1 hreceived
  refine ⟨_, handshakeResponse_eq h hopen hcomplete,
    h.running.withStream hstarted hstarted ?_ ?_ ?_ fun _ => hopen, ?_⟩
  · exact (if_pos hready').symm
  · exact ⟨fun hfalse => absurd hfalse Bool.false_ne_true, fun hempty => absurd hempty.2 hne⟩
  · exact fun hnot => absurd (hready'.symm.trans hnot) (by decide)
  · refine { h.kept with received := ?_, commits := ?_ }
    · show s.writeStream.connection.committed ≤ s.writePipeline.length
      omega
    · show ∀ batch ∈ s.writePipeline.take s.writeStream.connection.committed, _
      rw [hcommitted]
      exact fun batch hbatch => absurd hbatch List.not_mem_nil

theorem play_backoffElapsed (h : s.Good) (hpossible : s.Possible .backoffElapsed) :
    ∃ t, s.play .backoffElapsed = .ok t ∧ t.Good := by
  have hstate : s.writeStream.state = .backoff := hpossible
  have hstarted : s.writeStream.isStarted = true := by simp [WriteStream.isStarted, hstate]
  have hopen : s.writeStream.isOpen = false := by simp [WriteStream.isOpen, hstate]
  have hready := WriteStream.isReady_eq_false hopen
  rcases h.running.before_handshake hready with ⟨hrequests, hidle⟩
  have hcomplete := h.running.handshake_eq_false hopen
  refine ⟨s.withStream { s.writeStream with state := .starting }, rfl,
    h.running.withStream hstarted rfl hrequests ?_ ?_ ?_, { h.kept with }⟩
  · exact ⟨fun htimer => absurd (hidle.symm.trans htimer) Bool.false_ne_true,
      fun hempty => absurd hempty.1 Bool.false_ne_true⟩
  · exact fun _ => h.running.awaiting hstarted hready
  · exact fun htrue => absurd (hcomplete.symm.trans htrue) Bool.false_ne_true

/-! ## The server commits -/

theorem play_commit (h : s.Good) (hpossible : s.Possible .commit) :
    ∃ t, s.play .commit = .ok t ∧ t.Good := by
  rcases h.sound.commitNext h.kept.honest hpossible with ⟨hhonest, hsound⟩
  have hlater := s.history.extends_commit s.writeStream.connection.next?
  refine ⟨_, rfl, ⟨{ h.running.toLined with }, h.running.full, h.running.started,
    h.running.handshake, h.running.timer⟩, ?_⟩
  refine ⟨⟨h.kept.books.callbacks, h.kept.books.ledger, h.kept.books.known⟩, hhonest,
    fun connection hconnection => (h.kept.lost connection hconnection).mono hlater, ?_,
    hsound.commits⟩
  rcases Option.isSome_iff_exists.1 hpossible with ⟨n, hn⟩
  rcases Option.map_eq_some_iff.1 hn with ⟨batch, hbatch, _⟩
  exact (List.getElem?_eq_some_iff.1 hbatch).1

theorem play_lateCommit (h : s.Good) {k : Nat} (hpossible : s.Possible (.lateCommit k)) :
    ∃ t, s.play (.lateCommit k) = .ok t ∧ t.Good := by
  rcases Option.isSome_iff_exists.1 hpossible with ⟨n, hn⟩
  rcases Option.bind_eq_some_iff.1 hn with ⟨connection, hconnection, hnext⟩
  have hold := h.kept.lost connection (List.mem_of_getElem? hconnection)
  rcases hold.commitNext h.kept.honest (hnext ▸ rfl) with ⟨hhonest, hsound⟩
  have hlater := s.history.extends_commit connection.next?
  have hplay : s.play (.lateCommit k) = .ok { s with
      givenUp := s.givenUp.set k connection.commitNext
      history := s.history.commit connection.next? } := by
    rw [play, hconnection]
    rfl
  refine ⟨_, hplay, ⟨{ h.running.toLined with }, h.running.full, h.running.started,
    h.running.handshake, h.running.timer⟩, ?_⟩
  refine ⟨⟨h.kept.books.callbacks, h.kept.books.ledger, h.kept.books.known⟩, hhonest,
    fun other hother => ?_, h.kept.received,
    fun batch hbatch => hlater.serverLog (h.kept.commits batch hbatch)⟩
  rcases List.mem_or_eq_of_mem_set hother with hmem | rfl
  · exact (h.kept.lost other hmem).mono hlater
  · exact hsound

/-! ## The first write of the pipeline is answered -/

/-- The client when the first write of its pipeline has been answered. -/
def settled (s : WritingClient υ) (batch : MutationBatch) (rest : List MutationBatch)
    (success : Bool) : WritingClient υ :=
  { s with
    writePipeline := rest
    mutationQueue := s.mutationQueue.without batch.batchId
    mutationCallbacks := s.mutationCallbacks.filter fun callback =>
      ¬ (callback.1 = s.currentUser ∧ callback.2.1 = batch.batchId)
    history := s.history.tell batch.write success }

/-- `batch` is the first one of the queue of the current user, and `rest` comes after it. -/
structure Front (s : WritingClient υ) (batch : MutationBatch) (rest : List MutationBatch) : Prop where
  user : s.mutationQueue.userId = s.currentUser
  ordered : s.mutationQueue.Ordered
  queue : ∃ later, s.mutationQueue.batchesOf s.currentUser = batch :: (rest ++ later)

theorem Lined.front (h : s.Lined) {batch : MutationBatch} {rest : List MutationBatch}
    (hpipeline : s.writePipeline = batch :: rest) : s.Front batch rest := by
  rcases h.isPrefix with ⟨later, hqueue⟩
  exact ⟨h.user, h.ordered, later, by rw [← hqueue, hpipeline, List.cons_append]⟩

section

variable {batch : MutationBatch} {rest : List MutationBatch}

theorem Front.mem (h : s.Front batch rest) : batch ∈ s.mutationQueue.batchesOf s.currentUser := by
  rcases h.queue with ⟨later, hqueue⟩
  rw [hqueue]
  exact List.mem_cons_self

/-- The completion of a queued write is called. -/
theorem Front.notifyUser_eq (h : s.Front batch rest)
    (hbooks : Books s.mutationQueue s.mutationCallbacks s.history)
    (queue : LevelDbMutationQueue υ) (success : Bool) :
    notifyUser { s with writePipeline := rest, mutationQueue := queue } batch.batchId success =
      { s.settled batch rest success with mutationQueue := queue } := by
  rcases List.mem_map.1 h.mem with ⟨row, hrow, rfl⟩
  rcases List.mem_filter.1 hrow with ⟨hrow, huser⟩
  have hfound := hbooks.find?_callback h.ordered hrow
  rw [of_decide_eq_true huser] at hfound
  simp only [notifyUser, hfound, callbackOf]
  rfl

/-- A queued batch can be removed. -/
theorem Front.removeMutationBatch_eq (h : s.Front batch rest) :
    (s.mutationQueue.lookupMutationBatch batch.batchId).isSome = true ∧
      s.mutationQueue.removeMutationBatch batch.batchId =
        .ok (s.mutationQueue.without batch.batchId) := by
  have hlookup : (s.mutationQueue.lookupMutationBatch batch.batchId).isSome = true := by
    rw [LevelDbMutationQueue.lookupMutationBatch, h.user, List.find?_isSome]
    exact ⟨batch, h.mem, decide_eq_true rfl⟩
  exact ⟨hlookup, by rw [LevelDbMutationQueue.removeMutationBatch, if_pos hlookup]⟩

theorem Front.handleSuccessfulWrite_eq (h : s.Front batch rest)
    (hbooks : Books s.mutationQueue s.mutationCallbacks s.history) :
    handleSuccessfulWrite { s with writePipeline := rest } batch =
      .ok (s.settled batch rest true) := by
  have hnotify := h.notifyUser_eq hbooks s.mutationQueue true
  rw [handleSuccessfulWrite]
  simp only [hnotify, h.removeMutationBatch_eq.2]
  rfl

theorem Front.handleRejectedWrite_eq (h : s.Front batch rest)
    (hbooks : Books s.mutationQueue s.mutationCallbacks s.history) :
    handleRejectedWrite { s with writePipeline := rest } batch.batchId =
      .ok (s.settled batch rest false) := by
  rcases h.removeMutationBatch_eq with ⟨hlookup, hremove⟩
  have hfound : (s.mutationQueue.lookupMutationBatch batch.batchId).isNone = false := by
    rw [← Option.not_isSome, hlookup]
    rfl
  have hnotify := h.notifyUser_eq hbooks (s.mutationQueue.without batch.batchId) false
  rw [handleRejectedWrite]
  simp only [hfound, Bool.false_eq_true, if_false, hremove]
  exact congrArg Except.ok hnotify

/-- What is left of the pipeline is the beginning of what is left of the queue. -/
theorem Front.settled_lined (h : s.Front batch rest) (success : Bool)
    (hshort : rest.length ≤ maxPendingWrites) (henabled : s.isNetworkEnabled = true)
    (hrequests : s.writeStream.connection.requests = if s.writeStream.isReady then rest else [])
    (hidle : s.writeStream.idlenessTimer = false)
    (hready : s.writeStream.isStarted = true → s.writeStream.isReady = true) :
    (s.settled batch rest success).Lined where
  user := h.user
  ordered := h.ordered.without batch.batchId
  isPrefix := by
    rcases h.queue with ⟨later, hqueue⟩
    have hleft := h.ordered.batchesOf_without_head (h.user ▸ hqueue)
    rw [h.user] at hleft
    show rest <+: (s.mutationQueue.without batch.batchId).batchesOf s.currentUser
    rw [hleft]
    exact List.prefix_append _ _
  short := hshort
  disabled hdisabled := absurd (henabled.symm.trans hdisabled) (by decide)
  stopped hdisabled := absurd (henabled.symm.trans hdisabled) (by decide)
  requests := hrequests
  idle htimer := absurd (hidle.symm.trans htimer) Bool.false_ne_true
  awaiting hstarted hnot := absurd (hnot.symm.trans (hready hstarted)) Bool.false_ne_true

theorem Front.settled_kept (h : s.Front batch rest) (hkept : s.Kept) {success : Bool}
    (hsuccess : success = true → batch.write ∈ s.history.serverLog) :
    (s.settled batch rest success).Kept := by
  have hlater := s.history.extends_tell batch.write success
  refine ⟨?_, hkept.honest.tell hsuccess,
    fun connection hconnection => (hkept.lost connection hconnection).mono hlater, hkept.received,
    hkept.commits⟩
  rcases h.queue with ⟨later, hqueue⟩
  have hbooks := hkept.books.settle h.ordered (h.user ▸ hqueue) success
  rw [h.user] at hbooks
  exact hbooks

end

/-- A connection with a committed request is that of a ready stream. -/
theorem Good.ready_of_committed (h : s.Good) (hpositive : 0 < s.writeStream.connection.committed) :
    s.writeStream.isReady = true ∧ s.writeStream.connection.requests = s.writePipeline ∧
      ∃ batch rest, s.writePipeline = batch :: rest := by
  have hreceived := h.kept.received
  have hready : s.writeStream.isReady = true := by
    by_contra hnot
    rw [(h.running.before_handshake (Bool.eq_false_iff.2 hnot)).1] at hreceived
    exact absurd (Nat.lt_of_lt_of_le hpositive hreceived) (Nat.lt_irrefl 0)
  have hrequests := h.running.requests
  rw [if_pos hready] at hrequests
  refine ⟨hready, hrequests, List.exists_cons_of_ne_nil fun hnil => ?_⟩
  rw [hrequests, hnil] at hreceived
  exact absurd (Nat.lt_of_lt_of_le hpositive hreceived) (Nat.lt_irrefl 0)

/-- The client when the response to the first request has been read. -/
def answered (s : WritingClient υ) : WritingClient υ :=
  s.withStream { s.writeStream with connection := s.writeStream.connection.answered }

/-- The response belongs to the first batch of the pipeline, which the server has committed. -/
theorem mutationResult_eq (h : s.Good) {batch : MutationBatch} {rest : List MutationBatch}
    (hpositive : 0 < s.writeStream.connection.committed)
    (hpipeline : s.writePipeline = batch :: rest) :
    s.play .mutationResult = .ok (s.answered.settled batch rest true).filled ∧
      (s.answered.settled batch rest true).filled.Good := by
  rcases h.ready_of_committed hpositive with ⟨hready, hrequests, _⟩
  rw [hpipeline] at hrequests
  have hfront : s.answered.Front batch rest := { h.running.front hpipeline with }
  have hanswered : s.writeStream.connection.answered =
      ⟨rest, s.writeStream.connection.committed - 1⟩ := by
    rw [Connection.answered, hrequests, List.tail_cons]
  -- the first request is committed, and so are those after it up to the mark
  have htake : (batch :: rest).take s.writeStream.connection.committed =
      batch :: rest.take (s.writeStream.connection.committed - 1) := by
    rw [← Nat.sub_add_cancel hpositive, List.take_succ_cons]
    rfl
  have hcommits := h.kept.commits
  rw [hrequests, htake] at hcommits
  have hreceived := h.kept.received
  rw [hrequests, List.length_cons] at hreceived
  have hkept : s.answered.Kept := by
    refine { h.kept with received := ?_, commits := ?_ }
    · show s.writeStream.connection.answered.committed ≤
        s.writeStream.connection.answered.requests.length
      rw [hanswered]
      show s.writeStream.connection.committed - 1 ≤ rest.length
      omega
    · show ∀ batch ∈ s.writeStream.connection.answered.requests.take
        s.writeStream.connection.answered.committed, batch.write ∈ s.history.serverLog
      rw [hanswered]
      exact fun other hother => hcommits other (List.mem_cons_of_mem _ hother)
  have henabled : s.isNetworkEnabled = true := by
    by_contra hdisabled
    have hnil := h.running.disabled (Bool.eq_false_iff.2 hdisabled)
    exact absurd (hpipeline.symm.trans hnil) (List.cons_ne_nil _ _)
  have hlined : (s.answered.settled batch rest true).Lined := by
    have hshort := h.running.short
    rw [hpipeline, List.length_cons] at hshort
    refine hfront.settled_lined true (Nat.le_of_succ_le hshort) henabled ?_ ?_ fun _ => hready
    · show s.writeStream.connection.answered.requests = if s.writeStream.isReady then rest else []
      rw [hanswered, if_pos hready]
    · show s.writeStream.idlenessTimer = false
      rw [← Bool.not_eq_true]
      exact fun hidle => absurd (hpipeline.symm.trans (h.running.idle hidle).2)
        (List.cons_ne_nil _ _)
  have hdone : (s.answered.settled batch rest true).Kept :=
    hfront.settled_kept hkept fun _ => hcommits batch List.mem_cons_self
  refine ⟨?_, good_filled hlined hdone h.running.handshake⟩
  show onWriteStreamMutationResult s.answered = _
  have hpipeline' : s.answered.writePipeline = batch :: rest := hpipeline
  rw [onWriteStreamMutationResult]
  simp only [hpipeline', hfront.handleSuccessfulWrite_eq hkept.books]
  exact fillWritePipeline_eq hlined

theorem play_mutationResult (h : s.Good) (hpossible : s.Possible .mutationResult) :
    ∃ t, s.play .mutationResult = .ok t ∧ t.Good := by
  rcases h.ready_of_committed hpossible with ⟨_, _, batch, rest, hpipeline⟩
  exact ⟨_, mutationResult_eq h hpossible hpipeline⟩

/-! ## The stream ends -/

theorem Good.giveUp_kept (h : s.Good) (gracefulStop : Bool) : (s.giveUp gracefulStop).Kept :=
  h.kept.giveUp h.sound gracefulStop

/-- A stream that is not needed may stop at any time. -/
theorem closeStream_ok_good (h : s.Good) (hstarted : s.writeStream.isStarted = true)
    (hnil : s.writePipeline = []) : ∃ t, s.closeStream .ok = .ok t ∧ t.Good := by
  have hopen : (s.giveUp true).resetHandshake.writeStream.isOpen = false := rfl
  have hlined : (s.giveUp true).resetHandshake.Lined :=
    (h.running.giveUp true).resetHandshake rfl
  refine ⟨_, closeStream_ok hstarted (.inr hnil), ⟨hlined, h.running.full, ?_, ?_, ?_⟩,
    { h.giveUp_kept true with }⟩
  · exact fun _ hne => absurd hnil hne
  · exact fun hcomplete => Bool.noConfusion hcomplete
  · exact fun hready => absurd ((WriteStream.isReady_eq_false hopen).symm.trans hready)
      Bool.false_ne_true

theorem play_idleTimeout (h : s.Good) (hpossible : s.Possible .idleTimeout) :
    ∃ t, s.play .idleTimeout = .ok t ∧ t.Good := by
  rcases h.running.idle hpossible with ⟨hready, hnil⟩
  exact closeStream_ok_good h (WriteStream.isStarted_of_isReady hready) hnil

/-- An error that blames no write only has the stream started again. -/
theorem closeStream_error_good (h : s.Good) {status : StreamStatus}
    (hstarted : s.writeStream.isStarted = true) (hstatus : status ≠ .ok)
    (hblameless : s.writeStream.handshakeComplete = true →
      status = .transient ∨ s.writePipeline = []) :
    ∃ t, s.closeStream status = .ok t ∧ t.Good := by
  have hopen : (s.giveUp false).writeStream.isOpen = false := WriteStream.isOpen_closed false
  have hhandled : (if s.writeStream.handshakeComplete then (s.giveUp false).handleWriteError status
      else pure (s.giveUp false)) = Except.ok (s.giveUp false) := by
    split
    · rename_i hcomplete
      rcases hblameless hcomplete with rfl | hnil
      · rfl
      · have hnil' : (s.giveUp false).writePipeline = [] := hnil
        cases status with
        | ok => rfl
        | transient => rfl
        | permanent =>
            simp only [handleWriteError, hnil']
            rfl
    · rfl
  refine ⟨_, closeStream_error hstarted hstatus hhandled, ?_⟩
  rw [h.running.reopened]
  exact good_filled ((h.running.giveUp false).resetHandshake hopen) { h.giveUp_kept false with }
    fun hcomplete => Bool.noConfusion hcomplete

/-- The client when the error of its stream is known to be that of a write. -/
def blamed (s : WritingClient υ) : WritingClient υ :=
  (s.giveUp false).withStream { s.writeStream.closed false with state := .initial }

/-- A permanent error belongs to the first batch of the pipeline: it is rejected, and the stream is
started for the others. -/
theorem closeStream_permanent_good (h : s.Good) {batch : MutationBatch} {rest : List MutationBatch}
    (hstarted : s.writeStream.isStarted = true) (hcomplete : s.writeStream.handshakeComplete = true)
    (hpipeline : s.writePipeline = batch :: rest) :
    ∃ t, s.closeStream .permanent = .ok t ∧ t.Good := by
  have hfront : s.blamed.Front batch rest := { h.running.front hpipeline with }
  have hkept : s.blamed.Kept := { h.giveUp_kept false with }
  have henabled : s.isNetworkEnabled = true := by
    by_contra hdisabled
    have hnil := h.running.disabled (Bool.eq_false_iff.2 hdisabled)
    exact absurd (hpipeline.symm.trans hnil) (List.cons_ne_nil _ _)
  have hlined : (s.blamed.settled batch rest false).Lined := by
    have hshort := h.running.short
    rw [hpipeline, List.length_cons] at hshort
    exact hfront.settled_lined false (Nat.le_of_succ_le hshort) henabled rfl rfl
      fun hnot => Bool.noConfusion hnot
  have hhandled : (if s.writeStream.handshakeComplete then
      (s.giveUp false).handleWriteError .permanent else pure (s.giveUp false)) =
        Except.ok (s.blamed.settled batch rest false).filled := by
    have hpipeline' : (s.giveUp false).writePipeline = batch :: rest := hpipeline
    rw [if_pos hcomplete]
    simp only [handleWriteError, hpipeline']
    show (do
      let handled ← handleRejectedWrite { s.blamed with writePipeline := rest } batch.batchId
      handled.fillWritePipeline) = _
    rw [hfront.handleRejectedWrite_eq hkept.books]
    exact fillWritePipeline_eq hlined
  refine ⟨_, closeStream_error hstarted (by decide) hhandled, ?_⟩
  have hdone : (s.blamed.settled batch rest false).filled.started =
      (s.blamed.settled batch rest false).filled :=
    started_eq_self fun _ hne => started_filled henabled hne
  rw [hdone, filled_resetHandshake rfl]
  refine good_filled (hlined.resetHandshake rfl) ?_ fun hfalse => Bool.noConfusion hfalse
  exact { hfront.settled_kept hkept fun hfalse => Bool.noConfusion hfalse with }

theorem play_streamFinish (h : s.Good) {status : StreamStatus}
    (hpossible : s.Possible (.streamFinish status)) (hneeded : status = .ok → s.writePipeline = []) :
    ∃ t, s.play (.streamFinish status) = .ok t ∧ t.Good := by
  have hstarted : s.writeStream.isStarted = true := by
    rcases hpossible with hstate | hstate <;> simp [WriteStream.isStarted, WriteStream.isOpen, hstate]
  show ∃ t, s.closeStream status = .ok t ∧ t.Good
  cases status with
  | ok => exact closeStream_ok_good h hstarted (hneeded rfl)
  | transient => exact closeStream_error_good h hstarted (by decide) fun _ => .inl rfl
  | permanent =>
      by_cases hcomplete : s.writeStream.handshakeComplete = true
      · cases hpipeline : s.writePipeline with
        | nil => exact closeStream_error_good h hstarted (by decide) fun _ => .inr hpipeline
        | cons batch rest => exact closeStream_permanent_good h hstarted hcomplete hpipeline
      · exact closeStream_error_good h hstarted (by decide) fun htrue => absurd htrue hcomplete

/-! ## Runs -/

theorem init_good (user : υ) : (init user).Good where
  running :=
    { lined_of_stopped rfl ⟨List.Pairwise.nil, fun _ h => absurd h List.not_mem_nil, Int.one_pos⟩
        rfl rfl rfl rfl with
      full := fun henabled => Bool.noConfusion henabled
      started := fun henabled => Bool.noConfusion henabled
      handshake := fun hcomplete => Bool.noConfusion hcomplete
      timer := fun hready => Bool.noConfusion hready }
  kept :=
    { books := ⟨rfl, fun _ => rfl, fun _ h => absurd h List.not_mem_nil⟩
      honest := ⟨fun _ h => absurd h List.not_mem_nil, fun _ h => absurd h List.not_mem_nil,
        fun _ _ h => absurd h List.not_mem_nil⟩
      lost := fun _ h => absurd h List.not_mem_nil
      received := Nat.le_refl 0
      commits := fun _ h => absurd h List.not_mem_nil }

/-- No assertion fails, as long as no connection ends gracefully that is needed. -/
theorem play_good (h : s.Good) {event : Event υ} (hpossible : s.Possible event)
    (hneeded : event = .streamFinish .ok → s.writePipeline = []) :
    ∃ t, s.play event = .ok t ∧ t.Good := by
  cases event with
  | write => exact play_write h
  | enableNetwork => exact play_enableNetwork h
  | disableNetwork => exact play_disableNetwork h
  | restartNetwork => exact play_restartNetwork h
  | credentialChange user => exact play_credentialChange h user
  | streamOpen => exact play_streamOpen h hpossible
  | handshakeResponse => exact play_handshakeResponse h hpossible
  | commit => exact play_commit h hpossible
  | lateCommit k => exact play_lateCommit h hpossible
  | mutationResult => exact play_mutationResult h hpossible
  | backoffElapsed => exact play_backoffElapsed h hpossible
  | idleTimeout => exact play_idleTimeout h hpossible
  | streamFinish status =>
      exact play_streamFinish h hpossible fun hstatus => hneeded (congrArg _ hstatus)

/-- The one assertion that can fail. -/
theorem play_streamFinish_ok (h : s.Good) (hpossible : s.Possible (.streamFinish .ok))
    (hne : s.writePipeline ≠ []) : s.play (.streamFinish .ok) =
      .error "Write stream was stopped gracefully while still needed." := by
  have hstarted : s.writeStream.isStarted = true := by
    rcases hpossible with hstate | hstate <;> simp [WriteStream.isStarted, WriteStream.isOpen, hstate]
  refine closeStream_ok_error hstarted ?_ hne
  by_contra hdisabled
  exact hne (h.running.disabled (Bool.eq_false_iff.2 hdisabled))

theorem step_eq_some {event : Event υ} {t : WritingClient υ} :
    s.step event = some t ↔ s.Possible event ∧ s.play event = .ok t := by
  rw [step]
  by_cases hpossible : s.Possible event
  · rw [if_pos hpossible]
    cases hplay : s.play event with
    | ok next => simp [hpossible]
    | error text => simp
  · simp [hpossible]

theorem step_good {event : Event υ} {t : WritingClient υ} (h : s.Good)
    (hstep : s.step event = some t) : t.Good := by
  rcases step_eq_some.1 hstep with ⟨hpossible, hplay⟩
  have hneeded : event = .streamFinish .ok → s.writePipeline = [] := by
    rintro rfl
    by_contra hne
    rw [play_streamFinish_ok h hpossible hne] at hplay
    cases hplay
  rcases play_good h hpossible hneeded with ⟨t', ht', hgood⟩
  rw [hplay] at ht'
  exact Except.ok.inj ht' ▸ hgood

theorem run_good {user : υ} {events : List (Event υ)} {t : WritingClient υ}
    (h : Transition.run step (init user) events = some t) : t.Good :=
  Transition.run_invariant step_good (init_good user) h

/-- No completion is called twice. -/
theorem Kept.nodup_told (h : s.Kept) : (s.history.told.map Prod.fst).Nodup := by
  refine List.nodup_iff_count_le_one.2 fun n => ?_
  by_cases hn : n ∈ s.history.told.map Prod.fst
  · rcases List.mem_map.1 hn with ⟨answer, hanswer, rfl⟩
    have hknown := h.books.known answer hanswer
    rcases hauthor : s.history.written[answer.1]? with _ | author
    · exact absurd (List.getElem?_eq_none_iff.1 hauthor) (Nat.not_le_of_lt hknown)
    · have hnodup : (s.history.writesOf author).Nodup :=
        (s.history.pairwise_writesOf author).imp fun hlt => Nat.ne_of_lt hlt
      calc (s.history.told.map Prod.fst).count answer.1
          = (s.history.answersOf author).count answer.1 := by
            rw [WriteHistory.answersOf, List.count_filter]
            exact decide_eq_true hauthor
        _ ≤ (s.history.writesOf author).count answer.1 := by
            rw [← h.books.ledger, List.count_append]
            exact Nat.le_add_right _ _
        _ ≤ 1 := List.nodup_iff_count_le_one.1 hnodup _
  · rw [List.count_eq_zero_of_not_mem hn]
    exact Nat.zero_le 1

/-- Over every run of a client that starts with an empty mutation queue (writes that an earlier
session left in it have no completions any more): the completions of a user's writes are called in
the order of his writes, each once, and the writes that wait for theirs are in his queue; who is
told of success has his write committed; and the server commits no write before the earlier ones of
its user have been committed or answered with a failure. -/
theorem run_writes {user : υ} {events : List (Event υ)} {t : WritingClient υ}
    (h : Transition.run step (init user) events = some t) :
    (∀ u, t.history.answersOf u ++ (t.mutationQueue.batchesOf u).map MutationBatch.write =
        t.history.writesOf u) ∧
      (t.history.told.map Prod.fst).Nodup ∧
      (∀ n, (n, true) ∈ t.history.told → n ∈ t.history.serverLog) ∧
      ∀ m n, n ∈ t.history.serverLog → t.history.Before m n → t.history.Done m := by
  have hkept := (run_good h).kept
  exact ⟨hkept.books.ledger, hkept.nodup_told, hkept.honest.succeeded, hkept.honest.inOrder⟩

/-- The first connection breaks when the server has committed the first of two writes; the writes are
sent again, and the user is told of both in order. -/
theorem run_writes_example :
    ∃ s, Transition.run step (init "a") [.enableNetwork, .write, .write, .streamOpen,
        .handshakeResponse, .commit, .streamFinish .transient, .backoffElapsed, .streamOpen,
        .handshakeResponse, .commit, .commit, .mutationResult] = some s ∧
      s.history.serverLog = [0, 0, 1] ∧ s.history.told = [(0, true)] ∧
      s.history.answersOf "a" ++ (s.mutationQueue.batchesOf "a").map MutationBatch.write =
        s.history.writesOf "a" := by
  have hruns : (Transition.run step (init "a") [.enableNetwork, .write, .write, .streamOpen,
      .handshakeResponse, .commit, .streamFinish .transient, .backoffElapsed, .streamOpen,
      .handshakeResponse, .commit, .commit, .mutationResult]).map
        (fun s => (s.history.serverLog, s.history.told)) = some ([0, 0, 1], [(0, true)]) := by
    decide +kernel
  rcases Option.map_eq_some_iff.1 hruns with ⟨s, hs, hpair⟩
  exact ⟨s, hs, congrArg Prod.fst hpair, congrArg Prod.snd hpair, (run_writes hs).1 "a"⟩

/-- A failure does not mean that the write was not committed: the response to the first sending was
lost, and the second sending is rejected. -/
example :
    (Transition.run step (init "a") [.enableNetwork, .write, .streamOpen, .handshakeResponse, .commit,
      .streamFinish .transient, .backoffElapsed, .streamOpen, .handshakeResponse,
      .streamFinish .permanent]).map (fun s => (s.history.serverLog, s.history.told)) =
        some ([0], [(0, false)]) := by
  decide +kernel

/-- Over every run: with network the pipeline is the first ten batches of the queue of the current
user, a stream is up or coming up if there are any, what is under way on it is the pipeline, and of
everything that can happen only a graceful end of a stream that is needed fails an assertion. -/
theorem run_pipeline {user : υ} {events : List (Event υ)} {t : WritingClient υ}
    (h : Transition.run step (init user) events = some t) :
    t.writePipeline = (if t.isNetworkEnabled then
        (t.mutationQueue.batchesOf t.currentUser).take maxPendingWrites else []) ∧
      (t.writePipeline ≠ [] → t.writeStream.isStarted = true) ∧
      t.writeStream.connection.requests =
        (if t.writeStream.isReady then t.writePipeline else []) ∧
      ∀ event, t.Possible event → ((t.step event).isSome = true ↔
        (event = .streamFinish .ok → t.writePipeline = [])) := by
  have hgood := run_good h
  have hrunning := hgood.running
  refine ⟨?_, fun hne => ?_, hrunning.requests, fun event hpossible => ?_⟩
  · split
    · exact hrunning.full ‹_›
    · exact hrunning.disabled (Bool.eq_false_iff.2 ‹_›)
  · refine hrunning.started ?_ hne
    by_contra hdisabled
    exact hne (hrunning.disabled (Bool.eq_false_iff.2 hdisabled))
  · constructor
    · rintro hstep rfl
      rcases Option.isSome_iff_exists.1 hstep with ⟨next, hnext⟩
      by_contra hne
      have hplay := (step_eq_some.1 hnext).2
      rw [play_streamFinish_ok hgood hpossible hne] at hplay
      cases hplay
    · intro hneeded
      rcases play_good hgood hpossible hneeded with ⟨next, hnext, _⟩
      exact Option.isSome_iff_exists.2 ⟨next, step_eq_some.2 ⟨hpossible, hnext⟩⟩

/-- The user changes while two writes are under way, and a write of the new user is sent. -/
theorem run_pipeline_example :
    ∃ s, Transition.run step (init "a") [.write, .write, .enableNetwork, .streamOpen,
        .handshakeResponse, .credentialChange "b", .write, .streamOpen, .handshakeResponse] =
          some s ∧
      s.givenUp.map Connection.requests = [[⟨1, 0⟩, ⟨2, 1⟩]] ∧ s.writePipeline = [⟨3, 2⟩] ∧
      s.writeStream.connection.requests =
        if s.writeStream.isReady then s.writePipeline else [] := by
  have hruns : (Transition.run step (init "a") [.write, .write, .enableNetwork, .streamOpen,
      .handshakeResponse, .credentialChange "b", .write, .streamOpen, .handshakeResponse]).map
        (fun s => (s.givenUp.map Connection.requests, s.writePipeline)) =
          some ([[⟨1, 0⟩, ⟨2, 1⟩]], [⟨3, 2⟩]) := by
    decide +kernel
  rcases Option.map_eq_some_iff.1 hruns with ⟨s, hs, hpair⟩
  exact ⟨s, hs, congrArg Prod.fst hpair, congrArg Prod.snd hpair, (run_pipeline hs).2.2.1⟩

/-! ## A connection that stays up -/

/-- The step of an event whose outcome is known. -/
theorem step_eq {t : WritingClient υ} (h : s.Good) (event : Event υ) (hpossible : s.Possible event)
    (hplay : s.play event = .ok t) : s.step event = some t ∧ t.Good :=
  have hstep := step_eq_some.2 ⟨hpossible, hplay⟩
  ⟨hstep, step_good h hstep⟩

/-- The connection comes up or serves a request; nothing ends it and no one interferes. -/
def Event.KeepsUp : Event υ → Prop
  | .backoffElapsed => True
  | .streamOpen => True
  | .handshakeResponse => True
  | .commit => True
  | .mutationResult => True
  | _ => False

/-- A run to a ready stream, in which nothing becomes of the writes. -/
def ComesUp (s : WritingClient υ) : Prop :=
  ∃ events stream, (∀ event ∈ events, event.KeepsUp) ∧
    Transition.run step s events = some (s.withStream stream) ∧
    (s.withStream stream).Good ∧ stream.isReady = true

theorem comesUp_of_open (h : s.Good) (hopen : s.writeStream.isOpen = true) : s.ComesUp := by
  cases hcomplete : s.writeStream.handshakeComplete with
  | true =>
      exact ⟨[], s.writeStream, List.forall_mem_nil _, rfl, h,
        Bool.and_eq_true_iff.2 ⟨hopen, hcomplete⟩⟩
  | false =>
      rcases step_eq h .handshakeResponse ⟨hopen, hcomplete⟩
        (handshakeResponse_eq h hopen hcomplete) with ⟨hstep, hgood⟩
      refine ⟨[.handshakeResponse], _, List.forall_mem_singleton.2 trivial,
        Transition.run_cons.2 ⟨_, hstep, rfl⟩, hgood, ?_⟩
      exact Bool.and_eq_true_iff.2 ⟨hopen, rfl⟩

theorem comesUp_of_starting (h : s.Good) (hstate : s.writeStream.state = .starting) :
    s.ComesUp := by
  rcases step_eq h .streamOpen hstate (streamOpen_eq h hstate) with ⟨hstep, hgood⟩
  rcases comesUp_of_open hgood rfl with ⟨events, stream, hkeeps, hrun, hup, hready⟩
  exact ⟨.streamOpen :: events, stream, List.forall_mem_cons.2 ⟨trivial, hkeeps⟩,
    Transition.run_cons.2 ⟨_, hstep, hrun⟩, hup, hready⟩

theorem comesUp_of_backoff (h : s.Good) (hstate : s.writeStream.state = .backoff) :
    s.ComesUp := by
  rcases step_eq h .backoffElapsed hstate rfl with ⟨hstep, hgood⟩
  rcases comesUp_of_starting hgood rfl with ⟨events, stream, hkeeps, hrun, hup, hready⟩
  exact ⟨.backoffElapsed :: events, stream, List.forall_mem_cons.2 ⟨trivial, hkeeps⟩,
    Transition.run_cons.2 ⟨_, hstep, hrun⟩, hup, hready⟩

/-- A stream that is started can come up. -/
theorem comesUp (h : s.Good) (hstarted : s.writeStream.isStarted = true) : s.ComesUp := by
  simp only [WriteStream.isStarted, Bool.or_eq_true, decide_eq_true_eq] at hstarted
  rcases hstarted with (hstate | hstate) | hopen
  · exact comesUp_of_starting h hstate
  · exact comesUp_of_backoff h hstate
  · exact comesUp_of_open h hopen

/-- What a run that delivers writes of the current user leads to. -/
structure Delivered (s t : WritingClient υ) (batches later : List MutationBatch) : Prop where
  good : t.Good
  enabled : t.isNetworkEnabled = true
  ready : t.writeStream.isReady = true
  user : t.currentUser = s.currentUser
  queue : t.mutationQueue.batchesOf s.currentUser = later
  told : t.history.told = s.history.told ++ batches.map fun batch => (batch.write, true)

/-- The response to a committed write takes it out of the queue and calls its completion. -/
theorem delivers_committed (h : s.Good) (henabled : s.isNetworkEnabled = true)
    (hpositive : 0 < s.writeStream.connection.committed) {batch : MutationBatch}
    {later : List MutationBatch}
    (hqueue : s.mutationQueue.batchesOf s.currentUser = batch :: later) :
    ∃ t, s.step .mutationResult = some t ∧ s.Delivered t [batch] later := by
  have hpipeline : s.writePipeline = batch :: later.take 9 := by
    rw [h.running.full henabled, target, hqueue]
    rfl
  rcases mutationResult_eq h hpositive hpipeline with ⟨hplay, hgood⟩
  refine ⟨_, (step_eq h .mutationResult hpositive hplay).1, hgood, henabled, ?_, rfl, ?_, rfl⟩
  · have hready := (h.ready_of_committed hpositive).1
    rw [WriteStream.isReady, isOpen_filled, handshakeComplete_filled]
    exact hready
  · have hleft := h.running.ordered.batchesOf_without_head (h.running.user ▸ hqueue)
    rw [h.running.user] at hleft
    exact hleft

theorem delivers (h : s.Good) (henabled : s.isNetworkEnabled = true)
    (hready : s.writeStream.isReady = true) {batch : MutationBatch} {later : List MutationBatch}
    (hqueue : s.mutationQueue.batchesOf s.currentUser = batch :: later) :
    ∃ events t, (∀ event ∈ events, event.KeepsUp) ∧ Transition.run step s events = some t ∧
      s.Delivered t [batch] later := by
  rcases Nat.eq_zero_or_pos s.writeStream.connection.committed with hzero | hpositive
  · -- the server commits the first request
    have hrequests := h.running.requests
    rw [if_pos hready, h.running.full henabled, target, hqueue] at hrequests
    have hpossible : s.Possible .commit := by
      show (Connection.next? s.writeStream.connection).isSome = true
      rw [Connection.next?, hzero, hrequests]
      rfl
    rcases step_eq h .commit hpossible rfl with ⟨hstep, hgood⟩
    rcases delivers_committed hgood henabled (Nat.succ_pos _) hqueue with ⟨t, hresult, hdelivered⟩
    exact ⟨[.commit, .mutationResult], t,
      List.forall_mem_cons.2 ⟨trivial, List.forall_mem_singleton.2 trivial⟩,
      Transition.run_cons.2 ⟨_, hstep, Transition.run_cons.2 ⟨t, hresult, rfl⟩⟩, { hdelivered with }⟩
  · rcases delivers_committed h henabled hpositive hqueue with ⟨t, hresult, hdelivered⟩
    exact ⟨[.mutationResult], t, List.forall_mem_singleton.2 trivial,
      Transition.run_cons.2 ⟨t, hresult, rfl⟩, hdelivered⟩

/-- A ready stream can deliver all that is queued. -/
theorem delivers_all (h : s.Good) (henabled : s.isNetworkEnabled = true)
    (hready : s.writeStream.isReady = true) {batches : List MutationBatch}
    (hqueue : s.mutationQueue.batchesOf s.currentUser = batches) :
    ∃ events t, (∀ event ∈ events, event.KeepsUp) ∧ Transition.run step s events = some t ∧
      s.Delivered t batches [] := by
  induction batches generalizing s with
  | nil =>
      exact ⟨[], s, List.forall_mem_nil _, rfl, h, henabled, hready, rfl, hqueue,
        (List.append_nil _).symm⟩
  | cons batch later ih =>
      rcases delivers h henabled hready hqueue with ⟨events, t, hkeeps, hrun, hfirst⟩
      rcases ih hfirst.good hfirst.enabled hfirst.ready (hfirst.user.symm ▸ hfirst.queue) with
        ⟨events', t', hkeeps', hrun', hrest⟩
      refine ⟨events ++ events', t', List.forall_mem_append.2 ⟨hkeeps, hkeeps'⟩,
        Transition.run_append.2 ⟨t, hrun, hrun'⟩, hrest.good,
        hrest.enabled, hrest.ready, hrest.user.trans hfirst.user, hfirst.user ▸ hrest.queue, ?_⟩
      rw [hrest.told, hfirst.told, List.append_assoc]
      rfl

/-- From every state that a run leads to with the network enabled, all writes of the current user
are delivered, in their order, by nothing but a connection that comes up and stays up and a server
that commits and responds. -/
theorem run_drains {user : υ} {events : List (Event υ)} {s : WritingClient υ}
    (h : Transition.run step (init user) events = some s) (henabled : s.isNetworkEnabled = true) :
    ∃ more t, (∀ event ∈ more, event.KeepsUp) ∧ Transition.run step s more = some t ∧
      t.mutationQueue.batchesOf s.currentUser = [] ∧
      t.history.told = s.history.told ++
        (s.mutationQueue.batchesOf s.currentUser).map fun batch => (batch.write, true) := by
  have hgood := run_good h
  by_cases hnil : s.writePipeline = []
  · -- nothing is queued
    have hqueue : s.mutationQueue.batchesOf s.currentUser = [] := by
      have hfull := hgood.running.full henabled
      rw [hnil, target] at hfull
      exact (List.take_eq_nil_iff.1 hfull.symm).resolve_left (by decide)
    exact ⟨[], s, List.forall_mem_nil _, rfl, hqueue, by rw [hqueue, List.map_nil, List.append_nil]⟩
  · rcases comesUp hgood (hgood.running.started henabled hnil) with
      ⟨events, stream, hup, hrun, hgood', hready⟩
    rcases delivers_all hgood' henabled hready rfl with ⟨more, t, hkeeps, hmore, hdelivered⟩
    exact ⟨events ++ more, t, List.forall_mem_append.2 ⟨hup, hkeeps⟩,
      Transition.run_append.2 ⟨_, hrun, hmore⟩, hdelivered.queue, hdelivered.told⟩

/-- A write that is under way when the connection breaks can still be delivered. -/
theorem run_drains_example :
    ∃ s : WritingClient String, Transition.run step (init "a") [.write, .enableNetwork, .streamOpen,
        .streamFinish .transient] = some s ∧
      ∃ more t, (∀ event ∈ more, event.KeepsUp) ∧ Transition.run step s more = some t ∧
        t.mutationQueue.batchesOf s.currentUser = [] ∧
        t.history.told = s.history.told ++
          (s.mutationQueue.batchesOf s.currentUser).map fun batch => (batch.write, true) := by
  have hruns : (Transition.run step (init "a") [.write, .enableNetwork, .streamOpen,
      .streamFinish .transient]).map WritingClient.isNetworkEnabled = some true := by
    decide +kernel
  rcases Option.map_eq_some_iff.1 hruns with ⟨s, hs, henabled⟩
  exact ⟨s, hs, run_drains hs henabled⟩

end WritingClient

end Firestore
end MoviePlayList
