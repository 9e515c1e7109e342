import Mathlib.Data.List.Basic
import Mathlib.Tactic.Common

/-!
# MutationQueue — the writes a user is waiting for

One table holds the rows of every user, and each user reads and removes only his own.  Batch ids are
given out in increasing order over all users, so that the batches of a user stand in the order of
his writes and the batches after an id are a tail of his queue.
-/

namespace MoviePlayList
namespace Firestore

/-- `MutationBatch`: `write` says which call it comes from; its mutations are not looked at here. -/
structure MutationBatch where
  batchId : Int
  write : Nat
  deriving DecidableEq

/-- A row of the mutations table. -/
structure MutationRow (υ : Type) where
  user : υ
  batch : MutationBatch
  deriving DecidableEq

/-- `LevelDbMutationQueue`, with the rows of all users.  Batch ids grow without a bound here, in the
source they are `int32_t`. -/
structure LevelDbMutationQueue (υ : Type) where
  rows : List (MutationRow υ) := []
  userId : υ
  nextBatchId : Int := 1
  deriving DecidableEq

variable {υ : Type} [DecidableEq υ]

namespace LevelDbMutationQueue

/-- `LoadNextBatchIdFromDb` -/
def loadNextBatchIdFromDb (rows : List (MutationRow υ)) : Int :=
  rows.foldl (fun maxBatchId row => max row.batch.batchId maxBatchId) 0 + 1

/-- `Start` -/
def start (self : LevelDbMutationQueue υ) : LevelDbMutationQueue υ :=
  { self with nextBatchId := loadNextBatchIdFromDb self.rows }

/-- `AllMutationBatches`, of any user. -/
def batchesOf (self : LevelDbMutationQueue υ) (user : υ) : List MutationBatch :=
  (self.rows.filter fun row => row.user = user).map MutationRow.batch

/-- `AddMutationBatch`: the queue afterwards and the batch. -/
def addMutationBatch (self : LevelDbMutationQueue υ) (write : Nat) :
    LevelDbMutationQueue υ × MutationBatch :=
  let batch : MutationBatch := ⟨self.nextBatchId, write⟩
  ({ self with rows := self.rows ++ [⟨self.userId, batch⟩], nextBatchId := self.nextBatchId + 1 },
    batch)

/-- `LookupMutationBatch` -/
def lookupMutationBatch (self : LevelDbMutationQueue υ) (batchId : Int) : Option MutationBatch :=
  (self.batchesOf self.userId).find? fun batch => batch.batchId = batchId

/-- The queue without a batch of its user. -/
def without (self : LevelDbMutationQueue υ) (batchId : Int) : LevelDbMutationQueue υ :=
  { self with
    rows := self.rows.filter fun row => ¬ (row.user = self.userId ∧ row.batch.batchId = batchId) }

/-- `RemoveMutationBatch` -/
def removeMutationBatch (self : LevelDbMutationQueue υ) (batchId : Int) :
    Except String (LevelDbMutationQueue υ) :=
  if (self.lookupMutationBatch batchId).isSome then .ok (self.without batchId)
  else .error s!"Mutation batch {batchId} did not exist"

/-- `NextMutationBatchAfterBatchId`; the rows of a user are in the order of their batch ids. -/
def nextMutationBatchAfterBatchId (self : LevelDbMutationQueue υ) (batchId : Int) :
    Option MutationBatch :=
  (self.batchesOf self.userId).find? fun batch => batchId + 1 ≤ batch.batchId

/-! ## The batches of a user -/

theorem batchesOf_addMutationBatch (self : LevelDbMutationQueue υ) (write : Nat) (user : υ) :
    (self.addMutationBatch write).1.batchesOf user =
      self.batchesOf user ++ if self.userId = user then [⟨self.nextBatchId, write⟩] else [] := by
  rw [batchesOf, addMutationBatch, List.filter_append, List.map_append]
  by_cases huser : self.userId = user <;> simp [huser, batchesOf]

/-- Removing a batch takes it out of the queue of the user and touches no other. -/
theorem batchesOf_without (self : LevelDbMutationQueue υ) (batchId : Int) (user : υ) :
    (self.without batchId).batchesOf user =
      if user = self.userId then (self.batchesOf user).filter fun batch => batch.batchId ≠ batchId
      else self.batchesOf user := by
  unfold batchesOf without
  by_cases huser : user = self.userId
  · rw [if_pos huser, List.filter_map, List.filter_filter, List.filter_filter]
    refine congrArg _ (List.filter_congr fun row _ => ?_)
    by_cases hrow : row.user = self.userId <;> simp [hrow, huser]
  · rw [if_neg huser, List.filter_filter]
    refine congrArg _ (List.filter_congr fun row _ => ?_)
    by_cases hrow : row.user = user <;> simp [hrow, huser]

/-! ## The order of the rows -/

/-- The rows are in the order of their ids, and these were given out. -/
structure Ordered (queue : LevelDbMutationQueue υ) : Prop where
  ascending : queue.rows.Pairwise fun a b => a.batch.batchId < b.batch.batchId
  ids : ∀ row ∈ queue.rows, 0 < row.batch.batchId ∧ row.batch.batchId < queue.nextBatchId
  next : 0 < queue.nextBatchId

omit [DecidableEq υ] in
theorem lt_loadNextBatchIdFromDb (rows : List (MutationRow υ)) :
    0 < loadNextBatchIdFromDb rows ∧
      ∀ row ∈ rows, row.batch.batchId < loadNextBatchIdFromDb rows := by
  have hfold : ∀ (rows : List (MutationRow υ)) (least : Int),
      least ≤ rows.foldl (fun maxBatchId row => max row.batch.batchId maxBatchId) least ∧
        ∀ row ∈ rows, row.batch.batchId ≤
          rows.foldl (fun maxBatchId row => max row.batch.batchId maxBatchId) least := by
    intro rows
    induction rows with
    | nil =>
        exact fun least => ⟨Int.le_refl _, fun _ h => absurd h List.not_mem_nil⟩
    | cons row rows ih =>
        intro least
        rcases ih (max row.batch.batchId least) with ⟨hleast, hrows⟩
        refine ⟨Int.le_trans (Int.le_max_right _ _) hleast, List.forall_mem_cons.2 ⟨?_, hrows⟩⟩
        exact Int.le_trans (Int.le_max_left _ _) hleast
  rcases hfold rows 0 with ⟨hzero, hrows⟩
  exact ⟨Int.lt_add_one_of_le hzero, fun row hrow => Int.lt_add_one_of_le (hrows row hrow)⟩

variable {queue : LevelDbMutationQueue υ}

namespace Ordered

omit [DecidableEq υ] in
/-- Starting the queue of another user keeps the order. -/
theorem start (h : queue.Ordered) (user : υ) :
    (LevelDbMutationQueue.start { queue with userId := user }).Ordered := by
  rcases lt_loadNextBatchIdFromDb queue.rows with ⟨hnext, hrows⟩
  exact ⟨h.ascending, fun row hrow => ⟨(h.ids row hrow).1, hrows row hrow⟩, hnext⟩

omit [DecidableEq υ] in
theorem addMutationBatch (h : queue.Ordered) (write : Nat) :
    (queue.addMutationBatch write).1.Ordered := by
  have hnext := h.next
  refine ⟨?_, fun row hrow => ?_, Int.lt_add_one_of_le (Int.le_of_lt hnext)⟩
  · refine List.pairwise_append.2 ⟨h.ascending, List.pairwise_singleton _ _, ?_⟩
    intro row hrow new hnew
    rw [List.mem_singleton.1 hnew]
    exact (h.ids row hrow).2
  · show 0 < row.batch.batchId ∧ row.batch.batchId < queue.nextBatchId + 1
    rcases List.mem_append.1 hrow with hrow | hnew
    · have hold := h.ids row hrow
      omega
    · rw [List.mem_singleton.1 hnew]
      show 0 < queue.nextBatchId ∧ queue.nextBatchId < queue.nextBatchId + 1
      omega

theorem without (h : queue.Ordered) (batchId : Int) : (queue.without batchId).Ordered :=
  ⟨h.ascending.filter _, fun row hrow => h.ids row (List.mem_of_mem_filter hrow), h.next⟩

/-- A row is the only one under its user and id. -/
theorem find?_row (h : queue.Ordered) {row : MutationRow υ} (hrow : row ∈ queue.rows) :
    (queue.rows.find? fun other =>
      other.user = row.user ∧ other.batch.batchId = row.batch.batchId) = some row := by
  have hunique : ∀ {a b : MutationRow υ}, a ∈ queue.rows → b ∈ queue.rows →
      a.batch.batchId = b.batch.batchId → a = b := by
    intro a b ha hb
    refine List.Pairwise.forall_of_forall_of_flip
      (R := fun a b : MutationRow υ => a.batch.batchId = b.batch.batchId → a = b)
      (fun _ _ _ => rfl) ?_ ?_ ha hb
    · exact h.ascending.imp fun hlt heq => absurd heq (Int.ne_of_lt hlt)
    · exact h.ascending.imp fun hlt heq => absurd heq.symm (Int.ne_of_lt hlt)
  have hsome : (queue.rows.find? fun other =>
      other.user = row.user ∧ other.batch.batchId = row.batch.batchId).isSome = true :=
    List.find?_isSome.2 ⟨row, hrow, decide_eq_true ⟨rfl, rfl⟩⟩
  rcases Option.isSome_iff_exists.1 hsome with ⟨other, hother⟩
  have hfound := List.find?_some hother
  rw [decide_eq_true_eq] at hfound
  rw [hother, hunique (List.mem_of_find?_eq_some hother) hrow hfound.2]

theorem batchesOf (h : queue.Ordered) (user : υ) :
    (queue.batchesOf user).Pairwise (fun a b => a.batchId < b.batchId) ∧
      ∀ batch ∈ queue.batchesOf user, 0 < batch.batchId := by
  constructor
  · rw [LevelDbMutationQueue.batchesOf, List.pairwise_map]
    exact h.ascending.filter _
  · intro batch hbatch
    rcases List.mem_map.1 hbatch with ⟨row, hrow, rfl⟩
    exact (h.ids row (List.mem_of_mem_filter hrow)).1

/-- Taking the first batch of a queue out leaves the rest of it. -/
theorem batchesOf_without_head (h : queue.Ordered) {batch : MutationBatch}
    {rest : List MutationBatch} (hqueue : queue.batchesOf queue.userId = batch :: rest) :
    (queue.without batch.batchId).batchesOf queue.userId = rest := by
  have hascending := (h.batchesOf queue.userId).1
  rw [hqueue, List.pairwise_cons] at hascending
  rw [batchesOf_without, if_pos rfl, hqueue, List.filter_cons_of_neg (by simp)]
  refine List.filter_eq_self.2 fun other hother => decide_eq_true ?_
  exact (Int.ne_of_lt (hascending.1 other hother)).symm

/-- After the batches of a pipeline comes the first one that is not in it. -/
theorem next_spec (h : queue.Ordered) {pipeline rest : List MutationBatch}
    (hqueue : queue.batchesOf queue.userId = pipeline ++ rest) :
    queue.nextMutationBatchAfterBatchId
      ((pipeline.getLast?.map MutationBatch.batchId).getD (-1)) = rest.head? := by
  rcases h.batchesOf queue.userId with ⟨hascending, hpositive⟩
  rw [hqueue] at hascending hpositive
  rw [nextMutationBatchAfterBatchId, hqueue]
  rcases List.eq_nil_or_concat' pipeline with rfl | ⟨front, last, rfl⟩
  · -- every id is positive, so the first batch is found
    cases rest with
    | nil =>
        rfl
    | cons batch rest =>
        have hbatch := hpositive batch List.mem_cons_self
        refine List.find?_cons_of_pos (decide_eq_true ?_)
        show (-1 : Int) + 1 ≤ batch.batchId
        omega
  · rw [List.getLast?_concat]
    show (front ++ [last] ++ rest).find? (fun batch => last.batchId + 1 ≤ batch.batchId) = rest.head?
    rcases List.pairwise_append.1 hascending with ⟨hfront, _, hcross⟩
    have hnone : (front ++ [last]).find? (fun batch => last.batchId + 1 ≤ batch.batchId) = none := by
      refine List.find?_eq_none.2 fun batch hbatch => ?_
      rw [decide_eq_true_eq]
      rcases List.mem_append.1 hbatch with hbatch | hbatch
      · have hlt := (List.pairwise_append.1 hfront).2.2 batch hbatch last List.mem_cons_self
        omega
      · rw [List.mem_singleton.1 hbatch]
        omega
    rw [List.find?_append, hnone, Option.none_or]
    cases rest with
    | nil =>
        rfl
    | cons batch rest =>
        have hlt := hcross last (List.mem_append_right _ List.mem_cons_self) batch List.mem_cons_self
        exact List.find?_cons_of_pos (decide_eq_true (by omega))

end Ordered

end LevelDbMutationQueue
end Firestore
end MoviePlayList
