import MoviePlayList.Lib.ListEdit
import MoviePlayList.Lib.Separated
import MoviePlayList.Lib.Transition
import MoviePlayList.Resource.Extensions

/-!
# AuthManager — registration over Auth and the realtime database

`registerNewUser` creates the account and then writes the user name under a key made from the
e-mail.  The callback of the account creation goes on to the write whatever the outcome was, and
both callbacks call the completion.  The key replaces every '@' and '.' by '-', so that different
e-mails may have one node, or a node inside another's.

The realtime database is a tree; it is kept as the values at its leaves.  An event is the start of
a call or one callback together with its outcome.
-/

namespace MoviePlayList

/-! ## The realtime database -/

/-- The pieces of a path, from the root. -/
abbrev NodePath := List (List Char)

/-- The value at each leaf of the tree. -/
abbrev RealtimeDatabase := NodePath → Option String

/-- `isValidPathString` of the database library; `child` throws on any other string. -/
@[irreducible] def isValidPathString (pathString : String) : Bool :=
  !pathString.isEmpty && pathString.toList.all fun c => !"[].#$".toList.contains c

/-- `child(pathString)` of the root: the pieces between the slashes. -/
def child (pathString : String) : NodePath := Separated.segments '/' pathString.toList

def usernameKey : List Char := "username".toList

/-- Where the user name of a node is. -/
def NodePath.usernameLeaf (node : NodePath) : NodePath := node ++ [usernameKey]

/-- `setValue(["username": username])`: the node is replaced, and a value on the way to it gives
place to a node with children. -/
@[irreducible] def RealtimeDatabase.setValue (self : RealtimeDatabase) (node : NodePath)
    (username : String) : RealtimeDatabase := fun leaf =>
  if node <+: leaf then
    if leaf = node.usernameLeaf then some username else none
  else if leaf <+: node then
    none
  else
    self leaf

/-! ## Calls -/

/-- The callback waited for, or how the call ended. -/
inductive RegisterStage
  | refused
  | creating
  | inserting (created : Bool)
  /-- `child` has thrown inside `insertNewUser` -/
  | threw (created : Bool)
  | returned (created inserted : Bool)
  deriving DecidableEq

structure RegisterCall where
  username : String
  email : String
  password : String
  stage : RegisterStage
  /-- the arguments the completion was called with so far -/
  completions : List Bool := []
  deriving DecidableEq

/-- `database.child(email.safeDatabaseKey())` -/
def RegisterCall.node (self : RegisterCall) : NodePath := child (safeDatabaseKey self.email)

/-- Both callbacks have come. -/
def RegisterCall.Ended (self : RegisterCall) : Prop :=
  ∃ created inserted, self.stage = .returned created inserted

/-- The call has come to its end with the account created and the name inserted. -/
def RegisterCall.Registered (self : RegisterCall) : Prop := self.stage = .returned true true

structure AuthManager where
  /-- all calls of `registerNewUser`, in the order they were made -/
  calls : List RegisterCall := []
  /-- the e-mails Auth has accounts for -/
  accounts : List String
  database : RealtimeDatabase
  /-- the program has thrown -/
  crashed : Bool := false

namespace AuthManager

/-- `DataBaseManager.canCreateNewUser` -/
def canCreateNewUser (_email _username : String) : Bool := true

/-- `registerNewUser`, up to the account creation. -/
def registerNewUser (self : AuthManager) (username email password : String) : AuthManager :=
  let call : RegisterCall :=
    if canCreateNewUser email username then
      { username := username, email := email, password := password, stage := .creating }
    else
      { username := username, email := email, password := password, stage := .refused
        completions := [false] }
  { self with calls := self.calls ++ [call] }

/-- The callback of `Auth.auth().createUser`: tell the completion, then insert in any case. -/
def didCreateUser (self : AuthManager) (id : Nat) (call : RegisterCall) (created : Bool) :
    AuthManager :=
  let valid := isValidPathString (safeDatabaseKey call.email)
  { self with
    accounts := if created then self.accounts ++ [call.email] else self.accounts
    calls := self.calls.set id
      { call with
        stage := if valid then .inserting created else .threw created
        completions := call.completions ++ [created] }
    crashed := !valid }

/-- The callback of `setValue` in `DataBaseManager.insertNewUser`, and the completion it calls. -/
def didSetValue (self : AuthManager) (id : Nat) (call : RegisterCall) (created inserted : Bool) :
    AuthManager :=
  { self with
    database :=
      if inserted then self.database.setValue call.node call.username else self.database
    calls := self.calls.set id
      { call with
        stage := .returned created inserted
        completions := call.completions ++ [inserted] } }

@[simp] theorem registerNewUser_database (self : AuthManager) (username email password : String) :
    (self.registerNewUser username email password).database = self.database := by
  rfl

@[simp] theorem didCreateUser_database (self : AuthManager) (id : Nat) (call : RegisterCall)
    (created : Bool) : (self.didCreateUser id call created).database = self.database := by
  rfl

@[simp] theorem didSetValue_database_true (self : AuthManager) (id : Nat) (call : RegisterCall)
    (created : Bool) :
    (self.didSetValue id call created true).database =
      self.database.setValue call.node call.username := by
  rfl

@[simp] theorem didSetValue_database_false (self : AuthManager) (id : Nat) (call : RegisterCall)
    (created : Bool) : (self.didSetValue id call created false).database = self.database := by
  rfl

/-! ## Runs -/

inductive Event
  | registerNewUser (username email password : String)
  /-- `user != nil` -/
  | didCreateUser (id : Nat) (created : Bool)
  /-- `error == nil` -/
  | didSetValue (id : Nat) (inserted : Bool)
  deriving DecidableEq

/-- One event; Auth creates no second account for an e-mail. -/
def step (self : AuthManager) (e : Event) : Option AuthManager :=
  if self.crashed then
    none
  else
    match e with
    | .registerNewUser username email password =>
        some (self.registerNewUser username email password)
    | .didCreateUser id created =>
        match self.calls[id]? with
        | none => none
        | some call =>
            if call.stage = .creating ∧ (created = true → call.email ∉ self.accounts) then
              some (self.didCreateUser id call created)
            else
              none
    | .didSetValue id inserted =>
        match self.calls[id]? with
        | none => none
        | some call =>
            match call.stage with
            | .inserting created => some (self.didSetValue id call created inserted)
            | _ => none

/-- The program before the first call, with the accounts and the database there are. -/
def launched (accounts : List String) (database : RealtimeDatabase) : AuthManager where
  accounts := accounts
  database := database

/-- What a step does: the event is possible, and the handler of its kind runs. -/
inductive StepCase (self : AuthManager) : Event → AuthManager → Prop
  | registerNewUser (username email password : String) :
      StepCase self (.registerNewUser username email password)
        (self.registerNewUser username email password)
  | didCreateUser {id : Nat} {call : RegisterCall} {created : Bool}
      (hcall : self.calls[id]? = some call) (hstage : call.stage = .creating) :
      StepCase self (.didCreateUser id created) (self.didCreateUser id call created)
  | didSetValue {id : Nat} {call : RegisterCall} {created inserted : Bool}
      (hcall : self.calls[id]? = some call) (hstage : call.stage = .inserting created) :
      StepCase self (.didSetValue id inserted) (self.didSetValue id call created inserted)

theorem stepCase {self next : AuthManager} {e : Event} (h : self.step e = some next) :
    StepCase self e next := by
  unfold step at h
  rw [Option.ite_none_left_eq_some] at h
  rcases h with ⟨_, h⟩
  cases e with
  | registerNewUser username email password =>
      cases h
      exact .registerNewUser username email password
  | didCreateUser id created =>
      cases hcall : self.calls[id]? with
      | none =>
          simp only [hcall] at h
          cases h
      | some call =>
          simp only [hcall, Option.ite_none_right_eq_some, Option.some.injEq] at h
          rcases h with ⟨⟨hstage, _⟩, rfl⟩
          exact .didCreateUser hcall hstage
  | didSetValue id inserted =>
      cases hcall : self.calls[id]? with
      | none =>
          simp only [hcall] at h
          cases h
      | some call =>
          simp only [hcall] at h
          cases hstage : call.stage with
          | inserting created =>
              simp only [hstage, Option.some.injEq] at h
              subst h
              exact .didSetValue hcall hstage
          | refused | creating | threw created | returned created inserted =>
              simp only [hstage] at h
              cases h

/-! ## What a registration promises -/

/-- `P` holds of every call that came to its end with success. -/
def EveryRegistered (calls : List RegisterCall) (P : RegisterCall → Prop) : Prop :=
  ∀ call ∈ calls, call.Registered → P call

/-- No call has told its completion twice, and each that came to its end has told it once. -/
def ExactlyOnce (self : AuthManager) : Prop :=
  ∀ call ∈ self.calls,
    call.completions.length ≤ 1 ∧ (call.Ended → call.completions.length = 1)

/-- A callback of a call whose account creation fails. -/
def OfFailedCall (self : AuthManager) : Event → Prop
  | .registerNewUser _ _ _ => False
  | .didCreateUser _ created => created = false
  | .didSetValue id _ => ∃ call, self.calls[id]? = some call ∧ call.stage = .inserting false

/-- A call whose account creation fails leaves the database as it was. -/
def LeavesDatabase (self : AuthManager) (e : Event) : Prop :=
  self.OfFailedCall e → ∀ next, self.step e = some next → next.database = self.database

/-- The node of every e-mail registered with success holds the user name it was registered with. -/
def NodesHold (self : AuthManager) : Prop :=
  EveryRegistered self.calls fun call =>
    self.database call.node.usernameLeaf = some call.username

/-- The two calls do not use one node for two e-mails. -/
def Apart (call other : RegisterCall) : Prop :=
  call.email ≠ other.email → call.node ≠ other.node

/-- Different e-mails registered with success have different nodes. -/
def NodesApart (self : AuthManager) : Prop :=
  EveryRegistered self.calls fun call => EveryRegistered self.calls (Apart call)

/-! ## When it keeps them -/

/-- The step is not the second callback of a call. -/
def NoCallEnds (_self : AuthManager) : Event → Prop
  | .registerNewUser _ _ _ => True
  | .didCreateUser _ _ => True
  | .didSetValue _ _ => False

/-- The node holds nothing but this user name, and no value stands on the way to it. -/
structure HoldsOnly (database : RealtimeDatabase) (node : NodePath) (username : String) : Prop where
  leaf : database node.usernameLeaf = some username
  below : ∀ leaf, node <+: leaf → leaf ≠ node.usernameLeaf → database leaf = none
  above : ∀ leaf, leaf <+: node → database leaf = none

/-- A successful write of a call whose account creation failed finds what it writes. -/
def RewritesOnFailure (self : AuthManager) : Event → Prop
  | .didSetValue id true => ∀ call, self.calls[id]? = some call →
      call.stage = .inserting false → HoldsOnly self.database call.node call.username
  | _ => True

/-- Writing the name of `call` spares the name of `other`: it is the same name in the same node, or
neither place lies on the way to the other. -/
structure Spares (call other : RegisterCall) : Prop where
  same : call.node = other.node → call.username = other.username
  apart : call.node ≠ other.node →
    ¬ call.node <+: other.node.usernameLeaf ∧ ¬ other.node.usernameLeaf <+: call.node

/-- A successful write spares the names of all e-mails registered with success before. -/
def SparesRegistered (self : AuthManager) : Event → Prop
  | .didSetValue id true => ∀ call, self.calls[id]? = some call →
      EveryRegistered self.calls (Spares call)
  | _ => True

/-- A registration that succeeds has a node that no other registered e-mail has. -/
def TakesOwnNode (self : AuthManager) : Event → Prop
  | .didSetValue id true => ∀ call, self.calls[id]? = some call →
      call.stage = .inserting true → EveryRegistered self.calls (Apart call)
  | _ => True

/-! ## The tree -/

section Tree

variable {database : RealtimeDatabase} {node : NodePath} {username : String}

theorem usernameLeaf_inj {node' : NodePath} (h : node.usernameLeaf = node'.usernameLeaf) :
    node = node' :=
  List.append_cancel_right h

theorem prefix_usernameLeaf : node <+: node.usernameLeaf :=
  List.prefix_append node [usernameKey]

/-- A write puts the name where it belongs. -/
theorem setValue_usernameLeaf :
    database.setValue node username node.usernameLeaf = some username := by
  rw [RealtimeDatabase.setValue, if_pos prefix_usernameLeaf, if_pos rfl]

/-- A write changes nothing exactly when the node held only this name. -/
theorem setValue_eq_self_iff :
    database.setValue node username = database ↔ HoldsOnly database node username := by
  constructor
  · intro h
    refine ⟨?_, ?_, ?_⟩
    · rw [← h]
      exact setValue_usernameLeaf
    · intro leaf hbelow hne
      rw [← h, RealtimeDatabase.setValue, if_pos hbelow, if_neg hne]
    · intro leaf habove
      have hne : leaf ≠ node.usernameLeaf := by
        rintro rfl
        have hle := habove.length_le
        simp only [NodePath.usernameLeaf, List.length_append, List.length_singleton] at hle
        omega
      rw [← h, RealtimeDatabase.setValue]
      by_cases hbelow : node <+: leaf
      · rw [if_pos hbelow, if_neg hne]
      · rw [if_neg hbelow, if_pos habove]
  · intro h
    funext leaf
    rw [RealtimeDatabase.setValue]
    by_cases hbelow : node <+: leaf
    · rw [if_pos hbelow]
      by_cases hleaf : leaf = node.usernameLeaf
      · rw [if_pos hleaf, hleaf, h.leaf]
      · rw [if_neg hleaf, h.below leaf hbelow hleaf]
    · rw [if_neg hbelow]
      by_cases habove : leaf <+: node
      · rw [if_pos habove, h.above leaf habove]
      · rw [if_neg habove]

/-- A write keeps the name of a registered e-mail exactly when it spares it. -/
theorem setValue_keeps_iff {call other : RegisterCall}
    (hother : database other.node.usernameLeaf = some other.username) :
    database.setValue call.node call.username other.node.usernameLeaf = some other.username ↔
      Spares call other := by
  rw [RealtimeDatabase.setValue]
  by_cases hnode : call.node = other.node
  · -- the same node gets the new name
    have hbelow : call.node <+: other.node.usernameLeaf := by
      rw [hnode]
      exact prefix_usernameLeaf
    have hleaf : other.node.usernameLeaf = call.node.usernameLeaf := by
      rw [hnode]
    rw [if_pos hbelow, if_pos hleaf, Option.some.injEq]
    constructor
    · intro hname
      exact ⟨fun _ => hname, fun hne => absurd hnode hne⟩
    · intro hspares
      exact hspares.same hnode
  · have hapart : Spares call other ↔
        ¬ call.node <+: other.node.usernameLeaf ∧ ¬ other.node.usernameLeaf <+: call.node := by
      constructor
      · intro hspares
        exact hspares.apart hnode
      · intro h
        exact ⟨fun heq => absurd heq hnode, fun _ => h⟩
    rw [hapart]
    by_cases hbelow : call.node <+: other.node.usernameLeaf
    · have hleaf : other.node.usernameLeaf ≠ call.node.usernameLeaf := fun h =>
        hnode (usernameLeaf_inj h).symm
      rw [if_pos hbelow, if_neg hleaf]
      exact iff_of_false (by simp) fun h => h.1 hbelow
    · rw [if_neg hbelow]
      by_cases habove : other.node.usernameLeaf <+: call.node
      · rw [if_pos habove]
        exact iff_of_false (by simp) fun h => h.2 habove
      · rw [if_neg habove]
        exact iff_of_true hother ⟨hbelow, habove⟩

end Tree

/-! ## The calls after a step -/

section Calls

variable {calls : List RegisterCall} {P : RegisterCall → Prop} {id : Nat}

theorem forall_mem_set {call : RegisterCall} (h : ∀ x ∈ calls, P x) (hnew : P call) :
    ∀ x ∈ calls.set id call, P x := by
  intro x hx
  rcases List.mem_or_eq_of_mem_set hx with hold | rfl
  · exact h x hold
  · exact hnew

theorem forall_mem_concat {call : RegisterCall} (h : ∀ x ∈ calls, P x) (hnew : P call) :
    ∀ x ∈ calls ++ [call], P x := by
  intro x hx
  rcases List.mem_append.1 hx with hold | hlast
  · exact h x hold
  · have heq : x = call := List.mem_singleton.1 hlast
    exact heq ▸ hnew

/-- When a call that was not registered changes, the registered ones are those before and perhaps
the changed one. -/
theorem everyRegistered_set {call changed : RegisterCall} (hcall : calls[id]? = some call)
    (hno : ¬ call.Registered) :
    EveryRegistered (calls.set id changed) P ↔
      (changed.Registered → P changed) ∧ EveryRegistered calls P := by
  have hlt : id < calls.length := (List.getElem?_eq_some_iff.1 hcall).1
  constructor
  · intro h
    refine ⟨h changed (List.mem_set hlt changed), ?_⟩
    intro other hother hreg
    rcases List.mem_iff_getElem?.1 hother with ⟨i, hi⟩
    have hne : i ≠ id := by
      intro heq
      rw [heq, hcall] at hi
      cases hi
      exact hno hreg
    have hkept : (calls.set id changed)[i]? = some other :=
      (ListEdit.getElem?_set_eq_some hcall).2 (Or.inr ⟨hne, hi⟩)
    exact h other (List.mem_of_getElem? hkept) hreg
  · intro h
    exact forall_mem_set h.2 h.1

/-- A new call that is not registered changes nothing for the registered ones. -/
theorem everyRegistered_concat {call : RegisterCall} (hno : ¬ call.Registered) :
    EveryRegistered (calls ++ [call]) P ↔ EveryRegistered calls P := by
  constructor
  · intro h other hother
    exact h other (List.mem_append_left [call] hother)
  · intro h
    apply forall_mem_concat h
    intro hreg
    exact absurd hreg hno

end Calls

section Handlers

variable {self : AuthManager} {P : RegisterCall → Prop} {id : Nat} {call : RegisterCall}

/-- Neither stage after the account creation is the end of a call. -/
theorem stage_didCreateUser_ne (valid created : Bool) {created' inserted : Bool} :
    (if valid then RegisterStage.inserting created else .threw created) ≠
      .returned created' inserted := by
  cases valid with
  | false | true =>
      simp

theorem everyRegistered_registerNewUser {username email password : String} :
    EveryRegistered (self.registerNewUser username email password).calls P ↔
      EveryRegistered self.calls P := by
  apply everyRegistered_concat
  intro hreg
  cases hreg

theorem everyRegistered_didCreateUser {created : Bool} (hcall : self.calls[id]? = some call)
    (hstage : call.stage = .creating) :
    EveryRegistered (self.didCreateUser id call created).calls P ↔
      EveryRegistered self.calls P := by
  have hno : ¬ call.Registered := by
    intro hreg
    cases hstage.symm.trans hreg
  apply (everyRegistered_set hcall hno).trans
  apply and_iff_right
  intro hreg
  exact absurd hreg (stage_didCreateUser_ne _ created)

/-- The second callback makes the call a registered one when both outcomes were successes. -/
theorem everyRegistered_didSetValue {created inserted : Bool} (hcall : self.calls[id]? = some call)
    (hstage : call.stage = .inserting created) :
    EveryRegistered (self.didSetValue id call created inserted).calls P ↔
      (created = true → inserted = true →
        P { call with
            stage := .returned created inserted
            completions := call.completions ++ [inserted] }) ∧
        EveryRegistered self.calls P := by
  have hno : ¬ call.Registered := by
    intro hreg
    cases hstage.symm.trans hreg
  apply (everyRegistered_set hcall hno).trans
  apply and_congr_left'
  simp only [RegisterCall.Registered, RegisterStage.returned.injEq, and_imp]

end Handlers

/-! ## Completions -/

/-- What the completion has been told in a stage. -/
def RegisterStage.completions : RegisterStage → List Bool
  | .refused => [false]
  | .creating => []
  | .inserting created => [created]
  | .threw created => [created]
  | .returned created inserted => [created, inserted]

/-- Every call has told its completion what its stage says. -/
def Logged (self : AuthManager) : Prop :=
  ∀ call ∈ self.calls, call.completions = RegisterStage.completions call.stage

theorem logged_launched (accounts : List String) (database : RealtimeDatabase) :
    Logged (launched accounts database) := by
  intro call hcall
  cases hcall

theorem Logged.step {self next : AuthManager} {e : Event} (h : Logged self)
    (hstep : self.step e = some next) : Logged next := by
  cases stepCase hstep with
  | registerNewUser username email password =>
      exact forall_mem_concat h rfl
  | @didCreateUser id call created hcall hstage =>
      apply forall_mem_set h
      have hnone : call.completions = [] := by
        rw [h call (List.mem_of_getElem? hcall), hstage]
        rfl
      -- the completion is told before `child` may throw
      by_cases hvalid : isValidPathString (safeDatabaseKey call.email) = true
      · simp [hvalid, hnone, RegisterStage.completions]
      · simp [hvalid, hnone, RegisterStage.completions]
  | @didSetValue id call created inserted hcall hstage =>
      apply forall_mem_set h
      have hone : call.completions = [created] := by
        rw [h call (List.mem_of_getElem? hcall), hstage]
        rfl
      simp [hone, RegisterStage.completions]

/-- A call that has come to its end has told its completion twice. -/
theorem Logged.length_of_ended {self : AuthManager} {call : RegisterCall} (h : Logged self)
    (hcall : call ∈ self.calls) (hended : call.Ended) : call.completions.length = 2 := by
  rcases hended with ⟨created, inserted, hstage⟩
  rw [h call hcall, hstage]
  rfl

/-- The completions are as they should be as long as no call has come to its end. -/
theorem Logged.exactlyOnce_iff {self : AuthManager} (h : Logged self) :
    self.ExactlyOnce ↔ ∀ call ∈ self.calls, ¬ call.Ended := by
  constructor
  · intro honce call hcall hended
    have htwo := h.length_of_ended hcall hended
    have hle := (honce call hcall).1
    omega
  · intro hnone call hcall
    refine ⟨?_, fun hended => absurd hended (hnone call hcall)⟩
    rw [h call hcall]
    cases hstage : call.stage with
    | refused | creating | inserting created | threw created =>
        simp [RegisterStage.completions]
    | returned created inserted =>
        exact absurd ⟨created, inserted, hstage⟩ (hnone call hcall)

/-- One more step keeps the completions right exactly when it is not the end of a call. -/
theorem Logged.exactlyOnce_step_iff {self next : AuthManager} {e : Event} (h : Logged self)
    (honce : self.ExactlyOnce) (hstep : self.step e = some next) :
    next.ExactlyOnce ↔ self.NoCallEnds e := by
  have hnone := h.exactlyOnce_iff.1 honce
  rw [(h.step hstep).exactlyOnce_iff]
  cases stepCase hstep with
  | registerNewUser username email password =>
      refine iff_of_true (forall_mem_concat hnone ?_) trivial
      rintro ⟨created, inserted, hstage⟩
      cases hstage
  | @didCreateUser id call created hcall hstage =>
      refine iff_of_true (forall_mem_set hnone ?_) trivial
      rintro ⟨created', inserted, hended⟩
      exact stage_didCreateUser_ne _ created hended
  | @didSetValue id call created inserted hcall hstage =>
      have hlt : id < self.calls.length := (List.getElem?_eq_some_iff.1 hcall).1
      apply iff_of_false
      · intro hno
        exact hno _ (List.mem_set hlt _) ⟨created, inserted, rfl⟩
      · intro hends
        exact hends

/-! ## The database -/

section Step

variable {self next : AuthManager} {e : Event}

/-- A failed call leaves the database alone exactly when its write, if it succeeds, writes what is
there. -/
theorem leavesDatabase_iff (hstep : self.step e = some next) :
    self.LeavesDatabase e ↔ self.RewritesOnFailure e := by
  have hnext : self.LeavesDatabase e ↔ (self.OfFailedCall e → next.database = self.database) := by
    constructor
    · intro h hfailed
      exact h hfailed next hstep
    · intro h hfailed next' hstep'
      cases hstep.symm.trans hstep'
      exact h hfailed
  rw [hnext]
  cases stepCase hstep with
  | registerNewUser username email password =>
      exact iff_of_true (fun _ => rfl) trivial
  | didCreateUser hcall hstage =>
      exact iff_of_true (fun _ => rfl) trivial
  | @didSetValue id call created inserted hcall hstage =>
      cases inserted with
      | false =>
          exact iff_of_true (fun _ => rfl) trivial
      | true =>
          constructor
          · intro h call' hcall' hfailed
            cases hcall.symm.trans hcall'
            have hsame := h ⟨call, hcall, hfailed⟩
            rw [didSetValue_database_true] at hsame
            exact setValue_eq_self_iff.1 hsame
          · rintro h ⟨call', hcall', hfailed⟩
            cases hcall.symm.trans hcall'
            rw [didSetValue_database_true]
            exact setValue_eq_self_iff.2 (h call hcall hfailed)

/-- After a successful write the new name is in its place, so that only the others matter. -/
theorem nodesHold_didSetValue_iff {id : Nat} {call : RegisterCall} {created : Bool}
    (h : self.NodesHold) (hcall : self.calls[id]? = some call)
    (hstage : call.stage = .inserting created) :
    (self.didSetValue id call created true).NodesHold ↔
      EveryRegistered self.calls (Spares call) := by
  unfold NodesHold
  rw [everyRegistered_didSetValue hcall hstage, didSetValue_database_true]
  have hothers :
      EveryRegistered self.calls (fun other =>
        self.database.setValue call.node call.username other.node.usernameLeaf =
          some other.username) ↔
        EveryRegistered self.calls (Spares call) :=
    forall₃_congr fun other hother hreg =>
      @setValue_keeps_iff self.database call other (h other hother hreg)
  apply Iff.trans _ hothers
  apply and_iff_right
  intro _ _
  exact @setValue_usernameLeaf self.database call.node call.username

/-- One more step keeps the registered names exactly when a successful write spares them. -/
theorem NodesHold.step_iff (h : self.NodesHold) (hstep : self.step e = some next) :
    next.NodesHold ↔ self.SparesRegistered e := by
  cases stepCase hstep with
  | registerNewUser username email password =>
      refine iff_of_true ?_ trivial
      unfold NodesHold
      rw [everyRegistered_registerNewUser, registerNewUser_database]
      exact h
  | didCreateUser hcall hstage =>
      refine iff_of_true ?_ trivial
      unfold NodesHold
      rw [everyRegistered_didCreateUser hcall hstage, didCreateUser_database]
      exact h
  | @didSetValue id call created inserted hcall hstage =>
      cases inserted with
      | false =>
          refine iff_of_true ?_ trivial
          unfold NodesHold
          rw [everyRegistered_didSetValue hcall hstage, didSetValue_database_false]
          refine ⟨?_, h⟩
          intro _ hinserted
          cases hinserted
      | true =>
          apply (nodesHold_didSetValue_iff h hcall hstage).trans
          constructor
          · intro hspares call' hcall'
            cases hcall.symm.trans hcall'
            exact hspares
          · intro hspares
            exact hspares call hcall

theorem Apart.symm {call other : RegisterCall} (h : Apart call other) : Apart other call :=
  fun hne => (h hne.symm).symm

/-- After the second callback a new registered call has to be apart from the others. -/
theorem nodesApart_didSetValue_iff {id : Nat} {call : RegisterCall} {created inserted : Bool}
    (h : self.NodesApart) (hcall : self.calls[id]? = some call)
    (hstage : call.stage = .inserting created) :
    (self.didSetValue id call created inserted).NodesApart ↔
      (created = true → inserted = true → EveryRegistered self.calls (Apart call)) := by
  unfold NodesApart
  simp only [everyRegistered_didSetValue hcall hstage]
  constructor
  · intro hnext hcreated hinserted
    exact (hnext.1 hcreated hinserted).2
  · intro hown
    constructor
    · intro hcreated hinserted
      refine ⟨?_, hown hcreated hinserted⟩
      intro _ _ hne
      exact absurd rfl hne
    · intro other hother hreg
      refine ⟨?_, h other hother hreg⟩
      intro hcreated hinserted
      exact (hown hcreated hinserted other hother hreg).symm

/-- One more step keeps the nodes of registered e-mails apart exactly when a registration that
succeeds takes a node of its own. -/
theorem NodesApart.step_iff (h : self.NodesApart) (hstep : self.step e = some next) :
    next.NodesApart ↔ self.TakesOwnNode e := by
  cases stepCase hstep with
  | registerNewUser username email password =>
      refine iff_of_true (everyRegistered_registerNewUser.2 ?_) trivial
      intro call hcall hreg
      exact everyRegistered_registerNewUser.2 (h call hcall hreg)
  | didCreateUser hcall hstage =>
      refine iff_of_true ((everyRegistered_didCreateUser hcall hstage).2 ?_) trivial
      intro call hcall' hreg
      exact (everyRegistered_didCreateUser hcall hstage).2 (h call hcall' hreg)
  | @didSetValue id call created inserted hcall hstage =>
      apply (nodesApart_didSetValue_iff h hcall hstage).trans
      cases inserted with
      | false =>
          refine iff_of_true ?_ trivial
          intro _ hinserted
          cases hinserted
      | true =>
          constructor
          · intro hown call' hcall' hcreated
            cases hcall.symm.trans hcall'
            cases hstage.symm.trans hcreated
            exact hown rfl rfl
          · intro hown hcreated _
            exact hown call hcall (hcreated ▸ hstage)

end Step

/-! ## Runs -/

theorem everyRegistered_launched (accounts : List String) (database : RealtimeDatabase)
    (P : RegisterCall → Prop) : EveryRegistered (launched accounts database).calls P := by
  intro call hcall
  cases hcall

theorem exactlyOnce_launched (accounts : List String) (database : RealtimeDatabase) :
    (launched accounts database).ExactlyOnce := by
  intro call hcall
  cases hcall

/-- Which runs of registrations keep each promise: the completions, when no call comes to its end;
the database under a failed call, when that call's write fails or writes what is there; the names
of the registered e-mails, when every write spares them; one node for one e-mail, when every
registration that succeeds has a node of its own. -/
theorem registrations_keep_iff (accounts : List String) (database : RealtimeDatabase)
    (es : List Event) :
    (Transition.Along step ExactlyOnce (launched accounts database) es ↔
      Transition.EachStep step NoCallEnds (launched accounts database) es) ∧
    (Transition.EachStep step LeavesDatabase (launched accounts database) es ↔
      Transition.EachStep step RewritesOnFailure (launched accounts database) es) ∧
    (Transition.Along step NodesHold (launched accounts database) es ↔
      Transition.EachStep step SparesRegistered (launched accounts database) es) ∧
    (Transition.Along step NodesApart (launched accounts database) es ↔
      Transition.EachStep step TakesOwnNode (launched accounts database) es) := by
  refine ⟨?_, ?_, ?_, ?_⟩
  · exact Transition.along_iff_eachStep (J := Logged)
      (fun hlogged _ _ hstep => hlogged.step hstep)
      (fun hlogged honce hstep => hlogged.exactlyOnce_step_iff honce hstep)
      (logged_launched accounts database) (exactlyOnce_launched accounts database)
  · exact Transition.eachStep_iff_of_invariant (I := fun _ => True)
      (fun _ hstep => ⟨leavesDatabase_iff hstep, trivial⟩) trivial
  · exact Transition.along_iff_eachStep (J := fun _ => True) (fun _ _ _ _ => trivial)
      (fun _ hhold hstep => hhold.step_iff hstep) trivial
      (everyRegistered_launched accounts database _)
  · exact Transition.along_iff_eachStep (J := fun _ => True) (fun _ _ _ _ => trivial)
      (fun _ hapart hstep => hapart.step_iff hstep) trivial
      (everyRegistered_launched accounts database _)

/-- One successful call tells its completion twice; a second attempt with an e-mail in use fails
and yet changes the name; two e-mails that differ in '@' and '.' get one node. -/
theorem registrations_break :
    (∃ manager, Transition.run step (launched [] fun _ => none)
        [.registerNewUser "ann" "a@b.c" "secret", .didCreateUser 0 true, .didSetValue 0 true] =
          some manager ∧ ¬ manager.ExactlyOnce) ∧
    (∃ manager, Transition.run step (launched [] fun _ => none)
        [.registerNewUser "ann" "a@b.c" "secret", .didCreateUser 0 true, .didSetValue 0 true,
          .registerNewUser "bob" "a@b.c" "guessed", .didCreateUser 1 false] = some manager ∧
          ¬ manager.LeavesDatabase (.didSetValue 1 true)) ∧
    (∃ manager, Transition.run step (launched [] fun _ => none)
        [.registerNewUser "ann" "a.b@c.de" "secret", .didCreateUser 0 true, .didSetValue 0 true,
          .registerNewUser "bob" "a@b.c.de" "secret", .didCreateUser 1 true, .didSetValue 1 true] =
          some manager ∧ ¬ manager.NodesHold ∧ ¬ manager.NodesApart) := by
  refine ⟨?_, ?_, ?_⟩
  · have hvalue : (Transition.run step (launched [] fun _ => none)
        [.registerNewUser "ann" "a@b.c" "secret", .didCreateUser 0 true,
          .didSetValue 0 true]).map AuthManager.calls =
        some [{ username := "ann", email := "a@b.c", password := "secret"
                stage := .returned true true, completions := [true, true] }] := by
      decide +kernel
    rcases Option.map_eq_some_iff.1 hvalue with ⟨manager, hrun, hcalls⟩
    refine ⟨manager, hrun, fun honce => ?_⟩
    unfold ExactlyOnce at honce
    rw [hcalls] at honce
    have htwo := (honce _ (List.mem_singleton.2 rfl)).1
    exact absurd htwo (by decide)
  · have hvalue : (Transition.run step (launched [] fun _ => none)
        [.registerNewUser "ann" "a@b.c" "secret", .didCreateUser 0 true, .didSetValue 0 true,
          .registerNewUser "bob" "a@b.c" "guessed", .didCreateUser 1 false]).map
          (fun manager => (manager.calls[1]?.map RegisterCall.stage,
            manager.database (child "a-b-c").usernameLeaf,
            (manager.step (.didSetValue 1 true)).map fun next =>
              next.database (child "a-b-c").usernameLeaf)) =
        some (some (.inserting false), some "ann", some (some "bob")) := by
      decide +kernel
    rcases Option.map_eq_some_iff.1 hvalue with ⟨manager, hrun, hmanager⟩
    rw [Prod.mk.injEq, Prod.mk.injEq] at hmanager
    rcases hmanager with ⟨hstage, hbefore, hafter⟩
    refine ⟨manager, hrun, fun hleaves => ?_⟩
    rcases Option.map_eq_some_iff.1 hafter with ⟨next, hnext, hnew⟩
    have hsame := hleaves (Option.map_eq_some_iff.1 hstage) next hnext
    rw [hsame, hbefore] at hnew
    exact absurd hnew (by decide)
  · have hvalue : (Transition.run step (launched [] fun _ => none)
        [.registerNewUser "ann" "a.b@c.de" "secret", .didCreateUser 0 true, .didSetValue 0 true,
          .registerNewUser "bob" "a@b.c.de" "secret", .didCreateUser 1 true,
          .didSetValue 1 true]).map
          (fun manager => (manager.calls, manager.database (child "a-b-c-de").usernameLeaf)) =
        some
          ([{ username := "ann", email := "a.b@c.de", password := "secret"
              stage := .returned true true, completions := [true, true] },
            { username := "bob", email := "a@b.c.de", password := "secret"
              stage := .returned true true, completions := [true, true] }], some "bob") := by
      decide +kernel
    rcases Option.map_eq_some_iff.1 hvalue with ⟨manager, hrun, hmanager⟩
    rw [Prod.mk.injEq] at hmanager
    rcases hmanager with ⟨hcalls, hleaf⟩
    have hann : safeDatabaseKey "a.b@c.de" = "a-b-c-de" := by
      decide +kernel
    have hbob : safeDatabaseKey "a@b.c.de" = "a-b-c-de" := by
      decide +kernel
    refine ⟨manager, hrun, fun hhold => ?_, fun hapart => ?_⟩
    · unfold NodesHold at hhold
      rw [hcalls] at hhold
      have hname := hhold _ List.mem_cons_self rfl
      simp only [RegisterCall.node, hann, hleaf] at hname
      exact absurd hname (by decide)
    · unfold NodesApart at hapart
      rw [hcalls] at hapart
      have hne := hapart _ List.mem_cons_self rfl _ (List.mem_cons_of_mem _ List.mem_cons_self) rfl
        (by decide)
      simp only [RegisterCall.node, hann, hbob] at hne
      exact hne rfl

end AuthManager

end MoviePlayList
