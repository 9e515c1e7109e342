import MoviePlayList.Model.User
import Mathlib.Logic.Function.Basic

/-!
# Backend — the three Firebase stores and the calls that are waiting for them

`AuthServiece.createUser`, `Service.updateUserData` and `Service.LoginUser` are chains of callbacks
over Auth, Storage and Firestore.  A call is recorded under a number of its own with the step it
waits for and the values its closures have captured so far; a call that has returned keeps the
stage it returned from.  Each record logs every invocation of the completion.

Two history fields are read only by the guards of the stores: `owner`, the call a storage reference
was made for (names from `NSUUID` are fresh), and `creator`, the call that created an account.
-/

namespace MoviePlayList

abbrev Data := List UInt8

/-- An error object handed to a callback. -/
abbrev NSError := String

structure UIImage where
  /-- `jpegData(compressionQuality: 0.3)` -/
  jpegData : Option Data
  deriving DecidableEq

structure ProfileAuth where
  email : String
  password : String
  nickname : String
  profileImage : UIImage
  deriving DecidableEq

/-- `Storage.storage().reference(withPath:)` -/
structure StorageReference where
  path : String
  deriving DecidableEq

structure StoredImage where
  data : Data
  /-- the call that uploaded it -/
  uploader : Nat
  deriving DecidableEq

structure Account where
  uid : Uid
  email : String
  password : String
  deriving DecidableEq

/-! ## Calls -/

/-- `AuthServiece.createUser`: the callback waited for, or the statement returned from. -/
inductive CreateUserStage
  | putData (storage : StorageReference) (imageData : Data)
  | downloadURL (storage : StorageReference)
  | createUser (storage : StorageReference) (profileImageUrl : String)
  | setData (storage : StorageReference) (profileImageUrl : String) (uid : Uid)
  | noImageData
  | uploadFailed (storage : StorageReference) (error : NSError)
  | noUrl (storage : StorageReference)
  | accountFailed (storage : StorageReference) (profileImageUrl : String) (error : NSError)
  | profileFailed (storage : StorageReference) (profileImageUrl : String) (uid : Uid)
      (error : NSError)
  | completed (storage : StorageReference) (profileImageUrl : String) (uid : Uid)
  deriving DecidableEq

structure CreateUserCall where
  profileAuth : ProfileAuth
  stage : CreateUserStage
  completions : List (Option NSError) := []
  deriving DecidableEq

/-- `Service.updateUserData`.  The error of the upload stays in scope after it was reported. -/
inductive UpdateUserDataStage
  | putData (ref : StorageReference) (imageData : Data)
  | downloadURL (ref : StorageReference) (error : Option NSError)
  | updateData (ref : StorageReference) (profileImageUrl : String)
  | noUser
  | noImageData
  | noUrl (ref : StorageReference) (error : Option NSError)
  | updateFailed (ref : StorageReference) (profileImageUrl : String) (error : NSError)
  | written (ref : StorageReference) (profileImageUrl : String)
  deriving DecidableEq

structure UpdateUserDataCall where
  currentUid : Option Uid
  stage : UpdateUserDataStage
  completions : List (Option NSError) := []
  deriving DecidableEq

/-- `Service.LoginUser` -/
inductive LoginUserStage
  | getDocument
  | noUser
  | getFailed (error : NSError)
  | noDocument
  | answered
  deriving DecidableEq

structure LoginUserCall where
  currentUid : Option Uid
  stage : LoginUserStage
  completions : List (List User) := []
  deriving DecidableEq

inductive Call
  | createUser (call : CreateUserCall)
  | updateUserData (call : UpdateUserDataCall)
  | loginUser (call : LoginUserCall)
  deriving DecidableEq

structure Backend where
  accounts : List Account := []
  /-- the uid of `Auth.auth().currentUser` -/
  currentUser : Option Uid := none
  images : StorageReference → Option StoredImage := fun _ => none
  /-- `Firestore.firestore().collection("users")` -/
  users : Uid → Option Dictionary := fun _ => none
  calls : Nat → Option Call := fun _ => none
  nextCall : Nat := 0
  owner : StorageReference → Option Nat := fun _ => none
  creator : Uid → Option Nat := fun _ => none

namespace Backend

/-- Before the first call; accounts may exist, and a sign-in may have been kept. -/
def launched (accounts : List Account) (currentUser : Option Uid) : Backend where
  accounts := accounts
  currentUser := currentUser

/-- A new call. -/
def start (self : Backend) (call : Call) : Backend :=
  { self with
    calls := Function.update self.calls self.nextCall (some call)
    nextCall := self.nextCall + 1 }

/-- A new call that has made a storage reference. -/
def startWith (self : Backend) (storage : StorageReference) (call : Call) : Backend :=
  { self with
    calls := Function.update self.calls self.nextCall (some call)
    nextCall := self.nextCall + 1
    -- the name is taken from here on, even if nothing is ever stored there
    owner := Function.update self.owner storage (some self.nextCall) }

/-- A call goes on or returns. -/
def setCall (self : Backend) (id : Nat) (call : Call) : Backend :=
  { self with calls := Function.update self.calls id (some call) }

/-- `putData` succeeds. -/
def storeImage (self : Backend) (id : Nat) (storage : StorageReference) (imageData : Data) :
    Backend :=
  { self with images := Function.update self.images storage (some ⟨imageData, id⟩) }

/-- `Auth.auth().createUser` succeeds; the new account is signed in. -/
def addAccount (self : Backend) (id : Nat) (account : Account) : Backend :=
  { self with
    accounts := self.accounts ++ [account]
    -- `createUser` signs the new account in, whoever was signed in before
    currentUser := some account.uid
    creator := Function.update self.creator account.uid (some id) }

/-- `setData` or `updateData` succeeds. -/
def writeUser (self : Backend) (uid : Uid) (data : Dictionary) : Backend :=
  { self with users := Function.update self.users uid (some data) }

end Backend

end MoviePlayList
