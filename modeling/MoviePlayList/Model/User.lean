import MoviePlayList.Model.Dictionary

/-!
# User — uids and the decoded profile document
-/

namespace MoviePlayList

/-- The uid of a user. -/
structure Uid where
  val : String
  ne_empty : val ≠ ""
  no_slash : '/' ∉ val.toList
  deriving DecidableEq

/-- A uid to run the app with. -/
def sampleUid : Uid := ⟨"u1", by decide, by decide⟩

structure User where
  uid : String
  email : String
  nickname : String
  profileImageUrl : String
  deriving DecidableEq, Repr

/-- `User.init(dictionary:)` -/
def User.init (dictionary : Dictionary) : User where
  uid := (dictionary.string "uid").getD ""
  profileImageUrl := (dictionary.string "profileImageUrl").getD ""
  email := (dictionary.string "email").getD ""
  nickname := (dictionary.string "nickname").getD ""

end MoviePlayList
