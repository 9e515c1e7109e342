import MoviePlayList.Model.Dictionary

/-!
# Review — the decoded document of a review
-/

namespace MoviePlayList

structure Review where
  text : String
  movieTitle : String
  timestamp : Timestamp
  deriving DecidableEq, Repr

/-- `Review.init(dictionary:)`; `now` is the value of `Timestamp(date: Date())` at the call, the
default of a missing or mistyped time. -/
def Review.init (now : Timestamp) (dictionary : Dictionary) : Review where
  text := (dictionary.string "text").getD ""
  movieTitle := (dictionary.string "movieTitle").getD ""
  timestamp := (dictionary.timestamp "timestamp").getD now

end MoviePlayList
