import Mathlib.Logic.Basic

/-!
# MakeListData — the decoded answer of the movie search

The two `Decodable` structures of `Model/MakeListData.swift`.
-/

namespace MoviePlayList

structure MovieInfo where
  title : String
  link : String
  image : String
  subtitle : String
  pubDate : String
  director : String
  actor : String
  userRating : String
  deriving DecidableEq, Repr

structure SearchResult where
  lastBuildDate : String
  total : Int
  start : Int
  display : Int
  items : List MovieInfo
  deriving DecidableEq, Repr

end MoviePlayList
