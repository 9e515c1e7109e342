import MoviePlayList.Lib.ReplaceAll

/-!
# Extensions — the string helpers of `Resource/Extensions.swift`
-/

namespace MoviePlayList

/-- Foundation's `replacingOccurrences(of:with:)`, matching character by character. -/
def replacingOccurrences (self target replacement : String) : String :=
  String.ofList (ReplaceAll.replaceAll target.toList replacement.toList self.toList)

/-- `String.safeDatabaseKey()`: the name of an e-mail's node in the realtime database. -/
def safeDatabaseKey (self : String) : String :=
  replacingOccurrences (replacingOccurrences self "@" "-") "." "-"

/-- `String.stringChange()`: what the screens apply to a field of the search API before they
display it. -/
def stringChange (self : String) : String :=
  let noClose := replacingOccurrences self "</b>" ""
  let noOpen := replacingOccurrences noClose "<b>" ""
  let noAmp := replacingOccurrences noOpen "&amp" ""
  replacingOccurrences noAmp "|" ", "

end MoviePlayList
