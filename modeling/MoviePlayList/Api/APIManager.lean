import Mathlib.Data.List.Permutation
import Mathlib.Data.List.TakeWhile
import MoviePlayList.Api.Backend
import MoviePlayList.Lib.PercentEncoding
import MoviePlayList.Lib.Transition
import MoviePlayList.Model.MakeListData

/-!
# APIManager — the two implementations of the movie search

`requestSearchAPI` leaves the query to Alamofire, which escapes the value of the parameter on its
own.  `requestAPI` writes the value into the URL first and escapes the whole afterwards, so that
signs a query may contain are left as they are.  It also hands its list to the completion at once,
while the decoded result is appended to it by a block on the main queue.

`agrees_iff` says for which queries and in which order of the two blocks they do the same.
Strings are compared by their UTF-8 bytes.
-/

namespace MoviePlayList

open PercentEncoding

/-- The UTF-8 bytes of a string. -/
def utf8 (s : String) : List UInt8 := s.toList.flatMap String.utf8EncodeChar

theorem utf8_append (s t : String) : utf8 (s ++ t) = utf8 s ++ utf8 t := by
  simp [utf8]

theorem eq_ofNat_iff {b : UInt8} {n : Nat} (hn : n < 256) : b = UInt8.ofNat n ↔ b.toNat = n := by
  rw [← UInt8.toNat_inj, UInt8.toNat_ofNat', Nat.mod_eq_of_lt hn]

/-- A byte below 128 only encodes the character it is the code of. -/
theorem mem_utf8EncodeChar_iff {b : UInt8} (hb : b.toNat < 128) (c : Char) :
    b ∈ String.utf8EncodeChar c ↔ c.toNat = b.toNat := by
  have hval : c.val.toNat = c.toNat := rfl
  -- the bytes of a longer encoding all have their highest bit set
  have htrail : ∀ n, b ≠ UInt8.ofNat (n % 64 + 128) := by
    intro n heq
    rw [eq_ofNat_iff (by omega)] at heq
    omega
  have hlead : ∀ n, 128 ≤ n → n < 256 → b ≠ UInt8.ofNat n := by
    intro n hlow hhigh heq
    rw [eq_ofNat_iff hhigh] at heq
    omega
  unfold String.utf8EncodeChar
  simp only [hval]
  split
  · rw [List.mem_singleton, eq_ofNat_iff (by omega)]
    exact eq_comm
  · refine iff_of_false ?_ (by omega)
    split
    · simp only [List.mem_cons, List.not_mem_nil, or_false, not_or]
      exact ⟨hlead _ (by omega) (by omega), htrail _⟩
    · split
      · simp only [List.mem_cons, List.not_mem_nil, or_false, not_or]
        exact ⟨hlead _ (by omega) (by omega), htrail _, htrail _⟩
      · simp only [List.mem_cons, List.not_mem_nil, or_false, not_or]
        exact ⟨hlead _ (by omega) (by omega), htrail _, htrail _, htrail _⟩

/-- An ASCII character is in a string exactly when its code is among the bytes. -/
theorem mem_utf8_iff {b : UInt8} {c : Char} (hb : b.toNat < 128) (hc : c.toNat = b.toNat)
    (s : String) : b ∈ utf8 s ↔ c ∈ s.toList := by
  rw [utf8, List.mem_flatMap]
  constructor
  · rintro ⟨d, hd, hmem⟩
    have hcode : d.toNat = c.toNat := ((mem_utf8EncodeChar_iff hb d).1 hmem).trans hc.symm
    exact Char.toNat_inj.1 hcode ▸ hd
  · intro hmem
    exact ⟨c, hmem, (mem_utf8EncodeChar_iff hb c).2 hc⟩

/-! ## Foundation and Alamofire -/

def isAlphanumeric (b : UInt8) : Bool :=
  (0x30 ≤ b && b ≤ 0x39) || (0x41 ≤ b && b ≤ 0x5A) || (0x61 ≤ b && b ≤ 0x7A)

/-- Foundation's `CharacterSet.urlQueryAllowed`. -/
def urlQueryAllowed (b : UInt8) : Bool :=
  isAlphanumeric b || (utf8 "!$&\x27()*+,-./:;=?@_~").contains b

/-- Alamofire's `CharacterSet.afURLQueryAllowed`. -/
def afURLQueryAllowed (b : UInt8) : Bool :=
  urlQueryAllowed b && !(utf8 ":#[]@!$&\x27()*+,;=").contains b

/-- `addingPercentEncoding(withAllowedCharacters:)` -/
def addingPercentEncoding (s : String) (allowed : UInt8 → Bool) : List UInt8 :=
  encode allowed (utf8 s)

/-- The query part of a URL: what stands behind the first question mark, up to a fragment. -/
def queryPart (url : List UInt8) : List UInt8 :=
  ((url.dropWhile (· ≠ 0x3F)).drop 1).takeWhile (· ≠ 0x23)

/-- Alamofire's `URLEncoding.query` for string parameters in the order of their keys. -/
def query (parameters : List (String × String)) : List UInt8 :=
  let components := parameters.map fun (key, value) =>
    addingPercentEncoding key afURLQueryAllowed ++
      utf8 "=" ++ addingPercentEncoding value afURLQueryAllowed
  List.intercalate (utf8 "&") components

/-- Alamofire's `URLEncoding.encode` on a URL that has no query yet. -/
def encodeParameters (url : String) (parameters : List (String × String)) : List UInt8 :=
  if parameters.isEmpty then utf8 url else utf8 url ++ utf8 "?" ++ query parameters

/-! ## The two requests -/

/-- The URL `requestSearchAPI` asks for. -/
def requestSearchAPIURL (queryValue : String) : List UInt8 :=
  encodeParameters "https://openapi.naver.com/v1/search/movie.json" [("query", queryValue)]

/-- The URL `requestAPI` asks for. -/
def requestAPIURL (queryValue : String) : List UInt8 :=
  addingPercentEncoding ("https://openapi.naver.com/v1/search/movie.json?query=" ++ queryValue)
    urlQueryAllowed

/-- What a request comes back with. -/
structure Response where
  error : Option NSError
  data : Option Data
  deriving DecidableEq

section Delivery

-- `JSONDecoder().decode(SearchResult.self, from:)`; `none` is a thrown error
variable (decode : Data → Option SearchResult)

/-- The response handler of `requestSearchAPI`: what its completion is called with. -/
def requestSearchAPIResponse (response : Response) : Option SearchResult :=
  match response.data with
  | none => none
  | some jsonData => decode jsonData

/-- The state of one `requestAPI` call. -/
structure RequestAPI where
  searchData : List SearchResult := []
  /-- the data task has not come back -/
  running : Bool := true
  /-- the append block waiting on the main queue -/
  appending : Option SearchResult := none
  /-- the task is about to call the completion -/
  completing : Bool := false
  /-- what the completion was called with so far -/
  received : List (List SearchResult) := []
  deriving DecidableEq

namespace RequestAPI

/-- `completion(searchData)` -/
def completion (self : RequestAPI) : RequestAPI :=
  { self with received := self.received ++ [self.searchData] }

/-- The completion handler of the data task, up to the call of the completion when the data
decodes. -/
def dataTask (self : RequestAPI) (response : Response) : RequestAPI :=
  let returned := { self with running := false }
  match response.error, response.data with
  | some _, _ => returned.completion
  | none, none => returned.completion
  | none, some data =>
      match decode data with
      | none => returned
      -- `DispatchQueue.main.async`: the block and the rest of the task run on different queues
      | some searchInfo => { returned with appending := some searchInfo, completing := true }

inductive Event
  | dataTask (response : Response)
  | appendBlock
  | completionCall
  deriving DecidableEq

def step (self : RequestAPI) : Event → Option RequestAPI
  | .dataTask response => if self.running then some (self.dataTask decode response) else none
  | .appendBlock =>
      match self.appending with
      | none => none
      | some searchInfo =>
          some { self with searchData := self.searchData ++ [searchInfo], appending := none }
  | .completionCall =>
      if self.completing then some { self.completion with completing := false } else none

end RequestAPI

/-! ## Agreement -/

/-- The parameters a request has to carry. -/
def searchParameters (queryValue : String) : List (List UInt8 × List UInt8) :=
  [(utf8 "query", utf8 queryValue)]

/-- Both requests carry the query, and what `requestSearchAPI` hands to its completion for a body
`requestAPI` hands to its own as a list of one, when the blocks run in this order. -/
structure Agrees (queryValue : String) (body : Data) (searchInfo : SearchResult)
    (order : List RequestAPI.Event) : Prop where
  searchQuery : parameters (queryPart (requestSearchAPIURL queryValue)) =
    searchParameters queryValue
  query : parameters (queryPart (requestAPIURL queryValue)) = searchParameters queryValue
  searchReceives : requestSearchAPIResponse decode ⟨none, some body⟩ = some searchInfo
  receives : ∃ s, Transition.run (RequestAPI.step decode) {}
    (.dataTask ⟨none, some body⟩ :: order) = some s ∧ s.received = [[searchInfo]]

end Delivery

/-! ### The query -/

/-- The query part is what a question mark separates from an address without one. -/
theorem queryPart_append {address rest : List UInt8} (haddress : (0x3F : UInt8) ∉ address)
    (hrest : (0x23 : UInt8) ∉ rest) : queryPart (address ++ 0x3F :: rest) = rest := by
  have hmark : ∀ b ∈ address, decide (b ≠ 0x3F) = true := fun b hb => by
    have hne : b ≠ 0x3F := fun heq => haddress (heq ▸ hb)
    simp [hne]
  have hdrop : (address ++ 0x3F :: rest).dropWhile (· ≠ 0x3F) = 0x3F :: rest := by
    rw [List.dropWhile_append_of_pos hmark]
    simp
  have hhash : ∀ b ∈ rest, decide (b ≠ 0x23) = true := fun b hb => by
    have hne : b ≠ 0x23 := fun heq => hrest (heq ▸ hb)
    simp [hne]
  rw [queryPart, hdrop, List.drop_one, List.tail_cons, List.takeWhile_eq_self_iff.2 hhash]

theorem plain_query : Plain (utf8 "query") := by
  decide +kernel

/-- A number sign is never left in an encoded query. -/
theorem hash_not_mem_query {allowed : UInt8 → Bool} (hhash : allowed 0x23 = false)
    (bytes : List UInt8) : (0x23 : UInt8) ∉ utf8 "query" ++ equals :: encode allowed bytes := by
  rw [List.mem_append, List.mem_cons, mem_encode_iff (by decide), hhash]
  rintro (hname | heq | ⟨_, h⟩)
  · exact absurd hname (by decide)
  · exact absurd heq (by decide)
  · cases h

theorem queryPart_requestSearchAPIURL (queryValue : String) :
    queryPart (requestSearchAPIURL queryValue) =
      utf8 "query" ++ equals :: encode afURLQueryAllowed (utf8 queryValue) := by
  have hurl : requestSearchAPIURL queryValue =
      utf8 "https://openapi.naver.com/v1/search/movie.json" ++
        0x3F :: (utf8 "query" ++ equals :: encode afURLQueryAllowed (utf8 queryValue)) := by
    have hkey : encode afURLQueryAllowed (utf8 "query") = utf8 "query" :=
      encode_eq_self (by decide +kernel)
    have hmark : utf8 "?" = [0x3F] := by decide
    have hequals : utf8 "=" = [equals] := by decide
    simp [requestSearchAPIURL, encodeParameters, MoviePlayList.query, addingPercentEncoding, hkey,
      hmark, hequals]
  rw [hurl]
  exact queryPart_append (by decide +kernel) (hash_not_mem_query (by decide) _)

theorem queryPart_requestAPIURL (queryValue : String) :
    queryPart (requestAPIURL queryValue) =
      utf8 "query" ++ equals :: encode urlQueryAllowed (utf8 queryValue) := by
  have hurl : requestAPIURL queryValue =
      utf8 "https://openapi.naver.com/v1/search/movie.json" ++
        0x3F :: (utf8 "query" ++ equals :: encode urlQueryAllowed (utf8 queryValue)) := by
    have haddress : encode urlQueryAllowed
        (utf8 "https://openapi.naver.com/v1/search/movie.json?query=") =
          utf8 "https://openapi.naver.com/v1/search/movie.json?query=" :=
      encode_eq_self (by decide +kernel)
    have hparts : utf8 "https://openapi.naver.com/v1/search/movie.json?query=" =
        utf8 "https://openapi.naver.com/v1/search/movie.json" ++
          0x3F :: (utf8 "query" ++ [equals]) := by
      decide +kernel
    rw [requestAPIURL, addingPercentEncoding, utf8_append, encode_append, haddress, hparts]
    simp
  rw [hurl]
  exact queryPart_append (by decide +kernel) (hash_not_mem_query (by decide) _)

/-- Alamofire escapes what a form is split at, so the query always arrives. -/
theorem parameters_requestSearchAPIURL (queryValue : String) :
    parameters (queryPart (requestSearchAPIURL queryValue)) = searchParameters queryValue := by
  have hamp : afURLQueryAllowed ampersand = false := by decide
  have hplus : afURLQueryAllowed plus = false := by decide
  rw [queryPart_requestSearchAPIURL, searchParameters,
    parameters_pair_iff (by decide) plain_query, hamp, hplus]
  simp

/-- Escaping the whole URL leaves ampersands and plus signs alone. -/
theorem parameters_requestAPIURL_iff (queryValue : String) :
    parameters (queryPart (requestAPIURL queryValue)) = searchParameters queryValue ↔
      '&' ∉ queryValue.toList ∧ '+' ∉ queryValue.toList := by
  have hamp : urlQueryAllowed ampersand = true := by decide
  have hplus : urlQueryAllowed plus = true := by decide
  rw [queryPart_requestAPIURL, searchParameters, parameters_pair_iff (by decide) plain_query,
    hamp, hplus, ← mem_utf8_iff (b := ampersand) (c := '&') (by decide) (by decide),
    ← mem_utf8_iff (b := plus) (c := '+') (by decide) (by decide)]
  simp

/-! ### The delivery -/

/-- After a body that decodes, the completion receives the result exactly when the block on the main
queue was first. -/
theorem receives_iff {decode : Data → Option SearchResult} {body : Data}
    {searchInfo : SearchResult} (hbody : decode body = some searchInfo)
    {order : List RequestAPI.Event} (horder : order.Perm [.appendBlock, .completionCall]) :
    (∃ s, Transition.run (RequestAPI.step decode) {}
        (.dataTask ⟨none, some body⟩ :: order) = some s ∧ s.received = [[searchInfo]]) ↔
      order = [.appendBlock, .completionCall] := by
  have hcases : order = [.appendBlock, .completionCall] ∨
      order = [.completionCall, .appendBlock] := by
    have hmem := List.mem_permutations.2 horder
    simpa [List.permutations, List.permutationsAux_cons] using hmem
  have hstart : RequestAPI.step decode {} (.dataTask ⟨none, some body⟩) =
      some { running := false, appending := some searchInfo, completing := true } := by
    simp [RequestAPI.step, RequestAPI.dataTask, hbody]
  rcases hcases with rfl | rfl
  · have hrun : Transition.run (RequestAPI.step decode) {}
        [.dataTask ⟨none, some body⟩, .appendBlock, .completionCall] =
          some
            { running := false
              searchData := [searchInfo]
              received := [[searchInfo]] } := by
      rw [Transition.run, hstart]
      rfl
    exact iff_of_true ⟨_, hrun, rfl⟩ rfl
  · refine iff_of_false ?_ (by decide)
    rintro ⟨s, hs, hreceived⟩
    rw [Transition.run, hstart] at hs
    cases hs
    cases hreceived

/-- The two implementations agree exactly on the queries without ampersand and plus sign, when the
result has been appended before the completion is called. -/
theorem agrees_iff (decode : Data → Option SearchResult) (queryValue : String) {body : Data}
    {searchInfo : SearchResult} (hbody : decode body = some searchInfo)
    {order : List RequestAPI.Event} (horder : order.Perm [.appendBlock, .completionCall]) :
    Agrees decode queryValue body searchInfo order ↔
      ('&' ∉ queryValue.toList ∧ '+' ∉ queryValue.toList) ∧
        order = [.appendBlock, .completionCall] := by
  constructor
  · intro h
    exact ⟨(parameters_requestAPIURL_iff queryValue).1 h.query,
      (receives_iff hbody horder).1 h.receives⟩
  · rintro ⟨hquery, hfirst⟩
    exact
      { searchQuery := parameters_requestSearchAPIURL queryValue
        query := (parameters_requestAPIURL_iff queryValue).2 hquery
        searchReceives := hbody
        receives := (receives_iff hbody horder).2 hfirst }

/-- The result of a search that finds nothing, and the body it is sent as. -/
def emptyResult : SearchResult := ⟨"", 0, 1, 0, []⟩

def emptyBody : Data :=
  utf8 "\x7b\"lastBuildDate\":\"\",\"total\":0,\"start\":1,\"display\":0,\"items\":[]\x7d"

/-- A decoder that knows this one body. -/
def decodeEmptyBody (data : Data) : Option SearchResult :=
  if data = emptyBody then some emptyResult else none

theorem agrees_up_iff :
    Agrees decodeEmptyBody "Up" emptyBody emptyResult [.appendBlock, .completionCall] ↔
      ('&' ∉ "Up".toList ∧ '+' ∉ "Up".toList) ∧
        ([.appendBlock, .completionCall] : List RequestAPI.Event) =
          [.appendBlock, .completionCall] :=
  agrees_iff decodeEmptyBody "Up" (if_pos rfl) (List.Perm.refl _)

/-- `requestAPI` asks for "Tom " when "Tom & Jerry" is searched, and hands on an empty list when its
block on the main queue is late. -/
theorem not_agrees_ampersand_late :
    (parameters (queryPart (requestAPIURL "Tom & Jerry")) =
        [(utf8 "query", utf8 "Tom "), (utf8 " Jerry", [])] ∧
      ∀ order, ¬ Agrees decodeEmptyBody "Tom & Jerry" emptyBody emptyResult order) ∧
    (∃ s, Transition.run (RequestAPI.step decodeEmptyBody) {}
        [.dataTask ⟨none, some emptyBody⟩, .completionCall, .appendBlock] = some s ∧
      s.received = [[]]) ∧
    ¬ Agrees decodeEmptyBody "Up" emptyBody emptyResult [.completionCall, .appendBlock] := by
  refine ⟨⟨by decide +kernel, fun order h => ?_⟩, ⟨_, rfl, rfl⟩, fun h => ?_⟩
  · have hfree := (parameters_requestAPIURL_iff "Tom & Jerry").1 h.query
    exact absurd hfree (by decide)
  · have hfirst := (receives_iff (if_pos rfl) (by decide)).1 h.receives
    exact absurd hfirst (by decide)

end MoviePlayList
