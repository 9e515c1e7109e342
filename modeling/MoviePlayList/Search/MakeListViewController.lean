import MoviePlayList.Lib.Transition
import MoviePlayList.Search.MovieDetailViewController

/-!
# MakeListViewController — the search screen and its main-queue events

The controller keeps one optional `SearchResult`.  A response replaces it at once and queues a
block that reloads the grid; a tab switch empties it and reloads at once.  Between two blocks of
the main queue the grid may ask for cells and report taps, at indices below the count it was given
at its last reload.  Several searches may be waiting for their responses, which arrive in any
order.

The state carries two history fields that no handler reads: `reloaded`, the list of the last
reload, and `held`, the number of the search whose response `data` is.
-/

namespace MoviePlayList

/-- A runtime error of the Swift program. -/
inductive Trap
  | indexOutOfRange
  deriving DecidableEq, Repr

/-- `UICollectionView` as the controller sees it: the count of the last reload and the movies the
cells configured since then show. -/
structure CollectionView where
  count : Nat := 0
  cells : Nat → Option MovieInfo := fun _ => none

structure MakeListViewController where
  data : Option SearchResult := none
  collectionV : CollectionView := {}
  /-- reload blocks waiting on the main queue -/
  reloads : Nat := 0
  /-- how many searches were submitted; the next one gets this number -/
  searches : Nat := 0
  /-- searches without a response, with their keywords -/
  requests : List (Nat × String) := []
  /-- how often `animateWarning` ran -/
  warnings : Nat := 0
  /-- the detail screen pushed last -/
  pushed : Option MovieDetailViewController := none
  trap : Option Trap := none
  reloaded : List MovieInfo := []
  held : Option Nat := none

/-- The result after `items.removeAll()`. -/
def SearchResult.removeAllItems (result : SearchResult) : SearchResult :=
  { result with items := [] }

@[simp] theorem SearchResult.removeAllItems_removeAllItems (result : SearchResult) :
    result.removeAllItems.removeAllItems = result.removeAllItems := rfl

namespace MakeListViewController

/-- `data?.items ?? []` -/
def items (self : MakeListViewController) : List MovieInfo :=
  match self.data with
  | none => []
  | some result => result.items

/-! ## The handlers -/

/-- `collectionView(_:numberOfItemsInSection:)` -/
def numberOfItemsInSection (self : MakeListViewController) : Nat :=
  match self.data with
  | none => 0
  | some result => result.items.length

/-- `data?.items[index]`, the subscript both cell handlers use. -/
def subscript (self : MakeListViewController) (index : Nat) : Except Trap (Option MovieInfo) :=
  match self.data with
  | none => .ok none
  | some result =>
      match result.items[index]? with
      | none => .error .indexOutOfRange
      | some movie => .ok (some movie)

/-- `collectionV.reloadData()`: the grid asks for the count again and drops its cells. -/
def reloadData (self : MakeListViewController) : MakeListViewController :=
  { self with
    -- cells are asked for again from here on
    collectionV := { count := self.numberOfItemsInSection }
    reloaded := self.items }

/-- `textFieldShouldReturn`: submit the text of the search bar, `searchMovie`. -/
def textFieldShouldReturn (self : MakeListViewController) (text : String) :
    MakeListViewController :=
  { self with
    searches := self.searches + 1
    requests := self.requests ++ [(self.searches, text)] }

/-- The completion `searchMovie` passes to `requestSearchAPI`: replace the data, queue a reload. -/
def searchCompletion (self : MakeListViewController) (number : Nat) (data : SearchResult) :
    MakeListViewController :=
  { self with
    data := some data
    -- `DispatchQueue.main.async`: the grid keeps its old count until the block runs
    reloads := self.reloads + 1
    held := some number }

/-- A response of the search API; `requestSearchAPI` calls its completion only when there is a
body and it decodes. -/
def respond (self : MakeListViewController) (number : Nat) (answer : Option SearchResult) :
    MakeListViewController :=
  let waiting := { self with requests := self.requests.filter (fun r => r.1 ≠ number) }
  match answer with
  -- no body, or it does not decode
  | none => waiting
  | some data => waiting.searchCompletion number data

/-- The block queued by `searchCompletion`. -/
def reloadBlock (self : MakeListViewController) : MakeListViewController :=
  let reloaded := { self with reloads := self.reloads - 1 }.reloadData
  if self.data.map (·.total) = some 0 then
    { reloaded with warnings := reloaded.warnings + 1 }
  else
    reloaded

/-- `tabBarController(_:didSelect:)`: `data?.items.removeAll()` and reload at once. -/
def tabBarDidSelect (self : MakeListViewController) : MakeListViewController :=
  let emptied := { self with data := self.data.map SearchResult.removeAllItems }
  emptied.reloadData

/-- `collectionView(_:cellForItemAt:)`: the cell at `row` now shows `data?.items[row]`. -/
def cellForItemAt (self : MakeListViewController) (row : Nat) : MakeListViewController :=
  match self.subscript row with
  -- an index that the items no longer have
  | .error trap => { self with trap := some trap }
  | .ok movie =>
      { self with
        collectionV :=
          { self.collectionV with cells := Function.update self.collectionV.cells row movie } }

/-- `collectionView(_:didSelectItemAt:)`: push a detail screen for `data?.items[item]`. -/
def didSelectItemAt (self : MakeListViewController) (item : Nat) : MakeListViewController :=
  match self.subscript item with
  | .error trap => { self with trap := some trap }
  -- `guard let` on a missing result
  | .ok none => self
  | .ok (some movie) => { self with pushed := some (.opened movie) }

/-! ## Runs -/

inductive Event
  | textFieldShouldReturn (text : String)
  | respond (number : Nat) (answer : Option SearchResult)
  | reloadBlock
  | tabBarDidSelect
  | cellForItemAt (row : Nat)
  | didSelectItemAt (item : Nat)
  deriving DecidableEq

/-- Which events UIKit and the main queue can deliver in a state. -/
def Enabled (self : MakeListViewController) : Event → Prop
  | .textFieldShouldReturn _ => True
  | .respond number _ => number ∈ self.requests.map Prod.fst
  | .reloadBlock => 0 < self.reloads
  | .tabBarDidSelect => True
  | .cellForItemAt row => row < self.collectionV.count
  | .didSelectItemAt item =>
      item < self.collectionV.count ∧ (self.collectionV.cells item).isSome = true

instance (self : MakeListViewController) (e : Event) : Decidable (self.Enabled e) :=
  match e with
  | .textFieldShouldReturn _ => inferInstanceAs (Decidable True)
  | .respond number _ => inferInstanceAs (Decidable (number ∈ self.requests.map Prod.fst))
  | .reloadBlock => inferInstanceAs (Decidable (0 < self.reloads))
  | .tabBarDidSelect => inferInstanceAs (Decidable True)
  | .cellForItemAt row => inferInstanceAs (Decidable (row < self.collectionV.count))
  | .didSelectItemAt item =>
      inferInstanceAs (Decidable
        (item < self.collectionV.count ∧ (self.collectionV.cells item).isSome = true))

def handle (self : MakeListViewController) : Event → MakeListViewController
  | .textFieldShouldReturn text => self.textFieldShouldReturn text
  | .respond number answer => self.respond number answer
  | .reloadBlock => self.reloadBlock
  | .tabBarDidSelect => self.tabBarDidSelect
  | .cellForItemAt row => self.cellForItemAt row
  | .didSelectItemAt item => self.didSelectItemAt item

/-- One event; a trapped program takes no further step. -/
def step (self : MakeListViewController) (e : Event) : Option MakeListViewController :=
  if self.trap = none ∧ self.Enabled e then some (self.handle e) else none

/-- The screen after `viewDidLoad`. -/
def loaded : MakeListViewController := {}

theorem step_eq_some {self next : MakeListViewController} {e : Event} :
    self.step e = some next ↔ self.trap = none ∧ self.Enabled e ∧ next = self.handle e := by
  unfold step
  split
  · next h => simp [h, eq_comm]
  · next h =>
      constructor
      · intro hnone
        cases hnone
      · rintro ⟨htrap, hen, _⟩
        exact absurd ⟨htrap, hen⟩ h

theorem numberOfItemsInSection_eq (self : MakeListViewController) :
    self.numberOfItemsInSection = self.items.length := by
  unfold numberOfItemsInSection items
  cases self.data <;> rfl

/-- The subscript succeeds with a movie exactly at the indices of the list held. -/
theorem subscript_eq_ok_some {self : MakeListViewController} {index : Nat} {movie : MovieInfo} :
    self.subscript index = .ok (some movie) ↔ self.items[index]? = some movie := by
  unfold subscript items
  cases self.data with
  | none =>
      simp
  | some result =>
      cases h : result.items[index]? with
      | none =>
          simp [h]
      | some m =>
          simp [h]

@[simp] theorem collectionV_reloadData (self : MakeListViewController) :
    self.reloadData.collectionV = { count := self.items.length } := by
  simp [reloadData, numberOfItemsInSection_eq]

@[simp] theorem reloaded_reloadData (self : MakeListViewController) :
    self.reloadData.reloaded = self.items := rfl

@[simp] theorem trap_reloadData (self : MakeListViewController) :
    self.reloadData.trap = self.trap := rfl

/-- A search result with these movies. -/
def sampleResult (titles : List String) : SearchResult where
  lastBuildDate := ""
  total := titles.length
  start := 1
  display := titles.length
  items := titles.map sampleMovie

end MakeListViewController

end MoviePlayList
