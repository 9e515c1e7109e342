import MoviePlayList.Search.MakeListViewController

/-!
# GridSafety — cells and taps of the search grid

Between a response and its reload block the grid still believes in the old list.  As long as cells
and taps only come at indices where the list held is the one of the last reload, every subscript is
in bounds and every tap opens the movie its cell shows; otherwise a tap traps or opens another
movie.
-/

namespace MoviePlayList

namespace MakeListViewController

/-- What the screen owes UIKit at an event: a cell or tap index is in bounds, and a tap opens
exactly the movie its cell shows. -/
def Serves (self : MakeListViewController) : Event → Prop
  | .cellForItemAt row => ∃ movie, self.subscript row = .ok (some movie)
  | .didSelectItemAt item =>
      ∃ movie, self.collectionV.cells item = some movie ∧
        self.subscript item = .ok (some movie) ∧
        (self.didSelectItemAt item).pushed = some (.opened movie)
  | _ => True

/-- The list held agrees with the one the grid was last reloaded with at the index that is asked
for; this is so whenever no response has replaced the list since the last reload. -/
def UpToDate (self : MakeListViewController) : Event → Prop
  | .cellForItemAt index | .didSelectItemAt index => self.items[index]? = self.reloaded[index]?
  | _ => True

/-- The grid was given the length of `reloaded`, and its cells show movies of `reloaded`. -/
structure GridInv (vc : MakeListViewController) : Prop where
  trap : vc.trap = none
  count : vc.collectionV.count = vc.reloaded.length
  cells : ∀ index movie, vc.collectionV.cells index = some movie →
    vc.reloaded[index]? = some movie

theorem gridInv_loaded : GridInv loaded where
  trap := rfl
  count := rfl
  cells := by
    intro index movie h
    cases h

theorem gridInv_reloadData {self : MakeListViewController} (h : self.trap = none) :
    GridInv self.reloadData where
  trap := h
  count := by simp
  cells := by
    intro index movie hcell
    simp at hcell

/-- Handlers that leave the grid alone keep its invariant. -/
theorem GridInv.congr {self next : MakeListViewController} (h : GridInv self)
    (htrap : next.trap = self.trap) (hgrid : next.collectionV = self.collectionV)
    (hreloaded : next.reloaded = self.reloaded) : GridInv next where
  trap := htrap.trans h.trap
  count := by rw [hgrid, hreloaded, h.count]
  cells := by
    intro index movie hcell
    rw [hgrid] at hcell
    rw [hreloaded]
    exact h.cells index movie hcell

theorem GridInv.cellForItemAt {self : MakeListViewController} (h : GridInv self) {row : Nat}
    {movie : MovieInfo} (hsub : self.subscript row = .ok (some movie))
    (hnew : self.reloaded[row]? = some movie) : GridInv (self.cellForItemAt row) := by
  simp only [MakeListViewController.cellForItemAt, hsub]
  refine ⟨h.trap, h.count, ?_⟩
  intro index shown hcell
  -- the cell just configured shows the new movie, the others what they showed
  by_cases hidx : index = row
  · subst hidx
    simp only [Function.update_self, Option.some.injEq] at hcell
    exact hcell ▸ hnew
  · simp only [Function.update_of_ne hidx] at hcell
    exact h.cells index shown hcell

/-- One event: when the list held is up to date at the index asked for, the screen serves the
event and keeps the grid's invariant. -/
theorem serves_of_upToDate {self next : MakeListViewController} {e : Event} (h : GridInv self)
    (hup : self.UpToDate e) (hstep : self.step e = some next) :
    self.Serves e ∧ GridInv next := by
  rcases step_eq_some.1 hstep with ⟨_, hen, rfl⟩
  cases e with
  | textFieldShouldReturn text =>
      exact ⟨trivial, h.congr rfl rfl rfl⟩
  | respond number answer =>
      refine ⟨trivial, ?_⟩
      cases answer with
      | none =>
          exact h.congr rfl rfl rfl
      | some data =>
          exact h.congr rfl rfl rfl
  | reloadBlock =>
      refine ⟨trivial, ?_⟩
      have hreload : GridInv { self with reloads := self.reloads - 1 }.reloadData :=
        gridInv_reloadData h.trap
      simp only [handle, reloadBlock]
      split
      · exact hreload.congr rfl rfl rfl
      · exact hreload
  | tabBarDidSelect =>
      exact ⟨trivial, gridInv_reloadData h.trap⟩
  | cellForItemAt row =>
      -- UIKit only asks for rows below the count of the last reload
      have hlt : row < self.reloaded.length := h.count ▸ hen
      have hnew : self.reloaded[row]? = some self.reloaded[row] := List.getElem?_eq_getElem hlt
      have hsub : self.subscript row = .ok (some self.reloaded[row]) :=
        subscript_eq_ok_some.2 (hup.trans hnew)
      exact ⟨⟨_, hsub⟩, h.cellForItemAt hsub hnew⟩
  | didSelectItemAt item =>
      -- a tap needs a cell, and a cell shows a movie of the last reload
      rcases Option.isSome_iff_exists.1 hen.2 with ⟨movie, hcell⟩
      have hsub : self.subscript item = .ok (some movie) :=
        subscript_eq_ok_some.2 (hup.trans (h.cells item movie hcell))
      have hpush : (self.didSelectItemAt item).pushed = some (.opened movie) := by
        simp [didSelectItemAt, hsub]
      refine ⟨⟨movie, hcell, hsub, hpush⟩, ?_⟩
      simp only [handle, didSelectItemAt, hsub]
      exact h.congr rfl rfl rfl

/-- In every run in which cells and taps only come at indices where the list held is still the one
the grid was reloaded with, no subscript traps and every tap opens the movie its cell shows. -/
theorem serves_of_each_upToDate (es : List Event)
    (h : Transition.EachStep step UpToDate loaded es) :
    Transition.Along step (fun vc => vc.trap = none) loaded es ∧
      Transition.EachStep step Serves loaded es := by
  rcases Transition.eachStep_of_invariant serves_of_upToDate gridInv_loaded h with
    ⟨hinv, hserves⟩
  exact ⟨hinv.mono GridInv.trap, hserves⟩

/-- One search has been shown; the response to a second one has replaced the data and its reload
is still queued. -/
def staleGrid (second : SearchResult) : List Event :=
  [.textFieldShouldReturn "up", .respond 0 (some (sampleResult ["Up"])), .reloadBlock,
    .cellForItemAt 0, .textFieldShouldReturn "x", .respond 1 (some second)]

/-- A second result that begins with the same movie does no harm while its reload is queued. -/
theorem serves_of_each_upToDate_shown :
    Transition.EachStep step Serves loaded
      (staleGrid (sampleResult ["Up", "Iron"]) ++ [.cellForItemAt 0, .didSelectItemAt 0]) := by
  have hup : Transition.EachStep step UpToDate loaded
      (staleGrid (sampleResult ["Up", "Iron"]) ++ [.cellForItemAt 0, .didSelectItemAt 0]) := by
    rintro _ ⟨⟩
    refine ⟨trivial, ?_⟩
    rintro _ ⟨⟩
    refine ⟨trivial, ?_⟩
    rintro _ ⟨⟩
    refine ⟨trivial, ?_⟩
    rintro _ ⟨⟩
    refine ⟨rfl, ?_⟩
    rintro _ ⟨⟩
    refine ⟨trivial, ?_⟩
    rintro _ ⟨⟩
    refine ⟨trivial, ?_⟩
    -- here the list held is the second one, and the grid shows the first
    rintro _ ⟨⟩
    refine ⟨rfl, ?_⟩
    rintro _ ⟨⟩
    exact ⟨rfl, trivial⟩
  exact (serves_of_each_upToDate _ hup).2

/-- A tap in that moment on the cell of "Up": with no second result the subscript is out of range,
with a different one the detail screen of another movie opens. -/
theorem not_serves_staleGrid :
    (∃ vc, Transition.run step loaded (staleGrid (sampleResult [])) = some vc ∧
      vc.Enabled (.didSelectItemAt 0) ∧
      (vc.didSelectItemAt 0).trap = some .indexOutOfRange ∧
      ¬ vc.Serves (.didSelectItemAt 0)) ∧
    (∃ vc, Transition.run step loaded (staleGrid (sampleResult ["Xenia"])) = some vc ∧
      vc.Enabled (.didSelectItemAt 0) ∧
      vc.collectionV.cells 0 = some (sampleMovie "Up") ∧
      (vc.didSelectItemAt 0).pushed = some (.opened (sampleMovie "Xenia")) ∧
      ¬ vc.Serves (.didSelectItemAt 0)) := by
  refine ⟨⟨_, rfl, by decide, by decide, ?_⟩, ⟨_, rfl, by decide, rfl, by decide, ?_⟩⟩
  · rintro ⟨movie, _, hsub, _⟩
    cases hsub
  · rintro ⟨movie, hcell, hsub, _⟩
    cases hcell
    revert hsub
    decide

end MakeListViewController

end MoviePlayList
