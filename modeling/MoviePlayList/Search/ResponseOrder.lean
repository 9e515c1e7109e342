import MoviePlayList.Search.MakeListViewController

/-!
# ResponseOrder — which search the screen shows

Requests carry no number in the source and are never cancelled: each successful response replaces
the data when it arrives.
-/

namespace MoviePlayList

namespace MakeListViewController

/-- The successful responses of a run, in the order they arrive. -/
def answers : List Event → List (Nat × SearchResult)
  | [] => []
  | .respond number (some data) :: es => (number, data) :: answers es
  | _ :: es => answers es

/-- The event does not replace the data by the response to an earlier search than the one it
holds. -/
def KeepsLater (self : MakeListViewController) : Event → Prop
  | .respond number (some _) => ∀ later, self.held = some later → ¬ number < later
  | _ => True

/-- The tab was switched after the last successful response of the run had arrived. -/
def switchedSince : List Event → Bool
  | [] => false
  | e :: es => switchedSince es || (e = .tabBarDidSelect && (answers es).isEmpty)

/-- The controller holds this answer, without its items if they were `emptied`. -/
structure Holds (vc : MakeListViewController) (answer : Option (Nat × SearchResult))
    (emptied : Bool) : Prop where
  held : vc.held = answer.map Prod.fst
  data : vc.data = answer.map fun a => if emptied then a.2.removeAllItems else a.2

/-- The grid counts the movies of the list held, and its cells show them. -/
structure ShowsHeld (vc : MakeListViewController) : Prop where
  count : vc.collectionV.count = vc.items.length
  cells : ∀ index movie, vc.collectionV.cells index = some movie →
    vc.items[index]? = some movie

theorem answers_append (es fs : List Event) : answers (es ++ fs) = answers es ++ answers fs := by
  induction es with
  | nil =>
      rfl
  | cons e es ih =>
      cases e with
      | respond number answer =>
          cases answer with
          | none =>
              simpa [answers] using ih
          | some data =>
              simpa [answers] using ih
      | _ =>
          simpa [answers] using ih

/-- A successful response ends the time since the last one, any other event prolongs it. -/
theorem switchedSince_concat (es : List Event) (e : Event) :
    switchedSince (es ++ [e]) =
      ((switchedSince es || e = .tabBarDidSelect) && (answers [e]).isEmpty) := by
  induction es with
  | nil =>
      cases e with
      | respond number answer =>
          cases answer <;> rfl
      | _ =>
          rfl
  | cons a es ih =>
      have hempty : (answers (es ++ [e])).isEmpty =
          ((answers es).isEmpty && (answers [e]).isEmpty) := by
        rw [answers_append]
        cases answers es <;> rfl
      rw [List.cons_append, switchedSince, switchedSince, ih, hempty]
      -- an identity of truth values from here on
      cases (answers [e]).isEmpty with
      | false =>
          simp
      | true =>
          simp [Bool.or_right_comm]

/-- Every event but a successful response leaves the number of the search held. -/
theorem held_handle (self : MakeListViewController) (e : Event) :
    (self.handle e).held = ((answers [e]).getLast?.map Prod.fst).or self.held := by
  cases e with
  | respond number answer =>
      cases answer <;> rfl
  | reloadBlock =>
      simp only [handle, reloadBlock]
      split <;> rfl
  | cellForItemAt row =>
      simp only [handle, cellForItemAt]
      split <;> rfl
  | didSelectItemAt item =>
      simp only [handle, didSelectItemAt]
      split <;> rfl
  | _ =>
      rfl

/-- A successful response is what is held from then on, a tab switch takes the items out of what is
held, and no other event touches it. -/
theorem Holds.handle {self : MakeListViewController} {answer : Option (Nat × SearchResult)}
    {emptied : Bool} (h : self.Holds answer emptied) (e : Event) :
    (self.handle e).Holds ((answers [e]).getLast?.or answer)
      ((emptied || e = .tabBarDidSelect) && (answers [e]).isEmpty) := by
  have hheld : (self.handle e).held = ((answers [e]).getLast?.or answer).map Prod.fst := by
    rw [held_handle, h.held]
    cases (answers [e]).getLast? <;> rfl
  refine ⟨hheld, ?_⟩
  have hkept : ∀ {next : MakeListViewController}, next.data = self.data →
      next.data = answer.map fun a =>
        if (emptied || false) && true then a.2.removeAllItems else a.2 := by
    intro next hdata
    rw [Bool.or_false, Bool.and_true]
    exact hdata.trans h.data
  cases e with
  | textFieldShouldReturn text =>
      exact hkept rfl
  | respond number answer =>
      cases answer with
      | none =>
          exact hkept rfl
      | some data =>
          simp only [answers, List.isEmpty_cons, Bool.and_false]
          rfl
  | reloadBlock =>
      refine hkept ?_
      simp only [MakeListViewController.handle, reloadBlock]
      split <;> rfl
  | tabBarDidSelect =>
      show self.data.map SearchResult.removeAllItems = _
      rw [h.data]
      cases answer with
      | none =>
          rfl
      | some a =>
          -- emptying a result twice is emptying it once
          cases emptied with
          | false =>
              rfl
          | true =>
              exact congrArg some a.2.removeAllItems_removeAllItems
  | cellForItemAt row =>
      refine hkept ?_
      simp only [MakeListViewController.handle, cellForItemAt]
      split <;> rfl
  | didSelectItemAt item =>
      refine hkept ?_
      simp only [MakeListViewController.handle, didSelectItemAt]
      split <;> rfl

/-- What is held at the end of a run is the successful response that arrived last, without its items
exactly when the tab was switched after that. -/
theorem holds_of_run {es : List Event} {vc : MakeListViewController}
    (h : Transition.run step loaded es = some vc) :
    vc.Holds (answers es).getLast? (switchedSince es) := by
  refine Transition.run_history
    (I := fun es vc => vc.Holds (answers es).getLast? (switchedSince es)) ?_ ?_ h
  · intro es self e next ih hstep
    rcases step_eq_some.1 hstep with ⟨_, _, rfl⟩
    rw [answers_append, List.getLast?_append, switchedSince_concat]
    exact ih.handle e
  · exact ⟨rfl, rfl⟩

/-- A grid without a queued reload shows the list held. -/
theorem showsHeld_step {self next : MakeListViewController} {e : Event}
    (h : self.reloads = 0 → self.ShowsHeld) (hstep : self.step e = some next) :
    next.reloads = 0 → next.ShowsHeld := by
  rcases step_eq_some.1 hstep with ⟨_, _, rfl⟩
  have hreload : ∀ (vc : MakeListViewController), vc.reloadData.ShowsHeld := by
    intro vc
    refine ⟨congrArg CollectionView.count vc.collectionV_reloadData, fun index movie hcell => ?_⟩
    rw [collectionV_reloadData] at hcell
    cases hcell
  have hkept : ∀ {vc : MakeListViewController}, vc.collectionV = self.collectionV →
      vc.data = self.data → self.ShowsHeld → vc.ShowsHeld := by
    intro vc hgrid hdata hshows
    have hitems : vc.items = self.items := by rw [items, items, hdata]
    exact ⟨by rw [hgrid, hitems, hshows.count], by rw [hgrid, hitems]; exact hshows.cells⟩
  cases e with
  | textFieldShouldReturn text =>
      exact fun hnone => hkept rfl rfl (h hnone)
  | respond number answer =>
      cases answer with
      | none =>
          exact fun hnone => hkept rfl rfl (h hnone)
      | some data =>
          -- its reload is queued from now on
          exact fun hnone => absurd hnone (Nat.succ_ne_zero _)
  | reloadBlock =>
      intro _
      simp only [handle, reloadBlock]
      split
      · -- the warning over an empty list leaves the grid as the reload made it
        have hshows := hreload { self with reloads := self.reloads - 1 }
        exact ⟨hshows.count, hshows.cells⟩
      · exact hreload _
  | tabBarDidSelect =>
      exact fun _ => hreload _
  | cellForItemAt row =>
      simp only [handle, cellForItemAt]
      cases hsub : self.subscript row with
      | error trap =>
          exact fun hnone => hkept rfl rfl (h hnone)
      | ok movie =>
          intro hnone
          have hshows := h hnone
          refine ⟨hshows.count, fun index shown hcell => ?_⟩
          -- the cell just configured shows the movie at its row
          by_cases hidx : index = row
          · subst hidx
            simp only [Function.update_self] at hcell
            exact subscript_eq_ok_some.1 (hcell ▸ hsub)
          · simp only [Function.update_of_ne hidx] at hcell
            exact hshows.cells index shown hcell
  | didSelectItemAt item =>
      simp only [handle, didSelectItemAt]
      split
      · exact fun hnone => hkept rfl rfl (h hnone)
      · exact h
      · exact fun hnone => hkept rfl rfl (h hnone)

theorem showsHeld_of_run {es : List Event} {vc : MakeListViewController}
    (h : Transition.run step loaded es = some vc) (hnone : vc.reloads = 0) : vc.ShowsHeld := by
  have hloaded : loaded.ShowsHeld := by
    refine ⟨rfl, fun index movie hcell => ?_⟩
    cases hcell
  exact Transition.run_invariant (I := fun vc => vc.reloads = 0 → vc.ShowsHeld) showsHeld_step
    (fun _ => hloaded) h hnone

/-- Along a run the data is never replaced by an earlier search's exactly when the number held at
the start and the numbers of the successful responses form an ascending list. -/
theorem keepsLater_iff_isChain {self vc : MakeListViewController} {es : List Event}
    (h : Transition.run step self es = some vc) :
    Transition.EachStep step KeepsLater self es ↔
      List.IsChain (· ≤ ·) (self.held.toList ++ (answers es).map Prod.fst) := by
  induction es generalizing self with
  | nil =>
      cases hheld : self.held <;> simp [Transition.EachStep, answers]
  | cons e es ih =>
      rcases Transition.run_cons.1 h with ⟨next, hstep, hrun⟩
      have hnext : next = self.handle e := (step_eq_some.1 hstep).2.2
      -- the run takes this step, so the condition on it is not vacuous
      have hsplit : Transition.EachStep step KeepsLater self (e :: es) ↔
          self.KeepsLater e ∧ Transition.EachStep step KeepsLater next es := by
        constructor
        · intro hall
          exact hall next hstep
        · rintro ⟨hk, hrest⟩ next' hstep'
          cases hstep.symm.trans hstep'
          exact ⟨hk, hrest⟩
      have hheld := held_handle self e
      rw [hsplit, ih hrun, hnext, hheld]
      cases e with
      | respond number answer =>
          cases answer with
          | none =>
              simp [answers, KeepsLater]
          | some data =>
              cases hself : self.held with
              | none =>
                  simp [answers, KeepsLater, hself]
              -- the new number has to be compared with the one held
              | some later =>
                  simp [answers, KeepsLater, hself, List.isChain_cons_cons]
      | _ =>
          simp [answers, KeepsLater]

/-- Whatever the order of submission, every successful response replaces the data when it
arrives: the data held is that of the successful response that arrived last, without its items if
and only if the tab was switched since.  With no reload queued, the grid shows the list held.  The
data is never replaced by an earlier search's if and only if the successful responses arrive in the
order of submission. -/
theorem last_answer_wins (es : List Event) (vc : MakeListViewController)
    (h : Transition.run step loaded es = some vc) :
    vc.Holds (answers es).getLast? (switchedSince es) ∧ (vc.reloads = 0 → vc.ShowsHeld) ∧
      (Transition.EachStep step KeepsLater loaded es ↔
        ((answers es).map Prod.fst).Pairwise (· ≤ ·)) := by
  refine ⟨holds_of_run h, showsHeld_of_run h, ?_⟩
  rw [keepsLater_iff_isChain h, List.isChain_iff_pairwise]
  rfl

/-- Two searches whose responses arrive in the opposite order. -/
def overtaken : List Event :=
  [.textFieldShouldReturn "up", .textFieldShouldReturn "iron",
    .respond 1 (some (sampleResult ["Iron"])), .respond 0 (some (sampleResult ["Up"]))]

/-- The list of the first search is held although the tab was switched before it arrived, and its
two reloads bring it to the grid. -/
theorem last_answer_wins_overtaken :
    ∃ vc, Transition.run step loaded (.tabBarDidSelect :: overtaken ++
        [.reloadBlock, .reloadBlock, .cellForItemAt 0]) = some vc ∧
      vc.Holds (some (0, sampleResult ["Up"])) false ∧
      vc.collectionV.cells 0 = some (sampleMovie "Up") ∧ vc.ShowsHeld := by
  have hwins := last_answer_wins (.tabBarDidSelect :: overtaken ++
    [.reloadBlock, .reloadBlock, .cellForItemAt 0]) _ rfl
  exact ⟨_, rfl, hwins.1, rfl, hwins.2.1 rfl⟩

/-- The response to the first search replaces that to the second, and is what is shown once no
request is left. -/
theorem not_keepsLater_overtaken :
    (∃ vc, Transition.run step loaded overtaken = some vc ∧ vc.requests = [] ∧
      vc.held = some 0 ∧ vc.data = some (sampleResult ["Up"])) ∧
    ¬ Transition.EachStep step KeepsLater loaded overtaken := by
  refine ⟨⟨_, rfl, by decide, by decide, rfl⟩, ?_⟩
  rw [keepsLater_iff_isChain rfl]
  decide

end MakeListViewController

end MoviePlayList
