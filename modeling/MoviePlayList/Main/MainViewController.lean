import Mathlib.Data.Rat.Floor
import Mathlib.Tactic.Linarith
import Mathlib.Tactic.Ring
import MoviePlayList.Lib.Transition

/-!
# MainViewController — one-step paging of the front page

The pages of the front page lie side by side in a horizontal collection view.  When a drag ends,
UIKit proposes the offset at which the view will come to rest and the controller may replace it:
`scrollViewWillEndDragging` compares the page of the proposal with `currentIndex`, moves
`currentIndex` by at most one page and lets the view rest there.

The layout fixes what an offset means: `pageOrigin` is where a page lies in the content and
`maximumOffset` the last offset the view can be scrolled to.  Lengths are exact rationals.
-/

namespace MoviePlayList

structure CGPoint where
  x : Rat
  y : Rat
  deriving DecidableEq

/-- What `scrollViewWillEndDragging` reads of the scroll view. -/
structure UIScrollView where
  contentOffset : CGPoint
  contentInsetTop : Rat
  deriving DecidableEq

structure MainViewController where
  /-- `view.frame.width`; the collection view is as wide -/
  frameWidth : Rat
  isOneStepPaging : Bool := true
  currentIndex : Rat := 0
  deriving DecidableEq

/-- Foundation's `round`: the nearest integer, halves away from zero. -/
def CGFloat.round (x : Rat) : Rat :=
  if 0 ≤ x then (⌊x + 1 / 2⌋ : Int) else (⌈x - 1 / 2⌉ : Int)

namespace MainViewController

/-! ## Layout -/

namespace Standard

def space : Rat := 15
def insetLeft : Rat := 15
def insetRight : Rat := 15

end Standard

/-- The width of `collectionView(_:layout:sizeForItemAt:)`. -/
def itemWidth (self : MainViewController) : Rat :=
  self.frameWidth - Standard.insetLeft - Standard.insetRight

/-- Where the flow layout puts the page in the content: behind the inset, the earlier pages and
the spaces between them. -/
def pageOrigin (self : MainViewController) (page : Nat) : Rat :=
  Standard.insetLeft + page * (self.itemWidth + Standard.space)

/-- The last offset the view can be scrolled to with that many pages. -/
def maximumOffset (self : MainViewController) (pages : Nat) : Rat :=
  (Standard.insetLeft + pages * self.itemWidth + (pages - 1) * Standard.space +
    Standard.insetRight) - self.frameWidth

/-! ## The end of a drag -/

/-- `cellWidthIncludingSpacing`, the pitch of the pages. -/
def cellWidthIncludingSpacing (self : MainViewController) : Rat :=
  self.frameWidth - Standard.insetLeft - Standard.insetRight + Standard.space

/-- `roundedIndex` before the paging correction. -/
def roundedIndex (scrollView : UIScrollView) (targetContentOffset : CGPoint) (index : Rat) : Rat :=
  if scrollView.contentOffset.x > targetContentOffset.x then
    (⌊index⌋ : Int)
  else if scrollView.contentOffset.x < targetContentOffset.x then
    (⌈index⌉ : Int)
  else
    CGFloat.round index

/-- The correction for one-step paging: the controller and `roundedIndex` afterwards. -/
def correctIndex (self : MainViewController) (roundedIndex : Rat) : MainViewController × Rat :=
  if self.isOneStepPaging then
    if self.currentIndex > roundedIndex then
      ({ self with currentIndex := self.currentIndex - 1 }, self.currentIndex - 1)
    else if self.currentIndex < roundedIndex then
      ({ self with currentIndex := self.currentIndex + 1 }, self.currentIndex + 1)
    else
      (self, roundedIndex)
  else
    (self, roundedIndex)

/-- `scrollViewWillEndDragging`: the controller and the target offset afterwards. -/
def scrollViewWillEndDragging (self : MainViewController) (scrollView : UIScrollView)
    (targetContentOffset : CGPoint) : MainViewController × CGPoint :=
  let index := targetContentOffset.x / self.cellWidthIncludingSpacing
  let corrected := self.correctIndex (roundedIndex scrollView targetContentOffset index)
  (corrected.1,
    { x := corrected.2 * self.cellWidthIncludingSpacing
      y := -scrollView.contentInsetTop })

/-! ## Runs -/

/-- The end of one drag: the scroll view at that moment and the offset UIKit proposes. -/
structure Drag where
  scrollView : UIScrollView
  targetContentOffset : CGPoint
  deriving DecidableEq

/-- The front page between two drags. -/
structure FrontPage where
  controller : MainViewController
  /-- the offset the view rests at -/
  rest : CGPoint := ⟨0, 0⟩
  deriving DecidableEq

/-- UIKit proposes a target between the first and the last page. -/
def FrontPage.Proposes (self : FrontPage) (pages : Nat) (drag : Drag) : Prop :=
  0 ≤ drag.targetContentOffset.x ∧
    drag.targetContentOffset.x ≤ (pages - 1) * self.controller.cellWidthIncludingSpacing

instance (self : FrontPage) (pages : Nat) (drag : Drag) : Decidable (self.Proposes pages drag) :=
  inferInstanceAs (Decidable (_ ∧ _))

def FrontPage.endDragging (self : FrontPage) (drag : Drag) : FrontPage :=
  let ended :=
    self.controller.scrollViewWillEndDragging drag.scrollView drag.targetContentOffset
  { controller := ended.1, rest := ended.2 }

/-- One drag on a front page with that many pages. -/
def step (pages : Nat) (self : FrontPage) (drag : Drag) : Option FrontPage :=
  if self.Proposes pages drag then some (self.endDragging drag) else none

/-- The front page of a view of that width, not yet scrolled. -/
def loaded (frameWidth : Rat) : FrontPage where
  controller := { frameWidth := frameWidth }

/-! ## Where the view comes to rest -/

/-- The view rests on page `currentIndex`, one of the pages there are. -/
structure Settled (pages : Nat) (page : FrontPage) : Prop where
  pitch : 0 < page.controller.cellWidthIncludingSpacing
  paging : page.controller.isOneStepPaging = true
  current : ∃ i : Nat, i < pages ∧ page.controller.currentIndex = i
  rest : page.rest.x = page.controller.currentIndex * page.controller.cellWidthIncludingSpacing
  /-- the offset is one the view can be scrolled to -/
  inside : 0 ≤ page.rest.x ∧ page.rest.x ≤ page.controller.maximumOffset pages
  /-- the page starts as far from the left edge as the inset says -/
  aligned : ∀ i : Nat, page.controller.currentIndex = i →
    page.controller.pageOrigin i - page.rest.x = Standard.insetLeft

/-- `page` is the page obtained from the proposed target: an integer, also where the drag stands
still and the nearest one is meant. -/
structure ProposedPage (self : MainViewController) (drag : Drag) (page : Rat) : Prop where
  integral : ∃ i : Int, page = i
  left : drag.targetContentOffset.x < drag.scrollView.contentOffset.x →
    page = (⌊drag.targetContentOffset.x / self.cellWidthIncludingSpacing⌋ : Int)
  right : drag.scrollView.contentOffset.x < drag.targetContentOffset.x →
    page = (⌈drag.targetContentOffset.x / self.cellWidthIncludingSpacing⌉ : Int)
  still : drag.targetContentOffset.x = drag.scrollView.contentOffset.x →
    page = CGFloat.round (drag.targetContentOffset.x / self.cellWidthIncludingSpacing) ∧
      |page - drag.targetContentOffset.x / self.cellWidthIncludingSpacing| ≤ 1 / 2

/-- `currentIndex` moves by one page towards the proposed one, or stays when it is there. -/
def OneStep (self : FrontPage) (drag : Drag) : Prop :=
  let before := self.controller.currentIndex
  let after := (self.endDragging drag).controller.currentIndex
  ∃ page, ProposedPage self.controller drag page ∧
    (before < page → after = before + 1) ∧
    (page < before → after = before - 1) ∧
    (page = before → after = before)

/-! ### Layout and offsets -/

theorem pageOrigin_eq (self : MainViewController) (page : Nat) :
    self.pageOrigin page = Standard.insetLeft + page * self.cellWidthIncludingSpacing := rfl

/-- The content ends where the last page rests. -/
theorem maximumOffset_eq (self : MainViewController) (pages : Nat) :
    self.maximumOffset pages = (pages - 1) * self.cellWidthIncludingSpacing := by
  simp only [maximumOffset, itemWidth, cellWidthIncludingSpacing, Standard.insetLeft,
    Standard.insetRight, Standard.space]
  ring

/-! ### Rounding -/

theorem abs_round_sub_le (x : Rat) : |CGFloat.round x - x| ≤ 1 / 2 := by
  unfold CGFloat.round
  by_cases hx : 0 ≤ x
  · have hle := Int.floor_le (x + 1 / 2)
    have hlt := Int.lt_floor_add_one (x + 1 / 2)
    rw [if_pos hx, abs_le]
    constructor <;> linarith
  · have hle := Int.le_ceil (x - 1 / 2)
    have hlt := Int.ceil_lt_add_one (x - 1 / 2)
    rw [if_neg hx, abs_le]
    constructor <;> linarith

theorem roundedIndex_integral (scrollView : UIScrollView) (target : CGPoint) (index : Rat) :
    ∃ i : Int, roundedIndex scrollView target index = i := by
  unfold roundedIndex
  split
  · exact ⟨_, rfl⟩
  · split
    · exact ⟨_, rfl⟩
    · unfold CGFloat.round
      split
      · exact ⟨_, rfl⟩
      · exact ⟨_, rfl⟩

/-- Between two pages every way of rounding gives one of the pages in between. -/
theorem roundedIndex_mem (scrollView : UIScrollView) (target : CGPoint) {index : Rat} {last : Nat}
    (h₀ : 0 ≤ index) (hlast : index ≤ last) :
    ∃ page : Nat, page ≤ last ∧ roundedIndex scrollView target index = page := by
  suffices ∃ k : Int, 0 ≤ k ∧ k ≤ last ∧ roundedIndex scrollView target index = k by
    rcases this with ⟨k, hk₀, hk, hround⟩
    rcases Int.eq_ofNat_of_zero_le hk₀ with ⟨page, rfl⟩
    exact ⟨page, by exact_mod_cast hk, by simpa using hround⟩
  unfold roundedIndex
  split
  · refine ⟨⌊index⌋, Int.floor_nonneg.2 h₀, ?_, rfl⟩
    have hle := Int.floor_le index
    exact_mod_cast hle.trans hlast
  · split
    · exact ⟨⌈index⌉, Int.ceil_nonneg h₀, Int.ceil_le.2 (by exact_mod_cast hlast), rfl⟩
    · -- at or above zero `round` is the floor of the half shifted up
      have hround : CGFloat.round index = (⌊index + 1 / 2⌋ : Int) := if_pos h₀
      refine ⟨⌊index + 1 / 2⌋, Int.floor_nonneg.2 (by linarith), ?_, hround⟩
      have hlt : ⌊index + 1 / 2⌋ < (last : Int) + 1 := by
        rw [Int.floor_lt]
        push_cast
        linarith
      omega

theorem proposedPage_roundedIndex (self : MainViewController) (drag : Drag) :
    ProposedPage self drag
      (roundedIndex drag.scrollView drag.targetContentOffset
        (drag.targetContentOffset.x / self.cellWidthIncludingSpacing)) where
  integral := roundedIndex_integral _ _ _
  left := by
    intro h
    exact if_pos h
  right := by
    intro h
    rw [roundedIndex, if_neg (not_lt.2 h.le), if_pos h]
  still := by
    intro h
    have hround : roundedIndex drag.scrollView drag.targetContentOffset
        (drag.targetContentOffset.x / self.cellWidthIncludingSpacing) =
          CGFloat.round (drag.targetContentOffset.x / self.cellWidthIncludingSpacing) := by
      rw [roundedIndex, if_neg (not_lt.2 h.ge), if_neg (not_lt.2 h.le)]
    rw [hround]
    exact ⟨rfl, abs_round_sub_le _⟩

/-! ### One drag -/

/-- With one-step paging the index moves by at most one towards the rounded one, and the view is
sent to the page of the index. -/
theorem correctIndex_cases {self : MainViewController} (hpaging : self.isOneStepPaging = true)
    (roundedIndex : Rat) :
    (roundedIndex < self.currentIndex ∧ self.correctIndex roundedIndex =
        ({ self with currentIndex := self.currentIndex - 1 }, self.currentIndex - 1)) ∨
      (self.currentIndex < roundedIndex ∧ self.correctIndex roundedIndex =
        ({ self with currentIndex := self.currentIndex + 1 }, self.currentIndex + 1)) ∨
      (roundedIndex = self.currentIndex ∧
        self.correctIndex roundedIndex = (self, self.currentIndex)) := by
  unfold correctIndex
  rw [if_pos hpaging]
  rcases lt_trichotomy roundedIndex self.currentIndex with hlt | heq | hgt
  · exact Or.inl ⟨hlt, if_pos hlt⟩
  · subst heq
    simp
  · exact Or.inr (Or.inl ⟨hgt, by rw [if_neg (not_lt.2 hgt.le), if_pos hgt]⟩)

/-- The page the view is sent to determines all that `Settled` says. -/
theorem settled_of_current {pages : Nat} {page : FrontPage} {i : Nat}
    (hpitch : 0 < page.controller.cellWidthIncludingSpacing)
    (hpaging : page.controller.isOneStepPaging = true) (hi : i < pages)
    (hcurrent : page.controller.currentIndex = i)
    (hrest : page.rest.x = i * page.controller.cellWidthIncludingSpacing) :
    Settled pages page where
  pitch := hpitch
  paging := hpaging
  current := ⟨i, hi, hcurrent⟩
  rest := by rw [hrest, hcurrent]
  inside := by
    have hi₀ : (0 : Rat) ≤ i := Nat.cast_nonneg i
    have hlast : (i : Rat) ≤ pages - 1 := by
      have : (i : Rat) + 1 ≤ pages := by exact_mod_cast hi
      linarith
    rw [hrest, maximumOffset_eq]
    exact ⟨mul_nonneg hi₀ hpitch.le, mul_le_mul_of_nonneg_right hlast hpitch.le⟩
  aligned := by
    intro j hj
    have hij : i = j := by
      have : (i : Rat) = j := hcurrent.symm.trans hj
      exact_mod_cast this
    rw [pageOrigin_eq, hrest, hij]
    ring

/-- One drag from page to page. -/
theorem settled_step {pages : Nat} {page next : FrontPage} {drag : Drag}
    (h : Settled pages page) (hstep : step pages page drag = some next) :
    OneStep page drag ∧ Settled pages next := by
  simp only [step, Option.ite_none_right_eq_some, Option.some.injEq] at hstep
  rcases hstep with ⟨⟨hlow, hhigh⟩, rfl⟩
  rcases h.current with ⟨i, hi, hcurrent⟩
  -- the proposal lies between the first and the last page
  have hindex : 0 ≤ drag.targetContentOffset.x / page.controller.cellWidthIncludingSpacing :=
    div_nonneg hlow h.pitch.le
  have hlast : drag.targetContentOffset.x / page.controller.cellWidthIncludingSpacing ≤
      ((pages - 1 : Nat) : Rat) := by
    rw [Nat.cast_pred (by omega), div_le_iff₀ h.pitch]
    exact hhigh
  rcases roundedIndex_mem drag.scrollView drag.targetContentOffset hindex hlast with
    ⟨proposed, hproposed, hround⟩
  have hpage := proposedPage_roundedIndex page.controller drag
  rw [hround] at hpage
  have hcases := correctIndex_cases h.paging proposed
  rw [hcurrent] at hcases
  have hend : page.endDragging drag =
      { controller := (page.controller.correctIndex proposed).1
        rest :=
          { x := (page.controller.correctIndex proposed).2 *
              page.controller.cellWidthIncludingSpacing
            y := -drag.scrollView.contentInsetTop } } := by
    simp only [FrontPage.endDragging, scrollViewWillEndDragging, hround]
  rcases hcases with ⟨hlt, hcorrect⟩ | ⟨hgt, hcorrect⟩ | ⟨heq, hcorrect⟩
  · -- one page back, which is there because the proposed page is
    have hlt' : proposed < i := by exact_mod_cast hlt
    have hback : ((i - 1 : Nat) : Rat) = i - 1 := Nat.cast_pred (by omega)
    constructor
    · refine ⟨proposed, hpage, fun h' => ?_, fun _ => ?_, fun h' => ?_⟩
      · rw [hcurrent] at h'
        exact absurd h' (not_lt.2 hlt.le)
      · rw [hend, hcorrect, hcurrent]
      · rw [hcurrent] at h'
        exact absurd h' hlt.ne
    · rw [hend, hcorrect]
      exact settled_of_current (i := i - 1) h.pitch h.paging (by omega) hback.symm
        (by rw [hback]; rfl)
  · have hgt' : i < proposed := by exact_mod_cast hgt
    have hforth : ((i + 1 : Nat) : Rat) = i + 1 := Nat.cast_succ i
    constructor
    · refine ⟨proposed, hpage, fun _ => ?_, fun h' => ?_, fun h' => ?_⟩
      · rw [hend, hcorrect, hcurrent]
      · rw [hcurrent] at h'
        exact absurd h' (not_lt.2 hgt.le)
      · rw [hcurrent] at h'
        exact absurd h' hgt.ne'
    · rw [hend, hcorrect]
      exact settled_of_current (i := i + 1) h.pitch h.paging (by omega) hforth.symm
        (by rw [hforth]; rfl)
  · constructor
    · refine ⟨proposed, hpage, fun h' => ?_, fun h' => ?_, fun _ => ?_⟩
      · rw [hcurrent, heq] at h'
        exact absurd h' (lt_irrefl _)
      · rw [hcurrent, heq] at h'
        exact absurd h' (lt_irrefl _)
      · rw [hend, hcorrect]
    · rw [hend, hcorrect]
      exact settled_of_current (i := i) h.pitch h.paging hi hcurrent rfl

theorem settled_loaded {frameWidth : Rat} (hwidth : 0 < frameWidth - 15) {pages : Nat}
    (hpages : 1 ≤ pages) : Settled pages (loaded frameWidth) := by
  refine settled_of_current (i := 0) ?_ rfl hpages rfl ?_
  · have hpitch : (loaded frameWidth).controller.cellWidthIncludingSpacing = frameWidth - 15 := by
      simp only [loaded, cellWidthIncludingSpacing, Standard.insetLeft, Standard.insetRight,
        Standard.space]
      ring
    rw [hpitch]
    exact hwidth
  · simp [loaded]

/-- In every run the view rests on page `currentIndex` after each drag, and each drag moves the
index by at most one page, towards the page of the proposed target. -/
theorem settled_along_drags {frameWidth : Rat} (hwidth : 0 < frameWidth - 15) {pages : Nat}
    (hpages : 1 ≤ pages) (drags : List Drag) :
    Transition.Along (step pages) (Settled pages) (loaded frameWidth) drags ∧
      Transition.EachStep (step pages) OneStep (loaded frameWidth) drags :=
  Transition.along_of_invariant settled_step (settled_loaded hwidth hpages)

/-- Two flicks to the right on a front page of three pages and one drag back that is let go at
once. -/
def flicks : List Drag :=
  [⟨⟨⟨50, 0⟩, 0⟩, ⟨700, 0⟩⟩, ⟨⟨⟨400, 0⟩, 0⟩, ⟨720, 0⟩⟩, ⟨⟨⟨500, 0⟩, 0⟩, ⟨500, 0⟩⟩]

theorem settled_along_flicks :
    (Transition.run (step 3) (loaded 375) flicks).map (fun page => page.rest.x) = some 360 ∧
      Transition.Along (step 3) (Settled 3) (loaded 375) flicks ∧
      Transition.EachStep (step 3) OneStep (loaded 375) flicks :=
  ⟨by decide +kernel, settled_along_drags (by norm_num) (by decide) flicks⟩

end MainViewController

end MoviePlayList
