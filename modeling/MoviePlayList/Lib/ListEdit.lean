import Mathlib.Data.List.InsertIdx

/-!
# ListEdit — lists changed one indexed edit at a time

An edit inserts an item, moves and replaces one, or takes one out, at the indices it names; an
index out of range makes it inapplicable.  `inserted` are the items of the insertions, in order.
A script of insertions that all come at the end has the same effect as appending them.
-/

namespace ListEdit

universe u

variable {α : Type u}

inductive Edit (α : Type u)
  | added (newIndex : Nat) (item : α)
  | modified (oldIndex newIndex : Nat) (item : α)
  | removed (oldIndex : Nat) (item : α)
  deriving DecidableEq

def apply (xs : List α) : Edit α → Option (List α)
  | .added newIndex item =>
      if newIndex ≤ xs.length then some (xs.insertIdx newIndex item) else none
  | .modified oldIndex newIndex item =>
      if oldIndex < xs.length ∧ newIndex < xs.length then
        some ((xs.eraseIdx oldIndex).insertIdx newIndex item)
      else
        none
  | .removed oldIndex _ =>
      if oldIndex < xs.length then some (xs.eraseIdx oldIndex) else none

def applyAll : List α → List (Edit α) → Option (List α)
  | xs, [] => some xs
  | xs, e :: es => (apply xs e).bind fun ys => applyAll ys es

def inserted : List (Edit α) → List α
  | [] => []
  | .added _ item :: es => item :: inserted es
  | _ :: es => inserted es

def removals : List (Edit α) → Nat
  | [] => 0
  | .removed _ _ :: es => removals es + 1
  | _ :: es => removals es

/-- Every edit inserts at the end of the list, which has `n` items before the first one. -/
def AtEnd : Nat → List (Edit α) → Prop
  | _, [] => True
  | n, .added newIndex _ :: es => newIndex = n ∧ AtEnd (n + 1) es
  | _, _ :: _ => False

/-- The edit of the items' images. -/
def Edit.map {β : Type u} (f : α → β) : Edit α → Edit β
  | .added newIndex item => .added newIndex (f item)
  | .modified oldIndex newIndex item => .modified oldIndex newIndex (f item)
  | .removed oldIndex item => .removed oldIndex (f item)

/-! ## Images -/

theorem apply_map {β : Type u} (f : α → β) (xs : List α) (e : Edit α) :
    apply (xs.map f) (e.map f) = (apply xs e).map (List.map f) := by
  cases e with
  | added newIndex item =>
      simp only [Edit.map, apply, List.length_map]
      split
      · rw [Option.map_some, List.map_insertIdx]
      · rfl
  | modified oldIndex newIndex item =>
      simp only [Edit.map, apply, List.length_map]
      split
      · rw [Option.map_some, List.map_insertIdx, List.eraseIdx_map]
      · rfl
  | removed oldIndex item =>
      simp only [Edit.map, apply, List.length_map]
      split
      · rw [Option.map_some, List.eraseIdx_map]
      · rfl

/-- Editing the images is editing and then taking the images. -/
theorem applyAll_map {β : Type u} (f : α → β) {xs ys : List α} {es : List (Edit α)}
    (h : applyAll xs es = some ys) :
    applyAll (xs.map f) (es.map (Edit.map f)) = some (ys.map f) := by
  induction es generalizing xs with
  | nil =>
      cases h
      rfl
  | cons e es ih =>
      rcases Option.bind_eq_some_iff.1 h with ⟨zs, he, hes⟩
      rw [List.map_cons, applyAll, apply_map, he]
      exact ih hes

/-! ## Lengths -/

/-- One edit makes the list longer by an insertion and shorter by a removal. -/
theorem length_apply {xs ys : List α} {e : Edit α} (h : apply xs e = some ys) :
    ys.length + removals [e] = xs.length + (inserted [e]).length := by
  cases e with
  | added newIndex item =>
      simp only [apply, Option.ite_none_right_eq_some, Option.some.injEq] at h
      rcases h with ⟨hle, rfl⟩
      simp [inserted, removals, List.length_insertIdx, hle]
  | modified oldIndex newIndex item =>
      simp only [apply, Option.ite_none_right_eq_some, Option.some.injEq] at h
      rcases h with ⟨⟨hold, hnew⟩, rfl⟩
      have herase : (xs.eraseIdx oldIndex).length = xs.length - 1 :=
        List.length_eraseIdx_of_lt hold
      simp only [inserted, removals, List.length_insertIdx, herase, List.length_nil]
      split <;> omega
  | removed oldIndex item =>
      simp only [apply, Option.ite_none_right_eq_some, Option.some.injEq] at h
      rcases h with ⟨hlt, rfl⟩
      have herase : (xs.eraseIdx oldIndex).length = xs.length - 1 :=
        List.length_eraseIdx_of_lt hlt
      simp only [inserted, removals, herase, List.length_nil]
      omega

theorem inserted_cons (e : Edit α) (es : List (Edit α)) :
    inserted (e :: es) = inserted [e] ++ inserted es := by
  cases e <;> rfl

theorem removals_cons (e : Edit α) (es : List (Edit α)) :
    removals (e :: es) = removals [e] + removals es := by
  cases e <;> simp [removals, Nat.add_comm]

theorem length_applyAll {xs ys : List α} {es : List (Edit α)} (h : applyAll xs es = some ys) :
    ys.length + removals es = xs.length + (inserted es).length := by
  induction es generalizing xs with
  | nil =>
      cases h
      rfl
  | cons e es ih =>
      rcases Option.bind_eq_some_iff.1 h with ⟨zs, he, hes⟩
      have hone := length_apply he
      have hrest := ih hes
      rw [inserted_cons, removals_cons, List.length_append]
      omega

/-! ## Appending -/

/-- Insertions at the end append their items. -/
theorem applyAll_of_atEnd {xs : List α} {es : List (Edit α)} (h : AtEnd xs.length es) :
    applyAll xs es = some (xs ++ inserted es) := by
  induction es generalizing xs with
  | nil =>
      simp [applyAll, inserted]
  | cons e es ih =>
      cases e with
      | added newIndex item =>
          rcases h with ⟨rfl, hrest⟩
          have hlen : AtEnd (xs ++ [item]).length es := by
            simpa using hrest
          have happ : apply xs (.added xs.length item) = some (xs ++ [item]) := by
            simp [apply, List.insertIdx_length_self]
          simp [applyAll, happ, ih hlen, inserted]
      | modified oldIndex newIndex item =>
          exact h.elim
      | removed oldIndex item =>
          exact h.elim

/-! ## The items after one of them was added or changed -/

/-- The items of a list after at most one more was appended. -/
theorem getElem?_append_toList {xs : List α} {o : Option α} {i : Nat} {x : α} :
    (xs ++ o.toList)[i]? = some x ↔ xs[i]? = some x ∨ i = xs.length ∧ o = some x := by
  rcases Nat.lt_trichotomy i xs.length with hlt | rfl | hgt
  · simp [List.getElem?_append_left hlt, Nat.ne_of_lt hlt]
  · cases o <;> simp
  · have hbeyond : (xs ++ o.toList)[i]? = none := by
      rw [List.getElem?_eq_none_iff, List.length_append]
      have hone : o.toList.length ≤ 1 := by cases o <;> simp
      omega
    simp [hbeyond, List.getElem?_eq_none (Nat.le_of_lt hgt), Nat.ne_of_gt hgt]

theorem getElem?_concat {xs : List α} {a : α} {i : Nat} {x : α} :
    (xs ++ [a])[i]? = some x ↔ xs[i]? = some x ∨ i = xs.length ∧ a = x := by
  have h := @getElem?_append_toList α xs (some a) i x
  simpa only [Option.toList_some, Option.some.injEq] using h

/-- The items of a list after one was replaced. -/
theorem getElem?_set_eq_some {xs : List α} {k : Nat} {old a : α} (hk : xs[k]? = some old) {i : Nat}
    {x : α} : (xs.set k a)[i]? = some x ↔ i = k ∧ x = a ∨ i ≠ k ∧ xs[i]? = some x := by
  have hlt := (List.getElem?_eq_some_iff.1 hk).1
  rcases eq_or_ne i k with rfl | hne
  · simp [List.getElem?_set_self hlt, eq_comm]
  · simp [List.getElem?_set_ne (Ne.symm hne), hne]

/-- The items of a list after one was changed. -/
theorem getElem?_modify_eq_some {xs : List α} {k : Nat} {f : α → α} {i : Nat} {x : α} :
    (xs.modify k f)[i]? = some x ↔
      ∃ old, xs[i]? = some old ∧ (i = k → x = f old) ∧ (i ≠ k → x = old) := by
  rcases eq_or_ne i k with rfl | hne
  · rw [List.getElem?_modify_eq, Option.map_eq_map, Option.map_eq_some_iff]
    simp [eq_comm]
  · simp [List.getElem?_modify_ne _ _ (Ne.symm hne), hne]

end ListEdit
