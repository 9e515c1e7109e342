import Mathlib.Data.List.Sort

/-!
# SortedList — lists kept in strictly ascending order of a comparison

The comparison is an arbitrary `cmp : α → α → Ordering`; different items may compare equal.  A list
is `Ascending` when every item compares less than all later ones.

* `insert` puts an item before the first greater one, `erase` takes out the item that compares
  equal, `indexOf` finds where it is;
* both operations keep the order, and are the insertion and the deletion at the index `indexOf`
  gives (`insert_eq_insertIdx`, `erase_eq_eraseIdx`);
* an ascending list is determined by its items (`Ascending.ext`).
-/

namespace SortedList

universe u

variable {α : Type u} {cmp : α → α → Ordering}

def Ascending (cmp : α → α → Ordering) (xs : List α) : Prop :=
  xs.Pairwise fun a b => cmp a b = .lt

def insert (cmp : α → α → Ordering) (x : α) (xs : List α) : List α :=
  xs.orderedInsert (fun a b => cmp a b = .lt) x

def erase (cmp : α → α → Ordering) (x : α) (xs : List α) : List α :=
  xs.eraseP fun a => cmp a x = .eq

def indexOf (cmp : α → α → Ordering) (x : α) (xs : List α) : Option Nat :=
  xs.findIdx? fun a => cmp a x = .eq

@[simp] theorem mem_insert {x a : α} {xs : List α} : a ∈ insert cmp x xs ↔ a = x ∨ a ∈ xs :=
  List.mem_orderedInsert _

@[simp] theorem insert_nil (x : α) : insert cmp x [] = [x] := rfl

theorem insert_cons_of_lt {x y : α} {ys : List α} (h : cmp x y = .lt) :
    insert cmp x (y :: ys) = x :: y :: ys := by
  simp [insert, h]

theorem insert_cons_of_ne_lt {x y : α} {ys : List α} (h : cmp x y ≠ .lt) :
    insert cmp x (y :: ys) = y :: insert cmp x ys := by
  simp [insert, h]

/-! ## The order is kept -/

theorem Ascending.erase {xs : List α} (h : Ascending cmp xs) (x : α) :
    Ascending cmp (erase cmp x xs) :=
  List.Pairwise.sublist List.eraseP_sublist h

theorem Ascending.nodup [Std.ReflCmp cmp] {xs : List α} (h : Ascending cmp xs) : xs.Nodup := by
  refine List.Pairwise.imp (fun {a b} hlt heq => ?_) h
  have hself : cmp a a = .eq := Std.ReflCmp.compare_self
  rw [← heq, hself] at hlt
  exact nomatch hlt

variable [Std.TransCmp cmp]

theorem Ascending.insert {x : α} {xs : List α} (h : Ascending cmp xs)
    (hx : ∀ y ∈ xs, cmp x y ≠ .eq) : Ascending cmp (insert cmp x xs) := by
  induction xs with
  | nil =>
      exact List.pairwise_singleton _ x
  | cons y ys ih =>
      rcases List.pairwise_cons.1 h with ⟨hy, hys⟩
      rcases List.forall_mem_cons.1 hx with ⟨hxy, hxys⟩
      by_cases hlt : cmp x y = .lt
      · rw [insert_cons_of_lt hlt]
        refine List.pairwise_cons.2 ⟨?_, h⟩
        refine List.forall_mem_cons.2 ⟨hlt, fun z hz => ?_⟩
        exact Std.TransCmp.lt_trans hlt (hy z hz)
      · rw [insert_cons_of_ne_lt hlt]
        refine List.pairwise_cons.2 ⟨fun z hz => ?_, ih hys hxys⟩
        rcases mem_insert.1 hz with rfl | hz
        · -- neither less nor equal, so the new item is greater
          rw [← Std.OrientedCmp.gt_iff_lt]
          cases hcmp : cmp z y with
          | lt => exact absurd hcmp hlt
          | eq => exact absurd hcmp hxy
          | gt => rfl
        · exact hy z hz

/-- Sorting items no two of which compare equal. -/
theorem ascending_insertionSort {xs : List α} (h : xs.Pairwise fun a b => cmp a b ≠ .eq) :
    Ascending cmp (xs.insertionSort fun a b => cmp a b = .lt) := by
  induction xs with
  | nil =>
      exact List.Pairwise.nil
  | cons x xs ih =>
      rcases List.pairwise_cons.1 h with ⟨hx, hxs⟩
      refine (ih hxs).insert fun y hy => hx y ?_
      exact (List.mem_insertionSort _).1 hy

/-- An ascending list holds at most one item that compares equal to a given one. -/
theorem Ascending.eq_of_compare_eq {xs : List α} (h : Ascending cmp xs) {a b : α} (ha : a ∈ xs)
    (hb : b ∈ xs) (hab : cmp a b = .eq) : a = b := by
  induction xs with
  | nil =>
      cases ha
  | cons y ys ih =>
      rcases List.pairwise_cons.1 h with ⟨hy, hys⟩
      rcases List.mem_cons.1 ha with rfl | ha'
      · rcases List.mem_cons.1 hb with rfl | hb'
        · rfl
        · rw [hy b hb'] at hab
          exact nomatch hab
      · rcases List.mem_cons.1 hb with rfl | hb'
        · have hba : cmp b a = .eq := Std.OrientedCmp.eq_symm hab
          rw [hy a ha'] at hba
          exact nomatch hba
        · exact ih hys ha' hb'

theorem Ascending.mem_erase {xs : List α} (h : Ascending cmp xs) {a x : α} :
    a ∈ SortedList.erase cmp x xs ↔ a ∈ xs ∧ cmp a x ≠ .eq := by
  induction xs with
  | nil =>
      simp [SortedList.erase]
  | cons y ys ih =>
      rcases List.pairwise_cons.1 h with ⟨hy, hys⟩
      by_cases hyx : cmp y x = .eq
      · -- the later items are greater than this one, so none of them compares equal to it
        have hout : ∀ z ∈ ys, cmp z x ≠ .eq := by
          intro z hz hzx
          have hyz : cmp y z = .eq :=
            Std.TransCmp.eq_trans hyx (Std.OrientedCmp.eq_symm hzx)
          rw [hy z hz] at hyz
          exact nomatch hyz
        have herase : SortedList.erase cmp x (y :: ys) = ys := by
          simp [SortedList.erase, hyx]
        rw [herase, List.mem_cons]
        constructor
        · intro ha
          exact ⟨.inr ha, hout a ha⟩
        · rintro ⟨rfl | ha, hne⟩
          · exact absurd hyx hne
          · exact ha
      · have herase : SortedList.erase cmp x (y :: ys) = y :: SortedList.erase cmp x ys := by
          simp [SortedList.erase, hyx]
        rw [herase, List.mem_cons, List.mem_cons, ih hys]
        constructor
        · rintro (rfl | ⟨ha, hne⟩)
          · exact ⟨.inl rfl, hyx⟩
          · exact ⟨.inr ha, hne⟩
        · rintro ⟨rfl | ha, hne⟩
          · exact .inl rfl
          · exact .inr ⟨ha, hne⟩

/-- Two ascending lists with the same items are the same list. -/
theorem Ascending.ext {xs ys : List α} (hx : Ascending cmp xs) (hy : Ascending cmp ys)
    (h : ∀ a, a ∈ xs ↔ a ∈ ys) : xs = ys := by
  refine ((List.perm_ext_iff_of_nodup hx.nodup hy.nodup).2 h).eq_of_pairwise ?_ hx hy
  exact fun a b _ _ hab hba => absurd hba (Std.OrientedCmp.not_lt_of_lt hab)

/-! ## Insertion and deletion are at the index found -/

/-- A new item is inserted at the index at which it is found afterwards. -/
theorem insert_eq_insertIdx {x : α} {xs : List α} (hx : ∀ y ∈ xs, cmp y x ≠ .eq) :
    ∃ i, indexOf cmp x (insert cmp x xs) = some i ∧ i ≤ xs.length ∧
      insert cmp x xs = xs.insertIdx i x := by
  have hxx : cmp x x = .eq := Std.ReflCmp.compare_self
  induction xs with
  | nil =>
      exact ⟨0, by simp [indexOf, hxx], Nat.le_refl _, rfl⟩
  | cons y ys ih =>
      rcases List.forall_mem_cons.1 hx with ⟨hyx, hys⟩
      by_cases hlt : cmp x y = .lt
      · rw [insert_cons_of_lt hlt]
        exact ⟨0, by simp [indexOf, List.findIdx?_cons, hxx], Nat.zero_le _, rfl⟩
      · rcases ih hys with ⟨i, hfind, hle, heq⟩
        rw [insert_cons_of_ne_lt hlt]
        refine ⟨i + 1, ?_, Nat.succ_le_succ hle, ?_⟩
        · simpa [indexOf, List.findIdx?_cons, hyx] using hfind
        · rw [heq, List.insertIdx_succ_cons]

omit [Std.TransCmp cmp] in
/-- An item is erased at the index at which it is found. -/
theorem erase_eq_eraseIdx {x : α} {xs : List α} {i : Nat} (h : indexOf cmp x xs = some i) :
    i < xs.length ∧ erase cmp x xs = xs.eraseIdx i := by
  induction xs generalizing i with
  | nil =>
      simp [indexOf] at h
  | cons y ys ih =>
      by_cases hyx : cmp y x = .eq
      · have hi : i = 0 := by
          simpa [indexOf, List.findIdx?_cons, hyx, eq_comm] using h
        subst hi
        exact ⟨Nat.succ_pos _, by simp [erase, hyx]⟩
      · have hfind : ∃ j, indexOf cmp x ys = some j ∧ j + 1 = i := by
          simpa [indexOf, List.findIdx?_cons, hyx] using h
        rcases hfind with ⟨j, hj, rfl⟩
        rcases ih hj with ⟨hlt, herase⟩
        refine ⟨Nat.succ_lt_succ hlt, ?_⟩
        rw [List.eraseIdx_cons_succ, ← herase]
        simp [erase, hyx]

omit [Std.TransCmp cmp] in
theorem indexOf_isSome {x y : α} {xs : List α} (hy : y ∈ xs) (hyx : cmp y x = .eq) :
    ∃ i, indexOf cmp x xs = some i := by
  rw [← Option.isSome_iff_exists, indexOf, List.findIdx?_isSome, List.any_eq_true]
  exact ⟨y, hy, by simpa using hyx⟩

/-- An item of an ascending list is found exactly where it stands. -/
theorem Ascending.indexOf_eq_some_iff {xs : List α} (h : Ascending cmp xs) {x : α} (hx : x ∈ xs)
    {i : Nat} : indexOf cmp x xs = some i ↔ xs[i]? = some x := by
  have hxx : cmp x x = .eq := Std.ReflCmp.compare_self
  have hfound : ∀ {j}, indexOf cmp x xs = some j → xs[j]? = some x := by
    intro j hj
    rcases List.findIdx?_eq_some_iff_getElem.1 hj with ⟨hlt, heq, _⟩
    rw [List.getElem?_eq_getElem hlt]
    exact congrArg some (h.eq_of_compare_eq (List.getElem_mem hlt) hx (by simpa using heq))
  refine ⟨hfound, fun hi => ?_⟩
  rcases indexOf_isSome hx hxx with ⟨j, hj⟩
  -- the items are distinct, so the two indices are the same
  have hlt := (List.getElem?_eq_some_iff.1 hi).1
  have hij : i = j := (List.getElem?_inj hlt h.nodup).1 (hi.trans (hfound hj).symm)
  exact hj.trans (congrArg some hij.symm)

end SortedList
