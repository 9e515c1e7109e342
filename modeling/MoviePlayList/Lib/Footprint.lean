import Mathlib.Logic.Function.Basic

/-!
# Footprint — keys held by the entries of a table

Long-running operations are kept in a table `I → Option C`, and a store knows for each of its keys
which operation holds it (`holder : K → Option I`).  `claim` reads off an operation the key it
must be holding.  `Exact` says that the two views agree: a key is held by `i` if and only if the
entry of `i` claims it.

Every step of such a system changes one entry.  Either the claim of the entry stays (`keep`), or
the entry claims a free key and becomes its holder (`acquire`).
-/

namespace Footprint

universe u v w

variable {K : Type u} {I : Type v} {C : Type w}

/-- The keys held are exactly the claims of the entries, each held by its own entry. -/
def Exact (holder : K → Option I) (table : I → Option C) (claim : C → Option K) : Prop :=
  ∀ k i, holder k = some i ↔ ∃ c, table i = some c ∧ claim c = some k

namespace Exact

variable {holder : K → Option I} {table : I → Option C} {claim : C → Option K}

theorem held (h : Exact holder table claim) {i : I} {c : C} {k : K}
    (hi : table i = some c) (hc : claim c = some k) : holder k = some i :=
  (h k i).2 ⟨c, hi, hc⟩

theorem unique (h : Exact holder table claim) {i j : I} {c d : C} {k : K}
    (hi : table i = some c) (hc : claim c = some k)
    (hj : table j = some d) (hd : claim d = some k) : i = j := by
  have hki := h.held hi hc
  have hkj := h.held hj hd
  exact Option.some.inj (hki.symm.trans hkj)

section Update

variable [DecidableEq I]

/-- One entry changes and its claim stays. -/
theorem keep (h : Exact holder table claim) {i : I} {c : C}
    (hc : claim c = (table i).bind claim) :
    Exact holder (Function.update table i (some c)) claim := by
  intro k j
  rw [h k j]
  rcases eq_or_ne j i with rfl | hji
  · simp only [Function.update_self, Option.some.injEq, exists_eq_left', hc,
      Option.bind_eq_some_iff]
  · simp only [Function.update_of_ne hji]

/-- One entry without a claim claims a free key. -/
theorem acquire [DecidableEq K] (h : Exact holder table claim) {i : I} {c : C} {k : K}
    (hi : (table i).bind claim = none) (hk : holder k = none) (hc : claim c = some k) :
    Exact (Function.update holder k (some i)) (Function.update table i (some c)) claim := by
  intro k' j
  rcases eq_or_ne j i with rfl | hji
  · rcases eq_or_ne k' k with rfl | hkk
    · simp [hc]
    · -- before the step `i` claimed nothing, so it did not hold `k'` either
      have hnot : holder k' ≠ some j := by
        intro hheld
        rcases (h k' j).1 hheld with ⟨d, hd, hdk⟩
        simp [hd, hdk] at hi
      simp [Function.update_of_ne hkk, hnot, hc, Ne.symm hkk]
  · rcases eq_or_ne k' k with rfl | hkk
    · have hnot : ¬ ∃ d, table j = some d ∧ claim d = some k' := by
        rw [← h k' j, hk]
        simp
      simpa [Function.update_of_ne hji, Ne.symm hji] using hnot
    · simpa only [Function.update_of_ne hji, Function.update_of_ne hkk] using h k' j

end Update

end Exact

/-! ## Properties of the entries when one of them changes -/

section Entries

variable [DecidableEq I] {table : I → Option C} {P : C → Prop}

theorem forall_update (h : ∀ {i c}, table i = some c → P c) {i : I} {c : C} (hc : P c)
    {j : I} {d : C} (hj : Function.update table i (some c) j = some d) : P d := by
  rcases eq_or_ne j i with rfl | hji
  · simp only [Function.update_self, Option.some.injEq] at hj
    exact hj ▸ hc
  · exact h (by simpa only [Function.update_of_ne hji] using hj)

/-- If the entry that changes did not have the property, the table gains it only there. -/
theorem exists_update {i : I} {c : C} (hold : ∀ {d}, table i = some d → ¬ P d) :
    (∃ j d, Function.update table i (some c) j = some d ∧ P d) ↔
      (∃ j d, table j = some d ∧ P d) ∨ P c := by
  constructor
  · rintro ⟨j, d, hj, hd⟩
    rcases eq_or_ne j i with rfl | hji
    · simp only [Function.update_self, Option.some.injEq] at hj
      exact .inr (hj ▸ hd)
    · exact .inl ⟨j, d, by simpa only [Function.update_of_ne hji] using hj, hd⟩
  · rintro (⟨j, d, hj, hd⟩ | hc)
    · have hji : j ≠ i := by
        rintro rfl
        exact hold hj hd
      exact ⟨j, d, by simpa only [Function.update_of_ne hji] using hj, hd⟩
    · exact ⟨i, c, Function.update_self .., hc⟩

end Entries

end Footprint
