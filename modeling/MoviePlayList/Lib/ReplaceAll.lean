import Mathlib.Data.List.Basic

/-!
# ReplaceAll — global search and replace on a list

One pass from left to right: at each position that is not inside an earlier match, a match of the
pattern is replaced and skipped, anything else is copied.

* `replaceAll_pattern_append` and `replaceAll_cons` are the two steps of the pass,
  `replaceAllInduction` is the induction along it;
* `replaceAll_flatMap` carries a pass over a text written token by token;
* `replaceAll_nil_sublist` and `replaceAll_nil_eq_self_iff` compare a text before and after a
  deletion.
-/

namespace ReplaceAll

universe u v

variable {α : Type u} [DecidableEq α]

/-- The scan; `skip` counts the elements of the last match that are still to be passed over. -/
def scan (pattern replacement : List α) : Nat → List α → List α
  | _, [] => []
  | skip + 1, _ :: cs => scan pattern replacement skip cs
  | 0, c :: cs =>
      if pattern.isPrefixOf (c :: cs) then
        replacement ++ scan pattern replacement (pattern.length - 1) cs
      else
        c :: scan pattern replacement 0 cs

/-- Replace the leftmost non-overlapping occurrences of a non-empty pattern. -/
def replaceAll (pattern replacement : List α) (cs : List α) : List α :=
  if pattern = [] then cs else scan pattern replacement 0 cs

variable {p r : List α}

/-! ## The steps of the pass -/

@[simp] theorem replaceAll_nil : replaceAll p r [] = [] := by
  by_cases hp : p = []
  · simp [replaceAll, hp]
  · simp [replaceAll, hp, scan]

theorem scan_length_append (xs cs : List α) : scan p r xs.length (xs ++ cs) = scan p r 0 cs := by
  induction xs with
  | nil =>
      rfl
  | cons x xs ih =>
      simpa [scan] using ih

/-- A match is replaced and passed over. -/
theorem replaceAll_pattern_append (hp : p ≠ []) (cs : List α) :
    replaceAll p r (p ++ cs) = r ++ replaceAll p r cs := by
  cases p with
  | nil =>
      exact absurd rfl hp
  | cons b q =>
      have hskip : scan (b :: q) r q.length (q ++ cs) = scan (b :: q) r 0 cs :=
        scan_length_append q cs
      have hfound : (b :: q).isPrefixOf (b :: (q ++ cs)) = true :=
        List.isPrefixOf_iff_prefix.2 ⟨cs, rfl⟩
      simp only [replaceAll, if_neg hp, List.cons_append, scan, if_pos hfound,
        List.length_cons, Nat.add_sub_cancel, hskip]

/-- Where there is no match, one element is copied. -/
theorem replaceAll_cons {c : α} {cs : List α} (h : ¬ p <+: c :: cs) :
    replaceAll p r (c :: cs) = c :: replaceAll p r cs := by
  have hp : p ≠ [] := by
    rintro rfl
    exact h List.nil_prefix
  have hnot : ¬ p.isPrefixOf (c :: cs) = true := fun h' => h (List.isPrefixOf_iff_prefix.1 h')
  simp only [replaceAll, if_neg hp, scan, if_neg hnot]

/-- An element that the pattern does not start with is copied. -/
theorem replaceAll_cons_of_ne {b c : α} {q cs : List α} (h : c ≠ b) :
    replaceAll (b :: q) r (c :: cs) = c :: replaceAll (b :: q) r cs := by
  apply replaceAll_cons
  intro hpre
  exact h (List.cons_prefix_cons.1 hpre).1.symm

/-- Induction along the pass: the text is at its end, at a match, or at an element that is
copied. -/
theorem replaceAllInduction {P : List α → Prop} (hp : p ≠ []) (nil : P [])
    (found : ∀ cs, P cs → P (p ++ cs))
    (copied : ∀ c cs, ¬ p <+: c :: cs → P cs → P (c :: cs)) (cs : List α) : P cs := by
  induction hn : cs.length using Nat.strongRecOn generalizing cs with
  | ind n ih =>
      cases cs with
      | nil =>
          exact nil
      | cons c cs =>
          by_cases hpre : p <+: c :: cs
          · rcases hpre with ⟨rest, hrest⟩
            -- the pattern is not empty, so the rest is shorter
            have hlen : rest.length < n := by
              have hpos : 0 < p.length := List.length_pos_of_ne_nil hp
              have htotal := congrArg List.length hrest
              simp only [List.length_append] at htotal
              omega
            exact hrest ▸ found rest (ih rest.length hlen rest rfl)
          · have hlen : cs.length < n := by
              simp only [List.length_cons] at hn
              omega
            exact copied c cs hpre (ih cs.length hlen cs rfl)

/-! ## Texts written token by token -/

/-- When the pass takes the text of each token to some text, whatever follows it, it takes the text
of a list of tokens to the texts of all of them. -/
theorem replaceAll_flatMap {τ : Type v} {text shown : τ → List α} (ts : List τ)
    (h : ∀ t rest, replaceAll p r (text t ++ rest) = shown t ++ replaceAll p r rest) :
    replaceAll p r (ts.flatMap text) = ts.flatMap shown := by
  induction ts with
  | nil =>
      simp
  | cons t ts ih =>
      simp only [List.flatMap_cons, h, ih]

/-- A pattern of one element is replaced wherever the element stands. -/
theorem replaceAll_singleton (b : α) (cs : List α) :
    replaceAll [b] r cs = cs.flatMap (fun c => if c = b then r else [c]) := by
  induction cs with
  | nil =>
      simp
  | cons c cs ih =>
      by_cases hc : c = b
      · subst hc
        have hfound : replaceAll [c] r (c :: cs) = r ++ replaceAll [c] r cs :=
          replaceAll_pattern_append (List.cons_ne_nil c []) cs
        rw [hfound, ih]
        simp
      · rw [replaceAll_cons_of_ne hc, ih]
        simp [hc]

/-! ## Before and after -/

/-- Without a match nothing changes. -/
theorem replaceAll_eq_self {cs : List α} (h : ¬ p <:+: cs) : replaceAll p r cs = cs := by
  induction cs with
  | nil =>
      simp
  | cons c cs ih =>
      rw [List.infix_cons_iff, not_or] at h
      rw [replaceAll_cons h.1, ih h.2]

theorem replaceAll_nil_sublist (hp : p ≠ []) (cs : List α) :
    (replaceAll p [] cs).Sublist cs := by
  induction cs using replaceAllInduction hp with
  | nil =>
      simp
  | found cs ih =>
      rw [replaceAll_pattern_append hp, List.nil_append]
      exact ih.trans (List.sublist_append_right p cs)
  | copied c cs hnot ih =>
      rw [replaceAll_cons hnot]
      exact ih.cons_cons c

/-- A deletion that finds a match makes the text shorter. -/
theorem length_replaceAll_nil_lt (hp : p ≠ []) {cs : List α} (h : p <:+: cs) :
    (replaceAll p [] cs).length < cs.length := by
  have hpos : 0 < p.length := List.length_pos_of_ne_nil hp
  induction cs using replaceAllInduction hp with
  | nil =>
      exact absurd (List.infix_nil.1 h) hp
  | found cs ih =>
      have hle := (replaceAll_nil_sublist hp cs).length_le
      rw [replaceAll_pattern_append hp, List.nil_append, List.length_append]
      omega
  | copied c cs hnot ih =>
      -- the match is not at the element that is copied
      have hrest : p <:+: cs := (List.infix_cons_iff.1 h).resolve_left hnot
      rw [replaceAll_cons hnot, List.length_cons, List.length_cons]
      exact Nat.succ_lt_succ (ih hrest)

theorem replaceAll_nil_eq_self_iff (hp : p ≠ []) (cs : List α) :
    replaceAll p [] cs = cs ↔ ¬ p <:+: cs := by
  constructor
  · intro h hin
    have hlt := length_replaceAll_nil_lt hp hin
    rw [h] at hlt
    exact Nat.lt_irrefl _ hlt
  · exact replaceAll_eq_self

omit [DecidableEq α] in
/-- When two passes that only drop elements return what they were given, neither dropped any. -/
theorem eq_self_of_sublist {f g : List α → List α} (hf : ∀ xs, (f xs).Sublist xs)
    (hg : ∀ xs, (g xs).Sublist xs) {xs : List α} (h : f (g xs) = xs) : g xs = xs ∧ f xs = xs := by
  have hback : xs.Sublist (g xs) := by
    have hfg := hf (g xs)
    rwa [h] at hfg
  have heq : g xs = xs := (hg xs).antisymm hback
  rw [heq] at h
  exact ⟨heq, h⟩

/-! ## Replacing one element -/

theorem prefix_replaceAll_singleton_iff {b : α} {t : List α} (hb : b ∉ t) (hr : ∀ a ∈ r, a ∉ t)
    (hnil : r ≠ []) (cs : List α) : t <+: replaceAll [b] r cs ↔ t <+: cs := by
  induction cs generalizing t with
  | nil =>
      simp
  | cons c cs ih =>
      cases t with
      | nil =>
          simp
      | cons a t =>
          by_cases hc : c = b
          · -- neither the element nor its replacement starts like `t`
            subst hc
            have hfound : replaceAll [c] r (c :: cs) = r ++ replaceAll [c] r cs :=
              replaceAll_pattern_append (List.cons_ne_nil c []) cs
            have hca : a ≠ c := fun h => hb (by simp [h])
            cases r with
            | nil =>
                exact absurd rfl hnil
            | cons d r =>
                have hda : a ≠ d := fun h => hr d (by simp) (by simp [h])
                simp [hfound, List.cons_prefix_cons, hda, hca]
          · have hb' : b ∉ t := fun h => hb (List.mem_cons_of_mem a h)
            have hr' : ∀ x ∈ r, x ∉ t := fun x hx h => hr x hx (List.mem_cons_of_mem a h)
            rw [replaceAll_cons_of_ne hc, List.cons_prefix_cons, List.cons_prefix_cons, ih hb' hr']

/-- Replacing an element keeps the occurrences of every text that has nothing in common with the
element and its replacement. -/
theorem infix_replaceAll_singleton_iff {b : α} {t : List α} (hb : b ∉ t) (hr : ∀ a ∈ r, a ∉ t)
    (hnil : r ≠ []) (ht : t ≠ []) (cs : List α) : t <:+: replaceAll [b] r cs ↔ t <:+: cs := by
  induction cs with
  | nil =>
      simp
  | cons c cs ih =>
      have hprefix := prefix_replaceAll_singleton_iff hb hr hnil (c :: cs)
      by_cases hc : c = b
      · subst hc
        have hfound : replaceAll [c] r (c :: cs) = r ++ replaceAll [c] r cs :=
          replaceAll_pattern_append (List.cons_ne_nil c []) cs
        have hnot : ¬ t <+: c :: cs := by
          intro h
          rcases List.prefix_cons_iff.1 h with rfl | ⟨t', rfl, _⟩
          · exact ht rfl
          · exact hb (by simp)
        have hclear : t <:+: r ++ replaceAll [c] r cs ↔ t <:+: replaceAll [c] r cs := by
          rw [List.infix_append_iff_ne_nil]
          constructor
          · rintro (hin | hin | ⟨t₁, t₂, h₁, _, rfl, hsuf, _⟩)
            · rcases List.exists_mem_of_ne_nil t ht with ⟨a, ha⟩
              exact absurd ha (hr a (hin.subset ha))
            · exact hin
            · rcases List.exists_mem_of_ne_nil t₁ h₁ with ⟨a, ha⟩
              exact absurd (List.mem_append_left _ ha) (hr a (hsuf.subset ha))
          · intro h
            exact Or.inr (Or.inl h)
        rw [hfound, hclear, ih, List.infix_cons_iff]
        simp [hnot]
      · rw [List.infix_cons_iff, ← hprefix, replaceAll_cons_of_ne hc, List.infix_cons_iff, ih]

end ReplaceAll
