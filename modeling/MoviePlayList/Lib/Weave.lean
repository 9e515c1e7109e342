import Mathlib.Data.List.Infix
import MoviePlayList.Lib.ReplaceAll

/-!
# Weave — what a global deletion can leave behind

Deleting every occurrence of `p` joins what stood around it, so that the result may contain a text
that the input did not.  `Weave p w u` says how the input looked there: `w` is `u` with copies of
`p` written between its letters.

`infix_replaceAll_iff` is the exact statement: for a pattern that cannot overlap itself or `u`, the
result of deleting `p` contains `u` if and only if the input contains a weave of `u` other than `p`
itself.  `Sturdy.weave` lets several deletions follow each other.
-/

namespace ReplaceAll

universe u

variable {α : Type u}

def copies (p : List α) (k : Nat) : List α := (List.replicate k p).flatten

/-- `w` is `u` with any number of copies of `p` between one letter and the next. -/
inductive Weave (p : List α) : List α → List α → Prop
  | single (a : α) : Weave p [a] [a]
  | letter (a : α) (k : Nat) {w u : List α} :
      Weave p w u → Weave p (a :: (copies p k ++ w)) (a :: u)

/-- Occurrences of `p` cannot overlap `u` at its ends, and lie inside `u` only as all of it. -/
structure Sturdy (p u : List α) : Prop where
  head : ∀ a ∈ u.head?, a ∉ p.tail
  last : ∀ a ∈ u.getLast?, a ∉ p.dropLast
  self : p <:+: u → u = p

instance [DecidableEq α] (p u : List α) : Decidable (Sturdy p u) :=
  decidable_of_iff
    ((∀ a ∈ u.head?, a ∉ p.tail) ∧ (∀ a ∈ u.getLast?, a ∉ p.dropLast) ∧ (p <:+: u → u = p))
    ⟨fun h => ⟨h.1, h.2.1, h.2.2⟩, fun h => ⟨h.head, h.last, h.self⟩⟩

/-! ## Copies -/

@[simp] theorem copies_zero (p : List α) : copies p 0 = [] := rfl

@[simp] theorem copies_succ (p : List α) (k : Nat) : copies p (k + 1) = p ++ copies p k := rfl

theorem replaceAll_copies_append [DecidableEq α] {p : List α} (hp : p ≠ []) (k : Nat)
    (cs : List α) : replaceAll p [] (copies p k ++ cs) = replaceAll p [] cs := by
  induction k with
  | zero =>
      rfl
  | succ k ih =>
      rw [copies_succ, List.append_assoc, replaceAll_pattern_append hp, List.nil_append, ih]

/-- An infix that cannot end in a copy lies behind the copies or is one of them. -/
theorem infix_of_infix_copies_append {p m : List α} {w : List α} (hm : Sturdy m p) (hne : p ≠ m)
    (k : Nat) (h : m <:+: copies p k ++ w) : m <:+: w := by
  induction k with
  | zero =>
      exact h
  | succ k ih =>
      rw [copies_succ, List.append_assoc, List.infix_append_iff_ne_nil] at h
      rcases h with hcopy | hrest | ⟨m₁, m₂, h₁, h₂, rfl, hsuf, _⟩
      · exact absurd (hm.self hcopy) hne
      · exact ih hrest
      · -- the last letter of the copy would stand inside `m`
        have hlast : m₁.getLast h₁ ∈ p.getLast? := by
          rcases hsuf with ⟨p₁, rfl⟩
          simp [List.getLast?_append, List.getLast?_eq_getLast_of_ne_nil h₁]
        have hmem : m₁.getLast h₁ ∈ (m₁ ++ m₂).dropLast := by
          rw [List.dropLast_append_of_ne_nil h₂]
          exact List.mem_append_left _ (List.getLast_mem h₁)
        exact absurd hmem (hm.last _ hlast)

/-! ## Ends of a weave -/

namespace Weave

variable {p w u : List α}

theorem ne_nil (h : Weave p w u) : u ≠ [] := by
  cases h <;> exact List.cons_ne_nil _ _

theorem head?_eq (h : Weave p w u) : w.head? = u.head? := by
  cases h <;> rfl

theorem getLast?_cons_eq {a : α} (h : Weave p w u) : (a :: u).getLast? = u.getLast? := by
  cases h <;> simp [List.getLast?_cons_cons]

theorem left_ne_nil (h : Weave p w u) : w ≠ [] := by
  cases h <;> exact List.cons_ne_nil _ _

theorem getLast?_eq (h : Weave p w u) : w.getLast? = u.getLast? := by
  induction h with
  | single a =>
      rfl
  | @letter a k w u h ih =>
      calc
        (a :: (copies p k ++ w)).getLast? = w.getLast? := by
          rw [← List.cons_append, List.getLast?_append_of_ne_nil _ h.left_ne_nil]
        _ = (a :: u).getLast? := by
          rw [ih, h.getLast?_cons_eq]

/-! ## A pattern found in a weave -/

/-- A text whose matches cannot begin a copy or run past the end of `u` is a prefix of the weave
only where it is one of `u`, and there no copy stands inside it. -/
theorem prefix_of_prefix_append {b : α} {q m y : List α} (h : Weave (b :: q) w u)
    (hb : b ∉ m.tail) (hlast : ∀ a ∈ u.getLast?, a ∉ m.dropLast) (hm : m <+: w ++ y) :
    m <+: u ∧ (u = m → w = m) := by
  induction h generalizing m with
  | single a =>
      rcases List.prefix_cons_iff.1 hm with rfl | ⟨m', rfl, hm'⟩
      · exact ⟨List.nil_prefix, fun h => h⟩
      · cases m' with
        | nil =>
            exact ⟨List.prefix_refl [a], fun h => h⟩
        | cons c m' =>
            exact absurd (by simp) (hlast a rfl)
  | @letter a k w u hw ih =>
      rcases List.prefix_cons_iff.1 hm with rfl | ⟨m', rfl, hm'⟩
      · exact ⟨List.nil_prefix, fun h => absurd h (List.cons_ne_nil a u)⟩
      · cases m' with
        | nil =>
            refine ⟨⟨u, rfl⟩, fun h => ?_⟩
            exact absurd (List.cons.inj h).2 hw.ne_nil
        | cons c m' =>
            cases k with
            | succ k =>
                -- the match would go on with the first letter of a copy
                have hcb : c = b := by
                  rcases hm' with ⟨rest, hrest⟩
                  exact (List.cons.inj hrest).1
                exact absurd (by simp [hcb]) hb
            | zero =>
                have hb' : b ∉ (c :: m').tail := fun h => hb (List.mem_cons_of_mem c h)
                have hlast' : ∀ x ∈ u.getLast?, x ∉ (c :: m').dropLast := by
                  intro x hx hmem
                  rw [← hw.getLast?_cons_eq (a := a)] at hx
                  exact hlast x hx (List.mem_cons_of_mem a hmem)
                rcases ih hb' hlast' hm' with ⟨hpre, heq⟩
                refine ⟨List.cons_prefix_cons.2 ⟨rfl, hpre⟩, fun h => ?_⟩
                exact congrArg (a :: ·) (heq (List.cons.inj h).2)

/-- An infix of the weave lies at its start, or it is an infix of `u` behind the first letter. -/
theorem infix_cases {b : α} {q m : List α} (h : Weave (b :: q) w u) (hq : Sturdy m (b :: q))
    (hne : b :: q ≠ m) (hlast : ∀ a ∈ u.getLast?, a ∉ m.dropLast) (hm : m <:+: w) :
    m <+: w ∨ m <:+: u.tail := by
  have hb : b ∉ m.tail := hq.head b rfl
  induction h with
  | single a =>
      rcases List.infix_cons_iff.1 hm with hpre | hnil
      · exact Or.inl hpre
      · exact Or.inr hnil
  | @letter a k w u hw ih =>
      have hlast' : ∀ x ∈ u.getLast?, x ∉ m.dropLast := by
        rw [← hw.getLast?_cons_eq (a := a)]
        exact hlast
      rcases List.infix_cons_iff.1 hm with hpre | hrest
      · exact Or.inl hpre
      · right
        have hmw : m <:+: w := infix_of_infix_copies_append hq hne k hrest
        rcases ih hlast' hmw with hpre | htail
        · have hprew : m <+: w ++ [] := by
            simpa using hpre
          exact (hw.prefix_of_prefix_append hb hlast' hprew).1.isInfix
        · exact htail.trans (List.tail_suffix u).isInfix

end Weave

/-- A pattern that cannot overlap `u` nor the copies cannot overlap a weave of `u` either. -/
theorem Sturdy.weave {b : α} {q m w u : List α} (hu : Sturdy m u) (hq : Sturdy m (b :: q))
    (hne : b :: q ≠ m) (h : Weave (b :: q) w u) : Sturdy m w where
  head := by
    rw [h.head?_eq]
    exact hu.head
  last := by
    rw [h.getLast?_eq]
    exact hu.last
  self := by
    intro hm
    rcases h.infix_cases hq hne hu.last hm with hpre | htail
    · have hprew : m <+: w ++ [] := by
        simpa using hpre
      rcases h.prefix_of_prefix_append (hq.head b rfl) hu.last hprew with ⟨hmu, heq⟩
      exact heq (hu.self hmu.isInfix)
    · -- `m` would be all of `u` and stand behind its first letter
      have hum : u = m := hu.self (htail.trans (List.tail_suffix u).isInfix)
      have hle := htail.length_le
      have hpos : 0 < u.length := List.length_pos_of_ne_nil h.ne_nil
      rw [← hum, List.length_tail] at hle
      omega

/-! ## Deleting a pattern -/

section Delete

variable [DecidableEq α] {b : α} {q w u : List α}

/-- Where the result goes on with `u`, the input goes on with copies and a weave of `u`; the pass
found no match at the first letter of the weave. -/
theorem exists_weave_of_prefix {p s : List α} (hp : p ≠ []) (hu : u ≠ [])
    (h : u <+: replaceAll p [] s) :
    ∃ k w y, s = copies p k ++ (w ++ y) ∧ Weave p w u ∧ ¬ p <+: w ++ y := by
  induction s using replaceAllInduction hp generalizing u with
  | nil =>
      rw [replaceAll_nil] at h
      exact absurd (List.prefix_nil.1 h) hu
  | found cs ih =>
      rw [replaceAll_pattern_append hp, List.nil_append] at h
      rcases ih hu h with ⟨k, w, y, rfl, hw, hnot⟩
      exact ⟨k + 1, w, y, by simp, hw, hnot⟩
  | copied c cs hnot ih =>
      rw [replaceAll_cons hnot] at h
      rcases List.prefix_cons_iff.1 h with rfl | ⟨u', rfl, hu'⟩
      · exact absurd rfl hu
      · by_cases hnil : u' = []
        · subst hnil
          exact ⟨0, [c], cs, rfl, Weave.single c, hnot⟩
        · rcases ih hnil hu' with ⟨k, w, y, rfl, hw, _⟩
          refine ⟨0, c :: (copies p k ++ w), y, by simp, Weave.letter c k hw, ?_⟩
          simpa using hnot

/-- What the result contains comes from a weave of it in the input. -/
theorem exists_weave_of_infix {p s : List α} (hp : p ≠ []) (hu : u ≠ [])
    (h : u <:+: replaceAll p [] s) : ∃ w, Weave p w u ∧ w ≠ p ∧ w <:+: s := by
  induction s using replaceAllInduction hp with
  | nil =>
      rw [replaceAll_nil] at h
      exact absurd (List.infix_nil.1 h) hu
  | found cs ih =>
      rw [replaceAll_pattern_append hp, List.nil_append] at h
      rcases ih h with ⟨w, hw, hne, hin⟩
      exact ⟨w, hw, hne, hin.trans (List.suffix_append p cs).isInfix⟩
  | copied c cs hnot ih =>
      rw [replaceAll_cons hnot] at h
      rcases List.infix_cons_iff.1 h with hpre | hrest
      · rw [← replaceAll_cons hnot] at hpre
        rcases exists_weave_of_prefix hp hu hpre with ⟨k, w, y, hs, hw, hno⟩
        refine ⟨w, hw, ?_, ?_⟩
        · rintro rfl
          exact hno (List.prefix_append w y)
        · rw [hs]
          exact List.infix_append' _ _ _
      · rcases ih hrest with ⟨w, hw, hne, hin⟩
        exact ⟨w, hw, hne, hin.trans (List.suffix_cons c cs).isInfix⟩

/-- The pass copies every letter of a weave and drops the copies between them. -/
theorem prefix_replaceAll_of_weave {y : List α} (hb : b ∉ q) (h : Weave (b :: q) w u)
    (hlast : ∀ a ∈ u.getLast?, a ∉ (b :: q).dropLast)
    (hself : b :: q <:+: u → u = b :: q ∧ w ≠ b :: q) :
    u <+: replaceAll (b :: q) [] (w ++ y) := by
  have hnot : ¬ b :: q <+: w ++ y := by
    intro hpre
    rcases h.prefix_of_prefix_append (m := b :: q) hb hlast hpre with ⟨hu, heq⟩
    rcases hself hu.isInfix with ⟨hall, hne⟩
    exact hne (heq hall)
  induction h with
  | single a =>
      rw [List.cons_append] at hnot ⊢
      rw [replaceAll_cons hnot]
      exact List.cons_prefix_cons.2 ⟨rfl, List.nil_prefix⟩
  | @letter a k w u hw ih =>
      have hlast' : ∀ x ∈ u.getLast?, x ∉ (b :: q).dropLast := by
        rw [← hw.getLast?_cons_eq (a := a)]
        exact hlast
      -- the rest of `u` is too short to contain the pattern
      have hfree : ¬ b :: q <:+: u := by
        intro hu
        have hall := (hself (hu.trans (List.suffix_cons a u).isInfix)).1
        have hle := hu.length_le
        rw [← hall, List.length_cons] at hle
        omega
      have hnot' : ¬ b :: q <+: w ++ y := by
        intro hpre
        exact hfree (hw.prefix_of_prefix_append (m := b :: q) hb hlast' hpre).1.isInfix
      rw [List.cons_append] at hnot ⊢
      rw [replaceAll_cons hnot, List.append_assoc,
        replaceAll_copies_append (List.cons_ne_nil b q)]
      refine List.cons_prefix_cons.2 ⟨rfl, ?_⟩
      exact ih hlast' (fun hu => absurd hu hfree) hnot'

/-- What stands before a weave cannot swallow its first letter. -/
theorem infix_replaceAll_of_weave (hb : b ∉ q) (hu : Sturdy (b :: q) u)
    (h : Weave (b :: q) w u) (hne : w ≠ b :: q) {s : List α} (hs : w <:+: s) :
    u <:+: replaceAll (b :: q) [] s := by
  have hself : b :: q <:+: u → u = b :: q ∧ w ≠ b :: q := fun hin => ⟨hu.self hin, hne⟩
  have hhere : ∀ y, u <+: replaceAll (b :: q) [] (w ++ y) := fun y =>
    prefix_replaceAll_of_weave hb h hu.last hself
  rcases hs with ⟨x, y, rfl⟩
  rw [List.append_assoc]
  generalize hs : x ++ (w ++ y) = s
  induction s using replaceAllInduction (List.cons_ne_nil b q) generalizing x with
  | nil =>
      have hw : w = [] := (List.append_eq_nil_iff.1 (List.append_eq_nil_iff.1 hs).2).1
      exact absurd hw h.left_ne_nil
  | found cs ih =>
      rcases List.append_eq_append_iff.1 hs with ⟨x', hx, hw⟩ | ⟨x', rfl, hcs⟩
      · cases x with
        | nil =>
            have := hhere y
            rw [show w ++ y = b :: q ++ cs by simpa using hs] at this
            exact this.isInfix
        | cons c x =>
            cases x' with
            | nil =>
                rw [replaceAll_pattern_append (List.cons_ne_nil b q), List.nil_append]
                have := hhere y
                rw [show w ++ y = cs by simpa using hw] at this
                exact this.isInfix
            | cons d x' =>
                -- the match would end with the first letter of the weave in its tail
                have hd : d ∈ u.head? := by
                  rw [← h.head?_eq]
                  cases w with
                  | nil =>
                      exact absurd rfl h.left_ne_nil
                  | cons e w =>
                      exact congrArg some (List.cons.inj hw).1
                have hmem : d ∈ (b :: q).tail := by
                  rw [hx]
                  simp
                exact absurd hmem (hu.head d hd)
      · rw [replaceAll_pattern_append (List.cons_ne_nil b q), List.nil_append]
        exact ih x' hcs.symm
  | copied c cs hnot ih =>
      cases x with
      | nil =>
          have := hhere y
          rw [show w ++ y = c :: cs by simpa using hs] at this
          exact this.isInfix
      | cons d x =>
          rw [replaceAll_cons hnot]
          exact (ih x (List.cons.inj hs).2).trans (List.suffix_cons _ _).isInfix

/-- After deleting a pattern, the text contains `u` if and only if before it contained a weave of
`u` other than the pattern itself. -/
theorem infix_replaceAll_iff {p s : List α} (hp : p ≠ []) (hpp : Sturdy p p) (hu : Sturdy p u)
    (hnil : u ≠ []) : u <:+: replaceAll p [] s ↔ ∃ w, Weave p w u ∧ w ≠ p ∧ w <:+: s := by
  constructor
  · exact exists_weave_of_infix hp hnil
  · rintro ⟨w, hw, hne, hs⟩
    cases p with
    | nil =>
        exact absurd rfl hp
    | cons b q =>
        exact infix_replaceAll_of_weave (hpp.head b rfl) hu hw hne hs

end Delete

end ReplaceAll
