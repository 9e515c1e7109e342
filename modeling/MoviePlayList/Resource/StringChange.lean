import Mathlib.Data.List.Infix
import MoviePlayList.Lib.Weave
import MoviePlayList.Resource.Extensions

/-!
# StringChange — the cleaning of the search API's texts

`String.stringChange` makes four passes over a text: it deletes `</b>`, then `<b>`, then `&amp`,
and replaces `|`.

* On a text written in tokens the passes amount to one scan that drops the tags and renders the
  separators (`stringChange_markup`).
* On an arbitrary text a deletion may join what stood around a token into another token.
  `stringChange_clean_iff` says for which texts a token is left over; these are also the texts
  that a second cleaning changes.
-/

namespace MoviePlayList

open ReplaceAll

/-! ## The passes -/

/-- `"</b>"`, the target of the first pass. -/
def closePattern : List Char := "</b>".toList

/-- `"<b>"`, the target of the second pass. -/
def openPattern : List Char := "<b>".toList

/-- `"&amp"`, the target of the third pass. -/
def ampPattern : List Char := "&amp".toList

theorem toList_stringChange (s : String) :
    (stringChange s).toList =
      replaceAll ['|'] [',', ' ']
        (replaceAll ampPattern [] (replaceAll openPattern [] (replaceAll closePattern [] s.toList))) := by
  simp only [stringChange, replacingOccurrences, String.toList_ofList]
  rfl

/-! ## Texts written in tokens -/

/-- What the fields of the search API are made of. -/
inductive Token
  | plain (c : {c : Char // c ≠ '<' ∧ c ≠ '&' ∧ c ≠ '|'})
  | openTag
  | closeTag
  | separator

namespace Token

def text : Token → List Char
  | .plain c => [c.1]
  | .openTag => openPattern
  | .closeTag => closePattern
  | .separator => ['|']

/-- The text the tokens stand for. -/
def markup (tokens : List Token) : String := String.ofList (tokens.flatMap text)

/-- One scan over the tokens: tags are dropped, a separator becomes a comma and a space. -/
def render : List Token → List Char
  | [] => []
  | .plain c :: tokens => c.1 :: render tokens
  | .openTag :: tokens => render tokens
  | .closeTag :: tokens => render tokens
  | .separator :: tokens => ',' :: ' ' :: render tokens

/-- A token after the first pass. -/
def withoutClose : Token → List Char
  | .closeTag => []
  | token => token.text

/-- A token after the first two passes. -/
def withoutTags : Token → List Char
  | .openTag => []
  | token => token.withoutClose

/-- A token after all passes. -/
def shown : Token → List Char
  | .separator => [',', ' ']
  | token => token.withoutTags

theorem render_eq_flatMap (tokens : List Token) : render tokens = tokens.flatMap shown := by
  induction tokens with
  | nil =>
      rfl
  | cons token tokens ih =>
      cases token <;> simp [render, shown, withoutTags, withoutClose, text, ih]

/-! Each pass reads token by token: no match straddles two tokens. -/

theorem replaceAll_closeTag (token : Token) (rest : List Char) :
    replaceAll closePattern [] (token.text ++ rest) =
      token.withoutClose ++ replaceAll closePattern [] rest := by
  cases token with
  | plain c =>
      exact replaceAll_cons_of_ne c.2.1
  | openTag =>
      -- `<` is followed by `b`, not by `/`
      have hlt : ¬ closePattern <+: '<' :: 'b' :: '>' :: rest := by
        simp [closePattern]
      calc
        replaceAll closePattern [] ('<' :: 'b' :: '>' :: rest)
            = '<' :: replaceAll closePattern [] ('b' :: '>' :: rest) :=
          replaceAll_cons hlt
        _ = '<' :: 'b' :: replaceAll closePattern [] ('>' :: rest) :=
          congrArg _ (replaceAll_cons_of_ne (by decide))
        _ = '<' :: 'b' :: '>' :: replaceAll closePattern [] rest :=
          congrArg (fun cs => '<' :: 'b' :: cs) (replaceAll_cons_of_ne (by decide))
  | closeTag =>
      exact replaceAll_pattern_append (by decide) rest
  | separator =>
      exact replaceAll_cons_of_ne (by decide)

theorem replaceAll_openTag (token : Token) (rest : List Char) :
    replaceAll openPattern [] (token.withoutClose ++ rest) =
      token.withoutTags ++ replaceAll openPattern [] rest := by
  cases token with
  | plain c =>
      exact replaceAll_cons_of_ne c.2.1
  | openTag =>
      exact replaceAll_pattern_append (by decide) rest
  | closeTag =>
      rfl
  | separator =>
      exact replaceAll_cons_of_ne (by decide)

theorem replaceAll_amp (token : Token) (rest : List Char) :
    replaceAll ampPattern [] (token.withoutTags ++ rest) =
      token.withoutTags ++ replaceAll ampPattern [] rest := by
  cases token with
  | plain c =>
      exact replaceAll_cons_of_ne c.2.2.1
  | openTag =>
      rfl
  | closeTag =>
      rfl
  | separator =>
      exact replaceAll_cons_of_ne (by decide)

theorem replaceAll_separator (token : Token) (rest : List Char) :
    replaceAll ['|'] [',', ' '] (token.withoutTags ++ rest) =
      token.shown ++ replaceAll ['|'] [',', ' '] rest := by
  cases token with
  | plain c =>
      exact replaceAll_cons_of_ne c.2.2.2
  | openTag =>
      rfl
  | closeTag =>
      rfl
  | separator =>
      exact replaceAll_pattern_append (by decide) rest

theorem toList_stringChange_markup (tokens : List Token) :
    (stringChange (markup tokens)).toList = tokens.flatMap shown := by
  calc
    (stringChange (markup tokens)).toList
        = replaceAll ['|'] [',', ' ']
            (replaceAll ampPattern []
              (replaceAll openPattern []
                (replaceAll closePattern [] (tokens.flatMap text)))) := by
      rw [toList_stringChange, markup, String.toList_ofList]
    _ = replaceAll ['|'] [',', ' ']
          (replaceAll ampPattern []
            (replaceAll openPattern [] (tokens.flatMap withoutClose))) := by
      rw [replaceAll_flatMap tokens replaceAll_closeTag]
    _ = replaceAll ['|'] [',', ' ']
          (replaceAll ampPattern [] (tokens.flatMap withoutTags)) := by
      rw [replaceAll_flatMap tokens replaceAll_openTag]
    _ = replaceAll ['|'] [',', ' '] (tokens.flatMap withoutTags) := by
      rw [replaceAll_flatMap tokens replaceAll_amp]
    _ = tokens.flatMap shown :=
      replaceAll_flatMap tokens replaceAll_separator

/-- The four passes over a text written in tokens give what one scan over the tokens gives. -/
theorem stringChange_markup (tokens : List Token) :
    stringChange (markup tokens) = String.ofList (render tokens) := by
  rw [render_eq_flatMap, ← toList_stringChange_markup, String.ofList_toList]

end Token

/-! ## Tokens that are left over -/

/-- The targets of the passes. -/
def strippedTokens : List String := ["</b>", "<b>", "&amp", "|"]

/-- None of the tokens is left in the text. -/
def Clean (s : String) : Prop := ∀ t ∈ strippedTokens, ¬ t.toList <:+: s.toList

instance (s : String) : Decidable (Clean s) :=
  inferInstanceAs (Decidable (∀ t ∈ strippedTokens, ¬ t.toList <:+: s.toList))

/-- `w` is the token `t` with tokens nested between its letters: first `&amp`, then `<b>` between
the letters of that, then `</b>` between the letters of that; and no pass finds `t` itself. -/
def Nested (w t : List Char) : Prop :=
  ∃ v u, Weave ampPattern u t ∧ u ≠ ampPattern ∧
    Weave openPattern v u ∧ v ≠ openPattern ∧
    Weave closePattern w v ∧ w ≠ closePattern

/-- The text hides a token: one of the tags or `&amp` stands in it with others nested inside. -/
def HidesToken (s : String) : Prop :=
  ∃ t ∈ [closePattern, openPattern, ampPattern], ∃ w, Nested w t ∧ w <:+: s.toList

/-- No two of the three tokens can overlap. -/
theorem sturdy_tokens : ∀ p ∈ [closePattern, openPattern, ampPattern],
    ∀ t ∈ [closePattern, openPattern, ampPattern], Sturdy p t := by
  decide

/-- After the three deletions a token is left exactly where it was nested. -/
theorem infix_deletions_iff {t : List Char} (ht : t ∈ [closePattern, openPattern, ampPattern])
    (cs : List Char) :
    t <:+: replaceAll ampPattern [] (replaceAll openPattern [] (replaceAll closePattern [] cs)) ↔
      ∃ w, Nested w t ∧ w <:+: cs := by
  have hclose : closePattern ∈ [closePattern, openPattern, ampPattern] := by simp
  have hopen : openPattern ∈ [closePattern, openPattern, ampPattern] := by simp
  have hamp : ampPattern ∈ [closePattern, openPattern, ampPattern] := by simp
  have hnil : t ≠ [] := by
    revert t
    decide
  have sturdy := sturdy_tokens
  -- what the later passes insert cannot overlap the target of an earlier one
  have hopenWeave : ∀ {u}, Weave ampPattern u t → Sturdy openPattern u := fun hu =>
    (sturdy _ hopen t ht).weave (sturdy _ hopen _ hamp) (by decide) hu
  have hcloseWeave : ∀ {u v}, Weave ampPattern u t → Weave openPattern v u → Sturdy closePattern v :=
    fun hu hv =>
      ((sturdy _ hclose t ht).weave (sturdy _ hclose _ hamp) (by decide) hu).weave
        (sturdy _ hclose _ hopen) (by decide) hv
  rw [infix_replaceAll_iff (by decide) (sturdy _ hamp _ hamp) (sturdy _ hamp t ht) hnil]
  constructor
  · rintro ⟨u, hu, hune, hin⟩
    rw [infix_replaceAll_iff (by decide) (sturdy _ hopen _ hopen) (hopenWeave hu)
      hu.left_ne_nil] at hin
    rcases hin with ⟨v, hv, hvne, hin⟩
    rw [infix_replaceAll_iff (by decide) (sturdy _ hclose _ hclose) (hcloseWeave hu hv)
      hv.left_ne_nil] at hin
    rcases hin with ⟨w, hw, hwne, hin⟩
    exact ⟨w, ⟨v, u, hu, hune, hv, hvne, hw, hwne⟩, hin⟩
  · rintro ⟨w, ⟨v, u, hu, hune, hv, hvne, hw, hwne⟩, hin⟩
    refine ⟨u, hu, hune, ?_⟩
    rw [infix_replaceAll_iff (by decide) (sturdy _ hopen _ hopen) (hopenWeave hu) hu.left_ne_nil]
    refine ⟨v, hv, hvne, ?_⟩
    rw [infix_replaceAll_iff (by decide) (sturdy _ hclose _ hclose) (hcloseWeave hu hv)
      hv.left_ne_nil]
    exact ⟨w, hw, hwne, hin⟩

/-- The last pass leaves no separator. -/
theorem bar_not_mem_stringChange (s : String) : '|' ∉ (stringChange s).toList := by
  rw [toList_stringChange, replaceAll_singleton, List.mem_flatMap]
  rintro ⟨c, _, hc⟩
  by_cases hbar : c = '|'
  · simp [hbar] at hc
  · simp [hbar, eq_comm] at hc

theorem clean_stringChange_iff (s : String) : Clean (stringChange s) ↔ ¬ HidesToken s := by
  have hbar : ¬ ['|'] <:+: (stringChange s).toList := fun h =>
    bar_not_mem_stringChange s (h.subset (by simp))
  -- the last pass neither makes nor breaks a tag
  have hlast : ∀ t ∈ [closePattern, openPattern, ampPattern],
      t <:+: (stringChange s).toList ↔ ∃ w, Nested w t ∧ w <:+: s.toList := by
    intro t ht
    have hletters : '|' ∉ t ∧ (∀ a ∈ [',', ' '], a ∉ t) ∧ t ≠ [] := by
      simp only [List.forall_mem_cons, List.not_mem_nil, false_implies, implies_true, and_true]
      revert t
      decide
    rw [toList_stringChange,
      infix_replaceAll_singleton_iff hletters.1 hletters.2.1 (by decide) hletters.2.2,
      infix_deletions_iff ht]
  constructor
  · rintro hclean ⟨t, ht, hw⟩
    have hleft := (hlast t ht).2 hw
    simp only [List.mem_cons, List.not_mem_nil, or_false] at ht
    rcases ht with rfl | rfl | rfl
    · exact hclean "</b>" (by decide) hleft
    · exact hclean "<b>" (by decide) hleft
    · exact hclean "&amp" (by decide) hleft
  · intro hno t ht hin
    simp only [strippedTokens, List.mem_cons, List.not_mem_nil, or_false] at ht
    rcases ht with rfl | rfl | rfl | rfl
    · exact hno ⟨closePattern, by decide, (hlast closePattern (by decide)).1 hin⟩
    · exact hno ⟨openPattern, by decide, (hlast openPattern (by decide)).1 hin⟩
    · exact hno ⟨ampPattern, by decide, (hlast ampPattern (by decide)).1 hin⟩
    · exact hbar hin

/-! ## Cleaning twice -/

/-- The texts that `stringChange` leaves alone are the clean ones. -/
theorem stringChange_eq_self_iff (s : String) : stringChange s = s ↔ Clean s := by
  have hclean : Clean s ↔ ¬ closePattern <:+: s.toList ∧ ¬ openPattern <:+: s.toList ∧
      ¬ ampPattern <:+: s.toList ∧ ¬ ['|'] <:+: s.toList := by
    simp only [Clean, strippedTokens, List.forall_mem_cons, List.not_mem_nil, false_implies,
      implies_true, and_true]
    rfl
  rw [hclean, ← String.toList_inj, toList_stringChange]
  constructor
  · intro h
    have hbar : ¬ ['|'] <:+: s.toList := fun hin =>
      bar_not_mem_stringChange s (by rw [toList_stringChange, h]; exact hin.subset (by simp))
    have hclose := replaceAll_nil_sublist (p := closePattern) (by decide)
    have hopen := replaceAll_nil_sublist (p := openPattern) (by decide)
    have hamp := replaceAll_nil_sublist (p := ampPattern) (by decide)
    have hlast : ¬ ['|'] <:+: replaceAll ampPattern []
        (replaceAll openPattern [] (replaceAll closePattern [] s.toList)) := by
      rw [List.singleton_infix_iff]
      intro hmem
      have hin := (((hamp _).trans (hopen _)).trans (hclose _)).subset hmem
      exact hbar ((List.singleton_infix_iff _ _).2 hin)
    rw [replaceAll_eq_self hlast] at h
    -- every deletion returns a sublist of what it is given, so none of them drops anything
    rcases eq_self_of_sublist (fun xs => (hamp _).trans (hopen xs)) hclose h with ⟨h₁, h₂⟩
    rcases eq_self_of_sublist hamp hopen h₂ with ⟨h₃, h₄⟩
    exact ⟨(replaceAll_nil_eq_self_iff (by decide) _).1 h₁,
      (replaceAll_nil_eq_self_iff (by decide) _).1 h₃,
      (replaceAll_nil_eq_self_iff (by decide) _).1 h₄, hbar⟩
  · rintro ⟨hclose, hopen, hamp, hbar⟩
    rw [replaceAll_eq_self hclose, replaceAll_eq_self hopen, replaceAll_eq_self hamp,
      replaceAll_eq_self hbar]

/-- Exactly the texts that hide no token are cleaned for good: no token is left, and cleaning the
result once more gives the same text. -/
theorem stringChange_clean_iff (s : String) :
    (Clean (stringChange s) ↔ ¬ HidesToken s) ∧
      (stringChange (stringChange s) = stringChange s ↔ ¬ HidesToken s) :=
  ⟨clean_stringChange_iff s, (stringChange_eq_self_iff _).trans (clean_stringChange_iff s)⟩

/-- The deletion of the inner `<b>` leaves the outer one. -/
theorem not_clean_nested_tag :
    ¬ Clean (stringChange "<<b>b>") ∧
      stringChange (stringChange "<<b>b>") ≠ stringChange "<<b>b>" := by
  decide

/-- A text written in tokens hides none. -/
theorem not_hidesToken_markup (tokens : List Token) : ¬ HidesToken (Token.markup tokens) := by
  have hfree : ∀ c ∈ (stringChange (Token.markup tokens)).toList, c ≠ '<' ∧ c ≠ '&' ∧ c ≠ '|' := by
    intro c hc
    rw [Token.toList_stringChange_markup, List.mem_flatMap] at hc
    rcases hc with ⟨token, _, hc⟩
    cases token with
    | plain d =>
        have hcd : c = d.1 := List.mem_singleton.1 hc
        exact hcd ▸ d.2
    | openTag =>
        cases hc
    | closeTag =>
        cases hc
    | separator =>
        have hshown : c = ',' ∨ c = ' ' := by
          simpa [Token.shown] using hc
        rcases hshown with rfl | rfl
        · decide
        · decide
  rw [← clean_stringChange_iff]
  intro t ht hin
  -- every target has a letter that is not left
  have hletter : ∀ t ∈ strippedTokens, '<' ∈ t.toList ∨ '&' ∈ t.toList ∨ '|' ∈ t.toList := by
    decide
  rcases hletter t ht with hmem | hmem | hmem
  · exact (hfree _ (hin.subset hmem)).1 rfl
  · exact (hfree _ (hin.subset hmem)).2.1 rfl
  · exact (hfree _ (hin.subset hmem)).2.2 rfl

end MoviePlayList
