import Mathlib.Data.List.Basic
import Mathlib.Data.List.Infix

/-!
# Separated — lists split at a separator, empty pieces skipped

`segments sep cs` splits `cs` at every `sep` and drops the empty pieces.  On lists without two
separators in a row only the two ends can give an empty piece, so the segments are those of the
list with at most one separator taken off at each end (`trim`), and the two determine each other.
-/

namespace Separated

universe u

section Doubled

variable {α : Type u}

/-- Two separators in a row occur somewhere. -/
def Doubled (sep : α) (cs : List α) : Prop := [sep, sep] <:+: cs

theorem Doubled.mono {sep : α} {cs ds : List α} (h : cs <:+: ds) (hd : Doubled sep cs) :
    Doubled sep ds :=
  List.IsInfix.trans hd h

theorem doubled_reverse {sep : α} {cs : List α} : Doubled sep cs.reverse ↔ Doubled sep cs := by
  have h : [sep, sep].reverse = [sep, sep] := rfl
  rw [Doubled, ← h, List.reverse_infix, Doubled]

end Doubled

variable {α : Type u} [DecidableEq α] (sep : α)

/-- The non-empty pieces between separators. -/
def segments (cs : List α) : List (List α) :=
  (cs.splitOn sep).filter (fun piece => piece ≠ [])

instance (cs : List α) : Decidable (Doubled sep cs) := by
  unfold Doubled
  infer_instance

/-- Take off one separator in front, if there is one. -/
def trimStart : List α → List α
  | [] => []
  | c :: cs => if c = sep then cs else c :: cs

/-- Take off one separator at the end, if there is one. -/
def trimEnd (cs : List α) : List α := (trimStart sep cs.reverse).reverse

/-- Take off at most one separator at each end. -/
def trim (cs : List α) : List α := trimEnd sep (trimStart sep cs)

variable {sep}

/-! ## Splitting and the two ends -/

@[simp] theorem segments_nil : segments sep ([] : List α) = [] := by
  simp [segments]

theorem segments_cons_sep (cs : List α) : segments sep (sep :: cs) = segments sep cs := by
  have h := (List.splitOn_append_cons_self [] cs : ([] ++ sep :: cs).splitOn sep = _)
  simp only [List.nil_append, List.splitOn_nil] at h
  simp [segments, h]

theorem segments_concat_sep (cs : List α) : segments sep (cs ++ [sep]) = segments sep cs := by
  have h := (List.splitOn_append_cons_self cs [] : (cs ++ sep :: []).splitOn sep = _)
  simp only [List.splitOn_nil] at h
  simp [segments, h]

theorem trimStart_eq_or (sep : α) (cs : List α) :
    trimStart sep cs = cs ∨ cs = sep :: trimStart sep cs := by
  cases cs with
  | nil =>
      exact Or.inl rfl
  | cons c cs =>
      by_cases hc : c = sep
      · right
        simp [trimStart, hc]
      · left
        simp [trimStart, hc]

theorem trimEnd_eq_or (sep : α) (cs : List α) :
    trimEnd sep cs = cs ∨ cs = trimEnd sep cs ++ [sep] := by
  rcases trimStart_eq_or sep cs.reverse with h | h
  · left
    simp [trimEnd, h]
  · right
    have h' := congrArg List.reverse h
    simpa [trimEnd] using h'

theorem segments_trim (cs : List α) : segments sep (trim sep cs) = segments sep cs := by
  have hstart : segments sep (trimStart sep cs) = segments sep cs := by
    rcases trimStart_eq_or sep cs with h | h
    · rw [h]
    · conv_rhs => rw [h, segments_cons_sep]
  have hend : ∀ ds : List α, segments sep (trimEnd sep ds) = segments sep ds := by
    intro ds
    rcases trimEnd_eq_or sep ds with h | h
    · rw [h]
    · conv_rhs => rw [h, segments_concat_sep]
  rw [trim, hend, hstart]

/-! ## Trimmed lists without doubled separators -/

theorem isInfix_trim (cs : List α) : trim sep cs <:+: cs := by
  have hstart : trimStart sep cs <:+: cs := by
    rcases trimStart_eq_or sep cs with h | h
    · rw [h]
    · exact ⟨[sep], [], by simpa using h.symm⟩
  have hend : trimEnd sep (trimStart sep cs) <:+: trimStart sep cs := by
    rcases trimEnd_eq_or sep (trimStart sep cs) with h | h
    · rw [h]
    · exact ⟨[], [sep], by simpa using h.symm⟩
  exact hend.trans hstart

theorem head?_trimStart {cs : List α} (h : ¬ Doubled sep cs) :
    (trimStart sep cs).head? ≠ some sep := by
  cases cs with
  | nil =>
      simp [trimStart]
  | cons c cs =>
      by_cases hc : c = sep
      · subst hc
        simp only [trimStart, if_true]
        intro hhead
        rcases List.head?_eq_some_iff.1 hhead with ⟨tl, rfl⟩
        exact h ⟨[], tl, by simp⟩
      · simp [trimStart, hc]

theorem getLast?_trimEnd {cs : List α} (h : ¬ Doubled sep cs) :
    (trimEnd sep cs).getLast? ≠ some sep := by
  rw [trimEnd, List.getLast?_reverse]
  exact head?_trimStart (fun hd => h (doubled_reverse.1 hd))

theorem head?_trimEnd {cs : List α} (h : cs.head? ≠ some sep) :
    (trimEnd sep cs).head? ≠ some sep := by
  rcases trimEnd_eq_or sep cs with he | he
  · rwa [he]
  · intro hhead
    rw [he] at h
    exact h (by simp [List.head?_append, hhead])

/-- No piece is empty when nothing but single inner separators is left.  The induction is on the
list; the first piece is the one the head of the list goes to, so it is kept apart. -/
theorem splitOn_pieces_ne_nil :
    ∀ {cs : List α}, cs ≠ [] → ¬ Doubled sep cs → cs.getLast? ≠ some sep →
      (∀ p ∈ (cs.splitOn sep).tail, p ≠ []) ∧
        (cs.head? ≠ some sep → ∀ p ∈ cs.splitOn sep, p ≠ [])
  | [], hne, _, _ => absurd rfl hne
  | [c], _, _, hlast => by
      have hc : c ≠ sep := by simpa using hlast
      have hsplit : [c].splitOn sep = [[c]] :=
        List.splitOn_eq_singleton (by simpa using hc.symm)
      simp [hsplit]
  | c :: d :: cs, _, hdbl, hlast => by
      have hdbl' : ¬ Doubled sep (d :: cs) := fun hd =>
        hdbl (hd.mono ⟨[c], [], by simp⟩)
      have ih := splitOn_pieces_ne_nil (List.cons_ne_nil d cs) hdbl' (by simpa using hlast)
      rw [List.splitOn_cons_eq_if_modifyHead]
      by_cases hc : c = sep
      · have hd : d ≠ sep := fun hd => hdbl ⟨[], cs, by simp [hc, hd]⟩
        have hall := ih.2 (by simpa using hd)
        simp only [hc, beq_self_eq_true, if_true, List.tail_cons]
        exact ⟨hall, fun hhead => absurd rfl hhead⟩
      · rcases List.exists_cons_of_ne_nil (List.splitOn_ne_nil sep (d :: cs)) with ⟨r, rs, hr⟩
        have htail : ∀ p ∈ rs, p ≠ [] := by
          simpa [hr] using ih.1
        simp only [beq_iff_eq, hc, if_false, hr, List.modifyHead_cons, List.tail_cons]
        refine ⟨htail, fun _ p hp => ?_⟩
        rcases List.mem_cons.1 hp with rfl | hp
        · simp
        · exact htail p hp

/-- Without doubled separators, the segments are the pieces of the trimmed list. -/
theorem segments_eq_splitOn_trim {cs : List α} (h : ¬ Doubled sep cs) (hne : trim sep cs ≠ []) :
    segments sep cs = (trim sep cs).splitOn sep := by
  have hstart : ¬ Doubled sep (trimStart sep cs) := by
    rcases trimStart_eq_or sep cs with he | he
    · rwa [he]
    · intro hd
      exact h (hd.mono ⟨[sep], [], by simpa using he.symm⟩)
  have hpieces := splitOn_pieces_ne_nil hne (fun hd => h (hd.mono (isInfix_trim cs)))
    (getLast?_trimEnd hstart)
  have hall := hpieces.2 (head?_trimEnd (head?_trimStart h))
  rw [← segments_trim cs, segments]
  exact List.filter_eq_self.2 (fun p hp => by simpa using hall p hp)

theorem segments_eq_nil {cs : List α} (h : trim sep cs = []) : segments sep cs = [] := by
  rw [← segments_trim cs, h, segments_nil]

/-! ## What the segments say about the list -/

theorem length_splitOn (cs : List α) : (cs.splitOn sep).length = cs.count sep + 1 := by
  induction cs with
  | nil =>
      simp
  | cons c cs ih =>
      rw [List.splitOn_cons_eq_if_modifyHead]
      by_cases hc : c = sep
      · simp [hc, ih]
      · simp [hc, ih]

/-- The number of segments is one more than the number of inner separators. -/
theorem length_segments {cs : List α} (h : ¬ Doubled sep cs) (hne : trim sep cs ≠ []) :
    (segments sep cs).length = (trim sep cs).count sep + 1 := by
  rw [segments_eq_splitOn_trim h hne, length_splitOn]

/-- Joining the segments gives the trimmed list back. -/
theorem intercalate_segments {cs : List α} (h : ¬ Doubled sep cs) :
    [sep].intercalate (segments sep cs) = trim sep cs := by
  by_cases hne : trim sep cs = []
  · simp [segments_eq_nil hne, hne, List.intercalate]
  · rw [segments_eq_splitOn_trim h hne, List.intercalate_splitOn]

/-- Two lists without doubled separators have the same segments exactly when they differ only in
a separator at either end. -/
theorem segments_eq_iff {cs ds : List α} (hc : ¬ Doubled sep cs) (hd : ¬ Doubled sep ds) :
    segments sep cs = segments sep ds ↔ trim sep cs = trim sep ds := by
  constructor
  · intro h
    rw [← intercalate_segments hc, ← intercalate_segments hd, h]
  · intro h
    rw [← segments_trim cs, ← segments_trim ds, h]

/-- A list without separators is its own single segment. -/
theorem segments_of_not_mem {cs : List α} (hne : cs ≠ []) (hmem : sep ∉ cs) :
    segments sep cs = [cs] := by
  simp [segments, List.splitOn_eq_singleton hmem, hne]

end Separated
