import Mathlib.Logic.Basic

/-!
# Transition — runs of a guarded, labelled step function

A system is given by a step function `step : S → E → Option S`: `none` means that the event is
not possible in that state.  Outcomes that the system does not choose (an answer, a failure, the
order of two callbacks) are part of the event, so that a list of events fixes a run.

* `run` plays a list of events;
* `Along` says that a predicate holds in every state the run passes through;
* `EachStep` says that a condition holds whenever a step of the run is taken;
* `run_invariant`, `run_history`, `run_preserves`, `run_iff_not_mem`, `along_of_invariant`,
  `Along.run_invariant`, `eachStep_of_invariant` and `along_iff_eachStep` are the induction rules.
-/

namespace Transition

universe u v

variable {S : Type u} {E : Type v} {step : S → E → Option S}

/-- Play the events in order. -/
def run (step : S → E → Option S) : S → List E → Option S
  | s, [] => some s
  | s, e :: es => (step s e).bind fun s' => run step s' es

/-- `P` holds in every state the run passes through, the first and the last included. -/
def Along (step : S → E → Option S) (P : S → Prop) : S → List E → Prop
  | s, [] => P s
  | s, e :: es => P s ∧ ∀ s', step s e = some s' → Along step P s' es

/-- `C` holds of every step the run takes, in the state the step is taken from. -/
def EachStep (step : S → E → Option S) (C : S → E → Prop) : S → List E → Prop
  | _, [] => True
  | s, e :: es => ∀ s', step s e = some s' → C s e ∧ EachStep step C s' es

/-- Whether a predicate holds all along can be found out by playing the events. -/
instance Along.decidable {P : S → Prop} [DecidablePred P] :
    (s : S) → (es : List E) → Decidable (Along step P s es)
  | s, [] => inferInstanceAs (Decidable (P s))
  | s, e :: es =>
      match h : step s e with
      | none => decidable_of_iff (P s) ⟨fun hs => ⟨hs, fun _ h' => nomatch h.symm.trans h'⟩, And.left⟩
      | some next =>
          have := Along.decidable (P := P) next es
          decidable_of_iff (P s ∧ Along step P next es)
            ⟨fun hs => ⟨hs.1, fun _ h' => Option.some.inj (h.symm.trans h') ▸ hs.2⟩,
              fun hs => ⟨hs.1, hs.2 next h⟩⟩

/-! ## Playing events -/

theorem run_cons {s t : S} {e : E} {es : List E} :
    run step s (e :: es) = some t ↔ ∃ s', step s e = some s' ∧ run step s' es = some t := by
  simp [run, Option.bind_eq_some_iff]

theorem run_append {s t : S} {es fs : List E} :
    run step s (es ++ fs) = some t ↔ ∃ m, run step s es = some m ∧ run step m fs = some t := by
  induction es generalizing s with
  | nil =>
      simp [run]
  | cons e es ih =>
      simp only [List.cons_append, run_cons, ih]
      constructor
      · rintro ⟨s', he, m, hes, hfs⟩
        exact ⟨m, ⟨s', he, hes⟩, hfs⟩
      · rintro ⟨m, ⟨s', he, hes⟩, hfs⟩
        exact ⟨s', he, m, hes, hfs⟩

/-! ## Induction rules -/

/-- What every step preserves holds at the end of every run. -/
theorem run_invariant {I : S → Prop}
    (hstep : ∀ {s e s'}, I s → step s e = some s' → I s')
    {s t : S} {es : List E} (hs : I s) (h : run step s es = some t) : I t := by
  induction es generalizing s with
  | nil =>
      cases h
      exact hs
  | cons e es ih =>
      rcases run_cons.1 h with ⟨s', he, ht⟩
      exact ih (hstep hs he) ht

/-- An invariant that may also speak about the events played so far (a history). -/
theorem run_history {I : List E → S → Prop}
    (hstep : ∀ {es s e s'}, I es s → step s e = some s' → I (es ++ [e]) s')
    {s t : S} {es : List E} (hs : I [] s) (h : run step s es = some t) : I es t := by
  suffices ∀ (fs : List E) {past : List E} {s : S},
      I past s → run step s fs = some t → I (past ++ fs) t by
    simpa using this es hs h
  intro fs
  induction fs with
  | nil =>
      intro past s hp hr
      cases hr
      simpa using hp
  | cons e fs ih =>
      intro past s hp hr
      rcases run_cons.1 hr with ⟨s', he, ht⟩
      simpa using ih (hstep hp he) ht

/-- What every step of a kind leaves alone, a run of such steps leaves alone. -/
theorem run_preserves {α : Type*} {f : S → α} {C : E → Prop}
    (hstep : ∀ {s e s'}, C e → step s e = some s' → f s' = f s)
    {s t : S} {es : List E} (hes : ∀ e ∈ es, C e) (h : run step s es = some t) : f t = f s := by
  induction es generalizing s with
  | nil =>
      cases h
      rfl
  | cons e es ih =>
      rcases run_cons.1 h with ⟨s', he, ht⟩
      rcases List.forall_mem_cons.1 hes with ⟨hc, hrest⟩
      exact (ih hrest ht).trans (hstep hc he)

/-- A property that steps of a kind keep, except that one event takes it away for good, holds after
a run of such steps exactly when it held before and the event is not in the run. -/
theorem run_iff_not_mem {I Q : S → Prop} {C : E → Prop} {a : E}
    (hstep : ∀ {s e s'}, I s → C e → step s e = some s' → I s' ∧ (Q s' ↔ Q s ∧ e ≠ a))
    {s t : S} {es : List E} (hs : I s) (hes : ∀ e ∈ es, C e) (h : run step s es = some t) :
    Q t ↔ Q s ∧ a ∉ es := by
  induction es generalizing s with
  | nil =>
      cases h
      exact (and_iff_left List.not_mem_nil).symm
  | cons e es ih =>
      rcases run_cons.1 h with ⟨s', he, ht⟩
      rcases List.forall_mem_cons.1 hes with ⟨hc, hrest⟩
      rcases hstep hs hc he with ⟨hs', hone⟩
      calc Q t
          ↔ Q s' ∧ a ∉ es := ih hs' hrest ht
        _ ↔ (Q s ∧ e ≠ a) ∧ a ∉ es := by rw [hone]
        _ ↔ Q s ∧ a ∉ e :: es := by rw [List.mem_cons, not_or, and_assoc, ne_comm]

theorem Along.head {P : S → Prop} {s : S} {es : List E} (h : Along step P s es) : P s := by
  cases es with
  | nil =>
      exact h
  | cons e es =>
      exact h.1

/-- The last state of a run is one of the states it passes through. -/
theorem Along.last {P : S → Prop} {s t : S} {es : List E}
    (h : Along step P s es) (hr : run step s es = some t) : P t := by
  induction es generalizing s with
  | nil =>
      cases hr
      exact h
  | cons e es ih =>
      rcases run_cons.1 hr with ⟨s', he, ht⟩
      exact ih (h.2 s' he) ht

/-- A condition on the steps that carries an invariant makes the invariant hold all along, and
makes whatever the two give about a step hold of each step. -/
theorem eachStep_of_invariant {I : S → Prop} {C D : S → E → Prop}
    (hstep : ∀ {s e s'}, I s → C s e → step s e = some s' → D s e ∧ I s')
    {s : S} {es : List E} (hs : I s) (h : EachStep step C s es) :
    Along step I s es ∧ EachStep step D s es := by
  induction es generalizing s with
  | nil =>
      exact ⟨hs, trivial⟩
  | cons e es ih =>
      refine ⟨⟨hs, ?_⟩, ?_⟩
      · intro s' he
        rcases h s' he with ⟨hc, hrest⟩
        exact (ih (hstep hs hc he).2 hrest).1
      · intro s' he
        rcases h s' he with ⟨hc, hrest⟩
        rcases hstep hs hc he with ⟨hd, hs'⟩
        exact ⟨hd, (ih hs' hrest).2⟩

/-- An invariant holds all along, and whatever it gives about a step holds of each step. -/
theorem along_of_invariant {I : S → Prop} {D : S → E → Prop}
    (hstep : ∀ {s e s'}, I s → step s e = some s' → D s e ∧ I s')
    {s : S} {es : List E} (hs : I s) : Along step I s es ∧ EachStep step D s es := by
  have hall : EachStep step (fun _ _ => True) s es := by
    clear hs
    induction es generalizing s with
    | nil =>
        exact trivial
    | cons e es ih =>
        exact fun s' _ => ⟨trivial, ih⟩
  exact eachStep_of_invariant (fun hi _ he => hstep hi he) hs hall

theorem Along.mono {P Q : S → Prop} (hPQ : ∀ {s}, P s → Q s)
    {s : S} {es : List E} (h : Along step P s es) : Along step Q s es := by
  induction es generalizing s with
  | nil =>
      exact hPQ h
  | cons e es ih =>
      exact ⟨hPQ h.1, fun s' he => ih (h.2 s' he)⟩

theorem Along.and {P Q : S → Prop} {s : S} {es : List E}
    (hP : Along step P s es) (hQ : Along step Q s es) :
    Along step (fun s => P s ∧ Q s) s es := by
  induction es generalizing s with
  | nil =>
      exact ⟨hP, hQ⟩
  | cons e es ih =>
      exact ⟨⟨hP.1, hQ.1⟩, fun s' he => ih (hP.2 s' he) (hQ.2 s' he)⟩

/-- What a step preserves when it leads to a state where `P` holds, a run through such states
preserves. -/
theorem Along.run_invariant {I P : S → Prop}
    (hstep : ∀ {s e s'}, I s → P s' → step s e = some s' → I s')
    {s t : S} {es : List E} (hs : I s) (h : Along step P s es) (hr : run step s es = some t) :
    I t := by
  induction es generalizing s with
  | nil =>
      cases hr
      exact hs
  | cons e es ih =>
      rcases run_cons.1 hr with ⟨s', he, ht⟩
      exact ih (hstep hs (h.2 s' he).head he) (h.2 s' he) ht

/-- What the states of a run say about the steps taken from them. -/
theorem Along.eachStep {P : S → Prop} {D : S → E → Prop}
    (hD : ∀ {s e s'}, P s → step s e = some s' → D s e)
    {s : S} {es : List E} (h : Along step P s es) : EachStep step D s es := by
  induction es generalizing s with
  | nil =>
      exact trivial
  | cons e es ih =>
      exact fun s' he => ⟨hD h.1 he, ih (h.2 s' he)⟩

/-- Under an invariant, two conditions that agree on every step hold of the same runs. -/
theorem eachStep_iff_of_invariant {I : S → Prop} {C D : S → E → Prop}
    (hstep : ∀ {s e s'}, I s → step s e = some s' → (D s e ↔ C s e) ∧ I s')
    {s : S} {es : List E} (hs : I s) : EachStep step D s es ↔ EachStep step C s es := by
  constructor
  · intro h
    exact (eachStep_of_invariant
      (fun hi hd he => ⟨(hstep hi he).1.1 hd, (hstep hi he).2⟩) hs h).2
  · intro h
    exact (eachStep_of_invariant
      (fun hi hc he => ⟨(hstep hi he).1.2 hc, (hstep hi he).2⟩) hs h).2

/-- The rule for an exact condition: `J` is an auxiliary invariant of the good states, and from a
good state a step leads to a good state if and only if it meets `C`. -/
theorem along_iff_eachStep {P J : S → Prop} {C : S → E → Prop}
    (hJ : ∀ {s e s'}, J s → P s → P s' → step s e = some s' → J s')
    (hC : ∀ {s e s'}, J s → P s → step s e = some s' → (P s' ↔ C s e))
    {s : S} {es : List E} (hj : J s) (hp : P s) :
    Along step P s es ↔ EachStep step C s es := by
  induction es generalizing s with
  | nil =>
      exact ⟨fun _ => trivial, fun _ => hp⟩
  | cons e es ih =>
      constructor
      · rintro ⟨_, h⟩ s' he
        have hp' : P s' := (h s' he).head
        exact ⟨(hC hj hp he).1 hp', (ih (hJ hj hp hp' he) hp').1 (h s' he)⟩
      · intro h
        refine ⟨hp, fun s' he => ?_⟩
        have hp' : P s' := (hC hj hp he).2 (h s' he).1
        exact (ih (hJ hj hp hp' he) hp').2 (h s' he).2

end Transition
