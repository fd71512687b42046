import Mathlib.Data.List.Basic

namespace Runs
set_option autoImplicit true

/-- The state reached by a list of events; `none` when one of them is not enabled. -/
def run (step : σ → ε → Option σ) : σ → List ε → Option σ
  | s, [] => some s
  | s, e :: es => (step s e).bind (run step · es)

/-- Every step taken on the way satisfies `Q`, a property of the two states and the event. -/
def Each (step : σ → ε → Option σ) (Q : σ → ε → σ → Prop) : σ → List ε → Prop
  | _, [] => True
  | s, e :: es => ∀ s', step s e = some s' → Q s e s' ∧ Each step Q s' es

/-- `P` holds in the first state and in every state reached. -/
def Always (step : σ → ε → Option σ) (P : σ → Prop) (s : σ) (es : List ε) : Prop :=
  P s ∧ Each step (fun _ _ s' => P s') s es

/-- Every event is taken in a state that allows it. -/
def Along (step : σ → ε → Option σ) (C : σ → ε → Prop) (s : σ) (es : List ε) : Prop :=
  Each step (fun s e _ => C s e) s es

/-- A system that also remembers the events taken so far. -/
def withHistory (step : σ → ε → Option σ) (s : σ × List ε) (e : ε) : Option (σ × List ε) :=
  (step s.1 e).map fun s' => (s', s.2 ++ [e])

/-- The last value that an event of a history gives. -/
def latest (f : ε → Option α) (hist : List ε) : Option α := hist.reverse.findSome? f

instance Each.decide (step : σ → ε → Option σ) (Q : σ → ε → σ → Prop)
    [∀ s e s', Decidable (Q s e s')] : ∀ s es, Decidable (Each step Q s es)
  | _, [] => isTrue trivial
  | s, e :: es =>
    match h : step s e with
    | none => isTrue fun s' hs => by rw [h] at hs; cases hs
    | some t =>
      have := Each.decide step Q t es
      decidable_of_iff (Q s e t ∧ Each step Q t es) (by simp [Each, h])

instance (step : σ → ε → Option σ) (P : σ → Prop) [DecidablePred P] (s : σ) (es : List ε) :
    Decidable (Always step P s es) :=
  inferInstanceAs (Decidable (P s ∧ Each step (fun _ _ s' => P s') s es))

instance (step : σ → ε → Option σ) (C : σ → ε → Prop) [∀ s e, Decidable (C s e)] (s : σ)
    (es : List ε) : Decidable (Along step C s es) :=
  inferInstanceAs (Decidable (Each step (fun s e _ => C s e) s es))

@[simp] theorem run_nil (step : σ → ε → Option σ) (s : σ) : run step s [] = some s := rfl

@[simp] theorem run_cons (step : σ → ε → Option σ) (s : σ) (e : ε) (es : List ε) :
    run step s (e :: es) = (step s e).bind (run step · es) := rfl

theorem run_append (step : σ → ε → Option σ) (s : σ) (es fs : List ε) :
    run step s (es ++ fs) = (run step s es).bind (run step · fs) := by
  induction es generalizing s with
  | nil => rfl
  | cons e es ih =>
    rw [List.cons_append, run_cons, run_cons, Option.bind_assoc]
    exact Option.bind_congr fun t _ => ih t

/-- A system that takes every event runs through every list. -/
theorem run_total {step : σ → ε → Option σ} (h : ∀ s e, (step s e).isSome) (s : σ) (es : List ε) :
    (run step s es).isSome := by
  induction es generalizing s with
  | nil => rfl
  | cons e es ih =>
    obtain ⟨t, ht⟩ := Option.isSome_iff_exists.1 (h s e)
    rw [run_cons, ht]
    exact ih t

/-- What every event of a list keeps, the list keeps. -/
theorem run_keeps (I : σ → Prop) (hI : I s)
    (hstep : ∀ s e s', e ∈ es → I s → step s e = some s' → I s') (h : run step s es = some s') :
    I s' := by
  induction es generalizing s with
  | nil =>
    cases h
    exact hI
  | cons e es ih =>
    obtain ⟨t, ht, hr⟩ := Option.bind_eq_some_iff.1 h
    refine ih (hstep s e t List.mem_cons_self hI ht) ?_ hr
    exact fun s f s' hf => hstep s f s' (List.mem_cons_of_mem e hf)

/-- Where each step is a run of another system, so is each run. -/
theorem run_simulates {step : σ → ε → Option σ} {step' : τ → ζ → Option τ} (f : σ → τ)
    (hstep : ∀ s e s', step s e = some s' → ∃ fs, run step' (f s) fs = some (f s'))
    (h : run step s es = some s') : ∃ fs, run step' (f s) fs = some (f s') := by
  induction es generalizing s with
  | nil =>
    cases h
    exact ⟨[], rfl⟩
  | cons e es ih =>
    obtain ⟨t, ht, hr⟩ := Option.bind_eq_some_iff.1 h
    obtain ⟨fs, hfs⟩ := hstep s e t ht
    obtain ⟨gs, hgs⟩ := ih hr
    exact ⟨fs ++ gs, by rw [run_append, hfs, Option.bind_some, hgs]⟩

@[simp] theorem latest_nil (f : ε → Option α) : latest f [] = none := rfl

@[simp] theorem latest_append (f : ε → Option α) (hist : List ε) (e : ε) :
    latest f (hist ++ [e]) = (f e).or (latest f hist) := by
  cases h : f e <;> simp [latest, h]

theorem withHistory_some {s : σ × List ε} {s' : σ × List ε}
    (h : withHistory step s e = some s') :
    step s.1 e = some s'.1 ∧ s'.2 = s.2 ++ [e] := by
  obtain ⟨t, ht, rfl⟩ := Option.map_eq_some_iff.1 h
  exact ⟨ht, rfl⟩

/-- The history of a run is the list of its events. -/
theorem run_withHistory {step : σ → ε → Option σ} (h : run step s es = some s')
    (hist : List ε) :
    run (withHistory step) (s, hist) es = some (s', hist ++ es) := by
  induction es generalizing s hist with
  | nil =>
    cases h
    rw [List.append_nil, run_nil]
  | cons e es ih =>
    obtain ⟨t, ht, hr⟩ := Option.bind_eq_some_iff.1 h
    have hw : withHistory step (s, hist) e = some (t, hist ++ [e]) := by
      simp only [withHistory, ht, Option.map_some]
    rw [run_cons, hw, Option.bind_some, ih hr, List.append_assoc, List.singleton_append]

theorem Each.head (h : Each step Q s (e :: es)) (hs : step s e = some s') : Q s e s' :=
  (h s' hs).1

theorem Each.tail (h : Each step Q s (e :: es)) (hs : step s e = some s') :
    Each step Q s' es :=
  (h s' hs).2

/-- The property of a step in the middle of a run. -/
theorem Each.middle (h : Each step Q s (es ++ e :: fs)) (hr : run step s es = some t)
    (hs : step t e = some u) : Q t e u := by
  induction es generalizing s with
  | nil =>
    cases hr
    exact h.head hs
  | cons f es ih =>
    obtain ⟨s', hs', hr⟩ := Option.bind_eq_some_iff.1 hr
    exact ih (h.tail hs') hr

theorem Each.left (h : Each step Q s (es ++ fs)) : Each step Q s es := by
  induction es generalizing s with
  | nil => trivial
  | cons e es ih =>
    intro s' hs
    exact ⟨h.head hs, ih (h.tail hs)⟩

theorem each_of_forall (step : σ → ε → Option σ) (hQ : ∀ s e s', Q s e s') (s : σ)
    (es : List ε) : Each step Q s es := by
  induction es generalizing s with
  | nil => trivial
  | cons e es ih => exact fun s' _ => ⟨hQ s e s', ih s'⟩

/-- Where each allowed step is a run of another system under a relation of the states, so is each
run. `own` gives the events of the other system that an event stands for. -/
theorem run_simulated_along {step : σ → ε → Option σ} {step' : τ → ζ → Option τ}
    (R : σ → τ → Prop) (own : ε → List ζ)
    (hstep : ∀ s t e s', R s t → C s e → step s e = some s' →
      ∃ t', run step' t (own e) = some t' ∧ R s' t')
    (hR : R s t) (hC : Along step C s es) (h : run step s es = some s') :
    ∃ t', run step' t (es.flatMap own) = some t' ∧ R s' t' := by
  induction es generalizing s t with
  | nil =>
    cases h
    exact ⟨t, rfl, hR⟩
  | cons e es ih =>
    obtain ⟨u, hu, hr⟩ := Option.bind_eq_some_iff.1 h
    obtain ⟨v, hv, hR'⟩ := hstep s t e u hR (hC.head hu) hu
    obtain ⟨t', ht', hlast⟩ := ih hR' (hC.tail hu) hr
    exact ⟨t', by rw [List.flatMap_cons, run_append, hv, Option.bind_some, ht'], hlast⟩

/-- Without a condition on the steps. -/
theorem run_simulated {step : σ → ε → Option σ} {step' : τ → ζ → Option τ} (R : σ → τ → Prop)
    (own : ε → List ζ)
    (hstep : ∀ s t e s', R s t → step s e = some s' →
      ∃ t', run step' t (own e) = some t' ∧ R s' t')
    (hR : R s t) (h : run step s es = some s') :
    ∃ t', run step' t (es.flatMap own) = some t' ∧ R s' t' :=
  run_simulated_along (C := fun _ _ => True) R own (fun s t e s' hR _ => hstep s t e s' hR) hR
    (each_of_forall step (fun _ _ _ => trivial) s es) h

/-- From steps that keep an invariant: what each step is allowed to do gives what it does. -/
theorem Each.of_invariant (I : σ → Prop)
    (hstep : ∀ s e s', I s → step s e = some s' → C s e s' → Q s e s' ∧ I s')
    (hI : I s) (h : Each step C s es) : Each step Q s es := by
  induction es generalizing s with
  | nil => trivial
  | cons e es ih =>
    intro s' hs
    obtain ⟨hQ, hI'⟩ := hstep s e s' hI hs (h.head hs)
    exact ⟨hQ, ih hI' (h.tail hs)⟩

/-- Without a condition on the steps. -/
theorem each_of_invariant {step : σ → ε → Option σ} (I : σ → Prop)
    (hstep : ∀ s e s', I s → step s e = some s' → Q s e s' ∧ I s') (hI : I s) (es : List ε) :
    Each step Q s es := by
  apply Each.of_invariant (C := fun _ _ _ => True) I ?_ hI
  · exact each_of_forall step (fun _ _ _ => trivial) s es
  · exact fun s e s' h hs _ => hstep s e s' h hs

/-- Where a step outside `C` always breaks `Q`, a run satisfies `Q` exactly when it keeps to `C`. -/
theorem each_iff (I : σ → Prop)
    (hgood : ∀ s e s', I s → step s e = some s' → C s e s' → Q s e s' ∧ I s')
    (hbad : ∀ s e s', I s → step s e = some s' → Q s e s' → C s e s')
    (hI : I s) : Each step Q s es ↔ Each step C s es := by
  refine ⟨?_, Each.of_invariant I hgood hI⟩
  intro h
  apply Each.of_invariant I ?_ hI h
  intro s e s' hs hstep hQ
  have hC := hbad s e s' hs hstep hQ
  exact ⟨hC, (hgood s e s' hs hstep hC).2⟩

theorem Always.first (h : Always step P s es) : P s := h.1

/-- The property holds at the end of every prefix of the run. -/
theorem Always.last (h : Always step P s es) (hr : run step s fs = some s')
    (hp : fs <+: es) : P s' := by
  induction fs generalizing s es with
  | nil =>
    cases hr
    exact h.1
  | cons f fs ih =>
    obtain ⟨es', rfl⟩ := hp
    obtain ⟨t, ht, hr'⟩ := Option.bind_eq_some_iff.1 hr
    have he := h.2 t ht
    exact ih he hr' (List.prefix_append fs es')

theorem Always.of_invariant (I : σ → Prop) (hP : ∀ s, I s → P s)
    (hstep : ∀ s e s', I s → step s e = some s' → C s e → I s')
    (hI : I s) (h : Along step C s es) : Always step P s es := by
  refine ⟨hP s hI, h.of_invariant I ?_ hI⟩
  intro s e s' hs hstep' hC
  have hI' := hstep s e s' hs hstep' hC
  exact ⟨hP s' hI', hI'⟩

theorem always_of_invariant {step : σ → ε → Option σ} (I : σ → Prop)
    (hP : ∀ s, I s → P s) (hstep : ∀ s e s', I s → step s e = some s' → I s') (hI : I s)
    (es : List ε) : Always step P s es := by
  apply Always.of_invariant (C := fun _ _ => True) I hP ?_ hI
  · exact each_of_forall step (fun _ _ _ => trivial) s es
  · exact fun s e s' h hs _ => hstep s e s' h hs

/-- What a system satisfies in every state, in terms of a system that records its events. -/
theorem always_iff_recorded {step : σ → ε → Option σ} {step' : τ → ε → Option τ} (f : τ → σ)
    (I : τ → Prop) (hf : ∀ t e, (step' t e).map f = step (f t) e)
    (hstep : ∀ t e t', I t → step' t e = some t' → I t') (hPQ : ∀ t, I t → (P (f t) ↔ Q t))
    (hI : I t) : Always step P (f t) es ↔ Always step' Q t es := by
  induction es generalizing t with
  | nil => exact and_congr (hPQ t hI) Iff.rfl
  | cons e es ih =>
    refine and_congr (hPQ t hI) ?_
    constructor
    · intro h t' ht
      have hs : step (f t) e = some (f t') := by rw [← hf, ht, Option.map_some]
      exact (ih (hstep t e t' hI ht)).1 (h (f t') hs)
    · intro h s' hs
      rw [← hf] at hs
      obtain ⟨t', ht, rfl⟩ := Option.map_eq_some_iff.1 hs
      exact (ih (hstep t e t' hI ht)).2 (h t' ht)

/-- A property that holds exactly as long as every event is allowed. -/
theorem always_iff_along (I : σ → Prop) (hP : ∀ s, I s → P s)
    (hgood : ∀ s e s', I s → step s e = some s' → C s e → I s')
    (hbad : ∀ s e s', I s → step s e = some s' → P s' → C s e)
    (hI : I s) : Always step P s es ↔ Along step C s es := by
  refine ⟨?_, Always.of_invariant I hP hgood hI⟩
  intro h
  apply h.2.of_invariant I ?_ hI
  intro s e s' hs hstep hP'
  have hC := hbad s e s' hs hstep hP'
  exact ⟨hC, hgood s e s' hs hstep hC⟩

end Runs
