import Mathlib.Data.List.Induction
import Mathlib.Tactic.Common

/-!
# Machines with faults

A machine takes an event in a state and either faults (`none`) or moves to a new state with a list
of outputs.  `run` chains steps over a list of events and concatenates the outputs.  The file gives
the rules every later induction over runs goes through: how runs split, the invariant rule
(`run_of_inv`), the history rule (`run_history`), ghost values (`ghost_of_run`), the exact condition
for a relation to hold all along a run (`forall_prefix_iff_along`), lock-step refinement
(`run_refine`), the exact condition for a fault (`run_eq_none_iff`) and the rule of slots
(`taken_sublist_put`).
-/

/-- A step function on states `σ` and events `ε` with outputs `ο`; `none` is a fault. -/
abbrev Machine (σ ε ο : Type*) := σ → ε → Option (σ × List ο)

namespace Machine

variable {σ τ ε ο : Type*} (m : Machine σ ε ο)

/-- Run a list of events, collecting the outputs; a fault ends the run. -/
def run : σ → List ε → Option (σ × List ο)
  | s, [] => some (s, [])
  | s, e :: es =>
    match m s e with
    | none => none
    | some (s', out) => (run s' es).map fun r => (r.1, out ++ r.2)

@[simp] theorem run_nil (s : σ) : m.run s [] = some (s, []) := rfl

theorem run_cons_eq_some_iff {s t : σ} {e : ε} {es : List ε} {out : List ο} :
    m.run s (e :: es) = some (t, out) ↔
      ∃ s' o₁ o₂, m s e = some (s', o₁) ∧ m.run s' es = some (t, o₂) ∧ out = o₁ ++ o₂ := by
  rw [run]
  rcases h : m s e with _ | ⟨s', o₁⟩
  · simp
  · constructor
    · intro hr
      obtain ⟨⟨t', o₂⟩, h₂, he⟩ := Option.map_eq_some_iff.1 hr
      obtain ⟨rfl, rfl⟩ := Prod.mk.inj he
      exact ⟨s', o₁, o₂, rfl, h₂, rfl⟩
    · rintro ⟨s'', o₁', o₂, h₁, h₂, rfl⟩
      obtain ⟨rfl, rfl⟩ := Prod.mk.inj (Option.some.inj h₁)
      simp [h₂]

theorem run_cons {s s' t : σ} {e : ε} {es : List ε} {o₁ o₂ : List ο}
    (h₁ : m s e = some (s', o₁)) (h₂ : m.run s' es = some (t, o₂)) :
    m.run s (e :: es) = some (t, o₁ ++ o₂) :=
  m.run_cons_eq_some_iff.2 ⟨s', o₁, o₂, h₁, h₂, rfl⟩

theorem run_singleton {s t : σ} {e : ε} {out : List ο} (h : m s e = some (t, out)) :
    m.run s [e] = some (t, out) := by
  simpa using m.run_cons h (m.run_nil t)

theorem run_append_eq_some_iff {s t : σ} {es fs : List ε} {out : List ο} :
    m.run s (es ++ fs) = some (t, out) ↔
      ∃ s' o₁ o₂, m.run s es = some (s', o₁) ∧ m.run s' fs = some (t, o₂) ∧ out = o₁ ++ o₂ := by
  induction es generalizing s out with
  | nil => simp
  | cons e es ih =>
    rw [List.cons_append, run_cons_eq_some_iff]
    constructor
    · rintro ⟨s₁, o₁, o, h₁, h, rfl⟩
      obtain ⟨s₂, o₂, o₃, h₂, h₃, rfl⟩ := ih.1 h
      exact ⟨s₂, o₁ ++ o₂, o₃, m.run_cons h₁ h₂, h₃, (List.append_assoc ..).symm⟩
    · rintro ⟨s₂, o, o₃, h, h₃, rfl⟩
      obtain ⟨s₁, o₁, o₂, h₁, h₂, rfl⟩ := m.run_cons_eq_some_iff.1 h
      exact ⟨s₁, o₁, o₂ ++ o₃, h₁, ih.2 ⟨s₂, o₂, o₃, h₂, h₃, rfl⟩, List.append_assoc ..⟩

theorem run_append {s s' t : σ} {es fs : List ε} {o₁ o₂ : List ο}
    (h₁ : m.run s es = some (s', o₁)) (h₂ : m.run s' fs = some (t, o₂)) :
    m.run s (es ++ fs) = some (t, o₁ ++ o₂) :=
  m.run_append_eq_some_iff.2 ⟨s', o₁, o₂, h₁, h₂, rfl⟩

/-- How a run splits, as an equation that covers faults too. -/
theorem run_append_eq_bind (s : σ) (es fs : List ε) :
    m.run s (es ++ fs) =
      (m.run s es).bind fun r => (m.run r.1 fs).map fun r' => (r'.1, r.2 ++ r'.2) := by
  refine Option.ext fun ⟨t, out⟩ => ?_
  simp only [Option.bind_eq_some_iff, Option.map_eq_some_iff, Prod.mk.injEq, Prod.exists]
  constructor
  · intro h
    obtain ⟨s', o₁, o₂, h₁, h₂, rfl⟩ := m.run_append_eq_some_iff.1 h
    exact ⟨s', o₁, h₁, t, o₂, h₂, rfl, rfl⟩
  · rintro ⟨s', o₁, h₁, t', o₂, h₂, rfl, rfl⟩
    exact m.run_append h₁ h₂

/-- Running batches of events one after the other is running their concatenation. -/
theorem run_flatten (s : σ) (ess : List (List ε)) : run m.run s ess = m.run s ess.flatten := by
  refine Option.ext fun ⟨t, out⟩ => ?_
  induction ess generalizing s out with
  | nil => rfl
  | cons es ess ih =>
    rw [List.flatten_cons, run_cons_eq_some_iff, run_append_eq_some_iff]
    simp only [ih]

/-- Running a machine whose events are translated is running it on the translated events. -/
theorem run_map {ε' : Type*} (f : ε' → ε) (s : σ) (es : List ε') :
    run (fun s e => m s (f e)) s es = m.run s (es.map f) := by
  induction es generalizing s with
  | nil => rfl
  | cons e es ih => simp only [List.map_cons, run, ih]

/-- The invariant rule: if no step from a state of the invariant faults or leaves it, no run
does. -/
theorem run_of_inv {I : σ → Prop}
    (step : ∀ s e, I s → ∃ s' out, m s e = some (s', out) ∧ I s') (es : List ε) :
    ∀ s, I s → ∃ s' out, m.run s es = some (s', out) ∧ I s' := by
  induction es with
  | nil => exact fun s hs => ⟨s, [], rfl, hs⟩
  | cons e es ih =>
    intro s hs
    obtain ⟨s₁, o₁, h₁, hs₁⟩ := step s e hs
    obtain ⟨s₂, o₂, h₂, hs₂⟩ := ih s₁ hs₁
    exact ⟨s₂, o₁ ++ o₂, m.run_cons h₁ h₂, hs₂⟩

/-- The history rule: a property of the events taken, the state and the outputs so far that each
step extends holds at the end of every run. -/
theorem run_history {P : List ε → σ → List ο → Prop} {s : σ} (start : P [] s [])
    (step : ∀ es t out e t' o, P es t out → m t e = some (t', o) → P (es ++ [e]) t' (out ++ o))
    {es : List ε} {t : σ} {out : List ο} (h : m.run s es = some (t, out)) : P es t out := by
  induction es using List.reverseRecOn generalizing t out with
  | nil =>
    obtain ⟨rfl, rfl⟩ := Prod.mk.inj (Option.some.inj h)
    exact start
  | append_singleton es e ih =>
    obtain ⟨s', o₁, o₂, h₁, h₂, rfl⟩ := m.run_append_eq_some_iff.1 h
    obtain ⟨s'', o₃, o₄, h₃, h₄, rfl⟩ := m.run_cons_eq_some_iff.1 h₂
    obtain ⟨rfl, rfl⟩ := Prod.mk.inj (Option.some.inj h₄)
    rw [List.append_nil]
    exact step _ _ _ _ _ _ (ih h₁) h₃

/-- The output rule: what every step from a state of the invariant outputs satisfies `Q`, so what a
run outputs does. -/
theorem forall_out_of_run {I : σ → Prop} {Q : ο → Prop}
    (step : ∀ s e s' out, I s → m s e = some (s', out) → I s' ∧ ∀ x ∈ out, Q x)
    {es : List ε} {s t : σ} {out : List ο} (hs : I s) (h : m.run s es = some (t, out)) :
    ∀ x ∈ out, Q x := by
  refine (m.run_history (P := fun _ t out => I t ∧ ∀ x ∈ out, Q x) ⟨hs, by simp⟩ ?_ h).2
  intro es t out e t' o ht he
  obtain ⟨hinv, hq⟩ := step _ _ _ _ ht.1 he
  refine ⟨hinv, fun x hx => ?_⟩
  rcases List.mem_append.1 hx with hx | hx
  · exact ht.2 x hx
  · exact hq x hx

/-- A value kept beside the run from `g` on; `next` sees the state before the step. -/
def ghost {γ : Type*} (next : γ → σ → ε → γ) : γ → σ → List ε → γ
  | g, _, [] => g
  | g, s, e :: es =>
    match m s e with
    | none => next g s e
    | some (s', _) => ghost next (next g s e) s' es

theorem ghost_cons {γ : Type*} {next : γ → σ → ε → γ} {g : γ} {s s' : σ} {e : ε} {es : List ε}
    {out : List ο} (h : m s e = some (s', out)) :
    m.ghost next g s (e :: es) = m.ghost next (next g s e) s' es := by
  simp [ghost, h]

/-- The ghost value after one more step. -/
theorem ghost_concat {γ : Type*} {next : γ → σ → ε → γ} {es : List ε} {e : ε} :
    ∀ {g : γ} {s t : σ} {out : List ο}, m.run s es = some (t, out) →
      m.ghost next g s (es ++ [e]) = next (m.ghost next g s es) t e := by
  induction es with
  | nil =>
    intro g s t out h
    obtain ⟨rfl, rfl⟩ := Prod.mk.inj (Option.some.inj h)
    rcases h : m s e with _ | ⟨s', o⟩
    · simp [ghost, h]
    · exact m.ghost_cons h
  | cons e' es ih =>
    intro g s t out h
    obtain ⟨s₁, o₁, o₂, h₁, h₂, rfl⟩ := m.run_cons_eq_some_iff.1 h
    rw [List.cons_append, m.ghost_cons h₁, m.ghost_cons h₁, ih h₂]

/-- The ghost rule: a relation between the ghost value and the state that each step keeps holds at
the end of every run. -/
theorem ghost_of_run {γ : Type*} {next : γ → σ → ε → γ} {Q : γ → σ → Prop}
    (step : ∀ g s e s' out, Q g s → m s e = some (s', out) → Q (next g s e) s') {es : List ε} :
    ∀ {g : γ} {s t : σ} {out : List ο}, Q g s → m.run s es = some (t, out) →
      Q (m.ghost next g s es) t := by
  induction es with
  | nil =>
    intro g s t out hQ h
    obtain ⟨rfl, rfl⟩ := Prod.mk.inj (Option.some.inj h)
    exact hQ
  | cons e es ih =>
    intro g s t out hQ h
    obtain ⟨s₁, o₁, o₂, h₁, h₂, rfl⟩ := m.run_cons_eq_some_iff.1 h
    rw [m.ghost_cons h₁]
    exact ih (step _ _ _ _ _ hQ h₁) h₂

/-- Every step that the run takes satisfies `P`, a condition on the state before it and the
event. -/
def Along (P : σ → ε → Prop) : σ → List ε → Prop
  | _, [] => True
  | s, e :: es =>
    P s e ∧
      match m s e with
      | none => True
      | some (s', _) => Along P s' es

instance decidableAlong (P : σ → ε → Prop) [DecidableRel P] :
    ∀ s es, Decidable (m.Along P s es)
  | _, [] => inferInstanceAs (Decidable True)
  | s, e :: es =>
    match h : m s e with
    | none => decidable_of_iff (P s e) (by simp [Along, h])
    | some (s', _) =>
      have := decidableAlong P s' es
      decidable_of_iff (P s e ∧ m.Along P s' es) (by simp [Along, h])

/-- The exactness rule: if a step keeps the relation between the events so far and the state exactly
when it satisfies `P`, then the relation holds all along a run exactly when every step of the run
satisfies `P`. -/
theorem forall_prefix_iff_along {γ : Type*} {next : γ → ε → γ} {I : σ → Prop} {Q : γ → σ → Prop}
    {P : σ → ε → Prop}
    (step : ∀ g s e, I s → Q g s →
      ∃ s' out, m s e = some (s', out) ∧ I s' ∧ (Q (next g e) s' ↔ P s e))
    (es : List ε) : ∀ g s, I s → Q g s →
      ((∀ pre, pre <+: es → ∀ t out, m.run s pre = some (t, out) → Q (pre.foldl next g) t) ↔
        m.Along P s es) := by
  induction es with
  | nil =>
    intro g s hI hQ
    refine iff_of_true (fun pre hpre t out h => ?_) trivial
    obtain rfl := List.prefix_nil.1 hpre
    obtain ⟨rfl, rfl⟩ := Prod.mk.inj (Option.some.inj h)
    exact hQ
  | cons e es ih =>
    intro g s hI hQ
    obtain ⟨s₁, o₁, h₁, hI₁, hiff⟩ := step g s e hI hQ
    simp only [Along, h₁]
    constructor
    · intro hall
      have hQ₁ : Q (next g e) s₁ :=
        hall [e] (List.prefix_cons_inj e |>.2 (List.nil_prefix)) s₁ o₁ (m.run_singleton h₁)
      refine ⟨hiff.1 hQ₁, (ih _ _ hI₁ hQ₁).1 fun pre hpre t out h => ?_⟩
      exact hall (e :: pre) ((List.prefix_cons_inj e).2 hpre) t (o₁ ++ out) (m.run_cons h₁ h)
    · rintro ⟨hP, halong⟩ pre hpre t out h
      have hQ₁ := hiff.2 hP
      cases pre with
      | nil =>
        obtain ⟨rfl, rfl⟩ := Prod.mk.inj (Option.some.inj h)
        exact hQ
      | cons e' pre =>
        obtain ⟨he, hpre⟩ := List.cons_prefix_cons.1 hpre
        rw [he] at h ⊢
        obtain ⟨s₂, o₂, o₃, h₂, h₃, rfl⟩ := m.run_cons_eq_some_iff.1 h
        obtain ⟨rfl, rfl⟩ := Prod.mk.inj (Option.some.inj (h₁.symm.trans h₂))
        exact (ih _ _ hI₁ hQ₁).2 halong pre hpre t o₃ h₃

/-- The simulation rule: if each step that satisfies `P` from related states is matched by a run of
the other machine on the events and outputs it stands for, so is every run along `P`. -/
theorem run_simulate {ε' ο' : Type*} (a : Machine τ ε' ο') (f : ε → List ε') (g : ο → List ο')
    {P : σ → ε → Prop} {R : σ → τ → Prop}
    (step : ∀ s t e, R s t → P s e → ∃ s' t' out, m s e = some (s', out) ∧
      a.run t (f e) = some (t', out.flatMap g) ∧ R s' t')
    (es : List ε) : ∀ s t, R s t → m.Along P s es → ∃ s' t' out, m.run s es = some (s', out) ∧
      a.run t (es.flatMap f) = some (t', out.flatMap g) ∧ R s' t' := by
  induction es with
  | nil => exact fun s t h _ => ⟨s, t, [], rfl, rfl, h⟩
  | cons e es ih =>
    rintro s t h ⟨hP, halong⟩
    obtain ⟨s₁, t₁, o₁, hs₁, ht₁, h₁⟩ := step s t e h hP
    rw [hs₁] at halong
    obtain ⟨s₂, t₂, o₂, hs₂, ht₂, h₂⟩ := ih s₁ t₁ h₁ halong
    refine ⟨s₂, t₂, o₁ ++ o₂, m.run_cons hs₁ hs₂, ?_, h₂⟩
    rw [List.flatMap_cons, List.flatMap_append]
    exact a.run_append ht₁ ht₂

/-- Every run is along the trivial condition. -/
theorem along_true (es : List ε) : ∀ s, m.Along (fun _ _ => True) s es := by
  induction es with
  | nil => exact fun _ => trivial
  | cons e es ih =>
    intro s
    refine ⟨trivial, ?_⟩
    rcases m s e with _ | ⟨s', _⟩
    · trivial
    · exact ih s'

/-- Lock-step refinement along maps of events and outputs: if related states step to related states
with corresponding outputs, related states run to related states with corresponding outputs. -/
theorem run_refine {ε' ο' : Type*} (a : Machine τ ε' ο') (f : ε → ε') (g : ο → ο')
    {R : σ → τ → Prop}
    (step : ∀ s t e, R s t →
      ∃ s' t' out, m s e = some (s', out) ∧ a t (f e) = some (t', out.map g) ∧ R s' t')
    (es : List ε) (s : σ) (t : τ) (h : R s t) :
    ∃ s' t' out, m.run s es = some (s', out) ∧ a.run t (es.map f) = some (t', out.map g) ∧
      R s' t' := by
  simp only [List.map_eq_flatMap] at step ⊢
  refine m.run_simulate a (fun e => [f e]) (fun x => [g x]) (P := fun _ _ => True) ?_ es s t h
    (m.along_true es s)
  intro s t e h _
  obtain ⟨s', t', out, hs, ht, h'⟩ := step s t e h
  exact ⟨s', t', out, hs, a.run_singleton ht, h'⟩

/-- The rule of outputs: if what each step outputs stands for a run of the other machine and for its
outputs, so does what a run outputs. -/
theorem run_follow {ε' ο' : Type*} (a : Machine τ ε' ο') (f : ο → List ε') (g : ο → List ο')
    {R : σ → τ → Prop}
    (step : ∀ s t e, R s t → ∃ s' t' out, m s e = some (s', out) ∧
      a.run t (out.flatMap f) = some (t', out.flatMap g) ∧ R s' t')
    (es : List ε) : ∀ s t, R s t → ∃ s' t' out, m.run s es = some (s', out) ∧
      a.run t (out.flatMap f) = some (t', out.flatMap g) ∧ R s' t' := by
  induction es with
  | nil => exact fun s t h => ⟨s, t, [], rfl, rfl, h⟩
  | cons e es ih =>
    intro s t h
    obtain ⟨s₁, t₁, o₁, hs₁, ht₁, h₁⟩ := step s t e h
    obtain ⟨s₂, t₂, o₂, hs₂, ht₂, h₂⟩ := ih s₁ t₁ h₁
    refine ⟨s₂, t₂, o₁ ++ o₂, m.run_cons hs₁ hs₂, ?_, h₂⟩
    rw [List.flatMap_append, List.flatMap_append]
    exact a.run_append ht₁ ht₂

/-- The stuttering rule: if each step is the same step of the other machine, or is silent and none
of its steps, then each run is a run of the other machine without some of the silent events. -/
theorem run_stutter (a : Machine τ ε ο) {R : σ → τ → Prop} {S : ε → Prop}
    (step : ∀ s t e, R s t → ∃ s' out, m s e = some (s', out) ∧
      ((∃ t', a t e = some (t', out) ∧ R s' t') ∨ S e ∧ out = [] ∧ R s' t))
    (es : List ε) : ∀ s t, R s t → ∃ s' t' out fs, m.run s es = some (s', out) ∧
      a.run t fs = some (t', out) ∧ R s' t' ∧ fs.Sublist es ∧
      ∀ p : ε → Bool, (∀ e, S e → p e = false) → fs.filter p = es.filter p := by
  induction es with
  | nil => exact fun s t h => ⟨s, t, [], [], rfl, rfl, h, .slnil, fun _ _ => rfl⟩
  | cons e es ih =>
    intro s t h
    obtain ⟨s₁, o₁, hs₁, ⟨t₁, ht₁, h₁⟩ | ⟨hsilent, rfl, h₁⟩⟩ := step s t e h
    · obtain ⟨s₂, t₂, o₂, fs, hs₂, ht₂, h₂, hsub, hfilter⟩ := ih s₁ t₁ h₁
      refine ⟨s₂, t₂, o₁ ++ o₂, e :: fs, m.run_cons hs₁ hs₂, a.run_cons ht₁ ht₂, h₂,
        hsub.cons_cons e, fun p hp => ?_⟩
      rw [List.filter_cons, List.filter_cons, hfilter p hp]
    · obtain ⟨s₂, t₂, o₂, fs, hs₂, ht₂, h₂, hsub, hfilter⟩ := ih s₁ t h₁
      refine ⟨s₂, t₂, [] ++ o₂, fs, m.run_cons hs₁ hs₂, ht₂, h₂, hsub.cons e, fun p hp => ?_⟩
      rw [List.filter_cons_of_neg (by simp [hp e hsilent]), hfilter p hp]

/-- A run that faults does so at one event, behind a run that does not. -/
theorem exists_fault {es : List ε} : ∀ {s : σ}, m.run s es = none →
    ∃ pre e t out, pre ++ [e] <+: es ∧ m.run s pre = some (t, out) ∧ m t e = none := by
  induction es with
  | nil => exact fun h => nomatch h
  | cons e es ih =>
    intro s h
    rcases hstep : m s e with _ | ⟨s', o⟩
    · exact ⟨[], e, s, [], List.prefix_append [e] es, rfl, hstep⟩
    · rw [run, hstep] at h
      obtain ⟨pre, e', t, out, hpre, hrun, hfault⟩ := ih (Option.map_eq_none_iff.1 h)
      exact ⟨e :: pre, e', t, o ++ out, (List.prefix_cons_inj e).2 hpre,
        m.run_cons hstep hrun, hfault⟩

/-- The rule of faults: if a step from a state of the invariant faults exactly when it violates `P`,
and else keeps the invariant, then a run faults exactly when one of its steps violates `P`. -/
theorem run_eq_none_iff {I : σ → Prop} {P : σ → ε → Prop}
    (step : ∀ s e, I s → P s e → ∃ s' out, m s e = some (s', out) ∧ I s')
    (fault : ∀ s e, I s → ¬ P s e → m s e = none) (es : List ε) :
    ∀ s, I s → (m.run s es = none ↔ ¬ m.Along P s es) := by
  induction es with
  | nil => exact fun s _ => iff_of_false nofun (not_not.2 trivial)
  | cons e es ih =>
    intro s hs
    by_cases hP : P s e
    · obtain ⟨s', out, hstep, hs'⟩ := step s e hs hP
      simp only [run, Along, hstep, hP, true_and, Option.map_eq_none_iff]
      exact ih s' hs'
    · simp only [run, Along, fault s e hs hP, hP, false_and, not_false_eq_true]

/-- The rule of slots: values are put into a slot, where the next one takes the place of the last,
and taken out of it.  What is taken in a run is what was put, in this order, each at most once. -/
theorem taken_sublist_put {α : Type*} {slot : σ → Option α} {put take : ε → Option α}
    (htake : ∀ s e s' out, m s e = some (s', out) → ∀ a ∈ take e, slot s = some a)
    (hslot : ∀ s e s' out, m s e = some (s', out) →
      ∀ a ∈ slot s', put e = some a ∨ take e = none ∧ slot s = some a)
    {es : List ε} {s t : σ} {out : List ο} (hs : slot s = none) (h : m.run s es = some (t, out)) :
    (es.filterMap take).Sublist (es.filterMap put) := by
  have hall : (es.filterMap take ++ (slot t).toList).Sublist (es.filterMap put) := by
    refine m.run_history (P := fun es t _ =>
      (es.filterMap take ++ (slot t).toList).Sublist (es.filterMap put)) (by simp [hs]) ?_ h
    intro es t _ e t' o ih hstep
    have htaken : (es.filterMap take ++ (take e).toList).Sublist (es.filterMap put) := by
      cases htk : take e with
      | none => exact (List.sublist_append_left ..).trans (by simpa using ih)
      | some a => rwa [htake _ _ _ _ hstep a htk] at ih
    have hput : (es ++ [e]).filterMap put = es.filterMap put ++ (put e).toList := by
      rw [List.filterMap_append]
      cases hpt : put e <;> simp [hpt]
    have htk : (es ++ [e]).filterMap take = es.filterMap take ++ (take e).toList := by
      rw [List.filterMap_append]
      cases htk : take e <;> simp [htk]
    rw [hput, htk]
    cases hslot' : slot t' with
    | none => simpa using htaken.trans (List.sublist_append_left ..)
    | some b =>
      obtain hpt | ⟨hnone, hb⟩ := hslot _ _ _ _ hstep b hslot'
      · rw [hpt]
        exact htaken.append (List.Sublist.refl _)
      · rw [hb] at ih
        rw [hnone]
        simpa using ih.trans (List.sublist_append_left ..)
  exact (List.sublist_append_left ..).trans hall

end Machine
