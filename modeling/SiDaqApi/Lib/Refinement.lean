import SiDaqApi.Lib.Machine

/-!
# Traces and forward simulations

What an observer sees of a run is its trace: the events of its steps, one after the other. A forward
simulation matches every step of one machine by a run of another one with the same events, so that
every trace of the first is a trace of the second (`Simulation.run`): the second is what the first
one is for.
-/

namespace Machine

variable {σ τ ι κ ε : Type*}

/-- The events of a run, where `ev s a s'` are those of the step from `s` to `s'`. -/
def trace (step : σ → ι → Option σ) (ev : σ → ι → σ → List ε) : σ → List ι → List ε
  | _, [] => []
  | s, a :: as =>
    match step s a with
    | none => []
    | some s' => ev s a s' ++ trace step ev s' as

section Trace

variable {step : σ → ι → Option σ} {ev : σ → ι → σ → List ε} {s s' : σ} {a : ι} {as bs : List ι}

@[simp] theorem trace_nil : trace step ev s [] = [] := rfl

theorem trace_cons (h : step s a = some s') :
    trace step ev s (a :: as) = ev s a s' ++ trace step ev s' as := by
  simp only [trace, h]

theorem trace_append (h : run step s as = some s') :
    trace step ev s (as ++ bs) = trace step ev s as ++ trace step ev s' bs := by
  induction as generalizing s with
  | nil =>
    obtain rfl := Option.some.inj h
    rfl
  | cons a as ih =>
    obtain ⟨t, ht, hrun⟩ := Option.bind_eq_some_iff.mp h
    rw [List.cons_append, trace_cons ht, trace_cons ht, ih hrun, List.append_assoc]

/-- When the events of a step are those of its action, the trace is that of the actions. -/
theorem trace_eq_flatMap {f : ι → List ε} (h : run step s as = some s') :
    trace step (fun _ a _ => f a) s as = as.flatMap f := by
  induction as generalizing s with
  | nil => rfl
  | cons a as ih =>
    obtain ⟨t, ht, hrun⟩ := Option.bind_eq_some_iff.mp h
    rw [trace_cons ht, ih hrun, List.flatMap_cons]

/-- A run of one step. -/
theorem run_singleton (h : step s a = some s') : run step s [a] = some s' := by
  rw [run_cons, h]
  rfl

theorem trace_singleton (h : step s a = some s') : trace step ev s [a] = ev s a s' := by
  rw [trace_cons h, trace_nil, List.append_nil]

end Trace

section Simulation

variable {step : σ → ι → Option σ} {ev : σ → ι → σ → List ε} {G : σ → ι → Prop}
  {step' : τ → κ → Option τ} {ev' : τ → κ → τ → List ε} {R : σ → τ → Prop}

/-- The second machine can follow a step from `s` to `s'` with events `es`. -/
def CanFollow (step' : τ → κ → Option τ) (ev' : τ → κ → τ → List ε) (R : σ → τ → Prop) (s' : σ)
    (t : τ) (es : List ε) : Prop :=
  ∃ bs t', run step' t bs = some t' ∧ R s' t' ∧ trace step' ev' t bs = es

/-- Every step that `G` allows is followed by the second machine. -/
def Simulation (step : σ → ι → Option σ) (ev : σ → ι → σ → List ε) (G : σ → ι → Prop)
    (step' : τ → κ → Option τ) (ev' : τ → κ → τ → List ε) (R : σ → τ → Prop) : Prop :=
  ∀ s t a s', R s t → G s a → step s a = some s' → CanFollow step' ev' R s' t (ev s a s')

/-- The second machine stays where it is. -/
theorem CanFollow.stay {s' : σ} {t : τ} (h : R s' t) : CanFollow step' ev' R s' t [] :=
  ⟨[], t, rfl, h, rfl⟩

/-- The second machine makes a step of its own. -/
theorem CanFollow.one {s' : σ} {t t' : τ} {b : κ} (hb : step' t b = some t') (h : R s' t') :
    CanFollow step' ev' R s' t (ev' t b t') :=
  ⟨[b], t', run_singleton hb, h, trace_singleton hb⟩

/-- The second machine makes a step, and then some more. -/
theorem CanFollow.cons {s' : σ} {t t' : τ} {b : κ} {es : List ε} (hb : step' t b = some t')
    (h : CanFollow step' ev' R s' t' es) : CanFollow step' ev' R s' t (ev' t b t' ++ es) := by
  obtain ⟨bs, u, hrun, hR, htrace⟩ := h
  refine ⟨b :: bs, u, ?_, hR, ?_⟩
  · rw [run_cons, hb]
    exact hrun
  · rw [trace_cons hb, htrace]

/-- A weaker relation is enough afterwards. -/
theorem CanFollow.imp {R' : σ → τ → Prop} {s' : σ} {t : τ} {es : List ε}
    (h : CanFollow step' ev' R s' t es) (himp : ∀ u, R s' u → R' s' u) :
    CanFollow step' ev' R' s' t es := by
  obtain ⟨bs, u, hrun, hR, htrace⟩ := h
  exact ⟨bs, u, hrun, himp u hR, htrace⟩

/-- **Every trace of the first machine is a trace of the second one.** -/
theorem Simulation.run (hsim : Simulation step ev G step' ev' R) {s s' : σ} {t : τ} {as : List ι}
    (h : R s t) (hguard : Guarded step G s as) (hrun : Machine.run step s as = some s') :
    CanFollow step' ev' R s' t (trace step ev s as) := by
  induction as generalizing s t with
  | nil =>
    obtain rfl := Option.some.inj hrun
    exact .stay h
  | cons a as ih =>
    obtain ⟨u, hu, hrun⟩ := Option.bind_eq_some_iff.mp hrun
    obtain ⟨hG, hguard⟩ := hguard u hu
    obtain ⟨bs, v, hbs, hR, hevents⟩ := hsim s t a u h hG hu
    obtain ⟨cs, w, hcs, hR', hevents'⟩ := ih hR hguard hrun
    refine ⟨bs ++ cs, w, ?_, hR', ?_⟩
    · rw [run_append, hbs]
      exact hcs
    · rw [trace_append hbs, hevents, hevents', trace_cons hu]

end Simulation

/-! ## Parts of a machine -/

section Part

variable {step : σ → ι → Option σ} {step' : τ → κ → Option τ}
  {acts : σ → ι → σ → List κ} {s s' : σ} {as : List ι}

/-- A machine whose steps are runs of a second machine on a part of its state: so are its runs. -/
theorem run_part (part : σ → τ)
    (h : ∀ s a s', step s a = some s' → run step' (part s) (acts s a s') = some (part s'))
    (hrun : run step s as = some s') :
    run step' (part s) (trace step acts s as) = some (part s') := by
  induction as generalizing s with
  | nil =>
    obtain rfl := Option.some.inj hrun
    rfl
  | cons a as ih =>
    obtain ⟨t, ht, hrun⟩ := Option.bind_eq_some_iff.mp hrun
    rw [trace_cons ht, run_append, h s a t ht]
    exact ih hrun

/-- Every event of a run is one of a step. -/
theorem forall_mem_trace {ev : σ → ι → σ → List κ} {P : ι → Prop} {Q : κ → Prop}
    (h : ∀ s a s', P a → step s a = some s' → ∀ e ∈ ev s a s', Q e) (has : ∀ a ∈ as, P a) :
    ∀ e ∈ trace step ev s as, Q e := by
  induction as generalizing s with
  | nil => simp
  | cons a as ih =>
    intro e he
    cases hs : step s a with
    | none => simp [trace, hs] at he
    | some t =>
      rw [trace_cons hs, List.mem_append] at he
      rcases he with he | he
      · exact h s a t (has a List.mem_cons_self) hs e he
      · exact ih (fun b hb => has b (List.mem_cons_of_mem a hb)) e he

end Part

end Machine
