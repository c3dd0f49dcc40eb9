import Mathlib.Tactic.Common

/-!
# Machines and their runs

A machine is a function `step : σ → ι → Option σ`: the state after an action, or `none` where the
action cannot happen. An interleaving of several parties is a list of actions, each of them naming
the party that moves. Safety over every interleaving is `run_invariant`; safety over the
interleavings whose actions are taken at the right moments is `run_invariant_of_guarded`.
-/

namespace Machine

variable {σ ι : Type*}

/-- The state after the actions, one after the other. -/
def run (step : σ → ι → Option σ) : σ → List ι → Option σ
  | s, [] => some s
  | s, a :: as => (step s a).bind fun s' => run step s' as

variable {step : σ → ι → Option σ}

@[simp] theorem run_nil (s : σ) : run step s [] = some s := rfl

theorem run_cons (s : σ) (a : ι) (as : List ι) :
    run step s (a :: as) = (step s a).bind fun s' => run step s' as := rfl

theorem run_append (s : σ) (as bs : List ι) :
    run step s (as ++ bs) = (run step s as).bind fun s' => run step s' bs := by
  induction as generalizing s with
  | nil => rfl
  | cons a as ih =>
    simp only [List.cons_append, run_cons, Option.bind_assoc]
    exact congrArg _ (funext ih)

/-- What the actions for one value do, the actions for a list of values do one after the other: a reader
that reads each record reads a file of records. -/
theorem run_flatMap {β : Type*} {emit : β → List ι} (f : List β → σ)
    (h : ∀ xs x, run step (f xs) (emit x) = some (f (xs ++ [x]))) (xs ys : List β) :
    run step (f xs) (ys.flatMap emit) = some (f (xs ++ ys)) := by
  induction ys generalizing xs with
  | nil => simp
  | cons y ys ih =>
    rw [List.flatMap_cons, run_append, h, Option.bind_some, ih]
    simp

/-- What every step keeps, every run keeps. -/
theorem run_invariant {I : σ → Prop} (hstep : ∀ s a s', I s → step s a = some s' → I s')
    {s s' : σ} {as : List ι} (h : I s) (hrun : run step s as = some s') : I s' := by
  induction as generalizing s with
  | nil =>
    obtain rfl := Option.some.inj hrun
    exact h
  | cons a as ih =>
    obtain ⟨t, ht, hrun⟩ := Option.bind_eq_some_iff.mp hrun
    exact ih (hstep s a t h ht) hrun

/-- Every action of the run is taken in a state that `G` allows for it. -/
def Guarded (step : σ → ι → Option σ) (G : σ → ι → Prop) : σ → List ι → Prop
  | _, [] => True
  | s, a :: as => ∀ s', step s a = some s' → G s a ∧ Guarded step G s' as

/-- What every allowed step keeps, every guarded run keeps. -/
theorem run_invariant_of_guarded {G : σ → ι → Prop} {I : σ → Prop}
    (hstep : ∀ s a s', I s → G s a → step s a = some s' → I s') {s s' : σ} {as : List ι}
    (h : I s) (hguard : Guarded step G s as) (hrun : run step s as = some s') : I s' := by
  induction as generalizing s with
  | nil =>
    obtain rfl := Option.some.inj hrun
    exact h
  | cons a as ih =>
    obtain ⟨t, ht, hrun⟩ := Option.bind_eq_some_iff.mp hrun
    obtain ⟨ha, hguard⟩ := hguard t ht
    exact ih (hstep s a t h ha ht) hguard hrun

theorem guarded_of_forall {P : ι → Prop} {s : σ} {as : List ι} (h : ∀ a ∈ as, P a) :
    Guarded step (fun _ => P) s as := by
  induction as generalizing s with
  | nil => trivial
  | cons a as ih =>
    intro s' _
    exact ⟨h a List.mem_cons_self, ih fun b hb => h b (List.mem_cons_of_mem a hb)⟩

theorem Guarded.and {G H : σ → ι → Prop} {s : σ} {as : List ι} (hG : Guarded step G s as)
    (hH : Guarded step H s as) : Guarded step (fun s a => G s a ∧ H s a) s as := by
  induction as generalizing s with
  | nil => trivial
  | cons a as ih =>
    intro s' hs'
    obtain ⟨ha, htail⟩ := hG s' hs'
    obtain ⟨ha', htail'⟩ := hH s' hs'
    exact ⟨⟨ha, ha'⟩, ih htail htail'⟩

/-- Where the guard can be computed, so can whether a run meets it. -/
def guardedBool (step : σ → ι → Option σ) (b : σ → ι → Bool) : σ → List ι → Bool
  | _, [] => true
  | s, a :: as =>
    match step s a with
    | none => true
    | some s' => b s a && guardedBool step b s' as

theorem guarded_of_guardedBool {G : σ → ι → Prop} {b : σ → ι → Bool}
    (hb : ∀ s a, b s a = true → G s a) {s : σ} {as : List ι}
    (h : guardedBool step b s as = true) : Guarded step G s as := by
  induction as generalizing s with
  | nil => trivial
  | cons a as ih =>
    intro s' hs'
    simp only [guardedBool, hs', Bool.and_eq_true] at h
    exact ⟨hb s a h.1, ih h.2⟩

theorem guarded_cons {G : σ → ι → Prop} {s t : σ} {a : ι} {as : List ι} (ht : step s a = some t) :
    Guarded step G s (a :: as) ↔ G s a ∧ Guarded step G t as := by
  constructor
  · exact fun h => h t ht
  · intro h s' hs'
    obtain rfl := Option.some.inj (ht.symm.trans hs')
    exact h

/-- A guarded run, cut in two. -/
theorem guarded_append {G : σ → ι → Prop} {s t : σ} {as bs : List ι}
    (hrun : run step s as = some t) :
    Guarded step G s (as ++ bs) ↔ Guarded step G s as ∧ Guarded step G t bs := by
  induction as generalizing s with
  | nil =>
    obtain rfl := Option.some.inj hrun
    exact (and_iff_right trivial).symm
  | cons a as ih =>
    obtain ⟨u, hu, hrun⟩ := Option.bind_eq_some_iff.mp hrun
    rw [List.cons_append, guarded_cons hu, guarded_cons hu, ih hrun, and_assoc]

/-- Every state that the run reaches satisfies `P`. -/
def Always (step : σ → ι → Option σ) (P : σ → Prop) : σ → List ι → Prop
  | s, [] => P s
  | s, a :: as => P s ∧ ∀ s', step s a = some s' → Always step P s' as

/-- What follows from an invariant of the allowed steps holds in every state of a guarded run. -/
theorem always_of_guarded {G : σ → ι → Prop} {I P : σ → Prop}
    (hstep : ∀ s a s', I s → G s a → step s a = some s' → I s') (hP : ∀ s, I s → P s) {s : σ}
    {as : List ι} (h : I s) (hguard : Guarded step G s as) : Always step P s as := by
  induction as generalizing s with
  | nil => exact hP s h
  | cons a as ih =>
    refine ⟨hP s h, fun s' hs' => ?_⟩
    obtain ⟨ha, htail⟩ := hguard s' hs'
    exact ih (hstep s a s' h ha hs') htail

/-- `G` is the exact condition under which steps keep `P`: a run stays in `P` if and only if its
actions meet it. The invariant `I` is kept as long as `P` is. -/
theorem always_iff_guarded_of_invariant {G : σ → ι → Prop} {I P : σ → Prop}
    (hinv : ∀ s a s', I s → P s → step s a = some s' → P s' → I s')
    (hstep : ∀ s a s', I s → P s → step s a = some s' → (P s' ↔ G s a)) {s : σ} (hI : I s)
    (h : P s) (as : List ι) : Always step P s as ↔ Guarded step G s as := by
  induction as generalizing s with
  | nil => exact iff_of_true h trivial
  | cons a as ih =>
    constructor
    · rintro ⟨-, hall⟩ s' hs'
      have htail := hall s' hs'
      have hP : P s' := by
        cases as with
        | nil => exact htail
        | cons _ _ => exact htail.1
      exact ⟨(hstep s a s' hI h hs').mp hP, (ih (hinv s a s' hI h hs' hP) hP).mp htail⟩
    · intro hguard
      refine ⟨h, fun s' hs' => ?_⟩
      obtain ⟨hG, htail⟩ := hguard s' hs'
      have hP := (hstep s a s' hI h hs').mpr hG
      exact (ih (hinv s a s' hI h hs' hP) hP).mpr htail

/-- The same without an invariant. -/
theorem always_iff_guarded {G : σ → ι → Prop} {P : σ → Prop}
    (hstep : ∀ s a s', P s → step s a = some s' → (P s' ↔ G s a)) {s : σ} (h : P s)
    (as : List ι) : Always step P s as ↔ Guarded step G s as :=
  always_iff_guarded_of_invariant (I := fun _ => True) (fun _ _ _ _ _ _ _ => trivial)
    (fun s a s' _ => hstep s a s') trivial h as

/-- `G` is the exact condition under which steps keep `P`, and a `P` that is lost stays lost: `P`
holds at the end of a run if and only if it holds at the start and every action meets `G`. The steps
keep the invariant `I` and take only actions with `R`. -/
theorem run_iff_guarded {G : σ → ι → Prop} {I P : σ → Prop} {R : ι → Prop}
    (hinv : ∀ s a s', I s → R a → step s a = some s' → I s')
    (hstep : ∀ s a s', I s → R a → step s a = some s' → (P s' ↔ P s ∧ G s a)) {s t : σ}
    {as : List ι} (h : I s) (hR : ∀ a ∈ as, R a) (hrun : run step s as = some t) :
    P t ↔ P s ∧ Guarded step G s as := by
  induction as generalizing s with
  | nil =>
    obtain rfl := Option.some.inj hrun
    exact ⟨fun hP => ⟨hP, trivial⟩, fun hP => hP.1⟩
  | cons a as ih =>
    obtain ⟨u, hu, hrun⟩ := Option.bind_eq_some_iff.mp hrun
    have ha := hR a List.mem_cons_self
    rw [ih (hinv s a u h ha hu) (fun b hb => hR b (List.mem_cons_of_mem a hb)) hrun,
      hstep s a u h ha hu]
    rw [guarded_cons hu, and_assoc]

/-! ## Records

A machine that appends to a list of what has happened: `since` is what it has appended to the list
`xs₀` of an earlier state.
-/

/-- What a record has that it did not have when it was `xs₀`. -/
def since {β : Type*} (xs₀ xs : List β) : List β := xs.drop xs₀.length

section Since

variable {β : Type*} {xs₀ xs : List β}

@[simp] theorem since_self (xs : List β) : since xs xs = [] := List.drop_length

theorem since_append (h : xs₀ <+: xs) (ys : List β) :
    since xs₀ (xs ++ ys) = since xs₀ xs ++ ys :=
  List.drop_append_of_le_length h.length_le

end Since

end Machine
