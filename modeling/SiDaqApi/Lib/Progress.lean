import SiDaqApi.Lib.Machine

/-!
# How long a party is busy

A rank that every step of a party takes down, and that no other step takes up, bounds the number of
steps that the party makes (`run_rank`), however the others interleave with it. A party that can
always move and has a rank therefore comes to its end.
-/

namespace Machine

variable {σ ι : Type*} {step : σ → ι → Option σ}

/-- **A rank bounds the steps of a party**: those for which `own` holds. -/
theorem run_rank {G : σ → ι → Prop} {I : σ → Prop} {own : ι → Bool} {rank : σ → ℕ}
    (hstep : ∀ s a s', I s → G s a → step s a = some s' →
      I s' ∧ rank s' + (if own a then 1 else 0) ≤ rank s)
    {s s' : σ} {as : List ι} (h : I s) (hguard : Guarded step G s as)
    (hrun : run step s as = some s') : I s' ∧ rank s' + as.countP own ≤ rank s := by
  induction as generalizing s with
  | nil =>
    obtain rfl := Option.some.inj hrun
    exact ⟨h, Nat.le_refl _⟩
  | cons a as ih =>
    obtain ⟨t, ht, hrun⟩ := Option.bind_eq_some_iff.mp hrun
    obtain ⟨hG, hguard⟩ := hguard t ht
    obtain ⟨hI, hle⟩ := hstep s a t h hG ht
    obtain ⟨hI', hle'⟩ := ih hI hguard hrun
    refine ⟨hI', ?_⟩
    rw [List.countP_cons]
    omega

end Machine
