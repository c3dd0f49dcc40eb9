import SiDaqApi.Lib.Progress
import SiDaqApi.Squeue.Fifo

/-!
# The queue's calls return

Nothing that other threads do keeps a call from returning: `SQPut` makes four steps, and `SQGet` with
a time limit of `wait` milliseconds at most `wait - 1` rounds of its waiting loop and five more steps
(`call_returns`). `Pc.rank` is the number of steps that a thread may still have to make.
-/

namespace SiDaqApi.Squeue

open Machine

variable {α : Type*}

/-- The thread that moves. -/
def Act.thread : Act α → ℕ
  | .callPut t _ | .callGet t _ | .alloc t _ | .go t | .timeout t => t

/-- The start of a call. -/
def Act.isCall : Act α → Bool
  | .callPut _ _ | .callGet _ _ => true
  | _ => false

/-- A step of thread `v` inside a call. -/
def Act.inCall (v : ℕ) (a : Act α) : Bool := a.thread = v && !a.isCall

/-- The number of steps in which the call returns. -/
def Act.bound : Act α → ℕ
  | .callPut _ _ => 4
  | .callGet _ wait => (wait - 1).toNat + 5
  | _ => 0

/-- The steps that a thread has still to make, at most. -/
def Pc.rank : Pc α → ℕ
  | .idle | .putDone _ | .getDone _ _ => 0
  | .putNew _ => 4
  | .putLock _ _ => 3
  | .putReturn => 2
  | .putCount => 1
  | .getWait wait => (wait - 1).toNat + 5
  | .getCount _ => 4
  | .getEnter _ => 3
  | .getLock _ => 2
  | .getData _ _ => 1

variable {que : Ptr} {s s' : State α} {v : ℕ}

theorem Pc.free_iff {c : Pc α} : c.free = true ↔ c.rank = 0 := by
  cases c <;> simp [Pc.free, Pc.rank]

/-! ## What a step does to the threads -/

/-- What a step of a thread does to the memory. -/
inductive MemStep (que : Ptr) (m : Memory α) : Memory α → Prop
  | keep : MemStep que m m
  | put (sd : Ptr) : MemStep que m (quePut que m sd)
  | get : MemStep que m (queGet m).2
  | delete (sd : Ptr) : MemStep que m (deleteSQData m sd)

/-- A step inside a call takes the rank of its thread down. -/
theorem go_moves (hgo : go que s v = some s') :
    ∃ c, s'.pc = Function.update s.pc v c ∧ c.rank < (s.pc v).rank ∧ MemStep que s.mem s'.mem := by
  cases hpc : s.pc v with
  | idle | putNew _ | putDone _ | getDone _ _ => simp [go, hpc] at hgo
  | putLock sd bytes =>
    simp only [go, hpc, Option.some.injEq] at hgo
    subst hgo
    exact ⟨.putReturn, rfl, by simp [Pc.rank], .put sd⟩
  | putReturn =>
    simp only [go, hpc, Option.some.injEq] at hgo
    subst hgo
    exact ⟨.putCount, rfl, by simp [Pc.rank], .keep⟩
  | putCount =>
    simp only [go, hpc, Option.some.injEq] at hgo
    subst hgo
    exact ⟨.putDone _, rfl, by simp [Pc.rank], .keep⟩
  | getWait wait =>
    simp only [go, hpc] at hgo
    split at hgo
    · split at hgo
      · obtain rfl := Option.some.inj hgo
        exact ⟨.getCount wait, rfl, by simp only [Pc.rank]; omega, .keep⟩
      · obtain rfl := Option.some.inj hgo
        -- one more round
        exact ⟨.getWait (wait - 1), rfl, by simp only [Pc.rank]; omega, .keep⟩
    · obtain rfl := Option.some.inj hgo
      exact ⟨.getCount wait, rfl, by simp only [Pc.rank]; omega, .keep⟩
  | getCount wait =>
    simp only [go, hpc] at hgo
    split at hgo
    · obtain rfl := Option.some.inj hgo
      exact ⟨.getEnter wait, rfl, by simp [Pc.rank], .keep⟩
    · obtain rfl := Option.some.inj hgo
      exact ⟨.getDone none 0, rfl, by simp [Pc.rank], .keep⟩
  | getEnter wait =>
    simp only [go, hpc] at hgo
    split at hgo
    · obtain rfl := Option.some.inj hgo
      exact ⟨noData wait, rfl, (by decide : 0 < 3), .keep⟩
    · obtain rfl := Option.some.inj hgo
      exact ⟨.getLock wait, rfl, by simp [Pc.rank], .keep⟩
  | getLock wait =>
    simp only [go, hpc] at hgo
    have hget : MemStep que s.mem (queGet s.mem).2 := .get
    split at hgo <;> rename_i hm <;> rw [hm] at hget
    · obtain rfl := Option.some.inj hgo
      exact ⟨noData wait, rfl, (by decide : 0 < 2), hget⟩
    · obtain rfl := Option.some.inj hgo
      exact ⟨.getData _ _, rfl, by simp [Pc.rank], hget⟩
  | getData sd item =>
    simp only [go, hpc, Option.some.injEq] at hgo
    subst hgo
    exact ⟨.getDone _ _, rfl, by simp [Pc.rank], .delete sd⟩

/-- A step moves its own thread only: to the start of a call, or on in one. -/
theorem step_rank {a : Act α} (hstep : step que s a = some s') :
    ∃ c, s'.pc = Function.update s.pc a.thread c ∧
      if a.isCall then c.rank = a.bound else c.rank < (s.pc a.thread).rank := by
  cases a with
  | callPut t bytes =>
    obtain ⟨-, rfl⟩ : _ ∧ s.goto t (.putNew bytes) = s' := by simpa [Squeue.step] using hstep
    exact ⟨.putNew bytes, rfl, rfl⟩
  | callGet t wait =>
    obtain ⟨-, rfl⟩ : _ ∧ s.goto t (.getWait wait) = s' := by simpa [Squeue.step] using hstep
    exact ⟨.getWait wait, rfl, rfl⟩
  | alloc t sd =>
    simp only [Squeue.step] at hstep
    split at hstep
    · rename_i bytes hpc
      split at hstep
      · obtain rfl := Option.some.inj hstep
        exact ⟨.putLock sd bytes, rfl, by simp [Act.isCall, Act.thread, hpc, Pc.rank]⟩
      · simp at hstep
    · simp at hstep
  | timeout t =>
    simp only [Squeue.step] at hstep
    split at hstep
    · rename_i wait hpc
      split at hstep
      · obtain rfl := Option.some.inj hstep
        refine ⟨noData wait, rfl, ?_⟩
        show 0 < (s.pc t).rank
        rw [hpc]
        exact (by decide : 0 < 2)
      · simp at hstep
    · simp at hstep
  | go t =>
    obtain ⟨c, hpc, hrank, -⟩ := go_moves hstep
    exact ⟨c, hpc, hrank⟩

/-! ## A thread inside a call can go on -/

section Alloc

@[simp] theorem Memory.nodes_modify_eq_none {m : Memory α} {a b : Ptr} {f : SQData α → SQData α} :
    (m.modify a f).nodes b = none ↔ m.nodes b = none := by
  rw [Memory.nodes_modify]
  by_cases hb : b = a
  · rw [if_pos hb, hb, Option.map_eq_none_iff]
  · rw [if_neg hb]

@[simp] theorem Memory.nodes_modify?_eq_none {m : Memory α} {o : Option Ptr} {b : Ptr}
    {f : SQData α → SQData α} : (m.modify? o f).nodes b = none ↔ m.nodes b = none := by
  cases o with
  | none => rfl
  | some a => exact Memory.nodes_modify_eq_none

/-- The locked regions allocate nothing. -/
theorem quePut_free {m : Memory α} {sd b : Ptr} :
    (quePut que m sd).nodes b = none ↔ m.nodes b = none := by
  simp only [quePut, Memory.nodes_setQueue, Memory.nodes_modify?_eq_none,
    Memory.nodes_modify_eq_none]

theorem queGet_free {m : Memory α} {b : Ptr} :
    (queGet m).2.nodes b = none ↔ m.nodes b = none := by
  unfold queGet
  split
  · rfl
  · simp only [Memory.nodes_setQueue, Memory.nodes_modify?_eq_none, Memory.nodes_modify_eq_none]

theorem deleteSQData_free {m : Memory α} {sd b : Ptr} (h : m.nodes b = none) :
    (deleteSQData m sd).nodes b = none := by
  unfold deleteSQData
  split
  · by_cases hb : b = sd
    · rw [hb]
      exact Function.update_self _ _ _
    · exact (Function.update_of_ne hb _ _).trans h
  · exact h

theorem MemStep.free {m m' : Memory α} {b : Ptr} (h : MemStep que m m') (hb : m.nodes b = none) :
    m'.nodes b = none := by
  cases h with
  | keep => exact hb
  | put sd => exact quePut_free.mpr hb
  | get => exact queGet_free.mpr hb
  | delete sd => exact deleteSQData_free hb

/-- Only so many nodes are allocated. -/
def State.Finite (s : State α) : Prop := ∃ n : ℕ, ∀ b : ℕ, n ≤ b → s.mem.nodes b = none

theorem State.Finite.of_free (h : s.Finite) {s' : State α}
    (hfree : ∀ b, s.mem.nodes b = none → s'.mem.nodes b = none) : s'.Finite := by
  obtain ⟨n, hn⟩ := h
  exact ⟨n, fun b hb => hfree b (hn b hb)⟩

theorem State.Finite.step (h : s.Finite) {a : Act α} (hstep : step que s a = some s') :
    s'.Finite := by
  cases a with
  | callPut t bytes =>
    obtain ⟨-, rfl⟩ : _ ∧ s.goto t (.putNew bytes) = s' := by simpa [Squeue.step] using hstep
    exact h
  | callGet t wait =>
    obtain ⟨-, rfl⟩ : _ ∧ s.goto t (.getWait wait) = s' := by simpa [Squeue.step] using hstep
    exact h
  | alloc t sd =>
    simp only [Squeue.step] at hstep
    split at hstep
    · split at hstep
      · obtain rfl := Option.some.inj hstep
        obtain ⟨n, hn⟩ := h
        refine ⟨max n (sd + 1), fun b hb => ?_⟩
        have hne : b ≠ sd := Nat.ne_of_gt (Nat.le_trans (Nat.le_max_right _ _) hb)
        exact (Memory.nodes_alloc_of_ne _ _ hne).trans (hn b (Nat.le_trans (Nat.le_max_left _ _) hb))
      · simp at hstep
    · simp at hstep
  | timeout t =>
    simp only [Squeue.step] at hstep
    split at hstep
    · split at hstep
      · obtain rfl := Option.some.inj hstep
        exact h
      · simp at hstep
    · simp at hstep
  | go t =>
    obtain ⟨-, -, -, hmem⟩ := go_moves hstep
    exact h.of_free fun b hb => hmem.free hb

end Alloc

/-- A thread inside a call has a step to make. -/
theorem exists_inCall (h : s.Finite) (hfree : (s.pc v).free = false) :
    ∃ a : Act α, a.inCall v ∧ (step que s a).isSome := by
  obtain ⟨n, hn⟩ := h
  cases hpc : s.pc v with
  | idle | putDone _ | getDone _ _ => simp [hpc, Pc.free] at hfree
  | putNew bytes =>
    refine ⟨.alloc v n, by simp [Act.inCall, Act.thread, Act.isCall], ?_⟩
    simp [Squeue.step, hpc, hn n (Nat.le_refl n)]
  | _ =>
    refine ⟨.go v, by simp [Act.inCall, Act.thread, Act.isCall], ?_⟩
    simp only [Squeue.step, go, hpc]
    (try split) <;> (try split) <;> rfl

/-- **A call returns within a bounded number of steps of its thread, whatever the other threads do**:
at any time the call has returned, or it has made fewer steps than its bound and can make another
one. -/
theorem call_returns (que : Ptr) (acts : List (Act α)) (s : State α)
    (hrun : run (step que) State.init acts = some s) (call : Act α) (hcall : call.isCall)
    (more : List (Act α)) (hmore : ∀ a ∈ more, a.thread = call.thread → a.isCall = false)
    (s' : State α) (hrun' : run (step que) s (call :: more) = some s') :
    ((s'.pc call.thread).free ∧ more.countP (Act.inCall call.thread) ≤ call.bound) ∨
      (more.countP (Act.inCall call.thread) < call.bound ∧
        ∃ a : Act α, a.inCall call.thread ∧ (step que s' a).isSome) := by
  have hfinite : s'.Finite := by
    have hinit : (State.init : State α).Finite := ⟨0, fun _ _ => rfl⟩
    have hstep : ∀ (s : State α) (a : Act α) (s' : State α), s.Finite → step que s a = some s' →
        s'.Finite := fun _ _ _ h hs => h.step hs
    exact run_invariant hstep (run_invariant hstep hinit hrun) hrun'
  obtain ⟨t, ht, hrun'⟩ := Option.bind_eq_some_iff.mp hrun'
  obtain ⟨c, hpc, hrank⟩ := step_rank ht
  rw [if_pos hcall] at hrank
  have hstart : (t.pc call.thread).rank = call.bound := by
    rw [hpc, Function.update_self, hrank]
  -- no step takes the rank up, and those of the thread take it down
  have hstep : ∀ (s : State α) (a : Act α) (s' : State α), True →
      (a.thread = call.thread → a.isCall = false) → step que s a = some s' →
      True ∧ (s'.pc call.thread).rank + (if a.inCall call.thread then 1 else 0) ≤
        (s.pc call.thread).rank := by
    intro s a s' _ hguard hs
    obtain ⟨c, hpc, hrank⟩ := step_rank hs
    refine ⟨trivial, ?_⟩
    rw [hpc]
    by_cases hthread : a.thread = call.thread
    · rw [hguard hthread, if_neg Bool.false_ne_true, hthread] at hrank
      rw [hthread, Function.update_self]
      split <;> omega
    · have hnot : a.inCall call.thread = false := by simp [Act.inCall, hthread]
      rw [Function.update_of_ne (Ne.symm hthread), hnot, if_neg Bool.false_ne_true]
      exact Nat.le_refl _
  obtain ⟨-, hle⟩ := run_rank hstep trivial (guarded_of_forall hmore) hrun'
  rw [hstart] at hle
  by_cases hfree : (s'.pc call.thread).free = true
  · exact Or.inl ⟨hfree, by omega⟩
  · have hpos : (s'.pc call.thread).rank ≠ 0 := fun hzero => hfree (Pc.free_iff.mpr hzero)
    exact Or.inr ⟨by omega, exists_inCall hfinite (Bool.eq_false_iff.mpr hfree)⟩

/-- A get with a time limit of three milliseconds on an empty queue, three steps on: it has not returned,
and has at most four steps left. -/
theorem call_returns_empty :
    ∃ s', run (step 1) State.init (.callGet 0 3 :: List.replicate 3 (.go 0)) = some s' ∧
      (s'.pc 0).rank = 4 ∧
      (((s'.pc 0).free ∧ List.countP (Act.inCall 0) (List.replicate 3 (.go 0 : Act UInt8)) ≤ 7) ∨
        (List.countP (Act.inCall 0) (List.replicate 3 (.go 0 : Act UInt8)) < 7 ∧
          ∃ a : Act UInt8, a.inCall 0 ∧ (step 1 s' a).isSome)) :=
  ⟨_, rfl, rfl, call_returns 1 [] State.init rfl (.callGet 0 3) rfl (List.replicate 3 (.go 0))
    (by decide) _ rfl⟩

end SiDaqApi.Squeue
