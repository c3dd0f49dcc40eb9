import SiDaqApi.Manager.Threads

/-!
# What is alive when a manager is deleted

`SiDaqTerminate` calls `SiDaqStop` and then deletes the queues, the framer and the manager.
`SiDaqStop` waits for the socket thread for half a second at most, and for the framer thread not at
all. So the deletions are safe exactly when nothing was left to wait for: `terminate_safe_iff`.
-/

namespace SiDaqApi

open Machine

variable {α : Type*}

/-- No thread of the manager is alive. -/
def State.NoThread (s : State α) : Prop :=
  (∀ t, ¬ s.SockAlive t) ∧ ∀ t, ¬ s.FramerAlive t

/-- The application is inside `SiDaqTerminate`. -/
def State.Terminating (s : State α) : Prop :=
  (∃ pc, s.api = .terminate pc) ∨ s.api = .deleting

/-- How far `SiDaqStop` is from its end. -/
def StopPc.rank : StopPc → ℕ
  | .testRun => 6
  | .testSysError => 5
  | .setStopping => 4
  | .clearRun => 3
  | .wait => 2
  | .close => 1
  | .clearSocket | .testIdle => 0

theorem stopStep_rank {s s' : State α} {pc pc' : StopPc} (h : stopStep s pc = (s', .inl pc')) :
    pc'.rank < pc.rank := by
  have hpc : (stopStep s pc).2 = .inl pc' := by rw [h]
  cases pc <;> simp only [stopStep, Sum.inl.injEq, reduceCtorEq] at hpc
  all_goals try (split at hpc)
  all_goals (subst hpc; decide)

section Steps

variable [Inhabited α] {s s' : State α}

/-- A step of `SiDaqTerminate` leaves the threads alone. -/
theorem apiStep_terminate {pc : StopPc} (hapi : s.api = .terminate pc) (ans : ApiAnswer) :
    ∃ s', apiStep s ans = some s' ∧ s'.socks = s.socks ∧ s'.framers = s.framers ∧
      ((∃ pc', s'.api = .terminate pc' ∧ pc'.rank < pc.rank) ∨ s'.api = .deleting) := by
  obtain ⟨status, param, sockets, heq⟩ := stopStep_change s pc
  rcases hstop : stopStep s pc with ⟨s₁, pc' | ok⟩
  · rw [hstop] at heq
    refine ⟨s₁.apiTo (.terminate pc'), by simp only [apiStep, hapi, hstop], ?_, ?_,
      Or.inl ⟨pc', rfl, stopStep_rank hstop⟩⟩ <;> (subst heq; rfl)
  · rw [hstop] at heq
    refine ⟨s₁.apiTo .deleting, by simp only [apiStep, hapi, hstop], ?_, ?_, Or.inr rfl⟩ <;>
      (subst heq; rfl)

/-- `SiDaqTerminate` gets to its deletions whatever the threads do, so also when they do nothing. -/
theorem run_terminate (pc : StopPc) (hapi : s.api = .terminate pc) :
    ∃ acts s', run step s acts = some s' ∧ s'.api = .deleting ∧ s'.socks = s.socks ∧
      s'.framers = s.framers := by
  induction hn : pc.rank using Nat.strongRecOn generalizing s pc with
  | ind n ih =>
    obtain ⟨s₁, hstep, hsocks, hframers, ⟨pc', hapi', hlt⟩ | hdel⟩ := apiStep_terminate hapi .ok
    · obtain ⟨acts, s', hrun, hdel, hsocks', hframers'⟩ := ih pc'.rank (hn ▸ hlt) pc' hapi' rfl
      refine ⟨.api .ok :: acts, s', ?_, hdel, hsocks'.trans hsocks, hframers'.trans hframers⟩
      rw [run_cons]
      exact Option.bind_eq_some_iff.mpr ⟨s₁, hstep, hrun⟩
    · exact ⟨[.api .ok], s₁, by simp [run_cons, step, hstep], hdel, hsocks, hframers⟩

/-- Inside `SiDaqTerminate` no thread comes to life. -/
theorem terminating_step {a : Act α} (h : s.Terminating ∧ s.NoThread) (hstep : step s a = some s') :
    s'.Terminating ∧ s'.NoThread := by
  obtain ⟨hterm, hsocks, hframers⟩ := h
  have hbusy : ∀ r, s.api ≠ .returned r := by
    rintro r hr
    rcases hterm with ⟨pc, hpc⟩ | hdel
    · simp [hpc] at hr
    · simp [hdel] at hr
  have hcall : ∀ {pc}, callStep s pc ≠ some s' := by
    intro pc hcalled
    obtain ⟨r, hr, -⟩ := callStep_begins hcalled
    exact hbusy r hr
  cases a with
  | sock t ans => exact absurd (sockStep_change hstep).1 (hsocks t)
  | framer t => exact absurd (framerStep_change hstep).1 (hframers t)
  | api ans =>
    rcases hterm with ⟨pc, hpc⟩ | hdel
    · obtain ⟨s₁, hs₁, hsocks₁, hframers₁, hnext⟩ := apiStep_terminate hpc ans
      obtain rfl := Option.some.inj (hs₁.symm.trans hstep)
      refine ⟨?_, fun t => ?_, fun t => ?_⟩
      · rcases hnext with ⟨pc', hpc', -⟩ | hdel
        · exact Or.inl ⟨pc', hpc'⟩
        · exact Or.inr hdel
      · simpa [State.SockAlive, hsocks₁] using hsocks t
      · simpa [State.FramerAlive, hframers₁] using hframers t
    · simp [step, apiStep, hdel] at hstep
  | callRun p => exact absurd hstep hcall
  | callStop => exact absurd hstep hcall
  | callReset => exact absurd hstep hcall
  | callTerminate => exact absurd hstep hcall
  | getData =>
    obtain ⟨f, fs, -, rfl⟩ := getData_takes hstep
    exact ⟨hterm, hsocks, hframers⟩
  | pause | resume =>
    simp only [step, Option.some.injEq] at hstep
    subst hstep
    exact ⟨hterm, hsocks, hframers⟩

/-- **`SiDaqTerminate` deletes nothing that a thread still uses, whatever happens during the call and
after it, if and only if no thread is alive when it is called.** -/
theorem terminate_safe_iff (hidle : s.ApiIdle) :
    (∀ acts s', run step s (.callTerminate :: acts) = some s' → s'.api = .deleting →
      (∀ t, ¬ s'.SockAlive t) ∧ ∀ t, ¬ s'.FramerAlive t) ↔
    (∀ t, ¬ s.SockAlive t) ∧ ∀ t, ¬ s.FramerAlive t := by
  obtain ⟨r, hr⟩ := hidle
  have hcall : step s .callTerminate = some (s.apiTo (.terminate .testRun)) := by
    simp [step, callStep, hr]
  constructor
  · intro hall
    obtain ⟨acts, s', hrun, hdel, hsocks, hframers⟩ :=
      run_terminate (s := s.apiTo (.terminate .testRun)) .testRun rfl
    obtain ⟨hno, hno'⟩ := hall acts s' (by rw [run_cons, hcall]; exact hrun) hdel
    refine ⟨fun t ht => hno t ?_, fun t ht => hno' t ?_⟩
    · rw [State.SockAlive, hsocks]
      exact ht
    · rw [State.FramerAlive, hframers]
      exact ht
  · intro hno acts s' hrun _
    rw [run_cons, hcall] at hrun
    exact (run_invariant (fun _ _ _ h hstep => terminating_step h hstep)
      (⟨Or.inl ⟨.testRun, rfl⟩, hno⟩ : (s.apiTo (.terminate .testRun)).Terminating ∧ _) hrun).2

end Steps

/-- `SiDaqRun`, one frame, `SiDaqStop`, and both threads end. -/
def ranAndStopped : List (Act UInt8) :=
  runCall byteHeader.toRunParams 0 0 ++ recvActs 0 (.of [3, 0, 6, 9]) ++
    List.replicate 6 (.framer 0) ++ [.callStop] ++ List.replicate 6 (.api .ok) ++
    [.sock 0 .ok, .sock 0 .ok, .sock 0 (.error 10038), .sock 0 .ok, .sock 0 .ok, .sock 0 .ok] ++
    List.replicate 8 (.framer 0)

/-- This manager can be terminated: both its threads have been, and are gone. -/
theorem terminate_ranAndStopped :
    ∃ s, run step State.init ranAndStopped = some s ∧ s.framed = [[3, 0, 6, 9]] ∧
      ((∀ acts s', run step s (.callTerminate :: acts) = some s' →
        s'.api = .deleting → (∀ t, ¬ s'.SockAlive t) ∧ ∀ t, ¬ s'.FramerAlive t) ↔
      (∀ t, ¬ s.SockAlive t) ∧ ∀ t, ¬ s.FramerAlive t) ∧ s.NoThread := by
  refine ⟨_, rfl, rfl, terminate_safe_iff ⟨_, rfl⟩, fun t => ?_, fun t => ?_⟩
  · cases t <;> exact not_not.mpr rfl
  · cases t <;> exact not_not.mpr rfl

/-- `SiDaqTerminate` right after `SiDaqRun`. -/
def runTerminate : List (Act UInt8) :=
  runCall byteHeader.toRunParams 0 0 ++ [.callTerminate] ++ List.replicate 6 (.api .ok)

/-- Both threads of the run are alive when the deletions begin. -/
theorem runTerminate_alive :
    ∃ s, run step State.init runTerminate = some s ∧ s.api = .deleting ∧ s.SockAlive 0 ∧
      s.FramerAlive 0 := by
  refine ⟨_, rfl, rfl, ?_, ?_⟩
  · rw [State.sockAlive_iff]
    rfl
  · rw [State.framerAlive_iff]
    rfl

end SiDaqApi
