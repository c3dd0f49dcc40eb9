import SiDaqApi.Manager.Threads

/-!
# What a step does to socket handles

The socket thread, the framer thread and `SiDaqStop` may each close the socket of a run: the first
its own copy of the handle, the others `device_socket`. Each `closesocket` is followed by the
assignment of `INVALID_SOCKET`, which is a step of its own. `SockUse`, `FramerUse` and `ApiUse` list
what a step does to the handles, with the positions that matter around it.
-/

namespace SiDaqApi

variable {α : Type*}

/-! ## Positions around `closesocket` -/

/-- About to close `device_socket`. -/
def StopPc.closes : StopPc → Bool
  | .close => true
  | _ => false

/-- `device_socket` has been closed, and is about to become `INVALID_SOCKET`. -/
def StopPc.clears : StopPc → Bool
  | .clearSocket => true
  | _ => false

/-- About to close `device_socket`. -/
def FramerPc.closes : FramerPc α → Bool
  | .close => true
  | .stop pc => pc.closes
  | _ => false

/-- `device_socket` has been closed, and is about to become `INVALID_SOCKET`. -/
def FramerPc.clears : FramerPc α → Bool
  | .clearSocket => true
  | .stop pc => pc.clears
  | _ => false

/-- About to close `device_socket`. -/
def ApiPc.closes : ApiPc α → Bool
  | .stop pc => pc.closes
  | .terminate pc => pc.closes
  | _ => false

/-- `device_socket` has been closed, and is about to become `INVALID_SOCKET`. -/
def ApiPc.clears : ApiPc α → Bool
  | .stop pc => pc.clears
  | .terminate pc => pc.clears
  | _ => false

/-- In the receive loop, which ends with a `closesocket` unless the thread is paused. -/
def SockPc.receives : SockPc α → Bool
  | .testPause | .testRunPaused | .recv | .put _ | .testLimit | .queueError | .close => true
  | _ => false

/-- The handle has been closed, and is about to become `INVALID_SOCKET`. -/
def SockPc.clears : SockPc α → Bool
  | .clearSocket => true
  | _ => false

/-- About to assign a new handle to `device_socket`. -/
def ApiPc.sets : ApiPc α → Bool
  | .runSetSocket _ _ => true
  | _ => false

/-- The handle of the `SiDaqRun` in progress, before it becomes `device_socket`. -/
def ApiPc.holds : ApiPc α → Option ℕ
  | .runAddress _ h | .runConnect _ h | .runSockopt _ h | .runSetSocket _ h => some h
  | _ => none

/-- `SiDaqRun` has assigned `device_socket`, and its socket thread does not exist yet. -/
def ApiPc.hasSet : ApiPc α → Bool
  | .runSetRun _ | .runSetParam _ | .runCreateSock _ => true
  | _ => false

/-- A thread in its receive loop exists, has its handle, and has closed nothing. -/
theorem SockPc.of_receives {pc : SockPc α} (h : pc.receives = true) :
    pc ≠ .off ∧ pc ≠ .start ∧ pc.clears = false := by
  cases pc <;> simp [SockPc.receives, SockPc.clears] at h ⊢

/-! ## Open handles -/

theorem Sockets.isOpen_some {s : Sockets} {h : ℕ} :
    s.isOpen (some h) = true ↔ 1 ≤ h ∧ h ≤ s.opened ∧ h ∉ s.closed := by
  simp [Sockets.isOpen, and_assoc]

@[simp] theorem Sockets.isOpen_none {s : Sockets} : s.isOpen none = false := rfl

@[simp] theorem Sockets.opened_close (s : Sockets) (o : Option ℕ) :
    (s.close o).opened = s.opened := by
  cases o <;> rfl

theorem Sockets.mem_close {s : Sockets} {o : Option ℕ} {h : ℕ} :
    h ∈ (s.close o).closed ↔ h ∈ s.closed ∨ o = some h := by
  cases o with
  | none => simp [Sockets.close]
  | some k => simp [Sockets.close, eq_comm]

/-- Closing something else leaves a handle open. -/
theorem Sockets.isOpen_close {s : Sockets} {o c : Option ℕ} :
    (s.close o).isOpen c = true ↔ s.isOpen c = true ∧ c ≠ o := by
  cases c with
  | none => simp
  | some h =>
    rw [Sockets.isOpen_some, Sockets.isOpen_some, Sockets.mem_close, Sockets.opened_close,
      not_or, ne_comm, and_assoc, and_assoc]

/-- Closing an open handle keeps every handle closed at most once. -/
theorem Sockets.count_close {s : Sockets} {o : Option ℕ}
    (hfresh : ∀ k, o = some k → 1 ≤ k → k ∉ s.closed)
    (honce : ∀ h, 1 ≤ h → s.closed.count h ≤ 1) {h : ℕ} (hh : 1 ≤ h) :
    (s.close o).closed.count h ≤ 1 := by
  cases o with
  | none => exact honce h hh
  | some k =>
    simp only [Sockets.close, List.count_append]
    by_cases hk : k = h
    · subst hk
      simp [List.count_eq_zero_of_not_mem (hfresh k rfl hh)]
    · simpa [List.count_singleton, hk] using honce h hh

/-! ## What a step does to handles -/

/-- What a step of socket thread `t` does to handles. -/
inductive SockUse (s : State α) (t : ℕ) (s' : State α) : Prop
  /-- The thread exits. -/
  | exit (th : SockThread α) (hsocks : s'.socks = Function.update s.socks t th) (hpc : th.pc = .off)
      (hclears : (s.socks t).pc.clears = false) (hsockets : s'.sockets = s.sockets)
      (hdevice : s'.sockParam.deviceSocket = s.sockParam.deviceSocket)
  /-- The thread copies `device_socket`. -/
  | copy (th : SockThread α) (hsocks : s'.socks = Function.update s.socks t th)
      (hstart : (s.socks t).pc = .start) (hpc : th.pc = .clearError)
      (hcopy : th.deviceSocket = s.sockParam.deviceSocket) (hsockets : s'.sockets = s.sockets)
      (hdevice : s'.sockParam.deviceSocket = s.sockParam.deviceSocket)
  /-- The thread goes on with its handle; it enters the receive loop only with an open one. -/
  | keep (th : SockThread α) (hsocks : s'.socks = Function.update s.socks t th)
      (hstart : (s.socks t).pc ≠ .start) (hclears : (s.socks t).pc.clears = false)
      (hpc : th.pc ≠ .start) (hpc' : th.pc.clears = false)
      (hcopy : th.deviceSocket = (s.socks t).deviceSocket)
      (hreceives : th.pc.receives = true →
        (s.socks t).pc.receives = true ∨ s.sockets.isOpen (s.socks t).deviceSocket = true)
      (hsockets : s'.sockets = s.sockets)
      (hdevice : s'.sockParam.deviceSocket = s.sockParam.deviceSocket)
  /-- The thread closes its handle. -/
  | close (th : SockThread α) (hsocks : s'.socks = Function.update s.socks t th)
      (hreceives : (s.socks t).pc.receives = true) (hpc : th.pc = .clearSocket)
      (hcopy : th.deviceSocket = (s.socks t).deviceSocket)
      (hsockets : s'.sockets = s.sockets.close (s.socks t).deviceSocket)
      (hdevice : s'.sockParam.deviceSocket = s.sockParam.deviceSocket)
  /-- The thread assigns `INVALID_SOCKET`. -/
  | clear (th : SockThread α) (hsocks : s'.socks = Function.update s.socks t th)
      (hclears : (s.socks t).pc = .clearSocket) (hpc : th.pc = .testRun)
      (hcopy : th.deviceSocket = none) (hsockets : s'.sockets = s.sockets)
      (hdevice : s'.sockParam.deviceSocket = none)

theorem selectStep_use {s s' : State α} {t : ℕ} {ans : SockAnswer α}
    (hpc : (s.socks t).pc = .select) (h : selectStep s t ans = some s') : SockUse s t s' := by
  have hclears : (s.socks t).pc.clears = false := by simp [hpc, SockPc.clears]
  unfold selectStep at h
  split at h
  · split at h
    · rename_i hopen
      obtain rfl := Option.some.inj h
      exact .keep _ rfl (by simp [hpc]) hclears (by simp) rfl rfl (fun _ => Or.inr hopen) rfl rfl
    · simp at h
  · split at h
    · obtain rfl := Option.some.inj h
      exact .keep _ rfl (by simp [hpc]) hclears (by simp) rfl rfl (by simp [SockPc.receives])
        rfl rfl
    · simp at h
  · obtain rfl := Option.some.inj h
    exact .exit _ rfl rfl hclears rfl rfl
  · simp at h

/-- The thread goes on inside its receive loop, or leaves it paused. -/
theorem SockUse.of_receives {s s' : State α} {t : ℕ} (hpc : (s.socks t).pc.receives = true)
    (th : SockThread α) (hsocks : s'.socks = Function.update s.socks t th)
    (hth : th.pc.receives = true ∨ th.pc = .testRun)
    (hcopy : th.deviceSocket = (s.socks t).deviceSocket) (hsockets : s'.sockets = s.sockets)
    (hdevice : s'.sockParam.deviceSocket = s.sockParam.deviceSocket) : SockUse s t s' := by
  obtain ⟨-, hstart, hclears⟩ := SockPc.of_receives hpc
  have hth' : th.pc ≠ .start ∧ th.pc.clears = false := by
    rcases hth with hth | hth
    · exact (SockPc.of_receives hth).2
    · simp [hth, SockPc.clears]
  exact .keep th hsocks hstart hclears hth'.1 hth'.2 hcopy (fun _ => Or.inl hpc) hsockets hdevice

theorem recvStep_use {s s' : State α} {t : ℕ} {ans : SockAnswer α}
    (hpc : (s.socks t).pc = .recv) (h : recvStep s t ans = some s') : SockUse s t s' := by
  have hreceives : (s.socks t).pc.receives = true := by simp [hpc, SockPc.receives]
  unfold recvStep at h
  split at h
  · split at h
    · obtain rfl := Option.some.inj h
      exact .of_receives hreceives _ rfl (Or.inl rfl) rfl rfl rfl
    · simp at h
  · split at h
    · obtain rfl := Option.some.inj h
      exact .of_receives hreceives _ rfl (Or.inl rfl) rfl rfl rfl
    · simp at h
  · split at h
    · split at h
      · obtain rfl := Option.some.inj h
        exact .of_receives hreceives _ rfl (Or.inl rfl) rfl rfl rfl
      · simp at h
    · obtain rfl := Option.some.inj h
      exact .of_receives hreceives _ rfl (Or.inl rfl) rfl rfl rfl
  · simp at h

/-- **Every step of a socket thread treats handles in one of these ways.** -/
theorem sockStep_use {s s' : State α} {t : ℕ} {ans : SockAnswer α}
    (h : sockStep s t ans = some s') : SockUse s t s' := by
  unfold sockStep at h
  cases hpc : (s.socks t).pc with
  | off => simp [hpc] at h
  | start =>
    simp only [hpc] at h
    split at h
    · obtain rfl := Option.some.inj h
      exact .exit _ rfl rfl (by simp [hpc, SockPc.clears]) rfl rfl
    · obtain rfl := Option.some.inj h
      exact .copy _ rfl hpc rfl rfl rfl rfl
  | select =>
    simp only [hpc] at h
    exact selectStep_use hpc h
  | recv =>
    simp only [hpc] at h
    exact recvStep_use hpc h
  | testRun =>
    simp only [hpc, Option.some.injEq] at h
    subst h
    split
    · exact .keep _ rfl (by simp [hpc]) (by simp [hpc, SockPc.clears]) (by simp) rfl rfl
        (by simp [SockPc.receives]) rfl rfl
    · exact .exit _ rfl rfl (by simp [hpc, SockPc.clears]) rfl rfl
  | clearError | clearPause =>
    simp only [hpc, Option.some.injEq] at h
    subst h
    exact .keep _ rfl (by simp [hpc]) (by simp [hpc, SockPc.clears]) (by simp) rfl rfl
      (by simp [SockPc.receives]) rfl rfl
  | testPause | testRunPaused | testLimit =>
    simp only [hpc, Option.some.injEq] at h
    subst h
    refine .of_receives (by simp [hpc, SockPc.receives]) _ rfl ?_ rfl rfl rfl
    dsimp only
    split <;> simp [SockPc.receives]
  | put c | queueError =>
    simp only [hpc, Option.some.injEq] at h
    subst h
    exact .of_receives (by simp [hpc, SockPc.receives]) _ rfl (Or.inl rfl) rfl rfl rfl
  | close =>
    simp only [hpc, Option.some.injEq] at h
    subst h
    exact .close _ rfl (by simp [hpc, SockPc.receives]) rfl rfl rfl rfl
  | clearSocket =>
    simp only [hpc, Option.some.injEq] at h
    subst h
    exact .clear _ rfl hpc rfl rfl rfl rfl

/-- What a step of framer thread `t` does to handles. -/
inductive FramerUse (s : State α) (t : ℕ) (s' : State α) : Prop
  | keep (pc : FramerPc α) (hcloses : (s.framers t).closes = false)
      (hclears : (s.framers t).clears = false) (hpc : pc.clears = false)
      (hframers : s'.framers = Function.update s.framers t pc) (hsockets : s'.sockets = s.sockets)
      (hdevice : s'.sockParam.deviceSocket = s.sockParam.deviceSocket)
  /-- The thread closes `device_socket`. -/
  | close (pc : FramerPc α) (hcloses : (s.framers t).closes = true) (hpc : pc.clears = true)
      (hframers : s'.framers = Function.update s.framers t pc)
      (hsockets : s'.sockets = s.sockets.close s.sockParam.deviceSocket)
      (hdevice : s'.sockParam.deviceSocket = s.sockParam.deviceSocket)
  /-- The thread assigns `INVALID_SOCKET`. -/
  | clear (pc : FramerPc α) (hcloses : (s.framers t).closes = false)
      (hclears : (s.framers t).clears = true) (hpc : pc.clears = false)
      (hframers : s'.framers = Function.update s.framers t pc) (hsockets : s'.sockets = s.sockets)
      (hdevice : s'.sockParam.deviceSocket = none)

/-- What a step of an API call does to handles. -/
inductive ApiUse (s s' : State α) : Prop
  | keep (hcloses : s.api.closes = false) (hclears : s.api.clears = false)
      (hset : ∀ p h, s.api ≠ .runSetSocket p h) (hpc : s'.api.clears = false)
      (hholds : ∀ h, s'.api.holds = some h → s.api.holds = some h)
      (hhasSet : s'.api.hasSet = true → s.api.hasSet = true) (hsockets : s'.sockets = s.sockets)
      (hdevice : s'.sockParam.deviceSocket = s.sockParam.deviceSocket)
  /-- `SiDaqRun` opens a socket. -/
  | opens (p : RunParams α) (hapi : s.api = .runSocket p)
      (hapi' : s'.api = .runAddress p (s.sockets.opened + 1))
      (hsockets : s'.sockets = ⟨s.sockets.opened + 1, s.sockets.closed⟩)
      (hdevice : s'.sockParam.deviceSocket = s.sockParam.deviceSocket)
  /-- `SiDaqRun` assigns `device_socket`. -/
  | sets (p : RunParams α) (h : ℕ) (hapi : s.api = .runSetSocket p h)
      (hapi' : s'.api = .runSetRun p) (hsockets : s'.sockets = s.sockets)
      (hdevice : s'.sockParam.deviceSocket = some h)
  /-- `SiDaqStop` closes `device_socket`. -/
  | close (hcloses : s.api.closes = true) (hpc : s'.api.clears = true)
      (hholds : s'.api.holds = none) (hhasSet : s'.api.hasSet = false)
      (hsockets : s'.sockets = s.sockets.close s.sockParam.deviceSocket)
      (hdevice : s'.sockParam.deviceSocket = s.sockParam.deviceSocket)
  /-- `SiDaqStop` assigns `INVALID_SOCKET`. -/
  | clear (hclears : s.api.clears = true) (hpc : s'.api.clears = false)
      (hholds : s'.api.holds = none) (hhasSet : s'.api.hasSet = false)
      (hsockets : s'.sockets = s.sockets) (hdevice : s'.sockParam.deviceSocket = none)

/-- What `SiDaqStop` does to handles: the two steps that matter, and the others. -/
theorem stopStep_keeps (s : State α) {pc : StopPc} (hcloses : pc.closes = false)
    (hclears : pc.clears = false) : (stopStep s pc).1.sockets = s.sockets ∧
      (stopStep s pc).1.sockParam.deviceSocket = s.sockParam.deviceSocket ∧
      ∀ pc', (stopStep s pc).2 = .inl pc' → pc'.clears = false := by
  cases pc with
  | close => simp [StopPc.closes] at hcloses
  | clearSocket => simp [StopPc.clears] at hclears
  | testRun =>
    refine ⟨rfl, rfl, fun pc' h => ?_⟩
    obtain rfl := Sum.inl.inj h
    split <;> rfl
  | testSysError =>
    refine ⟨rfl, rfl, fun pc' h => ?_⟩
    obtain rfl := Sum.inl.inj h
    split <;> rfl
  | testIdle => exact ⟨rfl, rfl, by simp [stopStep]⟩
  | setStopping | clearRun | wait =>
    refine ⟨rfl, rfl, fun pc' h => ?_⟩
    obtain rfl := Sum.inl.inj h
    rfl

/-- A step of an API call that has no handle afterwards. -/
theorem ApiUse.of_idle {s s' : State α} (hcloses : s.api.closes = false)
    (hclears : s.api.clears = false) (hset : ∀ p h, s.api ≠ .runSetSocket p h)
    (hpc : s'.api.clears = false) (hholds : s'.api.holds = none) (hhasSet : s'.api.hasSet = false)
    (hsockets : s'.sockets = s.sockets)
    (hdevice : s'.sockParam.deviceSocket = s.sockParam.deviceSocket) : ApiUse s s' :=
  .keep hcloses hclears hset hpc (by simp [hholds]) (by simp [hhasSet]) hsockets hdevice

section Steps

variable [Inhabited α] {s s' : State α} {t : ℕ}

/-- **Every step of a framer thread treats handles in one of these ways.** -/
theorem framerStep_use (h : framerStep s t = some s') : FramerUse s t s' := by
  cases hpc : s.framers t with
  | off => simp [framerStep, hpc] at h
  | stop pc =>
    simp only [framerStep, hpc] at h
    -- inside `SiDaqStop`, which the thread calls when the queue is full
    by_cases hcloses : pc.closes = true
    · cases pc <;> simp [StopPc.closes] at hcloses
      obtain rfl := Option.some.inj h
      exact .close _ (by simp [hpc, FramerPc.closes, StopPc.closes]) rfl rfl rfl rfl
    · by_cases hclears : pc.clears = true
      · cases pc <;> simp [StopPc.clears] at hclears
        obtain rfl := Option.some.inj h
        exact .clear _ (by simp [hpc, FramerPc.closes, StopPc.closes])
          (by simp [hpc, FramerPc.clears, StopPc.clears]) rfl rfl rfl rfl
      · rw [Bool.not_eq_true] at hcloses hclears
        obtain ⟨hsockets, hdevice, hnext⟩ := stopStep_keeps s hcloses hclears
        have hframers := stopStep_framers s pc
        rcases hstop : stopStep s pc with ⟨s₁, pc₁ | ok⟩ <;>
          rw [hstop] at h hsockets hdevice hnext hframers <;> obtain rfl := Option.some.inj h
        · exact .keep (.stop pc₁) (by simpa [hpc, FramerPc.closes] using hcloses)
            (by simpa [hpc, FramerPc.clears] using hclears) (hnext pc₁ rfl)
            (by rw [← hframers]; rfl) hsockets hdevice
        · exact .keep .off (by simpa [hpc, FramerPc.closes] using hcloses)
            (by simpa [hpc, FramerPc.clears] using hclears) rfl
            (by rw [← hframers]; rfl) hsockets hdevice
  | close =>
    simp only [framerStep, hpc, Option.some.injEq] at h
    subst h
    exact .close _ (by simp [hpc, FramerPc.closes]) rfl rfl rfl rfl
  | clearSocket =>
    simp only [framerStep, hpc, Option.some.injEq] at h
    subst h
    exact .clear _ (by simp [hpc, FramerPc.closes]) (by simp [hpc, FramerPc.clears]) rfl rfl rfl rfl
  | recv c =>
    simp only [framerStep, hpc] at h
    obtain ⟨fr, -, h⟩ := Option.bind_eq_some_iff.mp h
    obtain ⟨o, -, rfl⟩ := Option.map_eq_some_iff.mp h
    exact .keep .checkError (by simp [hpc, FramerPc.closes]) (by simp [hpc, FramerPc.clears]) rfl
      rfl rfl rfl
  | checkError =>
    simp only [framerStep, hpc] at h
    obtain ⟨fr, -, rfl⟩ := Option.map_eq_some_iff.mp h
    have hcloses : (s.framers t).closes = false := by simp [hpc, FramerPc.closes]
    have hclears : (s.framers t).clears = false := by simp [hpc, FramerPc.clears]
    unfold checkErrorStep
    split
    · split
      · exact .keep .sysError hcloses hclears rfl rfl rfl rfl
      · split
        · exact .keep (.queueSysError false) hcloses hclears rfl rfl rfl rfl
        · exact .keep .testIdle hcloses hclears rfl rfl rfl rfl
    · exact .keep .testIdle hcloses hclears rfl rfl rfl rfl
  | testQueueError =>
    simp only [framerStep, hpc] at h
    obtain ⟨fr, -, rfl⟩ := Option.map_eq_some_iff.mp h
    split
    · exact .keep (.queueSysError true) (by simp [hpc, FramerPc.closes])
        (by simp [hpc, FramerPc.clears]) rfl rfl rfl rfl
    · exact .keep .flush (by simp [hpc, FramerPc.closes]) (by simp [hpc, FramerPc.clears]) rfl
        rfl rfl rfl
  | flush =>
    simp only [framerStep, hpc] at h
    obtain ⟨fr, -, rfl⟩ := Option.map_eq_some_iff.mp h
    unfold flushStep
    split <;>
      exact .keep .exit (by simp [hpc, FramerPc.closes]) (by simp [hpc, FramerPc.clears]) rfl rfl
        rfl rfl
  | get =>
    simp only [framerStep, hpc] at h
    split at h
    · obtain rfl := Option.some.inj h
      exact .keep .empty (by simp [hpc, FramerPc.closes]) (by simp [hpc, FramerPc.clears]) rfl rfl
        rfl rfl
    · obtain rfl := Option.some.inj h
      exact .keep (.recv _) (by simp [hpc, FramerPc.closes]) (by simp [hpc, FramerPc.clears]) rfl
        rfl rfl rfl
  | start | setError | exit =>
    simp only [framerStep, hpc] at h
    obtain ⟨fr, -, rfl⟩ := Option.map_eq_some_iff.mp h
    refine .keep _ (by simp [hpc, FramerPc.closes]) (by simp [hpc, FramerPc.clears]) ?_ rfl rfl rfl
    try split
    all_goals rfl
  | testIdle | testReset | sysError | clearRun | wait | queueSysError atEnd | setQueueError atEnd
  | empty | testSocket | testExitReset | setIdle =>
    simp only [framerStep, hpc, Option.some.injEq] at h
    subst h
    refine .keep _ (by simp [hpc, FramerPc.closes]) (by simp [hpc, FramerPc.clears]) ?_ rfl rfl rfl
    try split
    all_goals rfl

omit [Inhabited α] in
/-- The socket calls of `SiDaqRun`: one of them opens a socket, the others pass it on. -/
theorem connectStep_use {ans : ApiAnswer} {pc : ApiPc α} (hapi : s.api = pc)
    (h : connectStep s ans pc = some s') : ApiUse s s' := by
  have hpc : pc.closes = false ∧ pc.clears = false ∧ ∀ p h, pc ≠ .runSetSocket p h := by
    unfold connectStep at h
    split at h <;> simp [ApiPc.closes, ApiPc.clears] at h ⊢
  obtain ⟨hcloses, hclears, hset⟩ := hpc
  rw [← hapi] at hcloses hclears hset
  -- the call goes on with the handle, or fails without it
  have hkeep : ∀ {pc' : ApiPc α}, pc'.clears = false → pc'.hasSet = false →
      (∀ h, pc'.holds = some h → pc.holds = some h) → ApiUse s (s.apiTo pc') := by
    intro pc' hpc' hhasSet hholds
    refine .keep hcloses hclears hset hpc' (hapi ▸ hholds) (fun htrue => ?_) rfl rfl
    exact absurd (hhasSet.symm.trans htrue) (by simp)
  unfold connectStep at h
  split at h
  · split at h <;> obtain rfl := Option.some.inj h
    · exact hkeep rfl rfl (by simp [ApiPc.holds])
    · exact .opens _ hapi rfl rfl rfl
  · split at h <;> obtain rfl := Option.some.inj h
    · exact hkeep rfl rfl (by simp [ApiPc.holds])
    · exact hkeep rfl rfl (by simp [ApiPc.holds])
    · exact hkeep rfl rfl fun _ => id
  · split at h
    · split at h <;> obtain rfl := Option.some.inj h
      · exact hkeep rfl rfl fun _ => id
      · exact hkeep rfl rfl (by simp [ApiPc.holds])
    · obtain rfl := Option.some.inj h
      exact hkeep rfl rfl fun _ => id
  · split at h
    · split at h <;> obtain rfl := Option.some.inj h
      · exact hkeep rfl rfl (by simp [ApiPc.holds])
      · exact hkeep rfl rfl fun _ => id
    · obtain rfl := Option.some.inj h
      exact hkeep rfl rfl fun _ => id
  · simp at h

omit [Inhabited α] in
/-- A step of `SiDaqStop` that goes on at `next pc'`, or ends. -/
theorem ApiUse.of_stop {pc : StopPc} {next : StopPc → ApiPc α} {last : Bool → ApiPc α}
    (hcloses : s.api.closes = pc.closes) (hclears : s.api.clears = pc.clears)
    (hset : ∀ p h, s.api ≠ .runSetSocket p h) (hnext : ∀ pc', (next pc').clears = pc'.clears)
    (hlast : ∀ ok, (last ok).clears = false) (hholds : ∀ pc', (next pc').holds = none)
    (hholds' : ∀ ok, (last ok).holds = none) (hhasSet : ∀ pc', (next pc').hasSet = false)
    (hhasSet' : ∀ ok, (last ok).hasSet = false) :
    ApiUse s ((stopStep s pc).1.apiTo ((stopStep s pc).2.elim next last)) := by
  by_cases hpc : pc.closes = true
  · cases pc <;> simp [StopPc.closes] at hpc
    exact .close hcloses (hnext _) (hholds _) (hhasSet _) rfl rfl
  by_cases hpc' : pc.clears = true
  · cases pc <;> simp [StopPc.clears] at hpc'
    exact .clear hclears (hlast _) (hholds' _) (hhasSet' _) rfl rfl
  rw [Bool.not_eq_true] at hpc hpc'
  obtain ⟨hsockets, hdevice, hkeep⟩ := stopStep_keeps s hpc hpc'
  -- the other steps of `SiDaqStop` leave handles alone
  cases hstop : (stopStep s pc).2 with
  | inl q =>
    exact .keep (hcloses.trans hpc) (hclears.trans hpc') hset ((hnext q).trans (hkeep q hstop))
      (fun h hh => by simp [State.apiTo, hholds] at hh)
      (fun hh => by simp [State.apiTo, hhasSet] at hh) hsockets hdevice
  | inr ok =>
    exact .keep (hcloses.trans hpc) (hclears.trans hpc') hset (hlast ok)
      (fun h hh => by simp [State.apiTo, hholds'] at hh)
      (fun hh => by simp [State.apiTo, hhasSet'] at hh) hsockets hdevice

/-- **Every step of an API call treats handles in one of these ways.** -/
theorem apiStep_use {ans : ApiAnswer} (h : apiStep s ans = some s') : ApiUse s s' := by
  cases hapi : s.api with
  | returned r => simp [apiStep, hapi] at h
  | deleting => simp [apiStep, hapi] at h
  | runSocket p | runAddress p hd | runConnect p hd | runSockopt p hd =>
    simp only [apiStep, hapi] at h
    exact connectStep_use hapi h
  | stop pc =>
    have hs' : s' = (stopStep s pc).1.apiTo
        ((stopStep s pc).2.elim .stop fun ok => .returned (.stop ok)) := by
      simp only [apiStep, hapi] at h
      rcases hstop : stopStep s pc with ⟨s₁, pc₁ | ok⟩ <;> rw [hstop] at h <;>
        exact (Option.some.inj h).symm
    rw [hs']
    exact .of_stop (by rw [hapi]; rfl) (by rw [hapi]; rfl) (by simp [hapi]) (fun _ => rfl)
      (fun _ => rfl) (fun _ => rfl) (fun _ => rfl) (fun _ => rfl) fun _ => rfl
  | terminate pc =>
    have hs' : s' = (stopStep s pc).1.apiTo
        ((stopStep s pc).2.elim .terminate fun _ => .deleting) := by
      simp only [apiStep, hapi] at h
      rcases hstop : stopStep s pc with ⟨s₁, pc₁ | ok⟩ <;> rw [hstop] at h <;>
        exact (Option.some.inj h).symm
    rw [hs']
    exact .of_stop (by rw [hapi]; rfl) (by rw [hapi]; rfl) (by simp [hapi]) (fun _ => rfl)
      (fun _ => rfl) (fun _ => rfl) (fun _ => rfl) (fun _ => rfl) fun _ => rfl
  | runSetSocket p hd =>
    simp only [apiStep, hapi, Option.some.injEq] at h
    subst h
    exact .sets p hd hapi rfl rfl rfl
  | runCreateSock p | runCreateFramer =>
    simp only [apiStep, hapi] at h
    split at h
    · split at h
      · obtain rfl := Option.some.inj h
        exact .of_idle (by simp [hapi, ApiPc.closes]) (by simp [hapi, ApiPc.clears]) (by simp [hapi])
          rfl rfl rfl rfl rfl
      · simp at h
    · simp at h
  | resetRecv status | resetEvent status =>
    simp only [apiStep, hapi] at h
    split at h
    · obtain rfl := Option.some.inj h
      exact .of_idle (by simp [hapi, ApiPc.closes]) (by simp [hapi, ApiPc.clears]) (by simp [hapi])
        rfl rfl rfl rfl rfl
    · obtain rfl := Option.some.inj h
      exact .of_idle (by simp [hapi, ApiPc.closes]) (by simp [hapi, ApiPc.clears]) (by simp [hapi])
        rfl rfl rfl rfl rfl
  | runSetRun p | runSetParam p =>
    simp only [apiStep, hapi, Option.some.injEq] at h
    subst h
    exact .keep (by simp [hapi, ApiPc.closes]) (by simp [hapi, ApiPc.clears]) (by simp [hapi])
      rfl (by simp [State.apiTo, ApiPc.holds]) (fun _ => by simp [hapi, ApiPc.hasSet]) rfl rfl
  | runBegin p | resetRead =>
    simp only [apiStep, hapi, Option.some.injEq] at h
    subst h
    split <;>
      exact .of_idle (by simp [hapi, ApiPc.closes]) (by simp [hapi, ApiPc.clears]) (by simp [hapi])
        rfl rfl rfl rfl rfl
  | runFail e | runFailStatus | runConfigure p | runSetStatus | runReturn | resetSet status
  | resetRestore status =>
    simp only [apiStep, hapi, Option.some.injEq] at h
    subst h
    exact .of_idle (by simp [hapi, ApiPc.closes]) (by simp [hapi, ApiPc.clears]) (by simp [hapi])
      rfl rfl rfl rfl rfl

end Steps

end SiDaqApi
