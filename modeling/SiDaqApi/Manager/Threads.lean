import SiDaqApi.Manager.Step

/-!
# The threads of a manager

What a step of one party changes, and what it leaves to the others (`SockEffect`, `FramerEffect`,
`ApiChange`), and a result about which threads are alive. `one_run_iff`: at most one socket thread and one framer thread
are alive throughout a run of the system if and only if `SiDaqRun` starts its threads only when those
of the earlier run have exited.
-/

namespace SiDaqApi

open Machine

variable {α : Type*}

/-! ## What a step changes -/

@[simp] theorem stopStep_framers (s : State α) (pc : StopPc) :
    (stopStep s pc).1.framers = s.framers := by
  cases pc <;> rfl

/-- A call begins where the one before it has returned. -/
theorem callStep_begins {s s' : State α} {pc : ApiPc α} (h : callStep s pc = some s') :
    ∃ r, s.api = .returned r ∧ s' = s.apiTo pc := by
  unfold callStep at h
  split at h
  · rename_i r hr
    exact ⟨r, hr, (Option.some.inj h).symm⟩
  · simp at h

/-- `SiDaqGetData` takes the oldest frame of the event queue. -/
theorem getData_takes [Inhabited α] {s s' : State α} (h : step s .getData = some s') :
    ∃ f fs, s.eventFrame = f :: fs ∧
      s' = { s with eventFrame := fs, got := s.got ++ [f] } := by
  simp only [step] at h
  split at h
  · simp at h
  · rename_i f fs hqueue
    exact ⟨f, fs, hqueue, (Option.some.inj h).symm⟩

/-- What the end of a run writes of the parameters: an error code, or it clears `_run` or the handle. -/
inductive SockThreadLparam.Ends (p : SockThreadLparam) : SockThreadLparam → Prop
  | nothing : p.Ends p
  | lastError (code : ℤ) : p.Ends { p with lastError := code }
  | run : p.Ends { p with run := false }
  | deviceSocket : p.Ends { p with deviceSocket := none }

namespace SockThreadLparam.Ends

variable {p p' : SockThreadLparam}

theorem run_false (h : p.Ends p') (hrun : p.run = false) : p'.run = false := by
  cases h <;> first | exact hrun | rfl

theorem pauseFlg (h : p.Ends p') : p'.pauseFlg = p.pauseFlg := by
  cases h <;> rfl

theorem queueLimit (h : p.Ends p') : p'.queueLimit = p.queueLimit := by
  cases h <;> rfl

end SockThreadLparam.Ends

/-- A state that differs from `s` only in what a step of socket thread `t` may change. -/
def SockChange (s : State α) (t : ℕ) (s' : State α) : Prop :=
  ∃ th param queue sockets received put,
    s' = { s.setSock t th with
      sockParam := param, recvQueue := queue, sockets := sockets, received := received, put := put }

/-- `select` and `recv` may record an error code. -/
theorem selectStep_change {s s' : State α} {t : ℕ} {ans : SockAnswer α}
    (h : selectStep s t ans = some s') :
    SockChange s t s' ∧ ∃ code, s'.sockParam = { s.sockParam with lastError := code } := by
  unfold selectStep at h
  split at h
  · split at h
    · obtain rfl := Option.some.inj h
      exact ⟨⟨_, _, _, _, _, _, rfl⟩, s.sockParam.lastError, rfl⟩
    · simp at h
  · split at h
    · obtain rfl := Option.some.inj h
      exact ⟨⟨_, _, _, _, _, _, rfl⟩, s.sockParam.lastError, rfl⟩
    · simp at h
  · obtain rfl := Option.some.inj h
    exact ⟨⟨_, _, _, _, _, _, rfl⟩, _, rfl⟩
  · simp at h

theorem recvStep_change {s s' : State α} {t : ℕ} {ans : SockAnswer α}
    (h : recvStep s t ans = some s') :
    SockChange s t s' ∧ ∃ code, s'.sockParam = { s.sockParam with lastError := code } := by
  unfold recvStep at h
  split at h
  · split at h
    · obtain rfl := Option.some.inj h
      exact ⟨⟨_, _, _, _, _, _, rfl⟩, s.sockParam.lastError, rfl⟩
    · simp at h
  · split at h
    · obtain rfl := Option.some.inj h
      exact ⟨⟨_, _, _, _, _, _, rfl⟩, _, rfl⟩
    · simp at h
  · split at h
    · split at h
      · obtain rfl := Option.some.inj h
        exact ⟨⟨_, _, _, _, _, _, rfl⟩, s.sockParam.lastError, rfl⟩
      · simp at h
    · obtain rfl := Option.some.inj h
      exact ⟨⟨_, _, _, _, _, _, rfl⟩, _, rfl⟩
  · simp at h

/-- A step of a socket thread: the thread is alive, and changes its own things only. `_run` and the
limit are not among them; the pause flag is cleared once. -/
structure SockEffect (s : State α) (t : ℕ) (s' : State α) : Prop where
  alive : s.SockAlive t
  change : SockChange s t s'
  run : s'.sockParam.run = s.sockParam.run
  queueLimit : s'.sockParam.queueLimit = s.sockParam.queueLimit
  pauseFlg : (s.socks t).pc ≠ .clearPause → s'.sockParam.pauseFlg = s.sockParam.pauseFlg

theorem sockStep_effect {s s' : State α} {t : ℕ} {ans : SockAnswer α}
    (h : sockStep s t ans = some s') : SockEffect s t s' := by
  have hcode : ∀ {s' : State α}, s.SockAlive t →
      (SockChange s t s' ∧ ∃ code, s'.sockParam = { s.sockParam with lastError := code }) →
      SockEffect s t s' := by
    rintro s' halive ⟨hchange, code, hparam⟩
    exact ⟨halive, hchange, by rw [hparam], by rw [hparam], fun _ => by rw [hparam]⟩
  have halive : ∀ {pc : SockPc α}, (s.socks t).pc = pc → pc ≠ .off → s.SockAlive t :=
    fun hpc hne => fun hoff => hne (hpc ▸ hoff)
  unfold sockStep at h
  cases hpc : (s.socks t).pc with
  | off => simp [hpc] at h
  | start =>
    simp only [hpc] at h
    split at h <;>
      (obtain rfl := Option.some.inj h
       exact ⟨halive hpc (by simp), ⟨_, _, _, _, _, _, rfl⟩, rfl, rfl, fun _ => rfl⟩)
  | select =>
    simp only [hpc] at h
    exact hcode (halive hpc (by simp)) (selectStep_change h)
  | recv =>
    simp only [hpc] at h
    exact hcode (halive hpc (by simp)) (recvStep_change h)
  | clearPause =>
    simp only [hpc, Option.some.injEq] at h
    subst h
    exact ⟨halive hpc (by simp), ⟨_, _, _, _, _, _, rfl⟩, rfl, rfl, fun hne => absurd hpc hne⟩
  | clearError | testRun | testPause | testRunPaused | put c | testLimit | queueError | close
  | clearSocket =>
    simp only [hpc, Option.some.injEq] at h
    subst h
    exact ⟨halive hpc (by simp), ⟨_, _, _, _, _, _, rfl⟩, rfl, rfl, fun _ => rfl⟩

theorem sockStep_change {s s' : State α} {t : ℕ} {ans : SockAnswer α}
    (h : sockStep s t ans = some s') : s.SockAlive t ∧ SockChange s t s' :=
  ⟨(sockStep_effect h).alive, (sockStep_effect h).change⟩

/-- A state that differs from `s` only in what a step of framer thread `t` may change. -/
def FramerChange (s : State α) (t : ℕ) (s' : State α) : Prop :=
  ∃ pc status code message param framer queue events sockets framed,
    s' = { s.framerTo t pc with
      status := status, errorCode := code, errorMessage := message, sockParam := param,
      framer := framer, recvQueue := queue, eventFrame := events, sockets := sockets,
      framed := framed }

/-- The statuses that a framer thread writes, and where. -/
inductive FramerPc.Writes : FramerPc α → SiDaqStatus → Prop
  | sysError : Writes .sysError .sysError
  | queueSysError (atEnd : Bool) : Writes (.queueSysError atEnd) .sysError
  | stopping : Writes (.stop .setStopping) .stopping
  | idle : Writes .setIdle .idle

/-- A step of a framer thread: the thread is alive, and changes no other thread, nor what the socket
threads and the consumer have done. Of what all share it writes the status, and of the parameters what ends a run. -/
structure FramerEffect (s : State α) (t : ℕ) (s' : State α) : Prop where
  alive : s.FramerAlive t
  change : FramerChange s t s'
  param : s.sockParam.Ends s'.sockParam
  status : s'.status = s.status ∨ (s.framers t).Writes s'.status

/-- A step that touches neither. -/
theorem FramerEffect.of_quiet {s s' : State α} {t : ℕ} (halive : s.FramerAlive t)
    (hchange : FramerChange s t s') (hparam : s'.sockParam = s.sockParam)
    (hstatus : s'.status = s.status) : FramerEffect s t s' :=
  ⟨halive, hchange, hparam ▸ .nothing, Or.inl hstatus⟩

theorem checkErrorStep_effect {s : State α} {t : ℕ} (halive : s.FramerAlive t)
    (fr : SiDaqFramer α) : FramerEffect s t (checkErrorStep s t fr) := by
  unfold checkErrorStep
  split
  · split
    · exact .of_quiet halive ⟨_, _, _, _, _, _, _, _, _, _, rfl⟩ rfl rfl
    · split <;> exact .of_quiet halive ⟨_, _, _, _, _, _, _, _, _, _, rfl⟩ rfl rfl
  · exact .of_quiet halive ⟨_, _, _, _, _, _, _, _, _, _, rfl⟩ rfl rfl

theorem flushStep_effect {s : State α} {t : ℕ} (halive : s.FramerAlive t) (fr : SiDaqFramer α) :
    FramerEffect s t (flushStep s t fr) := by
  unfold flushStep
  split <;> exact .of_quiet halive ⟨_, _, _, _, _, _, _, _, _, _, rfl⟩ rfl rfl

/-- `SiDaqStop` touches the status, the parameters and the sockets only. -/
theorem stopStep_change (s : State α) (pc : StopPc) :
    ∃ status param sockets, (stopStep s pc).1 =
      { s with status := status, sockParam := param, sockets := sockets } := by
  cases pc <;> exact ⟨_, _, _, rfl⟩

theorem stopStep_param (s : State α) (pc : StopPc) :
    s.sockParam.Ends (stopStep s pc).1.sockParam := by
  cases pc with
  | clearRun => exact .run
  | clearSocket => exact .deviceSocket
  | testRun | setStopping | testSysError | testIdle | wait | close => exact .nothing

/-- `SiDaqStop` writes `SIDAQ_STOPPING` in one place, and no other status. -/
theorem stopStep_status (s : State α) (pc : StopPc) :
    (pc = .setStopping ∧ (stopStep s pc).1.status = .stopping) ∨
      (pc ≠ .setStopping ∧ (stopStep s pc).1.status = s.status) := by
  cases pc <;> simp [stopStep, State.closeSocket]

section Steps

variable [Inhabited α] {s s' : State α} {t : ℕ}

theorem frameChunk_effect {c : Chunk α} (halive : s.FramerAlive t)
    (h : frameChunk s t c = some s') : FramerEffect s t s' := by
  obtain ⟨fr, -, h⟩ := Option.bind_eq_some_iff.mp h
  obtain ⟨o, -, rfl⟩ := Option.map_eq_some_iff.mp h
  exact .of_quiet halive ⟨_, _, _, _, _, _, _, _, _, _, rfl⟩ rfl rfl

/-- A step of a framer thread inside `SiDaqStop`. -/
theorem framerStep_stop {pc : StopPc} (hpc : s.framers t = .stop pc)
    (h : framerStep s t = some s') : ∃ pc' : FramerPc α, s' = (stopStep s pc).1.framerTo t pc' := by
  simp only [framerStep, hpc] at h
  rcases hstop : stopStep s pc with ⟨s₁, pc₁ | ok⟩ <;> rw [hstop] at h
  · exact ⟨_, (Option.some.inj h).symm⟩
  · exact ⟨_, (Option.some.inj h).symm⟩

theorem framerStep_stop_effect {pc : StopPc} (hpc : s.framers t = .stop pc)
    (h : framerStep s t = some s') : FramerEffect s t s' := by
  have hparam := stopStep_param s pc
  have hstatus := stopStep_status s pc
  obtain ⟨pc', rfl⟩ := framerStep_stop hpc h
  refine ⟨by simp [State.FramerAlive, hpc], ?_, hparam, ?_⟩
  · obtain ⟨_, _, _, heq⟩ := stopStep_change s pc
    rw [heq]
    exact ⟨_, _, _, _, _, _, _, _, _, _, rfl⟩
  · rcases hstatus with ⟨rfl, -⟩ | ⟨-, hsame⟩
    · rw [hpc]
      exact Or.inr .stopping
    · exact Or.inl hsame

/-- **Every step of a framer thread changes no more than this.** -/
theorem framerStep_effect (h : framerStep s t = some s') : FramerEffect s t s' := by
  have halive : ∀ {pc : FramerPc α}, s.framers t = pc → pc ≠ .off → s.FramerAlive t :=
    fun hpc hne => fun hoff => hne (hpc ▸ hoff)
  cases hpc : s.framers t with
  | off => simp [framerStep, hpc] at h
  | stop pc => exact framerStep_stop_effect hpc h
  | recv c =>
    simp only [framerStep, hpc] at h
    exact frameChunk_effect (halive hpc (by simp)) h
  | checkError =>
    simp only [framerStep, hpc] at h
    obtain ⟨fr, -, rfl⟩ := Option.map_eq_some_iff.mp h
    exact checkErrorStep_effect (halive hpc (by simp)) fr
  | flush =>
    simp only [framerStep, hpc] at h
    obtain ⟨fr, -, rfl⟩ := Option.map_eq_some_iff.mp h
    exact flushStep_effect (halive hpc (by simp)) fr
  | get =>
    simp only [framerStep, hpc] at h
    split at h <;>
      (obtain rfl := Option.some.inj h
       exact .of_quiet (halive hpc (by simp)) ⟨_, _, _, _, _, _, _, _, _, _, rfl⟩ rfl rfl)
  | testQueueError =>
    simp only [framerStep, hpc] at h
    obtain ⟨fr, -, rfl⟩ := Option.map_eq_some_iff.mp h
    split <;>
      exact .of_quiet (halive hpc (by simp)) ⟨_, _, _, _, _, _, _, _, _, _, rfl⟩ rfl rfl
  | start | exit =>
    simp only [framerStep, hpc] at h
    obtain ⟨fr, -, rfl⟩ := Option.map_eq_some_iff.mp h
    exact .of_quiet (halive hpc (by simp)) ⟨_, _, _, _, _, _, _, _, _, _, rfl⟩ rfl rfl
  | setError =>
    simp only [framerStep, hpc] at h
    obtain ⟨fr, -, rfl⟩ := Option.map_eq_some_iff.mp h
    exact ⟨halive hpc (by simp), ⟨_, _, _, _, _, _, _, _, _, _, rfl⟩, .lastError 0, Or.inl rfl⟩
  | setQueueError atEnd =>
    simp only [framerStep, hpc, Option.some.injEq] at h
    subst h
    exact ⟨halive hpc (by simp), ⟨_, _, _, _, _, _, _, _, _, _, rfl⟩, .lastError 0, Or.inl rfl⟩
  | clearRun =>
    simp only [framerStep, hpc, Option.some.injEq] at h
    subst h
    exact ⟨halive hpc (by simp), ⟨_, _, _, _, _, _, _, _, _, _, rfl⟩, .run, Or.inl rfl⟩
  | clearSocket =>
    simp only [framerStep, hpc, Option.some.injEq] at h
    subst h
    exact ⟨halive hpc (by simp), ⟨_, _, _, _, _, _, _, _, _, _, rfl⟩, .deviceSocket, Or.inl rfl⟩
  | sysError =>
    simp only [framerStep, hpc, Option.some.injEq] at h
    subst h
    exact ⟨halive hpc (by simp), ⟨_, _, _, _, _, _, _, _, _, _, rfl⟩, .nothing,
      Or.inr (hpc ▸ .sysError)⟩
  | queueSysError atEnd =>
    simp only [framerStep, hpc, Option.some.injEq] at h
    subst h
    exact ⟨halive hpc (by simp), ⟨_, _, _, _, _, _, _, _, _, _, rfl⟩, .nothing,
      Or.inr (hpc ▸ .queueSysError atEnd)⟩
  | setIdle =>
    simp only [framerStep, hpc, Option.some.injEq] at h
    subst h
    exact ⟨halive hpc (by simp), ⟨_, _, _, _, _, _, _, _, _, _, rfl⟩, .nothing,
      Or.inr (hpc ▸ .idle)⟩
  | testIdle | testReset | wait | close | empty | testSocket | testExitReset =>
    simp only [framerStep, hpc, Option.some.injEq] at h
    subst h
    exact .of_quiet (halive hpc (by simp)) ⟨_, _, _, _, _, _, _, _, _, _, rfl⟩ rfl rfl

theorem framerStep_change (h : framerStep s t = some s') : s.FramerAlive t ∧ FramerChange s t s' :=
  ⟨(framerStep_effect h).alive, (framerStep_effect h).change⟩

/-- The threads after a step of the application: the same, or one more. -/
inductive ApiThreads (s s' : State α) : Prop
  | same (hsock : ∀ p, s.api ≠ .runCreateSock p) (hframer : s.api ≠ .runCreateFramer)
      (hsocks : s'.socks = s.socks) (hframers : s'.framers = s.framers)
  | sock (p : RunParams α) (t : ℕ) (hapi : s.api = .runCreateSock p) (hfree : ¬ s.SockAlive t)
      (hsocks : s'.socks = Function.update s.socks t ⟨.start, none, 0⟩)
      (hframers : s'.framers = s.framers)
  | framer (t : ℕ) (hapi : s.api = .runCreateFramer) (hfree : ¬ s.FramerAlive t)
      (hsocks : s'.socks = s.socks) (hframers : s'.framers = Function.update s.framers t .start)

omit [Inhabited α] in
theorem connectStep_change {ans : ApiAnswer} {pc : ApiPc α} (h : connectStep s ans pc = some s') :
    ∃ pc' sockets, s' = { s with api := pc', sockets := sockets } := by
  unfold connectStep at h
  split at h
  · split at h <;> (obtain rfl := Option.some.inj h; exact ⟨_, _, rfl⟩)
  · split at h <;> (obtain rfl := Option.some.inj h; exact ⟨_, _, rfl⟩)
  · split at h
    · split at h <;> (obtain rfl := Option.some.inj h; exact ⟨_, _, rfl⟩)
    · obtain rfl := Option.some.inj h
      exact ⟨_, _, rfl⟩
  · split at h
    · split at h <;> (obtain rfl := Option.some.inj h; exact ⟨_, _, rfl⟩)
    · obtain rfl := Option.some.inj h
      exact ⟨_, _, rfl⟩
  · simp at h

/-- The parameters after a step of the application: `SiDaqRun` sets them. -/
inductive ApiParam (s : State α) : SockThreadLparam → Prop
  | ends {param : SockThreadLparam} (h : s.sockParam.Ends param) : ApiParam s param
  | setSocket (p : RunParams α) (hd : ℕ) (hapi : s.api = .runSetSocket p hd) :
      ApiParam s { s.sockParam with deviceSocket := some hd }
  | setRun (p : RunParams α) (hapi : s.api = .runSetRun p) :
      ApiParam s { s.sockParam with run := true }
  | setParam (p : RunParams α) (hapi : s.api = .runSetParam p) :
      ApiParam s { s.sockParam with
        recvBufSize := p.maxRecvBuff.toNat
        queueLimit := p.recvQueueLimit.toNat
        queueErrorCode := .noError }

/-- A step of the application, inside a call: it may make a thread or set parameters, and records
nothing. -/
structure ApiChange (s s' : State α) : Prop where
  threads : ApiThreads s s'
  param : ApiParam s s'.sockParam
  received : s'.received = s.received
  put : s'.put = s.put
  framed : s'.framed = s.framed
  got : s'.got = s.got

theorem apiStep_change {ans : ApiAnswer} (h : apiStep s ans = some s') : ApiChange s s' := by
  have hsame : ∀ {s' : State α}, (∀ p, s.api ≠ .runCreateSock p) → s.api ≠ .runCreateFramer →
      ApiParam s s'.sockParam → s'.socks = s.socks → s'.framers = s.framers →
      s'.received = s.received → s'.put = s.put → s'.framed = s.framed → s'.got = s.got →
      ApiChange s s' :=
    fun h₁ h₂ hparam h₃ h₄ h₅ h₆ h₇ h₈ => ⟨.same h₁ h₂ h₃ h₄, hparam, h₅, h₆, h₇, h₈⟩
  cases hapi : s.api with
  | returned r => simp [apiStep, hapi] at h
  | deleting => simp [apiStep, hapi] at h
  | runSocket p | runAddress p hd | runConnect p hd | runSockopt p hd =>
    simp only [apiStep, hapi] at h
    obtain ⟨pc', sockets, rfl⟩ := connectStep_change h
    exact hsame (by simp [hapi]) (by simp [hapi]) (.ends .nothing) rfl rfl rfl rfl rfl rfl
  | runCreateSock p =>
    simp only [apiStep, hapi] at h
    split at h
    · rename_i t
      split at h
      · rename_i hoff
        obtain rfl := Option.some.inj h
        refine ⟨.sock p t hapi ?_ rfl rfl, .ends .nothing, rfl, rfl, rfl, rfl⟩
        simp [State.SockAlive, hoff]
      · simp at h
    · simp at h
  | runCreateFramer =>
    simp only [apiStep, hapi] at h
    split at h
    · rename_i t
      split at h
      · rename_i hoff
        obtain rfl := Option.some.inj h
        refine ⟨.framer t hapi ?_ rfl rfl, .ends .nothing, rfl, rfl, rfl, rfl⟩
        simp [State.FramerAlive, hoff]
      · simp at h
    · simp at h
  | stop pc | terminate pc =>
    simp only [apiStep, hapi] at h
    obtain ⟨_, _, _, heq⟩ := stopStep_change s pc
    have hparam := stopStep_param s pc
    rcases hstop : stopStep s pc with ⟨s₁, pc₁ | ok⟩ <;> rw [hstop] at h heq hparam <;>
      (obtain rfl := Option.some.inj h
       subst heq
       exact hsame (by simp [hapi]) (by simp [hapi]) (.ends hparam) rfl rfl rfl rfl rfl rfl)
  | resetRecv status | resetEvent status =>
    simp only [apiStep, hapi] at h
    split at h <;>
      (obtain rfl := Option.some.inj h
       exact hsame (by simp [hapi]) (by simp [hapi]) (.ends .nothing) rfl rfl rfl rfl rfl rfl)
  | runSetSocket p hd =>
    simp only [apiStep, hapi, Option.some.injEq] at h
    subst h
    exact hsame (by simp [hapi]) (by simp [hapi]) (.setSocket p hd hapi) rfl rfl rfl rfl rfl rfl
  | runSetRun p =>
    simp only [apiStep, hapi, Option.some.injEq] at h
    subst h
    exact hsame (by simp [hapi]) (by simp [hapi]) (.setRun p hapi) rfl rfl rfl rfl rfl rfl
  | runSetParam p =>
    simp only [apiStep, hapi, Option.some.injEq] at h
    subst h
    exact hsame (by simp [hapi]) (by simp [hapi]) (.setParam p hapi) rfl rfl rfl rfl rfl rfl
  | runBegin p | runFail e =>
    simp only [apiStep, hapi, Option.some.injEq] at h
    subst h
    exact hsame (by simp [hapi]) (by simp [hapi]) (.ends (.lastError _)) rfl rfl rfl rfl rfl rfl
  | runFailStatus | runConfigure p | runSetStatus | runReturn | resetRead | resetSet status
  | resetRestore status =>
    simp only [apiStep, hapi, Option.some.injEq] at h
    subst h
    exact hsame (by simp [hapi]) (by simp [hapi]) (.ends .nothing) rfl rfl rfl rfl rfl rfl

end Steps

/-! ## One run at a time -/

/-- At most one socket thread and at most one framer thread are alive. -/
def State.OneRun (s : State α) : Prop :=
  (∀ t u, s.SockAlive t → s.SockAlive u → t = u) ∧
    ∀ t u, s.FramerAlive t → s.FramerAlive u → t = u

/-- `SiDaqRun` gets to start a thread only when no thread of that kind is alive. -/
def StartsAlone (s : State α) (a : Act α) : Prop :=
  ∀ ans, a = .api ans →
    (∀ p, s.api = .runCreateSock p → ∀ t, ¬ s.SockAlive t) ∧
    (s.api = .runCreateFramer → ∀ t, ¬ s.FramerAlive t)

theorem State.oneRun_init : (State.init : State α).OneRun := by
  constructor <;> intro t u h <;> exact absurd rfl h

/-- Fewer threads alive are still one run. -/
theorem State.OneRun.mono {s s' : State α} (h : s.OneRun)
    (hsocks : ∀ t, s'.SockAlive t → s.SockAlive t)
    (hframers : ∀ t, s'.FramerAlive t → s.FramerAlive t) : s'.OneRun :=
  ⟨fun t u ht hu => h.1 t u (hsocks t ht) (hsocks u hu),
    fun t u ht hu => h.2 t u (hframers t ht) (hframers u hu)⟩

section OneRun

variable {s s' : State α} {t : ℕ}

/-- A step of a socket thread makes no thread alive. -/
theorem SockChange.alive (hchange : SockChange s t s') (halive : s.SockAlive t) :
    (∀ u, s'.SockAlive u → s.SockAlive u) ∧ ∀ u, s'.FramerAlive u → s.FramerAlive u := by
  obtain ⟨th, param, queue, sockets, received, put, rfl⟩ := hchange
  refine ⟨fun u hu => ?_, fun u hu => hu⟩
  by_cases hut : u = t
  · exact hut ▸ halive
  · simpa [State.SockAlive, State.setSock, Function.update_of_ne hut] using hu

/-- A step of a framer thread makes no thread alive. -/
theorem FramerChange.alive (hchange : FramerChange s t s') (halive : s.FramerAlive t) :
    (∀ u, s'.SockAlive u → s.SockAlive u) ∧ ∀ u, s'.FramerAlive u → s.FramerAlive u := by
  obtain ⟨pc, status, code, message, param, framer, queue, events, sockets, framed, rfl⟩ := hchange
  refine ⟨fun u hu => hu, fun u hu => ?_⟩
  by_cases hut : u = t
  · exact hut ▸ halive
  · simpa [State.FramerAlive, State.framerTo, Function.update_of_ne hut] using hu

/-- A new socket thread is the only one, if and only if there was none. -/
theorem oneRun_sock_iff (h : s.OneRun) (hfree : ¬ s.SockAlive t) {th : SockThread α}
    (hth : th.pc ≠ .off) (hsocks : s'.socks = Function.update s.socks t th)
    (hframers : s'.framers = s.framers) : s'.OneRun ↔ ∀ u, ¬ s.SockAlive u := by
  have hsame : ∀ u, u ≠ t → (s'.SockAlive u ↔ s.SockAlive u) := by
    intro u hu
    simp only [State.SockAlive, hsocks, Function.update_of_ne hu]
  have hnew : s'.SockAlive t := by
    simpa [State.SockAlive, hsocks] using hth
  constructor
  · intro h' u hu
    have hut : u ≠ t := by
      rintro rfl
      exact hfree hu
    exact hut (h'.1 u t ((hsame u hut).mpr hu) hnew)
  · intro hnone
    have honly : ∀ u, s'.SockAlive u → u = t := by
      intro u hu
      by_contra hut
      exact hnone u ((hsame u hut).mp hu)
    refine ⟨fun u v hu hv => (honly u hu).trans (honly v hv).symm, fun u v hu hv => ?_⟩
    simp only [State.FramerAlive, hframers] at hu hv
    exact h.2 u v hu hv

/-- A new framer thread is the only one, if and only if there was none. -/
theorem oneRun_framer_iff (h : s.OneRun) (hfree : ¬ s.FramerAlive t) {pc : FramerPc α}
    (hpc : pc ≠ .off) (hframers : s'.framers = Function.update s.framers t pc)
    (hsocks : s'.socks = s.socks) : s'.OneRun ↔ ∀ u, ¬ s.FramerAlive u := by
  have hsame : ∀ u, u ≠ t → (s'.FramerAlive u ↔ s.FramerAlive u) := by
    intro u hu
    simp only [State.FramerAlive, hframers, Function.update_of_ne hu]
  have hnew : s'.FramerAlive t := by
    simpa [State.FramerAlive, hframers] using hpc
  constructor
  · intro h' u hu
    have hut : u ≠ t := by
      rintro rfl
      exact hfree hu
    exact hut (h'.2 u t ((hsame u hut).mpr hu) hnew)
  · intro hnone
    have honly : ∀ u, s'.FramerAlive u → u = t := by
      intro u hu
      by_contra hut
      exact hnone u ((hsame u hut).mp hu)
    refine ⟨fun u v hu hv => ?_, fun u v hu hv => (honly u hu).trans (honly v hv).symm⟩
    simp only [State.SockAlive, hsocks] at hu hv
    exact h.1 u v hu hv

variable [Inhabited α]

/-- The threads of the other actions: a call begins, the consumer gets a frame, `pause_flg` is
written. -/
theorem step_threads_of_not_thread {a : Act α} (h : step s a = some s')
    (hsock : ∀ t ans, a ≠ .sock t ans) (hframer : ∀ t, a ≠ .framer t)
    (hapi : ∀ ans, a ≠ .api ans) : s'.socks = s.socks ∧ s'.framers = s.framers := by
  have hcall : ∀ {pc : ApiPc α}, callStep s pc = some s' →
      s'.socks = s.socks ∧ s'.framers = s.framers := by
    intro pc h
    obtain ⟨r, -, rfl⟩ := callStep_begins h
    exact ⟨rfl, rfl⟩
  cases a with
  | sock t ans => exact absurd rfl (hsock t ans)
  | framer t => exact absurd rfl (hframer t)
  | api ans => exact absurd rfl (hapi ans)
  | callRun p => exact hcall h
  | callStop => exact hcall h
  | callReset => exact hcall h
  | callTerminate => exact hcall h
  | getData =>
    obtain ⟨f, fs, -, rfl⟩ := getData_takes h
    exact ⟨rfl, rfl⟩
  | pause | resume =>
    simp only [step, Option.some.injEq] at h
    subst h
    exact ⟨rfl, rfl⟩

/-- A step leaves at most one run alive if and only if it starts a thread alone. -/
theorem oneRun_step_iff {a : Act α} (h : s.OneRun) (hstep : step s a = some s') :
    s'.OneRun ↔ StartsAlone s a := by
  by_cases hapi : ∃ ans, a = .api ans
  · obtain ⟨ans, rfl⟩ := hapi
    rcases (apiStep_change hstep).threads with ⟨hsock, hframer, hsocks, hframers⟩ |
      ⟨p, t, hapi, hfree, hsocks, hframers⟩ | ⟨t, hapi, hfree, hsocks, hframers⟩
    · refine iff_of_true (h.mono (fun t ht => ?_) fun t ht => ?_) fun _ _ =>
        ⟨fun p hp => absurd hp (hsock p), fun hp => absurd hp hframer⟩
      · simpa [State.SockAlive, hsocks] using ht
      · simpa [State.FramerAlive, hframers] using ht
    · rw [oneRun_sock_iff h hfree (by simp) hsocks hframers]
      simp [StartsAlone, hapi]
    · rw [oneRun_framer_iff h hfree (by simp) hframers hsocks]
      simp [StartsAlone, hapi]
  · refine iff_of_true ?_ fun ans ha => absurd ⟨ans, ha⟩ hapi
    cases a with
    | sock t ans =>
      obtain ⟨halive, hchange⟩ := sockStep_change hstep
      exact h.mono (hchange.alive halive).1 (hchange.alive halive).2
    | framer t =>
      obtain ⟨halive, hchange⟩ := framerStep_change hstep
      exact h.mono (hchange.alive halive).1 (hchange.alive halive).2
    | api ans => exact absurd ⟨ans, rfl⟩ hapi
    | callRun p | callStop | callReset | callTerminate | getData | pause | resume =>
      obtain ⟨hsocks, hframers⟩ := step_threads_of_not_thread hstep (by simp) (by simp) (by simp)
      refine h.mono (fun t ht => ?_) fun t ht => ?_
      · simpa [State.SockAlive, hsocks] using ht
      · simpa [State.FramerAlive, hframers] using ht

/-- **At most one run at a time**: in every run of the system, every state reached has at most one
socket thread and one framer thread alive if and only if `SiDaqRun` only ever starts a thread when no
thread of that kind is alive. -/
theorem one_run_iff (acts : List (Act α)) :
    Always step State.OneRun State.init acts ↔ Guarded step StartsAlone State.init acts :=
  always_iff_guarded (fun _ _ _ h hstep => oneRun_step_iff h hstep) State.oneRun_init acts

end OneRun

/-- A call of `SiDaqRun` in which every socket call succeeds, with the threads that it starts. -/
def runCall (p : RunParams α) (sock framer : ℕ) : List (Act α) :=
  [.callRun p] ++ List.replicate 8 (.api .ok) ++ [.api (.thread sock), .api .ok,
    .api (.thread framer), .api .ok, .api .ok]

/-- `SiDaqRun` with these framing arguments, and the defaults for the others. -/
def FramingParams.toRunParams (p : FramingParams α) : RunParams α := ⟨p, -1, 0, 262144⟩

/-- A one-byte header, and a length function that always fails. -/
def failingHeader : FramingParams UInt8 := ⟨some fun _ _ _ => -1, 1, 0, 0, 262144⟩

/-- Socket thread `t` starts, and receives and puts a chunk. -/
def recvActs (t : ℕ) (c : Chunk α) : List (Act α) :=
  List.replicate 4 (.sock t .ok) ++ [.sock t .readable, .sock t .ok, .sock t (.data c), .sock t .ok]

/-- The framing of the first chunk fails, `SiDaqRun` is called in `SIDAQ_SYS_ERROR`. -/
def twoRuns : List (Act UInt8) :=
  runCall failingHeader.toRunParams 0 0 ++ recvActs 0 (.of [1]) ++
    List.replicate 7 (.framer 0) ++ runCall failingHeader.toRunParams 1 1

theorem twoRuns_not_oneRun :
    ∃ s, run step State.init twoRuns = some s ∧ s.FramerAlive 0 ∧ s.FramerAlive 1 ∧ ¬ s.OneRun := by
  have halive : (run step State.init twoRuns).map
      (fun s => (s.framers 0).isOff || (s.framers 1).isOff) = some false := by decide
  obtain ⟨s, hs, hp⟩ := Option.map_eq_some_iff.mp halive
  obtain ⟨h₀, h₁⟩ := Bool.or_eq_false_iff.mp hp
  have hzero := s.framerAlive_iff.mpr h₀
  have hone := s.framerAlive_iff.mpr h₁
  exact ⟨s, hs, hzero, hone, fun h => absurd (h.2 0 1 hzero hone) (by decide)⟩

end SiDaqApi
