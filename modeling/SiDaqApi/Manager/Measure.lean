import SiDaqApi.Manager.Threads

/-!
# Who frames while the status says that a measurement is on

In `SIDAQ_RUN` and `SIDAQ_STOPPING` a framer thread has to be alive: it frames the data, and only it
can leave `SIDAQ_STOPPING`. The two statuses are written in three places, none of which looks at the
framer threads: by `SiDaqRun` after it has created its thread, and by `SiDaqStop`, called by the
application or by a framer thread, after it has tested the status. `measuring_of_guarded` is what
these writes need, `earlyExit_measures_nothing` a run in which one of them comes too late.
-/

namespace SiDaqApi

open Machine

variable {α : Type*}

/-- The thread is in its loop or in its exit code, and not in the `SiDaqStop` that ends it after an
error. -/
def FramerPc.isFraming : FramerPc α → Bool
  | .off | .stop _ => false
  | _ => true

/-- The thread is about to write `SIDAQ_SYS_ERROR` for an error that it has flagged. -/
def FramerPc.isReporting : FramerPc α → Bool
  | .sysError | .queueSysError _ => true
  | _ => false

theorem FramerPc.isFraming_of_isReporting {pc : FramerPc α} (h : pc.isReporting) :
    pc.isFraming := by
  cases pc <;> first | rfl | exact absurd h (by simp [FramerPc.isReporting])

/-- A framer thread goes on framing, and an error that is flagged will still be reported. -/
def State.Supported (s : State α) : Prop :=
  (∃ t, (s.framers t).isFraming) ∧
    ∀ fr, s.framer = some fr → fr.errorFlg < 0 → ∃ t, (s.framers t).isReporting

/-- While the status says that a measurement is on, it is supported. -/
def State.Measured (s : State α) : Prop :=
  s.status = .run ∨ s.status = .stopping → s.Supported

/-- `SIDAQ_RUN` is written over a supported measurement, `SIDAQ_STOPPING` over `SIDAQ_RUN` or over a
supported measurement. -/
def WritesSupported (s : State α) : Act α → Prop
  | .api _ => (s.api = .runSetStatus → s.Supported) ∧
      (s.api = .stop .setStopping ∨ s.api = .terminate .setStopping →
        s.status = .run ∨ s.Supported)
  | .framer t => s.framers t = .stop .setStopping → s.status = .run ∨ s.Supported
  | _ => True

/-! ## What keeps a measurement supported -/

section Supported

variable {s s' : State α}

/-- Only the framer threads and the framer matter. -/
theorem State.Supported.congr (h : s.Supported) (hframers : s'.framers = s.framers)
    (hframer : s'.framer = s.framer) : s'.Supported := by
  unfold State.Supported
  rw [hframers, hframer]
  exact h

/-- A thread goes on, or comes to life; if it flags an error it reports it next. -/
theorem State.Supported.go (h : s.Supported) (t : ℕ) (pc : FramerPc α)
    (hframers : s'.framers = Function.update s.framers t pc) (hframing : pc.isFraming)
    (hquiet : (s.framers t).isReporting = false)
    (hflag : ∀ fr', s'.framer = some fr' → fr'.errorFlg < 0 →
      pc.isReporting ∨ ∃ fr, s.framer = some fr ∧ fr.errorFlg < 0) : s'.Supported := by
  refine ⟨⟨t, by simpa [hframers] using hframing⟩, fun fr' hfr' hneg => ?_⟩
  rcases hflag fr' hfr' hneg with hreport | ⟨fr, hfr, hneg'⟩
  · exact ⟨t, by simpa [hframers] using hreport⟩
  · obtain ⟨u, hu⟩ := h.2 fr hfr hneg'
    have hut : u ≠ t := by
      rintro rfl
      simp [hquiet] at hu
    exact ⟨u, by simpa [hframers, Function.update_of_ne hut] using hu⟩

/-- A thread that does not report anything leaves: it was not framing any more, or an error is
flagged, and the thread that reports it is another one. -/
theorem State.Supported.leave (h : s.Supported) (t : ℕ) (pc : FramerPc α)
    (hframers : s'.framers = Function.update s.framers t pc) (hframer : s'.framer = s.framer)
    (hquiet : (s.framers t).isReporting = false)
    (hleave : (s.framers t).isFraming = false ∨ ∃ fr, s.framer = some fr ∧ fr.errorFlg < 0) :
    s'.Supported := by
  have hother : ∀ u, (s.framers u).isReporting → (s'.framers u).isReporting := by
    intro u hu
    have hut : u ≠ t := by
      rintro rfl
      simp [hquiet] at hu
    simpa [hframers, Function.update_of_ne hut] using hu
  refine ⟨?_, fun fr hfr hneg => ?_⟩
  · rcases hleave with hnot | ⟨fr, hfr, hneg⟩
    · obtain ⟨u, hu⟩ := h.1
      have hut : u ≠ t := by
        rintro rfl
        simp [hnot] at hu
      exact ⟨u, by simpa [hframers, Function.update_of_ne hut] using hu⟩
    · -- the thread that reports the error frames, too
      obtain ⟨u, hu⟩ := h.2 fr hfr hneg
      exact ⟨u, FramerPc.isFraming_of_isReporting (hother u hu)⟩
  · obtain ⟨u, hu⟩ := h.2 fr (hframer ▸ hfr) hneg
    exact ⟨u, hother u hu⟩

end Supported

/-! ## The steps -/

section Steps

variable [Inhabited α] {s s' : State α} {t : ℕ}

omit [Inhabited α] in
theorem checkErrorStep_status (s : State α) (t : ℕ) (fr : SiDaqFramer α) :
    (checkErrorStep s t fr).status = s.status := by
  unfold checkErrorStep
  split
  · split
    · rfl
    · split <;> rfl
  · rfl

omit [Inhabited α] in
theorem flushStep_status (s : State α) (t : ℕ) (fr : SiDaqFramer α) :
    (flushStep s t fr).status = s.status := by
  unfold flushStep
  split <;> rfl

omit [Inhabited α] in
theorem flushStep_framers (s : State α) (t : ℕ) (fr : SiDaqFramer α) :
    (flushStep s t fr).framers = Function.update s.framers t .exit := by
  unfold flushStep
  split <;> rfl

omit [Inhabited α] in
theorem flushStep_framer (s : State α) (t : ℕ) (fr : SiDaqFramer α) :
    (flushStep s t fr).framer = some { fr with rest := 0 } ∨
      (flushStep s t fr).framer = s.framer := by
  unfold flushStep
  split
  · exact Or.inl rfl
  · exact Or.inr rfl

/-- A step of a framer thread outside of `SiDaqStop`. -/
theorem framerStep_measured (h : s.Measured) (hstop : ∀ pc, s.framers t ≠ .stop pc)
    (hstep : framerStep s t = some s') : s'.Measured := by
  intro hstatus
  cases hpc : s.framers t with
  | off => simp [framerStep, hpc] at hstep
  | stop pc => exact absurd hpc (hstop pc)
  | sysError | queueSysError atEnd | setIdle =>
    -- the status is not one of a measurement any more
    simp only [framerStep, hpc, Option.some.injEq] at hstep
    subst hstep
    simp at hstatus
  | recv c =>
    simp only [framerStep, hpc] at hstep
    obtain ⟨fr, hfr, hstep⟩ := Option.bind_eq_some_iff.mp hstep
    obtain ⟨o, ho, rfl⟩ := Option.map_eq_some_iff.mp hstep
    refine (h hstatus).go t _ rfl rfl (by rw [hpc]; rfl) fun fr' hfr' hneg => Or.inr ⟨fr, hfr, ?_⟩
    obtain rfl := Option.some.inj hfr'
    rwa [(recvSiDaqData_setup ho).errorFlg] at hneg
  | checkError =>
    simp only [framerStep, hpc] at hstep
    obtain ⟨fr, hfr, rfl⟩ := Option.map_eq_some_iff.mp hstep
    rw [checkErrorStep_status] at hstatus
    unfold checkErrorStep
    split
    · split
      · exact (h hstatus).go t .sysError rfl rfl (by rw [hpc]; rfl) fun _ _ _ => Or.inl rfl
      · split
        · exact (h hstatus).go t (.queueSysError false) rfl rfl (by rw [hpc]; rfl)
            fun _ _ _ => Or.inl rfl
        · exact (h hstatus).go t .testIdle rfl rfl (by rw [hpc]; rfl)
            fun fr' hfr' hneg => Or.inr ⟨fr', hfr', hneg⟩
    · exact (h hstatus).go t .testIdle rfl rfl (by rw [hpc]; rfl)
        fun fr' hfr' hneg => Or.inr ⟨fr', hfr', hneg⟩
  | testQueueError =>
    simp only [framerStep, hpc] at hstep
    obtain ⟨fr, hfr, heq⟩ := Option.map_eq_some_iff.mp hstep
    split at heq <;> subst heq
    · exact (h hstatus).go t (.queueSysError true) rfl rfl (by rw [hpc]; rfl)
        fun _ _ _ => Or.inl rfl
    · exact (h hstatus).go t .flush rfl rfl (by rw [hpc]; rfl)
        fun fr' hfr' hneg => Or.inr ⟨fr', hfr', hneg⟩
  | flush =>
    simp only [framerStep, hpc] at hstep
    obtain ⟨fr, hfr, rfl⟩ := Option.map_eq_some_iff.mp hstep
    rw [flushStep_status] at hstatus
    refine (h hstatus).go t .exit (flushStep_framers s t fr) rfl (by rw [hpc]; rfl) ?_
    intro fr' hfr' hneg
    rcases flushStep_framer s t fr with hflushed | hsame
    · obtain rfl := Option.some.inj (hflushed.symm.trans hfr')
      exact Or.inr ⟨fr, hfr, hneg⟩
    · exact Or.inr ⟨fr', hsame ▸ hfr', hneg⟩
  | start =>
    simp only [framerStep, hpc] at hstep
    obtain ⟨fr, hfr, rfl⟩ := Option.map_eq_some_iff.mp hstep
    refine (h hstatus).go t _ rfl rfl (by rw [hpc]; rfl) fun fr' hfr' hneg => Or.inr ⟨fr, hfr, ?_⟩
    obtain rfl := Option.some.inj hfr'
    exact hneg
  | exit =>
    simp only [framerStep, hpc] at hstep
    obtain ⟨fr, hfr, rfl⟩ := Option.map_eq_some_iff.mp hstep
    by_cases hneg : fr.errorFlg < 0
    · -- the flag of an error: the thread that reports it is another one
      exact (h hstatus).leave t _ rfl rfl (by rw [hpc]; rfl) (Or.inr ⟨fr, hfr, hneg⟩)
    · refine (h hstatus).go t _ rfl ?_ (by rw [hpc]; rfl) fun fr' hfr' hneg' =>
        Or.inr ⟨fr', hfr', hneg'⟩
      rw [if_neg hneg]
      rfl
  | testExitReset =>
    simp only [framerStep, hpc, Option.some.injEq] at hstep
    subst hstep
    have hreset : s.status ≠ .reset := by
      intro hreset
      change s.status = .run ∨ s.status = .stopping at hstatus
      simp [hreset] at hstatus
    refine (h hstatus).go t _ rfl ?_ (by rw [hpc]; rfl) fun fr' hfr' hneg => Or.inr ⟨fr', hfr', hneg⟩
    rw [if_neg hreset]
    rfl
  | get =>
    simp only [framerStep, hpc] at hstep
    split at hstep <;>
      (obtain rfl := Option.some.inj hstep
       exact (h hstatus).go t _ rfl rfl (by rw [hpc]; rfl) fun fr' hfr' hneg =>
         Or.inr ⟨fr', hfr', hneg⟩)
  | setError =>
    simp only [framerStep, hpc] at hstep
    obtain ⟨fr, hfr, rfl⟩ := Option.map_eq_some_iff.mp hstep
    exact (h hstatus).go t _ rfl rfl (by rw [hpc]; rfl) fun fr' hfr' hneg => Or.inr ⟨fr', hfr', hneg⟩
  | testIdle | testReset | empty | testSocket | setQueueError atEnd =>
    simp only [framerStep, hpc, Option.some.injEq] at hstep
    subst hstep
    refine (h hstatus).go t _ rfl ?_ (by rw [hpc]; rfl) fun fr' hfr' hneg => Or.inr ⟨fr', hfr', hneg⟩
    split <;> rfl
  | clearRun | wait | close | clearSocket =>
    simp only [framerStep, hpc, Option.some.injEq] at hstep
    subst hstep
    exact (h hstatus).go t _ rfl rfl (by rw [hpc]; rfl) fun fr' hfr' hneg => Or.inr ⟨fr', hfr', hneg⟩

omit [Inhabited α] in
/-- What is supported before a step of `SiDaqStop`, when the status after it needs it. -/
theorem State.Measured.before_stop (h : s.Measured) (pc : StopPc)
    (hguard : pc = .setStopping → s.status = .run ∨ s.Supported)
    (hstatus : (stopStep s pc).1.status = .run ∨ (stopStep s pc).1.status = .stopping) :
    s.Supported := by
  rcases stopStep_status s pc with ⟨hpc, -⟩ | ⟨-, hkeep⟩
  · rcases hguard hpc with hrun | hsupported
    · exact h (Or.inl hrun)
    · exact hsupported
  · rw [hkeep] at hstatus
    exact h hstatus

/-- A step of a framer thread inside `SiDaqStop`. -/
theorem framerStep_stop_measured (h : s.Measured) {pc : StopPc} (hpc : s.framers t = .stop pc)
    (hguard : WritesSupported s (.framer t)) (hstep : framerStep s t = some s') :
    s'.Measured := by
  intro hstatus
  obtain ⟨pc', rfl⟩ := framerStep_stop hpc hstep
  have hsupported : s.Supported :=
    h.before_stop pc (fun hset => hguard (hset ▸ hpc)) hstatus
  obtain ⟨_, _, _, heq⟩ := stopStep_change s pc
  refine hsupported.leave t pc' ?_ ?_ (by rw [hpc]; rfl)
    (Or.inl (by rw [hpc]; rfl)) <;> rw [heq] <;> rfl

/-- A step of an API call. -/
theorem apiStep_measured (h : s.Measured) {ans : ApiAnswer} (hguard : WritesSupported s (.api ans))
    (hstep : apiStep s ans = some s') : s'.Measured := by
  intro hstatus
  cases hapi : s.api with
  | returned r => simp [apiStep, hapi] at hstep
  | deleting => simp [apiStep, hapi] at hstep
  | runSetStatus =>
    simp only [apiStep, hapi, Option.some.injEq] at hstep
    subst hstep
    exact (hguard.1 hapi).congr rfl rfl
  | runFailStatus | resetSet status =>
    simp only [apiStep, hapi, Option.some.injEq] at hstep
    subst hstep
    simp at hstatus
  | resetRestore status =>
    simp only [apiStep, hapi, Option.some.injEq] at hstep
    subst hstep
    by_cases herror : status = .sysError <;> simp [herror] at hstatus
  | stop pc | terminate pc =>
    simp only [apiStep, hapi] at hstep
    obtain ⟨_, _, _, heq⟩ := stopStep_change s pc
    have hbefore := h.before_stop pc fun hset => hguard.2 (by simp [hapi, hset])
    rcases hstop : stopStep s pc with ⟨s₁, pc₁ | ok⟩ <;> rw [hstop] at hstep heq hbefore <;>
      (obtain rfl := Option.some.inj hstep
       subst heq
       exact (hbefore hstatus).congr rfl rfl)
  | runConfigure p =>
    simp only [apiStep, hapi, Option.some.injEq] at hstep
    subst hstep
    refine ⟨(h hstatus).1, fun fr hfr hneg => ?_⟩
    -- `SiDaqRun` clears the flag
    obtain rfl := Option.some.inj hfr
    simp [SiDaqFramer.configure] at hneg
  | runCreateFramer =>
    simp only [apiStep, hapi] at hstep
    split at hstep
    · rename_i u
      split at hstep
      · rename_i hoff
        obtain rfl := Option.some.inj hstep
        -- one more thread that frames
        exact (h hstatus).go u _ rfl rfl (by rw [hoff]; rfl) fun fr' hfr' hneg =>
          Or.inr ⟨fr', hfr', hneg⟩
      · simp at hstep
    · simp at hstep
  | runCreateSock p =>
    simp only [apiStep, hapi] at hstep
    split at hstep
    · split at hstep
      · obtain rfl := Option.some.inj hstep
        exact (h hstatus).congr rfl rfl
      · simp at hstep
    · simp at hstep
  | runSocket p | runAddress p hd | runConnect p hd | runSockopt p hd =>
    simp only [apiStep, hapi] at hstep
    obtain ⟨pc', sockets, rfl⟩ := connectStep_change hstep
    exact (h hstatus).congr rfl rfl
  | resetRecv status | resetEvent status =>
    simp only [apiStep, hapi] at hstep
    split at hstep <;> (obtain rfl := Option.some.inj hstep; exact (h hstatus).congr rfl rfl)
  | runBegin p | runFail e | runSetSocket p hd | runSetRun p | runSetParam p | runReturn
  | resetRead =>
    simp only [apiStep, hapi, Option.some.injEq] at hstep
    subst hstep
    exact (h hstatus).congr rfl rfl

/-- A step of the system keeps the measurement supported, when its writes to the status are. -/
theorem step_measured (h : s.Measured) {a : Act α} (hguard : WritesSupported s a)
    (hstep : step s a = some s') : s'.Measured := by
  cases a with
  | framer t =>
    by_cases hstop : ∃ pc, s.framers t = .stop pc
    · obtain ⟨pc, hpc⟩ := hstop
      exact framerStep_stop_measured h hpc hguard hstep
    · exact framerStep_measured h (fun pc hpc => hstop ⟨pc, hpc⟩) hstep
  | api ans => exact apiStep_measured h hguard hstep
  | sock t ans =>
    obtain ⟨-, th, param, queue, sockets, received, put, rfl⟩ := sockStep_change hstep
    exact fun hstatus => (h hstatus).congr rfl rfl
  | callRun p | callStop | callReset | callTerminate =>
    obtain ⟨r, -, rfl⟩ := callStep_begins hstep
    exact fun hstatus => (h hstatus).congr rfl rfl
  | getData =>
    obtain ⟨f, fs, -, rfl⟩ := getData_takes hstep
    exact fun hstatus => (h hstatus).congr rfl rfl
  | pause | resume =>
    simp only [step, Option.some.injEq] at hstep
    subst hstep
    exact fun hstatus => (h hstatus).congr rfl rfl

/-- **A measurement has its framer**: in a run of the system in which every write of `SIDAQ_RUN` and
`SIDAQ_STOPPING` is supported, a framer thread is alive whenever the status is one of the two. -/
theorem measuring_of_guarded {acts : List (Act α)}
    (hguard : Guarded step WritesSupported State.init acts)
    (hrun : run step State.init acts = some s) (hstatus : s.status = .run ∨ s.status = .stopping) :
    ∃ t, s.FramerAlive t := by
  have hinit : (State.init : State α).Measured := by
    rintro (hrun | hstopping)
    · exact absurd hrun (by simp [State.init])
    · exact absurd hstopping (by simp [State.init])
  have hmeasured : s.Measured :=
    run_invariant_of_guarded (fun _ _ _ h hg hs => step_measured h hg hs) hinit hguard hrun
  obtain ⟨t, ht⟩ := (hmeasured hstatus).1
  refine ⟨t, fun hoff => ?_⟩
  simp [hoff, FramerPc.isFraming] at ht

end Steps

/-! ## Two runs -/

/-- Framer thread `t` supports the measurement, and no error is flagged. -/
def supportedBy (t : ℕ) (s : State α) : Bool :=
  (s.framers t).isFraming && (s.framer.map fun fr => decide (0 ≤ fr.errorFlg)).getD true

theorem State.Supported.of_supportedBy {s : State α} {t : ℕ} (h : supportedBy t s = true) :
    s.Supported := by
  obtain ⟨hframing, hflag⟩ := Bool.and_eq_true_iff.mp h
  refine ⟨⟨t, hframing⟩, fun fr hfr hneg => ?_⟩
  simp only [hfr, Option.map_some, Option.getD_some, decide_eq_true_eq] at hflag
  exact absurd hneg (not_lt.mpr hflag)

/-- A test for `WritesSupported`, with the framer thread `t`. -/
def writesSupportedBy (t : ℕ) (s : State α) : Act α → Bool
  | .api _ =>
    match s.api with
    | .runSetStatus => supportedBy t s
    | .stop .setStopping | .terminate .setStopping => s.status = .run
    | _ => true
  | .framer u =>
    match s.framers u with
    | .stop .setStopping => s.status = .run
    | _ => true
  | _ => true

theorem WritesSupported.of_writesSupportedBy (t : ℕ) (s : State α) (a : Act α)
    (h : writesSupportedBy t s a = true) : WritesSupported s a := by
  cases a with
  | api ans =>
    refine ⟨fun hapi => ?_, fun hapi => Or.inl ?_⟩
    · simp only [writesSupportedBy, hapi] at h
      exact .of_supportedBy h
    · rcases hapi with hapi | hapi <;> simpa [writesSupportedBy, hapi] using h
  | framer u =>
    intro hpc
    simp only [writesSupportedBy, hpc, decide_eq_true_eq] at h
    exact Or.inl h
  | _ => trivial

/-- `SiDaqRun`, whose framer thread gets to its loop only after the status has been written, and then
`SiDaqStop`. -/
def runStop : List (Act UInt8) :=
  runCall byteHeader.toRunParams 0 0 ++ List.replicate 4 (.framer 0) ++ [.callStop] ++
    List.replicate 6 (.api .ok)

theorem runStop_measuring :
    ∃ s, run step State.init runStop = some s ∧ s.status = .stopping ∧ ∃ t, s.FramerAlive t := by
  have hguard : Guarded step WritesSupported State.init runStop :=
    guarded_of_guardedBool (WritesSupported.of_writesSupportedBy 0) (by decide)
  exact ⟨_, rfl, rfl, measuring_of_guarded hguard rfl (Or.inr rfl)⟩

/-- `SiDaqRun` in `SIDAQ_IDLE`, with a framer thread that is faster than the write of `SIDAQ_RUN`: it
finds `SIDAQ_IDLE` and exits. -/
def earlyExit : List (Act UInt8) :=
  (runCall byteHeader.toRunParams 0 0).take 12 ++ List.replicate 5 (.framer 0) ++
    List.replicate 2 (.api .ok)

/-- The call is over, the status is `SIDAQ_RUN`, and there is nobody to frame. -/
theorem earlyExit_measures_nothing :
    ∃ s, run step State.init earlyExit = some s ∧ s.ApiIdle ∧ s.status = .run ∧
      ∀ t, ¬ s.FramerAlive t := by
  refine ⟨_, rfl, ⟨_, rfl⟩, rfl, ?_⟩
  rintro (_ | t) halive
  · exact halive rfl
  · exact halive rfl

end SiDaqApi
