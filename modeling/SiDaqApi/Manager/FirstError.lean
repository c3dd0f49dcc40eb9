import SiDaqApi.Framer.Overwrites
import SiDaqApi.Manager.Flow

/-!
# The error that is reported

`framer_thread` looks at `_error_code` after each chunk and stores what it finds in the manager.
`ErrorRun` is a run of the manager with the codes that `RecvSiDaqData` has written in it, and
`first_error_reported`: if no call overwrites an error before the report, the error stored is that of
the first code. Every interleaving with the other threads and the application counts, for one call of
`SiDaqRun` that finds no framer thread alive.
-/

namespace SiDaqApi

open Machine

variable {α : Type*}

/-- A manager in a run, and the codes that `RecvSiDaqData` has written to `_error_code` in it. -/
structure ErrorRun (α : Type*) where
  state : State α
  recorded : List FramerErrorCode

/-- `SiDaqRun` has just been called. -/
def ErrorRun.start (s : State α) (p : RunParams α) : ErrorRun α := ⟨s.apiTo (.runBegin p), []⟩

/-- The error in the manager, code and message, is that of the first code. -/
def ErrorRun.TellsFirst (w : ErrorRun α) : Prop :=
  ∃ code, w.recorded.head? = some code ∧ w.state.errorCode = decodeFramerError code ∧
    w.state.errorMessage = decodeFramerErrorString code

section Step

variable [Inhabited α]

def ErrorRun.recordedAfter (w : ErrorRun α) : Act α → List FramerErrorCode
  | .framer t =>
    match w.state.framers t, w.state.framer with
    | .recv c, some fr => w.recorded ++ errors (recvEffects fr c.bytes w.state.eventFrame)
    | _, _ => w.recorded
  | _ => w.recorded

def ErrorRun.step (w : ErrorRun α) (a : Act α) : Option (ErrorRun α) :=
  (SiDaqApi.step w.state a).map fun s' => ⟨s', w.recordedAfter a⟩

/-- A call of `RecvSiDaqData` overwrites no error, as long as none is reported. -/
def OverwritesNone (w : ErrorRun α) (a : Act α) : Prop :=
  ∀ t c fr, a = .framer t → w.state.framers t = .recv c → w.state.framer = some fr →
    fr.errorFlg = 0 → ¬ RecvOverwrites fr c.bytes w.state.eventFrame

end Step

/-! ## The steps of a framer thread -/

/-- The thread has flagged a framing error, and has not stored it yet. -/
def FramerPc.isStoring : FramerPc α → Bool
  | .sysError | .setError => true
  | _ => false

section Framer

variable [Inhabited α] {s s' : State α} {t : ℕ}

/-- What a step of framer thread `t`, which goes on at `pc`, does to `_error_code` and
`_error_flg`. -/
inductive ErrorMove (s : State α) (t : ℕ) (s' : State α) : FramerPc α → Prop
  /-- The thread starts. -/
  | start (fr : SiDaqFramer α) (hpc : s.framers t = .start)
      (hframer : s'.framer = some { fr with errorCode := .noError }) :
      ErrorMove s t s' .testIdle
  /-- `RecvSiDaqData`. -/
  | recv (c : Chunk α) (fr : SiDaqFramer α) (o : Outcome α) (hpc : s.framers t = .recv c)
      (hfr : s.framer = some fr) (ho : recvSiDaqData fr c.bytes s.eventFrame = some o)
      (hframer : s'.framer = some o.framer) : ErrorMove s t s' .checkError
  /-- The error check finds a framing error. -/
  | report (fr : SiDaqFramer α) (hpc : s.framers t = .checkError) (hfr : s.framer = some fr)
      (hflg : fr.errorFlg = 0) (hcode : fr.errorCode ≠ .noError)
      (hframer : s'.framer = some { fr with errorFlg := -1 }) : ErrorMove s t s' .sysError
  /-- `SIDAQ_SYS_ERROR` is written. -/
  | announce (hpc : s.framers t = .sysError) (hframer : s'.framer = s.framer) :
      ErrorMove s t s' .setError
  /-- The error is stored in the manager. -/
  | store (fr : SiDaqFramer α) (hpc : s.framers t = .setError) (hfr : s.framer = some fr)
      (hframer : s'.framer = s.framer) (hcode : s'.errorCode = decodeFramerError fr.errorCode)
      (hmessage : s'.errorMessage = decodeFramerErrorString fr.errorCode) :
      ErrorMove s t s' .clearRun
  /-- Another step leaves the code as it is, and clears no flag. -/
  | keep (pc : FramerPc α) (hrecv : ∀ c, s.framers t ≠ .recv c)
      (hset : s.framers t ≠ .setError) (hstart : pc ≠ .start) (hpc : pc.isStoring = false)
      (hframer : ∀ fr', s'.framer = some fr' → ∃ fr, s.framer = some fr ∧
        fr'.errorCode = fr.errorCode ∧ (fr'.errorFlg = 0 → fr.errorFlg = 0)) :
      ErrorMove s t s' pc

/-- The error check, as a move. -/
theorem checkErrorStep_errorMove {fr : SiDaqFramer α} (hpc : s.framers t = .checkError)
    (hfr : s.framer = some fr) :
    ∃ pc, (checkErrorStep s t fr).framers = Function.update s.framers t pc ∧
      ErrorMove s t (checkErrorStep s t fr) pc := by
  have hrecv : ∀ c, s.framers t ≠ .recv c := by simp [hpc]
  have hset : s.framers t ≠ .setError := by simp [hpc]
  have hkeep : ∀ fr', s.framer = some fr' → ∃ fr, s.framer = some fr ∧
      fr'.errorCode = fr.errorCode ∧ (fr'.errorFlg = 0 → fr.errorFlg = 0) :=
    fun fr' hfr' => ⟨fr', hfr', rfl, id⟩
  unfold checkErrorStep
  by_cases hflg : fr.errorFlg = 0
  · rw [if_pos hflg]
    by_cases hcode : fr.errorCode ≠ .noError
    · rw [if_pos hcode]
      exact ⟨_, rfl, .report fr hpc hfr hflg hcode rfl⟩
    · rw [if_neg hcode]
      split
      · refine ⟨_, rfl, .keep _ hrecv hset (by simp) rfl fun fr' hfr' => ?_⟩
        obtain rfl := Option.some.inj hfr'
        exact ⟨fr, hfr, rfl, fun hzero => absurd hzero (show (-1 : ℤ) ≠ 0 by decide)⟩
      · exact ⟨_, rfl, .keep _ hrecv hset (by simp) rfl hkeep⟩
  · rw [if_neg hflg]
    exact ⟨_, rfl, .keep _ hrecv hset (by simp) rfl hkeep⟩

/-- **Every step of a framer thread does one of these things.** -/
theorem framerStep_errorMove (h : framerStep s t = some s') :
    ∃ pc, s'.framers = Function.update s.framers t pc ∧ ErrorMove s t s' pc := by
  have hkeep : ∀ (s' : State α) (pc : FramerPc α), (∀ c, s.framers t ≠ .recv c) →
      s.framers t ≠ .setError → pc ≠ .start → pc.isStoring = false → s'.framer = s.framer →
        ErrorMove s t s' pc :=
    fun s' pc hrecv hset hstart hpc hframer => .keep pc hrecv hset hstart hpc fun fr' hfr' =>
      ⟨fr', hframer ▸ hfr', rfl, id⟩
  cases hpc : s.framers t with
  | off => simp [framerStep, hpc] at h
  | start =>
    simp only [framerStep, hpc] at h
    obtain ⟨fr, -, rfl⟩ := Option.map_eq_some_iff.mp h
    exact ⟨_, rfl, .start fr hpc rfl⟩
  | recv c =>
    simp only [framerStep, hpc] at h
    obtain ⟨fr, hfr, h⟩ := Option.bind_eq_some_iff.mp h
    obtain ⟨o, ho, rfl⟩ := Option.map_eq_some_iff.mp h
    exact ⟨_, rfl, .recv c fr o hpc hfr ho rfl⟩
  | checkError =>
    simp only [framerStep, hpc] at h
    obtain ⟨fr, hfr, rfl⟩ := Option.map_eq_some_iff.mp h
    exact checkErrorStep_errorMove hpc hfr
  | sysError =>
    simp only [framerStep, hpc, Option.some.injEq] at h
    subst h
    exact ⟨_, rfl, .announce hpc rfl⟩
  | setError =>
    simp only [framerStep, hpc] at h
    obtain ⟨fr, hfr, rfl⟩ := Option.map_eq_some_iff.mp h
    exact ⟨_, rfl, .store fr hpc hfr rfl rfl rfl⟩
  | stop pc =>
    obtain ⟨status, param, sockets, heq⟩ := stopStep_change s pc
    simp only [framerStep, hpc] at h
    rcases hstop : stopStep s pc with ⟨s₁, pc₁ | ok⟩ <;> rw [hstop] at h heq <;> subst heq <;>
      obtain rfl := Option.some.inj h
    · exact ⟨_, rfl, hkeep _ _ (by simp [hpc]) (by simp [hpc]) (by simp) rfl rfl⟩
    · exact ⟨_, rfl, hkeep _ _ (by simp [hpc]) (by simp [hpc]) (by simp) rfl rfl⟩
  | get =>
    simp only [framerStep, hpc] at h
    split at h <;> obtain rfl := Option.some.inj h
    · exact ⟨_, rfl, hkeep _ _ (by simp [hpc]) (by simp [hpc]) (by simp) rfl rfl⟩
    · exact ⟨_, rfl, hkeep _ _ (by simp [hpc]) (by simp [hpc]) (by simp) rfl rfl⟩
  | testQueueError =>
    simp only [framerStep, hpc] at h
    obtain ⟨fr, hfr, rfl⟩ := Option.map_eq_some_iff.mp h
    split
    · refine ⟨_, rfl, .keep _ (by simp [hpc]) (by simp [hpc]) (by simp) rfl fun fr' hfr' => ?_⟩
      obtain rfl := Option.some.inj hfr'
      exact ⟨fr, hfr, rfl, fun hzero => absurd hzero (show (-1 : ℤ) ≠ 0 by decide)⟩
    · exact ⟨_, rfl, hkeep _ _ (by simp [hpc]) (by simp [hpc]) (by simp) rfl rfl⟩
  | flush =>
    simp only [framerStep, hpc] at h
    obtain ⟨fr, hfr, rfl⟩ := Option.map_eq_some_iff.mp h
    unfold flushStep
    split
    · refine ⟨_, rfl, .keep _ (by simp [hpc]) (by simp [hpc]) (by simp) rfl fun fr' hfr' => ?_⟩
      obtain rfl := Option.some.inj hfr'
      exact ⟨fr, hfr, rfl, id⟩
    · exact ⟨_, rfl, hkeep _ _ (by simp [hpc]) (by simp [hpc]) (by simp) rfl rfl⟩
  | exit =>
    simp only [framerStep, hpc] at h
    obtain ⟨fr, -, rfl⟩ := Option.map_eq_some_iff.mp h
    refine ⟨_, rfl, hkeep _ _ (by simp [hpc]) (by simp [hpc]) ?_ ?_ rfl⟩
    · split <;> simp
    · split <;> rfl
  | testIdle | testReset | setQueueError atEnd | empty | testSocket | testExitReset =>
    simp only [framerStep, hpc, Option.some.injEq] at h
    subst h
    refine ⟨_, rfl, hkeep _ _ (by simp [hpc]) (by simp [hpc]) ?_ ?_ rfl⟩
    · split <;> simp
    · split <;> rfl
  | clearRun | wait | close | clearSocket | queueSysError atEnd | setIdle =>
    simp only [framerStep, hpc, Option.some.injEq] at h
    subst h
    exact ⟨_, rfl, hkeep _ _ (by simp [hpc]) (by simp [hpc]) (by simp) rfl rfl⟩

end Framer

/-! ## The first code of a run -/

/-- What holds throughout a run: one framer thread at most, and as long as no error is flagged, the
code that is recorded is the first one. -/
structure ErrorRun.Tracked (w : ErrorRun α) : Prop where
  alone : ∀ t u, w.state.FramerAlive t → w.state.FramerAlive u → t = u
  starting : w.state.api.isStarting → ∀ t, ¬ w.state.FramerAlive t
  fresh : (w.state.api.isStarting ∨ ∃ t, w.state.framers t = .start) → w.recorded = []
  noError : FramerErrorCode.noError ∉ w.recorded
  first : (w.state.api = .runCreateFramer ∨ ∃ t, w.state.FramerAlive t) →
    ∀ fr, w.state.framer = some fr → fr.errorFlg = 0 →
      fr.errorCode = w.recorded.headD .noError
  storing : ∀ t, (w.state.framers t).isStoring → ∀ fr, w.state.framer = some fr →
    w.recorded.head? = some fr.errorCode

section Tracked

variable {w : ErrorRun α} {s' : State α} {t : ℕ}

/-- A step that leaves the framer and its threads alone. -/
theorem ErrorRun.Tracked.of_same (h : w.Tracked) (hframers : s'.framers = w.state.framers)
    (hframer : s'.framer = w.state.framer) (hstarting : s'.api.isStarting → w.state.api.isStarting)
    (hcreate : s'.api = .runCreateFramer → w.state.api = .runCreateFramer) :
    ErrorRun.Tracked ⟨s', w.recorded⟩ where
  alone := by
    unfold State.FramerAlive
    rw [hframers]
    exact h.alone
  starting := by
    intro hs
    unfold State.FramerAlive
    rw [hframers]
    exact h.starting (hstarting hs)
  fresh := by
    rw [hframers]
    exact fun hs => h.fresh (hs.imp_left hstarting)
  noError := h.noError
  first := by
    unfold State.FramerAlive
    rw [hframers, hframer]
    exact fun hs => h.first (hs.imp_left hcreate)
  storing := by
    rw [hframers, hframer]
    exact h.storing

/-- A call that does not start a run. -/
theorem ErrorRun.Tracked.call (h : w.Tracked) {pc : ApiPc α} (hpc : pc.isStarting = false)
    (hstep : callStep w.state pc = some s') : ErrorRun.Tracked ⟨s', w.recorded⟩ := by
  obtain ⟨r, -, rfl⟩ := callStep_begins hstep
  refine h.of_same rfl rfl ?_ ?_
  · intro hs
    exact absurd hs (by simp [State.apiTo, hpc])
  · intro hcreate
    obtain rfl : pc = .runCreateFramer := hcreate
    simp [ApiPc.isStarting] at hpc

variable [Inhabited α]

/-- A step of an API call: it configures the framer before there is a thread. -/
theorem ErrorRun.Tracked.api (h : w.Tracked) {ans : ApiAnswer}
    (hstep : apiStep w.state ans = some s') : ErrorRun.Tracked ⟨s', w.recorded⟩ := by
  have hno : ∀ {pc : ApiPc α}, pc.isStarting = false → pc ≠ .runCreateFramer := by
    rintro pc hpc rfl
    simp [ApiPc.isStarting] at hpc
  cases apiStep_move hstep with
  | quiet pc status code message param sockets heq _ hpc _ _ =>
    subst heq
    refine h.of_same rfl rfl ?_ ?_
    · exact fun hs => absurd hs (by simp [hpc])
    · exact fun hcreate => absurd hcreate (hno hpc)
  | connect pc code message param sockets heq hapi hpc _ =>
    subst heq
    refine h.of_same rfl rfl ?_ ?_
    · exact fun _ => ApiPc.isStarting_of_isConnecting hapi
    · intro hcreate
      obtain rfl : pc = .runCreateFramer := hcreate
      simp [ApiPc.isConnecting] at hpc
  | sock p t hapi _ heq =>
    subst heq
    refine h.of_same rfl rfl ?_ ?_
    · exact fun _ => by rw [hapi]; rfl
    · intro hcreate
      simp [State.setSock, State.apiTo] at hcreate
  | reset pc status hnext heq =>
    subst heq
    have hpc : pc.isStarting = false := by cases hnext <;> rfl
    refine h.of_same rfl rfl ?_ ?_
    · exact fun hs => absurd hs (by simp [State.apiTo, hpc])
    · exact fun hcreate => absurd hcreate (hno hpc)
  | dropRecv status c cs hapi _ heq =>
    subst heq
    exact h.of_same rfl rfl id id
  | dropEvent status f fs hapi _ heq =>
    subst heq
    exact h.of_same rfl rfl id id
  | configure p hapi heq =>
    have hstarting : w.state.api.isStarting := by rw [hapi]; rfl
    have hnone := h.starting hstarting
    have hempty := h.fresh (Or.inl hstarting)
    subst heq
    refine ⟨h.alone, fun _ => hnone, fun _ => hempty, h.noError, fun _ fr hfr _ => ?_,
      fun t hstoring => ?_⟩
    · obtain rfl := Option.some.inj hfr
      rw [hempty]
      rfl
    · have hoff : w.state.framers t = .off := not_not.mp (hnone t)
      simp [State.apiTo, hoff, FramerPc.isStoring] at hstoring
  | framer t hapi _ heq =>
    have hstarting : w.state.api.isStarting := by rw [hapi]; rfl
    have hnone : ∀ u, w.state.framers u = .off := fun u => not_not.mp (h.starting hstarting u)
    have hempty := h.fresh (Or.inl hstarting)
    subst heq
    have halive : ∀ u, ((w.state.apiTo .runSetStatus).framerTo t .start).FramerAlive u → u = t := by
      intro u hu
      by_contra hut
      simp [State.FramerAlive, State.framerTo, State.apiTo, Function.update_of_ne hut, hnone] at hu
    refine ⟨fun u v hu hv => (halive u hu).trans (halive v hv).symm, fun hs => ?_,
      fun _ => hempty, h.noError, fun _ => h.first (Or.inl hapi), fun u hstoring => ?_⟩
    · simp [State.framerTo, State.apiTo, ApiPc.isStarting, ApiPc.runParams] at hs
    · by_cases hut : u = t
      · subst hut
        simp [State.framerTo, FramerPc.isStoring] at hstoring
      · simp [State.framerTo, State.apiTo, Function.update_of_ne hut, hnone,
          FramerPc.isStoring] at hstoring

/-- Only `RecvSiDaqData` records codes. -/
theorem ErrorRun.recordedAfter_framer (hrecv : ∀ c, w.state.framers t ≠ .recv c) :
    w.recordedAfter (.framer t) = w.recorded := by
  simp only [ErrorRun.recordedAfter]
  split
  · rename_i c fr hpc hfr
    exact absurd hpc (hrecv c)
  · rfl

/-- A step of the framer thread: what is left to see to is the recorded codes, and what is stored. -/
theorem ErrorRun.Tracked.of_framer (h : w.Tracked) (hstep : framerStep w.state t = some s')
    {pc : FramerPc α} (hframers : s'.framers = Function.update w.state.framers t pc)
    (hstart : pc ≠ .start) {recorded : List FramerErrorCode}
    (herrors : FramerErrorCode.noError ∉ recorded)
    (hfirst : ∀ fr, s'.framer = some fr → fr.errorFlg = 0 →
      fr.errorCode = recorded.headD .noError)
    (hstoring : pc.isStoring → ∀ fr, s'.framer = some fr → recorded.head? = some fr.errorCode) :
    ErrorRun.Tracked ⟨s', recorded⟩ := by
  obtain ⟨halive, hchange⟩ := framerStep_change hstep
  have hmono := (hchange.alive halive).2
  have hapi : s'.api = w.state.api := by
    obtain ⟨_, _, _, _, _, _, _, _, _, _, rfl⟩ := hchange
    rfl
  have hnot : ¬ w.state.api.isStarting := fun hs => h.starting hs t halive
  have hself : s'.framers t = pc := by rw [hframers, Function.update_self]
  -- thread `t` is the only one
  have hother : ∀ u, u ≠ t → s'.framers u = .off := by
    intro u hut
    by_contra hu
    exact hut (h.alone u t (hmono u hu) halive)
  refine ⟨fun u v hu hv => h.alone u v (hmono u hu) (hmono v hv), ?_, ?_, herrors,
    fun _ => hfirst, ?_⟩
  · exact fun hs => absurd (hapi ▸ hs) hnot
  · rintro (hs | ⟨u, hu⟩)
    · exact absurd (hapi ▸ hs) hnot
    · by_cases hut : u = t
      · exact absurd (hself.symm.trans (hut ▸ hu)) hstart
      · rw [hother u hut] at hu
        cases hu
  · intro u hu
    by_cases hut : u = t
    · rw [hut, hself] at hu
      exact hstoring hu
    · rw [hother u hut] at hu
      simp [FramerPc.isStoring] at hu

/-- A call of `RecvSiDaqData`: the code that it leaves is the first one. -/
theorem ErrorRun.Tracked.recv (h : w.Tracked) (hguard : OverwritesNone w (.framer t)) {c : Chunk α}
    {fr : SiDaqFramer α} {o : Outcome α} (hpc : w.state.framers t = .recv c)
    (hfr : w.state.framer = some fr)
    (ho : recvSiDaqData fr c.bytes w.state.eventFrame = some o) :
    FramerErrorCode.noError ∉ w.recordedAfter (.framer t) ∧
      (o.framer.errorFlg = 0 →
        o.framer.errorCode = (w.recordedAfter (.framer t)).headD .noError) := by
  have hrecorded : w.recordedAfter (.framer t) =
      w.recorded ++ errors (recvEffects fr c.bytes w.state.eventFrame) := by
    simp only [ErrorRun.recordedAfter, hpc, hfr]
  have hno : FramerErrorCode.noError ∉
      w.recorded ++ errors (recvEffects fr c.bytes w.state.eventFrame) := by
    rw [List.mem_append, not_or]
    exact ⟨h.noError, recv_noError_not_mem fr c.bytes w.state.eventFrame⟩
  rw [hrecorded]
  refine ⟨hno, fun hflg => ?_⟩
  have hzero : fr.errorFlg = 0 := (recvSiDaqData_setup ho).errorFlg ▸ hflg
  have halive : w.state.FramerAlive t := by simp [State.FramerAlive, hpc]
  have hfirst := h.first (Or.inr ⟨t, halive⟩) fr hfr hzero
  have hkept := (recv_unreplaced_iff fr c.bytes w.state.eventFrame).mpr
    (hguard t c fr rfl hpc hfr hzero)
  rw [(recvSiDaqData_explains ho).code_eq, lastError]
  exact hkept.getLastD_eq_headD hno hfirst

/-- A step of the framer thread. -/
theorem ErrorRun.Tracked.framer (h : w.Tracked) (hguard : OverwritesNone w (.framer t))
    (hstep : framerStep w.state t = some s') :
    ErrorRun.Tracked ⟨s', w.recordedAfter (.framer t)⟩ := by
  have hfirst := h.first (Or.inr ⟨t, (framerStep_change hstep).1⟩)
  obtain ⟨pc, hframers, hmove⟩ := framerStep_errorMove hstep
  cases hmove with
  | recv c fr o hpc hfr ho hframer =>
    obtain ⟨hno, hcode⟩ := h.recv hguard hpc hfr ho
    refine h.of_framer hstep hframers (by simp) hno (fun fr' hfr' hflg => ?_)
      (by simp [FramerPc.isStoring])
    rw [hframer] at hfr'
    obtain rfl := Option.some.inj hfr'
    exact hcode hflg
  | start fr hpc hframer =>
    rw [ErrorRun.recordedAfter_framer (by simp [hpc])]
    refine h.of_framer hstep hframers (by simp) h.noError (fun fr' hfr' _ => ?_)
      (by simp [FramerPc.isStoring])
    rw [h.fresh (Or.inr ⟨t, hpc⟩)]
    rw [hframer] at hfr'
    obtain rfl := Option.some.inj hfr'
    rfl
  | report fr hpc hfr hflg hcode hframer =>
    rw [ErrorRun.recordedAfter_framer (by simp [hpc])]
    refine h.of_framer hstep hframers (by simp) h.noError (fun fr' hfr' hzero => ?_)
      (fun _ fr' hfr' => ?_)
    · rw [hframer] at hfr'
      obtain rfl := Option.some.inj hfr'
      exact absurd hzero (show (-1 : ℤ) ≠ 0 by decide)
    · rw [hframer] at hfr'
      obtain rfl := Option.some.inj hfr'
      -- an error is recorded, hence there is a first one
      have hhead := hfirst fr hfr hflg
      cases hrecorded : w.recorded with
      | nil => exact absurd (by rw [hhead, hrecorded]; rfl) hcode
      | cons code codes =>
        rw [hrecorded] at hhead
        exact congrArg some hhead.symm
  | announce hpc hframer =>
    rw [ErrorRun.recordedAfter_framer (by simp [hpc])]
    refine h.of_framer hstep hframers (by simp) h.noError ?_ (fun _ => ?_)
    · rw [hframer]
      exact hfirst
    · rw [hframer]
      exact h.storing t (by rw [hpc]; rfl)
  | store fr hpc hfr hframer hcode hmessage =>
    rw [ErrorRun.recordedAfter_framer (by simp [hpc])]
    refine h.of_framer hstep hframers (by simp) h.noError ?_ (by simp [FramerPc.isStoring])
    rw [hframer]
    exact hfirst
  | keep _ hrecv hset hstart hpc hframer =>
    rw [ErrorRun.recordedAfter_framer hrecv]
    refine h.of_framer hstep hframers hstart h.noError (fun fr' hfr' hflg => ?_) (by simp [hpc])
    obtain ⟨fr, hfr, hcode, hzero⟩ := hframer fr' hfr'
    rw [hcode]
    exact hfirst fr hfr (hzero hflg)

/-- A step of a run. -/
theorem ErrorRun.Tracked.act {w' : ErrorRun α} (h : w.Tracked) {a : Act α}
    (hguard : OverwritesNone w a) (hrun : ∀ q, a ≠ .callRun q) (hstep : w.step a = some w') :
    w'.Tracked := by
  obtain ⟨s', hs', rfl⟩ := Option.map_eq_some_iff.mp hstep
  cases a with
  | framer t => exact h.framer hguard hs'
  | sock t ans =>
    obtain ⟨-, th, param, queue, sockets, received, put, rfl⟩ := sockStep_change hs'
    exact h.of_same rfl rfl id id
  | api ans => exact h.api hs'
  | callRun q => exact absurd rfl (hrun q)
  | callStop => exact h.call rfl hs'
  | callReset => exact h.call rfl hs'
  | callTerminate => exact h.call rfl hs'
  | getData =>
    obtain ⟨f, fs, -, rfl⟩ := getData_takes hs'
    exact h.of_same rfl rfl id id
  | pause | resume =>
    simp only [SiDaqApi.step, Option.some.injEq] at hs'
    subst hs'
    exact h.of_same rfl rfl id id

omit [Inhabited α] in
theorem ErrorRun.tracked_start {s : State α} (hnone : ∀ t, ¬ s.FramerAlive t) (p : RunParams α) :
    (ErrorRun.start s p).Tracked := by
  have hoff : ∀ t, s.framers t = .off := fun t => not_not.mp (hnone t)
  constructor
  case alone => exact fun t u ht => absurd ht (hnone t)
  case starting => exact fun _ => hnone
  case fresh => exact fun _ => rfl
  case noError => simp [ErrorRun.start]
  case first =>
    rintro (hcreate | ⟨t, ht⟩)
    · simp [ErrorRun.start, State.apiTo] at hcreate
    · exact absurd ht (hnone t)
  case storing =>
    intro t hstoring
    simp [ErrorRun.start, State.apiTo, hoff t, FramerPc.isStoring] at hstoring

/-- **The error that is reported is the first one**: in every run in which the calls of
`RecvSiDaqData` before the report overwrite none, for all framing arguments and length functions, all
chunks and every interleaving. -/
theorem first_error_reported {s : State α} (hnone : ∀ t, ¬ s.FramerAlive t) (p : RunParams α)
    {acts : List (Act α)} (hacts : ∀ a ∈ acts, ∀ q, a ≠ .callRun q)
    (hguard : Guarded ErrorRun.step OverwritesNone (.start s p) acts) {w w' : ErrorRun α}
    (hrun : run ErrorRun.step (.start s p) acts = some w) {t : ℕ}
    (hpc : w.state.framers t = .setError) (hstep : w.step (.framer t) = some w') :
    w'.TellsFirst := by
  have h : w.Tracked := run_invariant_of_guarded
    (fun _ _ _ h hguard hstep => h.act hguard.1 hguard.2 hstep)
    (ErrorRun.tracked_start hnone p) (hguard.and (guarded_of_forall hacts)) hrun
  obtain ⟨s', hs', rfl⟩ := Option.map_eq_some_iff.mp hstep
  obtain ⟨pc, -, hmove⟩ := framerStep_errorMove hs'
  cases hmove with
  | store fr _ hfr _ hcode hmessage =>
    refine ⟨fr.errorCode, ?_, hcode, hmessage⟩
    rw [ErrorRun.recordedAfter_framer (by simp [hpc])]
    exact h.storing t (by rw [hpc]; rfl) fr hfr
  | keep _ _ hset _ _ _ => exact absurd hpc hset
  | start _ hother _ => simp [hpc] at hother
  | recv _ _ _ hother _ _ _ => simp [hpc] at hother
  | report _ hother _ _ _ _ => simp [hpc] at hother
  | announce hother _ => simp [hpc] at hother

end Tracked

/-! ## Two runs -/

/-- A test for `OverwritesNone`. -/
def overwritesNoneBool [Inhabited α] (w : ErrorRun α) : Act α → Bool
  | .framer t =>
    match w.state.framers t, w.state.framer with
    | .recv c, some fr =>
      decide (Unreplaced fr.errorCode (errors (recvEffects fr c.bytes w.state.eventFrame)))
    | _, _ => true
  | _ => true

theorem OverwritesNone.of_overwritesNoneBool [Inhabited α] (w : ErrorRun α) (a : Act α)
    (h : overwritesNoneBool w a = true) : OverwritesNone w a := by
  rintro t c fr rfl hpc hfr -
  simp only [overwritesNoneBool, hpc, hfr, decide_eq_true_eq] at h
  exact (recv_unreplaced_iff fr c.bytes w.state.eventFrame).mp h

/-- `SiDaqRun`; a chunk is received and framed, and the framer thread writes `SIDAQ_SYS_ERROR`. -/
def untilStored (p : FramingParams UInt8) (c : Chunk UInt8) : List (Act UInt8) :=
  (runCall p.toRunParams 0 0).tail ++ recvActs 0 c ++ List.replicate 7 (.framer 0)

/-- The codes recorded, and what framer thread `0` stores, when that is its next step. -/
def ErrorRun.told (w : ErrorRun UInt8) :
    Option (List FramerErrorCode × SiDaqErrorCode × String) :=
  match w.state.framers 0 with
  | .setError =>
    (w.step (.framer 0)).map fun w' => (w'.recorded, w'.state.errorCode, w'.state.errorMessage)
  | _ => none

theorem ErrorRun.told_eq_some {w : ErrorRun UInt8} {codes : List FramerErrorCode}
    {code : SiDaqErrorCode} {message : String} (h : w.told = some (codes, code, message)) :
    ∃ w', w.state.framers 0 = .setError ∧ w.step (.framer 0) = some w' ∧ w'.recorded = codes ∧
      w'.state.errorCode = code ∧ w'.state.errorMessage = message := by
  unfold ErrorRun.told at h
  split at h
  · rename_i hpc
    obtain ⟨w', hw', heq⟩ := Option.map_eq_some_iff.mp h
    simp only [Prod.mk.injEq] at heq
    exact ⟨w', hpc, hw', heq⟩
  · simp at h

/-- The length function fails on a chunk that is no longer than a frame may be. -/
theorem failingHeader_tellsFirst :
    ∃ w w', run ErrorRun.step (.start State.init failingHeader.toRunParams)
        (untilStored failingHeader (.of [1])) = some w ∧
      w.step (.framer 0) = some w' ∧ w'.recorded = [.getFrameLengthFailed] ∧ w'.TellsFirst := by
  have hacts : ∀ a ∈ untilStored failingHeader (.of [1]), a.InRun := by decide
  have hguard : Guarded ErrorRun.step OverwritesNone
      (.start State.init failingHeader.toRunParams) (untilStored failingHeader (.of [1])) :=
    guarded_of_guardedBool OverwritesNone.of_overwritesNoneBool (by decide)
  have htold : (run ErrorRun.step (.start State.init failingHeader.toRunParams)
      (untilStored failingHeader (.of [1]))).bind ErrorRun.told =
        some ([.getFrameLengthFailed], .getFrameLengthFailed, "Get Frame length failed") := by
    decide
  obtain ⟨w, hw, htold⟩ := Option.bind_eq_some_iff.mp htold
  obtain ⟨w', hpc, hw', hrecorded, -⟩ := ErrorRun.told_eq_some htold
  refine ⟨w, w', hw, hw', hrecorded, first_error_reported (fun t h => h rfl)
    failingHeader.toRunParams (fun a ha q hq => ?_) hguard hw hpc hw'⟩
  have hrun := hacts a ha
  rw [hq] at hrun
  exact hrun

/-- Frames of at most two bytes, and a length function that always fails. -/
def shortFrames : FramingParams UInt8 := { failingHeader with maxFrameLen := 2 }

/-- The length function fails on a chunk of three bytes, which is too long for a frame then. -/
theorem shortFrames_tellsLast :
    ∃ w w', run ErrorRun.step (.start State.init shortFrames.toRunParams)
        (untilStored shortFrames (.of [1, 2, 3])) = some w ∧
      w.state.framers 0 = .setError ∧ w.step (.framer 0) = some w' ∧
      w'.recorded = [.getFrameLengthFailed, .exceedMaxFrameLength] ∧
      w'.state.errorCode = .exceedMaxFrameLength ∧
      w'.state.errorMessage = "Exceed max frame lentgh" ∧ ¬ w'.TellsFirst := by
  have htold : (run ErrorRun.step (.start State.init shortFrames.toRunParams)
      (untilStored shortFrames (.of [1, 2, 3]))).bind ErrorRun.told =
        some ([.getFrameLengthFailed, .exceedMaxFrameLength], .exceedMaxFrameLength,
          "Exceed max frame lentgh") := by
    decide
  obtain ⟨w, hw, htold⟩ := Option.bind_eq_some_iff.mp htold
  obtain ⟨w', hpc, hw', hrecorded, hcode, hmessage⟩ := ErrorRun.told_eq_some htold
  refine ⟨w, w', hw, hpc, hw', hrecorded, hcode, hmessage, ?_⟩
  rintro ⟨code, hfirst, hstored, -⟩
  rw [hrecorded] at hfirst
  obtain rfl : FramerErrorCode.getFrameLengthFailed = code := Option.some.inj hfirst
  rw [hcode] at hstored
  exact absurd hstored (by decide)

end SiDaqApi
