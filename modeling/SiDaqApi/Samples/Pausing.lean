import SiDaqApi.Samples.Receiver
import SiDaqApi.Manager.Pause

/-!
# The samples pause the receiving only to save a frame

The receiver thread of a sample calls `SiDaqPauseRecvData` before it saves a frame and
`SiDaqResumeRecvData` after that. Both do nothing when the run is not on, and `SiDaqStop` may come
between them. Still, as long as the run is on, its socket thread waits only while a frame is saved,
and two steps of the receiver thread let it go on (`paused_only_saving`).
-/

namespace SiDaqApi

open Machine

/-! ## The manager -/

section Waits

variable {s₀ s s' : State UInt8} {p : RunParams UInt8} {j k : ℕ}

/-- A socket thread in its loop is kept from receiving, in a run that is on. -/
def State.Waits (s : State UInt8) : Prop :=
  ∃ t, s.SockAlive t ∧ (s.socks t).pc.pastPause = true ∧ s.sockParam.run = true ∧
    s.sockParam.pauseFlg = true

theorem State.Waits.congr (h : s'.Waits) (hparam : s'.sockParam = s.sockParam)
    (hsocks : s'.socks = s.socks) : s.Waits := by
  obtain ⟨t, halive, hpast, hon, hflg⟩ := h
  rw [State.SockAlive, hsocks] at halive
  rw [hsocks] at hpast
  rw [hparam] at hon hflg
  exact ⟨t, halive, hpast, hon, hflg⟩

theorem State.on_before (hkeep : s.sockParam.run = false → s'.sockParam.run = false)
    (hon : s'.sockParam.run = true) : s.sockParam.run = true := by
  by_contra hoff
  rw [hkeep (Bool.eq_false_iff.mpr hoff)] at hon
  exact absurd hon (by simp)

/-- A socket thread that starts clears the flag. -/
theorem State.Waits.before_sock (h : s'.Waits) (hflow : Flowing p s₀ s j k) {t : ℕ}
    {ans : SockAnswer UInt8} (hs : sockStep s t ans = some s') : s.Waits := by
  obtain ⟨u, halive, hpast, hon, hflg⟩ := h
  obtain ⟨ht, hchange⟩ := sockStep_change hs
  obtain rfl : u = t :=
    (hflow.sock_eq ((hchange.alive ht).1 u halive)).trans (hflow.sock_eq ht).symm
  by_cases hbefore : (s.socks u).pc.pastPause = true
  · rw [(sockStep_pause hbefore hs).1] at hflg
    rw [(sockStep_effect hs).run] at hon
    exact ⟨u, ht, hbefore, hon, hflg⟩
  · exfalso
    cases hpc : (s.socks u).pc with
    | start =>
      simp only [sockStep, hpc] at hs
      split at hs
      · obtain rfl := Option.some.inj hs
        simp [State.SockAlive, State.sockTo, State.setSock] at halive
      · obtain rfl := Option.some.inj hs
        simp [State.setSock, SockPc.pastPause] at hpast
    | clearError =>
      simp only [sockStep, hpc, Option.some.injEq] at hs
      subst hs
      simp [State.sockTo, State.setSock, SockPc.pastPause] at hpast
    | clearPause =>
      simp only [sockStep, hpc, Option.some.injEq] at hs
      subst hs
      simp at hflg
    | _ => simp [hpc, SockPc.pastPause] at hbefore

/-- `SiDaqRun` sets `_run` while there is no socket thread. -/
theorem State.Waits.before_api (h : s'.Waits) (hflow : Flowing p s₀ s j k) {ans : ApiAnswer}
    (hs : apiStep s ans = some s') : s.Waits := by
  have hconnecting : s.api.isConnecting = true → ∀ t, ¬ s.SockAlive t := by
    intro hc t ht
    obtain rfl := hflow.sock_eq ht
    exact ht (hflow.connecting hc)
  have hflg := apiStep_pauseFlg hs
  have hrun := apiStep_run hs
  obtain ⟨t, halive, hpast, hon, hflg'⟩ := h
  rcases apiStep_move hs with ⟨_, _, _, _, param, _, rfl, hfrom, -⟩ |
    ⟨_, _, _, _, _, rfl, hapi, -⟩ | ⟨_, u, hapi, -, rfl⟩ | ⟨_, -, rfl⟩ | ⟨_, -, -, rfl⟩ |
    ⟨_, _, -, rfl⟩ | ⟨_, _, _, -, -, rfl⟩ | ⟨_, _, _, -, -, rfl⟩
  · have halive : s.SockAlive t := halive
    have hstarting : s.api.isStarting = false := by
      rw [Bool.eq_false_iff]
      exact fun hc => hconnecting (hfrom hc) t halive
    exact ⟨t, halive, hpast, State.on_before (hrun hstarting) hon, hflg ▸ hflg'⟩
  · exact absurd halive (hconnecting hapi t)
  · -- the new thread is about to start
    exfalso
    by_cases htu : t = u
    · subst htu
      simp [State.setSock, SockPc.pastPause] at hpast
    · apply hconnecting (by rw [hapi]; rfl) t
      simpa [State.SockAlive, State.setSock, State.apiTo, Function.update_of_ne htu] using halive
  · exact ⟨t, halive, hpast, hon, hflg'⟩
  · exact ⟨t, halive, hpast, hon, hflg'⟩
  · exact ⟨t, halive, hpast, hon, hflg'⟩
  · exact ⟨t, halive, hpast, hon, hflg'⟩
  · exact ⟨t, halive, hpast, hon, hflg'⟩

/-- **No step of the manager makes its socket thread wait**, but `SiDaqPauseRecvData`. -/
theorem State.Waits.before (h : s'.Waits) (hflow : Flowing p s₀ s j k) {a : Act UInt8}
    (ha : a.byReceiver = false) (hs : step s a = some s') : s.Waits := by
  cases a with
  | sock t ans => exact h.before_sock hflow hs
  | framer t =>
    obtain ⟨-, _, _, _, _, _, _, _, _, _, _, hchange⟩ := framerStep_change hs
    have hsocks : s'.socks = s.socks := by rw [hchange]; rfl
    obtain ⟨u, halive, hpast, hon, hflg⟩ := h
    rw [State.SockAlive, hsocks] at halive
    rw [hsocks] at hpast
    rw [(framerStep_effect hs).param.pauseFlg] at hflg
    exact ⟨u, halive, hpast, State.on_before (framerStep_effect hs).param.run_false hon, hflg⟩
  | api ans => exact h.before_api hflow hs
  | callRun q | callStop | callReset | callTerminate =>
    obtain ⟨r, -, rfl⟩ := callStep_begins hs
    exact h.congr rfl rfl
  | getData | pause | resume => simp [Act.byReceiver] at ha

end Waits

/-! ## The sample -/

/-- The thread has called `SiDaqPauseRecvData` and not `SiDaqResumeRecvData` yet. -/
def ReceiverPc.saving : ReceiverPc → Bool
  | .write _ | .resume => true
  | _ => false

/-- The socket thread waits only for a frame that is saved. -/
def SampleState.WaitsForSaving (s : SampleState) : Prop :=
  s.mngr.Waits → s.receiver.saving = true

section Saving

variable {m : Sample} {s₀ s s' : SampleState} {p : RunParams UInt8} {j k : ℕ}

theorem SampleState.WaitsForSaving.receiver (h : s.WaitsForSaving) {opened : Bool}
    (hs : receiverStep m s opened = some s') : s'.WaitsForSaving := by
  unfold receiverStep at hs
  cases hpc : s.receiver with
  | off => simp [hpc] at hs
  | testExit | testStatus | testRecv again | testFrame again recvCount =>
    simp only [hpc, Option.some.injEq] at hs
    subst hs
    intro hw
    have hsaving := h hw
    simp [hpc, ReceiverPc.saving] at hsaving
  | getData =>
    simp only [hpc] at hs
    intro hw
    have hsaving : s.receiver.saving = true := by
      split at hs
      · obtain rfl := Option.some.inj hs
        exact h hw
      · obtain ⟨mngr, hmngr, rfl⟩ := Option.map_eq_some_iff.mp hs
        obtain ⟨f, fs, -, rfl⟩ := getData_takes hmngr
        exact h (hw.congr rfl rfl)
    simp [hpc, ReceiverPc.saving] at hsaving
  | pause f =>
    simp only [hpc] at hs
    obtain ⟨mngr, -, rfl⟩ := Option.map_eq_some_iff.mp hs
    exact fun _ => rfl
  | write f =>
    simp only [hpc, Option.some.injEq] at hs
    subst hs
    exact fun _ => rfl
  | resume =>
    -- in a run that is on, this clears the flag
    simp only [hpc] at hs
    obtain ⟨mngr, hmngr, rfl⟩ := Option.map_eq_some_iff.mp hs
    obtain rfl := Option.some.inj hmngr
    rintro ⟨t, -, -, hon, hflg⟩
    simp only [Bool.and_eq_true, Bool.not_eq_true'] at hon hflg
    rw [hon] at hflg
    exact absurd hflg.1 (by simp)

theorem SampleState.WaitsForSaving.step (h : s.WaitsForSaving)
    (hflow : Flowing p s₀.mngr s.mngr j k) {a : SampleAct} (hs : sampleStep m s a = some s') :
    s'.WaitsForSaving := by
  cases a with
  | mngr a =>
    simp only [sampleStep] at hs
    split at hs
    · simp at hs
    · rename_i hother
      obtain ⟨mngr, hmngr, rfl⟩ := Option.map_eq_some_iff.mp hs
      exact fun hw => h (hw.before hflow (Bool.eq_false_iff.mpr hother) hmngr)
  | receiver opened => exact h.receiver hs
  | newFile writeFileFlg =>
    obtain ⟨-, rfl⟩ := sampleStep_newFile hs
    exact h
  | start =>
    obtain ⟨-, hoff, rfl⟩ := sampleStep_start hs
    intro hw
    have hsaving := h hw
    simp [hoff, ReceiverPc.saving] at hsaving
  | forceExit =>
    simp only [sampleStep, Option.some.injEq] at hs
    subst hs
    exact h

/-- The last step of saving a frame, in a run that is on. -/
theorem resume_clears (hpc : s.receiver = .resume) (hon : s.mngr.sockParam.run = true)
    (opened : Bool) :
    ∃ s', sampleStep m s (.receiver opened) = some s' ∧ s'.mngr.sockParam.pauseFlg = false := by
  simp only [sampleStep, receiverStep, hpc]
  refine ⟨_, rfl, ?_⟩
  simp [hon]

/-- **The receiving is paused only while a frame is saved**: in a run of a sample that is on, a
socket thread that is kept from receiving waits for the receiver thread, whatever order the steps
come in; and at most two steps of the receiver thread let it go on. -/
theorem paused_only_saving (hclean : s₀.mngr.Clean) (hp : p.framing.Regular)
    (htwo : p.framing.headerLen.toNat ≤ 2) {acts : List SampleAct} (hacts : ∀ a ∈ acts, a.InRun)
    (hrun : run (sampleStep m) s₀ (.mngr (.callRun p) :: acts) = some s) {t : ℕ}
    (halive : s.mngr.SockAlive t) (hpast : (s.mngr.socks t).pc.pastPause = true)
    (hon : s.mngr.sockParam.run = true) (hflg : s.mngr.sockParam.pauseFlg = true) :
    s.receiver.saving = true ∧ ∃ n ≤ 2, ∀ opened, ∃ s',
      run (sampleStep m) s (List.replicate n (.receiver opened)) = some s' ∧
        s'.mngr.sockParam.pauseFlg = false := by
  obtain ⟨s₁, hcall, hrest⟩ := Option.bind_eq_some_iff.mp hrun
  obtain ⟨hbegin, hstart⟩ := Flowing.start hclean p
  obtain rfl : { s₀ with mngr := s₀.mngr.apiTo (.runBegin p) } = s₁ := by
    simpa [sampleStep, Act.byReceiver, hbegin] using hcall
  have hend := run_invariant_of_guarded
    (I := fun s => (∃ j k, Flowing p s₀.mngr s.mngr j k) ∧ s.WaitsForSaving)
    (G := fun _ a => a.InRun) ?_ ⟨⟨0, 0, hstart⟩, ?_⟩ (guarded_of_forall hacts) hrest
  · have hsaving := hend.2 ⟨t, halive, hpast, hon, hflg⟩
    refine ⟨hsaving, ?_⟩
    cases hpc : s.receiver with
    | write f =>
      refine ⟨2, le_refl 2, fun opened => ?_⟩
      have hwrite : sampleStep m s (.receiver opened) = some { s with
          receiver := .resume, files := addText (if opened then m.line f else []) s.files } := by
        simp only [sampleStep, receiverStep, hpc]
      obtain ⟨s', hs', hclear⟩ := resume_clears (m := m) (s := { s with
        receiver := .resume, files := addText (if opened then m.line f else []) s.files })
        rfl hon opened
      refine ⟨s', ?_, hclear⟩
      show run (sampleStep m) s [.receiver opened, .receiver opened] = some s'
      rw [run_cons, hwrite]
      exact run_singleton hs'
    | resume =>
      refine ⟨1, by decide, fun opened => ?_⟩
      obtain ⟨s', hs', hclear⟩ := resume_clears (m := m) hpc hon opened
      exact ⟨s', run_singleton hs', hclear⟩
    | _ => simp [hpc, ReceiverPc.saving] at hsaving
  · rintro s a s' ⟨⟨j, k, hflow⟩, hw⟩ ha hs
    refine ⟨?_, hw.step hflow hs⟩
    refine run_invariant_of_guarded (I := fun s => ∃ j k, Flowing p s₀.mngr s j k) ?_
      ⟨j, k, hflow⟩ (guarded_of_forall (ha.onMngr s)) (sampleStep_onMngr hs)
    rintro s₁ b s₂ ⟨j', k', h⟩ hb hstep
    exact h.act hp htwo hb hstep
  · -- `SiDaqRun` begins with no thread alive
    rintro ⟨u, hu, -⟩
    obtain rfl := hstart.sock_eq hu
    exact absurd (hstart.connecting rfl) hu

end Saving

/-- A frame has arrived, and the receiver thread is about to save it. -/
def saveHalf : List SampleAct :=
  (runCall byteHeader.toRunParams 0 0).tail.map .mngr ++ [.newFile true, .start] ++
    (recvActs 0 (.of [2, 4, 8])).map .mngr ++ List.replicate 6 (.mngr (.framer 0)) ++
    List.replicate 4 (.receiver true)

theorem saveHalf_paused :
    ∃ s, run (sampleStep mfcSample) .init (.mngr (.callRun byteHeader.toRunParams) :: saveHalf) =
        some s ∧
      s.receiver.saving = true ∧ ∃ n ≤ 2, ∀ opened, ∃ s',
        run (sampleStep mfcSample) s (List.replicate n (.receiver opened)) = some s' ∧
          s'.mngr.sockParam.pauseFlg = false := by
  obtain ⟨s, hrun, hpc, hon, hflg⟩ : ∃ s, run (sampleStep mfcSample) .init
      (.mngr (.callRun byteHeader.toRunParams) :: saveHalf) = some s ∧
        (s.mngr.socks 0).pc = .testLimit ∧ s.mngr.sockParam.run = true ∧
        s.mngr.sockParam.pauseFlg = true := ⟨_, rfl, rfl, rfl, rfl⟩
  exact ⟨s, hrun, paused_only_saving (p := byteHeader.toRunParams) (t := 0) State.clean_init
    ⟨byteHeader_fits, rfl⟩ (by decide) (by decide : ∀ a ∈ saveHalf, a.InRun) hrun
    (by simp [State.SockAlive, hpc]) (by simp [hpc, SockPc.pastPause]) hon hflg⟩

end SiDaqApi
