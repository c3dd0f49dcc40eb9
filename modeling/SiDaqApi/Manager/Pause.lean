import SiDaqApi.Manager.Flow
import SiDaqApi.Manager.Shutdown

/-!
# Pausing the receiving

`SiDaqPauseRecvData` sets a flag that the socket thread tests before each `recv`, and clears once
when it starts. A thread that is in `recv` already, or about to call it, receives one more chunk,
and then none until `SiDaqResumeRecvData` (`pause_holds`).
-/

namespace SiDaqApi

open Machine

variable {α : Type*}

/-- The socket thread has cleared the pause flag. -/
def SockPc.pastPause : SockPc α → Bool
  | .start | .clearError | .clearPause => false
  | _ => true

section Steps

variable {s s' : State α} {t : ℕ}

/-- What a step of a socket thread that has cleared the flag does with it. -/
theorem sockStep_pause {ans : SockAnswer α} (hpast : (s.socks t).pc.pastPause = true)
    (h : sockStep s t ans = some s') :
    s'.sockParam.pauseFlg = s.sockParam.pauseFlg ∧ (s'.socks t).pc.pastPause = true ∧
      ((s'.received = s.received ∧
          ((s'.socks t).pc = .recv → s.sockParam.pauseFlg = false)) ∨
        (s.socks t).pc = .recv ∧ (s'.socks t).pc ≠ .recv ∧
          ∃ c, s'.received = s.received ++ [c]) := by
  have hgo : ∀ {s' : State α} {th : SockThread α}, s'.socks = Function.update s.socks t th →
      s'.sockParam.pauseFlg = s.sockParam.pauseFlg → s'.received = s.received →
      th.pc.pastPause = true → (th.pc = .recv → s.sockParam.pauseFlg = false) →
      s'.sockParam.pauseFlg = s.sockParam.pauseFlg ∧ (s'.socks t).pc.pastPause = true ∧
        ((s'.received = s.received ∧
            ((s'.socks t).pc = .recv → s.sockParam.pauseFlg = false)) ∨
          (s.socks t).pc = .recv ∧ (s'.socks t).pc ≠ .recv ∧
            ∃ c, s'.received = s.received ++ [c]) := by
    intro s' th hsocks hflg hreceived hpast hrecv
    rw [hsocks, Function.update_self]
    exact ⟨hflg, hpast, Or.inl ⟨hreceived, hrecv⟩⟩
  obtain ⟨pc, hpc⟩ : ∃ pc, (s.socks t).pc = pc := ⟨_, rfl⟩
  cases pc with
  | off => simp [sockStep, hpc] at h
  | start | clearError | clearPause => simp [hpc, SockPc.pastPause] at hpast
  | recv =>
    simp only [sockStep, hpc, recvStep] at h
    split at h
    · split at h
      · obtain rfl := Option.some.inj h
        refine ⟨rfl, ?_, Or.inr ⟨hpc, ?_, _, rfl⟩⟩
        · simp [State.sockTo, State.setSock, SockPc.pastPause]
        · simp [State.sockTo, State.setSock]
      · simp at h
    · split at h
      · obtain rfl := Option.some.inj h
        exact hgo rfl rfl rfl rfl (by simp)
      · simp at h
    · split at h
      · split at h
        · obtain rfl := Option.some.inj h
          exact hgo rfl rfl rfl rfl (by simp)
        · simp at h
      · obtain rfl := Option.some.inj h
        exact hgo rfl rfl rfl rfl (by simp)
    · simp at h
  | select =>
    simp only [sockStep, hpc, selectStep] at h
    split at h
    · split at h
      · obtain rfl := Option.some.inj h
        exact hgo rfl rfl rfl rfl (by simp)
      · simp at h
    · split at h
      · obtain rfl := Option.some.inj h
        exact hgo rfl rfl rfl rfl (by simp)
      · simp at h
    · obtain rfl := Option.some.inj h
      exact hgo rfl rfl rfl rfl (by simp)
    · simp at h
  | testPause =>
    -- the flag is tested before each `recv`
    simp only [sockStep, hpc, Option.some.injEq] at h
    subst h
    refine hgo rfl rfl rfl ?_ ?_
    · split <;> rfl
    · intro hrecv
      split at hrecv
      · simp at hrecv
      · rename_i hflg
        simpa using hflg
  | testRun | testRunPaused | testLimit =>
    simp only [sockStep, hpc, Option.some.injEq] at h
    subst h
    refine hgo rfl rfl rfl ?_ ?_
    · split <;> rfl
    · split <;> simp
  | put c | queueError | close | clearSocket =>
    simp only [sockStep, hpc, Option.some.injEq] at h
    subst h
    exact hgo rfl rfl rfl rfl (by simp)

variable [Inhabited α]

/-- No API function but the two touches the flag. -/
theorem apiStep_pauseFlg {ans : ApiAnswer} (h : apiStep s ans = some s') :
    s'.sockParam.pauseFlg = s.sockParam.pauseFlg := by
  generalize hparam : s'.sockParam = param
  cases hparam ▸ (apiStep_change h).param with
  | ends hends => exact hends.pauseFlg
  | setSocket p hd hapi | setRun p hapi | setParam p hapi => rfl

end Steps

/-! ## A paused run -/

/-- The action starts no run and does not resume the receiving. -/
def Act.InPause : Act α → Prop
  | .callRun _ | .resume => False
  | _ => True

instance (a : Act α) : Decidable a.InPause :=
  match a with
  | .callRun _ | .resume => isFalse id
  | .sock _ _ | .framer _ | .api _ | .callStop | .callReset | .callTerminate | .getData | .pause =>
    isTrue trivial

/-- The receiving is paused, and no socket thread is created that would clear the flag. -/
structure State.Paused (s : State α) (j : ℕ) : Prop where
  flag : s.sockParam.pauseFlg = true
  socks : ∀ t, s.SockAlive t → t = j
  past : (s.socks j).pc.pastPause = true
  notConnecting : s.api.isConnecting = false

/-- Since `received`, the socket thread has received at most one chunk, and is not about to receive
another one. -/
def State.HasOneMore (s : State α) (received : List (Chunk α)) (j : ℕ) : Prop :=
  ∃ cs, s.received = received ++ cs ∧ cs.length ≤ 1 ∧ ((s.socks j).pc = .recv → cs = [])

section Paused

variable [Inhabited α] {s s' : State α} {j : ℕ} {received : List (Chunk α)}

omit [Inhabited α] in
theorem State.Paused.congr (h : s.Paused j) (hparam : s'.sockParam.pauseFlg = s.sockParam.pauseFlg)
    (hsocks : s'.socks = s.socks) (hapi : s'.api.isConnecting = false) : s'.Paused j := by
  refine ⟨hparam.trans h.flag, fun t ht => ?_, ?_, hapi⟩
  · rw [State.SockAlive, hsocks] at ht
    exact h.socks t ht
  · rw [hsocks]
    exact h.past

omit [Inhabited α] in
theorem State.HasOneMore.congr (h : s.HasOneMore received j) (hreceived : s'.received = s.received)
    (hsocks : s'.socks = s.socks) : s'.HasOneMore received j := by
  unfold State.HasOneMore
  rw [hreceived, hsocks]
  exact h

/-- **A step of a paused run.** -/
theorem State.Paused.step (h : s.Paused j) (hone : s.HasOneMore received j) {a : Act α}
    (ha : a.InPause) (hs : SiDaqApi.step s a = some s') :
    s'.Paused j ∧ s'.HasOneMore received j := by
  cases a with
  | sock t ans =>
    obtain ⟨halive, _, _, _, _, _, _, hchange⟩ := sockStep_change hs
    obtain rfl := h.socks t halive
    obtain ⟨hflg, hpast, hmove⟩ := sockStep_pause h.past hs
    have hapi : s'.api = s.api := by rw [hchange]; rfl
    refine ⟨⟨hflg.trans h.flag, fun u hu => ?_, hpast, hapi ▸ h.notConnecting⟩, ?_⟩
    · by_contra hut
      have hsame : (s'.socks u).pc = (s.socks u).pc := by
        rw [hchange]
        exact congrArg SockThread.pc (Function.update_of_ne hut _ _)
      rw [State.SockAlive, hsame] at hu
      exact hut (h.socks u hu)
    · obtain ⟨cs, hcs, hle, hnil⟩ := hone
      rcases hmove with ⟨hreceived, hrecv⟩ | ⟨hpc, hpc', c, hreceived⟩
      · -- the thread does not get to `recv`
        refine ⟨cs, hreceived.trans hcs, hle, fun hat => ?_⟩
        have hclear := hrecv hat
        rw [h.flag] at hclear
        exact absurd hclear (by simp)
      · obtain rfl := hnil hpc
        refine ⟨[c], ?_, le_refl 1, fun hat => absurd hat hpc'⟩
        rw [hreceived, hcs, List.append_nil]
  | framer t =>
    obtain ⟨-, _, _, _, _, _, _, _, _, _, _, hchange⟩ := framerStep_change hs
    have hsocks : s'.socks = s.socks := by rw [hchange]; rfl
    have hapi : s'.api = s.api := by rw [hchange]; rfl
    have hreceived : s'.received = s.received := by rw [hchange]; rfl
    exact ⟨h.congr ((framerStep_effect hs).param.pauseFlg) hsocks (hapi ▸ h.notConnecting),
      hone.congr hreceived hsocks⟩
  | api ans =>
    have hnot := h.notConnecting
    have hflg := apiStep_pauseFlg hs
    rcases apiStep_move hs with ⟨_, _, _, _, _, _, rfl, -, hpc, -⟩ | ⟨_, _, _, _, _, -, hapi, -⟩ |
      ⟨_, _, hapi, -⟩ | ⟨_, hapi, rfl⟩ | ⟨_, hapi, -, rfl⟩ | ⟨_, _, hnext, rfl⟩ |
      ⟨_, _, _, hapi, -, rfl⟩ | ⟨_, _, _, hapi, -, rfl⟩
    · refine ⟨h.congr hflg rfl ?_, hone.congr rfl rfl⟩
      rw [Bool.eq_false_iff]
      exact fun hc => absurd (ApiPc.isStarting_of_isConnecting hc) (by simp [hpc])
    · simp [hapi] at hnot
    · simp [hapi, ApiPc.isConnecting] at hnot
    · exact ⟨h.congr hflg rfl rfl, hone.congr rfl rfl⟩
    · exact ⟨h.congr hflg rfl rfl, hone.congr rfl rfl⟩
    · refine ⟨h.congr hflg rfl ?_, hone.congr rfl rfl⟩
      cases hnext <;> rfl
    · exact ⟨h.congr hflg rfl hnot, hone.congr rfl rfl⟩
    · exact ⟨h.congr hflg rfl hnot, hone.congr rfl rfl⟩
  | callRun q | resume => exact ha.elim
  | callStop | callReset | callTerminate =>
    obtain ⟨r, -, rfl⟩ := callStep_begins hs
    exact ⟨h.congr rfl rfl rfl, hone.congr rfl rfl⟩
  | getData =>
    obtain ⟨f, fs, -, rfl⟩ := getData_takes hs
    exact ⟨h.congr rfl rfl h.notConnecting, hone.congr rfl rfl⟩
  | pause =>
    simp only [SiDaqApi.step, Option.some.injEq] at hs
    subst hs
    refine ⟨h.congr ?_ rfl h.notConnecting, hone.congr rfl rfl⟩
    simp [h.flag]

/-- **Pausing holds**: after `SiDaqPauseRecvData` in a run whose socket thread is in its loop, at
most one more chunk is received until `SiDaqResumeRecvData`, whatever the threads, the application
and the consumer do. -/
theorem pause_holds {s₀ s₁ : State α} {p : RunParams α} {t : ℕ} (hclean : s₀.Clean)
    (hp : p.framing.Regular) (htwo : p.framing.headerLen.toNat ≤ 2) {acts : List (Act α)}
    (hacts : ∀ a ∈ acts, a.InRun) (hrun : run step s₀ (.callRun p :: acts) = some s₁)
    (halive : s₁.SockAlive t) (hpast : (s₁.socks t).pc.pastPause = true)
    (hon : s₁.sockParam.run = true) {more : List (Act α)} (hmore : ∀ a ∈ more, a.InPause)
    (hrun' : run step s₁ (.pause :: more) = some s) :
    (since s₁.received s.received).length ≤ 1 := by
  obtain ⟨j, k, hflow⟩ := flowing_of_run hclean hp htwo hacts hrun
  obtain rfl := hflow.sock_eq halive
  obtain ⟨s₂, hpause, hrest⟩ := Option.bind_eq_some_iff.mp hrun'
  obtain rfl := Option.some.inj hpause
  have hpaused : State.Paused { s₁ with sockParam :=
      { s₁.sockParam with pauseFlg := s₁.sockParam.run || s₁.sockParam.pauseFlg } } t := by
    refine ⟨by simp [hon], fun u hu => hflow.sock_eq hu, hpast, ?_⟩
    rw [Bool.eq_false_iff]
    exact fun hc => halive (hflow.connecting hc)
  have hend := run_invariant_of_guarded
    (I := fun s => s.Paused t ∧ s.HasOneMore s₁.received t) (G := fun _ a => a.InPause)
    (fun s a s' h ha hs => h.1.step h.2 ha hs) ⟨hpaused, [], by simp, by simp, fun _ => rfl⟩
    (guarded_of_forall hmore) hrest
  obtain ⟨cs, hcs, hle, -⟩ := hend.2
  simpa [since, hcs] using hle

end Paused

/-- The socket thread is about to call `recv`. -/
def atRecv : List (Act UInt8) :=
  (runCall byteHeader.toRunParams 0 0).tail ++ List.replicate 4 (.sock 0 .ok) ++
    [.sock 0 .readable, .sock 0 .ok]

/-- It receives a chunk, puts it, and waits. -/
def oneMore : List (Act UInt8) :=
  [.sock 0 (.data (.of [2, 7, 9]))] ++ List.replicate 5 (.sock 0 .ok)

theorem pause_holds_oneMore :
    ∃ s₁ s, run step State.init (.callRun byteHeader.toRunParams :: atRecv) = some s₁ ∧
      run step s₁ (.pause :: oneMore) = some s ∧ (since s₁.received s.received).length ≤ 1 := by
  obtain ⟨s₁, hrun, hpc, hon⟩ : ∃ s₁, run step State.init
      (.callRun byteHeader.toRunParams :: atRecv) = some s₁ ∧ (s₁.socks 0).pc = .recv ∧
        s₁.sockParam.run = true := ⟨_, rfl, rfl, rfl⟩
  obtain ⟨s, hwhole⟩ : ∃ s, run step State.init
      (.callRun byteHeader.toRunParams :: atRecv ++ .pause :: oneMore) = some s := ⟨_, rfl⟩
  rw [run_append, hrun] at hwhole
  refine ⟨s₁, s, hrun, hwhole, ?_⟩
  apply pause_holds (p := byteHeader.toRunParams) (t := 0) State.clean_init ⟨byteHeader_fits, rfl⟩
    (by decide) (by decide : ∀ a ∈ atRecv, a.InRun) hrun (by simp [State.SockAlive, hpc])
    (by simp [hpc, SockPc.pastPause]) hon (by decide : ∀ a ∈ oneMore, a.InPause) hwhole

end SiDaqApi
