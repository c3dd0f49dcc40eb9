import SiDaqApi.Framer.Conserve
import SiDaqApi.Manager.Flow
import SiDaqApi.Manager.Handles
import SiDaqApi.Manager.Terminate
import SiDaqApi.Lib.Progress

/-!
# A stopped run ends

`SiDaqStop` waits for the socket thread for half a second at most and for the framer thread not at
all. Both end all the same, after a bounded number of their own steps, whatever the application and
the consumer do meanwhile and however long the receive queue is: `stop_ends_run`. So do they when
the connection is lost.

`Stopped` is what is left then: a socket thread can only find its socket closed, and the framer
thread, once the receive queue is empty, no socket. `Tracking` is the invariant of a run that gets
there: an open socket is always the one that `SiDaqStop` is going to close.
-/

namespace SiDaqApi

open Machine

variable {α : Type*}

/-! ## The stopped state -/

/-- The run is over for the socket thread, and there is no socket left to receive from. -/
structure State.Stopped (s : State α) : Prop where
  /-- It is told to stop, or has closed its socket itself. -/
  run : s.sockParam.run = false ∨
    ∀ t, s.SockAlive t → (s.socks t).pc = .testRun ∧ (s.socks t).deviceSocket = none
  device : s.sockParam.deviceSocket = none
  /-- A socket thread that has copied its handle has a closed one. -/
  closed : ∀ t, s.SockAlive t → (s.socks t).pc ≠ .start →
    s.sockets.isOpen (s.socks t).deviceSocket = false
  starting : s.api.isStarting = false

/-- The action starts no run. -/
def Act.StartsNothing : Act α → Prop
  | .callRun _ => False
  | _ => True

theorem Act.InRun.startsNothing {a : Act α} (h : a.InRun) : a.StartsNothing := by
  cases a <;> first | exact h | trivial

section Run

variable {s s' : State α} {t : ℕ}

variable [Inhabited α]

/-- Outside of `SiDaqRun` the application starts nothing. -/
theorem apiStep_stopped {ans : ApiAnswer} (h : apiStep s ans = some s')
    (hstarting : s.api.isStarting = false) :
    s'.api.isStarting = false ∧ s'.socks = s.socks ∧ s'.framers = s.framers ∧
      s'.framer = s.framer ∧ (s.api.resets = false → s'.recvQueue = s.recvQueue) ∧
      s'.recvQueue.length ≤ s.recvQueue.length := by
  have hnot : ∀ {pc}, s.api = pc → pc.isStarting = false := fun hapi => hapi ▸ hstarting
  rcases apiStep_move h with ⟨_, _, _, _, _, _, rfl, -, hpc, -⟩ | ⟨_, _, _, _, _, -, hapi, -⟩ |
    ⟨_, _, hapi, -⟩ | ⟨_, hapi, -⟩ | ⟨_, hapi, -⟩ | ⟨pc, _, hnext, rfl⟩ |
    ⟨_, c, cs, hapi, hqueue, rfl⟩ | ⟨_, _, _, hapi, -, rfl⟩
  · exact ⟨hpc, rfl, rfl, rfl, fun _ => rfl, Nat.le_refl _⟩
  · exact absurd (ApiPc.isStarting_of_isConnecting hapi) (by simp [hstarting])
  · exact absurd (hnot hapi) (by simp [ApiPc.isStarting, ApiPc.runParams])
  · exact absurd (hnot hapi) (by simp [ApiPc.isStarting, ApiPc.runParams])
  · exact absurd (hnot hapi) (by simp [ApiPc.isStarting])
  · refine ⟨?_, rfl, rfl, rfl, fun _ => rfl, Nat.le_refl _⟩
    cases hnext <;> rfl
  · refine ⟨hstarting, rfl, rfl, rfl, fun hreset => ?_, ?_⟩
    · simp [hapi, ApiPc.resets] at hreset
    · simp [hqueue]
  · exact ⟨hstarting, rfl, rfl, rfl, fun _ => rfl, Nat.le_refl _⟩

/-- Only `SiDaqRun` sets `_run`. -/
theorem apiStep_run {ans : ApiAnswer} (h : apiStep s ans = some s')
    (hstarting : s.api.isStarting = false) (hrun : s.sockParam.run = false) :
    s'.sockParam.run = false := by
  have hnot : ∀ {pc}, s.api = pc → pc.isStarting = false := fun hapi => hapi ▸ hstarting
  generalize hparam : s'.sockParam = param
  cases hparam ▸ (apiStep_change h).param with
  | ends hends => exact hends.run_false hrun
  | setSocket p hd hapi | setRun p hapi | setParam p hapi =>
    exact absurd (hnot hapi) (by simp [ApiPc.isStarting, ApiPc.runParams])

/-! ## The stopped state stays -/

omit [Inhabited α] in
theorem State.Stopped.sock_run (h : s.Stopped) {ans : SockAnswer α}
    (hs : sockStep s t ans = some s') : s'.sockParam.run = false ∨
      ∀ u, s'.SockAlive u → (s'.socks u).pc = .testRun ∧ (s'.socks u).deviceSocket = none := by
  rcases h.run with hrun | hat
  · exact Or.inl ((sockStep_effect hs).run.trans hrun)
  · -- the thread has no socket, and ends
    obtain ⟨hpc, hnone⟩ := hat t (sockStep_change hs).1
    simp only [sockStep, hpc, hnone, ne_eq, not_true, and_false, if_false, Option.some.injEq] at hs
    subst hs
    refine Or.inr fun u hu => ?_
    by_cases hut : u = t
    · subst hut
      simp [State.SockAlive, State.sockTo, State.setSock] at hu
    · simp only [State.SockAlive, State.sockTo, State.setSock, Function.update_of_ne hut] at hu ⊢
      exact hat u hu

omit [Inhabited α] in
theorem State.Stopped.sock (h : s.Stopped) {ans : SockAnswer α} (hs : sockStep s t ans = some s') :
    s'.Stopped := by
  have hrun := h.sock_run hs
  obtain ⟨halive, _, _, _, _, _, _, hchange⟩ := sockStep_change hs
  have hapi : s'.api.isStarting = false := by
    rw [hchange]
    exact h.starting
  -- what the thread has afterwards, the other threads being as they were
  have hclosed : ∀ {th : SockThread α}, s'.socks = Function.update s.socks t th →
      (th.pc ≠ .off → th.pc ≠ .start → s'.sockets.isOpen th.deviceSocket = false) →
      (∀ o, s.sockets.isOpen o = false → s'.sockets.isOpen o = false) →
      ∀ u, s'.SockAlive u → (s'.socks u).pc ≠ .start →
        s'.sockets.isOpen (s'.socks u).deviceSocket = false := by
    intro th hsocks hth hmore u hu hstart
    by_cases hut : u = t
    · subst hut
      rw [State.SockAlive, hsocks, Function.update_self] at hu
      rw [hsocks, Function.update_self] at hstart ⊢
      exact hth hu hstart
    · rw [State.SockAlive, hsocks, Function.update_of_ne hut] at hu
      rw [hsocks, Function.update_of_ne hut] at hstart ⊢
      exact hmore _ (h.closed u hu hstart)
  rcases sockStep_use hs with ⟨th, hsocks, hpc, -, hsockets, hdevice⟩ |
    ⟨th, hsocks, -, -, hcopy, hsockets, hdevice⟩ |
    ⟨th, hsocks, hstart, -, -, -, hcopy, -, hsockets, hdevice⟩ |
    ⟨th, hsocks, hreceives, -, hcopy, hsockets, hdevice⟩ |
    ⟨th, hsocks, -, -, hcopy, hsockets, hdevice⟩
  · refine ⟨hrun, hdevice.trans h.device, hclosed hsocks (fun hoff => absurd hpc hoff) ?_, hapi⟩
    rw [hsockets]
    exact fun _ => id
  · refine ⟨hrun, hdevice.trans h.device, hclosed hsocks ?_ ?_, hapi⟩
    · rw [hcopy, h.device]
      exact fun _ _ => rfl
    · rw [hsockets]
      exact fun _ => id
  · refine ⟨hrun, hdevice.trans h.device, hclosed hsocks ?_ ?_, hapi⟩
    · rw [hcopy, hsockets]
      exact fun _ _ => h.closed t halive hstart
    · rw [hsockets]
      exact fun _ => id
  · have hmore : ∀ o, s.sockets.isOpen o = false → s'.sockets.isOpen o = false := by
      intro o ho
      rw [hsockets, Bool.eq_false_iff]
      exact fun hopen => Bool.eq_false_iff.mp ho (Sockets.isOpen_close.mp hopen).1
    refine ⟨hrun, hdevice.trans h.device, hclosed hsocks ?_ hmore, hapi⟩
    rw [hcopy]
    exact fun _ _ => hmore _ (h.closed t halive (SockPc.of_receives hreceives).2.1)
  · refine ⟨hrun, hdevice, hclosed hsocks ?_ ?_, hapi⟩
    · rw [hcopy]
      exact fun _ _ => rfl
    · rw [hsockets]
      exact fun _ => id

omit [Inhabited α] in
/-- A step that touches no socket thread, and opens and assigns no socket. -/
theorem State.Stopped.of_socks (h : s.Stopped)
    (hrun : s.sockParam.run = false → s'.sockParam.run = false)
    (hdevice : s'.sockParam.deviceSocket = s.sockParam.deviceSocket ∨
      s'.sockParam.deviceSocket = none)
    (hsocks : s'.socks = s.socks)
    (hsockets : s'.sockets = s.sockets ∨ ∃ o, s'.sockets = s.sockets.close o)
    (hapi : s'.api.isStarting = false) : s'.Stopped := by
  refine ⟨?_, ?_, ?_, hapi⟩
  · refine h.run.imp hrun fun hat u hu => ?_
    rw [State.SockAlive, hsocks] at hu
    rw [hsocks]
    exact hat u hu
  · rcases hdevice with hdevice | hdevice
    · exact hdevice.trans h.device
    · exact hdevice
  · intro u hu hstart
    rw [State.SockAlive, hsocks] at hu
    rw [hsocks] at hstart ⊢
    have hclosed := h.closed u hu hstart
    rcases hsockets with hsockets | ⟨o, hsockets⟩
    · rw [hsockets]
      exact hclosed
    · rw [hsockets, Bool.eq_false_iff]
      exact fun hopen => Bool.eq_false_iff.mp hclosed (Sockets.isOpen_close.mp hopen).1

theorem State.Stopped.framer (h : s.Stopped) (hs : framerStep s t = some s') : s'.Stopped := by
  have hrun := (framerStep_effect hs).param.run_false
  obtain ⟨-, _, _, _, _, _, _, _, _, _, _, hchange⟩ := framerStep_change hs
  have hsocks : s'.socks = s.socks := by rw [hchange]; rfl
  have hapi : s'.api.isStarting = false := by rw [hchange]; exact h.starting
  rcases framerStep_use hs with ⟨_, -, -, -, -, hsockets, hdevice⟩ |
    ⟨_, -, -, -, hsockets, hdevice⟩ | ⟨_, -, -, -, -, hsockets, hdevice⟩
  · exact h.of_socks hrun (Or.inl hdevice) hsocks (Or.inl hsockets) hapi
  · exact h.of_socks hrun (Or.inl hdevice) hsocks (Or.inr ⟨_, hsockets⟩) hapi
  · exact h.of_socks hrun (Or.inr hdevice) hsocks (Or.inl hsockets) hapi

theorem State.Stopped.api (h : s.Stopped) {ans : ApiAnswer} (hs : apiStep s ans = some s') :
    s'.Stopped := by
  have hrun := apiStep_run hs h.starting
  obtain ⟨hapi, hsocks, -⟩ := apiStep_stopped hs h.starting
  have hstarting := h.starting
  rcases apiStep_use hs with ⟨-, -, -, -, -, -, hsockets, hdevice⟩ | ⟨_, hopens, -⟩ |
    ⟨_, _, hsets, -⟩ | ⟨-, -, -, -, hsockets, hdevice⟩ | ⟨-, -, -, -, hsockets, hdevice⟩
  · exact h.of_socks hrun (Or.inl hdevice) hsocks (Or.inl hsockets) hapi
  · simp [hopens, ApiPc.isStarting, ApiPc.runParams] at hstarting
  · simp [hsets, ApiPc.isStarting, ApiPc.runParams] at hstarting
  · exact h.of_socks hrun (Or.inl hdevice) hsocks (Or.inr ⟨_, hsockets⟩) hapi
  · exact h.of_socks hrun (Or.inr hdevice) hsocks (Or.inl hsockets) hapi

theorem State.Stopped.step (h : s.Stopped) {a : Act α} (ha : a.StartsNothing)
    (hs : step s a = some s') : s'.Stopped := by
  have hsame : ∀ {s' : State α}, s'.sockParam.run = s.sockParam.run →
      s'.sockParam.deviceSocket = s.sockParam.deviceSocket → s'.socks = s.socks →
      s'.sockets = s.sockets → s'.api.isStarting = false → s'.Stopped :=
    fun hrun hdevice hsocks hsockets hapi =>
      h.of_socks hrun.trans (Or.inl hdevice) hsocks (Or.inl hsockets) hapi
  cases a with
  | sock t ans => exact h.sock hs
  | framer t => exact h.framer hs
  | api ans => exact h.api hs
  | callRun p => exact ha.elim
  | callStop | callReset | callTerminate =>
    obtain ⟨r, -, rfl⟩ := callStep_begins hs
    exact hsame rfl rfl rfl rfl rfl
  | getData =>
    obtain ⟨f, fs, -, rfl⟩ := getData_takes hs
    exact hsame rfl rfl rfl rfl h.starting
  | pause | resume =>
    simp only [SiDaqApi.step, Option.some.injEq] at hs
    subst hs
    exact hsame rfl rfl rfl rfl h.starting

end Run

/-! ## How far the threads are from their ends -/

/-- The steps of a stopped socket thread up to its end, and five more for the chunk that it puts. -/
def SockPc.stopRank : SockPc α → ℕ
  | .off => 0
  | .testRun | .select => 1
  | .clearPause | .testRunPaused | .clearSocket => 2
  | .clearError | .close => 3
  | .start | .recv | .queueError => 4
  | .testPause => 5
  | .testLimit => 6
  | .put _ => 12

/-- The steps of a stopped framer thread up to its end when the receive queue is empty, where an
error that is not handled yet takes `pending` steps more. -/
def FramerPc.stopRank (pending : ℕ) : FramerPc α → ℕ
  | .off => 0
  | .setIdle => 1
  | .testExitReset => 2
  | .stop pc => pc.rank + 1
  | .exit => 8
  | .flush => 9
  | .setQueueError true => 10
  | .queueSysError true => 11
  | .testQueueError => 12
  | .testSocket => 13
  | .empty => 14
  | .get => 15 + pending
  | .testReset => 16 + pending
  | .testIdle => 17 + pending
  | .start | .clearSocket | .setQueueError false | .checkError => 18 + pending
  | .recv _ | .close | .queueSysError false => 19 + pending
  | .wait => 20 + pending
  | .clearRun => 21 + pending
  | .setError => 22 + pending
  | .sysError => 23 + pending

/-- An error that the framer thread has not handled yet costs it six steps. -/
def State.pending (s : State α) : ℕ :=
  match s.framer with
  | none => 0
  | some fr => if fr.errorFlg = 0 then 6 else 0

theorem State.pending_of_some {s : State α} {fr : SiDaqFramer α} (h : s.framer = some fr) :
    s.pending = if fr.errorFlg = 0 then 6 else 0 := by
  simp [State.pending, h]

section Rank

variable {s s' : State α} {t : ℕ}

/-- A stopped socket thread comes closer to its end with every step: it receives no more, and puts
one chunk at most. -/
theorem State.Stopped.sock_rank (h : s.Stopped) {ans : SockAnswer α}
    (hs : sockStep s t ans = some s') :
    (s'.socks t).pc.stopRank + 5 * s'.recvQueue.length + 1 ≤
      (s.socks t).pc.stopRank + 5 * s.recvQueue.length := by
  have halive := (sockStep_change hs).1
  have hclosed : (s.socks t).pc ≠ .start → s.sockets.isOpen (s.socks t).deviceSocket = false :=
    h.closed t halive
  have hgo : ∀ {s' : State α} {th : SockThread α}, s'.socks = Function.update s.socks t th →
      s'.recvQueue = s.recvQueue → th.pc.stopRank + 1 ≤ (s.socks t).pc.stopRank →
      (s'.socks t).pc.stopRank + 5 * s'.recvQueue.length + 1 ≤
        (s.socks t).pc.stopRank + 5 * s.recvQueue.length := by
    intro s' th hsocks hqueue hrank
    rw [hsocks, Function.update_self, hqueue]
    omega
  unfold sockStep at hs
  cases hpc : (s.socks t).pc with
  | off => exact absurd hpc halive
  | start =>
    rw [← hpc]
    simp only [hpc] at hs
    split at hs <;>
      (obtain rfl := Option.some.inj hs
       exact hgo rfl rfl (by simp [hpc, SockPc.stopRank]))
  | select =>
    have hnot := hclosed (by simp [hpc])
    rw [← hpc]
    simp only [hpc, selectStep, hnot] at hs
    split at hs
    · simp at hs
    · simp at hs
    · obtain rfl := Option.some.inj hs
      exact hgo rfl rfl (by simp [hpc, SockPc.stopRank])
    · simp at hs
  | recv =>
    -- only an error is left to `recv`
    have hnot := hclosed (by simp [hpc])
    rw [← hpc]
    simp only [hpc, recvStep, hnot] at hs
    split at hs
    · simp at hs
    · simp at hs
    · split at hs
      · simp at hs
      · obtain rfl := Option.some.inj hs
        exact hgo rfl rfl (by simp [hpc, SockPc.stopRank])
    · simp at hs
  | put c =>
    simp only [hpc, Option.some.injEq] at hs
    subst hs
    simp only [State.sockTo, State.setSock, Function.update_self, SockPc.stopRank,
      List.length_append, List.length_singleton]
    omega
  | testRun =>
    have hnot : ¬ (s.sockParam.run = true ∧ (s.socks t).deviceSocket ≠ none) := by
      rcases h.run with hrun | hat
      · simp [hrun]
      · simp [(hat t halive).2]
    rw [← hpc]
    simp only [hpc, if_neg hnot, Option.some.injEq] at hs
    subst hs
    exact hgo rfl rfl (by simp [hpc, SockPc.stopRank])
  | testRunPaused =>
    have hrun : s.sockParam.run = false :=
      h.run.resolve_right fun hat => by simpa [hpc] using (hat t halive).1
    rw [← hpc]
    simp only [hpc, hrun, Option.some.injEq] at hs
    subst hs
    exact hgo rfl rfl (by simp [hpc, SockPc.stopRank])
  | testPause | testLimit =>
    rw [← hpc]
    simp only [hpc, Option.some.injEq] at hs
    subst hs
    refine hgo rfl rfl ?_
    rw [hpc]
    split <;> simp [SockPc.stopRank]
  | clearError | clearPause | queueError | close | clearSocket =>
    rw [← hpc]
    simp only [hpc, Option.some.injEq] at hs
    subst hs
    exact hgo rfl rfl (by simp [hpc, SockPc.stopRank])

variable [Inhabited α]

/-- Inside `SiDaqStop`. -/
theorem framerStep_stop_rank {pc : StopPc} (hpc : s.framers t = .stop pc)
    (hs : framerStep s t = some s') :
    s'.recvQueue = s.recvQueue ∧ ∀ n, (s'.framers t).stopRank n + 1 ≤ (s.framers t).stopRank n := by
  simp only [framerStep, hpc] at hs
  obtain ⟨_, _, _, hchange⟩ := stopStep_change s pc
  rcases hstop : stopStep s pc with ⟨s₁, pc' | ok⟩
  · have hlt := stopStep_rank hstop
    rw [hstop] at hs hchange
    obtain rfl := Option.some.inj hs
    obtain rfl : s₁ = _ := hchange
    refine ⟨rfl, fun n => ?_⟩
    rw [hpc, State.framerTo_self]
    simp only [FramerPc.stopRank]
    omega
  · rw [hstop] at hs hchange
    obtain rfl := Option.some.inj hs
    obtain rfl : s₁ = _ := hchange
    refine ⟨rfl, fun n => ?_⟩
    rw [hpc, State.framerTo_self]
    simp [FramerPc.stopRank]

/-- A stopped framer thread comes closer to its end with every step. -/
theorem State.Stopped.framer_rank (h : s.Stopped) (hs : framerStep s t = some s') :
    (s'.framers t).stopRank s'.pending + 5 * s'.recvQueue.length + 1 ≤
      (s.framers t).stopRank s.pending + 5 * s.recvQueue.length := by
  have hgo : ∀ {s' : State α} {pc : FramerPc α}, s'.framers = Function.update s.framers t pc →
      s'.framer = s.framer → s'.recvQueue = s.recvQueue →
      pc.stopRank s.pending + 1 ≤ (s.framers t).stopRank s.pending →
      (s'.framers t).stopRank s'.pending + 5 * s'.recvQueue.length + 1 ≤
        (s.framers t).stopRank s.pending + 5 * s.recvQueue.length := by
    intro s' pc hframers hframer hqueue hrank
    have hpending : s'.pending = s.pending := by rw [State.pending, hframer, State.pending]
    rw [hframers, Function.update_self, hqueue, hpending]
    omega
  cases hpc : s.framers t with
  | off => simp [framerStep, hpc] at hs
  | stop pc =>
    obtain ⟨hqueue, hrank⟩ := framerStep_stop_rank hpc hs
    obtain ⟨pc', rfl⟩ := framerStep_stop hpc hs
    obtain ⟨_, _, _, hchange⟩ := stopStep_change s pc
    have hpending : ((stopStep s pc).1.framerTo t pc').pending = s.pending := by
      rw [State.framerTo, hchange]
      rfl
    rw [← hpc, hqueue, hpending]
    have := hrank s.pending
    omega
  | get =>
    simp only [framerStep, hpc] at hs
    split at hs
    · rw [← hpc]
      obtain rfl := Option.some.inj hs
      exact hgo rfl rfl rfl (by simp only [hpc, FramerPc.stopRank]; omega)
    · rename_i c cs hqueue
      obtain rfl := Option.some.inj hs
      rw [hqueue]
      show (Function.update s.framers t (.recv c) t).stopRank s.pending + 5 * cs.length + 1 ≤ _
      rw [Function.update_self, List.length_cons]
      simp only [FramerPc.stopRank]
      omega
  | recv c =>
    simp only [framerStep, hpc] at hs
    obtain ⟨fr, hfr, hs⟩ := Option.bind_eq_some_iff.mp hs
    obtain ⟨o, ho, rfl⟩ := Option.map_eq_some_iff.mp hs
    have hpending : s.pending = if o.framer.errorFlg = 0 then 6 else 0 := by
      rw [s.pending_of_some hfr, (recvSiDaqData_setup ho).errorFlg]
    show (Function.update s.framers t .checkError t).stopRank
      (if o.framer.errorFlg = 0 then 6 else 0) + 5 * s.recvQueue.length + 1 ≤ _
    rw [Function.update_self, ← hpending]
    simp only [FramerPc.stopRank]
    omega
  | checkError =>
    simp only [framerStep, hpc] at hs
    obtain ⟨fr, hfr, rfl⟩ := Option.map_eq_some_iff.mp hs
    have hpending := s.pending_of_some hfr
    unfold checkErrorStep
    split
    · rename_i hflg
      rw [if_pos hflg] at hpending
      -- the error is handled from here on
      split
      · show (Function.update s.framers t .sysError t).stopRank 0 + 5 * s.recvQueue.length + 1 ≤ _
        rw [Function.update_self, hpending]
        simp only [FramerPc.stopRank]
        omega
      · split
        · show (Function.update s.framers t (.queueSysError false) t).stopRank 0 +
            5 * s.recvQueue.length + 1 ≤ _
          rw [Function.update_self, hpending]
          simp only [FramerPc.stopRank]
          omega
        · rw [← hpc]
          exact hgo rfl rfl rfl (by simp only [hpc, FramerPc.stopRank]; omega)
    · rw [← hpc]
      exact hgo rfl rfl rfl (by simp only [hpc, FramerPc.stopRank]; omega)
  | testQueueError =>
    simp only [framerStep, hpc] at hs
    obtain ⟨fr, hfr, rfl⟩ := Option.map_eq_some_iff.mp hs
    split
    · show (Function.update s.framers t (.queueSysError true) t).stopRank 0 +
        5 * s.recvQueue.length + 1 ≤ _
      rw [Function.update_self]
      simp only [FramerPc.stopRank]
      omega
    · rw [← hpc]
      exact hgo rfl rfl rfl (by simp only [hpc, FramerPc.stopRank]; omega)
  | flush =>
    simp only [framerStep, hpc] at hs
    obtain ⟨fr, hfr, rfl⟩ := Option.map_eq_some_iff.mp hs
    unfold flushStep
    split
    · show (Function.update s.framers t .exit t).stopRank (if fr.errorFlg = 0 then 6 else 0) +
        5 * s.recvQueue.length + 1 ≤ _
      rw [Function.update_self]
      simp only [FramerPc.stopRank]
      omega
    · rw [← hpc]
      exact hgo rfl rfl rfl (by simp only [hpc, FramerPc.stopRank]; omega)
  | start =>
    simp only [framerStep, hpc] at hs
    obtain ⟨fr, hfr, rfl⟩ := Option.map_eq_some_iff.mp hs
    show (Function.update s.framers t .testIdle t).stopRank (if fr.errorFlg = 0 then 6 else 0) +
      5 * s.recvQueue.length + 1 ≤ _
    rw [Function.update_self, ← s.pending_of_some hfr]
    simp only [FramerPc.stopRank]
    omega
  | setError | exit =>
    rw [← hpc]
    simp only [framerStep, hpc] at hs
    obtain ⟨fr, hfr, rfl⟩ := Option.map_eq_some_iff.mp hs
    refine hgo rfl rfl rfl ?_
    rw [hpc]
    (try split) <;> (simp only [FramerPc.stopRank, StopPc.rank]; omega)
  | testIdle | testReset | empty | testExitReset =>
    rw [← hpc]
    simp only [framerStep, hpc, Option.some.injEq] at hs
    subst hs
    refine hgo rfl rfl rfl ?_
    rw [hpc]
    split <;> (simp only [FramerPc.stopRank]; omega)
  | testSocket =>
    rw [← hpc]
    simp only [framerStep, hpc, h.device, ne_eq, not_true_eq_false, if_false,
      Option.some.injEq] at hs
    subst hs
    exact hgo rfl rfl rfl (by simp only [hpc, FramerPc.stopRank]; omega)
  | setQueueError atEnd | queueSysError atEnd =>
    rw [← hpc]
    simp only [framerStep, hpc, Option.some.injEq] at hs
    subst hs
    refine hgo rfl rfl rfl ?_
    rw [hpc]
    cases atEnd <;>
      (simp only [FramerPc.stopRank, if_true, Bool.false_eq_true, if_false]; omega)
  | sysError | clearRun | wait | close | clearSocket | setIdle =>
    rw [← hpc]
    simp only [framerStep, hpc, Option.some.injEq] at hs
    subst hs
    exact hgo rfl rfl rfl (by simp only [hpc, FramerPc.stopRank]; omega)

end Rank

/-! ## Neither thread is ever stuck -/

section Enabled

variable {s : State α} {t : ℕ}

theorem State.SockAlive.enabled (h : s.SockAlive t) : ∃ ans s', sockStep s t ans = some s' := by
  cases hpc : (s.socks t).pc with
  | off => exact absurd hpc h
  | select => exact ⟨.error 0, by simp [sockStep, hpc, selectStep]⟩
  | recv =>
    -- `recv` may fail at any time
    exact ⟨.error 0, by simp [sockStep, hpc, recvStep, wsaEWouldBlock]⟩
  | _ => exact ⟨.ok, by simp [sockStep, hpc]⟩

theorem State.FramerAlive.enabled [Inhabited α] (h : s.FramerAlive t) {fr : SiDaqFramer α}
    (hfr : s.framer = some fr) (hready : Ready fr) : ∃ s', framerStep s t = some s' := by
  cases hpc : s.framers t with
  | off => exact absurd hpc h
  | recv c =>
    obtain ⟨o, ho⟩ := recvSiDaqData_total hready c.fits s.eventFrame
    simp [framerStep, hpc, frameChunk, hfr, ho]
  | get =>
    simp only [framerStep, hpc]
    split <;> exact ⟨_, rfl⟩
  | stop pc =>
    simp only [framerStep, hpc]
    split <;> exact ⟨_, rfl⟩
  | _ => simp [framerStep, hpc, hfr]

end Enabled

/-! ## What `SiDaqStop` leaves behind -/

/-- `SiDaqStop` has cleared `_run`. -/
def StopPc.cleared : StopPc → Bool
  | .wait | .close | .clearSocket => true
  | _ => false

/-- The framer thread is inside `SiDaqStop`, which has cleared `_run`. -/
def FramerPc.cleared : FramerPc α → Bool
  | .stop pc => pc.cleared
  | _ => false

/-- The application is inside `SiDaqStop`, which has cleared `_run`. -/
def ApiPc.cleared : ApiPc α → Bool
  | .stop pc | .terminate pc => pc.cleared
  | _ => false

/-- In a run, an open socket of a socket thread is `device_socket`, unless that is closed. -/
structure State.Tracking (s : State α) : Prop where
  own : ∀ t, s.SockAlive t → (s.socks t).pc ≠ .start →
    s.sockets.isOpen (s.socks t).deviceSocket = true →
      (s.socks t).deviceSocket = s.sockParam.deviceSocket
  clears : ((∃ t, (s.framers t).clears = true) ∨ s.api.clears = true) →
    s.sockets.isOpen s.sockParam.deviceSocket = false
  cleared : ((∃ t, (s.framers t).cleared = true) ∨ s.api.cleared = true) →
    s.sockParam.run = false

section Cleared

variable {s s' : State α} {t : ℕ}

theorem stopStep_cleared {pc pc' : StopPc} (hpc : (stopStep s pc).2 = .inl pc')
    (hcleared : pc'.cleared = true) :
    pc.cleared = true ∨ (stopStep s pc).1.sockParam.run = false := by
  cases pc with
  | clearRun => exact Or.inr rfl
  | wait | close | clearSocket => exact Or.inl rfl
  | testIdle => simp [stopStep] at hpc
  | setStopping =>
    obtain rfl := Sum.inl.inj hpc
    simp [StopPc.cleared] at hcleared
  | testRun | testSysError =>
    obtain rfl := Sum.inl.inj hpc
    split at hcleared <;> simp [StopPc.cleared] at hcleared

theorem FramerPc.hasLeft_of_cleared {pc : FramerPc α} (h : pc.cleared = true) :
    pc.hasLeft = true := by
  cases pc <;> first | rfl | simp [FramerPc.cleared] at h

variable [Inhabited α]

/-- A framer thread gets there inside its `SiDaqStop` only. -/
theorem framerStep_cleared (h : framerStep s t = some s')
    (hcleared : (s'.framers t).cleared = true) :
    (s.framers t).cleared = true ∨ s'.sockParam.run = false := by
  have hleft : (s'.framers t).hasLeft = true := FramerPc.hasLeft_of_cleared hcleared
  rcases framerStep_turn h with ⟨-, hinside, -, -, -, -, -⟩ | ⟨-, hexit, -, -⟩ | ⟨houtside, -, -⟩
  · exact absurd (hinside.symm.trans hleft) Bool.false_ne_true
  · rw [hexit] at hcleared
    exact absurd hcleared Bool.false_ne_true
  cases hpc : s.framers t with
  | stop pc =>
    simp only [framerStep, hpc] at h
    split at h
    · rename_i s₁ pc' hstop
      obtain rfl := Option.some.inj h
      rw [State.framerTo_self] at hcleared
      have hmove : pc.cleared = true ∨ (stopStep s pc).1.sockParam.run = false :=
        stopStep_cleared (by rw [hstop]) hcleared
      rwa [hstop] at hmove
    · obtain rfl := Option.some.inj h
      rw [State.framerTo_self] at hcleared
      exact absurd hcleared Bool.false_ne_true
  | off => simp [framerStep, hpc] at h
  | exit =>
    simp only [framerStep, hpc] at h
    obtain ⟨fr, -, rfl⟩ := Option.map_eq_some_iff.mp h
    rw [State.framerTo_self] at hcleared
    split at hcleared <;> simp [FramerPc.cleared, StopPc.cleared] at hcleared
  | testExitReset | setIdle =>
    simp only [framerStep, hpc, Option.some.injEq] at h
    subst h
    simp only [State.framerTo, Function.update_self] at hcleared
    (try split at hcleared) <;> simp [FramerPc.cleared] at hcleared
  | _ => simp [hpc, FramerPc.hasLeft] at houtside

theorem apiStep_cleared {ans : ApiAnswer} (h : apiStep s ans = some s')
    (hcleared : s'.api.cleared = true) : s.api.cleared = true ∨ s'.sockParam.run = false := by
  cases hapi : s.api with
  | stop pc | terminate pc =>
    simp only [apiStep, hapi] at h
    split at h
    · rename_i s₁ pc' hstop
      obtain rfl := Option.some.inj h
      have hmove : pc.cleared = true ∨ (stopStep s pc).1.sockParam.run = false :=
        stopStep_cleared (by rw [hstop]) hcleared
      rwa [hstop] at hmove
    · obtain rfl := Option.some.inj h
      exact absurd hcleared Bool.false_ne_true
  | returned r | deleting => simp [apiStep, hapi] at h
  -- no other call goes on inside `SiDaqStop`
  | runSocket p | runConnect p hd | runAddress p hd | runSockopt p hd =>
    simp only [apiStep, hapi, connectStep] at h
    (repeat' split at h) <;>
      (obtain rfl := Option.some.inj h
       simp [State.apiTo, ApiPc.cleared] at hcleared)
  | runCreateSock p | runCreateFramer =>
    simp only [apiStep, hapi] at h
    split at h
    · split at h
      · obtain rfl := Option.some.inj h
        simp [State.apiTo, State.setSock, State.framerTo, ApiPc.cleared] at hcleared
      · simp at h
    · simp at h
  | resetRecv status | resetEvent status =>
    simp only [apiStep, hapi] at h
    split at h <;>
      (obtain rfl := Option.some.inj h
       simp [State.apiTo, ApiPc.cleared] at hcleared)
  | runBegin p | resetRead =>
    simp only [apiStep, hapi, Option.some.injEq] at h
    subst h
    simp only [State.apiTo, State.setSiDaqError] at hcleared
    split at hcleared <;> simp [ApiPc.cleared] at hcleared
  | runSetSocket p hd | runSetRun p | runSetParam p | runFail e | runFailStatus | runConfigure p
  | runSetStatus | runReturn | resetSet status | resetRestore status =>
    simp only [apiStep, hapi, Option.some.injEq] at h
    subst h
    simp [State.apiTo, State.setSiDaqError, ApiPc.cleared] at hcleared

end Cleared

section Tracking

variable {p : RunParams α} {s₀ s s' : State α} {j k t : ℕ}

theorem State.Tracking.sock (h : s.Tracking) (hflow : Flowing p s₀ s j k) {ans : SockAnswer α}
    (hs : sockStep s t ans = some s') : s'.Tracking := by
  obtain ⟨halive, _, _, _, _, _, _, hchange⟩ := sockStep_change hs
  have hframers : s'.framers = s.framers := by rw [hchange]; rfl
  have hapi : s'.api = s.api := by rw [hchange]; rfl
  -- there is no other socket thread
  have hown : ∀ {th : SockThread α}, s'.socks = Function.update s.socks t th →
      (th.pc ≠ .off → th.pc ≠ .start → s'.sockets.isOpen th.deviceSocket = true →
        th.deviceSocket = s'.sockParam.deviceSocket) →
      ∀ u, s'.SockAlive u → (s'.socks u).pc ≠ .start →
        s'.sockets.isOpen (s'.socks u).deviceSocket = true →
          (s'.socks u).deviceSocket = s'.sockParam.deviceSocket := by
    intro th hsocks hth u hu
    by_cases hut : u = t
    · subst hut
      rw [State.SockAlive, hsocks, Function.update_self] at hu
      rw [hsocks, Function.update_self]
      exact hth hu
    · rw [State.SockAlive, hsocks, Function.update_of_ne hut] at hu
      exact absurd ((hflow.sock_eq hu).trans (hflow.sock_eq halive).symm) hut
  have hcleared : ((∃ t, (s'.framers t).cleared = true) ∨ s'.api.cleared = true) →
      s'.sockParam.run = false := by
    rw [hframers, hapi, (sockStep_effect hs).run]
    exact h.cleared
  have hclears : (s.sockets.isOpen s.sockParam.deviceSocket = false →
      s'.sockets.isOpen s'.sockParam.deviceSocket = false) →
      ((∃ t, (s'.framers t).clears = true) ∨ s'.api.clears = true) →
        s'.sockets.isOpen s'.sockParam.deviceSocket = false := by
    rw [hframers, hapi]
    exact fun hmore hc => hmore (h.clears hc)
  rcases sockStep_use hs with ⟨th, hsocks, hpc, -, hsockets, hdevice⟩ |
    ⟨th, hsocks, -, -, hcopy, hsockets, hdevice⟩ |
    ⟨th, hsocks, hstart, -, -, -, hcopy, -, hsockets, hdevice⟩ |
    ⟨th, hsocks, -, -, hcopy, hsockets, hdevice⟩ |
    ⟨th, hsocks, -, -, hcopy, hsockets, hdevice⟩
  · exact ⟨hown hsocks fun hoff => absurd hpc hoff, hclears (by rw [hsockets, hdevice]; exact id),
      hcleared⟩
  · exact ⟨hown hsocks fun _ _ _ => hcopy.trans hdevice.symm,
      hclears (by rw [hsockets, hdevice]; exact id), hcleared⟩
  · refine ⟨hown hsocks fun _ _ => ?_, hclears (by rw [hsockets, hdevice]; exact id), hcleared⟩
    rw [hsockets, hdevice, hcopy]
    exact h.own t halive hstart
  · refine ⟨hown hsocks fun _ _ hopen => ?_, hclears ?_, hcleared⟩
    · rw [hsockets, hcopy] at hopen
      exact absurd rfl (Sockets.isOpen_close.mp hopen).2
    · rw [hsockets, hdevice]
      intro hclosed
      rw [Bool.eq_false_iff]
      exact fun hopen => Bool.eq_false_iff.mp hclosed (Sockets.isOpen_close.mp hopen).1
  · refine ⟨hown hsocks fun _ _ hopen => ?_, hclears fun _ => ?_, hcleared⟩
    · rw [hcopy] at hopen
      exact absurd hopen Bool.false_ne_true
    · rw [hdevice]
      rfl

/-- A step that touches no socket thread and opens no socket. -/
theorem State.Tracking.of_socks (h : s.Tracking)
    (hsocks : ∀ u, s'.SockAlive u → (s'.socks u).pc ≠ .start → s'.socks u = s.socks u)
    (hclears : ((∃ t, (s'.framers t).clears = true) ∨ s'.api.clears = true) →
      s'.sockets.isOpen s'.sockParam.deviceSocket = false)
    (hcleared : ((∃ t, (s'.framers t).cleared = true) ∨ s'.api.cleared = true) →
      s'.sockParam.run = false)
    (hsockets : ∀ o, s'.sockets.isOpen o = true → s.sockets.isOpen o = true)
    (hdevice : ∀ o, s'.sockets.isOpen o = true → o = s.sockParam.deviceSocket →
      o = s'.sockParam.deviceSocket) : s'.Tracking := by
  refine ⟨fun u hu hstart hopen => ?_, hclears, hcleared⟩
  have hsame := hsocks u hu hstart
  rw [State.SockAlive, hsame] at hu
  rw [hsame] at hstart hopen ⊢
  exact hdevice _ hopen (h.own u hu hstart (hsockets _ hopen))

variable [Inhabited α]

theorem State.Tracking.framer (h : s.Tracking) (hs : framerStep s t = some s') : s'.Tracking := by
  obtain ⟨halive, _, _, _, _, _, _, _, _, _, _, hchange⟩ := framerStep_change hs
  have hsocks : s'.socks = s.socks := by rw [hchange]; rfl
  have hapi : s'.api = s.api := by rw [hchange]; rfl
  have hothers : ∀ u, u ≠ t → s'.framers u = s.framers u := by
    intro u hut
    rw [hchange]
    exact Function.update_of_ne hut _ _
  have hcleared : ((∃ t, (s'.framers t).cleared = true) ∨ s'.api.cleared = true) →
      s'.sockParam.run = false := by
    rintro (⟨u, hu⟩ | hcl)
    · by_cases hut : u = t
      · subst hut
        rcases framerStep_cleared hs hu with hcl | hrun
        · exact (framerStep_effect hs).param.run_false (h.cleared (Or.inl ⟨u, hcl⟩))
        · exact hrun
      · rw [hothers u hut] at hu
        exact (framerStep_effect hs).param.run_false (h.cleared (Or.inl ⟨u, hu⟩))
    · rw [hapi] at hcl
      exact (framerStep_effect hs).param.run_false (h.cleared (Or.inr hcl))
  have hsame : ∀ u, s'.SockAlive u → (s'.socks u).pc ≠ .start → s'.socks u = s.socks u :=
    fun u _ _ => congrFun hsocks u
  rcases framerStep_use hs with ⟨pc, -, -, hpc, hframers, hsockets, hdevice⟩ |
    ⟨pc, -, -, -, hsockets, hdevice⟩ | ⟨pc, -, hclears, hpc, hframers, hsockets, hdevice⟩
  · refine h.of_socks hsame ?_ hcleared (by rw [hsockets]; exact fun _ => id)
      (by rw [hdevice]; exact fun _ _ => id)
    rw [hsockets, hdevice, hapi]
    rintro (⟨u, hu⟩ | hcl)
    · by_cases hut : u = t
      · subst hut
        rw [hframers, Function.update_self, hpc] at hu
        exact absurd hu Bool.false_ne_true
      · rw [hothers u hut] at hu
        exact h.clears (Or.inl ⟨u, hu⟩)
    · exact h.clears (Or.inr hcl)
  · refine h.of_socks hsame (fun _ => ?_) hcleared ?_ (by rw [hdevice]; exact fun _ _ => id)
    · rw [hsockets, hdevice, Bool.eq_false_iff]
      exact fun hopen => (Sockets.isOpen_close.mp hopen).2 rfl
    · rw [hsockets]
      exact fun o hopen => (Sockets.isOpen_close.mp hopen).1
  · refine h.of_socks hsame (fun _ => by rw [hdevice]; rfl) hcleared
      (by rw [hsockets]; exact fun _ => id) ?_
    rw [hsockets]
    rintro o hopen rfl
    exact absurd hopen (Bool.eq_false_iff.mp (h.clears (Or.inl ⟨t, hclears⟩)))

omit [Inhabited α] in
theorem ApiPc.not_starting_of_cleared {pc : ApiPc α} (h : pc.cleared = true) :
    pc.isStarting = false := by
  cases pc <;> first | rfl | simp [ApiPc.cleared] at h

theorem State.Tracking.api (h : s.Tracking) (hflow : Flowing p s₀ s j k) {ans : ApiAnswer}
    (hs : apiStep s ans = some s') : s'.Tracking := by
  have hsame : ∀ u, s'.SockAlive u → (s'.socks u).pc ≠ .start → s'.socks u = s.socks u := by
    intro u _ hstart
    rcases (apiStep_change hs).threads with ⟨-, -, hsocks, -⟩ | ⟨_, t, -, -, hsocks, -⟩ |
      ⟨t, -, -, hsocks, -⟩
    · exact congrFun hsocks u
    · by_cases hut : u = t
      · subst hut
        rw [hsocks, Function.update_self] at hstart
        exact absurd rfl hstart
      · rw [hsocks, Function.update_of_ne hut]
    · exact congrFun hsocks u
  have hframers : ∀ u, s'.framers u = s.framers u ∨ s'.framers u = .start := by
    intro u
    rcases (apiStep_change hs).threads with ⟨-, -, -, hframers⟩ | ⟨_, t, -, -, -, hframers⟩ |
      ⟨t, -, -, -, hframers⟩
    · exact Or.inl (congrFun hframers u)
    · exact Or.inl (congrFun hframers u)
    · by_cases hut : u = t
      · subst hut
        rw [hframers, Function.update_self]
        exact Or.inr rfl
      · rw [hframers, Function.update_of_ne hut]
        exact Or.inl rfl
  have hnot : ∀ {u}, s.FramerAlive u → s.api.isStarting = false := by
    intro u hu
    rw [Bool.eq_false_iff]
    exact fun hstarting => hu ((hflow.nothing_of_starting hstarting).1 u)
  have hcleared : ((∃ t, (s'.framers t).cleared = true) ∨ s'.api.cleared = true) →
      s'.sockParam.run = false := by
    rintro (⟨u, hu⟩ | hcl)
    · rcases hframers u with hsame | hstart
      · rw [hsame] at hu
        have halive : s.FramerAlive u := by
          intro hoff
          rw [hoff] at hu
          exact Bool.false_ne_true hu
        exact apiStep_run hs (hnot halive) (h.cleared (Or.inl ⟨u, hu⟩))
      · rw [hstart] at hu
        exact absurd hu Bool.false_ne_true
    · rcases apiStep_cleared hs hcl with hcl | hrun
      · exact apiStep_run hs (ApiPc.not_starting_of_cleared hcl) (h.cleared (Or.inr hcl))
      · exact hrun
  have hfclears : ∀ u, (s'.framers u).clears = true →
      (s.framers u).clears = true ∧ s.api.isStarting = false := by
    intro u hu
    rcases hframers u with hsame | hstart
    · rw [hsame] at hu
      refine ⟨hu, hnot (u := u) ?_⟩
      intro hoff
      rw [hoff] at hu
      exact Bool.false_ne_true hu
    · rw [hstart] at hu
      exact absurd hu Bool.false_ne_true
  -- before the socket thread exists there is no handle to follow
  have hbefore : s.api.isConnecting = true → s'.api.clears = false → s'.Tracking := by
    intro hconnecting hapi
    refine ⟨fun u hu hstart => ?_, ?_, hcleared⟩
    · rw [State.SockAlive, hsame u hu hstart] at hu
      rw [hflow.sock_eq hu] at hu
      exact absurd (hflow.connecting hconnecting) hu
    · rintro (⟨u, hu⟩ | hcl)
      · have hstarting := (hfclears u hu).2
        rw [ApiPc.isStarting_of_isConnecting hconnecting] at hstarting
        exact absurd hstarting.symm Bool.false_ne_true
      · rw [hapi] at hcl
        exact absurd hcl Bool.false_ne_true
  rcases apiStep_use hs with ⟨-, -, -, hpc, -, -, hsockets, hdevice⟩ | ⟨q, hapi, hapi', -, -⟩ |
    ⟨q, hd, hapi, hapi', -, -⟩ | ⟨-, -, -, -, hsockets, hdevice⟩ |
    ⟨hclears, -, -, -, hsockets, hdevice⟩
  · refine h.of_socks hsame ?_ hcleared (by rw [hsockets]; exact fun _ => id)
      (by rw [hdevice]; exact fun _ _ => id)
    rw [hsockets, hdevice]
    rintro (⟨u, hu⟩ | hcl)
    · exact h.clears (Or.inl ⟨u, (hfclears u hu).1⟩)
    · rw [hpc] at hcl
      exact absurd hcl Bool.false_ne_true
  · exact hbefore (by rw [hapi]; rfl) (by rw [hapi']; rfl)
  · exact hbefore (by rw [hapi]; rfl) (by rw [hapi']; rfl)
  · refine h.of_socks hsame (fun _ => ?_) hcleared ?_ (by rw [hdevice]; exact fun _ _ => id)
    · rw [hsockets, hdevice, Bool.eq_false_iff]
      exact fun hopen => (Sockets.isOpen_close.mp hopen).2 rfl
    · rw [hsockets]
      exact fun o hopen => (Sockets.isOpen_close.mp hopen).1
  · refine h.of_socks hsame (fun _ => by rw [hdevice]; rfl) hcleared
      (by rw [hsockets]; exact fun _ => id) ?_
    rw [hsockets]
    rintro o hopen rfl
    exact absurd hopen (Bool.eq_false_iff.mp (h.clears (Or.inr hclears)))

theorem State.Tracking.act (h : s.Tracking) (hflow : Flowing p s₀ s j k) {a : Act α}
    (hs : step s a = some s') : s'.Tracking := by
  have hsame : ∀ {s' : State α}, s'.sockParam.run = s.sockParam.run →
      s'.sockParam.deviceSocket = s.sockParam.deviceSocket → s'.socks = s.socks →
      s'.framers = s.framers → s'.sockets = s.sockets →
      (s'.api = s.api ∨ s'.api.clears = false ∧ s'.api.cleared = false) → s'.Tracking := by
    intro s' hrun hdevice hsocks hframers hsockets hapi
    refine h.of_socks (fun u _ _ => congrFun hsocks u) ?_ ?_ (by rw [hsockets]; exact fun _ => id)
      (by rw [hdevice]; exact fun _ _ => id)
    · rw [hframers, hsockets, hdevice]
      rintro (hcl | hcl)
      · exact h.clears (Or.inl hcl)
      · rcases hapi with hapi | ⟨hnot, -⟩
        · exact h.clears (Or.inr (hapi ▸ hcl))
        · exact absurd hcl (by simp [hnot])
    · rw [hframers, hrun]
      rintro (hcl | hcl)
      · exact h.cleared (Or.inl hcl)
      · rcases hapi with hapi | ⟨-, hnot⟩
        · exact h.cleared (Or.inr (hapi ▸ hcl))
        · exact absurd hcl (by simp [hnot])
  cases a with
  | sock t ans => exact h.sock hflow hs
  | framer t => exact h.framer hs
  | api ans => exact h.api hflow hs
  | callRun _ | callStop | callReset | callTerminate =>
    obtain ⟨r, -, rfl⟩ := callStep_begins hs
    exact hsame rfl rfl rfl rfl rfl (Or.inr ⟨rfl, rfl⟩)
  | getData =>
    obtain ⟨f, fs, -, rfl⟩ := getData_takes hs
    exact hsame rfl rfl rfl rfl rfl (Or.inl rfl)
  | pause | resume =>
    simp only [SiDaqApi.step, Option.some.injEq] at hs
    subst hs
    exact hsame rfl rfl rfl rfl rfl (Or.inl rfl)

/-- The last step of `SiDaqStop` of a measurement, by the application or by the framer thread; or
the socket thread, after the connection was lost or the receive queue was full, has closed its
socket. -/
def State.StopEnds (s : State α) : Act α → Prop
  | .api _ => s.api = .stop .clearSocket ∨ s.api = .terminate .clearSocket
  | .framer t => s.framers t = .stop .clearSocket
  | .sock t _ => (s.socks t).pc = .clearSocket ∧ s.api.isStarting = false
  | _ => False

theorem State.Tracking.stopped (h : s.Tracking) (hflow : Flowing p s₀ s j k) {a : Act α}
    (ha : s.StopEnds a) (hs : step s a = some s') : s'.Stopped := by
  have hstopped : ∀ {s' : State α}, s'.sockParam = { s.sockParam with deviceSocket := none } →
      s'.socks = s.socks → s'.sockets = s.sockets → s'.api.isStarting = false →
      ((∃ t, (s.framers t).clears = true) ∨ s.api.clears = true) →
      ((∃ t, (s.framers t).cleared = true) ∨ s.api.cleared = true) → s'.Stopped := by
    intro s' hparam hsocks hsockets hapi hclears hcleared
    refine ⟨Or.inl (by rw [hparam]; exact h.cleared hcleared), by rw [hparam],
      fun u hu hstart => ?_, hapi⟩
    rw [State.SockAlive, hsocks] at hu
    rw [hsocks] at hstart
    rw [hsocks, hsockets, Bool.eq_false_iff]
    intro hopen
    have hclosed := h.clears hclears
    rw [← h.own u hu hstart hopen] at hclosed
    exact Bool.eq_false_iff.mp hclosed hopen
  cases a with
  | api ans =>
    rcases ha with hapi | hapi
    · simp only [SiDaqApi.step, apiStep, hapi, stopStep, Option.some.injEq] at hs
      subst hs
      exact hstopped rfl rfl rfl rfl (Or.inr (by rw [hapi]; rfl)) (Or.inr (by rw [hapi]; rfl))
    · simp only [SiDaqApi.step, apiStep, hapi, stopStep, Option.some.injEq] at hs
      subst hs
      exact hstopped rfl rfl rfl rfl (Or.inr (by rw [hapi]; rfl)) (Or.inr (by rw [hapi]; rfl))
  | framer t =>
    have hpc : s.framers t = .stop .clearSocket := ha
    have hstarting : s.api.isStarting = false := by
      rw [Bool.eq_false_iff]
      intro hstarting
      have hoff := (hflow.nothing_of_starting hstarting).1 t
      simp [hpc] at hoff
    simp only [SiDaqApi.step, framerStep, hpc, stopStep, Option.some.injEq] at hs
    subst hs
    exact hstopped rfl rfl rfl hstarting (Or.inl ⟨t, by rw [hpc]; rfl⟩)
      (Or.inl ⟨t, by rw [hpc]; rfl⟩)
  | sock t ans =>
    obtain ⟨hpc, hstarting⟩ := ha
    have halive : s.SockAlive t := by simp [State.SockAlive, hpc]
    simp only [SiDaqApi.step, sockStep, hpc, Option.some.injEq] at hs
    subst hs
    -- there is no other socket thread
    have hat : ∀ u, State.SockAlive
        { s.setSock t ⟨.testRun, none, (s.socks t).bufSize⟩ with
          sockParam := { s.sockParam with deviceSocket := none } } u → u = t := by
      intro u hu
      by_contra hut
      simp only [State.SockAlive, State.setSock, Function.update_of_ne hut] at hu
      exact hut ((hflow.sock_eq hu).trans (hflow.sock_eq halive).symm)
    refine ⟨Or.inr fun u hu => ?_, rfl, fun u hu _ => ?_, hstarting⟩
    · obtain rfl := hat u hu
      simp [State.setSock]
    · obtain rfl := hat u hu
      simp [State.setSock, Sockets.isOpen]
  | _ => exact ha.elim

end Tracking

/-! ## The end of a run -/

/-- A step of a socket thread or a framer thread. -/
def Act.byThread : Act α → Bool
  | .sock _ _ | .framer _ => true
  | _ => false

/-- There are no other threads. -/
def State.Only (s : State α) (j k : ℕ) : Prop :=
  (∀ t, s.SockAlive t → t = j) ∧ ∀ t, s.FramerAlive t → t = k

/-- The steps that the two threads of a stopped run make at most. -/
def State.stopRank (s : State α) (j k : ℕ) : ℕ :=
  (s.socks j).pc.stopRank + (s.framers k).stopRank s.pending + 5 * s.recvQueue.length

theorem State.stopRank_le (s : State α) (j k : ℕ) :
    s.stopRank j k ≤ 41 + 5 * s.recvQueue.length := by
  have hsock : (s.socks j).pc.stopRank ≤ 12 := by
    cases (s.socks j).pc <;> simp [SockPc.stopRank]
  have hpending : s.pending ≤ 6 := by
    unfold State.pending
    split
    · omega
    · split <;> omega
  have hframer : (s.framers k).stopRank s.pending ≤ 29 := by
    cases s.framers k with
    | stop pc => cases pc <;> simp [FramerPc.stopRank, StopPc.rank]
    | queueSysError atEnd | setQueueError atEnd =>
      cases atEnd <;> (simp only [FramerPc.stopRank]; omega)
    | _ => (simp only [FramerPc.stopRank]; omega)
  unfold State.stopRank
  omega

section Ends

variable [Inhabited α] {p : RunParams α} {s₀ s s' : State α} {j k : ℕ}

/-- **Every step of the two threads of a stopped run takes them closer to their ends**, and no other
step takes them away from it. -/
theorem State.Stopped.stopRank_step (h : s.Stopped) (honly : s.Only j k) {a : Act α}
    (ha : a.StartsNothing) (hs : SiDaqApi.step s a = some s') :
    (s'.Stopped ∧ s'.Only j k) ∧
      s'.stopRank j k + (if a.byThread then 1 else 0) ≤ s.stopRank j k := by
  have hsame : ∀ {s' : State α}, s'.socks = s.socks → s'.framers = s.framers →
      s'.framer = s.framer → s'.recvQueue.length ≤ s.recvQueue.length →
      s'.Only j k ∧ s'.stopRank j k ≤ s.stopRank j k := by
    intro s' hsocks hframers hframer hqueue
    refine ⟨?_, ?_⟩
    · unfold State.Only State.SockAlive State.FramerAlive
      rw [hsocks, hframers]
      exact honly
    · unfold State.stopRank State.pending
      rw [hsocks, hframers, hframer]
      omega
  cases a with
  | sock t ans =>
    have hrank := h.sock_rank hs
    obtain ⟨halive, _, _, _, _, _, _, hchange⟩ := sockStep_change hs
    obtain rfl := honly.1 t halive
    have hframers : s'.framers = s.framers := by rw [hchange]; rfl
    have hframer : s'.framer = s.framer := by rw [hchange]; rfl
    have hothers : ∀ u, u ≠ t → (s'.socks u).pc = (s.socks u).pc := by
      intro u hut
      rw [hchange]
      exact congrArg SockThread.pc (Function.update_of_ne hut _ _)
    refine ⟨⟨h.sock hs, fun u hu => ?_, ?_⟩, ?_⟩
    · by_contra hut
      rw [State.SockAlive, hothers u hut] at hu
      exact hut (honly.1 u hu)
    · unfold State.FramerAlive
      rw [hframers]
      exact honly.2
    · unfold State.stopRank State.pending
      rw [hframers, hframer]
      simp only [Act.byThread, if_true]
      omega
  | framer t =>
    have hrank := h.framer_rank hs
    obtain ⟨halive, _, _, _, _, _, _, _, _, _, _, hchange⟩ := framerStep_change hs
    obtain rfl := honly.2 t halive
    have hsocks : s'.socks = s.socks := by rw [hchange]; rfl
    have hothers : ∀ u, u ≠ t → s'.framers u = s.framers u := by
      intro u hut
      rw [hchange]
      exact Function.update_of_ne hut _ _
    refine ⟨⟨h.framer hs, ?_, fun u hu => ?_⟩, ?_⟩
    · unfold State.SockAlive
      rw [hsocks]
      exact honly.1
    · by_contra hut
      rw [State.FramerAlive, hothers u hut] at hu
      exact hut (honly.2 u hu)
    · unfold State.stopRank
      rw [hsocks]
      simp only [Act.byThread, if_true]
      omega
  | api ans =>
    obtain ⟨-, hsocks, hframers, hframer, -, hqueue⟩ := apiStep_stopped hs h.starting
    obtain ⟨honly', hle⟩ := hsame hsocks hframers hframer hqueue
    exact ⟨⟨h.api hs, honly'⟩, hle⟩
  | callRun q => exact ha.elim
  | callStop | callReset | callTerminate =>
    have hstopped := h.step ha hs
    obtain ⟨r, -, rfl⟩ := callStep_begins hs
    obtain ⟨honly', hle⟩ := hsame rfl rfl rfl (Nat.le_refl _)
    exact ⟨⟨hstopped, honly'⟩, hle⟩
  | getData =>
    have hstopped := h.step ha hs
    obtain ⟨f, fs, -, rfl⟩ := getData_takes hs
    obtain ⟨honly', hle⟩ := hsame rfl rfl rfl (Nat.le_refl _)
    exact ⟨⟨hstopped, honly'⟩, hle⟩
  | pause | resume =>
    have hstopped := h.step ha hs
    simp only [SiDaqApi.step, Option.some.injEq] at hs
    subst hs
    obtain ⟨honly', hle⟩ := hsame rfl rfl rfl (Nat.le_refl _)
    exact ⟨⟨hstopped, honly'⟩, hle⟩

/-- In a run an open socket can be followed. -/
theorem tracking_of_run (hclean : s₀.Clean) (hp : p.framing.Regular)
    (htwo : p.framing.headerLen.toNat ≤ 2) {acts : List (Act α)} (hacts : ∀ a ∈ acts, a.InRun)
    (hrun : run step s₀ (.callRun p :: acts) = some s) :
    (∃ j k, Flowing p s₀ s j k) ∧ s.Tracking := by
  obtain ⟨hcall, hflow⟩ := Flowing.start hclean p
  rw [run_cons, hcall] at hrun
  have hstart : (s₀.apiTo (.runBegin p)).Tracking := by
    have hoff : ∀ t, s₀.framers t = .off := fun t => not_not.mp (hclean.framers t)
    refine ⟨fun t ht => absurd ht (hclean.socks t), ?_, ?_⟩
    · rintro (⟨t, ht⟩ | hcl)
      · simp [State.apiTo, hoff, FramerPc.clears] at ht
      · exact absurd hcl Bool.false_ne_true
    · rintro (⟨t, ht⟩ | hcl)
      · simp [State.apiTo, hoff, FramerPc.cleared] at ht
      · exact absurd hcl Bool.false_ne_true
  refine run_invariant_of_guarded (I := fun s => (∃ j k, Flowing p s₀ s j k) ∧ s.Tracking) ?_
    ⟨⟨0, 0, hflow⟩, hstart⟩ (guarded_of_forall hacts) hrun
  rintro s a s' ⟨⟨j, k, hflow⟩, h⟩ ha hs
  exact ⟨hflow.act hp htwo ha hs, h.act hflow hs⟩

/-- **A stopped run ends.** When the socket of a run is closed, by `SiDaqStop` for the application
or for the framer thread, or by the socket thread, the two threads of the run make no more than this
many steps together, whatever the application and the consumer do, and a thread that is alive can
always make one. -/
theorem stop_ends_run (hclean : s₀.Clean) (hp : p.framing.Regular)
    (htwo : p.framing.headerLen.toNat ≤ 2) {acts : List (Act α)} (hacts : ∀ a ∈ acts, a.InRun)
    {s₁ : State α} (hrun : run step s₀ (.callRun p :: acts) = some s₁) {a : Act α}
    (ha : s₁.StopEnds a) {more : List (Act α)} (hmore : ∀ b ∈ more, b.InRun)
    (hrun' : run step s₁ (a :: more) = some s) :
    more.countP Act.byThread ≤ 41 + 5 * s₁.recvQueue.length ∧
      (∀ t, s.SockAlive t → ∃ ans, (step s (.sock t ans)).isSome) ∧
      ∀ t, s.FramerAlive t → (step s (.framer t)).isSome := by
  obtain ⟨⟨j₁, k₁, hflow₁⟩, htrack⟩ := tracking_of_run hclean hp htwo hacts hrun
  have hrunning : a.InRun := by cases a <;> first | exact ha | trivial
  obtain ⟨s₂, hstep, hrest⟩ := Option.bind_eq_some_iff.mp hrun'
  have hstopped := htrack.stopped hflow₁ ha hstep
  -- the last step of `SiDaqStop` leaves the receive queue alone
  have hqueue : s₂.recvQueue.length ≤ s₁.recvQueue.length := by
    cases a with
    | api ans =>
      have hstarting : s₁.api.isStarting = false := by
        rcases ha with hapi | hapi <;> rw [hapi] <;> rfl
      exact (apiStep_stopped hstep hstarting).2.2.2.2.2
    | framer t => exact (congrArg List.length (framerStep_stop_rank ha hstep).1).le
    | sock t ans =>
      simp only [SiDaqApi.step, sockStep, ha.1, Option.some.injEq] at hstep
      subst hstep
      exact Nat.le_refl _
    | _ => exact ha.elim
  obtain ⟨j, k, hflow⟩ := hflow₁.act hp htwo hrunning hstep
  have honly : s₂.Only j k := ⟨fun t ht => hflow.sock_eq ht, fun t ht => hflow.framer_eq ht⟩
  have hrank : (s.Stopped ∧ s.Only j k) ∧
      s.stopRank j k + more.countP Act.byThread ≤ s₂.stopRank j k :=
    run_rank (I := fun s : State α => s.Stopped ∧ s.Only j k) (G := fun _ b => b.StartsNothing)
      (fun s b s' h hb hs => h.1.stopRank_step h.2 hb hs)
      ⟨hstopped, honly⟩ (guarded_of_forall fun b hb => (hmore b hb).startsNothing) hrest
  have hle := s₂.stopRank_le j k
  have hall : ∀ b ∈ acts ++ a :: more, b.InRun := by
    intro b hb
    rcases List.mem_append.mp hb with hb | hb
    · exact hacts b hb
    · rcases List.mem_cons.mp hb with rfl | hb
      · exact hrunning
      · exact hmore b hb
  have hwhole : run step s₀ (.callRun p :: (acts ++ a :: more)) = some s := by
    rw [← List.cons_append, run_append, hrun]
    exact hrun'
  obtain ⟨j', k', hend⟩ := flowing_of_run hclean hp htwo hall hwhole
  refine ⟨by omega, fun t ht => ?_, fun t ht => ?_⟩
  · obtain ⟨ans, s', hs'⟩ := ht.enabled
    exact ⟨ans, Option.isSome_iff_exists.mpr ⟨s', hs'⟩⟩
  · obtain rfl := hend.framer_eq ht
    obtain ⟨fr, hfr, hready, -⟩ := hend.ready (Or.inl ht)
    exact Option.isSome_iff_exists.mpr (ht.enabled hfr hready)

end Ends

/-- `SiDaqStop` is about to forget the socket, and the socket thread has received a chunk that it
has not put yet. -/
def closing : List (Act UInt8) :=
  (runCall byteHeader.toRunParams 0 0).tail ++ (recvActs 0 (.of [1, 3])).dropLast ++ [.callStop] ++
    List.replicate 5 (.api .ok)

/-- The chunk is put, and the framer thread goes on. -/
def closed : List (Act UInt8) := [.sock 0 .ok, .framer 0, .sock 0 .ok]

theorem closing_stop_ends :
    ∃ s₁ s, run step State.init (.callRun byteHeader.toRunParams :: closing) = some s₁ ∧
      run step s₁ (.api .ok :: closed) = some s ∧
      closed.countP Act.byThread ≤ 41 + 5 * s₁.recvQueue.length ∧
      (∀ t, s.SockAlive t → ∃ ans, (step s (.sock t ans)).isSome) ∧
      ∀ t, s.FramerAlive t → (step s (.framer t)).isSome := by
  obtain ⟨s₁, hrun, hapi⟩ : ∃ s₁, run step State.init
      (.callRun byteHeader.toRunParams :: closing) = some s₁ ∧ s₁.api = .stop .clearSocket :=
    ⟨_, rfl, rfl⟩
  obtain ⟨s, hwhole⟩ : ∃ s, run step State.init
      (.callRun byteHeader.toRunParams :: closing ++ .api .ok :: closed) = some s := ⟨_, rfl⟩
  rw [run_append, hrun] at hwhole
  refine ⟨s₁, s, hrun, hwhole, ?_⟩
  apply stop_ends_run (p := byteHeader.toRunParams) (a := .api .ok) State.clean_init
    ⟨byteHeader_fits, rfl⟩ (by decide) (by decide : ∀ a ∈ closing, a.InRun) hrun (Or.inl hapi)
    (by decide : ∀ b ∈ closed, b.InRun) hwhole

end SiDaqApi
