import SiDaqApi.Framer.Limits
import SiDaqApi.Manager.Handles

/-!
# The limit of the receive queue

`RecvRun` is a manager with a `LimitLog` of its receive queue. `RecvRun.enforces`: where every
insert is followed at once by its limit test, the limit error is recorded exactly when an insert made
the queue exceed the limit, as documented. The event queue is one element stricter, and
`limits_enforced_iff` compares the two.
-/

namespace SiDaqApi

open Machine

variable {α : Type*}

/-- Between an insert and the end of its limit test. -/
def SockPc.isTesting : SockPc α → Bool
  | .testLimit | .queueError => true
  | _ => false

/-- No socket thread is between an insert and the end of its limit test. -/
def State.Settled (s : State α) : Prop := ∀ t, (s.socks t).pc.isTesting = false

/-- A manager with the record of its receive queue. -/
structure RecvRun (α : Type*) where
  state : State α
  log : LimitLog

def RecvRun.start (s : State α) : RecvRun α := ⟨s, .empty⟩

/-- An `SQPut` of a socket thread is an insert; the error is recorded where its code is written. -/
def RecvRun.logAfter (w : RecvRun α) : Act α → LimitLog
  | .sock t _ =>
    match (w.state.socks t).pc with
    | .put _ => { w.log with levels := w.log.levels ++ [w.state.recvQueue.length + 1] }
    | .queueError => { w.log with recorded := true }
    | _ => w.log
  | _ => w.log

def RecvRun.step [Inhabited α] (w : RecvRun α) (a : Act α) : Option (RecvRun α) :=
  (SiDaqApi.step w.state a).map fun s' => ⟨s', w.logAfter a⟩

/-- A limit test follows its insert at once, and no `SiDaqRun` sets another limit. -/
structure TestsAtOnce (w : RecvRun α) (a : Act α) : Prop where
  atOnce : ∀ t, (w.state.socks t).pc.isTesting = true → ∃ ans, a = .sock t ans
  sameLimit : ∀ ans p, a = .api ans → w.state.api ≠ .runSetParam p

/-! ## Who writes the limit, and who tests it -/

section Steps

variable {s s' : State α} {t : ℕ}

theorem State.isTesting_update {th : SockThread α} (hsocks : s'.socks = Function.update s.socks t th)
    (hth : th.pc.isTesting = false) : (s'.socks t).pc.isTesting = false := by
  rw [hsocks, Function.update_self, hth]

theorem selectStep_isTesting {ans : SockAnswer α} (h : selectStep s t ans = some s') :
    (s'.socks t).pc.isTesting = false := by
  unfold selectStep at h
  split at h
  · split at h
    · obtain rfl := Option.some.inj h
      exact State.isTesting_update rfl rfl
    · simp at h
  · split at h
    · obtain rfl := Option.some.inj h
      exact State.isTesting_update rfl rfl
    · simp at h
  · obtain rfl := Option.some.inj h
    exact State.isTesting_update rfl rfl
  · simp at h

theorem recvStep_isTesting {ans : SockAnswer α} (h : recvStep s t ans = some s') :
    (s'.socks t).pc.isTesting = false := by
  unfold recvStep at h
  split at h
  · split at h
    · obtain rfl := Option.some.inj h
      exact State.isTesting_update rfl rfl
    · simp at h
  · split at h
    · obtain rfl := Option.some.inj h
      exact State.isTesting_update rfl rfl
    · simp at h
  · split at h
    · split at h
      · obtain rfl := Option.some.inj h
        exact State.isTesting_update rfl rfl
      · simp at h
    · obtain rfl := Option.some.inj h
      exact State.isTesting_update rfl rfl
  · simp at h

/-- Only an insert leads into a limit test. -/
theorem sockStep_isTesting {ans : SockAnswer α} (h : sockStep s t ans = some s')
    (hput : ∀ c, (s.socks t).pc ≠ .put c) (htest : (s.socks t).pc ≠ .testLimit) :
    (s'.socks t).pc.isTesting = false := by
  cases hpc : (s.socks t).pc with
  | off => simp [sockStep, hpc] at h
  | put c => exact absurd hpc (hput c)
  | testLimit => exact absurd hpc htest
  | start =>
    simp only [sockStep, hpc] at h
    split at h <;> (obtain rfl := Option.some.inj h; exact State.isTesting_update rfl rfl)
  | select =>
    simp only [sockStep, hpc] at h
    exact selectStep_isTesting h
  | recv =>
    simp only [sockStep, hpc] at h
    exact recvStep_isTesting h
  | testRun | testPause | testRunPaused =>
    simp only [sockStep, hpc, Option.some.injEq] at h
    subst h
    refine State.isTesting_update rfl ?_
    dsimp only
    split <;> rfl
  | clearError | clearPause | queueError | close | clearSocket =>
    simp only [sockStep, hpc, Option.some.injEq] at h
    subst h
    exact State.isTesting_update rfl rfl

variable [Inhabited α]

/-- Only `SiDaqRun` sets the limit. -/
theorem apiStep_queueLimit {ans : ApiAnswer} (h : apiStep s ans = some s')
    (hset : ∀ p, s.api ≠ .runSetParam p) : s'.sockParam.queueLimit = s.sockParam.queueLimit := by
  generalize hparam : s'.sockParam = param
  cases hparam ▸ (apiStep_change h).param with
  | ends hends => exact hends.queueLimit
  | setSocket p hd hapi | setRun p hapi => rfl
  | setParam p hapi => exact absurd hapi (hset p)

/-- Apart from socket threads and a new `SiDaqRun`, nobody writes the limit or gets into a test. -/
theorem step_keepsLimit {a : Act α} (h : step s a = some s') (hsock : ∀ t ans, a ≠ .sock t ans)
    (hset : ∀ ans p, a = .api ans → s.api ≠ .runSetParam p) (hsettled : s.Settled) :
    s'.sockParam.queueLimit = s.sockParam.queueLimit ∧ s'.Settled := by
  have hsame : s'.socks = s.socks → s'.Settled := fun hsocks t => by rw [hsocks]; exact hsettled t
  have hcall : ∀ {pc : ApiPc α}, callStep s pc = some s' →
      s'.sockParam.queueLimit = s.sockParam.queueLimit ∧ s'.Settled := by
    intro pc h
    obtain ⟨r, -, rfl⟩ := callStep_begins h
    exact ⟨rfl, hsettled⟩
  cases a with
  | sock t ans => exact absurd rfl (hsock t ans)
  | framer t =>
    refine ⟨(framerStep_effect h).param.queueLimit, ?_⟩
    obtain ⟨-, pc, status, code, message, param, framer, queue, events, sockets, framed, rfl⟩ :=
      framerStep_change h
    exact hsettled
  | api ans =>
    refine ⟨apiStep_queueLimit h fun p => hset ans p rfl, ?_⟩
    rcases (apiStep_change h).threads with ⟨-, -, hsocks, -⟩ | ⟨p, t, -, -, hsocks, -⟩ |
      ⟨t, -, -, hsocks, -⟩
    · exact hsame hsocks
    · intro u
      rw [hsocks]
      by_cases hut : u = t
      · subst hut
        rw [Function.update_self]
        rfl
      · rw [Function.update_of_ne hut]
        exact hsettled u
    · exact hsame hsocks
  | callRun p => exact hcall h
  | callStop => exact hcall h
  | callReset => exact hcall h
  | callTerminate => exact hcall h
  | getData =>
    obtain ⟨f, fs, -, rfl⟩ := getData_takes h
    exact ⟨rfl, hsettled⟩
  | pause | resume =>
    simp only [step, Option.some.injEq] at h
    subst h
    exact ⟨rfl, hsettled⟩

end Steps

/-! ## The record of a run -/

/-- What every step keeps: between the tests the error is recorded if an insert has exceeded the
limit; in a test this still holds of the inserts before. -/
structure RecvRun.Logged (limit : ℕ) (w : RecvRun α) : Prop where
  limit_eq : w.state.sockParam.queueLimit = limit
  settled : w.state.Settled → (w.log.recorded = true ↔ ∃ n ∈ w.log.levels, limit < n)
  testing : ∀ t, (w.state.socks t).pc = .testLimit →
    ∃ ls, w.log.levels = ls ++ [w.state.recvQueue.length] ∧
      (w.log.recorded = true ↔ ∃ n ∈ ls, limit < n)
  failing : ∀ t, (w.state.socks t).pc = .queueError → ∃ n ∈ w.log.levels, limit < n

theorem RecvRun.Logged.of_settled {limit : ℕ} {w : RecvRun α}
    (hlimit : w.state.sockParam.queueLimit = limit) (hsettled : w.state.Settled)
    (hlog : w.log.recorded = true ↔ ∃ n ∈ w.log.levels, limit < n) : w.Logged limit where
  limit_eq := hlimit
  settled := fun _ => hlog
  testing := by
    intro t ht
    have hnot := hsettled t
    simp [ht, SockPc.isTesting] at hnot
  failing := by
    intro t ht
    have hnot := hsettled t
    simp [ht, SockPc.isTesting] at hnot

theorem RecvRun.logged_start {s : State α} (hsettled : s.Settled) :
    (RecvRun.start s).Logged s.sockParam.queueLimit :=
  .of_settled rfl hsettled (by simp [RecvRun.start, LimitLog.empty])

section Logged

variable [Inhabited α] {limit : ℕ} {w w' : RecvRun α}

omit [Inhabited α] in
/-- The other threads are not in a test, and a step of thread `t` leaves them alone. -/
theorem settled_update {s s' : State α} {t : ℕ} {th : SockThread α}
    (hothers : ∀ u, u ≠ t → (s.socks u).pc.isTesting = false)
    (hsocks : s'.socks = Function.update s.socks t th) (hth : th.pc.isTesting = false) :
    s'.Settled := by
  intro u
  rw [hsocks]
  by_cases hut : u = t
  · subst hut
    rwa [Function.update_self]
  · rw [Function.update_of_ne hut]
    exact hothers u hut

/-- The insert: the new level is still to be tested. -/
theorem RecvRun.Logged.put {t : ℕ} {ans : SockAnswer α} {c : Chunk α} (h : w.Logged limit)
    (hsettled : w.state.Settled) (hpc : (w.state.socks t).pc = .put c)
    (hstep : w.step (.sock t ans) = some w') : w'.Logged limit := by
  obtain ⟨s', hs', rfl⟩ := Option.map_eq_some_iff.mp hstep
  simp only [SiDaqApi.step, sockStep, hpc, Option.some.injEq] at hs'
  subst hs'
  have hlog : w.logAfter (.sock t ans) =
      { w.log with levels := w.log.levels ++ [w.state.recvQueue.length + 1] } := by
    simp only [RecvRun.logAfter, hpc]
  rw [hlog]
  constructor
  case limit_eq => exact h.limit_eq
  case settled =>
    intro hsettled'
    have hnot := hsettled' t
    simp [State.sockTo, State.setSock, SockPc.isTesting] at hnot
  case testing =>
    intro u hu
    refine ⟨w.log.levels, ?_, h.settled hsettled⟩
    simp
  case failing =>
    intro u hu
    by_cases hut : u = t
    · subst hut
      simp [State.sockTo, State.setSock] at hu
    · have hnot := hsettled u
      have hu' : (w.state.socks u).pc = .queueError := by
        simpa [State.sockTo, State.setSock, Function.update_of_ne hut] using hu
      simp [hu', SockPc.isTesting] at hnot

/-- The test: it goes on to the record of the error, or is over. -/
theorem RecvRun.Logged.test {t : ℕ} {ans : SockAnswer α} (h : w.Logged limit)
    (hne : limit ≠ 0) (hothers : ∀ u, u ≠ t → (w.state.socks u).pc.isTesting = false)
    (hpc : (w.state.socks t).pc = .testLimit) (hstep : w.step (.sock t ans) = some w') :
    w'.Logged limit := by
  obtain ⟨s', hs', rfl⟩ := Option.map_eq_some_iff.mp hstep
  simp only [SiDaqApi.step, sockStep, hpc, Option.some.injEq] at hs'
  subst hs'
  have hlog : w.logAfter (.sock t ans) = w.log := by
    simp only [RecvRun.logAfter, hpc]
  rw [hlog]
  obtain ⟨ls, hlevels, hrecorded⟩ := h.testing t hpc
  by_cases hfull : w.state.recvQueue.length > limit
  · -- this insert has exceeded the limit
    rw [if_pos ⟨h.limit_eq ▸ hne, by rw [h.limit_eq]; exact hfull⟩]
    constructor
    case limit_eq => exact h.limit_eq
    case settled =>
      intro hsettled'
      have hnot := hsettled' t
      simp [State.sockTo, State.setSock, SockPc.isTesting] at hnot
    case testing =>
      intro u hu
      by_cases hut : u = t
      · subst hut
        simp [State.sockTo, State.setSock] at hu
      · have hnot := hothers u hut
        have hu' : (w.state.socks u).pc = .testLimit := by
          simpa [State.sockTo, State.setSock, Function.update_of_ne hut] using hu
        simp [hu', SockPc.isTesting] at hnot
    case failing =>
      intro u hu
      exact ⟨w.state.recvQueue.length, by simp [hlevels], hfull⟩
  · rw [if_neg fun hboth => hfull (by rw [← h.limit_eq]; exact hboth.2)]
    refine .of_settled h.limit_eq (settled_update hothers rfl rfl) ?_
    rw [hrecorded, hlevels]
    simp only [List.mem_append, List.mem_singleton, or_and_right, exists_or, exists_eq_left]
    simp [hfull]

/-- The record of the error. -/
theorem RecvRun.Logged.fail {t : ℕ} {ans : SockAnswer α} (h : w.Logged limit)
    (hothers : ∀ u, u ≠ t → (w.state.socks u).pc.isTesting = false)
    (hpc : (w.state.socks t).pc = .queueError) (hstep : w.step (.sock t ans) = some w') :
    w'.Logged limit := by
  obtain ⟨s', hs', rfl⟩ := Option.map_eq_some_iff.mp hstep
  simp only [SiDaqApi.step, sockStep, hpc, Option.some.injEq] at hs'
  subst hs'
  have hlog : w.logAfter (.sock t ans) = { w.log with recorded := true } := by
    simp only [RecvRun.logAfter, hpc]
  rw [hlog]
  refine .of_settled h.limit_eq (settled_update hothers rfl rfl) ?_
  simpa using h.failing t hpc

theorem RecvRun.Logged.step {a : Act α} (h : w.Logged limit) (hne : limit ≠ 0)
    (hatOnce : TestsAtOnce w a) (hstep : w.step a = some w') : w'.Logged limit := by
  by_cases hsock : ∃ t ans, a = .sock t ans
  · obtain ⟨t, ans, rfl⟩ := hsock
    have hothers : ∀ u, u ≠ t → (w.state.socks u).pc.isTesting = false := by
      intro u hut
      by_contra htest
      obtain ⟨ans', hact⟩ := hatOnce.atOnce u (by simpa using htest)
      simp only [Act.sock.injEq] at hact
      exact hut hact.1.symm
    by_cases htest : (w.state.socks t).pc = .testLimit
    · exact h.test hne hothers htest hstep
    by_cases herror : (w.state.socks t).pc = .queueError
    · exact h.fail hothers herror hstep
    have hself : (w.state.socks t).pc.isTesting = false := by
      cases hpc : (w.state.socks t).pc <;> first | rfl | simp [hpc] at htest herror
    have hsettled : w.state.Settled := by
      intro u
      by_cases hut : u = t
      · exact hut ▸ hself
      · exact hothers u hut
    by_cases hput : ∃ c, (w.state.socks t).pc = .put c
    · obtain ⟨c, hpc⟩ := hput
      exact h.put hsettled hpc hstep
    · have hno : ∀ c, (w.state.socks t).pc ≠ .put c := fun c hpc => hput ⟨c, hpc⟩
      obtain ⟨s', hs', rfl⟩ := Option.map_eq_some_iff.mp hstep
      obtain ⟨-, ⟨th, _, _, _, _, _, hchange⟩, -, hlimit, -⟩ := sockStep_effect hs'
      have hsocks : s'.socks = Function.update w.state.socks t th := by rw [hchange]; rfl
      have hth := sockStep_isTesting hs' hno htest
      rw [hsocks, Function.update_self] at hth
      have hlog : w.logAfter (.sock t ans) = w.log := by
        simp only [RecvRun.logAfter]
      rw [hlog]
      exact .of_settled (hlimit.trans h.limit_eq) (settled_update hothers hsocks hth)
        (h.settled hsettled)
  · have hno : ∀ t ans, a ≠ .sock t ans := fun t ans ha => hsock ⟨t, ans, ha⟩
    have hsettled : w.state.Settled := by
      intro t
      by_contra htest
      obtain ⟨ans, rfl⟩ := hatOnce.atOnce t (by simpa using htest)
      exact hno t ans rfl
    obtain ⟨s', hs', rfl⟩ := Option.map_eq_some_iff.mp hstep
    obtain ⟨hlimit, hsettled'⟩ := step_keepsLimit hs' hno hatOnce.sameLimit hsettled
    have hlog : w.logAfter a = w.log := by
      unfold RecvRun.logAfter
      split
      · exact absurd rfl (hno _ _)
      · rfl
    rw [hlog]
    exact .of_settled (hlimit.trans h.limit_eq) hsettled' (h.settled hsettled)

/-- **The receive queue: the error is recorded when an insert exceeds the limit.** -/
theorem RecvRun.enforces {s : State α} {acts : List (Act α)}
    (hne : s.sockParam.queueLimit ≠ 0) (hsettled : s.Settled)
    (hatOnce : Guarded RecvRun.step TestsAtOnce (.start s) acts)
    (hrun : run RecvRun.step (.start s) acts = some w) (hend : w.state.Settled) :
    w.log.Enforces s.sockParam.queueLimit := by
  have h : w.Logged s.sockParam.queueLimit :=
    run_invariant_of_guarded (fun _ _ _ h hatOnce hstep => h.step hne hatOnce hstep)
      (RecvRun.logged_start hsettled) hatOnce hrun
  exact h.settled hend

end Logged

/-- **The two limits agree, up to the boundary**: with the same limit, the receive queue of every run
records its error exactly when an insert exceeded the limit; the event queue does so, whatever the
consumer takes, if and only if it was never filled exactly up to the limit, or was also exceeded. -/
theorem limits_enforced_iff [Inhabited α] (limit : UInt32) (hlimit : limit ≠ 0)
    -- a run of the manager, each insert with its test at once
    {s : State α} (hs : s.sockParam.queueLimit = limit.toNat) (hsettled : s.Settled)
    {acts : List (Act α)} (hatOnce : Guarded RecvRun.step TestsAtOnce (.start s) acts)
    {w : RecvRun α} (hrun : run RecvRun.step (.start s) acts = some w) (hend : w.state.Settled)
    -- a run of `RecvSiDaqData` with the consumer
    {fr : SiDaqFramer α} {que : List (List α)} (hfr : fr.queueLimit = limit.toNat)
    (hcode : fr.errorCode ≠ .exceedFrameQueueCount) (hque : que.length < 2147483648)
    {acts' : List (ReceivingAct α)} {e : EventRun α}
    (hrun' : run EventRun.step (.start fr que) acts' = some e) :
    (w.log.Enforces limit.toNat ∧ e.log.Enforces limit.toNat) ↔
      (limit.toNat ∈ e.log.levels → ∃ n ∈ e.log.levels, limit.toNat < n) := by
  have hne : limit.toNat ≠ 0 := fun h => hlimit (UInt32.toNat_inj.mp h)
  have hrecv : w.log.Enforces limit.toNat :=
    hs ▸ RecvRun.enforces (hs ▸ hne) hsettled hatOnce hrun hend
  have hevent := EventRun.recorded_iff (hfr ▸ hne) (hfr ▸ limit.toNat_lt) hcode hque hrun'
  rw [hfr] at hevent
  rw [and_iff_right hrecv]
  exact LimitLog.enforces_iff hevent

/-- A manager whose socket thread has received a chunk, with a limit for the receive queue. -/
def receivedChunk (limit : ℕ) : State UInt8 :=
  { State.init with
    sockParam := ⟨true, some 1, 0, 16, limit, .noError, false⟩
    sockets := ⟨1, []⟩
    socks := Function.update (fun _ => ⟨.off, none, 0⟩) 0 ⟨.put (.of [7]), some 1, 16⟩ }

/-- `SiDaqRun` with a limit for the event queue, and no framing. -/
def limitedFramer (limit : UInt32) : SiDaqFramer UInt8 :=
  newSiDaqFramer.configure ⟨none, 0, 0, limit, 262144⟩

/-- Where one socket thread moves alone, each of its inserts is tested at once. -/
theorem testsAtOnce_alone [Inhabited α] {w : RecvRun α} {t : ℕ} (answers : List (SockAnswer α))
    (hothers : ∀ u, u ≠ t → (w.state.socks u).pc.isTesting = false) :
    Guarded RecvRun.step TestsAtOnce w (answers.map (.sock t)) := by
  induction answers generalizing w with
  | nil => trivial
  | cons ans answers ih =>
    intro w' hstep
    obtain ⟨s', hs', rfl⟩ := Option.map_eq_some_iff.mp hstep
    refine ⟨⟨fun u hu => ?_, by simp⟩, ih fun u hut => ?_⟩
    · by_cases hut : u = t
      · exact ⟨ans, hut ▸ rfl⟩
      · simp [hothers u hut] at hu
    · obtain ⟨-, _, _, _, _, _, _, rfl⟩ := sockStep_change hs'
      simpa [State.setSock, Function.update_of_ne hut] using hothers u hut

/-- Three chunks are received, the third of them one too many. -/
def threeReceived : List (SockAnswer UInt8) :=
  [.ok, .ok, .ok, .data (.of [28]), .ok, .ok, .ok, .data (.of [29]), .ok, .ok, .ok]

/-- Each of three chunks is a frame, and the consumer takes the first one in the end. -/
def threeFramed : List (ReceivingAct UInt8) :=
  [.call [7], .iterate, .iterate, .call [8], .iterate, .call [9], .iterate, .get]

/-- With a limit of two, three elements in each queue are an error, and it is recorded. -/
theorem limitOfTwo_exceeded :
    ∃ w e, run RecvRun.step (.start (receivedChunk 2)) (threeReceived.map (.sock 0)) = some w ∧
      run EventRun.step (.start (limitedFramer 2) []) threeFramed = some e ∧
      w.log = ⟨[1, 2, 3], true⟩ ∧ e.log = ⟨[1, 2, 3], true⟩ ∧
      w.log.Enforces 2 ∧ e.log.Enforces 2 := by
  have hidle : (receivedChunk 2).Settled := by
    intro t
    cases t <;> rfl
  obtain ⟨w, hrun, hlog, hend⟩ : ∃ w, run RecvRun.step (.start (receivedChunk 2))
      (threeReceived.map (.sock 0)) = some w ∧ w.log = ⟨[1, 2, 3], true⟩ ∧ w.state.Settled := by
    refine ⟨_, rfl, rfl, fun t => ?_⟩
    cases t <;> rfl
  obtain ⟨e, hrun', hlog'⟩ : ∃ e, run EventRun.step (.start (limitedFramer 2) []) threeFramed =
      some e ∧ e.log = ⟨[1, 2, 3], true⟩ := ⟨_, rfl, rfl⟩
  have hatOnce : Guarded RecvRun.step TestsAtOnce (.start (receivedChunk 2))
      (threeReceived.map (.sock 0)) := testsAtOnce_alone _ fun u _ => hidle u
  have hcode : (limitedFramer 2).errorCode ≠ .exceedFrameQueueCount := by decide
  refine ⟨w, e, hrun, hrun', hlog, hlog', (limits_enforced_iff 2 (by decide) rfl hidle hatOnce hrun
    hend rfl hcode (by decide) hrun').mpr ?_⟩
  simp [hlog']

/-- With a limit of one, a single frame in the event queue is an error; a single chunk in the receive
queue is none. -/
theorem limitOfOne_differs :
    ∃ w e, run RecvRun.step (.start (receivedChunk 1)) [.sock 0 .ok, .sock 0 .ok] = some w ∧
      run EventRun.step (.start (limitedFramer 1) []) [.call [7], .iterate] = some e ∧
      w.log.levels = [1] ∧ w.log.recorded = false ∧ e.log.levels = [1] ∧
      e.log.recorded = true ∧ ¬ e.log.Enforces 1 := by
  refine ⟨_, _, rfl, rfl, rfl, rfl, rfl, rfl, fun h => ?_⟩
  obtain ⟨n, hn, hlt⟩ := h.mp rfl
  obtain rfl : n = 1 := List.mem_singleton.mp hn
  omega

end SiDaqApi
