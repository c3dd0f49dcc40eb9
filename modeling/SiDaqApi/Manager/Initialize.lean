import SiDaqApi.Manager.Moves

/-!
# Managers as `SiDaqInitialize` hands them out

`SiDaqInitialize` returns a manager in `SIDAQ_SYS_ERROR` when `WSAStartup` or the test of the
connection fails, before the queues exist. `Mngr` is a manager with the pointers that may be `NULL`;
a step that goes through one of them is a fault. `usable_iff`: the calls and thread steps that follow
are free of faults, whatever they are, if and only if `SiDaqInitialize` has run to its end.
-/

namespace SiDaqApi

open Machine

variable {α : Type*}

/-! ## `SiDaqInitialize` -/

/-- What a pointer of the manager points to. The framer is that of `State`. -/
inductive MngrObject
  | squeueList
  /-- The one queue in the list. -/
  | recvQueue
  | eventFrame
  | framer
  | sitcp
  deriving DecidableEq, Repr

/-- A manager; the flags tell which pointers are not `NULL`, and how the process or the manager has
ended. -/
structure Mngr (α : Type*) where
  state : State α
  sitcp : Bool
  squeueCount : ℕ
  squeueList : Bool
  eventFrame : Bool
  fault : Bool
  deleted : Bool

def Mngr.isNull (m : Mngr α) : MngrObject → Bool
  | .squeueList | .recvQueue => !m.squeueList
  | .eventFrame => !m.eventFrame
  | .framer => m.state.framer.isNone
  | .sitcp => !m.sitcp

/-- The manager after the `memset` and the first assignments. -/
def Mngr.blank : Mngr α where
  state := { State.init with sockParam := { (State.init : State α).sockParam with run := false } }
  sitcp := false
  squeueCount := 0
  squeueList := false
  eventFrame := false
  fault := false
  deleted := false

/-- Returned early, with an error. -/
def Mngr.failed (e : ErrorInfo) : Mngr α :=
  let m : Mngr α := .blank
  { m with state := { m.state with status := .sysError }.setSiDaqError e }

/-- Returned at the end. -/
def Mngr.complete : Mngr α :=
  let m : Mngr α := .blank
  { m with
    state := { m.state with sockParam := { m.state.sockParam with run := true } }
    sitcp := true
    squeueCount := 1
    squeueList := true
    eventFrame := true }

/-- What `SiDaqInitialize` is given and answered: whether there is an address, which allocations
succeed, the error of `WSAStartup`, whether the constructor of `SiTcpRbcp` returns, and whether the
registers can be read. -/
structure InitAnswers where
  address : Bool
  malloc : Bool
  startup : Option ℤ
  constructor : Bool
  registers : Bool
  mallocList : Bool
  deriving DecidableEq, Repr

/-- What `SiDaqInitialize` leaves: `g_wsa_init`, whether `WSAStartup` has succeeded, and the manager,
unless it returns `NULL` or throws. -/
structure InitResult (α : Type*) where
  wsaInit : ℕ
  started : Bool
  manager : Option (Mngr α)

/-- From the creation of the RBCP object on. -/
def initializeObjects (env : InitAnswers) : Option (Mngr α) :=
  if env.constructor = false then none
  else if env.registers = false then
    some (.failed ⟨.initialConnectFailed,
      "could not initialize SiTCP. confirm ip address and device.", 0⟩)
  else if env.mallocList = false then none
  else some .complete

/-- `SiDaqInitialize`. -/
def siDaqInitialize (notWsaCleanup : Bool) (wsaInit : ℕ) (env : InitAnswers) : InitResult α :=
  if env.address = false ∨ env.malloc = false then ⟨wsaInit, false, none⟩
  else if notWsaCleanup = false ∧ wsaInit = 0 then
    match env.startup with
    | some code =>
      ⟨wsaInit, false,
        some (.failed ⟨.noError, "could not initialize socket. WSAStartup Failed.", code⟩)⟩
    | none => ⟨wsaInit + 1, true, initializeObjects env⟩
  else ⟨wsaInit, false, initializeObjects env⟩

/-- `WSAStartup` does not fail where it is called, and the registers can be read. -/
def InitAnswers.Completes (notWsaCleanup : Bool) (wsaInit : ℕ) (env : InitAnswers) : Prop :=
  (notWsaCleanup = false → wsaInit = 0 → env.startup = none) ∧ env.registers = true

/-- `State.init` is the state of a manager that is returned complete. -/
theorem Mngr.complete_state : (Mngr.complete : Mngr α).state = State.init := rfl

/-- A manager is returned complete, or with an error and without any object. -/
theorem siDaqInitialize_cases {notWsaCleanup : Bool} {wsaInit : ℕ} {env : InitAnswers} {m : Mngr α}
    (h : (siDaqInitialize notWsaCleanup wsaInit env).manager = some m) :
    m = .complete ∧ env.Completes notWsaCleanup wsaInit ∨
      (∃ e, m = .failed e) ∧ ¬ env.Completes notWsaCleanup wsaInit := by
  -- what `initializeObjects` makes is the rest of the call, in both branches of the flag
  have hobjects : ∀ {m : Mngr α}, initializeObjects env = some m →
      m = .complete ∧ env.registers = true ∨ (∃ e, m = .failed e) ∧ env.registers = false := by
    intro m h
    unfold initializeObjects at h
    split at h
    · simp at h
    · split at h
      · rename_i hregisters
        exact Or.inr ⟨⟨_, (Option.some.inj h).symm⟩, hregisters⟩
      · rename_i hregisters
        split at h
        · simp at h
        · exact Or.inl ⟨(Option.some.inj h).symm, by simpa using hregisters⟩
  unfold siDaqInitialize at h
  unfold InitAnswers.Completes
  split at h
  · simp at h
  split at h
  · rename_i hstart
    split at h
    · rename_i code hcode
      exact Or.inr ⟨⟨_, (Option.some.inj h).symm⟩, by simp [hstart, hcode]⟩
    · rename_i hcode
      rcases hobjects h with ⟨hm, hregisters⟩ | ⟨hm, hregisters⟩
      · exact Or.inl ⟨hm, fun _ _ => hcode, hregisters⟩
      · exact Or.inr ⟨hm, by simp [hregisters]⟩
  · rename_i hstart
    rcases hobjects h with ⟨hm, hregisters⟩ | ⟨hm, hregisters⟩
    · exact Or.inl ⟨hm, fun hflag hzero => absurd ⟨hflag, hzero⟩ hstart, hregisters⟩
    · exact Or.inr ⟨hm, by simp [hregisters]⟩

/-! ## What a step goes through -/

/-- The pointers that the socket thread follows at a position. -/
def SockPc.touches : SockPc α → List MngrObject
  | .start | .select => [.squeueList]
  | .put _ => [.recvQueue]
  | _ => []

/-- The pointers that the framer thread follows at a position. `SQGet` checks its queue. -/
def FramerPc.touches (framer : Option (SiDaqFramer α)) : FramerPc α → List MngrObject
  | .start | .checkError | .setError | .testQueueError | .exit => [.framer]
  | .get => [.squeueList]
  | .recv _ => [.framer, .eventFrame]
  | .flush => if framer.any fun fr => fr.rest > 0 then [.framer, .eventFrame] else [.framer]
  | _ => []

/-- The pointers that the API functions follow at a position. `SiDaqRun` makes the framer before it
uses it, and `SiDaqStop` checks it. -/
def ApiPc.touches : ApiPc α → List MngrObject
  | .resetRecv _ => [.squeueList]
  | _ => []

/-- A step of the system, or one of the calls that `Act` does not have. -/
inductive MngrAct (α : Type*)
  | act (a : Act α)
  /-- `SiDaqGetData` with an event queue that is empty, or `NULL`. -/
  | getNothing
  | getDataCount
  | getFrameDataCount
  /-- With the text of the exception, if there is one. -/
  | rbcpReadBytes (what : Option String)
  | rbcpWriteBytes (what : Option String)
  /-- The deletions of `SiDaqTerminate`. -/
  | delete

/-- The pointers that a step follows without a check. -/
def Mngr.touches (m : Mngr α) : MngrAct α → List MngrObject
  | .act (.sock t _) => (m.state.socks t).pc.touches
  | .act (.framer t) => (m.state.framers t).touches m.state.framer
  | .act (.api _) => m.state.api.touches
  | .getDataCount => [.squeueList, .recvQueue]
  | .getFrameDataCount => [.eventFrame]
  | .delete => if m.squeueCount > 0 then [.squeueList] else []
  | _ => []

/-- An RBCP call: without the object nothing happens, and an exception is recorded. -/
def Mngr.rbcp (m : Mngr α) (what : Option String) : Mngr α :=
  match what with
  | some what =>
    if m.sitcp then { m with state := m.state.setSiDaqError ⟨.sitcpWriteError, what, 0⟩ } else m
  | none => m

variable [Inhabited α]

/-- The step, where it follows no `NULL`. -/
def Mngr.perform (m : Mngr α) : MngrAct α → Option (Mngr α)
  | .act a => (SiDaqApi.step m.state a).map fun s => { m with state := s }
  | .getNothing | .getDataCount | .getFrameDataCount => some m
  | .rbcpReadBytes what => some (m.rbcp what)
  | .rbcpWriteBytes what => some (m.rbcp what)
  | .delete =>
    match m.state.api with
    | .deleting => some { m with deleted := true }
    | _ => none

/-- A step of the manager, until it has been deleted or the process has faulted. -/
def Mngr.step (m : Mngr α) (a : MngrAct α) : Option (Mngr α) :=
  if m.fault || m.deleted then none
  else if (m.touches a).any m.isNull then some { m with fault := true }
  else m.perform a

/-- No sequence of calls and thread steps goes through `NULL`. -/
def Mngr.Usable (m : Mngr α) : Prop := ∀ acts m', run Mngr.step m acts = some m' → m'.fault = false

/-! ## Complete managers -/

/-- A framer thread, and the one about to be created, have a framer. -/
def State.HasFramer (s : State α) : Prop :=
  s.framer = none → (∀ t, ¬ s.FramerAlive t) ∧ s.api ≠ .runCreateFramer

section HasFramer

variable {s s' : State α}

omit [Inhabited α] in
/-- A step that leaves the framer alone, creates no framer thread and is not about to. -/
theorem State.HasFramer.of_same (h : s.HasFramer) (hframer : s'.framer = s.framer)
    (hframers : ∀ t, s'.FramerAlive t → s.FramerAlive t)
    (hapi : s'.api = .runCreateFramer → s.api = .runCreateFramer) : s'.HasFramer := by
  intro hnone
  obtain ⟨hdead, hne⟩ := h (hframer ▸ hnone)
  exact ⟨fun t ht => hdead t (hframers t ht), fun heq => hne (hapi heq)⟩

omit [Inhabited α] in
theorem State.HasFramer.of_some {fr : SiDaqFramer α} (hframer : s.framer = some fr) :
    s.HasFramer := by
  intro hnone
  simp [hframer] at hnone

theorem State.HasFramer.framer_step {t : ℕ} (h : s.HasFramer) (hstep : framerStep s t = some s') :
    s'.HasFramer := by
  have halive := (framerStep_change hstep).1
  obtain ⟨fr, hfr⟩ : ∃ fr, s.framer = some fr := by
    cases hfr : s.framer with
    | none => exact absurd halive ((h hfr).1 t)
    | some fr => exact ⟨fr, rfl⟩
  rcases framerStep_move hstep with
    ⟨pc, status, code, message, param, framer, sockets, rfl, -, -, hframer, -⟩ |
    ⟨c, cs, -, -, rfl⟩ | ⟨c, fr', o, -, -, -, rfl⟩ | ⟨fr', -, -, -, rfl⟩
  · obtain ⟨fr', hfr', -⟩ := hframer.symm.exists_some hfr
    exact .of_some hfr'
  · exact .of_some hfr
  · exact .of_some rfl
  · exact .of_some rfl

theorem State.HasFramer.api_step {ans : ApiAnswer} (h : s.HasFramer)
    (hstep : apiStep s ans = some s') : s'.HasFramer := by
  rcases apiStep_move hstep with
    ⟨pc, status, code, message, param, sockets, rfl, -, hpc, -, -⟩ |
    ⟨pc, code, message, param, sockets, rfl, -, hpc, -⟩ | ⟨p, t, -, -, rfl⟩ | ⟨p, -, rfl⟩ |
    ⟨t, hapi, -, rfl⟩ | ⟨pc, status, hnext, rfl⟩ | ⟨status, c, cs, -, -, rfl⟩ |
    ⟨status, f, fs, -, -, rfl⟩
  · refine h.of_same rfl (fun _ => id) ?_
    rintro rfl
    simp [ApiPc.isStarting] at hpc
  · refine h.of_same rfl (fun _ => id) ?_
    rintro rfl
    simp [ApiPc.isConnecting] at hpc
  · exact h.of_same rfl (fun _ => id) (by simp [State.setSock, State.apiTo])
  · exact .of_some rfl
  · -- `SiDaqRun` creates the framer thread after the framer
    cases hfr : s.framer with
    | none => exact absurd hapi (h hfr).2
    | some fr => exact .of_some hfr
  · refine h.of_same rfl (fun _ => id) ?_
    rintro rfl
    cases hnext
  · exact h.of_same rfl (fun _ => id) id
  · exact h.of_same rfl (fun _ => id) id

omit [Inhabited α] in
theorem State.HasFramer.call_step {pc : ApiPc α} (h : s.HasFramer)
    (hstep : callStep s pc = some s') (hpc : pc ≠ .runCreateFramer) : s'.HasFramer := by
  obtain ⟨r, -, rfl⟩ := callStep_begins hstep
  exact h.of_same rfl (fun _ => id) fun hapi => absurd hapi hpc

theorem State.HasFramer.step {a : Act α} (h : s.HasFramer) (hstep : SiDaqApi.step s a = some s') :
    s'.HasFramer := by
  cases a with
  | sock t ans =>
    obtain ⟨-, _, _, _, _, _, _, rfl⟩ := sockStep_change hstep
    exact h.of_same rfl (fun _ => id) id
  | framer t => exact h.framer_step hstep
  | api ans => exact h.api_step hstep
  | callRun p => exact h.call_step hstep (by simp)
  | callStop => exact h.call_step hstep (by simp)
  | callReset => exact h.call_step hstep (by simp)
  | callTerminate => exact h.call_step hstep (by simp)
  | getData =>
    obtain ⟨f, fs, -, rfl⟩ := getData_takes hstep
    exact h.of_same rfl (fun _ => id) id
  | pause | resume =>
    simp only [SiDaqApi.step, Option.some.injEq] at hstep
    subst hstep
    exact h.of_same rfl (fun _ => id) id

end HasFramer

/-- All objects exist, the framer from the first `SiDaqRun` on. -/
structure Mngr.Whole (m : Mngr α) : Prop where
  squeueList : m.squeueList = true
  eventFrame : m.eventFrame = true
  hasFramer : m.state.HasFramer
  fault : m.fault = false

omit [Inhabited α] in
theorem Mngr.whole_complete : (Mngr.complete : Mngr α).Whole where
  squeueList := rfl
  eventFrame := rfl
  hasFramer := fun _ => ⟨fun _ ht => ht rfl, by simp [complete_state, State.init]⟩
  fault := rfl

section Whole

variable {m m' : Mngr α}

omit [Inhabited α] in
/-- Only a framer thread follows the framer. -/
theorem Mngr.framerAlive_of_mem {a : MngrAct α} (h : .framer ∈ m.touches a) :
    ∃ t, m.state.FramerAlive t := by
  cases a with
  | act a =>
    cases a with
    | sock t ans => cases hpc : (m.state.socks t).pc <;> simp [Mngr.touches, SockPc.touches, hpc] at h
    | framer t =>
      refine ⟨t, fun hoff => ?_⟩
      simp [Mngr.touches, hoff, FramerPc.touches] at h
    | api ans => cases hpc : m.state.api <;> simp [Mngr.touches, ApiPc.touches, hpc] at h
    | _ => simp [Mngr.touches] at h
  | delete =>
    simp only [Mngr.touches] at h
    split at h <;> simp at h
  | _ => simp [Mngr.touches] at h

omit [Inhabited α] in
/-- Nobody follows `_sitcp` without a check. -/
theorem Mngr.sitcp_notMem (m : Mngr α) (a : MngrAct α) : .sitcp ∉ m.touches a := by
  intro h
  cases a with
  | act a =>
    cases a with
    | sock t ans => cases hpc : (m.state.socks t).pc <;> simp [Mngr.touches, SockPc.touches, hpc] at h
    | framer t =>
      cases hpc : m.state.framers t <;> simp [Mngr.touches, FramerPc.touches, hpc] at h
      split at h <;> simp at h
    | api ans => cases hpc : m.state.api <;> simp [Mngr.touches, ApiPc.touches, hpc] at h
    | _ => simp [Mngr.touches] at h
  | delete =>
    simp only [Mngr.touches] at h
    split at h <;> simp at h
  | _ => simp [Mngr.touches] at h

omit [Inhabited α] in
/-- A whole manager follows no `NULL`. -/
theorem Mngr.Whole.not_null (h : m.Whole) (a : MngrAct α) : (m.touches a).any m.isNull = false := by
  rw [List.any_eq_false]
  intro o ho
  cases o with
  | squeueList | recvQueue => simp [Mngr.isNull, h.squeueList]
  | eventFrame => simp [Mngr.isNull, h.eventFrame]
  | framer =>
    obtain ⟨t, ht⟩ := Mngr.framerAlive_of_mem ho
    cases hfr : m.state.framer with
    | none => exact absurd ht ((h.hasFramer hfr).1 t)
    | some fr => simp [Mngr.isNull, hfr]
  | sitcp => exact absurd ho (m.sitcp_notMem a)

omit [Inhabited α] in
theorem Mngr.Whole.rbcp (h : m.Whole) (what : Option String) : (m.rbcp what).Whole := by
  unfold Mngr.rbcp
  split
  · split
    · exact ⟨h.squeueList, h.eventFrame, h.hasFramer, h.fault⟩
    · exact h
  · exact h

/-- The objects stay. -/
theorem Mngr.Whole.step {a : MngrAct α} (h : m.Whole) (hstep : m.step a = some m') : m'.Whole := by
  unfold Mngr.step at hstep
  split at hstep
  · simp at hstep
  rw [h.not_null a] at hstep
  cases a with
  | act a =>
    obtain ⟨s', hs', rfl⟩ := Option.map_eq_some_iff.mp hstep
    exact ⟨h.squeueList, h.eventFrame, h.hasFramer.step hs', h.fault⟩
  | getNothing | getDataCount | getFrameDataCount =>
    obtain rfl := Option.some.inj hstep
    exact h
  | rbcpReadBytes what | rbcpWriteBytes what =>
    obtain rfl := Option.some.inj hstep
    exact h.rbcp what
  | delete =>
    simp only [Bool.false_eq_true, if_false, Mngr.perform] at hstep
    split at hstep
    · obtain rfl := Option.some.inj hstep
      exact ⟨h.squeueList, h.eventFrame, h.hasFramer, h.fault⟩
    · simp at hstep

theorem Mngr.complete_usable : (Mngr.complete : Mngr α).Usable := by
  intro acts m' hrun
  have hwhole : m'.Whole := run_invariant (fun _ _ _ h hstep => h.step hstep) whole_complete hrun
  exact hwhole.fault

/-- `SiDaqGetDataCount` goes through the queue list, which does not exist. -/
theorem Mngr.failed_not_usable (e : ErrorInfo) : ¬ (Mngr.failed e : Mngr α).Usable := by
  intro h
  have hfault := h [.getDataCount] { (Mngr.failed e : Mngr α) with fault := true } rfl
  exact Bool.noConfusion hfault

end Whole

/-- **A manager is usable if and only if `SiDaqInitialize` has run to its end**: no function and no
thread goes through a `NULL` pointer of the manager, whatever calls and steps follow, exactly when
`WSAStartup` has not failed and the registers could be read. -/
theorem usable_iff {notWsaCleanup : Bool} {wsaInit : ℕ} {env : InitAnswers} {m : Mngr α}
    (hm : (siDaqInitialize notWsaCleanup wsaInit env).manager = some m) :
    m.Usable ↔ env.Completes notWsaCleanup wsaInit := by
  rcases siDaqInitialize_cases hm with ⟨rfl, hcompletes⟩ | ⟨⟨e, rfl⟩, hfails⟩
  · exact iff_of_true Mngr.complete_usable hcompletes
  · exact iff_of_false (Mngr.failed_not_usable e) hfails

/-- Everything succeeds. -/
def allSucceed : InitAnswers := ⟨true, true, none, true, true, true⟩

theorem allSucceed_usable :
    ∃ m : Mngr UInt8, (siDaqInitialize false 0 allSucceed).manager = some m ∧
      m.state.status = .idle ∧ m.Usable := by
  have hm : (siDaqInitialize false 0 allSucceed).manager = some (Mngr.complete : Mngr UInt8) := rfl
  exact ⟨_, hm, rfl, (usable_iff hm).mpr ⟨fun _ _ => rfl, rfl⟩⟩

/-- The device does not answer the test of the connection. -/
def noDevice : InitAnswers := { allSucceed with registers := false }

/-- `SiDaqRun`, and the first step of its socket thread, which looks for its queue. -/
def runAnyway : List (MngrAct UInt8) :=
  (runCall failingHeader.toRunParams 0 0).map .act ++ [.act (.sock 0 .ok)]

/-- A manager in `SIDAQ_SYS_ERROR`, on which `SiDaqRun` returns `SIDAQ_RUN`. -/
theorem noDevice_run_faults :
    ∃ m m' : Mngr UInt8, (siDaqInitialize false 0 noDevice).manager = some m ∧
      m.state.status = .sysError ∧
      run Mngr.step m runAnyway = some m' ∧ m'.state.status = .run ∧ m'.fault = true ∧
      ¬ m.Usable := by
  refine ⟨_, _, rfl, rfl, rfl, rfl, rfl, fun h => ?_⟩
  exact Bool.noConfusion (h runAnyway _ rfl)

end SiDaqApi
