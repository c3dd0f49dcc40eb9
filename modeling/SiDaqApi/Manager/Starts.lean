import SiDaqApi.Manager.Sockets
import SiDaqApi.Manager.Measure

/-!
# What a failed start leaves behind

`SiDaqRun` opens a socket and gives it to the manager at the end of its socket calls. Where one of
these calls fails it returns `SIDAQ_SYS_ERROR` without `closesocket`, and no `SiDaqStop` can close
the socket, since `device_socket` never was its handle. A start while another run has its socket open
loses that one. `nothing_left_open`: in a run without these steps a `SiDaqRun` that returns
`SIDAQ_SYS_ERROR` leaves no socket open, and there is never more than one.
-/

namespace SiDaqApi

open Machine

variable {α : Type*}

/-! ## Open sockets -/

/-- The handles of the open sockets. -/
def Sockets.openHandles (k : Sockets) : List ℕ :=
  ((List.range k.opened).map (· + 1)).filter fun h => !k.closed.contains h

theorem Sockets.mem_openHandles {k : Sockets} {h : ℕ} :
    h ∈ k.openHandles ↔ k.isOpen (some h) = true := by
  rw [Sockets.isOpen_some]
  simp only [Sockets.openHandles, List.mem_filter, List.mem_map, List.mem_range,
    Bool.not_eq_true', List.contains_eq_mem, decide_eq_false_iff_not]
  constructor
  · rintro ⟨⟨i, hi, rfl⟩, hclosed⟩
    exact ⟨by omega, by omega, hclosed⟩
  · rintro ⟨hpos, hle, hclosed⟩
    exact ⟨⟨h - 1, by omega, by omega⟩, hclosed⟩

/-- `closesocket` opens nothing. -/
theorem Sockets.openHandles_close (k : Sockets) (o : Option ℕ) :
    (k.close o).openHandles.Sublist k.openHandles := by
  unfold Sockets.openHandles
  rw [Sockets.opened_close]
  apply List.monotone_filter_right
  intro h hh
  simp only [Bool.not_eq_true', List.contains_eq_mem, decide_eq_false_iff_not] at hh ⊢
  exact fun hclosed => hh (Sockets.mem_close.mpr (Or.inl hclosed))

/-- `socket` opens at most one handle. -/
theorem Sockets.openHandles_opens (k : Sockets) :
    (⟨k.opened + 1, k.closed⟩ : Sockets).openHandles.length ≤ k.openHandles.length + 1 := by
  simp only [Sockets.openHandles, List.range_succ, List.map_append, List.filter_append,
    List.length_append]
  apply Nat.add_le_add_left
  exact List.length_filter_le _ _

/-! ## Starts -/

/-- `SiDaqRun` is about to return `SIDAQ_SYS_ERROR`, or was the last call and has returned it. -/
def State.StartFails (s : State α) : Prop :=
  match s.api with
  | .runFail _ | .runFailStatus => True
  | .runReturn => s.status = .sysError
  | .returned (.run status) => status = .sysError
  | _ => False

/-- **A failed start leaves nothing open**: no socket is open after a `SiDaqRun` that returned
`SIDAQ_SYS_ERROR`, and at no time is there more than one. -/
structure State.LeavesNothing (s : State α) : Prop where
  failed : s.api = .returned (.run .sysError) → s.sockets.openHandles = []
  one : s.sockets.openHandles.length ≤ 1

/-- A socket call of `SiDaqRun` after `socket` is about to fail with this answer. -/
def ApiPc.connectFails : ApiPc α → ApiAnswer → Bool
  | .runAddress _ _, .fail _ => true
  | .runAddress _ _, .noAddress _ => true
  | .runConnect _ _, .fail code => code ≠ wsaEWouldBlock
  | .runSockopt p _, .fail _ => 0 ≤ p.rcvBufBytes
  | _, _ => false

/-- `SiDaqRun` is about to refuse its parameters, or to call `socket`. -/
def ApiPc.needsFree : ApiPc α → Bool
  | .runBegin p => p.framing.maxFrameLen ≤ p.framing.headerLen
  | .runSocket _ => true
  | _ => false

/-- `SiDaqRun` loses no socket: after `socket` none of its calls fails; it refuses parameters and
calls `socket` only with no socket open; and no framer thread writes `SIDAQ_SYS_ERROR` into its
return value while one is open. -/
structure StartsClean (s : State α) (a : Act α) : Prop where
  connects : ∀ ans, a = .api ans → s.api.connectFails ans = false
  free : ∀ ans, a = .api ans → s.api.needsFree = true → s.sockets.openHandles = []
  quiet : ∀ t, a = .framer t → s.api = .runReturn → (s.framers t).isReporting = true →
    s.sockets.openHandles = []

/-! ## The invariant -/

/-- While `SiDaqRun` is failing, and after it has failed, no socket is open. -/
structure State.Closed (s : State α) : Prop where
  failing : s.StartFails → s.sockets.openHandles = []
  one : s.sockets.openHandles.length ≤ 1

theorem State.closed_init : (State.init : State α).Closed where
  failing := fun h => h.elim
  one := Nat.zero_le 1

theorem State.Closed.leavesNothing {s : State α} (h : s.Closed) : s.LeavesNothing where
  failed := by
    intro hapi
    apply h.failing
    simp [State.StartFails, hapi]
  one := h.one

section Steps

variable {s s' : State α} {t : ℕ}

/-- A step that opens nothing, and after which `SiDaqRun` fails only if it did before or no socket
is open. -/
theorem State.Closed.of_sublist (h : s.Closed)
    (hopen : s'.sockets.openHandles.Sublist s.sockets.openHandles)
    (hfails : s'.StartFails → s.StartFails ∨ s.sockets.openHandles = []) : s'.Closed where
  failing := by
    intro hfail
    have hnone : s.sockets.openHandles = [] := by
      rcases hfails hfail with hfail | hnone
      · exact h.failing hfail
      · exact hnone
    exact List.sublist_nil.mp (hnone ▸ hopen)
  one := hopen.length_le.trans h.one

theorem State.StartFails.congr (hapi : s'.api = s.api) (hstatus : s'.status = s.status)
    (h : s'.StartFails) : s.StartFails := by
  simpa only [State.StartFails, hapi, hstatus] using h

theorem SockUse.openHandles (h : SockUse s t s') :
    s'.sockets.openHandles.Sublist s.sockets.openHandles := by
  cases h with
  | close th hsocks hreceives hpc hcopy hsockets hdevice =>
    rw [hsockets]
    exact Sockets.openHandles_close _ _
  | exit th hsocks hpc hclears hsockets | copy th hsocks hstart hpc hcopy hsockets
  | keep th hsocks hstart hclears hpc hpc' hcopy hreceives hsockets
  | clear th hsocks hclears hpc hcopy hsockets => rw [hsockets]

theorem FramerUse.openHandles (h : FramerUse s t s') :
    s'.sockets.openHandles.Sublist s.sockets.openHandles := by
  cases h with
  | close pc hcloses hpc hframers hsockets hdevice =>
    rw [hsockets]
    exact Sockets.openHandles_close _ _
  | keep pc hcloses hclears hpc hframers hsockets
  | clear pc hcloses hclears hpc hframers hsockets => rw [hsockets]

variable [Inhabited α]

/-- A framer thread writes `SIDAQ_SYS_ERROR` only to report an error. -/
theorem framerStep_status (hstep : framerStep s t = some s')
    (hquiet : (s.framers t).isReporting = false) :
    s'.status = s.status ∨ s'.status ≠ .sysError := by
  rcases (framerStep_effect hstep).status with hsame | hwrites
  · exact Or.inl hsame
  · right
    rintro herror
    rw [herror] at hwrites
    generalize hpc : s.framers t = pc at hwrites hquiet
    cases hwrites with
    | sysError | queueSysError atEnd => simp [FramerPc.isReporting] at hquiet

omit [Inhabited α] in
/-- The socket calls of `SiDaqRun`: it starts to fail with one of them. -/
theorem connectStep_fails {ans : ApiAnswer} (hstep : connectStep s ans s.api = some s')
    (hfail : s'.StartFails) : s.api.connectFails ans = true ∨ s.api.needsFree = true := by
  cases hapi : s.api with
  | runSocket p => exact Or.inr rfl
  | runAddress p h =>
    cases ans with
    | fail code | noAddress code => exact Or.inl rfl
    | ok | thread t =>
      simp only [connectStep, hapi, Option.some.injEq] at hstep
      subst hstep
      exact hfail.elim
  | runConnect p h =>
    cases ans with
    | fail code =>
      simp only [connectStep, hapi] at hstep
      by_cases hblock : code = wsaEWouldBlock
      · rw [if_pos hblock] at hstep
        obtain rfl := Option.some.inj hstep
        exact hfail.elim
      · exact Or.inl (by simp [ApiPc.connectFails, hblock])
    | ok | noAddress code | thread t =>
      simp only [connectStep, hapi, Option.some.injEq] at hstep
      subst hstep
      exact hfail.elim
  | runSockopt p h =>
    simp only [connectStep, hapi] at hstep
    by_cases hbytes : p.rcvBufBytes ≥ 0
    · rw [if_pos hbytes] at hstep
      cases ans with
      | fail code => exact Or.inl (by simpa [ApiPc.connectFails] using hbytes)
      | ok | noAddress code | thread t =>
        obtain rfl := Option.some.inj hstep
        exact hfail.elim
    · rw [if_neg hbytes] at hstep
      obtain rfl := Option.some.inj hstep
      exact hfail.elim
  | _ => simp [connectStep, hapi] at hstep

/-- **`SiDaqRun` starts to fail at its parameters or at one of its socket calls.** -/
theorem apiStep_fails {ans : ApiAnswer} (hstep : apiStep s ans = some s')
    (hfail : s'.StartFails) :
    s.StartFails ∨ s.api.connectFails ans = true ∨ s.api.needsFree = true := by
  cases hapi : s.api with
  | returned r => simp [apiStep, hapi] at hstep
  | deleting => simp [apiStep, hapi] at hstep
  | runSocket p | runAddress p h | runConnect p h | runSockopt p h =>
    simp only [apiStep, hapi] at hstep
    right
    rw [← hapi] at hstep ⊢
    exact connectStep_fails hstep hfail
  | runBegin p =>
    simp only [apiStep, hapi, Option.some.injEq] at hstep
    subst hstep
    by_cases hparams : p.framing.headerLen ≥ p.framing.maxFrameLen
    · exact Or.inr (Or.inr (by simpa [ApiPc.needsFree] using hparams))
    · rw [if_neg hparams] at hfail
      exact hfail.elim
  | runFail e | runFailStatus =>
    left
    simp [State.StartFails, hapi]
  | runReturn =>
    simp only [apiStep, hapi, Option.some.injEq] at hstep
    subst hstep
    left
    simpa only [State.StartFails, hapi, State.apiTo] using hfail
  | runSetStatus =>
    simp only [apiStep, hapi, Option.some.injEq] at hstep
    subst hstep
    simp [State.StartFails, State.apiTo] at hfail
  | stop pc | terminate pc =>
    simp only [apiStep, hapi] at hstep
    rcases hstop : stopStep s pc with ⟨s₁, pc₁ | ok⟩ <;> rw [hstop] at hstep <;>
      (obtain rfl := Option.some.inj hstep; exact hfail.elim)
  | runCreateSock p | runCreateFramer =>
    simp only [apiStep, hapi] at hstep
    split at hstep
    · split at hstep
      · obtain rfl := Option.some.inj hstep
        exact hfail.elim
      · simp at hstep
    · simp at hstep
  | resetRecv status | resetEvent status =>
    simp only [apiStep, hapi] at hstep
    split at hstep
    · obtain rfl := Option.some.inj hstep
      exact hfail.elim
    · obtain rfl := Option.some.inj hstep
      simp [State.StartFails] at hfail
  | resetRead =>
    simp only [apiStep, hapi, Option.some.injEq] at hstep
    subst hstep
    split at hfail <;> exact hfail.elim
  | runSetSocket p h | runSetRun p | runSetParam p | runConfigure p | resetSet status
  | resetRestore status =>
    simp only [apiStep, hapi, Option.some.injEq] at hstep
    subst hstep
    exact hfail.elim

theorem State.Closed.api (h : s.Closed) {ans : ApiAnswer} (hclean : StartsClean s (.api ans))
    (hstep : apiStep s ans = some s') : s'.Closed := by
  have hfails : s'.StartFails → s.StartFails ∨ s.sockets.openHandles = [] := by
    intro hfail
    rcases apiStep_fails hstep hfail with hfail | hconnect | hfree
    · exact Or.inl hfail
    · rw [hclean.connects ans rfl] at hconnect
      simp at hconnect
    · exact Or.inr (hclean.free ans rfl hfree)
  cases apiStep_use hstep with
  | opens p hapi hapi' hsockets hdevice =>
    -- no socket is open, so that the new one is the only one
    have hnone : s.sockets.openHandles = [] := hclean.free ans rfl (by rw [hapi]; rfl)
    have hone := Sockets.openHandles_opens s.sockets
    rw [hnone] at hone
    refine ⟨fun hfail => ?_, by rw [hsockets]; exact hone⟩
    simp [State.StartFails, hapi'] at hfail
  | close hcloses hpc hholds hhasSet hsockets hdevice =>
    apply h.of_sublist _ hfails
    rw [hsockets]
    exact Sockets.openHandles_close _ _
  | keep hcloses hclears hset hpc hholds hhasSet hsockets
  | sets p k hapi hapi' hsockets
  | clear hclears hpc hholds hhasSet hsockets =>
    exact h.of_sublist (by rw [hsockets]) hfails

theorem State.Closed.framer (h : s.Closed) (hclean : StartsClean s (.framer t))
    (hstep : framerStep s t = some s') : s'.Closed := by
  have hapi : s'.api = s.api := by
    obtain ⟨-, pc, status, code, message, param, framer, queue, events, sockets, framed, rfl⟩ :=
      framerStep_change hstep
    rfl
  apply h.of_sublist (framerStep_use hstep).openHandles
  intro hfail
  by_cases hquiet : (s.framers t).isReporting = false
  · rcases framerStep_status hstep hquiet with hsame | hne
    · exact Or.inl (hfail.congr hapi hsame)
    · left
      unfold State.StartFails at hfail ⊢
      rw [hapi] at hfail
      split at hfail
      · trivial
      · trivial
      · exact absurd hfail hne
      · exact hfail
      · exact hfail
  · rw [Bool.not_eq_false] at hquiet
    by_cases hreturn : s.api = .runReturn
    · exact Or.inr (hclean.quiet t rfl hreturn hquiet)
    · left
      unfold State.StartFails at hfail ⊢
      rw [hapi] at hfail
      split at hfail
      · trivial
      · trivial
      · rename_i heq
        exact absurd heq hreturn
      · exact hfail
      · exact hfail

theorem State.Closed.act (h : s.Closed) {a : Act α} (hclean : StartsClean s a)
    (hstep : step s a = some s') : s'.Closed := by
  have hcall : ∀ {pc : ApiPc α}, ¬ (s.apiTo pc).StartFails → callStep s pc = some s' →
      s'.Closed := by
    intro pc hpc hs'
    obtain ⟨r, -, rfl⟩ := callStep_begins hs'
    exact h.of_sublist (List.Sublist.refl _) fun hfail => absurd hfail hpc
  cases a with
  | sock t ans =>
    obtain ⟨-, th, param, queue, sockets, received, put, heq⟩ := sockStep_change hstep
    apply h.of_sublist (sockStep_use hstep).openHandles
    intro hfail
    subst heq
    exact Or.inl hfail
  | framer t => exact h.framer hclean hstep
  | api ans => exact h.api hclean hstep
  | callRun p => exact hcall id hstep
  | callStop => exact hcall id hstep
  | callReset => exact hcall id hstep
  | callTerminate => exact hcall id hstep
  | getData =>
    obtain ⟨f, fs, -, rfl⟩ := getData_takes hstep
    exact h.of_sublist (List.Sublist.refl _) Or.inl
  | pause | resume =>
    simp only [step, Option.some.injEq] at hstep
    subst hstep
    exact h.of_sublist (List.Sublist.refl _) Or.inl

end Steps

/-- **Failed starts leave nothing open**, in every run of the system in which no start loses a
socket. -/
theorem nothing_left_open [Inhabited α] {acts : List (Act α)}
    (hclean : Guarded step StartsClean State.init acts) :
    Always step State.LeavesNothing State.init acts :=
  always_of_guarded (fun _ _ _ h hclean hstep => h.act hclean hstep)
    (fun _ h => h.leavesNothing) State.closed_init hclean

/-- The part of `StartsClean` that can be computed. -/
def startsCleanBool (s : State α) : Act α → Bool
  | .api ans => !s.api.connectFails ans && (!s.api.needsFree || s.sockets.openHandles.isEmpty)
  | .framer t => !(s.framers t).isReporting
  | _ => true

theorem StartsClean.of_startsCleanBool (s : State α) (a : Act α)
    (h : startsCleanBool s a = true) : StartsClean s a where
  connects := by
    rintro ans rfl
    simp only [startsCleanBool, Bool.and_eq_true, Bool.not_eq_true'] at h
    exact h.1
  free := by
    rintro ans rfl hfree
    simpa [startsCleanBool, hfree] using And.right (Bool.and_eq_true_iff.mp h)
  quiet := by
    rintro t rfl - hreporting
    simp [startsCleanBool, hreporting] at h

/-- `socket` fails, and the next start succeeds. -/
def noSocketThenRun : List (Act UInt8) :=
  [.callRun defaultRun, .api .ok, .api (.fail 10050), .api .ok, .api .ok, .api .ok] ++
    runCall defaultRun 0 0

theorem noSocketThenRun_leaves_nothing :
    (∃ s, run step State.init (noSocketThenRun.take 6) = some s ∧
      s.api = .returned (.run .sysError)) ∧
    (∃ s, run step State.init noSocketThenRun = some s ∧ s.sockets.openHandles = [1]) ∧
    Always step State.LeavesNothing State.init noSocketThenRun := by
  refine ⟨⟨_, rfl, rfl⟩, ⟨_, rfl, rfl⟩, nothing_left_open ?_⟩
  exact guarded_of_guardedBool StartsClean.of_startsCleanBool (by decide)

/-- A start whose connection is refused. -/
def refusedStart : List (Act UInt8) :=
  [.callRun defaultRun, .api .ok, .api .ok, .api .ok, .api (.fail 10061), .api .ok, .api .ok,
    .api .ok]

/-- Two refused starts leave two sockets open, which no call can close any more. -/
theorem refusedStarts_leave_sockets :
    ∃ s, run step State.init (refusedStart ++ refusedStart) = some s ∧
      s.api = .returned (.run .sysError) ∧ s.sockets.openHandles = [1, 2] ∧
      ¬ s.LeavesNothing := by
  refine ⟨_, rfl, rfl, rfl, fun h => ?_⟩
  exact absurd h.one (by decide)

end SiDaqApi
