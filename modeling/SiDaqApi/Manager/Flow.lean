import SiDaqApi.Manager.Moves

/-!
# Where the bytes of a run are

A run is a call of `SiDaqRun` on a manager without threads, with empty queues and an empty carry-over,
followed by anything but another `SiDaqRun` or a `SiDaqResetQueue`. `Flowing` is what holds throughout
a run: one socket thread and one framer thread move the bytes, in order, from `recv` to the consumer,
and the framer thread leaves its loop with an empty carry-over.

The framing arguments are those for which `RecvSiDaqData` keeps every byte.
-/

namespace SiDaqApi

open Machine

variable {α : Type*}

/-- A manager on which a run can start. -/
structure State.Clean (s : State α) : Prop where
  api : s.ApiIdle
  socks : ∀ t, ¬ s.SockAlive t
  framers : ∀ t, ¬ s.FramerAlive t
  recvQueue : s.recvQueue = []
  eventFrame : s.eventFrame = []
  rest : s.CarriesNothing
  /-- The carry-over buffer is the one that `NewSiDaqFramer` allocates. -/
  size : ∀ fr, s.framer = some fr → fr.buffSize = defaultMaxFrameLen

/-- An action of a run: anything but the start of another run and the reset. -/
def Act.InRun : Act α → Prop
  | .callRun _ | .callReset => False
  | _ => True

instance (a : Act α) : Decidable a.InRun :=
  match a with
  | .callRun _ | .callReset => isFalse id
  | .sock _ _ | .framer _ | .api _ | .callStop | .callTerminate | .getData | .pause | .resume =>
    isTrue trivial

/-- Framer thread `t` has left its loop, or its next test makes it leave. -/
def State.Leaves (s : State α) (t : ℕ) : Prop :=
  (s.framers t).hasLeft ∨
    (s.status = .idle ∧ (s.framers t = .start ∨ s.framers t = .testIdle)) ∨
    (s.status = .reset ∧
      (s.framers t = .start ∨ s.framers t = .testIdle ∨ s.framers t = .testReset))

/-- A run that started in `s₀` with arguments `p`, with socket thread `j` and framer thread `k`. -/
structure Flowing (p : RunParams α) (s₀ s : State α) (j k : ℕ) : Prop where
  socks : ∀ t, t ≠ j → (s.socks t).pc = .off
  framers : ∀ t, t ≠ k → s.framers t = .off
  connecting : s.api.isConnecting → (s.socks j).pc = .off
  starting : s.api.isStarting → s.framers k = .off
  params : ∀ q, s.api.runParams = some q →
    q = p ∧ ∀ fr, s.framer = some fr → fr.buffSize = defaultMaxFrameLen
  noReset : s.api.resets = false
  ready : s.framers k ≠ .off ∨ s.api = .runCreateFramer →
    ∃ fr, s.framer = some fr ∧ Ready fr ∧ fr.queueLimit = 0
  leaves : s.status = .idle ∨ s.status = .reset → s.Leaves k
  nothing : s.Leaves k → s.CarriesNothing
  untouched : s.api.isConnecting → s.received = s₀.received
  receivedMono : s₀.received <+: s.received
  putMono : s₀.put <+: s.put
  framedMono : s₀.framed <+: s.framed
  gotMono : s₀.got <+: s.got
  /-- What is received is in the hand of the socket thread before it is put. -/
  arrived : stream (since s₀.received s.received) =
    stream (since s₀.put s.put) ++ (s.socks j).pc.hand
  /-- What is put is framed, carried, in the hand of the framer thread or in the receive queue. -/
  moved : (since s₀.framed s.framed).flatten ++ s.restBytes ++ (s.framers k).hand ++
    stream s.recvQueue = stream (since s₀.put s.put)
  /-- What is framed is consumed or in the event queue. -/
  queued : since s₀.framed s.framed = since s₀.got s.got ++ s.eventFrame

/-! ## Leaving the loop -/

section Leaves

variable {s s' : State α} {t : ℕ}

/-- A status that makes no thread leave. -/
theorem State.Leaves.of_status (h : s'.Leaves t) (hframers : s'.framers = s.framers)
    (hstatus : s'.status ≠ .idle ∧ s'.status ≠ .reset) : s.Leaves t := by
  rcases h with hleft | ⟨hidle, -⟩ | ⟨hreset, -⟩
  · left
    rwa [hframers] at hleft
  · exact absurd hidle hstatus.1
  · exact absurd hreset hstatus.2

theorem State.Leaves.congr (h : s'.Leaves t) (hframers : s'.framers = s.framers)
    (hstatus : s'.status = s.status) : s.Leaves t := by
  unfold State.Leaves at h ⊢
  rwa [hframers, hstatus] at h

/-- A thread that the status makes leave has left, or goes on to the test. -/
theorem FramerTurn.leaves (hturn : FramerTurn s t s')
    (hbefore : s.status = .idle ∨ s.status = .reset → s.Leaves t)
    (hstatus : s'.status = .idle ∨ s'.status = .reset) : s'.Leaves t := by
  rcases hturn with ⟨hpc, hpc', hstart, hidle, hreset, -, hsame⟩ | ⟨-, hpc', -, -⟩ |
    ⟨-, hpc', -⟩
  · have hkeep : s'.status = s.status := by
      rcases hsame with hsame | herror
      · exact hsame
      · simp [herror] at hstatus
    rcases hbefore (hkeep ▸ hstatus) with hleft | ⟨hs, hat | hat⟩ | ⟨hs, hat | hat | hat⟩
    · simp [hpc] at hleft
    · exact Or.inr (Or.inl ⟨hkeep.trans hs, Or.inr (hstart hat)⟩)
    · exact absurd hs (hidle hat).1
    · exact Or.inr (Or.inr ⟨hkeep.trans hs, Or.inr (Or.inl (hstart hat))⟩)
    · exact Or.inr (Or.inr ⟨hkeep.trans hs, Or.inr (Or.inr (hidle hat).2)⟩)
    · exact absurd hs (hreset hat)
  · exact Or.inl (by rw [hpc']; rfl)
  · exact Or.inl hpc'

/-- A thread that leaves now was about to, or has just flushed the rest. -/
theorem FramerTurn.leaves_before (hturn : FramerTurn s t s')
    (hbefore : s.status = .idle ∨ s.status = .reset → s.Leaves t) (h : s'.Leaves t) :
    s.Leaves t ∨ s.framers t = .flush := by
  rcases hturn with ⟨hpc, hpc', -, -, -, -, hsame⟩ | ⟨hpc, hpc', hwhy, -⟩ | ⟨hpc, -, -⟩
  · left
    have hstatus : s'.status = .idle ∨ s'.status = .reset := by
      rcases h with hleft | ⟨hs, -⟩ | ⟨hs, -⟩
      · simp [hpc'] at hleft
      · exact Or.inl hs
      · exact Or.inr hs
    rcases hsame with hsame | herror
    · exact hbefore (hsame ▸ hstatus)
    · simp [herror] at hstatus
  · rcases hwhy with ⟨-, hidle⟩ | ⟨-, hreset⟩ | hflush
    · exact Or.inl (hbefore (Or.inl hidle))
    · exact Or.inl (hbefore (Or.inr hreset))
    · exact Or.inr hflush
  · exact Or.inl (Or.inl hpc)

end Leaves

/-! ## The steps of a run -/

theorem stream_snoc (cs : List (Chunk α)) (c : Chunk α) :
    stream (cs ++ [c]) = stream cs ++ c.bytes := by
  simp [stream]

section Flow

variable {p : RunParams α} {s₀ s s' : State α} {j k t : ℕ}

theorem Flowing.sock_eq (h : Flowing p s₀ s j k) (halive : s.SockAlive t) : t = j := by
  by_contra hne
  exact halive (h.socks t hne)

theorem Flowing.framer_eq (h : Flowing p s₀ s j k) (halive : s.FramerAlive t) : t = k := by
  by_contra hne
  exact halive (h.framers t hne)

/-- A step of a socket thread. -/
theorem Flowing.sock (h : Flowing p s₀ s j k) {ans : SockAnswer α}
    (hstep : sockStep s t ans = some s') : Flowing p s₀ s' j k := by
  have halive := (sockStep_change hstep).1
  obtain rfl := h.sock_eq halive
  have hconnecting : s.api.isConnecting = true → ∀ {P : Prop}, P :=
    fun hc => absurd (h.connecting hc) halive
  rcases sockStep_move hstep with ⟨th, param, sockets, rfl, hpc, hpc', -⟩ | ⟨c, hpc, -, rfl⟩ |
    ⟨c, hpc, rfl⟩
  · -- the thread moves no bytes
    refine { h with
      socks := fun u hu => ?_
      connecting := fun hc => hconnecting hc
      untouched := fun hc => hconnecting hc
      arrived := ?_ }
    · simpa [State.setSock, Function.update_of_ne hu] using h.socks u hu
    · have harrived := h.arrived
      rw [hpc] at harrived
      simpa [State.setSock, hpc'] using harrived
  · -- a received chunk, which is in the hand now
    refine { h with
      socks := fun u hu => ?_
      connecting := fun hc => hconnecting hc
      untouched := fun hc => hconnecting hc
      receivedMono := h.receivedMono.trans (List.prefix_append _ _)
      arrived := ?_ }
    · simpa [State.sockTo, State.setSock, Function.update_of_ne hu] using h.socks u hu
    · have harrived := h.arrived
      rw [hpc] at harrived
      simp only [SockPc.hand, List.append_nil] at harrived
      simp [State.sockTo, State.setSock, since_append h.receivedMono, stream_snoc, harrived,
        SockPc.hand]
  · -- the chunk in the hand goes to the queue
    refine { h with
      socks := fun u hu => ?_
      connecting := fun hc => hconnecting hc
      untouched := fun hc => hconnecting hc
      putMono := h.putMono.trans (List.prefix_append _ _)
      arrived := ?_
      moved := ?_ }
    · simpa [State.sockTo, State.setSock, Function.update_of_ne hu] using h.socks u hu
    · have harrived := h.arrived
      rw [hpc] at harrived
      simp [State.sockTo, State.setSock, since_append h.putMono, stream_snoc, harrived,
        SockPc.hand]
    · simp only [since_append h.putMono, stream_snoc, ← List.append_assoc]
      exact congrArg (· ++ c.bytes) h.moved

/-- What a run keeps when framer thread `k` moves, whatever it moves. -/
theorem Flowing.of_framer (h : Flowing p s₀ s j k) (halive : s.FramerAlive k)
    (hturn : FramerTurn s k s') {pc : FramerPc α}
    (hframers : s'.framers = Function.update s.framers k pc) (hsocks : s'.socks = s.socks)
    (hapi : s'.api = s.api) (hreceived : s'.received = s.received) (hput : s'.put = s.put)
    (hgot : s'.got = s.got)
    (hready : ∃ fr, s'.framer = some fr ∧ Ready fr ∧ fr.queueLimit = 0)
    (hnothing : s.Leaves k ∨ s.framers k = .flush → s'.CarriesNothing)
    (hframed : s₀.framed <+: s'.framed)
    (hmoved : (since s₀.framed s'.framed).flatten ++ s'.restBytes ++ pc.hand ++
      stream s'.recvQueue = stream (since s₀.put s.put))
    (hqueued : since s₀.framed s'.framed = since s₀.got s.got ++ s'.eventFrame) :
    Flowing p s₀ s' j k := by
  have hnotStarting : s.api.isStarting ≠ true := fun hstarting => halive (h.starting hstarting)
  constructor
  case socks => rw [hsocks]; exact h.socks
  case framers =>
    intro t ht
    rw [hframers, Function.update_of_ne ht]
    exact h.framers t ht
  case connecting => rw [hapi, hsocks]; exact h.connecting
  case starting =>
    rw [hapi]
    exact fun hstarting => absurd hstarting hnotStarting
  case params =>
    rw [hapi]
    intro q hq
    cases hpc : s.api <;> simp [hpc, ApiPc.runParams, ApiPc.isStarting] at hq hnotStarting
  case noReset => rw [hapi]; exact h.noReset
  case ready => exact fun _ => hready
  case leaves => exact hturn.leaves h.leaves
  case nothing => exact fun hl => hnothing (hturn.leaves_before h.leaves hl)
  case untouched => rw [hapi, hreceived]; exact h.untouched
  case receivedMono => rw [hreceived]; exact h.receivedMono
  case putMono => rw [hput]; exact h.putMono
  case framedMono => exact hframed
  case gotMono => rw [hgot]; exact h.gotMono
  case arrived => rw [hreceived, hput, hsocks]; exact h.arrived
  case moved => rw [hframers, Function.update_self, hput]; exact hmoved
  case queued => rw [hgot]; exact hqueued

variable [Inhabited α]

/-- A step of a framer thread. -/
theorem Flowing.framer (h : Flowing p s₀ s j k) (hstep : framerStep s t = some s') :
    Flowing p s₀ s' j k := by
  have halive := (framerStep_change hstep).1
  obtain rfl := h.framer_eq halive
  obtain ⟨fr, hfr, hready, hlimit⟩ := h.ready (Or.inl halive)
  have hturn := framerStep_turn hstep
  have hmoved := h.moved
  rw [s.restBytes_of_some hfr] at hmoved
  rcases framerStep_move hstep with
    ⟨pc, status, code, message, param, framer, sockets, rfl, hpc, hpc', hcarry, hflush⟩ |
    ⟨c, cs, hpc, hqueue, rfl⟩ | ⟨c, fr', o, hpc, hfr', hcall, rfl⟩ | ⟨fr', hpc, hfr', hrest, rfl⟩
  · -- nothing moves
    obtain ⟨fr', hfr', hsame⟩ := hcarry.symm.exists_some hfr
    have hlimit' : fr'.carry.queueLimit = fr.carry.queueLimit := by rw [hsame]
    refine h.of_framer halive hturn rfl rfl rfl rfl rfl rfl
      ⟨fr', hfr', hready.of_carry hsame.symm, hlimit'.trans hlimit⟩ ?_ h.framedMono ?_ h.queued
    · intro hleave
      apply SameCarry.carriesNothing hcarry
      rcases hleave with hl | hat
      · exact h.nothing hl
      · intro fr₁ hfr₁
        obtain rfl := Option.some.inj (hfr.symm.trans hfr₁)
        exact le_antisymm (hflush hat fr hfr) hready.rest_nonneg
    · rw [SameCarry.restBytes hcarry, s.restBytes_of_some hfr, hpc', ← hpc]
      exact hmoved
  · -- a chunk goes from the queue to the hand
    refine h.of_framer halive hturn rfl rfl rfl rfl rfl rfl ⟨fr, hfr, hready, hlimit⟩ ?_
      h.framedMono ?_ h.queued
    · rintro (hl | hat)
      · exact h.nothing hl
      · simp [hpc] at hat
    · rw [← hmoved, hpc, hqueue, stream_cons]
      simp [FramerPc.hand, State.restBytes, State.framerTo, hfr]
  · -- the chunk in the hand becomes frames and carry-over
    obtain rfl := Option.some.inj (hfr.symm.trans hfr')
    obtain ⟨hready', hlimit', -, -⟩ := recvSiDaqData_conserves hready c.fits hcall
    obtain ⟨frames, hque, -, hall⟩ := recvSiDaqData_adds hready c.fits hcall
    -- the call has only added to the event queue
    have hnew : o.que.drop s.eventFrame.length = frames := by rw [hque, List.drop_left]
    have hframed : since s₀.framed (s.framed ++ o.que.drop s.eventFrame.length) =
        since s₀.framed s.framed ++ frames := by rw [since_append h.framedMono, hnew]
    refine h.of_framer halive hturn rfl rfl rfl rfl rfl rfl
      ⟨o.framer, rfl, hready', hlimit'.trans hlimit⟩ ?_
      (h.framedMono.trans (List.prefix_append _ _)) ?_ ?_
    · rintro (hl | hat)
      · simp [State.Leaves, hpc, FramerPc.hasLeft] at hl
      · simp [hpc] at hat
    · show (since s₀.framed (s.framed ++ o.que.drop s.eventFrame.length)).flatten ++
        o.framer.restBytes ++ [] ++ stream s.recvQueue = stream (since s₀.put s.put)
      rw [← hmoved, hpc, hframed, List.flatten_append, List.append_nil,
        List.append_assoc _ frames.flatten, hall hlimit, ← List.append_assoc]
      rfl
    · rw [hframed, h.queued, hque, List.append_assoc]
  · -- the carry-over becomes the last frame
    obtain rfl := Option.some.inj (hfr.symm.trans hfr')
    have hnothing : ({ fr with rest := 0 } : SiDaqFramer α).restBytes = [] :=
      SiDaqFramer.restBytes_of_rest_eq_zero rfl
    have hframed : since s₀.framed (s.framed ++ [fr.restBytes]) =
        since s₀.framed s.framed ++ [fr.restBytes] := since_append h.framedMono _
    refine h.of_framer halive hturn rfl rfl rfl rfl rfl rfl
      ⟨_, rfl, .of_rest_eq_zero (hready.toSound.congr rfl rfl rfl rfl rfl) rfl, hlimit⟩ ?_
      (h.framedMono.trans (List.prefix_append _ _)) ?_ ?_
    · intro _ fr₁ hfr₁
      obtain rfl := Option.some.inj hfr₁
      rfl
    · show (since s₀.framed (s.framed ++ [fr.restBytes])).flatten ++
        ({ fr with rest := 0 } : SiDaqFramer α).restBytes ++ [] ++ stream s.recvQueue =
          stream (since s₀.put s.put)
      rw [← hmoved, hpc, hframed, hnothing]
      simp [FramerPc.hand]
    · rw [hframed, h.queued, List.append_assoc]

omit [Inhabited α] in
/-- Before `SiDaqRun` creates the framer thread there is none. -/
theorem Flowing.nothing_of_starting (h : Flowing p s₀ s j k) (hstarting : s.api.isStarting) :
    (∀ t, s.framers t = .off) ∧ s.CarriesNothing := by
  have hoff := h.starting hstarting
  refine ⟨fun t => ?_, h.nothing (Or.inl (by rw [hoff]; rfl))⟩
  by_cases htk : t = k
  · exact htk ▸ hoff
  · exact h.framers t htk

omit [Inhabited α] in
/-- `SiDaqRun` creates the socket thread: it is the only one. -/
theorem Flowing.createSock (h : Flowing p s₀ s j k) {q : RunParams α}
    (hapi : s.api = .runCreateSock q) (t : ℕ) :
    Flowing p s₀ ((s.apiTo (.runConfigure q)).setSock t ⟨.start, none, 0⟩) t k := by
  have hstarting : s.api.isStarting := by rw [hapi]; rfl
  have hoff : ∀ u, (s.socks u).pc = .off := by
    intro u
    by_cases huj : u = j
    · exact huj ▸ h.connecting (by rw [hapi]; rfl)
    · exact h.socks u huj
  refine { h with
    socks := fun u hu => ?_
    connecting := fun hc => ?_
    starting := fun _ => h.starting hstarting
    params := fun r hr => h.params r (by rw [hapi]; exact hr)
    noReset := rfl
    ready := fun hr => ?_
    untouched := fun hc => ?_
    arrived := ?_ }
  · simpa [State.setSock, State.apiTo, Function.update_of_ne hu] using hoff u
  · simp [State.setSock, State.apiTo, ApiPc.isConnecting] at hc
  · rcases hr with halive | hcreate
    · exact absurd (h.starting hstarting) halive
    · simp [State.setSock, State.apiTo] at hcreate
  · simp [State.setSock, State.apiTo, ApiPc.isConnecting] at hc
  · have harrived := h.arrived
    rw [hoff j] at harrived
    simpa [State.setSock, State.apiTo, SockPc.hand] using harrived

/-- `SiDaqRun` configures the framer: it carries nothing yet. -/
theorem Flowing.configure (hp : p.framing.Regular) (htwo : p.framing.headerLen.toNat ≤ 2)
    (h : Flowing p s₀ s j k) {q : RunParams α} (hapi : s.api = .runConfigure q) :
    Flowing p s₀ { s.apiTo .runCreateFramer with
      framer := some ((s.framer.getD newSiDaqFramer).configure q.framing) } j k := by
  obtain ⟨hoff, hnothing⟩ := h.nothing_of_starting (by rw [hapi]; rfl)
  obtain ⟨rfl, hsize⟩ := h.params q (by rw [hapi]; rfl)
  obtain ⟨hrest, hready⟩ := ready_configure hp.toFits htwo hnothing hsize
  generalize s.framer.getD newSiDaqFramer = fr at hrest hready ⊢
  have hnothing' : State.CarriesNothing { s with framer := some (fr.configure q.framing) } := by
    intro fr' hfr'
    obtain rfl := Option.some.inj hfr'
    exact hrest
  refine { h with
    connecting := fun hc => ?_
    starting := fun _ => hoff k
    params := fun r hr => ?_
    noReset := rfl
    ready := fun _ => ⟨_, rfl, hready, ?_⟩
    nothing := fun _ => hnothing'
    untouched := fun hc => ?_
    moved := ?_ }
  · simp [State.apiTo, ApiPc.isConnecting] at hc
  · simp [State.apiTo, ApiPc.runParams] at hr
  · simp [SiDaqFramer.configure, hp.noLimit]
  · simp [State.apiTo, ApiPc.isConnecting] at hc
  · show (since s₀.framed s.framed).flatten ++
      State.restBytes { s with framer := some (fr.configure q.framing) } ++ (s.framers k).hand ++
        stream s.recvQueue = stream (since s₀.put s.put)
    rw [hnothing'.restBytes, ← hnothing.restBytes]
    exact h.moved

omit [Inhabited α] in
/-- `SiDaqRun` creates the framer thread: it is the only one. -/
theorem Flowing.createFramer (h : Flowing p s₀ s j k) (hapi : s.api = .runCreateFramer) (t : ℕ) :
    Flowing p s₀ ((s.apiTo .runSetStatus).framerTo t .start) j t := by
  obtain ⟨hoff, hnothing⟩ := h.nothing_of_starting (by rw [hapi]; rfl)
  have hat := (s.apiTo .runSetStatus).framerTo_self t .start
  refine { h with
    framers := fun u hu => ?_
    connecting := fun hc => ?_
    starting := fun hs => ?_
    params := fun r hr => ?_
    noReset := rfl
    ready := fun _ => h.ready (Or.inr hapi)
    leaves := fun hs => ?_
    nothing := fun _ => hnothing
    untouched := fun hc => ?_
    moved := ?_ }
  · simpa [State.framerTo, State.apiTo, Function.update_of_ne hu] using hoff u
  · simp [State.framerTo, State.apiTo, ApiPc.isConnecting] at hc
  · simp [State.framerTo, State.apiTo, ApiPc.isStarting, ApiPc.runParams] at hs
  · simp [State.framerTo, State.apiTo, ApiPc.runParams] at hr
  · rcases hs with hidle | hreset
    · exact Or.inr (Or.inl ⟨hidle, Or.inl hat⟩)
    · exact Or.inr (Or.inr ⟨hreset, Or.inl hat⟩)
  · simp [State.framerTo, State.apiTo, ApiPc.isConnecting] at hc
  · have hmoved := h.moved
    rw [hoff k] at hmoved
    rw [hat]
    exact hmoved

/-- A step of an API call. -/
theorem Flowing.api (hp : p.framing.Regular) (htwo : p.framing.headerLen.toNat ≤ 2)
    (h : Flowing p s₀ s j k) {ans : ApiAnswer} (hstep : apiStep s ans = some s') :
    ∃ j' k', Flowing p s₀ s' j' k' := by
  have hnoReset := h.noReset
  rcases apiStep_move hstep with
    ⟨pc, status, code, message, param, sockets, rfl, -, hpc, hreset, hstatus⟩ |
    ⟨pc, code, message, param, sockets, rfl, hapi, hpc, hparams⟩ | ⟨q, t, hapi, -, rfl⟩ |
    ⟨q, hapi, rfl⟩ | ⟨t, hapi, -, rfl⟩ | ⟨pc, status, hnext, rfl⟩ |
    ⟨status, c, cs, hapi, -, rfl⟩ | ⟨status, f, fs, hapi, -, rfl⟩
  · -- the call goes on after the start, or another one does
    have hkeep : status = s.status ∨ (status ≠ .idle ∧ status ≠ .reset) := by
      rcases hstatus with hsame | hother | hresets
      · exact Or.inl hsame
      · exact Or.inr hother
      · simp [hnoReset] at hresets
    refine ⟨j, k, { h with
      connecting := fun hc => ?_
      starting := fun hs => ?_
      params := fun r hr => ?_
      noReset := hreset
      ready := fun hr => ?_
      leaves := fun hs => ?_
      nothing := fun hl => ?_
      untouched := fun hc => ?_ }⟩
    · exact absurd (ApiPc.isStarting_of_isConnecting hc) (by simp [hpc])
    · exact absurd hs (by simp [hpc])
    · exact absurd (ApiPc.isStarting_of_runParams hr) (by simp [hpc])
    · rcases hr with halive | hcreate
      · exact h.ready (Or.inl halive)
      · have hcreate : pc = .runCreateFramer := hcreate
        simp [hcreate, ApiPc.isStarting] at hpc
    · rcases hkeep with rfl | hother
      · exact h.leaves hs
      · exact absurd hs (by simp [hother])
    · rcases hkeep with rfl | hother
      · exact h.nothing hl
      · exact h.nothing (State.Leaves.of_status hl rfl hother)
    · exact absurd (ApiPc.isStarting_of_isConnecting hc) (by simp [hpc])
  · -- `SiDaqRun` goes on towards its threads
    have hstarting := ApiPc.isStarting_of_isConnecting hapi
    refine ⟨j, k, { h with
      connecting := fun _ => h.connecting hapi
      starting := fun _ => h.starting hstarting
      params := fun r hr => h.params r (hparams ▸ hr)
      noReset := ApiPc.not_resets_of_isConnecting hpc
      ready := fun hr => ?_
      untouched := fun _ => h.untouched hapi }⟩
    rcases hr with halive | hcreate
    · exact absurd (h.starting hstarting) halive
    · have hcreate : pc = .runCreateFramer := hcreate
      simp [hcreate, ApiPc.isConnecting] at hpc
  · exact ⟨t, k, h.createSock hapi t⟩
  · exact ⟨j, k, h.configure hp htwo hapi⟩
  · exact ⟨j, t, h.createFramer hapi t⟩
  · rcases hnext with ⟨_, hapi, -⟩ | ⟨_, hapi⟩ | ⟨_, hapi, -⟩ | ⟨_, hapi, -⟩ <;>
      simp [hapi, ApiPc.resets] at hnoReset
  · simp [hapi, ApiPc.resets] at hnoReset
  · simp [hapi, ApiPc.resets] at hnoReset

/-- **A step of a run keeps every byte in its place.** -/
theorem Flowing.act (hp : p.framing.Regular) (htwo : p.framing.headerLen.toNat ≤ 2)
    (h : Flowing p s₀ s j k) {a : Act α} (ha : a.InRun) (hstep : step s a = some s') :
    ∃ j' k', Flowing p s₀ s' j' k' := by
  cases a with
  | sock t ans => exact ⟨j, k, h.sock hstep⟩
  | framer t => exact ⟨j, k, h.framer hstep⟩
  | api ans => exact h.api hp htwo hstep
  | callRun q => exact ha.elim
  | callReset => exact ha.elim
  | callStop | callTerminate =>
    obtain ⟨r, -, rfl⟩ := callStep_begins hstep
    refine ⟨j, k, { h with
      connecting := fun hc => ?_
      starting := fun hs => ?_
      params := fun q hq => ?_
      noReset := rfl
      ready := fun halive => h.ready (Or.inl ?_)
      untouched := fun hc => ?_ }⟩
    · simp [State.apiTo, ApiPc.isConnecting] at hc
    · simp [State.apiTo, ApiPc.isStarting, ApiPc.runParams] at hs
    · simp [State.apiTo, ApiPc.runParams] at hq
    · simpa [State.apiTo] using halive
    · simp [State.apiTo, ApiPc.isConnecting] at hc
  | getData =>
    obtain ⟨f, fs, hqueue, rfl⟩ := getData_takes hstep
    refine ⟨j, k, { h with
      gotMono := h.gotMono.trans (List.prefix_append _ _)
      queued := ?_ }⟩
    show since s₀.framed s.framed = since s₀.got (s.got ++ [f]) ++ fs
    rw [since_append h.gotMono, h.queued, hqueue]
    simp
  | pause | resume =>
    simp only [step, Option.some.injEq] at hstep
    subst hstep
    exact ⟨j, k, { h with }⟩

/-- The call of `SiDaqRun`. -/
theorem Flowing.start (hclean : s.Clean) (p : RunParams α) :
    step s (.callRun p) = some (s.apiTo (.runBegin p)) ∧
      Flowing p s (s.apiTo (.runBegin p)) 0 0 := by
  obtain ⟨r, hr⟩ := hclean.api
  have hsocks : ∀ t, (s.socks t).pc = .off := fun t => not_not.mp (hclean.socks t)
  have hframers : ∀ t, s.framers t = .off := fun t => not_not.mp (hclean.framers t)
  refine ⟨by simp [step, callStep, hr], ?_⟩
  constructor
  case socks => exact fun t _ => hsocks t
  case framers => exact fun t _ => hframers t
  case connecting => exact fun _ => hsocks 0
  case starting => exact fun _ => hframers 0
  case params =>
    intro q hq
    obtain rfl := Option.some.inj hq
    exact ⟨rfl, hclean.size⟩
  case noReset => rfl
  case ready =>
    rintro (halive | hcreate)
    · exact absurd (hframers 0) halive
    · simp [State.apiTo] at hcreate
  case leaves => exact fun _ => Or.inl (by rw [State.apiTo, hframers 0]; rfl)
  case nothing => exact fun _ => hclean.rest
  case untouched => exact fun _ => rfl
  case receivedMono => exact List.prefix_rfl
  case putMono => exact List.prefix_rfl
  case framedMono => exact List.prefix_rfl
  case gotMono => exact List.prefix_rfl
  case arrived => simp [State.apiTo, hsocks 0, SockPc.hand]
  case moved =>
    have hrest : (s.apiTo (.runBegin p)).restBytes = [] := hclean.rest.restBytes
    rw [hrest]
    simp [State.apiTo, hframers 0, FramerPc.hand, hclean.recvQueue]
  case queued => simp [State.apiTo, hclean.eventFrame]

/-- Every state of a run keeps every byte in its place. -/
theorem flowing_of_run (hclean : s₀.Clean) (hp : p.framing.Regular)
    (htwo : p.framing.headerLen.toNat ≤ 2) {acts : List (Act α)} (hacts : ∀ a ∈ acts, a.InRun)
    (hrun : run step s₀ (.callRun p :: acts) = some s) : ∃ j k, Flowing p s₀ s j k := by
  obtain ⟨hcall, hstart⟩ := Flowing.start hclean p
  rw [run_cons, hcall] at hrun
  refine run_invariant_of_guarded (I := fun s => ∃ j k, Flowing p s₀ s j k) ?_ ⟨0, 0, hstart⟩
    (guarded_of_forall hacts) hrun
  rintro s a s' ⟨j, k, h⟩ ha hstep
  exact h.act hp htwo ha hstep

/-- **The stream of a run stays whole**: what the consumer got, the event queue, the carry-over, the
chunk in the hand of the framer thread and the receive queue are, in this order, the bytes that the
socket thread has put; and a framer thread that has left its loop carries nothing. -/
theorem run_keeps_stream (hclean : s₀.Clean) (hp : p.framing.Regular)
    (htwo : p.framing.headerLen.toNat ≤ 2) {acts : List (Act α)} (hacts : ∀ a ∈ acts, a.InRun)
    (hrun : run step s₀ (.callRun p :: acts) = some s) :
    ∃ k, (∀ t, s.FramerAlive t → t = k) ∧
      (since s₀.got s.got).flatten ++ s.eventFrame.flatten ++ s.restBytes ++
        (s.framers k).hand ++ stream s.recvQueue = stream (since s₀.put s.put) ∧
      ((s.framers k).hasLeft → s.CarriesNothing) := by
  obtain ⟨j, k, h⟩ := flowing_of_run hclean hp htwo hacts hrun
  refine ⟨k, fun t ht => h.framer_eq ht, ?_, fun hleft => h.nothing (Or.inl hleft)⟩
  rw [← h.moved, h.queued, List.flatten_append]

end Flow

/-! ## A run -/

theorem State.clean_init : (State.init : State α).Clean where
  api := ⟨.initialized, rfl⟩
  socks := fun _ h => h rfl
  framers := fun _ h => h rfl
  recvQueue := rfl
  eventFrame := rfl
  rest := by simp [State.CarriesNothing, State.init]
  size := by simp [State.init]

/-- A frame and the beginning of the next one arrive and are framed, the consumer takes the frame,
`SiDaqStop` is called, and the framer thread flushes the rest and exits. -/
def stoppedRun : List (Act UInt8) :=
  (runCall twoByteHeader.toRunParams 0 0).tail ++ recvActs 0 (.of [1, 2, 3, 4, 5, 6, 7]) ++
    List.replicate 6 (.framer 0) ++ [.getData, .callStop] ++ List.replicate 6 (.api .ok) ++
    List.replicate 8 (.framer 0)

theorem stoppedRun_keeps_stream :
    ∃ s, run step State.init (.callRun twoByteHeader.toRunParams :: stoppedRun) = some s ∧
      s.status = .idle ∧
      ∃ k, (∀ t, s.FramerAlive t → t = k) ∧
        (since [] s.got).flatten ++ s.eventFrame.flatten ++ s.restBytes ++ (s.framers k).hand ++
          stream s.recvQueue = stream (since [] s.put) ∧
        ((s.framers k).hasLeft → s.CarriesNothing) :=
  ⟨_, rfl, rfl, run_keeps_stream (p := twoByteHeader.toRunParams) State.clean_init
    twoByteHeader_regular (by decide) (by decide : ∀ a ∈ stoppedRun, a.InRun) rfl⟩

end SiDaqApi
