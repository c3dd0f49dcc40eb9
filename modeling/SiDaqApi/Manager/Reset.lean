import SiDaqApi.Manager.Flow

/-!
# What a reset leaves of the data before it

`SiDaqResetQueue` deletes the two queues. It does not reach what the threads hold and what the framer
carries, and it does not keep the threads from filling the queues again while it works. So old bytes
come to the application after a reset (`carriedOver` is such a history) unless nothing is outside of
the queues when `SiDaqResetQueue` ends, and nothing has come back into them by then.
`reset_separates` says that this is enough, for the rest of the history.
-/

namespace SiDaqApi

open Machine

variable {α : Type*}

/-- No byte is outside of the two queues: no thread holds a chunk, and the framer carries nothing. -/
structure State.HandsEmpty (s : State α) : Prop where
  socks : ∀ t, (s.socks t).pc.hand = []
  framers : ∀ t, (s.framers t).hand = []
  rest : s.CarriesNothing

/-- `SiDaqResetQueue` has found the receive queue empty. -/
def ApiPc.recvReset : ApiPc α → Bool
  | .resetEvent _ | .resetRestore _ => true
  | _ => false

/-- `SiDaqResetQueue` has found both queues empty. -/
def ApiPc.eventReset : ApiPc α → Bool
  | .resetRestore _ => true
  | _ => false

/-- `SiDaqRun` configures a framer that carries nothing, for frames that it can keep whole;
`SiDaqResetQueue` ends when no byte is outside of the queues; and until then no thread fills a queue
that it has found empty. -/
def ResetsClean (s : State α) : Act α → Prop
  | .api _ =>
    (∀ p, s.api = .runConfigure p →
      s.CarriesNothing ∧ p.framing.Fits ∧ p.framing.headerLen.toNat ≤ 2) ∧
    (s.api.eventReset → s.HandsEmpty)
  | .sock t _ => s.api.recvReset → (s.socks t).pc.hand = []
  | .framer t =>
    s.api.eventReset → (s.framers t).hand = [] ∧ (s.framers t = .flush → s.CarriesNothing)
  | _ => True

/-! ## The reset -/

/-- What holds in a history that meets `ResetsClean`. -/
structure State.Emptying (s : State α) : Prop where
  ready : ∀ fr, s.framer = some fr → Ready fr
  recv : s.api.recvReset → s.recvQueue = []
  event : s.api.eventReset → s.eventFrame = []

section Emptying

variable {s s' : State α} {t : ℕ}

theorem ApiPc.recvReset_of_eventReset {pc : ApiPc α} (h : pc.eventReset) : pc.recvReset := by
  cases pc <;> first | rfl | simp [ApiPc.eventReset] at h

theorem ApiPc.resets_of_recvReset {pc : ApiPc α} (h : pc.recvReset) : pc.resets := by
  cases pc <;> first | rfl | simp [ApiPc.recvReset] at h

/-- Outside of a reset only the framer matters. -/
theorem State.Emptying.of_not_resets (hready : ∀ fr, s'.framer = some fr → Ready fr)
    (hapi : s'.api.resets = false) : s'.Emptying where
  ready := hready
  recv := fun hr => absurd (ApiPc.resets_of_recvReset hr) (by simp [hapi])
  event := fun he =>
    absurd (ApiPc.resets_of_recvReset (ApiPc.recvReset_of_eventReset he)) (by simp [hapi])

theorem State.Emptying.sock (h : s.Emptying) {ans : SockAnswer α}
    (hguard : ResetsClean s (.sock t ans)) (hstep : sockStep s t ans = some s') : s'.Emptying := by
  rcases sockStep_move hstep with ⟨th, param, sockets, rfl, -⟩ | ⟨c, -, -, rfl⟩ | ⟨c, hpc, rfl⟩
  · exact ⟨h.ready, h.recv, h.event⟩
  · exact ⟨h.ready, h.recv, h.event⟩
  · refine ⟨h.ready, fun hr => ?_, h.event⟩
    have hhand := hguard hr
    simp [hpc, SockPc.hand, c.nonempty] at hhand

variable [Inhabited α]

theorem State.Emptying.framer (h : s.Emptying) (hguard : ResetsClean s (.framer t))
    (hstep : framerStep s t = some s') : s'.Emptying := by
  rcases framerStep_move hstep with
    ⟨pc, status, code, message, param, framer, sockets, rfl, -, -, hcarry, -⟩ |
    ⟨c, cs, -, hqueue, rfl⟩ | ⟨c, fr, o, hpc, hfr, hcall, rfl⟩ | ⟨fr, hpc, hfr, hrest, rfl⟩
  · refine ⟨fun fr' hfr' => ?_, h.recv, h.event⟩
    obtain ⟨fr, hfr, hsame⟩ := hcarry.exists_some hfr'
    exact (h.ready fr hfr).of_carry hsame
  · refine ⟨h.ready, fun hr => ?_, h.event⟩
    have hempty := h.recv hr
    simp [hqueue] at hempty
  · refine ⟨fun fr' hfr' => ?_, h.recv, fun he => ?_⟩
    · obtain rfl := Option.some.inj hfr'
      exact (recvSiDaqData_conserves (h.ready fr hfr) c.fits hcall).1
    · have hhand := (hguard he).1
      simp [hpc, FramerPc.hand, c.nonempty] at hhand
  · refine ⟨fun fr' hfr' => ?_, h.recv, fun he => ?_⟩
    · obtain rfl := Option.some.inj hfr'
      exact .of_rest_eq_zero ((h.ready fr hfr).toSound.congr rfl rfl rfl rfl rfl) rfl
    · have hnothing := (hguard he).2 hpc fr hfr
      simp [hnothing] at hrest

theorem State.Emptying.api (h : s.Emptying) {ans : ApiAnswer} (hguard : ResetsClean s (.api ans))
    (hstep : apiStep s ans = some s') : s'.Emptying := by
  rcases apiStep_move hstep with
    ⟨pc, status, code, message, param, sockets, rfl, -, -, hreset, -⟩ |
    ⟨pc, code, message, param, sockets, rfl, -, hpc, -⟩ | ⟨q, t, -, -, rfl⟩ |
    ⟨q, hapi, rfl⟩ | ⟨t, -, -, rfl⟩ | ⟨pc, status, hnext, rfl⟩ |
    ⟨status, c, cs, hapi, -, rfl⟩ | ⟨status, f, fs, hapi, -, rfl⟩
  · exact .of_not_resets h.ready hreset
  · exact .of_not_resets h.ready (ApiPc.not_resets_of_isConnecting hpc)
  · exact .of_not_resets h.ready rfl
  · refine .of_not_resets (fun fr' hfr' => ?_) rfl
    obtain rfl := Option.some.inj hfr'
    -- the guard is about the arguments of this `SiDaqRun`
    obtain ⟨hnothing, hfits, htwo⟩ := hguard.1 q hapi
    exact (ready_configure hfits htwo hnothing fun fr hfr => (h.ready fr hfr).size).2
  · exact .of_not_resets h.ready rfl
  · rcases hnext with ⟨status, -, -⟩ | ⟨status, -⟩ | ⟨status, -, hempty⟩ | ⟨status, hapi, hempty⟩
    · exact ⟨h.ready, fun hr => by simp [ApiPc.recvReset, State.apiTo] at hr,
        fun he => by simp [ApiPc.eventReset, State.apiTo] at he⟩
    · exact ⟨h.ready, fun hr => by simp [ApiPc.recvReset, State.apiTo] at hr,
        fun he => by simp [ApiPc.eventReset, State.apiTo] at he⟩
    · exact ⟨h.ready, fun _ => hempty, fun he => by simp [ApiPc.eventReset, State.apiTo] at he⟩
    · exact ⟨h.ready, fun _ => h.recv (by rw [hapi]; rfl), fun _ => hempty⟩
  · refine ⟨h.ready, fun hr => ?_, fun he => ?_⟩
    · simp [hapi, ApiPc.recvReset] at hr
    · simp [hapi, ApiPc.eventReset] at he
  · refine ⟨h.ready, h.recv, fun he => ?_⟩
    simp [hapi, ApiPc.eventReset] at he

/-- A step that meets `ResetsClean`. -/
theorem State.Emptying.act (h : s.Emptying) {a : Act α} (hguard : ResetsClean s a)
    (hstep : step s a = some s') : s'.Emptying := by
  cases a with
  | sock t ans => exact h.sock hguard hstep
  | framer t => exact h.framer hguard hstep
  | api ans => exact h.api hguard hstep
  | callRun q | callStop | callTerminate =>
    obtain ⟨r, -, rfl⟩ := callStep_begins hstep
    exact .of_not_resets h.ready rfl
  | callReset =>
    obtain ⟨r, -, rfl⟩ := callStep_begins hstep
    exact ⟨h.ready, fun hr => by simp [ApiPc.recvReset, State.apiTo] at hr,
      fun he => by simp [ApiPc.eventReset, State.apiTo] at he⟩
  | getData =>
    obtain ⟨f, fs, hqueue, rfl⟩ := getData_takes hstep
    refine ⟨h.ready, h.recv, fun he => ?_⟩
    have hempty := h.event he
    simp [hqueue] at hempty
  | pause | resume =>
    simp only [step, Option.some.injEq] at hstep
    subst hstep
    exact ⟨h.ready, h.recv, h.event⟩

end Emptying

/-! ## After the reset -/

/-- The bytes received since the state `s₀`. -/
def State.newBytes (s₀ s : State α) : List α := stream (since s₀.received s.received)

/-- All bytes of `s`, and all frames made since `s₀`, were received since `s₀`. -/
structure Fresh (s₀ s : State α) : Prop where
  receivedMono : s₀.received <+: s.received
  framedMono : s₀.framed <+: s.framed
  frames : (since s₀.framed s.framed).flatten ⊆ s₀.newBytes s
  rest : s.restBytes ⊆ s₀.newBytes s
  recvQueue : stream s.recvQueue ⊆ s₀.newBytes s
  socks : ∀ t, (s.socks t).pc.hand ⊆ s₀.newBytes s
  framers : ∀ t, (s.framers t).hand ⊆ s₀.newBytes s

section Fresh

variable {s₀ s s' : State α} {t : ℕ}

/-- The end of the reset: there are no bytes. -/
theorem Fresh.start (hqueue : s.recvQueue = []) (hhands : s.HandsEmpty) : Fresh s s where
  receivedMono := List.prefix_rfl
  framedMono := List.prefix_rfl
  frames := by simp
  rest := by simp [hhands.rest.restBytes]
  recvQueue := by simp [hqueue]
  socks := fun t => by simp [hhands.socks t]
  framers := fun t => by simp [hhands.framers t]

theorem hand_update_socks {f : ℕ → SockThread α} {th : SockThread α} {bs : List α}
    (h : ∀ u, (f u).pc.hand ⊆ bs) (hth : th.pc.hand ⊆ bs) (u : ℕ) :
    (Function.update f t th u).pc.hand ⊆ bs := by
  by_cases hut : u = t
  · rw [hut, Function.update_self]
    exact hth
  · rw [Function.update_of_ne hut]
    exact h u

theorem hand_update_framers {f : ℕ → FramerPc α} {pc : FramerPc α} {bs : List α}
    (h : ∀ u, (f u).hand ⊆ bs) (hpc : pc.hand ⊆ bs) (u : ℕ) :
    (Function.update f t pc u).hand ⊆ bs := by
  by_cases hut : u = t
  · rw [hut, Function.update_self]
    exact hpc
  · rw [Function.update_of_ne hut]
    exact h u

theorem Fresh.sock (h : Fresh s₀ s) {ans : SockAnswer α} (hstep : sockStep s t ans = some s') :
    Fresh s₀ s' := by
  rcases sockStep_move hstep with ⟨th, param, sockets, rfl, -, hpc', -⟩ | ⟨c, -, -, rfl⟩ |
    ⟨c, hpc, rfl⟩
  · exact { h with socks := hand_update_socks h.socks (by simp [hpc']) }
  · -- the new chunk is new
    have hnew : s₀.newBytes { s.sockTo t (.put c) with received := s.received ++ [c] } =
        s₀.newBytes s ++ c.bytes := by
      show stream (since s₀.received (s.received ++ [c])) = _
      rw [since_append h.receivedMono, stream_snoc]
      rfl
    have hold : s₀.newBytes s ⊆ s₀.newBytes s ++ c.bytes := List.subset_append_left _ _
    constructor
    case receivedMono => exact h.receivedMono.trans (List.prefix_append _ _)
    case framedMono => exact h.framedMono
    case frames => rw [hnew]; exact List.Subset.trans h.frames hold
    case rest => rw [hnew]; exact List.Subset.trans h.rest hold
    case recvQueue => rw [hnew]; exact List.Subset.trans h.recvQueue hold
    case socks =>
      rw [hnew]
      exact hand_update_socks (fun u => List.Subset.trans (h.socks u) hold)
        (List.subset_append_right _ _)
    case framers => rw [hnew]; exact fun u => List.Subset.trans (h.framers u) hold
  · -- the chunk goes from the hand to the queue
    have hchunk : c.bytes ⊆ s₀.newBytes s := by
      have hhand := h.socks t
      rwa [hpc] at hhand
    refine { h with
      recvQueue := ?_
      socks := hand_update_socks h.socks (List.nil_subset _) }
    show stream (s.recvQueue ++ [c]) ⊆ s₀.newBytes s
    rw [stream_snoc]
    exact List.append_subset.mpr ⟨h.recvQueue, hchunk⟩

variable [Inhabited α]

theorem Fresh.framer (h : Fresh s₀ s) (hready : s.Emptying) (hstep : framerStep s t = some s') :
    Fresh s₀ s' := by
  rcases framerStep_move hstep with
    ⟨pc, status, code, message, param, framer, sockets, rfl, -, hpc', hcarry, -⟩ |
    ⟨c, cs, -, hqueue, rfl⟩ | ⟨c, fr, o, hpc, hfr, hcall, rfl⟩ | ⟨fr, hpc, hfr, hrest, rfl⟩
  · refine { h with
      rest := ?_
      framers := hand_update_framers h.framers (by simp [hpc']) }
    rw [SameCarry.restBytes hcarry]
    exact h.rest
  · -- a chunk goes from the queue to the hand
    have hall := h.recvQueue
    rw [hqueue, stream_cons] at hall
    obtain ⟨hchunk, hrest⟩ := List.append_subset.mp hall
    exact { h with
      recvQueue := hrest
      framers := hand_update_framers h.framers hchunk }
  · -- frames and carry-over come from the old carry-over and the chunk
    have hchunk : c.bytes ⊆ s₀.newBytes s := by
      have hhand := h.framers t
      rwa [hpc] at hhand
    have hcarried : fr.restBytes ⊆ s₀.newBytes s := by
      rw [← s.restBytes_of_some hfr]
      exact h.rest
    obtain ⟨frames, hque, hpre, -⟩ := recvSiDaqData_adds (hready.ready fr hfr) c.fits hcall
    have hparts : frames.flatten ++ o.framer.restBytes ⊆ s₀.newBytes s :=
      List.Subset.trans hpre.subset (List.append_subset.mpr ⟨hcarried, hchunk⟩)
    obtain ⟨hframes, hrest⟩ := List.append_subset.mp hparts
    refine { h with
      framedMono := h.framedMono.trans (List.prefix_append _ _)
      frames := ?_
      rest := hrest
      framers := hand_update_framers h.framers (List.nil_subset _) }
    show (since s₀.framed (s.framed ++ o.que.drop s.eventFrame.length)).flatten ⊆ s₀.newBytes s
    rw [since_append h.framedMono, hque, List.drop_left, List.flatten_append]
    exact List.append_subset.mpr ⟨h.frames, hframes⟩
  · -- the carry-over becomes a frame
    have hcarried : fr.restBytes ⊆ s₀.newBytes s := by
      rw [← s.restBytes_of_some hfr]
      exact h.rest
    refine { h with
      framedMono := h.framedMono.trans (List.prefix_append _ _)
      frames := ?_
      rest := List.nil_subset _
      framers := hand_update_framers h.framers (List.nil_subset _) }
    show (since s₀.framed (s.framed ++ [fr.restBytes])).flatten ⊆ s₀.newBytes s
    rw [since_append h.framedMono, List.flatten_append]
    exact List.append_subset.mpr ⟨h.frames, by simpa using hcarried⟩

theorem Fresh.api (h : Fresh s₀ s) {ans : ApiAnswer} (hguard : ResetsClean s (.api ans))
    (hstep : apiStep s ans = some s') : Fresh s₀ s' := by
  rcases apiStep_move hstep with
    ⟨pc, status, code, message, param, sockets, rfl, -⟩ |
    ⟨pc, code, message, param, sockets, rfl, -⟩ | ⟨q, t, -, -, rfl⟩ |
    ⟨q, hapi, rfl⟩ | ⟨t, -, -, rfl⟩ | ⟨pc, status, -, rfl⟩ |
    ⟨status, c, cs, -, hqueue, rfl⟩ | ⟨status, f, fs, -, -, rfl⟩
  · exact { h with }
  · exact { h with }
  · exact { h with socks := hand_update_socks h.socks (List.nil_subset _) }
  · -- the framer that is configured carries nothing
    have hnothing : State.CarriesNothing { s.apiTo .runCreateFramer with
        framer := some ((s.framer.getD newSiDaqFramer).configure q.framing) } := by
      intro fr hfr
      obtain rfl := Option.some.inj hfr
      show (s.framer.getD newSiDaqFramer).rest = 0
      cases hs : s.framer with
      | none => rfl
      | some fr => exact (hguard.1 q hapi).1 fr hs
    exact { h with rest := by simp [hnothing.restBytes] }
  · exact { h with framers := hand_update_framers h.framers (List.nil_subset _) }
  · exact { h with }
  · have hall := h.recvQueue
    rw [hqueue, stream_cons] at hall
    exact { h with recvQueue := (List.append_subset.mp hall).2 }
  · exact { h with }

/-- After the reset, new bytes stay new. -/
theorem Fresh.act (h : Fresh s₀ s) (hready : s.Emptying) {a : Act α} (hguard : ResetsClean s a)
    (hstep : step s a = some s') : Fresh s₀ s' := by
  cases a with
  | sock t ans => exact h.sock hstep
  | framer t => exact h.framer hready hstep
  | api ans => exact h.api hguard hstep
  | callRun q | callStop | callTerminate | callReset =>
    obtain ⟨r, -, rfl⟩ := callStep_begins hstep
    exact { h with }
  | getData =>
    obtain ⟨f, fs, -, rfl⟩ := getData_takes hstep
    exact { h with }
  | pause | resume =>
    simp only [step, Option.some.injEq] at hstep
    subst hstep
    exact { h with }

/-- **A reset separates what is before it from what is after it**, in a history that meets
`ResetsClean`: when it has returned, both queues are empty, and whatever happens then, the frames put
in the event queue consist of bytes received since. -/
theorem reset_separates {acts acts' : List (Act α)} {ans : ApiAnswer} {status : SiDaqStatus}
    {s₁ s₂ : State α}
    (hguard : Guarded step ResetsClean State.init (acts ++ .api ans :: acts'))
    (hrun : run step State.init acts = some s₁) (hapi : s₁.api = .resetRestore status)
    (hret : step s₁ (.api ans) = some s₂) (hrun' : run step s₂ acts' = some s) :
    s₂.recvQueue = [] ∧ s₂.eventFrame = [] ∧
      (since s₂.framed s.framed).flatten ⊆ s₂.newBytes s := by
  obtain ⟨hbefore, hafter⟩ := (guarded_append hrun).mp hguard
  obtain ⟨hreturn, hafter⟩ := (guarded_cons hret).mp hafter
  have hinit : (State.init : State α).Emptying :=
    .of_not_resets (fun fr hfr => by simp [State.init] at hfr) rfl
  have h₁ : s₁.Emptying :=
    run_invariant_of_guarded (fun _ _ _ h hg hs => h.act hg hs) hinit hbefore hrun
  have h₂ := h₁.act hreturn hret
  have hhands : s₁.HandsEmpty := hreturn.2 (by rw [hapi]; rfl)
  have hqueues : s₁.recvQueue = [] ∧ s₁.eventFrame = [] :=
    ⟨h₁.recv (by rw [hapi]; rfl), h₁.event (by rw [hapi]; rfl)⟩
  have hs₂ : s₂ = { s₁.apiTo (.returned .reset) with
      status := if status = .sysError then .sysError else .idle } := by
    simpa [step, apiStep, hapi] using hret.symm
  -- from here on nothing old is left anywhere
  have hfresh : Fresh s₂ s₂ := by
    subst hs₂
    exact .start hqueues.1 ⟨hhands.socks, hhands.framers, hhands.rest⟩
  have hend : s.Emptying ∧ Fresh s₂ s :=
    run_invariant_of_guarded (I := fun s => s.Emptying ∧ Fresh s₂ s)
      (fun _ _ _ h hg hs => ⟨h.1.act hg hs, h.2.act h.1 hg hs⟩) ⟨h₂, hfresh⟩ hafter hrun'
  refine ⟨?_, ?_, hend.2.frames⟩
  · rw [hs₂]
    exact hqueues.1
  · rw [hs₂]
    exact hqueues.2

end Fresh

/-! ## Two histories -/

/-- A test for `ResetsClean`, where `SiDaqRun` does not configure the framer and no reset ends. -/
def resetsCleanBool (s : State α) : Act α → Bool
  | .api _ =>
    match s.api with
    | .runConfigure _ | .resetRestore _ => false
    | _ => true
  | .sock t _ => !s.api.recvReset || (s.socks t).pc.hand.isEmpty
  | .framer _ => !s.api.eventReset
  | _ => true

theorem ResetsClean.of_resetsCleanBool (s : State α) (a : Act α)
    (h : resetsCleanBool s a = true) : ResetsClean s a := by
  cases a with
  | api ans =>
    refine ⟨fun p hapi => ?_, fun he => ?_⟩
    · simp [resetsCleanBool, hapi] at h
    · cases hapi : s.api <;> simp [hapi, ApiPc.eventReset, resetsCleanBool] at he h
  | sock t ans =>
    intro hr
    simpa [resetsCleanBool, hr] using h
  | framer t =>
    intro he
    simp [resetsCleanBool, he] at h
  | _ => trivial

theorem ResetsClean.of_configure {s : State α} {p : RunParams α} {ans : ApiAnswer}
    (hapi : s.api = .runConfigure p) (hframer : s.framer = none) (hfits : p.framing.Fits)
    (htwo : p.framing.headerLen.toNat ≤ 2) : ResetsClean s (.api ans) := by
  refine ⟨fun q hq => ?_, fun he => by simp [hapi, ApiPc.eventReset] at he⟩
  obtain rfl := ApiPc.runConfigure.inj (hapi.symm.trans hq)
  exact ⟨fun fr hfr => by simp [hframer] at hfr, hfits, htwo⟩

theorem ResetsClean.of_restore {s : State α} {status : SiDaqStatus} {ans : ApiAnswer}
    (hapi : s.api = .resetRestore status) (hhands : s.HandsEmpty) : ResetsClean s (.api ans) :=
  ⟨fun q hq => by simp [hapi] at hq, fun _ => hhands⟩

/-- `SiDaqRun`, up to the configuration of the framer. -/
def untilConfigure : List (Act UInt8) := (runCall byteHeader.toRunParams 0 0).take 10

/-- The end of `SiDaqRun`; a chunk is received and put; `SiDaqStop` and `SiDaqResetQueue` are called
before the framer thread has taken its first step, and `SiDaqResetQueue` is at its end. -/
def untilRestore : List (Act UInt8) :=
  (runCall byteHeader.toRunParams 0 0).drop 11 ++ recvActs 0 (.of [1, 9]) ++ [.callStop] ++
    List.replicate 6 (.api .ok) ++ [.callReset] ++ List.replicate 5 (.api .ok)

/-- `SiDaqResetQueue` has deleted the chunk, and the framer thread waits for its first step. -/
theorem untilRestore_handsEmpty :
    ∃ s, run step State.init (untilConfigure ++ .api .ok :: untilRestore) = some s ∧
      s.api = .resetRestore .stopping ∧ s.HandsEmpty := by
  refine ⟨_, rfl, rfl, ?_, ?_, ?_⟩
  · intro t
    cases t with
    | zero => rfl
    | succ t => rfl
  · intro t
    cases t with
    | zero => rfl
    | succ t => rfl
  · intro fr hfr
    have hrest := congrArg (Option.map SiDaqFramer.rest) hfr
    exact (Option.some.inj hrest).symm

/-- The chunk is deleted, and the framer thread exits. -/
theorem quietReset_separates :
    ∃ s₁ s₂ s, run step State.init (untilConfigure ++ .api .ok :: untilRestore) = some s₁ ∧
      s₁.api = .resetRestore .stopping ∧ step s₁ (.api .ok) = some s₂ ∧
      run step s₂ (List.replicate 5 (.framer 0)) = some s ∧
      s₂.recvQueue = [] ∧ s₂.eventFrame = [] ∧
      (since s₂.framed s.framed).flatten ⊆ s₂.newBytes s := by
  obtain ⟨s₁, hrun, hapi, hhands⟩ := untilRestore_handsEmpty
  have hguard : Guarded step ResetsClean State.init
      ((untilConfigure ++ .api .ok :: untilRestore) ++
        .api .ok :: List.replicate 5 (.framer 0)) := by
    refine (guarded_append hrun).mpr ⟨?_, ?_⟩
    · -- the framer is not made yet when it is configured
      refine (guarded_append rfl).mpr ⟨?_, (guarded_cons rfl).mpr ⟨?_, ?_⟩⟩
      · exact guarded_of_guardedBool ResetsClean.of_resetsCleanBool (by decide)
      · exact .of_configure rfl rfl byteHeader_fits (by decide)
      · exact guarded_of_guardedBool ResetsClean.of_resetsCleanBool (by decide)
    · cases hrun
      refine (guarded_cons rfl).mpr ⟨.of_restore rfl hhands, ?_⟩
      exact guarded_of_guardedBool ResetsClean.of_resetsCleanBool (by decide)
  cases hrun
  exact ⟨_, _, _, rfl, rfl, rfl, rfl, reset_separates hguard rfl rfl rfl rfl⟩

/-- The first chunk is carried over, as the beginning of a frame, when `SiDaqStop` and
`SiDaqResetQueue` are called. -/
def carryThenReset : List (Act UInt8) :=
  runCall byteHeader.toRunParams 0 0 ++ recvActs 0 (.of [5, 1]) ++ List.replicate 6 (.framer 0) ++
    [.callStop] ++ List.replicate 6 (.api .ok) ++ [.callReset] ++ List.replicate 4 (.api .ok)

/-- Both threads exit, and another run receives the end of that frame. -/
def carriedOver : List (Act UInt8) :=
  List.replicate 4 (.framer 0) ++ List.replicate 2 (.sock 0 .ok) ++ [.sock 0 (.error 10038)] ++
    List.replicate 3 (.sock 0 .ok) ++ runCall byteHeader.toRunParams 1 1 ++
    recvActs 1 (.of [1, 9, 2, 3]) ++ List.replicate 6 (.framer 1)

/-- The first frame of the second run begins with a byte received before the reset. -/
theorem carriedOver_old :
    ∃ s₁ s₂ s, run step State.init carryThenReset = some s₁ ∧
      s₁.api = .resetRestore .stopping ∧ step s₁ (.api .ok) = some s₂ ∧
      run step s₂ carriedOver = some s ∧
      5 ∈ (since s₂.framed s.framed).flatten ∧ 5 ∉ s₂.newBytes s :=
  ⟨_, _, _, rfl, rfl, rfl, rfl, by decide, by decide⟩

end SiDaqApi
