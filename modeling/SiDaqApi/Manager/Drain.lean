import SiDaqApi.Manager.Flow

/-!
# What the end of a run leaves behind

A framer thread takes an empty receive queue in `SIDAQ_STOPPING` for the end of the data. The socket
thread may hold a chunk then that it puts afterwards, and nobody frames it: `lateChunk` is such a run.
`stop_loses_nothing_iff` says when the data of a run is framed to the last byte: when there is nothing
left to take at the moment the framer thread leaves its loop, and nothing is received after it.
-/

namespace SiDaqApi

open Machine

variable {α : Type*}

/-- The framer thread of the run has left its loop. -/
def State.FramerGone (s : State α) : Prop :=
  s.api.isStarting = false ∧ ∀ t, (s.framers t).hasLeft

/-- No chunk waits for the framer thread. -/
def State.Drained (s : State α) : Prop :=
  s.recvQueue = [] ∧ ∀ t, (s.socks t).pc.hand = []

/-- The next step of framer thread `t` leaves the loop. -/
def State.LeavesNow (s : State α) (t : ℕ) : Prop :=
  (s.framers t = .testIdle ∧ s.status = .idle) ∨ (s.framers t = .testReset ∧ s.status = .reset) ∨
    s.framers t = .flush

/-- The framer thread leaves its loop only when no chunk waits for it, and nothing is received after
that. -/
def LeavesDrained (s : State α) : Act α → Prop
  | .framer t => s.LeavesNow t → s.Drained
  | .sock t (.data _) => (s.socks t).pc = .recv → ¬ s.FramerGone
  | _ => True

/-! ## The framer thread is gone -/

section Gone

variable {p : RunParams α} {s₀ s s' : State α} {j k t : ℕ}

theorem FramerPc.hand_of_hasLeft {pc : FramerPc α} (h : pc.hasLeft) : pc.hand = [] := by
  cases pc <;> first | rfl | simp [FramerPc.hasLeft] at h

/-- Without the framer thread, what is received is framed, in the queue, or in the hand of the socket
thread. -/
theorem Flowing.gone_bytes (h : Flowing p s₀ s j k) (hgone : s.FramerGone) :
    (since s₀.framed s.framed).flatten ++ stream s.recvQueue ++ (s.socks j).pc.hand =
      stream (since s₀.received s.received) := by
  have hmoved := h.moved
  rw [(h.nothing (Or.inl (hgone.2 k))).restBytes, FramerPc.hand_of_hasLeft (hgone.2 k),
    List.append_nil, List.append_nil] at hmoved
  rw [hmoved, h.arrived]

theorem stream_eq_nil {cs : List (Chunk α)} : stream cs = [] ↔ cs = [] := by
  cases cs with
  | nil => simp
  | cons c cs => simp [c.nonempty]

/-- Nothing is left if and only if everything is framed. -/
theorem Flowing.drained_iff (h : Flowing p s₀ s j k) (hgone : s.FramerGone) :
    s.Drained ↔ s.recvQueue = [] ∧
      (since s₀.framed s.framed).flatten = stream (since s₀.received s.received) := by
  have hbytes := h.gone_bytes hgone
  constructor
  · rintro ⟨hqueue, hhand⟩
    rw [hqueue, hhand j, stream_nil, List.append_nil, List.append_nil] at hbytes
    exact ⟨hqueue, hbytes⟩
  · rintro ⟨hqueue, hframed⟩
    rw [hqueue, stream_nil, List.append_nil, ← hframed] at hbytes
    have hhand : (s.socks j).pc.hand = [] := List.append_right_eq_self.mp hbytes
    refine ⟨hqueue, fun t => ?_⟩
    by_cases htj : t = j
    · exact htj ▸ hhand
    · rw [h.socks t htj]
      rfl

end Gone

/-! ## The steps -/

section Steps

variable {p : RunParams α} {s₀ s s' : State α} {j k t : ℕ}

/-- What waits for the framer thread does not depend on the rest of the state. -/
theorem State.Drained.congr (hqueue : s'.recvQueue = s.recvQueue) (hsocks : s'.socks = s.socks) :
    s'.Drained ↔ s.Drained := by
  unfold State.Drained
  rw [hqueue, hsocks]

theorem State.FramerGone.congr (hapi : s'.api.isStarting = s.api.isStarting)
    (hframers : s'.framers = s.framers) : s'.FramerGone ↔ s.FramerGone := by
  unfold State.FramerGone
  rw [hapi, hframers]

/-- While `SiDaqRun` is connecting, nothing can wait. -/
theorem Flowing.drained_of_connecting (h : Flowing p s₀ s j k) (hc : s.api.isConnecting) :
    s.Drained := by
  have harrived := h.arrived
  rw [h.untouched hc, since_self, stream_nil] at harrived
  have hput : stream (since s₀.put s.put) = [] := (List.append_eq_nil_iff.mp harrived.symm).1
  have hmoved := h.moved
  rw [hput] at hmoved
  have hqueue : s.recvQueue = [] := stream_eq_nil.mp (List.append_eq_nil_iff.mp hmoved).2
  refine ⟨hqueue, fun t => ?_⟩
  by_cases htj : t = j
  · rw [htj, h.connecting hc]
    rfl
  · rw [h.socks t htj]
    rfl

/-- A step of a socket thread: with the framer thread gone, it can only lose a received chunk. -/
theorem Flowing.sock_drained_iff {ans : SockAnswer α} (hstep : sockStep s t ans = some s') :
    (s'.FramerGone → s'.Drained) ↔
      (s.FramerGone → s.Drained) ∧ LeavesDrained s (.sock t ans) := by
  rcases sockStep_move hstep with ⟨th, param, sockets, rfl, hpc, hpc', hans⟩ | ⟨c, hpc, rfl, rfl⟩ |
    ⟨c, hpc, rfl⟩
  · -- the thread receives nothing and puts nothing into the queue
    have hguard : LeavesDrained s (.sock t ans) := by
      cases ans with
      | data c => exact fun hrecv => absurd rfl (hans hrecv c)
      | _ => trivial
    have hdrained : State.Drained { s.setSock t th with sockParam := param, sockets := sockets } ↔
        s.Drained := by
      refine and_congr_right fun _ => forall_congr' fun u => ?_
      by_cases hut : u = t
      · simp [State.setSock, hut, hpc, hpc']
      · simp [State.setSock, Function.update_of_ne hut]
    rw [hdrained]
    exact ⟨fun h => ⟨h, hguard⟩, fun h => h.1⟩
  · -- it has received a chunk, which waits in its hand
    have hwaits : ¬ State.Drained { s.sockTo t (.put c) with received := s.received ++ [c] } := by
      intro hdrained
      have hhand := hdrained.2 t
      simp [State.sockTo, State.setSock, SockPc.hand, c.nonempty] at hhand
    constructor
    · intro h
      have hnot : ¬ s.FramerGone := fun hgone => hwaits (h hgone)
      exact ⟨fun hgone => absurd hgone hnot, fun _ => hnot⟩
    · exact fun h hgone => absurd hgone (h.2 hpc)
  · -- it puts the chunk in its hand into the queue
    have hwaited : ¬ s.Drained := by
      intro hdrained
      have hhand := hdrained.2 t
      simp [hpc, SockPc.hand, c.nonempty] at hhand
    have hwaits : ¬ State.Drained { s.sockTo t .testLimit with
        recvQueue := s.recvQueue ++ [c], put := s.put ++ [c] } := by
      intro hdrained
      simp [State.Drained] at hdrained
    have hguard : LeavesDrained s (.sock t ans) := by
      cases ans with
      | data c' =>
        intro hrecv
        simp [hpc] at hrecv
      | _ => trivial
    constructor
    · exact fun h => ⟨fun hgone => absurd (h hgone) hwaits, hguard⟩
    · exact fun h hgone => absurd (h.1 hgone) hwaited

variable [Inhabited α]

/-- A framer thread that does not take a chunk leaves what waits for it. -/
theorem framerStep_drained_iff (hpc : s.framers t ≠ .get) (hstep : framerStep s t = some s') :
    s'.Drained ↔ s.Drained := by
  rcases framerStep_move hstep with ⟨_, _, _, _, _, _, _, rfl, -⟩ | ⟨_, _, hget, -, rfl⟩ |
    ⟨_, _, _, -, -, -, rfl⟩ | ⟨_, -, -, -, rfl⟩
  · exact State.Drained.congr rfl rfl
  · exact absurd hget hpc
  · exact State.Drained.congr rfl rfl
  · exact State.Drained.congr rfl rfl

omit [Inhabited α] in
/-- The framer thread of the run is the only one that can be in its loop. -/
theorem Flowing.hasLeft (h : Flowing p s₀ s j k) (hleft : (s.framers k).hasLeft) (t : ℕ) :
    (s.framers t).hasLeft := by
  by_cases htk : t = k
  · rw [htk]
    exact hleft
  · rw [h.framers t htk]
    rfl

/-- A step of a framer thread. -/
theorem Flowing.framer_drained_iff (h : Flowing p s₀ s j k) (hstep : framerStep s t = some s') :
    (s'.FramerGone → s'.Drained) ↔
      (s.FramerGone → s.Drained) ∧ LeavesDrained s (.framer t) := by
  have h' := h.framer hstep
  obtain ⟨halive, hchange⟩ := framerStep_change hstep
  obtain rfl := h.framer_eq halive
  have hapi : s'.api = s.api := by
    obtain ⟨_, _, _, _, _, _, _, _, _, _, rfl⟩ := hchange
    rfl
  rcases framerStep_turn hstep with ⟨hpc, hpc', -, hidle, hreset, hflush, -⟩ |
    ⟨hpc, hpc', hwhy, -⟩ | ⟨hpc, hpc', -⟩
  · -- the thread is in its loop before and after
    have hnot : ¬ s.FramerGone := fun hgone => by simpa [hpc] using hgone.2 t
    have hnot' : ¬ s'.FramerGone := fun hgone => by simpa [hpc'] using hgone.2 t
    refine iff_of_true (fun hgone => absurd hgone hnot') ⟨fun hgone => absurd hgone hnot, ?_⟩
    rintro (⟨hat, hs⟩ | ⟨hat, hs⟩ | hat)
    · exact absurd hs (hidle hat).1
    · exact absurd hs (hreset hat)
    · exact absurd hat hflush
  · -- it leaves now
    have hnot : ¬ s.FramerGone := fun hgone => by simpa [hpc] using hgone.2 t
    have hget : s.framers t ≠ .get := by
      intro hat
      simp [hat] at hwhy
    have hgone' : s'.FramerGone := by
      refine ⟨?_, h'.hasLeft (by rw [hpc']; rfl)⟩
      rw [hapi]
      by_contra hstarting
      exact halive (h.starting (by simpa using hstarting))
    rw [← framerStep_drained_iff hget hstep]
    constructor
    · exact fun hd => ⟨fun hgone => absurd hgone hnot,
        fun _ => (framerStep_drained_iff hget hstep).mp (hd hgone')⟩
    · exact fun hd _ => (framerStep_drained_iff hget hstep).mpr (hd.2 hwhy)
  · -- it has left
    have hplain : s.framers t ≠ .get ∧ ¬ s.LeavesNow t := by
      refine ⟨fun hat => ?_, fun hnow => ?_⟩
      · simp [hat, FramerPc.hasLeft] at hpc
      · rcases hnow with ⟨hat, -⟩ | ⟨hat, -⟩ | hat <;> simp [hat, FramerPc.hasLeft] at hpc
    have hgone : s'.FramerGone ↔ s.FramerGone := by
      unfold State.FramerGone
      rw [hapi]
      exact and_congr_right fun _ => iff_of_true (h'.hasLeft hpc') (h.hasLeft hpc)
    rw [hgone, framerStep_drained_iff hplain.1 hstep]
    exact ⟨fun hd => ⟨hd, fun hnow => absurd hnow hplain.2⟩, fun hd => hd.1⟩

/-- A step of an API call. -/
theorem Flowing.api_drained_iff (h : Flowing p s₀ s j k) {ans : ApiAnswer}
    (hstep : apiStep s ans = some s') :
    (s'.FramerGone → s'.Drained) ↔ (s.FramerGone → s.Drained) := by
  have hnoReset := h.noReset
  have hstarts : ∀ {s : State α}, s.api.isStarting = true → s.FramerGone → s.Drained :=
    fun hstarting hgone => absurd hgone.1 (by simp [hstarting])
  rcases apiStep_move hstep with
    ⟨pc, status, code, message, param, sockets, rfl, hfrom, hpc, -, -⟩ |
    ⟨pc, code, message, param, sockets, rfl, hapi, hpc, -⟩ | ⟨q, t, hapi, -, rfl⟩ |
    ⟨q, hapi, rfl⟩ | ⟨t, hapi, -, rfl⟩ | ⟨pc, status, hnext, rfl⟩ |
    ⟨status, c, cs, hapi, -, rfl⟩ | ⟨status, f, fs, hapi, -, rfl⟩
  · cases hstarting : s.api.isStarting with
    | false =>
      exact imp_congr (State.FramerGone.congr (hpc.trans hstarting.symm) rfl)
        (State.Drained.congr rfl rfl)
    | true =>
      -- `SiDaqRun` fails before it creates a thread
      have hdrained := h.drained_of_connecting (hfrom hstarting)
      exact iff_of_true (fun _ => hdrained) fun _ => hdrained
  · exact iff_of_true (hstarts (ApiPc.isStarting_of_isConnecting hpc))
      (hstarts (ApiPc.isStarting_of_isConnecting hapi))
  · exact iff_of_true (hstarts rfl) (hstarts (by rw [hapi]; rfl))
  · exact iff_of_true (hstarts rfl) (hstarts (by rw [hapi]; rfl))
  · -- the new framer thread is in its loop
    refine iff_of_true (fun hgone => ?_) (hstarts (by rw [hapi]; rfl))
    have hleft := hgone.2 t
    rw [State.framerTo_self] at hleft
    simp [FramerPc.hasLeft] at hleft
  · -- `SiDaqResetQueue` is excluded during a run
    rcases hnext with ⟨_, hapi, -⟩ | ⟨_, hapi⟩ | ⟨_, hapi, -⟩ | ⟨_, hapi, -⟩ <;>
      simp [hapi, ApiPc.resets] at hnoReset
  · simp [hapi, ApiPc.resets] at hnoReset
  · simp [hapi, ApiPc.resets] at hnoReset

/-- **One step**: nothing waits for a framer thread that is gone after it, if and only if this was so
before it and the step meets `LeavesDrained`. -/
theorem Flowing.drained_step_iff (h : Flowing p s₀ s j k) {a : Act α} (ha : a.InRun)
    (hstep : step s a = some s') :
    (s'.FramerGone → s'.Drained) ↔ (s.FramerGone → s.Drained) ∧ LeavesDrained s a := by
  have hplain : (s'.FramerGone ↔ s.FramerGone) → (s'.Drained ↔ s.Drained) →
      ((s'.FramerGone → s'.Drained) ↔ (s.FramerGone → s.Drained) ∧ True) :=
    fun hgone hdrained => (imp_congr hgone hdrained).trans (and_iff_left trivial).symm
  cases a with
  | sock t ans => exact Flowing.sock_drained_iff hstep
  | framer t => exact h.framer_drained_iff hstep
  | api ans => exact (h.api_drained_iff hstep).trans (and_iff_left trivial).symm
  | callRun q => exact ha.elim
  | callReset => exact ha.elim
  | callStop | callTerminate =>
    obtain ⟨r, hr, rfl⟩ := callStep_begins hstep
    exact hplain (State.FramerGone.congr (by rw [hr]; rfl) rfl) (State.Drained.congr rfl rfl)
  | getData =>
    obtain ⟨f, fs, -, rfl⟩ := getData_takes hstep
    exact hplain (State.FramerGone.congr rfl rfl) (State.Drained.congr rfl rfl)
  | pause | resume =>
    simp only [step, Option.some.injEq] at hstep
    subst hstep
    exact hplain (State.FramerGone.congr rfl rfl) (State.Drained.congr rfl rfl)

/-- A framer thread that is gone stays so until the next `SiDaqRun`. -/
theorem Flowing.gone_step (h : Flowing p s₀ s j k) (hgone : s.FramerGone) {a : Act α}
    (ha : a.InRun) (hstep : step s a = some s') : s'.FramerGone := by
  obtain ⟨hstarting, hleft⟩ := hgone
  cases a with
  | sock t ans =>
    obtain ⟨-, _, _, _, _, _, _, rfl⟩ := sockStep_change hstep
    exact ⟨hstarting, hleft⟩
  | framer t =>
    have hapi : s'.api = s.api := by
      obtain ⟨-, _, _, _, _, _, _, _, _, _, _, rfl⟩ := framerStep_change hstep
      rfl
    obtain rfl := h.framer_eq (framerStep_change hstep).1
    refine ⟨hapi ▸ hstarting, (h.framer hstep).hasLeft ?_⟩
    rcases framerStep_turn hstep with ⟨hpc, -⟩ | ⟨hpc, -⟩ | ⟨-, hpc', -⟩
    · simp [hleft t] at hpc
    · simp [hleft t] at hpc
    · exact hpc'
  | api ans =>
    -- only a `SiDaqRun` in progress creates framer threads, and it is over
    have hnot : ∀ {pc}, s.api = pc → pc.isStarting = false := fun hapi => hapi ▸ hstarting
    rcases apiStep_move hstep with ⟨_, _, _, _, _, _, rfl, -, hpc, -⟩ | ⟨_, _, _, _, _, -, hapi, -⟩ |
      ⟨_, _, hapi, -⟩ | ⟨_, hapi, -⟩ | ⟨_, hapi, -⟩ | ⟨pc, _, hnext, rfl⟩ | ⟨_, _, _, -, -, rfl⟩ |
      ⟨_, _, _, -, -, rfl⟩
    · exact ⟨hpc, hleft⟩
    · exact absurd (ApiPc.isStarting_of_isConnecting hapi) (by simp [hstarting])
    · exact absurd (hnot hapi) (by simp [ApiPc.isStarting, ApiPc.runParams])
    · exact absurd (hnot hapi) (by simp [ApiPc.isStarting, ApiPc.runParams])
    · exact absurd (hnot hapi) (by simp [ApiPc.isStarting])
    · refine ⟨?_, hleft⟩
      cases hnext <;> rfl
    · exact ⟨hstarting, hleft⟩
    · exact ⟨hstarting, hleft⟩
  | callRun q => exact ha.elim
  | callReset => exact ha.elim
  | callStop | callTerminate =>
    obtain ⟨r, -, rfl⟩ := callStep_begins hstep
    exact ⟨rfl, hleft⟩
  | getData =>
    obtain ⟨f, fs, -, rfl⟩ := getData_takes hstep
    exact ⟨hstarting, hleft⟩
  | pause | resume =>
    simp only [step, Option.some.injEq] at hstep
    subst hstep
    exact ⟨hstarting, hleft⟩

/-- **Stopping loses nothing if and only if the framer thread leaves its loop with nothing left to
take.** In a run in which the framer thread has written `SIDAQ_IDLE`, the receive queue is empty from
then on and the frames are the bytes received, exactly when the run meets `LeavesDrained`. -/
theorem stop_loses_nothing_iff (hclean : s₀.Clean) (hp : p.framing.Regular)
    (htwo : p.framing.headerLen.toNat ≤ 2) {acts acts' : List (Act α)}
    (hacts : ∀ a ∈ acts, a.InRun) (hacts' : ∀ a ∈ acts', a.InRun) {s₁ : State α}
    (hrun : run step s₀ (.callRun p :: acts) = some s₁) (hidle : s₁.framers k = .setIdle)
    (hrun' : run step s₁ (.framer k :: acts') = some s) :
    (s.recvQueue = [] ∧
      (since s₀.framed s.framed).flatten = stream (since s₀.received s.received)) ↔
    Guarded step LeavesDrained s₀ (.callRun p :: (acts ++ .framer k :: acts')) := by
  have hall : ∀ a ∈ acts ++ .framer k :: acts', a.InRun := by
    intro a ha
    rcases List.mem_append.mp ha with ha | ha
    · exact hacts a ha
    · rcases List.mem_cons.mp ha with rfl | ha
      · trivial
      · exact hacts' a ha
  obtain ⟨hcall, hstart⟩ := Flowing.start hclean p
  have hwhole : run step (s₀.apiTo (.runBegin p)) (acts ++ .framer k :: acts') = some s := by
    rw [run_cons, hcall, Option.bind_some] at hrun
    rw [run_append, hrun, Option.bind_some, hrun']
  -- the framer thread is gone when it is about to write the status, and stays so
  obtain ⟨j₁, k₁, h₁⟩ := flowing_of_run hclean hp htwo hacts hrun
  have hgone₁ : s₁.FramerGone := by
    obtain rfl := h₁.framer_eq (t := k) (by simp [State.FramerAlive, hidle])
    refine ⟨?_, h₁.hasLeft (by rw [hidle]; rfl)⟩
    by_contra hstarting
    have hoff := h₁.starting (by simpa using hstarting)
    simp [hidle] at hoff
  have hlater : ∀ a ∈ Act.framer k :: acts', a.InRun :=
    fun a ha => hall a (List.mem_append_right acts ha)
  have hend : (∃ j k, Flowing p s₀ s j k) ∧ s.FramerGone := by
    refine run_invariant_of_guarded (I := fun s => (∃ j k, Flowing p s₀ s j k) ∧ s.FramerGone) ?_
      ⟨⟨j₁, k₁, h₁⟩, hgone₁⟩ (guarded_of_forall hlater) hrun'
    rintro s a s' ⟨⟨j, k, h⟩, hgone⟩ ha hstep
    exact ⟨h.act hp htwo ha hstep, h.gone_step hgone ha hstep⟩
  obtain ⟨⟨j₂, k₂, h₂⟩, hgone₂⟩ := hend
  have hact : ∀ s a s', (∃ j k, Flowing p s₀ s j k) → a.InRun → step s a = some s' →
      ∃ j k, Flowing p s₀ s' j k := by
    rintro s a s' ⟨j, k, h⟩ ha hstep
    exact h.act hp htwo ha hstep
  have hdrained : ∀ s a s', (∃ j k, Flowing p s₀ s j k) → a.InRun → step s a = some s' →
      ((s'.FramerGone → s'.Drained) ↔ (s.FramerGone → s.Drained) ∧ LeavesDrained s a) := by
    rintro s a s' ⟨j, k, h⟩ ha hstep
    exact h.drained_step_iff ha hstep
  have hkeep := run_iff_guarded (P := fun s => s.FramerGone → s.Drained) hact hdrained
    ⟨0, 0, hstart⟩ hall hwhole
  have hbegin : (s₀.apiTo (.runBegin p)).FramerGone → (s₀.apiTo (.runBegin p)).Drained :=
    fun hgone => absurd hgone.1 (by simp [State.apiTo, ApiPc.isStarting, ApiPc.runParams])
  rw [← h₂.drained_iff hgone₂]
  constructor
  · intro hdrained s' hs'
    obtain rfl := Option.some.inj (hcall.symm.trans hs')
    exact ⟨trivial, (hkeep.mp fun _ => hdrained).2⟩
  · intro hguard
    exact hkeep.mpr ⟨hbegin, (hguard _ hcall).2⟩ hgone₂

end Steps

/-! ## Two runs -/

/-- A run in which the socket thread has put its chunk before `SiDaqStop` is called. -/
theorem stoppedRun_leavesDrained :
    Guarded step LeavesDrained State.init
      (.callRun twoByteHeader.toRunParams :: (stoppedRun.dropLast ++ [.framer 0, .getData])) := by
  obtain ⟨s₁, hrun, hidle⟩ : ∃ s₁, run step State.init
      (.callRun twoByteHeader.toRunParams :: stoppedRun.dropLast) = some s₁ ∧
        s₁.framers 0 = .setIdle := ⟨_, rfl, rfl⟩
  obtain ⟨s, hwhole, hqueue, hframed⟩ : ∃ s, run step State.init
      (.callRun twoByteHeader.toRunParams :: stoppedRun.dropLast ++ [.framer 0, .getData]) =
        some s ∧ s.recvQueue = [] ∧ s.framed.flatten = stream s.received := ⟨_, rfl, rfl, rfl⟩
  rw [run_append, hrun] at hwhole
  exact (stop_loses_nothing_iff State.clean_init twoByteHeader_regular (by decide) (by decide)
    (by decide) hrun hidle hwhole).mp ⟨hqueue, hframed⟩

/-- `SiDaqStop` is called, and waits no longer for the socket thread, when that has received a chunk
and not put it yet; the framer thread finds the receive queue empty and exits; then the chunk is
put. -/
def lateChunk : List (Act UInt8) :=
  runCall byteHeader.toRunParams 0 0 ++ (recvActs 0 (.of [1, 2])).dropLast ++ [.callStop] ++
    List.replicate 6 (.api .ok) ++ List.replicate 9 (.framer 0) ++ [.sock 0 .ok]

/-- The framer thread has written `SIDAQ_IDLE`, and the chunk is left in the receive queue. -/
theorem lateChunk_lost :
    ∃ s, run step State.init lateChunk = some s ∧ s.ApiIdle ∧ s.status = .idle ∧
      s.recvQueue ≠ [] ∧ s.framed.flatten ≠ stream s.received := by
  refine ⟨_, rfl, ⟨_, rfl⟩, rfl, ?_, ?_⟩
  · apply List.cons_ne_nil
  · apply (List.cons_ne_nil _ _).symm

end SiDaqApi
