import SiDaqApi.Manager.Threads

/-!
# How bytes move through a manager

Bytes are in the receive queue, in the event queue, in the carry-over of the framer, or in the hand
of a thread. Each step moves them in one of a few ways, which `SockMove`, `FramerMove` and `ApiMove`
list with the state after the step; results about where bytes are follow from these lists alone.
`FramerTurn` does the same for the way of a framer thread out of its loop.
-/

namespace SiDaqApi

variable {α : Type*}

/-! ## Bytes in the hand of a thread -/

/-- The bytes that the socket thread has received and not put in the queue yet. -/
def SockPc.hand : SockPc α → List α
  | .put c => c.bytes
  | _ => []

/-- The bytes that the framer thread has taken from the queue and not framed yet. -/
def FramerPc.hand : FramerPc α → List α
  | .recv c => c.bytes
  | _ => []

/-- The bytes that the framer of the manager carries. -/
def State.restBytes (s : State α) : List α := (s.framer.map SiDaqFramer.restBytes).getD []

theorem State.restBytes_of_some {s : State α} {fr : SiDaqFramer α} (h : s.framer = some fr) :
    s.restBytes = fr.restBytes := by
  simp [State.restBytes, h]

/-- The framer carries nothing, if there is one. -/
def State.CarriesNothing (s : State α) : Prop := ∀ fr, s.framer = some fr → fr.rest = 0

theorem State.CarriesNothing.restBytes {s : State α} (h : s.CarriesNothing) :
    s.restBytes = [] := by
  cases hfr : s.framer with
  | none => simp [State.restBytes, hfr]
  | some fr =>
    rw [s.restBytes_of_some hfr]
    exact SiDaqFramer.restBytes_of_rest_eq_zero (h fr hfr)

/-! ## Framers that carry the same -/

/-- The framer without its error fields. -/
def SiDaqFramer.carry (fr : SiDaqFramer α) : SiDaqFramer α :=
  { fr with errorCode := .noError, errorFlg := 0 }

/-- The framers agree but for their error fields. -/
def SameCarry (o o' : Option (SiDaqFramer α)) : Prop :=
  o'.map SiDaqFramer.carry = o.map SiDaqFramer.carry

theorem SameCarry.refl (o : Option (SiDaqFramer α)) : SameCarry o o := rfl

theorem SameCarry.exists_some {o o' : Option (SiDaqFramer α)} (h : SameCarry o o')
    {fr' : SiDaqFramer α} (hfr' : o' = some fr') : ∃ fr, o = some fr ∧ fr.carry = fr'.carry := by
  subst hfr'
  simpa using h.symm

theorem SameCarry.symm {o o' : Option (SiDaqFramer α)} (h : SameCarry o o') : SameCarry o' o :=
  Eq.symm h

theorem SameCarry.restBytes {s s' : State α} (h : SameCarry s.framer s'.framer) :
    s'.restBytes = s.restBytes := by
  have hmap := congrArg (Option.map SiDaqFramer.restBytes) h
  rw [Option.map_map, Option.map_map] at hmap
  exact congrArg (Option.getD · []) hmap

theorem SameCarry.carriesNothing {s s' : State α} (h : SameCarry s.framer s'.framer)
    (hnothing : s.CarriesNothing) : s'.CarriesNothing := by
  intro fr' hfr'
  obtain ⟨fr, hfr, hcarry⟩ := h.exists_some hfr'
  have hrest : fr.carry.rest = fr'.carry.rest := congrArg SiDaqFramer.rest hcarry
  exact hrest.symm.trans (hnothing fr hfr)

/-- The error fields do not matter to a ready framer. -/
theorem Ready.of_carry {fr fr' : SiDaqFramer α} (hr : Ready fr) (h : fr.carry = fr'.carry) :
    Ready fr' := by
  obtain ⟨rest, size, buff, f, header, flg, code, limit, max, fixed, n⟩ := fr
  obtain ⟨rest', size', buff', f', header', flg', code', limit', max', fixed', n'⟩ := fr'
  simp only [SiDaqFramer.carry, SiDaqFramer.mk.injEq, true_and] at h
  obtain ⟨rfl, rfl, rfl, rfl, rfl, rfl, rfl, rfl, rfl⟩ := h
  exact ⟨hr.toSound.congr rfl rfl rfl rfl rfl, hr.rest_nonneg, hr.rest_lt, hr.pending⟩

/-- `SiDaqRun` configures a framer that carries nothing, or makes a new one. -/
theorem ready_configure [Inhabited α] {p : FramingParams α} (hp : p.Fits)
    (htwo : p.headerLen.toNat ≤ 2) {o : Option (SiDaqFramer α)}
    (hnothing : ∀ fr, o = some fr → fr.rest = 0)
    (hsize : ∀ fr, o = some fr → fr.buffSize = defaultMaxFrameLen) :
    ((o.getD newSiDaqFramer).configure p).rest = 0 ∧
      Ready ((o.getD newSiDaqFramer).configure p) := by
  have hrest : (o.getD newSiDaqFramer).rest = 0 := by
    cases o with
    | none => rfl
    | some fr => exact hnothing fr rfl
  have hbuff : (o.getD newSiDaqFramer).buffSize = defaultMaxFrameLen := by
    cases o with
    | none => rfl
    | some fr => exact hsize fr rfl
  exact ⟨hrest, .of_rest_eq_zero (.configure hp hbuff htwo) hrest⟩

/-! ## The socket thread -/

/-- What a step of socket thread `t` does to the bytes. -/
inductive SockMove (s : State α) (t : ℕ) (ans : SockAnswer α) (s' : State α) : Prop
  /-- Nothing. -/
  | none (th : SockThread α) (param : SockThreadLparam) (sockets : Sockets)
      (heq : s' = { s.setSock t th with sockParam := param, sockets := sockets })
      (hpc : (s.socks t).pc.hand = []) (hpc' : th.pc.hand = [])
      (hans : (s.socks t).pc = .recv → ∀ c, ans ≠ .data c)
  /-- A chunk is received. -/
  | data (c : Chunk α) (hpc : (s.socks t).pc = .recv) (hans : ans = .data c)
      (heq : s' = { s.sockTo t (.put c) with received := s.received ++ [c] })
  /-- The chunk is put in the receive queue. -/
  | put (c : Chunk α) (hpc : (s.socks t).pc = .put c)
      (heq : s' = { s.sockTo t .testLimit with
        recvQueue := s.recvQueue ++ [c], put := s.put ++ [c] })

/-- **Every step of a socket thread moves bytes in one of these ways.** -/
theorem sockStep_move {s s' : State α} {t : ℕ} {ans : SockAnswer α}
    (h : sockStep s t ans = some s') : SockMove s t ans s' := by
  cases hpc : (s.socks t).pc with
  | off => simp [sockStep, hpc] at h
  | put c =>
    simp only [sockStep, hpc] at h
    exact .put c hpc (Option.some.inj h).symm
  | recv =>
    simp only [sockStep, hpc, recvStep] at h
    split at h
    · -- bytes have arrived
      split at h
      · exact .data _ hpc rfl (Option.some.inj h).symm
      · simp at h
    · split at h
      · exact .none _ _ _ (Option.some.inj h).symm (by rw [hpc]; rfl) rfl (by simp)
      · simp at h
    · split at h
      · split at h
        · exact .none _ _ _ (Option.some.inj h).symm (by rw [hpc]; rfl) rfl (by simp)
        · simp at h
      · exact .none _ _ _ (Option.some.inj h).symm (by rw [hpc]; rfl) rfl (by simp)
    · simp at h
  | select =>
    simp only [sockStep, hpc, selectStep] at h
    split at h
    · split at h
      · exact .none _ _ _ (Option.some.inj h).symm (by rw [hpc]; rfl) rfl (by simp [hpc])
      · simp at h
    · split at h
      · exact .none _ _ _ (Option.some.inj h).symm (by rw [hpc]; rfl) rfl (by simp [hpc])
      · simp at h
    · exact .none _ _ _ (Option.some.inj h).symm (by rw [hpc]; rfl) rfl (by simp [hpc])
    · simp at h
  | start =>
    simp only [sockStep, hpc] at h
    split at h
    · exact .none _ _ _ (Option.some.inj h).symm (by rw [hpc]; rfl) rfl (by simp [hpc])
    · exact .none _ _ _ (Option.some.inj h).symm (by rw [hpc]; rfl) rfl (by simp [hpc])
  | testRun | testPause | testRunPaused | testLimit =>
    simp only [sockStep, hpc] at h
    refine .none _ _ _ (Option.some.inj h).symm (by rw [hpc]; rfl) ?_ (by simp [hpc])
    dsimp only
    split <;> rfl
  | clearError | clearPause | queueError | close | clearSocket =>
    simp only [sockStep, hpc] at h
    exact .none _ _ _ (Option.some.inj h).symm (by rw [hpc]; rfl) rfl (by simp [hpc])

/-! ## The framer thread -/

/-- What a step of framer thread `t` does to the bytes. -/
inductive FramerMove [Inhabited α] (s : State α) (t : ℕ) (s' : State α) : Prop
  /-- Nothing: of the framer, only the error fields change. -/
  | none (pc : FramerPc α) (status : SiDaqStatus) (code : SiDaqErrorCode) (message : String)
      (param : SockThreadLparam) (framer : Option (SiDaqFramer α)) (sockets : Sockets)
      (heq : s' = { s.framerTo t pc with
        status := status, errorCode := code, errorMessage := message, sockParam := param,
        framer := framer, sockets := sockets })
      (hpc : (s.framers t).hand = []) (hpc' : pc.hand = []) (hframer : SameCarry s.framer framer)
      (hrest : s.framers t = .flush → ∀ fr, s.framer = some fr → fr.rest ≤ 0)
  /-- A chunk is taken from the receive queue. -/
  | take (c : Chunk α) (cs : List (Chunk α)) (hpc : s.framers t = .get)
      (hqueue : s.recvQueue = c :: cs)
      (heq : s' = { s.framerTo t (.recv c) with recvQueue := cs })
  /-- The chunk is framed. -/
  | frame (c : Chunk α) (fr : SiDaqFramer α) (o : Outcome α) (hpc : s.framers t = .recv c)
      (hframer : s.framer = some fr)
      (hcall : recvSiDaqData fr c.bytes s.eventFrame = some o)
      (heq : s' = { s.framerTo t .checkError with
        framer := some o.framer
        eventFrame := o.que
        framed := s.framed ++ o.que.drop s.eventFrame.length })
  /-- The rest becomes the last frame. -/
  | flush (fr : SiDaqFramer α) (hpc : s.framers t = .flush) (hframer : s.framer = some fr)
      (hrest : fr.rest > 0)
      (heq : s' = { s.framerTo t .exit with
        framer := some { fr with rest := 0 }
        eventFrame := s.eventFrame ++ [fr.restBytes]
        framed := s.framed ++ [fr.restBytes] })

section Framer

variable [Inhabited α] {s s' : State α} {t : ℕ}

/-- A step inside `SiDaqStop`, as a move. -/
private theorem framerStep_stop_move {pc : StopPc} (hpc : s.framers t = .stop pc)
    (h : framerStep s t = some s') : FramerMove s t s' := by
  simp only [framerStep, hpc] at h
  obtain ⟨_, _, _, heq⟩ := stopStep_change s pc
  rcases hstop : stopStep s pc with ⟨s₁, pc₁ | ok⟩ <;> rw [hstop] at h heq <;>
    (subst heq
     exact .none _ _ _ _ _ _ _ (Option.some.inj h).symm (by rw [hpc]; rfl) rfl (.refl _)
       (by simp [hpc]))

/-- The error check after a chunk, as a move. -/
private theorem checkErrorStep_move {fr : SiDaqFramer α} (hpc : s.framers t = .checkError)
    (hfr : s.framer = some fr) : FramerMove s t (checkErrorStep s t fr) := by
  unfold checkErrorStep
  split
  · split
    · exact .none _ _ _ _ _ _ _ rfl (by rw [hpc]; rfl) rfl (by rw [hfr]; rfl) (by simp [hpc])
    · split
      · exact .none _ _ _ _ _ _ _ rfl (by rw [hpc]; rfl) rfl (by rw [hfr]; rfl) (by simp [hpc])
      · exact .none _ _ _ _ _ _ _ rfl (by rw [hpc]; rfl) rfl (.refl _) (by simp [hpc])
  · exact .none _ _ _ _ _ _ _ rfl (by rw [hpc]; rfl) rfl (.refl _) (by simp [hpc])

/-- **Every step of a framer thread moves bytes in one of these ways.** -/
theorem framerStep_move (h : framerStep s t = some s') : FramerMove s t s' := by
  cases hpc : s.framers t with
  | off => simp [framerStep, hpc] at h
  | stop pc => exact framerStep_stop_move hpc h
  | recv c =>
    simp only [framerStep, hpc] at h
    obtain ⟨fr, hfr, h⟩ := Option.bind_eq_some_iff.mp h
    obtain ⟨o, ho, rfl⟩ := Option.map_eq_some_iff.mp h
    exact .frame c fr o hpc hfr ho rfl
  | get =>
    simp only [framerStep, hpc] at h
    split at h
    · exact .none _ _ _ _ _ _ _ (Option.some.inj h).symm (by rw [hpc]; rfl) rfl (.refl _)
        (by simp [hpc])
    · rename_i c cs hqueue
      exact .take c cs hpc hqueue (Option.some.inj h).symm
  | flush =>
    simp only [framerStep, hpc] at h
    obtain ⟨fr, hfr, rfl⟩ := Option.map_eq_some_iff.mp h
    unfold flushStep
    split
    · rename_i hrest
      exact .flush fr hpc hfr hrest rfl
    · rename_i hrest
      refine .none _ _ _ _ _ _ _ rfl (by rw [hpc]; rfl) rfl (.refl _) fun _ fr' hfr' => ?_
      obtain rfl := Option.some.inj (hfr.symm.trans hfr')
      exact not_lt.mp hrest
  | checkError =>
    simp only [framerStep, hpc] at h
    obtain ⟨fr, hfr, rfl⟩ := Option.map_eq_some_iff.mp h
    exact checkErrorStep_move hpc hfr
  | testQueueError =>
    simp only [framerStep, hpc] at h
    obtain ⟨fr, hfr, rfl⟩ := Option.map_eq_some_iff.mp h
    split
    · exact .none _ _ _ _ _ _ _ rfl (by rw [hpc]; rfl) rfl (by rw [hfr]; rfl) (by simp [hpc])
    · exact .none _ _ _ _ _ _ _ rfl (by rw [hpc]; rfl) rfl (.refl _) (by simp [hpc])
  | start =>
    simp only [framerStep, hpc] at h
    obtain ⟨fr, hfr, rfl⟩ := Option.map_eq_some_iff.mp h
    exact .none _ _ _ _ _ _ _ rfl (by rw [hpc]; rfl) rfl (by rw [hfr]; rfl) (by simp [hpc])
  | setError =>
    simp only [framerStep, hpc] at h
    obtain ⟨fr, hfr, rfl⟩ := Option.map_eq_some_iff.mp h
    exact .none _ _ _ _ _ _ _ rfl (by rw [hpc]; rfl) rfl (.refl _) (by simp [hpc])
  | exit =>
    simp only [framerStep, hpc] at h
    obtain ⟨fr, hfr, rfl⟩ := Option.map_eq_some_iff.mp h
    refine .none _ _ _ _ _ _ _ rfl (by rw [hpc]; rfl) ?_ (.refl _) (by simp [hpc])
    split <;> rfl
  | testIdle | testReset | empty | testSocket | testExitReset | setQueueError atEnd =>
    simp only [framerStep, hpc] at h
    refine .none _ _ _ _ _ _ _ (Option.some.inj h).symm (by rw [hpc]; rfl) ?_ (.refl _)
      (by simp [hpc])
    split <;> rfl
  | sysError | clearRun | wait | close | clearSocket | queueSysError atEnd | setIdle =>
    simp only [framerStep, hpc] at h
    exact .none _ _ _ _ _ _ _ (Option.some.inj h).symm (by rw [hpc]; rfl) rfl (.refl _)
      (by simp [hpc])

end Framer

/-! ## The way out of the loop -/

/-- The thread has left its loop, or was never created. -/
def FramerPc.hasLeft : FramerPc α → Bool
  | .off | .exit | .stop _ | .testExitReset | .setIdle => true
  | _ => false

/-- Where a step takes framer thread `t`. -/
inductive FramerTurn (s : State α) (t : ℕ) (s' : State α) : Prop
  /-- It stays in the loop. -/
  | inside (hpc : (s.framers t).hasLeft = false) (hpc' : (s'.framers t).hasLeft = false)
      (hstart : s.framers t = .start → s'.framers t = .testIdle)
      (hidle : s.framers t = .testIdle → s.status ≠ .idle ∧ s'.framers t = .testReset)
      (hreset : s.framers t = .testReset → s.status ≠ .reset)
      (hflush : s.framers t ≠ .flush)
      (hstatus : s'.status = s.status ∨ s'.status = .sysError)
  /-- It leaves the loop, by one of the two tests or after the rest frame. -/
  | leave (hpc : (s.framers t).hasLeft = false) (hpc' : s'.framers t = .exit)
      (hwhy : (s.framers t = .testIdle ∧ s.status = .idle) ∨
        (s.framers t = .testReset ∧ s.status = .reset) ∨ s.framers t = .flush)
      (hstatus : s'.status = s.status)
  /-- It has left the loop. -/
  | outside (hpc : (s.framers t).hasLeft = true) (hpc' : (s'.framers t).hasLeft = true)
      (hstatus : s'.status = s.status ∨ s'.status = .stopping ∨
        (s.framers t = .setIdle ∧ s'.status = .idle))

section Turn

variable [Inhabited α] {s s' : State α} {t : ℕ}

omit [Inhabited α] in
theorem State.framerTo_self (s : State α) (t : ℕ) (pc : FramerPc α) :
    (s.framerTo t pc).framers t = pc := Function.update_self ..

/-- Inside `SiDaqStop` the thread stays outside of its loop. -/
private theorem framerStep_stop_turn {pc : StopPc} (hpc : s.framers t = .stop pc)
    (h : framerStep s t = some s') : FramerTurn s t s' := by
  have hleft : (s.framers t).hasLeft = true := by
    rw [hpc]
    rfl
  have hstatus : (stopStep s pc).1.status = s.status ∨ (stopStep s pc).1.status = .stopping := by
    cases pc <;> simp [stopStep, State.closeSocket]
  simp only [framerStep, hpc] at h
  rcases hstop : stopStep s pc with ⟨s₁, pc₁ | ok⟩ <;> rw [hstop] at h hstatus <;>
    (obtain rfl := Option.some.inj h
     refine .outside hleft (by rw [State.framerTo_self]; rfl) ?_
     rcases hstatus with hsame | hstopping
     · exact Or.inl hsame
     · exact Or.inr (Or.inl hstopping))

omit [Inhabited α] in
/-- A step from one position in the loop to another that is not a test. -/
private theorem FramerTurn.go {pc' : FramerPc α} (hpc : (s.framers t).hasLeft = false)
    (hplain : s.framers t ≠ .start ∧ s.framers t ≠ .testIdle ∧ s.framers t ≠ .testReset ∧
      s.framers t ≠ .flush)
    (hframers : s'.framers = Function.update s.framers t pc') (hpc' : pc'.hasLeft = false)
    (hstatus : s'.status = s.status ∨ s'.status = .sysError) : FramerTurn s t s' := by
  have hself : s'.framers t = pc' := by rw [hframers, Function.update_self]
  exact .inside hpc (by rw [hself]; exact hpc') (fun h => absurd h hplain.1)
    (fun h => absurd h hplain.2.1) (fun h => absurd h hplain.2.2.1) hplain.2.2.2 hstatus

/-- **A framer thread leaves its loop in one of three ways, and then stays outside.** -/
theorem framerStep_turn (h : framerStep s t = some s') : FramerTurn s t s' := by
  cases hpc : s.framers t with
  | off => simp [framerStep, hpc] at h
  | stop pc => exact framerStep_stop_turn hpc h
  | start =>
    simp only [framerStep, hpc] at h
    obtain ⟨fr, hfr, rfl⟩ := Option.map_eq_some_iff.mp h
    have hself : (s.framerTo t .testIdle).framers t = .testIdle := s.framerTo_self t _
    exact .inside (by rw [hpc]; rfl) (by dsimp only; rw [hself]; rfl) (fun _ => hself)
      (by simp [hpc]) (by simp [hpc]) (by simp [hpc]) (Or.inl rfl)
  | testIdle =>
    simp only [framerStep, hpc, Option.some.injEq] at h
    subst h
    by_cases hidle : s.status = .idle
    · rw [if_pos hidle]
      exact .leave (by rw [hpc]; rfl) (s.framerTo_self t _) (Or.inl ⟨hpc, hidle⟩) rfl
    · rw [if_neg hidle]
      exact .inside (by rw [hpc]; rfl) (by rw [State.framerTo_self]; rfl) (by simp [hpc])
        (fun _ => ⟨hidle, s.framerTo_self t _⟩) (by simp [hpc]) (by simp [hpc]) (Or.inl rfl)
  | testReset =>
    simp only [framerStep, hpc, Option.some.injEq] at h
    subst h
    by_cases hreset : s.status = .reset
    · rw [if_pos hreset]
      exact .leave (by rw [hpc]; rfl) (s.framerTo_self t _) (Or.inr (Or.inl ⟨hpc, hreset⟩)) rfl
    · rw [if_neg hreset]
      exact .inside (by rw [hpc]; rfl) (by rw [State.framerTo_self]; rfl) (by simp [hpc])
        (by simp [hpc]) (fun _ => hreset) (by simp [hpc]) (Or.inl rfl)
  | flush =>
    simp only [framerStep, hpc] at h
    obtain ⟨fr, hfr, rfl⟩ := Option.map_eq_some_iff.mp h
    unfold flushStep
    split <;> exact .leave (by rw [hpc]; rfl) (s.framerTo_self t _) (Or.inr (Or.inr hpc)) rfl
  | get =>
    simp only [framerStep, hpc] at h
    split at h <;>
      (obtain rfl := Option.some.inj h
       exact .go (by rw [hpc]; rfl) (by simp [hpc]) rfl rfl (Or.inl rfl))
  | recv c =>
    simp only [framerStep, hpc] at h
    obtain ⟨fr, hfr, h⟩ := Option.bind_eq_some_iff.mp h
    obtain ⟨o, ho, rfl⟩ := Option.map_eq_some_iff.mp h
    exact .go (by rw [hpc]; rfl) (by simp [hpc]) rfl rfl (Or.inl rfl)
  | checkError =>
    simp only [framerStep, hpc] at h
    obtain ⟨fr, hfr, rfl⟩ := Option.map_eq_some_iff.mp h
    unfold checkErrorStep
    split
    · split
      · exact .go (by rw [hpc]; rfl) (by simp [hpc]) rfl rfl (Or.inl rfl)
      · split <;> exact .go (by rw [hpc]; rfl) (by simp [hpc]) rfl rfl (Or.inl rfl)
    · exact .go (by rw [hpc]; rfl) (by simp [hpc]) rfl rfl (Or.inl rfl)
  | testQueueError =>
    simp only [framerStep, hpc] at h
    obtain ⟨fr, hfr, rfl⟩ := Option.map_eq_some_iff.mp h
    split <;> exact .go (by rw [hpc]; rfl) (by simp [hpc]) rfl rfl (Or.inl rfl)
  | setError =>
    simp only [framerStep, hpc] at h
    obtain ⟨fr, hfr, rfl⟩ := Option.map_eq_some_iff.mp h
    exact .go (by rw [hpc]; rfl) (by simp [hpc]) rfl rfl (Or.inl rfl)
  | sysError | queueSysError atEnd =>
    simp only [framerStep, hpc, Option.some.injEq] at h
    subst h
    exact .go (by rw [hpc]; rfl) (by simp [hpc]) rfl rfl (Or.inr rfl)
  | clearRun | wait | close | clearSocket =>
    simp only [framerStep, hpc, Option.some.injEq] at h
    subst h
    exact .go (by rw [hpc]; rfl) (by simp [hpc]) rfl rfl (Or.inl rfl)
  | empty | testSocket | setQueueError atEnd =>
    simp only [framerStep, hpc, Option.some.injEq] at h
    subst h
    refine .go (by rw [hpc]; rfl) (by simp [hpc]) rfl ?_ (Or.inl rfl)
    split <;> rfl
  | exit =>
    simp only [framerStep, hpc] at h
    obtain ⟨fr, hfr, rfl⟩ := Option.map_eq_some_iff.mp h
    refine .outside (by rw [hpc]; rfl) ?_ (Or.inl rfl)
    rw [State.framerTo_self]
    split <;> rfl
  | testExitReset =>
    simp only [framerStep, hpc, Option.some.injEq] at h
    subst h
    refine .outside (by rw [hpc]; rfl) ?_ (Or.inl rfl)
    rw [State.framerTo_self]
    split <;> rfl
  | setIdle =>
    simp only [framerStep, hpc, Option.some.injEq] at h
    subst h
    exact .outside (by rw [hpc]; rfl) (by dsimp only; rw [State.framerTo_self]; rfl)
      (Or.inr (Or.inr ⟨hpc, rfl⟩))

end Turn

/-! ## The application -/

/-- Inside `SiDaqRun`, before it creates the socket thread. -/
def ApiPc.isConnecting : ApiPc α → Bool
  | .runBegin _ | .runSocket _ | .runAddress _ _ | .runConnect _ _ | .runSockopt _ _
  | .runSetSocket _ _ | .runSetRun _ | .runSetParam _ | .runCreateSock _ => true
  | _ => false

/-- The arguments of the `SiDaqRun` in progress, up to the configuration of the framer. -/
def ApiPc.runParams : ApiPc α → Option (RunParams α)
  | .runBegin p | .runSocket p | .runAddress p _ | .runConnect p _ | .runSockopt p _
  | .runSetSocket p _ | .runSetRun p | .runSetParam p | .runCreateSock p | .runConfigure p =>
    some p
  | _ => none

/-- Inside `SiDaqRun`, before it creates the framer thread. -/
def ApiPc.isStarting : ApiPc α → Bool
  | .runCreateFramer => true
  | pc => pc.runParams.isSome

/-- Inside `SiDaqResetQueue`. -/
def ApiPc.resets : ApiPc α → Bool
  | .resetRead | .resetSet _ | .resetRecv _ | .resetEvent _ | .resetRestore _ => true
  | _ => false

theorem ApiPc.isStarting_of_isConnecting {pc : ApiPc α} (h : pc.isConnecting) : pc.isStarting := by
  cases pc <;> first | rfl | simp [ApiPc.isConnecting] at h

theorem ApiPc.isStarting_of_runParams {pc : ApiPc α} {q : RunParams α}
    (h : pc.runParams = some q) : pc.isStarting := by
  cases pc <;> first | rfl | simp [ApiPc.runParams] at h

theorem ApiPc.not_resets_of_isConnecting {pc : ApiPc α} (h : pc.isConnecting) :
    pc.resets = false := by
  cases pc <;> first | rfl | simp [ApiPc.isConnecting] at h

/-- The steps into and through `SiDaqResetQueue` that delete nothing. -/
inductive ResetNext (s : State α) : ApiPc α → Prop
  | read (status : SiDaqStatus) (hapi : s.api = .resetRead)
      (hstatus : s.status = .stopping ∨ s.status = .sysError) : ResetNext s (.resetSet status)
  | set (status : SiDaqStatus) (hapi : s.api = .resetSet status) : ResetNext s (.resetRecv status)
  | recv (status : SiDaqStatus) (hapi : s.api = .resetRecv status) (hempty : s.recvQueue = []) :
      ResetNext s (.resetEvent status)
  | event (status : SiDaqStatus) (hapi : s.api = .resetEvent status)
      (hempty : s.eventFrame = []) : ResetNext s (.resetRestore status)

/-- What a step of an API call does to the bytes and the threads. -/
inductive ApiMove [Inhabited α] (s s' : State α) : Prop
  /-- Nothing, and the call is not in the middle of a start or a reset afterwards. -/
  | quiet (pc : ApiPc α) (status : SiDaqStatus) (code : SiDaqErrorCode) (message : String)
      (param : SockThreadLparam) (sockets : Sockets)
      (heq : s' = { s with
        api := pc, status := status, errorCode := code, errorMessage := message,
        sockParam := param, sockets := sockets })
      (hfrom : s.api.isStarting → s.api.isConnecting) (hpc : pc.isStarting = false)
      (hreset : pc.resets = false)
      (hstatus : status = s.status ∨ (status ≠ .idle ∧ status ≠ .reset) ∨ s.api.resets)
  /-- `SiDaqRun` goes on towards its threads. -/
  | connect (pc : ApiPc α) (code : SiDaqErrorCode) (message : String) (param : SockThreadLparam)
      (sockets : Sockets)
      (heq : s' = { s with
        api := pc, errorCode := code, errorMessage := message, sockParam := param,
        sockets := sockets })
      (hapi : s.api.isConnecting) (hpc : pc.isConnecting) (hparams : pc.runParams = s.api.runParams)
  /-- `SiDaqRun` creates the socket thread. -/
  | sock (p : RunParams α) (t : ℕ) (hapi : s.api = .runCreateSock p) (hfree : ¬ s.SockAlive t)
      (heq : s' = (s.apiTo (.runConfigure p)).setSock t ⟨.start, none, 0⟩)
  /-- `SiDaqRun` configures the framer. -/
  | configure (p : RunParams α) (hapi : s.api = .runConfigure p)
      (heq : s' = { s.apiTo .runCreateFramer with
        framer := some ((s.framer.getD newSiDaqFramer).configure p.framing) })
  /-- `SiDaqRun` creates the framer thread. -/
  | framer (t : ℕ) (hapi : s.api = .runCreateFramer) (hfree : ¬ s.FramerAlive t)
      (heq : s' = (s.apiTo .runSetStatus).framerTo t .start)
  /-- `SiDaqResetQueue` goes on. -/
  | reset (pc : ApiPc α) (status : SiDaqStatus) (hnext : ResetNext s pc)
      (heq : s' = { s.apiTo pc with status := status })
  /-- `SiDaqResetQueue` deletes a chunk. -/
  | dropRecv (status : SiDaqStatus) (c : Chunk α) (cs : List (Chunk α))
      (hapi : s.api = .resetRecv status) (hqueue : s.recvQueue = c :: cs)
      (heq : s' = { s with recvQueue := cs })
  /-- `SiDaqResetQueue` deletes a frame. -/
  | dropEvent (status : SiDaqStatus) (f : List α) (fs : List (List α))
      (hapi : s.api = .resetEvent status) (hqueue : s.eventFrame = f :: fs)
      (heq : s' = { s with eventFrame := fs })

section Api

variable [Inhabited α] {s s' : State α}

/-- The socket calls of `SiDaqRun` lead on towards its threads, or to its failure. -/
private theorem connectStep_move (ans : ApiAnswer) (hapi : s.api.isConnecting)
    (h : connectStep s ans s.api = some s') : ApiMove s s' := by
  have hfail : ∀ e, ApiMove s (s.apiTo (.runFail e)) :=
    fun e => .quiet _ _ _ _ _ _ rfl (fun _ => hapi) rfl rfl (Or.inl rfl)
  have hconnect : ∀ p pc sockets, s.api.runParams = some p → pc.isConnecting = true →
      pc.runParams = some p → ApiMove s { s.apiTo pc with sockets := sockets } :=
    fun p pc sockets hp hpc hparams => .connect pc _ _ _ _ rfl hapi hpc (hparams.trans hp.symm)
  unfold connectStep at h
  split at h
  · rename_i p heq
    split at h <;> obtain rfl := Option.some.inj h
    · exact hfail _
    · exact hconnect p (.runAddress p _) _ (by rw [heq]; rfl) rfl rfl
  · rename_i p hd heq
    split at h <;> obtain rfl := Option.some.inj h
    · exact hfail _
    · exact hfail _
    · exact hconnect p (.runConnect p hd) s.sockets (by rw [heq]; rfl) rfl rfl
  · rename_i p hd heq
    have hnext : ApiMove s (s.apiTo (.runSockopt p hd)) :=
      hconnect p (.runSockopt p hd) s.sockets (by rw [heq]; rfl) rfl rfl
    split at h
    · split at h <;> obtain rfl := Option.some.inj h
      · exact hnext
      · exact hfail _
    · obtain rfl := Option.some.inj h
      exact hnext
  · rename_i p hd heq
    have hnext : ApiMove s (s.apiTo (.runSetSocket p hd)) :=
      hconnect p (.runSetSocket p hd) s.sockets (by rw [heq]; rfl) rfl rfl
    split at h
    · split at h <;> obtain rfl := Option.some.inj h
      · exact hfail _
      · exact hnext
    · obtain rfl := Option.some.inj h
      exact hnext
  · simp at h

/-- **Every step of an API call does one of these things.** -/
theorem apiStep_move {ans : ApiAnswer} (h : apiStep s ans = some s') : ApiMove s s' := by
  have hother : ∀ pc : ApiPc α, pc.isStarting = false → s.api = pc →
      s.api.isStarting = true → s.api.isConnecting = true := by
    intro pc hpc hapi hstarting
    simp [hapi, hpc] at hstarting
  cases hapi : s.api with
  | returned r => simp [apiStep, hapi] at h
  | deleting => simp [apiStep, hapi] at h
  | runSocket p | runAddress p hd | runConnect p hd | runSockopt p hd =>
    refine connectStep_move ans (by rw [hapi]; rfl) ?_
    simpa only [apiStep, hapi] using h
  | runBegin p =>
    simp only [apiStep, hapi] at h
    split at h <;> obtain rfl := Option.some.inj h
    · exact .quiet _ _ _ _ _ _ rfl (fun _ => by rw [hapi]; rfl) rfl rfl (Or.inl rfl)
    · exact .connect _ _ _ _ _ rfl (by rw [hapi]; rfl) rfl (by rw [hapi]; rfl)
  | runSetSocket p hd | runSetRun p | runSetParam p =>
    simp only [apiStep, hapi] at h
    exact .connect _ _ _ _ _ (Option.some.inj h).symm (by rw [hapi]; rfl) rfl (by rw [hapi]; rfl)
  | runCreateSock p =>
    simp only [apiStep, hapi] at h
    split at h
    · rename_i t
      split at h
      · rename_i hoff
        exact .sock p t hapi (by simp [State.SockAlive, hoff]) (Option.some.inj h).symm
      · simp at h
    · simp at h
  | runConfigure p =>
    simp only [apiStep, hapi] at h
    exact .configure p hapi (Option.some.inj h).symm
  | runCreateFramer =>
    simp only [apiStep, hapi] at h
    split at h
    · rename_i t
      split at h
      · rename_i hoff
        exact .framer t hapi (by simp [State.FramerAlive, hoff]) (Option.some.inj h).symm
      · simp at h
    · simp at h
  | runFail e | runReturn =>
    simp only [apiStep, hapi] at h
    exact .quiet _ _ _ _ _ _ (Option.some.inj h).symm (hother _ rfl hapi) rfl rfl (Or.inl rfl)
  | runFailStatus | runSetStatus =>
    simp only [apiStep, hapi] at h
    exact .quiet _ _ _ _ _ _ (Option.some.inj h).symm (hother _ rfl hapi) rfl rfl
      (Or.inr (Or.inl (by simp)))
  | stop pc | terminate pc =>
    simp only [apiStep, hapi] at h
    have hstatus : (stopStep s pc).1.status = s.status ∨ (stopStep s pc).1.status = .stopping := by
      cases pc <;> simp [stopStep, State.closeSocket]
    obtain ⟨_, _, _, heq⟩ := stopStep_change s pc
    rcases hstop : stopStep s pc with ⟨s₁, pc₁ | ok⟩ <;> rw [hstop] at h heq hstatus <;>
      (subst heq
       refine .quiet _ _ _ _ _ _ (Option.some.inj h).symm (hother _ rfl hapi) rfl rfl ?_
       rcases hstatus with hsame | hstopping
       · exact Or.inl hsame
       · exact Or.inr (Or.inl (by simp at hstopping; simp [hstopping])))
  | resetRead =>
    simp only [apiStep, hapi, Option.some.injEq] at h
    subst h
    by_cases hstatus : s.status = .stopping ∨ s.status = .sysError
    · rw [if_pos hstatus]
      exact .reset _ s.status (.read _ hapi hstatus) rfl
    · rw [if_neg hstatus]
      exact .quiet _ _ _ _ _ _ rfl (hother _ rfl hapi) rfl rfl (Or.inl rfl)
  | resetSet status =>
    simp only [apiStep, hapi] at h
    exact .reset _ _ (.set status hapi) (Option.some.inj h).symm
  | resetRecv status =>
    simp only [apiStep, hapi] at h
    split at h
    · rename_i hempty
      exact .reset _ s.status (.recv status hapi hempty) (Option.some.inj h).symm
    · rename_i c cs hqueue
      exact .dropRecv status c cs hapi hqueue (by rw [← Option.some.inj h, ← hapi])
  | resetEvent status =>
    simp only [apiStep, hapi] at h
    split at h
    · rename_i hempty
      exact .reset _ s.status (.event status hapi hempty) (Option.some.inj h).symm
    · rename_i f fs hqueue
      exact .dropEvent status f fs hapi hqueue (by rw [← Option.some.inj h, ← hapi])
  | resetRestore status =>
    simp only [apiStep, hapi] at h
    exact .quiet _ _ _ _ _ _ (Option.some.inj h).symm (hother _ rfl hapi) rfl rfl
      (Or.inr (Or.inr (by rw [hapi]; rfl)))

end Api

end SiDaqApi
