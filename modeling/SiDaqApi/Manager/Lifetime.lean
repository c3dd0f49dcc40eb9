import SiDaqApi.Manager.Flow

/-!
# The life of a manager

Over all its runs, a manager has no byte twice and none that it did not receive: the frames that the
consumer got, the event queue, the carry-over, the hands of the threads and the receive queue
together are a part of what was received, in the order of its arrival. Bytes only get lost, by a
reset or at the limit of a queue. Two things are needed for this: one run at a time, and a framer
that carries nothing when `SiDaqRun` configures it.
-/

namespace SiDaqApi

open Machine
open scoped List

variable {α : Type*}

/-- `SiDaqRun` gets to start a thread only when no thread of that kind is alive, and to configure
only a framer that carries nothing, for frames that it can keep whole. -/
def StartsAnew (s : State α) (a : Act α) : Prop :=
  StartsAlone s a ∧
    ∀ ans p, a = .api ans → s.api = .runConfigure p →
      s.CarriesNothing ∧ p.framing.Fits ∧ p.framing.headerLen.toNat ≤ 2

/-- The bytes between the receive queue and the consumer, the oldest ones first. -/
def State.between (s : State α) (k : ℕ) : List α :=
  s.eventFrame.flatten ++ s.restBytes ++ (s.framers k).hand ++ stream s.recvQueue

/-- The manager has its bytes in the order in which they were received. -/
structure State.Ordered (s : State α) (j k : ℕ) : Prop where
  socks : ∀ t, t ≠ j → (s.socks t).pc = .off
  framers : ∀ t, t ≠ k → s.framers t = .off
  ready : ∀ fr, s.framer = some fr → Ready fr
  frames : s.got ++ s.eventFrame <+ s.framed
  bytes : s.got.flatten ++ s.between k ++ (s.socks j).pc.hand <+ stream s.received

theorem State.ordered_init : (State.init : State α).Ordered 0 0 where
  socks := fun _ _ => rfl
  framers := fun _ _ => rfl
  ready := fun fr hfr => by simp [State.init] at hfr
  frames := List.Sublist.refl _
  bytes := List.Sublist.refl _

section Ordered

variable {s s' : State α} {j k t : ℕ}

theorem State.Ordered.sock_eq (h : s.Ordered j k) (halive : s.SockAlive t) : t = j := by
  by_contra hne
  exact halive (h.socks t hne)

theorem State.Ordered.framer_eq (h : s.Ordered j k) (halive : s.FramerAlive t) : t = k := by
  by_contra hne
  exact halive (h.framers t hne)

/-- A step of a socket thread. -/
theorem State.Ordered.sock (h : s.Ordered j k) {ans : SockAnswer α}
    (hstep : sockStep s t ans = some s') : s'.Ordered j k := by
  obtain rfl := h.sock_eq (sockStep_change hstep).1
  have hbytes := h.bytes
  have hothers : ∀ th u, u ≠ t → ((s.setSock t th).socks u).pc = .off := fun th u hu => by
    simpa [State.setSock, Function.update_of_ne hu] using h.socks u hu
  rcases sockStep_move hstep with ⟨th, param, sockets, rfl, hpc, hpc', -⟩ | ⟨c, hpc, -, rfl⟩ |
    ⟨c, hpc, rfl⟩
  · refine { h with socks := hothers th, bytes := ?_ }
    rw [hpc] at hbytes
    show s.got.flatten ++ s.between k ++ (Function.update s.socks t th t).pc.hand <+ _
    rw [Function.update_self, hpc']
    exact hbytes
  · -- a received chunk comes after all others
    refine { h with socks := hothers _, bytes := ?_ }
    rw [hpc] at hbytes
    simp only [SockPc.hand, List.append_nil] at hbytes
    show s.got.flatten ++ s.between k ++ (Function.update s.socks t _ t).pc.hand <+
      stream (s.received ++ [c])
    rw [stream_snoc, Function.update_self]
    exact hbytes.append (List.Sublist.refl c.bytes)
  · -- the chunk goes to the end of the receive queue
    refine { h with socks := hothers _, bytes := ?_ }
    rw [hpc] at hbytes
    show s.got.flatten ++ (s.eventFrame.flatten ++ s.restBytes ++ (s.framers k).hand ++
      stream (s.recvQueue ++ [c])) ++ (Function.update s.socks t _ t).pc.hand <+ stream s.received
    rw [stream_snoc, Function.update_self]
    simpa [State.between, SockPc.hand] using hbytes

/-- A step that leaves the socket threads and the consumer alone, and moves bytes towards it. -/
theorem State.Ordered.of_between (h : s.Ordered j k) {k' : ℕ} (hsocks : s'.socks = s.socks)
    (hgot : s'.got = s.got) (hreceived : s'.received = s.received)
    (hframers : ∀ t, t ≠ k' → s'.framers t = .off) (hready : ∀ fr, s'.framer = some fr → Ready fr)
    (hframes : s'.got ++ s'.eventFrame <+ s'.framed) (hbetween : s'.between k' <+ s.between k) :
    s'.Ordered j k' where
  socks := by rw [hsocks]; exact h.socks
  framers := hframers
  ready := hready
  frames := hframes
  bytes := by
    rw [hgot, hsocks, hreceived]
    refine List.Sublist.trans ?_ h.bytes
    exact ((List.Sublist.refl _).append hbetween).append (List.Sublist.refl _)

variable [Inhabited α]

/-- A step of a framer thread. -/
theorem State.Ordered.framer (h : s.Ordered j k) (hstep : framerStep s t = some s') :
    s'.Ordered j k := by
  obtain rfl := h.framer_eq (framerStep_change hstep).1
  have hothers : ∀ pc u, u ≠ t → Function.update s.framers t pc u = .off := fun pc u hu => by
    rw [Function.update_of_ne hu]
    exact h.framers u hu
  rcases framerStep_move hstep with
    ⟨pc, status, code, message, param, framer, sockets, rfl, hpc, hpc', hcarry, -⟩ |
    ⟨c, cs, hpc, hqueue, rfl⟩ | ⟨c, fr, o, hpc, hfr, hcall, rfl⟩ | ⟨fr, hpc, hfr, hrest, rfl⟩
  · refine h.of_between rfl rfl rfl (hothers pc) (fun fr' hfr' => ?_) h.frames ?_
    · obtain ⟨fr, hfr, hsame⟩ := hcarry.exists_some hfr'
      exact (h.ready fr hfr).of_carry hsame
    · simp only [State.between, State.framerTo, Function.update_self, hpc, hpc']
      rw [SameCarry.restBytes hcarry]
  · -- a chunk goes from the queue to the hand
    refine h.of_between rfl rfl rfl (hothers _) h.ready h.frames ?_
    simp [State.between, State.framerTo, State.restBytes, hpc, hqueue, FramerPc.hand, stream_cons]
  · -- the chunk becomes frames and carry-over, but for what is lost at the limit
    obtain ⟨frames, hque, hpre, -⟩ := recvSiDaqData_adds (h.ready fr hfr) c.fits hcall
    have hnew : o.que.drop s.eventFrame.length = frames := by rw [hque, List.drop_left]
    refine h.of_between rfl rfl rfl (hothers _) (fun fr' hfr' => ?_) ?_ ?_
    · obtain rfl := Option.some.inj hfr'
      exact (recvSiDaqData_conserves (h.ready fr hfr) c.fits hcall).1
    · show s.got ++ o.que <+ s.framed ++ o.que.drop s.eventFrame.length
      rw [hnew, hque, ← List.append_assoc]
      exact h.frames.append (List.Sublist.refl frames)
    · show o.que.flatten ++ o.framer.restBytes ++ (Function.update s.framers t _ t).hand ++
        stream s.recvQueue <+ _
      rw [Function.update_self, hque, List.flatten_append, List.append_assoc s.eventFrame.flatten]
      simp only [State.between, s.restBytes_of_some hfr, hpc, FramerPc.hand, List.append_nil]
      rw [List.append_assoc s.eventFrame.flatten fr.restBytes]
      exact ((List.Sublist.refl _).append hpre.sublist).append (List.Sublist.refl _)
  · -- the carry-over becomes a frame
    refine h.of_between rfl rfl rfl (hothers _) (fun fr' hfr' => ?_) ?_ ?_
    · obtain rfl := Option.some.inj hfr'
      exact .of_rest_eq_zero ((h.ready fr hfr).toSound.congr rfl rfl rfl rfl rfl) rfl
    · show s.got ++ (s.eventFrame ++ [fr.restBytes]) <+ s.framed ++ [fr.restBytes]
      rw [← List.append_assoc]
      exact h.frames.append (List.Sublist.refl _)
    · have hnothing : ({ fr with rest := 0 } : SiDaqFramer α).restBytes = [] :=
        SiDaqFramer.restBytes_of_rest_eq_zero rfl
      simp [State.between, State.framerTo, State.restBytes, hpc, hfr, hnothing, FramerPc.hand]

/-- A step of an API call; it may start a thread. -/
theorem State.Ordered.api (h : s.Ordered j k) {ans : ApiAnswer} (hguard : StartsAnew s (.api ans))
    (hstep : apiStep s ans = some s') : ∃ j' k', s'.Ordered j' k' := by
  rcases apiStep_move hstep with
    ⟨pc, status, code, message, param, sockets, rfl, -⟩ |
    ⟨pc, code, message, param, sockets, rfl, -⟩ | ⟨p, t, hapi, -, rfl⟩ |
    ⟨p, hapi, rfl⟩ | ⟨t, hapi, -, rfl⟩ | ⟨pc, status, -, rfl⟩ |
    ⟨status, c, cs, -, hqueue, rfl⟩ | ⟨status, f, fs, -, hqueue, rfl⟩
  · exact ⟨j, k, { h with }⟩
  · exact ⟨j, k, { h with }⟩
  · -- the new socket thread is the only one
    have hoff : ∀ u, (s.socks u).pc = .off := fun u => not_not.mp ((hguard.1 ans rfl).1 p hapi u)
    have hbytes := h.bytes
    rw [hoff j] at hbytes
    refine ⟨t, k, { h with socks := fun u hu => ?_, bytes := ?_ }⟩
    · show (Function.update s.socks t _ u).pc = .off
      rw [Function.update_of_ne hu]
      exact hoff u
    · show s.got.flatten ++ s.between k ++ (Function.update s.socks t _ t).pc.hand <+ _
      rw [Function.update_self]
      exact hbytes
  · -- the framer that is configured carries nothing, before and after
    obtain ⟨hnothing, hfits, htwo⟩ := hguard.2 ans p rfl hapi
    obtain ⟨hrest, hready⟩ :=
      ready_configure hfits htwo hnothing fun fr hfr => (h.ready fr hfr).size
    refine ⟨j, k, h.of_between rfl rfl rfl h.framers (fun fr hfr => ?_) h.frames ?_⟩
    · obtain rfl := Option.some.inj hfr
      exact hready
    · have hempty : ((s.framer.getD newSiDaqFramer).configure p.framing).restBytes = [] :=
        SiDaqFramer.restBytes_of_rest_eq_zero hrest
      show s.eventFrame.flatten ++ ((s.framer.getD newSiDaqFramer).configure p.framing).restBytes ++
        (s.framers k).hand ++ stream s.recvQueue <+ _
      rw [State.between, hnothing.restBytes, hempty]
  · -- the new framer thread is the only one
    have hoff : ∀ u, s.framers u = .off := fun u => not_not.mp ((hguard.1 ans rfl).2 hapi u)
    refine ⟨j, t, h.of_between rfl rfl rfl (fun u hu => ?_) h.ready h.frames ?_⟩
    · show Function.update s.framers t _ u = .off
      rw [Function.update_of_ne hu]
      exact hoff u
    · simp [State.between, State.framerTo, State.apiTo, State.restBytes, hoff k, FramerPc.hand]
  · exact ⟨j, k, { h with }⟩
  · -- a chunk is deleted
    refine ⟨j, k, h.of_between rfl rfl rfl h.framers h.ready h.frames ?_⟩
    show s.eventFrame.flatten ++ s.restBytes ++ (s.framers k).hand ++ stream cs <+ _
    rw [State.between, hqueue, stream_cons]
    exact (List.Sublist.refl _).append (List.sublist_append_right _ _)
  · -- a frame is deleted
    refine ⟨j, k, h.of_between rfl rfl rfl h.framers h.ready ?_ ?_⟩
    · refine List.Sublist.trans ?_ h.frames
      rw [hqueue]
      exact (List.Sublist.refl _).append (List.sublist_cons_self f fs)
    · show fs.flatten ++ s.restBytes ++ (s.framers k).hand ++ stream s.recvQueue <+ _
      rw [State.between, hqueue, List.flatten_cons]
      exact (((List.sublist_append_right _ _).append (List.Sublist.refl _)).append
        (List.Sublist.refl _)).append (List.Sublist.refl _)

/-- A step of the manager. -/
theorem State.Ordered.act (h : s.Ordered j k) {a : Act α} (hguard : StartsAnew s a)
    (hstep : step s a = some s') : ∃ j' k', s'.Ordered j' k' := by
  cases a with
  | sock t ans => exact ⟨j, k, h.sock hstep⟩
  | framer t => exact ⟨j, k, h.framer hstep⟩
  | api ans => exact h.api hguard hstep
  | callRun p | callStop | callTerminate | callReset =>
    obtain ⟨r, -, rfl⟩ := callStep_begins hstep
    exact ⟨j, k, { h with }⟩
  | getData =>
    -- the oldest frame goes to the consumer
    obtain ⟨f, fs, hqueue, rfl⟩ := getData_takes hstep
    have hframes := h.frames
    have hbytes := h.bytes
    rw [hqueue] at hframes
    rw [State.between, hqueue] at hbytes
    refine ⟨j, k, { h with frames := ?_, bytes := ?_ }⟩
    · simpa using hframes
    · simpa [State.between, State.restBytes] using hbytes
  | pause | resume =>
    simp only [step, Option.some.injEq] at hstep
    subst hstep
    exact ⟨j, k, { h with }⟩

/-- **A manager has no byte twice and makes none up, in its whole life**: whatever runs, stops,
errors and resets there are, the frames that the consumer got, the event queue, the carry-over, the
hand of the framer thread, the receive queue and the hand of the socket thread together are a part
of what was received, in its order; and the frames are frames that were made, in their order. -/
theorem lifetime_in_order {acts : List (Act α)} (hguard : Guarded step StartsAnew State.init acts)
    (hrun : run step State.init acts = some s) :
    ∃ j k, (∀ t, s.SockAlive t → t = j) ∧ (∀ t, s.FramerAlive t → t = k) ∧
      (s.got ++ s.eventFrame).flatten ++ s.restBytes ++ (s.framers k).hand ++ stream s.recvQueue ++
        (s.socks j).pc.hand <+ stream s.received ∧
      s.got ++ s.eventFrame <+ s.framed := by
  obtain ⟨j, k, h⟩ : ∃ j k, s.Ordered j k :=
    run_invariant_of_guarded (I := fun s => ∃ j k, s.Ordered j k)
      (fun _ _ _ ⟨_, _, h⟩ hguard hstep => h.act hguard hstep) ⟨0, 0, State.ordered_init⟩
      hguard hrun
  refine ⟨j, k, fun t ht => h.sock_eq ht, fun t ht => h.framer_eq ht, ?_, h.frames⟩
  simpa [State.between] using h.bytes

end Ordered

/-- The action is not one that `StartsAnew` is about. -/
def startsNothing (s : State α) : Act α → Bool
  | .api _ =>
    match s.api with
    | .runCreateSock _ | .runConfigure _ | .runCreateFramer => false
    | _ => true
  | _ => true

theorem StartsAnew.of_startsNothing (s : State α) (a : Act α) (h : startsNothing s a = true) :
    StartsAnew s a := by
  refine ⟨fun ans ha => ⟨fun p hapi => ?_, fun hapi => ?_⟩, fun ans p ha hapi => ?_⟩ <;>
    simp [ha, startsNothing, hapi] at h

/-- `SiDaqRun` is about to create the socket thread. -/
def untilCreateSock : List (Act UInt8) := (runCall byteHeader.toRunParams 0 0).take 9

/-- The end of `SiDaqRun`; a frame is received and taken by the consumer, and a chunk is deleted by
`SiDaqResetQueue`. -/
def takeThenReset : List (Act UInt8) :=
  List.replicate 2 (.api .ok) ++ recvActs 0 (.of [2, 5, 8]) ++ List.replicate 6 (.framer 0) ++
    [.getData, .sock 0 .ok, .sock 0 .ok, .sock 0 (.data (.of [1, 6])), .sock 0 .ok, .callStop] ++
    List.replicate 6 (.api .ok) ++ [.callReset] ++ List.replicate 6 (.api .ok)

theorem takeThenReset_in_order :
    ∃ s, run step State.init
        (untilCreateSock ++ .api (.thread 0) :: .api .ok :: .api (.thread 0) :: takeThenReset) =
          some s ∧
      s.got = [[2, 5, 8]] ∧ stream s.received = [2, 5, 8, 1, 6] ∧
      ∃ j k, (∀ t, s.SockAlive t → t = j) ∧ (∀ t, s.FramerAlive t → t = k) ∧
        (s.got ++ s.eventFrame).flatten ++ s.restBytes ++ (s.framers k).hand ++
          stream s.recvQueue ++ (s.socks j).pc.hand <+ stream s.received ∧
        s.got ++ s.eventFrame <+ s.framed := by
  have hguard : Guarded step StartsAnew State.init
      (untilCreateSock ++ .api (.thread 0) :: .api .ok :: .api (.thread 0) :: takeThenReset) := by
    refine (guarded_append rfl).mpr
      ⟨guarded_of_guardedBool StartsAnew.of_startsNothing (by decide), ?_⟩
    refine (guarded_cons rfl).mpr ⟨?_, (guarded_cons rfl).mpr ⟨?_, (guarded_cons rfl).mpr ⟨?_, ?_⟩⟩⟩
    · exact ⟨fun _ _ => ⟨fun _ _ t ht => ht rfl, fun hapi => (nomatch hapi)⟩,
        fun _ _ _ hapi => (nomatch hapi)⟩
    · refine ⟨fun _ _ => ⟨fun _ hapi => (nomatch hapi), fun hapi => (nomatch hapi)⟩,
        fun _ p _ hapi => ?_⟩
      obtain rfl := ApiPc.runConfigure.inj hapi
      exact ⟨fun fr hfr => (nomatch hfr), byteHeader_fits, by decide⟩
    · exact ⟨fun _ _ => ⟨fun _ hapi => (nomatch hapi), fun _ t ht => ht rfl⟩,
        fun _ _ _ hapi => (nomatch hapi)⟩
    · exact guarded_of_guardedBool StartsAnew.of_startsNothing (by decide)
  exact ⟨_, rfl, rfl, rfl, lifetime_in_order hguard rfl⟩

end SiDaqApi
