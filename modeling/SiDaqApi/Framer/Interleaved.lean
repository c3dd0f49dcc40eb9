import SiDaqApi.Framer.Limits
import SiDaqApi.Framer.Stream
import SiDaqApi.Lib.Refinement

/-!
# The consumer does not disturb a call

`RecvSiDaqData` puts its frames one by one, and the consumer may take frames between two of them.
The consumer takes from the head of the event queue and `RecvSiDaqData` puts at its end, so that
without a queue limit a call does what it does when nobody takes anything: a framer thread that
makes each call in one step, as `framerStep` does, shows all there is to see (`interleaved_feed`).
-/

namespace SiDaqApi

open Machine MachineInt

variable {α : Type*}

/-! ## A part of a call, on a longer queue -/

/-- The same part of the call, with another queue. -/
def Flow.onQue (f : List (List α) → List (List α)) : Flow α → Flow α
  | .done o => .done { o with que := f o.que }
  | .next l => .next { l with que := f l.que }
  | .fault => .fault

/-- Frames in front of what is in the queue. -/
def Locals.behind (l : Locals α) (taken : List (List α)) : Locals α :=
  { l with que := taken ++ l.que }

section Behind

variable [Inhabited α] {fr : SiDaqFramer α} {data : List α}

omit [Inhabited α] in
theorem not_atQueueLimit (hlimit : fr.queueLimit = 0) (count : ℤ) : ¬ fr.atQueueLimit count :=
  fun hat => hat.1 hlimit

theorem carryOver_behind (hlimit : fr.queueLimit = 0) (taken que : List (List α)) :
    carryOver fr data (taken ++ que) = (carryOver fr data que).onQue (taken ++ ·) := by
  have hcount : ∀ q : List (List α), ¬ ((q.length : ℕ) : ℤ) < 0 := fun q => by omega
  simp only [carryOver, sqPut]
  generalize (if (data.length : ℤ) < fr.buffSize - fr.rest then (data.length : ℤ)
    else fr.buffSize - fr.rest) = copyLen
  generalize buffWrite fr.buffPtr fr.rest (chunkBytes data 0 copyLen) = buff
  have hr := ((({ fr with buffPtr := buff } : SiDaqFramer α).frameLength_setup
    (buffBytes buff (fr.rest + copyLen)) (fr.rest + copyLen)).queueLimit).trans hlimit
  generalize ({ fr with buffPtr := buff } : SiDaqFramer α).frameLength
    (buffBytes buff (fr.rest + copyLen)) (fr.rest + copyLen) = r at hr ⊢
  simp only [hcount, not_atQueueLimit hr, if_false]
  by_cases hsize : fr.buffSize - fr.rest < 0
  · simp only [if_pos hsize, Flow.onQue]
  · simp only [if_neg hsize]
    by_cases hwhole : fr.rest + copyLen ≥ wrap32 (r.1 + r.2.headerLen)
    · simp only [if_pos hwhole]
      by_cases hneg : wrap32 (r.1 + r.2.headerLen) < 0
      · simp only [if_pos hneg, Flow.onQue]
      · simp only [if_neg hneg]
        split <;> simp only [Flow.onQue, List.append_assoc]
    · simp only [if_neg hwhole, Flow.onQue]

theorem loopBody_behind {l : Locals α} (hlimit : l.framer.queueLimit = 0) (taken : List (List α)) :
    loopBody data (l.behind taken) = (loopBody data l).onQue (taken ++ ·) := by
  have hcount : ∀ q : List (List α), ¬ ((q.length : ℕ) : ℤ) < 0 := fun q => by omega
  cases hread : l.readPtr with
  | none => simp only [loopBody, Locals.behind, hread, Flow.onQue]
  | some p =>
    simp only [loopBody, Locals.behind, hread, sqPut]
    have hr := (l.framer.frameLength_setup (chunkBytes data p l.dataLen) l.dataLen).queueLimit.trans
      hlimit
    generalize l.framer.frameLength (chunkBytes data p l.dataLen) l.dataLen = r at hr ⊢
    simp only [hcount, not_atQueueLimit hr, if_false]
    by_cases hshort : l.dataLen = 0 ∨ l.dataLen < l.framer.headerLen
    · simp only [if_pos hshort, Flow.onQue]
    · simp only [if_neg hshort]
      by_cases hwhole : l.dataLen ≥ wrap32 (r.1 + r.2.headerLen)
      · simp only [if_pos hwhole]
        by_cases hneg : wrap32 (r.1 + r.2.headerLen) < 0
        · simp only [if_pos hneg, Flow.onQue]
        · simp only [if_neg hneg, Flow.onQue, List.append_assoc]
      · simp only [if_neg hwhole, Flow.onQue]

end Behind

/-! ## The two parties -/

/-- The framer thread calls `RecvSiDaqData` with a chunk or goes on in its loop, or the consumer
takes a frame. -/
inductive InterleavedAct (α : Type*)
  | call (c : Chunk α)
  | iterate
  | get

def InterleavedAct.receiving : InterleavedAct α → ReceivingAct α
  | .call c => .call c.bytes
  | .iterate => .iterate
  | .get => .get

/-- The chunk of a call. -/
def InterleavedAct.chunks : InterleavedAct α → List (Chunk α)
  | .call c => [c]
  | _ => []

/-- `RecvSiDaqData` in progress, and the frames that the consumer has got. -/
structure Interleaved (α : Type*) where
  state : Receiving α
  got : List (List α)

def Interleaved.step [Inhabited α] (e : Interleaved α) (a : InterleavedAct α) :
    Option (Interleaved α) :=
  (e.state.step a.receiving).map fun s =>
    ⟨s, match a with
      | .get => e.got ++ e.state.que.take 1
      | _ => e.got⟩


section Interleaved

variable [Inhabited α]

/-- The session is the one after the call in progress, which nobody interrupts. -/
def Interleaved.Follows (e : Interleaved α) (t : Session α) : Prop :=
  Ready t.framer ∧ t.framer.queueLimit = 0 ∧
    match e.state with
    | .idle fr que => t.framer = fr ∧ t.que = e.got ++ que
    | .busy data l => l.framer.queueLimit = 0 ∧
      ∃ fuel o, recvLoop data fuel (l.behind e.got) = some o ∧ t.framer = o.framer ∧ t.que = o.que

/-- Where the call is after a part of it. -/
theorem Interleaved.follows_after {data : List α} {f : Flow α} {got : List (List α)} {s : Receiving α}
    (hstep : Receiving.after data f = some s) {t : Session α} (hready : Ready t.framer)
    (hlimit : t.framer.queueLimit = 0)
    (hdone : ∀ o, f = .done o → t.framer = o.framer ∧ t.que = got ++ o.que)
    (hnext : ∀ l, f = .next l → l.framer.queueLimit = 0 ∧
      ∃ fuel o, recvLoop data fuel (l.behind got) = some o ∧ t.framer = o.framer ∧ t.que = o.que) :
    Interleaved.Follows ⟨s, got⟩ t := by
  cases f with
  | done o =>
    obtain rfl := Option.some.inj hstep
    exact ⟨hready, hlimit, hdone o rfl⟩
  | next l =>
    obtain rfl := Option.some.inj hstep
    exact ⟨hready, hlimit, hnext l rfl⟩
  | fault => simp [Receiving.after] at hstep

/-- The call of `RecvSiDaqData`: the whole of it is one step of the session. -/
theorem Interleaved.Follows.call {fr : SiDaqFramer α} {que got : List (List α)} {t : Session α}
    (h : Interleaved.Follows ⟨.idle fr que, got⟩ t) {c : Chunk α} {s : Receiving α}
    (hstep : (Receiving.idle fr que).step (.call c.bytes) = some s) :
    ∃ t', t.recv c = some t' ∧ Interleaved.Follows ⟨s, got⟩ t' := by
  obtain ⟨hready, hlimit, hfr, hque⟩ := h
  obtain ⟨o, ho⟩ := recvSiDaqData_total hready c.fits t.que
  obtain ⟨hready', hlimit', -⟩ := recvSiDaqData_conserves hready c.fits ho
  have hcall := Session.recv_of_recvSiDaqData ho
  refine ⟨_, hcall, ?_⟩
  rw [hfr, hque] at ho
  rw [hfr] at hlimit
  simp only [recvSiDaqData] at ho
  simp only [Receiving.step] at hstep
  split at hstep
  · rename_i hpos
    rw [if_pos hpos, carryOver_behind hlimit] at ho
    refine Interleaved.follows_after hstep hready' (hlimit'.trans (hfr ▸ hlimit)) ?_ ?_
    · intro o' hf
      rw [hf] at ho
      obtain rfl := Option.some.inj ho
      exact ⟨rfl, rfl⟩
    · intro l hf
      rw [hf] at ho
      have hsetup : SameSetup fr l.framer := carryOver_setup fr c.bytes que (by rw [hf]; rfl)
      exact ⟨hsetup.queueLimit.trans hlimit, _, o, ho, rfl, rfl⟩
  · rename_i hpos
    rw [if_neg hpos] at ho
    obtain rfl := Option.some.inj hstep
    exact ⟨hready', hlimit'.trans (hfr ▸ hlimit), hlimit, _, o, ho, rfl, rfl⟩

/-- An iteration of the loop: the session has made it already. -/
theorem Interleaved.Follows.iterate {data : List α} {l : Locals α} {got : List (List α)}
    {t : Session α} (h : Interleaved.Follows ⟨.busy data l, got⟩ t) {s : Receiving α}
    (hstep : (Receiving.busy data l).step .iterate = some s) : Interleaved.Follows ⟨s, got⟩ t := by
  obtain ⟨hready, hlimit, hl, fuel, o, ho, hfr, hque⟩ := h
  cases fuel with
  | zero => simp [recvLoop] at ho
  | succ fuel =>
    simp only [recvLoop, loopBody_behind hl] at ho
    refine Interleaved.follows_after hstep hready hlimit ?_ ?_
    · intro o' hf
      rw [hf] at ho
      obtain rfl := Option.some.inj ho
      exact ⟨hfr, hque⟩
    · intro l' hf
      rw [hf] at ho
      have hsetup : SameSetup l.framer l'.framer := loopBody_setup data l (by rw [hf]; rfl)
      exact ⟨hsetup.queueLimit.trans hl, fuel, o, ho, hfr, hque⟩

/-- A frame that the consumer takes: it is in front of the queue before and after. -/
theorem Interleaved.Follows.get {e e' : Interleaved α} {t : Session α} (h : e.Follows t)
    (hstep : e.step .get = some e') : e'.Follows t := by
  obtain ⟨state, got⟩ := e
  obtain ⟨s, hs, rfl⟩ := Option.map_eq_some_iff.mp hstep
  obtain ⟨hready, hlimit, hat⟩ := h
  cases state with
  | idle fr que =>
    cases que with
    | nil => simp [InterleavedAct.receiving, Receiving.step] at hs
    | cons f que =>
      obtain rfl := Option.some.inj hs
      exact ⟨hready, hlimit, hat.1, by simpa [Receiving.que] using hat.2⟩
  | busy data l =>
    simp only [InterleavedAct.receiving, Receiving.step] at hs
    split at hs
    · simp at hs
    · rename_i f que hque
      obtain rfl := Option.some.inj hs
      have hsame : ({ l with que := que } : Locals α).behind (got ++ l.que.take 1) =
          l.behind got := by simp [Locals.behind, hque]
      refine ⟨hready, hlimit, ?_⟩
      simpa [Receiving.que, hsame] using hat

/-- **The interleaved calls are followed by undisturbed ones**, each of which is made at once. -/
theorem interleaved_simulation :
    Simulation Interleaved.step (fun _ a _ => a.chunks) (fun (_ : Interleaved α) _ => True)
      Session.recv (fun _ c _ => [c]) Interleaved.Follows := by
  rintro ⟨state, got⟩ t a e' h - hstep
  cases a with
  | get => exact .stay (h.get hstep)
  | call c =>
    obtain ⟨s, hs, rfl⟩ := Option.map_eq_some_iff.mp hstep
    cases state with
    | busy data l => simp [InterleavedAct.receiving, Receiving.step] at hs
    | idle fr que =>
      obtain ⟨t', hrecv, h'⟩ := h.call hs
      exact .one hrecv h'
  | iterate =>
    obtain ⟨s, hs, rfl⟩ := Option.map_eq_some_iff.mp hstep
    cases state with
    | idle fr que => cases que <;> simp [InterleavedAct.receiving, Receiving.step] at hs
    | busy data l => exact .stay (h.iterate hs)

/-- A session fed chunk by chunk makes its calls one after the other. -/
theorem Session.run_recv (s : Session α) (chunks : List (Chunk α)) :
    run Session.recv s chunks = s.feed chunks := by
  induction chunks generalizing s with
  | nil => rfl
  | cons c cs ih =>
    rw [run_cons, Session.feed]
    exact congrArg _ (funext ih)

/-- The frames that the consumer has got are the first ones of the session. -/
theorem Interleaved.Follows.got_prefix {e : Interleaved α} {t : Session α} (h : e.Follows t) :
    e.got <+: t.que := by
  obtain ⟨state, got⟩ := e
  obtain ⟨-, -, hat⟩ := h
  cases state with
  | idle fr que =>
    rw [hat.2]
    exact List.prefix_append _ _
  | busy data l =>
    obtain ⟨-, fuel, o, ho, -, hque⟩ := hat
    rw [hque, (recvLoop_explains ho).que_eq, Locals.behind, List.append_assoc]
    exact List.prefix_append _ _

/-- **The consumer does not disturb the framing**: whenever it takes frames while the chunks are
being framed, it gets the frames, and the framer is the one, of the same calls made one after the
other with nobody taking anything. -/
theorem interleaved_feed {p : FramingParams α} (hp : p.Regular) (htwo : p.headerLen.toNat ≤ 2)
    {fr : SiDaqFramer α} (hrest : fr.rest = 0) (hsize : fr.buffSize = defaultMaxFrameLen)
    {acts : List (InterleavedAct α)} {e : Interleaved α}
    (hrun : run Interleaved.step ⟨.idle (fr.configure p) [], []⟩ acts = some e) :
    ∃ t, (Session.start fr p).feed (acts.flatMap InterleavedAct.chunks) = some t ∧
      e.got <+: t.que ∧
      ∀ fr' que, e.state = .idle fr' que → t.framer = fr' ∧ t.que = e.got ++ que := by
  have hready : Ready (fr.configure p) :=
    .of_rest_eq_zero (.configure hp.toFits hsize htwo) hrest
  have hlimit : (fr.configure p).queueLimit = 0 := by simp [SiDaqFramer.configure, hp.noLimit]
  have hstart : Interleaved.Follows ⟨.idle (fr.configure p) [], []⟩ (Session.start fr p) :=
    ⟨hready, hlimit, rfl, rfl⟩
  obtain ⟨chunks, t, hfeed, h, htrace⟩ :=
    interleaved_simulation.run hstart (guarded_of_forall fun _ _ => trivial) hrun
  rw [trace_eq_flatMap hfeed, trace_eq_flatMap hrun, List.flatMap_singleton'] at htrace
  rw [htrace, Session.run_recv] at hfeed
  refine ⟨t, hfeed, h.got_prefix, fun fr' que hidle => ?_⟩
  have hat := h.2.2
  rwa [hidle] at hat

end Interleaved

/-- A frame is taken in the middle of the second call, before the next one is put. -/
def takenInside : List (InterleavedAct UInt8) :=
  [.call (.of [2, 6]), .iterate, .iterate, .call (.of [8, 1, 9, 3, 4]), .get, .iterate, .get,
    .iterate, .iterate]

theorem takenInside_feed :
    ∃ e, run Interleaved.step ⟨.idle (newSiDaqFramer.configure byteHeader) [], []⟩ takenInside =
        some e ∧ e.got = [[2, 6, 8], [1, 9]] ∧
      ∃ t, (Session.fresh byteHeader).feed (takenInside.flatMap InterleavedAct.chunks) = some t ∧
        e.got <+: t.que ∧
        ∀ fr' que, e.state = .idle fr' que → t.framer = fr' ∧ t.que = e.got ++ que := by
  obtain ⟨e, hrun, hgot⟩ : ∃ e, run Interleaved.step
      ⟨.idle (newSiDaqFramer.configure byteHeader) [], []⟩ takenInside = some e ∧
        e.got = [[2, 6, 8], [1, 9]] := ⟨_, rfl, rfl⟩
  exact ⟨e, hrun, hgot, interleaved_feed ⟨byteHeader_fits, rfl⟩ (by decide) rfl rfl hrun⟩

end SiDaqApi
