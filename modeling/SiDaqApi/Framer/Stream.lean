import SiDaqApi.Framer.Conserve

/-!
# A framer fed with the chunks of a stream

`Session` is a framer with its event queue over a whole stream: `feed` passes the chunks one after
the other to `RecvSiDaqData`, in the order TCP delivered them. `Session.feed_invariant` is the
induction all results about streams use.

The first such result is byte conservation for every chunk sequence. It holds exactly for headers of
at most two bytes: a chunk of two bytes that ends inside a longer header already loses the second
one (`conserves_iff_header_le_two`).
-/

namespace SiDaqApi

open MachineInt

variable {α : Type*}

/-- A chunk as `recv` hands it over: not empty, and its length is an `int`. -/
structure Chunk (α : Type*) where
  bytes : List α
  nonempty : bytes ≠ []
  fits : bytes.length < 2147483648

/-- A chunk with given bytes. -/
def Chunk.of (bytes : List α) (nonempty : bytes ≠ [] := by simp)
    (fits : bytes.length < 2147483648 := by simp) : Chunk α :=
  ⟨bytes, nonempty, fits⟩

/-- A chunk of `n` zeros. -/
def Chunk.zeros (n : ℕ) (hpos : 0 < n) (hfits : n < 2147483648) : Chunk UInt8 where
  bytes := List.replicate n 0
  nonempty := List.ne_nil_of_length_pos (by rwa [List.length_replicate])
  fits := by rwa [List.length_replicate]

theorem Chunk.length_zeros {n : ℕ} (hpos : 0 < n) (hfits : n < 2147483648) :
    (Chunk.zeros n hpos hfits).bytes.length = n :=
  List.length_replicate

/-- The stream that was cut into the chunks. -/
def stream (chunks : List (Chunk α)) : List α := (chunks.map Chunk.bytes).flatten

@[simp] theorem stream_nil : stream ([] : List (Chunk α)) = [] := rfl

@[simp] theorem stream_cons (c : Chunk α) (cs : List (Chunk α)) :
    stream (c :: cs) = c.bytes ++ stream cs := rfl

/-- A framer in use: its state, the event queue, all accesses made so far. -/
structure Session (α : Type*) where
  framer : SiDaqFramer α
  que : List (List α)
  accesses : List Access

/-- Bytes queued as frames, then the carried ones. -/
def Session.bytes (s : Session α) : List α := s.que.flatten ++ s.framer.restBytes

/-- A framer just configured by `SiDaqRun`, with an empty event queue. -/
def Session.start (fr : SiDaqFramer α) (p : FramingParams α) : Session α :=
  ⟨fr.configure p, [], []⟩

/-- The first run of a manager: the framer comes from `NewSiDaqFramer`. -/
def Session.fresh [Inhabited α] (p : FramingParams α) : Session α := .start newSiDaqFramer p

section Feed

variable [Inhabited α]

/-- One call of `RecvSiDaqData`. -/
def Session.recv (s : Session α) (c : Chunk α) : Option (Session α) :=
  (recvSiDaqData s.framer c.bytes s.que).map fun o => ⟨o.framer, o.que, s.accesses ++ o.accesses⟩

/-- A call for each chunk in turn; `none` when one of them does not return. -/
def Session.feed : Session α → List (Chunk α) → Option (Session α)
  | s, [] => some s
  | s, c :: cs => (s.recv c).bind fun s' => s'.feed cs

/-- What one call keeps, a stream keeps: `I` relates the bytes received so far to the session. -/
theorem Session.feed_invariant {I : List α → Session α → Prop}
    (step : ∀ bs s (c : Chunk α), I bs s → ∃ s', s.recv c = some s' ∧ I (bs ++ c.bytes) s')
    (bs : List α) {s : Session α} (h : I bs s) (chunks : List (Chunk α)) :
    ∃ s', s.feed chunks = some s' ∧ I (bs ++ stream chunks) s' := by
  induction chunks generalizing bs s with
  | nil => exact ⟨s, rfl, by simpa using h⟩
  | cons c cs ih =>
    obtain ⟨s₁, hrecv, h₁⟩ := step bs s c h
    obtain ⟨s₂, hfeed, h₂⟩ := ih (bs ++ c.bytes) h₁
    refine ⟨s₂, ?_, ?_⟩
    · simp only [Session.feed, hrecv, Option.bind_some, hfeed]
    · rwa [stream_cons, ← List.append_assoc]

/-- A call, from the result of `recvSiDaqData`. -/
theorem Session.recv_of_recvSiDaqData {s : Session α} {c : Chunk α} {o : Outcome α}
    (h : recvSiDaqData s.framer c.bytes s.que = some o) :
    s.recv c = some ⟨o.framer, o.que, s.accesses ++ o.accesses⟩ := by
  simp only [Session.recv, h, Option.map_some]

theorem Session.feed_append (s : Session α) (cs ds : List (Chunk α)) :
    s.feed (cs ++ ds) = (s.feed cs).bind fun s' => s'.feed ds := by
  induction cs generalizing s with
  | nil => rfl
  | cons c cs ih =>
    simp only [List.cons_append, Session.feed, Option.bind_assoc]
    congr 1
    funext s'
    exact ih s'

/-- A call on a framer in its invariant, without a queue limit, keeps both and every byte. -/
theorem Session.recv_ready {s : Session α} (hr : Ready s.framer) (hnl : s.framer.queueLimit = 0)
    (c : Chunk α) :
    ∃ s', s.recv c = some s' ∧ Ready s'.framer ∧ s'.framer.queueLimit = 0 ∧
      s'.bytes = s.bytes ++ c.bytes := by
  obtain ⟨o, ho⟩ := recvSiDaqData_total hr c.fits s.que
  obtain ⟨hready, hlimit, -, hkeeps⟩ := recvSiDaqData_conserves hr c.fits ho
  exact ⟨_, Session.recv_of_recvSiDaqData ho, hready, hlimit.trans hnl, hkeeps.2 hnl⟩

/-- A stream fed to a framer in its invariant is in the queue and the carry-over. -/
theorem Session.feed_ready {s : Session α} (hr : Ready s.framer) (hnl : s.framer.queueLimit = 0)
    (chunks : List (Chunk α)) :
    ∃ s', s.feed chunks = some s' ∧ Ready s'.framer ∧ s'.bytes = s.bytes ++ stream chunks := by
  let I : List α → Session α → Prop := fun bs t =>
    Ready t.framer ∧ t.framer.queueLimit = 0 ∧ t.bytes = s.bytes ++ bs
  have hstep : ∀ bs t (c : Chunk α), I bs t → ∃ t', t.recv c = some t' ∧ I (bs ++ c.bytes) t' := by
    rintro bs t c ⟨ht, htl, hbytes⟩
    obtain ⟨t', hrecv, hready, hlimit, hbytes'⟩ := Session.recv_ready ht htl c
    exact ⟨t', hrecv, hready, hlimit, by rw [hbytes', hbytes, List.append_assoc]⟩
  obtain ⟨t, ht, hready, -, hbytes⟩ :=
    Session.feed_invariant (I := I) hstep [] ⟨hr, hnl, by simp⟩ chunks
  exact ⟨t, ht, hready, hbytes⟩

end Feed

/-! ## Framing arguments -/

/-- Framing arguments that `SiDaqRun` accepts, within the buffer. -/
structure FramingParams.Sized (p : FramingParams α) : Prop where
  accepted : p.headerLen.toNat < p.maxFrameLen.toNat
  max_le : p.maxFrameLen.toNat ≤ defaultMaxFrameLen

/-- Framing arguments that `SiDaqRun` accepts, within the buffer, and with a length function that
reads the header only. -/
structure FramingParams.Fits (p : FramingParams α) : Prop where
  accepted : p.headerLen.toNat < p.maxFrameLen.toNat
  max_le : p.maxFrameLen.toNat ≤ defaultMaxFrameLen
  stable : ∀ f, p.lengthFunc = some f → StableOn f p.headerLen.toNat

theorem FramingParams.Fits.sized {p : FramingParams α} (hp : p.Fits) : p.Sized :=
  ⟨hp.accepted, hp.max_le⟩

/-- The same, without a queue limit. -/
structure FramingParams.Regular (p : FramingParams α) : Prop extends p.Fits where
  noLimit : p.frameQueueLimit = 0

section Configure

variable {fr : SiDaqFramer α} {p : FramingParams α}

theorem SiDaqFramer.configure_headerLen (fr : SiDaqFramer α) (hp : p.Sized) :
    (fr.configure p).headerLen = p.headerLen.toNat := by
  have hlt := hp.accepted
  have hmax := hp.max_le
  simp only [defaultMaxFrameLen] at hmax
  exact wrap32_of_range (by omega) (by omega)

theorem WellFormed.configure (hp : p.Sized) (hsize : fr.buffSize = defaultMaxFrameLen) :
    WellFormed (fr.configure p) where
  header_nonneg := by
    rw [SiDaqFramer.configure_headerLen fr hp]
    omega
  header_lt := by
    rw [SiDaqFramer.configure_headerLen fr hp]
    have hlt := hp.accepted
    simp only [SiDaqFramer.configure]
    omega
  max_le := hp.max_le
  size := hsize
  fixed_lt := p.fixedFrameLen.toNat_lt

/-- The states of a framer under one configuration: `SiDaqRun` configures it while nothing is carried,
and `RecvSiDaqData` is called, each time on any event queue. `SiDaqRun` does not clear `_rest`; the
states of a framer that has kept bytes of an earlier run are `FramingParams.InUse`. -/
inductive FramingParams.Reached [Inhabited α] (p : FramingParams α) : SiDaqFramer α → Prop
  | configure {fr : SiDaqFramer α} (hrest : fr.rest = 0)
      (hsize : fr.buffSize = defaultMaxFrameLen) : Reached p (fr.configure p)
  | recv {fr : SiDaqFramer α} (h : Reached p fr) (c : Chunk α) (que : List (List α))
      {o : Outcome α} (ho : recvSiDaqData fr c.bytes que = some o) : Reached p o.framer

theorem Ruled.configure (hp : p.Fits) (hsize : fr.buffSize = defaultMaxFrameLen) :
    Ruled (fr.configure p) where
  toWellFormed := .configure hp.sized hsize
  stable := by
    rw [SiDaqFramer.configure_headerLen fr hp.sized]
    exact hp.stable

theorem Sound.configure (hp : p.Fits) (hsize : fr.buffSize = defaultMaxFrameLen)
    (htwo : p.headerLen.toNat ≤ 2) : Sound (fr.configure p) :=
  (Ruled.configure hp hsize).sound (by
    rw [SiDaqFramer.configure_headerLen fr hp.sized]
    omega)

/-- A framer in use is steady. -/
theorem FramingParams.Reached.steady [Inhabited α] (hp : p.Fits) (h : p.Reached fr) :
    Steady fr := by
  induction h with
  | configure hrest hsize => exact .of_rest_eq_zero (.configure hp hsize) hrest
  | recv h c que ho ih => exact recvSiDaqData_keeps_steady ih c.fits ho

end Configure

/-- Two bytes that end inside a header of three or more: the second one is lost. -/
theorem fresh_recv_short {p : FramingParams UInt8} (hp : p.Fits)
    (hthree : 3 ≤ p.headerLen.toNat) (c : Chunk UInt8) (hc : c.bytes = [0, 1]) :
    ∃ s, (Session.fresh p).recv c = some s ∧ s.bytes = [0, 0] := by
  have hheader := SiDaqFramer.configure_headerLen newSiDaqFramer hp.sized
  have hat : AtPos c.bytes (.start (newSiDaqFramer.configure p) c.bytes []) 0 :=
    ⟨rfl, by omega, rfl⟩
  have hbody := loopBody_short hat (by
    right
    simp only [Locals.start, hheader, hc, List.drop_zero, List.length_cons, List.length_nil]
    omega)
  have hrun : recvSiDaqData (newSiDaqFramer.configure p) c.bytes [] = some _ :=
    recvLoop_of_done hbody _
  refine ⟨_, Session.recv_of_recvSiDaqData hrun, ?_⟩
  simp only [Session.bytes, hc]
  rfl

/-- **Every byte received is in a frame or carried over, for every way of cutting every stream, if
and only if the header has at most two bytes.** -/
theorem conserves_iff_header_le_two {p : FramingParams UInt8} (hp : p.Regular) :
    (∀ chunks : List (Chunk UInt8), ∃ s, (Session.fresh p).feed chunks = some s ∧
      s.que.flatten ++ s.framer.restBytes = stream chunks) ↔ p.headerLen.toNat ≤ 2 := by
  constructor
  · intro hall
    by_contra hthree
    let c : Chunk UInt8 := .of [0, 1]
    obtain ⟨s, hrecv, hbytes⟩ := fresh_recv_short hp.toFits (by omega) c rfl
    obtain ⟨s', hfeed, hcons⟩ := hall [c]
    simp only [Session.feed, hrecv, Option.bind_some, Option.some.injEq] at hfeed
    subst hfeed
    rw [show s.que.flatten ++ s.framer.restBytes = s.bytes from rfl, hbytes] at hcons
    exact absurd hcons (by decide)
  · intro htwo chunks
    have hready : Ready (Session.fresh p).framer :=
      .of_rest_eq_zero (.configure hp.toFits rfl htwo) rfl
    have hnl : (Session.fresh p).framer.queueLimit = 0 := by
      simp [Session.fresh, Session.start, SiDaqFramer.configure, hp.noLimit]
    obtain ⟨s, hfeed, -, hbytes⟩ := Session.feed_ready hready hnl chunks
    exact ⟨s, hfeed, hbytes⟩

/-- A header of three bytes, and a payload of four behind it whatever the header says. -/
def threeByteHeader : FramingParams UInt8 := ⟨some fun _ _ _ => 4, 3, 0, 0, 262144⟩

theorem threeByteHeader_regular : threeByteHeader.Regular :=
  ⟨⟨by decide, by decide, by
    intro f hf m n bs bs' _ _ _
    obtain rfl := Option.some.inj hf
    rfl⟩, rfl⟩

/-- The chunk `01 02` ends inside the header: the carry-over holds `01 00`. -/
theorem threeByteHeader_loses_byte :
    threeByteHeader.Regular ∧
      ¬ ∃ s, (Session.fresh threeByteHeader).feed [.of [1, 2]] = some s ∧
        s.que.flatten ++ s.framer.restBytes = [1, 2] := by
  refine ⟨threeByteHeader_regular, ?_⟩
  rintro ⟨s, hfeed, hbytes⟩
  have hlost : ((Session.fresh threeByteHeader).feed [.of [1, 2]]).map
      Session.bytes = some [1, 0] := by decide
  rw [hfeed, Option.map_some, Option.some.injEq] at hlost
  rw [show s.que.flatten ++ s.framer.restBytes = s.bytes from rfl, hlost] at hbytes
  exact absurd hbytes (by decide)

/-- A two-byte header meets the bound. -/
def twoByteHeader : FramingParams UInt8 := ⟨some fun _ _ _ => 4, 2, 0, 0, 262144⟩

theorem twoByteHeader_regular : twoByteHeader.Regular :=
  ⟨⟨by decide, by decide, by
    intro f hf m n bs bs' _ _ _
    obtain rfl := Option.some.inj hf
    rfl⟩, rfl⟩

theorem twoByteHeader_conserves :
    (∀ chunks : List (Chunk UInt8), ∃ s, (Session.fresh twoByteHeader).feed chunks = some s ∧
      s.que.flatten ++ s.framer.restBytes = stream chunks) ↔ 2 ≤ 2 :=
  conserves_iff_header_le_two twoByteHeader_regular

/-- A header of one byte that holds the payload length. -/
def byteHeader : FramingParams UInt8 :=
  ⟨some fun _ bs _ => match bs with
    | [] => -1
    | b :: _ => Int32.ofNat b.toNat, 1, 0, 0, 262144⟩

theorem byteHeader_fits : byteHeader.Fits where
  accepted := by decide
  max_le := by decide
  stable := by
    intro f hf m n bs bs' hbs hbs' htake
    obtain rfl := Option.some.inj hf
    rcases bs with _ | ⟨b, bs⟩
    · simp [byteHeader] at hbs
    · rcases bs' with _ | ⟨b', bs'⟩
      · simp [byteHeader] at hbs'
      · obtain rfl : b = b' := by simpa [byteHeader] using htake
        rfl

/-! ## Length functions with ready answers -/

/-- A header of one byte, and a length function whose answers do not depend on what it reads. -/
def scripted (answers : ℕ → Int32) (M : UInt32) : FramingParams UInt8 :=
  ⟨some fun d _ _ => answers d, 1, 0, 0, M⟩

/-- A framer configured so, in use. -/
structure Scripted (answers : ℕ → Int32) (M : UInt32) (fr : SiDaqFramer UInt8) : Prop where
  lengthFunc : fr.lengthFunc = some fun d _ _ => answers d
  headerLen : fr.headerLen = 1
  maxFrameLen : fr.maxFrameLen = M.toNat
  size : fr.buffSize = defaultMaxFrameLen

theorem Scripted.fresh (answers : ℕ → Int32) (M : UInt32) :
    Scripted answers M (newSiDaqFramer.configure (scripted answers M)) :=
  ⟨rfl, show wrap32 1 = 1 by decide, rfl, rfl⟩

/-- The framer waits for the rest of a frame, with `rest` bytes carried. -/
structure WaitsWith (answers : ℕ → Int32) (M : UInt32) (fr : SiDaqFramer UInt8)
    (que : List (List UInt8)) (rest : ℤ) (o : Outcome UInt8) : Prop where
  scripted : Scripted answers M o.framer
  decisions : o.framer.decisions = fr.decisions + 1
  rest : o.framer.rest = rest
  errorCode : o.framer.errorCode = fr.errorCode
  que : o.que = que

section Scripted

variable {answers : ℕ → Int32} {M : UInt32} {fr : SiDaqFramer UInt8} {data : List UInt8} {n : ℕ}

/-- The next answer decides. -/
theorem Scripted.frameLength (h : Scripted answers M fr) (hn : (answers fr.decisions).toInt = n)
    (hM : n + 1 ≤ M.toNat) (bs : List UInt8) (avail : ℤ) :
    fr.frameLength bs avail = ((n : ℤ), fr.decided) := by
  have hmode : fr.headerMode = some fun d _ _ => answers d :=
    SiDaqFramer.headerMode_eq_some.mpr ⟨by rw [h.headerLen]; decide, h.lengthFunc⟩
  have hlen : fr.eventLen bs avail = n := by rw [SiDaqFramer.eventLen_of_header hmode, hn]
  have hsmall := M.toNat_lt
  rw [SiDaqFramer.frameLength_of_passes, hlen]
  · omega
  · rw [hlen, h.headerLen, h.maxFrameLen, uint32_of_range (by omega) (by omega)]
    omega

theorem Scripted.frameLen (h : Scripted answers M fr) (hn : (answers fr.decisions).toInt = n)
    (hM : n + 1 ≤ M.toNat) (bs : List UInt8) (avail : ℤ) :
    fr.frameLen bs avail = wrap32 (n + 1) := by
  rw [SiDaqFramer.frameLen, h.frameLength hn hM]
  show wrap32 (n + fr.headerLen) = _
  rw [h.headerLen]

theorem Scripted.append (h : Scripted answers M fr) (data : List UInt8) :
    Scripted answers M (fr.append data) :=
  ⟨h.lengthFunc, h.headerLen, h.maxFrameLen, h.size⟩

/-- A chunk that is shorter than its first frame. -/
theorem Scripted.save (h : Scripted answers M fr) (hn : (answers fr.decisions).toInt = n)
    (hM : n + 1 ≤ M.toNat) (hsmall : n + 1 < 2147483648) (hzero : fr.rest = 0) (hne : data ≠ [])
    (hlt : data.length ≤ n) (que : List (List UInt8)) :
    ∃ o, recvSiDaqData fr data que = some o ∧ WaitsWith answers M fr que data.length o := by
  have hpos := List.length_pos_iff.mpr hne
  have hframe : fr.frameLen data data.length = n + 1 := by
    rw [h.frameLen hn hM, wrap32_of_range (by omega) (by omega)]
  have hrun := recvSiDaqData_save que hzero hne (by rw [h.headerLen]; omega)
    (by rw [hframe]; omega)
  rw [h.frameLength hn hM] at hrun
  exact ⟨_, hrun, ⟨h.lengthFunc, h.headerLen, h.maxFrameLen, h.size⟩, rfl, rfl, rfl, rfl⟩

/-- A chunk that does not complete the carried frame. -/
theorem Scripted.carry (h : Scripted answers M fr) (hn : (answers fr.decisions).toInt = n)
    (hM : n + 1 ≤ M.toNat) (hsmall : n + 1 < 2147483648) (hpos : 0 < fr.rest)
    (hfit : fr.rest ≤ defaultMaxFrameLen) (hlt : (fr.held data).length ≤ n)
    (que : List (List UInt8)) :
    ∃ o, recvSiDaqData fr data que = some o ∧
      WaitsWith answers M fr que (fr.held data).length o := by
  have h' := h.append data
  have hframe : (fr.append data).frameLen (fr.held data) (fr.held data).length = n + 1 := by
    rw [h'.frameLen hn hM, wrap32_of_range (by omega) (by omega)]
  have hrun := recvSiDaqData_append que hpos (by rw [h.size]; exact hfit)
    (by rw [hframe]; omega)
  rw [h'.frameLength hn hM] at hrun
  exact ⟨_, hrun, ⟨h.lengthFunc, h.headerLen, h.maxFrameLen, h.size⟩, rfl, rfl, rfl, rfl⟩

end Scripted

end SiDaqApi
