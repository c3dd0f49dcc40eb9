import SiDaqApi.Framer.Stream

/-!
# Bytes that the framer loses without an error

A frame longer than the carry-over buffer is cut off without an error: the carry-over phase takes
the bytes that it could not copy for copied. `SiDaqRun` does not compare the two sizes, so this
comes down to `max_frame_len` (`nothing_silent_iff`).
-/

namespace SiDaqApi

open MachineInt

variable {α : Type*}

section Sizes

variable [Inhabited α] {data : List α} {que : List (List α)} {fr : SiDaqFramer α} {o : Outcome α}

/-- Without a queue limit the loop accounts for the number of bytes left, for every header. -/
theorem recvLoop_sizes (hdata : data.length < 2147483648) {fuel p : ℕ} {l : Locals α}
    (hw : WellFormed l.framer) (hlimit : l.framer.queueLimit = 0) (h : AtPos data l p)
    (hrun : recvLoop data fuel l = some o) :
    (o.que.flatten.length : ℤ) + o.framer.rest = l.que.flatten.length + (data.drop p).length := by
  refine recvLoop_induct
    (P := fun p l o => l.framer.queueLimit = 0 →
      (o.que.flatten.length : ℤ) + o.framer.rest = l.que.flatten.length + (data.drop p).length)
    ?short ?limit ?frame ?save hdata hw h hrun hlimit
  case short =>
    intro p l hw h hshort hlimit
    rfl
  case limit =>
    intro p l n hw h htakes hfull hlimit
    exact absurd hfull
      (SiDaqFramer.not_atQueueLimit ((l.framer.frameLength_queueLimit _ _).trans hlimit) _)
  case frame =>
    intro p l n o hw h htakes hfree hat ih hlimit
    have hle := htakes.le
    rw [ih ((l.framer.frameLength_queueLimit _ _).trans hlimit)]
    simp only [Locals.frame, List.flatten_append, List.flatten_singleton, List.length_append,
      List.length_take, List.length_drop] at hle ⊢
    omega
  case save =>
    intro p l hw h hne hheader hlt hlimit
    rfl

/-- So does a call on a steady framer. -/
theorem recvSiDaqData_sizes (hr : Steady fr) (hlimit : fr.queueLimit = 0)
    (hdata : data.length < 2147483648) (hrun : recvSiDaqData fr data que = some o) :
    (o.que.flatten.length : ℤ) + o.framer.rest = que.flatten.length + fr.rest + data.length := by
  have hrest : (fr.restBytes.length : ℤ) = fr.rest := by
    rw [fr.length_restBytes]
    exact Int.toNat_of_nonneg hr.rest_nonneg
  rcases recvSiDaqData_steady hr hdata hrun with
    ⟨l, p, fuel, -, hruled, hl, -, hat, -, hflat, -, hloop⟩ | ⟨-, hsteady, -, -, hflat⟩
  · have hsizes := recvLoop_sizes hdata hruled.toWellFormed (hl.queueLimit.trans hlimit) hat hloop
    have hlen := congrArg List.length hflat
    simp only [List.length_append] at hlen
    omega
  · have hrest' : (o.framer.restBytes.length : ℤ) = o.framer.rest := by
      rw [o.framer.length_restBytes]
      exact Int.toNat_of_nonneg hsteady.rest_nonneg
    have hlen := congrArg List.length hflat
    simp only [List.length_append] at hlen
    omega

/-- A stream fed to a steady framer is accounted for. -/
theorem Session.feed_sizes {s : Session α} (hr : Steady s.framer) (hlimit : s.framer.queueLimit = 0)
    (chunks : List (Chunk α)) :
    ∃ s', s.feed chunks = some s' ∧ (s'.que.flatten.length : ℤ) + s'.framer.rest =
      s.que.flatten.length + s.framer.rest + (stream chunks).length := by
  let I : List α → Session α → Prop := fun bs t =>
    Steady t.framer ∧ t.framer.queueLimit = 0 ∧ (t.que.flatten.length : ℤ) + t.framer.rest =
      s.que.flatten.length + s.framer.rest + bs.length
  have hstep : ∀ bs t (c : Chunk α), I bs t → ∃ t', t.recv c = some t' ∧ I (bs ++ c.bytes) t' := by
    rintro bs t c ⟨ht, htl, hsizes⟩
    obtain ⟨o, ho⟩ := recvSiDaqData_returns ht c.fits t.que
    have hcall := recvSiDaqData_sizes ht htl c.fits ho
    refine ⟨_, Session.recv_of_recvSiDaqData ho, recvSiDaqData_keeps_steady ht c.fits ho,
      (recvSiDaqData_setup ho).queueLimit.trans htl, ?_⟩
    rw [List.length_append]
    simp only
    omega
  obtain ⟨t, ht, -, -, hsizes⟩ :=
    Session.feed_invariant (I := I) hstep [] ⟨hr, hlimit, by simp⟩ chunks
  exact ⟨t, ht, by simpa using hsizes⟩

end Sizes

/-- Framing arguments that `SiDaqRun` accepts with the maximum `M`, without a queue limit, and with
a length function that decides on the header. -/
structure FramingParams.Unlimited (p : FramingParams α) (M : UInt32) : Prop where
  maxFrameLen : p.maxFrameLen = M
  accepted : p.headerLen.toNat < M.toNat
  noLimit : p.frameQueueLimit = 0
  stable : ∀ f, p.lengthFunc = some f → StableOn f p.headerLen.toNat

/-- Every frame has a header of one byte and a payload of 262144. -/
def longFrames (M : UInt32) : FramingParams UInt8 := scripted (fun _ => 262144) M

theorem longFrames_unlimited {M : UInt32} (hM : 262144 < M.toNat) :
    (longFrames M).Unlimited M where
  maxFrameLen := rfl
  accepted := by
    show 1 < M.toNat
    omega
  noLimit := rfl
  stable := by
    intro f hf m n bs bs' _ _ _
    obtain rfl := Option.some.inj hf
    rfl

/-- As many bytes as the carry-over buffer has, and one more. -/
def overfull : List (Chunk UInt8) :=
  [.zeros 262144 (by omega) (by omega), .zeros 1 (by omega) (by omega)]

/-- The last byte is taken for copied, but the buffer was full. -/
theorem longFrames_drops {M : UInt32} (hM : 262144 < M.toNat) :
    ∃ s, (Session.fresh (longFrames M)).feed overfull = some s ∧ s.que = [] ∧
      s.framer.rest = 262144 ∧ s.framer.errorCode = .noError := by
  let full : Chunk UInt8 := .zeros 262144 (by omega) (by omega)
  let last : Chunk UInt8 := .zeros 1 (by omega) (by omega)
  have hanswer : (262144 : Int32).toInt = (262144 : ℕ) := by decide
  have hfull : full.bytes.length = 262144 := Chunk.length_zeros _ _
  obtain ⟨o, ho, hw⟩ := (Scripted.fresh (fun _ => 262144) M).save hanswer hM (by omega) rfl
    full.nonempty hfull.le []
  have hrest : o.framer.rest = 262144 := by rw [hw.rest, hfull]; rfl
  have hheld : ((o.framer.held last.bytes).length : ℤ) = 262144 := by
    rw [SiDaqFramer.length_held_eq _ (by omega) (by rw [hw.scripted.size, hrest]; decide),
      hw.scripted.size, hrest]
    exact min_eq_right (by simp [defaultMaxFrameLen])
  -- the buffer is full, so nothing of the second chunk is copied, and nothing is recorded
  obtain ⟨o', ho', hw'⟩ := hw.scripted.carry hanswer hM (by omega) (by omega)
    (by rw [hrest]; decide) (show (o.framer.held last.bytes).length ≤ 262144 by omega) o.que
  refine ⟨⟨o'.framer, o'.que, [] ++ o.accesses ++ o'.accesses⟩, ?_, hw'.que.trans hw.que,
    hw'.rest.trans hheld, hw'.errorCode.trans hw.errorCode⟩
  have hfirst : (Session.fresh (longFrames M)).recv full = some ⟨o.framer, o.que, [] ++ o.accesses⟩ :=
    Session.recv_of_recvSiDaqData ho
  have hsecond : (⟨o.framer, o.que, [] ++ o.accesses⟩ : Session UInt8).recv last =
      some ⟨o'.framer, o'.que, [] ++ o.accesses ++ o'.accesses⟩ := Session.recv_of_recvSiDaqData ho'
  show (Session.fresh (longFrames M)).feed [full, last] = _
  simp only [Session.feed, hfirst, hsecond, Option.bind_some]

/-- **Every byte is in a frame or carried over, or there is an error code, for all framing arguments
with a maximum frame length of `M`, if and only if the carry-over buffer can hold `M` bytes.** -/
theorem nothing_silent_iff (M : UInt32) :
    (∀ p : FramingParams UInt8, p.Unlimited M → ∀ chunks : List (Chunk UInt8),
      (∀ c ∈ chunks, c.bytes.length ≤ defaultMaxFrameLen) →
        ∃ s, (Session.fresh p).feed chunks = some s ∧
          ((s.que.flatten.length : ℤ) + s.framer.rest = (stream chunks).length ∨
            s.framer.errorCode ≠ .noError)) ↔
      M.toNat ≤ defaultMaxFrameLen := by
  constructor
  · intro hall
    by_contra hM
    simp only [defaultMaxFrameLen, not_le] at hM
    obtain ⟨s, hs, hsizes⟩ := hall (longFrames M) (longFrames_unlimited hM) overfull (by
      intro c hc
      simp only [overfull, List.mem_cons, List.not_mem_nil, or_false] at hc
      rcases hc with rfl | rfl <;> rw [Chunk.length_zeros] <;> decide)
    obtain ⟨s', hs', hque, hrest, hcode⟩ := longFrames_drops hM
    obtain rfl : s = s' := Option.some.inj (hs.symm.trans hs')
    rcases hsizes with hsizes | herror
    · have hstream : (stream overfull).length = 262145 := by
        simp only [overfull, stream_cons, stream_nil, List.append_nil, List.length_append,
          Chunk.length_zeros]
      rw [hque, hrest, hstream] at hsizes
      simp at hsizes
    · exact herror hcode
  · intro hM p hp chunks _
    have hfits : p.Fits :=
      ⟨by rw [hp.maxFrameLen]; exact hp.accepted, by rwa [hp.maxFrameLen], hp.stable⟩
    have hsteady : Steady (Session.fresh p).framer :=
      .of_rest_eq_zero (.configure hfits rfl) rfl
    have hlimit : (Session.fresh p).framer.queueLimit = 0 := by
      simp [Session.fresh, Session.start, SiDaqFramer.configure, hp.noLimit]
    obtain ⟨s, hs, hsizes⟩ := Session.feed_sizes hsteady hlimit chunks
    exact ⟨s, hs, Or.inl (by simpa [Session.fresh, Session.start, SiDaqFramer.configure,
      newSiDaqFramer] using hsizes)⟩

/-- With a maximum of 262145: one byte of 262145 is gone, without an error code. -/
theorem longFrames_silent :
    (longFrames 262145).Unlimited 262145 ∧
      (∀ c ∈ overfull, c.bytes.length ≤ defaultMaxFrameLen) ∧ (stream overfull).length = 262145 ∧
      ∃ s, (Session.fresh (longFrames 262145)).feed overfull = some s ∧ s.que = [] ∧
        s.framer.rest = 262144 ∧ s.framer.errorCode = .noError := by
  refine ⟨longFrames_unlimited (by decide), ?_, ?_, longFrames_drops (by decide)⟩
  · intro c hc
    simp only [overfull, List.mem_cons, List.not_mem_nil, or_false] at hc
    rcases hc with rfl | rfl <;> rw [Chunk.length_zeros] <;> decide
  · simp only [overfull, stream_cons, stream_nil, List.append_nil, List.length_append,
      Chunk.length_zeros]

end SiDaqApi
