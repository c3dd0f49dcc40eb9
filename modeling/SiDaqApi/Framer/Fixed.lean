import SiDaqApi.Framer.Raw

/-!
# Frames of a fixed length

Without a header, `fixed_frame_len` is the length of every frame, and the length function that may
be there all the same is not called (`feed_fixed`). With a header it is called, and without a length
function the header length is added to the fixed one; so the fixed length is the frame length if and
only if the header length is zero (`fixed_frames_iff`).
-/

namespace SiDaqApi

open MachineInt Segment

variable {α : Type*}

/-- The length function was not called. -/
def Unasked (accesses : List Access) : Prop := ∀ n, Access.lengthFunc n ∉ accesses

@[simp] theorem unasked_append {as bs : List Access} :
    Unasked (as ++ bs) ↔ Unasked as ∧ Unasked bs := by
  simp [Unasked, forall_and]

/-- Chunk bytes are read and buffer bytes are written. -/
@[simp] theorem unasked_moves (p n q m : ℤ) : Unasked [.chunk p n, .buff q m] := by
  simp [Unasked]

@[simp] theorem unasked_chunk (p n : ℤ) : Unasked [.chunk p n] := by
  simp [Unasked]

/-- It is called in header mode, and only then. -/
@[simp] theorem unasked_chunkLenAccess (fr : SiDaqFramer α) (p avail : ℤ) :
    Unasked (fr.chunkLenAccess p avail) ↔ fr.headerMode = none := by
  unfold SiDaqFramer.chunkLenAccess Unasked
  split <;> simp_all

@[simp] theorem unasked_eventLenAccess (fr : SiDaqFramer α) (avail : ℤ) :
    Unasked (fr.eventLenAccess avail) ↔ fr.headerMode = none := by
  unfold SiDaqFramer.eventLenAccess Unasked
  split <;> simp_all

/-- A framer that cuts frames of `F` bytes, without a queue limit. -/
structure IsFixed (F : ℕ) (fr : SiDaqFramer α) : Prop extends WellFormed fr where
  headerLen : fr.headerLen = 0
  fixedFrameLen : fr.fixedFrameLen = F
  pos : 0 < F
  le : F ≤ fr.maxFrameLen
  noLimit : fr.queueLimit = 0

section Decision

variable {F : ℕ} {fr : SiDaqFramer α}

theorem IsFixed.congr {fr' : SiDaqFramer α} (hx : IsFixed F fr)
    (hheader : fr'.headerLen = fr.headerLen) (hmax : fr'.maxFrameLen = fr.maxFrameLen)
    (hsize : fr'.buffSize = fr.buffSize) (hfixed : fr'.fixedFrameLen = fr.fixedFrameLen)
    (hlimit : fr'.queueLimit = fr.queueLimit) : IsFixed F fr' where
  toWellFormed := hx.toWellFormed.congr hheader hmax hsize hfixed
  headerLen := hheader.trans hx.headerLen
  fixedFrameLen := hfixed.trans hx.fixedFrameLen
  pos := hx.pos
  le := hmax ▸ hx.le
  noLimit := hlimit.trans hx.noLimit

/-- Without a header the length function does not count. -/
theorem IsFixed.headerMode (hx : IsFixed F fr) : fr.headerMode = none := by
  simp [SiDaqFramer.headerMode, hx.headerLen]

theorem IsFixed.eventLen (hx : IsFixed F fr) (bytes : List α) (avail : ℤ) :
    fr.eventLen bytes avail = F := by
  have hpos := hx.pos
  have hle := hx.le
  have hmax := hx.max_le
  simp only [defaultMaxFrameLen] at hmax
  rw [SiDaqFramer.eventLen_of_fixed hx.headerMode (by rw [hx.fixedFrameLen]; omega),
    hx.fixedFrameLen]
  exact wrap32_of_range (by omega) (by omega)

theorem IsFixed.lengthOk (hx : IsFixed F fr) (bytes : List α) (avail : ℤ) :
    fr.LengthOk bytes avail := by
  have hle := hx.le
  rw [SiDaqFramer.LengthOk, hx.eventLen, hx.headerLen]
  omega

theorem IsFixed.frameLen (hx : IsFixed F fr) (bytes : List α) (avail : ℤ) :
    fr.frameLen bytes avail = F := by
  rw [SiDaqFramer.frameLen_of_ok hx.ranged (hx.lengthOk bytes avail), hx.eventLen, hx.headerLen,
    add_zero]

theorem IsFixed.frameLength (hx : IsFixed F fr) (bytes : List α) (avail : ℤ) :
    (fr.frameLength bytes avail).2 = fr.decided := by
  rw [SiDaqFramer.frameLength_of_ok hx.ranged (hx.lengthOk bytes avail)]

end Decision

/-- Between calls it carries less than a frame. -/
structure FixedRest (F : ℕ) (fr : SiDaqFramer α) : Prop extends IsFixed F fr where
  rest_nonneg : 0 ≤ fr.rest
  rest_lt : fr.rest < F

section Call

variable [Inhabited α] {F : ℕ} {fr : SiDaqFramer α} {data : List α} {l : Locals α}
  {o : Outcome α}

/-- What a part of the call has done with `bs`: blocks to the queue, the tail to the buffer. -/
structure CutsBlocks (F : ℕ) (bs : List α) (que : List (List α)) (o : Outcome α) : Prop
    extends FixedRest F o.framer where
  unasked : Unasked o.accesses
  blocks : ∃ blocks, o.que = que ++ blocks ∧ Blocks F bs blocks o.framer.restBytes

/-- **The loop cuts blocks of `F` bytes**, from the bytes it is given. -/
theorem recvLoop_fixed (hx : IsFixed F l.framer) (hzero : l.framer.rest = 0)
    (hacc : Unasked l.accesses) {p : ℕ} (h : AtPos data l p) (hdata : data.length < 2147483648)
    {fuel : ℕ} (hrun : recvLoop data fuel l = some o) : CutsBlocks F (data.drop p) l.que o := by
  refine recvLoop_induct (P := fun p l o => IsFixed F l.framer → l.framer.rest = 0 →
      Unasked l.accesses → CutsBlocks F (data.drop p) l.que o)
    ?short ?limit ?frame ?save hdata hx.toWellFormed h hrun hx hzero hacc
  case short =>
    intro p l hw h hshort hx hzero hacc
    have hpos := hx.pos
    have hnil : data.drop p = [] := by
      rcases hshort with hnil | hlt
      · exact hnil
      · rw [hx.headerLen] at hlt
        omega
    refine ⟨⟨hx.congr rfl rfl rfl rfl rfl, by simp, by simpa [hnil] using hpos⟩,
      by simpa using hacc, [], by simp, ?_⟩
    rw [SiDaqFramer.restBytes_of_rest_eq_zero (by simp [hnil]), hnil]
    exact .short hpos
  case limit =>
    intro p l n hw h htakes hfull hx hzero hacc
    rw [SiDaqFramer.after, hx.frameLength] at hfull
    exact absurd hfull (SiDaqFramer.not_atQueueLimit hx.noLimit _)
  case frame =>
    intro p l n o hw h htakes hfree hat ih hx hzero hacc
    have hn : n = F := by
      have hlen := htakes.frameLen_eq
      rw [hx.frameLen] at hlen
      exact Int.ofNat.inj hlen.symm
    subst hn
    have hacc' : Unasked (l.frame data p n).accesses := by
      simpa [Locals.frame, Locals.lengthAccesses, hx.headerMode] using hacc
    have hframer : (l.frame data p n).framer = l.framer.decided := hx.frameLength _ _
    obtain ⟨hrest, hun, blocks, hque, hblocks⟩ := ih
      (by rw [hframer]; exact hx.congr rfl rfl rfl rfl rfl) (by rw [hframer]; exact hzero) hacc'
    refine ⟨hrest, hun, (data.drop p).take n :: blocks, ?_, ?_⟩
    · rw [hque]
      simp [Locals.frame]
    · rw [← List.drop_drop] at hblocks
      exact .cons htakes.le hblocks
  case save =>
    intro p l hw h hne hheader hlt hx hzero hacc
    rw [hx.frameLen] at hlt
    have hbytes := buffBytes_save (l.framer.after (data.drop p)).buffPtr (data.drop p)
    refine ⟨⟨?_, by simp, by simpa using hlt⟩,
      by simpa [Locals.lengthAccesses, hx.headerMode] using hacc, [], by simp, ?_⟩
    · rw [SiDaqFramer.after, hx.frameLength]
      exact hx.congr rfl rfl rfl rfl rfl
    · simp only [SiDaqFramer.restBytes, hbytes]
      exact .short (by omega)

omit [Inhabited α] in
/-- The first `F` bytes of what the carry-over phase looks at are those of the stream: the copy ends
behind them, or is all of the chunk. -/
theorem FixedRest.take_held (hr : FixedRest F fr) (data : List α) :
    (fr.held data).take F = (fr.restBytes ++ data).take F ∧
      (F ≤ (fr.held data).length ↔ F ≤ (fr.restBytes ++ data).length) := by
  have hlen := fr.length_restBytes
  have hrest := hr.rest_nonneg
  have hlt := hr.rest_lt
  have hle := hr.le
  have hmax := hr.max_le
  have hsize := hr.size
  have hfit : F - fr.restBytes.length ≤ (fr.buffSize - fr.rest).toNat := by omega
  constructor
  · rw [SiDaqFramer.held, SiDaqFramer.copied, List.take_append, List.take_append, List.take_take,
      min_eq_left hfit]
  · simp only [SiDaqFramer.held, SiDaqFramer.copied, List.length_append, List.length_take]
    omega

/-- **A call cuts blocks of `F` bytes**, from the carried bytes and the chunk. -/
theorem recvSiDaqData_fixed (hr : FixedRest F fr) (hdata : data.length < 2147483648)
    (que : List (List α)) :
    ∃ o, recvSiDaqData fr data que = some o ∧ CutsBlocks F (fr.restBytes ++ data) que o := by
  have hnonneg := hr.rest_nonneg
  have hlt := hr.rest_lt
  by_cases hpos : 0 < fr.rest
  · have hx : IsFixed F (fr.append data) := hr.toIsFixed.congr rfl rfl rfl rfl rfl
    have hlen := hx.frameLen (fr.held data) (fr.held data).length
    have hacc : Unasked (fr.carryAccesses data) :=
      unasked_append.mpr ⟨unasked_moves _ _ _ _, (unasked_eventLenAccess _ _).mpr hr.headerMode⟩
    obtain ⟨htake, hreach⟩ := hr.take_held data
    have hfit : fr.rest ≤ fr.buffSize := by
      have := hr.le
      have := hr.max_le
      rw [hr.size]
      omega
    by_cases hle : F ≤ (fr.held data).length
    · -- the carried frame is completed; the loop gets what is behind it
      obtain ⟨l, hl, hque, hframer, hacc', -, hat⟩ := carryOver_frame que hnonneg hfit hdata hlen hle
        (by omega)
      have hfixed : IsFixed F l.framer := by
        rw [hframer, hx.frameLength]
        exact hx.congr rfl rfl rfl rfl rfl
      have hzero : l.framer.rest = 0 := by rw [hframer]
      have hdrop : (fr.restBytes ++ data).drop F = data.drop (F - fr.rest.toNat) := by
        rw [List.drop_append, List.drop_of_length_le (by rw [fr.length_restBytes]; omega),
          fr.length_restBytes, List.nil_append]
      have hbehind : ∃ o, recvSiDaqData fr data que = some o ∧
          CutsBlocks F (data.drop (F - fr.rest.toNat)) l.que o := by
        simp only [recvSiDaqData, if_pos hpos, hl]
        rcases hat with ⟨hat, -⟩ | ⟨hnull, -, hnil⟩
        · obtain ⟨o, ho⟩ : ∃ o, recvLoop data (fr.rest.toNat + data.length + 2) l = some o :=
            recvLoop_total hfixed.toWellFormed hat hdata (by rw [List.length_drop]; omega)
          exact ⟨o, ho, recvLoop_fixed hfixed hzero (hacc' ▸ hacc) hat hdata ho⟩
        · refine ⟨_, recvLoop_of_done (loopBody_null hnull) _, ⟨hfixed, hzero.ge, ?_⟩,
            hacc' ▸ hacc, [], by simp, ?_⟩
          · rw [hzero]
            exact Int.natCast_pos.mpr hfixed.pos
          · rw [SiDaqFramer.restBytes_of_rest_eq_zero hzero, hnil]
            exact .short hfixed.pos
      obtain ⟨o, ho, hrest, hun, blocks, hoque, hblocks⟩ := hbehind
      refine ⟨o, ho, hrest, hun, (fr.held data).take F :: blocks, by rw [hoque, hque]; simp, ?_⟩
      rw [htake]
      exact .cons (hreach.mp hle) (hdrop ▸ hblocks)
    · -- still no frame: the chunk is appended, and all of it was copied
      have hall : fr.held data = fr.restBytes ++ data := by
        have hF : ¬ F ≤ (fr.restBytes ++ data).length := fun h => hle (hreach.mpr h)
        rw [List.take_of_length_le (by omega), List.take_of_length_le (by omega)] at htake
        exact htake
      have hsave := recvSiDaqData_append que hpos hfit (by rw [hlen]; omega)
      have hbytes := SiDaqFramer.buffBytes_append data hnonneg
      refine ⟨_, hsave, ⟨?_, by simp, by simpa using hle⟩, hacc, [], by simp, ?_⟩
      · rw [hx.frameLength]
        exact hx.congr rfl rfl rfl rfl rfl
      · rw [← hall]
        simp only [hx.frameLength, SiDaqFramer.restBytes, SiDaqFramer.decided, hbytes]
        exact .short (by omega)
  · have hzero : fr.rest = 0 := le_antisymm (not_lt.mp hpos) hnonneg
    have hat : AtPos data (.start fr data que) 0 := ⟨rfl, by omega, rfl⟩
    obtain ⟨o, ho⟩ : ∃ o, recvLoop data (data.length + 2) (.start fr data que) = some o :=
      recvLoop_total hr.toWellFormed hat hdata (by rw [List.drop_zero])
    refine ⟨o, (recvSiDaqData_of_rest_eq_zero data que hzero).trans ho, ?_⟩
    rw [SiDaqFramer.restBytes_of_rest_eq_zero hzero, List.nil_append]
    exact recvLoop_fixed (l := .start fr data que) hr.toIsFixed hzero (by simp [Unasked, Locals.start])
      hat hdata ho

/-- **A stream is cut into blocks of `F` bytes.** -/
theorem Session.feed_fixed {s : Session α} (hr : FixedRest F s.framer) (hun : Unasked s.accesses)
    (hempty : s.que = []) (hrest : s.framer.rest = 0) (chunks : List (Chunk α)) :
    ∃ s', s.feed chunks = some s' ∧ FixedRest F s'.framer ∧ Unasked s'.accesses ∧
      Blocks F (stream chunks) s'.que s'.framer.restBytes := by
  let I : List α → Session α → Prop := fun bs t =>
    FixedRest F t.framer ∧ Unasked t.accesses ∧ Blocks F bs t.que t.framer.restBytes
  have hstep : ∀ bs t (c : Chunk α), I bs t → ∃ t', t.recv c = some t' ∧ I (bs ++ c.bytes) t' := by
    rintro bs t c ⟨ht, htun, hblocks⟩
    obtain ⟨o, ho, hcut⟩ := recvSiDaqData_fixed ht c.fits t.que
    obtain ⟨blocks, hque, hblocks'⟩ := hcut.blocks
    refine ⟨_, Session.recv_of_recvSiDaqData ho, hcut.toFixedRest, unasked_append.mpr ⟨htun, hcut.unasked⟩, ?_⟩
    rw [hque]
    exact hblocks.append hblocks'
  have hstart : I [] s := by
    refine ⟨hr, hun, ?_⟩
    rw [hempty, SiDaqFramer.restBytes_of_rest_eq_zero hrest]
    exact .short hr.pos
  obtain ⟨s', hs', h⟩ := Session.feed_invariant hstep [] hstart chunks
  exact ⟨s', hs', h⟩

end Call

/-! ## With a header -/

/-- Framing arguments that `SiDaqRun` accepts, within the buffer, with a fixed length that is not
longer than a frame may be, and without a queue limit. -/
structure FramingParams.FixedLength (p : FramingParams α) : Prop extends p.Sized where
  noLimit : p.frameQueueLimit = 0
  pos : 1 ≤ p.fixedFrameLen.toNat
  fixed_le : p.fixedFrameLen.toNat ≤ p.maxFrameLen.toNat

section Header

variable [Inhabited α] {p : FramingParams α} {fr : SiDaqFramer α}

/-- The frames of a stream are the consecutive blocks of the fixed length, less than such a block is
carried, and the length function has not been called. -/
structure FixedFrames (p : FramingParams α) (bs : List α) (s : Session α) : Prop where
  blocks : Blocks p.fixedFrameLen.toNat bs s.que s.framer.restBytes
  rest_nonneg : 0 ≤ s.framer.rest
  rest_lt : s.framer.rest < p.fixedFrameLen.toNat
  unasked : Unasked s.accesses

omit [Inhabited α] in
theorem FixedRest.configure (hp : p.FixedLength) (hheader : p.headerLen = 0) (hrest : fr.rest = 0)
    (hsize : fr.buffSize = defaultMaxFrameLen) :
    FixedRest p.fixedFrameLen.toNat (fr.configure p) where
  toWellFormed := .configure hp.toSized hsize
  headerLen := by
    rw [SiDaqFramer.configure_headerLen fr hp.toSized, hheader]
    rfl
  fixedFrameLen := rfl
  pos := hp.pos
  le := hp.fixed_le
  noLimit := by simp [SiDaqFramer.configure, hp.noLimit]
  rest_nonneg := hrest.ge
  rest_lt := by
    show fr.rest < _
    rw [hrest]
    exact Int.natCast_pos.mpr hp.pos

/-- In header mode, a loop that has a header to look at calls the length function. -/
theorem recvLoop_asks {data : List α} {l : Locals α} {o : Outcome α} (hw : WellFormed l.framer)
    {k : ℕ} (h : AtPos data l k) (hdata : data.length < 2147483648) (hne : data.drop k ≠ [])
    (hheader : l.framer.headerLen ≤ (data.drop k).length) {fuel : ℕ}
    (hrun : recvLoop data fuel l = some o) (hun : Unasked o.accesses) :
    l.framer.headerMode = none := by
  have hall : Unasked o.accesses → Unasked l.accesses ∧ (data.drop k ≠ [] →
      l.framer.headerLen ≤ (data.drop k).length → l.framer.headerMode = none) := by
    refine recvLoop_induct (P := fun k l o => Unasked o.accesses → Unasked l.accesses ∧
      (data.drop k ≠ [] → l.framer.headerLen ≤ (data.drop k).length → l.framer.headerMode = none))
      ?short ?limit ?frame ?save hdata hw h hrun
    case short =>
      intro k l _ _ hshort hun
      refine ⟨(unasked_append.mp hun).1, fun hne hle => ?_⟩
      rcases hshort with hnil | hlt
      · exact absurd hnil hne
      · omega
    case limit =>
      intro k l n _ _ _ _ hun
      simp only [Locals.lengthAccesses, unasked_append, unasked_chunkLenAccess] at hun
      exact ⟨hun.1.1, fun _ _ => hun.1.2⟩
    case frame =>
      intro k l n o _ _ _ _ _ ih hun
      have hacc := (ih hun).1
      simp only [Locals.frame, Locals.lengthAccesses, unasked_append,
        unasked_chunkLenAccess] at hacc
      exact ⟨hacc.1.1, fun _ _ => hacc.1.2⟩
    case save =>
      intro k l _ _ _ _ _ hun
      simp only [Locals.lengthAccesses, unasked_append, unasked_chunkLenAccess] at hun
      exact ⟨hun.1.1, fun _ _ => hun.1.2⟩
  exact (hall hun).2 hne hheader

omit [Inhabited α] in
/-- Without a length function the fixed length and the header make a frame of the chunk; if that is
too long, the fallback does. -/
theorem FramingParams.FixedLength.frameLen (hp : p.FixedLength)
    (hsize : fr.buffSize = defaultMaxFrameLen) (hnone : p.lengthFunc = none) {bytes : List α}
    (hlen : bytes.length = p.fixedFrameLen.toNat + p.headerLen.toNat) :
    (fr.configure p).frameLen bytes bytes.length = bytes.length := by
  have hw := WellFormed.configure hp.toSized hsize
  have hheader := SiDaqFramer.configure_headerLen fr hp.toSized
  have hfixed := hp.fixed_le
  have hpos := hp.pos
  have hmax := hp.max_le
  have haccepted := hp.accepted
  simp only [defaultMaxFrameLen] at hmax
  have hmode : (fr.configure p).headerMode = none := by
    simp [SiDaqFramer.headerMode, SiDaqFramer.configure, hnone]
  have hevent : (fr.configure p).eventLen bytes bytes.length = p.fixedFrameLen.toNat := by
    rw [SiDaqFramer.eventLen_of_fixed hmode (show p.fixedFrameLen.toNat ≠ 0 by omega)]
    show wrap32 (p.fixedFrameLen.toNat : ℤ) = p.fixedFrameLen.toNat
    exact wrap32_of_range (by omega) (by omega)
  by_cases hok : (fr.configure p).LengthOk bytes bytes.length
  · rw [SiDaqFramer.frameLen_of_ok hw.ranged hok, hevent, hheader, hlen]
    exact (Nat.cast_add _ _).symm
  · exact SiDaqFramer.frameLen_of_not_ok hw.ranged (by omega) (by omega) hok

/-- A chunk of a header and a fixed length: the length function is called, or the chunk is queued as
one frame. -/
theorem not_fixedFrames_of_header (hp : p.FixedLength) (hheader : p.headerLen ≠ 0)
    (hrest : fr.rest = 0) (hsize : fr.buffSize = defaultMaxFrameLen) (c : Chunk α)
    (hc : c.bytes.length = p.fixedFrameLen.toNat + p.headerLen.toNat) :
    ¬ ∃ s, (Session.start fr p).feed [c] = some s ∧ FixedFrames p c.bytes s := by
  rintro ⟨s, hs, hframes⟩
  have hlen := SiDaqFramer.configure_headerLen fr hp.toSized
  have hpos : p.headerLen.toNat ≠ 0 := fun hzero => hheader (UInt32.toNat_inj.mp hzero)
  have hrest' : (fr.configure p).rest = 0 := hrest
  have hle : (fr.configure p).headerLen ≤ c.bytes.length := by omega
  obtain ⟨o, ho, rfl⟩ : ∃ o, recvSiDaqData (fr.configure p) c.bytes [] = some o ∧
      s = ⟨o.framer, o.que, o.accesses⟩ := by
    simp only [Session.feed, Session.recv, Session.start] at hs
    cases ho : recvSiDaqData (fr.configure p) c.bytes [] with
    | none => simp [ho] at hs
    | some o => exact ⟨o, rfl, by simpa [ho] using hs.symm⟩
  have hstart : recvSiDaqData (fr.configure p) c.bytes [] =
      recvLoop c.bytes (c.bytes.length + 2) (.start (fr.configure p) c.bytes []) :=
    recvSiDaqData_of_rest_eq_zero _ [] hrest'
  have hat : AtPos c.bytes (.start (fr.configure p) c.bytes []) 0 := ⟨rfl, by omega, rfl⟩
  have hmode := recvLoop_asks (WellFormed.configure hp.toSized hsize) hat c.fits c.nonempty hle
    (hstart.symm.trans ho) hframes.unasked
  have hnone : p.lengthFunc = none := by
    cases hfun : p.lengthFunc with
    | none => rfl
    | some f =>
      have hsome : (fr.configure p).headerMode = some f :=
        SiDaqFramer.headerMode_eq_some.mpr ⟨by omega, hfun⟩
      exact absurd (hmode.symm.trans hsome) (by simp)
  obtain ⟨o', buff, ho', hque, -⟩ := recvSiDaqData_whole hrest' c.nonempty c.fits hle
    (hp.frameLen hsize hnone hc) []
  obtain rfl : o = o' := Option.some.inj (ho.symm.trans ho')
  have hblock := hframes.blocks.length c.bytes (by simp [hque])
  omega

/-- **Fixed-length framing cuts every stream into blocks of that length and leaves the length
function alone, if and only if the header length is zero.** -/
theorem fixed_frames_iff (hp : p.FixedLength) (hrest : fr.rest = 0)
    (hsize : fr.buffSize = defaultMaxFrameLen) :
    (∀ chunks : List (Chunk α), ∃ s, (Session.start fr p).feed chunks = some s ∧
      FixedFrames p (stream chunks) s) ↔ p.headerLen = 0 := by
  constructor
  · intro hall
    by_contra hheader
    have hmax := hp.max_le
    have hfixed := hp.fixed_le
    have haccepted := hp.accepted
    have hpos := hp.pos
    simp only [defaultMaxFrameLen] at hmax
    let c : Chunk α := ⟨List.replicate (p.fixedFrameLen.toNat + p.headerLen.toNat) default,
      List.ne_nil_of_length_pos (by rw [List.length_replicate]; omega),
      by rw [List.length_replicate]; omega⟩
    obtain ⟨s, hs, hframes⟩ := hall [c]
    rw [stream_cons, stream_nil, List.append_nil] at hframes
    exact not_fixedFrames_of_header hp hheader hrest hsize c List.length_replicate ⟨s, hs, hframes⟩
  · intro hheader chunks
    have hr : FixedRest p.fixedFrameLen.toNat (Session.start fr p).framer :=
      .configure hp hheader hrest hsize
    obtain ⟨s, hs, hfixed, hun, hblocks⟩ :=
      Session.feed_fixed hr (by simp [Unasked, Session.start]) rfl hrest chunks
    exact ⟨s, hs, hblocks, hfixed.rest_nonneg, hfixed.rest_lt, hun⟩

end Header

/-- Frames of 8 bytes and a header length of 4, as in the sample program with its fixed mode. -/
def fixedWithHeader : FramingParams UInt8 := ⟨none, 4, 8, 0, 262144⟩

theorem fixedWithHeader_fixedLength : fixedWithHeader.FixedLength :=
  ⟨⟨by decide, by decide⟩, rfl, by decide, by decide⟩

/-- Twelve bytes are one frame. -/
theorem fixedWithHeader_misframes :
    fixedWithHeader.FixedLength ∧ ¬ ∃ s,
      (Session.fresh fixedWithHeader).feed [.of [1, 2, 3, 4, 5, 6, 7, 8, 9, 10, 11, 12]] = some s ∧
        FixedFrames fixedWithHeader [1, 2, 3, 4, 5, 6, 7, 8, 9, 10, 11, 12] s :=
  ⟨fixedWithHeader_fixedLength, not_fixedFrames_of_header fixedWithHeader_fixedLength (by decide)
    rfl rfl (.of [1, 2, 3, 4, 5, 6, 7, 8, 9, 10, 11, 12]) (by decide)⟩

/-- The same frames without a header. -/
def fixedAlone : FramingParams UInt8 := ⟨none, 0, 8, 0, 262144⟩

theorem fixedAlone_frames :
    (∀ chunks : List (Chunk UInt8), ∃ s, (Session.start newSiDaqFramer fixedAlone).feed chunks =
      some s ∧ FixedFrames fixedAlone (stream chunks) s) ↔ fixedAlone.headerLen = 0 :=
  fixed_frames_iff ⟨⟨by decide, by decide⟩, rfl, by decide, by decide⟩ rfl rfl

end SiDaqApi
