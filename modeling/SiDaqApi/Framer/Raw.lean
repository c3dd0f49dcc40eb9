import SiDaqApi.Framer.Greedy

/-!
# A framer without a length function and without a fixed length

This is how `SiDaqRun` is asked for the received data as it comes, and it is what a framing error
leaves behind. Without a header every call puts its chunk in the queue (`recvSiDaqData_null`). But
the header length is used in this mode too: it is added to the received length, and a chunk is then
always too short for its frame (`relays_iff_no_header`).
-/

namespace SiDaqApi

open MachineInt

variable {α : Type*}

/-- The decision of a framer without a length rule: what is there, or the same with an error. -/
theorem IsNull.frameLength {fr : SiDaqFramer α} (hn : IsNull fr) (bytes : List α) {avail : ℤ}
    (h₀ : 0 ≤ avail) (h₁ : avail < 2147483648) :
    fr.frameLength bytes avail = (avail,
      if avail > fr.maxFrameLen then fr.decided.putNull .exceedMaxFrameLength else fr.decided) := by
  have hmode : fr.headerMode = none := by simp [SiDaqFramer.headerMode, hn.lengthFunc]
  have hlen := SiDaqFramer.eventLen_of_raw hmode hn.fixedFrameLen bytes avail
  have huint : uint32 avail = avail := uint32_of_range h₀ (by omega)
  simp only [SiDaqFramer.frameLength, hlen, if_neg (not_lt.mpr h₀), SiDaqFramer.decided,
    hn.headerLen, add_zero, huint]
  split <;> rfl

/-- A call that puts its chunk in the queue as one frame, and leaves no length rule and no carried
bytes behind. The error code is that of the last test that fails. -/
structure Passes (fr : SiDaqFramer α) (data : List α) (que : List (List α)) (o : Outcome α) :
    Prop extends IsNull o.framer, WellFormed o.framer where
  que_eq : o.que = que ++ [data]
  rest : o.framer.rest = 0
  code : o.framer.errorCode =
    if fr.atQueueLimit (que.length + 1 : ℕ) then .exceedFrameQueueCount
    else if fr.maxFrameLen < data.length then .exceedMaxFrameLength
    else fr.errorCode

section Call

variable [Inhabited α] {fr : SiDaqFramer α} {data : List α}

/-- **A chunk that is one frame**, with nothing carried, is queued as it is. -/
theorem recvSiDaqData_whole (hrest : fr.rest = 0) (hne : data ≠ []) (hdata : data.length < 2147483648)
    (hheader : fr.headerLen ≤ data.length) (hlen : fr.frameLen data data.length = data.length)
    (que : List (List α)) :
    ∃ o buff, recvSiDaqData fr data que = some o ∧ o.que = que ++ [data] ∧
      o.framer = { fr.after data with
        errorCode := if (fr.after data).atQueueLimit (que.length + 1 : ℕ) then .exceedFrameQueueCount
          else (fr.after data).errorCode
        rest := 0
        buffPtr := buff } ∧
      fr.chunkLenAccess 0 data.length <+: o.accesses := by
  have hat : AtPos data (.start fr data que) 0 := ⟨rfl, by omega, rfl⟩
  have hbody := loopBody_frame hat hdata (by simpa using hne) hheader (n := data.length)
    (by rw [List.drop_zero]; exact hlen) (by rw [List.drop_zero])
  simp only [List.drop_zero, Locals.start, List.take_length, List.length_append,
    List.length_singleton, zero_add] at hbody
  have hkeep : (fr.after data).rest = 0 := (fr.frameLength_rest data data.length).trans hrest
  rw [recvSiDaqData_of_rest_eq_zero data que hrest]
  unfold SiDaqFramer.after at hkeep ⊢
  split at hbody
  · rename_i hfull
    refine ⟨_, (fr.frameLength data data.length).2.buffPtr, recvLoop_of_done hbody _, rfl, ?_,
      List.prefix_append _ _⟩
    rw [if_pos hfull]
    simp only [hkeep]
  · rename_i hfree
    -- nothing is left of the chunk
    have hend : AtPos data ⟨(fr.frameLength data data.length).2, que ++ [data],
        some (data.length : ℕ), (data.drop data.length).length, (0 : ℤ) + 1, ([] : List Access) ++
          fr.chunkLenAccess 0 data.length ++ [.chunk 0 data.length]⟩ data.length :=
      ⟨rfl, le_rfl, rfl⟩
    have hstop := loopBody_short hend (Or.inl List.drop_length)
    refine ⟨_, buffWrite (fr.frameLength data data.length).2.buffPtr 0
      (chunkBytes data data.length 1), (recvLoop_of_next hbody _).trans (recvLoop_of_done hstop _),
      rfl, ?_, ?_⟩
    · rw [if_neg hfree]
      simp only [List.drop_length, List.length_nil, Nat.cast_zero]
    · simp only [List.nil_append, List.append_assoc]
      exact List.prefix_append _ _

/-- **A call without a length rule** and with nothing carried passes the chunk on. -/
theorem recvSiDaqData_null (hn : IsNull fr) (hw : WellFormed fr) (hrest : fr.rest = 0)
    (hne : data ≠ []) (hdata : data.length < 2147483648) (que : List (List α)) :
    ∃ o, recvSiDaqData fr data que = some o ∧ Passes fr data que o := by
  have hlen := hn.frameLen hw data data.length (by omega) (by omega)
  obtain ⟨o, buff, ho, hque, hframer, -⟩ := recvSiDaqData_whole hrest hne hdata
    (by rw [hn.headerLen]; omega) hlen que
  have hafter : fr.after data = if (data.length : ℤ) > fr.maxFrameLen then
      fr.decided.putNull .exceedMaxFrameLength else fr.decided := by
    rw [SiDaqFramer.after, hn.frameLength data (by omega) (by omega)]
  -- the framer is as it was, but for the error code
  have hsame : IsNull (fr.after data) ∧ WellFormed (fr.after data) ∧
      (fr.after data).queueLimit = fr.queueLimit ∧ (fr.after data).errorCode =
        if fr.maxFrameLen < data.length then .exceedMaxFrameLength else fr.errorCode := by
    by_cases hlong : fr.maxFrameLen < data.length
    · rw [hafter, if_pos (by omega), if_pos hlong]
      exact ⟨.putNull _ _, hw.decided.putNull _, rfl, rfl⟩
    · rw [hafter, if_neg (by omega), if_neg hlong]
      exact ⟨hn.decided, hw.decided, rfl, rfl⟩
  obtain ⟨hnull, hwell, hlimit, hcode⟩ := hsame
  have hfull : (fr.after data).atQueueLimit (que.length + 1 : ℕ) ↔
      fr.atQueueLimit (que.length + 1 : ℕ) := by
    simp only [SiDaqFramer.atQueueLimit, hlimit]
  rw [hcode] at hframer
  simp only [hfull] at hframer
  refine ⟨o, ho, ?_, ?_, hque, ?_, ?_⟩ <;> rw [hframer]
  · exact ⟨hnull.lengthFunc, hnull.headerLen, hnull.fixedFrameLen⟩
  · exact hwell.congr rfl rfl rfl rfl

omit [Inhabited α] in
/-- No error is recorded unless a test fails. -/
theorem Passes.noError {que : List (List α)} {o : Outcome α} (h : Passes fr data que o)
    (hlimit : fr.queueLimit = 0) (hlen : data.length ≤ fr.maxFrameLen)
    (hcode : fr.errorCode = .noError) : o.framer.errorCode = .noError := by
  rw [h.code, if_neg (SiDaqFramer.not_atQueueLimit hlimit _), if_neg (not_lt.mpr hlen), hcode]

end Call

/-! ## The received length as the frame length -/

/-- Framing arguments that `SiDaqRun` accepts, within the buffer, without a queue limit and without a
length rule. -/
structure FramingParams.Raw (p : FramingParams α) : Prop extends p.Sized where
  noLimit : p.frameQueueLimit = 0
  lengthFunc : p.lengthFunc = none
  fixedFrameLen : p.fixedFrameLen = 0

section Relays

variable [Inhabited α]

/-- A call for each chunk in turn, whatever the event queue holds then: the chunk becomes a frame at
once, nothing is carried, no error is recorded. -/
def Relays : SiDaqFramer α → List (Chunk α) → Prop
  | _, [] => True
  | fr, c :: cs => ∀ que, ∃ o, recvSiDaqData fr c.bytes que = some o ∧ o.que = que ++ [c.bytes] ∧
      o.framer.rest = 0 ∧ o.framer.errorCode = .noError ∧ Relays o.framer cs

/-- A framer without a length rule relays chunks that are no longer than a frame may be. -/
theorem IsNull.relays {fr : SiDaqFramer α} (hn : IsNull fr) (hw : WellFormed fr)
    (hrest : fr.rest = 0) (hlimit : fr.queueLimit = 0) (hcode : fr.errorCode = .noError)
    {chunks : List (Chunk α)} (hlen : ∀ c ∈ chunks, c.bytes.length ≤ fr.maxFrameLen) :
    Relays fr chunks := by
  induction chunks generalizing fr with
  | nil => trivial
  | cons c cs ih =>
    intro que
    obtain ⟨o, ho, hpass⟩ := recvSiDaqData_null hn hw hrest c.nonempty c.fits que
    have hno := hpass.noError hlimit (hlen c List.mem_cons_self) hcode
    have hsetup := recvSiDaqData_setup ho
    refine ⟨o, ho, hpass.que_eq, hpass.rest, hno, ?_⟩
    refine ih hpass.toIsNull hpass.toWellFormed hpass.rest (hsetup.queueLimit.trans hlimit) hno ?_
    intro c' hc'
    rw [hsetup.maxFrameLen]
    exact hlen c' (List.mem_cons_of_mem c hc')

omit [Inhabited α] in
/-- The header length is added to what is there, so that one byte never is a frame. -/
theorem FramingParams.Raw.frameLen {p : FramingParams α} (hp : p.Raw) {fr : SiDaqFramer α}
    (hsize : fr.buffSize = defaultMaxFrameLen) (hone : p.headerLen.toNat = 1) {bytes : List α} (hbytes : bytes.length = 1) :
    (fr.configure p).frameLen bytes bytes.length = 2 := by
  have haccepted := hp.accepted
  have hlen : (fr.configure p).headerLen = 1 := by
    rw [SiDaqFramer.configure_headerLen fr hp.toSized, hone]
    rfl
  have hmode : (fr.configure p).headerMode = none := by
    simp [SiDaqFramer.headerMode, SiDaqFramer.configure, hp.lengthFunc]
  have hraw := SiDaqFramer.eventLen_of_raw hmode
    (show p.fixedFrameLen.toNat = 0 by simp [hp.fixedFrameLen]) bytes (bytes.length : ℤ)
  have hok : (fr.configure p).LengthOk bytes bytes.length := by
    refine ⟨by rw [hraw]; omega, ?_⟩
    show _ ≤ ((p.maxFrameLen.toNat : ℕ) : ℤ)
    rw [hraw, hlen, hbytes]
    omega
  rw [SiDaqFramer.frameLen_of_ok (WellFormed.configure hp.toSized hsize).ranged hok, hraw, hlen,
    hbytes]
  rfl

/-- With a header, one byte is not passed on: it is shorter than a header, or than its frame. -/
theorem FramingParams.Raw.withholds {p : FramingParams α} (hp : p.Raw) (hheader : p.headerLen ≠ 0)
    {fr : SiDaqFramer α} (hrest : fr.rest = 0) (hsize : fr.buffSize = defaultMaxFrameLen)
    {data : List α} (hdata : data.length = 1) :
    ∃ o, recvSiDaqData (fr.configure p) data [] = some o ∧ o.que = [] := by
  have hlen := SiDaqFramer.configure_headerLen fr hp.toSized
  have hpos : 0 < p.headerLen.toNat := by
    rw [Nat.pos_iff_ne_zero]
    exact fun hzero => hheader (UInt32.toNat_inj.mp hzero)
  by_cases hone : p.headerLen.toNat = 1
  · have hframe := hp.frameLen hsize hone hdata
    exact ⟨_, recvSiDaqData_save [] hrest (List.ne_nil_of_length_pos (by omega)) (by omega)
      (by omega), rfl⟩
  · have hat : AtPos data (.start (fr.configure p) data []) 0 := ⟨rfl, by omega, rfl⟩
    have hshort : (data.length : ℤ) < (fr.configure p).headerLen := by omega
    have hstop := loopBody_short hat (Or.inr hshort)
    have hstart : recvSiDaqData (fr.configure p) data [] =
        recvLoop data (data.length + 2) (.start (fr.configure p) data []) :=
      recvSiDaqData_of_rest_eq_zero data [] hrest
    exact ⟨_, hstart.trans (recvLoop_of_done hstop _), rfl⟩

/-- So a single byte is enough to tell the two apart. -/
theorem FramingParams.Raw.not_relays {p : FramingParams α} (hp : p.Raw) (hheader : p.headerLen ≠ 0)
    {fr : SiDaqFramer α} (hrest : fr.rest = 0) (hsize : fr.buffSize = defaultMaxFrameLen) :
    ¬ Relays (fr.configure p) [.of [default]] := by
  intro h
  obtain ⟨o, ho, hque, -⟩ := h []
  obtain ⟨o', ho', hempty⟩ := hp.withholds hheader hrest hsize
    (show ([default] : List α).length = 1 from rfl)
  obtain rfl : o = o' := Option.some.inj (ho.symm.trans ho')
  simp [hempty] at hque

/-- **Without a length rule the received length is the frame length, for all chunks that are no
longer than a frame may be, if and only if the header length is zero.** -/
theorem relays_iff_no_header {p : FramingParams α} (hp : p.Raw) {fr : SiDaqFramer α}
    (hrest : fr.rest = 0) (hsize : fr.buffSize = defaultMaxFrameLen) :
    (∀ chunks : List (Chunk α), (∀ c ∈ chunks, c.bytes.length ≤ p.maxFrameLen.toNat) →
      Relays (fr.configure p) chunks) ↔ p.headerLen = 0 := by
  constructor
  · intro hall
    by_contra hheader
    have haccepted := hp.accepted
    refine hp.not_relays hheader hrest hsize (hall [.of [default]] fun c hc => ?_)
    rw [List.mem_singleton.mp hc]
    show 1 ≤ _
    omega
  · intro hzero chunks hlen
    have hheader := SiDaqFramer.configure_headerLen fr hp.toSized
    rw [hzero] at hheader
    have hfixed : p.fixedFrameLen.toNat = 0 := by simp [hp.fixedFrameLen]
    have hlimit : p.frameQueueLimit.toNat = 0 := by simp [hp.noLimit]
    exact IsNull.relays ⟨hp.lengthFunc, hheader, hfixed⟩ (.configure hp.toSized hsize) hrest hlimit rfl
      hlen

end Relays

/-- No length function, and a header of four bytes. -/
def headerAlone : FramingParams UInt8 := ⟨none, 4, 0, 0, 262144⟩

theorem headerAlone_raw : headerAlone.Raw := ⟨⟨by decide, by decide⟩, rfl, rfl, rfl⟩

/-- Eight bytes are taken for the beginning of a frame of twelve. -/
theorem headerAlone_withholds :
    headerAlone.Raw ∧ ¬ Relays (newSiDaqFramer.configure headerAlone)
      [.of [1, 2, 3, 4, 5, 6, 7, 8]] := by
  refine ⟨headerAlone_raw, fun h => ?_⟩
  obtain ⟨o, ho, hque, -⟩ := h []
  have hheld : (recvSiDaqData (newSiDaqFramer.configure headerAlone) [1, 2, 3, 4, 5, 6, 7, 8]
      []).map (fun o => (o.que, o.framer.rest)) = some ([], 8) := by decide
  rw [show recvSiDaqData (newSiDaqFramer.configure headerAlone) [1, 2, 3, 4, 5, 6, 7, 8] [] =
    some o from ho, Option.map_some, Option.some.injEq, Prod.mk.injEq] at hheld
  rw [hheld.1] at hque
  exact absurd hque (by decide)

/-- Neither a length rule nor a header. -/
def wholeChunks : FramingParams UInt8 := ⟨none, 0, 0, 0, 262144⟩

theorem wholeChunks_relays :
    (∀ chunks : List (Chunk UInt8),
      (∀ c ∈ chunks, c.bytes.length ≤ wholeChunks.maxFrameLen.toNat) →
        Relays (newSiDaqFramer.configure wholeChunks) chunks) ↔ wholeChunks.headerLen = 0 :=
  relays_iff_no_header ⟨⟨by decide, by decide⟩, rfl, rfl, rfl⟩ rfl rfl

end SiDaqApi
