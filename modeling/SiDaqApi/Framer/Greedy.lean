import SiDaqApi.Framer.Stream
import SiDaqApi.Lib.Segment

/-!
# Framing is the greedy parse of the stream

`FramingParams.verdict` says what the configured framing means for the bytes from a frame start on,
with no reference to chunks. `feed_eq_greedy`: for a header of at most two bytes the frames
`RecvSiDaqData` queues are those of the greedy parse of the whole stream, and the carry-over is its
tail, however TCP cut the stream. From the first bad length on the framer is a pass-through.
-/

namespace SiDaqApi

open MachineInt Segment

variable {α : Type*}

/-! ## The null framer -/

/-- No length rule is configured. -/
structure IsNull (fr : SiDaqFramer α) : Prop where
  lengthFunc : fr.lengthFunc = none
  headerLen : fr.headerLen = 0
  fixedFrameLen : fr.fixedFrameLen = 0

theorem IsNull.putNull (fr : SiDaqFramer α) (code : FramerErrorCode) : IsNull (fr.putNull code) :=
  ⟨rfl, rfl, rfl⟩

theorem IsNull.decided {fr : SiDaqFramer α} (h : IsNull fr) : IsNull fr.decided :=
  ⟨h.lengthFunc, h.headerLen, h.fixedFrameLen⟩

/-- The framer after a framing error: a pass-through with nothing carried. -/
structure Failed (fr : SiDaqFramer α) : Prop extends IsNull fr where
  code : fr.errorCode.IsFraming
  rest : fr.rest = 0

/-- Without a length rule, the frame is what is there. -/
theorem IsNull.frameLen {fr : SiDaqFramer α} (hn : IsNull fr) (hw : WellFormed fr)
    (bytes : List α) (avail : ℤ) (h₀ : 0 ≤ avail) (h₁ : avail < 2147483648) :
    fr.frameLen bytes avail = avail := by
  by_cases hok : fr.LengthOk bytes avail
  · have hmode : fr.headerMode = none := by simp [SiDaqFramer.headerMode, hn.lengthFunc]
    rw [SiDaqFramer.frameLen_of_ok hw.ranged hok,
      SiDaqFramer.eventLen_of_raw hmode hn.fixedFrameLen, hn.headerLen, add_zero]
  · exact SiDaqFramer.frameLen_of_not_ok hw.ranged h₀ h₁ hok

/-- A failed framer stays failed when it decides on a length. -/
theorem Failed.frameLength {fr : SiDaqFramer α} (hf : Failed fr) (hw : WellFormed fr)
    (bytes : List α) {avail : ℤ} (h₀ : 0 ≤ avail) (h₁ : avail < 2147483648) :
    Failed (fr.frameLength bytes avail).2 := by
  rcases SiDaqFramer.frameLength_snd hw.ranged bytes h₀ h₁ with h | ⟨code, hcode, h⟩
  · rw [h]
    exact ⟨hf.toIsNull.decided, hf.code, hf.rest⟩
  · rw [h]
    exact ⟨.putNull _ _, hcode, hf.rest⟩

section Loop

variable [Inhabited α] {data : List α} {l : Locals α} {p : ℕ}

private theorem recvLoop_failed_nil (hf : Failed l.framer) (h : AtPos data l p)
    (hnil : data.drop p = []) {fuel : ℕ} {o : Outcome α} (hrun : recvLoop data fuel l = some o) :
    Failed o.framer ∧ o.que = l.que := by
  cases fuel with
  | zero => simp [recvLoop] at hrun
  | succ fuel =>
    rw [recvLoop_of_done (loopBody_short h (Or.inl hnil)), Option.some.injEq] at hrun
    subst hrun
    refine ⟨⟨⟨hf.lengthFunc, hf.headerLen, hf.fixedFrameLen⟩, hf.code, ?_⟩, rfl⟩
    simp [hnil]

/-- A failed framer puts what is left of the chunk into one frame. -/
theorem recvLoop_failed (hs : Sound l.framer) (hnl : l.framer.queueLimit = 0)
    (hf : Failed l.framer) (h : AtPos data l p) (hdata : data.length < 2147483648) {fuel : ℕ}
    {o : Outcome α} (hrun : recvLoop data fuel l = some o) :
    Failed o.framer ∧ o.que = l.que ++ if data.drop p = [] then [] else [data.drop p] := by
  by_cases hnil : data.drop p = []
  · obtain ⟨hfail, hque⟩ := recvLoop_failed_nil hf h hnil hrun
    exact ⟨hfail, by rw [hque, if_pos hnil, List.append_nil]⟩
  · cases fuel with
    | zero => simp [recvLoop] at hrun
    | succ fuel =>
      have hsmall : ((data.drop p).length : ℤ) < 2147483648 := by
        rw [List.length_drop]
        omega
      have hframe := hf.toIsNull.frameLen hs.toWellFormed (data.drop p)
        (data.drop p).length (by omega) hsmall
      have hlimit := l.framer.frameLength_queueLimit (data.drop p) (data.drop p).length
      have hheader : l.framer.headerLen ≤ (data.drop p).length := by
        rw [hf.headerLen]
        omega
      have hbody := loopBody_frame h hdata hnil hheader hframe le_rfl
      simp only [if_neg (SiDaqFramer.not_atQueueLimit (hlimit.trans hnl) _),
        List.take_length] at hbody
      rw [recvLoop_of_next hbody] at hrun
      -- the pass-through takes the rest of the chunk in one frame
      have hend : data.drop (p + (data.drop p).length) = [] := by
        rw [List.drop_eq_nil_iff, List.length_drop]
        omega
      have hp := h.le
      obtain ⟨hfail, hque⟩ := recvLoop_failed_nil (p := p + (data.drop p).length)
        (hf.frameLength hs.toWellFormed _ (by omega) hsmall)
        ⟨rfl, by rw [List.length_drop]; omega, rfl⟩ hend hrun
      exact ⟨hfail, by rw [hque, if_neg hnil]⟩

end Loop

/-! ## The verdict of a configuration -/

/-- The length part of a frame with the given header. -/
def FramingParams.lengthPart (p : FramingParams α) (header : List α) : ℤ :=
  match p.lengthFunc with
  | some f => (f 0 header p.headerLen.toNat).toInt
  | none => p.fixedFrameLen.toNat

/-- What the framing arguments say about the bytes `bs` from a frame start on. -/
def FramingParams.verdict (p : FramingParams α) (bs : List α) : Verdict :=
  let header := p.headerLen.toNat
  let len := p.lengthPart (bs.take header)
  if bs.length < max 1 header then .more
  else if len < 0 ∨ (header : ℤ) + len > p.maxFrameLen.toNat then .bad
  else if (header : ℤ) + len ≤ bs.length then .frame (header + len.toNat)
  else .more

/-- Framing arguments with a header of at most two bytes that delimit frames, by a header or by a
fixed length. -/
structure FramingParams.Delimited (p : FramingParams α) : Prop extends p.Regular where
  header_le : p.headerLen.toNat ≤ 2
  mode : (p.lengthFunc ≠ none ∧ 1 ≤ p.headerLen.toNat) ∨
    (p.lengthFunc = none ∧ p.fixedFrameLen.toNat ≠ 0)

variable {p : FramingParams α}

theorem FramingParams.verdict_of_short {bs : List α} (h : bs.length < max 1 p.headerLen.toNat) :
    p.verdict bs = .more := by
  simp only [FramingParams.verdict, if_pos h]

theorem FramingParams.verdict_of_bad {bs : List α} (h : max 1 p.headerLen.toNat ≤ bs.length)
    (hbad : p.lengthPart (bs.take p.headerLen.toNat) < 0 ∨
      (p.headerLen.toNat : ℤ) + p.lengthPart (bs.take p.headerLen.toNat) > p.maxFrameLen.toNat) :
    p.verdict bs = .bad := by
  simp only [FramingParams.verdict, if_neg (not_lt.mpr h), if_pos hbad]

theorem FramingParams.verdict_of_ok {bs : List α} (h : max 1 p.headerLen.toNat ≤ bs.length)
    {n : ℕ} (hn : p.lengthPart (bs.take p.headerLen.toNat) = n)
    (hle : p.headerLen.toNat + n ≤ p.maxFrameLen.toNat) :
    p.verdict bs = if p.headerLen.toNat + n ≤ bs.length then .frame (p.headerLen.toNat + n)
      else .more := by
  have hok : ¬ ((n : ℤ) < 0 ∨ (p.headerLen.toNat : ℤ) + n > p.maxFrameLen.toNat) := by omega
  simp only [FramingParams.verdict, if_neg (not_lt.mpr h), hn, if_neg hok, Int.toNat_natCast]
  norm_cast

/-- A frame start with a usable length is recognised by its header alone. -/
theorem FramingParams.verdict_eq_frame {bs : List α} {k : ℕ} (h : p.verdict bs = .frame k) :
    max 1 p.headerLen.toNat ≤ bs.length ∧ ∃ n : ℕ,
      p.lengthPart (bs.take p.headerLen.toNat) = n ∧ k = p.headerLen.toNat + n ∧
      k ≤ p.maxFrameLen.toNat ∧ k ≤ bs.length := by
  simp only [FramingParams.verdict] at h
  split at h
  · simp at h
  · rename_i hlong
    split at h
    · simp at h
    · rename_i hok
      split at h
      · rename_i hle
        rw [not_or, not_lt, not_lt] at hok
        obtain ⟨n, hn⟩ := Int.eq_ofNat_of_zero_le hok.1
        rw [hn] at hok hle h
        simp only [Int.toNat_natCast, Verdict.frame.injEq] at h
        exact ⟨by omega, n, hn, h.symm, by omega, by omega⟩
      · simp at h

theorem FramingParams.verdict_eq_bad {bs : List α} (h : p.verdict bs = .bad) :
    max 1 p.headerLen.toNat ≤ bs.length ∧
      (p.lengthPart (bs.take p.headerLen.toNat) < 0 ∨
        (p.headerLen.toNat : ℤ) + p.lengthPart (bs.take p.headerLen.toNat) >
          p.maxFrameLen.toNat) := by
  simp only [FramingParams.verdict] at h
  split at h
  · simp at h
  · rename_i hlong
    split at h
    · rename_i hbad
      exact ⟨by omega, hbad⟩
    · split at h <;> simp at h

/-- More bytes do not change what the framing arguments say about a frame start. -/
theorem FramingParams.Delimited.lawful (hp : p.Delimited) : Lawful p.verdict where
  nil := FramingParams.verdict_of_short (by simp)
  frame_pos := by
    intro bs k h
    obtain ⟨-, n, hn, rfl, -, -⟩ := FramingParams.verdict_eq_frame h
    rcases hp.mode with ⟨-, hone⟩ | ⟨hnone, hfixed⟩
    · omega
    · simp only [FramingParams.lengthPart, hnone] at hn
      omega
  frame_le := by
    intro bs k h
    obtain ⟨-, n, -, -, -, hle⟩ := FramingParams.verdict_eq_frame h
    exact hle
  frame_append := by
    intro bs k cs h
    obtain ⟨hlong, n, hn, rfl, hmax, hle⟩ := FramingParams.verdict_eq_frame h
    have htake : (bs ++ cs).take p.headerLen.toNat = bs.take p.headerLen.toNat :=
      List.take_append_of_le_length (by omega)
    rw [FramingParams.verdict_of_ok (by rw [List.length_append]; omega)
      (by rw [htake]; exact hn) hmax]
    rw [if_pos (by rw [List.length_append]; omega)]
  bad_append := by
    intro bs cs h
    obtain ⟨hlong, hbad⟩ := FramingParams.verdict_eq_bad h
    have htake : (bs ++ cs).take p.headerLen.toNat = bs.take p.headerLen.toNat :=
      List.take_append_of_le_length (by omega)
    exact FramingParams.verdict_of_bad (by rw [List.length_append]; omega) (by rwa [htake])

/-! ## The configured framer -/

/-- The framer works as configured by `p`, and has met no error. -/
structure Configured (p : FramingParams α) (fr : SiDaqFramer α) : Prop extends Sound fr where
  noLimit : fr.queueLimit = 0
  headerLen_eq : fr.headerLen = p.headerLen.toNat
  lengthFunc_eq : fr.lengthFunc = p.lengthFunc
  fixedFrameLen_eq : fr.fixedFrameLen = p.fixedFrameLen.toNat
  maxFrameLen_eq : fr.maxFrameLen = p.maxFrameLen.toNat
  noError : fr.errorCode = .noError

theorem Configured.configure (hp : p.Delimited) {fr : SiDaqFramer α}
    (hsize : fr.buffSize = defaultMaxFrameLen) : Configured p (fr.configure p) where
  toSound := .configure hp.toFits hsize hp.header_le
  noLimit := by simp [SiDaqFramer.configure, hp.noLimit]
  headerLen_eq := SiDaqFramer.configure_headerLen fr hp.toFits.sized
  lengthFunc_eq := rfl
  fixedFrameLen_eq := rfl
  maxFrameLen_eq := rfl
  noError := rfl

theorem Configured.decided {fr : SiDaqFramer α} (hc : Configured p fr) :
    Configured p fr.decided :=
  ⟨hc.toSound.decided, hc.noLimit, hc.headerLen_eq, hc.lengthFunc_eq, hc.fixedFrameLen_eq,
    hc.maxFrameLen_eq, hc.noError⟩

/-- A change of the carry-over alone. -/
theorem Configured.withRest {fr : SiDaqFramer α} (hc : Configured p fr) (rest : ℤ)
    (buff : ℕ → α) : Configured p { fr with rest := rest, buffPtr := buff } :=
  ⟨hc.toSound.congr rfl rfl rfl rfl rfl, hc.noLimit, hc.headerLen_eq, hc.lengthFunc_eq,
    hc.fixedFrameLen_eq, hc.maxFrameLen_eq, hc.noError⟩

/-- The length the framer decides on is the length part, unless a fixed length is out of range. -/
theorem Configured.eventLen_eq (hp : p.Delimited) {fr : SiDaqFramer α} (hc : Configured p fr)
    {bs : List α} (hlong : max 1 p.headerLen.toNat ≤ bs.length) (avail : ℤ) :
    fr.eventLen bs avail = wrap32 (p.lengthPart (bs.take p.headerLen.toNat)) := by
  rcases hp.mode with ⟨hsome, hone⟩ | ⟨hnone, hfixed⟩
  · obtain ⟨f, hf⟩ := Option.ne_none_iff_exists'.mp hsome
    have hmode : fr.headerMode = some f := by
      rw [SiDaqFramer.headerMode_eq_some, hc.headerLen_eq, hc.lengthFunc_eq]
      exact ⟨by omega, hf⟩
    have htwo := hp.header_le
    have huint : uint32 (p.headerLen.toNat : ℤ) = p.headerLen.toNat :=
      uint32_of_range (by omega) (by omega)
    have hstable := hp.stable f hf fr.decisions 0 bs (bs.take p.headerLen.toNat) (by omega)
      (by rw [List.length_take]; omega) (by simp [List.take_take])
    rw [SiDaqFramer.eventLen_of_header hmode, hc.headerLen_eq, huint, hstable]
    simp only [FramingParams.lengthPart, hf]
    rw [wrap32_of_range (Int32.le_toInt _) (Int32.toInt_lt _)]
  · have hmode : fr.headerMode = none := by
      simp [SiDaqFramer.headerMode, hc.lengthFunc_eq, hnone]
    have hne : fr.fixedFrameLen ≠ 0 := by rw [hc.fixedFrameLen_eq]; exact hfixed
    rw [SiDaqFramer.eventLen_of_fixed hmode hne, hc.fixedFrameLen_eq]
    simp only [FramingParams.lengthPart, hnone]

/-- The framer's decision is the verdict of its configuration. -/
theorem Configured.verdict_of_ok (hp : p.Delimited) {fr : SiDaqFramer α} (hc : Configured p fr)
    {bs : List α} (hlong : max 1 p.headerLen.toNat ≤ bs.length)
    (hok : fr.LengthOk bs bs.length) :
    p.verdict bs = if fr.frameLen bs bs.length ≤ bs.length then
      .frame (fr.frameLen bs bs.length).toNat else .more := by
  have hlen := SiDaqFramer.frameLen_of_ok hc.toWellFormed.ranged hok
  obtain ⟨hnonneg, hmax⟩ := hok
  rw [hc.eventLen_eq hp hlong, hc.headerLen_eq] at hlen
  rw [hc.eventLen_eq hp hlong] at hnonneg hmax
  rw [hc.headerLen_eq, hc.maxFrameLen_eq] at hmax
  have hcap := hp.max_le
  simp only [defaultMaxFrameLen] at hcap
  have hwrap : wrap32 (p.lengthPart (bs.take p.headerLen.toNat)) =
      p.lengthPart (bs.take p.headerLen.toNat) := by
    -- a length part outside the range of `int` would have wrapped to a negative number
    unfold FramingParams.lengthPart at hnonneg hmax ⊢
    split at hnonneg
    · exact wrap32_of_range (Int32.le_toInt _) (Int32.toInt_lt _)
    · have hfixed := p.fixedFrameLen.toNat_lt
      unfold wrap32 at hnonneg hmax ⊢
      omega
  rw [hwrap] at hnonneg hmax hlen
  obtain ⟨n, hn⟩ := Int.eq_ofNat_of_zero_le hnonneg
  rw [hn] at hlen hmax
  rw [FramingParams.verdict_of_ok hlong hn (by omega), hlen]
  have htoNat : ((n : ℤ) + p.headerLen.toNat).toNat = p.headerLen.toNat + n := by omega
  have hiff : ((n : ℤ) + p.headerLen.toNat ≤ bs.length) ↔ p.headerLen.toNat + n ≤ bs.length := by
    omega
  simp only [htoNat, hiff]

theorem Configured.verdict_of_not_ok (hp : p.Delimited) {fr : SiDaqFramer α}
    (hc : Configured p fr) {bs : List α} (hlong : max 1 p.headerLen.toNat ≤ bs.length)
    (hbad : ¬ fr.LengthOk bs bs.length) : p.verdict bs = .bad := by
  refine FramingParams.verdict_of_bad hlong ?_
  by_contra hok
  rw [not_or, not_lt, not_lt] at hok
  have hcap := hp.max_le
  simp only [defaultMaxFrameLen] at hcap
  refine hbad ⟨?_, ?_⟩
  · rw [hc.eventLen_eq hp hlong, wrap32_of_range (by omega) (by omega)]
    exact hok.1
  · rw [hc.eventLen_eq hp hlong, wrap32_of_range (by omega) (by omega), hc.headerLen_eq,
      hc.maxFrameLen_eq]
    omega

/-- What framing the bytes `bs` adds to the queue and leaves in the framer: the greedy parse, or its
frames and a pass-through. -/
def Parsed (p : FramingParams α) (bs : List α) (que que' : List (List α)) (fr : SiDaqFramer α) :
    Prop :=
  if (parse p.verdict bs).bad then
    que ++ (parse p.verdict bs).frames <+: que' ∧ Failed fr
  else
    que' = que ++ (parse p.verdict bs).frames ∧ fr.restBytes = (parse p.verdict bs).tail ∧
      Configured p fr

theorem Parsed.of_more (hp : p.Delimited) {bs : List α} (h : p.verdict bs = .more)
    {que : List (List α)} {fr : SiDaqFramer α} (hc : Configured p fr) (hrest : fr.restBytes = bs) :
    Parsed p bs que que fr := by
  simp [Parsed, parse_of_more hp.lawful h, hc, hrest]

theorem Parsed.of_bad (hp : p.Delimited) {bs : List α} (h : p.verdict bs = .bad)
    {que que' : List (List α)} {fr : SiDaqFramer α} (hpre : que <+: que') (hf : Failed fr) :
    Parsed p bs que que' fr := by
  simp [Parsed, parse_of_bad hp.lawful h, hpre, hf]

theorem Parsed.of_frame (hp : p.Delimited) {bs : List α} {n : ℕ} (h : p.verdict bs = .frame n)
    {que que' : List (List α)} {fr : SiDaqFramer α}
    (hdrop : Parsed p (bs.drop n) (que ++ [bs.take n]) que' fr) : Parsed p bs que que' fr := by
  simpa [Parsed, parse_of_frame hp.lawful h] using hdrop

section Calls

variable [Inhabited α] {data : List α} {l : Locals α} {k : ℕ}

/-- The loop parses the bytes left of the chunk. -/
theorem recvLoop_parsed (hp : p.Delimited) (hc : Configured p l.framer) (hzero : l.framer.rest = 0)
    (h : AtPos data l k) (hdata : data.length < 2147483648) {fuel : ℕ} {o : Outcome α}
    (hrun : recvLoop data fuel l = some o) : Parsed p (data.drop k) l.que o.que o.framer := by
  induction fuel generalizing l k with
  | zero => simp [recvLoop] at hrun
  | succ fuel ih =>
    have hsmall : ((data.drop k).length : ℤ) < 2147483648 := by
      rw [List.length_drop]
      omega
    have htwo := hp.header_le
    have hheader := hc.headerLen_eq
    by_cases hshort : data.drop k = [] ∨ ((data.drop k).length : ℤ) < l.framer.headerLen
    · rw [recvLoop_of_done (loopBody_short h hshort), Option.some.injEq] at hrun
      subst hrun
      -- the code saves one byte whatever is left, so this needs headers of at most two bytes
      have hlen : (data.drop k).length ≤ 1 ∧ (data.drop k).length < max 1 p.headerLen.toNat := by
        rcases hshort with hnil | hlt
        · simp [hnil]
        · omega
      refine Parsed.of_more hp (FramingParams.verdict_of_short hlen.2) (hc.withRest _ _) ?_
      exact restBytes_partial _ hlen.1 _ fun hne => by
        have hpos := List.length_pos_iff.mpr hne
        have hone := h.chunkBytes_eq (n := 1) (by omega)
        rw [Nat.cast_one] at hone
        rw [hone, List.take_of_length_le hlen.1]
    · rw [not_or, not_lt] at hshort
      obtain ⟨hne, hle⟩ := hshort
      have hpos := List.length_pos_iff.mpr hne
      have hlong : max 1 p.headerLen.toNat ≤ (data.drop k).length := by omega
      have hp' := h.le
      by_cases hok : l.framer.LengthOk (data.drop k) (data.drop k).length
      · have hverdict := hc.verdict_of_ok hp hlong hok
        have hr := SiDaqFramer.frameLength_of_ok hc.toWellFormed.ranged hok
        have hframe := SiDaqFramer.frameLen_pos hc.toWellFormed.ranged (data.drop k) (by omega) hsmall
        obtain ⟨n, hn⟩ := Int.eq_ofNat_of_zero_le hframe.le
        rw [hn, Int.toNat_natCast] at hverdict
        by_cases hfits : n ≤ (data.drop k).length
        · -- a complete frame
          rw [if_pos (by omega)] at hverdict
          have hbody := loopBody_frame h hdata hne hle hn hfits
          simp only [hr, if_neg (SiDaqFramer.not_atQueueLimit hc.decided.noLimit _)] at hbody
          rw [recvLoop_of_next hbody] at hrun
          refine Parsed.of_frame hp hverdict ?_
          rw [List.drop_drop]
          rw [List.length_drop] at hfits
          refine ih (k := k + n) ?_ ?_ ?_ hrun
          · exact hc.decided
          · exact hzero
          · exact ⟨rfl, by omega, rfl⟩
        · -- an incomplete frame
          rw [if_neg (by omega)] at hverdict
          rw [recvLoop_of_next (loopBody_save h hne hle (by omega))] at hrun
          cases fuel with
          | zero => simp [recvLoop] at hrun
          | succ fuel =>
            rw [recvLoop_of_done (loopBody_null rfl), Option.some.injEq] at hrun
            subst hrun
            rw [hr]
            refine Parsed.of_more hp hverdict (hc.decided.withRest _ _) ?_
            exact buffBytes_save l.framer.decided.buffPtr (data.drop k)
      · -- a bad length: the bytes left become one frame, and the framer a pass-through
        have hverdict := hc.verdict_of_not_ok hp hlong hok
        obtain ⟨code, hcode, hr⟩ :=
          SiDaqFramer.frameLength_of_not_ok hc.toWellFormed.ranged (by omega) hsmall hok
        have hn := SiDaqFramer.frameLen_of_not_ok hc.toWellFormed.ranged (by omega) hsmall hok
        have hs' := hc.decided.toSound.putNull code
        have hnl' : (l.framer.decided.putNull code).queueLimit = 0 := hc.noLimit
        have hbody := loopBody_frame h hdata hne hle hn le_rfl
        simp only [hr, if_neg (SiDaqFramer.not_atQueueLimit hnl' _)] at hbody
        rw [recvLoop_of_next hbody] at hrun
        have hfailed : Failed (l.framer.decided.putNull code) := ⟨.putNull _ _, hcode, hzero⟩
        have hat : k + (data.drop k).length ≤ data.length := by
          rw [List.length_drop]
          omega
        -- from here on the loop puts everything into the queue as it comes
        obtain ⟨hfail, hque⟩ := recvLoop_failed (by exact hs') (by exact hnl')
          (by exact hfailed) (⟨rfl, hat, rfl⟩ : AtPos data _ (k + (data.drop k).length)) hdata hrun
        refine Parsed.of_bad hp hverdict ?_ hfail
        rw [hque, List.append_assoc]
        exact List.prefix_append _ _

/-- The carry-over phase parses the carried bytes and the copied part of the chunk. -/
theorem carryOver_parsed (hp : p.Delimited) {fr : SiDaqFramer α} (hc : Configured p fr)
    (hr : Ready fr) (hpos : 0 < fr.rest) (hdata : data.length < 2147483648) (hne : data ≠ [])
    (que : List (List α)) :
    ∃ l, carryOver fr data que = .next l ∧ ∀ fuel o, recvLoop data (fuel + 1) l = some o →
      Parsed p (fr.restBytes ++ data) que o.que o.framer := by
  have hnonneg := hr.rest_nonneg
  have hca : Configured p (fr.append data) := hc.withRest fr.rest _
  have hs := hca.toWellFormed
  have hsmall := hr.steady.length_held_small data
  have hheld := SiDaqFramer.length_held data hnonneg
  have htwo := hp.header_le
  have hmax := hr.rest_lt
  have hcap := hr.max_le
  have hsize := hr.size
  have hlen := List.length_pos_iff.mpr hne
  have hone : 1 ≤ (fr.copied data).length := SiDaqFramer.length_copied_pos (by omega) hne
  have hlong : max 1 p.headerLen.toNat ≤ (fr.held data).length := by omega
  -- the bytes looked at are a beginning of what there is
  have hsplit : fr.restBytes ++ data = fr.held data ++ data.drop (fr.buffSize - fr.rest).toNat := by
    rw [SiDaqFramer.held, SiDaqFramer.copied, List.append_assoc, List.take_append_drop]
  by_cases hok : (fr.append data).LengthOk (fr.held data) (fr.held data).length
  · have hverdict := hca.verdict_of_ok hp hlong hok
    have hr' := SiDaqFramer.frameLength_of_ok hs.ranged hok
    have hflen := SiDaqFramer.frameLen_of_ok hs.ranged hok
    have hpend : fr.rest < (fr.append data).eventLen (fr.held data) (fr.held data).length +
        (fr.append data).headerLen := hr.pending hpos (fr.copied data) hok
    obtain ⟨n, hn⟩ := Int.eq_ofNat_of_zero_le
      (show 0 ≤ (fr.append data).frameLen (fr.held data) (fr.held data).length by omega)
    rw [hn, Int.toNat_natCast] at hverdict
    by_cases hle : n ≤ (fr.held data).length
    · -- a complete frame; the loop parses what follows it
      rw [if_pos (by omega)] at hverdict
      obtain ⟨l, hl, hque, hframer, -, -, hat⟩ :=
        carryOver_frame que hnonneg (by omega) hdata hn hle (by omega)
      simp only [hr', if_neg (SiDaqFramer.not_atQueueLimit hca.decided.noLimit _)] at hframer
      have hcl : Configured p l.framer := by
        rw [hframer]
        exact hca.decided.withRest 0 _
      have hzero : l.framer.rest = 0 := by rw [hframer]
      have hall := SiDaqFramer.take_held_append_drop hnonneg data (by omega) hle
      have hwhole := hp.lawful.frame_append (data.drop (fr.buffSize - fr.rest).toNat) hverdict
      rw [← hsplit] at hwhole
      have htake : (fr.restBytes ++ data).take n = (fr.held data).take n := by
        rw [hsplit, List.take_append_of_le_length hle]
      have hdrop : (fr.restBytes ++ data).drop n = data.drop (n - fr.rest.toNat) := by
        rw [← hall, List.drop_append, List.drop_take_self, List.nil_append, List.length_take,
          min_eq_left hle, Nat.sub_self, List.drop_zero]
      refine ⟨l, hl, fun fuel o hrun => Parsed.of_frame hp hwhole ?_⟩
      rw [htake, hdrop, ← hque]
      rcases hat with ⟨hat, -⟩ | ⟨hnull, -, hnil⟩
      · exact recvLoop_parsed hp hcl hzero hat hdata hrun
      · rw [recvLoop_of_done (loopBody_null hnull), Option.some.injEq] at hrun
        subst hrun
        rw [hnil]
        exact Parsed.of_more hp hp.lawful.nil hcl (SiDaqFramer.restBytes_of_rest_eq_zero hzero)
    · -- an incomplete frame, kept with the whole chunk
      rw [if_neg (by omega)] at hverdict
      have hlt : ((fr.held data).length : ℤ) <
          (fr.append data).frameLen (fr.held data) (fr.held data).length := by omega
      have hmax' : (fr.append data).eventLen (fr.held data) (fr.held data).length +
          (fr.append data).headerLen ≤ fr.maxFrameLen := hok.2
      have hall := hr.steady.held_eq data (by omega)
      refine ⟨_, carryOver_save que hnonneg (by omega) hlt, fun fuel o hrun => ?_⟩
      rw [recvLoop_of_done (loopBody_null rfl), Option.some.injEq] at hrun
      subst hrun
      rw [hr', ← hall]
      refine Parsed.of_more hp hverdict (hca.decided.withRest _ _) ?_
      exact SiDaqFramer.buffBytes_append data hnonneg
  · -- a bad length: the copied bytes become a frame, the rest of the chunk another one
    have hverdict := hca.verdict_of_not_ok hp hlong hok
    have hwhole := hp.lawful.bad_append (data.drop (fr.buffSize - fr.rest).toNat) hverdict
    rw [← hsplit] at hwhole
    obtain ⟨code, hcode, hr'⟩ := SiDaqFramer.frameLength_of_not_ok hs.ranged (by omega) hsmall hok
    have hn := SiDaqFramer.frameLen_of_not_ok hs.ranged (by omega) hsmall hok
    have hs' := hca.decided.toSound.putNull code
    have hnl' : ((fr.append data).decided.putNull code).queueLimit = 0 := hca.noLimit
    obtain ⟨l, hl, hque, hframer, -, -, hat⟩ :=
      carryOver_frame que hnonneg (by omega) hdata hn le_rfl (by omega)
    simp only [hr', if_neg (SiDaqFramer.not_atQueueLimit hnl' _)] at hframer
    have hfail : Failed l.framer := by
      rw [hframer]
      exact ⟨⟨rfl, rfl, rfl⟩, hcode, rfl⟩
    have hsl : Sound l.framer := by
      rw [hframer]
      exact hs'.congr rfl rfl rfl rfl rfl
    have hnl : l.framer.queueLimit = 0 := by
      rw [hframer]
      exact hnl'
    have hpre : que <+: l.que := by
      rw [hque]
      exact List.prefix_append _ _
    refine ⟨l, hl, fun fuel o hrun => ?_⟩
    rcases hat with ⟨hat, -⟩ | ⟨hnull, -, -⟩
    · obtain ⟨hfail', hque'⟩ := recvLoop_failed hsl hnl hfail hat hdata hrun
      refine Parsed.of_bad hp hwhole (hpre.trans ?_) hfail'
      rw [hque']
      exact List.prefix_append _ _
    · rw [recvLoop_of_done (loopBody_null hnull), Option.some.injEq] at hrun
      subst hrun
      exact Parsed.of_bad hp hwhole hpre hfail

/-- A call parses the carried bytes and the chunk. -/
theorem recvSiDaqData_parsed (hp : p.Delimited) {fr : SiDaqFramer α} (hc : Configured p fr)
    (hr : Ready fr) (hdata : data.length < 2147483648) (hne : data ≠ []) {que : List (List α)}
    {o : Outcome α} (hrun : recvSiDaqData fr data que = some o) :
    Parsed p (fr.restBytes ++ data) que o.que o.framer := by
  simp only [recvSiDaqData] at hrun
  split at hrun
  · rename_i hpos
    obtain ⟨l, hl, hloop⟩ := carryOver_parsed hp hc hr hpos hdata hne que
    rw [hl] at hrun
    exact hloop _ _ hrun
  · rename_i hzero
    have hrest : fr.rest = 0 := le_antisymm (not_lt.mp hzero) hr.rest_nonneg
    rw [SiDaqFramer.restBytes_of_rest_eq_zero hrest]
    exact recvLoop_parsed (l := .start fr data que) hp hc hrest (k := 0) ⟨rfl, by omega, rfl⟩ hdata
      hrun

/-- A call on a failed framer. -/
theorem recvSiDaqData_failed {fr : SiDaqFramer α} (hs : Sound fr) (hnl : fr.queueLimit = 0)
    (hf : Failed fr) (hdata : data.length < 2147483648) (hne : data ≠ []) {que : List (List α)}
    {o : Outcome α} (hrun : recvSiDaqData fr data que = some o) :
    Failed o.framer ∧ o.que = que ++ [data] := by
  simp only [recvSiDaqData, hf.rest, gt_iff_lt, lt_irrefl, if_false] at hrun
  have h := recvLoop_failed (l := .start fr data que) (p := 0) hs hnl hf ⟨rfl, by omega, rfl⟩ hdata
    hrun
  simpa [Locals.start, hne] using h

end Calls

/-! ## Streams -/

section Streams

variable [Inhabited α]

/-- The session after the stream `bs`: kept bytes, and the greedy parse. -/
structure Follows (p : FramingParams α) (bs : List α) (s : Session α) : Prop where
  ready : Ready s.framer
  noLimit : s.framer.queueLimit = 0
  bytes : s.bytes = bs
  parsed : Parsed p bs [] s.que s.framer

theorem Follows.recv (hp : p.Delimited) {bs : List α} {s : Session α} (h : Follows p bs s)
    (c : Chunk α) : ∃ s', s.recv c = some s' ∧ Follows p (bs ++ c.bytes) s' := by
  obtain ⟨o, ho⟩ := recvSiDaqData_total h.ready c.fits s.que
  obtain ⟨hready, hlimit, -, hkeeps⟩ := recvSiDaqData_conserves h.ready c.fits ho
  refine ⟨_, Session.recv_of_recvSiDaqData ho, hready, hlimit.trans h.noLimit, ?_, ?_⟩
  · exact (hkeeps.2 h.noLimit).trans (congrArg (· ++ c.bytes) h.bytes)
  · have hparsed := h.parsed
    by_cases hbad : (parse p.verdict bs).bad = true
    · -- the framer failed before: it is a pass-through
      simp only [Parsed, hbad, if_true, List.nil_append] at hparsed
      obtain ⟨hfail, hque⟩ :=
        recvSiDaqData_failed h.ready.toSound h.noLimit hparsed.2 c.fits c.nonempty ho
      simp only [Parsed, parse_append_of_bad hp.lawful c.bytes hbad, if_true, List.nil_append]
      exact ⟨hparsed.1.trans (hque ▸ List.prefix_append _ _), hfail⟩
    · rw [Bool.not_eq_true] at hbad
      simp only [Parsed, hbad, Bool.false_eq_true, if_false, List.nil_append] at hparsed
      obtain ⟨hque, hrest, hc⟩ := hparsed
      have hcall := recvSiDaqData_parsed hp hc h.ready c.fits c.nonempty ho
      rw [hrest, hque] at hcall
      simpa [Parsed, parse_append_of_not_bad hp.lawful c.bytes hbad] using hcall

omit [Inhabited α] in
theorem Follows.start (hp : p.Delimited) {fr : SiDaqFramer α} (hrest : fr.rest = 0)
    (hsize : fr.buffSize = defaultMaxFrameLen) : Follows p [] (.start fr p) := by
  have hc := Configured.configure hp hsize
  have hready : Ready (fr.configure p) := .of_rest_eq_zero hc.toSound hrest
  have hnil : (fr.configure p).restBytes = [] := SiDaqFramer.restBytes_of_rest_eq_zero hrest
  exact ⟨hready, hc.noLimit, by simp [Session.bytes, Session.start, hnil],
    Parsed.of_more hp hp.lawful.nil hc hnil⟩

/-- A stream fed in chunks is parsed as a whole. -/
theorem feed_follows (hp : p.Delimited) {fr : SiDaqFramer α} (hrest : fr.rest = 0)
    (hsize : fr.buffSize = defaultMaxFrameLen) (chunks : List (Chunk α)) :
    ∃ s, (Session.start fr p).feed chunks = some s ∧ Follows p (stream chunks) s := by
  have hstep : ∀ bs s (c : Chunk α), Follows p bs s →
      ∃ s', s.recv c = some s' ∧ Follows p (bs ++ c.bytes) s' := fun _ _ c h => h.recv hp c
  simpa using Session.feed_invariant hstep [] (Follows.start hp hrest hsize) chunks

/-- **Framing does not depend on how TCP cut the stream.** A framer with nothing carried, configured
by `SiDaqRun`, queues the frames of the greedy parse of the stream and carries its tail. When the
parse meets a bad length, the frames before it are queued first, an error is recorded, and the
remaining bytes are passed through. -/
theorem feed_eq_greedy (hp : p.Delimited) {fr : SiDaqFramer α} (hrest : fr.rest = 0)
    (hsize : fr.buffSize = defaultMaxFrameLen) (chunks : List (Chunk α)) :
    ∃ s, (Session.start fr p).feed chunks = some s ∧
      ((parse p.verdict (stream chunks)).bad = false →
        s.que = (parse p.verdict (stream chunks)).frames ∧
        s.framer.restBytes = (parse p.verdict (stream chunks)).tail ∧
        s.framer.errorCode = .noError) ∧
      ((parse p.verdict (stream chunks)).bad = true →
        (parse p.verdict (stream chunks)).frames <+: s.que ∧
        s.framer.errorCode.IsFraming ∧ s.framer.rest = 0 ∧ s.que.flatten = stream chunks) := by
  obtain ⟨s, hfeed, h⟩ := feed_follows hp hrest hsize chunks
  have hparsed := h.parsed
  refine ⟨s, hfeed, fun hgood => ?_, fun hbad => ?_⟩
  · simp only [Parsed, hgood, Bool.false_eq_true, if_false, List.nil_append] at hparsed
    exact ⟨hparsed.1, hparsed.2.1, hparsed.2.2.noError⟩
  · simp only [Parsed, hbad, if_true, List.nil_append] at hparsed
    have hbytes := h.bytes
    rw [Session.bytes, SiDaqFramer.restBytes_of_rest_eq_zero hparsed.2.rest,
      List.append_nil] at hbytes
    exact ⟨hparsed.1, hparsed.2.code, hparsed.2.rest, hbytes⟩

end Streams

theorem byteHeader_delimited : byteHeader.Delimited where
  toRegular := ⟨byteHeader_fits, rfl⟩
  header_le := by decide
  mode := Or.inl ⟨by simp [byteHeader], by decide⟩

/-- Two frames and the beginning of a third, cut inside the first payload. -/
theorem byteHeader_feed :
    ∃ s, (Session.fresh byteHeader).feed
        [Chunk.of [2, 7], Chunk.of [8, 1, 9, 3, 5]] = some s ∧
      s.que = [[2, 7, 8], [1, 9]] ∧ s.framer.restBytes = [3, 5] ∧
      s.framer.errorCode = .noError := by
  obtain ⟨s, hfeed, hgood, -⟩ := feed_eq_greedy byteHeader_delimited
    (rfl : (newSiDaqFramer : SiDaqFramer UInt8).rest = 0) rfl
    [Chunk.of [2, 7], Chunk.of [8, 1, 9, 3, 5]]
  have hparse : Segment.parse byteHeader.verdict
      (stream [Chunk.of [2, 7], Chunk.of [8, 1, 9, 3, 5]]) =
        ⟨[[2, 7, 8], [1, 9]], [3, 5], false⟩ := by decide
  rw [hparse] at hgood
  exact ⟨s, hfeed, hgood rfl⟩

end SiDaqApi
