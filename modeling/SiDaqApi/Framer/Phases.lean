import SiDaqApi.Framer.Basic
import Mathlib.Tactic.Linarith

/-!
# What the two phases of `RecvSiDaqData` do

Equations for the frame length decision, for one iteration of the loop and for the carry-over
phase, under `WellFormed`: the sizes are those both callers pass (`max_frame_len` at most the size
of the buffer, `header_len < max_frame_len`). Later proofs cite these and never unfold the code.
-/

namespace SiDaqApi

open MachineInt

variable {α : Type*}

/-! ## Memory -/

@[simp] theorem length_buffBytes (buff : ℕ → α) (len : ℤ) :
    (buffBytes buff len).length = len.toNat := by
  simp [buffBytes]

@[simp] theorem buffBytes_zero (buff : ℕ → α) : buffBytes buff 0 = [] := rfl

/-- A write right behind the first `off` bytes appends to them. -/
theorem buffBytes_buffWrite (buff : ℕ → α) {off : ℤ} (hoff : 0 ≤ off) (bytes : List α) :
    buffBytes (buffWrite buff off bytes) (off + bytes.length) = buffBytes buff off ++ bytes := by
  apply List.ext_getElem
  · simp only [length_buffBytes, List.length_append]
    omega
  · intro i h₁ h₂
    simp only [buffBytes, List.getElem_map, List.getElem_range, buffWrite]
    by_cases hi : i < off.toNat
    · rw [if_pos hi, List.getElem_append_left (by simpa using hi)]
      simp
    · have hlt : i - off.toNat < bytes.length := by
        simp only [length_buffBytes] at h₁
        omega
      rw [if_neg hi, List.getElem_append_right (by simpa using hi)]
      simp [List.getD_eq_getElem?_getD, hlt]

/-- What is saved at the front of the buffer is read back. -/
theorem buffBytes_save (buff : ℕ → α) (bytes : List α) :
    buffBytes (buffWrite buff 0 bytes) bytes.length = bytes := by
  simpa using buffBytes_buffWrite buff (le_refl (0 : ℤ)) bytes

/-- A beginning of the first `n` bytes of the buffer. -/
theorem take_buffBytes (buff : ℕ → α) {m n : ℤ} (h : m ≤ n) :
    (buffBytes buff n).take m.toNat = buffBytes buff m := by
  apply List.ext_getElem
  · simp only [List.length_take, length_buffBytes]
    omega
  · intro i h₁ h₂
    simp [buffBytes]

theorem SiDaqFramer.length_restBytes (fr : SiDaqFramer α) :
    fr.restBytes.length = fr.rest.toNat := by
  simp [SiDaqFramer.restBytes]

theorem SiDaqFramer.restBytes_of_rest_eq_zero {fr : SiDaqFramer α} (h : fr.rest = 0) :
    fr.restBytes = [] := by
  rw [SiDaqFramer.restBytes, h, buffBytes_zero]

section Chunk

variable [Inhabited α]

/-- A read inside the chunk returns bytes of the chunk. -/
theorem chunkBytes_eq (data : List α) {p n : ℕ} (h : p + n ≤ data.length) :
    chunkBytes data p n = (data.drop p).take n := by
  apply List.ext_getElem
  · simp only [chunkBytes, Int.toNat_natCast, List.length_map, List.length_range, List.length_take,
      List.length_drop]
    omega
  · intro i h₁ h₂
    have hi : p + i < data.length := by
      simp only [chunkBytes, Int.toNat_natCast, List.length_map, List.length_range] at h₁
      omega
    have hnonneg : (0 : ℤ) ≤ (p : ℤ) + (i : ℤ) := by positivity
    have htoNat : ((p : ℤ) + (i : ℤ)).toNat = p + i := by omega
    simp [chunkBytes, hnonneg, htoNat, List.getD_eq_getElem?_getD, hi]

end Chunk

/-! ## The frame length decision -/

/-- Sizes with which no sum of a header and a usable length wraps. -/
structure Ranged (fr : SiDaqFramer α) : Prop where
  header_nonneg : 0 ≤ fr.headerLen
  header_lt : fr.headerLen < fr.maxFrameLen
  max_lt : fr.maxFrameLen < 2147483648
  fixed_lt : fr.fixedFrameLen < 4294967296

/-- The sizes of a framer configured by `SiDaqRun` with `max_frame_len` at most the buffer size. -/
structure WellFormed (fr : SiDaqFramer α) : Prop where
  header_nonneg : 0 ≤ fr.headerLen
  header_lt : fr.headerLen < fr.maxFrameLen
  max_le : fr.maxFrameLen ≤ defaultMaxFrameLen
  size : fr.buffSize = defaultMaxFrameLen
  fixed_lt : fr.fixedFrameLen < 4294967296

theorem WellFormed.ranged {fr : SiDaqFramer α} (hw : WellFormed fr) : Ranged fr where
  header_nonneg := hw.header_nonneg
  header_lt := hw.header_lt
  max_lt := lt_of_le_of_lt hw.max_le (by decide)
  fixed_lt := hw.fixed_lt

/-- The length determined from `bytes` is usable: not negative, and the frame not too long. -/
def SiDaqFramer.LengthOk (fr : SiDaqFramer α) (bytes : List α) (avail : ℤ) : Prop :=
  0 ≤ fr.eventLen bytes avail ∧ fr.eventLen bytes avail + fr.headerLen ≤ fr.maxFrameLen

/-- The two codes of a framing error. -/
def FramerErrorCode.IsFraming (code : FramerErrorCode) : Prop :=
  code = .getFrameLengthFailed ∨ code = .exceedMaxFrameLength

theorem SiDaqFramer.eventLen_of_header {fr : SiDaqFramer α} {f : LengthFunc α}
    (h : fr.headerMode = some f) (bytes : List α) (avail : ℤ) :
    fr.eventLen bytes avail = (f fr.decisions bytes (uint32 fr.headerLen)).toInt := by
  simp only [SiDaqFramer.eventLen, h]

theorem SiDaqFramer.eventLen_of_fixed {fr : SiDaqFramer α} (h : fr.headerMode = none)
    (hf : fr.fixedFrameLen ≠ 0) (bytes : List α) (avail : ℤ) :
    fr.eventLen bytes avail = wrap32 fr.fixedFrameLen := by
  simp only [SiDaqFramer.eventLen, h, if_pos hf]

theorem SiDaqFramer.eventLen_of_raw {fr : SiDaqFramer α} (h : fr.headerMode = none)
    (hf : fr.fixedFrameLen = 0) (bytes : List α) (avail : ℤ) :
    fr.eventLen bytes avail = avail := by
  simp [SiDaqFramer.eventLen, h, hf]

theorem SiDaqFramer.headerMode_eq_some {fr : SiDaqFramer α} {f : LengthFunc α} :
    fr.headerMode = some f ↔ fr.headerLen ≠ 0 ∧ fr.lengthFunc = some f := by
  unfold SiDaqFramer.headerMode
  split <;> simp_all

theorem SiDaqFramer.eventLen_range (fr : SiDaqFramer α) (bytes : List α) {avail : ℤ}
    (h₀ : 0 ≤ avail) (h₁ : avail < 2147483648) :
    -2147483648 ≤ fr.eventLen bytes avail ∧ fr.eventLen bytes avail < 2147483648 := by
  unfold SiDaqFramer.eventLen
  split
  · rename_i f _
    exact ⟨(f fr.decisions bytes (uint32 fr.headerLen)).le_toInt,
      (f fr.decisions bytes (uint32 fr.headerLen)).toInt_lt⟩
  · split
    · exact ⟨le_wrap32 _, wrap32_lt _⟩
    · omega

/-- A length that passes both tests is taken as it is. -/
theorem SiDaqFramer.frameLength_of_passes {fr : SiDaqFramer α} {bytes : List α} {avail : ℤ}
    (hlen : 0 ≤ fr.eventLen bytes avail)
    (hmax : uint32 (fr.eventLen bytes avail + fr.headerLen) ≤ fr.maxFrameLen) :
    fr.frameLength bytes avail = (fr.eventLen bytes avail, fr.decided) := by
  simp only [SiDaqFramer.frameLength, if_neg (not_lt.mpr hlen), SiDaqFramer.decided]
  rw [if_neg (not_lt.mpr hmax)]

/-- A usable length is taken as it is. -/
theorem SiDaqFramer.frameLength_of_ok {fr : SiDaqFramer α} (hw : Ranged fr) {bytes : List α}
    {avail : ℤ} (hok : fr.LengthOk bytes avail) :
    fr.frameLength bytes avail = (fr.eventLen bytes avail, fr.decided) := by
  obtain ⟨hlen, hmax⟩ := hok
  have hcap := hw.max_lt
  have hnonneg := hw.header_nonneg
  refine SiDaqFramer.frameLength_of_passes hlen ?_
  rwa [uint32_of_range (by omega) (by omega)]

/-- Any other length makes the framer take all that is there, and frame the rest as it comes. -/
theorem SiDaqFramer.frameLength_of_not_ok {fr : SiDaqFramer α} (hw : Ranged fr)
    {bytes : List α} {avail : ℤ} (h₀ : 0 ≤ avail) (h₁ : avail < 2147483648)
    (hbad : ¬ fr.LengthOk bytes avail) :
    ∃ code, code.IsFraming ∧ fr.frameLength bytes avail = (avail, fr.decided.putNull code) := by
  have hrange := fr.eventLen_range bytes h₀ h₁
  have hmax := hw.max_lt
  have hheader := hw.header_lt
  have hnonneg := hw.header_nonneg
  by_cases hneg : fr.eventLen bytes avail < 0
  · by_cases hlong : uint32 avail > fr.maxFrameLen
    · refine ⟨.exceedMaxFrameLength, Or.inr rfl, ?_⟩
      simp [SiDaqFramer.frameLength, hneg, SiDaqFramer.decided, SiDaqFramer.putNull, hlong]
    · refine ⟨.getFrameLengthFailed, Or.inl rfl, ?_⟩
      simp [SiDaqFramer.frameLength, hneg, SiDaqFramer.decided, SiDaqFramer.putNull, hlong]
  · have hlong : (fr.maxFrameLen : ℤ) < fr.eventLen bytes avail + fr.headerLen := by
      by_contra hle
      exact hbad ⟨by omega, by omega⟩
    have hsum : uint32 (fr.eventLen bytes avail + fr.headerLen) =
        fr.eventLen bytes avail + fr.headerLen := uint32_of_range (by omega) (by omega)
    refine ⟨.exceedMaxFrameLength, Or.inr rfl, ?_⟩
    simp [SiDaqFramer.frameLength, hneg, SiDaqFramer.decided, SiDaqFramer.putNull, hsum, hlong]

/-- The number of bytes of the next frame, header included. -/
def SiDaqFramer.frameLen (fr : SiDaqFramer α) (bytes : List α) (avail : ℤ) : ℤ :=
  wrap32 ((fr.frameLength bytes avail).1 + (fr.frameLength bytes avail).2.headerLen)

theorem SiDaqFramer.frameLen_of_ok {fr : SiDaqFramer α} (hw : Ranged fr) {bytes : List α}
    {avail : ℤ} (hok : fr.LengthOk bytes avail) :
    fr.frameLen bytes avail = fr.eventLen bytes avail + fr.headerLen := by
  have hmax := hw.max_lt
  have hnonneg := hw.header_nonneg
  obtain ⟨h₁, h₂⟩ := hok
  rw [SiDaqFramer.frameLen, SiDaqFramer.frameLength_of_ok hw ⟨h₁, h₂⟩]
  exact wrap32_of_range (by simp only [SiDaqFramer.decided]; omega)
    (by simp only [SiDaqFramer.decided]; omega)

theorem SiDaqFramer.frameLen_of_not_ok {fr : SiDaqFramer α} (hw : Ranged fr) {bytes : List α}
    {avail : ℤ} (h₀ : 0 ≤ avail) (h₁ : avail < 2147483648) (hbad : ¬ fr.LengthOk bytes avail) :
    fr.frameLen bytes avail = avail := by
  obtain ⟨code, -, hr⟩ := SiDaqFramer.frameLength_of_not_ok hw h₀ h₁ hbad
  rw [SiDaqFramer.frameLen, hr]
  simp only [SiDaqFramer.putNull, add_zero]
  exact wrap32_of_range (by omega) h₁

/-- An incomplete frame is one that both tests have passed. -/
theorem SiDaqFramer.lengthOk_of_lt {fr : SiDaqFramer α} (hw : Ranged fr) {bytes : List α}
    {avail : ℤ} (h₀ : 0 ≤ avail) (h₁ : avail < 2147483648) (hlt : avail < fr.frameLen bytes avail) :
    fr.LengthOk bytes avail := by
  -- any other frame is what is there, and complete
  by_contra hbad
  rw [SiDaqFramer.frameLen_of_not_ok hw h₀ h₁ hbad] at hlt
  omega

/-- So it is not too long. -/
theorem SiDaqFramer.frameLen_le {fr : SiDaqFramer α} (hw : Ranged fr) (bytes : List α) {avail : ℤ}
    (h₀ : 0 ≤ avail) (h₁ : avail < 2147483648) (hlt : avail < fr.frameLen bytes avail) :
    fr.frameLen bytes avail ≤ fr.maxFrameLen := by
  have hok := SiDaqFramer.lengthOk_of_lt hw h₀ h₁ hlt
  rw [SiDaqFramer.frameLen_of_ok hw hok]
  exact hok.2

/-- The decision changes neither the carry-over, nor the buffer, nor the sizes but `header_len`. -/
theorem SiDaqFramer.frameLength_frame (fr : SiDaqFramer α) (bytes : List α) (avail : ℤ) :
    (fr.frameLength bytes avail).2.rest = fr.rest ∧
    (fr.frameLength bytes avail).2.buffPtr = fr.buffPtr ∧
    (fr.frameLength bytes avail).2.buffSize = fr.buffSize ∧
    (fr.frameLength bytes avail).2.maxFrameLen = fr.maxFrameLen ∧
    (fr.frameLength bytes avail).2.queueLimit = fr.queueLimit ∧
    (fr.frameLength bytes avail).2.errorFlg = fr.errorFlg := by
  simp only [SiDaqFramer.frameLength]
  split <;> split <;> simp [SiDaqFramer.putNull, SiDaqFramer.decided]

theorem WellFormed.putNull {fr : SiDaqFramer α} (hw : WellFormed fr) (code : FramerErrorCode) :
    WellFormed (fr.putNull code) where
  header_nonneg := le_rfl
  header_lt := lt_of_le_of_lt hw.header_nonneg hw.header_lt
  max_le := hw.max_le
  size := hw.size
  fixed_lt := by simp [SiDaqFramer.putNull]

/-- The sizes are all that matters. -/
theorem WellFormed.congr {fr fr' : SiDaqFramer α} (hw : WellFormed fr)
    (hheader : fr'.headerLen = fr.headerLen) (hmax : fr'.maxFrameLen = fr.maxFrameLen)
    (hsize : fr'.buffSize = fr.buffSize) (hfixed : fr'.fixedFrameLen = fr.fixedFrameLen) :
    WellFormed fr' := by
  obtain ⟨h₁, h₂, h₃, h₄, h₅⟩ := hw
  exact ⟨hheader ▸ h₁, hheader ▸ hmax ▸ h₂, hmax ▸ h₃, hsize ▸ h₄, hfixed ▸ h₅⟩

theorem WellFormed.decided {fr : SiDaqFramer α} (hw : WellFormed fr) : WellFormed fr.decided :=
  hw.congr rfl rfl rfl rfl

/-- The decision leaves the framer as it is, or with the null framer and a framing error. -/
theorem SiDaqFramer.frameLength_snd {fr : SiDaqFramer α} (hw : Ranged fr) (bytes : List α)
    {avail : ℤ} (h₀ : 0 ≤ avail) (h₁ : avail < 2147483648) :
    (fr.frameLength bytes avail).2 = fr.decided ∨
      ∃ code, code.IsFraming ∧ (fr.frameLength bytes avail).2 = fr.decided.putNull code := by
  by_cases hok : fr.LengthOk bytes avail
  · left
    rw [SiDaqFramer.frameLength_of_ok hw hok]
  · obtain ⟨code, hcode, hr⟩ := SiDaqFramer.frameLength_of_not_ok hw h₀ h₁ hok
    exact Or.inr ⟨code, hcode, by rw [hr]⟩

theorem WellFormed.frameLength {fr : SiDaqFramer α} (hw : WellFormed fr) (bytes : List α)
    {avail : ℤ} (h₀ : 0 ≤ avail) (h₁ : avail < 2147483648) :
    WellFormed (fr.frameLength bytes avail).2 := by
  rcases SiDaqFramer.frameLength_snd hw.ranged bytes h₀ h₁ with h | ⟨code, -, h⟩
  · rw [h]
    exact hw.decided
  · rw [h]
    exact hw.decided.putNull code

/-- A frame has at least one byte. -/
theorem SiDaqFramer.frameLen_pos {fr : SiDaqFramer α} (hw : Ranged fr) (bytes : List α)
    {avail : ℤ} (h₀ : 0 < avail) (h₁ : avail < 2147483648) : 0 < fr.frameLen bytes avail := by
  by_cases hok : fr.LengthOk bytes avail
  · rw [SiDaqFramer.frameLen_of_ok hw hok]
    have hnonneg := hok.1
    have hheader := hw.header_nonneg
    by_cases hzero : fr.headerLen = 0
    · -- no header: a fixed length that is not zero, or all there is
      have hfixed := hw.fixed_lt
      rw [hzero, add_zero]
      simp only [SiDaqFramer.eventLen, SiDaqFramer.headerMode, hzero, ne_eq, not_true_eq_false,
        if_false] at hnonneg ⊢
      split at hnonneg
      · rename_i hne
        simp only [hne, not_false_eq_true, if_true]
        unfold wrap32 at hnonneg ⊢
        omega
      · rename_i hne
        simp only [hne, if_false]
        exact h₀
    · omega
  · rw [SiDaqFramer.frameLen_of_not_ok hw h₀.le h₁ hok]
    exact h₀

/-! ## One iteration of the loop -/

section Loop

variable {data : List α} {l : Locals α} {p : ℕ}

/-- The loop stands at offset `p` of the chunk and has the bytes behind it left. -/
structure AtPos (data : List α) (l : Locals α) (p : ℕ) : Prop where
  readPtr : l.readPtr = some (p : ℤ)
  le : p ≤ data.length
  dataLen : l.dataLen = (data.drop p).length

/-- The accesses of an iteration before it decides what to do with the frame. -/
def Locals.lengthAccesses (l : Locals α) (p : ℕ) : List Access :=
  l.accesses ++ l.framer.chunkLenAccess p l.dataLen

private theorem not_short (h : AtPos data l p) (hne : data.drop p ≠ [])
    (hheader : l.framer.headerLen ≤ (data.drop p).length) :
    ¬ (l.dataLen = 0 ∨ l.dataLen < l.framer.headerLen) := by
  have := List.length_pos_iff.mpr hne
  rw [h.dataLen]
  omega

variable [Inhabited α]

theorem AtPos.chunkBytes_eq (h : AtPos data l p) {n : ℕ} (hn : n ≤ (data.drop p).length) :
    chunkBytes data p n = (data.drop p).take n := by
  have hle := h.le
  rw [List.length_drop] at hn
  exact SiDaqApi.chunkBytes_eq data (by omega)

theorem AtPos.chunkBytes_all (h : AtPos data l p) :
    chunkBytes data p l.dataLen = data.drop p := by
  rw [h.dataLen, h.chunkBytes_eq le_rfl, List.take_length]

theorem loopBody_null (h : l.readPtr = none) :
    loopBody data l = .done ⟨l.frameCount, l.framer, l.que, l.accesses⟩ := by
  simp [loopBody, h]

/-- Too few bytes for a header: the loop ends, with one byte in the buffer. -/
theorem loopBody_short (h : AtPos data l p)
    (hshort : data.drop p = [] ∨ ((data.drop p).length : ℤ) < l.framer.headerLen) :
    loopBody data l = .done ⟨l.frameCount,
      { l.framer with
        rest := (data.drop p).length
        buffPtr := buffWrite l.framer.buffPtr 0 (chunkBytes data p 1) },
      l.que, l.accesses ++ [.chunk p 1, .buff 0 1]⟩ := by
  have hcond : l.dataLen = 0 ∨ l.dataLen < l.framer.headerLen := by
    rw [h.dataLen]
    rcases hshort with hnil | hlt
    · left
      simp [hnil]
    · exact Or.inr hlt
  simp only [loopBody, h.readPtr, if_pos hcond]
  rw [h.dataLen]

/-- A complete frame of `n` bytes is queued; then the queue limit is tested. -/
theorem loopBody_frame (h : AtPos data l p) (hdata : data.length < 2147483648)
    (hne : data.drop p ≠ []) (hheader : l.framer.headerLen ≤ (data.drop p).length) {n : ℕ}
    (hn : l.framer.frameLen (data.drop p) (data.drop p).length = n)
    (hle : n ≤ (data.drop p).length) :
    loopBody data l =
      let fr := (l.framer.frameLength (data.drop p) (data.drop p).length).2
      let que := l.que ++ [(data.drop p).take n]
      let acc := l.lengthAccesses p ++ [.chunk p n]
      if fr.atQueueLimit que.length then
        .done ⟨-1, { fr with errorCode := .exceedFrameQueueCount }, que, acc⟩
      else
        .next ⟨fr, que, some (p + n : ℕ), (data.drop (p + n)).length, l.frameCount + 1, acc⟩ := by
  have hlen := hle
  rw [List.length_drop] at hlen
  have hwrap : wrap32 (((data.drop p).length : ℤ) - n) = (data.drop (p + n)).length := by
    have hle' := h.le
    simp only [List.length_drop] at hle ⊢
    rw [wrap32_of_range] <;> omega
  have hcount : ¬ (((l.que ++ [(data.drop p).take n]).length : ℤ) < 0) := by omega
  unfold SiDaqFramer.frameLen at hn
  simp only [loopBody, h.readPtr, if_neg (not_short h hne hheader), h.chunkBytes_all]
  rw [h.dataLen, hn, if_pos (by omega), h.chunkBytes_eq hle]
  simp only [sqPut, if_neg hcount, if_neg (show ¬ ((n : ℤ) < 0) by omega), hwrap,
    Locals.lengthAccesses, h.dataLen, Nat.cast_add]

/-- An incomplete frame is saved in the buffer. -/
theorem loopBody_save (h : AtPos data l p) (hne : data.drop p ≠ [])
    (hheader : l.framer.headerLen ≤ (data.drop p).length)
    (hlt : ((data.drop p).length : ℤ) < l.framer.frameLen (data.drop p) (data.drop p).length) :
    loopBody data l =
      let fr := (l.framer.frameLength (data.drop p) (data.drop p).length).2
      let len : ℤ := (data.drop p).length
      .next ⟨{ fr with rest := len, buffPtr := buffWrite fr.buffPtr 0 (data.drop p) },
        l.que, none, 0, l.frameCount, l.lengthAccesses p ++ [.chunk p len, .buff 0 len]⟩ := by
  unfold SiDaqFramer.frameLen at hlt
  simp only [loopBody, h.readPtr, if_neg (not_short h hne hheader), h.chunkBytes_all]
  rw [h.dataLen, if_neg (by omega)]
  simp only [Locals.lengthAccesses, h.dataLen]

theorem recvLoop_of_done {o : Outcome α} (h : loopBody data l = .done o) (fuel : ℕ) :
    recvLoop data (fuel + 1) l = some o := by
  simp only [recvLoop, h]

theorem recvLoop_of_next {l' : Locals α} (h : loopBody data l = .next l') (fuel : ℕ) :
    recvLoop data (fuel + 1) l = recvLoop data fuel l' := by
  simp only [recvLoop, h]

/-- The loop ends: every frame it queues takes a byte off what is left. -/
theorem recvLoop_total (hw : WellFormed l.framer) (h : AtPos data l p)
    (hdata : data.length < 2147483648) {fuel : ℕ} (hfuel : (data.drop p).length + 2 ≤ fuel) :
    ∃ o, recvLoop data fuel l = some o := by
  induction fuel generalizing l p with
  | zero => omega
  | succ fuel ih =>
    have hsmall : ((data.drop p).length : ℤ) < 2147483648 := by
      rw [List.length_drop]
      omega
    by_cases hshort : data.drop p = [] ∨ ((data.drop p).length : ℤ) < l.framer.headerLen
    · exact ⟨_, recvLoop_of_done (loopBody_short h hshort) fuel⟩
    · rw [not_or, not_lt] at hshort
      obtain ⟨hne, hheader⟩ := hshort
      have hpos := List.length_pos_iff.mpr hne
      have hframe := SiDaqFramer.frameLen_pos hw.ranged (data.drop p) (by omega) hsmall
      obtain ⟨n, hn⟩ := Int.eq_ofNat_of_zero_le hframe.le
      by_cases hle : n ≤ (data.drop p).length
      · have hbody := loopBody_frame h hdata hne hheader hn hle
        simp only at hbody
        split at hbody
        · exact ⟨_, recvLoop_of_done hbody fuel⟩
        · have hp := h.le
          rw [recvLoop_of_next hbody]
          simp only [List.length_drop] at hle hfuel
          refine ih (p := p + n) (hw.frameLength _ (by omega) hsmall) ⟨rfl, by omega, rfl⟩ ?_
          rw [List.length_drop]
          omega
      · -- the saved frame takes one more iteration, to see that `readPtr` is null
        obtain ⟨fuel, rfl⟩ : ∃ k, fuel = k + 1 := ⟨fuel - 1, by omega⟩
        rw [recvLoop_of_next (loopBody_save h hne hheader (by omega))]
        exact ⟨_, recvLoop_of_done (loopBody_null rfl) fuel⟩

end Loop

/-! ## The carry-over phase -/

section Carry

/-- The bytes of the chunk that fit behind the carried ones. -/
def SiDaqFramer.copied (fr : SiDaqFramer α) (data : List α) : List α :=
  data.take (fr.buffSize - fr.rest).toNat

/-- What the carry-over phase looks at: the carried bytes and the copied part of the chunk. -/
def SiDaqFramer.held (fr : SiDaqFramer α) (data : List α) : List α :=
  fr.restBytes ++ fr.copied data

/-- The framer after the copy. -/
def SiDaqFramer.append (fr : SiDaqFramer α) (data : List α) : SiDaqFramer α :=
  { fr with buffPtr := buffWrite fr.buffPtr fr.rest (fr.copied data) }

/-- The accesses of the carry-over phase. -/
def SiDaqFramer.carryAccesses (fr : SiDaqFramer α) (data : List α) : List Access :=
  [.chunk 0 (fr.copied data).length, .buff fr.rest (fr.copied data).length] ++
    fr.eventLenAccess (fr.held data).length

variable {fr : SiDaqFramer α} {data : List α}

theorem SiDaqFramer.length_copied_le (fr : SiDaqFramer α) (data : List α) :
    (fr.copied data).length ≤ data.length := by
  simp only [SiDaqFramer.copied, List.length_take]
  exact min_le_right _ _

/-- Where there is room, something is copied. -/
theorem SiDaqFramer.length_copied_pos (hlt : fr.rest < fr.buffSize) (hne : data ≠ []) :
    1 ≤ (fr.copied data).length := by
  have hpos := List.length_pos_iff.mpr hne
  simp only [SiDaqFramer.copied, List.length_take]
  omega

theorem SiDaqFramer.length_held (data : List α) (hrest : 0 ≤ fr.rest) :
    ((fr.held data).length : ℤ) = fr.rest + (fr.copied data).length := by
  rw [SiDaqFramer.held, List.length_append, fr.length_restBytes]
  omega

/-- The buffer takes as much of the chunk as fits. -/
theorem SiDaqFramer.length_held_eq (data : List α) (hrest : 0 ≤ fr.rest)
    (hfit : fr.rest ≤ fr.buffSize) :
    ((fr.held data).length : ℤ) = min (fr.rest + data.length) fr.buffSize := by
  rw [SiDaqFramer.length_held data hrest]
  simp only [SiDaqFramer.copied, List.length_take]
  omega

theorem SiDaqFramer.copyLen_eq (hfit : fr.rest ≤ fr.buffSize) :
    (if (data.length : ℤ) < fr.buffSize - fr.rest then (data.length : ℤ)
      else fr.buffSize - fr.rest) = (fr.copied data).length := by
  simp only [SiDaqFramer.copied, List.length_take]
  split <;> omega

theorem SiDaqFramer.buffBytes_append (data : List α) (hrest : 0 ≤ fr.rest) :
    buffBytes (fr.append data).buffPtr (fr.held data).length = fr.held data := by
  rw [SiDaqFramer.length_held data hrest]
  exact buffBytes_buffWrite fr.buffPtr hrest (fr.copied data)

variable [Inhabited α]

theorem SiDaqFramer.chunkBytes_copied :
    chunkBytes data 0 ((fr.copied data).length : ℤ) = fr.copied data := by
  have hle := fr.length_copied_le data
  have h := chunkBytes_eq data (p := 0) (n := (fr.copied data).length) (by omega)
  simp only [Nat.cast_zero, List.drop_zero] at h
  rw [h]
  simp only [SiDaqFramer.copied, List.length_take]
  rw [List.take_eq_take_iff]
  omega

/-- The carry-over phase with its copy made explicit. -/
theorem carryOver_eq (que : List (List α)) (hrest : 0 ≤ fr.rest) (hfit : fr.rest ≤ fr.buffSize) :
    carryOver fr data que =
      let r := (fr.append data).frameLength (fr.held data) (fr.held data).length
      let frameLen := (fr.append data).frameLen (fr.held data) (fr.held data).length
      let acc := fr.carryAccesses data
      if ((fr.held data).length : ℤ) ≥ frameLen then
        if frameLen < 0 then .fault else
        let que' := que ++ [buffBytes (fr.append data).buffPtr frameLen]
        let code :=
          if r.2.atQueueLimit que'.length then .exceedFrameQueueCount else r.2.errorCode
        let off := wrap32 (frameLen - fr.rest)
        let fr' := { r.2 with errorCode := code, rest := 0 }
        if (data.length : ℤ) > off then
          .next ⟨fr', que', some off, wrap32 (data.length - off), 1, acc⟩
        else .next ⟨fr', que', none, 0, 1, acc⟩
      else
        .next ⟨{ r.2 with rest := (fr.held data).length }, que, none, 0, 0, acc⟩ := by
  have hheld := SiDaqFramer.buffBytes_append data hrest
  have hlen := SiDaqFramer.length_held data hrest
  have hcount : ∀ bytes : List α, ¬ (((que ++ [bytes]).length : ℤ) < 0) := by
    intro bytes
    omega
  simp only [carryOver, if_neg (show ¬ fr.buffSize - fr.rest < 0 by omega), SiDaqFramer.copyLen_eq hfit,
    SiDaqFramer.chunkBytes_copied, ← hlen, sqPut, if_neg (hcount _)]
  simp only [SiDaqFramer.append] at hheld
  simp only [SiDaqFramer.frameLen, SiDaqFramer.append, SiDaqFramer.carryAccesses, hheld]
  rfl

/-- The carry-over phase takes a frame of `n` bytes off the buffer and goes on behind it, which is
in front of the chunk where the frame is shorter than the carried bytes; the queue limit is recorded
but does not end the call. -/
theorem carryOver_takes (que : List (List α)) (hrest : 0 ≤ fr.rest) (hfit : fr.rest ≤ fr.buffSize)
    (hdata : data.length < 2147483648) {n : ℕ}
    (hn : (fr.append data).frameLen (fr.held data) (fr.held data).length = n)
    (hle : n ≤ (fr.held data).length) (hoff : -2147483648 ≤ n - fr.rest) :
    ∃ l, carryOver fr data que = .next l ∧
      l.que = que ++ [(fr.held data).take n] ∧
      l.framer =
        (let fr' := ((fr.append data).frameLength (fr.held data) (fr.held data).length).2
         { fr' with
            errorCode := if fr'.atQueueLimit l.que.length then .exceedFrameQueueCount
              else fr'.errorCode
            rest := 0 }) ∧
      l.accesses = fr.carryAccesses data ∧ l.frameCount = 1 ∧
      (l.readPtr = some (n - fr.rest) ∧ l.dataLen = wrap32 (data.length - (n - fr.rest)) ∧
          n - fr.rest < data.length ∨
        l.readPtr = none ∧ l.dataLen = 0 ∧ data.length ≤ n - fr.rest) := by
  have hheld := SiDaqFramer.buffBytes_append data hrest
  have hlen := SiDaqFramer.length_held data hrest
  have hcopied := fr.length_copied_le data
  have hframe : buffBytes (fr.append data).buffPtr (n : ℤ) = (fr.held data).take n := by
    rw [← take_buffBytes (fr.append data).buffPtr (m := n) (n := (fr.held data).length) (by omega),
      hheld, Int.toNat_natCast]
  have hwrap : wrap32 ((n : ℤ) - fr.rest) = n - fr.rest := wrap32_of_range hoff (by omega)
  rw [carryOver_eq que hrest hfit]
  simp only [hn, if_pos (show ((fr.held data).length : ℤ) ≥ n by omega),
    if_neg (show ¬ ((n : ℤ) < 0) by omega), hframe, hwrap]
  split
  · rename_i hmore
    exact ⟨_, rfl, rfl, rfl, rfl, rfl, Or.inl ⟨rfl, rfl, hmore⟩⟩
  · rename_i hmore
    exact ⟨_, rfl, rfl, rfl, rfl, rfl, Or.inr ⟨rfl, rfl, not_lt.mp hmore⟩⟩

/-- A frame that is not shorter than the carried bytes: the loop gets the rest of the chunk. -/
theorem carryOver_frame (que : List (List α)) (hrest : 0 ≤ fr.rest) (hfit : fr.rest ≤ fr.buffSize)
    (hdata : data.length < 2147483648) {n : ℕ}
    (hn : (fr.append data).frameLen (fr.held data) (fr.held data).length = n)
    (hle : n ≤ (fr.held data).length) (hoff : fr.rest ≤ n) :
    ∃ l, carryOver fr data que = .next l ∧
      l.que = que ++ [(fr.held data).take n] ∧
      l.framer =
        (let fr' := ((fr.append data).frameLength (fr.held data) (fr.held data).length).2
         { fr' with
            errorCode := if fr'.atQueueLimit l.que.length then .exceedFrameQueueCount
              else fr'.errorCode
            rest := 0 }) ∧
      l.accesses = fr.carryAccesses data ∧ l.frameCount = 1 ∧
      (AtPos data l (n - fr.rest.toNat) ∧ data.drop (n - fr.rest.toNat) ≠ [] ∨
        l.readPtr = none ∧ l.dataLen = 0 ∧ data.drop (n - fr.rest.toNat) = []) := by
  obtain ⟨l, hl, hque, hframer, hacc, hcount, hat⟩ :=
    carryOver_takes que hrest hfit hdata hn hle (by omega)
  refine ⟨l, hl, hque, hframer, hacc, hcount, ?_⟩
  have hdrop := List.length_drop (i := n - fr.rest.toNat) (l := data)
  rcases hat with ⟨hp, hlen, hmore⟩ | ⟨hp, hlen, hall⟩
  · refine Or.inl ⟨⟨?_, by omega, ?_⟩, List.ne_nil_of_length_pos (by omega)⟩
    · rw [hp, Option.some.injEq]
      omega
    · rw [hlen, wrap32_of_range (by omega) (by omega)]
      omega
  · exact Or.inr ⟨hp, hlen, List.drop_eq_nil_of_le (by omega)⟩

/-- The carry-over phase keeps an incomplete frame. -/
theorem carryOver_save (que : List (List α)) (hrest : 0 ≤ fr.rest) (hfit : fr.rest ≤ fr.buffSize)
    (hlt : ((fr.held data).length : ℤ) <
      (fr.append data).frameLen (fr.held data) (fr.held data).length) :
    carryOver fr data que =
      .next ⟨{ ((fr.append data).frameLength (fr.held data) (fr.held data).length).2 with
          rest := (fr.held data).length }, que, none, 0, 0, fr.carryAccesses data⟩ := by
  rw [carryOver_eq que hrest hfit]
  exact if_neg (not_le.mpr hlt)

/-- Without carry-over, the call is the loop. -/
theorem recvSiDaqData_of_rest_eq_zero (data : List α) (que : List (List α)) (h : fr.rest = 0) :
    recvSiDaqData fr data que = recvLoop data (data.length + 2) (.start fr data que) := by
  simp [recvSiDaqData, h]

/-- A chunk that ends inside its first frame is saved. -/
theorem recvSiDaqData_save (que : List (List α)) (hzero : fr.rest = 0) (hne : data ≠ [])
    (hheader : fr.headerLen ≤ data.length)
    (hlt : (data.length : ℤ) < fr.frameLen data data.length) :
    recvSiDaqData fr data que =
      let fr' := (fr.frameLength data data.length).2
      some ⟨0, { fr' with rest := data.length, buffPtr := buffWrite fr'.buffPtr 0 data }, que,
        fr.chunkLenAccess 0 data.length ++ [.chunk 0 data.length, .buff 0 data.length]⟩ := by
  have hat : AtPos data (.start fr data que) 0 := ⟨rfl, by omega, rfl⟩
  rw [recvSiDaqData_of_rest_eq_zero data que hzero,
    recvLoop_of_next (loopBody_save hat hne hheader hlt), recvLoop_of_done (loopBody_null rfl)]
  rfl

/-- A chunk that does not complete the carried frame is appended, as far as it fits. -/
theorem recvSiDaqData_append (que : List (List α)) (hpos : 0 < fr.rest)
    (hfit : fr.rest ≤ fr.buffSize)
    (hlt : ((fr.held data).length : ℤ) <
      (fr.append data).frameLen (fr.held data) (fr.held data).length) :
    recvSiDaqData fr data que =
      some ⟨0, { ((fr.append data).frameLength (fr.held data) (fr.held data).length).2 with
        rest := (fr.held data).length }, que, fr.carryAccesses data⟩ := by
  simp only [recvSiDaqData, if_pos hpos, carryOver_save que hpos.le hfit hlt]
  exact recvLoop_of_done (loopBody_null rfl) _

end Carry

/-! ## What a call leaves alone -/

/-- What only `SiDaqRun` and the framer thread write, and a header that only the null framer
drops. -/
structure SameSetup (fr fr' : SiDaqFramer α) : Prop where
  errorFlg : fr'.errorFlg = fr.errorFlg
  queueLimit : fr'.queueLimit = fr.queueLimit
  maxFrameLen : fr'.maxFrameLen = fr.maxFrameLen
  buffSize : fr'.buffSize = fr.buffSize
  headerLen : fr'.headerLen = fr.headerLen ∨ fr'.headerLen = 0

theorem SameSetup.of_eq {fr fr' : SiDaqFramer α} (hflg : fr'.errorFlg = fr.errorFlg)
    (hlimit : fr'.queueLimit = fr.queueLimit) (hmax : fr'.maxFrameLen = fr.maxFrameLen)
    (hsize : fr'.buffSize = fr.buffSize) (hheader : fr'.headerLen = fr.headerLen) :
    SameSetup fr fr' :=
  ⟨hflg, hlimit, hmax, hsize, Or.inl hheader⟩

theorem SameSetup.trans {fr fr' fr'' : SiDaqFramer α} (h : SameSetup fr fr')
    (h' : SameSetup fr' fr'') : SameSetup fr fr'' where
  errorFlg := h'.errorFlg.trans h.errorFlg
  queueLimit := h'.queueLimit.trans h.queueLimit
  maxFrameLen := h'.maxFrameLen.trans h.maxFrameLen
  buffSize := h'.buffSize.trans h.buffSize
  headerLen := by
    rcases h'.headerLen with heq | hzero
    · rw [heq]
      exact h.headerLen
    · exact Or.inr hzero

/-- A header of at most `n` bytes stays one. -/
theorem SameSetup.headerLen_le {fr fr' : SiDaqFramer α} (h : SameSetup fr fr') {n : ℤ}
    (hn : 0 ≤ n) (hle : fr.headerLen ≤ n) : fr'.headerLen ≤ n := by
  rcases h.headerLen with heq | hzero
  · rwa [heq]
  · rwa [hzero]

theorem SiDaqFramer.frameLength_setup (fr : SiDaqFramer α) (bytes : List α) (avail : ℤ) :
    SameSetup fr (fr.frameLength bytes avail).2 := by
  simp only [SiDaqFramer.frameLength]
  split <;> split <;> constructor <;> simp [SiDaqFramer.putNull, SiDaqFramer.decided]

section Setup

variable [Inhabited α]

/-- The framer at the end of a part of the call. -/
def Flow.framer : Flow α → Option (SiDaqFramer α)
  | .done o => some o.framer
  | .next l => some l.framer
  | .fault => none

theorem loopBody_setup (data : List α) (l : Locals α) {fr : SiDaqFramer α}
    (h : (loopBody data l).framer = some fr) : SameSetup l.framer fr := by
  have hkeep : ∀ bytes avail, SameSetup l.framer (l.framer.frameLength bytes avail).2 :=
    l.framer.frameLength_setup
  unfold loopBody at h
  split at h
  · obtain rfl := Option.some.inj h
    exact .of_eq rfl rfl rfl rfl rfl
  · split at h
    · obtain rfl := Option.some.inj h
      exact .of_eq rfl rfl rfl rfl rfl
    · simp only at h
      -- by how the iteration ends: a fault, no memory, a full queue, a frame, or no frame yet
      split at h
      · split at h
        · simp [Flow.framer] at h
        · split at h
          · obtain rfl := Option.some.inj h
            exact (hkeep _ _).trans (.of_eq rfl rfl rfl rfl rfl)
          · split at h
            · obtain rfl := Option.some.inj h
              exact (hkeep _ _).trans (.of_eq rfl rfl rfl rfl rfl)
            · obtain rfl := Option.some.inj h
              exact hkeep _ _
      · obtain rfl := Option.some.inj h
        exact (hkeep _ _).trans (.of_eq rfl rfl rfl rfl rfl)

theorem carryOver_setup (fr : SiDaqFramer α) (data : List α) (que : List (List α))
    {fr' : SiDaqFramer α} (h : (carryOver fr data que).framer = some fr') : SameSetup fr fr' := by
  have hkeep : ∀ buff bytes avail,
      SameSetup fr ({ fr with buffPtr := buff }.frameLength bytes avail).2 := by
    intro buff bytes avail
    have hbuff : SameSetup fr { fr with buffPtr := buff } := .of_eq rfl rfl rfl rfl rfl
    exact hbuff.trans ({ fr with buffPtr := buff }.frameLength_setup bytes avail)
  unfold carryOver at h
  simp only at h
  generalize (if (data.length : ℤ) < fr.buffSize - fr.rest then (data.length : ℤ)
    else fr.buffSize - fr.rest) = copyLen at h
  -- by how the phase ends: no buffer, a fault, no memory, a frame, or no frame yet
  split at h
  · obtain rfl := Option.some.inj h
    exact .of_eq rfl rfl rfl rfl rfl
  · split at h
    · split at h
      · simp [Flow.framer] at h
      · split at h
        · obtain rfl := Option.some.inj h
          exact (hkeep _ _ _).trans (.of_eq rfl rfl rfl rfl rfl)
        · split at h <;>
            (obtain rfl := Option.some.inj h; exact (hkeep _ _ _).trans (.of_eq rfl rfl rfl rfl rfl))
    · obtain rfl := Option.some.inj h
      exact (hkeep _ _ _).trans (.of_eq rfl rfl rfl rfl rfl)

theorem recvLoop_setup {data : List α} {fuel : ℕ} {l : Locals α} {o : Outcome α}
    (h : recvLoop data fuel l = some o) : SameSetup l.framer o.framer := by
  induction fuel generalizing l with
  | zero => simp [recvLoop] at h
  | succ fuel ih =>
    simp only [recvLoop] at h
    split at h
    · rename_i o' ho'
      obtain rfl := Option.some.inj h
      exact loopBody_setup data l (by rw [ho']; rfl)
    · rename_i l' hl'
      exact (loopBody_setup data l (by rw [hl']; rfl)).trans (ih h)
    · simp at h

/-- `RecvSiDaqData` records errors, but it is the framer thread that flags them. -/
theorem recvSiDaqData_setup {fr : SiDaqFramer α} {data : List α} {que : List (List α)}
    {o : Outcome α} (h : recvSiDaqData fr data que = some o) : SameSetup fr o.framer := by
  simp only [recvSiDaqData] at h
  split at h
  · split at h
    · rename_i o' ho'
      obtain rfl := Option.some.inj h
      exact carryOver_setup fr data que (by rw [ho']; rfl)
    · rename_i l hl
      exact (carryOver_setup fr data que (by rw [hl]; rfl)).trans (recvLoop_setup h)
    · simp at h
  · exact recvLoop_setup h

end Setup

end SiDaqApi
