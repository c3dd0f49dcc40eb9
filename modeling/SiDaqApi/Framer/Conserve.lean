import SiDaqApi.Framer.Steady

/-!
# The framer keeps every byte

For a header of at most two bytes a call of `RecvSiDaqData` moves the carried bytes and the chunk,
in order, into event-queue frames and a new carry-over (`recvSiDaqData_conserves`). The invariant
between calls is `Ready`: a steady framer with such a header.

With a longer header the loop's early exit stores one byte of several, so the restriction is needed;
`conserves_iff_header_le_two` says that it is the only one.
-/

namespace SiDaqApi

open MachineInt

variable {α : Type*}

/-- The configurations under which the framer keeps every byte, unless it stops at a queue limit. -/
structure Sound (fr : SiDaqFramer α) : Prop extends WellFormed fr where
  header_le : fr.headerLen ≤ 2
  stable : ∀ f, fr.lengthFunc = some f → StableOn f fr.headerLen

theorem Sound.ruled {fr : SiDaqFramer α} (hs : Sound fr) : Ruled fr where
  toWellFormed := hs.toWellFormed
  stable := hs.stable

theorem Ruled.sound {fr : SiDaqFramer α} (hs : Ruled fr) (htwo : fr.headerLen ≤ 2) : Sound fr where
  toWellFormed := hs.toWellFormed
  header_le := htwo
  stable := hs.stable

/-- Only the sizes and the length function matter. -/
theorem Sound.congr {fr fr' : SiDaqFramer α} (hs : Sound fr)
    (hheader : fr'.headerLen = fr.headerLen) (hmax : fr'.maxFrameLen = fr.maxFrameLen)
    (hsize : fr'.buffSize = fr.buffSize) (hfixed : fr'.fixedFrameLen = fr.fixedFrameLen)
    (hfun : fr'.lengthFunc = fr.lengthFunc) : Sound fr' :=
  (hs.ruled.congr hheader hmax hsize hfixed hfun).sound (hheader ▸ hs.header_le)

theorem Sound.decided {fr : SiDaqFramer α} (hs : Sound fr) : Sound fr.decided :=
  hs.congr rfl rfl rfl rfl rfl

theorem Sound.putNull {fr : SiDaqFramer α} (hs : Sound fr) (code : FramerErrorCode) :
    Sound (fr.putNull code) :=
  (hs.ruled.putNull code).sound (by simp [SiDaqFramer.putNull])

theorem Sound.frameLength {fr : SiDaqFramer α} (hs : Sound fr) (bytes : List α) (avail : ℤ)
    (h₀ : 0 ≤ avail) (h₁ : avail < 2147483648) : Sound (fr.frameLength bytes avail).2 :=
  (hs.ruled.frameLength bytes avail h₀ h₁).sound
    ((fr.frameLength_setup bytes avail).headerLen_le (by decide) hs.header_le)

theorem SiDaqFramer.not_atQueueLimit {fr : SiDaqFramer α} (h : fr.queueLimit = 0) (count : ℤ) :
    ¬ fr.atQueueLimit count := by
  simp [SiDaqFramer.atQueueLimit, h]

theorem SiDaqFramer.frameLength_queueLimit (fr : SiDaqFramer α) (bytes : List α) (avail : ℤ) :
    (fr.frameLength bytes avail).2.queueLimit = fr.queueLimit :=
  (fr.frameLength_frame bytes avail).2.2.2.2.1

theorem SiDaqFramer.frameLength_rest (fr : SiDaqFramer α) (bytes : List α) (avail : ℤ) :
    (fr.frameLength bytes avail).2.rest = fr.rest :=
  (fr.frameLength_frame bytes avail).1

/-- The queue and the carry-over hold a beginning of `bytes`; all of them, without a queue limit. -/
def Keeps (limit : ℕ) (bytes : List α) (que : List (List α)) (fr : SiDaqFramer α) : Prop :=
  que.flatten ++ fr.restBytes <+: bytes ∧ (limit = 0 → que.flatten ++ fr.restBytes = bytes)

theorem Keeps.of_eq {limit : ℕ} {bytes : List α} {que : List (List α)} {fr : SiDaqFramer α}
    (h : que.flatten ++ fr.restBytes = bytes) : Keeps limit bytes que fr :=
  ⟨h ▸ List.prefix_rfl, fun _ => h⟩

/-- The invariant of the framer between calls. -/
structure Ready (fr : SiDaqFramer α) : Prop extends Sound fr where
  rest_nonneg : 0 ≤ fr.rest
  rest_lt : fr.rest < fr.maxFrameLen
  pending : 0 < fr.rest → Pending fr

theorem Ready.steady {fr : SiDaqFramer α} (hr : Ready fr) : Steady fr where
  toRuled := hr.toSound.ruled
  rest_nonneg := hr.rest_nonneg
  rest_lt := hr.rest_lt
  pending := hr.pending

theorem Steady.ready {fr : SiDaqFramer α} (hr : Steady fr) (htwo : fr.headerLen ≤ 2) :
    Ready fr where
  toSound := hr.toRuled.sound htwo
  rest_nonneg := hr.rest_nonneg
  rest_lt := hr.rest_lt
  pending := hr.pending

theorem Ready.of_rest_eq_zero {fr : SiDaqFramer α} (hs : Sound fr) (h : fr.rest = 0) :
    Ready fr :=
  (Steady.of_rest_eq_zero hs.ruled h).ready hs.header_le

/-! ## The loop -/

private theorem flatten_snoc (que : List (List α)) (bytes : List α) :
    (que ++ [bytes]).flatten = que.flatten ++ bytes := by
  simp

/-- The carry-over after the loop's early exit, when at most one byte is left. -/
theorem restBytes_partial (buff : ℕ → α) {bs : List α} (h : bs.length ≤ 1) (one : List α)
    (hone : bs ≠ [] → one = bs) : buffBytes (buffWrite buff 0 one) bs.length = bs := by
  rcases bs with _ | ⟨b, _ | ⟨c, bs⟩⟩
  · rfl
  · rw [hone (by simp)]
    exact buffBytes_save buff [b]
  · simp at h

section Loop

variable [Inhabited α] {data : List α} {l : Locals α} {p : ℕ}

/-- The loop ends within a header of at most two bytes: the one byte left is stored. -/
theorem AtPos.restBytes_short (h : AtPos data l p) (htwo : l.framer.headerLen ≤ 2)
    (hshort : data.drop p = [] ∨ ((data.drop p).length : ℤ) < l.framer.headerLen) :
    buffBytes (buffWrite l.framer.buffPtr 0 (chunkBytes data p 1)) (data.drop p).length =
      data.drop p := by
  have hlen : (data.drop p).length ≤ 1 := by
    rcases hshort with hnil | hlt
    · simp [hnil]
    · omega
  refine restBytes_partial l.framer.buffPtr hlen _ fun hne => ?_
  have hpos := List.length_pos_iff.mpr hne
  have hone := h.chunkBytes_eq (n := 1) (by omega)
  rw [Nat.cast_one] at hone
  rw [hone, List.take_of_length_le hlen]

/-- The loop moves the bytes left of the chunk into frames and the carry-over. At a queue limit it
stops early, with nothing carried. -/
theorem recvLoop_conserves (hs : Sound l.framer) (hzero : l.framer.rest = 0) (h : AtPos data l p)
    (hdata : data.length < 2147483648) {fuel : ℕ} {o : Outcome α}
    (hrun : recvLoop data fuel l = some o) :
    l.que <+: o.que ∧ Keeps l.framer.queueLimit (l.que.flatten ++ data.drop p) o.que o.framer := by
  refine recvLoop_induct
    (P := fun p l o => Sound l.framer → l.framer.rest = 0 → l.que <+: o.que ∧
      Keeps l.framer.queueLimit (l.que.flatten ++ data.drop p) o.que o.framer)
    ?short ?limit ?frame ?save hdata hs.toWellFormed h hrun hs hzero
  case short =>
    intro p l hw h hshort hs hzero
    refine ⟨List.prefix_rfl, .of_eq ?_⟩
    simp only [SiDaqFramer.restBytes, h.restBytes_short hs.header_le hshort]
  case limit =>
    -- what is left of the chunk is lost
    intro p l n hw h htakes hfull hs hzero
    have hnone : (l.framer.after (data.drop p)).rest = 0 :=
      (l.framer.frameLength_rest _ _).trans hzero
    refine ⟨List.prefix_append _ _, ?_, fun hnl => ?_⟩
    · simp only [SiDaqFramer.restBytes, hnone, buffBytes_zero, List.append_nil, flatten_snoc]
      exact (List.prefix_append_right_inj _).mpr (List.take_prefix _ _)
    · exact absurd hfull
        (SiDaqFramer.not_atQueueLimit ((l.framer.frameLength_queueLimit _ _).trans hnl) _)
  case frame =>
    intro p l n o hw h htakes hfree hat ih hs hzero
    obtain ⟨hpre, hkeeps⟩ := ih (hs.frameLength _ _ (by omega) (h.small hdata))
      ((l.framer.frameLength_rest _ _).trans hzero)
    rw [show (l.frame data p n).framer.queueLimit = l.framer.queueLimit from
      l.framer.frameLength_queueLimit _ _] at hkeeps
    have hsplit : l.que.flatten ++ data.drop p =
        (l.frame data p n).que.flatten ++ data.drop (p + n) := by
      simp only [Locals.frame, flatten_snoc, List.append_assoc]
      rw [← List.drop_drop, List.take_append_drop]
    rw [hsplit]
    exact ⟨(List.prefix_append _ _).trans hpre, hkeeps⟩
  case save =>
    intro p l hw h hne hheader hlt hs hzero
    refine ⟨List.prefix_rfl, .of_eq ?_⟩
    simp only [SiDaqFramer.restBytes, buffBytes_save]

end Loop

/-! ## A call -/

section Calls

variable [Inhabited α] {fr : SiDaqFramer α} {data : List α} {que : List (List α)} {o : Outcome α}

/-- **A call keeps every byte, in order**, unless a queue limit makes it drop the end of the
chunk. -/
theorem recvSiDaqData_conserves (hr : Ready fr) (hdata : data.length < 2147483648)
    (hrun : recvSiDaqData fr data que = some o) :
    Ready o.framer ∧ o.framer.queueLimit = fr.queueLimit ∧ que <+: o.que ∧
      Keeps fr.queueLimit (que.flatten ++ fr.restBytes ++ data) o.que o.framer := by
  have hsetup := recvSiDaqData_setup hrun
  have hready := (recvSiDaqData_keeps_steady hr.steady hdata hrun).ready
    (hsetup.headerLen_le (by decide) hr.header_le)
  refine ⟨hready, hsetup.queueLimit, ?_⟩
  rw [List.append_assoc]
  rcases recvSiDaqData_steady hr.steady hdata hrun with
    ⟨l, p, fuel, -, hruled, hl, hzero, hat, hpre, hflat, -, hloop⟩ | ⟨-, -, -, hpre, hflat⟩
  · have hs := hruled.sound (hl.headerLen_le (by decide) hr.header_le)
    obtain ⟨hpre', hkeeps⟩ := recvLoop_conserves hs hzero hat hdata hloop
    rw [hflat, hl.queueLimit] at hkeeps
    exact ⟨hpre.trans hpre', hkeeps⟩
  · exact ⟨hpre, .of_eq hflat⟩

/-- What a call adds to the queue, and what it carries then. -/
theorem recvSiDaqData_adds (hr : Ready fr) (hdata : data.length < 2147483648)
    (hrun : recvSiDaqData fr data que = some o) :
    ∃ frames, o.que = que ++ frames ∧
      frames.flatten ++ o.framer.restBytes <+: fr.restBytes ++ data ∧
      (fr.queueLimit = 0 → frames.flatten ++ o.framer.restBytes = fr.restBytes ++ data) := by
  obtain ⟨-, -, ⟨frames, hque⟩, hpre, hall⟩ := recvSiDaqData_conserves hr hdata hrun
  rw [← hque, List.flatten_append, List.append_assoc, List.append_assoc] at hpre hall
  exact ⟨frames, hque.symm, (List.prefix_append_right_inj _).mp hpre,
    fun hlimit => List.append_cancel_left (hall hlimit)⟩

/-- A call returns. -/
theorem recvSiDaqData_total (hr : Ready fr) (hdata : data.length < 2147483648)
    (que : List (List α)) : ∃ o, recvSiDaqData fr data que = some o :=
  recvSiDaqData_returns hr.steady hdata que

end Calls

end SiDaqApi
