import SiDaqApi.Framer.Progress

/-!
# Errors that are overwritten

`RecvSiDaqData` writes `_error_code` at each test that fails, also when another error is recorded
already. `RecvOverwrites` says of a call that one of its parts does that: the frame that a fallback
makes of the bytes there are fails a test of its own, or fills the event queue up to its limit, or
the loop fails a test after the carry-over phase has. It reads the bytes, the sizes and the queue,
and `recv_unreplaced_iff` says that it is exact: without it, all errors of a call are the first one.
`not_recvOverwrites_of_fits` gives sizes for which no call does it.
-/

namespace SiDaqApi

open MachineInt

variable {α : Type*}

/-! ## Codes written one after the other -/

/-- Each code is written where no error, or the same one, is recorded. -/
def Unreplaced : FramerErrorCode → List FramerErrorCode → Prop
  | _, [] => True
  | recorded, code :: codes => (recorded = .noError ∨ recorded = code) ∧ Unreplaced code codes

instance : (recorded : FramerErrorCode) → (codes : List FramerErrorCode) →
    Decidable (Unreplaced recorded codes)
  | _, [] => isTrue trivial
  | recorded, code :: codes =>
    have : Decidable (Unreplaced code codes) := instDecidableUnreplaced code codes
    inferInstanceAs (Decidable ((recorded = .noError ∨ recorded = code) ∧ Unreplaced code codes))

theorem unreplaced_append (recorded : FramerErrorCode) (codes codes' : List FramerErrorCode) :
    Unreplaced recorded (codes ++ codes') ↔
      Unreplaced recorded codes ∧ Unreplaced (codes.getLastD recorded) codes' := by
  induction codes generalizing recorded with
  | nil => simp [Unreplaced]
  | cons code codes ih =>
    rw [List.cons_append, Unreplaced, Unreplaced, ih, and_assoc, List.getLastD_cons]

/-- An error that is not replaced stays the first one. -/
theorem Unreplaced.getLastD_eq_headD {recorded : FramerErrorCode}
    {before codes : List FramerErrorCode} (h : Unreplaced recorded codes)
    (hno : FramerErrorCode.noError ∉ before ++ codes) (hfirst : recorded = before.headD .noError) :
    codes.getLastD recorded = (before ++ codes).headD .noError := by
  induction codes generalizing recorded before with
  | nil => rw [List.append_nil, ← hfirst, List.getLastD_nil]
  | cons code codes ih =>
    obtain ⟨hcode, htail⟩ := h
    rw [List.getLastD_cons, ← List.singleton_append, ← List.append_assoc]
    apply ih htail
    · simpa using hno
    · cases before with
      | nil => rfl
      | cons first rest =>
        -- an error is recorded, and it is this one
        obtain rfl : recorded = first := hfirst
        rcases hcode with rfl | rfl
        · simp at hno
        · rfl

/-- Codes that are not replaced are all the same. -/
theorem unreplaced_noError_iff {codes : List FramerErrorCode}
    (hno : FramerErrorCode.noError ∉ codes) :
    Unreplaced .noError codes ↔ ∀ code ∈ codes, codes.head? = some code := by
  have hsame : ∀ {first : FramerErrorCode} {codes : List FramerErrorCode}, first ≠ .noError →
      FramerErrorCode.noError ∉ codes →
      (Unreplaced first codes ↔ ∀ code ∈ codes, first = code) := by
    intro first codes hfirst hno
    induction codes generalizing first with
    | nil => simp [Unreplaced]
    | cons code codes ih =>
      obtain ⟨hcode, hcodes⟩ := List.ne_and_not_mem_of_not_mem_cons hno
      rw [Unreplaced, ih hcode.symm hcodes, List.forall_mem_cons, or_iff_right hfirst]
      constructor
      · rintro ⟨rfl, hall⟩
        exact ⟨rfl, hall⟩
      · rintro ⟨rfl, hall⟩
        exact ⟨rfl, hall⟩
  cases codes with
  | nil => simp [Unreplaced]
  | cons code codes =>
    obtain ⟨hcode, hcodes⟩ := List.ne_and_not_mem_of_not_mem_cons hno
    rw [Unreplaced, hsame hcode.symm hcodes]
    simp

/-! ## The tests of a part of a call -/

/-- The length function returns a negative number. -/
def SiDaqFramer.LengthFails (fr : SiDaqFramer α) (bytes : List α) (avail : ℤ) : Prop :=
  fr.eventLen bytes avail < 0

/-- The frame is longer than the maximum; after a failed length function it is all that is there. -/
def SiDaqFramer.TooLong (fr : SiDaqFramer α) (bytes : List α) (avail : ℤ) : Prop :=
  uint32 (if fr.eventLen bytes avail < 0 then avail else fr.eventLen bytes avail + fr.headerLen) >
    fr.maxFrameLen

/-- The frame is there, and with it the event queue is at its limit. -/
def SiDaqFramer.FillsQueue (fr : SiDaqFramer α) (bytes : List α) (avail : ℤ) (count : ℤ) : Prop :=
  (avail ≥ fr.frameLen bytes avail ∧ 0 ≤ fr.frameLen bytes avail) ∧ fr.atQueueLimit count

/-- Two of the tests fail, or one of them where another error is recorded already. -/
def SiDaqFramer.Overwrites (fr : SiDaqFramer α) (bytes : List α) (avail : ℤ) (count : ℤ) : Prop :=
  (fr.LengthFails bytes avail ∧ fr.TooLong bytes avail) ∨
  ((fr.LengthFails bytes avail ∨ fr.TooLong bytes avail) ∧ fr.FillsQueue bytes avail count) ∨
  (fr.errorCode ≠ .noError ∧
    ((fr.LengthFails bytes avail ∧ fr.errorCode ≠ .getFrameLengthFailed) ∨
     (fr.TooLong bytes avail ∧ fr.errorCode ≠ .exceedMaxFrameLength) ∨
     (fr.FillsQueue bytes avail count ∧ fr.errorCode ≠ .exceedFrameQueueCount)))

/-- The codes that the tests write. -/
def testCodes (fails tooLong full : Prop) [Decidable fails] [Decidable tooLong] [Decidable full] :
    List FramerErrorCode :=
  (if fails then [.getFrameLengthFailed] else []) ++
    (if tooLong then [.exceedMaxFrameLength] else []) ++
    if full then [.exceedFrameQueueCount] else []

theorem unreplaced_testCodes (recorded : FramerErrorCode) (fails tooLong full : Prop)
    [Decidable fails] [Decidable tooLong] [Decidable full] :
    Unreplaced recorded (testCodes fails tooLong full) ↔
      ¬ (fails ∧ tooLong ∨ (fails ∨ tooLong) ∧ full ∨ recorded ≠ .noError ∧
        (fails ∧ recorded ≠ .getFrameLengthFailed ∨ tooLong ∧ recorded ≠ .exceedMaxFrameLength ∨
          full ∧ recorded ≠ .exceedFrameQueueCount)) := by
  by_cases hfails : fails <;> by_cases hlong : tooLong <;> by_cases hfull : full <;>
    simp [testCodes, hfails, hlong, hfull, Unreplaced, or_iff_not_imp_left]

instance (fr : SiDaqFramer α) (bytes : List α) (avail : ℤ) : Decidable (fr.LengthFails bytes avail) :=
  inferInstanceAs (Decidable (_ < _))

instance (fr : SiDaqFramer α) (bytes : List α) (avail : ℤ) : Decidable (fr.TooLong bytes avail) :=
  inferInstanceAs (Decidable (_ > _))

instance (fr : SiDaqFramer α) (bytes : List α) (avail count : ℤ) :
    Decidable (fr.FillsQueue bytes avail count) :=
  inferInstanceAs (Decidable (_ ∧ _))

instance (fr : SiDaqFramer α) (bytes : List α) (avail count : ℤ) :
    Decidable (fr.Overwrites bytes avail count) :=
  inferInstanceAs (Decidable (_ ∨ _))

/-- The codes of a length decision. -/
theorem SiDaqFramer.errors_lengthEffects (fr : SiDaqFramer α) (bytes : List α) (avail : ℤ) :
    errors (fr.lengthEffects bytes avail) =
      testCodes (fr.LengthFails bytes avail) (fr.TooLong bytes avail) False := by
  by_cases hfails : fr.LengthFails bytes avail
  · have hneg : fr.eventLen bytes avail < 0 := hfails
    have hlong : fr.TooLong bytes avail ↔ uint32 avail > fr.maxFrameLen := by
      rw [SiDaqFramer.TooLong, if_pos hneg]
    simp only [SiDaqFramer.lengthEffects, testCodes, if_pos hneg, if_pos hfails, hlong,
      SiDaqFramer.putNull, SiDaqFramer.decided, add_zero, if_false, List.append_nil]
    split <;> rfl
  · have hneg : ¬ fr.eventLen bytes avail < 0 := hfails
    have hlong : fr.TooLong bytes avail ↔
        uint32 (fr.eventLen bytes avail + fr.headerLen) > fr.maxFrameLen := by
      rw [SiDaqFramer.TooLong, if_neg hneg]
    simp only [SiDaqFramer.lengthEffects, testCodes, if_neg hneg, if_neg hfails, hlong,
      SiDaqFramer.decided, if_false, List.append_nil]
    split <;> rfl

/-- The codes of a length decision and the `SQPut` after it. -/
theorem SiDaqFramer.errors_part (fr : SiDaqFramer α) (bytes : List α) (avail : ℤ) (frame : List α)
    (count : ℕ) :
    errors (fr.lengthEffects bytes avail ++
      if avail ≥ fr.frameLen bytes avail ∧ 0 ≤ fr.frameLen bytes avail then
        (fr.frameLength bytes avail).2.putEffects (fr.frameLength bytes avail).1 frame count
      else []) =
    testCodes (fr.LengthFails bytes avail) (fr.TooLong bytes avail)
      (fr.FillsQueue bytes avail count) := by
  have hlimit : (fr.frameLength bytes avail).2.atQueueLimit count ↔ fr.atQueueLimit count := by
    unfold SiDaqFramer.atQueueLimit
    rw [(fr.frameLength_frame bytes avail).2.2.2.2.1]
  have hcount : ¬ ((count : ℤ) < 0) := by omega
  rw [errors_append, SiDaqFramer.errors_lengthEffects]
  simp only [testCodes, SiDaqFramer.FillsQueue, SiDaqFramer.putEffects, if_false, List.append_nil]
  congr 1
  by_cases hput : avail ≥ fr.frameLen bytes avail ∧ 0 ≤ fr.frameLen bytes avail
  · simp only [if_pos hput, and_iff_right hput, if_neg hcount, hlimit, errors]
    split <;> rfl
  · simp only [hput, false_and, if_false, errors]

theorem SiDaqFramer.unreplaced_part_iff (fr : SiDaqFramer α) (bytes : List α) (avail : ℤ)
    (frame : List α) (count : ℕ) :
    Unreplaced fr.errorCode (errors (fr.lengthEffects bytes avail ++
      if avail ≥ fr.frameLen bytes avail ∧ 0 ≤ fr.frameLen bytes avail then
        (fr.frameLength bytes avail).2.putEffects (fr.frameLength bytes avail).1 frame count
      else [])) ↔ ¬ fr.Overwrites bytes avail count := by
  rw [SiDaqFramer.errors_part, unreplaced_testCodes]
  rfl

/-! ## A call -/

section Call

variable [Inhabited α]

/-- The carry-over phase writes over an error. -/
def CarryOverwrites (fr : SiDaqFramer α) (data : List α) (que : List (List α)) : Prop :=
  let dataLen : ℤ := data.length
  if fr.buffSize - fr.rest < 0 then fr.errorCode ≠ .noError ∧ fr.errorCode ≠ .bufSizeError
  else
    let copyLen := if dataLen < fr.buffSize - fr.rest then dataLen else fr.buffSize - fr.rest
    let buff := buffWrite fr.buffPtr fr.rest (chunkBytes data 0 copyLen)
    let total := fr.rest + copyLen
    { fr with buffPtr := buff }.Overwrites (buffBytes buff total) total (que.length + 1 : ℕ)

/-- An iteration of the loop writes over an error. -/
def Locals.Overwrites (data : List α) (l : Locals α) : Prop :=
  match l.readPtr with
  | none => False
  | some p => ¬ (l.dataLen = 0 ∨ l.dataLen < l.framer.headerLen) ∧
      l.framer.Overwrites (chunkBytes data p l.dataLen) l.dataLen (l.que.length + 1 : ℕ)

/-- One of the iterations does. -/
def LoopOverwrites (data : List α) : ℕ → Locals α → Prop
  | 0, _ => False
  | fuel + 1, l =>
    l.Overwrites data ∨
      match loopBody data l with
      | .next l' => LoopOverwrites data fuel l'
      | _ => False

/-- A part of the call writes over an error. -/
def RecvOverwrites (fr : SiDaqFramer α) (data : List α) (que : List (List α)) : Prop :=
  let fuel := fr.rest.toNat + data.length + 2
  if fr.rest > 0 then
    CarryOverwrites fr data que ∨
      match carryOver fr data que with
      | .next l => LoopOverwrites data fuel l
      | _ => False
  else LoopOverwrites data fuel (.start fr data que)

theorem carry_unreplaced_iff (fr : SiDaqFramer α) (data : List α) (que : List (List α)) :
    Unreplaced fr.errorCode (errors (carryEffects fr data que)) ↔ ¬ CarryOverwrites fr data que := by
  simp only [carryEffects, CarryOverwrites]
  generalize (if (data.length : ℤ) < fr.buffSize - fr.rest then (data.length : ℤ)
    else fr.buffSize - fr.rest) = copyLen
  generalize buffWrite fr.buffPtr fr.rest (chunkBytes data 0 copyLen) = buff
  by_cases hsize : fr.buffSize - fr.rest < 0
  · rw [if_pos hsize, if_pos hsize]
    simp [errors, Unreplaced, or_iff_not_imp_left]
  · simp only [if_neg hsize, sqPut, List.length_append, List.length_singleton]
    exact SiDaqFramer.unreplaced_part_iff { fr with buffPtr := buff } _ _ _ _

theorem Locals.unreplaced_iff (data : List α) (l : Locals α) :
    Unreplaced l.framer.errorCode (errors (l.effects data)) ↔ ¬ l.Overwrites data := by
  unfold Locals.effects Locals.Overwrites
  cases l.readPtr with
  | none => simp [errors, Unreplaced]
  | some p =>
    by_cases hshort : l.dataLen = 0 ∨ l.dataLen < l.framer.headerLen
    · simp [hshort, errors, Unreplaced]
    · simp only [hshort, if_false, not_false_eq_true, true_and, sqPut, List.length_append,
        List.length_singleton]
      exact l.framer.unreplaced_part_iff _ _ _ _

theorem loop_unreplaced_iff (data : List α) (fuel : ℕ) (l : Locals α) :
    Unreplaced l.framer.errorCode (errors (loopEffects data fuel l)) ↔
      ¬ LoopOverwrites data fuel l := by
  induction fuel generalizing l with
  | zero => simp [loopEffects, LoopOverwrites, errors, Unreplaced]
  | succ fuel ih =>
    simp only [loopEffects, LoopOverwrites, errors_append, unreplaced_append, not_or,
      l.unreplaced_iff data]
    apply and_congr_right
    intro _
    cases hbody : loopBody data l with
    | done o => simp [errors, Unreplaced]
    | fault => simp [errors, Unreplaced]
    | next l' =>
      -- the code recorded by then is the last one of this iteration
      have hcode := (loopBody_explains data l (by rw [hbody]; rfl) (by rw [hbody]; rfl)).code_eq
      rw [← ih l', hcode, lastError]

/-- **The errors of a call are written where no other one is recorded, if and only if** none of its
parts overwrites. -/
theorem recv_unreplaced_iff (fr : SiDaqFramer α) (data : List α) (que : List (List α)) :
    Unreplaced fr.errorCode (errors (recvEffects fr data que)) ↔ ¬ RecvOverwrites fr data que := by
  simp only [recvEffects, RecvOverwrites]
  by_cases hpos : fr.rest > 0
  · simp only [if_pos hpos, errors_append, unreplaced_append, not_or, carry_unreplaced_iff]
    apply and_congr_right
    intro _
    cases hcarry : carryOver fr data que with
    | done o => simp [errors, Unreplaced]
    | fault => simp [errors, Unreplaced]
    | next l =>
      have hcode :=
        (carryOver_explains fr data que (by rw [hcarry]; rfl) (by rw [hcarry]; rfl)).code_eq
      rw [← loop_unreplaced_iff, hcode, lastError]
  · simp only [if_neg hpos]
    exact loop_unreplaced_iff data _ (.start fr data que)

end Call

/-! ## Codes of errors -/

theorem testCodes_ne_noError (fails tooLong full : Prop) [Decidable fails] [Decidable tooLong]
    [Decidable full] : FramerErrorCode.noError ∉ testCodes fails tooLong full := by
  unfold testCodes
  split <;> split <;> split <;> simp

section Errors

variable [Inhabited α]

theorem Locals.noError_not_mem (data : List α) (l : Locals α) :
    FramerErrorCode.noError ∉ errors (l.effects data) := by
  unfold Locals.effects
  cases l.readPtr with
  | none => simp [errors]
  | some p =>
    by_cases hshort : l.dataLen = 0 ∨ l.dataLen < l.framer.headerLen
    · simp [if_pos hshort, errors]
    · have hpart := l.framer.errors_part (chunkBytes data p l.dataLen) l.dataLen
        (chunkBytes data p (l.framer.frameLen (chunkBytes data p l.dataLen) l.dataLen))
        (l.que.length + 1)
      simp only [if_neg hshort, sqPut, List.length_append, List.length_singleton]
      exact hpart ▸ testCodes_ne_noError _ _ _

theorem carry_noError_not_mem (fr : SiDaqFramer α) (data : List α) (que : List (List α)) :
    FramerErrorCode.noError ∉ errors (carryEffects fr data que) := by
  simp only [carryEffects]
  generalize (if (data.length : ℤ) < fr.buffSize - fr.rest then (data.length : ℤ)
    else fr.buffSize - fr.rest) = copyLen
  generalize buffWrite fr.buffPtr fr.rest (chunkBytes data 0 copyLen) = buff
  by_cases hsize : fr.buffSize - fr.rest < 0
  · rw [if_pos hsize]
    simp [errors]
  · have hpart := { fr with buffPtr := buff }.errors_part (buffBytes buff (fr.rest + copyLen))
      (fr.rest + copyLen) (buffBytes buff ({ fr with buffPtr := buff }.frameLen
        (buffBytes buff (fr.rest + copyLen)) (fr.rest + copyLen))) (que.length + 1)
    simp only [if_neg hsize, sqPut, List.length_append, List.length_singleton]
    exact hpart ▸ testCodes_ne_noError _ _ _

theorem loop_noError_not_mem (data : List α) (fuel : ℕ) (l : Locals α) :
    FramerErrorCode.noError ∉ errors (loopEffects data fuel l) := by
  induction fuel generalizing l with
  | zero => simp [loopEffects, errors]
  | succ fuel ih =>
    rw [loopEffects, errors_append, List.mem_append, not_or]
    refine ⟨l.noError_not_mem data, ?_⟩
    split
    · exact ih _
    · simp [errors]

/-- `FRAMER_NO_ERROR` is not one of the codes that a call writes. -/
theorem recv_noError_not_mem (fr : SiDaqFramer α) (data : List α) (que : List (List α)) :
    FramerErrorCode.noError ∉ errors (recvEffects fr data que) := by
  simp only [recvEffects]
  split
  · rw [errors_append, List.mem_append, not_or]
    refine ⟨carry_noError_not_mem fr data que, ?_⟩
    split
    · exact loop_noError_not_mem data _ _
    · simp [errors]
  · exact loop_noError_not_mem data _ _

/-- **A call that starts without an error records only one code, if and only if** none of its parts
overwrites. -/
theorem recv_one_code_iff {fr : SiDaqFramer α} (hcode : fr.errorCode = .noError) (data : List α)
    (que : List (List α)) :
    (∀ code ∈ errors (recvEffects fr data que),
        (errors (recvEffects fr data que)).head? = some code) ↔ ¬ RecvOverwrites fr data que := by
  rw [← recv_unreplaced_iff, hcode, unreplaced_noError_iff (recv_noError_not_mem fr data que)]

end Errors

/-! ## Sizes for which nothing is overwritten -/

/-- A fallback's frame that is not too long fails no other test. -/
theorem SiDaqFramer.not_overwrites {fr : SiDaqFramer α} (hcode : fr.errorCode = .noError)
    (hlimit : fr.queueLimit = 0) {bytes : List α} {avail : ℤ} (h₀ : 0 ≤ avail)
    (havail : avail ≤ fr.maxFrameLen) (h₁ : avail < 2147483648) (count : ℤ) :
    ¬ fr.Overwrites bytes avail count := by
  rintro (⟨hfails, hlong⟩ | ⟨-, hfull⟩ | ⟨hrecorded, -⟩)
  · have hneg : fr.eventLen bytes avail < 0 := hfails
    rw [SiDaqFramer.TooLong, if_pos hneg, uint32_of_range h₀ (by omega)] at hlong
    omega
  · exact SiDaqFramer.not_atQueueLimit hlimit count hfull.2
  · exact hrecorded hcode

/-- A decision records an error, or it does not; in the first case it takes all that is there. -/
theorem SiDaqFramer.frameLength_code {fr : SiDaqFramer α} (hw : WellFormed fr)
    (hcode : fr.errorCode = .noError) (bytes : List α) {avail : ℤ} (h₀ : 0 ≤ avail)
    (h₁ : avail < 2147483648) :
    (fr.frameLength bytes avail).2.errorCode = .noError ∨ fr.frameLen bytes avail = avail := by
  by_cases hok : fr.LengthOk bytes avail
  · rw [SiDaqFramer.frameLength_of_ok hw.ranged hok]
    exact Or.inl hcode
  · exact Or.inr (SiDaqFramer.frameLen_of_not_ok hw.ranged h₀ h₁ hok)

section Sizes

variable [Inhabited α]

theorem not_loopOverwrites_of_null (data : List α) {l : Locals α} (h : l.readPtr = none)
    (fuel : ℕ) : ¬ LoopOverwrites data fuel l := by
  cases fuel with
  | zero => exact not_false
  | succ fuel =>
    rw [LoopOverwrites, loopBody_null h, Locals.Overwrites, h]
    simp

/-- As long as no error is recorded, or nothing is left, the loop overwrites none. -/
theorem not_loopOverwrites {data : List α} {l : Locals α} (h : Looping l)
    (hlimit : l.framer.queueLimit = 0) (hfits : l.dataLen ≤ l.framer.maxFrameLen)
    (hclean : l.framer.errorCode = .noError ∨ l.dataLen = 0) (fuel : ℕ) :
    ¬ LoopOverwrites data fuel l := by
  induction fuel generalizing l with
  | zero => exact not_false
  | succ fuel ih =>
    rw [LoopOverwrites, not_or]
    constructor
    · unfold Locals.Overwrites
      split
      · exact not_false
      · rintro ⟨hshort, hover⟩
        have hheader := h.framer.header_nonneg
        have hcode := hclean.resolve_right fun hzero => hshort (Or.inl hzero)
        exact SiDaqFramer.not_overwrites hcode hlimit (by omega) hfits h.dataLen_lt _ hover
    · cases h.turn data with
      | stop ret buff acc short body effects =>
        rw [body]
        exact not_false
      | full n acc cuts limit body effects =>
        rw [body]
        exact not_false
      | frame n cuts free body effects =>
        rw [body]
        obtain ⟨-, -, -, hmax, hsame, -⟩ :=
          l.framer.frameLength_frame (l.ahead data l.dataLen) l.dataLen
        have hpos := cuts.pos
        have hheader := cuts.hasHeader.1
        apply ih (h.cut cuts) (hsame.trans hlimit)
        · rw [show (l.cut data n).framer.maxFrameLen = _ from hmax]
          show l.dataLen - n ≤ _
          omega
        · have hcode := hclean.resolve_right hheader.ne'
          rcases SiDaqFramer.frameLength_code h.framer hcode (l.ahead data l.dataLen) hheader.le
            h.dataLen_lt with hcode | hall
          · exact Or.inl hcode
          · -- the frame is the rest of the chunk
            right
            show l.dataLen - n = 0
            rw [← cuts.frameLen_eq, hall, sub_self]
      | save buff acc hasHeader lt body effects =>
        rw [body]
        exact not_loopOverwrites_of_null data rfl fuel

section Carry

variable {fr : SiDaqFramer α} {data : List α}

theorem not_carryOverwrites (hc : Capped fr) (hcode : fr.errorCode = .noError)
    (hlimit : fr.queueLimit = 0) (hpos : 0 < fr.rest)
    (hfits : fr.rest + data.length ≤ fr.maxFrameLen) (que : List (List α)) :
    ¬ CarryOverwrites fr data que := by
  have hfit := hc.fits
  have hmax := hc.max_le
  have hcap : (defaultMaxFrameLen : ℤ) < 2147483648 := by decide
  simp only [CarryOverwrites, if_neg (show ¬ fr.buffSize - fr.rest < 0 by omega)]
  generalize hcopy : (if (data.length : ℤ) < fr.buffSize - fr.rest then (data.length : ℤ)
    else fr.buffSize - fr.rest) = copyLen
  have hle : 0 ≤ copyLen ∧ copyLen ≤ data.length := by
    rw [← hcopy]
    split <;> omega
  have havail : fr.rest + copyLen ≤ fr.maxFrameLen := by omega
  generalize buffWrite fr.buffPtr fr.rest (chunkBytes data 0 copyLen) = buff
  have hfr : ({ fr with buffPtr := buff } : SiDaqFramer α).errorCode = .noError := hcode
  exact SiDaqFramer.not_overwrites hfr hlimit (by omega) havail (by omega) _

/-- What the carry-over phase hands to the loop has no error recorded, or no bytes. -/
theorem carryOver_clean (hc : Capped fr) (hcode : fr.errorCode = .noError)
    (hlimit : fr.queueLimit = 0) (hpos : 0 < fr.rest)
    (hfits : fr.rest + data.length ≤ fr.maxFrameLen) {que : List (List α)} {l : Locals α}
    (hl : carryOver fr data que = .next l) (hne : l.readPtr ≠ none) :
    l.framer.queueLimit = 0 ∧ l.dataLen ≤ fr.maxFrameLen ∧
      (l.framer.errorCode = .noError ∨ l.dataLen = 0) := by
  have hfit := hc.fits
  have hmax := hc.max_le
  have hsize := hc.size
  have hcap : (defaultMaxFrameLen : ℤ) < 2147483648 := by decide
  have hheld := SiDaqFramer.length_held_eq data hpos.le hfit
  obtain ⟨-, -, -, -, hsame, -⟩ :=
    (fr.append data).frameLength_frame (fr.held data) (fr.held data).length
  cases carryTurn hc.toWellFormed hpos hfit data que with
  | frame n l' carryLen hn le body framer que_eq more effects =>
    obtain rfl := Flow.next.inj (hl.symm.trans body)
    have hleft := (more.resolve_left hne).2
    rw [wrap32_of_range (by omega) (by omega)] at hleft
    have hnolimit : (fr.carryDecision data).2.queueLimit = 0 := hsame.trans hlimit
    refine ⟨by rw [framer]; exact hnolimit, by omega, ?_⟩
    have hdecision := SiDaqFramer.frameLength_code (hc.toWellFormed.append data) hcode
      (fr.held data) (show (0 : ℤ) ≤ (fr.held data).length by omega) (by omega)
    rcases hdecision with hclean | hall
    · left
      rw [framer, SiDaqFramer.carryDone, if_neg (SiDaqFramer.not_atQueueLimit hnolimit _)]
      exact hclean
    · -- the frame is all that is held, and that is all there is
      have hn' : n = (fr.held data).length := carryLen.symm.trans hall
      right
      rw [hleft, hn', hheld, min_eq_left (by omega)]
      omega
  | save l' lt body framer que_eq null effects =>
    obtain rfl := Flow.next.inj (hl.symm.trans body)
    exact absurd null hne

/-- **Without a queue limit, a chunk that fits in a frame together with the carried bytes** makes no
test fail after another one. -/
theorem not_recvOverwrites_of_fits (hc : Capped fr) (hcode : fr.errorCode = .noError)
    (hlimit : fr.queueLimit = 0) (hrest : 0 ≤ fr.rest)
    (hfits : fr.rest + data.length ≤ fr.maxFrameLen) (que : List (List α)) :
    ¬ RecvOverwrites fr data que := by
  unfold RecvOverwrites
  by_cases hpos : fr.rest > 0
  · rw [if_pos hpos, not_or]
    refine ⟨not_carryOverwrites hc hcode hlimit hpos hfits que, ?_⟩
    obtain ⟨l, hl, hat, -, hmax, -⟩ := hc.carryOver hpos data que
    rw [hl]
    rcases hat with hnull | ⟨hloop, -⟩
    · exact not_loopOverwrites_of_null data hnull _
    · obtain ⟨hnolimit, hle, hclean⟩ :=
        carryOver_clean hc hcode hlimit hpos hfits hl hloop.readPtr
      exact not_loopOverwrites hloop hnolimit (by rwa [hmax]) hclean _
  · have hmax := hc.max_le
    have hcap : (defaultMaxFrameLen : ℤ) < 2147483648 := by decide
    rw [if_neg hpos]
    have hstart := Looping.start hc.toWellFormed (show data.length < 2147483648 by omega) que
    apply not_loopOverwrites hstart hlimit _ (Or.inl hcode)
    show (data.length : ℤ) ≤ fr.maxFrameLen
    omega

end Carry

end Sizes

end SiDaqApi
