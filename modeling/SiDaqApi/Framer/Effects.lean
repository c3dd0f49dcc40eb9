import SiDaqApi.Framer.Phases

/-!
# What a call of `RecvSiDaqData` does, in order

A call writes `_error_code` and puts frames in the event queue, and of the writes only the last one
is left when it returns. `recvEffects` lists them all, from the same branches as the code's;
`recvSiDaqData_explains` says that the queue and the error code at the end are what the list makes
of them.
-/

namespace SiDaqApi

open MachineInt

variable {α : Type*}

/-- A write of `_error_code`; or an `SQPut`, with the framer and `event_len` at that moment, the
frame, and the number of frames in the queue that it returns. -/
inductive Effect (α : Type*)
  | error (code : FramerErrorCode)
  | put (fr : SiDaqFramer α) (eventLen : ℤ) (frame : List α) (count : ℤ)

/-- The codes written, in order. -/
def errors : List (Effect α) → List FramerErrorCode
  | [] => []
  | .error code :: es => code :: errors es
  | .put _ _ _ _ :: es => errors es

/-- The frames put in the queue, in order. -/
def frames : List (Effect α) → List (List α)
  | [] => []
  | .error _ :: es => frames es
  | .put _ _ frame _ :: es => frame :: frames es

@[simp] theorem errors_append (es es' : List (Effect α)) :
    errors (es ++ es') = errors es ++ errors es' := by
  induction es with
  | nil => rfl
  | cons e es ih => cases e <;> simp [errors, ih]

@[simp] theorem frames_append (es es' : List (Effect α)) :
    frames (es ++ es') = frames es ++ frames es' := by
  induction es with
  | nil => rfl
  | cons e es ih => cases e <;> simp [frames, ih]

/-- The error code after the effects, when it was `code` before. -/
def lastError (code : FramerErrorCode) (es : List (Effect α)) : FramerErrorCode :=
  (errors es).getLastD code

@[simp] theorem lastError_append (code : FramerErrorCode) (es es' : List (Effect α)) :
    lastError code (es ++ es') = lastError (lastError code es) es' := by
  simp only [lastError, errors_append, List.getLastD_eq_getLast?, List.getLast?_append]
  cases (errors es').getLast? <;> simp

/-! ## The parts of a call -/

/-- The two fallbacks of a length decision. -/
def SiDaqFramer.lengthEffects (fr : SiDaqFramer α) (bytes : List α) (avail : ℤ) : List (Effect α) :=
  let len := fr.eventLen bytes avail
  let r := if len < 0 then (avail, fr.decided.putNull .getFrameLengthFailed) else (len, fr.decided)
  (if len < 0 then [.error .getFrameLengthFailed] else []) ++
    if uint32 (r.1 + r.2.headerLen) > r.2.maxFrameLen then [.error .exceedMaxFrameLength] else []

/-- An `SQPut`, and the two tests of its result. -/
def SiDaqFramer.putEffects (fr : SiDaqFramer α) (eventLen : ℤ) (frame : List α) (count : ℤ) :
    List (Effect α) :=
  .put fr eventLen frame count ::
    if count < 0 then [.error .memoryAllocatedFailed]
    else if fr.atQueueLimit count then [.error .exceedFrameQueueCount]
    else []

section Effects

variable [Inhabited α]

/-- The effects of the carry-over phase. -/
def carryEffects (fr : SiDaqFramer α) (data : List α) (que : List (List α)) : List (Effect α) :=
  let dataLen : ℤ := data.length
  if fr.buffSize - fr.rest < 0 then [.error .bufSizeError]
  else
    let copyLen := if dataLen < fr.buffSize - fr.rest then dataLen else fr.buffSize - fr.rest
    let buff := buffWrite fr.buffPtr fr.rest (chunkBytes data 0 copyLen)
    let total := fr.rest + copyLen
    let r := { fr with buffPtr := buff }.frameLength (buffBytes buff total) total
    let frameLen := wrap32 (r.1 + r.2.headerLen)
    { fr with buffPtr := buff }.lengthEffects (buffBytes buff total) total ++
      if total ≥ frameLen ∧ 0 ≤ frameLen then
        r.2.putEffects r.1 (buffBytes buff frameLen) (sqPut que (buffBytes buff frameLen)).2
      else []

/-- The effects of one iteration of the loop. -/
def Locals.effects (data : List α) (l : Locals α) : List (Effect α) :=
  match l.readPtr with
  | none => []
  | some p =>
    if l.dataLen = 0 ∨ l.dataLen < l.framer.headerLen then []
    else
      let r := l.framer.frameLength (chunkBytes data p l.dataLen) l.dataLen
      let frameLen := wrap32 (r.1 + r.2.headerLen)
      l.framer.lengthEffects (chunkBytes data p l.dataLen) l.dataLen ++
        if l.dataLen ≥ frameLen ∧ 0 ≤ frameLen then
          r.2.putEffects r.1 (chunkBytes data p frameLen)
            (sqPut l.que (chunkBytes data p frameLen)).2
        else []

/-- The effects of the loop. -/
def loopEffects (data : List α) : ℕ → Locals α → List (Effect α)
  | 0, _ => []
  | fuel + 1, l =>
    l.effects data ++
      match loopBody data l with
      | .next l' => loopEffects data fuel l'
      | _ => []

/-- The effects of a call. -/
def recvEffects (fr : SiDaqFramer α) (data : List α) (que : List (List α)) : List (Effect α) :=
  let fuel := fr.rest.toNat + data.length + 2
  if fr.rest > 0 then
    carryEffects fr data que ++
      match carryOver fr data que with
      | .next l => loopEffects data fuel l
      | _ => []
  else loopEffects data fuel (.start fr data que)

end Effects

/-! ## What they make of the queue and the error code -/

theorem SiDaqFramer.lengthEffects_frames (fr : SiDaqFramer α) (bytes : List α) (avail : ℤ) :
    frames (fr.lengthEffects bytes avail) = [] := by
  simp only [SiDaqFramer.lengthEffects]
  split <;> split <;> rfl

theorem SiDaqFramer.lengthEffects_not_limit (fr : SiDaqFramer α) (bytes : List α) (avail : ℤ) :
    FramerErrorCode.exceedFrameQueueCount ∉ errors (fr.lengthEffects bytes avail) := by
  simp only [SiDaqFramer.lengthEffects]
  split <;> split <;> simp [errors]

theorem SiDaqFramer.lengthEffects_code (fr : SiDaqFramer α) (bytes : List α) (avail : ℤ) :
    (fr.frameLength bytes avail).2.errorCode =
      lastError fr.errorCode (fr.lengthEffects bytes avail) := by
  simp only [SiDaqFramer.frameLength, SiDaqFramer.lengthEffects]
  split <;> split <;> rfl

theorem SiDaqFramer.putEffects_frames (fr : SiDaqFramer α) (eventLen : ℤ) (frame : List α)
    (count : ℤ) : frames (fr.putEffects eventLen frame count) = [frame] := by
  simp only [SiDaqFramer.putEffects]
  split
  · rfl
  · split <;> rfl

theorem SiDaqFramer.putEffects_code (fr : SiDaqFramer α) (eventLen : ℤ) (frame : List α)
    (count : ℤ) (code : FramerErrorCode) :
    lastError code (fr.putEffects eventLen frame count) =
      if count < 0 then .memoryAllocatedFailed
      else if fr.atQueueLimit count then .exceedFrameQueueCount
      else code := by
  simp only [SiDaqFramer.putEffects]
  split
  · rfl
  · split <;> rfl

/-- The queue at the end of a part of the call. -/
def Flow.que : Flow α → Option (List (List α))
  | .done o => some o.que
  | .next l => some l.que
  | .fault => none

/-- `es` lead from one queue and framer to another one. -/
structure Explains (es : List (Effect α)) (que : List (List α)) (fr : SiDaqFramer α)
    (que' : List (List α)) (fr' : SiDaqFramer α) : Prop where
  que_eq : que' = que ++ frames es
  code_eq : fr'.errorCode = lastError fr.errorCode es

theorem Explains.nil {que : List (List α)} {fr fr' : SiDaqFramer α}
    (hcode : fr'.errorCode = fr.errorCode) : Explains [] que fr que fr' :=
  ⟨(List.append_nil que).symm, hcode⟩

theorem Explains.trans {es es' : List (Effect α)} {que que' que'' : List (List α)}
    {fr fr' fr'' : SiDaqFramer α} (h : Explains es que fr que' fr')
    (h' : Explains es' que' fr' que'' fr'') : Explains (es ++ es') que fr que'' fr'' where
  que_eq := by rw [h'.que_eq, h.que_eq, frames_append, List.append_assoc]
  code_eq := by rw [h'.code_eq, h.code_eq, lastError_append]

/-- Of the framer only the error code counts. -/
theorem Explains.of_code {es : List (Effect α)} {que que' : List (List α)}
    {fr₀ fr fr' : SiDaqFramer α} (h : Explains es que fr₀ que' fr')
    (hcode : fr₀.errorCode = fr.errorCode) : Explains es que fr que' fr' :=
  ⟨h.que_eq, hcode ▸ h.code_eq⟩

/-- A length decision touches the error code only. -/
theorem SiDaqFramer.explains_frameLength (fr : SiDaqFramer α) (bytes : List α) (avail : ℤ)
    (que : List (List α)) {fr' : SiDaqFramer α}
    (hcode : fr'.errorCode = (fr.frameLength bytes avail).2.errorCode) :
    Explains (fr.lengthEffects bytes avail) que fr que fr' where
  que_eq := by rw [fr.lengthEffects_frames, List.append_nil]
  code_eq := hcode.trans (fr.lengthEffects_code bytes avail)

/-- An `SQPut`, by what its result says. -/
theorem SiDaqFramer.explains_put (fr : SiDaqFramer α) (eventLen : ℤ) (frame : List α) (count : ℤ)
    (que : List (List α)) {fr' : SiDaqFramer α}
    (hcode : fr'.errorCode = if count < 0 then .memoryAllocatedFailed
      else if fr.atQueueLimit count then .exceedFrameQueueCount else fr.errorCode) :
    Explains (fr.putEffects eventLen frame count) que fr (que ++ [frame]) fr' where
  que_eq := by rw [fr.putEffects_frames]
  code_eq := hcode.trans (fr.putEffects_code eventLen frame count fr.errorCode).symm

section Results

variable [Inhabited α]

/-- One iteration does what its effects say. -/
theorem loopBody_explains (data : List α) (l : Locals α) {fr : SiDaqFramer α}
    {que : List (List α)} (hfr : (loopBody data l).framer = some fr)
    (hque : (loopBody data l).que = some que) :
    Explains (l.effects data) l.que l.framer que fr := by
  unfold loopBody at hfr hque
  unfold Locals.effects
  cases hp : l.readPtr with
  | none =>
    simp only [hp, Flow.framer, Flow.que, Option.some.injEq] at hfr hque
    subst hfr hque
    exact .nil rfl
  | some p =>
    simp only [hp] at hfr hque ⊢
    have hlen : ∀ {fr' : SiDaqFramer α},
        fr'.errorCode = (l.framer.frameLength (chunkBytes data p l.dataLen) l.dataLen).2.errorCode →
        Explains (l.framer.lengthEffects (chunkBytes data p l.dataLen) l.dataLen) l.que l.framer
          l.que fr' :=
      fun hcode => l.framer.explains_frameLength _ _ l.que hcode
    generalize l.framer.frameLength (chunkBytes data p l.dataLen) l.dataLen = r at hfr hque hlen ⊢
    generalize l.framer.lengthEffects (chunkBytes data p l.dataLen) l.dataLen = es at hlen ⊢
    generalize wrap32 (r.1 + r.2.headerLen) = frameLen at hfr hque ⊢
    by_cases hshort : l.dataLen = 0 ∨ l.dataLen < l.framer.headerLen
    · simp only [if_pos hshort, Flow.framer, Flow.que, Option.some.injEq] at hfr hque ⊢
      subst hfr hque
      exact .nil rfl
    simp only [if_neg hshort] at hfr hque ⊢
    by_cases hle : l.dataLen ≥ frameLen
    · simp only [if_pos hle] at hfr hque
      by_cases hneg : frameLen < 0
      · simp [if_pos hneg, Flow.framer] at hfr
      simp only [if_neg hneg] at hfr hque
      rw [if_pos ⟨hle, not_lt.mp hneg⟩]
      refine (hlen rfl).trans ?_
      by_cases hmem : (sqPut l.que (chunkBytes data p frameLen)).2 < 0
      · simp only [if_pos hmem, Flow.framer, Flow.que, Option.some.injEq] at hfr hque
        subst hfr hque
        exact r.2.explains_put _ _ _ _ (by rw [if_pos hmem])
      by_cases hfull : r.2.atQueueLimit (sqPut l.que (chunkBytes data p frameLen)).2
      · simp only [if_neg hmem, if_pos hfull, Flow.framer, Flow.que, Option.some.injEq] at hfr hque
        subst hfr hque
        exact r.2.explains_put _ _ _ _ (by rw [if_neg hmem, if_pos hfull])
      · simp only [if_neg hmem, if_neg hfull, Flow.framer, Flow.que, Option.some.injEq] at hfr hque
        subst hfr hque
        exact r.2.explains_put _ _ _ _ (by rw [if_neg hmem, if_neg hfull])
    · simp only [if_neg hle, Flow.framer, Flow.que, Option.some.injEq] at hfr hque
      rw [if_neg fun h => hle h.1, List.append_nil]
      subst hfr hque
      exact hlen rfl

/-- The carry-over phase does what its effects say. -/
theorem carryOver_explains (fr : SiDaqFramer α) (data : List α) (que : List (List α))
    {fr' : SiDaqFramer α} {que' : List (List α)} (hfr : (carryOver fr data que).framer = some fr')
    (hque : (carryOver fr data que).que = some que') :
    Explains (carryEffects fr data que) que fr que' fr' := by
  unfold carryOver at hfr hque
  unfold carryEffects
  simp only at hfr hque ⊢
  generalize (if (data.length : ℤ) < fr.buffSize - fr.rest then (data.length : ℤ)
    else fr.buffSize - fr.rest) = copyLen at hfr hque ⊢
  generalize buffWrite fr.buffPtr fr.rest (chunkBytes data 0 copyLen) = buff at hfr hque ⊢
  by_cases hsize : fr.buffSize - fr.rest < 0
  · simp only [if_pos hsize, Flow.framer, Flow.que, Option.some.injEq] at hfr hque ⊢
    subst hfr hque
    exact ⟨(List.append_nil que).symm, rfl⟩
  simp only [if_neg hsize] at hfr hque ⊢
  have hlen : ∀ {fr' : SiDaqFramer α}, fr'.errorCode =
      ({ fr with buffPtr := buff }.frameLength (buffBytes buff (fr.rest + copyLen))
        (fr.rest + copyLen)).2.errorCode →
      Explains ({ fr with buffPtr := buff }.lengthEffects (buffBytes buff (fr.rest + copyLen))
        (fr.rest + copyLen)) que fr que fr' :=
    fun hcode => ({ fr with buffPtr := buff }.explains_frameLength _ _ que hcode).of_code rfl
  generalize { fr with buffPtr := buff }.frameLength (buffBytes buff (fr.rest + copyLen))
    (fr.rest + copyLen) = r at hfr hque hlen ⊢
  generalize { fr with buffPtr := buff }.lengthEffects (buffBytes buff (fr.rest + copyLen))
    (fr.rest + copyLen) = es at hlen ⊢
  generalize wrap32 (r.1 + r.2.headerLen) = frameLen at hfr hque ⊢
  by_cases hle : fr.rest + copyLen ≥ frameLen
  · simp only [if_pos hle] at hfr hque
    by_cases hneg : frameLen < 0
    · simp [if_pos hneg, Flow.framer] at hfr
    simp only [if_neg hneg] at hfr hque
    rw [if_pos ⟨hle, not_lt.mp hneg⟩]
    refine (hlen rfl).trans ?_
    by_cases hmem : (sqPut que (buffBytes buff frameLen)).2 < 0
    · simp only [if_pos hmem, Flow.framer, Flow.que, Option.some.injEq] at hfr hque
      subst hfr hque
      exact r.2.explains_put _ _ _ _ (by rw [if_pos hmem])
    · -- the limit is recorded, and the phase goes on
      simp only [if_neg hmem] at hfr hque
      split at hfr <;> split at hque <;>
        simp_all only [Flow.framer, Flow.que, Option.some.injEq]
      all_goals
        subst hfr hque
        exact r.2.explains_put _ _ _ _ (by rw [if_neg hmem])
  · simp only [if_neg hle, Flow.framer, Flow.que, Option.some.injEq] at hfr hque
    rw [if_neg fun h => hle h.1, List.append_nil]
    subst hfr hque
    exact hlen rfl

theorem recvLoop_explains {data : List α} {fuel : ℕ} {l : Locals α} {o : Outcome α}
    (h : recvLoop data fuel l = some o) :
    Explains (loopEffects data fuel l) l.que l.framer o.que o.framer := by
  induction fuel generalizing l with
  | zero => simp [recvLoop] at h
  | succ fuel ih =>
    simp only [recvLoop, loopEffects] at h ⊢
    cases hbody : loopBody data l with
    | done o' =>
      simp only [hbody, Option.some.injEq] at h ⊢
      subst h
      rw [List.append_nil]
      exact loopBody_explains data l (by rw [hbody]; rfl) (by rw [hbody]; rfl)
    | next l' =>
      simp only [hbody] at h ⊢
      exact (loopBody_explains data l (by rw [hbody]; rfl) (by rw [hbody]; rfl)).trans (ih h)
    | fault => simp [hbody] at h

/-- **The effects of a call tell the event queue and the error code** that it leaves behind. -/
theorem recvSiDaqData_explains {fr : SiDaqFramer α} {data : List α} {que : List (List α)}
    {o : Outcome α} (h : recvSiDaqData fr data que = some o) :
    Explains (recvEffects fr data que) que fr o.que o.framer := by
  simp only [recvSiDaqData, recvEffects] at h ⊢
  split at h
  · rename_i hpos
    rw [if_pos hpos]
    cases hcarry : carryOver fr data que with
    | done o' =>
      simp only [hcarry, Option.some.injEq] at h ⊢
      subst h
      rw [List.append_nil]
      exact carryOver_explains fr data que (by rw [hcarry]; rfl) (by rw [hcarry]; rfl)
    | next l =>
      simp only [hcarry] at h ⊢
      exact (carryOver_explains fr data que (by rw [hcarry]; rfl) (by rw [hcarry]; rfl)).trans
        (recvLoop_explains h)
    | fault => simp [hcarry] at h
  · rename_i hpos
    rw [if_neg hpos]
    exact recvLoop_explains h

end Results

end SiDaqApi
