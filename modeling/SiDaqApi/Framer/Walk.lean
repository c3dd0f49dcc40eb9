import SiDaqApi.Framer.Effects

/-!
# The loop at any offset

With a length function that answers as it likes, a frame taken off the buffer may end before the
carried bytes do; the loop then starts in front of the chunk, and `data_len` may even have wrapped.
`Turn` says what an iteration does wherever the loop stands, with its effects, and `recvLoop_walk` is
the induction over the loop from it. All of it needs `WellFormed` only, and no fact about the length
function.
-/

namespace SiDaqApi

open MachineInt

variable {α : Type*}

/-- The loop is not at its end. -/
structure Looping (l : Locals α) : Prop where
  readPtr : l.readPtr ≠ none
  dataLen_lt : l.dataLen < 2147483648
  framer : WellFormed l.framer

/-- The loop of a call without carry-over. -/
theorem Looping.start {fr : SiDaqFramer α} (hw : WellFormed fr) {data : List α}
    (hdata : data.length < 2147483648) (que : List (List α)) :
    Looping (.start fr data que) where
  readPtr := by simp [Locals.start]
  dataLen_lt := by
    show (data.length : ℤ) < 2147483648
    omega
  framer := hw

section Turn

variable [Inhabited α]

@[simp] theorem length_chunkBytes (data : List α) (off len : ℤ) :
    (chunkBytes data off len).length = len.toNat := by
  simp [chunkBytes]

/-- The next `n` bytes from `read_ptr` on. -/
def Locals.ahead (data : List α) (l : Locals α) (n : ℤ) : List α :=
  chunkBytes data (l.readPtr.getD 0) n

/-- The frame length decision of the iteration. -/
def Locals.decision (data : List α) (l : Locals α) : ℤ × SiDaqFramer α :=
  l.framer.frameLength (l.ahead data l.dataLen) l.dataLen

/-- There is a header, and bytes. -/
def Locals.HasHeader (l : Locals α) : Prop := 0 < l.dataLen ∧ l.framer.headerLen ≤ l.dataLen

/-- The iteration takes a frame of `n` bytes. -/
structure Locals.Cuts (data : List α) (l : Locals α) (n : ℤ) : Prop where
  hasHeader : l.HasHeader
  frameLen_eq : l.framer.frameLen (l.ahead data l.dataLen) l.dataLen = n
  pos : 0 < n
  le : n ≤ l.dataLen

/-- The loop behind the frame. -/
def Locals.cut (data : List α) (l : Locals α) (n : ℤ) : Locals α where
  framer := (l.decision data).2
  que := l.que ++ [l.ahead data n]
  readPtr := some (l.readPtr.getD 0 + n)
  dataLen := l.dataLen - n
  frameCount := l.frameCount + 1
  accesses := l.accesses ++ l.framer.chunkLenAccess (l.readPtr.getD 0) l.dataLen ++
    [.chunk (l.readPtr.getD 0) n]

/-- The fallbacks of the iteration. -/
def Locals.lengthEffects (data : List α) (l : Locals α) : List (Effect α) :=
  l.framer.lengthEffects (l.ahead data l.dataLen) l.dataLen

/-- The effects of an iteration that takes a frame. -/
def Locals.cutEffects (data : List α) (l : Locals α) (n : ℤ) : List (Effect α) :=
  l.lengthEffects data ++
    (l.decision data).2.putEffects (l.decision data).1 (l.ahead data n) (l.que.length + 1 : ℕ)

/-- The framer with `len` carried bytes. -/
def SiDaqFramer.saved (fr : SiDaqFramer α) (len : ℤ) (buff : ℕ → α) : SiDaqFramer α :=
  { fr with rest := len, buffPtr := buff }

/-- **What an iteration does**: it stops within a header, or takes a frame that fills the queue, or
takes a frame, or saves an incomplete one. -/
inductive Turn (data : List α) (l : Locals α) : Prop
  | stop (ret : ℤ) (buff : ℕ → α) (acc : List Access)
      (short : l.dataLen = 0 ∨ l.dataLen < l.framer.headerLen)
      (body : loopBody data l = .done ⟨ret, l.framer.saved l.dataLen buff, l.que, acc⟩)
      (effects : l.effects data = [])
  | full (n : ℤ) (acc : List Access) (cuts : l.Cuts data n)
      (limit : (l.decision data).2.atQueueLimit (l.que.length + 1 : ℕ))
      (body : loopBody data l = .done
        ⟨-1, { (l.decision data).2 with errorCode := .exceedFrameQueueCount },
          l.que ++ [l.ahead data n], acc⟩)
      (effects : l.effects data = l.cutEffects data n)
  | frame (n : ℤ) (cuts : l.Cuts data n)
      (free : ¬ (l.decision data).2.atQueueLimit (l.que.length + 1 : ℕ))
      (body : loopBody data l = .next (l.cut data n))
      (effects : l.effects data = l.cutEffects data n)
  | save (buff : ℕ → α) (acc : List Access) (hasHeader : l.HasHeader)
      (lt : l.dataLen < l.framer.frameLen (l.ahead data l.dataLen) l.dataLen)
      (body : loopBody data l =
        .next ⟨(l.decision data).2.saved l.dataLen buff, l.que, none, 0, l.frameCount, acc⟩)
      (effects : l.effects data = l.lengthEffects data)

/-- An iteration with a header to look at decides on a length; then the frame is there or not. -/
theorem Looping.turn {l : Locals α} (h : Looping l) (data : List α) : Turn data l := by
  obtain ⟨p, hp⟩ := Option.ne_none_iff_exists'.mp h.readPtr
  have hlt := h.dataLen_lt
  have hbase : l.readPtr.getD 0 = p := by rw [hp]; rfl
  by_cases hshort : l.dataLen = 0 ∨ l.dataLen < l.framer.headerLen
  · refine .stop _ _ _ hshort (by simp only [loopBody, hp, if_pos hshort]; rfl) ?_
    simp only [Locals.effects, hp, if_pos hshort]
  · have hnonneg := h.framer.header_nonneg
    have hheader : l.HasHeader := by
      unfold Locals.HasHeader
      omega
    have hpos := SiDaqFramer.frameLen_pos h.framer.ranged (l.ahead data l.dataLen) hheader.1 hlt
    have heq : wrap32 ((l.decision data).1 + (l.decision data).2.headerLen) =
        l.framer.frameLen (l.ahead data l.dataLen) l.dataLen := rfl
    generalize hn : l.framer.frameLen (l.ahead data l.dataLen) l.dataLen = n at hpos heq
    simp only [Locals.decision, Locals.ahead, hbase] at heq
    have hcount : ¬ (((l.que.length + 1 : ℕ) : ℤ) < 0) := by omega
    by_cases hle : n ≤ l.dataLen
    · have hcuts : l.Cuts data n := ⟨hheader, hn, hpos, hle⟩
      have heffects : l.effects data = l.cutEffects data n := by
        simp only [Locals.effects, hp, if_neg hshort, heq, if_pos (And.intro hle hpos.le),
          Locals.cutEffects, Locals.lengthEffects, Locals.decision, Locals.ahead, Option.getD_some,
          sqPut, List.length_append, List.length_singleton]
      have hwrap : wrap32 (l.dataLen - n) = l.dataLen - n := wrap32_of_range (by omega) (by omega)
      by_cases hfull : (l.decision data).2.atQueueLimit (l.que.length + 1 : ℕ)
      · refine .full n (l.cut data n).accesses hcuts hfull ?_ heffects
        simp only [Locals.cut, Locals.decision, Locals.ahead, hbase] at hfull ⊢
        simp only [loopBody, hp, if_neg hshort, heq, if_pos hle, if_neg (not_lt.mpr hpos.le), sqPut,
          List.length_append, List.length_singleton, if_neg hcount, if_pos hfull]
      · refine .frame n hcuts hfull ?_ heffects
        simp only [Locals.decision, Locals.ahead, hbase] at hfull
        simp only [loopBody, hp, if_neg hshort, heq, if_pos hle, if_neg (not_lt.mpr hpos.le), sqPut,
          List.length_append, List.length_singleton, if_neg hcount, if_neg hfull, hwrap,
          Locals.cut, Locals.decision, Locals.ahead, Option.getD_some]
    · refine .save (buffWrite (l.decision data).2.buffPtr 0 (l.ahead data l.dataLen))
        (l.accesses ++ l.framer.chunkLenAccess p l.dataLen ++
          [.chunk p l.dataLen, .buff 0 l.dataLen]) hheader (by omega) ?_ ?_
      · simp only [loopBody, hp, if_neg hshort, heq, if_neg hle, Locals.decision, Locals.ahead,
          Option.getD_some, SiDaqFramer.saved]
      · have hno : ¬ (l.dataLen ≥ n ∧ 0 ≤ n) := fun hboth => hle hboth.1
        simp only [Locals.effects, hp, if_neg hshort, heq, if_neg hno, List.append_nil,
          Locals.lengthEffects, Locals.ahead, Option.getD_some]

/-- The decision keeps the sizes. -/
theorem Looping.decision {l : Locals α} (h : Looping l) (data : List α) (hnonneg : 0 ≤ l.dataLen) :
    WellFormed (l.decision data).2 :=
  h.framer.frameLength _ hnonneg h.dataLen_lt

theorem Looping.cut {data : List α} {l : Locals α} {n : ℤ} (h : Looping l) (hcuts : l.Cuts data n) :
    Looping (l.cut data n) where
  readPtr := by simp [Locals.cut]
  dataLen_lt := by
    have hlt := h.dataLen_lt
    have hpos := hcuts.pos
    simp only [Locals.cut]
    omega
  framer := h.decision data hcuts.hasHeader.1.le

theorem loopEffects_of_done {data : List α} {l : Locals α} {o : Outcome α}
    (h : loopBody data l = .done o) (fuel : ℕ) :
    loopEffects data (fuel + 1) l = l.effects data := by
  simp only [loopEffects, h, List.append_nil]

theorem loopEffects_of_next {data : List α} {l l' : Locals α} (h : loopBody data l = .next l')
    (fuel : ℕ) :
    loopEffects data (fuel + 1) l = l.effects data ++ loopEffects data fuel l' := by
  simp only [loopEffects, h]

/-- At its end the loop does nothing. -/
theorem loopEffects_of_null {data : List α} {l : Locals α} (h : l.readPtr = none) (fuel : ℕ) :
    loopEffects data (fuel + 1) l = [] := by
  rw [loopEffects_of_done (loopBody_null h)]
  simp only [Locals.effects, h]

/-- **The induction over the loop, with its effects.** It returns, since every frame has a byte. -/
theorem recvLoop_walk {data : List α} {P : Locals α → List (Effect α) → Outcome α → Prop}
    (stop : ∀ l ret buff acc, Looping l → (l.dataLen = 0 ∨ l.dataLen < l.framer.headerLen) →
      P l [] ⟨ret, l.framer.saved l.dataLen buff, l.que, acc⟩)
    (full : ∀ l n acc, Looping l → l.Cuts data n →
      (l.decision data).2.atQueueLimit (l.que.length + 1 : ℕ) →
      P l (l.cutEffects data n)
        ⟨-1, { (l.decision data).2 with errorCode := .exceedFrameQueueCount },
          l.que ++ [l.ahead data n], acc⟩)
    (frame : ∀ l n es o, Looping l → l.Cuts data n →
      ¬ (l.decision data).2.atQueueLimit (l.que.length + 1 : ℕ) →
      P (l.cut data n) es o → P l (l.cutEffects data n ++ es) o)
    (save : ∀ l ret buff acc, Looping l → l.HasHeader →
      l.dataLen < l.framer.frameLen (l.ahead data l.dataLen) l.dataLen →
      P l (l.lengthEffects data) ⟨ret, (l.decision data).2.saved l.dataLen buff, l.que, acc⟩)
    {fuel : ℕ} {l : Locals α} (h : Looping l) (hfuel : l.dataLen.toNat + 2 ≤ fuel) :
    ∃ o, recvLoop data fuel l = some o ∧ P l (loopEffects data fuel l) o := by
  induction fuel generalizing l with
  | zero => omega
  | succ fuel ih =>
    cases h.turn data with
    | stop ret buff acc short body effects =>
      rw [recvLoop_of_done body, loopEffects_of_done body, effects]
      exact ⟨_, rfl, stop l ret buff acc h short⟩
    | full n acc cuts limit body effects =>
      rw [recvLoop_of_done body, loopEffects_of_done body, effects]
      exact ⟨_, rfl, full l n acc h cuts limit⟩
    | frame n cuts free body effects =>
      have hpos := cuts.pos
      have hle := cuts.le
      obtain ⟨o, ho, hP⟩ := ih (h.cut cuts) (by simp only [Locals.cut]; omega)
      rw [recvLoop_of_next body, loopEffects_of_next body, effects]
      exact ⟨o, ho, frame l n _ o h cuts free hP⟩
    | save buff acc hasHeader lt body effects =>
      -- one more iteration sees that `readPtr` is null
      obtain ⟨fuel, rfl⟩ : ∃ k, fuel = k + 1 := ⟨fuel - 1, by omega⟩
      rw [recvLoop_of_next body, loopEffects_of_next body, effects,
        recvLoop_of_done (loopBody_null rfl), loopEffects_of_null rfl, List.append_nil]
      exact ⟨_, rfl, save l _ buff _ h hasHeader lt⟩

end Turn

/-! ## The carry-over phase -/

section Carry

variable {fr : SiDaqFramer α} {data : List α} {que : List (List α)}

/-- The frame length decision of the carry-over phase. -/
def SiDaqFramer.carryDecision (fr : SiDaqFramer α) (data : List α) : ℤ × SiDaqFramer α :=
  (fr.append data).frameLength (fr.held data) (fr.held data).length

/-- The length of the frame that it asks for. -/
def SiDaqFramer.carryLen (fr : SiDaqFramer α) (data : List α) : ℤ :=
  (fr.append data).frameLen (fr.held data) (fr.held data).length

/-- The first `n` bytes of the buffer, after the copy. -/
def SiDaqFramer.carryFrame (fr : SiDaqFramer α) (data : List α) (n : ℤ) : List α :=
  buffBytes (fr.append data).buffPtr n

/-- The fallbacks of the carry-over phase. -/
def SiDaqFramer.carryLengthEffects (fr : SiDaqFramer α) (data : List α) : List (Effect α) :=
  (fr.append data).lengthEffects (fr.held data) (fr.held data).length

/-- The framer after a frame of the carry-over phase, put in a queue of `count`. -/
def SiDaqFramer.carryDone (fr : SiDaqFramer α) (data : List α) (count : ℕ) : SiDaqFramer α :=
  { (fr.carryDecision data).2 with
    errorCode := if (fr.carryDecision data).2.atQueueLimit (count + 1 : ℕ) then
        .exceedFrameQueueCount
      else (fr.carryDecision data).2.errorCode
    rest := 0 }

theorem SiDaqFramer.held_le (hw : WellFormed fr) (hrest : 0 ≤ fr.rest)
    (hfit : fr.rest ≤ fr.buffSize) (data : List α) : ((fr.held data).length : ℤ) ≤ defaultMaxFrameLen := by
  rw [SiDaqFramer.length_held_eq data hrest hfit, ← hw.size]
  exact min_le_right _ _

/-- The copy leaves the sizes alone. -/
theorem WellFormed.append (hw : WellFormed fr) (data : List α) : WellFormed (fr.append data) :=
  hw.congr rfl rfl rfl rfl

theorem WellFormed.carryDecision (hw : WellFormed fr) (hrest : 0 ≤ fr.rest)
    (hfit : fr.rest ≤ fr.buffSize) (data : List α) : WellFormed (fr.carryDecision data).2 :=
  (hw.append data).frameLength _ (by omega)
    ((SiDaqFramer.held_le hw hrest hfit data).trans_lt (by decide))

variable [Inhabited α]

/-- **What the carry-over phase does**: it takes a frame off the buffer and hands the rest of the
chunk to the loop, or it keeps all that it copied. -/
inductive CarryTurn (fr : SiDaqFramer α) (data : List α) (que : List (List α)) : Prop
  | frame (n : ℤ) (l : Locals α) (carryLen : fr.carryLen data = n) (pos : 0 < n)
      (le : n ≤ (fr.held data).length) (body : carryOver fr data que = .next l)
      (framer : l.framer = fr.carryDone data que.length)
      (que_eq : l.que = que ++ [fr.carryFrame data n])
      (more : l.readPtr = none ∨
        l.readPtr ≠ none ∧ l.dataLen = wrap32 (data.length - (n - fr.rest)))
      (effects : carryEffects fr data que = fr.carryLengthEffects data ++
        (fr.carryDecision data).2.putEffects (fr.carryDecision data).1 (fr.carryFrame data n)
          (que.length + 1 : ℕ))
  | save (l : Locals α) (lt : ((fr.held data).length : ℤ) < fr.carryLen data)
      (body : carryOver fr data que = .next l)
      (framer : l.framer = (fr.carryDecision data).2.saved (fr.held data).length
        (fr.carryDecision data).2.buffPtr)
      (que_eq : l.que = que) (null : l.readPtr = none)
      (effects : carryEffects fr data que = fr.carryLengthEffects data)

theorem carryEffects_eq (data : List α) (que : List (List α)) (hrest : 0 ≤ fr.rest)
    (hfit : fr.rest ≤ fr.buffSize) :
    carryEffects fr data que = fr.carryLengthEffects data ++
      if ((fr.held data).length : ℤ) ≥ fr.carryLen data ∧ 0 ≤ fr.carryLen data then
        (fr.carryDecision data).2.putEffects (fr.carryDecision data).1
          (fr.carryFrame data (fr.carryLen data)) (que.length + 1 : ℕ)
      else [] := by
  have hheld := SiDaqFramer.buffBytes_append data hrest
  have hlen := SiDaqFramer.length_held data hrest
  simp only [carryEffects, if_neg (show ¬ fr.buffSize - fr.rest < 0 by omega),
    SiDaqFramer.copyLen_eq hfit, SiDaqFramer.chunkBytes_copied, ← hlen, sqPut, List.length_append,
    List.length_singleton]
  simp only [SiDaqFramer.append] at hheld
  simp only [SiDaqFramer.carryLengthEffects, SiDaqFramer.carryLen, SiDaqFramer.carryDecision,
    SiDaqFramer.carryFrame, SiDaqFramer.frameLen, SiDaqFramer.append, hheld]
  rfl

/-- The phase is entered with carried bytes that fit in the buffer. -/
theorem carryTurn (hw : WellFormed fr) (hpos : 0 < fr.rest) (hfit : fr.rest ≤ fr.buffSize)
    (data : List α) (que : List (List α)) : CarryTurn fr data que := by
  have hheld := SiDaqFramer.held_le hw hpos.le hfit data
  have hsize := hw.size
  have hlen := SiDaqFramer.length_held data hpos.le
  have hcap : (defaultMaxFrameLen : ℤ) < 2147483648 := by decide
  have hframe : 0 < fr.carryLen data :=
    SiDaqFramer.frameLen_pos (hw.append data).ranged _ (by omega) (by omega)
  have hbody : carryOver fr data que = _ := carryOver_eq que hpos.le hfit
  have heffects := carryEffects_eq data que hpos.le hfit
  by_cases hle : fr.carryLen data ≤ (fr.held data).length
  · have hoff : wrap32 (fr.carryLen data - fr.rest) = fr.carryLen data - fr.rest :=
      wrap32_of_range (by omega) (by omega)
    rw [if_pos ⟨hle, hframe.le⟩] at heffects
    simp only [SiDaqFramer.carryLen] at hoff hframe hle
    simp only [if_pos hle, if_neg (not_lt.mpr hframe.le), hoff, List.length_append,
      List.length_singleton] at hbody
    split at hbody
    · exact .frame _ _ rfl hframe hle hbody rfl rfl (Or.inr ⟨by simp, rfl⟩) heffects
    · exact .frame _ _ rfl hframe hle hbody rfl rfl (Or.inl rfl) heffects
  · rw [if_neg fun h => hle h.1, List.append_nil] at heffects
    simp only [SiDaqFramer.carryLen] at hle
    rw [if_neg hle] at hbody
    exact .save _ (not_le.mp hle) hbody rfl rfl rfl heffects

/-- The carry-over phase hands a loop on, or is the end of the call. -/
theorem WellFormed.carryOver (hw : WellFormed fr) (hpos : 0 < fr.rest)
    (hfit : fr.rest ≤ fr.buffSize) (data : List α) (que : List (List α)) :
    ∃ l, carryOver fr data que = .next l ∧ WellFormed l.framer ∧
      (l.readPtr = none ∨ Looping l ∧ l.dataLen.toNat ≤ fr.rest.toNat + data.length) := by
  have hheld := SiDaqFramer.length_held data hpos.le
  have hcopied := fr.length_copied_le data
  have hdec := hw.carryDecision hpos.le hfit data
  cases carryTurn hw hpos hfit data que with
  | frame n l carryLen hn le body framer que_eq more effects =>
    have hwell : WellFormed l.framer := by
      rw [framer]
      exact hdec.congr rfl rfl rfl rfl
    refine ⟨l, body, hwell, ?_⟩
    rcases more with hnull | ⟨hne, hleft⟩
    · exact Or.inl hnull
    · refine Or.inr ⟨⟨hne, by rw [hleft]; exact wrap32_lt _, hwell⟩, ?_⟩
      -- a sum that is no `int` wraps to a negative one
      rw [hleft]
      unfold wrap32
      omega
  | save l lt body framer que_eq null effects =>
    refine ⟨l, body, ?_, Or.inl null⟩
    rw [framer]
    exact hdec.congr rfl rfl rfl rfl

end Carry

/-! ## A call -/

section Call

variable [Inhabited α] {fr : SiDaqFramer α} {data : List α}

theorem Looping.recvLoop {l : Locals α} (h : Looping l) {fuel : ℕ}
    (hfuel : l.dataLen.toNat + 2 ≤ fuel) :
    ∃ o, recvLoop data fuel l = some o ∧ WellFormed o.framer := by
  apply recvLoop_walk (P := fun _ _ o => WellFormed o.framer) ?stop ?full ?frame ?save h hfuel
  case stop =>
    intro l ret buff acc h _
    exact h.framer.congr rfl rfl rfl rfl
  case full =>
    intro l n acc h hcuts _
    exact (h.decision data hcuts.hasHeader.1.le).congr rfl rfl rfl rfl
  case frame =>
    intro l n es o _ _ _ ih
    exact ih
  case save =>
    intro l ret buff acc h hheader _
    exact (h.decision data hheader.1.le).congr rfl rfl rfl rfl

/-- A call returns whatever the buffer holds, and keeps the sizes. -/
theorem WellFormed.recvSiDaqData (hw : WellFormed fr) (hdata : data.length < 2147483648)
    (que : List (List α)) : ∃ o, recvSiDaqData fr data que = some o ∧ WellFormed o.framer := by
  by_cases hpos : 0 < fr.rest
  · simp only [SiDaqApi.recvSiDaqData, if_pos hpos]
    by_cases hfit : fr.rest ≤ fr.buffSize
    · obtain ⟨l, hl, hwell, hnull | ⟨hloop, hlen⟩⟩ := hw.carryOver hpos hfit data que
      · rw [hl]
        exact ⟨_, recvLoop_of_done (loopBody_null hnull) _, hwell⟩
      · rw [hl]
        exact hloop.recvLoop (by omega)
    · -- more is carried than the buffer holds
      simp only [SiDaqApi.carryOver, if_pos (show fr.buffSize - fr.rest < 0 by omega)]
      exact ⟨_, rfl, hw.congr rfl rfl rfl rfl⟩
  · simp only [SiDaqApi.recvSiDaqData, if_neg hpos]
    exact (Looping.start hw hdata que).recvLoop (by simp only [Locals.start]; omega)

end Call

end SiDaqApi
