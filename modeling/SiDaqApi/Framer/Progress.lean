import SiDaqApi.Framer.Walk
import SiDaqApi.Framer.Stream

/-!
# The framing loop makes progress and emits proper frames

Whatever the length function answers, a call returns: an iteration that queues a frame leaves fewer
bytes (`loop_decreases`). No frame is empty, and while no error is recorded a frame has the size
that its header and its length say, in integers, and is no longer than allowed
(`recvSiDaqData_proper`). This needs no bound on the chunk: where the sum of a long chunk and the
carried bytes wraps, the loop ends at once.
-/

namespace SiDaqApi

open MachineInt

variable {α : Type*}

/-- What a framer in use keeps, for any length function: less than a longest frame is carried. -/
structure Capped (fr : SiDaqFramer α) : Prop extends WellFormed fr where
  rest_lt : fr.rest < fr.maxFrameLen

/-- Only the sizes and the carry-over matter. -/
theorem Capped.congr {fr fr' : SiDaqFramer α} (hw : WellFormed fr) (hrest : fr'.rest < fr.maxFrameLen)
    (hheader : fr'.headerLen = fr.headerLen) (hmax : fr'.maxFrameLen = fr.maxFrameLen)
    (hsize : fr'.buffSize = fr.buffSize) (hfixed : fr'.fixedFrameLen = fr.fixedFrameLen) :
    Capped fr' where
  toWellFormed := hw.congr hheader hmax hsize hfixed
  rest_lt := by rwa [hmax]

theorem Capped.fits {fr : SiDaqFramer α} (hc : Capped fr) : fr.rest ≤ fr.buffSize := by
  have := hc.rest_lt
  have := hc.max_le
  have := hc.size
  omega

/-- A frame that is queued is not empty. Without an error its size is that of its header and its
length together, and is allowed. -/
def Effect.Proper (M : ℕ) : Effect α → Prop
  | .error _ => True
  | .put fr eventLen frame _ => frame ≠ [] ∧ (fr.errorCode = .noError →
      (frame.length : ℤ) = fr.headerLen + eventLen ∧ fr.headerLen + eventLen ≤ M)

/-- Errors are none of it. -/
theorem proper_of_frames {M : ℕ} {es : List (Effect α)} (h : frames es = []) :
    ∀ e ∈ es, e.Proper M := by
  induction es with
  | nil => simp
  | cons e es ih =>
    cases e with
    | error code => exact List.forall_mem_cons.mpr ⟨trivial, ih h⟩
    | put fr eventLen frame count => simp [frames] at h

/-- The size of the frame that a length decision asks for. -/
theorem SiDaqFramer.frameLength_size {fr : SiDaqFramer α} (hw : WellFormed fr) (bytes : List α)
    {avail : ℤ} (h₀ : 0 ≤ avail) (h₁ : avail < 2147483648)
    (hcode : (fr.frameLength bytes avail).2.errorCode = .noError) :
    fr.frameLen bytes avail =
        (fr.frameLength bytes avail).2.headerLen + (fr.frameLength bytes avail).1 ∧
      (fr.frameLength bytes avail).2.headerLen + (fr.frameLength bytes avail).1 ≤
        fr.maxFrameLen := by
  by_cases hok : fr.LengthOk bytes avail
  · rw [SiDaqFramer.frameLen_of_ok hw.ranged hok, SiDaqFramer.frameLength_of_ok hw.ranged hok]
    have hmax := hok.2
    exact ⟨add_comm _ _, by simp only [SiDaqFramer.decided]; omega⟩
  · -- a fallback has recorded its error
    obtain ⟨code, hframing, hr⟩ := SiDaqFramer.frameLength_of_not_ok hw.ranged h₀ h₁ hok
    rw [hr] at hcode
    obtain rfl : code = .noError := hcode
    rcases hframing with h | h <;> cases h

/-- The effects of taking a frame of `n` bytes. -/
theorem proper_put {fr : SiDaqFramer α} (hw : WellFormed fr) {bytes : List α} {avail n : ℤ}
    (h₀ : 0 ≤ avail) (h₁ : avail < 2147483648) (hn : fr.frameLen bytes avail = n) (hpos : 0 < n)
    {frame : List α} (hframe : frame.length = n.toNat) (count : ℤ) :
    ∀ e ∈ fr.lengthEffects bytes avail ++ (fr.frameLength bytes avail).2.putEffects
      (fr.frameLength bytes avail).1 frame count, e.Proper fr.maxFrameLen := by
  refine List.forall_mem_append.mpr ⟨proper_of_frames (fr.lengthEffects_frames bytes avail), ?_⟩
  have hsize : (fr.frameLength bytes avail).2.errorCode = .noError →
      (frame.length : ℤ) = (fr.frameLength bytes avail).2.headerLen + (fr.frameLength bytes avail).1 ∧
        (fr.frameLength bytes avail).2.headerLen + (fr.frameLength bytes avail).1 ≤
          fr.maxFrameLen := by
    intro hcode
    obtain ⟨hlen, hmax⟩ := fr.frameLength_size hw bytes h₀ h₁ hcode
    exact ⟨by omega, hmax⟩
  refine List.forall_mem_cons.mpr ⟨⟨List.ne_nil_of_length_pos (by omega), hsize⟩, ?_⟩
  apply proper_of_frames
  split
  · rfl
  · split <;> rfl

section Calls

variable [Inhabited α] {fr : SiDaqFramer α} {data : List α} {que : List (List α)}

/-- **The loop returns, and queues proper frames.** -/
theorem recvLoop_proper (data : List α) {l : Locals α} (h : Looping l)
    (hrest : l.framer.rest < l.framer.maxFrameLen) {fuel : ℕ} (hfuel : l.dataLen.toNat + 2 ≤ fuel) :
    ∃ o, recvLoop data fuel l = some o ∧ Capped o.framer ∧
      ∀ e ∈ loopEffects data fuel l, e.Proper l.framer.maxFrameLen := by
  have hwalk : ∃ o, recvLoop data fuel l = some o ∧ (l.framer.rest < l.framer.maxFrameLen →
      Capped o.framer ∧ ∀ e ∈ loopEffects data fuel l, e.Proper l.framer.maxFrameLen) := by
    refine recvLoop_walk (P := fun l es o => l.framer.rest < l.framer.maxFrameLen →
      Capped o.framer ∧ ∀ e ∈ es, e.Proper l.framer.maxFrameLen) ?stop ?full ?frame ?save h hfuel
    case stop =>
      intro l ret buff acc h hshort _
      have hheader := h.framer.header_lt
      have hnonneg := h.framer.header_nonneg
      refine ⟨Capped.congr h.framer ?_ rfl rfl rfl rfl, by simp⟩
      simp only [SiDaqFramer.saved]
      omega
    case full =>
      intro l n acc h hcuts _ hrest
      obtain ⟨hkeep, -, hsize, hmax, -, -⟩ :=
        l.framer.frameLength_frame (l.ahead data l.dataLen) l.dataLen
      have hw := h.decision data hcuts.hasHeader.1.le
      refine ⟨Capped.congr hw ?_ rfl rfl rfl rfl, ?_⟩
      · exact (hkeep.trans_lt hrest).trans_eq (congrArg Nat.cast hmax.symm)
      · exact proper_put h.framer hcuts.hasHeader.1.le h.dataLen_lt hcuts.frameLen_eq hcuts.pos
          (length_chunkBytes _ _ _) _
    case frame =>
      intro l n es o h hcuts _ ih hrest
      obtain ⟨hkeep, -, -, hmax, -, -⟩ :=
        l.framer.frameLength_frame (l.ahead data l.dataLen) l.dataLen
      have hmax' : (l.cut data n).framer.maxFrameLen = l.framer.maxFrameLen := hmax
      have hkeep' : (l.cut data n).framer.rest = l.framer.rest := hkeep
      rw [hmax', hkeep'] at ih
      obtain ⟨hcapped, hes⟩ := ih hrest
      refine ⟨hcapped, List.forall_mem_append.mpr ⟨?_, hes⟩⟩
      exact proper_put h.framer hcuts.hasHeader.1.le h.dataLen_lt hcuts.frameLen_eq hcuts.pos
        (length_chunkBytes _ _ _) _
    case save =>
      intro l ret buff acc h hheader hlt _
      have hw := h.decision data hheader.1.le
      have hmax := (l.framer.frameLength_frame (l.ahead data l.dataLen) l.dataLen).2.2.2.1
      refine ⟨Capped.congr hw ?_ rfl rfl rfl rfl, proper_of_frames (l.framer.lengthEffects_frames _ _)⟩
      have hle := SiDaqFramer.frameLen_le h.framer.ranged _ hheader.1.le h.dataLen_lt hlt
      have hmax' : (l.decision data).2.maxFrameLen = l.framer.maxFrameLen := hmax
      simp only [SiDaqFramer.saved, hmax']
      omega
  obtain ⟨o, ho, hP⟩ := hwalk
  exact ⟨o, ho, hP hrest⟩

/-- The carry-over phase hands a loop on, or is the end of the call. -/
theorem Capped.carryOver (hc : Capped fr) (hpos : 0 < fr.rest) (data : List α)
    (que : List (List α)) :
    ∃ l, carryOver fr data que = .next l ∧
      (l.readPtr = none ∨ Looping l ∧ l.dataLen.toNat ≤ fr.rest.toNat + data.length) ∧
      Capped l.framer ∧ l.framer.maxFrameLen = fr.maxFrameLen ∧
      ∀ e ∈ carryEffects fr data que, e.Proper fr.maxFrameLen := by
  have hfit := hc.fits
  have hheld := SiDaqFramer.held_le hc.toWellFormed hpos.le hfit data
  have hcap : (defaultMaxFrameLen : ℤ) < 2147483648 := by decide
  have hw := hc.toWellFormed.append data
  have hmax : (fr.carryDecision data).2.maxFrameLen = fr.maxFrameLen :=
    ((fr.append data).frameLength_frame (fr.held data) (fr.held data).length).2.2.2.1
  obtain ⟨l, hl, hwell, hat⟩ := hc.toWellFormed.carryOver hpos hfit data que
  refine ⟨l, hl, hat, ?_⟩
  cases carryTurn hc.toWellFormed hpos hfit data que with
  | frame n l' carryLen hn le body framer que_eq more effects =>
    obtain rfl := Flow.next.inj (hl.symm.trans body)
    have hrest : l.framer.rest = 0 := by rw [framer]; rfl
    refine ⟨⟨hwell, ?_⟩, by rw [framer]; exact hmax, ?_⟩
    · have hlt := hwell.header_lt
      have hnonneg := hwell.header_nonneg
      omega
    · rw [effects]
      exact proper_put hw (by omega) (by omega) carryLen hn (length_buffBytes _ _) _
  | save l' lt body framer que_eq null effects =>
    obtain rfl := Flow.next.inj (hl.symm.trans body)
    have hle := SiDaqFramer.frameLen_le hw.ranged (fr.held data) (by omega) (by omega) lt
    refine ⟨⟨hwell, ?_⟩, by rw [framer]; exact hmax, ?_⟩
    · rw [framer]
      show ((fr.held data).length : ℤ) < (fr.carryDecision data).2.maxFrameLen
      rw [hmax]
      exact lt.trans_le hle
    · rw [effects]
      exact proper_of_frames ((fr.append data).lengthEffects_frames _ _)

/-- **A call returns, keeps the framer, and queues proper frames.** -/
theorem recvSiDaqData_proper (hc : Capped fr) (hdata : data.length < 2147483648)
    (que : List (List α)) :
    ∃ o, recvSiDaqData fr data que = some o ∧ Capped o.framer ∧
      ∀ e ∈ recvEffects fr data que, e.Proper fr.maxFrameLen := by
  by_cases hpos : 0 < fr.rest
  · obtain ⟨l, hl, hat, hcapped, hmax, hes⟩ := hc.carryOver hpos data que
    simp only [recvSiDaqData, recvEffects, if_pos hpos, hl]
    rcases hat with hnull | ⟨hloop, hlen⟩
    · rw [recvLoop_of_done (loopBody_null hnull), loopEffects_of_null hnull, List.append_nil]
      exact ⟨_, rfl, hcapped, hes⟩
    · obtain ⟨o, ho, hcapped', hes'⟩ := recvLoop_proper data hloop hcapped.rest_lt
        (show _ ≤ fr.rest.toNat + data.length + 2 by omega)
      exact ⟨o, ho, hcapped', List.forall_mem_append.mpr ⟨hes, hmax ▸ hes'⟩⟩
  · have hloop := Looping.start hc.toWellFormed hdata que
    simp only [recvSiDaqData, recvEffects, if_neg hpos]
    exact recvLoop_proper data hloop hc.rest_lt (by simp only [Locals.start]; omega)

/-- The local variables at the head of the loop, in a call. -/
inductive InCall (fr : SiDaqFramer α) (data : List α) (que : List (List α)) : Locals α → Prop
  | start (h : ¬ fr.rest > 0) : InCall fr data que (.start fr data que)
  | carried {l : Locals α} (h : fr.rest > 0) (hl : carryOver fr data que = .next l) :
      InCall fr data que l
  | again {l l' : Locals α} (h : InCall fr data que l) (hl : loopBody data l = .next l') :
      InCall fr data que l'

/-- A loop that is not at its end. -/
theorem InCall.looping (hc : Capped fr) (hdata : data.length < 2147483648) {l : Locals α}
    (h : InCall fr data que l) : l.readPtr = none ∨ Looping l := by
  induction h with
  | start hzero => exact Or.inr (.start hc.toWellFormed hdata que)
  | carried hpos hl =>
    obtain ⟨l', hl', hat, -⟩ := hc.carryOver hpos data que
    obtain rfl := Flow.next.inj (hl.symm.trans hl')
    exact hat.imp_right And.left
  | again hin hl ih =>
    rcases ih with hnull | hloop
    · rw [loopBody_null hnull] at hl
      cases hl
    · cases hloop.turn data with
      | stop ret buff acc short body => rw [body] at hl; cases hl
      | full n acc cuts limit body => rw [body] at hl; cases hl
      | frame n cuts free body =>
        rw [body] at hl
        cases hl
        exact Or.inr (hloop.cut cuts)
      | save buff acc hasHeader lt body =>
        rw [body] at hl
        cases hl
        exact Or.inl rfl

/-- An iteration that queues a frame leaves fewer bytes. -/
theorem loop_decreases {l l' : Locals α} (h : Looping l) (hnext : loopBody data l = .next l')
    (hque : l'.que ≠ l.que) : 0 ≤ l'.dataLen ∧ l'.dataLen < l.dataLen := by
  cases h.turn data with
  | stop ret buff acc short body => rw [body] at hnext; cases hnext
  | full n acc cuts limit body => rw [body] at hnext; cases hnext
  | frame n cuts free body =>
    rw [body] at hnext
    cases hnext
    have hpos := cuts.pos
    have hle := cuts.le
    simp only [Locals.cut]
    omega
  | save buff acc hasHeader lt body =>
    rw [body] at hnext
    cases hnext
    exact absurd rfl hque

variable {p : FramingParams α}

omit [Inhabited α] in
theorem Capped.configure (hp : p.Sized) (hrest : fr.rest = 0)
    (hsize : fr.buffSize = defaultMaxFrameLen) : Capped (fr.configure p) where
  toWellFormed := .configure hp hsize
  rest_lt := by
    have hlt := hp.accepted
    show fr.rest < (p.maxFrameLen.toNat : ℤ)
    omega

/-- A framer in use carries less than a longest frame. -/
theorem FramingParams.Reached.capped (hp : p.Sized) (h : p.Reached fr) :
    Capped fr ∧ fr.maxFrameLen = p.maxFrameLen.toNat := by
  induction h with
  | configure hrest hsize => exact ⟨.configure hp hrest hsize, rfl⟩
  | recv _ c que ho ih =>
    obtain ⟨o, ho', hcapped, -⟩ := recvSiDaqData_proper ih.1 c.fits que
    obtain rfl := Option.some.inj (ho.symm.trans ho')
    exact ⟨hcapped, (recvSiDaqData_setup ho).maxFrameLen.trans ih.2⟩

/-- **Progress.** For every length function, every state of a framer in use and every chunk, a call
returns, every iteration that queues a frame and goes on leaves fewer bytes, and every frame queued
is proper. -/
theorem framing_progress (hp : p.Sized) (h : p.Reached fr) (c : Chunk α) (que : List (List α)) :
    (∃ o, recvSiDaqData fr c.bytes que = some o ∧
      o.que = que ++ frames (recvEffects fr c.bytes que)) ∧
    (∀ l l', InCall fr c.bytes que l → loopBody c.bytes l = .next l' → l'.que ≠ l.que →
      0 ≤ l'.dataLen ∧ l'.dataLen < l.dataLen) ∧
    ∀ e ∈ recvEffects fr c.bytes que, e.Proper p.maxFrameLen.toNat := by
  obtain ⟨hc, hmax⟩ := h.capped hp
  obtain ⟨o, ho, -, hproper⟩ := recvSiDaqData_proper hc c.fits que
  refine ⟨⟨o, ho, (recvSiDaqData_explains ho).que_eq⟩, fun l l' hin hnext hque => ?_, hmax ▸ hproper⟩
  rcases hin.looping hc c.fits with hnull | hloop
  · rw [loopBody_null hnull] at hnext
    cases hnext
  · exact loop_decreases hloop hnext hque

end Calls

/-- A length function whose answers go up and down, to the ends of their range. -/
def wildHeader : FramingParams UInt8 :=
  ⟨some fun d _ _ => if d % 2 = 0 then 2147483647 else 0, 1, 0, 3, 262144⟩

theorem wildHeader_progress :
    (∃ o, recvSiDaqData (newSiDaqFramer.configure wildHeader) [1, 2] [] = some o ∧
      o.que = [] ++ frames (recvEffects (newSiDaqFramer.configure wildHeader) [1, 2] [])) ∧
    (∀ l l', InCall (newSiDaqFramer.configure wildHeader) [1, 2] [] l →
      loopBody [1, 2] l = .next l' → l'.que ≠ l.que → 0 ≤ l'.dataLen ∧ l'.dataLen < l.dataLen) ∧
    ∀ e ∈ recvEffects (newSiDaqFramer.configure wildHeader) [1, 2] [], e.Proper 262144 :=
  framing_progress (p := wildHeader) ⟨by decide, by decide⟩ (.configure rfl rfl) (.of [1, 2]) []

end SiDaqApi
