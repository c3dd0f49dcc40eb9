import SiDaqApi.Framer.Raw
import SiDaqApi.Framer.Progress
import SiDaqApi.Framer.Bounds

/-!
# The framer after a framing error

Both fallbacks of a length decision take all that is there as one frame and drop the length rule, so
that nothing is left to carry (`recvSiDaqData_fallback`); from then on a call passes its chunk on.
One exit is in the way: at the queue limit the loop returns with `_rest` as it was, and after an
overflow of `data_len` in the carry-over phase that is a negative number. `passesThrough_iff` says
for which chunks and limits this cannot happen.
-/

namespace SiDaqApi

open MachineInt

variable {α : Type*}

/-- One of the two framing errors is recorded. -/
def RecordsFraming (es : List (Effect α)) : Prop := ∃ code ∈ errors es, code.IsFraming

@[simp] theorem recordsFraming_nil : ¬ RecordsFraming ([] : List (Effect α)) := by
  simp [RecordsFraming, errors]

@[simp] theorem recordsFraming_append (es es' : List (Effect α)) :
    RecordsFraming (es ++ es') ↔ RecordsFraming es ∨ RecordsFraming es' := by
  simp only [RecordsFraming, errors_append, List.mem_append]
  constructor
  · rintro ⟨code, hmem | hmem, hframing⟩
    · exact Or.inl ⟨code, hmem, hframing⟩
    · exact Or.inr ⟨code, hmem, hframing⟩
  · rintro (⟨code, hmem, hframing⟩ | ⟨code, hmem, hframing⟩)
    · exact ⟨code, Or.inl hmem, hframing⟩
    · exact ⟨code, Or.inr hmem, hframing⟩

/-- No length rule is left, and an error is recorded. -/
structure Broken (fr : SiDaqFramer α) : Prop extends IsNull fr where
  code : fr.errorCode ≠ .noError

theorem Broken.congr {fr fr' : SiDaqFramer α} (h : Broken fr) (hfunc : fr'.lengthFunc = fr.lengthFunc)
    (hheader : fr'.headerLen = fr.headerLen) (hfixed : fr'.fixedFrameLen = fr.fixedFrameLen)
    (hcode : fr'.errorCode ≠ .noError) : Broken fr' :=
  ⟨⟨hfunc.trans h.lengthFunc, hheader.trans h.headerLen, hfixed.trans h.fixedFrameLen⟩, hcode⟩

theorem FramerErrorCode.IsFraming.ne_noError {code : FramerErrorCode} (h : code.IsFraming) :
    code ≠ .noError := by
  rintro rfl
  rcases h with h | h <;> cases h

/-- No limit, or one that a number of frames in the queue does not get to. -/
def SiDaqFramer.Unlimited (fr : SiDaqFramer α) : Prop :=
  fr.queueLimit = 0 ∨ 2147483648 ≤ fr.queueLimit

theorem SiDaqFramer.Unlimited.not_atQueueLimit {fr : SiDaqFramer α} (h : fr.Unlimited) {count : ℕ}
    (hcount : count < 2147483648) : ¬ fr.atQueueLimit count := by
  have hint : uint32 (count : ℤ) = count := uint32_of_range (by omega) (by omega)
  rintro ⟨hne, hle⟩
  rw [hint] at hle
  rcases h with h | h <;> omega

/-! ## The length decision -/

/-- A usable length has no effect. -/
theorem SiDaqFramer.lengthEffects_of_ok {fr : SiDaqFramer α} (hw : Ranged fr) {bytes : List α}
    {avail : ℤ} (hok : fr.LengthOk bytes avail) : fr.lengthEffects bytes avail = [] := by
  obtain ⟨hlen, hmax⟩ := hok
  have hcap := hw.max_lt
  have hnonneg := hw.header_nonneg
  have huint : uint32 (fr.eventLen bytes avail + fr.headerLen) =
      fr.eventLen bytes avail + fr.headerLen := uint32_of_range (by omega) (by omega)
  simp only [SiDaqFramer.lengthEffects, if_neg (not_lt.mpr hlen), SiDaqFramer.decided, huint,
    if_neg (not_lt.mpr hmax), List.append_nil]

/-- Any other length is recorded. -/
theorem SiDaqFramer.recordsFraming_of_not_ok {fr : SiDaqFramer α} (hw : Ranged fr)
    {bytes : List α} {avail : ℤ} (h₀ : 0 ≤ avail) (h₁ : avail < 2147483648)
    (hbad : ¬ fr.LengthOk bytes avail) : RecordsFraming (fr.lengthEffects bytes avail) := by
  have hmax := hw.max_lt
  have hnonneg := hw.header_nonneg
  have hheader := hw.header_lt
  have hrange := fr.eventLen_range bytes h₀ h₁
  by_cases hneg : fr.eventLen bytes avail < 0
  · refine ⟨.getFrameLengthFailed, ?_, Or.inl rfl⟩
    simp [SiDaqFramer.lengthEffects, if_pos hneg, errors]
  · have hlong : (fr.maxFrameLen : ℤ) < fr.eventLen bytes avail + fr.headerLen := by
      by_contra hle
      exact hbad ⟨by omega, by omega⟩
    have huint : uint32 (fr.eventLen bytes avail + fr.headerLen) =
        fr.eventLen bytes avail + fr.headerLen := uint32_of_range (by omega) (by omega)
    refine ⟨.exceedMaxFrameLength, ?_, Or.inr rfl⟩
    simp [SiDaqFramer.lengthEffects, if_neg hneg, SiDaqFramer.decided, huint, hlong, errors]

/-- **A decision that falls back, or is made without a length rule**, takes all that is there. -/
theorem SiDaqFramer.frameLength_broken {fr : SiDaqFramer α} (hw : WellFormed fr) {bytes : List α}
    {avail : ℤ} (h₀ : 0 ≤ avail) (h₁ : avail < 2147483648)
    (h : RecordsFraming (fr.lengthEffects bytes avail) ∨ Broken fr) :
    Broken (fr.frameLength bytes avail).2 ∧ fr.frameLen bytes avail = avail := by
  by_cases hok : fr.LengthOk bytes avail
  · rw [SiDaqFramer.lengthEffects_of_ok hw.ranged hok] at h
    have hbroken := h.resolve_left recordsFraming_nil
    rw [SiDaqFramer.frameLength_of_ok hw.ranged hok]
    exact ⟨hbroken.congr rfl rfl rfl hbroken.code, hbroken.frameLen hw bytes avail h₀ h₁⟩
  · obtain ⟨code, hcode, hr⟩ := SiDaqFramer.frameLength_of_not_ok hw.ranged h₀ h₁ hok
    rw [hr]
    exact ⟨⟨.putNull _ _, hcode.ne_noError⟩, SiDaqFramer.frameLen_of_not_ok hw.ranged h₀ h₁ hok⟩

/-- The tests behind an `SQPut` record other errors. -/
theorem SiDaqFramer.putEffects_not_framing (fr : SiDaqFramer α) (eventLen : ℤ) (frame : List α)
    (count : ℤ) : ¬ RecordsFraming (fr.putEffects eventLen frame count) := by
  simp only [SiDaqFramer.putEffects]
  split
  · simp [RecordsFraming, errors, FramerErrorCode.IsFraming]
  · split <;> simp [RecordsFraming, errors, FramerErrorCode.IsFraming]

/-! ## A call that falls back -/

section Call

variable [Inhabited α] {fr : SiDaqFramer α} {data : List α} {que : List (List α)}

/-- The decision of an iteration that takes a frame. -/
theorem Locals.Cuts.broken {l : Locals α} {n : ℤ} (hcuts : l.Cuts data n) (h : Looping l)
    (hbroken : RecordsFraming (l.cutEffects data n) ∨ Broken l.framer) :
    Broken (l.decision data).2 ∧ n = l.dataLen := by
  have hrecords : RecordsFraming (l.lengthEffects data) ∨ Broken l.framer := by
    rcases hbroken with hrec | hbroken
    · rw [Locals.cutEffects, recordsFraming_append] at hrec
      exact Or.inl (hrec.resolve_right (SiDaqFramer.putEffects_not_framing _ _ _ _))
    · exact Or.inr hbroken
  obtain ⟨hdec, hlen⟩ := SiDaqFramer.frameLength_broken h.framer hcuts.hasHeader.1.le h.dataLen_lt
    hrecords
  exact ⟨hdec, hcuts.frameLen_eq.symm.trans hlen⟩

/-- **The loop after a framing error**, made in it or before: no length rule and nothing carried,
unless the queue limit keeps `_rest` as it was. -/
theorem recvLoop_fallback (data : List α) {l : Locals α} (h : Looping l) {fuel : ℕ}
    (hfuel : l.dataLen.toNat + 2 ≤ fuel) :
    ∃ o, recvLoop data fuel l = some o ∧ (l.framer.rest = 0 ∨ l.framer.Unlimited →
      o.que.length < 2147483648 →
      RecordsFraming (loopEffects data fuel l) ∨ Broken l.framer ∧ 0 ≤ l.dataLen →
      Broken o.framer ∧ o.framer.rest = 0) := by
  apply recvLoop_walk (P := fun l es o => l.framer.rest = 0 ∨ l.framer.Unlimited →
    o.que.length < 2147483648 → RecordsFraming es ∨ Broken l.framer ∧ 0 ≤ l.dataLen →
      Broken o.framer ∧ o.framer.rest = 0) ?stop ?full ?frame ?save h hfuel
  case stop =>
    intro l ret buff acc h hshort _ _ hbroken
    obtain ⟨hbroken, hnonneg⟩ := hbroken.resolve_left recordsFraming_nil
    have hheader := hbroken.headerLen
    refine ⟨hbroken.congr rfl rfl rfl hbroken.code, ?_⟩
    show l.dataLen = 0
    omega
  case full =>
    intro l n acc h hcuts hlimit hrest hque hbroken
    obtain ⟨hdec, -⟩ := hcuts.broken h (hbroken.imp_right And.left)
    obtain ⟨hkeep, -, -, -, hsame, -⟩ :=
      l.framer.frameLength_frame (l.ahead data l.dataLen) l.dataLen
    refine ⟨hdec.congr rfl rfl rfl (by simp), ?_⟩
    rcases hrest with hzero | hno
    · exact hkeep.trans hzero
    · -- the queue does not get to a limit that large
      have hno' : (l.decision data).2.Unlimited := by
        unfold SiDaqFramer.Unlimited at hno ⊢
        rwa [show (l.decision data).2.queueLimit = _ from hsame]
      rw [List.length_append, List.length_singleton] at hque
      exact absurd hlimit (hno'.not_atQueueLimit hque)
  case frame =>
    intro l n es o h hcuts _ ih hrest hque hbroken
    obtain ⟨hkeep, -, -, -, hsame, -⟩ :=
      l.framer.frameLength_frame (l.ahead data l.dataLen) l.dataLen
    have hrest' : (l.cut data n).framer.rest = 0 ∨ (l.cut data n).framer.Unlimited := by
      unfold SiDaqFramer.Unlimited at hrest ⊢
      rwa [show (l.cut data n).framer.rest = _ from hkeep,
        show (l.cut data n).framer.queueLimit = _ from hsame]
    rw [recordsFraming_append, or_right_comm] at hbroken
    apply ih hrest' hque
    rcases hbroken with hhere | hlater
    · -- the frame is the rest of the chunk
      obtain ⟨hdec, hall⟩ := hcuts.broken h (hhere.imp_right And.left)
      refine Or.inr ⟨hdec, ?_⟩
      show 0 ≤ l.dataLen - n
      omega
    · exact Or.inl hlater
  case save =>
    intro l ret buff acc h hheader hlt _ _ hbroken
    -- a fallback leaves no incomplete frame
    obtain ⟨-, hlen⟩ := SiDaqFramer.frameLength_broken h.framer hheader.1.le h.dataLen_lt
      (hbroken.imp_right And.left)
    omega

/-- **The carry-over phase after a framing error** of its own: it takes all that is held, and hands
the bytes behind the copied ones to the loop. -/
theorem carryOver_fallback (hc : Capped fr) (hdata : data.length < 2147483648) (hpos : 0 < fr.rest)
    {l : Locals α} (hl : carryOver fr data que = .next l) :
    (l.readPtr ≠ none → l.framer.rest = 0) ∧ (RecordsFraming (carryEffects fr data que) →
      Broken l.framer ∧ l.framer.rest = 0 ∧ (l.readPtr ≠ none → 0 ≤ l.dataLen)) := by
  have hfit := hc.fits
  have hheld := SiDaqFramer.held_le hc.toWellFormed hpos.le hfit data
  have hlen := SiDaqFramer.length_held data hpos.le
  have hcopied := fr.length_copied_le data
  have hcap : (defaultMaxFrameLen : ℤ) < 2147483648 := by decide
  have hdecide : RecordsFraming (fr.carryLengthEffects data) →
      Broken (fr.carryDecision data).2 ∧ fr.carryLen data = (fr.held data).length :=
    fun hrec => SiDaqFramer.frameLength_broken (hc.toWellFormed.append data) (by omega) (by omega)
      (Or.inl hrec)
  cases carryTurn hc.toWellFormed hpos hfit data que with
  | frame n l' carryLen hn le body framer que_eq more effects =>
    obtain rfl := Flow.next.inj (hl.symm.trans body)
    have hzero : l.framer.rest = 0 := by rw [framer]; rfl
    refine ⟨fun _ => hzero, fun hrec => ?_⟩
    rw [effects, recordsFraming_append] at hrec
    obtain ⟨hdec, hall⟩ :=
      hdecide (hrec.resolve_right (SiDaqFramer.putEffects_not_framing _ _ _ _))
    refine ⟨?_, hzero, fun hne => ?_⟩
    · rw [framer]
      refine hdec.congr rfl rfl rfl ?_
      simp only [SiDaqFramer.carryDone]
      split
      · simp
      · exact hdec.code
    · rw [(more.resolve_left hne).2, wrap32_of_range (by omega) (by omega)]
      omega
  | save l' lt body framer que_eq null effects =>
    obtain rfl := Flow.next.inj (hl.symm.trans body)
    refine ⟨fun hne => absurd null hne, fun hrec => ?_⟩
    rw [effects] at hrec
    obtain ⟨-, hall⟩ := hdecide hrec
    omega

/-- **A call that records a framing error** ends without a length rule and with nothing carried. -/
theorem recvSiDaqData_fallback (hc : Capped fr) (hdata : data.length < 2147483648)
    (hrest : 0 ≤ fr.rest ∨ fr.Unlimited) {o : Outcome α} (ho : recvSiDaqData fr data que = some o)
    (hque : o.que.length < 2147483648) (hrec : RecordsFraming (recvEffects fr data que)) :
    Broken o.framer ∧ o.framer.rest = 0 := by
  by_cases hpos : 0 < fr.rest
  · obtain ⟨l, hl, hat, -⟩ := hc.carryOver hpos data que
    obtain ⟨hzero, hcarry⟩ := carryOver_fallback hc hdata hpos hl
    simp only [recvSiDaqData, recvEffects, if_pos hpos, hl] at ho hrec
    rcases hat with hnull | ⟨hloop, hlen⟩
    · rw [recvLoop_of_done (loopBody_null hnull)] at ho
      rw [loopEffects_of_null hnull, List.append_nil] at hrec
      obtain rfl := Option.some.inj ho
      obtain ⟨hbroken, hrest', -⟩ := hcarry hrec
      exact ⟨hbroken, hrest'⟩
    · obtain ⟨o', ho', hafter⟩ := recvLoop_fallback data hloop
        (show _ ≤ fr.rest.toNat + data.length + 2 by omega)
      obtain rfl := Option.some.inj (ho'.symm.trans ho)
      apply hafter (Or.inl (hzero hloop.readPtr)) hque
      rw [recordsFraming_append] at hrec
      rcases hrec with hearly | hlater
      · obtain ⟨hbroken, -, hnonneg⟩ := hcarry hearly
        exact Or.inr ⟨hbroken, hnonneg hloop.readPtr⟩
      · exact Or.inl hlater
  · have hloop := Looping.start hc.toWellFormed hdata que
    simp only [recvSiDaqData, recvEffects, if_neg hpos] at ho hrec
    obtain ⟨o', ho', hafter⟩ := recvLoop_fallback data hloop
      (show _ ≤ fr.rest.toNat + data.length + 2 by simp only [Locals.start]; omega)
    obtain rfl := Option.some.inj (ho'.symm.trans ho)
    refine hafter ?_ hque (Or.inl hrec)
    rcases hrest with hnonneg | hno
    · exact Or.inl (le_antisymm (not_lt.mp hpos) hnonneg)
    · exact Or.inr hno

end Call

/-! ## The chunks that follow -/

/-- What happens to the framer and the event queue in a run. -/
inductive StreamEvent (α : Type*)
  /-- `framer_thread` hands a chunk to `RecvSiDaqData`. -/
  | recv (c : Chunk α)
  /-- `SiDaqGetData` takes a frame. -/
  | get

section Run

variable [Inhabited α]

/-- **A framing error turns the framer into a pass-through**, along a run; `failed` says that a call
has recorded one. It is asked as long as the number of queued frames is an `int`, which is what
`SQPut` returns. -/
def PassesThrough : Prop → SiDaqFramer α → List (List α) → List (StreamEvent α) → Prop
  | _, _, _, [] => True
  | failed, fr, que, .get :: es => PassesThrough failed fr que.tail es
  | failed, fr, que, .recv c :: es => ∃ o, recvSiDaqData fr c.bytes que = some o ∧
      (o.que.length < 2147483648 →
        (failed → o.que = que ++ [c.bytes] ∧ o.framer.errorCode ≠ .noError) ∧
        (failed ∨ RecordsFraming (recvEffects fr c.bytes que) →
          IsNull o.framer ∧ o.framer.rest = 0) ∧
        PassesThrough (failed ∨ RecordsFraming (recvEffects fr c.bytes que)) o.framer o.que es)

/-- A call after a framing error. -/
theorem Broken.recv {fr : SiDaqFramer α} (hb : Broken fr) (hw : WellFormed fr) (hrest : fr.rest = 0)
    (c : Chunk α) (que : List (List α)) {o : Outcome α}
    (ho : recvSiDaqData fr c.bytes que = some o) :
    o.que = que ++ [c.bytes] ∧ Broken o.framer ∧ o.framer.rest = 0 := by
  obtain ⟨o', ho', hpass⟩ := recvSiDaqData_null hb.toIsNull hw hrest c.nonempty c.fits que
  obtain rfl := Option.some.inj (ho.symm.trans ho')
  refine ⟨hpass.que_eq, ⟨hpass.toIsNull, ?_⟩, hpass.rest⟩
  rw [hpass.code]
  split
  · simp
  · split
    · simp
    · exact hb.code

/-- What keeps `_rest` from being negative at the queue limit: there is no limit, or a chunk
together with the carried bytes has a length that is an `int`. -/
def Safe (R : ℕ) (fr : SiDaqFramer α) : Prop :=
  fr.Unlimited ∨ Bounded (fr.maxFrameLen - 1) fr ∧ R + fr.maxFrameLen ≤ 2147483649

omit [Inhabited α] in
theorem Safe.rest {R : ℕ} {fr : SiDaqFramer α} (h : Safe R fr) : 0 ≤ fr.rest ∨ fr.Unlimited := by
  rcases h with hno | ⟨hb, -⟩
  · exact Or.inr hno
  · exact Or.inl hb.rest_nonneg

theorem Safe.recv {R : ℕ} {fr : SiDaqFramer α} (h : Safe R fr) (c : Chunk α)
    (hlen : c.bytes.length ≤ R) (que : List (List α)) {o : Outcome α}
    (ho : recvSiDaqData fr c.bytes que = some o) : Safe R o.framer := by
  have hsetup := recvSiDaqData_setup ho
  rcases h with hno | ⟨hb, hsum⟩
  · left
    unfold SiDaqFramer.Unlimited at hno ⊢
    rwa [hsetup.queueLimit]
  · right
    have hpos := List.length_pos_iff.mpr c.nonempty
    have hroom : Room (fr.maxFrameLen - 1) fr.maxFrameLen c.bytes.length :=
      ⟨hpos, c.fits, by omega, Or.inl (by omega)⟩
    obtain ⟨o', ho', hb', -⟩ := recvSiDaqData_bounded hb hroom que
    obtain rfl := Option.some.inj (ho.symm.trans ho')
    rw [hsetup.maxFrameLen]
    exact ⟨hb', hsum⟩

/-- A safe framer passes everything through, once it has failed. -/
theorem Safe.passesThrough {R : ℕ} {failed : Prop} {fr : SiDaqFramer α} {que : List (List α)}
    {events : List (StreamEvent α)} (hc : Capped fr) (hsafe : Safe R fr)
    (hfailed : failed → Broken fr ∧ fr.rest = 0)
    (hlen : ∀ c, .recv c ∈ events → c.bytes.length ≤ R) : PassesThrough failed fr que events := by
  induction events generalizing failed fr que with
  | nil => trivial
  | cons e es ih =>
    have htail : ∀ c, .recv c ∈ es → c.bytes.length ≤ R :=
      fun c hmem => hlen c (List.mem_cons_of_mem e hmem)
    cases e with
    | get => exact ih hc hsafe hfailed htail
    | recv c =>
      have hchunk := hlen c List.mem_cons_self
      obtain ⟨o, ho, hc', -⟩ := recvSiDaqData_proper hc c.fits que
      refine ⟨o, ho, fun hque => ?_⟩
      have hnull : failed ∨ RecordsFraming (recvEffects fr c.bytes que) →
          Broken o.framer ∧ o.framer.rest = 0 := by
        rintro (hbefore | hnow)
        · obtain ⟨hb, hrest⟩ := hfailed hbefore
          exact (hb.recv hc.toWellFormed hrest c que ho).2
        · exact recvSiDaqData_fallback hc c.fits hsafe.rest ho hque hnow
      refine ⟨fun hbefore => ?_, fun h => ?_, ?_⟩
      · obtain ⟨hb, hrest⟩ := hfailed hbefore
        obtain ⟨happend, hb', -⟩ := hb.recv hc.toWellFormed hrest c que ho
        exact ⟨happend, hb'.code⟩
      · exact ⟨(hnull h).1.toIsNull, (hnull h).2⟩
      · exact ih hc' (hsafe.recv c hchunk que ho) hnull htail

end Run

/-! ## An overflow, and then the queue limit -/

section Negative

variable [Inhabited α] {fr : SiDaqFramer α} {data : List α}

/-- A negative `data_len` ends the loop at once. -/
theorem recvLoop_negative (data : List α) {l : Locals α} (h : Looping l) (hneg : l.dataLen < 0) (fuel : ℕ) :
    ∃ o buff, recvLoop data (fuel + 1) l = some o ∧ o.que = l.que ∧
      o.framer = l.framer.saved l.dataLen buff := by
  cases h.turn data with
  | stop ret buff acc short body effects =>
    exact ⟨_, buff, recvLoop_of_done body fuel, rfl, rfl⟩
  | full n acc cuts limit body effects => exact absurd cuts.hasHeader.1 (by omega)
  | frame n cuts free body effects => exact absurd cuts.hasHeader.1 (by omega)
  | save buff acc hasHeader lt body effects => exact absurd hasHeader.1 (by omega)

/-- At the queue limit the fallback returns from the loop, and `_rest` stays. -/
theorem recvSiDaqData_refused (hc : Capped fr) (hrest : fr.rest ≤ 0) (hne : data ≠ [])
    (hdata : data.length < 2147483648) (hheader : fr.headerLen ≤ data.length)
    (hbad : ∀ bytes, fr.eventLen bytes data.length < 0) {que : List (List α)}
    (hlimit : fr.atQueueLimit (que.length + 1 : ℕ)) :
    ∃ o, recvSiDaqData fr data que = some o ∧ o.framer.rest = fr.rest ∧
      o.que.length = que.length + 1 ∧ RecordsFraming (recvEffects fr data que) := by
  have hpos := List.length_pos_iff.mpr hne
  have hloop := Looping.start hc.toWellFormed hdata que
  have hnot : ∀ bytes, ¬ fr.LengthOk bytes data.length :=
    fun bytes hok => absurd hok.1 (not_le.mpr (hbad bytes))
  have hrec : RecordsFraming ((Locals.start fr data que).lengthEffects data) :=
    SiDaqFramer.recordsFraming_of_not_ok hc.ranged (by simp [Locals.start])
      (by show (data.length : ℤ) < 2147483648; omega) (hnot _)
  obtain ⟨hkeep, -, -, -, hsame, -⟩ := fr.frameLength_frame
    ((Locals.start fr data que).ahead data data.length) data.length
  have hfull : ((Locals.start fr data que).decision data).2.atQueueLimit (que.length + 1 : ℕ) := by
    unfold SiDaqFramer.atQueueLimit at hlimit ⊢
    rwa [show ((Locals.start fr data que).decision data).2.queueLimit = _ from hsame]
  simp only [recvSiDaqData, recvEffects, if_neg (not_lt.mpr hrest)]
  cases hloop.turn data with
  | stop ret buff acc short body effects =>
    simp only [Locals.start] at short
    omega
  | full n acc cuts limit body effects =>
    refine ⟨_, recvLoop_of_done body _, hkeep, by simp [Locals.start], ?_⟩
    rw [loopEffects_of_done body, effects, Locals.cutEffects, recordsFraming_append]
    exact Or.inl hrec
  | frame n cuts free body effects => exact absurd hfull free
  | save buff acc hasHeader lt body effects =>
    exact absurd (SiDaqFramer.lengthOk_of_lt hc.ranged hasHeader.1.le hloop.dataLen_lt lt) (hnot _)

end Negative

section Overflow

variable {answers : ℕ → Int32} {L M : UInt32} {fr : SiDaqFramer UInt8} {data : List UInt8}

/-- A frame of one byte off the buffer, and so much data that `data_len` overflows. -/
theorem Scripted.overflow (h : Scripted answers M fr) (hc : Capped fr)
    (hanswer : (answers fr.decisions).toInt = (0 : ℕ)) (hpos : 0 < fr.rest) (hne : data ≠ [])
    (hneg : wrap32 (data.length - (1 - fr.rest)) < 0) (que : List (List UInt8)) :
    ∃ o, recvSiDaqData fr data que = some o ∧ Scripted answers M o.framer ∧
      o.framer.decisions = fr.decisions + 1 ∧ o.framer.rest < 0 ∧
      o.que.length = que.length + 1 := by
  have hfit := hc.fits
  have hM : 1 ≤ M.toNat := by
    have hlt := hc.header_lt
    rw [h.headerLen, h.maxFrameLen] at hlt
    omega
  obtain ⟨l, hl, hp, hlen, hl', hdec⟩ := h.shift hanswer hM hpos (by rw [← h.size]; exact hfit) hne que
  obtain ⟨hwell, hque⟩ : WellFormed l.framer ∧ l.que.length = que.length + 1 := by
    cases carryTurn hc.toWellFormed hpos hfit data que with
    | frame n l' carryLen hn le body framer que_eq more effects =>
      obtain rfl := Flow.next.inj (hl.symm.trans body)
      refine ⟨?_, by rw [que_eq, List.length_append, List.length_singleton]⟩
      rw [framer]
      exact (hc.toWellFormed.carryDecision hpos.le hfit data).congr rfl rfl rfl rfl
    | save l' lt body framer que_eq null effects =>
      obtain rfl := Flow.next.inj (hl.symm.trans body)
      rw [null] at hp
      cases hp
  have hloop : Looping l := ⟨by rw [hp]; simp, by rw [hlen]; exact wrap32_lt _, hwell⟩
  obtain ⟨o, buff, ho, hque', hframer⟩ := recvLoop_negative data hloop
    (by rw [hlen]; exact hneg) (fr.rest.toNat + data.length + 1)
  refine ⟨o, ?_, ?_, ?_, ?_, by rw [hque', hque]⟩
  · simp only [recvSiDaqData, if_pos hpos, hl]
    exact ho
  · rw [hframer]
    exact ⟨hl'.lengthFunc, hl'.headerLen, hl'.maxFrameLen, hl'.size⟩
  · rw [hframer]
    exact hdec
  · rw [hframer]
    show l.dataLen < 0
    rw [hlen]
    exact hneg

/-- A frame of `M` bytes, one of one byte, and then no length any more. -/
def thenRefused (M : UInt32) (d : ℕ) : Int32 :=
  if d = 0 then Int32.ofNat (M.toNat - 1) else if d = 1 then 0 else -1

/-- These answers, with a queue limit. -/
def overflowing (L M : UInt32) : FramingParams UInt8 :=
  { scripted (thenRefused M) M with frameQueueLimit := L }

theorem Scripted.overflowing (L M : UInt32) :
    Scripted (thenRefused M) M (newSiDaqFramer.configure (overflowing L M)) :=
  ⟨rfl, show wrap32 1 = 1 by decide, rfl, rfl⟩

/-- All but one byte of a frame are carried; a chunk makes `data_len` overflow, so that `_rest` is
negative; and the next length fails with the queue at its limit. -/
theorem not_passesThrough_of_overflow (hM : M.toNat ≤ 262144) (hpos : 0 < L.toNat)
    (hlimit : L.toNat < 2147483648) {n : ℕ} (hn : n < 2147483648)
    (hsum : 2147483649 < n + M.toNat) :
    ¬ PassesThrough False (newSiDaqFramer.configure (overflowing L M))
      (List.replicate (L.toNat - 2) [0])
      [.recv (.zeros (M.toNat - 1) (by omega) (by omega)), .recv (.zeros n (by omega) hn),
        .recv (.of [0])] := by
  let c₁ : Chunk UInt8 := .zeros (M.toNat - 1) (by omega) (by omega)
  let c₂ : Chunk UInt8 := .zeros n (by omega) hn
  have hc₁ : c₁.bytes.length = M.toNat - 1 := Chunk.length_zeros _ _
  have hc₂ : c₂.bytes.length = n := Chunk.length_zeros _ _
  have hsized : (overflowing L M).Sized := by
    refine ⟨?_, hM⟩
    show 1 < M.toNat
    omega
  have hcapped : Capped (newSiDaqFramer.configure (overflowing L M)) := .configure hsized rfl rfl
  have hfirst : (thenRefused M 0).toInt = (M.toNat - 1 : ℕ) := by
    simp only [thenRefused, if_true]
    exact Int32.toInt_ofNat_of_lt (by omega)
  -- the first call saves its chunk
  obtain ⟨o₁, ho₁, hw⟩ := (Scripted.overflowing L M).save hfirst (by omega) (by omega) rfl
    c₁.nonempty hc₁.le (List.replicate (L.toNat - 2) [0])
  obtain ⟨o₁', ho₁', hcapped₁, -⟩ := recvSiDaqData_proper hcapped c₁.fits
    (List.replicate (L.toNat - 2) [0])
  obtain rfl := Option.some.inj (ho₁.symm.trans ho₁')
  have hdec₁ : o₁.framer.decisions = 1 := hw.decisions
  have hrest₁ : o₁.framer.rest = (M.toNat - 1 : ℕ) := by rw [hw.rest, hc₁]
  have hsecond : (thenRefused M o₁.framer.decisions).toInt = (0 : ℕ) := by
    rw [hdec₁]
    rfl
  -- the second one: `n + (M - 1) - 1` is no `int`
  obtain ⟨o₂, ho₂, hw₂, hdec₂, hrest₂, hque₂⟩ := hw.scripted.overflow hcapped₁ hsecond (by omega)
    c₂.nonempty (by rw [hc₂, hrest₁]; unfold wrap32; omega) o₁.que
  obtain ⟨o₂', ho₂', hcapped₂, -⟩ := recvSiDaqData_proper hcapped₁ c₂.fits o₁.que
  obtain rfl := Option.some.inj (ho₂.symm.trans ho₂')
  have hlen₁ : o₁.que.length = L.toNat - 2 := by rw [hw.que, List.length_replicate]
  have hlimit₂ : o₂.framer.queueLimit = L.toNat :=
    (recvSiDaqData_setup ho₂).queueLimit.trans (recvSiDaqData_setup ho₁).queueLimit
  have hthird : ∀ bytes : List UInt8, o₂.framer.eventLen bytes ([0] : List UInt8).length < 0 := by
    intro bytes
    have hmode : o₂.framer.headerMode = some fun d _ _ => thenRefused M d :=
      SiDaqFramer.headerMode_eq_some.mpr ⟨by rw [hw₂.headerLen]; decide, hw₂.lengthFunc⟩
    rw [SiDaqFramer.eventLen_of_header hmode, hdec₂, hdec₁]
    show (-1 : Int32).toInt < 0
    decide
  -- the third one returns at the limit
  have hfull : o₂.framer.atQueueLimit (o₂.que.length + 1 : ℕ) := by
    unfold SiDaqFramer.atQueueLimit
    rw [hlimit₂, uint32_of_range (by omega) (by omega)]
    omega
  obtain ⟨o₃, ho₃, hrest₃, hque₃, hrec⟩ := recvSiDaqData_refused hcapped₂ hrest₂.le
    (List.cons_ne_nil (0 : UInt8) []) (by simp) (by rw [hw₂.headerLen]; simp) hthird hfull
  rintro ⟨p₁, hp₁, h₁⟩
  obtain rfl := Option.some.inj (ho₁.symm.trans hp₁)
  obtain ⟨-, -, p₂, hp₂, h₂⟩ := h₁ (by omega)
  obtain rfl := Option.some.inj (ho₂.symm.trans hp₂)
  obtain ⟨-, -, p₃, hp₃, h₃⟩ := h₂ (by omega)
  obtain rfl := Option.some.inj (ho₃.symm.trans hp₃)
  obtain ⟨-, hnull, -⟩ := h₃ (by omega)
  have hzero := (hnull (Or.inr hrec)).2
  omega

end Overflow

/-- **For all framing arguments with the queue limit `L` and a maximum frame length of `M`, every
length function and all chunks of at most `R` bytes, the framer passes everything through after a
framing error, if and only if** there is no queue limit, or it is no `int`, or a chunk together with
the carried bytes has a length that is an `int`. -/
theorem passesThrough_iff (R L M : UInt32) (hM : M.toNat ≤ 262144) :
    (∀ p : FramingParams UInt8, p.maxFrameLen = M → p.frameQueueLimit = L → p.headerLen < M →
      ∀ fr : SiDaqFramer UInt8, fr.rest = 0 → fr.buffSize = defaultMaxFrameLen →
        ∀ que events, (∀ c, .recv c ∈ events → c.bytes.length ≤ R.toNat) →
          PassesThrough False (fr.configure p) que events) ↔
      L.toNat = 0 ∨ 2147483648 ≤ L.toNat ∨
        min R.toNat 2147483647 + M.toNat ≤ 2147483649 := by
  constructor
  · intro hall
    by_contra hnot
    refine not_passesThrough_of_overflow (L := L) hM (by omega) (by omega)
      (n := min R.toNat 2147483647) (by omega) (by omega)
      (hall (overflowing L M) rfl rfl ?_ newSiDaqFramer rfl rfl _ _ fun c hc => ?_)
    · refine UInt32.lt_iff_toNat_lt.mpr ?_
      show 1 < M.toNat
      omega
    · simp only [List.mem_cons, StreamEvent.recv.injEq, List.not_mem_nil, or_false] at hc
      rcases hc with rfl | rfl | rfl
      · rw [Chunk.length_zeros]
        omega
      · rw [Chunk.length_zeros]
        omega
      · show 1 ≤ R.toNat
        omega
  · rintro hbound p rfl rfl hheader fr hrest hsize que events hlen
    have hsized : p.Sized := ⟨UInt32.lt_iff_toNat_lt.mp hheader, hM⟩
    have hcapped : Capped (fr.configure p) := .configure hsized hrest hsize
    have hmax : (fr.configure p).maxFrameLen = p.maxFrameLen.toNat := rfl
    have hrest' : (fr.configure p).rest = 0 := hrest
    have hsafe : Safe (min R.toNat 2147483647) (fr.configure p) := by
      rcases hbound with hnone | hlarge | hsum
      · exact Or.inl (Or.inl hnone)
      · exact Or.inl (Or.inr hlarge)
      · have haccepted := hsized.accepted
        refine Or.inr ⟨⟨hcapped.ranged, hcapped.size, hrest'.ge, ?_, ?_⟩, by rw [hmax]; exact hsum⟩
        · rw [hrest', hmax]
          omega
        · rw [hmax]
          simp only [defaultMaxFrameLen]
          omega
    refine hsafe.passesThrough hcapped False.elim fun c hc => ?_
    have hfits := c.fits
    have := hlen c hc
    omega

/-- A limit of one frame, frames of at most three bytes, and chunks of up to 2147483647 bytes. -/
theorem overflowing_not_passesThrough :
    (overflowing 1 3).headerLen < (overflowing 1 3).maxFrameLen ∧
      ¬ PassesThrough False (newSiDaqFramer.configure (overflowing 1 3)) []
        [.recv (.zeros 2 (by omega) (by omega)), .recv (.zeros 2147483647 (by omega) (by omega)),
          .recv (.of [0])] :=
  ⟨by decide, not_passesThrough_of_overflow (L := 1) (M := 3) (by decide) (by decide) (by decide)
    (n := 2147483647) (by omega) (by decide)⟩

/-- With chunks of 1048576 bytes no queue limit is in the way. -/
theorem smallChunks_passThrough :
    (262144 : UInt32).toNat ≤ 262144 ∧
      ∀ p : FramingParams UInt8, p.maxFrameLen = 262144 → p.frameQueueLimit = 1 →
        p.headerLen < 262144 → ∀ fr : SiDaqFramer UInt8, fr.rest = 0 →
          fr.buffSize = defaultMaxFrameLen → ∀ que events,
            (∀ c, .recv c ∈ events → c.bytes.length ≤ (1048576 : UInt32).toNat) →
              PassesThrough False (fr.configure p) que events :=
  ⟨by decide, (passesThrough_iff 1048576 1 262144 (by decide)).mpr (by decide)⟩

end SiDaqApi
