import SiDaqApi.Framer.Phases

/-!
# A framer that keeps to its length rule

With a length function that decides on the header alone, the carried bytes are an incomplete frame,
however the stream goes on (`Steady`). So a frame completed in the carry-over phase ends in the new
chunk, and the loop goes on inside of it: that is `carryOver_steady`, for headers of any length.

`recvLoop_induct` is the induction over the loop. What the loop takes off the bytes it is given is
`SiDaqFramer.Takes`.
-/

namespace SiDaqApi

open MachineInt

variable {α : Type*}

/-! ## The length rule -/

/-- The answers of `f` depend only on the header, once the whole header is there. -/
def StableOn (f : LengthFunc α) (headerLen : ℤ) : Prop :=
  ∀ m n (bs bs' : List α), headerLen ≤ bs.length → headerLen ≤ bs'.length →
    bs.take headerLen.toNat = bs'.take headerLen.toNat → f m bs headerLen = f n bs' headerLen

/-- A well-formed framer whose length function decides on the header. -/
structure Ruled (fr : SiDaqFramer α) : Prop extends WellFormed fr where
  stable : ∀ f, fr.lengthFunc = some f → StableOn f fr.headerLen

/-- Only the sizes and the length function matter. -/
theorem Ruled.congr {fr fr' : SiDaqFramer α} (hs : Ruled fr)
    (hheader : fr'.headerLen = fr.headerLen) (hmax : fr'.maxFrameLen = fr.maxFrameLen)
    (hsize : fr'.buffSize = fr.buffSize) (hfixed : fr'.fixedFrameLen = fr.fixedFrameLen)
    (hfun : fr'.lengthFunc = fr.lengthFunc) : Ruled fr' where
  toWellFormed := hs.toWellFormed.congr hheader hmax hsize hfixed
  stable := by
    rw [hfun, hheader]
    exact hs.stable

theorem Ruled.decided {fr : SiDaqFramer α} (hs : Ruled fr) : Ruled fr.decided :=
  hs.congr rfl rfl rfl rfl rfl

theorem Ruled.putNull {fr : SiDaqFramer α} (hs : Ruled fr) (code : FramerErrorCode) :
    Ruled (fr.putNull code) where
  toWellFormed := hs.toWellFormed.putNull code
  stable := by simp [SiDaqFramer.putNull]

theorem Ruled.frameLength {fr : SiDaqFramer α} (hs : Ruled fr) (bytes : List α) (avail : ℤ)
    (h₀ : 0 ≤ avail) (h₁ : avail < 2147483648) : Ruled (fr.frameLength bytes avail).2 := by
  rcases SiDaqFramer.frameLength_snd hs.ranged bytes h₀ h₁ with h | ⟨code, -, h⟩
  · rw [h]
    exact hs.decided
  · rw [h]
    exact hs.decided.putNull code

/-- The carried bytes are not a complete frame, and more bytes do not make them one. -/
def Pending (fr : SiDaqFramer α) : Prop :=
  ∀ cs : List α, fr.LengthOk (fr.restBytes ++ cs) (fr.restBytes ++ cs).length →
    fr.rest < fr.eventLen (fr.restBytes ++ cs) (fr.restBytes ++ cs).length + fr.headerLen

/-- The invariant of such a framer between calls. -/
structure Steady (fr : SiDaqFramer α) : Prop extends Ruled fr where
  rest_nonneg : 0 ≤ fr.rest
  rest_lt : fr.rest < fr.maxFrameLen
  pending : 0 < fr.rest → Pending fr

theorem Steady.of_rest_eq_zero {fr : SiDaqFramer α} (hs : Ruled fr) (h : fr.rest = 0) :
    Steady fr where
  toRuled := hs
  rest_nonneg := h.ge
  rest_lt := by
    have := hs.header_nonneg
    have := hs.header_lt
    omega
  pending := by omega

/-- Bytes that do not reach a header, or that a usable length says are too few, are pending. -/
theorem pending_of_short {fr fr' : SiDaqFramer α} (hs : Ruled fr)
    (hlen : fr'.lengthFunc = fr.lengthFunc) (hheader : fr'.headerLen = fr.headerLen)
    (hfixed : fr'.fixedFrameLen = fr.fixedFrameLen) (hrest : 0 ≤ fr'.rest)
    (hshort : fr'.rest < fr.headerLen ∨
      fr.LengthOk fr'.restBytes fr'.restBytes.length ∧
        fr'.rest < fr.eventLen fr'.restBytes fr'.restBytes.length + fr.headerLen) :
    Pending fr' := by
  intro cs hok
  have hnonneg := hok.1
  have hlength := fr'.length_restBytes
  have hmode : fr'.headerMode = fr.headerMode := by
    simp only [SiDaqFramer.headerMode, hheader, hlen]
  rcases hshort with hlt | ⟨hok', hlt⟩
  · omega
  · have hbound := hs.header_nonneg
    have hcap := hs.ranged.max_lt
    have hheaderlt := hs.header_lt
    rw [hheader]
    cases hm : fr.headerMode with
    | some f =>
      rw [SiDaqFramer.eventLen_of_header hm] at hlt
      rw [SiDaqFramer.eventLen_of_header (hmode.trans hm)] at hnonneg ⊢
      by_cases hle : fr.headerLen ≤ fr'.restBytes.length
      · obtain ⟨-, hfun⟩ := SiDaqFramer.headerMode_eq_some.mp hm
        have huint : uint32 fr.headerLen = fr.headerLen :=
          uint32_of_range hbound (by omega)
        have htake : (fr'.restBytes ++ cs).take fr.headerLen.toNat =
            fr'.restBytes.take fr.headerLen.toNat :=
          List.take_append_of_le_length (by omega)
        have hlong : fr.headerLen ≤ (fr'.restBytes ++ cs).length := by
          rw [List.length_append]
          omega
        rw [hheader, huint, hs.stable f hfun fr'.decisions fr.decisions _ _ hlong hle htake]
        rwa [huint] at hlt
      · omega
    | none =>
      by_cases hzero : fr.fixedFrameLen = 0
      · rw [SiDaqFramer.eventLen_of_raw hm hzero] at hlt
        rw [SiDaqFramer.eventLen_of_raw (hmode.trans hm) (hfixed.trans hzero), List.length_append]
        omega
      · rw [SiDaqFramer.eventLen_of_fixed hm hzero] at hlt
        rw [SiDaqFramer.eventLen_of_fixed (hmode.trans hm) (by rwa [hfixed]), hfixed]
        exact hlt

/-! ## The loop -/

/-- The loop takes a frame of `n` bytes off `bs`. -/
structure SiDaqFramer.Takes (fr : SiDaqFramer α) (bs : List α) (n : ℕ) : Prop where
  nonempty : bs ≠ []
  header_le : fr.headerLen ≤ bs.length
  frameLen_eq : fr.frameLen bs bs.length = n
  le : n ≤ bs.length

/-- The framer behind it. -/
def SiDaqFramer.after (fr : SiDaqFramer α) (bs : List α) : SiDaqFramer α :=
  (fr.frameLength bs bs.length).2

theorem SiDaqFramer.Takes.unique {fr : SiDaqFramer α} {bs : List α} {m n : ℕ}
    (hm : fr.Takes bs m) (hn : fr.Takes bs n) : m = n := by
  have h := hm.frameLen_eq.symm.trans hn.frameLen_eq
  omega

theorem SiDaqFramer.Takes.pos {fr : SiDaqFramer α} {bs : List α} {n : ℕ} (h : fr.Takes bs n)
    (hw : Ranged fr) (hsmall : bs.length < 2147483648) : 0 < n := by
  have hpos := List.length_pos_iff.mpr h.nonempty
  have hframe := SiDaqFramer.frameLen_pos hw bs (show (0 : ℤ) < bs.length by omega) (by omega)
  rw [h.frameLen_eq] at hframe
  omega

theorem AtPos.small {data : List α} {l : Locals α} {p : ℕ} (h : AtPos data l p)
    (hdata : data.length < 2147483648) : ((data.drop p).length : ℤ) < 2147483648 := by
  have := h.le
  rw [List.length_drop]
  omega

section Loop

variable [Inhabited α] {data : List α}

/-- The loop after a frame of `n` bytes at offset `p`. -/
def Locals.frame (l : Locals α) (data : List α) (p n : ℕ) : Locals α where
  framer := l.framer.after (data.drop p)
  que := l.que ++ [(data.drop p).take n]
  readPtr := some (p + n : ℕ)
  dataLen := (data.drop (p + n)).length
  frameCount := l.frameCount + 1
  accesses := l.lengthAccesses p ++ [.chunk p n]

/-- **The induction over the loop**, by how it ends: within a header, at a queue limit, or with an
incomplete frame. -/
theorem recvLoop_induct {P : ℕ → Locals α → Outcome α → Prop}
    (short : ∀ p l, WellFormed l.framer → AtPos data l p →
      (data.drop p = [] ∨ ((data.drop p).length : ℤ) < l.framer.headerLen) →
      P p l ⟨l.frameCount,
        { l.framer with
          rest := (data.drop p).length
          buffPtr := buffWrite l.framer.buffPtr 0 (chunkBytes data p 1) },
        l.que, l.accesses ++ [.chunk p 1, .buff 0 1]⟩)
    (limit : ∀ p l n, WellFormed l.framer → AtPos data l p → l.framer.Takes (data.drop p) n →
      (l.framer.after (data.drop p)).atQueueLimit (l.que.length + 1 : ℕ) →
      P p l ⟨-1, { l.framer.after (data.drop p) with errorCode := .exceedFrameQueueCount },
        l.que ++ [(data.drop p).take n], l.lengthAccesses p ++ [.chunk p n]⟩)
    (frame : ∀ p l n o, WellFormed l.framer → AtPos data l p → l.framer.Takes (data.drop p) n →
      ¬ (l.framer.after (data.drop p)).atQueueLimit (l.que.length + 1 : ℕ) →
      AtPos data (l.frame data p n) (p + n) → P (p + n) (l.frame data p n) o → P p l o)
    (save : ∀ p l, WellFormed l.framer → AtPos data l p → data.drop p ≠ [] →
      l.framer.headerLen ≤ (data.drop p).length →
      ((data.drop p).length : ℤ) < l.framer.frameLen (data.drop p) (data.drop p).length →
      P p l ⟨l.frameCount,
        { l.framer.after (data.drop p) with
          rest := (data.drop p).length
          buffPtr := buffWrite (l.framer.after (data.drop p)).buffPtr 0 (data.drop p) },
        l.que, l.lengthAccesses p ++
          [.chunk p (data.drop p).length, .buff 0 (data.drop p).length]⟩)
    (hdata : data.length < 2147483648) {fuel p : ℕ} {l : Locals α} {o : Outcome α}
    (hw : WellFormed l.framer) (h : AtPos data l p) (hrun : recvLoop data fuel l = some o) :
    P p l o := by
  induction fuel generalizing l p with
  | zero => simp [recvLoop] at hrun
  | succ fuel ih =>
    have hsmall : ((data.drop p).length : ℤ) < 2147483648 := by
      rw [List.length_drop]
      omega
    by_cases hshort : data.drop p = [] ∨ ((data.drop p).length : ℤ) < l.framer.headerLen
    · rw [recvLoop_of_done (loopBody_short h hshort), Option.some.injEq] at hrun
      subst hrun
      exact short p l hw h hshort
    · rw [not_or, not_lt] at hshort
      obtain ⟨hne, hheader⟩ := hshort
      have hpos := List.length_pos_iff.mpr hne
      have hframe := SiDaqFramer.frameLen_pos hw.ranged (data.drop p) (by omega) hsmall
      obtain ⟨n, hn⟩ := Int.eq_ofNat_of_zero_le hframe.le
      by_cases hle : n ≤ (data.drop p).length
      · -- a frame is taken; only the queue limit ends the loop then
        have htakes : l.framer.Takes (data.drop p) n := ⟨hne, hheader, hn, hle⟩
        have hbody := loopBody_frame h hdata hne hheader hn hle
        simp only [List.length_append, List.length_singleton] at hbody
        split at hbody
        · rename_i hfull
          rw [recvLoop_of_done hbody, Option.some.injEq] at hrun
          subst hrun
          exact limit p l n hw h htakes hfull
        · rename_i hfree
          have hp := h.le
          rw [List.length_drop] at hle
          have hat : AtPos data (l.frame data p n) (p + n) := ⟨rfl, by omega, rfl⟩
          rw [recvLoop_of_next hbody] at hrun
          exact frame p l n o hw h htakes hfree hat
            (ih (l := l.frame data p n) (hw.frameLength _ (by omega) hsmall) hat hrun)
      · -- an incomplete frame; the next iteration ends the loop
        have hlt : ((data.drop p).length : ℤ) <
            l.framer.frameLen (data.drop p) (data.drop p).length := by omega
        rw [recvLoop_of_next (loopBody_save h hne hheader hlt)] at hrun
        cases fuel with
        | zero => simp [recvLoop] at hrun
        | succ fuel =>
          rw [recvLoop_of_done (loopBody_null rfl), Option.some.injEq] at hrun
          subst hrun
          exact save p l hw h hne hheader hlt

/-- The loop leaves the framer steady. -/
theorem recvLoop_steady (hdata : data.length < 2147483648) {fuel p : ℕ} {l : Locals α}
    {o : Outcome α} (hs : Ruled l.framer) (hzero : l.framer.rest = 0) (h : AtPos data l p)
    (hrun : recvLoop data fuel l = some o) :
    Steady o.framer := by
  refine recvLoop_induct (P := fun _ l o => Ruled l.framer → l.framer.rest = 0 → Steady o.framer)
    ?short ?limit ?frame ?save hdata hs.toWellFormed h hrun hs hzero
  case short =>
    intro p l hw h hshort hs hzero
    have hheader := hs.header_lt
    have hnonneg := hs.header_nonneg
    have hle : data.drop p = [] ∧ (data.drop p).length = 0 ∨
        ((data.drop p).length : ℤ) < l.framer.headerLen := by
      rcases hshort with hnil | hlt
      · exact Or.inl ⟨hnil, by simp [hnil]⟩
      · exact Or.inr hlt
    refine ⟨hs.congr rfl rfl rfl rfl rfl, by simp, ?_, fun hpos => ?_⟩
    · simp only
      omega
    · refine pending_of_short hs rfl rfl rfl (by simp) (Or.inl ?_)
      simp only at hpos ⊢
      omega
  case limit =>
    intro p l n hw h htakes hfull hs hzero
    have hs' := hs.frameLength (data.drop p) _ (by omega) (h.small hdata)
    exact .of_rest_eq_zero (hs'.congr rfl rfl rfl rfl rfl)
      ((l.framer.frameLength_frame _ _).1.trans hzero)
  case frame =>
    intro p l n o hw h htakes hfree hat ih hs hzero
    exact ih (hs.frameLength (data.drop p) _ (by omega) (h.small hdata))
      ((l.framer.frameLength_frame _ _).1.trans hzero)
  case save =>
    intro p l hw h hne hheader hlt hs hzero
    have hsmall := h.small hdata
    have hok := SiDaqFramer.lengthOk_of_lt hs.ranged (by omega) hsmall hlt
    have hmax := hok.2
    rw [SiDaqFramer.frameLen_of_ok hs.ranged hok] at hlt
    have hrest := buffBytes_save l.framer.buffPtr (data.drop p)
    rw [SiDaqFramer.after, SiDaqFramer.frameLength_of_ok hs.ranged hok]
    refine ⟨hs.congr rfl rfl rfl rfl rfl, by simp, ?_, fun _ => ?_⟩
    · simp only [SiDaqFramer.decided]
      omega
    · refine pending_of_short hs rfl rfl rfl (by simp) (Or.inr ?_)
      simp only [SiDaqFramer.restBytes, SiDaqFramer.decided, hrest]
      exact ⟨hok, hlt⟩

end Loop

/-! ## The carry-over phase -/

section Carry

variable {fr : SiDaqFramer α} {data : List α}

theorem Ruled.append (hs : Ruled fr) (data : List α) : Ruled (fr.append data) :=
  hs.congr rfl rfl rfl rfl rfl

theorem Steady.fits (hr : Steady fr) : fr.rest ≤ fr.buffSize := by
  have := hr.rest_lt
  have := hr.max_le
  have := hr.size
  omega

theorem Steady.length_held_le (hr : Steady fr) (data : List α) :
    ((fr.held data).length : ℤ) ≤ fr.buffSize := by
  rw [SiDaqFramer.length_held_eq data hr.rest_nonneg hr.fits]
  exact min_le_right _ _

theorem Steady.length_held_small (hr : Steady fr) (data : List α) :
    ((fr.held data).length : ℤ) < 2147483648 := by
  have hle := hr.length_held_le data
  have hsize := hr.size
  simp only [defaultMaxFrameLen] at hsize
  omega

/-- When the copy does not fill the buffer, it is the whole chunk. -/
theorem Steady.held_eq (hr : Steady fr) (data : List α)
    (hlt : ((fr.held data).length : ℤ) < fr.buffSize) : fr.held data = fr.restBytes ++ data := by
  have hfit := hr.fits
  rw [SiDaqFramer.length_held data hr.rest_nonneg] at hlt
  simp only [SiDaqFramer.held, SiDaqFramer.copied, List.length_take] at hlt ⊢
  rw [List.take_of_length_le (by omega)]

/-- A frame that ends in the copied part, and what the loop gets, are the carried bytes and the
chunk. -/
theorem SiDaqFramer.take_held_append_drop (hrest : 0 ≤ fr.rest) (data : List α) {n : ℕ}
    (hoff : fr.rest ≤ n) (hle : n ≤ (fr.held data).length) :
    (fr.held data).take n ++ data.drop (n - fr.rest.toNat) = fr.restBytes ++ data := by
  have hlen := fr.length_restBytes
  have hheld := SiDaqFramer.length_held data hrest
  have hcopy : n - fr.restBytes.length ≤ (fr.buffSize - fr.rest).toNat := by
    simp only [SiDaqFramer.copied, List.length_take] at hheld
    omega
  rw [SiDaqFramer.held, List.take_append, List.take_of_length_le (by omega), SiDaqFramer.copied,
    List.take_take, min_eq_left hcopy, ← hlen, List.append_assoc, List.take_append_drop]

/-- The framer after a frame from the carry-over phase, which was put in a queue of `count`. -/
def SiDaqFramer.emptied (fr : SiDaqFramer α) (data : List α) (count : ℕ) : SiDaqFramer α :=
  { (fr.append data).after (fr.held data) with
    errorCode :=
      if ((fr.append data).after (fr.held data)).atQueueLimit (count + 1 : ℕ) then
        .exceedFrameQueueCount
      else ((fr.append data).after (fr.held data)).errorCode
    rest := 0 }

/-- The carry-over phase completes a frame of `n` bytes. -/
structure SiDaqFramer.Completes (fr : SiDaqFramer α) (data : List α) (n : ℕ) : Prop where
  rest_pos : 0 < fr.rest
  frameLen_eq : (fr.append data).frameLen (fr.held data) (fr.held data).length = n
  le : n ≤ (fr.held data).length
  rest_le : fr.rest ≤ n

/-- The bytes that the loop is given of a chunk, with the framer and the number of frames in the
queue at that moment: all bytes when nothing is carried, else those behind the completed frame. -/
inductive SiDaqFramer.Hands (fr : SiDaqFramer α) (count : ℕ) (data : List α) :
    SiDaqFramer α → ℕ → List α → Prop
  | all (h : fr.rest = 0) : Hands fr count data fr count data
  | behind {n : ℕ} (h : fr.Completes data n) (hne : data.drop (n - fr.rest.toNat) ≠ []) :
      Hands fr count data (fr.emptied data count) (count + 1) (data.drop (n - fr.rest.toNat))

theorem SiDaqFramer.Completes.unique {m n : ℕ} (hm : fr.Completes data m)
    (hn : fr.Completes data n) : m = n := by
  have h := hm.frameLen_eq.symm.trans hn.frameLen_eq
  omega

theorem SiDaqFramer.Hands.unique {count c₁ c₂ : ℕ} {fr₁ fr₂ : SiDaqFramer α} {bs₁ bs₂ : List α}
    (h₁ : fr.Hands count data fr₁ c₁ bs₁) (h₂ : fr.Hands count data fr₂ c₂ bs₂) :
    fr₁ = fr₂ ∧ c₁ = c₂ ∧ bs₁ = bs₂ := by
  cases h₁ with
  | all hzero =>
    cases h₂ with
    | all => exact ⟨rfl, rfl, rfl⟩
    | behind h _ => exact absurd hzero h.rest_pos.ne'
  | behind h _ =>
    cases h₂ with
    | all hzero => exact absurd hzero h.rest_pos.ne'
    | behind h' _ =>
      rw [h.unique h']
      exact ⟨rfl, rfl, rfl⟩

variable [Inhabited α]

/-- **The carry-over phase of a steady framer** completes one frame, or has copied the whole chunk
and still waits. -/
theorem carryOver_steady (hr : Steady fr) (hpos : 0 < fr.rest) (hdata : data.length < 2147483648)
    (que : List (List α)) :
    ∃ l, carryOver fr data que = .next l ∧ l.accesses = fr.carryAccesses data ∧
      ((∃ n, fr.Completes data n ∧ Ruled l.framer ∧ l.framer = fr.emptied data que.length ∧
          l.que = que ++ [(fr.held data).take n] ∧
          (AtPos data l (n - fr.rest.toNat) ∧ data.drop (n - fr.rest.toNat) ≠ [] ∨
            l.readPtr = none ∧ data.drop (n - fr.rest.toNat) = [])) ∨
        (∀ n, ¬ fr.Completes data n) ∧ Steady l.framer ∧
          l.framer.queueLimit = fr.queueLimit ∧ l.framer.errorCode = fr.errorCode ∧
          l.que = que ∧ l.readPtr = none ∧ l.framer.restBytes = fr.restBytes ++ data) := by
  have hnonneg := hr.rest_nonneg
  have hs := hr.toRuled.append data
  have hsmall := hr.length_held_small data
  have hheld := SiDaqFramer.length_held data hnonneg
  have hs' := hs.frameLength (fr.held data) (fr.held data).length (by omega) hsmall
  -- a frame of any length that is found is split off in the same way
  have hframe : ∀ n : ℕ, (fr.append data).frameLen (fr.held data) (fr.held data).length = n →
      n ≤ (fr.held data).length → fr.rest ≤ n → ∃ l, carryOver fr data que = .next l ∧
        l.accesses = fr.carryAccesses data ∧ ∃ n, fr.Completes data n ∧ Ruled l.framer ∧
          l.framer = fr.emptied data que.length ∧ l.que = que ++ [(fr.held data).take n] ∧
          (AtPos data l (n - fr.rest.toNat) ∧ data.drop (n - fr.rest.toNat) ≠ [] ∨
            l.readPtr = none ∧ data.drop (n - fr.rest.toNat) = []) := by
    intro n hn hle hoff
    obtain ⟨l, hl, hque, hframer, hacc, -, hat⟩ :=
      carryOver_frame que hnonneg hr.fits hdata hn hle hoff
    rw [hque, List.length_append, List.length_singleton] at hframer
    refine ⟨l, hl, hacc, n, ⟨hpos, hn, hle, hoff⟩, ?_, hframer, hque, ?_⟩
    · rw [hframer]
      exact hs'.congr rfl rfl rfl rfl rfl
    · rcases hat with hat | ⟨hnull, -, hnil⟩
      · exact Or.inl hat
      · exact Or.inr ⟨hnull, hnil⟩
  by_cases hok : (fr.append data).LengthOk (fr.held data) (fr.held data).length
  · have hlen := SiDaqFramer.frameLen_of_ok hs.ranged hok
    have hpend : fr.rest < (fr.append data).eventLen (fr.held data) (fr.held data).length +
        (fr.append data).headerLen := hr.pending hpos (fr.copied data) hok
    obtain ⟨n, hn⟩ := Int.eq_ofNat_of_zero_le
      (show 0 ≤ (fr.append data).frameLen (fr.held data) (fr.held data).length by omega)
    by_cases hle : n ≤ (fr.held data).length
    · obtain ⟨l, hl, hacc, hcompletes⟩ := hframe n hn hle (by omega)
      exact ⟨l, hl, hacc, Or.inl hcompletes⟩
    · -- the frame goes on behind the chunk, which then was copied in full
      have hlt : ((fr.held data).length : ℤ) <
          (fr.append data).frameLen (fr.held data) (fr.held data).length := by omega
      have hmax : (fr.append data).eventLen (fr.held data) (fr.held data).length +
          (fr.append data).headerLen ≤ fr.maxFrameLen := hok.2
      have hcap := hr.max_le
      have hsize := hr.size
      have hall := hr.held_eq data (by omega)
      have hkeep := SiDaqFramer.buffBytes_append data hnonneg
      refine ⟨_, carryOver_save que hnonneg hr.fits hlt, rfl, Or.inr ⟨?_, ?_⟩⟩
      · intro m hm
        have := hm.le
        have := hm.frameLen_eq
        omega
      · rw [SiDaqFramer.frameLength_of_ok hs.ranged hok, ← hall]
        refine ⟨⟨hs.congr rfl rfl rfl rfl rfl, by simp, ?_, fun _ => ?_⟩, rfl, rfl, rfl, rfl, ?_⟩
        · show ((fr.held data).length : ℤ) < fr.maxFrameLen
          omega
        · refine pending_of_short hs rfl rfl rfl (by simp) (Or.inr ?_)
          simp only [SiDaqFramer.restBytes, SiDaqFramer.decided, hkeep]
          exact ⟨hok, by omega⟩
        · simp only [SiDaqFramer.restBytes, SiDaqFramer.decided, hkeep]
  · -- no length: all bytes looked at are the frame
    have hlen := SiDaqFramer.frameLen_of_not_ok hs.ranged (by omega) hsmall hok
    obtain ⟨l, hl, hacc, hcompletes⟩ := hframe _ hlen le_rfl (by omega)
    exact ⟨l, hl, hacc, Or.inl hcompletes⟩

end Carry

/-! ## A call -/

section Call

variable [Inhabited α] {fr : SiDaqFramer α} {data : List α} {que : List (List α)} {o : Outcome α}

/-- **A call on a steady framer**: the loop runs on the bytes that it is handed, or the carry-over
phase has used up the chunk, with a completed frame or without. -/
theorem recvSiDaqData_steady (hr : Steady fr) (hdata : data.length < 2147483648)
    (hrun : recvSiDaqData fr data que = some o) :
    (∃ l p fuel, fr.Hands que.length data l.framer l.que.length (data.drop p) ∧
        Ruled l.framer ∧ SameSetup fr l.framer ∧ l.framer.rest = 0 ∧ AtPos data l p ∧ que <+: l.que ∧
        l.que.flatten ++ data.drop p = que.flatten ++ (fr.restBytes ++ data) ∧
        l.accesses = (if 0 < fr.rest then fr.carryAccesses data else []) ∧
        recvLoop data fuel l = some o) ∨
      ((∀ fr' count bs, ¬ fr.Hands que.length data fr' count bs) ∧ Steady o.framer ∧
        o.accesses = fr.carryAccesses data ∧ que <+: o.que ∧
        o.que.flatten ++ o.framer.restBytes = que.flatten ++ (fr.restBytes ++ data)) := by
  simp only [recvSiDaqData] at hrun
  split at hrun
  · rename_i hpos
    obtain ⟨l, hl, hacc, hcases⟩ := carryOver_steady hr hpos hdata que
    have hsetup := carryOver_setup fr data que (by rw [hl]; rfl)
    rw [hl] at hrun
    rcases hcases with ⟨n, hn, hruled, hframer, hque, hat⟩ |
      ⟨hnot, hsteady, -, -, hque, hnull, hbytes⟩
    · have hall := SiDaqFramer.take_held_append_drop hr.rest_nonneg data hn.rest_le hn.le
      have hzero : l.framer.rest = 0 := by rw [hframer]; rfl
      have hflat : l.que.flatten ++ data.drop (n - fr.rest.toNat) =
          que.flatten ++ (fr.restBytes ++ data) := by
        rw [hque, ← hall]
        simp
      rcases hat with ⟨hat, hne⟩ | ⟨hnull, hnil⟩
      · refine Or.inl ⟨l, n - fr.rest.toNat, _, ?_, hruled, hsetup, hzero, hat,
          ⟨_, hque.symm⟩, hflat, by rw [if_pos hpos, hacc], hrun⟩
        rw [hframer, hque, List.length_append, List.length_singleton]
        exact .behind hn hne
      · -- the frame ends with the chunk, and the loop has nothing to do
        simp only [recvLoop_of_done (loopBody_null hnull), Option.some.injEq] at hrun
        subst hrun
        refine Or.inr ⟨?_, .of_rest_eq_zero hruled hzero, hacc, ⟨_, hque.symm⟩, ?_⟩
        · rintro fr' count bs (h | ⟨h, hne⟩)
          · omega
          · rw [h.unique hn] at hne
            exact hne hnil
        · rw [hnil, List.append_nil] at hflat
          rw [SiDaqFramer.restBytes_of_rest_eq_zero hzero, List.append_nil]
          exact hflat
    · -- the frame is still incomplete
      simp only [recvLoop_of_done (loopBody_null hnull), Option.some.injEq] at hrun
      subst hrun
      refine Or.inr ⟨?_, hsteady, hacc, hque ▸ List.prefix_rfl, by rw [hque, hbytes]⟩
      rintro fr' count bs (h | ⟨h, -⟩)
      · omega
      · exact hnot _ h
  · rename_i hzero
    have hrest : fr.rest = 0 := le_antisymm (not_lt.mp hzero) hr.rest_nonneg
    refine Or.inl ⟨.start fr data que, 0, _, .all hrest, hr.toRuled, .of_eq rfl rfl rfl rfl rfl,
      hrest, ⟨rfl, by omega, rfl⟩, List.prefix_rfl, ?_, by rw [if_neg hzero]; rfl, hrun⟩
    rw [SiDaqFramer.restBytes_of_rest_eq_zero hrest]
    rfl

/-- The framer stays steady. -/
theorem recvSiDaqData_keeps_steady (hr : Steady fr) (hdata : data.length < 2147483648)
    (hrun : recvSiDaqData fr data que = some o) : Steady o.framer := by
  rcases recvSiDaqData_steady hr hdata hrun with
    ⟨l, p, fuel, -, hruled, -, hzero, hat, -, -, -, hloop⟩ | ⟨-, hsteady, -⟩
  · exact recvLoop_steady hdata hruled hzero hat hloop
  · exact hsteady

/-- A call returns. -/
theorem recvSiDaqData_returns (hr : Steady fr) (hdata : data.length < 2147483648)
    (que : List (List α)) : ∃ o, recvSiDaqData fr data que = some o := by
  simp only [recvSiDaqData]
  split
  · rename_i hpos
    obtain ⟨l, hl, -, hcases⟩ := carryOver_steady hr hpos hdata que
    rw [hl]
    simp only
    rcases hcases with ⟨n, -, hruled, -, -, ⟨hat, -⟩ | ⟨hnull, -⟩⟩ | ⟨-, -, -, -, -, hnull, -⟩
    · refine recvLoop_total hruled.toWellFormed hat hdata ?_
      rw [List.length_drop]
      omega
    · exact ⟨_, recvLoop_of_done (loopBody_null hnull) _⟩
    · exact ⟨_, recvLoop_of_done (loopBody_null hnull) _⟩
  · refine recvLoop_total (l := .start fr data que) hr.toWellFormed
      (p := 0) ⟨rfl, by omega, rfl⟩ hdata ?_
    rw [List.drop_zero]
    omega

end Call

end SiDaqApi
