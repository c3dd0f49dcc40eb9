import SiDaqApi.Framer.Stream

/-!
# The bounds of the carry-over buffer

The buffer has 262144 bytes whatever `SiDaqRun` is given. With a length function that answers as it
likes, a frame taken off the buffer may end before the carried bytes do. Then `read_ptr` points in
front of the chunk and `data_len` is longer than the chunk, and the loop may save all of it. So what
is saved depends on `max_recv_buff` and on `max_frame_len`; `keepsBuffer_iff` says how.
-/

namespace SiDaqApi

open MachineInt

variable {α : Type*}

/-- A write to `_buff_ptr` stays inside the buffer. -/
def Access.InBuff : Access → Prop
  | .buff off len => 0 ≤ off ∧ 0 ≤ len ∧ off + len ≤ defaultMaxFrameLen
  | .lengthFunc _ | .chunk _ _ => True

theorem Ranged.frameLength {fr : SiDaqFramer α} (hw : Ranged fr) (bytes : List α) {avail : ℤ}
    (h₀ : 0 ≤ avail) (h₁ : avail < 2147483648) : Ranged (fr.frameLength bytes avail).2 := by
  rcases SiDaqFramer.frameLength_snd hw bytes h₀ h₁ with h | ⟨code, -, h⟩
  · rw [h]
    exact ⟨hw.header_nonneg, hw.header_lt, hw.max_lt, hw.fixed_lt⟩
  · rw [h]
    exact ⟨le_rfl, lt_of_le_of_lt hw.header_nonneg hw.header_lt, hw.max_lt, by
      simp [SiDaqFramer.putNull]⟩

/-- At most `K` bytes are carried, and the buffer holds them. -/
structure Bounded (K : ℤ) (fr : SiDaqFramer α) : Prop extends Ranged fr where
  size : fr.buffSize = defaultMaxFrameLen
  rest_nonneg : 0 ≤ fr.rest
  rest_le : fr.rest ≤ K
  bound_le : K ≤ defaultMaxFrameLen

theorem Bounded.congr {K : ℤ} {fr fr' : SiDaqFramer α} (hb : Bounded K fr) (hw : Ranged fr')
    (hsize : fr'.buffSize = fr.buffSize) (h₀ : 0 ≤ fr'.rest) (h₁ : fr'.rest ≤ K) :
    Bounded K fr' :=
  ⟨hw, hsize.trans hb.size, h₀, h₁, hb.bound_le⟩

/-- What the loop may save: it is given at most `K` bytes, or no incomplete frame is longer. -/
def Savable (K : ℤ) (fr : SiDaqFramer α) (dataLen : ℤ) : Prop :=
  dataLen ≤ K ∨ fr.maxFrameLen ≤ K + 1

/-- The loop at any offset, also one in front of the chunk. -/
structure InLoop (K : ℤ) (l : Locals α) : Prop where
  readPtr : l.readPtr ≠ none
  dataLen_nonneg : 0 ≤ l.dataLen
  dataLen_lt : l.dataLen < 2147483648
  framer : Bounded K l.framer
  rest : l.framer.rest = 0
  savable : Savable K l.framer l.dataLen
  accesses : ∀ a ∈ l.accesses, a.InBuff

/-- The loop will end at once. -/
structure LoopEnds (K : ℤ) (l : Locals α) : Prop where
  readPtr : l.readPtr = none
  framer : Bounded K l.framer
  accesses : ∀ a ∈ l.accesses, a.InBuff

theorem chunkLenAccess_inBuff (fr : SiDaqFramer α) (p avail : ℤ) :
    ∀ a ∈ fr.chunkLenAccess p avail, a.InBuff := by
  intro a ha
  unfold SiDaqFramer.chunkLenAccess at ha
  split at ha
  · rcases List.mem_pair.mp ha with rfl | rfl <;> trivial
  · simp at ha

theorem inBuff_append {as bs : List Access} (ha : ∀ a ∈ as, a.InBuff) (hb : ∀ a ∈ bs, a.InBuff) :
    ∀ a ∈ as ++ bs, a.InBuff :=
  List.forall_mem_append.mpr ⟨ha, hb⟩

/-- A write of the first `n` bytes of the buffer. -/
theorem inBuff_save {p q n : ℤ} (h₀ : 0 ≤ n) (h₁ : n ≤ defaultMaxFrameLen) :
    ∀ a ∈ [Access.chunk p q, Access.buff 0 n], a.InBuff := by
  intro a ha
  rcases List.mem_pair.mp ha with rfl | rfl
  · trivial
  · exact ⟨le_rfl, h₀, by omega⟩

section Loop

variable [Inhabited α] {data : List α} {K : ℤ}

/-- An iteration returns, or shortens what is left, or is the last but one. -/
theorem loopBody_bounded {l : Locals α} (h : InLoop K l) :
    (∃ o, loopBody data l = .done o ∧ Bounded K o.framer ∧ ∀ a ∈ o.accesses, a.InBuff) ∨
    (∃ l', loopBody data l = .next l' ∧ InLoop K l' ∧ l'.dataLen < l.dataLen) ∨
    (∃ l', loopBody data l = .next l' ∧ LoopEnds K l') := by
  obtain ⟨p, hp⟩ := Option.ne_none_iff_exists'.mp h.readPtr
  have h₀ := h.dataLen_nonneg
  have h₁ := h.dataLen_lt
  have hb := h.framer
  have hrest := h.rest
  have hsave := h.savable
  have hheader := hb.header_lt
  have hK := hb.rest_le
  have hcap := hb.bound_le
  unfold Savable at hsave
  simp only [loopBody, hp]
  by_cases hshort : l.dataLen = 0 ∨ l.dataLen < l.framer.headerLen
  · -- nothing left, or less than a header: it becomes the carried bytes
    left
    rw [if_pos hshort]
    refine ⟨_, rfl, hb.congr ⟨hb.header_nonneg, hb.header_lt, hb.max_lt, hb.fixed_lt⟩ rfl h₀ ?_,
      inBuff_append h.accesses (inBuff_save (by omega) (by decide))⟩
    simp only
    omega
  · rw [if_neg hshort]
    rw [not_or, not_lt] at hshort
    generalize chunkBytes data p l.dataLen = bytes
    have hranged := hb.toRanged.frameLength bytes h₀ h₁
    have hpos := SiDaqFramer.frameLen_pos hb.toRanged bytes (by omega) h₁
    have hlong := SiDaqFramer.frameLen_le hb.toRanged bytes h₀ h₁
    obtain ⟨hrest', -, hsize', hmax', -, -⟩ := l.framer.frameLength_frame bytes l.dataLen
    have hacc := inBuff_append h.accesses (chunkLenAccess_inBuff l.framer p l.dataLen)
    simp only [SiDaqFramer.frameLen] at hpos hlong
    generalize wrap32 ((l.framer.frameLength bytes l.dataLen).1 +
      (l.framer.frameLength bytes l.dataLen).2.headerLen) = frameLen at hpos hlong ⊢
    generalize (l.framer.frameLength bytes l.dataLen).2 = fr' at *
    have hframe : ∀ a ∈ l.accesses ++ l.framer.chunkLenAccess p l.dataLen ++
        [Access.chunk p frameLen], a.InBuff :=
      inBuff_append hacc fun a ha => by rw [List.mem_singleton.mp ha]; trivial
    by_cases hle : frameLen ≤ l.dataLen
    · -- the frame fits: it goes to the queue, and the loop goes on behind it
      have hcount : ¬ (sqPut l.que (chunkBytes data p frameLen)).2 < 0 := by
        simp only [sqPut]
        omega
      rw [if_pos hle, if_neg (not_lt.mpr hpos.le), if_neg hcount]
      by_cases hfull : fr'.atQueueLimit (sqPut l.que (chunkBytes data p frameLen)).2
      · rw [if_pos hfull]
        refine Or.inl ⟨_, rfl, hb.congr ?_ hsize' ?_ ?_, hframe⟩
        · exact ⟨hranged.header_nonneg, hranged.header_lt, hranged.max_lt, hranged.fixed_lt⟩
        · exact (hrest'.trans hrest).ge
        · exact (hrest'.trans hrest).trans_le (hrest ▸ hK)
      · rw [if_neg hfull, wrap32_of_range (by omega) (by omega)]
        refine Or.inr (Or.inl ⟨_, rfl, ⟨by simp, ?_, ?_, ?_, ?_, ?_, hframe⟩, ?_⟩)
        · show 0 ≤ l.dataLen - frameLen
          omega
        · show l.dataLen - frameLen < 2147483648
          omega
        · exact hb.congr hranged hsize' (hrest'.trans hrest).ge
            ((hrest'.trans hrest).trans_le (hrest ▸ hK))
        · exact hrest'.trans hrest
        · show l.dataLen - frameLen ≤ K ∨ (fr'.maxFrameLen : ℤ) ≤ K + 1
          omega
        · show l.dataLen - frameLen < l.dataLen
          omega
    · -- the frame is longer than what is left, and no longer than allowed
      have hmax := hlong (not_le.mp hle)
      rw [if_neg hle]
      refine Or.inr (Or.inr ⟨_, rfl, rfl, hb.congr ?_ hsize' h₀ ?_, ?_⟩)
      · exact ⟨hranged.header_nonneg, hranged.header_lt, hranged.max_lt, hranged.fixed_lt⟩
      · show l.dataLen ≤ K
        omega
      · exact inBuff_append hacc (inBuff_save h₀ (by omega))

/-- **The loop returns, keeps to the buffer and carries at most `K` bytes.** -/
theorem recvLoop_bounded {fuel : ℕ} {l : Locals α} (h : InLoop K l)
    (hfuel : l.dataLen.toNat + 2 ≤ fuel) :
    ∃ o, recvLoop data fuel l = some o ∧ Bounded K o.framer ∧ ∀ a ∈ o.accesses, a.InBuff := by
  induction fuel generalizing l with
  | zero => omega
  | succ fuel ih =>
    have hstep := @loopBody_bounded _ _ data _ _ h
    rcases hstep with ⟨o, ho, hb, hacc⟩ | ⟨l', hl', h', hlt⟩ | ⟨l', hl', hend⟩
    · exact ⟨o, recvLoop_of_done ho fuel, hb, hacc⟩
    · have := h'.dataLen_nonneg
      rw [recvLoop_of_next hl']
      exact ih h' (by omega)
    · obtain ⟨fuel, rfl⟩ : ∃ k, fuel = k + 1 := ⟨fuel - 1, by omega⟩
      rw [recvLoop_of_next hl', recvLoop_of_done (loopBody_null hend.readPtr)]
      exact ⟨_, rfl, hend.framer, hend.accesses⟩

end Loop

/-! ## A call -/

/-- A chunk of `n` bytes leaves room when `K` bytes may be carried: the loop saves at most `K`. -/
structure Room (K : ℤ) (maxFrameLen n : ℕ) : Prop where
  pos : 0 < n
  fits : n < 2147483648
  sum_le : n + K ≤ 2147483648
  savable : maxFrameLen ≤ K + 1 ∨ n = 1 ∧ K = defaultMaxFrameLen

section Call

variable [Inhabited α] {fr : SiDaqFramer α} {data : List α} {K : ℤ}

omit [Inhabited α] in
theorem carryAccesses_inBuff (hb : Bounded K fr)
    (hheld : ((fr.held data).length : ℤ) ≤ defaultMaxFrameLen) :
    ∀ a ∈ fr.carryAccesses data, a.InBuff := by
  have hlen := SiDaqFramer.length_held data hb.rest_nonneg
  refine inBuff_append (fun a ha => ?_) fun a ha => ?_
  · rcases List.mem_pair.mp ha with rfl | rfl
    · trivial
    · exact ⟨hb.rest_nonneg, by omega, by omega⟩
  · unfold SiDaqFramer.eventLenAccess at ha
    split at ha
    · rw [List.mem_singleton.mp ha]
      trivial
    · simp at ha

/-- The carry-over phase hands the loop at most the chunk and all carried bytes but one. -/
theorem carryOver_bounded (hb : Bounded K fr) (hpos : 0 < fr.rest)
    (hroom : Room K fr.maxFrameLen data.length) (que : List (List α)) :
    ∃ l, carryOver fr data que = .next l ∧
      (InLoop K l ∧ l.dataLen < fr.rest + data.length ∨ LoopEnds K l) := by
  have hK := hb.rest_le
  have hcap := hb.bound_le
  have hsum := hroom.sum_le
  have hchunk := hroom.pos
  have hfit : fr.rest ≤ fr.buffSize := by
    rw [hb.size]
    omega
  have hlen := SiDaqFramer.length_held data hpos.le
  have hheld : ((fr.held data).length : ℤ) ≤ defaultMaxFrameLen := by
    rw [SiDaqFramer.length_held_eq data hpos.le hfit, ← hb.size]
    exact min_le_right _ _
  have hsmall : ((fr.held data).length : ℤ) < 2147483648 := hheld.trans_lt (by decide)
  have hranged : Ranged (fr.append data) :=
    ⟨hb.header_nonneg, hb.header_lt, hb.max_lt, hb.fixed_lt⟩
  have hranged' := hranged.frameLength (fr.held data) (by omega) hsmall
  have hframe := SiDaqFramer.frameLen_pos hranged (fr.held data) (by omega) hsmall
  have hlong := SiDaqFramer.frameLen_le hranged (fr.held data) (by omega) hsmall
  obtain ⟨-, -, hsize', hmax', -, -⟩ :=
    (fr.append data).frameLength_frame (fr.held data) (fr.held data).length
  have hacc := carryAccesses_inBuff hb hheld
  rw [carryOver_eq que hpos.le hfit]
  dsimp only
  generalize (fr.append data).frameLen (fr.held data) (fr.held data).length = frameLen at *
  generalize ((fr.append data).frameLength (fr.held data) (fr.held data).length).2 = fr' at *
  have hsize : fr'.buffSize = fr.buffSize := hsize'
  have hmax : fr'.maxFrameLen = fr.maxFrameLen := hmax'
  have hzero : ∀ code, Bounded K { fr' with errorCode := code, rest := 0 } := fun code =>
    hb.congr ⟨hranged'.header_nonneg, hranged'.header_lt, hranged'.max_lt, hranged'.fixed_lt⟩
      hsize le_rfl (by show 0 ≤ K; omega)
  by_cases hle : frameLen ≤ (fr.held data).length
  · -- the frame is complete; the loop gets the chunk from behind it, if there is such a part
    have hoff : wrap32 (frameLen - fr.rest) = frameLen - fr.rest :=
      wrap32_of_range (by omega) (by omega)
    simp only [if_pos hle, if_neg (not_lt.mpr hframe.le), hoff]
    by_cases hmore : frameLen - fr.rest < data.length
    · have hleft : wrap32 (data.length - (frameLen - fr.rest)) =
          data.length - (frameLen - fr.rest) := wrap32_of_range (by omega) (by omega)
      rw [if_pos hmore, hleft]
      refine ⟨_, rfl, Or.inl ⟨⟨by simp, ?_, ?_, hzero _, rfl, ?_, hacc⟩, ?_⟩⟩
      · show 0 ≤ data.length - (frameLen - fr.rest)
        omega
      · show data.length - (frameLen - fr.rest) < 2147483648
        omega
      · show data.length - (frameLen - fr.rest) ≤ K ∨ (fr'.maxFrameLen : ℤ) ≤ K + 1
        rcases hroom.savable with hfew | ⟨hone, hall⟩
        · right
          omega
        · left
          omega
      · show data.length - (frameLen - fr.rest) < fr.rest + data.length
        omega
    · rw [if_neg hmore]
      exact ⟨_, rfl, Or.inr ⟨rfl, hzero _, hacc⟩⟩
  · -- still incomplete, and therefore shorter than `maxFrameLen`
    have hmax' := hlong (not_le.mp hle)
    simp only [if_neg hle]
    refine ⟨_, rfl, Or.inr ⟨rfl, hb.congr ?_ hsize ?_ ?_, hacc⟩⟩
    · exact ⟨hranged'.header_nonneg, hranged'.header_lt, hranged'.max_lt, hranged'.fixed_lt⟩
    · show (0 : ℤ) ≤ (fr.held data).length
      omega
    · show ((fr.held data).length : ℤ) ≤ K
      have hmaxeq : (fr.append data).maxFrameLen = fr.maxFrameLen := rfl
      rcases hroom.savable with hfew | ⟨-, hall⟩ <;> omega

/-- **A call returns, keeps to the buffer and leaves at most `K` bytes carried.** -/
theorem recvSiDaqData_bounded (hb : Bounded K fr) (hroom : Room K fr.maxFrameLen data.length)
    (que : List (List α)) :
    ∃ o, recvSiDaqData fr data que = some o ∧ Bounded K o.framer ∧ ∀ a ∈ o.accesses, a.InBuff := by
  have hfits := hroom.fits
  simp only [recvSiDaqData]
  split
  · rename_i hpos
    obtain ⟨l, hl, ⟨hin, hlt⟩ | hend⟩ := carryOver_bounded hb hpos hroom que
    · have := hin.dataLen_nonneg
      rw [hl]
      exact recvLoop_bounded hin (by omega)
    · simp only [hl, recvLoop_of_done (loopBody_null hend.readPtr)]
      exact ⟨_, rfl, hend.framer, hend.accesses⟩
  · rename_i hzero
    have hrest : fr.rest = 0 := le_antisymm (not_lt.mp hzero) hb.rest_nonneg
    have hstart : InLoop K (.start fr data que) := by
      refine ⟨by simp [Locals.start], ?_, ?_, hb, hrest, ?_, by simp [Locals.start]⟩
      · show (0 : ℤ) ≤ data.length
        omega
      · show (data.length : ℤ) < 2147483648
        omega
      · show (data.length : ℤ) ≤ K ∨ (fr.maxFrameLen : ℤ) ≤ K + 1
        rcases hroom.savable with hfew | ⟨hone, hall⟩
        · exact Or.inr hfew
        · simp only [defaultMaxFrameLen] at hall
          omega
    refine recvLoop_bounded hstart ?_
    show (data.length : ℤ).toNat + 2 ≤ _
    omega

/-- What the call keeps, a stream keeps, as long as every chunk leaves room. -/
theorem Session.feed_bounded {s : Session α} (hb : Bounded K s.framer)
    (hacc : ∀ a ∈ s.accesses, a.InBuff) {chunks : List (Chunk α)}
    (hroom : ∀ c ∈ chunks, Room K s.framer.maxFrameLen c.bytes.length) :
    ∃ s', s.feed chunks = some s' ∧ Bounded K s'.framer ∧ ∀ a ∈ s'.accesses, a.InBuff := by
  induction chunks generalizing s with
  | nil => exact ⟨s, rfl, hb, hacc⟩
  | cons c cs ih =>
    obtain ⟨o, ho, hb', hacc'⟩ :=
      recvSiDaqData_bounded hb (hroom c List.mem_cons_self) s.que
    have hmax : o.framer.maxFrameLen = s.framer.maxFrameLen := (recvSiDaqData_setup ho).maxFrameLen
    obtain ⟨s', hs', h⟩ := ih (s := ⟨o.framer, o.que, s.accesses ++ o.accesses⟩) hb'
      (inBuff_append hacc hacc') fun c' hc' => hmax ▸ hroom c' (List.mem_cons_of_mem c hc')
    refine ⟨s', ?_, h⟩
    simp only [Session.feed, Session.recv_of_recvSiDaqData ho, Option.bind_some, hs']

end Call

/-! ## Calls that go wrong -/

section Wrong

variable {answers : ℕ → Int32} {M : UInt32} {fr : SiDaqFramer UInt8} {data : List UInt8}
  {l : Locals UInt8}

/-- The payload of 2147483647 bytes and the header together are a negative `int`. -/
theorem Scripted.fault (h : Scripted answers M fr)
    (hanswer : (answers fr.decisions).toInt = (2147483647 : ℕ)) (hM : 2147483648 ≤ M.toNat)
    (hzero : fr.rest = 0) (hne : data ≠ []) (que : List (List UInt8)) :
    recvSiDaqData fr data que = none := by
  have hpos := List.length_pos_iff.mpr hne
  have hshort : ¬ ((data.length : ℤ) = 0 ∨ (data.length : ℤ) < fr.headerLen) := by
    rw [h.headerLen]
    omega
  have hbody : loopBody data (.start fr data que) = .fault := by
    have hframe := h.frameLen hanswer (by omega) (chunkBytes data 0 data.length) data.length
    rw [SiDaqFramer.frameLen, show wrap32 ((2147483647 : ℕ) + 1) = -2147483648 by decide] at hframe
    simp only [loopBody, Locals.start, if_neg hshort, hframe]
    rw [if_pos (by omega), if_pos (by decide)]
  rw [recvSiDaqData_of_rest_eq_zero data que hzero]
  simp only [recvLoop, hbody]

/-- A frame of one byte off the buffer leaves the loop in front of the chunk. -/
theorem Scripted.shift (h : Scripted answers M fr)
    (hanswer : (answers fr.decisions).toInt = (0 : ℕ)) (hM : 1 ≤ M.toNat) (hpos : 0 < fr.rest)
    (hfit : fr.rest ≤ defaultMaxFrameLen) (hne : data ≠ []) (que : List (List UInt8)) :
    ∃ l, carryOver fr data que = .next l ∧ l.readPtr = some (1 - fr.rest) ∧
      l.dataLen = wrap32 (data.length - (1 - fr.rest)) ∧ Scripted answers M l.framer ∧
      l.framer.decisions = fr.decisions + 1 := by
  have hlen := List.length_pos_iff.mpr hne
  have hheld := SiDaqFramer.length_held data hpos.le
  have h' := h.append data
  have hframe : (fr.append data).frameLen (fr.held data) (fr.held data).length = 1 :=
    h'.frameLen hanswer hM _ _
  have hcap : (defaultMaxFrameLen : ℤ) < 2147483648 := by decide
  have hoff : wrap32 (1 - fr.rest) = 1 - fr.rest := wrap32_of_range (by omega) (by omega)
  rw [carryOver_eq que hpos.le (by rw [h.size]; exact hfit)]
  dsimp only
  rw [hframe, h'.frameLength hanswer hM, if_pos (by omega), if_neg (by decide), hoff,
    if_pos (by omega)]
  exact ⟨_, rfl, rfl, rfl, ⟨h.lengthFunc, h.headerLen, h.maxFrameLen, h.size⟩, rfl⟩

/-- The loop saves what it takes for the chunk. -/
theorem Scripted.saves (h : Scripted answers M l.framer) {n : ℕ}
    (hanswer : (answers l.framer.decisions).toInt = n) (hM : n + 1 ≤ M.toNat)
    (hsmall : n + 1 < 2147483648) {p : ℤ} (hp : l.readPtr = some p) (hpos : 0 < l.dataLen)
    (hlt : l.dataLen ≤ n) (data : List UInt8) (fuel : ℕ) :
    ∃ o, recvLoop data (fuel + 2) l = some o ∧ Access.buff 0 l.dataLen ∈ o.accesses := by
  have hshort : ¬ (l.dataLen = 0 ∨ l.dataLen < l.framer.headerLen) := by
    rw [h.headerLen]
    omega
  have hframe := h.frameLen hanswer hM (chunkBytes data p l.dataLen) l.dataLen
  rw [wrap32_of_range (by omega) (by omega), SiDaqFramer.frameLen] at hframe
  obtain ⟨l', hl', hnull, hmem⟩ : ∃ l', loopBody data l = .next l' ∧ l'.readPtr = none ∧
      Access.buff 0 l.dataLen ∈ l'.accesses := by
    simp only [loopBody, hp, if_neg hshort, hframe]
    rw [if_neg (by omega)]
    exact ⟨_, rfl, rfl, by simp⟩
  rw [recvLoop_of_next hl', recvLoop_of_done (loopBody_null hnull)]
  exact ⟨_, rfl, hmem⟩

/-- A negative `data_len` becomes `_rest`. -/
theorem Scripted.keeps_negative (h : Scripted answers M l.framer) {p : ℤ} (hp : l.readPtr = some p)
    (hneg : l.dataLen < 0) (data : List UInt8) (fuel : ℕ) :
    ∃ o, recvLoop data (fuel + 1) l = some o ∧ o.framer.rest < 0 := by
  have hshort : l.dataLen = 0 ∨ l.dataLen < l.framer.headerLen := by
    rw [h.headerLen]
    omega
  have hbody : ∃ o, loopBody data l = .done o ∧ o.framer.rest < 0 := by
    simp only [loopBody, hp, if_pos hshort]
    exact ⟨_, rfl, hneg⟩
  obtain ⟨o, ho, hrest⟩ := hbody
  exact ⟨o, recvLoop_of_done ho fuel, hrest⟩

end Wrong

/-- Over a whole stream: the calls return, every write to `_buff_ptr` is inside of the buffer, and
so is what is carried. -/
def KeepsBuffer (p : FramingParams UInt8) (chunks : List (Chunk UInt8)) : Prop :=
  ∃ s, (Session.fresh p).feed chunks = some s ∧ (∀ a ∈ s.accesses, a.InBuff) ∧
    0 ≤ s.framer.rest ∧ s.framer.rest ≤ s.framer.buffSize

section Streams

variable {M : UInt32}

/-- Chunks of one byte, as long as the answers are long frames, fill the buffer. -/
theorem Scripted.fill {answers : ℕ → Int32} (hM : 262146 ≤ M.toNat)
    (hlong : ∀ d < 262144, (answers d).toInt = (262145 : ℕ)) {k r : ℕ} (hk : r + k ≤ 262144)
    {s : Session UInt8} (h : Scripted answers M s.framer) (hrest : s.framer.rest = r)
    (hdec : s.framer.decisions = r) :
    ∃ s', s.feed (List.replicate k (.zeros 1 (by omega) (by omega))) = some s' ∧
      Scripted answers M s'.framer ∧ s'.framer.rest = (r + k : ℕ) ∧
      s'.framer.decisions = r + k := by
  induction k generalizing r s with
  | zero => exact ⟨s, rfl, h, hrest, hdec⟩
  | succ k ih =>
    let c : Chunk UInt8 := .zeros 1 (by omega) (by omega)
    have hc : c.bytes.length = 1 := Chunk.length_zeros _ _
    have hanswer := hlong r (by omega)
    rw [← hdec] at hanswer
    obtain ⟨o, ho, hw⟩ : ∃ o, recvSiDaqData s.framer c.bytes s.que = some o ∧
        WaitsWith answers M s.framer s.que (r + 1 : ℕ) o := by
      -- the first byte is saved by the loop, each later one by the carry-over phase
      rcases Nat.eq_zero_or_pos r with rfl | hpos
      · obtain ⟨o, ho, hw⟩ := h.save hanswer hM (by omega) hrest c.nonempty (by omega) s.que
        rw [hc] at hw
        exact ⟨o, ho, hw⟩
      · have hheld : (s.framer.held c.bytes).length = r + 1 := by
          have hlen : ((s.framer.held c.bytes).length : ℤ) = _ :=
            SiDaqFramer.length_held_eq c.bytes (by omega)
              (by rw [h.size, hrest]; simp only [defaultMaxFrameLen]; omega)
          rw [h.size, hrest, hc, min_eq_left (by simp only [defaultMaxFrameLen]; omega)] at hlen
          omega
        obtain ⟨o, ho, hw⟩ := h.carry hanswer hM (by omega) (by omega)
          (by rw [hrest]; simp only [defaultMaxFrameLen]; omega)
          (show (s.framer.held c.bytes).length ≤ _ by omega) s.que
        rw [hheld] at hw
        exact ⟨o, ho, hw⟩
    obtain ⟨s', hs', hscripted, hrest', hdec'⟩ := ih (r := r + 1) (by omega)
      (s := ⟨o.framer, o.que, s.accesses ++ o.accesses⟩) hw.scripted hw.rest
      (by rw [hw.decisions, hdec])
    refine ⟨s', ?_, hscripted, by rw [hrest']; congr 1; omega, by omega⟩
    have hrecv : s.recv c = some ⟨o.framer, o.que, s.accesses ++ o.accesses⟩ :=
      Session.recv_of_recvSiDaqData ho
    rw [List.replicate_succ]
    simp only [Session.feed, hrecv, Option.bind_some, hs', c]

/-- A header and a payload that are too long for an `int`. -/
theorem not_keepsBuffer_of_huge (hM : 2147483648 ≤ M.toNat) :
    ¬ KeepsBuffer (scripted (fun _ => 2147483647) M) [.of [0]] := by
  rintro ⟨s, hs, -⟩
  have hrun : recvSiDaqData (newSiDaqFramer.configure (scripted (fun _ => 2147483647) M)) [0] [] =
      none :=
    (Scripted.fresh _ M).fault (by decide) hM rfl (by simp) []
  have hnone : (Session.fresh (scripted (fun _ => 2147483647) M)).recv (.of [0]) = none := by
    simp only [Session.recv, Session.fresh, Session.start, Chunk.of, hrun, Option.map_none]
  simp [Session.feed, hnone] at hs

/-- Long frames until the buffer is full; then a frame of one byte, and another long one. -/
def fillThenShift (d : ℕ) : Int32 := if d = 262144 then 0 else 262145

/-- The loop stands 262143 bytes in front of a chunk of two, and saves all of it. -/
theorem not_keepsBuffer_of_shift (hM : 262146 ≤ M.toNat) :
    ¬ KeepsBuffer (scripted fillThenShift M)
      (List.replicate 262144 (.zeros 1 (by omega) (by omega)) ++
        [.zeros 2 (by omega) (by omega)]) := by
  rintro ⟨s, hs, hacc, -⟩
  have hlong : ∀ d, d ≠ 262144 → (fillThenShift d).toInt = (262145 : ℕ) := by
    intro d hd
    simp only [fillThenShift, if_neg hd]
    decide
  obtain ⟨s₁, hs₁, h₁, hrest, hdec⟩ := Scripted.fill (r := 0) (k := 262144) hM
    (fun d hd => hlong d (by omega)) (by omega) (s := Session.fresh (scripted fillThenShift M))
    (Scripted.fresh fillThenShift M) rfl rfl
  let c : Chunk UInt8 := .zeros 2 (by omega) (by omega)
  have hc : c.bytes.length = 2 := Chunk.length_zeros _ _
  have hanswer : (fillThenShift s₁.framer.decisions).toInt = (0 : ℕ) := by
    rw [hdec]
    decide
  have hfull : s₁.framer.rest = 262144 := by rw [hrest]; rfl
  obtain ⟨l, hl, hp, hlen, hl', hdec'⟩ := h₁.shift hanswer (by omega) (by omega)
    (by rw [hfull]; decide) c.nonempty s₁.que
  -- one byte of the 262144 carried completes the frame, hence `readPtr` is 262143 in front
  have hleft : l.dataLen = 262145 := by
    rw [hlen, hc, hfull]
    decide
  obtain ⟨o, ho, hmem⟩ := hl'.saves (hlong _ (by omega)) hM (by omega) hp (by omega)
    (by omega) c.bytes (s₁.framer.rest.toNat + c.bytes.length)
  have hrun : recvSiDaqData s₁.framer c.bytes s₁.que = some o := by
    simp only [recvSiDaqData, if_pos (show s₁.framer.rest > 0 by omega), hl]
    exact ho
  have hrecv : s₁.recv c = some ⟨o.framer, o.que, s₁.accesses ++ o.accesses⟩ :=
    Session.recv_of_recvSiDaqData hrun
  rw [Session.feed_append, hs₁] at hs
  simp only [Session.feed, Option.bind_some, show s₁.recv (.zeros 2 _ _) = _ from hrecv,
    Option.some.injEq] at hs
  have hbad := hacc (.buff 0 l.dataLen) (by rw [← hs]; exact List.mem_append_right _ hmem)
  rw [hleft] at hbad
  exact absurd hbad.2.2 (by decide)

/-- A frame of `M` bytes, then one of one byte. -/
def onceThenShift (M : UInt32) (d : ℕ) : Int32 := if d = 0 then Int32.ofNat (M.toNat - 1) else 0

/-- All but one byte of a frame are carried; then a chunk so long that `data_len` overflows. -/
theorem not_keepsBuffer_of_overflow (hM : M.toNat ≤ 262145) {n : ℕ} (hn : n < 2147483648)
    (hsum : 2147483649 < n + M.toNat) :
    ¬ KeepsBuffer (scripted (onceThenShift M) M)
      [.zeros (M.toNat - 1) (by omega) (by omega), .zeros n (by omega) hn] := by
  rintro ⟨s, hs, -, hnonneg, -⟩
  let c₁ : Chunk UInt8 := .zeros (M.toNat - 1) (by omega) (by omega)
  let c₂ : Chunk UInt8 := .zeros n (by omega) hn
  have hc₁ : c₁.bytes.length = M.toNat - 1 := Chunk.length_zeros _ _
  have hc₂ : c₂.bytes.length = n := Chunk.length_zeros _ _
  have hfirst : (onceThenShift M 0).toInt = (M.toNat - 1 : ℕ) := by
    simp only [onceThenShift, if_true]
    exact Int32.toInt_ofNat_of_lt (by omega)
  obtain ⟨o, ho, hw⟩ := (Scripted.fresh (onceThenShift M) M).save hfirst (by omega) (by omega) rfl
    c₁.nonempty hc₁.le []
  have hdec : o.framer.decisions = 1 := hw.decisions
  have hrest : o.framer.rest = (M.toNat - 1 : ℕ) := by rw [hw.rest, hc₁]
  have hanswer : (onceThenShift M o.framer.decisions).toInt = (0 : ℕ) := by
    rw [hdec]
    rfl
  obtain ⟨l, hl, hp, hlen, hl', -⟩ := hw.scripted.shift hanswer (by omega) (by omega)
    (by rw [hrest]; simp only [defaultMaxFrameLen]; omega) c₂.nonempty o.que
  -- `n + (M - 1) - 1` is no `int`
  have hneg : l.dataLen < 0 := by
    rw [hlen, hc₂, hrest]
    unfold wrap32
    omega
  obtain ⟨o', ho', hbad⟩ := hl'.keeps_negative hp hneg c₂.bytes
    (o.framer.rest.toNat + c₂.bytes.length + 1)
  have hrun : recvSiDaqData o.framer c₂.bytes o.que = some o' := by
    simp only [recvSiDaqData, if_pos (show o.framer.rest > 0 by omega), hl]
    exact ho'
  have hrecv₁ : (Session.fresh (scripted (onceThenShift M) M)).recv c₁ =
      some ⟨o.framer, o.que, [] ++ o.accesses⟩ := Session.recv_of_recvSiDaqData ho
  have hrecv₂ : (⟨o.framer, o.que, [] ++ o.accesses⟩ : Session UInt8).recv c₂ =
      some ⟨o'.framer, o'.que, [] ++ o.accesses ++ o'.accesses⟩ :=
    Session.recv_of_recvSiDaqData hrun
  have hs' : (Session.fresh (scripted (onceThenShift M) M)).feed [c₁, c₂] = some s := hs
  simp only [Session.feed, hrecv₁, hrecv₂, Option.bind_some, Option.some.injEq] at hs'
  rw [← hs'] at hnonneg
  exact absurd hbad (not_lt.mpr hnonneg)

end Streams

/-- A fresh framer, for every `max_frame_len` that is an `int`. -/
theorem Bounded.fresh {p : FramingParams UInt8} (hheader : p.headerLen < p.maxFrameLen)
    (hmax : p.maxFrameLen.toNat < 2147483648) {K : ℤ} (h₀ : 0 ≤ K) (hK : K ≤ defaultMaxFrameLen) :
    Bounded K (newSiDaqFramer.configure p) := by
  have hlt : p.headerLen.toNat < p.maxFrameLen.toNat := UInt32.lt_iff_toNat_lt.mp hheader
  have hlen : (newSiDaqFramer.configure p).headerLen = p.headerLen.toNat :=
    wrap32_of_range (by omega) (by omega)
  refine ⟨⟨?_, ?_, hmax, p.fixedFrameLen.toNat_lt⟩, rfl, le_rfl, h₀, hK⟩
  · rw [hlen]
    omega
  · rw [hlen]
    exact Int.ofNat_lt.mpr hlt

/-- Chunks that leave room keep to the buffer. -/
theorem keepsBuffer_of_room {p : FramingParams UInt8} (hheader : p.headerLen < p.maxFrameLen)
    (hmax : p.maxFrameLen.toNat < 2147483648) {K : ℤ} (h₀ : 0 ≤ K) (hK : K ≤ defaultMaxFrameLen)
    {chunks : List (Chunk UInt8)}
    (hroom : ∀ c ∈ chunks, Room K p.maxFrameLen.toNat c.bytes.length) : KeepsBuffer p chunks := by
  obtain ⟨s, hs, hb, hacc⟩ := Session.feed_bounded (s := .fresh p)
    (Bounded.fresh hheader hmax h₀ hK) (by simp [Session.fresh, Session.start]) hroom
  have hle := hb.rest_le
  have hsize := hb.size
  exact ⟨s, hs, hacc, hb.rest_nonneg, by omega⟩

/-- **For all framing arguments with a maximum frame length of `M`, every length function and all
chunks of at most `R` bytes, the buffer is kept to, if and only if** there are no chunks, or they
have one byte and a frame length is an `int`, or an incomplete frame fits in the buffer and a chunk
together with the carried bytes has a length that is an `int`. -/
theorem keepsBuffer_iff (R M : UInt32) :
    (∀ p : FramingParams UInt8, p.maxFrameLen = M → p.headerLen < M →
      ∀ chunks : List (Chunk UInt8), (∀ c ∈ chunks, c.bytes.length ≤ R.toNat) →
        KeepsBuffer p chunks) ↔
      R.toNat = 0 ∨ R.toNat = 1 ∧ M.toNat < 2147483648 ∨
        M.toNat ≤ 262145 ∧ min R.toNat 2147483647 + M.toNat ≤ 2147483649 := by
  constructor
  · intro hall
    by_contra hnot
    have hscripted : ∀ answers chunks, 1 < M.toNat →
        (∀ c ∈ chunks, c.bytes.length ≤ R.toNat) → KeepsBuffer (scripted answers M) chunks :=
      fun answers chunks hM => hall (scripted answers M) rfl (UInt32.lt_iff_toNat_lt.mpr hM) chunks
    by_cases hhuge : 2147483648 ≤ M.toNat
    · refine not_keepsBuffer_of_huge hhuge (hscripted _ _ (by omega) fun c hc => ?_)
      rw [List.mem_singleton.mp hc]
      show 1 ≤ R.toNat
      omega
    · by_cases hlong : 262146 ≤ M.toNat
      · -- an incomplete frame may be longer than the buffer
        refine not_keepsBuffer_of_shift hlong (hscripted _ _ (by omega) fun c hc => ?_)
        rcases List.mem_append.mp hc with hone | htwo
        · rw [(List.mem_replicate.mp hone).2, Chunk.length_zeros]
          omega
        · rw [List.mem_singleton.mp htwo, Chunk.length_zeros]
          omega
      · -- frames fit, but not a chunk together with what is carried
        refine not_keepsBuffer_of_overflow (M := M) (n := min R.toNat 2147483647) (by omega)
          (by omega) (by omega) (hscripted _ _ (by omega) fun c hc => ?_)
        rcases List.mem_pair.mp hc with rfl | rfl
        · rw [Chunk.length_zeros]
          omega
        · rw [Chunk.length_zeros]
          omega
  · rintro hbound p rfl hheader chunks hchunks
    have hlt : p.headerLen.toNat < p.maxFrameLen.toNat := UInt32.lt_iff_toNat_lt.mp hheader
    have hpos : ∀ c ∈ chunks, 0 < c.bytes.length := fun c _ => List.length_pos_iff.mpr c.nonempty
    rcases hbound with hnone | ⟨hone, hmax⟩ | ⟨hmax, hsum⟩
    · cases chunks with
      | nil =>
        refine ⟨_, rfl, by simp [Session.fresh, Session.start], le_rfl, ?_⟩
        show (0 : ℤ) ≤ defaultMaxFrameLen
        decide
      | cons c cs =>
        have := hchunks c List.mem_cons_self
        have := hpos c List.mem_cons_self
        omega
    · -- one byte at a time fills the buffer and no more
      refine keepsBuffer_of_room (K := defaultMaxFrameLen) hheader hmax (by decide) le_rfl
        fun c hc => ?_
      have hbyte : c.bytes.length = 1 := by
        have := hchunks c hc
        have := hpos c hc
        omega
      exact ⟨hpos c hc, c.fits, by rw [hbyte]; decide, Or.inr ⟨hbyte, rfl⟩⟩
    · refine keepsBuffer_of_room (K := p.maxFrameLen.toNat - 1) hheader (by omega) (by omega)
        (by simp only [defaultMaxFrameLen]; omega) fun c hc => ?_
      have := hchunks c hc
      have := c.fits
      exact ⟨hpos c hc, c.fits, by omega, Or.inl (by omega)⟩

/-- Frames of 300000 bytes, and chunks of the same size at most. -/
def longFixedFrames : FramingParams UInt8 := ⟨none, 0, 300000, 0, 300000⟩

/-- A chunk of 290000 bytes is an incomplete frame, and is saved. -/
theorem longFixedFrames_save {data : List UInt8} (hdata : data.length = 290000) :
    ∃ o, recvSiDaqData (newSiDaqFramer.configure longFixedFrames) data [] = some o ∧
      Access.buff 0 290000 ∈ o.accesses := by
  have hlen : ∀ bs avail,
      (newSiDaqFramer.configure longFixedFrames).eventLen bs avail = (300000 : ℤ) := by
    intro bs avail
    rw [SiDaqFramer.eventLen_of_fixed rfl (by decide)]
    decide
  have hdecide : ∀ bs avail,
      (newSiDaqFramer.configure longFixedFrames).frameLen bs avail = (300000 : ℤ) := by
    intro bs avail
    rw [SiDaqFramer.frameLen, SiDaqFramer.frameLength_of_passes, hlen]
    · decide
    · rw [hlen]
      decide
    · rw [hlen]
      decide
  have hne : data ≠ [] := List.ne_nil_of_length_pos (by omega)
  have hheader : (newSiDaqFramer.configure longFixedFrames).headerLen = 0 :=
    show wrap32 0 = 0 by decide
  have hrun := @recvSiDaqData_save _ (newSiDaqFramer.configure longFixedFrames) data _ [] rfl hne
    (by rw [hheader]; omega) (by rw [hdecide, hdata]; decide)
  exact ⟨_, hrun, by simp [hdata]⟩

/-- The carry-over buffer has 262144 bytes. -/
theorem longFixedFrames_overruns :
    longFixedFrames.headerLen < longFixedFrames.maxFrameLen ∧
      (Chunk.zeros 290000 (by omega) (by omega)).bytes.length ≤ 300000 ∧
      ¬ KeepsBuffer longFixedFrames [.zeros 290000 (by omega) (by omega)] := by
  refine ⟨by decide, by rw [Chunk.length_zeros]; omega, ?_⟩
  rintro ⟨s, hs, hacc, -⟩
  let c : Chunk UInt8 := .zeros 290000 (by omega) (by omega)
  obtain ⟨o, ho, hmem⟩ := longFixedFrames_save (Chunk.length_zeros _ _ : c.bytes.length = _)
  have hrecv : (Session.fresh longFixedFrames).recv c = some ⟨o.framer, o.que, [] ++ o.accesses⟩ :=
    Session.recv_of_recvSiDaqData ho
  have hs' : (Session.fresh longFixedFrames).feed [c] = some s := hs
  simp only [Session.feed, hrecv, Option.bind_some, Option.some.injEq] at hs'
  have hbad := hacc (.buff 0 290000) (by rw [← hs']; exact List.mem_append_right _ hmem)
  exact absurd hbad.2.2 (by decide)

end SiDaqApi
