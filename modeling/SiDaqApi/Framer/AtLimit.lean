import SiDaqApi.Framer.Progress

/-!
# A call that reaches the event-queue limit

At the limit of the event queue the loop returns at once and drops what follows the frame that
reached it, while the carry-over phase records the limit and goes on. And where the length function
answers differently the second time, or `SiDaqRun` has written other framing arguments meanwhile,
the frame taken off the buffer may be shorter than the carried bytes: the others are gone, and the
loop starts in front of the chunk.

`limit_keeps_iff`: these are the two ways in which a call at the limit loses bytes, for every length
function and whatever an earlier run has left in the buffer.
-/

namespace SiDaqApi

open MachineInt

variable {α : Type*}

/-- The event-queue limit is recorded. -/
def RecordsLimit (es : List (Effect α)) : Prop := .exceedFrameQueueCount ∈ errors es

@[simp] theorem recordsLimit_nil : ¬ RecordsLimit ([] : List (Effect α)) := by
  simp [RecordsLimit, errors]

@[simp] theorem recordsLimit_append (es es' : List (Effect α)) :
    RecordsLimit (es ++ es') ↔ RecordsLimit es ∨ RecordsLimit es' := by
  simp [RecordsLimit]

/-- A length decision records other errors. -/
theorem SiDaqFramer.not_recordsLimit_length (fr : SiDaqFramer α) (bytes : List α) (avail : ℤ) :
    ¬ RecordsLimit (fr.lengthEffects bytes avail) :=
  fr.lengthEffects_not_limit bytes avail

/-- An `SQPut` records the limit when it gets there. -/
theorem SiDaqFramer.putEffects_limit_iff (fr : SiDaqFramer α) (eventLen : ℤ) (frame : List α)
    (count : ℕ) : RecordsLimit (fr.putEffects eventLen frame count) ↔ fr.atQueueLimit count := by
  simp only [SiDaqFramer.putEffects, if_neg (show ¬ (count : ℤ) < 0 by omega)]
  split
  · rename_i hfull
    exact iff_of_true (by simp [RecordsLimit, errors]) hfull
  · rename_i hfree
    exact iff_of_false (by simp [RecordsLimit, errors]) hfree

/-! ## The frame that fills the queue -/

/-- The loop takes frames off `bs` until one brings the event queue, which holds `count` before, to
its limit; `left` is what follows that frame. -/
inductive FillsQueue : SiDaqFramer α → ℕ → List α → List α → Prop
  | here {fr : SiDaqFramer α} {count n : ℕ} {bs : List α} (htakes : fr.Takes bs n)
      (hfull : (fr.after bs).atQueueLimit (count + 1 : ℕ)) : FillsQueue fr count bs (bs.drop n)
  | later {fr : SiDaqFramer α} {count n : ℕ} {bs left : List α} (htakes : fr.Takes bs n)
      (hfree : ¬ (fr.after bs).atQueueLimit (count + 1 : ℕ))
      (h : FillsQueue (fr.after bs) (count + 1) (bs.drop n) left) : FillsQueue fr count bs left

section Fills

variable {fr : SiDaqFramer α} {count n : ℕ} {bs left : List α}

theorem fillsQueue_iff_of_limit (htakes : fr.Takes bs n)
    (hfull : (fr.after bs).atQueueLimit (count + 1 : ℕ)) :
    FillsQueue fr count bs left ↔ left = bs.drop n := by
  constructor
  · intro h
    cases h with
    | here htakes' _ => rw [htakes.unique htakes']
    | later _ hfree _ => exact absurd hfull hfree
  · rintro rfl
    exact .here htakes hfull

theorem fillsQueue_iff_of_takes (htakes : fr.Takes bs n)
    (hfree : ¬ (fr.after bs).atQueueLimit (count + 1 : ℕ)) :
    FillsQueue fr count bs left ↔ FillsQueue (fr.after bs) (count + 1) (bs.drop n) left := by
  constructor
  · intro h
    cases h with
    | here _ hfull => exact absurd hfull hfree
    | later htakes' _ h => rwa [htakes.unique htakes']
  · exact .later htakes hfree

theorem not_fillsQueue_of_not_takes (hno : ∀ n, ¬ fr.Takes bs n) :
    ¬ FillsQueue fr count bs left := by
  intro h
  cases h with
  | here htakes _ => exact hno _ htakes
  | later htakes _ _ => exact hno _ htakes

end Fills

/-! ## What the loop is given -/

/-- The carry-over phase takes a frame of `n` bytes off the buffer. -/
structure SiDaqFramer.Carries (fr : SiDaqFramer α) (data : List α) (n : ℕ) : Prop where
  rest_pos : 0 < fr.rest
  fits : fr.rest ≤ fr.buffSize
  frameLen_eq : (fr.append data).frameLen (fr.held data) (fr.held data).length = n
  le : n ≤ (fr.held data).length

theorem SiDaqFramer.Carries.unique {fr : SiDaqFramer α} {data : List α} {m n : ℕ}
    (hm : fr.Carries data m) (hn : fr.Carries data n) : m = n := by
  have h := hm.frameLen_eq.symm.trans hn.frameLen_eq
  omega

section Bytes

variable [Inhabited α] {fr : SiDaqFramer α} {data : List α} {que : List (List α)}

/-- What the loop reads behind a frame of `n` bytes off the buffer. It is the rest of the chunk,
after what lies in front of the chunk if the frame is shorter than the carried bytes. -/
def SiDaqFramer.behind (fr : SiDaqFramer α) (data : List α) (n : ℕ) : List α :=
  chunkBytes data (n - fr.rest) (wrap32 (data.length - (n - fr.rest)))

/-- The loop of a call: its framer, the number of frames in the queue, and the bytes it is given. -/
inductive SiDaqFramer.Enters (fr : SiDaqFramer α) (count : ℕ) (data : List α) :
    SiDaqFramer α → ℕ → List α → Prop
  | all (h : fr.rest ≤ 0) : Enters fr count data fr count data
  | behind {n : ℕ} (h : fr.Carries data n) :
      Enters fr count data (fr.emptied data count) (count + 1) (fr.behind data n)

/-- A frame of the loop fills the queue, and `left` is what follows it. -/
def SiDaqFramer.FillsAndLeaves (fr : SiDaqFramer α) (count : ℕ) (data left : List α) : Prop :=
  ∃ fr' count' bs, fr.Enters count data fr' count' bs ∧ FillsQueue fr' count' bs left

/-- The call reaches the queue limit and loses bytes: the loop drops those behind the frame that
fills the queue, or the frame off the buffer is shorter than the carried bytes. -/
inductive SiDaqFramer.LosesAtLimit (fr : SiDaqFramer α) (count : ℕ) (data : List α) : Prop
  | dropped {left : List α} (h : fr.FillsAndLeaves count data left) (hne : left ≠ [])
  | shorter {n : ℕ} (h : fr.Carries data n) (hlt : n < fr.rest)
      (hlimit : (fr.emptied data count).atQueueLimit (count + 1 : ℕ) ∨
        ∃ left, fr.FillsAndLeaves count data left)

theorem chunkBytes_drop (data : List α) {off n len : ℤ} (h₀ : 0 ≤ n) (h₁ : n ≤ len) :
    (chunkBytes data off len).drop n.toNat = chunkBytes data (off + n) (len - n) := by
  apply List.ext_getElem
  · simp only [List.length_drop, length_chunkBytes]
    omega
  · intro i hi _
    have hindex : off + ((n.toNat + i : ℕ) : ℤ) = off + n + i := by omega
    simp only [chunkBytes, List.getElem_drop, List.getElem_map, List.getElem_range, hindex]

/-- Behind a frame with all carried bytes the loop gets the rest of the chunk. -/
theorem SiDaqFramer.behind_eq (hrest : 0 ≤ fr.rest) (hdata : data.length < 2147483648) {n : ℕ}
    (hoff : fr.rest ≤ n) (hle : n ≤ fr.rest + data.length) :
    fr.behind data n = data.drop (n - fr.rest.toNat) := by
  have hbase : (n : ℤ) - fr.rest = (n - fr.rest.toNat : ℕ) := by omega
  have hlen : wrap32 ((data.length : ℤ) - (n - fr.rest)) =
      (data.drop (n - fr.rest.toNat)).length := by
    rw [List.length_drop, wrap32_of_range (by omega) (by omega)]
    omega
  rw [SiDaqFramer.behind, hlen, hbase, chunkBytes_eq data (by rw [List.length_drop]; omega),
    List.take_length]

/-! ## The loop -/

theorem Locals.length_ahead (data : List α) (l : Locals α) {n : ℤ} (h : 0 ≤ n) :
    ((l.ahead data n).length : ℤ) = n := by
  rw [Locals.ahead, length_chunkBytes]
  omega

theorem Locals.after_ahead (data : List α) {l : Locals α} (h : 0 ≤ l.dataLen) :
    l.framer.after (l.ahead data l.dataLen) = (l.decision data).2 := by
  rw [SiDaqFramer.after, Locals.length_ahead data l h]
  rfl

/-- The bytes ahead tell whether the iteration takes a frame. -/
theorem Locals.HasHeader.takes_iff {l : Locals α} (h : l.HasHeader) {n : ℕ} :
    l.framer.Takes (l.ahead data l.dataLen) n ↔
      l.framer.frameLen (l.ahead data l.dataLen) l.dataLen = n ∧ n ≤ l.dataLen := by
  have hlen := Locals.length_ahead data l h.1.le
  constructor
  · rintro ⟨-, -, hn, hle⟩
    rw [hlen] at hn
    exact ⟨hn, by omega⟩
  · rintro ⟨hn, hle⟩
    have hpos := h.1
    exact ⟨List.ne_nil_of_length_pos (by omega), hlen.symm ▸ h.2, by rwa [hlen], by omega⟩

theorem Locals.Cuts.takes {l : Locals α} {n : ℤ} (h : l.Cuts data n) :
    l.framer.Takes (l.ahead data l.dataLen) n.toNat := by
  have hpos := h.pos
  have hle := h.le
  exact h.hasHeader.takes_iff.mpr ⟨by rw [h.frameLen_eq]; omega, by omega⟩

theorem Locals.Cuts.ahead_cut {l : Locals α} {n : ℤ} (h : l.Cuts data n) :
    (l.cut data n).ahead data (l.cut data n).dataLen = (l.ahead data l.dataLen).drop n.toNat :=
  (chunkBytes_drop data h.pos.le h.le).symm

/-- **The loop records the limit exactly when one of its frames fills the queue**, wherever it
stands. -/
theorem recvLoop_limit_iff (data : List α) {l : Locals α} (h : Looping l) {fuel : ℕ}
    (hfuel : l.dataLen.toNat + 2 ≤ fuel) :
    RecordsLimit (loopEffects data fuel l) ↔
      ∃ left, FillsQueue l.framer l.que.length (l.ahead data l.dataLen) left := by
  have hwalk : ∃ o, recvLoop data fuel l = some o ∧ (RecordsLimit (loopEffects data fuel l) ↔
      ∃ left, FillsQueue l.framer l.que.length (l.ahead data l.dataLen) left) := by
    apply recvLoop_walk (P := fun l es _ => RecordsLimit es ↔
      ∃ left, FillsQueue l.framer l.que.length (l.ahead data l.dataLen) left)
      ?stop ?full ?frame ?save h hfuel
    case stop =>
      intro l ret buff acc h hshort
      refine iff_of_false recordsLimit_nil ?_
      rintro ⟨left, hfills⟩
      refine not_fillsQueue_of_not_takes (fun n htakes => ?_) hfills
      have hheader := htakes.header_le
      have hpos := List.length_pos_iff.mpr htakes.nonempty
      rw [Locals.ahead, length_chunkBytes] at hheader hpos
      omega
    case full =>
      intro l n acc h hcuts hfull
      rw [← l.after_ahead data hcuts.hasHeader.1.le] at hfull
      refine iff_of_true ?_ ⟨_, .here hcuts.takes hfull⟩
      rw [Locals.cutEffects, recordsLimit_append, SiDaqFramer.putEffects_limit_iff,
        ← l.after_ahead data hcuts.hasHeader.1.le]
      exact Or.inr hfull
    case frame =>
      intro l n es o h hcuts hfree ih
      have hcount : (l.cut data n).que.length = l.que.length + 1 := by simp [Locals.cut]
      rw [← l.after_ahead data hcuts.hasHeader.1.le] at hfree
      have hframer : (l.cut data n).framer = l.framer.after (l.ahead data l.dataLen) :=
        (l.after_ahead data hcuts.hasHeader.1.le).symm
      rw [hcuts.ahead_cut, hcount, hframer] at ih
      simp only [fillsQueue_iff_of_takes hcuts.takes hfree, ← ih, Locals.cutEffects,
        recordsLimit_append, SiDaqFramer.putEffects_limit_iff,
        ← l.after_ahead data hcuts.hasHeader.1.le, Locals.lengthEffects, hfree,
        SiDaqFramer.not_recordsLimit_length, false_or]
    case save =>
      intro l ret buff acc h hheader hlt
      refine iff_of_false (l.framer.not_recordsLimit_length _ _) ?_
      rintro ⟨left, hfills⟩
      refine not_fillsQueue_of_not_takes (fun n htakes => ?_) hfills
      obtain ⟨hn, hle⟩ := hheader.takes_iff.mp htakes
      omega
  obtain ⟨o, -, hiff⟩ := hwalk
  exact hiff

omit [Inhabited α] in
theorem SiDaqFramer.restBytes_of_nonpos {fr : SiDaqFramer α} (h : fr.rest ≤ 0) :
    fr.restBytes = [] := by
  rw [← List.length_eq_zero_iff, fr.length_restBytes]
  omega

/-- From inside the chunk the loop keeps every byte exactly when nothing is left behind the frame
that fills the queue. -/
theorem recvLoop_keeps_iff (hdata : data.length < 2147483648) {fuel p : ℕ} {l : Locals α}
    {o : Outcome α} (hw : WellFormed l.framer) (htwo : l.framer.headerLen ≤ 2)
    (hrest : l.framer.rest ≤ 0) (h : AtPos data l p) (hrun : recvLoop data fuel l = some o) :
    o.que.flatten ++ o.framer.restBytes = l.que.flatten ++ data.drop p ↔
      ∀ left, FillsQueue l.framer l.que.length (data.drop p) left → left = [] := by
  refine recvLoop_induct
    (P := fun p l o => l.framer.headerLen ≤ 2 → l.framer.rest ≤ 0 →
      (o.que.flatten ++ o.framer.restBytes = l.que.flatten ++ data.drop p ↔
        ∀ left, FillsQueue l.framer l.que.length (data.drop p) left → left = []))
    ?short ?limit ?frame ?save hdata hw h hrun htwo hrest
  case short =>
    intro p l hw h hshort htwo hrest
    refine iff_of_true ?_ fun left hfills =>
      absurd hfills (not_fillsQueue_of_not_takes fun n htakes => ?_)
    · simp only [SiDaqFramer.restBytes, h.restBytes_short htwo hshort]
    · have hheader := htakes.header_le
      rcases hshort with hnil | hlt
      · exact htakes.nonempty hnil
      · omega
  case limit =>
    intro p l n hw h htakes hfull htwo hrest
    have hnone : { l.framer.after (data.drop p) with
        errorCode := .exceedFrameQueueCount }.restBytes = [] :=
      SiDaqFramer.restBytes_of_nonpos ((l.framer.frameLength_rest _ _).trans_le hrest)
    -- the frame at the limit is in the queue; what follows it is nowhere
    simp only [fillsQueue_iff_of_limit htakes hfull, forall_eq]
    rw [hnone]
    simp only [List.append_nil, List.flatten_append, List.flatten_singleton,
      List.append_cancel_left_eq]
    constructor
    · intro htake
      rw [← htake, List.drop_eq_nil_iff, List.length_take]
      exact min_le_left _ _
    · intro hnil
      exact List.take_of_length_le (List.drop_eq_nil_iff.mp hnil)
  case frame =>
    intro p l n o hw h htakes hfree hat ih htwo hrest
    have hsplit : l.que.flatten ++ data.drop p =
        (l.frame data p n).que.flatten ++ data.drop (p + n) := by
      simp only [Locals.frame, List.flatten_append, List.flatten_singleton, List.append_assoc]
      -- the frame has moved from the chunk to the queue
      rw [← List.drop_drop, List.take_append_drop]
    have hcount : (l.frame data p n).que.length = l.que.length + 1 := by simp [Locals.frame]
    simp only [fillsQueue_iff_of_takes htakes hfree, List.drop_drop]
    rw [hsplit, ← hcount]
    exact ih ((l.framer.frameLength_setup _ _).headerLen_le (by decide) htwo)
      ((l.framer.frameLength_rest _ _).trans_le hrest)
  case save =>
    intro p l hw h hne hheader hlt htwo hrest
    refine iff_of_true ?_ fun left hfills =>
      absurd hfills (not_fillsQueue_of_not_takes fun n htakes => ?_)
    · simp only [SiDaqFramer.restBytes, buffBytes_save]
    · have hframe := htakes.frameLen_eq
      have hle := htakes.le
      omega

/-! ## What is read in front of the chunk -/

/-- The access does not start in front of the chunk. -/
def Access.FromStart : Access → Prop
  | .chunk off _ => 0 ≤ off
  | .lengthFunc _ | .buff _ _ => True

instance : (a : Access) → Decidable a.FromStart
  | .chunk off _ => inferInstanceAs (Decidable (0 ≤ off))
  | .lengthFunc _ => inferInstanceAs (Decidable True)
  | .buff _ _ => inferInstanceAs (Decidable True)

theorem fromStart_append {as bs : List Access} (has : ∀ a ∈ as, a.FromStart)
    (hbs : ∀ b ∈ bs, b.FromStart) : ∀ a ∈ as ++ bs, a.FromStart :=
  List.forall_mem_append.mpr ⟨has, hbs⟩

omit [Inhabited α] in
theorem fromStart_chunkLenAccess (fr : SiDaqFramer α) (p : ℕ) (avail : ℤ) :
    ∀ a ∈ fr.chunkLenAccess p avail, a.FromStart := by
  intro a ha
  unfold SiDaqFramer.chunkLenAccess at ha
  split at ha
  · rcases List.mem_pair.mp ha with rfl | rfl
    · trivial
    · exact Int.natCast_nonneg p
  · simp at ha

omit [Inhabited α] in
theorem fromStart_carryAccesses (fr : SiDaqFramer α) (data : List α) :
    ∀ a ∈ fr.carryAccesses data, a.FromStart := by
  refine fromStart_append ?_ ?_
  · intro a ha
    rcases List.mem_pair.mp ha with rfl | rfl
    · exact le_refl (0 : ℤ)
    · trivial
  · intro a ha
    unfold SiDaqFramer.eventLenAccess at ha
    split at ha
    · rw [List.mem_singleton.mp ha]
      trivial
    · simp at ha

/-- From inside the chunk the loop goes forward. -/
theorem recvLoop_fromStart (hdata : data.length < 2147483648) {fuel p : ℕ} {l : Locals α}
    {o : Outcome α} (hw : WellFormed l.framer) (h : AtPos data l p)
    (hacc : ∀ a ∈ l.accesses, a.FromStart) (hrun : recvLoop data fuel l = some o) :
    ∀ a ∈ o.accesses, a.FromStart := by
  have hlen : ∀ (p : ℕ) (l : Locals α), (∀ a ∈ l.accesses, a.FromStart) →
      ∀ a ∈ l.lengthAccesses p, a.FromStart :=
    fun p l hacc => fromStart_append hacc (fromStart_chunkLenAccess l.framer p l.dataLen)
  refine recvLoop_induct (P := fun _ l o => (∀ a ∈ l.accesses, a.FromStart) →
    ∀ a ∈ o.accesses, a.FromStart) ?short ?limit ?frame ?save hdata hw h hrun hacc
  case short =>
    intro p l _ _ _ hacc
    refine fromStart_append hacc fun a ha => ?_
    rcases List.mem_pair.mp ha with rfl | rfl
    · exact Int.natCast_nonneg p
    · trivial
  case limit =>
    intro p l n _ _ _ _ hacc
    refine fromStart_append (hlen p l hacc) fun a ha => ?_
    rw [List.mem_singleton.mp ha]
    exact Int.natCast_nonneg p
  case frame =>
    intro p l n o _ _ _ _ _ ih hacc
    refine ih (fromStart_append (hlen p l hacc) fun a ha => ?_)
    rw [List.mem_singleton.mp ha]
    exact Int.natCast_nonneg p
  case save =>
    intro p l _ _ _ _ _ hacc
    refine fromStart_append (hlen p l hacc) fun a ha => ?_
    rcases List.mem_pair.mp ha with rfl | rfl
    · exact Int.natCast_nonneg p
    · trivial

/-- The accesses at the end of a part of the call. -/
def Flow.accesses : Flow α → Option (List Access)
  | .done o => some o.accesses
  | .next l => some l.accesses
  | .fault => none

/-- Where an iteration stands, there it reads. -/
theorem loopBody_reads (data : List α) (l : Locals α) {acc : List Access}
    (h : (loopBody data l).accesses = some acc) :
    l.accesses <+: acc ∧ ∀ p, l.readPtr = some p → ∃ len, .chunk p len ∈ acc := by
  unfold loopBody at h
  split at h
  · rename_i hnull
    obtain rfl := Option.some.inj h
    exact ⟨List.prefix_rfl, by simp [hnull]⟩
  rename_i p hp
  suffices hread : ∃ as len, acc = l.accesses ++ as ∧ Access.chunk p len ∈ as by
    obtain ⟨as, len, rfl, hmem⟩ := hread
    refine ⟨List.prefix_append _ _, fun p' hp' => ⟨len, ?_⟩⟩
    obtain rfl : p = p' := Option.some.inj (hp.symm.trans hp')
    exact List.mem_append_right _ hmem
  split at h
  · obtain rfl := Option.some.inj h
    exact ⟨_, 1, rfl, by simp⟩
  · simp only at h
    -- by how the iteration ends: a fault, no memory, a full queue, a frame, or no frame yet
    split at h
    · split at h
      · simp [Flow.accesses] at h
      · split at h
        · obtain rfl := Option.some.inj h
          exact ⟨_, _, List.append_assoc _ _ _, List.mem_append_right _ (List.mem_singleton.mpr rfl)⟩
        · split at h <;>
            (obtain rfl := Option.some.inj h
             exact ⟨_, _, List.append_assoc _ _ _,
               List.mem_append_right _ (List.mem_singleton.mpr rfl)⟩)
    · obtain rfl := Option.some.inj h
      exact ⟨_, _, List.append_assoc _ _ _, List.mem_append_right _ List.mem_cons_self⟩

theorem recvLoop_reads_at {fuel : ℕ} {l : Locals α} {o : Outcome α}
    (h : recvLoop data fuel l = some o) :
    l.accesses <+: o.accesses ∧ ∀ p, l.readPtr = some p → ∃ len, .chunk p len ∈ o.accesses := by
  induction fuel generalizing l with
  | zero => simp [recvLoop] at h
  | succ fuel ih =>
    simp only [recvLoop] at h
    split at h
    · rename_i o' ho'
      obtain rfl := Option.some.inj h
      exact loopBody_reads data l (by rw [ho']; rfl)
    · rename_i l' hl'
      have hbody : (loopBody data l).accesses = some l'.accesses := by rw [hl']; rfl
      obtain ⟨hpre, hread⟩ := loopBody_reads data l hbody
      obtain ⟨hpre', -⟩ := ih h
      refine ⟨hpre.trans hpre', fun p hp => ?_⟩
      obtain ⟨len, hmem⟩ := hread p hp
      exact ⟨len, hpre'.subset hmem⟩
    · simp at h

/-! ## The carry-over phase -/

omit [Inhabited α] in
theorem SiDaqFramer.emptied_setup (fr : SiDaqFramer α) (data : List α) (count : ℕ) :
    SameSetup fr (fr.emptied data count) := by
  have h := (fr.append data).frameLength_setup (fr.held data) (fr.held data).length
  exact ⟨h.errorFlg, h.queueLimit, h.maxFrameLen, h.buffSize, h.headerLen⟩

/-- It takes the frame and goes on behind it. -/
theorem SiDaqFramer.Carries.carryOver {n : ℕ} (hn : fr.Carries data n) (hw : WellFormed fr)
    (hdata : data.length < 2147483648) (que : List (List α)) :
    ∃ l, carryOver fr data que = .next l ∧ l.que = que ++ [(fr.held data).take n] ∧
      l.framer = fr.emptied data que.length ∧ l.accesses = fr.carryAccesses data ∧
      (l.readPtr = some (n - fr.rest) ∧ l.dataLen = wrap32 (data.length - (n - fr.rest)) ∧
          n - fr.rest < data.length ∨
        l.readPtr = none ∧ data.length ≤ n - fr.rest) := by
  have hfit := hn.fits
  rw [hw.size] at hfit
  simp only [defaultMaxFrameLen] at hfit
  obtain ⟨l, hl, hque, hframer, hacc, -, hat⟩ :=
    carryOver_takes que hn.rest_pos.le hn.fits hdata hn.frameLen_eq hn.le (by omega)
  rw [hque, List.length_append, List.length_singleton] at hframer
  refine ⟨l, hl, hque, hframer, hacc, hat.imp_right fun h => ⟨h.1, h.2.2⟩⟩

/-- It records the limit exactly when its frame fills the queue. -/
theorem carryEffects_limit_iff (hw : WellFormed fr) (hpos : 0 < fr.rest)
    (hfit : fr.rest ≤ fr.buffSize) (data : List α) (que : List (List α)) :
    RecordsLimit (carryEffects fr data que) ↔
      ∃ n, fr.Carries data n ∧ (fr.emptied data que.length).atQueueLimit (que.length + 1 : ℕ) := by
  cases carryTurn hw hpos hfit data que with
  | frame n l carryLen hn le body framer que_eq more effects =>
    have hcarries : fr.Carries data n.toNat :=
      ⟨hpos, hfit, by rw [Int.toNat_of_nonneg hn.le]; exact carryLen, by omega⟩
    rw [effects, recordsLimit_append, SiDaqFramer.putEffects_limit_iff]
    constructor
    · rintro (hlen | hfull)
      · exact absurd hlen (SiDaqFramer.not_recordsLimit_length _ _ _)
      · exact ⟨_, hcarries, hfull⟩
    · rintro ⟨-, -, hfull⟩
      exact Or.inr hfull
  | save l lt body framer que_eq null effects =>
    rw [effects]
    refine iff_of_false (SiDaqFramer.not_recordsLimit_length _ _ _) ?_
    rintro ⟨n, hn, -⟩
    have hlen : fr.carryLen data = n := hn.frameLen_eq
    have hle := hn.le
    omega

/-- Without a frame off the buffer there is no loop. -/
theorem carryOver_null (hw : WellFormed fr) (hpos : 0 < fr.rest) (hfit : fr.rest ≤ fr.buffSize)
    (hno : ∀ n, ¬ fr.Carries data n) {l : Locals α} (hl : carryOver fr data que = .next l) :
    l.readPtr = none := by
  cases carryTurn hw hpos hfit data que with
  | frame n l' carryLen hn le body framer que_eq more effects =>
    refine absurd ?_ (hno n.toNat)
    exact ⟨hpos, hfit, by rw [Int.toNat_of_nonneg hn.le]; exact carryLen, by omega⟩
  | save l' lt body framer que_eq null effects =>
    obtain rfl := Flow.next.inj (hl.symm.trans body)
    exact null

/-! ## A call -/

theorem SiDaqFramer.Enters.unique {count c₁ c₂ : ℕ} {fr₁ fr₂ : SiDaqFramer α} {bs₁ bs₂ : List α}
    (h₁ : fr.Enters count data fr₁ c₁ bs₁) (h₂ : fr.Enters count data fr₂ c₂ bs₂) :
    fr₁ = fr₂ ∧ c₁ = c₂ ∧ bs₁ = bs₂ := by
  cases h₁ with
  | all hzero =>
    cases h₂ with
    | all => exact ⟨rfl, rfl, rfl⟩
    | behind h => exact absurd h.rest_pos (not_lt.mpr hzero)
  | behind h =>
    cases h₂ with
    | all hzero => exact absurd h.rest_pos (not_lt.mpr hzero)
    | behind h' =>
      rw [h.unique h']
      exact ⟨rfl, rfl, rfl⟩

theorem SiDaqFramer.Enters.fillsAndLeaves_iff {count c : ℕ} {fr' : SiDaqFramer α} {bs left : List α}
    (h : fr.Enters count data fr' c bs) :
    fr.FillsAndLeaves count data left ↔ FillsQueue fr' c bs left := by
  constructor
  · rintro ⟨fr'', c', bs', h', hfills⟩
    obtain ⟨rfl, rfl, rfl⟩ := h.unique h'
    exact hfills
  · exact fun hfills => ⟨_, _, _, h, hfills⟩

/-- **A call records the limit** exactly when the frame off the buffer or one of the loop's fills
the queue. -/
theorem recvSiDaqData_limit_iff (hw : WellFormed fr) (hdata : data.length < 2147483648)
    (que : List (List α)) :
    RecordsLimit (recvEffects fr data que) ↔
      (∃ n, fr.Carries data n ∧ (fr.emptied data que.length).atQueueLimit (que.length + 1 : ℕ)) ∨
        ∃ left, fr.FillsAndLeaves que.length data left := by
  by_cases hpos : 0 < fr.rest
  · by_cases hfit : fr.rest ≤ fr.buffSize
    · obtain ⟨l, hl, -, hloop⟩ := hw.carryOver hpos hfit data que
      simp only [recvEffects, if_pos hpos, hl, recordsLimit_append,
        carryEffects_limit_iff hw hpos hfit]
      refine or_congr_right ?_
      by_cases hcarries : ∃ n, fr.Carries data n
      · obtain ⟨n, hn⟩ := hcarries
        obtain ⟨l', hl', hque, hframer, -, hat⟩ := hn.carryOver hw hdata que
        obtain rfl := Flow.next.inj (hl.symm.trans hl')
        simp only [(SiDaqFramer.Enters.behind hn).fillsAndLeaves_iff]
        rcases hat with ⟨hp, hlen, -⟩ | ⟨hnull, hall⟩
        · obtain ⟨hlooping, hfuel⟩ := hloop.resolve_left (by simp [hp])
          have hahead : l.ahead data l.dataLen = fr.behind data n := by
            rw [Locals.ahead, hp, hlen]
            rfl
          rw [recvLoop_limit_iff data hlooping (by omega), hahead, hframer, hque,
            List.length_append, List.length_singleton]
        · -- the chunk ends with the frame
          have hheld := SiDaqFramer.length_held data hpos.le
          have hcopied := fr.length_copied_le data
          have hle := hn.le
          have hnil : fr.behind data n = [] := by
            rw [SiDaqFramer.behind_eq hpos.le hdata (by omega) (by omega)]
            exact List.drop_eq_nil_of_le (by omega)
          rw [loopEffects_of_null hnull, hnil]
          refine iff_of_false recordsLimit_nil ?_
          rintro ⟨left, hfills⟩
          exact not_fillsQueue_of_not_takes (fun m htakes => htakes.nonempty rfl) hfills
      · rw [loopEffects_of_null (carryOver_null hw hpos hfit (not_exists.mp hcarries) hl)]
        refine iff_of_false recordsLimit_nil ?_
        rintro ⟨left, fr', count', bs, hzero | hn, -⟩
        · omega
        · exact hcarries ⟨_, hn⟩
    · -- more is carried than the buffer holds: another error
      have hover : fr.buffSize - fr.rest < 0 := by omega
      simp only [recvEffects, if_pos hpos, carryEffects, carryOver, if_pos hover, List.append_nil]
      refine iff_of_false (by simp [RecordsLimit, errors]) ?_
      rintro (⟨n, hn, -⟩ | ⟨left, fr', count', bs, hzero | hn, -⟩)
      · exact hfit hn.fits
      · omega
      · exact hfit hn.fits
  · have hzero : fr.rest ≤ 0 := not_lt.mp hpos
    have hahead : (Locals.start fr data que).ahead data data.length = data := by
      have hall := chunkBytes_eq data (p := 0) (n := data.length) (by omega)
      rw [List.drop_zero, List.take_length] at hall
      exact hall
    simp only [recvEffects, if_neg hpos, (SiDaqFramer.Enters.all hzero).fillsAndLeaves_iff]
    rw [recvLoop_limit_iff data (Looping.start hw hdata que) (by simp only [Locals.start]; omega),
      show (Locals.start fr data que).dataLen = data.length from rfl, hahead]
    refine ⟨Or.inr, fun h => h.resolve_left ?_⟩
    rintro ⟨n, hn, -⟩
    exact hpos hn.rest_pos

/-- Nothing is lost in a call: the new frames and then the carried bytes are what was carried before
and the chunk, and no byte comes from in front of the chunk. -/
structure Outcome.Keeps (o : Outcome α) (fr : SiDaqFramer α) (data : List α)
    (que : List (List α)) : Prop where
  bytes : ∃ frames, o.que = que ++ frames ∧
    frames.flatten ++ o.framer.restBytes = fr.restBytes ++ data
  fromStart : ∀ a ∈ o.accesses, a.FromStart

omit [Inhabited α] in
theorem Outcome.bytes_iff {o : Outcome α} (h : que <+: o.que) (bs : List α) :
    (∃ frames, o.que = que ++ frames ∧ frames.flatten ++ o.framer.restBytes = bs) ↔
      o.que.flatten ++ o.framer.restBytes = que.flatten ++ bs := by
  obtain ⟨frames, hframes⟩ := h
  rw [← hframes]
  simp [List.flatten_append]

/-- A loop inside the chunk, which is given all bytes that are not in the queue. -/
theorem AtPos.keeps_iff (hdata : data.length < 2147483648) {fuel p : ℕ} {l : Locals α}
    {o : Outcome α} (hat : AtPos data l p) (hw : WellFormed l.framer) (htwo : l.framer.headerLen ≤ 2)
    (hrest : l.framer.rest ≤ 0) (hfrom : ∀ a ∈ l.accesses, a.FromStart)
    (hflat : l.que.flatten ++ data.drop p = que.flatten ++ (fr.restBytes ++ data))
    (hque : que <+: l.que) (hrun : recvLoop data fuel l = some o) :
    o.Keeps fr data que ↔
      ∀ left, FillsQueue l.framer l.que.length (data.drop p) left → left = [] := by
  have hque' : que <+: o.que := hque.trans ⟨_, (recvLoop_explains hrun).que_eq.symm⟩
  rw [← recvLoop_keeps_iff hdata hw htwo hrest hat hrun, hflat, ← Outcome.bytes_iff hque']
  exact ⟨fun h => h.bytes, fun h => ⟨h, recvLoop_fromStart hdata hw hat hfrom hrun⟩⟩

/-- **A call that records the limit keeps every byte** exactly when the frame off the buffer has all
carried bytes, and nothing follows the frame of the loop that fills the queue. -/
theorem recvSiDaqData_keeps_iff (hw : WellFormed fr) (htwo : fr.headerLen ≤ 2)
    (hdata : data.length < 2147483648) {o : Outcome α} (ho : recvSiDaqData fr data que = some o)
    (hlimit : RecordsLimit (recvEffects fr data que)) :
    o.Keeps fr data que ↔ (∀ n, fr.Carries data n → fr.rest ≤ n) ∧
      ∀ left, fr.FillsAndLeaves que.length data left → left = [] := by
  by_cases hpos : 0 < fr.rest
  · -- only a frame off the buffer leads to the limit then
    obtain ⟨n, hn⟩ : ∃ n, fr.Carries data n := by
      rcases (recvSiDaqData_limit_iff hw hdata que).mp hlimit with
        ⟨n, hn, -⟩ | ⟨left, fr', count', bs, hzero | hn, -⟩
      · exact ⟨n, hn⟩
      · omega
      · exact ⟨_, hn⟩
    obtain ⟨l, hl, hque, hframer, hacc, hat⟩ := hn.carryOver hw hdata que
    obtain ⟨l', hl', hwell, -⟩ := hw.carryOver hpos hn.fits data que
    obtain rfl := Flow.next.inj (hl'.symm.trans hl)
    simp only [recvSiDaqData, if_pos hpos, hl] at ho
    have hcarries : (∀ m, fr.Carries data m → fr.rest ≤ m) ↔ fr.rest ≤ n :=
      ⟨fun h => h n hn, fun h m hm => hm.unique hn ▸ h⟩
    simp only [hcarries, (SiDaqFramer.Enters.behind hn).fillsAndLeaves_iff]
    by_cases hshort : (n : ℤ) < fr.rest
    · -- the loop starts in front of the chunk, and reads there
      obtain ⟨hp, -, -⟩ := hat.resolve_right fun h => by omega
      obtain ⟨-, hread⟩ := recvLoop_reads_at ho
      obtain ⟨len, hmem⟩ := hread _ hp
      refine iff_of_false (fun hkeeps => ?_) fun h => by omega
      have hfrom : (0 : ℤ) ≤ n - fr.rest := hkeeps.fromStart _ hmem
      omega
    · have hoff : fr.rest ≤ n := not_lt.mp hshort
      have hheld := SiDaqFramer.length_held data hpos.le
      have hcopied := fr.length_copied_le data
      have hle := hn.le
      have hfrom : ∀ a ∈ l'.accesses, a.FromStart := hacc ▸ fromStart_carryAccesses fr data
      have hflat : l'.que.flatten ++ data.drop (n - fr.rest.toNat) =
          que.flatten ++ (fr.restBytes ++ data) := by
        rw [hque, ← SiDaqFramer.take_held_append_drop hpos.le data hoff hn.le]
        simp
      have hcount : l'.que.length = que.length + 1 := by rw [hque]; simp
      rw [SiDaqFramer.behind_eq hpos.le hdata hoff (by omega), and_iff_right hoff, ← hframer,
        ← hcount]
      rcases hat with ⟨hp, hlen, hmore⟩ | ⟨hnull, hall⟩
      · have hat : AtPos data l' (n - fr.rest.toNat) := by
          refine ⟨by rw [hp, Option.some.injEq]; omega, by omega, ?_⟩
          rw [hlen, wrap32_of_range (by omega) (by omega), List.length_drop]
          omega
        refine hat.keeps_iff hdata hwell ?_ (by rw [hframer]; exact le_rfl) hfrom hflat
          ⟨_, hque.symm⟩ ho
        rw [hframer]
        exact (fr.emptied_setup data que.length).headerLen_le (by decide) htwo
      · -- the chunk ends with the frame
        have hnil : data.drop (n - fr.rest.toNat) = [] := List.drop_eq_nil_of_le (by omega)
        rw [recvLoop_of_done (loopBody_null hnull)] at ho
        obtain rfl := Option.some.inj ho
        rw [hnil] at hflat ⊢
        refine iff_of_true ⟨?_, hfrom⟩ fun left hfills =>
          absurd hfills (not_fillsQueue_of_not_takes fun m htakes => htakes.nonempty rfl)
        rw [Outcome.bytes_iff ⟨_, hque.symm⟩, ← hflat, hframer]
        rfl
  · have hzero : fr.rest ≤ 0 := not_lt.mp hpos
    have hcarries : ∀ m, fr.Carries data m → fr.rest ≤ m := fun m hm => absurd hm.rest_pos hpos
    simp only [recvSiDaqData, if_neg hpos] at ho
    simp only [(SiDaqFramer.Enters.all hzero).fillsAndLeaves_iff, and_iff_right hcarries]
    have hat : AtPos data (.start fr data que) 0 := ⟨rfl, by omega, rfl⟩
    refine hat.keeps_iff hdata hw htwo hzero (by simp [Locals.start]) ?_ List.prefix_rfl ho
    rw [SiDaqFramer.restBytes_of_nonpos hzero]
    rfl

end Bytes

/-! ## Every framer in use -/

/-- The states of a framer in use, whatever an earlier run has left in its buffer: `SiDaqRun`
configures it and keeps `_rest`, `RecvSiDaqData` is called, each time on any event queue, and the
framer thread puts the rest frame and writes the error fields. -/
inductive FramingParams.InUse [Inhabited α] (p : FramingParams α) : SiDaqFramer α → Prop
  | configure (fr : SiDaqFramer α) (hsize : fr.buffSize = defaultMaxFrameLen) :
      InUse p (fr.configure p)
  | recv {fr : SiDaqFramer α} (h : InUse p fr) (c : Chunk α) (que : List (List α))
      {o : Outcome α} (ho : recvSiDaqData fr c.bytes que = some o) : InUse p o.framer
  | putRest {fr : SiDaqFramer α} (h : InUse p fr) : InUse p { fr with rest := 0 }
  | errors {fr : SiDaqFramer α} (h : InUse p fr) (flg : ℤ) (code : FramerErrorCode) :
      InUse p { fr with errorFlg := flg, errorCode := code }

section InUse

variable [Inhabited α] {p : FramingParams α} {fr : SiDaqFramer α}

theorem FramingParams.InUse.wellFormed (hp : p.Sized) (h : p.InUse fr) : WellFormed fr := by
  induction h with
  | configure fr hsize => exact .configure hp hsize
  | recv _ c que ho ih =>
    obtain ⟨o, ho', hwell⟩ := ih.recvSiDaqData c.fits que
    obtain rfl := Option.some.inj (ho.symm.trans ho')
    exact hwell
  | putRest _ ih => exact ih.congr rfl rfl rfl rfl
  | errors _ _ _ ih => exact ih.congr rfl rfl rfl rfl

theorem FramingParams.InUse.headerLen_le (hp : p.Sized) (htwo : p.headerLen.toNat ≤ 2)
    (h : p.InUse fr) : fr.headerLen ≤ 2 := by
  induction h with
  | configure fr hsize =>
    rw [SiDaqFramer.configure_headerLen fr hp]
    omega
  | recv _ c que ho ih => exact (recvSiDaqData_setup ho).headerLen_le (by decide) ih
  | putRest _ ih => exact ih
  | errors _ _ _ ih => exact ih

/-- **A call that records the event-queue limit keeps every byte, if and only if** the loop has no
bytes left behind the frame that fills the queue, and the frame off the buffer is not shorter than
the carried bytes when it or one of the loop's fills the queue. -/
theorem limit_keeps_iff (hp : p.Sized) (htwo : p.headerLen.toNat ≤ 2) (hfr : p.InUse fr)
    (que : List (List α)) (c : Chunk α) :
    (∃ o, recvSiDaqData fr c.bytes que = some o ∧
      (RecordsLimit (recvEffects fr c.bytes que) → o.Keeps fr c.bytes que)) ↔
    ¬ fr.LosesAtLimit que.length c.bytes := by
  have hw := hfr.wellFormed hp
  obtain ⟨o, ho, -⟩ := hw.recvSiDaqData c.fits que
  have hlimit := recvSiDaqData_limit_iff hw c.fits que
  have hkeeps := recvSiDaqData_keeps_iff hw (hfr.headerLen_le hp htwo) c.fits ho
  simp only [ho, Option.some.injEq, exists_eq_left']
  constructor
  · rintro h (⟨hleaves, hne⟩ | ⟨hn, hlt, hfull | hleaves⟩)
    · have hrec := hlimit.mpr (Or.inr ⟨_, hleaves⟩)
      exact hne (((hkeeps hrec).mp (h hrec)).2 _ hleaves)
    · have hrec := hlimit.mpr (Or.inl ⟨_, hn, hfull⟩)
      exact absurd (((hkeeps hrec).mp (h hrec)).1 _ hn) (not_le.mpr hlt)
    · have hrec := hlimit.mpr (Or.inr hleaves)
      exact absurd (((hkeeps hrec).mp (h hrec)).1 _ hn) (not_le.mpr hlt)
  · intro hno hrec
    refine (hkeeps hrec).mpr ⟨fun n hn => ?_, fun left hleaves => ?_⟩
    · by_contra hlt
      refine hno (.shorter hn (not_le.mp hlt) ?_)
      exact (hlimit.mp hrec).imp_left fun ⟨_, _, hfull⟩ => hfull
    · by_contra hne
      exact hno (.dropped hleaves hne)

end InUse

/-- A header of one byte that holds the payload length, and an event queue for one frame. -/
def oneFrameQueue : FramingParams UInt8 := { byteHeader with frameQueueLimit := 1 }

theorem oneFrameQueue_sized : oneFrameQueue.Sized :=
  ⟨byteHeader_fits.accepted, byteHeader_fits.max_le⟩

/-- An earlier run has left two bytes of a frame of six. -/
def leftOver : SiDaqFramer UInt8 :=
  { (newSiDaqFramer : SiDaqFramer UInt8) with
    rest := 2
    buffPtr := fun i => if i = 0 then 5 else 6 }.configure oneFrameQueue

/-- The frame off the buffer is at the limit, and so is the one behind it, with which the chunk
ends. -/
theorem leftOver_keeps :
    RecordsLimit (recvEffects leftOver (Chunk.of [7, 8, 9, 10, 1, 11]).bytes []) ∧
      ¬ leftOver.LosesAtLimit 0 (Chunk.of [7, 8, 9, 10, 1, 11]).bytes := by
  refine ⟨by unfold RecordsLimit; decide, ?_⟩
  refine (limit_keeps_iff oneFrameQueue_sized (by decide) (.configure _ rfl) [] _).mp
    ⟨_, rfl, fun _ => ⟨⟨[[5, 6, 7, 8, 9, 10], [1, 11]], by decide, by decide⟩, by decide⟩⟩

/-- The limit is reached at the first of two frames: the second one is gone. -/
theorem oneFrameQueue_loses :
    oneFrameQueue.Sized ∧ oneFrameQueue.headerLen.toNat ≤ 2 ∧ oneFrameQueue.frameQueueLimit ≠ 0 ∧
      oneFrameQueue.InUse (newSiDaqFramer.configure oneFrameQueue) ∧
      RecordsLimit (recvEffects (newSiDaqFramer.configure oneFrameQueue) [1, 9, 1, 8] []) ∧
      ∃ o, recvSiDaqData (newSiDaqFramer.configure oneFrameQueue) [1, 9, 1, 8] [] = some o ∧
        o.que = [[1, 9]] ∧ o.framer.restBytes = [] :=
  ⟨oneFrameQueue_sized, by decide, by decide, .configure _ rfl, by unfold RecordsLimit; decide,
    _, rfl, by decide, by decide⟩

/-- The length function takes its answer back: of the carried bytes `05 06` the second one is gone,
and a byte from in front of the chunk is carried in its place. -/
example :
    ((Session.fresh { scripted (fun d => if d = 0 then 2 else if d = 1 then 0 else 5) 262144 with
      frameQueueLimit := 1 }).feed [.of [5, 6], .of [7]]).map
        (fun s => (s.que, s.framer.restBytes, s.framer.errorCode)) =
      some ([[5]], [0, 7], .exceedFrameQueueCount) := by
  decide

end SiDaqApi
