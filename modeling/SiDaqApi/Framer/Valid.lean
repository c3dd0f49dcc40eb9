import SiDaqApi.Framer.Greedy

/-!
# Valid streams

A stream of valid frames should never make the framer report an error, and the caller's length
function should never be asked about fewer bytes than a header has. The loop tests the number of
bytes before it asks; the carry-over phase asks about whatever the carried bytes and the chunk come
to. With a header of at most two bytes that is always enough (`recvSiDaqData_guarded`). With a longer
header, two chunks of one byte already make a valid stream fail (`never_fails_iff`).
-/

namespace SiDaqApi

open MachineInt Segment

variable {α : Type*}

/-! ## What the length function is asked about -/

/-- Every call of the length function is told of at least `H` bytes. -/
def ToldAtLeast (H : ℤ) (accesses : List Access) : Prop :=
  ∀ n, Access.lengthFunc n ∈ accesses → H ≤ n

theorem ToldAtLeast.append {H : ℤ} {as bs : List Access} (ha : ToldAtLeast H as)
    (hb : ToldAtLeast H bs) :
    ToldAtLeast H (as ++ bs) := by
  intro n hn
  rcases List.mem_append.mp hn with h | h
  · exact ha n h
  · exact hb n h

theorem toldAtLeast_of_moves {H : ℤ} (p n q m : ℤ) : ToldAtLeast H [.chunk p n, .buff q m] := by
  simp [ToldAtLeast]

theorem toldAtLeast_of_chunk {H : ℤ} (p n : ℤ) : ToldAtLeast H [.chunk p n] := by
  simp [ToldAtLeast]

/-- If the framer asks the length function at all, its header has at least `H` bytes. -/
def SiDaqFramer.AsksFor (H : ℤ) (fr : SiDaqFramer α) : Prop :=
  fr.headerMode ≠ none → H ≤ fr.headerLen

section Asks

variable {H : ℤ} {fr fr' : SiDaqFramer α}

theorem SiDaqFramer.AsksFor.of_eq (ha : fr.AsksFor H) (hfun : fr'.lengthFunc = fr.lengthFunc)
    (hlen : fr'.headerLen = fr.headerLen) : fr'.AsksFor H := by
  intro hmode
  rw [hlen]
  refine ha ?_
  simpa only [SiDaqFramer.headerMode, hfun, hlen] using hmode

theorem SiDaqFramer.AsksFor.frameLength (ha : fr.AsksFor H) (hw : WellFormed fr) (bytes : List α)
    {avail : ℤ} (h₀ : 0 ≤ avail) (h₁ : avail < 2147483648) :
    (fr.frameLength bytes avail).2.AsksFor H := by
  rcases SiDaqFramer.frameLength_snd hw.ranged bytes h₀ h₁ with h | ⟨code, -, h⟩
  · rw [h]
    exact ha.of_eq rfl rfl
  · rw [h]
    intro hmode
    simp [SiDaqFramer.headerMode, SiDaqFramer.putNull] at hmode

theorem SiDaqFramer.AsksFor.guarded (ha : fr.AsksFor H) {avail : ℤ}
    (hle : fr.headerLen ≤ avail) : ToldAtLeast H (fr.eventLenAccess avail) := by
  intro n hn
  cases hmode : fr.headerMode with
  | none => simp [SiDaqFramer.eventLenAccess, hmode] at hn
  | some f =>
    have hH := ha (by simp [hmode])
    have heq : n = avail := by simpa [SiDaqFramer.eventLenAccess, hmode] using hn
    omega

theorem SiDaqFramer.AsksFor.guarded_chunk (ha : fr.AsksFor H) (p : ℤ) {avail : ℤ}
    (hle : fr.headerLen ≤ avail) : ToldAtLeast H (fr.chunkLenAccess p avail) := by
  intro n hn
  refine ha.guarded hle n ?_
  cases hmode : fr.headerMode with
  | none => simp [SiDaqFramer.chunkLenAccess, hmode] at hn
  | some f => simpa [SiDaqFramer.chunkLenAccess, SiDaqFramer.eventLenAccess, hmode] using hn

end Asks

section Calls

variable [Inhabited α] {H : ℤ} {data : List α}

/-- The loop asks about a whole header or more: it tests `data_len < _header_len` first. -/
theorem recvLoop_guarded {l : Locals α} {p : ℕ} (hw : WellFormed l.framer)
    (ha : l.framer.AsksFor H) (h : AtPos data l p) (hdata : data.length < 2147483648)
    (hacc : ToldAtLeast H l.accesses) {fuel : ℕ} {o : Outcome α}
    (hrun : recvLoop data fuel l = some o) : ToldAtLeast H o.accesses := by
  induction fuel generalizing l p with
  | zero => simp [recvLoop] at hrun
  | succ fuel ih =>
    have hsmall : ((data.drop p).length : ℤ) < 2147483648 := by
      rw [List.length_drop]
      omega
    by_cases hshort : data.drop p = [] ∨ ((data.drop p).length : ℤ) < l.framer.headerLen
    · rw [recvLoop_of_done (loopBody_short h hshort), Option.some.injEq] at hrun
      subst hrun
      exact hacc.append (toldAtLeast_of_moves _ _ _ _)
    · rw [not_or, not_lt] at hshort
      obtain ⟨hne, hheader⟩ := hshort
      have hpos := List.length_pos_iff.mpr hne
      have hlengths : ToldAtLeast H (l.lengthAccesses p) :=
        hacc.append (ha.guarded_chunk _ (by rw [h.dataLen]; exact hheader))
      have hframe := SiDaqFramer.frameLen_pos hw.ranged (data.drop p) (by omega) hsmall
      obtain ⟨n, hn⟩ := Int.eq_ofNat_of_zero_le hframe.le
      by_cases hle : n ≤ (data.drop p).length
      · -- a complete frame
        have hbody := loopBody_frame h hdata hne hheader hn hle
        have hque := hlengths.append (toldAtLeast_of_chunk p n)
        simp only at hbody
        split at hbody
        · rw [recvLoop_of_done hbody, Option.some.injEq] at hrun
          subst hrun
          exact hque
        · have hp := h.le
          rw [List.length_drop] at hle
          rw [recvLoop_of_next hbody] at hrun
          exact ih (p := p + n) (hw.frameLength _ (by omega) hsmall)
            (ha.frameLength hw _ (by omega) hsmall) ⟨rfl, by omega, rfl⟩ hque hrun
      · -- an incomplete frame, saved; the next iteration ends the loop
        rw [recvLoop_of_next (loopBody_save h hne hheader (by omega))] at hrun
        cases fuel with
        | zero => simp [recvLoop] at hrun
        | succ fuel =>
          rw [recvLoop_of_done (loopBody_null rfl), Option.some.injEq] at hrun
          subst hrun
          exact hlengths.append (toldAtLeast_of_moves _ _ _ _)

omit [Inhabited α] in
/-- The framer that the loop is handed asks no other length function. -/
theorem SiDaqFramer.Hands.asksFor {fr fr' : SiDaqFramer α} {count count' : ℕ} {bs : List α}
    (h : fr.Hands count data fr' count' bs) (hr : Steady fr) (ha : fr.AsksFor H) :
    fr'.AsksFor H := by
  cases h with
  | all h => exact ha
  | behind h hne =>
    have happ : (fr.append data).AsksFor H := ha.of_eq rfl rfl
    exact (happ.frameLength (hr.toRuled.append data).toWellFormed (fr.held data) (by omega)
      (hr.length_held_small data)).of_eq rfl rfl

/-- A call asks about a whole header or more, when the header has at most two bytes: the carry-over
phase has a carried byte and a byte of the chunk. -/
theorem recvSiDaqData_guarded {fr : SiDaqFramer α} (hr : Ready fr) (ha : fr.AsksFor H)
    (hdata : data.length < 2147483648) (hne : data ≠ []) {que : List (List α)} {o : Outcome α}
    (hrun : recvSiDaqData fr data que = some o) : ToldAtLeast H o.accesses := by
  have hcarry : 0 < fr.rest → ToldAtLeast H (fr.carryAccesses data) := by
    intro hpos
    have hmax := hr.rest_lt
    have hcap := hr.max_le
    have hsize := hr.size
    have htwo := hr.header_le
    have hheld := SiDaqFramer.length_held data hr.rest_nonneg
    have hone : 1 ≤ (fr.copied data).length := SiDaqFramer.length_copied_pos (by omega) hne
    exact (toldAtLeast_of_moves _ _ _ _).append (ha.guarded (by omega))
  rcases recvSiDaqData_steady hr.steady hdata hrun with
    ⟨l, p, fuel, hhands, hruled, -, -, hat, -, -, hacc, hloop⟩ | ⟨hnone, -, hacc, -, -⟩
  · refine recvLoop_guarded hruled.toWellFormed (hhands.asksFor hr.steady ha) hat hdata ?_ hloop
    rw [hacc]
    split
    · rename_i hpos
      exact hcarry hpos
    · simp [ToldAtLeast]
  · rw [hacc]
    refine hcarry (lt_of_le_of_ne hr.rest_nonneg fun hzero => ?_)
    exact hnone fr que.length data (.all hzero.symm)

end Calls

/-! ## Frames and streams -/

/-- A frame that the length function of `p` describes: a header, and as many bytes behind it as the
header says. -/
def FramingParams.ValidFrame (p : FramingParams α) (w : List α) : Prop :=
  p.headerLen.toNat ≤ w.length ∧ w.length ≤ p.maxFrameLen.toNat ∧
    (w.length : ℤ) = p.headerLen.toNat + p.lengthPart (w.take p.headerLen.toNat)

/-- Valid frames, and a proper beginning of one more. -/
def FramingParams.ValidStream (p : FramingParams α) (bs : List α) : Prop :=
  ∃ (ws : List (List α)) (tail w : List α), (∀ v ∈ ws, p.ValidFrame v) ∧ p.ValidFrame w ∧
    tail <+: w ∧ tail ≠ w ∧ bs = ws.flatten ++ tail

/-- Framing arguments with a length function that refuses to read a part of a header. -/
structure FramingParams.ByHeader (p : FramingParams α) (f : LengthFunc α) : Prop extends
    p.Regular where
  lengthFunc : p.lengthFunc = some f
  header_pos : 1 ≤ p.headerLen.toNat
  refuses : ∀ n (bs : List α), bs.length < p.headerLen.toNat → f n bs p.headerLen.toNat = -1

variable {p : FramingParams α} {f : LengthFunc α}

theorem FramingParams.ByHeader.delimited (hp : p.ByHeader f) (htwo : p.headerLen.toNat ≤ 2) :
    p.Delimited where
  toRegular := hp.toRegular
  header_le := htwo
  mode := Or.inl ⟨by simp [hp.lengthFunc], hp.header_pos⟩

/-- A valid frame at the beginning of a stream is recognised. -/
theorem FramingParams.ValidFrame.verdict_append {w : List α} (hw : p.ValidFrame w)
    (hpos : 1 ≤ p.headerLen.toNat) (bs : List α) :
    p.verdict (w ++ bs) = .frame w.length := by
  obtain ⟨hheader, hmax, hlen⟩ := hw
  obtain ⟨n, hn⟩ := Int.eq_ofNat_of_zero_le
    (show 0 ≤ p.lengthPart (w.take p.headerLen.toNat) by omega)
  have htake : (w ++ bs).take p.headerLen.toNat = w.take p.headerLen.toNat :=
    List.take_append_of_le_length hheader
  have hsum : w.length = p.headerLen.toNat + n := by omega
  rw [FramingParams.verdict_of_ok (n := n) (by rw [List.length_append]; omega)
    (by rw [htake]; exact hn) (by omega)]
  rw [if_pos (by rw [List.length_append]; omega), hsum]

/-- A proper beginning of a valid frame waits for more. -/
theorem FramingParams.ValidFrame.verdict_proper {w tail : List α} (hw : p.ValidFrame w)
    (hpos : 1 ≤ p.headerLen.toNat) (hpre : tail <+: w) (hne : tail ≠ w) :
    p.verdict tail = .more := by
  obtain ⟨hheader, hmax, hlen⟩ := hw
  obtain ⟨n, hn⟩ := Int.eq_ofNat_of_zero_le
    (show 0 ≤ p.lengthPart (w.take p.headerLen.toNat) by omega)
  have hlt : tail.length < w.length :=
    lt_of_le_of_ne hpre.length_le fun h => hne (hpre.eq_of_length h)
  by_cases hshort : tail.length < max 1 p.headerLen.toNat
  · exact FramingParams.verdict_of_short hshort
  · obtain ⟨rest, rfl⟩ := hpre
    rw [List.take_append_of_le_length (by omega)] at hn hlen
    rw [FramingParams.verdict_of_ok (n := n) (by omega) hn (by omega)]
    exact if_neg (by omega)

/-- The greedy parse of a valid stream meets no bad length. -/
theorem FramingParams.ValidStream.parse_good (hv : Lawful p.verdict)
    (hpos : 1 ≤ p.headerLen.toNat) {bs : List α} (h : p.ValidStream bs) :
    (parse p.verdict bs).bad = false := by
  obtain ⟨ws, tail, w, hws, hw, hpre, hne, rfl⟩ := h
  induction ws with
  | nil =>
    rw [List.flatten_nil, List.nil_append, parse_of_more hv (hw.verdict_proper hpos hpre hne)]
  | cons v ws ih =>
    have hvalid : p.ValidFrame v := hws v List.mem_cons_self
    rw [List.flatten_cons, List.append_assoc, parse_of_frame hv (hvalid.verdict_append hpos _),
      List.drop_left]
    exact ih fun u hu => hws u (List.mem_cons_of_mem v hu)

/-! ## Sessions -/

theorem stream_append (cs ds : List (Chunk α)) : stream (cs ++ ds) = stream cs ++ stream ds := by
  simp [stream]

/-- The framer of a session asks about whole headers, or has no length function any more. -/
theorem Follows.asksFor {bs : List α} {s : Session α} (h : Follows p bs s) :
    s.framer.AsksFor p.headerLen.toNat := by
  have hparsed := h.parsed
  unfold Parsed at hparsed
  split at hparsed
  · intro hmode
    simp [SiDaqFramer.headerMode, hparsed.2.lengthFunc] at hmode
  · intro _
    exact hparsed.2.2.headerLen_eq.ge

section Feed

variable [Inhabited α] {fr : SiDaqFramer α}

/-- With a header of at most two bytes, no session asks about a part of a header. -/
theorem feed_guarded (hp : p.Delimited) (hrest : fr.rest = 0)
    (hsize : fr.buffSize = defaultMaxFrameLen) (chunks : List (Chunk α)) :
    ∃ s, (Session.start fr p).feed chunks = some s ∧ Follows p (stream chunks) s ∧
      ToldAtLeast p.headerLen.toNat s.accesses := by
  have hstep : ∀ bs s (c : Chunk α), Follows p bs s ∧ ToldAtLeast p.headerLen.toNat s.accesses →
      ∃ s', s.recv c = some s' ∧ Follows p (bs ++ c.bytes) s' ∧
        ToldAtLeast p.headerLen.toNat s'.accesses := by
    rintro bs s c ⟨h, hguard⟩
    obtain ⟨o, ho⟩ := recvSiDaqData_total h.ready c.fits s.que
    obtain ⟨s', hrecv, h'⟩ := h.recv hp c
    obtain rfl := Option.some.inj ((Session.recv_of_recvSiDaqData ho).symm.trans hrecv)
    exact ⟨_, hrecv, h',
      hguard.append (recvSiDaqData_guarded h.ready h.asksFor c.fits c.nonempty ho)⟩
  simpa using Session.feed_invariant
    (I := fun bs s => Follows p bs s ∧ ToldAtLeast p.headerLen.toNat s.accesses) hstep
    [] ⟨Follows.start hp hrest hsize, by simp [ToldAtLeast, Session.start]⟩ chunks

/-- A chunk of one byte, on a framer with nothing carried and a longer header, is carried over. -/
theorem recv_one_carried {s : Session α} {c : Chunk α} (hrest : s.framer.rest = 0)
    (hlong : 2 ≤ s.framer.headerLen) (hc : c.bytes.length = 1) :
    ∃ t, s.recv c = some t ∧ ∃ buff, t.framer = { s.framer with rest := 1, buffPtr := buff } := by
  have hbody := loopBody_short (l := .start s.framer c.bytes s.que) (p := 0) ⟨rfl, by omega, rfl⟩
    (Or.inr (by simp only [List.drop_zero, Locals.start]; omega))
  have hrun := (recvSiDaqData_of_rest_eq_zero c.bytes s.que hrest).trans
    (recvLoop_of_done hbody _)
  refine ⟨_, Session.recv_of_recvSiDaqData hrun,
    buffWrite s.framer.buffPtr 0 (chunkBytes c.bytes 0 1), ?_⟩
  simp only [List.drop_zero, hc, Nat.cast_one, Nat.cast_zero, Locals.start]

/-- The second byte of a header of three or more: the carry-over phase asks the length function,
takes its refusal for a bad length, and the framer fails. -/
theorem recv_two_fails {s : Session α} {c : Chunk α} (hw : WellFormed s.framer)
    (hmode : s.framer.headerMode = some f)
    (hrefuses : ∀ n (bs : List α), bs.length < 3 → f n bs (uint32 s.framer.headerLen) = -1)
    (hrest : s.framer.rest = 1) (hlimit : s.framer.queueLimit = 0) (hc : c.bytes.length = 1) :
    ∃ t, s.recv c = some t ∧ t.framer.errorCode.IsFraming := by
  have hsize := hw.size
  have hwa : WellFormed (s.framer.append c.bytes) :=
    hw.congr rfl rfl rfl rfl
  have hcopied : (s.framer.copied c.bytes).length = 1 := by
    simp only [SiDaqFramer.copied, List.length_take, hrest, hsize, hc, defaultMaxFrameLen]
    decide
  -- the carry-over phase does not compare with `headerLen`: it asks about two bytes
  have hheld : (s.framer.held c.bytes).length = 2 := by
    have := SiDaqFramer.length_held c.bytes (show 0 ≤ s.framer.rest by omega)
    omega
  have hbad : ¬ (s.framer.append c.bytes).LengthOk (s.framer.held c.bytes)
      (s.framer.held c.bytes).length := by
    rintro ⟨hnonneg, -⟩
    rw [SiDaqFramer.eventLen_of_header (show (s.framer.append c.bytes).headerMode = some f from hmode)]
      at hnonneg
    rw [show (s.framer.append c.bytes).headerLen = s.framer.headerLen from rfl,
      hrefuses _ _ (by omega)] at hnonneg
    exact absurd hnonneg (by decide)
  obtain ⟨code, hcode, hdecision⟩ :=
    SiDaqFramer.frameLength_of_not_ok hwa.ranged (by omega) (by omega) hbad
  have hlen := SiDaqFramer.frameLen_of_not_ok hwa.ranged (by omega) (by omega) hbad
  obtain ⟨l, hl, -, hframer, -, -, hat⟩ :=
    carryOver_frame s.que (by omega) (by rw [hrest, hsize]; decide) c.fits hlen le_rfl (by omega)
  have hnil : c.bytes.drop ((s.framer.held c.bytes).length - s.framer.rest.toNat) = [] :=
    List.drop_eq_nil_of_le (by omega)
  have hnull : l.readPtr = none := by
    rcases hat with ⟨-, hne⟩ | ⟨hnull, -, -⟩
    · exact absurd hnil hne
    · exact hnull
  have hrun : recvSiDaqData s.framer c.bytes s.que =
      some ⟨l.frameCount, l.framer, l.que, l.accesses⟩ := by
    simp only [recvSiDaqData, hrest, gt_iff_lt, zero_lt_one, if_true, hl]
    exact recvLoop_of_done (loopBody_null hnull) _
  refine ⟨_, Session.recv_of_recvSiDaqData hrun, ?_⟩
  have hnolimit : ∀ count, ¬ ((s.framer.append c.bytes).decided.putNull code).atQueueLimit count := by
    intro count
    simp [SiDaqFramer.atQueueLimit, SiDaqFramer.putNull, SiDaqFramer.decided, SiDaqFramer.append,
      hlimit]
  simp only [hdecision, if_neg (hnolimit _)] at hframer
  simp only [hframer]
  exact hcode

/-- A valid stream that starts with two chunks of one byte makes the framer fail, when the header is
longer than that. -/
theorem feed_two_fails (hp : p.ByHeader f) (hthree : 3 ≤ p.headerLen.toNat) (hrest : fr.rest = 0)
    (hsize : fr.buffSize = defaultMaxFrameLen) {c d : Chunk α} (hc : c.bytes.length = 1)
    (hd : d.bytes.length = 1) :
    ∃ t, (Session.start fr p).feed [c, d] = some t ∧ t.framer.errorCode.IsFraming := by
  have hheader := SiDaqFramer.configure_headerLen fr hp.toFits.sized
  have hcap := hp.max_le
  have hlt := hp.accepted
  simp only [defaultMaxFrameLen] at hcap
  obtain ⟨s, hs, buff, hframer⟩ := recv_one_carried (s := .start fr p) (c := c) hrest
    (by simp only [Session.start]; omega) hc
  have hw := WellFormed.configure hp.toFits.sized hsize
  have huint : uint32 s.framer.headerLen = p.headerLen.toNat := by
    rw [hframer]
    simp only [Session.start, hheader]
    exact uint32_of_range (by omega) (by omega)
  obtain ⟨t, ht, hcode⟩ := recv_two_fails (s := s) (c := d) (f := f)
    (by rw [hframer]
        exact hw.congr rfl rfl rfl rfl)
    (by rw [hframer, SiDaqFramer.headerMode_eq_some]
        simp only [Session.start, hheader]
        exact ⟨by omega, hp.lengthFunc⟩)
    (fun n bs hbs => by
      rw [huint]
      exact hp.refuses n bs (by omega))
    (by rw [hframer]) (by rw [hframer]; simp [Session.start, SiDaqFramer.configure, hp.noLimit]) hd
  exact ⟨t, by simp only [Session.feed, hs, Option.bind_some, ht], hcode⟩

theorem FramerErrorCode.not_isFraming_noError : ¬ FramerErrorCode.noError.IsFraming := by
  simp [FramerErrorCode.IsFraming]

/-- **A valid stream never fails, however it is cut, if and only if the header has at most two
bytes** (or there is no valid frame at all). "Never" is after every beginning of the chunks. -/
theorem never_fails_iff (hp : p.ByHeader f) (hrest : fr.rest = 0)
    (hsize : fr.buffSize = defaultMaxFrameLen) :
    (∀ chunks more : List (Chunk α), p.ValidStream (stream (chunks ++ more)) →
      ∃ s, (Session.start fr p).feed chunks = some s ∧ s.framer.errorCode = .noError ∧
        ∀ n, Access.lengthFunc n ∈ s.accesses → p.headerLen.toNat ≤ n) ↔
    p.headerLen.toNat ≤ 2 ∨ ¬ ∃ w, p.ValidFrame w := by
  constructor
  · intro hall
    by_contra hcon
    obtain ⟨hthree, hvalid⟩ := not_or.mp hcon
    obtain ⟨w, hw⟩ := not_not.mp hvalid
    have hcap := hp.max_le
    simp only [defaultMaxFrameLen] at hcap
    rcases w with _ | ⟨a, _ | ⟨b, rest⟩⟩
    · have := hw.1
      simp at this
      omega
    · have := hw.1
      simp at this
      omega
    · have hlong := hw.1
      have hshort := hw.2.1
      simp only [List.length_cons] at hlong hshort
      -- the first two bytes on their own, and the rest of the frame behind them
      let c : Chunk α := .of [a]
      let d : Chunk α := .of [b]
      let e : Chunk α := ⟨rest, List.length_pos_iff.mp (by omega), by omega⟩
      have hstream : p.ValidStream (stream ([c, d] ++ [e])) :=
        ⟨[a :: b :: rest], [], a :: b :: rest, by simpa using hw, hw, List.nil_prefix, by simp,
          by simp [stream, Chunk.of, c, d, e]⟩
      obtain ⟨s, hfeed, hgood, -⟩ := hall [c, d] [e] hstream
      obtain ⟨t, hfeed', hfails⟩ := feed_two_fails (c := c) (d := d) hp (by omega) hrest hsize rfl rfl
      obtain rfl := Option.some.inj (hfeed.symm.trans hfeed')
      rw [hgood] at hfails
      exact FramerErrorCode.not_isFraming_noError hfails
  · intro hcond chunks more hstream
    have htwo : p.headerLen.toNat ≤ 2 := by
      rcases hcond with htwo | hnone
      · exact htwo
      · obtain ⟨_, _, w, _, hw, _⟩ := hstream
        exact absurd ⟨w, hw⟩ hnone
    have hdel := hp.delimited htwo
    obtain ⟨s, hfeed, hfollows, hguard⟩ := feed_guarded hdel hrest hsize chunks
    have hgood : (parse p.verdict (stream chunks)).bad = false := by
      refine parse_bad_append hdel.lawful (stream more) ?_
      rw [← stream_append]
      exact hstream.parse_good hdel.lawful hp.header_pos
    have hparsed := hfollows.parsed
    simp only [Parsed, hgood, Bool.false_eq_true, if_false] at hparsed
    exact ⟨s, hfeed, hparsed.2.2.noError, hguard⟩

end Feed

/-- A three-byte header that announces one byte, read by a function that refuses shorter ones. -/
def refusingHeader : FramingParams UInt8 :=
  ⟨some fun _ bs _ => if bs.length < 3 then -1 else 1, 3, 0, 0, 262144⟩

theorem refusingHeader_byHeader :
    refusingHeader.ByHeader fun _ bs _ => if bs.length < 3 then -1 else 1 where
  accepted := by decide
  max_le := by decide
  noLimit := rfl
  stable := by
    intro f hf m n bs bs' hbs hbs' _
    obtain rfl := Option.some.inj hf
    have h3 : refusingHeader.headerLen.toNat = 3 := rfl
    simp only [h3] at hbs hbs' ⊢
    rw [if_neg (by omega), if_neg (by omega)]
  lengthFunc := rfl
  header_pos := by decide
  refuses := by
    intro _ bs hbs
    exact if_pos hbs

/-- The frame `00 00 01 09`, its first two bytes in chunks of their own: an error. -/
theorem refusingHeader_fails :
    refusingHeader.ByHeader (fun _ bs _ => if bs.length < 3 then -1 else 1) ∧
      refusingHeader.ValidStream (stream
        ([Chunk.of [0], Chunk.of [0]] ++
          [Chunk.of [1, 9]])) ∧
      ¬ ∃ s, (Session.fresh refusingHeader).feed
          [Chunk.of [0], Chunk.of [0]] = some s ∧
        s.framer.errorCode = .noError := by
  have hw : refusingHeader.ValidFrame [0, 0, 1, 9] := ⟨by decide, by decide, by decide⟩
  refine ⟨refusingHeader_byHeader,
    ⟨[[0, 0, 1, 9]], [], [0, 0, 1, 9], by simpa using hw, hw, by simp, by simp, rfl⟩, ?_⟩
  rintro ⟨s, hfeed, hgood⟩
  have hfails : ((Session.fresh refusingHeader).feed
      [Chunk.of [0], Chunk.of [0]]).map
        (fun s => s.framer.errorCode) = some .getFrameLengthFailed := by decide
  rw [hfeed, Option.map_some, Option.some.injEq, hgood] at hfails
  exact absurd hfails (by decide)

theorem byteHeader_byHeader : byteHeader.ByHeader fun _ bs _ => match bs with
    | [] => -1
    | b :: _ => Int32.ofNat b.toNat where
  toRegular := byteHeader_delimited.toRegular
  lengthFunc := rfl
  header_pos := by decide
  refuses := by
    intro _ bs hbs
    obtain rfl : bs = [] := List.length_eq_zero_iff.mp (Nat.lt_one_iff.mp hbs)
    rfl

/-- A one-byte header meets the bound. -/
theorem byteHeader_never_fails :
    (∀ chunks more : List (Chunk UInt8), byteHeader.ValidStream (stream (chunks ++ more)) →
      ∃ s, (Session.start newSiDaqFramer byteHeader).feed chunks = some s ∧
        s.framer.errorCode = .noError ∧
        ∀ n, Access.lengthFunc n ∈ s.accesses → byteHeader.headerLen.toNat ≤ n) ↔
    byteHeader.headerLen.toNat ≤ 2 ∨ ¬ ∃ w, byteHeader.ValidFrame w :=
  never_fails_iff byteHeader_byHeader rfl rfl

end SiDaqApi
