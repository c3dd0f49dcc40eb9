import SiDaqApi.Framer.Valid
import SiDaqApi.Manager.Flow
import SiDaqApi.Manager.FirstError

/-!
# The frames of a run

What the consumer gets in a run does not depend on how TCP cuts the stream, on how the threads
interleave, or on when the consumer takes a frame: it is the greedy parse of the bytes that the framer
thread has taken so far (`run_frames`). The last frame may be a rest, once the thread has left its
loop.

`Framing` is the invariant, beside that of the byte flow: the frames in terms of the bytes that are
framed or carried.
-/

namespace SiDaqApi

open Machine Segment

variable {α : Type*}

/-- The frames are those of the greedy parse of `bs`, with the rest as the last frame if the thread has
`left` its loop. When the parse meets a bad length, its frames come first, and no byte is missing. -/
def FramesOf (p : FramingParams α) (bs : List α) (left : Bool) (frames : List (List α)) : Prop :=
  if (parse p.verdict bs).bad then (parse p.verdict bs).frames <+: frames ∧ frames.flatten = bs
  else
    frames = (parse p.verdict bs).frames ++
      if left = true ∧ (parse p.verdict bs).tail ≠ [] then [(parse p.verdict bs).tail] else []

/-! ## One call after the other -/

section Parsed

variable {p : FramingParams α} {bs data : List α} {que que' framed : List (List α)}
  {fr fr' : SiDaqFramer α}

/-- Framing only adds frames, and which ones does not depend on the queue. -/
theorem Parsed.adds (h : Parsed p bs que que' fr) (front : List (List α)) :
    Parsed p bs front (front ++ que'.drop que.length) fr := by
  unfold Parsed at h ⊢
  split
  · rename_i hbad
    rw [if_pos hbad] at h
    obtain ⟨⟨more, rfl⟩, hfail⟩ := h
    refine ⟨⟨more, ?_⟩, hfail⟩
    rw [List.append_assoc que, List.drop_left, List.append_assoc]
  · rename_i hgood
    rw [if_neg hgood] at h
    obtain ⟨rfl, hrest, hc⟩ := h
    exact ⟨by rw [List.drop_left], hrest, hc⟩

/-- A call goes on with the parse. -/
theorem Parsed.recv [Inhabited α] (hp : p.Delimited) (h : Parsed p bs [] framed fr) (hr : Ready fr)
    (hlimit : fr.queueLimit = 0) (hdata : data.length < 2147483648) (hne : data ≠ [])
    {o : Outcome α} (hrun : recvSiDaqData fr data que = some o) :
    Parsed p (bs ++ data) [] (framed ++ o.que.drop que.length) o.framer := by
  by_cases hbad : (parse p.verdict bs).bad = true
  · simp only [Parsed, hbad, if_true, List.nil_append] at h
    obtain ⟨hfail, hque⟩ := recvSiDaqData_failed hr.toSound hlimit h.2 hdata hne hrun
    simp only [Parsed, parse_append_of_bad hp.lawful data hbad, if_true, List.nil_append]
    exact ⟨h.1.trans (List.prefix_append _ _), hfail⟩
  · rw [Bool.not_eq_true] at hbad
    simp only [Parsed, hbad, Bool.false_eq_true, if_false, List.nil_append] at h
    obtain ⟨rfl, hrest, hc⟩ := h
    have hcall := (recvSiDaqData_parsed hp hc hr hdata hne hrun).adds (parse p.verdict bs).frames
    rw [hrest] at hcall
    simpa [Parsed, parse_append_of_not_bad hp.lawful data hbad] using hcall

/-- The framer's error flag and the place of the manager do not matter. -/
theorem Parsed.congr (h : Parsed p bs que que' fr) (hcarry : fr.carry = fr'.carry)
    (hcode : fr'.errorCode = fr.errorCode) : Parsed p bs que que' fr' := by
  obtain ⟨rest, size, buff, f, header, flg, code, limit, max, fixed, n⟩ := fr
  obtain ⟨rest', size', buff', f', header', flg', code', limit', max', fixed', n'⟩ := fr'
  simp only [SiDaqFramer.carry, SiDaqFramer.mk.injEq, true_and] at hcarry hcode
  obtain ⟨rfl, rfl, rfl, rfl, rfl, rfl, rfl, rfl, rfl⟩ := hcarry
  subst hcode
  unfold Parsed at h ⊢
  split
  · rename_i hbad
    rw [if_pos hbad] at h
    exact ⟨h.1, ⟨⟨h.2.lengthFunc, h.2.headerLen, h.2.fixedFrameLen⟩, h.2.code, h.2.rest⟩⟩
  · rename_i hgood
    rw [if_neg hgood] at h
    obtain ⟨hque, hrest, hc⟩ := h
    exact ⟨hque, hrest, ⟨hc.toSound.congr rfl rfl rfl rfl rfl, hc.noLimit, hc.headerLen_eq,
      hc.lengthFunc_eq, hc.fixedFrameLen_eq, hc.maxFrameLen_eq, hc.noError⟩⟩

/-- Nothing framed yet. -/
theorem Parsed.nil (hp : p.Delimited) (hc : Configured p fr) (hrest : fr.rest = 0) :
    Parsed p [] [] [] fr :=
  Parsed.of_more hp hp.lawful.nil hc (SiDaqFramer.restBytes_of_rest_eq_zero hrest)

theorem FramesOf.nil (hp : p.Delimited) (left : Bool) : FramesOf p [] left [] := by
  simp [FramesOf, parse_of_more hp.lawful hp.lawful.nil]

/-- In the loop, the framer carries the tail of the parse. -/
theorem Parsed.framesOf (h : Parsed p bs [] framed fr) (hbytes : framed.flatten ++ fr.restBytes = bs) :
    FramesOf p bs false framed := by
  unfold Parsed at h
  unfold FramesOf
  split
  · rename_i hbad
    rw [if_pos hbad, List.nil_append] at h
    rw [SiDaqFramer.restBytes_of_rest_eq_zero h.2.rest, List.append_nil] at hbytes
    exact ⟨h.1, hbytes⟩
  · rename_i hgood
    rw [if_neg hgood, List.nil_append] at h
    simp [h.1]

/-- The loop ends with nothing carried. -/
theorem Parsed.leave (h : Parsed p bs [] framed fr) (hbytes : framed.flatten ++ fr.restBytes = bs)
    (hrest : fr.rest = 0) : FramesOf p bs true framed := by
  have hnil := SiDaqFramer.restBytes_of_rest_eq_zero hrest
  unfold Parsed at h
  unfold FramesOf
  split
  · rename_i hbad
    rw [if_pos hbad, List.nil_append] at h
    rw [hnil, List.append_nil] at hbytes
    exact ⟨h.1, hbytes⟩
  · rename_i hgood
    rw [if_neg hgood, List.nil_append] at h
    have htail : (parse p.verdict bs).tail = [] := h.2.1.symm.trans hnil
    simp [h.1, htail]

/-- The loop ends, and what is carried becomes the last frame. -/
theorem Parsed.flush (h : Parsed p bs [] framed fr) (hrest : fr.rest > 0) :
    FramesOf p bs true (framed ++ [fr.restBytes]) := by
  have hne : fr.restBytes ≠ [] := by
    intro hnil
    have hlen := fr.length_restBytes
    rw [hnil, List.length_nil] at hlen
    omega
  unfold Parsed at h
  unfold FramesOf
  split
  · rename_i hbad
    rw [if_pos hbad] at h
    exact absurd h.2.rest (ne_of_gt hrest)
  · rename_i hgood
    rw [if_neg hgood, List.nil_append] at h
    obtain ⟨rfl, htail, -⟩ := h
    rw [htail] at hne ⊢
    simp [hne]

end Parsed

/-! ## The frames of the manager -/

/-- The bytes that are framed since `s₀`, or carried. -/
def State.cutBytes (s s₀ : State α) : List α :=
  (since s₀.framed s.framed).flatten ++ s.restBytes

/-- The frames since `s₀` are those of the bytes that are framed or carried. -/
structure Framing (p : FramingParams α) (s₀ s : State α) : Prop where
  /-- `SiDaqRun` has not created the framer thread yet. -/
  starting : s.api.isStarting → since s₀.framed s.framed = []
  /-- The thread starts on a framer that is configured and carries nothing. -/
  fresh : (∃ t, s.framers t = .start) ∨ s.api = .runCreateFramer →
    since s₀.framed s.framed = [] ∧ ∃ fr, s.framer = some fr ∧ Configured p fr ∧ fr.rest = 0
  inside : ∀ t, (s.framers t).hasLeft = false →
    ∃ fr, s.framer = some fr ∧ Parsed p (s.cutBytes s₀) [] (since s₀.framed s.framed) fr
  outside : (∀ t, (s.framers t).hasLeft = true) →
    FramesOf p (s.cutBytes s₀) true (since s₀.framed s.framed)

section Framing

variable {p : RunParams α} {s₀ s s' : State α} {j k t : ℕ}

/-- A step that concerns neither the frames nor the framer threads. -/
theorem Framing.congr (h : Framing p.framing s₀ s) (hframed : s'.framed = s.framed)
    (hframer : s'.framer = s.framer) (hframers : s'.framers = s.framers)
    (hstarting : s'.api.isStarting → s.api.isStarting)
    (hcreate : s'.api = .runCreateFramer → s.api = .runCreateFramer) :
    Framing p.framing s₀ s' := by
  have hcut : s'.cutBytes s₀ = s.cutBytes s₀ := by
    simp only [State.cutBytes, State.restBytes, hframed, hframer]
  constructor
  case starting =>
    rw [hframed]
    exact fun hs => h.starting (hstarting hs)
  case fresh =>
    rw [hframed, hframer, hframers]
    rintro (hat | hapi)
    · exact h.fresh (Or.inl hat)
    · exact h.fresh (Or.inr (hcreate hapi))
  case inside =>
    rw [hframed, hframer, hframers, hcut]
    exact h.inside
  case outside =>
    rw [hframed, hframers, hcut]
    exact h.outside

/-- The frames of a framer thread in its loop. -/
theorem Framing.parsed (h : Framing p.framing s₀ s) {fr : SiDaqFramer α} (hfr : s.framer = some fr)
    (hin : (s.framers t).hasLeft = false) :
    Parsed p.framing (s.cutBytes s₀) [] (since s₀.framed s.framed) fr := by
  obtain ⟨fr', hfr', hparsed⟩ := h.inside t hin
  obtain rfl := Option.some.inj (hfr.symm.trans hfr')
  exact hparsed

variable [Inhabited α]

/-- What the framer thread does to the error code of the framer outside `RecvSiDaqData`. -/
theorem framerStep_code (hstep : framerStep s t = some s') (hrecv : ∀ c, s.framers t ≠ .recv c)
    (hstart : s.framers t ≠ .start) {fr fr' : SiDaqFramer α} (hfr : s.framer = some fr)
    (hfr' : s'.framer = some fr') : fr'.errorCode = fr.errorCode := by
  obtain ⟨pc, -, hmove⟩ := framerStep_errorMove hstep
  cases hmove with
  | start fr₁ hpc _ => exact absurd hpc hstart
  | recv c fr₁ o hpc _ _ _ => exact absurd hpc (hrecv c)
  | report fr₁ _ hfr₁ _ _ hframer =>
    obtain rfl := Option.some.inj (hfr.symm.trans hfr₁)
    obtain rfl := Option.some.inj (hframer.symm.trans hfr')
    rfl
  | announce _ hframer | store _ _ _ hframer _ _ =>
    rw [hframer, hfr] at hfr'
    rw [Option.some.inj hfr']
  | keep _ _ _ _ _ hframer =>
    obtain ⟨fr₁, hfr₁, hcode, -⟩ := hframer fr' hfr'
    obtain rfl := Option.some.inj (hfr.symm.trans hfr₁)
    exact hcode

omit [Inhabited α] in
/-- The framer thread moves. -/
theorem Framing.of_framer (hflow : Flowing p s₀ s j k) (halive : s.FramerAlive k)
    {pc : FramerPc α} (hframers : s'.framers = Function.update s.framers k pc) (hapi : s'.api = s.api)
    (hstart : pc ≠ .start) {bs : List α} (hcut : s'.cutBytes s₀ = bs)
    (hinside : pc.hasLeft = false → ∃ fr, s'.framer = some fr ∧
      Parsed p.framing bs [] (since s₀.framed s'.framed) fr)
    (houtside : pc.hasLeft = true → FramesOf p.framing bs true (since s₀.framed s'.framed)) :
    Framing p.framing s₀ s' := by
  subst hcut
  have hnotStarting : ¬ s.api.isStarting := fun hs => halive (hflow.starting hs)
  have hat : s'.framers k = pc := by rw [hframers, Function.update_self]
  have hoff : ∀ u, u ≠ k → s'.framers u = .off := by
    intro u hu
    rw [hframers, Function.update_of_ne hu]
    exact hflow.framers u hu
  constructor
  case starting =>
    rw [hapi]
    exact fun hs => absurd hs hnotStarting
  case fresh =>
    rintro (⟨u, hu⟩ | hcreate)
    · by_cases huk : u = k
      · rw [huk, hat] at hu
        exact absurd hu hstart
      · simp [hoff u huk] at hu
    · rw [hapi] at hcreate
      exact absurd (by rw [hcreate]; rfl) hnotStarting
  case inside =>
    intro u hu
    by_cases huk : u = k
    · rw [huk, hat] at hu
      exact hinside hu
    · rw [hoff u huk] at hu
      simp [FramerPc.hasLeft] at hu
  case outside =>
    intro hall
    have hk := hall k
    rw [hat] at hk
    exact houtside hk

/-- A framer thread never goes back to its start. -/
theorem framerStep_ne_start (hstep : framerStep s t = some s') : s'.framers t ≠ .start := by
  obtain ⟨pc, hframers, hmove⟩ := framerStep_errorMove hstep
  rw [hframers, Function.update_self]
  cases hmove with
  | keep _ _ _ hstart _ _ => exact hstart
  | _ => simp

/-- A step of the framer thread that frames nothing: it stays in the loop with what it carries, leaves
it with nothing, or has left it. -/
theorem Framing.framer_keep (h : Framing p.framing s₀ s) (hflow : Flowing p s₀ s j t)
    (hstep : framerStep s t = some s') (hrecv : ∀ c, s.framers t ≠ .recv c) {pc : FramerPc α}
    (hframers : s'.framers = Function.update s.framers t pc) (hapi : s'.api = s.api)
    (hframed : s'.framed = s.framed) (hcarry : SameCarry s.framer s'.framer)
    (hflush : s.framers t = .flush → ∀ fr, s.framer = some fr → fr.rest ≤ 0) :
    Framing p.framing s₀ s' := by
  have halive := (framerStep_change hstep).1
  obtain ⟨fr, hfr, hready, -⟩ := hflow.ready (Or.inl halive)
  obtain ⟨fr', hfr', hsame⟩ := hcarry.symm.exists_some hfr
  have hat : s'.framers t = pc := by rw [hframers, Function.update_self]
  have hcut : s'.cutBytes s₀ = s.cutBytes s₀ := by
    rw [State.cutBytes, State.cutBytes, hframed, hcarry.restBytes]
  have hbytes : (since s₀.framed s.framed).flatten ++ fr.restBytes = s.cutBytes s₀ := by
    rw [State.cutBytes, s.restBytes_of_some hfr]
  have hparsed : (s.framers t).hasLeft = false → _ := h.parsed hfr
  refine .of_framer hflow halive hframers hapi (hat ▸ framerStep_ne_start hstep) hcut (fun hin => ?_)
    fun hout => ?_
  · rw [← hat] at hin
    rcases framerStep_turn hstep with ⟨hin', -, -, -, -, -, -⟩ | ⟨-, hexit, -, -⟩ | ⟨-, hout, -⟩
    · rw [hframed]
      refine ⟨fr', hfr', (hparsed hin').congr hsame.symm ?_⟩
      by_cases hstart : s.framers t = .start
      · -- the thread clears a code that is clear
        obtain ⟨-, fr₁, hfr₁, hc, -⟩ := h.fresh (Or.inl ⟨t, hstart⟩)
        obtain rfl := Option.some.inj (hfr.symm.trans hfr₁)
        simp only [framerStep, hstart, hfr, Option.map_some, Option.some.injEq] at hstep
        rw [← hstep] at hfr'
        rw [← Option.some.inj hfr', hc.noError]
      · exact framerStep_code hstep hrecv hstart hfr hfr'
    · simp [hexit, FramerPc.hasLeft] at hin
    · simp [hout] at hin
  · rw [← hat] at hout
    rcases framerStep_turn hstep with ⟨-, hin, -, -, -, -, -⟩ | ⟨hin, -, hwhy, -⟩ | ⟨hleft, -, -⟩
    · simp [hin] at hout
    · -- it carries nothing, or the flush found nothing
      have hrest : fr.rest = 0 := by
        rcases hwhy with ⟨hat', hidle⟩ | ⟨hat', hreset⟩ | hat'
        · exact hflow.nothing (Or.inr (Or.inl ⟨hidle, Or.inr hat'⟩)) fr hfr
        · exact hflow.nothing (Or.inr (Or.inr ⟨hreset, Or.inr (Or.inr hat')⟩)) fr hfr
        · exact le_antisymm (hflush hat' fr hfr) hready.rest_nonneg
      rw [hframed]
      exact (hparsed hin).leave hbytes hrest
    · rw [hframed]
      refine h.outside fun u => ?_
      by_cases hut : u = t
      · rw [hut]
        exact hleft
      · rw [hflow.framers u hut]
        rfl

/-- **A step of the framer thread.** -/
theorem Framing.framer (hp : p.framing.Delimited) (h : Framing p.framing s₀ s)
    (hflow : Flowing p s₀ s j k) (hstep : framerStep s t = some s') : Framing p.framing s₀ s' := by
  have halive := (framerStep_change hstep).1
  obtain rfl := hflow.framer_eq halive
  obtain ⟨fr, hfr, hready, hlimit⟩ := hflow.ready (Or.inl halive)
  have hbytes : (since s₀.framed s.framed).flatten ++ fr.restBytes = s.cutBytes s₀ := by
    rw [State.cutBytes, s.restBytes_of_some hfr]
  rcases framerStep_move hstep with
    ⟨pc, status, code, message, param, framer, sockets, heq, hpc, hpc', hcarry, hflush⟩ |
    ⟨c, cs, hpc, hqueue, heq⟩ | ⟨c, fr', o, hpc, hfr', hcall, rfl⟩ | ⟨fr', hpc, hfr', hrest, rfl⟩
  · have hframers : s'.framers = Function.update s.framers t pc := by
      rw [heq]
      rfl
    refine h.framer_keep hflow hstep ?_ hframers (by rw [heq]; rfl) (by rw [heq]; rfl)
      (by rw [heq]; exact hcarry) hflush
    intro c hat
    rw [hat] at hpc
    exact c.nonempty hpc
  · -- a chunk goes from the queue to the hand
    have hframers : s'.framers = Function.update s.framers t (.recv c) := by
      rw [heq]
      rfl
    exact h.framer_keep hflow hstep (by simp [hpc]) hframers (by rw [heq]; rfl) (by rw [heq]; rfl)
      (by rw [heq]; exact .refl _) (by simp [hpc])
  · -- the chunk in the hand is framed
    obtain rfl := Option.some.inj (hfr.symm.trans hfr')
    obtain ⟨frames, hque, -, hall⟩ := recvSiDaqData_adds hready c.fits hcall
    have hnew : o.que.drop s.eventFrame.length = frames := by rw [hque, List.drop_left]
    have hin : (s.framers t).hasLeft = false := by rw [hpc]; rfl
    have hnext := (h.parsed hfr hin).recv hp hready hlimit c.fits c.nonempty hcall
    have hframed : since s₀.framed (s.framed ++ o.que.drop s.eventFrame.length) =
        since s₀.framed s.framed ++ o.que.drop s.eventFrame.length :=
      since_append hflow.framedMono _
    have hcut : (since s₀.framed (s.framed ++ o.que.drop s.eventFrame.length)).flatten ++
        o.framer.restBytes = s.cutBytes s₀ ++ c.bytes := by
      rw [hframed, hnew, List.flatten_append, List.append_assoc, hall hlimit, ← List.append_assoc,
        hbytes]
    rw [← hframed] at hnext
    exact .of_framer hflow halive rfl rfl (by simp) hcut (fun _ => ⟨o.framer, rfl, hnext⟩)
      (by simp [FramerPc.hasLeft])
  · -- the carry-over becomes the last frame
    obtain rfl := Option.some.inj (hfr.symm.trans hfr')
    have hframed : since s₀.framed (s.framed ++ [fr.restBytes]) =
        since s₀.framed s.framed ++ [fr.restBytes] := since_append hflow.framedMono _
    have hnothing : ({ fr with rest := 0 } : SiDaqFramer α).restBytes = [] :=
      SiDaqFramer.restBytes_of_rest_eq_zero rfl
    have hin : (s.framers t).hasLeft = false := by rw [hpc]; rfl
    have hcut : (since s₀.framed (s.framed ++ [fr.restBytes])).flatten ++
        ({ fr with rest := 0 } : SiDaqFramer α).restBytes = s.cutBytes s₀ := by
      rw [hframed, hnothing, List.append_nil, ← hbytes, List.flatten_append, List.flatten_singleton]
    have hlast := (h.parsed hfr hin).flush hrest
    rw [← hframed] at hlast
    exact .of_framer hflow halive rfl rfl (by simp) hcut (by simp [FramerPc.hasLeft]) fun _ => hlast

/-- A step of an API call. -/
theorem Framing.api (hp : p.framing.Delimited) (h : Framing p.framing s₀ s)
    (hflow : Flowing p s₀ s j k) {ans : ApiAnswer} (hstep : apiStep s ans = some s') :
    Framing p.framing s₀ s' := by
  have hnoReset := hflow.noReset
  rcases apiStep_move hstep with
    ⟨pc, status, code, message, param, sockets, rfl, -, hpc, -, -⟩ |
    ⟨pc, code, message, param, sockets, rfl, hapi, hpc, -⟩ | ⟨q, t, hapi, -, rfl⟩ |
    ⟨q, hapi, rfl⟩ | ⟨t, hapi, -, rfl⟩ | ⟨pc, status, hnext, rfl⟩ |
    ⟨status, c, cs, hapi, -, rfl⟩ | ⟨status, f, fs, hapi, -, rfl⟩
  · refine h.congr rfl rfl rfl (fun hs => ?_) fun hcreate => ?_
    · exact absurd hs (by simp [hpc])
    · have hcreate : pc = .runCreateFramer := hcreate
      simp [hcreate, ApiPc.isStarting] at hpc
  · refine h.congr rfl rfl rfl (fun _ => ApiPc.isStarting_of_isConnecting hapi) fun hcreate => ?_
    have hcreate : pc = .runCreateFramer := hcreate
    simp [hcreate, ApiPc.isConnecting] at hpc
  · exact h.congr rfl rfl rfl (fun _ => by rw [hapi]; rfl) (by simp [State.setSock, State.apiTo])
  · -- the framer is configured, and there is no framer thread yet
    have hstarting : s.api.isStarting := by rw [hapi]; rfl
    obtain ⟨hoff, hnothing⟩ := hflow.nothing_of_starting hstarting
    obtain ⟨rfl, hsize⟩ := hflow.params q (by rw [hapi]; rfl)
    obtain ⟨hrest, -⟩ := ready_configure hp.toFits hp.header_le hnothing hsize
    have hbuff : (s.framer.getD newSiDaqFramer).buffSize = defaultMaxFrameLen := by
      cases hfr : s.framer with
      | none => rfl
      | some fr => exact hsize fr hfr
    have hnil := h.starting hstarting
    have hcut : State.cutBytes { s.apiTo .runCreateFramer with
        framer := some ((s.framer.getD newSiDaqFramer).configure q.framing) } s₀ = [] := by
      show (since s₀.framed s.framed).flatten ++ _ = []
      rw [hnil]
      exact SiDaqFramer.restBytes_of_rest_eq_zero hrest
    constructor
    case starting => exact fun _ => hnil
    case fresh => exact fun _ => ⟨hnil, _, rfl, .configure hp hbuff, hrest⟩
    case inside =>
      intro t hin
      simp [State.apiTo, hoff t, FramerPc.hasLeft] at hin
    case outside =>
      intro _
      rw [hcut]
      exact hnil ▸ FramesOf.nil hp true
  · -- the framer thread is created
    have hstarting : s.api.isStarting := by rw [hapi]; rfl
    obtain ⟨hoff, -⟩ := hflow.nothing_of_starting hstarting
    obtain ⟨hnil, fr, hfr, hc, hrest⟩ := h.fresh (Or.inr hapi)
    have hcut : State.cutBytes ((s.apiTo .runSetStatus).framerTo t .start) s₀ = [] := by
      show (since s₀.framed s.framed).flatten ++ s.restBytes = []
      rw [hnil, s.restBytes_of_some hfr]
      exact SiDaqFramer.restBytes_of_rest_eq_zero hrest
    constructor
    case starting => exact fun _ => hnil
    case fresh => exact fun _ => ⟨hnil, fr, hfr, hc, hrest⟩
    case inside =>
      intro u _
      refine ⟨fr, hfr, ?_⟩
      rw [hcut]
      exact hnil ▸ Parsed.nil hp hc hrest
    case outside =>
      intro hall
      have ht := hall t
      rw [State.framerTo_self] at ht
      simp [FramerPc.hasLeft] at ht
  · rcases hnext with ⟨_, hapi, -⟩ | ⟨_, hapi⟩ | ⟨_, hapi, -⟩ | ⟨_, hapi, -⟩ <;>
      simp [hapi, ApiPc.resets] at hnoReset
  · simp [hapi, ApiPc.resets] at hnoReset
  · simp [hapi, ApiPc.resets] at hnoReset

/-- **A step of a run.** -/
theorem Framing.act (hp : p.framing.Delimited) (h : Framing p.framing s₀ s)
    (hflow : Flowing p s₀ s j k) {a : Act α} (ha : a.InRun) (hstep : step s a = some s') :
    Framing p.framing s₀ s' := by
  cases a with
  | sock t ans =>
    rcases sockStep_move hstep with ⟨th, param, sockets, rfl, -, -, -⟩ | ⟨c, -, -, rfl⟩ | ⟨c, -, rfl⟩
    · exact h.congr rfl rfl rfl id id
    · exact h.congr rfl rfl rfl id id
    · exact h.congr rfl rfl rfl id id
  | framer t => exact h.framer hp hflow hstep
  | api ans => exact h.api hp hflow hstep
  | callRun q => exact ha.elim
  | callReset => exact ha.elim
  | callStop | callTerminate =>
    obtain ⟨r, -, rfl⟩ := callStep_begins hstep
    exact h.congr rfl rfl rfl (by simp [State.apiTo, ApiPc.isStarting, ApiPc.runParams])
      (by simp [State.apiTo])
  | getData =>
    obtain ⟨f, fs, -, rfl⟩ := getData_takes hstep
    exact h.congr rfl rfl rfl id id
  | pause | resume =>
    simp only [step, Option.some.injEq] at hstep
    subst hstep
    exact h.congr rfl rfl rfl id id

/-- Every state of a run. -/
theorem framing_of_run (hclean : s₀.Clean) (hp : p.framing.Delimited) {acts : List (Act α)}
    (hacts : ∀ a ∈ acts, a.InRun) (hrun : run step s₀ (.callRun p :: acts) = some s) :
    ∃ j k, Flowing p s₀ s j k ∧ Framing p.framing s₀ s := by
  obtain ⟨hcall, hflow⟩ := Flowing.start hclean p
  have hnil : (s₀.apiTo (.runBegin p)).cutBytes s₀ = [] := by
    show (since s₀.framed s₀.framed).flatten ++ s₀.restBytes = []
    rw [since_self, hclean.rest.restBytes]
    rfl
  have hstart : Framing p.framing s₀ (s₀.apiTo (.runBegin p)) := by
    constructor
    case starting => exact fun _ => since_self _
    case fresh =>
      rintro (⟨t, ht⟩ | hcreate)
      · exact absurd (show s₀.framers t = .start from ht) (by
          rw [not_not.mp (hclean.framers t)]
          simp)
      · simp [State.apiTo] at hcreate
    case inside =>
      intro t hin
      simp [State.apiTo, not_not.mp (hclean.framers t), FramerPc.hasLeft] at hin
    case outside =>
      intro _
      rw [hnil, show (s₀.apiTo (.runBegin p)).framed = s₀.framed from rfl, since_self]
      exact .nil hp true
  rw [run_cons, hcall] at hrun
  refine run_invariant_of_guarded
    (I := fun s => ∃ j k, Flowing p s₀ s j k ∧ Framing p.framing s₀ s) ?_ ⟨0, 0, hflow, hstart⟩
    (guarded_of_forall hacts) hrun
  rintro s a s' ⟨j, k, hflow, h⟩ ha hs
  obtain ⟨j', k', hflow'⟩ := hflow.act hp.toRegular hp.header_le ha hs
  exact ⟨j', k', hflow', h.act hp hflow ha hs⟩

omit [Inhabited α] in
/-- What was received is what is framed or carried, what the two threads have in their hands, and the
receive queue. -/
theorem Flowing.cutBytes_append {j k : ℕ} (hflow : Flowing p s₀ s j k) :
    s.cutBytes s₀ ++ (s.framers k).hand ++ stream s.recvQueue ++ (s.socks j).pc.hand =
      stream (since s₀.received s.received) := by
  rw [hflow.arrived, ← hflow.moved]
  rfl

omit [Inhabited α] in
/-- What the consumer got, with the event queue. -/
theorem Framing.framesOf {j k : ℕ} (hflow : Flowing p s₀ s j k) (h : Framing p.framing s₀ s) :
    FramesOf p.framing (s.cutBytes s₀) (s.framers k).hasLeft
      (since s₀.got s.got ++ s.eventFrame) := by
  rw [← hflow.queued]
  by_cases hleft : (s.framers k).hasLeft = true
  · rw [hleft]
    refine h.outside fun t => ?_
    by_cases htk : t = k
    · rw [htk]
      exact hleft
    · rw [hflow.framers t htk]
      rfl
  · rw [Bool.not_eq_true] at hleft
    obtain ⟨fr, hfr, hparsed⟩ := h.inside k hleft
    rw [hleft]
    refine hparsed.framesOf ?_
    rw [State.cutBytes, s.restBytes_of_some hfr]

/-- **The frames of a run are those of the greedy parse**, however TCP cuts the stream, the threads
interleave, and the consumer keeps up: what was received is what is framed or carried, what the two
threads have in their hands, and the receive queue; and what the consumer got, with the event queue,
is the frames of the first part. -/
theorem run_frames (hclean : s₀.Clean) (hp : p.framing.Delimited) {acts : List (Act α)}
    (hacts : ∀ a ∈ acts, a.InRun) (hrun : run step s₀ (.callRun p :: acts) = some s) :
    ∃ j k bs, (∀ t, s.SockAlive t → t = j) ∧ (∀ t, s.FramerAlive t → t = k) ∧
      bs ++ (s.framers k).hand ++ stream s.recvQueue ++ (s.socks j).pc.hand =
        stream (since s₀.received s.received) ∧
      FramesOf p.framing bs (s.framers k).hasLeft (since s₀.got s.got ++ s.eventFrame) := by
  obtain ⟨j, k, hflow, h⟩ := framing_of_run hclean hp hacts hrun
  exact ⟨j, k, s.cutBytes s₀, fun t ht => hflow.sock_eq ht, fun t ht => hflow.framer_eq ht,
    hflow.cutBytes_append, h.framesOf hflow⟩

end Framing

/-- Two frames and the beginning of a third arrive in two chunks, cut inside the first frame, and the
consumer takes a frame. -/
def cutInside : List (Act UInt8) :=
  (runCall byteHeader.toRunParams 0 0).tail ++ recvActs 0 (.of [2, 7]) ++
    List.replicate 6 (.framer 0) ++
    [.sock 0 .ok, .sock 0 .ok, .sock 0 (.data (.of [8, 1, 9, 3, 5])), .sock 0 .ok] ++
    List.replicate 5 (.framer 0) ++ [.getData]

theorem cutInside_frames :
    ∃ s, run step State.init (.callRun byteHeader.toRunParams :: cutInside) = some s ∧
      s.got = [[2, 7, 8]] ∧ s.eventFrame = [[1, 9]] ∧
      ∃ j k bs, (∀ t, s.SockAlive t → t = j) ∧ (∀ t, s.FramerAlive t → t = k) ∧
        bs ++ (s.framers k).hand ++ stream s.recvQueue ++ (s.socks j).pc.hand =
          stream (since [] s.received) ∧
        FramesOf byteHeader bs (s.framers k).hasLeft (since [] s.got ++ s.eventFrame) :=
  ⟨_, rfl, rfl, rfl, run_frames (p := byteHeader.toRunParams) State.clean_init byteHeader_delimited
    (by decide : ∀ a ∈ cutInside, a.InRun) rfl⟩

/-! ## The frames of a device -/

section Device

variable {p : FramingParams α} {bs : List α} {ws : List (List α)}

/-- What arrives of a stream of frames: some of them, and perhaps a beginning of the next one. -/
theorem prefix_flatten (h : bs <+: ws.flatten) :
    ∃ sent later tail, ws = sent ++ later ∧ bs = sent.flatten ++ tail ∧
      (tail = [] ∨ ∃ w later', later = w :: later' ∧ tail <+: w ∧ tail ≠ w) := by
  induction ws generalizing bs with
  | nil =>
    obtain rfl : bs = [] := List.prefix_nil.mp h
    exact ⟨[], [], [], rfl, rfl, Or.inl rfl⟩
  | cons w ws ih =>
    rw [List.flatten_cons] at h
    rcases List.prefix_or_prefix_of_prefix h (List.prefix_append w ws.flatten) with hshort | ⟨rest, rfl⟩
    · by_cases hw : bs = w
      · exact ⟨[w], ws, [], rfl, by simp [hw], Or.inl rfl⟩
      · exact ⟨[], w :: ws, bs, rfl, rfl, Or.inr ⟨w, ws, rfl, hshort, hw⟩⟩
    · -- the whole first frame has arrived
      obtain ⟨sent, later, tail, rfl, rfl, htail⟩ := ih ((List.prefix_append_right_inj w).mp h)
      exact ⟨w :: sent, later, tail, rfl, by simp, htail⟩

/-- The parse of valid frames and a proper beginning of another one. -/
theorem parse_valid (hv : Lawful p.verdict) (hpos : 1 ≤ p.headerLen.toNat) {sent : List (List α)}
    (hsent : ∀ w ∈ sent, p.ValidFrame w) {tail : List α} (htail : p.verdict tail = .more) :
    parse p.verdict (sent.flatten ++ tail) = ⟨sent, tail, false⟩ := by
  induction sent with
  | nil => exact parse_of_more hv htail
  | cons w sent ih =>
    have hw := hsent w List.mem_cons_self
    rw [List.flatten_cons, List.append_assoc, parse_of_frame hv (hw.verdict_append hpos _),
      List.drop_left, List.take_left, ih fun v hv => hsent v (List.mem_cons_of_mem w hv)]

/-- The frames of what has arrived from a device that sends valid frames. -/
theorem FramesOf.of_device (hp : p.Delimited) (hpos : 1 ≤ p.headerLen.toNat)
    (hws : ∀ w ∈ ws, p.ValidFrame w) (hbs : bs <+: ws.flatten) {left : Bool}
    {frames : List (List α)} (h : FramesOf p bs left frames) :
    ∃ sent later tail, ws = sent ++ later ∧ bs = sent.flatten ++ tail ∧
      (tail = [] ∨ ∃ w later', later = w :: later' ∧ tail <+: w ∧ tail ≠ w) ∧
      frames = sent ++ if left = true ∧ tail ≠ [] then [tail] else [] := by
  obtain ⟨sent, later, tail, rfl, rfl, htail⟩ := prefix_flatten hbs
  have hmore : p.verdict tail = .more := by
    rcases htail with rfl | ⟨w, later', rfl, hpre, hne⟩
    · exact hp.lawful.nil
    · exact (hws w (by simp)).verdict_proper hpos hpre hne
  have hsent : ∀ w ∈ sent, p.ValidFrame w := fun w hw => hws w (List.mem_append_left _ hw)
  refine ⟨sent, later, tail, rfl, rfl, htail, ?_⟩
  simpa [FramesOf, parse_valid hp.lawful hpos hsent hmore] using h

/-- What the consumer got, with the event queue, when a device sends valid frames. -/
theorem Framing.device [Inhabited α] {p : RunParams α} {s₀ s : State α} {j k : ℕ}
    (hflow : Flowing p s₀ s j k) (h : Framing p.framing s₀ s) (hp : p.framing.Delimited)
    (hpos : 1 ≤ p.framing.headerLen.toNat) (hws : ∀ w ∈ ws, p.framing.ValidFrame w)
    (hsent : stream (since s₀.received s.received) <+: ws.flatten) :
    ∃ sent later tail, ws = sent ++ later ∧
      (tail = [] ∨ ∃ w later', later = w :: later' ∧ tail <+: w ∧ tail ≠ w) ∧
      sent.flatten ++ tail ++ (s.framers k).hand ++ stream s.recvQueue ++ (s.socks j).pc.hand =
        stream (since s₀.received s.received) ∧
      since s₀.got s.got ++ s.eventFrame =
        sent ++ if (s.framers k).hasLeft = true ∧ tail ≠ [] then [tail] else [] := by
  have hbs : s.cutBytes s₀ <+: ws.flatten := by
    refine List.IsPrefix.trans ?_ hsent
    rw [← hflow.cutBytes_append, List.append_assoc, List.append_assoc]
    exact List.prefix_append _ _
  obtain ⟨sent, later, tail, hws', hcut, htail, heq⟩ :=
    (h.framesOf hflow).of_device hp hpos hws hbs
  exact ⟨sent, later, tail, hws', htail, hcut ▸ hflow.cutBytes_append, heq⟩

end Device

end SiDaqApi
