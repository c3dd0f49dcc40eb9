import SiDaqApi.Framer.Effects
import SiDaqApi.Lib.Machine

/-!
# The limit of the event queue

`Receiving` is `RecvSiDaqData` insert by insert: the carry-over phase and the iterations of the loop
are steps of their own, and the consumer may take frames between any two of them. A `LimitLog` lists
how many elements the queue had after each insert. `EventRun.recorded_iff`: the limit error is
recorded exactly when an insert filled the queue up to the limit, where the documentation says
"exceeds".
-/

namespace SiDaqApi

open Machine MachineInt

variable {α : Type*}

/-! ## What is asked of a limit -/

/-- A record of one queue: the number of elements after each insert, and whether the limit error was
recorded. -/
structure LimitLog where
  levels : List ℕ
  recorded : Bool

/-- The limit error is recorded if and only if some insert made the queue hold more elements. -/
def LimitLog.Enforces (log : LimitLog) (limit : ℕ) : Prop :=
  log.recorded = true ↔ ∃ n ∈ log.levels, limit < n

/-- The empty record. -/
def LimitLog.empty : LimitLog := ⟨[], false⟩

/-! ## `RecvSiDaqData`, insert by insert -/

/-- `RecvSiDaqData` between two of its inserts: not called, or in its loop over the chunk `data`. -/
inductive Receiving (α : Type*)
  | idle (fr : SiDaqFramer α) (que : List (List α))
  | busy (data : List α) (l : Locals α)

def Receiving.framer : Receiving α → SiDaqFramer α
  | .idle fr _ => fr
  | .busy _ l => l.framer

def Receiving.que : Receiving α → List (List α)
  | .idle _ que => que
  | .busy _ l => l.que

/-- The call of `RecvSiDaqData` on a chunk, the next iteration of its loop, or an `SQGet` of the
consumer. -/
inductive ReceivingAct (α : Type*)
  | call (data : List α)
  | iterate
  | get

/-- Where a part of the call leads. -/
def Receiving.after (data : List α) : Flow α → Option (Receiving α)
  | .done o => some (.idle o.framer o.que)
  | .next l => some (.busy data l)
  | .fault => none

def Receiving.step [Inhabited α] : Receiving α → ReceivingAct α → Option (Receiving α)
  | .idle fr que, .call data =>
    if fr.rest > 0 then Receiving.after data (carryOver fr data que)
    else some (.busy data (.start fr data que))
  | .busy data l, .iterate => Receiving.after data (loopBody data l)
  | .idle fr (_ :: que), .get => some (.idle fr que)
  | .busy data l, .get =>
    match l.que with
    | [] => none
    | _ :: que => some (.busy data { l with que := que })
  | _, _ => none

/-- The loop is a run of iterations. -/
theorem Receiving.run_iterate [Inhabited α] {data : List α} {fuel : ℕ} {l : Locals α}
    {o : Outcome α} (h : recvLoop data fuel l = some o) :
    ∃ n, run Receiving.step (.busy data l) (List.replicate n .iterate) =
      some (.idle o.framer o.que) := by
  induction fuel generalizing l with
  | zero => simp [recvLoop] at h
  | succ fuel ih =>
    simp only [recvLoop] at h
    cases hbody : loopBody data l with
    | done o' =>
      simp only [hbody, Option.some.injEq] at h
      subst h
      refine ⟨1, ?_⟩
      simp [run_cons, Receiving.step, hbody, Receiving.after]
    | next l' =>
      simp only [hbody] at h
      obtain ⟨n, hn⟩ := ih h
      refine ⟨n + 1, ?_⟩
      rw [List.replicate_succ, run_cons]
      simpa [Receiving.step, hbody, Receiving.after] using hn
    | fault => simp [hbody] at h

/-- **A call that nobody interrupts is `RecvSiDaqData`.** -/
theorem Receiving.run_call [Inhabited α] {fr : SiDaqFramer α} {data : List α}
    {que : List (List α)} {o : Outcome α} (h : recvSiDaqData fr data que = some o) :
    ∃ n, run Receiving.step (.idle fr que) (.call data :: List.replicate n .iterate) =
      some (.idle o.framer o.que) := by
  simp only [recvSiDaqData] at h
  split at h
  · rename_i hpos
    cases hcarry : carryOver fr data que with
    | done o' =>
      simp only [hcarry, Option.some.injEq] at h
      subst h
      refine ⟨0, ?_⟩
      simp [run_cons, Receiving.step, hpos, hcarry, Receiving.after]
    | next l =>
      simp only [hcarry] at h
      obtain ⟨n, hn⟩ := Receiving.run_iterate h
      refine ⟨n, ?_⟩
      rw [run_cons]
      simpa [Receiving.step, hpos, hcarry, Receiving.after] using hn
    | fault => simp [hcarry] at h
  · rename_i hpos
    obtain ⟨n, hn⟩ := Receiving.run_iterate h
    refine ⟨n, ?_⟩
    rw [run_cons]
    simpa [Receiving.step, hpos] using hn

/-! ## What a step inserts -/

/-- A code that is not written is the code before, if it is the code after. -/
theorem lastError_of_not_mem {code c : FramerErrorCode} {es : List (Effect α)}
    (hnot : c ∉ errors es) (h : lastError code es = c) : code = c := by
  rw [lastError, List.getLastD_eq_getLast?] at h
  cases hlast : (errors es).getLast? with
  | none => simpa [hlast] using h
  | some c' =>
    rw [hlast, Option.getD_some] at h
    subst h
    exact absurd (List.mem_of_getLast? hlast) hnot

/-- The effects of a part of the call: no insert, or one insert at the end with its limit test.
Nothing else writes the limit error. -/
inductive Inserts (fr : SiDaqFramer α) (que : List (List α)) : List (Effect α) → Prop
  | none (es : List (Effect α)) (hframes : frames es = [])
      (hcodes : FramerErrorCode.exceedFrameQueueCount ∉ errors es) : Inserts fr que es
  | one (es : List (Effect α)) (fr' : SiDaqFramer α) (eventLen : ℤ) (frame : List α)
      (hframes : frames es = []) (hcodes : FramerErrorCode.exceedFrameQueueCount ∉ errors es)
      (hlimit : fr'.queueLimit = fr.queueLimit) :
      Inserts fr que (es ++ fr'.putEffects eventLen frame (sqPut que frame).2)

theorem Locals.inserts [Inhabited α] (data : List α) (l : Locals α) :
    Inserts l.framer l.que (l.effects data) := by
  unfold Locals.effects
  cases l.readPtr with
  | none => exact .none [] rfl (by simp [errors])
  | some p =>
    simp only
    by_cases hshort : l.dataLen = 0 ∨ l.dataLen < l.framer.headerLen
    · rw [if_pos hshort]
      exact .none [] rfl (by simp [errors])
    · rw [if_neg hshort]
      split
      · exact .one _ _ _ _ (l.framer.lengthEffects_frames _ _)
          (l.framer.lengthEffects_not_limit _ _) (l.framer.frameLength_setup _ _).queueLimit
      · rw [List.append_nil]
        exact .none _ (l.framer.lengthEffects_frames _ _) (l.framer.lengthEffects_not_limit _ _)

theorem carryEffects_inserts [Inhabited α] (fr : SiDaqFramer α) (data : List α)
    (que : List (List α)) : Inserts fr que (carryEffects fr data que) := by
  simp only [carryEffects]
  generalize (if (data.length : ℤ) < fr.buffSize - fr.rest then (data.length : ℤ)
    else fr.buffSize - fr.rest) = copyLen
  generalize buffWrite fr.buffPtr fr.rest (chunkBytes data 0 copyLen) = buff
  have hlimit : ({ fr with buffPtr := buff }.frameLength (buffBytes buff (fr.rest + copyLen))
      (fr.rest + copyLen)).2.queueLimit = fr.queueLimit :=
    ({ fr with buffPtr := buff }.frameLength_setup _ _).queueLimit
  by_cases hsize : fr.buffSize - fr.rest < 0
  · rw [if_pos hsize]
    exact .none _ rfl (by simp [errors])
  · rw [if_neg hsize]
    split
    · exact .one _ _ _ _ (SiDaqFramer.lengthEffects_frames _ _ _)
        (SiDaqFramer.lengthEffects_not_limit _ _ _) hlimit
    · rw [List.append_nil]
      exact .none _ (SiDaqFramer.lengthEffects_frames _ _ _)
        (SiDaqFramer.lengthEffects_not_limit _ _ _)

/-- What a step does to the queue and to the limit error. -/
inductive Receiving.Turn (s s' : Receiving α) : Prop
  /-- It inserts nothing, and does not record the error. -/
  | keep (hque : s'.que.length ≤ s.que.length)
      (hlimit : s'.framer.queueLimit = s.framer.queueLimit)
      (hcode : s'.framer.errorCode = .exceedFrameQueueCount →
        s.framer.errorCode = .exceedFrameQueueCount)
  /-- It inserts a frame, and records the error if the queue has got to the limit. -/
  | insert (hque : s'.que.length = s.que.length + 1)
      (hlimit : s'.framer.queueLimit = s.framer.queueLimit)
      (hfull : s.framer.atQueueLimit s'.que.length →
        s'.framer.errorCode = .exceedFrameQueueCount)
      (hcode : s'.framer.errorCode = .exceedFrameQueueCount →
        s.framer.atQueueLimit s'.que.length ∨ s.framer.errorCode = .exceedFrameQueueCount)

theorem Inserts.turn {s s' : Receiving α} {es : List (Effect α)}
    (h : Inserts s.framer s.que es) (hexp : Explains es s.que s.framer s'.que s'.framer)
    (hlimit : s'.framer.queueLimit = s.framer.queueLimit) : Receiving.Turn s s' := by
  obtain ⟨hque, hcode⟩ := hexp
  cases h with
  | none _ hframes hcodes =>
    rw [hframes, List.append_nil] at hque
    apply Receiving.Turn.keep (by rw [hque]) hlimit
    intro hexceed
    exact lastError_of_not_mem hcodes (hcode.symm.trans hexceed)
  | one es₀ fr' eventLen frame hframes hcodes hlimit' =>
    rw [frames_append, hframes, fr'.putEffects_frames, List.nil_append] at hque
    have hcount : (sqPut s.que frame).2 = s'.que.length := by rw [hque]; rfl
    have hpos : ¬ ((s'.que.length : ℕ) : ℤ) < 0 := by omega
    have hat : fr'.atQueueLimit s'.que.length ↔ s.framer.atQueueLimit s'.que.length := by
      simp only [SiDaqFramer.atQueueLimit, hlimit']
    rw [hcount, lastError_append, fr'.putEffects_code, if_neg hpos] at hcode
    apply Receiving.Turn.insert (by rw [hque]; simp) hlimit
    · intro hfull
      rw [hcode, if_pos (hat.mpr hfull)]
    · intro hexceed
      by_cases hfull : fr'.atQueueLimit s'.que.length
      · exact Or.inl (hat.mp hfull)
      · rw [hcode, if_neg hfull] at hexceed
        exact Or.inr (lastError_of_not_mem hcodes hexceed)

/-- A part of the call, by its effects. -/
theorem Receiving.turn_after {s s' : Receiving α} {data : List α} {f : Flow α}
    {es : List (Effect α)} (h : Inserts s.framer s.que es)
    (hexp : ∀ fr que, f.framer = some fr → f.que = some que →
      Explains es s.que s.framer que fr)
    (hsetup : ∀ fr, f.framer = some fr → SameSetup s.framer fr)
    (hstep : Receiving.after data f = some s') : Receiving.Turn s s' := by
  cases f with
  | done o =>
    obtain rfl := Option.some.inj hstep
    exact h.turn (hexp o.framer o.que rfl rfl) (hsetup o.framer rfl).queueLimit
  | next l =>
    obtain rfl := Option.some.inj hstep
    exact h.turn (hexp l.framer l.que rfl rfl) (hsetup l.framer rfl).queueLimit
  | fault => simp [Receiving.after] at hstep

/-- **A step inserts a frame and tests the limit, or does neither.** -/
theorem Receiving.step_turn [Inhabited α] {s s' : Receiving α} {a : ReceivingAct α}
    (hstep : s.step a = some s') : Receiving.Turn s s' := by
  cases s with
  | idle fr que =>
    cases a with
    | call data =>
      simp only [Receiving.step] at hstep
      split at hstep
      · exact Receiving.turn_after (carryEffects_inserts fr data que)
          (fun _ _ => carryOver_explains fr data que) (fun _ => carryOver_setup fr data que) hstep
      · obtain rfl := Option.some.inj hstep
        exact .keep le_rfl rfl id
    | iterate => simp [Receiving.step] at hstep
    | get =>
      cases que with
      | nil => simp [Receiving.step] at hstep
      | cons f que =>
        obtain rfl := Option.some.inj hstep
        exact .keep (by simp [Receiving.que]) rfl id
  | busy data l =>
    cases a with
    | call data => simp [Receiving.step] at hstep
    | iterate =>
      exact Receiving.turn_after (l.inserts data) (fun _ _ => loopBody_explains data l)
        (fun _ => loopBody_setup data l) hstep
    | get =>
      simp only [Receiving.step] at hstep
      split at hstep
      · simp at hstep
      · rename_i f que hque
        obtain rfl := Option.some.inj hstep
        exact .keep (by simp [Receiving.que, hque]) rfl id

/-! ## Runs -/

/-- `RecvSiDaqData` and the consumer, with the record of the event queue. -/
structure EventRun (α : Type*) where
  state : Receiving α
  log : LimitLog

def EventRun.start (fr : SiDaqFramer α) (que : List (List α)) : EventRun α :=
  ⟨.idle fr que, .empty⟩

def EventRun.step [Inhabited α] (e : EventRun α) (a : ReceivingAct α) : Option (EventRun α) :=
  (e.state.step a).map fun s' =>
    ⟨s', {
      levels :=
        if e.state.que.length < s'.que.length then e.log.levels ++ [s'.que.length]
        else e.log.levels
      recorded := e.log.recorded || decide (s'.framer.errorCode = .exceedFrameQueueCount) }⟩

/-- What every step keeps: the error is recorded by the test of an insert, and every number of
elements above the `start` ones has been reached by an insert. -/
structure EventRun.Logged (start limit : ℕ) (e : EventRun α) : Prop where
  limit_eq : e.state.framer.queueLimit = limit
  code : e.state.framer.errorCode = .exceedFrameQueueCount → e.log.recorded = true
  recorded : e.log.recorded = true ↔ ∃ n ∈ e.log.levels, (limit : ℤ) ≤ uint32 n
  filled : ∀ m, start < m → (m ≤ e.state.que.length ∨ ∃ n ∈ e.log.levels, m ≤ n) →
    m ∈ e.log.levels

theorem EventRun.logged_start {fr : SiDaqFramer α} (que : List (List α))
    (hcode : fr.errorCode ≠ .exceedFrameQueueCount) :
    (EventRun.start fr que).Logged que.length fr.queueLimit where
  limit_eq := rfl
  code := fun hexceed => absurd hexceed hcode
  recorded := by simp [EventRun.start, LimitLog.empty]
  filled := by
    rintro m hm (hle | ⟨n, hn, -⟩)
    · exact absurd hle (not_le.mpr hm)
    · simp [EventRun.start, LimitLog.empty] at hn

theorem EventRun.Logged.step [Inhabited α] {start limit : ℕ} {e e' : EventRun α}
    {a : ReceivingAct α} (h : e.Logged start limit) (hne : limit ≠ 0)
    (hstep : e.step a = some e') : e'.Logged start limit := by
  obtain ⟨s', hs', rfl⟩ := Option.map_eq_some_iff.mp hstep
  rcases Receiving.step_turn hs' with ⟨hque, hlimit, hcode⟩ | ⟨hque, hlimit, hfull, hcode⟩
  · -- nothing is inserted
    have hnot : ¬ e.state.que.length < s'.que.length := by omega
    have hrecorded : (e.log.recorded || decide (s'.framer.errorCode = .exceedFrameQueueCount))
        = e.log.recorded := by
      by_cases hexceed : s'.framer.errorCode = .exceedFrameQueueCount
      · simp [h.code (hcode hexceed)]
      · simp [hexceed]
    constructor <;> simp only [if_neg hnot, hrecorded]
    case limit_eq => exact hlimit.trans h.limit_eq
    case code => exact fun hexceed => h.code (hcode hexceed)
    case recorded => exact h.recorded
    case filled =>
      rintro m hm (hle | hn)
      · exact h.filled m hm (Or.inl (hle.trans hque))
      · exact h.filled m hm (Or.inr hn)
  · -- a frame is inserted, and the test records the error or not
    have hlt : e.state.que.length < s'.que.length := by omega
    have hat : e.state.framer.atQueueLimit s'.que.length ↔
        (limit : ℤ) ≤ uint32 s'.que.length := by
      simp [SiDaqFramer.atQueueLimit, h.limit_eq, hne]
    constructor <;> simp only [if_pos hlt]
    case limit_eq => exact hlimit.trans h.limit_eq
    case code => exact fun hexceed => by simp [hexceed]
    case recorded =>
      rw [Bool.or_eq_true, decide_eq_true_iff, h.recorded]
      constructor
      · rintro (⟨n, hn, hle⟩ | hexceed)
        · exact ⟨n, List.mem_append_left _ hn, hle⟩
        · rcases hcode hexceed with hnow | hbefore
          · exact ⟨s'.que.length, by simp, hat.mp hnow⟩
          · obtain ⟨n, hn, hle⟩ := h.recorded.mp (h.code hbefore)
            exact ⟨n, List.mem_append_left _ hn, hle⟩
      · rintro ⟨n, hn, hle⟩
        rcases List.mem_append.mp hn with hn | hn
        · exact Or.inl ⟨n, hn, hle⟩
        · rw [List.mem_singleton.mp hn] at hle
          exact Or.inr (hfull (hat.mpr hle))
    case filled =>
      intro m hm hor
      by_cases hself : m = s'.que.length
      · simp [hself]
      · apply List.mem_append_left
        apply h.filled m hm
        rcases hor with hle | ⟨n, hn, hle⟩
        · exact Or.inl (by omega)
        · rcases List.mem_append.mp hn with hn | hn
          · exact Or.inr ⟨n, hn, hle⟩
          · rw [List.mem_singleton.mp hn] at hle
            exact Or.inl (by omega)

/-- **The event queue: the error is recorded when an insert fills the queue up to the limit**, in
either phase and whatever the consumer takes in between. -/
theorem EventRun.recorded_iff [Inhabited α] {fr : SiDaqFramer α} {que : List (List α)}
    {acts : List (ReceivingAct α)} {e : EventRun α} (hne : fr.queueLimit ≠ 0)
    (hlimit : fr.queueLimit < 4294967296) (hcode : fr.errorCode ≠ .exceedFrameQueueCount)
    (hque : que.length < 2147483648)
    (hrun : run EventRun.step (.start fr que) acts = some e) :
    e.log.recorded = true ↔ ∃ n ∈ e.log.levels, fr.queueLimit ≤ n := by
  have h : e.Logged que.length fr.queueLimit :=
    run_invariant (fun _ _ _ h hstep => h.step hne hstep) (EventRun.logged_start que hcode) hrun
  rw [h.recorded]
  constructor
  · rintro ⟨n, hn, hle⟩
    refine ⟨n, hn, ?_⟩
    unfold uint32 at hle
    omega
  · rintro ⟨n, hn, hle⟩
    by_cases hbig : n < 4294967296
    · refine ⟨n, hn, ?_⟩
      rw [uint32_of_range (by omega) (by omega)]
      exact_mod_cast hle
    · -- on the way there the count was the largest `unsigned int`
      refine ⟨4294967295, h.filled _ (by omega) (Or.inr ⟨n, hn, by omega⟩), ?_⟩
      rw [uint32_of_range (by norm_num) (by norm_num)]
      exact_mod_cast (by omega : fr.queueLimit ≤ 4294967295)

/-- A limit that is tested with `>=` is enforced unless the queue gets exactly that full. -/
theorem LimitLog.enforces_iff {log : LimitLog} {limit : ℕ}
    (h : log.recorded = true ↔ ∃ n ∈ log.levels, limit ≤ n) :
    log.Enforces limit ↔ (limit ∈ log.levels → ∃ n ∈ log.levels, limit < n) := by
  unfold LimitLog.Enforces
  rw [h]
  constructor
  · intro hiff hmem
    exact hiff.mp ⟨limit, hmem, le_rfl⟩
  · intro hmore
    constructor
    · rintro ⟨n, hn, hle⟩
      rcases hle.lt_or_eq with hlt | heq
      · exact ⟨n, hn, hlt⟩
      · exact hmore (heq ▸ hn)
    · rintro ⟨n, hn, hlt⟩
      exact ⟨n, hn, hlt.le⟩

end SiDaqApi
