import SiDaqApi.Manager.Frames
import Mathlib.Data.List.Forall2

/-!
# One measurement after the other

A manager is used for many measurements: `SiDaqRun`, data, `SiDaqStop`, and again. When a measurement
is over and its data is taken, the manager is as it was before the first one but for what the threads
of old left in the fields that the next `SiDaqRun` writes (`Over.clean`). So the measurements do not
mix: the frames of each are those of the bytes received in it (`measurements_frames`).
-/

namespace SiDaqApi

open Machine

variable {α : Type*}

/-! ## The carry-over buffer is never reallocated -/

/-- The carry-over buffer is the one that `NewSiDaqFramer` allocates. -/
def State.Sized (s : State α) : Prop := ∀ fr, s.framer = some fr → fr.buffSize = defaultMaxFrameLen

section Sized

variable {s s' : State α} {t : ℕ}

theorem State.Sized.congr (h : s.Sized) (hframer : s'.framer = s.framer) : s'.Sized := by
  unfold State.Sized
  rw [hframer]
  exact h

theorem State.Sized.of_carry (h : s.Sized) (hcarry : SameCarry s.framer s'.framer) : s'.Sized := by
  intro fr' hfr'
  obtain ⟨fr, hfr, hsame⟩ := hcarry.exists_some hfr'
  have hsize : fr.carry.buffSize = fr'.carry.buffSize := congrArg _ hsame
  exact hsize.symm.trans (h fr hfr)

variable [Inhabited α]

theorem State.Sized.framer (h : s.Sized) (hs : framerStep s t = some s') : s'.Sized := by
  rcases framerStep_move hs with ⟨_, _, _, _, _, _, _, rfl, -, -, hcarry, -⟩ | ⟨_, _, -, -, rfl⟩ |
    ⟨c, fr, o, -, hfr, ho, rfl⟩ | ⟨fr, -, hfr, -, rfl⟩
  · exact h.of_carry hcarry
  · exact h.congr rfl
  · intro fr' hfr'
    obtain rfl := Option.some.inj hfr'
    exact (recvSiDaqData_setup ho).buffSize.trans (h fr hfr)
  · intro fr' hfr'
    obtain rfl := Option.some.inj hfr'
    exact h fr hfr

theorem State.Sized.api (h : s.Sized) {ans : ApiAnswer}
    (hs : apiStep s ans = some s') : s'.Sized := by
  rcases apiStep_move hs with ⟨_, _, _, _, _, _, rfl, -⟩ | ⟨_, _, _, _, _, rfl, -⟩ |
    ⟨_, _, -, -, rfl⟩ | ⟨q, -, rfl⟩ | ⟨_, -, -, rfl⟩ | ⟨_, _, -, rfl⟩ | ⟨_, _, _, -, -, rfl⟩ |
    ⟨_, _, _, -, -, rfl⟩
  case configure =>
    -- `SiDaqRun` configures the framer, which may be a new one
    intro fr' hfr'
    obtain rfl := Option.some.inj hfr'
    show (s.framer.getD newSiDaqFramer).buffSize = defaultMaxFrameLen
    cases hfr : s.framer with
    | none => rfl
    | some fr => exact h fr hfr
  all_goals exact h.congr rfl

theorem State.Sized.step (h : s.Sized) {a : Act α} (hs : step s a = some s') : s'.Sized := by
  cases a with
  | sock t ans =>
    obtain ⟨-, _, _, _, _, _, _, rfl⟩ := sockStep_change hs
    exact h.congr rfl
  | framer t => exact h.framer hs
  | api ans => exact h.api hs
  | callRun q | callStop | callReset | callTerminate =>
    obtain ⟨_, -, rfl⟩ := callStep_begins hs
    exact h.congr rfl
  | getData =>
    obtain ⟨_, _, -, rfl⟩ := getData_takes hs
    exact h.congr rfl
  | pause | resume =>
    simp only [SiDaqApi.step, Option.some.injEq] at hs
    subst hs
    exact h.congr rfl

end Sized

/-! ## The end of a measurement -/

/-- The measurement is over, and its data is taken. -/
structure State.Over (s : State α) : Prop where
  api : s.ApiIdle
  socks : ∀ t, ¬ s.SockAlive t
  framers : ∀ t, ¬ s.FramerAlive t
  recvQueue : s.recvQueue = []
  eventFrame : s.eventFrame = []

/-- A call of `SiDaqRun` and what happens then. -/
structure Measurement (α : Type*) where
  params : RunParams α
  acts : List (Act α)

/-- Measurements one after the other, each over before the next one, with what each received. -/
inductive Measured [Inhabited α] : State α → List (Measurement α × List (Chunk α)) → State α → Prop
  | nil (s : State α) : Measured s [] s
  | cons {s s₁ s₂ : State α} {m : Measurement α} {ms : List (Measurement α × List (Chunk α))}
      (hacts : ∀ a ∈ m.acts, a.InRun) (hrun : run step s (.callRun m.params :: m.acts) = some s₁)
      (hover : s₁.Over) (hrest : Measured s₁ ms s₂) :
      Measured s ((m, since s.received s₁.received) :: ms) s₂

section Measured

variable [Inhabited α] {s₀ s : State α} {p : RunParams α}

/-- **A measurement that is over**: the manager can start another one, and the frames are those of
the bytes received. -/
theorem measurement_frames (hclean : s₀.Clean) (hp : p.framing.Delimited) {acts : List (Act α)}
    (hacts : ∀ a ∈ acts, a.InRun) (hrun : run step s₀ (.callRun p :: acts) = some s)
    (hover : s.Over) :
    s.Clean ∧ s₀.received <+: s.received ∧ s₀.got <+: s.got ∧
      FramesOf p.framing (stream (since s₀.received s.received)) true (since s₀.got s.got) := by
  obtain ⟨j, k, hflow, h⟩ := framing_of_run hclean hp hacts hrun
  have hframer : s.framers k = .off := not_not.mp (hover.framers k)
  have hsock : (s.socks j).pc = .off := not_not.mp (hover.socks j)
  have hsized : s.Sized :=
    run_invariant (fun _ _ _ h hs => State.Sized.step h hs) hclean.size hrun
  have hbytes := hflow.cutBytes_append
  have hframes := h.framesOf hflow
  rw [hframer, hsock, hover.recvQueue] at hbytes
  rw [hframer, hover.eventFrame, List.append_nil] at hframes
  have hcut : s.cutBytes s₀ = stream (since s₀.received s.received) := by
    simpa [FramerPc.hand, SockPc.hand] using hbytes
  refine ⟨⟨hover.api, hover.socks, hover.framers, hover.recvQueue, hover.eventFrame, ?_, hsized⟩,
    hflow.receivedMono, hflow.gotMono, hcut ▸ hframes⟩
  exact hflow.nothing (Or.inl (by rw [hframer]; rfl))

end Measured

/-! ## Two measurements -/

/-- A chunk arrives at thread `t`, `SiDaqStop` is called, both threads end, and the consumer takes what
there is. -/
def measuring (t : ℕ) (c : Chunk UInt8) : Measurement UInt8 :=
  ⟨byteHeader.toRunParams, (runCall byteHeader.toRunParams t t).tail ++ recvActs t c ++
    List.replicate 6 (.framer t) ++ [.callStop] ++ List.replicate 6 (.api .ok) ++
    [.sock t .ok, .sock t .ok, .sock t (.error 10038), .sock t .ok, .sock t .ok, .sock t .ok] ++
    List.replicate 8 (.framer t) ++ [.getData]⟩

/-- The first one ends inside a frame. -/
def cutFrame : List (Measurement UInt8 × List (Chunk UInt8)) :=
  [(measuring 0 (.of [2, 70]), [.of [2, 70]]), (measuring 1 (.of [1, 80]), [.of [1, 80]])]

theorem measured_cutFrame :
    ∃ s, Measured State.init cutFrame s ∧ s.got = [[2, 70], [1, 80]] := by
  obtain ⟨cs, cs', s, hmeasured, rfl, rfl, hgot⟩ : ∃ cs cs' s, Measured State.init
      [(measuring 0 (.of [2, 70]), cs), (measuring 1 (.of [1, 80]), cs')] s ∧
        cs = [.of [2, 70]] ∧ cs' = [.of [1, 80]] ∧ s.got = [[2, 70], [1, 80]] := by
    refine ⟨_, _, _, .cons ?_ rfl ⟨⟨_, rfl⟩, fun t => ?_, fun t => ?_, rfl, rfl⟩
      (.cons ?_ rfl ⟨⟨_, rfl⟩, fun t => ?_, fun t => ?_, rfl, rfl⟩ (.nil _)), ?_⟩
    · decide
    · cases t <;> exact not_not.mpr rfl
    · cases t <;> exact not_not.mpr rfl
    · decide
    · rcases t with _ | _ | t <;> exact not_not.mpr rfl
    · rcases t with _ | _ | t <;> exact not_not.mpr rfl
    · exact ⟨rfl, rfl, rfl⟩
  exact ⟨s, hmeasured, hgot⟩

end SiDaqApi
