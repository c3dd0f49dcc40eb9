import SiDaqApi.Manager.Frames
import SiDaqApi.Samples.LengthFuncs

/-!
# From the pseudo device to the consumer

The whole way of a frame: `PseudoDataGenerator` makes it, TCP cuts the stream somewhere, the socket
thread and the framer thread pass it on, with the length function of one of the samples, and the
consumer takes it from the event queue. Whatever the interleaving, it gets the frames of the device
(`pseudo_frames`).
-/

namespace SiDaqApi

open MachineInt BigEndian Machine

/-! ## The samples as length functions -/

/-- A sample's function as `SiDaqRun` gets it. It is told of no more than `UINT_MAX` bytes. -/
def asLengthFunc (f : List UInt8 → UInt32 → UInt32 → ℤ) : LengthFunc UInt8 := fun _ bs headerLen =>
  let given := bs.take 4294967295
  .ofInt (f given (.ofNat given.length) (.ofNat headerLen.toNat))

/-- The function reads headers of this width. -/
def Decodes (f : List UInt8 → UInt32 → UInt32 → ℤ) (headerLen : UInt32) : Prop :=
  ∀ (bs : List UInt8) (dataLen : UInt32), bs.length = dataLen.toNat → headerLen ≤ dataLen →
    f bs dataLen headerLen = decided (value (bs.take headerLen.toNat))

/-- Both samples read headers of one to four bytes. -/
theorem decodes_getFrameLength {shl : ℤ → ℕ → ℤ} (hshl : ShiftsInt shl) {headerLen : UInt32}
    (hpos : 1 ≤ headerLen) (hle : headerLen ≤ 4) : Decodes (getFrameLength shl) headerLen :=
  fun _ _ hbs hdata => getFrameLength_eq hshl hpos hle hbs hdata

theorem decodes_getHeaderLengthFuncSample {headerLen : UInt32} (hpos : 1 ≤ headerLen)
    (hle : headerLen ≤ 4) : Decodes getHeaderLengthFuncSample headerLen := by
  intro bs dataLen hbs hdata
  have hn4 : headerLen.toNat ≤ 4 := by simpa using UInt32.le_iff_toNat_le.mp hle
  rw [getHeaderLengthFuncSample_eq hpos (by unfold maxByteArray; omega) hbs hdata,
    show headerLen.toNat - 4 = 0 by omega, List.drop_zero]

section Decodes

variable {f : List UInt8 → UInt32 → UInt32 → ℤ} {headerLen : UInt32}

/-- What the framer gets for a frame start that holds the header. -/
theorem Decodes.asLengthFunc_eq (hf : Decodes f headerLen) (hle : headerLen.toNat ≤ 2) (n : ℕ)
    {bs : List UInt8} (hbs : headerLen.toNat ≤ bs.length) :
    asLengthFunc f n bs headerLen.toNat = .ofInt (decided (value (bs.take headerLen.toNat))) := by
  have hgiven : (bs.take 4294967295).length < 4294967296 := by
    rw [List.length_take]
    omega
  have hlen : (UInt32.ofNat (bs.take 4294967295).length).toNat = (bs.take 4294967295).length := by
    rw [UInt32.toNat_ofNat']
    exact Nat.mod_eq_of_lt hgiven
  have hheader : UInt32.ofNat (headerLen.toNat : ℤ).toNat = headerLen := by simp
  have htold : headerLen ≤ UInt32.ofNat (bs.take 4294967295).length := by
    rw [UInt32.le_iff_toNat_le, hlen, List.length_take]
    omega
  simp only [asLengthFunc, hheader]
  rw [hf _ _ hlen.symm htold, List.take_take, Nat.min_eq_left (by omega)]

/-- The header alone decides. -/
theorem Decodes.stableOn (hf : Decodes f headerLen) (hle : headerLen.toNat ≤ 2) :
    StableOn (asLengthFunc f) headerLen.toNat := by
  intro m n bs bs' hbs hbs' htake
  rw [hf.asLengthFunc_eq hle m (by omega), hf.asLengthFunc_eq hle n (by omega)]
  rw [Int.toNat_natCast] at htake
  rw [htake]

end Decodes

/-! ## The frames of the pseudo device -/

section Pseudo

variable {f : List UInt8 → UInt32 → UInt32 → ℤ} {p : FramingParams UInt8} {header sendUnit : ℤ}

/-- `SiDaqRun` with a sample's length function, and room for a frame. -/
structure FramingParams.FitsPseudo (p : FramingParams UInt8)
    (f : List UInt8 → UInt32 → UInt32 → ℤ) (g : PseudoDataGenerator) : Prop where
  lengthFunc : p.lengthFunc = some (asLengthFunc f)
  decodes : Decodes f p.headerLen
  header : p.headerLen.toNat = g.header
  noLimit : p.frameQueueLimit = 0
  frame_le : g.createFixedPattern.length ≤ p.maxFrameLen.toNat
  max_le : p.maxFrameLen.toNat ≤ defaultMaxFrameLen

variable (hp : p.FitsPseudo f (.init header sendUnit))
  (hheader : (PseudoDataGenerator.init header sendUnit).header ∈ Set.Icc 1 2)

include hp hheader

theorem FramingParams.FitsPseudo.length_eq :
    (PseudoDataGenerator.init header sendUnit).createFixedPattern.length =
      p.headerLen.toNat + (PseudoDataGenerator.init header sendUnit).pattern.length := by
  rw [PseudoDataGenerator.createFixedPattern_eq (by have := hheader.1; omega), List.length_append,
    length_bytes, hp.header]

theorem FramingParams.FitsPseudo.ne_nil :
    (PseudoDataGenerator.init header sendUnit).createFixedPattern ≠ [] := by
  intro hnil
  have hlen := hp.length_eq hheader
  have hmin := (PseudoDataGenerator.init_spec header sendUnit).1
  rw [hnil, List.length_nil] at hlen
  omega

theorem FramingParams.FitsPseudo.delimited : p.Delimited where
  accepted := by
    have hlen := hp.length_eq hheader
    have hmin := (PseudoDataGenerator.init_spec header sendUnit).1
    have hle := hp.frame_le
    omega
  max_le := hp.max_le
  stable := by
    intro g hg
    rw [hp.lengthFunc, Option.some.injEq] at hg
    rw [← hg]
    exact hp.decodes.stableOn (hp.header ▸ hheader.2)
  noLimit := hp.noLimit
  header_le := hp.header ▸ hheader.2
  mode := Or.inl ⟨by simp [hp.lengthFunc], hp.header ▸ hheader.1⟩

/-- The frame of the pseudo device is what its header says. -/
theorem FramingParams.FitsPseudo.validFrame :
    p.ValidFrame (PseudoDataGenerator.init header sendUnit).createFixedPattern := by
  have hlen := hp.length_eq hheader
  obtain ⟨hmin, hmax, -⟩ := PseudoDataGenerator.init_spec header sendUnit
  refine ⟨by omega, hp.frame_le, ?_⟩
  have hone := hheader.1
  have htake : ((PseudoDataGenerator.init header sendUnit).createFixedPattern.take
      p.headerLen.toNat).length = p.headerLen.toNat := by
    rw [List.length_take, hlen]
    omega
  have hwidth : p.headerLen.toNat ≠ 0 := by
    rw [hp.header]
    omega
  have hvalue := PseudoDataGenerator.value_header hwidth hp.header.symm []
  rw [List.append_nil] at hvalue
  have hne : (PseudoDataGenerator.init header sendUnit).pattern.length ≠ 0 := by omega
  have hwrap : wrap32 (PseudoDataGenerator.init header sendUnit).pattern.length =
      (PseudoDataGenerator.init header sendUnit).pattern.length := by
    apply wrap32_of_range <;> omega
  have hpart : p.lengthPart ((PseudoDataGenerator.init header sendUnit).createFixedPattern.take
      p.headerLen.toNat) = (PseudoDataGenerator.init header sendUnit).pattern.length := by
    simp only [FramingParams.lengthPart, hp.lengthFunc]
    rw [hp.decodes.asLengthFunc_eq (hp.header ▸ hheader.2) 0 htake.ge, List.take_take,
      Nat.min_self, hvalue, decided, if_neg hne, hwrap]
    apply Int32.toInt_ofInt_of_le <;> omega
  rw [hpart, hlen]
  push_cast
  rfl

end Pseudo

/-- **The consumer gets the frames of the pseudo device.** Of what arrives from a device that has sent
its frame `n` times, all frames that the framer thread has taken completely are in the event queue or
consumed, unchanged, with any cut of the stream and any interleaving; only the last one may be cut
off, where the run ends. -/
theorem pseudo_frames {f : List UInt8 → UInt32 → UInt32 → ℤ} {q : RunParams UInt8}
    {header sendUnit : ℤ} (hq : q.framing.FitsPseudo f (.init header sendUnit))
    (hheader : (PseudoDataGenerator.init header sendUnit).header ∈ Set.Icc 1 2)
    {s₀ s : State UInt8} (hclean : s₀.Clean) {acts : List (Act UInt8)} (hacts : ∀ a ∈ acts, a.InRun)
    (hrun : run step s₀ (.callRun q :: acts) = some s) {n : ℕ}
    (hsent : stream (since s₀.received s.received) <+:
      (List.replicate n (PseudoDataGenerator.init header sendUnit).createFixedPattern).flatten) :
    ∃ j k m tail, m ≤ n ∧ tail <+: (PseudoDataGenerator.init header sendUnit).createFixedPattern ∧
      tail ≠ (PseudoDataGenerator.init header sendUnit).createFixedPattern ∧
      (List.replicate m (PseudoDataGenerator.init header sendUnit).createFixedPattern).flatten ++
        tail ++ (s.framers k).hand ++ stream s.recvQueue ++ (s.socks j).pc.hand =
          stream (since s₀.received s.received) ∧
      since s₀.got s.got ++ s.eventFrame =
        List.replicate m (PseudoDataGenerator.init header sendUnit).createFixedPattern ++
          if (s.framers k).hasLeft = true ∧ tail ≠ [] then [tail] else [] := by
  have hpos : 1 ≤ q.framing.headerLen.toNat := hq.header ▸ hheader.1
  have hvalid := hq.validFrame hheader
  have hall : ∀ w ∈ List.replicate n (PseudoDataGenerator.init header sendUnit).createFixedPattern,
      q.framing.ValidFrame w := by
    intro w hw
    rw [List.eq_of_mem_replicate hw]
    exact hvalid
  obtain ⟨j, k, hflow, h⟩ := framing_of_run hclean (hq.delimited hheader) hacts hrun
  obtain ⟨sent, later, tail, hws, htail, hbytes, hframes⟩ :=
    h.device hflow (hq.delimited hheader) hpos hall hsent
  obtain ⟨hm, hsent', hlater⟩ := List.append_eq_replicate_iff.mp hws.symm
  rw [hsent'] at hbytes hframes
  have hnext : ∀ w ∈ later, w = (PseudoDataGenerator.init header sendUnit).createFixedPattern := by
    intro w hw
    rw [hlater] at hw
    exact List.eq_of_mem_replicate hw
  refine ⟨j, k, sent.length, tail, by omega, ?_, ?_, hbytes, hframes⟩
  · rcases htail with rfl | ⟨w, later', rfl, hpre, -⟩
    · exact List.nil_prefix
    · rwa [hnext w List.mem_cons_self] at hpre
  · rcases htail with rfl | ⟨w, later', rfl, -, htne⟩
    · exact (hq.ne_nil hheader).symm
    · rwa [hnext w List.mem_cons_self] at htne

/-- The C++ sample for one-byte headers. -/
def pseudoRun : RunParams UInt8 :=
  FramingParams.toRunParams ⟨some (asLengthFunc (getFrameLength shiftMasked)), 1, 0, 0, 262144⟩

end SiDaqApi
