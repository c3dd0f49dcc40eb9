import SiDaqApi.Lib.BigEndian
import SiDaqApi.Lib.MachineInt
import Mathlib.Data.List.GetD

/-!
# The reference length functions: `SiDaqMfcSampleDlg.cpp`, `SiDaqConnect.cs`, `SiDaqPseudo.py`

`getFrameLength` is the C++ sample's `GetFrameLength`, `getHeaderLengthFuncSample` the C# sample's
function, and `PseudoDataGenerator` the Python pseudo device that writes the headers both are meant
to read. Sums of `int`s wrap at 32 bits. The C++ shift is a parameter: the language defines it for
shift counts below 32 only, and a wide header makes the code shift further.
-/

namespace SiDaqApi

open MachineInt BigEndian

/-! ## `GetFrameLength` -/

/-- The loop of `GetFrameLength`: `header` after the first `k` bytes. The shift count is an
`unsigned int`. -/
def headerLoop (shl : ℤ → ℕ → ℤ) (recvDataPtr : List UInt8) (headerLen k : ℕ) : ℤ :=
  (List.range k).foldl (fun header i =>
    wrap32 (header + shl (recvDataPtr.getD i 0).toNat ((headerLen - i - 1) * 8 % 4294967296))) 0

/-- `GetFrameLength(recv_data_ptr, data_len, header_len)`. -/
def getFrameLength (shl : ℤ → ℕ → ℤ) (recvDataPtr : List UInt8) (dataLen headerLen : UInt32) : ℤ :=
  if dataLen < headerLen then -1
  else if headerLen = 0 then wrap32 dataLen.toNat
  else
    let header := headerLoop shl recvDataPtr headerLen.toNat headerLen.toNat
    if header = 0 then -1 else header

/-- What C++ says about `b << count` for an `int`: the product, cut to 32 bits, for a count below
32. -/
def ShiftsInt (shl : ℤ → ℕ → ℤ) : Prop :=
  ∀ x count, count < 32 → shl x count = wrap32 (x * 2 ^ count)

/-! ## `GetHeaderLengthFuncSample` -/

/-- The longest `byte[]` the .NET runtime creates; a longer one is an exception. -/
def maxByteArray : ℕ := 0x7FFFFFC7

/-- `BitConverter.ToUInt32(header, 0)`: the first four bytes, least significant first. -/
def toUInt32 (header : List UInt8) : ℕ := value (header.take 4).reverse

/-- `GetHeaderLengthFuncSample(recv_data_ptr, data_len, header_len)`. -/
def getHeaderLengthFuncSample (recvDataPtr : List UInt8) (dataLen headerLen : UInt32) : ℤ :=
  if dataLen < headerLen then -1
  else if headerLen = 0 then wrap32 dataLen.toNat
  -- `new byte[header_len]` throws, and the handler returns -1
  else if maxByteArray < headerLen.toNat then -1
  else
    let retData := recvDataPtr.take headerLen.toNat
    let headerBytelen := if headerLen.toNat > 4 then headerLen.toNat else 4
    let header := retData.reverse ++ List.replicate (headerBytelen - headerLen.toNat) 0
    let ret := toUInt32 header
    if ret = 0 then -1 else wrap32 ret

/-! ## `PseudoDataGenerator` -/

/-- `PseudoDataGenerator`: the unit of data it repeats, the width of the length header (0 for none)
and the number of units it sends at once. -/
structure PseudoDataGenerator where
  dataBuffer : List UInt8
  header : ℕ
  sendUnit : ℕ

namespace PseudoDataGenerator

/-- `_check_header_length`: a header too narrow for the data length is dropped. -/
def checkHeaderLength (g : PseudoDataGenerator) : PseudoDataGenerator :=
  if g.header * 8 < (g.dataBuffer.length * g.sendUnit).size then { g with header := 0 } else g

/-- `__init__(header, send_unit)`. -/
def init (header sendUnit : ℤ) : PseudoDataGenerator :=
  checkHeaderLength
    { dataBuffer := [0x1F, 0x3E, 0x01, 0x23, 0x45, 0x67, 0x89, 0xAB]
      header := (if header < 0 then 0 else header).toNat
      sendUnit := (if sendUnit < 1 then 1 else if sendUnit > 4096 then 4096 else sendUnit).toNat }

/-- The data part of `create_fixed_pattern`. -/
def pattern (g : PseudoDataGenerator) : List UInt8 :=
  (List.replicate g.sendUnit g.dataBuffer).flatten

/-- `create_fixed_pattern`. -/
def createFixedPattern (g : PseudoDataGenerator) : List UInt8 :=
  if g.header ≠ 0 then
    if g.pattern.length.size ≤ g.header * 8 then bytes g.header g.pattern.length ++ g.pattern
    else g.pattern
  else g.pattern

end PseudoDataGenerator

/-! ## What the reference functions are for -/

/-- `len` is what a length function owes for the header value `v`: the value when it is a positive
`int`, a negative number otherwise. -/
def Owes (v : ℕ) (len : ℤ) : Prop :=
  if 1 ≤ v ∧ v ≤ 2147483647 then len = v else len < 0

/-- **Both samples read headers of this width.** On every byte string that holds the header each
returns what it owes, on every byte string they agree, and both read back the data length that
a pseudo device which keeps this width wrote. -/
structure ReadsHeaders (shl : ℤ → ℕ → ℤ) (headerLen : UInt32) : Prop where
  /-- The header's value decides the result. -/
  decode : ∀ (bs : List UInt8) (dataLen : UInt32), bs.length = dataLen.toNat →
    headerLen ≤ dataLen →
      Owes (value (bs.take headerLen.toNat)) (getFrameLength shl bs dataLen headerLen) ∧
      Owes (value (bs.take headerLen.toNat)) (getHeaderLengthFuncSample bs dataLen headerLen)
  /-- One result for both languages. -/
  agree : ∀ (bs : List UInt8) (dataLen : UInt32), bs.length = dataLen.toNat →
    getFrameLength shl bs dataLen headerLen = getHeaderLengthFuncSample bs dataLen headerLen
  /-- The header written by the pseudo device is read back, whatever follows its data. -/
  inverts : ∀ (sendUnit : ℤ) (later : List UInt8) (dataLen : UInt32),
    let g := PseudoDataGenerator.init headerLen.toNat sendUnit
    g.header = headerLen.toNat →
    (g.createFixedPattern ++ later).length = dataLen.toNat →
      getFrameLength shl (g.createFixedPattern ++ later) dataLen headerLen = g.pattern.length ∧
      getHeaderLengthFuncSample (g.createFixedPattern ++ later) dataLen headerLen =
        g.pattern.length

/-! ## One reading of the header -/

/-- How a nonzero unsigned value becomes the result. -/
def decided (v : ℕ) : ℤ := if v = 0 then -1 else wrap32 v

theorem owes_decided {v : ℕ} (hv : v < 4294967296) : Owes v (decided v) := by
  unfold Owes decided
  by_cases hzero : v = 0
  · simp [hzero]
  · rw [if_neg hzero]
    split
    · apply wrap32_of_range <;> omega
    · unfold wrap32
      omega

/-- After `k` bytes `header` holds their value, moved up by the bytes still to come. -/
theorem headerLoop_eq {shl : ℤ → ℕ → ℤ} (hshl : ShiftsInt shl) {bs : List UInt8} {n k : ℕ}
    (hn : n ≤ 4) (hk : k ≤ n) (hbs : n ≤ bs.length) :
    headerLoop shl bs n k = wrap32 (value (bs.take k) * 256 ^ (n - k) : ℕ) := by
  induction k with
  | zero => simp [headerLoop, wrap32]
  | succ k ih =>
    have hget : bs.getD k 0 = bs[k] := List.getD_eq_getElem bs 0 (by omega)
    have htake : bs.take (k + 1) = bs.take k ++ [bs[k]] := by simp
    have hcount : (n - k - 1) * 8 % 4294967296 = 8 * (n - (k + 1)) := by omega
    have hpow : (2 : ℤ) ^ (8 * (n - (k + 1))) = ((256 ^ (n - (k + 1)) : ℕ) : ℤ) := by
      rw [pow_mul]
      norm_num
    have hsplit : n - k = n - (k + 1) + 1 := by omega
    have hstep : headerLoop shl bs n (k + 1) =
        wrap32 (headerLoop shl bs n k + shl (bs.getD k 0).toNat ((n - k - 1) * 8 % 4294967296)) := by
      simp only [headerLoop, List.range_succ, List.foldl_append, List.foldl_cons, List.foldl_nil]
    rw [hstep, ih (by omega), hcount, hshl _ _ (by omega), hpow, wrap32_add_wrap32, hget, htake,
      value_snoc, hsplit, pow_succ]
    congr 1
    push_cast
    ring

/-- `GetFrameLength` on a header of at most four bytes. -/
theorem getFrameLength_eq {shl : ℤ → ℕ → ℤ} (hshl : ShiftsInt shl) {bs : List UInt8}
    {dataLen headerLen : UInt32} (hpos : 1 ≤ headerLen) (hle : headerLen ≤ 4)
    (hbs : bs.length = dataLen.toNat) (hdata : headerLen ≤ dataLen) :
    getFrameLength shl bs dataLen headerLen = decided (value (bs.take headerLen.toNat)) := by
  have hn : 1 ≤ headerLen.toNat := by simpa using UInt32.le_iff_toNat_le.mp hpos
  have hn4 : headerLen.toNat ≤ 4 := by simpa using UInt32.le_iff_toNat_le.mp hle
  have hnd : headerLen.toNat ≤ dataLen.toNat := UInt32.le_iff_toNat_le.mp hdata
  have hne : headerLen ≠ 0 := by
    rintro rfl
    simp at hn
  have hlt : value (bs.take headerLen.toNat) < 4294967296 := by
    calc value (bs.take headerLen.toNat)
        < 256 ^ (bs.take headerLen.toNat).length := value_lt _
      _ ≤ 256 ^ 4 := Nat.pow_le_pow_right (by omega) (by simp; omega)
      _ = 4294967296 := by norm_num
  have hloop := headerLoop_eq hshl hn4 le_rfl (show headerLen.toNat ≤ bs.length by omega)
  rw [Nat.sub_self, pow_zero, mul_one] at hloop
  have hzero : wrap32 (value (bs.take headerLen.toNat) : ℤ) = 0 ↔
      value (bs.take headerLen.toNat) = 0 := by
    unfold wrap32
    omega
  have hshort : ¬ dataLen < headerLen := by simpa using hdata
  simp only [getFrameLength, hshort, hne, if_false, hloop, hzero, decided]

/-- The four bytes `ToUInt32` reads are the last four of the header, after zeros if it is
shorter. -/
theorem toUInt32_reversed (r : List UInt8) :
    toUInt32 (r.reverse ++ List.replicate ((if r.length > 4 then r.length else 4) - r.length) 0) =
      value (r.drop (r.length - 4)) := by
  unfold toUInt32
  by_cases h : r.length > 4
  · rw [if_pos h, Nat.sub_self, List.replicate_zero, List.append_nil, List.take_reverse,
      List.reverse_reverse]
  · rw [if_neg h, List.take_of_length_le (by simp; omega), List.reverse_append,
      List.reverse_reverse, List.reverse_replicate, value_zeros_append,
      show r.length - 4 = 0 by omega, List.drop_zero]

/-- `GetHeaderLengthFuncSample` decides by the last four bytes of the header, whatever its width. -/
theorem getHeaderLengthFuncSample_eq {bs : List UInt8} {dataLen headerLen : UInt32}
    (hpos : 1 ≤ headerLen) (hmax : headerLen.toNat ≤ maxByteArray)
    (hbs : bs.length = dataLen.toNat) (hdata : headerLen ≤ dataLen) :
    getHeaderLengthFuncSample bs dataLen headerLen =
      decided (value ((bs.take headerLen.toNat).drop (headerLen.toNat - 4))) := by
  have hn : 1 ≤ headerLen.toNat := by simpa using UInt32.le_iff_toNat_le.mp hpos
  have hnd : headerLen.toNat ≤ dataLen.toNat := UInt32.le_iff_toNat_le.mp hdata
  have hne : headerLen ≠ 0 := by
    rintro rfl
    simp at hn
  have hlen : (bs.take headerLen.toNat).length = headerLen.toNat := by
    rw [List.length_take]
    omega
  have hread := toUInt32_reversed (bs.take headerLen.toNat)
  rw [hlen] at hread
  have hshort : ¬ dataLen < headerLen := by simpa using hdata
  simp only [getHeaderLengthFuncSample, hshort, hne, not_lt.mpr hmax, if_false, hread, decided]

/-! ## The header of the pseudo device -/

namespace PseudoDataGenerator

theorem length_pattern (g : PseudoDataGenerator) :
    g.pattern.length = g.dataBuffer.length * g.sendUnit := by
  simp [pattern, List.length_flatten, mul_comm]

@[simp]
theorem checkHeaderLength_pattern (g : PseudoDataGenerator) :
    g.checkHeaderLength.pattern = g.pattern := by
  unfold checkHeaderLength
  split <;> rfl

/-- A header that survives the check is wide enough for the data length. -/
theorem checkHeaderLength_fits {g : PseudoDataGenerator} (h : g.checkHeaderLength.header ≠ 0) :
    g.pattern.length.size ≤ g.checkHeaderLength.header * 8 := by
  rw [length_pattern]
  unfold checkHeaderLength at h ⊢
  split
  case isTrue hnarrow =>
    rw [if_pos hnarrow] at h
    exact absurd rfl h
  case isFalse hwide => exact not_lt.mp hwide

/-- What `__init__` leaves: between 1 and 4096 units of 8 bytes, and a header that is either absent
or wide enough for the data length. -/
theorem init_spec (header sendUnit : ℤ) :
    8 ≤ (init header sendUnit).pattern.length ∧
    (init header sendUnit).pattern.length ≤ 32768 ∧
    ((init header sendUnit).header ≠ 0 →
      (init header sendUnit).pattern.length.size ≤ (init header sendUnit).header * 8) := by
  have hunit : 1 ≤ (if sendUnit < 1 then 1 else if sendUnit > 4096 then 4096 else sendUnit).toNat ∧
      (if sendUnit < 1 then 1 else if sendUnit > 4096 then 4096 else sendUnit).toNat ≤ 4096 := by
    split_ifs <;> omega
  simp only [init, checkHeaderLength_pattern]
  refine ⟨?_, ?_, checkHeaderLength_fits⟩ <;>
    · rw [length_pattern]
      simp only [List.length_cons, List.length_nil]
      omega

/-- A kept header stands in front of the data and spells its length. -/
theorem createFixedPattern_eq {header sendUnit : ℤ} (h : (init header sendUnit).header ≠ 0) :
    (init header sendUnit).createFixedPattern =
      bytes (init header sendUnit).header (init header sendUnit).pattern.length ++
        (init header sendUnit).pattern := by
  have hfits := (init_spec header sendUnit).2.2 h
  rw [createFixedPattern, if_pos h, if_pos hfits]

/-- The value of the bytes a kept header takes up is the length of the data. -/
theorem value_header {header sendUnit : ℤ} {n : ℕ} (hn : n ≠ 0)
    (hkept : (init header sendUnit).header = n) (later : List UInt8) :
    value (((init header sendUnit).createFixedPattern ++ later).take n) =
      (init header sendUnit).pattern.length := by
  have hne : (init header sendUnit).header ≠ 0 := by rwa [hkept]
  have hfits := (init_spec header sendUnit).2.2 hne
  rw [createFixedPattern_eq hne, hkept, List.append_assoc, List.take_left' (length_bytes n _)]
  apply value_bytes
  rw [lt_pow_iff_size_le, ← hkept]
  exact hfits

end PseudoDataGenerator

/-! ## Which widths are read -/

/-- Decoding is enough: the header of the pseudo device is one of the byte strings decoded. -/
theorem inverts_of_decode {shl : ℤ → ℕ → ℤ} {headerLen : UInt32} (hpos : 1 ≤ headerLen)
    (hdecode : ∀ (bs : List UInt8) (dataLen : UInt32), bs.length = dataLen.toNat →
      headerLen ≤ dataLen →
        Owes (value (bs.take headerLen.toNat)) (getFrameLength shl bs dataLen headerLen) ∧
        Owes (value (bs.take headerLen.toNat)) (getHeaderLengthFuncSample bs dataLen headerLen))
    (sendUnit : ℤ) (later : List UInt8) (dataLen : UInt32)
    (hkept : (PseudoDataGenerator.init headerLen.toNat sendUnit).header = headerLen.toNat)
    (hlen : ((PseudoDataGenerator.init headerLen.toNat sendUnit).createFixedPattern ++
      later).length = dataLen.toNat) :
    getFrameLength shl
        ((PseudoDataGenerator.init headerLen.toNat sendUnit).createFixedPattern ++ later)
        dataLen headerLen =
      (PseudoDataGenerator.init headerLen.toNat sendUnit).pattern.length ∧
    getHeaderLengthFuncSample
        ((PseudoDataGenerator.init headerLen.toNat sendUnit).createFixedPattern ++ later)
        dataLen headerLen =
      (PseudoDataGenerator.init headerLen.toNat sendUnit).pattern.length := by
  have hn : 1 ≤ headerLen.toNat := by simpa using UInt32.le_iff_toNat_le.mp hpos
  have hne : headerLen.toNat ≠ 0 := by omega
  obtain ⟨hmin, hmax, -⟩ := PseudoDataGenerator.init_spec headerLen.toNat sendUnit
  have hvalue := PseudoDataGenerator.value_header hne hkept later
  have hlong : headerLen ≤ dataLen := by
    apply UInt32.le_iff_toNat_le.mpr
    rw [← hlen, PseudoDataGenerator.createFixedPattern_eq (by rwa [hkept]), hkept]
    simp only [List.length_append, length_bytes]
    omega
  have hrange : 1 ≤ (PseudoDataGenerator.init headerLen.toNat sendUnit).pattern.length ∧
      (PseudoDataGenerator.init headerLen.toNat sendUnit).pattern.length ≤ 2147483647 := by
    constructor <;> omega
  obtain ⟨hcpp, hcs⟩ := hdecode _ dataLen hlen hlong
  rw [hvalue, Owes, if_pos hrange] at hcpp hcs
  exact ⟨hcpp, hcs⟩

theorem readsHeaders_of_le_four {shl : ℤ → ℕ → ℤ} (hshl : ShiftsInt shl) {headerLen : UInt32}
    (hpos : 1 ≤ headerLen) (hle : headerLen ≤ 4) : ReadsHeaders shl headerLen := by
  have hn4 : headerLen.toNat ≤ 4 := by simpa using UInt32.le_iff_toNat_le.mp hle
  have hcs : ∀ (bs : List UInt8) (dataLen : UInt32), bs.length = dataLen.toNat →
      headerLen ≤ dataLen → getHeaderLengthFuncSample bs dataLen headerLen =
        decided (value (bs.take headerLen.toNat)) := by
    intro bs dataLen hbs hdata
    rw [getHeaderLengthFuncSample_eq hpos (by unfold maxByteArray; omega) hbs hdata,
      show headerLen.toNat - 4 = 0 by omega, List.drop_zero]
  have hdecode : ∀ (bs : List UInt8) (dataLen : UInt32), bs.length = dataLen.toNat →
      headerLen ≤ dataLen →
        Owes (value (bs.take headerLen.toNat)) (getFrameLength shl bs dataLen headerLen) ∧
        Owes (value (bs.take headerLen.toNat))
          (getHeaderLengthFuncSample bs dataLen headerLen) := by
    intro bs dataLen hbs hdata
    have hlt : value (bs.take headerLen.toNat) < 4294967296 := by
      calc value (bs.take headerLen.toNat)
          < 256 ^ (bs.take headerLen.toNat).length := value_lt _
        _ ≤ 256 ^ 4 := Nat.pow_le_pow_right (by omega) (by simp; omega)
        _ = 4294967296 := by norm_num
    rw [getFrameLength_eq hshl hpos hle hbs hdata, hcs bs dataLen hbs hdata]
    exact ⟨owes_decided hlt, owes_decided hlt⟩
  refine ⟨hdecode, ?_, ?_⟩
  · intro bs dataLen hbs
    by_cases hdata : headerLen ≤ dataLen
    · rw [getFrameLength_eq hshl hpos hle hbs hdata, hcs bs dataLen hbs hdata]
    · have hshort : dataLen < headerLen := by simpa using hdata
      simp [getFrameLength, getHeaderLengthFuncSample, hshort]
  · intro sendUnit later dataLen
    exact inverts_of_decode hpos hdecode sendUnit later dataLen

/-- Five bytes or more: the C# function drops the bytes in front of the last four, and beyond the
longest array it reads nothing at all. -/
theorem not_readsHeaders_of_four_lt {shl : ℤ → ℕ → ℤ} {headerLen : UInt32}
    (hwide : 4 < headerLen) : ¬ ReadsHeaders shl headerLen := by
  intro hreads
  have hn : 4 < headerLen.toNat := by simpa using UInt32.lt_iff_toNat_lt.mp hwide
  have hpos : 1 ≤ headerLen := UInt32.le_iff_toNat_le.mpr (by simp; omega)
  by_cases hmax : headerLen.toNat ≤ maxByteArray
  · -- `.. 01 00 00 00 05` is above the range of `int`, and C# reads 5
    have hlen : (List.replicate (headerLen.toNat - 5) 0 ++ [1, 0, 0, 0, 5] : List UInt8).length =
        headerLen.toNat := by
      simp
      omega
    have howes := (hreads.decode _ headerLen hlen (UInt32.le_refl _)).2
    rw [getHeaderLengthFuncSample_eq hpos hmax hlen (UInt32.le_refl _),
      List.take_of_length_le hlen.le,
      show headerLen.toNat - 4 = (List.replicate (headerLen.toNat - 5) (0 : UInt8)).length + 1 by
        simp; omega,
      List.drop_append, value_zeros_append] at howes
    simp [Owes, decided, value, wrap32] at howes
  · -- `00 .. 00 05` is 5, and C# fails to create the array
    have hlen : (List.replicate (headerLen.toNat - 1) 0 ++ [5] : List UInt8).length =
        headerLen.toNat := by
      simp
      omega
    have howes := (hreads.decode _ headerLen hlen (UInt32.le_refl _)).2
    have hne : headerLen ≠ 0 := by
      rintro rfl
      simp at hn
    have hcs : getHeaderLengthFuncSample (List.replicate (headerLen.toNat - 1) 0 ++ [5])
        headerLen headerLen = -1 := by
      simp [getHeaderLengthFuncSample, hne, not_le.mp hmax]
    rw [List.take_of_length_le hlen.le, value_zeros_append, hcs] at howes
    simp [Owes, value] at howes

/-- **The samples read headers of up to four bytes and no wider ones.** -/
theorem readsHeaders_iff (shl : ℤ → ℕ → ℤ) (hshl : ShiftsInt shl) (headerLen : UInt32)
    (hpos : 1 ≤ headerLen) : ReadsHeaders shl headerLen ↔ headerLen ≤ 4 := by
  constructor
  · intro hreads
    by_contra hwide
    exact not_readsHeaders_of_four_lt (by simpa using hwide) hreads
  · exact readsHeaders_of_le_four hshl hpos

/-- The shift as x86 computes it, with the count cut to five bits. -/
def shiftMasked (x : ℤ) (count : ℕ) : ℤ := wrap32 (x * 2 ^ (count % 32))

theorem shiftsInt_shiftMasked : ShiftsInt shiftMasked := by
  intro x count hcount
  rw [shiftMasked, Nat.mod_eq_of_lt hcount]

/-- A five-byte header with the value `2^32 + 5`: the C++ sample returns 6 and the C# sample 5. -/
theorem wideHeader_misread :
    getFrameLength shiftMasked [1, 0, 0, 0, 5] 5 5 = 6 ∧
    getHeaderLengthFuncSample [1, 0, 0, 0, 5] 5 5 = 5 ∧
    value [1, 0, 0, 0, 5] = 4294967301 ∧ ¬ ReadsHeaders shiftMasked 5 := by
  refine ⟨by decide, by decide, by decide, ?_⟩
  intro hreads
  have hagree := hreads.agree [1, 0, 0, 0, 5] 5 (by decide)
  revert hagree
  decide

/-- Two-byte headers, the samples' default, are read. -/
theorem twoByteHeaders_read :
    ShiftsInt shiftMasked ∧ (1 : UInt32) ≤ 2 ∧ ReadsHeaders shiftMasked 2 := by
  exact ⟨shiftsInt_shiftMasked, by decide,
    (readsHeaders_iff shiftMasked shiftsInt_shiftMasked 2 (by decide)).mpr (by decide)⟩

end SiDaqApi
