import SiDaqApi.Lib.MachineInt
import Mathlib.Data.List.Basic

/-!
# The framer: `sidaq_framer.h` and `sidaq_framer.cpp`

`recvSiDaqData` is `RecvSiDaqData` as the code computes it: the carry-over phase works on the
truncated copy in `_buff_ptr`, the loop works in place on the received chunk, and the two decide
the frame length with the same code (`frameLength`). Sums of `int`s wrap at 32 bits where the code's
do.

The byte type is a parameter: apart from the caller's length function the framer moves bytes without
looking at them. Memory is total. The buffer is a function of the index, so a write beyond
`_buff_size` has a value, and a read outside the chunk gives `default`; `Access` records the
accesses, so that both can be spoken about.
-/

namespace SiDaqApi

open MachineInt

variable {α : Type*}

/-- `FramerErroeCode`. -/
inductive FramerErrorCode
  | noError
  | invalidParameter
  | memoryAllocatedFailed
  | exceedFrameQueueCount
  | getFrameLengthFailed
  | exceedMaxFrameLength
  | bufSizeError
  deriving DecidableEq, Repr

/-- A frame length function supplied by the caller, `int (*)(unsigned char*, UINT, UINT)`: the bytes
it is given (their number is the second C argument) and the header length. The first argument counts
the earlier length decisions, so that a function which answers differently each time is covered. -/
abbrev LengthFunc (α : Type*) := ℕ → List α → ℤ → Int32

/-- `SiDaqFramer`. `decisions` is not in the source: it counts the length decisions made so far. -/
structure SiDaqFramer (α : Type*) where
  rest : ℤ
  buffSize : ℤ
  buffPtr : ℕ → α
  lengthFunc : Option (LengthFunc α)
  headerLen : ℤ
  errorFlg : ℤ
  errorCode : FramerErrorCode
  queueLimit : ℕ
  maxFrameLen : ℕ
  fixedFrameLen : ℕ
  decisions : ℕ

/-- `DEFAULT_MAX_FRAME_LEN`, which is also the size of the carry-over buffer. -/
def defaultMaxFrameLen : ℕ := 262144

/-- `NewSiDaqFramer`: everything zero, with an empty buffer of `DEFAULT_MAX_FRAME_LEN` bytes. -/
def newSiDaqFramer [Inhabited α] : SiDaqFramer α where
  rest := 0
  buffSize := defaultMaxFrameLen
  buffPtr := fun _ => default
  lengthFunc := none
  headerLen := 0
  errorFlg := 0
  errorCode := .noError
  queueLimit := 0
  maxFrameLen := 0
  fixedFrameLen := 0
  decisions := 0

/-- The framing arguments of `SiDaqRun`. -/
structure FramingParams (α : Type*) where
  lengthFunc : Option (LengthFunc α)
  headerLen : UInt32
  fixedFrameLen : UInt32
  frameQueueLimit : UInt32
  maxFrameLen : UInt32

/-- `SiDaqRun` writes its framing arguments into the framer; `_rest` and the buffer stay. -/
def SiDaqFramer.configure (fr : SiDaqFramer α) (p : FramingParams α) : SiDaqFramer α :=
  { fr with
    headerLen := wrap32 p.headerLen.toNat
    queueLimit := p.frameQueueLimit.toNat
    maxFrameLen := p.maxFrameLen.toNat
    lengthFunc := p.lengthFunc
    fixedFrameLen := p.fixedFrameLen.toNat
    errorFlg := 0
    errorCode := .noError }

/-! ## Memory -/

/-- An access of `RecvSiDaqData` to memory it was handed, or a call of the length function. -/
inductive Access
  /-- The length function is called and told that it may read `given` bytes. -/
  | lengthFunc (given : ℤ)
  /-- Bytes `off, …, off + len - 1` of the received chunk are read. -/
  | chunk (off len : ℤ)
  /-- Bytes `off, …, off + len - 1` of `_buff_ptr` are written. -/
  | buff (off len : ℤ)
  deriving DecidableEq, Repr

/-- The `len` bytes of the chunk `data` from offset `off` on. -/
def chunkBytes [Inhabited α] (data : List α) (off len : ℤ) : List α :=
  (List.range len.toNat).map fun (i : ℕ) =>
    if 0 ≤ off + i then data.getD (off + i).toNat default else default

/-- The first `len` bytes of the carry-over buffer. -/
def buffBytes (buff : ℕ → α) (len : ℤ) : List α :=
  (List.range len.toNat).map buff

/-- `memcpy(&_buff_ptr[off], bytes, …)`. -/
def buffWrite (buff : ℕ → α) (off : ℤ) (bytes : List α) : ℕ → α := fun i =>
  if i < off.toNat then buff i else bytes.getD (i - off.toNat) (buff i)

/-- The carried-over bytes `_buff_ptr[0 .. _rest)`. -/
def SiDaqFramer.restBytes (fr : SiDaqFramer α) : List α := buffBytes fr.buffPtr fr.rest

/-- `SQPut`: the queue with the new element, and the number of elements in it. -/
def sqPut (que : List (List α)) (bytes : List α) : List (List α) × ℤ :=
  (que ++ [bytes], (que ++ [bytes]).length)

/-! ## The frame length -/

/-- The length function, when the framer is in header mode: `_lengthFunc != NULL && _header_len`. -/
def SiDaqFramer.headerMode (fr : SiDaqFramer α) : Option (LengthFunc α) :=
  if fr.headerLen ≠ 0 then fr.lengthFunc else none

/-- `event_len` by the mode of the framer, for a frame start with `avail` bytes `bytes`. -/
def SiDaqFramer.eventLen (fr : SiDaqFramer α) (bytes : List α) (avail : ℤ) : ℤ :=
  match fr.headerMode with
  | some f => (f fr.decisions bytes (uint32 fr.headerLen)).toInt
  | none => if fr.fixedFrameLen ≠ 0 then wrap32 fr.fixedFrameLen else avail

/-- The access that `eventLen` makes to the carry-over buffer. -/
def SiDaqFramer.eventLenAccess (fr : SiDaqFramer α) (avail : ℤ) : List Access :=
  match fr.headerMode with
  | some _ => [.lengthFunc avail]
  | none => []

/-- In the loop the length function reads the chunk, from `read_ptr` on. -/
def SiDaqFramer.chunkLenAccess (fr : SiDaqFramer α) (p avail : ℤ) : List Access :=
  match fr.headerMode with
  | some _ => [.lengthFunc avail, .chunk p avail]
  | none => []

/-- "put null framer": record the error and frame the rest of the stream as it comes. -/
def SiDaqFramer.putNull (fr : SiDaqFramer α) (code : FramerErrorCode) : SiDaqFramer α :=
  { fr with errorCode := code, lengthFunc := none, headerLen := 0, fixedFrameLen := 0 }

/-- The framer after one more length decision. -/
def SiDaqFramer.decided (fr : SiDaqFramer α) : SiDaqFramer α :=
  { fr with decisions := fr.decisions + 1 }

/-- The frame length decision, common to both phases: `event_len` with its two fallbacks, and the
framer after it. -/
def SiDaqFramer.frameLength (fr : SiDaqFramer α) (bytes : List α) (avail : ℤ) :
    ℤ × SiDaqFramer α :=
  let len := fr.eventLen bytes avail
  let r := if len < 0 then (avail, fr.decided.putNull .getFrameLengthFailed) else (len, fr.decided)
  if uint32 (r.1 + r.2.headerLen) > r.2.maxFrameLen then
    (avail, r.2.putNull .exceedMaxFrameLength)
  else r

/-- The two tests of the queue limit: `_queue_limit != 0 && event_queue_count >= _queue_limit`. -/
def SiDaqFramer.atQueueLimit (fr : SiDaqFramer α) (count : ℤ) : Prop :=
  fr.queueLimit ≠ 0 ∧ uint32 count ≥ fr.queueLimit

instance (fr : SiDaqFramer α) (count : ℤ) : Decidable (fr.atQueueLimit count) :=
  inferInstanceAs (Decidable (_ ∧ _))

/-! ## `RecvSiDaqData` -/

/-- The result of a call: the return value, the framer, the event queue, the accesses made. -/
structure Outcome (α : Type*) where
  ret : ℤ
  framer : SiDaqFramer α
  que : List (List α)
  accesses : List Access

/-- The local variables of a call in progress. `readPtr` is the offset of `read_ptr` in the chunk,
`none` for `NULL`. -/
structure Locals (α : Type*) where
  framer : SiDaqFramer α
  que : List (List α)
  readPtr : Option ℤ
  dataLen : ℤ
  frameCount : ℤ
  accesses : List Access

/-- A part of the call returns or goes on. It faults in an `SQPut` of a negative number of bytes:
`malloc` fails, and `NewSQData` copies to the null pointer. -/
inductive Flow (α : Type*)
  | done (o : Outcome α)
  | next (l : Locals α)
  | fault

/-- The carry-over phase, entered with `_rest > 0`: append the chunk to the carried bytes and take
at most one frame off the buffer. -/
def carryOver [Inhabited α] (fr : SiDaqFramer α) (data : List α) (que : List (List α)) : Flow α :=
  let dataLen : ℤ := data.length
  if fr.buffSize - fr.rest < 0 then
    .done ⟨-1, { fr with errorCode := .bufSizeError }, que, []⟩
  else
    let copyLen := if dataLen < fr.buffSize - fr.rest then dataLen else fr.buffSize - fr.rest
    let buff := buffWrite fr.buffPtr fr.rest (chunkBytes data 0 copyLen)
    let total := fr.rest + copyLen
    let acc := [.chunk 0 copyLen, .buff fr.rest copyLen] ++ fr.eventLenAccess total
    let r := { fr with buffPtr := buff }.frameLength (buffBytes buff total) total
    let frameLen := wrap32 (r.1 + r.2.headerLen)
    if total ≥ frameLen then
      let put := sqPut que (buffBytes buff frameLen)
      if frameLen < 0 then .fault
      else if put.2 < 0 then
        .done ⟨-1, { r.2 with errorCode := .memoryAllocatedFailed }, put.1, acc⟩
      else
        let code :=
          if r.2.atQueueLimit put.2 then .exceedFrameQueueCount else r.2.errorCode
        let off := wrap32 (frameLen - fr.rest)
        let fr' := { r.2 with errorCode := code, rest := 0 }
        if dataLen > off then
          .next ⟨fr', put.1, some off, wrap32 (dataLen - off), 1, acc⟩
        else
          .next ⟨fr', put.1, none, 0, 1, acc⟩
    else
      .next ⟨{ r.2 with rest := total }, que, none, 0, 0, acc⟩

/-- One iteration of the loop over the chunk. -/
def loopBody [Inhabited α] (data : List α) (l : Locals α) : Flow α :=
  match l.readPtr with
  | none => .done ⟨l.frameCount, l.framer, l.que, l.accesses⟩
  | some p =>
    if l.dataLen = 0 ∨ l.dataLen < l.framer.headerLen then
      -- not enough for the header: `_rest = data_len`, but only `read_ptr[0]` is stored
      .done ⟨l.frameCount,
        { l.framer with
          rest := l.dataLen
          buffPtr := buffWrite l.framer.buffPtr 0 (chunkBytes data p 1) },
        l.que, l.accesses ++ [.chunk p 1, .buff 0 1]⟩
    else
      let acc := l.accesses ++ l.framer.chunkLenAccess p l.dataLen
      let r := l.framer.frameLength (chunkBytes data p l.dataLen) l.dataLen
      let frameLen := wrap32 (r.1 + r.2.headerLen)
      if l.dataLen ≥ frameLen then
        let put := sqPut l.que (chunkBytes data p frameLen)
        let acc := acc ++ [.chunk p frameLen]
        if frameLen < 0 then .fault
        else if put.2 < 0 then
          .done ⟨-1, { r.2 with errorCode := .memoryAllocatedFailed }, put.1, acc⟩
        else if r.2.atQueueLimit put.2 then
          .done ⟨-1, { r.2 with errorCode := .exceedFrameQueueCount }, put.1, acc⟩
        else
          .next ⟨r.2, put.1, some (p + frameLen), wrap32 (l.dataLen - frameLen),
            l.frameCount + 1, acc⟩
      else
        .next ⟨{ r.2 with
            rest := l.dataLen
            buffPtr := buffWrite r.2.buffPtr 0 (chunkBytes data p l.dataLen) },
          l.que, none, 0, l.frameCount, acc ++ [.chunk p l.dataLen, .buff 0 l.dataLen]⟩

/-- The loop, for at most `fuel` iterations; `none` when it has not returned by then. -/
def recvLoop [Inhabited α] (data : List α) : ℕ → Locals α → Option (Outcome α)
  | 0, _ => none
  | fuel + 1, l =>
    match loopBody data l with
    | .done o => some o
    | .next l' => recvLoop data fuel l'
    | .fault => none

/-- The local variables when the loop is entered without carry-over. -/
def Locals.start (fr : SiDaqFramer α) (data : List α) (que : List (List α)) : Locals α :=
  ⟨fr, que, some 0, data.length, 0, []⟩

/-- `RecvSiDaqData` on a chunk (its length is the C argument `data_len`, never negative here). The
number of loop iterations is bounded by the bytes there are; `none` means that the call has not
returned within that bound. -/
def recvSiDaqData [Inhabited α] (fr : SiDaqFramer α) (data : List α) (que : List (List α)) :
    Option (Outcome α) :=
  let fuel := fr.rest.toNat + data.length + 2
  if fr.rest > 0 then
    match carryOver fr data que with
    | .done o => some o
    | .next l => recvLoop data fuel l
    | .fault => none
  else
    recvLoop data fuel (.start fr data que)

end SiDaqApi
