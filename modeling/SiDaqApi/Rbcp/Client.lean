import Mathlib.Data.List.OfFn
import Mathlib.Tactic.Common

/-!
# The RBCP client: `SiTcpRbcpLib2.h` and `SiTcpRbcpLib2.cpp`

`ReadBytes` and `WriteBytes` are cut in two where they wait: `request` goes as far as the packet
that `send` is given, `finish` goes on with what `select` and `recv` return. Exceptions keep the
state that the client has when they are thrown.

One buffer holds the request and then the reply, so what `check_packet` looks at may still be bytes
of the request. The field `calls` is not in the source: it lists the calls made on the socket.
-/

namespace SiDaqApi

/-! ## Exceptions -/

/-- `SITCPRBCP_ERR_NUM`. -/
inductive RbcpErrNum
  | timeout
  | busError
  | invalidPacket
  | socketError
  | invalidParam
  | unknown
  deriving DecidableEq, Repr

/-- `SiTcpRbcpException`. -/
structure SiTcpRbcpException where
  errorNumber : RbcpErrNum
  message : String
  deriving DecidableEq, Repr

/-- What the constructor of the exception puts in front of its message. -/
def RbcpErrNum.type : RbcpErrNum → String
  | .timeout => "Timeout:"
  | .busError => "Bus Error:"
  | .invalidPacket => "Invalid Packet:"
  | .socketError => "Socket Error:"
  | .invalidParam => "Invalid Parameter:"
  | .unknown => "Unknown:"

/-- The constructor `SiTcpRbcpException(num, mes)`. -/
def SiTcpRbcpException.of (num : RbcpErrNum) (mes : String) : SiTcpRbcpException :=
  ⟨num, num.type ++ " " ++ mes⟩

/-! ## Constants -/

/-- `MAX_DATA_LEN`. -/
def maxDataLen : ℕ := 255

/-- `SITCPRBCP_HEADER_SIZE`. -/
def headerSize : ℕ := 8

/-- `MAX_PKT_LEN`. -/
abbrev maxPktLen : ℕ := 263

/-- `SITCPRBCP_HEADER_VERTYPE`. -/
def headerVerType : UInt8 := 0xff

/-- `SITCPRBCP_HEADER_CMD_MASK`. -/
def headerCmdMask : UInt8 := 0xf0

/-- `SITCPRBCP_HEADER_CMD_READ`. -/
def headerCmdRead : UInt8 := 0xc0

/-- `SITCPRBCP_HEADER_CMD_WRITE`. -/
def headerCmdWrite : UInt8 := 0x80

/-- `SITCPRBCP_HEADER_FLAG_ACK`. -/
def headerFlagAck : UInt8 := 0x08

/-- `SITCPRBCP_HEADER_FLAG_BUSERR`. -/
def headerFlagBusErr : UInt8 := 0x01

/-! ## The packet buffer -/

/-- `rbcp_buf`. -/
abbrev PktBuf := Fin maxPktLen → UInt8

/-- `memcpy(rbcp_buf + off, bytes, …)`. -/
def PktBuf.write (buf : PktBuf) (off : ℕ) (bytes : List UInt8) : PktBuf := fun i =>
  if i < off then buf i else bytes.getD (i - off) (buf i)

/-- All bytes of the buffer. -/
def PktBuf.toList (buf : PktBuf) : List UInt8 := List.ofFn buf

/-- The `len` bytes from `rbcp_buf + off` on. -/
def PktBuf.bytes (buf : PktBuf) (off len : ℕ) : List UInt8 := (buf.toList.drop off).take len

/-- `htonl`, byte by byte. -/
def htonl (addr : UInt32) : List UInt8 :=
  [.ofNat (addr.toNat / 16777216), .ofNat (addr.toNat / 65536 % 256),
    .ofNat (addr.toNat / 256 % 256), .ofNat (addr.toNat % 256)]

/-! ## The client -/

/-- A call made on the client's socket. -/
inductive SockCall
  | setsockopt
  | connect
  | send
  | select
  | recv
  | closesocket
  deriving DecidableEq, Repr

/-- `SiTcpRbcp`. -/
structure SiTcpRbcp where
  rbcpBuf : PktBuf
  id : ℕ
  calls : List SockCall

/-- The client has closed its socket. -/
def SiTcpRbcp.Closed (c : SiTcpRbcp) : Prop := .closesocket ∈ c.calls

instance (c : SiTcpRbcp) : Decidable c.Closed :=
  inferInstanceAs (Decidable (_ ∈ _))

/-- The client that the constructor leaves. -/
def SiTcpRbcp.new : SiTcpRbcp := ⟨fun _ => 0, 0, []⟩

/-- A call of `ReadBytes(buffer, addr, length)` or of `WriteBytes(buffer, addr, length)`; what a read
stores in `buffer` is its result. -/
inductive RbcpOp
  | read (addr length : UInt32)
  | write (buffer : ℕ → UInt8) (addr length : UInt32)

/-- The argument `length`. -/
def RbcpOp.length : RbcpOp → ℕ
  | .read _ length | .write _ _ length => length.toNat

/-- The argument `read` of `rw_memory`. -/
def RbcpOp.isRead : RbcpOp → Bool
  | .read _ _ => true
  | .write _ _ _ => false

/-- The first `n` bytes of the caller's buffer. -/
def bufferBytes (buffer : ℕ → UInt8) (n : ℕ) : List UInt8 := (List.range n).map buffer

/-- The eight bytes of a request header. -/
def packetHeader (id : ℕ) (addr length : UInt32) (read : Bool) : List UInt8 :=
  [headerVerType, if read then headerCmdRead else headerCmdWrite, .ofNat id,
    .ofNat (length.toNat % 256)] ++ htonl addr

namespace SiTcpRbcp

/-- `make_header`. -/
def makeHeader (c : SiTcpRbcp) (addr length : UInt32) (read : Bool) : SiTcpRbcp :=
  { c with rbcpBuf := c.rbcpBuf.write 0 (packetHeader c.id addr length read) }

/-- `rw_memory` up to `send_packet`: the client, and the packet. -/
def rwMemory (c : SiTcpRbcp) (addr length : UInt32) (read : Bool) : SiTcpRbcp × List UInt8 :=
  let c := { c with id := (c.id + 1) % 256 }.makeHeader addr length read
  let sendLen := if read then headerSize else length.toNat + headerSize
  (c, c.rbcpBuf.bytes 0 sendLen)

/-- `ReadBytes` and `WriteBytes` up to `send_packet`. -/
def request (c : SiTcpRbcp) : RbcpOp → Except SiTcpRbcpException (SiTcpRbcp × List UInt8)
  | .read addr length =>
    if length.toNat > maxDataLen then .error (.of .invalidParam "too large length")
    else .ok (c.rwMemory addr length true)
  | .write buffer addr length =>
    if length.toNat > maxDataLen then .error (.of .invalidParam "too large length")
    else
      let buf := c.rbcpBuf.write headerSize (bufferBytes buffer length.toNat)
      .ok ({ c with rbcpBuf := buf }.rwMemory addr length false)

/-- `send_packet`: `sent` says whether `send` took the whole packet. -/
def sendPacket (c : SiTcpRbcp) (sent : Bool) : SiTcpRbcp × Except SiTcpRbcpException Unit :=
  if sent then ({ c with calls := c.calls ++ [.send] }, .ok ())
  else
    ({ c with calls := c.calls ++ [.send, .closesocket] },
      .error (.of .socketError "send() failed"))

/-- What `select` and `recv` return. -/
inductive Received
  | selectFailed
  | timeout
  | recvFailed
  | datagram (bytes : List UInt8)

/-- `recv_packet`. A datagram longer than the buffer fills it, and `recv` reports an error. -/
def recvPacket (c : SiTcpRbcp) : Received → SiTcpRbcp × Except SiTcpRbcpException ℕ
  | .selectFailed =>
    ({ c with calls := c.calls ++ [.select] }, .error (.of .socketError "select() failed"))
  | .timeout =>
    ({ c with calls := c.calls ++ [.select] }, .error (.of .timeout "select() timeout"))
  | .recvFailed =>
    ({ c with calls := c.calls ++ [.select, .recv] }, .error (.of .socketError "recv() failed"))
  | .datagram bytes =>
    let c := { c with
      rbcpBuf := c.rbcpBuf.write 0 bytes
      calls := c.calls ++ [.select, .recv] }
    if bytes.length > maxPktLen then (c, .error (.of .socketError "recv() failed"))
    else (c, .ok bytes.length)

/-- `check_packet`. -/
def checkPacket (c : SiTcpRbcp) (length recvLen : ℕ) (read : Bool) :
    Except SiTcpRbcpException Unit :=
  if length + headerSize ≠ recvLen then
    .error (.of .invalidPacket "unexpected packet length")
  else if c.rbcpBuf 0 ≠ headerVerType then
    .error (.of .invalidPacket "unexpected header value")
  else if read ∧ c.rbcpBuf 1 &&& headerCmdMask ≠ headerCmdRead ∨
      ¬ read ∧ c.rbcpBuf 1 &&& headerCmdMask ≠ headerCmdWrite then
    .error (.of .invalidPacket "unexpected header value")
  else if c.rbcpBuf 1 &&& headerFlagAck ≠ headerFlagAck then
    .error (.of .invalidPacket "unexpected header value")
  else if c.rbcpBuf 1 &&& headerFlagBusErr = headerFlagBusErr then
    if read then .error (.of .busError "read failed") else .error (.of .busError "write failed")
  else if (c.rbcpBuf 2).toNat ≠ c.id then
    .error (.of .invalidPacket "unexpected id value")
  else if (c.rbcpBuf 3).toNat ≠ length then
    .error (.of .invalidPacket "unexpected data length")
  else .ok ()

/-- `ReadBytes` and `WriteBytes` from `recv_packet` on. -/
def finish (c : SiTcpRbcp) (op : RbcpOp) (received : Received) :
    SiTcpRbcp × Except SiTcpRbcpException (List UInt8) :=
  match c.recvPacket received with
  | (c, .error e) => (c, .error e)
  | (c, .ok recvLen) =>
    (c, (c.checkPacket op.length recvLen op.isRead).map fun _ =>
      if op.isRead then c.rbcpBuf.bytes headerSize op.length else [])

end SiTcpRbcp

/-! ## What is in the buffer -/

section Buffer

variable (buf : PktBuf) {off : ℕ} {bytes : List UInt8}

@[simp] theorem PktBuf.length_toList : buf.toList.length = maxPktLen := List.length_ofFn

theorem PktBuf.getElem?_toList {i : ℕ} (h : i < maxPktLen) : buf.toList[i]? = some (buf ⟨i, h⟩) := by
  rw [PktBuf.toList, List.getElem?_ofFn, dif_pos h]

/-- A write that fits replaces a part of the buffer. -/
theorem PktBuf.toList_write (h : off + bytes.length ≤ maxPktLen) :
    (buf.write off bytes).toList =
      buf.toList.take off ++ bytes ++ buf.toList.drop (off + bytes.length) := by
  have hlen := buf.length_toList
  apply List.ext_getElem?
  intro i
  by_cases hi : i < maxPktLen
  · have hwrite : buf.write off bytes ⟨i, hi⟩ =
        if i < off then buf ⟨i, hi⟩ else bytes.getD (i - off) (buf ⟨i, hi⟩) := rfl
    rw [PktBuf.getElem?_toList _ hi, hwrite, List.append_assoc]
    have hbefore : (buf.toList.take off).length = off := by
      rw [List.length_take]
      omega
    by_cases hoff : i < off
    · rw [if_pos hoff, List.getElem?_append_left (by omega), List.getElem?_take_of_lt hoff,
        buf.getElem?_toList hi]
    · rw [if_neg hoff, List.getElem?_append_right (by omega), hbefore,
        List.getD_eq_getElem?_getD]
      by_cases hin : i - off < bytes.length
      · rw [List.getElem?_append_left hin, List.getElem?_eq_getElem hin, Option.getD_some]
      · rw [List.getElem?_append_right (by omega), List.getElem?_drop,
          List.getElem?_eq_none (by omega), Option.getD_none,
          show off + bytes.length + (i - off - bytes.length) = i by omega, buf.getElem?_toList hi]
  · rw [List.getElem?_eq_none (by simp; omega), List.getElem?_eq_none]
    simp only [List.length_append, List.length_take, List.length_drop, PktBuf.length_toList]
    omega

/-- What is written to the front can be read back, from any offset on. -/
theorem PktBuf.bytes_write (off : ℕ) (bytes : List UInt8) (h : bytes.length ≤ maxPktLen) :
    (buf.write 0 bytes).bytes off (bytes.length - off) = bytes.drop off := by
  rw [PktBuf.bytes, buf.toList_write (by omega), List.take_zero, List.nil_append,
    List.drop_append, List.take_left' (by rw [List.length_drop])]

/-- A header written in front of data. -/
theorem PktBuf.bytes_write_write (bytes data : List UInt8) (hoff : bytes.length = off)
    (h : off + data.length ≤ maxPktLen) :
    ((buf.write off data).write 0 bytes).bytes 0 (data.length + off) = bytes ++ data := by
  have hbefore : (buf.toList.take off).length = off := by
    rw [List.length_take, PktBuf.length_toList]
    omega
  rw [PktBuf.bytes, PktBuf.toList_write _ (by omega), PktBuf.toList_write _ h, List.take_zero,
    List.nil_append, List.drop_zero, hoff, Nat.zero_add, List.append_assoc, List.drop_left' hbefore,
    ← List.append_assoc]
  exact List.take_left' (by rw [List.length_append]; omega)

end Buffer

/-! ## The request -/

@[simp] theorem length_packetHeader (id : ℕ) (addr length : UInt32) (read : Bool) :
    (packetHeader id addr length read).length = headerSize := rfl

@[simp] theorem length_bufferBytes (buffer : ℕ → UInt8) (n : ℕ) :
    (bufferBytes buffer n).length = n := by
  simp [bufferBytes]

/-- The request packet of a call. -/
def RbcpOp.packet (id : ℕ) : RbcpOp → List UInt8
  | .read addr length => packetHeader id addr length true
  | .write buffer addr length =>
    packetHeader id addr length false ++ bufferBytes buffer length.toNat

/-- The id of a request is its third byte. -/
theorem RbcpOp.getElem?_packet_id (op : RbcpOp) (id : ℕ) :
    (op.packet id)[2]? = some (.ofNat id) := by
  cases op <;> rfl

section Request

variable (c : SiTcpRbcp) {op : RbcpOp}

theorem SiTcpRbcp.request_of_tooLong (h : maxDataLen < op.length) :
    c.request op = .error (.of .invalidParam "too large length") := by
  cases op <;> exact if_pos h

theorem SiTcpRbcp.rwMemory_read (addr length : UInt32) :
    (c.rwMemory addr length true).2 = packetHeader ((c.id + 1) % 256) addr length true := by
  have hbytes := c.rbcpBuf.bytes_write 0 (packetHeader ((c.id + 1) % 256) addr length true)
    (by rw [length_packetHeader]; decide)
  rw [length_packetHeader, List.drop_zero, Nat.sub_zero] at hbytes
  simp only [SiTcpRbcp.rwMemory, SiTcpRbcp.makeHeader, if_true]
  exact hbytes

/-- The header goes in front of the data that is in the buffer already. -/
theorem SiTcpRbcp.rwMemory_write (addr length : UInt32) {data : List UInt8}
    (hdata : data.length = length.toNat) (h : length.toNat ≤ maxDataLen) :
    ({ c with rbcpBuf := c.rbcpBuf.write headerSize data }.rwMemory addr length false).2 =
      packetHeader ((c.id + 1) % 256) addr length false ++ data := by
  have hfits : headerSize + data.length ≤ maxPktLen := by
    rw [hdata]
    exact Nat.add_le_add_left h headerSize
  have hbytes := c.rbcpBuf.bytes_write_write
    (packetHeader ((c.id + 1) % 256) addr length false) data (length_packetHeader _ _ _ _) hfits
  rw [hdata] at hbytes
  simp only [SiTcpRbcp.rwMemory, SiTcpRbcp.makeHeader, Bool.false_eq_true, if_false]
  exact hbytes

/-- A call within the maximum sends the packet under the next id. -/
theorem SiTcpRbcp.request_of_le (h : op.length ≤ maxDataLen) :
    ∃ c', c.request op = .ok (c', op.packet ((c.id + 1) % 256)) ∧ c'.id = (c.id + 1) % 256 ∧
      c'.calls = c.calls := by
  cases op with
  | read addr length =>
    have hle : ¬ length.toNat > maxDataLen := not_lt.mpr h
    refine ⟨(c.rwMemory addr length true).1, ?_, rfl, rfl⟩
    rw [SiTcpRbcp.request, if_neg hle, RbcpOp.packet, ← c.rwMemory_read]
  | write buffer addr length =>
    have hle : ¬ length.toNat > maxDataLen := not_lt.mpr h
    have hpacket := c.rwMemory_write addr length (length_bufferBytes buffer length.toNat) h
    refine ⟨({ c with
      rbcpBuf := c.rbcpBuf.write headerSize (bufferBytes buffer length.toNat) }.rwMemory
        addr length false).1, ?_, rfl, rfl⟩
    rw [SiTcpRbcp.request, if_neg hle, RbcpOp.packet, ← hpacket]

end Request

/-! ## The reply -/

/-- `check_packet` accepts the datagram as the reply to a request with the given id. -/
structure RbcpOp.Accepts (op : RbcpOp) (id : ℕ) (bytes : List UInt8) : Prop where
  length : bytes.length = op.length + headerSize
  verType : bytes[0]? = some headerVerType
  command : ∃ flags, bytes[1]? = some flags ∧
    flags &&& headerCmdMask = (if op.isRead then headerCmdRead else headerCmdWrite) ∧
    flags &&& headerFlagAck = headerFlagAck ∧ flags &&& headerFlagBusErr ≠ headerFlagBusErr
  id : ∃ b : UInt8, bytes[2]? = some b ∧ b.toNat = id
  dataLength : ∃ b : UInt8, bytes[3]? = some b ∧ b.toNat = op.length

section Reply

variable (c : SiTcpRbcp) (op : RbcpOp) {bytes : List UInt8}

private theorem ite_error_eq_ok {p : Prop} [Decidable p] {e : SiTcpRbcpException}
    {x : Except SiTcpRbcpException Unit} :
    (if p then .error e else x) = .ok () ↔ ¬ p ∧ x = .ok () := by
  split <;> simp [*]

/-- What `check_packet` compares, when the header is in the buffer. -/
theorem SiTcpRbcp.checkPacket_eq_ok (length recvLen : ℕ) (read : Bool) :
    c.checkPacket length recvLen read = .ok () ↔
      length + headerSize = recvLen ∧ c.rbcpBuf 0 = headerVerType ∧
      c.rbcpBuf 1 &&& headerCmdMask = (if read then headerCmdRead else headerCmdWrite) ∧
      c.rbcpBuf 1 &&& headerFlagAck = headerFlagAck ∧
      c.rbcpBuf 1 &&& headerFlagBusErr ≠ headerFlagBusErr ∧
      (c.rbcpBuf 2).toNat = c.id ∧ (c.rbcpBuf 3).toNat = length := by
  cases read <;>
    simp only [SiTcpRbcp.checkPacket, Bool.false_eq_true, not_false_eq_true, not_true_eq_false,
      true_and, false_and, false_or, or_false, if_true, if_false, ite_error_eq_ok, not_not,
      and_true, ne_eq]

/-- A received datagram is at the front of the buffer. -/
theorem PktBuf.getElem?_received (buf : PktBuf) (i : Fin maxPktLen) (hi : i < bytes.length) :
    bytes[(i : ℕ)]? = some (buf.write 0 bytes i) := by
  have hwrite : buf.write 0 bytes i = bytes.getD i (buf i) := rfl
  rw [hwrite, List.getD_eq_getElem?_getD, List.getElem?_eq_getElem hi, Option.getD_some]

/-- With a datagram in the buffer, `check_packet` looks at nothing but the datagram. -/
theorem SiTcpRbcp.checkPacket_received (hbuf : ∃ buf : PktBuf, c.rbcpBuf = buf.write 0 bytes) :
    c.checkPacket op.length bytes.length op.isRead = .ok () ↔ op.Accepts c.id bytes := by
  obtain ⟨buf, hbuf⟩ := hbuf
  rw [SiTcpRbcp.checkPacket_eq_ok, hbuf]
  by_cases hlen : op.length + headerSize = bytes.length
  · have hheader : 8 ≤ bytes.length := by
      rw [← hlen]
      exact Nat.le_add_left _ _
    -- the first eight bytes of the buffer are those of the datagram
    have hin : ∀ i : Fin maxPktLen, (i : ℕ) < 8 → (i : ℕ) < bytes.length :=
      fun i hi => hi.trans_le hheader
    have h₀ := buf.getElem?_received 0 (hin 0 (by decide))
    have h₁ := buf.getElem?_received 1 (hin 1 (by decide))
    have h₂ := buf.getElem?_received 2 (hin 2 (by decide))
    have h₃ := buf.getElem?_received 3 (hin 3 (by decide))
    constructor
    · rintro ⟨-, hver, hcmd, hack, herr, hid, hdata⟩
      exact ⟨hlen.symm, h₀.trans (congrArg some hver), ⟨_, h₁, hcmd, hack, herr⟩, ⟨_, h₂, hid⟩,
        ⟨_, h₃, hdata⟩⟩
    · rintro ⟨-, hver, ⟨flags, hflags, hcmd, hack, herr⟩, ⟨b, hb, hid⟩, ⟨n, hn, hdata⟩⟩
      obtain rfl := Option.some.inj (h₁.symm.trans hflags)
      obtain rfl := Option.some.inj (h₂.symm.trans hb)
      obtain rfl := Option.some.inj (h₃.symm.trans hn)
      exact ⟨hlen, Option.some.inj (h₀.symm.trans hver), hcmd, hack, herr, hid, hdata⟩
  · exact iff_of_false (fun h => hlen h.1) fun h => hlen h.length.symm

/-- **A call succeeds with a datagram if and only if that is acceptable**, and then returns its
data bytes. -/
theorem SiTcpRbcp.finish_datagram (hle : op.length ≤ maxDataLen) (out : List UInt8) :
    (c.finish op (.datagram bytes)).2 = .ok out ↔
      op.Accepts c.id bytes ∧ out = if op.isRead then bytes.drop headerSize else [] := by
  by_cases hlong : bytes.length > maxPktLen
  · -- `recv` fails on a datagram that does not fit, and no acceptable one is that long
    have hfail : (c.finish op (.datagram bytes)).2 = .error (.of .socketError "recv() failed") := by
      simp only [SiTcpRbcp.finish, SiTcpRbcp.recvPacket, if_pos hlong]
    rw [hfail]
    refine iff_of_false (by simp) ?_
    rintro ⟨hacc, -⟩
    have := hacc.length
    simp only [headerSize, maxDataLen, maxPktLen] at *
    omega
  · let c' : SiTcpRbcp := { c with
      rbcpBuf := c.rbcpBuf.write 0 bytes
      calls := c.calls ++ [.select, .recv] }
    have hcheck : c'.checkPacket op.length bytes.length op.isRead = .ok () ↔
        op.Accepts c.id bytes := c'.checkPacket_received op ⟨c.rbcpBuf, rfl⟩
    have hfinish : (c.finish op (.datagram bytes)).2 =
        (c'.checkPacket op.length bytes.length op.isRead).map fun _ =>
          if op.isRead then c'.rbcpBuf.bytes headerSize op.length else [] := by
      simp only [SiTcpRbcp.finish, SiTcpRbcp.recvPacket, if_neg hlong, c']
    have hdata : op.Accepts c.id bytes →
        c'.rbcpBuf.bytes headerSize op.length = bytes.drop headerSize := by
      intro hacc
      rw [← c.rbcpBuf.bytes_write headerSize bytes (not_lt.mp hlong), hacc.length,
        Nat.add_sub_cancel]
    rw [hfinish, ← hcheck]
    cases hres : c'.checkPacket op.length bytes.length op.isRead with
    | error e => simp [Except.map]
    | ok u =>
      have hstored := hdata (hcheck.mp hres)
      simp only [Except.map, hstored, Except.ok.injEq, true_and]
      exact eq_comm

theorem SiTcpRbcp.finish_id (received : SiTcpRbcp.Received) :
    (c.finish op received).1.id = c.id := by
  cases received <;> simp only [SiTcpRbcp.finish, SiTcpRbcp.recvPacket]
  split <;> rename_i h <;> split at h <;> (injection h with h _; rw [← h])

theorem SiTcpRbcp.closed_finish (received : SiTcpRbcp.Received) :
    (c.finish op received).1.Closed ↔ c.Closed := by
  cases received <;> simp only [SiTcpRbcp.finish, SiTcpRbcp.recvPacket, SiTcpRbcp.Closed]
  · simp
  · simp
  · simp
  · split <;> rename_i h <;> split at h <;> (injection h with h _; simp [← h])

/-- Without a datagram the call throws. -/
theorem SiTcpRbcp.finish_of_not_datagram {received : SiTcpRbcp.Received}
    (h : ∀ bytes, received ≠ .datagram bytes) (out : List UInt8) :
    (c.finish op received).2 ≠ .ok out := by
  cases received with
  | datagram bytes => exact absurd rfl (h bytes)
  | selectFailed | timeout | recvFailed => simp [SiTcpRbcp.finish, SiTcpRbcp.recvPacket]

end Reply

end SiDaqApi
