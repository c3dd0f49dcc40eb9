import SiDaqApi.Lib.ByteMemory
import SiDaqApi.Rbcp.Client

/-!
# RBCP access as a byte memory

The device follows the packet format: it takes command, id, length and the big-endian address from
the bytes that it is sent, accesses its memory, and replies with the same header, with the ACK bit
set, and with the data. Addresses wrap around at 32 bits. Over a network that delivers every datagram
in time, client and device together are a byte memory (`rbcp_refines_memory`).
-/

namespace SiDaqApi

open ByteMemory

/-- A memory of bytes with 32-bit addresses. -/
abbrev Memory := UInt32 → UInt8

/-- The address behind an address. -/
def nextAddr (addr : UInt32) : UInt32 := addr + 1

/-- What a call throws when its length is more than `MAX_DATA_LEN`. -/
def tooLargeLength : SiTcpRbcpException := .of .invalidParam "too large length"

/-- What a call is to do: it reads or writes memory, unless its length is too large. -/
def Memory.access (mem : Memory) : RbcpOp → Memory × Except SiTcpRbcpException (List UInt8)
  | .read addr length =>
    if length.toNat > maxDataLen then (mem, .error tooLargeLength)
    else (mem, .ok (load nextAddr mem addr length.toNat))
  | .write buffer addr length =>
    if length.toNat > maxDataLen then (mem, .error tooLargeLength)
    else (store nextAddr mem addr (bufferBytes buffer length.toNat), .ok [])

/-- A sequence of calls: the memory after it, and what each call returned or threw. -/
def Memory.accesses (mem : Memory) :
    List RbcpOp → Memory × List (Except SiTcpRbcpException (List UInt8))
  | [] => (mem, [])
  | op :: ops =>
    let r := mem.access op
    let rs := Memory.accesses r.1 ops
    (rs.1, r.2 :: rs.2)

/-! ## The device -/

/-- The address that `htonl` wrote. -/
def ntohl (b₃ b₂ b₁ b₀ : UInt8) : UInt32 :=
  .ofNat (b₃.toNat * 16777216 + b₂.toNat * 65536 + b₁.toNat * 256 + b₀.toNat)

/-- The device accesses its memory and replies; it ignores what is not a request. -/
def deviceReply (mem : Memory) : List UInt8 → Option (Memory × List UInt8)
  | ver :: cmd :: id :: len :: b₃ :: b₂ :: b₁ :: b₀ :: data =>
    let addr := ntohl b₃ b₂ b₁ b₀
    let header := [ver, cmd ||| headerFlagAck, id, len, b₃, b₂, b₁, b₀]
    if cmd &&& headerCmdMask = headerCmdRead then
      some (mem, header ++ load nextAddr mem addr len.toNat)
    else if cmd &&& headerCmdMask = headerCmdWrite then
      some (store nextAddr mem addr (data.take len.toNat), header ++ data.take len.toNat)
    else none
  | _ => none

/-- The client and the device. -/
structure RbcpSystem where
  client : SiTcpRbcp
  mem : Memory

/-- A new client, and a device with some memory. -/
def RbcpSystem.start (mem : Memory) : RbcpSystem := ⟨.new, mem⟩

/-- A call, with every datagram delivered in time. -/
def RbcpSystem.call (s : RbcpSystem) (op : RbcpOp) :
    RbcpSystem × Except SiTcpRbcpException (List UInt8) :=
  match s.client.request op with
  | .error e => (s, .error e)
  | .ok (c, packet) =>
    match c.sendPacket true with
    | (c, .error e) => (⟨c, s.mem⟩, .error e)
    | (c, .ok ()) =>
      match deviceReply s.mem packet with
      | none =>
        let r := c.finish op .timeout
        (⟨r.1, s.mem⟩, r.2)
      | some (mem, reply) =>
        let r := c.finish op (.datagram reply)
        (⟨r.1, mem⟩, r.2)

/-- A sequence of calls. -/
def RbcpSystem.calls (s : RbcpSystem) :
    List RbcpOp → RbcpSystem × List (Except SiTcpRbcpException (List UInt8))
  | [] => (s, [])
  | op :: ops =>
    let r := s.call op
    let rs := RbcpSystem.calls r.1 ops
    (rs.1, r.2 :: rs.2)

/-! ## Refinement -/

/-- The device reads the address that the client wrote. -/
theorem ntohl_htonl (addr : UInt32) :
    ntohl (.ofNat (addr.toNat / 16777216)) (.ofNat (addr.toNat / 65536 % 256))
      (.ofNat (addr.toNat / 256 % 256)) (.ofNat (addr.toNat % 256)) = addr := by
  have hlt := addr.toNat_lt
  apply UInt32.toNat_inj.mp
  simp only [ntohl, UInt32.toNat_ofNat', UInt8.toNat_ofNat']
  omega

/-- A length within the maximum fits in its byte. -/
theorem lengthByte_toNat {length : UInt32} (h : length.toNat ≤ maxDataLen) :
    (UInt8.ofNat (length.toNat % 256)).toNat = length.toNat := by
  simp only [maxDataLen] at h
  rw [UInt8.toNat_ofNat']
  omega

section Refinement

variable {op : RbcpOp}

/-- A reply with the header of the request, the ACK bit set, and as many data bytes. -/
theorem accepts_reply {id : ℕ} (hid : id < 256) {len : UInt8} (hlen : len.toNat = op.length)
    (b₃ b₂ b₁ b₀ : UInt8) {data : List UInt8} (hdata : data.length = op.length) :
    op.Accepts id ([headerVerType, (if op.isRead then headerCmdRead else headerCmdWrite) |||
      headerFlagAck, .ofNat id, len, b₃, b₂, b₁, b₀] ++ data) where
  length := by
    rw [List.length_append, hdata]
    exact Nat.add_comm _ _
  verType := rfl
  command := by
    refine ⟨_, rfl, ?_⟩
    cases op.isRead <;> decide
  id := ⟨_, rfl, by rw [UInt8.toNat_ofNat']; omega⟩
  dataLength := ⟨_, rfl, hlen⟩

/-- What the device answers to a request is accepted, and its data are what the access returns. -/
theorem deviceReply_packet (mem : Memory) (h : op.length ≤ maxDataLen) {id : ℕ} (hid : id < 256) :
    ∃ reply, deviceReply mem (op.packet id) = some ((mem.access op).1, reply) ∧
      op.Accepts id reply ∧
      (mem.access op).2 = .ok (if op.isRead then reply.drop headerSize else []) := by
  cases op with
  | read addr length =>
    have hle : ¬ length.toNat > maxDataLen := not_lt.mpr h
    have hbyte := lengthByte_toNat h
    simp only [RbcpOp.packet, packetHeader, htonl, List.cons_append, List.nil_append, deviceReply,
      Memory.access, if_neg hle, ntohl_htonl, hbyte, if_true]
    rw [if_pos (by decide)]
    exact ⟨_, rfl, accepts_reply hid hbyte _ _ _ _ (length_load _ _ _ _), rfl⟩
  | write buffer addr length =>
    have hle : ¬ length.toNat > maxDataLen := not_lt.mpr h
    have hbyte := lengthByte_toNat h
    have hall : (bufferBytes buffer length.toNat).take length.toNat =
        bufferBytes buffer length.toNat :=
      List.take_of_length_le (length_bufferBytes buffer length.toNat).le
    simp only [RbcpOp.packet, packetHeader, htonl, List.cons_append, List.nil_append, deviceReply,
      Memory.access, if_neg hle, ntohl_htonl, hbyte, hall, Bool.false_eq_true, if_false]
    rw [if_neg (by decide), if_pos (by decide)]
    exact ⟨_, rfl, accepts_reply hid hbyte _ _ _ _ (length_bufferBytes _ _), rfl⟩

/-- **A call does to client and device what the access does to memory**, and returns the same. -/
theorem RbcpSystem.call_refines (s : RbcpSystem) (op : RbcpOp) :
    (s.call op).1.mem = (s.mem.access op).1 ∧ (s.call op).2 = (s.mem.access op).2 ∧
      (s.call op).1.client.id =
        if op.length ≤ maxDataLen then (s.client.id + 1) % 256 else s.client.id := by
  by_cases hle : op.length ≤ maxDataLen
  · obtain ⟨c, hreq, hid, -⟩ := s.client.request_of_le hle
    obtain ⟨reply, hreply, hacc, hresult⟩ :=
      deviceReply_packet s.mem hle (Nat.mod_lt (s.client.id + 1) (by decide : 0 < 256))
    let sent : SiTcpRbcp := { c with calls := c.calls ++ [.send] }
    have hcall : s.call op =
        (⟨(sent.finish op (.datagram reply)).1, (s.mem.access op).1⟩,
          (sent.finish op (.datagram reply)).2) := by
      simp only [RbcpSystem.call, hreq, SiTcpRbcp.sendPacket, if_true, hreply, sent]
    have hok := (sent.finish_datagram op hle _).mpr ⟨hid.symm ▸ hacc, rfl⟩
    rw [hcall, if_pos hle]
    exact ⟨rfl, hok.trans hresult.symm, (sent.finish_id op _).trans hid⟩
  · have hcall : s.call op = (s, .error tooLargeLength) := by
      simp only [RbcpSystem.call, s.client.request_of_tooLong (not_le.mp hle)]
      rfl
    have haccess : s.mem.access op = (s.mem, .error tooLargeLength) := by
      cases op <;> exact if_pos (not_le.mp hle)
    rw [hcall, haccess, if_neg hle]
    exact ⟨rfl, rfl, rfl⟩

/-- So does a sequence of calls. -/
theorem RbcpSystem.calls_refine (s : RbcpSystem) (ops : List RbcpOp) :
    (s.calls ops).1.mem = (s.mem.accesses ops).1 ∧ (s.calls ops).2 = (s.mem.accesses ops).2 := by
  induction ops generalizing s with
  | nil => exact ⟨rfl, rfl⟩
  | cons op ops ih =>
    obtain ⟨hmem, hresult, -⟩ := s.call_refines op
    obtain ⟨hmems, hresults⟩ := ih (s.call op).1
    simp only [RbcpSystem.calls, Memory.accesses, ← hmem, hmems, hresults, hresult, and_self]

/-- An access succeeds if its length is within the maximum; otherwise the memory stays. -/
theorem Memory.access_cases (mem : Memory) (op : RbcpOp) :
    op.length ≤ maxDataLen ∧ (∃ out, (mem.access op).2 = .ok out) ∨
      maxDataLen < op.length ∧ mem.access op = (mem, .error tooLargeLength) := by
  by_cases hle : op.length ≤ maxDataLen
  · refine Or.inl ⟨hle, ?_⟩
    cases op <;> exact ⟨_, by rw [Memory.access, if_neg (not_lt.mpr (by exact hle))]⟩
  · refine Or.inr ⟨not_le.mp hle, ?_⟩
    cases op <;> exact if_pos (not_le.mp hle)

/-- The addresses from `addr` on, which wrap around. -/
theorem nextAddr_iterate_toNat (addr : UInt32) (i : ℕ) :
    (nextAddr^[i] addr).toNat = (addr.toNat + i) % 4294967296 := by
  induction i generalizing addr with
  | zero => exact (Nat.mod_eq_of_lt addr.toNat_lt).symm
  | succ i ih =>
    rw [Function.iterate_succ_apply, ih, nextAddr, UInt32.toNat_add]
    simp only [UInt32.reduceToNat]
    omega

/-- A read returns what the write before it wrote, also across the end of the address space. -/
theorem RbcpSystem.read_back (s : RbcpSystem) (buffer : ℕ → UInt8) (addr : UInt32)
    {length : UInt32} (h : length.toNat ≤ maxDataLen) :
    ((s.call (.write buffer addr length)).1.call (.read addr length)).2 =
      .ok (bufferBytes buffer length.toNat) := by
  have hle : ¬ length.toNat > maxDataLen := not_lt.mpr h
  have hlen := length_bufferBytes buffer length.toNat
  have hinj : ∀ i < (bufferBytes buffer length.toNat).length,
      ∀ j < (bufferBytes buffer length.toNat).length,
        nextAddr^[i] addr = nextAddr^[j] addr → i = j := by
    intro i hi j hj heq
    have hnat := congrArg UInt32.toNat heq
    rw [nextAddr_iterate_toNat, nextAddr_iterate_toNat] at hnat
    simp only [maxDataLen] at h
    omega
  have hback := load_store nextAddr s.mem hinj
  rw [hlen] at hback
  rw [(RbcpSystem.call_refines _ _).2.1, (s.call_refines _).1]
  simp only [Memory.access, if_neg hle, hback]

/-- **Client and device are a byte memory**: over any sequence of calls, each call returns what the
access to the memory returns. A call succeeds if its length is within the maximum, and otherwise
throws and leaves the memory and the client's id as they are. -/
theorem rbcp_refines_memory (mem : Memory) (ops : List RbcpOp) :
    ((RbcpSystem.start mem).calls ops).1.mem = (mem.accesses ops).1 ∧
    ((RbcpSystem.start mem).calls ops).2 = (mem.accesses ops).2 ∧
    ∀ op, let s := ((RbcpSystem.start mem).calls ops).1
      (op.length ≤ maxDataLen → ∃ out, (s.call op).2 = .ok out) ∧
      (maxDataLen < op.length → (s.call op).2 = .error tooLargeLength ∧
        (s.call op).1.mem = s.mem ∧ (s.call op).1.client.id = s.client.id) := by
  obtain ⟨hmem, hresults⟩ := (RbcpSystem.start mem).calls_refine ops
  refine ⟨hmem, hresults, fun op => ?_⟩
  simp only
  generalize ((RbcpSystem.start mem).calls ops).1 = s
  obtain ⟨hmem', hresult, hid⟩ := s.call_refines op
  rw [hmem', hresult, hid]
  rcases s.mem.access_cases op with ⟨hle, hok⟩ | ⟨hlt, haccess⟩
  · exact ⟨fun _ => hok, fun hlt => absurd hlt (not_lt.mpr hle)⟩
  · rw [haccess, if_neg (not_le.mpr hlt)]
    exact ⟨fun hle => absurd hlt (not_lt.mpr hle), fun _ => ⟨rfl, rfl, rfl⟩⟩

end Refinement

end SiDaqApi
