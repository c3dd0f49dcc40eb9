import SiDaqApi.Lib.Machine
import SiDaqApi.Rbcp.Client

/-!
# The RBCP client on a datagram network

A machine of three parties. The client makes calls, one after the other. The device answers requests
when it likes, as often as it likes and with any bytes, but every answer carries the id of its
request. The network keeps every reply for ever and puts a copy of one in the socket at any time: it
loses, delays, duplicates and reorders.

`recv` takes the oldest datagram in the socket, whatever it is. The id has eight bits, so a call never
accepts another call's reply as long as no reply is taken that is 256 requests old (`reply_matches`).
But it does not look for its own reply either: `own_reply_iff` says when it gets it.
-/

namespace SiDaqApi

open Machine

/-- A reply, with the request that it answers; requests are counted from zero. -/
structure Datagram where
  origin : ℕ
  bytes : List UInt8
  deriving DecidableEq

/-- A call that came as far as `recv_packet`: its request, what `recv` took, what the call returned
or threw. -/
structure Return where
  request : ℕ
  op : RbcpOp
  taken : Option Datagram
  result : Except SiTcpRbcpException (List UInt8)

/-- The client, the requests sent, the replies made, and the datagrams delivered to the socket, of
which those in `socket` are unread. -/
structure Net where
  client : SiTcpRbcp
  pending : Option RbcpOp
  requests : List (List UInt8)
  replies : List Datagram
  delivered : List Datagram
  socket : List Datagram
  returned : List Return

/-- Nothing has been sent. -/
def Net.start : Net := ⟨.new, none, [], [], [], [], []⟩

/-- How the wait for a reply ends. -/
inductive Awaited
  | selectFailed
  | timeout
  | recvFailed
  | recv

/-- The moves of the client (`call`, `finish`), of the device (`answer`) and of the network
(`deliver`). -/
inductive NetAction
  | call (op : RbcpOp) (sent : Bool)
  | finish (ready : Awaited)
  | answer (request : ℕ) (bytes : List UInt8)
  | deliver (reply : ℕ)

namespace Net

/-- A call, up to `send`. On a closed socket `send` fails. -/
def call (s : Net) (op : RbcpOp) (sent : Bool) : Option Net :=
  if s.pending.isSome ∨ sent ∧ s.client.Closed then none
  else
    match s.client.request op with
    | .error _ => some s
    | .ok (c, packet) =>
      match c.sendPacket sent with
      | (c, .error _) => some { s with client := c }
      | (c, .ok ()) =>
        some { s with client := c, pending := some op, requests := s.requests ++ [packet] }

/-- The call returns. -/
def back (s : Net) (op : RbcpOp) (taken : Option Datagram) (received : SiTcpRbcp.Received) : Net :=
  let r := s.client.finish op received
  { s with
    client := r.1
    pending := none
    returned := s.returned ++ [⟨s.requests.length - 1, op, taken, r.2⟩] }

/-- A call, from `select` on, which times out only when there is nothing to read. -/
def finish (s : Net) (ready : Awaited) : Option Net :=
  s.pending.bind fun op =>
    match ready with
    | .selectFailed => some (s.back op none .selectFailed)
    | .timeout => if s.socket = [] then some (s.back op none .timeout) else none
    | .recvFailed => some (s.back op none .recvFailed)
    | .recv =>
      match s.socket with
      | [] => none
      | d :: rest => some { s.back op (some d) (.datagram d.bytes) with socket := rest }

/-- The device answers a request, under the id of that. -/
def answer (s : Net) (request : ℕ) (bytes : List UInt8) : Option Net :=
  match s.requests[request]? with
  | none => none
  | some packet =>
    if bytes[2]? = packet[2]? then some { s with replies := s.replies ++ [⟨request, bytes⟩] }
    else none

/-- A copy of a reply arrives. -/
def deliver (s : Net) (reply : ℕ) : Option Net :=
  s.replies[reply]?.map fun d =>
    { s with delivered := s.delivered ++ [d], socket := s.socket ++ [d] }

/-- A move of one of the parties. -/
def step (s : Net) : NetAction → Option Net
  | .call op sent => s.call op sent
  | .finish ready => s.finish ready
  | .answer request bytes => s.answer request bytes
  | .deliver reply => s.deliver reply

end Net

/-! ## What the moves do -/

section Moves

variable {s s' : Net}

/-- A call throws at once, or closes the socket, or sends its packet under the next id. -/
theorem Net.call_cases {op : RbcpOp} {sent : Bool} (h : s.call op sent = some s') :
    s' = s ∨ (∃ c, s.pending = none ∧ c.Closed ∧ s' = { s with client := c }) ∨
      s.pending = none ∧ ¬ s.client.Closed ∧ op.length ≤ maxDataLen ∧
        ∃ c, c.id = (s.client.id + 1) % 256 ∧ ¬ c.Closed ∧
          s' = { s with
            client := c
            pending := some op
            requests := s.requests ++ [op.packet ((s.client.id + 1) % 256)] } := by
  unfold Net.call at h
  split at h
  · simp at h
  · rename_i hfree
    rw [not_or, not_and] at hfree
    have hnone : s.pending = none := by simpa using hfree.1
    by_cases hle : op.length ≤ maxDataLen
    · obtain ⟨c, hreq, hid, hcalls⟩ := s.client.request_of_le hle
      rw [hreq] at h
      cases sent with
      | false =>
        obtain rfl := Option.some.inj h
        exact Or.inr (Or.inl ⟨_, hnone, by simp [SiTcpRbcp.Closed], rfl⟩)
      | true =>
        obtain rfl := Option.some.inj h
        -- the packet is sent
        have hopen := hfree.2 rfl
        refine Or.inr (Or.inr ⟨hnone, hopen, hle,
          { c with calls := c.calls ++ [.send] }, hid, ?_, rfl⟩)
        simpa [SiTcpRbcp.Closed, hcalls] using hopen
    · rw [s.client.request_of_tooLong (not_le.mp hle)] at h
      exact Or.inl (Option.some.inj h).symm

/-- `recv` takes the oldest datagram. -/
theorem Net.finish_recv {op : RbcpOp} (hop : s.pending = some op)
    (h : s.finish .recv = some s') : ∃ d rest, s.socket = d :: rest ∧
      s' = { s.back op (some d) (.datagram d.bytes) with socket := rest } := by
  simp only [Net.finish, hop, Option.bind_some] at h
  split at h
  · simp at h
  · rename_i d rest hsocket
    exact ⟨d, rest, hsocket, (Option.some.inj h).symm⟩

/-- A call that waits returns without a datagram, or takes the oldest one. -/
theorem Net.finish_cases {ready : Awaited} (h : s.finish ready = some s') :
    ∃ op, s.pending = some op ∧
      ((∃ received, (∀ bytes, received ≠ .datagram bytes) ∧ s' = s.back op none received) ∨
        ∃ d rest, ready = .recv ∧ s.socket = d :: rest ∧
          s' = { s.back op (some d) (.datagram d.bytes) with socket := rest }) := by
  obtain ⟨op, hop, h⟩ := Option.bind_eq_some_iff.mp h
  refine ⟨op, hop, ?_⟩
  cases ready with
  | selectFailed => exact Or.inl ⟨_, by simp, (Option.some.inj h).symm⟩
  | timeout =>
    simp only at h
    split at h
    · exact Or.inl ⟨_, by simp, (Option.some.inj h).symm⟩
    · simp at h
  | recvFailed => exact Or.inl ⟨_, by simp, (Option.some.inj h).symm⟩
  | recv =>
    obtain ⟨d, rest, hsocket, hs'⟩ := Net.finish_recv hop (show s.finish .recv = some s' by
      rw [Net.finish, hop, Option.bind_some, h])
    exact Or.inr ⟨d, rest, rfl, hsocket, hs'⟩

theorem Net.answer_cases {request : ℕ} {bytes : List UInt8}
    (h : s.answer request bytes = some s') :
    ∃ packet, s.requests[request]? = some packet ∧ bytes[2]? = packet[2]? ∧
      s' = { s with replies := s.replies ++ [⟨request, bytes⟩] } := by
  unfold Net.answer at h
  split at h
  · simp at h
  · rename_i packet hpacket
    split at h
    · rename_i hid
      exact ⟨packet, hpacket, hid, (Option.some.inj h).symm⟩
    · simp at h

theorem Net.deliver_cases {reply : ℕ} (h : s.deliver reply = some s') :
    ∃ d, s.replies[reply]? = some d ∧
      s' = { s with delivered := s.delivered ++ [d], socket := s.socket ++ [d] } := by
  obtain ⟨d, hd, h⟩ := Option.map_eq_some_iff.mp h
  exact ⟨d, hd, h.symm⟩

end Moves

/-! ## Whose reply a call accepts -/

/-- A datagram that answers one of the first `n` requests, under the id of that. -/
structure Datagram.Answers (d : Datagram) (n : ℕ) : Prop where
  lt : d.origin < n
  id : d.bytes[2]? = some (UInt8.ofNat ((d.origin + 1) % 256))

theorem Datagram.Answers.mono {d : Datagram} {m n : ℕ} (h : d.Answers m) (hle : m ≤ n) :
    d.Answers n :=
  ⟨h.lt.trans_le hle, h.id⟩

/-- If the call succeeded, then with a reply to its own request, whose data bytes it returns. -/
def Return.Matches (r : Return) (replies : List Datagram) : Prop :=
  ∀ out, r.result = .ok out → ∃ d ∈ replies, r.taken = some d ∧ d.origin = r.request ∧
    (r.op.isRead = true → out = d.bytes.drop headerSize ∧ out.length = r.op.length)

/-- The invariant: as long as the socket is open, ids count the requests. -/
structure Net.Inv (s : Net) : Prop where
  id : ¬ s.client.Closed → s.client.id = s.requests.length % 256
  pending : ∀ op, s.pending = some op →
    ¬ s.client.Closed ∧ s.requests ≠ [] ∧ op.length ≤ maxDataLen
  requests : ∀ j packet, s.requests[j]? = some packet →
    packet[2]? = some (UInt8.ofNat ((j + 1) % 256))
  replies : ∀ d ∈ s.replies, d.Answers s.requests.length
  delivered : ∀ d ∈ s.delivered, d ∈ s.replies
  socket : s.socket <:+ s.delivered

theorem Net.Inv.start : Net.Inv .start where
  id _ := rfl
  pending := by simp [Net.start]
  requests := by simp [Net.start]
  replies := by simp [Net.start]
  delivered := by simp [Net.start]
  socket := List.suffix_rfl

section Step

variable {s s' : Net}

/-- A call that returns leaves the client's id and socket as they are. -/
theorem Net.Inv.back (h : s.Inv) (op : RbcpOp) (taken : Option Datagram)
    (received : SiTcpRbcp.Received) : (s.back op taken received).Inv where
  id hopen := by
    have hid := s.client.finish_id op received
    have hclosed := s.client.closed_finish op received
    exact hid.trans (h.id fun hc => hopen (hclosed.mpr hc))
  pending := by simp [Net.back]
  requests := h.requests
  replies := h.replies
  delivered := h.delivered
  socket := h.socket

/-- Every move keeps the invariant. -/
theorem Net.Inv.step {a : NetAction} (h : s.Inv) (hstep : s.step a = some s') : s'.Inv := by
  cases a with
  | call op sent =>
    rcases Net.call_cases hstep with rfl | ⟨c, hfree, hclosed, rfl⟩ |
      ⟨hfree, hopen, hle, c, hid, hc, rfl⟩
    · exact h
    · refine ⟨fun hopen => absurd hclosed hopen, ?_, h.requests, h.replies, h.delivered, h.socket⟩
      intro op hop
      rw [show s.pending = none from hfree] at hop
      simp at hop
    · -- one more request, under the next id
      have hnext : c.id = (s.requests.length + 1) % 256 := by
        rw [hid, h.id hopen]
        omega
      refine ⟨fun _ => by simpa using hnext, ?_, ?_, ?_, h.delivered, h.socket⟩
      · rintro op' hop'
        obtain rfl := Option.some.inj hop'
        exact ⟨hc, by simp, hle⟩
      · intro j packet hpacket
        by_cases hj : j < s.requests.length
        · rw [List.getElem?_append_left hj] at hpacket
          exact h.requests j packet hpacket
        · have hlt := (List.getElem?_eq_some_iff.mp hpacket).1
          rw [List.length_append, List.length_singleton] at hlt
          obtain rfl : j = s.requests.length := by omega
          rw [List.getElem?_concat_length, Option.some.injEq] at hpacket
          rw [← hpacket, op.getElem?_packet_id, ← hid, hnext]
      · intro d hd
        exact (h.replies d hd).mono (by simp)
  | finish ready =>
    obtain ⟨op, -, ⟨received, -, rfl⟩ | ⟨d, rest, -, hsocket, rfl⟩⟩ := Net.finish_cases hstep
    · exact h.back op none received
    · have hback := h.back op (some d) (.datagram d.bytes)
      -- `recv` takes the oldest unread datagram
      have hsuffix : rest <:+ s.delivered := by
        refine List.IsSuffix.trans ?_ h.socket
        rw [hsocket]
        exact List.suffix_cons d rest
      exact ⟨hback.id, hback.pending, hback.requests, hback.replies, hback.delivered, hsuffix⟩
  | answer request bytes =>
    obtain ⟨packet, hpacket, hid, rfl⟩ := Net.answer_cases hstep
    refine ⟨h.id, h.pending, h.requests, ?_, ?_, h.socket⟩
    · intro d hd
      rcases List.mem_append.mp hd with hd | hd
      · exact h.replies d hd
      · rw [List.mem_singleton.mp hd]
        exact ⟨(List.getElem?_eq_some_iff.mp hpacket).1, hid.trans (h.requests _ _ hpacket)⟩
    · exact fun d hd => List.mem_append_left _ (h.delivered d hd)
  | deliver reply =>
    obtain ⟨d, hd, rfl⟩ := Net.deliver_cases hstep
    refine ⟨h.id, h.pending, h.requests, h.replies, ?_, ?_⟩
    · intro e he
      rcases List.mem_append.mp he with he | he
      · exact h.delivered e he
      · rw [List.mem_singleton.mp he]
        exact List.mem_of_getElem? hd
    · obtain ⟨read, hread⟩ := h.socket
      exact ⟨read, by rw [← hread, List.append_assoc]⟩

/-- The next request of an open client goes out under its number. -/
theorem Net.Inv.requests_length (h : s.Inv) {op : RbcpOp} (hop : s.pending = some op) :
    s.client.id = s.requests.length % 256 ∧ s.requests.length - 1 + 1 = s.requests.length := by
  obtain ⟨hopen, hne, -⟩ := h.pending op hop
  have := List.length_pos_iff.mpr hne
  exact ⟨h.id hopen, by omega⟩

end Step

/-- `recv` does not take a reply to a request 256 or more requests older than the current one. -/
def Recent (s : Net) (a : NetAction) : Prop :=
  a = .finish .recv → ∀ d, s.socket.head? = some d → s.requests.length ≤ d.origin + 256

/-- Among the last 256 requests, the id tells them apart. -/
theorem Datagram.Answers.origin_eq {d : Datagram} {n : ℕ} (h : d.Answers n)
    (hrecent : n ≤ d.origin + 256) {b : UInt8} (hb : d.bytes[2]? = some b)
    (hid : b.toNat = n % 256) : d.origin + 1 = n := by
  have hlt := h.lt
  obtain rfl : b = .ofNat ((d.origin + 1) % 256) := Option.some.inj (hb.symm.trans h.id)
  rw [UInt8.toNat_ofNat'] at hid
  omega

/-- Every recent move keeps that the calls so far accepted their own replies only. -/
theorem Net.matches_step {s s' : Net} {a : NetAction} (h : s.Inv) (ha : Recent s a)
    (hr : ∀ r ∈ s.returned, r.Matches s.replies) (hstep : s.step a = some s') :
    ∀ r ∈ s'.returned, r.Matches s'.replies := by
  cases a with
  | call op sent =>
    rcases Net.call_cases hstep with rfl | ⟨c, -, -, rfl⟩ | ⟨-, -, -, c, -, -, rfl⟩ <;> exact hr
  | answer request bytes =>
    obtain ⟨packet, -, -, rfl⟩ := Net.answer_cases hstep
    intro r hmem out hout
    obtain ⟨d, hd, hmatch⟩ := hr r hmem out hout
    exact ⟨d, List.mem_append_left _ hd, hmatch⟩
  | deliver reply =>
    obtain ⟨d, -, rfl⟩ := Net.deliver_cases hstep
    exact hr
  | finish ready =>
    obtain ⟨op, hop, ⟨received, hnone, rfl⟩ | ⟨d, rest, rfl, hsocket, rfl⟩⟩ :=
      Net.finish_cases hstep
    · intro r hmem out hout
      rcases List.mem_append.mp hmem with hmem | hmem
      · exact hr r hmem out hout
      · obtain rfl := List.mem_singleton.mp hmem
        exact absurd hout (s.client.finish_of_not_datagram op hnone out)
    · intro r hmem out hout
      rcases List.mem_append.mp hmem with hmem | hmem
      · exact hr r hmem out hout
      · obtain rfl := List.mem_singleton.mp hmem
        obtain ⟨-, -, hle⟩ := h.pending op hop
        obtain ⟨hid, hlast⟩ := h.requests_length hop
        obtain ⟨hacc, rfl⟩ := (s.client.finish_datagram op hle out).mp hout
        have hd : d ∈ s.replies := h.delivered d (h.socket.mem (by simp [hsocket]))
        obtain ⟨b, hb, hbid⟩ := hacc.id
        -- the id of the datagram is that of its request, and recent requests differ in it
        have hown : d.origin + 1 = s.requests.length :=
          (h.replies d hd).origin_eq (ha rfl d (by simp [hsocket])) hb (hbid.trans hid)
        refine ⟨d, hd, rfl, by show d.origin = s.requests.length - 1; omega, fun hread => ?_⟩
        have hread' : op.isRead = true := hread
        have hlen := hacc.length
        refine ⟨by rw [if_pos hread'], ?_⟩
        show (if op.isRead then d.bytes.drop headerSize else []).length = op.length
        rw [if_pos hread', List.length_drop]
        omega

/-- **In every run in which `recv` takes no reply to a request 256 or more requests old, a call that
returns has accepted a reply to its own request, and a read returns the data bytes of that.** -/
theorem reply_matches {as : List NetAction} {s : Net} (hrecent : Guarded Net.step Recent .start as)
    (hrun : run Net.step .start as = some s) : ∀ r ∈ s.returned, r.Matches s.replies := by
  have hstep : ∀ s a s', (s.Inv ∧ ∀ r ∈ s.returned, r.Matches s.replies) → Recent s a →
      s.step a = some s' → s'.Inv ∧ ∀ r ∈ s'.returned, r.Matches s'.replies :=
    fun s a s' ⟨hinv, hr⟩ ha hs => ⟨hinv.step hs, Net.matches_step hinv ha hr hs⟩
  exact (run_invariant_of_guarded hstep ⟨.start, by simp [Net.start]⟩ hrecent hrun).2

/-- `Recent`, computed. -/
def recentBool (s : Net) : NetAction → Bool
  | .finish .recv => s.socket.head?.all fun d => s.requests.length ≤ d.origin + 256
  | _ => true

theorem recent_of_recentBool (s : Net) (a : NetAction) (h : recentBool s a = true) :
    Recent s a := by
  rintro rfl d hd
  simpa [recentBool, hd] using h

/-- The reply to a read of one byte at address 16. -/
def oneByteReply (id value : UInt8) : List UInt8 := [0xff, 0xc8, id, 1, 0, 0, 0, 16, value]

/-- The first read times out, the second one takes its reply, and the third one its own. The reply to
the second read is still on its way. -/
def staleTaken : List NetAction :=
  [.call (.read 16 1) true, .finish .timeout, .call (.read 16 1) true,
    .answer 0 (oneByteReply 1 41), .answer 1 (oneByteReply 2 42), .deliver 0, .finish .recv,
    .call (.read 16 1) true, .answer 2 (oneByteReply 3 43), .deliver 2, .deliver 1, .finish .recv]

theorem staleTaken_matches :
    ∃ s, run Net.step .start staleTaken = some s ∧
      s.returned.map (fun r => (r.taken.map Datagram.origin, r.result.toOption)) =
        [(none, none), (some 0, none), (some 2, some [43])] ∧
      s.socket = [⟨1, oneByteReply 2 42⟩] ∧ ∀ r ∈ s.returned, r.Matches s.replies :=
  ⟨_, rfl, rfl, rfl,
    @reply_matches staleTaken _ (guarded_of_guardedBool recent_of_recentBool (by decide)) rfl⟩

/-! ## When a call gets its own reply -/

/-- Each reply is delivered once, and the replies in the order of their requests. -/
def InOrder (s : Net) (a : NetAction) : Prop :=
  ∀ k, a = .deliver k → ∀ d, s.replies[k]? = some d → ∀ e ∈ s.delivered, e.origin < d.origin

/-- What in-order delivery keeps. -/
theorem delivered_step {s s' : Net} {a : NetAction} (ha : InOrder s a)
    (h : s.delivered.Pairwise fun e d => e.origin < d.origin) (hstep : s.step a = some s') :
    s'.delivered.Pairwise fun e d => e.origin < d.origin := by
  cases a with
  | call op sent =>
    rcases Net.call_cases hstep with rfl | ⟨c, -, -, rfl⟩ | ⟨-, -, -, c, -, -, rfl⟩ <;> exact h
  | answer request bytes =>
    obtain ⟨packet, -, -, rfl⟩ := Net.answer_cases hstep
    exact h
  | finish ready =>
    obtain ⟨op, -, ⟨received, -, rfl⟩ | ⟨d, rest, -, -, rfl⟩⟩ := Net.finish_cases hstep <;> exact h
  | deliver reply =>
    obtain ⟨d, hd, rfl⟩ := Net.deliver_cases hstep
    rw [List.pairwise_append]
    refine ⟨h, by simp, fun e he d' hd' => ?_⟩
    rw [List.mem_singleton.mp hd']
    exact ha reply rfl d hd e he

/-- Unread replies are in the order of their requests, none of which is yet to come. -/
theorem Net.unread_of_run {as : List NetAction} {s : Net}
    (horder : Guarded Net.step InOrder .start as) (hrun : run Net.step .start as = some s) :
    s.Inv ∧ s.socket.Pairwise fun e d => e.origin < d.origin := by
  have hstep : ∀ s a s', (s.Inv ∧ s.delivered.Pairwise fun e d => e.origin < d.origin) →
      InOrder s a → s.step a = some s' →
      s'.Inv ∧ s'.delivered.Pairwise fun e d => e.origin < d.origin :=
    fun s a s' ⟨hinv, h⟩ ha hs => ⟨hinv.step hs, delivered_step ha h hs⟩
  obtain ⟨hinv, hdelivered⟩ :=
    run_invariant_of_guarded hstep ⟨.start, by simp [Net.start]⟩ horder hrun
  exact ⟨hinv, hdelivered.sublist hinv.socket.sublist⟩

/-- **With replies delivered once and in order, a call whose own correct reply is in the socket
succeeds with it if and only if no earlier reply is unread.** -/
theorem own_reply_iff {as : List NetAction} {s s' : Net}
    (horder : Guarded Net.step InOrder .start as) (hrun : run Net.step .start as = some s)
    {op : RbcpOp} (hop : s.pending = some op) {d : Datagram} (hd : d ∈ s.socket)
    (hown : d.origin + 1 = s.requests.length)
    (hcorrect : op.Accepts (s.requests.length % 256) d.bytes)
    (hfinish : s.step (.finish .recv) = some s') :
    s'.returned = s.returned ++ [⟨d.origin, op, some d,
      .ok (if op.isRead then d.bytes.drop headerSize else [])⟩] ↔ s.socket = [d] := by
  obtain ⟨hinv, hsorted⟩ := Net.unread_of_run horder hrun
  obtain ⟨hid, -⟩ := hinv.requests_length hop
  obtain ⟨-, -, hle⟩ := hinv.pending op hop
  obtain ⟨e, rest, hsocket, rfl⟩ := Net.finish_recv hop hfinish
  constructor
  · intro hreturned
    have hlast := List.append_cancel_left hreturned
    simp only [List.cons.injEq, and_true, Return.mk.injEq, Option.some.injEq] at hlast
    obtain ⟨-, -, rfl, -⟩ := hlast
    rw [hsocket, List.pairwise_cons] at hsorted
    -- no unread reply is younger than the own one
    have hrest : rest = [] := by
      rw [List.eq_nil_iff_forall_not_mem]
      intro e' he'
      have hunread : e' ∈ s.socket := by simp [hsocket, he']
      have hlt := (hinv.replies e' (hinv.delivered e' (hinv.socket.mem hunread))).lt
      have hyounger := hsorted.1 e' he'
      omega
    rw [hsocket, hrest]
  · intro honly
    obtain ⟨rfl, rfl⟩ : e = d ∧ rest = [] := by simpa [hsocket] using honly
    have hok := (s.client.finish_datagram op hle _).mpr ⟨hid ▸ hcorrect, rfl⟩
    show s.returned ++ [_] = _
    rw [hok, show s.requests.length - 1 = e.origin by omega]

/-- `InOrder`, computed. -/
def inOrderBool (s : Net) : NetAction → Bool
  | .deliver k => s.replies[k]?.all fun d => s.delivered.all fun e => e.origin < d.origin
  | _ => true

theorem inOrder_of_inOrderBool (s : Net) (a : NetAction) (h : inOrderBool s a = true) :
    InOrder s a := by
  rintro k rfl d hd e he
  simp only [inOrderBool, hd, Option.all_some, List.all_eq_true, decide_eq_true_eq] at h
  exact h e he

theorem oneByteReply_correct {id : ℕ} (hid : id < 256) (value : UInt8) :
    (RbcpOp.read 16 1).Accepts id (oneByteReply (.ofNat id) value) where
  length := rfl
  verType := rfl
  command := ⟨0xc8, rfl, by decide, by decide, by decide⟩
  id := ⟨_, rfl, by rw [UInt8.toNat_ofNat']; omega⟩
  dataLength := ⟨1, rfl, rfl⟩

/-- Two reads time out before their replies are there. The third one takes the reply to the first,
and the reply to the second is lost. -/
def staleGone : List NetAction :=
  [.call (.read 16 1) true, .finish .timeout, .call (.read 16 1) true, .finish .timeout,
    .answer 0 (oneByteReply 1 41), .answer 1 (oneByteReply 2 42), .deliver 0,
    .call (.read 16 1) true, .finish .recv, .call (.read 16 1) true, .answer 3 (oneByteReply 4 44),
    .deliver 2]

/-- So the fourth read gets its own. -/
theorem staleGone_own_reply :
    ∃ s s', run Net.step .start staleGone = some s ∧ s.step (.finish .recv) = some s' ∧
      s'.returned.length = 4 ∧ s.socket = [⟨3, oneByteReply 4 44⟩] ∧
      (s'.returned = s.returned ++ [⟨3, .read 16 1, some ⟨3, oneByteReply 4 44⟩, .ok [44]⟩] ↔
        s.socket = [⟨3, oneByteReply 4 44⟩]) := by
  have horder : Guarded Net.step InOrder .start staleGone :=
    guarded_of_guardedBool inOrder_of_inOrderBool (by decide)
  have hcorrect : (RbcpOp.read 16 1).Accepts 4 (oneByteReply 4 44) :=
    oneByteReply_correct (by decide) 44
  exact ⟨_, _, rfl, rfl, rfl, rfl,
    own_reply_iff horder rfl rfl (List.mem_singleton.mpr rfl) rfl hcorrect rfl⟩

/-- The first call times out, and its reply comes after all. -/
def lateReply : List NetAction :=
  [.call (.read 16 1) true, .finish .timeout, .answer 0 (oneByteReply 1 42), .deliver 0,
    .call (.read 16 1) true, .answer 1 (oneByteReply 2 43), .deliver 1]

/-- The second call finds its own reply in the socket, takes the late one and fails. -/
theorem lateReply_fails :
    Guarded Net.step InOrder .start lateReply ∧
      (RbcpOp.read 16 1).Accepts 2 (oneByteReply 2 43) ∧
      ∃ s s', run Net.step .start lateReply = some s ∧
        ⟨1, oneByteReply 2 43⟩ ∈ s.socket ∧ s.step (.finish .recv) = some s' ∧
        s'.returned.getLast?.map Return.result =
          some (.error (.of .invalidPacket "unexpected id value")) :=
  ⟨guarded_of_guardedBool inOrder_of_inOrderBool (by decide), oneByteReply_correct (by decide) 43,
    _, _, rfl, by decide, rfl, rfl⟩

end SiDaqApi
