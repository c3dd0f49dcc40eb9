import SiDaqApi.Lib.Atomic
import SiDaqApi.Rbcp.Network
import SiDaqApi.Rbcp.Memory

/-!
# RBCP over a network is a linearizable memory

The client, the network of datagrams and the device with its memory. The network loses, delays and
reorders requests and replies, and duplicates replies; the device serves a request, or refuses it with
the bus error flag, or does nothing. A call that fails may have been served or not, and may still be
served later.

`memoryObject` is what the calls are for. A call is a thread of its own there, so that one that fails
simply stays without a return. As long as no request is served twice, and no reply is taken that is
256 requests old, every history of calls and successful returns is one of that memory
(`rbcp_linearizable`).
-/

namespace SiDaqApi

open Machine

/-! ## The device on the network -/

/-- Client, network and device. `served` is not in the source: it lists the requests whose access the
device has made. -/
structure Remote where
  net : Net
  mem : Memory
  served : List ℕ

/-- A new client, and a device with some memory. -/
def Remote.start (mem : Memory) : Remote := ⟨.start, mem, []⟩

/-- The moves of the client, of the network and of the device, which a copy of a request reaches. -/
inductive RemoteAct
  | call (op : RbcpOp) (sent : Bool)
  | finish (ready : Awaited)
  | deliver (reply : ℕ)
  | serve (request : ℕ)
  | refuse (request : ℕ) (bytes : List UInt8)

/-- The reply says that there was a bus error. -/
def hasBusErr (bytes : List UInt8) : Bool :=
  bytes[1]?.any fun flags => flags &&& headerFlagBusErr = headerFlagBusErr

namespace Remote

/-- The device makes the access of a request, and answers. -/
def serve (s : Remote) (request : ℕ) : Option Remote :=
  s.net.requests[request]?.bind fun packet =>
    (deviceReply s.mem packet).bind fun r =>
      (s.net.answer request r.2).map fun net => ⟨net, r.1, s.served ++ [request]⟩

/-- A move of one of the parties. -/
def step (s : Remote) : RemoteAct → Option Remote
  | .call op sent => (s.net.call op sent).map fun net => { s with net := net }
  | .finish ready => (s.net.finish ready).map fun net => { s with net := net }
  | .deliver reply => (s.net.deliver reply).map fun net => { s with net := net }
  | .serve request => s.serve request
  | .refuse request bytes =>
    if hasBusErr bytes then
      (s.net.answer request bytes).map fun net => { s with net := net }
    else none

/-- The history: a call sends its request, or succeeds. Calls are numbered by their requests. -/
def event (s : Remote) (a : RemoteAct) (s' : Remote) :
    List (Atomic.Event RbcpOp (List UInt8)) :=
  match a with
  | .call op _ =>
    if s.net.requests.length < s'.net.requests.length then [.call s.net.requests.length op] else []
  | .finish _ =>
    match s'.net.returned.getLast? with
    | some ⟨request, _, _, .ok out⟩ => [.ret request out]
    | _ => []
  | _ => []

/-- No request is served twice, and no reply is taken that is 256 requests old. -/
def InTime (s : Remote) : RemoteAct → Prop
  | .finish ready => Recent s.net (.finish ready)
  | .serve request => request ∉ s.served
  | _ => True

end Remote

/-! ## The memory -/

/-- The byte memory. An access that throws does not take place. -/
def memoryObject : Atomic.Object Memory RbcpOp (List UInt8) where
  apply mem op out :=
    match (mem.access op).2 with
    | .ok data => if out = data then some (mem.access op).1 else none
    | .error _ => none

/-- What a call returns with a reply that it accepts. -/
def RbcpOp.data (op : RbcpOp) (bytes : List UInt8) : List UInt8 :=
  if op.isRead then bytes.drop headerSize else []

theorem memoryObject_apply {mem : Memory} {op : RbcpOp} {out : List UInt8}
    (h : (mem.access op).2 = .ok out) :
    memoryObject.apply mem op out = some (mem.access op).1 := by
  simp only [memoryObject, h, if_true]

/-- A reply with the bus error flag is not accepted. -/
theorem not_accepts_of_hasBusErr {bytes : List UInt8} (h : hasBusErr bytes = true) (op : RbcpOp)
    (id : ℕ) : ¬ op.Accepts id bytes := by
  intro hacc
  obtain ⟨flags, hflags, -, -, hno⟩ := hacc.command
  simp only [hasBusErr, hflags, Option.any_some, decide_eq_true_eq] at h
  exact hno h

/-! ## The abstraction -/

/-- Request number `k`, as the memory has it: called until it is served, done until its call returns. A
reply that its call would accept is the answer to the access. -/
inductive Remote.Stage (s : Remote) (k : ℕ) (packet : List UInt8) :
    Atomic.Status RbcpOp (List UInt8) → Prop
  | called (op : RbcpOp) (hle : op.length ≤ maxDataLen) (hpacket : packet = op.packet ((k + 1) % 256))
    (hserved : k ∉ s.served)
    (hreplies : ∀ d ∈ s.net.replies, d.origin = k → ¬ op.Accepts ((k + 1) % 256) d.bytes) :
    Stage s k packet (.called op)
  | done (op : RbcpOp) (out : List UInt8) (hserved : k ∈ s.served)
    (hreplies : ∀ d ∈ s.net.replies, d.origin = k → op.Accepts ((k + 1) % 256) d.bytes →
      out = op.data d.bytes) : Stage s k packet (.done op out)
  | returned (hserved : k ∈ s.served) : Stage s k packet .idle

/-- The memory of the device, and the state of every request. -/
structure Remote.Abstracts (s : Remote) (t : Atomic.State Memory RbcpOp (List UInt8)) : Prop where
  inv : s.net.Inv
  mem : t.obj = s.mem
  stage : ∀ k packet, s.net.requests[k]? = some packet → s.Stage k packet (t.status k)
  fresh : ∀ k, s.net.requests.length ≤ k → t.status k = .idle
  served : ∀ k ∈ s.served, k < s.net.requests.length
  pending : ∀ op, s.net.pending = some op →
    t.status (s.net.requests.length - 1) = .called op ∨
      ∃ out, t.status (s.net.requests.length - 1) = .done op out

section Step

variable {s s' : Remote} {t : Atomic.State Memory RbcpOp (List UInt8)}

theorem Remote.Abstracts.start (mem : Memory) : (Remote.start mem).Abstracts (.init mem) where
  inv := .start
  mem := rfl
  stage := by simp [Remote.start, Net.start]
  fresh _ _ := rfl
  served := by simp [Remote.start]
  pending := by simp [Remote.start, Net.start]

/-- More replies that no call accepts, or none, leave a request as it is. -/
theorem Remote.Stage.congr {k : ℕ} {packet : List UInt8} {c : Atomic.Status RbcpOp (List UInt8)}
    (h : s.Stage k packet c) (hserved : k ∈ s'.served ↔ k ∈ s.served)
    (hreplies : ∀ d ∈ s'.net.replies, d.origin = k → d ∈ s.net.replies ∨
      ∀ op id, ¬ RbcpOp.Accepts op id d.bytes) : s'.Stage k packet c := by
  cases h with
  | called op hle hpacket hnot hold =>
    refine .called op hle hpacket (fun hin => hnot (hserved.mp hin)) fun d hd hk => ?_
    rcases hreplies d hd hk with hd | hrefused
    · exact hold d hd hk
    · exact hrefused op _
  | done op out hin hold =>
    refine .done op out (hserved.mpr hin) fun d hd hk hacc => ?_
    rcases hreplies d hd hk with hd | hrefused
    · exact hold d hd hk hacc
    · exact absurd hacc (hrefused op _)
  | returned hin => exact .returned (hserved.mpr hin)

/-- A move that sends no request and serves none. -/
theorem Remote.Abstracts.keep (h : s.Abstracts t) {net : Net} (hinv : net.Inv)
    (hrequests : net.requests = s.net.requests)
    (hreplies : ∀ d ∈ net.replies, d ∈ s.net.replies ∨ ∀ op id, ¬ RbcpOp.Accepts op id d.bytes)
    (hpending : net.pending = s.net.pending ∨ net.pending = none) :
    Remote.Abstracts { s with net := net } t where
  inv := hinv
  mem := h.mem
  stage := by
    intro k packet hpacket
    refine (h.stage k packet ?_).congr Iff.rfl fun d hd _ => hreplies d hd
    rw [← hrequests]
    exact hpacket
  fresh := by
    intro k hk
    exact h.fresh k (hrequests ▸ hk)
  served := by
    intro k hk
    rw [hrequests]
    exact h.served k hk
  pending := by
    intro op hop
    rw [hrequests]
    rcases hpending with hsame | hnone
    · exact h.pending op (hsame ▸ hop)
    · rw [show net.pending = none from hnone] at hop
      simp at hop

/-- The memory follows. -/
abbrev Remote.Followed (s' : Remote) (t : Atomic.State Memory RbcpOp (List UInt8))
    (es : List (Atomic.Event RbcpOp (List UInt8))) : Prop :=
  CanFollow (Atomic.step memoryObject) Atomic.event Remote.Abstracts s' t es

/-- A call. -/
theorem Remote.Abstracts.call (h : s.Abstracts t) {op : RbcpOp} {sent : Bool}
    (hstep : s.step (.call op sent) = some s') :
    Remote.Followed s' t (Remote.event s (.call op sent) s') := by
  obtain ⟨net, hcall, rfl⟩ := Option.map_eq_some_iff.mp hstep
  have hinv : net.Inv := h.inv.step (a := .call op sent) hcall
  rcases Net.call_cases hcall with rfl | ⟨c, hfree, -, rfl⟩ | ⟨hfree, hopen, hle, c, -, -, rfl⟩
  · rw [Remote.event, if_neg (lt_irrefl _)]
    exact CanFollow.stay h
  · -- the socket is closed, and nothing is sent
    rw [Remote.event, if_neg (lt_irrefl _)]
    exact CanFollow.stay (h.keep hinv rfl (fun d hd => Or.inl hd) (Or.inl rfl))
  · have hlt : s.net.requests.length <
        (s.net.requests ++ [op.packet ((s.net.client.id + 1) % 256)]).length := by simp
    rw [Remote.event, if_pos hlt]
    have hidle := h.fresh _ (le_refl s.net.requests.length)
    refine CanFollow.one (Atomic.step_call hidle) ⟨hinv, h.mem, ?_, ?_, ?_, ?_⟩
    · intro k packet hpacket
      by_cases hk : k < s.net.requests.length
      · rw [List.getElem?_append_left hk] at hpacket
        simp only [Atomic.State.set, Function.update_of_ne hk.ne]
        exact (h.stage k packet hpacket).congr Iff.rfl fun d hd _ => Or.inl hd
      · -- the new request has no reply yet
        have hle' := (List.getElem?_eq_some_iff.mp hpacket).1
        rw [List.length_append, List.length_singleton] at hle'
        obtain rfl : k = s.net.requests.length := by omega
        rw [List.getElem?_concat_length, Option.some.injEq] at hpacket
        rw [Atomic.State.status_set_self]
        refine .called op hle ?_ (fun hin => lt_irrefl _ (h.served _ hin)) fun d hd hk => ?_
        · rw [← hpacket, h.inv.id hopen]
          congr 1
          omega
        · exact absurd hk (h.inv.replies d hd).lt.ne
    · intro k hk
      rw [List.length_append, List.length_singleton] at hk
      simp only [Atomic.State.set, Function.update_of_ne (show k ≠ s.net.requests.length by omega)]
      exact h.fresh k (by omega)
    · intro k hk
      exact (h.served k hk).trans hlt
    · rintro op' hop'
      obtain rfl := Option.some.inj hop'
      left
      simp only [List.length_append, List.length_singleton, Nat.add_sub_cancel]
      exact Atomic.State.status_set_self _ _ _

/-- A call that waits: it fails, or succeeds with the answer to its own access. -/
theorem Remote.Abstracts.finish (h : s.Abstracts t) {ready : Awaited}
    (hrecent : Recent s.net (.finish ready)) (hstep : s.step (.finish ready) = some s') :
    Remote.Followed s' t (Remote.event s (.finish ready) s') := by
  obtain ⟨net, hfinish, rfl⟩ := Option.map_eq_some_iff.mp hstep
  have hinv : net.Inv := h.inv.step (a := .finish ready) hfinish
  -- a call that fails leaves no trace
  have hfail : net.requests = s.net.requests → net.replies = s.net.replies → net.pending = none →
      Remote.event s (.finish ready) { s with net := net } = [] →
      Remote.Followed { s with net := net } t
        (Remote.event s (.finish ready) { s with net := net }) := by
    intro hrequests hreplies hnone hevent
    rw [hevent]
    exact CanFollow.stay
      (h.keep hinv hrequests (fun d hd => Or.inl (hreplies ▸ hd)) (Or.inr hnone))
  obtain ⟨op, hop, ⟨received, hnone, rfl⟩ | ⟨d, rest, rfl, hsocket, rfl⟩⟩ :=
    Net.finish_cases hfinish
  · refine hfail rfl rfl rfl ?_
    cases hresult : (s.net.client.finish op received).2 with
    | ok out => exact absurd hresult (s.net.client.finish_of_not_datagram op hnone out)
    | error e => simp [Remote.event, Net.back, hresult]
  · cases hresult : (s.net.client.finish op (.datagram d.bytes)).2 with
    | error e =>
      refine hfail rfl rfl rfl ?_
      simp [Remote.event, Net.back, hresult]
    | ok out =>
      obtain ⟨-, -, hle⟩ := h.inv.pending op hop
      obtain ⟨hid, hlast⟩ := h.inv.requests_length hop
      obtain ⟨hacc, hout⟩ := (s.net.client.finish_datagram op hle out).mp hresult
      have hd : d ∈ s.net.replies :=
        h.inv.delivered d (h.inv.socket.mem (by simp [hsocket]))
      obtain ⟨b, hb, hbid⟩ := hacc.id
      -- the reply is to the request of this call
      have hown : d.origin + 1 = s.net.requests.length :=
        (h.inv.replies d hd).origin_eq (hrecent rfl d (by simp [hsocket])) hb (hbid.trans hid)
      have horigin : d.origin = s.net.requests.length - 1 := by omega
      obtain ⟨packet, hpacket⟩ : ∃ packet, s.net.requests[s.net.requests.length - 1]? = some packet :=
        ⟨_, List.getElem?_eq_getElem (by omega)⟩
      have hstage := h.stage _ packet hpacket
      have hpending := h.pending op hop
      rw [hid, ← hlast] at hacc
      -- the access has been made, with this answer
      have hdone : t.status (s.net.requests.length - 1) = .done op out := by
        generalize t.status (s.net.requests.length - 1) = c at hstage hpending
        cases hstage with
        | called op' _ _ _ hno =>
          rcases hpending with heq | ⟨out', heq⟩
          · obtain rfl := Atomic.Status.called.inj heq
            exact absurd hacc (hno d hd horigin)
          · cases heq
        | done op' out' _ hsame =>
          rcases hpending with heq | ⟨out'', heq⟩
          · cases heq
          · obtain ⟨rfl, rfl⟩ := Atomic.Status.done.inj heq
            rw [hsame d hd horigin hacc, hout]
            rfl
        | returned _ =>
          rcases hpending with heq | ⟨out', heq⟩ <;> cases heq
      obtain ⟨hret, hevent⟩ := Atomic.step_ret (o := memoryObject) hdone
      have hreturned : Remote.event s (.finish .recv) { s with
          net := { s.net.back op (some d) (.datagram d.bytes) with socket := rest } } =
            [.ret (s.net.requests.length - 1) out] := by
        simp [Remote.event, Net.back, hresult]
      rw [hreturned, ← hevent]
      have hkept : Remote.Abstracts { s with
          net := { s.net.back op (some d) (.datagram d.bytes) with socket := rest } } t :=
        h.keep hinv rfl (fun e he => Or.inl he) (Or.inr rfl)
      refine CanFollow.one hret ⟨hinv, h.mem, fun k packet' hpacket' => ?_, fun k hk => ?_,
        h.served, by simp [Net.back]⟩
      · by_cases hk : k = s.net.requests.length - 1
        · rw [hk, Atomic.State.status_set_self]
          rw [hdone] at hstage
          cases hstage with
          | done _ _ hserved _ => exact .returned hserved
        · simp only [Atomic.State.set, Function.update_of_ne hk]
          exact hkept.stage k packet' hpacket'
      · by_cases hk' : k = s.net.requests.length - 1
        · rw [hk', Atomic.State.status_set_self]
        · simp only [Atomic.State.set, Function.update_of_ne hk']
          exact h.fresh k hk

/-- The device serves a request: the access is made. -/
theorem Remote.Abstracts.serve (h : s.Abstracts t) {request : ℕ} (honce : request ∉ s.served)
    (hstep : s.step (.serve request) = some s') : Remote.Followed s' t [] := by
  obtain ⟨packet, hpacket, hstep⟩ := Option.bind_eq_some_iff.mp hstep
  obtain ⟨⟨mem, reply⟩, hreply, hstep⟩ := Option.bind_eq_some_iff.mp hstep
  obtain ⟨net, hanswer, rfl⟩ := Option.map_eq_some_iff.mp hstep
  have hinv : net.Inv := h.inv.step (a := .answer request reply) hanswer
  obtain ⟨-, -, -, rfl⟩ := Net.answer_cases hanswer
  have hstage := h.stage request packet hpacket
  generalize hc : t.status request = c at hstage
  cases hstage with
  | done _ _ hserved _ | returned hserved => exact absurd hserved honce
  | called op hle hop _ hno =>
    obtain ⟨reply', hreply', hacc, haccess⟩ :=
      deviceReply_packet s.mem hle (Nat.mod_lt (request + 1) (by decide : 0 < 256))
    rw [hop, hreply', Option.some.injEq, Prod.mk.injEq] at hreply
    obtain ⟨rfl, rfl⟩ := hreply
    have happly : memoryObject.apply t.obj op (op.data reply') = some (s.mem.access op).1 := by
      rw [h.mem]
      exact memoryObject_apply haccess
    refine CanFollow.one (Atomic.step_effect hc happly) ⟨hinv, rfl, fun k packet' hpacket' => ?_,
      fun k hk => ?_, fun k hk => ?_, fun op' hop' => ?_⟩
    · by_cases hk : k = request
      · rw [hk]
        simp only [Atomic.State.set, Function.update_self]
        -- the only reply to this request that is acceptable
        refine .done op _ (List.mem_append_right _ List.mem_cons_self) fun d hd hd' hdacc => ?_
        rcases List.mem_append.mp hd with hd | hd
        · exact absurd hdacc (hno d hd hd')
        · rw [List.mem_singleton.mp hd]
      · simp only [Atomic.State.set, Function.update_of_ne hk]
        refine (h.stage k packet' hpacket').congr ?_ fun d hd hd' => ?_
        · simp [hk]
        · rcases List.mem_append.mp hd with hd | hd
          · exact Or.inl hd
          · rw [List.mem_singleton.mp hd] at hd'
            exact absurd hd'.symm hk
    · have hne : k ≠ request := by
        rintro rfl
        have hidle := h.fresh k hk
        rw [hc] at hidle
        cases hidle
      simp only [Atomic.State.set, Function.update_of_ne hne]
      exact h.fresh k hk
    · rcases List.mem_append.mp hk with hk | hk
      · exact h.served k hk
      · rw [List.mem_singleton.mp hk]
        exact (List.getElem?_eq_some_iff.mp hpacket).1
    · have hpending := h.pending op' hop'
      by_cases hlast : s.net.requests.length - 1 = request
      · right
        rw [hlast, hc] at hpending
        rcases hpending with heq | ⟨out, heq⟩
        · obtain rfl := Atomic.Status.called.inj heq
          refine ⟨op.data reply', ?_⟩
          simp only [Atomic.State.set, hlast, Function.update_self]
        · cases heq
      · simp only [Atomic.State.set, Function.update_of_ne hlast]
        exact hpending

/-- **The memory follows every move.** -/
theorem Remote.Abstracts.step (h : s.Abstracts t) {a : RemoteAct} (htime : s.InTime a)
    (hstep : s.step a = some s') : Remote.Followed s' t (Remote.event s a s') := by
  cases a with
  | call op sent => exact h.call hstep
  | finish ready => exact h.finish htime hstep
  | serve request => exact h.serve htime hstep
  | deliver reply =>
    obtain ⟨net, hdeliver, rfl⟩ := Option.map_eq_some_iff.mp hstep
    have hinv : net.Inv := h.inv.step (a := .deliver reply) hdeliver
    obtain ⟨d, -, rfl⟩ := Net.deliver_cases hdeliver
    exact CanFollow.stay (h.keep hinv rfl (fun e he => Or.inl he) (Or.inl rfl))
  | refuse request bytes =>
    simp only [Remote.step] at hstep
    split at hstep
    · rename_i hbus
      obtain ⟨net, hanswer, rfl⟩ := Option.map_eq_some_iff.mp hstep
      have hinv : net.Inv := h.inv.step (a := .answer request bytes) hanswer
      obtain ⟨-, -, -, rfl⟩ := Net.answer_cases hanswer
      refine CanFollow.stay (h.keep hinv rfl (fun d hd => ?_) (Or.inl rfl))
      rcases List.mem_append.mp hd with hd | hd
      · exact Or.inl hd
      · rw [List.mem_singleton.mp hd]
        exact Or.inr fun op id => not_accepts_of_hasBusErr hbus op id
    · simp at hstep

end Step

/-- **RBCP over the network is a linearizable memory**, as long as no request is served twice and no
reply is taken that is 256 requests old: the calls, and what the successful ones return, are a history
of a byte memory in which every access is made in one step, after its call and before its return; the
accesses in their order, with their results, are an execution of the memory, and lead to the memory
that the device has. -/
theorem rbcp_linearizable (mem : Memory) (acts : List RemoteAct) (s : Remote)
    (htime : Guarded Remote.step Remote.InTime (Remote.start mem) acts)
    (hrun : run Remote.step (Remote.start mem) acts = some s) :
    ∃ bs t, run (Atomic.step memoryObject) (.init mem) bs = some t ∧
      trace (Atomic.step memoryObject) Atomic.event (.init mem) bs =
        trace Remote.step Remote.event (Remote.start mem) acts ∧
      run memoryObject.play mem (trace (Atomic.step memoryObject) Atomic.effects (.init mem) bs) =
        some s.mem := by
  have hsim : Simulation Remote.step Remote.event Remote.InTime (Atomic.step memoryObject)
      Atomic.event Remote.Abstracts := fun s t a s' h htime hstep => h.step htime hstep
  obtain ⟨bs, t, hbs, h, htrace⟩ := hsim.run (Remote.Abstracts.start mem) htime hrun
  refine ⟨bs, t, hbs, htrace, ?_⟩
  rw [← h.mem]
  exact Atomic.effects_legal hbs

/-- `Remote.InTime`, computed. -/
def Remote.inTimeBool (s : Remote) : RemoteAct → Bool
  | .finish ready => recentBool s.net (.finish ready)
  | .serve request => !s.served.contains request
  | _ => true

theorem Remote.inTime_of_inTimeBool (s : Remote) (a : RemoteAct) (h : s.inTimeBool a = true) :
    s.InTime a := by
  cases a with
  | finish ready => exact recent_of_recentBool _ _ h
  | serve request => simpa [Remote.inTimeBool, Remote.InTime] using h
  | call _ _ | deliver _ | refuse _ _ => trivial

/-- A write that times out and is served only after the next read. -/
def lateWrite : List RemoteAct :=
  [.call (.write (fun _ => 7) 16 1) true, .finish .timeout, .call (.read 16 1) true, .serve 1,
    .serve 0, .deliver 0, .finish .recv]

theorem lateWrite_linearizable :
    ∃ s, run Remote.step (Remote.start fun _ => 42) lateWrite = some s ∧ s.mem 16 = 7 ∧
      trace Remote.step Remote.event (Remote.start fun _ => 42) lateWrite =
        [.call 0 (.write (fun _ => 7) 16 1), .call 1 (.read 16 1), .ret 1 [42]] ∧
      ∃ bs t, run (Atomic.step memoryObject) (.init fun _ => 42) bs = some t ∧
        trace (Atomic.step memoryObject) Atomic.event (.init fun _ => 42) bs =
          trace Remote.step Remote.event (Remote.start fun _ => 42) lateWrite ∧
        run memoryObject.play (fun _ => 42)
          (trace (Atomic.step memoryObject) Atomic.effects (.init fun _ => 42) bs) = some s.mem :=
  ⟨_, rfl, rfl, rfl, rbcp_linearizable (fun _ => 42) lateWrite _
    (guarded_of_guardedBool Remote.inTime_of_inTimeBool (by decide)) rfl⟩

end SiDaqApi
