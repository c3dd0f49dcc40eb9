import SiDaqApi.Rbcp.Client

/-!
# The socket of an RBCP client, from the constructor to the destructor

`lifetime` lists the calls on the socket of one `SiTcpRbcp` object: those of the constructor, of all
operations after it, and of the destructor, for every answer of every call. The operations throw, and
their callers catch and go on with the object.

A failed `send` or `setsockopt` closes the socket, and the destructor closes it again; a constructor
that fails in `connect` does not close it, and there is no destructor then.
`closed_once_iff_calls_succeed` says that nothing else goes wrong.
-/

namespace SiDaqApi

/-- `struct timeval`. -/
structure Timeval where
  sec : ℕ
  usec : ℕ
  deriving DecidableEq, Repr

/-- A client with its `timeout`. -/
structure TimedRbcp where
  rbcp : SiTcpRbcp
  timeout : Timeval

/-- The client has closed its socket. -/
def TimedRbcp.Closed (c : TimedRbcp) : Prop := c.rbcp.Closed

/-- `SetTimeout`: `ok` says whether `setsockopt` succeeded. -/
def TimedRbcp.setTimeout (c : TimedRbcp) (msec : UInt32) (ok : Bool) :
    TimedRbcp × Except SiTcpRbcpException Unit :=
  let timeout : Timeval :=
    ⟨msec.toNat / 1000, (msec.toNat - msec.toNat / 1000 * 1000) * 1000⟩
  if ok then
    (⟨{ c.rbcp with calls := c.rbcp.calls ++ [.setsockopt] }, timeout⟩, .ok ())
  else
    (⟨{ c.rbcp with calls := c.rbcp.calls ++ [.setsockopt, .closesocket] }, timeout⟩,
      .error (.of .socketError "setsocketopt() failed"))

/-- `ReadBytes` and `WriteBytes` as a whole. -/
def TimedRbcp.access (c : TimedRbcp) (op : RbcpOp) (sent : Bool) (received : SiTcpRbcp.Received) :
    TimedRbcp × Except SiTcpRbcpException (List UInt8) :=
  match c.rbcp.request op with
  | .error e => (c, .error e)
  | .ok (r, _) =>
    match r.sendPacket sent with
    | (r, .error e) => ({ c with rbcp := r }, .error e)
    | (r, .ok ()) => ({ c with rbcp := (r.finish op received).1 }, (r.finish op received).2)

/-- What the calls of the constructor return: whether they succeed. -/
structure NewAnswers where
  socket : Bool
  setsockopt : Bool
  connect : Bool
  deriving DecidableEq, Repr

/-- The constructor `SiTcpRbcp(hostAddr, port, timeout)`: the calls that it has made on the socket
when it throws, or the client. -/
def TimedRbcp.construct (timeout : UInt32) (answers : NewAnswers) :
    Except (List SockCall × SiTcpRbcpException) TimedRbcp :=
  if ¬ answers.socket then .error ([], .of .socketError "socket() failed")
  else
    match TimedRbcp.setTimeout ⟨.new, ⟨0, 0⟩⟩ timeout answers.setsockopt with
    | (c, .error e) => .error (c.rbcp.calls, e)
    | (c, .ok ()) =>
      let c := { c with rbcp := { c.rbcp with calls := c.rbcp.calls ++ [.connect] } }
      if answers.connect then .ok c
      else .error (c.rbcp.calls, .of .socketError "connect() failed")

/-- The destructor. -/
def TimedRbcp.destroy (c : TimedRbcp) : List SockCall := c.rbcp.calls ++ [.closesocket]

/-- An operation on the object, with the answers of its calls. -/
inductive RbcpUse
  | access (op : RbcpOp) (sent : Bool) (received : SiTcpRbcp.Received)
  | setTimeout (msec : UInt32) (ok : Bool)

/-- The object after an operation. What it throws is caught by its callers. -/
def TimedRbcp.use (c : TimedRbcp) : RbcpUse → TimedRbcp
  | .access op sent received => (c.access op sent received).1
  | .setTimeout msec ok => (c.setTimeout msec ok).1

/-- All calls on the socket of an object. -/
def lifetime (timeout : UInt32) (answers : NewAnswers) (uses : List RbcpUse) : List SockCall :=
  match TimedRbcp.construct timeout answers with
  | .error (calls, _) => calls
  | .ok c => (uses.foldl TimedRbcp.use c).destroy

/-- The last call closes the socket, and no other one does. -/
def ClosedAtEnd (calls : List SockCall) : Prop :=
  ∃ before, calls = before ++ [.closesocket] ∧ .closesocket ∉ before

/-- The socket, if there is one, is closed exactly once, and not used after that. -/
def OneLifetime (opened : Bool) (calls : List SockCall) : Prop :=
  if opened then ClosedAtEnd calls else calls = []

/-- The operation does not close the socket: `send`, if it comes to that, takes the whole packet, and
`setsockopt` succeeds. -/
def RbcpUse.Succeeds : RbcpUse → Prop
  | .access op sent _ => op.length ≤ maxDataLen → sent = true
  | .setTimeout _ ok => ok = true

/-! ## The operations -/

/-- `setsockopt` closes the socket when it fails. -/
theorem TimedRbcp.closed_setTimeout (c : TimedRbcp) (msec : UInt32) (ok : Bool) :
    (c.setTimeout msec ok).1.Closed ↔ c.Closed ∨ ok = false := by
  cases ok <;>
    simp [TimedRbcp.setTimeout, TimedRbcp.Closed, SiTcpRbcp.Closed]

/-- `send` closes it when it does not take the whole packet. -/
theorem SiTcpRbcp.closed_sendPacket (c : SiTcpRbcp) (sent : Bool) :
    (c.sendPacket sent).1.Closed ↔ c.Closed ∨ sent = false := by
  cases sent <;>
    simp [SiTcpRbcp.sendPacket, SiTcpRbcp.Closed]

/-- Nothing else in a read or a write does. -/
theorem TimedRbcp.closed_access (c : TimedRbcp) (op : RbcpOp) (sent : Bool)
    (received : SiTcpRbcp.Received) :
    (c.access op sent received).1.Closed ↔ c.Closed ∨ op.length ≤ maxDataLen ∧ sent = false := by
  by_cases hlen : op.length ≤ maxDataLen
  · obtain ⟨r, hr, -, hcalls⟩ := c.rbcp.request_of_le hlen
    have hsame : r.Closed ↔ c.Closed := by
      simp only [TimedRbcp.Closed, SiTcpRbcp.Closed, hcalls]
    have hsend := r.closed_sendPacket sent
    rw [and_iff_right hlen, ← hsame, ← hsend]
    simp only [TimedRbcp.access, hr]
    -- what follows `send` does not close anything
    cases sent with
    | false => exact Iff.rfl
    | true => exact (r.sendPacket true).1.closed_finish op received
  · rw [TimedRbcp.access, c.rbcp.request_of_tooLong (not_le.mp hlen)]
    simp only [hlen, false_and, or_false]

/-- **One operation**: an open socket is closed by it if and only if it does not succeed. -/
theorem TimedRbcp.closed_use (c : TimedRbcp) (u : RbcpUse) :
    (c.use u).Closed ↔ c.Closed ∨ ¬ u.Succeeds := by
  cases u with
  | access op sent received =>
    simp only [TimedRbcp.use, c.closed_access, RbcpUse.Succeeds, Classical.not_imp,
      Bool.not_eq_true]
  | setTimeout msec ok =>
    simp only [TimedRbcp.use, c.closed_setTimeout, RbcpUse.Succeeds, Bool.not_eq_true]

/-- All operations. -/
theorem TimedRbcp.closed_foldl (c : TimedRbcp) (uses : List RbcpUse) :
    (uses.foldl TimedRbcp.use c).Closed ↔ c.Closed ∨ ∃ u ∈ uses, ¬ u.Succeeds := by
  induction uses generalizing c with
  | nil => simp
  | cons u us ih => simp only [List.foldl_cons, ih, c.closed_use, List.mem_cons, exists_eq_or_imp, or_assoc]

/-- The destructor closes the socket once more, or for the first time. -/
theorem TimedRbcp.closedAtEnd_destroy (c : TimedRbcp) : ClosedAtEnd c.destroy ↔ ¬ c.Closed := by
  constructor
  · rintro ⟨before, heq, hopen⟩ hclosed
    obtain rfl := List.append_cancel_right heq
    exact hopen hclosed
  · exact fun hopen => ⟨c.rbcp.calls, rfl, hopen⟩

/-! ## The constructor -/

/-- Every answer of the constructor's calls, and what it leaves. -/
theorem TimedRbcp.construct_cases (timeout : UInt32) (answers : NewAnswers) :
    (answers.socket = false ∧
      ∃ e, TimedRbcp.construct timeout answers = .error ([], e)) ∨
    (answers.socket = true ∧ answers.setsockopt = false ∧
      ∃ e, TimedRbcp.construct timeout answers = .error ([.setsockopt, .closesocket], e)) ∨
    (answers.socket = true ∧ answers.setsockopt = true ∧ answers.connect = false ∧
      ∃ e, TimedRbcp.construct timeout answers = .error ([.setsockopt, .connect], e)) ∨
    (answers.socket = true ∧ answers.setsockopt = true ∧ answers.connect = true ∧
      ∃ c, TimedRbcp.construct timeout answers = .ok c ∧ c.rbcp.calls = [.setsockopt, .connect]) := by
  obtain ⟨opened, optioned, connected⟩ := answers
  cases opened with
  | false => exact Or.inl ⟨rfl, _, rfl⟩
  | true =>
    cases optioned with
    | false => exact Or.inr (Or.inl ⟨rfl, rfl, _, rfl⟩)
    | true =>
      cases connected with
      | false => exact Or.inr (Or.inr (Or.inl ⟨rfl, rfl, rfl, _, rfl⟩))
      | true => exact Or.inr (Or.inr (Or.inr ⟨rfl, rfl, rfl, _, rfl, rfl⟩))

/-- A constructor that fails in `connect` leaves the socket open. -/
theorem not_closedAtEnd_connect : ¬ ClosedAtEnd [.setsockopt, .connect] := by
  rintro ⟨before, heq, -⟩
  have hlast := congrArg List.getLast? heq
  simp at hlast

/-- **The socket of an RBCP client is closed exactly once and not used after that, if and only if**
there is none, or the constructor fails in `setsockopt`, or the constructor succeeds and no operation
fails in `send` or `setsockopt`. -/
theorem closed_once_iff_calls_succeed (timeout : UInt32) (answers : NewAnswers)
    (uses : List RbcpUse) :
    OneLifetime answers.socket (lifetime timeout answers uses) ↔
      answers.socket = false ∨ answers.setsockopt = false ∨
        answers.connect = true ∧ ∀ u ∈ uses, u.Succeeds := by
  rcases TimedRbcp.construct_cases timeout answers with ⟨hsock, e, hnew⟩ | ⟨hsock, hopt, e, hnew⟩ |
    ⟨hsock, hopt, hconn, e, hnew⟩ | ⟨hsock, hopt, hconn, c, hnew, hcalls⟩
  · simp [OneLifetime, lifetime, hnew, hsock]
  · simp only [OneLifetime, lifetime, hnew, hsock, hopt, if_true, true_or, or_true, iff_true]
    exact ⟨[.setsockopt], rfl, by decide⟩
  · simp only [OneLifetime, lifetime, hnew, hsock, hopt, hconn, if_true, Bool.true_eq_false,
      Bool.false_eq_true, false_and, or_false, iff_false]
    exact not_closedAtEnd_connect
  · have hnew' : ¬ c.Closed := by
      rw [TimedRbcp.Closed, SiTcpRbcp.Closed, hcalls]
      decide
    simp only [OneLifetime, lifetime, hnew, hsock, hopt, hconn, if_true, Bool.true_eq_false,
      false_or, true_and, TimedRbcp.closedAtEnd_destroy, TimedRbcp.closed_foldl, hnew',
      not_exists, not_and, not_not]

/-- A read whose `send` fails, and then the destructor: the socket is closed twice. -/
theorem failedSend_closes_twice :
    lifetime 200 ⟨true, true, true⟩ [.access (.read 0 1) false .timeout] =
        [.setsockopt, .connect, .send, .closesocket, .closesocket] ∧
      ¬ OneLifetime true (lifetime 200 ⟨true, true, true⟩ [.access (.read 0 1) false .timeout]) := by
  refine ⟨by rfl, ?_⟩
  rintro ⟨before, heq, hopen⟩
  obtain rfl : before = [.setsockopt, .connect, .send, .closesocket] :=
    List.append_cancel_right (heq.symm.trans rfl)
  exact hopen (by decide)

end SiDaqApi
