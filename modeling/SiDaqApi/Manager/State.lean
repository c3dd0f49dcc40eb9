import SiDaqApi.Framer.Stream
import Mathlib.Logic.Function.Basic

/-!
# A manager and the threads of its runs: the state

`SiDaqMngr` with the two queues, the framer and the parameters of the socket thread, and the program
counter of everybody who works on it: the application (`ApiPc`), the socket threads (`SockThread`)
and the framer threads (`FramerPc`) of all runs so far. A program counter stands before an access to
shared memory; what a thread computes on its own variables in between is no step of its own.

The queues are lists: an `SQPut` or an `SQGet` is one step. The TCP connection is not modelled beyond
its handle and what `recv` returns.
-/

namespace SiDaqApi

variable {α : Type*}

/-! ## Errors -/

/-- `SiDaqStatus`, without `SIDAQ_MNGR_INVALID`, which no manager has. -/
inductive SiDaqStatus
  | idle
  | stopping
  | reset
  | run
  | sysError
  deriving DecidableEq, Repr

/-- `SiDaqErroeCode`, the codes that are ever set. -/
inductive SiDaqErrorCode
  | noError
  | exceedRecvQueueCount
  | memoryAllocatedFailed
  | exceedFrameQueueCount
  | getFrameLengthFailed
  | exceedMaxFrameLength
  | initialConnectFailed
  | invalidParameter
  | framerBufSizeError
  | sitcpWriteError
  | undefinedError
  | winsockError
  deriving DecidableEq, Repr

/-- `SockQueueErroeCode`. -/
inductive SockQueueErrorCode
  | noError
  | exceedRecvQueueCount
  | memoryAllocatedFailed
  deriving DecidableEq, Repr

/-- `decode_framer_error`. -/
def decodeFramerError : FramerErrorCode → SiDaqErrorCode
  | .noError => .noError
  | .invalidParameter => .invalidParameter
  | .memoryAllocatedFailed => .memoryAllocatedFailed
  | .exceedFrameQueueCount => .exceedFrameQueueCount
  | .getFrameLengthFailed => .getFrameLengthFailed
  | .exceedMaxFrameLength => .exceedMaxFrameLength
  | .bufSizeError => .framerBufSizeError

/-- `decode_framer_error_string`. -/
def decodeFramerErrorString : FramerErrorCode → String
  | .noError => "No Error"
  | .invalidParameter => "Framer invalid parameter"
  | .memoryAllocatedFailed => "Framer memory allocatd failed"
  | .exceedFrameQueueCount => "Exceed frame queue count"
  | .getFrameLengthFailed => "Get Frame length failed"
  | .exceedMaxFrameLength => "Exceed max frame lentgh"
  | .bufSizeError => "framer buffer size error"

/-- `decode_sock_queue_error`. -/
def decodeSockQueueError : SockQueueErrorCode → SiDaqErrorCode
  | .noError => .noError
  | .memoryAllocatedFailed => .memoryAllocatedFailed
  | .exceedRecvQueueCount => .exceedRecvQueueCount

/-- `WSAEWOULDBLOCK`, the one error that `is_allowed_error` lets pass: no data yet. -/
def wsaEWouldBlock : ℤ := 10035

/-- `decode_error`, by the Winsock error codes in the order of the source. -/
def decodeError (code : ℤ) : String :=
  if code = 10093 then
    "Before this function can be used, the WSAStartup call must succeed."
  else if code = 10014 then
    "Either the Windows socket implementation could not allocate the necessary resources for " ++
      "internal operations or readfds, writefds, exceptfds, or timeval parameters are not part " ++
      "of the user address space."
  else if code = 10050 then "Network subsystem failed."
  else if code = 10022 then
    "Either the timeout value is invalid or all three descriptor parameters are null."
  else if code = 10004 then
    "A blocked operation was interrupted by a call to WSACancelBlockingCall."
  else if code = 10036 then
    "Either a blocking Windows Socket 1.1 call is in progress or the service provider is " ++
      "handling the callback function."
  else if code = 10038 then
    "One of the descriptor sets contains an entry that is not a socket."
  else if code = wsaEWouldBlock then "Resource temporarily unavailable."
  else "Undefined Error."

/-- The arguments of `set_sidaq_error`. -/
structure ErrorInfo where
  code : SiDaqErrorCode
  message : String
  lastError : ℤ
  deriving DecidableEq, Repr

/-! ## The parts of a manager -/

/-- TCP sockets: how many were opened (their handles are `1, …, opened`), and the handles passed to
`closesocket`, in that order. Handles are not used again. -/
structure Sockets where
  opened : ℕ
  closed : List ℕ
  deriving DecidableEq, Repr

/-- The handle is that of an open socket; `none` is `INVALID_SOCKET`. -/
def Sockets.isOpen (s : Sockets) : Option ℕ → Bool
  | none => false
  | some h => decide (1 ≤ h ∧ h ≤ s.opened) && !s.closed.contains h

/-- `closesocket`. -/
def Sockets.close (s : Sockets) : Option ℕ → Sockets
  | none => s
  | some h => { s with closed := s.closed ++ [h] }

/-- `SockThreadLparam`, the parameters shared with the socket thread, without the queue list (there
is one queue) and the byte counters. -/
structure SockThreadLparam where
  run : Bool
  deviceSocket : Option ℕ
  lastError : ℤ
  recvBufSize : ℕ
  queueLimit : ℕ
  queueErrorCode : SockQueueErrorCode
  pauseFlg : Bool
  deriving DecidableEq, Repr

/-- The arguments of `SiDaqRun`. -/
structure RunParams (α : Type*) where
  framing : FramingParams α
  rcvBufBytes : ℤ
  recvQueueLimit : UInt32
  maxRecvBuff : UInt32

/-! ## Program counters -/

/-- Inside `SiDaqStop`. -/
inductive StopPc
  | testRun
  | setStopping
  | testSysError
  | testIdle
  | clearRun
  | wait
  | close
  | clearSocket
  deriving DecidableEq, Repr

/-- Inside `socket_loop_thread`. -/
inductive SockPc (α : Type*)
  /-- Not created yet, or exited. -/
  | off
  | start
  | clearError
  | clearPause
  | testRun
  | select
  | testPause
  | testRunPaused
  | recv
  /-- `recv` returned the chunk, `SQPut` comes next. -/
  | put (c : Chunk α)
  | testLimit
  | queueError
  | close
  | clearSocket

/-- A socket thread: its position, and its copies of the handle and of the buffer size. -/
structure SockThread (α : Type*) where
  pc : SockPc α
  deviceSocket : Option ℕ
  bufSize : ℕ

/-- Inside `framer_thread`. -/
inductive FramerPc (α : Type*)
  /-- Not created yet, or exited. -/
  | off
  | start
  | testIdle
  | testReset
  | get
  /-- `SQGet` returned the chunk, `RecvSiDaqData` comes next. -/
  | recv (c : Chunk α)
  | checkError
  | sysError
  | setError
  | clearRun
  | wait
  | close
  | clearSocket
  /-- The receive queue has failed; `atEnd` when the receive queue was found empty. -/
  | queueSysError (atEnd : Bool)
  | setQueueError (atEnd : Bool)
  /-- `SQGet` returned `NULL`. -/
  | empty
  | testSocket
  | testQueueError
  | flush
  | exit
  | stop (pc : StopPc)
  | testExitReset
  | setIdle

/-- What the last API call returned. -/
inductive ApiReturn
  | initialized
  | run (status : SiDaqStatus)
  | stop (ok : Bool)
  | reset
  deriving DecidableEq, Repr

/-- Inside an API call of the application; the calls are made one at a time. -/
inductive ApiPc (α : Type*)
  | returned (r : ApiReturn)
  | runBegin (p : RunParams α)
  | runSocket (p : RunParams α)
  | runAddress (p : RunParams α) (h : ℕ)
  | runConnect (p : RunParams α) (h : ℕ)
  | runSockopt (p : RunParams α) (h : ℕ)
  | runFail (e : ErrorInfo)
  | runFailStatus
  | runSetSocket (p : RunParams α) (h : ℕ)
  | runSetRun (p : RunParams α)
  | runSetParam (p : RunParams α)
  | runCreateSock (p : RunParams α)
  | runConfigure (p : RunParams α)
  | runCreateFramer
  | runSetStatus
  | runReturn
  | stop (pc : StopPc)
  | resetRead
  | resetSet (status : SiDaqStatus)
  | resetRecv (status : SiDaqStatus)
  | resetEvent (status : SiDaqStatus)
  | resetRestore (status : SiDaqStatus)
  | terminate (pc : StopPc)
  /-- `SiDaqTerminate` is about to delete the queues, the framer and the manager. -/
  | deleting

/-! ## The state -/

/-- A manager with everybody who works on it. The last four fields are not in the source: they list
the chunks that `recv` returned, those put in the receive queue, the frames put in the event queue,
and those that the consumer got. -/
structure State (α : Type*) where
  status : SiDaqStatus
  errorCode : SiDaqErrorCode
  errorMessage : String
  sockParam : SockThreadLparam
  framer : Option (SiDaqFramer α)
  recvQueue : List (Chunk α)
  eventFrame : List (List α)
  sockets : Sockets
  socks : ℕ → SockThread α
  framers : ℕ → FramerPc α
  api : ApiPc α
  received : List (Chunk α)
  put : List (Chunk α)
  framed : List (List α)
  got : List (List α)

/-- `SiDaqInitialize` has succeeded. `device_socket` is zero, not `INVALID_SOCKET`. -/
def State.init : State α where
  status := .idle
  errorCode := .noError
  errorMessage := "No Error"
  sockParam := ⟨true, some 0, 0, 0, 0, .noError, false⟩
  framer := none
  recvQueue := []
  eventFrame := []
  sockets := ⟨0, []⟩
  socks := fun _ => ⟨.off, none, 0⟩
  framers := fun _ => .off
  api := .returned .initialized
  received := []
  put := []
  framed := []
  got := []

/-- `set_sidaq_error`. -/
def State.setSiDaqError (s : State α) (e : ErrorInfo) : State α :=
  { s with
    errorCode := e.code
    errorMessage := e.message
    sockParam := { s.sockParam with lastError := e.lastError } }

/-- Socket thread `t` becomes `th`. -/
def State.setSock (s : State α) (t : ℕ) (th : SockThread α) : State α :=
  { s with socks := Function.update s.socks t th }

/-- Socket thread `t` goes on at `pc`. -/
def State.sockTo (s : State α) (t : ℕ) (pc : SockPc α) : State α :=
  s.setSock t { s.socks t with pc := pc }

/-- Framer thread `t` goes on at `pc`. -/
def State.framerTo (s : State α) (t : ℕ) (pc : FramerPc α) : State α :=
  { s with framers := Function.update s.framers t pc }

/-- The application goes on at `pc`. -/
def State.apiTo (s : State α) (pc : ApiPc α) : State α :=
  { s with api := pc }

/-- `closesocket` on a handle. -/
def State.closeSocket (s : State α) (h : Option ℕ) : State α :=
  { s with sockets := s.sockets.close h }

/-- The thread does not exist. -/
def SockPc.isOff : SockPc α → Bool
  | .off => true
  | _ => false

/-- The thread does not exist. -/
def FramerPc.isOff : FramerPc α → Bool
  | .off => true
  | _ => false

/-- A socket thread is alive. -/
def State.SockAlive (s : State α) (t : ℕ) : Prop := (s.socks t).pc ≠ .off

/-- A framer thread is alive. -/
def State.FramerAlive (s : State α) (t : ℕ) : Prop := s.framers t ≠ .off

theorem State.sockAlive_iff (s : State α) {t : ℕ} :
    s.SockAlive t ↔ (s.socks t).pc.isOff = false := by
  unfold State.SockAlive
  cases (s.socks t).pc <;> simp [SockPc.isOff]

theorem State.framerAlive_iff (s : State α) {t : ℕ} :
    s.FramerAlive t ↔ (s.framers t).isOff = false := by
  unfold State.FramerAlive
  cases s.framers t <;> simp [FramerPc.isOff]

/-- No API call is in progress. -/
def State.ApiIdle (s : State α) : Prop := ∃ r, s.api = .returned r

end SiDaqApi
