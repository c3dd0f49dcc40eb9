import SiDaqApi.Manager.State
import SiDaqApi.Lib.Machine

/-!
# A manager and the threads of its runs: the steps

`socket_loop_thread`, `framer_thread` and the API functions, each as a function of its program
counter to the next state. `step` is the whole system: who moves next, and what the environment
answers, is the action; `none` means that the action is not possible. Every run of the program is a
run of `step`, for some list of actions.

`WaitForSingleObject` with 500 ms returns when the thread has exited or by its time limit, whatever
the thread does, so that it is a step that can always be taken.
-/

namespace SiDaqApi

variable {α : Type*}

/-! ## `SiDaqStop` -/

/-- `SiDaqStop`, which the application and the framer thread call: the state after the access at the
program counter, and the next one, or the return value. -/
def stopStep (s : State α) : StopPc → State α × (StopPc ⊕ Bool)
  | .testRun => (s, .inl (if s.status = .run then .setStopping else .testSysError))
  | .setStopping => ({ s with status := .stopping }, .inl .clearRun)
  | .testSysError => (s, .inl (if s.status = .sysError then .clearRun else .testIdle))
  | .testIdle => (s, .inr (s.status = .idle))
  | .clearRun => ({ s with sockParam := { s.sockParam with run := false } }, .inl .wait)
  | .wait => (s, .inl .close)
  | .close => (s.closeSocket s.sockParam.deviceSocket, .inl .clearSocket)
  | .clearSocket => ({ s with sockParam := { s.sockParam with deviceSocket := none } }, .inr true)

/-! ## The socket thread -/

/-- What the environment answers a socket thread: `malloc`, `select` or `recv`. -/
inductive SockAnswer (α : Type*)
  | ok
  | noMemory
  | readable
  | notReadable
  | data (c : Chunk α)
  | peerClosed (code : ℤ)
  | error (code : ℤ)

/-- `select`: an open socket may have something to read or not; it may fail. -/
def selectStep (s : State α) (t : ℕ) : SockAnswer α → Option (State α)
  | .readable => if s.sockets.isOpen (s.socks t).deviceSocket then some (s.sockTo t .testPause) else none
  | .notReadable => if s.sockets.isOpen (s.socks t).deviceSocket then some (s.sockTo t .testRun) else none
  | .error code =>
    some { s.sockTo t .off with sockParam := { s.sockParam with lastError := code } }
  | _ => none

/-- `recv`: bytes, or the end of the connection, or an error; on a closed socket only an error. -/
def recvStep (s : State α) (t : ℕ) : SockAnswer α → Option (State α)
  | .data c =>
    if s.sockets.isOpen (s.socks t).deviceSocket ∧ c.bytes.length ≤ (s.socks t).bufSize then
      some { s.sockTo t (.put c) with received := s.received ++ [c] }
    else none
  | .peerClosed code =>
    if s.sockets.isOpen (s.socks t).deviceSocket then
      some { s.sockTo t .close with sockParam := { s.sockParam with lastError := code } }
    else none
  | .error code =>
    if code = wsaEWouldBlock then
      if s.sockets.isOpen (s.socks t).deviceSocket then some (s.sockTo t .testPause) else none
    else some { s.sockTo t .close with sockParam := { s.sockParam with lastError := code } }
  | _ => none

/-- `socket_loop_thread`. The answer counts only where the thread asks the environment. -/
def sockStep (s : State α) (t : ℕ) (ans : SockAnswer α) : Option (State α) :=
  match (s.socks t).pc with
  | .off => none
  | .start =>
    match ans with
    | .noMemory => some (s.sockTo t .off)
    | _ => some (s.setSock t ⟨.clearError, s.sockParam.deviceSocket, s.sockParam.recvBufSize⟩)
  | .clearError =>
    some { s.sockTo t .clearPause with sockParam := { s.sockParam with queueErrorCode := .noError } }
  | .clearPause =>
    some { s.sockTo t .testRun with sockParam := { s.sockParam with pauseFlg := false } }
  | .testRun =>
    some (s.sockTo t
      (if s.sockParam.run = true ∧ (s.socks t).deviceSocket ≠ none then .select else .off))
  | .select => selectStep s t ans
  | .testPause => some (s.sockTo t (if s.sockParam.pauseFlg then .testRunPaused else .recv))
  | .testRunPaused => some (s.sockTo t (if s.sockParam.run then .testPause else .testRun))
  | .recv => recvStep s t ans
  | .put c =>
    some { s.sockTo t .testLimit with recvQueue := s.recvQueue ++ [c], put := s.put ++ [c] }
  | .testLimit =>
    some (s.sockTo t
      (if s.sockParam.queueLimit ≠ 0 ∧ s.recvQueue.length > s.sockParam.queueLimit then .queueError
      else .testPause))
  | .queueError =>
    some { s.sockTo t .close with
      sockParam := { s.sockParam with queueErrorCode := .exceedRecvQueueCount } }
  | .close => some ((s.sockTo t .clearSocket).closeSocket (s.socks t).deviceSocket)
  | .clearSocket =>
    some { s.setSock t ⟨.testRun, none, (s.socks t).bufSize⟩ with
      sockParam := { s.sockParam with deviceSocket := none } }

/-! ## The framer thread -/

variable [Inhabited α]

/-- `RecvSiDaqData` on the chunk that the framer thread took from the receive queue. -/
def frameChunk (s : State α) (t : ℕ) (c : Chunk α) : Option (State α) :=
  s.framer.bind fun fr =>
    (recvSiDaqData fr c.bytes s.eventFrame).map fun o =>
      { s.framerTo t .checkError with
        framer := some o.framer
        eventFrame := o.que
        framed := s.framed ++ o.que.drop s.eventFrame.length }

omit [Inhabited α] in
/-- The error check after a chunk. -/
def checkErrorStep (s : State α) (t : ℕ) (fr : SiDaqFramer α) : State α :=
  if fr.errorFlg = 0 then
    if fr.errorCode ≠ .noError then
      { s.framerTo t .sysError with framer := some { fr with errorFlg := -1 } }
    else if s.sockParam.queueErrorCode ≠ .noError then
      { s.framerTo t (.queueSysError false) with framer := some { fr with errorFlg := -1 } }
    else s.framerTo t .testIdle
  else s.framerTo t .testIdle

omit [Inhabited α] in
/-- The rest frame: what the framer carries becomes the last frame. -/
def flushStep (s : State α) (t : ℕ) (fr : SiDaqFramer α) : State α :=
  if fr.rest > 0 then
    { s.framerTo t .exit with
      framer := some { fr with rest := 0 }
      eventFrame := s.eventFrame ++ [fr.restBytes]
      framed := s.framed ++ [fr.restBytes] }
  else s.framerTo t .exit

/-- `framer_thread`. -/
def framerStep (s : State α) (t : ℕ) : Option (State α) :=
  match s.framers t with
  | .off => none
  | .start =>
    s.framer.map fun fr =>
      { s.framerTo t .testIdle with framer := some { fr with errorCode := .noError } }
  | .testIdle => some (s.framerTo t (if s.status = .idle then .exit else .testReset))
  | .testReset => some (s.framerTo t (if s.status = .reset then .exit else .get))
  | .get =>
    match s.recvQueue with
    | [] => some (s.framerTo t .empty)
    | c :: cs => some { s.framerTo t (.recv c) with recvQueue := cs }
  | .recv c => frameChunk s t c
  | .checkError => s.framer.map (checkErrorStep s t)
  | .sysError => some { s.framerTo t .setError with status := .sysError }
  | .setError =>
    s.framer.map fun fr => (s.framerTo t .clearRun).setSiDaqError
      ⟨decodeFramerError fr.errorCode, decodeFramerErrorString fr.errorCode, 0⟩
  | .clearRun =>
    some { s.framerTo t .wait with sockParam := { s.sockParam with run := false } }
  | .wait => some (s.framerTo t .close)
  | .close => some ((s.framerTo t .clearSocket).closeSocket s.sockParam.deviceSocket)
  | .clearSocket =>
    some { s.framerTo t .testIdle with sockParam := { s.sockParam with deviceSocket := none } }
  | .queueSysError atEnd => some { s.framerTo t (.setQueueError atEnd) with status := .sysError }
  | .setQueueError atEnd =>
    some ((s.framerTo t (if atEnd then .flush else .testIdle)).setSiDaqError
      ⟨decodeSockQueueError s.sockParam.queueErrorCode, "Socket Receive Queue Error", 0⟩)
  | .empty => some (s.framerTo t (if s.status = .stopping then .flush else .testSocket))
  | .testSocket =>
    some (s.framerTo t (if s.sockParam.deviceSocket ≠ none then .testIdle else .testQueueError))
  | .testQueueError =>
    s.framer.map fun fr =>
      if fr.errorFlg = 0 ∧ s.sockParam.queueErrorCode ≠ .noError then
        { s.framerTo t (.queueSysError true) with framer := some { fr with errorFlg := -1 } }
      else s.framerTo t .flush
  | .flush => s.framer.map (flushStep s t)
  | .exit =>
    s.framer.map fun fr => s.framerTo t (if fr.errorFlg < 0 then .stop .testRun else .testExitReset)
  | .stop pc =>
    match stopStep s pc with
    | (s', .inl pc') => some (s'.framerTo t (.stop pc'))
    | (s', .inr _) => some (s'.framerTo t .off)
  | .testExitReset => some (s.framerTo t (if s.status = .reset then .off else .setIdle))
  | .setIdle => some { s.framerTo t .off with status := .idle }

/-! ## The API functions -/

/-- What the environment answers an API function: a socket call succeeds or fails, `CreateThread`
makes a thread. `noAddress` is the address look-up that succeeds with an empty list. -/
inductive ApiAnswer
  | ok
  | fail (code : ℤ)
  | noAddress (code : ℤ)
  | thread (t : ℕ)
  deriving DecidableEq, Repr

/-- A failed Winsock call. -/
def winsockError (code : ℤ) : ErrorInfo := ⟨.winsockError, decodeError code, code⟩

omit [Inhabited α] in
/-- The socket calls of `SiDaqRun`. A socket that is not used in the end stays open. -/
def connectStep (s : State α) (ans : ApiAnswer) : ApiPc α → Option (State α)
  | .runSocket p =>
    match ans with
    | .fail code => some (s.apiTo (.runFail (winsockError code)))
    | _ =>
      some { s.apiTo (.runAddress p (s.sockets.opened + 1)) with
        sockets := { s.sockets with opened := s.sockets.opened + 1 } }
  | .runAddress p h =>
    match ans with
    | .fail code => some (s.apiTo (.runFail (winsockError code)))
    | .noAddress code =>
      some (s.apiTo (.runFail ⟨.winsockError, "Invalid IP Address", code⟩))
    | _ => some (s.apiTo (.runConnect p h))
  | .runConnect p h =>
    match ans with
    | .fail code =>
      -- a connection in progress is fine: the socket does not block
      if code = wsaEWouldBlock then some (s.apiTo (.runSockopt p h))
      else some (s.apiTo (.runFail (winsockError code)))
    | _ => some (s.apiTo (.runSockopt p h))
  | .runSockopt p h =>
    if p.rcvBufBytes ≥ 0 then
      match ans with
      | .fail code => some (s.apiTo (.runFail (winsockError code)))
      | _ => some (s.apiTo (.runSetSocket p h))
    else some (s.apiTo (.runSetSocket p h))
  | _ => none

/-- `SiDaqRun`, `SiDaqStop`, `SiDaqResetQueue` and `SiDaqTerminate` up to its deletions. -/
def apiStep (s : State α) (ans : ApiAnswer) : Option (State α) :=
  match s.api with
  | .returned _ => none
  | .runBegin p =>
    some ((s.apiTo (if p.framing.headerLen ≥ p.framing.maxFrameLen then
        .runFail ⟨.invalidParameter, "INVALID_HEADER_LENGTH", 0⟩ else .runSocket p)).setSiDaqError
      ⟨.noError, "No Error", 0⟩)
  | .runSocket p => connectStep s ans (.runSocket p)
  | .runAddress p h => connectStep s ans (.runAddress p h)
  | .runConnect p h => connectStep s ans (.runConnect p h)
  | .runSockopt p h => connectStep s ans (.runSockopt p h)
  | .runFail e => some ((s.apiTo .runFailStatus).setSiDaqError e)
  | .runFailStatus => some { s.apiTo .runReturn with status := .sysError }
  | .runSetSocket p h =>
    some { s.apiTo (.runSetRun p) with sockParam := { s.sockParam with deviceSocket := some h } }
  | .runSetRun p =>
    some { s.apiTo (.runSetParam p) with sockParam := { s.sockParam with run := true } }
  | .runSetParam p =>
    some { s.apiTo (.runCreateSock p) with
      sockParam := { s.sockParam with
        recvBufSize := p.maxRecvBuff.toNat
        queueLimit := p.recvQueueLimit.toNat
        queueErrorCode := .noError } }
  | .runCreateSock p =>
    match ans with
    | .thread t =>
      match (s.socks t).pc with
      | .off => some ((s.apiTo (.runConfigure p)).setSock t ⟨.start, none, 0⟩)
      | _ => none
    | _ => none
  | .runConfigure p =>
    some { s.apiTo .runCreateFramer with
      framer := some ((s.framer.getD newSiDaqFramer).configure p.framing) }
  | .runCreateFramer =>
    match ans with
    | .thread t =>
      match s.framers t with
      | .off => some ((s.apiTo .runSetStatus).framerTo t .start)
      | _ => none
    | _ => none
  | .runSetStatus => some { s.apiTo .runReturn with status := .run }
  | .runReturn => some (s.apiTo (.returned (.run s.status)))
  | .stop pc =>
    match stopStep s pc with
    | (s', .inl pc') => some (s'.apiTo (.stop pc'))
    | (s', .inr ok) => some (s'.apiTo (.returned (.stop ok)))
  | .resetRead =>
    some (s.apiTo (if s.status = .stopping ∨ s.status = .sysError then .resetSet s.status
      else .returned .reset))
  | .resetSet status => some { s.apiTo (.resetRecv status) with status := .reset }
  | .resetRecv status =>
    match s.recvQueue with
    | [] => some (s.apiTo (.resetEvent status))
    | _ :: cs => some { s with recvQueue := cs }
  | .resetEvent status =>
    match s.eventFrame with
    | [] => some (s.apiTo (.resetRestore status))
    | _ :: fs => some { s with eventFrame := fs }
  | .resetRestore status =>
    some { s.apiTo (.returned .reset) with
      status := if status = .sysError then .sysError else .idle }
  | .terminate pc =>
    match stopStep s pc with
    | (s', .inl pc') => some (s'.apiTo (.terminate pc'))
    | (s', .inr _) => some (s'.apiTo .deleting)
  | .deleting => none

/-! ## The system -/

/-- Who moves: a thread, the application inside a call or with a new call, or the consumer. -/
inductive Act (α : Type*)
  | sock (t : ℕ) (ans : SockAnswer α)
  | framer (t : ℕ)
  | api (ans : ApiAnswer)
  | callRun (p : RunParams α)
  | callStop
  | callReset
  | callTerminate
  /-- `SiDaqGetData` on an event queue that is not empty. -/
  | getData
  /-- `SiDaqPauseRecvData`. -/
  | pause
  /-- `SiDaqResumeRecvData`. -/
  | resume

omit [Inhabited α] in
/-- A new API call, when none is in progress. -/
def callStep (s : State α) (pc : ApiPc α) : Option (State α) :=
  match s.api with
  | .returned _ => some (s.apiTo pc)
  | _ => none

/-- A step of the system. -/
def step (s : State α) : Act α → Option (State α)
  | .sock t ans => sockStep s t ans
  | .framer t => framerStep s t
  | .api ans => apiStep s ans
  | .callRun p => callStep s (.runBegin p)
  | .callStop => callStep s (.stop .testRun)
  | .callReset => callStep s .resetRead
  | .callTerminate => callStep s (.terminate .testRun)
  | .getData =>
    match s.eventFrame with
    | [] => none
    | f :: fs => some { s with eventFrame := fs, got := s.got ++ [f] }
  | .pause =>
    some { s with
      sockParam := { s.sockParam with pauseFlg := s.sockParam.run || s.sockParam.pauseFlg } }
  | .resume =>
    some { s with
      sockParam := { s.sockParam with pauseFlg := !s.sockParam.run && s.sockParam.pauseFlg } }

end SiDaqApi
