import SiDaqApi.Lib.MachineInt
import SiDaqApi.Lib.Machine
import Mathlib.Data.List.Basic
import Mathlib.Logic.Function.Basic

/-!
# The queue: `squeue.h` and `squeue.cpp`

The queue is a doubly linked list of nodes in the heap, with unlocked reads of `_count` around two
locked regions. `quePut` and `queGet` are the regions, line by line, on the memory; `step` is the
system of all threads that call `SQPut` and `SQGet`. A locked region is one step, and so is every
unlocked read of `_count`.

Allocation succeeds, at any address that is not in use. `_count` is an `int` and wraps.
-/

namespace SiDaqApi.Squeue

open MachineInt

variable {α : Type*}

/-- An address; the null pointer is `none`. -/
abbrev Ptr := ℕ

/-- `SQData`, with the bytes behind `_data_ptr`. -/
structure SQData (α : Type*) where
  parent : Option Ptr
  next : Option Ptr
  prev : Option Ptr
  size : ℤ
  data : List α

/-- `SQueue`, without its lock. -/
structure SQueue where
  top : Option Ptr
  last : Option Ptr
  count : ℤ

/-- The queue, and the nodes that are allocated. -/
structure Memory (α : Type*) where
  queue : SQueue
  nodes : Ptr → Option (SQData α)

/-- `NewSQueue`. -/
def newSQueue : SQueue := ⟨none, none, 0⟩

/-- `NewSQData` with a copy of the bytes. -/
def newSQData (bytes : List α) : SQData α := ⟨none, none, none, bytes.length, bytes⟩

/-- `_next` of the node at `a`. -/
def Memory.next (m : Memory α) (a : Ptr) : Option Ptr := (m.nodes a).bind SQData.next

/-- `_prev` of the node at `a`. -/
def Memory.prev (m : Memory α) (a : Ptr) : Option Ptr := (m.nodes a).bind SQData.prev

/-- The bytes of the node at `a`. -/
def Memory.data (m : Memory α) (a : Ptr) : List α := ((m.nodes a).map SQData.data).getD []

/-- `malloc` of a node at `a`, with its first contents. -/
def Memory.alloc (m : Memory α) (a : Ptr) (d : SQData α) : Memory α :=
  { m with nodes := Function.update m.nodes a (some d) }

/-- Write fields of the queue. -/
def Memory.setQueue (m : Memory α) (f : SQueue → SQueue) : Memory α :=
  { m with queue := f m.queue }

/-- Write fields of the node at `a`. -/
def Memory.modify (m : Memory α) (a : Ptr) (f : SQData α → SQData α) : Memory α :=
  { m with nodes := Function.update m.nodes a ((m.nodes a).map f) }

/-- Write fields of the node that a pointer points to, if it is not null. -/
def Memory.modify? (m : Memory α) (o : Option Ptr) (f : SQData α → SQData α) : Memory α :=
  match o with
  | none => m
  | some a => m.modify a f

/-! ## The locked regions -/

/-- `_sque_put` between `LOCK` and `UNLOCK`, on the queue at address `que`. -/
def quePut (que : Ptr) (m : Memory α) (sd : Ptr) : Memory α :=
  let prevLast := m.queue.last
  let m := m.setQueue fun q => { q with last := some sd }
  let m := m.modify sd fun d => { d with parent := some que, prev := prevLast }
  let m := m.modify? prevLast fun d => { d with next := some sd }
  let m := m.setQueue fun q => if q.top = none then { q with top := some sd } else q
  m.setQueue fun q => { q with count := wrap32 (q.count + 1) }

/-- `_sque_get` between `LOCK` and `UNLOCK`: the node it returns, and the memory after it. -/
def queGet (m : Memory α) : Option Ptr × Memory α :=
  match m.queue.top with
  | none => (none, m)
  | some ret =>
    let m := m.setQueue fun q => { q with top := m.next ret }
    let m := m.modify? m.queue.top fun d => { d with prev := none }
    let m := m.modify ret fun d => { d with next := none, prev := none }
    let m := m.setQueue fun q => { q with count := wrap32 (q.count - 1) }
    let m := m.setQueue fun q => if q.count = 0 then { q with top := none, last := none } else q
    let m := m.modify ret fun d => { d with parent := none }
    (some ret, m)

/-- `DeleteSQData`: a node that is not linked is freed (a linked one would be reported). -/
def deleteSQData (m : Memory α) (sd : Ptr) : Memory α :=
  if m.next sd = none ∧ m.prev sd = none then
    { m with nodes := Function.update m.nodes sd none }
  else m

/-! ## Threads -/

/-- Where a thread is. -/
inductive Pc (α : Type*)
  /-- Not in a call yet. -/
  | idle
  /-- `SQPut`: about to allocate and fill the node. -/
  | putNew (bytes : List α)
  /-- `_sque_put`: about to take the lock, with its node. -/
  | putLock (sd : Ptr) (bytes : List α)
  /-- `_sque_put` has unlocked and reads `_count` for its return value, which `SQPut` drops. -/
  | putReturn
  /-- `SQPut` reads `_count` for its own return value. -/
  | putCount
  | putDone (count : ℤ)
  /-- `SQGet`: at the head of its waiting loop. -/
  | getWait (wait : ℤ)
  /-- `SQGet`: about to test `_count > 0`. -/
  | getCount (wait : ℤ)
  /-- `_sque_get`: about to test `_count == 0`. -/
  | getEnter (wait : ℤ)
  /-- `_sque_get`: about to take the lock, or to time out. -/
  | getLock (wait : ℤ)
  /-- `SQGet`: about to read the node it got, and to delete it. -/
  | getData (sd : Ptr) (item : List α)
  | getDone (data : Option (List α)) (size : ℤ)

/-- The thread may make a new call. -/
def Pc.free : Pc α → Bool
  | .idle | .putDone _ | .getDone _ _ => true
  | _ => false

/-- `SQGet` without a node: `data_size` is an error or 0, and the return value `NULL`. -/
def noData (wait : ℤ) : Pc α := .getDone none (if wait < 0 then -2 else 0)

/-- The system. `inserted` and `removed` are not in the source: they list what the locked regions
have put in and taken out so far. `item` in `Pc.getData` is such a record, too. -/
structure State (α : Type*) where
  mem : Memory α
  pc : ℕ → Pc α
  inserted : List (List α)
  removed : List (List α)

/-- What can happen: a thread calls, allocates its node at an address, goes on, or `WAIT_LOCK` times
out for it. -/
inductive Act (α : Type*)
  | callPut (t : ℕ) (bytes : List α)
  | callGet (t : ℕ) (wait : ℤ)
  | alloc (t : ℕ) (sd : Ptr)
  | go (t : ℕ)
  | timeout (t : ℕ)

/-- An empty queue, and no call made. -/
def State.init : State α := ⟨⟨newSQueue, fun _ => none⟩, fun _ => .idle, [], []⟩

/-- Thread `t` goes on at `c`. -/
def State.goto (s : State α) (t : ℕ) (c : Pc α) : State α :=
  { s with pc := Function.update s.pc t c }

/-- The next step of a thread inside a call. -/
def go (que : Ptr) (s : State α) (t : ℕ) : Option (State α) :=
  match s.pc t with
  | .putLock sd bytes =>
    some { s.goto t .putReturn with
      mem := quePut que s.mem sd, inserted := s.inserted ++ [bytes] }
  | .putReturn => some (s.goto t .putCount)
  | .putCount => some (s.goto t (.putDone s.mem.queue.count))
  | .getWait wait =>
    if wait > 1 then
      if s.mem.queue.count > 0 then some (s.goto t (.getCount wait))
      else some (s.goto t (.getWait (wait - 1)))
    else some (s.goto t (.getCount wait))
  | .getCount wait =>
    if s.mem.queue.count > 0 then some (s.goto t (.getEnter wait))
    else some (s.goto t (.getDone none 0))
  | .getEnter wait =>
    if s.mem.queue.count = 0 then some (s.goto t (noData wait))
    else some (s.goto t (.getLock wait))
  | .getLock wait =>
    match queGet s.mem with
    | (none, m) => some { s.goto t (noData wait) with mem := m }
    | (some sd, m) =>
      some { s.goto t (.getData sd (s.mem.data sd)) with
        mem := m, removed := s.removed ++ [s.mem.data sd] }
  | .getData sd _ =>
    some { s.goto t (.getDone (some (s.mem.data sd)) (((s.mem.nodes sd).map SQData.size).getD 0)) with
      mem := deleteSQData s.mem sd }
  | _ => none

/-- The step relation, as a function of what happens. -/
def step (que : Ptr) (s : State α) : Act α → Option (State α)
  | .callPut t bytes => if (s.pc t).free then some (s.goto t (.putNew bytes)) else none
  | .callGet t wait => if (s.pc t).free then some (s.goto t (.getWait wait)) else none
  | .alloc t sd =>
    match s.pc t with
    | .putNew bytes =>
      match s.mem.nodes sd with
      | none =>
        some { s.goto t (.putLock sd bytes) with mem := s.mem.alloc sd (newSQData bytes) }
      | some _ => none
    | _ => none
  | .go t => go que s t
  | .timeout t =>
    match s.pc t with
    | .getLock wait => if 0 ≤ wait then some (s.goto t (noData wait)) else none
    | _ => none

end SiDaqApi.Squeue
