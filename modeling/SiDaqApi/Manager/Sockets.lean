import SiDaqApi.Manager.Handles

/-!
# Who closes the socket of a run

A `Ledger` is a manager with a record of its sockets: whose they are, and who is about to let go of
them. The wait of `SiDaqStop` for the socket thread may end before the receive loop of that thread
does; then both close the same handle, and the thread writes to what may be the socket of the next
run. `closed_once`: in a run that closes `device_socket` only when nobody works on it, and assigns it
only when no thread of an earlier run can still reach it, every handle is closed at most once, and no
socket thread overwrites the `device_socket` of a later run.
-/

namespace SiDaqApi

open Machine

variable {α : Type*}

/-! ## The record of the sockets -/

/-- A manager with a record: the handle of the run that created a socket thread, the handle that a
framer thread has closed last, and whether a socket thread has overwritten the `device_socket` of a
later run. -/
structure Ledger (α : Type*) where
  state : State α
  owner : ℕ → ℕ
  closing : ℕ → Option ℕ
  overwritten : Bool

def Ledger.init : Ledger α := ⟨.init, fun _ => 0, fun _ => none, false⟩

/-- Socket thread `t` is about to overwrite the `device_socket` of a later run. -/
def Ledger.overwrites (w : Ledger α) (t : ℕ) : Bool :=
  (w.state.socks t).pc.clears && w.state.sockParam.deviceSocket.any fun g => w.owner t < g

/-- A socket thread belongs to the run that has opened the last socket. -/
def Ledger.ownerAfter (w : Ledger α) : Act α → ℕ → ℕ
  | .api (.thread t) =>
    match w.state.api with
    | .runCreateSock _ => Function.update w.owner t w.state.sockets.opened
    | _ => w.owner
  | _ => w.owner

def Ledger.closingAfter (w : Ledger α) : Act α → ℕ → Option ℕ
  | .framer t =>
    if (w.state.framers t).closes then Function.update w.closing t w.state.sockParam.deviceSocket
    else w.closing
  | _ => w.closing

def Ledger.overwrittenAfter (w : Ledger α) : Act α → Bool
  | .sock t _ => w.overwritten || w.overwrites t
  | _ => w.overwritten

/-- A step of the system, with its record. -/
def Ledger.step [Inhabited α] (w : Ledger α) (a : Act α) : Option (Ledger α) :=
  (SiDaqApi.step w.state a).map fun s' =>
    ⟨s', w.ownerAfter a, w.closingAfter a, w.overwrittenAfter a⟩

/-- Every socket has been closed at most once, and no socket thread has overwritten the
`device_socket` of a later run. -/
def Ledger.ClosedOnce (w : Ledger α) : Prop :=
  (∀ h, 1 ≤ h → w.state.sockets.closed.count h ≤ 1) ∧ w.overwritten = false

/-- Somebody has closed the handle, and not assigned `INVALID_SOCKET` yet. -/
def Ledger.Closing (w : Ledger α) (h : ℕ) : Prop :=
  (∃ t, (w.state.socks t).deviceSocket = some h ∧ (w.state.socks t).pc.clears = true) ∨
    (∃ t, w.closing t = some h ∧ (w.state.framers t).clears = true) ∨ w.state.api.clears = true

/-- A socket thread is in its receive loop with the handle, or the handle is being closed. -/
def Ledger.InUse (w : Ledger α) (h : ℕ) : Prop :=
  (∃ t, (w.state.socks t).deviceSocket = some h ∧ (w.state.socks t).pc.receives = true) ∨
    w.Closing h

/-- A socket thread that may still read or write `device_socket`: it has not copied it yet, or its
own handle is open, or it is about to assign `INVALID_SOCKET`. -/
def State.Reaches (s : State α) (t : ℕ) : Prop :=
  (s.socks t).pc = .start ∨ (s.socks t).pc.clears = true ∨
    s.SockAlive t ∧ s.sockets.isOpen (s.socks t).deviceSocket = true

/-- `device_socket` is closed only when nobody works on it, and assigned only when no socket thread
reaches it. -/
structure Exclusive (w : Ledger α) (a : Act α) : Prop where
  framer : ∀ t, a = .framer t → (w.state.framers t).closes = true →
    ∀ h, w.state.sockParam.deviceSocket = some h → ¬ w.InUse h
  stop : ∀ ans, a = .api ans → w.state.api.closes = true →
    ∀ h, w.state.sockParam.deviceSocket = some h → ¬ w.InUse h
  run : ∀ ans, a = .api ans → w.state.api.sets = true → ∀ t, ¬ w.state.Reaches t

/-- The step neither closes nor assigns `device_socket`. -/
def leavesDevice (w : Ledger α) : Act α → Bool
  | .framer t => !(w.state.framers t).closes
  | .api _ => !w.state.api.closes && !w.state.api.sets
  | _ => true

theorem Exclusive.of_leavesDevice (w : Ledger α) (a : Act α) (h : leavesDevice w a = true) :
    Exclusive w a where
  framer := by
    rintro t rfl hcloses
    simp [leavesDevice, hcloses] at h
  stop := by
    rintro ans rfl hcloses
    simp [leavesDevice, hcloses] at h
  run := by
    rintro ans rfl hsets
    simp [leavesDevice, hsets] at h

/-! ## What exclusive steps keep -/

/-- Handles are opened one after the other, each for one run, and closed once. -/
structure Ledger.Tidy (w : Ledger α) : Prop where
  closedOnce : w.ClosedOnce
  closed_le : ∀ h ∈ w.state.sockets.closed, h ≤ w.state.sockets.opened
  device_le : ∀ h, w.state.sockParam.deviceSocket = some h → h ≤ w.state.sockets.opened
  owner_le : ∀ t, w.state.SockAlive t → w.owner t ≤ w.state.sockets.opened
  owner_inj : ∀ t u, w.state.SockAlive t → w.state.SockAlive u → w.owner t = w.owner u → t = u
  /-- The handle of the `SiDaqRun` in progress is new. -/
  held : ∀ h, w.state.api.holds = some h → h = w.state.sockets.opened ∧ 1 ≤ h ∧
    h ∉ w.state.sockets.closed ∧ w.state.sockParam.deviceSocket ≠ some h ∧
    ∀ t, w.state.SockAlive t → w.owner t < h
  hasSet : w.state.api.hasSet = true → (∀ h, w.state.sockParam.deviceSocket = some h →
    h = w.state.sockets.opened) ∧ ∀ t, w.state.SockAlive t → w.owner t < w.state.sockets.opened
  /-- A socket thread has the handle of its own run. -/
  handle : ∀ t, w.state.SockAlive t → (w.state.socks t).pc ≠ .start →
    ∀ h, (w.state.socks t).deviceSocket = some h → h = w.owner t
  starting : ∀ t, (w.state.socks t).pc = .start →
    ∀ h, w.state.sockParam.deviceSocket = some h → h = w.owner t
  receiving : ∀ t, (w.state.socks t).pc.receives = true →
    w.state.sockets.isOpen (w.state.socks t).deviceSocket = true
  /-- A socket thread does not reach the `device_socket` of a later run. -/
  reaches : ∀ t, w.state.Reaches t →
    ∀ h, w.state.sockParam.deviceSocket = some h → h ≤ w.owner t
  fresh : ∀ h, w.state.sockParam.deviceSocket = some h → 1 ≤ h → ¬ w.Closing h →
    h ∉ w.state.sockets.closed

theorem Ledger.tidy_init : (Ledger.init : Ledger α).Tidy where
  closedOnce := ⟨fun _ _ => by simp [Ledger.init, State.init], rfl⟩
  closed_le := by simp [Ledger.init, State.init]
  device_le := by simp [Ledger.init, State.init]
  owner_le := fun _ ht => absurd rfl ht
  owner_inj := fun _ _ ht => absurd rfl ht
  held := by simp [Ledger.init, State.init, ApiPc.holds]
  hasSet := by simp [Ledger.init, State.init, ApiPc.hasSet]
  handle := fun _ ht => absurd rfl ht
  starting := by simp [Ledger.init, State.init]
  receiving := by simp [Ledger.init, State.init, SockPc.receives]
  reaches := by
    rintro t (h | h | h) <;> simp [Ledger.init, State.init, State.SockAlive, SockPc.clears] at h
  fresh := by simp [Ledger.init, State.init]

section Tidy

variable {w w' : Ledger α}

/-- A step that touches no socket thread, opens, closes and assigns nothing. -/
theorem Ledger.Tidy.of_same (h : w.Tidy) (hsocks : w'.state.socks = w.state.socks)
    (hsockets : w'.state.sockets = w.state.sockets)
    (hdevice : ∀ k, w'.state.sockParam.deviceSocket = some k →
      w.state.sockParam.deviceSocket = some k)
    (howner : w'.owner = w.owner) (hover : w'.overwritten = w.overwritten)
    (hclosing : ∀ k, w'.state.sockParam.deviceSocket = some k → w.Closing k → w'.Closing k)
    (hholds : ∀ k, w'.state.api.holds = some k → w.state.api.holds = some k)
    (hhasSet : w'.state.api.hasSet = true → w.state.api.hasSet = true) : w'.Tidy := by
  have halive : ∀ t, w'.state.SockAlive t ↔ w.state.SockAlive t := by
    simp [State.SockAlive, hsocks]
  have hreaches : ∀ t, w'.state.Reaches t ↔ w.state.Reaches t := by
    simp [State.Reaches, halive, hsocks, hsockets]
  constructor <;> simp only [Ledger.ClosedOnce, halive, hreaches, hsocks, hsockets, howner, hover]
  case closedOnce => exact h.closedOnce
  case closed_le => exact h.closed_le
  case device_le => exact fun k hk => h.device_le k (hdevice k hk)
  case owner_le => exact h.owner_le
  case owner_inj => exact h.owner_inj
  case held =>
    intro k hk
    obtain ⟨hopened, hpos, hclosed, hne, hlt⟩ := h.held k (hholds k hk)
    exact ⟨hopened, hpos, hclosed, fun hk' => hne (hdevice k hk'), hlt⟩
  case hasSet =>
    intro hset
    obtain ⟨heq, hlt⟩ := h.hasSet (hhasSet hset)
    exact ⟨fun k hk => heq k (hdevice k hk), hlt⟩
  case handle => exact h.handle
  case starting => exact fun t ht k hk => h.starting t ht k (hdevice k hk)
  case receiving => exact h.receiving
  case reaches => exact fun t ht k hk => h.reaches t ht k (hdevice k hk)
  case fresh =>
    intro k hk hpos hnot
    exact h.fresh k (hdevice k hk) hpos fun hk' => hnot (hclosing k hk hk')

/-- A step of socket thread `t`, which opens and closes nothing, and assigns at most
`INVALID_SOCKET`. -/
theorem Ledger.Tidy.of_sock {t : ℕ} {th : SockThread α} (h : w.Tidy) (ht : w.state.SockAlive t)
    (hsocks : w'.state.socks = Function.update w.state.socks t th)
    (hsockets : w'.state.sockets = w.state.sockets)
    (hdevice : ∀ k, w'.state.sockParam.deviceSocket = some k →
      w.state.sockParam.deviceSocket = some k)
    (howner : w'.owner = w.owner) (hover : w'.overwritten = w.overwritten)
    (hapi : w'.state.api = w.state.api)
    (hclosing : ∀ k, w'.state.sockParam.deviceSocket = some k → w.Closing k → w'.Closing k)
    (hstart : th.pc ≠ .start)
    (hhandle : th.pc ≠ .off → ∀ h, th.deviceSocket = some h → h = w.owner t)
    (hreceives : th.pc.receives = true → w.state.sockets.isOpen th.deviceSocket = true)
    (hreaches : th.pc.clears = true ∨
      th.pc ≠ .off ∧ w.state.sockets.isOpen th.deviceSocket = true → w.state.Reaches t) :
    w'.Tidy := by
  have hself : w'.state.socks t = th := by rw [hsocks, Function.update_self]
  have hother : ∀ u, u ≠ t → w'.state.socks u = w.state.socks u := by
    intro u hu
    rw [hsocks, Function.update_of_ne hu]
  have halive : ∀ u, w'.state.SockAlive u → w.state.SockAlive u := by
    intro u hu
    by_cases hut : u = t
    · exact hut ▸ ht
    · simpa only [State.SockAlive, hother u hut] using hu
  have hreach : ∀ u, w'.state.Reaches u → w.state.Reaches u := by
    intro u hu
    by_cases hut : u = t
    · subst hut
      simp only [State.Reaches, State.SockAlive, hself, hstart, hsockets, false_or] at hu
      exact hreaches hu
    · simpa only [State.Reaches, State.SockAlive, hother u hut, hsockets] using hu
  constructor
  case closedOnce => simpa only [Ledger.ClosedOnce, hsockets, hover] using h.closedOnce
  case closed_le => simpa only [hsockets] using h.closed_le
  case device_le => exact fun k hk => hsockets ▸ h.device_le k (hdevice k hk)
  case owner_le =>
    intro u hu
    simpa only [howner, hsockets] using h.owner_le u (halive u hu)
  case owner_inj =>
    intro u v hu hv huv
    rw [howner] at huv
    exact h.owner_inj u v (halive u hu) (halive v hv) huv
  case held =>
    intro k hk
    rw [hapi] at hk
    obtain ⟨hopened, hpos, hclosed, hne, hlt⟩ := h.held k hk
    rw [hsockets, howner]
    exact ⟨hopened, hpos, hclosed, fun hk' => hne (hdevice k hk'), fun u hu => hlt u (halive u hu)⟩
  case hasSet =>
    intro hset
    rw [hapi] at hset
    obtain ⟨heq, hlt⟩ := h.hasSet hset
    rw [hsockets, howner]
    exact ⟨fun k hk => heq k (hdevice k hk), fun u hu => hlt u (halive u hu)⟩
  case handle =>
    intro u hu hpc k hk
    rw [howner]
    by_cases hut : u = t
    · subst hut
      rw [State.SockAlive, hself] at hu
      exact hhandle hu k (hself ▸ hk)
    · rw [hother u hut] at hpc hk
      exact h.handle u (halive u hu) hpc k hk
  case starting =>
    intro u hu k hk
    have hut : u ≠ t := by
      rintro rfl
      exact hstart (hself ▸ hu)
    rw [hother u hut] at hu
    rw [howner]
    exact h.starting u hu k (hdevice k hk)
  case receiving =>
    intro u hu
    rw [hsockets]
    by_cases hut : u = t
    · subst hut
      rw [hself] at hu ⊢
      exact hreceives hu
    · rw [hother u hut] at hu ⊢
      exact h.receiving u hu
  case reaches =>
    intro u hu k hk
    rw [howner]
    exact h.reaches u (hreach u hu) k (hdevice k hk)
  case fresh =>
    intro k hk hpos hnot
    rw [hsockets]
    exact h.fresh k (hdevice k hk) hpos fun hk' => hnot (hclosing k hk hk')

/-- A `closesocket` of a handle that nobody receives from, by somebody who is about to assign
`INVALID_SOCKET`. -/
theorem Ledger.Tidy.of_close {o : Option ℕ} (h : w.Tidy)
    (hw' : w' = { w with state := { w.state with sockets := w.state.sockets.close o } })
    (hle : ∀ k, o = some k → k ≤ w.state.sockets.opened)
    (hheld : ∀ k, o = some k → w.state.api.holds ≠ some k)
    (hfresh : ∀ k, o = some k → 1 ≤ k → k ∉ w.state.sockets.closed)
    (hclosing : ∀ k, o = some k → w.Closing k)
    (hreceives : ∀ t, (w.state.socks t).pc.receives = true → (w.state.socks t).deviceSocket ≠ o) :
    w'.Tidy := by
  subst hw'
  constructor <;> dsimp only [State.SockAlive]
  case closedOnce =>
    exact ⟨fun k hk => Sockets.count_close hfresh h.closedOnce.1 hk, h.closedOnce.2⟩
  case closed_le =>
    intro k hk
    rw [Sockets.opened_close]
    rcases Sockets.mem_close.mp hk with hk | hk
    · exact h.closed_le k hk
    · exact hle k hk
  case held =>
    intro k hk
    obtain ⟨hopened, hpos, hclosed, hne, hlt⟩ := h.held k hk
    rw [Sockets.opened_close, Sockets.mem_close, not_or]
    exact ⟨hopened, hpos, ⟨hclosed, fun ho => hheld k ho hk⟩, hne, hlt⟩
  case receiving =>
    intro t ht
    -- other handles stay open, and no thread receives from this one
    exact Sockets.isOpen_close.mpr ⟨h.receiving t ht, hreceives t ht⟩
  case reaches =>
    intro t ht
    refine h.reaches t ?_
    rcases ht with ht | ht | ⟨halive, hopen⟩
    · exact Or.inl ht
    · exact Or.inr (Or.inl ht)
    · exact Or.inr (Or.inr ⟨halive, (Sockets.isOpen_close.mp hopen).1⟩)
  case fresh =>
    intro k hk hpos hnot
    rw [Sockets.mem_close, not_or]
    exact ⟨h.fresh k hk hpos hnot, fun ho => hnot (hclosing k ho)⟩
  case device_le | owner_le | hasSet =>
    rw [Sockets.opened_close]
    first | exact h.device_le | exact h.owner_le | exact h.hasSet
  case owner_inj => exact h.owner_inj
  case handle => exact h.handle
  case starting => exact h.starting

/-- `SiDaqRun` opens a socket. -/
theorem Ledger.Tidy.of_opens {p : RunParams α} (h : w.Tidy)
    (hapi : w'.state.api = .runAddress p (w.state.sockets.opened + 1))
    (hsockets : w'.state.sockets = ⟨w.state.sockets.opened + 1, w.state.sockets.closed⟩)
    (hdevice : w'.state.sockParam.deviceSocket = w.state.sockParam.deviceSocket)
    (hsocks : w'.state.socks = w.state.socks) (howner : w'.owner = w.owner)
    (hover : w'.overwritten = w.overwritten) (hclosing : ∀ k, w.Closing k → w'.Closing k) :
    w'.Tidy := by
  have hopened : w'.state.sockets.opened = w.state.sockets.opened + 1 := by rw [hsockets]
  have hclosed : w'.state.sockets.closed = w.state.sockets.closed := by rw [hsockets]
  have halive : ∀ t, w'.state.SockAlive t ↔ w.state.SockAlive t := by
    simp [State.SockAlive, hsocks]
  have hopen : ∀ {k}, w'.state.sockets.isOpen (some k) = true ↔
      1 ≤ k ∧ k ≤ w.state.sockets.opened + 1 ∧ k ∉ w.state.sockets.closed := by
    intro k
    rw [Sockets.isOpen_some, hopened, hclosed]
  -- no thread has the new handle
  have hreaches : ∀ t, w'.state.Reaches t → w.state.Reaches t := by
    intro t ht
    unfold State.Reaches at ht
    rw [hsocks, halive] at ht
    rcases ht with ht | ht | ⟨ht, hcopy⟩
    · exact Or.inl ht
    · exact Or.inr (Or.inl ht)
    · by_cases hstart : (w.state.socks t).pc = .start
      · exact Or.inl hstart
      refine Or.inr (Or.inr ⟨ht, ?_⟩)
      cases hk : (w.state.socks t).deviceSocket with
      | none => simp [hk] at hcopy
      | some k =>
        rw [hk, hopen] at hcopy
        have hle := h.owner_le t ht
        rw [← h.handle t ht hstart k hk] at hle
        exact Sockets.isOpen_some.mpr ⟨hcopy.1, hle, hcopy.2.2⟩
  constructor
  case closedOnce => simpa only [Ledger.ClosedOnce, hclosed, hover] using h.closedOnce
  case closed_le =>
    intro k hk
    rw [hclosed] at hk
    exact hopened ▸ Nat.le_succ_of_le (h.closed_le k hk)
  case device_le =>
    intro k hk
    rw [hdevice] at hk
    exact hopened ▸ Nat.le_succ_of_le (h.device_le k hk)
  case owner_le =>
    intro t ht
    rw [howner, hopened]
    exact Nat.le_succ_of_le (h.owner_le t ((halive t).mp ht))
  case owner_inj => simpa only [halive, howner] using h.owner_inj
  case held =>
    intro k hk
    rw [hapi] at hk
    obtain rfl := Option.some.inj hk
    rw [hopened, hclosed, hdevice, howner]
    -- the new handle is greater than all handles so far
    refine ⟨rfl, Nat.le_add_left 1 _, fun hmem => ?_, fun hk' => ?_, fun t ht => ?_⟩
    · exact absurd (h.closed_le _ hmem) (by omega)
    · exact absurd (h.device_le _ hk') (by omega)
    · exact Nat.lt_succ_of_le (h.owner_le t ((halive t).mp ht))
  case hasSet =>
    intro hset
    simp [hapi, ApiPc.hasSet] at hset
  case handle => simpa only [halive, hsocks, howner] using h.handle
  case starting => simpa only [hsocks, hdevice, howner] using h.starting
  case receiving =>
    intro t ht
    rw [hsocks] at ht ⊢
    have hcopy := h.receiving t ht
    cases hk : (w.state.socks t).deviceSocket with
    | none => simp [hk] at hcopy
    | some k =>
      rw [hk, Sockets.isOpen_some] at hcopy
      exact hopen.mpr ⟨hcopy.1, Nat.le_succ_of_le hcopy.2.1, hcopy.2.2⟩
  case reaches =>
    intro t ht
    rw [hdevice, howner]
    exact h.reaches t (hreaches t ht)
  case fresh =>
    intro k hk hpos hnot
    rw [hclosed]
    exact h.fresh k (hdevice ▸ hk) hpos fun hk' => hnot (hclosing k hk')

/-- `SiDaqRun` assigns `device_socket`, which no socket thread reaches. -/
theorem Ledger.Tidy.of_sets {p : RunParams α} {k : ℕ} (h : w.Tidy)
    (hapi : w.state.api = .runSetSocket p k) (hapi' : w'.state.api = .runSetRun p)
    (hnone : ∀ t, ¬ w.state.Reaches t) (hsockets : w'.state.sockets = w.state.sockets)
    (hdevice : w'.state.sockParam.deviceSocket = some k)
    (hsocks : w'.state.socks = w.state.socks) (howner : w'.owner = w.owner)
    (hover : w'.overwritten = w.overwritten) : w'.Tidy := by
  obtain ⟨hopened, hpos, hclosed, -, hlt⟩ := h.held k (by rw [hapi]; rfl)
  have halive : ∀ t, w'.state.SockAlive t ↔ w.state.SockAlive t := by
    simp [State.SockAlive, hsocks]
  have hreaches : ∀ t, ¬ w'.state.Reaches t := by
    simpa [State.Reaches, halive, hsocks, hsockets] using hnone
  have hk : ∀ {k'}, w'.state.sockParam.deviceSocket = some k' → k' = k := by
    intro k' hk'
    exact (Option.some.inj (hdevice.symm.trans hk')).symm
  constructor
  case closedOnce => simpa only [Ledger.ClosedOnce, hsockets, hover] using h.closedOnce
  case closed_le => simpa only [hsockets] using h.closed_le
  case device_le =>
    intro k' hk'
    rw [hk hk', hsockets, hopened]
  case owner_le => simpa only [halive, hsockets, howner] using h.owner_le
  case owner_inj => simpa only [halive, howner] using h.owner_inj
  case held =>
    intro k' hk'
    simp [hapi', ApiPc.holds] at hk'
  case hasSet =>
    intro _
    rw [hsockets, ← hopened, howner]
    exact ⟨fun k' => hk, fun t ht => hlt t ((halive t).mp ht)⟩
  case handle => simpa only [halive, hsocks, howner] using h.handle
  case starting => exact fun t ht => absurd (Or.inl ht) (hreaches t)
  case receiving => simpa only [hsocks, hsockets] using h.receiving
  case reaches => exact fun t ht => absurd ht (hreaches t)
  case fresh =>
    intro k' hk' _ _
    rwa [hk hk', hsockets]

/-- `SiDaqRun` creates its socket thread. -/
theorem Ledger.Tidy.of_create {p : RunParams α} {t : ℕ} {th : SockThread α} (h : w.Tidy)
    (hapi : w.state.api = .runCreateSock p) (hfree : ¬ w.state.SockAlive t) (hth : th.pc = .start)
    (hapi' : w'.state.api.holds = none) (hhasSet : w'.state.api.hasSet = false)
    (hsocks : w'.state.socks = Function.update w.state.socks t th)
    (hsockets : w'.state.sockets = w.state.sockets)
    (hdevice : w'.state.sockParam.deviceSocket = w.state.sockParam.deviceSocket)
    (howner : w'.owner = Function.update w.owner t w.state.sockets.opened)
    (hover : w'.overwritten = w.overwritten)
    (hclosing : ∀ k, w.Closing k → w'.Closing k) : w'.Tidy := by
  obtain ⟨heq, hlt⟩ := h.hasSet (by rw [hapi]; rfl)
  have hself : w'.state.socks t = th := by rw [hsocks, Function.update_self]
  have howner_self : w'.owner t = w.state.sockets.opened := by rw [howner, Function.update_self]
  have hother : ∀ u, u ≠ t → w'.state.socks u = w.state.socks u ∧ w'.owner u = w.owner u := by
    intro u hu
    rw [hsocks, howner, Function.update_of_ne hu, Function.update_of_ne hu]
    exact ⟨rfl, rfl⟩
  have halive : ∀ u, u ≠ t → (w'.state.SockAlive u ↔ w.state.SockAlive u) := by
    intro u hu
    rw [State.SockAlive, (hother u hu).1, State.SockAlive]
  constructor
  case closedOnce => simpa only [Ledger.ClosedOnce, hsockets, hover] using h.closedOnce
  case closed_le => simpa only [hsockets] using h.closed_le
  case device_le => simpa only [hsockets, hdevice] using h.device_le
  case owner_le =>
    intro u hu
    rw [hsockets]
    by_cases hut : u = t
    · subst hut
      exact howner_self.le
    · rw [(hother u hut).2]
      exact h.owner_le u ((halive u hut).mp hu)
  case owner_inj =>
    intro u v hu hv huv
    -- the threads before it own smaller handles
    by_cases hut : u = t <;> by_cases hvt : v = t
    · exact hut.trans hvt.symm
    · rw [hut, howner_self, (hother v hvt).2] at huv
      exact absurd huv (hlt v ((halive v hvt).mp hv)).ne'
    · rw [hvt, howner_self, (hother u hut).2] at huv
      exact absurd huv (hlt u ((halive u hut).mp hu)).ne
    · rw [(hother u hut).2, (hother v hvt).2] at huv
      exact h.owner_inj u v ((halive u hut).mp hu) ((halive v hvt).mp hv) huv
  case held =>
    intro k hk
    simp [hapi'] at hk
  case hasSet =>
    intro hset
    simp [hhasSet] at hset
  case handle =>
    intro u hu hpc k hk
    by_cases hut : u = t
    · subst hut
      exact absurd (hself ▸ hth) hpc
    · rw [(hother u hut).1] at hpc hk
      rw [(hother u hut).2]
      exact h.handle u ((halive u hut).mp hu) hpc k hk
  case starting =>
    intro u hu k hk
    rw [hdevice] at hk
    by_cases hut : u = t
    · subst hut
      rw [howner_self]
      exact heq k hk
    · rw [(hother u hut).1] at hu
      rw [(hother u hut).2]
      exact h.starting u hu k hk
  case receiving =>
    intro u hu
    rw [hsockets]
    by_cases hut : u = t
    · subst hut
      simp [hself, hth, SockPc.receives] at hu
    · rw [(hother u hut).1] at hu ⊢
      exact h.receiving u hu
  case reaches =>
    intro u hu k hk
    rw [hdevice] at hk
    by_cases hut : u = t
    · subst hut
      rw [howner_self]
      exact (heq k hk).le
    · rw [(hother u hut).2]
      refine h.reaches u ?_ k hk
      simpa only [State.Reaches, State.SockAlive, (hother u hut).1, hsockets] using hu
  case fresh =>
    intro k hk hpos hnot
    rw [hsockets]
    exact h.fresh k (hdevice ▸ hk) hpos fun hk' => hnot (hclosing k hk')

/-- A socket thread assigns only the `device_socket` of its own run. -/
theorem Ledger.Tidy.overwrites_eq_false (h : w.Tidy) (t : ℕ) : w.overwrites t = false := by
  unfold Ledger.overwrites
  rw [Bool.and_eq_false_imp]
  intro hclears
  cases hk : w.state.sockParam.deviceSocket with
  | none => rfl
  | some k =>
    have hle := h.reaches t (Or.inr (Or.inl hclears)) k hk
    simpa using hle

/-- Somebody else's step leaves those at work where they are. -/
theorem Ledger.Closing.of_sock {k t : ℕ} (h : w.Closing k)
    (hclears : (w.state.socks t).pc.clears = false) {th : SockThread α}
    (hsocks : w'.state.socks = Function.update w.state.socks t th)
    (hframers : w'.state.framers = w.state.framers) (hapi : w'.state.api = w.state.api)
    (hclosing : w'.closing = w.closing) : w'.Closing k := by
  rcases h with ⟨u, hk, hu⟩ | h
  · have hut : u ≠ t := by
      rintro rfl
      simp [hclears] at hu
    have hsame : w'.state.socks u = w.state.socks u := by rw [hsocks, Function.update_of_ne hut]
    exact Or.inl ⟨u, by rwa [hsame], by rwa [hsame]⟩
  · exact Or.inr (by rwa [hframers, hapi, hclosing])

theorem Ledger.Closing.of_framer {k t : ℕ} (h : w.Closing k)
    (hclears : (w.state.framers t).clears = false) {pc : FramerPc α}
    (hsocks : w'.state.socks = w.state.socks)
    (hframers : w'.state.framers = Function.update w.state.framers t pc)
    (hapi : w'.state.api = w.state.api)
    (hclosing : ∀ u, u ≠ t → w'.closing u = w.closing u) : w'.Closing k := by
  rcases h with h | ⟨u, hk, hu⟩ | h
  · exact Or.inl (by rwa [hsocks])
  · have hut : u ≠ t := by
      rintro rfl
      simp [hclears] at hu
    refine Or.inr (Or.inl ⟨u, by rwa [hclosing u hut], ?_⟩)
    rwa [hframers, Function.update_of_ne hut]
  · exact Or.inr (Or.inr (by rwa [hapi]))

/-- Closing leaves the rest of the state alone. -/
theorem Ledger.eq_of_close {o : Option ℕ} (hsockets : w'.state.sockets = w.state.sockets.close o) :
    w' = { w' with state := { w'.state with sockets := w.state.sockets.close o } } := by
  rw [← hsockets]

/-- A thread in its receive loop has the handle of its own run, which is open. -/
theorem Ledger.Tidy.handle_of_receives {t : ℕ} (h : w.Tidy)
    (ht : (w.state.socks t).pc.receives = true) :
    (w.state.socks t).deviceSocket = some (w.owner t) ∧
      w.state.sockets.isOpen (some (w.owner t)) = true := by
  obtain ⟨halive, hstart, -⟩ := SockPc.of_receives ht
  have hopen := h.receiving t ht
  cases hk : (w.state.socks t).deviceSocket with
  | none => simp [hk] at hopen
  | some k =>
    obtain rfl := h.handle t halive hstart k hk
    exact ⟨rfl, hk ▸ hopen⟩

/-- A socket thread closes its handle. -/
theorem Ledger.Tidy.sock_close {t : ℕ} {th : SockThread α} (h : w.Tidy)
    (hsocks : w'.state.socks = Function.update w.state.socks t th)
    (hreceives : (w.state.socks t).pc.receives = true) (hpc : th.pc = .clearSocket)
    (hcopy : th.deviceSocket = (w.state.socks t).deviceSocket)
    (hsockets : w'.state.sockets = w.state.sockets.close (w.state.socks t).deviceSocket)
    (hdevice : w'.state.sockParam.deviceSocket = w.state.sockParam.deviceSocket)
    (howner : w'.owner = w.owner) (hclosing : w'.closing = w.closing)
    (hover : w'.overwritten = w.overwritten) (hframers : w'.state.framers = w.state.framers)
    (hapi : w'.state.api = w.state.api) : w'.Tidy := by
  obtain ⟨halive, hstart, hclears⟩ := SockPc.of_receives hreceives
  obtain ⟨hhandle, hopen⟩ := h.handle_of_receives hreceives
  have hself : w'.state.socks t = th := by rw [hsocks, Function.update_self]
  rw [hhandle] at hsockets hcopy
  -- the thread moves on, and then its handle is closed
  have hmoved : Ledger.Tidy { w' with state := { w'.state with sockets := w.state.sockets } } := by
    refine h.of_sock halive hsocks rfl (by simp [hdevice]) howner hover hapi (fun k _ hk => ?_)
      (by simp [hpc]) (fun _ k hk => ?_) (by simp [hpc, SockPc.receives]) fun _ => ?_
    · exact hk.of_sock hclears hsocks hframers hapi hclosing
    · exact (Option.some.inj (hcopy.symm.trans hk)).symm
    · exact Or.inr (Or.inr ⟨halive, hhandle ▸ hopen⟩)
  refine hmoved.of_close (Ledger.eq_of_close hsockets) (fun k hk => ?_) (fun k hk hk' => ?_)
    (fun k hk _ => ?_) (fun k hk => ?_) fun u hu hk => ?_
  · obtain rfl := Option.some.inj hk
    exact (Sockets.isOpen_some.mp hopen).2.1
  · -- the `SiDaqRun` in progress has a newer handle
    obtain rfl := Option.some.inj hk
    dsimp only at hk'
    rw [hapi] at hk'
    exact lt_irrefl _ ((h.held _ hk').2.2.2.2 t halive)
  · obtain rfl := Option.some.inj hk
    exact (Sockets.isOpen_some.mp hopen).2.2
  · exact Or.inl ⟨t, by rw [← hk]; simp [hself, hcopy], by simp [hself, hpc, SockPc.clears]⟩
  · -- another thread in its receive loop has another handle
    dsimp only at hu hk
    by_cases hut : u = t
    · subst hut
      simp [hself, hpc, SockPc.receives] at hu
    rw [hsocks, Function.update_of_ne hut] at hu hk
    have hu' := (h.handle_of_receives hu).1
    exact hut (h.owner_inj u t (SockPc.of_receives hu).1 halive
      (Option.some.inj (hu'.symm.trans hk)))

/-- A step of a socket thread. -/
theorem Ledger.Tidy.sock_step {t : ℕ} (h : w.Tidy) (ht : w.state.SockAlive t)
    (hchange : SockChange w.state t w'.state) (huse : SockUse w.state t w'.state)
    (howner : w'.owner = w.owner) (hclosing : w'.closing = w.closing)
    (hover : w'.overwritten = w.overwritten) : w'.Tidy := by
  have hframers : w'.state.framers = w.state.framers := by
    obtain ⟨_, _, _, _, _, _, heq⟩ := hchange
    rw [heq]
    rfl
  have hapi : w'.state.api = w.state.api := by
    obtain ⟨_, _, _, _, _, _, heq⟩ := hchange
    rw [heq]
    rfl
  cases huse with
  | exit th hsocks hpc hclears hsockets hdevice =>
    refine h.of_sock ht hsocks hsockets (by simp [hdevice]) howner hover hapi (fun k _ hk => ?_)
      (by simp [hpc]) (by simp [hpc]) (by simp [hpc, SockPc.receives])
      (by simp [hpc, SockPc.clears])
    exact hk.of_sock hclears hsocks hframers hapi hclosing
  | copy th hsocks hstart hpc hcopy hsockets hdevice =>
    have hclears : (w.state.socks t).pc.clears = false := by simp [hstart, SockPc.clears]
    refine h.of_sock ht hsocks hsockets (by simp [hdevice]) howner hover hapi (fun k _ hk => ?_)
      (by simp [hpc]) (fun _ k hk => ?_) (by simp [hpc, SockPc.receives]) fun _ => Or.inl hstart
    · exact hk.of_sock hclears hsocks hframers hapi hclosing
    · exact h.starting t hstart k (hcopy ▸ hk)
  -- with its copy of the handle the thread reaches what it reached before
  | keep th hsocks hstart hclears hpc hpc' hcopy hreceives hsockets hdevice =>
    refine h.of_sock ht hsocks hsockets (by simp [hdevice]) howner hover hapi (fun k _ hk => ?_)
      hpc (fun _ k hk => ?_) (fun hr => ?_) fun hr => ?_
    · exact hk.of_sock hclears hsocks hframers hapi hclosing
    · exact h.handle t ht hstart k (hcopy ▸ hk)
    · rw [hcopy]
      exact (hreceives hr).elim (h.receiving t) id
    · simp only [hpc', Bool.false_eq_true, false_or] at hr
      exact Or.inr (Or.inr ⟨ht, hcopy ▸ hr.2⟩)
  | close th hsocks hreceives hpc hcopy hsockets hdevice =>
    exact h.sock_close hsocks hreceives hpc hcopy hsockets hdevice howner hclosing hover hframers hapi
  | clear th hsocks hclears hpc hcopy hsockets hdevice =>
    refine h.of_sock ht hsocks hsockets (by simp [hdevice]) howner hover hapi (by simp [hdevice])
      (by simp [hpc]) (by simp [hcopy]) (by simp [hpc, SockPc.receives])
      (by simp [hpc, hcopy, SockPc.clears])

/-- `SiDaqStop` or the framer thread closes `device_socket`, which nobody uses. -/
theorem Ledger.Tidy.of_close_device (h : w.Tidy)
    (hunused : ∀ k, w.state.sockParam.deviceSocket = some k → ¬ w.InUse k)
    (hsocks : w'.state.socks = w.state.socks)
    (hsockets : w'.state.sockets = w.state.sockets.close w.state.sockParam.deviceSocket)
    (hdevice : w'.state.sockParam.deviceSocket = w.state.sockParam.deviceSocket)
    (howner : w'.owner = w.owner) (hover : w'.overwritten = w.overwritten)
    (hclosing : ∀ k, w.state.sockParam.deviceSocket = some k → w'.Closing k)
    (hholds : ∀ k, w'.state.api.holds = some k → w.state.api.holds = some k)
    (hhasSet : w'.state.api.hasSet = true → w.state.api.hasSet = true) : w'.Tidy := by
  have hmoved : Ledger.Tidy { w' with state := { w'.state with sockets := w.state.sockets } } :=
    h.of_same hsocks rfl (by simp [hdevice]) howner hover (fun k hk _ => hclosing k (hdevice ▸ hk))
      hholds hhasSet
  refine hmoved.of_close (Ledger.eq_of_close hsockets) h.device_le (fun k hk hk' => ?_)
    (fun k hk hpos => ?_) hclosing fun u hu hk => ?_
  · -- a handle that `SiDaqRun` holds has not been assigned
    exact (h.held k (hholds k hk')).2.2.2.1 hk
  · exact h.fresh k hk hpos fun hk' => hunused k hk (Or.inr hk')
  · dsimp only at hu hk
    rw [hsocks] at hu hk
    -- a thread that received from it would use it
    have hopen := h.receiving u hu
    cases hcase : w.state.sockParam.deviceSocket with
    | none => simp [hk, hcase] at hopen
    | some k => exact hunused k hcase (Or.inl ⟨u, hk.trans hcase, hu⟩)

/-- A step of a framer thread. -/
theorem Ledger.Tidy.framer_step [Inhabited α] {t : ℕ} (h : w.Tidy)
    (hexcl : Exclusive w (.framer t)) (hstep : w.step (.framer t) = some w') : w'.Tidy := by
  obtain ⟨s', hs', rfl⟩ := Option.map_eq_some_iff.mp hstep
  obtain ⟨-, _, _, _, _, _, _, _, _, _, _, heq⟩ := framerStep_change hs'
  have hsocks : s'.socks = w.state.socks := by rw [heq]; rfl
  have hapi : s'.api = w.state.api := by rw [heq]; rfl
  have hclosing : ∀ u, u ≠ t → w.closingAfter (.framer t) u = w.closing u := by
    intro u hu
    simp only [Ledger.closingAfter]
    split
    · rw [Function.update_of_ne hu]
    · rfl
  cases framerStep_use hs' with
  | keep pc hcloses hclears hpc hframers hsockets hdevice =>
    refine h.of_same hsocks hsockets (by simp [hdevice]) rfl rfl (fun k _ hk => ?_)
      (fun k => by simp [hapi]) (by simp [hapi])
    exact hk.of_framer hclears hsocks hframers hapi hclosing
  | clear pc hcloses hclears hpc hframers hsockets hdevice =>
    exact h.of_same hsocks hsockets (by simp [hdevice]) rfl rfl (by simp [hdevice])
      (fun k => by simp [hapi]) (by simp [hapi])
  | close pc hcloses hpc hframers hsockets hdevice =>
    refine h.of_close_device (hexcl.framer t rfl hcloses) hsocks hsockets hdevice rfl rfl
      (fun k hk => Or.inr (Or.inl ⟨t, ?_, ?_⟩)) (fun k => by simp [hapi]) (by simp [hapi])
    · simp [Ledger.closingAfter, hcloses, hk]
    · simp [hframers, hpc]

/-- `SiDaqRun` creates a socket thread where there is none. -/
theorem apiStep_create [Inhabited α] {s s' : State α} {ans : ApiAnswer} {p : RunParams α}
    (hapi : s.api = .runCreateSock p) (h : apiStep s ans = some s') :
    ∃ t, ans = .thread t ∧ ¬ s.SockAlive t ∧
      s' = (s.apiTo (.runConfigure p)).setSock t ⟨.start, none, 0⟩ := by
  simp only [apiStep, hapi] at h
  split at h
  · rename_i t
    split at h
    · rename_i hoff
      exact ⟨t, rfl, fun halive => halive hoff, (Option.some.inj h).symm⟩
    · simp at h
  · simp at h

/-- A step of the application inside a call that creates no socket thread. -/
theorem Ledger.Tidy.of_api (h : w.Tidy)
    (hrun : w.state.api.sets = true → ∀ t, ¬ w.state.Reaches t)
    (hstop : w.state.api.closes = true →
      ∀ k, w.state.sockParam.deviceSocket = some k → ¬ w.InUse k)
    (huse : ApiUse w.state w'.state) (hsocks : w'.state.socks = w.state.socks)
    (hframers : ∀ t, (w.state.framers t).clears = true → (w'.state.framers t).clears = true)
    (howner : w'.owner = w.owner) (hclosing : w'.closing = w.closing)
    (hover : w'.overwritten = w.overwritten) : w'.Tidy := by
  have hclosing' : w.state.api.clears = false → ∀ k, w.Closing k → w'.Closing k := by
    rintro hclears k (hk | ⟨t, hk, ht⟩ | hk)
    · exact Or.inl (by rwa [hsocks])
    · exact Or.inr (Or.inl ⟨t, by rwa [hclosing], hframers t ht⟩)
    · simp [hclears] at hk
  cases huse with
  | keep hcloses hclears hset hpc hholds hhasSet hsockets hdevice =>
    exact h.of_same hsocks hsockets (by simp [hdevice]) howner hover
      (fun k _ => hclosing' hclears k) hholds hhasSet
  | opens p hapi hapi' hsockets hdevice =>
    exact h.of_opens hapi' hsockets hdevice hsocks howner hover (hclosing' (by rw [hapi]; rfl))
  | sets p k hapi hapi' hsockets hdevice =>
    exact h.of_sets hapi hapi' (hrun (by rw [hapi]; rfl)) hsockets hdevice hsocks howner hover
  | close hcloses hpc hholds hhasSet hsockets hdevice =>
    exact h.of_close_device (hstop hcloses) hsocks hsockets hdevice howner hover
      (fun k _ => Or.inr (Or.inr hpc)) (by simp [hholds]) (by simp [hhasSet])
  | clear hclears hpc hholds hhasSet hsockets hdevice =>
    exact h.of_same hsocks hsockets (by simp [hdevice]) howner hover (by simp [hdevice])
      (by simp [hholds]) (by simp [hhasSet])

/-- A step of the application inside a call. -/
theorem Ledger.Tidy.api_step [Inhabited α] {ans : ApiAnswer} (h : w.Tidy)
    (hexcl : Exclusive w (.api ans)) (hstep : w.step (.api ans) = some w') : w'.Tidy := by
  obtain ⟨s', hs', rfl⟩ := Option.map_eq_some_iff.mp hstep
  have hrun := hexcl.run ans rfl
  have hstop := hexcl.stop ans rfl
  have howner : (∀ p, w.state.api ≠ .runCreateSock p) → w.ownerAfter (.api ans) = w.owner := by
    intro hne
    simp only [Ledger.ownerAfter]
    split
    · rfl
    · rfl
  rcases (apiStep_change hs').threads with ⟨hcreate, -, hsocks, hframers⟩ | ⟨p, -, hapi, -⟩ |
    ⟨t, hapi, hfree, hsocks, hframers⟩
  · exact h.of_api hrun hstop (apiStep_use hs') hsocks (by simp [hframers]) (howner hcreate) rfl rfl
  · obtain ⟨t, rfl, hfree, rfl⟩ := apiStep_create hapi hs'
    refine h.of_create hapi hfree rfl rfl rfl rfl rfl rfl ?_ rfl fun k hk => ?_
    · simp only [Ledger.ownerAfter, hapi]
    · -- a thread that does not exist has closed nothing
      rcases hk with ⟨u, hk, hu⟩ | hk | hk
      · have hut : u ≠ t := by
          rintro rfl
          simp [not_not.mp hfree, SockPc.clears] at hu
        refine Or.inl ⟨u, ?_, ?_⟩ <;> simpa [State.setSock, State.apiTo, Function.update_of_ne hut]
      · exact Or.inr (Or.inl hk)
      · simp [hapi, ApiPc.clears] at hk
  · refine h.of_api hrun hstop (apiStep_use hs') hsocks (fun u hu => ?_)
      (howner (by simp [hapi])) rfl rfl
    have hut : u ≠ t := by
      rintro rfl
      simp [not_not.mp hfree, FramerPc.clears] at hu
    rwa [hframers, Function.update_of_ne hut]

/-- The other actions begin a call, take a frame or write `pause_flg`. -/
theorem Ledger.Tidy.other_step [Inhabited α] {a : Act α} (h : w.Tidy)
    (hsock : ∀ t ans, a ≠ .sock t ans) (hframer : ∀ t, a ≠ .framer t) (hapi : ∀ ans, a ≠ .api ans)
    (hstep : w.step a = some w') : w'.Tidy := by
  obtain ⟨s', hs', rfl⟩ := Option.map_eq_some_iff.mp hstep
  have hcall : ∀ {pc : ApiPc α} {ov : Bool}, ov = w.overwritten → pc.holds = none →
      pc.hasSet = false → callStep w.state pc = some s' →
      (⟨s', w.owner, w.closing, ov⟩ : Ledger α).Tidy := by
    intro pc ov hov hholds hhasSet hs'
    obtain ⟨r, hreturned, rfl⟩ := callStep_begins hs'
    refine h.of_same rfl rfl (fun _ => id) rfl hov (fun k _ hk => ?_)
      (by simp [State.apiTo, hholds]) (by simp [State.apiTo, hhasSet])
    rcases hk with hk | hk | hk
    · exact Or.inl hk
    · exact Or.inr (Or.inl hk)
    · simp [hreturned, ApiPc.clears] at hk
  have hsame : ∀ {param : SockThreadLparam} {events got : List (List α)},
      param.deviceSocket = w.state.sockParam.deviceSocket →
      (⟨{ w.state with sockParam := param, eventFrame := events, got := got }, w.owner, w.closing,
        w.overwritten⟩ : Ledger α).Tidy :=
    fun hdevice => h.of_same rfl rfl (by simp [hdevice]) rfl rfl (fun _ _ => id) (fun _ => id) id
  cases a with
  | sock t ans => exact absurd rfl (hsock t ans)
  | framer t => exact absurd rfl (hframer t)
  | api ans => exact absurd rfl (hapi ans)
  | callRun p => exact hcall rfl rfl rfl hs'
  | callStop => exact hcall rfl rfl rfl hs'
  | callReset => exact hcall rfl rfl rfl hs'
  | callTerminate => exact hcall rfl rfl rfl hs'
  | getData =>
    obtain ⟨f, fs, -, rfl⟩ := getData_takes hs'
    exact hsame rfl
  | pause | resume =>
    simp only [SiDaqApi.step, Option.some.injEq] at hs'
    subst hs'
    exact hsame rfl

theorem Ledger.Tidy.step [Inhabited α] {a : Act α} (h : w.Tidy) (hexcl : Exclusive w a)
    (hstep : w.step a = some w') : w'.Tidy := by
  cases a with
  | sock t ans =>
    obtain ⟨s', hs', rfl⟩ := Option.map_eq_some_iff.mp hstep
    obtain ⟨ht, hchange⟩ := sockStep_change hs'
    refine h.sock_step ht hchange (sockStep_use hs') rfl rfl ?_
    simp [Ledger.overwrittenAfter, h.overwrites_eq_false t]
  | framer t => exact h.framer_step hexcl hstep
  | api ans => exact h.api_step hexcl hstep
  | callRun p | callStop | callReset | callTerminate | getData | pause | resume =>
    exact h.other_step (by simp) (by simp) (by simp) hstep

end Tidy

/-- **Every socket is closed once, and by its own run**: in a run of the system that closes
`device_socket` only when nobody works on it, and assigns it only when no thread of an earlier run
can still reach it, no handle that `SiDaqRun` has opened is ever passed to `closesocket` twice, and no
socket thread overwrites the `device_socket` of a later run. -/
theorem closed_once [Inhabited α] {acts : List (Act α)}
    (hexcl : Guarded Ledger.step Exclusive Ledger.init acts) :
    Always Ledger.step Ledger.ClosedOnce Ledger.init acts :=
  always_of_guarded (fun _ _ _ h hexcl hstep => h.step hexcl hstep) (fun _ h => h.closedOnce)
    Ledger.tidy_init hexcl

/-- `SiDaqRun` with its default arguments. -/
def defaultRun : RunParams UInt8 := FramingParams.toRunParams ⟨none, 0, 0, 0, 262144⟩

/-- `SiDaqRun` up to its assignment of `device_socket`. -/
def untilSet : List (Act UInt8) := (runCall defaultRun 0 0).take 6

/-- The threads start; the socket thread has nothing to receive, and exits while `SiDaqStop` waits. -/
def untilClose : List (Act UInt8) :=
  (runCall defaultRun 0 0).drop 7 ++ List.replicate 4 (.sock 0 .ok) ++ [.sock 0 .notReadable] ++
    [.callStop] ++ List.replicate 3 (.api .ok) ++ [.sock 0 .ok, .api .ok]

theorem quietStop_closes_once :
    (∃ w, run Ledger.step Ledger.init (untilSet ++ .api .ok :: (untilClose ++ [.api .ok, .api .ok]))
      = some w ∧ w.state.sockets.closed = [1] ∧ w.state.sockParam.deviceSocket = none) ∧
      Always Ledger.step Ledger.ClosedOnce Ledger.init
        (untilSet ++ .api .ok :: (untilClose ++ [.api .ok, .api .ok])) := by
  refine ⟨⟨_, rfl, rfl, rfl⟩, closed_once ?_⟩
  refine (guarded_append rfl).mpr ⟨?_, (guarded_cons rfl).mpr ⟨?_, (guarded_append rfl).mpr ⟨?_,
    (guarded_cons rfl).mpr ⟨?_, ?_⟩⟩⟩⟩
  · exact guarded_of_guardedBool Exclusive.of_leavesDevice (by decide)
  · -- there is no thread yet
    refine ⟨by simp, fun _ _ hcloses => Bool.noConfusion hcloses, fun _ _ _ t ht => ?_⟩
    rcases ht with ht | ht | ht
    · exact Bool.noConfusion (congrArg SockPc.isOff ht)
    · exact Bool.noConfusion ht
    · exact ht.1 rfl
  · exact guarded_of_guardedBool Exclusive.of_leavesDevice (by decide)
  · -- the only thread has exited
    refine ⟨by simp, fun _ _ _ k hk hused => ?_, fun _ _ hsets => Bool.noConfusion hsets⟩
    rcases hused with ⟨t, ht, hr⟩ | ⟨t, ht, hr⟩ | ⟨t, ht, hr⟩ | hr
    · cases t <;> exact Bool.noConfusion hr
    · cases t <;> exact Bool.noConfusion hr
    · cases t <;> exact Bool.noConfusion hr
    · exact Bool.noConfusion hr
  · exact guarded_of_guardedBool Exclusive.of_leavesDevice (by decide)

/-- `SiDaqStop` stops waiting while the socket thread is in its receive loop, and `SiDaqRun` follows;
then the thread finds its handle closed. -/
def stopInLoop : List (Act UInt8) :=
  runCall defaultRun 0 0 ++ List.replicate 4 (.sock 0 .ok) ++ [.sock 0 .readable, .sock 0 .ok] ++
    [.callStop] ++ List.replicate 6 (.api .ok) ++ runCall defaultRun 1 1 ++
    [.sock 0 (.error 10038), .sock 0 .ok, .sock 0 .ok]

/-- The handle of the first run is closed by `SiDaqStop` and by the socket thread, which then
overwrites the `device_socket` of the second run. -/
theorem stopInLoop_closes_twice :
    ∃ w, run Ledger.step Ledger.init stopInLoop = some w ∧ w.state.sockets.opened = 2 ∧
      w.state.sockets.closed = [1, 1] ∧ w.overwritten = true ∧ ¬ w.ClosedOnce := by
  refine ⟨_, rfl, rfl, rfl, rfl, fun h => ?_⟩
  exact absurd h.2 (by decide)

end SiDaqApi
