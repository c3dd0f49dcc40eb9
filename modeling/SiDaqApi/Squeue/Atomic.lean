import SiDaqApi.Lib.Atomic
import SiDaqApi.Squeue.Fifo

/-!
# The queue is linearizable

`fifoQueue` is what the queue is for: a sequence of byte strings, on which a put and a get take place
in one step. Every history of calls and returns that the threads of `squeue.cpp` produce is one of
`fifoQueue` shared by the same threads (`linearizable`): `SQPut` takes place in its locked region, and
`SQGet` there or at the read of `_count` that makes it give up.

`SQGet` with a time limit may come back without data from a queue that has some, since waiting for the
lock can time out.
-/

namespace SiDaqApi.Squeue

open Machine

variable {α : Type*}

/-! ## The abstract queue -/

/-- A call of `SQPut`, or of `SQGet`. -/
inductive QueueOp (α : Type*)
  | put (bytes : List α)
  | get (wait : ℤ)

/-- What the call returns. The number that `SQPut` returns is read after its put, and is left out. -/
inductive QueueRes (α : Type*)
  | put
  | got (data : Option (List α)) (size : ℤ)

/-- `SQGet` may return no data, and `size`. -/
def ComesBackEmpty (q : List (List α)) (wait size : ℤ) : Prop :=
  size = 0 ∧ (q = [] ∨ 0 ≤ wait) ∨ size = -2 ∧ q = [] ∧ wait < 0

instance (q : List (List α)) (wait size : ℤ) : Decidable (ComesBackEmpty q wait size) :=
  inferInstanceAs (Decidable (_ ∨ _))

/-- First in, first out. -/
def fifoQueue [DecidableEq α] : Atomic.Object (List (List α)) (QueueOp α) (QueueRes α) where
  apply
    | q, .put bytes, .put => some (q ++ [bytes])
    | q, .get wait, .got none size => if ComesBackEmpty q wait size then some q else none
    | item :: q, .get _, .got (some data) size =>
      if data = item ∧ size = item.length then some q else none
    | _, _, _ => none

/-- The history: a thread calls, or what it called returns. -/
def event (_ : State α) (a : Act α) (s' : State α) :
    List (Atomic.Event (QueueOp α) (QueueRes α)) :=
  match a with
  | .callPut t bytes => [.call t (.put bytes)]
  | .callGet t wait => [.call t (.get wait)]
  | .alloc _ _ => []
  | .go t | .timeout t =>
    match s'.pc t with
    | .putDone _ => [.ret t .put]
    | .getDone data size => [.ret t (.got data size)]
    | _ => []

/-! ## The abstraction -/

/-- Where a thread is, as the abstract queue has it. `SQGet` counts its waiting time down to one, so
the sign stays. -/
inductive Stage : Pc α → Atomic.Status (QueueOp α) (QueueRes α) → Prop
  | idle : Stage .idle .idle
  | putNew (bytes : List α) : Stage (.putNew bytes) (.called (.put bytes))
  | putLock (sd : Ptr) (bytes : List α) : Stage (.putLock sd bytes) (.called (.put bytes))
  | putReturn (bytes : List α) : Stage .putReturn (.done (.put bytes) .put)
  | putCount (bytes : List α) : Stage .putCount (.done (.put bytes) .put)
  | putDone (count : ℤ) : Stage (.putDone count) .idle
  | getWait {wait wait₀ : ℤ} (h : wait < 0 ↔ wait₀ < 0) :
    Stage (.getWait wait) (.called (.get wait₀))
  | getCount {wait wait₀ : ℤ} (h : wait < 0 ↔ wait₀ < 0) :
    Stage (.getCount wait) (.called (.get wait₀))
  | getEnter {wait wait₀ : ℤ} (h : wait < 0 ↔ wait₀ < 0) :
    Stage (.getEnter wait) (.called (.get wait₀))
  | getLock {wait wait₀ : ℤ} (h : wait < 0 ↔ wait₀ < 0) :
    Stage (.getLock wait) (.called (.get wait₀))
  | getData (sd : Ptr) (item : List α) (wait₀ : ℤ) :
    Stage (.getData sd item) (.done (.get wait₀) (.got (some item) item.length))
  | getDone (data : Option (List α)) (size : ℤ) : Stage (.getDone data size) .idle

/-- The abstract queue holds the items that were put in and not taken out. -/
structure Abstracts (s : State α) (t : Atomic.State (List (List α)) (QueueOp α) (QueueRes α)) :
    Prop where
  items : s.removed ++ t.obj = s.inserted
  threads : ∀ u, Stage (s.pc u) (t.status u)

variable {que : Ptr} {s s' : State α} {ns : List Ptr}
  {t : Atomic.State (List (List α)) (QueueOp α) (QueueRes α)} {v : ℕ}

theorem Abstracts.init : Abstracts (State.init : State α) (.init []) where
  items := rfl
  threads _ := .idle

/-- What is in the queue. -/
theorem Abstracts.obj_eq (h : Abstracts s t) (hs : Holds que s ns) : t.obj = ns.map s.mem.data :=
  List.append_cancel_left (h.items.trans hs.fifo.symm)

/-- The test `_count > 0` of a queue. -/
theorem Abstracts.obj_nil_iff (h : Abstracts s t) (hs : Holds que s ns) :
    t.obj = [] ↔ s.mem.queue.count = 0 := by
  rw [h.obj_eq hs, hs.count_eq, List.map_eq_nil_iff, ← List.length_eq_zero_iff]
  omega

theorem Stage.of_free {c : Pc α} {x : Atomic.Status (QueueOp α) (QueueRes α)} (h : Stage c x)
    (hfree : c.free) : x = .idle := by
  cases h with
  | idle | putDone _ | getDone _ _ => rfl
  | _ => simp [Pc.free] at hfree

/-- One thread goes on, here and there. -/
theorem Abstracts.move (h : Abstracts s t) {c : Pc α}
    {x : Atomic.Status (QueueOp α) (QueueRes α)} {q : List (List α)}
    (hpc : s'.pc = Function.update s.pc v c) (hx : Stage c x)
    (hitems : s'.removed ++ q = s'.inserted) : Abstracts s' { t.set v x with obj := q } where
  items := hitems
  threads := by
    intro u
    rw [hpc]
    simp only [Atomic.State.set]
    by_cases hu : u = v
    · rw [hu, Function.update_self, Function.update_self]
      exact hx
    · rw [Function.update_of_ne hu, Function.update_of_ne hu]
      exact h.threads u

/-- One thread goes on, without a change that the abstract queue sees. -/
theorem Abstracts.goto (h : Abstracts s t) {c : Pc α} (hx : Stage c (t.status v)) :
    Abstracts (s.goto v c) t := by
  have hmove : Abstracts (s.goto v c) (t.set v (t.status v)) := h.move rfl hx h.items
  rwa [Atomic.State.set_self] at hmove

/-- `SQGet` without a node: the queue is empty, or the lock was not to be had in time. -/
theorem comesBackEmpty_noData {q : List (List α)} {wait wait₀ : ℤ} (hw : wait < 0 ↔ wait₀ < 0)
    (h : q = [] ∨ 0 ≤ wait) : ComesBackEmpty q wait₀ (if wait < 0 then -2 else 0) := by
  by_cases hneg : wait < 0
  · rw [if_pos hneg]
    exact Or.inr ⟨rfl, h.resolve_right (Int.not_le.mpr hneg), hw.mp hneg⟩
  · rw [if_neg hneg]
    exact Or.inl ⟨rfl, Or.inr (Int.not_lt.mp fun hlt => hneg (hw.mpr hlt))⟩

variable [DecidableEq α]

/-- The abstract queue follows. -/
abbrev Followed (s' : State α) (t : Atomic.State (List (List α)) (QueueOp α) (QueueRes α))
    (es : List (Atomic.Event (QueueOp α) (QueueRes α))) : Prop :=
  CanFollow (Atomic.step fifoQueue) Atomic.event Abstracts s' t es

/-- A call. -/
theorem Followed.call (h : Abstracts s t) (hfree : (s.pc v).free) {c : Pc α} {op : QueueOp α}
    (hc : Stage c (.called op)) : Followed (s.goto v c) t [.call v op] := by
  have hidle := (h.threads v).of_free hfree
  exact CanFollow.one (Atomic.step_call hidle) (h.move rfl hc h.items)

/-- The operation takes place. -/
theorem Followed.effect (h : Abstracts s t) {c : Pc α} {op : QueueOp α} {res : QueueRes α}
    {q : List (List α)} (hop : t.status v = .called op)
    (happly : fifoQueue.apply t.obj op res = some q)
    (hpc : s'.pc = Function.update s.pc v c) (hc : Stage c (.done op res))
    (hitems : s'.removed ++ q = s'.inserted) : Followed s' t [] :=
  CanFollow.one (Atomic.step_effect hop happly) (h.move hpc hc hitems)

/-- The call returns. -/
theorem Followed.ret (h : Abstracts s t) {c : Pc α} {op : QueueOp α} {res : QueueRes α}
    (hop : t.status v = .done op res) (hpc : s'.pc = Function.update s.pc v c) (hc : Stage c .idle)
    (hitems : s'.removed ++ t.obj = s'.inserted) : Followed s' t [.ret v res] := by
  obtain ⟨hstep, hevent⟩ := Atomic.step_ret (o := fifoQueue) hop
  rw [← hevent]
  exact CanFollow.one hstep (h.move hpc hc hitems)

/-- `SQGet` gives up: it takes place and returns at once. -/
theorem Followed.giveUp (h : Abstracts s t) {wait₀ size : ℤ}
    (hop : t.status v = .called (.get wait₀)) (hempty : ComesBackEmpty t.obj wait₀ size) :
    Followed (s.goto v (.getDone none size)) t [.ret v (.got none size)] := by
  have happly : fifoQueue.apply t.obj (.get wait₀) (.got none size) = some t.obj :=
    if_pos hempty
  have heffect := Atomic.step_effect (o := fifoQueue) hop happly
  have hdone : (t.set v (.done (.get wait₀) (.got none size))).status v = _ :=
    t.status_set_self v _
  obtain ⟨hret, hevent⟩ := Atomic.step_ret (o := fifoQueue) hdone
  have htwice : (t.set v (.done (.get wait₀) (.got none size))).set v .idle = t.set v .idle := by
    simp only [Atomic.State.set, Function.update_idem]
  rw [htwice] at hret hevent
  have hmove : Abstracts (s.goto v (.getDone none size)) (t.set v .idle) :=
    h.move rfl (.getDone none size) h.items
  have hlast : Followed (s.goto v (.getDone none size))
      (t.set v (.done (.get wait₀) (.got none size))) [.ret v (.got none size)] := by
    rw [← hevent]
    exact CanFollow.one hret hmove
  exact hlast.cons heffect

/-- The locked region of a get: it takes the first item, or finds none. -/
theorem Followed.getLock (hs : Holds que s ns) (h : Abstracts s t) {wait wait₀ : ℤ}
    (hpc : s.pc v = .getLock wait) (hop : t.status v = .called (.get wait₀))
    (hw : wait < 0 ↔ wait₀ < 0) (hgo : go que s v = some s') :
    Followed s' t (event s (.go v) s') := by
  simp only [go, hpc] at hgo
  rcases ns with _ | ⟨a, as⟩
  · rw [hs.rep.queGet_nil, Option.some.injEq] at hgo
    subst hgo
    have hnil : t.obj = [] := h.obj_eq hs
    have hevent : event s (.go v) (s.goto v (noData wait)) =
        [.ret v (.got none (if wait < 0 then -2 else 0))] := by
      simp only [event, State.goto, Function.update_self, noData]
    change Followed (s.goto v (noData wait)) t (event s (.go v) (s.goto v (noData wait)))
    rw [hevent]
    exact Followed.giveUp h hop (comesBackEmpty_noData hw (Or.inl hnil))
  · have hlen := hs.fits
    rw [List.length_cons] at hlen
    obtain ⟨m', hget, -, -, -, -⟩ := hs.rep.queGet_cons (by omega)
    rw [hget, Option.some.injEq] at hgo
    subst hgo
    -- the item that is taken out is the first of the abstract queue
    have hobj : t.obj = s.mem.data a :: as.map s.mem.data := h.obj_eq hs
    have happly : fifoQueue.apply t.obj (.get wait₀)
        (.got (some (s.mem.data a)) (s.mem.data a).length) = some (as.map s.mem.data) := by
      rw [hobj]
      exact if_pos ⟨rfl, rfl⟩
    have hitems := h.items
    rw [hobj] at hitems
    have hnone : ∀ mem removed, event s (.go v) { s.goto v (.getData a (s.mem.data a)) with
        mem := mem, removed := removed } = [] := by
      intro mem removed
      simp only [event, State.goto, Function.update_self]
    rw [hnone]
    refine Followed.effect h hop happly rfl (.getData a (s.mem.data a) wait₀) ?_
    rw [← List.append_cons]
    exact hitems

/-- A step of a thread inside a call. -/
theorem Followed.go (hs : Holds que s ns) (h : Abstracts s t) (hgo : go que s v = some s') :
    Followed s' t (event s (.go v) s') := by
  have hstage := h.threads v
  generalize hpc : s.pc v = c at hstage
  generalize hop : t.status v = x at hstage
  -- a step that the abstract queue does not see
  have hquiet : ∀ {c : Pc α}, Stage c x → event s (.go v) (s.goto v c) = [] →
      Followed (s.goto v c) t (event s (.go v) (s.goto v c)) := by
    intro c hc hevent
    rw [hevent]
    exact CanFollow.stay (h.goto (hop ▸ hc))
  have hnil := h.obj_nil_iff hs
  have hcount := hs.count_eq
  cases hstage with
  | idle | putNew _ | putDone _ | getDone _ _ => simp [Squeue.go, hpc] at hgo
  | putLock sd bytes =>
    simp only [Squeue.go, hpc, Option.some.injEq] at hgo
    subst hgo
    have hevent : ∀ mem inserted, event s (.go v) { s.goto v .putReturn with
        mem := mem, inserted := inserted } = [] := by
      intro mem inserted
      simp only [event, State.goto, Function.update_self]
    rw [hevent]
    refine Followed.effect h hop rfl rfl (.putReturn bytes) ?_
    rw [← h.items, List.append_assoc]
    rfl
  | putReturn bytes =>
    simp only [Squeue.go, hpc, Option.some.injEq] at hgo
    subst hgo
    exact hquiet (.putCount bytes) (by simp [event, State.goto])
  | putCount bytes =>
    simp only [Squeue.go, hpc, Option.some.injEq] at hgo
    subst hgo
    have hevent : event s (.go v) (s.goto v (.putDone s.mem.queue.count)) = [.ret v .put] := by
      simp only [event, State.goto, Function.update_self]
    rw [hevent]
    exact Followed.ret h hop rfl (.putDone _) h.items
  | getWait hw =>
    rename_i wait wait₀
    simp only [Squeue.go, hpc] at hgo
    split at hgo
    · split at hgo
      · obtain rfl := Option.some.inj hgo
        exact hquiet (.getCount hw) (by simp [event, State.goto])
      · obtain rfl := Option.some.inj hgo
        -- the time limit stays positive
        exact hquiet (.getWait (by omega)) (by simp [event, State.goto])
    · obtain rfl := Option.some.inj hgo
      exact hquiet (.getCount hw) (by simp [event, State.goto])
  | getCount hw =>
    rename_i wait wait₀
    simp only [Squeue.go, hpc] at hgo
    split at hgo
    · obtain rfl := Option.some.inj hgo
      exact hquiet (.getEnter hw) (by simp [event, State.goto])
    · obtain rfl := Option.some.inj hgo
      have hevent : event s (.go v) (s.goto v (.getDone none 0)) = [.ret v (.got none 0)] := by
        simp only [event, State.goto, Function.update_self]
      rw [hevent]
      exact Followed.giveUp h hop (Or.inl ⟨rfl, Or.inl (hnil.mpr (by omega))⟩)
  | getEnter hw =>
    rename_i wait wait₀
    simp only [Squeue.go, hpc] at hgo
    split at hgo
    · rename_i hzero
      obtain rfl := Option.some.inj hgo
      have hevent : event s (.go v) (s.goto v (noData wait)) =
          [.ret v (.got none (if wait < 0 then -2 else 0))] := by
        simp only [event, State.goto, Function.update_self, noData]
      rw [hevent]
      exact Followed.giveUp h hop (comesBackEmpty_noData hw (Or.inl (hnil.mpr hzero)))
    · obtain rfl := Option.some.inj hgo
      exact hquiet (.getLock hw) (by simp [event, State.goto])
  | getLock hw => exact Followed.getLock hs h hpc hop hw hgo
  | getData sd item wait₀ =>
    simp only [Squeue.go, hpc, Option.some.injEq] at hgo
    subst hgo
    have hhand : (s.pc v).node = some (sd, item) := by
      rw [hpc]
      rfl
    obtain ⟨-, parent, hnode⟩ := hs.owned hhand
    have hdata : s.mem.data sd = item := Memory.data_eq hnode
    have hsize : ((s.mem.nodes sd).map SQData.size).getD 0 = item.length := by
      rw [hnode]
      rfl
    rw [hdata, hsize]
    have hevent : ∀ mem, event s (.go v) { s.goto v (.getDone (some item) item.length) with
        mem := mem } = [.ret v (.got (some item) item.length)] := by
      intro mem
      simp only [event, State.goto, Function.update_self]
    rw [hevent]
    exact Followed.ret h hop rfl (.getDone _ _) h.items

/-- **The abstract queue follows every step of every thread.** -/
theorem Followed.step (hs : Holds que s ns) (h : Abstracts s t) {a : Act α}
    (hstep : step que s a = some s') : Followed s' t (event s a s') := by
  cases a with
  | callPut v bytes =>
    obtain ⟨hfree, rfl⟩ : _ ∧ s.goto v (.putNew bytes) = s' := by simpa [Squeue.step] using hstep
    exact Followed.call h hfree (.putNew bytes)
  | callGet v wait =>
    obtain ⟨hfree, rfl⟩ : _ ∧ s.goto v (.getWait wait) = s' := by simpa [Squeue.step] using hstep
    exact Followed.call h hfree (.getWait Iff.rfl)
  | alloc v sd =>
    simp only [Squeue.step] at hstep
    split at hstep
    · rename_i bytes hpc
      split at hstep
      · obtain rfl := Option.some.inj hstep
        have hstage := h.threads v
        rw [hpc] at hstage
        generalize hop : t.status v = x at hstage
        cases hstage with
        | putNew =>
          have hgoto : Abstracts (s.goto v (.putLock sd bytes)) t :=
            h.goto (hop ▸ .putLock sd bytes)
          exact CanFollow.stay ⟨hgoto.items, hgoto.threads⟩
      · simp at hstep
    · simp at hstep
  | timeout v =>
    simp only [Squeue.step] at hstep
    split at hstep
    · rename_i wait hpc
      split at hstep
      · rename_i hwait
        obtain rfl := Option.some.inj hstep
        have hstage := h.threads v
        rw [hpc] at hstage
        generalize hop : t.status v = x at hstage
        cases hstage with
        | getLock hw =>
          have hevent : event s (.timeout v) (s.goto v (noData wait)) =
              [.ret v (.got none (if wait < 0 then -2 else 0))] := by
            simp only [event, State.goto, Function.update_self, noData]
          rw [hevent]
          exact Followed.giveUp h hop (comesBackEmpty_noData hw (Or.inr hwait))
      · simp at hstep
    · simp at hstep
  | go v => exact Followed.go hs h hstep

/-- **The queue is linearizable under any interleaving**, as long as `_count` is not incremented beyond
the range of `int`. The calls and returns of the threads are those of a run of the abstract queue, in
which every operation takes place in one step between its call and its return; in the order of these
steps the operations, with their results, are a history of a FIFO queue. -/
theorem linearizable (que : Ptr) (acts : List (Act α)) (s : State α)
    (hfits : Guarded (step que) CountFits State.init acts)
    (hrun : run (step que) State.init acts = some s) :
    ∃ bs t, run (Atomic.step fifoQueue) (.init []) bs = some t ∧
      trace (Atomic.step fifoQueue) Atomic.event (.init []) bs =
        trace (step que) event State.init acts ∧
      run fifoQueue.play [] (trace (Atomic.step fifoQueue) Atomic.effects (.init []) bs) =
        some t.obj ∧
      s.removed ++ t.obj = s.inserted := by
  have hsim : Simulation (step que) event CountFits (Atomic.step fifoQueue) Atomic.event
      fun (s : State α) t => (∃ ns, Holds que s ns) ∧ Abstracts s t := by
    rintro s t a s' ⟨⟨ns, hs⟩, h⟩ hfits hstep
    obtain ⟨ns', hs', -⟩ := hs.step hfits hstep
    exact (Followed.step hs h hstep).imp fun u hu => ⟨⟨ns', hs'⟩, hu⟩
  obtain ⟨bs, t, hbs, ⟨-, h⟩, htrace⟩ :=
    hsim.run ⟨⟨[], Holds.init⟩, Abstracts.init⟩ hfits hrun
  exact ⟨bs, t, hbs, htrace, Atomic.effects_legal hbs, h.items⟩

/-- The call that put first returns after the get, and so do the two that put after it. -/
def putsAndGetReturned : List (Act UInt8) := putsAndGet ++ [.go 0, .go 0, .go 2, .go 2]

theorem putsAndGetReturned_linearizable :
    ∃ s, run (step 1) State.init putsAndGetReturned = some s ∧
      trace (step 1) event State.init putsAndGetReturned =
        [.call 0 (.put [7, 8]), .call 2 (.put [9]), .call 1 (.get 5), .ret 2 .put,
          .call 2 (.put [10]), .ret 1 (.got (some [9]) 1), .ret 0 .put, .ret 2 .put] ∧
      ∃ bs t, run (Atomic.step fifoQueue) (.init []) bs = some t ∧
        trace (Atomic.step fifoQueue) Atomic.event (.init []) bs =
          trace (step 1) event State.init putsAndGetReturned ∧
        run fifoQueue.play [] (trace (Atomic.step fifoQueue) Atomic.effects (.init []) bs) =
          some t.obj ∧
        s.removed ++ t.obj = s.inserted :=
  ⟨_, rfl, rfl, linearizable 1 putsAndGetReturned _ (guarded_of_short Holds.init (by decide)) rfl⟩

end SiDaqApi.Squeue
