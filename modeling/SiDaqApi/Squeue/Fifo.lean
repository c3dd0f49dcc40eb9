import SiDaqApi.Squeue.Basic
import SiDaqApi.Lib.Linked

/-!
# The queue is first in, first out

`Rep` says that the memory represents a queue of nodes; `quePut_rep` and `queGet_rep` are the two
locked regions on it. `Holds` adds what the threads own outside the lock, and is kept by every step
of every thread, so that it holds in every reachable state (`fifo`), whatever the interleaving.

`_count` is an `int`: it counts the nodes as long as it is never incremented beyond its range.
-/

namespace SiDaqApi.Squeue

open MachineInt Machine Linked

variable {α : Type*}

/-! ## Writing to nodes -/

theorem Memory.nodes_modify (m : Memory α) (a b : Ptr) (f : SQData α → SQData α) :
    (m.modify a f).nodes b = if b = a then (m.nodes a).map f else m.nodes b := by
  simp [Memory.modify, Function.update_apply]

theorem Memory.next_eq {m : Memory α} {a : Ptr} {d : SQData α} (h : m.nodes a = some d) :
    m.next a = d.next := by
  simp [Memory.next, h]

theorem Memory.prev_eq {m : Memory α} {a : Ptr} {d : SQData α} (h : m.nodes a = some d) :
    m.prev a = d.prev := by
  simp [Memory.prev, h]

theorem Memory.data_eq {m : Memory α} {a : Ptr} {d : SQData α} (h : m.nodes a = some d) :
    m.data a = d.data := by
  simp [Memory.data, h]

@[simp] theorem Memory.queue_modify (m : Memory α) (a : Ptr) (f : SQData α → SQData α) :
    (m.modify a f).queue = m.queue := rfl

@[simp] theorem Memory.queue_modify? (m : Memory α) (o : Option Ptr)
    (f : SQData α → SQData α) : (m.modify? o f).queue = m.queue := by
  cases o <;> rfl

@[simp] theorem Memory.queue_setQueue (m : Memory α) (f : SQueue → SQueue) :
    (m.setQueue f).queue = f m.queue := rfl

@[simp] theorem Memory.nodes_setQueue (m : Memory α) (f : SQueue → SQueue) :
    (m.setQueue f).nodes = m.nodes := rfl

theorem Memory.nodes_modify? (m : Memory α) (o : Option Ptr) (b : Ptr)
    (f : SQData α → SQData α) :
    (m.modify? o f).nodes b = if o = some b then (m.nodes b).map f else m.nodes b := by
  cases o with
  | none => simp [Memory.modify?]
  | some a =>
    rw [Memory.modify?, Memory.nodes_modify]
    by_cases hb : b = a
    · simp [hb]
    · simp [hb, Ne.symm hb]

/-- The nodes after `_sque_put`: the new one is filled, the old last one linked to it. -/
theorem quePut_nodes (que : Ptr) {m : Memory α} {sd : Ptr} (h : m.queue.last ≠ some sd) (b : Ptr) :
    (quePut que m sd).nodes b =
      if b = sd then
        (m.nodes sd).map fun d => { d with parent := some que, prev := m.queue.last }
      else if m.queue.last = some b then (m.nodes b).map fun d => { d with next := some sd }
      else m.nodes b := by
  simp only [quePut, Memory.nodes_setQueue, Memory.nodes_modify?, Memory.nodes_modify]
  by_cases hb : b = sd
  · subst hb
    simp only [if_neg h, if_true]
  · simp only [if_neg hb]

theorem quePut_queue (que : Ptr) (m : Memory α) (sd : Ptr) :
    (quePut que m sd).queue = ⟨if m.queue.top = none then some sd else m.queue.top, some sd,
      wrap32 (m.queue.count + 1)⟩ := by
  simp only [quePut, Memory.queue_setQueue, Memory.queue_modify?, Memory.queue_modify]
  split <;> rfl

/-- `_sque_get` when there is a first node: it is cut off, its successor becomes the first. -/
theorem queGet_some {m : Memory α} {ret : Ptr} (htop : m.queue.top = some ret)
    (hne : m.next ret ≠ some ret) :
    ∃ m', queGet m = (some ret, m') ∧
      (∀ b, m'.nodes b =
        if b = ret then
          (m.nodes ret).map fun d => { d with parent := none, next := none, prev := none }
        else if m.next ret = some b then (m.nodes b).map fun d => { d with prev := none }
        else m.nodes b) ∧
      m'.queue = if wrap32 (m.queue.count - 1) = 0 then ⟨none, none, wrap32 (m.queue.count - 1)⟩
        else ⟨m.next ret, m.queue.last, wrap32 (m.queue.count - 1)⟩ := by
  simp only [queGet, htop]
  refine ⟨_, rfl, fun b => ?_, ?_⟩
  · simp only [Memory.nodes_setQueue, Memory.nodes_modify?, Memory.nodes_modify,
      Memory.queue_setQueue]
    by_cases hb : b = ret
    · subst hb
      simp only [if_neg hne, if_true, Option.map_map, Function.comp_def]
    · simp only [if_neg hb]
  · simp only [Memory.queue_setQueue, Memory.queue_modify?, Memory.queue_modify]

/-! ## The represented queue -/

/-- The memory holds the queue at address `que` with these nodes, first to last. -/
structure Rep (que : Ptr) (m : Memory α) (ns : List Ptr) : Prop where
  linked : DList m.next m.prev m.queue.top m.queue.last ns
  count : m.queue.count = wrap32 ns.length
  node : ∀ a ∈ ns, ∃ d, m.nodes a = some d ∧ d.parent = some que ∧ d.size = d.data.length

/-- The node at `a` is in nobody's list, and holds `item`. -/
def Owned (m : Memory α) (a : Ptr) (item : List α) : Prop :=
  ∃ parent, m.nodes a = some ⟨parent, none, none, item.length, item⟩

variable {que : Ptr} {m : Memory α} {ns : List Ptr} {sd : Ptr} {item : List α}

theorem Rep.last_mem (h : Rep que m ns) {a : Ptr} (ha : m.queue.last = some a) : a ∈ ns := by
  rw [h.linked.last_eq] at ha
  exact List.mem_of_getLast? ha

/-- A node that is not in the list, and not the new one, is untouched by `_sque_put`. -/
theorem Rep.quePut_frame (h : Rep que m ns) (hsd : sd ∉ ns) {b : Ptr} (hb : b ∉ ns) (hne : b ≠ sd) :
    (quePut que m sd).nodes b = m.nodes b := by
  rw [quePut_nodes que fun hl => hsd (h.last_mem hl), if_neg hne,
    if_neg fun hl => hb (h.last_mem hl)]

/-- `_sque_put` moves no bytes. -/
theorem Rep.quePut_data (h : Rep que m ns) (hsd : sd ∉ ns) (b : Ptr) :
    (quePut que m sd).data b = m.data b := by
  rw [Memory.data, Memory.data, quePut_nodes que fun hl => hsd (h.last_mem hl)]
  split
  · rename_i heq
    subst heq
    rw [Option.map_map]
    rfl
  · split
    · rw [Option.map_map]
      rfl
    · rfl

/-- A free address is not that of a node of the queue. -/
theorem Rep.ne_of_free (h : Rep que m ns) (hfree : m.nodes sd = none) {b : Ptr} (hb : b ∈ ns) :
    b ≠ sd := by
  rintro rfl
  obtain ⟨d, hnode, -⟩ := h.node b hb
  simp [hfree] at hnode

theorem Memory.nodes_alloc_of_ne (m : Memory α) (d : SQData α) {b : Ptr} (hb : b ≠ sd) :
    (m.alloc sd d).nodes b = m.nodes b :=
  Function.update_of_ne hb _ _

theorem owned_alloc (m : Memory α) (sd : Ptr) (bytes : List α) :
    Owned (m.alloc sd (newSQData bytes)) sd bytes :=
  ⟨none, Function.update_self _ _ _⟩

/-- A new node does not disturb the queue. -/
theorem Rep.alloc (h : Rep que m ns) (hfree : m.nodes sd = none) {d : SQData α} :
    Rep que (m.alloc sd d) ns := by
  have hsame : ∀ b ∈ ns, (m.alloc sd d).nodes b = m.nodes b := fun b hb =>
    Memory.nodes_alloc_of_ne m d (h.ne_of_free hfree hb)
  refine ⟨h.linked.congr (fun x hx => ?_) fun x hx => ?_, h.count, fun b hb => ?_⟩
  · simp only [Memory.next, hsame x hx]
  · simp only [Memory.prev, hsame x hx]
  · rw [hsame b hb]
    exact h.node b hb

/-- `_sque_put` appends its node to the queue. -/
theorem Rep.quePut (h : Rep que m ns) (hsd : sd ∉ ns) (ho : Owned m sd item) :
    Rep que (quePut que m sd) (ns ++ [sd]) := by
  have hlast : m.queue.last ≠ some sd := fun hl => hsd (h.last_mem hl)
  have hnodes := quePut_nodes que hlast
  obtain ⟨parent, hd⟩ := ho
  have hnew : (SiDaqApi.Squeue.quePut que m sd).nodes sd =
      some ⟨some que, none, m.queue.last, item.length, item⟩ := by
    rw [hnodes, if_pos rfl, hd]
    rfl
  refine ⟨?_, ?_, ?_⟩
  · rw [quePut_queue]
    refine h.linked.pushBack hsd (Memory.next_eq hnew) ?_ (Memory.prev_eq hnew) ?_ ?_
    · -- the old last node
      intro l hl
      obtain ⟨d, hnode, -, -⟩ := h.node l (h.last_mem hl)
      have hne : l ≠ sd := fun heq => hlast (heq ▸ hl)
      have hl' : (SiDaqApi.Squeue.quePut que m sd).nodes l = some { d with next := some sd } := by
        rw [hnodes, if_neg hne, if_pos hl, hnode]
        rfl
      exact Memory.next_eq hl'
    · -- the nodes before it keep their links
      intro x hx hxl
      have hne : x ≠ sd := fun heq => hsd (heq ▸ hx)
      rw [Memory.next, hnodes, if_neg hne, if_neg hxl]
      rfl
    · intro x hx
      have hne : x ≠ sd := fun heq => hsd (heq ▸ hx)
      obtain ⟨d, hnode, -, -⟩ := h.node x hx
      rw [Memory.prev, Memory.prev, hnodes, if_neg hne, hnode]
      split <;> rfl
  · rw [quePut_queue]
    simp only [h.count, List.length_append, List.length_singleton]
    unfold wrap32
    push_cast
    omega
  · intro a ha
    rcases List.mem_append.mp ha with ha | ha
    · have hne : a ≠ sd := fun heq => hsd (heq ▸ ha)
      obtain ⟨d, hnode, hparent, hsize⟩ := h.node a ha
      rw [hnodes, if_neg hne, hnode]
      split
      · exact ⟨_, rfl, hparent, hsize⟩
      · exact ⟨_, rfl, hparent, hsize⟩
    · obtain rfl := List.mem_singleton.mp ha
      exact ⟨_, hnew, rfl, rfl⟩

/-- On an empty queue `_sque_get` does nothing. -/
theorem Rep.queGet_nil (h : Rep que m []) : queGet m = (none, m) := by
  have htop : m.queue.top = none := h.linked.forward
  simp only [queGet, htop]

/-- `_sque_get` takes the first node off the queue, and moves no bytes. -/
theorem Rep.queGet_cons {a : Ptr} {as : List Ptr} (h : Rep que m (a :: as))
    (hlen : as.length < 2147483647) :
    ∃ m', queGet m = (some a, m') ∧ Rep que m' as ∧ Owned m' a (m.data a) ∧
      (∀ b, m'.data b = m.data b) ∧ ∀ b, b ∉ a :: as → m'.nodes b = m.nodes b := by
  obtain ⟨d, hnode, -, hsize⟩ := h.node a List.mem_cons_self
  have hnodup := List.nodup_cons.mp h.linked.nodup
  have hnext : ∀ b, m.next a = some b → b ∈ as := by
    intro b hb
    have htop := h.linked.forward.2
    rcases as with _ | ⟨c, cs⟩
    · rw [seg_nil, hb] at htop
      exact absurd htop (by simp)
    · rw [seg_cons, hb] at htop
      exact Option.some.inj htop.1 ▸ List.mem_cons_self
  obtain ⟨m', hget, hnodes, hqueue⟩ :=
    queGet_some h.linked.forward.1 fun hself => hnodup.1 (hnext a hself)
  have hret : m'.nodes a = some { d with parent := none, next := none, prev := none } := by
    rw [hnodes, if_pos rfl, hnode]
    rfl
  have hrest : ∀ b ∈ as, b ≠ a := fun b hb heq => hnodup.1 (heq ▸ hb)
  have hcount : wrap32 (m.queue.count - 1) = wrap32 as.length := by
    rw [h.count, List.length_cons]
    unfold wrap32
    push_cast
    omega
  refine ⟨m', hget, ⟨?_, ?_, ?_⟩, ?_, ?_, ?_⟩
  · -- the count is zero exactly when there is no other node
    have hzero : wrap32 (as.length : ℤ) = 0 ↔ as = [] := by
      rw [wrap32_of_range (by omega) (by omega), ← List.length_eq_zero_iff]
      omega
    -- the second node becomes the first, without a predecessor
    have hlist : DList m'.next m'.prev (m.next a) (if as = [] then none else m.queue.last) as := by
      refine h.linked.popFront (fun b hb => ?_) (fun x hx => ?_) fun x hx hne => ?_
      · have hmem := hnext b hb
        obtain ⟨e, hnode', -, -⟩ := h.node b (List.mem_cons_of_mem a hmem)
        rw [Memory.prev, hnodes, if_neg (hrest b hmem), if_pos hb, hnode']
        rfl
      · rw [Memory.next, Memory.next, hnodes, if_neg (hrest x hx)]
        split
        · cases m.nodes x <;> rfl
        · rfl
      · rw [Memory.prev, hnodes, if_neg (hrest x hx), if_neg hne]
        rfl
    rw [hqueue, hcount]
    -- the code clears `last` by the count, which is the length only as long as it fits
    by_cases has : as = []
    · rw [if_pos (hzero.mpr has)]
      rw [if_pos has] at hlist
      have htop : m.next a = none := by
        have hforward := h.linked.forward.2
        rwa [has] at hforward
      rwa [htop] at hlist
    · rw [if_neg (fun hc => has (hzero.mp hc))]
      rwa [if_neg has] at hlist
  · rw [hqueue]
    split <;> exact hcount
  · intro b hb
    obtain ⟨e, hnode', hparent, hsize'⟩ := h.node b (List.mem_cons_of_mem a hb)
    rw [hnodes, if_neg (hrest b hb), hnode']
    split
    · exact ⟨_, rfl, hparent, hsize'⟩
    · exact ⟨_, rfl, hparent, hsize'⟩
  · -- the node that was taken has lost its links and its owner
    refine ⟨none, ?_⟩
    rw [hret, Memory.data_eq hnode, ← hsize]
  · intro b
    by_cases hb : b = a
    · rw [hb, Memory.data_eq hret, Memory.data_eq hnode]
    · rw [Memory.data, Memory.data, hnodes, if_neg hb]
      split
      · rw [Option.map_map]
        rfl
      · rfl
  · intro b hb
    rw [List.mem_cons, not_or] at hb
    obtain ⟨hne, hnot⟩ := hb
    rw [hnodes, if_neg hne, if_neg fun heq => hnot (hnext b heq)]

/-! ## The system -/

/-- The node a thread has outside the lock, and the bytes it put there or took out. -/
def Pc.node : Pc α → Option (Ptr × List α)
  | .putLock sd bytes => some (sd, bytes)
  | .getData sd item => some (sd, item)
  | _ => none

/-- The invariant, for the nodes `ns` in the queue. -/
structure Holds (que : Ptr) (s : State α) (ns : List Ptr) : Prop where
  rep : Rep que s.mem ns
  fits : ns.length < 2147483648
  fifo : s.removed ++ ns.map s.mem.data = s.inserted
  owned : ∀ {t a item}, (s.pc t).node = some (a, item) → a ∉ ns ∧ Owned s.mem a item
  disjoint : ∀ {t t' a item item'}, (s.pc t).node = some (a, item) →
    (s.pc t').node = some (a, item') → t = t'

variable {s s' : State α}

@[simp] theorem State.goto_inserted (s : State α) (t : ℕ) (c : Pc α) :
    (s.goto t c).inserted = s.inserted := rfl

@[simp] theorem State.goto_removed (s : State α) (t : ℕ) (c : Pc α) :
    (s.goto t c).removed = s.removed := rfl

/-- The node of a thread after thread `t` went on at `c`. -/
theorem State.goto_node (s : State α) (t : ℕ) (c : Pc α) (u : ℕ) :
    ((s.goto t c).pc u).node = if u = t then c.node else (s.pc u).node := by
  simp only [State.goto, Function.update_apply]
  split <;> rfl

theorem Rep.init (que : Ptr) : Rep que (State.init : State α).mem [] :=
  ⟨DList.nil, rfl, by simp⟩

theorem Holds.init : Holds que (State.init : State α) [] where
  rep := Rep.init que
  fits := by simp
  fifo := rfl
  owned := by simp [State.init, Pc.node]
  disjoint := by simp [State.init, Pc.node]

/-- A step on the thread's own variables. -/
theorem Holds.goto (h : Holds que s ns) (t : ℕ) {c : Pc α} (hc : c.node = none) :
    Holds que (s.goto t c) ns where
  rep := h.rep
  fits := h.fits
  fifo := h.fifo
  owned := by
    intro u a item hu
    rw [State.goto_node] at hu
    split at hu
    · simp [hc] at hu
    · exact h.owned hu
  disjoint := by
    intro u u' a item item' hu hu'
    rw [State.goto_node] at hu hu'
    split at hu
    · simp [hc] at hu
    · split at hu'
      · simp [hc] at hu'
      · exact h.disjoint hu hu'

/-- A step that changes the memory, and may put a node into the thread's hand: what it does to the
queue, to the node in hand and to the nodes of the other threads. -/
theorem Holds.update (h : Holds que s ns) {t : ℕ} {c : Pc α} {m : Memory α} {ns' : List Ptr}
    {inserted removed : List (List α)} (hrep : Rep que m ns') (hfits : ns'.length < 2147483648)
    (hfifo : removed ++ ns'.map m.data = inserted)
    (hhand : ∀ a item, c.node = some (a, item) → a ∉ ns' ∧ Owned m a item ∧
      ∀ u item', u ≠ t → (s.pc u).node ≠ some (a, item'))
    (hothers : ∀ u a item, u ≠ t → (s.pc u).node = some (a, item) →
      a ∉ ns' ∧ m.nodes a = s.mem.nodes a) :
    Holds que { s.goto t c with mem := m, inserted := inserted, removed := removed } ns' where
  rep := hrep
  fits := hfits
  fifo := hfifo
  owned := by
    intro u a item hu
    change ((s.goto t c).pc u).node = _ at hu
    rw [State.goto_node] at hu
    split at hu
    · -- the thread that moved; the others hold what they held
      exact ⟨(hhand a item hu).1, (hhand a item hu).2.1⟩
    · rename_i hne
      obtain ⟨hnot, hsame⟩ := hothers u a item hne hu
      refine ⟨hnot, ?_⟩
      obtain ⟨parent, hnode⟩ := (h.owned hu).2
      exact ⟨parent, hsame.trans hnode⟩
  disjoint := by
    intro u u' a item item' hu hu'
    change ((s.goto t c).pc u).node = _ at hu
    change ((s.goto t c).pc u').node = _ at hu'
    rw [State.goto_node] at hu hu'
    split at hu <;> split at hu'
    · simp_all
    · rename_i hne
      exact absurd hu' ((hhand a item hu).2.2 u' item' hne)
    · rename_i hne _
      exact absurd hu ((hhand a item' hu').2.2 u item hne)
    · exact h.disjoint hu hu'

/-- The call is made while the `int` `_count` can be incremented. -/
def CountFits (s : State α) (a : Act α) : Prop :=
  ∀ t sd bytes, a = .go t → s.pc t = .putLock sd bytes → s.mem.queue.count < 2147483647

theorem Holds.count_eq (h : Holds que s ns) : s.mem.queue.count = ns.length := by
  have hfits := h.fits
  rw [h.rep.count, wrap32_of_range (by omega) (by omega)]

/-- The locked region of a put. -/
theorem Holds.put (h : Holds que s ns) {t : ℕ} {bytes : List α} (hpc : s.pc t = .putLock sd bytes)
    (hcount : s.mem.queue.count < 2147483647) :
    Holds que { s.goto t .putReturn with
      mem := quePut que s.mem sd, inserted := s.inserted ++ [bytes] } (ns ++ [sd]) := by
  have hnode : (s.pc t).node = some (sd, bytes) := by rw [hpc]; rfl
  obtain ⟨hsd, ho⟩ := h.owned hnode
  have hlen := h.count_eq
  refine h.update (h.rep.quePut hsd ho) ?_ ?_ (by simp [Pc.node]) ?_
  · rw [List.length_append, List.length_singleton]
    omega
  · -- the queue ends with the bytes of the new node
    obtain ⟨parent, hd⟩ := ho
    have hdata : ∀ b, (quePut que s.mem sd).data b = s.mem.data b := h.rep.quePut_data hsd
    rw [List.map_append, ← List.append_assoc, List.map_congr_left fun b _ => hdata b]
    simp only [State.goto_removed, h.fifo, List.map_cons, List.map_nil, hdata, Memory.data_eq hd]
  · intro u a item hne hu
    obtain ⟨hnot, -⟩ := h.owned hu
    have hasd : a ≠ sd := by
      rintro rfl
      exact hne (h.disjoint hu hnode)
    refine ⟨?_, h.rep.quePut_frame hsd hnot hasd⟩
    rw [List.mem_append, List.mem_singleton, not_or]
    exact ⟨hnot, hasd⟩

/-- The locked region of a get. -/
theorem Holds.get (h : Holds que s ns) {t : ℕ} {wait : ℤ} (hpc : s.pc t = .getLock wait)
    (hgo : go que s t = some s') :
    ∃ ns', Holds que s' ns' ∧ ns'.length ≤ ns.length + 1 := by
  simp only [go, hpc] at hgo
  rcases ns with _ | ⟨a, as⟩
  · rw [h.rep.queGet_nil, Option.some.injEq] at hgo
    subst hgo
    exact ⟨[], h.goto t rfl, by simp⟩
  · have hlen := h.fits
    rw [List.length_cons] at hlen
    obtain ⟨m', hget, hrep, ho, hdata, hframe⟩ := h.rep.queGet_cons (by omega)
    rw [hget, Option.some.injEq] at hgo
    subst hgo
    have hnodup := List.nodup_cons.mp h.rep.linked.nodup
    refine ⟨as, h.update hrep (by omega) ?_ ?_ ?_, by simp; omega⟩
    · rw [List.map_congr_left fun b _ => hdata b, State.goto_inserted, ← h.fifo]
      simp
    · -- the node is in the hand of this thread only: it was in the queue until now
      intro b item hb
      obtain ⟨rfl, rfl⟩ : a = b ∧ s.mem.data a = item := by simpa [Pc.node] using hb
      refine ⟨hnodup.1, ho, fun u item' _ hu => ?_⟩
      exact (h.owned hu).1 List.mem_cons_self
    · intro u b item _ hu
      have hnot := (h.owned hu).1
      exact ⟨fun hb => hnot (List.mem_cons_of_mem a hb), hframe b hnot⟩

/-- The thread's new node, allocated where there is none. -/
theorem Holds.alloc (h : Holds que s ns) {t : ℕ} {bytes : List α} (hfree : s.mem.nodes sd = none) :
    Holds que { s.goto t (.putLock sd bytes) with mem := s.mem.alloc sd (newSQData bytes) } ns := by
  have hothers : ∀ u a item, (s.pc u).node = some (a, item) → a ≠ sd := by
    rintro u a item hu rfl
    obtain ⟨-, parent, hnode⟩ := h.owned hu
    simp [hfree] at hnode
  refine h.update (h.rep.alloc hfree) h.fits ?_ ?_ ?_
  · have hdata : ∀ b ∈ ns, (s.mem.alloc sd (newSQData bytes)).data b = s.mem.data b := by
      intro b hb
      rw [Memory.data, Memory.data, Memory.nodes_alloc_of_ne _ _ (h.rep.ne_of_free hfree hb)]
    rw [List.map_congr_left hdata]
    exact h.fifo
  · intro a item ha
    obtain ⟨rfl, rfl⟩ : sd = a ∧ bytes = item := by simpa [Pc.node] using ha
    exact ⟨fun hmem => h.rep.ne_of_free hfree hmem rfl, owned_alloc _ _ _,
      fun u item' _ hu => hothers u _ _ hu rfl⟩
  · intro u a item _ hu
    exact ⟨(h.owned hu).1, Memory.nodes_alloc_of_ne _ _ (hothers u a item hu)⟩

/-- A node that was taken out is freed. -/
theorem Holds.delete (h : Holds que s ns) {t : ℕ} (hpc : s.pc t = .getData sd item) {c : Pc α}
    (hc : c.node = none) :
    Holds que { s.goto t c with mem := deleteSQData s.mem sd } ns := by
  have hnode : (s.pc t).node = some (sd, item) := by rw [hpc]; rfl
  obtain ⟨hsd, parent, hd⟩ := h.owned hnode
  -- `DeleteSQData` does not unlink, since the node has no links any more
  have hlinks : s.mem.next sd = none ∧ s.mem.prev sd = none :=
    ⟨Memory.next_eq hd, Memory.prev_eq hd⟩
  have hsame : ∀ b, b ≠ sd → (deleteSQData s.mem sd).nodes b = s.mem.nodes b := by
    intro b hb
    simp only [deleteSQData, if_pos hlinks, Function.update_of_ne hb]
  have hqueue : (deleteSQData s.mem sd).queue = s.mem.queue := by
    simp only [deleteSQData, if_pos hlinks]
  have hin : ∀ b ∈ ns, b ≠ sd := fun b hb heq => hsd (heq ▸ hb)
  refine h.update ⟨?_, ?_, ?_⟩ h.fits ?_ (by simp [hc]) ?_
  · rw [hqueue]
    refine h.rep.linked.congr (fun x hx => ?_) fun x hx => ?_
    · rw [Memory.next, Memory.next, hsame x (hin x hx)]
    · rw [Memory.prev, Memory.prev, hsame x (hin x hx)]
  · rw [hqueue]
    exact h.rep.count
  · intro b hb
    rw [hsame b (hin b hb)]
    exact h.rep.node b hb
  · have hdata : ∀ b ∈ ns, (deleteSQData s.mem sd).data b = s.mem.data b := by
      intro b hb
      rw [Memory.data, Memory.data, hsame b (hin b hb)]
    rw [List.map_congr_left hdata]
    exact h.fifo
  · intro u a item' hne hu
    refine ⟨(h.owned hu).1, hsame a ?_⟩
    rintro rfl
    exact hne (h.disjoint hu hnode)

/-- **Every step of every thread keeps the invariant**, and adds at most one node. -/
theorem Holds.step (h : Holds que s ns) {a : Act α} (hfits : CountFits s a)
    (hstep : step que s a = some s') :
    ∃ ns', Holds que s' ns' ∧ ns'.length ≤ ns.length + 1 := by
  cases a with
  | callPut t bytes =>
    obtain ⟨-, rfl⟩ : _ ∧ s.goto t (.putNew bytes) = s' := by simpa [Squeue.step] using hstep
    exact ⟨ns, h.goto t rfl, Nat.le_succ _⟩
  | callGet t wait =>
    obtain ⟨-, rfl⟩ : _ ∧ s.goto t (.getWait wait) = s' := by simpa [Squeue.step] using hstep
    exact ⟨ns, h.goto t rfl, Nat.le_succ _⟩
  | alloc t sd =>
    simp only [Squeue.step] at hstep
    split at hstep
    · split at hstep
      · rename_i hfree
        obtain rfl := Option.some.inj hstep
        exact ⟨ns, h.alloc hfree, Nat.le_succ _⟩
      · simp at hstep
    · simp at hstep
  | timeout t =>
    simp only [Squeue.step] at hstep
    split at hstep
    · split at hstep
      · obtain rfl := Option.some.inj hstep
        exact ⟨ns, h.goto t rfl, Nat.le_succ _⟩
      · simp at hstep
    · simp at hstep
  | go t =>
    simp only [Squeue.step] at hstep
    cases hpc : s.pc t with
    | putLock sd bytes =>
      simp only [go, hpc, Option.some.injEq] at hstep
      subst hstep
      exact ⟨ns ++ [sd], h.put hpc (hfits t sd bytes rfl hpc), by simp⟩
    | getLock wait => exact h.get hpc hstep
    | getData sd item =>
      simp only [go, hpc, Option.some.injEq] at hstep
      subst hstep
      exact ⟨ns, h.delete hpc rfl, Nat.le_succ _⟩
    | getWait wait =>
      simp only [go, hpc] at hstep
      refine ⟨ns, ?_, Nat.le_succ _⟩
      split at hstep
      · split at hstep <;> (obtain rfl := Option.some.inj hstep; exact h.goto t rfl)
      · obtain rfl := Option.some.inj hstep
        exact h.goto t rfl
    | getCount wait =>
      simp only [go, hpc] at hstep
      split at hstep <;> (obtain rfl := Option.some.inj hstep; exact ⟨ns, h.goto t rfl, Nat.le_succ _⟩)
    | getEnter wait =>
      simp only [go, hpc] at hstep
      split at hstep <;> (obtain rfl := Option.some.inj hstep; exact ⟨ns, h.goto t rfl, Nat.le_succ _⟩)
    | putReturn =>
      simp only [go, hpc, Option.some.injEq] at hstep
      subst hstep
      exact ⟨ns, h.goto t rfl, Nat.le_succ _⟩
    | putCount =>
      simp only [go, hpc, Option.some.injEq] at hstep
      subst hstep
      exact ⟨ns, h.goto t rfl, Nat.le_succ _⟩
    | idle => simp [go, hpc] at hstep
    | putNew bytes => simp [go, hpc] at hstep
    | putDone count => simp [go, hpc] at hstep
    | getDone data size => simp [go, hpc] at hstep

/-- What the queue looks like from outside: the nodes in both directions, their owner, their number,
and the empty queue. -/
structure Represents (que : Ptr) (m : Memory α) (ns : List Ptr) : Prop where
  nodup : ns.Nodup
  count : m.queue.count = ns.length
  forward : Seg m.next m.queue.top ns none
  last : m.queue.last = ns.getLast?
  backward : Seg m.prev m.queue.last ns.reverse none
  parent : ∀ a ∈ ns, (m.nodes a).map SQData.parent = some (some que)
  empty : m.queue.top = none ∧ m.queue.last = none ↔ m.queue.count = 0

theorem Holds.represents (h : Holds que s ns) : Represents que s.mem ns where
  nodup := h.rep.linked.nodup
  count := h.count_eq
  forward := h.rep.linked.forward
  last := h.rep.linked.last_eq
  backward := h.rep.linked.backward
  parent := by
    intro a ha
    obtain ⟨d, hnode, hparent, -⟩ := h.rep.node a ha
    rw [hnode, Option.map_some, hparent]
  empty := by
    rw [h.count_eq, h.rep.linked.top_eq, h.rep.linked.last_eq]
    cases ns with
    | nil => simp
    | cons a as =>
      simp
      omega

/-- **The queue is a FIFO under any interleaving**, as long as `_count` is not incremented beyond the
range of `int`: every reachable state holds a well-linked queue, and the items taken out, then those
in the queue, are the items put in. -/
theorem fifo (que : Ptr) (acts : List (Act α)) (s : State α)
    (hfits : Guarded (step que) CountFits State.init acts)
    (hrun : run (step que) State.init acts = some s) :
    ∃ ns, Represents que s.mem ns ∧ s.removed ++ ns.map s.mem.data = s.inserted := by
  have hstep : ∀ (s : State α) (a : Act α) (s' : State α), (∃ ns, Holds que s ns) →
      CountFits s a → step que s a = some s' → ∃ ns, Holds que s' ns := by
    rintro s a s' ⟨ns, h⟩ hfits hs
    obtain ⟨ns', h', -⟩ := h.step hfits hs
    exact ⟨ns', h'⟩
  obtain ⟨ns, h⟩ := run_invariant_of_guarded hstep ⟨[], Holds.init⟩ hfits hrun
  exact ⟨ns, h.represents, h.fifo⟩

/-- A run of fewer than `2^31` actions does not leave the range of `_count`. -/
theorem guarded_of_short (h : Holds que s ns) {acts : List (Act α)}
    (hlen : ns.length + acts.length < 2147483648) : Guarded (step que) CountFits s acts := by
  induction acts generalizing s ns with
  | nil => trivial
  | cons a acts ih =>
    rw [List.length_cons] at hlen
    have hfits : CountFits s a := by
      intro _ _ _ _ _
      have hcount := h.count_eq
      omega
    intro s' hstep
    obtain ⟨ns', h', hle⟩ := h.step hfits hstep
    exact ⟨hfits, ih h' (by omega)⟩

/-- Two threads put, and the one that called last is the first to get the lock. A third one gets an
item that was not there yet when it called. -/
def putsAndGet : List (Act UInt8) :=
  [.callPut 0 [7, 8], .callPut 2 [9], .callGet 1 5, .alloc 0 2, .alloc 2 3, .go 1, .go 2, .go 0,
    .go 2, .go 1, .go 2, .callPut 2 [10], .alloc 2 4, .go 1, .go 1, .go 1, .go 2, .go 1]

theorem fifo_putsAndGet :
    ∃ s, run (step 1) State.init putsAndGet = some s ∧ s.inserted = [[9], [7, 8], [10]] ∧
      s.removed = [[9]] ∧ s.pc 1 = .getDone (some [9]) 1 ∧
      ∃ ns, Represents 1 s.mem ns ∧ s.removed ++ ns.map s.mem.data = s.inserted :=
  ⟨_, rfl, rfl, rfl, rfl, fifo 1 putsAndGet _ (guarded_of_short Holds.init (by decide)) rfl⟩

/-! ## The range of `_count` -/

/-- The actions of a call of `SQPut` by thread 0, with its node at `a`. -/
def putActs (bytes : List α) (a : Ptr) : List (Act α) :=
  [.callPut 0 bytes, .alloc 0 a, .go 0, .go 0, .go 0]

/-- A call of `SQPut` that is not disturbed appends a node, whatever `_count` becomes. -/
theorem run_putActs (h : Rep que s.mem ns) (hfree : (s.pc 0).free) (bytes : List α) {a : Ptr}
    (ha : s.mem.nodes a = none) :
    ∃ s', run (step que) s (putActs bytes a) = some s' ∧ Rep que s'.mem (ns ++ [a]) ∧
      (s'.pc 0).free ∧ ∀ b, b ≠ a → s.mem.nodes b = none → s'.mem.nodes b = none := by
  let m₁ := s.mem.alloc a (newSQData bytes)
  have hnot : a ∉ ns := fun hmem => h.ne_of_free ha hmem rfl
  have hrep : Rep que m₁ ns := h.alloc ha
  have hrun : ∃ s', run (step que) s (putActs bytes a) = some s' ∧ s'.mem = quePut que m₁ a ∧
      (s'.pc 0).free := by
    simp only [putActs, run_cons, run_nil, Squeue.step, if_pos hfree, Option.bind_some, go,
      State.goto, Function.update_self, ha]
    exact ⟨_, rfl, rfl, rfl⟩
  obtain ⟨s', hs', hmem, hfree'⟩ := hrun
  refine ⟨s', hs', hmem ▸ hrep.quePut hnot (owned_alloc _ _ _), hfree', fun b hb hnone => ?_⟩
  have hb' : b ∉ ns := by
    intro hin
    obtain ⟨d, hnode, -⟩ := h.node b hin
    simp [hnone] at hnode
  rw [hmem, hrep.quePut_frame hnot hb' hb, Memory.nodes_alloc_of_ne _ _ hb, hnone]

/-- Any number of puts. -/
theorem run_puts (que : Ptr) (bytes : List α) (n : ℕ) :
    ∃ s ns, run (step que) State.init ((List.range n).flatMap (putActs bytes)) = some s ∧
      Rep que s.mem ns ∧ ns.length = n ∧ (s.pc 0).free ∧ ∀ b, n ≤ b → s.mem.nodes b = none := by
  induction n with
  | zero =>
    exact ⟨State.init, [], rfl, Rep.init que, rfl, rfl, fun _ _ => rfl⟩
  | succ n ih =>
    obtain ⟨s, ns, hrun, hrep, hlen, hfree, hnone⟩ := ih
    obtain ⟨s', hrun', hrep', hfree', hframe⟩ :=
      run_putActs hrep hfree bytes (hnone n (Nat.le_refl n))
    refine ⟨s', ns ++ [n], ?_, hrep', by simp [hlen], hfree', fun b hb => ?_⟩
    · rw [List.range_succ, List.flatMap_append, run_append, hrun]
      simpa using hrun'
    · exact hframe b (Nat.ne_of_gt hb) (hnone b (by omega))

/-- After `2^31` puts and no get, `_count` is negative: it is not the number of nodes. -/
theorem count_overflows :
    ∃ s, run (step 1) State.init ((List.range 2147483648).flatMap (putActs [(7 : UInt8)])) =
      some s ∧ ¬ ∃ ns, Represents 1 s.mem ns := by
  obtain ⟨s, ns, hrun, hrep, hlen, -⟩ := run_puts 1 [(7 : UInt8)] 2147483648
  refine ⟨s, hrun, ?_⟩
  rintro ⟨ns', hrep'⟩
  have hcount := hrep.count
  rw [hlen, hrep'.count] at hcount
  simp [wrap32] at hcount

end SiDaqApi.Squeue
