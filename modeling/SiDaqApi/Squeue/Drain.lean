import SiDaqApi.Squeue.Fifo

/-!
# The queue leaks nothing

Every node that is allocated is in the queue or in the hand of a thread inside a call, in every state
that any number of threads can reach (`nothing_leaks`). The loop with which `DeleteSQueue` and
`SiDaqResetQueue` empty a queue takes the items out one by one until `SQGet` returns `NULL`: when no
other thread is in a call, it frees every node (`drain_frees`).

`sqGet` is a call of `SQGet` that no other thread disturbs, in one piece.
-/

namespace SiDaqApi.Squeue

open MachineInt Machine Linked

variable {α : Type*}

/-! ## Undisturbed calls -/

/-- `SQGet`: the data, `data_size`, and the memory after it. The waiting loop is over. -/
def sqGet (m : Memory α) (wait : ℤ) : Option (List α) × ℤ × Memory α :=
  if m.queue.count > 0 then
    match queGet m with
    | (some sd, m') =>
      (some (m'.data sd), ((m'.nodes sd).map SQData.size).getD 0, deleteSQData m' sd)
    | (none, m') => (none, if wait < 0 then -2 else 0, m')
  else (none, 0, m)

/-- The loop of `DeleteSQueue` and of `SiDaqResetQueue` over `SQGet`, for at most `fuel` calls: the data
that it frees, and the memory after it; `none` when it is not through by then. -/
def drain : ℕ → Memory α → Option (List (List α) × Memory α)
  | 0, _ => none
  | fuel + 1, m =>
    match sqGet m (-1) with
    | (some data, _, m') => (drain fuel m').map fun r => (data :: r.1, r.2)
    | (none, _, m') => some ([], m')

/-- `SQDataNext`: the first node, or the one after `prev`. -/
def sqDataNext (m : Memory α) (prev : Option Ptr) : Option Ptr :=
  if m.queue.count = 0 then none
  else match prev with
    | none => m.queue.top
    | some p => m.next p

/-- `SQDataPtr`: the size and the data of a node. -/
def sqDataPtr (m : Memory α) (sd : Option Ptr) : Option (ℤ × List α) :=
  sd.bind fun a => (m.nodes a).map fun d => (d.size, d.data)

/-- A walk with `SQDataNext` from `prev` on, for at most `fuel` nodes, and what `SQDataPtr` shows. -/
def walk : ℕ → Memory α → Option Ptr → List (ℤ × List α)
  | 0, _, _ => []
  | fuel + 1, m, prev =>
    match sqDataNext m prev with
    | none => []
    | some a => (sqDataPtr m (some a)).toList ++ walk fuel m (some a)

section Undisturbed

variable {que : Ptr} {s : State α} {t : ℕ}

/-- **A call of `SQGet` that nobody disturbs is `sqGet`.** -/
theorem run_sqGet (hfree : (s.pc t).free) {wait : ℤ} (hwait : wait ≤ 1) :
    ∃ n s', run (step que) s (.callGet t wait :: List.replicate n (.go t)) = some s' ∧
      s'.mem = (sqGet s.mem wait).2.2 ∧
      s'.pc = Function.update s.pc t (.getDone (sqGet s.mem wait).1 (sqGet s.mem wait).2.1) := by
  have hnot : ¬ wait > 1 := by omega
  have hcall : ∀ as : List (Act α), run (step que) s (.callGet t wait :: .go t :: as) =
      run (step que) (s.goto t (.getCount wait)) as := by
    intro as
    rw [run_cons, step, if_pos hfree, Option.bind_some, run_cons]
    simp only [step, go, State.goto, Function.update_self, if_neg hnot, Function.update_idem,
      Option.bind_some]
  by_cases hcount : s.mem.queue.count > 0
  · have hzero : ¬ s.mem.queue.count = 0 := by omega
    rcases hget : queGet s.mem with ⟨_ | sd, m⟩
    · -- the queue has lost its nodes
      refine ⟨4, ?_⟩
      simp only [List.replicate_succ, List.replicate_zero, hcall, run_cons, run_nil, step, go,
        State.goto, Function.update_self, if_pos hcount, if_neg hzero, hget, Function.update_idem,
        Option.bind_some, sqGet, noData]
      exact ⟨_, rfl, rfl, rfl⟩
    · refine ⟨5, ?_⟩
      simp only [List.replicate_succ, List.replicate_zero, hcall, run_cons, run_nil, step, go,
        State.goto, Function.update_self, if_pos hcount, if_neg hzero, hget, Function.update_idem,
        Option.bind_some, sqGet]
      exact ⟨_, rfl, rfl, rfl⟩
  · refine ⟨2, ?_⟩
    simp only [List.replicate_succ, List.replicate_zero, hcall, run_cons, run_nil, step, go,
      State.goto, Function.update_self, if_neg hcount, Function.update_idem, Option.bind_some,
      sqGet]
    exact ⟨_, rfl, rfl, rfl⟩

end Undisturbed

section Represented

variable {que : Ptr} {m : Memory α} {ns as : List Ptr} {a sd : Ptr} {item : List α}

theorem Rep.unique {ns' : List Ptr} (h : Rep que m ns) (h' : Rep que m ns') : ns = ns' :=
  h.linked.forward.unique h'.linked.forward

/-- A node without links is freed, and nothing else is. -/
theorem deleteSQData_of_owned (ho : Owned m sd item) :
    (deleteSQData m sd).queue = m.queue ∧ (deleteSQData m sd).nodes sd = none ∧
      ∀ b, b ≠ sd → (deleteSQData m sd).nodes b = m.nodes b := by
  obtain ⟨parent, hd⟩ := ho
  have hlinks : m.next sd = none ∧ m.prev sd = none := ⟨Memory.next_eq hd, Memory.prev_eq hd⟩
  rw [deleteSQData, if_pos hlinks]
  exact ⟨rfl, Function.update_self _ _ _, fun b hb => Function.update_of_ne hb _ _⟩

/-- A node that is not in the queue is no loss to it. -/
theorem Rep.delete (h : Rep que m ns) (hsd : sd ∉ ns) (ho : Owned m sd item) :
    Rep que (deleteSQData m sd) ns := by
  obtain ⟨hqueue, -, hkeep⟩ := deleteSQData_of_owned ho
  have hsame : ∀ b ∈ ns, (deleteSQData m sd).nodes b = m.nodes b :=
    fun b hb => hkeep b (ne_of_mem_of_not_mem hb hsd)
  refine ⟨?_, hqueue ▸ h.count, fun b hb => ?_⟩
  · rw [hqueue]
    refine h.linked.congr (fun x hx => ?_) fun x hx => ?_
    · rw [Memory.next, Memory.next, hsame x hx]
    · rw [Memory.prev, Memory.prev, hsame x hx]
  · rw [hsame b hb]
    exact h.node b hb

theorem Rep.count_pos (h : Rep que m (a :: as)) (hlen : as.length < 2147483647) :
    m.queue.count > 0 := by
  rw [h.count, List.length_cons, wrap32_of_range (by omega) (by omega)]
  omega

/-- A call of `SQGet` hands the first item out and frees its node. -/
theorem Rep.sqGet_cons (h : Rep que m (a :: as)) (hlen : as.length < 2147483647) (wait : ℤ) :
    ∃ m', sqGet m wait = (some (m.data a), ((m.data a).length : ℤ), m') ∧ Rep que m' as ∧
      m'.nodes a = none ∧ (∀ b ∈ as, m'.data b = m.data b) ∧
      ∀ b, b ∉ a :: as → m'.nodes b = m.nodes b := by
  obtain ⟨m₁, hget, hrep, ho, hdata, hframe⟩ := h.queGet_cons hlen
  have hnot := (List.nodup_cons.mp h.linked.nodup).1
  obtain ⟨-, hfreed, hkeep⟩ := deleteSQData_of_owned ho
  refine ⟨deleteSQData m₁ a, ?_, hrep.delete hnot ho, hfreed, fun b hb => ?_, fun b hb => ?_⟩
  · obtain ⟨parent, hd⟩ := ho
    simp only [sqGet, if_pos (h.count_pos hlen), hget, hdata a, hd, Option.map_some,
      Option.getD_some]
  · rw [Memory.data, hkeep b (ne_of_mem_of_not_mem hb hnot)]
    exact hdata b
  · rw [hkeep b (ne_of_mem_of_not_mem List.mem_cons_self hb).symm, hframe b hb]

theorem Rep.sqGet_nil (h : Rep que m []) (wait : ℤ) : sqGet m wait = (none, 0, m) := by
  rw [sqGet, if_neg]
  rw [h.count]
  decide

/-- **The loop takes out all items in order, and frees their nodes.** -/
theorem Rep.drain (h : Rep que m ns) (hlen : ns.length < 2147483648) :
    ∃ m', drain (ns.length + 1) m = some (ns.map m.data, m') ∧ m'.queue = newSQueue ∧
      (∀ b ∈ ns, m'.nodes b = none) ∧ ∀ b, b ∉ ns → m'.nodes b = m.nodes b := by
  induction ns generalizing m with
  | nil =>
    refine ⟨m, by simp [Squeue.drain, h.sqGet_nil], ?_, by simp, fun _ _ => rfl⟩
    have htop : m.queue.top = none := h.linked.forward
    have hlast : m.queue.last = none := h.linked.last_eq
    have hcount : m.queue.count = 0 := h.count
    rw [show m.queue = ⟨m.queue.top, m.queue.last, m.queue.count⟩ from rfl, htop, hlast, hcount]
    rfl
  | cons a as ih =>
    rw [List.length_cons] at hlen
    obtain ⟨m₁, hget, hrep, hfreed, hdata, hframe⟩ := h.sqGet_cons (by omega) (-1)
    obtain ⟨m', hdrain, hqueue, hnone, hkeep⟩ := ih hrep (by omega)
    have hnot := (List.nodup_cons.mp h.linked.nodup).1
    refine ⟨m', ?_, hqueue, fun b hb => ?_, fun b hb => ?_⟩
    · rw [List.length_cons, Squeue.drain, hget]
      simp only [hdrain, Option.map_some, List.map_cons]
      rw [List.map_congr_left hdata]
    · rcases List.mem_cons.mp hb with rfl | hb
      · rw [hkeep b hnot, hfreed]
      · exact hnone b hb
    · rw [hkeep b fun hin => hb (List.mem_cons_of_mem a hin), hframe b hb]

/-- `SQDataNext` goes from every node to the one that was put after it. -/
theorem Rep.sqDataNext (h : Rep que m (as ++ ns)) (hlen : (as ++ ns).length < 2147483648) :
    sqDataNext m as.getLast? = ns.head? := by
  obtain ⟨o, hbefore, hafter⟩ := seg_append.mp h.linked.forward
  have ho : o = ns.head? := by
    cases ns with
    | nil => exact hafter
    | cons b bs => exact hafter.1
  unfold Squeue.sqDataNext
  split
  · rename_i hzero
    rw [h.count, wrap32_of_range (by omega) (by omega)] at hzero
    have hnil : as ++ ns = [] := List.eq_nil_of_length_eq_zero (by omega)
    rw [(List.append_eq_nil_iff.mp hnil).2]
    rfl
  · rcases as.eq_nil_or_concat with rfl | ⟨as, p, rfl⟩
    · exact (show m.queue.top = o from hbefore).trans ho
    · rw [List.concat_eq_append] at hbefore ⊢
      rw [List.getLast?_concat, ← ho]
      exact (seg_snoc.mp hbefore).2

/-- The walk shows the items of the queue in order. -/
theorem Rep.walk (h : Rep que m (as ++ ns)) (hlen : (as ++ ns).length < 2147483648) :
    walk (ns.length + 1) m as.getLast? = ns.map fun a => (((m.data a).length : ℤ), m.data a) := by
  induction ns generalizing as with
  | nil => simp [Squeue.walk, h.sqDataNext hlen]
  | cons b bs ih =>
    obtain ⟨d, hd, -, hsize⟩ := h.node b (by simp)
    have hnext := h.sqDataNext hlen
    have hrest := @ih (as ++ [b]) (by simpa using h) (by simpa using hlen)
    rw [List.getLast?_concat] at hrest
    rw [List.length_cons, Squeue.walk, hnext, List.head?_cons]
    simp only [hrest, sqDataPtr, hd, Option.bind_some, Option.map_some, Option.toList_some,
      List.map_cons, Memory.data_eq hd, hsize, List.singleton_append]

end Represented

/-! ## No node is lost -/

/-- Every node is in the queue or in the hand of a thread. -/
def Accounted (s : State α) (ns : List Ptr) : Prop :=
  ∀ a, s.mem.nodes a ≠ none → a ∈ ns ∨ ∃ t item, (s.pc t).node = some (a, item)

section Accounted

variable {que : Ptr} {s s' : State α} {ns : List Ptr} {t : ℕ}

/-- A thread that has no node goes on without one. -/
theorem Accounted.goto (h : Accounted s ns) (hpc : (s.pc t).node = none) (c : Pc α) :
    Accounted (s.goto t c) ns := by
  intro a ha
  rcases h a ha with hin | ⟨u, item, hu⟩
  · exact Or.inl hin
  · refine Or.inr ⟨u, item, ?_⟩
    rw [State.goto_node, if_neg]
    · exact hu
    · rintro rfl
      simp [hpc] at hu

/-- A step that changes the memory: where its nodes are, the node of the thread apart. -/
theorem Accounted.update (h : Accounted s ns) {c : Pc α} {m : Memory α} {ns' : List Ptr}
    {inserted removed : List (List α)}
    (hnew : ∀ a, m.nodes a ≠ none → s.mem.nodes a ≠ none ∨ a ∈ ns' ∨
      ∃ item, c.node = some (a, item))
    (hqueue : ∀ a ∈ ns, m.nodes a ≠ none → a ∈ ns' ∨ ∃ item, c.node = some (a, item))
    (hhand : ∀ a item, (s.pc t).node = some (a, item) → m.nodes a ≠ none →
      a ∈ ns' ∨ ∃ item, c.node = some (a, item)) :
    Accounted { s.goto t c with mem := m, inserted := inserted, removed := removed } ns' := by
  have hown : ∀ a, (∃ item, c.node = some (a, item)) →
      ∃ u item, ((s.goto t c).pc u).node = some (a, item) := by
    rintro a ⟨item, hc⟩
    refine ⟨t, item, ?_⟩
    rw [State.goto_node, if_pos rfl]
    exact hc
  intro a ha
  have ha : m.nodes a ≠ none := ha
  rcases hnew a ha with hold | hin | hc
  · rcases h a hold with hin | ⟨u, item, hu⟩
    · exact (hqueue a hin ha).imp_right (hown a)
    · by_cases hut : u = t
      · subst hut
        exact (hhand a item hu ha).imp_right (hown a)
      · refine Or.inr ⟨u, item, ?_⟩
        show ((s.goto t c).pc u).node = _
        rw [State.goto_node, if_neg hut]
        exact hu
  · exact Or.inl hin
  · exact Or.inr (hown a hc)

/-- `_sque_put` allocates nothing. -/
theorem quePut_nodes_ne (que : Ptr) {m : Memory α} {sd : Ptr} (h : m.queue.last ≠ some sd) {b : Ptr}
    (hb : (quePut que m sd).nodes b ≠ none) : m.nodes b ≠ none := by
  intro hnone
  rw [quePut_nodes que h] at hb
  split at hb
  · rename_i heq
    rw [← heq, hnone] at hb
    exact hb rfl
  · split at hb
    · rw [hnone] at hb
      exact hb rfl
    · exact hb hnone

/-- **Every step of every thread accounts for all nodes.** -/
theorem Holds.accounted_step (h : Holds que s ns) (hacc : Accounted s ns) {a : Act α}
    (hfits : CountFits s a) (hstep : Squeue.step que s a = some s') :
    ∃ ns', Holds que s' ns' ∧ Accounted s' ns' := by
  obtain ⟨ns₁, h₁, -⟩ := h.step hfits hstep
  cases a with
  | callPut t bytes =>
    obtain ⟨hfree, rfl⟩ : _ ∧ s.goto t (.putNew bytes) = s' := by simpa [Squeue.step] using hstep
    refine ⟨ns, h.goto t rfl, hacc.goto ?_ _⟩
    cases hpc : s.pc t <;> first | rfl | simp [hpc, Pc.free] at hfree
  | callGet t wait =>
    obtain ⟨hfree, rfl⟩ : _ ∧ s.goto t (.getWait wait) = s' := by simpa [Squeue.step] using hstep
    refine ⟨ns, h.goto t rfl, hacc.goto ?_ _⟩
    cases hpc : s.pc t <;> first | rfl | simp [hpc, Pc.free] at hfree
  | alloc t sd =>
    simp only [Squeue.step] at hstep
    split at hstep
    · rename_i bytes hpc
      split at hstep
      · rename_i hnone
        obtain rfl := Option.some.inj hstep
        refine ⟨ns, h.alloc hnone, hacc.update (fun b hb => ?_) (fun b hb _ => Or.inl hb) ?_⟩
        · by_cases hbsd : b = sd
          · exact Or.inr (Or.inr ⟨bytes, by rw [hbsd]; rfl⟩)
          · left
            rwa [Memory.nodes_alloc_of_ne _ _ hbsd] at hb
        · intro b item hb
          simp [hpc, Pc.node] at hb
      · simp at hstep
    · simp at hstep
  | timeout t =>
    simp only [Squeue.step] at hstep
    split at hstep
    · rename_i wait hpc
      split at hstep
      · obtain rfl := Option.some.inj hstep
        exact ⟨ns, h.goto t rfl, hacc.goto (by rw [hpc]; rfl) _⟩
      · simp at hstep
    · simp at hstep
  | go t =>
    simp only [Squeue.step] at hstep
    cases hpc : s.pc t with
    | putLock sd bytes =>
      have hput := h.put hpc (hfits t sd bytes rfl hpc)
      have hlast : s.mem.queue.last ≠ some sd :=
        fun hl => (h.owned (by rw [hpc]; rfl)).1 (h.rep.last_mem hl)
      simp only [go, hpc, Option.some.injEq] at hstep
      subst hstep
      refine ⟨ns ++ [sd], hput, hacc.update (fun b hb => Or.inl (quePut_nodes_ne que hlast hb))
        (fun b hb _ => Or.inl (List.mem_append_left _ hb)) ?_⟩
      intro b item hb _
      obtain ⟨rfl, -⟩ : sd = b ∧ bytes = item := by simpa [hpc, Pc.node] using hb
      exact Or.inl (by simp)
    | getLock wait =>
      simp only [go, hpc] at hstep
      rcases ns with _ | ⟨a, as⟩
      · rw [h.rep.queGet_nil, Option.some.injEq] at hstep
        subst hstep
        exact ⟨[], h.goto t rfl, hacc.goto (by rw [hpc]; rfl) _⟩
      · have hlen := h.fits
        rw [List.length_cons] at hlen
        obtain ⟨m', hget, hrep, -, -, hframe⟩ := h.rep.queGet_cons (by omega)
        rw [hget, Option.some.injEq] at hstep
        subst hstep
        obtain rfl : ns₁ = as := h₁.rep.unique hrep
        refine ⟨ns₁, h₁, hacc.update (fun b hb => ?_) (fun b hb _ => ?_) ?_⟩
        · -- the first node is in the hand of the thread now
          by_cases hin : b ∈ a :: ns₁
          · rcases List.mem_cons.mp hin with rfl | hin
            · exact Or.inr (Or.inr ⟨_, rfl⟩)
            · exact Or.inr (Or.inl hin)
          · exact Or.inl (hframe b hin ▸ hb)
        · rcases List.mem_cons.mp hb with rfl | hb
          · exact Or.inr ⟨_, rfl⟩
          · exact Or.inl hb
        · intro b item hb
          simp [hpc, Pc.node] at hb
    | getData sd item =>
      have ho : Owned s.mem sd item := (h.owned (by rw [hpc]; rfl)).2
      obtain ⟨-, hfreed, hkeep⟩ := deleteSQData_of_owned ho
      simp only [go, hpc, Option.some.injEq] at hstep
      subst hstep
      have hkept : ∀ b, (deleteSQData s.mem sd).nodes b ≠ none →
          b ≠ sd ∧ s.mem.nodes b ≠ none := by
        intro b hb
        have hbsd : b ≠ sd := fun heq => hb (heq ▸ hfreed)
        exact ⟨hbsd, hkeep b hbsd ▸ hb⟩
      refine ⟨ns, h.delete hpc rfl, hacc.update (fun b hb => Or.inl (hkept b hb).2)
        (fun b hb _ => Or.inl hb) ?_⟩
      intro b item' hb hfreed
      obtain ⟨rfl, -⟩ : sd = b ∧ item = item' := by simpa [hpc, Pc.node] using hb
      exact absurd rfl (hkept sd hfreed).1
    | getWait wait =>
      have hnode : (s.pc t).node = none := by rw [hpc]; rfl
      simp only [go, hpc] at hstep
      split at hstep
      · split at hstep <;>
          (obtain rfl := Option.some.inj hstep; exact ⟨ns, h.goto t rfl, hacc.goto hnode _⟩)
      · obtain rfl := Option.some.inj hstep
        exact ⟨ns, h.goto t rfl, hacc.goto hnode _⟩
    | getCount wait | getEnter wait =>
      have hnode : (s.pc t).node = none := by rw [hpc]; rfl
      simp only [go, hpc] at hstep
      split at hstep <;>
        (obtain rfl := Option.some.inj hstep; exact ⟨ns, h.goto t rfl, hacc.goto hnode _⟩)
    | putReturn | putCount =>
      have hnode : (s.pc t).node = none := by rw [hpc]; rfl
      simp only [go, hpc, Option.some.injEq] at hstep
      subst hstep
      exact ⟨ns, h.goto t rfl, hacc.goto hnode _⟩
    | idle | putNew bytes | putDone count | getDone data size => simp [go, hpc] at hstep

/-- Every reachable state accounts for all nodes. -/
theorem accounted_of_run {acts : List (Act α)}
    (hfits : Guarded (step que) CountFits State.init acts)
    (hrun : run (step que) State.init acts = some s) : ∃ ns, Holds que s ns ∧ Accounted s ns := by
  refine run_invariant_of_guarded (I := fun s => ∃ ns, Holds que s ns ∧ Accounted s ns) ?_
    ⟨[], Holds.init, fun a ha => absurd rfl ha⟩ hfits hrun
  rintro s a s' ⟨ns, h, hacc⟩ hfits hstep
  exact h.accounted_step hacc hfits hstep

/-- **Nothing leaks**: in every reachable state the nodes that are allocated are those in the queue and
those that a thread inside a call has in its hand, and no node is both or in two hands. -/
theorem nothing_leaks (que : Ptr) (acts : List (Act α)) (s : State α)
    (hfits : Guarded (step que) CountFits State.init acts)
    (hrun : run (step que) State.init acts = some s) :
    ∃ ns, Represents que s.mem ns ∧
      (∀ a, s.mem.nodes a ≠ none ↔ a ∈ ns ∨ ∃ t item, (s.pc t).node = some (a, item)) ∧
      (∀ t a item, (s.pc t).node = some (a, item) → a ∉ ns) ∧
      ∀ t t' a item item', (s.pc t).node = some (a, item) → (s.pc t').node = some (a, item') →
        t = t' := by
  obtain ⟨ns, h, hacc⟩ := accounted_of_run hfits hrun
  refine ⟨ns, h.represents, fun a => ⟨hacc a, ?_⟩, fun t a item ht => (h.owned ht).1,
    fun t t' a item item' => h.disjoint⟩
  rintro (hin | ⟨t, item, ht⟩)
  · obtain ⟨d, hd, -⟩ := h.rep.node a hin
    simp [hd]
  · obtain ⟨-, parent, hd⟩ := h.owned ht
    simp [hd]

/-- Thread 1 has taken the node at 3 out, and has not freed it yet. -/
theorem nothing_leaks_putsAndGet :
    ∃ s, run (step 1) State.init putsAndGet.dropLast = some s ∧
      (s.pc 1).node = some (3, [9]) ∧ s.mem.nodes 3 ≠ none ∧
      ∃ ns, Represents 1 s.mem ns ∧
        (∀ a, s.mem.nodes a ≠ none ↔ a ∈ ns ∨ ∃ t item, (s.pc t).node = some (a, item)) ∧
        (∀ t a item, (s.pc t).node = some (a, item) → a ∉ ns) ∧
        ∀ t t' a item item', (s.pc t).node = some (a, item) → (s.pc t').node = some (a, item') →
          t = t' :=
  ⟨_, rfl, rfl, Option.some_ne_none _,
    nothing_leaks 1 putsAndGet.dropLast _ (guarded_of_short Holds.init (by decide)) rfl⟩

/-- **A walk shows the queue**: in every reachable state, going through the nodes with `SQDataNext` shows
the items that were put and not taken, with their sizes and in the order of the puts. -/
theorem walk_shows_queue (que : Ptr) (acts : List (Act α)) (s : State α)
    (hfits : Guarded (step que) CountFits State.init acts)
    (hrun : run (step que) State.init acts = some s) :
    let shown := walk (s.mem.queue.count.toNat + 1) s.mem none
    s.removed ++ shown.map Prod.snd = s.inserted ∧ ∀ d ∈ shown, d.1 = d.2.length := by
  obtain ⟨ns, h, -⟩ := accounted_of_run hfits hrun
  have hcount : s.mem.queue.count.toNat = ns.length := by rw [h.count_eq, Int.toNat_natCast]
  have hrep : Rep que s.mem ([] ++ ns) := h.rep
  have hwalk : walk (ns.length + 1) s.mem none = _ := hrep.walk h.fits
  simp only [hcount, hwalk]
  refine ⟨?_, fun d hd => ?_⟩
  · rw [← h.fifo, List.map_map]
    rfl
  · obtain ⟨a, -, rfl⟩ := List.mem_map.mp hd
    rfl

/-- Two puts. -/
def putPut : List (Act UInt8) := putActs [7, 8] 2 ++ putActs [9] 3

theorem walk_shows_putPut :
    ∃ s, run (step 1) State.init putPut = some s ∧
      let shown := walk (s.mem.queue.count.toNat + 1) s.mem none
      s.removed ++ shown.map Prod.snd = s.inserted ∧ ∀ d ∈ shown, d.1 = d.2.length :=
  ⟨_, rfl, walk_shows_queue 1 putPut _ (guarded_of_short Holds.init (by decide)) rfl⟩

/-- **Emptying the queue frees every node**: when all calls have returned, the loop of `DeleteSQueue` and
`SiDaqResetQueue` hands out, in order, the items that were put and not taken, and leaves an empty queue
and no node allocated. -/
theorem drain_frees (que : Ptr) (acts : List (Act α)) (s : State α)
    (hfits : Guarded (step que) CountFits State.init acts)
    (hrun : run (step que) State.init acts = some s) (hfree : ∀ t, (s.pc t).free) :
    ∃ items m', drain (s.mem.queue.count.toNat + 1) s.mem = some (items, m') ∧
      s.removed ++ items = s.inserted ∧ m'.queue = newSQueue ∧ ∀ a, m'.nodes a = none := by
  obtain ⟨ns, h, hacc⟩ := accounted_of_run hfits hrun
  obtain ⟨m', hdrain, hqueue, hnone, hkeep⟩ := h.rep.drain h.fits
  have hcount : s.mem.queue.count.toNat = ns.length := by rw [h.count_eq, Int.toNat_natCast]
  refine ⟨_, m', hcount ▸ hdrain, h.fifo, hqueue, fun a => ?_⟩
  by_cases hin : a ∈ ns
  · exact hnone a hin
  · rw [hkeep a hin]
    by_contra hlive
    rcases hacc a hlive with hmem | ⟨t, item, ht⟩
    · exact hin hmem
    · have hidle := hfree t
      cases hpc : s.pc t <;> simp [hpc, Pc.node, Pc.free] at ht hidle

end Accounted

theorem drain_frees_putPut :
    ∃ s, run (step 1) State.init putPut = some s ∧ s.inserted = [[7, 8], [9]] ∧
      ∃ items m', drain (s.mem.queue.count.toNat + 1) s.mem = some (items, m') ∧
        s.removed ++ items = s.inserted ∧ m'.queue = newSQueue ∧ ∀ a, m'.nodes a = none := by
  refine ⟨_, rfl, rfl, drain_frees 1 putPut _ (guarded_of_short Holds.init (by decide)) rfl ?_⟩
  rintro (_ | t)
  · rfl
  · rfl

end SiDaqApi.Squeue
