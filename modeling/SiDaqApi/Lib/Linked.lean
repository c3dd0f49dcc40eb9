import Mathlib.Data.List.Nodup
import Mathlib.Tactic.Common

/-!
# Doubly linked lists

The links of the nodes are two functions `next` and `prev` into `Option P`, where `none` is the null
pointer. `Seg next o nodes o'` says that following `next` from `o` visits `nodes` and arrives at
`o'`; `Linked` says that the nodes form a doubly linked list between two end pointers. `pushBack`
and `popFront` are the two ways in which a queue relinks its nodes.
-/

namespace Linked

variable {P : Type*}

/-! ## Segments -/

/-- Following `next` from `o` visits the nodes in this order, and then arrives at `o'`. -/
def Seg (next : P → Option P) : Option P → List P → Option P → Prop
  | o, [], o' => o = o'
  | o, a :: as, o' => o = some a ∧ Seg next (next a) as o'

variable {next prev next' prev' : P → Option P} {o o' top last : Option P} {a : P}
  {as bs nodes : List P}

@[simp] theorem seg_nil : Seg next o [] o' ↔ o = o' := Iff.rfl

@[simp] theorem seg_cons : Seg next o (a :: as) o' ↔ o = some a ∧ Seg next (next a) as o' := Iff.rfl

theorem seg_append : Seg next o (as ++ bs) o' ↔ ∃ m, Seg next o as m ∧ Seg next m bs o' := by
  induction as generalizing o with
  | nil => simp
  | cons a as ih => simp [ih, and_assoc]

theorem seg_snoc : Seg next o (as ++ [a]) o' ↔ Seg next o as (some a) ∧ next a = o' := by
  simp [seg_append]

/-- A segment depends on the links of its nodes only. -/
theorem Seg.congr (h : Seg next o as o') (heq : ∀ x ∈ as, next' x = next x) :
    Seg next' o as o' := by
  induction as generalizing o with
  | nil => exact h
  | cons a as ih =>
    obtain ⟨rfl, h⟩ := h
    refine ⟨rfl, ?_⟩
    rw [heq a List.mem_cons_self]
    exact ih h fun x hx => heq x (List.mem_cons_of_mem a hx)

/-- There is one way to follow the links to the end. -/
theorem Seg.unique (h : Seg next o as none) (h' : Seg next o bs none) : as = bs := by
  induction as generalizing o bs with
  | nil =>
    obtain rfl : o = none := h
    cases bs with
    | nil => rfl
    | cons b bs => simp at h'
  | cons a as ih =>
    obtain ⟨rfl, h⟩ := h
    cases bs with
    | nil => simp at h'
    | cons b bs =>
      obtain ⟨hb, h'⟩ := h'
      obtain rfl := Option.some.inj hb
      rw [ih h h']

/-! ## Doubly linked lists -/

/-- The nodes are reached from `top` by `next`, and in reverse from `last` by `prev`. -/
structure DList (next prev : P → Option P) (top last : Option P) (nodes : List P) : Prop where
  nodup : nodes.Nodup
  forward : Seg next top nodes none
  backward : Seg prev last nodes.reverse none

theorem DList.nil : DList next prev none none [] := ⟨List.nodup_nil, rfl, rfl⟩

theorem DList.top_eq (h : DList next prev top last nodes) : top = nodes.head? := by
  cases nodes with
  | nil => exact h.forward
  | cons a as => exact h.forward.1

theorem DList.last_eq (h : DList next prev top last nodes) : last = nodes.getLast? := by
  rcases nodes.eq_nil_or_concat with rfl | ⟨as, a, rfl⟩
  · exact h.backward
  · have hback := h.backward
    rw [List.concat_eq_append, List.reverse_append] at hback
    simpa using hback.1

theorem DList.congr (h : DList next prev top last nodes) (hnext : ∀ x ∈ nodes, next' x = next x)
    (hprev : ∀ x ∈ nodes, prev' x = prev x) : DList next' prev' top last nodes where
  nodup := h.nodup
  forward := h.forward.congr hnext
  backward := h.backward.congr fun x hx => hprev x (List.mem_reverse.mp hx)

/-- A node put behind the last one: the links that change are those of the new node and the `next`
of the old last one. -/
theorem DList.pushBack (h : DList next prev top last nodes) (ha : a ∉ nodes)
    (hnext : next' a = none) (hlink : ∀ l, last = some l → next' l = some a)
    (hprev : prev' a = last) (hnext' : ∀ x ∈ nodes, last ≠ some x → next' x = next x)
    (hprev' : ∀ x ∈ nodes, prev' x = prev x) :
    DList next' prev' (if top = none then some a else top) (some a) (nodes ++ [a]) where
  nodup := List.nodup_append.mpr ⟨h.nodup, List.nodup_singleton a, by
    rintro x hx y hy rfl
    exact ha (List.mem_singleton.mp hy ▸ hx)⟩
  forward := by
    rcases nodes.eq_nil_or_concat with rfl | ⟨as, l, rfl⟩
    · obtain rfl : top = none := h.forward
      simpa using hnext
    · have hlast := h.last_eq
      have htop := h.top_eq
      have hnodup := h.nodup
      have hforward := h.forward
      rw [List.concat_eq_append] at *
      rw [List.getLast?_concat] at hlast
      have hsome : top ≠ none := by
        rw [htop]
        simp
      rw [if_neg hsome, seg_snoc, seg_snoc]
      refine ⟨⟨(seg_snoc.mp hforward).1.congr fun x hx => ?_, hlink l hlast⟩, hnext⟩
      refine hnext' x (List.mem_append_left _ hx) ?_
      rw [hlast]
      rintro ⟨rfl⟩
      exact List.disjoint_of_nodup_append hnodup hx List.mem_cons_self
  backward := by
    rw [List.reverse_append]
    refine ⟨rfl, ?_⟩
    rw [hprev]
    exact h.backward.congr fun x hx => hprev' x (List.mem_reverse.mp hx)

/-- The first node taken off: the links that change are its own, and the `prev` of its successor. -/
theorem DList.popFront (h : DList next prev top last (a :: as))
    (hprev : ∀ b, next a = some b → prev' b = none) (hnext' : ∀ x ∈ as, next' x = next x)
    (hprev' : ∀ x ∈ as, next a ≠ some x → prev' x = prev x) :
    DList next' prev' (next a) (if as = [] then none else last) as where
  nodup := (List.nodup_cons.mp h.nodup).2
  forward := h.forward.2.congr hnext'
  backward := by
    have hback := h.backward
    rw [List.reverse_cons, seg_snoc] at hback
    rcases as with _ | ⟨b, bs⟩
    · simp
    · have hb : next a = some b := h.forward.2.1
      have hnodup := (List.nodup_cons.mp (List.nodup_cons.mp h.nodup).2).1
      rw [if_neg (List.cons_ne_nil b bs), List.reverse_cons, seg_snoc]
      rw [List.reverse_cons, seg_snoc] at hback
      refine ⟨hback.1.1.congr fun x hx => ?_, hprev b hb⟩
      have hx' := List.mem_reverse.mp hx
      refine hprev' x (List.mem_cons_of_mem b hx') ?_
      rw [hb]
      rintro ⟨rfl⟩
      exact hnodup hx'

end Linked
