import Mathlib.Logic.Function.Iterate
import Mathlib.Data.List.Basic

/-!
# Memories read and written in runs of cells

A memory is a function from addresses. `load` reads and `store` writes consecutive cells from an
address on, one after the other; `next` is the address behind an address, and may wrap around.
-/

namespace ByteMemory

variable {A B : Type*} (next : A → A)

/-- The contents of the `n` cells from `a` on. -/
def load (mem : A → B) : A → ℕ → List B
  | _, 0 => []
  | a, n + 1 => mem a :: load mem (next a) n

/-- Write `bs` to the cells from `a` on. -/
def store [DecidableEq A] : (A → B) → A → List B → A → B
  | mem, _, [] => mem
  | mem, a, b :: bs => store (Function.update mem a b) (next a) bs

@[simp] theorem length_load (mem : A → B) (a : A) (n : ℕ) : (load next mem a n).length = n := by
  induction n generalizing a with
  | zero => rfl
  | succ n ih => simp [load, ih]

variable [DecidableEq A]

/-- A cell that is not among those written keeps its contents. -/
theorem store_of_ne (mem : A → B) {a x : A} {bs : List B}
    (h : ∀ i < bs.length, x ≠ next^[i] a) : store next mem a bs x = mem x := by
  induction bs generalizing mem a with
  | nil => rfl
  | cons b bs ih =>
    have hne : x ≠ a := h 0 (by simp)
    have htail : ∀ i < bs.length, x ≠ next^[i] (next a) :=
      fun i hi => h (i + 1) (by simpa using hi)
    rw [store, ih _ htail, Function.update_of_ne hne]

/-- What is written to different cells is read back. -/
theorem load_store (mem : A → B) {a : A} {bs : List B}
    (h : ∀ i < bs.length, ∀ j < bs.length, next^[i] a = next^[j] a → i = j) :
    load next (store next mem a bs) a bs.length = bs := by
  induction bs generalizing mem a with
  | nil => rfl
  | cons b bs ih =>
    have hfirst : ∀ i < bs.length, a ≠ next^[i] (next a) := by
      intro i hi heq
      have := h 0 (by simp) (i + 1) (by simpa using hi) heq
      omega
    have htail : ∀ i < bs.length, ∀ j < bs.length, next^[i] (next a) = next^[j] (next a) → i = j := by
      intro i hi j hj heq
      have := h (i + 1) (by simpa using hi) (j + 1) (by simpa using hj) heq
      omega
    rw [List.length_cons, load, store, ih _ htail, store_of_ne next _ hfirst,
      Function.update_self]

end ByteMemory
