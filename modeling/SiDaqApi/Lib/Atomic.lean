import SiDaqApi.Lib.Refinement
import Mathlib.Logic.Function.Basic

/-!
# Atomic objects

An object answers operations one at a time: `apply q op res` is its state after an operation that
returns `res`, or `none` if it cannot return that. `Atomic.step` is the object shared by any number
of threads: a call, the operation itself, in one step, and the return. A machine whose traces are
traces of it is linearizable: every operation seems to take place at one moment between its call and
its return (`effects_legal`).
-/

namespace Atomic

open Machine

variable {Q Op Res : Type*}

/-- A sequential object. -/
structure Object (Q Op Res : Type*) where
  apply : Q → Op → Res → Option Q

/-- What a thread does with the object. -/
inductive Status (Op Res : Type*)
  | idle
  | called (op : Op)
  /-- The operation has taken place. -/
  | done (op : Op) (res : Res)

/-- The object, and the threads that use it. -/
structure State (Q Op Res : Type*) where
  obj : Q
  status : ℕ → Status Op Res

/-- Nothing is called yet. -/
def State.init (q : Q) : State Q Op Res := ⟨q, fun _ => .idle⟩

/-- Thread `t` goes on with status `c`. -/
def State.set (s : State Q Op Res) (t : ℕ) (c : Status Op Res) : State Q Op Res :=
  { s with status := Function.update s.status t c }

inductive Act (Op Res : Type*)
  | call (t : ℕ) (op : Op)
  | effect (t : ℕ) (res : Res)
  | ret (t : ℕ)

/-- A call or a return, as the threads see it. -/
inductive Event (Op Res : Type*)
  | call (t : ℕ) (op : Op)
  | ret (t : ℕ) (res : Res)
  deriving DecidableEq, Repr

/-- The shared object. -/
def step (o : Object Q Op Res) (s : State Q Op Res) : Act Op Res → Option (State Q Op Res)
  | .call t op =>
    match s.status t with
    | .idle => some (s.set t (.called op))
    | _ => none
  | .effect t res =>
    match s.status t with
    | .called op => (o.apply s.obj op res).map fun q => { s.set t (.done op res) with obj := q }
    | _ => none
  | .ret t =>
    match s.status t with
    | .done _ _ => some (s.set t .idle)
    | _ => none

/-- Calls and returns can be seen, the operation itself cannot. -/
def event (s : State Q Op Res) (a : Act Op Res) (_ : State Q Op Res) : List (Event Op Res) :=
  match a with
  | .call t op => [.call t op]
  | .effect _ _ => []
  | .ret t =>
    match s.status t with
    | .done _ res => [.ret t res]
    | _ => []

variable {o : Object Q Op Res} {s s' : State Q Op Res} {t : ℕ}

theorem step_call {op : Op} (h : s.status t = .idle) :
    step o s (.call t op) = some (s.set t (.called op)) := by
  simp only [step, h]

theorem step_effect {op : Op} {res : Res} {q : Q} (h : s.status t = .called op)
    (hq : o.apply s.obj op res = some q) :
    step o s (.effect t res) = some { s.set t (.done op res) with obj := q } := by
  simp only [step, h, hq, Option.map_some]

/-- A thread that stays as it is. -/
theorem State.set_self (s : State Q Op Res) (t : ℕ) : s.set t (s.status t) = s := by
  simp only [State.set, Function.update_eq_self]

theorem State.status_set_self (s : State Q Op Res) (t : ℕ) (c : Status Op Res) :
    (s.set t c).status t = c :=
  Function.update_self _ _ _

theorem step_ret {op : Op} {res : Res} (h : s.status t = .done op res) :
    step o s (.ret t) = some (s.set t .idle) ∧ event s (.ret t) (s.set t .idle) = [.ret t res] := by
  simp only [step, event, h, and_self]

/-! ## The sequential order -/

/-- The operations in the order in which they take place, with their results. -/
def effects (s : State Q Op Res) (a : Act Op Res) (_ : State Q Op Res) : List (Op × Res) :=
  match a with
  | .effect t res =>
    match s.status t with
    | .called op => [(op, res)]
    | _ => []
  | _ => []

/-- The object alone, one operation after the other. -/
def Object.play (o : Object Q Op Res) (q : Q) (x : Op × Res) : Option Q := o.apply q x.1 x.2

/-- **The operations of a run are a sequential history of the object**, in the order in which they
take place. -/
theorem effects_legal {as : List (Act Op Res)} (hrun : run (step o) s as = some s') :
    run o.play s.obj (trace (step o) effects s as) = some s'.obj := by
  induction as generalizing s with
  | nil =>
    obtain rfl := Option.some.inj hrun
    rfl
  | cons a as ih =>
    obtain ⟨u, hu, hrun⟩ := Option.bind_eq_some_iff.mp hrun
    rw [trace_cons hu, run_append]
    -- only the effects touch the object
    have hfirst : run o.play s.obj (effects s a u) = some u.obj := by
      cases a with
      | call t op =>
        simp only [step] at hu
        split at hu
        · obtain rfl := Option.some.inj hu
          rfl
        · simp at hu
      | ret t =>
        simp only [step] at hu
        split at hu
        · obtain rfl := Option.some.inj hu
          rfl
        · simp at hu
      | effect t res =>
        simp only [step, effects] at hu ⊢
        split at hu
        · obtain ⟨q, hq, rfl⟩ := Option.map_eq_some_iff.mp hu
          exact run_singleton hq
        · simp at hu
    rw [hfirst]
    exact ih hrun

end Atomic
