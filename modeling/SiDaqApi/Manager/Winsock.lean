import SiDaqApi.Manager.Initialize

/-!
# Start-up and clean-up of Winsock

`g_wsa_init` is raised by the `SiDaqInitialize` that finds it zero and by every `SiDaqRun` that
has created its socket thread, and lowered by every `SiDaqTerminate`; Winsock is cleaned up when it
gets back to zero. It is an `int`, taken as a natural number here: overflow is `2 ^ 31` runs away.

`Process` is a process with any number of managers. From the `SiDaqInitialize` that starts Winsock on,
`g_wsa_init` is one more than the runs less the managers terminated (`Process.Tracked`). So
`balanced_iff`: `WSACleanup` matches `WSAStartup` and comes after the last manager if and only if there
have been more runs than terminations whenever a manager is terminated that is not the last, as many
when the last one is, and no `SiDaqInitialize` that has started Winsock leaves it without a manager.
-/

namespace SiDaqApi

open Machine

variable {α : Type*}

/-! ## A process -/

/-- What has happened since `g_wsa_init` was zero: whether it was raised by a `SiDaqInitialize`, which
has started Winsock then; how many calls of `SiDaqRun` have created their socket thread; and how many
managers have been terminated. -/
structure WinsockUse where
  started : Bool
  runs : ℕ
  ended : ℕ
  deriving DecidableEq

/-- The record at the first `SiDaqRun` or a later one. -/
def WinsockUse.run : Option WinsockUse → WinsockUse
  | none => ⟨false, 1, 0⟩
  | some u => { u with runs := u.runs + 1 }

/-- The record at a termination: with the last manager the use of Winsock is over. -/
def WinsockUse.terminate (u : WinsockUse) (last : Bool) : Option WinsockUse :=
  if u.started && last then none else some { u with ended := u.ended + 1 }

/-- A process: `g_wsa_init`, the managers that are not terminated, and a record: how often
`WSAStartup` has succeeded and `WSACleanup` has been called, whether it has been called too early, and
what has happened since `g_wsa_init` was zero. -/
structure Process (α : Type*) where
  wsaInit : ℕ
  managers : List (Mngr α)
  startups : ℕ
  cleanups : ℕ
  early : Bool
  use : Option WinsockUse

def Process.start : Process α := ⟨0, [], 0, 0, false, none⟩

/-- The end of `SiDaqTerminate` on manager `k`. -/
def Process.siDaqTerminate (p : Process α) (notWsaCleanup : Bool) (k : ℕ) : Process α :=
  let others := p.managers.eraseIdx k
  let p := { p with managers := others, use := p.use.bind fun u => u.terminate others.isEmpty }
  if p.wsaInit > 0 then
    if p.wsaInit - 1 = 0 ∧ notWsaCleanup = false then
      { p with
        wsaInit := 0
        cleanups := p.cleanups + 1
        early := p.early || !others.isEmpty }
    else { p with wsaInit := p.wsaInit - 1 }
  else p

/-- `SiDaqRun` is about to raise `g_wsa_init`: it has created its socket thread. -/
def Mngr.raises (m : Mngr α) : MngrAct α → Bool
  | .act (.api _) =>
    match m.state.api with
    | .runConfigure _ => true
    | _ => false
  | _ => false

/-- `SiDaqInitialize`, or a step of manager `k`. -/
inductive ProcessAct (α : Type*)
  | create (env : InitAnswers)
  | act (k : ℕ) (a : MngrAct α)

/-- A step of the process, with the WSA flags `false`. A fault ends the process. -/
def Process.step [Inhabited α] (p : Process α) : ProcessAct α → Option (Process α)
  | .create env =>
    let r : InitResult α := siDaqInitialize false p.wsaInit env
    some { p with
      wsaInit := r.wsaInit
      managers := p.managers ++ r.manager.toList
      startups := p.startups + if r.started then 1 else 0
      use := if r.started then some ⟨true, 0, 0⟩ else p.use }
  | .act k a =>
    p.managers[k]?.bind fun m => (m.step a).bind fun m' =>
      if m'.fault then none
      else if m'.deleted then some (p.siDaqTerminate false k)
      else some { p with
        wsaInit := if m.raises a then p.wsaInit + 1 else p.wsaInit
        managers := p.managers.set k m'
        use := if m.raises a then some (.run p.use) else p.use }

/-- `WSACleanup` has not been called while another manager was there, and without managers it has
been called as often as `WSAStartup` succeeded. -/
structure Process.Balanced (p : Process α) : Prop where
  late : p.early = false
  matched : p.managers = [] → p.cleanups = p.startups

/-- `SiDaqInitialize` throws or returns `NULL` after it has started Winsock. -/
def InitAnswers.Loses (env : InitAnswers) : Prop :=
  env.address = true ∧ env.malloc = true ∧ env.startup = none ∧
    (env.constructor = false ∨ env.registers = true ∧ env.mallocList = false)

/-- A termination is allowed with `managers` managers there. After a start of Winsock there have been as
many runs as terminations if and only if this is the last manager; where a run has raised `g_wsa_init`
from zero, the runs are not just one more than the terminations. -/
def WinsockUse.Allows (u : WinsockUse) (managers : ℕ) : Prop :=
  if u.started then u.runs = u.ended ↔ managers = 1 else u.runs ≠ u.ended + 1

/-- The runs match the managers: no manager is lost that would be the only one to clean up, and one is
terminated only when the runs so far allow it. -/
structure RunsMatch (p : Process α) (a : ProcessAct α) : Prop where
  create : ∀ env, a = .create env → p.use = none → env.Loses → p.managers ≠ []
  terminate : ∀ k u, a = .act k .delete → p.use = some u → u.Allows p.managers.length

/-- `g_wsa_init` and the counts follow the record. -/
structure Process.Tracked (p : Process α) : Prop where
  unused : p.use = none → p.wsaInit = 0 ∧ p.startups = p.cleanups
  used : ∀ u, p.use = some u → 1 ≤ p.wsaInit ∧ p.wsaInit + u.ended = u.started.toNat + u.runs ∧
    p.startups = p.cleanups + u.started.toNat

theorem Process.tracked_start : (Process.start : Process α).Tracked :=
  ⟨fun _ => ⟨rfl, rfl⟩, fun _ h => by cases h⟩

/-! ## What a step does to the balance -/

theorem initializeObjects_eq_none_iff {env : InitAnswers} :
    (initializeObjects env : Option (Mngr α)) = none ↔
      env.constructor = false ∨ env.registers = true ∧ env.mallocList = false := by
  unfold initializeObjects
  split
  · rename_i hconstructor
    simp [hconstructor]
  · rename_i hconstructor
    split
    · rename_i hregisters
      simp [hconstructor, hregisters]
    · rename_i hregisters
      split
      · rename_i hlist
        simp [hregisters, hlist]
      · rename_i hlist
        simp [hconstructor, hlist]

/-- `SiDaqInitialize` leaves Winsock started without a manager. -/
theorem siDaqInitialize_loses_iff {wsaInit : ℕ} {env : InitAnswers} :
    ((siDaqInitialize false wsaInit env : InitResult α).started = true ∧
      (siDaqInitialize false wsaInit env : InitResult α).manager = none) ↔
      wsaInit = 0 ∧ env.Loses := by
  unfold siDaqInitialize InitAnswers.Loses
  split
  · rename_i hnothing
    rcases hnothing with haddress | hmalloc
    · simp [haddress]
    · simp [hmalloc]
  · rename_i hboth
    rw [not_or, Bool.not_eq_false, Bool.not_eq_false] at hboth
    split
    · -- this call is the one that starts Winsock
      rename_i hzero
      split
      · rename_i code hcode
        simp [hcode]
      · rename_i hcode
        simp [hboth, hcode, hzero.2, initializeObjects_eq_none_iff]
    · rename_i hzero
      have hpos : wsaInit ≠ 0 := fun h => hzero ⟨rfl, h⟩
      simp [hpos]

/-- `g_wsa_init` is raised by a call that starts Winsock, and by no other. -/
theorem siDaqInitialize_wsaInit (wsaInit : ℕ) (env : InitAnswers) :
    (siDaqInitialize false wsaInit env : InitResult α).started = true ∧ wsaInit = 0 ∧
        (siDaqInitialize false wsaInit env : InitResult α).wsaInit = 1 ∨
      (siDaqInitialize false wsaInit env : InitResult α).started = false ∧
        (siDaqInitialize false wsaInit env : InitResult α).wsaInit = wsaInit := by
  unfold siDaqInitialize
  split
  · exact Or.inr ⟨rfl, rfl⟩
  · split
    · rename_i hzero
      split
      · exact Or.inr ⟨rfl, rfl⟩
      · exact Or.inl ⟨rfl, hzero.2, by rw [hzero.2]⟩
    · exact Or.inr ⟨rfl, rfl⟩

section Steps

variable [Inhabited α] {p p' : Process α}

/-- A manager is deleted by `delete` alone. -/
theorem Mngr.deleted_step {m m' : Mngr α} {a : MngrAct α} (h : m.step a = some m')
    (hfault : m'.fault = false) : m'.deleted = true ↔ a = .delete := by
  unfold Mngr.step at h
  split at h
  · simp at h
  -- the manager exists before the step
  rename_i hends
  simp only [Bool.or_eq_true, not_or, Bool.not_eq_true] at hends
  split at h
  · obtain rfl := Option.some.inj h
    simp at hfault
  cases a with
  | act a =>
    obtain ⟨s, -, rfl⟩ := Option.map_eq_some_iff.mp h
    simp [hends.2]
  | getNothing | getDataCount | getFrameDataCount =>
    obtain rfl := Option.some.inj h
    simp [hends.2]
  | rbcpReadBytes what | rbcpWriteBytes what =>
    obtain rfl := Option.some.inj h
    have hsame : (m.rbcp what).deleted = m.deleted := by
      unfold Mngr.rbcp
      split
      · split <;> rfl
      · rfl
    simp [hsame, hends.2]
  | delete =>
    simp only [Mngr.perform] at h
    split at h
    · obtain rfl := Option.some.inj h
      simp
    · simp at h

omit [Inhabited α] in
/-- The manager that is terminated is the last, or not. -/
theorem Process.eraseIdx_eq_nil_iff {k : ℕ} (hk : k < p.managers.length) :
    p.managers.eraseIdx k = [] ↔ p.managers.length = 1 := by
  rw [← List.length_eq_zero_iff, List.length_eraseIdx_of_lt hk]
  omega

omit [Inhabited α] in
/-- With `g_wsa_init` at one Winsock is cleaned up. -/
theorem Process.siDaqTerminate_eq (p : Process α) (k : ℕ) :
    p.siDaqTerminate false k =
      ⟨p.wsaInit - 1, p.managers.eraseIdx k, p.startups,
        p.cleanups + if p.wsaInit = 1 then 1 else 0,
        p.early || (decide (p.wsaInit = 1) && !(p.managers.eraseIdx k).isEmpty),
        p.use.bind fun u => u.terminate (p.managers.eraseIdx k).isEmpty⟩ := by
  simp only [Process.siDaqTerminate]
  by_cases hzero : p.wsaInit = 0
  · simp [hzero]
  by_cases hone : p.wsaInit = 1
  · simp [hone]
  · rw [if_pos (by omega), if_neg (by omega)]
    simp [hone]

omit [Inhabited α] in
theorem balanced_terminate_iff {k : ℕ} (h : p.Balanced) (hk : k < p.managers.length) :
    (p.siDaqTerminate false k).Balanced ↔ (p.wsaInit = 1 → p.managers.length = 1) ∧
      (p.managers.length = 1 → p.startups = p.cleanups + if p.wsaInit = 1 then 1 else 0) := by
  have hlast := Process.eraseIdx_eq_nil_iff hk
  rw [Process.siDaqTerminate_eq]
  constructor
  · intro h'
    refine ⟨fun hone => ?_, fun hlength => (h'.matched (hlast.mpr hlength)).symm⟩
    have hlate := h'.late
    simp only [h.late, hone, decide_true, Bool.true_and, Bool.false_or, Bool.not_eq_false',
      List.isEmpty_iff] at hlate
    exact hlast.mp hlate
  · rintro ⟨hone, hmatched⟩
    refine ⟨?_, fun hnil => (hmatched (hlast.mp hnil)).symm⟩
    simp only [h.late, Bool.false_or, Bool.and_eq_false_iff, decide_eq_false_iff_not,
      Bool.not_eq_false', List.isEmpty_iff]
    exact (em (p.wsaInit = 1)).symm.imp_right fun h₁ => hlast.mpr (hone h₁)

omit [Inhabited α] in
/-- What `g_wsa_init` has to be is what the record allows. -/
theorem Process.Tracked.allows_iff (ht : p.Tracked) (k : ℕ) :
    ((p.wsaInit = 1 → p.managers.length = 1) ∧
      (p.managers.length = 1 → p.startups = p.cleanups + if p.wsaInit = 1 then 1 else 0)) ↔
      RunsMatch p (.act k .delete) := by
  have hmatch : RunsMatch p (.act k .delete) ↔
      ∀ u, p.use = some u → u.Allows p.managers.length :=
    ⟨fun h u => h.terminate k u rfl, fun h => ⟨nofun, fun _ u _ => h u⟩⟩
  rw [hmatch]
  cases huse : p.use with
  | none =>
    obtain ⟨hzero, hcounts⟩ := ht.unused huse
    simp [hzero, hcounts]
  | some u =>
    obtain ⟨hpos, hinit, hcounts⟩ := ht.used u huse
    simp only [Option.some.injEq, forall_eq', WinsockUse.Allows]
    cases hstarted : u.started with
    | true =>
      simp only [hstarted, Bool.toNat_true] at hinit hcounts
      simp only [if_true]
      split <;> omega
    | false =>
      simp only [hstarted, Bool.toNat_false] at hinit hcounts
      simp only [Bool.false_eq_true, if_false]
      split <;> omega

omit [Inhabited α] in
theorem Process.Tracked.terminate {k : ℕ} (ht : p.Tracked) (hk : k < p.managers.length)
    (hmatch : RunsMatch p (.act k .delete)) : (p.siDaqTerminate false k).Tracked := by
  have hlast := Process.eraseIdx_eq_nil_iff hk
  rw [Process.siDaqTerminate_eq]
  cases huse : p.use with
  | none =>
    obtain ⟨hzero, hcounts⟩ := ht.unused huse
    exact ⟨fun _ => by simp [hzero, hcounts], by simp⟩
  | some u =>
    obtain ⟨hpos, hinit, hcounts⟩ := ht.used u huse
    have hallows := hmatch.terminate k u rfl huse
    unfold WinsockUse.Allows at hallows
    have hempty : (p.managers.eraseIdx k).isEmpty = true ↔ p.managers.length = 1 :=
      List.isEmpty_iff.trans hlast
    constructor
    · -- the use of Winsock is over: it was started here, and this was the last manager
      intro hover
      simp only [Option.bind_some, WinsockUse.terminate] at hover
      split at hover
      · rename_i hboth
        rw [Bool.and_eq_true, hempty] at hboth
        obtain ⟨hstarted, hlength⟩ := hboth
        simp only [hstarted, Bool.toNat_true, if_true] at hinit hcounts hallows
        have hone : p.wsaInit = 1 := by omega
        simp [hone, hcounts]
      · simp at hover
    · intro u' hu'
      simp only [Option.bind_some, WinsockUse.terminate] at hu'
      split at hu'
      · simp at hu'
      rename_i hmore
      rw [Bool.and_eq_true, hempty, not_and] at hmore
      obtain rfl := Option.some.inj hu'
      cases hstarted : u.started with
      | true =>
        simp only [hstarted, Bool.toNat_true, if_true, true_imp_iff] at hinit hcounts hallows hmore
        simp only [Bool.toNat_true]
        rw [if_neg (by omega)]
        omega
      | false =>
        simp only [hstarted, Bool.toNat_false, Bool.false_eq_true, if_false] at hinit hcounts hallows
        simp only [Bool.toNat_false]
        rw [if_neg (by omega)]
        omega

omit [Inhabited α] in
/-- A run raises `g_wsa_init`, whether Winsock has been started here or not. -/
theorem Process.Tracked.run (ht : p.Tracked) (hinit : p'.wsaInit = p.wsaInit + 1)
    (huse : p'.use = some (.run p.use)) (hstartups : p'.startups = p.startups)
    (hcleanups : p'.cleanups = p.cleanups) : p'.Tracked := by
  refine ⟨by simp [huse], fun u hu => ?_⟩
  obtain rfl := Option.some.inj (huse.symm.trans hu)
  rw [hinit, hstartups, hcleanups]
  cases hbefore : p.use with
  | none =>
    obtain ⟨hzero, hcounts⟩ := ht.unused hbefore
    simp [WinsockUse.run, hzero, hcounts]
  | some v =>
    obtain ⟨hpos, hsum, hcounts⟩ := ht.used v hbefore
    simp only [WinsockUse.run]
    omega

omit [Inhabited α] in
theorem Process.Tracked.congr (ht : p.Tracked) (hinit : p'.wsaInit = p.wsaInit)
    (huse : p'.use = p.use) (hstartups : p'.startups = p.startups)
    (hcleanups : p'.cleanups = p.cleanups) : p'.Tracked := by
  constructor
  · rw [huse, hinit, hstartups, hcleanups]
    exact ht.unused
  · rw [huse, hinit, hstartups, hcleanups]
    exact ht.used

/-- Winsock is started when nothing has been recorded since it was last cleaned up. -/
theorem Process.Tracked.create (ht : p.Tracked) {env : InitAnswers}
    (hstep : p.step (.create env) = some p') : p'.Tracked := by
  obtain rfl := Option.some.inj hstep
  rcases @siDaqInitialize_wsaInit α p.wsaInit env with
    ⟨hstarted, hzero, hone⟩ | ⟨hstarted, hsame⟩
  · have hcounts : p.startups = p.cleanups := by
      cases huse : p.use with
      | none => exact (ht.unused huse).2
      | some u =>
        have hpos := (ht.used u huse).1
        omega
    refine ⟨by simp [hstarted], fun u hu => ?_⟩
    simp only [hstarted, if_true, Option.some.injEq] at hu
    subst hu
    simp [hstarted, hone, hcounts]
  · exact ht.congr hsame (by simp [hstarted]) (by simp [hstarted]) rfl

omit [Inhabited α] in
/-- Without a termination the balance is a matter of the managers and the counts. -/
theorem Process.Balanced.congr (h : p.Balanced) (hmanagers : p'.managers = [] ↔ p.managers = [])
    (hstartups : p'.startups = p.startups) (hcleanups : p'.cleanups = p.cleanups)
    (hearly : p'.early = p.early) : p'.Balanced :=
  ⟨hearly.trans h.late, fun hnil => by rw [hcleanups, hstartups, h.matched (hmanagers.mp hnil)]⟩

/-- **A step keeps the balance if and only if the runs match the managers.** -/
theorem balanced_step_iff {a : ProcessAct α} (ht : p.Tracked) (h : p.Balanced)
    (hstep : p.step a = some p') : p'.Balanced ↔ RunsMatch p a := by
  cases a with
  | create env =>
    obtain rfl := Option.some.inj hstep
    constructor
    · intro h'
      refine ⟨?_, nofun⟩
      rintro env' heq huse hloses hnil
      cases heq
      obtain ⟨hstarted, hmanager⟩ :=
        (@siDaqInitialize_loses_iff α _ _).mpr ⟨(ht.unused huse).1, hloses⟩
      -- the loss leaves nobody to clean up
      have hmatched := h'.matched (by simp [hnil, hmanager])
      simp only [hstarted, if_true] at hmatched
      have := h.matched hnil
      omega
    · intro hmatch
      refine ⟨h.late, fun hnil => ?_⟩
      obtain ⟨hnil, hmanager⟩ := List.append_eq_nil_iff.mp hnil
      rw [Option.toList_eq_nil_iff] at hmanager
      have hstarted : (siDaqInitialize false p.wsaInit env : InitResult α).started = false := by
        by_contra hne
        obtain ⟨hzero, hloses⟩ :=
          (@siDaqInitialize_loses_iff α _ _).mp ⟨Bool.of_not_eq_false hne, hmanager⟩
        refine hmatch.create env rfl ?_ hloses hnil
        by_contra hused
        obtain ⟨u, hu⟩ := Option.ne_none_iff_exists'.mp hused
        have hpos := (ht.used u hu).1
        omega
      simp only [hstarted]
      exact h.matched hnil
  | act k a =>
    obtain ⟨m, hm, hbind⟩ := Option.bind_eq_some_iff.mp hstep
    obtain ⟨m', hm', hp'⟩ := Option.bind_eq_some_iff.mp hbind
    obtain ⟨hk, -⟩ := List.getElem?_eq_some_iff.mp hm
    split at hp'
    · simp at hp'
    rename_i hfault
    have hdeleted := Mngr.deleted_step hm' (by simpa using hfault)
    split at hp'
    · rename_i hgone
      obtain rfl := hdeleted.mp hgone
      obtain rfl := Option.some.inj hp'
      exact (balanced_terminate_iff h hk).trans (ht.allows_iff k)
    · rename_i hlive
      obtain rfl := Option.some.inj hp'
      -- no manager is terminated, so the record does not change
      have hne : a ≠ .delete := fun heq => hlive (hdeleted.mpr heq)
      refine iff_of_true (h.congr (by simp) rfl rfl rfl) ⟨nofun, ?_⟩
      rintro k' u heq
      cases heq
      exact absurd rfl hne

/-- A step that keeps the balance keeps track of it. -/
theorem Process.Tracked.step {a : ProcessAct α} (ht : p.Tracked) (h : p.Balanced)
    (hstep : p.step a = some p') (h' : p'.Balanced) : p'.Tracked := by
  have hmatch := (balanced_step_iff ht h hstep).mp h'
  cases a with
  | create env => exact ht.create hstep
  | act k a =>
    obtain ⟨m, hm, hbind⟩ := Option.bind_eq_some_iff.mp hstep
    obtain ⟨m', hm', hp'⟩ := Option.bind_eq_some_iff.mp hbind
    obtain ⟨hk, -⟩ := List.getElem?_eq_some_iff.mp hm
    split at hp'
    · simp at hp'
    rename_i hfault
    split at hp'
    · rename_i hgone
      obtain rfl := (Mngr.deleted_step hm' (by simpa using hfault)).mp hgone
      obtain rfl := Option.some.inj hp'
      exact ht.terminate hk hmatch
    · obtain rfl := Option.some.inj hp'
      by_cases hraises : m.raises a = true
      · exact ht.run (by simp [hraises]) (by simp [hraises]) rfl rfl
      · exact ht.congr (by simp [hraises]) (by simp [hraises]) rfl rfl

end Steps

/-- **Winsock is cleaned up in time and as often as it was started if and only if the runs match the
managers**: in every run of a process, the balance holds in every state reached exactly when the
runs, the terminations and the managers before each step are as `RunsMatch` says. -/
theorem balanced_iff [Inhabited α] (acts : List (ProcessAct α)) :
    Always Process.step Process.Balanced .start acts ↔
      Guarded Process.step RunsMatch .start acts :=
  always_iff_guarded_of_invariant (I := Process.Tracked)
    (fun _ _ _ ht h hstep h' => ht.step h hstep h')
    (fun _ _ _ ht h hstep => balanced_step_iff ht h hstep) Process.tracked_start
    ⟨rfl, fun _ => rfl⟩ acts

/-- `SiDaqTerminate` on manager `k`, with the steps of its `SiDaqStop`. -/
def terminateCall (k stopSteps : ℕ) : List (ProcessAct UInt8) :=
  .act k (.act .callTerminate) :: List.replicate stopSteps (.act k (.act (.api .ok))) ++
    [.act k .delete]

/-- Two managers are made, and the first is terminated. -/
def twoManagers : List (ProcessAct UInt8) :=
  [.create allSucceed, .create allSucceed] ++ terminateCall 0 3

theorem twoManagers_cleaned_early :
    ∃ p, run Process.step .start twoManagers = some p ∧ p.managers.length = 1 ∧ p.cleanups = 1 ∧
      p.early = true ∧ ¬ p.Balanced := by
  refine ⟨_, rfl, rfl, rfl, rfl, fun h => ?_⟩
  exact Bool.noConfusion h.late

/-- One manager, with one `SiDaqRun`. -/
def oneManager : List (ProcessAct UInt8) :=
  .create allSucceed :: (runCall failingHeader.toRunParams 0 0).map (fun a => .act 0 (.act a)) ++
    terminateCall 0 6

theorem oneManager_never_cleaned :
    ∃ p, run Process.step .start oneManager = some p ∧ p.managers = [] ∧ p.startups = 1 ∧
      p.cleanups = 0 ∧ ¬ p.Balanced := by
  refine ⟨_, rfl, rfl, rfl, rfl, fun h => ?_⟩
  exact absurd (h.matched rfl) (by decide)

end SiDaqApi
