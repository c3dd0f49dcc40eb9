import SiDaqApi.Samples.DataFile
import SiDaqApi.Samples.EndToEnd
import SiDaqApi.Lib.Refinement

/-!
# The receiver thread of the samples

The samples start a thread of their own for a measurement, `recv_thread`: it takes the frames from the
event queue and, if asked to, saves each of them in the data file of the measurement, with the receiving
paused meanwhile. It ends when it has found both queues empty eleven times in a row in a measurement
that is over.

The thread is added to the manager as another party (`sampleStep`). A run of the two is, on the
manager, a run of the manager alone (`mngr_run`), so that what holds of those runs holds here. The
counters that the windows show are left out, and so is a second thread beside a first one: the C#
sample starts one when the first has not ended within five seconds.
-/

namespace SiDaqApi

open Machine

/-! ## The thread -/

/-- What the samples differ in: the line for a frame, whether an empty frame is one, and whether a thread
of an earlier run is waited for before the next data file is named. -/
structure Sample where
  line : List UInt8 → List Char
  writesLines : WritesLines line
  keepsEmpty : Bool
  waits : Bool

/-- The C++ sample. -/
def mfcSample : Sample := ⟨writeDataToFile, writesLines_writeDataToFile, true, true⟩

/-- The C# sample: `SiDaqGetDataCopy` makes nothing of an empty frame. -/
def csSample : Sample := ⟨writeFile, writesLines_writeFile, false, false⟩

/-- Inside `recv_thread`. -/
inductive ReceiverPc
  /-- Not started yet, or at its end. -/
  | off
  | testExit
  | testStatus
  /-- About to look at the receive queue, and how often it may look again. -/
  | testRecv (again : ℕ)
  /-- About to look at the event queue, with the count of the receive queue. -/
  | testFrame (again recvCount : ℕ)
  | getData
  | pause (frame : List UInt8)
  | write (frame : List UInt8)
  | resume
  deriving DecidableEq, Repr

/-- The frame that the thread has taken and not saved yet. -/
def ReceiverPc.hand : ReceiverPc → List (List UInt8)
  | .pause f | .write f => [f]
  | _ => []

/-- A manager, the receiver thread, what the application has told it, and the data files. -/
structure SampleState where
  mngr : State UInt8
  receiver : ReceiverPc
  /-- `force_exit_flg` is cleared, or the manager is gone. -/
  exit : Bool
  /-- The application is about to start the thread of a run. -/
  starting : Bool
  writeFileFlg : Bool
  /-- The newest first. The times that two files are named by are taken to differ. -/
  files : List (List Char)

/-- A file is opened to append to it. -/
def addText (text : List Char) : List (List Char) → List (List Char)
  | [] => []
  | file :: older => (file ++ text) :: older

theorem length_addText (text : List Char) (files : List (List Char)) :
    (addText text files).length = files.length := by
  cases files <;> rfl

/-- The frame is saved if the file is to be written. -/
def Sample.keeps (m : Sample) (f : List UInt8) : Bool := m.keepsEmpty || !f.isEmpty

/-- The thread goes on with a frame. -/
def Sample.handle (m : Sample) (writeFileFlg : Bool) (f : List UInt8) : ReceiverPc :=
  if m.keeps f = true ∧ writeFileFlg = true then .pause f else .testExit

/-- `recv_thread`. The file can be opened or not. -/
def receiverStep (m : Sample) (s : SampleState) (opened : Bool) : Option SampleState :=
  match s.receiver with
  | .off => none
  | .testExit => some { s with receiver := if s.exit then .off else .testStatus }
  | .testStatus =>
    some { s with
      receiver :=
        if s.mngr.status = .idle ∨ s.mngr.status = .stopping ∨ s.mngr.status = .sysError then
          .testRecv 10
        else .getData }
  | .testRecv again => some { s with receiver := .testFrame again s.mngr.recvQueue.length }
  | .testFrame again recvCount =>
    some { s with
      receiver :=
        if recvCount = 0 ∧ s.mngr.eventFrame.length = 0 then
          match again with
          | 0 => .off
          | again + 1 => .testRecv again
        else .getData }
  | .getData =>
    match s.mngr.eventFrame with
    | [] => some { s with receiver := .testExit }
    | f :: _ =>
      (step s.mngr .getData).map fun mngr =>
        { s with mngr := mngr, receiver := m.handle s.writeFileFlg f }
  | .pause f =>
    (step s.mngr .pause).map fun mngr => { s with mngr := mngr, receiver := .write f }
  | .write f =>
    some { s with receiver := .resume, files := addText (if opened then m.line f else []) s.files }
  | .resume =>
    (step s.mngr .resume).map fun mngr => { s with mngr := mngr, receiver := .testExit }

/-! ## The sample -/

/-- Who moves: the manager's threads and the application, the receiver thread, or the application on
the receiver thread. -/
inductive SampleAct
  | mngr (a : Act UInt8)
  | receiver (opened : Bool)
  /-- Whether the frames of the run are saved, and then a name for the file, by the time. -/
  | newFile (writeFileFlg : Bool)
  | start
  | forceExit

/-- Only the receiver thread takes frames and pauses the receiving. -/
def Act.byReceiver : Act UInt8 → Bool
  | .getData | .pause | .resume => true
  | _ => false

/-- A step of the sample. The receiver thread is started when `SiDaqRun` has succeeded, the data file
has a name, and the last thread has ended. -/
def sampleStep (m : Sample) (s : SampleState) : SampleAct → Option SampleState
  | .mngr a =>
    if a.byReceiver then none else (step s.mngr a).map fun mngr => { s with mngr := mngr }
  | .receiver opened => receiverStep m s opened
  | .newFile writeFileFlg =>
    match s.mngr.api with
    | .returned (.run .run) =>
      if m.waits = true ∧ s.receiver ≠ .off then none
      else some { s with
        starting := true
        writeFileFlg := writeFileFlg
        files := if writeFileFlg then [] :: s.files else s.files }
    | _ => none
  | .start =>
    if s.starting = true ∧ s.receiver = .off then
      some { s with receiver := .testExit, exit := false, starting := false }
    else none
  | .forceExit => some { s with exit := true }

/-- What a step does on the manager. -/
def SampleAct.onMngr (s : SampleState) : SampleAct → List (Act UInt8)
  | .mngr a => [a]
  | .receiver _ =>
    match s.receiver with
    | .getData => if s.mngr.eventFrame = [] then [] else [.getData]
    | .pause _ => [.pause]
    | .resume => [.resume]
    | _ => []
  | .newFile _ | .start | .forceExit => []

section Steps

variable {m : Sample} {s s' : SampleState}

theorem receiverStep_onMngr {opened : Bool} (h : receiverStep m s opened = some s') :
    run step s.mngr ((SampleAct.receiver opened).onMngr s) = some s'.mngr := by
  unfold receiverStep at h
  cases hpc : s.receiver with
  | off => simp [hpc] at h
  | getData =>
    simp only [hpc] at h
    split at h
    · rename_i hempty
      obtain rfl := Option.some.inj h
      simp [SampleAct.onMngr, hpc, hempty]
    · rename_i f fs hqueue
      obtain ⟨mngr, hmngr, rfl⟩ := Option.map_eq_some_iff.mp h
      simpa [SampleAct.onMngr, hpc, hqueue] using run_singleton hmngr
  | pause f | resume =>
    simp only [hpc] at h
    obtain ⟨mngr, hmngr, rfl⟩ := Option.map_eq_some_iff.mp h
    simpa [SampleAct.onMngr, hpc] using run_singleton hmngr
  | testExit | testStatus | testRecv again | testFrame again recvCount | write f =>
    simp only [hpc, Option.some.injEq] at h
    subst h
    simp [SampleAct.onMngr, hpc]

theorem sampleStep_newFile {writeFileFlg : Bool} (h : sampleStep m s (.newFile writeFileFlg) = some s') :
    (m.waits = true → s.receiver = .off) ∧ s' = { s with
      starting := true
      writeFileFlg := writeFileFlg
      files := if writeFileFlg then [] :: s.files else s.files } := by
  simp only [sampleStep] at h
  split at h
  · split at h
    · simp at h
    · rename_i hwaits
      exact ⟨fun hw => by_contra fun hon => hwaits ⟨hw, hon⟩, (Option.some.inj h).symm⟩
  · simp at h

theorem sampleStep_start (h : sampleStep m s .start = some s') :
    s.starting = true ∧ s.receiver = .off ∧
      s' = { s with receiver := .testExit, exit := false, starting := false } := by
  simp only [sampleStep] at h
  split at h
  · rename_i hboth
    exact ⟨hboth.1, hboth.2, (Option.some.inj h).symm⟩
  · simp at h

theorem sampleStep_onMngr {a : SampleAct} (h : sampleStep m s a = some s') :
    run step s.mngr (a.onMngr s) = some s'.mngr := by
  cases a with
  | mngr a =>
    simp only [sampleStep] at h
    split at h
    · simp at h
    · obtain ⟨mngr, hmngr, rfl⟩ := Option.map_eq_some_iff.mp h
      exact run_singleton hmngr
  | receiver opened => exact receiverStep_onMngr h
  | newFile writeFileFlg =>
    obtain ⟨-, rfl⟩ := sampleStep_newFile h
    rfl
  | start =>
    obtain ⟨-, -, rfl⟩ := sampleStep_start h
    rfl
  | forceExit =>
    simp only [sampleStep, Option.some.injEq] at h
    subst h
    rfl

/-- **A run of the sample is a run of the manager.** -/
theorem mngr_run {acts : List SampleAct} (hrun : run (sampleStep m) s acts = some s') :
    run step s.mngr (trace (sampleStep m) (fun s a _ => a.onMngr s) s acts) = some s'.mngr :=
  run_part SampleState.mngr (fun _ _ _ => sampleStep_onMngr) hrun

end Steps

/-! ## What is saved -/

section Saving

variable {m : Sample} {s₀ s s' : SampleState}

/-- Every run is to be saved, and its file can be opened. -/
def SampleAct.Saves : SampleAct → Prop
  | .newFile writeFileFlg => writeFileFlg = true
  | .receiver opened => opened = true
  | _ => True

instance (a : SampleAct) : Decidable a.Saves :=
  match a with
  | .newFile _ | .receiver _ => inferInstanceAs (Decidable (_ = true))
  | .mngr _ | .start | .forceExit => isTrue trivial

/-- A file is opened for a run. -/
def SampleAct.OpensFile : SampleAct → Prop
  | .newFile _ => True
  | _ => False

instance (a : SampleAct) : Decidable a.OpensFile :=
  match a with
  | .newFile _ => isTrue trivial
  | .mngr _ | .receiver _ | .start | .forceExit => isFalse id

/-- Since `s₀` the frames that the thread took are in new files, but for the one in its hand. -/
structure Saving (m : Sample) (s₀ s : SampleState) : Prop where
  writes : s.starting = true ∨ s.receiver ≠ .off →
    s.writeFileFlg = true ∧ s₀.files.length < s.files.length
  gotMono : s₀.mngr.got <+: s.mngr.got
  saved : ∃ saved : List (List (List UInt8)),
    s.files = saved.map (List.flatMap m.line) ++ s₀.files ∧
    saved.reverse.flatten ++ s.receiver.hand = (since s₀.mngr.got s.mngr.got).filter m.keeps

theorem Saving.start (hoff : s₀.receiver = .off) (hidle : s₀.starting = false) : Saving m s₀ s₀ :=
  ⟨fun h => absurd h (by simp [hoff, hidle]), List.prefix_rfl, [], by simp,
    by simp [hoff, ReceiverPc.hand]⟩

/-- A step that takes no frame and saves none. -/
theorem Saving.quiet (h : Saving m s₀ s)
    (hwrites : s'.starting = true ∨ s'.receiver ≠ .off → s.starting = true ∨ s.receiver ≠ .off)
    (hflg : s'.writeFileFlg = s.writeFileFlg) (hgot : s'.mngr.got = s.mngr.got)
    (hfiles : s'.files = s.files) (hhand : s'.receiver.hand = s.receiver.hand) :
    Saving m s₀ s' := by
  refine ⟨fun hon => ?_, hgot ▸ h.gotMono, ?_⟩
  · rw [hflg, hfiles]
    exact h.writes (hwrites hon)
  · rw [hfiles, hhand, hgot]
    exact h.saved

/-- The application and the manager's threads take no frame. -/
theorem step_got {s s' : State UInt8} {a : Act UInt8} (ha : a ≠ .getData)
    (h : step s a = some s') : s'.got = s.got := by
  cases a with
  | sock t ans =>
    obtain ⟨-, _, _, _, _, _, _, rfl⟩ := sockStep_change h
    rfl
  | framer t =>
    obtain ⟨-, _, _, _, _, _, _, _, _, _, _, rfl⟩ := framerStep_change h
    rfl
  | api ans => exact (apiStep_change h).got
  | callRun p | callStop | callReset | callTerminate =>
    obtain ⟨_, -, rfl⟩ := callStep_begins h
    rfl
  | getData => exact absurd rfl ha
  | pause | resume =>
    simp only [step, Option.some.injEq] at h
    subst h
    rfl

theorem Saving.receiver (h : Saving m s₀ s) (hs : receiverStep m s true = some s') :
    Saving m s₀ s' := by
  unfold receiverStep at hs
  have hon : s.receiver ≠ .off := by
    intro hoff
    simp [hoff] at hs
  obtain ⟨hflg, hnew⟩ := h.writes (.inr hon)
  cases hpc : s.receiver with
  | off => exact absurd hpc hon
  | testExit =>
    simp only [hpc, Option.some.injEq] at hs
    subst hs
    refine h.quiet (fun _ => .inr hon) rfl rfl rfl ?_
    rw [hpc]
    cases s.exit <;> rfl
  | testStatus =>
    simp only [hpc, Option.some.injEq] at hs
    subst hs
    refine h.quiet (fun _ => .inr hon) rfl rfl rfl ?_
    dsimp only
    rw [hpc]
    split <;> rfl
  | testRecv again =>
    simp only [hpc, Option.some.injEq] at hs
    subst hs
    exact h.quiet (fun _ => .inr hon) rfl rfl rfl (by rw [hpc]; rfl)
  | testFrame again recvCount =>
    simp only [hpc, Option.some.injEq] at hs
    subst hs
    refine h.quiet (fun _ => .inr hon) rfl rfl rfl ?_
    dsimp only
    rw [hpc]
    split
    · cases again <;> rfl
    · rfl
  | getData =>
    simp only [hpc] at hs
    split at hs
    · obtain rfl := Option.some.inj hs
      exact h.quiet (fun _ => .inr hon) rfl rfl rfl (by rw [hpc]; rfl)
    · obtain ⟨mngr, hmngr, rfl⟩ := Option.map_eq_some_iff.mp hs
      rename_i f fs hqueue
      obtain ⟨f', fs', hqueue', rfl⟩ := getData_takes hmngr
      obtain ⟨rfl, rfl⟩ := List.cons.inj (hqueue.symm.trans hqueue')
      refine ⟨fun _ => ⟨hflg, hnew⟩, h.gotMono.trans (List.prefix_append _ _), ?_⟩
      obtain ⟨saved, hfiles, hsaved⟩ := h.saved
      have hall : saved.reverse.flatten = (since s₀.mngr.got s.mngr.got).filter m.keeps := by
        simpa [hpc, ReceiverPc.hand] using hsaved
      refine ⟨saved, hfiles, ?_⟩
      rw [since_append h.gotMono, List.filter_append, ← hall]
      by_cases hkeep : m.keeps f = true
      · simp [Sample.handle, hflg, hkeep, ReceiverPc.hand]
      · simp [Sample.handle, hkeep, ReceiverPc.hand]
  | pause f =>
    simp only [hpc] at hs
    obtain ⟨mngr, hmngr, rfl⟩ := Option.map_eq_some_iff.mp hs
    exact h.quiet (fun _ => .inr hon) rfl (step_got (by simp) hmngr) rfl (by rw [hpc]; rfl)
  | write f =>
    simp only [hpc, Option.some.injEq] at hs
    subst hs
    obtain ⟨saved, hfiles, hsaved⟩ := h.saved
    -- the file is one of this history
    obtain ⟨newest, older, rfl⟩ : ∃ newest older, saved = newest :: older := by
      cases saved with
      | nil => simp [hfiles] at hnew
      | cons newest older => exact ⟨newest, older, rfl⟩
    have hadd : addText (m.line f) s.files =
        ((newest ++ [f]) :: older).map (List.flatMap m.line) ++ s₀.files := by
      simp [hfiles, addText]
    refine ⟨fun _ => ⟨hflg, ?_⟩, h.gotMono, (newest ++ [f]) :: older, hadd, ?_⟩
    · exact (length_addText _ _).symm ▸ hnew
    · rw [hpc] at hsaved
      simpa [ReceiverPc.hand] using hsaved
  | resume =>
    simp only [hpc] at hs
    obtain ⟨mngr, hmngr, rfl⟩ := Option.map_eq_some_iff.mp hs
    exact h.quiet (fun _ => .inr hon) rfl (step_got (by simp) hmngr) rfl (by rw [hpc]; rfl)

theorem Saving.step (h : Saving m s₀ s) {a : SampleAct} (ha : a.Saves)
    (hs : sampleStep m s a = some s') : Saving m s₀ s' := by
  cases a with
  | mngr a =>
    simp only [sampleStep] at hs
    split at hs
    · simp at hs
    · rename_i hby
      obtain ⟨mngr, hmngr, rfl⟩ := Option.map_eq_some_iff.mp hs
      refine h.quiet id rfl (step_got ?_ hmngr) rfl rfl
      rintro rfl
      exact hby rfl
  | receiver opened =>
    obtain rfl : opened = true := ha
    exact h.receiver hs
  | newFile writeFileFlg =>
    obtain rfl : writeFileFlg = true := ha
    obtain ⟨-, rfl⟩ := sampleStep_newFile hs
    obtain ⟨saved, hfiles, hsaved⟩ := h.saved
    refine ⟨fun _ => ⟨rfl, ?_⟩, h.gotMono, [] :: saved, by simp [hfiles], by simpa using hsaved⟩
    simp only [hfiles, if_true, List.length_cons, List.length_append]
    omega
  | start =>
    obtain ⟨hstarting, hoff, rfl⟩ := sampleStep_start hs
    exact h.quiet (fun _ => .inl hstarting) rfl rfl rfl (by rw [hoff]; rfl)
  | forceExit =>
    simp only [sampleStep, Option.some.injEq] at hs
    subst hs
    exact h.quiet id rfl rfl rfl rfl

theorem saving_of_run (hoff : s₀.receiver = .off) (hidle : s₀.starting = false)
    {acts : List SampleAct} (hacts : ∀ a ∈ acts, a.Saves)
    (hrun : run (sampleStep m) s₀ acts = some s) : Saving m s₀ s :=
  run_invariant_of_guarded (fun _ _ _ h ha hs => h.step ha hs) (.start hoff hidle)
    (guarded_of_forall hacts) hrun

/-- The new files read back as what is saved in them. -/
theorem Saving.read (h : Saving m s₀ s) :
    ∃ (files : List (List Char)) (saved : List (List (List UInt8))),
      s.files = files ++ s₀.files ∧ files.map readDataFile = saved.map some ∧
      saved.reverse.flatten ++ s.receiver.hand = (since s₀.mngr.got s.mngr.got).filter m.keeps := by
  obtain ⟨saved, hfiles, hsaved⟩ := h.saved
  refine ⟨saved.map (List.flatMap m.line), saved, hfiles, ?_, hsaved⟩
  rw [List.map_map]
  exact List.map_congr_left fun fs _ => m.writesLines.read fs

theorem receiverStep_length_files {opened : Bool} (h : receiverStep m s opened = some s') :
    s'.files.length = s.files.length := by
  unfold receiverStep at h
  cases hpc : s.receiver with
  | off => simp [hpc] at h
  | getData =>
    simp only [hpc] at h
    split at h
    · obtain rfl := Option.some.inj h
      rfl
    · obtain ⟨mngr, -, rfl⟩ := Option.map_eq_some_iff.mp h
      rfl
  | pause f | resume =>
    simp only [hpc] at h
    obtain ⟨mngr, -, rfl⟩ := Option.map_eq_some_iff.mp h
    rfl
  | write f =>
    simp only [hpc, Option.some.injEq] at h
    subst h
    exact length_addText _ _
  | testExit | testStatus | testRecv again | testFrame again recvCount =>
    simp only [hpc, Option.some.injEq] at h
    subst h
    rfl

/-- A file is opened for a run, and for nothing else. -/
theorem sampleStep_length_files {a : SampleAct} (ha : a.Saves)
    (h : sampleStep m s a = some s') :
    s'.files.length = s.files.length + if a.OpensFile then 1 else 0 := by
  cases a with
  | mngr a =>
    simp only [sampleStep] at h
    split at h
    · simp at h
    · obtain ⟨mngr, -, rfl⟩ := Option.map_eq_some_iff.mp h
      rfl
  | receiver opened => exact receiverStep_length_files h
  | newFile writeFileFlg =>
    obtain rfl : writeFileFlg = true := ha
    obtain ⟨-, rfl⟩ := sampleStep_newFile h
    rfl
  | start =>
    obtain ⟨-, -, rfl⟩ := sampleStep_start h
    rfl
  | forceExit =>
    simp only [sampleStep, Option.some.injEq] at h
    subst h
    rfl

theorem length_files_of_run {acts : List SampleAct} (hacts : ∀ a ∈ acts, a.Saves)
    (hrun : run (sampleStep m) s acts = some s') :
    s'.files.length = s.files.length + acts.countP (·.OpensFile) := by
  induction acts generalizing s with
  | nil =>
    obtain rfl := Option.some.inj hrun
    rfl
  | cons a acts ih =>
    obtain ⟨t, hstep, hrest⟩ := Option.bind_eq_some_iff.mp hrun
    have hfirst := sampleStep_length_files (hacts a (by simp)) hstep
    have hlater := ih (fun b hb => hacts b (List.mem_cons_of_mem a hb)) hrest
    rw [List.countP_cons]
    simp only [decide_eq_true_eq]
    omega

/-- **The data files hold the frames that the thread took**, over any history of the manager, with
runs, stops, errors and resets: there is one new file for each run, and read back they are together
these frames in their order, but for one that the thread is about to save. -/
theorem saved_files (hoff : s₀.receiver = .off) (hidle : s₀.starting = false)
    {acts : List SampleAct} (hacts : ∀ a ∈ acts, a.Saves)
    (hrun : run (sampleStep m) s₀ acts = some s) :
    ∃ (files : List (List Char)) (saved : List (List (List UInt8))),
      s.files = files ++ s₀.files ∧ files.length = acts.countP (·.OpensFile) ∧
      files.map readDataFile = saved.map some ∧
      saved.reverse.flatten ++ s.receiver.hand = (since s₀.mngr.got s.mngr.got).filter m.keeps := by
  obtain ⟨files, saved, hfiles, hread, hsaved⟩ := (saving_of_run hoff hidle hacts hrun).read
  refine ⟨files, saved, hfiles, ?_, hread, hsaved⟩
  have hlen := length_files_of_run hacts hrun
  rw [hfiles, List.length_append] at hlen
  omega

end Saving

/-- A manager without a run, and no file yet. -/
def SampleState.init : SampleState := ⟨State.init, .off, false, false, false, []⟩

/-- What arrives of the two frames that the device has sent is cut inside the first one. -/
def twoArrive : List (Act UInt8) :=
  recvActs 0 (.of [0x08, 0x1F, 0x3E]) ++ List.replicate 6 (.framer 0) ++
    [.sock 0 .ok, .sock 0 .ok, .sock 0 (.data (.of [0x01, 0x23, 0x45, 0x67, 0x89, 0xAB, 0x08])),
      .sock 0 .ok] ++
    List.replicate 5 (.framer 0)

/-- `SiDaqRun` starts, the receiver thread is started, and saves the first frame. -/
def saveOne : List SampleAct :=
  (runCall pseudoRun 0 0).tail.map .mngr ++ [.newFile true, .start] ++ twoArrive.map .mngr ++
    List.replicate 6 (.receiver true)

theorem saveOne_files :
    ∃ s, run (sampleStep mfcSample) .init (.mngr (.callRun pseudoRun) :: saveOne) = some s ∧
      s.files = ["08 1F 3E 01 23 45 67 89 AB \r\r\n".toList] ∧
      ∃ (files : List (List Char)) (saved : List (List (List UInt8))),
        s.files = files ++ [] ∧
        files.length = (SampleAct.mngr (.callRun pseudoRun) :: saveOne).countP (·.OpensFile) ∧
        files.map readDataFile = saved.map some ∧
        saved.reverse.flatten ++ s.receiver.hand =
          (since [] s.mngr.got).filter mfcSample.keeps := by
  obtain ⟨s, hrun, hfile⟩ : ∃ s,
      run (sampleStep mfcSample) .init (.mngr (.callRun pseudoRun) :: saveOne) = some s ∧
        s.files = ["08 1F 3E 01 23 45 67 89 AB \r\r\n".toList] := ⟨_, rfl, rfl⟩
  exact ⟨s, hrun, hfile, saved_files rfl rfl
    (by decide : ∀ a ∈ SampleAct.mngr (.callRun pseudoRun) :: saveOne, a.Saves) hrun⟩

/-! ## From the pseudo device to the file -/

/-- The manager makes an action of a run, if any. -/
def SampleAct.InRun : SampleAct → Prop
  | .mngr a => a.InRun
  | _ => True

instance (a : SampleAct) : Decidable a.InRun :=
  match a with
  | .mngr a => inferInstanceAs (Decidable a.InRun)
  | .receiver _ | .newFile _ | .start | .forceExit => isTrue trivial

theorem SampleAct.InRun.onMngr {a : SampleAct} (ha : a.InRun) (s : SampleState) :
    ∀ b ∈ a.onMngr s, b.InRun := by
  intro b hb
  cases a with
  | mngr a =>
    obtain rfl := List.mem_singleton.mp hb
    exact ha
  | receiver opened =>
    simp only [SampleAct.onMngr] at hb
    split at hb
    · split at hb
      · simp at hb
      · obtain rfl := List.mem_singleton.mp hb
        trivial
    · obtain rfl := List.mem_singleton.mp hb
      trivial
    · obtain rfl := List.mem_singleton.mp hb
      trivial
    · simp at hb
  | newFile writeFileFlg | start | forceExit => simp [SampleAct.onMngr] at hb

/-- A run of the sample that begins with `SiDaqRun`, on the manager. -/
theorem mngr_run_callRun {m : Sample} {s₀ s : SampleState} {p : RunParams UInt8}
    {acts : List SampleAct} (hacts : ∀ a ∈ acts, a.InRun)
    (hrun : run (sampleStep m) s₀ (.mngr (.callRun p) :: acts) = some s) :
    ∃ acts', (∀ a ∈ acts', a.InRun) ∧ run step s₀.mngr (.callRun p :: acts') = some s.mngr := by
  have hmngr := mngr_run hrun
  obtain ⟨t, ht, -⟩ := Option.bind_eq_some_iff.mp hrun
  rw [trace_cons ht] at hmngr
  exact ⟨_, forall_mem_trace (fun s a _ ha _ => ha.onMngr s) hacts, hmngr⟩

end SiDaqApi
