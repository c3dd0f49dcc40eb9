import SiDaqApi.Framer.Stream

/-!
# What `RecvSiDaqData` reads of a chunk

The loop ends when it finds no byte left, and then still stores `read_ptr[0]`: one byte beyond the
chunk. It happens exactly when the bytes that the loop is given are whole frames, to the last one
(`reads_inside_iff`). The carry-over phase does not go to the loop in that case.
-/

namespace SiDaqApi

open MachineInt

variable {α : Type*}

/-- An access to the chunk stays within its first `len` bytes. -/
def Access.InChunk (len : ℕ) : Access → Prop
  | .chunk off n => 0 ≤ off ∧ 0 ≤ n ∧ off + n ≤ len
  | _ => True

instance (len : ℕ) (a : Access) : Decidable (a.InChunk len) := by
  cases a <;> unfold Access.InChunk <;> infer_instance

/-- `bs` is nothing but whole frames, and none of them brings the event queue, which holds `count`
before, to its limit. -/
inductive WholeFrames : SiDaqFramer α → ℕ → List α → Prop
  | nil (fr : SiDaqFramer α) (count : ℕ) : WholeFrames fr count []
  | frame {fr : SiDaqFramer α} {count n : ℕ} {bs : List α} (htakes : fr.Takes bs n)
      (hfree : ¬ (fr.after bs).atQueueLimit (count + 1 : ℕ))
      (h : WholeFrames (fr.after bs) (count + 1) (bs.drop n)) : WholeFrames fr count bs

/-- The loop is given whole frames of the chunk. -/
def SiDaqFramer.CutsToEnd (fr : SiDaqFramer α) (count : ℕ) (data : List α) : Prop :=
  ∃ fr' count' bs, fr.Hands count data fr' count' bs ∧ WholeFrames fr' count' bs

section Whole

variable {fr : SiDaqFramer α} {count n : ℕ} {bs : List α}

theorem wholeFrames_iff_of_takes (htakes : fr.Takes bs n)
    (hfree : ¬ (fr.after bs).atQueueLimit (count + 1 : ℕ)) :
    WholeFrames fr count bs ↔ WholeFrames (fr.after bs) (count + 1) (bs.drop n) := by
  constructor
  · intro h
    cases h with
    | nil => exact absurd rfl htakes.nonempty
    | frame htakes' _ h => rwa [htakes.unique htakes']
  · exact .frame htakes hfree

theorem not_wholeFrames_of_limit (htakes : fr.Takes bs n)
    (hfull : (fr.after bs).atQueueLimit (count + 1 : ℕ)) : ¬ WholeFrames fr count bs := by
  intro h
  cases h with
  | nil => exact htakes.nonempty rfl
  | frame _ hfree _ => exact hfree hfull

/-- Bytes that the loop takes no frame off are not whole frames. -/
theorem not_wholeFrames_of_not_takes (hne : bs ≠ []) (hno : ∀ n, ¬ fr.Takes bs n) :
    ¬ WholeFrames fr count bs := by
  intro h
  cases h with
  | nil => exact hne rfl
  | frame htakes _ _ => exact hno _ htakes

end Whole

section Calls

variable [Inhabited α] {data : List α}

omit [Inhabited α] in
theorem AtPos.inChunk {l : Locals α} {p : ℕ} (h : AtPos data l p) {n : ℕ}
    (hn : n ≤ (data.drop p).length) : (Access.chunk p n).InChunk data.length := by
  have := h.le
  rw [List.length_drop] at hn
  simp only [Access.InChunk]
  omega

omit [Inhabited α] in
/-- The loop asks the length function about the bytes left of the chunk. -/
theorem AtPos.lengthAccesses_inChunk {l : Locals α} {p : ℕ} (h : AtPos data l p)
    (hacc : ∀ a ∈ l.accesses, a.InChunk data.length) :
    ∀ a ∈ l.lengthAccesses p, a.InChunk data.length := by
  intro a ha
  rcases List.mem_append.mp ha with ha | ha
  · exact hacc a ha
  · unfold SiDaqFramer.chunkLenAccess at ha
    split at ha
    · rw [h.dataLen] at ha
      rcases List.mem_pair.mp ha with rfl | rfl
      · trivial
      · exact h.inChunk le_rfl
    · simp at ha

theorem inChunk_append {as bs : List Access} {len : ℕ} (has : ∀ a ∈ as, a.InChunk len)
    (hbs : ∀ b ∈ bs, b.InChunk len) : ∀ a ∈ as ++ bs, a.InChunk len := by
  intro a ha
  rcases List.mem_append.mp ha with ha | ha
  · exact has a ha
  · exact hbs a ha

/-- The loop stays within the chunk unless it is given whole frames. -/
theorem recvLoop_reads (hdata : data.length < 2147483648) {fuel p : ℕ} {l : Locals α}
    {o : Outcome α} (hw : WellFormed l.framer) (h : AtPos data l p)
    (hacc : ∀ a ∈ l.accesses, a.InChunk data.length) (hrun : recvLoop data fuel l = some o) :
    (∀ a ∈ o.accesses, a.InChunk data.length) ↔
      ¬ WholeFrames l.framer l.que.length (data.drop p) := by
  refine recvLoop_induct
    (P := fun p l o => (∀ a ∈ l.accesses, a.InChunk data.length) →
      ((∀ a ∈ o.accesses, a.InChunk data.length) ↔
        ¬ WholeFrames l.framer l.que.length (data.drop p)))
    ?short ?limit ?frame ?save hdata hw h hrun hacc
  case short =>
    intro p l hw h hshort hacc
    by_cases hnil : data.drop p = []
    · -- one byte beyond the chunk
      have hp : p = data.length := le_antisymm h.le (List.drop_eq_nil_iff.mp hnil)
      refine iff_of_false (fun hall => ?_) (by rw [hnil]; exact not_not.mpr (.nil _ _))
      have hread : (Access.chunk p 1).InChunk data.length := hall _ (by simp)
      simp only [Access.InChunk] at hread
      omega
    · have hlt : ((data.drop p).length : ℤ) < l.framer.headerLen := hshort.resolve_left hnil
      have hpos := List.length_pos_iff.mpr hnil
      refine iff_of_true (inChunk_append hacc ?_) (not_wholeFrames_of_not_takes hnil ?_)
      · intro a ha
        rcases List.mem_pair.mp ha with rfl | rfl
        · exact h.inChunk (n := 1) (by omega)
        · trivial
      · intro n htakes
        have := htakes.header_le
        omega
  case limit =>
    intro p l n hw h htakes hfull hacc
    refine iff_of_true (inChunk_append (h.lengthAccesses_inChunk hacc) ?_)
      (not_wholeFrames_of_limit htakes hfull)
    intro a ha
    rw [List.mem_singleton.mp ha]
    exact h.inChunk htakes.le
  case frame =>
    intro p l n o hw h htakes hfree hat ih hacc
    have hacc' : ∀ a ∈ (l.frame data p n).accesses, a.InChunk data.length := by
      refine inChunk_append (h.lengthAccesses_inChunk hacc) fun a ha => ?_
      rw [List.mem_singleton.mp ha]
      exact h.inChunk htakes.le
    rw [ih hacc', wholeFrames_iff_of_takes htakes hfree, List.drop_drop]
    simp only [Locals.frame, List.length_append, List.length_singleton]
  case save =>
    intro p l hw h hne hheader hlt hacc
    refine iff_of_true (inChunk_append (h.lengthAccesses_inChunk hacc) ?_)
      (not_wholeFrames_of_not_takes hne ?_)
    · intro a ha
      rcases List.mem_pair.mp ha with rfl | rfl
      · exact h.inChunk le_rfl
      · trivial
    · intro n htakes
      have := htakes.frameLen_eq
      have := htakes.le
      omega

omit [Inhabited α] in
/-- The carry-over phase stays within the chunk. -/
theorem carryAccesses_inChunk (fr : SiDaqFramer α) (data : List α) :
    ∀ a ∈ fr.carryAccesses data, a.InChunk data.length := by
  have hle := fr.length_copied_le data
  refine inChunk_append (fun a ha => ?_) fun a ha => ?_
  · rcases List.mem_pair.mp ha with rfl | rfl
    · simp only [Access.InChunk]
      omega
    · trivial
  · unfold SiDaqFramer.eventLenAccess at ha
    split at ha
    · rw [List.mem_singleton.mp ha]
      trivial
    · simp at ha

/-- **A call reads only bytes of its chunk, if and only if the loop is not given whole frames.** -/
theorem reads_inside_iff {p : FramingParams α} (hp : p.Fits) {fr : SiDaqFramer α}
    (hfr : p.Reached fr) (que : List (List α)) (c : Chunk α) :
    (∃ o, recvSiDaqData fr c.bytes que = some o ∧
      ∀ a ∈ o.accesses, a.InChunk c.bytes.length) ↔ ¬ fr.CutsToEnd que.length c.bytes := by
  have hr := hfr.steady hp
  obtain ⟨o, ho⟩ := recvSiDaqData_returns hr c.fits que
  simp only [ho, Option.some.injEq, exists_eq_left']
  rcases recvSiDaqData_steady hr c.fits ho with
    ⟨l, p, fuel, hhands, hruled, -, -, hat, -, -, hacc, hloop⟩ | ⟨hnone, -, hacc, -, -⟩
  · have hstart : ∀ a ∈ l.accesses, a.InChunk c.bytes.length := by
      rw [hacc]
      split
      · exact carryAccesses_inChunk fr c.bytes
      · simp
    rw [recvLoop_reads c.fits hruled.toWellFormed hat hstart hloop]
    refine not_congr ⟨fun hwhole => ⟨_, _, _, hhands, hwhole⟩, ?_⟩
    rintro ⟨fr', count', bs, hhands', hwhole⟩
    obtain ⟨rfl, rfl, rfl⟩ := hhands.unique hhands'
    exact hwhole
  · refine iff_of_true (hacc ▸ carryAccesses_inChunk fr c.bytes) ?_
    rintro ⟨fr', count', bs, hhands, -⟩
    exact hnone _ _ _ hhands

end Calls

/-- A frame that is not complete yet. -/
theorem byteHeader_reads_inside :
    (∃ o, recvSiDaqData ((newSiDaqFramer : SiDaqFramer UInt8).configure byteHeader)
        (Chunk.of [2, 7]).bytes [] = some o ∧
      ∀ a ∈ o.accesses, a.InChunk (Chunk.of [(2 : UInt8), 7]).bytes.length) ↔
    ¬ ((newSiDaqFramer : SiDaqFramer UInt8).configure byteHeader).CutsToEnd 0 [2, 7] :=
  reads_inside_iff byteHeader_fits (.configure rfl rfl) [] (.of [2, 7])

/-- One frame of two bytes, in a chunk of two: the third byte is read. -/
theorem byteHeader_reads_beyond :
    byteHeader.Fits ∧ byteHeader.Reached (newSiDaqFramer.configure byteHeader) ∧
      ∃ o, recvSiDaqData (newSiDaqFramer.configure byteHeader) [1, 9] [] = some o ∧
        ∃ a ∈ o.accesses, ¬ a.InChunk 2 :=
  ⟨byteHeader_fits, .configure rfl rfl, _, rfl, .chunk 2 1, by decide, by decide⟩

end SiDaqApi
