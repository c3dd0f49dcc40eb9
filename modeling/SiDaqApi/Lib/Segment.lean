import Mathlib.Data.List.Basic
import Mathlib.Tactic.Common

/-!
# Cutting a stream into frames

A *verdict* looks at the bytes from a frame start on and says that a frame of `n` of them is
complete, that the frame start is bad, or that more bytes are needed. `parse` applies a verdict
greedily from the first byte of a stream.

A `Lawful` verdict does not change its mind when more bytes arrive. For such a verdict the parse of
`bs ++ cs` continues the parse of `bs` at its tail (`parse_append_of_not_bad`,
`parse_append_of_bad`), which is why a receiver that keeps the tail can work chunk by chunk.
`Blocks` is the same for frames of one size, with no verdict.
-/

namespace Segment

variable {α : Type*}

/-- What can be said about a frame start from the bytes that are there. -/
inductive Verdict
  | more
  | bad
  | frame (n : ℕ)
  deriving DecidableEq, Repr

/-- A verdict that is stable under extension of the stream and makes progress. -/
structure Lawful (v : List α → Verdict) : Prop where
  nil : v [] = .more
  frame_pos : ∀ {bs n}, v bs = .frame n → 0 < n
  frame_le : ∀ {bs n}, v bs = .frame n → n ≤ bs.length
  frame_append : ∀ {bs n} cs, v bs = .frame n → v (bs ++ cs) = .frame n
  bad_append : ∀ {bs} cs, v bs = .bad → v (bs ++ cs) = .bad

/-- A parsed stream: the complete frames, the bytes after them, and whether these start badly. -/
structure Parse (α : Type*) where
  frames : List (List α)
  tail : List α
  bad : Bool
  deriving DecidableEq, Repr

/-- The greedy parse, with at most `fuel` frames. -/
def parseFuel (v : List α → Verdict) : ℕ → List α → Parse α
  | 0, bs => ⟨[], bs, false⟩
  | fuel + 1, bs =>
    match v bs with
    | .more => ⟨[], bs, false⟩
    | .bad => ⟨[], bs, true⟩
    | .frame n =>
      let p := parseFuel v fuel (bs.drop n)
      ⟨bs.take n :: p.frames, p.tail, p.bad⟩

/-- The greedy parse of a stream. Every frame has a byte, so the length bounds their number. -/
def parse (v : List α → Verdict) (bs : List α) : Parse α := parseFuel v bs.length bs

variable {v : List α → Verdict}

/-- Fuel beyond the length of the stream changes nothing. -/
theorem parseFuel_eq (hv : Lawful v) {fuel : ℕ} {bs : List α} (h : bs.length ≤ fuel) :
    parseFuel v fuel bs = parse v bs := by
  induction fuel using Nat.strongRecOn generalizing bs with
  | ind fuel ih =>
    unfold parse
    cases fuel with
    | zero =>
      have hlen : bs.length = 0 := by omega
      rw [hlen]
    | succ fuel =>
      cases hbs : bs with
      | nil => simp [parseFuel, hv.nil]
      | cons b rest =>
        rw [← hbs]
        have hlen : bs.length = rest.length + 1 := by simp [hbs]
        rw [hlen]
        simp only [parseFuel]
        cases hc : v bs with
        | more => rfl
        | bad => rfl
        | frame n =>
          have hn := hv.frame_pos hc
          have hdrop : (bs.drop n).length ≤ rest.length := by
            rw [List.length_drop]
            omega
          simp only
          rw [ih fuel (by omega) (by omega : (bs.drop n).length ≤ fuel),
            ih rest.length (by omega) hdrop]

theorem parse_of_more (hv : Lawful v) {bs : List α} (h : v bs = .more) :
    parse v bs = ⟨[], bs, false⟩ := by
  rw [← parseFuel_eq hv (Nat.le_succ bs.length)]
  simp [parseFuel, h]

theorem parse_of_bad (hv : Lawful v) {bs : List α} (h : v bs = .bad) :
    parse v bs = ⟨[], bs, true⟩ := by
  rw [← parseFuel_eq hv (Nat.le_succ bs.length)]
  simp [parseFuel, h]

theorem parse_of_frame (hv : Lawful v) {bs : List α} {n : ℕ} (h : v bs = .frame n) :
    parse v bs = ⟨bs.take n :: (parse v (bs.drop n)).frames, (parse v (bs.drop n)).tail,
      (parse v (bs.drop n)).bad⟩ := by
  have hn := hv.frame_pos h
  rw [← parseFuel_eq hv (Nat.le_succ bs.length)]
  simp only [parseFuel, h]
  rw [parseFuel_eq hv (by simp)]

/-- The recursion of `parse` as an induction principle. -/
theorem parse_induction (hv : Lawful v) {P : List α → Prop}
    (more : ∀ bs, v bs = .more → P bs) (bad : ∀ bs, v bs = .bad → P bs)
    (frame : ∀ bs n, v bs = .frame n → P (bs.drop n) → P bs) (bs : List α) : P bs := by
  induction hk : bs.length using Nat.strongRecOn generalizing bs with
  | ind k ih =>
    cases hc : v bs with
    | more => exact more bs hc
    | bad => exact bad bs hc
    | frame n =>
      have hpos := hv.frame_pos hc
      have hle := hv.frame_le hc
      refine frame bs n hc (ih (bs.drop n).length ?_ _ rfl)
      rw [List.length_drop]
      omega

private theorem drop_append_frame (hv : Lawful v) {bs : List α} {n : ℕ} (cs : List α)
    (h : v bs = .frame n) : (bs ++ cs).drop n = bs.drop n ++ cs ∧ (bs ++ cs).take n = bs.take n := by
  have hle := hv.frame_le h
  exact ⟨List.drop_append_of_le_length hle, List.take_append_of_le_length hle⟩

/-- Without a bad frame start, the parse goes on from the tail when more bytes arrive. -/
theorem parse_append_of_not_bad (hv : Lawful v) {bs : List α} (cs : List α)
    (h : (parse v bs).bad = false) :
    parse v (bs ++ cs) =
      ⟨(parse v bs).frames ++ (parse v ((parse v bs).tail ++ cs)).frames,
        (parse v ((parse v bs).tail ++ cs)).tail, (parse v ((parse v bs).tail ++ cs)).bad⟩ := by
  induction bs using parse_induction hv with
  | more bs hm => simp [parse_of_more hv hm]
  | bad bs hb => simp [parse_of_bad hv hb] at h
  | frame bs n hf ih =>
    obtain ⟨hdrop, htake⟩ := drop_append_frame hv cs hf
    rw [parse_of_frame hv (hv.frame_append cs hf), hdrop, htake]
    rw [parse_of_frame hv hf] at h ⊢
    rw [ih h]
    rfl

/-- A bad frame start stays the end of the parse. -/
theorem parse_append_of_bad (hv : Lawful v) {bs : List α} (cs : List α)
    (h : (parse v bs).bad = true) :
    parse v (bs ++ cs) = ⟨(parse v bs).frames, (parse v bs).tail ++ cs, true⟩ := by
  induction bs using parse_induction hv with
  | more bs hm => simp [parse_of_more hv hm] at h
  | bad bs hb =>
    rw [parse_of_bad hv hb, parse_of_bad hv (hv.bad_append cs hb)]
  | frame bs n hf ih =>
    obtain ⟨hdrop, htake⟩ := drop_append_frame hv cs hf
    rw [parse_of_frame hv (hv.frame_append cs hf), hdrop, htake]
    rw [parse_of_frame hv hf] at h ⊢
    rw [ih h]

/-- Nothing bad in a stream means nothing bad in a beginning of it. -/
theorem parse_bad_append (hv : Lawful v) {bs : List α} (cs : List α)
    (h : (parse v (bs ++ cs)).bad = false) : (parse v bs).bad = false := by
  by_contra hbad
  rw [Bool.not_eq_false] at hbad
  rw [parse_append_of_bad hv cs hbad] at h
  exact absurd h (by simp)

/-! ## Blocks of one size -/

/-- `bs` is cut into blocks of `n` bytes and a tail that is too short for another one. -/
structure Blocks (n : ℕ) (bs : List α) (blocks : List (List α)) (tail : List α) : Prop where
  flatten : blocks.flatten ++ tail = bs
  length : ∀ w ∈ blocks, w.length = n
  tail_lt : tail.length < n

/-- Too few bytes for a block. -/
theorem Blocks.short {n : ℕ} {bs : List α} (h : bs.length < n) : Blocks n bs [] bs :=
  ⟨rfl, by simp, h⟩

/-- The first block, and the blocks behind it. -/
theorem Blocks.cons {n : ℕ} {bs tail : List α} {blocks : List (List α)} (hn : n ≤ bs.length)
    (h : Blocks n (bs.drop n) blocks tail) : Blocks n bs (bs.take n :: blocks) tail where
  flatten := by
    rw [List.flatten_cons, List.append_assoc, h.flatten, List.take_append_drop]
  length := List.forall_mem_cons.mpr ⟨List.length_take_of_le hn, h.length⟩
  tail_lt := h.tail_lt

/-- The cutting goes on at the tail when more bytes arrive. -/
theorem Blocks.append {n : ℕ} {bs cs tail tail' : List α} {blocks blocks' : List (List α)}
    (h : Blocks n bs blocks tail) (h' : Blocks n (tail ++ cs) blocks' tail') :
    Blocks n (bs ++ cs) (blocks ++ blocks') tail' where
  flatten := by
    rw [List.flatten_append, List.append_assoc, h'.flatten, ← List.append_assoc, h.flatten]
  length := List.forall_mem_append.mpr ⟨h.length, h'.length⟩
  tail_lt := h'.tail_lt

end Segment
