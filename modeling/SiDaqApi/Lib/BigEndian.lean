import Mathlib.Data.Nat.Size
import Mathlib.Tactic.Ring
import Mathlib.Data.List.Induction

/-!
# Big-endian numbers

`value bs` is the number a byte string spells with its most significant byte first, and `bytes w n`
is `n` written in `w` bytes. The lemmas say how `value` goes over an append, what leading zeros do
to it (nothing), how large it can be, and that it inverts `bytes` wherever `n` fits.
-/

namespace BigEndian

/-- The number spelled by `bs`, most significant byte first. -/
def value (bs : List UInt8) : ℕ := bs.foldl (fun v b => v * 256 + b.toNat) 0

/-- `n` in `w` bytes, most significant byte first; what does not fit is cut off at the front. -/
def bytes : ℕ → ℕ → List UInt8
  | 0, _ => []
  | w + 1, n => bytes w (n / 256) ++ [UInt8.ofNat n]

@[simp]
theorem value_nil : value [] = 0 := rfl

/-- One more byte at the end multiplies what was read so far. -/
@[simp]
theorem value_snoc (bs : List UInt8) (b : UInt8) : value (bs ++ [b]) = value bs * 256 + b.toNat := by
  simp [value]

theorem value_append (as bs : List UInt8) :
    value (as ++ bs) = value as * 256 ^ bs.length + value bs := by
  induction bs using List.reverseRecOn with
  | nil => simp
  | append_singleton bs b ih =>
    rw [← List.append_assoc, value_snoc, value_snoc, ih]
    simp only [List.length_append, List.length_singleton, pow_succ]
    ring

@[simp]
theorem value_replicate_zero (k : ℕ) : value (List.replicate k 0) = 0 := by
  induction k with
  | zero => rfl
  | succ k ih => simp [List.replicate_succ', ih]

/-- Leading zero bytes do not change the number. -/
theorem value_zeros_append (k : ℕ) (bs : List UInt8) :
    value (List.replicate k 0 ++ bs) = value bs := by
  simp [value_append]

theorem value_lt (bs : List UInt8) : value bs < 256 ^ bs.length := by
  induction bs using List.reverseRecOn with
  | nil => simp
  | append_singleton bs b ih =>
    have hb : b.toNat < 256 := b.toNat_lt
    simp only [value_snoc, List.length_append, List.length_singleton, pow_succ]
    omega

@[simp]
theorem length_bytes (w n : ℕ) : (bytes w n).length = w := by
  induction w generalizing n with
  | zero => rfl
  | succ w ih => simp [bytes, ih]

/-- Reading inverts writing when the number fits. -/
theorem value_bytes {w n : ℕ} (h : n < 256 ^ w) : value (bytes w n) = n := by
  induction w generalizing n with
  | zero =>
    have hzero : n = 0 := by simpa using h
    simp [bytes, hzero]
  | succ w ih =>
    rw [pow_succ] at h
    have hlast : (UInt8.ofNat n).toNat = n % 256 := by simp
    rw [bytes, value_snoc, ih (by omega), hlast]
    omega

/-- A number fits in `w` bytes exactly when its bit length does. -/
theorem lt_pow_iff_size_le {w n : ℕ} : n < 256 ^ w ↔ n.size ≤ w * 8 := by
  have hpow : 256 ^ w = 2 ^ (w * 8) := by
    rw [mul_comm, pow_mul]
    norm_num
  rw [hpow, Nat.size_le]

end BigEndian
