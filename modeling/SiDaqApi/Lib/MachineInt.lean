import Mathlib.Data.Int.Notation
import Mathlib.Tactic.Common

/-!
# 32-bit machine integers inside `ℤ`

Values of C types `int` and `unsigned int` are kept as integers. `wrap32` is the two's-complement
value an `int` takes after a sum that may leave its range, `uint32` the value a cast to
`unsigned int` gives. Inside the respective range both are the identity.
-/

namespace MachineInt

/-- The `int` with the same low 32 bits as `z`. -/
def wrap32 (z : ℤ) : ℤ := (z + 2147483648) % 4294967296 - 2147483648

/-- The `unsigned int` with the same low 32 bits as `z`. -/
def uint32 (z : ℤ) : ℤ := z % 4294967296

/-- `wrap32` is the identity on the range of `int`. -/
theorem wrap32_of_range {z : ℤ} (h₁ : -2147483648 ≤ z) (h₂ : z < 2147483648) : wrap32 z = z := by
  unfold wrap32
  omega

/-- `uint32` is the identity on the range of `unsigned int`. -/
theorem uint32_of_range {z : ℤ} (h₁ : 0 ≤ z) (h₂ : z < 4294967296) : uint32 z = z := by
  unfold uint32
  omega

/-- Wrapping before an addition changes nothing once the sum is wrapped. -/
theorem wrap32_add_wrap32 (a b : ℤ) : wrap32 (wrap32 a + wrap32 b) = wrap32 (a + b) := by
  unfold wrap32
  omega

theorem wrap32_lt (z : ℤ) : wrap32 z < 2147483648 := by
  unfold wrap32
  omega

theorem le_wrap32 (z : ℤ) : -2147483648 ≤ wrap32 z := by
  unfold wrap32
  omega

end MachineInt
