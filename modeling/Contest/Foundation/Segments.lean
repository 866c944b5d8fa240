import Mathlib.Algebra.Order.Ring.Nat
import Mathlib.Tactic.Ring

/-!
# Segments

Between one power of two and the next lies a segment, which is divided into a fixed number of cells
of one width.  A value is kept as the middle of its cell: this is at most half a width away, and it
keeps the order of the values.
-/

namespace Contest
namespace Segments

/-- The width of the cells in the segment of a value, of which there are `2 ^ bits`. -/
def width (bits value : Nat) : Nat := 2 ^ (value.log2 - bits)

/-- The cell of a value, counted in widths from zero. -/
def cell (bits value : Nat) : Nat := value / width bits value

/-- The middle of the cell of a value. -/
def middle (bits value : Nat) : Nat := cell bits value * width bits value + width bits value / 2

variable {bits value other : Nat}

theorem width_pos (bits value : Nat) : 0 < width bits value := Nat.two_pow_pos _

theorem ne_zero_of_large (large : 2 ^ bits ≤ value) : value ≠ 0 :=
  Nat.ne_of_gt (Nat.lt_of_lt_of_le (Nat.two_pow_pos bits) large)

/-- The cells make up the segment. -/
theorem two_pow_mul_width (large : 2 ^ bits ≤ value) :
    2 ^ bits * width bits value = 2 ^ value.log2 := by
  have inside : bits ≤ value.log2 := (Nat.le_log2 (ne_zero_of_large large)).mpr large
  rw [width, ← pow_add, Nat.add_sub_cancel' inside]

/-- The first cell of a segment has the number `2 ^ bits`, the last one the number before the next
power of two. -/
theorem cell_bounds (large : 2 ^ bits ≤ value) :
    2 ^ bits ≤ cell bits value ∧ cell bits value < 2 ^ (bits + 1) := by
  have segment := two_pow_mul_width large
  constructor
  · rw [cell, Nat.le_div_iff_mul_le (width_pos bits value), segment]
    exact Nat.log2_self_le (ne_zero_of_large large)
  · rw [cell, Nat.div_lt_iff_lt_mul (width_pos bits value), pow_succ, Nat.mul_right_comm, segment,
      ← pow_succ]
    exact Nat.lt_log2_self

/-- A value in its cell. -/
theorem cell_mul_width_add (bits value : Nat) :
    cell bits value * width bits value + value % width bits value = value := by
  rw [cell, Nat.mul_comm]
  exact Nat.div_add_mod value (width bits value)

/-- The middle lies in the segment. -/
theorem middle_bounds (large : 2 ^ bits ≤ value) :
    2 ^ value.log2 ≤ middle bits value ∧ middle bits value < 2 ^ (value.log2 + 1) := by
  have segment := two_pow_mul_width large
  obtain ⟨first, last⟩ := cell_bounds large
  have positive := width_pos bits value
  have below : 2 ^ bits * width bits value ≤ cell bits value * width bits value :=
    Nat.mul_le_mul_right _ first
  have above : (cell bits value + 1) * width bits value ≤ 2 ^ (bits + 1) * width bits value :=
    Nat.mul_le_mul_right _ last
  have next : 2 ^ (bits + 1) * width bits value = 2 ^ (value.log2 + 1) := by
    rw [pow_succ, Nat.mul_right_comm, segment, ← pow_succ]
  rw [Nat.add_mul, Nat.one_mul] at above
  rw [middle]
  omega

/-- The middles are in the order of the values. -/
theorem middle_mono (large : 2 ^ bits ≤ value) (ordered : value ≤ other) :
    middle bits value ≤ middle bits other := by
  have other_large : 2 ^ bits ≤ other := large.trans ordered
  have segments : value.log2 ≤ other.log2 :=
    (Nat.le_log2 (ne_zero_of_large other_large)).mpr
      ((Nat.log2_self_le (ne_zero_of_large large)).trans ordered)
  rcases Nat.eq_or_lt_of_le segments with same | earlier
  · have widths : width bits value = width bits other := by rw [width, width, same]
    have cells : cell bits value ≤ cell bits other := by
      rw [cell, cell, widths]
      exact Nat.div_le_div_right ordered
    have starts := Nat.mul_le_mul_right (width bits other) cells
    rw [middle, middle, widths]
    omega
  · have last := (middle_bounds large).2
    have first := (middle_bounds other_large).1
    have between : 2 ^ (value.log2 + 1) ≤ 2 ^ other.log2 :=
      Nat.pow_le_pow_right (by omega) earlier
    omega

end Segments
end Contest
