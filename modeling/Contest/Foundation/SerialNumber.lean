import Mathlib.Data.Int.Basic

/-!
# Serial numbers

A number that counts up without end is sent modulo `modulus` only.  Whoever knows roughly where the
count is takes the nearest number with the given residue, and recovers every number that is less
than half a turn away.
-/

namespace Contest
namespace SerialNumber

/-- The number with a given residue that is nearest to the head; of two, the lower one. -/
def nearest (modulus : Nat) (head residue : Int) : Int :=
  head + (residue - head).bmod modulus

variable {modulus : Nat} {head residue number : Int}

/-- It is the one that is less than half a turn away. -/
theorem nearest_eq_iff (positive : 0 < modulus) :
    nearest modulus head residue = number ↔
      number % modulus = residue % modulus ∧
        head - modulus / 2 ≤ number ∧ number < head + (modulus + 1) / 2 := by
  have offset : nearest modulus head residue = number ↔
      (residue - head).bmod modulus = number - head := by
    unfold nearest
    omega
  have distance : number - head - (residue - head) = number - residue := by omega
  rw [offset, Int.bmod_eq_iff positive, distance, Int.dvd_iff_emod_eq_zero,
    ← Int.emod_eq_emod_iff_emod_sub_eq_zero]
  omega

/-- A number is recovered from its residue. -/
theorem nearest_eq (positive : 0 < modulus) (same : number % modulus = residue % modulus)
    (lower : head - modulus / 2 ≤ number) (upper : number < head + (modulus + 1) / 2) :
    nearest modulus head residue = number :=
  (nearest_eq_iff positive).mpr ⟨same, lower, upper⟩

/-- It has the residue. -/
theorem nearest_emod (positive : 0 < modulus) :
    nearest modulus head residue % modulus = residue % modulus :=
  ((nearest_eq_iff positive).mp rfl).1

theorem le_nearest (positive : 0 < modulus) : head - modulus / 2 ≤ nearest modulus head residue :=
  ((nearest_eq_iff positive).mp rfl).2.1

theorem nearest_lt (positive : 0 < modulus) :
    nearest modulus head residue < head + (modulus + 1) / 2 :=
  ((nearest_eq_iff positive).mp rfl).2.2

end SerialNumber
end Contest
