import Mathlib.Data.List.Basic

/-!
# Chunks

A list is cut into chunks of one size, the last of which may be short.
-/

namespace Contest
namespace Chunks

variable {α : Type*}

/-- The chunk with a number, from zero. -/
def chunk (size : Nat) (list : List α) (n : Nat) : List α := (list.drop (n * size)).take size

/-- How many chunks there are. -/
def count (size : Nat) (list : List α) : Nat := (list.length + (size - 1)) / size

/-- The chunks of a list. -/
def chunks (size : Nat) (list : List α) : List (List α) :=
  (List.range (count size list)).map (chunk size list)

variable {size : Nat}

theorem lt_count (positive : 0 < size) {list : List α} {n : Nat} :
    n < count size list ↔ n * size < list.length := by
  rw [count, ← Nat.succ_le_iff, Nat.le_div_iff_mul_le positive, Nat.succ_mul]
  omega

theorem getElem?_chunks (positive : 0 < size) (list : List α) (n : Nat) :
    (chunks size list)[n]? =
      if n * size < list.length then some (chunk size list n) else none := by
  rw [chunks, List.getElem?_map]
  split
  · rename_i inside
    rw [List.getElem?_range ((lt_count positive).mpr inside)]
    rfl
  · rename_i outside
    rw [List.getElem?_eq_none]
    · rfl
    · rw [List.length_range]
      exact Nat.le_of_not_lt (mt (lt_count positive).mp outside)

theorem flatten_map_range (list : List α) (n : Nat) :
    ((List.range n).map (chunk size list)).flatten = list.take (n * size) := by
  induction n with
  | zero => rw [Nat.zero_mul, List.take_zero]; rfl
  | succ n induction =>
      rw [List.range_succ, List.map_append, List.flatten_append, induction, Nat.succ_mul,
        List.take_add]
      simp [chunk]

/-- The chunks of a list are put together again. -/
theorem flatten_chunks (positive : 0 < size) (list : List α) :
    (chunks size list).flatten = list := by
  rw [chunks, flatten_map_range]
  apply List.take_of_length_le
  exact Nat.le_of_not_lt (mt (lt_count positive).mpr (Nat.lt_irrefl _))

theorem length_chunk (list : List α) (n : Nat) :
    (chunk size list n).length = min size (list.length - n * size) := by
  rw [chunk, List.length_take, List.length_drop]

/-- No chunk is empty. -/
theorem ne_nil_of_mem_chunks (positive : 0 < size) {list part : List α}
    (member : part ∈ chunks size list) : part ≠ [] := by
  obtain ⟨n, inside, rfl⟩ := List.mem_map.mp member
  have begun := (lt_count positive).mp (List.mem_range.mp inside)
  rw [← List.length_pos_iff, length_chunk]
  omega

theorem length_le_of_mem_chunks {list part : List α} (member : part ∈ chunks size list) :
    part.length ≤ size := by
  obtain ⟨n, -, rfl⟩ := List.mem_map.mp member
  rw [length_chunk]
  exact Nat.min_le_left _ _

/-- Every chunk but the last has the full size. -/
theorem length_of_mem_dropLast (positive : 0 < size) {list part : List α}
    (member : part ∈ (chunks size list).dropLast) : part.length = size := by
  rw [chunks, ← List.map_dropLast, List.mem_map] at member
  obtain ⟨n, inside, rfl⟩ := member
  have another : n + 1 < count size list := by
    cases many : count size list with
    | zero => simp [many] at inside
    | succ m =>
        rw [many, List.range_succ, List.dropLast_concat, List.mem_range] at inside
        exact Nat.succ_lt_succ inside
  have begun := (lt_count positive).mp another
  rw [Nat.succ_mul] at begun
  rw [length_chunk]
  omega

end Chunks
end Contest
