import Mathlib.Algebra.Order.Field.Basic
import Mathlib.Data.Nat.Count

/-!
# Schedules

A task is to be done again and again, each time not before its deadline.  Whoever is back early
waits for the deadline, and may be late; whoever is back after it begins at once.  Nothing is
carried over: who is back before a deadline has caught up, whatever went on before.
-/

namespace Contest

variable {K : Type*}

/-- What delays a schedule. -/
structure Delays (K : Type*) where
  /-- The time before the first wait. -/
  start : K
  /-- How long the task takes each time. -/
  work : Nat → K
  /-- How late a wait ends. -/
  late : Nat → K

namespace Delays

section Schedule

variable [Add K] [LT K] [DecidableLT K] (delays : Delays K) (deadline : Nat → K)

/-- When one is back to do the task for the n-th time. -/
def back : Nat → K
  | 0 => delays.start
  | n + 1 =>
      (if back n < deadline n then deadline n + delays.late n else back n) + delays.work n

/-- When the task begins for the n-th time. -/
def begins (n : Nat) : K :=
  if delays.back deadline n < deadline n then deadline n + delays.late n
  else delays.back deadline n

theorem back_succ (n : Nat) :
    delays.back deadline (n + 1) = delays.begins deadline n + delays.work n := rfl

theorem begins_of_early {n : Nat} (early : delays.back deadline n < deadline n) :
    delays.begins deadline n = deadline n + delays.late n := if_pos early

/-- Two schedules that have caught up go on alike if they are delayed alike. -/
theorem begins_eq_of_early {delays others : Delays K} {deadline : Nat → K} {n : Nat}
    (early : delays.back deadline n < deadline n)
    (others_early : others.back deadline n < deadline n)
    (works : ∀ m, n ≤ m → delays.work m = others.work m)
    (lates : ∀ m, n ≤ m → delays.late m = others.late m) {m : Nat} (later : n ≤ m) :
    delays.begins deadline m = others.begins deadline m := by
  induction m, later using Nat.le_induction with
  | base =>
      rw [begins_of_early _ _ early, begins_of_early _ _ others_early, lates n (Nat.le_refl n)]
  | succ m later induction =>
      have backs : delays.back deadline (m + 1) = others.back deadline (m + 1) := by
        rw [back_succ, back_succ, induction, works m later]
      rw [begins, begins, backs, lates (m + 1) (Nat.le_succ_of_le later)]

end Schedule

section Order

variable [AddCommMonoid K] [LinearOrder K] [IsOrderedAddMonoid K] {delays : Delays K}
  {deadline : Nat → K}

/-- The task never begins early. -/
theorem deadline_le_begins (lates : ∀ n, 0 ≤ delays.late n) (n : Nat) :
    deadline n ≤ delays.begins deadline n := by
  rw [begins]
  split
  · exact le_add_of_nonneg_right (lates n)
  · rename_i overdue
    exact not_lt.mp overdue

end Order

section Count

theorem countP_map_range [LinearOrder K] (moments : Nat → K) (time : K) (n : Nat) :
    ((List.range n).map moments).countP (· ≤ time) = Nat.count (fun k => moments k ≤ time) n := by
  induction n with
  | zero => rfl
  | succ n induction =>
      rw [List.range_succ, List.map_append, List.countP_append, induction, Nat.count_succ]
      simp [List.countP_singleton]

variable [Field K] [LinearOrder K] [IsStrictOrderedRing K]

/-- What does not happen before multiples of an interval happens at most once in each of them. -/
theorem count_mul_le {interval time : K} (nonneg : 0 ≤ time) {moments : Nat → K}
    (intervals : 0 ≤ interval) (spaced : ∀ n, (n + 1) * interval ≤ moments n) (n : Nat) :
    (Nat.count (fun k => moments k ≤ time) n : K) * interval ≤ time := by
  induction n with
  | zero => simpa using nonneg
  | succ n induction =>
      rw [Nat.count_succ]
      split
      · rename_i passed
        have few : (Nat.count (fun k => moments k ≤ time) n : K) ≤ n := by
          exact_mod_cast Nat.count_le _
        calc
          ((Nat.count (fun k => moments k ≤ time) n + 1 : Nat) : K) * interval ≤
              (n + 1) * interval := by
            apply mul_le_mul_of_nonneg_right _ intervals
            push_cast
            exact add_le_add_left few 1
          _ ≤ moments n := spaced n
          _ ≤ time := passed
      · exact induction

end Count

end Delays
end Contest
