import Mathlib.Data.List.Basic

/-!
# Bounded delay lines

A delay line holds at most `capacity` elements and gives back what no longer fits, oldest first.
After any sequence of pushes the elements given back followed by those still held are exactly the
elements that went in, in the same order; how many were given back is determined by the counts.
-/

namespace Contest

/-- A queue that never holds more than `capacity` elements. -/
structure DelayLine (α : Type*) (capacity : Nat) where
  /-- The elements held, oldest first. -/
  queue : List α
  /-- The queue fits. -/
  bounded : queue.length ≤ capacity

namespace DelayLine

variable {α : Type*} {capacity : Nat}

/-- The empty delay line. -/
def empty : DelayLine α capacity := ⟨[], Nat.zero_le capacity⟩

/-- Append an element and drop what no longer fits. -/
def push (line : DelayLine α capacity) (element : α) : DelayLine α capacity where
  queue := (line.queue ++ [element]).drop (line.queue.length + 1 - capacity)
  bounded := by
    simp only [List.length_drop, List.length_append, List.length_singleton]
    omega

/-- The element, if any, that an append makes the line give back. -/
def overflow (line : DelayLine α capacity) (element : α) : Option α :=
  if line.queue.length < capacity then none else (line.queue ++ [element]).head?

/-- Push the elements in order. -/
def pushAll : DelayLine α capacity → List α → DelayLine α capacity
  | line, [] => line
  | line, element :: elements => (line.push element).pushAll elements

/-- What the line gives back while the elements are pushed, in order. -/
def output : DelayLine α capacity → List α → List α
  | _, [] => []
  | line, element :: elements =>
      (line.overflow element).toList ++ (line.push element).output elements

theorem overflow_append_push (line : DelayLine α capacity) (element : α) :
    (line.overflow element).toList ++ (line.push element).queue = line.queue ++ [element] := by
  have bounded := line.bounded
  unfold overflow
  split
  · rename_i space
    have none_dropped : line.queue.length + 1 - capacity = 0 := by omega
    simp [push, none_dropped]
  · rename_i full
    have one_dropped : line.queue.length + 1 - capacity = 1 := by omega
    obtain ⟨first, others, held⟩ :=
      List.exists_cons_of_ne_nil (l := line.queue ++ [element]) (by simp)
    simp [push, held, one_dropped]

/-- Nothing is lost, duplicated or reordered. -/
theorem output_append_pushAll (line : DelayLine α capacity) (elements : List α) :
    line.output elements ++ (line.pushAll elements).queue = line.queue ++ elements := by
  induction elements generalizing line with
  | nil => simp [output, pushAll]
  | cons element elements ih =>
      calc
        line.output (element :: elements) ++ (line.pushAll (element :: elements)).queue =
            (line.overflow element).toList ++
              ((line.push element).output elements ++
                ((line.push element).pushAll elements).queue) := by
          simp [output, pushAll]
        _ = ((line.overflow element).toList ++ (line.push element).queue) ++ elements := by
          rw [ih, List.append_assoc]
        _ = line.queue ++ (element :: elements) := by
          rw [overflow_append_push, List.append_assoc, List.singleton_append]

theorem length_push (line : DelayLine α capacity) (element : α) :
    (line.push element).queue.length = min (line.queue.length + 1) capacity := by
  simp only [push, List.length_drop, List.length_append, List.length_singleton]
  omega

theorem length_pushAll (line : DelayLine α capacity) (elements : List α) :
    (line.pushAll elements).queue.length =
      min (line.queue.length + elements.length) capacity := by
  induction elements generalizing line with
  | nil =>
      have bounded := line.bounded
      simp only [pushAll, List.length_nil]
      omega
  | cons element elements ih =>
      simp only [pushAll, ih, length_push, List.length_cons]
      omega

/-- The output is the front of everything that went in. -/
theorem output_eq_take (line : DelayLine α capacity) (elements : List α) :
    line.output elements =
      (line.queue ++ elements).take (line.queue.length + elements.length - capacity) := by
  have whole := output_append_pushAll line elements
  have held := length_pushAll line elements
  have total := congrArg List.length whole
  simp only [List.length_append] at total
  rw [← whole, List.take_left' (by omega)]

end DelayLine
end Contest
