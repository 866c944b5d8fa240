import Contest.Crystal
import Contest.Foundation.Schedule
import Mathlib.Data.Rat.Defs
import Mathlib.Algebra.Order.Ring.Rat
import Mathlib.Tactic.FieldSimp
import Mathlib.Tactic.Ring

/-!
# The timer

`Util::Timer` calls a block at multiples of an interval.  How long it sleeps is computed anew before
each call, from the ticks that should have passed and those that have.  The ticks and the seconds
are numbers of an ordered field here, so nothing is rounded.
-/

namespace Contest
namespace Util

variable {K : Type*} [Field K] [LinearOrder K]

/-- `Time::Span::TicksPerSecond`. -/
def ticksPerSecond : K := 10000000

/-- `Util::Timer`. -/
structure Timer (K : Type*) where
  /-- The interval. -/
  seconds : K
  /-- The interval in ticks. -/
  tickInterval : K
  /-- Whether `cancel` has been called. -/
  canceled : Bool

namespace Timer

/-- `Timer.new`. -/
def new (seconds : K) : Fallible (Timer K) :=
  if seconds < 0 then .error .argumentError
  else .ok { seconds := seconds, tickInterval := seconds * ticksPerSecond, canceled := false }

/-- `cancel`. -/
def cancel (timer : Timer K) : Timer K := { timer with canceled := true }

end Timer

/-- What goes on around a timer. -/
structure World (K : Type*) [Field K] [LinearOrder K] extends Delays K where
  /-- A sleep lasts as long as it was asked to. -/
  late_nonneg : ∀ n, 0 ≤ late n
  /-- Whether `cancel` is called before the flag is read for the n-th time, and after it has been
  read the time before. -/
  cancels : Nat → Bool

/-- What can be seen of a timer. -/
inductive Event (K : Type*)
  /-- `cancel` is called. -/
  | cancel
  /-- A call of the block begins, at a time, with a number of ticks. -/
  | call (time tickD : K)

/-- The fiber that `fire` spawns, between two turns of its loop. -/
structure Loop (K : Type*) where
  /-- The timer. -/
  timer : Timer K
  /-- The ticks that should have passed. -/
  shouldTick : K
  /-- The seconds since `fire` has been called. -/
  now : K
  /-- What has been seen. -/
  log : List (Event K)
  /-- Whether the loop has been left. -/
  broken : Bool

namespace Loop

/-- The n-th turn of the loop. -/
def turn (world : World K) (n : Nat) (loop : Loop K) : Loop K :=
  if loop.broken then loop
  else
    let tickD := loop.now * ticksPerSecond
    let drift := loop.shouldTick - tickD
    let driftSec := drift / ticksPerSecond
    let correction := loop.timer.seconds + driftSec
    let awake := if 0 < correction then loop.now + (correction + world.late n) else loop.now
    let timer := if world.cancels n then loop.timer.cancel else loop.timer
    let log := if world.cancels n then loop.log ++ [.cancel] else loop.log
    if timer.canceled then
      { loop with timer := timer, now := awake, log := log, broken := true }
    else
      { loop with
        timer := timer
        shouldTick := loop.shouldTick + timer.tickInterval
        now := awake + world.work n
        log := log ++ [.call awake tickD] }

/-- The fiber that `fire` spawns, after so many turns. -/
def fire (timer : Timer K) (world : World K) : Nat → Loop K
  | 0 => { timer := timer, shouldTick := 0, now := world.start, log := [], broken := false }
  | n + 1 => (fire timer world n).turn world n

/-- The times at which calls of the block have begun. -/
def calls (loop : Loop K) : List K :=
  loop.log.filterMap fun event => match event with
    | .cancel => none
    | .call time _ => some time

end Loop

/-- When the n-th call is due. -/
def due (seconds : K) (n : Nat) : K := (n + 1) * seconds

namespace Loop

/-- The loop of a new timer after turns in which `cancel` has not been called. -/
def onSchedule (seconds : K) (world : World K) (n : Nat) : Loop K where
  timer := { seconds := seconds, tickInterval := seconds * ticksPerSecond, canceled := false }
  shouldTick := n * (seconds * ticksPerSecond)
  now := world.back (due seconds) n
  log := (List.range n).map fun k =>
    .call (world.begins (due seconds) k) (world.back (due seconds) k * ticksPerSecond)
  broken := false

/-- The turn in which the flag is set leaves the loop. -/
theorem turn_of_cancels (seconds : K) (world : World K) {n : Nat}
    (canceled : world.cancels n = true) :
    ((onSchedule seconds world n).turn world n).broken = true ∧
      ((onSchedule seconds world n).turn world n).log =
        (onSchedule seconds world n).log ++ [.cancel] := by
  simp [turn, onSchedule, canceled, Timer.cancel]

theorem turn_of_broken {loop : Loop K} (broken : loop.broken = true) (world : World K) (n : Nat) :
    loop.turn world n = loop := if_pos broken

theorem cancel_not_mem (seconds : K) (world : World K) (n : Nat) :
    Event.cancel ∉ (onSchedule seconds world n).log := by
  intro inside
  obtain ⟨k, -, call⟩ := List.mem_map.mp inside
  simp at call

theorem calls_onSchedule (seconds : K) (world : World K) (n : Nat) :
    (onSchedule seconds world n).calls = (List.range n).map (world.begins (due seconds)) := by
  rw [calls, onSchedule, List.filterMap_map]
  change (List.range n).filterMap (fun k => some (world.begins (due seconds) k)) = _
  rw [List.filterMap_eq_map']

end Loop

section Exact

variable [IsStrictOrderedRing K]

theorem ticksPerSecond_ne : (ticksPerSecond : K) ≠ 0 := by
  unfold ticksPerSecond
  norm_num

/-- The sleep that is asked for ends when the call is due. -/
theorem correction_eq (seconds now : K) (n : Nat) :
    seconds + (n * (seconds * ticksPerSecond) - now * ticksPerSecond) / ticksPerSecond =
      due seconds n - now := by
  have ticks := @ticksPerSecond_ne K _ _ _
  rw [due]
  field_simp
  ring

namespace Loop

theorem due_le_begins (seconds : K) (world : World K) (k : Nat) :
    due seconds k ≤ world.begins (due seconds) k :=
  Delays.deadline_le_begins world.late_nonneg k

theorem awake_eq (seconds : K) (world : World K) (n : Nat) :
    (if 0 < due seconds n - world.back (due seconds) n then
      world.back (due seconds) n + (due seconds n - world.back (due seconds) n + world.late n)
    else world.back (due seconds) n) = world.begins (due seconds) n := by
  rw [Delays.begins]
  simp only [sub_pos]
  split
  · ring
  · rfl

theorem turn_onSchedule (seconds : K) (world : World K) {n : Nat}
    (quiet : world.cancels n = false) :
    (onSchedule seconds world n).turn world n = onSchedule seconds world (n + 1) := by
  simp only [turn, onSchedule, correction_eq, awake_eq, quiet, Bool.false_eq_true, if_false]
  rw [List.range_succ, List.map_append, Delays.back_succ]
  push_cast
  simp only [List.map_cons, List.map_nil, add_mul, one_mul]

/-- The timer is on schedule up to the turn in which it is canceled. -/
theorem fire_cases {seconds : K} {timer : Timer K} (created : Timer.new seconds = .ok timer)
    (world : World K) (n : Nat) :
    (∀ k < n, world.cancels k = false) ∧ fire timer world n = onSchedule seconds world n ∨
      ∃ m < n, (∀ k < m, world.cancels k = false) ∧ world.cancels m = true ∧
        (fire timer world n).broken = true ∧
          (fire timer world n).log = (onSchedule seconds world m).log ++ [.cancel] := by
  induction n with
  | zero =>
      refine .inl ⟨fun k early => absurd early (Nat.not_lt_zero k), ?_⟩
      unfold Timer.new at created
      split at created
      · simp at created
      · obtain rfl := Except.ok.inj created
        simp [fire, onSchedule, Delays.back]
  | succ n induction =>
      rcases induction with ⟨quiet, same⟩ | ⟨m, early, quiet, canceled, broken, log⟩
      · cases here : world.cancels n with
        | false =>
            refine .inl ⟨fun k early => ?_, ?_⟩
            · rcases Nat.lt_succ_iff_lt_or_eq.mp early with before | rfl
              · exact quiet k before
              · exact here
            · rw [fire, same, turn_onSchedule seconds world here]
        | true =>
            obtain ⟨broken, log⟩ := turn_of_cancels seconds world here
            refine .inr ⟨n, Nat.lt_succ_self n, quiet, here, ?_⟩
            rw [fire, same]
            exact ⟨broken, log⟩
      · refine .inr ⟨m, Nat.lt_succ_of_lt early, quiet, canceled, ?_⟩
        rw [fire, turn_of_broken broken]
        exact ⟨broken, log⟩

/-- The calls are those that are due before the timer is canceled. -/
theorem exists_calls {seconds : K} {timer : Timer K} (created : Timer.new seconds = .ok timer)
    (world : World K) (n : Nat) :
    ∃ m ≤ n, (fire timer world n).calls = (List.range m).map (world.begins (due seconds)) ∧
      (∀ k < m, world.cancels k = false) ∧ (m < n → world.cancels m = true) := by
  rcases fire_cases created world n with ⟨quiet, same⟩ | ⟨m, early, quiet, canceled, -, log⟩
  · refine ⟨n, Nat.le_refl n, ?_, quiet, fun later => absurd later (Nat.lt_irrefl n)⟩
    rw [same, calls_onSchedule]
  · refine ⟨m, Nat.le_of_lt early, ?_, quiet, fun _ => canceled⟩
    rw [calls, log, List.filterMap_append]
    exact (List.append_nil _).trans (calls_onSchedule seconds world m)

/-- The k-th call begins as scheduled, unless the timer has been canceled. -/
theorem getElem?_calls {seconds : K} {timer : Timer K} (created : Timer.new seconds = .ok timer)
    (world : World K) (n k : Nat) :
    (fire timer world n).calls[k]? =
      if k < n ∧ ∀ m ≤ k, world.cancels m = false then some (world.begins (due seconds) k)
      else none := by
  obtain ⟨m, inside, listed, quiet, stopped⟩ := exists_calls created world n
  rw [listed, List.getElem?_map]
  by_cases early : k < m
  · rw [List.getElem?_range early, if_pos ⟨by omega, fun j before => quiet j (by omega)⟩]
    rfl
  · rw [List.getElem?_eq_none (by rw [List.length_range]; omega), if_neg]
    · rfl
    · rintro ⟨turned, uncanceled⟩
      have canceled := stopped (by omega)
      rw [uncanceled m (by omega)] at canceled
      exact Bool.false_ne_true canceled

/-- A call that has begun was on schedule. -/
theorem of_getElem?_calls {seconds : K} {timer : Timer K}
    (created : Timer.new seconds = .ok timer) {world : World K} {n k : Nat} {time : K}
    (called : (fire timer world n).calls[k]? = some time) :
    time = world.begins (due seconds) k ∧ (∀ m ≤ k, world.cancels m = false) ∧
      (fire timer world k).now = world.back (due seconds) k := by
  rw [getElem?_calls created] at called
  split at called
  · rename_i active
    refine ⟨(Option.some.inj called).symm, active.2, ?_⟩
    rcases fire_cases created world k with ⟨-, same⟩ | ⟨m, early, -, canceled, -⟩
    · rw [same]
      rfl
    · rw [active.2 m (Nat.le_of_lt early)] at canceled
      simp at canceled
  · simp at called

/-- A cancellation is the last thing that is seen. -/
theorem nothing_after_cancel {seconds : K} {timer : Timer K}
    (created : Timer.new seconds = .ok timer) (world : World K) {n : Nat}
    {before after : List (Event K)}
    (log : (fire timer world n).log = before ++ .cancel :: after) : after = [] := by
  rcases fire_cases created world n with ⟨-, same⟩ | ⟨m, -, -, -, -, last⟩
  · rw [same] at log
    exact absurd (log ▸ List.mem_append_right _ List.mem_cons_self) (cancel_not_mem seconds world n)
  · rw [last] at log
    rcases List.eq_nil_or_concat' after with empty | ⟨rest, event, rfl⟩
    · exact empty
    · -- but for its last event, the log holds calls only
      have shorter : (onSchedule seconds world m).log = before ++ .cancel :: rest := by
        have split : before ++ .cancel :: (rest ++ [event]) =
            (before ++ .cancel :: rest) ++ [event] := by simp
        exact (List.append_inj' (log.trans split) rfl).1
      exact absurd (shorter ▸ List.mem_append_right _ List.mem_cons_self)
        (cancel_not_mem seconds world m)

/-- Once the loop is back before a call is due, in two worlds, the calls go on alike if the worlds
do. -/
theorem calls_alike {seconds : K} {timer : Timer K} (created : Timer.new seconds = .ok timer)
    {world other : World K} {j : Nat} (running : (fire timer world j).broken = false)
    (other_running : (fire timer other j).broken = false)
    (early : (fire timer world j).now < due seconds j)
    (other_early : (fire timer other j).now < due seconds j)
    (alike : ∀ k, j ≤ k → world.work k = other.work k ∧ world.late k = other.late k ∧
      world.cancels k = other.cancels k) (n : Nat) {k : Nat} (later : j ≤ k) :
    (fire timer world n).calls[k]? = (fire timer other n).calls[k]? := by
  have caught_up : ∀ around : World K, (fire timer around j).broken = false →
      (∀ m < j, around.cancels m = false) ∧
        (fire timer around j).now = around.back (due seconds) j := by
    intro around unbroken
    rcases fire_cases created around j with ⟨quiet, same⟩ | ⟨m, -, -, -, broken, -⟩
    · exact ⟨quiet, by rw [same]; rfl⟩
    · rw [unbroken] at broken
      simp at broken
  obtain ⟨quiet, now⟩ := caught_up world running
  obtain ⟨other_quiet, other_now⟩ := caught_up other other_running
  have same : ∀ m, world.cancels m = other.cancels m := by
    intro m
    rcases Nat.lt_or_ge m j with before | after
    · rw [quiet m before, other_quiet m before]
    · exact (alike m after).2.2
  rw [getElem?_calls created, getElem?_calls created, Delays.begins_eq_of_early (now ▸ early)
    (other_now ▸ other_early) (fun m after => (alike m after).1)
    (fun m after => (alike m after).2.1) later]
  simp only [same]

end Loop

/-- A timer calls its block on schedule. -/
structure Punctual (seconds : K) (timer : Timer K) : Prop where
  /-- A call begins late by as much as the sleep before it when the loop is back before the call is
  due, and else at once. -/
  begins : ∀ (world : World K) (n k : Nat) (time : K),
    (Loop.fire timer world n).calls[k]? = some time →
      time = if (Loop.fire timer world k).now < (k + 1) * seconds
        then (k + 1) * seconds + world.late k else (Loop.fire timer world k).now
  /-- There is a call in every turn until the timer is canceled. -/
  happens : ∀ (world : World K) (k : Nat), (∀ m ≤ k, world.cancels m = false) →
    ∃ time, (Loop.fire timer world (k + 1)).calls[k]? = some time
  /-- No call begins early. -/
  never_early : ∀ (world : World K) (n k : Nat) (time : K),
    (Loop.fire timer world n).calls[k]? = some time → (k + 1) * seconds ≤ time
  /-- No more calls have begun than intervals have passed. -/
  bounded : ∀ (world : World K) (n : Nat) (time : K), 0 ≤ time →
    ((Loop.fire timer world n).calls.countP (· ≤ time) : K) ≤ time / seconds
  /-- What has been caught up with delays no call. -/
  forgets : ∀ (world other : World K) (j : Nat),
    (Loop.fire timer world j).broken = false → (Loop.fire timer other j).broken = false →
    (Loop.fire timer world j).now < (j + 1) * seconds →
    (Loop.fire timer other j).now < (j + 1) * seconds →
    (∀ k, j ≤ k → world.work k = other.work k ∧ world.late k = other.late k ∧
      world.cancels k = other.cancels k) →
    ∀ n k, j ≤ k → (Loop.fire timer world n).calls[k]? = (Loop.fire timer other n).calls[k]?
  /-- No call begins after `cancel` has been called. -/
  canceled : ∀ (world : World K) (n : Nat) (before after : List (Event K)),
    (Loop.fire timer world n).log = before ++ .cancel :: after →
      ∀ time tickD, .call time tickD ∉ after

/-- A timer with a positive interval calls its block on schedule. -/
theorem punctual {seconds : K} (positive : 0 < seconds) :
    ∃ timer, Timer.new seconds = .ok timer ∧ Punctual seconds timer := by
  have created : Timer.new seconds = .ok
      { seconds := seconds, tickInterval := seconds * ticksPerSecond, canceled := false } :=
    if_neg (not_lt.mpr positive.le)
  refine ⟨_, created, ?_⟩
  exact {
    begins := by
      intro world n k time called
      obtain ⟨scheduled, -, now⟩ := Loop.of_getElem?_calls created called
      rw [scheduled, now]
      rfl
    happens := by
      intro world k uncanceled
      rw [Loop.getElem?_calls created, if_pos ⟨Nat.lt_succ_self k, uncanceled⟩]
      exact ⟨_, rfl⟩
    never_early := by
      intro world n k time called
      obtain ⟨scheduled, -⟩ := Loop.of_getElem?_calls created called
      rw [scheduled]
      exact Loop.due_le_begins seconds world k
    bounded := by
      intro world n time nonneg
      obtain ⟨m, -, listed, -⟩ := Loop.exists_calls created world n
      rw [listed, Delays.countP_map_range, le_div_iff₀ positive]
      exact Delays.count_mul_le nonneg positive.le (Loop.due_le_begins seconds world) m
    forgets := by
      intro world other j running other_running early other_early alike n k later
      exact Loop.calls_alike created running other_running early other_early alike n later
    canceled := by
      intro world n before after log time tickD member
      rw [Loop.nothing_after_cancel created world log] at member
      exact List.not_mem_nil member }

/-- An audio timer. -/
theorem punctual_sample :
    ∃ timer, Timer.new (1 / 50 : ℚ) = .ok timer ∧ Punctual (1 / 50) timer :=
  punctual (by norm_num)

end Exact

end Util
end Contest
