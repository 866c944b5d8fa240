import Mathlib.Logic.Function.Basic

/-!
# Labelled runs and guarded invariants

A system is a partial step function: `step before event = some after` when the event is possible
in the state `before`.  A run executes a list of events.  `Meets` says that every step of a run
satisfies a guard on its event and on the state it starts from.  The induction from one step to a
whole run is carried out here once, with and without a guard.
-/

namespace Contest
namespace Transition

variable {State Event : Type*} (step : State → Event → Option State)

/-- Execute the events in order, failing at the first one that is not possible. -/
def run : State → List Event → Option State
  | state, [] => some state
  | state, event :: events =>
      match step state event with
      | none => none
      | some next => run next events

/-- Every step of the run satisfies the guard. -/
def Meets (guard : State → Event → Prop) : State → List Event → Prop
  | _, [] => True
  | state, event :: events =>
      guard state event ∧
        match step state event with
        | none => True
        | some next => Meets guard next events

variable {step}

@[simp]
theorem run_nil (state : State) : run step state [] = some state := rfl

theorem run_cons {state next : State} {event : Event} (possible : step state event = some next)
    (events : List Event) : run step state (event :: events) = run step next events := by
  simp [run, possible]

theorem run_cons_eq_some {state final : State} {event : Event} {events : List Event} :
    run step state (event :: events) = some final ↔
      ∃ next, step state event = some next ∧ run step next events = some final := by
  cases possible : step state event <;> simp [run, possible]

/-- A run can be cut after any of its events. -/
theorem run_append_eq_some {state final : State} {left right : List Event} :
    run step state (left ++ right) = some final ↔
      ∃ middle, run step state left = some middle ∧ run step middle right = some final := by
  induction left generalizing state with
  | nil => simp
  | cons event left ih =>
      simp only [List.cons_append, run_cons_eq_some, ih]
      constructor
      · rintro ⟨next, possible, middle, first, second⟩
        exact ⟨middle, ⟨next, possible, first⟩, second⟩
      · rintro ⟨middle, ⟨next, possible, first⟩, second⟩
        exact ⟨next, possible, middle, first, second⟩

theorem meets_cons {guard : State → Event → Prop} {state next : State} {event : Event}
    (possible : step state event = some next) (events : List Event) :
    Meets step guard state (event :: events) ↔
      guard state event ∧ Meets step guard next events := by
  simp [Meets, possible]

instance decidableMeets (guard : State → Event → Prop)
    [decideGuard : ∀ state event, Decidable (guard state event)] (state : State) :
    ∀ events, Decidable (Meets step guard state events) := fun events =>
  match events with
  | [] => isTrue trivial
  | event :: events =>
      match possible : step state event with
      | none => decidable_of_iff (guard state event) (by simp [Meets, possible])
      | some next =>
          have := decidableMeets guard next events
          decidable_of_iff (guard state event ∧ Meets step guard next events)
            (meets_cons possible events).symm

/-- A guarded run splits into two guarded runs. -/
theorem meets_append {guard : State → Event → Prop} {state middle : State}
    {left right : List Event} (first : run step state left = some middle) :
    Meets step guard state (left ++ right) ↔
      Meets step guard state left ∧ Meets step guard middle right := by
  induction left generalizing state with
  | nil =>
      obtain rfl : state = middle := by simpa using first
      simp [Meets]
  | cons event left ih =>
      obtain ⟨next, possible, rest⟩ := run_cons_eq_some.mp first
      rw [List.cons_append, meets_cons possible, meets_cons possible, ih rest, and_assoc]

/-- A run is guarded when the guard holds wherever the run is cut. -/
theorem meets_iff {guard : State → Event → Prop} {initial final : State} {events : List Event}
    (execution : run step initial events = some final) :
    Meets step guard initial events ↔ ∀ earlier event later before,
      events = earlier ++ event :: later → run step initial earlier = some before →
        guard before event := by
  constructor
  · rintro meets earlier event later before rfl first
    obtain ⟨-, here⟩ := (meets_append first).mp meets
    exact here.1
  · intro everywhere
    induction events generalizing initial with
    | nil => trivial
    | cons event events ih =>
        obtain ⟨next, possible, rest⟩ := run_cons_eq_some.mp execution
        refine (meets_cons possible events).mpr
          ⟨everywhere [] event events initial rfl rfl, ih rest ?_⟩
        rintro earlier later_event later before rfl first
        refine everywhere (event :: earlier) later_event later before rfl ?_
        rw [run_cons possible]
        exact first

/-- Every run meets the trivial guard. -/
theorem meets_true (state : State) (events : List Event) :
    Meets step (fun _ _ => True) state events := by
  induction events generalizing state with
  | nil => trivial
  | cons event events ih =>
      cases possible : step state event with
      | none => simp [Meets, possible]
      | some next => exact (meets_cons possible events).mpr ⟨trivial, ih next⟩

/-- An invariant kept by every guarded step holds after every guarded run. -/
theorem invariant_of_meets (guard : State → Event → Prop) (invariant : State → Prop)
    (kept : ∀ {before event after}, invariant before → guard before event →
      step before event = some after → invariant after)
    {initial final : State} {events : List Event} (start : invariant initial)
    (meets : Meets step guard initial events) (execution : run step initial events = some final) :
    invariant final := by
  induction events generalizing initial with
  | nil =>
      obtain rfl : initial = final := by simpa using execution
      exact start
  | cons event events ih =>
      obtain ⟨next, possible, later⟩ := run_cons_eq_some.mp execution
      obtain ⟨guarded, rest⟩ := (meets_cons possible events).mp meets
      exact ih (kept start guarded possible) rest later

/-- An invariant kept by every step holds after every run. -/
theorem invariant_of_run {invariant : State → Prop}
    (kept : ∀ {before event after}, invariant before →
      step before event = some after → invariant after)
    {initial final : State} {events : List Event} (start : invariant initial)
    (execution : run step initial events = some final) : invariant final :=
  invariant_of_meets (fun _ _ => True) invariant (fun held _ => kept held) start
    (meets_true initial events) execution

/-- An invariant of the state and of the events that have led to it holds after every run. -/
theorem history_of_run {invariant : List Event → State → Prop}
    (kept : ∀ {events before event after}, invariant events before →
      step before event = some after → invariant (events ++ [event]) after)
    {earlier events : List Event} {initial final : State} (start : invariant earlier initial)
    (execution : run step initial events = some final) : invariant (earlier ++ events) final := by
  induction events generalizing initial earlier with
  | nil =>
      obtain rfl : initial = final := by simpa using execution
      exact (List.append_nil earlier).symm ▸ start
  | cons event events ih =>
      obtain ⟨next, possible, later⟩ := run_cons_eq_some.mp execution
      rw [List.append_cons]
      exact ih (kept start possible) later

/-- A property that a run brings about is brought about by one of its steps. -/
theorem exists_step_of_run (property : State → Prop) {initial final : State} {events : List Event}
    (start : ¬property initial) (finish : property final)
    (execution : run step initial events = some final) :
    ∃ earlier event later before after, events = earlier ++ event :: later ∧
      run step initial earlier = some before ∧ step before event = some after ∧
      run step after later = some final ∧ ¬property before ∧ property after := by
  induction events generalizing initial with
  | nil =>
      obtain rfl : initial = final := by simpa using execution
      exact absurd finish start
  | cons event events ih =>
      obtain ⟨next, possible, rest⟩ := run_cons_eq_some.mp execution
      by_cases reached : property next
      · exact ⟨[], event, events, initial, next, rfl, rfl, possible, rest, start, reached⟩
      · obtain ⟨earlier, later_event, later, before, after, rfl, first, second, last, without,
          within⟩ := ih reached rest
        refine ⟨event :: earlier, later_event, later, before, after, rfl, ?_, second, last,
          without, within⟩
        rw [run_cons possible]
        exact first

/-- A run in which a kind of event occurs more than `n` times can be cut at the one that comes after
`n` others. -/
theorem exists_cut_of_lt_countP {kind : Event → Bool} {n : Nat} {events : List Event}
    (many : n < events.countP kind) :
    ∃ earlier event later, events = earlier ++ event :: later ∧ kind event = true ∧
      earlier.countP kind = n := by
  induction events generalizing n with
  | nil => simp at many
  | cons event events ih =>
      cases here : kind event with
      | false =>
          obtain ⟨earlier, found, later, rfl, held, counted⟩ :=
            ih (by simpa [List.countP_cons, here] using many)
          exact ⟨event :: earlier, found, later, rfl, held, by simp [here, counted]⟩
      | true =>
          cases n with
          | zero => exact ⟨[], event, events, rfl, here, rfl⟩
          | succ n =>
              obtain ⟨earlier, found, later, rfl, held, counted⟩ :=
                ih (by simpa [List.countP_cons, here] using many)
              exact ⟨event :: earlier, found, later, rfl, held, by simp [here, counted]⟩

end Transition
end Contest
