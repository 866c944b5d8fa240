import Mathlib.Data.List.Pairwise

/-!
# Computations with a log

A computation changes a state, writes outputs, and returns a value or raises an exception; what has
been changed and written before an exception stays.  An object with such computations for its
operations is run on a list of operations, whatever their results are, and the log of a run is what
each of the operations has written.
-/

namespace Contest

/-- A computation that changes a state, writes outputs, and returns or raises. -/
structure Logged (State Output Error α : Type) where
  /-- What it returns, the state that it leaves, and what it writes. -/
  run : State → Except Error α × State × List Output

namespace Logged

variable {State Output Error α β : Type}

instance : Monad (Logged State Output Error) where
  pure value := ⟨fun state => (.ok value, state, [])⟩
  bind first next := ⟨fun state =>
    match first.run state with
    | (.error e, middle, outputs) => (.error e, middle, outputs)
    | (.ok value, middle, outputs) =>
        (((next value).run middle).1, ((next value).run middle).2.1,
          outputs ++ ((next value).run middle).2.2)⟩

/-- Write an output. -/
def emit (output : Output) : Logged State Output Error Unit := ⟨fun state =>
  (.ok (), state, [output])⟩

/-- The state. -/
def current : Logged State Output Error State := ⟨fun state => (.ok state, state, [])⟩

/-- Change the state. -/
def update (change : State → State) : Logged State Output Error Unit := ⟨fun state =>
  (.ok (), change state, [])⟩

/-- Return or raise, and nothing else. -/
def ofResult (result : Except Error α) : Logged State Output Error α := ⟨fun state =>
  (result, state, [])⟩

/-- Raise an exception. -/
def raise (e : Error) : Logged State Output Error α := ofResult (.error e)

variable {first : Logged State Output Error α} {next : α → Logged State Output Error β}
  {state middle : State} {outputs : List Output}

theorem bind_of_ok {value : α} (returns : first.run state = (.ok value, middle, outputs)) :
    (first >>= next).run state =
      (((next value).run middle).1, ((next value).run middle).2.1,
        outputs ++ ((next value).run middle).2.2) := by
  simp only [bind, returns]

theorem bind_of_error {e : Error} (raises : first.run state = (.error e, middle, outputs)) :
    (first >>= next).run state = (.error e, middle, outputs) := by
  simp only [bind, raises]

/-- A sequence ends with its first part, or goes on from where that has stopped. -/
theorem bind_cases (first : Logged State Output Error α) (next : α → Logged State Output Error β)
    (state : State) :
    (∃ e, (first.run state).1 = .error e ∧
      (first >>= next).run state = (.error e, (first.run state).2)) ∨
    ∃ value, (first.run state).1 = .ok value ∧
      (first >>= next).run state =
        (((next value).run (first.run state).2.1).1, ((next value).run (first.run state).2.1).2.1,
          (first.run state).2.2 ++ ((next value).run (first.run state).2.1).2.2) := by
  cases returned : (first.run state).1 with
  | error e => exact .inl ⟨e, rfl, bind_of_error (Prod.ext returned rfl)⟩
  | ok value => exact .inr ⟨value, rfl, bind_of_ok (Prod.ext returned rfl)⟩

/-- A value that is put in the place of another one changes nothing else. -/
theorem snd_run_bind_pure (first : Logged State Output Error α) (value : β) (state : State) :
    ((first >>= fun _ => pure value).run state).2 = (first.run state).2 := by
  rcases bind_cases first (fun _ => pure value) state with ⟨e, -, raises⟩ | ⟨_, -, returns⟩
  · rw [raises]
  · rw [returns]
    exact Prod.ext rfl (List.append_nil _)

@[simp]
theorem run_pure (value : α) (state : State) :
    (pure value : Logged State Output Error α).run state = (.ok value, state, []) := rfl

@[simp]
protected theorem pure_bind (value : α) : (pure value >>= next) = next value := rfl

@[simp]
theorem ofResult_ok_bind (value : α) : (ofResult (.ok value) >>= next) = next value := rfl

@[simp]
theorem ofResult_error_bind (e : Error) :
    ((ofResult (.error e) : Logged State Output Error α) >>= next) = ofResult (.error e) := rfl

@[simp]
theorem raise_bind (e : Error) :
    ((raise e : Logged State Output Error α) >>= next) = raise e := rfl

@[simp]
theorem run_raise (e : Error) (state : State) :
    (raise e : Logged State Output Error α).run state = (.error e, state, []) := rfl

@[simp]
theorem run_ofResult (result : Except Error α) (state : State) :
    (ofResult result : Logged State Output Error α).run state = (result, state, []) := rfl

@[simp]
theorem run_emit_bind (output : Output) (next : Unit → Logged State Output Error β)
    (state : State) :
    (emit output >>= next).run state =
      (((next ()).run state).1, ((next ()).run state).2.1,
        output :: ((next ()).run state).2.2) := rfl

@[simp]
theorem run_current_bind (next : State → Logged State Output Error β) (state : State) :
    (current >>= next).run state = (next state).run state := rfl

@[simp]
theorem run_update_bind (change : State → State) (next : Unit → Logged State Output Error β)
    (state : State) : (update change >>= next).run state = (next ()).run (change state) := rfl

/-! ### What is written -/

/-- Every output is of a given kind. -/
def Emits (kind : Output → Prop) (computation : Logged State Output Error α) : Prop :=
  ∀ state, ∀ output ∈ (computation.run state).2.2, kind output

variable {kind : Output → Prop}

theorem emits_of_silent {computation : Logged State Output Error α}
    (silent : ∀ state, (computation.run state).2.2 = []) : Emits kind computation := by
  intro state output member
  simp [silent state] at member

theorem emits_pure (value : α) : Emits kind (pure value : Logged State Output Error α) :=
  emits_of_silent fun _ => rfl

theorem emits_current : Emits kind (current : Logged State Output Error State) :=
  emits_of_silent fun _ => rfl

theorem emits_update (change : State → State) :
    Emits kind (update change : Logged State Output Error Unit) :=
  emits_of_silent fun _ => rfl

theorem emits_ofResult (result : Except Error α) :
    Emits kind (ofResult result : Logged State Output Error α) :=
  emits_of_silent fun _ => rfl

theorem emits_emit {output : Output} (allowed : kind output) :
    Emits kind (emit output : Logged State Output Error Unit) := by
  intro state other member
  obtain rfl := List.mem_singleton.mp member
  exact allowed

/-- A sequence writes what its parts write. -/
theorem Emits.bind (left : Emits kind first) (right : ∀ value, Emits kind (next value)) :
    Emits kind (first >>= next) := by
  intro state output member
  rcases bind_cases first next state with ⟨e, -, raises⟩ | ⟨value, -, returns⟩
  · rw [raises] at member
    exact left state output member
  · rw [returns] at member
    rcases List.mem_append.mp member with early | late
    · exact left state output early
    · exact right value _ output late

theorem emits_forM {write : β → Logged State Output Error Unit} (list : List β)
    (each : ∀ element ∈ list, Emits kind (write element)) : Emits kind (list.forM write) := by
  induction list with
  | nil => exact emits_pure ()
  | cons element list ih =>
      exact (each element List.mem_cons_self).bind fun _ =>
        ih fun other member => each other (List.mem_cons_of_mem element member)

/-! ### Laws -/

/-- A relation between two states and what is written in between, which can be put together. -/
structure Law (State Output : Type) where
  /-- It holds of the states before and after, and of the outputs. -/
  holds : State → State → List Output → Prop
  /-- It holds where nothing is done. -/
  refl : ∀ state, holds state state []
  /-- What is done in two parts keeps to it if both parts do. -/
  trans : ∀ {before middle after left right}, holds before middle left →
    holds middle after right → holds before after (left ++ right)

/-- A computation keeps to a law, from every state. -/
def Obeys (law : Law State Output) (computation : Logged State Output Error α) : Prop :=
  ∀ state, law.holds state (computation.run state).2.1 (computation.run state).2.2

variable {law : Law State Output}

theorem obeys_pure (value : α) : Obeys law (pure value : Logged State Output Error α) :=
  fun state => law.refl state

theorem obeys_current : Obeys law (current : Logged State Output Error State) :=
  fun state => law.refl state

theorem obeys_update {change : State → State}
    (allowed : ∀ state, law.holds state (change state) []) :
    Obeys law (update change : Logged State Output Error Unit) := allowed

/-- A sequence keeps to the laws that its parts keep to. -/
theorem Obeys.bind (left : Obeys law first) (right : ∀ value, Obeys law (next value)) :
    Obeys law (first >>= next) := by
  intro state
  rcases bind_cases first next state with ⟨e, -, raises⟩ | ⟨value, -, returns⟩
  · rw [raises]
    exact left state
  · rw [returns]
    exact law.trans (left state) (right value _)

/-! ### Runs of operations -/

section Operations

variable {Operation : Type} (perform : Operation → Logged State Output Error Unit)

/-- The operations, each with the state that it finds. -/
def visits : State → List Operation → List (State × Operation)
  | _, [] => []
  | state, operation :: operations =>
      (state, operation) :: visits ((perform operation).run state).2.1 operations

/-- The state after the operations. -/
def final : State → List Operation → State
  | state, [] => state
  | state, operation :: operations => final ((perform operation).run state).2.1 operations

/-- What an operation writes in the state that it finds. -/
def written (visit : State × Operation) : List Output := ((perform visit.2).run visit.1).2.2

/-- What each of the operations writes. -/
def logs (state : State) (operations : List Operation) : List (List Output) :=
  (visits perform state operations).map (written perform)

/-- Operations can be visited in two parts. -/
theorem visits_append (state : State) (left right : List Operation) :
    visits perform state (left ++ right) =
      visits perform state left ++ visits perform (final perform state left) right := by
  induction left generalizing state with
  | nil => rfl
  | cons operation left ih => rw [List.cons_append, visits, ih, visits, final, List.cons_append]

theorem final_append (state : State) (left right : List Operation) :
    final perform state (left ++ right) = final perform (final perform state left) right := by
  induction left generalizing state with
  | nil => rfl
  | cons operation left ih => exact ih _

/-- What is read off the logs is as expected exactly if it is for every operation. -/
theorem map_logs_eq_iff {β : Type*} {read : List Output → β} {expected : Operation → β}
    {correct : Operation → Prop}
    (one : ∀ operation before, read (written perform (before, operation)) = expected operation ↔
      correct operation)
    (state : State) (operations : List Operation) :
    (logs perform state operations).map read = operations.map expected ↔
      ∀ operation ∈ operations, correct operation := by
  induction operations generalizing state with
  | nil => simp [logs, visits]
  | cons operation operations ih =>
      have rest := ih ((perform operation).run state).2.1
      rw [logs] at rest
      rw [logs, visits, List.map_cons, List.map_cons, List.map_cons, List.cons.injEq, one, rest,
        List.forall_mem_cons]

/-- A flag that some operations set and others clear is up at the end of a run if it was up at the
start or has been set, and has not been cleared since. -/
theorem flag_final_iff {flag : State → Prop} {sets clears : State × Operation → Prop}
    (step : ∀ state operation, flag ((perform operation).run state).2.1 ↔
      sets (state, operation) ∨ flag state ∧ ¬clears (state, operation))
    (state : State) (operations : List Operation) :
    flag (final perform state operations) ↔
      (flag state ∧ ∀ visit ∈ visits perform state operations, ¬clears visit) ∨
        ∃ earlier operation later, operations = earlier ++ operation :: later ∧
          sets (final perform state earlier, operation) ∧
            ∀ visit ∈ visits perform (final perform state (earlier ++ [operation])) later,
              ¬clears visit := by
  induction operations generalizing state with
  | nil => simp [final, visits]
  | cons operation operations ih =>
      rw [final, ih, step, visits, List.forall_mem_cons]
      constructor
      · rintro (⟨set | ⟨up, kept⟩, quiet⟩ | ⟨earlier, other, later, rfl, set, quiet⟩)
        · exact .inr ⟨[], operation, operations, rfl, set, quiet⟩
        · exact .inl ⟨up, kept, quiet⟩
        · exact .inr ⟨operation :: earlier, other, later, rfl, set, quiet⟩
      · rintro (⟨up, kept, quiet⟩ | ⟨earlier, other, later, split, set, quiet⟩)
        · exact .inl ⟨.inr ⟨up, kept⟩, quiet⟩
        · cases earlier with
          | nil =>
              obtain ⟨rfl, rfl⟩ := List.cons.inj split
              exact .inl ⟨.inl set, quiet⟩
          | cons first earlier =>
              obtain ⟨rfl, rfl⟩ := List.cons.inj split
              exact .inr ⟨earlier, other, later, rfl, set, quiet⟩

/-- A law that every operation keeps to holds from the start to the end of every run. -/
theorem holds_run (each : ∀ operation, Obeys law (perform operation)) (state : State)
    (operations : List Operation) :
    law.holds state (final perform state operations) (logs perform state operations).flatten := by
  induction operations generalizing state with
  | nil => exact law.refl state
  | cons operation operations ih => exact law.trans (each operation state) (ih _)

end Operations

end Logged
end Contest
