import Contest.Audio
import Contest.Foundation.Chunks

/-!
# The completion of a stream

`Audio::Stream` hands on what a subclass produces, and calls a block when there is nothing left.
The flag that keeps the block from being called again is set when it has returned: a block that
raises is called again.
-/

namespace Contest
namespace Audio

/-- A block, by what comes of its calls. -/
structure Block where
  /-- What comes of the n-th call. -/
  outcome : Nat → Fallible Unit
  /-- How often it has been called. -/
  runs : Nat

/-- `call`. -/
def Block.call (block : Block) : Fallible Unit × Block :=
  (block.outcome block.runs, { block with runs := block.runs + 1 })

/-- `Stream`, over the fields of a subclass. -/
structure Stream (σ : Type) where
  /-- The fields of the subclass. -/
  source : σ
  /-- The block that has been registered. -/
  onCompleteCallback : Option Block
  /-- Whether it has been called. -/
  onCompleteCallbackCalled : Bool

/-- What can be asked of a stream. -/
inductive Call
  /-- `on_complete` with a new block. -/
  | onComplete (outcome : Nat → Fallible Unit)
  /-- `next`. -/
  | next

/-- Whether it is `next`. -/
def Call.isNext : Call → Bool
  | .onComplete _ => false
  | .next => true

/-- The blocks that are registered. -/
def registrations (calls : List Call) : List (Nat → Fallible Unit) :=
  calls.filterMap fun call => match call with
    | .onComplete outcome => some outcome
    | .next => none

namespace Stream

section Subclass

variable {σ : Type} (produce : σ → Option (List Int16) × σ)

/-- `Stream.new`. -/
def new (source : σ) : Stream σ :=
  { source := source, onCompleteCallback := none, onCompleteCallbackCalled := false }

/-- `on_complete`. -/
def onComplete (stream : Stream σ) (block : Block) : Stream σ :=
  { stream with onCompleteCallback := some block }

/-- `next`, over the `_next` of a subclass. -/
def next (stream : Stream σ) : Fallible (Option (List Int16)) × Stream σ :=
  let (ret, source) := produce stream.source
  let stream := { stream with source := source }
  match ret with
  | some frame => (.ok (some frame), stream)
  | none =>
      if stream.onCompleteCallbackCalled then (.ok none, stream)
      else
        match stream.onCompleteCallback with
        | none => (.ok none, stream)
        | some block =>
            let stream := { stream with onCompleteCallback := some block.call.2 }
            match block.call.1 with
            | .error raised => (.error raised, stream)
            | .ok () => (.ok none, { stream with onCompleteCallbackCalled := true })

/-- What a call makes of a stream. -/
def perform (stream : Stream σ) : Call → Stream σ
  | .onComplete outcome => stream.onComplete { outcome := outcome, runs := 0 }
  | .next => (next produce stream).2

/-- What calls make of a stream. -/
def after (stream : Stream σ) (calls : List Call) : Stream σ := calls.foldl (perform produce) stream

/-- How often the registered block has been called. -/
def runs (stream : Stream σ) : Nat :=
  match stream.onCompleteCallback with
  | none => 0
  | some block => block.runs

/-- How many calls of `next` with a block registered find the stream exhausted. -/
def exhaustions (stream : Stream σ) : List Call → Nat
  | [] => 0
  | call :: later =>
      (if call.isNext && stream.onCompleteCallback.isSome && (produce stream.source).1.isNone then 1
        else 0) + exhaustions (perform produce stream call) later

theorem after_cons (stream : Stream σ) (call : Call) (later : List Call) :
    after produce stream (call :: later) = after produce (perform produce stream call) later := rfl

/-! ### One call -/

variable {produce} {stream : Stream σ}

/-- What `next` can do. -/
inductive NextTurn (produce : σ → Option (List Int16) × σ) (stream : Stream σ) :
    Fallible (Option (List Int16)) × Stream σ → Prop
  /-- There is something to hand on. -/
  | frame {frame : List Int16} (produced : (produce stream.source).1 = some frame) :
      NextTurn produce stream
        (.ok (some frame), { stream with source := (produce stream.source).2 })
  /-- There is nothing left, and nothing to call. -/
  | idle (exhausted : (produce stream.source).1 = none)
      (settled : stream.onCompleteCallbackCalled = true ∨ stream.onCompleteCallback = none) :
      NextTurn produce stream (.ok none, { stream with source := (produce stream.source).2 })
  /-- There is nothing left, and the block returns. -/
  | completed {block : Block} (exhausted : (produce stream.source).1 = none)
      (uncalled : stream.onCompleteCallbackCalled = false)
      (registered : stream.onCompleteCallback = some block)
      (returned : block.outcome block.runs = .ok ()) :
      NextTurn produce stream (.ok none, ⟨(produce stream.source).2, some block.call.2, true⟩)
  /-- There is nothing left, and the block raises. -/
  | failed {block : Block} {e : Exn} (exhausted : (produce stream.source).1 = none)
      (uncalled : stream.onCompleteCallbackCalled = false)
      (registered : stream.onCompleteCallback = some block)
      (raised : block.outcome block.runs = .error e) :
      NextTurn produce stream (.error e, ⟨(produce stream.source).2, some block.call.2, false⟩)

theorem next_turn (produce : σ → Option (List Int16) × σ) (stream : Stream σ) :
    NextTurn produce stream (next produce stream) := by
  cases produced : (produce stream.source).1 with
  | some frame =>
      have result : next produce stream =
          (.ok (some frame), { stream with source := (produce stream.source).2 }) := by
        simp [next, produced]
      exact result ▸ .frame produced
  | none =>
      by_cases settled : stream.onCompleteCallbackCalled = true ∨ stream.onCompleteCallback = none
      · have result : next produce stream =
            (.ok none, { stream with source := (produce stream.source).2 }) := by
          rcases settled with called | unregistered
          · simp [next, produced, called]
          · simp [next, produced, unregistered]
        exact result ▸ .idle produced settled
      · obtain ⟨uncalled, registered⟩ := not_or.mp settled
        rw [Bool.not_eq_true] at uncalled
        obtain ⟨block, registered⟩ := Option.ne_none_iff_exists'.mp registered
        cases ran : block.outcome block.runs with
        | ok _ =>
            have result : next produce stream =
                (.ok none, ⟨(produce stream.source).2, some block.call.2, true⟩) := by
              simp [next, produced, uncalled, registered, Block.call, ran]
            exact result ▸ .completed produced uncalled registered ran
        | error e =>
            have result : next produce stream =
                (.error e, ⟨(produce stream.source).2, some block.call.2, false⟩) := by
              simp [next, produced, uncalled, registered, Block.call, ran]
            exact result ▸ .failed produced uncalled registered ran

theorem source_next : (next produce stream).2.source = (produce stream.source).2 := by
  have turn := next_turn produce stream
  generalize next produce stream = result at turn ⊢
  cases turn <;> rfl

/-- What the subclass produces is what `next` returns, unless the block raises. -/
theorem next_fst (returns : ∀ block, stream.onCompleteCallback = some block →
    block.outcome block.runs = .ok ()) :
    (next produce stream).1 = .ok (produce stream.source).1 := by
  have turn := next_turn produce stream
  generalize next produce stream = result at turn ⊢
  cases turn with
  | frame produced => rw [produced]
  | idle exhausted => rw [exhausted]
  | completed exhausted => rw [exhausted]
  | failed _ _ registered raised =>
      rw [returns _ registered] at raised
      simp at raised

/-- `next` keeps the block that is registered. -/
theorem outcome_next : (next produce stream).2.onCompleteCallback.map Block.outcome =
    stream.onCompleteCallback.map Block.outcome := by
  have turn := next_turn produce stream
  generalize next produce stream = result at turn ⊢
  cases turn with
  | frame => rfl
  | idle => rfl
  | completed _ _ registered =>
      rw [registered]
      rfl
  | failed _ _ registered =>
      rw [registered]
      rfl

/-! ### Many calls -/

/-- The subclass is asked once for each call of `next`. -/
theorem source_after (stream : Stream σ) (calls : List Call) :
    (after produce stream calls).source =
      (fun source => (produce source).2)^[calls.countP Call.isNext] stream.source := by
  induction calls generalizing stream with
  | nil => rfl
  | cons call later induction =>
      rw [after_cons, induction, List.countP_cons]
      cases call with
      | onComplete outcome => rfl
      | next =>
          rw [perform, source_next]
          rfl

/-- How often a block is called for so many exhaustions, if it has been called n times. -/
def attempts (outcome : Nat → Fallible Unit) (n : Nat) : Nat → Nat
  | 0 => 0
  | m + 1 =>
      match outcome n with
      | .ok () => 1
      | .error _ => attempts outcome (n + 1) m + 1

theorem attempts_of_returns {outcome : Nat → Fallible Unit} {n : Nat}
    (returns : outcome n = .ok ()) (m : Nat) :
    attempts outcome n m = if 0 < m then 1 else 0 := by
  cases m with
  | zero => rfl
  | succ m => simp [attempts, returns]

theorem attempts_of_le_one (outcome : Nat → Fallible Unit) (n : Nat) {m : Nat} (few : m ≤ 1) :
    attempts outcome n m = if 0 < m then 1 else 0 := by
  match m, few with
  | 0, _ => rfl
  | 1, _ => cases ran : outcome n <;> simp [attempts, ran]

/-- A block that has returned is not called again. -/
theorem runs_after_of_called {stream : Stream σ} (block : Block) {calls : List Call}
    (registered : stream.onCompleteCallback = some block)
    (called : stream.onCompleteCallbackCalled = true) (none_registered : registrations calls = []) :
    (after produce stream calls).runs = block.runs := by
  induction calls generalizing stream with
  | nil => simp [after, runs, registered]
  | cons call later induction =>
      cases call with
      | onComplete outcome => simp [registrations] at none_registered
      | next =>
          rw [after_cons, perform]
          have turn := next_turn produce stream
          generalize next produce stream = result at turn ⊢
          cases turn with
          | frame => exact induction registered called none_registered
          | idle => exact induction registered called none_registered
          | completed _ uncalled => simp [called] at uncalled
          | failed _ uncalled => simp [called] at uncalled

/-- A registered block is called for each exhaustion until it returns. -/
theorem runs_after_of_registered {stream : Stream σ} (block : Block) {calls : List Call}
    (registered : stream.onCompleteCallback = some block)
    (uncalled : stream.onCompleteCallbackCalled = false)
    (none_registered : registrations calls = []) :
    (after produce stream calls).runs =
      block.runs + attempts block.outcome block.runs (exhaustions produce stream calls) := by
  induction calls generalizing stream block with
  | nil => simp [after, runs, registered, exhaustions, attempts]
  | cons call later induction =>
      cases call with
      | onComplete outcome => simp [registrations] at none_registered
      | next =>
          rw [after_cons, exhaustions, perform]
          have turn := next_turn produce stream
          generalize next produce stream = result at turn ⊢
          cases turn with
          | frame produced =>
              simp only [produced, Option.isNone_some, Bool.and_false, Bool.false_eq_true,
                if_false, Nat.zero_add]
              exact induction block registered uncalled none_registered
          | idle _ settled => simp [uncalled, registered] at settled
          | completed exhausted _ same returned =>
              obtain rfl := Option.some.inj (registered.symm.trans same)
              simp only [Call.isNext, registered, exhausted, Option.isSome_some,
                Option.isNone_none, Bool.and_true, if_true, Nat.add_comm 1, attempts, returned]
              exact runs_after_of_called block.call.2 rfl rfl none_registered
          | failed exhausted _ same raised =>
              obtain rfl := Option.some.inj (registered.symm.trans same)
              simp only [Call.isNext, registered, exhausted, Option.isSome_some,
                Option.isNone_none, Bool.and_true, if_true, Nat.add_comm 1, attempts, raised]
              rw [induction block.call.2 rfl rfl none_registered]
              simp only [Block.call]
              omega

/-- A block is called for each exhaustion from its registration on until it returns. -/
theorem runs_after {stream : Stream σ} {calls : List Call} {outcome : Nat → Fallible Unit}
    (unregistered : stream.onCompleteCallback = none)
    (uncalled : stream.onCompleteCallbackCalled = false)
    (registered : registrations calls = [outcome]) :
    (after produce stream calls).runs =
      attempts outcome 0 (exhaustions produce stream calls) := by
  induction calls generalizing stream with
  | nil => simp [registrations] at registered
  | cons call later induction =>
      rw [after_cons, exhaustions]
      cases call with
      | onComplete other =>
          obtain ⟨rfl, none_registered⟩ : other = outcome ∧ registrations later = [] := by
            simpa [registrations] using registered
          rw [perform]
          simp only [Call.isNext, Bool.false_and, Bool.false_eq_true, if_false, Nat.zero_add]
          have calls_from_here := @runs_after_of_registered σ produce
            (stream.onComplete ⟨other, 0⟩) ⟨other, 0⟩ later rfl uncalled none_registered
          rw [calls_from_here]
          exact Nat.zero_add _
      | next =>
          rw [perform]
          simp only [unregistered, Option.isSome_none, Bool.and_false, Bool.false_and,
            Bool.false_eq_true, if_false, Nat.zero_add]
          have turn := next_turn produce stream
          generalize next produce stream = result at turn ⊢
          cases turn with
          | frame => exact induction unregistered uncalled registered
          | idle => exact induction unregistered uncalled registered
          | completed _ _ found => simp [unregistered] at found
          | failed _ _ found => simp [unregistered] at found

/-- If all blocks return, the one that is registered does. -/
theorem returns_after {stream : Stream σ} {calls : List Call}
    (first : ∀ outcome ∈ stream.onCompleteCallback.map Block.outcome, ∀ n, outcome n = .ok ())
    (others : ∀ outcome ∈ registrations calls, ∀ n, outcome n = .ok ()) :
    ∀ outcome ∈ (after produce stream calls).onCompleteCallback.map Block.outcome,
      ∀ n, outcome n = .ok () := by
  induction calls generalizing stream with
  | nil => exact first
  | cons call later induction =>
      rw [after_cons]
      cases call with
      | onComplete other =>
          have all := List.forall_mem_cons.mp others
          refine induction ?_ all.2
          rintro outcome ⟨⟩
          exact all.1
      | next =>
          refine induction ?_ others
          rw [perform, outcome_next]
          exact first

/-- What `next` returns after other calls, if all blocks return. -/
theorem next_fst_after (source : σ) {calls : List Call}
    (returns : ∀ outcome ∈ registrations calls, ∀ n, outcome n = .ok ()) :
    (next produce (after produce (new source) calls)).1 =
      .ok (produce ((fun source => (produce source).2)^[calls.countP Call.isNext] source)).1 := by
  have none_first : ∀ outcome ∈ (new source).onCompleteCallback.map Block.outcome,
      ∀ n, outcome n = .ok () := by
    rintro outcome ⟨⟩
  rw [next_fst, source_after]
  · rfl
  · intro block registered
    have returning := @returns_after σ produce (new source) calls none_first returns
    refine returning block.outcome ?_ block.runs
    rw [registered]
    rfl

end Subclass

end Stream

namespace SixteenBitStream

open Chunks

theorem samplesPerFrame_pos : 0 < samplesPerFrame := by decide

theorem next_eq (samples : List Int16) (n : Nat) :
    next ⟨samples, min (n * samplesPerFrame) samples.length⟩ =
      ((chunks samplesPerFrame samples)[n]?,
        ⟨samples, min ((n + 1) * samplesPerFrame) samples.length⟩) := by
  rw [getElem?_chunks samplesPerFrame_pos, Nat.succ_mul, next]
  by_cases inside : n * samplesPerFrame < samples.length
  · have position : min (n * samplesPerFrame) samples.length = n * samplesPerFrame := by omega
    have grabbed : n * samplesPerFrame + min samplesPerFrame
        (samples.length - n * samplesPerFrame) =
          min (n * samplesPerFrame + samplesPerFrame) samples.length := by omega
    have short : (samples.drop (n * samplesPerFrame)).take
        (min samplesPerFrame (samples.length - n * samplesPerFrame)) =
          chunk samplesPerFrame samples n := by
      rw [← List.length_drop, ← List.take_eq_take_min]
      rfl
    simp only [position, Nat.not_le.mpr inside, if_false, inside, if_true, grabbed, short]
  · have position : min (n * samplesPerFrame) samples.length = samples.length := by omega
    have still : min (n * samplesPerFrame + samplesPerFrame) samples.length = samples.length := by
      omega
    simp only [position, Nat.le_refl, if_true, inside, if_false, still]

/-- Where a stream is after so many calls of `_next`. -/
theorem iterate_next (samples : List Int16) (n : Nat) :
    (fun stream => (next stream).2)^[n] (new samples) =
      ⟨samples, min (n * samplesPerFrame) samples.length⟩ := by
  induction n with
  | zero => simp [new]
  | succ n induction => rw [Function.iterate_succ_apply', induction, next_eq]

end SixteenBitStream

/-- A stream of samples delivers everything once. -/
structure DeliversOnce (samples : List Int16) : Prop where
  /-- The calls of `next` return the samples in frames, and then nothing. -/
  frames : ∃ frames : List (List Int16), frames.flatten = samples ∧
    (∀ frame ∈ frames, frame ≠ [] ∧ frame.length ≤ 960) ∧
      (∀ frame ∈ frames.dropLast, frame.length = 960) ∧
        ∀ calls, (∀ outcome ∈ registrations calls, ∀ n, outcome n = .ok ()) →
          (Stream.next SixteenBitStream.next
            (Stream.after SixteenBitStream.next (.new (.new samples)) calls)).1 =
              .ok frames[calls.countP Call.isNext]?
  /-- The registered block is called once if a call of `next` with the block registered finds the
  stream exhausted, and else not at all. -/
  completes : ∀ calls outcome, registrations calls = [outcome] →
    (outcome 0 = .ok () ∨
      Stream.exhaustions SixteenBitStream.next (.new (.new samples)) calls ≤ 1) →
    (Stream.after SixteenBitStream.next (.new (.new samples)) calls).runs =
      if 0 < Stream.exhaustions SixteenBitStream.next (.new (.new samples)) calls then 1 else 0

/-- Every stream of samples delivers everything once. -/
theorem deliversOnce (samples : List Int16) : DeliversOnce samples where
  frames := by
    refine ⟨Chunks.chunks samplesPerFrame samples,
      Chunks.flatten_chunks SixteenBitStream.samplesPerFrame_pos samples, ?_, ?_, ?_⟩
    · intro frame member
      exact ⟨Chunks.ne_nil_of_mem_chunks SixteenBitStream.samplesPerFrame_pos member,
        Chunks.length_le_of_mem_chunks member⟩
    · intro frame member
      exact Chunks.length_of_mem_dropLast SixteenBitStream.samplesPerFrame_pos member
    · intro calls returns
      rw [Stream.next_fst_after _ returns, SixteenBitStream.iterate_next,
        SixteenBitStream.next_eq]
  completes := by
    intro calls outcome registered returns
    rw [Stream.runs_after rfl rfl registered]
    rcases returns with returns | few
    · exact Stream.attempts_of_returns returns _
    · exact Stream.attempts_of_le_one outcome 0 few

/-- A block that raises is called again. -/
theorem raising_block_called_again :
    let calls : List Call := [.onComplete fun _ => .error .errno, .next, .next]
    0 < Stream.exhaustions SixteenBitStream.next (.new (.new [])) calls ∧
      (Stream.after SixteenBitStream.next (.new (.new [])) calls).runs = 2 := by decide

end Audio
end Contest
