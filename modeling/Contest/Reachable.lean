import Contest.Interleaving

/-!
# Invariants of every run

Facts that hold in every reachable state, whatever the environment does: the collection holds
references to existing calls without repetition, and a call that is tracked or being set up has not
been finalized.
-/

namespace Contest

open Contest.Graph

namespace Server

variable {conf : Conf} {before after : Server} {event : Event}

theorem pending_of_set {setUps : List (Option Pending)} {slot place : Nat} {pending : Pending}
    (waits : (setUps.set slot none)[place]? = some (some pending)) :
    setUps[place]? = some (some pending) ∧ place ≠ slot := by
  rw [List.getElem?_set] at waits
  by_cases same : slot = place
  · rw [if_pos same] at waits
    split at waits <;> simp at waits
  · rw [if_neg same] at waits
    exact ⟨waits, Ne.symm same⟩

theorem pending_of_append {setUps : List (Option Pending)} {place : Nat} {last pending : Pending}
    (waits : (setUps ++ [some last])[place]? = some (some pending)) :
    setUps[place]? = some (some pending) ∨ place = setUps.length ∧ pending = last := by
  rw [List.getElem?_append] at waits
  split at waits
  · exact .inl waits
  · obtain ⟨inside, -⟩ := List.getElem?_eq_some_iff.mp waits
    have first : place - setUps.length = 0 := by simpa using inside
    rw [first] at waits
    exact .inr ⟨by omega, by simpa using waits.symm⟩

/-- How a step changes the calls: not at all, by a new one, by a turn, or by an end. -/
inductive CallStep (before : Server) (event : Event) (after : Server) : Prop
  | same (objects : after.objects = before.objects) (calls : after.calls = before.calls)
  | created {slot : Nat} {speech : Speech} {pending : Pending} {call : Call}
      (spoke : event = .speech slot speech)
      (waits : before.setUps[slot]? = some (some pending))
      (started : (pending.startTrackSipConv speech).isOk = true) (made : Created pending call)
      (tracker : after.toTracker = before.add call)
  | ran {k : Nat} {old new : Call} (found : before.objects[k]? = some old)
      (turn : FiberTurn k event old new) (tracker : after.toTracker = before.put k new)
  | ended {k : Nat} {old new : Call} (found : before.objects[k]? = some old)
      (ending : Ending before k event old new) (tracker : after.toTracker = before.destroy k new)

theorem Step.calls (stepped : Step before event after) : CallStep before event after := by
  cases stepped with
  | stays tracker setUps =>
      exact .same (congrArg Tracker.objects tracker :) (congrArg Tracker.calls tracker :)
  | lost drawn tracker setUps =>
      exact .same (congrArg Tracker.objects tracker :) (congrArg Tracker.calls tracker :)
  | opened drawn live tracker setUps =>
      exact .same (congrArg Tracker.objects tracker :) (congrArg Tracker.calls tracker :)
  | abandoned waits tracker setUps =>
      exact .same (congrArg Tracker.objects tracker :) (congrArg Tracker.calls tracker :)
  | created waits started made tracker setUps => exact .created rfl waits started made tracker
  | ran found turn tracker setUps => exact .ran found turn tracker
  | ended found ending tracker setUps => exact .ended found ending tracker

/-- What becomes of a call in one step. -/
inductive Fate (before : Server) (k : Nat) (event : Event) (old : Call) : Call → Prop
  | same : Fate before k event old old
  | turned {new : Call} (turn : FiberTurn k event old new) : Fate before k event old new
  | ended {new : Call} (ending : Ending before k event old new) :
      Fate before k event old new.finalize

/-- A call has a fate in every step. -/
theorem exists_fate {k : Nat} {old : Call} (found : before.objects[k]? = some old)
    (possible : step conf before event = some after) :
    ∃ new, after.objects[k]? = some new ∧ Fate before k event old new := by
  cases (step_cases possible).calls with
  | same objects calls => exact ⟨old, objects ▸ found, .same⟩
  | created spoke waits started made tracker =>
      obtain ⟨inside, -⟩ := List.getElem?_eq_some_iff.mp found
      refine ⟨old, ?_, .same⟩
      rwa [congrArg Tracker.objects tracker, Tracker.getElem?_add, if_neg (by omega)]
  | @ran j other new found_other turn tracker =>
      rw [congrArg Tracker.objects tracker, Tracker.getElem?_put found_other]
      split
      · rename_i equal
        subst equal
        obtain rfl : old = other := by simpa [found] using found_other
        exact ⟨new, rfl, .turned turn⟩
      · exact ⟨old, found, .same⟩
  | @ended j other new found_other ending tracker =>
      rw [congrArg Tracker.objects tracker, Tracker.getElem?_destroy found_other]
      split
      · rename_i equal
        subst equal
        obtain rfl : old = other := by simpa [found] using found_other
        exact ⟨new.finalize, rfl, .ended ending⟩
      · exact ⟨old, found, .same⟩

/-- A call after a step was there before the step, or has just been set up. -/
theorem exists_origin {k : Nat} {new : Call} (found_after : after.objects[k]? = some new)
    (possible : step conf before event = some after) :
    (∃ old, before.objects[k]? = some old ∧ Fate before k event old new) ∨
      ∃ (slot : Nat) (pending : Pending), before.setUps[slot]? = some (some pending) ∧
        Created pending new := by
  cases found : before.objects[k]? with
  | some old =>
      obtain ⟨other, found_other, fate⟩ := exists_fate found possible
      obtain rfl : new = other := by simpa [found_after] using found_other
      exact .inl ⟨old, rfl, fate⟩
  | none =>
      cases (step_cases possible).calls with
      | same objects calls => simp [objects, found] at found_after
      | @created slot _ pending fresh _ waits _ made tracker =>
          rw [congrArg Tracker.objects tracker, Tracker.getElem?_add] at found_after
          split at found_after
          · obtain rfl : fresh = new := by simpa using found_after
            exact .inr ⟨slot, pending, waits, made⟩
          · simp [found] at found_after
      | @ran j other _ found_other _ tracker =>
          rw [congrArg Tracker.objects tracker, Tracker.getElem?_put found_other] at found_after
          split at found_after
          · rename_i equal
            simp [equal, found_other] at found
          · simp [found] at found_after
      | @ended j other _ found_other _ tracker =>
          rw [congrArg Tracker.objects tracker, Tracker.getElem?_destroy found_other]
            at found_after
          split at found_after
          · rename_i equal
            simp [equal, found_other] at found
          · simp [found] at found_after

/-- A property of calls that a set-up establishes and that turns and ends keep holds of every
call. -/
theorem forall_objects_of_step {property : Call → Prop}
    (made : ∀ pending call, Created pending call → property call)
    (ran : ∀ k old new, before.objects[k]? = some old → property old →
      FiberTurn k event old new → property new)
    (ended : ∀ k old new, before.objects[k]? = some old → property old →
      Ending before k event old new → property new.finalize)
    (held : ∀ (k : Nat) call, before.objects[k]? = some call → property call)
    (possible : step conf before event = some after) :
    ∀ (k : Nat) call, after.objects[k]? = some call → property call := by
  intro k call found_after
  rcases exists_origin found_after possible with ⟨old, found, fate⟩ | ⟨_, pending, -, created⟩
  · cases fate with
    | same => exact held k call found
    | turned turn => exact ran k old call found (held k old found) turn
    | ended ending => exact ended k old _ found (held k old found) ending
  · exact made pending call created

/-- What holds in every reachable state. -/
structure WellFormed (server : Server) : Prop extends server.toTracker.Sound where
  /-- A call being set up has not been finalized. -/
  pending_live : ∀ (slot : Nat) pending, server.setUps[slot]? = some (some pending) →
    pending.transport.teardown = false

theorem wellFormed_initial : WellFormed initial where
  toSound := Tracker.sound_empty
  pending_live := by simp [initial]

theorem WellFormed.pending_step (formed : WellFormed before) (stepped : Step before event after) :
    ∀ (slot : Nat) pending, after.setUps[slot]? = some (some pending) →
      pending.transport.teardown = false := by
  intro slot pending waits
  cases stepped with
  | stays tracker setUps => exact formed.pending_live slot pending (setUps ▸ waits)
  | lost drawn tracker setUps => exact formed.pending_live slot pending (setUps ▸ waits)
  | opened drawn live tracker setUps =>
      rw [setUps] at waits
      rcases pending_of_append waits with waited | ⟨-, rfl⟩
      · exact formed.pending_live slot pending waited
      · exact live
  | abandoned waited tracker setUps =>
      rw [setUps] at waits
      exact formed.pending_live slot pending (pending_of_set waits).1
  | created waited started made tracker setUps =>
      rw [setUps] at waits
      exact formed.pending_live slot pending (pending_of_set waits).1
  | ran found turn tracker setUps => exact formed.pending_live slot pending (setUps ▸ waits)
  | ended found ending tracker setUps => exact formed.pending_live slot pending (setUps ▸ waits)

theorem WellFormed.step (formed : WellFormed before)
    (possible : Server.step conf before event = some after) : WellFormed after := by
  have stepped := step_cases possible
  refine ⟨?_, formed.pending_step stepped⟩
  cases stepped.calls with
  | same objects calls => exact formed.toSound.congr objects calls
  | @created slot _ pending _ _ waits _ made tracker =>
      have live := formed.pending_live slot pending waits
      exact tracker ▸ formed.toSound.add (made.transport ▸ live)
  | ran found turn tracker => exact tracker ▸ formed.toSound.put found turn.kept.teardown
  | ended found ending tracker => exact tracker ▸ formed.toSound.destroy found _

theorem wellFormed_of_run {events : List Event}
    (execution : Transition.run (step conf) initial events = some after) : WellFormed after :=
  Transition.invariant_of_run WellFormed.step wellFormed_initial execution

/-- A call that has been finalized is not in the collection. -/
theorem WellFormed.not_mem_calls {server : Server} (formed : WellFormed server) {k : Nat}
    {call : Call} (found : server.objects[k]? = some call) (torn : call.transport.teardown = true) :
    k ∉ server.calls := by
  intro tracked
  simp [formed.tracked_live k tracked call found] at torn

/-- The events that set up the call in the given place over UDP. -/
def sampleCall (place : Nat) (callId : String) (draw : Nat) : List Event :=
  [.sipDatagram (sampleInvite callId) samplePeer (sampleStart draw) true,
    .speech place sampleSpeech, .startCall, .listen place]

end Server
end Contest
