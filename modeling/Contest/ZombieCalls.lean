import Contest.Reachable

/-!
# Zombie calls

The fiber that listens for a call set up over UDP destroys the call when the socket times out; any
other exception, and every exception of a call set up over a WebSocket, ends the fiber and leaves
the call tracked and its port listed.  There are no such calls in the runs in which live calls
receive only packets that can be processed and only calls set up over UDP fall silent.
-/

namespace Contest

open Contest.Graph Transition

namespace Server

/-- What the socket gives to a call that is not destroyed is processed, or is a timeout that is
rescued. -/
def listensSafely (server : Server) : Event → Bool
  | .receive k received =>
      server.objects[k]?.all fun call => call.transport.teardown ||
        match received with
        | .datagram data _ => 12 ≤ data.length && !call.transport.chokes
        | .errno => true
        | .timeout => !call.overWebsocket
  | _ => true

/-- The port drawn for a set-up is not that of a call already destroyed. -/
def drawsFresh (server : Server) (event : Event) : Bool :=
  (allocRandomRtpPort server.usedRtpPorts event.draws).all fun port =>
    server.objects.all fun call => !call.transport.teardown || call.transport.rtpPort ≠ port

/-- The call has been destroyed, and it had the given port. -/
def Destroyed (server : Server) (k : Nat) (port : RtpPort) : Prop :=
  ∃ call, server.objects[k]? = some call ∧ call.transport.teardown = true ∧
    call.transport.rtpPort = port

/-- At some moment of the run the call was destroyed and its port was off the list. -/
def Released (conf : Conf) (events : List Event) (k : Nat) (port : RtpPort) : Prop :=
  ∃ earlier later middle, events = earlier ++ later ∧
    run (step conf) initial earlier = some middle ∧ middle.Destroyed k port ∧
      port ∉ middle.usedRtpPorts

variable {conf : Conf} {before after : Server} {event : Event}

/-- A fiber that has ended belongs to a call that has been destroyed. -/
def EndedDestroyed (call : Call) : Prop :=
  call.listener = .ended → call.transport.teardown = true

theorem endedDestroyed_step (safely : before.listensSafely event = true)
    (held : ∀ (k : Nat) call, before.objects[k]? = some call → EndedDestroyed call)
    (possible : step conf before event = some after) :
    ∀ (k : Nat) call, after.objects[k]? = some call → EndedDestroyed call := by
  refine forall_objects_of_step ?_ ?_ ?_ held possible
  · intro pending call made ended
    rcases made.listener with unspawned | spawned
    · simp [unspawned] at ended
    · simp [spawned] at ended
  · intro k old new found ended_destroyed turn ended
    cases turn with
    | started => exact ended_destroyed ended
    | listening spawned =>
        cases torn : old.transport.teardown with
        | true => exact torn
        | false => simp [Call.loop, torn] at ended
    | received turn =>
        rw [Call.receive_listener turn] at ended
        split at ended
        · assumption
        · simp at ended
    | @escaped _ _ received e turn unrescued =>
        have kept : old.Kept new := by simpa [turn] using (old.receive_frame received).1
        rw [kept.teardown]
        cases torn : old.transport.teardown with
        | true => rfl
        | false =>
            exfalso
            have raised : (old.transport.receive old.transport.encoder.decode received).1 =
                .error e := by rw [← Call.receive_fst, turn]
            cases received with
            | errno => simp [Transport.receive] at raised
            | timeout =>
                have rescued : old.overWebsocket = false := by
                  simpa [listensSafely, found, torn] using safely
                obtain rfl : .ioTimeout = e := by simpa [Transport.receive] using raised
                exact unrescued ⟨rfl, rescued⟩
            | datagram data address =>
                obtain ⟨long, breathes⟩ : 12 ≤ data.length ∧ old.transport.chokes = false := by
                  simpa [listensSafely, found, torn] using safely
                rw [Transport.receive_ok breathes long] at raised
                simp at raised
    | @ticked _ ticks delivery running =>
        obtain ⟨kept, listener⟩ := old.tick_frame ticks delivery
        rw [kept.teardown]
        exact ended_destroyed (listener ▸ ended)
  · intro k old new found ended_destroyed ending ended
    rfl

theorem endedDestroyed_of_run {events : List Event}
    (execution : run (step conf) initial events = some after)
    (safe : Meets (step conf) (fun server event => server.listensSafely event = true)
      initial events) :
    ∀ (k : Nat) call, after.objects[k]? = some call → EndedDestroyed call :=
  invariant_of_meets (fun server event => server.listensSafely event = true)
    (fun server => ∀ (k : Nat) call, server.objects[k]? = some call → EndedDestroyed call)
    (fun held safely possible => endedDestroyed_step safely held possible)
    (by simp [initial, Tracker.empty]) safe execution

/-- The step that destroys a call strikes its port off the list. -/
theorem not_listed_of_destroyed {k : Nat} {port : RtpPort} (formed : WellFormed before)
    (alive : ¬before.Destroyed k port) (destroyed : after.Destroyed k port)
    (possible : step conf before event = some after) : port ∉ after.usedRtpPorts := by
  obtain ⟨call, found_after, torn, rfl⟩ := destroyed
  cases (step_cases possible).calls with
  | same objects calls =>
      rw [objects] at found_after
      exact absurd ⟨call, found_after, torn, rfl⟩ alive
  | @created slot _ pending fresh _ waits _ made tracker =>
      rw [congrArg Tracker.objects tracker, Tracker.getElem?_add] at found_after
      split at found_after
      · obtain rfl : fresh = call := by simpa using found_after
        rw [made.transport, formed.pending_live slot pending waits] at torn
        simp at torn
      · exact absurd ⟨call, found_after, torn, rfl⟩ alive
  | @ran j old new found turn tracker =>
      rw [congrArg Tracker.objects tracker, Tracker.getElem?_put found] at found_after
      split at found_after
      · rename_i same
        subst same
        obtain rfl : new = call := by simpa using found_after
        exact absurd ⟨old, found, turn.kept.teardown ▸ torn, turn.kept.rtpPort.symm⟩ alive
      · exact absurd ⟨call, found_after, torn, rfl⟩ alive
  | @ended j old new found ending tracker =>
      rw [congrArg Tracker.objects tracker, Tracker.getElem?_destroy found] at found_after
      split at found_after
      · obtain rfl : new.finalize = call := by simpa using found_after
        rw [congrArg Tracker.usedRtpPorts tracker, Tracker.destroy]
        simp [Call.finalize, Transport.finalize]
      · exact absurd ⟨call, found_after, torn, rfl⟩ alive

/-- The port of every destroyed call has been off the list since. -/
theorem released_of_destroyed {events : List Event} {k : Nat} {port : RtpPort}
    (execution : run (step conf) initial events = some after)
    (destroyed : after.Destroyed k port) : Released conf events k port := by
  have alive : ¬initial.Destroyed k port := by
    rintro ⟨call, found, -⟩
    simp [initial, Tracker.empty] at found
  obtain ⟨earlier, event, later, before, middle, rfl, first, possible, -, without, within⟩ :=
    exists_step_of_run (fun server => server.Destroyed k port) alive destroyed
      execution
  refine ⟨earlier ++ [event], later, middle, by simp, ?_, within, ?_⟩
  · rw [run_append_eq_some]
    exact ⟨before, first, run_cons possible []⟩
  · exact not_listed_of_destroyed (wellFormed_of_run first) without within possible

/-- Ports of destroyed calls stay off the list while they are not drawn again. -/
theorem destroyed_unlisted_step {k : Nat} {port : RtpPort} (formed : WellFormed before)
    (unlisted : before.Destroyed k port → port ∉ before.usedRtpPorts)
    (fresh : before.drawsFresh event = true)
    (possible : step conf before event = some after) :
    after.Destroyed k port → port ∉ after.usedRtpPorts := by
  intro destroyed
  by_cases was_destroyed : before.Destroyed k port
  · have off := unlisted was_destroyed
    obtain ⟨old, found_old, torn, rfl⟩ := was_destroyed
    have not_drawn : ∀ drawn, allocRandomRtpPort before.usedRtpPorts event.draws = some drawn →
        old.transport.rtpPort ≠ drawn := by
      intro drawn allocated
      rw [drawsFresh, allocated] at fresh
      have := List.all_eq_true.mp fresh old (List.mem_of_getElem? found_old)
      simpa [torn] using this
    cases step_cases possible with
    | stays tracker setUps => rwa [congrArg Tracker.usedRtpPorts tracker]
    | @lost _ _ drawn allocated tracker setUps =>
        rw [congrArg Tracker.usedRtpPorts tracker]
        simpa [Tracker.pushPort, off] using not_drawn drawn allocated
    | @opened _ _ pending allocated live tracker setUps =>
        rw [congrArg Tracker.usedRtpPorts tracker]
        simpa [Tracker.pushPort, off] using not_drawn _ allocated
    | abandoned waits tracker setUps => rwa [congrArg Tracker.usedRtpPorts tracker]
    | created waits started made tracker setUps =>
        rw [congrArg Tracker.usedRtpPorts tracker]
        exact off
    | ran found turn tracker setUps =>
        rw [congrArg Tracker.usedRtpPorts tracker]
        exact off
    | ended found ending tracker setUps =>
        rw [congrArg Tracker.usedRtpPorts tracker]
        exact fun listed => off (List.mem_filter.mp listed).1
  · exact not_listed_of_destroyed formed was_destroyed destroyed possible

theorem destroyed_unlisted_of_run {events : List Event} {k : Nat} {port : RtpPort}
    (execution : run (step conf) initial events = some after)
    (fresh : Meets (step conf) (fun server event => server.drawsFresh event = true)
      initial events) :
    after.Destroyed k port → port ∉ after.usedRtpPorts := by
  have invariant := invariant_of_meets (fun server event => server.drawsFresh event = true)
    (fun server => WellFormed server ∧
      (server.Destroyed k port → port ∉ server.usedRtpPorts))
    (fun held draws possible => ⟨held.1.step possible,
      destroyed_unlisted_step held.1 held.2 draws possible⟩)
    ⟨wellFormed_initial, fun _ => by simp [initial, Tracker.empty]⟩ fresh execution
  exact invariant.2

/-- In every run in which live calls listen safely, a call whose fiber has ended is not tracked and
its port has been released; the port is off the list unless it has been drawn again. -/
theorem no_zombie_calls {events : List Event}
    (execution : run (step conf) initial events = some after)
    (safe : Meets (step conf) (fun server event => server.listensSafely event = true)
      initial events) :
    ∀ (k : Nat) call, after.objects[k]? = some call → call.listener = .ended →
      k ∉ after.calls ∧ Released conf events k call.transport.rtpPort ∧
        (Meets (step conf) (fun server event => server.drawsFresh event = true) initial events →
          call.transport.rtpPort ∉ after.usedRtpPorts) := by
  intro k call found ended
  have torn := endedDestroyed_of_run execution safe k call found ended
  have destroyed : after.Destroyed k call.transport.rtpPort := ⟨call, found, torn, rfl⟩
  refine ⟨(wellFormed_of_run execution).not_mem_calls found torn,
    released_of_destroyed execution destroyed, ?_⟩
  intro fresh
  exact destroyed_unlisted_of_run execution fresh destroyed

/-- A call that is hung up and then receives one more datagram. -/
def hungUp : List Event :=
  sampleCall 0 "k1" 0 ++
    [.receive 0 (.datagram (List.replicate 12 0x80) samplePeer),
      .sipDatagram (sampleBye "k1") samplePeer (sampleStart 0) true,
      .receive 0 (.datagram [] samplePeer)]

theorem no_zombie_calls_of_hang_up :
    ∃ after, run (step sampleConf) initial hungUp = some after ∧
      ∀ (k : Nat) call, after.objects[k]? = some call → call.listener = .ended →
        k ∉ after.calls ∧ Released sampleConf hungUp k call.transport.rtpPort ∧
          (Meets (step sampleConf) (fun server event => server.drawsFresh event = true) initial
              hungUp →
            call.transport.rtpPort ∉ after.usedRtpPorts) := by
  have possible : (run (step sampleConf) initial hungUp).isSome := by decide +kernel
  obtain ⟨after, execution⟩ := Option.isSome_iff_exists.mp possible
  exact ⟨after, execution, no_zombie_calls execution (by decide +kernel)⟩

/-- A call that receives an empty datagram. -/
def emptyDatagram : List Event :=
  sampleCall 0 "k1" 0 ++ [.receive 0 (.datagram [] samplePeer)]

/-- An empty datagram ends the fiber of a call that stays tracked and keeps its port. -/
theorem empty_datagram_leaves_zombie :
    ¬∀ conf events after, run (step conf) initial events = some after →
      ∀ (k : Nat) call, after.objects[k]? = some call → call.listener = .ended →
        k ∉ after.calls ∧ call.transport.rtpPort ∉ after.usedRtpPorts := by
  intro claimed
  have zombie : (run (step sampleConf) initial emptyDatagram).map (fun after =>
      (after.objects[0]?.map (·.listener), after.calls)) = some (some .ended, [0]) := by
    decide +kernel
  obtain ⟨after, execution, state⟩ := Option.map_eq_some_iff.mp zombie
  obtain ⟨listener, calls⟩ := Prod.mk.inj state
  obtain ⟨call, found, ended⟩ := Option.map_eq_some_iff.mp listener
  have gone := (claimed _ _ _ execution 0 call found ended).1
  simp [calls] at gone

end Server
end Contest
