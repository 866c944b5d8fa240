import Contest.Reachable

/-!
# Media after hang-up

`Call#destroy` sets the flag that stops the receive loop.  It neither cancels the timer nor closes
the RTP socket, so the timer goes on playing the prompt.  The log of packets of a destroyed call
stays as it is exactly when its timer fires only in the first quarter of a second, after the end of
the prompt, or in vain.
-/

namespace Contest

open Contest.Graph Transition

namespace Graph.Call

/-- A firing of the timer gets a frame of the prompt through to the peer. -/
def plays (call : Call) (ticks : Int) (delivery : Delivery) : Bool :=
  250 ≤ ticks / 10000 && (call.prompt.next.1.any fun audio => (delivery.encode audio).isOk) &&
    !call.transport.rtpSocketClosed && call.transport.clientAddr.isSome && delivery.delivered

theorem sendAudio_sent (call : Call) (audio : List Int16) (delivery : Delivery) :
    (call.sendAudio audio delivery).sent =
      match delivery.encode audio with
      | .error _ => call.sent
      | .ok encoded =>
          if !call.transport.rtpSocketClosed && call.transport.clientAddr.isSome &&
              delivery.delivered then
            call.sent ++ [call.transport.incSeqNo.packet encoded]
          else call.sent := by
  unfold sendAudio
  cases delivery.encode audio with
  | error e => rfl
  | ok encoded =>
      have closed : call.transport.incSeqNo.rtpSocketClosed = call.transport.rtpSocketClosed := rfl
      have address : call.transport.incSeqNo.clientAddr = call.transport.clientAddr := rfl
      simp only [closed, address]
      cases call.transport.rtpSocketClosed <;> cases call.transport.clientAddr <;>
        cases delivery.delivered <;> rfl

/-- A firing that plays a frame appends a packet to the log. -/
theorem tick_sent_of_plays {call : Call} {ticks : Int} {delivery : Delivery}
    (plays : call.plays ticks delivery = true) :
    ∃ packet, (call.tick ticks delivery).sent = call.sent ++ [packet] := by
  simp only [Call.plays, Bool.and_eq_true, decide_eq_true_eq, Bool.not_eq_true'] at plays
  obtain ⟨⟨⟨⟨late, encodes⟩, isOpen⟩, addressed⟩, delivered⟩ := plays
  have audible : ¬ticks / 10000 < 250 := by omega
  cases frame : call.prompt.next with
  | mk audio prompt =>
      rw [frame] at encodes
      cases audio with
      | none => simp at encodes
      | some samples =>
          cases encoded : delivery.encode samples with
          | error e => simp [encoded, Except.isOk, Except.toBool] at encodes
          | ok bytes =>
              refine ⟨call.transport.incSeqNo.packet bytes, ?_⟩
              simp [tick, nextAudioFrame, audible, frame, sendAudio_sent, encoded, isOpen,
                addressed, delivered]

/-- Any other firing leaves the log alone. -/
theorem tick_sent_of_not_plays {call : Call} {ticks : Int} {delivery : Delivery}
    (silent : call.plays ticks delivery = false) : (call.tick ticks delivery).sent = call.sent := by
  unfold tick
  split
  · rfl
  · rename_i samples prompt frame
    by_cases early : ticks / 10000 < 250
    · simp [nextAudioFrame, early] at frame
    · rw [nextAudioFrame, if_neg early] at frame
      have late : 250 ≤ ticks / 10000 := by omega
      rw [sendAudio_sent]
      cases encoded : delivery.encode samples with
      | error e => rfl
      | ok bytes =>
          have blocked : ¬(!call.transport.rtpSocketClosed && call.transport.clientAddr.isSome &&
              delivery.delivered) = true := by
            simpa [plays, late, frame, encoded, Except.isOk, Except.toBool, and_assoc]
              using silent
          exact if_neg blocked

end Graph.Call

namespace Server

/-- The timer of a destroyed call does not get a frame of its prompt through. -/
def staysSilent (server : Server) : Event → Bool
  | .tick k ticks delivery =>
      server.objects[k]?.all fun call =>
        !call.transport.teardown || !call.plays ticks delivery
  | _ => true

/-- From the moment when a call has been destroyed, its log of packets stays as it is. -/
def SilentAfterDestroy (conf : Conf) (events : List Event) : Prop :=
  ∀ earlier later rest middle final, events = earlier ++ (later ++ rest) →
    run (step conf) initial earlier = some middle → run (step conf) middle later = some final →
      ∀ (k : Nat) call, middle.objects[k]? = some call → call.transport.teardown = true →
        ∃ last, final.objects[k]? = some last ∧ last.sent = call.sent

variable {conf : Conf} {before after : Server} {event : Event}

/-- A destroyed call with the given log. -/
def Hushed (server : Server) (k : Nat) (sent : List Bytes) : Prop :=
  ∃ call, server.objects[k]? = some call ∧ call.transport.teardown = true ∧ call.sent = sent

theorem hushed_step {k : Nat} {sent : List Bytes} (hushed : before.Hushed k sent)
    (silent : before.staysSilent event = true)
    (possible : step conf before event = some after) : after.Hushed k sent := by
  obtain ⟨call, found, torn, rfl⟩ := hushed
  obtain ⟨new, found_after, fate⟩ := exists_fate found possible
  cases fate with
  | same => exact ⟨call, found_after, torn, rfl⟩
  | turned turn =>
      refine ⟨new, found_after, turn.kept.teardown.trans torn, ?_⟩
      cases turn with
      | started => rfl
      | listening spawned => rfl
      | @received _ _ received turn => simpa [turn] using (call.receive_frame received).2
      | @escaped _ _ received _ turn unrescued =>
          simpa [turn] using (call.receive_frame received).2
      | ticked running =>
          apply Call.tick_sent_of_not_plays
          simpa [staysSilent, found, torn] using silent
  | @ended last ending =>
      refine ⟨last.finalize, found_after, rfl, ?_⟩
      cases ending with
      | bye parsed command known matched answered given => rfl
      | @timedOut received _ _ listening rescued turn =>
          have sent : last.sent = call.sent := by
            simpa [turn] using (call.receive_frame received).2
          exact sent

/-- A firing of the timer is a turn of its call. -/
theorem step_tick {k : Nat} {ticks : Int} {delivery : Call.Delivery}
    (possible : step conf before (.tick k ticks delivery) = some after) :
    ∃ call, before.objects[k]? = some call ∧
      after.objects = before.objects.set k (call.tick ticks delivery) := by
  simp only [step] at possible
  split at possible
  · rename_i call found
    split at possible
    · obtain rfl : _ = after := Option.some.inj possible
      exact ⟨call, found, rfl⟩
    · simp at possible
  · simp at possible

/-- A firing that gets a frame through makes the log of its call longer. -/
theorem not_silent_of_tick (possible : step conf before event = some after)
    (loud : before.staysSilent event = false) :
    ∃ (k : Nat) (call last : Call), before.objects[k]? = some call ∧
      call.transport.teardown = true ∧ after.objects[k]? = some last ∧ last.sent ≠ call.sent := by
  cases event with
  | tick k ticks delivery =>
      obtain ⟨call, found, objects⟩ := step_tick possible
      obtain ⟨inside, -⟩ := List.getElem?_eq_some_iff.mp found
      obtain ⟨torn, plays⟩ : call.transport.teardown = true ∧
          call.plays ticks delivery = true := by
        simpa [staysSilent, found] using loud
      obtain ⟨packet, sent⟩ := Call.tick_sent_of_plays plays
      refine ⟨k, call, call.tick ticks delivery, found, torn, ?_, ?_⟩
      · simp [objects, inside]
      · simp [sent]
  | _ => simp [staysSilent] at loud

/-- A run is silent after hang-ups exactly when no timer of a destroyed call gets a frame
through. -/
theorem silentAfterDestroy_iff {events : List Event}
    (execution : run (step conf) initial events = some after) :
    SilentAfterDestroy conf events ↔
      Meets (step conf) (fun server event => server.staysSilent event = true) initial events := by
  constructor
  · intro quiet
    rw [meets_iff execution]
    rintro earlier event later before rfl first
    obtain ⟨middle, same, rest⟩ := run_append_eq_some.mp execution
    obtain rfl : before = middle := by simpa [first] using same
    obtain ⟨next, possible, -⟩ := run_cons_eq_some.mp rest
    by_contra loud
    obtain ⟨k, call, last, found, torn, found_next, differ⟩ :=
      not_silent_of_tick possible (Bool.eq_false_of_not_eq_true loud)
    obtain ⟨other, found_other, sent⟩ := quiet earlier [event] later before next rfl first
      (run_cons possible []) k call found torn
    obtain rfl : last = other := by simpa [found_next] using found_other
    exact differ sent
  · rintro silent earlier later rest middle final rfl first second k call found torn
    obtain ⟨-, silent_later⟩ := (meets_append first).mp silent
    obtain ⟨silent_middle, -⟩ := (meets_append second).mp silent_later
    have hushed : final.Hushed k call.sent :=
      invariant_of_meets (fun server event => server.staysSilent event = true)
        (fun server => server.Hushed k call.sent)
        (fun held quiet possible => hushed_step held quiet possible)
        ⟨call, found, torn, rfl⟩ silent_middle second
    obtain ⟨last, found_last, -, sent⟩ := hushed
    exact ⟨last, found_last, sent⟩

/-- A firing of the timer after the quarter of a second, with a frame that goes through. -/
def audibleTick : Event := .tick 0 2500000 ⟨fun _ => .ok [0x55], true⟩

/-- A call plays its prompt and is hung up; its timer fires again. -/
def promptPlayed : List Event :=
  sampleCall 0 "k1" 0 ++
    [audibleTick, .sipDatagram (sampleBye "k1") samplePeer (sampleStart 0) true, audibleTick]

theorem silentAfterDestroy_iff_promptPlayed :
    SilentAfterDestroy sampleConf promptPlayed ↔
      Meets (step sampleConf) (fun server event => server.staysSilent event = true) initial
        promptPlayed := by
  have possible : (run (step sampleConf) initial promptPlayed).isSome := by decide +kernel
  obtain ⟨after, execution⟩ := Option.isSome_iff_exists.mp possible
  exact silentAfterDestroy_iff execution

/-- A call that is hung up before its prompt has been played. -/
def promptUnplayed : List Event :=
  sampleCall 0 "k1" 0 ++
    [.sipDatagram (sampleBye "k1") samplePeer (sampleStart 0) true]

/-- The prompt is played to a peer that has hung up. -/
theorem prompt_played_after_hang_up :
    ¬∀ conf events after, run (step conf) initial events = some after →
      SilentAfterDestroy conf events := by
  intro claimed
  have logs : (run (step sampleConf) initial promptUnplayed).bind (fun middle =>
      (run (step sampleConf) middle [audibleTick]).map fun after =>
        (middle.objects[0]?.map fun call => (call.transport.teardown, call.sent.length),
          after.objects[0]?.map fun call => call.sent.length)) =
        some (some (true, 0), some 1) := by decide +kernel
  obtain ⟨middle, first, rest⟩ := Option.bind_eq_some_iff.mp logs
  obtain ⟨after, second, lengths⟩ := Option.map_eq_some_iff.mp rest
  obtain ⟨at_middle, at_end⟩ := Prod.mk.inj lengths
  obtain ⟨call, found, measured⟩ := Option.map_eq_some_iff.mp at_middle
  obtain ⟨torn, empty⟩ := Prod.mk.inj measured
  obtain ⟨last, found_last, one⟩ := Option.map_eq_some_iff.mp at_end
  have execution : run (step sampleConf) initial (promptUnplayed ++ ([audibleTick] ++ [])) =
      some after := run_append_eq_some.mpr ⟨middle, first, second⟩
  obtain ⟨other, found_other, sent⟩ := claimed _ _ _ execution promptUnplayed [audibleTick] []
    middle after rfl first second 0 call found torn
  obtain rfl : last = other := by simpa [found_last] using found_other
  rw [sent, empty] at one
  simp at one

end Server
end Contest
