import Contest.Server
import Contest.Transport.Listening

/-!
# What one step can do

The step function is taken apart once.  A step leaves the tracker alone, lists a port, opens or
ends a set-up, tracks the call of a set-up, destroys a call, or gives one call a turn of one of its
fibers.  The invariants of the server are proved by cases on this relation.
-/

namespace Contest

open Contest.Graph

namespace Transport

/-- A turn of the receive loop touches only the client address and the jitter buffer. -/
theorem receive_frame (decode : Bytes → Fallible (List Int16)) (transport : Transport)
    (received : Received) : ∃ clientAddr jitterBuffer,
      (transport.receive decode received).2 =
        { transport with clientAddr := clientAddr, jitterBuffer := jitterBuffer } := by
  have handled : ∀ (before : Transport) payload, ∃ jitterBuffer,
      (handleRtp decode before payload).2 = { before with jitterBuffer := jitterBuffer } := by
    intro before payload
    unfold handleRtp
    split
    · exact ⟨before.jitterBuffer, rfl⟩
    · split
      · exact ⟨before.jitterBuffer, rfl⟩
      · rename_i jitterBuffer pumped _
        cases pumped <;> exact ⟨jitterBuffer, rfl⟩
  cases received with
  | errno => exact ⟨transport.clientAddr, transport.jitterBuffer, rfl⟩
  | timeout => exact ⟨transport.clientAddr, transport.jitterBuffer, rfl⟩
  | datagram data address =>
      obtain ⟨jitterBuffer, result⟩ :=
        handled { transport with clientAddr := some address } (data.take 1024)
      refine ⟨some address, jitterBuffer, ?_⟩
      unfold receive
      simp only
      split
      · rename_i after equal
        rw [equal] at result
        exact result
      · exact result

end Transport

namespace Graph.Call

/-- What the turns of the fibers of a call leave alone. -/
structure Kept (old new : Call) : Prop where
  /-- The message that the call comes from. -/
  invite : new.invite = old.invite
  /-- The entry point. -/
  entrance : new.overWebsocket = old.overWebsocket
  /-- The Call-ID. -/
  callId : new.callId = old.callId
  /-- The responder. -/
  responder : new.responder = old.responder
  /-- The port. -/
  rtpPort : new.transport.rtpPort = old.transport.rtpPort
  /-- Whether the receive loop has been told to stop. -/
  teardown : new.transport.teardown = old.transport.teardown

theorem receive_frame (call : Call) (received : Transport.Received) :
    Kept call (call.receive received).2 ∧ (call.receive received).2.sent = call.sent := by
  obtain ⟨clientAddr, jitterBuffer, frame⟩ :=
    call.transport.receive_frame call.transport.encoder.decode received
  unfold receive
  split
  · rename_i transport equal
    obtain rfl : transport = _ := by simpa [equal] using frame
    exact ⟨⟨rfl, rfl, rfl, rfl, rfl, rfl⟩, rfl⟩
  · rename_i e transport equal
    obtain rfl : transport = _ := by simpa [equal] using frame
    exact ⟨⟨rfl, rfl, rfl, rfl, rfl, rfl⟩, rfl⟩

theorem receive_listener {call after : Call} {received : Transport.Received}
    (turn : call.receive received = (.ok (), after)) :
    after.listener = if after.transport.teardown then .ended else .receiving := by
  unfold receive at turn
  split at turn
  · obtain rfl : _ = after := (Prod.mk.inj turn).2
    rfl
  · simp at turn

theorem receive_fst (call : Call) (received : Transport.Received) :
    (call.receive received).1 =
      (call.transport.receive call.transport.encoder.decode received).1 := by
  unfold receive
  split <;> rename_i equal <;> rw [equal]

theorem eq_timeout_of_receive {call after : Call} {received : Transport.Received}
    (turn : call.receive received = (.error .ioTimeout, after)) : received = .timeout := by
  apply @Transport.eq_timeout_of_receive call.transport
  rw [← receive_fst, turn]

theorem sendAudio_frame (call : Call) (audio : List Int16) (delivery : Delivery) :
    Kept call (call.sendAudio audio delivery) ∧
      (call.sendAudio audio delivery).listener = call.listener := by
  unfold sendAudio
  simp only
  split
  · exact ⟨⟨rfl, rfl, rfl, rfl, rfl, rfl⟩, rfl⟩
  · split
    · exact ⟨⟨rfl, rfl, rfl, rfl, rfl, rfl⟩, rfl⟩
    · split
      · exact ⟨⟨rfl, rfl, rfl, rfl, rfl, rfl⟩, rfl⟩
      · split <;> exact ⟨⟨rfl, rfl, rfl, rfl, rfl, rfl⟩, rfl⟩

theorem tick_frame (call : Call) (ticks : Int) (delivery : Delivery) :
    Kept call (call.tick ticks delivery) ∧
      (call.tick ticks delivery).listener = call.listener := by
  unfold tick
  split
  · exact ⟨⟨rfl, rfl, rfl, rfl, rfl, rfl⟩, rfl⟩
  · rename_i frame prompt _
    obtain ⟨kept, listener⟩ := { call with prompt := prompt }.sendAudio_frame frame delivery
    exact ⟨⟨kept.invite, kept.entrance, kept.callId, kept.responder, kept.rtpPort, kept.teardown⟩,
      listener⟩

end Graph.Call

/-- The draws from the range of ports that come with an event. -/
def Event.draws : Event → List (Fin 16385)
  | .sipDatagram _ _ start _ => start.draws
  | .webSocketMessage _ start => start.draws
  | _ => []

namespace Server

/-- A turn of a fiber that concerns one call only. -/
inductive FiberTurn (k : Nat) : Event → Call → Call → Prop
  | started {call : Call} : FiberTurn k .startCall call { call with timer := .running }
  | listening {call : Call} (spawned : call.listener = .spawned) :
      FiberTurn k (.listen k) call call.loop
  | received {call after : Call} {received : Transport.Received}
      (turn : call.receive received = (.ok (), after)) :
      FiberTurn k (.receive k received) call after
  | escaped {call after : Call} {received : Transport.Received} {e : Exn}
      (turn : call.receive received = (.error e, after))
      (unrescued : ¬(e = .ioTimeout ∧ call.overWebsocket = false)) :
      FiberTurn k (.receive k received) call after
  | ticked {call : Call} {ticks : Int} {delivery : Call.Delivery}
      (running : call.timer = .running) :
      FiberTurn k (.tick k ticks delivery) call (call.tick ticks delivery)

theorem FiberTurn.kept {k : Nat} {event : Event} {old new : Call}
    (turn : FiberTurn k event old new) : old.Kept new := by
  cases turn with
  | started => exact ⟨rfl, rfl, rfl, rfl, rfl, rfl⟩
  | listening spawned => exact ⟨rfl, rfl, rfl, rfl, rfl, rfl⟩
  | @received _ _ received turn => simpa [turn] using (old.receive_frame received).1
  | @escaped _ _ received _ turn unrescued => simpa [turn] using (old.receive_frame received).1
  | ticked running => exact (old.tick_frame _ _).1

/-- The last turn that a call is given before it is destroyed. -/
inductive Ending (before : Server) (k : Nat) : Event → Call → Call → Prop
  | bye {data : Text} {client : IPAddress} {start : Start} {delivered : Bool} {msg : Sip.Msg}
      {callId cseq : Text} {call : Call} {responder : Sip.Responder}
      (parsed : Sip.Msg.new data = .ok msg) (command : msg.sipHeader.command = .ok "BYE".toList)
      (known : msg.sipHeader.callId = .ok callId)
      (found : before.findByCallId callId = some (k, call))
      (answered : call.responder = some responder) (given : msg.sipHeader.cseq = .ok cseq) :
      Ending before k (.sipDatagram data client start delivered) call
        { call with responder := some (responder.resetCSeq cseq) }
  | timedOut {received : Transport.Received} {call after : Call}
      (listening : call.listener = .receiving) (rescued : call.overWebsocket = false)
      (turn : call.receive received = (.error .ioTimeout, after)) :
      Ending before k (.receive k received) call after

/-- What one step can do. -/
inductive Step (before : Server) : Event → Server → Prop
  | stays {event : Event} {after : Server} (tracker : after.toTracker = before.toTracker)
      (setUps : after.setUps = before.setUps) : Step before event after
  | lost {event : Event} {after : Server} {port : RtpPort}
      (drawn : allocRandomRtpPort before.usedRtpPorts event.draws = some port)
      (tracker : after.toTracker = before.pushPort port)
      (setUps : after.setUps = before.setUps) : Step before event after
  | opened {event : Event} {after : Server} {pending : Pending}
      (drawn : allocRandomRtpPort before.usedRtpPorts event.draws =
        some pending.transport.rtpPort)
      (live : pending.transport.teardown = false)
      (tracker : after.toTracker = before.pushPort pending.transport.rtpPort)
      (setUps : after.setUps = before.setUps ++ [some pending]) : Step before event after
  | abandoned {slot : Nat} {speech : Speech} {pending : Pending} {after : Server}
      (waits : before.setUps[slot]? = some (some pending))
      (tracker : after.toTracker = before.toTracker)
      (setUps : after.setUps = before.setUps.set slot none) :
      Step before (.speech slot speech) after
  | created {slot : Nat} {speech : Speech} {pending : Pending} {call : Call} {after : Server}
      (waits : before.setUps[slot]? = some (some pending))
      (started : (pending.startTrackSipConv speech).isOk = true) (made : Created pending call)
      (tracker : after.toTracker = before.add call)
      (setUps : after.setUps = before.setUps.set slot none) :
      Step before (.speech slot speech) after
  | ran {event : Event} {k : Nat} {old new : Call} {after : Server}
      (found : before.objects[k]? = some old) (turn : FiberTurn k event old new)
      (tracker : after.toTracker = before.put k new)
      (setUps : after.setUps = before.setUps) : Step before event after
  | ended {event : Event} {k : Nat} {old new : Call} {after : Server}
      (found : before.objects[k]? = some old) (ending : Ending before k event old new)
      (tracker : after.toTracker = before.destroy k new)
      (setUps : after.setUps = before.setUps) : Step before event after

variable {conf : Conf} {before after : Server} {event : Event}

theorem step_of_opens {overWebsocket : Bool} {start : Start} {waiting : SipFiber}
    {turn : Turn × Tracker} (draws : event.draws = start.draws)
    (opens : Opens overWebsocket start before.toTracker turn)
    (possible : before.afterTurn waiting turn = some after) : Step before event after := by
  cases opens with
  | @refused turn settled =>
      cases turn with
      | raised e =>
          obtain rfl : _ = after := Option.some.inj possible
          exact .stays rfl rfl
      | handled responses =>
          obtain rfl : _ = after := Option.some.inj possible
          exact .stays rfl rfl
      | drawing => simp [afterTurn] at possible
      | awaiting pending => exact absurd rfl (settled pending)
  | lost drawn =>
      obtain rfl : _ = after := Option.some.inj possible
      exact .lost (draws ▸ drawn) rfl rfl
  | opened drawn live entrance =>
      obtain rfl : _ = after := Option.some.inj possible
      exact .opened (draws ▸ drawn) live rfl rfl

theorem step_of_sipDatagram {data : Text} {client : IPAddress} {start : Start} {delivered : Bool}
    {waiting : SipFiber}
    (possible : before.afterTurn waiting
      (Sip.Session.beginSipEvent conf start delivered data client before.toTracker) = some after) :
    Step before (.sipDatagram data client start delivered) after := by
  rcases Sip.Session.beginSipEvent_cases conf start delivered data client before.toTracker with
    ⟨turn, unchanged, settled⟩ | ⟨msg, -, -, invite⟩ | ⟨msg, callId, k, call, responder, cseq,
      responses, parsed, command, known, found, answered, given, handled⟩
  · rw [unchanged] at possible
    exact step_of_opens rfl (@Opens.refused false start _ _ settled) possible
  · rw [invite] at possible
    exact step_of_opens rfl (Sip.Session.opens_beginInvite conf start msg client _) possible
  · rw [handled] at possible
    obtain rfl : _ = after := Option.some.inj possible
    exact .ended (Tracker.findByCallId_eq_some found).2.1
      (.bye parsed command known found answered given) rfl rfl

theorem step_of_speech {slot : Nat} {pending : Pending} (speech : Speech)
    (waits : before.setUps[slot]? = some (some pending)) :
    Step before (.speech slot speech) (before.speak conf slot pending speech) := by
  unfold speak
  simp only
  split
  · rcases WebSocketServer.finishInvite_cases conf speech pending before.toTracker with
      same | ⟨call, started, made, added⟩
    · exact .abandoned waits same rfl
    · exact .created waits started made added rfl
  · split
    all_goals
      rename_i tracker finished
      rcases Sip.Session.finishInvite_cases conf speech pending before.toTracker with
        same | ⟨call, started, made, added⟩
      · exact .abandoned waits (by simpa [finished] using same) rfl
      · exact .created waits started made (by simpa [finished] using added) rfl

theorem step_of_hear {k : Nat} {call : Call} (received : Transport.Received)
    (found : before.objects[k]? = some call) (listening : call.listener = .receiving) :
    Step before (.receive k received) (before.hear k call received) := by
  unfold hear
  split
  · rename_i new turn
    exact .ran found (.received turn) rfl rfl
  · rename_i e new turn
    split
    · rename_i timeout
      obtain ⟨rfl, rescued⟩ := timeout
      exact .ended found (.timedOut listening rescued turn) rfl rfl
    · rename_i unrescued
      exact .ran found (.escaped turn unrescued) rfl rfl

/-- Every step of the server is one of the steps described. -/
theorem step_cases (possible : step conf before event = some after) :
    Step before event after := by
  cases event with
  | sipDatagram data client start delivered =>
      simp only [step] at possible
      split at possible
      · exact step_of_sipDatagram possible
      · simp at possible
  | webSocketMessage message start =>
      exact step_of_opens rfl (WebSocketServer.opens_beginMessage start message _) possible
  | speech slot speech =>
      simp only [step] at possible
      split at possible
      · rename_i pending waits
        obtain rfl : _ = after := Option.some.inj possible
        exact step_of_speech speech waits
      · simp at possible
  | startCall =>
      simp only [step] at possible
      split at possible
      · split at possible
        · rename_i call found
          obtain rfl : _ = after := Option.some.inj possible
          exact .ran found .started rfl rfl
        · simp at possible
      · simp at possible
  | listen k =>
      simp only [step] at possible
      split at possible
      · rename_i call found
        split at possible
        · rename_i spawned
          obtain rfl : _ = after := Option.some.inj possible
          exact .ran found (.listening spawned) rfl rfl
        · simp at possible
      · simp at possible
  | receive k received =>
      simp only [step] at possible
      split at possible
      · rename_i call found
        split at possible
        · rename_i listening
          obtain rfl : _ = after := Option.some.inj possible
          exact step_of_hear received found listening
        · simp at possible
      · simp at possible
  | tick k ticks delivery =>
      simp only [step] at possible
      split at possible
      · rename_i call found
        split at possible
        · rename_i running
          obtain rfl : _ = after := Option.some.inj possible
          exact .ran found (.ticked running) rfl rfl
        · simp at possible
      · simp at possible

end Server
end Contest
