import Contest.Origins

/-!
# The SIP fiber

The fiber of the SIP session waits for a prompt while it sets up a call, and for the handler of the
call once it has answered.  What it waits for is there, and a call that it has not started sends
nothing.
-/

namespace Contest

open Contest.Graph Transition

namespace Graph

namespace Call

/-- What counts of a call for its prompt stays as it is. -/
structure Resting (old new : Call) : Prop where
  /-- The prompt. -/
  prompt : new.prompt = old.prompt
  /-- The log of packets. -/
  sent : new.sent = old.sent
  /-- The timer. -/
  timer : new.timer = old.timer
  /-- The counter of the transport. -/
  seqNo : new.transport.seqNo = old.transport.seqNo
  /-- The codec. -/
  encoder : new.transport.encoder = old.transport.encoder
  /-- The payload type. -/
  mediaProfilePt : new.transport.mediaProfilePt = old.transport.mediaProfilePt
  /-- Whether the RTP socket is closed. -/
  rtpSocketClosed : new.transport.rtpSocketClosed = old.transport.rtpSocketClosed

theorem Resting.receive (call : Call) (received : Transport.Received) :
    Resting call (call.receive received).2 := by
  obtain ⟨clientAddr, jitterBuffer, frame⟩ :=
    call.transport.receive_frame call.transport.encoder.decode received
  unfold Call.receive
  split
  all_goals
    rename_i transport equal
    obtain rfl : transport = _ := by simpa [equal] using frame
    exact ⟨rfl, rfl, rfl, rfl, rfl, rfl, rfl⟩

/-- A call has been started once it had been answered, or nothing has been heard of it. -/
structure Orderly (call : Call) : Prop where
  /-- Before the start no packet is sent, and neither the counter nor the prompt has moved. -/
  silent : call.timer = .notScheduled →
    call.sent = [] ∧ call.transport.seqNo = 0 ∧ call.prompt.position = 0
  /-- Only a call that has been answered over UDP is started. -/
  engaged : call.timer ≠ .notScheduled → call.Engaged

theorem Resting.orderly {old new : Call} (resting : Resting old new) (orderly : old.Orderly)
    (engaged : old.Engaged → new.Engaged) : new.Orderly where
  silent := by
    rw [resting.timer, resting.sent, resting.seqNo, resting.prompt]
    exact orderly.silent
  engaged := by
    rw [resting.timer]
    exact fun started => engaged (orderly.engaged started)

theorem timer_tick {call : Call} (running : call.timer = .running) (ticks : Int)
    (delivery : Delivery) : (call.tick ticks delivery).timer ≠ .notScheduled := by
  have alive : call.timer ≠ .notScheduled := running ▸ TimerFiber.noConfusion
  unfold tick
  split
  · exact alive
  · unfold sendAudio
    dsimp only
    split
    · exact TimerFiber.noConfusion
    · split
      · exact alive
      · split
        · exact TimerFiber.noConfusion
        · split
          · exact alive
          · exact TimerFiber.noConfusion

theorem listener_receive (call : Call) (received : Transport.Received) :
    (call.receive received).2.listener ≠ .notSpawned := by
  unfold receive
  split
  · unfold loop
    dsimp only
    split <;> exact ListenFiber.noConfusion
  · exact ListenFiber.noConfusion

/-- Whether a call has been started. -/
def started (call : Call) : Bool := call.timer ≠ .notScheduled

end Call

end Graph

namespace Server

variable {conf : Conf} {before after : Server} {event : Event}

/-! ### One step -/

/-- Where no timer fires and none is started, nothing happens to a prompt. -/
theorem resting_of_fate {k : Nat} {old new : Call} (fate : Fate before k event old new)
    (unfired : ∀ j ticks delivery, event ≠ .tick j ticks delivery)
    (unstarted : event ≠ .startCall) : old.Resting new := by
  cases fate with
  | same => exact ⟨rfl, rfl, rfl, rfl, rfl, rfl, rfl⟩
  | turned turn =>
      cases turn with
      | started => exact absurd rfl unstarted
      | listening spawned => exact ⟨rfl, rfl, rfl, rfl, rfl, rfl, rfl⟩
      | @received _ _ received turn => simpa [turn] using Call.Resting.receive old received
      | @escaped _ _ received _ turn unrescued =>
          simpa [turn] using Call.Resting.receive old received
      | ticked running => exact absurd rfl (unfired _ _ _)
  | @ended last ending =>
      cases ending with
      | bye parsed command known matched answered given => exact ⟨rfl, rfl, rfl, rfl, rfl, rfl, rfl⟩
      | @timedOut received _ _ listening rescued turn =>
          have resting : old.Resting last := by
            simpa [turn] using Call.Resting.receive old received
          exact ⟨resting.prompt, resting.sent, resting.timer, resting.seqNo, resting.encoder,
            resting.mediaProfilePt, resting.rtpSocketClosed⟩

theorem listener_of_turn {k : Nat} {old new : Call} (turn : FiberTurn k event old new)
    (spawned : old.listener ≠ .notSpawned) : new.listener ≠ .notSpawned := by
  cases turn with
  | started => exact spawned
  | listening first =>
      unfold Call.loop
      dsimp only
      split <;> exact ListenFiber.noConfusion
  | @received _ _ received turn => simpa [turn] using old.listener_receive received
  | @escaped _ _ received _ turn unrescued => simpa [turn] using old.listener_receive received
  | @ticked _ ticks delivery running =>
      rw [(old.tick_frame ticks delivery).2]
      exact spawned

/-- A call that has been answered over UDP remains one. -/
theorem engaged_of_fate {k : Nat} {old new : Call} (fate : Fate before k event old new)
    (engaged : old.Engaged) : new.Engaged := by
  cases fate with
  | same => exact engaged
  | turned turn =>
      exact ⟨turn.kept.entrance.trans engaged.overUdp, turn.kept.responder ▸ engaged.responder,
        listener_of_turn turn engaged.listener⟩
  | @ended last ending =>
      cases ending with
      | bye parsed command known matched answered given =>
          exact ⟨engaged.overUdp, rfl, engaged.listener⟩
      | @timedOut received _ _ listening rescued turn =>
          have kept : old.Kept last := by simpa [turn] using (old.receive_frame received).1
          have listener : last.listener ≠ .notSpawned := by
            simpa [turn] using old.listener_receive received
          exact ⟨kept.entrance.trans engaged.overUdp, kept.responder ▸ engaged.responder, listener⟩

/-- A timer that fires is running. -/
theorem running_of_tick {j : Nat} {ticks : Int} {delivery : Call.Delivery}
    (possible : step conf before (.tick j ticks delivery) = some after) :
    ∃ call, before.objects[j]? = some call ∧ call.timer = .running ∧
      after.objects = before.objects.set j (call.tick ticks delivery) ∧
        after.sip = before.sip := by
  simp only [step] at possible
  split at possible
  · rename_i call found
    split at possible
    · rename_i running
      obtain rfl : _ = after := Option.some.inj possible
      exact ⟨call, found, running, rfl, rfl⟩
    · simp at possible
  · simp at possible

/-- The timer of the call whose event is queued is started. -/
theorem queueing_of_startCall (possible : step conf before .startCall = some after) :
    ∃ (j : Nat) (call : Call), before.sip = .queueing j ∧ before.objects[j]? = some call ∧
      after.objects = before.objects.set j { call with timer := .running } ∧
        after.sip = .idle := by
  simp only [step] at possible
  split at possible
  · rename_i j queued
    split at possible
    · rename_i call found
      obtain rfl : _ = after := Option.some.inj possible
      exact ⟨j, call, queued, found, rfl, rfl⟩
    · simp at possible
  · simp at possible

/-- What the SIP fiber does in one step. -/
inductive SipTurn (before : Server) (event : Event) (after : Server) : Prop
  | same (sip : after.sip = before.sip) (unstarted : event ≠ .startCall)
      (kept : ∀ (slot : Nat) pending, pending.overWebsocket = false →
        before.setUps[slot]? = some (some pending) → after.setUps[slot]? = some (some pending))
  | idles (sip : after.sip = .idle)
  | awaits {slot : Nat} {pending : Pending} (sip : after.sip = .awaiting slot)
      (waits : after.setUps[slot]? = some (some pending))
      (overUdp : pending.overWebsocket = false)
  | queues {k : Nat} {call : Call} (sip : after.sip = .queueing k)
      (found : after.objects[k]? = some call) (unstarted : call.timer = .notScheduled)
      (engaged : call.Engaged)

/-- A set-up stays where it is when others are opened. -/
theorem kept_append {setUps : List (Option Pending)} {slot : Nat} {pending : Pending}
    (waits : setUps[slot]? = some (some pending)) (last : Pending) :
    (setUps ++ [some last])[slot]? = some (some pending) := by
  obtain ⟨inside, -⟩ := List.getElem?_eq_some_iff.mp waits
  exact (List.getElem?_append_left inside).trans waits

/-- A set-up over UDP is given up, or its call has been answered and is started next. -/
theorem speak_of_udp {slot : Nat} {pending : Pending} (entrance : pending.overWebsocket = false)
    (speech : Speech) :
    (before.speak conf slot pending speech).sip = .idle ∨
      ∃ call, Made pending speech call ∧ call.Engaged ∧
        (before.speak conf slot pending speech).sip = .queueing before.objects.length ∧
        (before.speak conf slot pending speech).objects = before.objects ++ [call] := by
  have overUdp : ¬pending.overWebsocket = true := by rw [entrance]; exact Bool.false_ne_true
  unfold speak
  dsimp only
  rw [if_neg overUdp]
  rcases Sip.Session.finishInvite_made conf speech pending before.toTracker with
    ⟨e, finished⟩ | ⟨result, call, made, answered, finished⟩
  · rw [finished]
    exact .inl rfl
  · rw [finished]
    cases result with
    | error e => exact .inl rfl
    | ok responses =>
        obtain ⟨responder, listener⟩ := answered responses rfl
        have engaged : call.Engaged := ⟨made.entrance.trans entrance, responder, listener⟩
        exact .inr ⟨call, made, engaged, rfl, rfl⟩

theorem sipTurn_of_speak {slot : Nat} {pending : Pending} (speech : Speech)
    (waits : before.setUps[slot]? = some (some pending)) :
    SipTurn before (.speech slot speech) (before.speak conf slot pending speech) := by
  cases entrance : pending.overWebsocket with
  | true =>
      refine .same ?_ Event.noConfusion ?_
      · rw [speak, if_pos entrance]
      · intro place other overUdp found
        have differ : slot ≠ place := by
          rintro rfl
          obtain rfl : pending = other := by simpa [waits] using found
          simp [entrance] at overUdp
        rw [speak, if_pos entrance]
        exact (List.getElem?_set_ne differ).trans found
  | false =>
      rcases @speak_of_udp conf before slot pending entrance speech with
        idle | ⟨call, made, engaged, queued, objects⟩
      · exact .idles idle
      · have tracked : (before.speak conf slot pending speech).objects[before.objects.length]? =
            some call := by
          rw [objects, List.getElem?_concat_length]
        exact .queues queued tracked made.timer engaged

/-- The SIP fiber does one of these things in a step. -/
theorem sip_turn (possible : Server.step conf before event = some after) :
    SipTurn before event after := by
  cases event with
  | sipDatagram data client start delivered =>
      simp only [Server.step] at possible
      split at possible
      · rename_i idle
        cases begun : Sip.Session.beginSipEvent conf start delivered data client
            before.toTracker with
        | mk turn tracker =>
            rw [begun] at possible
            cases turn with
            | drawing => simp [afterTurn] at possible
            | awaiting pending =>
                obtain rfl : _ = after := Option.some.inj possible
                exact .awaits rfl List.getElem?_concat_length
                  (Sip.Session.overUdp_of_awaiting begun)
            | raised e =>
                obtain rfl : _ = after := Option.some.inj possible
                exact .idles idle
            | handled responses =>
                obtain rfl : _ = after := Option.some.inj possible
                exact .idles idle
      · simp at possible
  | webSocketMessage message start =>
      simp only [Server.step] at possible
      cases begun : WebSocketServer.beginMessage start message before.toTracker with
      | mk turn tracker =>
          rw [begun] at possible
          cases turn with
          | drawing => simp [afterTurn] at possible
          | awaiting last =>
              obtain rfl : _ = after := Option.some.inj possible
              exact .same rfl Event.noConfusion fun _ _ _ waits => kept_append waits last
          | raised e =>
              obtain rfl : _ = after := Option.some.inj possible
              exact .same rfl Event.noConfusion fun _ _ _ waits => waits
          | handled responses =>
              obtain rfl : _ = after := Option.some.inj possible
              exact .same rfl Event.noConfusion fun _ _ _ waits => waits
  | speech slot speech =>
      simp only [Server.step] at possible
      split at possible
      · rename_i pending waits
        obtain rfl : _ = after := Option.some.inj possible
        exact sipTurn_of_speak speech waits
      · simp at possible
  | startCall =>
      obtain ⟨-, -, -, -, -, idle⟩ := queueing_of_startCall possible
      exact .idles idle
  | listen j =>
      simp only [Server.step] at possible
      split at possible
      · split at possible
        · obtain rfl : _ = after := Option.some.inj possible
          exact .same rfl Event.noConfusion fun _ _ _ waits => waits
        · simp at possible
      · simp at possible
  | receive j received =>
      simp only [Server.step] at possible
      split at possible
      · split at possible
        · obtain rfl : _ = after := Option.some.inj possible
          unfold hear
          split
          · exact .same rfl Event.noConfusion fun _ _ _ waits => waits
          · split <;> exact .same rfl Event.noConfusion fun _ _ _ waits => waits
        · simp at possible
      · simp at possible
  | tick j ticks delivery =>
      simp only [Server.step] at possible
      split at possible
      · split at possible
        · obtain rfl : _ = after := Option.some.inj possible
          exact .same rfl Event.noConfusion fun _ _ _ waits => waits
        · simp at possible
      · simp at possible

/-- A timer is scheduled when the event of its call is taken, and no sooner. -/
theorem unscheduled_of_step {k : Nat} {old : Call} (found : before.objects[k]? = some old)
    (unscheduled : old.timer = .notScheduled) (unstarted : event ≠ .startCall)
    (possible : Server.step conf before event = some after) :
    ∃ new, after.objects[k]? = some new ∧ new.timer = .notScheduled := by
  cases event with
  | tick j ticks delivery =>
      obtain ⟨call, found_call, running, objects, -⟩ := running_of_tick possible
      have differ : j ≠ k := by
        rintro rfl
        obtain rfl : old = call := by simpa [found] using found_call
        simp [unscheduled] at running
      exact ⟨old, by simp [objects, differ, found], unscheduled⟩
  | _ =>
      obtain ⟨new, found_new, fate⟩ := exists_fate found possible
      exact ⟨new, found_new, (resting_of_fate fate (by simp) unstarted).timer.trans unscheduled⟩

/-! ### Every run -/

/-- What the SIP fiber has to do with the calls. -/
structure Attended (server : Server) : Prop where
  /-- Every call has been started once it had been answered, or nothing has been heard of it. -/
  orderly : ∀ (k : Nat) call, server.objects[k]? = some call → call.Orderly
  /-- The event that is being queued is that of an answered call that has not been started. -/
  queueing : ∀ k : Nat, server.sip = .queueing k →
    ∃ call, server.objects[k]? = some call ∧ call.timer = .notScheduled ∧ call.Engaged
  /-- The prompt that is being waited for is that of a set-up over UDP. -/
  awaiting : ∀ slot : Nat, server.sip = .awaiting slot →
    ∃ pending, server.setUps[slot]? = some (some pending) ∧ pending.overWebsocket = false
  /-- The transports that wait have not been used. -/
  waiting : server.Waiting

theorem attended_initial : initial.Attended where
  orderly := by simp [initial, Tracker.empty]
  queueing := by simp [initial]
  awaiting := by simp [initial]
  waiting := waiting_initial

theorem Attended.orderly_step (attended : before.Attended) {k : Nat} {old new : Call}
    (found : before.objects[k]? = some old) (found_new : after.objects[k]? = some new)
    (possible : Server.step conf before event = some after) : new.Orderly := by
  obtain ⟨inside, -⟩ := List.getElem?_eq_some_iff.mp found
  have orderly := attended.orderly k old found
  obtain ⟨other, found_other, fate⟩ := exists_fate found possible
  obtain rfl : new = other := by simpa [found_new] using found_other
  cases event with
  | tick j ticks delivery =>
      obtain ⟨call, found_call, running, objects, -⟩ := running_of_tick possible
      by_cases same : j = k
      · subst same
        obtain rfl : old = call := by simpa [found] using found_call
        obtain rfl : old.tick ticks delivery = new := by simpa [objects, inside] using found_new
        have started := Call.timer_tick running ticks delivery
        have engaged := orderly.engaged (running ▸ TimerFiber.noConfusion)
        exact ⟨fun unstarted => absurd unstarted started, fun _ => engaged_of_fate fate engaged⟩
      · obtain rfl : old = new := by simpa [objects, same, found] using found_new
        exact orderly
  | startCall =>
      obtain ⟨j, call, queued, found_call, objects, -⟩ := queueing_of_startCall possible
      by_cases same : j = k
      · subst same
        obtain ⟨other, found_other, -, engaged⟩ := attended.queueing j queued
        obtain rfl : old = other := by simpa [found] using found_other
        obtain rfl : old = call := by simpa [found] using found_call
        obtain rfl : { old with timer := .running } = new := by
          simpa [objects, inside] using found_new
        exact ⟨nofun, fun _ => engaged_of_fate fate engaged⟩
      · obtain rfl : old = new := by simpa [objects, same, found] using found_new
        exact orderly
  | _ =>
      exact (resting_of_fate fate (by simp) (by simp)).orderly orderly (engaged_of_fate fate)

/-- The event being queued is that of a call as it should be, after a step. -/
theorem Attended.queueing_step (attended : before.Attended)
    (possible : Server.step conf before event = some after) {k : Nat}
    (queued : after.sip = .queueing k) :
    ∃ call, after.objects[k]? = some call ∧ call.timer = .notScheduled ∧ call.Engaged := by
  cases sip_turn possible with
  | same sip unstarted kept =>
      obtain ⟨old, found, unscheduled, engaged⟩ := attended.queueing k (sip ▸ queued)
      obtain ⟨new, found_new, still⟩ := unscheduled_of_step found unscheduled unstarted possible
      obtain ⟨other, found_other, fate⟩ := exists_fate found possible
      obtain rfl : new = other := by simpa [found_new] using found_other
      exact ⟨new, found_new, still, engaged_of_fate fate engaged⟩
  | idles sip => simp [sip] at queued
  | awaits sip waits overUdp => simp [sip] at queued
  | @queues place call sip found unstarted engaged =>
      obtain rfl : place = k := SipFiber.queueing.inj (sip.symm.trans queued)
      exact ⟨call, found, unstarted, engaged⟩

theorem Attended.awaiting_step (attended : before.Attended)
    (possible : Server.step conf before event = some after) {slot : Nat}
    (awaiting : after.sip = .awaiting slot) :
    ∃ pending, after.setUps[slot]? = some (some pending) ∧ pending.overWebsocket = false := by
  cases sip_turn possible with
  | same sip unstarted kept =>
      obtain ⟨pending, found, overUdp⟩ := attended.awaiting slot (sip ▸ awaiting)
      exact ⟨pending, kept slot pending overUdp found, overUdp⟩
  | idles sip => simp [sip] at awaiting
  | @awaits place pending sip waits overUdp =>
      obtain rfl : place = slot := SipFiber.awaiting.inj (sip.symm.trans awaiting)
      exact ⟨pending, waits, overUdp⟩
  | queues sip found unstarted engaged => simp [sip] at awaiting

/-- The step lemma of the SIP fiber. -/
theorem Attended.step (attended : before.Attended)
    (possible : Server.step conf before event = some after) : after.Attended where
  orderly := by
    intro k new found_new
    cases found : before.objects[k]? with
    | some old => exact attended.orderly_step found found_new possible
    | none =>
        obtain ⟨-, slot, pending, speech, -, waits, made⟩ :=
          made_of_absent found found_new possible
        obtain ⟨unused, -⟩ := attended.waiting.transport waits
        refine ⟨fun _ => ⟨made.sent, ?_, made.position⟩, fun started => absurd made.timer started⟩
        rw [made.transport, unused]
  queueing k queued := attended.queueing_step possible queued
  awaiting slot awaiting := attended.awaiting_step possible awaiting
  waiting := attended.waiting.step possible

theorem attended_of_run {events : List Event} {final : Server}
    (execution : run (Server.step conf) initial events = some final) : final.Attended :=
  invariant_of_run Attended.step attended_initial execution

/-! ### Starts -/

/-- How many calls have been started. -/
def starts (events : List Event) : Nat :=
  events.countP fun event => match event with
    | .startCall => true
    | _ => false

/-- Only an event that starts a call starts one. -/
theorem started_of_fate {k : Nat} {old new : Call} (fate : Fate before k event old new)
    (unstarted : event ≠ .startCall) : new.started = old.started := by
  cases event with
  | startCall => exact absurd rfl unstarted
  | tick j ticks delivery =>
      cases fate with
      | same => rfl
      | turned turn =>
          cases turn with
          | ticked running =>
              have fired := Call.timer_tick running ticks delivery
              simp [Call.started, running, fired]
      | ended ending => cases ending
  | _ => rw [Call.started, Call.started, (resting_of_fate fate (by simp) (by simp)).timer]

/-- A call that takes the place of another one that counts as much. -/
theorem countP_set_of_same {objects : List Call} {k : Nat} {old new : Call}
    (found : objects[k]? = some old) (same : new.started = old.started) :
    (objects.set k new).countP Call.started = objects.countP Call.started := by
  obtain ⟨inside, rfl⟩ := List.getElem?_eq_some_iff.mp found
  rw [List.countP_set inside, same]
  split
  · rename_i counts
    exact Nat.sub_add_cancel (List.countP_pos_iff.mpr ⟨_, List.getElem_mem inside, counts⟩)
  · rfl

/-- A step starts as many calls as it has events to start them. -/
theorem Attended.count_step (attended : before.Attended)
    (possible : Server.step conf before event = some after) :
    after.objects.countP Call.started = before.objects.countP Call.started + starts [event] := by
  by_cases start : event = .startCall
  · subst start
    obtain ⟨j, call, queued, found, objects, -⟩ := queueing_of_startCall possible
    obtain ⟨other, found_other, unstarted, -⟩ := attended.queueing j queued
    obtain rfl : call = other := by simpa [found] using found_other
    obtain ⟨inside, rfl⟩ := List.getElem?_eq_some_iff.mp found
    rw [objects, List.countP_set inside]
    simp [Call.started, unstarted, starts]
  · have none_started : starts [event] = 0 := by
      cases event <;> first | rfl | exact absurd rfl start
    rw [none_started, Nat.add_zero]
    cases (step_cases possible).calls with
    | same objects calls => rw [objects]
    | @created _ _ _ call _ _ _ _ tracker =>
        have objects : after.objects = before.objects ++ [call] := congrArg Tracker.objects tracker
        have found : after.objects[before.objects.length]? = some call := by
          rw [objects, List.getElem?_concat_length]
        obtain ⟨-, _, _, _, -, -, made⟩ :=
          made_of_absent (List.getElem?_eq_none (Nat.le_refl _)) found possible
        have unstarted : call.started = false := by simp [Call.started, made.timer]
        rw [objects, List.countP_append, List.countP_singleton, unstarted]
        rfl
    | ran found turn tracker =>
        have fate : Fate before _ event _ _ := .turned turn
        rw [congrArg Tracker.objects tracker]
        exact countP_set_of_same found (started_of_fate fate start)
    | ended found ending tracker =>
        rw [congrArg Tracker.objects tracker]
        exact countP_set_of_same found (started_of_fate (.ended ending) start)

/-- What has been started in a run. -/
structure Started (events : List Event) (server : Server) : Prop where
  /-- Every event that starts a call starts one, and no call is started twice. -/
  once : starts events = server.objects.countP Call.started
  /-- A call has been answered over UDP before it is started, and is silent until then. -/
  orderly : ∀ call ∈ server.objects, call.Orderly
  /-- Calls that have come over a WebSocket are never started. -/
  mute : ∀ call ∈ server.objects, call.overWebsocket = true → call.sent = []

/-- The calls are attended to, and as many have been started as there were events to start them. -/
structure Counted (events : List Event) (server : Server) : Prop where
  /-- They are attended to. -/
  attended : server.Attended
  /-- They have been counted. -/
  once : starts events = server.objects.countP Call.started

theorem Counted.step {events : List Event} (counted : Counted events before)
    (possible : Server.step conf before event = some after) :
    Counted (events ++ [event]) after where
  attended := counted.attended.step possible
  once := by
    rw [counted.attended.count_step possible, ← counted.once, starts, List.countP_append]
    rfl

theorem counted_initial : Counted [] initial := ⟨attended_initial, rfl⟩

theorem counted_of_run {events : List Event} {final : Server}
    (execution : run (Server.step conf) initial events = some final) : Counted events final :=
  history_of_run Counted.step counted_initial execution

/-- In every run, each call is started at most once, after it has been answered over UDP. -/
theorem calls_started {events : List Event} {final : Server}
    (execution : run (Server.step conf) initial events = some final) : Started events final := by
  obtain ⟨attended, counted⟩ := counted_of_run execution
  have orderly : ∀ call ∈ final.objects, call.Orderly := by
    intro call member
    obtain ⟨k, found⟩ := List.getElem?_of_mem member
    exact attended.orderly k call found
  refine ⟨counted, orderly, fun call member overWebsocket => ?_⟩
  by_cases started : call.timer = .notScheduled
  · exact ((orderly call member).silent started).1
  · have overUdp := ((orderly call member).engaged started).overUdp
    simp [overUdp] at overWebsocket

/-- A call over UDP, and one over a WebSocket. -/
def oneOfEach : List Event :=
  sampleCall 0 "k1" 0 ++
    [.webSocketMessage (sampleInvite "k2") (sampleStart 2), .speech 1 sampleSpeech, .listen 1]

theorem calls_started_oneOfEach :
    ∃ final, run (Server.step sampleConf) initial oneOfEach = some final ∧
      final.objects.map Call.started = [true, false] ∧ Started oneOfEach final := by
  have reached : (run (Server.step sampleConf) initial oneOfEach).map (fun final =>
      final.objects.map Call.started) = some [true, false] := by decide +kernel
  obtain ⟨final, execution, started⟩ := Option.map_eq_some_iff.mp reached
  exact ⟨final, execution, started, calls_started execution⟩

end Server
end Contest
