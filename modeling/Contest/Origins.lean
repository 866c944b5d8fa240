import Contest.HangUp

/-!
# Where calls come from

A call is tracked once the text-to-speech service has answered, with the transport that has waited
for it, the letters that were drawn for it, and a prompt that has not been played.  A transport that
waits has not been used.
-/

namespace Contest

open Contest.Graph Transition

namespace Graph

/-- A call when it is tracked, with the answer of the text-to-speech service. -/
structure Made (pending : Pending) (speech : Speech) (call : Call) : Prop
    extends Created pending call where
  /-- The user fragment has been drawn. -/
  serverUserfrag : call.serverUserfrag = speech.serverUserfrag.text
  /-- The password has been drawn. -/
  serverPassword : call.serverPassword = speech.serverPassword.text
  /-- The user fragment of the other side is that of the offer. -/
  clientUserfrag : call.clientUserfrag = pending.msg.sdpHeader.iceUserfrag
  /-- No audio is scheduled. -/
  timer : call.timer = .notScheduled
  /-- The prompt is at its start. -/
  position : call.prompt.position = 0

theorem Pending.made {pending : Pending} {speech : Speech} {call : Call}
    (started : pending.startTrackSipConv speech = .ok call) : Made pending speech call := by
  have created := pending.created started
  obtain ⟨body, -, started⟩ := bind_eq_ok.mp started
  obtain ⟨toUri, -, started⟩ := bind_eq_ok.mp started
  obtain ⟨callId, -, started⟩ := bind_eq_ok.mp started
  obtain rfl : _ = call := Except.ok.inj started
  exact ⟨created, rfl, rfl, rfl, rfl, rfl⟩

theorem Made.answer {pending : Pending} {speech : Speech} {call : Call}
    (made : Made pending speech call) (conf : Conf) :
    Made pending speech (call.answer conf speech).2 := by
  have created := made.toCreated.answer conf speech
  unfold Call.answer at created ⊢
  split at created
  · exact made
  · simp only at created ⊢
    split at created
    · exact ⟨created, made.serverUserfrag, made.serverPassword, made.clientUserfrag, made.timer,
        made.position⟩
    · exact ⟨created, made.serverUserfrag, made.serverPassword, made.clientUserfrag, made.timer,
        made.position⟩

/-- A call that has been answered over UDP. -/
structure Call.Engaged (call : Call) : Prop where
  /-- The entry point. -/
  overUdp : call.overWebsocket = false
  /-- There is a responder. -/
  responder : call.responder.isSome = true
  /-- The receive loop has been spawned. -/
  listener : call.listener ≠ .notSpawned

theorem Call.answer_eq_ok (conf : Conf) (speech : Speech) (call : Call) {responses : List Text}
    (sent : (call.answer conf speech).1 = .ok responses) :
    (call.answer conf speech).2.responder.isSome = true ∧
      (call.answer conf speech).2.listener ≠ .notSpawned := by
  unfold Call.answer at sent ⊢
  split at sent
  · cases sent
  · dsimp only at sent ⊢
    split at sent
    · cases sent
    · exact ⟨rfl, ListenFiber.noConfusion⟩

end Graph

theorem Sip.Session.finishInvite_made (conf : Conf) (speech : Speech) (pending : Pending)
    (tracker : Tracker) :
    (∃ e, finishInvite conf speech pending tracker = (.error e, tracker)) ∨
      ∃ result call, Made pending speech call ∧
        (∀ responses, result = .ok responses →
          call.responder.isSome = true ∧ call.listener ≠ .notSpawned) ∧
        finishInvite conf speech pending tracker = (result, tracker.add call) := by
  unfold finishInvite
  cases started : pending.startTrackSipConv speech with
  | error e => exact .inl ⟨e, rfl⟩
  | ok call =>
      have made := pending.made started
      cases replyAddr conf pending.msg with
      | error e => exact .inr ⟨.error e, call, made, nofun, rfl⟩
      | ok addr =>
          exact .inr ⟨_, _, made.answer conf, fun _ => Call.answer_eq_ok conf speech call, rfl⟩

theorem WebSocketServer.finishInvite_made (conf : Conf) (speech : Speech) (pending : Pending)
    (tracker : Tracker) :
    (∃ e, finishInvite conf speech pending tracker = (.error e, tracker)) ∨
      ∃ result call, Made pending speech call ∧
        finishInvite conf speech pending tracker = (result, tracker.add call) := by
  unfold finishInvite
  cases started : pending.startTrackSipConv speech with
  | error e => exact .inl ⟨e, rfl⟩
  | ok call => exact .inr ⟨_, _, (pending.made started).answer conf, rfl⟩

namespace Server

variable {conf : Conf} {before after : Server} {event : Event}

/-- With the answer to a request for speech, a call is tracked or none is. -/
theorem speak_cases (slot : Nat) (pending : Pending) (speech : Speech) :
    (before.speak conf slot pending speech).objects = before.objects ∨
      ∃ call, Made pending speech call ∧
        (before.speak conf slot pending speech).objects = before.objects ++ [call] := by
  unfold speak
  dsimp only
  split
  · rcases WebSocketServer.finishInvite_made conf speech pending before.toTracker with
      ⟨e, finished⟩ | ⟨result, call, made, finished⟩
    · rw [finished]
      exact .inl rfl
    · rw [finished]
      exact .inr ⟨call, made, rfl⟩
  · rcases Sip.Session.finishInvite_made conf speech pending before.toTracker with
      ⟨e, finished⟩ | ⟨result, call, made, -, finished⟩
    · rw [finished]
      exact .inl rfl
    · rw [finished]
      cases result <;> exact .inr ⟨call, made, rfl⟩

/-- A call that was not there before a step has been set up in it. -/
theorem made_of_absent {k : Nat} {call : Call} (absent : before.objects[k]? = none)
    (found : after.objects[k]? = some call) (possible : step conf before event = some after) :
    k = before.objects.length ∧ ∃ (slot : Nat) (pending : Pending) (speech : Speech),
      event = .speech slot speech ∧ before.setUps[slot]? = some (some pending) ∧
        Made pending speech call := by
  have outside : before.objects.length ≤ k := List.getElem?_eq_none_iff.mp absent
  obtain ⟨inside, -⟩ := List.getElem?_eq_some_iff.mp found
  cases (step_cases possible).calls with
  | same objects calls =>
      rw [objects] at inside
      omega
  | @created slot speech pending _ spoke waits _ _ _ =>
      subst spoke
      obtain rfl : before.speak conf slot pending speech = after := by
        simpa [step, waits] using possible
      rcases speak_cases slot pending speech with same | ⟨fresh, made, added⟩
      · rw [same] at inside
        omega
      · rw [added, List.length_append, List.length_singleton] at inside
        rw [added, List.getElem?_append_right outside] at found
        obtain rfl := List.mem_singleton.mp (List.mem_of_getElem? found)
        exact ⟨by omega, slot, pending, speech, rfl, waits, made⟩
  | ran found_old turn tracker =>
      rw [congrArg Tracker.objects tracker, Tracker.put, List.length_set] at inside
      omega
  | ended found_old ending tracker =>
      rw [congrArg Tracker.objects tracker, Tracker.destroy, List.length_set] at inside
      omega

/-! ### Transports that wait -/

/-- Every transport that waits for its call is as it was created, save for an address. -/
def Waiting (server : Server) : Prop :=
  ∀ (slot : Nat) pending, server.setUps[slot]? = some (some pending) →
    ∃ msg, pending.Chosen msg

/-- A message leaves a set-up for its own transport at most. -/
theorem waiting_of_afterTurn {waiting : SipFiber} {turn : Turn × Tracker} (held : before.Waiting)
    (chosen : ∀ pending tracker, turn = (.awaiting pending, tracker) → ∃ msg, pending.Chosen msg)
    (possible : before.afterTurn waiting turn = some after) : after.Waiting := by
  obtain ⟨turn, tracker⟩ := turn
  cases turn with
  | drawing => simp [afterTurn] at possible
  | awaiting last =>
      obtain rfl : _ = after := Option.some.inj possible
      intro slot pending waits
      rcases pending_of_append waits with waited | ⟨-, rfl⟩
      · exact held slot pending waited
      · exact chosen _ _ rfl
  | raised e =>
      obtain rfl : _ = after := Option.some.inj possible
      exact held
  | handled responses =>
      obtain rfl : _ = after := Option.some.inj possible
      exact held

/-- A set-up is opened by a datagram or a message only. -/
theorem waiting_of_undrawn (held : before.Waiting) (undrawn : event.draws = [])
    (stepped : Step before event after) : after.Waiting := by
  intro slot pending waits
  cases stepped with
  | opened drawn live tracker setUps => simp [undrawn, allocRandomRtpPort] at drawn
  | lost drawn tracker setUps => simp [undrawn, allocRandomRtpPort] at drawn
  | stays tracker setUps => exact held slot pending (setUps ▸ waits)
  | abandoned waited tracker setUps =>
      rw [setUps] at waits
      exact held slot pending (pending_of_set waits).1
  | created waited started made tracker setUps =>
      rw [setUps] at waits
      exact held slot pending (pending_of_set waits).1
  | ran found turn tracker setUps => exact held slot pending (setUps ▸ waits)
  | ended found ending tracker setUps => exact held slot pending (setUps ▸ waits)

theorem Waiting.step (held : before.Waiting)
    (possible : Server.step conf before event = some after) : after.Waiting := by
  cases event with
  | sipDatagram data client start delivered =>
      simp only [Server.step] at possible
      split at possible
      · refine waiting_of_afterTurn held (fun pending tracker begun => ?_) possible
        obtain ⟨msg, -, -, invite⟩ := Sip.Session.invite_of_awaiting begun
        exact ⟨msg, (Sip.Session.chosen_of_beginInvite invite).1⟩
      · simp at possible
  | webSocketMessage message start =>
      refine waiting_of_afterTurn held (fun pending tracker begun => ?_) possible
      obtain ⟨msg, -, -, invite⟩ := WebSocketServer.invite_of_awaiting begun
      exact ⟨msg, WebSocketServer.chosen_of_beginInvite invite⟩
  | _ => exact waiting_of_undrawn held rfl (step_cases possible)

theorem waiting_initial : initial.Waiting := by simp [Waiting, initial]

/-- The transport of a call that is made has neither sent nor been closed. -/
theorem Waiting.transport {slot : Nat} {pending : Pending} (held : before.Waiting)
    (waits : before.setUps[slot]? = some (some pending)) :
    pending.transport.seqNo = 0 ∧ pending.transport.rtpSocketClosed = false := by
  obtain ⟨msg, chosen⟩ := held slot pending waits
  obtain ⟨rtpMap, port, addr, -, created⟩ := chosen.transport
  rw [created]
  exact ⟨rfl, rfl⟩

end Server
end Contest
