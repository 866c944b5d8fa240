import Contest.Controllers.WebSocketServer
import Contest.Sip.Session

/-!
# Answered INVITEs

Both entry points answer an INVITE with the three responses of `SIP::FirstFlurry`, built from the
same header values and sent for a call with a new transport.
-/

namespace Contest

open Contest.Graph

/-- An INVITE that came over UDP or over a WebSocket has been answered with the given responses, and
the given call is tracked for it.  Other fibers may have run while the speech was requested. -/
inductive Answered (conf : Conf) (data : Text) (call : Call) (responses : List Text) : Prop
  | overUdp {start : Start} {delivered : Bool} {client : IPAddress} {before opened : Tracker}
      {pending : Pending} {speech : Speech} {tracker : Tracker}
      (begun : Sip.Session.beginSipEvent conf start delivered data client before =
        (.awaiting pending, opened))
      (finished : Sip.Session.finishInvite conf speech pending tracker =
        (.ok responses, tracker.add call))
  | overWebsocket {start : Start} {before opened : Tracker} {pending : Pending} {speech : Speech}
      {tracker : Tracker}
      (begun : WebSocketServer.beginMessage start data before = (.awaiting pending, opened))
      (finished : WebSocketServer.finishInvite conf speech pending tracker =
        (.ok responses, tracker.add call))

namespace Graph

/-- What a call that has been answered owes to its set-up. -/
structure Call.Flurried (conf : Conf) (pending : Pending) (call : Call) (responses : List Text)
    (tag : Sip.RandomLetters 8) (responder : Sip.Responder) : Prop where
  /-- The transport is kept. -/
  transport : call.transport = pending.transport
  /-- The responder is built from the INVITE. -/
  built : Sip.FirstFlurry.new pending.msg.sipHeader tag = .ok responder
  /-- The responder is given to the call. -/
  given : call.responder = some responder
  /-- The responses are those that were sent. -/
  transmitted : ∃ sessionId sendings, Sip.FirstFlurry.transmit conf call.overWebsocket responder
    (call.okBody conf sessionId) sendings = .ok responses

theorem Tracker.add_inj {tracker : Tracker} {left right : Call}
    (same : tracker.add left = tracker.add right) : left = right := by
  have objects : tracker.objects ++ [left] = tracker.objects ++ [right] :=
    congrArg Tracker.objects same
  simpa using objects

theorem Call.flurried_of_answer {conf : Conf} {pending : Pending} {speech : Speech}
    {started call : Call} {responses : List Text}
    (created : pending.startTrackSipConv speech = .ok started)
    (answered : started.answer conf speech = (.ok responses, call)) :
    ∃ responder, call.Flurried conf pending responses speech.tag responder := by
  have origin := pending.created created
  unfold Call.answer at answered
  split at answered
  · simp at answered
  · rename_i responder built
    split at answered
    · simp at answered
    · rename_i sent transmitted
      obtain ⟨sent_eq, rfl⟩ := Prod.mk.inj answered
      obtain rfl : sent = responses := Except.ok.inj sent_eq
      exact ⟨responder, origin.transport, origin.invite ▸ built, rfl, speech.sessionId,
        speech.sendings, transmitted⟩

end Graph

namespace Answered

variable {conf : Conf} {data : Text} {call : Call} {responses : List Text}

/-- An answered INVITE is a message, its transport is chosen from its offer, and its responses are
the first flurry. -/
theorem exists_flurry (answered : Answered conf data call responses) :
    ∃ msg pending tag responder, Sip.Msg.new data = .ok msg ∧
      msg.sipHeader.command = .ok "INVITE".toList ∧ pending.Chosen msg ∧
        call.Flurried conf pending responses tag responder := by
  cases answered with
  | @overUdp _ _ _ _ _ pending speech tracker begun finished =>
      obtain ⟨msg, parsed, command, invite⟩ := Sip.Session.invite_of_awaiting begun
      obtain ⟨chosen, -⟩ := Sip.Session.chosen_of_beginInvite invite
      unfold Sip.Session.finishInvite at finished
      split at finished
      · simp at finished
      · rename_i started created
        split at finished
        · simp at finished
        · obtain ⟨result, added⟩ := Prod.mk.inj finished
          obtain rfl := Tracker.add_inj added
          obtain ⟨responder, flurried⟩ :=
            @Call.flurried_of_answer conf pending speech started _ responses created
              (Prod.ext result rfl)
          exact ⟨msg, pending, speech.tag, responder, parsed, command, chosen, flurried⟩
  | @overWebsocket _ _ _ pending speech tracker begun finished =>
      obtain ⟨msg, parsed, command, invite⟩ := WebSocketServer.invite_of_awaiting begun
      have chosen := WebSocketServer.chosen_of_beginInvite invite
      unfold WebSocketServer.finishInvite at finished
      split at finished
      · simp at finished
      · rename_i started created
        obtain ⟨result, added⟩ := Prod.mk.inj finished
        obtain rfl := Tracker.add_inj added
        obtain ⟨responder, flurried⟩ :=
          @Call.flurried_of_answer conf pending speech started _ responses created
            (Prod.ext result rfl)
        exact ⟨msg, pending, speech.tag, responder, parsed, command, chosen, flurried⟩

end Answered

/-- What a sample datagram over UDP is answered with when no other fiber runs. -/
def sampleResponses (data : Text) : Option (List Text) :=
  match Sip.Session.beginSipEvent sampleConf (sampleStart 0) true data samplePeer .empty with
  | (.awaiting pending, opened) =>
      match Sip.Session.finishInvite sampleConf sampleSpeech pending opened with
      | (.ok responses, _) => some responses
      | _ => none
  | _ => none

theorem exists_answered {data : Text} {responses : List Text}
    (answers : sampleResponses data = some responses) :
    ∃ call, Answered sampleConf data call responses := by
  unfold sampleResponses at answers
  split at answers
  · rename_i pending opened begun
    split at answers
    · rename_i sent after finished
      obtain rfl : sent = responses := Option.some.inj answers
      have added : ∃ call, after = opened.add call := by
        have started := finished
        unfold Sip.Session.finishInvite at started
        split at started
        · simp at started
        · split at started
          · simp at started
          · exact ⟨_, (Prod.mk.inj started).2.symm⟩
      obtain ⟨call, rfl⟩ := added
      exact ⟨call, .overUdp begun finished⟩
    · simp at answers
  · simp at answers

theorem exists_answered_of_isSome {data : Text}
    (answers : (sampleResponses data).isSome = true) :
    ∃ call responses, Answered sampleConf data call responses := by
  obtain ⟨responses, given⟩ := Option.isSome_iff_exists.mp answers
  obtain ⟨call, answered⟩ := exists_answered given
  exact ⟨call, responses, answered⟩

/-- The sample INVITE is answered. -/
theorem exists_answered_sampleInvite :
    ∃ call responses, Answered sampleConf (sampleInvite "k1") call responses :=
  exists_answered_of_isSome (by decide +kernel)

end Contest
