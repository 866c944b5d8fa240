import Contest.Reachable
import Contest.Sip.ReadBack

/-!
# Responses to BYE

The responder of a call keeps the headers of the INVITE; a BYE replaces its CSeq and nothing else.
The 200 OK to a BYE therefore belongs to the transaction of the BYE exactly when the BYE repeats
the Via values and the From of the INVITE.
-/

namespace Contest
namespace Sip

/-- The text is a 200 OK without a body whose headers are those of the given request, save for a
tag in To. -/
def OwnTransaction (response : Text) (request : Header) : Prop :=
  ∃ block header toText, response = block ++ "\r\n\r\n".toList ∧ Header.new block = .ok header ∧
    header.commandLine = "SIP/2.0 200 OK".toList ∧
    header.vias = request.vias ∧ header.cseq = request.cseq ∧ header.callId = request.callId ∧
    header.fromHeader = request.fromHeader ∧
    header.toHeader = .ok toText ∧ ";tag=".toList <:+: toText

/-- What a responder generates belongs to a request when the responder prints the headers of the
request. -/
theorem ownTransaction_generate_iff {responder : Responder} {invite request : Header}
    {cseq : Text} (answers : responder.Answers invite)
    (given : request.cseq = .ok cseq) (known : request.callId = .ok responder.callId)
    (conf : Conf) (okBody : Bool → Sdp.OkBody) :
    OwnTransaction ((responder.resetCSeq cseq).generate conf okBody .ok) request ↔
      request.vias = invite.vias ∧ request.fromHeader = invite.fromHeader := by
  have reset := answers.resetCSeq (Header.headerValue_of_field given)
  obtain ⟨block, header, text, parsed, commandLine, vias, kvs⟩ :=
    Responder.read_generate_ok conf reset.clean okBody
  obtain ⟨callId_eq, from_eq, to_eq, cseq_eq, -⟩ :
      header.callId = .ok responder.callId ∧ header.fromHeader = .ok responder.fromHeader ∧
        header.toHeader = .ok responder.toHeader ∧ header.cseq = .ok cseq ∧ _ :=
    Responder.fields_of_headers kvs
  rw [reset.vias] at vias
  constructor
  · rintro ⟨other, read, -, response, parsed_other, -, vias_other, -, -, from_other, -, -⟩
    obtain rfl : block = other := List.append_cancel_right (text.symm.trans response)
    obtain rfl : header = read := by simpa [parsed] using parsed_other
    rw [← vias_other, ← from_other, vias, from_eq, answers.fromHeader]
    exact ⟨rfl, rfl⟩
  · rintro ⟨same_vias, same_from⟩
    refine ⟨block, header, responder.toHeader, text, parsed, commandLine, ?_, ?_, ?_, ?_, to_eq,
      answers.tagged⟩
    · rw [vias, same_vias]
    · rw [cseq_eq, given]
    · rw [callId_eq, known]
    · rw [from_eq, same_from, answers.fromHeader]

end Sip

open Contest.Graph

namespace Server

/-- A call is known under the Call-ID of its INVITE and answers with the headers of its INVITE. -/
structure AnswersInvite (call : Call) : Prop where
  /-- The Call-ID. -/
  callId : call.invite.sipHeader.callId = .ok call.callId
  /-- The responder. -/
  answers : ∀ responder, call.responder = some responder →
    responder.Answers call.invite.sipHeader

variable {conf : Conf} {before after : Server} {event : Event}

theorem AnswersInvite.kept {old new : Call} (held : AnswersInvite old) (kept : old.Kept new) :
    AnswersInvite new where
  callId := by rw [kept.invite, kept.callId, held.callId]
  answers := by
    rw [kept.invite, kept.responder]
    exact held.answers

theorem answersInvite_step
    (held : ∀ (k : Nat) call, before.objects[k]? = some call → AnswersInvite call)
    (possible : step conf before event = some after) :
    ∀ (k : Nat) call, after.objects[k]? = some call → AnswersInvite call := by
  refine forall_objects_of_step ?_ ?_ ?_ held possible
  · intro pending call made
    refine ⟨made.invite ▸ made.callId, ?_⟩
    intro responder answered
    obtain ⟨tag, built⟩ := made.responder responder answered
    rw [made.invite]
    exact Sip.FirstFlurry.answers_of_new built
  · intro k old new _ held_old turn
    exact held_old.kept turn.kept
  · intro k old new _ held_old ending
    cases ending with
    | @bye _ _ _ _ msg callId cseq call responder _ _ _ _ answered given =>
        refine ⟨held_old.callId, ?_⟩
        rintro other ⟨rfl⟩
        exact (held_old.answers responder answered).resetCSeq
          (Sip.Header.headerValue_of_field given)
    | @timedOut received _ _ _ _ turn =>
        have kept : old.Kept new := by simpa [turn] using (old.receive_frame received).1
        exact ⟨(held_old.kept kept).callId, (held_old.kept kept).answers⟩

/-- Every call answers with the headers of its INVITE, whatever happened to it. -/
theorem answersInvite_of_run {events : List Event}
    (execution : Transition.run (step conf) initial events = some after) :
    ∀ (k : Nat) call, after.objects[k]? = some call → AnswersInvite call :=
  Transition.invariant_of_run answersInvite_step (by simp [initial, Tracker.empty]) execution

/-- A BYE finds an answered call set up over UDP, in a state that a run reaches. -/
structure MeetsCall (conf : Conf) (events : List Event) (data : Text) (server : Server)
    (msg : Sip.Msg) (callId cseq : Text) (k : Nat) (call : Call) : Prop where
  /-- The run. -/
  execution : Transition.run (step conf) initial events = some server
  /-- The text is a message. -/
  parsed : Sip.Msg.new data = .ok msg
  /-- It is a BYE. -/
  command : msg.sipHeader.command = .ok "BYE".toList
  /-- It has a Call-ID. -/
  known : msg.sipHeader.callId = .ok callId
  /-- It has a CSeq. -/
  given : msg.sipHeader.cseq = .ok cseq
  /-- The call. -/
  found : server.findByCallId callId = some (k, call)
  /-- The call comes from an INVITE over UDP. -/
  overUdp : call.overWebsocket = false
  /-- The call has been answered. -/
  answered : call.responder.isSome = true

variable {events : List Event} {data callId cseq : Text} {msg : Sip.Msg} {k : Nat} {call : Call}

/-- The response to a BYE in a reachable state. -/
theorem MeetsCall.exists_response (meets : MeetsCall conf events data after msg callId cseq k call)
    (start : Start) (client : IPAddress) :
    ∃ responder : Sip.Responder, responder.Answers call.invite.sipHeader ∧
      responder.callId = callId ∧
      (Sip.Session.beginSipEvent conf start true data client after.toTracker).1 =
        .handled [(responder.resetCSeq cseq).generate conf (call.okBody conf []) .ok] := by
  obtain ⟨responder, has_responder⟩ := Option.isSome_iff_exists.mp meets.answered
  obtain ⟨-, object, same⟩ := Tracker.findByCallId_eq_some meets.found
  have held := answersInvite_of_run meets.execution k call object
  have answers := held.answers responder has_responder
  have callId_eq : responder.callId = callId := by
    have : Except.ok responder.callId = Except.ok call.callId :=
      answers.callId.symm.trans held.callId
    rw [Except.ok.inj this, same]
  refine ⟨responder, answers, callId_eq, ?_⟩
  rw [Sip.Session.beginSipEvent_bye meets.parsed meets.command,
    Sip.Session.handleBye_answered meets.known meets.found has_responder meets.given]
  rfl

/-- A call set up over UDP is found under `k1` and has been answered, and its INVITE had the given
Via values. -/
def answersUnder (vias : List Text) (tracker : Tracker) : Bool :=
  (tracker.findByCallId "k1".toList).any fun found =>
    !found.2.overWebsocket && found.2.responder.isSome &&
      found.2.invite.sipHeader.vias = vias &&
        found.2.invite.sipHeader.fromHeader = .ok "<sip:c@d>".toList

/-- The text is a BYE for `k1` with the given Via values. -/
def byeUnder (vias : List Text) (data : Text) : Bool :=
  (Sip.Msg.new data).toOption.any fun msg =>
    msg.sipHeader.command = .ok "BYE".toList && msg.sipHeader.callId = .ok "k1".toList &&
      msg.sipHeader.cseq = .ok "1 BYE".toList && msg.sipHeader.vias = vias &&
        msg.sipHeader.fromHeader = .ok "<sip:c@d>".toList

/-- A run with an answered call, and a BYE. -/
theorem exists_meetsCall {events : List Event} {data : Text} {ofCall ofBye : List Text}
    (reached : (Transition.run (step sampleConf) initial events).any
      (fun server => answersUnder ofCall server.toTracker) = true)
    (bye : byeUnder ofBye data = true) :
    ∃ server msg callId cseq k call,
      MeetsCall sampleConf events data server msg callId cseq k call ∧
        call.invite.sipHeader.vias = ofCall ∧ msg.sipHeader.vias = ofBye ∧
          msg.sipHeader.fromHeader = call.invite.sipHeader.fromHeader := by
  obtain ⟨server, execution, under⟩ := Option.any_eq_true _ _ |>.mp reached
  obtain ⟨⟨k, call⟩, found, held⟩ := Option.any_eq_true _ _ |>.mp under
  obtain ⟨msg, read, said⟩ := Option.any_eq_true _ _ |>.mp bye
  have parsed : Sip.Msg.new data = .ok msg := by
    cases result : Sip.Msg.new data with
    | error e => simp [result, Except.toOption] at read
    | ok other => simpa [result, Except.toOption] using read
  simp only [Bool.and_eq_true, Bool.not_eq_true', decide_eq_true_eq] at held said
  obtain ⟨⟨⟨overUdp, answered⟩, ofCall_eq⟩, from_call⟩ := held
  obtain ⟨⟨⟨⟨command, known⟩, given⟩, ofBye_eq⟩, from_bye⟩ := said
  exact ⟨server, msg, _, _, k, call,
    ⟨execution, parsed, command, known, given, found, overUdp, answered⟩, ofCall_eq, ofBye_eq,
    from_bye.trans from_call.symm⟩

/-- The Via value of the sample requests. -/
def sampleVia : Text := "SIP/2.0/UDP 10.0.0.1:5060".toList

/-- A BYE with a branch in its Via, which a client draws anew for every request. -/
def byeWithBranch : Text :=
  ("BYE sip:a@b SIP/2.0\r\nVia: SIP/2.0/UDP 10.0.0.1:5060;branch=z9hG4bK2\r\n" ++
    "From: <sip:c@d>\r\nTo: <sip:a@b>;tag=tttttttt\r\nCall-ID: k1\r\nCSeq: 1 BYE\r\n\r\n").toList

end Server
end Contest
