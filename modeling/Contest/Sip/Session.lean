import Contest.Graph.SetUp

/-!
# SIP over UDP

`SIP::Session`: one fiber receives datagrams and handles them one after another.
-/

namespace Contest
namespace Sip
namespace Session

open Contest.Graph

/-- The address that media goes to. -/
def mediaAddr (conf : Conf) (msg : Msg) (client : IPAddress) : Fallible IPAddress := do
  let port ← msg.sdpHeader.mediaPort
  IPAddress.new conf client.address port

/-- The codec and the payload type selected in `handle_invite`. -/
def selectCodec (msg : Msg) : Fallible (Codec × Int) := do
  let rtpMap ← msg.sdpHeader.rtpMap
  return chooseCodec (rtpMap.lookup "opus/48000/2".toList)

/-- `handle_invite`, up to the request for speech. -/
def beginInvite (conf : Conf) (start : Start) (msg : Msg) (client : IPAddress)
    (tracker : Tracker) : Turn × Tracker :=
  match msg.sipHeader.callId with
  | .error e => (.raised e, tracker)
  | .ok callId =>
      match tracker.findByCallId callId with
      | some _ => (.handled [], tracker)
      | none =>
          match selectCodec msg with
          | .error e => (.raised e, tracker)
          | .ok choice =>
              match tracker.newTransport start choice with
              | (none, after) => (.drawing, after)
              | (some (.error e), after) => (.raised e, after)
              | (some (.ok transport), after) =>
                  match mediaAddr conf msg client with
                  | .error e => (.raised e, after)
                  | .ok addr =>
                      if start.coughOpened then
                        (.awaiting ⟨msg, false, { transport with clientAddr := some addr }⟩, after)
                      else (.raised .errno, after)

/-- What is logged about RTCP when the offer has a line about it. -/
def rtcpInfo (msg : Msg) : Fallible Unit :=
  if msg.sdpHeader.hasRtcpInfo then do
    let _ ← msg.sdpHeader.rtcpConnectAddrAndPort
    let _ ← msg.sdpHeader.mediaPort
    return ()
  else .ok ()

/-- The address that the topmost Via names for replies, which is only compared and logged. -/
def replyAddr (conf : Conf) (msg : Msg) : Fallible IPAddress := do
  let via ← msg.sipHeader.topViaInfo
  rtcpInfo msg
  IPAddress.new conf via.host (via.port.getD conf.defaultSipPort)

/-- `handle_invite`, from the answer to the request for speech on. -/
def finishInvite (conf : Conf) (speech : Speech) (pending : Pending) (tracker : Tracker) :
    Fallible (List Text) × Tracker :=
  match pending.startTrackSipConv speech with
  | .error e => (.error e, tracker)
  | .ok call =>
      match replyAddr conf pending.msg with
      | .error e => (.error e, tracker.add call)
      | .ok _ =>
          -- the collection refers to the call, so it sees what the answer does to it
          match call.answer conf speech with
          | (result, answered) => (result, tracker.add answered)

/-- `handle_bye`; a failed system call while the response is sent is rescued. -/
def handleBye (conf : Conf) (delivered : Bool) (msg : Msg) (tracker : Tracker) :
    Turn × Tracker :=
  match msg.sipHeader.callId with
  | .error e => (.raised e, tracker)
  | .ok callId =>
      match tracker.findByCallId callId with
      | none => (.handled [], tracker)
      | some (k, call) =>
          match call.responder with
          | none => (.raised .nilAssertion, tracker)
          | some responder =>
              match msg.sipHeader.cseq with
              | .error e => (.raised e, tracker)
              | .ok cseq =>
                  let reset := responder.resetCSeq cseq
                  let okResponse := reset.generate conf (call.okBody conf []) .ok
                  (.handled (if delivered then [okResponse] else []),
                    tracker.destroy k { call with responder := some reset })

/-- `handle_sip_event`, up to the request for speech. -/
def beginSipEvent (conf : Conf) (start : Start) (delivered : Bool) (data : Text)
    (client : IPAddress) (tracker : Tracker) : Turn × Tracker :=
  match Msg.new data with
  | .error e => (.raised e, tracker)
  | .ok msg =>
      match msg.sipHeader.command with
      | .error e => (.raised e, tracker)
      | .ok command =>
          if command = "INVITE".toList then beginInvite conf start msg client tracker
          else if command = "BYE".toList then handleBye conf delivered msg tracker
          else (.handled [], tracker)

/-- `handle_sip_event` when no other fiber comes in between; a raised exception is rescued. -/
def handleSipEvent (conf : Conf) (start : Start) (speech : Speech) (delivered : Bool)
    (data : Text) (client : IPAddress) (tracker : Tracker) : Turn × Tracker :=
  match beginSipEvent conf start delivered data client tracker with
  | (.awaiting pending, opened) =>
      match finishInvite conf speech pending opened with
      | (.error e, after) => (.raised e, after)
      | (.ok responses, after) => (.handled responses, after)
  | turn => turn

theorem selectCodec_of_rtpMap {msg : Msg} {rtpMap : List (Text × Int)}
    (read : msg.sdpHeader.rtpMap = .ok rtpMap) :
    selectCodec msg = .ok (chooseCodec (rtpMap.lookup "opus/48000/2".toList)) := by
  rw [selectCodec, read]
  rfl

theorem selectCodec_eq_ok {msg : Msg} {choice : Codec × Int}
    (selected : selectCodec msg = .ok choice) :
    ∃ rtpMap, msg.sdpHeader.rtpMap = .ok rtpMap ∧
      chooseCodec (rtpMap.lookup "opus/48000/2".toList) = choice := by
  obtain ⟨rtpMap, read, chosen⟩ := bind_eq_ok.mp selected
  exact ⟨rtpMap, read, Except.ok.inj chosen⟩

theorem opens_beginInvite (conf : Conf) (start : Start) (msg : Msg) (client : IPAddress)
    (tracker : Tracker) :
    Opens false start tracker (beginInvite conf start msg client tracker) := by
  unfold beginInvite
  split
  · exact .refused (by simp)
  · split
    · exact .refused (by simp)
    · split
      · exact .refused (by simp)
      · rename_i choice _
        rcases tracker.newTransport_cases start choice with
          ⟨outcome, opened, failed⟩ | ⟨port, drawn, opened⟩
        · rw [opened]
          match outcome, failed with
          | none, _ => exact .refused (by simp)
          | some (.error e), _ => exact .refused (by simp)
          | some (.ok transport), failed => exact absurd rfl (failed transport)
        · rw [opened]
          cases start.bound with
          | false => exact .lost drawn
          | true =>
              simp only [if_true]
              split
              · exact .lost drawn
              · split
                · exact .opened drawn rfl rfl
                · exact .lost drawn

theorem chosen_of_beginInvite {conf : Conf} {start : Start} {msg : Msg} {client : IPAddress}
    {tracker opened : Tracker} {pending : Pending}
    (awaits : beginInvite conf start msg client tracker = (.awaiting pending, opened)) :
    pending.Chosen msg ∧ opened.objects = tracker.objects := by
  unfold beginInvite at awaits
  split at awaits
  · simp at awaits
  · split at awaits
    · simp at awaits
    · split at awaits
      · simp at awaits
      · rename_i choice selected
        obtain ⟨rtpMap, read, rfl⟩ := selectCodec_eq_ok selected
        split at awaits
        · simp at awaits
        · simp at awaits
        · rename_i transport after created
          obtain ⟨⟨port, rfl⟩, same⟩ := Tracker.newTransport_eq_ok created
          split at awaits
          · simp at awaits
          · rename_i addr _
            split at awaits
            · obtain ⟨waiting, rfl⟩ := Prod.mk.inj awaits
              obtain rfl := Turn.awaiting.inj waiting
              exact ⟨⟨rfl, rtpMap, port, some addr, read, rfl⟩, same⟩
            · simp at awaits

theorem finishInvite_cases (conf : Conf) (speech : Speech) (pending : Pending)
    (tracker : Tracker) :
    (finishInvite conf speech pending tracker).2 = tracker ∨
      ∃ call, (pending.startTrackSipConv speech).isOk = true ∧ Created pending call ∧
        (finishInvite conf speech pending tracker).2 = tracker.add call := by
  unfold finishInvite
  cases started : pending.startTrackSipConv speech with
  | error e => exact .inl rfl
  | ok call =>
      have created := pending.created started
      cases replyAddr conf pending.msg with
      | error e => exact .inr ⟨call, rfl, created, rfl⟩
      | ok addr => exact .inr ⟨_, rfl, created.answer conf speech, rfl⟩

/-- What `handle_bye` changes: nothing, or the call found is given the new CSeq and destroyed. -/
theorem handleBye_cases (conf : Conf) (delivered : Bool) (msg : Msg) (tracker : Tracker) :
    (∃ turn, handleBye conf delivered msg tracker = (turn, tracker) ∧
      ∀ pending, turn ≠ .awaiting pending) ∨
    ∃ callId k call responder cseq responses,
      msg.sipHeader.callId = .ok callId ∧ tracker.findByCallId callId = some (k, call) ∧
      call.responder = some responder ∧ msg.sipHeader.cseq = .ok cseq ∧
      handleBye conf delivered msg tracker = (.handled responses,
        tracker.destroy k { call with responder := some (responder.resetCSeq cseq) }) := by
  unfold handleBye
  split
  · exact .inl ⟨_, rfl, by simp⟩
  · rename_i callId known
    split
    · exact .inl ⟨_, rfl, by simp⟩
    · rename_i k call found
      split
      · exact .inl ⟨_, rfl, by simp⟩
      · rename_i responder answered
        split
        · exact .inl ⟨_, rfl, by simp⟩
        · rename_i cseq given
          exact .inr ⟨callId, k, call, responder, cseq, _, known, found, answered, given, rfl⟩

/-- What a datagram leads to: an INVITE is handled, a call is destroyed by a BYE, or nothing
changes. -/
theorem beginSipEvent_cases (conf : Conf) (start : Start) (delivered : Bool) (data : Text)
    (client : IPAddress) (tracker : Tracker) :
    (∃ turn, beginSipEvent conf start delivered data client tracker = (turn, tracker) ∧
      ∀ pending, turn ≠ .awaiting pending) ∨
    (∃ msg, Msg.new data = .ok msg ∧ msg.sipHeader.command = .ok "INVITE".toList ∧
      beginSipEvent conf start delivered data client tracker =
        beginInvite conf start msg client tracker) ∨
    ∃ msg callId k call responder cseq responses,
      Msg.new data = .ok msg ∧ msg.sipHeader.command = .ok "BYE".toList ∧
      msg.sipHeader.callId = .ok callId ∧ tracker.findByCallId callId = some (k, call) ∧
      call.responder = some responder ∧ msg.sipHeader.cseq = .ok cseq ∧
      beginSipEvent conf start delivered data client tracker = (.handled responses,
        tracker.destroy k { call with responder := some (responder.resetCSeq cseq) }) := by
  rw [beginSipEvent]
  cases parsed : Msg.new data with
  | error e => exact .inl ⟨_, rfl, by simp⟩
  | ok msg =>
      cases command : msg.sipHeader.command with
      | error e => exact .inl ⟨.raised e, by simp only [command], by simp⟩
      | ok name =>
          simp only [command]
          by_cases invite : name = "INVITE".toList
          · rw [if_pos invite]
            exact .inr (.inl ⟨msg, rfl, invite ▸ command, rfl⟩)
          · rw [if_neg invite]
            by_cases bye : name = "BYE".toList
            · rw [if_pos bye]
              rcases handleBye_cases conf delivered msg tracker with
                unchanged | ⟨callId, k, call, responder, cseq, responses, destroyed⟩
              · exact .inl unchanged
              · exact .inr (.inr ⟨msg, callId, k, call, responder, cseq, responses, rfl,
                  bye ▸ command, destroyed⟩)
            · rw [if_neg bye]
              exact .inl ⟨_, rfl, by simp⟩

/-- What waits for its prompt after a datagram is the set-up of an INVITE. -/
theorem invite_of_awaiting {conf : Conf} {start : Start} {delivered : Bool} {data : Text}
    {client : IPAddress} {tracker opened : Tracker} {pending : Pending}
    (turn : beginSipEvent conf start delivered data client tracker = (.awaiting pending, opened)) :
    ∃ msg, Msg.new data = .ok msg ∧ msg.sipHeader.command = .ok "INVITE".toList ∧
      beginInvite conf start msg client tracker = (.awaiting pending, opened) := by
  rcases beginSipEvent_cases conf start delivered data client tracker with
    ⟨other, unchanged, settled⟩ | ⟨msg, parsed, command, invite⟩ |
      ⟨_, _, _, _, _, _, _, -, -, -, -, -, -, handled⟩
  · rw [unchanged] at turn
    exact absurd (Prod.mk.inj turn).1 (settled pending)
  · exact ⟨msg, parsed, command, invite ▸ turn⟩
  · rw [handled] at turn
    simp at turn

/-- A call that waits for its prompt after a datagram came over UDP. -/
theorem overUdp_of_awaiting {conf : Conf} {start : Start} {delivered : Bool} {data : Text}
    {client : IPAddress} {tracker opened : Tracker} {pending : Pending}
    (turn : beginSipEvent conf start delivered data client tracker = (.awaiting pending, opened)) :
    pending.overWebsocket = false := by
  obtain ⟨msg, -, -, invite⟩ := invite_of_awaiting turn
  have opens := opens_beginInvite conf start msg client tracker
  rw [invite] at opens
  cases opens with
  | refused settled => exact absurd rfl (settled pending)
  | opened drawn live entrance => exact entrance

theorem beginSipEvent_bye {data : Text} {msg : Msg} (parsed : Msg.new data = .ok msg)
    (command : msg.sipHeader.command = .ok "BYE".toList) (conf : Conf) (start : Start)
    (delivered : Bool) (client : IPAddress) (tracker : Tracker) :
    beginSipEvent conf start delivered data client tracker =
      handleBye conf delivered msg tracker := by
  rw [beginSipEvent, parsed]
  simp only [command]
  rw [if_neg (by decide), if_pos trivial]

theorem handleBye_unknown {msg : Msg} {callId : Text} {tracker : Tracker}
    (known : msg.sipHeader.callId = .ok callId) (unknown : tracker.findByCallId callId = none)
    (conf : Conf) (delivered : Bool) :
    handleBye conf delivered msg tracker = (.handled [], tracker) := by
  simp only [handleBye, known, unknown]

theorem handleBye_answered {msg : Msg} {callId cseq : Text} {tracker : Tracker} {k : Nat}
    {call : Call} {responder : Responder} (known : msg.sipHeader.callId = .ok callId)
    (found : tracker.findByCallId callId = some (k, call))
    (answered : call.responder = some responder) (given : msg.sipHeader.cseq = .ok cseq)
    (conf : Conf) (delivered : Bool) :
    handleBye conf delivered msg tracker =
      (.handled (if delivered then
          [(responder.resetCSeq cseq).generate conf (call.okBody conf []) .ok] else []),
        tracker.destroy k { call with responder := some (responder.resetCSeq cseq) }) := by
  simp only [handleBye, known, found, answered, given]

end Session
end Sip

/-- A configuration in which dotted digits are addresses. -/
def sampleConf : Conf where
  serverIpAddress := "10.0.0.2".toList
  defaultSipPort := 5060
  inetPton := fun text => text.all fun c => c.isDigit || c == '.'

/-- The peer of the sample runs. -/
def samplePeer : IPAddress := ⟨"10.0.0.1".toList, 5060⟩

/-- A set-up that succeeds, with one draw for the port. -/
def sampleStart (draw : Nat) : Graph.Start := ⟨true, [RtpPort.drawAt draw], true, true⟩

/-- An answer to the request for speech with a prompt of one sample. -/
def sampleSpeech : Graph.Speech where
  body := .ok [0, 1]
  serverUserfrag := .repeated 16 'u' (by decide)
  serverPassword := .repeated 22 'p' (by decide)
  tag := .repeated 8 't' (by decide)
  sessionId := List.replicate 10 '1'
  sendings := []

/-- The header lines of a sample request. -/
def sampleRequest (method callId : String) : Text :=
  method.toList ++ " sip:a@b SIP/2.0\r\nVia: SIP/2.0/UDP 10.0.0.1:5060\r\n".toList ++
    "From: <sip:c@d>\r\nTo: <sip:a@b>\r\nCall-ID: ".toList ++ callId.toList ++
    "\r\nCSeq: 1 ".toList ++ method.toList

/-- An INVITE that offers Opus. -/
def sampleInvite (callId : String) : Text :=
  sampleRequest "INVITE" callId ++
    "\r\n\r\nm=audio 4000 RTP/AVP 101\r\na=rtpmap:101 opus/48000/2\r\n".toList

/-- A BYE. -/
def sampleBye (callId : String) : Text := sampleRequest "BYE" callId ++ "\r\n\r\n".toList

end Contest
