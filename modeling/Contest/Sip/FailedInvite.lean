import Contest.Sip.Session

/-!
# INVITEs that fail

An exception raised while an INVITE is handled is rescued and logged, and nothing is undone.  The
calls and the ports are as before exactly when no port had been allocated, so an INVITE leaves no
trace if it can be answered once its port has been drawn.
-/

namespace Contest
namespace Sip
namespace Session

open Contest.Graph

/-- A raised exception leaves the calls and the ports as they were. -/
def LeavesNoTrace (conf : Conf) (start : Start) (speech : Speech) (delivered : Bool)
    (data : Text) (client : IPAddress) (tracker : Tracker) : Prop :=
  ∀ e after,
    handleSipEvent conf start speech delivered data client tracker = (.raised e, after) →
      after.calls = tracker.calls ∧ after.usedRtpPorts = tracker.usedRtpPorts

/-- The handling of an INVITE gets as far as drawing the given port. -/
structure Draws (start : Start) (msg : Msg) (tracker : Tracker) (port : RtpPort) : Prop where
  /-- The Call-ID is there and new. -/
  untracked : ∃ callId, msg.sipHeader.callId = .ok callId ∧ tracker.findByCallId callId = none
  /-- The payload types can be read, and the codec can be created. -/
  codec : ∃ rtpMap, msg.sdpHeader.rtpMap = .ok rtpMap ∧
    start.ready (chooseCodec (rtpMap.lookup "opus/48000/2".toList)).1 = true
  /-- The port is the first draw that is free. -/
  drawn : allocRandomRtpPort tracker.usedRtpPorts start.draws = some port

/-- Nothing fails between the draw and the request for speech. -/
structure MediaReady (conf : Conf) (start : Start) (msg : Msg) (client : IPAddress) : Prop where
  /-- The RTP socket can be bound. -/
  bound : start.bound = true
  /-- The media line gives a port, and the client has an address. -/
  mediaAddr : ∃ addr, mediaAddr conf msg client = .ok addr
  /-- The file can be opened. -/
  coughOpened : start.coughOpened = true

/-- Nothing fails from the request for speech on. -/
structure ReplyReady (conf : Conf) (speech : Speech) (msg : Msg) : Prop where
  /-- The text-to-speech service answers. -/
  body : ∃ body, speech.body = .ok body
  /-- The request line has a URI. -/
  requestUri : ∃ uri, msg.sipHeader.requestUri = .ok uri
  /-- The topmost Via names an address, and what is said about RTCP can be read. -/
  replyAddr : ∃ addr, replyAddr conf msg = .ok addr
  /-- There is a To header. -/
  toHeader : ∃ value, msg.sipHeader.toHeader = .ok value
  /-- There is a From header. -/
  fromHeader : ∃ value, msg.sipHeader.fromHeader = .ok value
  /-- There is a CSeq header. -/
  cseq : ∃ value, msg.sipHeader.cseq = .ok value
  /-- Sending the responses raises failed system calls at most. -/
  sendings : FirstFlurry.goesThrough 3 speech.sendings = true

/-- The INVITE in a datagram leads to the draw of a port. -/
def Allocates (start : Start) (data : Text) (tracker : Tracker) (msg : Msg) : Prop :=
  Msg.new data = .ok msg ∧ msg.sipHeader.command = .ok "INVITE".toList ∧
    ∃ port, Draws start msg tracker port

variable {conf : Conf} {start : Start} {speech : Speech} {msg : Msg} {client : IPAddress}
  {tracker : Tracker} {port : RtpPort}

theorem beginInvite_of_draws (conf : Conf) (client : IPAddress)
    (draws : Draws start msg tracker port) :
    (MediaReady conf start msg client ∧ ∃ transport,
        beginInvite conf start msg client tracker =
          (.awaiting ⟨msg, false, transport⟩, tracker.pushPort port)) ∨
      (¬MediaReady conf start msg client ∧ ∃ e,
        beginInvite conf start msg client tracker = (.raised e, tracker.pushPort port)) := by
  obtain ⟨callId, known, unknown⟩ := draws.untracked
  obtain ⟨rtpMap, mapped, ready⟩ := draws.codec
  rw [beginInvite]
  simp only [known, unknown, selectCodec_of_rtpMap mapped, Tracker.newTransport, ready,
    draws.drawn, if_true]
  cases bound : start.bound with
  | false => exact .inr ⟨fun media => by simp [media.bound] at bound, .errno, rfl⟩
  | true =>
      cases addressed : mediaAddr conf msg client with
      | error e =>
          refine .inr ⟨fun media => ?_, e, rfl⟩
          obtain ⟨addr, given⟩ := media.mediaAddr
          simp [addressed] at given
      | ok addr =>
          cases opened : start.coughOpened with
          | false =>
              exact .inr ⟨fun media => by simp [media.coughOpened] at opened, .errno, rfl⟩
          | true => exact .inl ⟨⟨bound, ⟨addr, addressed⟩, opened⟩, _, rfl⟩

/-- Without a draw nothing changes before the request for speech, which is not made. -/
theorem beginInvite_of_not_draws (conf : Conf) (client : IPAddress)
    (undrawn : ∀ port, ¬Draws start msg tracker port) :
    ∃ turn, beginInvite conf start msg client tracker = (turn, tracker) ∧
      ∀ pending, turn ≠ .awaiting pending := by
  unfold beginInvite
  split
  · exact ⟨_, rfl, by simp⟩
  · rename_i callId known
    split
    · exact ⟨_, rfl, by simp⟩
    · rename_i unknown
      split
      · exact ⟨_, rfl, by simp⟩
      · rename_i choice selected
        obtain ⟨rtpMap, mapped, rfl⟩ := selectCodec_eq_ok selected
        unfold Tracker.newTransport
        by_cases ready : start.ready (chooseCodec (rtpMap.lookup "opus/48000/2".toList)).1
        · rw [if_pos ready]
          cases drawn : allocRandomRtpPort tracker.usedRtpPorts start.draws with
          | none => exact ⟨_, rfl, by simp⟩
          | some port =>
              exact absurd ⟨⟨callId, known, unknown⟩, ⟨rtpMap, mapped, ready⟩, drawn⟩
                (undrawn port)
        · rw [if_neg ready]
          exact ⟨_, rfl, by simp⟩

theorem flurry_iff {header : Header} {callId : Text} (known : header.callId = .ok callId)
    (tag : RandomLetters 8) :
    (∃ responder, FirstFlurry.new header tag = .ok responder) ↔
      (∃ value, header.toHeader = .ok value) ∧ (∃ value, header.fromHeader = .ok value) ∧
        ∃ value, header.cseq = .ok value := by
  cases callee : header.toHeader <;> cases caller : header.fromHeader <;>
    cases cseq : header.cseq <;>
      simp [FirstFlurry.new, known, callee, caller, cseq, bind, Except.bind, pure, Except.pure]

theorem answer_iff {call : Call} :
    (∃ responses, (call.answer conf speech).1 = .ok responses) ↔
      (∃ responder, FirstFlurry.new call.invite.sipHeader speech.tag = .ok responder) ∧
        FirstFlurry.goesThrough 3 speech.sendings = true := by
  unfold Call.answer
  cases flurry : FirstFlurry.new call.invite.sipHeader speech.tag with
  | error e => simp
  | ok responder =>
      have sending : (∃ sent, FirstFlurry.transmit conf call.overWebsocket responder
          (call.okBody conf speech.sessionId) speech.sendings = .ok sent) ↔
            FirstFlurry.goesThrough 3 speech.sendings = true :=
        FirstFlurry.sendAll_ok_iff
      rw [← sending]
      cases transmitted : FirstFlurry.transmit conf call.overWebsocket responder
          (call.okBody conf speech.sessionId) speech.sendings <;> simp [transmitted]

theorem startTrackSipConv_iff {pending : Pending} {callId : Text}
    (known : pending.msg.sipHeader.callId = .ok callId) :
    (∃ call, pending.startTrackSipConv speech = .ok call) ↔
      (∃ body, speech.body = .ok body) ∧ ∃ uri, pending.msg.sipHeader.requestUri = .ok uri := by
  constructor
  · rintro ⟨call, started⟩
    obtain ⟨body, spoken, started⟩ := bind_eq_ok.mp started
    obtain ⟨uri, read, -⟩ := bind_eq_ok.mp started
    exact ⟨⟨body, spoken⟩, uri, read⟩
  · rintro ⟨⟨body, spoken⟩, uri, read⟩
    exact ⟨_, bind_eq_ok.mpr ⟨body, spoken, bind_eq_ok.mpr ⟨uri, read,
      bind_eq_ok.mpr ⟨callId, known, rfl⟩⟩⟩⟩

/-- The second part of an INVITE ends well exactly when nothing in it fails, and lists no port. -/
theorem finishInvite_iff (conf : Conf) (speech : Speech) (tracker : Tracker) {pending : Pending}
    {callId : Text} (known : pending.msg.sipHeader.callId = .ok callId) :
    (∃ responses, (finishInvite conf speech pending tracker).1 = .ok responses) ↔
      ReplyReady conf speech pending.msg := by
  have fields : ReplyReady conf speech pending.msg ↔
      (∃ call, pending.startTrackSipConv speech = .ok call) ∧
        (∃ addr, replyAddr conf pending.msg = .ok addr) ∧
          (∃ responder, FirstFlurry.new pending.msg.sipHeader speech.tag = .ok responder) ∧
            FirstFlurry.goesThrough 3 speech.sendings = true := by
    rw [flurry_iff known, startTrackSipConv_iff known]
    exact ⟨fun ready => ⟨⟨ready.body, ready.requestUri⟩, ready.replyAddr,
        ⟨ready.toHeader, ready.fromHeader, ready.cseq⟩, ready.sendings⟩,
      fun ⟨⟨body, requestUri⟩, addr, ⟨callee, caller, cseq⟩, sendings⟩ =>
        ⟨body, requestUri, addr, callee, caller, cseq, sendings⟩⟩
  rw [fields]
  cases started : pending.startTrackSipConv speech with
  | error e => simp [finishInvite, started]
  | ok call =>
      cases addr : replyAddr conf pending.msg with
      | error e => simp [finishInvite, started, addr]
      | ok reply =>
          have created := pending.created started
          rw [← created.invite, ← @answer_iff conf]
          simp [finishInvite, started, addr]

theorem finishInvite_usedRtpPorts (conf : Conf) (speech : Speech) (pending : Pending)
    (tracker : Tracker) :
    (finishInvite conf speech pending tracker).2.usedRtpPorts = tracker.usedRtpPorts := by
  rcases finishInvite_cases conf speech pending tracker with same | ⟨call, -, -, added⟩
  · rw [same]
  · rw [added]
    rfl

theorem beginSipEvent_invite {data : Text} (parsed : Msg.new data = .ok msg)
    (command : msg.sipHeader.command = .ok "INVITE".toList) (delivered : Bool) :
    beginSipEvent conf start delivered data client tracker =
      beginInvite conf start msg client tracker := by
  rw [beginSipEvent, parsed]
  simp only [command]
  rw [if_pos trivial]

/-- Once a port is drawn, the INVITE is answered or it leaves that port listed. -/
theorem handleSipEvent_of_allocates (conf : Conf) (speech : Speech) (delivered : Bool)
    (client : IPAddress) {data : Text} (allocates : Allocates start data tracker msg) :
    ((MediaReady conf start msg client ∧ ReplyReady conf speech msg) ∧ ∃ responses after,
        handleSipEvent conf start speech delivered data client tracker =
          (.handled responses, after)) ∨
      (¬(MediaReady conf start msg client ∧ ReplyReady conf speech msg) ∧ ∃ e after,
        handleSipEvent conf start speech delivered data client tracker = (.raised e, after) ∧
          after.usedRtpPorts ≠ tracker.usedRtpPorts) := by
  obtain ⟨parsed, command, port, draws⟩ := allocates
  obtain ⟨callId, known, -⟩ := draws.untracked
  have longer : (tracker.pushPort port).usedRtpPorts ≠ tracker.usedRtpPorts := by
    simp [Tracker.pushPort]
  unfold handleSipEvent
  rw [beginSipEvent_invite parsed command]
  rcases beginInvite_of_draws conf client draws with
    ⟨media, transport, begun⟩ | ⟨no_media, e, begun⟩
  · let pending : Pending := ⟨msg, false, transport⟩
    have replies : (∃ responses, (finishInvite conf speech pending
        (tracker.pushPort port)).1 = .ok responses) ↔ ReplyReady conf speech msg :=
      finishInvite_iff conf speech (tracker.pushPort port) known
    have ports := finishInvite_usedRtpPorts conf speech pending (tracker.pushPort port)
    rw [begun]
    cases finished : finishInvite conf speech pending (tracker.pushPort port) with
    | mk result after =>
        rw [finished] at replies ports
        cases result with
        | ok responses =>
            exact .inl ⟨⟨media, replies.mp ⟨responses, rfl⟩⟩, responses, after, by
              simp only [pending] at finished
              simp only [finished]⟩
        | error e =>
            refine .inr ⟨fun ready => ?_, e, after, by
              simp only [pending] at finished
              simp only [finished], ?_⟩
            · obtain ⟨responses, impossible⟩ := replies.mpr ready.2
              simp at impossible
            · rw [ports]
              exact longer
  · exact .inr ⟨fun ready => no_media ready.1, e, _, by rw [begun], longer⟩

/-- Without a draw an exception leaves everything as it was. -/
theorem handleSipEvent_of_not_allocates {delivered : Bool} {data : Text} {e : Exn}
    {after : Tracker} (unallocated : ∀ msg, ¬Allocates start data tracker msg)
    (raised : handleSipEvent conf start speech delivered data client tracker =
      (.raised e, after)) : after = tracker := by
  have of_same : ∀ turn, (∀ pending, turn ≠ .awaiting pending) →
      beginSipEvent conf start delivered data client tracker = (turn, tracker) →
        after = tracker := by
    intro turn settled begun
    rw [handleSipEvent, begun] at raised
    cases turn with
    | awaiting pending => exact absurd rfl (settled pending)
    | _ => exact (Prod.mk.inj raised).2.symm
  rcases beginSipEvent_cases conf start delivered data client tracker with
    ⟨turn, unchanged, settled⟩ | ⟨msg, parsed, command, invite⟩ |
      ⟨_, _, _, _, _, _, _, -, -, -, -, -, -, handled⟩
  · exact of_same turn settled unchanged
  · obtain ⟨turn, begun, settled⟩ := beginInvite_of_not_draws conf client
      fun port draws => unallocated msg ⟨parsed, command, port, draws⟩
    exact of_same turn settled (invite.trans begun)
  · rw [handleSipEvent, handled] at raised
    simp at raised

/-- A datagram leaves no trace when it raises, exactly when no port is drawn for an INVITE that
cannot be answered. -/
theorem leavesNoTrace_iff (conf : Conf) (start : Start) (speech : Speech) (delivered : Bool)
    (data : Text) (client : IPAddress) (tracker : Tracker) :
    LeavesNoTrace conf start speech delivered data client tracker ↔
      ∀ msg, Allocates start data tracker msg →
        MediaReady conf start msg client ∧ ReplyReady conf speech msg := by
  constructor
  · intro traceless msg allocates
    rcases handleSipEvent_of_allocates conf speech delivered client allocates with
      ⟨ready, -⟩ | ⟨-, e, after, raised, differ⟩
    · exact ready
    · exact absurd (traceless e after raised).2 differ
  · intro answerable e after raised
    by_cases allocated : ∃ msg, Allocates start data tracker msg
    · obtain ⟨msg, allocates⟩ := allocated
      rcases handleSipEvent_of_allocates conf speech delivered client allocates with
        ⟨-, responses, other, handled⟩ | ⟨unready, -⟩
      · rw [handled] at raised
        simp at raised
      · exact absurd (answerable msg allocates) unready
    · rw [handleSipEvent_of_not_allocates (not_exists.mp allocated) raised]
      exact ⟨rfl, rfl⟩

/-- An INVITE without a Via header. -/
def inviteWithoutVia : Text :=
  "INVITE sip:a@b SIP/2.0\r\nFrom: <sip:c@d>\r\nTo: <sip:a@b>\r\nCall-ID: k1\r\n".toList ++
    "CSeq: 1 INVITE\r\n\r\nm=audio 4000 RTP/AVP 0\r\n".toList

/-- The exception for a missing Via is raised when the call is tracked and its port listed. -/
theorem invite_without_via_leaves_call :
    ¬∀ conf start speech delivered data client tracker,
      LeavesNoTrace conf start speech delivered data client tracker := by
  intro claimed
  have outcome : (match handleSipEvent sampleConf (sampleStart 0) sampleSpeech true
      inviteWithoutVia samplePeer .empty with
    | (.raised _, after) => some after.calls
    | _ => none) = some [0] := by decide +kernel
  split at outcome
  · rename_i e after raised
    have calls := (claimed sampleConf (sampleStart 0) sampleSpeech true inviteWithoutVia
      samplePeer .empty e after raised).1
    rw [calls] at outcome
    simp [Tracker.empty] at outcome
  · simp at outcome

end Session
end Sip
end Contest
