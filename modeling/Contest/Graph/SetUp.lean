import Contest.Graph.Collection

/-!
# Setting up a call

Both entry points set up a call in the same way: a transport is opened, the prompt is requested
from the text-to-speech service, and once that has answered the call is tracked and the INVITE
replied to.  The request blocks, so other fibers run in between.
-/

namespace Contest
namespace Graph

/-- What the environment decides before the request for speech. -/
structure Start where
  /-- Whether libopus gives an encoder. -/
  opusReady : Bool
  /-- The draws from the range of ports. -/
  draws : List (Fin 16385)
  /-- Whether the RTP socket can be created and bound. -/
  bound : Bool
  /-- Whether the file `cough.raw` can be opened. -/
  coughOpened : Bool
deriving DecidableEq, Repr

/-- What the environment decides from the answer to the request for speech on. -/
structure Speech where
  /-- The body of the answer. -/
  body : Fallible Bytes
  /-- The letters drawn for the user fragment. -/
  serverUserfrag : Sip.RandomLetters 16
  /-- The letters drawn for the password. -/
  serverPassword : Sip.RandomLetters 22
  /-- The letters drawn for the tag. -/
  tag : Sip.RandomLetters 8
  /-- The digits drawn for the session id. -/
  sessionId : Text
  /-- What becomes of the responses. -/
  sendings : List Sip.FirstFlurry.Sending

/-- A call that waits for its prompt. -/
structure Pending where
  /-- The INVITE. -/
  msg : Sip.Msg
  /-- Whether it came over a WebSocket. -/
  overWebsocket : Bool
  /-- The transport. -/
  transport : Transport

/-- How far the handling of a message gets without blocking. -/
inductive Turn
  /-- An exception. -/
  | raised (e : Exn)
  /-- The end, with the responses sent. -/
  | handled (responses : List Text)
  /-- The allocation of a port, with every draw so far taken. -/
  | drawing
  /-- The request for speech. -/
  | awaiting (pending : Pending)

/-- The codec and the payload type for an offer that lists Opus under the given number. -/
def chooseCodec : Option Int → Codec × Int
  | some opusPort => (.opus, opusPort)
  | none => (.muLaw, 0)

/-- Whether the codec can be created. -/
def Start.ready (start : Start) : Codec → Bool
  | .opus => start.opusReady
  | .muLaw => true

/-- `@@used_rtp_ports.push(p)`. -/
def Tracker.pushPort (tracker : Tracker) (rtpPort : RtpPort) : Tracker :=
  { tracker with usedRtpPorts := tracker.usedRtpPorts ++ [rtpPort] }

/-- `Transport::RTP.new` with a new codec; the port is listed before the socket is bound. -/
def Tracker.newTransport (tracker : Tracker) (start : Start) (codec : Codec × Int) :
    Option (Fallible Transport) × Tracker :=
  if start.ready codec.1 then
    match allocRandomRtpPort tracker.usedRtpPorts start.draws with
    | none => (none, tracker)
    | some rtpPort =>
        (some (if start.bound then .ok (Transport.create codec.1 codec.2 rtpPort)
            else .error .errno),
          tracker.pushPort rtpPort)
  else (some (.error (.raised "Could not initialize Opus encoder")), tracker)

/-- `start_track_sip_conv`, up to `Collection.add`. -/
def Pending.startTrackSipConv (pending : Pending) (speech : Speech) : Fallible Call := do
  let body ← speech.body
  let toUri ← pending.msg.sipHeader.requestUri
  let callId ← pending.msg.sipHeader.callId
  return {
    invite := pending.msg
    overWebsocket := pending.overWebsocket
    toUri := toUri
    callId := callId
    serverUserfrag := speech.serverUserfrag.text
    clientUserfrag := pending.msg.sdpHeader.iceUserfrag
    serverPassword := speech.serverPassword.text
    clientPassword := pending.msg.sdpHeader.icePassword
    transport := pending.transport
    prompt := .new (Audio.watsonSamples body)
    responder := none
    listener := .notSpawned
    timer := .notScheduled
    sent := [] }

/-- The first flurry, and the fiber that listens, for a call already in the collection. -/
def Call.answer (conf : Conf) (speech : Speech) (call : Call) : Fallible (List Text) × Call :=
  match Sip.FirstFlurry.new call.invite.sipHeader speech.tag with
  | .error e => (.error e, call)
  | .ok responder =>
      let answered := { call with responder := some responder }
      match Sip.FirstFlurry.transmit conf call.overWebsocket responder
          (call.okBody conf speech.sessionId) speech.sendings with
      | .error e => (.error e, answered)
      | .ok sent => (.ok sent, { answered with listener := .spawned })

/-- What the first part of a set-up can do: it changes nothing, or it lists a port for which no
call is ever made, or it lists the port of a call that now waits for its prompt. -/
inductive Opens (overWebsocket : Bool) (start : Start) (tracker : Tracker) :
    Turn × Tracker → Prop
  | refused {turn : Turn} (settled : ∀ pending, turn ≠ .awaiting pending) :
      Opens overWebsocket start tracker (turn, tracker)
  | lost {e : Exn} {port : RtpPort}
      (drawn : allocRandomRtpPort tracker.usedRtpPorts start.draws = some port) :
      Opens overWebsocket start tracker (.raised e, tracker.pushPort port)
  | opened {pending : Pending} (drawn : allocRandomRtpPort tracker.usedRtpPorts start.draws =
        some pending.transport.rtpPort)
      (live : pending.transport.teardown = false)
      (entrance : pending.overWebsocket = overWebsocket) :
      Opens overWebsocket start tracker
        (.awaiting pending, tracker.pushPort pending.transport.rtpPort)

/-- What a call holds when it is tracked, in terms of the set-up that it comes from. -/
structure Created (pending : Pending) (call : Call) : Prop where
  /-- The message is kept. -/
  invite : call.invite = pending.msg
  /-- The entry point is kept. -/
  entrance : call.overWebsocket = pending.overWebsocket
  /-- The Call-ID is that of the INVITE. -/
  callId : pending.msg.sipHeader.callId = .ok call.callId
  /-- The transport is kept. -/
  transport : call.transport = pending.transport
  /-- The responder, if there is one, is built from the INVITE. -/
  responder : ∀ responder, call.responder = some responder →
    ∃ tag, Sip.FirstFlurry.new pending.msg.sipHeader tag = .ok responder
  /-- The receive loop has not run. -/
  listener : call.listener = .notSpawned ∨ call.listener = .spawned
  /-- No packet has been sent. -/
  sent : call.sent = []

/-- A call that waits for its prompt has a fresh transport for the codec chosen from the offer. -/
structure Pending.Chosen (pending : Pending) (msg : Sip.Msg) : Prop where
  /-- The message is kept. -/
  msg_eq : pending.msg = msg
  /-- The transport. -/
  transport : ∃ rtpMap port addr, msg.sdpHeader.rtpMap = .ok rtpMap ∧
    pending.transport =
      { Transport.create (chooseCodec (rtpMap.lookup "opus/48000/2".toList)).1
          (chooseCodec (rtpMap.lookup "opus/48000/2".toList)).2 port with clientAddr := addr }

theorem Tracker.newTransport_cases (tracker : Tracker) (start : Start) (codec : Codec × Int) :
    (∃ outcome, tracker.newTransport start codec = (outcome, tracker) ∧
      ∀ transport, outcome ≠ some (.ok transport)) ∨
    ∃ port, allocRandomRtpPort tracker.usedRtpPorts start.draws = some port ∧
      tracker.newTransport start codec =
        (some (if start.bound then .ok (Transport.create codec.1 codec.2 port)
          else .error .errno), tracker.pushPort port) := by
  unfold newTransport
  split
  · cases drawn : allocRandomRtpPort tracker.usedRtpPorts start.draws with
    | none => exact .inl ⟨none, rfl, by simp⟩
    | some port => exact .inr ⟨port, rfl, rfl⟩
  · exact .inl ⟨_, rfl, by simp⟩

/-- A transport that is created is a new one, and no call changes. -/
theorem Tracker.newTransport_eq_ok {tracker after : Tracker} {start : Start}
    {codec : Codec × Int} {transport : Transport}
    (created : tracker.newTransport start codec = (some (.ok transport), after)) :
    (∃ port, transport = Transport.create codec.1 codec.2 port) ∧
      after.objects = tracker.objects := by
  rcases tracker.newTransport_cases start codec with
    ⟨outcome, opened, failed⟩ | ⟨port, drawn, opened⟩
  · obtain ⟨outcome_eq, -⟩ := Prod.mk.inj (opened.symm.trans created)
    exact absurd outcome_eq (failed transport)
  · obtain ⟨outcome_eq, rfl⟩ := Prod.mk.inj (opened.symm.trans created)
    refine ⟨⟨port, ?_⟩, rfl⟩
    cases bound : start.bound with
    | false => simp [bound] at outcome_eq
    | true => simpa [bound] using outcome_eq.symm

theorem Pending.created {pending : Pending} {speech : Speech} {call : Call}
    (started : pending.startTrackSipConv speech = .ok call) : Created pending call := by
  obtain ⟨body, -, started⟩ := bind_eq_ok.mp started
  obtain ⟨toUri, -, started⟩ := bind_eq_ok.mp started
  obtain ⟨callId, known, started⟩ := bind_eq_ok.mp started
  obtain rfl : _ = call := Except.ok.inj started
  exact ⟨rfl, rfl, known, rfl, by simp, .inl rfl, rfl⟩

theorem Created.answer {pending : Pending} {call : Call} (created : Created pending call)
    (conf : Conf) (speech : Speech) : Created pending (call.answer conf speech).2 := by
  unfold Call.answer
  cases flurry : Sip.FirstFlurry.new call.invite.sipHeader speech.tag with
  | error e => exact created
  | ok responder =>
      have built : ∀ other, some responder = some other →
          ∃ tag, Sip.FirstFlurry.new pending.msg.sipHeader tag = .ok other := by
        rintro other ⟨rfl⟩
        exact ⟨speech.tag, created.invite ▸ flurry⟩
      have answered : Created pending { call with responder := some responder } :=
        ⟨created.invite, created.entrance, created.callId, created.transport, built,
          created.listener, created.sent⟩
      simp only
      split
      · exact answered
      · exact { answered with listener := .inr rfl }

end Graph
end Contest
