import Contest.Audio
import Contest.Sip.Responder

/-!
# Calls

A `Graph::Call` with its `Brain::VoicemailHandler`, its transport and the two fibers that serve it:
the one in the receive loop and the one of the prompt's timer.
-/

namespace Contest
namespace Graph

/-- The fiber that runs `call.handler.listen`. -/
inductive ListenFiber
  /-- It has not been spawned. -/
  | notSpawned
  /-- It has been spawned and has not run. -/
  | spawned
  /-- It waits for a datagram. -/
  | receiving
  /-- It has ended. -/
  | ended
deriving DecidableEq, Repr

/-- The fiber that `Util::Timer#fire` spawns for the prompt. -/
inductive TimerFiber
  /-- The audio has not been scheduled. -/
  | notScheduled
  /-- It sleeps until the next tick. -/
  | running
  /-- An exception has ended it. -/
  | dead
deriving DecidableEq, Repr

/-- `Graph::Call`. -/
structure Call where
  /-- The message that the call was created from. -/
  invite : Sip.Msg
  /-- Whether that message came over a WebSocket. -/
  overWebsocket : Bool
  /-- The request URI of the INVITE. -/
  toUri : Text
  /-- The Call-ID. -/
  callId : Text
  /-- The user fragment on our side of ICE. -/
  serverUserfrag : Text
  /-- The user fragment on the other side of ICE. -/
  clientUserfrag : Text
  /-- The password on our side of ICE. -/
  serverPassword : Text
  /-- The password on the other side of ICE. -/
  clientPassword : Text
  /-- The transport of the handler. -/
  transport : Transport
  /-- The prompt of the handler. -/
  prompt : Audio.SixteenBitStream
  /-- The responder, once the INVITE has been answered. -/
  responder : Option Sip.Responder
  /-- The fiber of the receive loop. -/
  listener : ListenFiber
  /-- The fiber of the timer. -/
  timer : TimerFiber
  /-- The RTP packets sent, in order. -/
  sent : List Bytes

namespace Call

/-- `formed_username`. -/
def formedUsername (call : Call) : Text := call.serverUserfrag ++ ':' :: call.clientUserfrag

/-- What an answer says about the media. -/
def okBody (conf : Conf) (call : Call) (sessionId : Text) (forWebsocket : Bool) : Sdp.OkBody :=
  Sdp.OkBody.new conf forWebsocket call.transport.rtpPort call.serverUserfrag call.serverPassword
    sessionId

/-- `handler.finalize`. -/
def finalize (call : Call) : Call := { call with transport := call.transport.finalize }

/-- `next_audio_frame` of the voicemail handler: silence for a quarter of a second. -/
def nextAudioFrame (call : Call) (millisecs : Int) :
    Option (List Int16) × Audio.SixteenBitStream :=
  if millisecs < 250 then (none, call.prompt) else call.prompt.next

/-- What becomes of a frame of audio outside the program, in the state that the encoder is in. -/
structure Delivery where
  /-- What the encoder makes of a frame. -/
  encode : (audio : List Int16) → Fallible Bytes
  /-- Whether the socket takes the packet. -/
  delivered : Bool

/-- `send_audio` of an RTP transport; an exception ends the fiber of the timer. -/
def sendAudio (call : Call) (audio : List Int16) (delivery : Delivery) : Call :=
  let transport := call.transport.incSeqNo
  match delivery.encode audio with
  | .error _ => { call with transport := transport, timer := .dead }
  | .ok encoded =>
      let rtpData := transport.packet encoded
      if transport.rtpSocketClosed then { call with transport := transport }
      else
        match transport.clientAddr with
        | none => { call with transport := transport, timer := .dead }
        | some _ =>
            if delivery.delivered then
              { call with transport := transport, sent := call.sent ++ [rtpData] }
            else { call with transport := transport, timer := .dead }

/-- `observe_silence`. -/
def observeSilence (call : Call) : Call :=
  { call with transport := call.transport.incSeqNo }

/-- The block that `schedule_audio` gives to the timer, at a number of ticks since the start. -/
def tick (call : Call) (ticks : Int) (delivery : Delivery) : Call :=
  match call.nextAudioFrame (ticks / 10000) with
  | (none, _) => call.observeSilence
  | (some audio, prompt) => { call with prompt := prompt }.sendAudio audio delivery

/-- The listening fiber goes back to the head of its loop. -/
def loop (call : Call) : Call :=
  { call with listener := if call.transport.teardown then .ended else .receiving }

/-- The listening fiber takes what the socket gives it. -/
def receive (call : Call) (received : Transport.Received) : Fallible Unit × Call :=
  match call.transport.receive call.transport.encoder.decode received with
  | (.ok (), transport) => (.ok (), { call with transport := transport }.loop)
  | (.error e, transport) => (.error e, { call with transport := transport, listener := .ended })

end Call
end Graph
end Contest
