import Contest.Controllers.WebSocketServer
import Contest.Sip.Session
import Contest.Foundation.Transition

/-!
# The server

All fibers of the server as one labelled transition system.  Fibers are switched only where one
blocks, so an event is what a fiber does from one blocking call to the next, with what the
environment answers: a datagram or a message arrives, the text-to-speech service answers, a
handler takes its event, a receive loop starts or receives, a timer fires.
-/

namespace Contest

open Contest.Graph

/-- The fiber that runs `SIP::Session#run`. -/
inductive SipFiber
  /-- It waits for a datagram. -/
  | idle
  /-- It waits for the prompt of a call being set up. -/
  | awaiting (slot : Nat)
  /-- It waits until the handler of a call takes `:start_call`. -/
  | queueing (k : Nat)
deriving DecidableEq, Repr

/-- The state of the server. -/
structure Server extends Tracker where
  /-- The calls being set up, with an empty place for each one that is over. -/
  setUps : List (Option Pending)
  /-- The fiber of the SIP session. -/
  sip : SipFiber

/-- What can happen next. -/
inductive Event
  /-- The SIP socket receives a datagram. -/
  | sipDatagram (data : Text) (client : IPAddress) (start : Start) (delivered : Bool)
  /-- A WebSocket receives a message. -/
  | webSocketMessage (message : Text) (start : Start)
  /-- The text-to-speech service answers. -/
  | speech (slot : Nat) (speech : Speech)
  /-- A handler takes `:start_call`. -/
  | startCall
  /-- A listening fiber runs for the first time. -/
  | listen (k : Nat)
  /-- The RTP socket of a call answers. -/
  | receive (k : Nat) (received : Transport.Received)
  /-- The timer of a call fires. -/
  | tick (k : Nat) (ticks : Int) (delivery : Call.Delivery)

namespace Server

/-- The state at the start of the program. -/
def initial : Server := { Tracker.empty with setUps := [], sip := .idle }

/-- What a message leaves behind, with the state of the SIP fiber if it now waits for a prompt. -/
def afterTurn (server : Server) (waiting : SipFiber) : Turn × Tracker → Option Server
  | (.drawing, _) => none
  | (.awaiting pending, tracker) =>
      some { tracker with setUps := server.setUps ++ [some pending], sip := waiting }
  | (_, tracker) => some { server with toTracker := tracker }

/-- The set-up in a place goes on with the answer to its request for speech. -/
def speak (conf : Conf) (server : Server) (slot : Nat) (pending : Pending) (speech : Speech) :
    Server :=
  let setUps := server.setUps.set slot none
  if pending.overWebsocket then
    match WebSocketServer.finishInvite conf speech pending server.toTracker with
    | (_, tracker) => { tracker with setUps := setUps, sip := server.sip }
  else
    match Sip.Session.finishInvite conf speech pending server.toTracker with
    | (.ok _, tracker) =>
        { tracker with setUps := setUps, sip := .queueing server.objects.length }
    | (.error _, tracker) => { tracker with setUps := setUps, sip := .idle }

/-- The listening fiber of a call receives; only `SIP::Session` rescues, and only a timeout. -/
def hear (server : Server) (k : Nat) (call : Call) (received : Transport.Received) : Server :=
  match call.receive received with
  | (.ok (), after) => { server with toTracker := server.put k after }
  | (.error e, after) =>
      if e = .ioTimeout ∧ call.overWebsocket = false then
        { server with toTracker := server.destroy k after }
      else { server with toTracker := server.put k after }

/-- One event. -/
def step (conf : Conf) (server : Server) : Event → Option Server
  | .sipDatagram data client start delivered =>
      if server.sip = .idle then
        server.afterTurn (.awaiting server.setUps.length)
          (Sip.Session.beginSipEvent conf start delivered data client server.toTracker)
      else none
  | .webSocketMessage message start =>
      server.afterTurn server.sip (WebSocketServer.beginMessage start message server.toTracker)
  | .speech slot speech =>
      match server.setUps[slot]? with
      | some (some pending) => some (server.speak conf slot pending speech)
      | _ => none
  | .startCall =>
      match server.sip with
      | .queueing k =>
          match server.objects[k]? with
          | some call =>
              some { server with toTracker := server.put k { call with timer := .running }
                                 sip := .idle }
          | none => none
      | _ => none
  | .listen k =>
      match server.objects[k]? with
      | some call =>
          if call.listener = .spawned then some { server with toTracker := server.put k call.loop }
          else none
      | none => none
  | .receive k received =>
      match server.objects[k]? with
      | some call => if call.listener = .receiving then some (server.hear k call received) else none
      | none => none
  | .tick k ticks delivery =>
      match server.objects[k]? with
      | some call =>
          if call.timer = .running then
            some { server with toTracker := server.put k (call.tick ticks delivery) }
          else none
      | none => none

end Server
end Contest
