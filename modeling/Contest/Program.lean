import Contest.SipFiber
import Contest.Sip.FailedInvite

/-!
# The program

An INVITE that finds every RTP port listed draws ports for ever, and as fibers are switched only
where one blocks, nothing else happens any more.  As long as that does not happen, the SIP fiber
always comes back to its socket.
-/

namespace Contest

open Contest.Graph Transition

/-! ### Drawing without end -/

/-- Every port that can be drawn is listed. -/
def Graph.Tracker.Exhausted (tracker : Tracker) : Prop :=
  ∀ draw : Fin 16385, RtpPort.ofDraw draw ∈ tracker.usedRtpPorts

instance (tracker : Tracker) : Decidable tracker.Exhausted :=
  inferInstanceAs (Decidable (∀ draw : Fin 16385, RtpPort.ofDraw draw ∈ tracker.usedRtpPorts))

/-- The allocation of a port ends for no sequence of draws if and only if every port is listed. -/
theorem exhausted_iff {tracker : Tracker} :
    tracker.Exhausted ↔ ∀ draws, allocRandomRtpPort tracker.usedRtpPorts draws = none := by
  constructor
  · intro exhausted draws
    induction draws with
    | nil => rfl
    | cons draw draws ih => rw [allocRandomRtpPort, if_pos (exhausted draw), ih]
  · intro endless draw
    by_contra free
    have drawn := endless [draw]
    rw [allocRandomRtpPort, if_neg free] at drawn
    simp at drawn

/-- Whether a message has got as far as the allocation of a port, and no further. -/
def Graph.Turn.isDrawing : Turn → Bool
  | .drawing => true
  | _ => false

namespace Server

/-- How far a message is handled without blocking. -/
def turn (conf : Conf) (server : Server) : Event → Option Turn
  | .sipDatagram data client start delivered =>
      if server.sip = .idle then
        some (Sip.Session.beginSipEvent conf start delivered data client server.toTracker).1
      else none
  | .webSocketMessage message start =>
      some (WebSocketServer.beginMessage start message server.toTracker).1
  | _ => none

/-- A message gets as far as the allocation of a port, which does not end. -/
def DrawsForEver (conf : Conf) (server : Server) (event : Event) : Prop :=
  server.Exhausted ∧ (server.turn conf event).any Turn.isDrawing = true

instance (conf : Conf) (server : Server) (event : Event) :
    Decidable (server.DrawsForEver conf event) :=
  inferInstanceAs (Decidable (_ ∧ _))

variable {conf : Conf} {server after : Server} {event : Event}

theorem afterTurn_of_isDrawing {sip : SipFiber} {outcome : Turn × Tracker}
    (drawing : outcome.1.isDrawing = true) : server.afterTurn sip outcome = none := by
  obtain ⟨turn, tracker⟩ := outcome
  cases turn with
  | drawing => rfl
  | _ => exact absurd drawing Bool.false_ne_true

/-- What draws for ever has no end. -/
theorem step_of_drawsForEver (drawing : server.DrawsForEver conf event) :
    step conf server event = none := by
  obtain ⟨-, drawing⟩ := drawing
  cases event with
  | sipDatagram data client start delivered =>
      rw [turn] at drawing
      rw [step]
      split at drawing
      · rename_i idle
        rw [if_pos idle]
        exact afterTurn_of_isDrawing drawing
      · simp at drawing
  | webSocketMessage message start => exact afterTurn_of_isDrawing drawing
  | _ => simp [turn] at drawing

end Server

/-- The state of the program. -/
inductive Program
  /-- Its fibers take turns. -/
  | running (server : Server)
  /-- One fiber draws ports for ever. -/
  | drawing

namespace Program

variable {conf : Conf} {server : Server} {program : Program} {event : Event}
  {events : List Event}

/-- One event. -/
def step (conf : Conf) : Program → Event → Option Program
  | .running server, event =>
      if server.DrawsForEver conf event then some .drawing
      else (server.step conf event).map .running
  | .drawing, _ => none

theorem step_eq_some_iff :
    step conf (.running server) event = some program ↔
      (∃ after, server.step conf event = some after ∧ program = .running after) ∨
        server.DrawsForEver conf event ∧ program = .drawing := by
  by_cases drawing : server.DrawsForEver conf event
  · have endless := Server.step_of_drawsForEver drawing
    simp [step, drawing, endless, eq_comm]
  · simp [step, drawing, eq_comm]

/-- The last of the events is a message that draws for ever. -/
def EndsDrawing (conf : Conf) (server : Server) (events : List Event) : Prop :=
  ∃ earlier event last, events = earlier ++ [event] ∧
    run (Server.step conf) server earlier = some last ∧ last.DrawsForEver conf event

/-- A run of the program is one of its fibers, or it ends with a message that draws for ever. -/
theorem run_eq_some_iff :
    run (step conf) (.running server) events = some program ↔
      (∃ last, run (Server.step conf) server events = some last ∧ program = .running last) ∨
        EndsDrawing conf server events ∧ program = .drawing := by
  constructor
  · intro execution
    induction events generalizing server with
    | nil =>
        obtain rfl : Program.running server = program := by simpa using execution
        exact .inl ⟨server, rfl, rfl⟩
    | cons event events ih =>
        obtain ⟨next, possible, later⟩ := run_cons_eq_some.mp execution
        rcases step_eq_some_iff.mp possible with ⟨after, turned, rfl⟩ | ⟨drawing, rfl⟩
        · rcases ih later with
            ⟨last, rest, rfl⟩ | ⟨⟨earlier, other, last, rfl, rest, drawing⟩, rfl⟩
          · exact .inl ⟨last, (run_cons turned events).trans rest, rfl⟩
          · exact .inr ⟨⟨event :: earlier, other, last, rfl, (run_cons turned earlier).trans rest,
              drawing⟩, rfl⟩
        · cases events with
          | nil =>
              obtain rfl : Program.drawing = program := by simpa using later
              exact .inr ⟨⟨[], event, server, rfl, rfl, drawing⟩, rfl⟩
          | cons other events => simp [run, step] at later
  · have taking_turns : ∀ {events : List Event} {server last : Server},
        run (Server.step conf) server events = some last →
          run (step conf) (.running server) events = some (.running last) := by
      intro events
      induction events with
      | nil =>
          intro server last same
          rw [run_nil, Option.some.inj same]
      | cons event events ih =>
          intro server last execution
          obtain ⟨next, turned, rest⟩ := run_cons_eq_some.mp execution
          exact run_cons_eq_some.mpr
            ⟨.running next, step_eq_some_iff.mpr (.inl ⟨next, turned, rfl⟩), ih rest⟩
    rintro (⟨last, execution, rfl⟩ | ⟨⟨earlier, event, last, rfl, execution, drawing⟩, rfl⟩)
    · exact taking_turns execution
    · refine run_append_eq_some.mpr ⟨.running last, taking_turns execution, ?_⟩
      exact run_cons_eq_some.mpr ⟨.drawing, step_eq_some_iff.mpr (.inr ⟨drawing, rfl⟩), rfl⟩

/-! ### The SIP fiber comes back -/

/-- The next event of the SIP fiber, if the text-to-speech service gives the answer. -/
def sipEvent (speech : Speech) : SipFiber → Option Event
  | .idle => none
  | .awaiting slot => some (.speech slot speech)
  | .queueing _ => some .startCall

/-- The SIP fiber is back at its socket after a number of events of its own. -/
inductive Returns (conf : Conf) (speech : Speech) : Nat → Program → Prop
  | idle {server : Server} (idle : server.sip = .idle) : Returns conf speech 0 (.running server)
  | next {n : Nat} {server : Server} {after : Program} {event : Event}
      (event_eq : sipEvent speech server.sip = some event)
      (possible : step conf (.running server) event = some after)
      (returns : Returns conf speech n after) : Returns conf speech (n + 1) (.running server)

theorem not_returns_drawing (conf : Conf) (speech : Speech) (n : Nat) :
    ¬Returns conf speech n .drawing := nofun

/-- The handler takes the event that is being queued. -/
theorem returns_queueing (attended : server.Attended) (speech : Speech) {k : Nat}
    (queued : server.sip = .queueing k) : Returns conf speech 1 (.running server) := by
  obtain ⟨call, found, -⟩ := attended.queueing k queued
  have possible : Server.step conf server .startCall = some
      { server with toTracker := server.put k { call with timer := .running }, sip := .idle } := by
    simp [Server.step, queued, found]
  have event_eq : sipEvent speech server.sip = some .startCall := by
    rw [queued]
    rfl
  exact .next event_eq (step_eq_some_iff.mpr (.inl ⟨_, possible, rfl⟩)) (.idle rfl)

/-- The set-up goes on with any answer. -/
theorem returns_awaiting (attended : server.Attended) (speech : Speech) {slot : Nat}
    (awaiting : server.sip = .awaiting slot) :
    ∃ n ≤ 2, Returns conf speech n (.running server) := by
  obtain ⟨pending, waits, overUdp⟩ := attended.awaiting slot awaiting
  have possible : Server.step conf server (.speech slot speech) =
      some (server.speak conf slot pending speech) := by
    simp [Server.step, waits]
  have turned : step conf (.running server) (.speech slot speech) =
      some (.running (server.speak conf slot pending speech)) :=
    step_eq_some_iff.mpr (.inl ⟨_, possible, rfl⟩)
  have event_eq : sipEvent speech server.sip = some (.speech slot speech) := by
    rw [awaiting]
    rfl
  rcases @Server.speak_of_udp conf server slot pending overUdp speech with
    idle | ⟨-, -, -, queued, -⟩
  · exact ⟨1, by omega, .next event_eq turned (.idle idle)⟩
  · have attended' := attended.step possible
    exact ⟨2, le_refl 2, .next event_eq turned (returns_queueing attended' speech queued)⟩

/-- As long as fibers take turns, the SIP fiber comes back. -/
theorem returns_of_run (execution : run (Server.step conf) .initial events = some server)
    (speech : Speech) : ∃ n ≤ 2, Returns conf speech n (.running server) := by
  have attended := Server.attended_of_run execution
  cases fiber : server.sip with
  | idle => exact ⟨0, Nat.zero_le 2, .idle fiber⟩
  | awaiting slot => exact returns_awaiting attended speech fiber
  | queueing k => exact ⟨1, by omega, returns_queueing attended speech fiber⟩

/-- In every run of the program, the SIP fiber waits for the next datagram after at most two events
of its own, whatever the text-to-speech service answers, if and only if the run has not ended with
an INVITE for which every port was listed. -/
theorem sip_fiber_returns_iff
    (execution : run (step conf) (.running .initial) events = some program) (speech : Speech) :
    (∃ n ≤ 2, Returns conf speech n program) ↔ ¬EndsDrawing conf .initial events := by
  rcases run_eq_some_iff.mp execution with ⟨last, turns, rfl⟩ | ⟨ends, rfl⟩
  · refine iff_of_true (returns_of_run turns speech) ?_
    rintro ⟨earlier, event, other, rfl, first, drawing⟩
    obtain ⟨middle, same, possible⟩ := run_append_eq_some.mp turns
    obtain rfl : other = middle := Option.some.inj (first.symm.trans same)
    obtain ⟨next, turned, -⟩ := run_cons_eq_some.mp possible
    rw [Server.step_of_drawsForEver drawing] at turned
    simp at turned
  · refine iff_of_false ?_ (not_not_intro ends)
    rintro ⟨n, -, returns⟩
    exact not_returns_drawing conf speech n returns

/-! ### Ports that stay listed -/

/-- The draw of the port with the given index. -/
def drawOf (index : Nat) : Fin 16385 := RtpPort.drawAt (2 * index - 1)

theorem number_drawOf {index : Nat} (inside : index < 8193) :
    (RtpPort.ofDraw (drawOf index)).number = 49150 + 2 * index := by
  have value : (drawOf index).val = 2 * index - 1 := Nat.mod_eq_of_lt (by omega)
  simp only [RtpPort.ofDraw, value]
  omega

/-- A set-up in which the socket cannot be bound. -/
def unbound (index : Nat) : Start := ⟨true, [drawOf index], false, true⟩

theorem ready_unbound (index : Nat) (codec : Codec) : (unbound index).ready codec = true := by
  cases codec <;> rfl

/-- An INVITE with such a set-up. -/
def failing (index : Nat) : Event :=
  .sipDatagram (sampleInvite "k1") samplePeer (unbound index) true

/-- The server when the first ports are listed. -/
def leaked (count : Nat) : Server :=
  { Server.initial with
    usedRtpPorts := (List.range count).map fun index => RtpPort.ofDraw (drawOf index) }

theorem exists_msg_sampleInvite :
    ∃ msg, Sip.Msg.new (sampleInvite "k1") = .ok msg ∧
      msg.sipHeader.command = .ok "INVITE".toList ∧
      (∃ callId, msg.sipHeader.callId = .ok callId) ∧
        ∃ rtpMap, msg.sdpHeader.rtpMap = .ok rtpMap := by
  have accepts : ((Sip.Msg.new (sampleInvite "k1")).toOption.any fun msg =>
      decide (msg.sipHeader.command = .ok "INVITE".toList) && msg.sipHeader.callId.isOk &&
        msg.sdpHeader.rtpMap.isOk) = true := by decide +kernel
  cases parsed : Sip.Msg.new (sampleInvite "k1") with
  | error e => simp [parsed, Except.toOption] at accepts
  | ok msg =>
      simp only [parsed, Except.toOption, Option.any_some, Bool.and_eq_true,
        decide_eq_true_iff] at accepts
      obtain ⟨⟨command, callId⟩, rtpMap⟩ := accepts
      refine ⟨msg, rfl, command, ?_, ?_⟩
      · cases known : msg.sipHeader.callId with
        | error e => simp [known, Except.isOk, Except.toBool] at callId
        | ok callId => exact ⟨callId, rfl⟩
      · cases mapped : msg.sdpHeader.rtpMap with
        | error e => simp [mapped, Except.isOk, Except.toBool] at rtpMap
        | ok rtpMap => exact ⟨rtpMap, rfl⟩

/-- A port more is listed. -/
theorem step_failing {index : Nat} (inside : index < 8193) :
    Server.step sampleConf (leaked index) (failing index) = some (leaked (index + 1)) := by
  obtain ⟨msg, parsed, command, ⟨callId, known⟩, rtpMap, mapped⟩ := exists_msg_sampleInvite
  have free : RtpPort.ofDraw (drawOf index) ∉ (leaked index).usedRtpPorts := by
    intro listed
    obtain ⟨other, member, same⟩ := List.mem_map.mp listed
    have before := List.mem_range.mp member
    have numbers := congrArg RtpPort.number same
    rw [number_drawOf (by omega), number_drawOf inside] at numbers
    omega
  have drawn : allocRandomRtpPort (leaked index).usedRtpPorts (unbound index).draws =
      some (RtpPort.ofDraw (drawOf index)) := by
    rw [unbound, allocRandomRtpPort, if_neg free]
  have draws : Sip.Session.Draws (unbound index) msg (leaked index).toTracker
      (RtpPort.ofDraw (drawOf index)) :=
    ⟨⟨callId, known, rfl⟩, ⟨rtpMap, mapped, ready_unbound index _⟩, drawn⟩
  have listed : (leaked (index + 1)).usedRtpPorts =
      (leaked index).usedRtpPorts ++ [RtpPort.ofDraw (drawOf index)] := by
    simp [leaked, List.range_succ]
  rcases Sip.Session.beginInvite_of_draws sampleConf samplePeer draws with
    ⟨media, -⟩ | ⟨-, e, begun⟩
  · exact absurd media.bound Bool.false_ne_true
  · have idle : (leaked index).sip = .idle := rfl
    rw [failing, Server.step, if_pos idle, Sip.Session.beginSipEvent_invite parsed command, begun]
    simp only [Server.afterTurn, Tracker.pushPort, ← listed]
    rfl

theorem run_failing {count : Nat} (inside : count ≤ 8193) :
    run (Server.step sampleConf) .initial ((List.range count).map failing) =
      some (leaked count) := by
  induction count with
  | zero => rfl
  | succ count ih =>
      rw [List.range_succ, List.map_append]
      exact run_append_eq_some.mpr ⟨leaked count, ih (by omega),
        run_cons_eq_some.mpr ⟨_, step_failing (by omega), rfl⟩⟩

theorem exhausted_leaked {count : Nat} (all : count = 8193) : (leaked count).Exhausted := by
  intro draw
  have small := draw.isLt
  refine List.mem_map.mpr ⟨(draw.val + 1) / 2, List.mem_range.mpr (by omega), ?_⟩
  apply RtpPort.ext
  rw [number_drawOf (by omega), RtpPort.ofDraw]
  dsimp only
  omega

/-- One more INVITE stops the program. -/
theorem endsDrawing_failing {count : Nat} (all : count = 8193) :
    EndsDrawing sampleConf .initial ((List.range count).map failing ++ [failing 0]) := by
  obtain ⟨msg, parsed, command, ⟨callId, known⟩, rtpMap, mapped⟩ := exists_msg_sampleInvite
  have exhausted := exhausted_leaked all
  have endless := exhausted_iff.mp exhausted (unbound 0).draws
  have idle : (leaked count).sip = .idle := rfl
  have unknown : (leaked count).findByCallId callId = none := rfl
  refine ⟨_, failing 0, leaked count, rfl, run_failing (Nat.le_of_eq all), exhausted, ?_⟩
  rw [failing, Server.turn, if_pos idle, Sip.Session.beginSipEvent_invite parsed command,
    Sip.Session.beginInvite]
  simp only [known, unknown, Sip.Session.selectCodec_of_rtpMap mapped, Tracker.newTransport,
    ready_unbound, endless, if_true]
  rfl

/-- A datagram for which the SIP fiber waits, while a call over a WebSocket is set up. -/
def heldUp : List Event :=
  [.sipDatagram (sampleInvite "k1") samplePeer (sampleStart 0) true,
    .webSocketMessage (sampleInvite "k2") (sampleStart 2), .speech 1 sampleSpeech]

theorem sip_fiber_returns_iff_sample :
    (∃ server, run (step sampleConf) (.running .initial) heldUp = some (.running server) ∧
      server.sip = .awaiting 0 ∧
        ((∃ n ≤ 2, Returns sampleConf sampleSpeech n (.running server)) ↔
          ¬EndsDrawing sampleConf .initial heldUp)) ∧
    ∃ events, run (step sampleConf) (.running .initial) events = some .drawing ∧
      ((∃ n ≤ 2, Returns sampleConf sampleSpeech n .drawing) ↔
        ¬EndsDrawing sampleConf .initial events) := by
  constructor
  · have reached : (run (Server.step sampleConf) .initial heldUp).map Server.sip =
        some (.awaiting 0) := by decide +kernel
    obtain ⟨server, turns, awaiting⟩ := Option.map_eq_some_iff.mp reached
    have execution : run (step sampleConf) (.running .initial) heldUp = some (.running server) :=
      run_eq_some_iff.mpr (.inl ⟨server, turns, rfl⟩)
    exact ⟨server, execution, awaiting, sip_fiber_returns_iff execution sampleSpeech⟩
  · have execution := run_eq_some_iff.mpr (.inr ⟨endsDrawing_failing rfl, rfl⟩)
    exact ⟨_, execution, sip_fiber_returns_iff execution sampleSpeech⟩

end Program
end Contest
