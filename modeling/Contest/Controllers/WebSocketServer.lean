import Contest.Graph.SetUp

/-!
# SIP over WebSockets

`WebSocketServer` handles INVITEs only, without a look at the calls already tracked.
-/

namespace Contest
namespace WebSocketServer

open Contest.Graph

/-- `rtp_map["opus/48000/2"]`. -/
def opusPort (msg : Sip.Msg) : Fallible Int := do
  let rtpMap ← msg.sdpHeader.rtpMap
  match rtpMap.lookup "opus/48000/2".toList with
  | some port => .ok port
  | none => .error (.keyError "opus/48000/2".toList)

/-- The codec and the payload type selected in `handle_invite`. -/
def selectCodec (msg : Sip.Msg) : Fallible (Codec × Int) := do
  let port ← opusPort msg
  return chooseCodec (some port)

/-- `handle_invite`, up to the request for speech. -/
def beginInvite (start : Start) (msg : Sip.Msg) (tracker : Tracker) : Turn × Tracker :=
  match selectCodec msg with
  | .error e => (.raised e, tracker)
  | .ok choice =>
      match tracker.newTransport start choice with
      | (none, after) => (.drawing, after)
      | (some (.error e), after) => (.raised e, after)
      | (some (.ok transport), after) =>
          if start.coughOpened then (.awaiting ⟨msg, true, transport⟩, after)
          else (.raised .errno, after)

/-- `handle_invite`, from the answer to the request for speech on. -/
def finishInvite (conf : Conf) (speech : Speech) (pending : Pending) (tracker : Tracker) :
    Fallible (List Text) × Tracker :=
  match pending.startTrackSipConv speech with
  | .error e => (.error e, tracker)
  | .ok call =>
      match call.answer conf speech with
      | (result, answered) => (result, tracker.add answered)

/-- The block given to `on_message`, up to the request for speech. -/
def beginMessage (start : Start) (message : Text) (tracker : Tracker) : Turn × Tracker :=
  match Sip.Msg.new message with
  | .error e => (.raised e, tracker)
  | .ok msg =>
      match msg.sipHeader.command with
      | .error e => (.raised e, tracker)
      | .ok command =>
          if command = "INVITE".toList then beginInvite start msg tracker
          else (.handled [], tracker)

theorem opens_beginInvite (start : Start) (msg : Sip.Msg) (tracker : Tracker) :
    Opens true start tracker (beginInvite start msg tracker) := by
  unfold beginInvite
  cases selectCodec msg with
  | error e => exact .refused (by simp)
  | ok choice =>
      rcases tracker.newTransport_cases start choice with
        ⟨outcome, opened, failed⟩ | ⟨rtpPort, drawn, opened⟩
      · simp only [opened]
        match outcome, failed with
        | none, _ => exact .refused (by simp)
        | some (.error e), _ => exact .refused (by simp)
        | some (.ok transport), failed => exact absurd rfl (failed transport)
      · simp only [opened]
        cases start.bound with
        | false => exact .lost drawn
        | true =>
            cases start.coughOpened with
            | false => exact .lost drawn
            | true => exact .opened drawn rfl rfl

theorem opens_beginMessage (start : Start) (message : Text) (tracker : Tracker) :
    Opens true start tracker (beginMessage start message tracker) := by
  unfold beginMessage
  split
  · exact .refused (by simp)
  · split
    · exact .refused (by simp)
    · split
      · exact opens_beginInvite start _ tracker
      · exact .refused (by simp)

theorem opusPort_eq_ok {msg : Sip.Msg} {number : Int} (listed : opusPort msg = .ok number) :
    ∃ rtpMap, msg.sdpHeader.rtpMap = .ok rtpMap ∧
      rtpMap.lookup "opus/48000/2".toList = some number := by
  obtain ⟨rtpMap, read, found⟩ := bind_eq_ok.mp listed
  refine ⟨rtpMap, read, ?_⟩
  split at found
  · rename_i other looked
    rwa [Except.ok.inj found] at looked
  · simp at found

theorem chosen_of_beginInvite {start : Start} {msg : Sip.Msg} {tracker opened : Tracker}
    {pending : Pending}
    (awaits : beginInvite start msg tracker = (.awaiting pending, opened)) :
    pending.Chosen msg := by
  unfold beginInvite at awaits
  split at awaits
  · simp at awaits
  · rename_i choice selected
    obtain ⟨number, listed, chosen⟩ := bind_eq_ok.mp selected
    obtain ⟨rtpMap, read, found⟩ := opusPort_eq_ok listed
    obtain rfl : _ = choice := Except.ok.inj chosen
    split at awaits
    · simp at awaits
    · simp at awaits
    · rename_i transport after created
      obtain ⟨⟨port, rfl⟩, -⟩ := Tracker.newTransport_eq_ok created
      split at awaits
      · obtain ⟨waiting, -⟩ := Prod.mk.inj awaits
        obtain rfl := Turn.awaiting.inj waiting
        exact ⟨rfl, rtpMap, port, none, read, found ▸ rfl⟩
      · simp at awaits

/-- What waits for its prompt after a message is the set-up of an INVITE. -/
theorem invite_of_awaiting {start : Start} {message : Text} {tracker opened : Tracker}
    {pending : Pending}
    (turn : beginMessage start message tracker = (.awaiting pending, opened)) :
    ∃ msg, Sip.Msg.new message = .ok msg ∧ msg.sipHeader.command = .ok "INVITE".toList ∧
      beginInvite start msg tracker = (.awaiting pending, opened) := by
  unfold beginMessage at turn
  split at turn
  · simp at turn
  · rename_i msg parsed
    split at turn
    · simp at turn
    · rename_i command named
      split at turn
      · rename_i invite
        exact ⟨msg, parsed, invite ▸ named, turn⟩
      · simp at turn

theorem finishInvite_cases (conf : Conf) (speech : Speech) (pending : Pending)
    (tracker : Tracker) :
    (finishInvite conf speech pending tracker).2 = tracker ∨
      ∃ call, (pending.startTrackSipConv speech).isOk = true ∧ Created pending call ∧
        (finishInvite conf speech pending tracker).2 = tracker.add call := by
  unfold finishInvite
  cases started : pending.startTrackSipConv speech with
  | error e => exact .inl rfl
  | ok call => exact .inr ⟨_, rfl, (pending.created started).answer conf speech, rfl⟩

end WebSocketServer
end Contest
