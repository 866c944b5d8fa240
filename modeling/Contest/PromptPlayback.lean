import Contest.Foundation.Playout
import Contest.OpusFrames
import Contest.SipFiber
import Contest.Transport.Sending

/-!
# The prompt of a call

The timer of a call fires, and its prompt is played a frame at a time.  Whatever else happens, what
a call has sent are the frames of its prompt from the first one on, each of them once, with the
numbers of the firings.  Only the frame with which the timer died may be lacking.
-/

namespace Contest

open Contest.Graph Transition Playout
open Contest.Audio (SixteenBitStream samplesPerFrame)

/-- A firing of a timer, with the ticks since its start. -/
abbrev Firing := Int × Call.Delivery

namespace Graph.Call

/-- A firing asks for audio after the quarter of a second. -/
def late (firing : Firing) : Bool := 250 ≤ firing.1 / 10000

/-- The frames of the prompt that are played at the given firings, with the numbers of these. -/
def handed (call : Call) (fired : List Firing) : List (List Int16 × Nat × Firing) :=
  playout (Chunks.chunks samplesPerFrame call.prompt.audio) late 0 0 fired

/-- The packet for a frame, if it has been encoded. -/
def wire (call : Call) (entry : List Int16 × Nat × Firing) : Option Bytes :=
  (entry.2.2.2.encode entry.1).toOption.map
    (Transport.formRtp call.transport.mediaProfilePt call.transport.encoder.samplesPerFrame
      (BitVec.ofNat 32 entry.2.1))

/-- A call that has been played at the given firings. -/
structure Playing (call : Call) (fired : List Firing) : Prop where
  /-- The counter of the transport counts the firings. -/
  counted : call.transport.seqNo = BitVec.ofNat 32 fired.length
  /-- The RTP socket is open. -/
  isOpen : call.transport.rtpSocketClosed = false
  /-- So much of the prompt has been handed out. -/
  position : call.prompt = ⟨call.prompt.audio,
    min (fired.countP late * samplesPerFrame) call.prompt.audio.length⟩
  /-- The frames that have been handed out are in the log, save for the last of a dead timer. -/
  sent : call.sent.map some =
    (if call.timer = .dead then (call.handed fired).dropLast else call.handed fired).map call.wire

theorem Resting.playing {old new : Call} (resting : old.Resting new) {fired : List Firing}
    (playing : old.Playing fired) : new.Playing fired where
  counted := resting.seqNo.trans playing.counted
  isOpen := resting.rtpSocketClosed.trans playing.isOpen
  position := by rw [resting.prompt, ← playing.position]
  sent := by
    have wires : new.wire = old.wire := by
      funext entry
      rw [wire, wire, resting.mediaProfilePt, resting.encoder]
    rw [resting.sent, resting.timer, wires, handed, resting.prompt]
    exact playing.sent

/-- The audio goes out in a packet, or the timer dies with it. -/
theorem sendAudio_cases {call : Call} {audio : List Int16} {delivery : Delivery}
    (isOpen : call.transport.rtpSocketClosed = false) :
    (∃ encoded, delivery.encode audio = .ok encoded ∧ call.sendAudio audio delivery =
        { call with
            transport := call.transport.incSeqNo
            sent := call.sent ++ [call.transport.incSeqNo.packet encoded] }) ∨
      call.sendAudio audio delivery =
        { call with transport := call.transport.incSeqNo, timer := .dead } := by
  have still_open : call.transport.incSeqNo.rtpSocketClosed = false := isOpen
  unfold sendAudio
  cases delivery.encode audio with
  | error e => exact .inr rfl
  | ok encoded =>
      simp only [still_open, Bool.false_eq_true, if_false]
      cases call.transport.incSeqNo.clientAddr with
      | none => exact .inr rfl
      | some addr =>
          cases delivery.delivered with
          | false => exact .inr rfl
          | true => exact .inl ⟨encoded, rfl, rfl⟩

theorem handed_append (call : Call) (fired : List Firing) (firing : Firing) :
    call.handed (fired ++ [firing]) = call.handed fired ++
      ((if late firing then
          (Chunks.chunks samplesPerFrame call.prompt.audio)[fired.countP late]? else none).map
        fun frame => (frame, fired.length + 1, firing)).toList :=
  playout_concat firing

/-- A firing that plays nothing. -/
theorem Playing.observeSilence {call : Call} {fired : List Firing} (playing : call.Playing fired)
    {firing : Firing} (silent : (if late firing then
      (Chunks.chunks samplesPerFrame call.prompt.audio)[fired.countP late]? else none) = none) :
    call.observeSilence.Playing (fired ++ [firing]) where
  counted := by
    rw [List.length_append, List.length_singleton, BitVec.ofNat_add, ← playing.counted]
    rfl
  isOpen := playing.isOpen
  position := by
    rw [List.countP_append, List.countP_singleton]
    have still := playing.position
    cases asked : late firing with
    | false => exact still
    | true =>
        rw [asked, if_pos rfl, Chunks.getElem?_chunks SixteenBitStream.samplesPerFrame_pos] at silent
        have spent : call.prompt.audio.length ≤ fired.countP late * samplesPerFrame := by
          by_contra inside
          rw [if_pos (Nat.lt_of_not_le inside)] at silent
          simp at silent
        rw [Nat.min_eq_right spent] at still
        have beyond : call.prompt.audio.length ≤ (fired.countP late + 1) * samplesPerFrame :=
          Nat.le_trans spent (Nat.mul_le_mul_right _ (Nat.le_succ _))
        rw [if_pos rfl, show call.observeSilence.prompt = call.prompt from rfl,
          Nat.min_eq_right beyond]
        exact still
  sent := by
    have same : call.observeSilence.handed (fired ++ [firing]) = call.handed fired := by
      have added := call.observeSilence.handed_append fired firing
      rw [show call.observeSilence.prompt = call.prompt from rfl, silent] at added
      exact added.trans (List.append_nil _)
    rw [same]
    exact playing.sent

/-- A call whose prompt has come to a frame. -/
def moved (call : Call) (frames : Nat) : Call :=
  { call with prompt :=
      ⟨call.prompt.audio, min (frames * samplesPerFrame) call.prompt.audio.length⟩ }

/-- A firing that plays a frame. -/
theorem Playing.sendAudio {call : Call} {fired : List Firing} (playing : call.Playing fired)
    (running : call.timer = .running) {firing : Firing} {samples : List Int16}
    (asked : late firing = true)
    (frame : (Chunks.chunks samplesPerFrame call.prompt.audio)[fired.countP late]? =
      some samples) :
    ((call.moved (fired.countP late + 1)).sendAudio samples firing.2).Playing
      (fired ++ [firing]) := by
  have counted : call.transport.seqNo + 1 = BitVec.ofNat 32 (fired ++ [firing]).length := by
    rw [List.length_append, BitVec.ofNat_add, ← playing.counted]
    rfl
  have asking : (fired ++ [firing]).countP late = fired.countP late + 1 := by
    rw [List.countP_append, List.countP_singleton, asked, if_pos rfl]
  have added : call.handed (fired ++ [firing]) =
      call.handed fired ++ [(samples, fired.length + 1, firing)] := by
    rw [handed_append, asked, if_pos rfl, frame]
    rfl
  have sent := playing.sent
  rw [running, if_neg TimerFiber.noConfusion] at sent
  have still_open : (call.moved (fired.countP late + 1)).transport.rtpSocketClosed = false :=
    playing.isOpen
  rcases @sendAudio_cases _ samples firing.2 still_open with ⟨encoded, given, result⟩ | result
  · rw [result]
    refine ⟨counted, playing.isOpen, by rw [asking]; rfl, ?_⟩
    have packet : call.wire (samples, fired.length + 1, firing) =
        some (call.transport.incSeqNo.packet encoded) := by
      rw [wire, given, ← List.length_singleton (a := firing), ← List.length_append, ← counted]
      rfl
    have log : (call.sent ++ [call.transport.incSeqNo.packet encoded]).map some =
        (call.handed (fired ++ [firing])).map call.wire := by
      rw [added, List.map_append, List.map_append, sent, List.map_singleton, List.map_singleton,
        packet]
    have running_still : (call.moved (fired.countP late + 1)).timer = .running := running
    rw [if_neg (by rw [running_still]; exact TimerFiber.noConfusion)]
    exact log
  · rw [result]
    refine ⟨counted, playing.isOpen, by rw [asking]; rfl, ?_⟩
    have kept : (call.handed (fired ++ [firing])).dropLast = call.handed fired := by
      rw [added, List.dropLast_concat]
    exact sent.trans (congrArg _ kept.symm)

/-- The step lemma: a firing plays the next frame of the prompt, if there is one. -/
theorem Playing.tick {call : Call} {fired : List Firing} (playing : call.Playing fired)
    (running : call.timer = .running) (ticks : Int) (delivery : Delivery) :
    (call.tick ticks delivery).Playing (fired ++ [(ticks, delivery)]) := by
  by_cases early : ticks / 10000 < 250
  · have silence : call.tick ticks delivery = call.observeSilence := by
      simp [Call.tick, nextAudioFrame, early]
    have unasked : late (ticks, delivery) = false := by simpa [late] using early
    rw [silence]
    exact playing.observeSilence (by rw [unasked]; rfl)
  · have asked : late (ticks, delivery) = true := by simpa [late] using early
    have next := SixteenBitStream.next_eq call.prompt.audio (fired.countP late)
    rw [← playing.position] at next
    cases frame : (Chunks.chunks samplesPerFrame call.prompt.audio)[fired.countP late]? with
    | none =>
        have silence : call.tick ticks delivery = call.observeSilence := by
          simp [Call.tick, nextAudioFrame, early, next, frame]
        rw [silence]
        exact playing.observeSilence (by rw [asked, if_pos rfl, frame])
    | some samples =>
        have turn : call.tick ticks delivery =
            (call.moved (fired.countP late + 1)).sendAudio samples delivery := by
          simp [Call.tick, nextAudioFrame, early, next, frame, moved]
        rw [turn]
        exact playing.sendAudio running asked frame

/-- A call that has just been made has been played at no firing. -/
theorem Playing.of_made {pending : Pending} {speech : Speech} {call : Call}
    (made : Made pending speech call) (unused : pending.transport.seqNo = 0)
    (isOpen : pending.transport.rtpSocketClosed = false) : call.Playing [] where
  counted := by
    rw [made.transport]
    exact unused
  isOpen := by
    rw [made.transport]
    exact isOpen
  position := by
    rw [List.countP_nil, Nat.zero_mul, Nat.zero_min, ← made.position]
  sent := by
    rw [made.sent, made.timer]
    rfl

end Graph.Call

namespace Server

variable {conf : Conf} {before after : Server} {event : Event}

/-- The firings of the timer of a call. -/
def firings (k : Nat) (events : List Event) : List Firing :=
  events.filterMap fun event => match event with
    | .tick j ticks delivery => if j = k then some (ticks, delivery) else none
    | _ => none

theorem firings_append (k : Nat) (events : List Event) (event : Event) :
    firings k (events ++ [event]) = firings k events ++ firings k [event] :=
  List.filterMap_append

/-- The prompts of all calls after the given events. -/
structure AllPlaying (events : List Event) (server : Server) : Prop where
  /-- Every call has been played at the firings of its timer. -/
  playing : ∀ (k : Nat) call, server.objects[k]? = some call → call.Playing (firings k events)
  /-- The timer of a call that is not there has not fired. -/
  absent : ∀ k : Nat, server.objects[k]? = none → firings k events = []
  /-- The calls are attended to. -/
  attended : server.Attended

theorem allPlaying_initial : AllPlaying [] initial where
  playing := by simp [initial, Tracker.empty]
  absent := fun _ _ => rfl
  attended := attended_initial

theorem firings_eq_nil_of_absent {k : Nat} (absent : before.objects[k]? = none)
    (possible : step conf before event = some after) : firings k [event] = [] := by
  cases event with
  | tick j ticks delivery =>
      obtain ⟨call, found, -⟩ := running_of_tick possible
      have differ : j ≠ k := by
        rintro rfl
        simp [absent] at found
      simp [firings, differ]
  | _ => rfl

/-- A call that was there before a step has been played at its firings. -/
theorem AllPlaying.playing_step {events : List Event} (held : AllPlaying events before) {k : Nat}
    {old new : Call} (found : before.objects[k]? = some old)
    (found_new : after.objects[k]? = some new) (possible : Server.step conf before event = some after) :
    new.Playing (firings k (events ++ [event])) := by
  obtain ⟨inside, -⟩ := List.getElem?_eq_some_iff.mp found
  have playing := held.playing k old found
  rw [firings_append]
  cases event with
  | tick j ticks delivery =>
      obtain ⟨call, found_call, running, objects, -⟩ := running_of_tick possible
      by_cases same : j = k
      · subst same
        obtain rfl : old = call := by simpa [found] using found_call
        obtain rfl : old.tick ticks delivery = new := by simpa [objects, inside] using found_new
        have fired : firings j [.tick j ticks delivery] = [(ticks, delivery)] := by simp [firings]
        rw [fired]
        exact playing.tick running ticks delivery
      · obtain rfl : old = new := by simpa [objects, same, found] using found_new
        have unfired : firings k [.tick j ticks delivery] = [] := by simp [firings, same]
        rw [unfired, List.append_nil]
        exact playing
  | startCall =>
      obtain ⟨j, call, queued, found_call, objects, -⟩ := queueing_of_startCall possible
      rw [show firings k [Event.startCall] = [] from rfl, List.append_nil]
      by_cases same : j = k
      · subst same
        obtain rfl : old = call := by simpa [found] using found_call
        obtain ⟨other, found_other, unscheduled, -⟩ := held.attended.queueing j queued
        obtain rfl : old = other := by simpa [found] using found_other
        obtain rfl : { old with timer := .running } = new := by simpa [objects, inside] using found_new
        have sent := playing.sent
        rw [unscheduled, if_neg TimerFiber.noConfusion] at sent
        exact ⟨playing.counted, playing.isOpen, playing.position, sent⟩
      · obtain rfl : old = new := by simpa [objects, same, found] using found_new
        exact playing
  | _ =>
      obtain ⟨other, found_other, fate⟩ := exists_fate found possible
      obtain rfl : new = other := by simpa [found_new] using found_other
      rw [← List.append_nil (firings k events)] at playing
      exact (resting_of_fate fate (by simp) (by simp)).playing playing

/-- The step lemma of the server. -/
theorem AllPlaying.step {events : List Event} (held : AllPlaying events before)
    (possible : Server.step conf before event = some after) :
    AllPlaying (events ++ [event]) after where
  playing := by
    intro k new found_new
    cases found : before.objects[k]? with
    | some old => exact held.playing_step found found_new possible
    | none =>
        obtain ⟨-, slot, pending, speech, -, waits, made⟩ :=
          made_of_absent found found_new possible
        obtain ⟨unused, isOpen⟩ := held.attended.waiting.transport waits
        rw [firings_append, held.absent k found, firings_eq_nil_of_absent found possible]
        exact .of_made made unused isOpen
  absent := by
    intro k absent
    have before_absent : before.objects[k]? = none := by
      cases found : before.objects[k]? with
      | none => rfl
      | some old =>
          obtain ⟨new, found_new, -⟩ := exists_fate found possible
          simp [absent] at found_new
    rw [firings_append, held.absent k before_absent,
      firings_eq_nil_of_absent before_absent possible]
    rfl
  attended := held.attended.step possible

theorem allPlaying_of_run {events : List Event} {final : Server}
    (execution : run (Server.step conf) initial events = some final) : AllPlaying events final :=
  history_of_run AllPlaying.step allPlaying_initial execution

/-- What a call has sent of its prompt at the firings of its timer. -/
structure PromptPlayed (call : Call) (fired : List Firing)
    (played : List (List Int16 × Nat × Firing)) : Prop where
  /-- The frames of the prompt are played in order, none of them is left out or played twice. -/
  frames : played.map Prod.fst =
    (Chunks.chunks samplesPerFrame call.prompt.audio).take played.length
  /-- As long as there are frames, one is played at each firing after the quarter of a second. -/
  length : played.length =
    min (fired.countP Call.late) (Chunks.chunks samplesPerFrame call.prompt.audio).length
  /-- A frame comes with the number of its firing, and this firing. -/
  firing : ∀ entry ∈ played, 0 < entry.2.1 ∧ fired[entry.2.1 - 1]? = some entry.2.2 ∧
    Call.late entry.2.2 = true
  /-- The numbers increase. -/
  increasing : (numbers played).Pairwise (· < ·)
  /-- They do so one by one, if the timer does not go back. -/
  gapless : (fired.Pairwise fun early late => early.1 ≤ late.1) →
    ∃ first, numbers played = List.range' first played.length
  /-- A packet goes out for each frame, save for the one with which the timer died. -/
  sent : call.sent.length = if call.timer = .dead then played.length - 1 else played.length
  /-- The packets carry what the encoder gave for the frames, under the numbers of the firings. -/
  packets : ∀ (n : Nat) packet, call.sent[n]? = some packet → ∃ entry wire,
    played[n]? = some entry ∧ RtpPacket.decode packet = some wire ∧ wire.version = 2 ∧
      (wire.payloadType : Int) = call.transport.mediaProfilePt % 128 ∧
      wire.sequenceNumber = entry.2.1 % 2 ^ 16 ∧
      (wire.timestamp : Int) =
        entry.2.1 * call.transport.encoder.samplesPerFrame.toInt % 2 ^ 32 ∧
      entry.2.2.2.encode entry.1 = .ok wire.payload

/-- The packets of a call are those of the frames that have been handed out. -/
theorem exists_entry_of_sent {call : Call} {fired : List Firing} (playing : call.Playing fired)
    {n : Nat} {packet : Bytes} (gone : call.sent[n]? = some packet) :
    ∃ entry, (call.handed fired)[n]? = some entry ∧ call.wire entry = some packet := by
  have log : (call.sent.map some)[n]? = some (some packet) := by rw [List.getElem?_map, gone]; rfl
  rw [playing.sent, List.getElem?_map] at log
  obtain ⟨entry, found, formed⟩ := Option.map_eq_some_iff.mp log
  refine ⟨entry, ?_, formed⟩
  split at found
  · rw [List.dropLast_eq_take, List.getElem?_take] at found
    split at found
    · exact found
    · simp at found
  · exact found

theorem promptPlayed_of_playing {call : Call} {fired : List Firing}
    (playing : call.Playing fired) : PromptPlayed call fired (call.handed fired) where
  frames := map_fst_playout
  length := length_playout
  firing := fun _ member => mem_playout member
  increasing := pairwise_numbers
  gapless := by
    intro onward
    refine exists_numbers_eq (onward.imp ?_)
    intro early later le asked
    simp only [Call.late, decide_eq_true_eq] at asked ⊢
    omega
  sent := by
    have lengths := congrArg List.length playing.sent
    rw [List.length_map, List.length_map] at lengths
    rw [lengths]
    split
    · exact List.length_dropLast
    · rfl
  packets := by
    intro n packet gone
    obtain ⟨entry, found, formed⟩ := exists_entry_of_sent playing gone
    obtain ⟨encoded, given, rfl⟩ := Option.map_eq_some_iff.mp formed
    obtain ⟨wire, decoded, version, -, kind, number, clock, payload⟩ :=
      Transport.decode_formRtp call.transport.mediaProfilePt
        call.transport.encoder.samplesPerFrame (BitVec.ofNat 32 entry.2.1) encoded
    refine ⟨entry, wire, found, decoded, version, kind, ?_, ?_, ?_⟩
    · rw [number, BitVec.toNat_ofNat]
      omega
    · rw [clock]
      exact Transport.timestamp_eq _ _
    · rw [payload]
      cases gave : entry.2.2.2.encode entry.1 with
      | error e => simp [gave, Except.toOption] at given
      | ok bytes => simpa [gave, Except.toOption] using given

/-- In every run, every call plays its prompt in order, each frame once, and loses none while its
timer lives. -/
theorem prompt_played {events : List Event} {final : Server}
    (execution : run (Server.step conf) initial events = some final) {k : Nat} {call : Call}
    (found : final.objects[k]? = some call) :
    ∃ played, PromptPlayed call (firings k events) played :=
  ⟨_, promptPlayed_of_playing ((allPlaying_of_run execution).playing k call found)⟩

/-- Every sample of a frame is encoded, and the socket takes the packet. -/
def muLawDelivery : Call.Delivery := ⟨fun audio => .ok (audio.map Codec.encodeSample), true⟩

/-- A prompt of a frame and a sample is played with a firing too early and one too late. -/
def promptRun : List Event :=
  [.sipDatagram (sampleInvite "k1") samplePeer (sampleStart 0) true,
    .speech 0 { sampleSpeech with body := .ok (List.replicate 1922 5) }, .startCall, .listen 0,
    .tick 0 200000 muLawDelivery, .tick 0 2500000 muLawDelivery, .tick 0 2700000 muLawDelivery,
    .tick 0 2900000 muLawDelivery]

theorem prompt_played_promptRun :
    ∃ final call, run (Server.step sampleConf) initial promptRun = some final ∧
      final.objects[0]? = some call ∧ ∃ played, PromptPlayed call (firings 0 promptRun) played := by
  have possible : ((run (Server.step sampleConf) initial promptRun).bind fun final =>
      final.objects[0]?).isSome := by decide +kernel
  obtain ⟨call, reached⟩ := Option.isSome_iff_exists.mp possible
  obtain ⟨final, execution, found⟩ := Option.bind_eq_some_iff.mp reached
  exact ⟨final, call, execution, found, prompt_played execution found⟩

end Server
end Contest
