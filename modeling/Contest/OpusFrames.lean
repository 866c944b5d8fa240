import Contest.Audio.Stream
import Contest.HangUp

/-!
# Frames for the Opus encoder

libopus is told to read 960 samples from the slice that `Opus::Encoder#encode_frame` is given.  The
prompt is cut into slices of that size and is not padded, so the last slice is as short as what is
left.  How much of a prompt has been played is counted by the firings of its timer, and with that
the runs in which only full frames are encoded are those in which no rest is reached.
-/

namespace Contest

open Contest.Graph Transition
open Contest.Audio (SixteenBitStream samplesPerFrame)

/-- `FRAME_SIZE`, the number of samples that libopus reads. -/
def Codec.frameSize : Nat := 960

namespace Graph

namespace Call

/-- The slice that a firing of the timer hands to `Opus::Encoder#encode_frame`. -/
def opusFrame (call : Call) (ticks : Int) : Option (List Int16) :=
  match call.transport.encoder with
  | .opus => (call.nextAudioFrame (ticks / 10000)).1
  | .muLaw => none

/-- What a turn of the receive loop leaves of the prompt and the codec. -/
theorem receive_prompt (call : Call) (received : Transport.Received) :
    (call.receive received).2.prompt = call.prompt ∧
      (call.receive received).2.transport.encoder = call.transport.encoder := by
  obtain ⟨clientAddr, jitterBuffer, frame⟩ :=
    call.transport.receive_frame call.transport.encoder.decode received
  unfold receive
  split
  all_goals
    rename_i transport equal
    obtain rfl : transport = _ := by simpa [equal] using frame
    exact ⟨rfl, rfl⟩

theorem sendAudio_prompt (call : Call) (audio : List Int16) (delivery : Delivery) :
    (call.sendAudio audio delivery).prompt = call.prompt ∧
      (call.sendAudio audio delivery).transport.encoder = call.transport.encoder := by
  unfold sendAudio
  simp only
  split
  · exact ⟨rfl, rfl⟩
  · split
    · exact ⟨rfl, rfl⟩
    · split
      · exact ⟨rfl, rfl⟩
      · split <;> exact ⟨rfl, rfl⟩

/-- A firing of the timer leaves the prompt as `next_audio_frame` does. -/
theorem tick_prompt (call : Call) (ticks : Int) (delivery : Delivery) :
    (call.tick ticks delivery).prompt = (call.nextAudioFrame (ticks / 10000)).2 ∧
      (call.tick ticks delivery).transport.encoder = call.transport.encoder := by
  unfold tick
  split
  · rename_i prompt silent
    refine ⟨?_, rfl⟩
    -- the stream has nothing left, or it has not been asked
    have unmoved : prompt = call.prompt := by
      unfold nextAudioFrame SixteenBitStream.next at silent
      split at silent
      · exact (Prod.mk.inj silent).2.symm
      · split at silent
        · exact (Prod.mk.inj silent).2.symm
        · simp at silent
    rw [silent, unmoved]
    rfl
  · rename_i frame prompt given
    rw [given]
    exact { call with prompt := prompt }.sendAudio_prompt frame delivery

theorem answer_prompt (conf : Conf) (speech : Speech) (call : Call) :
    (call.answer conf speech).2.prompt = call.prompt := by
  unfold answer
  split
  · rfl
  · simp only
    split <;> rfl

end Call

/-- The prompt of a call that is set up has not been played. -/
theorem Pending.position_of_startTrackSipConv {pending : Pending} {speech : Speech} {call : Call}
    (started : pending.startTrackSipConv speech = .ok call) : call.prompt.position = 0 := by
  obtain ⟨body, -, started⟩ := bind_eq_ok.mp started
  obtain ⟨toUri, -, started⟩ := bind_eq_ok.mp started
  obtain ⟨callId, -, started⟩ := bind_eq_ok.mp started
  obtain rfl : _ = call := Except.ok.inj started
  rfl

end Graph

/-- The tracker gains at most a call whose prompt has not been played. -/
def Unplayed (before after : Tracker) : Prop :=
  after = before ∨ ∃ call, call.prompt.position = 0 ∧ after = before.add call

theorem Sip.Session.unplayed_finishInvite (conf : Conf) (speech : Speech) (pending : Pending)
    (tracker : Tracker) : Unplayed tracker (finishInvite conf speech pending tracker).2 := by
  unfold finishInvite
  cases started : pending.startTrackSipConv speech with
  | error e => exact .inl rfl
  | ok call =>
      have fresh := Pending.position_of_startTrackSipConv started
      cases replyAddr conf pending.msg with
      | error e => exact .inr ⟨call, fresh, rfl⟩
      | ok addr => exact .inr ⟨_, by rw [call.answer_prompt, fresh], rfl⟩

theorem WebSocketServer.unplayed_finishInvite (conf : Conf) (speech : Speech) (pending : Pending)
    (tracker : Tracker) : Unplayed tracker (finishInvite conf speech pending tracker).2 := by
  unfold finishInvite
  cases started : pending.startTrackSipConv speech with
  | error e => exact .inl rfl
  | ok call =>
      have fresh := Pending.position_of_startTrackSipConv started
      exact .inr ⟨_, by rw [call.answer_prompt, fresh], rfl⟩

namespace Server

/-- The slice that an event hands to an Opus encoder. -/
def opusFrame (server : Server) : Event → Option (List Int16)
  | .tick k ticks _ => server.objects[k]?.bind fun call => call.opusFrame ticks
  | _ => none

/-- Every slice that reaches an Opus encoder in a run holds what libopus reads. -/
def FullFrames (conf : Conf) (events : List Event) : Prop :=
  Meets (step conf)
    (fun server event => ∀ frame, server.opusFrame event = some frame →
      Codec.frameSize ≤ frame.length)
    initial events

/-- Whether the timer of the given call fires after its quarter of a second. -/
def asks (k : Nat) : Event → Bool
  | .tick j ticks _ => j = k && 250 ≤ ticks / 10000
  | _ => false

variable {conf : Conf} {before after : Server} {event : Event}

theorem unplayed_speak (slot : Nat) (pending : Pending) (speech : Speech) :
    (before.speak conf slot pending speech).objects = before.objects ∨
      ∃ call, call.prompt.position = 0 ∧
        (before.speak conf slot pending speech).objects = before.objects ++ [call] := by
  have added : ∀ {tracker : Tracker}, Unplayed before.toTracker tracker →
      tracker.objects = before.objects ∨
        ∃ call, call.prompt.position = 0 ∧ tracker.objects = before.objects ++ [call] := by
    rintro tracker (same | ⟨call, fresh, added⟩)
    · exact .inl (congrArg Tracker.objects same)
    · exact .inr ⟨call, fresh, congrArg Tracker.objects added⟩
  unfold speak
  simp only
  split
  · exact added (WebSocketServer.unplayed_finishInvite conf speech pending before.toTracker)
  · have unplayed := Sip.Session.unplayed_finishInvite conf speech pending before.toTracker
    split
    all_goals
      rename_i tracker finished
      rw [finished] at unplayed
      exact added unplayed

/-- A call that was not there before a step has not been played after it. -/
theorem position_of_created {k : Nat} {call : Call} (absent : before.objects[k]? = none)
    (found : after.objects[k]? = some call) (possible : step conf before event = some after) :
    call.prompt.position = 0 := by
  have outside : before.objects.length ≤ k := List.getElem?_eq_none_iff.mp absent
  obtain ⟨inside, -⟩ := List.getElem?_eq_some_iff.mp found
  cases (step_cases possible).calls with
  | same objects calls =>
      rw [objects] at inside
      omega
  | @created slot speech pending _ spoke waits _ _ _ =>
      subst spoke
      obtain rfl : before.speak conf slot pending speech = after := by
        simpa [step, waits] using possible
      rcases unplayed_speak slot pending speech with same | ⟨fresh, unplayed, added⟩
      · rw [same] at inside
        omega
      · rw [added, List.getElem?_append_right outside] at found
        obtain rfl := List.mem_singleton.mp (List.mem_of_getElem? found)
        exact unplayed
  | ran found_old turn tracker =>
      rw [congrArg Tracker.objects tracker, Tracker.put, List.length_set] at inside
      omega
  | ended found_old ending tracker =>
      rw [congrArg Tracker.objects tracker, Tracker.destroy, List.length_set] at inside
      omega

/-- A firing of a timer asks for the next frame of the prompt of its call, after the quarter of a
second. -/
theorem prompt_step_tick {j k : Nat} {ticks : Int} {delivery : Call.Delivery} {old : Call}
    (found : before.objects[k]? = some old)
    (possible : step conf before (.tick j ticks delivery) = some after) :
    ∃ new, after.objects[k]? = some new ∧
      new.prompt = (if asks k (.tick j ticks delivery) then old.prompt.next.2 else old.prompt) ∧
        new.transport.encoder = old.transport.encoder := by
  obtain ⟨inside, -⟩ := List.getElem?_eq_some_iff.mp found
  obtain ⟨call, found_call, objects⟩ := step_tick possible
  by_cases same : j = k
  · subst same
    obtain rfl : old = call := by simpa [found] using found_call
    obtain ⟨prompt, encoder⟩ := old.tick_prompt ticks delivery
    refine ⟨old.tick ticks delivery, by simp [objects, inside], ?_, encoder⟩
    rw [prompt]
    by_cases early : ticks / 10000 < 250
    · have quiet : ¬250 ≤ ticks / 10000 := by omega
      simp [Call.nextAudioFrame, asks, early, quiet]
    · have late : 250 ≤ ticks / 10000 := by omega
      simp [Call.nextAudioFrame, asks, early, late]
  · exact ⟨old, by simp [objects, same, found], by simp [asks, same], rfl⟩

/-- A step asks for the next frame of a prompt, or leaves the prompt alone. -/
theorem prompt_step {k : Nat} {old : Call} (found : before.objects[k]? = some old)
    (possible : step conf before event = some after) :
    ∃ new, after.objects[k]? = some new ∧
      new.prompt = (if asks k event then old.prompt.next.2 else old.prompt) ∧
        new.transport.encoder = old.transport.encoder := by
  by_cases fires : ∃ j ticks delivery, event = .tick j ticks delivery
  · obtain ⟨j, ticks, delivery, rfl⟩ := fires
    exact prompt_step_tick found possible
  · have silent : asks k event = false := by
      cases event with
      | tick j ticks delivery => exact absurd ⟨j, ticks, delivery, rfl⟩ fires
      | _ => rfl
    rw [silent]
    obtain ⟨new, found_new, fate⟩ := exists_fate found possible
    refine ⟨new, found_new, ?_⟩
    cases fate with
    | same => exact ⟨rfl, rfl⟩
    | turned turn =>
        cases turn with
        | started => exact ⟨rfl, rfl⟩
        | listening spawned => exact ⟨rfl, rfl⟩
        | @received _ _ received turn => simpa [turn] using old.receive_prompt received
        | @escaped _ _ received _ turn unrescued => simpa [turn] using old.receive_prompt received
        | ticked running => exact absurd ⟨_, _, _, rfl⟩ fires
    | ended ending =>
        cases ending with
        | bye parsed command known matched answered given => exact ⟨rfl, rfl⟩
        | @timedOut received _ _ listening rescued turn =>
            simpa [turn, Call.finalize, Transport.finalize] using old.receive_prompt received

/-- How far the prompts have been played after the given events. -/
structure Played (events : List Event) (server : Server) : Prop where
  /-- A frame has been played at each firing that asked for one, as long as there was any. -/
  prompt : ∀ (k : Nat) call, server.objects[k]? = some call →
    call.prompt = ⟨call.prompt.audio,
      min (events.countP (asks k) * samplesPerFrame) call.prompt.audio.length⟩
  /-- No timer has fired for a call that has not been set up. -/
  absent : ∀ k : Nat, server.objects[k]? = none → events.countP (asks k) = 0

theorem played_initial : Played [] initial where
  prompt := by simp [initial, Tracker.empty]
  absent := fun _ _ => rfl

theorem asks_eq_false_of_absent {k : Nat} (absent : before.objects[k]? = none)
    (possible : step conf before event = some after) : asks k event = false := by
  cases event with
  | tick j ticks delivery =>
      obtain ⟨call, found, -⟩ := step_tick possible
      have differ : j ≠ k := by
        rintro rfl
        simp [absent] at found
      simp [asks, differ]
  | _ => rfl

theorem Played.step {events : List Event} (played : Played events before)
    (possible : Server.step conf before event = some after) :
    Played (events ++ [event]) after where
  prompt := by
    intro k new found_new
    rw [List.countP_append, List.countP_singleton]
    cases found : before.objects[k]? with
    | none =>
        have fresh := position_of_created found found_new possible
        have start : new.prompt = ⟨new.prompt.audio, 0⟩ := by rw [← fresh]
        rw [played.absent k found, asks_eq_false_of_absent found possible]
        simpa using start
    | some old =>
        obtain ⟨other, found_other, prompt, -⟩ := prompt_step found possible
        obtain rfl : new = other := by simpa [found_new] using found_other
        rw [prompt, played.prompt k old found]
        cases asks k event with
        | false => rfl
        | true => rw [if_pos rfl, SixteenBitStream.next_eq]; rfl
  absent := by
    intro k absent
    have before_absent : before.objects[k]? = none := by
      cases found : before.objects[k]? with
      | none => rfl
      | some old =>
          obtain ⟨new, found_new, -⟩ := prompt_step found possible
          simp [absent] at found_new
    rw [List.countP_append, played.absent k before_absent, List.countP_singleton,
      asks_eq_false_of_absent before_absent possible]
    rfl

theorem played_of_run {events : List Event} {final : Server}
    (execution : run (Server.step conf) initial events = some final) : Played events final := by
  induction events using List.reverseRecOn generalizing final with
  | nil =>
      obtain rfl : initial = final := by simpa using execution
      exact played_initial
  | append_singleton events event ih =>
      obtain ⟨middle, first, last⟩ := run_append_eq_some.mp execution
      obtain ⟨next, possible, rest⟩ := run_cons_eq_some.mp last
      obtain rfl : next = final := by simpa using rest
      exact (ih first).step possible

/-- The audio of a prompt and the codec of its call stay as they are. -/
structure SameMedia (old new : Call) : Prop where
  /-- The audio. -/
  audio : new.prompt.audio = old.prompt.audio
  /-- The codec. -/
  encoder : new.transport.encoder = old.transport.encoder

theorem sameMedia_of_step {k : Nat} {old : Call} (found : before.objects[k]? = some old)
    (possible : Server.step conf before event = some after) :
    ∃ new, after.objects[k]? = some new ∧ SameMedia old new := by
  obtain ⟨new, found_new, prompt, encoder⟩ := prompt_step found possible
  refine ⟨new, found_new, ?_, encoder⟩
  rw [prompt]
  split
  · unfold SixteenBitStream.next
    split <;> rfl
  · rfl

theorem sameMedia_of_run {events : List Event} {k : Nat} {old : Call} {final : Server}
    (found : before.objects[k]? = some old)
    (execution : run (Server.step conf) before events = some final) :
    ∃ last, final.objects[k]? = some last ∧ SameMedia old last := by
  refine @invariant_of_run _ _ (Server.step conf)
    (fun server => ∃ last, server.objects[k]? = some last ∧ SameMedia old last) ?_ _ _ _
    ⟨old, found, rfl, rfl⟩ execution
  rintro before event after ⟨call, found_call, same⟩ possible
  obtain ⟨new, found_new, next⟩ := sameMedia_of_step found_call possible
  exact ⟨new, found_new, next.audio.trans same.audio, next.encoder.trans same.encoder⟩

/-- The slice that is encoded at a firing is the chunk of the prompt that is next. -/
theorem opusFrame_eq_some {events : List Event} (played : Played events before)
    {frame : List Int16} :
    before.opusFrame event = some frame ↔
      ∃ (k : Nat) (call : Call), before.objects[k]? = some call ∧ asks k event = true ∧
        call.transport.encoder = .opus ∧
        events.countP (asks k) * samplesPerFrame < call.prompt.audio.length ∧
        Chunks.chunk samplesPerFrame call.prompt.audio (events.countP (asks k)) = frame := by
  cases event with
  | tick k ticks delivery =>
    constructor
    · intro reaches
      obtain ⟨call, found, taken⟩ := Option.bind_eq_some_iff.mp reaches
      unfold Call.opusFrame at taken
      split at taken
      · rename_i opus
        unfold Call.nextAudioFrame at taken
        split at taken
        · simp at taken
        · rename_i late
          rw [played.prompt k call found, SixteenBitStream.next_eq,
            Chunks.getElem?_chunks SixteenBitStream.samplesPerFrame_pos] at taken
          split at taken
          · rename_i inside
            exact ⟨k, call, found, by simpa [asks] using late, opus, inside,
              Option.some.inj taken⟩
          · simp at taken
      · simp at taken
    · rintro ⟨j, call, found, asked, opus, inside, rfl⟩
      obtain ⟨rfl, late⟩ : k = j ∧ 250 ≤ ticks / 10000 := by simpa [asks] using asked
      refine Option.bind_eq_some_iff.mpr ⟨call, found, ?_⟩
      unfold Call.opusFrame Call.nextAudioFrame
      rw [opus]
      simp only
      rw [if_neg (by omega), played.prompt k call found, SixteenBitStream.next_eq,
        Chunks.getElem?_chunks SixteenBitStream.samplesPerFrame_pos, if_pos inside]
  | _ => simp [opusFrame, asks]

/-- The Opus encoder of a run is given full frames only, exactly if each prompt that it plays is a
whole number of frames or is not asked for what is left behind its last full one. -/
theorem fullFrames_iff {events : List Event} {final : Server}
    (execution : run (Server.step conf) initial events = some final) :
    FullFrames conf events ↔
      ∀ (k : Nat) call, final.objects[k]? = some call → call.transport.encoder = .opus →
        call.prompt.audio.length % Codec.frameSize = 0 ∨
          events.countP (asks k) ≤ call.prompt.audio.length / Codec.frameSize := by
  have frame_size : Codec.frameSize = 960 := rfl
  have frame_samples : samplesPerFrame = 960 := rfl
  rw [FullFrames, meets_iff execution]
  constructor
  · intro full k last found_last opus
    by_contra neither
    obtain ⟨short, asked⟩ := not_or.mp neither
    obtain ⟨earlier, event, later, rfl, asks_k, counted⟩ :=
      exists_cut_of_lt_countP (Nat.lt_of_not_le asked)
    obtain ⟨before, first, second⟩ := run_append_eq_some.mp execution
    obtain ⟨next, possible, -⟩ := run_cons_eq_some.mp second
    cases found : before.objects[k]? with
    | none => simp [asks_eq_false_of_absent found possible] at asks_k
    | some call =>
        obtain ⟨other, found_other, same⟩ := sameMedia_of_run found second
        obtain rfl : last = other := by simpa [found_last] using found_other
        rw [same.audio, frame_size] at short counted
        rw [same.encoder] at opus
        -- the rest behind the last full frame is encoded at this firing
        have behind : earlier.countP (asks k) * samplesPerFrame < call.prompt.audio.length := by
          rw [counted, frame_samples]
          omega
        have long := full earlier event later before rfl first _
          ((opusFrame_eq_some (played_of_run first)).mpr
            ⟨k, call, found, asks_k, opus, behind, rfl⟩)
        rw [Chunks.length_chunk, frame_size, frame_samples] at long
        omega
  · intro whole earlier event later before split first frame reaches
    subst split
    obtain ⟨k, call, found, asks_k, opus, inside, rfl⟩ :=
      (opusFrame_eq_some (played_of_run first)).mp reaches
    obtain ⟨middle, again, second⟩ := run_append_eq_some.mp execution
    obtain rfl : before = middle := by simpa [first] using again
    obtain ⟨last, found_last, same⟩ := sameMedia_of_run found second
    have condition := whole k last found_last (same.encoder.trans opus)
    rw [same.audio, List.countP_append, List.countP_cons_of_pos asks_k, frame_size] at condition
    rw [Chunks.length_chunk, frame_size]
    rw [frame_samples] at inside ⊢
    omega

/-- A call over Opus has the prompt of one sample played. -/
def shortPromptPlayed : List Event := sampleCall 0 "k1" 0 ++ [audibleTick]

theorem fullFrames_iff_shortPromptPlayed :
    ∃ final, run (Server.step sampleConf) initial shortPromptPlayed = some final ∧
      (FullFrames sampleConf shortPromptPlayed ↔
        ∀ (k : Nat) call, final.objects[k]? = some call → call.transport.encoder = .opus →
          call.prompt.audio.length % Codec.frameSize = 0 ∨
            shortPromptPlayed.countP (asks k) ≤ call.prompt.audio.length / Codec.frameSize) := by
  have possible : (run (Server.step sampleConf) initial shortPromptPlayed).isSome := by
    decide +kernel
  obtain ⟨final, execution⟩ := Option.isSome_iff_exists.mp possible
  exact ⟨final, execution, fullFrames_iff execution⟩

/-- libopus reads 960 samples of a prompt of one sample. -/
theorem short_frame_encoded :
    ¬∀ conf events final, run (Server.step conf) initial events = some final →
      FullFrames conf events := by
  intro claimed
  have taken : (run (Server.step sampleConf) initial (sampleCall 0 "k1" 0)).bind (fun before =>
      (run (Server.step sampleConf) before [audibleTick]).map fun _ =>
        before.opusFrame audibleTick) = some (some [256]) := by decide +kernel
  obtain ⟨before, first, rest⟩ := Option.bind_eq_some_iff.mp taken
  obtain ⟨final, second, frame⟩ := Option.map_eq_some_iff.mp rest
  have execution : run (Server.step sampleConf) initial shortPromptPlayed = some final :=
    run_append_eq_some.mpr ⟨before, first, second⟩
  have full := (meets_iff execution).mp (claimed _ _ _ execution) _ _ [] before rfl first _ frame
  exact absurd full (by decide)

end Server
end Contest
