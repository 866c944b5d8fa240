import Contest.Crystal
import Contest.Foundation.DelayLine

/-!
# The jitter buffer

`JitterBuffer#feed` pushes a packet, reports gaps, sorts and pumps one packet once more than `room`
packets are held.  `Array#sort` returns a sorted copy and leaves the array alone, so the buffer is
a plain delay line; the refinement is proved here and the order of its output is compared with the
order of sending in `Contest.Transport.Reordering`.
-/

namespace Contest

/-- The jitter buffer of one transport. -/
structure JitterBuffer where
  /-- How many packets are held back. -/
  room : Nat
  /-- The packets held, as pairs of a sequence number and a payload. -/
  buffer : List (Int × Bytes)
  /-- Whether `on_pump` has installed a callback. -/
  onPumpCallback : Bool
deriving DecidableEq, Repr

namespace JitterBuffer

/-- `JitterBuffer.new(room)`. -/
def new (room : Nat) : JitterBuffer := ⟨room, [], false⟩

/-- The room of `JitterBuffer.new` when none is given. -/
def defaultRoom : Nat := 5

/-- `on_pump`. -/
def onPump (jitter : JitterBuffer) : JitterBuffer := { jitter with onPumpCallback := true }

/-- Whether every number is the successor of the one before it. -/
def consecutive : Int → List Int → Bool
  | _, [] => true
  | order, number :: numbers => number == order + 1 && consecutive number numbers

/-- `check`: the numbers printed as out of sync, if they are. -/
def check (jitter : JitterBuffer) : Fallible (Option (List Int)) := do
  let first ← fetch jitter.buffer 0
  let others ← slice jitter.buffer 1 (jitter.buffer.length - 1)
  if consecutive first.1 (others.map Prod.fst) then
    return none
  else
    return some (jitter.buffer.map Prod.fst)

/-- `ready`. -/
def ready (jitter : JitterBuffer) : Bool := jitter.room < jitter.buffer.length

/-- `pull`, with the buffer it leaves. -/
def pull (jitter : JitterBuffer) : Fallible (JitterBuffer × Option Bytes) :=
  if jitter.ready then
    match jitter.buffer with
    | [] => .error .indexError
    | (_, data) :: others => .ok ({ jitter with buffer := others }, some data)
  else
    .ok (jitter, none)

/-- `feed`, with the payload that it hands to the callback. -/
def feed (jitter : JitterBuffer) (data : Bytes) (seqNo : Int) :
    Fallible (JitterBuffer × Option Bytes) := do
  let pushed := { jitter with buffer := jitter.buffer ++ [(seqNo, data)] }
  let _report ← pushed.check
  -- `Array#sort` returns a new array, which is dropped
  let _sorted := pushed.buffer.mergeSort fun uno dos => uno.1 ≤ dos.1
  if pushed.onPumpCallback then
    pushed.pull
  else
    return (pushed, none)

/-- A run of `feed` calls, with the payloads handed to the callback. -/
def feedAll : JitterBuffer → List (Int × Bytes) → Fallible (JitterBuffer × List Bytes)
  | jitter, [] => .ok (jitter, [])
  | jitter, (seqNo, data) :: packets => do
      let (next, pumped) ← jitter.feed data seqNo
      let (final, later) ← next.feedAll packets
      return (final, pumped.toList ++ later)

/-- Runs of `feed` calls are put together. -/
theorem feedAll_append {jitter middle final : JitterBuffer} {left right : List (Int × Bytes)}
    {early late : List Bytes} (first : jitter.feedAll left = .ok (middle, early))
    (second : middle.feedAll right = .ok (final, late)) :
    jitter.feedAll (left ++ right) = .ok (final, early ++ late) := by
  induction left generalizing jitter early with
  | nil =>
      obtain ⟨rfl, rfl⟩ : jitter = middle ∧ [] = early := by simpa [feedAll] using first
      exact second
  | cons packet left ih =>
      obtain ⟨seqNo, data⟩ := packet
      obtain ⟨⟨next, pumped⟩, fed, rest⟩ := bind_eq_ok.mp first
      obtain ⟨⟨last, later⟩, ran, made⟩ := bind_eq_ok.mp rest
      obtain ⟨rfl, rfl⟩ : last = middle ∧ pumped.toList ++ later = early := by
        simpa [pure, Except.pure] using made
      rw [List.cons_append, feedAll, fed]
      simp only [bind, Except.bind, ih ran, pure, Except.pure, List.append_assoc]

/-- The jitter buffer holds exactly what the delay line holds, and pumps. -/
structure Refines (jitter : JitterBuffer) (line : DelayLine (Int × Bytes) jitter.room) : Prop where
  /-- The same packets in the same order. -/
  buffer_eq : jitter.buffer = line.queue
  /-- A callback is installed. -/
  pumps : jitter.onPumpCallback = true

theorem check_push (jitter : JitterBuffer) (packet : Int × Bytes) :
    ∃ report, check { jitter with buffer := jitter.buffer ++ [packet] } = .ok report := by
  obtain ⟨first, others, held⟩ :=
    List.exists_cons_of_ne_nil (l := jitter.buffer ++ [packet]) (by simp)
  have inside : 1 + ((first :: others).length - 1) ≤ (first :: others).length := by simp; omega
  simp only [check, held, fetch, List.getElem?_cons_zero, slice_of_le inside]
  by_cases sync : consecutive first.1
      ((((first :: others).drop 1).take ((first :: others).length - 1)).map Prod.fst)
  · exact ⟨none, if_pos sync⟩
  · exact ⟨_, if_neg sync⟩

/-- Neither the report nor the sorted copy changes what is pumped. -/
theorem feed_of_pumps {jitter : JitterBuffer} (pumps : jitter.onPumpCallback = true)
    (data : Bytes) (seqNo : Int) :
    jitter.feed data seqNo = pull { jitter with buffer := jitter.buffer ++ [(seqNo, data)] } := by
  obtain ⟨report, checked⟩ := check_push jitter (seqNo, data)
  simp only [feed, checked, bind, Except.bind]
  exact if_pos pumps

theorem feed_of_silent {jitter : JitterBuffer} (silent : jitter.onPumpCallback = false)
    (data : Bytes) (seqNo : Int) :
    jitter.feed data seqNo =
      .ok ({ jitter with buffer := jitter.buffer ++ [(seqNo, data)] }, none) := by
  obtain ⟨report, checked⟩ := check_push jitter (seqNo, data)
  simp only [feed, checked, bind, Except.bind]
  exact if_neg (by simp [silent])

/-- Nothing is pumped while there is room. -/
theorem feed_of_room {jitter : JitterBuffer} (space : jitter.buffer.length < jitter.room)
    (data : Bytes) (seqNo : Int) :
    jitter.feed data seqNo =
      .ok ({ jitter with buffer := jitter.buffer ++ [(seqNo, data)] }, none) := by
  rcases Bool.eq_false_or_eq_true jitter.onPumpCallback with pumps | silent
  · have not_ready : ¬jitter.room < jitter.buffer.length + 1 := by omega
    rw [feed_of_pumps pumps, pull, if_neg (by simpa [ready] using not_ready)]
  · exact feed_of_silent silent data seqNo

theorem pull_ok (jitter : JitterBuffer) : ∃ pulled, jitter.pull = .ok pulled := by
  by_cases full : jitter.ready
  · cases held : jitter.buffer with
    | nil => simp [ready, held] at full
    | cons first others => exact ⟨_, by simp [pull, full, held]; rfl⟩
  · exact ⟨_, by simp [pull, full]; rfl⟩

/-- No `feed` raises. -/
theorem feed_ok (jitter : JitterBuffer) (data : Bytes) (seqNo : Int) :
    ∃ fed, jitter.feed data seqNo = .ok fed := by
  cases pumps : jitter.onPumpCallback with
  | true =>
      rw [feed_of_pumps pumps]
      exact pull_ok _
  | false => exact ⟨_, feed_of_silent pumps data seqNo⟩

/-- One `feed` is one push into the delay line. -/
theorem feed_refines {jitter : JitterBuffer} {line : DelayLine (Int × Bytes) jitter.room}
    (refines : jitter.Refines line) (data : Bytes) (seqNo : Int) :
    jitter.feed data seqNo =
      .ok ({ jitter with buffer := (line.push (seqNo, data)).queue },
        (line.overflow (seqNo, data)).map Prod.snd) := by
  have bounded := line.bounded
  rw [feed_of_pumps refines.pumps, refines.buffer_eq]
  by_cases space : line.queue.length < jitter.room
  · have none_dropped : line.queue.length + 1 - jitter.room = 0 := by omega
    have not_ready : ¬jitter.room < line.queue.length + 1 := by omega
    simp [pull, ready, not_ready, DelayLine.push, DelayLine.overflow, none_dropped, space]
  · have one_dropped : line.queue.length + 1 - jitter.room = 1 := by omega
    have full : jitter.room < (line.queue ++ [(seqNo, data)]).length := by
      simp only [List.length_append, List.length_singleton]
      omega
    obtain ⟨first, others, queue⟩ :=
      List.exists_cons_of_ne_nil (l := line.queue ++ [(seqNo, data)]) (by simp)
    rw [queue] at full
    simp only [pull, ready, DelayLine.push, DelayLine.overflow, queue, one_dropped, space, full]
    rfl

/-- A run of `feed` calls is a run of the delay line. -/
theorem feedAll_refines {jitter : JitterBuffer} {line : DelayLine (Int × Bytes) jitter.room}
    (refines : jitter.Refines line) (packets : List (Int × Bytes)) :
    jitter.feedAll packets =
      .ok ({ jitter with buffer := (line.pushAll packets).queue },
        (line.output packets).map Prod.snd) := by
  induction packets generalizing jitter line with
  | nil => simp [feedAll, DelayLine.pushAll, DelayLine.output, ← refines.buffer_eq]
  | cons packet packets ih =>
      obtain ⟨seqNo, data⟩ := packet
      have next : Refines { jitter with buffer := (line.push (seqNo, data)).queue }
          (line.push (seqNo, data)) := ⟨rfl, refines.pumps⟩
      simp only [feedAll, feed_refines refines, bind, Except.bind, ih next, pure, Except.pure,
        DelayLine.pushAll, DelayLine.output, List.map_append]
      cases line.overflow (seqNo, data) <;> rfl

/-- With a callback, the first `count - room` packets are pumped, in the order of their arrival. -/
theorem feedAll_new (room : Nat) (packets : List (Int × Bytes)) :
    ∃ final, (new room).onPump.feedAll packets =
      .ok (final, (packets.take (packets.length - room)).map Prod.snd) := by
  let line : DelayLine (Int × Bytes) room := DelayLine.empty
  have refines : Refines (new room).onPump line := ⟨rfl, rfl⟩
  have output : line.output packets = packets.take (packets.length - room) := by
    simp [DelayLine.output_eq_take, line, DelayLine.empty]
  exact ⟨_, output ▸ feedAll_refines refines packets⟩

/-- After the packets have been fed, what has been pumped and what is held account for them all. -/
structure Accounts (room : Nat) (packets : List (Int × Bytes)) (final : JitterBuffer)
    (pumped : List Bytes) : Prop where
  /-- What there was no room for has been pumped. -/
  pumped_length : pumped.length = packets.length - room
  /-- The rest is held. -/
  held_length : final.buffer.length = min packets.length room
  /-- Each payload is in one of the two, as often as it was fed. -/
  payloads : (pumped ++ final.buffer.map Prod.snd).Perm (packets.map Prod.snd)

/-- No feed raises, and nothing is lost or duplicated. -/
theorem feedAll_accounts (room : Nat) (packets : List (Int × Bytes)) :
    ∃ final pumped, (new room).onPump.feedAll packets = .ok (final, pumped) ∧
      Accounts room packets final pumped := by
  let line : DelayLine (Int × Bytes) room := DelayLine.empty
  have refines : Refines (new room).onPump line := ⟨rfl, rfl⟩
  have fed : (new room).onPump.feedAll packets =
      .ok ({ (new room).onPump with buffer := (line.pushAll packets).queue },
        (line.output packets).map Prod.snd) := feedAll_refines refines packets
  have whole : line.output packets ++ (line.pushAll packets).queue = packets :=
    line.output_append_pushAll packets
  have held : (line.pushAll packets).queue.length = min packets.length room := by
    rw [line.length_pushAll]
    simp [line, DelayLine.empty]
  have total := congrArg List.length whole
  rw [List.length_append, held] at total
  refine ⟨_, _, fed, ?_, held, ?_⟩
  · rw [List.length_map]
    omega
  · rw [← List.map_append, whole]

end JitterBuffer
end Contest
