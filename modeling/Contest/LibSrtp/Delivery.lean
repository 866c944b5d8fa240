import Contest.LibSrtp.Channel

/-!
# Runs of sending and receiving

A session that receives what another one with the same keys has sent is a replay window in front of
the packets: out of order, late or twice, what it accepts is what was sent.  A stream in order comes
through whole, however long it is and however often its sequence numbers wrap, unless it starts in
the upper half of the sequence numbers.
-/

namespace Contest
namespace LibSrtp

open ReplayWindow

variable {gcrypt : Gcrypt} {shifts : Shifts} {session sender receiver : Session} {head : Int}

/-- A packet with its index. -/
structure Indexed where
  /-- The index. -/
  index : Int
  /-- The packet. -/
  plain : Bytes
  /-- The packet is well-formed. -/
  formed : WellFormed plain
  /-- It carries the last bits of the index. -/
  carried : index % 65536 = (rtpSeq plain).toNat

/-- A packet with a payload of two bytes. -/
def Indexed.sample (index : Int) : Indexed where
  index := index
  plain := 0x80 :: 96 :: (encodeUInt16 (UInt16.ofNat (index % 65536).toNat) ++
    [0, 0, 0, 0, 1, 2, 3, 4, 5, 6])
  formed := wellFormed_cons (by simp) (by simp)
  carried := by
    rw [rtpSeq_encodeUInt16, UInt16.toNat_ofNat']
    omega

/-- Receive datagrams one after another. -/
def recvAll (gcrypt : Gcrypt) (shifts : Shifts) : Session → List Bytes → List Result
  | _, [] => []
  | session, datagram :: later =>
      let result := srtpRecv gcrypt shifts session datagram
      result :: recvAll gcrypt shifts result.session later

/-- Send packets one after another, each in a buffer with some room behind it. -/
def sendAll (gcrypt : Gcrypt) (shifts : Shifts) (room : Bytes) : Session → List Bytes → List Result
  | _, [] => []
  | session, plain :: later =>
      let result := srtpSend gcrypt shifts session (plain ++ room) plain.length
      result :: sendAll gcrypt shifts room result.session later

/-- The packet that a call leaves, if it succeeds. -/
def Result.packet (result : Result) : Option Bytes :=
  if result.ret = 0 then some (result.buf.take result.len) else none

/-- What the sender makes of a packet. -/
def Indexed.wire (gcrypt : Gcrypt) (sender : Session) (packet : Indexed) : Bytes :=
  protect gcrypt sender packet.index packet.plain

/-! ### A window in front of the packets -/

/-- A session has a bit for what it has taken, and no other. -/
structure Exact (session : Session) (filter : Filter) : Prop where
  /-- The head. -/
  counted : session.At filter.head
  /-- There is a bit for everything. -/
  covers : Covers session.rtp.window filter
  /-- There is no other bit. -/
  reports : Reports session.rtp.window filter

/-- A session before its first packet. -/
structure Unused (session : Session) : Prop where
  /-- The rollover counter. -/
  roc : session.rtpRoc = 0
  /-- The sequence number. -/
  seq : session.rtpSeq = 0
  /-- The window. -/
  window : session.rtp.window = 0

theorem Unused.exact (unused : Unused session) : Exact session (.new 0) where
  counted := by
    show (0 : Int) % 2 ^ 48 = _
    rw [unused.roc, unused.seq]
    rfl
  covers := covers_new _ _
  reports := unused.window ▸ reports_new 0

theorem unused_sample : Unused sample := ⟨rfl, rfl, rfl⟩

/-- The packets come through, each if it is fresh. -/
def pass : Filter → List Indexed → List (Option Bytes)
  | _, [] => []
  | filter, packet :: later =>
      (if filter.Fresh 64 packet.index then some packet.plain else none) ::
        pass (filter.offer 64 packet.index) later

/-- No packet is half a turn late, and none jumps over the window. -/
def Steady : Filter → List Int → Prop
  | _, [] => True
  | filter, index :: later =>
      filter.head - 32768 < index ∧ index < filter.head + 64 ∧
        Steady (filter.offer 64 index) later

theorem Exact.ahead (shifts : Shifts) {filter : Filter} (exact : Exact session filter)
    {seq : UInt16} (later : filter.head < packetIndex filter.head seq)
    (near : packetIndex filter.head seq < filter.head + 64) :
    Exact (session.ahead shifts (packetIndex filter.head seq - filter.head) seq
      (srtpComputeRoc session seq)) (filter.offer 64 (packetIndex filter.head seq)) := by
  have counted := at_ahead shifts (packetIndex filter.head seq - filter.head) exact.counted seq
  have fresh : filter.Fresh 64 (packetIndex filter.head seq) := .inl later
  obtain ⟨distance, sum⟩ : ∃ distance : Nat,
      packetIndex filter.head seq = filter.head + distance :=
    ⟨(packetIndex filter.head seq - filter.head).toNat, by omega⟩
  have difference : filter.head + distance - filter.head = (distance : Int) := by omega
  rw [Filter.offer_of_fresh fresh]
  refine ⟨?_, ?_, ?_⟩
  · rwa [Filter.head_take_of_lt later]
  · simp only [sum, difference] at later ⊢
    exact covers_ahead shifts exact.covers (by omega) _ seq _
  · simp only [sum, difference] at later near ⊢
    refine exact.reports.advance (by omega) (fun i inside set => ?_) _
    rw [getLsbD_left shifts _ (by omega) inside] at set
    simpa using set

theorem Exact.mark (shifts : Shifts) {filter : Filter} (exact : Exact session filter)
    {distance : Nat} (inside : distance < 64) (fresh : filter.Fresh 64 (filter.head - distance)) :
    Exact (session.mark shifts distance) (filter.offer 64 (filter.head - distance)) := by
  have head := Filter.head_take_of_le (show filter.head - distance ≤ filter.head by omega)
    fresh.not_mem
  rw [Filter.offer_of_fresh fresh]
  refine ⟨?_, covers_mark shifts exact.covers _, ?_⟩
  · rw [head]
    exact exact.counted
  · refine exact.reports.mark (fun i small set => ?_) _
    rw [getLsbD_left shifts _ inside small, Bool.and_eq_true, decide_eq_true_iff,
      show (1 : BitVec 64) = BitVec.ofNat 64 1 from rfl, BitVec.getLsbD_one] at set
    obtain ⟨behind, one⟩ := set
    have zero : i - distance = 0 := by simpa using one
    omega

/-- A packet is taken if it is fresh, and refused otherwise. -/
theorem Exact.accept (shifts : Shifts) {filter : Filter} (exact : Exact session filter)
    {seq : UInt16} {index : Int} (found : packetIndex filter.head seq = index)
    (lower : filter.head - 32768 < index) (upper : index < filter.head + 64) :
    (∃ after, session.accept shifts seq (srtpComputeRoc session seq) = some after ∧
        filter.Fresh 64 index ∧ Exact after (filter.offer 64 index)) ∨
      session.accept shifts seq (srtpComputeRoc session seq) = none ∧
        ¬filter.Fresh 64 index := by
  subst found
  rcases Int.lt_or_le filter.head (packetIndex filter.head seq) with later | late
  · exact .inl ⟨_, accept_of_lt shifts _ exact.counted later, .inl later,
      exact.ahead shifts later upper⟩
  · obtain ⟨distance, sum⟩ : ∃ distance : Nat,
        packetIndex filter.head seq = filter.head - distance :=
      ⟨(filter.head - packetIndex filter.head seq).toNat, by omega⟩
    have counts : lag filter.head (packetIndex filter.head seq) = (distance : Int) := by
      rw [lag_eq lower late]
      omega
    rw [accept_of_le exact.counted late, counts, sum]
    by_cases inside : distance < 64
    · rw [getLsbD_right shifts _ inside]
      cases bit : session.rtp.window.getLsbD distance with
      | true =>
          exact .inr ⟨if_pos (.inr rfl), exact.reports.not_fresh_of_set inside bit⟩
      | false =>
          have fresh := exact.covers.fresh_of_clear inside bit
          have taken : ¬((64 : Int) ≤ distance ∨ false = true) := by
            rintro (outside | set)
            · omega
            · exact absurd set (by decide)
          exact .inl ⟨_, if_neg taken, fresh, exact.mark shifts inside fresh⟩
    · refine .inr ⟨if_pos (.inl (by omega)), ?_⟩
      rintro (above | ⟨near, -⟩)
      · omega
      · omega

/-- What a session accepts of the packets of another one with the same keys is what a replay window
of 64 numbers lets through, each as it was sent. -/
theorem recvAll_eq_pass (gcrypt : Gcrypt) (shifts : Shifts) (keys : SameKeys sender receiver)
    (unmarked : rccMode receiver.flags = 0) {filter : Filter} (exact : Exact receiver filter)
    {packets : List Indexed} (steady : Steady filter (packets.map Indexed.index)) :
    (recvAll gcrypt shifts receiver (packets.map (Indexed.wire gcrypt sender))).map
      Result.packet = pass filter packets := by
  induction packets generalizing receiver filter with
  | nil => rfl
  | cons packet packets ih =>
      obtain ⟨lower, upper, later⟩ := steady
      have found := packetIndex_eq packet.carried (by omega)
        (show packet.index < filter.head + 32768 by omega)
      have received := srtpRecv_spec gcrypt shifts unmarked exact.counted
        packet.formed found
      have wire : packet.wire gcrypt sender = protect gcrypt receiver packet.index packet.plain :=
        keys.protect packet.index packet.plain
      simp only [List.map_cons, recvAll, pass, wire, received]
      rcases exact.accept shifts found lower upper with
        ⟨after, accepted, fresh, kept⟩ | ⟨refused, stale⟩
      · have same := SameKeys.of_accept accepted
        have rest := ih (keys.trans same) (same.flags ▸ unmarked) kept later
        simp only [accepted, if_pos fresh, rest]
        simp [Result.packet]
      · rw [Filter.offer_of_not_fresh stale] at later ⊢
        simp only [refused, if_neg stale, ih keys unmarked exact later]
        simp [Result.packet, eacces]

/-- A packet is early, two are late, and one comes twice. -/
def sampleIndexes : List Int := [5, 3, 40, 5, 3, 90]

theorem recvAll_eq_pass_sample :
    (recvAll .standard .modular sample
      ((sampleIndexes.map Indexed.sample).map (Indexed.wire .standard sample))).map
        Result.packet = pass (.new 0) (sampleIndexes.map Indexed.sample) := by
  refine recvAll_eq_pass .standard .modular (.refl sample) rfl unused_sample.exact ?_
  simp [Steady, sampleIndexes, Indexed.sample, Filter.new, Filter.offer, Filter.Fresh, Filter.take]

/-! ### Streams -/

/-- Each index is ahead of the one before, by less than half a turn. -/
def Ascends : Int → List Int → Prop
  | _, [] => True
  | head, index :: later => head < index ∧ index < head + 32768 ∧ Ascends index later

/-- Each fate is that of a datagram, which arrives or not. -/
def arrive : List (Option Bytes) → List Bool → List Bytes
  | some datagram :: sent, true :: fates => datagram :: arrive sent fates
  | _ :: sent, _ :: fates => arrive sent fates
  | _, _ => []

theorem arrive_map {α : Type} (events : List (α × Bool)) (wire : α → Bytes) :
    arrive (events.map fun event => some (wire event.1)) (events.map Prod.snd) =
      (events.filter Prod.snd).map fun event => wire event.1 := by
  induction events with
  | nil => rfl
  | cons event events ih =>
      obtain ⟨packet, arrives⟩ := event
      cases arrives with
      | false => simpa [arrive] using ih
      | true => simpa [arrive] using ih

/-- Packets that are ahead are all sent. -/
theorem sendAll_of_ascends (gcrypt : Gcrypt) (shifts : Shifts)
    (unmarked : rccMode session.flags = 0) {room : Bytes} (enough : session.tagSize ≤ room.length)
    (counted : session.At head) (packets : List Indexed)
    (ascending : Ascends head (packets.map Indexed.index)) :
    (sendAll gcrypt shifts room session (packets.map Indexed.plain)).map Result.packet =
      packets.map fun packet => some (packet.wire gcrypt session) := by
  induction packets generalizing session head with
  | nil => rfl
  | cons packet packets ih =>
      obtain ⟨ahead, near, later⟩ := ascending
      have found := packetIndex_eq packet.carried (show head - 32768 ≤ packet.index by omega) near
      have accepted := accept_of_lt shifts (srtpComputeRoc session (rtpSeq packet.plain)) counted
        (found ▸ ahead)
      have same := SameKeys.of_accept accepted
      have after := at_ahead shifts (packetIndex head (rtpSeq packet.plain) - head) counted
        (rtpSeq packet.plain)
      rw [found] at accepted after
      have length : (protect gcrypt session packet.index packet.plain).length =
          packet.plain.length + session.tagSize := by
        rw [protect, List.length_append, (sameHeader_textOf gcrypt session _ packet.formed).length,
          length_tagOf]
      have sent := srtpSend_spec gcrypt shifts unmarked counted packet.formed enough
      have rest := ih (same.flags ▸ unmarked) (same.tagSize ▸ enough) after later
      simp only [List.map_cons, sendAll, sent, found, accepted, rest]
      refine congrArg₂ List.cons ?_ (List.map_congr_left fun other _ => ?_)
      · rw [Result.packet, if_pos rfl, ← length, List.take_left]
        rfl
      · exact congrArg some (same.symm.protect other.index other.plain)

/-- Packets that are ahead are all received. -/
theorem recvAll_of_ascends (gcrypt : Gcrypt) (shifts : Shifts) (keys : SameKeys sender receiver)
    (unmarked : rccMode receiver.flags = 0) (counted : receiver.At head) (packets : List Indexed)
    (ascending : Ascends head (packets.map Indexed.index)) :
    (recvAll gcrypt shifts receiver (packets.map (Indexed.wire gcrypt sender))).map
      Result.packet = packets.map fun packet => some packet.plain := by
  induction packets generalizing receiver head with
  | nil => rfl
  | cons packet packets ih =>
      obtain ⟨ahead, near, later⟩ := ascending
      have found := packetIndex_eq packet.carried (show head - 32768 ≤ packet.index by omega) near
      have received := srtpRecv_spec gcrypt shifts unmarked counted
        packet.formed found
      have accepted := accept_of_lt shifts (srtpComputeRoc receiver (rtpSeq packet.plain)) counted
        (found ▸ ahead)
      have after := at_ahead shifts (packetIndex head (rtpSeq packet.plain) - head) counted
        (rtpSeq packet.plain)
      have wire : packet.wire gcrypt sender = protect gcrypt receiver packet.index packet.plain :=
        keys.protect packet.index packet.plain
      rw [found] at accepted after
      have same := SameKeys.of_accept accepted
      have rest := ih (keys.trans same) (same.flags ▸ unmarked) after later
      simp only [List.map_cons, recvAll, wire, received, accepted, rest]
      simp [Result.packet]

/-- What arrives of packets that are ahead. -/
theorem arrive_sendAll (gcrypt : Gcrypt) (shifts : Shifts) (unmarked : rccMode session.flags = 0)
    {room : Bytes} (enough : session.tagSize ≤ room.length) (counted : session.At head)
    {events : List (Indexed × Bool)}
    (ascending : Ascends head (events.map fun event => event.1.index)) :
    arrive ((sendAll gcrypt shifts room session (events.map fun event => event.1.plain)).map
        Result.packet) (events.map Prod.snd) =
      ((events.filter Prod.snd).map Prod.fst).map (Indexed.wire gcrypt session) := by
  have all_sent := sendAll_of_ascends gcrypt shifts unmarked enough counted (events.map Prod.fst)
    (by rwa [List.map_map])
  have plains : (events.map fun event => event.1.plain) =
      (events.map Prod.fst).map Indexed.plain := by rw [List.map_map]; rfl
  have wires : ((events.map Prod.fst).map fun packet => some (packet.wire gcrypt session)) =
      events.map fun event => some (event.1.wire gcrypt session) := by rw [List.map_map]; rfl
  rw [plains, all_sent, wires, arrive_map events (Indexed.wire gcrypt session), List.map_map]
  rfl

/-- A stream in order comes through: all of it is sent, and all that arrives is restored, as long as
less than half a turn is lost or skipped in a row. -/
theorem stream_delivered (gcrypt : Gcrypt) (shifts : Shifts) (keys : SameKeys sender receiver)
    (unmarked : rccMode sender.flags = 0) {room : Bytes} (enough : sender.tagSize ≤ room.length)
    {sent received : Int} (sent_at : sender.At sent) (received_at : receiver.At received)
    {events : List (Indexed × Bool)}
    (ascending : Ascends sent (events.map fun event => event.1.index))
    (reached : Ascends received ((events.filter Prod.snd).map fun event => event.1.index)) :
    (recvAll gcrypt shifts receiver (arrive
      ((sendAll gcrypt shifts room sender (events.map fun event => event.1.plain)).map
        Result.packet) (events.map Prod.snd))).map Result.packet =
      (events.filter Prod.snd).map fun event => some event.1.plain := by
  have all_received := recvAll_of_ascends gcrypt shifts keys (keys.flags ▸ unmarked) received_at
    ((events.filter Prod.snd).map Prod.fst) (by rwa [List.map_map])
  rw [arrive_sendAll gcrypt shifts unmarked enough sent_at ascending, all_received, List.map_map]
  rfl

/-- A session in the middle of a stream. -/
def midway : Session := { sample with rtpSeq := 60000 }

/-- A packet is lost where the sequence numbers wrap. -/
def sampleEvents : List (Indexed × Bool) :=
  [(.sample 65535, true), (.sample 65536, false), (.sample 65537, true)]

theorem stream_delivered_sample :
    (recvAll .standard .modular midway (arrive
      ((sendAll .standard .modular (List.replicate 10 0) midway
        (sampleEvents.map fun event => event.1.plain)).map Result.packet)
          (sampleEvents.map Prod.snd))).map Result.packet =
      (sampleEvents.filter Prod.snd).map fun event => some event.1.plain := by
  have counted : midway.At 60000 := rfl
  refine stream_delivered .standard .modular (.refl midway) rfl (by decide) counted counted ?_ ?_
  · exact ⟨by decide, by decide, by decide, by decide, by decide, by decide, trivial⟩
  · exact ⟨by decide, by decide, by decide, by decide, trivial⟩

/-! ### The start of a stream -/

/-- The packets are told apart from what they would be under a rollover counter that a session
computes before it has received anything. -/
def Separated (gcrypt : Gcrypt) (session : Session) (packets : List Indexed) : Prop :=
  ∀ packet ∈ packets, ∀ roc ∈ [0, 0xffffffff], roc ≠ rocOf packet.index →
    tagOf gcrypt session packet.index packet.plain ≠
      (rtpDigest gcrypt session.rtp.mac (textOf gcrypt session packet.index packet.plain)
        roc).take session.tagSize

/-- Before its first packet, a session computes two rollover counters only, and neither is that of a
packet of a stream that has started in the upper half. -/
theorem Unused.roc_ne (unused : Unused session) {packet : Indexed} (lower : 32768 ≤ packet.index)
    (upper : packet.index < 65536 * (2 ^ 32 - 1)) :
    srtpComputeRoc session (rtpSeq packet.plain) ∈ [(0 : UInt32), 0xffffffff] ∧
      srtpComputeRoc session (rtpSeq packet.plain) ≠ rocOf packet.index := by
  have carried := packet.carried
  have small := (rtpSeq packet.plain).toNat_lt
  have counted := unused.exact.counted
  obtain ⟨residue, low, high⟩ := packetIndex_spec 0 (rtpSeq packet.plain)
  have roc := toNat_srtpComputeRoc counted (rtpSeq packet.plain)
  simp only [Filter.new] at roc
  have computed : (srtpComputeRoc session (rtpSeq packet.plain)).toNat = 0 ∨
      (srtpComputeRoc session (rtpSeq packet.plain)).toNat = 4294967295 := by omega
  refine ⟨?_, fun same => ?_⟩
  · rw [List.mem_cons, List.mem_singleton]
    exact computed.imp (fun zero => UInt32.toNat_inj.mp zero) fun last => UInt32.toNat_inj.mp last
  · have words := congrArg UInt32.toNat same
    rw [rocOf, UInt32.toNat_ofNat'] at words
    omega

/-- Nothing of a stream that has started in the upper half is received. -/
theorem recvAll_of_late (gcrypt : Gcrypt) (shifts : Shifts) (keys : SameKeys sender receiver)
    (unmarked : rccMode receiver.flags = 0) (unused : Unused receiver) {packets : List Indexed}
    (separated : Separated gcrypt receiver packets)
    (late : ∀ packet ∈ packets, 32768 ≤ packet.index ∧ packet.index < 65536 * (2 ^ 32 - 1)) :
    (recvAll gcrypt shifts receiver (packets.map (Indexed.wire gcrypt sender))).map
      Result.packet = packets.map fun _ => none := by
  induction packets with
  | nil => rfl
  | cons packet packets ih =>
      obtain ⟨first, others⟩ := List.forall_mem_cons.mp separated
      obtain ⟨⟨lower, upper⟩, later⟩ := List.forall_mem_cons.mp late
      obtain ⟨computed, differs⟩ := unused.roc_ne lower upper
      have wire : packet.wire gcrypt sender = protect gcrypt receiver packet.index packet.plain :=
        keys.protect packet.index packet.plain
      have refused := srtpRecv_forged gcrypt shifts unmarked packet.formed
        (first _ computed differs)
      simp only [List.map_cons, recvAll, wire, refused, ih others later]
      simp [Result.packet, eacces]

theorem le_of_ascends {indexes : List Int} (ascending : Ascends head indexes) :
    ∀ index ∈ indexes, head ≤ index := by
  induction indexes generalizing head with
  | nil => simp
  | cons index indexes ih =>
      obtain ⟨ahead, -, later⟩ := ascending
      refine List.forall_mem_cons.mpr ⟨by omega, fun other member => ?_⟩
      have above := ih later other member
      omega

/-- A stream is received from its first packet on if its numbers start in the lower half, and
otherwise not one of its packets is. -/
theorem stream_received (gcrypt : Gcrypt) (shifts : Shifts) (keys : SameKeys sender receiver)
    (unmarked : rccMode receiver.flags = 0) (unused : Unused receiver) {first : Indexed}
    {later : List Indexed} (lower : 0 ≤ first.index)
    (ascending : Ascends first.index (later.map Indexed.index))
    (told_apart : 32768 ≤ first.index → Separated gcrypt receiver (first :: later) ∧
      ∀ packet ∈ first :: later, packet.index < 65536 * (2 ^ 32 - 1)) :
    (recvAll gcrypt shifts receiver ((first :: later).map (Indexed.wire gcrypt sender))).map
      Result.packet =
        (first :: later).map fun packet =>
          if first.index < 32768 then some packet.plain else none := by
  by_cases half : first.index < 32768
  · have counted := unused.exact.counted
    simp only [if_pos half]
    rcases eq_or_lt_of_le lower with zero | positive
    · have found := packetIndex_eq first.carried (show (0 : Int) - 32768 ≤ first.index by omega)
        (by omega)
      have received := srtpRecv_spec gcrypt shifts unmarked counted first.formed found
      rcases unused.exact.accept shifts found (by simp [Filter.new, ← zero])
          (by simp [Filter.new, ← zero]) with ⟨after, accepted, fresh, kept⟩ | ⟨refused, stale⟩
      · have same := SameKeys.of_accept accepted
        have wire : first.wire gcrypt sender = protect gcrypt receiver first.index first.plain :=
          keys.protect first.index first.plain
        have head : after.At first.index := by
          have kept_head := kept.counted
          rw [Filter.offer_of_fresh fresh] at kept_head
          simpa [Filter.take, Filter.new, ← zero] using kept_head
        have rest := recvAll_of_ascends gcrypt shifts (keys.trans same) (same.flags ▸ unmarked)
          head later ascending
        simp only [List.map_cons, recvAll, wire, received, accepted, rest]
        simp [Result.packet]
      · exact absurd (.inr ⟨by simp [Filter.new, ← zero], by simp [Filter.new]⟩) stale
    · exact recvAll_of_ascends gcrypt shifts keys unmarked counted (first :: later)
        ⟨positive, by simpa [Filter.new] using half, ascending⟩
  · obtain ⟨separated, short⟩ := told_apart (by omega)
    simp only [if_neg half]
    refine recvAll_of_late gcrypt shifts keys unmarked unused separated fun packet member => ?_
    have above : first.index ≤ packet.index := by
      rcases List.mem_cons.mp member with rfl | rest
      · exact le_refl _
      · exact le_of_ascends ascending _ (List.mem_map_of_mem rest)
    exact ⟨by omega, short packet member⟩

/-- Streams of numbers that skip some. -/
def sampleLater : List Indexed :=
  [.sample 50000, .sample 65537]

theorem separated_sample :
    Separated .standard sample (.sample 40000 :: sampleLater) := by
  simp only [Separated, sampleLater, List.forall_mem_cons, List.not_mem_nil, false_imp_iff,
    implies_true, and_true]
  decide +kernel

theorem stream_received_sample :
    (recvAll .standard .modular sample ((Indexed.sample 32767 :: sampleLater).map
        (Indexed.wire .standard sample))).map Result.packet =
          (Indexed.sample 32767 :: sampleLater).map (fun packet => some packet.plain) ∧
      (recvAll .standard .modular sample ((Indexed.sample 40000 :: sampleLater).map
        (Indexed.wire .standard sample))).map Result.packet =
          (Indexed.sample 40000 :: sampleLater).map fun _ => none := by
  constructor
  · exact stream_received .standard .modular (.refl sample) rfl unused_sample (by decide)
      (by simp [Ascends, sampleLater, Indexed.sample]) fun late => absurd late (by decide)
  · exact stream_received .standard .modular (.refl sample) rfl unused_sample (by decide)
      (by simp [Ascends, sampleLater, Indexed.sample]) fun _ => ⟨separated_sample, by decide⟩

end LibSrtp
end Contest
