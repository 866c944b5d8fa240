import Contest.Answered
import Contest.CodecAgreement
import Contest.Transport.Listening

/-!
# Incoming audio

The jitter buffer of a call hands a packet to the codec once more than five packets have come.
`Codec::Opus` inherits a decoder that raises, and `listen` rescues failed system calls only, so the
receive loop of a call with Opus ends at the sixth packet.
-/

namespace Contest

open Contest.Graph

namespace Transport

/-- An RTP packet of version 2 with the given payload type. -/
def IsRtp (mediaProfilePt : Int) (data : Bytes) : Prop :=
  12 ≤ data.length ∧ ∃ first second rest, data = first :: second :: rest ∧
    first.toNat / 64 = 2 ∧ ((second.toNat % 128 : Nat) : Int) = mediaProfilePt

/-- A transport that feeds a jitter buffer with a callback, and has not been told to stop. -/
structure Hearing (transport : Transport) (codec : Codec) (room : Nat) : Prop where
  /-- The codec. -/
  encoder : transport.encoder = codec
  /-- The loop goes on. -/
  listening : transport.teardown = false
  /-- A callback is installed. -/
  pumps : transport.jitterBuffer.onPumpCallback = true
  /-- The room of the jitter buffer. -/
  room_eq : transport.jitterBuffer.room = room
  /-- It is kept to. -/
  bounded : transport.jitterBuffer.buffer.length ≤ room

theorem hearing_create (codec : Codec) (mediaProfilePt : Int) (rtpPort : RtpPort)
    (clientAddr : Option IPAddress) :
    Hearing { create codec mediaProfilePt rtpPort with clientAddr := clientAddr } codec
      JitterBuffer.defaultRoom := ⟨rfl, rfl, rfl, rfl, Nat.zero_le _⟩

section Turn

variable {transport : Transport} {codec : Codec} {room : Nat} {data : Bytes}

/-- While there is room, a packet is only held. -/
theorem receive_of_room (hearing : transport.Hearing codec room)
    (space : transport.jitterBuffer.buffer.length < room) (long : 12 ≤ data.length)
    (address : IPAddress) :
    ∃ after, transport.receive codec.decode (.datagram data address) = (.ok (), after) ∧
      after.Hearing codec room ∧
        after.jitterBuffer.buffer.length = transport.jitterBuffer.buffer.length + 1 := by
  obtain ⟨seqNo, parsed⟩ := parseRtp_take_ok long
  have fed := JitterBuffer.feed_of_room (hearing.room_eq ▸ space) ((data.take 1024).drop 12) seqNo
  let after : Transport := { transport with
    clientAddr := some address
    jitterBuffer := { transport.jitterBuffer with
      buffer := transport.jitterBuffer.buffer ++ [(seqNo, (data.take 1024).drop 12)] } }
  have handled : handleRtp codec.decode { transport with clientAddr := some address }
      (data.take 1024) = (.ok (), after) := by
    simp only [handleRtp, parsed, fed, after]
  have held : after.jitterBuffer.buffer.length =
      transport.jitterBuffer.buffer.length + 1 := List.length_append
  exact ⟨after, by simp only [receive, handled], ⟨hearing.encoder, hearing.listening,
    hearing.pumps, hearing.room_eq, by omega⟩, held⟩

/-- Without room, a packet makes the codec decode the oldest one. -/
theorem receive_of_full (hearing : transport.Hearing .opus room)
    (full : room ≤ transport.jitterBuffer.buffer.length) (long : 12 ≤ data.length)
    (address : IPAddress) :
    (transport.receive Codec.opus.decode (.datagram data address)).1 =
      .error (.raised "to be implemented by subclass...") := by
  obtain ⟨seqNo, parsed⟩ := parseRtp_take_ok long
  obtain ⟨⟨oldest, encoded⟩, others, held⟩ := List.exists_cons_of_ne_nil
    (l := transport.jitterBuffer.buffer ++ [(seqNo, (data.take 1024).drop 12)]) (by simp)
  have ready : transport.jitterBuffer.room < ((oldest, encoded) :: others).length := by
    rw [← held, List.length_append, List.length_singleton, hearing.room_eq]
    omega
  have fed : transport.jitterBuffer.feed ((data.take 1024).drop 12) seqNo =
      .ok ({ transport.jitterBuffer with buffer := others }, some encoded) := by
    rw [JitterBuffer.feed_of_pumps hearing.pumps, held, JitterBuffer.pull]
    exact if_pos (decide_eq_true ready)
  have handled : handleRtp Codec.opus.decode { transport with clientAddr := some address }
      (data.take 1024) = (.error (.raised "to be implemented by subclass..."),
        { transport with
          clientAddr := some address
          jitterBuffer := { transport.jitterBuffer with buffer := others } }) := by
    simp only [handleRtp, parsed, fed, Codec.decode, Except.map]
  simp only [receive, handled]

end Turn

/-- The loop of a call with MuLaw goes on over all packets. -/
theorem listen_muLaw {transport : Transport} {room : Nat} (hearing : transport.Hearing .muLaw room)
    {packets : List (Bytes × IPAddress)} (long : ∀ packet ∈ packets, 12 ≤ packet.1.length) :
    (listen Codec.muLaw.decode transport (received packets)).1 = .ok () :=
  listen_long (fun data => data.map Codec.decodeSample) hearing.listening long

/-- The loop of a call with Opus goes on while there is room in the jitter buffer. -/
theorem listen_opus_iff {transport : Transport} {room : Nat}
    (hearing : transport.Hearing .opus room) {packets : List (Bytes × IPAddress)}
    (long : ∀ packet ∈ packets, 12 ≤ packet.1.length) :
    (listen Codec.opus.decode transport (received packets)).1 = .ok () ↔
      transport.jitterBuffer.buffer.length + packets.length ≤ room := by
  induction packets generalizing transport with
  | nil => exact iff_of_true rfl hearing.bounded
  | cons packet packets ih =>
      have here := long packet List.mem_cons_self
      have later : ∀ other ∈ packets, 12 ≤ other.1.length :=
        fun other member => long other (List.mem_cons_of_mem packet member)
      by_cases space : transport.jitterBuffer.buffer.length < room
      · obtain ⟨after, turn, goes_on, held⟩ := receive_of_room hearing space here packet.2
        have rest := ih goes_on later
        have unfolded : listen Codec.opus.decode transport (received (packet :: packets)) =
            listen Codec.opus.decode after (received packets) := by
          simp [received, listen, hearing.listening, turn]
        rw [unfolded, rest, held, List.length_cons]
        omega
      · have raised := receive_of_full hearing (Nat.le_of_not_lt space) here packet.2
        have stopped : (listen Codec.opus.decode transport (received (packet :: packets))).1 ≠
            .ok () := by
          cases turn : transport.receive Codec.opus.decode (.datagram packet.1 packet.2) with
          | mk result after =>
              obtain rfl : result = .error (.raised "to be implemented by subclass...") := by
                simpa [turn] using raised
              simp [received, listen, hearing.listening, turn]
        refine iff_of_false stopped ?_
        rw [List.length_cons]
        omega

end Transport

/-- The offer in an INVITE has an rtpmap line for Opus. -/
def OffersOpus (data : Text) : Prop :=
  ∃ msg number, Sip.Msg.new data = .ok msg ∧
    Sdp.Binds msg.sdpHeader.sessionAttributes number Sdp.opus

theorem hears_iff_of_long {conf : Conf} {data : Text} {call : Call} {responses : List Text}
    (answered : Answered conf data call responses) {packets : List (Bytes × IPAddress)}
    (long : ∀ packet ∈ packets, 12 ≤ packet.1.length) :
    (Transport.listen call.transport.encoder.decode call.transport
        (Transport.received packets)).1 = .ok () ↔
      ¬OffersOpus data ∨ packets.length ≤ 5 := by
  obtain ⟨msg, pending, tag, responder, parsed, -, chosen, flurried⟩ := answered.exists_flurry
  obtain ⟨rtpMap, port, addr, read, created⟩ := chosen.transport
  rw [flurried.transport, created]
  cases found : rtpMap.lookup "opus/48000/2".toList with
  | none =>
      have hearing := Transport.hearing_create .muLaw 0 port addr
      have not_offered : ¬OffersOpus data := by
        rintro ⟨other, number, parsed_other, binds⟩
        obtain rfl : msg = other := by simpa [parsed] using parsed_other
        obtain ⟨same, last, read_same, present⟩ := Sdp.lookup_of_binds binds
        obtain rfl : rtpMap = same := by simpa [read] using read_same
        exact absurd (found.symm.trans present) (by simp)
      exact iff_of_true (Transport.listen_muLaw hearing long) (.inl not_offered)
  | some number =>
      have hearing := Transport.hearing_create .opus number port addr
      have offered : OffersOpus data :=
        ⟨msg, number, parsed, Sdp.binds_of_lookup read found⟩
      have counted : (Transport.listen Codec.opus.decode
          { Transport.create .opus number port with clientAddr := addr }
          (Transport.received packets)).1 = .ok () ↔ 0 + packets.length ≤ 5 :=
        Transport.listen_opus_iff hearing long
      rw [or_iff_right (not_not_intro offered), ← Nat.zero_add packets.length]
      exact counted

/-- Valid media does not end the receive loop of a call if and only if Opus was not offered or no
more packets come than the jitter buffer has room for. -/
theorem hears_iff {conf : Conf} {data : Text} {call : Call} {responses : List Text}
    (answered : Answered conf data call responses) {packets : List (Bytes × IPAddress)}
    (valid : ∀ packet ∈ packets, Transport.IsRtp call.transport.mediaProfilePt packet.1) :
    (Transport.listen call.transport.encoder.decode call.transport
        (Transport.received packets)).1 = .ok () ↔
      ¬OffersOpus data ∨ packets.length ≤ 5 :=
  hears_iff_of_long answered fun packet member => (valid packet member).1

/-- A packet of Opus under 101, with a number. -/
def opusPacket (number : UInt8) : Bytes × IPAddress :=
  ([0x80, 0x65, 0, number] ++ List.replicate 8 0, samplePeer)

theorem exists_call_with_opus :
    ∃ call responses, Answered sampleConf (sampleInvite "k1") call responses ∧
      (∀ number, Transport.IsRtp call.transport.mediaProfilePt (opusPacket number).1) ∧
        OffersOpus (sampleInvite "k1") := by
  obtain ⟨call, responses, answered⟩ := exists_answered_sampleInvite
  obtain ⟨msg, pending, tag, responder, parsed, -, chosen, flurried⟩ := answered.exists_flurry
  obtain ⟨rtpMap, port, addr, read, created⟩ := chosen.transport
  have looked_up : ((Sip.Msg.new (sampleInvite "k1")).toOption.bind fun msg =>
      msg.sdpHeader.rtpMap.toOption.bind fun rtpMap => rtpMap.lookup "opus/48000/2".toList) =
        some 101 := by decide +kernel
  have found : rtpMap.lookup "opus/48000/2".toList = some 101 := by
    simpa [parsed, read, Except.toOption] using looked_up
  refine ⟨call, responses, answered, fun number => ?_, msg, 101, parsed,
    Sdp.binds_of_lookup read found⟩
  rw [flurried.transport, created, found]
  exact ⟨by simp [opusPacket], 0x80, 0x65, 0 :: number :: List.replicate 8 0, rfl, by decide, rfl⟩

theorem hears_iff_sample :
    ∃ call responses, Answered sampleConf (sampleInvite "k1") call responses ∧
      ((Transport.listen call.transport.encoder.decode call.transport
          (Transport.received ([1, 2, 4, 3].map opusPacket))).1 = .ok () ↔
        ¬OffersOpus (sampleInvite "k1") ∨ ([1, 2, 4, 3].map opusPacket).length ≤ 5) := by
  obtain ⟨call, responses, answered, valid, -⟩ := exists_call_with_opus
  refine ⟨call, responses, answered, hears_iff answered ?_⟩
  exact List.forall_mem_map.mpr fun number _ => valid number

/-- Six packets of Opus end the receive loop. -/
theorem sixth_opus_packet_escapes :
    ¬∀ conf data call responses, Answered conf data call responses →
      ∀ packets : List (Bytes × IPAddress),
        (∀ packet ∈ packets, Transport.IsRtp call.transport.mediaProfilePt packet.1) →
          (Transport.listen call.transport.encoder.decode call.transport
            (Transport.received packets)).1 = .ok () := by
  intro claimed
  obtain ⟨call, responses, answered, valid, offered⟩ := exists_call_with_opus
  have all_valid : ∀ packet ∈ [1, 2, 3, 4, 5, 6].map opusPacket,
      Transport.IsRtp call.transport.mediaProfilePt packet.1 :=
    List.forall_mem_map.mpr fun number _ => valid number
  have heard := (hears_iff_of_long answered fun packet member =>
    (all_valid packet member).1).mp (claimed _ _ call responses answered _ all_valid)
  rw [List.length_map] at heard
  exact heard.elim (fun absent => absent offered) (by decide)

end Contest
