import Contest.Transport.Generic

/-!
# Malformed datagrams and the receive loop

`handle_rtp` takes a slice of twelve bytes before any check, and `listen` rescues failed system
calls only.  A datagram of twelve bytes or more is always processed; a shorter one raises out of
the loop.
-/

namespace Contest

namespace Transport

theorem decodeUInt16_ok {number : Bytes} (length_eq : number.length = 2) :
    ∃ value, decodeUInt16 number = .ok value := by
  obtain ⟨high, low, rfl⟩ := List.length_eq_two.mp length_eq
  exact ⟨_, rfl⟩

/-- A packet is read when it has twelve bytes. -/
theorem parseRtp_ok {payload : Bytes} (long : 12 ≤ payload.length) :
    ∃ seqNo, parseRtp payload = .ok (seqNo, payload.drop 12) := by
  have number_length : (((payload.take 12).drop 2).take 2).length = 2 := by
    simp only [List.length_take, List.length_drop]
    omega
  obtain ⟨seqNo, decoded⟩ := decodeUInt16_ok number_length
  have header : slice payload 0 12 = .ok (payload.take 12) := slice_of_le (by omega)
  have number : slice (payload.take 12) 2 2 = .ok (((payload.take 12).drop 2).take 2) :=
    slice_of_le (by simp only [List.length_take]; omega)
  have data : slice payload 12 (payload.length - 12) = .ok (payload.drop 12) := by
    rw [slice_of_le (by omega), List.take_of_length_le (by simp)]
  refine ⟨seqNo.toNat, ?_⟩
  simp [parseRtp, header, number, decoded, data, bind, Except.bind, pure, Except.pure]

/-- So is what the loop keeps of a datagram. -/
theorem parseRtp_take_ok {data : Bytes} (long : 12 ≤ data.length) :
    ∃ seqNo, parseRtp (data.take 1024) = .ok (seqNo, (data.take 1024).drop 12) := by
  refine parseRtp_ok ?_
  simp only [List.length_take]
  omega

/-- A datagram with fewer than twelve bytes raises. -/
theorem parseRtp_short {payload : Bytes} (short : payload.length < 12) :
    parseRtp payload = .error .indexError := by
  rw [parseRtp, slice_of_lt (by omega)]
  rfl

/-- The next packet makes the jitter buffer hand one to a codec that cannot decode. -/
def chokes (transport : Transport) : Bool :=
  transport.encoder = .opus && transport.jitterBuffer.room ≤ transport.jitterBuffer.buffer.length

/-- A packet that can be an RTP packet is processed, unless it chokes the codec. -/
theorem receive_ok {transport : Transport} (breathes : transport.chokes = false) {data : Bytes}
    (long : 12 ≤ data.length) (address : IPAddress) :
    (transport.receive transport.encoder.decode (.datagram data address)).1 = .ok () := by
  obtain ⟨seqNo, parsed⟩ := parseRtp_take_ok long
  suffices handled : (handleRtp transport.encoder.decode
      { transport with clientAddr := some address } (data.take 1024)).1 = .ok () by
    unfold receive
    simp only
    split
    · rfl
    · exact handled
  cases codec : transport.encoder with
  | muLaw =>
      obtain ⟨⟨jitterBuffer, pumped⟩, fed⟩ :=
        transport.jitterBuffer.feed_ok ((data.take 1024).drop 12) seqNo
      cases pumped <;> simp [handleRtp, parsed, fed, Codec.decode, Except.map]
  | opus =>
      have space : transport.jitterBuffer.buffer.length < transport.jitterBuffer.room := by
        simpa [chokes, codec] using breathes
      simp [handleRtp, parsed, JitterBuffer.feed_of_room space]

theorem parseRtp_error {payload : Bytes} {e : Exn} (raised : parseRtp payload = .error e) :
    e = .indexError := by
  rcases Nat.lt_or_ge payload.length 12 with short | long
  · rw [parseRtp_short short] at raised
    exact (Except.error.inj raised).symm
  · obtain ⟨seqNo, parsed⟩ := parseRtp_ok long
    simp [parsed] at raised

/-- Only the socket raises a timeout. -/
theorem eq_timeout_of_receive {transport : Transport} {received : Received}
    (raised : (transport.receive transport.encoder.decode received).1 = .error .ioTimeout) :
    received = .timeout := by
  cases received with
  | timeout => rfl
  | errno => simp [receive] at raised
  | datagram data address =>
      exfalso
      suffices handled : (handleRtp transport.encoder.decode
          { transport with clientAddr := some address } (data.take 1024)).1 ≠
            .error .ioTimeout by
        unfold receive at raised
        simp only at raised
        split at raised
        · simp at raised
        · exact handled raised
      unfold handleRtp
      split
      · rename_i e parsed
        rw [parseRtp_error parsed]
        simp
      · rename_i seqNo payload parsed
        obtain ⟨⟨jitterBuffer, pumped⟩, fed⟩ := transport.jitterBuffer.feed_ok payload seqNo
        cases codec : transport.encoder <;> cases pumped <;>
          simp [fed, Codec.decode, Except.map]

section TotalDecoder

variable (decode : Bytes → List Int16)

/-- The decoder of a codec that decodes everything. -/
abbrev total : Bytes → Fallible (List Int16) := fun data => .ok (decode data)

theorem handleRtp_ok (transport : Transport) {data : Bytes} (long : 12 ≤ data.length) :
    ∃ after, handleRtp (total decode) transport (data.take 1024) = (.ok (), after) ∧
      after.teardown = transport.teardown := by
  obtain ⟨seqNo, parsed⟩ := parseRtp_take_ok long
  obtain ⟨⟨jitterBuffer, pumped⟩, fed⟩ :=
    transport.jitterBuffer.feed_ok ((data.take 1024).drop 12) seqNo
  refine ⟨{ transport with jitterBuffer := jitterBuffer }, ?_, rfl⟩
  cases pumped <;> simp [handleRtp, parsed, fed, Except.map]

/-- One turn of the loop on a datagram that can be an RTP packet goes on. -/
theorem receive_long (transport : Transport) {data : Bytes} (long : 12 ≤ data.length)
    (address : IPAddress) :
    ∃ after, transport.receive (total decode) (.datagram data address) = (.ok (), after) ∧
      after.teardown = transport.teardown := by
  obtain ⟨after, handled, same⟩ :=
    handleRtp_ok decode { transport with clientAddr := some address } long
  exact ⟨after, by simp [receive, handled], same⟩

/-- One turn of the loop on a shorter datagram raises. -/
theorem receive_short (transport : Transport) {data : Bytes} (short : data.length < 12)
    (address : IPAddress) :
    (transport.receive (total decode) (.datagram data address)).1 = .error .indexError := by
  have taken : (data.take 1024).length < 12 := by
    simp only [List.length_take]
    omega
  simp [receive, handleRtp, parseRtp_short taken]

/-- The datagrams of a stream, as the loop receives them. -/
def received (datagrams : List (Bytes × IPAddress)) : List Received :=
  datagrams.map fun datagram => .datagram datagram.1 datagram.2

/-- The loop survives a stream of datagrams: nothing escapes it, and a datagram too short to be an
RTP packet is dropped without a trace in the jitter buffer. -/
structure Survives (transport : Transport) (datagrams : List (Bytes × IPAddress)) : Prop where
  /-- Nothing escapes the loop. -/
  no_escape : (listen (total decode) transport (received datagrams)).1 = .ok ()
  /-- Short datagrams are dropped, and the loop goes on. -/
  short_dropped : ∀ before data address later,
    datagrams = before ++ (data, address) :: later → data.length < 12 →
      ∀ reached, listen (total decode) transport (received before) = (.ok (), reached) →
        ∃ after, reached.receive (total decode) (.datagram data address) = (.ok (), after) ∧
          after.jitterBuffer = reached.jitterBuffer

theorem listen_long {transport : Transport} (listening : transport.teardown = false)
    {datagrams : List (Bytes × IPAddress)}
    (long : ∀ datagram ∈ datagrams, 12 ≤ datagram.1.length) :
    (listen (total decode) transport (received datagrams)).1 = .ok () := by
  induction datagrams generalizing transport with
  | nil => rfl
  | cons datagram datagrams ih =>
      obtain ⟨after, turn, same⟩ :=
        receive_long decode transport (long datagram List.mem_cons_self) datagram.2
      have later : (listen (total decode) after (received datagrams)).1 = .ok () :=
        ih (same.trans listening) fun other member =>
          long other (List.mem_cons_of_mem datagram member)
      simpa [received, listen, listening, turn] using later

theorem long_of_listen {transport : Transport} (listening : transport.teardown = false)
    {datagrams : List (Bytes × IPAddress)}
    (survived : (listen (total decode) transport (received datagrams)).1 = .ok ()) :
    ∀ datagram ∈ datagrams, 12 ≤ datagram.1.length := by
  induction datagrams generalizing transport with
  | nil => simp
  | cons datagram datagrams ih =>
      have long : 12 ≤ datagram.1.length := by
        by_contra short
        have raised := receive_short decode transport (Nat.lt_of_not_le short) datagram.2
        cases turn : transport.receive (total decode) (.datagram datagram.1 datagram.2) with
        | mk result after =>
            obtain rfl : result = .error .indexError := by simpa [turn] using raised
            simp [received, listen, listening, turn] at survived
      obtain ⟨after, turn, same⟩ := receive_long decode transport long datagram.2
      have later : (listen (total decode) after (received datagrams)).1 = .ok () := by
        simpa [received, listen, listening, turn] using survived
      intro other member
      rcases List.mem_cons.mp member with rfl | member
      · exact long
      · exact ih (same.trans listening) later other member

/-- The receive loop survives exactly the streams whose datagrams all have twelve bytes. -/
theorem survives_iff {transport : Transport} (listening : transport.teardown = false)
    (datagrams : List (Bytes × IPAddress)) :
    Survives decode transport datagrams ↔ ∀ datagram ∈ datagrams, 12 ≤ datagram.1.length := by
  constructor
  · intro survives
    exact long_of_listen decode listening survives.no_escape
  · intro long
    refine ⟨listen_long decode listening long, ?_⟩
    rintro before data address later rfl short
    have := long (data, address) (by simp)
    simp only at this
    omega

end TotalDecoder

/-- A transport in its receive loop. -/
def listeningTransport : Transport := create .muLaw 0 (.ofDraw (RtpPort.drawAt 0))

/-- A sender of datagrams. -/
def strayAddress : IPAddress := ⟨"10.0.0.9".toList, 40000⟩

theorem survives_iff_two_datagrams :
    Survives (fun _ => []) listeningTransport
        [(List.replicate 12 0x80, strayAddress), ([], strayAddress)] ↔
      ∀ datagram ∈ [(List.replicate 12 (0x80 : UInt8), strayAddress), ([], strayAddress)],
        12 ≤ datagram.1.length :=
  survives_iff (fun _ => []) (by decide) _

/-- An empty datagram ends the receive loop. -/
theorem empty_datagram_escapes :
    ¬∀ decode transport, Transport.teardown transport = false →
      ∀ datagrams : List (Bytes × IPAddress),
        (∀ datagram ∈ datagrams, datagram.1.length ≤ 1024) →
          Survives decode transport datagrams := by
  intro claimed
  have survives := claimed (fun _ => []) listeningTransport (by decide) [([], strayAddress)]
    (by decide)
  exact absurd survives.no_escape (by decide)

end Transport
end Contest
