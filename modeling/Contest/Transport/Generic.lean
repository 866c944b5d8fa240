import Contest.Codec
import Contest.Conf
import Contest.Transport.JitterBuffer

/-!
# RTP transports

`Transport::Generic` and `Transport::RTP`: the allocation of local ports, the packets sent, and
the packets received.  Sequence numbers and timestamps are 32-bit integers that wrap.
-/

namespace Contest

/-- A local port for RTP: even, and one below `RTP_PORT_RANGE` at the least. -/
structure RtpPort where
  /-- The number of the port. -/
  number : Nat
  /-- The port for RTCP is the odd one above. -/
  even : number % 2 = 0
  /-- The lowest draw is odd and is rounded down. -/
  lower : 49150 ≤ number
  /-- The highest draw is odd and is rounded down. -/
  upper : number ≤ 65534
deriving DecidableEq, Repr

namespace RtpPort

/-- `rand(49151..65535) & ~1`, where the draw is an offset into the range. -/
def ofDraw (draw : Fin 16385) : RtpPort where
  number := (49151 + draw) - (49151 + draw) % 2
  even := by omega
  lower := by omega
  upper := by omega

/-- The draw of an offset, modulo the size of the range. -/
def drawAt (offset : Nat) : Fin 16385 := Fin.ofNat 16385 offset

@[ext]
theorem ext {left right : RtpPort} (numbers : left.number = right.number) : left = right := by
  cases left
  cases right
  cases numbers
  rfl

/-- The RTP and the RTCP port. -/
def pair (port : RtpPort) : List Nat := [port.number, port.number + 1]

/-- Different ports have disjoint pairs. -/
theorem disjoint_pair {left right : RtpPort} (differ : left ≠ right) :
    left.pair.Disjoint right.pair := by
  have numbers : left.number ≠ right.number := fun equal => differ (ext equal)
  have left_even := left.even
  have right_even := right.even
  intro port in_left in_right
  simp only [pair, List.mem_cons, List.not_mem_nil, or_false] at in_left in_right
  omega

end RtpPort

/-- `alloc_random_rtp_port` for a sequence of draws; `none` while every draw so far is taken. -/
def allocRandomRtpPort (usedRtpPorts : List RtpPort) : List (Fin 16385) → Option RtpPort
  | [] => none
  | draw :: draws =>
      if RtpPort.ofDraw draw ∈ usedRtpPorts then allocRandomRtpPort usedRtpPorts draws
      else some (RtpPort.ofDraw draw)

theorem allocRandomRtpPort_free {usedRtpPorts : List RtpPort} {draws : List (Fin 16385)}
    {port : RtpPort} (allocated : allocRandomRtpPort usedRtpPorts draws = some port) :
    port ∉ usedRtpPorts := by
  fun_induction allocRandomRtpPort usedRtpPorts draws with
  | case1 => simp at allocated
  | case2 _ _ _ ih => exact ih allocated
  | case3 draw _ free =>
      obtain rfl : RtpPort.ofDraw draw = port := by simpa using allocated
      exact free

/-- A `Transport::RTP`. -/
structure Transport where
  /-- The codec of the call. -/
  encoder : Codec
  /-- The RTP payload type. -/
  mediaProfilePt : Int
  /-- The local port. -/
  rtpPort : RtpPort
  /-- Where packets are sent. -/
  clientAddr : Option IPAddress
  /-- The counter behind sequence numbers and timestamps. -/
  seqNo : BitVec 32
  /-- Whether the receive loop has been told to stop. -/
  teardown : Bool
  /-- Whether the RTP socket is closed. -/
  rtpSocketClosed : Bool
  /-- The jitter buffer. -/
  jitterBuffer : JitterBuffer
deriving DecidableEq, Repr

namespace Transport

/-- `Transport::RTP.new`, once a port has been allocated and bound. -/
def create (encoder : Codec) (mediaProfilePt : Int) (rtpPort : RtpPort) : Transport where
  encoder := encoder
  mediaProfilePt := mediaProfilePt
  rtpPort := rtpPort
  clientAddr := none
  seqNo := 0
  teardown := false
  rtpSocketClosed := false
  jitterBuffer := (JitterBuffer.new JitterBuffer.defaultRoom).onPump

/-- `UInt8.new` of an `Int32`. -/
def lowByte (value : BitVec 32) : UInt8 := UInt8.ofBitVec (value.setWidth 8)

/-- `form_rtp`. -/
def formRtp (mediaProfilePt : Int) (samplesPerFrame seqNo : BitVec 32) (payload : Bytes) : Bytes :=
  let payloadType := UInt8.ofInt mediaProfilePt
  -- the marker bit goes on the first packet
  let second := if seqNo = 1 then payloadType ||| 0x80 else payloadType
  let timestamp := seqNo * samplesPerFrame
  [0x80, second,
    lowByte ((seqNo &&& 0xff00).sshiftRight 8), lowByte (seqNo &&& 0x00ff),
    lowByte ((timestamp &&& 0xff000000).sshiftRight 24),
    lowByte ((timestamp &&& 0x00ff0000).sshiftRight 16),
    lowByte ((timestamp &&& 0x0000ff00).sshiftRight 8),
    lowByte (timestamp &&& 0x000000ff),
    0x01, 0x02, 0x03, 0x04] ++ payload

/-- `inc_seq_no`. -/
def incSeqNo (transport : Transport) : Transport :=
  { transport with seqNo := transport.seqNo + 1 }

/-- The packet formed for an encoded frame. -/
def packet (transport : Transport) (encoded : Bytes) : Bytes :=
  formRtp transport.mediaProfilePt transport.encoder.samplesPerFrame transport.seqNo encoded

/-- The sequence number and the payload that `handle_rtp` reads from a packet. -/
def parseRtp (payload : Bytes) : Fallible (Int × Bytes) := do
  let header ← slice payload 0 12
  let number ← slice header 2 2
  let seqNo ← decodeUInt16 number
  let data ← slice payload 12 (payload.length - 12)
  return (seqNo.toNat, data)

/-- `handle_rtp`, with the decoder that the pump callback runs. -/
def handleRtp (decode : Bytes → Fallible (List Int16)) (transport : Transport) (payload : Bytes) :
    Fallible Unit × Transport :=
  match parseRtp payload with
  | .error e => (.error e, transport)
  | .ok (seqNo, data) =>
      match transport.jitterBuffer.feed data seqNo with
      | .error e => (.error e, transport)
      | .ok (jitterBuffer, pumped) =>
          let fed := { transport with jitterBuffer := jitterBuffer }
          match pumped with
          | none => (.ok (), fed)
          | some encoded => ((decode encoded).map fun _ => (), fed)

/-- What `@rtp_socket.receive` gives. -/
inductive Received
  /-- A datagram and its sender. -/
  | datagram (data : Bytes) (address : IPAddress)
  /-- A failed system call. -/
  | errno
  /-- Five seconds without a datagram. -/
  | timeout
deriving DecidableEq, Repr

/-- One turn of the loop in `listen`, with `process` as `Transport::RTP` has it. -/
def receive (decode : Bytes → Fallible (List Int16)) (transport : Transport) :
    Received → Fallible Unit × Transport
  | .datagram data address =>
      -- the buffer for a datagram has 1024 bytes
      match handleRtp decode { transport with clientAddr := some address } (data.take 1024) with
      | (.error .errno, after) => (.ok (), after)
      | turn => turn
  | .errno => (.ok (), transport)
  | .timeout => (.error .ioTimeout, transport)

/-- `listen`, as far as the given outcomes of `receive` carry it. -/
def listen (decode : Bytes → Fallible (List Int16)) :
    Transport → List Received → Fallible Unit × Transport
  | transport, [] => (.ok (), transport)
  | transport, received :: later =>
      if transport.teardown then (.ok (), transport)
      else
        match transport.receive decode received with
        | (.error e, after) => (.error e, after)
        | (.ok _, after) => listen decode after later

/-- `finalize`, save for the list of used ports. -/
def finalize (transport : Transport) : Transport := { transport with teardown := true }

/-- The sequence number is read from the third and the fourth byte, and what follows the twelfth
byte is the payload. -/
theorem parseRtp_header (first second : UInt8) (number : UInt16) {others : Bytes}
    (eight : others.length = 8) (rest : Bytes) :
    parseRtp (first :: second :: (encodeUInt16 number ++ (others ++ rest))) =
      .ok (number.toNat, rest) := by
  let header := [first, second] ++ encodeUInt16 number ++ others
  have text : first :: second :: (encodeUInt16 number ++ (others ++ rest)) = header ++ rest := by
    simp only [header, List.append_assoc, List.cons_append, List.nil_append]
  have size : header.length = 12 := by
    simp only [header, List.length_append, length_encodeUInt16, eight, List.length_cons,
      List.length_nil]
  have front : slice (header ++ rest) 0 12 = .ok header := by
    rw [← size]
    exact slice_append [] header rest
  have read : slice header 2 2 >>= decodeUInt16 = .ok number := by
    exact readUInt16_eq_ok.mpr ⟨by omega, rfl⟩
  have behind : slice (header ++ rest) 12 ((header ++ rest).length - 12) = .ok rest := by
    refine slice_eq_ok.mpr ⟨by rw [List.length_append]; omega, ?_⟩
    rw [← size, List.drop_left, List.length_append, Nat.add_sub_cancel_left, List.take_length]
  obtain ⟨bytes, sliced, decoded⟩ := bind_eq_ok.mp read
  rw [text]
  simp only [parseRtp, front, sliced, decoded, behind, bind, Except.bind, pure, Except.pure]

end Transport
end Contest
