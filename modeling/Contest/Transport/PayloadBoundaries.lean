import Contest.Transport.Generic

/-!
# The boundaries of the payload

Between the fixed header of an RTP packet and its payload there may be contributing sources and an
extension, and behind the payload there may be padding.  `handle_rtp` takes everything behind the
twelve bytes of the fixed header.
-/

namespace Contest

/-- The extension of an RTP header. -/
structure RtpExtension where
  /-- The sixteen bits left to the profile. -/
  profile : UInt16
  /-- The words. -/
  words : List UInt32
  /-- Their number fits into its field. -/
  counted : words.length < 2 ^ 16

/-- The padding of an RTP packet, without its last byte. -/
structure RtpPadding where
  /-- The bytes that do not matter. -/
  filler : Bytes
  /-- The number of bytes fits into the last one. -/
  counted : filler.length < 255

/-- A well-formed RTP packet of version 2. -/
structure RtpDatagram where
  /-- The marker bit and the payload type. -/
  second : UInt8
  /-- The sequence number. -/
  sequenceNumber : UInt16
  /-- The timestamp. -/
  timestamp : UInt32
  /-- The source. -/
  source : UInt32
  /-- The contributing sources. -/
  contributors : List UInt32
  /-- Their number fits into its field. -/
  counted : contributors.length < 16
  /-- The extension of the header, if there is one. -/
  extension : Option RtpExtension
  /-- The payload. -/
  payload : Bytes
  /-- The padding, if there is any. -/
  padding : Option RtpPadding

/-- An extension counts its words. -/
def RtpExtension.bytes (extension : RtpExtension) : Bytes :=
  encodeUInt16 extension.profile ++ encodeUInt16 (UInt16.ofNat extension.words.length) ++
    extension.words.flatMap encodeUInt32

/-- Padding counts its bytes in the last one. -/
def RtpPadding.bytes (padding : RtpPadding) : Bytes :=
  padding.filler ++ [UInt8.ofNat (padding.filler.length + 1)]

namespace RtpDatagram

variable (datagram : RtpDatagram)

/-- The version, the two flags and the number of contributing sources. -/
def first : UInt8 :=
  0x80 ||| (if datagram.padding.isSome then 0x20 else 0) |||
    (if datagram.extension.isSome then 0x10 else 0) ||| UInt8.ofNat datagram.contributors.length

/-- What follows the fixed header. -/
def behindHeader : Bytes :=
  datagram.contributors.flatMap encodeUInt32 ++
    (datagram.extension.map RtpExtension.bytes).getD [] ++ datagram.payload ++
      (datagram.padding.map RtpPadding.bytes).getD []

/-- The packet as it is sent. -/
def bytes : Bytes :=
  datagram.first :: datagram.second :: (encodeUInt16 datagram.sequenceNumber ++
    (encodeUInt32 datagram.timestamp ++ encodeUInt32 datagram.source ++ datagram.behindHeader))

/-- Neither sources nor an extension nor padding stand around the payload. -/
structure Plain : Prop where
  /-- There are no contributing sources. -/
  contributors : datagram.contributors = []
  /-- There is no extension. -/
  extension : datagram.extension = none
  /-- There is no padding. -/
  padding : datagram.padding = none

/-- Nothing but the payload follows the fixed header of a plain packet, and of no other. -/
theorem behindHeader_eq_iff : datagram.behindHeader = datagram.payload ↔ datagram.Plain := by
  constructor
  · intro same
    have sizes := congrArg List.length same
    simp only [behindHeader, List.length_append] at sizes
    refine ⟨?_, ?_, ?_⟩
    · cases listed : datagram.contributors with
      | nil => rfl
      | cons contributor contributors =>
          simp only [listed, List.flatMap_cons, List.length_append, length_encodeUInt32] at sizes
          omega
    · cases given : datagram.extension with
      | none => rfl
      | some extension =>
          simp only [given, Option.map_some, Option.getD_some, RtpExtension.bytes,
            List.length_append, length_encodeUInt16] at sizes
          omega
    · cases given : datagram.padding with
      | none => rfl
      | some padding =>
          simp only [given, Option.map_some, Option.getD_some, RtpPadding.bytes,
            List.length_append, List.length_singleton] at sizes
          omega
  · rintro ⟨contributors, extension, padding⟩
    simp [behindHeader, contributors, extension, padding]

end RtpDatagram

namespace Transport

/-- The jitter buffer is fed, and its callback decodes what it pumps. -/
def feedJitter (decode : Bytes → Fallible (List Int16)) (transport : Transport) (seqNo : Int)
    (data : Bytes) : Fallible Unit × Transport :=
  match transport.jitterBuffer.feed data seqNo with
  | .error e => (.error e, transport)
  | .ok (jitterBuffer, pumped) =>
      let fed := { transport with jitterBuffer := jitterBuffer }
      match pumped with
      | none => (.ok (), fed)
      | some encoded => ((decode encoded).map fun _ => (), fed)

/-- `handle_rtp` feeds the jitter buffer of any transport with the given number and payload. -/
def Feeds (data : Bytes) (seqNo : Int) (payload : Bytes) : Prop :=
  ∀ decode transport, handleRtp decode transport data = feedJitter decode transport seqNo payload

theorem feeds_iff {data payload : Bytes} {seqNo : Int} :
    Feeds data seqNo payload ↔ parseRtp data = .ok (seqNo, payload) := by
  constructor
  · intro feeds
    -- a transport that still holds everything shows what it was fed with
    let transport := create .muLaw 0 (.ofDraw (RtpPort.drawAt 0))
    have space : transport.jitterBuffer.buffer.length < transport.jitterBuffer.room := by decide
    have same := feeds (fun _ => .ok []) transport
    cases parsed : parseRtp data with
    | error e => simp [handleRtp, feedJitter, parsed, JitterBuffer.feed_of_room space] at same
    | ok read =>
        obtain ⟨number, behind⟩ := read
        have held : [(number, behind)] = [(seqNo, payload)] := by
          simpa [handleRtp, feedJitter, parsed, JitterBuffer.feed_of_room space] using same
        rw [(List.cons.inj held).1]
  · intro parsed decode transport
    rw [handleRtp, parsed]
    rfl

theorem parseRtp_bytes (datagram : RtpDatagram) :
    parseRtp datagram.bytes = .ok (datagram.sequenceNumber.toNat, datagram.behindHeader) :=
  parseRtp_header datagram.first datagram.second datagram.sequenceNumber
    (by rw [List.length_append, length_encodeUInt32, length_encodeUInt32]) datagram.behindHeader

/-- The jitter buffer is fed with the sequence number of a well-formed packet and all that follows
the fixed header, which is the payload if and only if the packet is plain. -/
theorem feeds_bytes (datagram : RtpDatagram) :
    Feeds datagram.bytes datagram.sequenceNumber.toNat (datagram.bytes.drop 12) ∧
      (Feeds datagram.bytes datagram.sequenceNumber.toNat datagram.payload ↔ datagram.Plain) := by
  have parsed := parseRtp_bytes datagram
  have behind : datagram.bytes.drop 12 = datagram.behindHeader := rfl
  refine ⟨?_, ?_⟩
  · rw [behind]
    exact feeds_iff.mpr parsed
  · rw [feeds_iff, parsed, ← datagram.behindHeader_eq_iff]
    simp

/-- A packet with an extension of one word, as browsers send it. -/
def extendedDatagram : RtpDatagram where
  second := 0x65
  sequenceNumber := 7
  timestamp := 960
  source := 1
  contributors := []
  counted := by decide
  extension := some ⟨0xbede, [0x10ff0000], by decide⟩
  payload := [0xfc]
  padding := none

/-- The extension of a packet is taken for a part of its payload. -/
theorem extension_fed_as_payload :
    ¬∀ datagram : RtpDatagram,
      Feeds datagram.bytes datagram.sequenceNumber.toNat datagram.payload := by
  intro claimed
  have parsed := feeds_iff.mp (claimed extendedDatagram)
  rw [parseRtp_bytes] at parsed
  exact absurd parsed (by decide)

end Transport
end Contest
