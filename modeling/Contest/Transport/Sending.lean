import Contest.Transport.Generic

/-!
# The packets sent

One counter of 32 bits is behind the sequence number, the timestamp and the marker bit of the
packets that a transport sends.  Every operation advances it by one, and it may wrap around as often
as it will: the bytes of the header are cut out of it by masks and shifts, also out of a negative
number.
-/

namespace Contest

/-- An RTP packet, save for its source. -/
structure RtpPacket where
  /-- The version of the protocol. -/
  version : Nat
  /-- The marker bit. -/
  marker : Bool
  /-- The payload type. -/
  payloadType : Nat
  /-- The sequence number. -/
  sequenceNumber : Nat
  /-- The timestamp. -/
  timestamp : Nat
  /-- The payload. -/
  payload : Bytes
deriving DecidableEq, Repr

/-- Read a packet that has neither padding nor an extension nor contributing sources. -/
def RtpPacket.decode : Bytes → Option RtpPacket
  | b₀ :: b₁ :: b₂ :: b₃ :: b₄ :: b₅ :: b₆ :: b₇ :: _ :: _ :: _ :: _ :: payload =>
      if b₀.toNat % 64 = 0 then
        some {
          version := b₀.toNat / 64
          marker := 128 ≤ b₁.toNat
          payloadType := b₁.toNat % 128
          sequenceNumber := b₂.toNat * 256 + b₃.toNat
          timestamp := ((b₄.toNat * 256 + b₅.toNat) * 256 + b₆.toNat) * 256 + b₇.toNat
          payload := payload }
      else none
  | _ => none

namespace Transport

/-- A byte that is masked out and then shifted down, even from a negative number. -/
theorem toNat_lowByte {mask : BitVec 32} {shift : Nat} (inside : shift ≤ 24)
    (covers : ∀ i < 8, mask.getLsbD (shift + i) = true) (value : BitVec 32) :
    (lowByte ((value &&& mask).sshiftRight shift)).toNat = value.toNat / 2 ^ shift % 256 := by
  have same : ((value &&& mask).sshiftRight shift).setWidth 8 = (value >>> shift).setWidth 8 := by
    apply BitVec.eq_of_getLsbD_eq
    intro i small
    have low : shift + i < 32 := by omega
    have word : ¬32 ≤ i := by omega
    simp only [BitVec.getLsbD_setWidth, BitVec.getLsbD_sshiftRight, BitVec.getLsbD_and,
      BitVec.getLsbD_ushiftRight, covers i small, word, low, if_pos, decide_false, Bool.not_false,
      Bool.true_and, Bool.and_true]
  rw [lowByte, same, UInt8.toNat_ofBitVec, BitVec.toNat_setWidth, BitVec.toNat_ushiftRight,
    Nat.shiftRight_eq_div_pow]

/-- The bytes of the sequence number and of the timestamp. -/
theorem toNat_headerBytes (value : BitVec 32) :
    (lowByte ((value &&& 0xff00).sshiftRight 8)).toNat = value.toNat / 256 % 256 ∧
      (lowByte (value &&& 0x00ff)).toNat = value.toNat % 256 ∧
      (lowByte ((value &&& 0xff000000).sshiftRight 24)).toNat = value.toNat / 16777216 % 256 ∧
      (lowByte ((value &&& 0x00ff0000).sshiftRight 16)).toNat = value.toNat / 65536 % 256 := by
  have lowest := @toNat_lowByte 0x00ff 0 (by omega) (by decide) value
  rw [BitVec.sshiftRight_zero, Nat.pow_zero, Nat.div_one] at lowest
  exact ⟨toNat_lowByte (by omega) (by decide) value, lowest,
    toNat_lowByte (by omega) (by decide) value, toNat_lowByte (by omega) (by decide) value⟩

/-- The marker bit and the payload type share a byte. -/
theorem payloadType_byte (mediaProfilePt : Int) (first : Prop) [Decidable first] :
    let second := if first then UInt8.ofInt mediaProfilePt ||| 0x80 else UInt8.ofInt mediaProfilePt
    (128 ≤ second.toNat ↔ first ∨ 128 ≤ mediaProfilePt % 256) ∧
      (second.toNat % 128 : Int) = mediaProfilePt % 128 := by
  have plain : ((UInt8.ofInt mediaProfilePt).toNat : Int) = mediaProfilePt % 256 := by
    rw [UInt8.ofInt, UInt8.toNat_ofNat']
    omega
  intro second
  by_cases first_packet : first
  · have marked : (UInt8.ofInt mediaProfilePt ||| 0x80).toNat =
        (UInt8.ofInt mediaProfilePt).toNat ||| 128 := UInt8.toNat_or _ _
    have high : 128 ≤ (UInt8.ofInt mediaProfilePt).toNat ||| 128 := Nat.right_le_or
    have low : ((UInt8.ofInt mediaProfilePt).toNat ||| 128) % 2 ^ 7 =
        (UInt8.ofInt mediaProfilePt).toNat % 2 ^ 7 := by
      rw [Nat.or_mod_two_pow]
      exact Nat.or_zero _
    have second_eq : second = UInt8.ofInt mediaProfilePt ||| 0x80 := if_pos first_packet
    rw [second_eq, marked]
    exact ⟨iff_of_true high (.inl first_packet), by omega⟩
  · have second_eq : second = UInt8.ofInt mediaProfilePt := if_neg first_packet
    rw [second_eq, or_iff_right first_packet]
    omega

/-- The packet that is formed is read back. -/
theorem decode_formRtp (mediaProfilePt : Int) (samplesPerFrame seqNo : BitVec 32)
    (payload : Bytes) :
    ∃ packet, RtpPacket.decode (formRtp mediaProfilePt samplesPerFrame seqNo payload) =
        some packet ∧ packet.version = 2 ∧
      (packet.marker = true ↔ seqNo = 1 ∨ 128 ≤ mediaProfilePt % 256) ∧
      (packet.payloadType : Int) = mediaProfilePt % 128 ∧
      packet.sequenceNumber = seqNo.toNat % 2 ^ 16 ∧
      packet.timestamp = (seqNo * samplesPerFrame).toNat ∧ packet.payload = payload := by
  obtain ⟨marked, kind⟩ := payloadType_byte mediaProfilePt (seqNo = 1)
  obtain ⟨seq_high, seq_low, -, -⟩ := toNat_headerBytes seqNo
  obtain ⟨low_mid, lowest, highest, high_mid⟩ := toNat_headerBytes (seqNo * samplesPerFrame)
  have bound := (seqNo * samplesPerFrame).isLt
  refine ⟨_, rfl, rfl, ?_, ?_, ?_, ?_, rfl⟩
  · rw [decide_eq_true_iff]
    exact marked
  · exact_mod_cast kind
  · simp only [seq_high, seq_low]
    omega
  · simp only [low_mid, lowest, highest, high_mid]
    omega

/-- The sequence number of a packet is written as a word of two bytes. -/
theorem sequenceBytes_eq (seqNo : BitVec 32) :
    [lowByte ((seqNo &&& 0xff00).sshiftRight 8), lowByte (seqNo &&& 0x00ff)] =
      encodeUInt16 (UInt16.ofNat seqNo.toNat) := by
  obtain ⟨high, low, -, -⟩ := toNat_headerBytes seqNo
  have same_high : lowByte ((seqNo &&& 0xff00).sshiftRight 8) =
      UInt8.ofNat ((UInt16.ofNat seqNo.toNat).toNat / 256) := by
    apply UInt8.toNat_inj.mp
    rw [high, UInt8.toNat_ofNat', UInt16.toNat_ofNat']
    omega
  have same_low : lowByte (seqNo &&& 0x00ff) =
      UInt8.ofNat (UInt16.ofNat seqNo.toNat).toNat := by
    apply UInt8.toNat_inj.mp
    rw [low, UInt8.toNat_ofNat', UInt16.toNat_ofNat']
    omega
  rw [encodeUInt16, same_high, same_low]

/-- The packet that is formed is taken apart by the receiver. -/
theorem parseRtp_formRtp (mediaProfilePt : Int) (samplesPerFrame seqNo : BitVec 32)
    (payload : Bytes) :
    parseRtp (formRtp mediaProfilePt samplesPerFrame seqNo payload) =
      .ok (((seqNo.toNat % 2 ^ 16 : Nat) : Int), payload) := by
  obtain ⟨second, others, eight, formed⟩ : ∃ (second : UInt8) (others : Bytes),
      others.length = 8 ∧ formRtp mediaProfilePt samplesPerFrame seqNo payload =
        0x80 :: second :: ([lowByte ((seqNo &&& 0xff00).sshiftRight 8),
          lowByte (seqNo &&& 0x00ff)] ++ (others ++ payload)) :=
    ⟨_, [_, _, _, _, _, _, _, _], rfl, rfl⟩
  rw [formed, sequenceBytes_eq, parseRtp_header _ _ _ eight, UInt16.toNat_ofNat']

/-- What a transport sends with, for any codec. -/
structure Sender where
  /-- `encode` of the codec. -/
  encode : List Int16 → Bytes
  /-- `samples_per_frame` of the codec. -/
  samplesPerFrame : BitVec 32
  /-- The RTP payload type. -/
  mediaProfilePt : Int
  /-- The counter. -/
  seqNo : BitVec 32

/-- What the timer of a call makes its transport do. -/
inductive Operation
  /-- Send a frame. -/
  | sendAudio (audio : List Int16)
  /-- Let a frame pass. -/
  | observeSilence
deriving DecidableEq, Repr

namespace Sender

/-- The sender of a new transport. -/
def new (encode : List Int16 → Bytes) (samplesPerFrame : BitVec 32) (mediaProfilePt : Int) :
    Sender where
  encode := encode
  samplesPerFrame := samplesPerFrame
  mediaProfilePt := mediaProfilePt
  seqNo := 0

/-- `inc_seq_no`. -/
def incSeqNo (sender : Sender) : Sender := { sender with seqNo := sender.seqNo + 1 }

/-- `encode_and_rtp`. -/
def encodeAndRtp (sender : Sender) (audio : List Int16) : Bytes :=
  formRtp sender.mediaProfilePt sender.samplesPerFrame sender.seqNo (sender.encode audio)

/-- `send_audio` and `observe_silence`, with the packet that goes out. -/
def perform (sender : Sender) : Operation → Sender × Option Bytes
  | .sendAudio audio => (sender.incSeqNo, some (sender.incSeqNo.encodeAndRtp audio))
  | .observeSilence => (sender.incSeqNo, none)

/-- What goes out in each of the operations. -/
def run (sender : Sender) : List Operation → List (Option Bytes)
  | [] => []
  | operation :: operations =>
      (sender.perform operation).2 :: (sender.perform operation).1.run operations

end Sender

/-- The sending part of a transport. -/
def sender (transport : Transport) (encode : List Int16 → Bytes) : Sender where
  encode := encode
  samplesPerFrame := transport.encoder.samplesPerFrame
  mediaProfilePt := transport.mediaProfilePt
  seqNo := transport.seqNo

theorem sender_create (encoder : Codec) (mediaProfilePt : Int) (rtpPort : RtpPort)
    (encode : List Int16 → Bytes) :
    (create encoder mediaProfilePt rtpPort).sender encode =
      .new encode encoder.samplesPerFrame mediaProfilePt := rfl

namespace Sender

/-- The counter has been advanced once for each operation. -/
theorem getElem?_run (sender : Sender) (operations : List Operation) (n : Nat) :
    (sender.run operations)[n]? = operations[n]?.map fun operation =>
      (perform { sender with seqNo := sender.seqNo + BitVec.ofNat 32 n } operation).2 := by
  induction operations generalizing sender n with
  | nil => simp [run]
  | cons operation operations ih =>
      cases n with
      | zero => simp [run]
      | succ n =>
          have advanced : (sender.perform operation).1 = sender.incSeqNo := by
            cases operation <;> rfl
          have counter : sender.seqNo + 1 + BitVec.ofNat 32 n =
              sender.seqNo + BitVec.ofNat 32 (n + 1) := by
            rw [BitVec.ofNat_add, BitVec.add_assoc, BitVec.add_comm (BitVec.ofNat 32 n)]
            rfl
          rw [run, List.getElem?_cons_succ, advanced, ih, List.getElem?_cons_succ]
          simp only [incSeqNo, counter]

theorem getElem?_run_eq_none {sender : Sender} {operations : List Operation} {n : Nat}
    (silent : operations[n]? = some .observeSilence) : (sender.run operations)[n]? = some none := by
  rw [getElem?_run, silent]
  rfl

/-- The packet that goes out in an operation of a new transport. -/
theorem getElem?_run_new (encode : List Int16 → Bytes) (samplesPerFrame : BitVec 32)
    (mediaProfilePt : Int) {operations : List Operation} {n : Nat} {audio : List Int16}
    (sends : operations[n]? = some (.sendAudio audio)) :
    ((new encode samplesPerFrame mediaProfilePt).run operations)[n]? =
      some (some (formRtp mediaProfilePt samplesPerFrame (BitVec.ofNat 32 (n + 1))
        (encode audio))) := by
  have counter : (0 : BitVec 32) + BitVec.ofNat 32 n + 1 = BitVec.ofNat 32 (n + 1) := by
    simp [BitVec.ofNat_add]
  rw [getElem?_run, sends, ← counter]
  rfl

end Sender

/-- A packet carries the audio of the operation with the given number. -/
structure Carries (sender : Sender) (number : Nat) (audio : List Int16) (packet : Bytes)
    (wire : RtpPacket) : Prop where
  /-- It is read as an RTP packet. -/
  decoded : RtpPacket.decode packet = some wire
  /-- It has version 2. -/
  version : wire.version = 2
  /-- It has the payload type of the session. -/
  payloadType : (wire.payloadType : Int) = sender.mediaProfilePt
  /-- The sequence number counts the operations. -/
  sequenceNumber : wire.sequenceNumber = number % 2 ^ 16
  /-- The timestamp counts the samples. -/
  timestamp : (wire.timestamp : Int) = number * sender.samplesPerFrame.toInt % 2 ^ 32
  /-- The marker bit is on the packet of the first operation. -/
  marker : wire.marker = true ↔ number % 2 ^ 32 = 1
  /-- It has what the codec encoded. -/
  payload : wire.payload = sender.encode audio
  /-- A receiver feeds its jitter buffer with it. -/
  fed : ∀ decode transport, ∃ fed,
    JitterBuffer.feed (jitterBuffer transport) (sender.encode audio)
      ((number % 2 ^ 16 : Nat) : Int) = .ok fed ∧
        (handleRtp decode transport packet).2.jitterBuffer = fed.1

theorem timestamp_eq (number : Nat) (samplesPerFrame : BitVec 32) :
    ((BitVec.ofNat 32 number * samplesPerFrame).toNat : Int) =
      number * samplesPerFrame.toInt % 2 ^ 32 := by
  have unsigned : ((BitVec.ofNat 32 number * samplesPerFrame).toNat : Int) =
      (number * samplesPerFrame.toNat : Int) % 2 ^ 32 := by
    rw [BitVec.toNat_mul, BitVec.toNat_ofNat, Nat.mod_mul_mod]
    push_cast
    rfl
  rw [unsigned, BitVec.toInt_eq_toNat_cond]
  split
  · rfl
  · have expanded : (number : Int) * (samplesPerFrame.toNat - (2 ^ 32 : Nat)) =
        number * samplesPerFrame.toNat - number * 2 ^ 32 := by
      push_cast
      ring
    rw [expanded]
    exact (Int.sub_mul_emod_self_right _ _ _).symm

/-- The counter is one in the first operation, and whenever it comes around. -/
theorem ofNat_eq_one_iff (number : Nat) : BitVec.ofNat 32 number = 1 ↔ number % 2 ^ 32 = 1 := by
  rw [← BitVec.toNat_inj, BitVec.toNat_ofNat]
  rfl

/-- Every packet that goes out carries its audio, however often the counter has wrapped around. -/
theorem carries_of_sendAudio (encode : List Int16 → Bytes) (samplesPerFrame : BitVec 32)
    {mediaProfilePt : Int} (lower : 0 ≤ mediaProfilePt) (upper : mediaProfilePt ≤ 127)
    {operations : List Operation} {n : Nat} {audio : List Int16}
    (sends : operations[n]? = some (.sendAudio audio)) :
    ∃ packet wire,
      ((Sender.new encode samplesPerFrame mediaProfilePt).run operations)[n]? =
        some (some packet) ∧
      Carries (Sender.new encode samplesPerFrame mediaProfilePt) (n + 1) audio packet wire := by
  obtain ⟨wire, decoded, version, marked, kind, number, clock, payload⟩ :=
    decode_formRtp mediaProfilePt samplesPerFrame (BitVec.ofNat 32 (n + 1)) (encode audio)
  have counted : (BitVec.ofNat 32 (n + 1)).toNat % 2 ^ 16 = (n + 1) % 2 ^ 16 := by
    rw [BitVec.toNat_ofNat]
    omega
  refine ⟨_, wire, Sender.getElem?_run_new encode samplesPerFrame mediaProfilePt sends, ?_⟩
  exact {
    decoded := decoded
    version := version
    payloadType := by
      rw [kind]
      exact Int.emod_eq_of_lt lower (by omega)
    sequenceNumber := number.trans counted
    timestamp := by
      rw [clock]
      exact timestamp_eq (n + 1) samplesPerFrame
    marker := by
      rw [marked, ofNat_eq_one_iff]
      omega
    payload := payload
    fed := by
      intro decode transport
      obtain ⟨⟨jitterBuffer, pumped⟩, fed⟩ := transport.jitterBuffer.feed_ok (encode audio)
        (((n + 1) % 2 ^ 16 : Nat) : Int)
      refine ⟨_, fed, ?_⟩
      rw [handleRtp, parseRtp_formRtp, counted]
      simp only [fed]
      cases pumped <;> rfl }

theorem carries_of_sendAudio_sample :
    ∃ packet wire,
      ((Sender.new (fun _ => [0xff]) 160 0).run [.observeSilence, .sendAudio []])[1]? =
        some (some packet) ∧ Carries (Sender.new (fun _ => [0xff]) 160 0) 2 [] packet wire :=
  carries_of_sendAudio (fun _ => [0xff]) 160 (by decide) (by decide) rfl

end Transport
end Contest
