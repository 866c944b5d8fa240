import Contest.Answered
import Contest.CodecAgreement
import Contest.Sdp.RtpMap

/-!
# The payload type on the wire

The number that an offer gives to Opus is read as a signed number of 32 bits, carried through two
constructors and cut down to a byte that it shares with the marker bit.  It arrives on the wire when
it fits into seven bits, and the marker bit is set once more whenever the counter comes around.
-/

namespace Contest

open Contest.Graph

namespace Transport

/-- Every packet is stamped with the number, and only the first may have the marker bit. -/
def StampedWith (number : Nat) (sent : List (Option Bytes)) : Prop :=
  ∀ (n : Nat) (packet : Bytes), sent[n]? = some (some packet) →
    ∃ second, packet[1]? = some second ∧ second.toNat % 128 = number ∧
      (128 ≤ second.toNat → ∀ m < n, sent[m]? = some none)

theorem Sender.getElem?_run_eq_some_none {sender : Sender} {operations : List Operation} {n : Nat} :
    (sender.run operations)[n]? = some none ↔ operations[n]? = some .observeSilence := by
  refine ⟨fun silent => ?_, getElem?_run_eq_none⟩
  rw [getElem?_run] at silent
  obtain ⟨operation, here, nothing⟩ := Option.map_eq_some_iff.mp silent
  cases operation with
  | sendAudio audio => simp [perform] at nothing
  | observeSilence => exact here

theorem Sender.sendAudio_of_getElem?_run {sender : Sender} {operations : List Operation} {n : Nat}
    {packet : Bytes} (sent : (sender.run operations)[n]? = some (some packet)) :
    ∃ audio, operations[n]? = some (.sendAudio audio) := by
  rw [getElem?_run] at sent
  obtain ⟨operation, here, packed⟩ := Option.map_eq_some_iff.mp sent
  cases operation with
  | sendAudio audio => exact ⟨audio, here⟩
  | observeSilence => simp [perform] at packed

/-- The stamp of a packet: its low bits, and when its top bit is set. -/
theorem stamp_formRtp (number n : Nat) (samplesPerFrame : BitVec 32) (payload : Bytes) :
    ∃ second, (formRtp number samplesPerFrame (BitVec.ofNat 32 (n + 1)) payload)[1]? = some second ∧
      second.toNat % 128 = number % 128 ∧
      (128 ≤ second.toNat ↔ n % 2 ^ 32 = 0 ∨ 128 ≤ number % 256) := by
  obtain ⟨marked, low⟩ := payloadType_byte number (BitVec.ofNat 32 (n + 1) = 1)
  refine ⟨_, rfl, by exact_mod_cast low, marked.trans ?_⟩
  rw [ofNat_eq_one_iff]
  omega

/-- The packets of a new transport have the number in front if it fits into seven bits and if the
counter has not come around. -/
theorem stampedWith_iff (encode : List Int16 → Bytes) (samplesPerFrame : BitVec 32) (number : Nat)
    (operations : List Operation) :
    StampedWith number ((Sender.new encode samplesPerFrame number).run operations) ↔
      ∀ n audio, operations[n]? = some (.sendAudio audio) →
        number ≤ 127 ∧
          (n % 2 ^ 32 = 0 → ∀ m < n, operations[m]? = some .observeSilence) := by
  constructor
  · intro stamped n audio sends
    have sent := Sender.getElem?_run_new encode samplesPerFrame number sends
    obtain ⟨second, here, low, first⟩ := stamped n _ sent
    obtain ⟨byte, there, low_eq, marked⟩ := stamp_formRtp number n samplesPerFrame (encode audio)
    obtain rfl : second = byte := by simpa [there] using here.symm
    refine ⟨by omega, fun around m before => ?_⟩
    exact Sender.getElem?_run_eq_some_none.mp (first (marked.mpr (.inl around)) m before)
  · intro condition n packet sent
    obtain ⟨audio, sends⟩ := Sender.sendAudio_of_getElem?_run sent
    obtain ⟨small, first⟩ := condition n audio sends
    rw [Sender.getElem?_run_new encode samplesPerFrame number sends] at sent
    obtain rfl := Option.some.inj (Option.some.inj sent)
    obtain ⟨second, here, low, marked⟩ := stamp_formRtp number n samplesPerFrame (encode audio)
    refine ⟨second, here, by omega, fun top m before => ?_⟩
    have around : n % 2 ^ 32 = 0 := by
      rcases marked.mp top with around | large
      · exact around
      · omega
    exact Sender.getElem?_run_eq_some_none.mpr (first around m before)

end Transport

/-- The transport of an answered INVITE sends with the number that the one line for Opus gives. -/
theorem Answered.sender_eq {conf : Conf} {data : Text} {call : Call} {responses : List Text}
    (answered : Answered conf data call responses) {msg : Sip.Msg}
    (parsed : Sip.Msg.new data = .ok msg) {id : Text}
    (single : Sdp.Header.numbersFor Sdp.opus msg.sdpHeader.sessionAttributes = [id])
    (encode : List Int16 → Bytes) :
    call.transport.sender encode =
      .new encode Codec.opus.samplesPerFrame (digitsValue id : Nat) := by
  obtain ⟨other, pending, tag, responder, parsed_other, -, chosen, flurried⟩ :=
    answered.exists_flurry
  obtain rfl : msg = other := by simpa [parsed] using parsed_other
  obtain ⟨rtpMap, port, addr, read, created⟩ := chosen.transport
  have found : rtpMap.lookup "opus/48000/2".toList = some (digitsValue id : Int) := by
    have last := Sdp.Header.lookup_rtpMap read Sdp.opus
    rw [Sdp.Header.numberOf, single] at last
    exact last
  rw [flurried.transport, created, found]
  exact Transport.sender_create .opus _ port encode

/-- The number that the offer gives to Opus is on every packet if and only if it fits into seven
bits, and the marker bit is left to the first packet as long as the counter does not come around. -/
theorem negotiated_on_wire_iff {conf : Conf} {data : Text} {call : Call} {responses : List Text}
    (answered : Answered conf data call responses) {msg : Sip.Msg}
    (parsed : Sip.Msg.new data = .ok msg) {id : Text}
    (single : Sdp.Header.numbersFor Sdp.opus msg.sdpHeader.sessionAttributes = [id])
    (encode : List Int16 → Bytes) (operations : List Transport.Operation) :
    Transport.StampedWith (digitsValue id) ((call.transport.sender encode).run operations) ↔
      ∀ n audio, operations[n]? = some (.sendAudio audio) →
        digitsValue id ≤ 127 ∧
          (n % 2 ^ 32 = 0 → ∀ m < n, operations[m]? = some .observeSilence) := by
  rw [answered.sender_eq parsed single]
  exact Transport.stampedWith_iff encode _ _ operations

/-- An INVITE that gives the number 200 to Opus. -/
def inviteWith200 : Text :=
  sampleRequest "INVITE" "k1" ++
    "\r\n\r\nm=audio 4000 RTP/AVP 200\r\na=rtpmap:200 opus/48000/2\r\n".toList

theorem exists_answered_inviteWith200 :
    ∃ msg call responses, Answered sampleConf inviteWith200 call responses ∧
      Sip.Msg.new inviteWith200 = .ok msg ∧
      Sdp.Header.numbersFor Sdp.opus msg.sdpHeader.sessionAttributes = ["200".toList] := by
  obtain ⟨call, responses, answered⟩ :=
    @exists_answered_of_isSome inviteWith200 (by decide +kernel)
  obtain ⟨msg, pending, tag, responder, parsed, -⟩ := answered.exists_flurry
  have numbers : (Sip.Msg.new inviteWith200).toOption.map (fun msg =>
      Sdp.Header.numbersFor Sdp.opus msg.sdpHeader.sessionAttributes) = some ["200".toList] := by
    decide +kernel
  refine ⟨msg, call, responses, answered, parsed, ?_⟩
  simpa [parsed, Except.toOption] using numbers

/-- Two frames, of which the first passes. -/
def sampleOperations : List Transport.Operation := [.observeSilence, .sendAudio []]

theorem negotiated_on_wire_iff_sample :
    ∃ call responses, Answered sampleConf inviteWith200 call responses ∧
      (Transport.StampedWith (digitsValue "200".toList)
          ((call.transport.sender fun _ => []).run sampleOperations) ↔
        ∀ n audio, sampleOperations[n]? = some (.sendAudio audio) →
          digitsValue "200".toList ≤ 127 ∧
            (n % 2 ^ 32 = 0 → ∀ m < n, sampleOperations[m]? = some .observeSilence)) := by
  obtain ⟨msg, call, responses, answered, parsed, single⟩ := exists_answered_inviteWith200
  exact ⟨call, responses, answered, negotiated_on_wire_iff answered parsed single _ _⟩

/-- Packets for the number 200 are stamped with 72 and the marker bit. -/
theorem number_200_cut_down :
    ¬∀ conf data call responses, Answered conf data call responses →
      ∀ msg id, Sip.Msg.new data = .ok msg →
        Sdp.Header.numbersFor Sdp.opus msg.sdpHeader.sessionAttributes = [id] →
          ∀ encode operations,
            Transport.StampedWith (digitsValue id)
              ((call.transport.sender encode).run operations) := by
  intro claimed
  obtain ⟨msg, call, responses, answered, parsed, single⟩ := exists_answered_inviteWith200
  have stamped := claimed _ _ _ _ answered msg _ parsed single (fun _ => []) [.sendAudio []]
  rw [answered.sender_eq parsed single] at stamped
  obtain ⟨small, -⟩ := (Transport.stampedWith_iff ..).mp stamped 0 [] rfl
  exact absurd small (by decide)

end Contest
