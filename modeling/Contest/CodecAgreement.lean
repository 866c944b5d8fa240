import Contest.Sip.FailedInvite
import Contest.Transport.Sending

/-!
# Agreement on codecs

`handle_invite` takes the payload type of Opus from the offer, and `SDP::OkBody` writes 101 for
Opus and 0 for PCMU whatever the offer says.  The offer, the answer and the packets sent agree on
codecs exactly when the offer binds 101 to Opus and 0 to PCMU, and the number from which the packets
are stamped is 101 in its seven low bits.
-/

namespace Contest

open Contest.Graph Splitting

namespace Sdp

/-- The name of Opus in session descriptions. -/
def opus : Text := "opus/48000/2".toList

/-- The name of PCMU in session descriptions. -/
def pcmu : Text := "PCMU/8000".toList

/-- The payload types listed by the value of a media line. -/
def payloadTypes (media : Text) : List Text := (splitString " " media).drop 3

/-- An attribute binds the payload type to the codec. -/
def Binds (attributeLines : List Text) (payloadType : Int) (codec : Text) : Prop :=
  ∃ lines, Header.rtpMapLines attributeLines = .ok lines ∧ (payloadType, codec) ∈ lines

/-- The payload type that is bound to PCMU without an attribute. -/
def BindsStatically (payloadType : Int) (codec : Text) : Prop :=
  payloadType = 0 ∧ codec = pcmu

/-- The offer binds the payload type to the codec: by an attribute, or by listing a static payload
type that no attribute binds to anything else. -/
def Offers (offer : Header) (payloadType : Int) (codec : Text) : Prop :=
  Binds offer.sessionAttributes payloadType codec ∨
    BindsStatically payloadType codec ∧ intText payloadType ∈ payloadTypes offer.media ∧
      ∀ other, ¬Binds offer.sessionAttributes payloadType other

namespace OkBody

/-- The value of the media line. -/
def mediaValue (answer : OkBody) : Text := (answer.time.lookup "m".toList).getD []

/-- The values of the attribute lines. -/
def attributeValues (answer : OkBody) : List Text :=
  answer.media.map (List.drop 2)

end OkBody

/-- The answer binds only what the offer binds, and the packets sent are stamped with a payload
type that the answer binds to the codec in use. -/
structure CodecsAgree (offer : Header) (answer : OkBody) (transport : Transport) : Prop where
  /-- Every binding of a payload type listed is one of the offer. -/
  offered : ∀ payloadType codec, intText payloadType ∈ payloadTypes answer.mediaValue →
    Binds answer.attributeValues payloadType codec → Offers offer payloadType codec
  /-- The seven low bits of the second byte of a packet are bound to the codec. -/
  stamped : ∀ seqNo encoded, ∃ second,
    ({ transport with seqNo := seqNo }.packet encoded)[1]? = some second ∧
      Binds answer.attributeValues (second &&& 0x7f).toNat transport.encoder.encodingName

/-- The offer binds 101 to Opus, and its last number for Opus is 101 in the seven low bits. -/
def OffersOpusAs101 (offer : Header) : Prop :=
  Binds offer.sessionAttributes 101 opus ∧
    ∃ rtpMap number, offer.rtpMap = .ok rtpMap ∧ rtpMap.lookup opus = some number ∧
      number % 128 = 101

/-- The offer has both bindings of the answer, and the one for Opus counts. -/
structure OffersAsAnswered (offer : Header) : Prop where
  /-- Opus is under 101. -/
  opus : OffersOpusAs101 offer
  /-- PCMU is under 0. -/
  pcmu : Offers offer 0 pcmu

section Answer

variable (conf : Conf) (forWebsocket : Bool) (rtpPort : RtpPort)
  (serverUserfrag serverPassword sessionId : Text)

theorem payloadTypes_answer :
    payloadTypes (OkBody.new conf false rtpPort serverUserfrag serverPassword
      sessionId).mediaValue = ["101".toList, "0".toList] := by
  have digits : ' ' ∉ natText rtpPort.number := fun inside =>
    absurd (natText_isDigit inside) (by decide)
  have value : (OkBody.new conf false rtpPort serverUserfrag serverPassword
      sessionId).mediaValue = "audio".toList ++ ' ' :: (natText rtpPort.number ++
        ' ' :: "RTP/AVP 101 0".toList) := by
    have line : (OkBody.new conf false rtpPort serverUserfrag serverPassword
        sessionId).mediaValue = "audio ".toList ++ natText rtpPort.number ++
          " RTP/AVP 101 0".toList := rfl
    rw [line, List.append_assoc]
    rfl
  have profile : splitString " " "RTP/AVP 101 0".toList =
      ["RTP/AVP".toList, "101".toList, "0".toList] := by decide
  rw [payloadTypes, value, splitString_blank (by decide), splitString_blank digits, profile]
  rfl

theorem rtpMapLines_answer :
    Header.rtpMapLines (OkBody.new conf false rtpPort serverUserfrag serverPassword
      sessionId).attributeValues = .ok [(101, opus), (0, pcmu)] := by
  have values : (OkBody.new conf false rtpPort serverUserfrag serverPassword
      sessionId).attributeValues =
        ("rtcp:".toList ++ (natText (rtpPort.number + 1) ++ (" IN IP4 ".toList ++
          conf.serverIpAddress))) ::
        ["rtpmap:101 opus/48000/2".toList, "rtpmap:0 PCMU/8000".toList, "sendrecv".toList] := by
    simp [OkBody.new, OkBody.ofPort, OkBody.attributeValues]
  have rtcp : ∀ rest, Header.scanRtpMap ("rtcp:".toList ++ rest) = none := by
    simp [Header.scanRtpMap, Header.after?]
  have others : Header.rtpMapLines ["rtpmap:101 opus/48000/2".toList,
      "rtpmap:0 PCMU/8000".toList, "sendrecv".toList] =
        .ok [(101, opus), (0, pcmu)] := by decide
  rw [values, Header.rtpMapLines, rtcp]
  exact others

theorem binds_answer {payloadType : Int} {codec : Text} :
    Binds (OkBody.new conf false rtpPort serverUserfrag serverPassword sessionId).attributeValues
      payloadType codec ↔
        payloadType = 101 ∧ codec = opus ∨ BindsStatically payloadType codec := by
  rw [Binds, rtpMapLines_answer]
  simp [BindsStatically]

end Answer

/-- The last line for a codec gives its number. -/
theorem lookup_of_binds {offer : Header} {payloadType : Int} {codec : Text}
    (binds : Binds offer.sessionAttributes payloadType codec) :
    ∃ rtpMap number, offer.rtpMap = .ok rtpMap ∧ rtpMap.lookup codec = some number := by
  obtain ⟨lines, read, member⟩ := binds
  have present : (lines.reverse.map Prod.swap).lookup codec ≠ none := by
    rw [Ne, List.lookup_eq_none_iff]
    intro absent
    have differs := absent (codec, payloadType)
      (List.mem_map.mpr ⟨(payloadType, codec), List.mem_reverse.mpr member, rfl⟩)
    simp at differs
  obtain ⟨number, found⟩ := Option.ne_none_iff_exists'.mp present
  exact ⟨_, number, by simp [Header.rtpMap, read, bind, Except.bind, pure, Except.pure], found⟩

theorem binds_of_lookup {offer : Header} {rtpMap : List (Text × Int)} {codec : Text}
    {number : Int} (read : offer.rtpMap = .ok rtpMap) (found : rtpMap.lookup codec = some number) :
    Binds offer.sessionAttributes number codec := by
  obtain ⟨lines, read_lines, read⟩ := bind_eq_ok.mp read
  obtain rfl : _ = rtpMap := Except.ok.inj read
  refine ⟨lines, read_lines, ?_⟩
  obtain ⟨before, after, split_at, -⟩ := List.lookup_eq_some_iff.mp found
  have member : (codec, number) ∈ lines.reverse.map Prod.swap := by
    rw [split_at]
    simp
  obtain ⟨line, listed, swapped⟩ := List.mem_map.mp member
  obtain ⟨payloadType, name⟩ := line
  obtain ⟨rfl, rfl⟩ := Prod.mk.inj swapped
  exact List.mem_reverse.mp listed

end Sdp

namespace Transport

theorem toNat_and_127 (byte : UInt8) : (byte &&& 0x7f).toNat = byte.toNat % 128 := by
  rw [UInt8.toNat_and]
  exact Nat.and_two_pow_sub_one_eq_mod byte.toNat 7

/-- With or without the marker bit, a packet is stamped with the profile's low bits. -/
theorem packet_stamp (transport : Transport) (encoded : Bytes) :
    ∃ second, (transport.packet encoded)[1]? = some second ∧
      (second &&& 0x7f).toNat = (transport.mediaProfilePt % 128).toNat := by
  have low := (payloadType_byte transport.mediaProfilePt (transport.seqNo = 1)).2
  refine ⟨_, rfl, ?_⟩
  rw [toNat_and_127]
  omega

end Transport

namespace Sdp

/-- For a transport chosen from the offer, agreement is a matter of the offer alone. -/
theorem codecsAgree_iff_of_chosen {offer : Header} {rtpMap : List (Text × Int)}
    (read : offer.rtpMap = .ok rtpMap) {transport : Transport}
    (chosen : chooseCodec (rtpMap.lookup opus) = (transport.encoder, transport.mediaProfilePt))
    (conf : Conf) (rtpPort : RtpPort) (serverUserfrag serverPassword sessionId : Text) :
    CodecsAgree offer (OkBody.new conf false rtpPort serverUserfrag serverPassword sessionId)
      transport ↔ OffersAsAnswered offer := by
  have listed : ∀ payloadType ∈ [(101 : Int), 0], intText payloadType ∈ payloadTypes
      (OkBody.new conf false rtpPort serverUserfrag serverPassword sessionId).mediaValue := by
    rw [payloadTypes_answer]
    decide
  constructor
  · intro agree
    have bound : Binds offer.sessionAttributes 101 opus := by
      rcases agree.offered 101 opus (listed 101 (by decide))
        ((binds_answer ..).mpr (.inl ⟨rfl, rfl⟩)) with offered | ⟨⟨zero, -⟩, -⟩
      · exact offered
      · simp at zero
    have offered_pcmu : Offers offer 0 pcmu :=
      agree.offered 0 pcmu (listed 0 (by decide)) ((binds_answer ..).mpr (.inr ⟨rfl, rfl⟩))
    obtain ⟨other, number, read_other, found⟩ := lookup_of_binds bound
    obtain rfl : rtpMap = other := by simpa [read] using read_other
    refine ⟨⟨bound, rtpMap, number, read, found, ?_⟩, offered_pcmu⟩
    rw [found] at chosen
    obtain ⟨encoder, profile⟩ := Prod.mk.inj chosen
    obtain ⟨second, here, stamped⟩ := agree.stamped transport.seqNo []
    obtain ⟨byte, there, stamp⟩ := transport.packet_stamp []
    obtain rfl : second = byte := by simpa [there] using here.symm
    rw [stamp, ← encoder, ← profile] at stamped
    rcases (binds_answer ..).mp stamped with ⟨number_eq, -⟩ | ⟨-, pcmu⟩
    · omega
    · exact absurd pcmu (by decide)
  · rintro ⟨⟨bound, other, number, read_other, found, number_eq⟩, offered_pcmu⟩
    obtain rfl : rtpMap = other := by simpa [read] using read_other
    rw [found] at chosen
    obtain ⟨encoder, profile⟩ := Prod.mk.inj chosen
    refine ⟨?_, ?_⟩
    · intro payloadType codec _ binds
      rcases (binds_answer ..).mp binds with ⟨rfl, rfl⟩ | ⟨rfl, rfl⟩
      · exact .inl bound
      · exact offered_pcmu
    · intro seqNo encoded
      obtain ⟨second, here, stamp⟩ := { transport with seqNo := seqNo }.packet_stamp encoded
      refine ⟨second, here, ?_⟩
      rw [stamp, ← profile, ← encoder, number_eq]
      exact (binds_answer ..).mpr (.inl ⟨rfl, rfl⟩)

end Sdp

namespace Sip
namespace Session

/-- The datagram is an INVITE, its call is tracked, and 200 OK with a session description has been
sent for it. -/
structure Answers (conf : Conf) (start : Start) (speech : Speech) (delivered : Bool) (data : Text)
    (client : IPAddress) (tracker : Tracker) (msg : Msg) (call : Call) : Prop where
  /-- The message in the datagram. -/
  parsed : Msg.new data = .ok msg
  /-- It is an INVITE. -/
  command : msg.sipHeader.command = .ok "INVITE".toList
  /-- It has been handled, and among the responses sent is the one with a session description. -/
  handled : ∃ responses after responder,
    handleSipEvent conf start speech delivered data client tracker = (.handled responses, after) ∧
      after.objects = tracker.objects ++ [call] ∧ call.responder = some responder ∧
        responder.generate conf (call.okBody conf speech.sessionId) .okSdp ∈ responses

variable {conf : Conf} {start : Start} {speech : Speech} {delivered : Bool} {data : Text}
  {client : IPAddress} {tracker : Tracker} {msg : Msg} {call : Call}

/-- What waits for its prompt holds the transport chosen from the offer. -/
theorem chosen_of_awaiting {pending : Pending} {opened : Tracker}
    (awaits : beginInvite conf start msg client tracker = (.awaiting pending, opened)) :
    opened.objects = tracker.objects ∧ ∃ rtpMap, msg.sdpHeader.rtpMap = .ok rtpMap ∧
      chooseCodec (rtpMap.lookup Sdp.opus) =
        (pending.transport.encoder, pending.transport.mediaProfilePt) := by
  obtain ⟨chosen, same⟩ := chosen_of_beginInvite awaits
  obtain ⟨rtpMap, port, addr, read, created⟩ := chosen.transport
  refine ⟨same, rtpMap, read, ?_⟩
  rw [created]
  rfl

theorem Answers.chosen
    (answers : Answers conf start speech delivered data client tracker msg call) :
    ∃ rtpMap, msg.sdpHeader.rtpMap = .ok rtpMap ∧
      chooseCodec (rtpMap.lookup Sdp.opus) =
        (call.transport.encoder, call.transport.mediaProfilePt) := by
  obtain ⟨responses, after, responder, handled, objects, -, -⟩ := answers.handled
  rw [handleSipEvent, beginSipEvent_invite answers.parsed answers.command] at handled
  have grows : tracker.objects ≠ tracker.objects ++ [call] := by simp
  split at handled
  · rename_i pending opened awaits
    obtain ⟨same, rtpMap, read, chosen⟩ := chosen_of_awaiting awaits
    refine ⟨rtpMap, read, ?_⟩
    have finished : (finishInvite conf speech pending opened).2 = after := by
      split at handled <;> simp_all
    rcases finishInvite_cases conf speech pending opened with
      unchanged | ⟨other, -, created, added⟩
    · rw [unchanged] at finished
      rw [← finished, same] at objects
      exact absurd objects grows
    · rw [added] at finished
      rw [← finished, Tracker.add] at objects
      obtain rfl : other = call := by simpa [same] using objects
      rw [created.transport]
      exact chosen
  · rename_i settled
    have opens := opens_beginInvite conf start msg client tracker
    rw [handled] at opens
    cases opens with
    | refused => exact absurd objects grows

/-- The first datagram is answered with a session description. -/
def answersFirst (data : Text) : Bool :=
  match handleSipEvent sampleConf (sampleStart 0) sampleSpeech true data samplePeer .empty with
  | (.handled responses, ⟨[call], _, _⟩) =>
      call.responder.any fun responder =>
        responder.generate sampleConf (call.okBody sampleConf sampleSpeech.sessionId) .okSdp ∈
          responses
  | _ => false

theorem exists_answers {data : Text} {attributeLines listed : List Text}
    (parsed : ((Msg.new data).map fun msg => (msg.sipHeader.command,
      msg.sdpHeader.sessionAttributes, Sdp.payloadTypes msg.sdpHeader.media)) =
        .ok (.ok "INVITE".toList, attributeLines, listed))
    (answered : answersFirst data = true) :
    ∃ msg call, msg.sdpHeader.sessionAttributes = attributeLines ∧
      Sdp.payloadTypes msg.sdpHeader.media = listed ∧
      Answers sampleConf (sampleStart 0) sampleSpeech true data samplePeer .empty msg call := by
  cases read : Msg.new data with
  | error e => simp [read, Except.map] at parsed
  | ok msg =>
      obtain ⟨command, lines, types⟩ : msg.sipHeader.command = .ok "INVITE".toList ∧
          msg.sdpHeader.sessionAttributes = attributeLines ∧
            Sdp.payloadTypes msg.sdpHeader.media = listed := by
        simpa only [read, Except.map, Except.ok.injEq, Prod.mk.injEq] using parsed
      unfold answersFirst at answered
      split at answered
      · rename_i responses call calls ports handled
        obtain ⟨responder, given, sent⟩ := Option.any_eq_true _ _ |>.mp answered
        exact ⟨msg, call, lines, types, read, command, responses, _, responder, handled, rfl,
          given, of_decide_eq_true sent⟩
      · simp at answered

/-- An INVITE that offers Opus under 101, and PCMU under its static payload type. -/
def inviteWithBoth : Text :=
  sampleRequest "INVITE" "k1" ++
    "\r\n\r\nm=audio 4000 RTP/AVP 101 0\r\na=rtpmap:101 opus/48000/2\r\n".toList

/-- An INVITE that offers PCMU only. -/
def inviteWithPcmu : Text :=
  sampleRequest "INVITE" "k1" ++ "\r\n\r\nm=audio 4000 RTP/AVP 0\r\n".toList

end Session
end Sip
end Contest
