import Contest.CodecAgreement
import Contest.Controllers.WebSocketServer

/-!
# Negotiation over UDP and over WebSockets

The selection of a codec is written twice.  Both versions read the number of the last rtpmap line
for Opus, and both have PCMU under 0 as their other choice.  `Session` looks the number up with
`[]?`; `WebSocketServer` looks it up with `[]`, which raises before the other choice is reached.
-/

namespace Contest

open Contest.Graph

namespace WebSocketServer

theorem opusPort_of_lookup {msg : Sip.Msg} {rtpMap : List (Text × Int)}
    (read : msg.sdpHeader.rtpMap = .ok rtpMap) :
    opusPort msg =
      match rtpMap.lookup Sdp.opus with
      | some port => .ok port
      | none => .error (.keyError Sdp.opus) := by
  rw [opusPort, read]
  rfl

end WebSocketServer

namespace Sdp

/-- The offer lists a codec, on an rtpmap line or under its static payload type. -/
def Lists (offer : Header) (codec : Text) : Prop :=
  ∃ payloadType, Binds offer.sessionAttributes payloadType codec ∨
    BindsStatically payloadType codec ∧ intText payloadType ∈ payloadTypes offer.media

/-- An offer of PCMU, Opus or both, all of whose numbers are payload types. -/
structure Negotiable (offer : Header) : Prop where
  /-- One of the two codecs is offered. -/
  listed : Lists offer pcmu ∨ Lists offer opus
  /-- The rtpmap lines can be read, and their numbers have seven bits. -/
  numbered : ∃ lines, Header.rtpMapLines offer.sessionAttributes = .ok lines ∧
    ∀ payloadType codec, (payloadType, codec) ∈ lines → 0 ≤ payloadType ∧ payloadType ≤ 127

end Sdp

/-- Both versions of `handle_invite` select the same codec under the same payload type, and
neither raises. -/
def NegotiatesAlike (msg : Sip.Msg) : Prop :=
  ∃ codec payloadType, Sip.Session.selectCodec msg = .ok (codec, payloadType) ∧
    WebSocketServer.selectCodec msg = .ok (codec, payloadType)

section Selection

variable {msg : Sip.Msg} {rtpMap : List (Text × Int)}

/-- With a number for Opus, both select it. -/
theorem selectCodec_of_opus {number : Int} (read : msg.sdpHeader.rtpMap = .ok rtpMap)
    (found : rtpMap.lookup Sdp.opus = some number) :
    Sip.Session.selectCodec msg = .ok (.opus, number) ∧
      WebSocketServer.selectCodec msg = .ok (.opus, number) := by
  constructor
  · rw [Sip.Session.selectCodec_of_rtpMap read]
    exact congrArg (fun port => Except.ok (chooseCodec port)) found
  · rw [WebSocketServer.selectCodec, WebSocketServer.opusPort_of_lookup read, found]
    rfl

/-- Without one, `Session` selects PCMU and `WebSocketServer` raises. -/
theorem selectCodec_of_not_opus (read : msg.sdpHeader.rtpMap = .ok rtpMap)
    (absent : rtpMap.lookup Sdp.opus = none) :
    Sip.Session.selectCodec msg = .ok (.muLaw, 0) ∧
      WebSocketServer.selectCodec msg = .error (.keyError Sdp.opus) := by
  constructor
  · rw [Sip.Session.selectCodec_of_rtpMap read]
    exact congrArg (fun port => Except.ok (chooseCodec port)) absent
  · rw [WebSocketServer.selectCodec, WebSocketServer.opusPort_of_lookup read, absent]
    rfl

end Selection

/-- The two selections agree, and neither raises, if and only if Opus is on an rtpmap line. -/
theorem negotiatesAlike_iff (msg : Sip.Msg) :
    NegotiatesAlike msg ↔
      ∃ number, Sdp.Binds msg.sdpHeader.sessionAttributes number Sdp.opus := by
  constructor
  · rintro ⟨codec, payloadType, -, webSocket⟩
    obtain ⟨number, listed, -⟩ := bind_eq_ok.mp webSocket
    obtain ⟨rtpMap, read, found⟩ := WebSocketServer.opusPort_eq_ok listed
    exact ⟨number, Sdp.binds_of_lookup read found⟩
  · rintro ⟨number, binds⟩
    obtain ⟨rtpMap, last, read, found⟩ := Sdp.lookup_of_binds binds
    exact ⟨.opus, last, selectCodec_of_opus read found⟩

/-- An offer of PCMU alone is negotiated over UDP and raises over a WebSocket. -/
theorem pcmu_offer_negotiated_apart :
    ¬∀ message msg, Sip.Msg.new message = .ok msg → Sdp.Negotiable msg.sdpHeader →
      NegotiatesAlike msg := by
  intro claimed
  have offered : (Sip.Msg.new Sip.Session.inviteWithPcmu).map (fun msg =>
      (msg.sdpHeader.sessionAttributes, Sdp.payloadTypes msg.sdpHeader.media)) =
        .ok ([], ["0".toList]) := by decide +kernel
  obtain ⟨msg, parsed, attributeLines, payloadTypes⟩ :
      ∃ msg, Sip.Msg.new Sip.Session.inviteWithPcmu = .ok msg ∧
        msg.sdpHeader.sessionAttributes = [] ∧
          Sdp.payloadTypes msg.sdpHeader.media = ["0".toList] := by
    cases read : Sip.Msg.new Sip.Session.inviteWithPcmu with
    | error e =>
        rw [read] at offered
        simp [Except.map] at offered
    | ok msg =>
        rw [read] at offered
        exact ⟨msg, rfl, Prod.mk.inj (Except.ok.inj offered)⟩
  have unmapped : msg.sdpHeader.rtpMap = .ok [] := by
    rw [Sdp.Header.rtpMap, attributeLines]
    rfl
  have negotiable : Sdp.Negotiable msg.sdpHeader := by
    refine ⟨.inl ⟨0, .inr ⟨⟨rfl, rfl⟩, ?_⟩⟩, [], ?_, by simp⟩
    · rw [payloadTypes]
      decide
    · rw [attributeLines]
      rfl
  obtain ⟨codec, payloadType, -, webSocket⟩ := claimed _ msg parsed negotiable
  have raised := (selectCodec_of_not_opus unmapped rfl).2
  exact absurd (webSocket.symm.trans raised) (by simp)

end Contest
