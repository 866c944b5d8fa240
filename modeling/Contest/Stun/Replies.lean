import Contest.Stun.ExtendedReply
import Contest.Stun.Grammar

/-!
# STUN replies

The reply to a binding request is a chain of attributes behind a header that carries the
transaction id of the request.  A request with attributes is answered, in the extended form; the
name of the user is looked up before the attributes are counted, so a request without any is not.
-/

namespace Contest
namespace Stun

namespace Conv

/-- The basic reply has one attribute. -/
theorem basicReply_isMessage (conv : Conv) (transactionId : Bytes) (kind length : UInt16) :
    ∃ attributes, IsMessage kind transactionId attributes
        (conv.basicReply (message kind length
          (encodeUInt32 StunHeader.magicCookieValue ++ transactionId))).bytes ∧
      attributes.map Prod.fst = [.xorMappedAddress] := by
  obtain ⟨front, encodes, size, written⟩ := conv.writeXorMappedAddressAttr_message
  refine ⟨_, ⟨front, by omega, .single encodes, ?_⟩, rfl⟩
  rw [basicReply, written, setLength_message, size]
  rfl

/-- The extended reply has three attributes, and with a password four. -/
theorem kinds_of_verifies {digests : Digests} {conv : Conv} {bytes : Bytes} {parts : ReplyParts}
    (verifies : Verifies digests conv bytes parts) :
    parts.attributes.map Prod.fst = [.software, .xorMappedAddress] ++
      (if conv.password.isSome then [.messageIntegrity] else []) ++ [.fingerprint] := by
  cases given : conv.password with
  | none =>
      have absent := verifies.unkeyed given
      simp [ReplyParts.attributes, ReplyParts.checked, ReplyParts.described, absent]
  | some password =>
      obtain ⟨digest, -, present, -⟩ := verifies.integrity password given
      simp [ReplyParts.attributes, ReplyParts.checked, ReplyParts.described, present]

/-- The reply is a success response in the transaction of the request. -/
theorem reply_isMessage {conv : Conv}
    (cookie : conv.stunHeader.magicCookie = StunHeader.magicCookieValue)
    (named : conv.softwareName = "Whatever".toList) :
    ∃ attributes, IsMessage 0x0101 conv.stunHeader.transactionId attributes conv.reply ∧
      attributes.map Prod.fst =
        if conv.stunHeader.length = 0 then [.xorMappedAddress]
        else [.software, .xorMappedAddress] ++
          (if conv.password.isSome then [.messageIntegrity] else []) ++ [.fingerprint] := by
  rw [← replyWith_standard, replyWith]
  simp only [StunHeader.serialize_eq, cookie]
  split
  · exact conv.basicReply_isMessage conv.stunHeader.transactionId 0x0101 12
  · have ascii : ∀ c ∈ conv.softwareName, c.toNat < 128 :=
      named ▸ List.all_iff_forall_prop.mp (by decide)
    obtain ⟨parts, verifies⟩ :=
      @verifies_extendedReplyWith .standard conv ascii (named ▸ by decide) 12
    exact ⟨parts.attributes, verifies.isMessage, kinds_of_verifies verifies⟩

end Conv

-- the exchange with a known answer that the tests of the server use
set_option maxRecDepth 100000 in
example :
    (Conv.new
      [0x00, 0x01, 0x00, 0x58, 0x21, 0x12, 0xa4, 0x42, 0xb7, 0xe7, 0xa7, 0x01, 0xbc, 0x34, 0xd6,
        0x86, 0xfa, 0x87, 0xdf, 0xae, 0x80, 0x22, 0x00, 0x10, 0x53, 0x54, 0x55, 0x4e, 0x20, 0x74,
        0x65, 0x73, 0x74, 0x20, 0x63, 0x6c, 0x69, 0x65, 0x6e, 0x74, 0x00, 0x24, 0x00, 0x04, 0x6e,
        0x00, 0x01, 0xff, 0x80, 0x29, 0x00, 0x08, 0x93, 0x2f, 0xf9, 0xb1, 0x51, 0x26, 0x3b, 0x36,
        0x00, 0x06, 0x00, 0x09, 0x65, 0x76, 0x74, 0x6a, 0x3a, 0x68, 0x36, 0x76, 0x59, 0x20, 0x20,
        0x20, 0x00, 0x08, 0x00, 0x14, 0x9a, 0xea, 0xa7, 0x0c, 0xbf, 0xd8, 0xcb, 0x56, 0x78, 0x1e,
        0xf2, 0xb5, 0xb2, 0xd3, 0xf2, 0x49, 0xc1, 0xb5, 0x71, 0xa2, 0x80, 0x28, 0x00, 0x04, 0xe5,
        0x7a, 0x3b, 0xcf] ⟨192, 0, 2, 1, 32853⟩).map (fun conv => Conv.reply
          { conv with
            password := some "VOkJxbRl1RmTxUk/WvJxBt".toList
            softwareName := "test vector ".toList }) =
      .ok
        [0x01, 0x01, 0x00, 0x3c, 0x21, 0x12, 0xa4, 0x42, 0xb7, 0xe7, 0xa7, 0x01, 0xbc, 0x34, 0xd6,
          0x86, 0xfa, 0x87, 0xdf, 0xae, 0x80, 0x22, 0x00, 0x0b, 0x74, 0x65, 0x73, 0x74, 0x20, 0x76,
          0x65, 0x63, 0x74, 0x6f, 0x72, 0x20, 0x00, 0x20, 0x00, 0x08, 0x00, 0x01, 0xa1, 0x47, 0xe1,
          0x12, 0xa6, 0x43, 0x00, 0x08, 0x00, 0x14, 0x2b, 0x91, 0xf5, 0x99, 0xfd, 0x9e, 0x90, 0xc3,
          0x8c, 0x74, 0x89, 0xf9, 0x2a, 0xf9, 0xba, 0x53, 0xf0, 0x6b, 0xe7, 0xd7, 0x80, 0x28, 0x00,
          0x04, 0xc0, 0x7d, 0x4c, 0x96] := by
  decide +kernel

/-- The USERNAME of a request, the last one if there are several. -/
def usernameOf (attributes : List Attribute) : Option Bytes := attributes.reverse.lookup .username

/-- The USERNAME of the request is that of a tracked call. -/
def NamesCall (tracker : Graph.Tracker) (attributes : List Attribute) : Prop :=
  ∃ username, usernameOf attributes = some username ∧ ∃ k ∈ tracker.calls, ∃ call,
    tracker.objects[k]? = some call ∧ utf8 call.formedUsername = username

/-- What is sent is one success response in the transaction of the request, to its source: of the
basic form for a request without attributes, and else of the extended form, with its integrity if
the request names a call. -/
def Answered (tracker : Graph.Tracker) (header : StunHeader) (attributes : List Attribute)
    (source : SockAddr) (sent : Fallible (List (Bytes × SockAddr))) : Prop :=
  ∃ reply replied, sent = .ok [(reply, source)] ∧
    IsMessage 0x0101 header.transactionId replied reply ∧
    (attributes = [] → replied.map Prod.fst = [.xorMappedAddress]) ∧
    (attributes ≠ [] → NamesCall tracker attributes → replied.map Prod.fst =
      [.software, .xorMappedAddress, .messageIntegrity, .fingerprint]) ∧
    (attributes ≠ [] → ¬NamesCall tracker attributes → replied.map Prod.fst =
      [.software, .xorMappedAddress, .fingerprint])

theorem namesCall_iff {tracker : Graph.Tracker} {attributes : List Attribute} :
    NamesCall tracker attributes ↔
      ((usernameOf attributes).bind tracker.findByUsername).isSome = true := by
  cases given : usernameOf attributes with
  | none => simp [NamesCall, given]
  | some username =>
      rw [Option.bind_some, Graph.Tracker.isSome_findByUsername, NamesCall, given]
      exact ⟨fun ⟨_, same, call⟩ => Option.some.inj same ▸ call, fun call => ⟨username, rfl, call⟩⟩

/-- The length in an accepted header is that of the chain of attributes. -/
theorem length_eq_zero_iff {data : Bytes} {header : StunHeader} {attributes : List Attribute}
    (accepted : StunHeader.new data = .ok header)
    (chain : Chain Encodes attributes (data.drop 20)) :
    header.length = 0 ↔ attributes = [] := by
  obtain ⟨enough, length, -⟩ := StunHeader.new_eq_ok accepted
  rw [chain.eq_nil_iff (fun _ _ encodes => Encodes.ne_nil encodes), ← List.length_eq_zero_iff,
    List.length_drop, ← length, ← UInt16.toNat_inj]
  rfl

/-- The USERNAME that is looked up is that of the request. -/
theorem username_eq {data : Bytes} {header : StunHeader} {attributes : List Attribute}
    (accepted : StunHeader.new data = .ok header) (chain : Chain Encodes attributes (data.drop 20))
    {conv : Conv} (data_eq : conv.data = data) (header_eq : conv.stunHeader = header)
    (nonempty : attributes ≠ []) : conv.username = .ok (usernameOf attributes) := by
  obtain ⟨enough, length, -⟩ := StunHeader.new_eq_ok accepted
  have counted : header.length ≠ 0 := mt (length_eq_zero_iff accepted chain).mp nonempty
  have body : slice data 20 header.length.toNat = .ok (data.drop 20) := by
    rw [slice_of_le (by omega), List.take_of_length_le (by rw [List.length_drop, length])]
  have fits : (data.drop 20).length < 2 ^ 16 := by
    rw [List.length_drop, ← length]
    exact header.length.toNat_lt
  have parsed : parse data = .ok (header, attributes.reverse) :=
    bind_eq_ok.mpr ⟨header, accepted, bind_eq_ok.mpr
      ⟨_, bind_eq_ok.mpr ⟨_, body, StunAttributes.new_chain chain fits⟩, rfl⟩⟩
  subst data_eq header_eq
  rw [Conv.username, Conv.stunAttributes_eq accepted counted, parsed]
  rfl

/-- A valid request is answered if and only if it has an attribute. -/
theorem answered_iff {tracker : Graph.Tracker} {source : SockAddr} {data : Bytes}
    {header : StunHeader} {attributes : List Attribute}
    (accepted : StunHeader.new data = .ok header)
    (chain : Chain Encodes attributes (data.drop 20)) :
    Answered tracker header attributes source (handleStunPayload tracker data source) ↔
      attributes ≠ [] := by
  have started : Conv.new data source = .ok ⟨data, source, none, "Whatever".toList, header⟩ :=
    bind_eq_ok.mpr ⟨header, accepted, rfl⟩
  constructor
  · rintro ⟨reply, replied, sent, -⟩ rfl
    have counted := (length_eq_zero_iff accepted chain).mpr rfl
    have raised : handleStunPayload tracker data source = .error .noStunAttributes := by
      rw [handleStunPayload, started]
      simp only [bind, Except.bind, Conv.username, Conv.stunAttributes, if_pos counted]
    rw [raised] at sent
    simp at sent
  · intro nonempty
    have counted : header.length ≠ 0 := mt (length_eq_zero_iff accepted chain).mp nonempty
    let password := ((usernameOf attributes).bind tracker.findByUsername).map
      Graph.Call.serverPassword
    let conv : Conv := ⟨data, source, password, "Whatever".toList, header⟩
    have sent : handleStunPayload tracker data source = .ok [(conv.reply, source)] := by
      refine bind_eq_ok.mpr ⟨_, started, bind_eq_ok.mpr ⟨_, ?_, rfl⟩⟩
      exact username_eq accepted chain rfl rfl nonempty
    obtain ⟨replied, replies, kinds⟩ :=
      @Conv.reply_isMessage conv (StunHeader.new_eq_ok accepted).2.2 rfl
    rw [if_neg counted] at kinds
    have identified : conv.password.isSome = true ↔ NamesCall tracker attributes := by
      have same : conv.password.isSome =
          ((usernameOf attributes).bind tracker.findByUsername).isSome := Option.isSome_map
      rw [namesCall_iff, same]
    refine ⟨conv.reply, replied, sent, replies, fun empty => absurd empty nonempty, ?_, ?_⟩
    · intro _ names
      rw [kinds, if_pos (identified.mpr names)]
      rfl
    · intro _ unknown
      rw [kinds, if_neg (mt identified.mp unknown)]
      rfl

/-- A request with two attributes. -/
def namingStun : Bytes :=
  [0x00, 0x01, 0x00, 0x24, 0x21, 0x12, 0xa4, 0x42, 0xb7, 0xe7, 0xa7, 0x01, 0xbc, 0x34, 0xd6, 0x86,
    0xfa, 0x87, 0xdf, 0xae, 0x80, 0x22, 0x00, 0x10, 0x53, 0x54, 0x55, 0x4e, 0x20, 0x74, 0x65, 0x73,
    0x74, 0x20, 0x63, 0x6c, 0x69, 0x65, 0x6e, 0x74] ++ sampleStun.drop 20

/-- The attributes of this request. -/
def namingAttributes : List Attribute :=
  [(.software, utf8 "STUN test client".toList), (.username, utf8 "evtj:h6vY".toList)]

/-- A tracker with the call that this request names. -/
def namedTracker : Graph.Tracker :=
  Graph.Tracker.empty.add {
    invite := ⟨⟨[], [], [], fun _ none => absurd none List.not_mem_nil⟩, .blank⟩
    overWebsocket := true
    toUri := []
    callId := "k1".toList
    serverUserfrag := "evtj".toList
    clientUserfrag := "h6vY".toList
    serverPassword := "secret".toList
    clientPassword := []
    transport := .create .opus 101 (.ofDraw (RtpPort.drawAt 0))
    prompt := .new []
    responder := none
    listener := .spawned
    timer := .notScheduled
    sent := [] }

theorem namesCall_namedTracker : NamesCall namedTracker namingAttributes :=
  ⟨_, rfl, 0, List.mem_singleton.mpr rfl, _, rfl, rfl⟩

theorem answered_iff_sample :
    NamesCall namedTracker namingAttributes ∧
    ∃ header, StunHeader.new namingStun = .ok header ∧
      (Answered namedTracker header namingAttributes sampleSource
        (handleStunPayload namedTracker namingStun sampleSource) ↔ namingAttributes ≠ []) := by
  have accepts : (StunHeader.new namingStun).toOption.isSome = true := by decide
  have software : Encodes (.software, utf8 "STUN test client".toList)
      ((namingStun.drop 20).take 20) := ⟨by decide, [], by decide, by decide⟩
  have username : Encodes (.username, utf8 "evtj:h6vY".toList) (sampleStun.drop 20) :=
    ⟨by decide, [0x20, 0x20, 0x20], by decide, by decide⟩
  have chain : Chain Encodes namingAttributes (namingStun.drop 20) :=
    .cons software (.single username)
  cases accepted : StunHeader.new namingStun with
  | error e => simp [accepted, Except.toOption] at accepts
  | ok header => exact ⟨namesCall_namedTracker, header, rfl, answered_iff accepted chain⟩

/-- A request without attributes. -/
def bareStun : Bytes :=
  [0x00, 0x01, 0x00, 0x00, 0x21, 0x12, 0xa4, 0x42, 0x42, 0x36, 0x46, 0x71, 0x5a, 0x30, 0x69, 0x76,
    0x56, 0x30, 0x64, 0x78]

/-- A request without attributes raises an exception and gets no answer. -/
theorem bare_request_unanswered :
    ¬∀ tracker source data header attributes, StunHeader.new data = .ok header →
      Chain Encodes attributes (data.drop 20) →
        Answered tracker header attributes source (handleStunPayload tracker data source) := by
  intro claimed
  have accepts : (StunHeader.new bareStun).toOption.isSome = true := by decide
  have raised : handleStunPayload .empty bareStun sampleSource = .error .noStunAttributes := by
    decide
  cases accepted : StunHeader.new bareStun with
  | error e => simp [accepted, Except.toOption] at accepts
  | ok header =>
      obtain ⟨reply, replied, sent, -⟩ :=
        claimed .empty sampleSource bareStun header [] accepted .nil
      rw [raised] at sent
      simp at sent

end Stun
end Contest
