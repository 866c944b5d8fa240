import Contest.Sip.Msg
import Contest.Sdp.OkBody

/-!
# SIP responses

`SIP::Responder` prints the responses of a call from header values that were fixed when its INVITE
was answered; `SIP::FirstFlurry` fixes them and sends the first three responses.
-/

namespace Contest
namespace Sip

/-- `SIP::ResponseCmd`. -/
inductive ResponseCmd
  /-- 100. -/
  | trying
  /-- 180. -/
  | ringing
  /-- 200 to an INVITE over a WebSocket. -/
  | okSdpWithIce
  /-- 200 to an INVITE over UDP. -/
  | okSdp
  /-- 200 without a body. -/
  | ok
  /-- A request, for which nothing is generated. -/
  | bye
deriving DecidableEq, Repr

/-- `SIP::Responder`, save for its call. -/
structure Responder where
  /-- The value of Call-ID. -/
  callId : Text
  /-- The value of From. -/
  fromHeader : Text
  /-- The value of To. -/
  toHeader : Text
  /-- The value of CSeq. -/
  cSeq : Text
  /-- The values of Via. -/
  vias : List Text
deriving DecidableEq, Repr

namespace Responder

/-- `reset_c_seq`. -/
def resetCSeq (responder : Responder) (str : Text) : Responder := { responder with cSeq := str }

/-- The headers other than Via. -/
def headers (conf : Conf) (responder : Responder) (cmd : ResponseCmd) (bodySize : Nat) :
    List (Text × Text) :=
  [("Call-ID".toList, responder.callId),
    ("From".toList, responder.fromHeader),
    ("To".toList, responder.toHeader),
    ("CSeq".toList, responder.cSeq),
    ("Server".toList, "CBSipStack 0.0.1".toList),
    ("Content-Length".toList, natText bodySize)] ++
  (if cmd ∈ [.okSdp, .okSdpWithIce, .ringing] then
    [("Allow".toList, "INVITE,ACK,CANCEL,OPTIONS,BYE".toList),
      ("Contact".toList, "<sip:".toList ++ conf.serverIpAddress ++ ":".toList ++
        intText conf.defaultSipPort ++ ">".toList)]
  else []) ++
  if cmd ∈ [.okSdp, .okSdpWithIce] then
    [("Content-Type".toList, "application/sdp".toList)]
  else []

/-- All header lines, as names and values. -/
def headerLines (conf : Conf) (responder : Responder) (cmd : ResponseCmd) (bodySize : Nat) :
    List (Text × Text) :=
  responder.vias.map (fun via => ("Via".toList, via)) ++ responder.headers conf cmd bodySize

/-- A header line without its line end. -/
def printLine (line : Text × Text) : Text := line.1 ++ ": ".toList ++ line.2

/-- `header`. -/
def header (conf : Conf) (responder : Responder) (cmd : ResponseCmd) (bodySize : Nat) : Text :=
  (responder.headerLines conf cmd bodySize).flatMap fun line => printLine line ++ "\r\n".toList

/-- `generate`, with the body that `SDP::OkBody.new` gives for each kind of transport. -/
def generate (conf : Conf) (responder : Responder) (okBody : Bool → Sdp.OkBody) :
    ResponseCmd → Text
  | .trying => "SIP/2.0 100 Trying\r\n".toList ++ responder.header conf .trying 0 ++ "\r\n".toList
  | .ringing =>
      "SIP/2.0 180 Ringing\r\n".toList ++ responder.header conf .ringing 0 ++ "\r\n".toList
  | .ok => "SIP/2.0 200 OK\r\n".toList ++ responder.header conf .ok 0 ++ "\r\n".toList
  | .okSdpWithIce =>
      let body := (okBody true).body
      "SIP/2.0 200 OK\r\n".toList ++ responder.header conf .okSdpWithIce body.length ++
        "\r\n".toList ++ body ++ "\r\n".toList
  | .okSdp =>
      let body := (okBody false).body
      "SIP/2.0 200 OK\r\n".toList ++ responder.header conf .okSdp body.length ++
        "\r\n".toList ++ body ++ "\r\n".toList
  | .bye => "\r\n".toList

end Responder

/-- A string of random letters, as `rand` draws them. -/
structure RandomLetters (size : Nat) where
  /-- The letters. -/
  text : Text
  /-- There are as many as were asked for. -/
  length_eq : text.length = size
  /-- They are lower-case letters. -/
  letters : ∀ letter ∈ text, 'a' ≤ letter ∧ letter ≤ 'z'

/-- One lower-case letter, so many times. -/
def RandomLetters.repeated (size : Nat) (letter : Char) (lower : 'a' ≤ letter ∧ letter ≤ 'z') :
    RandomLetters size where
  text := List.replicate size letter
  length_eq := List.length_replicate
  letters := fun other member => by rwa [List.eq_of_mem_replicate member]

namespace FirstFlurry

/-- The To header with a tag, which is drawn at random when the INVITE gave none. -/
def toHeader (toText : Text) (tag : RandomLetters 8) : Text :=
  let basis := splitString ";tag=" toText
  let tagged := if basis.length = 1 then basis ++ [tag.text] else basis
  ";tag=".toList.intercalate tagged

/-- `SIP::FirstFlurry.new`, with the responder that it gives to the call. -/
def new (sipHeader : Header) (tag : RandomLetters 8) : Fallible Responder := do
  let toText ← sipHeader.toHeader
  let callId ← sipHeader.callId
  let fromHeader ← sipHeader.fromHeader
  let cseq ← sipHeader.cseq
  return {
    callId := callId
    fromHeader := fromHeader
    toHeader := toHeader toText tag
    cSeq := cseq
    vias := sipHeader.vias }

/-- A responder is built from five header values. -/
theorem new_eq_ok {sipHeader : Header} {tag : RandomLetters 8} {responder : Responder} :
    new sipHeader tag = .ok responder ↔ sipHeader.callId = .ok responder.callId ∧
      sipHeader.fromHeader = .ok responder.fromHeader ∧
      sipHeader.cseq = .ok responder.cSeq ∧ responder.vias = sipHeader.vias ∧
      ∃ toText, sipHeader.toHeader = .ok toText ∧ responder.toHeader = toHeader toText tag := by
  constructor
  · intro built
    obtain ⟨toText, callee, built⟩ := bind_eq_ok.mp built
    obtain ⟨callId, known, built⟩ := bind_eq_ok.mp built
    obtain ⟨fromText, caller, built⟩ := bind_eq_ok.mp built
    obtain ⟨cseq, given, built⟩ := bind_eq_ok.mp built
    obtain rfl : _ = responder := Except.ok.inj built
    exact ⟨known, caller, given, rfl, toText, callee, rfl⟩
  · rintro ⟨known, caller, given, vias, toText, callee, tagged⟩
    obtain ⟨callId, fromText, other, cseq, values⟩ := responder
    obtain rfl : values = sipHeader.vias := vias
    obtain rfl : other = toHeader toText tag := tagged
    exact bind_eq_ok.mpr ⟨_, callee, bind_eq_ok.mpr ⟨_, known, bind_eq_ok.mpr ⟨_, caller,
      bind_eq_ok.mpr ⟨_, given, rfl⟩⟩⟩⟩

/-- What becomes of a response given to the send procedure. -/
inductive Sending
  /-- It is on its way. -/
  | sent
  /-- A failed system call. -/
  | errno
  /-- Another exception, which only a WebSocket raises. -/
  | raised (e : Exn)
deriving DecidableEq, Repr

/-- Send texts in order; a failed system call stops this and is rescued. -/
def sendAll : List Text → List Sending → Fallible (List Text)
  | [], _ => .ok []
  | text :: texts, sending :: sendings =>
      match sending with
      | .sent => (sendAll texts sendings).map (text :: ·)
      | .errno => .ok []
      | .raised e => .error e
  | text :: texts, [] => (sendAll texts []).map (text :: ·)

/-- Of so many texts none meets an exception other than a failed system call. -/
def goesThrough : Nat → List Sending → Bool
  | _ + 1, .raised _ :: _ => false
  | count + 1, .sent :: sendings => goesThrough count sendings
  | _, _ => true

theorem sendAll_ok_iff {texts : List Text} {sendings : List Sending} :
    (∃ sent, sendAll texts sendings = .ok sent) ↔ goesThrough texts.length sendings = true := by
  induction texts generalizing sendings with
  | nil => simp [sendAll, goesThrough]
  | cons text texts ih =>
      cases sendings with
      | nil =>
          have rest : ∃ sent, sendAll texts [] = .ok sent := by
            rw [ih]
            cases texts <;> rfl
          obtain ⟨sent, all⟩ := rest
          exact ⟨fun _ => rfl, fun _ => ⟨text :: sent, by simp [sendAll, all, Except.map]⟩⟩
      | cons sending sendings =>
          cases sending with
          | sent =>
              rw [List.length_cons, goesThrough, ← ih]
              cases all : sendAll texts sendings <;> simp [sendAll, all, Except.map]
          | errno => simp [sendAll, goesThrough]
          | raised e => simp [sendAll, goesThrough]

/-- What is sent is a beginning of the texts. -/
theorem prefix_of_sendAll {texts sent : List Text} {sendings : List Sending}
    (all : sendAll texts sendings = .ok sent) : sent <+: texts := by
  induction texts generalizing sent sendings with
  | nil =>
      obtain rfl : [] = sent := Except.ok.inj all
      exact List.prefix_refl _
  | cons text texts ih =>
      have goes_on : ∀ {others : List Sending},
          (sendAll texts others).map (text :: ·) = .ok sent → sent <+: text :: texts := by
        intro others mapped
        cases rest : sendAll texts others with
        | error e => simp [rest, Except.map] at mapped
        | ok later =>
            obtain rfl : text :: later = sent := by simpa [rest, Except.map] using mapped
            exact List.cons_prefix_cons.mpr ⟨rfl, ih rest⟩
      cases sendings with
      | nil => exact goes_on all
      | cons sending sendings =>
          cases sending with
          | sent => exact goes_on all
          | errno =>
              obtain rfl : [] = sent := Except.ok.inj all
              exact List.nil_prefix
          | raised e => simp [sendAll] at all

/-- `transmit`, with the responses that went out. -/
def transmit (conf : Conf) (forWebsocket : Bool) (responder : Responder)
    (okBody : Bool → Sdp.OkBody) (sendings : List Sending) : Fallible (List Text) :=
  sendAll
    [responder.generate conf okBody .trying, responder.generate conf okBody .ringing,
      responder.generate conf okBody (if forWebsocket then .okSdpWithIce else .okSdp)]
    sendings

end FirstFlurry
end Sip
end Contest
