import Contest.Answered
import Contest.Sip.Framing

/-!
# Responses under the parser of messages

The text of a response is read with `SIP::Msg`, as a peer built on the same code would read it.  A
response with a session description has an empty line after it as well and is never accepted; a
response without one is accepted exactly when no value held ends in a carriage return, which
together with the line end after it would count as an empty line, and the configured address can
stand in the value of Contact.
-/

namespace Contest

open Splitting Sip.Responder

namespace Sip

theorem Msg.length_split {str : Text} {msg : Msg} (accepted : Msg.new str = .ok msg) :
    (split sectionDelimiter str).length = 2 := by
  obtain ⟨header, body, cut, -⟩ := Msg.new_eq_ok.mp accepted
  rw [cut]
  rfl

namespace Responder

/-- A header block ends in its last header line. -/
theorem exists_block_eq {conf : Conf} {responder : Responder} {cmd : ResponseCmd} {bodySize : Nat}
    {others : List (Text × Text)} {last : Text × Text}
    (lines : responder.headers conf cmd bodySize = others ++ [last]) :
    ∃ front, responder.block conf cmd bodySize = front ++ printLine last := by
  have whole := responder.block_append conf cmd bodySize
  have text : responder.header conf cmd bodySize =
      ((responder.vias.map (fun via => ("Via".toList, via)) ++ others).flatMap fun line =>
        printLine line ++ "\r\n".toList) ++ printLine last ++ "\r\n".toList := by
    rw [header, headerLines, lines, ← List.append_assoc, List.flatMap_append]
    simp only [List.flatMap_cons, List.flatMap_nil, List.append_nil, List.append_assoc]
  rw [text, ← List.append_assoc, ← List.append_assoc] at whole
  exact ⟨_, List.append_cancel_right whole⟩

end Responder

/-- Two delimiters that each follow an ordinary symbol make three pieces. -/
theorem three_le_length_split {c d : Char} (first : c ≠ '\r' ∧ c ≠ '\n')
    (second : d ≠ '\r' ∧ d ≠ '\n') (front middle : Text) {separator : Text}
    (nonempty : separator ≠ [])
    (recognized : ∀ rest, sectionDelimiter (separator ++ rest) = separator.length) :
    3 ≤ (split sectionDelimiter (front ++ c :: (separator ++
      (middle ++ d :: ("\r\n\r\n".toList ++ []))))).length := by
  have here := length_split_cut first.1 first.2 front nonempty
    (recognized (middle ++ d :: ("\r\n\r\n".toList ++ [])))
  have later := @length_split_cut d second.1 second.2 middle "\r\n\r\n".toList [] (by decide) rfl
  have one : (split sectionDelimiter ([] : Text)).length = 1 := rfl
  omega

/-- A response with a session description that ends in a line end is cut twice. -/
theorem refused_withBody (conf : Conf) (responder : Responder) {okBody : Bool → Sdp.OkBody}
    {forWebsocket : Bool} {front : Text} {last : Char} (cr : last ≠ '\r') (lf : last ≠ '\n')
    (body : (okBody forWebsocket).body = front ++ last :: "\r\n".toList) (msg : Msg) :
    Msg.new (responder.generate conf okBody
      (if forWebsocket then .okSdpWithIce else .okSdp)) ≠ .ok msg := by
  intro accepted
  have described : responder.headers conf (if forWebsocket then .okSdpWithIce else .okSdp)
      (okBody forWebsocket).body.length =
        (responder.headers conf (if forWebsocket then .okSdpWithIce else .okSdp)
          (okBody forWebsocket).body.length).take 8 ++
        [("Content-Type".toList, "application/sdp".toList)] := by
    cases forWebsocket <;> rfl
  obtain ⟨before, block⟩ := exists_block_eq described
  have ends : "\r\n".toList ++ "\r\n".toList = "\r\n\r\n".toList ++ [] := rfl
  have content_type : printLine ("Content-Type".toList, "application/sdp".toList) =
      "Content-Type: application/sd".toList ++ ['p'] := rfl
  have text : responder.generate conf okBody (if forWebsocket then .okSdpWithIce else .okSdp) =
      (before ++ "Content-Type: application/sd".toList) ++ 'p' :: ("\r\n\r\n".toList ++
        (front ++ last :: ("\r\n\r\n".toList ++ []))) := by
    rw [generate_withBody, block, content_type, ← ends, body]
    simp only [List.append_assoc, List.cons_append, List.nil_append]
  have pieces := Msg.length_split accepted
  have three := @three_le_length_split 'p' last (by decide) ⟨cr, lf⟩
    (before ++ "Content-Type: application/sd".toList) front "\r\n\r\n".toList (by decide)
    (fun rest => rfl)
  rw [text] at pieces
  omega

end Sip

namespace Sdp.OkBody

/-- The description ends in a line end of its own. -/
theorem exists_body_eq (conf : Conf) (forWebsocket : Bool) (rtpPort : RtpPort)
    (serverUserfrag serverPassword sessionId : Text) :
    ∃ front last, last ≠ '\r' ∧ last ≠ '\n' ∧
      (OkBody.new conf forWebsocket rtpPort serverUserfrag serverPassword sessionId).body =
        front ++ last :: "\r\n".toList := by
  have ends : ∀ (okBody : OkBody) (others : List Text) (front : Text) (last : Char),
      okBody.media = others ++ [front ++ [last]] →
        ∃ before, okBody.body = before ++ last :: "\r\n".toList := by
    intro okBody others front last media
    refine ⟨((okBody.session ++ okBody.time).flatMap fun line =>
      line.1 ++ "=".toList ++ line.2 ++ "\r\n".toList) ++
        ((others.flatMap fun line => line ++ "\r\n".toList) ++ front), ?_⟩
    rw [body, media]
    simp only [List.flatMap_append, List.flatMap_cons, List.flatMap_nil, List.append_nil,
      List.append_assoc, List.cons_append, List.nil_append]
  cases forWebsocket with
  | false =>
      obtain ⟨before, text⟩ := ends
        (OkBody.new conf false rtpPort serverUserfrag serverPassword sessionId)
        ((OkBody.new conf false rtpPort serverUserfrag serverPassword sessionId).media.take 3)
        "a=sendrec".toList 'v' rfl
      exact ⟨before, 'v', by decide, by decide, text⟩
  | true =>
      obtain ⟨before, text⟩ := ends
        (OkBody.new conf true rtpPort serverUserfrag serverPassword sessionId)
        ((OkBody.new conf true rtpPort serverUserfrag serverPassword sessionId).media.take 11)
        ("a=candidate:0 2 udp 2130706430 ".toList ++ conf.serverIpAddress ++ " ".toList ++
          natText (rtpPort.number + 1) ++ " typ hos".toList) 't' (by
            rw [List.append_assoc _ " typ hos".toList]
            rfl)
      exact ⟨before, 't', by decide, by decide, text⟩

end Sdp.OkBody

namespace Sip

/-- The text has as many bytes after its first empty line as its Content-Length says, and it is a
message with the given session description. -/
structure SelfConsistent (text : Text) (okBody : Sdp.OkBody) : Prop where
  /-- The first empty line, and what Content-Length before it says of the rest. -/
  content_length : ∃ block rest header, text = block ++ "\r\n\r\n".toList ++ rest ∧
    ¬"\r\n\r\n".toList <:+: block ++ "\r\n\r".toList ∧ Header.new block = .ok header ∧
      header.contentLength = .ok ((utf8 rest).length : Int)
  /-- The text is a message. -/
  accepted : ∃ msg, Msg.new text = .ok msg ∧ Sdp.Header.new okBody.body = .ok msg.sdpHeader

/-- No response with a session description is consistent with itself. -/
theorem not_selfConsistent_withBody (conf : Conf) (responder : Responder) (call : Graph.Call)
    (sessionId : Text) (forWebsocket : Bool) :
    ¬SelfConsistent (responder.generate conf (call.okBody conf sessionId)
        (if forWebsocket then .okSdpWithIce else .okSdp))
      (call.okBody conf sessionId forWebsocket) := by
  rintro ⟨-, msg, accepted, -⟩
  obtain ⟨front, last, cr, lf, body⟩ := Sdp.OkBody.exists_body_eq conf forWebsocket
    call.transport.rtpPort call.serverUserfrag call.serverPassword sessionId
  exact refused_withBody conf responder cr lf body msg accepted

/-- The 200 OK to a sample INVITE is not a message. -/
theorem sample_answer_refused :
    ¬∀ (conf : Conf) (responder : Responder) (call : Graph.Call) (sessionId : Text)
      (forWebsocket : Bool),
      SelfConsistent (responder.generate conf (call.okBody conf sessionId)
          (if forWebsocket then .okSdpWithIce else .okSdp))
        (call.okBody conf sessionId forWebsocket) := by
  intro claimed
  obtain ⟨call, responses, answered⟩ := exists_answered_sampleInvite
  obtain ⟨msg, pending, tag, responder, -, -, -, flurried⟩ := answered.exists_flurry
  obtain ⟨-, other, accepted, -⟩ :=
    claimed sampleConf responder call sampleSpeech.sessionId false
  obtain ⟨front, last, cr, lf, body⟩ := Sdp.OkBody.exists_body_eq sampleConf false
    call.transport.rtpPort call.serverUserfrag call.serverPassword sampleSpeech.sessionId
  exact refused_withBody sampleConf responder cr lf body other accepted

namespace Responder

/-- The values that a responder holds. -/
def values (responder : Responder) : List Text :=
  responder.vias ++ [responder.callId, responder.fromHeader, responder.toHeader, responder.cSeq]

/-- No value held can be taken for more than a value: none has a line feed, a header separator or
two carriage returns in a row. -/
def Held (responder : Responder) : Prop :=
  ∀ value ∈ responder.values, HeaderValue value ∧ ¬"\r\r".toList <:+: value

theorem Held.clean {responder : Responder} (held : responder.Held) : responder.Clean where
  callId := (held _ (by simp [values])).1
  fromHeader := (held _ (by simp [values])).1
  toHeader := (held _ (by simp [values])).1
  cSeq := (held _ (by simp [values])).1
  vias := fun via member => (held via (List.mem_append_left _ member)).1

end Responder

/-- The values of an accepted message contain no two carriage returns in a row. -/
theorem no_pair_of_msg {data : Text} {msg : Msg} (parsed : Msg.new data = .ok msg) :
    ∀ value ∈ msg.sipHeader.vias ++ msg.sipHeader.headerKvs.map Prod.snd,
      ¬"\r\r".toList <:+: value := by
  obtain ⟨block, body, cut, read, -⟩ := Msg.new_eq_ok.mp parsed
  intro value member inside
  obtain ⟨before, after, text⟩ := inside.trans (Header.infix_of_new read value member)
  have first : block ∈ split sectionDelimiter data := cut ▸ List.mem_cons_self
  obtain ⟨tail, silent⟩ := quiet_of_mem_split first (k := before.length) (by
    rw [← text]
    simp)
  rw [← text, List.append_assoc, List.drop_left, List.append_assoc,
    sectionDelimiter_eq_zero_iff] at silent
  exact silent.2.1 (List.prefix_append _ _)

/-- A responder made from an INVITE that was accepted, and given the CSeq of BYEs that were. -/
inductive Serves : Responder → Prop
  | invited {data : Text} {msg : Msg} {tag : RandomLetters 8} {responder : Responder}
      (parsed : Msg.new data = .ok msg) (command : msg.sipHeader.command = .ok "INVITE".toList)
      (built : FirstFlurry.new msg.sipHeader tag = .ok responder) : Serves responder
  | hungUp {responder : Responder} {data cseq : Text} {msg : Msg} (serves : Serves responder)
      (parsed : Msg.new data = .ok msg) (command : msg.sipHeader.command = .ok "BYE".toList)
      (given : msg.sipHeader.cseq = .ok cseq) : Serves (responder.resetCSeq cseq)

theorem exists_serves_of_answered {conf : Conf} {data : Text} {call : Graph.Call}
    {responses : List Text} (answered : Answered conf data call responses) :
    ∃ msg responder, Msg.new data = .ok msg ∧ msg.sipHeader.cseq = .ok responder.cSeq ∧
      call.responder = some responder ∧ Serves responder := by
  obtain ⟨msg, pending, tag, responder, parsed, command, chosen, flurried⟩ :=
    answered.exists_flurry
  have built := chosen.msg_eq ▸ flurried.built
  obtain ⟨-, -, counted, -⟩ := FirstFlurry.new_eq_ok.mp built
  exact ⟨msg, responder, parsed, counted, flurried.given, .invited parsed command built⟩

theorem Serves.held {responder : Responder} (serves : Serves responder) : responder.Held := by
  have of_field : ∀ {data : Text} {msg : Msg} {key : String} {value : Text},
      Msg.new data = .ok msg → msg.sipHeader.field key = .ok value →
        HeaderValue value ∧ ¬"\r\r".toList <:+: value := fun parsed found =>
    ⟨Header.headerValue_of_field found, no_pair_of_msg parsed _ (Header.mem_of_field found)⟩
  induction serves with
  | @invited data msg tag responder parsed command built =>
      obtain ⟨known, caller, given, vias, toText, callee, tagged⟩ :=
        FirstFlurry.new_eq_ok.mp built
      intro value member
      simp only [values, List.mem_append, List.mem_cons, List.not_mem_nil, or_false] at member
      rcases member with via | rfl | rfl | rfl | rfl
      · have listed := List.mem_append_left (msg.sipHeader.headerKvs.map Prod.snd) (vias ▸ via)
        exact ⟨msg.sipHeader.clean value listed, no_pair_of_msg parsed value listed⟩
      · exact of_field parsed known
      · exact of_field parsed caller
      · rw [tagged]
        obtain ⟨value, no_pair⟩ := of_field parsed callee
        refine ⟨FirstFlurry.headerValue_toHeader value tag, ?_⟩
        rcases FirstFlurry.toHeader_cases toText tag with ⟨-, same⟩ | ⟨-, same⟩
        · rwa [same]
        · rw [same]
          have starts : (";tag=".toList ++ tag.text).head? = some ';' := rfl
          refine not_infix_pair_append no_pair ?_ (by rw [starts]; decide)
          intro inside
          rcases List.mem_append.mp inside with inside | inside
          · exact absurd inside (by decide)
          · exact absurd (tag.letters '\r' inside).1 (by decide)
      · exact of_field parsed given
  | @hungUp responder data cseq msg serves parsed command given ih =>
      intro value member
      simp only [values, resetCSeq, List.mem_append, List.mem_cons, List.not_mem_nil,
        or_false] at member
      rcases member with via | rfl | rfl | rfl | rfl
      · exact ih value (List.mem_append_left _ via)
      · exact ih _ (by simp [values])
      · exact ih _ (by simp [values])
      · exact ih _ (by simp [values])
      · exact of_field parsed given

/-- A value that the server writes on its own: it can be read back and goes well with line ends. -/
structure OwnValue (value : Text) : Prop where
  /-- It can stand on a header line. -/
  readable : HeaderValue value
  /-- It has no two carriage returns in a row. -/
  no_pair : ¬"\r\r".toList <:+: value
  /-- It does not end in a carriage return. -/
  last : value.getLast? ≠ some '\r'

theorem OwnValue.of_symbols {value : Text}
    (symbols : ∀ c ∈ value, c ≠ '\r' ∧ c ≠ '\n' ∧ c ≠ ' ') : OwnValue value where
  readable := ⟨fun inside => (symbols _ inside).2.1 rfl,
    fun inside => (symbols ' ' (inside.subset (by decide))).2.2 rfl⟩
  no_pair := fun inside => (symbols '\r' (inside.subset (by decide))).1 rfl
  last := fun ends => (symbols '\r' (List.mem_of_getLast? ends)).1 rfl

theorem ownValue_natText (n : Nat) : OwnValue (natText n) := by
  refine .of_symbols ?_
  intro c member
  have digit := natText_isDigit member
  refine ⟨?_, ?_, ?_⟩ <;> rintro rfl <;> exact absurd digit (by decide)

/-- The value of Contact. -/
def contact (conf : Conf) : Text :=
  "<sip:".toList ++ conf.serverIpAddress ++ ":".toList ++ intText conf.defaultSipPort ++ ">".toList

theorem contact_mem_headers {conf : Conf} {responder : Responder} {cmd : ResponseCmd}
    {bodySize : Nat} (printed : cmd ∈ [.okSdp, .okSdpWithIce, .ringing]) :
    ("Contact".toList, contact conf) ∈ responder.headers conf cmd bodySize := by
  unfold contact
  rw [headers, if_pos printed]
  refine List.mem_append_left _ (List.mem_append_right _ ?_)
  exact List.mem_cons_of_mem _ List.mem_cons_self

/-- Where Contact is printed, the configured address makes its value one that can be read back. -/
def ContactReadable (conf : Conf) (cmd : ResponseCmd) : Prop :=
  cmd ∈ [.okSdp, .okSdpWithIce, .ringing] →
    HeaderValue (contact conf) ∧ ¬"\r\r".toList <:+: contact conf

theorem ContactReadable.ownValue {conf : Conf} {cmd : ResponseCmd}
    (readable : ContactReadable conf cmd) (printed : cmd ∈ [.okSdp, .okSdpWithIce, .ringing]) :
    OwnValue (contact conf) where
  readable := (readable printed).1
  no_pair := (readable printed).2
  last := by
    unfold contact
    rw [List.getLast?_append]
    simp

/-- The name of a header that a responder prints. -/
structure OwnName (name : Text) : Prop where
  /-- It is one line. -/
  is_line : IsLine name
  /-- It is not empty. -/
  nonempty : name ≠ []
  /-- It has no colon. -/
  no_colon : ':' ∉ name
  /-- It is not Via. -/
  no_via : name ≠ "Via".toList

theorem headers_cases {conf : Conf} {cmd : ResponseCmd} (readable : ContactReadable conf cmd)
    (responder : Responder) (bodySize : Nat) :
    ∀ line ∈ responder.headers conf cmd bodySize,
      OwnName line.1 ∧ (line.2 ∈ responder.values ∨ OwnValue line.2) := by
  have own_name : ∀ name ∈ ["Call-ID".toList, "From".toList, "To".toList, "CSeq".toList,
      "Server".toList, "Content-Length".toList, "Allow".toList, "Contact".toList,
      "Content-Type".toList], OwnName name := by
    intro name member
    have checked : ∀ name ∈ ["Call-ID".toList, "From".toList, "To".toList, "CSeq".toList,
        "Server".toList, "Content-Length".toList, "Allow".toList, "Contact".toList,
        "Content-Type".toList], '\r' ∉ name ∧ '\n' ∉ name ∧ name ≠ [] ∧ ':' ∉ name ∧
          name ≠ "Via".toList := by decide
    obtain ⟨cr, lf, nonempty, colon, via⟩ := checked name member
    exact ⟨⟨cr, lf⟩, nonempty, colon, via⟩
  have fixed : ∀ value ∈ ["CBSipStack 0.0.1".toList, "INVITE,ACK,CANCEL,OPTIONS,BYE".toList,
      "application/sdp".toList], OwnValue value := by
    intro value member
    have checked : ∀ value ∈ ["CBSipStack 0.0.1".toList, "INVITE,ACK,CANCEL,OPTIONS,BYE".toList,
        "application/sdp".toList], '\n' ∉ value ∧ ¬": ".toList <:+: value ∧
          ¬"\r\r".toList <:+: value ∧ value.getLast? ≠ some '\r' := by decide
    obtain ⟨lf, separator, no_pair, last⟩ := checked value member
    exact ⟨⟨lf, separator⟩, no_pair, last⟩
  intro line member
  rcases List.mem_append.mp member with member | described
  · rcases List.mem_append.mp member with held | allowed
    · simp only [List.mem_cons, List.not_mem_nil, or_false] at held
      rcases held with rfl | rfl | rfl | rfl | rfl | rfl
      · exact ⟨own_name _ (by simp), .inl (by simp [values])⟩
      · exact ⟨own_name _ (by simp), .inl (by simp [values])⟩
      · exact ⟨own_name _ (by simp), .inl (by simp [values])⟩
      · exact ⟨own_name _ (by simp), .inl (by simp [values])⟩
      · exact ⟨own_name _ (by simp), .inr (fixed _ (by simp))⟩
      · exact ⟨own_name _ (by simp), .inr (ownValue_natText bodySize)⟩
    · split at allowed
      · rename_i printed
        simp only [List.mem_cons, List.not_mem_nil, or_false] at allowed
        rcases allowed with rfl | rfl
        · exact ⟨own_name _ (by simp), .inr (fixed _ (by simp))⟩
        · exact ⟨own_name _ (by simp), .inr (readable.ownValue printed)⟩
      · simp at allowed
  · split at described
    · simp only [List.mem_cons, List.not_mem_nil, or_false] at described
      obtain rfl := described
      exact ⟨own_name _ (by simp), .inr (fixed _ (by simp))⟩
    · simp at described

theorem readable_headers {conf : Conf} {cmd : ResponseCmd} (readable : ContactReadable conf cmd)
    {responder : Responder} (clean : ∀ value ∈ responder.values, HeaderValue value)
    (bodySize : Nat) : Readable (responder.headers conf cmd bodySize) where
  no_colon line member := (headers_cases readable responder bodySize line member).1.no_colon
  no_newline line member :=
    (headers_cases readable responder bodySize line member).1.is_line.no_lf
  no_via line member := (headers_cases readable responder bodySize line member).1.no_via
  values line member := by
    rcases (headers_cases readable responder bodySize line member).2 with held | own
    · exact clean line.2 held
    · exact own.readable

/-- A header line is calm when its value goes well with the line end after it. -/
theorem calm_printLine {name value : Text} (own : IsLine name) (nonempty : name ≠ [])
    (no_newline : '\n' ∉ value) (no_pair : ¬"\r\r".toList <:+: value)
    (last : value.getLast? ≠ some '\r') : Calm (printLine (name, value)) where
  nonempty := by simp [printLine, nonempty]
  no_newline := by simp [printLine, own.no_lf, no_newline]
  no_pair := by
    intro inside
    have absent : '\r' ∉ name ++ ": ".toList := by simp [own.no_cr]
    exact no_pair (infix_pair_of_append absent inside)
  last := by
    rw [printLine, List.getLast?_append]
    cases ends : value.getLast? with
    | none => simp
    | some c => simpa [ends] using last
  first := by
    intro first
    rw [printLine, List.append_assoc, List.head?_append_of_ne_nil _ nonempty] at first
    exact own.no_cr (List.mem_of_head? first)

/-- No value held goes badly with a line end. -/
def GoesWithLineEnds (responder : Responder) : Prop :=
  ∀ value ∈ responder.values, value.getLast? ≠ some '\r'

theorem calm_headerLines {conf : Conf} {cmd : ResponseCmd} (readable : ContactReadable conf cmd)
    {responder : Responder} (held : responder.Held) (goes : GoesWithLineEnds responder)
    (bodySize : Nat) :
    ∀ line ∈ statusLine cmd :: (responder.headerLines conf cmd bodySize).map printLine,
      Calm line := by
  have of_held : ∀ {name value : Text}, IsLine name → name ≠ [] → value ∈ responder.values →
      Calm (printLine (name, value)) := fun own nonempty member =>
    calm_printLine own nonempty (held _ member).1.1 (held _ member).2 (goes _ member)
  intro line member
  rcases List.mem_cons.mp member with rfl | member
  · have is_line : IsLine (statusLine cmd) := by cases cmd <;> exact ⟨by decide, by decide⟩
    exact is_line.calm (by cases cmd <;> decide)
  · obtain ⟨⟨name, value⟩, listed, rfl⟩ := List.mem_map.mp member
    rcases List.mem_append.mp listed with via | other
    · obtain ⟨via, stands, same⟩ := List.mem_map.mp via
      obtain ⟨rfl, rfl⟩ := Prod.mk.inj same
      exact of_held ⟨by decide, by decide⟩ (by decide) (List.mem_append_left _ stands)
    · obtain ⟨own, held_value | own_value⟩ :=
        headers_cases readable responder bodySize _ other
      · exact of_held own.is_line own.nonempty held_value
      · exact calm_printLine own.is_line own.nonempty own_value.readable.1 own_value.no_pair
          own_value.last

/-- The value that a line printed for a held value ends in goes badly with the line end. -/
theorem exists_printLine_eq {name value : Text} (clean : HeaderValue value)
    (no_pair : ¬"\r\r".toList <:+: value) (last : value.getLast? = some '\r') :
    ∃ front c, (c ≠ '\r' ∧ c ≠ '\n') ∧ printLine (name, value) = front ++ [c, '\r'] := by
  obtain ⟨before, rfl⟩ := List.getLast?_eq_some_iff.mp last
  rcases List.eq_nil_or_concat' before with rfl | ⟨front, c, rfl⟩
  · exact ⟨name ++ [':'], ' ', by decide, by simp [printLine]⟩
  · refine ⟨name ++ ": ".toList ++ front, c, ⟨?_, ?_⟩, by simp [printLine]⟩
    · rintro rfl
      exact no_pair ⟨front, [], by simp⟩
    · rintro rfl
      exact clean.1 (by simp)

/-- The last header line of a response without a body is the server's own. -/
theorem exists_headers_eq (conf : Conf) (responder : Responder) {cmd : ResponseCmd}
    (headerOnly : cmd ∈ [.trying, .ringing, .ok]) :
    ∃ own line front d, (d ≠ '\r' ∧ d ≠ '\n') ∧ printLine line = front ++ [d] ∧
      responder.headers conf cmd 0 =
        [("Call-ID".toList, responder.callId), ("From".toList, responder.fromHeader),
          ("To".toList, responder.toHeader), ("CSeq".toList, responder.cSeq)] ++ own ++ [line] := by
  simp only [List.mem_cons, List.not_mem_nil, or_false] at headerOnly
  rcases headerOnly with rfl | rfl | rfl
  · exact ⟨[("Server".toList, "CBSipStack 0.0.1".toList)], ("Content-Length".toList, "0".toList),
      "Content-Length: ".toList, '0', by decide, rfl, rfl⟩
  · refine ⟨[("Server".toList, "CBSipStack 0.0.1".toList), ("Content-Length".toList, natText 0),
      ("Allow".toList, "INVITE,ACK,CANCEL,OPTIONS,BYE".toList)],
      ("Contact".toList, "<sip:".toList ++ conf.serverIpAddress ++ ":".toList ++
        intText conf.defaultSipPort ++ ">".toList),
      "Contact".toList ++ ": ".toList ++ ("<sip:".toList ++ conf.serverIpAddress ++ ":".toList ++
        intText conf.defaultSipPort), '>', by decide, ?_, rfl⟩
    rw [printLine, ← List.append_assoc]
    rfl
  · exact ⟨[("Server".toList, "CBSipStack 0.0.1".toList)], ("Content-Length".toList, "0".toList),
      "Content-Length: ".toList, '0', by decide, rfl, rfl⟩

/-- Every value held stands on a line of its own. -/
theorem exists_line_of_mem_values {responder : Responder} {value : Text}
    (member : value ∈ responder.values) :
    ∃ name before after, responder.vias.map (fun via => ("Via".toList, via)) ++
      [("Call-ID".toList, responder.callId), ("From".toList, responder.fromHeader),
        ("To".toList, responder.toHeader), ("CSeq".toList, responder.cSeq)] =
          before ++ (name, value) :: after := by
  have listed : ∃ name, (name, value) ∈ responder.vias.map (fun via => ("Via".toList, via)) ++
      [("Call-ID".toList, responder.callId), ("From".toList, responder.fromHeader),
        ("To".toList, responder.toHeader), ("CSeq".toList, responder.cSeq)] := by
    simp only [values, List.mem_append, List.mem_cons, List.not_mem_nil, or_false] at member
    rcases member with via | rfl | rfl | rfl | rfl
    · exact ⟨"Via".toList, List.mem_append_left _ (List.mem_map_of_mem via)⟩
    · exact ⟨"Call-ID".toList, by simp⟩
    · exact ⟨"From".toList, by simp⟩
    · exact ⟨"To".toList, by simp⟩
    · exact ⟨"CSeq".toList, by simp⟩
  obtain ⟨name, stands⟩ := listed
  obtain ⟨before, after, lines⟩ := List.append_of_mem stands
  exact ⟨name, before, after, lines⟩

/-- A response without a body is accepted as such, and what is read from it is what the responder
holds: there is no other header line in it. -/
structure ReadsBack (conf : Conf) (responder : Responder) (cmd : ResponseCmd) (text : Text)
    (msg : Msg) : Prop where
  /-- The text is a message. -/
  accepted : Msg.new text = .ok msg
  /-- Nothing is left for the body. -/
  empty_body : ∃ block, split sectionDelimiter text = [block, []]
  /-- The headers are those that were printed, the last one first. -/
  lines : msg.sipHeader.headerKvs = (responder.headers conf cmd 0).reverse
  /-- The Via values. -/
  vias : msg.sipHeader.vias = responder.vias
  /-- Call-ID. -/
  callId : msg.sipHeader.callId = .ok responder.callId
  /-- From. -/
  fromHeader : msg.sipHeader.fromHeader = .ok responder.fromHeader
  /-- To. -/
  toHeader : msg.sipHeader.toHeader = .ok responder.toHeader
  /-- CSeq. -/
  cseq : msg.sipHeader.cseq = .ok responder.cSeq
  /-- Content-Length. -/
  contentLength : msg.sipHeader.contentLength = .ok 0

/-- The values of a response that is read back can all be read back, Contact among them. -/
theorem ReadsBack.contactReadable {conf : Conf} {responder : Responder} {cmd : ResponseCmd}
    {text : Text} {msg : Msg} (back : ReadsBack conf responder cmd text msg) :
    ContactReadable conf cmd := by
  intro printed
  have listed : contact conf ∈ msg.sipHeader.vias ++ msg.sipHeader.headerKvs.map Prod.snd := by
    refine List.mem_append_right _ (List.mem_map.mpr ⟨("Contact".toList, contact conf), ?_, rfl⟩)
    rw [back.lines, List.mem_reverse]
    exact contact_mem_headers printed
  exact ⟨msg.sipHeader.clean _ listed, no_pair_of_msg back.accepted _ listed⟩

/-- A carriage return at the end of a value would make an empty line with the line end after it. -/
theorem ReadsBack.goesWithLineEnds {conf : Conf} {responder : Responder} {cmd : ResponseCmd}
    {okBody : Bool → Sdp.OkBody} {msg : Msg} (held : responder.Held)
    (headerOnly : cmd ∈ [.trying, .ringing, .ok])
    (back : ReadsBack conf responder cmd (responder.generate conf okBody cmd) msg) :
    GoesWithLineEnds responder := by
  intro value member last
  have generated := generate_headerOnly conf responder okBody headerOnly
  have two := Msg.length_split back.accepted
  obtain ⟨own, line, lineFront, d, ordinary_d, line_eq, headers⟩ :=
    exists_headers_eq conf responder headerOnly
  obtain ⟨name, before, after, listed⟩ := exists_line_of_mem_values member
  obtain ⟨front, c, ordinary_c, printed⟩ :=
    @exists_printLine_eq name value (held value member).1 (held value member).2 last
  have lines : responder.headerLines conf cmd 0 =
      before ++ (name, value) :: (after ++ own) ++ [line] := by
    rw [headerLines, headers, ← List.append_assoc, ← List.append_assoc, listed]
    simp only [List.append_assoc, List.cons_append]
  let print : List (Text × Text) → Text := fun lines =>
    lines.flatMap fun line => printLine line ++ "\r\n".toList
  have text : responder.generate conf okBody cmd =
      (statusLine cmd ++ "\r\n".toList ++ print before ++ front) ++ c :: ("\r\r".toList ++
        (('\n' :: (print (after ++ own) ++ lineFront)) ++ d :: ("\r\n\r\n".toList ++ []))) := by
    have empty_line : "\r\n\r\n".toList = "\r\n".toList ++ "\r\n".toList := rfl
    have line_end : "\r\n".toList = ['\r', '\n'] := rfl
    have pair : "\r\r".toList = ['\r', '\r'] := rfl
    rw [generated, empty_line, ← List.append_assoc, block_append, header, lines]
    simp only [List.flatMap_append, List.flatMap_cons, List.flatMap_nil, printed, line_eq,
      line_end, pair, print, List.append_assoc, List.cons_append, List.nil_append,
      List.append_nil]
  have three := @three_le_length_split c d ordinary_c ordinary_d
    (statusLine cmd ++ "\r\n".toList ++ print before ++ front)
    ('\n' :: (print (after ++ own) ++ lineFront)) "\r\r".toList (by decide) (fun rest => rfl)
  rw [← text] at three
  omega

/-- Where no value does, the response is cut at its one empty line. -/
theorem exists_readsBack {conf : Conf} {responder : Responder} (held : responder.Held)
    (okBody : Bool → Sdp.OkBody) {cmd : ResponseCmd} (headerOnly : cmd ∈ [.trying, .ringing, .ok])
    (goes : GoesWithLineEnds responder) (readable : ContactReadable conf cmd) :
    ∃ msg, ReadsBack conf responder cmd (responder.generate conf okBody cmd) msg := by
  have generated := generate_headerOnly conf responder okBody headerOnly
  have cut := split_block (calm_headerLines readable held goes 0) []
  obtain ⟨header, parsed, commandLine, vias, kvs⟩ := new_block (fun via member =>
    held.clean.vias via member) (readable_headers readable (fun value member =>
      (held value member).1) 0)
  obtain ⟨callId, fromHeader, toHeader, cseq, length⟩ := fields_of_headers kvs
  have pieces : split sectionDelimiter (responder.generate conf okBody cmd) =
      [responder.block conf cmd 0, []] := by
    rw [generated, ← List.append_nil "\r\n\r\n".toList]
    exact cut
  have described : Sdp.Header.new [] = .ok Sdp.Header.blank := rfl
  have none_left : header.contentLength = .ok 0 := by
    rw [Header.contentLength, length]
    rfl
  refine ⟨⟨header, Sdp.Header.blank⟩, ?_, ⟨_, pieces⟩, kvs, vias, callId, fromHeader, toHeader,
    cseq, none_left⟩
  exact Msg.new_eq_ok.mpr ⟨_, _, pieces, parsed, described⟩

theorem readsBack_iff_of_held (conf : Conf) {responder : Responder} (held : responder.Held)
    (okBody : Bool → Sdp.OkBody) {cmd : ResponseCmd}
    (headerOnly : cmd ∈ [.trying, .ringing, .ok]) :
    (∃ msg, ReadsBack conf responder cmd (responder.generate conf okBody cmd) msg) ↔
      GoesWithLineEnds responder ∧ ContactReadable conf cmd := by
  constructor
  · rintro ⟨msg, back⟩
    exact ⟨back.goesWithLineEnds held headerOnly, back.contactReadable⟩
  · rintro ⟨goes, readable⟩
    exact exists_readsBack held okBody headerOnly goes readable

/-- A response without a body is read back if and only if no value held goes badly with the line
end after it, and the server's own address can be read back. -/
theorem readsBack_iff (conf : Conf) {responder : Responder} (serves : Serves responder)
    (okBody : Bool → Sdp.OkBody) {cmd : ResponseCmd}
    (headerOnly : cmd ∈ [.trying, .ringing, .ok]) :
    (∃ msg, ReadsBack conf responder cmd (responder.generate conf okBody cmd) msg) ↔
      GoesWithLineEnds responder ∧ ContactReadable conf cmd :=
  readsBack_iff_of_held conf serves.held okBody headerOnly

theorem readsBack_iff_sample :
    ∃ responder, Serves responder ∧ ∀ okBody, ((∃ msg, ReadsBack sampleConf responder .trying
      (responder.generate sampleConf okBody .trying) msg) ↔
        GoesWithLineEnds responder ∧ ContactReadable sampleConf .trying) := by
  obtain ⟨call, responses, answered⟩ := exists_answered_sampleInvite
  obtain ⟨msg, responder, -, -, -, serves⟩ := exists_serves_of_answered answered
  exact ⟨responder, serves, fun okBody =>
    readsBack_iff sampleConf serves okBody (by decide)⟩

theorem isLiteral_sampleConf : sampleConf.IsLiteral :=
  List.all_iff_forall_prop.mp (by decide)

/-- A sample INVITE whose header lines do not end like the empty line after them. -/
def sampleMixedInvite : Text :=
  sampleRequest "INVITE" "k1" ++
    "\r\n\nm=audio 4000 RTP/AVP 101\r\na=rtpmap:101 opus/48000/2\r\n".toList

/-- The responses to an INVITE with mixed line ends are not read back. -/
theorem mixed_line_ends_not_read_back :
    ¬∀ conf responder okBody cmd, Conf.IsLiteral conf → Serves responder →
      cmd ∈ [ResponseCmd.trying, .ringing, .ok] →
        ∃ msg, ReadsBack conf responder cmd (responder.generate conf okBody cmd) msg := by
  intro claimed
  obtain ⟨call, responses, answered⟩ :=
    @exists_answered_of_isSome sampleMixedInvite (by decide +kernel)
  obtain ⟨msg, responder, parsed, held, -, serves⟩ := exists_serves_of_answered answered
  have counted : ((Msg.new sampleMixedInvite).toOption.bind fun msg =>
      msg.sipHeader.cseq.toOption) = some "1 INVITE\r".toList := by decide +kernel
  have cSeq : responder.cSeq = "1 INVITE\r".toList := by
    simpa [parsed, held, Except.toOption] using counted
  have back := claimed sampleConf responder (fun _ => ⟨[], [], []⟩) .trying isLiteral_sampleConf
    serves (by decide)
  have goes := (readsBack_iff_of_held sampleConf serves.held _ (by decide)).mp back
  refine goes.1 "1 INVITE\r".toList ?_ (by decide)
  simp [values, cSeq]

end Sip
end Contest
