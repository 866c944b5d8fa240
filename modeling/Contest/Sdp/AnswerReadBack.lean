import Contest.Sdp.Lines
import Contest.Sdp.OkBody
import Contest.Sdp.RtpMap

/-!
# Reading the answer back

`SDP::OkBody` writes three collections of lines, and `SDP::Header` finds its way through them by the
names of the attributes.  Every attribute is a name, or a name and a value with a colon between
them.
-/

namespace Contest
namespace Sdp

open Splitting

/-- An attribute of a session description. -/
structure Attribute where
  /-- The name. -/
  name : Text
  /-- The value, if there is one. -/
  value : Option Text
  /-- The name ends at the first colon. -/
  name_clean : ':' ∉ name

namespace Attribute

/-- The attribute as it is written. -/
def text (item : Attribute) : Text := item.name ++ (item.value.map (':' :: ·)).getD []

theorem splitString_text (item : Attribute) :
    splitString ":" item.text =
      item.name :: (item.value.map (splitString ":")).getD [] := by
  cases given : item.value with
  | none =>
      rw [text, given, Option.map_none, Option.getD_none, List.append_nil]
      exact split_word_of_not_mem item.name_clean
  | some value =>
      rw [text, given, Option.map_some, Option.getD_some]
      exact split_word_singleton item.name_clean value

/-- An attribute that starts with a name and a colon has this name. -/
theorem name_eq_of_start {item : Attribute} {name : Text} (clean : ':' ∉ name)
    (starts : name ++ [':'] <+: item.text) : item.name = name := by
  obtain ⟨rest, joined⟩ := starts
  have pieces := item.splitString_text
  rw [← joined, List.append_assoc] at pieces
  have first : splitString ":" (name ++ ([':'] ++ rest)) = name :: splitString ":" rest :=
    split_word_singleton clean rest
  rw [first] at pieces
  exact (List.cons.inj pieces).1.symm

theorem no_colon_in_rtpmap : ':' ∉ "rtpmap".toList := by decide

theorem scanRtpMap_eq_none {item : Attribute} (other : item.name ≠ "rtpmap".toList) :
    Header.scanRtpMap item.text = none := by
  have absent : ¬"rtpmap:".toList <+: item.text := fun starts =>
    other (name_eq_of_start no_colon_in_rtpmap starts)
  rw [Header.scanRtpMap, Header.after?, if_neg absent]
  rfl

/-- Only attributes of the name count for the map. -/
theorem rtpMapLines_filter (items : List Attribute) :
    Header.rtpMapLines (items.map text) =
      Header.rtpMapLines ((items.filter fun item => item.name = "rtpmap".toList).map text) := by
  induction items with
  | nil => rfl
  | cons item items ih =>
      by_cases same : item.name = "rtpmap".toList
      · rw [List.filter_cons_of_pos (by exact decide_eq_true same), List.map_cons, List.map_cons,
          Header.rtpMapLines, Header.rtpMapLines, ih]
      · rw [List.filter_cons_of_neg (by exact fun chosen => same (of_decide_eq_true chosen)),
          List.map_cons, Header.rtpMapLines, scanRtpMap_eq_none same]
        exact ih

/-- The value of an ICE attribute is that of the last attribute with the name. -/
theorem iceValue_eq (name : String) {items : List Attribute}
    (simple : ∀ item ∈ items.filter fun item => item.name = name.toList,
      ':' ∉ item.value.getD [':']) :
    Header.iceValue name (items.map text) =
      ((items.filter fun item => item.name = name.toList).filterMap value).getLast?.getD [] := by
  rw [Header.iceValue]
  -- an attribute that is read replaces whatever has been read before
  generalize ([] : Text) = current
  induction items generalizing current with
  | nil => rfl
  | cons item items ih =>
      rw [List.map_cons, List.foldl_cons, item.splitString_text]
      by_cases same : item.name = name.toList
      · rw [List.filter_cons_of_pos (by simpa using same)] at simple
        rw [ih fun other member => simple other (List.mem_cons_of_mem item member)]
        have clean := simple item List.mem_cons_self
        cases given : item.value with
        | none => simp [given] at clean
        | some value =>
            rw [given, Option.getD_some] at clean
            have single : splitString ":" value = [value] := split_word_of_not_mem clean
            rw [List.filter_cons_of_pos (by simpa using same),
              List.filterMap_cons_some given, List.getLast?_cons, Option.getD_some,
              Option.map_some, Option.getD_some, single]
            simp only [if_pos same]
      · rw [List.filter_cons_of_neg (by simpa using same)] at simple ⊢
        rw [ih simple]
        split
        · rename_i k v pieces
          rw [if_neg ((List.cons.inj pieces).1 ▸ same)]
        · rfl

/-- The candidates are told by their name. -/
theorem filter_candidates (items : List Attribute) :
    (items.map text).filter (fun line =>
      (splitString ":" line).head? = some "candidate".toList) =
        (items.filter fun item => item.name = "candidate".toList).map text := by
  rw [List.filter_map]
  congr 2
  funext item
  simp only [Function.comp, item.splitString_text, List.head?_cons, Option.some.injEq]

end Attribute

namespace Header

theorem after?_append (beginning : String) (rest : Text) :
    after? beginning (beginning.toList ++ rest) = some rest := by
  rw [after?, if_pos (List.prefix_append _ _), ← String.length_toList, List.drop_left]

theorem digits?_natText (n : Nat) {rest : Text} (no_digit : rest.head?.all (!·.isDigit) = true) :
    digits? (natText n ++ rest) = some (natText n, rest) := by
  have digits : ∀ c ∈ natText n, c.isDigit = true := fun c member => natText_isDigit member
  have none_taken : rest.takeWhile Char.isDigit = [] ∧ rest.dropWhile Char.isDigit = rest := by
    cases rest with
    | nil => exact ⟨rfl, rfl⟩
    | cons c rest =>
        have other : ¬c.isDigit = true := by simpa using no_digit
        exact ⟨List.takeWhile_cons_of_neg other, List.dropWhile_cons_of_neg other⟩
  rw [digits?, List.takeWhile_append_of_pos digits, List.dropWhile_append_of_pos digits,
    none_taken.1, none_taken.2, List.append_nil, if_neg (natText_ne_nil n)]

theorem iceCandidate_of_split {value a b c d e f g h : Text}
    (pieces : splitString " " value = [a, b, c, d, e, f, g, h]) (downcase : Text → Text) :
    iceCandidate downcase value = .ok ⟨a, b, downcase c, d, e, f, h⟩ := by
  rw [iceCandidate, pieces]
  rfl

theorem scanRtcp_eq_some (port : Nat) {host : Text} (host_ne : host ≠ []) :
    scanRtcp ("rtcp:".toList ++ (natText port ++ (" IN IP4 ".toList ++ host))) =
      some (natText port, host) := by
  have behind : (" IN IP4 ".toList ++ host).head?.all (!·.isDigit) = true := rfl
  simp only [scanRtcp, after?_append, digits?_natText port behind, Option.bind_eq_bind,
    Option.bind_some, Option.orElse_some, if_neg host_ne]

end Header

/-- What an answer is written from. -/
structure AnswerParts where
  /-- The configuration, of which the address is used. -/
  conf : Conf
  /-- The address is a word without line ends. -/
  address_word : conf.serverIpAddress ≠ [] ∧ ' ' ∉ conf.serverIpAddress ∧
    '\n' ∉ conf.serverIpAddress
  /-- The port of the transport. -/
  port : Nat
  /-- It leaves room for the next one. -/
  port_le : port ≤ 65534
  /-- The user fragment of the server. -/
  userfrag : Text
  /-- It consists of the letters from a to z. -/
  userfrag_letters : ∀ c ∈ userfrag, c.isLower = true
  /-- The password of the server. -/
  password : Text
  /-- It consists of the letters from a to z. -/
  password_letters : ∀ c ∈ password, c.isLower = true
  /-- The random session id. -/
  sessionId : Text
  /-- It consists of digits. -/
  sessionId_digits : ∀ c ∈ sessionId, c.isDigit = true

namespace AnswerParts

variable (parts : AnswerParts)

/-- The address of the server. -/
abbrev address : Text := parts.conf.serverIpAddress

/-- The lines before the attributes. -/
def fields (forWebsocket : Bool) : List Line :=
  [⟨'v', "0".toList, Line.key_v⟩,
    ⟨'o', "- ".toList ++ parts.sessionId ++ " 1 IN IP4 ".toList ++ parts.address, by decide⟩,
    ⟨'s', "AGoodSessionForMakeGreatGlory".toList, by decide⟩,
    ⟨'c', "IN IP4 ".toList ++ parts.address, by decide⟩,
    ⟨'t', "0 0".toList, by decide⟩,
    ⟨'m', "audio ".toList ++ natText parts.port ++
      if forWebsocket then " UDP/TLS/RTP/SAVPF 101 0".toList else " RTP/AVP 101 0".toList,
      Line.key_m⟩]

/-- The value of a candidate. -/
def candidateValue (start : String) (port : Nat) : Text :=
  start.toList ++ parts.address ++ " ".toList ++ natText port ++ " typ host".toList

/-- The attributes of every answer. -/
def commonItems : List Attribute :=
  [⟨"rtcp".toList, some (natText (parts.port + 1) ++ " IN IP4 ".toList ++ parts.address),
      by decide⟩,
    ⟨"rtpmap".toList, some "101 opus/48000/2".toList, by decide⟩,
    ⟨"rtpmap".toList, some "0 PCMU/8000".toList, by decide⟩,
    ⟨"sendrecv".toList, none, by decide⟩]

/-- The attributes of an answer over a WebSocket. -/
def iceItems : List Attribute :=
  [⟨"setup".toList, some "passive".toList, by decide⟩,
    ⟨"fingerprint".toList,
      some "sha-1 4E:D9:E7:BD:AA:E3:F6:C8:A0:4B:E8:D6:C7:74:88:33:53:31:EE:76".toList, by decide⟩,
    ⟨"ice-lite".toList, none, by decide⟩,
    ⟨"rtcp-mux".toList, none, by decide⟩,
    ⟨"ice-ufrag".toList, some parts.userfrag, by decide⟩,
    ⟨"ice-pwd".toList, some parts.password, by decide⟩,
    ⟨"candidate".toList, some (parts.candidateValue "0 1 udp 2130706431 " parts.port), by decide⟩,
    ⟨"candidate".toList, some (parts.candidateValue "0 2 udp 2130706430 " (parts.port + 1)),
      by decide⟩]

/-- The attributes. -/
def items (forWebsocket : Bool) : List Attribute :=
  parts.commonItems ++ if forWebsocket then parts.iceItems else []

/-- The lines of the answer. -/
def lines (forWebsocket : Bool) : List Line :=
  parts.fields forWebsocket ++ (parts.items forWebsocket).map fun item =>
    ⟨'a', item.text, Line.key_a⟩

/-- The answer. -/
def answer (forWebsocket : Bool) : OkBody :=
  .ofPort parts.conf forWebsocket parts.port parts.userfrag parts.password parts.sessionId

theorem body_answer (forWebsocket : Bool) :
    (parts.answer forWebsocket).body =
      ((parts.lines forWebsocket).map Line.text).flatMap fun line => line ++ "\r\n".toList := by
  have fields : (parts.answer forWebsocket).session ++ (parts.answer forWebsocket).time =
      (parts.fields forWebsocket).map fun line => ([line.key], line.value) := rfl
  have media : (parts.answer forWebsocket).media =
      (parts.items forWebsocket).map fun item => 'a' :: '=' :: item.text := by
    cases forWebsocket <;> rfl
  simp only [OkBody.body, fields, media, lines, List.map_append, List.flatMap_append,
    List.flatMap_map, List.map_map]
  rfl

theorem absent_append {c : Char} {front rest : Text} (first : c ∉ front) (second : c ∉ rest) :
    c ∉ front ++ rest := fun inside => (List.mem_append.mp inside).elim first second

theorem no_newline_natText (n : Nat) : '\n' ∉ natText n := fun inside =>
  absurd (natText_isDigit inside) (by decide)

theorem no_newline_fields {line : Line} {forWebsocket : Bool}
    (member : line ∈ parts.fields forWebsocket) : '\n' ∉ line.text := by
  have address : '\n' ∉ parts.address := parts.address_word.2.2
  have session : '\n' ∉ parts.sessionId := fun inside =>
    absurd (parts.sessionId_digits _ inside) (by decide)
  have profile : '\n' ∉
      if forWebsocket then " UDP/TLS/RTP/SAVPF 101 0".toList else " RTP/AVP 101 0".toList := by
    cases forWebsocket <;> decide
  have values : ∀ line ∈ parts.fields forWebsocket, line.key ≠ '\n' ∧ '\n' ∉ line.value := by
    simp only [fields, List.forall_mem_cons]
    refine ⟨by decide, ⟨by decide, ?_⟩, by decide, ⟨by decide, ?_⟩, by decide,
      ⟨by decide, ?_⟩, by simp⟩
    · exact absent_append (absent_append (absent_append (by decide) session) (by decide)) address
    · exact absent_append (by decide) address
    · exact absent_append (absent_append (by decide) (no_newline_natText _)) profile
  obtain ⟨key, value⟩ := values line member
  simpa [Line.text, key.symm] using value

theorem no_newline_candidateValue {start : String} (clean : '\n' ∉ start.toList) (port : Nat) :
    '\n' ∉ parts.candidateValue start port :=
  absent_append (absent_append (absent_append (absent_append clean parts.address_word.2.2)
    (by decide)) (no_newline_natText port)) (by decide)

theorem no_newline_items {item : Attribute} {forWebsocket : Bool}
    (member : item ∈ parts.items forWebsocket) : '\n' ∉ item.text := by
  have userfrag : '\n' ∉ parts.userfrag := fun inside =>
    absurd (parts.userfrag_letters _ inside) (by decide)
  have password : '\n' ∉ parts.password := fun inside =>
    absurd (parts.password_letters _ inside) (by decide)
  have common : ∀ item ∈ parts.commonItems,
      '\n' ∉ item.name ∧ '\n' ∉ item.value.getD [] := by
    simp only [commonItems, List.forall_mem_cons]
    refine ⟨⟨by decide, ?_⟩, by decide, by decide, by decide, by simp⟩
    exact absent_append (absent_append (no_newline_natText _) (by decide)) parts.address_word.2.2
  have ice : ∀ item ∈ parts.iceItems, '\n' ∉ item.name ∧ '\n' ∉ item.value.getD [] := by
    simp only [iceItems, List.forall_mem_cons]
    exact ⟨by decide, by decide, by decide, by decide, ⟨by decide, userfrag⟩,
      ⟨by decide, password⟩, ⟨by decide, parts.no_newline_candidateValue (by decide) _⟩,
      ⟨by decide, parts.no_newline_candidateValue (by decide) _⟩, by simp⟩
  obtain ⟨name, value⟩ : '\n' ∉ item.name ∧ '\n' ∉ item.value.getD [] := by
    rcases List.mem_append.mp member with member | member
    · exact common item member
    · cases forWebsocket with
      | false => simp at member
      | true => exact ice item member
  apply absent_append name
  cases given : item.value with
  | none => simp
  | some text => simpa [given] using value

theorem no_newline {line : Text} {forWebsocket : Bool}
    (member : line ∈ (parts.lines forWebsocket).map Line.text) : '\n' ∉ line := by
  obtain ⟨source, listed, rfl⟩ := List.mem_map.mp member
  rcases List.mem_append.mp listed with listed | listed
  · exact parts.no_newline_fields listed
  · obtain ⟨item, among, rfl⟩ := List.mem_map.mp listed
    simpa [Line.text] using parts.no_newline_items among

/-- The lines of the answer are what is read of it. -/
theorem new_body (forWebsocket : Bool) :
    ∃ header, Header.new (parts.answer forWebsocket).body = .ok header ∧
      header.originator =
        "- ".toList ++ parts.sessionId ++ " 1 IN IP4 ".toList ++ parts.address ∧
      header.connectionInfo = "IN IP4 ".toList ++ parts.address ∧
      header.media = "audio ".toList ++ natText parts.port ++
        (if forWebsocket then " UDP/TLS/RTP/SAVPF 101 0".toList else " RTP/AVP 101 0".toList) ∧
      header.sessionAttributes = (parts.items forWebsocket).map Attribute.text ∧
      header.iceUserfrag = Header.iceValue "ice-ufrag" header.sessionAttributes ∧
      header.icePassword = Header.iceValue "ice-pwd" header.sessionAttributes ∧
      header.candidateAttributeLines = header.sessionAttributes.filter fun line =>
        (splitString ":" line).head? = some "candidate".toList := by
  have written : (eachLine (parts.answer forWebsocket).body).filter (· ≠ []) =
      (parts.lines forWebsocket).map Line.text := by
    rw [body_answer, eachLine_flatMap fun line member => parts.no_newline member,
      List.filter_eq_self]
    intro line member
    obtain ⟨source, -, rfl⟩ := List.mem_map.mp member
    simp [Line.text]
  obtain ⟨header, read, keeps, userfrag, password, candidates⟩ := Header.new_of_lines written
  refine ⟨header, read, ?_, ?_, ?_, ?_, userfrag, password, candidates⟩
  · rw [keeps.originator]
    cases forWebsocket <;> rfl
  · rw [keeps.connectionInfo]
    cases forWebsocket <;> rfl
  · rw [keeps.media]
    cases forWebsocket <;> rfl
  · rw [keeps.sessionAttributes]
    cases forWebsocket <;> rfl

/-- A candidate as it is read back. -/
def candidate (componentId priority : Text) (port : Nat) : IceCandidate where
  candidateId := "candidate:0".toList
  componentId := componentId
  protocol := "udp".toList
  priority := priority
  connectionAddress := parts.address
  port := natText port
  candType := "host".toList

/-- What is read of an answer. -/
structure ReadBack (downcase : Text → Text) (forWebsocket : Bool) (header : Header) : Prop where
  /-- The originator. -/
  originator : header.originator =
    "- ".toList ++ parts.sessionId ++ " 1 IN IP4 ".toList ++ parts.address
  /-- The address of the connection. -/
  connectionIp : header.connectionIp = .ok parts.address
  /-- The port. -/
  mediaPort : header.mediaPort = .ok parts.port
  /-- The address and the port for RTCP. -/
  rtcp : header.rtcpConnectAddrAndPort = .ok (parts.address, ((parts.port + 1 : Nat) : Int))
  /-- The numbers of the codecs. -/
  rtpMap : header.rtpMap = .ok [("PCMU/8000".toList, 0), ("opus/48000/2".toList, 101)]
  /-- The user fragment. -/
  iceUserfrag : header.iceUserfrag = if forWebsocket then parts.userfrag else []
  /-- The password. -/
  icePassword : header.icePassword = if forWebsocket then parts.password else []
  /-- The candidates. -/
  iceCandidates : header.iceCandidates downcase = .ok
    (if forWebsocket then
      [parts.candidate "1".toList "2130706431".toList parts.port,
        parts.candidate "2".toList "2130706430".toList (parts.port + 1)]
    else [])

variable {parts} {header : Header} {forWebsocket : Bool}

theorem connectionIp_eq (kept : header.connectionInfo = "IN IP4 ".toList ++ parts.address) :
    header.connectionIp = .ok parts.address := by
  have no_word : ¬"IN IP4 ".toList <:+: parts.address := fun inside =>
    parts.address_word.2.1 (inside.subset (by decide))
  have pieces : splitString "IN IP4 " header.connectionInfo = [[], parts.address] := by
    rw [kept]
    have cut := @split_append _ (word "IN IP4 ".toList) [] "IN IP4 ".toList parts.address
      (fun k inside => by simp at inside) (by decide) (word_append _ _)
    rw [split_of_quiet (quiet_word_of_absent no_word)] at cut
    exact cut
  rw [Header.connectionIp, pieces]
  rfl

theorem mediaPort_eq (kept : header.media = "audio ".toList ++ natText parts.port ++
    (if forWebsocket then " UDP/TLS/RTP/SAVPF 101 0".toList else " RTP/AVP 101 0".toList)) :
    header.mediaPort = .ok parts.port := by
  obtain ⟨rest, behind⟩ : ∃ rest,
      (if forWebsocket then " UDP/TLS/RTP/SAVPF 101 0".toList else " RTP/AVP 101 0".toList) =
        ' ' :: rest := by
    cases forWebsocket
    · exact ⟨_, rfl⟩
    · exact ⟨_, rfl⟩
  have digits : ' ' ∉ natText parts.port := fun inside =>
    absurd (natText_isDigit inside) (by decide)
  have value : header.media = "audio".toList ++ ' ' :: (natText parts.port ++ ' ' :: rest) := by
    rw [kept, behind, List.append_assoc]
    rfl
  have small := parts.port_le
  rw [Header.mediaPort, value, splitString_blank (by decide), splitString_blank digits]
  exact toI32_natText (by omega)

theorem rtcp_eq (kept : header.sessionAttributes = (parts.items forWebsocket).map Attribute.text) :
    header.rtcpConnectAddrAndPort = .ok (parts.address, ((parts.port + 1 : Nat) : Int)) := by
  have first : (parts.items forWebsocket).map Attribute.text =
      ("rtcp:".toList ++ (natText (parts.port + 1) ++ (" IN IP4 ".toList ++ parts.address))) ::
        (parts.items forWebsocket).tail.map Attribute.text := by
    rw [← List.append_assoc (natText _)]
    rfl
  have scanned := Header.scanRtcp_eq_some (parts.port + 1) parts.address_word.1
  have line : header.rtcpInfoLine =
      "rtcp:".toList ++ (natText (parts.port + 1) ++ (" IN IP4 ".toList ++ parts.address)) := by
    rw [Header.rtcpInfoLine, kept, first, List.find?_cons_of_pos (by rw [scanned]; rfl)]
    rfl
  have small := parts.port_le
  rw [Header.rtcpConnectAddrAndPort, line, scanned]
  simp only [toI32_natText (show parts.port + 1 < 2 ^ 31 by omega)]
  rfl

theorem rtpMap_eq
    (kept : header.sessionAttributes = (parts.items forWebsocket).map Attribute.text) :
    header.rtpMap = .ok [("PCMU/8000".toList, 0), ("opus/48000/2".toList, 101)] := by
  have mappings : ((parts.items forWebsocket).filter fun item => item.name = "rtpmap".toList).map
      Attribute.text = ["rtpmap:101 opus/48000/2".toList, "rtpmap:0 PCMU/8000".toList] := by
    cases forWebsocket <;> rfl
  have lines : Header.rtpMapLines header.sessionAttributes =
      .ok [(101, "opus/48000/2".toList), (0, "PCMU/8000".toList)] := by
    rw [kept, Attribute.rtpMapLines_filter, mappings]
    decide
  rw [Header.rtpMap, lines]
  rfl

theorem no_colon {letters : Text} (are_letters : ∀ c ∈ letters, c.isLower = true) :
    ':' ∉ letters := fun inside => absurd (are_letters _ inside) (by decide)

/-- Letters that only an answer over a WebSocket has under a name. -/
theorem iceValue_items {name : String} (clean : ':' ∉ name.toList) {letters : Text}
    (are_letters : ∀ c ∈ letters, c.isLower = true)
    (named : (parts.items forWebsocket).filter (fun item => item.name = name.toList) =
      if forWebsocket then [⟨name.toList, some letters, clean⟩] else [])
    (kept : header.sessionAttributes = (parts.items forWebsocket).map Attribute.text) :
    Header.iceValue name header.sessionAttributes = if forWebsocket then letters else [] := by
  rw [kept, Attribute.iceValue_eq, named]
  · cases forWebsocket <;> rfl
  · rw [named]
    intro item member
    cases forWebsocket with
    | false => exact absurd member List.not_mem_nil
    | true =>
        obtain rfl := List.mem_singleton.mp member
        exact no_colon are_letters

theorem iceUserfrag_eq
    (kept : header.sessionAttributes = (parts.items forWebsocket).map Attribute.text) :
    Header.iceValue "ice-ufrag" header.sessionAttributes =
      if forWebsocket then parts.userfrag else [] :=
  iceValue_items (by decide) parts.userfrag_letters (by cases forWebsocket <;> rfl) kept

theorem icePassword_eq
    (kept : header.sessionAttributes = (parts.items forWebsocket).map Attribute.text) :
    Header.iceValue "ice-pwd" header.sessionAttributes =
      if forWebsocket then parts.password else [] :=
  iceValue_items (by decide) parts.password_letters (by cases forWebsocket <;> rfl) kept

theorem candidateValue_eq (start : String) (port : Nat) :
    parts.candidateValue start port =
      start.toList ++ (parts.address ++ ' ' :: (natText port ++ ' ' :: "typ host".toList)) := by
  rw [candidateValue, List.append_assoc, List.append_assoc, List.append_assoc]
  rfl

/-- The words of a candidate are read back. -/
theorem iceCandidate_eq {downcase : Text → Text} (lower : downcase "udp".toList = "udp".toList)
    {componentId priority : Text} (componentId_word : ' ' ∉ componentId)
    (priority_word : ' ' ∉ priority) (port : Nat) :
    Header.iceCandidate downcase ("candidate:0".toList ++ ' ' :: (componentId ++
      ' ' :: ("udp".toList ++ ' ' :: (priority ++ ' ' :: (parts.address ++
        ' ' :: (natText port ++ ' ' :: "typ host".toList)))))) =
      .ok (parts.candidate componentId priority port) := by
  have digits : ' ' ∉ natText port := fun inside =>
    absurd (natText_isDigit inside) (by decide)
  have ending : splitString " " "typ host".toList = ["typ".toList, "host".toList] := by decide
  rw [Header.iceCandidate_of_split (by
    rw [splitString_blank (by decide), splitString_blank componentId_word,
      splitString_blank (by decide), splitString_blank priority_word,
      splitString_blank parts.address_word.2.1, splitString_blank digits, ending]), lower]
  rfl

theorem iceCandidates_eq {downcase : Text → Text}
    (lower : downcase "udp".toList = "udp".toList)
    (kept : header.sessionAttributes = (parts.items forWebsocket).map Attribute.text)
    (candidates : header.candidateAttributeLines = header.sessionAttributes.filter fun line =>
      (splitString ":" line).head? = some "candidate".toList) :
    header.iceCandidates downcase = .ok
      (if forWebsocket then
        [parts.candidate "1".toList "2130706431".toList parts.port,
          parts.candidate "2".toList "2130706430".toList (parts.port + 1)]
      else []) := by
  have named : (parts.items forWebsocket).filter (fun item => item.name = "candidate".toList) =
      if forWebsocket then parts.iceItems.drop 6 else [] := by
    cases forWebsocket <;> rfl
  rw [Header.iceCandidates, candidates, kept, Attribute.filter_candidates, named]
  cases forWebsocket with
  | false => rfl
  | true =>
      have texts : (parts.iceItems.drop 6).map Attribute.text =
          ["candidate:0".toList ++ ' ' :: ("1".toList ++ ' ' :: ("udp".toList ++
              ' ' :: ("2130706431".toList ++ ' ' :: (parts.address ++
                ' ' :: (natText parts.port ++ ' ' :: "typ host".toList))))),
            "candidate:0".toList ++ ' ' :: ("2".toList ++ ' ' :: ("udp".toList ++
              ' ' :: ("2130706430".toList ++ ' ' :: (parts.address ++
                ' ' :: (natText (parts.port + 1) ++ ' ' :: "typ host".toList)))))] := by
        have values : (parts.iceItems.drop 6).map Attribute.text =
            ["candidate:".toList ++ parts.candidateValue "0 1 udp 2130706431 " parts.port,
              "candidate:".toList ++
                parts.candidateValue "0 2 udp 2130706430 " (parts.port + 1)] := rfl
        rw [values, candidateValue_eq, candidateValue_eq]
        rfl
      rw [if_pos rfl, texts, List.mapM_cons, iceCandidate_eq lower (by decide) (by decide),
        List.mapM_cons, iceCandidate_eq lower (by decide) (by decide)]
      rfl

/-- An answer is read back, whatever it has been written from. -/
theorem readBack_answer (parts : AnswerParts) (forWebsocket : Bool) (downcase : Text → Text)
    (lower : ∀ text : Text, (∀ c ∈ text, c.isLower = true) → downcase text = text) :
    ∃ header, Header.new (parts.answer forWebsocket).body = .ok header ∧
      parts.ReadBack downcase forWebsocket header := by
  obtain ⟨header, read, originator, connection, media, kept, userfrag, password, candidates⟩ :=
    parts.new_body forWebsocket
  have udp : downcase "udp".toList = "udp".toList :=
    lower _ (List.all_iff_forall_prop.mp (by decide))
  refine ⟨header, read, ?_⟩
  exact {
    originator := originator
    connectionIp := connectionIp_eq connection
    mediaPort := mediaPort_eq media
    rtcp := rtcp_eq kept
    rtpMap := rtpMap_eq kept
    iceUserfrag := userfrag.trans (iceUserfrag_eq kept)
    icePassword := password.trans (icePassword_eq kept)
    iceCandidates := iceCandidates_eq udp kept candidates }

/-- Parts of an answer over a WebSocket. -/
def sample : AnswerParts where
  conf := {
    serverIpAddress := "192.0.2.1".toList
    defaultSipPort := 5060
    inetPton := fun _ => true }
  address_word := by decide
  port := 50000
  port_le := by decide
  userfrag := "abc".toList
  userfrag_letters := List.all_iff_forall_prop.mp (by decide)
  password := "xyz".toList
  password_letters := List.all_iff_forall_prop.mp (by decide)
  sessionId := "0123456780".toList
  sessionId_digits := List.all_iff_forall_prop.mp (by decide)

theorem map_toLower {text : Text} (letters : ∀ c ∈ text, c.isLower = true) :
    text.map Char.toLower = text := by
  have same : ∀ c ∈ text, Char.toLower c = id c := by
    intro c member
    have first : 97 ≤ c.toNat := of_decide_eq_true (Bool.and_eq_true_iff.mp (letters c member)).1
    apply dif_neg
    rintro ⟨-, upper⟩
    have last : c.toNat ≤ 90 := upper
    omega
  rw [List.map_congr_left same, List.map_id]

theorem readBack_answer_sample :
    ∃ header, Header.new (sample.answer true).body = .ok header ∧
      sample.ReadBack (List.map Char.toLower) true header :=
  readBack_answer sample true (List.map Char.toLower) fun _ letters => map_toLower letters

end AnswerParts
end Sdp
end Contest
