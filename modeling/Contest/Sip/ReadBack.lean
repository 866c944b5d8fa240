import Contest.Sip.Responder

/-!
# Reading responses back

A response is read by `SIP::Header` as the peer would read it: its header lines come back with the
names and values that the responder printed, since none of these contains a line feed or a header
separator.
-/

namespace Contest
namespace Sip

open Splitting

namespace Header

theorem readLine_printLine {name value : Text} (plain : ':' ∉ name) (clean : HeaderValue value) :
    readLine (Responder.printLine (name, value)) = .ok (name, value) := by
  have pieces : splitString ": " (Responder.printLine (name, value)) = [name, value] := by
    have last : splitString ": " value = [value] :=
      split_of_quiet (quiet_word_of_absent clean.2)
    rw [Responder.printLine, List.append_assoc, ← last]
    exact @split_append _ (word ": ".toList) name ": ".toList value
      (quiet_word_of_head_not_mem plain _) (by decide) (word_append _ _)
  rw [readLine, pieces]
  rfl

/-- Printed header lines are read back. -/
theorem readLines_printed {lines : List (Text × Text)}
    (readable : ∀ line ∈ lines, ':' ∉ line.1 ∧ HeaderValue line.2) :
    readLines (lines.map Responder.printLine) = .ok (lines.foldr record ([], [])) := by
  induction lines with
  | nil => rfl
  | cons line lines ih =>
      obtain ⟨plain, clean⟩ := readable line List.mem_cons_self
      have rest := ih fun other member => readable other (List.mem_cons_of_mem line member)
      rw [List.map_cons, readLines_cons_eq_ok]
      exact ⟨line, _, readLine_printLine plain clean, rest, rfl⟩

/-- The Via values come first and in order, the other headers after them and reversed. -/
theorem foldr_record (vias : List Text) {others : List (Text × Text)}
    (no_via : ∀ line ∈ others, line.1 ≠ "Via".toList) :
    (vias.map (fun via => ("Via".toList, via)) ++ others).foldr record ([], []) =
      (vias, others.reverse) := by
  have rest : others.foldr record ([], []) = ([], others.reverse) := by
    induction others with
    | nil => rfl
    | cons line others ih =>
        rw [List.foldr_cons, ih fun other member => no_via other (List.mem_cons_of_mem line member),
          record, if_neg (no_via line List.mem_cons_self), List.reverse_cons]
  induction vias with
  | nil => exact rest
  | cons via vias ih =>
      rw [List.map_cons, List.cons_append, List.foldr_cons, ih, record, if_pos rfl]

end Header

/-- Lines that each end in a line end are lines joined by line ends, and one more. -/
theorem flatMap_line_end (separator first : Text) (lines : List Text) :
    first ++ separator ++ (lines.flatMap fun line => line ++ separator) =
      separator.intercalate (first :: lines) ++ separator := by
  induction lines generalizing first with
  | nil => simp
  | cons line lines ih =>
      have rest := ih line
      rw [List.append_assoc] at rest
      rw [List.flatMap_cons, List.intercalate_cons_cons, List.append_assoc line, rest]
      simp only [List.append_assoc]

/-- Lines without line feeds are read back from their join. -/
theorem split_joined_lines {lines : List Text} (nonempty : lines ≠ [])
    (clean : ∀ line ∈ lines, '\n' ∉ line) :
    split lineEnd ("\r\n".toList.intercalate lines) = lines := by
  refine split_intercalate (by decide) (fun rest => rfl) nonempty ?_
  intro line member
  exact ⟨quiet_lineEnd (clean line member) [] (by simp),
    fun rest => quiet_lineEnd (clean line member) _ (by simp)⟩

namespace Responder

/-- The first line of a response. -/
def statusLine : ResponseCmd → Text
  | .trying => "SIP/2.0 100 Trying".toList
  | .ringing => "SIP/2.0 180 Ringing".toList
  | _ => "SIP/2.0 200 OK".toList

/-- The header block of a response. -/
def block (conf : Conf) (responder : Responder) (cmd : ResponseCmd) (bodySize : Nat) : Text :=
  "\r\n".toList.intercalate
    (statusLine cmd :: (responder.headerLines conf cmd bodySize).map printLine)

theorem block_append (conf : Conf) (responder : Responder) (cmd : ResponseCmd) (bodySize : Nat) :
    responder.block conf cmd bodySize ++ "\r\n".toList =
      statusLine cmd ++ "\r\n".toList ++ responder.header conf cmd bodySize := by
  rw [block, header, ← flatMap_line_end, List.flatMap_map]

/-- A response without a body is a header block and an empty line. -/
theorem generate_headerOnly (conf : Conf) (responder : Responder) (okBody : Bool → Sdp.OkBody)
    {cmd : ResponseCmd} (headerOnly : cmd ∈ [.trying, .ringing, .ok]) :
    responder.generate conf okBody cmd = responder.block conf cmd 0 ++ "\r\n\r\n".toList := by
  have text : responder.generate conf okBody cmd =
      statusLine cmd ++ "\r\n".toList ++ responder.header conf cmd 0 ++ "\r\n".toList := by
    simp only [List.mem_cons, List.not_mem_nil, or_false] at headerOnly
    rcases headerOnly with rfl | rfl | rfl <;> rfl
  rw [text, ← block_append, List.append_assoc]
  rfl

/-- A response with a body ends in a line end of its own after the body. -/
theorem generate_withBody (conf : Conf) (responder : Responder) (okBody : Bool → Sdp.OkBody)
    (forWebsocket : Bool) :
    responder.generate conf okBody (if forWebsocket then .okSdpWithIce else .okSdp) =
      responder.block conf (if forWebsocket then .okSdpWithIce else .okSdp)
          (okBody forWebsocket).body.length ++ "\r\n\r\n".toList ++
        ((okBody forWebsocket).body ++ "\r\n".toList) := by
  have two : "\r\n\r\n".toList = "\r\n".toList ++ "\r\n".toList := rfl
  have text : responder.generate conf okBody (if forWebsocket then .okSdpWithIce else .okSdp) =
      statusLine .okSdp ++ "\r\n".toList ++
        responder.header conf (if forWebsocket then .okSdpWithIce else .okSdp)
          (okBody forWebsocket).body.length ++
        "\r\n".toList ++ (okBody forWebsocket).body ++ "\r\n".toList := by
    cases forWebsocket <;> rfl
  have status : statusLine (if forWebsocket then .okSdpWithIce else .okSdp) =
      statusLine .okSdp := by
    cases forWebsocket <;> rfl
  rw [text, ← status, ← block_append, two]
  simp only [List.append_assoc]

/-- Everything that the responder prints can stand as the value of a header line. -/
structure Clean (responder : Responder) : Prop where
  /-- The value of Call-ID. -/
  callId : HeaderValue responder.callId
  /-- The value of From. -/
  fromHeader : HeaderValue responder.fromHeader
  /-- The value of To. -/
  toHeader : HeaderValue responder.toHeader
  /-- The value of CSeq. -/
  cSeq : HeaderValue responder.cSeq
  /-- The values of Via. -/
  vias : ∀ via ∈ responder.vias, HeaderValue via

theorem Clean.resetCSeq {responder : Responder} (clean : responder.Clean) {cseq : Text}
    (value : HeaderValue cseq) : (responder.resetCSeq cseq).Clean :=
  { clean with cSeq := value }

/-- The headers of a response without a body. -/
theorem headers_ok (conf : Conf) (responder : Responder) :
    responder.headers conf .ok 0 =
      [("Call-ID".toList, responder.callId), ("From".toList, responder.fromHeader),
        ("To".toList, responder.toHeader), ("CSeq".toList, responder.cSeq),
        ("Server".toList, "CBSipStack 0.0.1".toList), ("Content-Length".toList, "0".toList)] :=
  rfl

/-- The header lines of a response are readable. -/
structure Readable (lines : List (Text × Text)) : Prop where
  /-- The names have no colon. -/
  no_colon : ∀ line ∈ lines, ':' ∉ line.1
  /-- The names have no line feed. -/
  no_newline : ∀ line ∈ lines, '\n' ∉ line.1
  /-- None of them is a Via. -/
  no_via : ∀ line ∈ lines, line.1 ≠ "Via".toList
  /-- The values can stand as values. -/
  values : ∀ line ∈ lines, HeaderValue line.2

/-- The header block of a response is read back. -/
theorem new_block {conf : Conf} {responder : Responder} {cmd : ResponseCmd} {bodySize : Nat}
    (vias : ∀ via ∈ responder.vias, HeaderValue via)
    (readable : Readable (responder.headers conf cmd bodySize)) :
    ∃ header, Header.new (responder.block conf cmd bodySize) = .ok header ∧
      header.commandLine = statusLine cmd ∧ header.vias = responder.vias ∧
        header.headerKvs = (responder.headers conf cmd bodySize).reverse := by
  have all : ∀ line ∈ responder.headerLines conf cmd bodySize,
      ':' ∉ line.1 ∧ '\n' ∉ line.1 ∧ HeaderValue line.2 := by
    intro line member
    rcases List.mem_append.mp member with via | other
    · obtain ⟨value, listed, rfl⟩ := List.mem_map.mp via
      exact ⟨by simp, by simp, vias value listed⟩
    · exact ⟨readable.no_colon line other, readable.no_newline line other,
        readable.values line other⟩
  have no_newline : ∀ line ∈
      statusLine cmd :: (responder.headerLines conf cmd bodySize).map printLine, '\n' ∉ line := by
    intro line member
    rcases List.mem_cons.mp member with rfl | member
    · cases cmd <;> decide
    · obtain ⟨pair, listed, rfl⟩ := List.mem_map.mp member
      obtain ⟨-, name, value⟩ := all pair listed
      simp [printLine, name, value.1]
  have read : Header.readLines ((responder.headerLines conf cmd bodySize).map printLine) =
      .ok (responder.vias, (responder.headers conf cmd bodySize).reverse) := by
    rw [Header.readLines_printed fun line member => ⟨(all line member).1, (all line member).2.2⟩,
      headerLines, Header.foldr_record _ readable.no_via]
  obtain ⟨header, parsed, commandLine, kvs, vias⟩ :=
    Header.new_of_split (split_joined_lines (by simp) no_newline) read
  exact ⟨header, parsed, commandLine, vias, kvs⟩

/-- The headers are found by their names, since the names printed differ. -/
theorem fields_of_headers {conf : Conf} {responder : Responder} {cmd : ResponseCmd}
    {bodySize : Nat} {header : Header}
    (kvs : header.headerKvs = (responder.headers conf cmd bodySize).reverse) :
    header.callId = .ok responder.callId ∧ header.fromHeader = .ok responder.fromHeader ∧
      header.toHeader = .ok responder.toHeader ∧ header.cseq = .ok responder.cSeq ∧
        header.field "Content-Length" = .ok (natText bodySize) := by
  simp only [Header.callId, Header.fromHeader, Header.toHeader, Header.cseq, Header.field, kvs]
  cases cmd <;> exact ⟨rfl, rfl, rfl, rfl, rfl⟩

theorem readable_headers_ok (conf : Conf) {responder : Responder} (clean : responder.Clean) :
    Readable (responder.headers conf .ok 0) := by
  rw [headers_ok]
  refine ⟨by simp, by simp, by simp, ?_⟩
  intro line member
  simp only [List.mem_cons, List.not_mem_nil, or_false] at member
  rcases member with rfl | rfl | rfl | rfl | rfl | rfl
  · exact clean.callId
  · exact clean.fromHeader
  · exact clean.toHeader
  · exact clean.cSeq
  · simp [HeaderValue]; decide
  · simp [HeaderValue]; decide

/-- A 200 OK without a body is a header block and an empty line, and its headers are read back. -/
theorem read_generate_ok (conf : Conf) {responder : Responder} (clean : responder.Clean)
    (okBody : Bool → Sdp.OkBody) :
    ∃ block header, responder.generate conf okBody .ok = block ++ "\r\n\r\n".toList ∧
      Header.new block = .ok header ∧ header.commandLine = "SIP/2.0 200 OK".toList ∧
        header.vias = responder.vias ∧
          header.headerKvs = (responder.headers conf .ok 0).reverse := by
  obtain ⟨header, read⟩ := new_block clean.vias (responder.readable_headers_ok conf clean)
  exact ⟨_, header, generate_headerOnly conf responder okBody (by decide), read⟩

/-- The responder prints what the given header says, and a tagged To. -/
structure Answers (responder : Responder) (request : Header) : Prop where
  /-- What it prints can be read back. -/
  clean : responder.Clean
  /-- Call-ID is the one of the request. -/
  callId : request.callId = .ok responder.callId
  /-- From is the one of the request. -/
  fromHeader : request.fromHeader = .ok responder.fromHeader
  /-- The Via values are those of the request. -/
  vias : responder.vias = request.vias
  /-- To has a tag. -/
  tagged : ";tag=".toList <:+: responder.toHeader

theorem Answers.resetCSeq {responder : Responder} {request : Header}
    (answers : responder.Answers request) {cseq : Text} (value : HeaderValue cseq) :
    (responder.resetCSeq cseq).Answers request :=
  { answers with clean := answers.clean.resetCSeq value }

end Responder

namespace FirstFlurry

/-- The To header is that of the request if it has a tag there, and else gets the one drawn. -/
theorem toHeader_cases (toText : Text) (tag : RandomLetters 8) :
    ";tag=".toList <:+: toText ∧ toHeader toText tag = toText ∨
      ¬";tag=".toList <:+: toText ∧
        toHeader toText tag = toText ++ (";tag=".toList ++ tag.text) := by
  have joined : ";tag=".toList.intercalate (splitString ";tag=" toText) = toText :=
    intercalate_split_word ";tag=".toList toText
  rw [toHeader]
  cases pieces : splitString ";tag=" toText with
  | nil => exact absurd pieces (split_ne_nil _ _)
  | cons first others =>
      rw [pieces] at joined
      cases others with
      | nil =>
          obtain rfl : first = toText := by simpa using joined
          have absent : ¬";tag=".toList <:+: first :=
            not_infix_of_mem_split_word (by decide) (pieces ▸ List.mem_cons_self)
          exact .inr ⟨absent, by simp⟩
      | cons second others =>
          refine .inl ⟨⟨first, ";tag=".toList.intercalate (second :: others), ?_⟩,
            by simpa using joined⟩
          rw [← joined, List.intercalate_cons_cons]

theorem tag_infix_toHeader (toText : Text) (tag : RandomLetters 8) :
    ";tag=".toList <:+: toHeader toText tag := by
  rcases toHeader_cases toText tag with ⟨inside, equal⟩ | ⟨-, equal⟩
  · rwa [equal]
  · rw [equal]
    exact (List.prefix_append _ _).isInfix.trans (List.suffix_append toText _).isInfix

theorem headerValue_toHeader {toText : Text} (value : HeaderValue toText)
    (tag : RandomLetters 8) : HeaderValue (toHeader toText tag) := by
  have absent : ∀ c : Char, c < 'a' → c ∉ ";tag=".toList → c ∉ ";tag=".toList ++ tag.text := by
    intro c low outside inside
    rcases List.mem_append.mp inside with inside | inside
    · exact outside inside
    · exact absurd low (Char.not_lt.mpr (tag.letters c inside).1)
  rcases toHeader_cases toText tag with ⟨-, equal⟩ | ⟨-, equal⟩
  · rwa [equal]
  · rw [equal]
    have first : (";tag=".toList ++ tag.text).head? = some ';' := rfl
    have starts : (";tag=".toList ++ tag.text).head? ≠ some ' ' := by
      rw [first]
      decide
    refine ⟨?_, not_infix_pair_append value.2 (absent ':' (by decide) (by decide)) starts⟩
    intro inside
    rcases List.mem_append.mp inside with inside | inside
    · exact value.1 inside
    · exact absent '\n' (by decide) (by decide) inside

/-- The responder of a first flurry prints the headers of the INVITE. -/
theorem answers_of_new {request : Header} {tag : RandomLetters 8} {responder : Responder}
    (built : new request tag = .ok responder) : responder.Answers request := by
  obtain ⟨known, caller, given, vias, toText, callee, tagged⟩ := new_eq_ok.mp built
  refine ⟨⟨?_, ?_, ?_, ?_, ?_⟩, known, caller, vias, tagged ▸ tag_infix_toHeader toText tag⟩
  · exact Header.headerValue_of_field known
  · exact Header.headerValue_of_field caller
  · exact tagged ▸ headerValue_toHeader (Header.headerValue_of_field callee) tag
  · exact Header.headerValue_of_field given
  · exact fun via member => request.clean via (List.mem_append_left _ (vias ▸ member))

end FirstFlurry
end Sip
end Contest
