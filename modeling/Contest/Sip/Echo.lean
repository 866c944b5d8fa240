import Contest.Answered
import Contest.Sip.ReadBack
import Mathlib.Data.List.Forall2

/-!
# Header values in the responses to an INVITE

The three responses to an INVITE repeat the values of its Via, Call-ID, From and CSeq headers and,
with a tag, that of To.  `SIP::Header` cuts a value off at the first `: ` inside it, so a value is
repeated as it was exactly when that separator does not occur in it again.
-/

namespace Contest

open Contest.Graph Splitting

namespace Sip

open Responder (printLine)

/-- The values of the lines with the given name, in order. -/
def named (name : String) (lines : List (Text × Text)) : List Text :=
  (lines.filter fun line => line.1 = name.toList).map Prod.snd

/-- The lines before the first empty line of a text, each of them `Name: value`. -/
structure HeaderLines (data commandLine : Text) (lines : List (Text × Text)) : Prop where
  /-- The text starts with these lines. -/
  cut : ∃ block others, split sectionDelimiter data = block :: others ∧
    split lineEnd block = commandLine :: lines.map printLine
  /-- The value comes after the first separator. -/
  names : ∀ line ∈ lines, ¬": ".toList <:+: line.1

namespace Header

/-- What is kept of a value. -/
def kept (value : Text) : Text := (splitString ": " value).headD []

/-- A value with a separator inside goes on with it after what is kept. -/
theorem kept_prefix_append {value : Text} (inside : ": ".toList <:+: value) :
    kept value ++ ": ".toList <+: value := by
  obtain ⟨piece, next, pieces, cut⟩ := exists_split_of_infix (by decide) inside
  rw [kept, splitString, cut]
  exact append_word_prefix_of_split cut

theorem kept_of_plain {value : Text} (plain : ¬": ".toList <:+: value) : kept value = value := by
  have one_piece : splitString ": " value = [value] := split_of_quiet (quiet_word_of_absent plain)
  rw [kept, one_piece]
  rfl

/-- A value is kept whole exactly when no separator occurs in it. -/
theorem kept_eq_iff {value : Text} : kept value = value ↔ ¬": ".toList <:+: value := by
  constructor
  · intro whole inside
    have longer := (kept_prefix_append inside).length_le
    rw [whole, List.length_append] at longer
    have size : ": ".toList.length = 2 := rfl
    omega
  · exact kept_of_plain

theorem readLine_kept {name value : Text} (plain : ¬": ".toList <:+: name) :
    readLine (printLine (name, value)) = .ok (name, kept value) := by
  obtain ⟨piece, pieces, cut⟩ :=
    List.exists_cons_of_ne_nil (split_ne_nil (word ": ".toList) value)
  have head : (": ".toList ++ value).head? = some ':' := rfl
  have quiet : Quiet (word ": ".toList) name (": ".toList ++ value) :=
    quiet_word_pair plain (by rw [head]; decide)
  have line : splitString ": " (printLine (name, value)) = name :: piece :: pieces := by
    rw [printLine, List.append_assoc, ← cut]
    exact split_append quiet (by decide) (word_append _ _)
  have first : kept value = piece := by
    rw [kept, splitString, cut]
    rfl
  rw [readLine, line, first]
  rfl

theorem readLines_kept {lines : List (Text × Text)}
    (plain : ∀ line ∈ lines, ¬": ".toList <:+: line.1) :
    readLines (lines.map printLine) =
      .ok ((lines.map (Prod.map id kept)).foldr record ([], [])) := by
  induction lines with
  | nil => rfl
  | cons line lines ih =>
      have here := plain line List.mem_cons_self
      have rest := ih fun other member => plain other (List.mem_cons_of_mem line member)
      rw [List.map_cons, readLines_cons_eq_ok]
      exact ⟨_, _, readLine_kept here, rest, rfl⟩

/-- Via values are collected in order, and the other lines with the last one first. -/
theorem foldr_record_eq (lines : List (Text × Text)) :
    lines.foldr record ([], []) =
      (named "Via" lines, (lines.filter fun line => !decide (line.1 = "Via".toList)).reverse) := by
  induction lines with
  | nil => rfl
  | cons line lines ih =>
      rw [List.foldr_cons, ih]
      by_cases via : line.1 = "Via".toList
      · simp only [record, named, via, if_true, List.filter_cons, decide_true, Bool.not_true,
          Bool.false_eq_true, if_false, List.map_cons]
      · simp only [record, named, via, if_false, List.filter_cons, decide_false, Bool.not_false,
          Bool.false_eq_true, if_true, List.reverse_cons]

theorem named_kept (name : String) (lines : List (Text × Text)) :
    named name (lines.map (Prod.map id kept)) = (named name lines).map kept := by
  rw [named, named, List.filter_map, List.map_map, List.map_map]
  rfl

/-- The values of a header block of lines `Name: value`. -/
theorem values_of_headerLines {data commandLine : Text} {lines : List (Text × Text)} {msg : Msg}
    (shape : HeaderLines data commandLine lines) (parsed : Msg.new data = .ok msg) :
    msg.sipHeader.vias = (named "Via" lines).map kept ∧
      ∀ name : String, name.toList ≠ "Via".toList →
        msg.sipHeader.headerKvs.lookup name.toList = (named name lines).getLast?.map kept := by
  obtain ⟨first, body, cut, read, -⟩ := Msg.new_eq_ok.mp parsed
  obtain ⟨block, others, cut_block, cut_lines⟩ := shape.cut
  obtain rfl : block = first := (List.cons.inj (cut_block.symm.trans cut)).1
  obtain ⟨header, read_lines, -, kvs, vias⟩ :=
    new_of_split cut_lines (readLines_kept shape.names)
  obtain rfl : header = msg.sipHeader := Except.ok.inj (read_lines.symm.trans read)
  simp only [foldr_record_eq] at kvs vias
  refine ⟨by rw [vias, named_kept], ?_⟩
  intro name other
  have only_named : ∀ line : Text × Text, (decide (line.1 = name.toList) &&
      !decide (line.1 = "Via".toList)) = decide (line.1 = name.toList) := by
    intro line
    by_cases same : line.1 = name.toList
    · simp only [same, other, decide_true, decide_false, Bool.not_false, Bool.and_self]
    · simp only [same, decide_false, Bool.false_and]
  rw [kvs, lookup_reverse, List.filter_filter, ← List.getLast?_map, ← named_kept]
  simp only [only_named]
  rfl

theorem field_of_lookup {header : Header} {key : String} {value : Text} :
    header.field key = .ok value ↔ header.headerKvs.lookup key.toList = some value := by
  unfold field
  split
  · rename_i other found
    simp [found]
  · rename_i absent
    simp [absent]

end Header

/-- Texts that start with as many lines agree on the lines. -/
theorem lines_of_append_eq {left right : List Text} {leftRest rightRest : Text}
    (clean_left : ∀ line ∈ left, '\n' ∉ line) (clean_right : ∀ line ∈ right, '\n' ∉ line)
    (counted : left.length = right.length)
    (same : (left.flatMap fun line => line ++ "\r\n".toList) ++ leftRest =
      (right.flatMap fun line => line ++ "\r\n".toList) ++ rightRest) : left = right := by
  induction left generalizing right with
  | nil => exact (List.length_eq_zero_iff.mp counted.symm).symm
  | cons line left ih =>
      cases right with
      | nil => simp at counted
      | cons other right =>
          have first : ∀ (line : Text) (rest : Text), '\n' ∉ line →
              split lineEnd (line ++ ("\r\n".toList ++ rest)) = line :: split lineEnd rest :=
            fun line rest clean => split_append (quiet_lineEnd clean _ (by simp)) (by decide) rfl
          simp only [List.flatMap_cons, List.append_assoc] at same
          have pieces := congrArg (split lineEnd) same
          rw [first line _ (clean_left line List.mem_cons_self),
            first other _ (clean_right other List.mem_cons_self)] at pieces
          obtain rfl : line = other := (List.cons.inj pieces).1
          have later := List.append_cancel_left (List.append_cancel_left same)
          rw [ih (fun other member => clean_left other (List.mem_cons_of_mem line member))
            (fun other member => clean_right other (List.mem_cons_of_mem line member))
            (by simpa using counted) later]

namespace Responder

/-- The lines of the values that a responder holds. -/
def heldLines (responder : Responder) : List (Text × Text) :=
  responder.vias.map (fun via => ("Via".toList, via)) ++
    [("Call-ID".toList, responder.callId), ("From".toList, responder.fromHeader),
      ("To".toList, responder.toHeader), ("CSeq".toList, responder.cSeq)]

/-- No value contains a line feed. -/
def OneLined (responder : Responder) : Prop :=
  ∀ line ∈ responder.heldLines, '\n' ∉ line.2

theorem oneLined_iff {responder : Responder} : responder.OneLined ↔
    (∀ via ∈ responder.vias, '\n' ∉ via) ∧ '\n' ∉ responder.callId ∧
      '\n' ∉ responder.fromHeader ∧ '\n' ∉ responder.toHeader ∧ '\n' ∉ responder.cSeq := by
  simp [OneLined, heldLines, or_imp, forall_and]

theorem Clean.oneLined {responder : Responder} (clean : responder.Clean) : responder.OneLined :=
  oneLined_iff.mpr ⟨fun via member => (clean.vias via member).1, clean.callId.1,
    clean.fromHeader.1, clean.toHeader.1, clean.cSeq.1⟩

/-- The text starts with the status line and the lines of the given values. -/
def Repeats (values : Responder) (statusLine response : Text) : Prop :=
  ∃ rest, response = ((statusLine :: values.heldLines.map printLine).flatMap
    fun line => line ++ "\r\n".toList) ++ rest

/-- A response starts with its status line and the lines of the values held. -/
theorem repeats_block (conf : Conf) (responder : Responder) (cmd : ResponseCmd) (bodySize : Nat)
    (rest : Text) : responder.Repeats (statusLine cmd)
      (responder.block conf cmd bodySize ++ "\r\n\r\n".toList ++ rest) := by
  have held : responder.headerLines conf cmd bodySize =
      responder.heldLines ++ (responder.headers conf cmd bodySize).drop 4 := by
    rw [headerLines, heldLines, List.append_assoc]
    rfl
  have two : "\r\n\r\n".toList = "\r\n".toList ++ "\r\n".toList := rfl
  refine ⟨(((responder.headers conf cmd bodySize).drop 4).flatMap fun line =>
    printLine line ++ "\r\n".toList) ++ ("\r\n".toList ++ rest), ?_⟩
  rw [two, ← List.append_assoc, block_append, header, held]
  simp only [List.flatMap_append, List.flatMap_cons, List.flatMap_map, List.append_assoc]

theorem printLine_inj {name left right : Text}
    (same : printLine (name, left) = printLine (name, right)) : left = right :=
  List.append_cancel_left same

theorem heldLines_names (responder : Responder) :
    ∀ line ∈ responder.heldLines, '\n' ∉ line.1 := by
  intro line member
  rcases List.mem_append.mp member with via | other
  · obtain ⟨value, -, rfl⟩ := List.mem_map.mp via
    simp
  · simp only [List.mem_cons, List.not_mem_nil, or_false] at other
    rcases other with rfl | rfl | rfl | rfl <;> simp

theorem eq_of_heldLines {left right : Responder} (counted : left.vias.length = right.vias.length)
    (lines : left.heldLines.map printLine = right.heldLines.map printLine) : left = right := by
  rw [heldLines, heldLines, List.map_append, List.map_append] at lines
  obtain ⟨vias, others⟩ := List.append_inj lines (by simp [counted])
  rw [List.map_map, List.map_map] at vias
  have values : left.vias = right.vias :=
    List.map_injective_iff.mpr (fun _ _ same => printLine_inj same) vias
  obtain ⟨callId, others⟩ := List.cons.inj others
  obtain ⟨fromHeader, others⟩ := List.cons.inj others
  obtain ⟨toHeader, others⟩ := List.cons.inj others
  obtain ⟨cSeq, -⟩ := List.cons.inj others
  cases left
  cases right
  simp only [mk.injEq]
  exact ⟨printLine_inj callId, printLine_inj fromHeader, printLine_inj toHeader,
    printLine_inj cSeq, values⟩

/-- Two sets of values with as many Via values that a text repeats are the same. -/
theorem Repeats.unique {left right : Responder} {statusLine response : Text}
    (plain : '\n' ∉ statusLine) (repeats_left : left.Repeats statusLine response)
    (repeats_right : right.Repeats statusLine response) (clean_left : left.OneLined)
    (clean_right : right.OneLined) (counted : left.vias.length = right.vias.length) :
    left = right := by
  obtain ⟨leftRest, text_left⟩ := repeats_left
  obtain ⟨rightRest, text_right⟩ := repeats_right
  have one_lined : ∀ {values : Responder}, values.OneLined →
      ∀ line ∈ statusLine :: values.heldLines.map printLine, '\n' ∉ line := by
    intro values clean line member
    rcases List.mem_cons.mp member with rfl | member
    · exact plain
    · obtain ⟨pair, listed, rfl⟩ := List.mem_map.mp member
      simp [printLine, heldLines_names values pair listed, clean pair listed]
  have lines := lines_of_append_eq (one_lined clean_left) (one_lined clean_right)
    (by simp [heldLines, counted]) (text_left.symm.trans text_right)
  exact eq_of_heldLines counted (List.cons.inj lines).2

end Responder

/-- The value of To in the responses is the one in the request, if that has a tag, and else the one
in the request with one tag added. -/
def Tagged (toText answered : Text) : Prop :=
  ";tag=".toList <:+: toText ∧ answered = toText ∨
    ¬";tag=".toList <:+: toText ∧ ∃ tag, answered = toText ++ (";tag=".toList ++ tag) ∧
      ¬";tag=".toList <:+: tag ∧ '\n' ∉ tag

theorem Tagged.no_newline {toText answered : Text} (tagged : Tagged toText answered)
    (clean : '\n' ∉ toText) : '\n' ∉ answered := by
  rcases tagged with ⟨-, rfl⟩ | ⟨-, tag, rfl, -, clean_tag⟩
  · exact clean
  · simp [clean, clean_tag]

/-- The first lines of the three responses to an INVITE. -/
def statusLines : List Text :=
  ["SIP/2.0 100 Trying".toList, "SIP/2.0 180 Ringing".toList, "SIP/2.0 200 OK".toList]

/-- The responses repeat the header values of the request; where a header that may stand once is
given more than once, the last value. -/
def EchoesRequest (lines : List (Text × Text)) (responses : List Text) : Prop :=
  ∃ values : Responder, values.vias = named "Via" lines ∧
    (named "Call-ID" lines).getLast? = some values.callId ∧
    (named "From" lines).getLast? = some values.fromHeader ∧
    (named "CSeq" lines).getLast? = some values.cSeq ∧
    (∃ toText, (named "To" lines).getLast? = some toText ∧ Tagged toText values.toHeader) ∧
    List.Forall₂ values.Repeats (statusLines.take responses.length) responses

/-- The header values that identify a request. -/
def identification (lines : List (Text × Text)) : List Text :=
  named "Via" lines ++
    ["Call-ID", "From", "CSeq", "To"].filterMap fun name => (named name lines).getLast?

namespace FirstFlurry

theorem tagged_toHeader (toText : Text) (tag : RandomLetters 8) :
    Tagged toText (toHeader toText tag) := by
  rcases toHeader_cases toText tag with ⟨inside, same⟩ | ⟨absent, added⟩
  · exact .inl ⟨inside, same⟩
  · refine .inr ⟨absent, tag.text, added, ?_, ?_⟩
    · intro again
      have letter : ';' ∈ tag.text := again.subset (by decide)
      exact absurd (tag.letters ';' letter).1 (by decide)
    · intro inside
      exact absurd (tag.letters '\n' inside).1 (by decide)

/-- A value of To that was cut off is not answered as it should be. -/
theorem plain_of_tagged {toText : Text} {tag : RandomLetters 8}
    (tagged : Tagged toText (toHeader (Header.kept toText) tag)) : ¬": ".toList <:+: toText := by
  intro inside
  have whole : toText <+: toHeader (Header.kept toText) tag := by
    rcases tagged with ⟨-, same⟩ | ⟨-, added, same, -, -⟩
    · rw [same]
    · rw [same]
      exact List.prefix_append _ _
  have cut := (Header.kept_prefix_append inside).trans whole
  rcases toHeader_cases (Header.kept toText) tag with ⟨-, same⟩ | ⟨-, same⟩
  · rw [same] at cut
    have longer := cut.length_le
    have size : ": ".toList.length = 2 := rfl
    rw [List.length_append] at longer
    omega
  · rw [same] at cut
    have start := (List.prefix_append_right_inj _).mp cut
    obtain ⟨equal, -⟩ := List.cons_prefix_cons.mp start
    exact absurd equal (by decide)

/-- The responses sent start with what the responder holds. -/
theorem repeats_of_transmit {conf : Conf} {forWebsocket : Bool} {responder : Responder}
    {okBody : Bool → Sdp.OkBody} {sendings : List Sending} {responses : List Text}
    (sent : transmit conf forWebsocket responder okBody sendings = .ok responses) :
    List.Forall₂ responder.Repeats (statusLines.take responses.length) responses := by
  have beginning := prefix_of_sendAll sent
  have last : responder.Repeats "SIP/2.0 200 OK".toList
      (responder.generate conf okBody (if forWebsocket then .okSdpWithIce else .okSdp)) := by
    rw [Responder.generate_withBody]
    cases forWebsocket <;> exact responder.repeats_block conf _ _ _
  have first : ∀ cmd ∈ [ResponseCmd.trying, .ringing, .ok],
      responder.Repeats (Responder.statusLine cmd) (responder.generate conf okBody cmd) := by
    intro cmd headerOnly
    rw [Responder.generate_headerOnly conf responder okBody headerOnly,
      ← List.append_nil (responder.block conf cmd 0 ++ _)]
    exact responder.repeats_block conf cmd 0 []
  have all : List.Forall₂ responder.Repeats statusLines
      [responder.generate conf okBody .trying, responder.generate conf okBody .ringing,
        responder.generate conf okBody (if forWebsocket then .okSdpWithIce else .okSdp)] :=
    .cons (first .trying (by decide)) (.cons (first .ringing (by decide)) (.cons last .nil))
  have taken := List.forall₂_take responses.length all
  rwa [← List.prefix_iff_eq_take.mp beginning] at taken

section Request

variable {data commandLine : Text} {lines : List (Text × Text)} {msg : Msg}
  {tag : RandomLetters 8} {responder : Responder}

/-- What the responder holds of the request: of every value what was kept. -/
theorem values_of_built (shape : HeaderLines data commandLine lines)
    (parsed : Msg.new data = .ok msg) (built : new msg.sipHeader tag = .ok responder) :
    ∃ callId fromText cseq toText, (named "Call-ID" lines).getLast? = some callId ∧
      (named "From" lines).getLast? = some fromText ∧
      (named "CSeq" lines).getLast? = some cseq ∧ (named "To" lines).getLast? = some toText ∧
      responder =
        { callId := Header.kept callId
          fromHeader := Header.kept fromText
          toHeader := toHeader (Header.kept toText) tag
          cSeq := Header.kept cseq
          vias := (named "Via" lines).map Header.kept } := by
  obtain ⟨known, caller, given, vias, toKept, callee, tagged⟩ := new_eq_ok.mp built
  obtain ⟨collected, looked_up⟩ := Header.values_of_headerLines shape parsed
  have read : ∀ {name : String} {value : Text}, name.toList ≠ "Via".toList →
      msg.sipHeader.field name = .ok value →
        ∃ whole, (named name lines).getLast? = some whole ∧ Header.kept whole = value := by
    intro name value other found
    have last := (looked_up name other).symm.trans (Header.field_of_lookup.mp found)
    simpa only [Option.map_eq_some_iff] using last
  obtain ⟨callId, last_callId, kept_callId⟩ := read (by decide) known
  obtain ⟨fromText, last_from, kept_from⟩ := read (by decide) caller
  obtain ⟨cseq, last_cseq, kept_cseq⟩ := read (by decide) given
  obtain ⟨toText, last_to, rfl⟩ := read (by decide) callee
  refine ⟨callId, fromText, cseq, toText, last_callId, last_from, last_cseq, last_to, ?_⟩
  cases responder
  simp only [Responder.mk.injEq]
  exact ⟨kept_callId.symm, kept_from.symm, tagged, kept_cseq.symm, vias.trans collected⟩

/-- The values on the lines of a text contain no line feed. -/
theorem no_newline_of_named (shape : HeaderLines data commandLine lines) {name : String}
    {value : Text} (member : value ∈ named name lines) : '\n' ∉ value := by
  obtain ⟨line, listed, rfl⟩ := List.mem_map.mp member
  obtain ⟨block, others, -, cut⟩ := shape.cut
  intro inside
  have printed : printLine line ∈ split lineEnd block := by
    rw [cut]
    exact List.mem_cons_of_mem _ (List.mem_map_of_mem (List.mem_of_mem_filter listed))
  exact no_newline_of_mem_split_lineEnd printed (List.mem_append_right _ inside)

/-- The responses to a request repeat its values exactly when no separator occurs in these. -/
theorem echoesRequest_iff_of_built {conf : Conf} {forWebsocket : Bool} {okBody : Bool → Sdp.OkBody}
    {sendings : List Sending} {responses : List Text} (shape : HeaderLines data commandLine lines)
    (parsed : Msg.new data = .ok msg) (built : new msg.sipHeader tag = .ok responder)
    (transmitted : transmit conf forWebsocket responder okBody sendings = .ok responses)
    (sent : responses ≠ []) :
    EchoesRequest lines responses ↔
      ∀ value ∈ identification lines, ¬": ".toList <:+: value := by
  have repeated := repeats_of_transmit transmitted
  obtain ⟨callId, fromText, cseq, toText, last_callId, last_from, last_cseq, last_to, held⟩ :=
    values_of_built shape parsed built
  have identified : identification lines =
      named "Via" lines ++ [callId, fromText, cseq, toText] := by
    simp only [identification, List.filterMap_cons, List.filterMap_nil, last_callId, last_from,
      last_cseq, last_to]
  rw [identified]
  constructor
  · rintro ⟨values, vias, given_callId, given_from, given_cseq, ⟨other, given_to, tagged⟩, echoed⟩
    obtain rfl : toText = other := Option.some.inj (last_to.symm.trans given_to)
    have no_newline : ∀ {name : String} {value : Text},
        (named name lines).getLast? = some value → '\n' ∉ value :=
      fun last => no_newline_of_named shape (List.mem_of_getLast? last)
    have clean_values : values.OneLined := by
      refine Responder.oneLined_iff.mpr ⟨?_, no_newline given_callId, no_newline given_from, ?_,
        no_newline given_cseq⟩
      · intro via member
        exact no_newline_of_named shape (vias ▸ member)
      · exact tagged.no_newline (no_newline given_to)
    have clean_held : responder.OneLined := (answers_of_new built).clean.oneLined
    obtain ⟨response, later, rfl⟩ := List.exists_cons_of_ne_nil sent
    obtain ⟨repeats_values, -⟩ := List.forall₂_cons.mp echoed
    obtain ⟨repeats_held, -⟩ := List.forall₂_cons.mp repeated
    have same : values = responder := repeats_values.unique (by decide) repeats_held clean_values
      clean_held (by rw [vias, held, List.length_map])
    obtain rfl := same.trans held
    have each : (named "Via" lines).map Header.kept = (named "Via" lines).map id :=
      vias.trans (List.map_id _).symm
    intro value member
    rcases List.mem_append.mp member with via | other
    · exact Header.kept_eq_iff.mp (List.map_inj_left.mp each value via)
    · simp only [List.mem_cons, List.not_mem_nil, or_false] at other
      rcases other with rfl | rfl | rfl | rfl
      · exact Header.kept_eq_iff.mp (Option.some.inj (given_callId.symm.trans last_callId))
      · exact Header.kept_eq_iff.mp (Option.some.inj (given_from.symm.trans last_from))
      · exact Header.kept_eq_iff.mp (Option.some.inj (given_cseq.symm.trans last_cseq))
      · exact plain_of_tagged tagged
  · intro plain
    have whole : ∀ value ∈ named "Via" lines ++ [callId, fromText, cseq, toText],
        Header.kept value = value :=
      fun value member => Header.kept_of_plain (plain value member)
    have vias : (named "Via" lines).map Header.kept = named "Via" lines := by
      have each : (named "Via" lines).map Header.kept = (named "Via" lines).map id :=
        List.map_congr_left fun value member => whole value (List.mem_append_left _ member)
      rw [each, List.map_id]
    rw [vias, whole callId (by simp), whole fromText (by simp),
      whole cseq (by simp), whole toText (by simp)] at held
    subst held
    exact ⟨_, rfl, last_callId, last_from, last_cseq, ⟨toText, last_to, tagged_toHeader toText tag⟩,
      repeated⟩

end Request

end FirstFlurry

/-- The responses to an answered INVITE repeat its identification if and only if none of the values
in it has a header separator inside. -/
theorem echoesRequest_iff {conf : Conf} {data commandLine : Text} {call : Call}
    {responses : List Text} {lines : List (Text × Text)}
    (answered : Answered conf data call responses) (sent : responses ≠ [])
    (shape : HeaderLines data commandLine lines) :
    EchoesRequest lines responses ↔
      ∀ value ∈ identification lines, ¬": ".toList <:+: value := by
  obtain ⟨msg, pending, tag, responder, parsed, -, chosen, flurried⟩ := answered.exists_flurry
  obtain ⟨sessionId, sendings, transmitted⟩ := flurried.transmitted
  exact FirstFlurry.echoesRequest_iff_of_built shape parsed (chosen.msg_eq ▸ flurried.built)
    transmitted sent

/-- The header lines of a sample INVITE with the given value of From. -/
def linesWithFrom (fromText : String) : List (Text × Text) :=
  [("Via".toList, "SIP/2.0/UDP 10.0.0.1:5060".toList), ("From".toList, fromText.toList),
    ("To".toList, "<sip:a@b>".toList), ("Call-ID".toList, "k1".toList),
    ("CSeq".toList, "1 INVITE".toList)]

/-- A sample INVITE with the given value of From. -/
def inviteWithFrom (fromText : String) : Text :=
  "\r\n".toList.intercalate
      ("INVITE sip:a@b SIP/2.0".toList :: (linesWithFrom fromText).map printLine) ++
    "\r\n\r\nm=audio 4000 RTP/AVP 101\r\na=rtpmap:101 opus/48000/2\r\n".toList

theorem exists_answered_from {fromText : String}
    (answers : ((sampleResponses (inviteWithFrom fromText)).any fun sent => sent ≠ []) = true)
    (cut : ((split sectionDelimiter (inviteWithFrom fromText)).head?.map (split lineEnd)) =
      some ("INVITE sip:a@b SIP/2.0".toList :: (linesWithFrom fromText).map printLine)) :
    ∃ call responses, Answered sampleConf (inviteWithFrom fromText) call responses ∧
      responses ≠ [] ∧ HeaderLines (inviteWithFrom fromText) "INVITE sip:a@b SIP/2.0".toList
        (linesWithFrom fromText) := by
  obtain ⟨responses, given, sent⟩ := Option.any_eq_true _ _ |>.mp answers
  obtain ⟨call, answered⟩ := exists_answered given
  refine ⟨call, responses, answered, of_decide_eq_true sent, ?_, ?_⟩
  · obtain ⟨block, first, lines⟩ := Option.map_eq_some_iff.mp cut
    obtain ⟨others, pieces⟩ := List.head?_eq_some_iff.mp first
    exact ⟨block, others, pieces, lines⟩
  · have names : (linesWithFrom fromText).map Prod.fst = ["Via".toList, "From".toList,
        "To".toList, "Call-ID".toList, "CSeq".toList] := rfl
    intro line member
    have listed : line.1 ∈ (linesWithFrom fromText).map Prod.fst := List.mem_map_of_mem member
    rw [names] at listed
    revert listed
    generalize line.1 = name
    decide +revert

theorem echoesRequest_iff_sample :
    ∃ call responses, Answered sampleConf (inviteWithFrom "<sip:c@d>") call responses ∧
      (EchoesRequest (linesWithFrom "<sip:c@d>") responses ↔
        ∀ value ∈ identification (linesWithFrom "<sip:c@d>"), ¬": ".toList <:+: value) := by
  obtain ⟨call, responses, answered, sent, shape⟩ :=
    @exists_answered_from "<sip:c@d>" (by decide +kernel) (by decide +kernel)
  exact ⟨call, responses, answered, echoesRequest_iff answered sent shape⟩

/-- A display name with a colon and a blank is not repeated. -/
theorem display_name_cut_off :
    ¬∀ conf data call responses commandLine lines, Answered conf data call responses →
      responses ≠ [] → HeaderLines data commandLine lines → EchoesRequest lines responses := by
  intro claimed
  obtain ⟨call, responses, answered, sent, shape⟩ :=
    @exists_answered_from "\"Smith: J\" <sip:c@d>" (by decide +kernel) (by decide +kernel)
  have echoed := claimed _ _ call responses _ _ answered sent shape
  obtain ⟨msg, pending, tag, responder, parsed, -, chosen, flurried⟩ := answered.exists_flurry
  obtain ⟨sessionId, sendings, transmitted⟩ := flurried.transmitted
  have plain := (FirstFlurry.echoesRequest_iff_of_built shape parsed
    (chosen.msg_eq ▸ flurried.built) transmitted sent).mp echoed
  exact plain "\"Smith: J\" <sip:c@d>".toList (by decide) (by decide)

end Sip
end Contest
