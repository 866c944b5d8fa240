import Contest.Sip.Header

/-!
# Addresses in SIP headers

`parse_contact_header` takes the address out of a Contact header and `top_via_info` out of the
first Via header.  Users, passwords and parameters may contain the characters that are split at
later, and the host comes out all the same.
-/

namespace Contest
namespace Sip

open Splitting

/-- What `.+?` takes before `\>`: at least one character, and no line feed. -/
def lazyTag : Text → Option Text
  | [] => none
  | first :: rest =>
      let more := rest.takeWhile fun c => c ≠ '>' && c ≠ '\n'
      if first ≠ '\n' ∧ (rest.drop more.length).head? = some '>' then some (first :: more) else none

/-- What stands before the tag in `sip_comp_regex`. -/
def tagOpening : Text := "<sip:".toList

/-- The `sip_tag` of `scan_until(sip_comp_regex)`, at the first place where the expression
matches. -/
def scanSipTag : Text → Option Text
  | [] => none
  | c :: rest =>
      if tagOpening <+: c :: rest then
        (lazyTag ((c :: rest).drop tagOpening.length)).or (scanSipTag rest)
      else scanSipTag rest

namespace Header

/-- `parse_contact_header`. -/
def parseContactHeader (contactHeaderStr : Text) : Fallible StrAddressWithOptionalPort :=
  match scanSipTag contactHeaderStr with
  | some str => do
      let hostSection := match splitString "@" str with
        | [_, hostSection] => hostSection
        | _ => str
      let ipOrHostnameWPort ← fetch (splitString ";" hostSection) 0
      parseIpWOptionalPort ipOrHostnameWPort
  | none => .error (.raised "Could not find <sip> tag in Contact: header")

/-- `contact_info`. -/
def contactInfo (header : Header) : Fallible StrAddressWithOptionalPort :=
  header.field "Contact" >>= parseContactHeader

end Header

/-- An address as it is written in SIP headers. -/
structure Address where
  /-- The user, with a password if there is one. -/
  user : Option Text
  /-- The host. -/
  host : Text
  /-- The port. -/
  port : Option (Fin 65536)
  /-- The parameters. -/
  params : List Text
  /-- No part contains what ends a user, a tag or a line. -/
  clean : ∀ part ∈ user.toList ++ host :: params, ∀ c ∈ ['@', '>', '\n'], c ∉ part
  /-- There is a host. -/
  host_ne : host ≠ []
  /-- The host contains neither a colon nor a semicolon. -/
  host_clean : ':' ∉ host ∧ ';' ∉ host

namespace Address

variable (address : Address)

/-- `host[:port]`. -/
def hostPort : Text :=
  address.host ++ (address.port.map fun port : Fin 65536 => ':' :: natText port.val).getD []

/-- `{;param}`. -/
def paramText : Text := address.params.flatMap fun param => ';' :: param

/-- `[user@]host[:port]{;param}`. -/
def tag : Text :=
  (address.user.map fun user => user ++ ['@']).getD [] ++ (address.hostPort ++ address.paramText)

/-- A Contact header, with the text around the address. -/
def contact (display rest : Text) : Text :=
  display ++ (tagOpening ++ (address.tag ++ '>' :: rest))

/-- A Via header. -/
def via : Text := "SIP/2.0/UDP ".toList ++ (address.hostPort ++ address.paramText)

/-- The host and the port. -/
def pair : Header.StrAddressWithOptionalPort where
  host := address.host
  port := address.port.map fun port : Fin 65536 => (port.val : Int)

theorem mem_hostPort {c : Char} (member : c ∈ address.hostPort) :
    c ∈ address.host ∨ c = ':' ∨ c.isDigit = true := by
  rcases List.mem_append.mp member with host | port
  · exact .inl host
  · cases given : address.port with
    | none => simp [given] at port
    | some number =>
        rw [given] at port
        rcases List.mem_cons.mp port with colon | digit
        · exact .inr (.inl colon)
        · exact .inr (.inr (natText_isDigit digit))

/-- What is not in the host is in the port only if it is a colon or a digit. -/
theorem not_mem_hostPort {c : Char} (absent : c ∉ address.host) (no_colon : c ≠ ':')
    (no_digit : c.isDigit = false) : c ∉ address.hostPort := by
  intro member
  rcases address.mem_hostPort member with host | colon | digit
  · exact absent host
  · exact no_colon colon
  · simp [no_digit] at digit

theorem clean_hostPort : ∀ c ∈ ['@', '>', '\n'], c ∉ address.hostPort := by
  intro c listed
  have absent := address.clean address.host (by simp) c listed
  simp only [List.mem_cons, List.not_mem_nil, or_false] at listed
  rcases listed with rfl | rfl | rfl <;>
    exact address.not_mem_hostPort absent (by decide) (by decide)

theorem clean_paramText : ∀ c ∈ ['@', '>', '\n'], c ∉ address.paramText := by
  intro c listed member
  obtain ⟨param, given, inside⟩ := List.mem_flatMap.mp member
  rcases List.mem_cons.mp inside with rfl | inside
  · simp at listed
  · exact address.clean param (by simp [given]) c listed inside

/-- The host and the port are read back. -/
theorem parse_hostPort : Header.parseIpWOptionalPort address.hostPort = .ok address.pair := by
  obtain ⟨no_colon, -⟩ := address.host_clean
  cases given : address.port with
  | none =>
      have pieces : splitString ":" address.hostPort = [address.host] := by
        simp only [hostPort, given, Option.map_none, Option.getD_none, List.append_nil]
        exact split_word_of_not_mem no_colon
      simp [Header.parseIpWOptionalPort, pieces, pair, given]
  | some port =>
      have number : ':' ∉ natText port.val := fun member =>
        absurd (natText_isDigit member) (by decide)
      have pieces : splitString ":" address.hostPort = [address.host, natText port.val] := by
        simp only [hostPort, given, Option.map_some, Option.getD_some]
        rw [splitString, show ":".toList = [':'] from rfl, split_word_singleton no_colon,
          split_word_of_not_mem number]
      have read : toI32 (natText port.val) = .ok (port.val : Int) :=
        toI32_natText (Nat.lt_trans port.isLt (by decide))
      rw [Header.parseIpWOptionalPort, pieces]
      simp only [read, bind, Except.bind, pure, Except.pure, pair, given, Option.map_some]

/-- What stands before a semicolon, or before nothing, is the first piece. -/
theorem fetch_split_semicolon {front tail : Text} (clean : ';' ∉ front)
    (behind : tail = [] ∨ ∃ later, tail = ';' :: later) :
    fetch (splitString ";" (front ++ tail)) 0 = .ok front := by
  rcases behind with rfl | ⟨later, rfl⟩
  · rw [List.append_nil, splitString, show ";".toList = [';'] from rfl,
      split_word_of_not_mem clean]
    rfl
  · rw [splitString, show ";".toList = [';'] from rfl, split_word_singleton clean]
    rfl

theorem paramText_cases : address.paramText = [] ∨ ∃ later, address.paramText = ';' :: later := by
  cases given : address.params with
  | nil => simp [paramText, given]
  | cons param params =>
      right
      rw [paramText, given, List.flatMap_cons, List.cons_append]
      exact ⟨_, rfl⟩

theorem no_semicolon_hostPort : ';' ∉ address.hostPort :=
  address.not_mem_hostPort address.host_clean.2 (by decide) (by decide)

/-! ### The Contact header -/

/-- The scan goes on to the place where the expression matches. -/
theorem scanSipTag_of_quiet {front tail : Text} (quiet : Quiet (word tagOpening) front tail) :
    scanSipTag (front ++ tail) = scanSipTag tail := by
  induction front with
  | nil => rfl
  | cons c front ih =>
      have no_match : ¬tagOpening <+: c :: (front ++ tail) := by
        intro starts
        have silent := quiet.head
        rw [word, if_pos starts] at silent
        exact absurd silent (by decide)
      rw [List.cons_append, scanSipTag, if_neg no_match]
      exact ih quiet.tail

theorem lazyTag_append {tag : Text} (nonempty : tag ≠ []) (clean : '>' ∉ tag ∧ '\n' ∉ tag)
    (rest : Text) : lazyTag (tag ++ '>' :: rest) = some tag := by
  obtain ⟨first, later, rfl⟩ := List.exists_cons_of_ne_nil nonempty
  simp only [List.mem_cons, not_or] at clean
  obtain ⟨⟨-, no_end⟩, no_newline, no_later⟩ := clean
  have taken : (later ++ '>' :: rest).takeWhile (fun c => c ≠ '>' && c ≠ '\n') = later := by
    rw [List.takeWhile_append_of_pos]
    · simp
    · intro c member
      have not_end : c ≠ '>' := fun same => no_end (same ▸ member)
      have not_newline : c ≠ '\n' := fun same => no_later (same ▸ member)
      simp [not_end, not_newline]
  rw [List.cons_append, lazyTag, taken]
  simp [Ne.symm no_newline]

theorem tag_ne_nil : address.tag ≠ [] := by
  simp [tag, hostPort, address.host_ne]

theorem clean_tag : '>' ∉ address.tag ∧ '\n' ∉ address.tag := by
  have absent : ∀ c ∈ ['>', '\n'], c ∉ address.tag := by
    intro c listed
    have listed_all : c ∈ ['@', '>', '\n'] := List.mem_cons_of_mem _ listed
    have user : c ∉ (address.user.map fun user => user ++ ['@']).getD [] := by
      cases given : address.user with
      | none => simp
      | some user =>
          have absent := address.clean user (by simp [given]) c listed_all
          have differs : c ≠ '@' := by
            rintro rfl
            simp at listed
          simp [absent, differs]
    have front := address.clean_hostPort c listed_all
    have params := address.clean_paramText c listed_all
    simp only [tag, List.mem_append, not_or]
    exact ⟨user, front, params⟩
  exact ⟨absent '>' (by simp), absent '\n' (by simp)⟩

theorem scanSipTag_contact {display : Text} (plain : ¬tagOpening <:+: display) (rest : Text) :
    scanSipTag (address.contact display rest) = some address.tag := by
  have quiet : Quiet (word tagOpening) display (tagOpening ++ (address.tag ++ '>' :: rest)) :=
    quiet_word_of_fresh_head (by decide) plain _
  have here : lazyTag (address.tag ++ '>' :: rest) = some address.tag :=
    lazyTag_append address.tag_ne_nil address.clean_tag rest
  have starts : tagOpening <+: tagOpening ++ (address.tag ++ '>' :: rest) := List.prefix_append _ _
  have behind : (tagOpening ++ (address.tag ++ '>' :: rest)).drop tagOpening.length =
      address.tag ++ '>' :: rest := List.drop_left
  rw [contact, scanSipTag_of_quiet quiet]
  obtain ⟨c, later, text⟩ : ∃ c later, tagOpening ++ (address.tag ++ '>' :: rest) = c :: later :=
    ⟨_, _, rfl⟩
  rw [text] at starts behind ⊢
  rw [scanSipTag, if_pos starts, behind, here, Option.some_or]

/-- Whether there is a user or not, the host section is what comes behind it. -/
theorem hostSection_tag :
    (match splitString "@" address.tag with
      | [_, hostSection] => hostSection
      | _ => address.tag) = address.hostPort ++ address.paramText := by
  have clean : '@' ∉ address.hostPort ++ address.paramText := by
    rw [List.mem_append, not_or]
    exact ⟨address.clean_hostPort '@' (by simp), address.clean_paramText '@' (by simp)⟩
  cases given : address.user with
  | none =>
      have tag_eq : address.tag = address.hostPort ++ address.paramText := by simp [tag, given]
      have pieces : splitString "@" address.tag = [address.tag] := by
        rw [tag_eq]
        exact split_word_of_not_mem clean
      rw [pieces, tag_eq]
  | some user =>
      have no_at : '@' ∉ user := address.clean user (by simp [given]) '@' (by simp)
      have tag_eq : address.tag = user ++ '@' :: (address.hostPort ++ address.paramText) := by
        simp [tag, given]
      have pieces : splitString "@" address.tag =
          [user, address.hostPort ++ address.paramText] := by
        rw [tag_eq, splitString, show "@".toList = ['@'] from rfl, split_word_singleton no_at,
          split_word_of_not_mem clean]
      rw [pieces]

theorem parse_contact {display : Text} (plain : ¬tagOpening <:+: display) (rest : Text) :
    Header.parseContactHeader (address.contact display rest) = .ok address.pair := by
  rw [Header.parseContactHeader, address.scanSipTag_contact plain]
  simp only [hostSection_tag,
    fetch_split_semicolon address.no_semicolon_hostPort address.paramText_cases]
  exact address.parse_hostPort

theorem contactInfo_of_field {display rest : Text} (plain : ¬tagOpening <:+: display)
    {header : Header} (found : header.field "Contact" = .ok (address.contact display rest)) :
    header.contactInfo = .ok address.pair := by
  rw [Header.contactInfo, found]
  exact address.parse_contact plain rest

/-! ### The Via header -/

/-- What stands before the host and the port in a Via header. -/
def viaFront : Text := "SIP/2.0/UDP ".toList ++ address.hostPort

theorem viaFront_eq : address.viaFront = "SIP/2.0/UDP ".toList ++ address.hostPort := rfl

/-- The first Via value is read up to its first semicolon. -/
theorem topViaInfo_of_front (no_blank : ' ' ∉ address.host) {header : Header} {tail : Text}
    (first : header.vias.head? = some (address.viaFront ++ tail))
    (behind : tail = [] ∨ ∃ later, tail = ';' :: later) :
    header.topViaInfo = .ok address.pair := by
  have fetched : fetch header.vias 0 = .ok (address.viaFront ++ tail) := by
    rw [fetch, ← List.head?_eq_getElem?, first]
  have no_semicolon : ';' ∉ address.viaFront := by
    rw [viaFront_eq, List.mem_append, not_or]
    exact ⟨by decide, address.no_semicolon_hostPort⟩
  have no_protocol : ¬"SIP/2.0/UDP ".toList <:+: address.hostPort := fun inside =>
    address.not_mem_hostPort no_blank (by decide) (by decide) (inside.subset (by decide))
  have pieces : splitString "SIP/2.0/UDP " address.viaFront = [[], address.hostPort] := by
    have last : splitString "SIP/2.0/UDP " address.hostPort = [address.hostPort] :=
      split_of_quiet (quiet_word_of_absent no_protocol)
    rw [← last, splitString, viaFront_eq, split_word_append (by decide), splitString]
  simp only [Header.topViaInfo, fetched, fetch_split_semicolon no_semicolon behind, pieces, bind,
    Except.bind]
  exact address.parse_hostPort

theorem via_eq : address.via = address.viaFront ++ address.paramText :=
  (List.append_assoc _ _ _).symm

theorem topViaInfo_of_via (no_blank : ' ' ∉ address.host) {header : Header}
    (first : header.vias.head? = some address.via) : header.topViaInfo = .ok address.pair :=
  address.topViaInfo_of_front no_blank (address.via_eq ▸ first) address.paramText_cases

/-! ### The text of a header -/

theorem no_separator_viaFront : ¬[':', ' '] <:+: address.viaFront := by
  intro inside
  rw [viaFront_eq, hostPort, ← List.append_assoc] at inside
  have no_colon : ':' ∉ "SIP/2.0/UDP ".toList ++ address.host := by
    rw [List.mem_append, not_or]
    exact ⟨by decide, address.host_clean.1⟩
  have blank := (infix_pair_of_append no_colon inside).subset (List.mem_cons_of_mem _
    List.mem_cons_self)
  cases given : address.port with
  | none => simp [given] at blank
  | some port =>
      rw [given] at blank
      rcases List.mem_cons.mp blank with colon | digit
      · exact absurd colon (by decide)
      · exact absurd (natText_isDigit digit) (by decide)

/-- A value is cut at a header separator, and what is left of a Via still has its host and port. -/
theorem readLine_via : ∃ tail, (tail = [] ∨ ∃ later, tail = ';' :: later) ∧
    Header.readLine ("Via".toList ++ (": ".toList ++ address.via)) =
      .ok ("Via".toList, address.viaFront ++ tail) := by
  have quiet : Quiet (word ": ".toList) address.viaFront address.paramText := by
    refine quiet_word_pair address.no_separator_viaFront ?_
    rcases address.paramText_cases with none | ⟨later, params⟩
    · simp [none]
    · rw [params]
      exact fun same => absurd (Option.some.inj same) (by decide)
  obtain ⟨piece, pieces, cut, joined⟩ := exists_split_append quiet
  refine ⟨piece, ?_, ?_⟩
  · rcases address.paramText_cases with none | ⟨later, params⟩
    · rw [none, split_nil] at cut
      exact .inl (List.cons.inj cut).1.symm
    · obtain ⟨first, others, rest⟩ :=
        List.exists_cons_of_ne_nil (split_ne_nil (word ": ".toList) later)
      have none_starts : word ": ".toList (';' :: later) = 0 :=
        Quiet.head (@quiet_word_of_head_not_mem _ _ _ _ [';'] (by decide) later)
      rw [params, split_cons_of_quiet none_starts, rest] at cut
      exact .inr ⟨first, (List.cons.inj cut).1.symm⟩
  · have name : splitString ": " ("Via".toList ++ (": ".toList ++ address.via)) =
        "Via".toList :: split (word ": ".toList) address.via :=
      split_append (quiet_word_of_head_not_mem (by decide) _) (by decide) (word_append _ _)
    rw [Header.readLine, name, via_eq, joined]
    rfl

end Address

namespace Header

/-- The value of the first Via line comes first. -/
theorem head?_vias_of_readLines {before after : List Text} {line value : Text}
    {fields : List Text × List (Text × Text)}
    (no_via : ∀ other ∈ before, (splitString ": " other).head? ≠ some "Via".toList)
    (here : readLine line = .ok ("Via".toList, value))
    (read : readLines (before ++ line :: after) = .ok fields) : fields.1.head? = some value := by
  induction before generalizing fields with
  | nil =>
      obtain ⟨first, later, first_read, -, rfl⟩ := readLines_cons_eq_ok.mp read
      obtain rfl : _ = first := Except.ok.inj (here.symm.trans first_read)
      rw [record, if_pos rfl]
      rfl
  | cons other before ih =>
      obtain ⟨first, later, first_read, rest, rfl⟩ := readLines_cons_eq_ok.mp read
      have not_via : first.1 ≠ "Via".toList := by
        intro via
        apply no_via other List.mem_cons_self
        rw [← via, List.head?_eq_getElem?]
        obtain ⟨name, fetched, named⟩ := bind_eq_ok.mp first_read
        obtain ⟨text, -, made⟩ := bind_eq_ok.mp named
        obtain rfl : _ = first := Except.ok.inj made
        unfold fetch at fetched
        split at fetched
        · rename_i found
          rw [found, Except.ok.inj fetched]
        · simp at fetched
      have later_head := ih (fun another member =>
        no_via another (List.mem_cons_of_mem _ member)) rest
      rw [record, if_neg not_via]
      exact later_head

/-- The lines of a header that is read are read. -/
theorem readLines_of_new {buffer commandLine : Text} {others : List Text} {header : Header}
    (lines : split lineEnd buffer = commandLine :: others) (parsed : new buffer = .ok header) :
    ∃ fields, readLines others = .ok fields ∧ header.vias = fields.1 := by
  cases read : readLines others with
  | error e =>
      unfold new at parsed
      split at parsed
      · simp at parsed
      · rename_i first rest cut
        obtain ⟨rfl, rfl⟩ := List.cons.inj (lines.symm.trans cut)
        split at parsed
        · simp at parsed
        · rename_i fields read_fields
          simp [read] at read_fields
  | ok fields =>
      obtain ⟨other, parsed_other, -, -, vias⟩ := new_of_split lines read
      obtain rfl : header = other := Except.ok.inj (parsed.symm.trans parsed_other)
      exact ⟨fields, rfl, vias⟩

end Header

/-- The address in the first Via line of a header is read back from the text, whatever the lines
after it are. -/
theorem Address.topViaInfo_of_text (address : Address) (no_blank : ' ' ∉ address.host)
    {buffer commandLine : Text} {before after : List Text} {header : Header}
    (lines : split lineEnd buffer =
      commandLine :: (before ++ ("Via".toList ++ (": ".toList ++ address.via)) :: after))
    (no_via : ∀ other ∈ before, (splitString ": " other).head? ≠ some "Via".toList)
    (parsed : Header.new buffer = .ok header) : header.topViaInfo = .ok address.pair := by
  obtain ⟨fields, read, vias⟩ := Header.readLines_of_new lines parsed
  obtain ⟨tail, behind, here⟩ := address.readLine_via
  refine address.topViaInfo_of_front no_blank ?_ behind
  rw [vias]
  exact Header.head?_vias_of_readLines no_via here read

namespace Address

variable (address : Address)

/-- An address that is printed into a Contact header or into the first Via header is read back. -/
theorem read_back :
    (∀ display rest, ¬tagOpening <:+: display →
      Header.parseContactHeader (address.contact display rest) = .ok address.pair) ∧
    (' ' ∉ address.host → ∀ header : Header, header.vias.head? = some address.via →
      header.topViaInfo = .ok address.pair) :=
  ⟨fun _ rest plain => address.parse_contact plain rest,
    fun no_blank _ first => address.topViaInfo_of_via no_blank first⟩

/-- An address with a password, a port and a parameter. -/
def john : Address where
  user := some "john:pw;x".toList
  host := "188.165.231.30".toList
  port := some 14060
  params := ["transport=udp".toList]
  clean := by
    simp only [Option.toList_some, List.singleton_append, List.forall_mem_cons, List.not_mem_nil,
      false_imp_iff, implies_true, and_true]
    decide
  host_ne := by decide
  host_clean := by decide

/-- A request with this address in its headers. -/
def johnsRequest : Text :=
  ("BYE sip:watson@10.0.0.1 SIP/2.0\r\n" ++
    "CSeq: 2 BYE\r\n" ++
    "Via: SIP/2.0/UDP 188.165.231.30:14060;transport=udp\r\n" ++
    "Contact: \"john\"<sip:john:pw;x@188.165.231.30:14060;transport=udp>;lang=\"en\"").toList

theorem read_back_john :
    Header.parseContactHeader "\"john\"<sip:john:pw;x@188.165.231.30:14060;transport=udp>".toList =
        .ok ⟨"188.165.231.30".toList, some 14060⟩ ∧
      ∃ header, Header.new johnsRequest = .ok header ∧
        header.contactInfo = .ok ⟨"188.165.231.30".toList, some 14060⟩ ∧
        header.topViaInfo = .ok ⟨"188.165.231.30".toList, some 14060⟩ := by
  obtain ⟨contact, -⟩ := john.read_back
  have lines : split lineEnd johnsRequest = "BYE sip:watson@10.0.0.1 SIP/2.0".toList ::
      (["CSeq: 2 BYE".toList] ++ ("Via".toList ++ (": ".toList ++ john.via)) ::
        ["Contact: ".toList ++ john.contact "\"john\"".toList ";lang=\"en\"".toList]) := by
    decide +kernel
  have field : (Header.new johnsRequest >>= fun header => header.field "Contact") =
      .ok (john.contact "\"john\"".toList ";lang=\"en\"".toList) := by
    decide +kernel
  obtain ⟨header, parsed, found⟩ := bind_eq_ok.mp field
  have plain : ¬tagOpening <:+: "\"john\"".toList := by decide
  refine ⟨contact _ [] plain, header, parsed, john.contactInfo_of_field plain found, ?_⟩
  exact john.topViaInfo_of_text (by decide) lines (by decide +kernel) parsed

end Address

end Sip
end Contest
