import Contest.Crystal

/-!
# SIP header blocks

`SIP::Header`: a request line followed by lines `Name: value`.  Every value comes out of a split at
line ends and of a split at `: `, so it contains neither a line feed nor that separator; the header
carries this as a field.
-/

namespace Contest
namespace Sip

open Splitting

/-- A text that can stand as the value of a header line. -/
def HeaderValue (value : Text) : Prop :=
  '\n' ∉ value ∧ ¬": ".toList <:+: value

/-- `SIP::Header`. -/
structure Header where
  /-- The first line. -/
  commandLine : Text
  /-- The headers other than Via, the latest assignment first. -/
  headerKvs : List (Text × Text)
  /-- The values of the Via headers, in order. -/
  vias : List Text
  /-- No value contains a line feed or a header separator. -/
  clean : ∀ value ∈ vias ++ headerKvs.map Prod.snd, HeaderValue value

namespace Header

/-- The name and the value on a header line. -/
def readLine (line : Text) : Fallible (Text × Text) := do
  let foo := splitString ": " line
  let name ← fetch foo 0
  let value ← fetch foo 1
  return (name, value)

/-- Put a line before the Via values and the headers read from the lines after it. -/
def record (line : Text × Text) (later : List Text × List (Text × Text)) :
    List Text × List (Text × Text) :=
  if line.1 = "Via".toList then (line.2 :: later.1, later.2)
  else (later.1, later.2 ++ [line])

/-- The Via values and the other headers on the given lines. -/
def readLines : List Text → Fallible (List Text × List (Text × Text))
  | [] => .ok ([], [])
  | line :: lines => do
      let first ← readLine line
      let later ← readLines lines
      return record first later

theorem readLine_eq_ok {line name value : Text} (read : readLine line = .ok (name, value)) :
    name ∈ splitString ": " line ∧ value ∈ splitString ": " line := by
  obtain ⟨first, fetched_name, read⟩ := bind_eq_ok.mp read
  obtain ⟨second, fetched_value, read⟩ := bind_eq_ok.mp read
  obtain ⟨rfl, rfl⟩ := Prod.mk.inj (Except.ok.inj read)
  exact ⟨mem_of_fetch fetched_name, mem_of_fetch fetched_value⟩

theorem headerValue_of_readLine {line name value : Text} (no_newline : '\n' ∉ line)
    (read : readLine line = .ok (name, value)) : HeaderValue value := by
  have member := (readLine_eq_ok read).2
  exact ⟨fun inside => no_newline (mem_of_mem_split member inside),
    not_infix_of_mem_split_word (by decide) member⟩

theorem readLines_cons_eq_ok {line : Text} {lines : List Text}
    {result : List Text × List (Text × Text)} :
    readLines (line :: lines) = .ok result ↔
      ∃ first later, readLine line = .ok first ∧ readLines lines = .ok later ∧
        record first later = result := by
  simp only [readLines, bind_eq_ok, pure, Except.pure, Except.ok.injEq, exists_and_left]

theorem mem_record {line : Text × Text} {later : List Text × List (Text × Text)} {value : Text}
    (member : value ∈ (record line later).1 ++ (record line later).2.map Prod.snd) :
    value = line.2 ∨ value ∈ later.1 ++ later.2.map Prod.snd := by
  by_cases via : line.1 = "Via".toList
  · rw [record, if_pos via] at member
    exact List.mem_cons.mp member
  · rw [record, if_neg via, List.map_append, ← List.append_assoc] at member
    rcases List.mem_append.mp member with member | member
    · exact .inr member
    · exact .inl (List.mem_singleton.mp member)

/-- Every value comes from a line. -/
theorem exists_line_of_readLines {lines : List Text} {result : List Text × List (Text × Text)}
    (read : readLines lines = .ok result) :
    ∀ value ∈ result.1 ++ result.2.map Prod.snd, ∃ line ∈ lines, ∃ name,
      readLine line = .ok (name, value) := by
  induction lines generalizing result with
  | nil =>
      obtain rfl : ([], []) = result := by simpa [readLines] using read
      simp
  | cons line lines ih =>
      obtain ⟨first, later, here, rest, rfl⟩ := readLines_cons_eq_ok.mp read
      intro value member
      rcases mem_record member with rfl | member
      · exact ⟨line, List.mem_cons_self, first.1, here⟩
      · obtain ⟨other, listed, name, found⟩ := ih rest value member
        exact ⟨other, List.mem_cons_of_mem line listed, name, found⟩

theorem headerValue_of_readLines {lines : List Text} {result : List Text × List (Text × Text)}
    (no_newline : ∀ line ∈ lines, '\n' ∉ line) (read : readLines lines = .ok result) :
    ∀ value ∈ result.1 ++ result.2.map Prod.snd, HeaderValue value := by
  intro value member
  obtain ⟨line, listed, name, found⟩ := exists_line_of_readLines read value member
  exact headerValue_of_readLine (no_newline line listed) found

/-- `SIP::Header.new`. -/
def new (buffer : Text) : Fallible Header :=
  match lines : split lineEnd buffer with
  | [] => .error (.raised "Could not parse SIP header")
  | commandLine :: others =>
      match read : readLines others with
      | .error e => .error e
      | .ok fields => .ok
          { commandLine := commandLine
            headerKvs := fields.2
            vias := fields.1
            clean := headerValue_of_readLines
              (fun _ member => no_newline_of_mem_split_lineEnd
                (lines ▸ List.mem_cons_of_mem commandLine member)) read }

theorem new_of_split {buffer commandLine : Text} {others : List Text}
    {fields : List Text × List (Text × Text)}
    (lines : split lineEnd buffer = commandLine :: others) (read : readLines others = .ok fields) :
    ∃ header, new buffer = .ok header ∧ header.commandLine = commandLine ∧
      header.headerKvs = fields.2 ∧ header.vias = fields.1 := by
  unfold new
  split
  · rename_i none_left
    simp [lines] at none_left
  · rename_i first rest cut
    obtain ⟨rfl, rfl⟩ := List.cons.inj (lines.symm.trans cut)
    split
    · rename_i e failed
      simp [read] at failed
    · rename_i other read_other
      obtain rfl : fields = other := by simpa [read] using read_other
      exact ⟨_, rfl, rfl, rfl, rfl⟩

/-- Every value is a part of the text that the header is read from. -/
theorem infix_of_new {buffer : Text} {header : Header} (parsed : new buffer = .ok header) :
    ∀ value ∈ header.vias ++ header.headerKvs.map Prod.snd, value <:+: buffer := by
  unfold new at parsed
  split at parsed
  · simp at parsed
  · rename_i commandLine others lines
    split at parsed
    · simp at parsed
    · rename_i fields read
      obtain rfl := Except.ok.inj parsed
      intro value member
      obtain ⟨line, listed, name, found⟩ := exists_line_of_readLines read value member
      have in_buffer : line ∈ split lineEnd buffer := lines ▸ List.mem_cons_of_mem _ listed
      exact (infix_of_mem_split (readLine_eq_ok found).2).trans (infix_of_mem_split in_buffer)

/-- `@header_kvs[key]`. -/
def field (header : Header) (key : String) : Fallible Text :=
  match header.headerKvs.lookup key.toList with
  | some value => .ok value
  | none => .error (.keyError key.toList)

/-- `command`. -/
def command (header : Header) : Fallible Text := fetch (splitWhitespace header.commandLine) 0

/-- `request_uri`. -/
def requestUri (header : Header) : Fallible Text := fetch (splitWhitespace header.commandLine) 1

/-- `content_length`. -/
def contentLength (header : Header) : Fallible Int := header.field "Content-Length" >>= toI32

/-- `from`. -/
def fromHeader (header : Header) : Fallible Text := header.field "From"

/-- `to`. -/
def toHeader (header : Header) : Fallible Text := header.field "To"

/-- `cseq`. -/
def cseq (header : Header) : Fallible Text := header.field "CSeq"

/-- `call_id`. -/
def callId (header : Header) : Fallible Text := header.field "Call-ID"

/-- `StrAddressWithOptionalPort`. -/
structure StrAddressWithOptionalPort where
  /-- The host. -/
  host : Text
  /-- The port, if one is given. -/
  port : Option Int
deriving DecidableEq, Repr

/-- `parse_ip_w_optional_port`. -/
def parseIpWOptionalPort (str : Text) : Fallible StrAddressWithOptionalPort :=
  match splitString ":" str with
  | [host] => .ok ⟨host, none⟩
  | [host, port] => do
      let port ← toI32 port
      return ⟨host, some port⟩
  | _ => .error (.raised "Could not parse IP string")

/-- `top_via_info`. -/
def topViaInfo (header : Header) : Fallible StrAddressWithOptionalPort := do
  let str ← fetch header.vias 0
  let hostIpSec ← fetch (splitString ";" str) 0
  let hostNPort ← fetch (splitString "SIP/2.0/UDP " hostIpSec) 1
  parseIpWOptionalPort hostNPort

theorem mem_of_field {header : Header} {key : String} {value : Text}
    (found : header.field key = .ok value) :
    value ∈ header.vias ++ header.headerKvs.map Prod.snd := by
  unfold field at found
  split at found
  · rename_i other looked
    obtain rfl : other = value := by simpa using found
    obtain ⟨before, later, split_eq, -⟩ := List.lookup_eq_some_iff.mp looked
    have listed : (key.toList, other) ∈ header.headerKvs := by
      rw [split_eq]
      simp
    exact List.mem_append_right _ (List.mem_map_of_mem listed)
  · simp at found

theorem headerValue_of_field {header : Header} {key : String} {value : Text}
    (found : header.field key = .ok value) : HeaderValue value :=
  header.clean value (mem_of_field found)

end Header
end Sip
end Contest
