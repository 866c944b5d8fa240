import Contest.Sdp.Header

/-!
# The lines of a session description

Of the lines `x=value` of a session description, `SDP::Header` keeps the last value of each type and
all attributes, wherever they stand.
-/

namespace Contest
namespace Sdp

/-- A line of a session description. -/
structure Line where
  /-- Its type. -/
  key : Char
  /-- Its value. -/
  value : Text
  /-- The type can be told from the value. -/
  key_ne : key ≠ '='

namespace Line

theorem key_a : 'a' ≠ '=' := by decide

theorem key_v : 'v' ≠ '=' := by decide

theorem key_m : 'm' ≠ '=' := by decide

/-- The text of a line. -/
def text (line : Line) : Text := line.key :: '=' :: line.value

/-- The values of the lines of a type, in order. -/
def valuesOf (key : Char) (lines : List Line) : List Text :=
  (lines.filter fun line => line.key = key).map value

theorem valuesOf_cons (key : Char) (line : Line) (lines : List Line) :
    valuesOf key (line :: lines) =
      if line.key = key then line.value :: valuesOf key lines else valuesOf key lines := by
  by_cases same : line.key = key
  · rw [valuesOf, List.filter_cons_of_pos (by simpa using same), if_pos same]
    rfl
  · rw [valuesOf, List.filter_cons_of_neg (by simpa using same), if_neg same]
    rfl

theorem valuesOf_append (key : Char) (lines others : List Line) :
    valuesOf key (lines ++ others) = valuesOf key lines ++ valuesOf key others := by
  rw [valuesOf, List.filter_append, List.map_append]
  rfl

/-- The last value of a type, or the one given when there is none. -/
def lastOf (key : Char) (lines : List Line) (otherwise : Text) : Text :=
  (valuesOf key lines).getLast?.getD otherwise

theorem lastOf_cons (key : Char) (line : Line) (lines : List Line) (otherwise : Text) :
    lastOf key (line :: lines) otherwise =
      lastOf key lines (if line.key = key then line.value else otherwise) := by
  rw [lastOf, lastOf, valuesOf_cons]
  split
  · rw [List.getLast?_cons, Option.getD_some]
  · rfl

end Line

namespace Header

open Line

/-- What is stored of a line. -/
theorem store_eq (header : Header) (key : Char) (value : Text) :
    header.store [key] value =
      { header with
        version := if key = 'v' then value else header.version
        connectionInfo := if key = 'c' then value else header.connectionInfo
        originator := if key = 'o' then value else header.originator
        media := if key = 'm' then value else header.media
        sessionAttributes := header.sessionAttributes ++ if key = 'a' then [value] else [] } := by
  unfold store
  simp only [List.cons.injEq, and_true]
  split
  · rename_i same
    simp [same]
  · split
    · rename_i same
      simp [same]
    · split
      · rename_i same
        simp [same]
      · split
        · rename_i same
          simp [same]
        · split <;> simp_all

theorem readLine_text (header : Header) (line : Line) :
    header.readLine line.text = .ok (header.store [line.key] line.value) := by
  have cut : splitPair '=' line.text = some ([line.key], line.value) := by
    simp [splitPair, text, line.key_ne]
  rw [readLine, if_neg (by simp [text]), cut]
  rfl

/-- What has been kept of lines. -/
structure Keeps (header : Header) (lines : List Line) (read : Header) : Prop where
  /-- The last version. -/
  version : read.version = lastOf 'v' lines header.version
  /-- The last connection. -/
  connectionInfo : read.connectionInfo = lastOf 'c' lines header.connectionInfo
  /-- The last originator. -/
  originator : read.originator = lastOf 'o' lines header.originator
  /-- The last media line. -/
  media : read.media = lastOf 'm' lines header.media
  /-- All attributes. -/
  sessionAttributes : read.sessionAttributes = header.sessionAttributes ++ valuesOf 'a' lines

theorem readLines_text (header : Header) (lines : List Line) :
    ∃ read, header.readLines (lines.map text) = .ok read ∧ header.Keeps lines read := by
  induction lines generalizing header with
  | nil => exact ⟨header, rfl, rfl, rfl, rfl, rfl, by simp [valuesOf]⟩
  | cons line lines ih =>
      obtain ⟨read, later, keeps⟩ := ih (header.store [line.key] line.value)
      rw [store_eq] at keeps
      refine ⟨read, ?_, ?_⟩
      · rw [List.map_cons, readLines, readLine_text]
        exact later
      · exact {
          version := by rw [keeps.version, lastOf_cons]
          connectionInfo := by rw [keeps.connectionInfo, lastOf_cons]
          originator := by rw [keeps.originator, lastOf_cons]
          media := by rw [keeps.media, lastOf_cons]
          sessionAttributes := by
            rw [keeps.sessionAttributes, valuesOf_cons, List.append_assoc]
            split <;> rfl }

/-- Empty lines are passed over. -/
theorem readLines_filter (header : Header) (lines : List Text) :
    header.readLines (lines.filter (· ≠ [])) = header.readLines lines := by
  induction lines generalizing header with
  | nil => rfl
  | cons line lines ih =>
      by_cases empty : line = []
      · rw [List.filter_cons_of_neg (by simpa using empty), ih, readLines, readLine, if_pos empty]
        rfl
      · rw [List.filter_cons_of_pos (by simpa using empty), readLines, readLines]
        cases header.readLine line with
        | error e => rfl
        | ok next => exact ih next

/-- A text with lines of the right form is a session description. -/
theorem new_of_lines {buffer : Text} {lines : List Line}
    (consists : (eachLine buffer).filter (· ≠ []) = lines.map text) :
    ∃ header, new buffer = .ok header ∧ blank.Keeps lines header ∧
      header.iceUserfrag = iceValue "ice-ufrag" header.sessionAttributes ∧
      header.icePassword = iceValue "ice-pwd" header.sessionAttributes ∧
      header.candidateAttributeLines = header.sessionAttributes.filter fun line =>
        (splitString ":" line).head? = some "candidate".toList := by
  obtain ⟨read, kept, keeps⟩ := readLines_text blank lines
  rw [← consists, readLines_filter] at kept
  refine ⟨_, bind_eq_ok.mpr ⟨read, kept, rfl⟩, ⟨?_, ?_, ?_, ?_, ?_⟩, rfl, rfl, rfl⟩
  · exact keeps.version
  · exact keeps.connectionInfo
  · exact keeps.originator
  · exact keeps.media
  · exact keeps.sessionAttributes

end Header
end Sdp
end Contest
