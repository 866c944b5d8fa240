import Contest.Sdp.Lines
import Contest.Sdp.RtpMap

/-!
# The sections of a session description

A session description consists of lines about the session and of sections, each of which a media
line opens.  `SDP::Header` knows no sections: it keeps the last media line and one list of
attributes for the whole description.
-/

namespace Contest
namespace Sdp

open Line

/-- A section of a session description. -/
structure MediaSection where
  /-- The media. -/
  kind : Text
  /-- The media is a single word. -/
  kind_word : ' ' ∉ kind
  /-- The port. -/
  port : Text
  /-- The port is a number. -/
  port_digits : port ≠ [] ∧ ∀ c ∈ port, c.isDigit = true
  /-- The number is that of a port. -/
  port_lt : digitsValue port < 2 ^ 16
  /-- The number of ports, if it is given. -/
  count : Option Text
  /-- The number of ports is a part of the second word. -/
  count_word : ' ' ∉ count.getD []
  /-- The protocol and the formats. -/
  formats : Text
  /-- The lines up to the next section. -/
  lines : List Line
  /-- None of them opens a section. -/
  lines_key : ∀ line ∈ lines, line.key ≠ 'm'

namespace MediaSection

variable (part : MediaSection)

/-- The port with the number of ports. -/
def portWord : Text := part.port ++ (part.count.map ('/' :: ·)).getD []

/-- The media line. -/
def mediaLine : Line where
  key := 'm'
  value := part.kind ++ ' ' :: (part.portWord ++ ' ' :: part.formats)
  key_ne := Line.key_m

/-- The section as it stands in the description. -/
def allLines : List Line := part.mediaLine :: part.lines

/-- The number of the port. -/
def portNumber : Int := digitsValue part.port

/-- The attributes of the section. -/
def attributes : List Text := valuesOf 'a' part.lines

theorem no_blank_portWord : ' ' ∉ part.portWord := by
  intro inside
  rcases List.mem_append.mp inside with inside | inside
  · exact absurd (part.port_digits.2 _ inside) (by decide)
  · have word := part.count_word
    cases given : part.count with
    | none => simp [given] at inside
    | some count =>
        rw [given, Option.map_some, Option.getD_some] at inside
        rw [given, Option.getD_some] at word
        rcases List.mem_cons.mp inside with slash | inside
        · exact absurd slash (by decide)
        · exact word inside

/-- The port of the header is that of the media line it has kept, unless ports are counted. -/
theorem mediaPort_eq {header : Header} (kept : header.media = part.mediaLine.value) :
    header.mediaPort =
      if part.count = none then .ok part.portNumber else .error .argumentError := by
  have word : fetch (splitString " " header.media) 1 = .ok part.portWord := by
    rw [kept, mediaLine, splitString_blank part.kind_word,
      splitString_blank part.no_blank_portWord]
    rfl
  rw [Header.mediaPort, word]
  change toI32 part.portWord = _
  cases given : part.count with
  | none =>
      have small := part.port_lt
      rw [if_pos rfl, portWord, given, Option.map_none, Option.getD_none, List.append_nil,
        toI32_of_isDigit part.port_digits.1 part.port_digits.2, if_pos (by omega)]
      rfl
  | some count =>
      rw [if_neg (by simp), portWord, given, Option.map_some, Option.getD_some]
      exact toI32_of_isDigit_append part.port_digits.1 part.port_digits.2 (by decide)

end MediaSection

/-- A session description with exactly one section for audio. -/
structure AudioDescription where
  /-- The lines about the session. -/
  sessionLines : List Line
  /-- None of them opens a section. -/
  sessionLines_key : ∀ line ∈ sessionLines, line.key ≠ 'm'
  /-- The sections before the one for audio. -/
  before : List MediaSection
  /-- The section for audio. -/
  audio : MediaSection
  /-- The sections after it. -/
  after : List MediaSection
  /-- It is for audio. -/
  audio_kind : audio.kind = "audio".toList
  /-- No other section is. -/
  others_kind : ∀ other ∈ before ++ after, other.kind ≠ "audio".toList

namespace AudioDescription

variable (description : AudioDescription)

/-- All sections. -/
def sections : List MediaSection := description.before ++ description.audio :: description.after

/-- All lines. -/
def lines : List Line := description.sessionLines ++ description.sections.flatMap (·.allLines)

/-- The attributes of the session and of all sections. -/
def attributes : List Text :=
  valuesOf 'a' description.sessionLines ++ description.sections.flatMap (·.attributes)

/-- The last section. -/
def last : MediaSection := description.after.getLast?.getD description.audio

/-- The text has the lines of the description, whatever line ends and empty lines it has. -/
def WrittenAs (buffer : Text) : Prop :=
  (eachLine buffer).filter (· ≠ []) = description.lines.map text

theorem valuesOf_eq_nil {lines : List Line} {key : Char} (absent : ∀ line ∈ lines, line.key ≠ key) :
    valuesOf key lines = [] := by
  rw [valuesOf, List.map_eq_nil_iff, List.filter_eq_nil_iff]
  intro line member
  simpa using absent line member

theorem valuesOf_flatMap (key : Char) (parts : List MediaSection) :
    valuesOf key (parts.flatMap (·.allLines)) =
      parts.flatMap fun part => valuesOf key part.allLines := by
  induction parts with
  | nil => rfl
  | cons part parts ih => rw [List.flatMap_cons, valuesOf_append, ih, List.flatMap_cons]

theorem valuesOf_attributes : valuesOf 'a' description.lines = description.attributes := by
  rw [lines, valuesOf_append, valuesOf_flatMap]
  congr 1

/-- The last media line is that of the last section. -/
theorem lastOf_media (otherwise : Text) :
    lastOf 'm' description.lines otherwise = description.last.mediaLine.value := by
  have openings : valuesOf 'm' description.lines =
      description.sections.map fun part => part.mediaLine.value := by
    rw [lines, valuesOf_append, valuesOf_eq_nil description.sessionLines_key, valuesOf_flatMap,
      List.nil_append, List.map_eq_flatMap]
    congr 1
    funext part
    have opens : part.mediaLine.key = 'm' := rfl
    rw [MediaSection.allLines, valuesOf_cons, if_pos opens, valuesOf_eq_nil part.lines_key]
  rw [lastOf, openings, List.getLast?_map, sections, List.getLast?_append, List.getLast?_cons]
  rfl

/-- What is read of a description: the port of its last section, and for each codec the last number
that is given anywhere. -/
structure ReadFlat (header : Header) : Prop where
  /-- The port is that of the last section, unless ports are counted there. -/
  mediaPort : header.mediaPort =
    if description.last.count = none then .ok description.last.portNumber
    else .error .argumentError
  /-- The map can be read when all numbers fit into 31 bits. -/
  numbered : (∃ rtpMap, header.rtpMap = .ok rtpMap) ↔ Header.Numbered description.attributes
  /-- It has the last number for each codec. -/
  rtpMap : ∀ rtpMap, header.rtpMap = .ok rtpMap →
    ∀ codec, rtpMap.lookup codec = Header.numberOf codec description.attributes

/-- What is read is the port and the mappings of the section for audio. -/
structure ReadAudio (header : Header) : Prop where
  /-- The port is that of the section for audio. -/
  mediaPort : header.mediaPort = .ok description.audio.portNumber
  /-- The map has the numbers in the section for audio. -/
  rtpMap : ∃ rtpMap, header.rtpMap = .ok rtpMap ∧
    ∀ codec, rtpMap.lookup codec = Header.numberOf codec description.audio.attributes

/-- The last section has the port of the one for audio, and no number given elsewhere replaces or
joins those given there. -/
structure AudioPrevails : Prop where
  /-- No ports are counted in the last section. -/
  count : description.last.count = none
  /-- The last section has the port. -/
  port : description.last.portNumber = description.audio.portNumber
  /-- The numbers can be read. -/
  numbered : Header.Numbered description.attributes
  /-- The last number for a codec is the one given in the section for audio. -/
  numbers : ∀ codec, Header.numberOf codec description.attributes =
    Header.numberOf codec description.audio.attributes

theorem readFlat_of_writtenAs {buffer : Text} (written : description.WrittenAs buffer) :
    ∃ header, Header.new buffer = .ok header ∧ description.ReadFlat header := by
  obtain ⟨header, read, keeps, -⟩ := Header.new_of_lines written
  have attributes : header.sessionAttributes = description.attributes := by
    rw [keeps.sessionAttributes, description.valuesOf_attributes]
    rfl
  refine ⟨header, read, ?_, ?_, ?_⟩
  · exact description.last.mediaPort_eq (keeps.media.trans (description.lastOf_media _))
  · rw [Header.exists_rtpMap_iff, attributes]
  · intro rtpMap read_map codec
    rw [Header.lookup_rtpMap read_map, attributes]

theorem ReadFlat.readAudio_iff {description : AudioDescription} {header : Header}
    (flat : description.ReadFlat header) :
    description.ReadAudio header ↔ description.AudioPrevails := by
  constructor
  · rintro ⟨port, rtpMap, read, numbers⟩
    have uncounted : description.last.count = none := by
      by_contra counted
      rw [flat.mediaPort, if_neg counted] at port
      simp at port
    rw [flat.mediaPort, if_pos uncounted] at port
    refine ⟨uncounted, Except.ok.inj port, flat.numbered.mp ⟨rtpMap, read⟩, ?_⟩
    intro codec
    rw [← flat.rtpMap rtpMap read, numbers]
  · intro prevails
    obtain ⟨rtpMap, read⟩ := flat.numbered.mpr prevails.numbered
    refine ⟨?_, rtpMap, read, ?_⟩
    · rw [flat.mediaPort, if_pos prevails.count, prevails.port]
    · intro codec
      rw [flat.rtpMap rtpMap read, prevails.numbers]

/-- A description is read as its last media line and the attributes of all its sections, which is
the section for audio if and only if that section prevails. -/
theorem new_of_writtenAs {buffer : Text} (written : description.WrittenAs buffer) :
    ∃ header, Header.new buffer = .ok header ∧ description.ReadFlat header ∧
      (description.ReadAudio header ↔ description.AudioPrevails) := by
  obtain ⟨header, read, flat⟩ := description.readFlat_of_writtenAs written
  exact ⟨header, read, flat, flat.readAudio_iff⟩

/-- A section with one attribute. -/
def sampleSection (kind : Text) (kind_word : ' ' ∉ kind) (port : Text)
    (port_digits : port ≠ [] ∧ ∀ c ∈ port, c.isDigit = true) (port_lt : digitsValue port < 2 ^ 16)
    (formats mapping : Text) : MediaSection where
  kind := kind
  kind_word := kind_word
  port := port
  port_digits := port_digits
  port_lt := port_lt
  count := none
  count_word := by simp
  formats := formats
  lines := [⟨'a', mapping, Line.key_a⟩]
  lines_key := by simp

/-- An offer of audio and video. -/
def audioAndVideo : AudioDescription where
  sessionLines := [⟨'v', "0".toList, Line.key_v⟩]
  sessionLines_key := by simp
  before := []
  audio := sampleSection "audio".toList (by decide) "4000".toList
    ⟨by decide, List.all_iff_forall_prop.mp (by decide)⟩ (by decide) "RTP/AVP 101".toList
    "rtpmap:101 opus/48000/2".toList
  after := [sampleSection "video".toList (by decide) "5000".toList
    ⟨by decide, List.all_iff_forall_prop.mp (by decide)⟩ (by decide) "RTP/AVP 96".toList
    "rtpmap:96 VP8/90000".toList]
  audio_kind := rfl
  others_kind := by
    intro other member
    obtain rfl := List.mem_singleton.mp member
    exact by decide

/-- The text of the offer of audio and video. -/
def audioAndVideoText : Text :=
  ("v=0\r\nm=audio 4000 RTP/AVP 101\r\na=rtpmap:101 opus/48000/2\r\n" ++
    "m=video 5000 RTP/AVP 96\r\na=rtpmap:96 VP8/90000\r\n").toList

theorem writtenAs_audioAndVideo : audioAndVideo.WrittenAs audioAndVideoText := by
  unfold WrittenAs
  decide +kernel

theorem new_of_writtenAs_sample :
    ∃ header, Header.new audioAndVideoText = .ok header ∧ audioAndVideo.ReadFlat header ∧
      (audioAndVideo.ReadAudio header ↔ audioAndVideo.AudioPrevails) :=
  audioAndVideo.new_of_writtenAs writtenAs_audioAndVideo

/-- The port of the video is taken for that of the audio. -/
theorem audio_sent_to_video_port :
    ¬∀ (description : AudioDescription) (buffer : Text), description.WrittenAs buffer →
      ∃ header, Header.new buffer = .ok header ∧ description.ReadAudio header := by
  intro claimed
  obtain ⟨header, read, audio⟩ := claimed audioAndVideo _ writtenAs_audioAndVideo
  obtain ⟨other, read_other, flat⟩ := audioAndVideo.readFlat_of_writtenAs writtenAs_audioAndVideo
  obtain rfl : header = other := by simpa [read] using read_other
  exact absurd (flat.readAudio_iff.mp audio).port (by decide)

end AudioDescription
end Sdp
end Contest
