import Contest.Crystal

/-!
# Session descriptions

`SDP::Header`: lines `x=value`, of which the version, the media line, the connection, the
originator and the attributes are kept.  The two regular expressions on attributes are anchored at
both ends, so they are read off from the left.
-/

namespace Contest
namespace Sdp

/-- `SDP::Header`. -/
structure Header where
  /-- The value of the last `v=` line. -/
  version : Text
  /-- The value of the last `m=` line. -/
  media : Text
  /-- The values of all `a=` lines, in order. -/
  sessionAttributes : List Text
  /-- The value of the last `c=` line. -/
  connectionInfo : Text
  /-- The value of the last `o=` line. -/
  originator : Text
  /-- The ICE user fragment, empty when none is given. -/
  iceUserfrag : Text
  /-- The ICE password, empty when none is given. -/
  icePassword : Text
  /-- The attributes that describe ICE candidates. -/
  candidateAttributeLines : List Text
deriving DecidableEq, Repr

/-- An entry of `ice_candidates`. -/
structure IceCandidate where
  /-- The first word, the name of the attribute included. -/
  candidateId : Text
  /-- The second word. -/
  componentId : Text
  /-- The third word in lower case. -/
  protocol : Text
  /-- The fourth word. -/
  priority : Text
  /-- The fifth word. -/
  connectionAddress : Text
  /-- The sixth word. -/
  port : Text
  /-- The eighth word. -/
  candType : Text
deriving DecidableEq, Repr

namespace Header

/-- The header before any line has been read. -/
def blank : Header where
  version := []
  media := []
  sessionAttributes := []
  connectionInfo := []
  originator := []
  iceUserfrag := []
  icePassword := []
  candidateAttributeLines := []

/-- Store the value of one line. -/
def store (header : Header) (key value : Text) : Header :=
  if key = ['v'] then { header with version := value }
  else if key = ['c'] then { header with connectionInfo := value }
  else if key = ['o'] then { header with originator := value }
  else if key = ['m'] then { header with media := value }
  else if key = ['a'] then
    { header with sessionAttributes := header.sessionAttributes ++ [value] }
  else header

/-- Read one line; an empty line is skipped, and a line without `=` cannot be destructured. -/
def readLine (header : Header) (line : Text) : Fallible Header :=
  if line = [] then .ok header
  else
    match splitPair '=' line with
    | none => .error .indexError
    | some (key, value) =>
        if 1 < key.length then .error (.raised "SDP key length not single char")
        else .ok (header.store key value)

/-- Read lines in order. -/
def readLines : Header → List Text → Fallible Header
  | header, [] => .ok header
  | header, line :: lines => do
      let next ← header.readLine line
      next.readLines lines

/-- The value of the last attribute `name:value` without a further colon. -/
def iceValue (name : String) (lines : List Text) : Text :=
  lines.foldl (fun current line =>
    match splitString ":" line with
    | [k, v] => if k = name.toList then v else current
    | _ => current) []

/-- `SDP::Header.new`. -/
def new (buffer : Text) : Fallible Header := do
  let read ← blank.readLines (eachLine buffer)
  return { read with
    iceUserfrag := iceValue "ice-ufrag" read.sessionAttributes
    icePassword := iceValue "ice-pwd" read.sessionAttributes
    candidateAttributeLines := read.sessionAttributes.filter fun line =>
      (splitString ":" line).head? = some "candidate".toList }

/-- `connection_ip`. -/
def connectionIp (header : Header) : Fallible Text :=
  fetch (splitString "IN IP4 " header.connectionInfo) 1

/-- `media_port`. -/
def mediaPort (header : Header) : Fallible Int := fetch (splitString " " header.media) 1 >>= toI32

/-- What follows a given beginning. -/
def after? (beginning : String) (text : Text) : Option Text :=
  if beginning.toList <+: text then some (text.drop beginning.length) else none

/-- A maximal run of at least one digit, and what follows it. -/
def digits? (text : Text) : Option (Text × Text) :=
  if text.takeWhile Char.isDigit = [] then none
  else some (text.takeWhile Char.isDigit, text.dropWhile Char.isDigit)

/-- The port and the host matched by `RTCP_ATTRIBUTE_REGEX`. -/
def scanRtcp (line : Text) : Option (Text × Text) := do
  let numbered ← after? "rtcp:" line
  let (port, rest) ← digits? numbered
  let host ← (after? " IN IP4 " rest).orElse fun _ => after? " IN IP6 " rest
  if host = [] then none else some (port, host)

/-- The id and the codec matched by `RTP_MAP_REGEX`. -/
def scanRtpMap (line : Text) : Option (Text × Text) := do
  let numbered ← after? "rtpmap:" line
  let (id, rest) ← digits? numbered
  let codec ← after? " " rest
  if codec = [] then none else some (id, codec)

/-- `rtcp_info_line`. -/
def rtcpInfoLine (header : Header) : Text :=
  (header.sessionAttributes.find? fun line => (scanRtcp line).isSome).getD []

/-- `has_rtcp_info?`. -/
def hasRtcpInfo (header : Header) : Bool := !header.rtcpInfoLine.all isAsciiWhitespace

/-- `rtcp_connect_addr_and_port`. -/
def rtcpConnectAddrAndPort (header : Header) : Fallible (Text × Int) :=
  match scanRtcp header.rtcpInfoLine with
  | some (port, host) => do
      let port ← toI32 port
      return (host, port)
  | none => .error (.raised "Could not parse rtcp connect attribute")

/-- The payload types and codecs on the given attributes, in order. -/
def rtpMapLines : List Text → Fallible (List (Int × Text))
  | [] => .ok []
  | line :: lines =>
      match scanRtpMap line with
      | none => rtpMapLines lines
      | some (id, codec) => do
          let number ← toI32 id
          let later ← rtpMapLines lines
          return (number, codec) :: later

/-- `rtp_map`: for each codec, the number that the last line for it gives. -/
def rtpMap (header : Header) : Fallible (List (Text × Int)) := do
  let lines ← rtpMapLines header.sessionAttributes
  return lines.reverse.map Prod.swap

/-- What `ice_candidates` makes of one line, with `String#downcase`. -/
def iceCandidate (downcase : Text → Text) (value : Text) : Fallible IceCandidate := do
  let splits := splitString " " value
  return {
    candidateId := ← fetch splits 0
    componentId := ← fetch splits 1
    protocol := downcase (← fetch splits 2)
    priority := ← fetch splits 3
    connectionAddress := ← fetch splits 4
    port := ← fetch splits 5
    candType := ← fetch splits 7 }

/-- `ice_candidates`, with `String#downcase`. -/
def iceCandidates (downcase : Text → Text) (header : Header) : Fallible (List IceCandidate) :=
  header.candidateAttributeLines.mapM (iceCandidate downcase)

end Header
end Sdp
end Contest
