import Contest.Conf
import Contest.Transport.Generic

/-!
# The session description in the answer

`SDP::OkBody` offers Opus under payload type 101 and PCMU under 0, whatever the offer said.
-/

namespace Contest
namespace Sdp

/-- `SDP::OkBody`. -/
structure OkBody where
  /-- The lines about the session. -/
  session : List (Text × Text)
  /-- The lines about the time and the media. -/
  time : List (Text × Text)
  /-- The attribute lines. -/
  media : List Text
deriving DecidableEq, Repr

namespace OkBody

/-- `SDP::OkBody.new` for a transport with any port, with the random session id. -/
def ofPort (conf : Conf) (forWebsocket : Bool) (rtpPort : Nat)
    (serverUserfrag serverPassword sessionId : Text) : OkBody where
  session :=
    [("v".toList, "0".toList),
      ("o".toList, "- ".toList ++ sessionId ++ " 1 IN IP4 ".toList ++ conf.serverIpAddress),
      ("s".toList, "AGoodSessionForMakeGreatGlory".toList),
      ("c".toList, "IN IP4 ".toList ++ conf.serverIpAddress)]
  time :=
    [("t".toList, "0 0".toList),
      ("m".toList, "audio ".toList ++ natText rtpPort ++
        if forWebsocket then " UDP/TLS/RTP/SAVPF 101 0".toList else " RTP/AVP 101 0".toList)]
  media :=
    ["a=rtcp:".toList ++ natText (rtpPort + 1) ++ " IN IP4 ".toList ++
        conf.serverIpAddress,
      "a=rtpmap:101 opus/48000/2".toList,
      "a=rtpmap:0 PCMU/8000".toList,
      "a=sendrecv".toList] ++
    if forWebsocket then
      ["a=setup:passive".toList,
        ("a=fingerprint:sha-1 4E:D9:E7:BD:AA:E3:F6:C8:A0:4B:E8:D6:C7:74:88:33:53:31:EE:76").toList,
        "a=ice-lite".toList,
        "a=rtcp-mux".toList,
        "a=ice-ufrag:".toList ++ serverUserfrag,
        "a=ice-pwd:".toList ++ serverPassword,
        "a=candidate:0 1 udp 2130706431 ".toList ++ conf.serverIpAddress ++ " ".toList ++
          natText rtpPort ++ " typ host".toList,
        "a=candidate:0 2 udp 2130706430 ".toList ++ conf.serverIpAddress ++ " ".toList ++
          natText (rtpPort + 1) ++ " typ host".toList]
    else []

/-- `SDP::OkBody.new` for a transport whose port has been drawn. -/
def new (conf : Conf) (forWebsocket : Bool) (rtpPort : RtpPort)
    (serverUserfrag serverPassword sessionId : Text) : OkBody :=
  ofPort conf forWebsocket rtpPort.number serverUserfrag serverPassword sessionId

/-- `body`. -/
def body (okBody : OkBody) : Text :=
  ((okBody.session ++ okBody.time).flatMap fun line =>
    line.1 ++ "=".toList ++ line.2 ++ "\r\n".toList) ++
    okBody.media.flatMap fun line => line ++ "\r\n".toList

end OkBody
end Sdp
end Contest
