import Contest.Foundation.Splitting
import Contest.Foundation.Transition
import Contest.Foundation.DelayLine
import Contest.Foundation.Allocation
import Contest.Foundation.Segments
import Contest.Foundation.Schedule
import Contest.Foundation.Chunks
import Contest.Crystal
import Contest.Conf
import Contest.Codec
import Contest.Companding
import Contest.Util.Timer
import Contest.Audio
import Contest.Audio.Stream
import Contest.Transport.JitterBuffer
import Contest.Transport.Reordering
import Contest.Transport.Generic
import Contest.Transport.Listening
import Contest.Transport.Sending
import Contest.Transport.Continuity
import Contest.Transport.PayloadBoundaries
import Contest.Sdp.Header
import Contest.Sdp.Lines
import Contest.Sdp.RtpMap
import Contest.Sdp.Sections
import Contest.Sdp.OkBody
import Contest.Sdp.AnswerReadBack
import Contest.Sip.Header
import Contest.Sip.Msg
import Contest.Sip.Responder
import Contest.Sip.ReadBack
import Contest.Graph.Call
import Contest.Graph.Collection
import Contest.Graph.SetUp
import Contest.Sip.Session
import Contest.Sip.FailedInvite
import Contest.Controllers.WebSocketServer
import Contest.Answered
import Contest.Server
import Contest.Interleaving
import Contest.Reachable
import Contest.PortExclusivity
import Contest.ByeResponse
import Contest.CallIdentity
import Contest.ZombieCalls
import Contest.HangUp
import Contest.CodecAgreement
import Contest.IncomingAudio
import Contest.Negotiation
import Contest.PayloadType
import Contest.Sip.Echo
import Contest.Sip.Framing
import Contest.Sip.ResponseFraming
import Contest.Foundation.Chain
import Contest.Foundation.Digest
import Contest.Stun.Header
import Contest.Stun.Conv
import Contest.Stun.Attributes
import Contest.Stun.Grammar
import Contest.Stun.ExtendedReply
import Contest.Stun.Replies
import Contest.Stun.SoftwareName
import Contest.OpusFrames
import Contest.Audio.FileStream
import Contest.Sip.Address
import Contest.Foundation.Logged
import Contest.Transport.Srtp
import Contest.Transport.SrtpMedia
import Contest.Transport.DtlsSession
import Contest.Transport.SrtpSending
import Contest.Foundation.SerialNumber
import Contest.Foundation.ReplayWindow
import Contest.Foundation.CounterMode
import Contest.Foundation.Aes
import Contest.LibSrtp.Session
import Contest.LibSrtp.Index
import Contest.LibSrtp.Calls
import Contest.LibSrtp.Freshness
import Contest.LibSrtp.Channel
import Contest.LibSrtp.Delivery
import Contest.LibSrtp.Rollover
import Contest.LibDtlsSrtp.Session
import Contest.LibDtlsSrtp.Flights
import Contest.LibDtlsSrtp.Connection
import Contest.Transport.SrtpLibrary
import Contest.LibDtlsSrtp.Keys
import Contest.Foundation.Playout
import Contest.Origins
import Contest.SipFiber
import Contest.Program
import Contest.PromptPlayback
