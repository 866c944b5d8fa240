import Contest.Foundation.Logged
import Contest.Stun.Conv
import Contest.Transport.PayloadBoundaries

/-!
# SRTP transports

`Transport::SRTP` tells STUN, SRTP and DTLS datagrams apart by their first byte.  The libraries for
SRTP and DTLS are supplied by the environment.  What an operation does to their sessions, to the
jitter buffer, to the socket and to the handler of the call is its log; the object itself keeps no
record of whether its DTLS session has been freed.
-/

namespace Contest
namespace Transport

/-- A pointer to a session of `LibSRTPDecrypt`; the null pointer is zero. -/
abbrev SessionPtr := Nat

/-- `==` of a pointer and an integer, which is that of any two values that cannot be compared. -/
def SessionPtr.eqInt (_ : SessionPtr) (_ : Int) : Bool := false

/-- What `srtp_recv` makes of a packet in place. -/
structure Unprotected (payload : Bytes) where
  /-- The status. -/
  ret : Int
  /-- The rewritten buffer. -/
  buffer : Bytes
  /-- The new length. -/
  len : Nat
  /-- The buffer keeps its size. -/
  buffer_length : buffer.length = payload.length
  /-- On success there is a whole header, and the packet has not become longer. -/
  bounds : ret = 0 → 12 ≤ len ∧ len ≤ payload.length

/-- What `srtp_send` makes of a packet in a buffer with room for the tag. -/
structure Protected (plain : Bytes) where
  /-- The status. -/
  ret : Int
  /-- The rewritten buffer. -/
  buffer : Bytes
  /-- The new length. -/
  len : Nat
  /-- The buffer keeps its size. -/
  buffer_length : buffer.length = plain.length
  /-- The packet lies in the buffer. -/
  bounds : len ≤ buffer.length

/-- What comes of `srtp_create` and `srtp_setkey`. -/
structure SrtpCreation where
  /-- The session. -/
  session : SessionPtr
  /-- The status of setting its key. -/
  setkey : Int
deriving DecidableEq, Repr

/-- What the DTLS library answers to a record, and what comes of the sessions made with its
keys. -/
structure DtlsReply where
  /-- The result of `dtls_sess_put_packet`. -/
  len : Int
  /-- Whether `ssl_get_error` says that more is to be read. -/
  wantRead : Bool
  /-- Whether the type of the connection is `DTLS_CONTYPE_EXISTING`. -/
  existing : Bool
  /-- What comes of copying the certificate of the peer, who need not have one. -/
  certificate : Fallible Unit
  /-- The session for packets sent. -/
  outgoing : SrtpCreation
  /-- The session for packets received. -/
  incoming : SrtpCreation
deriving DecidableEq, Repr

/-- A datagram, with what the environment makes of it. -/
structure Datagram where
  /-- Its bytes. -/
  payload : Bytes
  /-- Where it comes from. -/
  addr : Stun.SockAddr
  /-- The calls among which STUN looks for a username. -/
  tracker : Graph.Tracker
  /-- Whether the socket takes a STUN reply. -/
  delivered : Bool
  /-- `srtp_recv`. -/
  srtpRecv : (payload : Bytes) → Unprotected payload
  /-- The DTLS library. -/
  dtls : DtlsReply

/-- What comes of a packet to be sent. -/
structure Sending where
  /-- `srtp_send`. -/
  srtpSend : (plain : Bytes) → Protected plain
  /-- Whether the socket takes the datagram. -/
  delivered : Bool

/-- What a transport does outside its own fields. -/
inductive Act
  /-- A call or a read through `@dtls`. -/
  | useSession
  /-- `dtls_sess_free`. -/
  | freeSession
  /-- `srtp_create` for packets sent. -/
  | createOutgoing
  /-- `srtp_create` for packets received. -/
  | createIncoming
  /-- `:start_call` is queued. -/
  | startCall
  /-- The jitter buffer is fed. -/
  | feed (seqNo : Int) (data : Bytes)
  /-- A STUN reply is handed to the socket. -/
  | stunReply (reply : Bytes) (addr : Stun.SockAddr)
  /-- `send_audio` hands a datagram to the socket. -/
  | sendAudio (datagram : Bytes) (addr : IPAddress)
deriving DecidableEq, Repr

/-- Whether a session can be used, for all that the code checks. -/
def SrtpCreation.ready (creation : SrtpCreation) : Bool := creation.setkey = 0

/-- Whether the connection is there after a record. -/
def DtlsReply.connected (reply : DtlsReply) : Bool :=
  (0 ≤ reply.len || reply.wantRead) && reply.existing

/-- Whether a record establishes the connection. -/
def DtlsReply.established (reply : DtlsReply) : Bool :=
  reply.connected && reply.certificate.isOk

/-- What is done with the keys. -/
def DtlsReply.keyActs (reply : DtlsReply) : List Act :=
  .createOutgoing ::
    if reply.outgoing.ready then
      .createIncoming :: if reply.incoming.ready then [.startCall] else []
    else []

/-- What is done to the sessions for a record. -/
def DtlsReply.acts (reply : DtlsReply) : List Act :=
  List.replicate ((if reply.len < 0 then 3 else 2) + if reply.connected then 1 else 0)
      .useSession ++
    if reply.established then .useSession :: .freeSession :: reply.keyActs else []

theorem DtlsReply.keyActs_sublist (reply : DtlsReply) :
    reply.keyActs.Sublist [.createOutgoing, .createIncoming, .startCall] := by
  unfold keyActs
  refine List.Sublist.cons_cons _ ?_
  split
  · refine List.Sublist.cons_cons _ ?_
    split
    · exact List.Sublist.refl _
    · exact List.nil_sublist _
  · exact List.nil_sublist _

/-- For a record, the DTLS session is used, and then it may be freed and the keys used. -/
theorem DtlsReply.acts_sublist (reply : DtlsReply) :
    ∃ uses, reply.acts.Sublist (List.replicate uses .useSession ++
      [.freeSession, .createOutgoing, .createIncoming, .startCall]) := by
  unfold acts
  cases reply.established with
  | false => exact ⟨_, (List.Sublist.refl _).append (List.nil_sublist _)⟩
  | true =>
      refine ⟨(if reply.len < 0 then 3 else 2) + (if reply.connected then 1 else 0) + 1, ?_⟩
      rw [List.replicate_succ', List.append_assoc]
      exact (List.Sublist.refl _).append ((reply.keyActs_sublist.cons_cons _).cons_cons _)

/-- A record touches nothing but the sessions and the handler. -/
theorem DtlsReply.mem_acts {reply : DtlsReply} {act : Act} (member : act ∈ reply.acts) :
    act ∈ [Act.useSession, .freeSession, .createOutgoing, .createIncoming, .startCall] := by
  obtain ⟨uses, sublist⟩ := reply.acts_sublist
  rcases List.mem_append.mp (sublist.subset member) with use | rest
  · rw [List.eq_of_mem_replicate use]
    exact List.mem_cons_self
  · exact List.mem_cons_of_mem _ rest

theorem DtlsReply.filterMap_acts {α : Type} {read : Act → Option α} (reply : DtlsReply)
    (unread : ∀ act ∈ [Act.useSession, .freeSession, .createOutgoing, .createIncoming, .startCall],
      read act = none) : reply.acts.filterMap read = [] :=
  List.filterMap_eq_nil_iff.mpr fun act member => unread act (mem_acts member)

/-- A `Transport::SRTP`. -/
structure Srtp extends Transport where
  /-- The session for packets received, `@srtp_incoming`. -/
  srtpIncoming : Option SessionPtr
  /-- The session for packets sent, `@srtp_outgoing`. -/
  srtpOutgoing : Option SessionPtr

namespace Srtp

/-- `SRTP.new`, once a port has been allocated and bound. -/
def create (encoder : Codec) (mediaProfilePt : Int) (rtpPort : RtpPort) : Srtp where
  toTransport := Transport.create encoder mediaProfilePt rtpPort
  srtpIncoming := none
  srtpOutgoing := none

/-- A part of an operation. -/
abbrev Turn := Logged Srtp Act Exn

open Logged

/-- `Stun.handle_stun_payload`, on the socket of the transport. -/
def handleStunPayload (datagram : Datagram) : Turn Unit := do
  let replies ← ofResult (Stun.handleStunPayload datagram.tracker datagram.payload datagram.addr)
  replies.forM fun reply => emit (.stunReply reply.1 reply.2)
  if !datagram.delivered then raise .errno

/-- `handle_rtp`, as `Transport::Generic` has it. -/
def handleRtp (payload : Bytes) : Turn Unit := do
  let packet ← ofResult (parseRtp payload)
  emit (.feed packet.1 packet.2)
  let srtp ← current
  let fed := feedJitter srtp.encoder.decode srtp.toTransport packet.1 packet.2
  update fun srtp => { srtp with toTransport := fed.2 }
  ofResult fed.1

/-- `handle_srtp`, with the buffer that it leaves. -/
def handleSrtp (srtpRecv : (payload : Bytes) → Unprotected payload) (payload : Bytes) :
    Turn Bytes := do
  let second ← ofResult (fetch payload 1)
  if second = 0xc8 then return payload
  let received := srtpRecv payload
  -- the status is logged, and nothing else is done about it
  handleRtp received.buffer
  return received.buffer

/-- One of the two SRTP sessions is created and given its key. -/
def createSession (creation : SrtpCreation) (act : Act) (assign : SessionPtr → Srtp → Srtp)
    (noPolicy : String) (noKey : Int → String) : Turn Unit := do
  emit act
  update (assign creation.session)
  if creation.session.eqInt 0 then raise (.raised noPolicy)
  if creation.setkey ≠ 0 then raise (.raised (noKey creation.setkey))

/-- The session for packets sent. -/
def createOutgoing (creation : SrtpCreation) : Turn Unit :=
  createSession creation .createOutgoing
    (fun session srtp => { srtp with srtpOutgoing := some session })
    "Could not create outgoing SRTP policy"
    (fun ret => s!"Outgoing SRTP key could not be set (ret == {ret})")

/-- The session for packets received. -/
def createIncoming (creation : SrtpCreation) : Turn Unit :=
  createSession creation .createIncoming
    (fun session srtp => { srtp with srtpIncoming := some session })
    "Could not create incoming SRTP policy"
    (fun ret => s!"Incoming SRTP key could not be set (ret == {ret})")

/-- `handle_dtls`. -/
def handleDtls (reply : DtlsReply) : Turn Unit := do
  emit .useSession
  if reply.len < 0 then
    emit .useSession
    if !reply.wantRead then
      -- the exception reads the session, too
      emit .useSession
      raise (.raised "SSL_read")
  emit .useSession
  if reply.existing then
    emit .useSession
    ofResult reply.certificate
    emit .useSession
    emit .freeSession
    createOutgoing reply.outgoing
    createIncoming reply.incoming
    emit .startCall

/-- `process`. -/
def process (datagram : Datagram) : Turn Unit := do
  let first ← ofResult (fetch datagram.payload 0)
  if first = 0 ∨ first = 1 then handleStunPayload datagram
  let payload ← if 128 ≤ first ∧ first ≤ 191 then
      handleSrtp datagram.srtpRecv datagram.payload
    else pure datagram.payload
  -- the first byte is read again, and `srtp_recv` may have rewritten it
  let first ← ofResult (fetch payload 0)
  if 20 ≤ first ∧ first ≤ 64 then handleDtls datagram.dtls

/-- A packet at the start of a buffer with room for the tag. -/
def withRoom (rtpData : Bytes) : Bytes := rtpData ++ List.replicate 64 0

/-- `send_audio` of `Transport::SRTP`, which takes bytes. -/
def sendAudio (rtpData : Bytes) (sending : Sending) : Turn Unit := do
  let srtp ← current
  -- neither nil nor a null pointer is true
  if srtp.srtpOutgoing.all (· = 0) then return
  let sent := sending.srtpSend (withRoom rtpData)
  -- the status is logged, and nothing else is done about it
  let datagram ← ofResult (slice sent.buffer 0 sent.len)
  match srtp.clientAddr with
  -- `client_addr` is declared with `property!`, so it raises before the branch that would
  | none => raise .nilAssertion
  | some address =>
      emit (.sendAudio datagram address)
      if !sending.delivered then raise .errno

/-- `send_audio` of `Transport::Generic`, which takes samples; its `_send_audio` is left as it
is and does nothing. -/
def sendFrame (encoded : Fallible Bytes) : Turn Unit := do
  update fun srtp => { srtp with toTransport := srtp.incSeqNo }
  let _rtpData ← ofResult encoded

/-- What can be asked of a transport; a turn of `listen` sets the address and then processes. -/
inductive Operation
  /-- `process`. -/
  | process (datagram : Datagram)
  /-- `client_addr=`. -/
  | setClientAddr (address : IPAddress)
  /-- `send_audio` with an RTP packet. -/
  | sendAudio (rtpData : Bytes) (sending : Sending)
  /-- `send_audio` with a frame, and what the encoder makes of it. -/
  | sendFrame (encoded : Fallible Bytes)
  /-- `observe_silence`. -/
  | observeSilence
  /-- `finalize`. -/
  | finalize

/-- An operation on a transport. -/
def perform : Operation → Turn Unit
  | .process datagram => process datagram
  | .setClientAddr address => update fun srtp => { srtp with clientAddr := some address }
  | .sendAudio rtpData sending => sendAudio rtpData sending
  | .sendFrame encoded => sendFrame encoded
  | .observeSilence => update fun srtp => { srtp with toTransport := srtp.incSeqNo }
  | .finalize => update fun srtp => { srtp with toTransport := srtp.toTransport.finalize }

/-! ### What an operation does -/

/-- Whether a datagram is taken for one of SRTP. -/
def isSrtp (payload : Bytes) : Bool := payload.head?.any fun first => 128 ≤ first && first ≤ 191

/-- Whether a datagram is taken for one of DTLS. -/
def isRecord (payload : Bytes) : Bool := payload.head?.any fun first => 20 ≤ first && first ≤ 64

/-- Whether a datagram is handed to `srtp_recv`. -/
def isMedia (datagram : Datagram) : Bool :=
  isSrtp datagram.payload && datagram.payload[1]?.any (· ≠ 0xc8)

/-- What is fed for a datagram: the number and the payload read from the rewritten buffer, if it has
a whole header. -/
def feeds (datagram : Datagram) : List (Int × Bytes) :=
  if isMedia datagram then
    (parseRtp (datagram.srtpRecv datagram.payload).buffer).toOption.toList
  else []

/-- Whether a datagram is still taken for one of DTLS when the SRTP branch is done with it. -/
def reachesDtls (srtp : Srtp) (datagram : Datagram) : Bool :=
  if isSrtp datagram.payload then
    match ((handleSrtp datagram.srtpRecv datagram.payload).run srtp).1 with
    | .ok payload => isRecord payload
    | .error _ => false
  else isRecord datagram.payload

theorem written_handleRtp (payload : Bytes) (srtp : Srtp) :
    ((handleRtp payload).run srtp).2.2 =
      (parseRtp payload).toOption.toList.map fun packet => .feed packet.1 packet.2 := by
  unfold handleRtp
  cases parseRtp payload with
  | error e => simp [Except.toOption]
  | ok packet => simp [Except.toOption]

/-- A STUN datagram is answered, and nothing else. -/
theorem emits_handleStunPayload (datagram : Datagram) :
    Emits (fun act => ∃ reply addr, act = .stunReply reply addr) (handleStunPayload datagram) := by
  refine (emits_ofResult _).bind fun replies => ?_
  refine (emits_forM replies fun reply _ => emits_emit ⟨_, _, rfl⟩).bind fun _ => ?_
  split
  · exact emits_ofResult _
  · exact emits_pure ()

theorem written_handleSrtp (srtpRecv : (payload : Bytes) → Unprotected payload) (payload : Bytes)
    (srtp : Srtp) :
    ((handleSrtp srtpRecv payload).run srtp).2.2 =
      if payload[1]?.any (· ≠ 0xc8) then
        (parseRtp (srtpRecv payload).buffer).toOption.toList.map fun packet =>
          .feed packet.1 packet.2
      else [] := by
  unfold handleSrtp fetch
  cases payload[1]? with
  | none => simp
  | some second =>
      by_cases report : second = 0xc8
      · simp [report]
      · rw [← written_handleRtp (srtpRecv payload).buffer srtp]
        rcases bind_cases (handleRtp (srtpRecv payload).buffer)
          (fun _ => pure (srtpRecv payload).buffer) srtp with ⟨e, -, raises⟩ | ⟨value, -, returns⟩
        · simp [report, raises]
        · simp [report, returns]

/-- A session is created, whether it can be used or not. -/
theorem createSession_apply (creation : SrtpCreation) (act : Act)
    (assign : SessionPtr → Srtp → Srtp) (noPolicy : String) (noKey : Int → String) (srtp : Srtp) :
    ∃ result, (createSession creation act assign noPolicy noKey).run srtp =
        (result, assign creation.session srtp, [act]) ∧
      (result = .ok () ↔ creation.ready = true) := by
  unfold createSession SrtpCreation.ready
  by_cases set : creation.setkey = 0
  · exact ⟨_, by simp [SessionPtr.eqInt, set]; rfl, by simp [set]⟩
  · exact ⟨_, by simp [SessionPtr.eqInt, set]; rfl, by simp [set]⟩

/-- The two sessions are created one after the other, and then the call is started. -/
theorem run_keys (reply : DtlsReply) (srtp : Srtp) :
    ∃ result after, (createOutgoing reply.outgoing >>= fun _ =>
        createIncoming reply.incoming >>= fun _ => emit .startCall : Turn Unit).run srtp =
          (result, after, reply.keyActs) ∧ after.toTransport = srtp.toTransport := by
  obtain ⟨result, ran, ready⟩ : ∃ result, (createOutgoing reply.outgoing).run srtp =
      (result, { srtp with srtpOutgoing := some reply.outgoing.session }, [.createOutgoing]) ∧
        (result = .ok () ↔ reply.outgoing.ready = true) := createSession_apply _ _ _ _ _ srtp
  cases result with
  | error e =>
      have unready : reply.outgoing.ready = false := by simpa using ready
      rw [bind_of_error ran, DtlsReply.keyActs, unready]
      exact ⟨_, _, rfl, rfl⟩
  | ok value =>
      have middle := createSession_apply reply.incoming .createIncoming
        (fun session srtp => { srtp with srtpIncoming := some session })
        "Could not create incoming SRTP policy"
        (fun ret => s!"Incoming SRTP key could not be set (ret == {ret})")
        { srtp with srtpOutgoing := some reply.outgoing.session }
      obtain ⟨second, ran_second, ready_second⟩ := middle
      rw [bind_of_ok ran, DtlsReply.keyActs, ready.mp rfl, if_pos rfl]
      cases second with
      | error e =>
          have unready : reply.incoming.ready = false := by simpa using ready_second
          rw [createIncoming, bind_of_error ran_second, unready]
          exact ⟨_, _, rfl, rfl⟩
      | ok value =>
          rw [createIncoming, bind_of_ok ran_second, ready_second.mp rfl]
          exact ⟨_, _, rfl, rfl⟩

/-- What `handle_dtls` does once the connection is there. -/
theorem run_connected (reply : DtlsReply) (srtp : Srtp) :
    ∃ result after, (emit .useSession >>= fun _ => ofResult reply.certificate >>= fun _ =>
        emit .useSession >>= fun _ => emit .freeSession >>= fun _ =>
          createOutgoing reply.outgoing >>= fun _ => createIncoming reply.incoming >>= fun _ =>
            emit .startCall : Turn Unit).run srtp =
          (result, after, .useSession :: if reply.certificate.isOk then
            .useSession :: .freeSession :: reply.keyActs else []) ∧
      after.toTransport = srtp.toTransport := by
  obtain ⟨result, after, ran, same⟩ := run_keys reply srtp
  cases reply.certificate with
  | error e => exact ⟨_, srtp, rfl, rfl⟩
  | ok value =>
      refine ⟨result, after, ?_, same⟩
      simp [ran, Except.isOk, Except.toBool]

/-- What `handle_dtls` does depends on the answers of the library only, and the transport without
its sessions stays as it is. -/
theorem run_handleDtls (reply : DtlsReply) (srtp : Srtp) :
    ∃ result after, (handleDtls reply).run srtp = (result, after, reply.acts) ∧
      after.toTransport = srtp.toTransport := by
  obtain ⟨result, after, ran, same⟩ := run_connected reply srtp
  unfold handleDtls DtlsReply.acts DtlsReply.established DtlsReply.connected
  by_cases negative : reply.len < 0
  · have not_positive : ¬0 ≤ reply.len := by omega
    cases reply.wantRead with
    | false => exact ⟨_, srtp, by simp [negative, not_positive]; rfl, rfl⟩
    | true =>
        cases reply.existing with
        | false => exact ⟨_, srtp, by simp [negative, not_positive]; rfl, rfl⟩
        | true => exact ⟨result, after, by simp [negative, not_positive, ran], same⟩
  · have positive : 0 ≤ reply.len := by omega
    cases reply.existing with
    | false => exact ⟨_, srtp, by simp [negative, positive]; rfl, rfl⟩
    | true => exact ⟨result, after, by simp [negative, positive, ran], same⟩

theorem written_handleDtls (reply : DtlsReply) (srtp : Srtp) :
    ((handleDtls reply).run srtp).2.2 = reply.acts := by
  obtain ⟨result, after, ran, -⟩ := run_handleDtls reply srtp
  rw [ran]

/-- The last branch of `process`, for the payload as it is by then. -/
def processRecord (reply : DtlsReply) (payload : Bytes) : Turn Unit := do
  let first ← ofResult (fetch payload 0)
  if 20 ≤ first ∧ first ≤ 64 then handleDtls reply

/-- Of STUN and SRTP, a datagram is taken for one at most. -/
theorem process_eq (datagram : Datagram) :
    process datagram = ofResult (fetch datagram.payload 0) >>= fun first =>
      if first = 0 ∨ first = 1 then
        handleStunPayload datagram >>= fun _ => processRecord datagram.dtls datagram.payload
      else if 128 ≤ first ∧ first ≤ 191 then
        handleSrtp datagram.srtpRecv datagram.payload >>= processRecord datagram.dtls
      else processRecord datagram.dtls datagram.payload := by
  unfold process
  congr
  funext first
  by_cases stun : first = 0 ∨ first = 1
  · have not_media : ¬(128 ≤ first ∧ first ≤ 191) := by
      rcases stun with rfl | rfl <;> decide
    simp only [if_pos stun, if_neg not_media, Logged.pure_bind]
    rfl
  · by_cases media : 128 ≤ first ∧ first ≤ 191
    · simp only [if_neg stun, if_pos media]
      rfl
    · simp only [if_neg stun, if_neg media, Logged.pure_bind]
      rfl

theorem written_processRecord (reply : DtlsReply) (payload : Bytes) (srtp : Srtp) :
    ((processRecord reply payload).run srtp).2.2 =
      if isRecord payload then reply.acts else [] := by
  cases payload with
  | nil => simp [processRecord, fetch, isRecord]
  | cons first rest =>
      have read : fetch (first :: rest) 0 = .ok first := rfl
      rw [processRecord, read, ofResult_ok_bind]
      by_cases record : 20 ≤ first ∧ first ≤ 64
      · simp [record, isRecord, written_handleDtls]
      · rw [if_neg record, if_neg (by simpa [isRecord] using record)]
        rfl

/-- What `process` writes: replies to STUN, what is fed, and what is done to the sessions. -/
theorem written_process (datagram : Datagram) (srtp : Srtp) :
    ∃ replies : List Act, (∀ act ∈ replies, ∃ reply addr, act = .stunReply reply addr) ∧
      ((process datagram).run srtp).2.2 =
        replies ++ ((feeds datagram).map (fun packet => .feed packet.1 packet.2) ++
          if reachesDtls srtp datagram then datagram.dtls.acts else []) := by
  rw [process_eq]
  unfold feeds isMedia reachesDtls
  cases payload : datagram.payload with
  | nil => exact ⟨[], by simp, by simp [fetch, isSrtp, isRecord]⟩
  | cons first rest =>
      have read : fetch (first :: rest) 0 = .ok first := rfl
      rw [read, ofResult_ok_bind]
      by_cases stun : first = 0 ∨ first = 1
      · have not_taken : isSrtp (first :: rest) = false := by rcases stun with rfl | rfl <;> rfl
        have not_record : isRecord (first :: rest) = false := by
          rcases stun with rfl | rfl <;> rfl
        rw [if_pos stun, not_taken, not_record]
        refine ⟨((handleStunPayload datagram).run srtp).2.2,
          emits_handleStunPayload datagram srtp, ?_⟩
        rcases bind_cases (handleStunPayload datagram)
          (fun _ => processRecord datagram.dtls (first :: rest)) srtp with
            ⟨e, -, raises⟩ | ⟨value, -, returns⟩
        · simp [raises]
        · simp [returns, written_processRecord, not_record]
      · refine ⟨[], by simp, ?_⟩
        rw [if_neg stun]
        by_cases media : 128 ≤ first ∧ first ≤ 191
        · have taken : isSrtp (first :: rest) = true := by simpa [isSrtp] using media
          have fed := written_handleSrtp datagram.srtpRecv (first :: rest) srtp
          rw [if_pos media, taken, Bool.true_and, if_pos rfl, List.nil_append,
            apply_ite (List.map _), List.map_nil, ← fed]
          rcases bind_cases (handleSrtp datagram.srtpRecv (first :: rest))
            (processRecord datagram.dtls) srtp with
              ⟨e, raised, raises⟩ | ⟨buffer, returned, returns⟩
          · simp [raises, raised]
          · simp [returns, returned, written_processRecord]
        · have not_taken : isSrtp (first :: rest) = false := by simpa [isSrtp] using media
          simp [media, not_taken, written_processRecord]

/-- What is read off the feeds, where neither replies nor sessions are read. -/
theorem filterMap_written_process {α : Type} {read : Act → Option α} (datagram : Datagram)
    (srtp : Srtp) (unread : ∀ reply addr, read (.stunReply reply addr) = none)
    (unread_session : ∀ act ∈ [Act.useSession, .freeSession, .createOutgoing, .createIncoming,
      .startCall], read act = none) :
    (written perform (srtp, .process datagram)).filterMap read =
      (feeds datagram).filterMap fun packet => read (.feed packet.1 packet.2) := by
  obtain ⟨replies, answers, acts⟩ := written_process datagram srtp
  have no_reply : replies.filterMap read = [] := by
    apply List.filterMap_eq_nil_iff.mpr
    intro act member
    obtain ⟨reply, addr, rfl⟩ := answers act member
    exact unread reply addr
  have no_record :
      (if reachesDtls srtp datagram then datagram.dtls.acts else []).filterMap read = [] := by
    split
    · exact datagram.dtls.filterMap_acts unread_session
    · rfl
  rw [written, perform, acts, List.filterMap_append, List.filterMap_append, no_reply, no_record,
    List.nil_append, List.append_nil, List.filterMap_map]
  rfl

theorem emits_sendAudio (rtpData : Bytes) (sending : Sending) :
    Emits (fun act => ∃ datagram addr, act = .sendAudio datagram addr)
      (sendAudio rtpData sending) := by
  refine emits_current.bind fun srtp => ?_
  split
  · exact emits_pure ()
  · refine (emits_ofResult _).bind fun datagram => ?_
    split
    · exact emits_ofResult _
    · refine (emits_emit ⟨_, _, rfl⟩).bind fun _ => ?_
      split
      · exact emits_ofResult _
      · exact emits_pure ()

/-- Every operation but `process` does nothing outside the transport, save that `send_audio`
sends. -/
theorem written_cases (visit : Srtp × Operation) :
    (∃ datagram, visit.2 = .process datagram) ∨
      ∀ act ∈ written perform visit, ∃ datagram addr, act = .sendAudio datagram addr := by
  obtain ⟨srtp, operation⟩ := visit
  cases operation with
  | process datagram => exact .inl ⟨datagram, rfl⟩
  | sendAudio rtpData sending => exact .inr (emits_sendAudio rtpData sending srtp)
  | sendFrame encoded =>
      exact .inr (((emits_update _).bind fun _ =>
        (emits_ofResult encoded).bind fun _ => emits_pure ()) srtp)
  | setClientAddr address => exact .inr (emits_update _ srtp)
  | observeSilence => exact .inr (emits_update _ srtp)
  | finalize => exact .inr (emits_update _ srtp)

/-- A new transport. -/
def sample : Srtp := create .opus 101 (.ofDraw (RtpPort.drawAt 0))

/-- An `srtp_recv` that rejects every packet with `EACCES` and leaves it as it is. -/
def rejecting (payload : Bytes) : Unprotected payload where
  ret := 13
  buffer := payload
  len := payload.length
  buffer_length := rfl
  bounds := fun success => absurd success (by decide)

/-- A `srtp_send` that fails with `EINVAL` and leaves the buffer and the length as they are. -/
def failing (plain : Bytes) : Protected plain where
  ret := 22
  buffer := plain
  len := plain.length - 64
  buffer_length := rfl
  bounds := Nat.sub_le _ _

/-- A datagram whose SRTP packet is rejected and whose DTLS record finishes the handshake. -/
def sampleDatagram (payload : Bytes) : Datagram where
  payload := payload
  addr := ⟨10, 0, 0, 1, 4000⟩
  tracker := .empty
  delivered := true
  srtpRecv := rejecting
  dtls := ⟨1, false, true, .ok (), ⟨1, 0⟩, ⟨2, 0⟩⟩

end Srtp
end Transport
end Contest
