import Contest.LibDtlsSrtp.Session
import Contest.LibSrtp.Calls
import Contest.LibSrtp.Delivery
import Contest.Transport.SrtpMedia
import Contest.Transport.SrtpSending

/-!
# SRTP transports and their library

The two sessions of a transport are those of the SRTP library, with keys from the key material of
the DTLS session.  A peer with the same key material that takes the other side receives the packets
that the transport is given to send, and the receive loop feeds the jitter buffer with what the peer
sends.
-/

namespace Contest
namespace LibDtlsSrtp

/-- A session as `handle_dtls` makes it: `srtp_create` with tags of ten bytes and no flags, and
`srtp_setkey`, whose error is raised. -/
def keyedSession (gcrypt : LibSrtp.Gcrypt) (key salt : Bytes) : Except Int LibSrtp.Session :=
  LibSrtp.srtpSetkey gcrypt ((LibSrtp.srtpCreate 10 0).get rfl) key salt

/-- `@srtp_outgoing` after `handle_dtls`. -/
def SrtpKeyMaterial.srtpOutgoing (km : SrtpKeyMaterial) (gcrypt : LibSrtp.Gcrypt) :
    Except Int LibSrtp.Session :=
  let ssmk := (km.material.val.drop 16).take 16
  let sss := (km.material.val.drop 46).take 14
  keyedSession gcrypt ssmk sss

/-- `@srtp_incoming` after `handle_dtls`. -/
def SrtpKeyMaterial.srtpIncoming (km : SrtpKeyMaterial) (gcrypt : LibSrtp.Gcrypt) :
    Except Int LibSrtp.Session :=
  let scmk := (km.material.val.drop 0).take 16
  let scs := (km.material.val.drop 32).take 14
  keyedSession gcrypt scmk scs

end LibDtlsSrtp

namespace Transport

open LibDtlsSrtp

/-- The key material of `should decrypt a real payload`. -/
def specMaterial : SrtpKeyMaterial where
  material := ⟨
    [247, 214, 66, 54, 179, 85, 66, 171, 31, 57, 203, 55, 140, 86, 16, 243, 12, 13, 213, 223, 3,
    51, 70, 213, 227, 144, 201, 132, 57, 253, 246, 1, 26, 60, 70, 63, 70, 26, 172, 159, 246,
    70, 82, 197, 120, 218, 22, 5, 96, 107, 141, 142, 41, 89, 2, 4, 101, 37, 181, 252], rfl⟩
  ispassive := .pass

/-- The packet that comes with it. -/
def specPacket : Bytes :=
  [0x80, 0x80, 0x63, 0x68, 0xb9, 0x31, 0xed, 0xf7, 0x48, 0xd7, 0x3d, 0xa1, 0xc3, 0xeb, 0x6d,
    0xc5, 0x56, 0x42, 0x63, 0x32, 0xcd, 0xe7, 0x45, 0xd0, 0xa4, 0x00, 0x57, 0x9a, 0xea, 0x15,
    0xac, 0x05, 0xea, 0x13, 0x65, 0x77, 0xf4, 0xa2, 0xb2, 0xa0, 0x60, 0x36, 0x7d, 0xa8, 0xec,
    0xe9, 0xa4, 0xa0, 0x04, 0x4d, 0x58, 0x93, 0xa5, 0xf5, 0x4a, 0x3a, 0xbc, 0x5c, 0xe4, 0x4f,
    0xd1, 0x1a, 0x41, 0x3a, 0xd8, 0xe5, 0x5a, 0x40, 0x0a, 0x09, 0x29, 0xf5, 0x00, 0x42, 0xcd,
    0xc2, 0xab, 0x17, 0xbd, 0x19, 0x41, 0x07, 0x78, 0xb4, 0x74, 0x12, 0x38, 0x52, 0x07, 0xa4,
    0x31, 0x6f, 0xc1, 0x92, 0x83, 0x44, 0x8a, 0x20, 0x64, 0xde, 0xb8, 0x4c, 0x84, 0x21, 0x5d,
    0x70, 0xb0, 0xda, 0xfa, 0x72, 0x25, 0xea, 0x9c, 0xa3, 0xe7, 0x46, 0x1e, 0x7e, 0x13, 0x3c,
    0xf2, 0xd8, 0xdb, 0xb6, 0x26, 0xaf, 0x29, 0xc8, 0x39, 0x8e, 0xd0, 0xb8, 0xee, 0xb1, 0xa9,
    0x49, 0x53, 0x61, 0x6b, 0x16, 0x85, 0x68, 0x8d, 0xaa, 0xd4, 0x52, 0x11, 0x1a, 0x0a, 0x86,
    0x5e, 0x35, 0x3b, 0x60, 0xf3, 0xa8, 0xfe, 0xe3, 0xdf, 0x1e, 0x5d, 0x71, 0xfe, 0x50, 0x62,
    0xd1, 0x45, 0xdc, 0x08, 0xc3, 0x2d, 0x1f, 0xbf, 0xbb, 0x37, 0x27, 0x38, 0x0e, 0xcf, 0x3d,
    0x12, 0x1b]

example : (specMaterial.srtpIncoming .standard).map (fun session =>
    (LibSrtp.srtpRecv .standard .modular session specPacket).ret) = .ok 0 := by decide +kernel

namespace Srtp

open Logged

variable (gcrypt : LibSrtp.Gcrypt) (shifts : LibSrtp.Shifts)

/-- `srtp_recv` of the library. -/
def libraryRecv (session : LibSrtp.Session) (payload : Bytes) : Unprotected payload where
  ret := (LibSrtp.srtpRecv gcrypt shifts session payload).ret
  buffer := (LibSrtp.srtpRecv gcrypt shifts session payload).buf
  len := (LibSrtp.srtpRecv gcrypt shifts session payload).len
  buffer_length := (LibSrtp.srtpRecv_contained gcrypt shifts session payload).size
  bounds := (LibSrtp.srtpRecv_contained gcrypt shifts session payload).len

/-- With room for a tag, `srtp_send` never needs more than there is. -/
theorem len_srtpSend_le (session : LibSrtp.Session) (plain : Bytes) :
    (LibSrtp.srtpSend gcrypt shifts session plain (plain.length - 64)).len ≤ plain.length := by
  obtain ⟨-, -, short⟩ := LibSrtp.trailer_le session (LibSrtp.rtpSeq plain)
  unfold LibSrtp.srtpSend
  split
  · exact Nat.sub_le _ _
  · rename_i whole
    dsimp only
    split
    · dsimp only
      omega
    · split
      · dsimp only
        omega
      · dsimp only
        omega

/-- `srtp_send` of the library, for a packet with room behind it. -/
def librarySend (session : LibSrtp.Session) (plain : Bytes) : Protected plain where
  ret := (LibSrtp.srtpSend gcrypt shifts session plain (plain.length - 64)).ret
  buffer := (LibSrtp.srtpSend gcrypt shifts session plain (plain.length - 64)).buf
  len := (LibSrtp.srtpSend gcrypt shifts session plain (plain.length - 64)).len
  buffer_length :=
    (LibSrtp.srtpSend_contained gcrypt shifts session plain (plain.length - 64)).size
  bounds := by
    rw [(LibSrtp.srtpSend_contained gcrypt shifts session plain (plain.length - 64)).size]
    exact len_srtpSend_le gcrypt shifts session plain

/-- What is asked of a transport that sends. -/
inductive Asked
  /-- `send_audio` with an RTP packet, and whether the datagram arrives. -/
  | packet (rtpData : LibSrtp.Indexed) (arrives : Bool)
  /-- `send_audio` with a frame, and what the encoder makes of it. -/
  | frame (encoded : Fallible Bytes)
  /-- `observe_silence`. -/
  | silence

/-- The packet that is asked to be sent. -/
def Asked.packet? : Asked → Option (LibSrtp.Indexed × Bool)
  | .packet rtpData arrives => some (rtpData, arrives)
  | _ => none

/-- The operations that are asked for, with `srtp_send` of the library. -/
def sendings : LibSrtp.Session → List Asked → List Operation
  | _, [] => []
  | session, .packet packet _ :: later =>
      .sendAudio packet.plain ⟨librarySend gcrypt shifts session, true⟩ ::
        sendings (LibSrtp.srtpSend gcrypt shifts session (withRoom packet.plain)
          packet.plain.length).session later
  | session, .frame encoded :: later => .sendFrame encoded :: sendings session later
  | session, .silence :: later => .observeSilence :: sendings session later

/-! ### Sending -/

variable {gcrypt : LibSrtp.Gcrypt} {shifts : LibSrtp.Shifts} {session : LibSrtp.Session}

/-- `send_audio` leaves the transport as it is. -/
theorem state_sendAudio (rtpData : Bytes) (sending : Sending) (srtp : Srtp) :
    ((perform (.sendAudio rtpData sending)).run srtp).2.1 = srtp := by
  show ((sendAudio rtpData sending).run srtp).2.1 = srtp
  unfold sendAudio
  cases missing : srtp.srtpOutgoing.all (· = 0) with
  | true => simp [missing]
  | false =>
      cases cut : slice (sending.srtpSend (withRoom rtpData)).buffer 0
          (sending.srtpSend (withRoom rtpData)).len with
      | error e => simp [missing, cut]
      | ok datagram =>
          cases address : srtp.clientAddr with
          | none => simp [missing, address, cut]
          | some addr => cases sending.delivered <;> simp [missing, address, cut]

/-- The packets are sent as the library has left them, and nothing else is. -/
theorem sent_sendings {srtp : Srtp} (possible : canSend srtp = true) (asked : List Asked) :
    sent (logs perform srtp (sendings gcrypt shifts session asked)).flatten =
      (LibSrtp.sendAll gcrypt shifts (List.replicate 64 0) session
        ((asked.filterMap Asked.packet?).map fun event => event.1.plain)).map
          fun result => result.buf.take result.len := by
  induction asked generalizing session srtp with
  | nil => rfl
  | cons first asked ih =>
      cases first with
      | packet packet arrives =>
          have length : (withRoom packet.plain).length - 64 = packet.plain.length := by
            rw [withRoom, List.length_append, List.length_replicate, Nat.add_sub_cancel]
          have first := sent_sendAudio packet.plain ⟨librarySend gcrypt shifts session, true⟩ srtp
          rw [if_pos possible] at first
          have rest := @ih (LibSrtp.srtpSend gcrypt shifts session (withRoom packet.plain)
            packet.plain.length).session srtp possible
          rw [logs] at rest
          simp only [sendings, logs, visits, List.map_cons, List.flatten_cons, state_sendAudio]
          rw [sent, List.filterMap_append]
          show sent _ ++ sent _ = _
          rw [first, rest]
          simp only [librarySend, length]
          rfl
      | frame encoded =>
          have quiet := @sent_of_ne (srtp, .sendFrame encoded) (by simp)
          have still : canSend ((perform (.sendFrame encoded)).run srtp).2.1 = true := by
            cases encoded <;> exact possible
          have rest := @ih session _ still
          rw [logs] at rest
          simp only [sendings, logs, visits, List.map_cons, List.flatten_cons]
          rw [sent, List.filterMap_append]
          show sent _ ++ sent _ = _
          rw [quiet, rest]
          rfl
      | silence =>
          have rest := @ih session { srtp with toTransport := srtp.incSeqNo } possible
          exact rest

/-- What successful calls leave. -/
theorem map_take_of_packets {results : List LibSrtp.Result} (packets : List Bytes)
    (succeeded : results.map LibSrtp.Result.packet = packets.map some) :
    results.map (fun result => result.buf.take result.len) = packets := by
  induction results generalizing packets with
  | nil => simpa using succeeded
  | cons result results ih =>
      cases packets with
      | nil => simp at succeeded
      | cons packet packets =>
          obtain ⟨first, rest⟩ := List.cons.inj succeeded
          have text : result.buf.take result.len = packet := by
            by_cases success : result.ret = 0
            · rw [LibSrtp.Result.packet, if_pos success] at first
              exact Option.some.inj first
            · simp [LibSrtp.Result.packet, success] at first
          rw [List.map_cons, text, ih packets rest]

section Keys

variable (gcrypt : LibSrtp.Gcrypt)

/-- The parts of the key material have their sizes. -/
theorem length_part (km : SrtpKeyMaterial) {start size : Nat} (inside : start + size ≤ 60) :
    ((km.material.val.drop start).take size).length = size := by
  rw [List.length_take, List.length_drop, km.material.property]
  omega

/-- A session of `handle_dtls` can always be made; it has neither sent nor received anything, and
carries no rollover counter. -/
theorem exists_keyedSession {key salt : Bytes} (sixteen : key.length = 16)
    (fourteen : salt.length = 14) :
    ∃ session, keyedSession gcrypt key salt = .ok session ∧ LibSrtp.Unused session ∧
      LibSrtp.rccMode session.flags = 0 ∧ session.tagSize = 10 := by
  obtain ⟨session, set, created, window⟩ := LibSrtp.srtpSetkey_eq_ok gcrypt
    ((LibSrtp.srtpCreate 10 0).get rfl) sixteen fourteen
  have flags : session.flags = 0 := congrArg LibSrtp.Unkeyed.flags created
  refine ⟨session, set, ⟨congrArg LibSrtp.Unkeyed.rtpRoc created,
    congrArg LibSrtp.Unkeyed.rtpSeq created, window⟩, by rw [flags]; rfl, ?_⟩
  have length : session.tagLen = 10 := congrArg LibSrtp.Unkeyed.tagLen created
  rw [LibSrtp.Session.tagSize, flags, length]
  rfl

/-- What the side that has started the handshake takes for received packets, the other side takes
for packets sent, and the other way round. -/
theorem keyedSession_of_act (km : SrtpKeyMaterial) :
    let ptrs := srtpKeyMaterialExtract { km with ispassive := .act }
    keyedSession gcrypt ptrs.remotekey ptrs.remotesalt = km.srtpOutgoing gcrypt ∧
      keyedSession gcrypt ptrs.localkey ptrs.localsalt = km.srtpIncoming gcrypt := ⟨rfl, rfl⟩

end Keys

/-- A transport that can send. -/
def established : Srtp :=
  { sample with srtpOutgoing := some 1, clientAddr := some ⟨"10.0.0.1".toList, 4000⟩ }

/-- A packet that arrives, a frame, one that is lost, silence, and one that arrives. -/
def sampleAsked : List Asked :=
  [.packet (.sample 7) true, .frame (.ok [1, 2]), .packet (.sample 8) false, .silence,
    .packet (.sample 9) true]

/-- A datagram for the receive loop. -/
structure Arrival where
  /-- Where it comes from. -/
  address : IPAddress
  /-- What the environment makes of it, save for `srtp_recv`. -/
  datagram : Datagram
  /-- The session for packets received that is made if it finishes a handshake. -/
  renewed : LibSrtp.Session

namespace Arrival

/-- A datagram is processed with `srtp_recv` of the library. -/
def received (gcrypt : LibSrtp.Gcrypt) (shifts : LibSrtp.Shifts) (session : LibSrtp.Session)
    (arrival : Arrival) : Datagram :=
  { arrival.datagram with srtpRecv := libraryRecv gcrypt shifts session }

/-- The session for packets received after a datagram. -/
def incoming (gcrypt : LibSrtp.Gcrypt) (shifts : LibSrtp.Shifts) (session : LibSrtp.Session)
    (arrival : Arrival) (acts : List Act) : LibSrtp.Session :=
  if .createIncoming ∈ acts then arrival.renewed
  else if isMedia arrival.datagram then
    (LibSrtp.srtpRecv gcrypt shifts session arrival.datagram.payload).session
  else session

end Arrival

/-- Whether `listen` goes on: it rescues failed system calls. -/
def rescued : Except Exn Unit → Bool
  | .ok () => true
  | .error e => e = .errno

/-- A turn of the loop in `listen`. -/
def loopTurn (gcrypt : LibSrtp.Gcrypt) (shifts : LibSrtp.Shifts) (session : LibSrtp.Session)
    (arrival : Arrival) (srtp : Srtp) : Except Exn Unit × Srtp × List Act :=
  (process (arrival.received gcrypt shifts session)).run
    { srtp with clientAddr := some arrival.address }

/-- `listen`, for as long as there are datagrams. -/
def listen (gcrypt : LibSrtp.Gcrypt) (shifts : LibSrtp.Shifts) :
    LibSrtp.Session → List Arrival → Turn Unit
  | _, [] => pure ()
  | session, arrival :: later => ⟨fun srtp =>
      if srtp.teardown then (.ok (), srtp, [])
      else
        let turn := loopTurn gcrypt shifts session arrival srtp
        if rescued turn.1 then
          let rest := (listen gcrypt shifts
            (arrival.incoming gcrypt shifts session turn.2.2) later).run turn.2.1
          (rest.1, rest.2.1, turn.2.2 ++ rest.2.2)
        else turn⟩

/-- A datagram that is neither media nor a record, and does not end the loop. -/
structure Passing (datagram : Datagram) : Prop where
  /-- It is not media. -/
  notMedia : isMedia datagram = false
  /-- It is not a record. -/
  notRecord : isRecord datagram.payload = false
  /-- It raises failed system calls at most. -/
  goesOn : ∀ srtpRecv srtp,
    rescued ((process { datagram with srtpRecv := srtpRecv }).run srtp).1 = true

/-- Only a record makes sessions. -/
theorem not_created_of_not_record {datagram : Datagram} {srtp : Srtp}
    (unreached : reachesDtls srtp datagram = false) :
    .createIncoming ∉ ((process datagram).run srtp).2.2 := by
  obtain ⟨replies, answers, acts⟩ := written_process datagram srtp
  rw [acts, unreached, if_neg Bool.false_ne_true, List.append_nil]
  intro member
  rcases List.mem_append.mp member with reply | feed
  · obtain ⟨_, _, same⟩ := answers _ reply
    exact Act.noConfusion same
  · obtain ⟨_, -, same⟩ := List.mem_map.mp feed
    exact Act.noConfusion same

/-- Only media is fed. -/
theorem feeds_of_not_media {datagram : Datagram} (other : isMedia datagram = false) :
    feeds datagram = [] := by
  rw [feeds, other]
  rfl

/-- What is taken for SRTP is not taken for DTLS. -/
theorem not_record_of_isSrtp {payload : Bytes} (taken : isSrtp payload = true) :
    isRecord payload = false := by
  cases payload with
  | nil => rfl
  | cons first rest =>
      simp only [isSrtp, List.head?_cons, Option.any_some, Bool.and_eq_true,
        decide_eq_true_eq] at taken
      obtain ⟨above, -⟩ := taken
      have beyond : ¬first ≤ 64 := UInt8.not_le.mpr (UInt8.lt_of_lt_of_le (by decide) above)
      simp [isRecord, beyond]

/-- What is no record is left alone at the end of `process`. -/
theorem processRecord_of_not_record {payload : Bytes} (taken : isSrtp payload = true)
    (reply : DtlsReply) : processRecord reply payload = pure () := by
  have not_record := not_record_of_isSrtp taken
  cases payload with
  | nil => simp [isSrtp] at taken
  | cons first rest =>
      have other : ¬(20 ≤ first ∧ first ≤ 64) := by simpa [isRecord] using not_record
      have read : fetch (first :: rest) 0 = .ok first := rfl
      rw [processRecord, read, ofResult_ok_bind, if_neg other]

/-- Media is handled without an exception by a codec that can decode. -/
theorem run_handleSrtp_of_media {datagram : Datagram} {srtp : Srtp}
    (media : isMedia datagram = true) (codec : srtp.encoder = .muLaw)
    (twelve : 12 ≤ datagram.payload.length) :
    ((handleSrtp datagram.srtpRecv datagram.payload).run srtp).1 =
      .ok (datagram.srtpRecv datagram.payload).buffer := by
  have size := (datagram.srtpRecv datagram.payload).buffer_length
  obtain ⟨seqNo, parsed⟩ := parseRtp_ok (Nat.le_trans twelve (Nat.le_of_eq size.symm))
  obtain ⟨⟨jitterBuffer, pumped⟩, taken⟩ := srtp.jitterBuffer.feed_ok
    ((datagram.srtpRecv datagram.payload).buffer.drop 12) seqNo
  have fed : (feedJitter srtp.encoder.decode srtp.toTransport seqNo
      ((datagram.srtpRecv datagram.payload).buffer.drop 12)).1 = .ok () := by
    rw [feedJitter, taken]
    cases pumped <;> simp [codec, Codec.decode, Except.map]
  have read_rtp : ((handleRtp (datagram.srtpRecv datagram.payload).buffer).run srtp).1 =
      .ok () := by simp [handleRtp, parsed, fed]
  simp only [isMedia, Bool.and_eq_true] at media
  unfold handleSrtp fetch
  cases read : datagram.payload[1]? with
  | none => simp [read] at media
  | some second =>
      have audio : second ≠ 0xc8 := by simpa [read] using media.2
      rcases bind_cases (handleRtp (datagram.srtpRecv datagram.payload).buffer)
        (fun _ => pure (datagram.srtpRecv datagram.payload).buffer) srtp with
          ⟨e, raised, -⟩ | ⟨value, -, returns⟩
      · simp [read_rtp] at raised
      · simp [audio, returns]

/-- Media that stays media is no record. -/
theorem run_process_of_media {datagram : Datagram} {srtp : Srtp}
    (media : isMedia datagram = true) (codec : srtp.encoder = .muLaw)
    (twelve : 12 ≤ datagram.payload.length)
    (still : isSrtp (datagram.srtpRecv datagram.payload).buffer = true) :
    ((process datagram).run srtp).1 = .ok () ∧ reachesDtls srtp datagram = false := by
  have handled := run_handleSrtp_of_media media codec twelve
  have taken : isSrtp datagram.payload = true := (Bool.and_eq_true_iff.mp media).1
  have not_record := not_record_of_isSrtp still
  refine ⟨?_, by rw [reachesDtls, if_pos taken, handled]; exact not_record⟩
  cases payload : datagram.payload with
  | nil => simp [payload, isSrtp] at taken
  | cons first rest =>
      have inside : 128 ≤ first ∧ first ≤ 191 := by simpa [payload, isSrtp] using taken
      have not_stun : ¬(first = 0 ∨ first = 1) := by
        rintro (rfl | rfl)
        · exact absurd inside (by decide)
        · exact absurd inside (by decide)
      have read : fetch datagram.payload 0 = .ok first := by
        rw [payload]
        rfl
      rw [process_eq, read, ofResult_ok_bind, if_neg not_stun, if_pos inside]
      rcases bind_cases (handleSrtp datagram.srtpRecv datagram.payload)
        (processRecord datagram.dtls) srtp with ⟨e, raised, -⟩ | ⟨value, returned, returns⟩
      · simp [handled] at raised
      · obtain rfl : _ = value := Except.ok.inj (handled.symm.trans returned)
        rw [returns, processRecord_of_not_record still]
        rfl

/-- The sequence number and the payload of a packet, whatever is behind it. -/
theorem parseRtp_append {plain : Bytes} (long : 12 ≤ plain.length) (rest : Bytes) :
    parseRtp (plain ++ rest) =
      .ok (((LibSrtp.rtpSeq plain).toNat : Int), plain.drop 12 ++ rest) := by
  match plain, long with
  | first :: second :: high :: low :: others, long =>
      have read : [high, low] =
          encodeUInt16 (LibSrtp.rtpSeq (first :: second :: high :: low :: others)) :=
        (decodeUInt16_eq_ok rfl).mp rfl
      have eight : (others.take 8).length = 8 := by
        simp only [List.length_cons] at long
        rw [List.length_take]
        omega
      have parsed := parseRtp_header first second
        (LibSrtp.rtpSeq (first :: second :: high :: low :: others)) eight (others.drop 8 ++ rest)
      rw [← read, ← List.append_assoc (others.take 8), List.take_append_drop] at parsed
      exact parsed

/-- A packet of version 2 is taken for SRTP, whatever is behind it. -/
theorem isSrtp_of_version {plain : Bytes} (version : plain.getD 0 0 >>> 6 = 2) (rest : Bytes) :
    isSrtp (plain ++ rest) = true := by
  cases plain with
  | nil => exact absurd version (by decide)
  | cons first later =>
      have top : first.toNat / 64 = 2 := by
        have word := congrArg UInt8.toNat version
        rwa [List.getD_cons_zero, UInt8.toNat_shiftRight, Nat.shiftRight_eq_div_pow] at word
      have above : (128 : UInt8) ≤ first := UInt8.le_iff_toNat_le.mpr (by
        show 128 ≤ first.toNat
        omega)
      have below : first ≤ 191 := UInt8.le_iff_toNat_le.mpr (by
        show first.toNat ≤ 191
        omega)
      simp [isSrtp, above, below]

/-- What is fed for a protected packet that the library accepts: its payload, and the tag behind. -/
theorem feeds_accepted {datagram : Datagram} {plain : Bytes} {index : Int} {head : Int}
    {after : LibSrtp.Session} (unmarked : LibSrtp.rccMode session.flags = 0)
    (counted : session.At head) (formed : LibSrtp.WellFormed plain)
    (found : LibSrtp.packetIndex head (LibSrtp.rtpSeq plain) = index)
    (accepted : session.accept shifts (LibSrtp.rtpSeq plain)
      (LibSrtp.srtpComputeRoc session (LibSrtp.rtpSeq plain)) = some after)
    (media : isMedia datagram = true)
    (payload : datagram.payload = LibSrtp.protect gcrypt session index plain) :
    (LibSrtp.srtpRecv gcrypt shifts session datagram.payload).session = after ∧
      isSrtp (LibSrtp.srtpRecv gcrypt shifts session datagram.payload).buf = true ∧
      feeds { datagram with srtpRecv := libraryRecv gcrypt shifts session } =
        [(((LibSrtp.rtpSeq plain).toNat : Int),
          plain.drop 12 ++ LibSrtp.tagOf gcrypt session index plain)] := by
  have received := LibSrtp.srtpRecv_spec gcrypt shifts unmarked counted
    formed found
  rw [accepted, ← payload] at received
  have long := (LibSrtp.le_headerLength plain).trans formed.whole
  refine ⟨by rw [received], by rw [received]; exact isSrtp_of_version formed.version _, ?_⟩
  have taken : isMedia { datagram with srtpRecv := libraryRecv gcrypt shifts session } = true :=
    media
  rw [feeds, if_pos taken]
  show (parseRtp (LibSrtp.srtpRecv gcrypt shifts session datagram.payload).buf).toOption.toList = _
  rw [received, parseRtp_append long]
  rfl

/-- Whatever is neither media nor a record does not reach the DTLS session. -/
theorem reachesDtls_of_passing {datagram : Datagram} (passing : Passing datagram) (srtp : Srtp) :
    reachesDtls srtp datagram = false := by
  unfold reachesDtls
  split
  · rename_i taken
    have report : datagram.payload[1]?.any (· ≠ 0xc8) = false := by
      simpa [isMedia, taken] using passing.notMedia
    unfold handleSrtp fetch
    cases read : datagram.payload[1]? with
    | none => simp
    | some second =>
        obtain rfl : second = 0xc8 := by simpa [read] using report
        simpa using passing.notRecord
  · exact passing.notRecord

/-- The loop has returned, and has fed the packets. -/
def Heard (gcrypt : LibSrtp.Gcrypt) (shifts : LibSrtp.Shifts) (session : LibSrtp.Session)
    (arrivals : List Arrival) (srtp : Srtp) (packets : List (Int × Bytes)) : Prop :=
  let ran := (listen gcrypt shifts session arrivals).run srtp
  ran.1 = .ok () ∧ Attends srtp ran.2.1 ran.2.2 ∧ fed ran.2.2 = packets

theorem heard_nil (session : LibSrtp.Session) (srtp : Srtp) :
    Heard gcrypt shifts session [] srtp [] :=
  ⟨rfl, attends_of_same rfl rfl, rfl⟩

/-- The loop goes on after a turn that is rescued. -/
theorem Heard.cons {arrival : Arrival} {later : List Arrival} {srtp after : Srtp}
    {result : Except Exn Unit} {acts : List Act} {front rest : List (Int × Bytes)}
    (turn : loopTurn gcrypt shifts session arrival srtp = (result, after, acts))
    (goesOn : rescued result = true) (running : srtp.teardown = false)
    (attends : Attends srtp after acts) (feeding : fed acts = front)
    (heard : Heard gcrypt shifts (arrival.incoming gcrypt shifts session acts) later after rest) :
    Heard gcrypt shifts session (arrival :: later) srtp (front ++ rest) := by
  obtain ⟨returned, attended, fed_later⟩ := heard
  have ran : (listen gcrypt shifts session (arrival :: later)).run srtp =
      let rest := (listen gcrypt shifts
        (arrival.incoming gcrypt shifts session acts) later).run after
      (rest.1, rest.2.1, acts ++ rest.2.2) := by
    simp only [listen, running, Bool.false_eq_true, if_false, turn, goesOn, if_true]
  rw [Heard, ran]
  exact ⟨returned, attending.trans attends attended, by rw [fed_append, feeding, fed_later]⟩

/-- What a turn does to the transport, and what it feeds. -/
theorem loopTurn_feeds {arrival : Arrival} {srtp after : Srtp} {result : Except Exn Unit}
    {acts : List Act} (turn : loopTurn gcrypt shifts session arrival srtp = (result, after, acts)) :
    Attends srtp after acts ∧ fed acts = feeds (arrival.received gcrypt shifts session) := by
  have attends := attends_process (arrival.received gcrypt shifts session)
    { srtp with clientAddr := some arrival.address }
  have feeding := fed_written_process (arrival.received gcrypt shifts session)
    { srtp with clientAddr := some arrival.address }
  rw [loopTurn] at turn
  rw [written, perform, turn] at feeding
  rw [turn] at attends
  exact ⟨⟨attends.encoder, attends.teardown, attends.jitterBuffer⟩, feeding⟩

/-- A turn without a record keeps the sessions. -/
theorem incoming_of_loopTurn {arrival : Arrival} {srtp after : Srtp} {result : Except Exn Unit}
    {acts : List Act} (turn : loopTurn gcrypt shifts session arrival srtp = (result, after, acts))
    (unreached : reachesDtls { srtp with clientAddr := some arrival.address }
      (arrival.received gcrypt shifts session) = false) :
    arrival.incoming gcrypt shifts session acts =
      if isMedia arrival.datagram then
        (LibSrtp.srtpRecv gcrypt shifts session arrival.datagram.payload).session
      else session := by
  have uncreated := not_created_of_not_record unreached
  rw [loopTurn] at turn
  rw [turn] at uncreated
  exact if_neg uncreated

/-- A turn for a datagram that passes. -/
theorem loopTurn_of_passing {arrival : Arrival} (passing : Passing arrival.datagram)
    (session : LibSrtp.Session) (srtp : Srtp) :
    ∃ result after acts, loopTurn gcrypt shifts session arrival srtp = (result, after, acts) ∧
      rescued result = true ∧ Attends srtp after acts ∧ fed acts = [] ∧
        arrival.incoming gcrypt shifts session acts = session := by
  have same : Passing (arrival.received gcrypt shifts session) :=
    ⟨passing.notMedia, passing.notRecord, passing.goesOn⟩
  rcases turn : loopTurn gcrypt shifts session arrival srtp with ⟨result, after, acts⟩
  obtain ⟨attends, feeding⟩ := loopTurn_feeds turn
  have kept := incoming_of_loopTurn turn (reachesDtls_of_passing same _)
  have goesOn : rescued (loopTurn gcrypt shifts session arrival srtp).1 = true :=
    passing.goesOn _ _
  rw [turn] at goesOn
  rw [passing.notMedia, if_neg Bool.false_ne_true] at kept
  exact ⟨result, after, acts, rfl, goesOn, attends,
    feeding.trans (feeds_of_not_media same.notMedia), kept⟩

/-- A turn for a protected packet that is ahead. -/
theorem loopTurn_of_media (shifts : LibSrtp.Shifts) {arrival : Arrival} {plain : Bytes}
    {index head : Int} {srtp : Srtp} (codec : srtp.encoder = .muLaw)
    (unmarked : LibSrtp.rccMode session.flags = 0) (counted : session.At head)
    (formed : LibSrtp.WellFormed plain)
    (found : LibSrtp.packetIndex head (LibSrtp.rtpSeq plain) = index) (ahead : head < index)
    (media : isMedia arrival.datagram = true)
    (payload : arrival.datagram.payload = LibSrtp.protect gcrypt session index plain) :
    ∃ result after acts incoming,
      loopTurn gcrypt shifts session arrival srtp = (result, after, acts) ∧
        rescued result = true ∧ Attends srtp after acts ∧
        fed acts = [(((LibSrtp.rtpSeq plain).toNat : Int),
          plain.drop 12 ++ LibSrtp.tagOf gcrypt session index plain)] ∧
        arrival.incoming gcrypt shifts session acts = incoming ∧
        incoming.At index ∧ LibSrtp.SameKeys session incoming := by
  have accepted := LibSrtp.accept_of_lt shifts
    (LibSrtp.srtpComputeRoc session (LibSrtp.rtpSeq plain)) counted (found ▸ ahead)
  have reached := LibSrtp.at_ahead shifts
    (LibSrtp.packetIndex head (LibSrtp.rtpSeq plain) - head) counted (LibSrtp.rtpSeq plain)
  have same := LibSrtp.SameKeys.of_accept accepted
  obtain ⟨next, still, feeding⟩ :=
    feeds_accepted unmarked counted formed found accepted media payload
  have twelve : 12 ≤ arrival.datagram.payload.length := by
    have header := (LibSrtp.le_headerLength plain).trans formed.whole
    obtain ⟨length, -⟩ := LibSrtp.protect_parts gcrypt session index formed
    rw [payload, length]
    omega
  obtain ⟨returned, unreached⟩ := @run_process_of_media (arrival.received gcrypt shifts session)
    { srtp with clientAddr := some arrival.address } media codec twelve still
  rcases turn : loopTurn gcrypt shifts session arrival srtp with ⟨result, after, acts⟩
  obtain ⟨attends, fed_turn⟩ := loopTurn_feeds turn
  have kept := incoming_of_loopTurn turn unreached
  rw [media, if_pos rfl, next] at kept
  have goesOn : (loopTurn gcrypt shifts session arrival srtp).1 = .ok () := returned
  rw [turn] at goesOn
  obtain rfl : result = .ok () := goesOn
  subst found
  exact ⟨_, after, acts, _, rfl, rfl, attends, fed_turn.trans feeding, kept, reached, same⟩

/-- What is fed for protected packets that are ahead, whatever passes in between. -/
theorem run_listen (gcrypt : LibSrtp.Gcrypt) (shifts : LibSrtp.Shifts)
    {sender : LibSrtp.Session} (keys : LibSrtp.SameKeys sender session)
    (unmarked : LibSrtp.rccMode session.flags = 0) {head : Int} (counted : session.At head)
    {srtp : Srtp} (codec : srtp.encoder = .muLaw) (running : srtp.teardown = false)
    {packets : List LibSrtp.Indexed}
    (ascending : LibSrtp.Ascends head (packets.map LibSrtp.Indexed.index))
    {arrivals : List Arrival}
    (others : ∀ arrival ∈ arrivals, isMedia arrival.datagram = true ∨ Passing arrival.datagram)
    (media : ((arrivals.map Arrival.datagram).filter isMedia).map Datagram.payload =
      packets.map (LibSrtp.Indexed.wire gcrypt sender)) :
    Heard gcrypt shifts session arrivals srtp (packets.map fun packet =>
      (((LibSrtp.rtpSeq packet.plain).toNat : Int),
        packet.plain.drop 12 ++ LibSrtp.tagOf gcrypt sender packet.index packet.plain)) := by
  induction arrivals generalizing session head srtp packets with
  | nil =>
      obtain rfl : packets = [] := by simpa using media.symm
      exact heard_nil session srtp
  | cons arrival arrivals ih =>
      obtain ⟨first, later⟩ := List.forall_mem_cons.mp others
      rcases first with here | passing
      · rw [List.map_cons, List.filter_cons_of_pos here, List.map_cons] at media
        cases packets with
        | nil => simp at media
        | cons packet packets =>
            obtain ⟨payload, rest⟩ := List.cons.inj media
            obtain ⟨ahead, near, ascends⟩ := ascending
            have found := LibSrtp.packetIndex_eq packet.carried
              (show head - 32768 ≤ packet.index by omega) near
            obtain ⟨result, after, acts, incoming, turn, goesOn, attends, feeding, rfl, reached,
              same⟩ := loopTurn_of_media shifts codec unmarked counted packet.formed
                found ahead here (payload.trans (keys.protect packet.index packet.plain))
            rw [← keys.tagOf] at feeding
            exact .cons turn goesOn running attends feeding (ih (keys.trans same)
              (same.flags ▸ unmarked) reached (attends.encoder.trans codec)
                (attends.teardown.trans running) ascends later rest)
      · have taken : ((arrivals.map Arrival.datagram).filter isMedia).map Datagram.payload =
            packets.map (LibSrtp.Indexed.wire gcrypt sender) := by
          rwa [List.map_cons, List.filter_cons_of_neg (by simp [passing.notMedia])] at media
        obtain ⟨result, after, acts, turn, goesOn, attends, feeding, next⟩ :=
          @loopTurn_of_passing gcrypt shifts arrival passing session srtp
        refine .cons turn goesOn running attends feeding ?_
        rw [next]
        exact ih keys unmarked counted (attends.encoder.trans codec)
          (attends.teardown.trans running) ascending later taken

/-- The first packet is lost, and the next two arrive. -/
def peerEvents : List (LibSrtp.Indexed × Bool) :=
  [(.sample 7, false), (.sample 8, true), (.sample 10, true)]

/-- The session of the peer for packets sent. -/
def specPeer : LibSrtp.Session :=
  let ptrs := srtpKeyMaterialExtract { specMaterial with ispassive := .act }
  (keyedSession .standard ptrs.localkey ptrs.localsalt).toOption.get rfl

/-- What the peer sends of these packets. -/
def peerDatagrams : List Bytes :=
  LibSrtp.arrive ((LibSrtp.sendAll .standard .modular (List.replicate 10 0) specPeer
    (peerEvents.map fun event => event.1.plain)).map LibSrtp.Result.packet)
      (peerEvents.map Prod.snd)

/-- A datagram from the peer. -/
def arrivalOf (payload : Bytes) : Arrival :=
  ⟨⟨"10.0.0.1".toList, 4000⟩, sampleDatagram payload, specPeer⟩

/-- A sender report comes first. -/
def peerArrivals : List Arrival := arrivalOf [0x80, 0xc8] :: peerDatagrams.map arrivalOf

end Srtp
end Transport
end Contest
